import Flosp.Kernel.Ps2

/-! Devices that acknowledge everything at once let an identification return. -/

namespace Flosp.Kernel

open Interaction

/-- While `ready` holds, output may be shown at any time, every byte may be 0xFA and no tick
may pass. -/
structure Prompt {S : Type} (step : DriverEvent → S → S → Prop) (ready : S → Prop) : Prop where
  status : ∀ s, ready s → ∃ s', step ⟨.inb ps2StatusPort, (1 : BitVec 8)⟩ s s' ∧ ready s'
  data : ∀ s, ready s → ∃ s', step ⟨.inb ps2DataPort, ps2Ack⟩ s s' ∧ ready s'
  ticks : ∀ reader s, reader ≠ .waitCheck → ready s →
    ∃ s', step ⟨.readTicks reader, (0 : BitVec 64)⟩ s s' ∧ ready s'
  outb : ∀ port value s, ready s → ∃ s', step ⟨.outb port value, ()⟩ s s' ∧ ready s'
  console : ∀ call s, ready s → ∃ s', step ⟨.console call, ()⟩ s s' ∧ ready s'

section Prompt

variable {S : Type} {step : DriverEvent → S → S → Prop} {ready : S → Prop}
  (prompt : Prompt step ready) {s : S} {g : Ps2} {port : BitVec 8}

include prompt

theorem console_prompt (call : ConsoleCall) (now : ready s) :
    Task.Possible step (console call) s fun _ s' => ready s' := by
  obtain ⟨s', moves, now'⟩ := prompt.console call s now
  exact Task.possible_op.mpr ⟨(), s', moves, Task.possible_ret.mpr now'⟩

theorem outb_prompt (p : Port) (value : BitVec 8) (now : ready s) :
    Task.Possible step (outb p value) s fun _ s' => ready s' := by
  obtain ⟨s', moves, now'⟩ := prompt.outb p value s now
  exact Task.possible_op.mpr ⟨(), s', moves, Task.possible_ret.mpr now'⟩

theorem ticks_prompt {reader : TickReader} (other : reader ≠ .waitCheck) (now : ready s) :
    Task.Possible step (getUptimeTicks reader) s fun _ s' => ready s' := by
  obtain ⟨s', moves, now'⟩ := prompt.ticks reader s other now
  exact Task.possible_op.mpr ⟨_, s', moves, Task.possible_ret.mpr now'⟩

theorem status_prompt (now : ready s) :
    Task.Possible step (inb ps2StatusPort) s fun status s' => status = 1 ∧ ready s' := by
  obtain ⟨s', moves, now'⟩ := prompt.status s now
  exact Task.possible_op.mpr ⟨_, s', moves, Task.possible_ret.mpr ⟨rfl, now'⟩⟩

theorem inputBuffer_prompt (now : ready s) :
    Task.Possible step (Task.whileDo inputBufferFull (return ())) s fun _ s' => ready s' := by
  refine .unroll (Task.possible_bind.mpr (Task.possible_bind.mpr ?_))
  apply (status_prompt prompt now).mono
  intro status s' read
  rw [read.1]
  exact Task.possible_ret.mpr (Task.possible_ret.mpr read.2)

theorem awaitOutputBuffer_prompt (reader : TickReader) (start : BitVec 64) (now : ready s) :
    Task.Possible step (awaitOutputBuffer reader start) s fun timedOut s' =>
      timedOut = false ∧ ready s' := by
  refine .unroll (Task.possible_bind.mpr (Task.possible_bind.mpr ?_))
  apply (status_prompt prompt now).mono
  intro status s' read
  rw [read.1]
  exact Task.possible_ret.mpr (Task.possible_ret.mpr ⟨rfl, read.2⟩)

theorem sendCmd_prompt (cmd : BitVec 8) (now : ready s) :
    Task.Possible step (ps2SendCmd cmd) s fun _ s' => ready s' :=
  Task.possible_bind.mpr ((inputBuffer_prompt prompt now).mono fun _ _ now' =>
    outb_prompt prompt _ cmd now')

theorem portWriteData_prompt (b : BitVec 8) (now : ready s) :
    Task.Possible step (ps2PortWriteData g port b) s fun _ s' => ready s' := by
  rw [ps2PortWriteData_eq]
  split
  · exact Task.possible_bind.mpr ((console_prompt prompt _ now).mono fun _ _ now' =>
      Task.possible_ret.mpr now')
  · have selected : Task.Possible step (selectPort port) s fun _ s' => ready s' := by
      unfold selectPort
      split
      · exact sendCmd_prompt prompt _ now
      · exact Task.possible_ret.mpr now
    apply selected.bind
    intro _ s₁ now₁
    apply (ticks_prompt prompt (by decide) now₁).bind
    intro start s₂ now₂
    rcases prompt.status s₂ now₂ with ⟨s₃, reads, now₃⟩
    apply (awaitInputBuffer_possible reads start).bind
    intro timedOut _ waited
    rcases waited with ⟨rfl, rfl⟩
    rw [if_neg Bool.false_ne_true]
    apply Task.possible_bind.mpr
    apply Task.possible_bind.mpr
    apply (inputBuffer_prompt prompt now₃).mono
    intro _ s₄ now₄
    exact (outb_prompt prompt _ b now₄).mono fun _ s₅ now₅ => Task.possible_ret.mpr now₅

theorem polRecieveByte_prompt (now : ready s) :
    Task.Possible step (ps2PolRecieveByte g) s fun r s' => r = (ps2Ack, g) ∧ ready s' := by
  apply (ticks_prompt prompt (by decide) now).bind
  intro start s₁ now₁
  apply (awaitOutputBuffer_prompt prompt _ start now₁).bind
  intro timedOut s₂ now₂
  rw [now₂.1, if_neg Bool.false_ne_true]
  obtain ⟨s', moves, now'⟩ := prompt.data s₂ now₂.2
  exact Task.possible_op.mpr ⟨_, s', moves, Task.possible_ret.mpr ⟨rfl, now'⟩⟩

theorem waitForAck_prompt (cmd : BitVec 8) (now : ready s) :
    Task.Possible step (ps2WaitForAck g port cmd) s fun r s' => r = (0, g) ∧ ready s' := by
  apply (ticks_prompt prompt (by decide) now).bind
  intro start s₁ now₁
  apply Task.Possible.unroll
  apply Task.possible_bind.mpr
  apply (polRecieveByte_prompt prompt now₁).mono
  intro r s₂ got
  rw [got.1]
  exact Task.possible_ret.mpr ⟨rfl, got.2⟩

theorem enableScanning_prompt (now : ready s) :
    Task.Possible step (enableScanning port g) s fun g' s' => g' = g ∧ ready s' := by
  apply (portWriteData_prompt prompt _ now).bind
  intro _ s₁ now₁
  apply (waitForAck_prompt prompt _ now₁).bind
  intro r s₂ got
  rw [got.1]
  exact Task.possible_ret.mpr ⟨rfl, got.2⟩

/-- A turn of the loop for the identity. An error that is still flagged ends it. -/
theorem retrieveByte_prompt {response : Ps2Response} (more : response.byteCount ≠ 2)
    (now : ready s) :
    Task.Possible step (retrieveByte port (response, g)) s fun x s' => ready s' ∧
      x = if g.ps2Error then .inr (false, response, { g with ps2Error := false })
        else .inl (⟨response.byteCount + 1,
          response.data.setIfInBounds response.byteCount.toNat ps2Ack⟩, g) := by
  unfold retrieveByte
  dsimp only
  rw [if_neg more]
  apply (ticks_prompt prompt (by decide) now).bind
  intro start s₁ now₁
  apply (awaitOutputBuffer_prompt prompt _ start now₁).bind
  intro timedOut s₂ now₂
  rw [now₂.1, if_neg Bool.false_ne_true]
  apply (polRecieveByte_prompt prompt now₂.2).bind
  intro r s₃ got
  rw [got.1]
  unfold ps2CheckError
  cases failed : g.ps2Error with
  | true => exact Task.possible_ret.mpr ⟨got.2, rfl⟩
  | false => exact Task.possible_ret.mpr ⟨got.2, rfl⟩

/-- What an identification of such a device gives. -/
def promptIdentity (g : Ps2) : Ps2Response × Ps2 :=
  if g.ps2Error then (Ps2Response.empty, { g with ps2Error := false })
  else (⟨2, #v[ps2Ack, ps2Ack, 0]⟩, g)

/-- Once the first byte is sent, the identification may return. -/
theorem portIdentify_prompt
    (first : Task.Possible step (ps2PortWriteData g port ps2DisableScanning) s fun _ s' => ready s') :
    Task.Possible step (ps2PortIdentify port g) s fun r s' =>
      r = promptIdentity g ∧ ready s' := by
  apply first.bind
  intro _ s₁ now₁
  apply (waitForAck_prompt prompt _ now₁).bind
  intro r s₂ got
  rw [got.1]
  dsimp only
  rw [if_neg (by decide)]
  apply (portWriteData_prompt prompt _ got.2).bind
  intro _ s₃ now₃
  apply (waitForAck_prompt prompt _ now₃).bind
  intro r s₄ got₄
  rw [got₄.1]
  have turn₁ : Task.Possible step (retrieveByte port (⟨0, #v[0, 0, 0]⟩, g)) s₄ _ :=
    retrieveByte_prompt prompt (by decide) got₄.2
  unfold promptIdentity
  cases failed : g.ps2Error with
  | true =>
      have retrieved : Task.Possible step
          (Task.iterate (retrieveByte port) (⟨0, #v[0, 0, 0]⟩, g)) s₄ fun r s' =>
            r = (false, ⟨0, #v[0, 0, 0]⟩, { g with ps2Error := false }) ∧ ready s' := by
        apply Task.Possible.unroll
        apply turn₁.mono
        intro x s₅ turn
        rw [turn.2, failed]
        exact ⟨rfl, turn.1⟩
      apply retrieved.bind
      intro r s₅ got₅
      rw [got₅.1]
      exact Task.possible_ret.mpr ⟨rfl, got₅.2⟩
  | false =>
      have retrieved : Task.Possible step
          (Task.iterate (retrieveByte port) (⟨0, #v[0, 0, 0]⟩, g)) s₄ fun r s' =>
            r = (true, ⟨2, #v[ps2Ack, ps2Ack, 0]⟩, g) ∧ ready s' := by
        apply Task.Possible.unroll
        apply turn₁.mono
        intro x s₅ turn
        rw [turn.2, failed]
        apply Task.Possible.unroll
        apply (retrieveByte_prompt prompt (by decide) turn.1).mono
        intro x s₆ turn₂
        rw [turn₂.2, failed]
        exact Task.Possible.unroll (Task.possible_ret.mpr ⟨rfl, turn₂.1⟩)
      apply retrieved.bind
      intro r s₅ got₅
      rw [got₅.1]
      apply (enableScanning_prompt prompt got₅.2).bind
      intro g' s₆ got₆
      rw [got₆.1]
      exact Task.possible_ret.mpr ⟨rfl, got₆.2⟩

end Prompt

end Flosp.Kernel
