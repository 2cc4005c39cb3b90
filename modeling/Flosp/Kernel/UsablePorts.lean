import Flosp.Kernel.PortSetup
import Flosp.Kernel.PromptDevice
import Flosp.Kernel.ErrorFlag

/-! Which controllers `ps2_init` enables the right ports of. -/

namespace Flosp.Kernel

open Interaction

def ControllerKind.port1Passed (k : ControllerKind) : Bool := decide (k.port1Test = ps2PortTestPass)

def ControllerKind.port2Passed (k : ControllerKind) : Bool :=
  k.dualChannel && decide (k.port2Test = ps2PortTestPass)

/-- A port is usable and the configuration byte that was written last is as it should be. -/
structure RightlyEnabled (k : ControllerKind) (dualChannel : Bool) (written : Option (BitVec 8)) :
    Prop where
  usable : k.port1Passed ∨ k.port2Passed
  configured : ∃ config, written = some config ∧ config.getLsbD 0 = k.port1Passed ∧
    config.getLsbD 1 = (dualChannel && k.port2Passed) ∧ config.getLsbD 6 = false

/-- `ps2_init` enables the usable ports of the controller, and it fails if there is none. -/
structure EnablesUsable (k : ControllerKind) (config : BitVec 8) (pending : List (BitVec 8)) :
    Prop where
  enabled : ∀ busy, Task.Satisfies (controllerStep k) (ps2Init Ps2.loaded)
    (.initial config pending busy) fun r s =>
      r.1 = 0 → RightlyEnabled k r.2.dualChannel s.controller.written
  refused : k.port1Passed = false → k.port2Passed = false → ∀ busy,
    Task.Ensures (controllerStep k) (ps2Init Ps2.loaded) (.initial config pending busy)
      fun r _ => r.1 ≠ 0

/-- The controllers that `ps2_init` sets up as it should. -/
def ControllerKind.WellHandled (k : ControllerKind) (config : BitVec 8) : Prop :=
  if k.controllerTest = ps2ControllerTestFail then True
  else if k.controllerTest ≠ ps2ControllerTestPass then k.port1Passed ∨ k.port2Passed
  else if portFlag k.port1Test = some 0 then k.detected config
  else k.port2Passed

/-! While the devices are identified no configuration byte is written. -/

/-- Every operation but the command that announces a configuration byte. -/
def KeepsConfig (o : Op) : Prop := o ≠ .outb ps2CommandPort ps2WriteConfigByte

section Keeps

variable {g : Ps2} {port : BitVec 8}

theorem allowsTransfer_keeps : AllowsTransfer KeepsConfig where
  status := nofun
  ticks _ := nofun
  console _ := nofun
  send _ := by simp [KeepsConfig, ps2DataPort, ps2CommandPort]
  select := by simp [KeepsConfig, ps2WriteByteInputPort2, ps2WriteConfigByte]

theorem console_keeps (call : ConsoleCall) : Task.Only KeepsConfig (console call) :=
  Task.only_perform.mpr nofun

theorem portIdentify_keeps : Task.Only KeepsConfig (ps2PortIdentify port g) :=
  portIdentify_only allowsTransfer_keeps nofun port g

theorem printIdentity_keeps (message : String) (identity : Ps2Response) :
    Task.Only KeepsConfig (printIdentity message identity) := by
  have bytes (turns i : Nat) : Task.Only KeepsConfig (printIdentityFrom identity turns i) := by
    induction turns generalizing i with
    | zero => trivial
    | succ turns ih =>
        unfold printIdentityFrom
        dsimp only
        split
        · exact console_keeps _
        · exact (console_keeps _).bind fun _ => (console_keeps _).bind fun _ => ih _
  exact (console_keeps _).bind fun _ => (bytes _ _).bind fun _ => console_keeps _

theorem identifyPorts_keeps : Task.Only KeepsConfig (identifyPorts g) := by
  apply (console_keeps _).bind
  intro _
  apply portIdentify_keeps.bind
  intro r₁
  apply (printIdentity_keeps _ _).bind
  intro _
  apply portIdentify_keeps.bind
  intro r₂
  exact (printIdentity_keeps _ _).bind fun _ => trivial

end Keeps

section Written

variable {k : ControllerKind} {c : Controller} {s : Ps2Hardware} {w : Option (BitVec 8)}

theorem data_keeps (device : c.target ≠ .configByte) (value : BitVec 8) :
    (c.data value).target ≠ .configByte ∧ (c.data value).written = c.written := by
  unfold Controller.data
  split
  · contradiction
  · exact ⟨nofun, rfl⟩
  · exact ⟨nofun, rfl⟩

theorem command_keeps {cmd : BitVec 8} (other : cmd ≠ ps2WriteConfigByte) :
    (c.command k cmd).target ≠ .configByte ∧ (c.command k cmd).written = c.written := by
  refine ⟨?_, rfl⟩
  change k.target cmd ≠ _
  unfold ControllerKind.target
  rw [if_neg other]
  split <;> exact nofun

/-- Whatever the devices answer, the last configuration byte stays the one it was. -/
theorem identifyPorts_written (g : Ps2) (device : s.controller.target ≠ .configByte) :
    Task.Satisfies (controllerStep k) (identifyPorts g) s fun _ s' =>
      s'.controller.target ≠ .configByte ∧ s'.controller.written = s.controller.written := by
  refine identifyPorts_keeps.satisfies (I := fun s' : Ps2Hardware =>
    s'.controller.target ≠ .configByte ∧ s'.controller.written = s.controller.written)
    (fun e keeps u u' step holds => ?_) ⟨device, rfl⟩
  obtain ⟨o, reply⟩ := e
  cases o with
  | inb port =>
      simp only [controllerStep] at step
      split at step
      · rw [step.1]
        exact holds
      · split at step
        · rw [step.1]
          exact holds
        · rw [step]
          exact holds
  | outb port value =>
      simp only [controllerStep] at step
      split at step
      · rename_i command
        have other : value ≠ ps2WriteConfigByte := fun same => keeps (by rw [command, same])
        have kept := command_keeps (k := k) (c := u.controller) other
        rw [step.1, kept.2]
        exact ⟨kept.1, holds.2⟩
      · split at step
        · have kept := data_keeps holds.1 value
          rw [step.1, kept.2]
          exact ⟨kept.1, holds.2⟩
        · rw [step]
          exact holds
  | load | store | loadVolatile | storeVolatile | readTicks | enableLapicTimer | console | lidt
  | sti =>
      rw [show u' = u from step]
      exact holds

end Written

/-! Devices that answer let the identification return. -/

section Answering

variable {k : ControllerKind} {c : Controller} {s : Ps2Hardware} {g : Ps2} {port : BitVec 8}

/-- A byte for the data port would go to a device. -/
def Ps2Hardware.AtDevice (s : Ps2Hardware) : Prop :=
  s.addressed = true ∨ s.controller.target ≠ .configByte

theorem prompt_addressed (k : ControllerKind) :
    Prompt (controllerStep k) fun s => s.addressed = true where
  status s addressed := ⟨s.tick, by simp [controllerStep, addressed], addressed⟩
  data s addressed := by
    have other : ps2DataPort ≠ ps2StatusPort := by decide
    exact ⟨s.read, by simp [controllerStep, other, addressed], addressed⟩
  ticks _ s _ addressed := ⟨s, rfl, addressed⟩
  outb port value s addressed := by
    simp only [controllerStep]
    split
    · exact ⟨⟨_, true, 0, 0⟩, ⟨rfl, addressed.symm, fun _ => Nat.zero_le _⟩, rfl⟩
    · split
      · exact ⟨⟨_, true, 0, 0⟩, ⟨rfl, by simp [addressed], fun _ => Nat.zero_le _⟩, rfl⟩
      · exact ⟨s, rfl, addressed⟩
  console _ s addressed := ⟨s, rfl, addressed⟩

theorem ticks_possible (reader : TickReader) (ticks : BitVec 64) :
    Task.Possible (controllerStep k) (getUptimeTicks reader) s fun now s' =>
      now = ticks ∧ s' = s :=
  Task.possible_op.mpr ⟨ticks, s, rfl, Task.possible_ret.mpr ⟨rfl, rfl⟩⟩

theorem inputBuffer_possible :
    Task.Possible (controllerStep k) (Task.whileDo inputBufferFull (return ())) s
      fun _ s' => Later s s' := by
  cases addressed : s.addressed with
  | false => exact (inputBuffer_ensures ⟨rfl, addressed⟩).possible
  | true =>
      have shows_ : controllerStep k ⟨.inb ps2StatusPort, (1 : BitVec 8)⟩ s s.tick := by
        simp [controllerStep, addressed]
      refine Task.Possible.unroll (Task.possible_bind.mpr (Task.possible_op.mpr
        ⟨(1 : BitVec 8), s.tick, shows_, Task.possible_ret.mpr ?_⟩))
      exact Task.possible_ret.mpr (Later.refl s).tick

theorem sendCmd_possible (cmd : BitVec 8) :
    Task.Possible (controllerStep k) (ps2SendCmd cmd) s fun _ s' =>
      s'.addressed = s.addressed ∧ s'.controller.target = k.target cmd := by
  apply inputBuffer_possible.bind
  intro _ s₁ later
  refine Task.possible_op.mpr
    ⟨(), ⟨s₁.controller.command k cmd, s₁.addressed, 0, 0⟩, ?_, Task.possible_ret.mpr ?_⟩
  · simp [controllerStep, Ps2Hardware.Takes]
  · exact ⟨later.addressed, rfl⟩

theorem writeData_possible (device : s.AtDevice) (b : BitVec 8) :
    Task.Possible (controllerStep k) (ps2WriteData b) s fun _ s' => s'.addressed = true := by
  apply inputBuffer_possible.bind
  intro _ s₁ later
  have other : ps2DataPort ≠ ps2CommandPort := by decide
  let addressed := s₁.addressed || decide (s₁.controller.target ≠ .configByte)
  refine Task.possible_op.mpr
    ⟨(), ⟨s₁.controller.data b, addressed, 0, 0⟩, ?_, Task.possible_ret.mpr ?_⟩
  · simp [controllerStep, other, Ps2Hardware.Takes, addressed]
  · simpa [Ps2Hardware.AtDevice, addressed, later.addressed, later.controller] using device

theorem portWriteData_possible (valid : ¬ g.InvalidPort port) (device : s.AtDevice) (b : BitVec 8) :
    Task.Possible (controllerStep k) (ps2PortWriteData g port b) s
      fun _ s' => s'.addressed = true := by
  rw [ps2PortWriteData_eq, if_neg valid]
  have selected : Task.Possible (controllerStep k) (selectPort port) s fun _ s' => s'.AtDevice := by
    unfold selectPort
    split
    · refine (sendCmd_possible _).mono fun _ s' sent => .inr ?_
      rw [sent.2, ControllerKind.target, if_neg (by decide)]
      split <;> exact nofun
    · exact Task.possible_ret.mpr device
  apply selected.bind
  intro _ s₁ device₁
  apply (ticks_possible _ 0).bind
  intro start s₂ same
  rcases same with ⟨-, rfl⟩
  rcases showsStatus_exists s₂ with ⟨status, shows_⟩
  have reads : controllerStep k ⟨.inb ps2StatusPort, status⟩ s₂ s₂.tick := by
    simp [controllerStep, shows_]
  apply (awaitInputBuffer_possible reads start).bind
  intro timedOut s₃ waited
  rcases waited with ⟨rfl, rfl⟩
  rw [if_neg Bool.false_ne_true]
  have device₂ : s₂.tick.AtDevice := device₁
  apply (writeData_possible device₂ b).bind
  intro _ s₄ addressed
  exact Task.possible_ret.mpr addressed

theorem portIdentify_possible (valid : ¬ g.InvalidPort port) (device : s.AtDevice) :
    Task.Possible (controllerStep k) (ps2PortIdentify port g) s fun r s' =>
      s'.addressed = true ∧ r.2.port2 = g.port2 := by
  have first := portWriteData_possible (k := k) valid device ps2DisableScanning
  apply (portIdentify_prompt (prompt_addressed k) first).mono
  intro r s' returned
  refine ⟨returned.2, ?_⟩
  rw [returned.1, promptIdentity]
  split <;> rfl

theorem polRecieveByte_silent (ready : Ready c s) (empty : c.output = []) :
    Task.Possible (controllerStep k) (ps2PolRecieveByte g) s fun r s' =>
      r = (1, { g with ps2Error := true }) ∧ Ready c s' := by
  apply (ticks_possible _ 0).bind
  intro start s₁ same
  rw [same.1, same.2]
  have waited : Task.Possible (controllerStep k) (awaitOutputBuffer .polRecieveByte 0) s
      fun timedOut s' => timedOut = true ∧ Ready c s' := by
    apply Task.Possible.unroll
    apply Task.possible_bind.mpr
    refine (status_ensures ready fun status shows_ => ?_).possible
    have none : status &&& 0b1 = 0 := by
      by_contra some
      exact (shows_.1.mp some).1 (ready.controller ▸ empty)
    rw [decide_eq_true none, if_pos rfl]
    apply (ticks_possible _ 100).bind
    intro now s₂ same₂
    rw [same₂.1, same₂.2, if_pos (by decide)]
    exact Task.possible_ret.mpr ⟨rfl, ready.tick⟩
  apply waited.bind
  intro timedOut s₂ now
  rw [now.1, if_pos rfl]
  apply Task.Ensures.possible
  apply console_ensures
  exact .ret ⟨rfl, now.2⟩

theorem waitForAck_silent (cmd : BitVec 8) (ready : Ready c s) (empty : c.output = []) :
    Task.Possible (controllerStep k) (ps2WaitForAck g port cmd) s fun r s' =>
      r = (1, { g with ps2Error := false }) ∧ Ready c s' := by
  apply (ticks_possible _ 0).bind
  intro start s₁ same
  rw [same.2]
  apply Task.Possible.unroll
  apply (polRecieveByte_silent ready empty).bind
  intro r s₂ got
  rw [got.1]
  exact Task.possible_ret.mpr ⟨rfl, got.2⟩

/-- Nothing is sent to a port that failed, and the wait for its answer times out. -/
theorem portIdentify_fails (invalid : g.InvalidPort port) (ready : Ready c s)
    (empty : c.output = []) :
    Task.Possible (controllerStep k) (ps2PortIdentify port g) s fun r s' =>
      Ready c s' ∧ r.2.port2 = g.port2 := by
  have refused : Task.Possible (controllerStep k) (ps2PortWriteData g port ps2DisableScanning) s
      fun _ s' => s' = s := by
    rw [ps2PortWriteData_eq, if_pos invalid]
    apply Task.Ensures.possible
    apply console_ensures
    exact .ret rfl
  apply refused.bind
  intro _ s₁ same
  rw [same]
  apply (waitForAck_silent _ ready empty).bind
  intro r s₂ got
  rw [got.1]
  exact Task.possible_ret.mpr ⟨got.2, rfl⟩

theorem printIdentity_ensures (message : String) (identity : Ps2Response) :
    Task.Ensures (controllerStep k) (printIdentity message identity) s fun _ s' => s' = s := by
  have bytes (turns i : Nat) : Task.Ensures (controllerStep k)
      (printIdentityFrom identity turns i) s fun _ s' => s' = s := by
    induction turns generalizing i with
    | zero => exact .ret rfl
    | succ turns ih =>
        unfold printIdentityFrom
        dsimp only
        split
        · exact console_quiet
        · exact console_ensures (console_ensures (ih _))
  apply console_ensures
  apply (bytes _ _).bind
  intro _ s₁ same
  rw [same]
  exact console_quiet

theorem identifyPorts_possible (port2 : g.port2 ≠ 0) (ready : Ready c s) (empty : c.output = [])
    (device : c.target = .device) :
    Task.Possible (controllerStep k) (identifyPorts g) s fun _ _ => True := by
  have atDevice {s : Ps2Hardware} (ready : Ready c s) : s.AtDevice := .inr (by
    rw [ready.controller, device]
    exact nofun)
  have first : Task.Possible (controllerStep k) (ps2PortIdentify 1 g) s fun r s' =>
      s'.AtDevice ∧ r.2.port2 ≠ 0 := by
    by_cases invalid : g.InvalidPort 1
    · apply (portIdentify_fails invalid ready empty).mono
      intro r s₁ failed
      exact ⟨atDevice failed.1, by rw [failed.2]; exact port2⟩
    · apply (portIdentify_possible invalid (atDevice ready)).mono
      intro r s₁ returned
      exact ⟨.inl returned.1, by rw [returned.2]; exact port2⟩
  apply console_quiet.possible_bind
  intro _ s₀ same
  subst same
  apply first.bind
  intro r s₁ returned
  obtain ⟨identity1, g₁⟩ := r
  apply (printIdentity_ensures _ _).possible_bind
  intro _ s₂ same
  rw [same]
  have valid : ¬ Ps2.InvalidPort { g₁ with identity1 } 2 := by
    rintro (⟨-, zero⟩ | ⟨absurd, -⟩)
    · exact returned.2 zero
    · revert absurd
      decide
  apply (portIdentify_possible valid returned.1).bind
  intro r s₃ _
  apply (printIdentity_ensures _ _).possible_bind
  intro _ s₄ _
  exact Task.possible_ret.mpr trivial

end Answering

section Globals

variable {S : Type} {step : DriverEvent → S → S → Prop} {s : S}

theorem identifyPorts_dualChannel (g : Ps2) :
    Task.Satisfies step (identifyPorts g) s fun g' _ => g'.dualChannel = g.dualChannel := by
  have kept {g g' : Ps2} (same : SameButError g g') : g'.dualChannel = g.dualChannel := by
    obtain ⟨_, rfl⟩ := same
    rfl
  apply after_any
  intro _ s₁
  refine then_same (fun r : Ps2Response × Ps2 => r.2) (portIdentify_same g)
    fun ⟨identity1, g₁⟩ s₂ same₁ => after_any fun _ s₃ => ?_
  refine Task.satisfies_bind.mpr ((portIdentify_same _).mono
    fun ⟨identity2, g₂⟩ s₄ same₂ => after_any fun _ s₅ => ?_)
  have first : g₁.dualChannel = g.dualChannel := kept same₁
  exact Task.satisfies_ret.mpr ((kept same₂).trans first)

end Globals

section Results

variable {k : ControllerKind} {config c : BitVec 8} {w : Option (BitVec 8)} {s : Ps2Hardware}
  {g : Ps2}

theorem bringUp_refuses (none1 : g.port1 = 0) (none2 : g.port2 = 0) :
    Task.Ensures (controllerStep k) (bringUp g) s fun r _ => r.1 = 1 := by
  unfold bringUp
  rw [if_pos ⟨none1, none2⟩]
  exact console_ensures (.ret rfl)

/-- The byte that is written last is for the flags, and identification leaves it. -/
theorem bringUp_configures (some2 : g.port2 ≠ 0) (masked : Masked k config c)
    (ready : Ready (idle c w) s) :
    Task.Satisfies (controllerStep k) (bringUp g) s fun r s' =>
      r.2.dualChannel = g.dualChannel ∧
        ∃ last, s'.controller.written = some last ∧ Enabled g last := by
  unfold bringUp
  rw [if_neg fun none => some2 none.2]
  refine (enablePorts_ensures masked ready).satisfies_bind fun _ s₁ enabled => ?_
  obtain ⟨last, enabled, ready₁⟩ := enabled
  have device : s₁.controller.target ≠ .configByte := by
    rw [ready₁.controller]
    exact nofun
  refine Task.satisfies_bind.mpr fun t g' s₂ run follows => Task.satisfies_ret.mpr ⟨?_, last, ?_, enabled⟩
  · exact identifyPorts_dualChannel g t g' s₂ run follows
  · rw [(identifyPorts_written g device t g' s₂ run follows).2, ready₁.controller]
    rfl

theorem bringUp_possible (some2 : g.port2 ≠ 0) (masked : Masked k config c)
    (ready : Ready (idle c w) s) :
    Task.Possible (controllerStep k) (bringUp g) s fun r _ => r.1 = 0 := by
  unfold bringUp
  rw [if_neg fun none => some2 none.2]
  apply (enablePorts_ensures masked ready).possible_bind
  intro _ s₁ enabled
  obtain ⟨last, -, ready₁⟩ := enabled
  apply (identifyPorts_possible some2 ready₁ rfl rfl).bind
  intro _ _ _
  exact Task.possible_ret.mpr rfl

theorem portFlag_known (r : BitVec 8) :
    r = ps2PortTestPass ∧ portFlag r = some 1 ∨
      r ≠ ps2PortTestPass ∧ (portFlag r = some 0 ∨ portFlag r = none) := by
  unfold portFlag
  by_cases pass : r = ps2PortTestPass
  · exact .inl ⟨pass, if_pos pass⟩
  · refine .inr ⟨pass, ?_⟩
    rw [if_neg pass]
    split
    · exact .inl rfl
    · exact .inr rfl

variable {pending : List (BitVec 8)} {busy : Nat}

/-- Where the probe never returns, `ps2_init` does not either. -/
theorem ps2Init_waits
    (unknown : (k.controllerTest ≠ ps2ControllerTestPass ∧
        k.controllerTest ≠ ps2ControllerTestFail) ∨
      k.controllerTest = ps2ControllerTestPass ∧ portFlag k.port1Test = none) :
    Task.Satisfies (controllerStep k) (ps2Init Ps2.loaded) (.initial config pending busy)
      fun _ _ => False := by
  rw [ps2Init_eq]
  exact Task.satisfies_bind.mpr ((probe_waits unknown pending busy).mono fun _ _ never => never.elim)

theorem enablesUsable_of_waiting
    (waits : ∀ busy, Task.Satisfies (controllerStep k) (ps2Init Ps2.loaded)
      (.initial config pending busy) fun _ _ => False) :
    EnablesUsable k config pending ↔ k.port1Passed ∨ k.port2Passed := by
  constructor
  · intro usable
    by_contra none
    rw [not_or, Bool.not_eq_true, Bool.not_eq_true] at none
    obtain ⟨_, _, -, never⟩ :=
      (usable.refused none.1 none.2 0).possible.meets (waits 0)
    exact never
  · intro passed
    refine ⟨fun busy => (waits busy).mono fun _ _ never => never.elim, fun none1 none2 => ?_⟩
    simp [none1, none2] at passed

theorem enablesUsable_of_refusing
    (refuses : ∀ busy, Task.Ensures (controllerStep k) (ps2Init Ps2.loaded)
      (.initial config pending busy) fun r _ => r.1 = 1) : EnablesUsable k config pending := by
  have nonzero {r : Int × Ps2} (one : r.1 = 1) : r.1 ≠ 0 := by
    rw [one]
    decide
  constructor
  · exact fun busy => (refuses busy).satisfies.mono fun r _ one zero => absurd zero (nonzero one)
  · exact fun _ _ busy => (refuses busy).mono fun r _ => nonzero

theorem ps2Init_returns {flag : BitVec 8} (pending : List (BitVec 8)) (busy : Nat)
    (pass : k.controllerTest = ps2ControllerTestPass)
    (known : portFlag k.port1Test = some flag) (some2 : (k.tested config flag).port2 ≠ 0) :
    Task.Possible (controllerStep k) (ps2Init Ps2.loaded) (.initial config pending busy)
        (fun r _ => r.1 = 0) ∧
      Task.Satisfies (controllerStep k) (ps2Init Ps2.loaded) (.initial config pending busy)
        fun r s' => r.2.dualChannel = k.detected config ∧
          ∃ last, s'.controller.written = some last ∧ Enabled (k.tested config flag) last := by
  have probed := probe_ensures config pass known pending busy
  rw [ps2Init_eq]
  constructor
  · apply probed.possible_bind
    intro r s' found
    obtain ⟨rfl, c, w, masked, ready⟩ := found
    exact bringUp_possible some2 masked ready
  · refine probed.satisfies_bind fun r s' found => ?_
    obtain ⟨rfl, c, w, masked, ready⟩ := found
    exact bringUp_configures some2 masked ready

theorem enablesUsable_of_pass (pass : k.controllerTest = ps2ControllerTestPass)
    (passed : k.port1Test = ps2PortTestPass) :
    EnablesUsable k config pending ↔ k.port2Passed := by
  have known : portFlag k.port1Test = some 1 := if_pos passed
  have passed1 : k.port1Passed = true := decide_eq_true passed
  have some2 : (k.tested config 1).port2 ≠ 0 := by
    unfold ControllerKind.tested
    dsimp only
    split <;> decide
  constructor
  · intro usable
    obtain ⟨possible, configures⟩ := ps2Init_returns pending 0 pass known some2
    obtain ⟨r, s', zero, right, -, last, written, enabled⟩ := possible.meets fun t r s' run follows =>
      And.intro (usable.enabled 0 t r s' run follows) (configures t r s' run follows)
    obtain ⟨config', written', -, bit1, -⟩ := (right zero).configured
    rw [written, Option.some_inj] at written'
    rw [← written', enabled.interrupt2, decide_eq_true some2] at bit1
    exact (Bool.and_eq_true_iff.mp bit1.symm).2
  · intro passed2
    refine ⟨fun busy => ?_, fun none1 => absurd (none1.symm.trans passed1) nofun⟩
    refine (ps2Init_returns pending busy pass known some2).2.mono fun r s' configured _ => ?_
    obtain ⟨dual, last, written, enabled⟩ := configured
    have detected : k.detected config = true := by
      rw [ControllerKind.detected, (Bool.and_eq_true_iff.mp passed2).1, Bool.true_or]
    refine ⟨.inl passed1, last, written, ?_, ?_, enabled.translation⟩
    · rw [enabled.interrupt1, passed1]
      exact decide_eq_true (by change (1 : BitVec 8) ≠ 0; decide)
    · rw [enabled.interrupt2, dual, detected, passed2, decide_eq_true some2]
      rfl

/-- With a port 1 that failed there is nothing to enable, but only a second channel that is
detected counts as failed with it. -/
theorem enablesUsable_of_fail (pass : k.controllerTest = ps2ControllerTestPass)
    (known : portFlag k.port1Test = some 0) (failed : k.port1Test ≠ ps2PortTestPass) :
    EnablesUsable k config pending ↔ k.detected config := by
  constructor
  · intro usable
    by_contra missed
    rw [Bool.not_eq_true] at missed
    have some2 : (k.tested config 0).port2 ≠ 0 := by
      unfold ControllerKind.tested
      rw [missed]
      decide
    have possible := (ps2Init_returns pending 0 pass known some2).1
    obtain ⟨r, s', zero, right⟩ := possible.meets (usable.enabled 0)
    rcases (right zero).usable with passed1 | passed2
    · exact failed (of_decide_eq_true passed1)
    · rw [ControllerKind.detected, (Bool.and_eq_true_iff.mp passed2).1] at missed
      cases missed
  · intro detected
    apply enablesUsable_of_refusing
    intro busy
    rw [ps2Init_eq]
    apply (probe_ensures config pass known pending busy).bind
    intro r s' found
    obtain ⟨rfl, -⟩ := found
    apply bringUp_refuses rfl
    unfold ControllerKind.tested
    exact if_pos detected

/-- `ps2_init` does right by a controller if and only if its test results happen to fit: both
flags stand for port 1. -/
theorem enablesUsable_iff (k : ControllerKind) (config : BitVec 8) (pending : List (BitVec 8)) :
    EnablesUsable k config pending ↔ k.WellHandled config := by
  unfold ControllerKind.WellHandled
  by_cases fail : k.controllerTest = ps2ControllerTestFail
  · rw [if_pos fail, iff_true]
    apply enablesUsable_of_refusing
    intro busy
    rw [ps2Init_eq]
    apply (probe_refuses fail pending busy).bind
    intro r s' refused
    rw [refused, if_neg Bool.false_ne_true]
    exact .ret rfl
  rw [if_neg fail]
  by_cases pass : k.controllerTest = ps2ControllerTestPass
  swap
  · rw [if_pos pass]
    exact enablesUsable_of_waiting fun busy => ps2Init_waits (.inl ⟨pass, fail⟩)
  rw [if_neg (not_not.mpr pass)]
  rcases portFlag_known k.port1Test with ⟨passed, known⟩ | ⟨failed, known | unknown⟩
  · rw [if_neg (by rw [known]; decide)]
    exact enablesUsable_of_pass pass passed
  · rw [if_pos known]
    exact enablesUsable_of_fail pass known failed
  · rw [if_neg (by rw [unknown]; exact nofun)]
    refine (enablesUsable_of_waiting fun busy => ps2Init_waits (.inr ⟨pass, unknown⟩)).trans ?_
    exact or_iff_right fun passed1 => failed (of_decide_eq_true passed1)

end Results

/-- A healthy single channel controller whose configuration byte has bit 5 set. -/
def singleChannel : ControllerKind := ⟨false, 0x55, 0x00, 0x00⟩

/-- The interrupt of a second port is switched on though there is none. -/
theorem singleChannel_not_usable : ¬ EnablesUsable singleChannel 0x65 [] := by
  intro usable
  have passed2 := (enablesUsable_of_pass rfl rfl).mp usable
  exact absurd passed2 (by decide)

end Flosp.Kernel
