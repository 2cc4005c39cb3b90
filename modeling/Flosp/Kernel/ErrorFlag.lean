import Flosp.Kernel.Ps2

/-! What an identification does to the globals: it leaves all but the error flag, and sets that
if and only if no byte 0xFA came. -/

namespace Flosp.Kernel

open Interaction

section Globals

variable {S : Type} {step : DriverEvent → S → S → Prop} {s : S} {g : Ps2} {port : BitVec 8}

def SameButError (g g' : Ps2) : Prop := ∃ failed, g' = { g with ps2Error := failed }

theorem SameButError.refl (g : Ps2) : SameButError g g := ⟨g.ps2Error, rfl⟩

theorem SameButError.trans {g₁ g₂ g₃ : Ps2} (first : SameButError g₁ g₂)
    (second : SameButError g₂ g₃) : SameButError g₁ g₃ := by
  obtain ⟨_, rfl⟩ := first
  obtain ⟨failed, rfl⟩ := second
  exact ⟨failed, rfl⟩

theorem then_same {α β : Type} {p : Driver α} {f : α → Driver β} (part : α → Ps2) {Q : β → S → Prop}
    (first : Task.Satisfies step p s fun r _ => SameButError g (part r))
    (second : ∀ r s', SameButError g (part r) → Task.Satisfies step (f r) s' Q) :
    Task.Satisfies step (p >>= f) s Q :=
  Task.satisfies_bind.mpr (first.mono second)

theorem after_any {α β : Type} {p : Driver α} {f : α → Driver β} {Q : β → S → Prop}
    (second : ∀ r s', Task.Satisfies step (f r) s' Q) : Task.Satisfies step (p >>= f) s Q :=
  Task.satisfies_bind.mpr (Task.satisfies_true.mono fun r s' _ => second r s')

theorem polRecieveByte_same (g : Ps2) :
    Task.Satisfies step (ps2PolRecieveByte g) s fun r _ => SameButError g r.2 := by
  apply after_any
  intro start s₁
  apply after_any
  intro timedOut s₂
  split
  · exact after_any fun _ s₃ => Task.satisfies_ret.mpr ⟨true, rfl⟩
  · exact after_any fun b s₃ => Task.satisfies_ret.mpr (.refl g)

/-- What a turn of a wait gives, to go on with or to return. -/
def TurnSame (g : Ps2) (x : Ps2 ⊕ Int × Ps2) : Prop :=
  x.elim (SameButError g) fun r => SameButError g r.2

theorem TurnSame.trans {g g' : Ps2} {x : Ps2 ⊕ Int × Ps2} (first : SameButError g g')
    (second : TurnSame g' x) : TurnSame g x := by
  cases x with
  | inl g'' => exact SameButError.trans first second
  | inr r => exact SameButError.trans first second

theorem checkTimeout_same (start : BitVec 64) (g : Ps2) :
    Task.Satisfies step (checkTimeout start g) s fun x _ => TurnSame g x := by
  apply after_any
  intro now s₁
  split
  · exact after_any fun _ _ => Task.satisfies_ret.mpr (SameButError.refl g)
  · exact Task.satisfies_ret.mpr (SameButError.refl g)

theorem handleResponse_same (cmd : BitVec 8) (start : BitVec 64) (response : BitVec 8) (g : Ps2) :
    Task.Satisfies step (handleResponse port cmd start response g) s fun x _ => TurnSame g x := by
  unfold handleResponse
  split
  · exact Task.satisfies_ret.mpr (SameButError.refl g)
  · split
    · exact Task.satisfies_ret.mpr ⟨false, rfl⟩
    · exact after_any fun _ _ => checkTimeout_same start g

theorem waitForAck_same (g : Ps2) (cmd : BitVec 8) :
    Task.Satisfies step (ps2WaitForAck g port cmd) s fun r _ => SameButError g r.2 := by
  apply after_any
  intro start s₁
  refine Task.satisfies_iterate (I := fun g' _ => SameButError g g') (fun g' s₂ same => ?_) (.refl g)
  rw [awaitAck_eq]
  refine then_same (fun r : BitVec 8 × Ps2 => r.2)
    ((polRecieveByte_same g').mono fun _ _ => same.trans) fun r s₃ same₁ => ?_
  exact (handleResponse_same cmd start r.1 r.2).mono fun _ _ => TurnSame.trans same₁

theorem enableScanning_same (g : Ps2) :
    Task.Satisfies step (enableScanning port g) s fun g' _ => SameButError g g' :=
  after_any fun _ _ => then_same (fun r : Int × Ps2 => r.2) (waitForAck_same g _)
    fun _ _ same => Task.satisfies_ret.mpr same

theorem keepByte_same {g g' : Ps2} (same : SameButError g g') (response : Ps2Response)
    (b : BitVec 8) :
    (keepByte response b g').elim (fun state => SameButError g state.2)
      fun r => SameButError g r.2.2 := by
  unfold keepByte
  split
  · exact same.trans ⟨false, rfl⟩
  · exact same

theorem retrieveByte_same {g g' : Ps2} (same : SameButError g g') (response : Ps2Response) :
    Task.Satisfies step (retrieveByte port (response, g')) s fun x _ =>
      x.elim (fun state => SameButError g state.2) fun r => SameButError g r.2.2 := by
  rw [retrieveByte_eq]
  split
  · exact Task.satisfies_ret.mpr same
  · apply after_any
    intro _ s₁
    apply after_any
    intro timedOut s₂
    split
    · apply after_any
      intro _ s₃
      exact then_same id ((enableScanning_same g').mono fun _ _ => same.trans)
        fun g₁ s₄ same₁ => Task.satisfies_ret.mpr same₁
    · refine then_same (fun r : BitVec 8 × Ps2 => r.2)
        ((polRecieveByte_same g').mono fun _ _ => same.trans) fun r s₃ same₁ => ?_
      exact Task.satisfies_ret.mpr (keepByte_same same₁ response r.1)

theorem portIdentify_same (g : Ps2) :
    Task.Satisfies step (ps2PortIdentify port g) s fun r _ => SameButError g r.2 := by
  apply after_any
  intro _ s₁
  refine then_same (fun r : Int × Ps2 => r.2) (waitForAck_same g _)
    fun ⟨failed, g₁⟩ s₂ same₁ => ?_
  dsimp only at same₁ ⊢
  split
  · exact Task.satisfies_ret.mpr (same₁.trans ⟨true, rfl⟩)
  · apply after_any
    intro _ s₃
    refine then_same (fun r : Int × Ps2 => r.2)
      ((waitForAck_same g₁ _).mono fun _ _ => same₁.trans) fun ⟨_, g₂⟩ s₄ same₂ => ?_
    have retrieved : Task.Satisfies step
        (Task.iterate (retrieveByte port) (⟨0, #v[0, 0, 0]⟩, g₂)) s₄
        fun r _ => SameButError g r.2.2 :=
      Task.satisfies_iterate (I := fun state _ => SameButError g state.2)
        (fun ⟨response, _⟩ _ same₃ => retrieveByte_same same₃ response) same₂
    refine then_same (fun r : Bool × Ps2Response × Ps2 => r.2.2) retrieved
      fun ⟨atCondition, response, g₃⟩ s₅ same₃ => ?_
    dsimp only at same₃ ⊢
    split
    · exact then_same id ((enableScanning_same g₃).mono fun _ _ => same₃.trans)
        fun g₄ s₆ same₄ => Task.satisfies_ret.mpr same₄
    · exact Task.satisfies_ret.mpr same₃

end Globals

/-! When the flag stays set. -/

def isAckByte (port : Port) (b : BitVec 8) : Bool :=
  decide (port = ps2DataPort) && decide (b = ps2Ack)

def isAck : DriverEvent → Bool
  | ⟨.inb port, b⟩ => isAckByte port b
  | _ => false

def Acknowledged (t : List DriverEvent) : Prop := t.any isAck = true

instance (t : List DriverEvent) : Decidable (Acknowledged t) :=
  inferInstanceAs (Decidable (_ = true))

/-- The state tells whether an acknowledgement has come. -/
def ackStep (e : DriverEvent) (acked acked' : Bool) : Prop := acked' = (acked || isAck e)

theorem follows_any (t : List DriverEvent) (acked : Bool) :
    Follows ackStep t acked (acked || t.any isAck) := by
  induction t generalizing acked with
  | nil => exact (Bool.or_false acked)
  | cons e t ih =>
      refine ⟨acked || isAck e, rfl, ?_⟩
      rw [List.any_cons, ← Bool.or_assoc]
      exact ih _

def LeavesData (o : Op) : Prop := o ≠ .inb ps2DataPort

theorem allowsTransfer_leavesData : AllowsTransfer LeavesData where
  status := by simp [LeavesData, ps2StatusPort, ps2DataPort]
  ticks _ := nofun
  console _ := nofun
  send _ := nofun
  select := nofun

section Flag

variable {g : Ps2} {port : BitVec 8} {acked : Bool}

theorem leavesData_ack {e : DriverEvent} (leaves : LeavesData e.op) : isAck e = false := by
  obtain ⟨o, reply⟩ := e
  cases o with
  | inb port =>
      have other : port ≠ ps2DataPort := fun same => leaves (by rw [same])
      simp [isAck, isAckByte, other]
  | _ => rfl

theorem only_ack {α : Type} {p : Driver α} (only : Task.Only LeavesData p) :
    Task.Satisfies ackStep p acked fun _ acked' => acked' = acked :=
  only.satisfies (I := fun acked' => acked' = acked) (fun e leaves u u' step same => by
    rw [step, leavesData_ack leaves, same, Bool.or_false]) rfl

theorem quiet_bind {α β : Type} {p : Driver α} {f : α → Driver β} {Q : β → Bool → Prop}
    (only : Task.Only LeavesData p) (rest : ∀ a, Task.Satisfies ackStep (f a) acked Q) :
    Task.Satisfies ackStep (p >>= f) acked Q :=
  Task.satisfies_bind.mpr ((only_ack only).mono fun a _ same => same ▸ rest a)

theorem ticks_leave (reader : TickReader) : Task.Only LeavesData (getUptimeTicks reader) :=
  Task.only_perform.mpr nofun

theorem awaitOutputBuffer_leaves (reader : TickReader) (start : BitVec 64) :
    Task.Only LeavesData (awaitOutputBuffer reader start) :=
  awaitOutputBuffer_only allowsTransfer_leavesData.status (allowsTransfer_leavesData.ticks reader)
    start

theorem console_leaves (call : ConsoleCall) : Task.Only LeavesData (console call) :=
  Task.only_perform.mpr nofun

theorem polRecieveByte_ack (g : Ps2) :
    Task.Satisfies ackStep (ps2PolRecieveByte g) acked fun r acked' =>
      r = (1, { g with ps2Error := true }) ∧ acked' = acked ∨
        r.2 = g ∧ acked' = (acked || decide (r.1 = ps2Ack)) := by
  refine quiet_bind (ticks_leave _) fun start =>
    quiet_bind (awaitOutputBuffer_leaves _ start) fun timedOut => ?_
  split
  · exact quiet_bind (console_leaves _) fun _ => Task.satisfies_ret.mpr (.inl ⟨rfl, rfl⟩)
  · refine Task.satisfies_op.mpr fun b acked' step => Task.satisfies_ret.mpr (.inr ⟨rfl, step⟩)

/-- What a turn of a wait gives: it goes on without an acknowledge, or returns whether one came. -/
def TurnAcked (acked : Bool) (x : Ps2 ⊕ Int × Ps2) (acked' : Bool) : Prop :=
  x.elim (fun g => g.ps2Error = false ∧ acked' = acked) fun r =>
    r.2.ps2Error = false ∧ (r.1 = 0 ∧ acked' = true ∨ r.1 = 1 ∧ acked' = acked)

theorem checkTimeout_ack (start : BitVec 64) (clear : g.ps2Error = false) :
    Task.Satisfies ackStep (checkTimeout start g) acked (TurnAcked acked) := by
  have seconds : Task.Only LeavesData (getUptimeSeconds .waitCheck) :=
    (ticks_leave _).bind fun _ => trivial
  refine quiet_bind seconds fun now => ?_
  split
  · exact quiet_bind (console_leaves _) fun _ => Task.satisfies_ret.mpr ⟨clear, .inr ⟨rfl, rfl⟩⟩
  · exact Task.satisfies_ret.mpr ⟨clear, rfl⟩

theorem handleResponse_ack {response : BitVec 8} (other : response ≠ ps2Ack) (cmd : BitVec 8)
    (start : BitVec 64) (clear : g.ps2Error = false) :
    Task.Satisfies ackStep (handleResponse port cmd start response g) acked (TurnAcked acked) := by
  rw [handleResponse, if_neg other, clear, if_neg Bool.false_ne_true]
  have asked := resendIfAsked_only allowsTransfer_leavesData.toSend port cmd response g
  exact quiet_bind asked fun _ => checkTimeout_ack start clear

theorem awaitAck_ack (cmd : BitVec 8) (start : BitVec 64) (clear : g.ps2Error = false) :
    Task.Satisfies ackStep (awaitAck port cmd start g) acked (TurnAcked acked) := by
  rw [awaitAck_eq]
  refine Task.satisfies_bind.mpr ((polRecieveByte_ack g).mono fun ⟨b, g₁⟩ acked₁ got => ?_)
  rcases got with ⟨timedOut, same⟩ | ⟨kept, taken⟩
  · have other : (1 : BitVec 8) ≠ ps2Ack := by decide
    cases timedOut
    rw [handleResponse, if_neg other, if_pos rfl]
    exact Task.satisfies_ret.mpr ⟨rfl, .inr ⟨rfl, same⟩⟩
  · change g₁ = g at kept
    subst kept
    by_cases ack : b = ps2Ack
    · rw [handleResponse, if_pos ack]
      exact Task.satisfies_ret.mpr ⟨clear, .inl ⟨rfl, by simp [taken, ack]⟩⟩
    · have same : acked₁ = acked := by simp [taken, ack]
      rw [same]
      exact handleResponse_ack ack cmd start clear

/-- The result of a wait tells whether an acknowledgement came, and the flag is clear then. -/
theorem waitForAck_ack (clear : g.ps2Error = false) (cmd : BitVec 8) :
    Task.Satisfies ackStep (ps2WaitForAck g port cmd) acked fun r acked' =>
      r.2.ps2Error = false ∧ (r.1 = 0 ∧ acked' = true ∨ r.1 = 1 ∧ acked' = acked) := by
  refine quiet_bind (ticks_leave _) fun start => ?_
  refine Task.satisfies_iterate (I := fun g' acked' => g'.ps2Error = false ∧ acked' = acked)
    (fun g' acked' holds => ?_) ⟨clear, rfl⟩
  rcases holds with ⟨clear, rfl⟩
  exact awaitAck_ack cmd start clear

theorem enableScanning_ack (clear : g.ps2Error = false) :
    Task.Satisfies ackStep (enableScanning port g) true fun g' acked' =>
      g'.ps2Error = false ∧ acked' = true := by
  refine quiet_bind (portWriteData_only allowsTransfer_leavesData.toSend _ _ _) fun _ => ?_
  refine Task.satisfies_bind.mpr ((waitForAck_ack clear _).mono fun r acked' holds => ?_)
  refine Task.satisfies_ret.mpr ⟨holds.1, ?_⟩
  rcases holds.2 with ⟨-, now⟩ | ⟨-, before⟩
  · exact now
  · exact before

theorem retrieve_ack (clear : g.ps2Error = false) (response : Ps2Response) :
    Task.Satisfies ackStep (Task.iterate (retrieveByte port) (response, g)) true fun r acked' =>
      r.2.2.ps2Error = false ∧ acked' = true := by
  refine Task.satisfies_iterate
    (I := fun state acked' => state.2.ps2Error = false ∧ acked' = true)
    (fun ⟨response, g⟩ acked' holds => ?_) ⟨clear, rfl⟩
  rcases holds with ⟨clear, rfl⟩
  rw [retrieveByte_eq]
  split
  · exact Task.satisfies_ret.mpr ⟨clear, rfl⟩
  · refine quiet_bind (ticks_leave _) fun start =>
      quiet_bind (awaitOutputBuffer_leaves _ start) fun timedOut => ?_
    split
    · refine quiet_bind (console_leaves _) fun _ => ?_
      exact Task.satisfies_bind.mpr ((enableScanning_ack clear).mono fun g' acked' holds =>
        Task.satisfies_ret.mpr holds)
    · refine Task.satisfies_bind.mpr ((polRecieveByte_ack g).mono fun ⟨b, g₁⟩ acked₁ got => ?_)
      refine Task.satisfies_ret.mpr ?_
      rcases got with ⟨timedOut, same⟩ | ⟨kept, taken⟩
      · cases timedOut
        exact ⟨rfl, same⟩
      · change g₁ = g at kept
        subst kept
        have clear : g₁.ps2Error = false := clear
        rw [keepByte, clear, if_neg Bool.false_ne_true]
        exact ⟨clear, by simpa using taken⟩

/-- Without an acknowledgement the flag stays set when the identification ends. -/
theorem portIdentify_ack (clear : g.ps2Error = false) :
    Task.Satisfies ackStep (ps2PortIdentify port g) false fun r acked =>
      r.2.ps2Error = !acked := by
  refine quiet_bind (portWriteData_only allowsTransfer_leavesData.toSend _ _ _) fun _ => ?_
  refine Task.satisfies_bind.mpr ((waitForAck_ack clear _).mono fun ⟨failed, g₁⟩ acked₁ holds => ?_)
  dsimp only at holds ⊢
  obtain ⟨clear₁, ⟨rfl, rfl⟩ | ⟨rfl, rfl⟩⟩ := holds
  · rw [if_neg (by decide)]
    refine quiet_bind (portWriteData_only allowsTransfer_leavesData.toSend _ _ _) fun _ => ?_
    refine Task.satisfies_bind.mpr
      ((waitForAck_ack clear₁ _).mono fun ⟨_, g₂⟩ acked₂ holds => ?_)
    have acked₂_true : acked₂ = true := by
      rcases holds.2 with ⟨-, now⟩ | ⟨-, before⟩
      · exact now
      · exact before
    subst acked₂_true
    refine Task.satisfies_bind.mpr ((retrieve_ack holds.1 _).mono
      fun ⟨atCondition, response, g₃⟩ acked₃ holds₃ => ?_)
    obtain ⟨clear₃, rfl⟩ := holds₃
    dsimp only at clear₃ ⊢
    split
    · refine Task.satisfies_bind.mpr ((enableScanning_ack clear₃).mono fun g' acked' holds => ?_)
      refine Task.satisfies_ret.mpr ?_
      rw [holds.1, holds.2]
      rfl
    · refine Task.satisfies_ret.mpr ?_
      rw [clear₃]
      rfl
  · rw [if_pos rfl]
    exact Task.satisfies_ret.mpr rfl

theorem portIdentify_error (clear : g.ps2Error = false) {t : List DriverEvent}
    {r : Ps2Response × Ps2} (run : Task.Runs (ps2PortIdentify port g) t r) :
    r.2.ps2Error = true ↔ ¬ Acknowledged t := by
  have flag := portIdentify_ack clear t r _ run (follows_any t false)
  rw [flag, Bool.false_or, Acknowledged]
  cases t.any isAck <;> simp

end Flag

end Flosp.Kernel
