import Flosp.Kernel.PortIndependence

/-! When an identification leaves its device silenced: with scanning disabled and not enabled
again. -/

namespace Flosp.Kernel

open Interaction

/-- The writes since the first acknowledge. It is that of DISABLE_SCANNING, as nothing else is
sent before. -/
def sinceAck : Option (List (Port × BitVec 8)) → DriverEvent → Option (List (Port × BitVec 8))
  | none, e => if isAck e then some [] else none
  | some writes, e => some (writes ++ portWrites [e])

/-- If DISABLE_SCANNING was acknowledged, ENABLE_SCANNING has been written to the port after it. -/
def ScanningRestored (port : BitVec 8) (t : List DriverEvent) : Prop :=
  ∀ writes ∈ t.foldl sinceAck none, commandTo port ps2EnableScanning <:+: writes

instance (port : BitVec 8) (t : List DriverEvent) : Decidable (ScanningRestored port t) :=
  inferInstanceAs (Decidable (∀ writes ∈ t.foldl sinceAck none, _))

/-- What the identification is waiting for while it retrieves the identity. -/
inductive Retrieval where
  | outside
  /-- a byte, in the loop of `ps2_port_identify` -/
  | awaiting
  /-- that loop saw one -/
  | seen
  /-- the byte, in `ps2_pol_recieve_byte` from `start` on -/
  | polling (start : BitVec 64)
  /-- the byte that was seen is not kept -/
  | lost
  deriving DecidableEq

/-- What a retrieval goes by: the bytes that answered the commands, and where it is. -/
structure Watch where
  answers : List (BitVec 8)
  retrieval : Retrieval
  deriving DecidableEq

/-- With the error flag set on entry, and no other answer than acknowledges, it is still set. -/
def Watch.Flagged (flagged : Bool) (w : Watch) : Prop :=
  flagged = true ∧ w.answers = [ps2Ack, ps2Ack]

instance (flagged : Bool) (w : Watch) : Decidable (w.Flagged flagged) :=
  inferInstanceAs (Decidable (_ ∧ _))

def Watch.read (flagged : Bool) (w : Watch) (port : Port) (b : BitVec 8) : Watch :=
  match w.retrieval with
  | .outside => if port = ps2DataPort then { w with answers := w.answers ++ [b] } else w
  | .awaiting =>
      if b &&& 0b1 = 0 then w
      else { w with retrieval := if w.Flagged flagged then .lost else .seen }
  | .polling _ => if port = ps2DataPort then { w with retrieval := .outside } else w
  | _ => w

def Watch.tick (w : Watch) (reader : TickReader) (now : BitVec 64) : Watch :=
  match w.retrieval with
  | .outside => if reader = .portIdentify then { w with retrieval := .awaiting } else w
  | .seen => { w with retrieval := .polling now }
  | .polling start =>
      if now ≥ start + ps2TimeoutDuration then { w with retrieval := .lost } else w
  | _ => w

def Watch.next (flagged : Bool) (w : Watch) : DriverEvent → Watch
  | ⟨.inb port, b⟩ => w.read flagged port b
  | ⟨.readTicks reader, now⟩ => w.tick reader now
  -- it logs the timeout that ends the identity
  | ⟨.console _, _⟩ => if w.retrieval = .awaiting then { w with retrieval := .outside } else w
  | _ => w

/-- A byte of the identity is seen and not kept: the error flag was set before, or the byte is
gone for so long that `ps2_pol_recieve_byte` gives up. -/
def LosesByte (flagged : Bool) (t : List DriverEvent) : Prop :=
  (t.foldl (Watch.next flagged) ⟨[], .outside⟩).retrieval = .lost

instance (flagged : Bool) (t : List DriverEvent) : Decidable (LosesByte flagged t) :=
  inferInstanceAs (Decidable (_ = _))

/-! Both at each event. -/

abbrev Progress := Watch × Option (List (Port × BitVec 8))

def watching (flagged : Bool) (e : DriverEvent) (s s' : Progress) : Prop :=
  s' = (s.1.next flagged e, sinceAck s.2 e)

section Watching

variable {flagged : Bool} {s : Progress} {g : Ps2} {port : BitVec 8}

theorem follows_watching (t : List DriverEvent) (s : Progress) :
    Follows (watching flagged) t s
      (t.foldl (Watch.next flagged) s.1, t.foldl sinceAck s.2) := by
  induction t generalizing s with
  | nil => rfl
  | cons e t ih => exact ⟨_, rfl, ih _⟩

def Quiet : Op → Prop
  | .inb port => port ≠ ps2DataPort
  | .readTicks reader => reader ≠ .portIdentify
  | .console _ => True
  | _ => False

theorem quiet_watching {e : DriverEvent} (quiet : Quiet e.op) (outside : s.1.retrieval = .outside) :
    (s.1.next flagged e, sinceAck s.2 e) = s := by
  rcases s with ⟨⟨answers, retrieval⟩, since⟩
  cases outside
  rcases e with ⟨o, reply⟩
  cases o with
  | inb port =>
      have other : port ≠ ps2DataPort := quiet
      cases since <;> simp [Watch.next, Watch.read, sinceAck, isAck, isAckByte, portWrites, other]
  | readTicks reader =>
      have other : reader ≠ .portIdentify := quiet
      cases since <;> simp [Watch.next, Watch.tick, sinceAck, isAck, portWrites, other]
  | console call => cases since <;> simp [Watch.next, sinceAck, isAck, portWrites]
  | _ => cases quiet

theorem quiet_satisfies {α : Type} {p : Driver α} (only : Task.Only Quiet p)
    (outside : s.1.retrieval = .outside) :
    Task.Satisfies (watching flagged) p s fun _ s' => s' = s := by
  refine only.satisfies (I := (· = s)) ?_ rfl
  intro e quiet u u' step same
  rw [step, same]
  exact quiet_watching quiet outside

theorem quiet_then {α β : Type} {p : Driver α} {f : α → Driver β} {Q : β → Progress → Prop}
    (only : Task.Only Quiet p) (outside : s.1.retrieval = .outside)
    (rest : ∀ a, Task.Satisfies (watching flagged) (f a) s Q) :
    Task.Satisfies (watching flagged) (p >>= f) s Q := by
  refine (quiet_satisfies only outside).bind fun a s' same => ?_
  rw [same]
  exact rest a

theorem inputBufferFull_quiet : Task.Only Quiet inputBufferFull :=
  inputBufferFull_only (by simp [Quiet, ps2StatusPort, ps2DataPort])

theorem consoleCall_quiet (call : ConsoleCall) : Task.Only Quiet (console call) :=
  Task.only_perform.mpr trivial

theorem awaitInputBuffer_quiet (start : BitVec 64) : Task.Only Quiet (awaitInputBuffer start) := by
  rw [awaitInputBuffer_eq]
  apply Task.only_iterate.mpr
  intro _
  apply Task.Only.bind (Task.only_perform.mpr (by simp [Quiet, ps2StatusPort, ps2DataPort]))
  intro _
  trivial

def Progress.wrote (s : Progress) (writes : List (Port × BitVec 8)) : Progress :=
  (s.1, s.2.map (· ++ writes))

@[simp] theorem Progress.wrote_fst (s : Progress) (writes : List (Port × BitVec 8)) :
    (s.wrote writes).1 = s.1 := rfl

@[simp] theorem Progress.wrote_nil (s : Progress) : s.wrote [] = s := by
  rcases s with ⟨w, since⟩
  simp [Progress.wrote]

@[simp] theorem Progress.wrote_wrote (s : Progress) (writes more : List (Port × BitVec 8)) :
    (s.wrote writes).wrote more = s.wrote (writes ++ more) := by
  simp [Progress.wrote, Function.comp_def]

theorem outb_satisfies (p : Port) (b : BitVec 8) :
    Task.Satisfies (watching flagged) (outb p b) s fun _ s' => s' = s.wrote [(p, b)] := by
  refine Task.satisfies_op.mpr fun reply s' step => Task.satisfies_ret.mpr ?_
  rw [step]
  rcases s with ⟨w, since⟩
  cases since <;> simp [Watch.next, sinceAck, isAck, portWrites, Progress.wrote]

theorem sendToPort_satisfies (outside : s.1.retrieval = .outside) (b : BitVec 8) :
    Task.Satisfies (watching flagged) (sendToPort port b) s fun _ s' =>
      s' = s.wrote (commandTo port b) := by
  have selected : Task.Satisfies (watching flagged) (selectPort port) s fun _ s' =>
      s' = s.wrote (if port = 2 then [(ps2CommandPort, ps2WriteByteInputPort2)] else []) := by
    unfold selectPort
    split
    · exact quiet_then (inputBufferFull_quiet.whileDo trivial) outside fun _ => outb_satisfies _ _
    · exact Task.satisfies_ret.mpr s.wrote_nil.symm
  refine selected.bind fun _ s₁ same => ?_
  have outside₁ : s₁.1.retrieval = .outside := by rw [same, Progress.wrote_fst, outside]
  refine quiet_then (Task.only_perform.mpr (by simp [Quiet])) outside₁ fun start => ?_
  have waited : Task.Satisfies (watching flagged) (awaitInputBuffer start) s₁
      fun timedOut s' => timedOut = false ∧ s' = s₁ := fun t timedOut s' run follows =>
    ⟨(awaitInputBuffer_runs run).1,
      quiet_satisfies (awaitInputBuffer_quiet start) outside₁ t timedOut s' run follows⟩
  refine waited.bind fun timedOut s₂ now => ?_
  rw [now.1, now.2, if_neg Bool.false_ne_true]
  have written : Task.Satisfies (watching flagged) (ps2WriteData b) s₁ fun _ s' =>
      s' = s₁.wrote [(ps2DataPort, b)] :=
    quiet_then (inputBufferFull_quiet.whileDo trivial) outside₁ fun _ => outb_satisfies _ _
  refine written.bind fun _ s₃ same₃ => Task.satisfies_ret.mpr ?_
  rw [same₃, same, Progress.wrote_wrote]
  rfl

/-! The waits for an acknowledge. -/

def Progress.took (s : Progress) (b : BitVec 8) : Progress :=
  ({ s.1 with answers := s.1.answers ++ [b] }, s.2 <|> if b = ps2Ack then some [] else none)

theorem took_eq (outside : s.1.retrieval = .outside) (b : BitVec 8) :
    (s.1.next flagged ⟨.inb ps2DataPort, b⟩, sinceAck s.2 ⟨.inb ps2DataPort, b⟩) = s.took b := by
  rcases s with ⟨⟨answers, retrieval⟩, since⟩
  cases outside
  cases since <;>
    simp [Watch.next, Watch.read, sinceAck, isAck, isAckByte, portWrites, Progress.took]

theorem polRecieveByte_outside (outside : s.1.retrieval = .outside) (g : Ps2) :
    Task.Satisfies (watching flagged) (ps2PolRecieveByte g) s fun r s' =>
      r = (1, { g with ps2Error := true }) ∧ s' = s ∨ r.2 = g ∧ s' = s.took r.1 := by
  refine quiet_then (Task.only_perform.mpr (by simp [Quiet])) outside fun start => ?_
  have polls : Task.Only Quiet (awaitOutputBuffer .polRecieveByte start) :=
    awaitOutputBuffer_only (by simp [Quiet, ps2StatusPort, ps2DataPort]) (by simp [Quiet]) start
  refine quiet_then polls outside fun timedOut => ?_
  split
  · exact quiet_then (consoleCall_quiet _) outside fun _ => Task.satisfies_ret.mpr (.inl ⟨rfl, rfl⟩)
  · refine Task.satisfies_op.mpr fun b s' step => Task.satisfies_ret.mpr (.inr ⟨rfl, ?_⟩)
    rw [step]
    exact took_eq outside b

def Resends (port b : BitVec 8) (writes : List (Port × BitVec 8)) : Prop :=
  ∀ w ∈ writes, w ∈ commandTo port b

theorem resends_append {b : BitVec 8} {writes more : List (Port × BitVec 8)}
    (first : Resends port b writes) (second : Resends port b more) :
    Resends port b (writes ++ more) := by
  intro w member
  rcases List.mem_append.mp member with member | member
  · exact first w member
  · exact second w member

/-- A wait ended with an acknowledge. If the error flag was set, it was the first byte. -/
structure Acked (port cmd : BitVec 8) (g : Ps2) (s : Progress) (r : Int × Ps2) (s' : Progress) :
    Prop where
  returned : r = (0, g)
  outside : s'.1.retrieval = .outside
  since : ∃ writes, Resends port cmd writes ∧ s'.2 = (s.2.map (· ++ writes) <|> some [])
  answers : g.ps2Error = true → s'.1.answers = s.1.answers ++ [ps2Ack]

/-- A wait ended without one. If the error flag was set, it is cleared with the first byte or the
timeout. -/
structure Unacked (port cmd : BitVec 8) (g : Ps2) (s : Progress) (r : Int × Ps2) (s' : Progress) :
    Prop where
  returned : r = (1, { g with ps2Error := false })
  outside : s'.1.retrieval = .outside
  since : ∃ writes, Resends port cmd writes ∧ s'.2 = s.2.map (· ++ writes)
  answers : g.ps2Error = true →
    s'.1.answers = s.1.answers ∨ ∃ b ≠ ps2Ack, s'.1.answers = s.1.answers ++ [b]

theorem resendIfAsked_satisfies (valid : ¬ g.InvalidPort port)
    (outside : s.1.retrieval = .outside) (cmd response : BitVec 8) :
    Task.Satisfies (watching flagged) (resendIfAsked port cmd response g) s fun _ s' =>
      ∃ writes, Resends port cmd writes ∧ s' = s.wrote writes := by
  unfold resendIfAsked
  split
  · rw [ps2PortWriteData_eq, if_neg valid]
    refine (sendToPort_satisfies outside cmd).bind fun _ s' same => Task.satisfies_ret.mpr ?_
    exact ⟨_, fun w member => member, same⟩
  · exact Task.satisfies_ret.mpr ⟨[], nofun, s.wrote_nil.symm⟩

theorem checkTimeout_satisfies (outside : s.1.retrieval = .outside) (start : BitVec 64) :
    Task.Satisfies (watching flagged) (checkTimeout start g) s fun x s' =>
      s' = s ∧ (x = .inl g ∨ x = .inr (1, g)) := by
  have reads : Task.Only Quiet (getUptimeSeconds .waitCheck) :=
    Task.Only.bind (Task.only_perform.mpr (by simp [Quiet])) fun _ => trivial
  refine quiet_then reads outside fun now => ?_
  split
  · exact quiet_then (consoleCall_quiet _) outside fun _ => Task.satisfies_ret.mpr ⟨rfl, .inr rfl⟩
  · exact Task.satisfies_ret.mpr ⟨rfl, .inl rfl⟩

/-- A wait that goes on: the flag was not set, or this is its first turn. -/
structure Unanswered (port cmd : BitVec 8) (g : Ps2) (s : Progress) (g' : Ps2) (s' : Progress) :
    Prop where
  same : g' = g
  outside : s'.1.retrieval = .outside
  since : ∃ writes, Resends port cmd writes ∧ s'.2 = s.2.map (· ++ writes)
  first : g.ps2Error = true → s' = s

theorem handleResponse_satisfies {g' : Ps2} {s' : Progress} {cmd : BitVec 8}
    (valid : ¬ g.InvalidPort port) (waits : Unanswered port cmd g s g' s') (start : BitVec 64)
    (b : BitVec 8) :
    Task.Satisfies (watching flagged) (handleResponse port cmd start b g') (s'.took b)
      fun x s'' => x.elim (Unanswered port cmd g s · s'') fun r =>
        Acked port cmd g s r s'' ∨ Unacked port cmd g s r s'' := by
  rcases waits with ⟨rfl, outside, ⟨writes, resends, since⟩, first⟩
  unfold handleResponse
  split
  · rename_i ack
    refine Task.satisfies_ret.mpr (.inl ⟨rfl, outside, ⟨writes, resends, ?_⟩, ?_⟩)
    · simp [Progress.took, since, ack]
    · intro set
      simp [Progress.took, first set, ack]
  · rename_i other
    have since' : (s'.took b).2 = s.2.map (· ++ writes) := by
      simp [Progress.took, since, other]
    split
    · rename_i set
      refine Task.satisfies_ret.mpr (.inr ⟨rfl, outside, ⟨writes, resends, since'⟩, ?_⟩)
      intro _
      exact .inr ⟨b, other, by simp [Progress.took, first set]⟩
    · rename_i clear
      have outside' : (s'.took b).1.retrieval = .outside := outside
      refine (resendIfAsked_satisfies valid outside' cmd b).bind fun _ s₁ resent => ?_
      rcases resent with ⟨more, resends', rfl⟩
      have since₁ : ((s'.took b).wrote more).2 = s.2.map (· ++ (writes ++ more)) := by
        simp [Progress.wrote, since', Function.comp_def]
      have outside₁ : ((s'.took b).wrote more).1.retrieval = .outside := outside
      refine (checkTimeout_satisfies outside₁ start).mono fun x s₂ checked => ?_
      rcases checked with ⟨rfl, rfl | rfl⟩
      · exact ⟨rfl, outside, ⟨_, resends_append resends resends', since₁⟩, fun set => absurd set clear⟩
      · have cleared : g' = { g' with ps2Error := false } := by
          rw [Bool.not_eq_true] at clear
          rw [← clear]
        exact .inr ⟨by rw [← cleared], outside, ⟨_, resends_append resends resends', since₁⟩,
          fun set => absurd set clear⟩

theorem waitForAck_satisfies (valid : ¬ g.InvalidPort port) (outside : s.1.retrieval = .outside)
    (cmd : BitVec 8) :
    Task.Satisfies (watching flagged) (ps2WaitForAck g port cmd) s fun r s' =>
      Acked port cmd g s r s' ∨ Unacked port cmd g s r s' := by
  refine quiet_then (Task.only_perform.mpr (by simp [Quiet])) outside fun start => ?_
  have starts : Unanswered port cmd g s g s :=
    ⟨rfl, outside, ⟨[], nofun, by simp⟩, fun _ => rfl⟩
  refine Task.satisfies_iterate (I := fun g' s' => Unanswered port cmd g s g' s') ?_ starts
  intro g' s' waits
  rw [awaitAck_eq]
  refine (polRecieveByte_outside waits.outside g').bind fun r s'' received => ?_
  rcases received with ⟨rfl, rfl⟩ | ⟨same, rfl⟩
  · have timeout : (1 : BitVec 8) ≠ ps2Ack := by decide
    rw [handleResponse, if_neg timeout, if_pos rfl]
    rcases waits with ⟨rfl, outside, since, first⟩
    refine Task.satisfies_ret.mpr (.inr ⟨rfl, outside, since, ?_⟩)
    intro set
    exact .inl (by rw [first set])
  · rw [same]
    exact handleResponse_satisfies valid waits start r.1

/-! The retrieval of the identity. -/

/-- The device acknowledged, and since then only IDENTIFY was written. -/
def ScanningDisabled (port : BitVec 8) (s : Progress) : Prop :=
  ∃ writes, s.2 = some writes ∧ Resends port ps2Identify writes

/-- The device acknowledged, and since then ENABLE_SCANNING was written. -/
def ScanningEnabled (port : BitVec 8) (s : Progress) : Prop :=
  ∃ writes, s.2 = some writes ∧ commandTo port ps2EnableScanning <:+: writes

theorem not_scanningEnabled (disabled : ScanningDisabled port s) : ¬ ScanningEnabled port s := by
  intro enabled
  rcases disabled with ⟨writes, since, resends⟩
  rcases enabled with ⟨writes', since', infix_⟩
  rw [since] at since'
  cases since'
  have enables : (ps2DataPort, ps2EnableScanning) ∈ commandTo port ps2EnableScanning := by
    simp [commandTo]
  have identifies := resends _ (infix_.subset enables)
  revert identifies
  unfold commandTo
  split <;> decide

theorem enableScanning_satisfies (valid : ¬ g.InvalidPort port)
    (outside : s.1.retrieval = .outside) (disabled : ScanningDisabled port s) :
    Task.Satisfies (watching flagged) (enableScanning port g) s fun _ s' =>
      s'.1.retrieval = .outside ∧ ScanningEnabled port s' := by
  rcases disabled with ⟨writes, since, -⟩
  unfold enableScanning
  rw [ps2PortWriteData_eq, if_neg valid]
  refine (sendToPort_satisfies outside _).bind fun _ s₁ sent => ?_
  have outside₁ : s₁.1.retrieval = .outside := by rw [sent, Progress.wrote_fst, outside]
  have since₁ : s₁.2 = some (writes ++ commandTo port ps2EnableScanning) := by
    simp [sent, Progress.wrote, since]
  refine (waitForAck_satisfies valid outside₁ _).bind fun r s₂ ends => Task.satisfies_ret.mpr ?_
  rcases ends with ends | ends
  · rcases ends.since with ⟨more, -, since₂⟩
    exact ⟨ends.outside, _, by rw [since₂, since₁]; rfl, writes, more, rfl⟩
  · rcases ends.since with ⟨more, -, since₂⟩
    exact ⟨ends.outside, _, by rw [since₂, since₁]; rfl, writes, more, rfl⟩

theorem status_step {status : BitVec 8} {s' : Progress}
    (step : watching flagged ⟨.inb ps2StatusPort, status⟩ s s') :
    s' = (s.1.read flagged ps2StatusPort status, s.2) := by
  have other : ps2StatusPort ≠ ps2DataPort := by decide
  rw [step]
  rcases s with ⟨w, since⟩
  cases since <;> simp [Watch.next, sinceAck, isAck, isAckByte, portWrites, other]

theorem ticks_step {reader : TickReader} {now : BitVec 64} {s' : Progress}
    (step : watching flagged ⟨.readTicks reader, now⟩ s s') :
    s' = (s.1.tick reader now, s.2) := by
  rw [step]
  rcases s with ⟨w, since⟩
  cases since <;> simp [Watch.next, sinceAck, isAck, portWrites]

def Progress.saw (flagged : Bool) (s : Progress) : Progress :=
  ({ s.1 with retrieval := if s.1.Flagged flagged then .lost else .seen }, s.2)

theorem outputBufferEmpty_awaiting (awaiting : s.1.retrieval = .awaiting) :
    Task.Satisfies (watching flagged) outputBufferEmpty s fun empty s' =>
      s' = if empty then s else s.saw flagged := by
  refine Task.satisfies_op.mpr fun status s' read => Task.satisfies_ret.mpr ?_
  change BitVec 8 at status
  rw [status_step read]
  by_cases empty : status &&& 1#8 = 0#8
  · simp [Watch.read, awaiting, empty]
  · simp [Watch.read, awaiting, empty, Progress.saw]

theorem ticks_awaiting (awaiting : s.1.retrieval = .awaiting) (reader : TickReader) :
    Task.Satisfies (watching flagged) (getUptimeTicks reader) s fun _ s' => s' = s := by
  refine Task.satisfies_op.mpr fun now s' ticked => Task.satisfies_ret.mpr ?_
  rw [ticks_step ticked]
  simp [Watch.tick, awaiting]

theorem awaitOutputBuffer_awaiting (awaiting : s.1.retrieval = .awaiting) (start : BitVec 64) :
    Task.Satisfies (watching flagged) (awaitOutputBuffer .portIdentify start) s
      fun timedOut s' => s' = if timedOut then s else s.saw flagged := by
  refine Task.satisfies_iterate (I := fun _ s' => s' = s) ?_ rfl
  intro _ s' same
  rw [same]
  refine (outputBufferEmpty_awaiting awaiting).bind fun empty s₁ looked => ?_
  cases empty with
  | true =>
      rw [looked, if_pos rfl, if_pos rfl]
      refine (ticks_awaiting awaiting _).bind fun now s₂ same => Task.satisfies_ret.mpr ?_
      split
      · exact same
      · exact same
  | false => exact Task.satisfies_ret.mpr looked

def Progress.lose (s : Progress) : Progress := ({ s.1 with retrieval := .lost }, s.2)

theorem outputBufferEmpty_polling {start : BitVec 64} (polling : s.1.retrieval = .polling start) :
    Task.Satisfies (watching flagged) outputBufferEmpty s fun _ s' => s' = s := by
  have other : ps2StatusPort ≠ ps2DataPort := by decide
  refine Task.satisfies_op.mpr fun status s' read => Task.satisfies_ret.mpr ?_
  rw [status_step read]
  simp [Watch.read, polling, other]

theorem awaitOutputBuffer_polling {start : BitVec 64} (polling : s.1.retrieval = .polling start) :
    Task.Satisfies (watching flagged) (awaitOutputBuffer .polRecieveByte start) s
      fun timedOut s' => s' = if timedOut then s.lose else s := by
  refine Task.satisfies_iterate (I := fun _ s' => s' = s) ?_ rfl
  intro _ s' same
  rw [same]
  refine (outputBufferEmpty_polling polling).bind fun empty s₁ same₁ => ?_
  rw [same₁]
  split
  · refine Task.satisfies_op.mpr fun now s₂ ticked => Task.satisfies_ret.mpr ?_
    change BitVec 64 at now
    have moved := ticks_step ticked
    rw [Watch.tick, polling] at moved
    by_cases late : now ≥ start + ps2TimeoutDuration
    · simpa [late, Progress.lose] using moved
    · simpa [late] using moved
  · exact Task.satisfies_ret.mpr rfl

theorem sinceAck_keeps (disabled : ScanningDisabled port s) {e : DriverEvent} (still : portWrites [e] = []) :
    sinceAck s.2 e = s.2 := by
  rcases disabled with ⟨writes, since, -⟩
  rw [since, sinceAck, still, List.append_nil]

theorem polRecieveByte_seen (seen : s.1.retrieval = .seen) (disabled : ScanningDisabled port s) (g : Ps2) :
    Task.Satisfies (watching flagged) (ps2PolRecieveByte g) s fun r s' =>
      r.2 = { g with ps2Error := true } ∧ s' = s.lose ∨
        r.2 = g ∧ s' = ({ s.1 with retrieval := .outside }, s.2) := by
  refine Task.satisfies_op.mpr fun start s₁ ticked => ?_
  change BitVec 64 at start
  have starts : s₁ = ({ s.1 with retrieval := .polling start }, s.2) := by
    rw [ticks_step ticked, Watch.tick, seen]
  have polling : s₁.1.retrieval = .polling start := by rw [starts]
  have disabled₁ : ScanningDisabled port s₁ := by
    rw [starts]
    exact disabled
  refine (awaitOutputBuffer_polling polling).bind fun timedOut s₂ waited => ?_
  cases timedOut with
  | true =>
      rw [if_pos rfl] at waited ⊢
      refine Task.satisfies_op.mpr fun _ s₃ logged => Task.satisfies_ret.mpr (.inl ⟨rfl, ?_⟩)
      have disabled₂ : ScanningDisabled port s₂ := by
        rw [waited]
        exact disabled₁
      rw [logged, sinceAck_keeps disabled₂ rfl, waited, starts]
      simp [Watch.next, Progress.lose]
  | false =>
      rw [if_neg Bool.false_ne_true] at waited ⊢
      refine Task.satisfies_op.mpr fun b s₃ taken => Task.satisfies_ret.mpr (.inr ⟨rfl, ?_⟩)
      have disabled₂ : ScanningDisabled port s₂ := by
        rw [waited]
        exact disabled₁
      rw [taken, sinceAck_keeps disabled₂ rfl, waited, starts]
      simp [Watch.next, Watch.read]

theorem lost_step (lost : s.1.retrieval = .lost) (disabled : ScanningDisabled port s) {e : DriverEvent}
    {s' : Progress} (still : portWrites [e] = []) (step : watching flagged e s s') : s' = s := by
  rw [step, sinceAck_keeps disabled still]
  rcases s with ⟨⟨answers, retrieval⟩, since⟩
  cases lost
  rcases e with ⟨o, reply⟩
  cases o <;> simp [Watch.next, Watch.read, Watch.tick]

def Writeless (o : Op) : Prop := ∀ reply, portWrites [⟨o, reply⟩] = []

/-- Nothing changes once it is lost, as long as nothing is written. -/
theorem lost_then {α β : Type} {p : Driver α} {f : α → Driver β} {Q : β → Progress → Prop}
    (only : Task.Only Writeless p) (lost : s.1.retrieval = .lost) (disabled : ScanningDisabled port s)
    (rest : ∀ a, Task.Satisfies (watching flagged) (f a) s Q) :
    Task.Satisfies (watching flagged) (p >>= f) s Q := by
  have keeps : Task.Satisfies (watching flagged) p s fun _ s' => s' = s := by
    refine only.satisfies (I := (· = s)) ?_ rfl
    intro e still u u' step same
    rw [same] at step
    exact lost_step lost disabled (still e.reply) step
  refine keeps.bind fun a s' same => ?_
  rw [same]
  exact rest a

theorem polRecieveByte_lost (lost : s.1.retrieval = .lost) (disabled : ScanningDisabled port s)
    (set : g.ps2Error = true) :
    Task.Satisfies (watching flagged) (ps2PolRecieveByte g) s fun r s' =>
      r.2.ps2Error = true ∧ s' = s := by
  have ticks (reader : TickReader) : Writeless (.readTicks reader) := fun _ => rfl
  have reads (p : Port) : Writeless (.inb p) := fun _ => rfl
  refine lost_then (Task.only_perform.mpr (ticks _)) lost disabled fun start => ?_
  have polls := awaitOutputBuffer_only (reads ps2StatusPort) (ticks .polRecieveByte) start
  refine lost_then polls lost disabled fun timedOut => ?_
  split
  · exact lost_then (Task.only_perform.mpr fun _ => rfl) lost disabled fun _ =>
      Task.satisfies_ret.mpr ⟨rfl, rfl⟩
  · exact lost_then (Task.only_perform.mpr (reads _)) lost disabled fun _ =>
      Task.satisfies_ret.mpr ⟨set, rfl⟩

/-- Between two turns of the retrieval. -/
structure Retrieving (flagged : Bool) (port : BitVec 8) (g : Ps2) (s : Progress) : Prop where
  valid : ¬ g.InvalidPort port
  outside : s.1.retrieval = .outside
  disabled : ScanningDisabled port s
  flag : g.ps2Error = true ↔ s.1.Flagged flagged

/-- How a turn of the retrieval, or all of it, ends the function or the loop. -/
inductive Retrieved (flagged : Bool) (port : BitVec 8) (g : Ps2) (s : Progress) : Bool → Prop
  | atCondition : Retrieving flagged port g s → Retrieved flagged port g s true
  | enabled : s.1.retrieval = .outside → ScanningEnabled port s → Retrieved flagged port g s false
  | silenced : s.1.retrieval = .lost → ScanningDisabled port s → Retrieved flagged port g s false

/-- A byte that the retrieval sees is kept, or the function ends there. -/
theorem receive_satisfies (response : Ps2Response) (retrieving : Retrieving flagged port g s) :
    Task.Satisfies (watching flagged)
      (ps2PolRecieveByte g >>= fun r => .ret (keepByte response r.1 r.2)) (s.saw flagged)
      fun x s' => x.elim (fun state => Retrieving flagged port state.2 s')
        fun r => Retrieved flagged port r.2.2 s' r.1 := by
  have disabled : ScanningDisabled port (s.saw flagged) := retrieving.disabled
  by_cases carried : s.1.Flagged flagged
  · have lost : (s.saw flagged).1.retrieval = .lost := if_pos carried
    refine (polRecieveByte_lost lost disabled (retrieving.flag.mpr carried)).bind
      fun r s' received => Task.satisfies_ret.mpr ?_
    rw [keepByte, if_pos received.1, received.2]
    exact .silenced lost disabled
  · have seen : (s.saw flagged).1.retrieval = .seen := if_neg carried
    have clear : g.ps2Error = false := by simpa [carried] using retrieving.flag
    refine (polRecieveByte_seen seen disabled g).bind fun r s' received => Task.satisfies_ret.mpr ?_
    rcases received with ⟨set, lost⟩ | ⟨kept, back⟩
    · rw [keepByte, set, if_pos rfl, lost]
      exact .silenced rfl disabled
    · have same : s' = s := by
        rw [back, ← retrieving.outside]
        rfl
      rw [keepByte, kept, if_neg (by simp [clear]), same]
      exact retrieving

theorem retrieveByte_satisfies (response : Ps2Response) (retrieving : Retrieving flagged port g s) :
    Task.Satisfies (watching flagged) (retrieveByte port (response, g)) s fun x s' =>
      x.elim (fun state => Retrieving flagged port state.2 s')
        fun r => Retrieved flagged port r.2.2 s' r.1 := by
  rw [retrieveByte_eq]
  split
  · exact Task.satisfies_ret.mpr (.atCondition retrieving)
  · refine Task.satisfies_op.mpr fun start s₁ ticked => ?_
    have waits : s₁ = ({ s.1 with retrieval := .awaiting }, s.2) := by
      rw [ticks_step ticked]
      simp [Watch.tick, retrieving.outside]
    have awaiting : s₁.1.retrieval = .awaiting := by rw [waits]
    refine (awaitOutputBuffer_awaiting awaiting start).bind fun timedOut s₂ waited => ?_
    cases timedOut with
    | true =>
        rw [if_pos rfl] at waited ⊢
        refine Task.satisfies_op.mpr fun _ s₃ logged => ?_
        have back : s₃ = s := by
          have disabled₂ : ScanningDisabled port s₂ := by
            rw [waited, waits]
            exact retrieving.disabled
          rw [logged, sinceAck_keeps disabled₂ rfl, waited, waits]
          simp [Watch.next, ← retrieving.outside]
        rw [back]
        exact (enableScanning_satisfies retrieving.valid retrieving.outside
          retrieving.disabled).bind fun _ s₄ enabled =>
            Task.satisfies_ret.mpr (.enabled enabled.1 enabled.2)
    | false =>
        rw [if_neg Bool.false_ne_true] at waited ⊢
        have saw : s₂ = s.saw flagged := by
          rw [waited, waits]
          rfl
        rw [saw]
        exact receive_satisfies response retrieving

theorem identify_satisfies (valid : ¬ g.InvalidPort port) (outside : s.1.retrieval = .outside)
    (acked : s.2 = some []) (answers : g.ps2Error = true → s.1.answers = [ps2Ack]) :
    Task.Satisfies (watching g.ps2Error) (do
      let _ ← ps2PortWriteData g port ps2Identify
      ps2WaitForAck g port ps2Identify) s fun r s' => Retrieving g.ps2Error port r.2 s' := by
  rw [ps2PortWriteData_eq, if_neg valid]
  refine (sendToPort_satisfies outside _).bind fun _ s₁ sent => ?_
  have outside₁ : s₁.1.retrieval = .outside := by rw [sent, Progress.wrote_fst, outside]
  have since₁ : s₁.2 = some (commandTo port ps2Identify) := by
    rw [sent, Progress.wrote, acked]
    rfl
  have answers₁ (set : g.ps2Error = true) : s₁.1.answers = [ps2Ack] := by
    rw [sent, Progress.wrote_fst, answers set]
  refine (waitForAck_satisfies valid outside₁ _).mono fun r s₂ ends => ?_
  rcases ends with ends | ends
  · rcases ends with ⟨rfl, outside₂, ⟨writes, resends, since₂⟩, flagged⟩
    refine ⟨valid, outside₂, ⟨_, by rw [since₂, since₁]; rfl, ?_⟩, ?_⟩
    · exact resends_append (fun w member => member) resends
    · constructor
      · intro set
        exact ⟨set, by rw [flagged set, answers₁ set]; rfl⟩
      · exact fun both => both.1
  · rcases ends with ⟨rfl, outside₂, ⟨writes, resends, since₂⟩, flagged⟩
    refine ⟨valid, outside₂, ⟨_, by rw [since₂, since₁]; rfl, ?_⟩, ?_⟩
    · exact resends_append (fun w member => member) resends
    · constructor
      · exact fun set => absurd set Bool.false_ne_true
      · intro outcome
        rcases outcome with ⟨set, both⟩
        rcases flagged set with same | ⟨b, other, same⟩
        · simp [same, answers₁ set] at both
        · simp [same, answers₁ set, other] at both

/-- How an identification ends. -/
inductive Identified (port : BitVec 8) (s : Progress) : Prop
  | unacknowledged : s.2 = none → s.1.retrieval = .outside → Identified port s
  | enabled : ScanningEnabled port s → s.1.retrieval = .outside → Identified port s
  | silenced : ScanningDisabled port s → s.1.retrieval = .lost → Identified port s

theorem portIdentify_satisfies (valid : ¬ g.InvalidPort port) :
    Task.Satisfies (watching g.ps2Error) (ps2PortIdentify port g) (⟨[], .outside⟩, none)
      fun _ s => Identified port s := by
  unfold ps2PortIdentify
  rw [ps2PortWriteData_eq, if_neg valid]
  refine (sendToPort_satisfies rfl _).bind fun _ s₁ sent => ?_
  have start : s₁ = (⟨[], .outside⟩, none) := sent
  rw [start]
  refine (waitForAck_satisfies valid rfl _).bind fun r s₂ ends => ?_
  rcases ends with ends | ends
  · rcases ends with ⟨rfl, outside, ⟨writes, -, since⟩, answers⟩
    have more : (0 : Int) ≠ 1 := by decide
    dsimp only
    rw [if_neg more]
    have identified := identify_satisfies valid outside since answers
    rw [Task.satisfies_bind] at identified
    refine identified.bind fun _ s₃ waited => waited.bind fun r s₄ retrieving => ?_
    have retrieved : Task.Satisfies (watching g.ps2Error)
        (Task.iterate (retrieveByte port) (⟨0, #v[0, 0, 0]⟩, r.2)) s₄
        fun r s' => Retrieved g.ps2Error port r.2.2 s' r.1 :=
      Task.satisfies_iterate (I := fun state s' => Retrieving g.ps2Error port state.2 s')
        (fun state s' => retrieveByte_satisfies state.1) retrieving
    refine retrieved.bind fun r s₅ ends => ?_
    rcases r with ⟨atCondition, response, g'⟩
    cases ends with
    | atCondition retrieving =>
        exact (enableScanning_satisfies retrieving.valid retrieving.outside
          retrieving.disabled).bind fun _ s₆ enabled =>
            Task.satisfies_ret.mpr (.enabled enabled.2 enabled.1)
    | enabled outside enabled => exact Task.satisfies_ret.mpr (.enabled enabled outside)
    | silenced lost disabled => exact Task.satisfies_ret.mpr (.silenced disabled lost)
  · rcases ends with ⟨rfl, outside, ⟨writes, -, since⟩, -⟩
    exact Task.satisfies_ret.mpr (.unacknowledged since outside)

/-- A device that acknowledged DISABLE_SCANNING is sent ENABLE_SCANNING if and only if no byte of
its identity is seen and not kept. -/
theorem scanningRestored_iff (valid : ¬ g.InvalidPort port) {t : List DriverEvent}
    {r : Ps2Response × Ps2} (run : Task.Runs (ps2PortIdentify port g) t r) :
    ScanningRestored port t ↔ ¬ LosesByte g.ps2Error t := by
  have ends := portIdentify_satisfies valid t r _ run (follows_watching t _)
  unfold ScanningRestored LosesByte
  cases ends with
  | unacknowledged since outside =>
      dsimp only at since outside
      simp [since, outside]
  | enabled enabled outside =>
      rcases enabled with ⟨writes, since, sent⟩
      dsimp only at since outside
      simp [since, outside, sent]
  | silenced disabled lost =>
      have silenced := not_scanningEnabled disabled
      rcases disabled with ⟨writes, since, -⟩
      dsimp only at since lost
      simpa [ScanningEnabled, since, lost] using silenced

end Watching

/-- A keyboard, with the error flag clear. -/
theorem keyboard_restored :
    ScanningRestored 1 (scriptedRun [0xFA, 0xFA, 0xAB, 0x83, 0xFA]).1 :=
  (scanningRestored_iff (by decide) (scriptedRun_runs (by decide))).mpr (by decide)

/-- The error flag, set when nothing answered on the other port. -/
def flaggedRun : List DriverEvent × Ps2Response × Ps2 :=
  match Task.execute scripted 5 (ps2PortIdentify 1 { Ps2.loaded with ps2Error := true })
    ([0xFA, 0xFA, 0xAB, 0x83], 0) with
  | some (t, r, _) => (t, r)
  | none => ([], Ps2Response.empty, Ps2.loaded)

/-- A keyboard sends its identity, and its first byte is taken for the old error. -/
theorem flagged_not_restored :
    Task.Runs (ps2PortIdentify 1 { Ps2.loaded with ps2Error := true }) flaggedRun.1 flaggedRun.2 ∧
      ¬ ScanningRestored 1 flaggedRun.1 := by
  have computed : Task.execute scripted 5
      (ps2PortIdentify 1 { Ps2.loaded with ps2Error := true }) ([0xFA, 0xFA, 0xAB, 0x83], 0) =
        some (flaggedRun.1, flaggedRun.2, [0x83], 0) := rfl
  exact ⟨(Task.execute_runs computed).1, by decide⟩

end Flosp.Kernel
