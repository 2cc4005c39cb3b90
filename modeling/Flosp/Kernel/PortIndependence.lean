import Flosp.Kernel.ErrorFlag
import Flosp.Kernel.PromptDevice
import Flosp.Lib.Coupling
import Mathlib.Data.BitVec

/-! When the identification of port 2 does not depend on what port 1 did. -/

namespace Flosp.Kernel

open Interaction

def portByte : DriverEvent → Option (BitVec 8)
  | ⟨.inb _, b⟩ => some b
  | _ => none

def tickReading : DriverEvent → Option (BitVec 64)
  | ⟨.readTicks _, now⟩ => some now
  | _ => none

/-- The same reply, where a reading of the tick counter counts from the start of its run. -/
def SameReply (start start' : BitVec 64) (e e' : DriverEvent) : Prop :=
  portByte e = portByte e' ∧ (tickReading e).map (· - start) = (tickReading e').map (· - start')

/-- As long as two runs do the same, the controller and the device do the same at the same
times from the start. -/
def AnsweredAlike (start start' : BitVec 64) (u u' : List DriverEvent) : Prop :=
  Alongside (fun e e' _ _ => SameReply start start' e e') u u' ()

/-- The tick counter is past the start and far from wrapping around. -/
def InTime (start : BitVec 64) (e : DriverEvent) : Prop :=
  ∀ now ∈ tickReading e, start ≤ now ∧ now.toNat + ps2TimeoutDuration.toNat < 2 ^ 64

/-- The comparison of seconds with ticks in `ps2_wait_for_ack`. -/
def secondsLate (timeoutStart now : BitVec 64) : Bool :=
  decide (now / 100 ≥ timeoutStart + ps2TimeoutDuration)

/-- The start that `ps2_wait_for_ack` has noted last. -/
def noteStart : DriverEvent → BitVec 64 → BitVec 64
  | ⟨.readTicks .waitStart, now⟩, _ => now
  | _, timeoutStart => timeoutStart

def secondsVerdict : DriverEvent → BitVec 64 → Option Bool
  | ⟨.readTicks .waitCheck, now⟩, timeoutStart => some (secondsLate timeoutStart now)
  | _, _ => none

/-- How these comparisons come out in a run. -/
def secondsVerdicts (timeoutStart : BitVec 64) : List DriverEvent → List Bool
  | [] => []
  | e :: u => (secondsVerdict e timeoutStart).toList ++ secondsVerdicts (noteStart e timeoutStart) u

/-- Port 2 is identified alike with the globals `g` and `g'`, whenever it answers alike. Seconds
are compared with ticks, and the counter may wrap around: runs in which that makes a difference
are left out. -/
def IdentifiedAlike (g g' : Ps2) : Prop :=
  ∀ start start' u u' r r', Task.Runs (ps2PortIdentify 2 g) u r →
    Task.Runs (ps2PortIdentify 2 g') u' r' → AnsweredAlike start start' u u' →
    (∀ e ∈ u, InTime start e) → (∀ e ∈ u', InTime start' e) →
    secondsVerdicts start u = secondsVerdicts start' u' →
    r.1 = r'.1 ∧ portWrites u = portWrites u'

/-! The replies of two runs side by side. -/

/-- The relation of two replies, with the starts noted in the two runs. -/
def pairStep (start start' : BitVec 64) (e e' : DriverEvent) (noted noted' : BitVec 64 × BitVec 64) :
    Prop :=
  SameReply start start' e e' ∧ InTime start e ∧ InTime start' e' ∧
    secondsVerdict e noted.1 = secondsVerdict e' noted.2 ∧
    noted' = (noteStart e noted.1, noteStart e' noted.2)

section Pair

variable {start start' : BitVec 64}

theorem secondsVerdict_isSome {e e' : DriverEvent} (same : e.op = e'.op) (noted noted' : BitVec 64) :
    (secondsVerdict e noted).isSome = (secondsVerdict e' noted').isSome := by
  obtain ⟨o, reply⟩ := e
  obtain ⟨o', reply'⟩ := e'
  cases same
  cases o with
  | readTicks reader => cases reader <;> rfl
  | _ => rfl

theorem alongside_pair {u u' : List DriverEvent} {noted noted' : BitVec 64}
    (alike : AnsweredAlike start start' u u') (inTime : ∀ e ∈ u, InTime start e)
    (inTime' : ∀ e ∈ u', InTime start' e)
    (verdicts : secondsVerdicts noted u = secondsVerdicts noted' u') :
    Alongside (pairStep start start') u u' (noted, noted') := by
  induction u generalizing u' noted noted' with
  | nil => trivial
  | cons e u ih =>
      cases u' with
      | nil => trivial
      | cons e' u' =>
          intro same
          obtain ⟨⟨⟩, reply, alike'⟩ := alike same
          rw [secondsVerdicts, secondsVerdicts] at verdicts
          have count : (secondsVerdict e noted).toList.length =
              (secondsVerdict e' noted').toList.length := by
            have some := secondsVerdict_isSome same noted noted'
            revert some
            cases secondsVerdict e noted <;> cases secondsVerdict e' noted' <;> simp
          obtain ⟨now, later⟩ := List.append_inj verdicts count
          have verdict : secondsVerdict e noted = secondsVerdict e' noted' := by
            revert now
            cases secondsVerdict e noted <;> cases secondsVerdict e' noted' <;> simp
          refine ⟨_, ⟨reply, inTime e List.mem_cons_self, inTime' e' List.mem_cons_self, verdict,
            rfl⟩, ?_⟩
          exact ih alike' (fun x member => inTime x (List.mem_cons_of_mem e member))
            (fun x member => inTime' x (List.mem_cons_of_mem e' member)) later

/-- Two readings at the same time from the start. -/
structure SameTime (start start' now now' : BitVec 64) : Prop where
  elapsed : now - start = now' - start'
  past : start ≤ now
  past' : start' ≤ now'
  room : now.toNat + 100 < 2 ^ 64
  room' : now'.toNat + 100 < 2 ^ 64

theorem SameTime.timeout {t t' now now' : BitVec 64} (first : SameTime start start' t t')
    (second : SameTime start start' now now') :
    now ≥ t + ps2TimeoutDuration ↔ now' ≥ t' + ps2TimeoutDuration := by
  obtain ⟨elapsed₁, past₁, past₁', room₁, room₁'⟩ := first
  obtain ⟨elapsed₂, past₂, past₂', room₂, room₂'⟩ := second
  unfold ps2TimeoutDuration
  bv_omega

/-- Every operation but reading the tick counter or the memory. -/
def Timeless : Op → Prop
  | .readTicks _ | .load .. | .loadVolatile .. => False
  | _ => True

variable {noted : BitVec 64 × BitVec 64}

theorem timeless_same (o : Op) (r r' : Reply o) (noted noted' : BitVec 64 × BitVec 64)
    (timeless : Timeless o) (step : pairStep start start' ⟨o, r⟩ ⟨o, r'⟩ noted noted') :
    r = r' ∧ noted' = noted := by
  obtain ⟨⟨bytes, -⟩, -, -, -, rfl⟩ := step
  cases o with
  | inb port => exact ⟨Option.some_inj.mp bytes, rfl⟩
  | readTicks reader => exact timeless.elim
  | load | loadVolatile => exact timeless.elim
  | _ => exact ⟨rfl, rfl⟩

theorem timeless_coupled {α : Type} {p : Driver α} (only : Task.Only Timeless p) :
    Task.Coupled (pairStep start start') p p noted fun a a' noted' => a = a' ∧ noted' = noted :=
  Task.Coupled.refl only timeless_same noted

theorem ticks_timed (reader : TickReader) :
    Task.Coupled (pairStep start start') (getUptimeTicks reader) (getUptimeTicks reader) noted
      fun now now' noted' => SameTime start start' now now' ∧
        noted' = (noteStart ⟨.readTicks reader, now⟩ noted.1,
          noteStart ⟨.readTicks reader, now'⟩ noted.2) := by
  refine .op fun now now' noted' step => .ret ?_
  obtain ⟨⟨-, elapsed⟩, inTime, inTime', -, kept⟩ := step
  obtain ⟨past, room⟩ := inTime now rfl
  obtain ⟨past', room'⟩ := inTime' now' rfl
  exact ⟨⟨Option.some_inj.mp elapsed, past, past', room, room'⟩, kept⟩

theorem ticks_coupled {reader : TickReader} (other : reader ≠ .waitStart) :
    Task.Coupled (pairStep start start') (getUptimeTicks reader) (getUptimeTicks reader) noted
      fun now now' noted' => SameTime start start' now now' ∧ noted' = noted := by
  refine (ticks_timed reader).mono fun now now' noted' timed => ⟨timed.1, timed.2.trans ?_⟩
  cases reader with
  | waitStart => contradiction
  | _ => rfl

theorem seconds_coupled :
    Task.Coupled (pairStep start start') (getUptimeSeconds .waitCheck) (getUptimeSeconds .waitCheck)
      noted fun now now' noted' =>
        (now ≥ noted.1 + ps2TimeoutDuration ↔ now' ≥ noted.2 + ps2TimeoutDuration) ∧
          noted' = noted := by
  refine .op fun now now' noted' step => .ret ?_
  obtain ⟨-, -, -, verdict, kept⟩ := step
  exact ⟨decide_eq_decide.mp (Option.some_inj.mp verdict), kept⟩

/-! The functions of `ps2.c` side by side. -/

/-- The globals that the transfers read agree. -/
structure SameFlags (g g' : Ps2) : Prop where
  port1 : g.port1 = g'.port1
  port2 : g.port2 = g'.port2
  ps2Error : g.ps2Error = g'.ps2Error

variable {g g' : Ps2}

theorem SameFlags.setError (same : SameFlags g g') (failed : Bool) :
    SameFlags { g with ps2Error := failed } { g' with ps2Error := failed } :=
  ⟨same.port1, same.port2, rfl⟩

theorem console_timeless (call : ConsoleCall) : Task.Only Timeless (console call) :=
  Task.only_perform.mpr trivial

theorem awaitOutputBuffer_coupled {reader : TickReader} (other : reader ≠ .waitStart)
    {t t' : BitVec 64} (first : SameTime start start' t t') :
    Task.Coupled (pairStep start start') (awaitOutputBuffer reader t) (awaitOutputBuffer reader t')
      noted fun timedOut timedOut' noted' => timedOut = timedOut' ∧ noted' = noted := by
  refine .iterate (I := fun _ _ noted' => noted' = noted) rfl fun _ _ noted' same => ?_
  subst same
  apply (timeless_coupled (outputBufferEmpty_only trivial)).bind
  intro empty empty' noted₁ same
  obtain ⟨rfl, rfl⟩ := same
  cases empty with
  | true =>
      apply (ticks_coupled other).bind
      intro now now' noted₂ timed
      apply Task.Coupled.ret
      obtain ⟨second, rfl⟩ := timed
      rw [if_congr (first.timeout second) rfl rfl]
      split
      · exact ⟨rfl, rfl⟩
      · rfl
  | false => exact .ret ⟨rfl, rfl⟩

theorem awaitInputBuffer_coupled (t t' : BitVec 64) :
    Task.Coupled (pairStep start start') (awaitInputBuffer t) (awaitInputBuffer t') noted
      fun timedOut timedOut' noted' => timedOut = timedOut' ∧ noted' = noted := by
  rw [awaitInputBuffer_eq, awaitInputBuffer_eq]
  apply timeless_coupled
  apply Task.only_iterate.mpr
  intro _
  exact Task.Only.bind (Task.only_perform.mpr trivial) fun _ => trivial

theorem portWriteData_coupled (same : SameFlags g g') (port b : BitVec 8) :
    Task.Coupled (pairStep start start') (ps2PortWriteData g port b) (ps2PortWriteData g' port b)
      noted fun _ _ noted' => noted' = noted := by
  have invalid : g.InvalidPort port ↔ g'.InvalidPort port := by
    rw [Ps2.InvalidPort, Ps2.InvalidPort, same.port1, same.port2]
  rw [ps2PortWriteData_eq, ps2PortWriteData_eq, if_congr invalid rfl rfl]
  split
  · refine (timeless_coupled (console_timeless _)).bind fun _ _ noted₁ kept => .ret kept.2
  · apply (timeless_coupled (selectPort_only trivial trivial port)).bind
    intro _ _ noted₁ kept
    obtain ⟨-, rfl⟩ := kept
    apply (ticks_coupled (by decide)).bind
    intro now now' noted₂ timed
    obtain ⟨-, rfl⟩ := timed
    apply (awaitInputBuffer_coupled now now').bind
    intro timedOut timedOut' noted₃ kept
    obtain ⟨rfl, rfl⟩ := kept
    split
    · exact .ret rfl
    · exact (timeless_coupled (writeData_only trivial (fun _ => trivial) b)).bind
        fun _ _ noted₄ kept => .ret kept.2

theorem polRecieveByte_coupled (same : SameFlags g g') :
    Task.Coupled (pairStep start start') (ps2PolRecieveByte g) (ps2PolRecieveByte g') noted
      fun r r' noted' => (r.1 = r'.1 ∧ SameFlags r.2 r'.2) ∧ noted' = noted := by
  apply (ticks_coupled (by decide)).bind
  intro now now' noted₁ timed
  obtain ⟨first, rfl⟩ := timed
  apply (awaitOutputBuffer_coupled (by decide) first).bind
  intro timedOut timedOut' noted₂ kept
  obtain ⟨rfl, rfl⟩ := kept
  split
  · exact (timeless_coupled (console_timeless _)).bind fun _ _ noted₃ kept =>
      .ret ⟨⟨rfl, same.setError true⟩, kept.2⟩
  · have read : Task.Only Timeless (inb ps2DataPort) := Task.only_perform.mpr trivial
    apply (timeless_coupled read).bind
    intro b b' noted₃ kept
    apply Task.Coupled.ret
    exact ⟨⟨kept.1, same⟩, kept.2⟩

/-- Two turns of a wait that noted `t` and `t'` go on or return alike. -/
def TurnsAlike (t t' : BitVec 64) (x x' : Ps2 ⊕ Int × Ps2) (noted : BitVec 64 × BitVec 64) : Prop :=
  Task.Together (fun g g' noted => SameFlags g g' ∧ noted = (t, t'))
    (fun r r' _ => r.1 = r'.1 ∧ SameFlags r.2 r'.2) x x' noted

theorem checkTimeout_coupled (same : SameFlags g g') (t t' : BitVec 64) :
    Task.Coupled (pairStep start start') (checkTimeout t g) (checkTimeout t' g') (t, t')
      (TurnsAlike t t') := by
  apply seconds_coupled.bind
  intro now now' noted₁ compared
  rcases compared with ⟨alike, rfl⟩
  rw [if_congr alike rfl rfl]
  split
  · exact (timeless_coupled (console_timeless _)).bind fun _ _ noted₂ _ => .ret ⟨rfl, same⟩
  · exact .ret ⟨same, rfl⟩

theorem resendIfAsked_coupled (same : SameFlags g g') (port cmd response : BitVec 8) :
    Task.Coupled (pairStep start start') (resendIfAsked port cmd response g)
      (resendIfAsked port cmd response g') noted fun _ _ noted' => noted' = noted := by
  unfold resendIfAsked
  split
  · exact (portWriteData_coupled same port cmd).bind fun _ _ noted₁ kept => .ret kept
  · exact .ret rfl

theorem handleResponse_coupled (same : SameFlags g g') (port cmd response : BitVec 8)
    (t t' : BitVec 64) :
    Task.Coupled (pairStep start start') (handleResponse port cmd t response g)
      (handleResponse port cmd t' response g') (t, t') (TurnsAlike t t') := by
  unfold handleResponse
  split
  · exact .ret ⟨rfl, same⟩
  · rw [← same.ps2Error]
    split
    · exact .ret ⟨rfl, same.setError false⟩
    · apply (resendIfAsked_coupled same port cmd response).bind
      intro _ _ noted₁ kept
      subst kept
      exact checkTimeout_coupled same t t'

/-- The wait notes its start, and the comparisons that follow it come out alike. -/
theorem waitForAck_coupled (same : SameFlags g g') (port cmd : BitVec 8) :
    Task.Coupled (pairStep start start') (ps2WaitForAck g port cmd) (ps2WaitForAck g' port cmd)
      noted fun r r' _ => r.1 = r'.1 ∧ SameFlags r.2 r'.2 := by
  apply (ticks_timed _).bind
  intro t t' noted₁ timed
  rcases timed with ⟨-, rfl⟩
  refine .iterate (I := fun g g' noted' => SameFlags g g' ∧ noted' = (t, t')) ⟨same, rfl⟩
    fun g g' noted₂ holds => ?_
  rcases holds with ⟨same, rfl⟩
  rw [awaitAck_eq, awaitAck_eq]
  apply (polRecieveByte_coupled same).bind
  intro r r' noted₃ got
  rcases got with ⟨⟨byte, same₁⟩, rfl⟩
  rw [← byte]
  exact handleResponse_coupled same₁ port cmd r.1 t t'

theorem enableScanning_coupled (same : SameFlags g g') (port : BitVec 8) :
    Task.Coupled (pairStep start start') (enableScanning port g) (enableScanning port g') noted
      fun g g' _ => SameFlags g g' := by
  apply (portWriteData_coupled same _ _).bind
  intro _ _ noted₁ _
  exact (waitForAck_coupled same _ _).bind fun r r' noted₂ holds => .ret holds.2

theorem retrieveByte_coupled (same : SameFlags g g') (port : BitVec 8) (response : Ps2Response) :
    Task.Coupled (pairStep start start') (retrieveByte port (response, g))
      (retrieveByte port (response, g')) noted
      (Task.Together (fun state state' _ => state.1 = state'.1 ∧ SameFlags state.2 state'.2)
        fun r r' _ => r.1 = r'.1 ∧ r.2.1 = r'.2.1 ∧ SameFlags r.2.2 r'.2.2) := by
  rw [retrieveByte_eq, retrieveByte_eq]
  split
  · exact .ret ⟨rfl, rfl, same⟩
  · apply (ticks_coupled (by decide)).bind
    intro now now' noted₁ timed
    apply (awaitOutputBuffer_coupled (by decide) timed.1).bind
    intro timedOut timedOut' noted₂ kept
    rcases kept with ⟨rfl, -⟩
    split
    · apply (timeless_coupled (console_timeless _)).bind
      intro _ _ noted₃ _
      apply (enableScanning_coupled same port).bind
      intro g₁ g₁' noted₄ same₁
      apply Task.Coupled.ret
      exact ⟨rfl, rfl, same₁⟩
    · apply (polRecieveByte_coupled same).bind
      intro r r' noted₃ got
      rcases got with ⟨⟨byte, same₁⟩, -⟩
      apply Task.Coupled.ret
      rw [keepByte, keepByte, ← same₁.ps2Error, ← byte]
      split
      · exact ⟨rfl, rfl, same₁.setError false⟩
      · exact ⟨rfl, same₁⟩

theorem portIdentify_coupled (same : SameFlags g g') (port : BitVec 8) :
    Task.Coupled (pairStep start start') (ps2PortIdentify port g) (ps2PortIdentify port g') noted
      fun r r' _ => r.1 = r'.1 := by
  apply (portWriteData_coupled same _ _).bind
  intro _ _ noted₁ _
  apply (waitForAck_coupled same _ _).bind
  intro ⟨failed, g₁⟩ ⟨failed', g₁'⟩ noted₂ holds
  obtain ⟨result, same₁⟩ := holds
  dsimp only at result same₁ ⊢
  subst result
  split
  · exact .ret rfl
  · apply (portWriteData_coupled same₁ _ _).bind
    intro _ _ noted₃ _
    apply (waitForAck_coupled same₁ _ _).bind
    intro ⟨_, g₂⟩ ⟨_, g₂'⟩ noted₄ holds
    obtain ⟨-, same₂⟩ := holds
    dsimp only at same₂ ⊢
    have retrieved : Task.Coupled (pairStep start start')
        (Task.iterate (retrieveByte port) (⟨0, #v[0, 0, 0]⟩, g₂))
        (Task.iterate (retrieveByte port) (⟨0, #v[0, 0, 0]⟩, g₂')) noted₄
        fun r r' _ => r.1 = r'.1 ∧ r.2.1 = r'.2.1 ∧ SameFlags r.2.2 r'.2.2 := by
      refine .iterate (I := fun state state' _ => state.1 = state'.1 ∧ SameFlags state.2 state'.2)
        ⟨rfl, same₂⟩ fun ⟨response, g₃⟩ ⟨response', g₃'⟩ noted₅ holds => ?_
      obtain ⟨rfl, same₃⟩ := holds
      exact retrieveByte_coupled same₃ port response
    apply retrieved.bind
    intro ⟨atCondition, response, g₃⟩ ⟨atCondition', response', g₃'⟩ noted₅ holds
    obtain ⟨condition, same_response, same₃⟩ := holds
    dsimp only at condition same_response same₃ ⊢
    subst condition same_response
    split
    · exact (enableScanning_coupled same₃ port).bind fun _ _ _ _ => .ret rfl
    · exact .ret rfl

end Pair

theorem portWrites_ops {u u' : List DriverEvent} (same : u.map Event.op = u'.map Event.op) :
    portWrites u = portWrites u' := by
  induction u generalizing u' with
  | nil =>
      cases u' with
      | nil => rfl
      | cons e' u' => cases same
  | cons e u ih =>
      cases u' with
      | nil => cases same
      | cons e' u' =>
          obtain ⟨op, rest⟩ := List.cons.inj same
          have first : portWrites [e] = portWrites [e'] := by
            simp only [portWrites, List.filterMap_cons, op]
          calc portWrites (e :: u) = portWrites [e] ++ portWrites u := portWrites_append [e] u
            _ = portWrites [e'] ++ portWrites u' := by rw [first, ih rest]
            _ = portWrites (e' :: u') := (portWrites_append [e'] u').symm

/-- Globals that agree on the flags make no difference. -/
theorem identifiedAlike_of_same {g g' : Ps2} (same : SameFlags g g') : IdentifiedAlike g g' := by
  intro start start' u u' r r' run run' alike inTime inTime' verdicts
  have alongside : Alongside (pairStep start start') (u ++ []) (u' ++ []) (start, start') := by
    rw [List.append_nil, List.append_nil]
    exact alongside_pair alike inTime inTime' verdicts
  obtain ⟨_, response, ops, -⟩ := (portIdentify_coupled same 2).sound run run' alongside
  exact ⟨response, portWrites_ops ops⟩

/-! A device that acknowledges everything tells a set flag from a clear one. -/

/-- Every reading of the status is 1, every byte 0xFA, and no tick passes. -/
def promptStep (e : DriverEvent) (_ _ : Unit) : Prop :=
  (∀ port, e.op = .inb port → portByte e = some (if port = ps2DataPort then ps2Ack else 1)) ∧
    (∀ reader, e.op = .readTicks reader → reader ≠ .waitCheck ∧ tickReading e = some 0)

theorem promptStep_inb (port : Port) (b : BitVec 8) (told : b = if port = ps2DataPort then ps2Ack else 1) :
    promptStep ⟨.inb port, b⟩ () () := by
  constructor
  · intro port' same
    cases same
    exact congrArg some told
  · intro reader same
    cases same

theorem prompt_promptStep : Prompt promptStep fun _ => True where
  status _ _ := ⟨(), promptStep_inb _ _ rfl, trivial⟩
  data _ _ := ⟨(), promptStep_inb _ _ rfl, trivial⟩
  ticks reader _ other _ := by
    refine ⟨(), ⟨?_, ?_⟩, trivial⟩
    · intro port same
      cases same
    · intro reader' same
      cases same
      exact ⟨other, rfl⟩
  outb _ _ _ _ := ⟨(), by simp [promptStep], trivial⟩
  console _ _ _ := ⟨(), by simp [promptStep], trivial⟩

theorem promptStep_same {e e' : DriverEvent} (same : e.op = e'.op) (first : promptStep e () ())
    (second : promptStep e' () ()) : SameReply 0 0 e e' := by
  obtain ⟨o, reply⟩ := e
  obtain ⟨o', reply'⟩ := e'
  cases same
  cases o with
  | inb port =>
      exact ⟨(first.1 port rfl).trans (second.1 port rfl).symm, rfl⟩
  | readTicks reader =>
      have read := (first.2 reader rfl).2.trans (second.2 reader rfl).2.symm
      exact ⟨rfl, congrArg (Option.map (· - 0)) read⟩
  | _ => exact ⟨rfl, rfl⟩

theorem follows_each {u : List DriverEvent} (follows : Follows promptStep u () ()) :
    ∀ e ∈ u, promptStep e () () := by
  induction u with
  | nil => simp
  | cons e u ih =>
      obtain ⟨⟨⟩, now, later⟩ := follows
      simp only [List.mem_cons, forall_eq_or_imp]
      exact ⟨now, ih later⟩

theorem promptStep_inTime {e : DriverEvent} (now : promptStep e () ()) : InTime 0 e := by
  obtain ⟨o, reply⟩ := e
  cases o with
  | readTicks reader =>
      intro reading member
      rw [(now.2 reader rfl).2] at member
      cases member
      decide
  | _ => nofun

theorem promptStep_verdicts {u : List DriverEvent} (each : ∀ e ∈ u, promptStep e () ())
    (noted : BitVec 64) : secondsVerdicts noted u = [] := by
  induction u generalizing noted with
  | nil => rfl
  | cons e u ih =>
      simp only [List.mem_cons, forall_eq_or_imp] at each
      have silent : secondsVerdict e noted = none := by
        obtain ⟨o, reply⟩ := e
        cases o with
        | readTicks reader =>
            have other := (each.1.2 reader rfl).1
            cases reader with
            | waitCheck => contradiction
            | _ => rfl
        | _ => rfl
      rw [secondsVerdicts, silent, ih each.2]
      rfl

/-- A device that answers at once is identified alike only with equal flags. -/
theorem sameError_of_identifiedAlike {g g' : Ps2} (alike : IdentifiedAlike g g') :
    g.ps2Error = g'.ps2Error := by
  have first (g : Ps2) : Task.Possible promptStep (ps2PortWriteData g 2 ps2DisableScanning) ()
      fun _ _ => True :=
    portWriteData_prompt prompt_promptStep ps2DisableScanning trivial
  obtain ⟨u, r, _, run, follows, returned, -⟩ := portIdentify_prompt prompt_promptStep (first g)
  obtain ⟨u', r', _, run', follows', returned', -⟩ := portIdentify_prompt prompt_promptStep (first g')
  have each := follows_each follows
  have each' := follows_each follows'
  have determined : ∀ (e e' : DriverEvent) (x₁ x₂ x₃ _ : Unit), e.op = e'.op →
      promptStep e x₁ x₂ → promptStep e' x₁ x₃ → x₂ = x₃ ∧ SameReply 0 0 e e' := by
    intro e e' x₁ x₂ x₃ _ same now now'
    exact ⟨rfl, promptStep_same same now now'⟩
  have answered : AnsweredAlike 0 0 u u' := Follows.alongside determined follows follows' ()
  have verdicts : secondsVerdicts 0 u = secondsVerdicts 0 u' := by
    rw [promptStep_verdicts each, promptStep_verdicts each']
  have response := (alike 0 0 u u' r r' run run' answered
    (fun e member => promptStep_inTime (each e member))
    (fun e member => promptStep_inTime (each' e member)) verdicts).1
  rw [returned, returned'] at response
  revert response
  unfold promptIdentity
  cases g.ps2Error <;> cases g'.ps2Error <;> simp [Ps2Response.empty]

/-- What `ps2_init` goes on with after the identification of port 1. -/
def afterPort1 (r : Ps2Response × Ps2) : Ps2 := { r.2 with identity1 := r.1 }

/-- After two identifications of port 1, port 2 is identified alike if and only if the device on
port 1 acknowledged in both or in neither. -/
theorem identifiedAlike_iff {g : Ps2} (clear : g.ps2Error = false) {t t' : List DriverEvent}
    {r r' : Ps2Response × Ps2} (run : Task.Runs (ps2PortIdentify 1 g) t r)
    (run' : Task.Runs (ps2PortIdentify 1 g) t' r') :
    IdentifiedAlike (afterPort1 r) (afterPort1 r') ↔ (Acknowledged t ↔ Acknowledged t') := by
  have error := portIdentify_error clear run
  have error' := portIdentify_error clear run'
  have flags : r.2.ps2Error = r'.2.ps2Error ↔ (Acknowledged t ↔ Acknowledged t') := by
    rw [Bool.eq_iff_iff, error, error', not_iff_not]
  rw [← flags]
  constructor
  · exact sameError_of_identifiedAlike
  · intro same
    obtain ⟨_, kept⟩ := portIdentify_same g t r _ run (follows_any t false)
    obtain ⟨_, kept'⟩ := portIdentify_same g t' r' _ run' (follows_any t' false)
    refine identifiedAlike_of_same ⟨?_, ?_, same⟩
    · simp [afterPort1, kept, kept']
    · simp [afterPort1, kept, kept']

/-- A device that sends `bytes` as it is asked for them. Time passes only while nothing is shown. -/
def scripted : (o : Op) → List (BitVec 8) × BitVec 64 → Reply o × List (BitVec 8) × BitVec 64
  | .inb port, (bytes, now) =>
      if port = ps2DataPort then (bytes.headD 0, bytes.tail, now)
      else if bytes = [] then ((0 : BitVec 8), bytes, now + ps2TimeoutDuration)
      else ((1 : BitVec 8), bytes, now)
  | .readTicks _, (bytes, now) => (now, bytes, now)
  | .load _ n, s | .loadVolatile _ n, s => (BitVec.zero (8 * n), s)
  | .outb _ _, s | .store _ _ _, s | .storeVolatile _ _ _, s | .enableLapicTimer, s
  | .console _, s | .lidt _, s | .sti, s => ((), s)

/-- The identification of port 1 with such a device. -/
def scriptedRun (bytes : List (BitVec 8)) : List DriverEvent × Ps2Response × Ps2 :=
  match Task.execute scripted 5 (ps2PortIdentify 1 Ps2.loaded) (bytes, 0) with
  | some (t, r, _) => (t, r)
  | none => ([], Ps2Response.empty, Ps2.loaded)

/-- No device, a device that sends 0xAA and nothing else, and a keyboard. -/
theorem scriptedRun_runs {bytes : List (BitVec 8)}
    (listed : bytes ∈ [[], [0xAA], [0xFA, 0xFA, 0xAB, 0x83, 0xFA]]) :
    Task.Runs (ps2PortIdentify 1 Ps2.loaded) (scriptedRun bytes).1 (scriptedRun bytes).2 := by
  have returns : (Task.execute scripted 5 (ps2PortIdentify 1 Ps2.loaded) (bytes, 0)).isSome := by
    simp only [List.mem_cons, List.not_mem_nil, or_false] at listed
    rcases listed with rfl | rfl | rfl <;> rfl
  unfold scriptedRun
  split
  · rename_i computed
    exact (Task.execute_runs computed).1
  · rename_i computed
    rw [computed] at returns
    cases returns

/-- Neither of these two devices acknowledges. -/
theorem noAnswer_alike :
    IdentifiedAlike (afterPort1 (scriptedRun []).2) (afterPort1 (scriptedRun [0xAA]).2) := by
  have both : Acknowledged (scriptedRun []).1 ↔ Acknowledged (scriptedRun [0xAA]).1 := by
    decide
  exact (identifiedAlike_iff rfl (scriptedRun_runs (by decide)) (scriptedRun_runs (by decide))).mpr
    both

/-- With nothing on port 1 another identity is read from port 2 than with a keyboard on port 1. -/
theorem emptyPort_not_alike :
    let empty := scriptedRun []
    let keyboard := scriptedRun [0xFA, 0xFA, 0xAB, 0x83, 0xFA]
    Task.Runs (ps2PortIdentify 1 Ps2.loaded) empty.1 empty.2 ∧
      Task.Runs (ps2PortIdentify 1 Ps2.loaded) keyboard.1 keyboard.2 ∧
      ¬ IdentifiedAlike (afterPort1 empty.2) (afterPort1 keyboard.2) := by
  refine ⟨scriptedRun_runs (by decide), scriptedRun_runs (by decide), fun alike => ?_⟩
  have same := sameError_of_identifiedAlike alike
  revert same
  decide

end Flosp.Kernel
