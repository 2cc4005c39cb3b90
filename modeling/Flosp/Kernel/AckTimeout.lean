import Flosp.Kernel.PortIndependence

/-! When `ps2_wait_for_ack` gives up. It notes ticks at its start and compares them with
seconds. -/

namespace Flosp.Kernel

open Interaction

/-- One turn of the wait: what it performed, and the globals that the next turn begins with or
what the wait returns. -/
abbrev AckTurn := List DriverEvent × (Ps2 ⊕ Int × Ps2)

def GivesUp (x : Ps2 ⊕ Int × Ps2) : Prop := ∃ g, x = .inr (1, g)

/-- The reading of the tick counter at the end of a turn, of which the wait computes seconds. -/
def waitCheck : DriverEvent → Option (BitVec 64)
  | ⟨.readTicks .waitCheck, now⟩ => some now
  | _ => none

def waitChecks (t : List DriverEvent) : List (BitVec 64) := t.filterMap waitCheck

/-- The wait started at `start`, has made `turns` so far, and time did not go backwards. -/
structure AckWait (g : Ps2) (port command : BitVec 8) (start : BitVec 64) (turns : List AckTurn) :
    Prop where
  made : Task.Turns (awaitAck port command start) g turns
  rising : (start :: (turns.flatMap Prod.fst).filterMap tickReading).Pairwise (· ≤ ·)

/-- It gives up at the end of a turn if and only if its time is up. -/
def RespectsTimeout (start : BitVec 64) (turns : List AckTurn) : Prop :=
  ∀ turn ∈ turns, ∀ now ∈ waitChecks turn.1,
    GivesUp turn.2 ↔ start.toNat + ps2TimeoutDuration.toNat ≤ now.toNat

/-- In seconds the time is not up before it is up in ticks, or a hundred times as much has
passed. -/
def SecondsAgree (start now : BitVec 64) : Prop :=
  start.toNat + ps2TimeoutDuration.toNat < 2 ^ 64 ∧
    (now.toNat < start.toNat + ps2TimeoutDuration.toNat ∨
      100 * (start.toNat + ps2TimeoutDuration.toNat) ≤ now.toNat)

instance (start now : BitVec 64) : Decidable (SecondsAgree start now) :=
  inferInstanceAs (Decidable (_ ∧ _))

theorem waitForAck_turns {g : Ps2} {port command : BitVec 8} {t : List DriverEvent}
    {r : Int × Ps2} :
    Task.Runs (ps2WaitForAck g port command) t r ↔
      ∃ start turns u, Task.Turns (awaitAck port command start) g (turns ++ [(u, .inr r)]) ∧
        t = ⟨.readTicks .waitStart, start⟩ :: (turns.flatMap Prod.fst ++ u) := by
  apply Task.runs_op.trans
  constructor
  · intro runs
    rcases runs with ⟨start, rest, rfl, run⟩
    rcases Task.runs_iterate_iff.mp run with ⟨turns, u, made, rfl⟩
    exact ⟨start, turns, u, made, rfl⟩
  · intro outcome
    rcases outcome with ⟨start, turns, u, made, rfl⟩
    exact ⟨start, _, rfl, Task.runs_iterate_iff.mpr ⟨turns, u, made, rfl⟩⟩

section Checks

def NoCheck (o : Op) : Prop := o ≠ .readTicks .waitCheck

@[simp] theorem waitChecks_append (t u : List DriverEvent) :
    waitChecks (t ++ u) = waitChecks t ++ waitChecks u := List.filterMap_append

theorem waitChecks_eq_nil {t : List DriverEvent} (noCheck : ∀ e ∈ t, NoCheck e.op) :
    waitChecks t = [] := by
  apply List.filterMap_eq_nil_iff.mpr
  intro e member
  have other := noCheck e member
  rcases e with ⟨o, reply⟩
  cases o with
  | readTicks reader =>
      cases reader with
      | waitCheck => exact absurd rfl other
      | _ => rfl
  | _ => rfl

theorem waitCheck_reading {e : DriverEvent} {now : BitVec 64} (check : waitCheck e = some now) :
    tickReading e = some now := by
  unfold waitCheck at check
  split at check
  · exact check
  · cases check

theorem noCheck_allows : AllowsSend NoCheck where
  status := nofun
  ticks := nofun
  console _ := nofun
  send _ := nofun
  select := nofun

theorem polRecieveByte_noCheck (g : Ps2) : Task.Only NoCheck (ps2PolRecieveByte g) :=
  polRecieveByte_only nofun nofun (fun _ => nofun) nofun g

theorem waitChecks_only {α : Type} {p : Driver α} {t : List DriverEvent} {a : α}
    (only : Task.Only NoCheck p) (run : Task.Runs p t a) : waitChecks t = [] :=
  waitChecks_eq_nil (only.events run)

variable {start : BitVec 64} {g : Ps2} {t : List DriverEvent} {x : Ps2 ⊕ Int × Ps2}

theorem checkTimeout_runs (run : Task.Runs (checkTimeout start g) t x) :
    ∃ now, waitChecks t = [now] ∧ (GivesUp x ↔ secondsLate start now = true) := by
  rcases Task.runs_op.mp run with ⟨now, rest, rfl, compared⟩
  change BitVec 64 at now
  change Task.Runs (if now / 100 ≥ start + ps2TimeoutDuration then _ else _) rest x at compared
  refine ⟨now, ?_⟩
  by_cases late : now / 100 ≥ start + ps2TimeoutDuration
  · have verdict : secondsLate start now = true := decide_eq_true late
    rw [if_pos late] at compared
    rcases Task.runs_op.mp compared with ⟨⟨⟩, rest, rfl, gaveUp⟩
    rcases Task.runs_ret.mp gaveUp with ⟨rfl, rfl⟩
    simp [waitChecks, waitCheck, GivesUp, verdict]
  · have verdict : secondsLate start now = false := decide_eq_false late
    rw [if_neg late] at compared
    rcases Task.runs_ret.mp compared with ⟨rfl, rfl⟩
    simp [waitChecks, waitCheck, GivesUp, verdict]

theorem handleResponse_runs {port command response : BitVec 8}
    (run : Task.Runs (handleResponse port command start response g) t x) :
    ∀ now ∈ waitChecks t, GivesUp x ↔ secondsLate start now = true := by
  unfold handleResponse at run
  split at run
  · simp [(Task.runs_ret.mp run).1, waitChecks]
  · split at run
    · simp [(Task.runs_ret.mp run).1, waitChecks]
    · rcases Task.runs_bind.mp run with ⟨t₁, t₂, _, rfl, asked, ended⟩
      rcases checkTimeout_runs ended with ⟨now, checks, verdict⟩
      simpa [waitChecks_only (resendIfAsked_only noCheck_allows ..) asked, checks] using verdict

theorem awaitAck_givesUp {port command : BitVec 8}
    (run : Task.Runs (awaitAck port command start g) t x) :
    ∀ now ∈ waitChecks t, GivesUp x ↔ secondsLate start now = true := by
  rw [awaitAck_eq] at run
  rcases Task.runs_bind.mp run with ⟨t₁, t₂, received, rfl, polled, handled⟩
  simpa [waitChecks_only (polRecieveByte_noCheck g) polled] using handleResponse_runs handled

end Checks

theorem secondsLate_iff {start now : BitVec 64} (later : start ≤ now) :
    (secondsLate start now = true ↔
      start.toNat + ps2TimeoutDuration.toNat ≤ now.toNat) ↔ SecondsAgree start now := by
  have duration : ps2TimeoutDuration.toNat = 100 := rfl
  have inSeconds : (now / 100).toNat = now.toNat / 100 := BitVec.toNat_udiv
  have noted : (start + ps2TimeoutDuration).toNat = (start.toNat + 100) % 2 ^ 64 :=
    BitVec.toNat_add ..
  have below := now.isLt
  rw [BitVec.le_def] at later
  rw [secondsLate, decide_eq_true_iff, ge_iff_le, BitVec.le_def, inSeconds, noted, SecondsAgree,
    duration]
  omega

/-- The wait respects its timeout if and only if, at the end of each turn, seconds agree with
ticks. -/
theorem respectsTimeout_iff {g : Ps2} {port command : BitVec 8} {start : BitVec 64}
    {turns : List AckTurn} (wait : AckWait g port command start turns) :
    RespectsTimeout start turns ↔
      ∀ now ∈ turns.flatMap fun turn => waitChecks turn.1, SecondsAgree start now := by
  have later (turn : AckTurn) (member : turn ∈ turns) (now : BitVec 64)
      (checked : now ∈ waitChecks turn.1) : start ≤ now := by
    rcases List.mem_filterMap.mp checked with ⟨e, inside, reading⟩
    apply List.rel_of_pairwise_cons wait.rising
    apply List.mem_filterMap.mpr
    refine ⟨e, List.mem_flatMap.mpr ⟨turn, member, inside⟩, ?_⟩
    exact waitCheck_reading reading
  have each (turn : AckTurn) (member : turn ∈ turns) (now : BitVec 64)
      (checked : now ∈ waitChecks turn.1) :
      (GivesUp turn.2 ↔ start.toNat + ps2TimeoutDuration.toNat ≤ now.toNat) ↔
        SecondsAgree start now := by
    rcases wait.made.each turn member with ⟨g', run⟩
    rw [← secondsLate_iff (later turn member now checked)]
    exact iff_congr (awaitAck_givesUp run now checked) Iff.rfl
  constructor
  · intro respects now checked
    rcases List.mem_flatMap.mp checked with ⟨turn, member, checked⟩
    exact (each turn member now checked).mp (respects turn member now checked)
  · intro agree turn member now checked
    exact (each turn member now checked).mpr
      (agree now (List.mem_flatMap.mpr ⟨turn, member, checked⟩))

/-- A turn at `now` in which the device sends 0xAA. -/
def strayByte (now : BitVec 64) : List DriverEvent :=
  [⟨.readTicks .polRecieveByte, now⟩, ⟨.inb ps2StatusPort, (1 : BitVec 8)⟩,
    ⟨.inb ps2DataPort, (0xAA : BitVec 8)⟩, ⟨.readTicks .waitCheck, now⟩]

theorem strayByte_wait {now : BitVec 64} (listed : now ∈ [(1050 : BitVec 64), 1100]) :
    AckWait Ps2.loaded 1 ps2DisableScanning 1000 [(strayByte now, .inl Ps2.loaded)] := by
  simp only [List.mem_cons, List.not_mem_nil, or_false] at listed
  rcases listed with rfl | rfl
  · have computed : Task.execute scripted 1 (awaitAck 1 ps2DisableScanning 1000 Ps2.loaded)
        ([0xAA], 1050) = some (strayByte 1050, .inl Ps2.loaded, [], 1050) := rfl
    exact ⟨.again (Task.execute_runs computed).1 (.none _), by decide⟩
  · have computed : Task.execute scripted 1 (awaitAck 1 ps2DisableScanning 1000 Ps2.loaded)
        ([0xAA], 1100) = some (strayByte 1100, .inl Ps2.loaded, [], 1100) := rfl
    exact ⟨.again (Task.execute_runs computed).1 (.none _), by decide⟩

theorem strayByte_early : RespectsTimeout 1000 [(strayByte 1050, .inl Ps2.loaded)] := by
  apply (respectsTimeout_iff (strayByte_wait (by decide))).mpr
  intro now checked
  rw [List.mem_singleton.mp checked]
  simp [SecondsAgree, ps2TimeoutDuration]

/-- At 1100 ticks the time is up, but 11 seconds are less than 1100. -/
theorem strayByte_late :
    AckWait Ps2.loaded 1 ps2DisableScanning 1000 [(strayByte 1100, .inl Ps2.loaded)] ∧
      ¬ RespectsTimeout 1000 [(strayByte 1100, .inl Ps2.loaded)] := by
  refine ⟨strayByte_wait (by decide), ?_⟩
  intro respects
  have verdict := respects _ List.mem_cons_self 1100 (by decide)
  rcases verdict.mpr (by decide) with ⟨g, gaveUp⟩
  cases gaveUp

end Flosp.Kernel
