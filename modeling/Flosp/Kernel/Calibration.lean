import Flosp.Kernel.DriverRuns
import Mathlib.Algebra.BigOperators.Group.Finset.Basic
import Mathlib.Order.Lattice.Nat

/-! How long `lapic_timer_init` waits for its calibration. -/

namespace Flosp.Kernel

open ByteMemory Interaction

/-- The count of an HPET at each reading of its main counter, a 64-bit register. -/
structure HpetCounter where
  count : Nat → Nat
  rising : Monotone count

/-- The machine on which `timers_init` runs, and the ticks when it starts. -/
structure Platform where
  mem : Memory 64
  tables : AcpiTables
  lapicAddr : Addr
  counter : HpetCounter
  ticks : BitVec 64

/-- The timer's state and the readings of the reference so far. -/
structure Clock where
  timer : TimerState
  readings : Nat

/-- `timer_handler` handles a number of interrupts. -/
inductive Handled (lapicAddr : Addr) : Nat → TimerState → TimerState → Prop where
  | none (t : TimerState) : Handled lapicAddr 0 t t
  | interrupt {n : Nat} {cpuStatus : Addr} {u : List DriverEvent} {t t' : TimerState}
      {r : Addr × TimerState} (handles : Task.Runs (timerHandler lapicAddr cpuStatus t) u r)
      (rest : Handled lapicAddr n r.2 t') : Handled lapicAddr (n + 1) t t'

namespace Platform

def hpetBase (p : Platform) : Addr := p.tables.hpetBase p.mem

def AcceptsHpet (p : Platform) : Prop := p.tables.AcceptsHpet p.mem

instance (p : Platform) : Decidable p.AcceptsHpet :=
  inferInstanceAs (Decidable (p.tables.AcceptsHpet p.mem))

def period (p : Platform) : BitVec 32 := p.tables.hpetPeriod p.mem

def hpet (p : Platform) : Hpet := p.tables.foundHpet p.mem

/-- `interrupts k` timer interrupts are handled just before reading `k` of the tick counter. -/
def step (p : Platform) (interrupts : Nat → Nat) : DriverEvent → Clock → Clock → Prop
  | ⟨.load a n, v⟩, s, s' => v = load p.mem a n ∧ s' = s
  | ⟨.loadVolatile a n, v⟩, s, s' =>
      if a = p.hpetBase + hpetOffsetMainCounterValue then
        v = BitVec.ofNat (8 * n) (p.counter.count s.readings) ∧
          s' = { s with readings := s.readings + 1 }
      else s' = s
  | ⟨.readTicks _, now⟩, s, s' =>
      Handled p.lapicAddr (interrupts s.readings) s.timer s'.timer ∧
        s'.readings = s.readings + 1 ∧ now = s'.timer.ticks
  | ⟨.enableLapicTimer, _⟩, s, s' =>
      s' = { s with timer := { s.timer with lapicTimerEnabled := true } }
  | _, s, s' => s' = s

def clock (p : Platform) (k : Nat) : Clock := ⟨⟨p.ticks, false⟩, k⟩

def femtoseconds (p : Platform) (k : Nat) : Nat := p.counter.count k * p.period.toNat

/-- From its first reading to reading `k` the HPET has advanced by 10 milliseconds. -/
def HpetPassed (p : Platform) (k : Nat) : Prop :=
  10 ^ 13 ≤ (p.counter.count k - p.counter.count 0) * p.period.toNat

/-- The same for the reference that the calibration has; an interrupt of the PIT comes every
10 milliseconds. -/
def TenMsPassed (p : Platform) (interrupts : Nat → Nat) (k : Nat) : Prop :=
  if p.AcceptsHpet then p.HpetPassed k else 1 ≤ ∑ i ∈ Finset.range k, interrupts (i + 1)

/-- The calibration comes to its wait, and this ends with the first reading at which 10
milliseconds have passed, whenever interrupts come. -/
def WaitsTenMs (p : Platform) : Prop :=
  ∀ interrupts, Task.Ensures (p.step interrupts)
    (beforeWait p.tables p.lapicAddr Hpet.loaded) (p.clock 0) fun g s => ∀ n,
      Task.Possible (p.step interrupts) (calibrationWait g) s (fun _ s' => s'.readings = n + 1) ↔
        IsLeast {k | 0 < k ∧ p.TenMsPassed interrupts k} n

end Platform

section Before

variable {p : Platform} {interrupts : Nat → Nat}

def Platform.Answers (p : Platform) : DriverEvent → Prop
  | ⟨.load a n, v⟩ => (let v : BitVec (8 * n) := v; v = load p.mem a n)
  | _ => True

def Platform.Idles (p : Platform) : Op → Prop
  | .loadVolatile a _ => a ≠ p.hpetBase + hpetOffsetMainCounterValue
  | .readTicks _ => False
  | .enableLapicTimer => False
  | _ => True

theorem step_idles {o : Op} {r : Reply o} {s s' : Clock} (idles : p.Idles o) :
    p.step interrupts ⟨o, r⟩ s s' ↔ p.Answers ⟨o, r⟩ ∧ s' = s := by
  cases o with
  | load a n => exact Iff.rfl
  | loadVolatile a n => exact (iff_of_eq (if_neg idles)).trans (and_iff_right trivial).symm
  | readTicks reader => exact idles.elim
  | enableLapicTimer => exact idles.elim
  | _ => exact (and_iff_right trivial).symm

theorem finds_platform (p : Platform) : FindsHpet p.tables p.mem p.Answers p.Idles where
  prints _ _ := trivial
  pitMode _ := trivial
  pitData _ := trivial
  answered _ _ _ _ answer := answer
  base := trivial
  addressSpace := trivial
  revision := trivial
  capabilities := trivial
  readConfig := by
    simp [Platform.Idles, Platform.hpetBase, hpetOffsetGeneralConfiguration,
      hpetOffsetMainCounterValue]
  writeConfig _ := trivial

theorem beforeWait_ensures :
    Task.Ensures (p.step interrupts) (beforeWait p.tables p.lapicAddr Hpet.loaded) (p.clock 0)
      fun g s => s = p.clock 0 ∧ g = p.hpet := by
  have honors : Honors (p.step interrupts) p.Answers p.Idles (· = p.clock 0) := by
    rintro ⟨o, r⟩ s s' idles now rfl
    exact (step_idles idles).mp now
  have answers (o : Op) (s : Clock) (idles : p.Idles o) (_ : s = p.clock 0) :
      ∃ r s', p.step interrupts ⟨o, r⟩ s s' := by
    have answer : ∃ r, p.Answers ⟨o, r⟩ := by
      cases o with
      | load a n => exact ⟨load p.mem a n, rfl⟩
      | inb port => exact ⟨(0 : BitVec 8), trivial⟩
      | loadVolatile a n => exact ⟨(0 : BitVec (8 * n)), trivial⟩
      | readTicks reader => exact idles.elim
      | _ => exact ⟨(), trivial⟩
    obtain ⟨r, answered⟩ := answer
    exact ⟨r, s, (step_idles idles).mpr ⟨answered, rfl⟩⟩
  have ends := (finds_platform p).beforeWait_ends p.lapicAddr (fun _ => trivial) fun _ =>
    trivial
  exact (ends.ensures honors answers rfl).mono fun _ _ holds => ⟨holds.2, holds.1⟩

theorem hpetBaseAddr_ne_iff : p.hpet.hpetBaseAddr ≠ 0 ↔ p.AcceptsHpet :=
  AcpiTables.foundHpet_base_ne_iff

end Before

theorem isLeast_iff_first {A : Nat → Prop} {n : Nat} :
    IsLeast {k | 0 < k ∧ A k} n ↔ (0 < n ∧ A n) ∧ ∀ j, 0 < j → j < n → ¬ A j := by
  apply and_congr_right
  intro _
  constructor
  · intro least j more less holds
    have late : n ≤ j := least ⟨more, holds⟩
    omega
  · intro first j later
    by_contra earlier
    exact first j later.1 (by omega) later.2

section Wait

variable {p : Platform} {interrupts : Nat → Nat}

theorem timerHandler_disabled (lapicAddr cpuStatus : Addr) {t : TimerState}
    (disabled : t.lapicTimerEnabled = false) {u : List DriverEvent} {r : Addr × TimerState} :
    Task.Runs (timerHandler lapicAddr cpuStatus t) u r ↔ u = [] ∧ r = (cpuStatus, t) := by
  rw [timerHandler, disabled]
  exact Task.runs_ret

theorem handled_disabled {lapicAddr : Addr} {n : Nat} {t t' : TimerState}
    (disabled : t.lapicTimerEnabled = false) : Handled lapicAddr n t t' ↔ t' = t := by
  constructor
  · intro handled
    induction handled with
    | none t => rfl
    | interrupt handles rest ih =>
        obtain ⟨rfl, rfl⟩ := (timerHandler_disabled _ _ disabled).mp handles
        exact ih disabled
  · rintro rfl
    induction n with
    | zero => exact .none t'
    | succ n ih =>
        exact .interrupt ((timerHandler_disabled _ 0 disabled).mpr ⟨rfl, rfl⟩) ih

theorem readTicks_possible {reader : TickReader} (k : Nat) (Q : BitVec 64 → Clock → Prop) :
    Task.Possible (p.step interrupts) (readTicks reader) (p.clock k) Q ↔
      Q p.ticks (p.clock (k + 1)) := by
  have still {t' : TimerState} : Handled p.lapicAddr (interrupts k) (p.clock k).timer t' ↔
      t' = (p.clock k).timer := handled_disabled rfl
  apply Task.possible_op.trans
  constructor
  · rintro ⟨now, ⟨t', readings⟩, ⟨handled, rfl, rfl⟩, returned⟩
    cases still.mp handled
    exact Task.possible_ret.mp returned
  · intro holds
    exact ⟨p.ticks, p.clock (k + 1), ⟨still.mpr rfl, rfl, rfl⟩, Task.possible_ret.mpr holds⟩

theorem pollHpet_possible (accepts : p.AcceptsHpet) (k : Nat) (Q : BitVec 64 → Clock → Prop) :
    Task.Possible (p.step interrupts) (pollHpet p.hpet) (p.clock k) Q ↔
      Q (BitVec.ofNat 64 (p.femtoseconds k)) (p.clock (k + 1)) := by
  have product : BitVec.ofNat 64 (p.counter.count k) * p.period.setWidth 64 =
      BitVec.ofNat 64 (p.femtoseconds k) := by
    rw [Platform.femtoseconds, BitVec.ofNat_mul, ← BitVec.ofNat_toNat]
  rw [pollHpet, Platform.hpet, AcpiTables.foundHpet_accepted accepts, ← product]
  apply Task.possible_op.trans
  constructor
  · rintro ⟨now, s', step, returned⟩
    obtain ⟨rfl, rfl⟩ := (iff_of_eq (if_pos rfl)).mp step
    exact Task.possible_ret.mp returned
  · intro holds
    exact ⟨_, p.clock (k + 1), (iff_of_eq (if_pos rfl)).mpr ⟨rfl, rfl⟩,
      Task.possible_ret.mpr holds⟩

theorem pollingSleep_possible {S : Type} {step : DriverEvent → S → S → Prop} {states : Nat → S}
    {read : Driver (BitVec 64)} {time : Nat → BitVec 64}
    (reads : ∀ k (Q : BitVec 64 → S → Prop),
      Task.Possible step read (states k) Q ↔ Q (time k) (states (k + 1)))
    (duration : BitVec 64) {Q : Unit → S → Prop} :
    Task.Possible step (pollingSleep read duration) (states 0) Q ↔
      ∃ n, IsLeast {k | 0 < k ∧ time 0 + duration ≤ time k} n ∧ Q () (states (n + 1)) := by
  have polls (k : Nat) (Q : Bool → S → Prop) :
      Task.Possible step (do
        let now ← read
        return decide (now < time 0 + duration)) (states k) Q ↔
      Q (decide (time k < time 0 + duration)) (states (k + 1)) := by
    rw [Task.possible_bind, reads]
    exact Task.possible_ret
  rw [pollingSleep, Task.possible_bind, reads]
  apply (Task.possible_polling polls).trans
  simp only [isLeast_iff_first, Nat.zero_add, decide_eq_true_eq, decide_eq_false_iff_not,
    BitVec.not_lt]
  constructor
  · rintro ⟨m, before, ends, holds⟩
    rw [Nat.add_comm 1] at ends holds
    refine ⟨m + 1, ⟨⟨Nat.succ_pos m, ends⟩, ?_⟩, holds⟩
    intro j more less late
    have again := before (j - 1) (by omega)
    rw [Nat.add_comm 1, Nat.sub_add_cancel more] at again
    exact BitVec.not_lt.mpr late again
  · rintro ⟨n, ⟨⟨positive, late⟩, first⟩, holds⟩
    have shift : 1 + (n - 1) = n := by omega
    refine ⟨n - 1, ?_, ?_, ?_⟩
    · intro m below
      exact BitVec.not_le.mp (first (1 + m) (by omega) (by omega))
    · rw [shift]
      exact late
    · rw [shift]
      exact holds

theorem hpetWait_possible (accepts : p.AcceptsHpet) {Q : Unit → Clock → Prop} :
    Task.Possible (p.step interrupts) (calibrationWait p.hpet) (p.clock 0) Q ↔
      ∃ n, IsLeast {k | 0 < k ∧ BitVec.ofNat 64 (p.femtoseconds 0) + 10 * hpetMilliseconds ≤
        BitVec.ofNat 64 (p.femtoseconds k)} n ∧ Q () (p.clock (n + 1)) := by
  rw [calibrationWait, if_pos (hpetBaseAddr_ne_iff.mpr accepts)]
  exact pollingSleep_possible (pollHpet_possible accepts) _

theorem pitWait_possible (rejects : ¬ p.AcceptsHpet) {Q : Unit → Clock → Prop} :
    Task.Possible (p.step interrupts) (calibrationWait p.hpet) (p.clock 0) Q ↔
      ∃ n, IsLeast {k | 0 < k ∧ p.ticks + 10 ≤ p.ticks} n ∧ Q () (p.clock (n + 1)) := by
  rw [calibrationWait, if_neg (mt hpetBaseAddr_ne_iff.mp rejects)]
  exact pollingSleep_possible readTicks_possible _

@[simp] theorem exists_reading {A : Nat → Prop} {n : Nat} :
    (∃ m, A m ∧ (p.clock (m + 1)).readings = n + 1) ↔ A n := by
  simp [Platform.clock]

theorem beforeWait_iff {Q : Hpet → Clock → Prop} :
    Task.Ensures (p.step interrupts) (beforeWait p.tables p.lapicAddr Hpet.loaded) (p.clock 0) Q ↔
      Q p.hpet (p.clock 0) := by
  constructor
  · intro ensures
    obtain ⟨g, s, holds, rfl, rfl⟩ := ensures.possible.meets beforeWait_ensures.satisfies
    exact holds
  · intro holds
    apply beforeWait_ensures.mono
    rintro g s ⟨rfl, rfl⟩
    exact holds

end Wait

/-- Two properties have the same first positive number, or both none. -/
theorem isLeast_iff_isLeast {A B : Nat → Prop} :
    (∀ n, IsLeast {k | 0 < k ∧ A k} n ↔ IsLeast {k | 0 < k ∧ B k} n) ↔
      ∀ k, 0 < k → (∀ j, 0 < j → j < k → ¬ B j) → (A k ↔ B k) := by
  classical
  simp only [isLeast_iff_first]
  constructor
  · intro same k positive before
    constructor
    · intro hit
      have some : ∃ n, 0 < n ∧ A n := ⟨k, positive, hit⟩
      have first := (same (Nat.find some)).mp
        ⟨Nat.find_spec some, fun j more less holds => Nat.find_min some less ⟨more, holds⟩⟩
      rcases Nat.eq_or_lt_of_le (Nat.find_min' some ⟨positive, hit⟩) with now | earlier
      · rw [← now]
        exact first.1.2
      · exact absurd first.1.2 (before _ first.1.1 earlier)
    · intro hit
      exact ((same k).mpr ⟨⟨positive, hit⟩, before⟩).1.2
  · intro agree n
    constructor
    · rintro ⟨⟨positive, hit⟩, none⟩
      have before : ∀ j, 0 < j → j < n → ¬ B j := by
        intro j
        induction j using Nat.strongRecOn with
        | _ j ih =>
            intro more less first
            have earlier : ∀ i, 0 < i → i < j → ¬ B i := by
              intro i more' less'
              exact ih i less' more' (by omega)
            exact none j more less ((agree j more earlier).mpr first)
      exact ⟨⟨positive, (agree n positive before).mp hit⟩, before⟩
    · rintro ⟨⟨positive, hit⟩, before⟩
      have none : ∀ j, 0 < j → j < n → ¬ A j := by
        intro j more less first
        have earlier : ∀ i, 0 < i → i < j → ¬ B i := by
          intro i more' less'
          exact before i more' (by omega)
        exact before j more less ((agree j more earlier).mp first)
      exact ⟨⟨positive, (agree n positive before).mpr hit⟩, none⟩

/-- On the way from `low` to `high` a count of 64 bits does not start over, its whole rounds
aside. -/
def Straight (low high : Nat) : Prop := low % 2 ^ 64 + (high - low) % 2 ^ 64 < 2 ^ 64

def Platform.waitEnd (p : Platform) : Nat := p.femtoseconds 0 + 10 ^ 13

/-- Between reading `k` and the end of the wait the count of femtoseconds does not start over. -/
def Platform.InRound (p : Platform) (k : Nat) : Prop :=
  Straight (min (p.femtoseconds k) p.waitEnd) (max (p.femtoseconds k) p.waitEnd)

section Rounds

variable {p : Platform}

theorem hpetPassed_iff (k : Nat) : p.HpetPassed k ↔ p.waitEnd ≤ p.femtoseconds k := by
  have rises : p.femtoseconds 0 ≤ p.femtoseconds k :=
    Nat.mul_le_mul_right _ (p.counter.rising (Nat.zero_le k))
  rw [Platform.HpetPassed, Nat.sub_mul]
  change 10 ^ 13 ≤ p.femtoseconds k - p.femtoseconds 0 ↔ p.femtoseconds 0 + 10 ^ 13 ≤ _
  omega

/-- The comparison of `hpet_sleep` is right about a reading if and only if it is in one round
with the end. -/
theorem inRound_iff (k : Nat) :
    (BitVec.ofNat 64 (p.femtoseconds 0) + 10 * hpetMilliseconds ≤
        BitVec.ofNat 64 (p.femtoseconds k) ↔ p.HpetPassed k) ↔ p.InRound k := by
  have rises : p.femtoseconds 0 ≤ p.femtoseconds k :=
    Nat.mul_le_mul_right _ (p.counter.rising (Nat.zero_le k))
  have compared : BitVec.ofNat 64 (p.femtoseconds 0) + 10 * hpetMilliseconds ≤
      BitVec.ofNat 64 (p.femtoseconds k) ↔
      (p.femtoseconds 0 + 10 ^ 13) % 2 ^ 64 ≤ p.femtoseconds k % 2 ^ 64 := by
    rw [BitVec.le_def, BitVec.toNat_add, BitVec.toNat_ofNat, BitVec.toNat_ofNat, Nat.mod_add_mod]
    rfl
  rw [compared, hpetPassed_iff, Platform.InRound, Straight, Platform.waitEnd]
  omega

end Rounds

/-- Without an HPET there are interrupts for which the wait ends too early, or never. -/
theorem waitsTenMs_accepts {p : Platform} (waits : p.WaitsTenMs) : p.AcceptsHpet := by
  by_contra rejects
  have ends (interrupts : Nat → Nat) (n : Nat) :
      IsLeast {k | 0 < k ∧ p.ticks + 10 ≤ p.ticks} n ↔
        IsLeast {k | 0 < k ∧ 1 ≤ ∑ i ∈ Finset.range k, interrupts (i + 1)} n := by
    have same := beforeWait_iff.mp (waits interrupts) n
    simp only [Platform.TenMsPassed, if_neg rejects] at same
    rwa [pitWait_possible rejects, exists_reading] at same
  by_cases wraps : p.ticks + 10 ≤ p.ticks
  · -- no interrupt comes, but the wait ends
    have least : IsLeast {k | 0 < k ∧ p.ticks + 10 ≤ p.ticks} 1 :=
      ⟨⟨Nat.one_pos, wraps⟩, fun k late => late.1⟩
    have passed := ((ends (fun _ => 0) 1).mp least).1.2
    simp at passed
  · -- an interrupt comes, but the wait goes on
    have least : IsLeast {k | 0 < k ∧ 1 ≤ ∑ i ∈ Finset.range k, 1} 1 :=
      ⟨⟨Nat.one_pos, by simp⟩, fun k late => late.1⟩
    exact wraps ((ends (fun _ => 1) 1).mpr least).1.2

/-- The calibration waits for 10 milliseconds if and only if it has an HPET, and each reading up
to the end of the wait is in one round of the count of femtoseconds with it. -/
theorem waitsTenMs_iff (p : Platform) :
    p.WaitsTenMs ↔ p.AcceptsHpet ∧
      ∀ k, 0 < k → (∀ j, 0 < j → j < k → ¬ p.HpetPassed j) → p.InRound k := by
  have waits (accepts : p.AcceptsHpet) : p.WaitsTenMs ↔
      ∀ k, 0 < k → (∀ j, 0 < j → j < k → ¬ p.HpetPassed j) → p.InRound k := by
    calc p.WaitsTenMs
      _ ↔ ∀ interrupts : Nat → Nat, ∀ n,
            IsLeast {k | 0 < k ∧ BitVec.ofNat 64 (p.femtoseconds 0) + 10 * hpetMilliseconds ≤
              BitVec.ofNat 64 (p.femtoseconds k)} n ↔ IsLeast {k | 0 < k ∧ p.HpetPassed k} n := by
          simp only [Platform.WaitsTenMs, beforeWait_iff, hpetWait_possible accepts,
            exists_reading, Platform.TenMsPassed, if_pos accepts]
      _ ↔ _ := by
          rw [forall_const, isLeast_iff_isLeast]
          simp only [inRound_iff]
  constructor
  · intro holds
    have accepts := waitsTenMs_accepts holds
    exact ⟨accepts, (waits accepts).mp holds⟩
  · rintro ⟨accepts, rounds⟩
    exact (waits accepts).mpr rounds

/-- Without an HPET `timers_init` never returns, however many interrupts come, unless the tick
counter is about to wrap around. -/
theorem timersInit_endless {p : Platform} (rejects : ¬ p.AcceptsHpet)
    (ahead : p.ticks < p.ticks + 10) (interrupts : Nat → Nat) :
    ¬ Task.Possible (p.step interrupts) (timersInit p.tables p.lapicAddr Hpet.loaded) (p.clock 0)
      fun _ _ => True := by
  intro returns
  rw [timersInit_eq, Task.possible_bind] at returns
  obtain ⟨g, s, waits, rfl, rfl⟩ := returns.meets beforeWait_ensures.satisfies
  rw [Task.possible_bind, pitWait_possible rejects] at waits
  obtain ⟨n, least, -⟩ := waits
  exact absurd least.1.2 (BitVec.not_le.mpr ahead)

section Sample

def noHpet : Platform where
  mem := fun _ => 0
  tables := ⟨0, 0, 0, 0, 0⟩
  lapicAddr := 0xFEE00000
  counter := ⟨fun _ => 0, monotone_const⟩
  ticks := 0

theorem noHpet_not_waits : ¬ noHpet.WaitsTenMs ∧
    ¬ Task.Possible (noHpet.step fun _ => 1)
      (timersInit noHpet.tables noHpet.lapicAddr Hpet.loaded) (noHpet.clock 0) fun _ _ => True := by
  have rejects : ¬ noHpet.AcceptsHpet := fun accepts => accepts.1 rfl
  constructor
  · exact fun waits => rejects (waitsTenMs_accepts waits)
  · exact timersInit_endless rejects (by decide) _

end Sample

end Flosp.Kernel
