import Flosp.Kernel.Calibration

/-! How long `hpet_sleep` sleeps. Its femtoseconds are counted in 64 bits. -/

namespace Flosp.Kernel

open Interaction

/-- A sleep on the HPET: its period, the readings of its main counter, the first of them first,
and what is asked for. -/
structure Sleep where
  hpet : Hpet
  reading : Nat → BitVec 64
  rising : ∀ {j k}, j ≤ k → reading j ≤ reading k
  time : BitVec 64
  timeUnits : BitVec 64

namespace Sleep

def step (z : Sleep) : DriverEvent → Nat → Nat → Prop
  | ⟨.loadVolatile a n, v⟩, k, k' =>
      if a = z.hpet.hpetMainCntrAddr then
        v = BitVec.ofNat (8 * n) (z.reading k).toNat ∧ k' = k + 1
      else k' = k
  | _, k, k' => k' = k

def femtoseconds (z : Sleep) (k : Nat) : Nat := (z.reading k).toNat * z.hpet.hpetPeriod.toNat

def duration (z : Sleep) : Nat := z.time.toNat * z.timeUnits.toNat

def Passed (z : Sleep) (k : Nat) : Prop :=
  z.duration ≤ ((z.reading k).toNat - (z.reading 0).toNat) * z.hpet.hpetPeriod.toNat

instance (z : Sleep) (k : Nat) : Decidable (z.Passed k) := inferInstanceAs (Decidable (_ ≤ _))

/-- The sleep ends with the first reading by which its time has passed. -/
def Exact (z : Sleep) : Prop :=
  ∀ n, Task.Possible z.step (hpetSleep z.time z.timeUnits z.hpet) 0 (fun _ k => k = n + 1) ↔
    IsLeast {k | 0 < k ∧ z.Passed k} n

def wakeUp (z : Sleep) : Nat := z.femtoseconds 0 + z.duration

/-- Between reading `k` and the end of the sleep the count of femtoseconds does not start over,
whole rounds aside; but a reading before the end is no whole rounds away from it. -/
def InRound (z : Sleep) (k : Nat) : Prop :=
  if z.Passed k then Straight z.wakeUp (z.femtoseconds k)
  else Straight (z.femtoseconds k) z.wakeUp ∧ ¬ 2 ^ 64 ∣ z.wakeUp - z.femtoseconds k

section Readings

variable {z : Sleep}

theorem pollHpet_reading (k : Nat) (Q : BitVec 64 → Nat → Prop) :
    Task.Possible z.step (pollHpet z.hpet) k Q ↔ Q (BitVec.ofNat 64 (z.femtoseconds k)) (k + 1) := by
  have product : BitVec.ofNat 64 (z.reading k).toNat * z.hpet.hpetPeriod.setWidth 64 =
      BitVec.ofNat 64 (z.femtoseconds k) := by
    rw [femtoseconds, BitVec.ofNat_mul, ← BitVec.ofNat_toNat]
  rw [← product]
  apply Task.possible_op.trans
  constructor
  · intro returns
    rcases returns with ⟨now, k', answered, returned⟩
    rcases (iff_of_eq (if_pos rfl)).mp answered with ⟨rfl, rfl⟩
    exact Task.possible_ret.mp returned
  · intro holds
    exact ⟨_, k + 1, (iff_of_eq (if_pos rfl)).mpr ⟨rfl, rfl⟩, Task.possible_ret.mpr holds⟩

theorem passed_iff (k : Nat) : z.Passed k ↔ z.wakeUp ≤ z.femtoseconds k := by
  have rises : z.femtoseconds 0 ≤ z.femtoseconds k :=
    Nat.mul_le_mul_right _ (BitVec.le_def.mp (z.rising (Nat.zero_le k)))
  rw [Passed, Nat.sub_mul, wakeUp]
  change z.duration ≤ z.femtoseconds k - z.femtoseconds 0 ↔ _
  omega

/-- The comparison is right about a reading if and only if this is in one round with the end. -/
theorem inRound_iff (k : Nat) :
    (BitVec.ofNat 64 z.wakeUp ≤ BitVec.ofNat 64 (z.femtoseconds k) ↔ z.Passed k) ↔ z.InRound k := by
  rw [BitVec.le_def, BitVec.toNat_ofNat, BitVec.toNat_ofNat, InRound]
  by_cases passed : z.Passed k
  · have late := (passed_iff k).mp passed
    simp only [passed, iff_true, if_true, Straight]
    omega
  · have early := mt (passed_iff k).mpr passed
    simp only [passed, iff_false, if_false, Straight]
    omega

theorem hpetSleep_ends (n : Nat) :
    Task.Possible z.step (hpetSleep z.time z.timeUnits z.hpet) 0 (fun _ k => k = n + 1) ↔
      IsLeast {k | 0 < k ∧ BitVec.ofNat 64 z.wakeUp ≤ BitVec.ofNat 64 (z.femtoseconds k)} n := by
  have ends : BitVec.ofNat 64 (z.femtoseconds 0) + z.time * z.timeUnits =
      BitVec.ofNat 64 z.wakeUp := by
    rw [wakeUp, duration, BitVec.ofNat_add, BitVec.ofNat_mul, BitVec.ofNat_toNat,
      BitVec.ofNat_toNat, BitVec.setWidth_eq, BitVec.setWidth_eq]
  have sleeps := pollingSleep_possible (pollHpet_reading (z := z)) (z.time * z.timeUnits)
    (Q := fun _ k => k = n + 1)
  rw [ends] at sleeps
  simpa [hpetSleep] using sleeps

/-- The sleep lasts as long as asked if and only if each reading up to its end is in one round
of the count of femtoseconds with it. -/
theorem exact_iff (z : Sleep) :
    z.Exact ↔ ∀ k, 0 < k → (∀ j, 0 < j → j < k → ¬ z.Passed j) → z.InRound k := by
  simp only [Exact, hpetSleep_ends]
  rw [isLeast_iff_isLeast]
  simp only [inRound_iff]

end Readings

/-- 10 milliseconds asked of an HPET whose counter stands still just before the femtoseconds
start over. -/
def stopped : Sleep where
  hpet := ⟨100000000, 0xFED00000, 0xFED00010, 0xFED000F0⟩
  reading := fun _ => 184467440737
  rising := fun _ => BitVec.le_refl _
  time := 10
  timeUnits := hpetMilliseconds

theorem stopped_wakes : ¬ stopped.Exact := by
  intro sleeps
  have first : IsLeast {k | 0 < k ∧ BitVec.ofNat 64 stopped.wakeUp ≤
      BitVec.ofNat 64 (stopped.femtoseconds k)} 1 :=
    ⟨⟨Nat.one_pos, by decide⟩, fun k late => late.1⟩
  have passed := ((sleeps 1).mp ((hpetSleep_ends 1).mpr first)).1.2
  revert passed
  decide

end Sleep

end Flosp.Kernel
