import Flosp.Kernel.Acpi
import Flosp.Kernel.Printing

/-! The two checksum routines for the root pointer: `validate_rsdp` (`cpu/apic.c`), which sums
signed characters in 32 bits, and `acpi_ccheck` (`cpu/acpi.c`), which sums bytes in 64 bits. -/

namespace Flosp.Kernel

open ByteMemory

/-- `sum += table[i]` with a byte widened to the sum's type, `turns` times from `i` on. -/
def sumLoop {w : Nat} (widen : BitVec 8 → BitVec w) (table : Addr) :
    Nat → BitVec 16 → BitVec w → KernelMachine → BitVec w × KernelMachine
  | 0, _, sum, m => (sum, m)
  | turns + 1, i, sum, m =>
      let (byte, m) := m.load .acpi (table + i.setWidth 64) 1
      sumLoop widen table turns (i + 1) (sum + widen byte) m

/-- `char` is signed, and `size_t` has 16 bits. -/
def validateRsdp (rsdpPtr : Addr) (size : BitVec 16) (m : KernelMachine) :
    BitVec 8 × KernelMachine :=
  let (sum, m) := sumLoop (BitVec.signExtend 32) rsdpPtr size.toNat 0 0 m
  (if sum &&& 0xFF = 0 then 1 else 0, m)

def xsdpSize : BitVec 16 := 36

def acpiCcheck (xsdpTable : Addr) (k : Console) : Outcome Console := do
  let (sum, machine) := sumLoop (BitVec.setWidth 64) xsdpTable xsdpSize.toNat 0 0 k.machine
  let k := { k with machine }
  if sum &&& 0xFF ≠ 0 then
    let k ← kernLog filterCritical "Fatal: ACPI checksum failed" k
    cpuFreeze k
  kernLog filterDebug "Debug: ACPI passed checksum" k

def byteSum (mem : Memory 64) (table : Addr) (size : Nat) : Nat :=
  ((List.range size).map fun i => (mem (table + BitVec.ofNat 64 i)).toNat).sum

/-- `acpi_ccheck` lets the table pass: it does not freeze the CPU, on any console. -/
def Accepts (mem : Memory 64) (xsdpTable : Addr) : Prop :=
  ∀ k : Console, k.machine.mem = mem → ∀ stopped, acpiCcheck xsdpTable k ≠ .error (.frozen stopped)

def Rejects (mem : Memory 64) (xsdpTable : Addr) : Prop :=
  ∀ k : Console, k.machine.mem = mem → ∀ k', acpiCcheck xsdpTable k ≠ .ok k'

theorem byteSum_congr {mem mem' : Memory 64} {table : Addr} {size : Nat} (small : size ≤ 2 ^ 64)
    (same : ∀ x, Within x table size → mem' x = mem x) :
    byteSum mem' table size = byteSum mem table size := by
  unfold byteSum
  congr 1
  apply List.map_congr_left
  intro i member
  rw [same _ (within_offset (List.mem_range.mp member) small)]

section Sum

variable {w : Nat} {widen : BitVec 8 → BitVec w}

theorem sumLoop_loads (widen : BitVec 8 → BitVec w) (table : Addr) (turns : Nat) (i : BitVec 16)
    (sum : BitVec w) (m : KernelMachine) : Loads m (sumLoop widen table turns i sum m).2 := by
  induction turns generalizing i sum m with
  | zero => exact .refl m
  | succ turns ih => exact (Loads.load m .acpi _ 1).trans (ih _ _ _)

/-- Whatever the bytes are widened to, in eight bits the sum is that of the unsigned bytes: by
induction on the turns. -/
theorem sumLoop_mod (wide : 8 ≤ w) (widens : ∀ c, (widen c).toNat % 2 ^ 8 = c.toNat) (table : Addr)
    {turns : Nat} {i : BitVec 16} (small : i.toNat + turns < 2 ^ 16) (sum : BitVec w)
    (m : KernelMachine) :
    (sumLoop widen table turns i sum m).1.toNat % 2 ^ 8 =
      (sum.toNat + ((List.range' i.toNat turns).map fun j =>
        (m.mem (table + BitVec.ofNat 64 j)).toNat).sum) % 2 ^ 8 := by
  induction turns generalizing i sum m with
  | zero => rfl
  | succ turns ih =>
      have next : (i + 1).toNat = i.toNat + 1 :=
        BitVec.toNat_add_of_lt (by change i.toNat + 1 < 2 ^ 16; omega)
      have place : table + i.setWidth 64 = table + BitVec.ofNat 64 i.toNat := by
        rw [BitVec.ofNat_toNat]
      have step : (sum + widen (m.mem (table + BitVec.ofNat 64 i.toNat))).toNat % 2 ^ 8 =
          (sum.toNat + (m.mem (table + BitVec.ofNat 64 i.toNat)).toNat) % 2 ^ 8 := by
        rw [BitVec.toNat_add, Nat.mod_mod_of_dvd _ (Nat.pow_dvd_pow 2 wide), Nat.add_mod, widens,
          Nat.mod_add_mod]
      rw [sumLoop, place]
      dsimp only
      rw [ih (by omega), Machine.load_fst, load_one, Machine.load_mem, next, List.range'_succ,
        List.map_cons, List.sum_cons, ← Nat.add_assoc, Nat.add_mod, step, ← Nat.add_mod]

theorem lowByte_eq_zero_iff (wide : 8 ≤ w) (x : BitVec w) :
    x &&& 0xFF = 0 ↔ x.toNat % 2 ^ 8 = 0 := by
  have mask : (0xFF : BitVec w).toNat = 2 ^ 8 - 1 :=
    Nat.mod_eq_of_lt (Nat.lt_of_lt_of_le (by decide) (Nat.pow_le_pow_right (by decide) wide))
  rw [← Nat.and_two_pow_sub_one_eq_mod, ← mask, ← BitVec.toNat_and]
  constructor
  · intro zero
    rw [zero]
    rfl
  · intro zero
    exact BitVec.eq_of_toNat_eq zero

theorem sumLoop_zero_iff (wide : 8 ≤ w) (widens : ∀ c, (widen c).toNat % 2 ^ 8 = c.toNat)
    (table : Addr) (size : BitVec 16) (m : KernelMachine) :
    (sumLoop widen table size.toNat 0 0 m).1 &&& 0xFF = 0 ↔
      byteSum m.mem table size.toNat % 256 = 0 := by
  have first : (0 : BitVec 16).toNat = 0 := rfl
  have small : (0 : BitVec 16).toNat + size.toNat < 2 ^ 16 := by
    rw [first, Nat.zero_add]
    exact size.isLt
  have sum := sumLoop_mod wide widens table small 0 m
  have zero : (0 : BitVec w).toNat = 0 := Nat.zero_mod _
  rw [zero, Nat.zero_add, first] at sum
  rw [lowByte_eq_zero_iff wide, sum, byteSum, List.range_eq_range']
  exact Iff.rfl

end Sum

section Verdicts

variable {table : Addr} {k : Console}

theorem validateRsdp_ne_zero_iff (table : Addr) (size : BitVec 16) (m : KernelMachine) :
    (validateRsdp table size m).1 ≠ 0 ↔ byteSum m.mem table size.toNat % 256 = 0 := by
  have signed : ∀ c : BitVec 8, (c.signExtend 32).toNat % 2 ^ 8 = c.toNat := by decide
  rw [← sumLoop_zero_iff (by decide) signed, validateRsdp]
  dsimp only
  split
  · next zero => exact iff_of_true (by decide) zero
  · next nonzero => exact iff_of_false (fun one => one rfl) nonzero

theorem cpuFreeze_bind {α β : Type} (k : Console) (f : α → Outcome β) :
    (cpuFreeze k >>= f) = cpuFreeze k := by
  rw [cpuFreeze, cpuFreeze]
  cases kernLog filterCritical "CPU Frozen" k with
  | error stop => rfl
  | ok k' => rfl

theorem acpiCcheck_zero_iff (table : Addr) (m : KernelMachine) :
    (sumLoop (BitVec.setWidth 64) table xsdpSize.toNat 0 0 m).1 &&& 0xFF = 0 ↔
      byteSum m.mem table 36 % 256 = 0 := by
  have unsigned : ∀ c : BitVec 8, (c.setWidth 64).toNat % 2 ^ 8 = c.toNat := by decide
  exact sumLoop_zero_iff (by decide) unsigned table xsdpSize m

theorem acpiCcheck_passes (zero : byteSum k.machine.mem table 36 % 256 = 0) :
    ∃ m, Loads k.machine m ∧ acpiCcheck table k =
      kernLog filterDebug "Debug: ACPI passed checksum" { k with machine := m } := by
  unfold acpiCcheck
  dsimp only
  rw [if_neg (not_not.mpr ((acpiCcheck_zero_iff table k.machine).mpr zero))]
  exact ⟨_, sumLoop_loads .., rfl⟩

theorem acpiCcheck_fails (nonzero : byteSum k.machine.mem table 36 % 256 ≠ 0) :
    ∃ m, acpiCcheck table k = kernLog filterCritical "Fatal: ACPI checksum failed"
      { k with machine := m } >>= cpuFreeze := by
  unfold acpiCcheck
  dsimp only
  rw [if_pos (mt (acpiCcheck_zero_iff table k.machine).mp nonzero)]
  refine ⟨(sumLoop (BitVec.setWidth 64) table xsdpSize.toNat 0 0 k.machine).2, ?_⟩
  apply congrArg
  funext k'
  exact cpuFreeze_bind k' _

/-- Messages do not freeze the CPU. -/
def NeverFreezes {α : Type} (r : Outcome α) : Prop := ∀ stopped, r ≠ .error (.frozen stopped)

theorem neverFreezes_ok {α : Type} (a : α) : NeverFreezes (.ok a : Outcome α) := by
  intro stopped same
  cases same

theorem neverFreezes_endless {α : Type} : NeverFreezes (.error .endless : Outcome α) := by
  intro stopped same
  cases same

theorem NeverFreezes.bind {α β : Type} {r : Outcome α} {f : α → Outcome β}
    (first : NeverFreezes r) (rest : ∀ a, NeverFreezes (f a)) : NeverFreezes (r >>= f) := by
  cases r with
  | error stop =>
      intro stopped same
      cases same
      exact first stopped rfl
  | ok a => exact rest a

theorem kscrollDown_neverFreezes (k : Console) : NeverFreezes (kscrollDown k) := by
  rw [kscrollDown]
  split
  · exact neverFreezes_endless
  · split
    · exact neverFreezes_endless
    · exact neverFreezes_ok _

theorem kputchar_neverFreezes (c : BitVec 8) (k : Console) : NeverFreezes (kputchar c k) := by
  rw [kputchar]
  split
  · exact neverFreezes_ok k
  · split
    · dsimp only
      split
      · exact kscrollDown_neverFreezes _
      · exact neverFreezes_ok _
    · dsimp only
      cases glyph k.fontSize c with
      | none => exact neverFreezes_ok k
      | some rows => exact neverFreezes_ok _

theorem kprint_neverFreezes (s : List (BitVec 8)) (k : Console) : NeverFreezes (kprint s k) := by
  induction s generalizing k with
  | nil => exact neverFreezes_ok k
  | cons c s ih =>
      rw [kprint]
      split
      · exact neverFreezes_ok k
      · exact (kputchar_neverFreezes c k).bind ih

theorem kernLog_neverFreezes (filter : BitVec 8) (msg : String) (k : Console) :
    NeverFreezes (kernLog filter msg k) := by
  rw [kernLog]
  split
  · exact (kprint_neverFreezes _ k).bind (kprint_neverFreezes _)
  · exact neverFreezes_ok k

theorem cpuFreeze_ne_ok {α : Type} (r : Outcome Console) (a : α) : (r >>= cpuFreeze) ≠ .ok a := by
  cases r with
  | error stop => nofun
  | ok k =>
      change cpuFreeze k ≠ _
      rw [cpuFreeze]
      cases kernLog filterCritical "CPU Frozen" k with
      | error stop => nofun
      | ok k' => nofun

theorem cpuFreeze_frozen {s : Screen} (on : k.On s) (filter : BitVec 8) (msg : String) :
    ∃ stopped, (kernLog filter msg k >>= cpuFreeze (α := Console)) = .error (.frozen stopped) := by
  obtain ⟨k₁, logs, prints⟩ := kernLog_prints on filter msg
  obtain ⟨k₂, frozen, -⟩ := kernLog_prints prints.on filterCritical "CPU Frozen"
  refine ⟨k₂, bind_ok logs ?_⟩
  rw [cpuFreeze]
  exact bind_ok frozen rfl

theorem accepts_iff (mem : Memory 64) (table : Addr) :
    Accepts mem table ↔ byteSum mem table 36 % 256 = 0 := by
  constructor
  · intro accepts
    by_contra nonzero
    obtain ⟨m, verdict⟩ := acpiCcheck_fails (k := cellConsole ⟨mem, []⟩) nonzero
    obtain ⟨stopped, frozen⟩ := cpuFreeze_frozen (cellConsole_on m) filterCritical
      "Fatal: ACPI checksum failed"
    exact accepts _ rfl stopped (verdict.trans frozen)
  · rintro zero k rfl stopped
    obtain ⟨m, -, verdict⟩ := acpiCcheck_passes zero
    rw [verdict]
    exact kernLog_neverFreezes _ _ _ stopped

theorem rejects_iff (mem : Memory 64) (table : Addr) :
    Rejects mem table ↔ byteSum mem table 36 % 256 ≠ 0 := by
  constructor
  · intro rejects zero
    obtain ⟨m, -, verdict⟩ := acpiCcheck_passes (k := cellConsole ⟨mem, []⟩) zero
    obtain ⟨k', logs, -⟩ := kernLog_prints (cellConsole_on m) filterDebug
      "Debug: ACPI passed checksum"
    exact rejects _ rfl k' (verdict.trans logs)
  · rintro nonzero k rfl k'
    obtain ⟨m, verdict⟩ := acpiCcheck_fails nonzero
    rw [verdict]
    exact cpuFreeze_ne_ok _ k'

end Verdicts

/-- The two routines agree on a root pointer, and `validate_rsdp` is the sum of the unsigned bytes
at any size. -/
theorem checksums_agree (table : Addr) (m : KernelMachine) :
    ((validateRsdp table xsdpSize m).1 ≠ 0 ↔ Accepts m.mem table) ∧
      ((validateRsdp table xsdpSize m).1 = 0 ↔ Rejects m.mem table) ∧
      ∀ size : BitVec 16, (validateRsdp table size m).1 ≠ 0 ↔
        byteSum m.mem table size.toNat % 256 = 0 := by
  have verdict := validateRsdp_ne_zero_iff table xsdpSize m
  refine ⟨?_, ?_, fun size => validateRsdp_ne_zero_iff table size m⟩
  · rw [accepts_iff]
    exact verdict
  · rw [rejects_iff, ← not_ne_iff]
    exact not_congr verdict

end Flosp.Kernel
