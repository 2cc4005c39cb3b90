import Mathlib.Data.BitVec

/-! The base address of the LAPIC, in a model-specific register (`cpu/apic.c`,
`inc/cpu/cpu.h`). -/

namespace Flosp.Kernel

/-- The model-specific registers by their numbers. -/
abbrev Msrs := BitVec 64 → BitVec 64

/-- The halves of a register, the low one first. -/
def rdmsr (msr : BitVec 64) (regs : Msrs) : BitVec 32 × BitVec 32 :=
  ((regs msr).setWidth 32, (regs msr >>> 32).setWidth 32)

def wrmsr (msr : BitVec 64) (low high : BitVec 32) (regs : Msrs) : Msrs :=
  fun r => if r = msr then high ++ low else regs r

def ia32ApicBaseMsr : BitVec 64 := 0x1B
def ia32ApicBaseMsrEnable : BitVec 64 := 0x800

def lapicSetBase (base : BitVec 64) (regs : Msrs) : Msrs :=
  let low := (base &&& 0xfffff0000 ||| ia32ApicBaseMsrEnable).setWidth 32
  let high := (base >>> 32 &&& 0x0f).setWidth 32
  wrmsr ia32ApicBaseMsr low high regs

def lapicGetBase (regs : Msrs) : BitVec 64 :=
  let (low, high) := rdmsr ia32ApicBaseMsr regs
  (low &&& 0xfffff000).setWidth 64 ||| (high &&& 0x0f).setWidth 64 <<< 32

/-- The step of `enable_lapic` that turns the LAPIC on. -/
def enableLapicBase (regs : Msrs) : Msrs := lapicSetBase (lapicGetBase regs) regs

/-- Bits 35 to 12 of the register. -/
def apicBaseMask : BitVec 64 := 0xFFFFFF000

section Base

variable (regs : Msrs) (b : BitVec 64)

theorem halves_append (v : BitVec 64) : (v >>> 32).setWidth 32 ++ v.setWidth 32 = v := by
  apply BitVec.eq_of_getLsbD_eq
  intro i bound
  rw [BitVec.getLsbD_append]
  by_cases low : i < 32
  · simp [low]
  · have high : 32 + (i - 32) = i := by omega
    simp [low, high]
    omega

theorem wrmsr_self (msr : BitVec 64) (low high : BitVec 32) (regs : Msrs) :
    wrmsr msr low high regs msr = high ++ low := if_pos rfl

theorem lapicSetBase_value :
    lapicSetBase b regs ia32ApicBaseMsr = b &&& 0xFFFFF0000 ||| ia32ApicBaseMsrEnable := by
  have high : (b &&& 0xFFFFF0000 ||| ia32ApicBaseMsrEnable) >>> 32 = b >>> 32 &&& 0x0f := by
    rw [BitVec.ushiftRight_or_distrib, BitVec.ushiftRight_and_distrib]
    exact BitVec.or_zero
  rw [← halves_append (b &&& 0xFFFFF0000 ||| ia32ApicBaseMsrEnable), high]
  exact wrmsr_self ..

theorem halves_or (low high : BitVec 32) :
    low.setWidth 64 ||| high.setWidth 64 <<< 32 = high ++ low := by
  apply BitVec.eq_of_getLsbD_eq
  intro i bound
  rw [BitVec.getLsbD_append]
  by_cases below : i < 32
  · simp [below, bound]
  · have none : low.getLsbD i = false := BitVec.getLsbD_of_ge low i (by omega)
    simp [below, bound, none]

theorem lapicGetBase_eq : lapicGetBase regs = regs ia32ApicBaseMsr &&& apicBaseMask := by
  calc lapicGetBase regs
    _ = ((regs ia32ApicBaseMsr >>> 32).setWidth 32 &&& 0x0f) ++
        ((regs ia32ApicBaseMsr).setWidth 32 &&& 0xfffff000) := halves_or _ _
    _ = ((regs ia32ApicBaseMsr >>> 32).setWidth 32 ++ (regs ia32ApicBaseMsr).setWidth 32) &&&
        apicBaseMask := BitVec.and_append.symm
    _ = regs ia32ApicBaseMsr &&& apicBaseMask := by rw [halves_append]

/-- Four bits of the address do not come back. -/
theorem lapicGetBase_setBase : lapicGetBase (lapicSetBase b regs) = b &&& 0xFFFFF0000 := by
  have enable : ia32ApicBaseMsrEnable &&& apicBaseMask = 0 := by decide
  have masks : (0xFFFFF0000 : BitVec 64) &&& apicBaseMask = 0xFFFFF0000 := by decide
  rw [lapicGetBase_eq, lapicSetBase_value, BitVec.and_or_distrib_right, enable, BitVec.and_assoc,
    masks]
  exact BitVec.or_zero

theorem masked_iff : b &&& apicBaseMask &&& 0xFFFFF0000 = b &&& apicBaseMask ↔
    b &&& 0xF000 = 0 := by
  have split : apicBaseMask = 0xFFFFF0000 ||| 0xF000 := by decide
  have masks : apicBaseMask &&& 0xFFFFF0000 = 0xFFFFF0000 := by decide
  have apart : (0xFFFFF0000 : BitVec 64) &&& 0xF000 = 0#64 := by decide
  rw [BitVec.and_assoc, masks, split, BitVec.and_or_distrib_left]
  constructor
  · intro same
    calc b &&& 0xF000
      _ = (b &&& 0xFFFFF0000 ||| b &&& 0xF000) &&& 0xF000 := by
        rw [BitVec.and_or_distrib_right, BitVec.and_assoc, apart, BitVec.and_assoc,
          BitVec.and_self, BitVec.and_zero, BitVec.zero_or]
      _ = b &&& 0xFFFFF0000 &&& 0xF000 := by rw [← same]
      _ = 0 := by rw [BitVec.and_assoc, apart]; exact BitVec.and_zero
  · intro clear
    rw [clear]
    exact BitVec.or_zero.symm

theorem apicBaseMask_bit {i : Nat} (bound : i < 64) :
    apicBaseMask.getLsbD i = decide (12 ≤ i ∧ i < 36) := by
  have all : ∀ i : Fin 64, apicBaseMask.getLsbD i = decide (12 ≤ i.val ∧ i.val < 36) := by decide
  exact all ⟨i, bound⟩

theorem aligned_masked (small : b.toNat < 2 ^ 36) (aligned : b.toNat % 4096 = 0) :
    b &&& apicBaseMask = b := by
  apply BitVec.eq_of_getLsbD_eq
  intro i bound
  rw [BitVec.getLsbD_and, apicBaseMask_bit bound]
  by_cases inside : 12 ≤ i ∧ i < 36
  · rw [decide_eq_true inside, Bool.and_true]
  · rw [decide_eq_false inside, Bool.and_false, eq_comm]
    rcases Nat.lt_or_ge i 12 with low | high
    · have zero : b.toNat % 2 ^ 12 = 0 := aligned
      have bit := Nat.testBit_mod_two_pow b.toNat 12 i
      rw [zero, Nat.zero_testBit, decide_eq_true low, Bool.true_and] at bit
      exact bit.symm
    · exact Nat.testBit_lt_two_pow (Nat.lt_of_lt_of_le small
        (Nat.pow_le_pow_right (by decide) (by omega)))

/-- Where `enable_lapic` keeps the base address, and where the setter and the getter agree:
in bits 12 to 15 they do not. -/
theorem lapicBase_kept_iff (regs : Msrs) :
    ((lapicGetBase (enableLapicBase regs) = lapicGetBase regs ∧
        (enableLapicBase regs ia32ApicBaseMsr).getLsbD 11 = true) ↔
      regs ia32ApicBaseMsr &&& 0xF000 = 0) ∧
    ∀ b : BitVec 64, b.toNat < 2 ^ 36 → b.toNat % 4096 = 0 →
      (lapicGetBase (lapicSetBase b regs) = b ↔ b &&& 0xF000 = 0) := by
  constructor
  · have enabled : (enableLapicBase regs ia32ApicBaseMsr).getLsbD 11 = true := by
      rw [enableLapicBase, lapicSetBase_value, BitVec.getLsbD_or]
      exact Bool.or_true _
    rw [and_iff_left enabled, enableLapicBase, lapicGetBase_setBase, lapicGetBase_eq]
    exact masked_iff _
  · intro b small aligned
    have kept := masked_iff b
    rw [aligned_masked b small aligned] at kept
    rw [lapicGetBase_setBase]
    exact kept

def apicRegs (base : BitVec 64) : Msrs := fun r => if r = ia32ApicBaseMsr then base else 0

theorem apicRegs_kept :
    ((lapicGetBase (enableLapicBase (apicRegs 0xFEE00900)) = lapicGetBase (apicRegs 0xFEE00900) ∧
        (enableLapicBase (apicRegs 0xFEE00900) ia32ApicBaseMsr).getLsbD 11 = true) ↔
      apicRegs 0xFEE00900 ia32ApicBaseMsr &&& 0xF000 = 0) ∧
    (lapicGetBase (lapicSetBase 0xFEE00000 (apicRegs 0xFEE00900)) = 0xFEE00000 ↔
      (0xFEE00000 : BitVec 64) &&& 0xF000 = 0) :=
  ⟨(lapicBase_kept_iff (apicRegs 0xFEE00900)).1,
    (lapicBase_kept_iff (apicRegs 0xFEE00900)).2 0xFEE00000 (by decide) (by decide)⟩

/-- A LAPIC that the firmware has moved by one page is moved back. -/
theorem apicRegs_moved :
    lapicGetBase (apicRegs 0xFEE01900) = 0xFEE01000 ∧
      lapicGetBase (enableLapicBase (apicRegs 0xFEE01900)) = 0xFEE00000 ∧
      lapicGetBase (lapicSetBase 0xFEE01000 (apicRegs 0)) ≠ 0xFEE01000 := by
  decide

end Base

end Flosp.Kernel
