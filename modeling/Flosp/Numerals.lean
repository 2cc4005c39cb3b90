import Flosp.Boot.Video
import Flosp.Kernel.NumberPrinters

/-! The numerals that the kernel and the bootloader print, and the buffers they are made in. -/

namespace Flosp.Boot

open Interaction

/-- `UINT64_MAX_DEC_DIGITS` and `UINT64_MAX_HEX_DIGITS`, the lengths of the buffers -/
def uint64MaxDecDigits : Nat := 20
def uint64MaxHexDigits : Nat := 16

def efiPrintnumStack (uninitialized : Int → Char16) (n : BitVec 64) : DigitStack Char16 :=
  digitStack bootIndices 10 decDigit 0 uninitialized n

/-- `efiPrintnum` with the types of its indices and what its buffer held before. -/
def efiPrintnum' (uninitialized : Int → Char16) (n : BitVec 64) : Program Unit :=
  efiPrintChars ((efiPrintnumStack uninitialized n).text 0)

def efiPrinthexStack (uninitialized : Int → Char16) (h : BitVec 64) : DigitStack Char16 :=
  digitStack bootIndices 16 hexDigit 0 uninitialized h

def efiPrinthex' (uninitialized : Int → Char16) (h : BitVec 64) (zeroX : BitVec 8) :
    Program Unit := do
  if zeroX ≠ 0 then
    efiPrint "0x"
  efiPrintChars ((efiPrinthexStack uninitialized h).text 0)

theorem decDigit_ne_zero : ∀ d, d < 10 → decDigit d ≠ 0 := by decide

theorem hexDigit_ne_zero : ∀ d, d < 16 → hexDigit d ≠ 0 := by decide

theorem efiPrintnum'_eq (uninitialized : Int → Char16) (n : BitVec 64) :
    efiPrintnum' uninitialized n = efiPrintnum n := by
  rw [efiPrintnum', efiPrintnumStack, digitStack_text bootIndices (by decide) decDigit_ne_zero]
  rfl

theorem efiPrinthex'_eq (uninitialized : Int → Char16) (h : BitVec 64) (zeroX : BitVec 8) :
    efiPrinthex' uninitialized h zeroX = efiPrinthex h zeroX := by
  rw [efiPrinthex', efiPrinthexStack, digitStack_text bootIndices (by decide) hexDigit_ne_zero]
  rfl

def printed (t : Trace) : List Char16 :=
  t.flatMap fun e =>
    match e.op with
    | .call (.outputString s) => s
    | _ => []

def PrintsText (p : Program Unit) (s : List Char16) : Prop :=
  ∀ t r, Runs p t r → printed t = s ∧ r = .ok ()

theorem efiPrintChars_prints (s : List Char16) : PrintsText (efiPrintChars s) s := by
  intro t r runs
  obtain ⟨reply, rest, rfl, run⟩ := runs_op.mp runs
  obtain ⟨rfl, rfl⟩ := runs_ret.mp run
  exact ⟨List.append_nil s, rfl⟩

theorem PrintsText.bind {p q : Program Unit} {s s' : List Char16} (first : PrintsText p s)
    (second : PrintsText q s') : PrintsText (p >>= fun _ => q) (s ++ s') := by
  intro t r runs
  obtain ⟨t₁, t₂, m, rfl, run, rest⟩ := runs_bind.mp runs
  obtain ⟨rfl, rfl⟩ := first t₁ m run
  obtain ⟨rfl, rfl⟩ := second t₂ r rest
  exact ⟨List.flatMap_append, rfl⟩

end Flosp.Boot

namespace Flosp

open Positional

structure PrintAlike (kernel : Kernel.Console → Kernel.Outcome Kernel.Console)
    (boot : Boot.Program Unit) (codes : List Nat) : Prop where
  kernel : ∀ k, kernel k = Kernel.kputchars (codes.map (BitVec.ofNat 8)) k
  boot : Boot.PrintsText boot (codes.map (BitVec.ofNat 16))

/-- `"0x"` -/
def hexPrefix (zeroX : BitVec 8) : List Nat := if zeroX ≠ 0 then [0x30, 0x78] else []

section Printers

variable {base : Nat} {n : BitVec 64}

theorem numeral_codes {β : Type} {digit : Nat → β} {char : Nat → β} (large : 1 < base)
    (coded : ∀ d, d < base → digit d = char (digitCode d)) (n : Nat) :
    (numeral base n).map digit = ((numeral base n).map digitCode).map char := by
  rw [List.map_map]
  apply List.map_congr_left
  intro d member
  exact coded d (numeral_lt large d member)

theorem kernel_hex_codes : ∀ d, d < 16 → Kernel.hexDigit d = BitVec.ofNat 8 (digitCode d) := by
  decide

theorem boot_dec_codes : ∀ d, d < 10 → Boot.decDigit d = BitVec.ofNat 16 (digitCode d) := by
  decide

theorem boot_hex_codes : ∀ d, d < 16 → Boot.hexDigit d = BitVec.ofNat 16 (digitCode d) := by
  decide

/-- The text that a printer of the kernel leaves is printed whole: no digit of it is the NUL. -/
theorem kprint_digits (large : 1 < base) {digit : Nat → BitVec 8}
    (digits : ∀ d, d < base → digit d ≠ 0)
    (coded : ∀ d, d < base → digit d = BitVec.ofNat 8 (digitCode d)) (u : Int → BitVec 8)
    (n : BitVec 64) (k : Kernel.Console) :
    Kernel.kprint ((digitStack kernelIndices base digit 0 u n).text 0) k =
      Kernel.kputchars (((numeral base n.toNat).map digitCode).map (BitVec.ofNat 8)) k := by
  have others := not_mem_numeral (n := n.toNat) large digits
  have finished := digitStack_finished kernelIndices large digit 0 u n
  rw [finished.text_eq others, Kernel.kprint_eq others, numeral_codes large coded]

theorem efiPrint_digits (large : 1 < base) {digit : Nat → Boot.Char16}
    (digits : ∀ d, d < base → digit d ≠ 0)
    (coded : ∀ d, d < base → digit d = BitVec.ofNat 16 (digitCode d)) (v : Int → Boot.Char16)
    (n : BitVec 64) :
    Boot.PrintsText (Boot.efiPrintChars ((digitStack bootIndices base digit 0 v n).text 0))
      (((numeral base n.toNat).map digitCode).map (BitVec.ofNat 16)) := by
  have others := not_mem_numeral (n := n.toNat) large digits
  have finished := digitStack_finished bootIndices large digit 0 v n
  rw [finished.text_eq others, numeral_codes large coded]
  exact Boot.efiPrintChars_prints _

theorem kprintNum_prints (u : Int → BitVec 8) (n : BitVec 64) (k : Kernel.Console) :
    Kernel.kprintNum u n k =
      Kernel.kputchars (((numeral 10 n.toNat).map digitCode).map (BitVec.ofNat 8)) k :=
  kprint_digits (by decide) Kernel.decDigit_ne_zero (fun _ small => Kernel.decDigit_code small) u n k

theorem efiPrintnum_prints (v : Int → Boot.Char16) (n : BitVec 64) :
    Boot.PrintsText (Boot.efiPrintnum' v n)
      (((numeral 10 n.toNat).map digitCode).map (BitVec.ofNat 16)) :=
  efiPrint_digits (by decide) Boot.decDigit_ne_zero boot_dec_codes v n

theorem kprintHex_prints (u : Int → BitVec 8) (h : BitVec 64) (zeroX : BitVec 8)
    (k : Kernel.Console) :
    Kernel.kprintHex' u h (decide (zeroX ≠ 0)) k = Kernel.kputchars
      ((hexPrefix zeroX ++ (numeral 16 h.toNat).map digitCode).map (BitVec.ofNat 8)) k := by
  have digits := kprint_digits (by decide) Kernel.hexDigit_ne_zero kernel_hex_codes u h
  rw [Kernel.kprintHex', hexPrefix, List.map_append, Kernel.kputchars_append]
  by_cases plain : zeroX ≠ 0
  · rw [decide_eq_true plain, if_pos rfl, if_pos plain, Kernel.kprint_eq (by decide)]
    congr 1
    funext k'
    exact digits k'
  · rw [decide_eq_false plain, if_neg plain]
    exact digits k

theorem efiPrinthex_prints (v : Int → Boot.Char16) (h : BitVec 64) (zeroX : BitVec 8) :
    Boot.PrintsText (Boot.efiPrinthex' v h zeroX)
      ((hexPrefix zeroX ++ (numeral 16 h.toNat).map digitCode).map (BitVec.ofNat 16)) := by
  have digits := efiPrint_digits (by decide) Boot.hexDigit_ne_zero boot_hex_codes v h
  rw [Boot.efiPrinthex', hexPrefix, List.map_append]
  by_cases plain : zeroX ≠ 0
  · rw [if_pos plain, if_pos plain]
    exact (Boot.efiPrintChars_prints (Boot.wide "0x")).bind digits
  · rw [if_neg plain, if_neg plain]
    exact digits

theorem digitStack_inside_iff {β : Type} (t : IndexTypes) (large : 1 < base) (digit : Nat → β)
    (nul : β) (uninitialized : Int → β) (n : BitVec 64) {length : Nat} (some : 1 < length) :
    (digitStack t base digit nul uninitialized n).buffer.Inside length ↔
      n.toNat < base ^ (length - 1) := by
  rw [(digitStack_finished t large digit nul uninitialized n).inside_iff, List.length_map,
    ← numeral_length_le_iff large (show 0 < length - 1 by omega)]
  omega

end Printers

/-- Number for number the two programs print the same numerals, in buffers that are long enough. -/
theorem numerals_agree :
    (∀ n : BitVec 64, n.toNat < 10 ^ 19 →
      ∃ codes, IsNumeral 10 n.toNat codes ∧ ∀ u v,
        (Kernel.kprintNumStack u n).buffer.Inside Kernel.ui64MaxDecDigits ∧
        (Boot.efiPrintnumStack v n).buffer.Inside Boot.uint64MaxDecDigits ∧
        PrintAlike (Kernel.kprintNum u n) (Boot.efiPrintnum' v n) codes) ∧
    ∀ h : BitVec 64, h.toNat < 16 ^ 15 →
      ∃ codes, IsNumeral 16 h.toNat codes ∧ ∀ u v,
        (Kernel.kprintHexStack u h).buffer.Inside Kernel.ui64MaxHexDigits ∧
        (Boot.efiPrinthexStack v h).buffer.Inside Boot.uint64MaxHexDigits ∧
        ∀ zeroX, PrintAlike (Kernel.kprintHex' u h (decide (zeroX ≠ 0)))
          (Boot.efiPrinthex' v h zeroX) (hexPrefix zeroX ++ codes) := by
  constructor
  · intro n small
    refine ⟨_, numeral_isNumeral (by decide) (by decide) n.toNat, ?_⟩
    intro u v
    refine ⟨?_, ?_, kprintNum_prints u n, efiPrintnum_prints v n⟩
    · exact (digitStack_inside_iff kernelIndices (by decide) _ 0 u n (by decide)).mpr small
    · exact (digitStack_inside_iff bootIndices (by decide) _ 0 v n (by decide)).mpr small
  · intro h small
    refine ⟨_, numeral_isNumeral (by decide) (by decide) h.toNat, ?_⟩
    intro u v
    refine ⟨?_, ?_, fun zeroX => ⟨kprintHex_prints u h zeroX, efiPrinthex_prints v h zeroX⟩⟩
    · exact (digitStack_inside_iff kernelIndices (by decide) _ 0 u h (by decide)).mpr small
    · exact (digitStack_inside_iff bootIndices (by decide) _ 0 v h (by decide)).mpr small

/-- The width of the target mode, and a usual LAPIC address. -/
theorem width_and_lapic_agree :
    (∃ codes, IsNumeral 10 800 codes ∧ ∀ u v,
      (Kernel.kprintNumStack u 800).buffer.Inside Kernel.ui64MaxDecDigits ∧
      (Boot.efiPrintnumStack v 800).buffer.Inside Boot.uint64MaxDecDigits ∧
      PrintAlike (Kernel.kprintNum u 800) (Boot.efiPrintnum' v 800) codes) ∧
    ∃ codes, IsNumeral 16 0xFEE00000 codes ∧ ∀ u v,
      (Kernel.kprintHexStack u 0xFEE00000).buffer.Inside Kernel.ui64MaxHexDigits ∧
      (Boot.efiPrinthexStack v 0xFEE00000).buffer.Inside Boot.uint64MaxHexDigits ∧
      ∀ zeroX, PrintAlike (Kernel.kprintHex' u 0xFEE00000 (decide (zeroX ≠ 0)))
        (Boot.efiPrinthex' v 0xFEE00000 zeroX) (hexPrefix zeroX ++ codes) :=
  ⟨numerals_agree.1 800 (by decide), numerals_agree.2 0xFEE00000 (by decide)⟩

/-- Every printer stays inside its buffer up to one digit less than the buffer has characters. -/
theorem printers_inside_iff (u : Int → BitVec 8) (v : Int → Boot.Char16) (n : BitVec 64) :
    ((Kernel.kprintNumStack u n).buffer.Inside Kernel.ui64MaxDecDigits ↔ n.toNat < 10 ^ 19) ∧
    ((Boot.efiPrintnumStack v n).buffer.Inside Boot.uint64MaxDecDigits ↔ n.toNat < 10 ^ 19) ∧
    ((Kernel.kprintHexStack u n).buffer.Inside Kernel.ui64MaxHexDigits ↔ n.toNat < 16 ^ 15) ∧
    ((Boot.efiPrinthexStack v n).buffer.Inside Boot.uint64MaxHexDigits ↔ n.toNat < 16 ^ 15) := by
  refine ⟨?_, ?_, ?_, ?_⟩
  · exact digitStack_inside_iff kernelIndices (by decide) _ 0 u n (by decide)
  · exact digitStack_inside_iff bootIndices (by decide) _ 0 v n (by decide)
  · exact digitStack_inside_iff kernelIndices (by decide) _ 0 u n (by decide)
  · exact digitStack_inside_iff bootIndices (by decide) _ 0 v n (by decide)

/-- The NUL behind the digits of a high address. -/
theorem highAddress_overruns :
    ¬ (Kernel.kprintHexStack (fun _ => 0) 0xFFFF800000000000).buffer.Inside
        Kernel.ui64MaxHexDigits ∧
      ¬ (Boot.efiPrinthexStack (fun _ => 0) 0xFFFF800000000000).buffer.Inside
        Boot.uint64MaxHexDigits ∧
      ¬ (Kernel.kprintNumStack (fun _ => 0) 0xFFFF800000000000).buffer.Inside
        Kernel.ui64MaxDecDigits ∧
      ¬ (Boot.efiPrintnumStack (fun _ => 0) 0xFFFF800000000000).buffer.Inside
        Boot.uint64MaxDecDigits := by
  decide +kernel

end Flosp
