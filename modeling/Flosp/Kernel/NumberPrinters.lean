import Flosp.DigitStack
import Flosp.Kernel.Console

/-! The kernel's number printers (`drivers/vga.c`) with their 8-bit indices, and the digits that
`kprint_bin` prints. -/

namespace Flosp.Kernel

def decDigit (d : Nat) : BitVec 8 := BitVec.ofNat 8 (d + 48)

/-- `UI64_T_MAX_BIN_DIGITS` and so on, the lengths of the buffers -/
def ui64MaxBinDigits : Nat := 64
def ui64MaxDecDigits : Nat := 20
def ui64MaxHexDigits : Nat := 16

def kprintNumStack (uninitialized : Int → BitVec 8) (n : BitVec 64) : DigitStack (BitVec 8) :=
  digitStack kernelIndices 10 decDigit 0 uninitialized n

def kprintNum (uninitialized : Int → BitVec 8) (n : BitVec 64) (k : Console) : Outcome Console :=
  kprint ((kprintNumStack uninitialized n).text 0) k

def kprintHexStack (uninitialized : Int → BitVec 8) (h : BitVec 64) : DigitStack (BitVec 8) :=
  digitStack kernelIndices 16 hexDigit 0 uninitialized h

/-- `kprintHex` with the types of its indices and what its buffer held before. -/
def kprintHex' (uninitialized : Int → BitVec 8) (h : BitVec 64) (zeroX : Bool) (k : Console) :
    Outcome Console := do
  let k ← if zeroX then kprint (ascii "0x") k else .ok k
  kprint ((kprintHexStack uninitialized h).text 0) k

def kprintBinStack (uninitialized : Int → BitVec 8) (b : BitVec 64) (sizeB : BitVec 8) :
    DigitStack (BitVec 8) :=
  let s := DigitStack.empty kernelIndices uninitialized
  let s := if b = 0 then s.push kernelIndices (decDigit 0) else s
  (DigitStack.pushBits kernelIndices decDigit (sizeB.toNat * 8) b.toNat s).finish kernelIndices 0

def kprintBin (uninitialized : Int → BitVec 8) (b : BitVec 64) (sizeB : BitVec 8) (k : Console) :
    Outcome Console :=
  kprint ((kprintBinStack uninitialized b sizeB).text 0) k

def kputchars : List (BitVec 8) → Console → Outcome Console
  | [], k => .ok k
  | c :: s, k => kputchar c k >>= kputchars s

theorem kprint_eq {s : List (BitVec 8)} (others : 0 ∉ s) (k : Console) :
    kprint s k = kputchars s k := by
  induction s generalizing k with
  | nil => rfl
  | cons c s ih =>
      have char : c ≠ 0 := fun null => others (null ▸ List.mem_cons_self)
      rw [kprint, if_neg char, kputchars]
      congr 1
      funext k'
      exact ih (fun later => others (List.mem_cons_of_mem c later)) k'

theorem kputchars_append (s s' : List (BitVec 8)) (k : Console) :
    kputchars (s ++ s') k = kputchars s k >>= kputchars s' := by
  induction s generalizing k with
  | nil => rfl
  | cons c s ih =>
      rw [List.cons_append, kputchars, kputchars, bind_assoc]
      congr 1
      funext k'
      exact ih k'

theorem decDigit_ne_zero : ∀ d, d < 10 → decDigit d ≠ 0 := by decide

theorem hexDigit_ne_zero : ∀ d, d < 16 → hexDigit d ≠ 0 := by decide

theorem kprintHex'_eq (uninitialized : Int → BitVec 8) (h : BitVec 64) (zeroX : Bool) (k : Console) :
    kprintHex' uninitialized h zeroX k = kprintHex h zeroX k := by
  rw [kprintHex', kprintHexStack, digitStack_text kernelIndices (by decide) hexDigit_ne_zero]
  rfl

section Binary

variable {uninitialized : Int → BitVec 8} {b : BitVec 64} {sizeB : BitVec 8}

/-- `kprint_bin` hands `8 * size_b` binary digits of `b` to `kprint`, the most significant first,
and stores only in its buffer. -/
structure PrintsBits (uninitialized : Int → BitVec 8) (b : BitVec 64) (sizeB : BitVec 8) : Prop where
  text : ∃ codes : List Nat,
    (kprintBinStack uninitialized b sizeB).text 0 = codes.map (BitVec.ofNat 8) ∧
      codes.length = 8 * sizeB.toNat ∧
      Positional.read 2 codes = some (b.toNat % 2 ^ (8 * sizeB.toNat))
  inside : (kprintBinStack uninitialized b sizeB).buffer.Inside ui64MaxBinDigits

/-- The digits on the stack: a zero gets one more. -/
def bitDigits (b : BitVec 64) (sizeB : BitVec 8) : List Nat :=
  (if b = 0 then [0] else []) ++ Positional.lowDigits 2 (8 * sizeB.toNat) b.toNat

theorem bitDigits_lt (b : BitVec 64) (sizeB : BitVec 8) : ∀ d ∈ bitDigits b sizeB, d < 2 := by
  intro d member
  rcases List.mem_append.mp member with zero | bit
  · split at zero
    · rw [List.mem_singleton.mp zero]
      decide
    · cases zero
  · exact Positional.lowDigits_lt (by decide) _ _ d bit

theorem bitDigits_length (b : BitVec 64) (sizeB : BitVec 8) :
    (bitDigits b sizeB).length = (if b = 0 then 1 else 0) + 8 * sizeB.toNat := by
  rw [bitDigits, List.length_append, Positional.lowDigits_length]
  split <;> rfl

theorem decDigit_code {d : Nat} (small : d < 10) :
    decDigit d = BitVec.ofNat 8 (Positional.digitCode d) := by
  rw [decDigit, Positional.digitCode, if_pos small]

theorem kprintBin_finished (uninitialized : Int → BitVec 8) (b : BitVec 64) (some : 1 ≤ sizeB.toNat)
    (few : sizeB.toNat ≤ 8) :
    (kprintBinStack uninitialized b sizeB).Finished 0 ((bitDigits b sizeB).reverse.map decDigit) := by
  have length := bitDigits_length b sizeB
  have empty := DigitStack.empty_pushed kernelIndices uninitialized
  have pushed : DigitStack.Pushed kernelIndices
      (DigitStack.pushBits kernelIndices decDigit (sizeB.toNat * 8) b.toNat
        (if b = 0 then (DigitStack.empty kernelIndices uninitialized).push kernelIndices (decDigit 0)
        else DigitStack.empty kernelIndices uninitialized)) ((bitDigits b sizeB).map decDigit) := by
    rw [Nat.mul_comm, bitDigits]
    by_cases zero : b = 0
    · rw [if_pos zero, if_pos zero, List.map_append]
      exact (empty.push (decDigit 0) (by decide)).pushBits (by
        change 1 + _ ≤ 127
        omega)
    · rw [if_neg zero, if_neg zero, List.nil_append]
      exact empty.pushBits (by
        change 0 + _ ≤ 127
        omega)
  rw [List.map_reverse]
  refine pushed.finish 0 ?_ ?_
  · apply List.length_pos_iff.mp
    rw [List.length_map]
    omega
  · rw [List.length_map, length]
    split <;> omega

/-- What `kprint_bin` prints is right if and only if the number is not 0, of which it prints a
digit too many, and narrower than 64 bits, for which its buffer has no room for the NUL. -/
theorem printsBits_iff (uninitialized : Int → BitVec 8) (b : BitVec 64) {sizeB : BitVec 8}
    (some : 1 ≤ sizeB.toNat) (few : sizeB.toNat ≤ 8) :
    PrintsBits uninitialized b sizeB ↔ b ≠ 0 ∧ sizeB.toNat < 8 := by
  have finished := kprintBin_finished uninitialized b some few
  have length := bitDigits_length b sizeB
  have digits := bitDigits_lt b sizeB
  have coded : (bitDigits b sizeB).reverse.map decDigit =
      ((bitDigits b sizeB).reverse.map Positional.digitCode).map (BitVec.ofNat 8) := by
    rw [List.map_map]
    apply List.map_congr_left
    intro d member
    have bit := digits d (List.mem_reverse.mp member)
    exact decDigit_code (by omega)
  have others : 0 ∉ (bitDigits b sizeB).reverse.map decDigit := by
    intro member
    obtain ⟨d, inside, same⟩ := List.mem_map.mp member
    have bit := digits d (List.mem_reverse.mp inside)
    exact decDigit_ne_zero d (by omega) same
  have printed := finished.text_eq others
  constructor
  · rintro ⟨⟨codes, text, count, -⟩, inside⟩
    have stored := (finished.inside_iff _).mp inside
    have same := congrArg List.length (printed.symm.trans text)
    rw [List.length_map, List.length_reverse] at same stored
    rw [List.length_map, length, count] at same
    rw [length] at stored
    change _ < 64 at stored
    split at same
    · omega
    · next nonzero => exact ⟨nonzero, by omega⟩
  · rintro ⟨nonzero, narrow⟩
    rw [if_neg nonzero, Nat.zero_add] at length
    refine ⟨⟨_, printed.trans coded, ?_, ?_⟩, (finished.inside_iff _).mpr ?_⟩
    · rw [List.length_map, List.length_reverse, length]
    · rw [Positional.read_reverse (by decide) digits, bitDigits, if_neg nonzero, List.nil_append,
        Positional.ofDigits_lowDigits]
    · rw [List.length_map, List.length_reverse, length]
      change _ < 64
      omega

theorem fadtFlags_printed : 1 ≤ (2 : BitVec 8).toNat ∧ (2 : BitVec 8).toNat ≤ 8 ∧
    (PrintsBits (fun _ => 0) 0x13 2 ↔ (0x13 : BitVec 64) ≠ 0 ∧ (2 : BitVec 8).toNat < 8) :=
  ⟨by decide, by decide, printsBits_iff (fun _ => 0) 0x13 (by decide) (by decide)⟩

/-- A zero of two bytes comes out with 17 digits. -/
theorem zero_not_printed :
    (kprintBinStack (fun _ => 0) 0 2).text 0 = List.replicate 17 0x30 ∧
      ¬ PrintsBits (fun _ => 0) 0 2 := by
  have text : (kprintBinStack (fun _ => 0) 0 2).text 0 = List.replicate 17 0x30 := by decide +kernel
  refine ⟨text, ?_⟩
  rintro ⟨⟨codes, same, count, -⟩, -⟩
  rw [text] at same
  have length := congrArg List.length same
  rw [List.length_replicate, List.length_map, count] at length
  cases length

end Binary

end Flosp.Kernel
