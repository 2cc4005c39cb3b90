import Mathlib.Data.Nat.Digits.Lemmas

/-! Numerals in a base up to 16: the codes of their characters, the most significant digit
first, and the number that they are read back as. -/

namespace Positional

/-- `'0'` to `'9'` and `'A'` to `'F'`. -/
def digitCode (d : Nat) : Nat := if d < 10 then d + 48 else d + 55

def digitValue (code : Nat) : Option Nat :=
  if 48 ≤ code ∧ code < 58 then some (code - 48)
  else if 65 ≤ code ∧ code < 71 then some (code - 55)
  else none

/-- Reads on from the digits that came before; no other characters are read. -/
def readFrom (base : Nat) : Nat → List Nat → Option Nat
  | value, [] => some value
  | value, code :: codes =>
      (digitValue code).bind fun d =>
        if d < base then readFrom base (base * value + d) codes else none

def read (base : Nat) (codes : List Nat) : Option Nat := readFrom base 0 codes

/-- The numeral of `n`: a single 0, or digits of which the first is not 0. -/
structure IsNumeral (base n : Nat) (codes : List Nat) : Prop where
  digits : ∀ code ∈ codes, ∃ d, d < base ∧ code = digitCode d
  zero : n = 0 → codes = [digitCode 0]
  leading : n ≠ 0 → ∃ first rest, codes = first :: rest ∧ first ≠ digitCode 0
  value : read base codes = some n

/-- The digits of `n`, the most significant first. -/
def numeral (base n : Nat) : List Nat := if n = 0 then [0] else (Nat.digits base n).reverse

def lowDigits (base : Nat) : Nat → Nat → List Nat
  | 0, _ => []
  | count + 1, n => n % base :: lowDigits base count (n / base)

variable {base n : Nat}

theorem digitValue_digitCode {d : Nat} (small : d < 16) : digitValue (digitCode d) = some d := by
  rw [digitCode, digitValue]
  split
  · rw [if_pos (by omega), Nat.add_sub_cancel]
  · rw [if_neg (by omega), if_pos (by omega), Nat.add_sub_cancel]

theorem readFrom_digits (limit : base ≤ 16) {ds : List Nat} (digits : ∀ d ∈ ds, d < base)
    (value : Nat) :
    readFrom base value (ds.map digitCode) =
      some (ds.foldl (fun value d => base * value + d) value) := by
  induction ds generalizing value with
  | nil => rfl
  | cons d ds ih =>
      have first := digits d List.mem_cons_self
      rw [List.map_cons, readFrom, digitValue_digitCode (by omega), Option.bind_some,
        if_pos first, ih fun d later => digits d (List.mem_cons_of_mem _ later)]
      rfl

theorem read_reverse (limit : base ≤ 16) {ds : List Nat} (digits : ∀ d ∈ ds, d < base) :
    read base (ds.reverse.map digitCode) = some (Nat.ofDigits base ds) := by
  rw [read, readFrom_digits limit fun d member => digits d (List.mem_reverse.mp member),
    List.foldl_reverse, Nat.ofDigits_eq_foldr]
  congr 2
  funext d value
  exact Nat.add_comm _ _

section Numerals

theorem numeral_lt (large : 1 < base) : ∀ d ∈ numeral base n, d < base := by
  intro d member
  rw [numeral] at member
  split at member
  · rw [List.mem_singleton.mp member]
    omega
  · exact Nat.digits_lt_base large (List.mem_reverse.mp member)

theorem numeral_ne_nil (base : Nat) : numeral base n ≠ [] := by
  rw [numeral]
  split
  · exact List.cons_ne_nil 0 []
  · next nonzero =>
      exact fun none => Nat.digits_ne_nil_iff_ne_zero.mpr nonzero (List.reverse_eq_nil_iff.mp none)

theorem not_mem_numeral {β : Type} {digit : Nat → β} {c : β} (large : 1 < base)
    (digits : ∀ d, d < base → digit d ≠ c) : c ∉ (numeral base n).map digit := by
  intro member
  obtain ⟨d, inside, same⟩ := List.mem_map.mp member
  exact digits d (numeral_lt large d inside) same

theorem digitCode_ne_zero {d : Nat} (nonzero : d ≠ 0) : digitCode d ≠ digitCode 0 := by
  change digitCode d ≠ 48
  rw [digitCode]
  split <;> omega

/-- The numeral of a number that is not 0 begins with the last digit that division gives. -/
theorem numeral_isNumeral (large : 1 < base) (limit : base ≤ 16) (n : Nat) :
    IsNumeral base n ((numeral base n).map digitCode) where
  digits := by
    intro code member
    obtain ⟨d, inside, rfl⟩ := List.mem_map.mp member
    exact ⟨d, numeral_lt large d inside, rfl⟩
  zero := by
    intro zero
    rw [numeral, if_pos zero]
    rfl
  leading := by
    intro nonzero
    have some : Nat.digits base n ≠ [] := Nat.digits_ne_nil_iff_ne_zero.mpr nonzero
    have last := Nat.getLast_digit_ne_zero base nonzero
    refine ⟨digitCode ((Nat.digits base n).getLast some),
      ((Nat.digits base n).dropLast.reverse).map digitCode, ?_, digitCode_ne_zero last⟩
    have split := congrArg List.reverse (List.dropLast_append_getLast some)
    rw [List.reverse_append] at split
    rw [numeral, if_neg nonzero, ← split]
    rfl
  value := by
    rw [numeral]
    split
    · next zero =>
        rw [zero, ← List.reverse_singleton, read_reverse limit, Nat.ofDigits_singleton]
        intro d member
        rw [List.mem_singleton.mp member]
        omega
    · rw [read_reverse limit fun d member => Nat.digits_lt_base large member,
        Nat.ofDigits_digits]

theorem numeral_length_le_iff (large : 1 < base) {count : Nat} (some : 0 < count) :
    (numeral base n).length ≤ count ↔ n < base ^ count := by
  rw [numeral]
  split
  · next zero =>
      rw [zero]
      exact iff_of_true some (Nat.pow_pos (by omega))
  · rw [List.length_reverse, Nat.digits_length_le_iff large]

end Numerals

section LowDigits

theorem lowDigits_length (base count n : Nat) : (lowDigits base count n).length = count := by
  induction count generalizing n with
  | zero => rfl
  | succ count ih => rw [lowDigits, List.length_cons, ih]

theorem lowDigits_lt (positive : 0 < base) (count n : Nat) :
    ∀ d ∈ lowDigits base count n, d < base := by
  induction count generalizing n with
  | zero => exact fun d member => absurd member List.not_mem_nil
  | succ count ih =>
      intro d member
      rcases List.mem_cons.mp member with rfl | later
      · exact Nat.mod_lt n positive
      · exact ih (n / base) d later

theorem ofDigits_lowDigits (base count n : Nat) :
    Nat.ofDigits base (lowDigits base count n) = n % base ^ count := by
  induction count generalizing n with
  | zero => exact (Nat.mod_one n).symm
  | succ count ih =>
      calc Nat.ofDigits base (lowDigits base (count + 1) n)
          = n % base + base * (n / base % base ^ count) := by
            rw [lowDigits, Nat.ofDigits_cons, ih]
        _ = n % base ^ (count + 1) := by rw [Nat.pow_succ', Nat.mod_mul]

end LowDigits

end Positional
