import Flosp.Lib.LoggedArray
import Flosp.Lib.Positional
import Flosp.Numeral

/-! The number printers with the integer types of their indices. The kernel's `kprint_hex`,
`kprint_num` and `kprint_bin` and the bootloader's `efi_printnum` and `efi_printhex` push digits
on a local array from `stack_top` equal to -1 on, reverse it in place and end it with a NUL. -/

namespace Flosp

/-- The integer types of `stack_top` and `tmp_index`, as the conversions to them. -/
structure IndexTypes where
  stackTop : Int → Int
  tmpIndex : Int → Int
  starts : stackTop (stackTop (-1) + 1) = 0
  stackTop_eq : ∀ i, 0 ≤ i → i < 128 → stackTop i = i
  tmpIndex_eq : ∀ i, 0 ≤ i → i < 128 → tmpIndex i = i

/-- `ui8_t` and `i8_t` -/
def kernelIndices : IndexTypes where
  stackTop := fun i => i % 2 ^ 8
  tmpIndex := fun i => i.bmod (2 ^ 8)
  starts := rfl
  stackTop_eq := by
    intro i positive small
    omega
  tmpIndex_eq := by
    intro i positive small
    exact Int.bmod_eq_of_le (by omega) (by omega)

/-- `INT16`, both of them -/
def bootIndices : IndexTypes where
  stackTop := fun i => i.bmod (2 ^ 16)
  tmpIndex := fun i => i.bmod (2 ^ 16)
  starts := rfl
  stackTop_eq := by
    intro i positive small
    exact Int.bmod_eq_of_le (by omega) (by omega)
  tmpIndex_eq := by
    intro i positive small
    exact Int.bmod_eq_of_le (by omega) (by omega)

/-- `stack_top` and `string_buffer` -/
structure DigitStack (β : Type) where
  stackTop : Int
  buffer : LoggedArray β

namespace DigitStack

variable {β : Type}

/-- Before the first digit; the buffer holds whatever the stack held. -/
def empty (t : IndexTypes) (uninitialized : Int → β) : DigitStack β :=
  ⟨t.stackTop (-1), ⟨uninitialized, []⟩⟩

/-- `stack_top++; string_buffer[stack_top] = c;` -/
def push (t : IndexTypes) (s : DigitStack β) (c : β) : DigitStack β :=
  let stackTop := t.stackTop (s.stackTop + 1)
  ⟨stackTop, s.buffer.put stackTop c⟩

/-- `while (n != 0)`; a 64-bit number runs out after at most 64 turns. -/
def pushDigits (t : IndexTypes) (base : Nat) (digit : Nat → β) :
    Nat → Nat → DigitStack β → DigitStack β
  | 0, _, s => s
  | turns + 1, n, s =>
      if n = 0 then s else pushDigits t base digit turns (n / base) (s.push t (digit (n % base)))

/-- The `for` of `kprint_bin`, with `turns` digits left. -/
def pushBits (t : IndexTypes) (digit : Nat → β) : Nat → Nat → DigitStack β → DigitStack β
  | 0, _, s => s
  | turns + 1, b, s => pushBits t digit turns (b / 2) (s.push t (digit (b % 2)))

/-- `for (; tmp_index > (stack_top/2); tmp_index--)`, with `tmp_index` no more than `turns` -/
def swapDigits (t : IndexTypes) (stackTop : Int) : Nat → Int → LoggedArray β → LoggedArray β
  | 0, _, b => b
  | turns + 1, tmpIndex, b =>
      if tmpIndex > stackTop.tdiv 2 then
        swapDigits t stackTop turns (t.tmpIndex (tmpIndex - 1))
          (b.swap (stackTop - tmpIndex) tmpIndex)
      else b

/-- The reversal and the terminating NUL. -/
def finish (t : IndexTypes) (nul : β) (s : DigitStack β) : DigitStack β :=
  let tmpIndex := t.tmpIndex s.stackTop
  let b := swapDigits t s.stackTop tmpIndex.toNat tmpIndex s.buffer
  ⟨s.stackTop, b.put (s.stackTop + 1) nul⟩

/-- What `kprint` and `efi_print` read: up to the first NUL, at `stack_top + 1` at the latest. -/
def text [DecidableEq β] (nul : β) (s : DigitStack β) : List β :=
  s.buffer.string nul (s.stackTop + 2).toNat 0

end DigitStack

def DigitStack.filled {β : Type} (t : IndexTypes) (base : Nat) (digit : Nat → β)
    (uninitialized : Int → β) (n : BitVec 64) : DigitStack β :=
  let s := DigitStack.empty t uninitialized
  let s := if n = 0 then s.push t (digit 0) else s
  DigitStack.pushDigits t base digit 64 n.toNat s

def digitStack {β : Type} (t : IndexTypes) (base : Nat) (digit : Nat → β) (nul : β)
    (uninitialized : Int → β) (n : BitVec 64) : DigitStack β :=
  (DigitStack.filled t base digit uninitialized n).finish t nul

namespace DigitStack

variable {β : Type} {t : IndexTypes} {s : DigitStack β} {cs : List β}

structure Pushed (t : IndexTypes) (s : DigitStack β) (cs : List β) : Prop where
  next : t.stackTop (s.stackTop + 1) = cs.length
  top : cs ≠ [] → s.stackTop = cs.length - 1
  holds : s.buffer.Holds cs
  inside : s.buffer.Inside cs.length

theorem empty_pushed (t : IndexTypes) (uninitialized : Int → β) :
    Pushed t (empty t uninitialized) [] where
  next := t.starts
  top := fun some => absurd rfl some
  holds := fun _ inside => absurd inside (Nat.not_lt_zero _)
  inside := fun _ stored => absurd stored List.not_mem_nil

/-- The index types are wide enough for 127 characters. -/
theorem Pushed.push (pushed : Pushed t s cs) (c : β) (short : cs.length < 127) :
    Pushed t (s.push t c) (cs ++ [c]) := by
  have length : (cs ++ [c]).length = cs.length + 1 := List.length_append
  refine ⟨?_, ?_, ?_, ?_⟩
  · change t.stackTop (t.stackTop (s.stackTop + 1) + 1) = _
    rw [pushed.next, length]
    exact t.stackTop_eq _ (by omega) (by omega)
  · intro _
    change t.stackTop (s.stackTop + 1) = _
    rw [pushed.next, length]
    omega
  · change (s.buffer.put (t.stackTop (s.stackTop + 1)) c).Holds _
    rw [pushed.next]
    exact pushed.holds.put_end c
  · change (s.buffer.put (t.stackTop (s.stackTop + 1)) c).Inside _
    rw [pushed.next, length]
    exact LoggedArray.inside_put_iff.mpr ⟨by omega, pushed.inside.mono (Nat.le_succ _)⟩

theorem Pushed.pushDigits {base : Nat} (digit : Nat → β) (large : 1 < base) {turns n : Nat}
    (pushed : Pushed t s cs) (enough : n < base ^ turns) (short : cs.length + turns ≤ 127) :
    Pushed t (DigitStack.pushDigits t base digit turns n s)
      (cs ++ (Nat.digits base n).map digit) := by
  induction turns generalizing n s cs with
  | zero =>
      have zero : n = 0 := Nat.lt_one_iff.mp enough
      rw [zero, Nat.digits_zero, List.map_nil, List.append_nil]
      exact pushed
  | succ turns ih =>
      rw [DigitStack.pushDigits]
      by_cases zero : n = 0
      · rw [if_pos zero, zero, Nat.digits_zero, List.map_nil, List.append_nil]
        exact pushed
      · have rest : n / base < base ^ turns := by
          rw [Nat.div_lt_iff_lt_mul (by omega)]
          exact enough
        have more := ih (pushed.push (digit (n % base)) (by omega)) rest (by
          rw [List.length_append, List.length_singleton]
          omega)
        rw [if_neg zero, Nat.digits_def' large (Nat.pos_of_ne_zero zero), List.map_cons]
        rw [List.append_assoc] at more
        exact more

theorem Pushed.pushBits {digit : Nat → β} {turns b : Nat} (pushed : Pushed t s cs)
    (short : cs.length + turns ≤ 127) :
    Pushed t (DigitStack.pushBits t digit turns b s)
      (cs ++ (Positional.lowDigits 2 turns b).map digit) := by
  induction turns generalizing b s cs with
  | zero =>
      rw [Positional.lowDigits, List.map_nil, List.append_nil]
      exact pushed
  | succ turns ih =>
      have more := ih (b := b / 2) (pushed.push (digit (b % 2)) (by omega)) (by
        rw [List.length_append, List.length_singleton]
        omega)
      rw [List.append_assoc] at more
      exact more

/-- The loop from an index on reverses what is between the index and its mirror image. -/
theorem swapDigits_cells {top turns : Nat} {tmpIndex : Int} (t : IndexTypes) (b : LoggedArray β)
    (short : top < 128) (enough : tmpIndex ≤ turns) (below : tmpIndex ≤ top) (i : Int) :
    (swapDigits t top turns tmpIndex b).cells i =
      if top - tmpIndex ≤ i ∧ i ≤ tmpIndex then b.cells (top - i) else b.cells i := by
  have half : (top : Int).tdiv 2 = top / 2 := Int.tdiv_eq_ediv_of_nonneg (Int.natCast_nonneg top)
  have middle (tmpIndex : Int) (b : LoggedArray β) (crossed : tmpIndex ≤ top / 2) : b.cells i =
      if top - tmpIndex ≤ i ∧ i ≤ tmpIndex then b.cells (top - i) else b.cells i := by
    split
    · have same : (top : Int) - i = i := by omega
      rw [same]
    · rfl
  induction turns generalizing tmpIndex b with
  | zero => exact middle tmpIndex b (by omega)
  | succ turns ih =>
      rw [swapDigits, half]
      split
      · have next : t.tmpIndex (tmpIndex - 1) = tmpIndex - 1 :=
          t.tmpIndex_eq _ (by omega) (by omega)
        rw [next, ih _ (by omega) (by omega), LoggedArray.swap_cells, LoggedArray.swap_cells]
        by_cases inner : top - (tmpIndex - 1) ≤ i ∧ i ≤ tmpIndex - 1
        · rw [if_pos inner, if_neg (by omega), if_neg (by omega), if_pos (by omega)]
        · rw [if_neg inner]
          by_cases right : i = tmpIndex
          · rw [if_pos right, if_pos (by omega), right]
          · rw [if_neg right]
            by_cases left : i = top - tmpIndex
            · rw [if_pos left, if_pos (by omega), left, sub_sub_cancel]
            · rw [if_neg left, if_neg (by omega)]
      · exact middle tmpIndex b (by omega)

theorem swapDigits_inside {top turns : Nat} {tmpIndex : Int} {b : LoggedArray β} (t : IndexTypes)
    (short : top < 128) (below : tmpIndex ≤ top) (inside : b.Inside (top + 1)) :
    (swapDigits t top turns tmpIndex b).Inside (top + 1) := by
  have half : (top : Int).tdiv 2 = top / 2 := Int.tdiv_eq_ediv_of_nonneg (Int.natCast_nonneg top)
  induction turns generalizing tmpIndex b with
  | zero => exact inside
  | succ turns ih =>
      rw [swapDigits, half]
      split
      · have next : t.tmpIndex (tmpIndex - 1) = tmpIndex - 1 :=
          t.tmpIndex_eq _ (by omega) (by omega)
        rw [next]
        exact ih (by omega) (inside.swap (by omega) (by omega))
      · exact inside

structure Finished (s : DigitStack β) (nul : β) (text : List β) : Prop where
  top : s.stackTop + 1 = text.length
  holds : s.buffer.Holds text
  nul : s.buffer.cells text.length = nul
  inside_iff : ∀ length, s.buffer.Inside length ↔ text.length < length

theorem Pushed.finish (pushed : Pushed t s cs) (nul : β) (some : cs ≠ [])
    (short : cs.length ≤ 127) : Finished (s.finish t nul) nul cs.reverse := by
  have positive : 0 < cs.length := List.length_pos_iff.mpr some
  have top : s.stackTop = (cs.length - 1 : Nat) := by
    rw [pushed.top some]
    omega
  have start : t.tmpIndex s.stackTop = s.stackTop := t.tmpIndex_eq _ (by omega) (by omega)
  have ends : s.stackTop + 1 = cs.length := by omega
  have done : s.finish t nul = ⟨s.stackTop, (swapDigits t (cs.length - 1 : Nat)
      (cs.length - 1) (cs.length - 1 : Nat) s.buffer).put cs.length nul⟩ := by
    rw [DigitStack.finish, start, ends, top, Int.toNat_natCast]
  have reversed (i : Int) : (swapDigits t (cs.length - 1 : Nat) (cs.length - 1)
      (cs.length - 1 : Nat) s.buffer).cells i = _ :=
    swapDigits_cells t s.buffer (by omega) (Int.le_refl _) (Int.le_refl _) i
  rw [done]
  refine ⟨?_, ?_, ?_, ?_⟩
  · rw [List.length_reverse]
    exact ends
  · apply pushed.holds.reverse
    intro i inside
    change (LoggedArray.put _ cs.length nul).cells i = _
    rw [LoggedArray.put_cells_ne (by omega), reversed, if_pos (by omega)]
    congr 1
    omega
  · rw [List.length_reverse]
    exact LoggedArray.put_cells_self
  · intro length
    rw [List.length_reverse]
    change (LoggedArray.put _ cs.length nul).Inside length ↔ _
    rw [LoggedArray.inside_put_iff]
    constructor
    · intro all
      omega
    · intro more
      have whole : s.buffer.Inside (cs.length - 1 + 1) := pushed.inside.mono (by omega)
      exact ⟨by omega, (swapDigits_inside t (by omega) (Int.le_refl _) whole).mono (by omega)⟩

theorem Finished.text_eq [DecidableEq β] {nul : β} {text : List β} (finished : Finished s nul text)
    (others : nul ∉ text) : s.text nul = text := by
  have top := finished.top
  apply LoggedArray.string_eq 0 (by omega)
  · intro i inside
    rw [Nat.zero_add]
    exact finished.holds i inside
  · rw [Nat.zero_add]
    exact finished.nul
  · exact others

theorem filled_pushed {base : Nat} (t : IndexTypes) (large : 1 < base) (digit : Nat → β)
    (uninitialized : Int → β) (n : BitVec 64) :
    Pushed t (filled t base digit uninitialized n)
      ((Positional.numeral base n.toNat).reverse.map digit) := by
  have empty := empty_pushed t uninitialized
  have enough : n.toNat < base ^ 64 := Nat.lt_of_lt_of_le n.isLt (Nat.pow_le_pow_left large 64)
  rw [filled, Positional.numeral]
  by_cases zero : n = 0
  · subst zero
    have pushed := (empty.push (digit 0) (by simp)).pushDigits digit large enough
      (by simp)
    rw [show (0 : BitVec 64).toNat = 0 from rfl, Nat.digits_zero] at pushed
    exact pushed
  · have nonzero : n.toNat ≠ 0 := fun none => zero (BitVec.eq_of_toNat_eq none)
    have pushed := empty.pushDigits digit large enough (by simp)
    rw [if_neg zero, if_neg nonzero, List.reverse_reverse]
    exact pushed

theorem numeral_length {base : Nat} (large : 1 < base) (n : BitVec 64) :
    0 < (Positional.numeral base n.toNat).length ∧
      (Positional.numeral base n.toNat).length ≤ 64 := by
  constructor
  · exact List.length_pos_iff.mpr (Positional.numeral_ne_nil base)
  · apply (Positional.numeral_length_le_iff large (by decide)).mpr
    exact Nat.lt_of_lt_of_le n.isLt (Nat.pow_le_pow_left large 64)

theorem backwards_length {β : Type} (digit : Nat → β) (base : Nat) (n : BitVec 64) :
    ((Positional.numeral base n.toNat).reverse.map digit).length =
      (Positional.numeral base n.toNat).length := by
  rw [List.length_map, List.length_reverse]

end DigitStack

theorem digitStack_finished {β : Type} (t : IndexTypes) {base : Nat} (large : 1 < base)
    (digit : Nat → β) (nul : β) (uninitialized : Int → β) (n : BitVec 64) :
    (digitStack t base digit nul uninitialized n).Finished nul
      ((Positional.numeral base n.toNat).map digit) := by
  have length := DigitStack.numeral_length large n
  have backwards := DigitStack.backwards_length digit base n
  have finished := (DigitStack.filled_pushed t large digit uninitialized n).finish nul
    (List.length_pos_iff.mp (by omega)) (by omega)
  rw [List.map_reverse, List.reverse_reverse] at finished
  exact finished

section Refinement

variable {β : Type} {t : IndexTypes} {base : Nat} {digit : Nat → β}

def DigitBuffer.ofArray (a : LoggedArray β) : DigitBuffer β where
  cells := fun i => a.cells i
  stores := a.stores.map Int.toNat

namespace DigitBuffer

theorem ofArray_put (a : LoggedArray β) (i : Nat) (c : β) :
    ofArray (a.put i c) = (ofArray a).put i c := by
  rw [ofArray, put, DigitBuffer.mk.injEq]
  constructor
  · funext j
    exact if_congr Int.natCast_inj rfl rfl
  · rfl

theorem ofArray_swap (a : LoggedArray β) (i j : Nat) :
    ofArray (a.swap i j) = (ofArray a).swap i j := by
  rw [LoggedArray.swap, ofArray_put, ofArray_put]
  rfl

theorem ofArray_pushDigits {turns n count : Nat} {s : DigitStack β}
    (next : t.stackTop (s.stackTop + 1) = count) (short : count + turns ≤ 127) :
    let s' := DigitStack.pushDigits t base digit turns n s
    let r := pushDigits base digit turns n count (ofArray s.buffer)
    t.stackTop (s'.stackTop + 1) = r.1 ∧ ofArray s'.buffer = r.2 := by
  induction turns generalizing n count s with
  | zero => exact ⟨next, rfl⟩
  | succ turns ih =>
      rw [DigitStack.pushDigits, pushDigits]
      by_cases zero : n = 0
      · rw [if_pos zero, if_pos zero]
        exact ⟨next, rfl⟩
      · have top : (s.push t (digit (n % base))).stackTop = count := next
        have stored : ofArray (s.push t (digit (n % base))).buffer =
            (ofArray s.buffer).put count (digit (n % base)) := by
          rw [← ofArray_put, ← next]
          rfl
        rw [if_neg zero, if_neg zero, ← stored]
        apply ih
        · rw [top]
          exact t.stackTop_eq _ (by omega) (by omega)
        · omega

theorem ofArray_swapDigits {top tmpIndex : Nat} {b : LoggedArray β} (short : top < 128)
    (below : tmpIndex ≤ top) :
    ofArray (DigitStack.swapDigits t top tmpIndex tmpIndex b) = reverse top tmpIndex (ofArray b) := by
  have half : (top : Int).tdiv 2 = top / 2 := Int.tdiv_eq_ediv_of_nonneg (Int.natCast_nonneg top)
  induction tmpIndex generalizing b with
  | zero => rfl
  | succ tmpIndex ih =>
      have next : t.tmpIndex ((tmpIndex + 1 : Nat) - 1) = tmpIndex := by
        rw [t.tmpIndex_eq _ (by omega) (by omega)]
        omega
      have mirror : (top : Int) - (tmpIndex + 1 : Nat) = (top - (tmpIndex + 1) : Nat) := by omega
      rw [DigitStack.swapDigits, reverse, half, next, mirror]
      by_cases right : tmpIndex + 1 > top / 2
      · rw [if_pos right, if_pos (by omega), ih (by omega), ofArray_swap]
      · rw [if_neg right, if_neg (by omega)]

theorem ofArray_finish {s : DigitStack β} {top : Nat} (index : s.stackTop = top) (short : top < 128)
    (nul : β) :
    ofArray (s.finish t nul).buffer = (reverse top top (ofArray s.buffer)).put (top + 1) nul := by
  have start : t.tmpIndex top = top := t.tmpIndex_eq _ (by omega) (by omega)
  have ends : (top : Int) + 1 = (top + 1 : Nat) := rfl
  rw [DigitStack.finish, index, start, Int.toNat_natCast, ends, ofArray_put,
    ofArray_swapDigits short (Nat.le_refl top)]

theorem ofArray_filled (t : IndexTypes) (base : Nat) (digit : Nat → β) (uninitialized : Int → β)
    (n : BitVec 64) :
    let s := DigitStack.filled t base digit uninitialized n
    let empty : DigitBuffer β := { cells := fun i => uninitialized i, stores := [] }
    let start := if n = 0 then (1, empty.put 0 (digit 0)) else (0, empty)
    let r := pushDigits base digit 64 n.toNat start.1 start.2
    t.stackTop (s.stackTop + 1) = r.1 ∧ ofArray s.buffer = r.2 := by
  have starts := t.starts
  by_cases zero : n = 0
  · have next : t.stackTop (((DigitStack.empty t uninitialized).push t (digit 0)).stackTop + 1) =
        (1 : Nat) := by
      change t.stackTop (t.stackTop (t.stackTop (-1) + 1) + 1) = 1
      rw [starts]
      exact t.stackTop_eq 1 (by decide) (by decide)
    have stored : ofArray ((DigitStack.empty t uninitialized).push t (digit 0)).buffer =
        DigitBuffer.put { cells := fun i => uninitialized i, stores := [] } 0 (digit 0) := by
      change ofArray (LoggedArray.put _ (t.stackTop (t.stackTop (-1) + 1)) _) = _
      rw [starts]
      exact ofArray_put _ 0 _
    dsimp only [DigitStack.filled]
    rw [if_pos zero, if_pos zero, ← stored]
    exact ofArray_pushDigits next (by simp)
  · dsimp only [DigitStack.filled]
    rw [if_neg zero, if_neg zero]
    exact ofArray_pushDigits starts (by simp)

theorem ofArray_string [DecidableEq β] (nul : β) (a : LoggedArray β) (turns i : Nat) :
    a.string nul turns i = (ofArray a).text nul turns i := by
  induction turns generalizing i with
  | zero => rfl
  | succ turns ih =>
      have next : (i : Int) + 1 = (i + 1 : Nat) := rfl
      rw [LoggedArray.string, text, next, ih]
      rfl

end DigitBuffer

theorem digitStack_refines (t : IndexTypes) (large : 1 < base) (nul : β) (uninitialized : Int → β)
    (n : BitVec 64) :
    DigitBuffer.ofArray (digitStack t base digit nul uninitialized n).buffer =
      numeralBuffer base digit nul (fun i => uninitialized i) n := by
  have pushed := DigitStack.filled_pushed t large digit uninitialized n
  have length := DigitStack.numeral_length large n
  have backwards := DigitStack.backwards_length digit base n
  obtain ⟨next, filled⟩ := DigitBuffer.ofArray_filled t base digit uninitialized n
  have count := Int.natCast_inj.mp (next.symm.trans pushed.next)
  have top : (DigitStack.filled t base digit uninitialized n).stackTop =
      ((Positional.numeral base n.toNat).length - 1 : Nat) := by
    rw [pushed.top (List.length_pos_iff.mp (by omega)), backwards]
    omega
  rw [digitStack, DigitBuffer.ofArray_finish top (by omega), filled, numeralBuffer, count, backwards]

theorem numeralText_eq [DecidableEq β] (large : 1 < base) {nul : β}
    (digits : ∀ d, d < base → digit d ≠ nul) (n : BitVec 64) :
    numeralText base digit nul n = (Positional.numeral base n.toNat).map digit := by
  have finished := digitStack_finished kernelIndices large digit nul (fun _ => nul) n
  have length := DigitStack.numeral_length large n
  rw [numeralText, ← digitStack_refines kernelIndices large nul (fun _ => nul) n]
  refine (DigitBuffer.ofArray_string nul _ 65 0).symm.trans ?_
  apply LoggedArray.string_eq 0
  · rw [List.length_map]
    omega
  · intro i inside
    rw [Nat.zero_add]
    exact finished.holds i inside
  · rw [Nat.zero_add]
    exact finished.nul
  · exact Positional.not_mem_numeral large digits

theorem digitStack_text [DecidableEq β] (t : IndexTypes) (large : 1 < base) {nul : β}
    (digits : ∀ d, d < base → digit d ≠ nul) (uninitialized : Int → β) (n : BitVec 64) :
    (digitStack t base digit nul uninitialized n).text nul = numeralText base digit nul n := by
  rw [numeralText_eq large digits]
  exact (digitStack_finished t large digit nul uninitialized n).text_eq
    (Positional.not_mem_numeral large digits)

end Refinement

end Flosp
