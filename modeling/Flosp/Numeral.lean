/-! The digit buffer of the number printers. The bootloader's `efi_printnum` and
`efi_printhex` and the kernel's `kprint_num` and `kprint_hex` run the same three
loops on a local array and differ in base, digit table and character type. -/

namespace Flosp

/-- A local character array together with the indices stored to, the newest first. -/
structure DigitBuffer (β : Type) where
  cells : Nat → β
  stores : List Nat

namespace DigitBuffer

variable {β : Type}

def put (b : DigitBuffer β) (i : Nat) (c : β) : DigitBuffer β :=
  { cells := fun j => if j = i then c else b.cells j, stores := i :: b.stores }

/-- `while (n != 0)` of the printers. `count` is `stack_top + 1`, the number of
digits pushed so far; a 64-bit number runs out after at most 64 turns. -/
def pushDigits (base : Nat) (digit : Nat → β) : Nat → Nat → Nat → DigitBuffer β →
    Nat × DigitBuffer β
  | 0, _, count, b => (count, b)
  | turns + 1, n, count, b =>
      if n = 0 then (count, b)
      else pushDigits base digit turns (n / base) (count + 1) (b.put count (digit (n % base)))

def swap (b : DigitBuffer β) (i j : Nat) : DigitBuffer β :=
  (b.put i (b.cells j)).put j (b.cells i)

/-- `for (; tmp_index > (stack_top/2); tmp_index--)` of the printers. -/
def reverse (stackTop : Nat) : Nat → DigitBuffer β → DigitBuffer β
  | 0, b => b
  | tmpIndex + 1, b =>
      if tmpIndex + 1 > stackTop / 2 then
        reverse stackTop tmpIndex (b.swap (stackTop - (tmpIndex + 1)) (tmpIndex + 1))
      else b

/-- The characters before the first NUL, looking at `turns` cells from `i` on. -/
def text [DecidableEq β] (nul : β) (b : DigitBuffer β) : Nat → Nat → List β
  | 0, _ => []
  | turns + 1, i => if b.cells i = nul then [] else b.cells i :: text nul b turns (i + 1)

end DigitBuffer

/-- The whole buffer of a number printer: digits, reversal, terminating NUL. -/
def numeralBuffer {β : Type} (base : Nat) (digit : Nat → β) (nul : β) (uninitialized : Nat → β)
    (n : BitVec 64) : DigitBuffer β :=
  let empty : DigitBuffer β := { cells := uninitialized, stores := [] }
  let start := if n = 0 then (1, empty.put 0 (digit 0)) else (0, empty)
  let pushed := DigitBuffer.pushDigits base digit 64 n.toNat start.1 start.2
  let stackTop := pushed.1 - 1
  (DigitBuffer.reverse stackTop stackTop pushed.2).put (stackTop + 1) nul

def numeralText {β : Type} [DecidableEq β] (base : Nat) (digit : Nat → β) (nul : β)
    (n : BitVec 64) : List β :=
  (numeralBuffer base digit nul (fun _ => nul) n).text nul 65 0

section Characters

variable {β : Type} {P : β → Prop}

namespace DigitBuffer

theorem put_all {b : DigitBuffer β} (cells : ∀ j, P (b.cells j)) (i : Nat) {c : β} (char : P c) :
    ∀ j, P ((b.put i c).cells j) := by
  intro j
  change P (if j = i then c else b.cells j)
  split
  · exact char
  · exact cells j

theorem pushDigits_all {base : Nat} {digit : Nat → β} (positive : 0 < base)
    (digits : ∀ d, d < base → P (digit d)) (turns n count : Nat) {b : DigitBuffer β}
    (cells : ∀ j, P (b.cells j)) : ∀ j, P ((pushDigits base digit turns n count b).2.cells j) := by
  induction turns generalizing n count b with
  | zero => exact cells
  | succ turns ih =>
      rw [pushDigits]
      split
      · exact cells
      · exact ih _ _ (put_all cells count (digits _ (Nat.mod_lt n positive)))

theorem reverse_all (stackTop tmpIndex : Nat) {b : DigitBuffer β} (cells : ∀ j, P (b.cells j)) :
    ∀ j, P ((reverse stackTop tmpIndex b).cells j) := by
  induction tmpIndex generalizing b with
  | zero => exact cells
  | succ tmpIndex ih =>
      rw [reverse]
      split
      · exact ih (put_all (put_all cells _ (cells _)) _ (cells _))
      · exact cells

theorem text_all [DecidableEq β] {nul : β} {b : DigitBuffer β} (cells : ∀ j, P (b.cells j))
    (turns i : Nat) : ∀ c ∈ b.text nul turns i, P c := by
  induction turns generalizing i with
  | zero => exact fun c member => absurd member List.not_mem_nil
  | succ turns ih =>
      rw [text]
      split
      · exact fun c member => absurd member List.not_mem_nil
      · intro c member
        rcases List.mem_cons.mp member with rfl | later
        · exact cells i
        · exact ih (i + 1) c later

end DigitBuffer

theorem numeralText_all [DecidableEq β] {base : Nat} {digit : Nat → β} {nul : β}
    (positive : 0 < base) (digits : ∀ d, d < base → P (digit d)) (last : P nul) (n : BitVec 64) :
    ∀ c ∈ numeralText base digit nul n, P c := by
  apply DigitBuffer.text_all
  apply DigitBuffer.put_all _ _ last
  apply DigitBuffer.reverse_all
  apply DigitBuffer.pushDigits_all positive digits
  split
  · exact DigitBuffer.put_all (fun _ => last) 0 (digits 0 positive)
  · exact fun _ => last

end Characters

end Flosp
