import Flosp.Kernel.Console
import Flosp.Kernel.Ps2

/-! The keyboard (`drivers/keyboard.c`). -/

namespace Flosp.Kernel

open ByteMemory Interaction

/-- "All printable characters", with the NUL that ends the string. -/
def chars : List (BitVec 8) :=
  [0, 0] ++ ascii "1234567890-=" ++ [0] ++
  [0] ++ ascii "qwertyuiop[]\n" ++
  [0] ++ ascii "asdfghjkl;'`" ++ [0] ++
  ascii "\\zxcvbnm,./" ++ [0, 0] ++
  [0] ++ ascii " " ++ [0]

def charsCap : List (BitVec 8) :=
  [0, 0] ++ ascii "!@#$%^&*()_+" ++ [0] ++
  [0] ++ ascii "QWERTYUIOP\x7b\x7d\n" ++
  [0] ++ ascii "ASDFGHJKL:\"~" ++ [0] ++
  ascii "|ZXCVBNM<>?" ++ [0, 0] ++
  [0] ++ ascii " " ++ [0]

structure KeyTables where
  chars : Addr
  charsCap : Addr

def KeyTables.table (tables : KeyTables) (shiftDown : Bool) : Addr :=
  if shiftDown then tables.charsCap else tables.chars

/-- The character, and `shift_down` from then on. -/
def keycodeChar (tables : KeyTables) (keycode : BitVec 8) (shiftDown : Bool) :
    Driver (BitVec 8 × Bool) :=
  if keycode = 0x2A then return (0, true)
  else if keycode = 0x36 then return (0, true)
  else if keycode = 0xAA then return (0, false)
  else if keycode = 0xB6 then return (0, false)
  else if keycode = 0x0E then do
    console .backspace
    return (0, shiftDown)
  else do
    let c ← loadAt (tables.table shiftDown + keycode.setWidth 64) 1
    return (c, shiftDown)

def keyboardHandler (tables : KeyTables) (shiftDown : Bool) : Driver Bool := do
  let keycode ← inb ps2DataPort
  let (c, shiftDown) ← keycodeChar tables keycode shiftDown
  console (.kputchar c)
  return shiftDown

/-- Keyboard interrupts, one after the other. -/
def keyboardInterrupts (tables : KeyTables) : Nat → Bool → Driver Bool
  | 0, shiftDown => return shiftDown
  | n + 1, shiftDown => do
      let shiftDown ← keyboardHandler tables shiftDown
      keyboardInterrupts tables n shiftDown

/-! What the handler does with each byte. -/

/-- The bytes that the keyboard has still to send, and what the handler has read and called. -/
structure Typing where
  coming : List (BitVec 8)
  reads : List Addr
  calls : List ConsoleCall

def typingStep (mem : Memory 64) : DriverEvent → Typing → Typing → Prop
  | ⟨.inb _, b⟩, s, s' => s.coming.head? = some b ∧ s' = { s with coming := s.coming.tail }
  | ⟨.load a n, v⟩, s, s' => v = load mem a n ∧ s' = { s with reads := s.reads ++ [a] }
  | ⟨.console call, _⟩, s, s' => s' = { s with calls := s.calls ++ [call] }
  | _, s, s' => s' = s

/-- The codes that only change `shift_down`. -/
def IsShiftCode (b : BitVec 8) : Prop := b = 0x2A ∨ b = 0x36 ∨ b = 0xAA ∨ b = 0xB6

instance (b : BitVec 8) : Decidable (IsShiftCode b) := inferInstanceAs (Decidable (_ ∨ _))

def nextShift (shiftDown : Bool) (b : BitVec 8) : Bool :=
  if b = 0x2A ∨ b = 0x36 then true
  else if b = 0xAA ∨ b = 0xB6 then false
  else shiftDown

/-- The element of an array that is read for a byte. -/
def keyReads (tables : KeyTables) (shiftDown : Bool) (b : BitVec 8) : List Addr :=
  if IsShiftCode b ∨ b = 0x0E then [] else [tables.table shiftDown + b.setWidth 64]

def keyCalls (mem : Memory 64) (tables : KeyTables) (shiftDown : Bool) (b : BitVec 8) :
    List ConsoleCall :=
  if IsShiftCode b then [.kputchar 0]
  else if b = 0x0E then [.backspace, .kputchar 0]
  else [.kputchar (load mem (tables.table shiftDown + b.setWidth 64) 1)]

def allReads (tables : KeyTables) : Bool → List (BitVec 8) → List Addr
  | _, [] => []
  | shiftDown, b :: bytes =>
      keyReads tables shiftDown b ++ allReads tables (nextShift shiftDown b) bytes

def allCalls (mem : Memory 64) (tables : KeyTables) : Bool → List (BitVec 8) → List ConsoleCall
  | _, [] => []
  | shiftDown, b :: bytes =>
      keyCalls mem tables shiftDown b ++ allCalls mem tables (nextShift shiftDown b) bytes

section Handler

variable {mem : Memory 64} {tables : KeyTables} {s : Typing}

theorem putChar_ensures (c : BitVec 8) (shiftDown : Bool) (s : Typing) :
    Task.Ensures (typingStep mem) (do
      console (.kputchar c)
      return shiftDown) s fun shiftDown' s' =>
        shiftDown' = shiftDown ∧ s' = { s with calls := s.calls ++ [.kputchar c] } := by
  apply Task.Ensures.op ⟨(), _, rfl⟩
  intro _ s' step
  exact .ret ⟨rfl, step⟩

theorem nextShift_other {b : BitVec 8} (other : ¬ IsShiftCode b) (shiftDown : Bool) :
    nextShift shiftDown b = shiftDown := by
  simp only [IsShiftCode, not_or] at other
  obtain ⟨left, right, leftUp, rightUp⟩ := other
  rw [nextShift, if_neg (not_or.mpr ⟨left, right⟩), if_neg (not_or.mpr ⟨leftUp, rightUp⟩)]

theorem keycodeChar_other {b : BitVec 8} (other : ¬ IsShiftCode b) (shiftDown : Bool) :
    keycodeChar tables b shiftDown =
      (if b = 0x0E then do
        console .backspace
        return (0, shiftDown)
      else do
        let c ← loadAt (tables.table shiftDown + b.setWidth 64) 1
        return (c, shiftDown)) := by
  simp only [IsShiftCode, not_or] at other
  simp only [keycodeChar, other, if_false]

theorem keycodeChar_ensures (b : BitVec 8) (shiftDown : Bool) :
    Task.Ensures (typingStep mem) (do
      let (c, shiftDown) ← keycodeChar tables b shiftDown
      console (.kputchar c)
      return shiftDown) s fun shiftDown' s' =>
        shiftDown' = nextShift shiftDown b ∧ s' = { s with
          reads := s.reads ++ keyReads tables shiftDown b
          calls := s.calls ++ keyCalls mem tables shiftDown b } := by
  by_cases shift : IsShiftCode b
  · have silent : keyReads tables shiftDown b = [] := by simp [keyReads, shift]
    have calls : keyCalls mem tables shiftDown b = [.kputchar 0] := by simp [keyCalls, shift]
    rw [silent, calls, List.append_nil]
    rcases shift with rfl | rfl | rfl | rfl
    · exact putChar_ensures 0 true s
    · exact putChar_ensures 0 true s
    · exact putChar_ensures 0 false s
    · exact putChar_ensures 0 false s
  · rw [nextShift_other shift, keycodeChar_other shift, keyCalls, if_neg shift]
    by_cases back : b = 0x0E
    · have silent : keyReads tables shiftDown b = [] := if_pos (.inr back)
      rw [silent, if_pos back, if_pos back]
      apply Task.Ensures.op ⟨(), _, rfl⟩
      intro _ s₁ step
      apply (putChar_ensures 0 shiftDown s₁).mono
      intro shiftDown' s' holds
      rw [holds.1, holds.2, step]
      simp
    · have reads : keyReads tables shiftDown b = [tables.table shiftDown + b.setWidth 64] :=
        if_neg (not_or.mpr ⟨shift, back⟩)
      rw [reads, if_neg back, if_neg back]
      apply Task.Ensures.op ⟨_, _, rfl, rfl⟩
      intro c s₁ step
      apply (putChar_ensures c shiftDown s₁).mono
      intro shiftDown' s' holds
      rw [holds.1, holds.2, step.2, step.1]
      simp

theorem keyboardHandler_ensures {b : BitVec 8} {rest : List (BitVec 8)}
    (sent : s.coming = b :: rest) (shiftDown : Bool) :
    Task.Ensures (typingStep mem) (keyboardHandler tables shiftDown) s fun shiftDown' s' =>
      shiftDown' = nextShift shiftDown b ∧
        s' = ⟨rest, s.reads ++ keyReads tables shiftDown b,
          s.calls ++ keyCalls mem tables shiftDown b⟩ := by
  have head : s.coming.head? = some b := by rw [sent]; rfl
  refine .op ⟨b, _, head, rfl⟩ fun keycode s₁ step => ?_
  have same : keycode = b := Option.some_inj.mp (step.1.symm.trans head)
  apply (keycodeChar_ensures keycode shiftDown).mono
  intro shiftDown' s' holds
  rw [holds.1, holds.2, step.2, same, sent]
  simp

theorem keyboardInterrupts_ensures (front : List (BitVec 8)) {rest : List (BitVec 8)}
    (sent : s.coming = front ++ rest) (shiftDown : Bool) :
    Task.Ensures (typingStep mem) (keyboardInterrupts tables front.length shiftDown) s
      fun shiftDown' s' => shiftDown' = front.foldl nextShift shiftDown ∧
        s' = ⟨rest, s.reads ++ allReads tables shiftDown front,
          s.calls ++ allCalls mem tables shiftDown front⟩ := by
  induction front generalizing s shiftDown with
  | nil =>
      apply Task.Ensures.ret
      simp only [List.nil_append] at sent
      simp [allReads, allCalls, ← sent]
  | cons b front ih =>
      apply (keyboardHandler_ensures sent shiftDown).bind
      intro shiftDown₁ s₁ holds
      obtain ⟨rfl, rfl⟩ := holds
      apply (ih rfl (nextShift shiftDown b)).mono
      intro shiftDown' s' holds
      simp [holds.1, holds.2, allReads, allCalls]

end Handler

end Flosp.Kernel
