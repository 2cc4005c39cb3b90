import Flosp.Kernel.Keyboard

/-! Which sequences of scan codes the keyboard driver follows. -/

namespace Flosp.Kernel

open ByteMemory Interaction

/-! Shift. -/

/-- The keys that are held, by their make codes. -/
abbrev HeldKeys := BitVec 8 → Bool

/-- Bit 7 tells the break code of a key from its make code. -/
def hold (held : HeldKeys) (b : BitVec 8) : HeldKeys :=
  Function.update held (b &&& 0x7F) (decide (b < 0x80))

def noneHeld : HeldKeys := fun _ => false

def heldAfter (bytes : List (BitVec 8)) : HeldKeys := bytes.foldl hold noneHeld

def shiftHeld (held : HeldKeys) : Bool := held 0x2A || held 0x36

/-- A key is released only while it is held. -/
def Plausible : HeldKeys → List (BitVec 8) → Prop
  | _, [] => True
  | held, b :: bytes => (0x80 ≤ b → held (b &&& 0x7F) = true) ∧ Plausible (hold held b) bytes

/-- No shift key is released while the other one is held. -/
def ReleasesApart : HeldKeys → List (BitVec 8) → Prop
  | _, [] => True
  | held, b :: bytes => (b = 0xAA → held 0x36 = false) ∧ (b = 0xB6 → held 0x2A = false) ∧
      ReleasesApart (hold held b) bytes

/-- The reads of a driver that takes `chars_cap` exactly while a shift key is held. -/
def rightReads (tables : KeyTables) : HeldKeys → List (BitVec 8) → List Addr
  | _, [] => []
  | held, b :: bytes => keyReads tables (shiftHeld held) b ++ rightReads tables (hold held b) bytes

/-- After each byte `shift_down` tells whether a shift key is held, and every character key was
translated as it should be. -/
def ShiftTracked (bytes : List (BitVec 8)) : Prop :=
  ∀ mem tables front rest, bytes = front ++ rest →
    Task.Ensures (typingStep mem) (keyboardInterrupts tables front.length false) ⟨bytes, [], []⟩
      fun shiftDown s => shiftDown = shiftHeld (heldAfter front) ∧
        s.reads = rightReads tables noneHeld front

section Shift

variable {held : HeldKeys} {b : BitVec 8}

@[simp] theorem hold_self : hold held b (b &&& 0x7F) = decide (b < 0x80) :=
  Function.update_self ..

theorem hold_other {key : BitVec 8} (other : key ≠ b &&& 0x7F) : hold held b key = held key :=
  Function.update_of_ne other ..

theorem hold_shift (shift : ¬ IsShiftCode b) : shiftHeld (hold held b) = shiftHeld held := by
  have codes : ∀ b : BitVec 8, ¬ IsShiftCode b → 0x2A ≠ b &&& 0x7F ∧ 0x36 ≠ b &&& 0x7F := by decide
  rw [shiftHeld, hold_other (codes b shift).1, hold_other (codes b shift).2, shiftHeld]

/-- One byte keeps the flag right, unless a shift key is released while the other is held. -/
theorem nextShift_held (held : HeldKeys) (b : BitVec 8) :
    nextShift (shiftHeld held) b = shiftHeld (hold held b) ↔
      (b = 0xAA → held 0x36 = false) ∧ (b = 0xB6 → held 0x2A = false) := by
  by_cases shift : IsShiftCode b
  · rcases shift with rfl | rfl | rfl | rfl
    · simp [nextShift, shiftHeld, hold]
    · simp [nextShift, shiftHeld, hold]
    · simp [nextShift, shiftHeld, hold]
    · simp [nextShift, shiftHeld, hold]
  · have same : nextShift (shiftHeld held) b = shiftHeld held := by
      simp only [IsShiftCode, not_or] at shift
      rw [nextShift, if_neg (by tauto), if_neg (by tauto)]
    rw [same, hold_shift shift]
    simp only [IsShiftCode, not_or] at shift
    exact iff_of_true rfl ⟨fun left => absurd left shift.2.2.1, fun right => absurd right shift.2.2.2⟩

theorem releasesApart_follows (tables : KeyTables) (bytes : List (BitVec 8))
    (apart : ReleasesApart held bytes) :
    bytes.foldl nextShift (shiftHeld held) = shiftHeld (bytes.foldl hold held) ∧
      allReads tables (shiftHeld held) bytes = rightReads tables held bytes := by
  induction bytes generalizing held with
  | nil => exact ⟨rfl, rfl⟩
  | cons b bytes ih =>
      obtain ⟨left, right, later⟩ := apart
      have same := (nextShift_held held b).mpr ⟨left, right⟩
      have rest := ih later
      rw [List.foldl_cons, List.foldl_cons, allReads, rightReads, same, rest.1, rest.2]
      exact ⟨rfl, rfl⟩

theorem ReleasesApart.front {front rest : List (BitVec 8)}
    (apart : ReleasesApart held (front ++ rest)) : ReleasesApart held front := by
  induction front generalizing held with
  | nil => trivial
  | cons b front ih => exact ⟨apart.1, apart.2.1, ih apart.2.2⟩

/-- A flag that is right after every byte is only kept right by releases apart. -/
theorem releasesApart_of_flags (bytes : List (BitVec 8))
    (flags : ∀ front rest, bytes = front ++ rest →
      front.foldl nextShift (shiftHeld held) = shiftHeld (front.foldl hold held)) :
    ReleasesApart held bytes := by
  induction bytes generalizing held with
  | nil => trivial
  | cons b bytes ih =>
      have first : nextShift (shiftHeld held) b = shiftHeld (hold held b) := flags [b] bytes rfl
      have apart := (nextShift_held held b).mp first
      refine ⟨apart.1, apart.2, ih fun front rest split => ?_⟩
      have later := flags (b :: front) rest (by rw [split, List.cons_append])
      rw [List.foldl_cons, List.foldl_cons, first] at later
      exact later

theorem releasesApart_of_tracked {bytes : List (BitVec 8)} (tracked : ShiftTracked bytes) :
    ReleasesApart noneHeld bytes := by
  apply releasesApart_of_flags
  intro front rest split
  let tables : KeyTables := ⟨0, 0⟩
  have ran : Task.Ensures (typingStep fun _ => 0)
      (keyboardInterrupts tables front.length false) ⟨bytes, [], []⟩ _ :=
    keyboardInterrupts_ensures front split false
  obtain ⟨shiftDown, s, now, right⟩ :=
    ran.possible.meets (tracked (fun _ => 0) tables front rest split).satisfies
  exact now.1.symm.trans right.1

/-- The flag follows the shift keys if and only if none of them is released while the other one
is held. -/
theorem shiftTracked_iff (bytes : List (BitVec 8)) :
    ShiftTracked bytes ↔ ReleasesApart noneHeld bytes := by
  constructor
  · exact releasesApart_of_tracked
  · intro apart mem tables front rest split
    have follows := releasesApart_follows tables front (ReleasesApart.front (split ▸ apart))
    apply (keyboardInterrupts_ensures front split false).mono
    intro shiftDown s now
    rw [now.1, now.2]
    exact ⟨follows.1, follows.2⟩

end Shift

/-- Both shift keys are pressed and the left one is released. -/
theorem bothShifts_not_tracked :
    Plausible noneHeld [0x2A, 0x36, 0xAA] ∧ ¬ ShiftTracked [0x2A, 0x36, 0xAA] := by
  constructor
  · simp [Plausible, hold, noneHeld]
  · intro tracked
    have apart := releasesApart_of_tracked tracked
    simp [ReleasesApart, hold, noneHeld] at apart

/-! The arrays. -/

structure KeyTables.Placed (tables : KeyTables) (mem : Memory 64) : Prop where
  chars : ∀ i c, Kernel.chars[i]? = some c → mem (tables.chars + BitVec.ofNat 64 i) = c
  charsCap : ∀ i c, Kernel.charsCap[i]? = some c → mem (tables.charsCap + BitVec.ofNat 64 i) = c

def KeyTables.Inside (tables : KeyTables) (a : Addr) : Prop :=
  Within a tables.chars Kernel.chars.length ∨ Within a tables.charsCap Kernel.charsCap.length

/-- `kputchar` ignores a NUL. -/
theorem kputchar_nul (k : Console) : kputchar 0 k = .ok k := rfl

def visible (calls : List ConsoleCall) : List ConsoleCall := calls.filter (· ≠ .kputchar 0)

/-- What a make code puts on the console. -/
def keyText (shiftDown : Bool) (b : BitVec 8) : List ConsoleCall :=
  if IsShiftCode b then []
  else if b = 0x0E then [.backspace]
  else visible [.kputchar ((if shiftDown then charsCap else chars).getD b.toNat 0)]

/-- The text of the make codes alone. -/
def typedText : Bool → List (BitVec 8) → List ConsoleCall
  | _, [] => []
  | shiftDown, b :: bytes =>
      (if b < 0x80 then keyText shiftDown b else []) ++ typedText (nextShift shiftDown b) bytes

/-- Wherever the arrays are and whatever is around them, they are read inside their bounds and
the text is that of the make codes. -/
def SafelyTranslated (bytes : List (BitVec 8)) : Prop :=
  ∀ mem tables, tables.Placed mem →
    Task.Ensures (typingStep mem) (keyboardInterrupts tables bytes.length false) ⟨bytes, [], []⟩
      fun _ s => (∀ a ∈ s.reads, tables.Inside a) ∧ visible s.calls = typedText false bytes

/-- The codes that have an entry in the arrays, and the break codes of the shift keys. -/
def Translatable (b : BitVec 8) : Prop := b.toNat < 59 ∨ b = 0xAA ∨ b = 0xB6

theorem chars_length : chars.length = 59 ∧ charsCap.length = 59 := by decide

section Tables

variable {mem : Memory 64} {tables : KeyTables} {shiftDown : Bool} {b : BitVec 8}

theorem setWidth_index (b : BitVec 8) : b.setWidth 64 = BitVec.ofNat 64 b.toNat := by
  apply BitVec.eq_of_toNat_eq
  simp

theorem Translatable.below (translatable : Translatable b) (other : ¬ IsShiftCode b) :
    b.toNat < 59 := by
  rcases translatable with small | rfl | rfl
  · exact small
  · exact absurd (by decide) other
  · exact absurd (by decide) other

theorem keyReads_inside (translatable : Translatable b) :
    ∀ a ∈ keyReads tables shiftDown b, tables.Inside a := by
  intro a member
  unfold keyReads at member
  split at member
  · cases member
  · rename_i other
    have small := translatable.below fun shift => other (.inl shift)
    have index (base : Addr) : Within (base + b.setWidth 64) base 59 := by
      rw [setWidth_index]
      exact within_offset small (by decide)
    rw [List.mem_singleton.mp member]
    cases shiftDown with
    | true => exact .inr (index _)
    | false => exact .inl (index _)

theorem load_chars (placed : tables.Placed mem) (small : b.toNat < 59) :
    load mem (tables.table shiftDown + b.setWidth 64) 1 =
      (if shiftDown then charsCap else chars).getD b.toNat 0 := by
  rw [load_one, setWidth_index]
  cases shiftDown with
  | true =>
      have found := List.getElem?_eq_getElem (chars_length.2.symm ▸ small : _ < charsCap.length)
      simpa [KeyTables.table, found] using placed.charsCap _ _ found
  | false =>
      have found := List.getElem?_eq_getElem (chars_length.1.symm ▸ small : _ < chars.length)
      simpa [KeyTables.table, found] using placed.chars _ _ found

theorem keyCalls_visible (placed : tables.Placed mem) (translatable : Translatable b) :
    visible (keyCalls mem tables shiftDown b) =
      if b < 0x80 then keyText shiftDown b else [] := by
  unfold keyCalls keyText
  by_cases shift : IsShiftCode b
  · simp [shift, visible]
  · have small := translatable.below shift
    have make : b < 0x80 := by
      change b.toNat < 128
      omega
    rw [if_neg shift, if_neg shift, if_pos make]
    by_cases back : b = 0x0E
    · simp [back, visible]
    · rw [if_neg back, if_neg back, load_chars placed small]

end Tables

theorem allReads_inside {tables : KeyTables} {bytes : List (BitVec 8)}
    (translatable : ∀ b ∈ bytes, Translatable b) (shiftDown : Bool) :
    ∀ a ∈ allReads tables shiftDown bytes, tables.Inside a := by
  induction bytes generalizing shiftDown with
  | nil => simp [allReads]
  | cons b bytes ih =>
      intro a member
      simp only [List.forall_mem_cons] at translatable
      simp only [allReads, List.mem_append] at member
      rcases member with now | later
      · exact keyReads_inside translatable.1 a now
      · exact ih translatable.2 _ a later

theorem allCalls_visible {mem : Memory 64} {tables : KeyTables} (placed : tables.Placed mem)
    {bytes : List (BitVec 8)} (translatable : ∀ b ∈ bytes, Translatable b) (shiftDown : Bool) :
    visible (allCalls mem tables shiftDown bytes) = typedText shiftDown bytes := by
  induction bytes generalizing shiftDown with
  | nil => rfl
  | cons b bytes ih =>
      simp only [List.forall_mem_cons] at translatable
      have now : visible (keyCalls mem tables shiftDown b) = _ :=
        keyCalls_visible placed translatable.1
      have later := ih translatable.2 (nextShift shiftDown b)
      calc visible (allCalls mem tables shiftDown (b :: bytes))
          = visible (keyCalls mem tables shiftDown b) ++
              visible (allCalls mem tables (nextShift shiftDown b) bytes) := List.filter_append ..
        _ = typedText shiftDown (b :: bytes) := by rw [now, later, typedText]

theorem allReads_append (tables : KeyTables) (shiftDown : Bool) (front rest : List (BitVec 8)) :
    allReads tables shiftDown (front ++ rest) =
      allReads tables shiftDown front ++ allReads tables (front.foldl nextShift shiftDown) rest := by
  induction front generalizing shiftDown with
  | nil => rfl
  | cons b front ih => simp [allReads, ih]

/-- The arrays far from each other. -/
def spacedTables : KeyTables := ⟨0x1000, 0x2000⟩

def spacedMemory : Memory 64 := overlay (overlay (fun _ => 0) 0x1000 chars) 0x2000 charsCap

theorem spaced_placed : spacedTables.Placed spacedMemory := by
  have entries : ∀ i ∈ List.range 59,
      chars[i]? = some (spacedMemory (spacedTables.chars + BitVec.ofNat 64 i)) ∧
        charsCap[i]? = some (spacedMemory (spacedTables.charsCap + BitVec.ofNat 64 i)) := by
    decide +kernel
  constructor
  · intro i c found
    have bound := chars_length.1 ▸ (List.getElem?_eq_some_iff.mp found).1
    exact Option.some_inj.mp ((entries i (List.mem_range.mpr bound)).1.symm.trans found)
  · intro i c found
    have bound := chars_length.2 ▸ (List.getElem?_eq_some_iff.mp found).1
    exact Option.some_inj.mp ((entries i (List.mem_range.mpr bound)).2.symm.trans found)

/-- There a code past the arrays is looked up outside of them. -/
theorem spaced_outside {b : BitVec 8} (past : 59 ≤ b.toNat) (shiftDown : Bool) :
    ¬ spacedTables.Inside (spacedTables.table shiftDown + b.setWidth 64) := by
  have codes : ∀ b : BitVec 8, 59 ≤ b.toNat → ∀ shiftDown,
      59 ≤ (spacedTables.table shiftDown + b.setWidth 64 - spacedTables.chars).toNat ∧
        59 ≤ (spacedTables.table shiftDown + b.setWidth 64 - spacedTables.charsCap).toNat := by
    decide +kernel
  have far := codes b past shiftDown
  rw [KeyTables.Inside, Within, Within, chars_length.1, chars_length.2]
  omega

theorem translatable_of_safe {bytes : List (BitVec 8)} (safe : SafelyTranslated bytes) :
    ∀ b ∈ bytes, Translatable b := by
  intro b member
  by_contra bad
  simp only [Translatable, not_or, Nat.not_lt] at bad
  obtain ⟨front, rest, rfl⟩ := List.append_of_mem member
  have ran : Task.Ensures (typingStep spacedMemory)
      (keyboardInterrupts spacedTables (front ++ b :: rest).length false)
      ⟨front ++ b :: rest, [], []⟩ _ :=
    keyboardInterrupts_ensures (front ++ b :: rest) (List.append_nil _).symm false
  obtain ⟨_, s, now, inside, -⟩ :=
    ran.possible.meets (safe spacedMemory spacedTables spaced_placed).satisfies
  have printable : ¬ (IsShiftCode b ∨ b = 0x0E) := by
    rintro ((rfl | rfl | rfl | rfl) | rfl) <;> simp at bad
  rw [now.2, allReads_append, allReads, keyReads, if_neg printable] at inside
  exact spaced_outside bad.1 (front.foldl nextShift false) (inside _ (by simp))

/-- A sequence is translated safely if and only if every byte of it has an entry in the arrays or
is the break code of a shift key. -/
theorem safelyTranslated_iff (bytes : List (BitVec 8)) :
    SafelyTranslated bytes ↔ ∀ b ∈ bytes, Translatable b := by
  constructor
  · exact translatable_of_safe
  · intro translatable mem tables placed
    apply (keyboardInterrupts_ensures bytes (List.append_nil _).symm false).mono
    intro shiftDown s now
    rw [now.2]
    exact ⟨allReads_inside translatable false, allCalls_visible placed translatable false⟩

/-- The key A is pressed and released. -/
theorem release_not_safe : ¬ SafelyTranslated [0x1E, 0x9E] := by
  intro safe
  have bad := translatable_of_safe safe 0x9E (by decide)
  simp [Translatable] at bad

end Flosp.Kernel
