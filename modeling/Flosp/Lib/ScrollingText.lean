import Mathlib.Data.List.GetD

/-! Text on a terminal that scrolls: the lines typed so far, and which of them a screen of a
given number of rows shows. -/

/-- The finished lines of a text and the line being typed. -/
structure ScrollingText (α : Type) where
  done : List (List α)
  current : List α

namespace ScrollingText

variable {α : Type}

def empty : ScrollingText α := ⟨[], []⟩

def lines (t : ScrollingText α) : List (List α) := t.done ++ [t.current]

def put [DecidableEq α] (sep : α) (t : ScrollingText α) (c : α) : ScrollingText α :=
  if c = sep then ⟨t.lines, []⟩ else ⟨t.done, t.current ++ [c]⟩

def erase (t : ScrollingText α) : ScrollingText α := ⟨t.done, t.current.dropLast⟩

/-- Moves the finished lines up by one: the first is lost, and the last is a new one. -/
def scroll (t : ScrollingText α) : ScrollingText α := ⟨t.done.tail ++ [[]], t.current⟩

def Fits (n : Nat) (t : ScrollingText α) : Prop := ∀ line ∈ t.lines, line.length ≤ n

instance (n : Nat) (t : ScrollingText α) : Decidable (t.Fits n) :=
  inferInstanceAs (Decidable (∀ line ∈ t.lines, line.length ≤ n))

/-- Character `i` of row `r` on a screen of `rows` rows that shows the last of the lines. -/
def charAt (rows : Nat) (lines : List (List α)) (r i : Nat) : Option α :=
  (lines.getD (lines.length - rows + r) [])[i]?

def row (rows : Nat) (t : ScrollingText α) : Nat := min t.done.length (rows - 1)

variable {sep : α} {t : ScrollingText α} {rows : Nat}

theorem lines_length (t : ScrollingText α) : t.lines.length = t.done.length + 1 := by
  simp [lines]

theorem lines_getLast (t : ScrollingText α) : t.lines.getLastD [] = t.current := by
  simp [lines]

theorem getD_snoc (d : List (List α)) (l : List α) (j : Nat) :
    (d ++ [l]).getD j [] = if j = d.length then l else d.getD j [] := by
  rcases Nat.lt_trichotomy j d.length with below | same | above
  · rw [if_neg (by omega), List.getD_append _ _ _ _ below]
  · rw [if_pos same, List.getD_append_right _ _ _ _ (by omega), same, Nat.sub_self]
    rfl
  · rw [if_neg (by omega), List.getD_eq_default _ _ (by simp; omega),
      List.getD_eq_default _ _ (by omega)]

theorem getD_snoc_nil (d : List (List α)) (j : Nat) : (d ++ [[]]).getD j [] = d.getD j [] := by
  rw [getD_snoc]
  split
  · next same => rw [List.getD_eq_default _ _ (by omega)]
  · rfl

theorem charAt_none {r i : Nat} (positive : 0 < rows)
    (behind : t.row rows < r ∨ r = t.row rows ∧ t.current.length ≤ i) :
    charAt rows t.lines r i = none := by
  rw [charAt, lines_length, lines, getD_snoc]
  rcases behind with below | ⟨here, past⟩
  · rw [row] at below
    rw [if_neg (by omega), List.getD_eq_default _ _ (by omega)]
    rfl
  · rw [row] at here
    rw [if_pos (by omega), List.getElem?_eq_none past]

theorem charAt_erase (begun : t.current ≠ []) (positive : 0 < rows) (r i : Nat) :
    charAt rows t.erase.lines r i =
      if r = t.row rows ∧ i + 1 = t.current.length then none else charAt rows t.lines r i := by
  have index : t.done.length + 1 - rows + r = t.done.length ↔ r = t.row rows := by
    rw [row]
    omega
  have length := List.length_pos_iff.mpr begun
  rw [charAt, charAt, lines_length, lines_length, lines, lines, erase, getD_snoc, getD_snoc]
  by_cases here : t.done.length + 1 - rows + r = t.done.length
  · rw [if_pos here, if_pos here, List.getElem?_dropLast]
    by_cases inside : i < t.current.length - 1
    · have earlier : ¬ (r = t.row rows ∧ i + 1 = t.current.length) := fun both => by omega
      rw [if_pos inside, if_neg earlier]
    · rw [if_neg inside]
      split
      · rfl
      · next later =>
          have past : i + 1 ≠ t.current.length := fun last => later ⟨index.mp here, last⟩
          rw [List.getElem?_eq_none (by omega)]
  · have apart : ¬ (r = t.row rows ∧ i + 1 = t.current.length) := fun both => here (index.mpr both.1)
    rw [if_neg here, if_neg here, if_neg apart]

theorem scroll_length (begun : t.done ≠ []) : t.scroll.done.length = t.done.length := by
  have length := List.length_pos_iff.mpr begun
  rw [scroll, List.length_append, List.length_tail, List.length_singleton]
  omega

theorem charAt_scroll (fresh : t.current = []) (begun : t.done ≠ []) (r i : Nat) :
    charAt rows t.scroll.lines r i = charAt rows t.lines (r + 1) i := by
  have length := scroll_length begun
  have index : t.done.length + 1 - rows + (r + 1) = t.done.length + 1 - rows + r + 1 := rfl
  rw [charAt, charAt, lines_length, lines_length, length, lines, lines, fresh, scroll, fresh,
    getD_snoc_nil, getD_snoc_nil, getD_snoc_nil, index, List.getD_eq_getElem?_getD,
    List.getD_eq_getElem?_getD, List.getElem?_tail]

variable [DecidableEq α]

theorem put_sep : t.put sep sep = ⟨t.lines, []⟩ := if_pos rfl

theorem put_char {c : α} (visible : c ≠ sep) : t.put sep c = ⟨t.done, t.current ++ [c]⟩ :=
  if_neg visible

theorem lines_foldl_put (sep : α) (text : List α) (t : ScrollingText α) :
    (text.foldl (put sep) t).lines =
      t.done ++ (text.splitOn sep).modifyHead (t.current ++ ·) := by
  induction text generalizing t with
  | nil => simp [lines]
  | cons c text ih =>
      rw [List.foldl_cons, ih, List.splitOn_cons_eq_if_modifyHead]
      by_cases ends : c = sep
      · cases text.splitOn sep <;> simp [ends, put_sep, lines]
      · simp [ends, put_char ends, Function.comp_def]

theorem lines_typed (sep : α) (text : List α) :
    (text.foldl (put sep) empty).lines = text.splitOn sep := by
  rw [lines_foldl_put]
  cases text.splitOn sep <;> simp [empty]

theorem current_grows (sep : α) (text : List α) (t : ScrollingText α) :
    ∃ line ∈ (text.foldl (put sep) t).lines, t.current.length ≤ line.length := by
  rw [lines_foldl_put]
  obtain ⟨first, rest, split⟩ := List.exists_cons_of_ne_nil (List.splitOn_ne_nil sep text)
  refine ⟨t.current ++ first, ?_, by simp⟩
  rw [split]
  simp

theorem charAt_char {c : α} (visible : c ≠ sep) (positive : 0 < rows) (r i : Nat) :
    charAt rows (t.put sep c).lines r i =
      if r = t.row rows ∧ i = t.current.length then some c else charAt rows t.lines r i := by
  have index : t.done.length + 1 - rows + r = t.done.length ↔ r = t.row rows := by
    rw [row]
    omega
  have longer : (t.put sep c).lines = t.done ++ [t.current ++ [c]] := by
    rw [put_char visible, lines]
  rw [charAt, charAt, longer, lines, List.length_append, List.length_append, List.length_singleton,
    List.length_singleton, getD_snoc, getD_snoc]
  by_cases here : t.done.length + 1 - rows + r = t.done.length
  · rw [if_pos here, if_pos here, List.getElem?_append]
    by_cases last : i = t.current.length
    · simp [index.mp here, last]
    · have apart : ¬ (r = t.row rows ∧ i = t.current.length) := fun both => last both.2
      rw [if_neg apart]
      by_cases inside : i < t.current.length
      · rw [if_pos inside]
      · rw [if_neg inside, List.getElem?_eq_none (by simp; omega),
          List.getElem?_eq_none (by omega)]
  · have apart : ¬ (r = t.row rows ∧ i = t.current.length) := fun both => here (index.mpr both.1)
    rw [if_neg here, if_neg here, if_neg apart]

theorem charAt_sep_room (room : t.lines.length < rows) (r i : Nat) :
    charAt rows (t.put sep sep).lines r i = charAt rows t.lines r i := by
  have longer : (t.put sep sep).lines = t.lines ++ [[]] := by
    rw [put_sep, lines]
  rw [charAt, charAt, longer, getD_snoc_nil, List.length_append, List.length_singleton,
    Nat.sub_eq_zero_of_le room, Nat.sub_eq_zero_of_le (Nat.le_of_lt room)]

theorem charAt_sep_full (full : rows ≤ t.lines.length) (r i : Nat) :
    charAt rows (t.put sep sep).lines r i = charAt rows t.lines (r + 1) i := by
  have longer : (t.put sep sep).lines = t.lines ++ [[]] := by
    rw [put_sep, lines]
  have index : t.lines.length + 1 - rows + r = t.lines.length - rows + (r + 1) := by omega
  rw [charAt, charAt, longer, getD_snoc_nil, List.length_append, List.length_singleton, index]

end ScrollingText
