import Mathlib.Data.List.Basic

/-! Arrays under signed indices that keep a log of the indices stored to: what lists they hold,
and which stores were in range. -/

structure LoggedArray (β : Type) where
  cells : Int → β
  /-- the newest first -/
  stores : List Int

namespace LoggedArray

variable {β : Type}

def put (a : LoggedArray β) (i : Int) (c : β) : LoggedArray β where
  cells := fun j => if j = i then c else a.cells j
  stores := i :: a.stores

def swap (a : LoggedArray β) (i j : Int) : LoggedArray β := (a.put i (a.cells j)).put j (a.cells i)

def Holds (a : LoggedArray β) (cs : List β) : Prop :=
  ∀ (i : Nat) (inside : i < cs.length), a.cells i = cs.get ⟨i, inside⟩

def Inside (a : LoggedArray β) (length : Nat) : Prop := ∀ i ∈ a.stores, 0 ≤ i ∧ i < length

instance (a : LoggedArray β) (length : Nat) : Decidable (a.Inside length) :=
  inferInstanceAs (Decidable (∀ i ∈ a.stores, _))

/-- The elements from cell `i` up to a terminator, looking at `turns` cells. -/
def string [DecidableEq β] (nul : β) (a : LoggedArray β) : Nat → Int → List β
  | 0, _ => []
  | turns + 1, i => if a.cells i = nul then [] else a.cells i :: string nul a turns (i + 1)

variable {a : LoggedArray β} {cs : List β} {length : Nat} {i j k : Int} {c : β}

theorem put_cells_self : (a.put i c).cells i = c := if_pos rfl

theorem put_cells_ne (other : j ≠ i) : (a.put i c).cells j = a.cells j := if_neg other

theorem inside_put_iff : (a.put i c).Inside length ↔ (0 ≤ i ∧ i < length) ∧ a.Inside length :=
  List.forall_mem_cons

theorem Inside.mono {more : Nat} (inside : a.Inside length) (enough : length ≤ more) :
    a.Inside more := by
  intro i stored
  have range := inside i stored
  omega

theorem swap_cells (a : LoggedArray β) (i j k : Int) :
    (a.swap i j).cells k = if k = j then a.cells i else if k = i then a.cells j else a.cells k := rfl

theorem Inside.swap (inside : a.Inside length) (first : 0 ≤ i ∧ i < length)
    (second : 0 ≤ j ∧ j < length) : (a.swap i j).Inside length :=
  inside_put_iff.mpr ⟨second, inside_put_iff.mpr ⟨first, inside⟩⟩

theorem Holds.put_end (holds : a.Holds cs) (c : β) : (a.put cs.length c).Holds (cs ++ [c]) := by
  intro i inside
  rw [List.length_append] at inside
  rcases Nat.lt_or_ge i cs.length with early | last
  · rw [put_cells_ne (by omega), holds i early]
    exact (List.getElem_append_left early).symm
  · have here : i = cs.length := by
      rw [List.length_singleton] at inside
      omega
    subst here
    rw [put_cells_self]
    exact (List.getElem_concat_length rfl _).symm

theorem Holds.reverse {b : LoggedArray β} (holds : a.Holds cs)
    (cells : ∀ i : Nat, i < cs.length → b.cells i = a.cells (cs.length - 1 - i : Nat)) :
    b.Holds cs.reverse := by
  intro i inside
  rw [List.length_reverse] at inside
  rw [cells i inside, holds _ (by omega)]
  exact (List.getElem_reverse _).symm

/-- A list with a terminator behind it is what is read, by any number of turns that gets there. -/
theorem string_eq [DecidableEq β] {nul : β} {turns : Nat} (start : Nat) (enough : cs.length < turns)
    (holds : ∀ (i : Nat) (inside : i < cs.length), a.cells (start + i : Nat) = cs.get ⟨i, inside⟩)
    (ends : a.cells (start + cs.length : Nat) = nul) (others : nul ∉ cs) :
    a.string nul turns start = cs := by
  induction cs generalizing turns start with
  | nil =>
      cases turns with
      | zero => rfl
      | succ turns => exact if_pos ends
  | cons c cs ih =>
      cases turns with
      | zero => cases enough
      | succ turns =>
          have first : a.cells start = c := holds 0 (Nat.succ_pos _)
          have differs : c ≠ nul := fun same => others (same ▸ List.mem_cons_self)
          have next : (start : Int) + 1 = (start + 1 : Nat) := rfl
          rw [string, first, if_neg differs, next]
          congr 1
          apply ih (start + 1) (Nat.lt_of_succ_lt_succ enough)
          · intro i inside
            rw [Nat.add_assoc, Nat.add_comm 1 i]
            exact holds (i + 1) (Nat.succ_lt_succ inside)
          · rw [Nat.add_assoc, Nat.add_comm 1]
            exact ends
          · exact fun later => others (List.mem_cons_of_mem c later)

end LoggedArray
