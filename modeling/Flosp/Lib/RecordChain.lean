import Mathlib.Data.List.Basic

/-! Chains of records of different lengths: a record says how long it is, and the next one
starts behind it. A record of length zero ends the chain. -/

/-- The kind and the length of the record that starts at an offset. -/
structure RecordChain (κ : Type) where
  kind : Nat → κ
  length : Nat → Nat

namespace RecordChain

variable {κ : Type} {c c' : RecordChain κ} {t : κ} {limit header stop o x y : Nat}

/-- On the chain from an offset on, the first record of the kind that starts no later than at
`limit`. -/
inductive First (c : RecordChain κ) (t : κ) (limit : Nat) : Nat → Nat → Prop where
  | here {o : Nat} (inside : o ≤ limit) (hit : c.kind o = t) : First c t limit o o
  | next {o x : Nat} (inside : o ≤ limit) (miss : c.kind o ≠ t) (long : 0 < c.length o)
      (rest : First c t limit (o + c.length o) x) : First c t limit o x

/-- The records, each with a header of `header` bytes, that fill the bytes up to `stop`. -/
inductive Fills (c : RecordChain κ) (header stop : Nat) : Nat → List Nat → Prop where
  | nil : Fills c header stop stop []
  | cons {o : Nat} {rest : List Nat} (whole : header ≤ c.length o)
      (fills : Fills c header stop (o + c.length o) rest) : Fills c header stop o (o :: rest)

/-- Along the chain from an offset on the headers lie before `stop`, up to a record of the kind or
of length zero. -/
inductive Settles (c : RecordChain κ) (t : κ) (header stop : Nat) : Nat → Prop where
  | here {o : Nat} (whole : o + header ≤ stop) (ends : c.kind o = t ∨ c.length o = 0) :
      Settles c t header stop o
  | next {o : Nat} (whole : o + header ≤ stop) (rest : Settles c t header stop (o + c.length o)) :
      Settles c t header stop o

theorem Settles.whole (settles : Settles c t header stop o) : o + header ≤ stop := by
  cases settles <;> assumption

theorem settles_iff_next (whole : o + header ≤ stop) (goes : ¬ (c.kind o = t ∨ c.length o = 0)) :
    Settles c t header stop o ↔ Settles c t header stop (o + c.length o) := by
  constructor
  · intro settles
    cases settles with
    | here _ ends => exact absurd ends goes
    | next _ rest => exact rest
  · exact Settles.next whole

theorem First.bounds (first : First c t limit o x) : o ≤ x ∧ x ≤ limit := by
  induction first with
  | here inside => exact ⟨Nat.le_refl _, inside⟩
  | next inside miss long rest ih => exact ⟨by omega, ih.2⟩

theorem First.unique (first : First c t limit o x) (second : First c t limit o y) : x = y := by
  induction first with
  | here inside hit =>
      cases second with
      | here => rfl
      | next _ miss => exact absurd hit miss
  | next inside miss long rest ih =>
      cases second with
      | here _ hit => exact absurd hit miss
      | next _ _ _ rest' => exact ih rest'

theorem First.congr (first : First c t limit o x)
    (same : ∀ o, o ≤ limit → c'.kind o = c.kind o ∧ c'.length o = c.length o) :
    First c' t limit o x := by
  induction first with
  | here inside hit => exact .here inside ((same _ inside).1.trans hit)
  | next inside miss long _ ih =>
      rw [← (same _ inside).1] at miss
      rw [← (same _ inside).2] at long ih
      exact .next inside miss long ih

section Search

variable [DecidableEq κ]

def search (c : RecordChain κ) (t : κ) (limit : Nat) : Nat → Nat → Option Nat
  | 0, _ => none
  | fuel + 1, o =>
      if o ≤ limit then
        if c.kind o = t then some o
        else if c.length o = 0 then none
        else search c t limit fuel (o + c.length o)
      else none

/-- The search is for the first record, as long as it may look at every record up to the
limit. -/
theorem search_eq_some_iff {fuel : Nat} (enough : limit < o + fuel) :
    c.search t limit fuel o = some x ↔ First c t limit o x := by
  induction fuel generalizing o with
  | zero =>
      apply iff_of_false (by rw [search]; nofun)
      intro first
      have bounds := first.bounds
      omega
  | succ fuel ih =>
      rw [search]
      by_cases inside : o ≤ limit
      · rw [if_pos inside]
        by_cases hit : c.kind o = t
        · rw [if_pos hit]
          constructor
          · intro found
            cases found
            exact First.here inside hit
          · intro first
            exact congrArg some ((First.here inside hit).unique first)
        · rw [if_neg hit]
          by_cases stops : c.length o = 0
          · rw [if_pos stops]
            apply iff_of_false nofun
            intro first
            cases first with
            | here _ hit' => exact hit hit'
            | next _ _ long => omega
          · rw [if_neg stops, ih (by omega)]
            constructor
            · exact First.next inside hit (Nat.pos_of_ne_zero stops)
            · intro first
              cases first with
              | here _ hit' => exact absurd hit' hit
              | next _ _ _ rest => exact rest
      · rw [if_neg inside]
        apply iff_of_false nofun
        intro first
        have bounds := first.bounds
        omega

theorem search_eq_none_iff {fuel : Nat} (enough : limit < o + fuel) :
    c.search t limit fuel o = none ↔ ∀ x, ¬ First c t limit o x := by
  rw [Option.eq_none_iff_forall_ne_some]
  exact forall_congr' fun x => not_congr (search_eq_some_iff enough)

end Search

theorem Fills.start_le (fills : Fills c header stop o rest) : o ≤ stop := by
  induction fills with
  | nil => exact Nat.le_refl stop
  | cons whole fills ih => omega

theorem Fills.header_le {rest : List Nat} (fills : Fills c header stop o rest) :
    ∀ r ∈ rest, r + header ≤ stop := by
  induction fills with
  | nil => intro r member; cases member
  | cons whole fills ih =>
      intro r member
      rcases List.mem_cons.mp member with rfl | later
      · have start := fills.start_le
        omega
      · exact ih r later

theorem Fills.congr {rest : List Nat} (fills : Fills c header stop o rest)
    (same : ∀ r ∈ rest, c'.length r = c.length r) : Fills c' header stop o rest := by
  induction fills with
  | nil => exact Fills.nil
  | cons whole fills ih =>
      have here := same _ List.mem_cons_self
      apply Fills.cons (here ▸ whole)
      rw [here]
      exact ih fun r later => same r (List.mem_cons_of_mem _ later)

section Table

variable [DecidableEq κ] {rest : List Nat}

theorem Fills.first_of_find (fills : Fills c header stop o rest) (positive : 0 < header)
    (covered : stop ≤ limit) (found : rest.find? (fun r => c.kind r == t) = some x) :
    First c t limit o x := by
  induction fills with
  | nil => cases found
  | @cons o rest whole fills ih =>
      have start := fills.start_le
      rw [List.find?_cons] at found
      by_cases hit : c.kind o = t
      · rw [hit, beq_self_eq_true] at found
        cases found
        exact First.here (by omega) hit
      · rw [beq_eq_false_iff_ne.mpr hit] at found
        exact First.next (by omega) hit (by omega) (ih found)

theorem Fills.first_iff_behind (fills : Fills c header stop o rest) (positive : 0 < header)
    (covered : stop ≤ limit) (absent : rest.find? (fun r => c.kind r == t) = none) :
    First c t limit o x ↔ First c t limit stop x := by
  induction fills with
  | nil => exact Iff.rfl
  | @cons o rest whole fills ih =>
      have start := fills.start_le
      rw [List.find?_cons] at absent
      have miss : c.kind o ≠ t := by
        intro hit
        rw [hit, beq_self_eq_true] at absent
        cases absent
      rw [beq_eq_false_iff_ne.mpr miss] at absent
      rw [← ih absent]
      constructor
      · intro first
        cases first with
        | here _ hit => exact absurd hit miss
        | next _ _ _ later => exact later
      · exact First.next (by omega) miss (by omega)

end Table

end RecordChain
