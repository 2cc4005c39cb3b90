import Flosp.Lib.ByteMemory

/-! A memory that records every access made to it. The tag of an access is for
bookkeeping only: it names the pointer the access goes through. -/

namespace ByteMemory

inductive AccessKind where
  | load
  | store
  deriving DecidableEq, Repr

structure Access (w : Nat) (ι : Type) where
  tag : ι
  kind : AccessKind
  addr : BitVec w
  len : Nat
  deriving DecidableEq, Repr

/-- A memory with its accesses so far, the newest first. -/
structure Machine (w : Nat) (ι : Type) where
  mem : Memory w
  log : List (Access w ι)

namespace Machine

variable {w : Nat} {ι : Type}

def load (k : Machine w ι) (tag : ι) (a : BitVec w) (n : Nat) : BitVec (8 * n) × Machine w ι :=
  (ByteMemory.load k.mem a n, { k with log := ⟨tag, .load, a, n⟩ :: k.log })

def store (k : Machine w ι) (tag : ι) (a : BitVec w) {n : Nat} (v : BitVec (8 * n)) :
    Machine w ι :=
  { mem := ByteMemory.store k.mem a v, log := ⟨tag, .store, a, n⟩ :: k.log }

@[simp] theorem load_fst (k : Machine w ι) (tag : ι) (a : BitVec w) (n : Nat) :
    (k.load tag a n).1 = ByteMemory.load k.mem a n := rfl

@[simp] theorem load_mem (k : Machine w ι) (tag : ι) (a : BitVec w) (n : Nat) :
    (k.load tag a n).2.mem = k.mem := rfl

@[simp] theorem store_mem (k : Machine w ι) (tag : ι) (a : BitVec w) {n : Nat}
    (v : BitVec (8 * n)) : (k.store tag a v).mem = ByteMemory.store k.mem a v := rfl

end Machine

/-- Some store of the log covers the byte at `a`. -/
def Stored {w : Nat} {ι : Type} (log : List (Access w ι)) (a : BitVec w) : Prop :=
  ∃ e ∈ log, e.kind = .store ∧ Within a e.addr e.len

/-- `k'` comes from `k` by accesses that the log of `k'` records in full: a byte
that none of the new stores covers still has its old value. -/
def Extends {w : Nat} {ι : Type} (k k' : Machine w ι) : Prop :=
  ∃ new, k'.log = new ++ k.log ∧ ∀ a, ¬ Stored new a → k'.mem a = k.mem a

namespace Extends

variable {w : Nat} {ι : Type} {k k' k'' : Machine w ι}

theorem refl (k : Machine w ι) : Extends k k := ⟨[], rfl, fun _ _ => rfl⟩

theorem trans (first : Extends k k') (second : Extends k' k'') : Extends k k'' := by
  obtain ⟨new, log, kept⟩ := first
  obtain ⟨new', log', kept'⟩ := second
  refine ⟨new' ++ new, by rw [log', log, List.append_assoc], ?_⟩
  intro a absent
  have late : ¬ Stored new' a := by
    rintro ⟨e, member, stored⟩
    exact absent ⟨e, List.mem_append_left new member, stored⟩
  have early : ¬ Stored new a := by
    rintro ⟨e, member, stored⟩
    exact absent ⟨e, List.mem_append_right new' member, stored⟩
  rw [kept' a late, kept a early]

theorem load (k : Machine w ι) (tag : ι) (a : BitVec w) (n : Nat) :
    Extends k (k.load tag a n).2 :=
  ⟨[⟨tag, .load, a, n⟩], rfl, fun _ _ => rfl⟩

theorem store (k : Machine w ι) (tag : ι) (a : BitVec w) {n : Nat} (v : BitVec (8 * n)) :
    Extends k (k.store tag a v) := by
  refine ⟨[⟨tag, .store, a, n⟩], rfl, ?_⟩
  intro x absent
  apply store_outside
  intro inside
  exact absent ⟨_, List.mem_singleton.mpr rfl, rfl, inside⟩

/-- A byte that no store of the final log covers was never changed. -/
theorem mem_eq (grows : Extends k k') {a : BitVec w} (absent : ¬ Stored k'.log a) :
    k'.mem a = k.mem a := by
  obtain ⟨new, log, kept⟩ := grows
  apply kept
  rintro ⟨e, member, stored⟩
  exact absent ⟨e, log ▸ List.mem_append_left k.log member, stored⟩

end Extends

def AllNew {w : Nat} {ι : Type} (P : Access w ι → Prop) (k k' : Machine w ι) : Prop :=
  ∃ new, k'.log = new ++ k.log ∧ ∀ e ∈ new, P e

namespace AllNew

variable {w : Nat} {ι : Type} {P Q : Access w ι → Prop} {k k' k'' : Machine w ι}

theorem refl (P : Access w ι → Prop) (k : Machine w ι) : AllNew P k k :=
  ⟨[], rfl, fun _ member => absurd member List.not_mem_nil⟩

theorem trans_iff (first : Extends k k') (second : Extends k' k'') :
    AllNew P k k'' ↔ AllNew P k k' ∧ AllNew P k' k'' := by
  obtain ⟨new, log, -⟩ := first
  obtain ⟨new', log', -⟩ := second
  have whole : k''.log = (new' ++ new) ++ k.log := by rw [log', log, List.append_assoc]
  constructor
  · rintro ⟨all, split, holds⟩
    rw [whole] at split
    rw [← List.append_cancel_right split] at holds
    exact ⟨⟨new, log, fun e member => holds e (List.mem_append_right new' member)⟩,
      ⟨new', log', fun e member => holds e (List.mem_append_left new member)⟩⟩
  · rintro ⟨⟨early, split, holds⟩, late, split', holds'⟩
    rw [log] at split
    rw [log'] at split'
    rw [← List.append_cancel_right split] at holds
    rw [← List.append_cancel_right split'] at holds'
    refine ⟨new' ++ new, whole, fun e member => ?_⟩
    rcases List.mem_append.mp member with inLate | inEarly
    · exact holds' e inLate
    · exact holds e inEarly

theorem mono (holds : AllNew P k k') (weaker : ∀ e, P e → Q e) : AllNew Q k k' := by
  obtain ⟨new, log, all⟩ := holds
  exact ⟨new, log, fun e member => weaker e (all e member)⟩

theorem mono₂ {R : Access w ι → Prop} (first : AllNew P k k') (second : AllNew Q k k')
    (both : ∀ e, P e → Q e → R e) : AllNew R k k' := by
  obtain ⟨new, log, holds⟩ := first
  obtain ⟨new', log', holds'⟩ := second
  rw [log] at log'
  rw [← List.append_cancel_right log'] at holds'
  exact ⟨new, log, fun e member => both e (holds e member) (holds' e member)⟩

theorem step_iff {e : Access w ι} (log : k'.log = e :: k.log) : AllNew P k k' ↔ P e := by
  constructor
  · rintro ⟨new, split, holds⟩
    rw [log] at split
    have single : [e] = new := List.append_cancel_right split
    rw [← single] at holds
    exact holds e (List.mem_singleton.mpr rfl)
  · intro holds
    refine ⟨[e], log, fun e' member => ?_⟩
    rw [List.mem_singleton.mp member]
    exact holds

theorem mem_eq {a : BitVec w} (grows : Extends k k')
    (avoids : AllNew (fun e => e.kind = .store → ¬ Within a e.addr e.len) k k') :
    k'.mem a = k.mem a := by
  obtain ⟨new, log, kept⟩ := grows
  obtain ⟨new', log', holds⟩ := avoids
  rw [log] at log'
  rw [← List.append_cancel_right log'] at holds
  apply kept
  rintro ⟨e, member, stored, inside⟩
  exact holds e member stored inside

end AllNew

structure Loads {w : Nat} {ι : Type} (k k' : Machine w ι) : Prop where
  grows : Extends k k'
  mem_eq : k'.mem = k.mem
  kinds : AllNew (fun e => e.kind = .load) k k'

namespace Loads

variable {w : Nat} {ι : Type} {k k' k'' : Machine w ι}

theorem refl (k : Machine w ι) : Loads k k := ⟨Extends.refl k, rfl, AllNew.refl _ k⟩

theorem trans (first : Loads k k') (second : Loads k' k'') : Loads k k'' :=
  ⟨first.grows.trans second.grows, second.mem_eq.trans first.mem_eq,
    (AllNew.trans_iff first.grows second.grows).mpr ⟨first.kinds, second.kinds⟩⟩

theorem load (k : Machine w ι) (tag : ι) (a : BitVec w) (n : Nat) :
    Loads k (k.load tag a n).2 :=
  ⟨Extends.load k tag a n, rfl, (AllNew.step_iff rfl).mpr rfl⟩

end Loads

end ByteMemory
