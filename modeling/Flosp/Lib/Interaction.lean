import Mathlib.Data.List.Basic

/-! Programs that talk to an environment. A program is the tree of the operations
it asks for and of what it does with each reply. `Runs` lists the sequences of
replies a program may receive, `Follows` the sequences an environment may give;
a claim about every environment quantifies over both. -/

namespace Interaction

inductive Prog (Op : Type) (Reply : Op → Type) (Halt α : Type) where
  | ret (a : α)
  | halt (h : Halt)
  | op (o : Op) (next : Reply o → Prog Op Reply Halt α)

/-- One operation with the reply it was given. -/
structure Event (Op : Type) (Reply : Op → Type) where
  op : Op
  reply : Reply op

variable {Op : Type} {Reply : Op → Type} {Halt α β γ : Type}

namespace Prog

protected def bind : Prog Op Reply Halt α → (α → Prog Op Reply Halt β) → Prog Op Reply Halt β
  | .ret a, f => f a
  | .halt h, _ => .halt h
  | .op o next, f => .op o fun r => (next r).bind f

instance : Monad (Prog Op Reply Halt) where
  pure := .ret
  bind := Prog.bind

/-- Ask for `o` and return its reply. -/
def perform (o : Op) : Prog Op Reply Halt (Reply o) := .op o .ret

def forEach (body : β → Prog Op Reply Halt Unit) : List β → Prog Op Reply Halt Unit
  | [] => .ret ()
  | b :: rest => do
      body b
      forEach body rest

@[simp] theorem pure_eq (a : α) : (pure a : Prog Op Reply Halt α) = .ret a := rfl

@[simp] theorem ret_bind (a : α) (f : α → Prog Op Reply Halt β) : (.ret a >>= f) = f a := rfl

@[simp] theorem halt_bind (h : Halt) (f : α → Prog Op Reply Halt β) :
    (.halt h >>= f) = .halt h := rfl

@[simp] theorem op_bind (o : Op) (next : Reply o → Prog Op Reply Halt α)
    (f : α → Prog Op Reply Halt β) : (.op o next >>= f) = .op o fun r => next r >>= f := rfl

@[simp] theorem perform_bind (o : Op) (f : Reply o → Prog Op Reply Halt β) :
    (perform o >>= f) = .op o f := rfl

theorem bind_ret (p : Prog Op Reply Halt α) : (p >>= .ret) = p := by
  induction p with
  | ret a => rfl
  | halt h => rfl
  | op o next ih => exact congrArg (Prog.op o) (funext ih)

@[simp] theorem bind_assoc (p : Prog Op Reply Halt α) (f : α → Prog Op Reply Halt β)
    (g : β → Prog Op Reply Halt γ) : (p >>= f >>= g) = (p >>= fun a => f a >>= g) := by
  induction p with
  | ret a => rfl
  | halt h => rfl
  | op o next ih => exact congrArg (Prog.op o) (funext ih)

end Prog

open Prog

/-- `Runs p t r`: given the replies of `t` in turn, `p` performs exactly the
operations of `t` and ends with `r`. -/
inductive Runs : Prog Op Reply Halt α → List (Event Op Reply) → Except Halt α → Prop where
  | ret (a : α) : Runs (.ret a) [] (.ok a)
  | halt (h : Halt) : Runs (.halt h) [] (.error h)
  | op (o : Op) (next : Reply o → Prog Op Reply Halt α) (reply : Reply o)
      (t : List (Event Op Reply)) (r : Except Halt α) :
      Runs (next reply) t r → Runs (.op o next) (⟨o, reply⟩ :: t) r

@[simp] theorem runs_ret {a : α} {t : List (Event Op Reply)} {r : Except Halt α} :
    Runs (.ret a) t r ↔ t = [] ∧ r = .ok a := by
  constructor
  · intro run
    cases run
    exact ⟨rfl, rfl⟩
  · rintro ⟨rfl, rfl⟩
    exact .ret a

@[simp] theorem runs_halt {h : Halt} {t : List (Event Op Reply)} {r : Except Halt α} :
    Runs (.halt h) t r ↔ t = [] ∧ r = .error h := by
  constructor
  · intro run
    cases run
    exact ⟨rfl, rfl⟩
  · rintro ⟨rfl, rfl⟩
    exact .halt h

@[simp] theorem runs_op {o : Op} {next : Reply o → Prog Op Reply Halt α}
    {t : List (Event Op Reply)} {r : Except Halt α} :
    Runs (.op o next) t r ↔ ∃ reply rest, t = ⟨o, reply⟩ :: rest ∧ Runs (next reply) rest r := by
  constructor
  · intro run
    cases run with
    | op _ _ reply rest _ rest_runs => exact ⟨reply, rest, rfl, rest_runs⟩
  · rintro ⟨reply, rest, rfl, rest_runs⟩
    exact .op o next reply rest r rest_runs

/-- How `f` goes on from the end `m` of an earlier run. -/
def Resumes (f : α → Prog Op Reply Halt β) (m : Except Halt α) (t : List (Event Op Reply))
    (r : Except Halt β) : Prop :=
  match m with
  | .ok a => Runs (f a) t r
  | .error h => t = [] ∧ r = .error h

@[simp] theorem resumes_ok {f : α → Prog Op Reply Halt β} {a : α} {t : List (Event Op Reply)}
    {r : Except Halt β} : Resumes f (.ok a) t r ↔ Runs (f a) t r := Iff.rfl

@[simp] theorem resumes_error {f : α → Prog Op Reply Halt β} {h : Halt}
    {t : List (Event Op Reply)} {r : Except Halt β} :
    Resumes f (.error h) t r ↔ t = [] ∧ r = .error h := Iff.rfl

theorem runs_bind {p : Prog Op Reply Halt α} {f : α → Prog Op Reply Halt β}
    {t : List (Event Op Reply)} {r : Except Halt β} :
    Runs (p >>= f) t r ↔ ∃ t₁ t₂ m, t = t₁ ++ t₂ ∧ Runs p t₁ m ∧ Resumes f m t₂ r := by
  induction p generalizing t with
  | ret a => simp
  | halt h => simp
  | op o next ih =>
      simp only [op_bind, runs_op, ih]
      constructor
      · rintro ⟨reply, _, rfl, t₁, t₂, m, rfl, first, second⟩
        exact ⟨⟨o, reply⟩ :: t₁, t₂, m, rfl, ⟨reply, t₁, rfl, first⟩, second⟩
      · rintro ⟨_, t₂, m, rfl, ⟨reply, t₁, rfl, first⟩, second⟩
        exact ⟨reply, t₁ ++ t₂, rfl, t₁, t₂, m, rfl, first, second⟩

/-! Operations that a program may perform at all. -/

def Prog.Only (A : Op → Prop) : Prog Op Reply Halt α → Prop
  | .ret _ => True
  | .halt _ => True
  | .op o next => A o ∧ ∀ r, Only A (next r)

namespace Prog.Only

variable {A : Op → Prop} {p : Prog Op Reply Halt α}

theorem bind {f : α → Prog Op Reply Halt β} (first : Only A p) (second : ∀ a, Only A (f a)) :
    Only A (p >>= f) := by
  induction p with
  | ret a => exact second a
  | halt h => trivial
  | op o next ih => exact ⟨first.1, fun r => ih r (first.2 r)⟩

theorem forEach {body : β → Prog Op Reply Halt Unit} (each : ∀ b, Only A (body b))
    (bs : List β) : Only A (Prog.forEach body bs) := by
  induction bs with
  | nil => trivial
  | cons b rest ih => exact (each b).bind fun _ => ih

theorem events {t : List (Event Op Reply)} {r : Except Halt α} (only : Only A p)
    (run : Runs p t r) : ∀ e ∈ t, A e.op := by
  induction run with
  | ret a =>
      intro e member
      cases member
  | halt h =>
      intro e member
      cases member
  | op o next reply t r _ ih =>
      intro e member
      rcases List.mem_cons.mp member with rfl | later
      · exact only.1
      · exact ih (only.2 reply) e later

end Prog.Only

def NeverReturns (p : Prog Op Reply Halt α) : Prop :=
  ∀ t r, Runs p t r → ∃ h, r = .error h

theorem neverReturns_halt (h : Halt) : NeverReturns (.halt h : Prog Op Reply Halt α) := by
  intro t r runs
  exact ⟨h, (runs_halt.mp runs).2⟩

theorem NeverReturns.bind {f : α → Prog Op Reply Halt β} (never : ∀ a, NeverReturns (f a))
    (p : Prog Op Reply Halt α) : NeverReturns (p >>= f) := by
  intro t r runs
  rcases runs_bind.mp runs with ⟨t₁, t₂, m, rfl, first, second⟩
  cases m with
  | ok a => exact never a t₂ r second
  | error h => exact ⟨h, second.2⟩

theorem NeverReturns.resumes {f : α → Prog Op Reply Halt β} (never : ∀ a, NeverReturns (f a))
    {m : Except Halt α} {t : List (Event Op Reply)} {r : Except Halt β}
    (resumes : Resumes f m t r) : ∃ h, r = .error h := by
  cases m with
  | ok a => exact never a t r resumes
  | error h => exact ⟨h, resumes.2⟩

/-! Environments. -/

variable {S : Type}

/-- The environment may give the replies of `t` in turn, moving from `s` to `s'`. -/
def Follows (step : Event Op Reply → S → S → Prop) : List (Event Op Reply) → S → S → Prop
  | [], s, s' => s' = s
  | e :: t, s, s' => ∃ mid, step e s mid ∧ Follows step t mid s'

variable {step : Event Op Reply → S → S → Prop}

@[simp] theorem follows_nil {s s' : S} : Follows step [] s s' ↔ s' = s := Iff.rfl

@[simp] theorem follows_cons {e : Event Op Reply} {t : List (Event Op Reply)} {s s' : S} :
    Follows step (e :: t) s s' ↔ ∃ mid, step e s mid ∧ Follows step t mid s' := Iff.rfl

theorem follows_append {t₁ t₂ : List (Event Op Reply)} {s s' : S} :
    Follows step (t₁ ++ t₂) s s' ↔ ∃ mid, Follows step t₁ s mid ∧ Follows step t₂ mid s' := by
  induction t₁ generalizing s with
  | nil => simp
  | cons e t₁ ih =>
      simp only [List.cons_append, follows_cons, ih]
      constructor
      · rintro ⟨mid, now, next, first, second⟩
        exact ⟨next, ⟨mid, now, first⟩, second⟩
      · rintro ⟨next, ⟨mid, now, first⟩, second⟩
        exact ⟨mid, now, next, first, second⟩

theorem Follows.invariant {I : S → Prop} {t : List (Event Op Reply)} {s s' : S}
    (preserved : ∀ e ∈ t, ∀ u u', step e u u' → I u → I u') (follows : Follows step t s s')
    (start : I s) : I s' := by
  induction t generalizing s with
  | nil =>
      cases follows
      exact start
  | cons e t ih =>
      obtain ⟨mid, now, rest⟩ := follows
      exact ih (fun e' member => preserved e' (List.mem_cons_of_mem e member)) rest
        (preserved e List.mem_cons_self s mid now start)

/-! Environments that answer by a function, to build runs from. -/

/-- What a program does against `handle`: its events, its end, the last state. -/
def exec (handle : (o : Op) → S → Reply o × S) :
    Prog Op Reply Halt α → S → List (Event Op Reply) × Except Halt α × S
  | .ret a, s => ([], .ok a, s)
  | .halt h, s => ([], .error h, s)
  | .op o next, s =>
      let result := exec handle (next (handle o s).1) (handle o s).2
      (⟨o, (handle o s).1⟩ :: result.1, result.2)

theorem exec_runs (handle : (o : Op) → S → Reply o × S) (p : Prog Op Reply Halt α) (s : S) :
    Runs p (exec handle p s).1 (exec handle p s).2.1 := by
  induction p generalizing s with
  | ret a => exact .ret a
  | halt h => exact .halt h
  | op o next ih => exact .op o next _ _ _ (ih _ _)

theorem exec_replies (handle : (o : Op) → S → Reply o × S) {p : Prog Op Reply Halt α} {s : S}
    {e : Event Op Reply} (member : e ∈ (exec handle p s).1) :
    ∃ u, e.reply = (handle e.op u).1 := by
  induction p generalizing s with
  | ret a => cases member
  | halt h => cases member
  | op o next ih =>
      rcases List.mem_cons.mp member with rfl | later
      · exact ⟨s, rfl⟩
      · exact ih _ later

/-- The same for what follows an earlier end `m`. -/
def resume (handle : (o : Op) → S → Reply o × S) (f : α → Prog Op Reply Halt β) :
    Except Halt α → S → List (Event Op Reply) × Except Halt β × S
  | .ok a, s => exec handle (f a) s
  | .error h, s => ([], .error h, s)

theorem resume_resumes (handle : (o : Op) → S → Reply o × S) (f : α → Prog Op Reply Halt β)
    (m : Except Halt α) (s : S) : Resumes f m (resume handle f m s).1 (resume handle f m s).2.1 := by
  cases m with
  | ok a => exact exec_runs handle (f a) s
  | error h => exact ⟨rfl, rfl⟩

/-- Every operation of the run is allowed in the state in which it comes. -/
def allowed (handle : (o : Op) → S → Reply o × S) (allow : Op → S → Bool) :
    Prog Op Reply Halt α → S → Bool
  | .ret _, _ => true
  | .halt _, _ => true
  | .op o next, s => allow o s && allowed handle allow (next (handle o s).1) (handle o s).2

/-- A function that answers the allowed operations as an environment may, and keeps an
invariant of its own, gives a run in that environment. -/
theorem exec_follows {V : Type} {step : Event Op Reply → V → V → Prop} (view : S → V)
    {I : S → Prop} {handle : (o : Op) → S → Reply o × S} {allow : Op → S → Bool}
    (lawful : ∀ o s, allow o s → I s →
      step ⟨o, (handle o s).1⟩ (view s) (view (handle o s).2) ∧ I (handle o s).2)
    {p : Prog Op Reply Halt α} {s : S} (start : I s) (all : allowed handle allow p s) :
    Follows step (exec handle p s).1 (view s) (view (exec handle p s).2.2) := by
  induction p generalizing s with
  | ret a => rfl
  | halt h => rfl
  | op o next ih =>
      rcases Bool.and_eq_true_iff.mp all with ⟨now, later⟩
      rcases lawful o s now start with ⟨moves, kept⟩
      exact ⟨_, moves, ih _ kept later⟩

end Interaction
