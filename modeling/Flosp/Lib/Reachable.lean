import Flosp.Lib.Task
import Mathlib.Logic.Relation

/-! The states that a task passes through, also where it never returns. `Task.Performs` lists
what a task may have performed so far, `Task.Guards` speaks of every state on the way and of the
end; `interrupted` lets another relation move the state before and after each operation. -/

namespace Interaction

variable {Op : Type} {Reply : Op → Type} {S : Type}

namespace Task

variable {α β σ : Type}

/-- `Performs p t`: given the replies of `t` in turn, the operations of `t` are the first that
`p` performs. -/
inductive Performs : {α : Type} → Task Op Reply α → List (Event Op Reply) → Prop where
  | start {α : Type} (p : Task Op Reply α) : Performs p []
  | op {α : Type} {o : Op} {next : Reply o → Task Op Reply α} {reply : Reply o}
      {t : List (Event Op Reply)} : Performs (next reply) t → Performs (.op o next) (⟨o, reply⟩ :: t)
  | turn {α β σ : Type} {body : σ → Task Op Reply (σ ⊕ β)} {s : σ} {next : β → Task Op Reply α}
      {t : List (Event Op Reply)} : Performs (body s) t → Performs (.loop body s next) t
  | again {α β σ : Type} {body : σ → Task Op Reply (σ ⊕ β)} {s s' : σ}
      {next : β → Task Op Reply α} {t₁ t₂ : List (Event Op Reply)} :
      Runs (body s) t₁ (.inl s') → Performs (.loop body s' next) t₂ →
      Performs (.loop body s next) (t₁ ++ t₂)
  | done {α β σ : Type} {body : σ → Task Op Reply (σ ⊕ β)} {s : σ} {b : β}
      {next : β → Task Op Reply α} {t₁ t₂ : List (Event Op Reply)} :
      Runs (body s) t₁ (.inr b) → Performs (next b) t₂ → Performs (.loop body s next) (t₁ ++ t₂)

variable {t : List (Event Op Reply)}

@[simp] theorem performs_ret {a : α} : Performs (.ret a : Task Op Reply α) t ↔ t = [] := by
  constructor
  · intro performs
    cases performs
    rfl
  · rintro rfl
    exact .start _

theorem Runs.performs {p : Task Op Reply α} {a : α} (run : Runs p t a) : Performs p t := by
  induction run with
  | ret a => exact .start _
  | op _ ih => exact ih.op
  | again turn _ _ ih => exact ih.again turn
  | done turn _ _ ih => exact ih.done turn

/-- What `p >>= f` has performed so far is of `p` alone, or all of `p` and some of `f`. -/
theorem Performs.split {q : Task Op Reply β} (performs : Performs q t) {p : Task Op Reply α}
    {f : α → Task Op Reply β} (bound : (p >>= f) = q) :
    Performs p t ∨ ∃ t₁ t₂ a, t = t₁ ++ t₂ ∧ Runs p t₁ a ∧ Performs (f a) t₂ := by
  induction performs generalizing p with
  | start q => exact .inl (.start p)
  | op performs ih =>
      cases p with
      | ret a => exact .inr ⟨[], _, a, rfl, .ret a, (show f a = _ from bound) ▸ performs.op⟩
      | op o next =>
          cases bound
          rcases ih (p := next _) rfl with first | ⟨t₁, t₂, a, rfl, run, second⟩
          · exact .inl first.op
          · exact .inr ⟨_ :: t₁, t₂, a, rfl, run.op, second⟩
      | loop body s next => cases bound
  | turn performs _ =>
      cases p with
      | ret a => exact .inr ⟨[], _, a, rfl, .ret a, (show f a = _ from bound) ▸ performs.turn⟩
      | op o next => cases bound
      | loop body s next =>
          cases bound
          exact .inl performs.turn
  | @again β γ σ body s s' next t₁ t₂ turn performs ih =>
      cases p with
      | ret a => exact .inr ⟨[], _, a, rfl, .ret a, (show f a = _ from bound) ▸ performs.again turn⟩
      | op o next => cases bound
      | loop body s next =>
          cases bound
          rcases ih (p := .loop body s' next) rfl with first | ⟨t₁, t₂, a, rfl, run, second⟩
          · exact .inl (first.again turn)
          · exact .inr ⟨_, t₂, a, (List.append_assoc ..).symm, .again turn run, second⟩
  | done turn performs ih =>
      cases p with
      | ret a => exact .inr ⟨[], _, a, rfl, .ret a, (show f a = _ from bound) ▸ performs.done turn⟩
      | op o next => cases bound
      | loop body s next =>
          cases bound
          rcases ih (p := next _) rfl with first | ⟨t₁, t₂, a, rfl, run, second⟩
          · exact .inl (first.done turn)
          · exact .inr ⟨_, t₂, a, (List.append_assoc ..).symm, .done turn run, second⟩

theorem performs_bind {p : Task Op Reply α} {f : α → Task Op Reply β} :
    Performs (p >>= f) t ↔
      Performs p t ∨ ∃ t₁ t₂ a, t = t₁ ++ t₂ ∧ Runs p t₁ a ∧ Performs (f a) t₂ := by
  constructor
  · intro performs
    exact performs.split rfl
  · rintro (first | ⟨t₁, t₂, a, rfl, run, second⟩)
    · induction first with
      | start p => exact .start _
      | op _ ih => exact (ih (f := f)).op
      | turn performs _ => exact performs.turn
      | again turn _ ih => exact (ih (f := f)).again turn
      | done turn _ ih => exact (ih (f := f)).done turn
    · induction run with
      | ret a => exact second
      | op _ ih => exact (ih second).op
      | again turn _ _ ih =>
          rw [List.append_assoc]
          exact (ih second).again turn
      | done turn _ _ ih =>
          rw [List.append_assoc]
          exact (ih second).done turn

/-- A loop is somewhere in one of its turns: by induction on those it has made. -/
theorem Performs.iterate_induction {body : σ → Task Op Reply (σ ⊕ α)}
    {motive : σ → List (Event Op Reply) → Prop}
    (turn : ∀ i t, Performs (body i) t → motive i t)
    (again : ∀ i i' t t', Runs (body i) t (.inl i') → motive i' t' → motive i (t ++ t'))
    {i : σ} (performs : Performs (iterate body i) t) : motive i t := by
  generalize loop : iterate body i = q at performs
  induction performs generalizing i with
  | start q => exact turn i [] (.start _)
  | op performs ih => cases loop
  | turn performs _ =>
      cases loop
      exact turn i _ performs
  | again run _ ih =>
      cases loop
      exact again _ _ _ _ run (ih turn again rfl)
  | done run rest _ =>
      cases loop
      obtain rfl := performs_ret.mp rest
      rw [List.append_nil]
      exact turn _ _ run.performs

theorem Only.mono {A A' : Op → Prop} {p : Task Op Reply α} (only : Only A p)
    (weaker : ∀ o, A o → A' o) : Only A' p := by
  induction p with
  | ret a => trivial
  | op o next ih => exact ⟨weaker o only.1, fun r => ih r (only.2 r)⟩
  | loop body s next turn ih => exact ⟨fun i => turn i (only.1 i), fun b => ih b (only.2 b)⟩

theorem Only.performed {A : Op → Prop} {p : Task Op Reply α} (only : Only A p)
    (performs : Performs p t) : ∀ e ∈ t, A e.op := by
  induction performs with
  | start p =>
      intro e member
      cases member
  | op _ ih =>
      intro e member
      rcases List.mem_cons.mp member with rfl | later
      · exact only.1
      · exact ih (only.2 _) e later
  | turn _ ih => exact ih (only.1 _)
  | again turn _ ih =>
      intro e member
      rcases List.mem_append.mp member with first | later
      · exact (only.1 _).events turn e first
      · exact ih only e later
  | done turn _ ih =>
      intro e member
      rcases List.mem_append.mp member with first | later
      · exact (only.1 _).events turn e first
      · exact ih (only.2 _) e later

/-! Every state on the way. -/

variable (step : Event Op Reply → S → S → Prop)

/-- Every state that `p` passes through from `s` on is as `I` says. -/
def Always (p : Task Op Reply α) (s : S) (I : S → Prop) : Prop :=
  ∀ t s', Performs p t → Follows step t s s' → I s'

/-- Every state on the way is as `I` says; where `p` returns, the result and the state are as
`Q` says. -/
structure Guards (p : Task Op Reply α) (s : S) (I : S → Prop) (Q : α → S → Prop) : Prop where
  always : Always step p s I
  satisfies : Satisfies step p s Q

variable {step} {p : Task Op Reply α} {f : α → Task Op Reply β} {s : S} {I : S → Prop}
  {Q : α → S → Prop}

theorem Always.mono {I' : S → Prop} (always : Always step p s I) (weaker : ∀ s', I s' → I' s') :
    Always step p s I' :=
  fun t s' performs follows => weaker s' (always t s' performs follows)

theorem always_bind : Always step (p >>= f) s I ↔
    Always step p s I ∧ Satisfies step p s fun a s' => Always step (f a) s' I := by
  constructor
  · intro always
    constructor
    · intro t s' performs follows
      exact always t s' (performs_bind.mpr (.inl performs)) follows
    · intro t₁ a mid run follows t₂ s' performs later
      exact always (t₁ ++ t₂) s' (performs_bind.mpr (.inr ⟨t₁, t₂, a, rfl, run, performs⟩))
        (follows_append.mpr ⟨mid, follows, later⟩)
  · rintro ⟨first, second⟩ t s' performs follows
    rcases performs_bind.mp performs with here | ⟨t₁, t₂, a, rfl, run, later⟩
    · exact first t s' here follows
    · obtain ⟨mid, now, rest⟩ := follows_append.mp follows
      exact second t₁ a mid run now t₂ s' later rest

namespace Guards

theorem ret {a : α} (here : I s) (holds : Q a s) : Guards step (.ret a) s I Q := by
  constructor
  · intro t s' performs follows
    obtain rfl := performs_ret.mp performs
    cases follows
    exact here
  · exact satisfies_ret.mpr holds

theorem op {o : Op} {next : Reply o → Task Op Reply α} (here : I s)
    (rest : ∀ reply s', step ⟨o, reply⟩ s s' → Guards step (next reply) s' I Q) :
    Guards step (.op o next) s I Q := by
  constructor
  · intro t s' performs follows
    cases performs with
    | start =>
        cases follows
        exact here
    | op performs =>
        obtain ⟨mid, now, later⟩ := follows
        exact (rest _ mid now).always _ s' performs later
  · exact satisfies_op.mpr fun reply s' now => (rest reply s' now).satisfies

theorem mono {I' : S → Prop} {Q' : α → S → Prop} (guards : Guards step p s I Q)
    (weakerI : ∀ s', I s' → I' s') (weakerQ : ∀ a s', Q a s' → Q' a s') :
    Guards step p s I' Q' :=
  ⟨guards.always.mono weakerI, guards.satisfies.mono weakerQ⟩

theorem bind {Q' : β → S → Prop} (first : Guards step p s I Q)
    (second : ∀ a s', Q a s' → Guards step (f a) s' I Q') : Guards step (p >>= f) s I Q' :=
  ⟨always_bind.mpr ⟨first.always, first.satisfies.mono fun a s' holds => (second a s' holds).always⟩,
    first.satisfies.bind fun a s' holds => (second a s' holds).satisfies⟩

theorem iterate {body : σ → Task Op Reply (σ ⊕ α)} {J : σ → S → Prop}
    (turn : ∀ i s, J i s → Guards step (body i) s I fun x s' => x.elim (J · s') (Q · s'))
    {i : σ} (start : J i s) : Guards step (Task.iterate body i) s I Q := by
  constructor
  · intro t s' performs
    refine performs.iterate_induction
      (motive := fun i t => ∀ s, J i s → Follows step t s s' → I s') ?_ ?_ s start
    · intro i t performs s holds
      exact (turn i s holds).always t s' performs
    · intro i i' t t' run ih s holds follows
      obtain ⟨mid, now, later⟩ := follows_append.mp follows
      exact ih mid ((turn i s holds).satisfies t (.inl i') mid run now) later
  · exact satisfies_iterate (fun i s holds => (turn i s holds).satisfies) start

end Guards

theorem Only.guards {A : Op → Prop} (only : Only A p)
    (preserved : ∀ e, A e.op → ∀ u u', step e u u' → I u → I u') (start : I s) :
    Guards step p s I fun _ s' => I s' := by
  constructor
  · intro t s' performs follows
    exact follows.invariant (fun e member => preserved e (only.performed performs e member)) start
  · exact only.satisfies preserved start

end Task

/-! Interrupts. -/

/-- The steps of an environment in which `interrupt` may move the state any number of times
before and after each operation. -/
def interrupted (step : Event Op Reply → S → S → Prop) (interrupt : S → S → Prop)
    (e : Event Op Reply) (s s' : S) : Prop :=
  ∃ u v, Relation.ReflTransGen interrupt s u ∧ step e u v ∧ Relation.ReflTransGen interrupt v s'

section Interrupted

variable {step : Event Op Reply → S → S → Prop} {interrupt : S → S → Prop} {e : Event Op Reply}

theorem interrupts_preserve {I : S → Prop} (stable : ∀ u u', interrupt u u' → I u → I u')
    {s s' : S} (interrupts : Relation.ReflTransGen interrupt s s') (start : I s) : I s' := by
  induction interrupts with
  | refl => exact start
  | tail _ last ih => exact stable _ _ last ih

/-- From one assertion about the state to another by one operation, where interrupts leave both
alone. -/
theorem interrupted_moves {I J : S → Prop} (stable : ∀ u u', interrupt u u' → I u → I u')
    (stable' : ∀ u u', interrupt u u' → J u → J u') (moves : ∀ u u', step e u u' → I u → J u')
    {s s' : S} (now : interrupted step interrupt e s s') (start : I s) : J s' := by
  obtain ⟨u, v, before, op, after⟩ := now
  exact interrupts_preserve stable' after (moves u v op (interrupts_preserve stable before start))

end Interrupted

end Interaction
