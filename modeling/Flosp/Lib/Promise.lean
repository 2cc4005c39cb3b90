import Flosp.Lib.Embedding

/-! Tasks in environments that keep a promise about their replies: what such a task performs and
returns, as long as the promise is kept, and environments that keep it as long as the task
performs nothing else. -/

namespace Interaction

variable {Op : Type} {Reply : Op → Type} {S : Type}

namespace Task

/-- As long as the replies are as `P` promises, every operation of the task is one of `A`, and it
returns only with `Q`. -/
def Obeys (P : Event Op Reply → Prop) (A : Op → Prop) :
    {α : Type} → Task Op Reply α → (α → Prop) → Prop
  | _, .ret a, Q => Q a
  | _, .op o next, Q => A o ∧ ∀ r, P ⟨o, r⟩ → Obeys P A (next r) Q
  | _, .loop body s next, Q => ∃ (I : _ → Prop) (R : _ → Prop), I s ∧
      (∀ i, I i → Obeys P A (body i) fun x => x.elim I R) ∧ ∀ b, R b → Obeys P A (next b) Q

namespace Obeys

variable {α β σ : Type} {P : Event Op Reply → Prop} {A : Op → Prop} {p : Task Op Reply α}
  {Q : α → Prop}

theorem op {o : Op} {f : Reply o → Task Op Reply α} (here : A o)
    (rest : ∀ r, P ⟨o, r⟩ → Obeys P A (f r) Q) : Obeys P A (perform o >>= f) Q :=
  ⟨here, rest⟩

theorem mono {Q' : α → Prop} (obeys : Obeys P A p Q) (weaker : ∀ a, Q a → Q' a) :
    Obeys P A p Q' := by
  induction p with
  | ret a => exact weaker a obeys
  | op o next ih => exact ⟨obeys.1, fun r kept => ih r (obeys.2 r kept) weaker⟩
  | loop body s next _ ih =>
      obtain ⟨I, R, start, turn, rest⟩ := obeys
      exact ⟨I, R, start, turn, fun b ended => ih b (rest b ended) weaker⟩

theorem bind {f : α → Task Op Reply β} {Q' : β → Prop} (first : Obeys P A p Q)
    (rest : ∀ a, Q a → Obeys P A (f a) Q') : Obeys P A (p >>= f) Q' := by
  induction p with
  | ret a => exact rest a first
  | op o next ih => exact ⟨first.1, fun r kept => ih r (first.2 r kept) rest⟩
  | loop body s next _ ih =>
      obtain ⟨I, R, start, turn, after⟩ := first
      exact ⟨I, R, start, turn, fun b ended => ih b (after b ended) rest⟩

theorem iterate {body : σ → Task Op Reply (σ ⊕ α)} {I : σ → Prop}
    (turn : ∀ i, I i → Obeys P A (body i) fun x => x.elim I Q) {i : σ} (start : I i) :
    Obeys P A (Task.iterate body i) Q :=
  ⟨I, Q, start, turn, fun _ ended => ended⟩

theorem of_only (only : Only A p) : Obeys P A p fun _ => True := by
  induction p with
  | ret a => trivial
  | op o next ih => exact ⟨only.1, fun r _ => ih r (only.2 r)⟩
  | loop body s next turn ih =>
      refine ⟨fun _ => True, fun _ => True, trivial, fun i _ => ?_, fun b _ => ih b (only.2 b)⟩
      refine (turn i (only.1 i)).mono fun x _ => ?_
      cases x with
      | inl i => trivial
      | inr b => trivial

theorem embed {Op' : Type} {Reply' : Op' → Type} {f : Op → Op'} {back : ∀ o, Reply' (f o) → Reply o}
    {P' : Event Op' Reply' → Prop} {A' : Op' → Prop} (obeys : Obeys P A p Q)
    (allowed : ∀ o, A o → A' (f o)) (promised : ∀ o r, P' ⟨f o, r⟩ → P ⟨o, back o r⟩) :
    Obeys P' A' (Task.embed f back p) Q := by
  induction p with
  | ret a => exact obeys
  | op o next ih =>
      exact ⟨allowed o obeys.1, fun r kept => ih _ (obeys.2 _ (promised o r kept))⟩
  | loop body s next turn ih =>
      obtain ⟨I, R, start, each, rest⟩ := obeys
      exact ⟨I, R, start, fun i here => turn i (each i here), fun b ended => ih b (rest b ended)⟩

end Obeys

end Task

/-- From a state as `J` says the environment replies as `P` promises and stays as `J` says, as long
as the operations are of `A`. -/
def Honors (step : Event Op Reply → S → S → Prop) (P : Event Op Reply → Prop) (A : Op → Prop)
    (J : S → Prop) : Prop :=
  ∀ e s s', A e.op → step e s s' → J s → P e ∧ J s'

namespace Task

section Honored

variable {α β σ : Type} {P : Event Op Reply → Prop} {A : Op → Prop} {J : S → Prop}
  {step : Event Op Reply → S → S → Prop} {t : List (Event Op Reply)} {s s' : S}

theorem Obeys.runs (honors : Honors step P A J) {p : Task Op Reply α} {a : α} (run : Runs p t a)
    {Q : α → Prop} (obeys : Obeys P A p Q) (follows : Follows step t s s') (start : J s) :
    (∀ e ∈ t, A e.op) ∧ Q a ∧ J s' := by
  induction run generalizing s s' with
  | ret a =>
      cases follows
      exact ⟨by simp, obeys, start⟩
  | op _ ih =>
      obtain ⟨middle, now, later⟩ := follows
      obtain ⟨promised, kept⟩ := honors _ s middle obeys.1 now start
      obtain ⟨allowed, holds, ended⟩ := ih (obeys.2 _ promised) later kept
      exact ⟨List.forall_mem_cons.mpr ⟨obeys.1, allowed⟩, holds, ended⟩
  | again _ _ turn rest =>
      obtain ⟨I, R, here, each, after⟩ := obeys
      obtain ⟨middle, now, later⟩ := follows_append.mp follows
      obtain ⟨first, again, kept⟩ := turn (each _ here) now start
      obtain ⟨second, holds, ended⟩ := rest (Q := Q) ⟨I, R, again, each, after⟩ later kept
      exact ⟨List.forall_mem_append.mpr ⟨first, second⟩, holds, ended⟩
  | done _ _ turn rest =>
      obtain ⟨I, R, here, each, after⟩ := obeys
      obtain ⟨middle, now, later⟩ := follows_append.mp follows
      obtain ⟨first, done, kept⟩ := turn (each _ here) now start
      obtain ⟨second, holds, ended⟩ := rest (after _ done) later kept
      exact ⟨List.forall_mem_append.mpr ⟨first, second⟩, holds, ended⟩

/-- What a task has performed so far in an environment that honors its promise. -/
theorem Obeys.performed (honors : Honors step P A J) {p : Task Op Reply α} (performs : Performs p t)
    {Q : α → Prop} (obeys : Obeys P A p Q) (follows : Follows step t s s') (start : J s) :
    (∀ e ∈ t, A e.op) ∧ J s' := by
  induction performs generalizing s s' with
  | start p =>
      cases follows
      exact ⟨by simp, start⟩
  | op _ ih =>
      obtain ⟨middle, now, later⟩ := follows
      obtain ⟨promised, kept⟩ := honors _ s middle obeys.1 now start
      obtain ⟨allowed, ended⟩ := ih (obeys.2 _ promised) later kept
      exact ⟨List.forall_mem_cons.mpr ⟨obeys.1, allowed⟩, ended⟩
  | turn _ ih =>
      obtain ⟨I, R, here, each, after⟩ := obeys
      exact ih (each _ here) follows start
  | again turn _ ih =>
      obtain ⟨I, R, here, each, after⟩ := obeys
      obtain ⟨middle, now, later⟩ := follows_append.mp follows
      obtain ⟨first, again, kept⟩ := Obeys.runs honors turn (each _ here) now start
      obtain ⟨second, ended⟩ := ih (Q := Q) ⟨I, R, again, each, after⟩ later kept
      exact ⟨List.forall_mem_append.mpr ⟨first, second⟩, ended⟩
  | done turn _ ih =>
      obtain ⟨I, R, here, each, after⟩ := obeys
      obtain ⟨middle, now, later⟩ := follows_append.mp follows
      obtain ⟨first, done, kept⟩ := Obeys.runs honors turn (each _ here) now start
      obtain ⟨second, ended⟩ := ih (after _ done) later kept
      exact ⟨List.forall_mem_append.mpr ⟨first, second⟩, ended⟩

/-- A task without a loop that obeys. -/
def Ends (P : Event Op Reply → Prop) (A : Op → Prop) :
    {α : Type} → Task Op Reply α → (α → Prop) → Prop
  | _, .ret a, Q => Q a
  | _, .op o next, Q => A o ∧ ∀ r, P ⟨o, r⟩ → Ends P A (next r) Q
  | _, .loop _ _ _, _ => False

namespace Ends

variable {p : Task Op Reply α} {Q : α → Prop}

theorem bind {f : α → Task Op Reply β} {Q' : β → Prop} (first : Ends P A p Q)
    (rest : ∀ a, Q a → Ends P A (f a) Q') : Ends P A (p >>= f) Q' := by
  induction p with
  | ret a => exact rest a first
  | op o next ih => exact ⟨first.1, fun r kept => ih r (first.2 r kept) rest⟩
  | loop body s next => exact first.elim

theorem mono {P' : Event Op Reply → Prop} {A' : Op → Prop} {Q' : α → Prop} (ends : Ends P A p Q)
    (promised : ∀ e, P' e → P e) (allowed : ∀ o, A o → A' o) (weaker : ∀ a, Q a → Q' a) :
    Ends P' A' p Q' := by
  induction p with
  | ret a => exact weaker a ends
  | op o next ih =>
      exact ⟨allowed o ends.1, fun r kept => ih r (ends.2 r (promised _ kept)) weaker⟩
  | loop body s next => exact ends.elim

theorem obeys (ends : Ends P A p Q) : Obeys P A p Q := by
  induction p with
  | ret a => exact ends
  | op o next ih => exact ⟨ends.1, fun r kept => ih r (ends.2 r kept)⟩
  | loop body s next => exact ends.elim

theorem only (ends : Ends (fun _ => True) A p Q) : Only A p := by
  induction p with
  | ret a => trivial
  | op o next ih => exact ⟨ends.1, fun r => ih r (ends.2 r trivial)⟩
  | loop body s next => exact ends.elim

/-- It comes to its end where the promise is kept and every operation is answered. -/
theorem ensures (honors : Honors step P A J)
    (answers : ∀ o s, A o → J s → ∃ r s', step ⟨o, r⟩ s s') (ends : Ends P A p Q) (start : J s) :
    Ensures step p s fun a s' => Q a ∧ J s' := by
  induction p generalizing s with
  | ret a => exact .ret ⟨ends, start⟩
  | op o next ih =>
      apply Ensures.op (answers o s ends.1 start)
      intro r s' now
      obtain ⟨promised, kept⟩ := honors _ s s' ends.1 now start
      exact ih r (ends.2 r promised) kept
  | loop body s next => exact ends.elim

theorem embed {Op' : Type} {Reply' : Op' → Type} {f : Op → Op'} {back : ∀ o, Reply' (f o) → Reply o}
    {P' : Event Op' Reply' → Prop} {A' : Op' → Prop} (ends : Ends P A p Q)
    (allowed : ∀ o, A o → A' (f o)) (promised : ∀ o r, P' ⟨f o, r⟩ → P ⟨o, back o r⟩) :
    Ends P' A' (Task.embed f back p) Q := by
  induction p with
  | ret a => exact ends
  | op o next ih => exact ⟨allowed o ends.1, fun r kept => ih _ (ends.2 _ (promised o r kept))⟩
  | loop body s next => exact ends.elim

end Ends

end Honored

end Task

end Interaction
