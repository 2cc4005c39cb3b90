import Flosp.Lib.Interaction

/-! Programs with loops that may go on for ever. A task is a tree of operations as in
`Interaction`, with a node for a loop: its body is run again and again on a loop
variable until it gives a result. `Task.Runs` is for the runs that return, `Task.Ensures`
says in addition that every run does. -/

namespace Interaction

inductive Task (Op : Type) (Reply : Op → Type) : Type → Type 1 where
  | ret {α : Type} (a : α) : Task Op Reply α
  | op {α : Type} (o : Op) (next : Reply o → Task Op Reply α) : Task Op Reply α
  | loop {α β σ : Type} (body : σ → Task Op Reply (σ ⊕ β)) (s : σ)
      (next : β → Task Op Reply α) : Task Op Reply α

namespace Task

variable {Op : Type} {Reply : Op → Type} {α β γ σ : Type}

protected def bind {α : Type} : Task Op Reply α → (α → Task Op Reply β) → Task Op Reply β
  | .ret a, f => f a
  | .op o next, f => .op o fun r => (next r).bind f
  | .loop body s next, f => .loop body s fun b => (next b).bind f

instance : Monad (Task Op Reply) where
  pure := .ret
  bind := Task.bind

def perform (o : Op) : Task Op Reply (Reply o) := .op o .ret

/-- Run `body` until it gives a result, from `s` and then from what it gives instead. -/
def iterate (body : σ → Task Op Reply (σ ⊕ β)) (s : σ) : Task Op Reply β := .loop body s .ret

/-- `while (condition) body` -/
def whileDo (condition : Task Op Reply Bool) (body : Task Op Reply Unit) : Task Op Reply Unit :=
  iterate (fun _ : Unit => do
    let again ← condition
    if again then
      body
      return .inl ()
    return .inr ()) ()

@[simp] theorem pure_eq (a : α) : (pure a : Task Op Reply α) = .ret a := rfl

@[simp] theorem ret_bind (a : α) (f : α → Task Op Reply β) : (.ret a >>= f) = f a := rfl

@[simp] theorem op_bind (o : Op) (next : Reply o → Task Op Reply α) (f : α → Task Op Reply β) :
    (.op o next >>= f) = .op o fun r => next r >>= f := rfl

@[simp] theorem loop_bind (body : σ → Task Op Reply (σ ⊕ γ)) (s : σ) (next : γ → Task Op Reply α)
    (f : α → Task Op Reply β) :
    (.loop body s next >>= f) = .loop body s fun b => next b >>= f := rfl

@[simp] theorem perform_bind (o : Op) (f : Reply o → Task Op Reply β) :
    (perform o >>= f) = .op o f := rfl

@[simp] theorem bind_assoc {α : Type} (p : Task Op Reply α) (f : α → Task Op Reply β)
    (g : β → Task Op Reply γ) : (p >>= f >>= g) = (p >>= fun a => f a >>= g) := by
  induction p with
  | ret a => rfl
  | op o next ih => exact congrArg (Task.op o) (funext fun r => ih r f)
  | loop body s next _ ih => exact congrArg (Task.loop body s) (funext fun b => ih b f)

/-! Runs that return. -/

/-- `Runs p t a`: given the replies of `t` in turn, `p` performs exactly the operations of `t`
and returns `a`. -/
inductive Runs : {α : Type} → Task Op Reply α → List (Event Op Reply) → α → Prop where
  | ret {α : Type} (a : α) : Runs (.ret a) [] a
  | op {α : Type} {o : Op} {next : Reply o → Task Op Reply α} {reply : Reply o}
      {t : List (Event Op Reply)} {a : α} :
      Runs (next reply) t a → Runs (.op o next) (⟨o, reply⟩ :: t) a
  | again {α β σ : Type} {body : σ → Task Op Reply (σ ⊕ β)} {s s' : σ}
      {next : β → Task Op Reply α} {t₁ t₂ : List (Event Op Reply)} {a : α} :
      Runs (body s) t₁ (.inl s') → Runs (.loop body s' next) t₂ a →
      Runs (.loop body s next) (t₁ ++ t₂) a
  | done {α β σ : Type} {body : σ → Task Op Reply (σ ⊕ β)} {s : σ} {b : β}
      {next : β → Task Op Reply α} {t₁ t₂ : List (Event Op Reply)} {a : α} :
      Runs (body s) t₁ (.inr b) → Runs (next b) t₂ a → Runs (.loop body s next) (t₁ ++ t₂) a

variable {t : List (Event Op Reply)}

@[simp] theorem runs_ret {a b : α} : Runs (.ret a : Task Op Reply α) t b ↔ t = [] ∧ b = a := by
  constructor
  · intro run
    cases run
    exact ⟨rfl, rfl⟩
  · rintro ⟨rfl, rfl⟩
    exact .ret b

@[simp] theorem runs_op {o : Op} {next : Reply o → Task Op Reply α} {a : α} :
    Runs (.op o next) t a ↔ ∃ reply rest, t = ⟨o, reply⟩ :: rest ∧ Runs (next reply) rest a := by
  constructor
  · intro run
    cases run with
    | op rest_runs => exact ⟨_, _, rfl, rest_runs⟩
  · rintro ⟨reply, rest, rfl, rest_runs⟩
    exact .op rest_runs

/-- What follows one turn of a loop. -/
def RunsOn (body : σ → Task Op Reply (σ ⊕ β)) (next : β → Task Op Reply α) :
    σ ⊕ β → List (Event Op Reply) → α → Prop
  | .inl s, t, a => Runs (.loop body s next) t a
  | .inr b, t, a => Runs (next b) t a

theorem runs_loop {body : σ → Task Op Reply (σ ⊕ β)} {s : σ} {next : β → Task Op Reply α} {a : α} :
    Runs (.loop body s next) t a ↔
      ∃ t₁ t₂ x, t = t₁ ++ t₂ ∧ Runs (body s) t₁ x ∧ RunsOn body next x t₂ a := by
  constructor
  · intro run
    cases run with
    | again turn rest => exact ⟨_, _, _, rfl, turn, rest⟩
    | done turn rest => exact ⟨_, _, _, rfl, turn, rest⟩
  · rintro ⟨t₁, t₂, x, rfl, turn, rest⟩
    cases x with
    | inl s' => exact .again turn rest
    | inr b => exact .done turn rest

theorem Runs.bind {p : Task Op Reply α} {f : α → Task Op Reply β} {t₁ t₂ : List (Event Op Reply)}
    {a : α} {b : β} (first : Runs p t₁ a) (second : Runs (f a) t₂ b) :
    Runs (p >>= f) (t₁ ++ t₂) b := by
  induction first with
  | ret a => exact second
  | op _ ih => exact .op (ih second)
  | again turn _ _ ih =>
      rw [List.append_assoc]
      exact .again turn (ih second)
  | done turn _ _ ih =>
      rw [List.append_assoc]
      exact .done turn (ih second)

theorem Runs.split_ret {q : Task Op Reply β} {b : β} {a : α} {f : α → Task Op Reply β}
    (run : Runs q t b) (bound : (.ret a >>= f) = q) :
    ∃ t₁ t₂ a', t = t₁ ++ t₂ ∧ Runs (.ret a) t₁ a' ∧ Runs (f a') t₂ b := by
  cases bound
  exact ⟨[], t, a, rfl, .ret a, run⟩

/-- A run of `p >>= f` is a run of `p` and one of `f`: by induction on the run. -/
theorem Runs.split {q : Task Op Reply β} {b : β} (run : Runs q t b) {p : Task Op Reply α}
    {f : α → Task Op Reply β} (bound : (p >>= f) = q) :
    ∃ t₁ t₂ a, t = t₁ ++ t₂ ∧ Runs p t₁ a ∧ Runs (f a) t₂ b := by
  induction run generalizing p with
  | ret b =>
      cases p with
      | ret a => exact (Runs.ret b).split_ret bound
      | op o next => cases bound
      | loop body s next => cases bound
  | @op β o next reply t b run ih =>
      cases p with
      | ret a => exact run.op.split_ret bound
      | op o next =>
          cases bound
          obtain ⟨t₁, t₂, a, rfl, first, second⟩ := ih (p := next reply) rfl
          exact ⟨_, t₂, a, rfl, .op first, second⟩
      | loop body s next => cases bound
  | @again β γ σ body s s' next t₁ t₂ b turn rest _ ih =>
      cases p with
      | ret a => exact (turn.again rest).split_ret bound
      | op o next => cases bound
      | loop body s next =>
          cases bound
          obtain ⟨t₂, t₃, a, rfl, first, second⟩ := ih (p := .loop body s' next) rfl
          exact ⟨_, t₃, a, (List.append_assoc ..).symm, .again turn first, second⟩
  | @done β γ σ body s c next t₁ t₂ b turn rest _ ih =>
      cases p with
      | ret a => exact (turn.done rest).split_ret bound
      | op o next => cases bound
      | loop body s next =>
          cases bound
          obtain ⟨t₂, t₃, a, rfl, first, second⟩ := ih (p := next c) rfl
          exact ⟨_, t₃, a, (List.append_assoc ..).symm, .done turn first, second⟩

theorem runs_bind {p : Task Op Reply α} {f : α → Task Op Reply β} {b : β} :
    Runs (p >>= f) t b ↔ ∃ t₁ t₂ a, t = t₁ ++ t₂ ∧ Runs p t₁ a ∧ Runs (f a) t₂ b := by
  constructor
  · intro run
    exact run.split rfl
  · rintro ⟨t₁, t₂, a, rfl, first, second⟩
    exact first.bind second

/-- A property of the runs of a loop: by induction on the turns. -/
theorem Runs.iterate_induction {body : σ → Task Op Reply (σ ⊕ α)}
    {motive : σ → List (Event Op Reply) → α → Prop}
    (done : ∀ i t a, Runs (body i) t (.inr a) → motive i t a)
    (again : ∀ i i' t t' a, Runs (body i) t (.inl i') → motive i' t' a → motive i (t ++ t') a)
    {i : σ} {a : α} (run : Runs (iterate body i) t a) : motive i t a := by
  generalize loop : iterate body i = q at run
  induction run generalizing i with
  | ret a => cases loop
  | op run ih => cases loop
  | again turn rest _ ih =>
      cases loop
      exact again _ _ _ _ _ turn (ih done again rfl)
  | done turn rest _ _ =>
      cases loop
      obtain ⟨rfl, rfl⟩ := runs_ret.mp rest
      rw [List.append_nil]
      exact done _ _ _ turn

/-- The turns that a loop has made so far from `s` on, each with what it performed and gave. -/
inductive Turns (body : σ → Task Op Reply (σ ⊕ β)) :
    σ → List (List (Event Op Reply) × (σ ⊕ β)) → Prop where
  | none (s : σ) : Turns body s []
  | again {s s' : σ} {t : List (Event Op Reply)} {turns : List (List (Event Op Reply) × (σ ⊕ β))} :
      Runs (body s) t (.inl s') → Turns body s' turns → Turns body s ((t, .inl s') :: turns)
  | done {s : σ} {t : List (Event Op Reply)} {b : β} :
      Runs (body s) t (.inr b) → Turns body s [(t, .inr b)]

theorem Turns.each {body : σ → Task Op Reply (σ ⊕ β)} {s : σ}
    {turns : List (List (Event Op Reply) × (σ ⊕ β))} (made : Turns body s turns) :
    ∀ turn ∈ turns, ∃ s', Runs (body s') turn.1 turn.2 := by
  induction made with
  | none s =>
      intro turn member
      cases member
  | again run _ ih =>
      intro turn member
      rcases List.mem_cons.mp member with rfl | later
      · exact ⟨_, run⟩
      · exact ih turn later
  | done run =>
      intro turn member
      rcases List.mem_singleton.mp member with rfl
      exact ⟨_, run⟩

theorem runs_iterate_iff {body : σ → Task Op Reply (σ ⊕ β)} {s : σ} {b : β} :
    Runs (iterate body s) t b ↔
      ∃ turns u, Turns body s (turns ++ [(u, .inr b)]) ∧ t = turns.flatMap Prod.fst ++ u := by
  constructor
  · apply Runs.iterate_induction
    · intro i t a last
      exact ⟨[], t, .done last, rfl⟩
    · intro i i' t t' a turn later
      obtain ⟨turns, u, made, rfl⟩ := later
      exact ⟨(t, .inl i') :: turns, u, .again turn made, by simp⟩
  · rintro ⟨turns, u, made, rfl⟩
    induction turns generalizing s with
    | nil =>
        cases made with
        | done last => simpa [iterate] using Runs.done last (.ret b)
    | cons turn turns ih =>
        rw [List.cons_append] at made
        generalize rest : turns ++ [(u, .inr b)] = later at made
        cases made with
        | again run made => simpa [iterate] using Runs.again run (ih (rest ▸ made))
        | done run => simp at rest

/-! Tasks in an environment. -/

variable {S : Type} (step : Event Op Reply → S → S → Prop)

/-- Where a run of `p` from `s` returns, the result and the state are as `Q` says. -/
def Satisfies (p : Task Op Reply α) (s : S) (Q : α → S → Prop) : Prop :=
  ∀ t a s', Runs p t a → Follows step t s s' → Q a s'

/-- Every run of `p` from `s` returns, with a result and a state as `Q` says: the environment
always has a reply, and every loop comes to an end. -/
inductive Ensures : {α : Type} → Task Op Reply α → S → (α → S → Prop) → Prop where
  | ret {α : Type} {a : α} {s : S} {Q : α → S → Prop} : Q a s → Ensures (.ret a) s Q
  | op {α : Type} {o : Op} {next : Reply o → Task Op Reply α} {s : S} {Q : α → S → Prop} :
      (∃ reply s', step ⟨o, reply⟩ s s') →
      (∀ reply s', step ⟨o, reply⟩ s s' → Ensures (next reply) s' Q) → Ensures (.op o next) s Q
  | loop {α β σ : Type} {body : σ → Task Op Reply (σ ⊕ β)} {i : σ} {next : β → Task Op Reply α}
      {s : S} {Q : α → S → Prop} (R : σ ⊕ β → S → Prop) :
      Ensures (body i) s R →
      (∀ i' s', R (.inl i') s' → Ensures (.loop body i' next) s' Q) →
      (∀ b s', R (.inr b) s' → Ensures (next b) s' Q) → Ensures (.loop body i next) s Q

variable {step} {p : Task Op Reply α} {f : α → Task Op Reply β} {s : S}

section Satisfies

variable {Q : α → S → Prop}

@[simp] theorem satisfies_ret {a : α} : Satisfies step (.ret a) s Q ↔ Q a s := by
  constructor
  · intro holds
    exact holds [] a s (.ret a) rfl
  · rintro holds t b s' run follows
    obtain ⟨rfl, rfl⟩ := runs_ret.mp run
    cases follows
    exact holds

theorem satisfies_op {o : Op} {next : Reply o → Task Op Reply α} :
    Satisfies step (.op o next) s Q ↔
      ∀ reply s', step ⟨o, reply⟩ s s' → Satisfies step (next reply) s' Q := by
  constructor
  · intro holds reply mid now t a s' run follows
    exact holds _ a s' (.op run) ⟨mid, now, follows⟩
  · intro holds t a s' run follows
    obtain ⟨reply, rest, rfl, run'⟩ := runs_op.mp run
    obtain ⟨mid, now, follows⟩ := follows
    exact holds reply mid now rest a s' run' follows

theorem satisfies_bind {Q : β → S → Prop} :
    Satisfies step (p >>= f) s Q ↔
      Satisfies step p s fun a s' => Satisfies step (f a) s' Q := by
  constructor
  · intro holds t₁ a mid first follows t₂ b s' second later
    exact holds _ b s' (first.bind second) (follows_append.mpr ⟨mid, follows, later⟩)
  · intro holds t b s' run follows
    obtain ⟨t₁, t₂, a, rfl, first, second⟩ := runs_bind.mp run
    obtain ⟨mid, follows, later⟩ := follows_append.mp follows
    exact holds t₁ a mid first follows t₂ b s' second later

theorem satisfies_true : Satisfies step p s fun _ _ => True := fun _ _ _ _ _ => trivial

theorem Satisfies.mono {Q' : α → S → Prop} (holds : Satisfies step p s Q)
    (weaker : ∀ a s', Q a s' → Q' a s') : Satisfies step p s Q' :=
  fun t a s' run follows => weaker a s' (holds t a s' run follows)

theorem Satisfies.bind {Q' : β → S → Prop} (first : Satisfies step p s Q)
    (second : ∀ a s', Q a s' → Satisfies step (f a) s' Q') : Satisfies step (p >>= f) s Q' :=
  satisfies_bind.mpr (first.mono second)

/-- What every turn of a loop preserves holds until the turn that gives the result. -/
theorem satisfies_iterate {body : σ → Task Op Reply (σ ⊕ α)} {I : σ → S → Prop}
    (turn : ∀ i s, I i s → Satisfies step (body i) s fun x s' => x.elim (I · s') (Q · s'))
    {i : σ} (start : I i s) : Satisfies step (iterate body i) s Q := by
  intro t a s' run
  refine run.iterate_induction (motive := fun i t a => ∀ s, I i s → Follows step t s s' → Q a s')
    (fun i t a done s start follows => ?_) (fun i i' t t' a again ih s start follows => ?_) s start
  · exact turn i s start t (.inr a) s' done follows
  · obtain ⟨mid, now, later⟩ := follows_append.mp follows
    exact ih mid (turn i s start t (.inl i') mid again now) later

end Satisfies

@[simp] theorem ensures_ret {Q : α → S → Prop} {a : α} : Ensures step (.ret a) s Q ↔ Q a s := by
  constructor
  · intro ensures
    cases ensures with
    | ret holds => exact holds
  · exact .ret

theorem ensures_op {Q : α → S → Prop} {o : Op} {next : Reply o → Task Op Reply α} :
    Ensures step (.op o next) s Q ↔ (∃ reply s', step ⟨o, reply⟩ s s') ∧
      ∀ reply s', step ⟨o, reply⟩ s s' → Ensures step (next reply) s' Q := by
  constructor
  · intro ensures
    cases ensures with
    | op replies next => exact ⟨replies, next⟩
  · rintro ⟨replies, next⟩
    exact .op replies next

theorem ensures_perform_bind {Q : β → S → Prop} {o : Op} {f : Reply o → Task Op Reply β}
    {A : Reply o → Prop} {s' : S} (moves : ∀ r u, step ⟨o, r⟩ s u ↔ A r ∧ u = s') :
    Ensures step (perform o >>= f) s Q ↔
      (∃ r, A r) ∧ ∀ r, A r → Ensures step (f r) s' Q := by
  rw [perform_bind, ensures_op]
  simp [moves]

theorem ensures_still_bind {Q : β → S → Prop} (o : Op) {f : Reply o → Task Op Reply β}
    (reply : Reply o) (still : ∀ r u, step ⟨o, r⟩ s u ↔ u = s) :
    Ensures step (perform o >>= f) s Q ↔ ∀ r, Ensures step (f r) s Q := by
  have moves (r : Reply o) (u : S) : step ⟨o, r⟩ s u ↔ True ∧ u = s :=
    (still r u).trans (and_iff_right trivial).symm
  apply (ensures_perform_bind moves).trans
  constructor
  · intro both r
    exact both.2 r trivial
  · intro rest
    exact ⟨⟨reply, trivial⟩, fun r _ => rest r⟩

namespace Ensures

variable {Q : α → S → Prop}

theorem mono {Q' : α → S → Prop} (ensures : Ensures step p s Q)
    (weaker : ∀ a s', Q a s' → Q' a s') : Ensures step p s Q' := by
  induction ensures with
  | ret holds => exact .ret (weaker _ _ holds)
  | op replies _ ih => exact .op replies fun reply s' now => ih reply s' now weaker
  | loop R turn _ _ _ again done =>
      exact .loop R turn (fun i s' holds => again i s' holds weaker) fun b s' holds =>
        done b s' holds weaker

theorem bind {Q' : β → S → Prop} (first : Ensures step p s Q)
    (second : ∀ a s', Q a s' → Ensures step (f a) s' Q') : Ensures step (p >>= f) s Q' := by
  induction first with
  | ret holds => exact second _ _ holds
  | op replies _ ih => exact .op replies fun reply s' now => ih reply s' now second
  | loop R turn _ _ _ again done =>
      exact .loop R turn (fun i s' holds => again i s' holds second) fun b s' holds =>
        done b s' holds second

theorem satisfies (ensures : Ensures step p s Q) : Satisfies step p s Q := by
  intro t a s' run
  induction run generalizing s s' with
  | ret a =>
      intro follows
      cases ensures with
      | ret holds =>
          cases follows
          exact holds
  | op run ih =>
      intro follows
      cases ensures with
      | op _ replied =>
          obtain ⟨mid, now, follows⟩ := follows
          exact ih (replied _ mid now) s' follows
  | again turn _ first rest =>
      intro follows
      cases ensures with
      | loop R turned again _ =>
          obtain ⟨mid, now, later⟩ := follows_append.mp follows
          exact rest (again _ mid (first turned mid now)) s' later
  | done turn _ first rest =>
      intro follows
      cases ensures with
      | loop R turned _ done =>
          obtain ⟨mid, now, later⟩ := follows_append.mp follows
          exact rest (done _ mid (first turned mid now)) s' later

theorem exists_run (ensures : Ensures step p s Q) :
    ∃ t a s', Runs p t a ∧ Follows step t s s' ∧ Q a s' := by
  induction ensures with
  | ret holds => exact ⟨[], _, _, .ret _, rfl, holds⟩
  | op replies _ ih =>
      obtain ⟨reply, mid, now⟩ := replies
      obtain ⟨t, a, s', run, follows, holds⟩ := ih reply mid now
      exact ⟨_, a, s', .op run, ⟨mid, now, follows⟩, holds⟩
  | loop R _ _ _ turn again done =>
      obtain ⟨t₁, x, mid, first, now, holds⟩ := turn
      cases x with
      | inl i =>
          obtain ⟨t₂, a, s', rest, later, holds⟩ := again i mid holds
          exact ⟨_, a, s', .again first rest, follows_append.mpr ⟨mid, now, later⟩, holds⟩
      | inr b =>
          obtain ⟨t₂, a, s', rest, later, holds⟩ := done b mid holds
          exact ⟨_, a, s', .done first rest, follows_append.mpr ⟨mid, now, later⟩, holds⟩

theorem unroll {body : σ → Task Op Reply (σ ⊕ α)} {i : σ}
    (turn : Ensures step (body i) s fun x s' =>
      x.elim (fun i' => Ensures step (Task.iterate body i') s' Q) (Q · s')) :
    Ensures step (Task.iterate body i) s Q :=
  .loop _ turn (fun _ _ again => again) fun _ _ holds => .ret holds

/-- A loop whose turns keep `I` and lower its measure until one gives a result. -/
theorem iterate {body : σ → Task Op Reply (σ ⊕ α)} {I : Nat → σ → S → Prop}
    (turn : ∀ n i s, I n i s → Ensures step (body i) s fun x s' =>
      x.elim (fun i' => ∃ m < n, I m i' s') (Q · s'))
    {n : Nat} {i : σ} (start : I n i s) : Ensures step (Task.iterate body i) s Q := by
  induction n using Nat.strongRecOn generalizing i s with
  | _ n ih =>
      refine .loop _ (turn n i s start) (fun i' s' holds => ?_) fun b s' holds => .ret holds
      obtain ⟨m, lower, holds⟩ := holds
      exact ih m lower holds

theorem whileDo {condition : Task Op Reply Bool} {body : Task Op Reply Unit} {I : Nat → S → Prop}
    {Q : S → Prop}
    (turn : ∀ n s, I n s → Ensures step condition s fun again s' =>
      if again then Ensures step body s' fun _ s'' => ∃ m < n, I m s'' else Q s')
    {n : Nat} (start : I n s) : Ensures step (Task.whileDo condition body) s fun _ s' => Q s' := by
  refine Ensures.iterate (I := fun n _ s => I n s) (fun n _ s holds => ?_) start
  refine (turn n s holds).bind fun again s' holds => ?_
  cases again with
  | true => exact Ensures.bind holds fun _ s'' lower => .ret lower
  | false => exact .ret holds

end Ensures

/-- Some run of `p` from `s` returns with a result and a state as `Q` says. -/
def Possible (step : Event Op Reply → S → S → Prop) (p : Task Op Reply α) (s : S)
    (Q : α → S → Prop) : Prop :=
  ∃ t a s', Runs p t a ∧ Follows step t s s' ∧ Q a s'

section Possible

variable {Q : α → S → Prop}

@[simp] theorem possible_ret {a : α} : Possible step (.ret a) s Q ↔ Q a s := by
  constructor
  · rintro ⟨t, b, s', run, follows, holds⟩
    obtain ⟨rfl, rfl⟩ := runs_ret.mp run
    cases follows
    exact holds
  · intro holds
    exact ⟨[], a, s, .ret a, rfl, holds⟩

theorem possible_op {o : Op} {next : Reply o → Task Op Reply α} :
    Possible step (.op o next) s Q ↔
      ∃ reply s', step ⟨o, reply⟩ s s' ∧ Possible step (next reply) s' Q := by
  constructor
  · rintro ⟨t, a, s', run, follows, holds⟩
    obtain ⟨reply, rest, rfl, run'⟩ := runs_op.mp run
    obtain ⟨mid, now, follows⟩ := follows
    exact ⟨reply, mid, now, rest, a, s', run', follows, holds⟩
  · rintro ⟨reply, mid, now, t, a, s', run, follows, holds⟩
    exact ⟨_, a, s', .op run, ⟨mid, now, follows⟩, holds⟩

theorem possible_bind {Q : β → S → Prop} :
    Possible step (p >>= f) s Q ↔ Possible step p s fun a s' => Possible step (f a) s' Q := by
  constructor
  · rintro ⟨t, b, s', run, follows, holds⟩
    obtain ⟨t₁, t₂, a, rfl, first, second⟩ := runs_bind.mp run
    obtain ⟨mid, follows, later⟩ := follows_append.mp follows
    exact ⟨t₁, a, mid, first, follows, t₂, b, s', second, later, holds⟩
  · rintro ⟨t₁, a, mid, first, follows, t₂, b, s', second, later, holds⟩
    exact ⟨_, b, s', first.bind second, follows_append.mpr ⟨mid, follows, later⟩, holds⟩

theorem Possible.mono {Q' : α → S → Prop} (possible : Possible step p s Q)
    (weaker : ∀ a s', Q a s' → Q' a s') : Possible step p s Q' := by
  obtain ⟨t, a, s', run, follows, holds⟩ := possible
  exact ⟨t, a, s', run, follows, weaker a s' holds⟩

theorem Possible.bind {Q' : β → S → Prop} (first : Possible step p s Q)
    (second : ∀ a s', Q a s' → Possible step (f a) s' Q') : Possible step (p >>= f) s Q' :=
  possible_bind.mpr (first.mono second)

theorem Possible.unroll {body : σ → Task Op Reply (σ ⊕ α)} {i : σ}
    (turn : Possible step (body i) s fun x s' =>
      x.elim (fun i' => Possible step (Task.iterate body i') s' Q) (Q · s')) :
    Possible step (Task.iterate body i) s Q := by
  obtain ⟨t, x, mid, run, follows, holds⟩ := turn
  cases x with
  | inl i' =>
      obtain ⟨t', a, s', rest, later, holds⟩ := holds
      exact ⟨_, a, s', .again run rest, follows_append.mpr ⟨mid, follows, later⟩, holds⟩
  | inr a =>
      have ends : Runs (Task.iterate body i) (t ++ []) a := .done run (.ret a)
      rw [List.append_nil] at ends
      exact ⟨t, a, mid, ends, follows, holds⟩

section Polling

variable {condition : Task Op Reply Bool} {states : Nat → S} {again : Nat → Bool}

theorem possible_polling_turn
    (polls : ∀ k (Q : Bool → S → Prop),
      Possible step condition (states k) Q ↔ Q (again k) (states (k + 1)))
    (k : Nat) (R : Unit ⊕ Unit → S → Prop) :
    Possible step (do
      let again ← condition
      if again then
        .ret ()
        return .inl ()
      return .inr ()) (states k) R ↔
    R (if again k then .inl () else .inr ()) (states (k + 1)) := by
  rw [possible_bind, polls]
  cases again k with
  | true => exact possible_ret
  | false => exact possible_ret

/-- A run of the loop: by induction on its turns. -/
theorem polling_ends
    (polls : ∀ k (Q : Bool → S → Prop),
      Possible step condition (states k) Q ↔ Q (again k) (states (k + 1)))
    {Q : Unit → S → Prop} {k : Nat}
    (returns : Possible step (whileDo condition (.ret ())) (states k) Q) :
    ∃ n, (∀ m < n, again (k + m) = true) ∧ again (k + n) = false ∧ Q () (states (k + n + 1)) := by
  obtain ⟨t, ⟨⟩, s', run, follows, holds⟩ := returns
  refine run.iterate_induction (motive := fun _ t _ => ∀ k, Follows step t (states k) s' →
    ∃ n, (∀ m < n, again (k + m) = true) ∧ again (k + n) = false ∧ Q () (states (k + n + 1)))
    ?_ ?_ k follows
  · intro _ t a last k follows
    obtain ⟨ends, arrives⟩ := (possible_polling_turn polls k fun x u => x = .inr a ∧ u = s').mp
      ⟨t, _, s', last, follows, rfl, rfl⟩
    rw [← arrives] at holds
    exact ⟨0, by simp, by simpa using ends, holds⟩
  · intro _ i t t' a next ih k follows
    obtain ⟨mid, now, later⟩ := follows_append.mp follows
    obtain ⟨goesOn, arrives⟩ := (possible_polling_turn polls k fun x u => x = .inl i ∧ u = mid).mp
      ⟨t, _, mid, next, now, rfl, rfl⟩
    rw [← arrives] at later
    obtain ⟨n, before, ends, holds⟩ := ih (k + 1) later
    have first : again k = true := by simpa using goesOn
    have shift (m : Nat) : k + 1 + m = k + (m + 1) := by omega
    rw [shift] at ends holds
    refine ⟨n + 1, ?_, ends, holds⟩
    intro m below
    cases m with
    | zero => exact first
    | succ m =>
        rw [← shift]
        exact before m (by omega)

theorem polling_possible
    (polls : ∀ k (Q : Bool → S → Prop),
      Possible step condition (states k) Q ↔ Q (again k) (states (k + 1)))
    {Q : Unit → S → Prop} {k n : Nat} (before : ∀ m < n, again (k + m) = true)
    (ends : again (k + n) = false) (holds : Q () (states (k + n + 1))) :
    Possible step (whileDo condition (.ret ())) (states k) Q := by
  apply Possible.unroll
  apply (possible_polling_turn polls k _).mpr
  induction n generalizing k with
  | zero =>
      rw [Nat.add_zero] at ends holds
      rw [ends]
      exact holds
  | succ n ih =>
      have shift (m : Nat) : k + (m + 1) = k + 1 + m := by omega
      have first : again k = true := before 0 (by omega)
      rw [shift] at ends holds
      rw [first]
      apply Possible.unroll
      apply (possible_polling_turn polls (k + 1) _).mpr
      exact ih (fun m below => shift m ▸ before (m + 1) (by omega)) ends holds

/-- A loop that polls returns after the first reading that does not ask for another turn. -/
theorem possible_polling
    (polls : ∀ k (Q : Bool → S → Prop),
      Possible step condition (states k) Q ↔ Q (again k) (states (k + 1)))
    {Q : Unit → S → Prop} {k : Nat} :
    Possible step (whileDo condition (.ret ())) (states k) Q ↔
      ∃ n, (∀ m < n, again (k + m) = true) ∧ again (k + n) = false ∧ Q () (states (k + n + 1)) := by
  constructor
  · exact polling_ends polls
  · rintro ⟨n, before, ends, holds⟩
    exact polling_possible polls before ends holds

end Polling

theorem Ensures.possible (ensures : Ensures step p s Q) : Possible step p s Q :=
  ensures.exists_run

theorem Ensures.satisfies_bind {R : α → S → Prop} {Q : β → S → Prop} (first : Ensures step p s R)
    (second : ∀ a s', R a s' → Satisfies step (f a) s' Q) : Satisfies step (p >>= f) s Q :=
  first.satisfies.bind second

theorem Ensures.possible_bind {R : α → S → Prop} {Q : β → S → Prop} (first : Ensures step p s R)
    (second : ∀ a s', R a s' → Possible step (f a) s' Q) : Possible step (p >>= f) s Q :=
  first.possible.bind second

theorem Possible.meets {R : α → S → Prop} (possible : Possible step p s Q)
    (satisfies : Satisfies step p s R) : ∃ a s', Q a s' ∧ R a s' := by
  obtain ⟨t, a, s', run, follows, holds⟩ := possible
  exact ⟨a, s', holds, satisfies t a s' run follows⟩

end Possible

/-! Operations that a task may perform at all. -/

/-- Every operation of the tree is one of `A`. -/
def Only (A : Op → Prop) : {α : Type} → Task Op Reply α → Prop
  | _, .ret _ => True
  | _, .op o next => A o ∧ ∀ r, Only A (next r)
  | _, .loop body _ next => (∀ s, Only A (body s)) ∧ ∀ b, Only A (next b)

section Only

variable {A : Op → Prop}

@[simp] theorem only_ret {a : α} : Only A (.ret a : Task Op Reply α) := trivial

@[simp] theorem only_op {o : Op} {next : Reply o → Task Op Reply α} :
    Only A (.op o next) ↔ A o ∧ ∀ r, Only A (next r) := Iff.rfl

@[simp] theorem only_perform {o : Op} : Only A (perform o : Task Op Reply (Reply o)) ↔ A o :=
  and_iff_left fun _ => trivial

@[simp] theorem only_iterate {body : σ → Task Op Reply (σ ⊕ α)} {s : σ} :
    Only A (iterate body s) ↔ ∀ s, Only A (body s) :=
  and_iff_left fun _ => trivial

theorem Only.bind {α : Type} {p : Task Op Reply α} {f : α → Task Op Reply β} (first : Only A p)
    (second : ∀ a, Only A (f a)) : Only A (p >>= f) := by
  induction p with
  | ret a => exact second a
  | op o next ih => exact ⟨first.1, fun r => ih r (first.2 r) second⟩
  | loop body s next _ ih => exact ⟨first.1, fun b => ih b (first.2 b) second⟩

theorem Only.whileDo {condition : Task Op Reply Bool} {body : Task Op Reply Unit}
    (first : Only A condition) (second : Only A body) : Only A (Task.whileDo condition body) := by
  refine only_iterate.mpr fun _ => first.bind fun again => ?_
  cases again with
  | true => exact second.bind fun _ => trivial
  | false => trivial

theorem Only.events {p : Task Op Reply α} {a : α} (only : Only A p) (run : Runs p t a) :
    ∀ e ∈ t, A e.op := by
  induction run with
  | ret a =>
      intro e member
      cases member
  | op _ ih =>
      intro e member
      rcases List.mem_cons.mp member with rfl | later
      · exact only.1
      · exact ih (only.2 _) e later
  | again _ _ turn rest =>
      intro e member
      rcases List.mem_append.mp member with first | later
      · exact turn (only.1 _) e first
      · exact rest only e later
  | done _ _ turn rest =>
      intro e member
      rcases List.mem_append.mp member with first | later
      · exact turn (only.1 _) e first
      · exact rest (only.2 _) e later

theorem Only.satisfies {p : Task Op Reply α} (only : Only A p) {I : S → Prop}
    (preserved : ∀ e, A e.op → ∀ u u', step e u u' → I u → I u') (start : I s) :
    Satisfies step p s fun _ s' => I s' :=
  fun _ _ _ run follows =>
    follows.invariant (fun e member => preserved e (only.events run e member)) start

end Only

/-! Runs that are computed. -/

section Execute

/-- A loop, run for some turns at most. -/
def executeTurns (body : σ → S → Option (List (Event Op Reply) × (σ ⊕ β) × S)) :
    Nat → σ → S → Option (List (Event Op Reply) × β × S)
  | 0, _, _ => none
  | turns + 1, i, s =>
      match body i s with
      | none => none
      | some (t, .inr b, s') => some (t, b, s')
      | some (t, .inl i', s') =>
          (executeTurns body turns i' s').map fun (t', x) => (t ++ t', x)

/-- The run of a task whose operations are answered by `answer`, with `turns` turns for each
loop at most. -/
def execute (answer : (o : Op) → S → Reply o × S) (turns : Nat) :
    {α : Type} → Task Op Reply α → S → Option (List (Event Op Reply) × α × S)
  | _, .ret a, s => some ([], a, s)
  | _, .op o next, s =>
      (execute answer turns (next (answer o s).1) (answer o s).2).map fun (t, x) =>
        (⟨o, (answer o s).1⟩ :: t, x)
  | _, .loop body i next, s =>
      match executeTurns (fun j s => execute answer turns (body j) s) turns i s with
      | none => none
      | some (t, b, s') =>
          (execute answer turns (next b) s').map fun (t', x) => (t ++ t', x)

def answers (answer : (o : Op) → S → Reply o × S) (e : Event Op Reply) (s s' : S) : Prop :=
  answer e.op s = (e.reply, s')

theorem executeTurns_runs {answer : (o : Op) → S → Reply o × S}
    {body : σ → Task Op Reply (σ ⊕ β)} {next : β → Task Op Reply α} {turns fuel : Nat}
    (bodies : ∀ j s t x s', execute answer turns (body j) s = some (t, x, s') →
      Runs (body j) t x ∧ Follows (answers answer) t s s')
    {i : σ} {s s' : S} {b : β}
    (computed : executeTurns (fun j s => execute answer turns (body j) s) fuel i s =
      some (t, b, s')) :
    Follows (answers answer) t s s' ∧
      ∀ t' a, Runs (next b) t' a → Runs (.loop body i next) (t ++ t') a := by
  induction fuel generalizing i s t with
  | zero => cases computed
  | succ fuel ih =>
      rw [executeTurns] at computed
      split at computed
      · cases computed
      · rename_i found
        cases computed
        obtain ⟨turn, follows⟩ := bodies _ _ _ _ _ found
        exact ⟨follows, fun t' a rest => .done turn rest⟩
      · rename_i found
        obtain ⟨turn, follows⟩ := bodies _ _ _ _ _ found
        obtain ⟨⟨t', x⟩, later, same⟩ := Option.map_eq_some_iff.mp computed
        cases same
        obtain ⟨follows', rest⟩ := ih later
        refine ⟨follows_append.mpr ⟨_, follows, follows'⟩, fun t'' a after => ?_⟩
        rw [List.append_assoc]
        exact .again turn (rest t'' a after)

theorem execute_runs {answer : (o : Op) → S → Reply o × S} {turns : Nat} {p : Task Op Reply α}
    {s s' : S} {a : α} (computed : execute answer turns p s = some (t, a, s')) :
    Runs p t a ∧ Follows (answers answer) t s s' := by
  induction p generalizing s t s' with
  | ret b =>
      cases computed
      exact ⟨.ret b, rfl⟩
  | op o next ih =>
      obtain ⟨⟨t', x⟩, later, same⟩ := Option.map_eq_some_iff.mp computed
      cases same
      obtain ⟨run, follows⟩ := ih _ later
      exact ⟨.op run, _, rfl, follows⟩
  | loop body i next turn ih =>
      rw [execute] at computed
      split at computed
      · cases computed
      · rename_i found
        obtain ⟨⟨t', x⟩, later, same⟩ := Option.map_eq_some_iff.mp computed
        cases same
        obtain ⟨run, follows⟩ := ih _ later
        obtain ⟨first, loop⟩ := executeTurns_runs
          (fun j s t x s' found => turn j found) found
        exact ⟨loop _ _ run, follows_append.mpr ⟨_, first, follows⟩⟩

end Execute

end Task

end Interaction
