import Flosp.Lib.Task

/-! Runs that cannot go on for ever. `Task.Ensures` asks in addition that the environment always
has a reply; here it may have none, where an assumption about its steps would have to be broken. -/

namespace Interaction.Task

variable {Op : Type} {Reply : Op → Type} {S : Type} (step : Event Op Reply → S → S → Prop)

/-- Every run of `p` from `s` that the environment goes along with comes to an end, with a result
and a state as `Q` says. -/
inductive Inevitable : {α : Type} → Task Op Reply α → S → (α → S → Prop) → Prop where
  | ret {α : Type} {a : α} {s : S} {Q : α → S → Prop} : Q a s → Inevitable (.ret a) s Q
  | op {α : Type} {o : Op} {next : Reply o → Task Op Reply α} {s : S} {Q : α → S → Prop} :
      (∀ reply s', step ⟨o, reply⟩ s s' → Inevitable (next reply) s' Q) →
      Inevitable (.op o next) s Q
  | loop {α β σ : Type} {body : σ → Task Op Reply (σ ⊕ β)} {i : σ} {next : β → Task Op Reply α}
      {s : S} {Q : α → S → Prop} (R : σ ⊕ β → S → Prop) :
      Inevitable (body i) s R →
      (∀ i' s', R (.inl i') s' → Inevitable (.loop body i' next) s' Q) →
      (∀ b s', R (.inr b) s' → Inevitable (next b) s' Q) → Inevitable (.loop body i next) s Q

variable {step} {α β σ : Type} {p : Task Op Reply α} {f : α → Task Op Reply β} {s : S}
  {Q : α → S → Prop}

namespace Inevitable

theorem mono {Q' : α → S → Prop} (inevitable : Inevitable step p s Q)
    (weaker : ∀ a s', Q a s' → Q' a s') : Inevitable step p s Q' := by
  induction inevitable with
  | ret holds => exact .ret (weaker _ _ holds)
  | op _ ih => exact .op fun reply s' now => ih reply s' now weaker
  | loop R turn _ _ _ again done =>
      exact .loop R turn (fun i s' holds => again i s' holds weaker) fun b s' holds =>
        done b s' holds weaker

theorem bind {Q' : β → S → Prop} (first : Inevitable step p s Q)
    (second : ∀ a s', Q a s' → Inevitable step (f a) s' Q') : Inevitable step (p >>= f) s Q' := by
  induction first with
  | ret holds => exact second _ _ holds
  | op _ ih => exact .op fun reply s' now => ih reply s' now second
  | loop R turn _ _ _ again done =>
      exact .loop R turn (fun i s' holds => again i s' holds second) fun b s' holds =>
        done b s' holds second

theorem returning {R : α → Prop} (inevitable : Inevitable step p s Q)
    (returns : ∀ t a, Runs p t a → R a) : Inevitable step p s fun a s' => Q a s' ∧ R a := by
  induction inevitable with
  | ret holds => exact .ret ⟨holds, returns _ _ (.ret _)⟩
  | op _ ih => exact .op fun reply s' now => ih reply s' now fun _ _ run => returns _ _ (.op run)
  | @loop _ _ _ body i _ _ _ R' turn _ _ turned again done =>
      apply Inevitable.loop (fun x s' => R' x s' ∧ ∃ t, Runs (body i) t x)
        (turned fun t _ run => ⟨t, run⟩)
      · rintro i' s' ⟨holds, _, turn⟩
        exact again i' s' holds fun _ _ run => returns _ _ (.again turn run)
      · rintro b s' ⟨holds, _, turn⟩
        exact done b s' holds fun _ _ run => returns _ _ (.done turn run)

theorem perform {o : Op} {Q : Reply o → S → Prop}
    (moves : ∀ reply s', step ⟨o, reply⟩ s s' → Q reply s') : Inevitable step (perform o) s Q :=
  .op fun reply s' now => .ret (moves reply s' now)

/-- A loop whose turns keep `I` and lower its measure until one gives a result. -/
theorem iterate {μ : Type} [WellFoundedRelation μ] {body : σ → Task Op Reply (σ ⊕ α)}
    {I : μ → σ → S → Prop}
    (turn : ∀ m i s, I m i s → Inevitable step (body i) s fun x s' =>
      x.elim (fun i' => ∃ m', WellFoundedRelation.rel m' m ∧ I m' i' s') (Q · s'))
    {m : μ} {i : σ} (start : I m i s) : Inevitable step (Task.iterate body i) s Q := by
  have wf : WellFounded (@WellFoundedRelation.rel μ _) := WellFoundedRelation.wf
  induction m using wf.induction generalizing i s with
  | h m ih =>
      apply Inevitable.loop _ (turn m i s start)
      · intro i' s' outcome
        rcases outcome with ⟨m', lower, holds⟩
        exact ih m' lower holds
      · intro b s' holds
        exact .ret holds

theorem whileDo {μ : Type} [WellFoundedRelation μ] {condition : Task Op Reply Bool}
    {body : Task Op Reply Unit} {I : μ → S → Prop} {Q : S → Prop}
    (turn : ∀ m s, I m s → Inevitable step condition s fun again s' =>
      if again then Inevitable step body s' fun _ s'' =>
        ∃ m', WellFoundedRelation.rel m' m ∧ I m' s''
      else Q s')
    {m : μ} (start : I m s) : Inevitable step (Task.whileDo condition body) s fun _ s' => Q s' := by
  apply Inevitable.iterate (I := fun m _ s => I m s) _ start
  intro m _ s holds
  apply (turn m s holds).bind
  intro again s' holds
  cases again with
  | true => exact Inevitable.bind holds fun _ s'' lower => .ret lower
  | false => exact .ret holds

theorem satisfies (inevitable : Inevitable step p s Q) : Satisfies step p s Q := by
  intro t a s' run
  induction run generalizing s s' with
  | ret a =>
      intro follows
      cases inevitable with
      | ret holds =>
          cases follows
          exact holds
  | op run ih =>
      intro follows
      cases inevitable with
      | op replied =>
          rcases follows with ⟨mid, now, follows⟩
          exact ih (replied _ mid now) s' follows
  | again turn _ first rest =>
      intro follows
      cases inevitable with
      | loop R turned again _ =>
          rcases follows_append.mp follows with ⟨mid, now, later⟩
          exact rest (again _ mid (first turned mid now)) s' later
  | done turn _ first rest =>
      intro follows
      cases inevitable with
      | loop R turned _ done =>
          rcases follows_append.mp follows with ⟨mid, now, later⟩
          exact rest (done _ mid (first turned mid now)) s' later

end Inevitable

end Interaction.Task
