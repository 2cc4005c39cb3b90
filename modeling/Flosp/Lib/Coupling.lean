import Flosp.Lib.Task

/-! Two runs side by side. Two tasks are coupled when their runs stay in step as long as the
replies they are given are related, and end with related results. -/

namespace Interaction

variable {Op : Type} {Reply : Op → Type} {S : Type}

/-- While two traces perform the same operations their replies are related. The relation may
carry a state along. -/
def Alongside (rel : Event Op Reply → Event Op Reply → S → S → Prop) :
    List (Event Op Reply) → List (Event Op Reply) → S → Prop
  | e :: t, e' :: t', s => e.op = e'.op → ∃ s', rel e e' s s' ∧ Alongside rel t t' s'
  | _, _, _ => True

theorem Follows.alongside {step : Event Op Reply → S → S → Prop} {T : Type}
    {rel : Event Op Reply → Event Op Reply → T → T → Prop}
    (determined : ∀ e e' s₁ s₂ s₃ x, e.op = e'.op → step e s₁ s₂ → step e' s₁ s₃ →
      s₂ = s₃ ∧ rel e e' x x)
    {t t' : List (Event Op Reply)} {s s₁ s₂ : S} (first : Follows step t s s₁)
    (second : Follows step t' s s₂) (x : T) : Alongside rel t t' x := by
  induction t generalizing s t' with
  | nil => trivial
  | cons e t ih =>
      cases t' with
      | nil => trivial
      | cons e' t' =>
          obtain ⟨mid, now, later⟩ := first
          obtain ⟨mid', now', later'⟩ := second
          intro same
          obtain ⟨rfl, related⟩ := determined e e' s mid mid' x same now now'
          exact ⟨x, related, ih later later'⟩

namespace Task

variable {α α' β β' σ σ' : Type}

/-- Two turns of two loops go on together or end together. -/
def Together (I : σ → σ' → S → Prop) (R : β → β' → S → Prop) : σ ⊕ β → σ' ⊕ β' → S → Prop
  | .inl i, .inl i', s => I i i' s
  | .inr b, .inr b', s => R b b' s
  | _, _, _ => False

inductive Coupled (rel : Event Op Reply → Event Op Reply → S → S → Prop) :
    {α α' : Type} → Task Op Reply α → Task Op Reply α' → S → (α → α' → S → Prop) → Prop where
  | ret {α α' : Type} {a : α} {a' : α'} {s : S} {Q : α → α' → S → Prop} :
      Q a a' s → Coupled rel (.ret a) (.ret a') s Q
  | op {α α' : Type} {o : Op} {next : Reply o → Task Op Reply α} {next' : Reply o → Task Op Reply α'}
      {s : S} {Q : α → α' → S → Prop} :
      (∀ r r' s', rel ⟨o, r⟩ ⟨o, r'⟩ s s' → Coupled rel (next r) (next' r') s' Q) →
      Coupled rel (.op o next) (.op o next') s Q
  | loop {α α' β β' σ σ' : Type} {body : σ → Task Op Reply (σ ⊕ β)}
      {body' : σ' → Task Op Reply (σ' ⊕ β')} {i : σ} {i' : σ'} {next : β → Task Op Reply α}
      {next' : β' → Task Op Reply α'} {s : S} {Q : α → α' → S → Prop}
      (I : σ → σ' → S → Prop) (R : β → β' → S → Prop) :
      I i i' s →
      (∀ j j' s', I j j' s' → Coupled rel (body j) (body' j') s' (Together I R)) →
      (∀ b b' s', R b b' s' → Coupled rel (next b) (next' b') s' Q) →
      Coupled rel (.loop body i next) (.loop body' i' next') s Q

namespace Coupled

variable {rel : Event Op Reply → Event Op Reply → S → S → Prop} {p : Task Op Reply α}
  {q : Task Op Reply α'} {s : S} {Q : α → α' → S → Prop}

/-- Runs whose replies are related perform the same operations and end with related results. -/
theorem sound (coupled : Coupled rel p q s Q) {t t' u u' : List (Event Op Reply)} {a : α} {a' : α'}
    (run : Runs p t a) (run' : Runs q t' a') (alongside : Alongside rel (t ++ u) (t' ++ u') s) :
    ∃ s', Q a a' s' ∧ t.map Event.op = t'.map Event.op ∧ Alongside rel u u' s' := by
  induction run generalizing α' q s t' a' u u' with
  | ret a =>
      cases coupled with
      | ret holds =>
          obtain ⟨rfl, rfl⟩ := runs_ret.mp run'
          exact ⟨s, holds, rfl, alongside⟩
  | op _ ih =>
      cases coupled with
      | op next =>
          obtain ⟨reply', rest', rfl, later⟩ := runs_op.mp run'
          obtain ⟨mid, related, alongside⟩ := alongside rfl
          obtain ⟨s', holds, same, alongside⟩ := ih (next _ _ mid related) later alongside
          refine ⟨s', holds, ?_, alongside⟩
          rw [List.map_cons, List.map_cons, same]
  | again _ _ turn rest =>
      cases coupled with
      | loop I R start body next =>
          obtain ⟨t₁', t₂', x', rfl, turn', rest'⟩ := runs_loop.mp run'
          rw [List.append_assoc, List.append_assoc] at alongside
          obtain ⟨mid, together, same₁, alongside⟩ := turn (body _ _ s start) turn' alongside
          cases x' with
          | inl i' =>
              obtain ⟨s', holds, same₂, alongside⟩ :=
                rest (.loop I R together body next) rest' alongside
              refine ⟨s', holds, ?_, alongside⟩
              rw [List.map_append, List.map_append, same₁, same₂]
          | inr b' => exact together.elim
  | done _ _ turn rest =>
      cases coupled with
      | loop I R start body next =>
          obtain ⟨t₁', t₂', x', rfl, turn', rest'⟩ := runs_loop.mp run'
          rw [List.append_assoc, List.append_assoc] at alongside
          obtain ⟨mid, together, same₁, alongside⟩ := turn (body _ _ s start) turn' alongside
          cases x' with
          | inl i' => exact together.elim
          | inr b' =>
              obtain ⟨s', holds, same₂, alongside⟩ := rest (next _ b' mid together) rest' alongside
              refine ⟨s', holds, ?_, alongside⟩
              rw [List.map_append, List.map_append, same₁, same₂]

theorem mono {Q' : α → α' → S → Prop} (coupled : Coupled rel p q s Q)
    (weaker : ∀ a a' s', Q a a' s' → Q' a a' s') : Coupled rel p q s Q' := by
  induction coupled with
  | ret holds => exact .ret (weaker _ _ _ holds)
  | op _ ih => exact .op fun r r' s' related => ih r r' s' related weaker
  | loop I R start body _ _ ih => exact .loop I R start body fun b b' s' holds => ih b b' s' holds weaker

theorem bind {f : α → Task Op Reply β} {f' : α' → Task Op Reply β'} {Q' : β → β' → S → Prop}
    (first : Coupled rel p q s Q)
    (second : ∀ a a' s', Q a a' s' → Coupled rel (f a) (f' a') s' Q') :
    Coupled rel (p >>= f) (q >>= f') s Q' := by
  induction first with
  | ret holds => exact second _ _ _ holds
  | op _ ih => exact .op fun r r' s' related => ih r r' s' related second
  | loop I R start body _ _ ih =>
      exact .loop I R start body fun b b' s' holds => ih b b' s' holds second

/-- Two loops whose turns keep `I` until both end. -/
theorem iterate {body : σ → Task Op Reply (σ ⊕ α)} {body' : σ' → Task Op Reply (σ' ⊕ α')}
    {I : σ → σ' → S → Prop} {i : σ} {i' : σ'} (start : I i i' s)
    (turn : ∀ j j' s', I j j' s' → Coupled rel (body j) (body' j') s' (Together I Q)) :
    Coupled rel (Task.iterate body i) (Task.iterate body' i') s Q :=
  .loop I Q start turn fun _ _ _ holds => .ret holds

theorem refl {A : Op → Prop} (only : Only A p)
    (same : ∀ o r r' s s', A o → rel ⟨o, r⟩ ⟨o, r'⟩ s s' → r = r' ∧ s' = s) (s : S) :
    Coupled rel p p s fun a a' s' => a = a' ∧ s' = s := by
  induction p generalizing s with
  | ret a => exact .ret ⟨rfl, rfl⟩
  | op o next ih =>
      refine .op fun r r' s' related => ?_
      obtain ⟨rfl, rfl⟩ := same o r r' s s' only.1 related
      exact ih r (only.2 r) s'
  | loop body i next turn ih =>
      refine .loop (fun j j' s' => j = j' ∧ s' = s) (fun b b' s' => b = b' ∧ s' = s) ⟨rfl, rfl⟩
        (fun j j' s' holds => ?_) fun b b' s' holds => ?_
      · obtain ⟨rfl, rfl⟩ := holds
        apply (turn j (only.1 j) s').mono
        intro x x' s'' holds
        obtain ⟨rfl, rfl⟩ := holds
        cases x <;> exact ⟨rfl, rfl⟩
      · obtain ⟨rfl, rfl⟩ := holds
        exact ih b (only.2 b) s'

end Coupled

end Task

end Interaction
