import Flosp.Lib.Reachable
import Mathlib.Data.List.Forall2

/-! A task as a part of one that may ask for more: its operations become operations of another
kind, and the replies to these are read as replies to its own. -/

namespace Interaction

variable {Op Op' : Type} {Reply : Op → Type} {Reply' : Op' → Type} {S : Type}

namespace Task

variable {α β σ : Type}

section Embed

variable (f : Op → Op') (back : ∀ o, Reply' (f o) → Reply o)

def embed {α : Type} : Task Op Reply α → Task Op' Reply' α
  | .ret a => .ret a
  | .op o next => .op (f o) fun r => (next (back o r)).embed
  | .loop body s next => .loop (fun i => (body i).embed) s fun b => (next b).embed

/-- An event of the task and the same event of its embedding. -/
def Matches (e : Event Op Reply) (e' : Event Op' Reply') : Prop :=
  ∃ r, e' = ⟨f e.op, r⟩ ∧ back e.op r = e.reply

/-- How an environment of the embedding treats the task itself. -/
def pulled (step : Event Op' Reply' → S → S → Prop) (e : Event Op Reply) (s s' : S) : Prop :=
  ∃ e', Matches f back e e' ∧ step e' s s'

variable {f back}

theorem Runs.of_embed {q : Task Op' Reply' α} {t' : List (Event Op' Reply')} {a : α}
    (run : Runs q t' a) {p : Task Op Reply α} (embedded : embed f back p = q) :
    ∃ t, Runs p t a ∧ List.Forall₂ (Matches f back) t t' := by
  induction run with
  | ret a =>
      cases p with
      | ret b =>
          cases embedded
          exact ⟨[], .ret _, .nil⟩
      | op o next => cases embedded
      | loop body s next => cases embedded
  | @op α o next r t a _ ih =>
      cases p with
      | ret b => cases embedded
      | op o next =>
          cases embedded
          obtain ⟨t, rest, same⟩ := ih (p := next (back o r)) rfl
          exact ⟨_, rest.op, .cons ⟨r, rfl, rfl⟩ same⟩
      | loop body s next => cases embedded
  | @again α β σ body s s' next t₁ t₂ a _ _ turn rest =>
      cases p with
      | ret b => cases embedded
      | op o next => cases embedded
      | loop body s next =>
          cases embedded
          obtain ⟨u₁, first, same₁⟩ := turn (p := body s) rfl
          obtain ⟨u₂, second, same₂⟩ := rest (p := .loop body s' next) rfl
          exact ⟨_, .again first second, List.rel_append same₁ same₂⟩
  | @done α β σ body s b next t₁ t₂ a _ _ turn rest =>
      cases p with
      | ret b => cases embedded
      | op o next => cases embedded
      | loop body s next =>
          cases embedded
          obtain ⟨u₁, first, same₁⟩ := turn (p := body s) rfl
          obtain ⟨u₂, second, same₂⟩ := rest (p := next b) rfl
          exact ⟨_, .done first second, List.rel_append same₁ same₂⟩

theorem Performs.of_embed {q : Task Op' Reply' α} {t' : List (Event Op' Reply')}
    (performs : Performs q t') {p : Task Op Reply α} (embedded : embed f back p = q) :
    ∃ t, Performs p t ∧ List.Forall₂ (Matches f back) t t' := by
  induction performs with
  | start q => exact ⟨[], .start p, .nil⟩
  | @op α o next r t _ ih =>
      cases p with
      | ret b => cases embedded
      | op o next =>
          cases embedded
          obtain ⟨t, rest, same⟩ := ih (p := next (back o r)) rfl
          exact ⟨_, rest.op, .cons ⟨r, rfl, rfl⟩ same⟩
      | loop body s next => cases embedded
  | @turn α β σ body s next t _ ih =>
      cases p with
      | ret b => cases embedded
      | op o next => cases embedded
      | loop body s next =>
          cases embedded
          obtain ⟨t, here, same⟩ := ih (p := body s) rfl
          exact ⟨t, here.turn, same⟩
  | @again α β σ body s s' next t₁ t₂ run _ rest =>
      cases p with
      | ret b => cases embedded
      | op o next => cases embedded
      | loop body s next =>
          cases embedded
          obtain ⟨u₁, first, same₁⟩ := run.of_embed (p := body s) rfl
          obtain ⟨u₂, second, same₂⟩ := rest (p := .loop body s' next) rfl
          exact ⟨_, second.again first, List.rel_append same₁ same₂⟩
  | @done α β σ body s b next t₁ t₂ run _ rest =>
      cases p with
      | ret b => cases embedded
      | op o next => cases embedded
      | loop body s next =>
          cases embedded
          obtain ⟨u₁, first, same₁⟩ := run.of_embed (p := body s) rfl
          obtain ⟨u₂, second, same₂⟩ := rest (p := next b) rfl
          exact ⟨_, second.done first, List.rel_append same₁ same₂⟩

theorem Follows.of_matches {step : Event Op' Reply' → S → S → Prop}
    {t : List (Event Op Reply)} {t' : List (Event Op' Reply')}
    (same : List.Forall₂ (Matches f back) t t') {s s' : S} (follows : Follows step t' s s') :
    Follows (pulled f back step) t s s' := by
  induction same generalizing s with
  | nil => exact follows
  | cons first _ ih =>
      obtain ⟨mid, now, later⟩ := follows
      exact ⟨mid, ⟨_, first, now⟩, ih later⟩

theorem Guards.embed {step : Event Op' Reply' → S → S → Prop} {p : Task Op Reply α} {s : S}
    {I : S → Prop} {Q : α → S → Prop} (guards : Guards (pulled f back step) p s I Q) :
    Guards step (Task.embed f back p) s I Q := by
  constructor
  · intro t' s' performs follows
    obtain ⟨t, here, same⟩ := performs.of_embed rfl
    exact guards.always t s' here (Follows.of_matches same follows)
  · intro t' a s' run follows
    obtain ⟨t, here, same⟩ := run.of_embed rfl
    exact guards.satisfies t a s' here (Follows.of_matches same follows)

theorem Ensures.embed {step : Event Op' Reply' → S → S → Prop} {p : Task Op Reply α} {s : S}
    {Q : α → S → Prop} (ensures : Ensures (pulled f back step) p s Q) :
    Ensures step (Task.embed f back p) s Q := by
  induction ensures with
  | ret holds => exact .ret holds
  | op replies _ ih =>
      obtain ⟨reply, s', _, ⟨r, rfl, -⟩, now⟩ := replies
      exact .op ⟨r, s', now⟩ fun r s' now => ih (back _ r) s' ⟨_, ⟨r, rfl, rfl⟩, now⟩
  | loop R _ _ _ turn again done => exact .loop R turn again done

end Embed

end Task

end Interaction
