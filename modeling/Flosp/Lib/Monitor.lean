import Flosp.Lib.Interaction

/-! Properties of traces told by a state machine that reads the events in order.
A monitor carries what the property has to remember of the past and says of each
event whether it may come now. -/

namespace Interaction

structure Monitor (E S : Type) where
  next : E → S → S
  ok : E → S → Prop

namespace Monitor

variable {E S : Type} (M : Monitor E S)

def after : List E → S → S
  | [], s => s
  | e :: t, s => after t (M.next e s)

def Holds : List E → S → Prop
  | [], _ => True
  | e :: t, s => M.ok e s ∧ Holds t (M.next e s)

@[simp] theorem after_nil (s : S) : M.after [] s = s := rfl

@[simp] theorem after_cons (e : E) (t : List E) (s : S) :
    M.after (e :: t) s = M.after t (M.next e s) := rfl

@[simp] theorem holds_nil (s : S) : M.Holds [] s := trivial

@[simp] theorem holds_cons (e : E) (t : List E) (s : S) :
    M.Holds (e :: t) s ↔ M.ok e s ∧ M.Holds t (M.next e s) := Iff.rfl

theorem after_append (t₁ t₂ : List E) (s : S) :
    M.after (t₁ ++ t₂) s = M.after t₂ (M.after t₁ s) := by
  induction t₁ generalizing s with
  | nil => rfl
  | cons e t₁ ih => exact ih (M.next e s)

theorem holds_append (t₁ t₂ : List E) (s : S) :
    M.Holds (t₁ ++ t₂) s ↔ M.Holds t₁ s ∧ M.Holds t₂ (M.after t₁ s) := by
  induction t₁ generalizing s with
  | nil =>
      simp only [List.nil_append, holds_nil, true_and]
      rfl
  | cons e t₁ ih =>
      simp only [List.cons_append, holds_cons, after_cons, ih, and_assoc]

variable {M} {keep : E → Bool}

/-- Events that the monitor ignores may be left out of the trace. -/
theorem holds_filter (ignored : ∀ e s, keep e = false → M.next e s = s)
    (allowed : ∀ e s, keep e = false → M.ok e s) (t : List E) (s : S) :
    M.Holds (t.filter keep) s ↔ M.Holds t s := by
  induction t generalizing s with
  | nil => exact Iff.rfl
  | cons e t ih =>
      cases kept : keep e with
      | true =>
          rw [List.filter_cons_of_pos kept, holds_cons, holds_cons, ih]
      | false =>
          rw [List.filter_cons_of_neg (by rw [kept]; decide), holds_cons, ignored e s kept, ih]
          exact ⟨fun holds => ⟨allowed e s kept, holds⟩, fun holds => holds.2⟩

end Monitor

variable {Op : Type} {Reply : Op → Type} {S : Type}
  {step : Event Op Reply → S → S → Prop} {keep : Event Op Reply → Bool}

theorem Follows.filter (silent : ∀ e s s', keep e = false → step e s s' → s' = s)
    {t : List (Event Op Reply)} {s s' : S} (follows : Follows step t s s') :
    Follows step (t.filter keep) s s' := by
  induction t generalizing s with
  | nil => exact follows
  | cons e t ih =>
      obtain ⟨mid, now, rest⟩ := follows
      cases kept : keep e with
      | true =>
          rw [List.filter_cons_of_pos kept]
          exact ⟨mid, now, ih rest⟩
      | false =>
          rw [List.filter_cons_of_neg (by rw [kept]; decide)]
          cases silent e s mid kept now
          exact ih rest

/-! Runs seen through a filter. -/

variable {Halt α β : Type}

/-- `p` has a run that ends with `r` and whose kept events are `t`. -/
def RunsKeeping (keep : Event Op Reply → Bool) (p : Prog Op Reply Halt α)
    (t : List (Event Op Reply)) (r : Except Halt α) : Prop :=
  ∃ full, Runs p full r ∧ full.filter keep = t

theorem Runs.keeping {p : Prog Op Reply Halt α} {t : List (Event Op Reply)} {r : Except Halt α}
    (runs : Runs p t r) : RunsKeeping keep p (t.filter keep) r :=
  ⟨t, runs, rfl⟩

@[simp] theorem runsKeeping_ret {a : α} {t : List (Event Op Reply)} {r : Except Halt α} :
    RunsKeeping keep (.ret a) t r ↔ t = [] ∧ r = .ok a := by
  constructor
  · rintro ⟨full, runs, rfl⟩
    obtain ⟨rfl, rfl⟩ := runs_ret.mp runs
    exact ⟨rfl, rfl⟩
  · rintro ⟨rfl, rfl⟩
    exact ⟨[], .ret a, rfl⟩

@[simp] theorem runsKeeping_halt {h : Halt} {t : List (Event Op Reply)} {r : Except Halt α} :
    RunsKeeping keep (.halt h) t r ↔ t = [] ∧ r = .error h := by
  constructor
  · rintro ⟨full, runs, rfl⟩
    obtain ⟨rfl, rfl⟩ := runs_halt.mp runs
    exact ⟨rfl, rfl⟩
  · rintro ⟨rfl, rfl⟩
    exact ⟨[], .halt h, rfl⟩

theorem runsKeeping_op {o : Op} {next : Reply o → Prog Op Reply Halt α}
    {t : List (Event Op Reply)} {r : Except Halt α} (kept : ∀ reply, keep ⟨o, reply⟩ = true) :
    RunsKeeping keep (.op o next) t r ↔
      ∃ reply rest, t = ⟨o, reply⟩ :: rest ∧ RunsKeeping keep (next reply) rest r := by
  constructor
  · rintro ⟨full, runs, rfl⟩
    obtain ⟨reply, rest, rfl, rest_runs⟩ := runs_op.mp runs
    exact ⟨reply, rest.filter keep, List.filter_cons_of_pos (kept reply), rest, rest_runs, rfl⟩
  · rintro ⟨reply, _, rfl, full, runs, rfl⟩
    exact ⟨⟨o, reply⟩ :: full, .op o next reply full r runs,
      List.filter_cons_of_pos (kept reply)⟩

theorem runsKeeping_op_dropped {o : Op} {next : Reply o → Prog Op Reply Halt α}
    {t : List (Event Op Reply)} {r : Except Halt α} (dropped : ∀ reply, keep ⟨o, reply⟩ = false) :
    RunsKeeping keep (.op o next) t r ↔ ∃ reply, RunsKeeping keep (next reply) t r := by
  have drop (reply : Reply o) (rest : List (Event Op Reply)) :
      (⟨o, reply⟩ :: rest).filter keep = rest.filter keep :=
    List.filter_cons_of_neg (by rw [dropped reply]; decide)
  constructor
  · rintro ⟨full, runs, rfl⟩
    obtain ⟨reply, rest, rfl, rest_runs⟩ := runs_op.mp runs
    exact ⟨reply, rest, rest_runs, (drop reply rest).symm⟩
  · rintro ⟨reply, full, runs, rfl⟩
    exact ⟨⟨o, reply⟩ :: full, .op o next reply full r runs, drop reply full⟩

/-- How `f` goes on, in kept events, from the end `m` of an earlier run. -/
def ResumesKeeping (keep : Event Op Reply → Bool) (f : α → Prog Op Reply Halt β)
    (m : Except Halt α) (t : List (Event Op Reply)) (r : Except Halt β) : Prop :=
  match m with
  | .ok a => RunsKeeping keep (f a) t r
  | .error h => t = [] ∧ r = .error h

theorem runsKeeping_bind {p : Prog Op Reply Halt α} {f : α → Prog Op Reply Halt β}
    {t : List (Event Op Reply)} {r : Except Halt β} :
    RunsKeeping keep (p >>= f) t r ↔
      ∃ t₁ t₂ m, t = t₁ ++ t₂ ∧ RunsKeeping keep p t₁ m ∧ ResumesKeeping keep f m t₂ r := by
  constructor
  · rintro ⟨full, runs, rfl⟩
    obtain ⟨t₁, t₂, m, rfl, first, second⟩ := runs_bind.mp runs
    refine ⟨t₁.filter keep, t₂.filter keep, m, List.filter_append .., first.keeping, ?_⟩
    cases m with
    | ok a => exact Runs.keeping (p := f a) second
    | error h =>
        obtain ⟨rfl, rfl⟩ := second
        exact ⟨rfl, rfl⟩
  · rintro ⟨_, t₂, m, rfl, ⟨full₁, first, rfl⟩, second⟩
    cases m with
    | ok a =>
        obtain ⟨full₂, runs, rfl⟩ := second
        exact ⟨full₁ ++ full₂, runs_bind.mpr ⟨full₁, full₂, .ok a, rfl, first, runs⟩,
          List.filter_append ..⟩
    | error h =>
        obtain ⟨rfl, rfl⟩ := second
        exact ⟨full₁, runs_bind.mpr ⟨full₁, [], .error h, (List.append_nil _).symm, first,
          rfl, rfl⟩, (List.append_nil _).symm⟩

end Interaction
