import Flosp.Lib.Monitor

/-! Contracts between a program and its environment: the program performs only events that a
monitor allows, as long as the environment has kept its promises. -/

namespace Interaction

/-- A monitor of the program's side, with what the environment promises of each event. -/
structure Contract (E S : Type) extends Monitor E S where
  promise : E → S → Prop

/-- The environment has kept its promises along a trace. -/
def Contract.Kept {E S : Type} (C : Contract E S) : List E → S → Prop
  | [], _ => True
  | e :: t, s => C.promise e s ∧ C.Kept t (C.next e s)

instance Contract.decideKept {E S : Type} (C : Contract E S) [∀ e s, Decidable (C.promise e s)] :
    ∀ t s, Decidable (C.Kept t s)
  | [], _ => inferInstanceAs (Decidable True)
  | e :: t, s =>
      have := decideKept C t (C.next e s)
      inferInstanceAs (Decidable (_ ∧ _))

variable {Op : Type} {Reply : Op → Type} {Halt S α β : Type} {C : Contract (Event Op Reply) S}
  {H : Halt → S → Prop}

/-- From `s` on the program keeps its side of the contract. It returns only with `Q` and halts
only with `H`. -/
def Prog.Obeys (C : Contract (Event Op Reply) S) (H : Halt → S → Prop) {α : Type} :
    Prog Op Reply Halt α → S → (α → S → Prop) → Prop
  | .ret a, s, Q => Q a s
  | .halt h, s, _ => H h s
  | .op o next, s, Q => ∀ reply, C.promise ⟨o, reply⟩ s →
      C.ok ⟨o, reply⟩ s ∧ (next reply).Obeys C H (C.next ⟨o, reply⟩ s) Q

namespace Prog

variable {p : Prog Op Reply Halt α} {s : S} {Q Q' : α → S → Prop}

theorem obeys_op {o : Op} {next : Reply o → Prog Op Reply Halt α} :
    Obeys C H (.op o next) s Q ↔ ∀ reply, C.promise ⟨o, reply⟩ s →
      C.ok ⟨o, reply⟩ s ∧ Obeys C H (next reply) (C.next ⟨o, reply⟩ s) Q := Iff.rfl

theorem Obeys.mono (obeys : p.Obeys C H s Q) (weaker : ∀ a s', Q a s' → Q' a s') :
    p.Obeys C H s Q' := by
  induction p generalizing s with
  | ret a => exact weaker a s obeys
  | halt h => exact obeys
  | op o next ih =>
      intro reply promised
      exact ⟨(obeys reply promised).1, ih reply (obeys reply promised).2⟩

theorem obeys_bind {f : α → Prog Op Reply Halt β} {Q : β → S → Prop} :
    (p >>= f).Obeys C H s Q ↔ p.Obeys C H s fun a s' => (f a).Obeys C H s' Q := by
  induction p generalizing s with
  | ret a => exact Iff.rfl
  | halt h => exact Iff.rfl
  | op o next ih => simp only [op_bind, obeys_op, ih]

theorem Obeys.bind {f : α → Prog Op Reply Halt β} {Q : β → S → Prop} {R : α → S → Prop}
    (first : p.Obeys C H s R) (rest : ∀ a s', R a s' → (f a).Obeys C H s' Q) :
    (p >>= f).Obeys C H s Q :=
  obeys_bind.mpr (first.mono rest)

/-- Wherever the program starts, it leaves the monitor's state as it was. -/
def Idles (C : Contract (Event Op Reply) S) (H : Halt → S → Prop) (p : Prog Op Reply Halt α) : Prop :=
  ∀ s, p.Obeys C H s fun _ s' => s' = s

theorem Idles.bind {f : α → Prog Op Reply Halt β} (first : p.Idles C H)
    (rest : ∀ a, (f a).Idles C H) : (p >>= f).Idles C H := by
  intro s
  apply (first s).bind
  rintro a s' rfl
  exact rest a s'

theorem Idles.then {f : α → Prog Op Reply Halt β} {Q : β → S → Prop} (first : p.Idles C H)
    (rest : ∀ a, (f a).Obeys C H s Q) : (p >>= f).Obeys C H s Q := by
  apply (first s).bind
  rintro a s' rfl
  exact rest a

def Ends (H : Halt → S → Prop) (Q : α → S → Prop) : Except Halt α → S → Prop
  | .ok a, s => Q a s
  | .error h, s => H h s

theorem Obeys.runs (obeys : p.Obeys C H s Q) {t : List (Event Op Reply)} {r : Except Halt α}
    (run : Runs p t r) (kept : C.Kept t s) : C.Holds t s ∧ Ends H Q r (C.after t s) := by
  induction run generalizing s with
  | ret a => exact ⟨trivial, obeys⟩
  | halt h => exact ⟨trivial, obeys⟩
  | op o next reply t r _ ih =>
      have now := obeys reply kept.1
      have later := ih now.2 kept.2
      exact ⟨⟨now.1, later.1⟩, later.2⟩

/-! Programs of which it is known how they halt, whatever the environment does. -/

def HaltsOnly (H : Halt → Prop) : Prog Op Reply Halt α → Prop
  | .ret _ => True
  | .halt h => H h
  | .op _ next => ∀ reply, (next reply).HaltsOnly H

section HaltsOnly

variable {H : Halt → Prop}

theorem HaltsOnly.bind {f : α → Prog Op Reply Halt β} (first : p.HaltsOnly H)
    (rest : ∀ a, (f a).HaltsOnly H) : (p >>= f).HaltsOnly H := by
  induction p with
  | ret a => exact rest a
  | halt h => exact first
  | op o next ih => exact fun reply => ih reply (first reply)

theorem HaltsOnly.runs {t : List (Event Op Reply)} {r : Except Halt α} (run : Runs p t r)
    (halts : p.HaltsOnly H) {h : Halt} (ends : r = .error h) : H h := by
  induction run with
  | ret a => cases ends
  | halt h' =>
      cases ends
      exact halts
  | op o next reply t r _ ih => exact ih (halts reply) ends

theorem haltsOnly_of_runs (runs : ∀ t h, Runs p t (.error h) → H h) : p.HaltsOnly H := by
  induction p with
  | ret a => trivial
  | halt h => exact runs [] h (.halt h)
  | op o next ih =>
      intro reply
      apply ih
      intro t h run
      exact runs _ h (.op o next reply t _ run)

end HaltsOnly

end Prog

end Interaction
