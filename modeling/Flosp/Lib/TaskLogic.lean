import Flosp.Lib.Promise

/-! Program logics over tasks. What follows from the triples of a task's parts alone is shown once,
whatever a triple says. -/

namespace Interaction

structure TaskLogic (Op : Type) (Reply : Op → Type) where
  Assertion : Type
  Triple : {α : Type} → Assertion → Task Op Reply α → (α → Assertion) → Prop
  ret : ∀ {α : Type} (a : α) (Q : α → Assertion), Triple (Q a) (.ret a) Q
  bind : ∀ {α β : Type} {A : Assertion} {p : Task Op Reply α} {R : α → Assertion}
    {f : α → Task Op Reply β} {Q : β → Assertion},
    Triple A p R → (∀ a, Triple (R a) (f a) Q) → Triple A (p >>= f) Q

namespace TaskLogic

variable {Op : Type} {Reply : Op → Type} {S : Type}

/-- The triples hold of the operations that the task may ask for. -/
def obeying (P : Event Op Reply → Prop) (allowed : Op → Prop) : TaskLogic Op Reply where
  Assertion := Prop
  Triple A p Q := A → p.Obeys P allowed Q
  ret _ _ holds := holds
  bind first second holds := (first holds).bind second

def ensuring (step : Event Op Reply → S → S → Prop) : TaskLogic Op Reply where
  Assertion := S → Prop
  Triple A p Q := ∀ s, A s → Task.Ensures step p s Q
  ret _ _ _ holds := .ret holds
  bind first second s holds := (first s holds).bind fun a s' here => second a s' here

end TaskLogic

end Interaction
