import Flosp.Boot.Main
import Flosp.Lib.Monitor

/-! Runs without their console output, whose replies are discarded and decide nothing, and
the rules that follow a program through its calls and accesses. -/

namespace Flosp.Boot

open Interaction

@[simp] def Call.prints : Call → Bool
  | .outputString _ => true
  | _ => false

def effective (e : BootEvent) : Bool :=
  match e.op with
  | .call c => !c.prints
  | _ => true

/-- `p` has a run that ends with `r` and whose events other than printing are `t`. -/
abbrev Does {α : Type} (p : Program α) (t : Trace) (r : Except Halt α) : Prop :=
  RunsKeeping effective p t r

def callEvent (c : Call) (reply : EfiStatus × c.Out) : BootEvent := ⟨.call c, reply⟩

def loadEvent (region : Region) (a : Addr) (n : Nat) (v : BitVec (8 * n)) : BootEvent :=
  ⟨.load region a n, v⟩

def storeEvent (region : Region) (a : Addr) (n : Nat) (v : BitVec (8 * n)) : BootEvent :=
  ⟨.store region a n v, ()⟩

/-- `status` is an error as `EFIERR` builds one: bit 63 is set. -/
def Failed (status : EfiStatus) : Prop := status.msb = true

instance (status : EfiStatus) : Decidable (Failed status) := inferInstanceAs (Decidable (_ = _))

theorem failed_efiErr (a : BitVec 64) : Failed (efiErr a) := by
  rw [Failed, efiErr, BitVec.msb_or]
  rfl

@[simp] theorem efiError_eq_false (a : EfiStatus) : efiError a = false := by
  rw [efiError, decide_eq_false_iff_not]
  exact BitVec.not_lt_zero

variable {α β : Type} {t : Trace} {r : Except Halt β}

@[simp] theorem does_efiPrintChars_bind (s : List Char16) (f : Unit → Program β) :
    Does (efiPrintChars s >>= f) t r ↔ Does (f ()) t r := by
  have silent (reply : Reply (.call (.outputString s))) :
      effective ⟨.call (.outputString s), reply⟩ = false := rfl
  have dropped : Does (efiPrintChars s >>= f) t r ↔
      ∃ _ : Reply (.call (.outputString s)), Does (f ()) t r := runsKeeping_op_dropped silent
  constructor
  · intro does
    rcases dropped.mp does with ⟨_, rest⟩
    exact rest
  · intro does
    exact dropped.mpr ⟨(0, ()), does⟩

@[simp] theorem does_efiPrint_bind (s : String) (f : Unit → Program β) :
    Does (efiPrint s >>= f) t r ↔ Does (f ()) t r :=
  does_efiPrintChars_bind (wide s) f

@[simp] theorem does_efiPrintnum_bind (n : BitVec 64) (f : Unit → Program β) :
    Does (efiPrintnum n >>= f) t r ↔ Does (f ()) t r :=
  does_efiPrintChars_bind _ f

@[simp] theorem does_efiPrinthex_bind (h : BitVec 64) (zeroX : BitVec 8) (f : Unit → Program β) :
    Does (efiPrinthex h zeroX >>= f) t r ↔ Does (f ()) t r := by
  unfold efiPrinthex
  by_cases plain : zeroX ≠ 0
  · rw [if_pos plain, Prog.bind_assoc, does_efiPrint_bind]
    exact does_efiPrintChars_bind _ f
  · rw [if_neg plain]
    exact does_efiPrintChars_bind _ f

@[simp] theorem does_loadField_bind (region : Region) (base : Addr) (field : Field)
    (f : BitVec (8 * field.size) → Program β) :
    Does (loadField region base field >>= f) t r ↔
      ∃ v rest, t = loadEvent region (base + BitVec.ofNat 64 field.offset) field.size v :: rest ∧
        Does (f v) rest r :=
  runsKeeping_op fun _ => rfl

@[simp] theorem does_store_bind (region : Region) (a : Addr) (n : Nat) (v : BitVec (8 * n))
    (f : Unit → Program β) :
    Does (store region a n v >>= f) t r ↔
      ∃ rest, t = storeEvent region a n v :: rest ∧ Does (f ()) rest r := by
  have kept (reply : Reply (.store region a n v)) :
      effective ⟨.store region a n v, reply⟩ = true := rfl
  have performed : Does (store region a n v >>= f) t r ↔
      ∃ (reply : Reply (.store region a n v)) (rest : Trace),
        t = ⟨.store region a n v, reply⟩ :: rest ∧ Does (f reply) rest r := runsKeeping_op kept
  constructor
  · intro does
    rcases performed.mp does with ⟨_, rest, split, rest_does⟩
    exact ⟨rest, split, rest_does⟩
  · intro does
    rcases does with ⟨rest, split, rest_does⟩
    exact performed.mpr ⟨(), rest, split, rest_does⟩

theorem effective_call {c : Call} (effect : ¬ c.prints) (reply : EfiStatus × c.Out) :
    effective ⟨.call c, reply⟩ = true := by
  change (!c.prints) = true
  simp only [effect, Bool.not_false]

@[simp] theorem does_callStatus_bind {c : Call} (effect : ¬ c.prints)
    (f : EfiStatus → Program β) :
    Does (callStatus c >>= f) t r ↔
      ∃ reply rest, t = callEvent c reply :: rest ∧ Does (f reply.1) rest r :=
  runsKeeping_op (effective_call effect)

@[simp] theorem does_callOut_bind {c : Call} (effect : ¬ c.prints) (outputs : c.Out → α)
    (f : EfiStatus × α → Program β) :
    Does (callOut c outputs >>= f) t r ↔
      ∃ reply rest, t = callEvent c reply :: rest ∧ Does (f (reply.1, outputs reply.2)) rest r :=
  runsKeeping_op (effective_call effect)

@[simp] theorem does_pure (b : β) : Does (pure b) t r ↔ t = [] ∧ r = .ok b :=
  runsKeeping_ret

end Flosp.Boot
