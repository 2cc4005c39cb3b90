import Flosp.Kernel.Apic
import Flosp.Kernel.Idt

/-! The two 8259A interrupt controllers and what `idt_init` and `disable_pic8259` make of
their interrupt masks. -/

namespace Flosp.Kernel

open Interaction

/-- What the next byte on the data port is. -/
inductive PicData where
  | interruptMask
  | icw2
  | icw3
  | icw4
  deriving DecidableEq, Repr

structure Pic8259 where
  mask : BitVec 8
  vectorOffset : BitVec 8
  /-- the last ICW 1 announced an ICW 4 -/
  withIcw4 : Bool
  expects : PicData
  deriving DecidableEq, Repr

namespace Pic8259

/-- A byte on the command port. Bit 4 makes it an ICW 1, bit 0 announces an ICW 4. -/
def command (c : Pic8259) (value : BitVec 8) : Pic8259 :=
  if value.getLsbD 4 then
    { c with mask := 0, withIcw4 := value.getLsbD 0, expects := .icw2 }
  else c

def data (c : Pic8259) (value : BitVec 8) : Pic8259 :=
  match c.expects with
  | .interruptMask => { c with mask := value }
  | .icw2 => { c with vectorOffset := value, expects := .icw3 }
  | .icw3 => { c with expects := if c.withIcw4 then .icw4 else .interruptMask }
  | .icw4 => { c with expects := .interruptMask }

end Pic8259

structure Pics where
  master : Pic8259
  slave : Pic8259
  deriving DecidableEq, Repr

namespace Pics

def write (s : Pics) (port : Port) (value : BitVec 8) : Pics :=
  if port = picCommandMaster then { s with master := s.master.command value }
  else if port = picDataMaster then { s with master := s.master.data value }
  else if port = picCommandSlave then { s with slave := s.slave.command value }
  else if port = picDataSlave then { s with slave := s.slave.data value }
  else s

def writeAll (s : Pics) (writes : List (Port × BitVec 8)) : Pics :=
  writes.foldl (fun s w => s.write w.1 w.2) s

def Idle (s : Pics) : Prop :=
  s.master.expects = .interruptMask ∧ s.slave.expects = .interruptMask

def Masks (s : Pics) (mask : BitVec 8) : Prop := s.master.mask = mask ∧ s.slave.mask = mask

end Pics

def picStep (e : DriverEvent) (s s' : Pics) : Prop :=
  match e.op with
  | .outb port value => s' = s.write port value
  | _ => s' = s

def UnrelatedPort (port : Port) : Prop :=
  port ≠ picCommandMaster ∧ port ≠ picDataMaster ∧ port ≠ picCommandSlave ∧ port ≠ picDataSlave

/-- `idt_init`, the writes of `between` and then `disable_pic8259` leave both masks at 0xFF. -/
def LeavesMasked (isrStubTable base : Addr) (idt : Idt) (between : List (Port × BitVec 8))
    (start : Pics) : Prop :=
  Task.Ensures picStep (idtInit isrStubTable base idt) start fun _ s =>
    Task.Ensures picStep disablePic8259 (s.writeAll between) fun _ s' => s'.Masks 0xFF

section Writes

variable {s : Pics} {α : Type} {Q : α → Pics → Prop}

theorem writeAll_unrelated {writes : List (Port × BitVec 8)}
    (unrelated : ∀ w ∈ writes, UnrelatedPort w.1) : s.writeAll writes = s := by
  induction writes with
  | nil => rfl
  | cons w writes ih =>
      obtain ⟨first, rest⟩ := List.forall_mem_cons.mp unrelated
      obtain ⟨commandMaster, dataMaster, commandSlave, dataSlave⟩ := first
      have same : s.write w.1 w.2 = s := by
        simp [Pics.write, commandMaster, dataMaster, commandSlave, dataSlave]
      calc s.writeAll (w :: writes)
        _ = (s.write w.1 w.2).writeAll writes := rfl
        _ = s.writeAll writes := by rw [same]
        _ = s := ih rest

@[simp] theorem ensures_outb_picStep {port : Port} {value : BitVec 8} {f : Unit → Driver α} :
    Task.Ensures picStep (outb port value >>= f) s Q ↔
      Task.Ensures picStep (f ()) (s.write port value) Q := by
  have moves (r : Unit) (s' : Pics) :
      picStep ⟨.outb port value, r⟩ s s' ↔ True ∧ s' = s.write port value :=
    (and_iff_right trivial).symm
  apply (Task.ensures_perform_bind moves).trans
  exact ⟨fun both => both.2 () trivial, fun rest => ⟨⟨(), trivial⟩, fun _ _ => rest⟩⟩

theorem ensures_still_bind (o : Op) {f : Reply o → Driver α} (reply : Reply o)
    (still : ∀ r s', picStep ⟨o, r⟩ s s' ↔ s' = s) :
    Task.Ensures picStep (Task.perform o >>= f) s Q ↔ ∀ r, Task.Ensures picStep (f r) s Q :=
  Task.ensures_still_bind o reply still

@[simp] theorem ensures_console_picStep {c : ConsoleCall} {f : Unit → Driver α} :
    Task.Ensures picStep (console c >>= f) s Q ↔ Task.Ensures picStep (f ()) s Q :=
  (ensures_still_bind (.console c) () fun _ _ => Iff.rfl).trans
    ⟨fun rest => rest (), fun rest _ => rest⟩

theorem setDescriptors_still (isrStubTable : Addr) (turns : Nat) (vect : BitVec 8) (idt : Idt) :
    Task.Ensures picStep (setDescriptors isrStubTable turns vect idt) s fun _ s' => s' = s := by
  induction turns generalizing vect idt with
  | zero => exact .ret rfl
  | succ turns ih =>
      apply (ensures_still_bind (.load _ 8) (0 : BitVec 64) fun _ _ => Iff.rfl).mpr
      intro isr
      exact ih ..

theorem idtInit_masks (isrStubTable base : Addr) (idt : Idt) :
    Task.Ensures picStep (idtInit isrStubTable base idt) s fun _ s' =>
      s' = (s.write picDataMaster 0xFF).write picDataSlave 0xFF := by
  rw [idtInit, logDebug, ensures_console_picStep]
  apply (setDescriptors_still isrStubTable 32 0 idt).bind
  rintro idt _ rfl
  apply (setDescriptors_still isrStubTable 16 32 idt).bind
  rintro idt _ rfl
  simp only [logDebug, maskPicInterrupts, ensures_console_picStep, Task.bind_assoc,
    ensures_outb_picStep]
  apply (ensures_still_bind (.lidt _) () fun _ _ => Iff.rfl).mpr
  rintro ⟨⟩
  rw [ensures_console_picStep]
  apply (ensures_still_bind .sti () fun _ _ => Iff.rfl).mpr
  rintro ⟨⟩
  exact .ret rfl

/-- The masks are set before `disable_pic8259` runs. -/
theorem idtInit_masked (isrStubTable base : Addr) (idt : Idt) (idle : s.Idle)
    {between : List (Port × BitVec 8)} (unrelated : ∀ w ∈ between, UnrelatedPort w.1) :
    Task.Ensures picStep (idtInit isrStubTable base idt) s fun _ s' =>
      (s'.writeAll between).Idle ∧ (s'.writeAll between).Masks 0xFF := by
  apply (idtInit_masks isrStubTable base idt).mono
  rintro _ _ rfl
  obtain ⟨master, slave⟩ := idle
  rw [writeAll_unrelated unrelated]
  simp [Pics.Idle, Pics.Masks, Pics.write, Pic8259.data, master, slave, picCommandMaster,
    picDataMaster, picCommandSlave, picDataSlave]

/-- The initialization sequence unmasks every interrupt and takes all of its bytes. -/
theorem disablePic8259_unmasks :
    Task.Ensures picStep disablePic8259 s fun _ s' => s'.Idle ∧ s'.Masks 0 := by
  simp only [disablePic8259, ensures_outb_picStep]
  change Task.Ensures picStep (outb picDataSlave icw4 >>= .ret) _ _
  rw [ensures_outb_picStep, Task.ensures_ret]
  simp [Pics.Idle, Pics.Masks, Pics.write, Pic8259.command, Pic8259.data, icw1, picCommandMaster,
    picDataMaster, picCommandSlave, picDataSlave]

theorem masks_cleared (isrStubTable base : Addr) (idt : Idt) (between : List (Port × BitVec 8)) :
    Task.Ensures picStep (idtInit isrStubTable base idt) s fun _ s₁ =>
      Task.Ensures picStep disablePic8259 (s₁.writeAll between) fun _ s₂ => s₂.Masks 0 := by
  apply (idtInit_masks isrStubTable base idt).mono
  intro _ s₁ _
  apply disablePic8259_unmasks.mono
  intro _ s₂ unmasked
  exact unmasked.2

theorem masks_unique {α β : Type} {p : Driver α} {q : Driver β} {move : Pics → Pics} {mask mask' : BitVec 8}
    (first : Task.Ensures picStep p s fun _ s₁ =>
      Task.Ensures picStep q (move s₁) fun _ s₂ => s₂.Masks mask)
    (second : Task.Ensures picStep p s fun _ s₁ =>
      Task.Ensures picStep q (move s₁) fun _ s₂ => s₂.Masks mask') : mask = mask' := by
  obtain ⟨_, s₁, masks, masks'⟩ := first.possible.meets second.satisfies
  obtain ⟨_, s₂, here, there⟩ := masks.possible.meets masks'.satisfies
  exact here.1.symm.trans there.1

end Writes

/-- `disable_pic8259` never leaves the controllers masked. -/
theorem not_leavesMasked (isrStubTable base : Addr) (idt : Idt) (between : List (Port × BitVec 8))
    (start : Pics) : ¬ LeavesMasked isrStubTable base idt between start := by
  intro leaves
  have same := masks_unique leaves (masks_cleared isrStubTable base idt between)
  contradiction

/-- The controllers as a PC's firmware leaves them, and no write in between. -/
theorem firmwarePics_not_masked :
    ¬ LeavesMasked 0x101000 0x200000 Idt.loaded []
      ⟨⟨0xB8, 0x08, true, .interruptMask⟩, ⟨0x8F, 0x70, true, .interruptMask⟩⟩ := by
  intro leaves
  have same := masks_unique leaves (masks_cleared 0x101000 0x200000 Idt.loaded [])
  contradiction

end Flosp.Kernel
