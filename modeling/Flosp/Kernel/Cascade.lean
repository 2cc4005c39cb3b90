import Flosp.Kernel.Controllers

/-! The cascade of the two 8259As after `disable_pic8259`. `ICW_3_Ma` is to tell the master at
which line the slave is and `ICW_3_Sl` the slave its number, but each has the form of the other. -/

namespace Flosp.Kernel

open Interaction Relation

def chipsStep (e : DriverEvent) (s s' : Chips) : Prop :=
  match e.op with
  | .outb port value => s' = s.write port value
  | _ => s' = s

namespace Chips

/-- What happens to the controllers once they are initialized. -/
inductive Operates (s : Chips) : Chips → Prop where
  | mask {port : Port} (value : BitVec 8) (data : port = picDataMaster ∨ port = picDataSlave) :
      Operates s (s.write port value)
  | eoi {port : Port} (command : port = picCommandMaster ∨ port = picCommandSlave) :
      Operates s (s.write port picEoi)
  | interrupt {vector : BitVec 8} {s' : Chips} (delivers : s.Delivers vector s') : Operates s s'

/-- The master has its slave at line 1, and the slave takes itself to be at line 4. -/
structure Crossed (s : Chips) : Prop where
  master : s.master.icw3 = icw3Ma
  slave : s.slave.icw3 = icw3Sl
  vectors : s.master.vectorOffset = icw2Ma
  idle : s.master.expects = .interruptMask ∧ s.slave.expects = .interruptMask

/-- No interrupt is acknowledged to the slave. Each comes at a vector of the master's own lines,
or else for line 1 (the keyboard's), for which the CPU reads whatever is on the data bus. -/
structure SlaveUnheard (s : Chips) : Prop where
  unacknowledged : ∀ vector s', s.Delivers vector s' → s'.slave = s.slave
  vectors : ∀ vector s', s.Delivers vector s' →
    (∃ i : Fin 8, i ≠ 1 ∧ vector = icw2Ma + BitVec.ofNat 8 i) ∨
      s.master.Raises 1 ∧ s'.master = s.master.serve 1
  keyboard : s.master.Raises 1 →
    ∀ vector, s.Delivers vector { s with master := s.master.serve 1 }

section Crossing

variable {s s' : Chips} {vector : BitVec 8}

theorem Crossed.not_cascades (crossed : s.Crossed) (i : Fin 8) : ¬ s.Cascades i := by
  rintro ⟨calls, answers⟩
  rw [crossed.master] at calls
  rw [crossed.slave] at answers
  have none : ∀ i : Fin 8, icw3Ma.getLsbD i = true → icw3Sl &&& 7 ≠ BitVec.ofNat 8 i := by decide
  exact none i calls answers

/-- Line 1 is the only one that the master leaves to a slave. -/
theorem Crossed.calls_iff (crossed : s.Crossed) (i : Fin 8) :
    s.master.icw3.getLsbD i = true ↔ i = 1 := by
  have all : ∀ i : Fin 8, icw3Ma.getLsbD i = true ↔ i = 1 := by decide
  rw [crossed.master]
  exact all i

theorem Crossed.vectorOf (crossed : s.Crossed) (i : Fin 8) :
    s.master.vectorOf i = icw2Ma + BitVec.ofNat 8 i := by
  have all : ∀ i : Fin 8, icw2Ma &&& 0xF8 ||| BitVec.ofNat 8 i = icw2Ma + BitVec.ofNat 8 i := by
    decide
  rw [Chip.vectorOf, crossed.vectors]
  exact all i

theorem Crossed.slaveUnheard (crossed : s.Crossed) : s.SlaveUnheard where
  unacknowledged vector s' delivers := by
    cases delivers with
    | slave _ cascades => exact absurd cascades (crossed.not_cascades _)
    | _ => rfl
  vectors vector s' delivers := by
    cases delivers with
    | @own i raises device =>
        have other : i ≠ 1 := fun same =>
          absurd (((crossed.calls_iff i).mpr same).symm.trans device) (by decide)
        exact .inl ⟨i, other, crossed.vectorOf i⟩
    | slave _ cascades => exact absurd cascades (crossed.not_cascades _)
    | slaveSpurious _ cascades => exact absurd cascades (crossed.not_cascades _)
    | unanswered raises calls =>
        obtain rfl := (crossed.calls_iff _).mp calls
        exact .inr ⟨raises, rfl⟩
    | spurious => exact .inl ⟨7, by decide, crossed.vectorOf 7⟩
  keyboard raises vector :=
    .unanswered raises ((crossed.calls_iff 1).mpr rfl) (crossed.not_cascades 1) vector

theorem Chip.writeData_mask {c : Chip} (idle : c.expects = .interruptMask) (value : BitVec 8) :
    c.writeData value = { c with mask := value } := by
  simp [Chip.writeData, Pic8259.data, idle]

theorem Chip.writeCommand_eoi (c : Chip) :
    c.writeCommand picEoi = { c with inService := c.inService &&& (c.inService - 1) } :=
  if_pos rfl

theorem Crossed.operates (crossed : s.Crossed) (operates : s.Operates s') : s'.Crossed := by
  obtain ⟨master, slave, vectors, idleMaster, idleSlave⟩ := crossed
  cases operates with
  | mask value data =>
      rcases data with rfl | rfl
      · rw [write_dataMaster, Chip.writeData_mask idleMaster]
        exact ⟨master, slave, vectors, idleMaster, idleSlave⟩
      · rw [write_dataSlave, Chip.writeData_mask idleSlave]
        exact ⟨master, slave, vectors, idleMaster, idleSlave⟩
  | eoi command =>
      rcases command with rfl | rfl
      · rw [write_commandMaster, Chip.writeCommand_eoi]
        exact ⟨master, slave, vectors, idleMaster, idleSlave⟩
      · rw [write_commandSlave, Chip.writeCommand_eoi]
        exact ⟨master, slave, vectors, idleMaster, idleSlave⟩
  | interrupt delivers =>
      cases delivers with
      | _ => exact ⟨master, slave, vectors, idleMaster, idleSlave⟩

theorem Crossed.run (crossed : s.Crossed) (run : ReflTransGen Operates s s') : s'.Crossed := by
  induction run with
  | refl => exact crossed
  | tail _ last ih => exact ih.operates last

variable {α : Type} {Q : α → Chips → Prop}

@[simp] theorem ensures_outb_chipsStep {port : Port} {value : BitVec 8} {f : Unit → Driver α} :
    Task.Ensures chipsStep (outb port value >>= f) s Q ↔
      Task.Ensures chipsStep (f ()) (s.write port value) Q := by
  have moves (r : Unit) (s' : Chips) :
      chipsStep ⟨.outb port value, r⟩ s s' ↔ True ∧ s' = s.write port value :=
    (and_iff_right trivial).symm
  apply (Task.ensures_perform_bind moves).trans
  exact ⟨fun both => both.2 () trivial, fun rest => ⟨⟨(), trivial⟩, fun _ _ => rest⟩⟩

theorem disablePic8259_crossed : Task.Ensures chipsStep disablePic8259 s fun _ s' => s'.Crossed := by
  simp only [disablePic8259, ensures_outb_chipsStep]
  change Task.Ensures chipsStep (outb picDataSlave icw4 >>= .ret) _ _
  rw [ensures_outb_chipsStep, Task.ensures_ret]
  constructor <;> simp [Chip.writeCommand, Chip.writeData, Pic8259.command, Pic8259.data, icw1, picEoi]

end Crossing

/-- After `disable_pic8259`, whatever is masked, acknowledged and interrupted from then on, no
device at the slave is heard, and the keyboard's interrupt comes at any vector. -/
theorem disablePic8259_slaveUnheard (s : Chips) :
    Task.Ensures chipsStep disablePic8259 s fun _ s₁ =>
      ∀ s₂, ReflTransGen Operates s₁ s₂ → s₂.SlaveUnheard :=
  disablePic8259_crossed.mono fun _ _ crossed _ run => (crossed.run run).slaveUnheard

end Chips

end Flosp.Kernel
