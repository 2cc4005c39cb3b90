import Flosp.Kernel.InterruptHandler
import Flosp.Kernel.LegacyPics

/-! The interrupt controllers as they deliver interrupts: two cascaded 8259As with the lines that
they have in service, and the LAPIC with its timer. -/

namespace Flosp.Kernel

/-- An 8259A with its ICW 3 and the lines in service. -/
structure Chip extends Pic8259 where
  icw3 : BitVec 8
  inService : BitVec 8
  deriving DecidableEq, Repr

namespace Chip

/-- A byte on the command port. A non-specific end of interrupt is for the lowest line in service;
an initialization leaves the lines in service alone. -/
def writeCommand (c : Chip) (value : BitVec 8) : Chip :=
  if value = picEoi then { c with inService := c.inService &&& (c.inService - 1) }
  else { c with toPic8259 := c.toPic8259.command value }

/-- A byte on the data port. -/
def writeData (c : Chip) (value : BitVec 8) : Chip where
  toPic8259 := c.toPic8259.data value
  icw3 := if c.expects = .icw3 then value else c.icw3
  inService := c.inService

def Listens (c : Chip) : Prop := c.expects = .interruptMask ∧ c.mask ≠ 0xFF

def Raises (c : Chip) (i : Fin 8) : Prop :=
  c.Listens ∧ c.mask.getLsbD i = false ∧ ∀ j ≤ i, c.inService.getLsbD j = false

def serve (c : Chip) (i : Fin 8) : Chip := { c with inService := c.inService ||| 1 <<< i.val }

/-- In 8086 mode the line is in the low three bits of the vector. -/
def vectorOf (c : Chip) (i : Fin 8) : BitVec 8 := c.vectorOffset &&& 0xF8 ||| BitVec.ofNat 8 i

end Chip

structure Chips where
  master : Chip
  slave : Chip
  deriving DecidableEq, Repr

namespace Chips

def write (s : Chips) (port : Port) (value : BitVec 8) : Chips :=
  if port = picCommandMaster then { s with master := s.master.writeCommand value }
  else if port = picDataMaster then { s with master := s.master.writeData value }
  else if port = picCommandSlave then { s with slave := s.slave.writeCommand value }
  else if port = picDataSlave then { s with slave := s.slave.writeData value }
  else s

/-- The slave answers for line `i` of the master: by the ICW 3 of either. -/
def Cascades (s : Chips) (i : Fin 8) : Prop :=
  s.master.icw3.getLsbD i = true ∧ s.slave.icw3 &&& 7 = BitVec.ofNat 8 i

/-- What the controllers do when the CPU acknowledges an interrupt, and the vector that it reads.
A request that is withdrawn too soon is answered with the lowest priority. -/
inductive Delivers (s : Chips) : BitVec 8 → Chips → Prop where
  | own {i : Fin 8} (raises : s.master.Raises i) (device : s.master.icw3.getLsbD i = false) :
      Delivers s (s.master.vectorOf i) { s with master := s.master.serve i }
  | slave {i j : Fin 8} (raises : s.master.Raises i) (cascades : s.Cascades i)
      (raises' : s.slave.Raises j) :
      Delivers s (s.slave.vectorOf j) { master := s.master.serve i, slave := s.slave.serve j }
  | slaveSpurious {i : Fin 8} (raises : s.master.Raises i) (cascades : s.Cascades i)
      (listens : s.slave.Listens) :
      Delivers s (s.slave.vectorOf 7) { s with master := s.master.serve i }
  /-- no slave has the number that the master calls: nothing drives the data bus -/
  | unanswered {i : Fin 8} (raises : s.master.Raises i) (calls : s.master.icw3.getLsbD i = true)
      (silent : ¬ s.Cascades i) (vector : BitVec 8) :
      Delivers s vector { s with master := s.master.serve i }
  | spurious (listens : s.master.Listens) : Delivers s (s.master.vectorOf 7) s

def Served (s : Chips) : Prop := s.master.inService = 0 ∧ s.slave.inService = 0

/-- A slave that may interrupt has vectors of which the handler tells it. -/
def SlaveVectors (s : Chips) : Prop := s.slave.Listens → s.slave.vectorOffset = icw2Sl

end Chips

/-- The LAPIC, as far as its timer goes. -/
structure Lapic where
  softwareEnabled : Bool
  lvtTimer : BitVec 32
  initialCount : BitVec 32
  requested : List (BitVec 8)
  /-- the vectors in service, the highest first -/
  inService : List (BitVec 8)
  deriving DecidableEq, Repr

namespace Lapic

def write (l : Lapic) (register : Addr) (value : BitVec 32) : Lapic :=
  if register = spuriousVector then { l with softwareEnabled := value.getLsbD 8 }
  else if register = apicEoi then { l with inService := l.inService.tail }
  else if register = apicLvtTimer then { l with lvtTimer := value }
  else if register = apicTimerInitialCount then { l with initialCount := value }
  else l

def timerVector (l : Lapic) : BitVec 8 := l.lvtTimer.setWidth 8

def Armed (l : Lapic) : Prop :=
  l.softwareEnabled = true ∧ l.lvtTimer.getLsbD 16 = false ∧ l.initialCount ≠ 0

def expire (l : Lapic) : Lapic := { l with requested := l.requested.insert l.timerVector }

def Presents (l : Lapic) (vector : BitVec 8) : Prop :=
  vector ∈ l.requested ∧ ∀ u ∈ l.inService, u >>> 4 < vector >>> 4

def accept (l : Lapic) (vector : BitVec 8) : Lapic :=
  { l with requested := l.requested.erase vector, inService := vector :: l.inService }

end Lapic

section Acknowledge

variable {c : Chip} {s s' : Chips} {vector : BitVec 8}

/-- The writes of the handler at the end of an interrupt. -/
def Chips.acknowledge (s : Chips) (vector : BitVec 64) : Chips :=
  let s := if vector ≥ 8 + 32 then s.write picCommandSlave picEoi else s
  s.write picCommandMaster picEoi

@[simp] theorem Chips.write_commandMaster (value : BitVec 8) :
    s.write picCommandMaster value = { s with master := s.master.writeCommand value } := rfl

@[simp] theorem Chips.write_dataMaster (value : BitVec 8) :
    s.write picDataMaster value = { s with master := s.master.writeData value } := rfl

@[simp] theorem Chips.write_commandSlave (value : BitVec 8) :
    s.write picCommandSlave value = { s with slave := s.slave.writeCommand value } := rfl

@[simp] theorem Chips.write_dataSlave (value : BitVec 8) :
    s.write picDataSlave value = { s with slave := s.slave.writeData value } := rfl

theorem Chip.eoi_idle (idle : c.inService = 0) : c.writeCommand picEoi = c := by
  obtain ⟨chip, icw3, inService⟩ := c
  obtain rfl : inService = 0 := idle
  have cleared : (0 : BitVec 8) &&& (0 - 1) = 0 := by decide
  rw [writeCommand, if_pos rfl]
  exact congrArg (Chip.mk chip icw3) cleared

theorem Chip.eoi_serve (idle : c.inService = 0) (i : Fin 8) :
    (c.serve i).writeCommand picEoi = c := by
  obtain ⟨chip, icw3, inService⟩ := c
  obtain rfl : inService = 0 := idle
  have cleared : ∀ i : Fin 8, ((0 : BitVec 8) ||| 1 <<< i.val) &&&
      (((0 : BitVec 8) ||| 1 <<< i.val) - 1) = 0 := by decide
  rw [writeCommand, if_pos rfl]
  exact congrArg (Chip.mk chip icw3) (cleared i)

/-- The vectors of the slave are those that the handler acknowledges to it. -/
theorem Chip.vectorOf_slave (offset : c.vectorOffset = icw2Sl) (i : Fin 8) :
    (c.vectorOf i).setWidth 64 ≥ (8 + 32 : BitVec 64) := by
  have all : ∀ i : Fin 8, ((icw2Sl &&& 0xF8 ||| BitVec.ofNat 8 i).setWidth 64 : BitVec 64) ≥
      8 + 32 := by decide
  rw [vectorOf, offset]
  exact all i

/-- One interrupt and its end leave the controllers as they were: whichever of them is in
service is told. -/
theorem Chips.Delivers.acknowledged (delivers : s.Delivers vector s') (served : s.Served)
    (vectors : s.SlaveVectors) : s'.acknowledge (vector.setWidth 64) = s := by
  obtain ⟨master, slave⟩ := s
  obtain ⟨masterIdle, slaveIdle⟩ : master.inService = 0 ∧ slave.inService = 0 := served
  have quiet : slave.writeCommand picEoi = slave := Chip.eoi_idle slaveIdle
  cases delivers with
  | own raises device =>
      simp only [acknowledge]
      split <;> simp [quiet, Chip.eoi_serve masterIdle]
  | slave raises cascades raises' =>
      rw [acknowledge, if_pos (Chip.vectorOf_slave (vectors raises'.1) _)]
      simp [Chip.eoi_serve masterIdle, Chip.eoi_serve slaveIdle]
  | slaveSpurious raises cascades listens =>
      rw [acknowledge, if_pos (Chip.vectorOf_slave (vectors listens) 7)]
      simp [quiet, Chip.eoi_serve masterIdle]
  | unanswered raises calls silent =>
      simp only [acknowledge]
      split <;> simp [quiet, Chip.eoi_serve masterIdle]
  | spurious listens =>
      simp only [acknowledge]
      split <;> simp [quiet, Chip.eoi_idle masterIdle]

theorem Chips.acknowledge_served (served : s.Served) (vector : BitVec 64) :
    s.acknowledge vector = s := by
  obtain ⟨master, slave⟩ := s
  obtain ⟨masterIdle, slaveIdle⟩ : master.inService = 0 ∧ slave.inService = 0 := served
  simp only [acknowledge]
  split <;> simp [Chip.eoi_idle masterIdle, Chip.eoi_idle slaveIdle]

theorem Chip.inService_writeCommand (idle : c.inService = 0) (value : BitVec 8) :
    (c.writeCommand value).inService = 0 := by
  rw [writeCommand]
  split
  · rw [idle]
    exact BitVec.zero_and
  · exact idle

theorem Chips.Served.write (served : s.Served) (port : Port) (value : BitVec 8) :
    (s.write port value).Served := by
  obtain ⟨masterIdle, slaveIdle⟩ := served
  rw [Chips.write]
  split
  · exact ⟨Chip.inService_writeCommand masterIdle value, slaveIdle⟩
  · split
    · exact ⟨masterIdle, slaveIdle⟩
    · split
      · exact ⟨masterIdle, Chip.inService_writeCommand slaveIdle value⟩
      · split
        · exact ⟨masterIdle, slaveIdle⟩
        · exact ⟨masterIdle, slaveIdle⟩

theorem Chips.write_unrelated {port : Port} (unrelated : UnrelatedPort port) (value : BitVec 8) :
    s.write port value = s := by
  obtain ⟨commandMaster, dataMaster, commandSlave, dataSlave⟩ := unrelated
  rw [Chips.write, if_neg commandMaster, if_neg dataMaster, if_neg commandSlave, if_neg dataSlave]

end Acknowledge

end Flosp.Kernel
