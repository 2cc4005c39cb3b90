import Flosp.Kernel.Drivers
import Flosp.Kernel.Isr

/-! The interrupt descriptor table (`cpu/idt.c`, `inc/cpu/idt.h`). -/

namespace Flosp.Kernel

open ByteMemory Interaction

structure IdtEntry where
  isrLow : BitVec 16
  kernelCs : BitVec 16
  ist : BitVec 8
  attributes : BitVec 8
  isrMid : BitVec 16
  isrHigh : BitVec 32
  reserved : BitVec 32
  deriving DecidableEq, Repr

namespace IdtEntry

/-- Bit 7 of the attributes. -/
def present (e : IdtEntry) : Bool := e.attributes.getLsbD 7

def handler (e : IdtEntry) : Nat :=
  e.isrLow.toNat + e.isrMid.toNat * 2 ^ 16 + e.isrHigh.toNat * 2 ^ 32

end IdtEntry

/-- The `MAX_IDT_ENTRIES` entries by their vector. -/
abbrev Idt := BitVec 8 → IdtEntry

def Idt.loaded : Idt := fun _ => ⟨0, 0, 0, 0, 0, 0, 0⟩

def idtSetDescriptor (vect : BitVec 8) (isr : Addr) (flags : BitVec 8) (idt : Idt) : Idt :=
  Function.update idt vect
    { isrLow := (isr &&& 0xFFFF).setWidth 16
      kernelCs := 0x08
      ist := 0
      attributes := flags
      isrMid := ((isr >>> 16) &&& 0xFFFF).setWidth 16
      isrHigh := ((isr >>> 32) &&& 0xFFFFFFFF).setWidth 32
      reserved := 0 }

/-- `isr_stub_table[vect]` -/
def loadStub (isrStubTable : Addr) (vect : BitVec 8) : Driver Addr :=
  loadAt (isrStubTable + 8 * vect.setWidth 64) 8

/-- One of the two loops of `idt_init`, with `turns` vectors left. -/
def setDescriptors (isrStubTable : Addr) : Nat → BitVec 8 → Idt → Driver Idt
  | 0, _, idt => return idt
  | turns + 1, vect, idt => do
      let isr ← loadStub isrStubTable vect
      setDescriptors isrStubTable turns (vect + 1) (idtSetDescriptor vect isr 0x8E idt)

def maskPicInterrupts : Driver Unit := do
  outb picDataMaster 0xFF
  outb picDataSlave 0xFF

/-- `sizeof(idt_entry_t) * MAX_IDT_ENTRIES - 1` -/
def idtLimit : BitVec 16 := 16 * 256 - 1

/-- `base` is the address of `idt`. -/
def idtInit (isrStubTable base : Addr) (idt : Idt) : Driver Idt := do
  logDebug "Debug: Defining and setting IDT entries"
  -- Set reserved interrupts
  let idt ← setDescriptors isrStubTable 32 0 idt
  -- Set IRQs
  let idt ← setDescriptors isrStubTable 16 32 idt
  logDebug "Debug: Masking PIC interrupts"
  maskPicInterrupts
  logDebug "Debug: Loading IDT"
  Task.perform (Op.lidt ⟨idtLimit, base⟩)
  logDebug "Debug: Setting interrupt flag"
  Task.perform Op.sti
  return idt

end Flosp.Kernel
