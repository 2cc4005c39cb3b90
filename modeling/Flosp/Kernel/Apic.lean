import Flosp.Kernel.Drivers

/-! The registers of the LAPIC and the legacy interrupt controllers (`cpu/apic.c`,
`inc/cpu/apic.h`). -/

namespace Flosp.Kernel

open Interaction

def spuriousVector : Addr := 0xF0
def apicEoi : Addr := 0x0B0
def apicLvtTimer : Addr := 0x320
def apicTimerInitialCount : Addr := 0x380
def apicTimerCurrentCount : Addr := 0x390
def apicTimerDivider : Addr := 0x3E0
def apicDisable : BitVec 32 := 0x10000
def apicTimerModePeriodic : BitVec 32 := 0x20000

def lapicReadReg (reg : Addr) : Driver (BitVec 32) := loadVolatile reg 4

def lapicWriteReg (reg : Addr) (val : BitVec 32) : Driver Unit := storeVolatile reg 4 val

/-- Start of an initialization sequence, with an ICW 4. -/
def icw1 : BitVec 8 := 0x11
/-- The vectors of the two controllers. -/
def icw2Ma : BitVec 8 := 0x20
def icw2Sl : BitVec 8 := 0x28
def icw3Ma : BitVec 8 := 0x02
def icw3Sl : BitVec 8 := 0x04
/-- 8086 mode -/
def icw4 : BitVec 8 := 0x01

def disablePic8259 : Driver Unit := do
  outb picCommandMaster icw1
  outb picCommandSlave icw1
  outb picDataMaster icw2Ma
  outb picDataSlave icw2Sl
  outb picDataMaster icw3Ma
  outb picDataSlave icw3Sl
  outb picDataMaster icw4
  outb picDataSlave icw4
  -- the masks are taken to be those of `idt_init`

end Flosp.Kernel
