import Flosp.Kernel.Idt
import Flosp.Kernel.Timers
import Flosp.Lib.Embedding

/-! The kernel from its entry to the loop that halts (`kernel/kernel.c`, `kernel/sysprompt.c`,
`enable_lapic` in `cpu/apic.c`). -/

namespace Flosp.Kernel

open Interaction

/-- What `main` asks of the machine: what its drivers ask, calls of functions that have models
of their own, and privileged instructions. -/
inductive KernelOp where
  | driver (o : Op)
  | initializeVideo (vmi : Addr)
  | kscrollDown
  | kprintNum (n : BitVec 64)
  | acpiVcheck (xsdpTable : Addr)
  | acpiCcheck (xsdpTable : Addr)
  | acpiInit (xsdpTable : Addr)
  | getAcpiTables
  | getLapicAddressAcpi
  /-- `lapic_addr = a`, which `timer_handler` reads -/
  | setLapicAddr (a : Addr)
  | gdtInitAsm
  | cpuid (code : BitVec 32)
  /-- `lapic_set_base(lapic_get_base())` -/
  | enableLapicBase
  | cli
  | hlt

def KernelReply : KernelOp → Type
  | .driver o => Reply o
  | .getAcpiTables => AcpiTables
  | .getLapicAddressAcpi => Addr
  | .cpuid _ => BitVec 64
  | _ => Unit

abbrev KernelTask (α : Type) := Task KernelOp KernelReply α
abbrev KernelEvent := Event KernelOp KernelReply

/-- A driver's part of `main`. -/
def driver {α : Type} (p : Driver α) : KernelTask α := Task.embed .driver (fun _ reply => reply) p

def perform (o : KernelOp) : KernelTask (KernelReply o) := Task.perform o

def kernelLog (filter : BitVec 8) (msg : String) : KernelTask Unit :=
  driver (console (.kernLog filter msg))

/-- `cpu_freeze` -/
def kernelFreeze {α : Type} : KernelTask α := do
  kernelLog 5 "CPU Frozen"
  Task.iterate (fun _ : Unit => do
    perform .cli
    perform .hlt
    return .inl ()) ()

/-- `&boot_info->VideoModeInfo` and `&boot_info->XSDPTable` by their offsets -/
def videoModeInfoOffset : Addr := 24
def xsdpTableOffset : Addr := 56

def cpuidFeatEdxApic : BitVec 32 := 1 <<< 9

def gdtInit : KernelTask Unit := do
  kernelLog 1 "Debug: Loading GDT"
  perform .gdtInitAsm

def checkApic : KernelTask Unit := do
  let features : BitVec 64 ← perform (.cpuid 1)
  let edx : BitVec 32 := (features >>> 32).setWidth 32
  if edx &&& cpuidFeatEdxApic = 0 then
    kernelLog 5 "APIC Not Supported"
    kernelFreeze

def enableLapic : KernelTask Addr := do
  kernelLog 1 "Debug: Checking for APIC support"
  checkApic
  kernelLog 1 "Debug: Disabling PIC8259 and masking its interrupts"
  driver disablePic8259
  let lapicAddr : Addr ← perform .getLapicAddressAcpi
  perform (.setLapicAddr lapicAddr)
  driver (console (.kprint "Debug: Found LAPIC address at: "))
  driver (console (.kprintHex lapicAddr true))
  driver (console (.kputchar 10))
  kernelLog 1 "Debug: Enabling the LAPIC if it was not already done"
  perform .enableLapicBase
  kernelLog 1 "Debug: Setting the Spurious bit to start recieving interrupts"
  -- Set bit 8, enable local APIC
  let spurious ← driver (lapicReadReg (lapicAddr + spuriousVector))
  driver (lapicWriteReg (lapicAddr + spuriousVector) (spurious ||| 0x100))
  return lapicAddr

/-- The loop of `enter_sysprompt`, with `turns` numbers left. -/
def printNumbers : Nat → BitVec 32 → KernelTask Unit
  | 0, _ => return ()
  | turns + 1, i => do
      perform (.kprintNum (i.setWidth 64))
      driver (console (.kputchar 10))
      printNumbers turns (i + 1)

def enterSysprompt : KernelTask Unit := do
  driver (console (.kprint "C:\\> "))
  printNumbers 1000 0

/-- "Halt execution" -/
def haltForever {α : Type} : KernelTask α :=
  Task.iterate (fun _ : Unit => do
    perform .hlt
    return .inl ()) ()

/-- `main` up to the return of `acpi_init` -/
def findTables (bootInfo : Addr) : KernelTask Unit := do
  let xsdpTable ← driver (loadAt (bootInfo + xsdpTableOffset) 8)
  if xsdpTable = 0 then
    kernelLog 5 "Fatal: Invalid ACPI XSDP address"
    kernelFreeze
  let xsdpTable ← driver (loadAt (bootInfo + xsdpTableOffset) 8)
  perform (.acpiVcheck xsdpTable)
  let xsdpTable ← driver (loadAt (bootInfo + xsdpTableOffset) 8)
  perform (.acpiCcheck xsdpTable)
  let xsdpTable ← driver (loadAt (bootInfo + xsdpTableOffset) 8)
  perform (.acpiInit xsdpTable)
  kernelLog 2 "ACPI enabled"

/-- `main` from "LAPIC" on -/
def startTimers : KernelTask Unit := do
  let lapicAddr ← enableLapic
  kernelLog 2 "LAPIC enabled"
  kernelLog 1 "Debug: Initializing the system timer for kernel usage"
  let tables : AcpiTables ← perform .getAcpiTables
  let _ ← driver (timersInit tables lapicAddr Hpet.loaded)

/-- `kver` is the version that the build sets; `isrStubTable` and `idt` are the addresses of the
table of stubs and of the IDT. -/
def main (kver : String) (isrStubTable idt bootInfo : Addr) : KernelTask Unit := do
  perform (.initializeVideo (bootInfo + videoModeInfoOffset))
  kernelLog 2 ("Kernel flosp-" ++ kver ++ " loaded")
  gdtInit
  kernelLog 2 "GDT initialized"
  let _ ← driver (idtInit isrStubTable idt Idt.loaded)
  kernelLog 2 "IDT initialized and interrupts enabled"
  findTables bootInfo
  startTimers
  perform .kscrollDown
  enterSysprompt
  haltForever

end Flosp.Kernel
