import Flosp.Kernel.Memcpy
import Flosp.Lib.Task

/-! What the kernel's drivers ask of the machine: port and memory accesses, readings of the
tick counter, console output and interrupt control (`drivers/io.c`, `inc/drivers/io.h`). -/

namespace Flosp.Kernel

open Interaction

abbrev Port := BitVec 16

/-- A call of the console. -/
inductive ConsoleCall where
  | kernLog (filter : BitVec 8) (msg : String)
  | kprint (msg : String)
  | kputchar (c : BitVec 8)
  | kprintHex (h : BitVec 64) (zeroX : Bool)
  | kprintBin (b : BitVec 64) (sizeB : BitVec 8)
  | backspace
  deriving DecidableEq, Repr

/-- Which function reads `ticks`. -/
inductive TickReader where
  | portWriteData
  | polRecieveByte
  /-- the start of `ps2_wait_for_ack` -/
  | waitStart
  /-- `get_uptime_seconds` in `ps2_wait_for_ack` -/
  | waitCheck
  | portIdentify
  | sleepTimer
  deriving DecidableEq, Repr

/-- The operand of `lidt`. -/
structure Idtr where
  limit : BitVec 16
  base : Addr
  deriving DecidableEq, Repr

inductive Op where
  | inb (port : Port)
  | outb (port : Port) (value : BitVec 8)
  | load (a : Addr) (n : Nat)
  | store (a : Addr) (n : Nat) (v : BitVec (8 * n))
  /-- an access through a `volatile` pointer: to the register of a device -/
  | loadVolatile (a : Addr) (n : Nat)
  | storeVolatile (a : Addr) (n : Nat) (v : BitVec (8 * n))
  | readTicks (reader : TickReader)
  /-- `lapic_timer_enabled = true`, which `timer_handler` reads -/
  | enableLapicTimer
  | console (c : ConsoleCall)
  | lidt (idtr : Idtr)
  | sti

def Reply : Op → Type
  | .inb _ => BitVec 8
  | .load _ n | .loadVolatile _ n => BitVec (8 * n)
  | .readTicks _ => BitVec 64
  | .outb .. | .store .. | .storeVolatile .. | .enableLapicTimer | .console _ | .lidt _ | .sti =>
      Unit

abbrev Driver (α : Type) := Task Op Reply α
abbrev DriverEvent := Event Op Reply

def inb (port : Port) : Driver (BitVec 8) := Task.perform (Op.inb port)

def outb (port : Port) (value : BitVec 8) : Driver Unit := Task.perform (Op.outb port value)

/-- A read through a pointer. -/
def loadAt (a : Addr) (n : Nat) : Driver (BitVec (8 * n)) := Task.perform (Op.load a n)

def loadVolatile (a : Addr) (n : Nat) : Driver (BitVec (8 * n)) :=
  Task.perform (Op.loadVolatile a n)

def storeVolatile (a : Addr) (n : Nat) (v : BitVec (8 * n)) : Driver Unit :=
  Task.perform (Op.storeVolatile a n v)

def readTicks (reader : TickReader) : Driver (BitVec 64) := Task.perform (Op.readTicks reader)

def console (c : ConsoleCall) : Driver Unit := Task.perform (Op.console c)

def logDebug (msg : String) : Driver Unit := console (.kernLog 1 msg)
def logWarning (msg : String) : Driver Unit := console (.kernLog 3 msg)
def logError (msg : String) : Driver Unit := console (.kernLog 4 msg)

def picCommandMaster : Port := 0x20
def picDataMaster : Port := 0x21
def picCommandSlave : Port := 0xA0
def picDataSlave : Port := 0xA1

/-- The values written to ports, in order. -/
def portWrites (t : List DriverEvent) : List (Port × BitVec 8) :=
  t.filterMap fun e =>
    match e.op with
    | .outb port value => some (port, value)
    | _ => none

@[simp] theorem portWrites_nil : portWrites [] = [] := rfl

@[simp] theorem portWrites_append (t₁ t₂ : List DriverEvent) :
    portWrites (t₁ ++ t₂) = portWrites t₁ ++ portWrites t₂ := List.filterMap_append ..

end Flosp.Kernel
