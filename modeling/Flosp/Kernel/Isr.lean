import Flosp.Kernel.Memcpy

/-! The interrupt service routines (`cpu/isr.s`) and the structure they hand to
`interrupt_handler` (`inc/cpu/cpu.h`). -/

namespace Flosp.Kernel

open ByteMemory

inductive Register where
  | rax | rbx | rcx | rdx | rbp | rsp | rsi | rdi
  | r8 | r9 | r10 | r11 | r12 | r13 | r14 | r15
  deriving DecidableEq, Repr

/-- The instructions of the stubs. -/
inductive Instr where
  | pushImm (value : BitVec 64)
  | push (source : Register)
  | pop (dest : Register)
  | mov (dest source : Register)
  | addImm (dest : Register) (value : BitVec 64)
  | callInterruptHandler
  | iretq
  deriving DecidableEq, Repr

/-- The lines that the three stub macros share, from "Save all registers" on. -/
def saveAndHandle : List Instr :=
  [.push .rax, .push .rbx, .push .rcx, .push .rdx, .push .rbp, .push .rsp, .push .rsi, .push .rdi,
    .push .r8, .push .r9, .push .r10, .push .r11, .push .r12, .push .r13, .push .r14, .push .r15,
    .mov .rdi .rsp,
    .callInterruptHandler,
    .mov .rsp .rax,
    .pop .r15, .pop .r14, .pop .r13, .pop .r12, .pop .r11, .pop .r10, .pop .r9, .pop .r8,
    .pop .rdi, .pop .rsi, .pop .rsp, .pop .rbp, .pop .rdx, .pop .rcx, .pop .rbx, .pop .rax,
    .addImm .rsp 24,
    .iretq]

/-- The error code was pushed by the CPU. -/
def isrErrStub (n : Nat) : List Instr :=
  [.pushImm 1, .pushImm (BitVec.ofNat 64 n)] ++ saveAndHandle

def isrNoErrStub (n : Nat) : List Instr :=
  [.pushImm 0, .pushImm 0, .pushImm (BitVec.ofNat 64 n)] ++ saveAndHandle

def irqStub (n : Nat) : List Instr :=
  [.pushImm 0, .pushImm 0, .pushImm (BitVec.ofNat 64 (n + 32))] ++ saveAndHandle

inductive StubMacro where
  | isrErr
  | isrNoErr
  | irq
  deriving DecidableEq, Repr

/-- The labels `isr_stub_` and `irq_stub_` with the macro's argument. -/
inductive Label where
  | isrStub (n : Nat)
  | irqStub (n : Nat)
  deriving DecidableEq, Repr

/-- One line of the list of stubs. -/
structure Stub where
  stubMacro : StubMacro
  argument : Nat
  deriving DecidableEq, Repr

namespace Stub

def code (s : Stub) : List Instr :=
  match s.stubMacro with
  | .isrErr => isrErrStub s.argument
  | .isrNoErr => isrNoErrStub s.argument
  | .irq => Kernel.irqStub s.argument

def label (s : Stub) : Label :=
  match s.stubMacro with
  | .isrErr => .isrStub s.argument
  | .isrNoErr => .isrStub s.argument
  | .irq => .irqStub s.argument

def vector (s : Stub) : Option (BitVec 64) :=
  (s.code.filterMap fun
    | .pushImm value => some value
    | _ => none).getLast?

end Stub

/-- The stubs in the order in which they are assembled. -/
def stubs : List Stub :=
  [⟨.isrNoErr, 0⟩, ⟨.isrNoErr, 1⟩, ⟨.isrNoErr, 2⟩, ⟨.isrNoErr, 3⟩, ⟨.isrNoErr, 4⟩, ⟨.isrNoErr, 5⟩,
    ⟨.isrNoErr, 6⟩, ⟨.isrNoErr, 7⟩, ⟨.isrErr, 8⟩, ⟨.isrNoErr, 9⟩, ⟨.isrErr, 10⟩, ⟨.isrErr, 11⟩,
    ⟨.isrErr, 12⟩, ⟨.isrErr, 13⟩, ⟨.isrErr, 14⟩, ⟨.isrNoErr, 15⟩, ⟨.isrNoErr, 16⟩, ⟨.isrErr, 17⟩,
    ⟨.isrNoErr, 18⟩, ⟨.isrNoErr, 19⟩, ⟨.isrNoErr, 20⟩, ⟨.isrNoErr, 21⟩, ⟨.isrNoErr, 22⟩,
    ⟨.isrNoErr, 23⟩, ⟨.isrNoErr, 24⟩, ⟨.isrNoErr, 25⟩, ⟨.isrNoErr, 26⟩, ⟨.isrNoErr, 27⟩,
    ⟨.isrNoErr, 28⟩, ⟨.isrNoErr, 29⟩, ⟨.isrErr, 30⟩, ⟨.isrNoErr, 31⟩,
    ⟨.irq, 0⟩, ⟨.irq, 1⟩, ⟨.irq, 2⟩, ⟨.irq, 3⟩, ⟨.irq, 4⟩, ⟨.irq, 5⟩, ⟨.irq, 6⟩, ⟨.irq, 7⟩,
    ⟨.irq, 8⟩, ⟨.irq, 9⟩, ⟨.irq, 10⟩, ⟨.irq, 11⟩, ⟨.irq, 12⟩, ⟨.irq, 13⟩, ⟨.irq, 14⟩, ⟨.irq, 15⟩]

/-- The labels of `isr_stub_table`: `%rep 32` and then `%rep 15`. -/
def isrStubTable : List Label :=
  (List.range 32).map .isrStub ++ (List.range 15).map .irqStub

/-! The machine that runs a stub. -/

structure Cpu where
  regs : Register → BitVec 64
  mem : Memory 64

namespace Cpu

def set (c : Cpu) (r : Register) (value : BitVec 64) : Cpu :=
  { c with regs := Function.update c.regs r value }

def push (c : Cpu) (value : BitVec 64) : Cpu where
  regs := Function.update c.regs .rsp (c.regs .rsp - 8)
  mem := store c.mem (c.regs .rsp - 8) (n := 8) value

/-- `pop rsp` leaves the value that was read in `rsp`. -/
def pop (c : Cpu) (dest : Register) : Cpu :=
  (c.set .rsp (c.regs .rsp + 8)).set dest (load c.mem (c.regs .rsp) 8)

end Cpu

/-- `handler` is what the call of `interrupt_handler` does to the machine until it returns.
`push rsp` stores the value from before the push. -/
def Instr.exec (handler : Cpu → Cpu) (c : Cpu) : Instr → Cpu
  | .pushImm value => c.push value
  | .push source => c.push (c.regs source)
  | .pop dest => c.pop dest
  | .mov dest source => c.set dest (c.regs source)
  | .addImm dest value => c.set dest (c.regs dest + value)
  | .callInterruptHandler => handler c
  | .iretq => c

/-- The machine as it comes to the first instruction `stop`. -/
def runTo (handler : Cpu → Cpu) (stop : Instr) : List Instr → Cpu → Option Cpu
  | [], _ => none
  | i :: code, c => if i = stop then some c else runTo handler stop code (i.exec handler c)

/-- `cpu_status_t` -/
structure CpuStatus where
  r15 : BitVec 64
  r14 : BitVec 64
  r13 : BitVec 64
  r12 : BitVec 64
  r11 : BitVec 64
  r10 : BitVec 64
  r9 : BitVec 64
  r8 : BitVec 64
  rdi : BitVec 64
  rsi : BitVec 64
  rsp : BitVec 64
  rbp : BitVec 64
  rdx : BitVec 64
  rcx : BitVec 64
  rbx : BitVec 64
  rax : BitVec 64
  intVector : BitVec 64
  error : BitVec 64
  errorCode : BitVec 64
  iretqRip : BitVec 64
  iretqCs : BitVec 64
  iretqFlags : BitVec 64
  iretqRsp : BitVec 64
  iretqSs : BitVec 64
  deriving DecidableEq, Repr

/-- `*(cpu_status_t*)p`: the members follow each other without padding. -/
def CpuStatus.read (mem : Memory 64) (p : Addr) : CpuStatus :=
  let member (i : Nat) : BitVec 64 := load mem (p + BitVec.ofNat 64 (8 * i)) 8
  { r15 := member 0, r14 := member 1, r13 := member 2, r12 := member 3,
    r11 := member 4, r10 := member 5, r9 := member 6, r8 := member 7,
    rdi := member 8, rsi := member 9, rsp := member 10, rbp := member 11,
    rdx := member 12, rcx := member 13, rbx := member 14, rax := member 15,
    intVector := member 16, error := member 17, errorCode := member 18,
    iretqRip := member 19, iretqCs := member 20, iretqFlags := member 21,
    iretqRsp := member 22, iretqSs := member 23 }

/-- `sizeof(cpu_status_t)` -/
def cpuStatusSize : Nat := 192

end Flosp.Kernel
