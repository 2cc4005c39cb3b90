import Flosp.Kernel.Isr

/-! The GDT (`cpu/gdt64.s`) and the reload of the segment registers (`cpu/gdt64_init.s`). -/

namespace Flosp.Kernel

open ByteMemory

/-- `dw limit, base` and `db base16, flags1, flags2, base24` -/
def gdtEntry (limit base : BitVec 16) (base16 flags1 flags2 base24 : BitVec 8) : BitVec 64 :=
  base24 ++ flags2 ++ flags1 ++ base16 ++ base ++ limit

def gdt64Null : BitVec 64 := 0x0
def gdt64Code : BitVec 64 := gdtEntry 0xffff 0x0 0x0 0b10011010 0b10101111 0x0
def gdt64Data : BitVec 64 := gdtEntry 0xffff 0x0 0x0 0b10010010 0b11001111 0x0
/-- `dd 0x00000068` and `dd 0x00CF8900` -/
def gdt64Tss : BitVec 64 := (0x00CF8900 : BitVec 32) ++ (0x00000068 : BitVec 32)

/-- The table from `gdt64_start` to `gdt64_end`. -/
def gdt64 : List (BitVec 64) := [gdt64Null, gdt64Code, gdt64Data, gdt64Tss]

def codeSeg64 : BitVec 16 := 8
def dataSeg64 : BitVec 16 := 16

/-! The bits of a descriptor. -/

namespace Descriptor

def accessed (d : BitVec 64) : BitVec 64 := d ||| 1 <<< 40
/-- Readable if it is a code segment. -/
def writable (d : BitVec 64) : Bool := d.getLsbD 41
def conforming (d : BitVec 64) : Bool := d.getLsbD 42
def executable (d : BitVec 64) : Bool := d.getLsbD 43
/-- No system segment. -/
def ordinary (d : BitVec 64) : Bool := d.getLsbD 44
def privilege (d : BitVec 64) : BitVec 2 := d.extractLsb' 45 2
def present (d : BitVec 64) : Bool := d.getLsbD 47
/-- 64-bit code. -/
def long (d : BitVec 64) : Bool := d.getLsbD 53
def default32 (d : BitVec 64) : Bool := d.getLsbD 54

/-- What the CPU runs in 64-bit mode at the highest privilege. -/
def kernelCode (d : BitVec 64) : Bool :=
  ordinary d && executable d && !conforming d && privilege d == 0 && present d && long d &&
    !default32 d

/-- What the highest privilege may have in every other segment register, `ss` included. -/
def kernelData (d : BitVec 64) : Bool :=
  ordinary d && !executable d && writable d && privilege d == 0 && present d

end Descriptor

inductive SegmentRegister where
  | cs | ds | es | fs | gs | ss
  deriving DecidableEq, Repr

/-- A segment register with the descriptor that was read when it was loaded. -/
structure Segment where
  selector : BitVec 16
  descriptor : BitVec 64
  deriving DecidableEq, Repr

structure Gdtr where
  limit : BitVec 16
  base : Addr
  deriving DecidableEq, Repr

/-- The CPU at the highest privilege, with what `gdt_init_asm` uses of it. -/
structure SegmentedCpu extends Cpu where
  rip : Addr
  rflags : BitVec 64
  gdtr : Gdtr
  segments : SegmentRegister → Segment

/-- The instructions of `gdt_init_asm`. -/
inductive SegmentInstr where
  | lgdt (a : Addr)
  | mov (dest source : Register)
  | pushImm (value : BitVec 64)
  | push (source : Register)
  | pushfq
  | iretq
  | movAx (value : BitVec 16)
  /-- `mov dest,ax` -/
  | movSegment (dest : SegmentRegister)
  | ret
  deriving DecidableEq, Repr

/-- The lines of `gdt_init_asm`, with the addresses of `gdt64_descriptor` and `segments_init`. -/
def gdtInitAsm (gdt64Descriptor segmentsInit : Addr) : List SegmentInstr :=
  [.lgdt gdt64Descriptor,
    .mov .rax .rsp,
    .pushImm (dataSeg64.setWidth 64),
    .push .rax,
    .pushfq,
    .pushImm (codeSeg64.setWidth 64),
    .pushImm segmentsInit,
    .iretq,
    -- segments_init
    .movAx dataSeg64,
    .movSegment .ds,
    .movSegment .ss,
    .movSegment .es,
    .movSegment .fs,
    .movSegment .gs,
    .ret]

namespace SegmentedCpu

/-- A selector for the GDT is loaded unless the table ends before its descriptor, its requested
privilege is too low or the descriptor is of another kind. The CPU marks what it has loaded. -/
def loadSegment (kind : BitVec 64 → Bool) (r : SegmentRegister) (selector : BitVec 16)
    (c : SegmentedCpu) : Option SegmentedCpu :=
  let a := c.gdtr.base + selector.setWidth 64
  let d : BitVec 64 := load c.mem a 8
  if selector &&& 7 = 0 ∧ selector.toNat + 7 ≤ c.gdtr.limit.toNat ∧ kind d = true then
    some { c with
      mem := store c.mem a (n := 8) (Descriptor.accessed d)
      segments := Function.update c.segments r ⟨selector, Descriptor.accessed d⟩ }
  else none

/-- The flags VM and RF are pushed as 0. -/
def pushedFlags (c : SegmentedCpu) : BitVec 64 := c.rflags &&& ~~~0x30000

/-- Word `i` from the top of the stack. -/
def stackWord (c : SegmentedCpu) (i : Nat) : BitVec 64 :=
  load c.mem (c.regs .rsp + BitVec.ofNat 64 (8 * i)) 8

/-- `iretq` takes `rip`, `cs`, `rflags`, `rsp` and `ss` from the stack. -/
def iretq (c : SegmentedCpu) : Option SegmentedCpu := do
  let loaded ← c.loadSegment Descriptor.kernelCode .cs ((c.stackWord 1).setWidth 16)
  let loaded ← loaded.loadSegment Descriptor.kernelData .ss ((c.stackWord 4).setWidth 16)
  return { loaded with
    regs := Function.update c.regs .rsp (c.stackWord 3)
    rip := c.stackWord 0
    rflags := c.stackWord 2 }

end SegmentedCpu

/-- What an instruction does before the one at `next`, unless it raises an exception. -/
def SegmentInstr.exec (next : Addr) (c : SegmentedCpu) : SegmentInstr → Option SegmentedCpu
  | .lgdt a => some { c with gdtr := ⟨load c.mem a 2, load c.mem (a + 2) 8⟩, rip := next }
  | .mov dest source => some { c.set dest (c.regs source), c with rip := next }
  | .pushImm value => some { c.push value, c with rip := next }
  | .push source => some { c.push (c.regs source), c with rip := next }
  | .pushfq => some { c.push c.pushedFlags, c with rip := next }
  | .iretq => c.iretq
  | .movAx value =>
      let rax : BitVec 64 := (c.regs .rax).extractLsb' 16 48 ++ value
      some { c.set .rax rax, c with rip := next }
  | .movSegment dest => do
      let c ← c.loadSegment Descriptor.kernelData dest ((c.regs .rax).setWidth 16)
      return { c with rip := next }
  | .ret => some { c.set .rsp (c.regs .rsp + 8), c with rip := c.stackWord 0 }

/-- One step of the CPU. `fetch` finds an instruction and the address of the one behind it. -/
def segmentStep (fetch : Addr → Option (SegmentInstr × Addr)) (c c' : SegmentedCpu) : Prop :=
  ∃ i next, fetch c.rip = some (i, next) ∧ i.exec next c = some c'

end Flosp.Kernel
