import Flosp.Kernel.Console

/-! Page table entries and their flags (`drivers/mem.c`), and `initialize_video`
(`drivers/vga.c`), which sets them for the framebuffer. -/

namespace Flosp.Kernel

open ByteMemory

def pflagPat : BitVec 64 := 1 <<< 12

def pageAddrMask : BitVec 64 := 0x000ffffffffff000

/-- `&table->entries[index]` -/
def entryAddr (table index : BitVec 64) : Addr := table + 8 * index

def loadEntry (a : Addr) (m : KernelMachine) : BitVec 64 × KernelMachine := m.load .pageTable a 8

/-- `cr3` is what `read_cr3()` returns. -/
def getMemPage (cr3 addr : BitVec 64) (m : KernelMachine) : Addr × KernelMachine :=
  let pml4 := cr3 &&& 0xFFFFFFFFFFFFF000
  let pml4Index := addr >>> 39 &&& 0b111111111
  let (pml4Entry, m) := loadEntry (entryAddr pml4 pml4Index) m
  let pdp := pml4Entry &&& pageAddrMask
  let pdpIndex := addr >>> 30 &&& 0b111111111
  let (pdpEntry, m) := loadEntry (entryAddr pdp pdpIndex) m
  if pdpEntry >>> 7 &&& 0x1 ≠ 0 then
    (entryAddr pdp pdpIndex, m)
  else
    let (pdpEntry, m) := loadEntry (entryAddr pdp pdpIndex) m
    let pd := pdpEntry &&& pageAddrMask
    let pdIndex := addr >>> 21 &&& 0b111111111
    let (pdEntry, m) := loadEntry (entryAddr pd pdIndex) m
    if pdEntry >>> 7 &&& 0x1 ≠ 0 then
      (entryAddr pd pdIndex, m)
    else
      let (pdEntry, m) := loadEntry (entryAddr pd pdIndex) m
      let pt := pdEntry &&& pageAddrMask
      let ptIndex := addr >>> 12 &&& 0b111111111
      (entryAddr pt ptIndex, m)

/-- `kprint_hex(*page, true)` -/
def kprintEntry (page : Addr) (k : Console) : Outcome Console :=
  let (entry, machine) := loadEntry page k.machine
  kprintHex entry true { k with machine }

/-- `(*page) |= flags` -/
def orEntry (page : Addr) (flags : BitVec 64) (k : Console) : Console :=
  let (entry, machine) := loadEntry page k.machine
  { k with machine := machine.store .pageTable page (n := 8) (entry ||| flags) }

def setMemPageFlags (cr3 addr flags : BitVec 64) (k : Console) : Outcome Console := do
  let walk := getMemPage cr3 addr k.machine
  let page := walk.1
  let k := blankOutput { k with machine := walk.2 }
  let k ← kprint (ascii "\nAddress:    ") k
  let k ← kprintHex addr true k
  let k ← kprint (ascii "\nPage_Addr:  ") k
  let k ← kprintHex page true k
  let k ← kprint (ascii "\nPage:       ") k
  let k ← kprintEntry page k
  let k ← kprint (ascii "\nFlags:      ") k
  let k ← kprintHex flags true k
  let k := flushFramebuffer k
  let k := orEntry page flags k
  let k ← kprint (ascii "\nPage(Post): ") k
  let k ← kprintEntry page k
  let k := flushFramebuffer k
  let k := blankOutput k
  return flushFramebuffer k

/-- The loop of `initialize_video` over the bytes of the framebuffer, `turns` of them left. -/
def flagFramebuffer (cr3 : BitVec 64) : Nat → BitVec 64 → Console → Outcome Console
  | 0, _, k => .ok k
  | turns + 1, i, k => do
      let k ← setMemPageFlags cr3 (k.videoModeInfo.framebufferPointer + i) pflagPat k
      flagFramebuffer cr3 turns (i + 1) k

def initializeVideo (cr3 : BitVec 64) (vmi : BootVideoModeInfo) (k : Console) :
    Outcome Console := do
  let framebufferInfo : FramebufferInfo :=
    { width := vmi.pixelsPerScanline
      height := vmi.verticalResolution
      pitch := vmi.pixelsPerScanline * 4
      depth := 32 }
  let k := { k with
    videoModeInfo := vmi
    framebufferInfo
    maxTextLine := (framebufferInfo.height / k.fontSize.setWidth 32 - 1).setWidth 16 }
  let k ← flagFramebuffer cr3 (framebufferInfo.width * framebufferInfo.height * 4).toNat 0 k
  return blankOutput k

end Flosp.Kernel
