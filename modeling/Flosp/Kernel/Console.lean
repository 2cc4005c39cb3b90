import Flosp.Kernel.Font
import Flosp.Kernel.Memcpy
import Flosp.Numeral

/-! The pixel console (`drivers/vga.c`), the kernel log (`kernel/message.c`) and
`cpu_freeze` (`kernel/power_mgmt.c`). -/

namespace Flosp.Kernel

open ByteMemory

def rgb (r g b : BitVec 32) : BitVec 32 := r <<< 16 ||| g <<< 8 ||| b

structure BootVideoModeInfo where
  framebufferPointer : Addr
  backbufferPointer : Addr
  horizontalResolution : BitVec 32
  verticalResolution : BitVec 32
  pixelsPerScanline : BitVec 32

structure FramebufferInfo where
  width : BitVec 32
  height : BitVec 32
  pitch : BitVec 32
  depth : BitVec 32

/-- The machine and the globals of `vga.c`. -/
structure Console where
  machine : KernelMachine
  framebufferInfo : FramebufferInfo
  videoModeInfo : BootVideoModeInfo
  textColPx : BitVec 16
  textLine : BitVec 16
  maxTextLine : BitVec 16
  textColor : BitVec 32
  backgroundColor : BitVec 32
  fontSize : BitVec 8

/-- The globals as the kernel is loaded; `VideoModeInfo` points nowhere. -/
def Console.loaded (machine : KernelMachine) : Console where
  machine := machine
  framebufferInfo := ⟨0, 0, 0, 0⟩
  videoModeInfo := ⟨0, 0, 0, 0, 0⟩
  textColPx := 0
  textLine := 0
  maxTextLine := 0
  textColor := rgb 255 255 255
  backgroundColor := rgb 0 0 0
  fontSize := 16

/-- How the kernel fails to return: halted with interrupts off, or in a loop without end. -/
inductive Stop where
  | frozen (k : Console)
  | endless

abbrev Outcome := Except Stop

/-- The distance of `n` elements of a `ui32_t*`. -/
def pixels (n : BitVec 64) : BitVec 64 := 4 * n

namespace Console

/-- `framebuffer_info.width` as an offset of a `ui32_t*` -/
def rowBytes (k : Console) : BitVec 64 := pixels (k.framebufferInfo.width.setWidth 64)

/-- `*pos = color` -/
def storePixel (k : Console) (pos : Addr) (color : BitVec 32) : Console :=
  { k with machine := k.machine.store .draw pos (n := 4) color }

end Console

def flushFramebuffer (k : Console) : Console :=
  { k with
    machine := (memcpy .flush k.videoModeInfo.backbufferPointer k.videoModeInfo.framebufferPointer
      (k.videoModeInfo.pixelsPerScanline * k.videoModeInfo.horizontalResolution * 4) k.machine).2 }

/-- The inner loop of `blank_output`, with `turns` columns left. -/
def blankColumns (row : BitVec 64) : Nat → BitVec 64 → Console → Console
  | 0, _, k => k
  | turns + 1, col, k =>
      let pos := k.videoModeInfo.backbufferPointer
      let pos := pos + pixels (row * k.framebufferInfo.width.setWidth 64)
      let pos := pos + pixels col
      blankColumns row turns (col + 1) (k.storePixel pos (rgb 0 0 0))

/-- The outer loop of `blank_output`, with `turns` rows left. -/
def blankRows : Nat → BitVec 64 → Console → Console
  | 0, _, k => k
  | turns + 1, row, k =>
      blankRows turns (row + 1) (blankColumns row k.framebufferInfo.width.toNat 0 k)

def blankOutput (k : Console) : Console :=
  let k := blankRows k.framebufferInfo.height.toNat 0 k
  { k with textLine := 0, textColPx := 0 }

/-- The first loop of `kscroll_down`, with `turns` rows left. -/
def scrollRows : Nat → Addr → Console → Console
  | 0, _, k => k
  | turns + 1, pos, k =>
      let line := pixels ((k.fontSize.setWidth 32 * k.framebufferInfo.width).setWidth 64)
      let machine := (memcpy .draw pos (pos - line) (k.framebufferInfo.width * 4) k.machine).2
      scrollRows turns (pos + k.rowBytes) { k with machine }

def blankPixels : Nat → Addr → Console → Addr × Console
  | 0, pos, k => (pos, k)
  | turns + 1, pos, k => blankPixels turns (pos + pixels 1) (k.storePixel pos (rgb 0 0 0))

/-- The nested loops that blank the last line, with `turns` rows left. -/
def blankLastLine : Nat → Addr → Console → Console
  | 0, _, k => k
  | turns + 1, pos, k =>
      let blanked := blankPixels k.framebufferInfo.width.toNat pos k
      blankLastLine turns blanked.1 blanked.2

/-- The `ui16_t` loop counters never reach a bound of 65536 or more. -/
def kscrollDown (k : Console) : Outcome Console :=
  if 2 ^ 16 ≤ k.fontSize.toNat * k.maxTextLine.toNat then .error .endless
  else if 0 < k.fontSize.toNat ∧ 2 ^ 16 ≤ k.framebufferInfo.width.toNat then .error .endless
  else
    let pos := k.videoModeInfo.backbufferPointer
    let pos := pos + pixels ((k.fontSize.setWidth 32 * k.framebufferInfo.width).setWidth 64)
    let k := scrollRows (k.fontSize.toNat * k.maxTextLine.toNat) pos k
    let pos := k.videoModeInfo.backbufferPointer
    let pos := pos + pixels ((k.maxTextLine.setWidth 32 * k.fontSize.setWidth 32 *
      k.framebufferInfo.width).setWidth 64)
    let k := blankLastLine k.fontSize.toNat pos k
    .ok (flushFramebuffer k)

/-- One row of a glyph, from its last pixel to its first. -/
def drawRow : Nat → BitVec 8 → Addr → Console → Console
  | 0, _, _, k => k
  | turns + 1, ch, pos, k =>
      let color := if ch % 2 = 1 then k.textColor else k.backgroundColor
      drawRow turns (ch >>> 1) (pos - pixels 1) (k.storePixel pos color)

/-- The rows of a glyph; `lastPos` is the last pixel of the next one. -/
def drawRows : List (BitVec 8) → Addr → Console → Console
  | [], _, k => k
  | ch :: rows, lastPos, k => drawRows rows (lastPos + k.rowBytes) (drawRow 8 ch lastPos k)

/-- The `switch` on the font size. -/
def glyph (fontSize c : BitVec 8) : Option (List (BitVec 8)) :=
  if fontSize = 8 then some (vgafont8 c)
  else if fontSize = 14 then some (vgafont14 c)
  else if fontSize = 16 then some (vgafont16 c)
  else none

def newline : BitVec 8 := 10

def kputchar (c : BitVec 8) (k : Console) : Outcome Console :=
  if c = 0 then .ok k
  else if c = newline then
    let k := { k with textColPx := 0 }
    if k.textLine = k.maxTextLine then kscrollDown k
    else .ok { k with textLine := k.textLine + 1 }
  else
    let pos := k.videoModeInfo.backbufferPointer
    let pos := pos + pixels ((k.textLine.setWidth 32 * k.fontSize.setWidth 32 *
      k.framebufferInfo.width).setWidth 64)
    let pos := pos + pixels ((k.textColPx.setWidth 32 + 8 - 1).setWidth 64)
    match glyph k.fontSize c with
    | none => .ok k
    | some rows =>
        let k := drawRows rows pos k
        .ok { k with textColPx := k.textColPx + 9 }

/-- The characters of a string up to its NUL. -/
def kprint : List (BitVec 8) → Console → Outcome Console
  | [], k => .ok k
  | c :: s, k => if c = 0 then .ok k else kputchar c k >>= kprint s

def ascii (s : String) : List (BitVec 8) := s.toList.map fun c => BitVec.ofNat 8 c.toNat

def hexDigit (n : Nat) : BitVec 8 :=
  if n ≥ 10 then BitVec.ofNat 8 (n + 55) else BitVec.ofNat 8 (n + 48)

def kprintHex (h : BitVec 64) (zeroX : Bool) (k : Console) : Outcome Console := do
  let k ← if zeroX then kprint (ascii "0x") k else .ok k
  kprint (numeralText 16 hexDigit 0 h) k

def backspace (k : Console) : Outcome Console := do
  if k.textColPx ≥ 9 then
    let k := { k with textColPx := k.textColPx - 9 }
    let k ← kputchar 0x20 k
    return { k with textColPx := k.textColPx - 9 }
  else
    return k

def filterDebug : BitVec 8 := 1
def filterCritical : BitVec 8 := 5
/-- `FILTER_NONE`, unless the build sets another one -/
def messageFilter : BitVec 8 := 0

def kernLog (filter : BitVec 8) (msg : String) (k : Console) : Outcome Console :=
  if messageFilter < filter then kprint (ascii msg) k >>= kprint (ascii "\n") else .ok k

def cpuFreeze {α : Type} (k : Console) : Outcome α := do
  let k ← kernLog filterCritical "CPU Frozen" k
  .error (.frozen k)

end Flosp.Kernel
