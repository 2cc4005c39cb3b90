import Flosp.Boot.Efi
import Flosp.Numeral

/-! Console output and graphics mode selection (`video.c`), built as the Makefile
does, with `DEBUG` and `INFO` defined. -/

namespace Flosp.Boot

def targetScreenWidth : BitVec 32 := 800
def targetScreenHeight : BitVec 32 := 600
/-- `PixelBlueGreenRedReserved8BitPerColor` of `EFI_GRAPHICS_PIXEL_FORMAT` -/
def targetScreenPixelFormat : BitVec 32 := 1

def wide (s : String) : List Char16 := s.toList.map fun c => BitVec.ofNat 16 c.toNat

def efiPrintChars (s : List Char16) : Program Unit := do
  let _ ← outputString s
  return ()

def efiPrint (s : String) : Program Unit := efiPrintChars (wide s)

def decDigit (d : Nat) : Char16 := BitVec.ofNat 16 (d + 48)

def hexDigit (d : Nat) : Char16 :=
  if d ≥ 10 then BitVec.ofNat 16 (d + 55) else BitVec.ofNat 16 (d + 48)

def efiPrintnum (n : BitVec 64) : Program Unit :=
  efiPrintChars (numeralText 10 decDigit 0 n)

def efiPrinthex (h : BitVec 64) (zeroX : BitVec 8) : Program Unit := do
  if zeroX ≠ 0 then
    efiPrint "0x"
  efiPrintChars (numeralText 16 hexDigit 0 h)

structure UefiGraphicsService where
  handleBuffer : Addr
  handleCount : BitVec 64

namespace GraphicsOutputProtocol
def mode : Field := ⟨24, 8⟩
end GraphicsOutputProtocol

namespace GraphicsOutputProtocolMode
def maxMode : Field := ⟨0, 4⟩
def info : Field := ⟨8, 8⟩
def frameBufferBase : Field := ⟨24, 8⟩
end GraphicsOutputProtocolMode

namespace GraphicsOutputModeInformation
def horizontalResolution : Field := ⟨4, 4⟩
def verticalResolution : Field := ⟨8, 4⟩
def pixelFormat : Field := ⟨12, 4⟩
def pixelsPerScanline : Field := ⟨32, 4⟩
end GraphicsOutputModeInformation

def graphicsInit (graphicsService : UefiGraphicsService) :
    Program (EfiStatus × UefiGraphicsService) := do
  efiPrint "Debug: Initializing the graphics output protocol service\r\n"
  let (status, handleCount, handleBuffer) ← locateHandleBuffer .byProtocol
    efiGraphicsOutputProtocolGuid 0 (graphicsService.handleCount, graphicsService.handleBuffer)
  let graphicsService : UefiGraphicsService := ⟨handleBuffer, handleCount⟩
  if efiError status then
    efiPrint "Fatal: Error locating graphics output protocol handle buffer\r\n"
    return (status, graphicsService)
  if graphicsService.handleCount = 0 then
    efiPrint "Fatal: Error locating any graphics output protocol handles\r\n"
    spin
  return (status, graphicsService)

/-- The loop of `find_graphics_mode` from mode `i` on. The locals are the query's
outputs and `*GraphicsMode`; `turns` bounds the 32-bit counter. -/
def findGraphicsModeFrom (protocol : Addr) (targetWidth targetHeight targetPixelFormat : BitVec 32)
    (graphicsMode : BitVec 64) : Nat → BitVec 32 → BitVec 64 × Addr →
    Program (EfiStatus × BitVec 64)
  | 0, _, _ => return (efiUnsupported, graphicsMode)
  | turns + 1, i, query => do
      let mode : Addr ← loadField .graphics protocol GraphicsOutputProtocol.mode
      let maxMode : BitVec 32 ← loadField .graphics mode GraphicsOutputProtocolMode.maxMode
      if ¬ i < maxMode then
        return (efiUnsupported, graphicsMode)
      efiPrint "Debug: Testing video mode number: "
      efiPrintnum (i.setWidth 64)
      efiPrint "\r\n"
      let (status, modeInfoSize, modeInfo) ← queryMode protocol i query
      if efiError status then
        efiPrint "Fatal: Error querying video mode number: "
        efiPrintnum (i.setWidth 64)
        efiPrint "\r\n"
      let width : BitVec 32 ←
        loadField .graphics modeInfo GraphicsOutputModeInformation.horizontalResolution
      if width = targetWidth then
        let height : BitVec 32 ←
          loadField .graphics modeInfo GraphicsOutputModeInformation.verticalResolution
        if height = targetHeight then
          let format : BitVec 32 ←
            loadField .graphics modeInfo GraphicsOutputModeInformation.pixelFormat
          if format = targetPixelFormat then
            efiPrint "Debug: Matching video mode detected\r\n"
            return (status, i.setWidth 64)
      findGraphicsModeFrom protocol targetWidth targetHeight targetPixelFormat graphicsMode turns
        (i + 1) (modeInfoSize, modeInfo)

def findGraphicsMode (protocol : Addr) (targetWidth targetHeight targetPixelFormat : BitVec 32)
    (graphicsMode : BitVec 64) (uninitialized : BitVec 64 × Addr) :
    Program (EfiStatus × BitVec 64) :=
  findGraphicsModeFrom protocol targetWidth targetHeight targetPixelFormat graphicsMode
    (2 ^ 32) 0 uninitialized

def setGraphicsMode (protocol : Addr) (targetWidth targetHeight targetPixelFormat : BitVec 32)
    (uninitialized : BitVec 64 × Addr) : Program EfiStatus := do
  let (status, graphicsModeNum) ← findGraphicsMode protocol targetWidth targetHeight
    targetPixelFormat 0 uninitialized
  if efiError status then
    return status
  let status ← setMode protocol (graphicsModeNum.setWidth 32)
  if efiError status then
    efiPrint "Fatal: Error setting graphics mode\r\n"
    return status
  let status ← clearScreen
  if efiError status then
    efiPrint "Fatal: Error clearing console screen\r\n"
    return status
  let status ← reset 0
  if efiError status then
    efiPrint "Fatal: Error resetting console output\r\n"
    return status
  return status

def printVideoModeInfo (videoModeInfo : KernelBootVideoModeInfo) : Program Unit := do
  efiPrint "Debug: Current video mode info:\r\n"
  efiPrint "    Framebuffer Address: "
  efiPrinthex videoModeInfo.framebufferPointer 1
  efiPrint "\r\n"
  efiPrint "    Horizontal Resolution: "
  efiPrintnum (videoModeInfo.horizontalResolution.setWidth 64)
  efiPrint "\r\n"
  efiPrint "    Vertical Resolution: "
  efiPrintnum (videoModeInfo.verticalResolution.setWidth 64)
  efiPrint "\r\n"
  efiPrint "    Pixels Per Scanline: "
  efiPrintnum (videoModeInfo.pixelsPerScanline.setWidth 64)
  efiPrint "\r\n"

end Flosp.Boot
