import Flosp.Lib.ByteMemory
import Flosp.Lib.Interaction

/-! The UEFI interface of the bootloader: status codes, the firmware calls it
makes and the memory accesses between them (`inc/efi.h`). -/

namespace Flosp.Boot

open Interaction

abbrev Addr := BitVec 64
abbrev EfiStatus := BitVec 64
abbrev Char16 := BitVec 16

/-- `EFI_ERROR(a)` is `(a < 0)` on the unsigned `EFI_STATUS`. -/
def efiError (a : EfiStatus) : Bool := decide (a < 0)

/-- `EFIERR(a)` -/
def efiErr (a : BitVec 64) : EfiStatus := 0x8000000000000000 ||| a

/-- `ERRCODE(a)` -/
def errcode (a : EfiStatus) : BitVec 64 :=
  a &&& 0b0111111111111111111111111111111111111111111111111111111111111111

def efiPageMask : BitVec 64 := 0xFFF
def efiPageShift : Nat := 12

/-- `EFI_SIZE_TO_PAGES(a)` -/
def efiSizeToPages (a : BitVec 64) : BitVec 64 :=
  (a >>> efiPageShift) + (if a &&& efiPageMask ≠ 0 then 1 else 0)

def efiSuccess : EfiStatus := 0
def efiInvalidParameter : EfiStatus := efiErr 2
def efiUnsupported : EfiStatus := efiErr 3
def efiBufferTooSmall : EfiStatus := efiErr 5
def efiNotFound : EfiStatus := efiErr 14
def efiNotStarted : EfiStatus := efiErr 19
def efiIncompatibleVersion : EfiStatus := efiErr 25

def efiFileModeRead : BitVec 64 := 0x0000000000000001
def efiFileReadOnly : BitVec 64 := 0x0000000000000001
def efiOpenProtocolByHandleProtocol : BitVec 32 := 0x00000001

structure EfiGuid where
  data1 : BitVec 32
  data2 : BitVec 16
  data3 : BitVec 16
  data4 : Vector (BitVec 8) 8

/-- The sixteen bytes of a GUID in memory, the first lowest. -/
def EfiGuid.bits (g : EfiGuid) : BitVec 128 :=
  g.data4[7] ++ g.data4[6] ++ g.data4[5] ++ g.data4[4] ++ g.data4[3] ++ g.data4[2] ++
    g.data4[1] ++ g.data4[0] ++ g.data3 ++ g.data2 ++ g.data1

def efiSimpleFileSystemProtocolGuid : EfiGuid :=
  ⟨0x964e5b22, 0x6459, 0x11d2, #v[0x8e, 0x39, 0x0, 0xa0, 0xc9, 0x69, 0x72, 0x3b]⟩

def efiGraphicsOutputProtocolGuid : EfiGuid :=
  ⟨0x9042a9de, 0x23dc, 0x4a38, #v[0x96, 0xfb, 0x7a, 0xde, 0xd0, 0x80, 0x51, 0x6a]⟩

def efiAcpi20TableGuid : EfiGuid :=
  ⟨0x8868e871, 0xe4f1, 0x11d3, #v[0xbc, 0x22, 0x00, 0x80, 0xc7, 0x3c, 0x88, 0x81]⟩

inductive EfiAllocateType where
  | allocateAnyPages
  | allocateMaxAddress
  | allocateAddress
  deriving DecidableEq, Repr

inductive EfiMemoryType where
  | efiLoaderCode
  | efiLoaderData
  deriving DecidableEq, Repr

inductive EfiLocateSearchType where
  | allHandles
  | byRegisterNotify
  | byProtocol
  deriving DecidableEq, Repr

structure MemoryMapReply where
  mapSize : BitVec 64
  mapKey : BitVec 64
  descriptorSize : BitVec 64
  descriptorVersion : BitVec 32

/-- The calls through `SystemTable` and through firmware protocols. -/
inductive Call where
  | outputString (string : List Char16)
  | reset (extendedVerification : BitVec 8)
  | clearScreen
  | setWatchdogTimer (timeout watchdogCode dataSize : BitVec 64) (watchdogData : Addr)
  | locateHandleBuffer (searchType : EfiLocateSearchType) (protocol : EfiGuid) (searchKey : Addr)
  | openProtocol (handle : Addr) (protocol : EfiGuid) (agent controller : Addr)
      (attributes : BitVec 32)
  | queryMode (this : Addr) (modeNumber : BitVec 32)
  | setMode (this : Addr) (modeNumber : BitVec 32)
  | locateProtocol (protocol : EfiGuid) (registration : Addr)
  | openVolume (this : Addr)
  | openFile (this : Addr) (fileName : List Char16) (openMode attributes : BitVec 64)
  | close (this : Addr)
  | read (this : Addr) (bufferSize : BitVec 64) (buffer : Addr)
  | setPosition (this : Addr) (position : BitVec 64)
  | allocatePages (type : EfiAllocateType) (memoryType : EfiMemoryType) (pages : BitVec 64)
      (memory : BitVec 64)
  | allocatePool (poolType : EfiMemoryType) (size : BitVec 64)
  | freePool (buffer : Addr)
  | copyMem (destination source : Addr) (length : BitVec 64)
  | setMem (buffer : Addr) (size : BitVec 64) (value : BitVec 8)
  | getMemoryMap (mapSize : BitVec 64) (map : Addr)
  | exitBootServices (imageHandle : Addr) (mapKey : BitVec 64)

/-- What a call stores through its output pointers, `none` where it leaves them. -/
def Call.Out : Call → Type
  | .locateHandleBuffer .. => Option (BitVec 64 × Addr)
  | .openProtocol .. => Option Addr
  | .queryMode .. => Option (BitVec 64 × Addr)
  | .locateProtocol .. => Option Addr
  | .openVolume .. => Option Addr
  | .openFile .. => Option Addr
  | .read .. => Option (BitVec 64)
  | .allocatePages .. => Option (BitVec 64)
  | .allocatePool .. => Option Addr
  | .getMemoryMap .. => Option MemoryMapReply
  | _ => Unit

def Call.noOutput (c : Call) : c.Out :=
  match c with
  | .locateHandleBuffer .. | .openProtocol .. | .queryMode .. | .locateProtocol ..
  | .openVolume .. | .openFile .. | .read .. | .allocatePages .. | .allocatePool ..
  | .getMemoryMap .. => none
  | .outputString .. | .reset .. | .clearScreen | .setWatchdogTimer .. | .setMode .. | .close ..
  | .setPosition .. | .freePool .. | .copyMem .. | .setMem .. | .exitBootServices .. => ()

/-- The data structure a pointer of the bootloader points into. -/
inductive Region where
  | handleBuffer
  | graphics
  | configurationTable
  | vendorTable
  | elfIdentity
  | elfHeader
  | programHeaders
  | kernelEntryPoint
  deriving DecidableEq, Repr

inductive Op where
  | load (region : Region) (a : Addr) (n : Nat)
  | store (region : Region) (a : Addr) (n : Nat) (v : BitVec (8 * n))
  | call (c : Call)

def Reply : Op → Type
  | .load _ _ n => BitVec (8 * n)
  | .store .. => Unit
  | .call c => EfiStatus × c.Out

structure KernelBootVideoModeInfo where
  framebufferPointer : Addr
  backbufferPointer : Addr
  horizontalResolution : BitVec 32
  verticalResolution : BitVec 32
  pixelsPerScanline : BitVec 32

structure KernelBootInfo where
  memoryMap : Addr
  memoryMapSize : BitVec 64
  memoryMapDescriptorSize : BitVec 64
  videoModeInfo : KernelBootVideoModeInfo
  xsdpTable : Addr

/-- How a run ends other than by returning: in `while(1)`, or in the kernel. -/
inductive Halt where
  | spin
  | enterKernel (entry : Addr) (bootInfo : KernelBootInfo)

abbrev Program (α : Type) := Prog Op Reply Halt α
abbrev BootEvent := Event Op Reply
abbrev Trace := List BootEvent

def load (region : Region) (a : Addr) (n : Nat) : Program (BitVec (8 * n)) :=
  Prog.perform (Op.load region a n)

def store (region : Region) (a : Addr) (n : Nat) (v : BitVec (8 * n)) : Program Unit :=
  Prog.perform (Op.store region a n v)

def call (c : Call) : Program (EfiStatus × c.Out) := Prog.perform (Op.call c)

def spin {α : Type} : Program α := .halt .spin

/-- A member of a C structure: its offset and its size in bytes. -/
structure Field where
  offset : Nat
  size : Nat

def loadField (region : Region) (base : Addr) (f : Field) : Program (BitVec (8 * f.size)) :=
  load region (base + BitVec.ofNat 64 f.offset) f.size

def Field.read (f : Field) (m : ByteMemory.Memory 64) (base : Addr) : BitVec (8 * f.size) :=
  ByteMemory.load m (base + BitVec.ofNat 64 f.offset) f.size

/-! One definition for each call. An output pointer that the firmware leaves alone
keeps the value the bootloader's variable had before the call. -/

/-- Make the call and read its outputs back into the caller's variables. -/
def callOut {α : Type} (c : Call) (outputs : c.Out → α) : Program (EfiStatus × α) := do
  let (status, out) ← call c
  return (status, outputs out)

def callStatus (c : Call) : Program EfiStatus := do
  let (status, _) ← call c
  return status

def outputString (string : List Char16) : Program EfiStatus :=
  callStatus (.outputString string)

def setWatchdogTimer (timeout watchdogCode dataSize : BitVec 64) (watchdogData : Addr) :
    Program EfiStatus :=
  callStatus (.setWatchdogTimer timeout watchdogCode dataSize watchdogData)

def locateHandleBuffer (searchType : EfiLocateSearchType) (protocol : EfiGuid) (searchKey : Addr)
    (old : BitVec 64 × Addr) : Program (EfiStatus × BitVec 64 × Addr) :=
  callOut (.locateHandleBuffer searchType protocol searchKey) fun out => Option.getD out old

def openProtocol (handle : Addr) (protocol : EfiGuid) (agent controller : Addr)
    (attributes : BitVec 32) (old : Addr) : Program (EfiStatus × Addr) :=
  callOut (.openProtocol handle protocol agent controller attributes) fun out =>
    Option.getD out old

def queryMode (this : Addr) (modeNumber : BitVec 32) (old : BitVec 64 × Addr) :
    Program (EfiStatus × BitVec 64 × Addr) :=
  callOut (.queryMode this modeNumber) fun out => Option.getD out old

def setMode (this : Addr) (modeNumber : BitVec 32) : Program EfiStatus :=
  callStatus (.setMode this modeNumber)

def clearScreen : Program EfiStatus := callStatus .clearScreen

def reset (extendedVerification : BitVec 8) : Program EfiStatus :=
  callStatus (.reset extendedVerification)

def locateProtocol (protocol : EfiGuid) (registration old : Addr) : Program (EfiStatus × Addr) :=
  callOut (.locateProtocol protocol registration) fun out => Option.getD out old

def openVolume (this old : Addr) : Program (EfiStatus × Addr) :=
  callOut (.openVolume this) fun out => Option.getD out old

def openFile (this : Addr) (fileName : List Char16) (openMode attributes : BitVec 64)
    (old : Addr) : Program (EfiStatus × Addr) :=
  callOut (.openFile this fileName openMode attributes) fun out => Option.getD out old

def close (this : Addr) : Program EfiStatus := callStatus (.close this)

def read (this : Addr) (bufferSize : BitVec 64) (buffer : Addr) :
    Program (EfiStatus × BitVec 64) :=
  callOut (.read this bufferSize buffer) fun out => Option.getD out bufferSize

def setPosition (this : Addr) (position : BitVec 64) : Program EfiStatus :=
  callStatus (.setPosition this position)

def allocatePages (type : EfiAllocateType) (memoryType : EfiMemoryType) (pages : BitVec 64)
    (memory : BitVec 64) : Program (EfiStatus × BitVec 64) :=
  callOut (.allocatePages type memoryType pages memory) fun out => Option.getD out memory

def allocatePool (poolType : EfiMemoryType) (size : BitVec 64) (old : Addr) :
    Program (EfiStatus × Addr) :=
  callOut (.allocatePool poolType size) fun out => Option.getD out old

def freePool (buffer : Addr) : Program EfiStatus := callStatus (.freePool buffer)

def copyMem (destination source : Addr) (length : BitVec 64) : Program EfiStatus :=
  callStatus (.copyMem destination source length)

def setMem (buffer : Addr) (size : BitVec 64) (value : BitVec 8) : Program EfiStatus :=
  callStatus (.setMem buffer size value)

def getMemoryMap (map : Addr) (old : MemoryMapReply) : Program (EfiStatus × MemoryMapReply) :=
  callOut (.getMemoryMap old.mapSize map) fun out => Option.getD out old

def exitBootServices (imageHandle : Addr) (mapKey : BitVec 64) : Program EfiStatus :=
  callStatus (.exitBootServices imageHandle mapKey)

end Flosp.Boot
