import Flosp.Boot.Loader

/-! The boot application: video mode, ACPI root pointer, kernel file, memory map and
the jump to the kernel (`main.c`, `fs.c`). -/

namespace Flosp.Boot

open Interaction

/-- The members of `EFI_SYSTEM_TABLE` that `efi_main` reads. -/
structure EfiSystemTable where
  numberOfTableEntries : BitVec 64
  configurationTable : Addr

namespace EfiConfigurationTable
def size : Nat := 24
def vendorGuid : Field := ⟨0, 16⟩
def vendorTable : Field := ⟨16, 8⟩
end EfiConfigurationTable

/-- What the uninitialized locals of `efi_main` and its callees happen to hold. -/
structure Uninitialized where
  graphicsService : UefiGraphicsService
  modeInfo : BitVec 64 × Addr
  backbufferPointer : Addr

def kernelFilepath : String := "\\kernel.elf"

def getMemoryMap' (memoryMap : Addr) (reply : MemoryMapReply) :
    Program (EfiStatus × Addr × MemoryMapReply) := do
  efiPrint "Debug: Allocating memory map\r\n"
  let (status, reply) ← getMemoryMap memoryMap reply
  if efiError status then
    if status ≠ efiBufferTooSmall then
      efiPrint "Fatal: Error getting memory map size\r\n"
      return (status, memoryMap, reply)
  let reply := { reply with mapSize := reply.mapSize + 2 * reply.descriptorSize }
  let (status, memoryMap) ← allocatePool .efiLoaderData reply.mapSize memoryMap
  if efiError status then
    efiPrint "Fatal: Error allocating memory map buffer\r\n"
    return (status, memoryMap, reply)
  let (status, reply) ← getMemoryMap memoryMap reply
  if efiError status then
    efiPrint "Fatal: Error getting memory map\r\n"
    return (status, memoryMap, reply)
  return (status, memoryMap, reply)

/-- `g2[k]` of `compare_efi_guid` for a GUID held in a local. -/
def EfiGuid.word (g : EfiGuid) (k : Nat) : BitVec 32 := g.bits.extractLsb' (32 * k) 32

/-- The bitwise or of the four word differences, zero exactly on equal GUIDs. -/
def compareEfiGuid (guid1 : Addr) (guid2 : EfiGuid) : Program (BitVec 64) := do
  let g0 : BitVec 32 ← load .configurationTable guid1 4
  let r := g0 - guid2.word 0
  let g1 : BitVec 32 ← load .configurationTable (guid1 + 4) 4
  let r := r ||| (g1 - guid2.word 1)
  let g2 : BitVec 32 ← load .configurationTable (guid1 + 8) 4
  let r := r ||| (g2 - guid2.word 2)
  let g3 : BitVec 32 ← load .configurationTable (guid1 + 12) 4
  let r := r ||| (g3 - guid2.word 3)
  return r.signExtend 64

/-- `"RSD PTR "` -/
def xsdpSignature : List (BitVec 8) := [0x52, 0x53, 0x44, 0x20, 0x50, 0x54, 0x52, 0x20]

/-- `((char*)tempTable->VendorTable)[k] == ... && ...`, from byte `k` on. -/
def matchesSignature (tempTable : Addr) : List (BitVec 8) → Nat → Program Bool
  | [], _ => return true
  | c :: rest, k => do
      let vendorTable : Addr ←
        loadField .configurationTable tempTable EfiConfigurationTable.vendorTable
      let b : BitVec 8 ← load .vendorTable (vendorTable + BitVec.ofNat 64 k) 1
      if b = c then matchesSignature tempTable rest (k + 1) else return false

/-- The search loop with `turns` entries left. `stored` lists the values that were
assigned to `BootInfo.XSDPTable` since the `NULL` it starts with, the newest first. -/
def findXsdpFrom : Nat → Nat → Addr → List Addr → Program (List Addr)
  | 0, _, _, stored => return stored
  | turns + 1, i, tempTable, stored => do
      let difference ← compareEfiGuid
        (tempTable + BitVec.ofNat 64 (EfiConfigurationTable.size * i)) efiAcpi20TableGuid
      let mut stored := stored
      if difference ≠ 0 then
        let found ← matchesSignature tempTable xsdpSignature 0
        if found then
          let vendorTable : Addr ←
            loadField .configurationTable tempTable EfiConfigurationTable.vendorTable
          stored := vendorTable :: stored
      findXsdpFrom turns (i + 1) (tempTable + BitVec.ofNat 64 EfiConfigurationTable.size) stored

/-- `for (UINT16 i = 0; i < NumberOfTableEntries; i++)`: the 16-bit index never
reaches a count of 65536 or more. -/
def findXsdp (systemTable : EfiSystemTable) : Program (List Addr) :=
  if systemTable.numberOfTableEntries.toNat < 2 ^ 16 then
    findXsdpFrom systemTable.numberOfTableEntries.toNat 0 systemTable.configurationTable []
  else
    spin

def initEfiFs (fileSystemProtocol : Addr) : Program (EfiStatus × Addr) := do
  efiPrint "Debug: Loading EFI filesystem...\r\n"
  let (status, fileSystemProtocol) ← locateProtocol efiSimpleFileSystemProtocolGuid 0
    fileSystemProtocol
  if efiError status then
    efiPrint "Fatal: Error locating Simple File System Protocol\r\n"
    return (status, fileSystemProtocol)
  efiPrint "Debug: EFI filesystem loaded\r\n"
  return (status, fileSystemProtocol)

/-- The size of the back buffer, a product of `UINT32`s. -/
def backbufferSize (videoModeInfo : KernelBootVideoModeInfo) : BitVec 32 :=
  videoModeInfo.verticalResolution * videoModeInfo.pixelsPerScanline * 4

/-- `efi_main` from the return of `load_kernel` on. -/
def enterKernel (imageHandle kernelEntryPoint : Addr) (bootInfo : KernelBootInfo)
    (status : EfiStatus) : Program EfiStatus := do
  if efiError status then
    return status
  efiPrint "Debug: Kernel located in memory at entry point: "
  let entry : Addr ← load .kernelEntryPoint kernelEntryPoint 8
  efiPrinthex entry 1
  efiPrint "\r\n"
  efiPrint "Debug: Saving memory map\r\n"
  let (status, memoryMap, reply) ← getMemoryMap' 0 ⟨0, 0, 0, 0⟩
  if efiError status then
    return status
  let bootInfo := { bootInfo with
    memoryMap := memoryMap
    memoryMapSize := reply.mapSize
    memoryMapDescriptorSize := reply.descriptorSize }
  efiPrint "Debug: Exiting EFI boot services\r\n"
  let status ← exitBootServices imageHandle reply.mapKey
  if efiError status then
    efiPrint "Fatal: Error exiting EFI boot services\r\n"
    return status
  printVideoModeInfo bootInfo.videoModeInfo
  efiPrint "Debug: Entering kernel\r\n"
  let kernelEntry : Addr ← load .kernelEntryPoint kernelEntryPoint 8
  .halt (.enterKernel kernelEntry bootInfo)

def efiMain (imageHandle : Addr) (systemTable : EfiSystemTable) (garbage : Uninitialized) :
    Program EfiStatus := do
  let kernelEntryPoint : Addr := 0
  efiPrint "Booting Flosp...\r\n"
  efiPrint "Debug: Disabling watchdog\r\n"
  let status ← setWatchdogTimer 0 0 0 0
  if efiError status then
    efiPrint "Fatal: Error disabling watchdog timer\r\n"
    return status
  let (status, graphicsService) ← graphicsInit garbage.graphicsService
  if efiError status then
    if status ≠ efiNotFound then
      efiPrint "Fatal: Error initializing graphics service\r\n"
      return status
    else
      efiPrint "Debug: Unable to locate graphics device\r\n"
    return status
  let handle : Addr ← load .handleBuffer graphicsService.handleBuffer 8
  let (status, graphicsOutputProtocol) ← openProtocol handle efiGraphicsOutputProtocolGuid
    imageHandle 0 efiOpenProtocolByHandleProtocol 0
  if efiError status then
    efiPrint "Fatal: Failed to open graphics output protocol on the current console\r\n"
    spin
  let mut noMode := decide (status = efiNotStarted)
  if ¬ noMode then
    let mode : Addr ← loadField .graphics graphicsOutputProtocol GraphicsOutputProtocol.mode
    noMode := decide (mode = 0)
  if noMode then
    let status ← setGraphicsMode graphicsOutputProtocol targetScreenWidth targetScreenHeight
      targetScreenPixelFormat garbage.modeInfo
    if efiError status then
      return status
  let mode : Addr ← loadField .graphics graphicsOutputProtocol GraphicsOutputProtocol.mode
  let frameBufferBase : Addr ← loadField .graphics mode GraphicsOutputProtocolMode.frameBufferBase
  if frameBufferBase = 0 then
    efiPrint "Fatal: Framebuffer address is NULL"
    spin
  let mode : Addr ← loadField .graphics graphicsOutputProtocol GraphicsOutputProtocol.mode
  let framebufferPointer : Addr ←
    loadField .graphics mode GraphicsOutputProtocolMode.frameBufferBase
  let modeInfo (f : Field) : Program (BitVec (8 * f.size)) := do
    let mode : Addr ← loadField .graphics graphicsOutputProtocol GraphicsOutputProtocol.mode
    let info : Addr ← loadField .graphics mode GraphicsOutputProtocolMode.info
    loadField .graphics info f
  let horizontalResolution : BitVec 32 ←
    modeInfo GraphicsOutputModeInformation.horizontalResolution
  let verticalResolution : BitVec 32 ← modeInfo GraphicsOutputModeInformation.verticalResolution
  let pixelsPerScanline : BitVec 32 ← modeInfo GraphicsOutputModeInformation.pixelsPerScanline
  let videoModeInfo : KernelBootVideoModeInfo :=
    { framebufferPointer, backbufferPointer := garbage.backbufferPointer, horizontalResolution,
      verticalResolution, pixelsPerScanline }
  let (_, backbufferPointer) ← allocatePool .efiLoaderData
    ((backbufferSize videoModeInfo).setWidth 64) videoModeInfo.backbufferPointer
  let videoModeInfo := { videoModeInfo with backbufferPointer }
  let stored ← findXsdp systemTable
  let xsdpTable := stored.headD 0
  if xsdpTable = 0 then
    efiPrint "Fatal: Unable to locate ACPI v2+ XSDP\r\n"
    return efiNotFound
  let (status, fileSystemProtocol) ← initEfiFs 0
  if efiError status then
    return status
  efiPrint "Debug: Opening EFI boot volume\r\n"
  let (status, rootFileSystem) ← openVolume fileSystemProtocol 0
  efiPrint "Debug: Root file system address: "
  efiPrinthex rootFileSystem 1
  efiPrint "\r\n"
  if efiError status then
    efiPrint "Fatal: Error opening EFI boot volume\r\n"
    return status
  efiPrint "Debug: EFI boot volume opened\r\n"
  let status ← loadKernel rootFileSystem (wide kernelFilepath) kernelEntryPoint
  enterKernel imageHandle kernelEntryPoint
    { memoryMap := 0, memoryMapSize := 0, memoryMapDescriptorSize := 0, videoModeInfo, xsdpTable }
    status

end Flosp.Boot
