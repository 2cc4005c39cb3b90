import Flosp.Boot.Elf

/-! Loading the kernel file (`loader.c`). -/

namespace Flosp.Boot

def loadSegment (kernelImage : Addr) (segmentOffset segmentFileSize segmentMemorySize
    segmentPhysicalAddress : BitVec 64) : Program EfiStatus := do
  let segmentPageCount := efiSizeToPages segmentMemorySize
  efiPrint "Debug: Setting kernel file pointer to segment offset\r\n"
  let status ← setPosition kernelImage segmentOffset
  if efiError status then
    efiPrint "Fatal: Error setting kernel file pointer position\r\n"
    return status
  efiPrint "Debug: Allocating pages for ELF segment\r\n"
  let (allocated, segmentPhysicalAddress) ← allocatePages .allocateAddress .efiLoaderData
    segmentPageCount segmentPhysicalAddress
  let mut status := allocated
  if efiError status then
    efiPrint "Fatal: Error allocating pages for ELF segment\r\n"
    return status
  if segmentFileSize > 0 then
    efiPrint "Debug: Allocating kernel program segment buffer\r\n"
    let (pooled, programData) ← allocatePool .efiLoaderData segmentFileSize 0
    status := pooled
    if efiError status then
      efiPrint "Fatal: Error allocating kernel program segment buffer\r\n"
      return status
    efiPrint "Debug: Reading segment data\r\n"
    let (loaded, _) ← read kernelImage segmentFileSize programData
    status := loaded
    if efiError status then
      efiPrint "Fatal: Error reading segment data\r\n"
      return status
    efiPrint "Debug: Copying segment data to memory\r\n"
    status ← copyMem segmentPhysicalAddress programData segmentFileSize
    if efiError status then
      efiPrint "Fatal: Error copying segment data to memory\r\n"
      return status
    efiPrint "Debug: Freeing kernel program segment buffer\r\n"
    status ← freePool programData
    if efiError status then
      efiPrint "Fatal: Error freeing kernel program segment buffer\r\n"
      return status
  let zeroFillStart := segmentPhysicalAddress + segmentFileSize
  let zeroFillCount := segmentMemorySize - segmentFileSize
  if zeroFillCount > 0 then
    efiPrint "Debug: Zero-filling extended data after program segment\r\n"
    status ← setMem zeroFillStart zeroFillCount 0
    if efiError status then
      efiPrint "Fatal: Error zero-filling memory post data segment\r\n"
      return status
  return status

/-- The address of `ProgramHeaders[i]`. -/
def programHeader (programHeaders : Addr) (i : Nat) : Addr :=
  programHeaders + BitVec.ofNat 64 (Elf64Phdr.size * i)

/-- The loop of `load_program_segments` with `turns` headers left, `i` the next one,
and the check that follows the loop. -/
def loadProgramSegmentsFrom (kernelImage programHeaders : Addr) : Nat → Nat → EfiStatus →
    BitVec 16 → Program EfiStatus
  | 0, _, status, numSegmentsLoaded => do
      if numSegmentsLoaded = 0 then
        efiPrint "Fatal: No loadable program segments found within kernel file\r\n"
        return efiNotFound
      return status
  | turns + 1, i, status, numSegmentsLoaded => do
      let header := programHeader programHeaders i
      let pType : BitVec 32 ← loadField .programHeaders header Elf64Phdr.pType
      if pType = ptLoad then
        let pOffset : BitVec 64 ← loadField .programHeaders header Elf64Phdr.pOffset
        let pFilesz : BitVec 64 ← loadField .programHeaders header Elf64Phdr.pFilesz
        let pMemsz : BitVec 64 ← loadField .programHeaders header Elf64Phdr.pMemsz
        let pPaddr : BitVec 64 ← loadField .programHeaders header Elf64Phdr.pPaddr
        let status ← loadSegment kernelImage pOffset pFilesz pMemsz pPaddr
        if efiError status then
          return status
        loadProgramSegmentsFrom kernelImage programHeaders turns (i + 1) status
          (numSegmentsLoaded + 1)
      else
        loadProgramSegmentsFrom kernelImage programHeaders turns (i + 1) status numSegmentsLoaded

def loadProgramSegments (kernelImage kernelHeader kernelProgramHeaders : Addr) :
    Program EfiStatus := do
  let numProgramHeaders : BitVec 16 ← loadField .elfHeader kernelHeader Elf64Ehdr.ePhnum
  if numProgramHeaders = 0 then
    efiPrint "Fatal: No program segments found within kernel file\r\n"
    return efiInvalidParameter
  efiPrint "Debug: Loading kernel segments\r\n"
  loadProgramSegmentsFrom kernelImage kernelProgramHeaders numProgramHeaders.toNat 0 efiSuccess 0

def loadKernel (rootFileSystem : Addr) (kernelFilename : List Char16) (kernelEntryPoint : Addr) :
    Program EfiStatus := do
  efiPrint "Info: Loading kernel\r\n"
  efiPrint "Debug: Opening kernel file\r\n"
  let (status, kernelImage) ← openFile rootFileSystem kernelFilename efiFileModeRead
    efiFileReadOnly 0
  if efiError status then
    efiPrint "Fatal: Error opening kernel file\r\n"
    return status
  if status = efiNotFound ∨ kernelImage = 0 then
    efiPrint "Fatal: kernel file not found\r\n"
    efiPrint "Error status: "
    efiPrintnum (errcode status)
    efiPrint "\r\n"
    spin
  let (status, elfIdBuffer) ← readElfIdentity kernelImage 0
  if efiError status then
    return status
  let status ← validateElfIdentity elfIdBuffer
  if efiError status then
    return status
  let status ← freePool elfIdBuffer
  if efiError status then
    efiPrint "Fatal: Unable to free kernel ELF identity buffer\r\n"
    return status
  let (status, kernelHeader, kernelProgramHeaders) ← readElfFile kernelImage 0 0
  if efiError status then
    return status
  let eEntry : BitVec 64 ← loadField .elfHeader kernelHeader Elf64Ehdr.eEntry
  store .kernelEntryPoint kernelEntryPoint 8 eEntry
  printElfInfo kernelHeader
  let status ← loadProgramSegments kernelImage kernelHeader kernelProgramHeaders
  if efiError status then
    return status
  efiPrint "Debug: Closing kernel file\r\n"
  let status ← close kernelImage
  if efiError status then
    efiPrint "Fatal: Error closing kernel file\r\n"
    return status
  efiPrint "Debug: Freeing kernel ELF header buffer\r\n"
  let status ← freePool kernelHeader
  if efiError status then
    efiPrint "Fatal: Error freeing kernel ELF header buffer\r\n"
    return status
  efiPrint "Debug: Freeing kernel ELF program headers buffer\r\n"
  let status ← freePool kernelProgramHeaders
  if efiError status then
    efiPrint "Fatal: Error freeing kernel ELF program headers buffer\r\n"
    return status
  efiPrint "Debug: Kernel loaded\r\n"
  return status

end Flosp.Boot
