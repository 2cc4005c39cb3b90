import Flosp.Boot.Video

/-! Reading and checking the kernel file's ELF headers (`elf.c`, `inc/elf.h`). -/

namespace Flosp.Boot

open Interaction

def eiNident : BitVec 64 := 16

def eiMag0 : Nat := 0x0
def eiMag1 : Nat := 0x1
def eiMag2 : Nat := 0x2
def eiMag3 : Nat := 0x3
def eiClass : Nat := 0x4
def eiData : Nat := 0x5
def eiVersion : Nat := 0x6
def eiOsabi : Nat := 0x7
def eiAbiversion : Nat := 0x8

def ptLoad : BitVec 32 := 0x1

def elfFileClass64 : BitVec 8 := 2

namespace Elf64Ehdr

def size : Nat := 64
def eIdent (i : Nat) : Field := ⟨i, 1⟩
def eType : Field := ⟨16, 2⟩
def eMachine : Field := ⟨18, 2⟩
def eVersion : Field := ⟨20, 4⟩
def eEntry : Field := ⟨24, 8⟩
def ePhoff : Field := ⟨32, 8⟩
def eShoff : Field := ⟨40, 8⟩
def eFlags : Field := ⟨48, 4⟩
def eEhsize : Field := ⟨52, 2⟩
def ePhentsize : Field := ⟨54, 2⟩
def ePhnum : Field := ⟨56, 2⟩
def eShentsize : Field := ⟨58, 2⟩
def eShnum : Field := ⟨60, 2⟩
def eShstrndx : Field := ⟨62, 2⟩

end Elf64Ehdr

namespace Elf64Phdr

def size : Nat := 56
def pType : Field := ⟨0, 4⟩
def pOffset : Field := ⟨8, 8⟩
def pPaddr : Field := ⟨24, 8⟩
def pFilesz : Field := ⟨32, 8⟩
def pMemsz : Field := ⟨40, 8⟩

end Elf64Phdr

def readElfIdentity (kernelImage elfIdBuffer : Addr) : Program (EfiStatus × Addr) := do
  efiPrint "Debug: Reading kernel ELF identity\r\n"
  efiPrint "Debug: Resetting kernel file pointer to beginning of file\r\n"
  let status ← setPosition kernelImage 0
  efiPrint "Test print\r\n"
  if efiError status then
    efiPrint "Fatal: Error resetting file pointer position\r\n"
    return (status, elfIdBuffer)
  efiPrint "Debug: Allocating buffer for ELF identity\r\n"
  let (status, elfIdBuffer) ← allocatePool .efiLoaderData eiNident elfIdBuffer
  if efiError status then
    efiPrint "Fatal: Error allocating memory for ELF identity buffer\r\n"
    return (status, elfIdBuffer)
  efiPrint "Debug: Reading kernel ELF identity\r\n"
  let (status, _) ← read kernelImage eiNident elfIdBuffer
  if efiError status then
    efiPrint "Fatal: Error reading kernel ELF identity\r\n"
    return (status, elfIdBuffer)
  return (status, elfIdBuffer)

/-- `(ELFIDBuffer[i] != c) || ...`, which stops at the first byte that differs. -/
def anyDiffers (elfIdBuffer : Addr) : List (Nat × BitVec 8) → Program Bool
  | [] => return false
  | (i, c) :: rest => do
      let b : BitVec 8 ← loadField .elfIdentity elfIdBuffer (Elf64Ehdr.eIdent i)
      if b ≠ c then return true else anyDiffers elfIdBuffer rest

def validateElfIdentity (elfIdBuffer : Addr) : Program EfiStatus := do
  let status := efiSuccess
  efiPrint "Debug: Validating kernel ELF identity\r\n"
  let badMagic ← anyDiffers elfIdBuffer
    [(eiMag0, 0x7F), (eiMag1, 0x45), (eiMag2, 0x4C), (eiMag3, 0x46)]
  if badMagic then
    efiPrint "Fatal: Invalid kernel ELF header\r\n"
    return status
  let elfClass : BitVec 8 ← loadField .elfIdentity elfIdBuffer (Elf64Ehdr.eIdent eiClass)
  if elfClass = elfFileClass64 then
    efiPrint "Debug: Identified kernel as x86_64\r\n"
  else
    efiPrint "Fatal: Invalid kernel file\r\n"
    return efiUnsupported
  let elfData : BitVec 8 ← loadField .elfIdentity elfIdBuffer (Elf64Ehdr.eIdent eiData)
  if elfData ≠ 1 then
    efiPrint "Fatal: Only an LSB ELF kernel is supported\r\n"
    return efiIncompatibleVersion
  efiPrint "Debug: Kernel ELF identity validated\r\n"
  return status

def readElfFile (kernelImage kernelHeader kernelProgramHeaders : Addr) :
    Program (EfiStatus × Addr × Addr) := do
  efiPrint "Debug: Reading kernel ELF file\r\n"
  efiPrint "Debug: Resetting kernel file pointer to beginning of file\r\n"
  let status ← setPosition kernelImage 0
  if efiError status then
    efiPrint "Fatal: Error resetting file pointer position\r\n"
    return (status, kernelHeader, kernelProgramHeaders)
  -- Kernel ELF header
  let bufferSize : BitVec 64 := BitVec.ofNat 64 Elf64Ehdr.size
  efiPrint "Debug: Allocating buffer for kernel ELF header\r\n"
  let (status, kernelHeader) ← allocatePool .efiLoaderData bufferSize kernelHeader
  if efiError status then
    efiPrint "Fatal: Error allocating memory for kernel ELF header\r\n"
    return (status, kernelHeader, kernelProgramHeaders)
  efiPrint "Debug: Reading kernel ELF header\r\n"
  let (status, _) ← read kernelImage bufferSize kernelHeader
  if efiError status then
    efiPrint "Fatal: Error reading kernel ELF header\r\n"
    return (status, kernelHeader, kernelProgramHeaders)
  -- Kernel ELF program headers
  let programHeadersOffset : BitVec 64 ← loadField .elfHeader kernelHeader Elf64Ehdr.ePhoff
  let phnum : BitVec 16 ← loadField .elfHeader kernelHeader Elf64Ehdr.ePhnum
  let bufferSize : BitVec 64 := BitVec.ofNat 64 Elf64Phdr.size * phnum.setWidth 64
  efiPrint "Debug: Setting kernel file pointer to program header offset\r\n"
  let status ← setPosition kernelImage programHeadersOffset
  if efiError status then
    efiPrint "Fatal: Error setting kernel file pointer position\r\n"
    return (status, kernelHeader, kernelProgramHeaders)
  efiPrint "Debug: Allocating buffer for kernel ELF program headers\r\n"
  let (status, kernelProgramHeaders) ← allocatePool .efiLoaderData bufferSize kernelProgramHeaders
  if efiError status then
    efiPrint "Fatal: Error allocating memory for kernel ELF program headers\r\n"
    return (status, kernelHeader, kernelProgramHeaders)
  efiPrint "Debug: Reading kernel ELF program headers\r\n"
  let (status, _) ← read kernelImage bufferSize kernelProgramHeaders
  if efiError status then
    efiPrint "Fatal: Error reading kernel ELF program headers\r\n"
    return (status, kernelHeader, kernelProgramHeaders)
  return (status, kernelHeader, kernelProgramHeaders)

/-- One line of `print_elf_info`: the label, the member, how it is printed. -/
structure InfoLine where
  label : String
  field : Field
  decimal : Bool

def elfInfoLines : List InfoLine :=
  [⟨"  Class: ", Elf64Ehdr.eIdent eiClass, false⟩,
   ⟨"  Data: ", Elf64Ehdr.eIdent eiData, false⟩,
   ⟨"  Version: ", Elf64Ehdr.eIdent eiVersion, false⟩,
   ⟨"  OS/ABI: ", Elf64Ehdr.eIdent eiOsabi, false⟩,
   ⟨"  ABI Version: ", Elf64Ehdr.eIdent eiAbiversion, false⟩,
   ⟨"  Type: ", Elf64Ehdr.eType, false⟩,
   ⟨"  Machine: ", Elf64Ehdr.eMachine, false⟩,
   ⟨"  Version: ", Elf64Ehdr.eVersion, false⟩,
   ⟨"  Entry point address: ", Elf64Ehdr.eEntry, false⟩,
   ⟨"  Start of program headers: ", Elf64Ehdr.ePhoff, false⟩,
   ⟨"  Start of section headers: ", Elf64Ehdr.eShoff, false⟩,
   ⟨"  Flags: ", Elf64Ehdr.eFlags, false⟩,
   ⟨"  Size of this header: ", Elf64Ehdr.eEhsize, false⟩,
   ⟨"  Size of program headers: ", Elf64Ehdr.ePhentsize, false⟩,
   ⟨"  Number of program headers: ", Elf64Ehdr.ePhnum, true⟩,
   ⟨"  Size of section headers: ", Elf64Ehdr.eShentsize, false⟩,
   ⟨"  Number of section headers: ", Elf64Ehdr.eShnum, true⟩,
   ⟨"  Section header string table index: ", Elf64Ehdr.eShstrndx, false⟩]

def printInfoLine (header : Addr) (line : InfoLine) : Program Unit := do
  efiPrint line.label
  let value ← loadField .elfHeader header line.field
  if line.decimal then
    efiPrintnum (value.setWidth 64)
  else
    efiPrinthex (value.setWidth 64) 1
  efiPrint "\r\n"

def printMagic (header : Addr) (i : Nat) : Program Unit := do
  let value ← loadField .elfHeader header (Elf64Ehdr.eIdent i)
  efiPrinthex (value.setWidth 64) 0
  efiPrint " "

def printElfInfo (header : Addr) : Program Unit := do
  efiPrint "Debug: Kernel ELF header info:\r\n"
  efiPrint "  Magic: "
  Prog.forEach (printMagic header) [0, 1, 2, 3]
  efiPrint "\r\n"
  Prog.forEach (printInfoLine header) elfInfoLines

end Flosp.Boot
