import Flosp.Kernel.Console

/-! The ACPI tables (`cpu/acpi.c`). -/

namespace Flosp.Kernel

open ByteMemory

structure AcpiTables where
  xsdp : Addr
  xsdt : Addr
  fadt : Addr
  hpet : Addr
  madt : Addr
  deriving DecidableEq

/-- The console and the globals of `acpi.c`. -/
structure Acpi where
  console : Console
  acpiTables : AcpiTables
  numXsdtEntries : BitVec 16
  lapicX86Addr : BitVec 32
  lapicX8664Addr : Addr

/-- The globals as the kernel is loaded. -/
def Acpi.loaded (console : Console) : Acpi where
  console := console
  acpiTables := ⟨0, 0, 0, 0, 0⟩
  numXsdtEntries := 0
  lapicX86Addr := 0
  lapicX8664Addr := 0

namespace Acpi

def machine (s : Acpi) : KernelMachine := s.console.machine

def withMachine (s : Acpi) (machine : KernelMachine) : Acpi :=
  { s with console := { s.console with machine } }

end Acpi

/-- `&table->xsdt_ptr`, `&table->length` and so on, by their offsets in the packed structures -/
def xsdtPtrOffset : Addr := 24
def lengthOffset : Addr := 4
def lapicAddressOffset : Addr := 36
/-- `sizeof(acpi_sdt_header_t)` -/
def sdtHeaderSize : Addr := 36
/-- `sizeof(madt_t)` -/
def madtSize : Addr := 44
def madtEntryTypeLapicAddressOverride : BitVec 8 := 0x05

/-- `num_XSDT_entries`, from the length of the XSDT -/
def xsdtEntryCount (length : BitVec 32) : BitVec 16 :=
  ((length.setWidth 64 - sdtHeaderSize) / 8).setWidth 16

/-- The comparisons of a signature, up to the first one that fails. -/
def sameSignature : List (BitVec 8) → Addr → KernelMachine → Bool × KernelMachine
  | [], _, m => (true, m)
  | c :: signature, a, m =>
      let (byte, m) := m.load .acpi a 1
      if byte = c then sameSignature signature (a + 1) m else (false, m)

/-- `acpi_tables.XSDT->sdt_ptrs[i]` -/
def loadSdtPtr (xsdt : Addr) (i : BitVec 16) (m : KernelMachine) : Addr × KernelMachine :=
  m.load .xsdt (xsdt + sdtHeaderSize + 8 * i.setWidth 64) 8

/-- The loop of `get_acpi_table`, with `turns` entries left. -/
def findAcpiTable (xsdt : Addr) (signature : List (BitVec 8)) :
    Nat → BitVec 16 → KernelMachine → Addr × KernelMachine
  | 0, _, m => (0, m)
  | turns + 1, i, m =>
      let (header, m) := loadSdtPtr xsdt i m
      let (same, m) := sameSignature signature header m
      if same then loadSdtPtr xsdt i m else findAcpiTable xsdt signature turns (i + 1) m

def getAcpiTable (signature : String) (s : Acpi) : Addr × Acpi :=
  let found := findAcpiTable s.acpiTables.xsdt (ascii signature) s.numXsdtEntries.toNat 0 s.machine
  (found.1, s.withMachine found.2)

/-- The loop of `get_madt_entry_addr`; `none` when it needs more than `turns` turns. -/
def madtEntryLoop (madt : Addr) (entryType : BitVec 8) :
    Nat → Addr → KernelMachine → Option (Addr × KernelMachine)
  | 0, _, _ => none
  | turns + 1, currentAddr, m =>
      let (length, m) := m.load .acpi (madt + lengthOffset) 4
      if currentAddr ≤ madt + madtSize * length.setWidth 64 then
        let (currentEntryType, m) := m.load .acpi currentAddr 1
        let (recordLength, m) := m.load .acpi (currentAddr + 1) 1
        if currentEntryType = entryType then some (currentAddr, m)
        else if recordLength = 0 then some (0, m)
        else madtEntryLoop madt entryType turns (currentAddr + recordLength.setWidth 64) m
      else some (0, m)

/-- A loop that has not ended after `2 ^ 64` turns was at one address twice and never ends. -/
def getMadtEntryAddr (entryType : BitVec 8) (s : Acpi) : Outcome (Addr × Acpi) :=
  match madtEntryLoop s.acpiTables.madt entryType (2 ^ 64) (s.acpiTables.madt + 0x2C) s.machine with
  | none => .error .endless
  | some (a, m) => .ok (a, s.withMachine m)

def logged (filter : BitVec 8) (msg : String) (s : Acpi) : Outcome Acpi := do
  let console ← kernLog filter msg s.console
  return { s with console }

def locateFadt (s : Acpi) : Outcome Acpi := do
  let (fadt, s) := getAcpiTable "FACP" s
  let s := { s with acpiTables := { s.acpiTables with fadt } }
  if s.acpiTables.fadt = 0 then
    let s ← logged filterCritical "Fatal: ACPI table FADT not found" s
    cpuFreeze s.console
  logged filterDebug "Debug: ACPI table FADT (sign: \"FACP\") successfully located" s

def locateHpet (s : Acpi) : Outcome Acpi :=
  let (hpet, s) := getAcpiTable "HPET" s
  let s := { s with acpiTables := { s.acpiTables with hpet } }
  if s.acpiTables.hpet = 0 then
    logged filterCritical "Warning: ACPI table HPET not found" s
  else
    logged filterDebug "Debug: ACPI table HPET (sign: \"HPET\") successfully located" s

def locateMadt (s : Acpi) : Outcome Acpi := do
  let (madt, s) := getAcpiTable "APIC" s
  let s := { s with acpiTables := { s.acpiTables with madt } }
  if s.acpiTables.madt = 0 then
    let s ← logged filterCritical "Warning: ACPI table MADT not found" s
    cpuFreeze s.console
  else
    logged filterDebug "Debug: ACPI table MADT (sign: \"ACPI\") successfully located" s

/-- `acpi_init` up to "LAPIC address save" -/
def locateTables (xsdpTable : Addr) (s : Acpi) : Outcome Acpi := do
  let (xsdt, m) := s.machine.load .acpi (xsdpTable + xsdtPtrOffset) 8
  let (length, m) := m.load .acpi (xsdt + lengthOffset) 4
  let s := { s.withMachine m with
    acpiTables := { xsdp := xsdpTable, xsdt, fadt := 0, hpet := 0, madt := 0 }
    numXsdtEntries := xsdtEntryCount length }
  let s ← locateFadt s
  let s ← locateHpet s
  locateMadt s

/-- The end of `acpi_init`, "LAPIC address save". -/
def saveLapicAddress (s : Acpi) : Outcome Acpi := do
  let (entry, s) ← getMadtEntryAddr madtEntryTypeLapicAddressOverride s
  if entry = 0 then
    let (lapicAddress, m) := s.machine.load .acpi (s.acpiTables.madt + lapicAddressOffset) 4
    return { s.withMachine m with lapicX8664Addr := entry, lapicX86Addr := lapicAddress }
  else
    return { s with lapicX8664Addr := entry + 4 }

def acpiInit (xsdpTable : Addr) (s : Acpi) : Outcome Acpi :=
  locateTables xsdpTable s >>= saveLapicAddress

def getLapicAddressAcpi (s : Acpi) : Addr :=
  if s.lapicX8664Addr = 0 then s.lapicX86Addr.setWidth 64 else s.lapicX8664Addr

end Flosp.Kernel
