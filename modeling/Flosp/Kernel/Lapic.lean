import Flosp.Kernel.Acpi
import Flosp.Kernel.Printing
import Flosp.Lib.RecordChain
import Mathlib.Data.List.Find

/-! The LAPIC address that the firmware declares, and the one that the kernel uses. -/

namespace Flosp.Kernel

open ByteMemory

def sdtPtrAddr (xsdt : Addr) (i : Nat) : Addr := xsdt + sdtHeaderSize + 8 * BitVec.ofNat 64 i

def sdtPtrs (mem : Memory 64) (xsdt : Addr) (count : Nat) : List Addr :=
  (List.range' 0 count).map fun i => load mem (sdtPtrAddr xsdt i) 8

def hasSignature (mem : Memory 64) : List (BitVec 8) → Addr → Bool
  | [], _ => true
  | c :: signature, a => mem a == c && hasSignature mem signature (a + 1)

def madtRecords (mem : Memory 64) (madt : Addr) : RecordChain (BitVec 8) where
  kind o := mem (madt + BitVec.ofNat 64 o)
  length o := (mem (madt + BitVec.ofNat 64 (o + 1))).toNat

def madtLength (mem : Memory 64) (madt : Addr) : Nat := (load mem (madt + lengthOffset) 4).toNat

section Lookup

variable {xsdt : Addr} {m : KernelMachine}

theorem sameSignature_loads (signature : List (BitVec 8)) (a : Addr) (m : KernelMachine) :
    Loads m (sameSignature signature a m).2 := by
  induction signature generalizing a m with
  | nil => exact Loads.refl m
  | cons c signature ih =>
      have load := Loads.load m .acpi a 1
      rw [sameSignature]
      dsimp only
      split
      · exact load.trans (ih (a + 1) _)
      · exact load

theorem sameSignature_fst (signature : List (BitVec 8)) (a : Addr) (m : KernelMachine) :
    (sameSignature signature a m).1 = hasSignature m.mem signature a := by
  induction signature generalizing a m with
  | nil => rfl
  | cons c signature ih =>
      rw [sameSignature, hasSignature]
      dsimp only
      rw [Machine.load_fst, load_one]
      by_cases same : m.mem a = c
      · rw [if_pos same, ih, same, beq_self_eq_true, Bool.true_and]
        rfl
      · rw [if_neg same, beq_eq_false_iff_ne.mpr same, Bool.false_and]

theorem findAcpiTable_loads (xsdt : Addr) (signature : List (BitVec 8)) (turns : Nat) (i : BitVec 16)
    (m : KernelMachine) : Loads m (findAcpiTable xsdt signature turns i m).2 := by
  induction turns generalizing i m with
  | zero => exact Loads.refl m
  | succ turns ih =>
      have pointer (m : KernelMachine) : Loads m (loadSdtPtr xsdt i m).2 := Loads.load m .xsdt _ 8
      have header := (pointer m).trans
        (sameSignature_loads signature (loadSdtPtr xsdt i m).1 (loadSdtPtr xsdt i m).2)
      rw [findAcpiTable]
      dsimp only
      split
      · exact header.trans (pointer _)
      · exact header.trans (ih (i + 1) _)

theorem findAcpiTable_fst (xsdt : Addr) (signature : List (BitVec 8)) (turns : Nat) {i : BitVec 16}
    (bound : i.toNat + turns < 2 ^ 16) :
    (findAcpiTable xsdt signature turns i m).1 =
      (((List.range' i.toNat turns).map fun j => load m.mem (sdtPtrAddr xsdt j) 8).find?
        (hasSignature m.mem signature)).getD 0 := by
  induction turns generalizing i m with
  | zero => rfl
  | succ turns ih =>
      have next : (i + 1).toNat = i.toNat + 1 :=
        BitVec.toNat_add_of_lt (by change i.toNat + 1 < 2 ^ 16; omega)
      have pointer (m : KernelMachine) : loadSdtPtr xsdt i m =
          m.load .xsdt (sdtPtrAddr xsdt i.toNat) 8 := by
        rw [loadSdtPtr, sdtPtrAddr, BitVec.ofNat_toNat]
      have compared := sameSignature_loads signature (load m.mem (sdtPtrAddr xsdt i.toNat) 8)
        (m.load .xsdt (sdtPtrAddr xsdt i.toNat) 8).2
      rw [findAcpiTable, List.range'_succ, List.map_cons, List.find?_cons, pointer]
      dsimp only
      rw [Machine.load_fst, sameSignature_fst, Machine.load_mem]
      cases hasSignature m.mem signature (load m.mem (sdtPtrAddr xsdt i.toNat) 8) with
      | true =>
          rw [if_pos rfl, pointer, Machine.load_fst, compared.mem_eq]
          rfl
      | false =>
          rw [if_neg (by decide), ih (by omega), next, compared.mem_eq]
          rfl

end Lookup

section Walk

variable {madt : Addr} {m : KernelMachine} {t : BitVec 8}

theorem tableAddr_le_iff (madt : Addr) (length : BitVec 32) {o : Nat}
    (straight : madt.toNat + 44 * length.toNat + 256 ≤ 2 ^ 64) (near : o ≤ 44 * length.toNat + 255) :
    madt + BitVec.ofNat 64 o ≤ madt + madtSize * length.setWidth 64 ↔ o ≤ 44 * length.toNat := by
  have bound := length.isLt
  rw [BitVec.le_def, BitVec.toNat_add, BitVec.toNat_add, BitVec.toNat_mul, BitVec.toNat_ofNat,
    BitVec.toNat_setWidth]
  change (madt.toNat + o % 2 ^ 64) % 2 ^ 64 ≤
    (madt.toNat + 44 * (length.toNat % 2 ^ 64) % 2 ^ 64) % 2 ^ 64 ↔ _
  omega

/-- The loads of a turn: the length of the table, then the header of the record at the offset. -/
def readRecord (madt : Addr) (o : Nat) (m : KernelMachine) : KernelMachine :=
  let (_, m) := m.load .acpi (madt + lengthOffset) 4
  let (_, m) := m.load .acpi (madt + BitVec.ofNat 64 o) 1
  (m.load .acpi (madt + BitVec.ofNat 64 (o + 1)) 1).2

@[simp] theorem readRecord_mem (madt : Addr) (o : Nat) (m : KernelMachine) :
    (readRecord madt o m).mem = m.mem := rfl

theorem readRecord_loads (madt : Addr) (o : Nat) (m : KernelMachine) :
    Loads m (readRecord madt o m) :=
  let read := m.load .acpi (madt + lengthOffset) 4
  let type := read.2.load .acpi (madt + BitVec.ofNat 64 o) 1
  ((Loads.load m _ _ 4).trans (Loads.load read.2 _ _ 1)).trans (Loads.load type.2 _ _ 1)

theorem madtEntryLoop_succ (madt : Addr) (t : BitVec 8) (turns o : Nat) (m : KernelMachine) :
    madtEntryLoop madt t (turns + 1) (madt + BitVec.ofNat 64 o) m =
      if madt + BitVec.ofNat 64 o ≤ madt + madtSize * (load m.mem (madt + lengthOffset) 4).setWidth 64
      then
        if (madtRecords m.mem madt).kind o = t then
          some (madt + BitVec.ofNat 64 o, readRecord madt o m)
        else if (madtRecords m.mem madt).length o = 0 then some (0, readRecord madt o m)
        else madtEntryLoop madt t turns
          (madt + BitVec.ofNat 64 (o + (madtRecords m.mem madt).length o)) (readRecord madt o m)
      else some (0, (m.load .acpi (madt + lengthOffset) 4).2) := by
  have next : madt + BitVec.ofNat 64 o + 1 = madt + BitVec.ofNat 64 (o + 1) := offset_add madt o 1
  have type : load m.mem (madt + BitVec.ofNat 64 o) 1 = (madtRecords m.mem madt).kind o :=
    load_one m.mem _
  have recordLength : load m.mem (madt + BitVec.ofNat 64 (o + 1)) 1 =
      BitVec.ofNat 8 ((madtRecords m.mem madt).length o) := by
    change _ = BitVec.ofNat 8 (m.mem (madt + BitVec.ofNat 64 (o + 1))).toNat
    rw [load_one, BitVec.ofNat_toNat, BitVec.setWidth_eq]
  have small : (madtRecords m.mem madt).length o < 2 ^ 8 := BitVec.isLt _
  have empty : BitVec.ofNat 8 ((madtRecords m.mem madt).length o) = 0 ↔
      (madtRecords m.mem madt).length o = 0 := by
    rw [BitVec.toNat_eq, BitVec.toNat_ofNat, Nat.mod_eq_of_lt small]
    rfl
  have advance : (BitVec.ofNat 8 ((madtRecords m.mem madt).length o)).setWidth 64 =
      BitVec.ofNat 64 ((madtRecords m.mem madt).length o) :=
    BitVec.setWidth_ofNat_of_le_of_lt (by decide) small
  rw [madtEntryLoop]
  simp only [Machine.load_fst, Machine.load_mem, next, type, recordLength, empty, advance, offset_add]
  rfl

/-- The loop searches the records up to the limit that it computes, 44 times the length of the
table: by induction on the turns. -/
theorem madtEntryLoop_eq (turns : Nat) {o : Nat}
    (straight : madt.toNat + 44 * madtLength m.mem madt + 256 ≤ 2 ^ 64)
    (near : o ≤ 44 * madtLength m.mem madt + 255)
    (enough : 44 * madtLength m.mem madt + 1 < o + turns) (positive : 0 < turns) :
    ∃ m', Loads m m' ∧ madtEntryLoop madt t turns (madt + BitVec.ofNat 64 o) m =
      some (((madtRecords m.mem madt).search t (44 * madtLength m.mem madt) turns o).elim 0
        (fun x => madt + BitVec.ofNat 64 x), m') := by
  induction turns generalizing o m with
  | zero => omega
  | succ turns ih =>
      have inside := tableAddr_le_iff madt (load m.mem (madt + lengthOffset) 4) straight near
      rw [madtEntryLoop_succ, RecordChain.search]
      by_cases early : o ≤ 44 * madtLength m.mem madt
      · have read := readRecord_loads madt o m
        let c := madtRecords m.mem madt
        rw [if_pos (inside.mpr early), if_pos early]
        by_cases hit : c.kind o = t
        · rw [if_pos hit, if_pos hit]
          exact ⟨_, read, rfl⟩
        · rw [if_neg hit, if_neg hit]
          by_cases empty : c.length o = 0
          · rw [if_pos empty, if_pos empty]
            exact ⟨_, read, rfl⟩
          · have bound : c.length o < 2 ^ 8 := BitVec.isLt _
            rw [if_neg empty, if_neg empty]
            obtain ⟨m', loads, loop⟩ := ih (m := readRecord madt o m) (o := o + c.length o) straight
              (by change o + c.length o ≤ 44 * madtLength m.mem madt + 255; omega)
              (by change 44 * madtLength m.mem madt + 1 < o + c.length o + turns; omega) (by omega)
            exact ⟨m', read.trans loads, loop⟩
      · rw [if_neg (mt inside.mp early), if_neg early]
        exact ⟨_, Loads.load m .acpi _ 4, rfl⟩

/-- Where the kernel finds the first entry of a type. -/
def FirstEntry (t : BitVec 8) (mem : Memory 64) (madt : Addr) (start : Nat) : Nat → Prop :=
  (madtRecords mem madt).First t (44 * madtLength mem madt) start

variable {a : Acpi}

theorem getMadtEntryAddr_spec (t : BitVec 8)
    (straight : a.acpiTables.madt.toNat + 44 * madtLength a.machine.mem a.acpiTables.madt + 256 ≤
      2 ^ 64) :
    ∃ entry m', getMadtEntryAddr t a = .ok (entry, a.withMachine m') ∧ Loads a.machine m' ∧
      (∀ x, FirstEntry t a.machine.mem a.acpiTables.madt 0x2C x →
        entry = a.acpiTables.madt + BitVec.ofNat 64 x) ∧
      ((∀ x, ¬ FirstEntry t a.machine.mem a.acpiTables.madt 0x2C x) → entry = 0) := by
  have enough : 44 * madtLength a.machine.mem a.acpiTables.madt < 0x2C + 2 ^ 64 := by omega
  obtain ⟨m', loads, loop⟩ := madtEntryLoop_eq (2 ^ 64) (t := t) (o := 0x2C) straight
    (by omega) (by omega) (by decide)
  let searched := (madtRecords a.machine.mem a.acpiTables.madt).search t
    (44 * madtLength a.machine.mem a.acpiTables.madt) (2 ^ 64) 0x2C
  refine ⟨searched.elim 0 fun x => a.acpiTables.madt + BitVec.ofNat 64 x, m', ?_, loads, ?_, ?_⟩
  · unfold getMadtEntryAddr
    rw [show a.acpiTables.madt + 0x2C = a.acpiTables.madt + BitVec.ofNat 64 0x2C from rfl, loop]
  · intro x first
    rw [show searched = some x from (RecordChain.search_eq_some_iff enough).mpr first]
    rfl
  · intro absent
    rw [show searched = none from (RecordChain.search_eq_none_iff enough).mpr absent]
    rfl

theorem entry_ne_zero {mem : Memory 64} {t : BitVec 8} {start x : Nat} (nonzero : madt ≠ 0)
    (straight : madt.toNat + 44 * madtLength mem madt + 256 ≤ 2 ^ 64)
    (first : FirstEntry t mem madt start x) :
    madt + BitVec.ofNat 64 x ≠ 0 ∧ madt + BitVec.ofNat 64 x + 4 ≠ 0 := by
  have bounds := first.bounds
  have positive : madt.toNat ≠ 0 := fun zero => nonzero (BitVec.eq_of_toNat_eq zero)
  have place : (madt + BitVec.ofNat 64 x).toNat = madt.toNat + x := by
    rw [BitVec.toNat_add, BitVec.toNat_ofNat]
    omega
  constructor
  · intro zero
    rw [zero] at place
    change 0 = madt.toNat + x at place
    omega
  · intro zero
    have field := congrArg BitVec.toNat zero
    rw [BitVec.toNat_add, place] at field
    change (madt.toNat + x + 4) % 2 ^ 64 = 0 at field
    omega

/-- What `acpi_init` leaves for the getter: the address of an override's field, not its
content. -/
theorem saveLapicAddress_spec (nonzero : a.acpiTables.madt ≠ 0)
    (straight : a.acpiTables.madt.toNat + 44 * madtLength a.machine.mem a.acpiTables.madt + 256 ≤
      2 ^ 64) :
    ∃ a', saveLapicAddress a = .ok a' ∧
      (∃ machine, Loads a.machine machine ∧ a'.console = { a.console with machine } ∧
        a'.acpiTables = a.acpiTables) ∧
      (∀ x, FirstEntry madtEntryTypeLapicAddressOverride a.machine.mem a.acpiTables.madt 0x2C x →
        getLapicAddressAcpi a' = a.acpiTables.madt + BitVec.ofNat 64 x + 4) ∧
      ((∀ x, ¬ FirstEntry madtEntryTypeLapicAddressOverride a.machine.mem a.acpiTables.madt 0x2C x) →
        getLapicAddressAcpi a' =
          (load a.machine.mem (a.acpiTables.madt + lapicAddressOffset) 4).setWidth 64) := by
  obtain ⟨entry, m', gets, loads, found, missing⟩ :=
    getMadtEntryAddr_spec madtEntryTypeLapicAddressOverride straight
  by_cases absent :
      ∀ x, ¬ FirstEntry madtEntryTypeLapicAddressOverride a.machine.mem a.acpiTables.madt 0x2C x
  · have null := missing absent
    refine ⟨{ a.withMachine (m'.load .acpi (a.acpiTables.madt + lapicAddressOffset) 4).2 with
      lapicX8664Addr := 0
      lapicX86Addr := load m'.mem (a.acpiTables.madt + lapicAddressOffset) 4 }, ?_,
      ⟨_, loads.trans (Loads.load m' .acpi _ 4), rfl, rfl⟩, fun x first => absurd first (absent x), fun _ => ?_⟩
    · rw [null] at gets
      exact bind_ok gets (if_pos rfl)
    · rw [← loads.mem_eq]
      exact if_pos rfl
  · obtain ⟨x, first⟩ := not_forall_not.mp absent
    have place := found x first
    have nonnull := entry_ne_zero nonzero straight first
    refine ⟨{ a.withMachine m' with lapicX8664Addr := entry + 4 }, ?_, ⟨m', loads, rfl, rfl⟩,
      fun y other => ?_, fun missed => absurd first (missed x)⟩
    · refine bind_ok gets (if_neg ?_)
      rw [place]
      exact nonnull.1
    · rw [other.unique first, ← place]
      apply if_neg
      change entry + 4 ≠ 0
      rw [place]
      exact nonnull.2

end Walk

/-- The XSDT, as the XSDP names it, and the tables that it lists. -/
def xsdtOf (mem : Memory 64) (xsdp : Addr) : Addr := load mem (xsdp + xsdtPtrOffset) 8

def listedCount (mem : Memory 64) (xsdp : Addr) : BitVec 16 :=
  xsdtEntryCount (load mem (xsdtOf mem xsdp + lengthOffset) 4)

def listed (mem : Memory 64) (xsdp : Addr) : List Addr :=
  sdtPtrs mem (xsdtOf mem xsdp) (listedCount mem xsdp).toNat

/-- Firmware tables that are no part of what the console draws on. -/
structure FirmwareTables (s : Screen) (mem : Memory 64) (xsdp madt : Addr) : Prop where
  fadtListed : ∃ fadt, fadt ≠ 0 ∧
    (listed mem xsdp).find? (hasSignature mem (ascii "FACP")) = some fadt
  madtListed : (listed mem xsdp).find? (hasSignature mem (ascii "APIC")) = some madt
  nonzero : madt ≠ 0
  pointers : ∀ i, i < (listedCount mem xsdp).toNat →
    ∀ x, Within x (sdtPtrAddr (xsdtOf mem xsdp) i) 8 → s.Untouched x
  signatures : ∀ p ∈ listed mem xsdp, ∀ x, Within x p 4 → s.Untouched x
  table : ∀ x, Within x madt (madtLength mem madt) → s.Untouched x

def lookUp (mem : Memory 64) (xsdp : Addr) (signature : String) : Addr :=
  ((listed mem xsdp).find? (hasSignature mem (ascii signature))).getD 0

/-- The state of `acpi_init` once it knows the XSDT, in a memory that is `mem` where `kept` says. -/
structure Located (s : Screen) (kept : Addr → Prop) (mem : Memory 64) (xsdp : Addr) (a : Acpi) :
    Prop where
  on : a.console.On s
  xsdt : a.acpiTables.xsdt = xsdtOf mem xsdp
  count : a.numXsdtEntries = listedCount mem xsdp
  keeps : ∀ x, kept x → a.machine.mem x = mem x

section Locate

variable {s : Screen} {kept : Addr → Prop} {mem mem' : Memory 64} {xsdp madt : Addr} {a : Acpi}

theorem hasSignature_congr {signature : List (BitVec 8)} {p : Addr}
    (same : ∀ i, i < signature.length → mem' (p + BitVec.ofNat 64 i) = mem (p + BitVec.ofNat 64 i)) :
    hasSignature mem' signature p = hasSignature mem signature p := by
  induction signature generalizing p with
  | nil => rfl
  | cons c signature ih =>
      have first := same 0 (Nat.succ_pos _)
      rw [BitVec.add_zero] at first
      rw [hasSignature, hasSignature, first, ih]
      intro i bound
      have later := same (i + 1) (Nat.succ_lt_succ bound)
      rw [Nat.add_comm i 1, ← offset_add] at later
      exact later

/-- What is read of the XSDT and of the tables' headers is kept. -/
structure ListedClear (kept : Addr → Prop) (mem : Memory 64) (xsdp : Addr) : Prop where
  pointers : ∀ i, i < (listedCount mem xsdp).toNat →
    ∀ x, Within x (sdtPtrAddr (xsdtOf mem xsdp) i) 8 → kept x
  signatures : ∀ p ∈ listed mem xsdp, ∀ x, Within x p 4 → kept x

theorem FirmwareTables.clear (tables : FirmwareTables s mem xsdp madt) :
    ListedClear s.Untouched mem xsdp :=
  ⟨tables.pointers, tables.signatures⟩

theorem ListedClear.lookup_eq (clear : ListedClear kept mem xsdp)
    (keeps : ∀ x, kept x → mem' x = mem x) {signature : List (BitVec 8)}
    (four : signature.length = 4) :
    (sdtPtrs mem' (xsdtOf mem xsdp) (listedCount mem xsdp).toNat).find?
        (hasSignature mem' signature) =
      (listed mem xsdp).find? (hasSignature mem signature) := by
  have same : sdtPtrs mem' (xsdtOf mem xsdp) (listedCount mem xsdp).toNat = listed mem xsdp := by
    apply List.map_congr_left
    intro i member
    have bound := (List.mem_range'_1.mp member).2
    exact load_congr_within (by decide) fun x inside =>
      keeps x (clear.pointers i (by omega) x inside)
  rw [same]
  apply List.find?_congr
  intro p member
  apply hasSignature_congr
  intro i bound
  exact keeps _ (clear.signatures p member _ (within_offset (by omega) (by decide)))

theorem Located.withMachine (located : Located s kept mem xsdp a) {m : KernelMachine}
    (loads : Loads a.machine m) : Located s kept mem xsdp (a.withMachine m) where
  on := (Prints.of_loads located.on loads).on
  xsdt := located.xsdt
  count := located.count
  keeps := fun x inside => by
    rw [← located.keeps x inside]
    exact congrFun loads.mem_eq x

theorem Located.saved (located : Located s kept mem xsdp a) (tables : AcpiTables)
    (same : tables.xsdt = a.acpiTables.xsdt) :
    Located s kept mem xsdp { a with acpiTables := tables } :=
  ⟨located.on, same.trans located.xsdt, located.count, located.keeps⟩

theorem Located.getAcpiTable (located : Located s kept mem xsdp a)
    (clear : ListedClear kept mem xsdp) (signature : String)
    (four : (ascii signature).length = 4) :
    ∃ m, Loads a.machine m ∧ Kernel.getAcpiTable signature a =
      (lookUp mem xsdp signature, a.withMachine m) := by
  have bound := a.numXsdtEntries.isLt
  have loads := findAcpiTable_loads a.acpiTables.xsdt (ascii signature)
    a.numXsdtEntries.toNat 0 a.machine
  have value := findAcpiTable_fst a.acpiTables.xsdt (ascii signature) a.numXsdtEntries.toNat
    (m := a.machine) (i := 0) (by change 0 + _ < _; omega)
  have lookup := clear.lookup_eq located.keeps four
  rw [lookUp, ← lookup, ← located.xsdt, ← located.count]
  exact ⟨_, loads, Prod.ext value rfl⟩

section Found

variable (clear : ListedClear kept mem xsdp) (untouched : ∀ x, kept x → s.Untouched x)

include untouched in
theorem Located.logged (located : Located s kept mem xsdp a) (filter : BitVec 8) (msg : String) :
    ∃ a', Kernel.logged filter msg a = .ok a' ∧ Located s kept mem xsdp a' ∧
      a'.acpiTables = a.acpiTables := by
  obtain ⟨console, logs, prints⟩ := kernLog_prints located.on filter msg
  refine ⟨{ a with console }, bind_ok logs rfl, ⟨prints.on, located.xsdt, located.count, ?_⟩, rfl⟩
  intro x inside
  exact (prints.mem_eq (untouched x inside)).trans (located.keeps x inside)

include clear untouched

theorem locateFadt_found (located : Located s kept mem xsdp a) (found : lookUp mem xsdp "FACP" ≠ 0) :
    ∃ a', locateFadt a = .ok a' ∧ Located s kept mem xsdp a' ∧
      a'.acpiTables = { a.acpiTables with fadt := lookUp mem xsdp "FACP" } := by
  obtain ⟨m, loads, gets⟩ := located.getAcpiTable clear "FACP" (by decide)
  have saved := (located.withMachine loads).saved
    { a.acpiTables with fadt := lookUp mem xsdp "FACP" } rfl
  obtain ⟨a', logs, at', same⟩ := saved.logged untouched filterDebug
    "Debug: ACPI table FADT (sign: \"FACP\") successfully located"
  refine ⟨a', ?_, at', same⟩
  unfold locateFadt
  simp only [gets]
  exact (if_neg found).trans logs

theorem locateHpet_found (located : Located s kept mem xsdp a) :
    ∃ a', locateHpet a = .ok a' ∧ Located s kept mem xsdp a' ∧
      a'.acpiTables = { a.acpiTables with hpet := lookUp mem xsdp "HPET" } := by
  obtain ⟨m, loads, gets⟩ := located.getAcpiTable clear "HPET" (by decide)
  have saved := (located.withMachine loads).saved
    { a.acpiTables with hpet := lookUp mem xsdp "HPET" } rfl
  unfold locateHpet
  simp only [gets]
  by_cases absent : lookUp mem xsdp "HPET" = 0
  · obtain ⟨a', logs, at', same⟩ := saved.logged untouched filterCritical
      "Warning: ACPI table HPET not found"
    exact ⟨a', (if_pos absent).trans logs, at', same⟩
  · obtain ⟨a', logs, at', same⟩ := saved.logged untouched filterDebug
      "Debug: ACPI table HPET (sign: \"HPET\") successfully located"
    exact ⟨a', (if_neg absent).trans logs, at', same⟩

theorem locateMadt_found (located : Located s kept mem xsdp a) (found : lookUp mem xsdp "APIC" ≠ 0) :
    ∃ a', locateMadt a = .ok a' ∧ Located s kept mem xsdp a' ∧
      a'.acpiTables = { a.acpiTables with madt := lookUp mem xsdp "APIC" } := by
  obtain ⟨m, loads, gets⟩ := located.getAcpiTable clear "APIC" (by decide)
  have saved := (located.withMachine loads).saved
    { a.acpiTables with madt := lookUp mem xsdp "APIC" } rfl
  obtain ⟨a', logs, at', same⟩ := saved.logged untouched filterDebug
    "Debug: ACPI table MADT (sign: \"ACPI\") successfully located"
  refine ⟨a', ?_, at', same⟩
  unfold locateMadt
  simp only [gets]
  exact (if_neg found).trans logs

/-- With the FADT and the MADT listed, `acpi_init` gets to its walk over the MADT. -/
theorem locateTables_found (on : a.console.On s) (keeps : ∀ x, kept x → a.machine.mem x = mem x)
    (xsdt : xsdtOf a.machine.mem xsdp = xsdtOf mem xsdp)
    (count : listedCount a.machine.mem xsdp = listedCount mem xsdp)
    (fadt : lookUp mem xsdp "FACP" ≠ 0) (madt : lookUp mem xsdp "APIC" ≠ 0) :
    ∃ b, locateTables xsdp a = .ok b ∧ Located s kept mem xsdp b ∧
      b.acpiTables = ⟨xsdp, xsdtOf mem xsdp, lookUp mem xsdp "FACP", lookUp mem xsdp "HPET",
        lookUp mem xsdp "APIC"⟩ := by
  have loads := (Loads.load a.machine .acpi (xsdp + xsdtPtrOffset) 8).trans
    (Loads.load _ .acpi (xsdtOf a.machine.mem xsdp + lengthOffset) 4)
  have start : Located s kept mem xsdp
      { a.withMachine ((a.machine.load .acpi (xsdp + xsdtPtrOffset) 8).2.load .acpi
          (xsdtOf a.machine.mem xsdp + lengthOffset) 4).2 with
        acpiTables := ⟨xsdp, xsdtOf a.machine.mem xsdp, 0, 0, 0⟩
        numXsdtEntries := listedCount a.machine.mem xsdp } :=
    ⟨(Prints.of_loads on loads).on, xsdt, count,
      fun x inside => (congrFun loads.mem_eq x).trans (keeps x inside)⟩
  obtain ⟨a₁, found₁, at₁, tables₁⟩ := locateFadt_found clear untouched start fadt
  obtain ⟨a₂, found₂, at₂, tables₂⟩ := locateHpet_found clear untouched at₁
  obtain ⟨b, found₃, at₃, tables₃⟩ := locateMadt_found clear untouched at₂ madt
  refine ⟨b, bind_ok found₁ (bind_ok found₂ found₃), at₃, ?_⟩
  rw [tables₃, tables₂, tables₁, xsdt]

end Found

theorem FirmwareTables.locates (on : a.console.On s)
    (tables : FirmwareTables s a.machine.mem xsdp madt) :
    ∃ b, locateTables xsdp a = .ok b ∧ Located s s.Untouched a.machine.mem xsdp b ∧
      b.acpiTables.madt = madt := by
  obtain ⟨fadt, nonzero, facp⟩ := tables.fadtListed
  have found : lookUp a.machine.mem xsdp "FACP" = fadt := by
    rw [lookUp, facp, Option.getD_some]
  have place : lookUp a.machine.mem xsdp "APIC" = madt := by
    rw [lookUp, tables.madtListed, Option.getD_some]
  obtain ⟨b, locates, located, same⟩ := locateTables_found tables.clear (fun _ kept => kept) on
    (fun _ _ => rfl) rfl rfl (found ▸ nonzero) (place ▸ tables.nonzero)
  exact ⟨b, locates, located, (congrArg AcpiTables.madt same).trans place⟩

theorem acpiInit_ok {b a' : Acpi} (locates : locateTables xsdp a = .ok b)
    (saves : saveLapicAddress b = .ok a') : acpiInit xsdp a = .ok a' :=
  bind_ok locates saves

end Locate

/-- The entries of a MADT: they fill it behind its header. -/
def MadtEntries (mem : Memory 64) (madt : Addr) (entries : List Nat) : Prop :=
  (madtRecords mem madt).Fills 2 (madtLength mem madt) 0x2C entries

def firstOverride (mem : Memory 64) (madt : Addr) (entries : List Nat) : Option Nat :=
  entries.find? fun o => (madtRecords mem madt).kind o == madtEntryTypeLapicAddressOverride

/-- The address of the LAPIC that a MADT with these entries declares. -/
def declaredLapicAddress (mem : Memory 64) (madt : Addr) (entries : List Nat) : BitVec 64 :=
  match firstOverride mem madt entries with
  | some o => load mem (madt + BitVec.ofNat 64 o + 4) 8
  | none => (load mem (madt + lapicAddressOffset) 4).setWidth 64

section Declared

variable {s : Screen} {mem mem' : Memory 64} {xsdp madt : Addr} {entries : List Nat}

structure SameTable (mem mem' : Memory 64) (madt : Addr) : Prop where
  length : madtLength mem' madt = madtLength mem madt
  bytes : ∀ i, i < madtLength mem madt →
    mem' (madt + BitVec.ofNat 64 i) = mem (madt + BitVec.ofNat 64 i)

theorem FirmwareTables.sameTable (tables : FirmwareTables s mem xsdp madt)
    (keeps : ∀ x, s.Untouched x → mem' x = mem x) (header : 0x2C ≤ madtLength mem madt) :
    SameTable mem mem' madt := by
  have bound : madtLength mem madt < 2 ^ 32 := (load mem (madt + lengthOffset) 4).isLt
  have bytes (i : Nat) (inside : i < madtLength mem madt) :
      mem' (madt + BitVec.ofNat 64 i) = mem (madt + BitVec.ofNat 64 i) :=
    keeps _ (tables.table _ (within_offset inside (by omega)))
  refine ⟨congrArg BitVec.toNat (load_congr fun i inside => ?_), bytes⟩
  rw [show lengthOffset = BitVec.ofNat 64 4 from rfl, offset_add]
  exact bytes (4 + i) (by omega)

theorem SameTable.kind_eq (same : SameTable mem mem' madt) (fills : MadtEntries mem madt entries)
    {o : Nat} (member : o ∈ entries) :
    (madtRecords mem' madt).kind o = (madtRecords mem madt).kind o := by
  have inside := fills.header_le o member
  exact same.bytes o (by omega)

theorem SameTable.fills (same : SameTable mem mem' madt) (fills : MadtEntries mem madt entries) :
    MadtEntries mem' madt entries := by
  rw [MadtEntries, same.length]
  apply RecordChain.Fills.congr fills
  intro o member
  have inside := fills.header_le o member
  exact congrArg BitVec.toNat (same.bytes (o + 1) (by omega))

theorem SameTable.firstOverride_eq (same : SameTable mem mem' madt)
    (fills : MadtEntries mem madt entries) :
    firstOverride mem' madt entries = firstOverride mem madt entries := by
  apply List.find?_congr
  intro o member
  rw [same.kind_eq fills member]

theorem SameTable.lapicAddress_eq (same : SameTable mem mem' madt)
    (header : 0x2C ≤ madtLength mem madt) :
    load mem' (madt + lapicAddressOffset) 4 = load mem (madt + lapicAddressOffset) 4 := by
  apply load_congr
  intro i inside
  rw [show lapicAddressOffset = BitVec.ofNat 64 36 from rfl, offset_add]
  exact same.bytes (36 + i) (by omega)

end Declared

/-- The kernel uses the declared address if and only if the override entry holds the address of
its own field or, in a table without one, no such entry is found in what follows the table
(or one whose field happens to be at the declared address). -/
theorem lapicAddress_declared_iff {s : Screen} {a : Acpi} (on : a.console.On s) {xsdp madt : Addr}
    (tables : FirmwareTables s a.machine.mem xsdp madt) {entries : List Nat}
    (fills : MadtEntries a.machine.mem madt entries)
    (straight : madt.toNat + 44 * madtLength a.machine.mem madt + 256 ≤ 2 ^ 64) :
    ∃ b a', locateTables xsdp a = .ok b ∧ acpiInit xsdp a = .ok a' ∧
      (getLapicAddressAcpi a' = declaredLapicAddress a.machine.mem madt entries ↔
        match firstOverride a.machine.mem madt entries with
        | some o => load a.machine.mem (madt + BitVec.ofNat 64 o + 4) 8 =
            madt + BitVec.ofNat 64 o + 4
        | none => ∀ x, FirstEntry madtEntryTypeLapicAddressOverride b.machine.mem madt
            (madtLength a.machine.mem madt) x →
            madt + BitVec.ofNat 64 x + 4 =
              (load a.machine.mem (madt + lapicAddressOffset) 4).setWidth 64) := by
  have header := fills.start_le
  obtain ⟨b, locates, located, place⟩ := tables.locates on
  have same := tables.sameTable located.keeps header
  have fills' := same.fills fills
  rw [← same.length, ← place] at straight
  obtain ⟨a', saves, -, found, missing⟩ :=
    saveLapicAddress_spec (by rw [place]; exact tables.nonzero) straight
  rw [place] at found missing
  refine ⟨b, a', locates, acpiInit_ok locates saves, ?_⟩
  rw [declaredLapicAddress]
  cases override : firstOverride a.machine.mem madt entries with
  | some o =>
      have first := RecordChain.Fills.first_of_find fills' (by decide)
        (show _ ≤ 44 * madtLength b.machine.mem madt by omega)
        ((same.firstOverride_eq fills).trans override)
      rw [found o first]
      exact eq_comm
  | none =>
      have behind (x : Nat) : FirstEntry madtEntryTypeLapicAddressOverride b.machine.mem madt 0x2C x ↔
          FirstEntry madtEntryTypeLapicAddressOverride b.machine.mem madt
            (madtLength a.machine.mem madt) x := by
        rw [← same.length]
        exact RecordChain.Fills.first_iff_behind fills' (by decide) (by omega)
          ((same.firstOverride_eq fills).trans override)
      by_cases absent :
          ∀ x, ¬ FirstEntry madtEntryTypeLapicAddressOverride b.machine.mem madt 0x2C x
      · rw [missing absent, same.lapicAddress_eq header]
        exact iff_of_true rfl fun x first => absurd ((behind x).mpr first) (absent x)
      · obtain ⟨x, first⟩ := not_forall_not.mp absent
        rw [found x first]
        constructor
        · intro equal y other
          rw [((behind y).mpr other).unique first]
          exact equal
        · intro all
          exact all x ((behind x).mp first)

section Sample

/-- An XSDP at 0x100000, an XSDT that lists a FADT and a MADT, and one override entry. -/
def firmwareMemory : Memory 64 :=
  let mem : Memory 64 := fun _ => 0
  let mem := store mem 0x100018 (n := 8) 0x100040
  let mem := store mem 0x100044 (n := 4) 52
  let mem := store mem 0x100064 (n := 8) 0x100080
  let mem := store mem 0x10006C (n := 8) 0x1000C0
  let mem := store mem 0x100080 (n := 4) 0x50434146
  let mem := store mem 0x1000C0 (n := 4) 0x43495041
  let mem := store mem 0x1000C4 (n := 4) 56
  let mem := store mem 0x1000E4 (n := 4) 0xFEE00000
  let mem := store mem 0x1000EC (n := 2) 0x0C05
  store mem 0x1000F0 (n := 8) 0xFED00000

theorem within_above {x a : Addr} {len : Nat} (inside : Within x a len) (above : 0x100000 ≤ a.toNat)
    (straight : a.toNat + len ≤ 2 ^ 64) : cellScreen.Untouched x := by
  rw [within_iff_toNat straight] at inside
  exact cellScreen_untouched (by omega)

theorem firmwareMemory_xsdt : xsdtOf firmwareMemory 0x100000 = 0x100040 := by decide +kernel

theorem firmwareMemory_count : listedCount firmwareMemory 0x100000 = 2 := by
  have length : load firmwareMemory (0x100040 + lengthOffset) 4 = 52 := by decide +kernel
  rw [listedCount, firmwareMemory_xsdt, length]
  decide

theorem firmwareMemory_listed : listed firmwareMemory 0x100000 = [0x100080, 0x1000C0] := by
  have pointers : sdtPtrs firmwareMemory 0x100040 2 = [0x100080, 0x1000C0] := by decide +kernel
  rw [listed, firmwareMemory_xsdt, firmwareMemory_count]
  exact pointers

theorem firmwareMemory_length : madtLength firmwareMemory 0x1000C0 = 56 := by decide +kernel

theorem firmwareMemory_tables : FirmwareTables cellScreen firmwareMemory 0x100000 0x1000C0 where
  fadtListed := by
    rw [firmwareMemory_listed]
    exact ⟨0x100080, by decide, by decide +kernel⟩
  madtListed := by
    rw [firmwareMemory_listed]
    decide +kernel
  nonzero := by decide
  pointers := by
    have places : ∀ i, i < 2 → 0x100000 ≤ (sdtPtrAddr 0x100040 i).toNat ∧
        (sdtPtrAddr 0x100040 i).toNat + 8 ≤ 2 ^ 64 := by
      decide +kernel
    rw [firmwareMemory_xsdt, firmwareMemory_count]
    intro i bound x inside
    exact within_above inside (places i bound).1 (places i bound).2
  signatures := by
    rw [firmwareMemory_listed]
    intro p member x inside
    simp only [List.mem_cons, List.not_mem_nil, or_false] at member
    rcases member with rfl | rfl
    · exact within_above inside (by decide) (by decide)
    · exact within_above inside (by decide) (by decide)
  table := by
    intro x inside
    rw [firmwareMemory_length] at inside
    exact within_above inside (by decide) (by decide)

theorem firmwareMemory_entries : MadtEntries firmwareMemory 0x1000C0 [0x2C] := by
  have record : (madtRecords firmwareMemory 0x1000C0).length 0x2C = 12 := by decide +kernel
  have header : 2 ≤ (madtRecords firmwareMemory 0x1000C0).length 0x2C := by
    rw [record]
    decide
  have rest : (madtRecords firmwareMemory 0x1000C0).Fills 2 56
      (0x2C + (madtRecords firmwareMemory 0x1000C0).length 0x2C) [] := by
    rw [record]
    exact RecordChain.Fills.nil
  rw [MadtEntries, firmwareMemory_length]
  exact RecordChain.Fills.cons header rest

def firmwareAcpi : Acpi := Acpi.loaded (cellConsole ⟨firmwareMemory, []⟩)

theorem override_declared_iff :
    ∃ b a', locateTables 0x100000 firmwareAcpi = .ok b ∧ acpiInit 0x100000 firmwareAcpi = .ok a' ∧
      (getLapicAddressAcpi a' = declaredLapicAddress firmwareMemory 0x1000C0 [0x2C] ↔
        match firstOverride firmwareMemory 0x1000C0 [0x2C] with
        | some o => load firmwareMemory (0x1000C0 + BitVec.ofNat 64 o + 4) 8 =
            0x1000C0 + BitVec.ofNat 64 o + 4
        | none => ∀ x, FirstEntry madtEntryTypeLapicAddressOverride b.machine.mem 0x1000C0
            (madtLength firmwareMemory 0x1000C0) x →
            0x1000C0 + BitVec.ofNat 64 x + 4 =
              (load firmwareMemory (0x1000C0 + lapicAddressOffset) 4).setWidth 64) :=
  lapicAddress_declared_iff (a := firmwareAcpi) (cellConsole_on _) firmwareMemory_tables
    firmwareMemory_entries (by
      change _ + 44 * madtLength firmwareMemory 0x1000C0 + 256 ≤ _
      rw [firmwareMemory_length]
      decide)

/-- The kernel takes the address of the declared address for the address itself. -/
theorem override_misread :
    ∃ a', acpiInit 0x100000 firmwareAcpi = .ok a' ∧
      FirmwareTables cellScreen firmwareMemory 0x100000 0x1000C0 ∧
      MadtEntries firmwareMemory 0x1000C0 [0x2C] ∧
      declaredLapicAddress firmwareMemory 0x1000C0 [0x2C] = 0xFED00000 ∧
      getLapicAddressAcpi a' = 0x1000F0 := by
  have fills := firmwareMemory_entries
  have declared : declaredLapicAddress firmwareMemory 0x1000C0 [0x2C] = 0xFED00000 := by
    decide +kernel
  obtain ⟨b, locates, located, place⟩ :=
    FirmwareTables.locates (a := firmwareAcpi) (cellConsole_on _) firmwareMemory_tables
  have same : SameTable firmwareMemory b.machine.mem 0x1000C0 :=
    firmwareMemory_tables.sameTable located.keeps (by rw [firmwareMemory_length]; decide)
  have length := same.length.trans firmwareMemory_length
  obtain ⟨a', saves, -, found, -⟩ := saveLapicAddress_spec (a := b) (by rw [place]; decide)
    (by rw [place, length]; decide)
  have override : firstOverride b.machine.mem 0x1000C0 [0x2C] = some 0x2C :=
    (same.firstOverride_eq fills).trans (by decide +kernel)
  have first := RecordChain.Fills.first_of_find (same.fills fills) (by decide)
    (show _ ≤ 44 * madtLength b.machine.mem 0x1000C0 by omega) override
  rw [place] at found
  exact ⟨a', acpiInit_ok locates saves, firmwareMemory_tables, fills, declared, found 0x2C first⟩

end Sample

end Flosp.Kernel
