import Flosp.Kernel.Lapic

/-! The table pointers that `get_acpi_table` reads and the table that it returns, for an XSDT of
any length. -/

namespace Flosp.Kernel

open ByteMemory

/-- `acpi_tables.XSDT->sdt_header.length` -/
def xsdtLength (s : Acpi) : BitVec 32 := load s.machine.mem (s.acpiTables.xsdt + lengthOffset) 4

/-- `acpi_init` up to `num_XSDT_entries`. -/
def countTables (xsdpTable : Addr) (s : Acpi) : Acpi :=
  let (xsdt, m) := s.machine.load .acpi (xsdpTable + xsdtPtrOffset) 8
  let (length, m) := m.load .acpi (xsdt + lengthOffset) 4
  { s.withMachine m with
    acpiTables := { xsdp := xsdpTable, xsdt, fadt := 0, hpet := 0, madt := 0 }
    numXsdtEntries := xsdtEntryCount length }

theorem locateTables_eq (xsdpTable : Addr) (s : Acpi) :
    locateTables xsdpTable s = locateFadt (countTables xsdpTable s) >>= fun s =>
      locateHpet s >>= locateMadt := rfl

def lookUpTable (signature : List (BitVec 8)) (s : Acpi) : Addr × Acpi :=
  let found := findAcpiTable s.acpiTables.xsdt signature s.numXsdtEntries.toNat 0 s.machine
  (found.1, s.withMachine found.2)

theorem getAcpiTable_eq (signature : String) (s : Acpi) :
    getAcpiTable signature s = lookUpTable (ascii signature) s := rfl

/-- `num_XSDT_entries` is what `acpi_init` computes from the XSDT. -/
def Acpi.Counted (s : Acpi) : Prop := s.numXsdtEntries = xsdtEntryCount (xsdtLength s)

theorem countTables_counted (xsdpTable : Addr) (s : Acpi) : (countTables xsdpTable s).Counted := rfl

/-- The number of tables that an XSDT of this length lists. -/
def listedTables (length : BitVec 32) : Nat := (length.toNat - 36) / 8

/-- A table pointer is read in the first `length` bytes of the XSDT. -/
def InXsdt (xsdt : Addr) (length : Nat) (e : Access 64 Origin) : Prop :=
  e.tag = .xsdt → ∀ x, Within x e.addr e.len → Within x xsdt length

/-- `get_acpi_table` reads the pointers of the XSDT only and returns the first listed table with
the signature, or NULL. -/
structure LooksUpExactly (signature : List (BitVec 8)) (s : Acpi) : Prop where
  inside : AllNew (InXsdt s.acpiTables.xsdt (xsdtLength s).toNat) s.machine
    (lookUpTable signature s).2.machine
  found : (lookUpTable signature s).1 =
    ((sdtPtrs s.machine.mem s.acpiTables.xsdt (listedTables (xsdtLength s))).find?
      (hasSignature s.machine.mem signature)).getD 0

def FirstTable (signature : List (BitVec 8)) (mem : Memory 64) (xsdt : Addr) (i : Nat) : Prop :=
  hasSignature mem signature (load mem (sdtPtrAddr xsdt i) 8) = true ∧
    ∀ j, j < i → hasSignature mem signature (load mem (sdtPtrAddr xsdt j) 8) = false

section Pointers

variable {xsdt : Addr} {length : Nat} {m : KernelMachine}

theorem sdtPtrAddr_eq (xsdt : Addr) (i : Nat) :
    sdtPtrAddr xsdt i = xsdt + BitVec.ofNat 64 (36 + 8 * i) := by
  rw [sdtPtrAddr, BitVec.ofNat_add, BitVec.ofNat_mul, ← BitVec.add_assoc]
  rfl

theorem loadSdtPtr_inXsdt_iff {i : BitVec 16} :
    AllNew (InXsdt xsdt length) m (loadSdtPtr xsdt i m).2 ↔ 36 + 8 * i.toNat + 8 ≤ length := by
  have bound := i.isLt
  have place : xsdt + sdtHeaderSize + 8 * i.setWidth 64 =
      xsdt + BitVec.ofNat 64 (36 + 8 * i.toNat) := by
    rw [← sdtPtrAddr_eq, sdtPtrAddr, BitVec.ofNat_toNat]
  rw [loadSdtPtr, place, AllNew.step_iff rfl]
  change (Origin.xsdt = .xsdt → ∀ x, Within x (xsdt + BitVec.ofNat 64 (36 + 8 * i.toNat)) 8 →
    Within x xsdt length) ↔ _
  constructor
  · intro inside
    have last := inside rfl _ (within_offset (i := 7) (by decide) (by decide))
    rw [offset_add, within_offset_iff (by omega)] at last
    omega
  · intro fits _ x inside
    exact (within_of_sub (by omega) inside).mono fits

theorem sameSignature_inXsdt (signature : List (BitVec 8)) (a : Addr) (m : KernelMachine) :
    AllNew (InXsdt xsdt length) m (sameSignature signature a m).2 := by
  induction signature generalizing a m with
  | nil => exact AllNew.refl _ m
  | cons c signature ih =>
      have first : AllNew (InXsdt xsdt length) m (m.load .acpi a 1).2 :=
        (AllNew.step_iff rfl).mpr fun pointer => by cases pointer
      rw [sameSignature]
      dsimp only
      split
      · exact (AllNew.trans_iff (Extends.load m _ _ _) (sameSignature_loads _ _ _).grows).mpr
          ⟨first, ih (a + 1) _⟩
      · exact first

theorem findAcpiTable_inXsdt (signature : List (BitVec 8)) {turns : Nat} {i : BitVec 16}
    (bound : i.toNat + turns < 2 ^ 16)
    (fits : ∀ j, i.toNat ≤ j → j < i.toNat + turns → 36 + 8 * j + 8 ≤ length) :
    AllNew (InXsdt xsdt length) m (findAcpiTable xsdt signature turns i m).2 := by
  induction turns generalizing i m with
  | zero => exact AllNew.refl _ m
  | succ turns ih =>
      have next : (i + 1).toNat = i.toNat + 1 :=
        BitVec.toNat_add_of_lt (by change i.toNat + 1 < 2 ^ 16; omega)
      have pointer (m : KernelMachine) : AllNew (InXsdt xsdt length) m (loadSdtPtr xsdt i m).2 :=
        loadSdtPtr_inXsdt_iff.mpr (fits i.toNat (Nat.le_refl _) (by omega))
      have grows (m : KernelMachine) : Extends m (loadSdtPtr xsdt i m).2 := Extends.load m .xsdt _ 8
      have compares := sameSignature_loads signature (loadSdtPtr xsdt i m).1 (loadSdtPtr xsdt i m).2
      have header := (AllNew.trans_iff (grows m) compares.grows).mpr
        ⟨pointer m, sameSignature_inXsdt signature (loadSdtPtr xsdt i m).1 _⟩
      rw [findAcpiTable]
      dsimp only
      split
      · exact (AllNew.trans_iff ((grows m).trans compares.grows) (grows _)).mpr ⟨header, pointer _⟩
      · exact (AllNew.trans_iff ((grows m).trans compares.grows)
          (findAcpiTable_loads xsdt signature turns (i + 1) _).grows).mpr
          ⟨header, ih (by omega) fun j above below => fits j (by omega) (by omega)⟩

theorem findAcpiTable_first (signature : List (BitVec 8)) {turns : Nat} {i : BitVec 16}
    (some : 0 < turns)
    (inside : AllNew (InXsdt xsdt length) m (findAcpiTable xsdt signature turns i m).2) :
    36 + 8 * i.toNat + 8 ≤ length := by
  obtain ⟨turns, rfl⟩ := Nat.exists_eq_succ_of_ne_zero (Nat.ne_of_gt some)
  have grows (m : KernelMachine) : Extends m (loadSdtPtr xsdt i m).2 := Extends.load m .xsdt _ 8
  have compares := sameSignature_loads signature (loadSdtPtr xsdt i m).1 (loadSdtPtr xsdt i m).2
  have first : AllNew (InXsdt xsdt length) m (loadSdtPtr xsdt i m).2 := by
    rw [findAcpiTable] at inside
    dsimp only at inside
    split at inside
    · exact ((AllNew.trans_iff (grows m) (compares.grows.trans (grows _))).mp inside).1
    · exact ((AllNew.trans_iff (grows m) (compares.grows.trans
        (findAcpiTable_loads xsdt signature turns (i + 1) _).grows)).mp inside).1
  exact loadSdtPtr_inXsdt_iff.mp first

end Pointers

section Count

/-- An XSDT shorter than its header is taken for one of tens of thousands of tables. -/
theorem xsdtEntryCount_short {length : BitVec 32} (short : length.toNat < 36) :
    0 < (xsdtEntryCount length).toNat := by
  rw [xsdtEntryCount, BitVec.toNat_setWidth, BitVec.toNat_udiv, BitVec.toNat_sub,
    BitVec.toNat_setWidth]
  change 0 < (2 ^ 64 - 36 + length.toNat % 2 ^ 64) % 2 ^ 64 / 8 % 2 ^ 16
  omega

/-- Otherwise the count is cut down to 16 bits. -/
theorem xsdtEntryCount_eq {length : BitVec 32} (header : 36 ≤ length.toNat) :
    (xsdtEntryCount length).toNat = listedTables length % 2 ^ 16 := by
  have bound := length.isLt
  rw [xsdtEntryCount, BitVec.toNat_setWidth, BitVec.toNat_udiv, BitVec.toNat_sub,
    BitVec.toNat_setWidth, listedTables]
  change (2 ^ 64 - 36 + length.toNat % 2 ^ 64) % 2 ^ 64 / 8 % 2 ^ 16 = _
  omega

end Count

section First

variable {signature : List (BitVec 8)} {mem : Memory 64} {xsdt : Addr}

theorem find_sdtPtrs (signature : List (BitVec 8)) (mem : Memory 64) (xsdt : Addr) (count : Nat) :
    (sdtPtrs mem xsdt count).find? (hasSignature mem signature) =
      ((List.range' 0 count).find? fun i =>
        hasSignature mem signature (load mem (sdtPtrAddr xsdt i) 8)).map
          fun i => load mem (sdtPtrAddr xsdt i) 8 :=
  List.find?_map

theorem find_index_iff {count i : Nat} :
    ((List.range' 0 count).find? fun i =>
        hasSignature mem signature (load mem (sdtPtrAddr xsdt i) 8)) = some i ↔
      i < count ∧ FirstTable signature mem xsdt i := by
  rw [List.find?_range'_eq_some, List.mem_range'_1, FirstTable]
  simp only [Nat.zero_le, true_and, Nat.zero_add, true_implies, Bool.not_eq_true', and_left_comm]

/-- A search of fewer tables comes to the same if and only if it gets to the first one. -/
theorem find_fewer_iff {count total : Nat} (fewer : count ≤ total) :
    ((sdtPtrs mem xsdt count).find? (hasSignature mem signature)).getD 0 =
        ((sdtPtrs mem xsdt total).find? (hasSignature mem signature)).getD 0 ↔
      ∀ i, i < total → FirstTable signature mem xsdt i → load mem (sdtPtrAddr xsdt i) 8 ≠ 0 →
        i < count := by
  rw [find_sdtPtrs, find_sdtPtrs]
  let search (n : Nat) := (List.range' 0 n).find? fun i =>
    hasSignature mem signature (load mem (sdtPtrAddr xsdt i) 8)
  have listed : ∀ {n i}, search n = some i ↔ i < n ∧ FirstTable signature mem xsdt i := find_index_iff
  change ((search count).map _).getD 0 = ((search total).map _).getD 0 ↔ _
  cases whole : search total with
  | none =>
      have missing : search count = none := by
        rw [Option.eq_none_iff_forall_ne_some]
        intro i found
        have first := listed.mp found
        have other := listed.mpr ⟨Nat.lt_of_lt_of_le first.1 fewer, first.2⟩
        rw [whole] at other
        cases other
      rw [missing]
      apply iff_of_true rfl
      intro i below first
      have other := listed.mpr ⟨below, first⟩
      rw [whole] at other
      cases other
  | some i =>
      have first := (listed.mp whole)
      have only {j : Nat} (below : j < total) (other : FirstTable signature mem xsdt j) : j = i := by
        have same := (listed.mpr ⟨below, other⟩).symm.trans whole
        exact Option.some.inj same
      by_cases early : i < count
      · rw [listed.mpr ⟨early, first.2⟩]
        apply iff_of_true rfl
        intro j below other _
        rw [only below other]
        exact early
      · have missing : search count = none := by
          rw [Option.eq_none_iff_forall_ne_some]
          intro j found
          have other := listed.mp found
          have same := only (Nat.lt_of_lt_of_le other.1 fewer) other.2
          omega
        rw [missing]
        change 0 = load mem (sdtPtrAddr xsdt i) 8 ↔ _
        constructor
        · intro null j below other nonzero
          rw [only below other] at nonzero
          exact absurd null.symm nonzero
        · intro all
          by_contra nonzero
          exact early (all i first.1 first.2 fun null => nonzero null.symm)

end First

theorem LooksUpExactly.room {signature : List (BitVec 8)} {s : Acpi}
    (exact : LooksUpExactly signature s) (some : 0 < s.numXsdtEntries.toNat) :
    44 ≤ (xsdtLength s).toNat :=
  findAcpiTable_first signature (i := 0) some exact.inside

/-- The lookup is exact if and only if the XSDT holds its header and the first table with the
signature is one of those that the 16-bit count leaves. -/
theorem looksUpExactly_iff (signature : List (BitVec 8)) {s : Acpi} (counted : s.Counted) :
    LooksUpExactly signature s ↔ 36 ≤ (xsdtLength s).toNat ∧
      ∀ i, i < listedTables (xsdtLength s) →
        FirstTable signature s.machine.mem s.acpiTables.xsdt i →
        load s.machine.mem (sdtPtrAddr s.acpiTables.xsdt i) 8 ≠ 0 →
          i < listedTables (xsdtLength s) % 2 ^ 16 := by
  have count : s.numXsdtEntries.toNat = (xsdtEntryCount (xsdtLength s)).toNat :=
    congrArg BitVec.toNat counted
  have bound := s.numXsdtEntries.isLt
  by_cases header : 36 ≤ (xsdtLength s).toNat
  · have fewer := Nat.mod_le (listedTables (xsdtLength s)) (2 ^ 16)
    have tables := xsdtEntryCount_eq header
    have searched : (lookUpTable signature s).1 =
        ((sdtPtrs s.machine.mem s.acpiTables.xsdt (listedTables (xsdtLength s) % 2 ^ 16)).find?
          (hasSignature s.machine.mem signature)).getD 0 := by
      rw [← tables, ← count]
      exact findAcpiTable_fst s.acpiTables.xsdt signature _ (i := 0) (by
        change 0 + _ < 2 ^ 16
        omega)
    rw [and_iff_right header, ← find_fewer_iff fewer, ← searched]
    constructor
    · intro exact
      exact exact.found
    · intro found
      refine ⟨?_, found⟩
      apply findAcpiTable_inXsdt signature (i := 0)
      · change 0 + _ < 2 ^ 16
        omega
      · intro j _ below
        have inside : j < listedTables (xsdtLength s) := by
          change j < 0 + _ at below
          omega
        rw [listedTables] at inside
        omega
  · apply iff_of_false
    · intro exact
      have some := xsdtEntryCount_short (Nat.lt_of_not_le header)
      have room := exact.room (by omega)
      omega
    · intro both
      exact header both.1

section Sample

/-- `firmwareMemory` with its two tables counted. -/
theorem firmware_looksUp :
    LooksUpExactly (ascii "APIC") (countTables 0x100000 firmwareAcpi) := by
  have length : xsdtLength (countTables 0x100000 firmwareAcpi) = 52 := by
    change load firmwareMemory (xsdtOf firmwareMemory 0x100000 + lengthOffset) 4 = 52
    rw [firmwareMemory_xsdt]
    decide +kernel
  apply (looksUpExactly_iff (ascii "APIC") (countTables_counted 0x100000 firmwareAcpi)).mpr
  rw [length]
  refine ⟨by decide, ?_⟩
  intro i below _ _
  exact below

/-- An XSDT without as much as a header. -/
def noXsdt : Acpi := countTables 0x100000 (Acpi.loaded (cellConsole ⟨fun _ => 0, []⟩))

/-- The lookup takes it for one of 65531 tables. -/
theorem noXsdt_overrun :
    noXsdt.Counted ∧ (xsdtLength noXsdt).toNat = 0 ∧ noXsdt.numXsdtEntries = 65531 ∧
      ¬ LooksUpExactly (ascii "FACP") noXsdt := by
  have length : (xsdtLength noXsdt).toNat = 0 := by decide +kernel
  have count : noXsdt.numXsdtEntries = 65531 := by decide +kernel
  refine ⟨countTables_counted _ _, length, count, ?_⟩
  intro exact
  have room := exact.room (by rw [count]; decide)
  omega

end Sample

end Flosp.Kernel
