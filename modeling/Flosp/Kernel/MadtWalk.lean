import Flosp.Kernel.Lapic

/-! The bytes that the walk over the MADT reads. -/

namespace Flosp.Kernel

open ByteMemory

def TableEntry (t : BitVec 8) (mem : Memory 64) (madt : Addr) : Nat → Prop :=
  (madtRecords mem madt).First t (madtLength mem madt - 1) 0x2C

def InTable (madt : Addr) (length : Nat) (e : Access 64 Origin) : Prop :=
  ∀ x, Within x e.addr e.len → Within x madt length

/-- `get_madt_entry_addr` reads nothing but the table, and returns the first entry or NULL. -/
def WalksTable (t : BitVec 8) (s : Acpi) : Prop :=
  ∃ entry m', getMadtEntryAddr t s = .ok (entry, s.withMachine m') ∧
    AllNew (InTable s.acpiTables.madt (madtLength s.machine.mem s.acpiTables.madt)) s.machine m' ∧
    (∀ x, TableEntry t s.machine.mem s.acpiTables.madt x →
      entry = s.acpiTables.madt + BitVec.ofNat 64 x) ∧
    ((∀ x, ¬ TableEntry t s.machine.mem s.acpiTables.madt x) → entry = 0)

/-- The limit of the loop is behind the end of the address space, and the first record is not. -/
def LimitWraps (mem : Memory 64) (madt : Addr) : Prop :=
  madt.toNat + 0x2C < 2 ^ 64 ∧ 2 ^ 64 ≤ madt.toNat + 44 * madtLength mem madt

/-- The records of the table, each with its two bytes of header in the table, lead to one of the
type or of length zero. -/
def WalkSettles (t : BitVec 8) (mem : Memory 64) (madt : Addr) : Nat → Prop :=
  (madtRecords mem madt).Settles t 2 (madtLength mem madt)

section Reads

variable {madt : Addr} {length : Nat} {m m' : KernelMachine} {t : BitVec 8} {o : Nat}

theorem inTable_iff {tag : Origin} {kind : AccessKind} {i n : Nat} (some : 0 < n)
    (small : i + n ≤ 2 ^ 64) :
    InTable madt length ⟨tag, kind, madt + BitVec.ofNat 64 i, n⟩ ↔ i + n ≤ length := by
  change (∀ x, Within x (madt + BitVec.ofNat 64 i) n → Within x madt length) ↔ _
  constructor
  · intro inside
    have last := inside _ (within_offset (i := n - 1) (by omega) (by omega))
    rw [offset_add, within_offset_iff (by omega)] at last
    omega
  · intro bound x covered
    obtain ⟨j, low, rfl⟩ := (within_iff_exists (by omega)).mp covered
    rw [offset_add, within_offset_iff (by omega)]
    omega

theorem lengthLoad_inTable (madt : Addr) (header : 0x2C ≤ length) (m : KernelMachine) :
    AllNew (InTable madt length) m (m.load .acpi (madt + lengthOffset) 4).2 := by
  apply (AllNew.step_iff rfl).mpr
  apply (inTable_iff (i := 4) (by decide) (by decide)).mpr
  omega

theorem readRecord_inTable_iff (madt : Addr) (m : KernelMachine) (header : 0x2C ≤ length)
    (small : o + 2 ≤ 2 ^ 64) :
    AllNew (InTable madt length) m (readRecord madt o m) ↔ o + 2 ≤ length := by
  let read := m.load .acpi (madt + lengthOffset) 4
  let type := read.2.load .acpi (madt + BitVec.ofNat 64 o) 1
  have early : Extends m read.2 := Extends.load m _ _ 4
  have late : Extends read.2 type.2 := Extends.load read.2 _ _ 1
  have last : Extends type.2 (readRecord madt o m) := Extends.load type.2 _ _ 1
  have typeByte : AllNew (InTable madt length) read.2 type.2 ↔ o + 1 ≤ length :=
    (AllNew.step_iff rfl).trans (inTable_iff Nat.one_pos (by omega))
  have lengthByte : AllNew (InTable madt length) type.2 (readRecord madt o m) ↔ o + 1 + 1 ≤ length :=
    (AllNew.step_iff rfl).trans (inTable_iff Nat.one_pos small)
  rw [AllNew.trans_iff (early.trans late) last, AllNew.trans_iff early late, typeByte, lengthByte]
  have first := lengthLoad_inTable madt header m
  constructor
  · intro all
    exact all.2
  · intro bound
    exact ⟨⟨first, by omega⟩, bound⟩

theorem madtEntryLoop_loads {turns : Nat} {a : Addr}
    (returns : madtEntryLoop madt t turns (madt + BitVec.ofNat 64 o) m = some (a, m')) :
    Loads m m' := by
  induction turns generalizing o m with
  | zero => cases returns
  | succ turns ih =>
      have read := readRecord_loads madt o m
      rw [madtEntryLoop_succ] at returns
      split at returns
      · split at returns
        · cases returns
          exact read
        · split at returns
          · cases returns
            exact read
          · exact read.trans (ih returns)
      · cases returns
        exact Loads.load m _ _ 4

end Reads

section Walk

variable {madt : Addr} {m m' : KernelMachine} {t : BitVec 8} {o : Nat}

theorem limit_toNat (madt : Addr) (length : BitVec 32) :
    (madt + madtSize * length.setWidth 64).toNat = (madt.toNat + 44 * length.toNat) % 2 ^ 64 := by
  have bound := length.isLt
  have product : (madtSize * length.setWidth 64).toNat = 44 * length.toNat := by
    rw [BitVec.toNat_mul, BitVec.toNat_setWidth]
    change 44 * (length.toNat % 2 ^ 64) % 2 ^ 64 = _
    omega
  rw [BitVec.toNat_add, product]

/-- As long as the limit and the records are on one side of the end of the address space, the loop
goes on past the end of the table. -/
theorem record_le_limit (same : ¬ LimitWraps m.mem madt) (header : 0x2C ≤ madtLength m.mem madt)
    (start : 0x2C ≤ o) (near : o ≤ madtLength m.mem madt + 255) :
    madt + BitVec.ofNat 64 o ≤
      madt + madtSize * (load m.mem (madt + lengthOffset) 4).setWidth 64 := by
  have bound : madtLength m.mem madt < 2 ^ 32 := BitVec.isLt _
  have place := madt.isLt
  have offset : o % 2 ^ 64 = o := Nat.mod_eq_of_lt (by omega)
  have before : o ≤ 44 * madtLength m.mem madt := by omega
  rw [LimitWraps] at same
  rw [BitVec.le_def, limit_toNat, BitVec.toNat_add, BitVec.toNat_ofNat, offset]
  change (madt.toNat + o) % 2 ^ 64 ≤ (madt.toNat + 44 * madtLength m.mem madt) % 2 ^ 64
  by_cases low : madt.toNat + 0x2C < 2 ^ 64
  · omega
  · omega

theorem limit_lt_record (wraps : LimitWraps m.mem madt) :
    ¬ madt + BitVec.ofNat 64 0x2C ≤
      madt + madtSize * (load m.mem (madt + lengthOffset) 4).setWidth 64 := by
  have bound : madtLength m.mem madt < 2 ^ 32 := BitVec.isLt _
  obtain ⟨record, limit⟩ := wraps
  rw [BitVec.le_def, limit_toNat, BitVec.toNat_add]
  change ¬ (madt.toNat + 0x2C) % 2 ^ 64 ≤ (madt.toNat + 44 * madtLength m.mem madt) % 2 ^ 64
  omega

/-- Where the records settle, the loop searches the table: by induction on the turns. -/
theorem madtEntryLoop_settled (turns : Nat) (same : ¬ LimitWraps m.mem madt)
    (header : 0x2C ≤ madtLength m.mem madt) (start : 0x2C ≤ o)
    (enough : madtLength m.mem madt ≤ o + turns) (settles : WalkSettles t m.mem madt o) :
    ∃ m', AllNew (InTable madt (madtLength m.mem madt)) m m' ∧
      madtEntryLoop madt t turns (madt + BitVec.ofNat 64 o) m =
        some (((madtRecords m.mem madt).search t (madtLength m.mem madt - 1) turns o).elim 0
          (fun x => madt + BitVec.ofNat 64 x), m') := by
  have whole := settles.whole
  have bound : madtLength m.mem madt < 2 ^ 32 := BitVec.isLt _
  induction turns generalizing o m with
  | zero => omega
  | succ turns ih =>
      let c := madtRecords m.mem madt
      have read := (readRecord_inTable_iff madt m header (by omega)).mpr whole
      rw [madtEntryLoop_succ, RecordChain.search,
        if_pos (record_le_limit same header start (by omega)),
        if_pos (show o ≤ madtLength m.mem madt - 1 by omega)]
      by_cases hit : c.kind o = t
      · rw [if_pos hit, if_pos hit]
        exact ⟨_, read, rfl⟩
      · rw [if_neg hit, if_neg hit]
        by_cases empty : c.length o = 0
        · rw [if_pos empty, if_pos empty]
          exact ⟨_, read, rfl⟩
        · have goes : ¬ (c.kind o = t ∨ c.length o = 0) := by simp [hit, empty]
          have rest := (RecordChain.settles_iff_next whole goes).mp settles
          rw [if_neg empty, if_neg empty]
          obtain ⟨m', inside, loop⟩ := ih (m := readRecord madt o m) (o := o + c.length o) same header
            (by omega) (by rw [readRecord_mem]; omega) rest rest.whole bound
          have all := (AllNew.trans_iff (readRecord_loads madt o m).grows
            (madtEntryLoop_loads loop).grows).mpr ⟨read, inside⟩
          exact ⟨m', all, loop⟩

/-- Where they do not, a loop that returns has read past the table. -/
theorem madtEntryLoop_overruns (same : ¬ LimitWraps m.mem madt)
    (header : 0x2C ≤ madtLength m.mem madt) (start : 0x2C ≤ o)
    (near : o ≤ madtLength m.mem madt + 255) {turns : Nat} {a : Addr}
    (unsettled : ¬ WalkSettles t m.mem madt o)
    (returns : madtEntryLoop madt t turns (madt + BitVec.ofNat 64 o) m = some (a, m')) :
    ¬ AllNew (InTable madt (madtLength m.mem madt)) m m' := by
  have bound : madtLength m.mem madt < 2 ^ 32 := BitVec.isLt _
  induction turns generalizing o m with
  | zero => cases returns
  | succ turns ih =>
      let c := madtRecords m.mem madt
      have read := readRecord_inTable_iff (o := o) madt m header (by omega)
      rw [madtEntryLoop_succ, if_pos (record_le_limit same header start near)] at returns
      by_cases whole : o + 2 ≤ madtLength m.mem madt
      · have goes : ¬ (c.kind o = t ∨ c.length o = 0) := by
          intro ends
          exact unsettled (RecordChain.Settles.here whole ends)
        have short : c.length o < 2 ^ 8 := BitVec.isLt _
        rw [if_neg (by tauto), if_neg (by tauto)] at returns
        have beyond := ih (m := readRecord madt o m) (o := o + c.length o) same header (by omega)
          (by rw [readRecord_mem]; omega)
          (mt (RecordChain.settles_iff_next whole goes).mpr unsettled) returns bound
        rw [AllNew.trans_iff (readRecord_loads madt o m).grows (madtEntryLoop_loads returns).grows]
        intro all
        exact beyond all.2
      · have late : Extends (readRecord madt o m) m' := by
          split at returns
          · cases returns
            exact Extends.refl _
          · split at returns
            · cases returns
              exact Extends.refl _
            · exact (madtEntryLoop_loads returns).grows
        rw [AllNew.trans_iff (readRecord_loads madt o m).grows late]
        intro all
        exact whole (read.mp all.1)

theorem madtEntryLoop_wraps (wraps : LimitWraps m.mem madt) (turns : Nat) :
    madtEntryLoop madt t (turns + 1) (madt + BitVec.ofNat 64 0x2C) m =
      some (0, (m.load .acpi (madt + lengthOffset) 4).2) := by
  rw [madtEntryLoop_succ, if_neg (limit_lt_record wraps)]

end Walk

section Table

variable {t : BitVec 8} {s : Acpi}

theorem getMadtEntryAddr_eq_ok_iff {entry : Addr} {m' : KernelMachine} :
    getMadtEntryAddr t s = .ok (entry, s.withMachine m') ↔
      madtEntryLoop s.acpiTables.madt t (2 ^ 64) (s.acpiTables.madt + BitVec.ofNat 64 0x2C)
        s.machine = some (entry, m') := by
  change _ ↔ madtEntryLoop s.acpiTables.madt t (2 ^ 64) (s.acpiTables.madt + 0x2C) s.machine = _
  unfold getMadtEntryAddr
  generalize madtEntryLoop s.acpiTables.madt t (2 ^ 64) (s.acpiTables.madt + 0x2C) s.machine = loop
  cases loop with
  | none => exact iff_of_false nofun nofun
  | some result =>
      constructor
      · intro same
        have pair := Prod.ext_iff.mp (Except.ok.inj same)
        exact congrArg some (Prod.ext pair.1 (congrArg Acpi.machine pair.2))
      · intro same
        cases same
        rfl

/-- The walk keeps to the table if and only if the records of the table lead to one of the wanted
type or of length zero or, with a limit that wraps round, there is no entry to be found. -/
theorem walksTable_iff (header : 0x2C ≤ madtLength s.machine.mem s.acpiTables.madt) :
    WalksTable t s ↔
      ¬ LimitWraps s.machine.mem s.acpiTables.madt ∧
          WalkSettles t s.machine.mem s.acpiTables.madt 0x2C ∨
        LimitWraps s.machine.mem s.acpiTables.madt ∧
          ∀ x, TableEntry t s.machine.mem s.acpiTables.madt x →
            s.acpiTables.madt + BitVec.ofNat 64 x = 0 := by
  have bound : madtLength s.machine.mem s.acpiTables.madt < 2 ^ 32 := BitVec.isLt _
  by_cases wraps : LimitWraps s.machine.mem s.acpiTables.madt
  · have loop := madtEntryLoop_wraps (t := t) wraps (2 ^ 64 - 1)
    have inside := lengthLoad_inTable s.acpiTables.madt header s.machine
    simp only [wraps, not_true_eq_false, false_and, true_and, false_or]
    constructor
    · rintro ⟨entry, m', gets, -, found, -⟩ x first
      have same := (getMadtEntryAddr_eq_ok_iff.mp gets).symm.trans loop
      rw [← found x first]
      exact congrArg Prod.fst (Option.some.inj same)
    · intro null
      refine ⟨0, _, getMadtEntryAddr_eq_ok_iff.mpr loop, inside, ?_, fun _ => rfl⟩
      intro x first
      exact (null x first).symm
  · simp only [wraps, not_false_eq_true, true_and, false_and, or_false]
    constructor
    · rintro ⟨entry, m', gets, inside, -⟩
      by_contra unsettled
      exact madtEntryLoop_overruns wraps header (Nat.le_refl _) (by omega) unsettled
        (getMadtEntryAddr_eq_ok_iff.mp gets) inside
    · intro settles
      obtain ⟨m', inside, loop⟩ := madtEntryLoop_settled (2 ^ 64) wraps header (Nat.le_refl _)
        (by omega) settles
      have enough : madtLength s.machine.mem s.acpiTables.madt - 1 < 0x2C + 2 ^ 64 := by omega
      refine ⟨_, m', getMadtEntryAddr_eq_ok_iff.mpr loop, inside, ?_, ?_⟩
      · intro x first
        rw [(RecordChain.search_eq_some_iff enough).mpr first]
        rfl
      · intro absent
        rw [(RecordChain.search_eq_none_iff enough).mpr absent]
        rfl

end Table

/-- The offsets of the records that the loop looks at, and the one that it ends at. -/
inductive Visited (t : BitVec 8) (mem : Memory 64) (madt : Addr) : Nat → Prop where
  | first : Visited t mem madt 0x2C
  | next {o : Nat} (visited : Visited t mem madt o)
      (inside : madt + BitVec.ofNat 64 o ≤
        madt + madtSize * (load mem (madt + lengthOffset) 4).setWidth 64)
      (miss : (madtRecords mem madt).kind o ≠ t) (long : (madtRecords mem madt).length o ≠ 0) :
      Visited t mem madt (o + (madtRecords mem madt).length o)

section Termination

variable {t : BitVec 8} {mem : Memory 64} {madt : Addr} {m : KernelMachine}

/-- Where no address wraps round the records go up, so that the loop comes to an end: by induction
on the turns. -/
theorem madtEntryLoop_ends {turns o : Nat}
    (straight : ∀ o, Visited t m.mem madt o → madt.toNat + o < 2 ^ 64)
    (visited : Visited t m.mem madt o) (enough : 2 ^ 64 ≤ madt.toNat + o + turns) :
    ∃ r, madtEntryLoop madt t turns (madt + BitVec.ofNat 64 o) m = some r := by
  induction turns generalizing o m with
  | zero =>
      have below := straight o visited
      omega
  | succ turns ih =>
      rw [madtEntryLoop_succ]
      split
      · next inside =>
          split
          · exact ⟨_, rfl⟩
          · next miss =>
              split
              · exact ⟨_, rfl⟩
              · next long =>
                  exact ih (m := readRecord madt o m) straight (visited.next inside miss long)
                    (by omega)
      · exact ⟨_, rfl⟩

/-- A table with room for one more record behind its limit keeps the loop from wrapping round. -/
theorem visited_straight
    (room : madt.toNat + 44 * madtLength mem madt + 256 ≤ 2 ^ 64) {o : Nat}
    (visited : Visited t mem madt o) : madt.toNat + o < 2 ^ 64 := by
  have near : o ≤ 44 * madtLength mem madt + 255 := by
    induction visited with
    | first => omega
    | @next o visited inside miss long ih =>
        have short : (madtRecords mem madt).length o < 2 ^ 8 := BitVec.isLt _
        have start := (tableAddr_le_iff madt _ room ih).mp inside
        change o ≤ 44 * madtLength mem madt at start
        omega
  omega

end Termination

/-- The walk ends, whatever the records say, as long as it does not wrap round the end of the
address space. -/
theorem getMadtEntryAddr_ends (t : BitVec 8) (s : Acpi)
    (straight : ∀ o, Visited t s.machine.mem s.acpiTables.madt o →
      s.acpiTables.madt.toNat + o < 2 ^ 64) :
    ∃ entry m', getMadtEntryAddr t s = .ok (entry, s.withMachine m') := by
  have ends : ∃ r, madtEntryLoop s.acpiTables.madt t (2 ^ 64)
      (s.acpiTables.madt + BitVec.ofNat 64 0x2C) s.machine = some r :=
    madtEntryLoop_ends straight Visited.first (Nat.le_add_left _ _)
  obtain ⟨⟨entry, m'⟩, loop⟩ := ends
  exact ⟨entry, m', getMadtEntryAddr_eq_ok_iff.mpr loop⟩

section Sample

/-- A MADT with a LAPIC entry, and behind it bytes that look like an override entry. -/
def strayMemory : Memory 64 :=
  let mem : Memory 64 := fun _ => 0
  let mem := store mem 0x1000C4 (n := 4) 52
  let mem := store mem 0x1000EC (n := 2) 0x0800
  store mem 0x1000F4 (n := 2) 0x0C05

def strayAcpi : Acpi :=
  { Acpi.loaded (cellConsole ⟨strayMemory, []⟩) with acpiTables := ⟨0, 0, 0, 0, 0x1000C0⟩ }

theorem strayMemory_length : madtLength strayMemory 0x1000C0 = 52 := by decide +kernel

theorem stray_walksTable : WalksTable 0 strayAcpi := by
  have length : madtLength strayAcpi.machine.mem strayAcpi.acpiTables.madt = 52 := strayMemory_length
  have low : ¬ LimitWraps strayAcpi.machine.mem strayAcpi.acpiTables.madt := by
    rw [LimitWraps, length]
    decide
  have lapic : WalkSettles 0 strayAcpi.machine.mem strayAcpi.acpiTables.madt 0x2C := by
    apply RecordChain.Settles.here
    · rw [length]
      decide
    · exact Or.inl (by decide +kernel)
  apply (walksTable_iff (by rw [length]; decide)).mpr
  exact Or.inl ⟨low, lapic⟩

theorem stray_ends : ∃ entry m', getMadtEntryAddr 9 strayAcpi = .ok (entry, strayAcpi.withMachine m') :=
  getMadtEntryAddr_ends 9 strayAcpi fun _ => visited_straight (by
    change _ + 44 * madtLength strayMemory 0x1000C0 + 256 ≤ _
    rw [strayMemory_length]
    decide)

/-- The bytes behind the table are taken for its entry. -/
theorem stray_found :
    0x2C ≤ madtLength strayMemory 0x1000C0 ∧ (∀ x, ¬ TableEntry 5 strayMemory 0x1000C0 x) ∧
      (∃ m', getMadtEntryAddr 5 strayAcpi = .ok (0x1000C0 + 52, strayAcpi.withMachine m')) ∧
      ¬ WalksTable 5 strayAcpi := by
  have length := strayMemory_length
  let c := madtRecords strayMemory 0x1000C0
  have miss : c.kind 0x2C ≠ 5 := by decide +kernel
  have lapic : c.length 0x2C = 8 := by decide +kernel
  have stray : c.kind 52 = 5 := by decide +kernel
  have absent : ∀ x, ¬ TableEntry 5 strayMemory 0x1000C0 x := by
    intro x first
    rw [TableEntry, length] at first
    cases first with
    | here _ hit => exact miss hit
    | next _ _ _ rest =>
        rw [lapic] at rest
        have bounds := rest.bounds
        omega
  have first : FirstEntry 5 strayMemory 0x1000C0 0x2C 52 := by
    rw [FirstEntry, length]
    apply RecordChain.First.next (by decide) miss (by rw [lapic]; decide)
    rw [lapic]
    exact RecordChain.First.here (by decide) stray
  obtain ⟨entry, m', gets, -, found, -⟩ := getMadtEntryAddr_spec (a := strayAcpi) 5 (by
    change _ + 44 * madtLength strayMemory 0x1000C0 + 256 ≤ _
    rw [length]
    decide)
  have place : entry = 0x1000C0 + 52 := found 52 first
  subst place
  refine ⟨by rw [length]; decide, absent, ⟨m', gets⟩, ?_⟩
  rintro ⟨entry, m'', gets', -, -, missing⟩
  have same := (getMadtEntryAddr_eq_ok_iff.mp gets).symm.trans (getMadtEntryAddr_eq_ok_iff.mp gets')
  have null := missing absent
  rw [null] at same
  cases congrArg Prod.fst (Option.some.inj same)

end Sample

end Flosp.Kernel
