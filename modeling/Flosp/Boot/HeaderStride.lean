import Flosp.Boot.Truncation

/-! Where the loader looks for the program headers. It takes them to be 56 bytes apart and
never reads `e_phentsize`. -/

namespace Flosp.Boot

open Interaction ByteMemory

/-- A program header as the loop takes it: its type, and of a `PT_LOAD` header the members
that `load_segment` is told. -/
structure HeaderTaken where
  type : BitVec 32
  members : List (BitVec 64)
  deriving DecidableEq

/-- A load from the program header table: `p_type`, or one of the wide members. -/
inductive MemberTaken where
  | type (v : BitVec 32)
  | member (v : BitVec 64)

def memberTaken : BootEvent → Option MemberTaken
  | ⟨.load .programHeaders _ 4, v⟩ => some (.type v)
  | ⟨.load .programHeaders _ 8, v⟩ => some (.member v)
  | _ => none

/-- The members before the first `p_type`, and the headers after it. -/
def grouped : List MemberTaken → List (BitVec 64) × List HeaderTaken
  | [] => ([], [])
  | .type v :: rest => ([], ⟨v, (grouped rest).1⟩ :: (grouped rest).2)
  | .member v :: rest => (v :: (grouped rest).1, (grouped rest).2)

def membersTaken (t : Trace) : List MemberTaken := t.filterMap memberTaken

def headersTaken (t : Trace) : List HeaderTaken := (grouped (membersTaken t)).2

def headerStored (m : Memory 64) (header : Addr) : HeaderTaken :=
  let type : BitVec 32 := Elf64Phdr.pType.read m header
  { type
    members :=
      if type = ptLoad then
        [Elf64Phdr.pOffset.read m header, Elf64Phdr.pFilesz.read m header,
          Elf64Phdr.pMemsz.read m header, Elf64Phdr.pPaddr.read m header]
      else [] }

/-- `e_phentsize` of the header at `kernelHeader` -/
def entrySize (m : Memory 64) (kernelHeader : Addr) : Nat :=
  (BitVec.toNat (Elf64Ehdr.ePhentsize.read m kernelHeader : BitVec 16))

namespace KernelFile

/-- `e_phoff + i * e_phentsize` -/
def declaredOffset (file : KernelFile) (i : Nat) : Addr :=
  headersOffset file.image 0 + BitVec.ofNat 64 (entrySize file.image 0 * i)

/-- `e_phoff + i * sizeof(Elf64_Phdr)` -/
def packedOffset (file : KernelFile) (i : Nat) : Addr :=
  programHeader (headersOffset file.image 0) i

/-- A complete ELF64 file: it holds its header and, at the declared stride, its program header
table, and no segment is larger in the file than in memory. -/
structure Elf64 (file : KernelFile) : Prop where
  header : Elf64Ehdr.size ≤ file.size
  stride : Elf64Phdr.size ≤ entrySize file.image 0
  table : (headersOffset file.image 0).toNat +
    headerCount file.image 0 * entrySize file.image 0 ≤ file.size
  ordered : ∀ i, i < headerCount file.image 0 →
    (headerStored file.image (file.declaredOffset i)).type = ptLoad →
    Elf64Phdr.pFilesz.read file.image (file.declaredOffset i) ≤
      Elf64Phdr.pMemsz.read file.image (file.declaredOffset i)

end KernelFile

/-- The kernel is refused, or the `i`-th header acted on is the one at the declared place. -/
def StrideFollowed (file : KernelFile) (t : Trace) (r : Except Halt EfiStatus) : Prop :=
  (∃ status, r = .ok status ∧ Failed status) ∨
    ∀ i, i < headerCount file.image 0 →
      (headersTaken t)[i]? = some (headerStored file.image (file.declaredOffset i))

/-! What a run takes of the table. -/

theorem membersTaken_append (t₁ t₂ : Trace) :
    membersTaken (t₁ ++ t₂) = membersTaken t₁ ++ membersTaken t₂ :=
  List.filterMap_append

theorem membersTaken_filter (t : Trace) : membersTaken (t.filter effective) = membersTaken t := by
  rw [membersTaken, membersTaken, List.filterMap_filter]
  apply List.filterMap_congr
  intro e _
  rcases e with ⟨op, reply⟩
  cases op with
  | load region a n => rfl
  | store region a n v => rfl
  | call c => exact ite_self _

theorem membersTaken_segment {s : SegmentReplies} {kernelImage : Addr} {h : Segment} :
    membersTaken (s.events kernelImage h) = [] := by
  rw [SegmentReplies.events, membersTaken_append, membersTaken_append]
  by_cases file : h.fileSize > 0 <;> by_cases zero : h.memorySize - h.fileSize > 0 <;>
    simp only [file, zero, if_true, if_false] <;> rfl

theorem membersTaken_fieldLoads {region : Region} (other : region ≠ .programHeaders)
    {base : Addr} {fields : List Field} {t : Trace} (loads : FieldLoads region base fields t) :
    membersTaken t = [] := by
  induction fields generalizing t with
  | nil =>
      cases loads
      rfl
  | cons f fields ih =>
      rcases loads with ⟨v, rest, rfl, later⟩
      have first : memberTaken (loadEvent region (base + BitVec.ofNat 64 f.offset) f.size v) =
          none := by
        cases region with
        | programHeaders => exact absurd rfl other
        | _ => rfl
      rw [membersTaken, List.filterMap_cons_none first]
      exact ih later

theorem sizes_of_same {m : Memory 64} {a b : Addr} (same : headerStored m a = headerStored m b)
    (loadable : Elf64Phdr.pType.read m a = ptLoad) :
    Elf64Phdr.pType.read m b = ptLoad ∧ Elf64Phdr.pFilesz.read m a = Elf64Phdr.pFilesz.read m b ∧
      Elf64Phdr.pMemsz.read m a = Elf64Phdr.pMemsz.read m b := by
  have types : Elf64Phdr.pType.read m a = Elf64Phdr.pType.read m b :=
    congrArg HeaderTaken.type same
  have loadable' := types.symm.trans loadable
  have members := (if_pos loadable).symm.trans
    ((congrArg HeaderTaken.members same).trans (if_pos loadable'))
  injection members with _ members
  injection members with fileSize members
  injection members with memorySize _
  exact ⟨loadable', fileSize, memorySize⟩

section Loop

variable {file : KernelFile} {kernelImage table : Addr} {phoff : BitVec 64} {count i : Nat}
  {u v : Firmware} {fresh : Addr → Prop}

theorem grouped_loop {turns : Nat} {status : EfiStatus} {loaded : BitVec 16} {t : Trace}
    {r : Except Halt EfiStatus}
    (does : Does (loadProgramSegmentsFrom kernelImage table turns i status loaded) t r) :
    (grouped (membersTaken t)).1 = [] := by
  cases turns with
  | zero =>
      rw [(does_segments_end does).1]
      rfl
  | succ turns =>
      rcases does_segments_turn does with ⟨pType, rest, rfl, -⟩
      rfl

theorem headersTaken_other {header : Addr} {type : BitVec 32} {rest : Trace}
    (later : (grouped (membersTaken rest)).1 = []) :
    headersTaken (memberEvent header Elf64Phdr.pType type :: rest) =
      ⟨type, []⟩ :: headersTaken rest := by
  change HeaderTaken.mk type (grouped (membersTaken rest)).1 :: _ = _
  rw [later]
  rfl

theorem headersTaken_loadable {header : Addr} {type : BitVec 32} {h : Segment}
    {s : SegmentReplies} {rest : Trace} (later : (grouped (membersTaken rest)).1 = []) :
    headersTaken (memberEvent header Elf64Phdr.pType type ::
        (h.events header ++ s.events kernelImage h ++ rest)) =
      ⟨type, [h.offset, h.fileSize, h.memorySize, h.physicalAddress]⟩ :: headersTaken rest := by
  have members : membersTaken (memberEvent header Elf64Phdr.pType type ::
        (h.events header ++ s.events kernelImage h ++ rest)) =
      [.type type, .member h.offset, .member h.fileSize, .member h.memorySize,
        .member h.physicalAddress] ++ membersTaken rest := by
    rw [← List.singleton_append, membersTaken_append, membersTaken_append, membersTaken_append,
      membersTaken_segment, List.append_nil]
    rfl
  rw [headersTaken, members]
  change HeaderTaken.mk type (_ :: _ :: _ :: _ :: (grouped (membersTaken rest)).1) :: _ = _
  rw [later]
  rfl

theorem headerStored_other {m : Memory 64} (other : ¬ Loadable m table i) :
    headerStored m (programHeader table i) = ⟨headerType m table i, []⟩ :=
  congrArg (HeaderTaken.mk (headerType m table i)) (if_neg other)

theorem headerStored_loadable {m : Memory 64} (loadable : Loadable m table i) :
    headerStored m (programHeader table i) = ⟨headerType m table i,
      [(segmentAt m table i).offset, (segmentAt m table i).fileSize,
        (segmentAt m table i).memorySize, (segmentAt m table i).physicalAddress]⟩ :=
  congrArg (HeaderTaken.mk (headerType m table i)) (if_pos loadable)

/-- The loop takes the packed headers of the file up to the first that is not the one wanted,
by induction on the headers left. The earlier ones leave the table alone. -/
theorem segments_taken {turns : Nat} {status : EfiStatus} {loaded : BitVec 16} {t : Trace}
    {r : Except Halt EfiStatus}
    (does : Does (loadProgramSegmentsFrom kernelImage table turns i status loaded) t r)
    (follows : Follows (Uefi file) t u v)
    (read : ReadBuffer file phoff table (Elf64Phdr.size * count) u fresh)
    (span : i + turns = count) (reaches : phoff.toNat + Elf64Phdr.size * count ≤ file.size)
    (wanted : Nat → HeaderTaken)
    (ordered : ∀ j, j < count → headerStored file.image (programHeader phoff j) = wanted j →
      Loadable file.image phoff j →
      (segmentAt file.image phoff j).fileSize ≤ (segmentAt file.image phoff j).memorySize) :
    (∀ j, j < turns → (headersTaken t)[j]? = some (wanted (i + j))) ↔
      ∀ j, j < turns → headerStored file.image (programHeader phoff (i + j)) = wanted (i + j) := by
  induction turns generalizing i status loaded t u fresh with
  | zero =>
      apply iff_of_true
      · intro j below
        exact absurd below (Nat.not_lt_zero j)
      · intro j below
        exact absurd below (Nat.not_lt_zero j)
  | succ turns ih =>
      have inside : i < count := by omega
      have next : Elf64Phdr.size * i + Elf64Phdr.size ≤ Elf64Phdr.size * count := by
        rw [← Nat.mul_succ]
        exact Nat.mul_le_mul_left _ inside
      have size : Elf64Phdr.size = 56 := rfl
      have type : headerType u.mem table i = headerType file.image phoff i :=
        member_read read inside Elf64Phdr.pType (by decide) (by
          change _ + _ + 0 + 4 ≤ _
          omega)
      rw [Nat.forall_lt_succ_left, Nat.forall_lt_succ_left]
      simp only [Nat.add_zero, ← Nat.add_assoc]
      rcases turn_follows does follows with ⟨rest, turn⟩
      rcases turn with ⟨other, rfl, later, after⟩ | ⟨loadable, s, mid, rfl, segment, later, after⟩
      · rw [headersTaken_other (grouped_loop later), type]
        rw [Loadable, type] at other
        rw [← headerStored_other other]
        simp only [List.getElem?_cons_zero, List.getElem?_cons_succ, Option.some.injEq]
        have remaining := ih later after read (by omega)
        simp only [Nat.add_right_comm i 1] at remaining
        exact and_congr_right' remaining
      · rw [headersTaken_loadable (grouped_loop later), type]
        rw [Loadable, type] at loadable
        rw [segment_from_file read inside (by omega)] at segment later ⊢
        rw [← headerStored_loadable loadable]
        simp only [List.getElem?_cons_zero, List.getElem?_cons_succ, Option.some.injEq]
        apply and_congr_right
        intro same
        have kept := table_after_segment read (ordered i inside same loadable) segment
        have remaining := ih later after kept (by omega)
        simp only [Nat.add_right_comm i 1] at remaining
        exact remaining

end Loop

section Kernel

variable {file : KernelFile} {kernelImage : Addr} {k : KernelReplies} {u v : Firmware}
  {fresh : Addr → Prop}

theorem bufferEvents_taken {b : BufferReplies} {position size : BitVec 64} :
    membersTaken (b.events kernelImage position size) = [] :=
  rfl

theorem membersTaken_kernel (proper : k.Proper kernelImage) {kernelEntryPoint : Addr} :
    membersTaken (k.events kernelImage kernelEntryPoint) = membersTaken k.segments := by
  rcases proper.identity with ⟨fields, -, identity⟩
  have identityTaken := membersTaken_fieldLoads (by decide) identity
  have infoTaken := membersTaken_fieldLoads (by decide) proper.info
  have closing : membersTaken (k.closeEvents kernelImage) = [] := rfl
  have header : membersTaken (k.headerEvents kernelImage) = [] := rfl
  have table : membersTaken (k.tableEvents kernelImage kernelEntryPoint) = [] := rfl
  have freed : membersTaken [callEvent (.freePool k.identity.buffer) k.identityFree] = [] := rfl
  simp only [KernelReplies.events, KernelReplies.identityEvents, membersTaken_append,
    bufferEvents_taken, identityTaken, infoTaken, closing, header, table, freed, List.nil_append,
    List.append_nil]

theorem kernelSegments_taken (proper : k.Proper kernelImage)
    (read : ReadBuffer file 0 k.header.buffer 64 u fresh)
    (table : ReadBuffer file k.phoff k.table.buffer (Elf64Phdr.size * k.phnum.toNat) u fresh)
    (reaches : Elf64Ehdr.size ≤ file.size) (phnum : k.phnum.toNat = headerCount file.image 0)
    (follows : Follows (Uefi file) k.segments u v)
    (inside : k.phoff.toNat + Elf64Phdr.size * k.phnum.toNat ≤ file.size)
    (wanted : Nat → HeaderTaken)
    (ordered : ∀ j, j < k.phnum.toNat →
      headerStored file.image (programHeader k.phoff j) = wanted j → Loadable file.image k.phoff j →
      (segmentAt file.image k.phoff j).fileSize ≤ (segmentAt file.image k.phoff j).memorySize) :
    (∀ j, j < k.phnum.toNat → (headersTaken k.segments)[j]? = some (wanted j)) ↔
      ∀ j, j < k.phnum.toNat → headerStored file.image (programHeader k.phoff j) = wanted j := by
  have declared : k.phnum = Elf64Ehdr.ePhnum.read file.image 0 := BitVec.eq_of_toNat_eq phnum
  rcases kernelSegments_loop proper read reaches declared follows with ⟨rest, r, split, loop, after⟩
  have taken := segments_taken loop after table (Nat.zero_add _) inside wanted ordered
  simp only [Nat.zero_add] at taken
  rw [split]
  exact taken

end Kernel

/-- `load_kernel` refuses no file, and the headers it acts on are the packed ones. -/
theorem loadKernel_taken {file : KernelFile} (complete : file.Elf64) {rootFileSystem : Addr}
    {kernelFilename : List Char16} {t : Trace} {r : Except Halt EfiStatus} {s s' : Firmware}
    (runs : Runs (loadKernel rootFileSystem kernelFilename 0) t r)
    (follows : Follows (Uefi file) t s s') :
    (∃ status, r = .ok status ∧ ¬ Failed status) ∧
      ((∀ i, i < headerCount file.image 0 →
          (headersTaken t)[i]? = some (headerStored file.image (file.declaredOffset i))) ↔
        ∀ i, i < headerCount file.image 0 →
          headerStored file.image (file.packedOffset i) =
            headerStored file.image (file.declaredOffset i)) := by
  rcases does_of_runs runs follows with ⟨does, moves⟩
  have accepted := (loadKernel_reads runs follows).1
  apply And.intro accepted
  rw [headersTaken, ← membersTaken_filter, ← headersTaken]
  rcases does_loadKernel does with ⟨opened, rest, split, branch⟩
  rw [split] at moves ⊢
  rcases moves with ⟨_, -, later⟩
  rcases branch with ⟨-, rfl⟩ | ⟨-, k, rfl, proper, -⟩
  · rcases accepted with ⟨status, stuck, -⟩
    cases stuck
  · rcases kernel_segments_start proper later fun _ => False with ⟨u, v, fresh, starts, segments, -⟩
    have phoff := starts.phoff complete.header
    have phnum : k.phnum.toNat = headerCount file.image 0 :=
      congrArg BitVec.toNat (starts.phnum complete.header)
    have taken : headersTaken (callEvent (.openFile rootFileSystem kernelFilename efiFileModeRead
        efiFileReadOnly) opened :: k.events (opened.2.getD 0) 0) = headersTaken k.segments := by
      rw [headersTaken, headersTaken, ← membersTaken_kernel proper]
      rfl
    have inside : k.phoff.toNat + Elf64Phdr.size * k.phnum.toNat ≤ file.size := by
      have stride := Nat.mul_le_mul_left (headerCount file.image 0) complete.stride
      have reaches := complete.table
      rw [phoff, phnum, Nat.mul_comm Elf64Phdr.size]
      omega
    have loop := kernelSegments_taken proper starts.header starts.table complete.header phnum segments
      inside
      (fun i => headerStored file.image (file.declaredOffset i)) (by
        intro i below same loadable
        rw [phoff] at loadable same ⊢
        rw [phnum] at below
        rcases sizes_of_same same loadable with ⟨declared, fileSize, memorySize⟩
        change Elf64Phdr.pFilesz.read _ _ ≤ Elf64Phdr.pMemsz.read _ _
        rw [fileSize, memorySize]
        exact complete.ordered i below declared)
    rw [taken, ← phnum, loop, phoff]
    rfl

/-- No file is refused for its stride, so only one whose table agrees with the packed one is
decoded as it declares. -/
theorem strideFollowed_iff {file : KernelFile} (complete : file.Elf64) {rootFileSystem : Addr}
    {kernelFilename : List Char16} {t : Trace} {r : Except Halt EfiStatus} {s s' : Firmware}
    (runs : Runs (loadKernel rootFileSystem kernelFilename 0) t r)
    (follows : Follows (Uefi file) t s s') :
    StrideFollowed file t r ↔ ∀ i, i < headerCount file.image 0 →
      headerStored file.image (file.packedOffset i) =
        headerStored file.image (file.declaredOffset i) := by
  rcases loadKernel_taken complete runs follows with ⟨⟨status, rfl, succeeds⟩, taken⟩
  have accepted : ¬ ∃ status', Except.ok status = (.ok status' : Except Halt EfiStatus) ∧
      Failed status' := by
    intro refused
    rcases refused with ⟨status', same, failed⟩
    cases same
    exact succeeds failed
  calc StrideFollowed file t (.ok status)
    _ ↔ ∀ i, i < headerCount file.image 0 →
        (headersTaken t)[i]? = some (headerStored file.image (file.declaredOffset i)) :=
      or_iff_right accepted
    _ ↔ _ := taken

theorem packed_of_entrySize {file : KernelFile} (size : entrySize file.image 0 = Elf64Phdr.size)
    (i : Nat) : file.packedOffset i = file.declaredOffset i := by
  rw [KernelFile.packedOffset, KernelFile.declaredOffset, programHeader, size]

theorem oneSegment_elf64 : oneSegmentFile.Elf64 where
  header := by decide
  stride := by decide +kernel
  table := by decide +kernel
  ordered := by decide +kernel

theorem oneSegment_decoded :
    StrideFollowed oneSegmentFile (kernelRun oneSegmentFile).1 (kernelRun oneSegmentFile).2.1 := by
  have allowed : allowed (BumpFirmware.handle oneSegmentFile) BumpFirmware.allow
      (loadKernel 0x100 (wide kernelFilepath) 0) freshFirmware := by decide +kernel
  apply (strideFollowed_iff oneSegment_elf64 (exec_runs _ _ freshFirmware)
    (BumpFirmware.follows freshFirmware_valid allowed)).mpr
  intro i _
  rw [packed_of_entrySize (by decide +kernel)]

/-! A kernel of two segments whose program headers are 64 bytes apart. -/

def wideTableBytes : List (BitVec 8) :=
  [0x7F, 0x45, 0x4C, 0x46, 2, 1, 1, 0, 0, 0, 0, 0, 0, 0, 0, 0,
    2, 0, 62, 0, 1, 0, 0, 0, 0, 0, 0x20, 0, 0, 0, 0, 0, 64, 0, 0, 0, 0, 0, 0, 0,
    0, 0, 0, 0, 0, 0, 0, 0, 0, 0, 0, 0, 64, 0, 64, 0, 2, 0, 0, 0, 0, 0, 0, 0,
    1, 0, 0, 0, 5, 0, 0, 0, 192, 0, 0, 0, 0, 0, 0, 0, 0, 0, 0x20, 0, 0, 0, 0, 0,
    0, 0, 0x20, 0, 0, 0, 0, 0, 16, 0, 0, 0, 0, 0, 0, 0, 32, 0, 0, 0, 0, 0, 0, 0,
    0, 0x10, 0, 0, 0, 0, 0, 0, 0, 0, 0, 0, 0, 0, 0, 0,
    1, 0, 0, 0, 5, 0, 0, 0, 208, 0, 0, 0, 0, 0, 0, 0, 0, 0x10, 0x20, 0, 0, 0, 0, 0,
    0, 0x10, 0x20, 0, 0, 0, 0, 0, 16, 0, 0, 0, 0, 0, 0, 0, 32, 0, 0, 0, 0, 0, 0, 0,
    0, 0x10, 0, 0, 0, 0, 0, 0, 0, 0, 0, 0, 0, 0, 0, 0,
    1, 2, 3, 4, 5, 6, 7, 8, 9, 10, 11, 12, 13, 14, 15, 16,
    17, 18, 19, 20, 21, 22, 23, 24, 25, 26, 27, 28, 29, 30, 31, 32]

def wideTableFile : KernelFile where
  size := 224
  byte := fun i => wideTableBytes.getD i 0
  bounded := by decide

theorem wideTable_elf64 : wideTableFile.Elf64 where
  header := by decide
  stride := by decide +kernel
  table := by decide +kernel
  ordered := by decide +kernel

/-- The second segment is taken for a header of type 0. -/
theorem wideTable_misread :
    wideTableFile.Elf64 ∧
      ¬ StrideFollowed wideTableFile (kernelRun wideTableFile).1 (kernelRun wideTableFile).2.1 := by
  have allowed : allowed (BumpFirmware.handle wideTableFile) BumpFirmware.allow
      (loadKernel 0x100 (wide kernelFilepath) 0) freshFirmware := by decide +kernel
  rcases loadKernel_taken wideTable_elf64 (exec_runs _ _ freshFirmware)
    (BumpFirmware.follows freshFirmware_valid allowed) with ⟨⟨status, returned, succeeds⟩, taken⟩
  apply And.intro wideTable_elf64
  intro followed
  rcases followed with ⟨status', same, failed⟩ | declared
  · have ended : status' = status := Except.ok.inj (same.symm.trans returned)
    rw [ended] at failed
    exact succeeds failed
  · have second := taken.mp declared 1 (by decide +kernel)
    revert second
    decide +kernel

end Flosp.Boot
