import Flosp.Boot.FileReads

/-! What the loader makes of a file that ends early: no caller looks at how many bytes a
read delivered. -/

namespace Flosp.Boot

open Interaction ByteMemory

section Loop

variable {file : KernelFile} {kernelImage table : Addr} {phoff : BitVec 64} {count i : Nat}
  {u v : Firmware} {fresh : Addr → Prop}

theorem member_fresh_iff
    (read : ReadBuffer file phoff table (Elf64Phdr.size * count) u fresh) (inside : i < count)
    (field : Field) (some : 0 < field.size) (fits : field.offset + field.size ≤ Elf64Phdr.size) :
    (∀ x, Within x (programHeader table i + BitVec.ofNat 64 field.offset) field.size → fresh x) ↔
      phoff.toNat + Elf64Phdr.size * i + field.offset + field.size ≤ file.size := by
  have next : Elf64Phdr.size * i + Elf64Phdr.size ≤ Elf64Phdr.size * count := by
    rw [← Nat.mul_succ]
    exact Nat.mul_le_mul_left _ inside
  rw [programHeader, offset_add, read.range_fresh_iff some (by omega),
    ← Nat.add_assoc phoff.toNat]

theorem member_read
    (read : ReadBuffer file phoff table (Elf64Phdr.size * count) u fresh) (inside : i < count)
    (field : Field) (fits : field.offset + field.size ≤ Elf64Phdr.size)
    (reaches : phoff.toNat + Elf64Phdr.size * i + field.offset + field.size ≤ file.size) :
    field.read u.mem (programHeader table i) =
      field.read file.image (programHeader phoff i) := by
  have next : Elf64Phdr.size * i + Elf64Phdr.size ≤ Elf64Phdr.size * count := by
    rw [← Nat.mul_succ]
    exact Nat.mul_le_mul_left _ inside
  rw [Field.read, Field.read, programHeader, programHeader, offset_add, offset_add]
  exact read.load_eq (by omega) (by omega)

theorem segment_from_file
    (read : ReadBuffer file phoff table (Elf64Phdr.size * count) u fresh) (inside : i < count)
    (reaches : phoff.toNat + Elf64Phdr.size * i + 48 ≤ file.size) :
    segmentAt u.mem table i = segmentAt file.image phoff i := by
  have member (f : Field) (fits : f.offset + f.size ≤ 48) :
      f.read u.mem (programHeader table i) = f.read file.image (programHeader phoff i) :=
    member_read read inside f (Nat.le_trans fits (by decide)) (by omega)
  have offset := member Elf64Phdr.pOffset (by decide)
  have fileSize := member Elf64Phdr.pFilesz (by decide)
  have memorySize := member Elf64Phdr.pMemsz (by decide)
  have address := member Elf64Phdr.pPaddr (by decide)
  simp only [segmentAt, offset, fileSize, memorySize, address]

/-- The file reaches the end of all that the loop takes from it for the `j`-th header. A
segment that wipes memory has to be the last. -/
structure HeaderComplete (file : KernelFile) (phoff : BitVec 64) (count j : Nat) : Prop where
  type : phoff.toNat + Elf64Phdr.size * j + 4 ≤ file.size
  members : Loadable file.image phoff j → phoff.toNat + Elf64Phdr.size * j + 48 ≤ file.size
  data : Loadable file.image phoff j → 0 < (segmentAt file.image phoff j).fileSize.toNat →
    (segmentAt file.image phoff j).offset.toNat + (segmentAt file.image phoff j).fileSize.toNat ≤
      file.size
  last : Loadable file.image phoff j →
    (segmentAt file.image phoff j).memorySize < (segmentAt file.image phoff j).fileSize →
    j + 1 = count

theorem holds_segment_loads (read : ReadBuffer file phoff table (Elf64Phdr.size * count) u fresh)
    (inside : i < count) (h : Segment) :
    reads.Holds (h.events (programHeader table i)) fresh ↔
      phoff.toNat + Elf64Phdr.size * i + 48 ≤ file.size := by
  have offset : (∀ x, Within x (programHeader table i + 8#64) 8 → fresh x) ↔
      phoff.toNat + Elf64Phdr.size * i + 8 + 8 ≤ file.size :=
    member_fresh_iff read inside Elf64Phdr.pOffset (by decide) (by decide)
  have fileSize : (∀ x, Within x (programHeader table i + 32#64) 8 → fresh x) ↔
      phoff.toNat + Elf64Phdr.size * i + 32 + 8 ≤ file.size :=
    member_fresh_iff read inside Elf64Phdr.pFilesz (by decide) (by decide)
  have memorySize : (∀ x, Within x (programHeader table i + 40#64) 8 → fresh x) ↔
      phoff.toNat + Elf64Phdr.size * i + 40 + 8 ≤ file.size :=
    member_fresh_iff read inside Elf64Phdr.pMemsz (by decide) (by decide)
  have address : (∀ x, Within x (programHeader table i + 24#64) 8 → fresh x) ↔
      phoff.toNat + Elf64Phdr.size * i + 24 + 8 ≤ file.size :=
    member_fresh_iff read inside Elf64Phdr.pPaddr (by decide) (by decide)
  change ((∀ x, Within x (programHeader table i + 8#64) 8 → fresh x) ∧
    (∀ x, Within x (programHeader table i + 32#64) 8 → fresh x) ∧
    (∀ x, Within x (programHeader table i + 40#64) 8 → fresh x) ∧
    (∀ x, Within x (programHeader table i + 24#64) 8 → fresh x) ∧ True) ↔ _
  rw [offset, fileSize, memorySize, address, and_true]
  omega

theorem holds_turn (read : ReadBuffer file phoff table (Elf64Phdr.size * count) u fresh)
    (inside : i < count) (h : Segment) (s : SegmentReplies) (rest : Trace) :
    reads.Holds (h.events (programHeader table i) ++ s.events kernelImage h ++ rest) fresh ↔
      phoff.toNat + Elf64Phdr.size * i + 48 ≤ file.size ∧
        reads.Holds (s.events kernelImage h) fresh ∧
        reads.Holds rest (reads.after (s.events kernelImage h) fresh) := by
  have unchanged : reads.after (h.events (programHeader table i)) fresh = fresh := rfl
  simp only [Monitor.holds_append, Monitor.after_append, unchanged,
    holds_segment_loads read inside h, and_assoc]

theorem table_after_segment {h : Segment} {s : SegmentReplies} {mid : Firmware}
    (read : ReadBuffer file phoff table (Elf64Phdr.size * count) u fresh)
    (ordered : h.fileSize ≤ h.memorySize)
    (segment : Follows (Uefi file) (s.events kernelImage h) u mid) :
    ReadBuffer file phoff table (Elf64Phdr.size * count) mid
      (reads.after (s.events kernelImage h) fresh) := by
  rcases segment_loads segment with ⟨-, -, loads⟩
  rcases segment_reads segment fresh with ⟨-, kept, -⟩
  apply read.mono (by rw [loads.pool])
  intro x inside
  have pooled := read.pooled inside
  rcases loads.apart ordered (Or.inr pooled) with ⟨outsideFile, outsideZero, unbuffered⟩
  exact ⟨loads.safe ordered (Or.inr pooled), kept x outsideFile outsideZero unbuffered⟩

theorem from_iff {P : Nat → Prop} (inside : i < count) :
    (∀ j, i ≤ j → j < count → P j) ↔ P i ∧ ∀ j, i + 1 ≤ j → j < count → P j := by
  constructor
  · intro all
    exact ⟨all i (Nat.le_refl i) inside, fun j above => all j (by omega)⟩
  · intro both j above below
    rcases Nat.eq_or_lt_of_le above with rfl | more
    · exact both.1
    · exact both.2 j more below

theorem holds_wiped {turns : Nat} {status : EfiStatus} {loaded : BitVec 16} {t : Trace}
    {r : Except Halt EfiStatus} (wiped : ∀ x, ¬ fresh x)
    (does : Does (loadProgramSegmentsFrom kernelImage table turns i status loaded) t r) :
    reads.Holds t fresh ↔ turns = 0 := by
  cases turns with
  | zero =>
      rcases does_segments_end does with ⟨rfl, -⟩
      exact iff_of_true trivial rfl
  | succ turns =>
      rcases does_segments_turn does with ⟨pType, rest, rfl, -⟩
      refine iff_of_false (fun holds => ?_) (Nat.succ_ne_zero turns)
      have first : Within (programHeader table i + BitVec.ofNat 64 Elf64Phdr.pType.offset)
          (programHeader table i + BitVec.ofNat 64 Elf64Phdr.pType.offset)
          Elf64Phdr.pType.size := by
        rw [Within, BitVec.sub_self]
        decide
      exact wiped _ (holds.1 _ first)

/-- The loop over the headers from `i` on, by induction on the headers left. -/
theorem segments_reads {turns : Nat} {status : EfiStatus} {loaded : BitVec 16} {t : Trace}
    {r : Except Halt EfiStatus}
    (does : Does (loadProgramSegmentsFrom kernelImage table turns i status loaded) t r)
    (follows : Follows (Uefi file) t u v)
    (read : ReadBuffer file phoff table (Elf64Phdr.size * count) u fresh)
    (span : i + turns = count) :
    reads.Holds t fresh ↔ ∀ j, i ≤ j → j < count → HeaderComplete file phoff count j := by
  induction turns generalizing i status loaded t u fresh with
  | zero =>
      rcases does_segments_end does with ⟨rfl, -⟩
      apply iff_of_true trivial
      intro j above below
      omega
  | succ turns ih =>
      have inside : i < count := by omega
      rw [from_iff inside]
      rcases turn_follows does follows with ⟨rest, turn⟩
      have typeHolds (rest : Trace) : reads.Holds (memberEvent (programHeader table i)
          Elf64Phdr.pType (headerType u.mem table i) :: rest) fresh ↔
          phoff.toNat + Elf64Phdr.size * i + 4 ≤ file.size ∧ reads.Holds rest fresh :=
        and_congr_left' (member_fresh_iff read inside Elf64Phdr.pType (by decide)
          (by decide))
      by_cases reaches : phoff.toNat + Elf64Phdr.size * i + 4 ≤ file.size
      · have type : headerType u.mem table i = headerType file.image phoff i :=
          member_read read inside Elf64Phdr.pType (by decide) reaches
        rcases turn with ⟨other, rfl, next, after⟩ |
          ⟨loadable, s, mid, rfl, segment, next, after⟩
        · rw [typeHolds, ih next after read (by omega)]
          rw [Loadable, type] at other
          have complete : HeaderComplete file phoff count i :=
            ⟨reaches, fun loadable => absurd loadable other,
              fun loadable => absurd loadable other, fun loadable => absurd loadable other⟩
          exact and_congr_left' (iff_of_true reaches complete)
        · rw [Loadable, type] at loadable
          rw [typeHolds, and_iff_right reaches, holds_turn read inside]
          by_cases whole : phoff.toNat + Elf64Phdr.size * i + 48 ≤ file.size
          · rw [segment_from_file read inside whole] at segment next ⊢
            rcases segment_reads segment fresh with ⟨holds, -, gone⟩
            rw [holds, and_iff_right whole]
            by_cases reversed : (segmentAt file.image phoff i).memorySize <
                (segmentAt file.image phoff i).fileSize
            · rw [holds_wiped (gone reversed) next]
              constructor
              · intro both
                refine ⟨⟨reaches, fun _ => whole, fun _ => both.1, fun _ _ => by omega⟩, ?_⟩
                intro j above below
                omega
              · intro complete
                have last := complete.1.last loadable reversed
                exact ⟨complete.1.data loadable, by omega⟩
            · have ordered := BitVec.not_lt.mp reversed
              rw [ih next after (table_after_segment read ordered segment) (by omega)]
              refine and_congr_left' ⟨fun data => ?_, fun complete => complete.data loadable⟩
              exact ⟨reaches, fun _ => whole, fun _ => data, fun _ less => absurd less reversed⟩
          · apply iff_of_false (fun holds => whole holds.1)
            exact fun complete => whole (complete.1.members loadable)
      · refine iff_of_false ?_ fun complete => reaches complete.1.type
        intro holds
        rcases turn with ⟨-, rfl, -⟩ | ⟨-, s, mid, rfl, -⟩
        · exact reaches ((typeHolds _).mp holds).1
        · exact reaches ((typeHolds _).mp holds).1

end Loop

section Stages

variable {file : KernelFile} {kernelImage : Addr} {start : BitVec 64} {buffer : Addr} {n : Nat}
  {k : KernelReplies} {u v : Firmware} {fresh fresh' : Addr → Prop}

theorem BufferRead.keeps {start' : BitVec 64} {buffer' : Addr} {n' : Nat}
    (reading : BufferRead file start' buffer' n' u v fresh fresh') (some : 0 < n)
    (read : ReadBuffer file start buffer n u fresh) :
    ReadBuffer file start buffer n v fresh' := by
  have other : buffer ≠ buffer' := by
    intro same
    have live := read.live
    rw [same, reading.unused] at live
    omega
  apply read.mono
  · rw [reading.pool]
    exact if_neg other
  · intro x inside
    exact reading.kept x fun within => (reading.free x within).2 (read.pooled inside)

/-- `*KernelEntryPoint = ...` with the null pointer that `efi_main` passes. -/
theorem ReadBuffer.afterStore (read : ReadBuffer file start buffer n u fresh)
    (aligned : buffer ≠ 0 ∧ buffer.toNat % 8 = 0 ∧ buffer.toNat + n ≤ 2 ^ 64) (e : BitVec 64) :
    ReadBuffer file start buffer n { u with mem := ByteMemory.store u.mem 0 (n := 8) e }
      (fun x => fresh x ∧ ¬ Within x 0 8) := by
  rcases aligned with ⟨nonzero, multiple, straight⟩
  have above : buffer.toNat ≠ 0 := fun zero => nonzero (BitVec.eq_of_toNat_eq zero)
  apply read.mono (v := { u with mem := ByteMemory.store u.mem 0 (n := 8) e }) rfl
  intro x inside
  have between := (within_iff_toNat straight).mp inside
  have outside : ¬ Within x (0 : Addr) 8 := by
    rw [Within, sub_zero]
    omega
  exact ⟨store_outside outside, and_iff_left outside⟩

theorem fieldLoads_reads {region : Region}
    (structured : region = .elfIdentity ∨ region = .elfHeader) {base : Addr}
    {fields : List Field} {t : Trace} (loads : FieldLoads region base fields t)
    (follows : Follows (Uefi file) t u v) (fresh : Addr → Prop) :
    v = u ∧ reads.after t fresh = fresh ∧ (reads.Holds t fresh ↔ ∀ f ∈ fields,
      ∀ x, Within x (base + BitVec.ofNat 64 f.offset) f.size → fresh x) := by
  induction fields generalizing t u with
  | nil =>
      cases loads
      exact ⟨follows, rfl, iff_of_true trivial fun f member => absurd member List.not_mem_nil⟩
  | cons f fields ih =>
      rcases loads with ⟨value, rest, rfl, later⟩
      rcases follows with ⟨mid, ⟨-, stays⟩, after⟩
      rw [stays] at after
      rcases ih later after with ⟨same, unchanged, holds⟩
      have next : reads.next (loadEvent region (base + BitVec.ofNat 64 f.offset) f.size value)
          fresh = fresh := rfl
      have ok : reads.ok (loadEvent region (base + BitVec.ofNat 64 f.offset) f.size value) fresh ↔
          ∀ x, Within x (base + BitVec.ofNat 64 f.offset) f.size → fresh x := by
        rcases structured with rfl | rfl
        · exact Iff.rfl
        · exact Iff.rfl
      refine ⟨same, ?_, ?_⟩
      · rw [Monitor.after_cons, next, unchanged]
      · rw [Monitor.holds_cons, next, ok, holds, List.forall_mem_cons]

theorem holds_fieldLoads {region : Region}
    (structured : region = .elfIdentity ∨ region = .elfHeader) {fields : List Field} {t : Trace}
    (read : ReadBuffer file 0 buffer n u fresh)
    (inside : ∀ f ∈ fields, 0 < f.size ∧ f.offset + f.size ≤ n)
    (loads : FieldLoads region buffer fields t) (follows : Follows (Uefi file) t u v) :
    reads.Holds t fresh ↔ ∀ f ∈ fields, f.offset + f.size ≤ file.size := by
  rw [(fieldLoads_reads structured loads follows _).2.2]
  apply forall₂_congr
  intro f member
  rcases inside f member with ⟨some, fits⟩
  have first : (0 : BitVec 64).toNat = 0 := rfl
  rw [read.range_fresh_iff some fits, first, Nat.zero_add]

theorem identity_reads (proper : k.Proper kernelImage) (reaches : 16 ≤ file.size)
    (follows : Follows (Uefi file) (k.identityEvents kernelImage) u v) :
    reads.Holds (k.identityEvents kernelImage) fresh := by
  rcases proper.identity with ⟨fields, inside, loads⟩
  rcases follows_append.mp follows with ⟨loaded, first, -⟩
  rcases follows_append.mp first with ⟨filled, reading, checks⟩
  rcases bufferEvents_read reading fresh with ⟨silent, read⟩
  have holds := holds_fieldLoads (Or.inl rfl) read.read inside loads checks
  simp only [KernelReplies.identityEvents, Monitor.holds_append, silent, holds, true_and]
  refine ⟨fun f member => Nat.le_trans (inside f member).2 reaches, trivial, trivial⟩

theorem header_reads (follows : Follows (Uefi file) (k.headerEvents kernelImage) u v)
    (fresh : Addr → Prop) :
    ReadBuffer file 0 k.header.buffer 64 v (reads.after (k.headerEvents kernelImage) fresh) ∧
      (k.header.buffer ≠ 0 ∧ k.header.buffer.toNat % 8 = 0 ∧
        k.header.buffer.toNat + 64 ≤ 2 ^ 64) ∧
      k.phoff = Elf64Ehdr.ePhoff.read v.mem k.header.buffer ∧
      k.phnum = Elf64Ehdr.ePhnum.read v.mem k.header.buffer ∧
      (64 ≤ file.size → reads.Holds (k.headerEvents kernelImage) fresh) := by
  rcases follows_append.mp follows with ⟨filled, reading, loads⟩
  rcases loads with ⟨_, ⟨phoff, rfl⟩, _, ⟨phnum, rfl⟩, rfl⟩
  rcases bufferEvents_read reading fresh with ⟨silent, read⟩
  have unchanged : reads.after (k.headerEvents kernelImage) fresh =
      reads.after (k.header.events kernelImage 0 (BitVec.ofNat 64 Elf64Ehdr.size)) fresh := by
    rw [KernelReplies.headerEvents, Monitor.after_append]
    rfl
  refine ⟨unchanged ▸ read.read, read.aligned, phoff, phnum, ?_⟩
  intro reaches
  rw [KernelReplies.headerEvents, Monitor.holds_append]
  have first : (0 : BitVec 64).toNat = 0 := rfl
  have whole (f : Field) (some : 0 < f.size) (fits : f.offset + f.size ≤ 64) :=
    (read.read.range_fresh_iff some fits).mpr (by omega)
  exact ⟨silent, whole Elf64Ehdr.ePhoff (by decide) (by decide),
    whole Elf64Ehdr.ePhnum (by decide) (by decide), trivial⟩

theorem tableSize_toNat (phnum : BitVec 16) :
    (tableSize phnum).toNat = Elf64Phdr.size * phnum.toNat := by
  have bound := phnum.isLt
  have size : Elf64Phdr.size = 56 := rfl
  rw [tableSize, BitVec.toNat_mul, BitVec.toNat_ofNat, BitVec.toNat_setWidth, size]
  omega

theorem table_reads
    (read : ReadBuffer file 0 k.header.buffer 64 u fresh)
    (aligned : k.header.buffer ≠ 0 ∧ k.header.buffer.toNat % 8 = 0 ∧
      k.header.buffer.toNat + 64 ≤ 2 ^ 64)
    (follows : Follows (Uefi file) (k.tableEvents kernelImage 0) u v) :
    ReadBuffer file 0 k.header.buffer 64 v (reads.after (k.tableEvents kernelImage 0) fresh) ∧
      ReadBuffer file k.phoff k.table.buffer (Elf64Phdr.size * k.phnum.toNat) v
        (reads.after (k.tableEvents kernelImage 0) fresh) ∧
      (64 ≤ file.size → reads.Holds (k.tableEvents kernelImage 0) fresh) := by
  rcases follows_append.mp follows with ⟨filled, reading, loads⟩
  rcases loads with ⟨_, ⟨-, rfl⟩, _, stored, stays⟩
  rcases bufferEvents_read reading fresh with ⟨silent, table⟩
  have header := table.keeps (by decide) read
  have after : reads.after (k.tableEvents kernelImage 0) fresh = fun x =>
      reads.after (k.table.events kernelImage k.phoff (tableSize k.phnum)) fresh x ∧
        ¬ Within x 0 8 := by
    rw [KernelReplies.tableEvents, Monitor.after_append]
    rfl
  rw [after, stays, stored, ← tableSize_toNat]
  refine ⟨header.afterStore aligned k.entry, table.read.afterStore table.aligned k.entry, ?_⟩
  intro reaches
  rw [KernelReplies.tableEvents, Monitor.holds_append]
  have first : (0 : BitVec 64).toNat = 0 := rfl
  have entry := (header.range_fresh_iff (show 0 < 8 by decide) (show 24 + 8 ≤ 64 by decide)).mpr
    (by omega)
  exact ⟨silent, entry, trivial, trivial⟩

end Stages

/-- `e_phoff` of the header at `kernelHeader` -/
def headersOffset (m : Memory 64) (kernelHeader : Addr) : BitVec 64 :=
  Elf64Ehdr.ePhoff.read m kernelHeader

/-- The file reaches the end of everything that `load_kernel` takes from it: the ELF header,
and what each program header of its table asks for. -/
structure KernelFile.Complete (file : KernelFile) : Prop where
  header : 64 ≤ file.size
  segments : ∀ j, j < headerCount file.image 0 →
    HeaderComplete file (headersOffset file.image 0) (headerCount file.image 0) j

section Kernel

variable {file : KernelFile} {kernelImage : Addr} {k : KernelReplies} {u v : Firmware}
  {fresh : Addr → Prop}

theorem header_member {buffer : Addr} (read : ReadBuffer file 0 buffer 64 u fresh)
    (reaches : 64 ≤ file.size) (f : Field) (fits : f.offset + f.size ≤ 64) :
    f.read u.mem buffer = f.read file.image 0 := by
  have first : (0 : BitVec 64).toNat = 0 := rfl
  exact read.load_eq fits (by omega)

theorem infoFields_inside : ∀ f ∈ infoFields, 0 < f.size ∧ f.offset + f.size ≤ 64 := by
  decide

theorem info_reads (read : ReadBuffer file 0 k.header.buffer 64 u fresh)
    (proper : k.Proper kernelImage) (follows : Follows (Uefi file) k.infoLoads u v) :
    v = u ∧ reads.after k.infoLoads fresh = fresh ∧
      (reads.Holds k.infoLoads fresh ↔ 64 ≤ file.size) := by
  rcases fieldLoads_reads (Or.inr rfl) proper.info follows fresh with
    ⟨same, unchanged, -⟩
  refine ⟨same, unchanged, ?_⟩
  rw [holds_fieldLoads (Or.inr rfl) read infoFields_inside proper.info follows]
  constructor
  · intro all
    exact all Elf64Ehdr.eShstrndx (List.mem_of_getElem? (i := 21) rfl)
  · intro reaches f member
    exact Nat.le_trans (infoFields_inside f member).2 reaches

theorem kernelSegments_loop (proper : k.Proper kernelImage)
    (read : ReadBuffer file 0 k.header.buffer 64 u fresh) (reaches : 64 ≤ file.size)
    (phnum : k.phnum = Elf64Ehdr.ePhnum.read file.image 0)
    (follows : Follows (Uefi file) k.segments u v) :
    ∃ rest r, k.segments = headerEvent k.header.buffer Elf64Ehdr.ePhnum k.phnum :: rest ∧
      Does (loadProgramSegmentsFrom kernelImage k.table.buffer k.phnum.toNat 0 efiSuccess 0)
        rest r ∧
      Follows (Uefi file) rest u v := by
  rcases proper.segments with ⟨ended, does⟩
  rcases does_loadProgramSegments does with ⟨count, rest, split, branch⟩
  rw [split] at follows
  rcases follows with ⟨_, ⟨value, stays⟩, after⟩
  rw [stays] at after
  have counted : count = k.phnum := by
    rw [phnum]
    exact Eq.trans value (header_member read reaches Elf64Ehdr.ePhnum (by decide))
  rw [counted] at split branch
  rcases branch with ⟨none, rfl, -⟩ | ⟨-, loop⟩
  · refine ⟨[], .ok efiNotFound, split, ?_, after⟩
    rw [none]
    exact does_segments_none
  · exact ⟨rest, _, split, loop, after⟩

theorem kernelSegments_reads (read : ReadBuffer file 0 k.header.buffer 64 u fresh)
    (table : ReadBuffer file k.phoff k.table.buffer (Elf64Phdr.size * k.phnum.toNat) u fresh)
    (reaches : 64 ≤ file.size) (phoff : k.phoff = headersOffset file.image 0)
    (phnum : k.phnum = Elf64Ehdr.ePhnum.read file.image 0) (proper : k.Proper kernelImage)
    (follows : Follows (Uefi file) k.segments u v) :
    reads.Holds k.segments fresh ↔ file.Complete := by
  rcases kernelSegments_loop proper read reaches phnum follows with ⟨rest, r, split, loop, after⟩
  rw [split]
  have first : (0 : BitVec 64).toNat = 0 := rfl
  have loaded : ∀ x, Within x (k.header.buffer + BitVec.ofNat 64 56) 2 → fresh x :=
    (read.range_fresh_iff (by decide) (by decide)).mpr (by omega)
  have total : headerCount file.image 0 = k.phnum.toNat := congrArg BitVec.toNat phnum.symm
  have complete : file.Complete ↔ ∀ j, 0 ≤ j → j < k.phnum.toNat →
      HeaderComplete file k.phoff k.phnum.toNat j := by
    constructor
    · intro complete j _ below
      rw [phoff, ← total]
      exact complete.segments j (total ▸ below)
    · intro all
      refine ⟨reaches, fun j below => ?_⟩
      rw [← phoff, total]
      exact all j (Nat.zero_le j) (total ▸ below)
  rw [complete]
  apply Iff.trans (and_iff_right loaded)
  exact segments_reads loop after table (Nat.zero_add _)

/-- What `load_program_segments` starts from: the header and the table in their buffers. -/
structure KernelReplies.Starts (k : KernelReplies) (file : KernelFile) (u : Firmware)
    (fresh : Addr → Prop) : Prop where
  header : ReadBuffer file 0 k.header.buffer 64 u fresh
  table : ReadBuffer file k.phoff k.table.buffer (Elf64Phdr.size * k.phnum.toNat) u fresh
  phoff : 64 ≤ file.size → k.phoff = headersOffset file.image 0
  phnum : 64 ≤ file.size → k.phnum = Elf64Ehdr.ePhnum.read file.image 0

theorem kernel_segments_start (proper : k.Proper kernelImage)
    (follows : Follows (Uefi file) (k.events kernelImage 0) u v) (fresh : Addr → Prop) :
    ∃ (s s' : Firmware) (fresh' : Addr → Prop),
      k.Starts file s fresh' ∧ Follows (Uefi file) k.segments s s' ∧
      (reads.Holds (k.events kernelImage 0) fresh ↔
        64 ≤ file.size ∧ reads.Holds k.segments fresh') := by
  rcases follows_append.mp follows with ⟨s₅, to₅, -⟩
  rcases follows_append.mp to₅ with ⟨s₄, to₄, segments⟩
  rcases follows_append.mp to₄ with ⟨s₃, to₃, info⟩
  rcases follows_append.mp to₃ with ⟨s₂, to₂, table⟩
  rcases follows_append.mp to₂ with ⟨s₁, identity, header⟩
  let fresh₁ := reads.after (k.identityEvents kernelImage) fresh
  let fresh₂ := reads.after (k.headerEvents kernelImage) fresh₁
  let fresh₃ := reads.after (k.tableEvents kernelImage 0) fresh₂
  rcases header_reads header fresh₁ with ⟨read₂, aligned, phoff, phnum, headerHolds⟩
  rcases table_reads read₂ aligned table with ⟨read₃, table₃, tableHolds⟩
  rcases info_reads read₃ proper info with ⟨rfl, unchanged, infoHolds⟩
  have closing (g : Addr → Prop) : reads.Holds (k.closeEvents kernelImage) g :=
    ⟨trivial, trivial, trivial, trivial⟩
  have split : reads.Holds (k.events kernelImage 0) fresh ↔
      reads.Holds (k.identityEvents kernelImage) fresh ∧
        reads.Holds (k.headerEvents kernelImage) fresh₁ ∧
        reads.Holds (k.tableEvents kernelImage 0) fresh₂ ∧
        reads.Holds k.infoLoads fresh₃ ∧ reads.Holds k.segments fresh₃ := by
    have unchanged' : reads.after k.infoLoads fresh₃ = fresh₃ := unchanged
    simp only [KernelReplies.events, Monitor.holds_append, Monitor.after_append, closing,
      and_true, and_assoc]
    change _ ∧ _ ∧ _ ∧ _ ∧ reads.Holds k.segments (reads.after k.infoLoads fresh₃) ↔ _
    rw [unchanged']
  refine ⟨s₄, s₅, fresh₃, ⟨read₃, table₃, ?_, ?_⟩, segments, ?_⟩
  · intro reaches
    exact phoff.trans (header_member read₂ reaches Elf64Ehdr.ePhoff (by decide))
  · intro reaches
    exact phnum.trans (header_member read₂ reaches Elf64Ehdr.ePhnum (by decide))
  · rw [split]
    constructor
    · intro holds
      exact ⟨infoHolds.mp holds.2.2.2.1, holds.2.2.2.2⟩
    · intro holds
      have reaches := holds.1
      exact ⟨identity_reads proper (by omega) identity, headerHolds reaches, tableHolds reaches,
        infoHolds.mpr reaches, holds.2⟩

theorem kernel_reads (proper : k.Proper kernelImage)
    (follows : Follows (Uefi file) (k.events kernelImage 0) u v) (fresh : Addr → Prop) :
    (reads.Holds (k.events kernelImage 0) fresh ↔ file.Complete) ∧ ¬ Failed k.tableFree.1 := by
  constructor
  · rcases kernel_segments_start proper follows fresh with ⟨s, s', fresh', starts, segments, holds⟩
    have segmentsHold (reaches : 64 ≤ file.size) : reads.Holds k.segments fresh' ↔ file.Complete :=
      kernelSegments_reads starts.header starts.table reaches (starts.phoff reaches)
        (starts.phnum reaches) proper segments
    rw [holds]
    constructor
    · intro both
      exact (segmentsHold both.1).mp both.2
    · intro complete
      exact ⟨complete.header, (segmentsHold complete.header).mpr complete⟩
  · rcases follows_append.mp follows with ⟨_, -, close⟩
    rcases close with ⟨_, -, _, -, _, ⟨succeeds, -⟩, -⟩
    exact succeeds

end Kernel

theorem reads_ignores_printing (e : BootEvent) (fresh : Addr → Prop)
    (silent : effective e = false) : reads.next e fresh = fresh ∧ reads.ok e fresh := by
  rcases e with ⟨op, reply⟩
  cases op with
  | load region a n => cases silent
  | store region a n v => cases silent
  | call c =>
      cases c with
      | outputString string => exact ⟨rfl, trivial⟩
      | _ => cases silent

theorem holds_reads_filter (t : Trace) (fresh : Addr → Prop) :
    reads.Holds (t.filter effective) fresh ↔ reads.Holds t fresh :=
  Monitor.holds_filter (fun e s silent => (reads_ignores_printing e s silent).1)
    (fun e s silent => (reads_ignores_printing e s silent).2) t fresh

/-- A file that `load_kernel` does not refuse was read to the end of everything taken from it. -/
def TruncationRefused (t : Trace) (r : Except Halt EfiStatus) : Prop :=
  ∃ status, r = .ok status ∧ (¬ Failed status → reads.Holds t (fun _ => False))

theorem loadKernel_reads {file : KernelFile} {rootFileSystem : Addr}
    {kernelFilename : List Char16} {t : Trace} {r : Except Halt EfiStatus} {s s' : Firmware}
    (runs : Runs (loadKernel rootFileSystem kernelFilename 0) t r)
    (follows : Follows (Uefi file) t s s') :
    (∃ status, r = .ok status ∧ ¬ Failed status) ∧
      (reads.Holds t (fun _ => False) ↔ file.Complete) := by
  rcases does_of_runs runs follows with ⟨does, moves⟩
  rw [← holds_reads_filter]
  rcases does_loadKernel does with ⟨opened, rest, split, branch⟩
  rw [split] at moves ⊢
  rcases moves with ⟨_, ⟨openSucceeds, ⟨handle, handed, nonzero⟩, -⟩, later⟩
  rcases branch with ⟨missing, -⟩ | ⟨-, k, rfl, proper, rfl⟩
  · rcases missing with notFound | null
    · rw [notFound] at openSucceeds
      exact absurd (failed_efiErr 14) openSucceeds
    · have handle' : opened.2.getD 0 = handle := by rw [handed]; rfl
      exact absurd (handle'.symm.trans null) nonzero
  · rcases kernel_reads proper later fun _ => False with ⟨holds, freed⟩
    exact ⟨⟨_, rfl, freed⟩, (and_iff_right trivial).trans holds⟩

/-- `load_kernel` reports success for every file, so only complete ones are loaded rightly. -/
theorem truncationRefused_iff {file : KernelFile} {rootFileSystem : Addr}
    {kernelFilename : List Char16} {t : Trace} {r : Except Halt EfiStatus} {s s' : Firmware}
    (runs : Runs (loadKernel rootFileSystem kernelFilename 0) t r)
    (follows : Follows (Uefi file) t s s') :
    TruncationRefused t r ↔ file.Complete := by
  rcases loadKernel_reads runs follows with ⟨⟨status, rfl, succeeds⟩, holds⟩
  rw [← holds]
  constructor
  · intro refused
    rcases refused with ⟨status', same, whole⟩
    cases same
    exact whole succeeds
  · intro whole
    exact ⟨status, rfl, fun _ => whole⟩

/-! A kernel of one segment, with 16 bytes from offset 120 of the file on. -/

def oneSegmentBytes : List (BitVec 8) :=
  [0x7F, 0x45, 0x4C, 0x46, 2, 1, 1, 0, 0, 0, 0, 0, 0, 0, 0, 0,
    2, 0, 62, 0, 1, 0, 0, 0, 0, 0, 0x20, 0, 0, 0, 0, 0, 64, 0, 0, 0, 0, 0, 0, 0,
    0, 0, 0, 0, 0, 0, 0, 0, 0, 0, 0, 0, 64, 0, 56, 0, 1, 0, 0, 0, 0, 0, 0, 0,
    1, 0, 0, 0, 5, 0, 0, 0, 120, 0, 0, 0, 0, 0, 0, 0, 0, 0, 0x20, 0, 0, 0, 0, 0,
    0, 0, 0x20, 0, 0, 0, 0, 0, 16, 0, 0, 0, 0, 0, 0, 0, 32, 0, 0, 0, 0, 0, 0, 0,
    0, 0x10, 0, 0, 0, 0, 0, 0, 1, 2, 3, 4, 5, 6, 7, 8, 9, 10, 11, 12, 13, 14, 15, 16]

def oneSegmentFile : KernelFile where
  size := 136
  byte := fun i => oneSegmentBytes.getD i 0
  bounded := by decide

/-- The same kernel without its last 8 bytes. -/
def cutFile : KernelFile where
  size := 128
  byte := fun i => oneSegmentBytes.getD i 0
  bounded := by decide

def freshFirmware : BumpFirmware where
  firmware := { mem := fun _ => 0, position := 0, pages := fun _ => False, pool := fun _ => 0 }
  nextBuffer := BumpFirmware.poolStart
  nextPage := 0

theorem freshFirmware_valid : freshFirmware.Valid where
  aligned := by decide
  above := Nat.le_refl _
  below := by decide
  pool := fun _ live => absurd rfl live
  pages := fun _ page => page.elim
  low := by decide

def kernelRun (file : KernelFile) : Trace × Except Halt EfiStatus × BumpFirmware :=
  exec (BumpFirmware.handle file) (loadKernel 0x100 (wide kernelFilepath) 0) freshFirmware

theorem oneSegment_complete : oneSegmentFile.Complete where
  header := by decide
  segments := by
    intro j below
    have count : headerCount oneSegmentFile.image 0 = 1 := by decide +kernel
    rw [count] at below
    have only : j = 0 := by omega
    subst only
    rw [count]
    exact ⟨by decide +kernel, by decide +kernel, by decide +kernel, fun _ _ => rfl⟩

theorem oneSegment_loaded :
    TruncationRefused (kernelRun oneSegmentFile).1 (kernelRun oneSegmentFile).2.1 := by
  have allowed : allowed (BumpFirmware.handle oneSegmentFile) BumpFirmware.allow
      (loadKernel 0x100 (wide kernelFilepath) 0) freshFirmware := by decide +kernel
  exact (truncationRefused_iff (exec_runs _ _ freshFirmware)
    (BumpFirmware.follows freshFirmware_valid allowed)).mpr oneSegment_complete

theorem cut_not_refused :
    ¬ TruncationRefused (kernelRun cutFile).1 (kernelRun cutFile).2.1 := by
  have allowed : allowed (BumpFirmware.handle cutFile) BumpFirmware.allow
      (loadKernel 0x100 (wide kernelFilepath) 0) freshFirmware := by decide +kernel
  rcases loadKernel_reads (exec_runs _ _ freshFirmware)
    (BumpFirmware.follows freshFirmware_valid allowed) with ⟨⟨status, returned, succeeds⟩, holds⟩
  intro refused
  rcases refused with ⟨status', same, whole⟩
  have ended : status' = status := Except.ok.inj (same.symm.trans returned)
  rw [ended] at whole
  have complete := holds.mp (whole succeeds)
  have data := (complete.segments 0 (by decide +kernel)).data (by decide +kernel)
    (by decide +kernel)
  revert data
  decide +kernel


end Flosp.Boot
