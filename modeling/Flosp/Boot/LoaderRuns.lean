import Flosp.Boot.Effects

/-! The run of each function of the loader as the list of its firmware calls and memory
accesses. None of them has an error path: `EFI_ERROR` holds of no status. -/

namespace Flosp.Boot

open Interaction

/-! `load_segment`. -/

/-- What `load_segment` is told of a `PT_LOAD` header, in the order the loop reads it. -/
structure Segment where
  offset : BitVec 64
  fileSize : BitVec 64
  memorySize : BitVec 64
  physicalAddress : BitVec 64
  deriving DecidableEq

/-- What the firmware answers during one `load_segment`. -/
structure SegmentReplies where
  seek : EfiStatus × Unit
  pages : EfiStatus × Option (BitVec 64)
  pool : EfiStatus × Option Addr
  read : EfiStatus × Option (BitVec 64)
  copy : EfiStatus × Unit
  free : EfiStatus × Unit
  zero : EfiStatus × Unit

namespace SegmentReplies

/-- The segment's address after `AllocatePages`. -/
def target (s : SegmentReplies) (h : Segment) : BitVec 64 := s.pages.2.getD h.physicalAddress

def buffer (s : SegmentReplies) : Addr := s.pool.2.getD 0

def status (s : SegmentReplies) (h : Segment) : EfiStatus :=
  if h.memorySize - h.fileSize > 0 then s.zero.1
  else if h.fileSize > 0 then s.free.1
  else s.pages.1

def grantEvents (s : SegmentReplies) (kernelImage : Addr) (h : Segment) : Trace :=
  [callEvent (.setPosition kernelImage h.offset) s.seek,
    callEvent (.allocatePages .allocateAddress .efiLoaderData (efiSizeToPages h.memorySize)
      h.physicalAddress) s.pages]

/-- The calls that bring the file's part of the segment to memory. -/
def fileEvents (s : SegmentReplies) (kernelImage : Addr) (h : Segment) : Trace :=
  [callEvent (.allocatePool .efiLoaderData h.fileSize) s.pool,
    callEvent (.read kernelImage h.fileSize s.buffer) s.read,
    callEvent (.copyMem (s.target h) s.buffer h.fileSize) s.copy,
    callEvent (.freePool s.buffer) s.free]

def zeroEvents (s : SegmentReplies) (h : Segment) : Trace :=
  [callEvent (.setMem (s.target h + h.fileSize) (h.memorySize - h.fileSize) 0) s.zero]

def events (s : SegmentReplies) (kernelImage : Addr) (h : Segment) : Trace :=
  s.grantEvents kernelImage h ++ (if h.fileSize > 0 then s.fileEvents kernelImage h else []) ++
    if h.memorySize - h.fileSize > 0 then s.zeroEvents h else []

end SegmentReplies

theorem does_loadSegment {kernelImage : Addr} {h : Segment} {t : Trace} {r : Except Halt EfiStatus}
    (does : Does (loadSegment kernelImage h.offset h.fileSize h.memorySize h.physicalAddress) t r) :
    ∃ s : SegmentReplies, t = s.events kernelImage h ∧ r = .ok (s.status h) := by
  simp only [loadSegment, setPosition, allocatePages, allocatePool, read, copyMem, freePool,
    setMem, does_efiPrint_bind, does_callStatus_bind, does_callOut_bind, Call.prints,
    efiError_eq_false, Bool.false_eq_true, if_false, not_false_eq_true] at does
  rcases does with ⟨seek, _, rfl, pages, _, rfl, does⟩
  let skipped : EfiStatus × Unit := (0, ())
  by_cases file : h.fileSize > 0 <;> by_cases zero : h.memorySize - h.fileSize > 0 <;>
    simp only [file, zero, if_true, if_false, does_efiPrint_bind, does_callStatus_bind,
      does_callOut_bind, does_pure, Call.prints, Bool.false_eq_true, not_false_eq_true] at does
  · rcases does with ⟨pool, _, rfl, read, _, rfl, copy, _, rfl, free, _, rfl, set, _, rfl, rfl, rfl⟩
    refine ⟨⟨seek, pages, pool, read, copy, free, set⟩, ?_, ?_⟩
    · simp only [SegmentReplies.events, SegmentReplies.fileEvents, SegmentReplies.zeroEvents,
        file, zero, if_true]
      rfl
    · simp only [SegmentReplies.status, zero, if_true]
  · rcases does with ⟨pool, _, rfl, read, _, rfl, copy, _, rfl, free, _, rfl, rfl, rfl⟩
    refine ⟨⟨seek, pages, pool, read, copy, free, skipped⟩, ?_, ?_⟩
    · simp only [SegmentReplies.events, SegmentReplies.fileEvents, file, zero, if_true, if_false]
      rfl
    · simp only [SegmentReplies.status, file, zero, if_true, if_false]
  · rcases does with ⟨set, _, rfl, rfl, rfl⟩
    refine ⟨⟨seek, pages, (0, none), (0, none), skipped, skipped, set⟩, ?_, ?_⟩
    · simp only [SegmentReplies.events, SegmentReplies.zeroEvents, file, zero, if_true, if_false]
      rfl
    · simp only [SegmentReplies.status, zero, if_true]
  · rcases does with ⟨rfl, rfl⟩
    refine ⟨⟨seek, pages, (0, none), (0, none), skipped, skipped, skipped⟩, ?_, ?_⟩
    · simp only [SegmentReplies.events, file, zero, if_false]
      rfl
    · simp only [SegmentReplies.status, file, zero, if_false]

/-! `load_program_segments`. -/

theorem does_segments_end {kernelImage programHeaders : Addr} {i : Nat} {status : EfiStatus}
    {loaded : BitVec 16} {t : Trace} {r : Except Halt EfiStatus}
    (does : Does (loadProgramSegmentsFrom kernelImage programHeaders 0 i status loaded) t r) :
    t = [] ∧ r = .ok (if loaded = 0 then efiNotFound else status) := by
  unfold loadProgramSegmentsFrom at does
  by_cases none : loaded = 0
  · simpa only [none, if_true, does_efiPrint_bind, does_pure] using does
  · simpa only [none, if_false, does_pure] using does

theorem does_segments_none {kernelImage programHeaders : Addr} {i : Nat} {status : EfiStatus} :
    Does (loadProgramSegmentsFrom kernelImage programHeaders 0 i status 0) [] (.ok efiNotFound) := by
  unfold loadProgramSegmentsFrom
  simp only [if_true, does_efiPrint_bind, does_pure, and_self]

def memberEvent (header : Addr) (field : Field) (v : BitVec (8 * field.size)) : BootEvent :=
  loadEvent .programHeaders (header + BitVec.ofNat 64 field.offset) field.size v

def Segment.events (h : Segment) (header : Addr) : Trace :=
  [memberEvent header Elf64Phdr.pOffset h.offset, memberEvent header Elf64Phdr.pFilesz h.fileSize,
    memberEvent header Elf64Phdr.pMemsz h.memorySize,
    memberEvent header Elf64Phdr.pPaddr h.physicalAddress]

theorem does_segments_turn {kernelImage programHeaders : Addr} {turns i : Nat}
    {status : EfiStatus} {loaded : BitVec 16} {t : Trace} {r : Except Halt EfiStatus}
    (does : Does (loadProgramSegmentsFrom kernelImage programHeaders (turns + 1) i status loaded)
      t r) :
    ∃ (pType : BitVec 32) (rest : Trace),
      t = memberEvent (programHeader programHeaders i) Elf64Phdr.pType pType :: rest ∧
      ((pType ≠ ptLoad ∧
          Does (loadProgramSegmentsFrom kernelImage programHeaders turns (i + 1) status loaded)
            rest r) ∨
        (pType = ptLoad ∧ ∃ (h : Segment) (s : SegmentReplies) (rest' : Trace),
          rest = h.events (programHeader programHeaders i) ++ s.events kernelImage h ++ rest' ∧
          Does (loadProgramSegmentsFrom kernelImage programHeaders turns (i + 1) (s.status h)
            (loaded + 1)) rest' r)) := by
  unfold loadProgramSegmentsFrom at does
  rcases (does_loadField_bind _ _ Elf64Phdr.pType _).mp does with
    ⟨(pType : BitVec 32), rest, rfl, branch⟩
  clear does
  refine ⟨pType, rest, rfl, ?_⟩
  by_cases loadable : pType = ptLoad
  · right
    simp only [loadable, if_true, efiError_eq_false, Bool.false_eq_true, if_false] at branch
    rcases (does_loadField_bind _ _ Elf64Phdr.pOffset _).mp branch with ⟨offset, _, rfl, second⟩
    rcases (does_loadField_bind _ _ Elf64Phdr.pFilesz _).mp second with ⟨fileSize, _, rfl, third⟩
    rcases (does_loadField_bind _ _ Elf64Phdr.pMemsz _).mp third with ⟨memorySize, _, rfl, fourth⟩
    rcases (does_loadField_bind _ _ Elf64Phdr.pPaddr _).mp fourth with ⟨address, _, rfl, call⟩
    rcases runsKeeping_bind.mp call with ⟨segment, rest', m, rfl, first, next⟩
    rcases does_loadSegment (h := ⟨offset, fileSize, memorySize, address⟩) first with ⟨s, rfl, rfl⟩
    exact ⟨loadable, ⟨offset, fileSize, memorySize, address⟩, s, rest', rfl, next⟩
  · left
    simp only [loadable, if_false] at branch
    exact ⟨loadable, branch⟩

theorem does_loadProgramSegments {kernelImage kernelHeader kernelProgramHeaders : Addr}
    {t : Trace} {r : Except Halt EfiStatus}
    (does : Does (loadProgramSegments kernelImage kernelHeader kernelProgramHeaders) t r) :
    ∃ (phnum : BitVec 16) (rest : Trace),
      t = loadEvent .elfHeader (kernelHeader + BitVec.ofNat 64 Elf64Ehdr.ePhnum.offset) 2 phnum ::
        rest ∧
      ((phnum = 0 ∧ rest = [] ∧ r = .ok efiInvalidParameter) ∨
        (phnum ≠ 0 ∧ Does (loadProgramSegmentsFrom kernelImage kernelProgramHeaders phnum.toNat 0
          efiSuccess 0) rest r)) := by
  unfold loadProgramSegments at does
  rcases (does_loadField_bind _ _ Elf64Ehdr.ePhnum _).mp does with
    ⟨(phnum : BitVec 16), rest, rfl, branch⟩
  clear does
  refine ⟨phnum, rest, rfl, ?_⟩
  by_cases none : phnum = 0
  · left
    simp only [none, if_true, does_efiPrint_bind, does_pure] at branch
    exact ⟨none, branch.1, branch.2⟩
  · right
    simp only [none, if_false, does_efiPrint_bind] at branch
    exact ⟨none, branch⟩

theorem does_segments_ok {kernelImage table : Addr} {turns i : Nat} {status : EfiStatus}
    {loaded : BitVec 16} {t : Trace} {r : Except Halt EfiStatus}
    (does : Does (loadProgramSegmentsFrom kernelImage table turns i status loaded) t r) :
    ∃ ended, r = .ok ended := by
  induction turns generalizing i status loaded t with
  | zero => exact ⟨_, (does_segments_end does).2⟩
  | succ turns ih =>
      rcases does_segments_turn does with ⟨pType, rest, -, ⟨-, next⟩ | ⟨-, h, s, rest', -, next⟩⟩
      · exact ih next
      · exact ih next

theorem does_loadProgramSegments_ok {kernelImage kernelHeader kernelProgramHeaders : Addr}
    {t : Trace} {r : Except Halt EfiStatus}
    (does : Does (loadProgramSegments kernelImage kernelHeader kernelProgramHeaders) t r) :
    ∃ ended, r = .ok ended := by
  rcases does_loadProgramSegments does with ⟨phnum, rest, -, ⟨-, -, ended⟩ | ⟨-, loop⟩⟩
  · exact ⟨_, ended⟩
  · exact does_segments_ok loop

/-! `read_elf_identity`, `validate_elf_identity`, `read_elf_file`, `print_elf_info`. -/

/-- What the firmware answers while a part of the file is read to a new buffer. -/
structure BufferReplies where
  seek : EfiStatus × Unit
  pool : EfiStatus × Option Addr
  read : EfiStatus × Option (BitVec 64)

namespace BufferReplies

def buffer (b : BufferReplies) : Addr := b.pool.2.getD 0

def events (b : BufferReplies) (kernelImage : Addr) (position size : BitVec 64) : Trace :=
  [callEvent (.setPosition kernelImage position) b.seek,
    callEvent (.allocatePool .efiLoaderData size) b.pool,
    callEvent (.read kernelImage size b.buffer) b.read]

end BufferReplies

theorem does_readElfIdentity {kernelImage : Addr} {t : Trace} {r : Except Halt (EfiStatus × Addr)}
    (does : Does (readElfIdentity kernelImage 0) t r) :
    ∃ b : BufferReplies, t = b.events kernelImage 0 eiNident ∧ r = .ok (b.read.1, b.buffer) := by
  simp only [readElfIdentity, setPosition, allocatePool, read, does_efiPrint_bind,
    does_callStatus_bind, does_callOut_bind, does_pure, Call.prints, efiError_eq_false,
    Bool.false_eq_true, if_false, not_false_eq_true] at does
  rcases does with ⟨seek, _, rfl, pool, _, rfl, read, _, rfl, rfl, rfl⟩
  exact ⟨⟨seek, pool, read⟩, rfl, rfl⟩

def FieldLoads (region : Region) (base : Addr) : List Field → Trace → Prop
  | [], t => t = []
  | f :: fields, t => ∃ v rest,
      t = loadEvent region (base + BitVec.ofNat 64 f.offset) f.size v :: rest ∧
        FieldLoads region base fields rest

def identityEvent (elfIdBuffer : Addr) (i : Nat) (b : BitVec 8) : BootEvent :=
  loadEvent .elfIdentity (elfIdBuffer + BitVec.ofNat 64 (Elf64Ehdr.eIdent i).offset)
    (Elf64Ehdr.eIdent i).size b

theorem does_anyDiffers_cons {elfIdBuffer : Addr} {i : Nat} {c : BitVec 8}
    {tail : List (Nat × BitVec 8)} {t : Trace} {r : Except Halt Bool}
    (does : Does (anyDiffers elfIdBuffer ((i, c) :: tail)) t r) :
    ∃ b rest, t = identityEvent elfIdBuffer i b :: rest ∧
      (b ≠ c ∧ rest = [] ∧ r = .ok true ∨
        b = c ∧ Does (anyDiffers elfIdBuffer tail) rest r) := by
  unfold anyDiffers at does
  rcases (does_loadField_bind _ _ (Elf64Ehdr.eIdent i) _).mp does with
    ⟨(b : BitVec 8), rest, rfl, branch⟩
  refine ⟨b, rest, rfl, ?_⟩
  by_cases differs : b ≠ c
  · simp only [if_pos differs, does_pure] at branch
    exact Or.inl ⟨differs, branch⟩
  · simp only [if_neg differs] at branch
    exact Or.inr ⟨not_not.mp differs, branch⟩

theorem does_anyDiffers {elfIdBuffer : Addr} {expected : List (Nat × BitVec 8)} {t : Trace}
    {r : Except Halt Bool} (does : Does (anyDiffers elfIdBuffer expected) t r) :
    ∃ fields result, (∀ f ∈ fields, ∃ e ∈ expected, f = Elf64Ehdr.eIdent e.1) ∧
      FieldLoads .elfIdentity elfIdBuffer fields t ∧ r = .ok result := by
  induction expected generalizing t with
  | nil =>
      rcases runsKeeping_ret.mp does with ⟨rfl, rfl⟩
      exact ⟨[], false, fun f member => (List.not_mem_nil member).elim, rfl, rfl⟩
  | cons e tail ih =>
      rcases does_anyDiffers_cons does with ⟨b, rest, rfl, ⟨-, rfl, rfl⟩ | ⟨-, later⟩⟩
      · refine ⟨[Elf64Ehdr.eIdent e.1], true, ?_, ⟨b, [], rfl, rfl⟩, rfl⟩
        intro f member
        exact ⟨e, List.mem_cons_self, List.mem_singleton.mp member⟩
      · rcases ih later with ⟨fields, result, present, loads, rfl⟩
        refine ⟨Elf64Ehdr.eIdent e.1 :: fields, result, ?_, ⟨b, rest, rfl, loads⟩, rfl⟩
        intro f member
        rcases List.mem_cons.mp member with same | later
        · exact ⟨e, List.mem_cons_self, same⟩
        · rcases present f later with ⟨e', inside, same⟩
          exact ⟨e', List.mem_cons_of_mem _ inside, same⟩

theorem FieldLoads.append {region : Region} {base : Addr} {f₁ f₂ : List Field} {t₁ t₂ : Trace}
    (first : FieldLoads region base f₁ t₁) (second : FieldLoads region base f₂ t₂) :
    FieldLoads region base (f₁ ++ f₂) (t₁ ++ t₂) := by
  induction f₁ generalizing t₁ with
  | nil =>
      cases first
      exact second
  | cons f fields ih =>
      rcases first with ⟨v, rest, rfl, later⟩
      exact ⟨v, rest ++ t₂, rfl, ih later⟩

theorem eIdent_inside {i : Nat} (inside : i < 16) :
    0 < (Elf64Ehdr.eIdent i).size ∧
      (Elf64Ehdr.eIdent i).offset + (Elf64Ehdr.eIdent i).size ≤ eiNident.toNat :=
  ⟨Nat.one_pos, inside⟩

theorem validateElfIdentity_cases {elfIdBuffer : Addr} {t : Trace} {r : Except Halt EfiStatus}
    (does : Does (validateElfIdentity elfIdBuffer) t r) :
    ∃ magic rest differs, t = magic ++ rest ∧
      Does (anyDiffers elfIdBuffer [(eiMag0, 0x7F), (eiMag1, 0x45), (eiMag2, 0x4C),
        (eiMag3, 0x46)]) magic (.ok differs) ∧
      (differs = true ∧ rest = [] ∧ r = .ok efiSuccess ∨
        differs = false ∧ ∃ elfClass,
          (elfClass ≠ elfFileClass64 ∧ rest = [identityEvent elfIdBuffer eiClass elfClass] ∧
              r = .ok efiUnsupported ∨
            elfClass = elfFileClass64 ∧ ∃ elfData,
              rest = [identityEvent elfIdBuffer eiClass elfClass,
                identityEvent elfIdBuffer eiData elfData] ∧
              r = .ok (if elfData ≠ 1 then efiIncompatibleVersion else efiSuccess))) := by
  unfold validateElfIdentity at does
  simp only [does_efiPrint_bind] at does
  rcases runsKeeping_bind.mp does with ⟨magic, rest, m, rfl, magicDoes, next⟩
  rcases does_anyDiffers magicDoes with ⟨-, differs, -, -, rfl⟩
  refine ⟨magic, rest, differs, rfl, magicDoes, ?_⟩
  clear does
  replace next : Does _ rest r := next
  cases differs with
  | true =>
      simp only [if_true, does_efiPrint_bind, does_pure] at next
      exact Or.inl ⟨rfl, next⟩
  | false =>
      simp only [Bool.false_eq_true, if_false] at next
      rcases (does_loadField_bind _ _ (Elf64Ehdr.eIdent eiClass) _).mp next with
        ⟨(elfClass : BitVec 8), rest, rfl, branch⟩
      clear next
      refine Or.inr ⟨rfl, elfClass, ?_⟩
      by_cases wide : elfClass = elfFileClass64
      · simp only [if_pos wide, does_efiPrint_bind] at branch
        rcases (does_loadField_bind _ _ (Elf64Ehdr.eIdent eiData) _).mp branch with
          ⟨(elfData : BitVec 8), rest, rfl, last⟩
        refine Or.inr ⟨wide, elfData, ?_⟩
        by_cases other : elfData ≠ 1
        · simp only [if_pos other, does_efiPrint_bind, does_pure] at last
          rw [last.1, last.2, if_pos other]
          exact ⟨rfl, rfl⟩
        · simp only [if_neg other, does_efiPrint_bind, does_pure] at last
          rw [last.1, last.2, if_neg other]
          exact ⟨rfl, rfl⟩
      · simp only [if_neg wide, does_efiPrint_bind, does_pure] at branch
        rw [branch.1, branch.2]
        exact Or.inl ⟨wide, rfl, rfl⟩

theorem does_validateElfIdentity {elfIdBuffer : Addr} {t : Trace} {r : Except Halt EfiStatus}
    (does : Does (validateElfIdentity elfIdBuffer) t r) :
    ∃ fields status, (∀ f ∈ fields, 0 < f.size ∧ f.offset + f.size ≤ eiNident.toNat) ∧
      FieldLoads .elfIdentity elfIdBuffer fields t ∧ r = .ok status := by
  rcases validateElfIdentity_cases does with ⟨magic, rest, differs, rfl, magicDoes, branch⟩
  rcases does_anyDiffers magicDoes with ⟨fields, -, present, magicLoads, -⟩
  have magicInside : ∀ f ∈ fields, 0 < f.size ∧ f.offset + f.size ≤ eiNident.toNat := by
    intro f member
    rcases present f member with ⟨e, inside, rfl⟩
    have small : ∀ e ∈ [(eiMag0, (0x7F : BitVec 8)), (eiMag1, 0x45), (eiMag2, 0x4C),
        (eiMag3, 0x46)], e.1 < 16 := by
      decide
    exact eIdent_inside (small e inside)
  have classInside := eIdent_inside (i := eiClass) (by decide)
  have dataInside := eIdent_inside (i := eiData) (by decide)
  rcases branch with ⟨-, rfl, rfl⟩ | ⟨-, elfClass, ⟨-, rfl, rfl⟩ | ⟨-, elfData, rfl, rfl⟩⟩
  · rw [List.append_nil]
    exact ⟨fields, _, magicInside, magicLoads, rfl⟩
  · refine ⟨fields ++ [Elf64Ehdr.eIdent eiClass], _, ?_,
      magicLoads.append ⟨elfClass, [], rfl, rfl⟩, rfl⟩
    rw [List.forall_mem_append, List.forall_mem_singleton]
    exact ⟨magicInside, classInside⟩
  · refine ⟨fields ++ [Elf64Ehdr.eIdent eiClass, Elf64Ehdr.eIdent eiData], _, ?_,
      magicLoads.append ⟨elfClass, _, rfl, elfData, [], rfl, rfl⟩, rfl⟩
    rw [List.forall_mem_append, List.forall_mem_cons, List.forall_mem_singleton]
    exact ⟨magicInside, classInside, dataInside⟩

def headerEvent (header : Addr) (field : Field) (v : BitVec (8 * field.size)) : BootEvent :=
  loadEvent .elfHeader (header + BitVec.ofNat 64 field.offset) field.size v

def tableSize (phnum : BitVec 16) : BitVec 64 :=
  BitVec.ofNat 64 Elf64Phdr.size * phnum.setWidth 64

theorem does_readElfFile {kernelImage : Addr} {t : Trace}
    {r : Except Halt (EfiStatus × Addr × Addr)} (does : Does (readElfFile kernelImage 0 0) t r) :
    ∃ (header table : BufferReplies) (phoff : BitVec 64) (phnum : BitVec 16),
      t = header.events kernelImage 0 (BitVec.ofNat 64 Elf64Ehdr.size) ++
        [headerEvent header.buffer Elf64Ehdr.ePhoff phoff,
          headerEvent header.buffer Elf64Ehdr.ePhnum phnum] ++
        table.events kernelImage phoff (tableSize phnum) ∧
      r = .ok (table.read.1, header.buffer, table.buffer) := by
  simp only [readElfFile, setPosition, allocatePool, read, does_efiPrint_bind,
    does_callStatus_bind, does_callOut_bind, Call.prints, efiError_eq_false,
    Bool.false_eq_true, if_false, not_false_eq_true] at does
  rcases does with ⟨seek, _, rfl, pool, _, rfl, fill, _, rfl, loads⟩
  rcases (does_loadField_bind _ _ Elf64Ehdr.ePhoff _).mp loads with
    ⟨(phoff : BitVec 64), _, rfl, second⟩
  rcases (does_loadField_bind _ _ Elf64Ehdr.ePhnum _).mp second with
    ⟨(phnum : BitVec 16), _, rfl, third⟩
  simp only [does_efiPrint_bind, does_callStatus_bind, does_callOut_bind, does_pure, Call.prints,
    Bool.false_eq_true, not_false_eq_true] at third
  rcases third with ⟨seek', _, rfl, pool', _, rfl, fill', _, rfl, rfl, rfl⟩
  exact ⟨⟨seek, pool, fill⟩, ⟨seek', pool', fill'⟩, phoff, phnum, rfl, rfl⟩

theorem does_efiPrint (s : String) {t : Trace} {r : Except Halt Unit} :
    Does (efiPrint s) t r ↔ t = [] ∧ r = .ok () := by
  rw [← Prog.bind_ret (efiPrint s)]
  exact (does_efiPrint_bind s _).trans runsKeeping_ret

theorem does_forEach {β : Type} {body : β → Program Unit} (region : Region) (base : Addr)
    (field : β → Field)
    (turn : ∀ b t r, Does (body b) t r → FieldLoads region base [field b] t ∧ r = .ok ())
    {elements : List β} {t : Trace} {r : Except Halt Unit}
    (does : Does (Prog.forEach body elements) t r) :
    FieldLoads region base (elements.map field) t ∧ r = .ok () := by
  induction elements generalizing t with
  | nil =>
      rcases runsKeeping_ret.mp does with ⟨rfl, rfl⟩
      exact ⟨rfl, rfl⟩
  | cons b rest ih =>
      unfold Prog.forEach at does
      rcases runsKeeping_bind.mp does with ⟨first, later, m, rfl, now, next⟩
      rcases turn b first m now with ⟨loads, rfl⟩
      rcases ih next with ⟨tail, rfl⟩
      exact ⟨loads.append tail, rfl⟩

/-- The members `print_elf_info` reads, in order. -/
def infoFields : List Field :=
  [0, 1, 2, 3].map Elf64Ehdr.eIdent ++ elfInfoLines.map InfoLine.field

theorem does_printElfInfo {header : Addr} {t : Trace} {r : Except Halt Unit}
    (does : Does (printElfInfo header) t r) :
    FieldLoads .elfHeader header infoFields t ∧ r = .ok () := by
  unfold printElfInfo at does
  simp only [does_efiPrint_bind] at does
  rcases runsKeeping_bind.mp does with ⟨first, later, m, rfl, magic, next⟩
  have magicLoads := does_forEach .elfHeader header Elf64Ehdr.eIdent (by
      intro i t r turn
      rcases (does_loadField_bind _ _ (Elf64Ehdr.eIdent i) _).mp turn with ⟨v, rest, rfl, last⟩
      simp only [does_efiPrinthex_bind] at last
      rcases (does_efiPrint " ").mp last with ⟨rfl, rfl⟩
      exact ⟨⟨v, [], rfl, rfl⟩, rfl⟩) magic
  rcases magicLoads with ⟨magicLoads, rfl⟩
  replace next : Does (efiPrint "\r\n" >>= fun _ =>
      Prog.forEach (printInfoLine header) elfInfoLines) later r := next
  rw [does_efiPrint_bind] at next
  have infoLoads := does_forEach .elfHeader header InfoLine.field (by
      intro line t r turn
      unfold printInfoLine at turn
      rw [does_efiPrint_bind] at turn
      rcases (does_loadField_bind _ _ line.field _).mp turn with ⟨v, rest, rfl, last⟩
      have printed : rest = [] ∧ r = .ok () := by
        by_cases decimal : line.decimal
        · simpa only [if_pos decimal, does_efiPrintnum_bind, does_efiPrint] using last
        · simpa only [if_neg decimal, does_efiPrinthex_bind, does_efiPrint] using last
      rcases printed with ⟨rfl, rfl⟩
      exact ⟨⟨v, [], rfl, rfl⟩, rfl⟩) next
  exact ⟨magicLoads.append infoLoads.1, infoLoads.2⟩

/-! `load_kernel`. -/

/-- What `load_kernel` is answered after it has opened the file. -/
structure KernelReplies where
  identity : BufferReplies
  identityLoads : Trace
  identityFree : EfiStatus × Unit
  header : BufferReplies
  phoff : BitVec 64
  phnum : BitVec 16
  table : BufferReplies
  entry : BitVec 64
  infoLoads : Trace
  segments : Trace
  close : EfiStatus × Unit
  headerFree : EfiStatus × Unit
  tableFree : EfiStatus × Unit

namespace KernelReplies

def identityEvents (k : KernelReplies) (kernelImage : Addr) : Trace :=
  k.identity.events kernelImage 0 eiNident ++ k.identityLoads ++
    [callEvent (.freePool k.identity.buffer) k.identityFree]

def headerEvents (k : KernelReplies) (kernelImage : Addr) : Trace :=
  k.header.events kernelImage 0 (BitVec.ofNat 64 Elf64Ehdr.size) ++
    [headerEvent k.header.buffer Elf64Ehdr.ePhoff k.phoff,
      headerEvent k.header.buffer Elf64Ehdr.ePhnum k.phnum]

def tableEvents (k : KernelReplies) (kernelImage kernelEntryPoint : Addr) : Trace :=
  k.table.events kernelImage k.phoff (tableSize k.phnum) ++
    [headerEvent k.header.buffer Elf64Ehdr.eEntry k.entry,
      storeEvent .kernelEntryPoint kernelEntryPoint 8 k.entry]

def closeEvents (k : KernelReplies) (kernelImage : Addr) : Trace :=
  [callEvent (.close kernelImage) k.close, callEvent (.freePool k.header.buffer) k.headerFree,
    callEvent (.freePool k.table.buffer) k.tableFree]

def events (k : KernelReplies) (kernelImage kernelEntryPoint : Addr) : Trace :=
  k.identityEvents kernelImage ++ k.headerEvents kernelImage ++
    k.tableEvents kernelImage kernelEntryPoint ++ k.infoLoads ++ k.segments ++
    k.closeEvents kernelImage

/-- The answers fit what `load_kernel` asks for between its calls. -/
structure Proper (k : KernelReplies) (kernelImage : Addr) : Prop where
  identity : ∃ fields, (∀ f ∈ fields, 0 < f.size ∧ f.offset + f.size ≤ eiNident.toNat) ∧
    FieldLoads .elfIdentity k.identity.buffer fields k.identityLoads
  info : FieldLoads .elfHeader k.header.buffer infoFields k.infoLoads
  segments : ∃ ended, Does (loadProgramSegments kernelImage k.header.buffer k.table.buffer)
    k.segments (.ok ended)

end KernelReplies

/-- A file that does not open leaves `load_kernel` in its endless loop, any other run goes
through to the last `FreePool`. -/
theorem does_loadKernel {rootFileSystem kernelEntryPoint : Addr} {kernelFilename : List Char16}
    {t : Trace} {r : Except Halt EfiStatus}
    (does : Does (loadKernel rootFileSystem kernelFilename kernelEntryPoint) t r) :
    ∃ (opened : EfiStatus × Option Addr) (rest : Trace),
      t = callEvent (.openFile rootFileSystem kernelFilename efiFileModeRead efiFileReadOnly)
        opened :: rest ∧
      (((opened.1 = efiNotFound ∨ opened.2.getD 0 = 0) ∧ r = .error .spin) ∨
        (¬ (opened.1 = efiNotFound ∨ opened.2.getD 0 = 0) ∧ ∃ k : KernelReplies,
          rest = k.events (opened.2.getD 0) kernelEntryPoint ∧ k.Proper (opened.2.getD 0) ∧
          r = .ok k.tableFree.1)) := by
  simp only [loadKernel, openFile, does_efiPrint_bind, does_callOut_bind, Call.prints,
    efiError_eq_false, Bool.false_eq_true, if_false, not_false_eq_true] at does
  rcases does with ⟨opened, rest, rfl, branch⟩
  refine ⟨opened, rest, rfl, ?_⟩
  by_cases missing : opened.1 = efiNotFound ∨ opened.2.getD 0 = 0
  · left
    simp only [if_pos missing, does_efiPrint_bind, does_efiPrintnum_bind, spin, Prog.halt_bind,
      runsKeeping_halt] at branch
    exact ⟨missing, branch.2⟩
  · right
    rw [if_neg missing] at branch
    rcases runsKeeping_bind.mp branch with ⟨_, _, _, rfl, identityDoes, branch₁⟩
    rcases does_readElfIdentity identityDoes with ⟨identity, rfl, rfl⟩
    replace branch₁ : Does _ _ r := branch₁
    rcases runsKeeping_bind.mp branch₁ with ⟨identityLoads, _, _, rfl, validateDoes, branch₂⟩
    rcases does_validateElfIdentity validateDoes with ⟨fields, status, inside, loads, rfl⟩
    replace branch₂ : Does _ _ r := branch₂
    simp only [freePool, does_callStatus_bind, Call.prints, Bool.false_eq_true,
      not_false_eq_true] at branch₂
    rcases branch₂ with ⟨identityFree, _, rfl, branch₃⟩
    rcases runsKeeping_bind.mp branch₃ with ⟨_, _, _, rfl, fileDoes, branch₄⟩
    rcases does_readElfFile fileDoes with ⟨header, table, phoff, phnum, rfl, rfl⟩
    replace branch₄ : Does _ _ r := branch₄
    rcases (does_loadField_bind _ _ Elf64Ehdr.eEntry _).mp branch₄ with
      ⟨(entry : BitVec 64), _, rfl, branch₅⟩
    rcases (does_store_bind _ _ _ _ _).mp branch₅ with ⟨_, rfl, branch₆⟩
    rcases runsKeeping_bind.mp branch₆ with ⟨infoLoads, _, _, rfl, infoDoes, branch₇⟩
    rcases does_printElfInfo infoDoes with ⟨info, rfl⟩
    replace branch₇ : Does _ _ r := branch₇
    rcases runsKeeping_bind.mp branch₇ with ⟨segments, _, _, rfl, segmentsDoes, branch₈⟩
    rcases does_loadProgramSegments_ok segmentsDoes with ⟨ended, rfl⟩
    replace branch₈ : Does _ _ r := branch₈
    simp only [close, does_efiPrint_bind, does_callStatus_bind, does_pure, Call.prints,
      Bool.false_eq_true, not_false_eq_true] at branch₈
    rcases branch₈ with ⟨close, _, rfl, headerFree, _, rfl, tableFree, _, rfl, rfl, rfl⟩
    let k : KernelReplies := ⟨identity, identityLoads, identityFree, header, phoff, phnum, table,
      entry, infoLoads, segments, close, headerFree, tableFree⟩
    refine ⟨missing, k, ?_, ⟨⟨fields, inside, loads⟩, info, ended, segmentsDoes⟩, rfl⟩
    simp only [KernelReplies.events, KernelReplies.identityEvents, KernelReplies.headerEvents,
      KernelReplies.tableEvents, KernelReplies.closeEvents, List.append_assoc, List.cons_append,
      List.nil_append]
    rfl

end Flosp.Boot
