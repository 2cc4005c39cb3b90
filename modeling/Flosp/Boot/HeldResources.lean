import Flosp.Boot.ExitServices
import Flosp.Boot.Holdings

/-! The bootloader gives back what it takes: no buffer is used or freed that it does not hold, and
the kernel gets the back buffer and the memory map alone. -/

namespace Flosp.Boot

open Interaction ByteMemory

section Parts

variable {header : Memory 64} {α β : Type} {f : α → Program β}

/-! Up to the kernel's loading nothing is held but the back buffer. -/

def Untracked : Op → Prop
  | .load .elfIdentity .. | .load .elfHeader .. | .load .programHeaders .. => False
  | .call (.allocatePool ..) | .call (.freePool _) | .call (.openVolume _) => False
  | .call (.openFile ..) | .call (.setPosition ..) | .call (.read ..) | .call (.close _) => False
  | .call (.copyMem ..) | .call (.getMemoryMap ..) => False
  | _ => True

theorem Untracked.still {o : Op} (untracked : Untracked o) (reply : Reply o) (h : Holdings) :
    Holdings.Allows ⟨o, reply⟩ h ∧ Holdings.next ⟨o, reply⟩ h = h := by
  cases o with
  | load region a n =>
      cases region with
      | elfIdentity => exact untracked.elim
      | elfHeader => exact untracked.elim
      | programHeaders => exact untracked.elim
      | _ => exact ⟨trivial, rfl⟩
  | store region a n v => exact ⟨trivial, rfl⟩
  | call c =>
      cases c with
      | allocatePool => exact untracked.elim
      | freePool => exact untracked.elim
      | openVolume => exact untracked.elim
      | openFile => exact untracked.elim
      | setPosition => exact untracked.elim
      | read => exact untracked.elim
      | close => exact untracked.elim
      | copyMem => exact untracked.elim
      | getMemoryMap => exact untracked.elim
      | _ => exact ⟨trivial, rfl⟩

theorem spares_op {o : Op} {next : Reply o → Program β} (untracked : Untracked o)
    (rest : ∀ reply, Spares header (next reply)) : Spares header (.op o next) := by
  intro h reply _
  have still := untracked.still reply h
  refine ⟨still.1, ?_⟩
  change Uses header (next reply) (Holdings.next ⟨o, reply⟩ h) _
  rw [still.2]
  exact rest reply h

theorem spares_ret (b : β) : Spares header (.ret b) := fun _ => rfl

theorem spares_print (s : String) : Spares header (efiPrint s) := fun _ _ _ => ⟨trivial, rfl⟩

theorem spares_spin_bind : Spares header (spin >>= f) := fun _ => trivial

theorem spares_callStatus_bind {c : Call} {f : EfiStatus → Program β} (untracked : Untracked (.call c))
    (rest : ∀ status, Spares header (f status)) : Spares header (callStatus c >>= f) :=
  spares_op untracked fun reply => rest reply.1

theorem spares_callOut_bind {c : Call} {outputs : c.Out → α} {f : EfiStatus × α → Program β}
    (untracked : Untracked (.call c)) (rest : ∀ reply, Spares header (f reply)) :
    Spares header (callOut c outputs >>= f) :=
  spares_op untracked fun reply => rest (reply.1, outputs reply.2)

theorem spares_load_bind {region : Region} {a : Addr} {n : Nat} {f : BitVec (8 * n) → Program β}
    (untracked : Untracked (.load region a n)) (rest : ∀ v, Spares header (f v)) :
    Spares header (load region a n >>= f) :=
  spares_op untracked rest

theorem spares_loadField_bind {region : Region} {base : Addr} {field : Field}
    {f : BitVec (8 * field.size) → Program β}
    (untracked : Untracked (.load region (base + BitVec.ofNat 64 field.offset) field.size))
    (rest : ∀ v, Spares header (f v)) : Spares header (loadField region base field >>= f) :=
  spares_op untracked rest

@[simp] theorem spares_efiPrintChars_bind {s : List Char16} {f : Unit → Program β} :
    Spares header (efiPrintChars s >>= f) ↔ Spares header (f ()) :=
  forall_congr' fun _ => uses_efiPrintChars_bind

@[simp] theorem spares_efiPrint_bind {s : String} {f : Unit → Program β} :
    Spares header (efiPrint s >>= f) ↔ Spares header (f ()) := spares_efiPrintChars_bind

@[simp] theorem spares_efiPrintnum_bind {n : BitVec 64} {f : Unit → Program β} :
    Spares header (efiPrintnum n >>= f) ↔ Spares header (f ()) := spares_efiPrintChars_bind

theorem graphicsInit_spares (graphicsService : UefiGraphicsService) :
    Spares header (graphicsInit graphicsService) := by
  simp only [graphicsInit, efiError_eq_false, Bool.false_eq_true, if_false, spares_efiPrint_bind]
  refine spares_callOut_bind trivial fun reply => ?_
  split
  · rw [spares_efiPrint_bind]
    exact spares_spin_bind
  · exact spares_ret _

theorem findGraphicsModeFrom_spares (protocol : Addr)
    (targetWidth targetHeight targetPixelFormat : BitVec 32) (graphicsMode : BitVec 64)
    (turns : Nat) (i : BitVec 32) (query : BitVec 64 × Addr) :
    Spares header (findGraphicsModeFrom protocol targetWidth targetHeight targetPixelFormat
      graphicsMode turns i query) := by
  induction turns generalizing i query with
  | zero => exact spares_ret _
  | succ turns ih =>
      refine spares_loadField_bind trivial fun mode => ?_
      refine spares_loadField_bind trivial fun maxMode => ?_
      split
      · exact spares_ret _
      · simp only [spares_efiPrint_bind, spares_efiPrintnum_bind, efiError_eq_false,
          Bool.false_eq_true, if_false]
        refine spares_callOut_bind trivial fun reply => ?_
        refine spares_loadField_bind trivial fun width => ?_
        split
        · refine spares_loadField_bind trivial fun height => ?_
          split
          · refine spares_loadField_bind trivial fun format => ?_
            split
            · rw [spares_efiPrint_bind]
              exact spares_ret _
            · exact ih _ _
          · exact ih _ _
        · exact ih _ _

theorem setGraphicsMode_spares (protocol : Addr)
    (targetWidth targetHeight targetPixelFormat : BitVec 32) (query : BitVec 64 × Addr) :
    Spares header (setGraphicsMode protocol targetWidth targetHeight targetPixelFormat query) := by
  simp only [setGraphicsMode, efiError_eq_false, Bool.false_eq_true, if_false]
  refine (findGraphicsModeFrom_spares _ _ _ _ _ _ _ _).bind fun reply => ?_
  refine spares_callStatus_bind trivial fun status => ?_
  refine spares_callStatus_bind trivial fun status => ?_
  refine spares_callStatus_bind trivial fun status => ?_
  exact spares_ret _

theorem compareEfiGuid_spares (guid1 : Addr) (guid2 : EfiGuid) :
    Spares header (compareEfiGuid guid1 guid2) := by
  refine spares_load_bind trivial fun g0 => ?_
  refine spares_load_bind trivial fun g1 => ?_
  refine spares_load_bind trivial fun g2 => ?_
  refine spares_load_bind trivial fun g3 => ?_
  exact spares_ret _

theorem matchesSignature_spares (tempTable : Addr) (signature : List (BitVec 8)) (k : Nat) :
    Spares header (matchesSignature tempTable signature k) := by
  induction signature generalizing k with
  | nil => exact spares_ret _
  | cons c rest ih =>
      refine spares_loadField_bind trivial fun vendorTable => ?_
      refine spares_load_bind trivial fun b => ?_
      split
      · exact ih _
      · exact spares_ret _

theorem findXsdpFrom_spares (turns i : Nat) (tempTable : Addr) (stored : List Addr) :
    Spares header (findXsdpFrom turns i tempTable stored) := by
  induction turns generalizing i tempTable stored with
  | zero => exact spares_ret _
  | succ turns ih =>
      refine (compareEfiGuid_spares _ _).bind fun difference => ?_
      simp only [ne_eq, ite_not]
      split
      · exact ih _ _ _
      · refine (matchesSignature_spares _ _ _).bind fun found => ?_
        split
        · refine spares_loadField_bind trivial fun vendorTable => ?_
          exact ih _ _ _
        · exact ih _ _ _

theorem findXsdp_spares (systemTable : EfiSystemTable) : Spares header (findXsdp systemTable) := by
  unfold findXsdp
  split
  · exact findXsdpFrom_spares _ _ _ _
  · exact fun _ => trivial

theorem initEfiFs_spares (fileSystemProtocol : Addr) :
    Spares header (initEfiFs fileSystemProtocol) := by
  simp only [initEfiFs, efiError_eq_false, Bool.false_eq_true, if_false, spares_efiPrint_bind]
  refine spares_callOut_bind trivial fun reply => ?_
  rw [spares_efiPrint_bind]
  exact spares_ret _

/-! The loader: what it takes it gives back. -/

variable {h : Holdings} {image : Addr}

theorem readElfIdentity_uses (opened : image ∈ h.files) (elfIdBuffer : Addr) :
    Uses header (readElfIdentity image elfIdBuffer) h fun r h' =>
      h.pool r.2 = none ∧ h' = h.grant r.2 16 := by
  simp only [readElfIdentity, efiError_eq_false, Bool.false_eq_true, if_false, uses_efiPrint_bind]
  refine uses_callStatus_bind (fun _ => opened) (fun _ => rfl) fun _ => ?_
  rw [uses_efiPrint_bind, uses_efiPrint_bind]
  refine uses_allocatePool_bind fun _ buffer fresh => ?_
  rw [uses_efiPrint_bind]
  have whole : (h.grant buffer 16).Covers buffer eiNident.toNat :=
    Holdings.covers_grant (Nat.le_refl _)
  exact uses_callOut_bind (fun _ => ⟨opened, whole⟩) (fun _ => rfl) fun _ => ⟨fresh, rfl⟩

theorem anyDiffers_uses {elfIdBuffer : Addr} (held : h.pool elfIdBuffer = some 16)
    {bytes : List (Nat × BitVec 8)} (inside : ∀ b ∈ bytes, b.1 < 16) :
    Uses header (anyDiffers elfIdBuffer bytes) h fun _ h' => h' = h := by
  induction bytes with
  | nil => rfl
  | cons b bytes ih =>
      rw [List.forall_mem_cons] at inside
      refine uses_loadField_bind (fun _ => ?_) fun byte => ?_
      · exact Holdings.covers_offset held inside.1 (Nat.lt_trans inside.1 (by decide))
      · split
        · rfl
        · exact ih inside.2

theorem validateElfIdentity_uses {elfIdBuffer : Addr} (held : h.pool elfIdBuffer = some 16) :
    Uses header (validateElfIdentity elfIdBuffer) h fun _ h' => h' = h := by
  have byte {i : Nat} (inside : i < 16) (v : BitVec 8) : Holdings.Allows
      ⟨.load .elfIdentity (elfIdBuffer + BitVec.ofNat 64 i) 1, v⟩ h :=
    Holdings.covers_offset held inside (Nat.lt_trans inside (by decide))
  simp only [validateElfIdentity, uses_efiPrint_bind]
  refine uses_bind (anyDiffers_uses held (by decide)) fun badMagic h' same => ?_
  subst same
  split
  · rw [uses_efiPrint_bind]
    rfl
  · refine uses_loadField_bind (fun v => byte (i := eiClass) (by decide) v) fun elfClass => ?_
    split
    · rw [uses_efiPrint_bind]
      refine uses_loadField_bind (fun v => byte (i := eiData) (by decide) v) fun elfData => ?_
      split
      · rw [uses_efiPrint_bind]
        rfl
      · rw [uses_efiPrint_bind]
        rfl
    · rw [uses_efiPrint_bind]
      rfl

theorem programHeaders_toNat (phnum : BitVec 16) :
    (BitVec.ofNat 64 Elf64Phdr.size * phnum.setWidth 64).toNat = Elf64Phdr.size * phnum.toNat := by
  have small := phnum.isLt
  have wide : (phnum.setWidth 64).toNat = phnum.toNat :=
    BitVec.toNat_setWidth_of_le (by decide)
  rw [BitVec.toNat_mul, wide]
  exact Nat.mod_eq_of_lt (by change 56 * _ < _; omega)

/-- What `read_elf_file` leaves: the headers in two buffers, the second as long as the first says. -/
structure HeadersRead (header : Memory 64) (h : Holdings) (kernelHeader programHeaders : Addr)
    (h' : Holdings) : Prop where
  fresh : h.pool kernelHeader = none
  apart : kernelHeader ≠ programHeaders
  unused : h.pool programHeaders = none
  held : h' = (h.grant kernelHeader Elf64Ehdr.size).grant programHeaders
    (Elf64Phdr.size * (Elf64Ehdr.ePhnum.read header kernelHeader).toNat)

theorem HeadersRead.kernelHeader {kernelHeader programHeaders : Addr} {h' : Holdings}
    (read : HeadersRead header h kernelHeader programHeaders h') :
    h'.pool kernelHeader = some Elf64Ehdr.size := by
  rw [read.held, Holdings.grant_pool_other read.apart, Holdings.grant_pool_self]

theorem HeadersRead.programHeaders {kernelHeader programHeaders : Addr} {h' : Holdings}
    (read : HeadersRead header h kernelHeader programHeaders h') :
    h'.pool programHeaders =
      some (Elf64Phdr.size * (Elf64Ehdr.ePhnum.read header kernelHeader).toNat) := by
  rw [read.held, Holdings.grant_pool_self]

theorem readElfFile_uses (opened : image ∈ h.files) (kernelHeader programHeaders : Addr) :
    Uses header (readElfFile image kernelHeader programHeaders) h fun r h' =>
      HeadersRead header h r.2.1 r.2.2 h' := by
  simp only [readElfFile, efiError_eq_false, Bool.false_eq_true, if_false, uses_efiPrint_bind]
  refine uses_callStatus_bind (fun _ => opened) (fun _ => rfl) fun _ => ?_
  rw [uses_efiPrint_bind]
  refine uses_allocatePool_bind fun _ kernelHeader fresh => ?_
  rw [uses_efiPrint_bind]
  have whole : (h.grant kernelHeader 64).Covers kernelHeader (BitVec.ofNat 64 64).toNat :=
    Holdings.covers_grant (Nat.le_refl _)
  refine uses_callOut_bind (fun _ => ⟨opened, whole⟩) (fun _ => rfl) fun _ => ?_
  have part {i n : Nat} (inside : i + n ≤ 64) :
      (h.grant kernelHeader 64).Covers (kernelHeader + BitVec.ofNat 64 i) n :=
    Holdings.covers_offset Holdings.grant_pool_self inside (by omega)
  refine uses_headerField_bind (part (by decide)) ?_
  refine uses_headerField_bind (part (by decide)) ?_
  rw [uses_efiPrint_bind]
  refine uses_callStatus_bind (fun _ => opened) (fun _ => rfl) fun _ => ?_
  rw [uses_efiPrint_bind]
  refine uses_allocatePool_bind fun _ programHeaders unused => ?_
  rw [uses_efiPrint_bind]
  have apart : programHeaders ≠ kernelHeader := by
    rintro rfl
    rw [Holdings.grant_pool_self] at unused
    cases unused
  rw [Holdings.grant_pool_other apart] at unused
  refine uses_callOut_bind (fun _ => ⟨opened, Holdings.covers_grant (Nat.le_refl _)⟩)
    (fun _ => rfl) fun _ => ⟨fresh, apart.symm, unused, ?_⟩
  exact congrArg (fun n => (h.grant kernelHeader 64).grant programHeaders n)
    (programHeaders_toNat _)

theorem printElfInfo_uses {kernelHeader : Addr} (held : h.pool kernelHeader = some Elf64Ehdr.size) :
    Uses header (printElfInfo kernelHeader) h fun _ h' => h' = h := by
  have each {α : Type} {body : α → Program Unit} {as : List α}
      (uses : ∀ a ∈ as, Uses header (body a) h fun _ h' => h' = h) :
      Uses header (Prog.forEach body as) h fun _ h' => h' = h := by
    induction as with
    | nil => rfl
    | cons a as ih =>
        rw [List.forall_mem_cons] at uses
        refine uses_bind uses.1 fun _ h' same => ?_
        subst same
        exact ih uses.2
  have part {i n : Nat} (inside : i + n ≤ 64) : h.Covers (kernelHeader + BitVec.ofNat 64 i) n :=
    Holdings.covers_offset held inside (by omega)
  have magic : ∀ i ∈ [0, 1, 2, 3], i + 1 ≤ 64 := by decide
  have lines : ∀ line ∈ elfInfoLines, line.field.offset + line.field.size ≤ 64 := by decide
  simp only [printElfInfo, uses_efiPrint_bind]
  refine uses_bind (each fun i member => ?_) fun _ h' same => ?_
  · refine uses_headerField_bind (part (magic i member)) ?_
    rw [uses_efiPrinthex_bind]
    exact spares_print _ h
  · subst same
    rw [uses_efiPrint_bind]
    refine each fun line member => ?_
    rw [printInfoLine, uses_efiPrint_bind]
    refine uses_headerField_bind (part (lines line member)) ?_
    split
    · rw [uses_efiPrintnum_bind]
      exact spares_print _ h'
    · rw [uses_efiPrinthex_bind]
      exact spares_print _ h'

theorem loadSegment_uses (opened : image ∈ h.files) (segmentOffset segmentFileSize
    segmentMemorySize segmentPhysicalAddress : BitVec 64) :
    Uses header (loadSegment image segmentOffset segmentFileSize segmentMemorySize
      segmentPhysicalAddress) h fun _ h' => h' = h := by
  simp only [loadSegment, efiError_eq_false, Bool.false_eq_true, if_false, uses_efiPrint_bind]
  refine uses_callStatus_bind (fun _ => opened) (fun _ => rfl) fun _ => ?_
  rw [uses_efiPrint_bind]
  refine uses_callOut_bind (fun _ => trivial) (fun _ => rfl) fun pages => ?_
  have fills (status : EfiStatus) : Uses header (if segmentMemorySize - segmentFileSize > 0 then do
      efiPrint "Debug: Zero-filling extended data after program segment\r\n"
      let status ← setMem (pages.2 + segmentFileSize) (segmentMemorySize - segmentFileSize) 0
      return status
    else return status) h fun _ h' => h' = h := by
    split
    · rw [uses_efiPrint_bind]
      exact uses_callStatus_bind (fun _ => trivial) (fun _ => rfl) fun _ => rfl
    · rfl
  split
  · rw [uses_efiPrint_bind]
    refine uses_allocatePool_bind fun _ programData fresh => ?_
    have whole : (h.grant programData segmentFileSize.toNat).Covers programData
        segmentFileSize.toNat := Holdings.covers_grant (Nat.le_refl _)
    rw [uses_efiPrint_bind]
    refine uses_callOut_bind (fun _ => ⟨opened, whole⟩) (fun _ => rfl) fun _ => ?_
    rw [uses_efiPrint_bind]
    refine uses_callStatus_bind (fun _ => whole) (fun _ => rfl) fun _ => ?_
    rw [uses_efiPrint_bind]
    refine uses_freePool_bind ?_ fun status => ?_
    · rw [Holdings.grant_pool_self]
      exact Option.some_ne_none _
    · rw [Holdings.release_grant fresh]
      exact fills status
  · exact fills pages.1

/-- By the headers left: each is in the buffer. -/
theorem loadProgramSegmentsFrom_uses (opened : image ∈ h.files) {programHeaders : Addr} {phnum : Nat}
    (few : phnum < 2 ^ 16) (held : h.pool programHeaders = some (Elf64Phdr.size * phnum))
    (turns i : Nat) (left : i + turns = phnum) (status : EfiStatus) (numSegmentsLoaded : BitVec 16) :
    Uses header (loadProgramSegmentsFrom image programHeaders turns i status numSegmentsLoaded) h
      fun _ h' => h' = h := by
  induction turns generalizing i status numSegmentsLoaded with
  | zero =>
      rw [loadProgramSegmentsFrom]
      split
      · rw [uses_efiPrint_bind]
        rfl
      · rfl
  | succ turns ih =>
      have part {offset n : Nat} (inside : offset + n ≤ 56) :
          h.Covers (programHeader programHeaders i + BitVec.ofNat 64 offset) n := by
        rw [programHeader, BitVec.add_assoc, ← BitVec.ofNat_add]
        refine Holdings.covers_offset held ?_ ?_
        · change 56 * i + offset + n ≤ 56 * phnum
          omega
        · change 56 * i + offset < 2 ^ 64
          omega
      refine uses_loadField_bind (fun _ => part (by decide)) fun pType => ?_
      split
      · refine uses_loadField_bind (fun _ => part (by decide)) fun pOffset => ?_
        refine uses_loadField_bind (fun _ => part (by decide)) fun pFilesz => ?_
        refine uses_loadField_bind (fun _ => part (by decide)) fun pMemsz => ?_
        refine uses_loadField_bind (fun _ => part (by decide)) fun pPaddr => ?_
        refine uses_bind (loadSegment_uses opened _ _ _ _) fun status h' same => ?_
        subst same
        rw [efiError_eq_false, if_neg Bool.false_ne_true]
        exact ih (i + 1) (by omega) _ _
      · exact ih (i + 1) (by omega) _ _

theorem loadProgramSegments_uses (opened : image ∈ h.files) {kernelHeader programHeaders : Addr}
    (headerHeld : h.pool kernelHeader = some Elf64Ehdr.size)
    (held : h.pool programHeaders =
      some (Elf64Phdr.size * (Elf64Ehdr.ePhnum.read header kernelHeader).toNat)) :
    Uses header (loadProgramSegments image kernelHeader programHeaders) h fun _ h' => h' = h := by
  refine uses_headerField_bind (Holdings.covers_offset headerHeld (by decide) (by decide)) ?_
  split
  · rw [uses_efiPrint_bind]
    rfl
  · rw [uses_efiPrint_bind]
    exact loadProgramSegmentsFrom_uses opened (BitVec.isLt _) held _ 0 (Nat.zero_add _) _ _

theorem loadKernel_uses {rootFileSystem : Addr} (root : rootFileSystem ∈ h.files)
    (kernelFilename : List Char16) (kernelEntryPoint : Addr) :
    Uses header (loadKernel rootFileSystem kernelFilename kernelEntryPoint) h
      fun _ h' => h' = h := by
  simp only [loadKernel, efiError_eq_false, Bool.false_eq_true, if_false, uses_efiPrint_bind]
  refine uses_openFile_bind root (fun status => ?_) fun status image => ?_
  · rw [if_pos (.inr rfl)]
    simp only [uses_efiPrint_bind, uses_efiPrintnum_bind]
    exact uses_spin_bind
  · split
    · simp only [uses_efiPrint_bind, uses_efiPrintnum_bind]
      exact uses_spin_bind
    · have opened : image ∈ (h.opens image).files := List.mem_cons_self
      refine uses_bind (readElfIdentity_uses opened 0) fun identity h₁ granted => ?_
      obtain ⟨fresh, same⟩ := granted
      have held : h₁.pool identity.2 = some 16 := same ▸ Holdings.grant_pool_self
      refine uses_bind (validateElfIdentity_uses held) fun _ h₂ still => ?_
      rw [still]
      refine uses_freePool_bind (by rw [held]; exact Option.some_ne_none _) fun _ => ?_
      rw [same, Holdings.release_grant fresh]
      refine uses_bind (readElfFile_uses opened 0 0) fun headers h₁ read => ?_
      have kept : image ∈ h₁.files := read.held ▸ opened
      have first := Holdings.covers_offset read.kernelHeader (i := 24) (m := 8)
      refine uses_headerField_bind (first (by decide) (by decide)) ?_
      apply uses_store_bind
      refine uses_bind (printElfInfo_uses read.kernelHeader) fun _ h₂ still => ?_
      rw [still]
      refine uses_bind (loadProgramSegments_uses kept read.kernelHeader read.programHeaders)
        fun _ h₂ still => ?_
      rw [still, uses_efiPrint_bind]
      refine uses_close_bind kept fun _ => ?_
      obtain ⟨fresh, apart, unused, held⟩ := read
      change h.pool headers.2.1 = none at fresh
      change h.pool headers.2.2 = none at unused
      rw [held, Holdings.closes_grant, Holdings.closes_grant, Holdings.closes_opens,
        uses_efiPrint_bind]
      refine uses_freePool_bind ?_ fun _ => ?_
      · rw [Holdings.grant_pool_other apart, Holdings.grant_pool_self]
        exact Option.some_ne_none _
      · rw [Holdings.release_grant_other apart, Holdings.release_grant fresh, uses_efiPrint_bind]
        refine uses_freePool_bind ?_ fun _ => ?_
        · rw [Holdings.grant_pool_self]
          exact Option.some_ne_none _
        · rw [Holdings.release_grant unused, uses_efiPrint_bind]
          rfl

theorem getMemoryMap_uses (memoryMap : Addr) :
    Uses header (getMemoryMap' memoryMap ⟨0, 0, 0, 0⟩) h fun r h' =>
      ∃ size, h.pool r.2.1 = none ∧ h' = h.grant r.2.1 size := by
  simp only [getMemoryMap', efiError_eq_false, Bool.false_eq_true, if_false, uses_efiPrint_bind]
  refine uses_callOut_bind (fun _ => .inl rfl) (fun _ => rfl) fun reply => ?_
  refine uses_allocatePool_bind fun _ buffer fresh => ?_
  refine uses_callOut_bind (fun _ => .inr (Holdings.covers_grant (Nat.le_refl _))) (fun _ => rfl)
    fun _ => ?_
  exact ⟨_, fresh, rfl⟩

theorem enterKernel_uses (imageHandle kernelEntryPoint root : Addr) (bootInfo : KernelBootInfo)
    (status : EfiStatus) :
    Uses header (enterKernel imageHandle kernelEntryPoint bootInfo status)
      ((Holdings.none.grant bootInfo.videoModeInfo.backbufferPointer
        (backbufferSize bootInfo.videoModeInfo).toNat).opens root) fun _ _ => True := by
  simp only [enterKernel, efiError_eq_false, Bool.false_eq_true, if_false, uses_efiPrint_bind]
  refine uses_load_bind (fun _ => trivial) fun entry => ?_
  simp only [uses_efiPrint_bind, uses_efiPrinthex_bind]
  refine uses_bind (getMemoryMap_uses 0) fun map h' granted => ?_
  obtain ⟨size, fresh, same⟩ := granted
  rw [uses_efiPrint_bind]
  refine uses_callStatus_bind (fun _ => trivial) (fun _ => rfl) fun _ => ?_
  simp only [printVideoModeInfo, Prog.bind_assoc, uses_efiPrint_bind, uses_efiPrinthex_bind,
    uses_efiPrintnum_bind]
  refine uses_load_bind (fun _ => trivial) fun kernelEntry => ?_
  have other : map.2.1 ≠ bootInfo.videoModeInfo.backbufferPointer := by
    intro same
    rw [same] at fresh
    change (Holdings.none.grant _ _).pool _ = none at fresh
    rw [Holdings.grant_pool_self] at fresh
    cases fresh
  rw [same]
  refine ⟨?_, ?_, other, ?_, root, rfl⟩
  · exact (Holdings.grant_pool_other other.symm).trans Holdings.grant_pool_self
  · change (Holdings.grant map.2.1 size _).pool map.2.1 ≠ none
    rw [Holdings.grant_pool_self]
    exact Option.some_ne_none _
  · intro a map backbuffer
    exact (Holdings.grant_pool_other map).trans (Holdings.grant_pool_other backbuffer)

theorem bootFrom_uses (imageHandle : Addr) (systemTable : EfiSystemTable)
    (videoModeInfo : KernelBootVideoModeInfo) :
    Uses header (bootFrom imageHandle systemTable videoModeInfo)
      (Holdings.none.grant videoModeInfo.backbufferPointer (backbufferSize videoModeInfo).toNat)
      fun _ _ => True := by
  refine (findXsdp_spares _).uses_bind fun stored => ?_
  split
  · rw [uses_efiPrint_bind]
    trivial
  · refine (initEfiFs_spares _).uses_bind fun fileSystem => ?_
    rw [uses_efiPrint_bind]
    refine uses_openVolume_bind fun status root => ?_
    simp only [uses_efiPrint_bind, uses_efiPrinthex_bind]
    refine uses_bind (loadKernel_uses List.mem_cons_self _ _) fun status h' same => ?_
    rw [same]
    exact enterKernel_uses _ _ _ _ _

theorem checkFramebuffer_uses (imageHandle : Addr) (systemTable : EfiSystemTable)
    (garbage : Uninitialized) (graphicsOutputProtocol : Addr) :
    Uses header (checkFramebuffer imageHandle systemTable garbage graphicsOutputProtocol)
      Holdings.none fun _ _ => True := by
  have info (field : Field) : Spares header (readModeInfo graphicsOutputProtocol field) := by
    refine spares_loadField_bind trivial fun mode => ?_
    refine spares_loadField_bind trivial fun info => ?_
    exact spares_op trivial fun v => spares_ret v
  refine uses_loadField_bind (fun _ => trivial) fun mode => ?_
  refine uses_loadField_bind (fun _ => trivial) fun frameBufferBase => ?_
  split
  · rw [uses_efiPrint_bind]
    trivial
  · refine uses_loadField_bind (fun _ => trivial) fun mode => ?_
    refine uses_loadField_bind (fun _ => trivial) fun framebufferPointer => ?_
    refine (info _).uses_bind fun horizontalResolution => ?_
    refine (info _).uses_bind fun verticalResolution => ?_
    refine (info _).uses_bind fun pixelsPerScanline => ?_
    refine uses_allocatePool_bind fun status backbuffer fresh => ?_
    have size : ((backbufferSize ⟨framebufferPointer, garbage.backbufferPointer,
        horizontalResolution, verticalResolution, pixelsPerScanline⟩).setWidth 64).toNat =
          (backbufferSize ⟨framebufferPointer, backbuffer, horizontalResolution,
            verticalResolution, pixelsPerScanline⟩).toNat :=
      BitVec.toNat_setWidth_of_le (by decide)
    rw [size]
    exact bootFrom_uses _ _ _

theorem chooseMode_uses (imageHandle : Addr) (systemTable : EfiSystemTable)
    (garbage : Uninitialized) (graphicsOutputProtocol : Addr) (noMode : Bool) :
    Uses header (chooseMode imageHandle systemTable garbage graphicsOutputProtocol noMode)
      Holdings.none fun _ _ => True := by
  unfold chooseMode
  split
  · refine (setGraphicsMode_spares _ _ _ _ _).uses_bind fun status => ?_
    exact checkFramebuffer_uses _ _ _ _
  · exact checkFramebuffer_uses _ _ _ _

theorem efiMain_uses (imageHandle : Addr) (systemTable : EfiSystemTable)
    (garbage : Uninitialized) :
    Uses header (efiMain imageHandle systemTable garbage) Holdings.none fun _ _ => True := by
  simp -zeta only [efiMain, efiError_eq_false, Bool.false_eq_true, if_false]
  rw [uses_efiPrint_bind, uses_efiPrint_bind]
  refine uses_callStatus_bind (fun _ => trivial) (fun _ => rfl) fun watchdog => ?_
  refine (graphicsInit_spares _).uses_bind fun graphics => ?_
  refine uses_load_bind (fun _ => trivial) fun handle => ?_
  refine uses_callOut_bind (fun _ => trivial) (fun _ => rfl) fun reply => ?_
  obtain ⟨status, protocol⟩ := reply
  change Uses header (if ¬ decide (status = efiNotStarted) = true then
      (do
        let mode : Addr ← loadField .graphics protocol GraphicsOutputProtocol.mode
        chooseMode imageHandle systemTable garbage protocol (decide (mode = 0)))
      else chooseMode imageHandle systemTable garbage protocol (decide (status = efiNotStarted)))
    _ _
  split
  · refine uses_loadField_bind (fun _ => trivial) fun mode => ?_
    exact chooseMode_uses _ _ _ _ _
  · exact chooseMode_uses _ _ _ _ _

end Parts

def grantedHeader : Memory 64 := overlay (fun _ => 0) 0x3038 [1]

/-- Buffers are granted upwards from `next`, and everything else as by `willing`. -/
def granting (o : Op) (next : Nat) : Reply o × Nat :=
  match o with
  | .load .elfHeader a n => (ByteMemory.load grantedHeader a n, next)
  | .load .programHeaders _ n => (BitVec.ofNat (8 * n) 1, next)
  | .call (.allocatePool ..) => ((efiSuccess, some (BitVec.ofNat 64 next)), next + 0x1000)
  | o => ((willing o ()).1, next)

def grantingRun : Trace × Except Halt EfiStatus × Nat :=
  exec granting (efiMain 0x10 ⟨1, 0x4000⟩ ⟨⟨0, 0⟩, (0, 0), 0⟩) 0x1000

example : ∃ entry bootInfo, grantingRun.2.1 = .error (.enterKernel entry bootInfo) := ⟨_, _, rfl⟩

end Flosp.Boot
