import Flosp.Boot.ExitServices
import Flosp.Boot.LoaderRuns
import Flosp.Lib.Contract
import Flosp.Lib.RecordLayout

/-! What `efi_main` hands to the kernel. -/

namespace Flosp.Boot

open Interaction ByteMemory RecordLayout

def Entering (P : KernelBootInfo → Prop) : Halt → Prop
  | .spin => True
  | .enterKernel _ bootInfo => P bootInfo

abbrev Enters {α : Type} (P : KernelBootInfo → Prop) (p : Program α) : Prop :=
  p.HaltsOnly (Entering P)

section Enters

variable {P : KernelBootInfo → Prop} {α β : Type} {f : α → Program β}

@[simp] theorem enters_ret (b : β) : Enters P (.ret b : Program β) := trivial

@[simp] theorem enters_spin_bind : Enters P (spin >>= f) := trivial

@[simp] theorem enters_ite {c : Prop} [Decidable c] {p q : Program β} :
    Enters P (if c then p else q) ↔ (c → Enters P p) ∧ (¬ c → Enters P q) := by
  by_cases holds : c
  · simp [holds]
  · simp [holds]

@[simp] theorem enters_callStatus_bind {c : Call} {f : EfiStatus → Program β} :
    Enters P (callStatus c >>= f) ↔ ∀ reply : EfiStatus × c.Out, Enters P (f reply.1) := Iff.rfl

@[simp] theorem enters_callOut_bind {c : Call} {outputs : c.Out → α}
    {f : EfiStatus × α → Program β} :
    Enters P (callOut c outputs >>= f) ↔
      ∀ reply : EfiStatus × c.Out, Enters P (f (reply.1, outputs reply.2)) := Iff.rfl

theorem Enters.load {region : Region} {a : Addr} {n : Nat} {f : BitVec (8 * n) → Program β}
    (rest : ∀ v, Enters P (f v)) : Enters P (load region a n >>= f) := rest

theorem Enters.loadField {region : Region} {base : Addr} {field : Field}
    {f : BitVec (8 * field.size) → Program β} (rest : ∀ v, Enters P (f v)) :
    Enters P (loadField region base field >>= f) := rest

@[simp] theorem enters_efiPrintChars_bind {s : List Char16} {f : Unit → Program β} :
    Enters P (efiPrintChars s >>= f) ↔ Enters P (f ()) := by
  constructor
  · intro enters
    exact enters (efiSuccess, ())
  · intro rest _
    exact rest

@[simp] theorem enters_efiPrint_bind {s : String} {f : Unit → Program β} :
    Enters P (efiPrint s >>= f) ↔ Enters P (f ()) := enters_efiPrintChars_bind

@[simp] theorem enters_efiPrintnum_bind {n : BitVec 64} {f : Unit → Program β} :
    Enters P (efiPrintnum n >>= f) ↔ Enters P (f ()) := enters_efiPrintChars_bind

@[simp] theorem enters_efiPrinthex_bind {v : BitVec 64} {zeroX : BitVec 8} {f : Unit → Program β} :
    Enters P (efiPrinthex v zeroX >>= f) ↔ Enters P (f ()) := by
  unfold efiPrinthex
  by_cases plain : zeroX ≠ 0
  · rw [if_pos plain, Prog.bind_assoc, enters_efiPrint_bind]
    exact enters_efiPrintChars_bind
  · rw [if_neg plain]
    exact enters_efiPrintChars_bind

/-! The parts of `efi_main` up to its call of `load_kernel` enter nothing. -/

theorem graphicsInit_enters (graphicsService : UefiGraphicsService) :
    Enters P (graphicsInit graphicsService) := by
  simp [graphicsInit, locateHandleBuffer]

theorem findGraphicsModeFrom_enters (protocol : Addr)
    (targetWidth targetHeight targetPixelFormat : BitVec 32) (graphicsMode : BitVec 64)
    (turns : Nat) (i : BitVec 32) (query : BitVec 64 × Addr) :
    Enters P (findGraphicsModeFrom protocol targetWidth targetHeight targetPixelFormat graphicsMode
      turns i query) := by
  induction turns generalizing i query with
  | zero => trivial
  | succ turns ih =>
      apply Enters.loadField
      intro mode
      apply Enters.loadField
      intro maxMode
      split
      · trivial
      · simp only [enters_efiPrint_bind, enters_efiPrintnum_bind, queryMode, enters_callOut_bind,
          efiError_eq_false, Bool.false_eq_true, if_false]
        intro reply
        apply Enters.loadField
        intro width
        split
        · apply Enters.loadField
          intro height
          split
          · apply Enters.loadField
            intro format
            split
            · simp
            · exact ih ..
          · exact ih ..
        · exact ih ..

theorem setGraphicsMode_enters (protocol : Addr)
    (targetWidth targetHeight targetPixelFormat : BitVec 32) (query : BitVec 64 × Addr) :
    Enters P (setGraphicsMode protocol targetWidth targetHeight targetPixelFormat query) := by
  apply (findGraphicsModeFrom_enters _ _ _ _ _ _ _ _).bind
  simp [setMode, clearScreen, reset]

theorem compareEfiGuid_enters (guid1 : Addr) (guid2 : EfiGuid) :
    Enters P (compareEfiGuid guid1 guid2) := fun _ _ _ _ => trivial

theorem matchesSignature_enters (tempTable : Addr) (signature : List (BitVec 8)) (k : Nat) :
    Enters P (matchesSignature tempTable signature k) := by
  induction signature generalizing k with
  | nil => trivial
  | cons c rest ih =>
      apply Enters.loadField
      intro vendorTable
      apply Enters.load
      intro b
      split
      · exact ih ..
      · trivial

theorem findXsdpFrom_enters (turns i : Nat) (tempTable : Addr) (stored : List Addr) :
    Enters P (findXsdpFrom turns i tempTable stored) := by
  induction turns generalizing i tempTable stored with
  | zero => trivial
  | succ turns ih =>
      apply (compareEfiGuid_enters _ _).bind
      intro difference
      simp only [ne_eq, ite_not]
      split
      · exact ih ..
      · apply (matchesSignature_enters _ _ _).bind
        intro found
        split
        · apply Enters.loadField
          intro vendorTable
          exact ih ..
        · exact ih ..

theorem findXsdp_enters (systemTable : EfiSystemTable) : Enters P (findXsdp systemTable) := by
  unfold findXsdp
  split
  · exact findXsdpFrom_enters _ _ _ _
  · trivial

theorem initEfiFs_enters (fileSystemProtocol : Addr) : Enters P (initEfiFs fileSystemProtocol) := by
  simp [initEfiFs, locateProtocol]

theorem loadKernel_enters (rootFileSystem : Addr) (kernelFilename : List Char16)
    (kernelEntryPoint : Addr) :
    Enters P (loadKernel rootFileSystem kernelFilename kernelEntryPoint) := by
  apply Prog.haltsOnly_of_runs
  intro t h run
  rcases does_loadKernel run.keeping with ⟨_, _, _, ⟨_, spins⟩ | ⟨_, _, _, _, returns⟩⟩
  · cases spins
    trivial
  · cases returns

theorem getMemoryMap_enters (memoryMap : Addr) (reply : MemoryMapReply) :
    Enters P (getMemoryMap' memoryMap reply) := by
  simp [getMemoryMap', getMemoryMap, allocatePool]

end Enters

/-! The root pointer. -/

def HasRootPointer (bootInfo : KernelBootInfo) : Prop := bootInfo.xsdpTable ≠ 0

section RootPointer

variable (imageHandle : Addr) (systemTable : EfiSystemTable) (garbage : Uninitialized)

theorem enterKernel_enters (kernelEntryPoint : Addr) {bootInfo : KernelBootInfo}
    (root : HasRootPointer bootInfo) (status : EfiStatus) :
    Enters HasRootPointer (enterKernel imageHandle kernelEntryPoint bootInfo status) := by
  simp only [enterKernel, efiError_eq_false, Bool.false_eq_true, if_false, enters_efiPrint_bind]
  apply Enters.load
  intro entry
  simp only [enters_efiPrint_bind, enters_efiPrinthex_bind]
  apply (getMemoryMap_enters _ _).bind
  intro map
  simp only [enters_efiPrint_bind, exitBootServices, enters_callStatus_bind, printVideoModeInfo,
    Prog.bind_assoc, enters_efiPrinthex_bind, enters_efiPrintnum_bind]
  intro exited
  apply Enters.load
  intro kernelEntry
  exact root

theorem bootFrom_enters (videoModeInfo : KernelBootVideoModeInfo) :
    Enters HasRootPointer (bootFrom imageHandle systemTable videoModeInfo) := by
  apply (findXsdp_enters _).bind
  intro stored
  split
  · simp
  · next found =>
      apply (initEfiFs_enters _).bind
      intro fileSystem
      simp only [enters_efiPrint_bind, openVolume, enters_callOut_bind, enters_efiPrinthex_bind]
      intro volume
      apply (loadKernel_enters _ _ _).bind
      intro status
      refine enterKernel_enters imageHandle 0 ?_ status
      exact found

theorem saveGraphicsInfo_enters (graphicsOutputProtocol : Addr) :
    Enters HasRootPointer
      (saveGraphicsInfo imageHandle systemTable garbage graphicsOutputProtocol) := by
  have info (field : Field) {β : Type} {f : BitVec (8 * field.size) → Program β}
      (rest : ∀ v, Enters HasRootPointer (f v)) :
      Enters HasRootPointer (readModeInfo graphicsOutputProtocol field >>= f) :=
    fun mode info v => rest v
  apply Enters.loadField
  intro mode
  apply Enters.loadField
  intro framebufferPointer
  apply info
  intro horizontalResolution
  apply info
  intro verticalResolution
  apply info
  intro pixelsPerScanline backbuffer
  exact bootFrom_enters _ _ _

theorem checkFramebuffer_enters (graphicsOutputProtocol : Addr) :
    Enters HasRootPointer
      (checkFramebuffer imageHandle systemTable garbage graphicsOutputProtocol) := by
  apply Enters.loadField
  intro mode
  apply Enters.loadField
  intro frameBufferBase
  split
  · rw [enters_efiPrint_bind]
    trivial
  · exact saveGraphicsInfo_enters _ _ _ _

theorem chooseMode_enters (graphicsOutputProtocol : Addr) (noMode : Bool) :
    Enters HasRootPointer
      (chooseMode imageHandle systemTable garbage graphicsOutputProtocol noMode) := by
  unfold chooseMode
  split
  · apply (setGraphicsMode_enters _ _ _ _ _).bind
    intro status
    exact checkFramebuffer_enters _ _ _ _
  · exact checkFramebuffer_enters _ _ _ _

/-- Whatever the firmware answers, the kernel is not entered without a root pointer. -/
theorem efiMain_enters : Enters HasRootPointer (efiMain imageHandle systemTable garbage) := by
  simp -zeta only [efiMain, efiError_eq_false, Bool.false_eq_true, if_false]
  rw [enters_efiPrint_bind, enters_efiPrint_bind, setWatchdogTimer, enters_callStatus_bind]
  intro watchdog
  apply (graphicsInit_enters _).bind
  intro graphics
  apply Enters.load
  intro handle
  rw [openProtocol, enters_callOut_bind]
  rintro ⟨status, protocol⟩
  change Enters HasRootPointer (if ¬ decide (status = efiNotStarted) = true then
      (do
        let mode : Addr ← loadField .graphics _ GraphicsOutputProtocol.mode
        chooseMode imageHandle systemTable garbage _ (decide (mode = 0)))
      else chooseMode imageHandle systemTable garbage _ (decide (status = efiNotStarted)))
  split
  · apply Enters.loadField
    intro mode
    exact chooseMode_enters _ _ _ _ _
  · exact chooseMode_enters _ _ _ _ _

end RootPointer

/-! The structure in memory. -/

/-- `KERNEL_BOOT_VIDEO_MODE_INFO`: two pointers and three `UINT32`s -/
def kernelBootVideoModeInfoType : CType :=
  .record [.scalar 8, .scalar 8, .scalar 4, .scalar 4, .scalar 4]

/-- `KERNEL_BOOT_INFO`: a pointer, two `UINT64`s, the video mode and a pointer -/
def kernelBootInfoType : CType :=
  .record [.scalar 8, .scalar 8, .scalar 8, kernelBootVideoModeInfoType, .scalar 8]

def KernelBootInfo.scalars (i : KernelBootInfo) : List Scalar :=
  [⟨8, i.memoryMap⟩, ⟨8, i.memoryMapSize⟩, ⟨8, i.memoryMapDescriptorSize⟩,
    ⟨8, i.videoModeInfo.framebufferPointer⟩, ⟨8, i.videoModeInfo.backbufferPointer⟩,
    ⟨4, i.videoModeInfo.horizontalResolution⟩, ⟨4, i.videoModeInfo.verticalResolution⟩,
    ⟨4, i.videoModeInfo.pixelsPerScanline⟩, ⟨8, i.xsdpTable⟩]

def KernelBootInfo.write (i : KernelBootInfo) (m : Memory 64) (a : Addr) : Memory 64 :=
  writeSlots m a kernelBootInfoType.slots i.scalars

theorem kernelBootInfo_slots : kernelBootInfoType.slots =
    [⟨0, 8⟩, ⟨8, 8⟩, ⟨16, 8⟩, ⟨24, 8⟩, ⟨32, 8⟩, ⟨40, 4⟩, ⟨44, 4⟩, ⟨48, 4⟩, ⟨56, 8⟩] := by
  decide

theorem kernelBootInfo_size : kernelBootInfoType.size = 64 := by
  decide

theorem KernelBootInfo.written (i : KernelBootInfo) (m : Memory 64) (a : Addr) :
    readSlots (i.write m a) a kernelBootInfoType.slots = i.scalars := by
  apply readSlots_writeSlots kernelBootInfoType.packed
  · simp [kernelBootInfo_size]
  · rw [Fills, kernelBootInfo_slots]
    rfl

end Flosp.Boot
