import Flosp.Boot.Effects

/-! What the bootloader asks of the firmware once boot services have ended. -/

namespace Flosp.Boot

open Interaction

def EndsServices (e : BootEvent) : Prop :=
  ∃ imageHandle mapKey, e = callEvent (.exitBootServices imageHandle mapKey) (efiSuccess, ())

def IsCall (e : BootEvent) : Prop := ∃ c reply, e = callEvent c reply

/-- A run of `efi_main` on some firmware. -/
structure BootRun where
  imageHandle : Addr
  systemTable : EfiSystemTable
  garbage : Uninitialized
  trace : Trace
  ended : Except Halt EfiStatus
  runs : Runs (efiMain imageHandle systemTable garbage) trace ended

def BootRun.RespectsExit (run : BootRun) : Prop :=
  ∀ before e after, run.trace = before ++ e :: after → EndsServices e → ∀ x ∈ after, ¬ IsCall x

def Exposed (t : Trace) : Prop :=
  ∀ before e after, t = before ++ e :: after → EndsServices e → ∃ x ∈ after, IsCall x

def Exposes {α : Type} (p : Program α) : Prop := ∀ t r, Runs p t r → Exposed t

/-- Every call but the one that ends boot services, and every access. -/
@[simp] def KeepsServices : Op → Prop
  | .call (.exitBootServices ..) => False
  | _ => True

abbrev Keeps {α : Type} (p : Program α) : Prop := p.Only KeepsServices

/-- Every run of the program keeps boot services or comes, with these still on, to an end part
that `Q` tells of. -/
def Reaches {α : Type} (Q : Trace → Except Halt α → Prop) (p : Program α) : Prop :=
  ∀ t r, Runs p t r → (∀ e ∈ t, KeepsServices e.op) ∨
    ∃ before rest, t = before ++ rest ∧ (∀ e ∈ before, KeepsServices e.op) ∧ Q rest r

section Rules

variable {α β : Type} {p : Program α} {f : α → Program β} {Q : Trace → Except Halt β → Prop}

theorem exposed_append {t₁ t₂ : Trace} (kept : ∀ e ∈ t₁, KeepsServices e.op) (exposed : Exposed t₂) :
    Exposed (t₁ ++ t₂) := by
  intro before e after split ends
  rcases List.append_eq_append_iff.mp split with ⟨middle, rfl, rest⟩ | ⟨middle, first, rest⟩
  · exact exposed middle e after rest ends
  · cases middle with
    | nil => exact exposed [] e after rest.symm ends
    | cons e' middle =>
        obtain ⟨imageHandle, mapKey, rfl⟩ := ends
        cases rest
        have keeps := kept _ (first ▸ List.mem_append_right before List.mem_cons_self)
        exact keeps.elim

theorem Keeps.bind (first : Keeps p) (rest : ∀ a, Keeps (f a)) : Keeps (p >>= f) :=
  Prog.Only.bind first rest

theorem Exposes.bind (keeps : Keeps p) (rest : ∀ a, Exposes (f a)) : Exposes (p >>= f) := by
  intro t r run
  obtain ⟨t₁, t₂, m, rfl, first, second⟩ := runs_bind.mp run
  apply exposed_append (keeps.events first)
  cases m with
  | ok a => exact rest a t₂ r second
  | error h =>
      rw [second.1]
      intro before e after split
      simp at split

theorem Keeps.reaches {Q : Trace → Except Halt α → Prop} (keeps : Keeps p) : Reaches Q p := by
  intro t r run
  exact Or.inl (keeps.events run)

theorem Reaches.bind (keeps : Keeps p) (rest : ∀ a, Reaches Q (f a)) : Reaches Q (p >>= f) := by
  intro t r run
  obtain ⟨t₁, t₂, m, rfl, first, second⟩ := runs_bind.mp run
  have kept := keeps.events first
  cases m with
  | error h =>
      rw [second.1, List.append_nil]
      exact Or.inl kept
  | ok a =>
      rcases rest a t₂ r second with all | ⟨before, last, rfl, early, reached⟩
      · exact Or.inl (List.forall_mem_append.mpr ⟨kept, all⟩)
      · exact Or.inr ⟨t₁ ++ before, last, (List.append_assoc ..).symm,
          List.forall_mem_append.mpr ⟨kept, early⟩, reached⟩

end Rules

/-! The parts of `efi_main` up to its exit from boot services. -/

section Keeps

variable {α β : Type} {f : α → Program β}

@[simp] theorem keeps_ret (b : β) : Keeps (.ret b : Program β) := trivial

@[simp] theorem keeps_spin_bind : Keeps (spin >>= f) := trivial

@[simp] theorem keeps_ite {c : Prop} [Decidable c] {p q : Program β} :
    Keeps (if c then p else q) ↔ (c → Keeps p) ∧ (¬ c → Keeps q) := by
  by_cases holds : c
  · simp [holds]
  · simp [holds]

@[simp] theorem keeps_callStatus_bind {c : Call} {f : EfiStatus → Program β} :
    Keeps (callStatus c >>= f) ↔ KeepsServices (.call c) ∧ ∀ reply : EfiStatus × c.Out,
      Keeps (f reply.1) := Iff.rfl

@[simp] theorem keeps_callOut_bind {c : Call} {outputs : c.Out → α}
    {f : EfiStatus × α → Program β} :
    Keeps (callOut c outputs >>= f) ↔ KeepsServices (.call c) ∧ ∀ reply : EfiStatus × c.Out,
      Keeps (f (reply.1, outputs reply.2)) := Iff.rfl

theorem Keeps.load {region : Region} {a : Addr} {n : Nat} {f : BitVec (8 * n) → Program β}
    (rest : ∀ v, Keeps (f v)) : Keeps (load region a n >>= f) := ⟨trivial, rest⟩

theorem Keeps.loadField {region : Region} {base : Addr} {field : Field}
    {f : BitVec (8 * field.size) → Program β} (rest : ∀ v, Keeps (f v)) :
    Keeps (loadField region base field >>= f) := ⟨trivial, rest⟩

theorem Keeps.store {region : Region} {a : Addr} {n : Nat} {v : BitVec (8 * n)}
    {f : Unit → Program β} (rest : Keeps (f ())) : Keeps (store region a n v >>= f) :=
  ⟨trivial, fun _ => rest⟩

@[simp] theorem keeps_efiPrintChars_bind {s : List Char16} {f : Unit → Program β} :
    Keeps (efiPrintChars s >>= f) ↔ Keeps (f ()) := by
  constructor
  · intro keeps
    exact keeps.2 (efiSuccess, ())
  · intro rest
    exact ⟨trivial, fun _ => rest⟩

@[simp] theorem keeps_efiPrint_bind {s : String} {f : Unit → Program β} :
    Keeps (efiPrint s >>= f) ↔ Keeps (f ()) := keeps_efiPrintChars_bind

@[simp] theorem keeps_efiPrintnum_bind {n : BitVec 64} {f : Unit → Program β} :
    Keeps (efiPrintnum n >>= f) ↔ Keeps (f ()) := keeps_efiPrintChars_bind

@[simp] theorem keeps_efiPrinthex_bind {h : BitVec 64} {zeroX : BitVec 8} {f : Unit → Program β} :
    Keeps (efiPrinthex h zeroX >>= f) ↔ Keeps (f ()) := by
  unfold efiPrinthex
  by_cases plain : zeroX ≠ 0
  · rw [if_pos plain, Prog.bind_assoc, keeps_efiPrint_bind]
    exact keeps_efiPrintChars_bind
  · rw [if_neg plain]
    exact keeps_efiPrintChars_bind

@[simp] theorem keeps_efiPrint (s : String) : Keeps (efiPrint s) := ⟨trivial, fun _ => trivial⟩

theorem graphicsInit_keeps (graphicsService : UefiGraphicsService) :
    Keeps (graphicsInit graphicsService) := by
  simp [graphicsInit, locateHandleBuffer]

theorem findGraphicsModeFrom_keeps (protocol : Addr)
    (targetWidth targetHeight targetPixelFormat : BitVec 32) (graphicsMode : BitVec 64)
    (turns : Nat) (i : BitVec 32) (query : BitVec 64 × Addr) :
    Keeps (findGraphicsModeFrom protocol targetWidth targetHeight targetPixelFormat graphicsMode
      turns i query) := by
  induction turns generalizing i query with
  | zero => trivial
  | succ turns ih =>
      apply Keeps.loadField
      intro mode
      apply Keeps.loadField
      intro maxMode
      split
      · trivial
      · simp only [keeps_efiPrint_bind, keeps_efiPrintnum_bind, queryMode, keeps_callOut_bind,
          efiError_eq_false, Bool.false_eq_true, if_false]
        refine ⟨trivial, fun reply => ?_⟩
        apply Keeps.loadField
        intro width
        split
        · apply Keeps.loadField
          intro height
          split
          · apply Keeps.loadField
            intro format
            split
            · simp
            · exact ih ..
          · exact ih ..
        · exact ih ..

theorem setGraphicsMode_keeps (protocol : Addr)
    (targetWidth targetHeight targetPixelFormat : BitVec 32) (query : BitVec 64 × Addr) :
    Keeps (setGraphicsMode protocol targetWidth targetHeight targetPixelFormat query) := by
  apply (findGraphicsModeFrom_keeps ..).bind
  simp [setMode, clearScreen, reset]

theorem compareEfiGuid_keeps (guid1 : Addr) (guid2 : EfiGuid) :
    Keeps (compareEfiGuid guid1 guid2) := by
  apply Keeps.load
  intro g0
  apply Keeps.load
  intro g1
  apply Keeps.load
  intro g2
  apply Keeps.load
  intro g3
  trivial

theorem matchesSignature_keeps (tempTable : Addr) (signature : List (BitVec 8)) (k : Nat) :
    Keeps (matchesSignature tempTable signature k) := by
  induction signature generalizing k with
  | nil => trivial
  | cons c rest ih =>
      apply Keeps.loadField
      intro vendorTable
      apply Keeps.load
      intro b
      split
      · exact ih ..
      · trivial

theorem findXsdpFrom_keeps (turns i : Nat) (tempTable : Addr) (stored : List Addr) :
    Keeps (findXsdpFrom turns i tempTable stored) := by
  induction turns generalizing i tempTable stored with
  | zero => trivial
  | succ turns ih =>
      apply (compareEfiGuid_keeps ..).bind
      intro difference
      simp only [ne_eq, ite_not]
      split
      · exact ih ..
      · apply (matchesSignature_keeps ..).bind
        intro found
        split
        · apply Keeps.loadField
          intro vendorTable
          exact ih ..
        · exact ih ..

theorem findXsdp_keeps (systemTable : EfiSystemTable) : Keeps (findXsdp systemTable) := by
  unfold findXsdp
  split
  · exact findXsdpFrom_keeps ..
  · trivial

theorem initEfiFs_keeps (fileSystemProtocol : Addr) : Keeps (initEfiFs fileSystemProtocol) := by
  simp [initEfiFs, locateProtocol]

theorem readElfIdentity_keeps (kernelImage elfIdBuffer : Addr) :
    Keeps (readElfIdentity kernelImage elfIdBuffer) := by
  simp [readElfIdentity, setPosition, allocatePool, read]

theorem anyDiffers_keeps (elfIdBuffer : Addr) (bytes : List (Nat × BitVec 8)) :
    Keeps (anyDiffers elfIdBuffer bytes) := by
  induction bytes with
  | nil => trivial
  | cons b rest ih =>
      apply Keeps.loadField
      intro byte
      split
      · trivial
      · exact ih

theorem validateElfIdentity_keeps (elfIdBuffer : Addr) :
    Keeps (validateElfIdentity elfIdBuffer) := by
  unfold validateElfIdentity
  rw [keeps_efiPrint_bind]
  apply (anyDiffers_keeps ..).bind
  intro badMagic
  split
  · simp
  · apply Keeps.loadField
    intro elfClass
    split
    · rw [keeps_efiPrint_bind]
      apply Keeps.loadField
      intro elfData
      split
      · simp
      · simp
    · simp

theorem readElfFile_keeps (kernelImage kernelHeader kernelProgramHeaders : Addr) :
    Keeps (readElfFile kernelImage kernelHeader kernelProgramHeaders) := by
  simp only [readElfFile, setPosition, allocatePool, read, keeps_efiPrint_bind,
    keeps_callStatus_bind, keeps_callOut_bind, KeepsServices, true_and, efiError_eq_false,
    Bool.false_eq_true, if_false]
  intro seek pool header
  apply Keeps.loadField
  intro programHeadersOffset
  apply Keeps.loadField
  intro phnum
  simp

theorem printInfoLine_keeps (header : Addr) (line : InfoLine) :
    Keeps (printInfoLine header line) := by
  unfold printInfoLine
  rw [keeps_efiPrint_bind]
  apply Keeps.loadField
  intro value
  split
  · simp
  · simp

theorem printMagic_keeps (header : Addr) (i : Nat) : Keeps (printMagic header i) := by
  apply Keeps.loadField
  intro value
  simp

theorem printElfInfo_keeps (header : Addr) : Keeps (printElfInfo header) := by
  unfold printElfInfo
  rw [keeps_efiPrint_bind, keeps_efiPrint_bind]
  apply Keeps.bind (Prog.Only.forEach (printMagic_keeps header) _)
  intro _
  rw [keeps_efiPrint_bind]
  exact Prog.Only.forEach (printInfoLine_keeps header) _

theorem loadSegment_keeps (kernelImage : Addr) (segmentOffset segmentFileSize segmentMemorySize
    segmentPhysicalAddress : BitVec 64) :
    Keeps (loadSegment kernelImage segmentOffset segmentFileSize segmentMemorySize
      segmentPhysicalAddress) := by
  simp [loadSegment, setPosition, allocatePages, allocatePool, read, copyMem, freePool, setMem]

theorem loadProgramSegmentsFrom_keeps (kernelImage programHeaders : Addr) (turns i : Nat)
    (status : EfiStatus) (numSegmentsLoaded : BitVec 16) :
    Keeps (loadProgramSegmentsFrom kernelImage programHeaders turns i status numSegmentsLoaded) := by
  induction turns generalizing i status numSegmentsLoaded with
  | zero => simp [loadProgramSegmentsFrom]
  | succ turns ih =>
      apply Keeps.loadField
      intro pType
      split
      · apply Keeps.loadField
        intro pOffset
        apply Keeps.loadField
        intro pFilesz
        apply Keeps.loadField
        intro pMemsz
        apply Keeps.loadField
        intro pPaddr
        apply (loadSegment_keeps ..).bind
        simp [ih]
      · exact ih ..

theorem loadProgramSegments_keeps (kernelImage kernelHeader kernelProgramHeaders : Addr) :
    Keeps (loadProgramSegments kernelImage kernelHeader kernelProgramHeaders) := by
  apply Keeps.loadField
  intro numProgramHeaders
  split
  · simp
  · rw [keeps_efiPrint_bind]
    exact loadProgramSegmentsFrom_keeps ..

theorem loadKernel_keeps (rootFileSystem : Addr) (kernelFilename : List Char16)
    (kernelEntryPoint : Addr) : Keeps (loadKernel rootFileSystem kernelFilename kernelEntryPoint) := by
  simp only [loadKernel, openFile, freePool, close, keeps_efiPrint_bind, keeps_callOut_bind,
    KeepsServices, true_and, efiError_eq_false, Bool.false_eq_true, if_false]
  intro file
  split
  · simp
  · apply (readElfIdentity_keeps ..).bind
    intro identity
    apply (validateElfIdentity_keeps ..).bind
    intro valid
    simp only [keeps_callStatus_bind, KeepsServices, true_and]
    intro freed
    apply (readElfFile_keeps ..).bind
    intro headers
    apply Keeps.loadField
    intro eEntry
    apply Keeps.store
    apply (printElfInfo_keeps ..).bind
    intro _
    apply (loadProgramSegments_keeps ..).bind
    simp

theorem getMemoryMap_keeps (memoryMap : Addr) (reply : MemoryMapReply) :
    Keeps (getMemoryMap' memoryMap reply) := by
  simp [getMemoryMap', getMemoryMap, allocatePool]

end Keeps

/-! The exit itself. -/

section Exit

theorem print_isCall {β : Type} {s : String} {f : Unit → Program β} {t : Trace} {r : Except Halt β}
    (run : Runs (efiPrint s >>= f) t r) : ∃ x ∈ t, IsCall x := by
  obtain ⟨reply, rest, rfl, -⟩ := runs_op.mp run
  exact ⟨_, List.mem_cons_self, _, reply, rfl⟩

theorem Exposes.exit {β : Type} {imageHandle : Addr} {mapKey : BitVec 64}
    {f : EfiStatus → Program β} (keeps : ∀ status, Keeps (f status))
    (calls : ∀ status t r, Runs (f status) t r → ∃ x ∈ t, IsCall x) :
    Exposes (exitBootServices imageHandle mapKey >>= f) := by
  intro t r run before e after split ends
  obtain ⟨reply, rest, rfl, later⟩ := runs_op.mp run
  cases before with
  | nil =>
      cases split
      exact calls _ _ r later
  | cons e' before =>
      cases split
      obtain ⟨imageHandle', mapKey', rfl⟩ := ends
      have member : callEvent (.exitBootServices imageHandle' mapKey') (efiSuccess, ()) ∈
          before ++ callEvent (.exitBootServices imageHandle' mapKey') (efiSuccess, ()) :: after :=
        List.mem_append_right before List.mem_cons_self
      exact ((keeps _).events later _ member).elim

theorem keeps_callStatus {c : Call} (keeps : KeepsServices (.call c)) : Keeps (callStatus c) :=
  ⟨keeps, fun _ => trivial⟩

theorem keeps_callOut {α : Type} {c : Call} {outputs : c.Out → α}
    (keeps : KeepsServices (.call c)) : Keeps (callOut c outputs) :=
  ⟨keeps, fun _ => trivial⟩

theorem keeps_load (region : Region) (a : Addr) (n : Nat) : Keeps (load region a n) :=
  ⟨trivial, fun _ => trivial⟩

theorem keeps_efiPrinthex (h : BitVec 64) (zeroX : BitVec 8) : Keeps (efiPrinthex h zeroX) := by
  rw [← Prog.bind_ret (efiPrinthex h zeroX), keeps_efiPrinthex_bind]
  trivial

theorem printVideoModeInfo_keeps (videoModeInfo : KernelBootVideoModeInfo) :
    Keeps (printVideoModeInfo videoModeInfo) := by
  simp [printVideoModeInfo]

theorem enterKernel_exposes (imageHandle kernelEntryPoint : Addr) (bootInfo : KernelBootInfo)
    (status : EfiStatus) : Exposes (enterKernel imageHandle kernelEntryPoint bootInfo status) := by
  simp only [enterKernel, efiError_eq_false, Bool.false_eq_true, if_false]
  apply Exposes.bind (keeps_efiPrint _)
  intro _
  apply Exposes.bind (keeps_load ..)
  intro entry
  apply Exposes.bind (keeps_efiPrinthex ..)
  intro _
  apply Exposes.bind (keeps_efiPrint _)
  intro _
  apply Exposes.bind (keeps_efiPrint _)
  intro _
  apply Exposes.bind (getMemoryMap_keeps ..)
  intro map
  apply Exposes.bind (keeps_efiPrint _)
  intro _
  apply Exposes.exit
  · intro status
    apply (printVideoModeInfo_keeps _).bind
    intro _
    rw [keeps_efiPrint_bind]
    apply Keeps.load
    intro kernelEntry
    trivial
  · intro status t r run
    simp only [printVideoModeInfo, Prog.bind_assoc] at run
    exact print_isCall run

variable (imageHandle : Addr) (systemTable : EfiSystemTable) (garbage : Uninitialized)

/-- `efi_main` from its search for the ACPI root pointer on -/
def bootFrom (videoModeInfo : KernelBootVideoModeInfo) : Program EfiStatus := do
  let stored ← findXsdp systemTable
  if stored.headD 0 = 0 then
    efiPrint "Fatal: Unable to locate ACPI v2+ XSDP\r\n"
    return efiNotFound
  else
    let (_, fileSystemProtocol) ← initEfiFs 0
    efiPrint "Debug: Opening EFI boot volume\r\n"
    let (_, rootFileSystem) ← openVolume fileSystemProtocol 0
    efiPrint "Debug: Root file system address: "
    efiPrinthex rootFileSystem 1
    efiPrint "\r\n"
    efiPrint "Debug: EFI boot volume opened\r\n"
    let status ← loadKernel rootFileSystem (wide kernelFilepath) 0
    enterKernel imageHandle 0
      { memoryMap := 0, memoryMapSize := 0, memoryMapDescriptorSize := 0, videoModeInfo,
        xsdpTable := stored.headD 0 }
      status

/-- `efi_main` from `load_kernel` on, with the `KernelEntryPoint` it passes -/
def LoadsKernel (t : Trace) (r : Except Halt EfiStatus) : Prop :=
  ∃ rootFileSystem bootInfo, Runs (loadKernel rootFileSystem (wide kernelFilepath) 0 >>=
    enterKernel imageHandle 0 bootInfo) t r

theorem bootFrom_reaches (videoModeInfo : KernelBootVideoModeInfo) :
    Reaches (LoadsKernel imageHandle) (bootFrom imageHandle systemTable videoModeInfo) := by
  apply Reaches.bind (findXsdp_keeps _)
  intro stored
  split
  · exact Keeps.reaches (by simp)
  · apply Reaches.bind (initEfiFs_keeps _)
    intro fileSystem
    apply Reaches.bind (keeps_efiPrint _)
    intro _
    apply Reaches.bind (keeps_callOut (c := .openVolume ..) trivial)
    intro volume
    apply Reaches.bind (keeps_efiPrint _)
    intro _
    apply Reaches.bind (keeps_efiPrinthex ..)
    intro _
    apply Reaches.bind (keeps_efiPrint _)
    intro _
    apply Reaches.bind (keeps_efiPrint _)
    intro _ t r run
    exact Or.inr ⟨[], t, rfl, fun e member => absurd member List.not_mem_nil, _, _, run⟩

def readModeInfo (graphicsOutputProtocol : Addr) (f : Field) : Program (BitVec (8 * f.size)) := do
  let mode : Addr ← loadField .graphics graphicsOutputProtocol GraphicsOutputProtocol.mode
  let info : Addr ← loadField .graphics mode GraphicsOutputProtocolMode.info
  loadField .graphics info f

theorem readModeInfo_keeps (graphicsOutputProtocol : Addr) (f : Field) :
    Keeps (readModeInfo graphicsOutputProtocol f) := by
  apply Keeps.loadField
  intro mode
  apply Keeps.loadField
  intro info
  exact keeps_load ..

/-- `efi_main` from "Save graphics info in BootInfo" on -/
def saveGraphicsInfo (graphicsOutputProtocol : Addr) : Program EfiStatus := do
  let mode : Addr ← loadField .graphics graphicsOutputProtocol GraphicsOutputProtocol.mode
  let framebufferPointer : Addr ←
    loadField .graphics mode GraphicsOutputProtocolMode.frameBufferBase
  let horizontalResolution : BitVec 32 ←
    readModeInfo graphicsOutputProtocol GraphicsOutputModeInformation.horizontalResolution
  let verticalResolution : BitVec 32 ←
    readModeInfo graphicsOutputProtocol GraphicsOutputModeInformation.verticalResolution
  let pixelsPerScanline : BitVec 32 ←
    readModeInfo graphicsOutputProtocol GraphicsOutputModeInformation.pixelsPerScanline
  let videoModeInfo : KernelBootVideoModeInfo :=
    { framebufferPointer, backbufferPointer := garbage.backbufferPointer, horizontalResolution,
      verticalResolution, pixelsPerScanline }
  let (_, backbufferPointer) ← allocatePool .efiLoaderData
    ((backbufferSize videoModeInfo).setWidth 64) videoModeInfo.backbufferPointer
  bootFrom imageHandle systemTable { videoModeInfo with backbufferPointer }

theorem saveGraphicsInfo_reaches (graphicsOutputProtocol : Addr) :
    Reaches (LoadsKernel imageHandle) (saveGraphicsInfo imageHandle systemTable garbage graphicsOutputProtocol) := by
  apply Reaches.bind (keeps_load ..)
  intro mode
  apply Reaches.bind (keeps_load ..)
  intro framebufferPointer
  apply Reaches.bind (readModeInfo_keeps ..)
  intro horizontalResolution
  apply Reaches.bind (readModeInfo_keeps ..)
  intro verticalResolution
  apply Reaches.bind (readModeInfo_keeps ..)
  intro pixelsPerScanline
  apply Reaches.bind (keeps_callOut (c := .allocatePool ..) trivial)
  intro backbuffer
  apply bootFrom_reaches

/-- `efi_main` from its check of the frame buffer on -/
def checkFramebuffer (graphicsOutputProtocol : Addr) : Program EfiStatus := do
  let mode : Addr ← loadField .graphics graphicsOutputProtocol GraphicsOutputProtocol.mode
  let frameBufferBase : Addr ← loadField .graphics mode GraphicsOutputProtocolMode.frameBufferBase
  if frameBufferBase = 0 then
    efiPrint "Fatal: Framebuffer address is NULL"
    spin
  else
    saveGraphicsInfo imageHandle systemTable garbage graphicsOutputProtocol

theorem checkFramebuffer_reaches (graphicsOutputProtocol : Addr) :
    Reaches (LoadsKernel imageHandle) (checkFramebuffer imageHandle systemTable garbage graphicsOutputProtocol) := by
  apply Reaches.bind (keeps_load ..)
  intro mode
  apply Reaches.bind (keeps_load ..)
  intro frameBufferBase
  split
  · exact Keeps.reaches (by simp [spin, Prog.Only])
  · apply saveGraphicsInfo_reaches

/-- `efi_main` from its test for a video mode on -/
def chooseMode (graphicsOutputProtocol : Addr) (noMode : Bool) : Program EfiStatus := do
  if noMode then
    let _ ← setGraphicsMode graphicsOutputProtocol targetScreenWidth targetScreenHeight
      targetScreenPixelFormat garbage.modeInfo
    checkFramebuffer imageHandle systemTable garbage graphicsOutputProtocol
  else
    checkFramebuffer imageHandle systemTable garbage graphicsOutputProtocol

theorem chooseMode_reaches (graphicsOutputProtocol : Addr) (noMode : Bool) :
    Reaches (LoadsKernel imageHandle) (chooseMode imageHandle systemTable garbage graphicsOutputProtocol noMode) := by
  unfold chooseMode
  split
  · apply Reaches.bind (setGraphicsMode_keeps ..)
    intro status
    apply checkFramebuffer_reaches
  · apply checkFramebuffer_reaches

theorem efiMain_reaches : Reaches (LoadsKernel imageHandle) (efiMain imageHandle systemTable garbage) := by
  simp -zeta only [efiMain, efiError_eq_false, Bool.false_eq_true, if_false]
  apply Reaches.bind (keeps_efiPrint _)
  intro _
  apply Reaches.bind (keeps_efiPrint _)
  intro _
  apply Reaches.bind (keeps_callStatus (c := .setWatchdogTimer ..) trivial)
  intro watchdog
  apply Reaches.bind (graphicsInit_keeps _)
  intro graphics
  apply Reaches.bind (keeps_load ..)
  intro handle
  apply Reaches.bind (keeps_callOut (c := .openProtocol ..) trivial)
  rintro ⟨status, protocol⟩
  change Reaches (LoadsKernel imageHandle) (if ¬ decide (status = efiNotStarted) = true then
      (do
        let mode : Addr ← loadField .graphics protocol GraphicsOutputProtocol.mode
        chooseMode imageHandle systemTable garbage protocol (decide (mode = 0)))
      else chooseMode imageHandle systemTable garbage protocol (decide (status = efiNotStarted)))
  split
  · apply Reaches.bind (keeps_load ..)
    intro mode
    apply chooseMode_reaches
  · apply chooseMode_reaches

theorem efiMain_exposes : Exposes (efiMain imageHandle systemTable garbage) := by
  intro t r run
  rcases efiMain_reaches imageHandle systemTable garbage t r run with
    kept | ⟨before, rest, rfl, kept, rootFileSystem, bootInfo, runs⟩
  · intro before e after split ends
    obtain ⟨imageHandle', mapKey', rfl⟩ := ends
    have member : callEvent (.exitBootServices imageHandle' mapKey') (efiSuccess, ()) ∈ t :=
      split ▸ List.mem_append_right before List.mem_cons_self
    exact (kept _ member).elim
  · apply exposed_append kept
    exact Exposes.bind (loadKernel_keeps ..) (enterKernel_exposes imageHandle 0 bootInfo) _ _ runs

end Exit

theorem BootRun.not_respectsExit (run : BootRun) {e : BootEvent} (present : e ∈ run.trace)
    (ends : EndsServices e) : ¬ run.RespectsExit := by
  intro respects
  obtain ⟨before, after, split⟩ := List.mem_iff_append.mp present
  obtain ⟨x, later, call⟩ := efiMain_exposes _ _ _ _ _ run.runs before e after split ends
  exact respects before e after split ends x later call

/-- Boot services are left alone after their end only where they do not end. -/
theorem respectsExit_iff (run : BootRun) :
    run.RespectsExit ↔ ∀ e ∈ run.trace, ¬ EndsServices e := by
  constructor
  · intro respects e present ends
    exact run.not_respectsExit present ends respects
  · intro none before e after split ends
    have present : e ∈ run.trace := by
      rw [split]
      exact List.mem_append_right before List.mem_cons_self
    exact absurd ends (none e present)

/-- The run on a firmware that answers by a function. -/
def BootRun.ofHandler {S : Type} (handle : (o : Op) → S → Reply o × S) (start : S)
    (imageHandle : Addr) (systemTable : EfiSystemTable) (garbage : Uninitialized) : BootRun :=
  let boot := exec handle (efiMain imageHandle systemTable garbage) start
  { imageHandle, systemTable, garbage,
    trace := boot.1,
    ended := boot.2.1,
    runs := exec_runs handle _ start }

section Sample

/-- A firmware on which every call succeeds, with a kernel file of one empty segment. -/
def willing (o : Op) (_ : Unit) : Reply o × Unit :=
  match o with
  | .load region a n =>
      match region with
      | .graphics => (BitVec.ofNat (8 * n) 1, ())
      | .configurationTable => (BitVec.ofNat (8 * n) 0x100, ())
      | .vendorTable => (((xsdpSignature.getD (a.toNat - 0x100) 0).setWidth (8 * n)), ())
      | .elfIdentity =>
          (((([0x7F, 0x45, 0x4C, 0x46, 2, 1] : List (BitVec 8)).getD (a.toNat - 0x2000) 0).setWidth
            (8 * n)), ())
      | .elfHeader => (BitVec.ofNat (8 * n) (if n = 2 then 1 else 0), ())
      | .programHeaders => (BitVec.ofNat (8 * n) (if n = 4 then 1 else 0), ())
      | .handleBuffer | .kernelEntryPoint => (0#(8 * n), ())
  | .store .. => ((), ())
  | .call c =>
      match c with
      | .locateHandleBuffer .. => ((efiSuccess, some (1, 0x3000)), ())
      | .openProtocol .. => ((efiSuccess, some 0x5000), ())
      | .locateProtocol .. => ((efiSuccess, some 0x6000), ())
      | .openVolume .. => ((efiSuccess, some 0x7000), ())
      | .openFile .. => ((efiSuccess, some 0x1000), ())
      | .allocatePool .. => ((efiSuccess, some 0x2000), ())
      | c => ((efiSuccess, c.noOutput), ())

def willingRun : BootRun := .ofHandler willing () 0x10 ⟨1, 0x4000⟩ ⟨⟨0, 0⟩, (0, 0), 0⟩

theorem willing_not_respectsExit : ¬ willingRun.RespectsExit := by
  have exit : willingRun.trace[223]? =
      some (callEvent (.exitBootServices 0x10 0) (efiSuccess, ())) := rfl
  exact willingRun.not_respectsExit (List.mem_of_getElem? exit) ⟨_, _, rfl⟩

end Sample

end Flosp.Boot
