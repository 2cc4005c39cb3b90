import Flosp.Boot.Handoff
import Flosp.Kernel.Flush
import Flosp.Kernel.MainRuns
import Flosp.Kernel.Startup

/-! The boot information of the kernel (`inc/kernel/kernel.h`), from the bootloader's hands to the
calls that `main` makes with it. -/

namespace Flosp.Kernel

open ByteMemory Interaction RecordLayout

/-- `BOOT_INFO` -/
structure BootInfo where
  memoryMap : Addr
  memoryMapSize : BitVec 64
  memoryMapDescriptorSize : BitVec 64
  videoModeInfo : BootVideoModeInfo
  xsdpTable : Addr

/-- Two pointers and three `ui32_t`s -/
def bootVideoModeInfoType : CType :=
  .record [.scalar 8, .scalar 8, .scalar 4, .scalar 4, .scalar 4]

/-- A pointer, two `ui64_t`s, the video mode and a pointer -/
def bootInfoType : CType :=
  .record [.scalar 8, .scalar 8, .scalar 8, bootVideoModeInfoType, .scalar 8]

/-- `*(BOOT_VIDEO_MODE_INFO*)p` -/
def BootVideoModeInfo.read (mem : Memory 64) (p : Addr) : BootVideoModeInfo where
  framebufferPointer := load mem p 8
  backbufferPointer := load mem (p + 8) 8
  horizontalResolution := load mem (p + 16) 4
  verticalResolution := load mem (p + 20) 4
  pixelsPerScanline := load mem (p + 24) 4

namespace BootInfo

/-- `*(BOOT_INFO*)p` -/
def read (mem : Memory 64) (p : Addr) : BootInfo where
  memoryMap := load mem p 8
  memoryMapSize := load mem (p + 8) 8
  memoryMapDescriptorSize := load mem (p + 16) 8
  videoModeInfo := .read mem (p + videoModeInfoOffset)
  xsdpTable := load mem (p + xsdpTableOffset) 8

/-- The same members under the bootloader's names. -/
def ofBoot (i : Boot.KernelBootInfo) : BootInfo where
  memoryMap := i.memoryMap
  memoryMapSize := i.memoryMapSize
  memoryMapDescriptorSize := i.memoryMapDescriptorSize
  videoModeInfo := .ofBoot i.videoModeInfo
  xsdpTable := i.xsdpTable

def scalars (i : BootInfo) : List Scalar :=
  [⟨8, i.memoryMap⟩, ⟨8, i.memoryMapSize⟩, ⟨8, i.memoryMapDescriptorSize⟩,
    ⟨8, i.videoModeInfo.framebufferPointer⟩, ⟨8, i.videoModeInfo.backbufferPointer⟩,
    ⟨4, i.videoModeInfo.horizontalResolution⟩, ⟨4, i.videoModeInfo.verticalResolution⟩,
    ⟨4, i.videoModeInfo.pixelsPerScanline⟩, ⟨8, i.xsdpTable⟩]

theorem slots : bootInfoType.slots = Boot.kernelBootInfoType.slots := by
  decide

theorem read_slots (mem : Memory 64) (p : Addr) :
    readSlots mem p bootInfoType.slots = (read mem p).scalars := by
  rw [slots, Boot.kernelBootInfo_slots]
  simp [readSlots, scalars, read, BootVideoModeInfo.read, videoModeInfoOffset, xsdpTableOffset,
    BitVec.add_assoc]

theorem scalars_injective {i j : BootInfo} (same : i.scalars = j.scalars) : i = j := by
  obtain ⟨_, _, _, ⟨_, _, _, _, _⟩, _⟩ := i
  obtain ⟨_, _, _, ⟨_, _, _, _, _⟩, _⟩ := j
  simpa [scalars, and_assoc] using same

/-- What the bootloader wrote is what the kernel reads. -/
theorem read_write (i : Boot.KernelBootInfo) (mem : Memory 64) (p : Addr) :
    read (i.write mem p) p = ofBoot i := by
  apply scalars_injective
  calc (read (i.write mem p) p).scalars
      = readSlots (i.write mem p) p Boot.kernelBootInfoType.slots := by rw [← read_slots, slots]
    _ = i.scalars := i.written mem p
    _ = (ofBoot i).scalars := rfl

end BootInfo

/-! What `main` does with it. -/

/-- The structure that `initialize_video` gets and the pointer that the functions of `acpi.c` get
are those of the boot information. Nothing is fatal to `main` itself but a CPU without APIC. -/
def MakesUse (mem : Memory 64) (i : BootInfo) : KernelOp → Prop
  | .initializeVideo vmi => BootVideoModeInfo.read mem vmi = i.videoModeInfo
  | .acpiVcheck xsdpTable => xsdpTable = i.xsdpTable
  | .acpiCcheck xsdpTable => xsdpTable = i.xsdpTable
  | .acpiInit xsdpTable => xsdpTable = i.xsdpTable
  | .driver (.console (.kernLog filter msg)) =>
      filter = 5 → msg = "APIC Not Supported" ∨ msg = "CPU Frozen"
  | _ => True

def Answered (mem : Memory 64) : KernelEvent → Prop
  | ⟨.driver (.load a n), v⟩ => (let v : BitVec (8 * n) := v; v = load mem a n)
  | _ => True

section Main

variable {mem : Memory 64} {bootInfo : Addr}

theorem makesUse_startup (root : (BootInfo.read mem bootInfo).xsdpTable ≠ 0) :
    AllowsStartup (Answered mem) (MakesUse mem (.read mem bootInfo)) bootInfo
      (· = (BootInfo.read mem bootInfo).xsdpTable) where
  ordinary o ordinary := by
    cases o with
    | driver o =>
        cases o with
        | console c =>
            cases c with
            | kernLog filter msg => exact fun critical => absurd critical ordinary
            | _ => trivial
        | _ => trivial
    | initializeVideo vmi => exact ordinary.elim
    | acpiVcheck xsdpTable => exact ordinary.elim
    | acpiCcheck xsdpTable => exact ordinary.elim
    | acpiInit xsdpTable => exact ordinary.elim
    | _ => trivial
  video := rfl
  root _ answered := answered
  missing null := absurd null.symm root
  version _ known := known
  checksum _ known := known
  tables _ known := known
  unsupported _ := .inl rfl
  frozen _ := .inr rfl

theorem makesUse_timers (mem : Memory 64) (i : BootInfo) (lapicAddr : Addr) :
    AdmitsTimers (fun o => MakesUse mem i (.driver o)) lapicAddr where
  prints c quiet := by
    cases c with
    | kernLog filter msg => exact fun critical => absurd critical quiet
    | _ => trivial
  pitMode _ := trivial
  pitData _ := trivial
  load _ _ := trivial
  loadVolatile _ _ := trivial
  readTicks _ := trivial
  storeWide _ _ := trivial
  divider _ := trivial
  initialCount _ := trivial
  lvtTimer _ _ := trivial
  enable := trivial

theorem main_uses (kver : String) (isrStubTable idt : Addr)
    (root : (BootInfo.read mem bootInfo).xsdpTable ≠ 0) :
    (main kver isrStubTable idt bootInfo).Obeys (Answered mem) (MakesUse mem (.read mem bootInfo))
      fun _ => False := by
  apply (makesUse_startup root).main_obeys (R := True)
  · intro tables lapicAddr _
    have only := (makesUse_timers mem (.read mem bootInfo) lapicAddr).timersInit_only tables Hpet.loaded
    exact (Task.Obeys.of_only (P := fun _ => True) only).embed (fun _ uses => uses)
      fun _ _ _ => trivial
  · exact fun _ => trivial

theorem running_answered (b : Board) (i : BootInfo) :
    Honors (Computer.running b) (Answered b.mem) (MakesUse b.mem i) fun _ => True := by
  rintro ⟨o, reply⟩ m m' - ⟨u, v, -, now, -⟩ -
  refine ⟨?_, trivial⟩
  cases o with
  | driver o =>
      cases o with
      | load a n => exact now.1
      | _ => trivial
  | _ => trivial

end Main

def Board.holding (b : Board) (i : Boot.KernelBootInfo) (a : Addr) : Board :=
  { b with mem := i.write b.mem a }

/-- In every run of `efi_main` that enters the kernel, and wherever its structure lies, every run of
`main` on this structure gives `initialize_video` the bootloader's video mode and the functions of
`acpi.c` the bootloader's root pointer, which `main` never finds to be missing. -/
theorem efiMain_handsOver (imageHandle : Addr) (systemTable : Boot.EfiSystemTable)
    (garbage : Boot.Uninitialized) {t : Boot.Trace} {entry : Addr} {i : Boot.KernelBootInfo}
    (run : Runs (Boot.efiMain imageHandle systemTable garbage) t (.error (.enterKernel entry i)))
    (b : Board) (bootInfo : Addr) (kver : String) (isrStubTable : Addr) (m : Computer) :
    Boot.HasRootPointer i ∧ ∀ t m',
      Task.Performs (main kver isrStubTable b.idt bootInfo) t →
      Follows (Computer.running (b.holding i bootInfo)) t m m' →
      ∀ e ∈ t, MakesUse (b.holding i bootInfo).mem (.ofBoot i) e.op := by
  have root : Boot.HasRootPointer i :=
    Prog.HaltsOnly.runs run (Boot.efiMain_enters imageHandle systemTable garbage) rfl
  refine ⟨root, fun t m' performs follows => ?_⟩
  have same : BootInfo.read (b.holding i bootInfo).mem bootInfo = .ofBoot i :=
    BootInfo.read_write i b.mem bootInfo
  have found : (BootInfo.read (b.holding i bootInfo).mem bootInfo).xsdpTable ≠ 0 := by
    rw [same]
    exact root
  have uses := main_uses kver isrStubTable b.idt found
  rw [same] at uses
  exact (Task.Obeys.performed (running_answered _ _) performs uses follows trivial).1

theorem willingRun_handsOver : ∃ entry i, Boot.willingRun.ended = .error (.enterKernel entry i) ∧
    Boot.HasRootPointer i ∧ ∀ t m',
      Task.Performs (main "0.0.0" 0x101000 Computer.quietBoard.idt 0x5000) t →
      Follows (Computer.running (Computer.quietBoard.holding i 0x5000)) t Computer.firmwareComputer
        m' →
      ∀ e ∈ t, MakesUse (Computer.quietBoard.holding i 0x5000).mem (.ofBoot i) e.op :=
  ⟨_, _, rfl, efiMain_handsOver 0x10 ⟨1, 0x4000⟩ ⟨⟨0, 0⟩, (0, 0), 0⟩ Boot.willingRun.runs
    Computer.quietBoard 0x5000 "0.0.0" 0x101000 Computer.firmwareComputer⟩

end Flosp.Kernel
