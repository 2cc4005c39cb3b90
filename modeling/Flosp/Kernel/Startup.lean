import Flosp.Kernel.Walk

/-! What `main` performs, whatever it is answered. -/

namespace Flosp.Kernel

open Interaction

/-- Nothing is logged as critical, and the timer is not enabled. -/
def Plain : Op → Prop
  | .console c => c.Quiet
  | .enableLapicTimer => False
  | _ => True

/-- Neither the screen nor the ACPI tables are used, but through calls of drivers. -/
def Ordinary : KernelOp → Prop
  | .driver o => Plain o
  | .initializeVideo _ => False
  | .kscrollDown => False
  | .acpiVcheck _ => False
  | .acpiCcheck _ => False
  | .acpiInit _ => False
  | _ => True

theorem idtInit_plain {P : DriverEvent → Prop} (isrStubTable base : Addr) (idt : Idt) :
    (idtInit isrStubTable base idt).Ends P Plain fun _ => True := by
  have debug {α : Type} {msg : String} {f : Unit → Driver α} {Q : α → Prop}
      (rest : (f ()).Ends P Plain Q) : (logDebug msg >>= f).Ends P Plain Q :=
    ends_op (ConsoleCall.debug_quiet msg) fun _ => rest
  have descriptors (turns : Nat) (vect : BitVec 8) (idt : Idt) :
      (setDescriptors isrStubTable turns vect idt).Ends P Plain fun _ => True :=
    setDescriptors_ends turns (fun _ _ => trivial) idt
  apply debug
  apply (descriptors 32 0 idt).bind
  intro idt _
  apply (descriptors 16 32 idt).bind
  intro idt _
  apply debug
  refine ⟨trivial, fun _ _ => ⟨trivial, fun _ _ => ?_⟩⟩
  apply debug
  refine ⟨trivial, fun _ _ => ?_⟩
  apply debug
  exact ⟨trivial, fun _ _ => trivial⟩

/-- What `main` may do outside of `timers_init`, where the root pointer that it reads is as `known`
says. -/
structure AllowsStartup (P : KernelEvent → Prop) (A : KernelOp → Prop) (bootInfo : Addr)
    (known : Addr → Prop) : Prop where
  ordinary : ∀ o, Ordinary o → A o
  video : A (.initializeVideo (bootInfo + videoModeInfoOffset))
  root : ∀ v : Addr, P ⟨.driver (.load (bootInfo + xsdpTableOffset) 8), v⟩ → known v
  missing : known 0 → A (.driver (.console (.kernLog 5 "Fatal: Invalid ACPI XSDP address")))
  version : ∀ v, known v → A (.acpiVcheck v)
  checksum : ∀ v, known v → A (.acpiCcheck v)
  tables : ∀ v, known v → A (.acpiInit v)
  unsupported : A (.driver (.console (.kernLog 5 "APIC Not Supported")))
  frozen : A (.driver (.console (.kernLog 5 "CPU Frozen")))

/-- What is known at a stage: `R` after the calibration. -/
def knownAt (P : KernelEvent → Prop) (known : Addr → Prop) (R : Prop) : Stage → Prop
  | .looking (some xsdpTable) => known xsdpTable
  | .timers _ tables => P ⟨.getAcpiTables, tables⟩
  | .ticking => R
  | _ => True

namespace AllowsStartup

variable {P : KernelEvent → Prop} {A : KernelOp → Prop} {bootInfo : Addr} {known : Addr → Prop}
  {α : Type} {R : Prop} (allows : AllowsStartup P A bootInfo known)

include allows

theorem op_obeys {o : KernelOp} (ordinary : Ordinary o) {Q : Prop} (holds : Q) :
    (perform o).Obeys P A fun _ => Q :=
  ⟨allows.ordinary o ordinary, fun _ _ => holds⟩

theorem driver_obeys {p : Driver α} (ends : p.Ends (fun _ => True) Plain fun _ => True) {Q : Prop}
    (holds : Q) : (driver p).Obeys P A fun _ => Q :=
  (ends.obeys.embed (fun o plain => allows.ordinary (.driver o) plain) fun _ _ _ => trivial).mono
    fun _ _ => holds

theorem kernelFreeze_obeys : (kernelFreeze : KernelTask α).Obeys P A fun _ => False := by
  refine ⟨allows.frozen, fun _ _ => ?_⟩
  apply Task.Obeys.iterate (I := fun _ => True) _ trivial
  intro _ _
  exact ⟨allows.ordinary .cli trivial, fun _ _ => ⟨allows.ordinary .hlt trivial, fun _ _ => trivial⟩⟩

theorem haltForever_obeys : (haltForever : KernelTask α).Obeys P A fun _ => False := by
  apply Task.Obeys.iterate (I := fun _ => True) _ trivial
  intro _ _
  exact ⟨allows.ordinary .hlt trivial, fun _ _ => trivial⟩

theorem checkApic_obeys : checkApic.Obeys P A fun _ => True := by
  refine ⟨allows.ordinary (.cpuid 1) trivial, fun features _ => ?_⟩
  change Task.Obeys P A (if _ then _ else _) _
  split
  · refine ⟨allows.unsupported, fun _ _ => ?_⟩
    exact allows.kernelFreeze_obeys.mono fun _ never => never.elim
  · trivial

theorem walk (isrStubTable idt : Addr)
    (timers : ∀ tables lapicAddr, P ⟨.getAcpiTables, tables⟩ →
      (driver (timersInit tables lapicAddr Hpet.loaded)).Obeys P A fun _ => R)
    (scrolled : R → A .kscrollDown) :
    Walk (.obeying P A) isrStubTable idt bootInfo True (knownAt P known R) where
  prints _ c quiet here := allows.driver_obeys (ends_last (o := .console c) quiet) here
  video _ := ⟨allows.video, fun _ _ => trivial⟩
  gdt _ := allows.op_obeys (o := .gdtInitAsm) trivial trivial
  idt _ := allows.driver_obeys (idtInit_plain isrStubTable idt Idt.loaded) trivial
  root _ _ := ⟨allows.ordinary (.driver (.load _ 8)) trivial, fun v read => allows.root v read⟩
  missing f Q here := by
    refine ⟨allows.missing here, fun _ _ => ?_⟩
    exact allows.kernelFreeze_obeys.bind fun _ never => never.elim
  version v here := ⟨allows.version v here, fun _ _ => here⟩
  checksum v here := ⟨allows.checksum v here, fun _ _ => here⟩
  tables v here := ⟨allows.tables v here, fun _ _ => trivial⟩
  apic _ := allows.checkApic_obeys
  pics _ := allows.driver_obeys (disablePic8259_ends fun _ _ => trivial) trivial
  address _ := allows.op_obeys (o := .getLapicAddressAcpi) trivial trivial
  saved _ _ := allows.op_obeys (o := .setLapicAddr _) trivial trivial
  base _ _ := allows.op_obeys (o := .enableLapicBase) trivial trivial
  readSpurious _ _ := allows.driver_obeys (ends_last (o := .loadVolatile _ 4) trivial) trivial
  writeSpurious _ _ _ := allows.driver_obeys (ends_last (o := .storeVolatile _ 4 _) trivial) trivial
  told _ _ := ⟨allows.ordinary .getAcpiTables trivial, fun _ told => told⟩
  calibrated lapicAddr tables told := timers tables lapicAddr told
  scrolled here := ⟨scrolled here, fun _ _ => here⟩
  number _ here := allows.op_obeys (o := .kprintNum _) trivial here

/-- All but `timers_init` is the same for all. -/
theorem main_obeys (kver : String) (isrStubTable idt : Addr)
    (timers : ∀ tables lapicAddr, P ⟨.getAcpiTables, tables⟩ →
      (driver (timersInit tables lapicAddr Hpet.loaded)).Obeys P A fun _ => R)
    (scrolled : R → A .kscrollDown) :
    (main kver isrStubTable idt bootInfo).Obeys P A fun _ => False := by
  rw [main_eq]
  apply Task.Obeys.bind ((allows.walk isrStubTable idt timers scrolled).untilHalt_walk kver trivial)
  intro _ _
  exact allows.haltForever_obeys

end AllowsStartup

end Flosp.Kernel
