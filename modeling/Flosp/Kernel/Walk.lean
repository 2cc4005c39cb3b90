import Flosp.Kernel.DriverRuns
import Flosp.Kernel.Main
import Flosp.Lib.TaskLogic

/-! `main` from one part to the next, up to its last loop: what is shown of the parts, in any logic,
holds of the whole. -/

namespace Flosp.Kernel

open Interaction

/-- `main` up to its last loop. -/
def untilHalt (kver : String) (isrStubTable idt bootInfo : Addr) : KernelTask Unit := do
  perform (.initializeVideo (bootInfo + videoModeInfoOffset))
  kernelLog 2 ("Kernel flosp-" ++ kver ++ " loaded")
  gdtInit
  kernelLog 2 "GDT initialized"
  let _ ← driver (idtInit isrStubTable idt Idt.loaded)
  kernelLog 2 "IDT initialized and interrupts enabled"
  findTables bootInfo
  startTimers
  perform .kscrollDown
  enterSysprompt

theorem main_eq (kver : String) (isrStubTable idt bootInfo : Addr) :
    main kver isrStubTable idt bootInfo =
      untilHalt kver isrStubTable idt bootInfo >>= fun _ => haltForever := by
  have regroup {α β : Type} {p : KernelTask α} {f : α → KernelTask β} {g : β → KernelTask Unit}
      {h : α → KernelTask Unit} (rest : ∀ a, (f a >>= g) = h a) : (p >>= f >>= g) = (p >>= h) :=
    (Task.bind_assoc p f g).trans (congrArg (p >>= ·) (funext rest))
  symm
  exact regroup fun _ => regroup fun _ => regroup fun _ => regroup fun _ => regroup fun _ =>
    regroup fun _ => regroup fun _ => regroup fun _ => regroup fun _ => rfl

/-- How far `main` has come, with what it has been told. -/
inductive Stage where
  /-- the screen is set up -/
  | shown
  | gdtLoaded
  /-- interrupts are let in, and the root pointer has been read or not -/
  | looking (xsdpTable : Option Addr)
  /-- the ACPI tables are found -/
  | listed
  | located (lapicAddr : Addr)
  /-- `timer_handler` knows where the LAPIC is -/
  | lapic (lapicAddr : Addr)
  | timers (lapicAddr : Addr) (tables : AcpiTables)
  /-- the timer is calibrated -/
  | ticking

/-- The parts of `main` lead from stage to stage. -/
structure Walk (L : TaskLogic KernelOp KernelReply) (isrStubTable idt bootInfo : Addr)
    (start : L.Assertion) (reached : Stage → L.Assertion) : Prop where
  prints : ∀ stage (c : ConsoleCall), c.Quiet →
    L.Triple (reached stage) (driver (console c)) fun _ => reached stage
  video : L.Triple start (perform (.initializeVideo (bootInfo + videoModeInfoOffset)))
    fun _ => reached .shown
  gdt : L.Triple (reached .shown) (perform .gdtInitAsm) fun _ => reached .gdtLoaded
  idt : L.Triple (reached .gdtLoaded) (driver (idtInit isrStubTable idt Idt.loaded))
    fun _ => reached (.looking none)
  root : ∀ known, L.Triple (reached (.looking known)) (driver (loadAt (bootInfo + xsdpTableOffset) 8))
    fun xsdpTable => reached (.looking (some xsdpTable))
  missing : ∀ (f : Unit → KernelTask Unit) (Q : Unit → L.Assertion),
    L.Triple (reached (.looking (some 0)))
      (kernelLog 5 "Fatal: Invalid ACPI XSDP address" >>= fun _ => kernelFreeze >>= f) Q
  version : ∀ xsdpTable, L.Triple (reached (.looking (some xsdpTable)))
    (perform (.acpiVcheck xsdpTable)) fun _ => reached (.looking (some xsdpTable))
  checksum : ∀ xsdpTable, L.Triple (reached (.looking (some xsdpTable)))
    (perform (.acpiCcheck xsdpTable)) fun _ => reached (.looking (some xsdpTable))
  tables : ∀ xsdpTable, L.Triple (reached (.looking (some xsdpTable)))
    (perform (.acpiInit xsdpTable)) fun _ => reached .listed
  apic : L.Triple (reached .listed) checkApic fun _ => reached .listed
  pics : L.Triple (reached .listed) (driver disablePic8259) fun _ => reached .listed
  address : L.Triple (reached .listed) (perform .getLapicAddressAcpi)
    fun lapicAddr => reached (.located lapicAddr)
  saved : ∀ lapicAddr, L.Triple (reached (.located lapicAddr)) (perform (.setLapicAddr lapicAddr))
    fun _ => reached (.lapic lapicAddr)
  base : ∀ lapicAddr, L.Triple (reached (.lapic lapicAddr)) (perform .enableLapicBase)
    fun _ => reached (.lapic lapicAddr)
  readSpurious : ∀ lapicAddr, L.Triple (reached (.lapic lapicAddr))
    (driver (lapicReadReg (lapicAddr + spuriousVector))) fun _ => reached (.lapic lapicAddr)
  writeSpurious : ∀ lapicAddr v, L.Triple (reached (.lapic lapicAddr))
    (driver (lapicWriteReg (lapicAddr + spuriousVector) v)) fun _ => reached (.lapic lapicAddr)
  told : ∀ lapicAddr, L.Triple (reached (.lapic lapicAddr)) (perform .getAcpiTables)
    fun tables => reached (.timers lapicAddr tables)
  calibrated : ∀ lapicAddr tables, L.Triple (reached (.timers lapicAddr tables))
    (driver (timersInit tables lapicAddr Hpet.loaded)) fun _ => reached .ticking
  scrolled : L.Triple (reached .ticking) (perform .kscrollDown) fun _ => reached .ticking
  number : ∀ n, L.Triple (reached .ticking) (perform (.kprintNum n)) fun _ => reached .ticking

namespace Walk

variable {L : TaskLogic KernelOp KernelReply} {isrStubTable idt bootInfo : Addr}
  {start : L.Assertion} {reached : Stage → L.Assertion}
  (walk : Walk L isrStubTable idt bootInfo start reached)

include walk

theorem log (stage : Stage) {filter : BitVec 8} (msg : String) (low : filter ≠ 5) :
    L.Triple (reached stage) (kernelLog filter msg) fun _ => reached stage :=
  walk.prints stage (.kernLog filter msg) low

theorem gdtInit_walk : L.Triple (reached .shown) gdtInit fun _ => reached .gdtLoaded :=
  L.bind (walk.log _ _ (by decide)) fun _ => walk.gdt

theorem findTables_walk :
    L.Triple (reached (.looking none)) (findTables bootInfo) fun _ => reached .listed := by
  apply L.bind (walk.root none)
  intro xsdpTable
  split
  · next null =>
      subst null
      exact walk.missing _ _
  · apply L.bind (walk.root _)
    intro xsdpTable
    apply L.bind (walk.version xsdpTable)
    intro _
    apply L.bind (walk.root _)
    intro xsdpTable
    apply L.bind (walk.checksum xsdpTable)
    intro _
    apply L.bind (walk.root _)
    intro xsdpTable
    apply L.bind (walk.tables xsdpTable)
    intro _
    exact walk.log .listed _ (by decide)

theorem enableLapic_walk :
    L.Triple (reached .listed) enableLapic fun lapicAddr => reached (.lapic lapicAddr) := by
  apply L.bind (walk.log .listed _ (by decide))
  intro _
  apply L.bind walk.apic
  intro _
  apply L.bind (walk.log .listed _ (by decide))
  intro _
  apply L.bind walk.pics
  intro _
  apply L.bind walk.address
  intro (lapicAddr : Addr)
  apply L.bind (walk.saved lapicAddr)
  intro _
  apply L.bind (walk.prints (.lapic lapicAddr) (.kprint _) trivial)
  intro _
  apply L.bind (walk.prints (.lapic lapicAddr) (.kprintHex _ _) trivial)
  intro _
  apply L.bind (walk.prints (.lapic lapicAddr) (.kputchar _) trivial)
  intro _
  apply L.bind (walk.log (.lapic lapicAddr) _ (by decide))
  intro _
  apply L.bind (walk.base lapicAddr)
  intro _
  apply L.bind (walk.log (.lapic lapicAddr) _ (by decide))
  intro _
  apply L.bind (walk.readSpurious lapicAddr)
  intro spurious
  apply L.bind (walk.writeSpurious lapicAddr _)
  intro _
  exact L.ret lapicAddr fun lapicAddr => reached (.lapic lapicAddr)

theorem startTimers_walk : L.Triple (reached .listed) startTimers fun _ => reached .ticking := by
  apply L.bind walk.enableLapic_walk
  intro lapicAddr
  apply L.bind (walk.log (.lapic lapicAddr) _ (by decide))
  intro _
  apply L.bind (walk.log (.lapic lapicAddr) _ (by decide))
  intro _
  apply L.bind (walk.told lapicAddr)
  intro (tables : AcpiTables)
  apply L.bind (walk.calibrated lapicAddr tables)
  intro _
  exact L.ret () fun _ => reached .ticking

/-- By induction on the numbers left. -/
theorem printNumbers_walk (turns : Nat) (i : BitVec 32) :
    L.Triple (reached .ticking) (printNumbers turns i) fun _ => reached .ticking := by
  induction turns generalizing i with
  | zero => exact L.ret () fun _ => reached .ticking
  | succ turns ih =>
      apply L.bind (walk.number _)
      intro _
      apply L.bind (walk.prints .ticking (.kputchar _) trivial)
      intro _
      exact ih (i + 1)

theorem enterSysprompt_walk :
    L.Triple (reached .ticking) enterSysprompt fun _ => reached .ticking :=
  L.bind (walk.prints .ticking (.kprint _) trivial) fun _ => walk.printNumbers_walk 1000 0

/-- From its entry on `main` comes to its last loop, if it comes through its parts. -/
theorem untilHalt_walk (kver : String) :
    L.Triple start (untilHalt kver isrStubTable idt bootInfo) fun _ => reached .ticking := by
  apply L.bind walk.video
  intro _
  apply L.bind (walk.log .shown _ (by decide))
  intro _
  apply L.bind walk.gdtInit_walk
  intro _
  apply L.bind (walk.log .gdtLoaded _ (by decide))
  intro _
  apply L.bind walk.idt
  intro _
  apply L.bind (walk.log (.looking none) _ (by decide))
  intro _
  apply L.bind walk.findTables_walk
  intro _
  apply L.bind walk.startTimers_walk
  intro _
  apply L.bind walk.scrolled
  intro _
  exact walk.enterSysprompt_walk

end Walk

end Flosp.Kernel
