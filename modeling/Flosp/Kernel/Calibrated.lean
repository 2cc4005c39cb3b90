import Flosp.Kernel.PcDrivers

/-! `main` on a PC that has an HPET which `hpet_init` takes: the way to its last loop. -/

namespace Flosp.Kernel

open ByteMemory Interaction

/-- The memory in which `main` is entered, with the tables that the board is described by. -/
structure Bootable (b : ClockedBoard) (s : Screen) (bootInfo : Addr) : Prop where
  video : BootVideoModeInfo.read b.mem (bootInfo + videoModeInfoOffset) = s.mode
  paged : PagedScreen s b.cr3 b.mem
  root : load b.mem (bootInfo + xsdpTableOffset) 8 ≠ 0
  supported : Supported (Spared s b.cr3 b.mem) b.mem (load b.mem (bootInfo + xsdpTableOffset) 8)
    b.acpiTables b.lapicAddr
  accepts : b.acpiTables.AcceptsHpet b.mem
  rootKept : ∀ x, Within x (bootInfo + xsdpTableOffset) 8 → Spared s b.cr3 b.mem x
  hpetKept : ∀ x, Within x b.acpiTables.hpet 52 → Spared s b.cr3 b.mem x
  registersKept : ∀ x, Within x (b.acpiTables.hpetBase b.mem) 8 → Spared s b.cr3 b.mem x

structure Pc.Entered (b : ClockedBoard) (p : Pc) : Prop where
  closed : p.computer.interruptFlag = false
  loaded : p.acpi = Acpi.loaded (Console.loaded ⟨b.mem, []⟩)

/-! The stages of `main`. -/

namespace Stage

def Listed : Stage → Prop
  | .shown => False
  | .gdtLoaded => False
  | .looking _ => False
  | _ => True

def Computing : Stage → Computer → Prop
  | .shown => fun _ => True
  | .gdtLoaded => fun _ => True
  | .ticking => Ticking
  | _ => (·.interruptFlag = true)

/-- The main counter is not read before the calibration. -/
def Counted (counter : Nat) : Stage → Nat → Prop
  | .ticking => fun _ => True
  | _ => (· = counter)

def Told (b : ClockedBoard) (bootInfo : Addr) : Stage → Prop
  | .looking (some xsdpTable) => xsdpTable = load b.mem (bootInfo + xsdpTableOffset) 8
  | .located lapicAddr => lapicAddr = b.lapicAddr
  | .lapic lapicAddr => lapicAddr = b.lapicAddr
  | .timers lapicAddr tables => lapicAddr = b.lapicAddr ∧ tables = b.acpiTables
  | _ => True

def Reached (b : ClockedBoard) (s : Screen) (bootInfo : Addr) (counter : Nat) (stage : Stage)
    (p : Pc) : Prop :=
  stage.Told b bootInfo ∧ p.Holds b s stage.Listed (stage.Counted counter) stage.Computing

theorem lasting (b : Board) (stage : Stage) : Lasting b stage.Computing := by
  cases stage with
  | shown => exact lasting_true
  | gdtLoaded => exact lasting_true
  | ticking => exact lasting_ticking
  | _ => exact lasting_flag

end Stage

section Rules

variable {b : ClockedBoard} {s : Screen} {bootInfo : Addr} {counter : Nat} {p : Pc} {α : Type}

/-- A part of `main` without a loop goes on from what is known, and tells more. -/
theorem stage_ends {stage : Stage} {q : KernelTask α} {Q : α → Prop}
    (ends : q.Ends (Informed b s stage.Listed) (AloofMain b) Q)
    (reached : stage.Reached b s bootInfo counter p) :
    Task.Ensures (Pc.running b) q p fun a p' => Q a ∧ stage.Reached b s bootInfo counter p' := by
  obtain ⟨told, holds⟩ := reached
  apply (Pc.ends_ensures (stage.lasting b.toBoard) ends holds).mono
  rintro a p' ⟨here, holds⟩
  exact ⟨here, told, holds⟩

theorem stage_quiet {stage : Stage} {q : KernelTask α}
    (ends : q.Ends (Informed b s stage.Listed) (AloofMain b) fun _ => True)
    (reached : stage.Reached b s bootInfo counter p) :
    Task.Ensures (Pc.running b) q p fun _ p' => stage.Reached b s bootInfo counter p' :=
  (stage_ends ends reached).mono fun _ _ ended => ended.2

/-- The call that comes through wherever memory is kept. -/
theorem stage_acpi (listed : Prop) {o : KernelOp} {xsdpTable : Addr}
    (reached : (Stage.looking (some xsdpTable)).Reached b s bootInfo counter p)
    (still : ∀ r m m', cpuStep b.toBoard ⟨o, r⟩ m m' ↔ m' = m)
    (uncounted : ∀ r c c', b.Counts ⟨o, r⟩ c c' ↔ c' = c) (silent : ∀ r, ReportsApic ⟨o, r⟩)
    (through : ∀ a : Acpi, Intact s (Spared s b.cr3 b.mem) b.mem a.console → ∃ a',
      (∃ r, acpiStep b.cr3 ⟨o, r⟩ a a') ∧ (∀ r a'', acpiStep b.cr3 ⟨o, r⟩ a a'' → a'' = a') ∧
      Intact s (Spared s b.cr3 b.mem) b.mem a'.console ∧
      (listed → a'.acpiTables = b.acpiTables ∧ getLapicAddressAcpi a' = b.lapicAddr)) :
    Task.Ensures (Pc.running b) (perform o) p fun _ p' =>
      p'.Holds b s listed (· = counter) (·.interruptFlag = true) := by
  apply Pc.op_ensures (fun _ _ interrupt => interrupt.holds lasting_flag)
    (fun _ _ _ interrupt => interrupt.holds lasting_flag) _ _ reached.2
  · intro u here
    obtain ⟨a, ⟨r, goes⟩, -⟩ := through u.acpi here.intact
    have step : Pc.Step b ⟨o, r⟩ u ⟨u.computer, a, u.counter⟩ :=
      ⟨goes, (still r _ _).mpr rfl, (uncounted r _ _).mpr rfl, silent r⟩
    exact ⟨r, _, step.running⟩
  · intro r u u' step here
    obtain ⟨a, -, only, intact, found⟩ := through u.acpi here.intact
    have same := only r _ step.acpi
    constructor
    · rw [same]
      exact intact
    · rw [same]
      exact found
    · rw [(uncounted r _ _).mp step.counter]
      exact here.counter
    · rw [(still r _ _).mp step.cpu]
      exact here.computer

end Rules

/-! The timers. -/

section Timers

variable {b : ClockedBoard} {s : Screen} {p : Pc} {bootInfo : Addr}


def LoadsSpared (b : ClockedBoard) (s : Screen) : Op → Prop
  | .load a n => n ≤ 2 ^ 64 ∧ ∀ x, Within x a n → Spared s b.cr3 b.mem x
  | _ => True

theorem quiet_sized {c : ConsoleCall} (quiet : c.Quiet) : c.Sized := by
  cases c with
  | kprintBin n size => exact quiet.elim
  | _ => trivial

theorem Bootable.field (bootable : Bootable b s bootInfo) (o n : Nat) (inside : o + n ≤ 52) :
    LoadsSpared b s (.load (b.acpiTables.hpet + BitVec.ofNat 64 o) n) :=
  ⟨by omega, fun x within => bootable.hpetKept x ((within_of_sub (by omega) within).mono inside)⟩

theorem Bootable.finds (bootable : Bootable b s bootInfo) :
    FindsHpet b.acpiTables b.mem (fun e => Informed b s True ⟨.driver e.op, e.reply⟩)
      fun o => Aloof b o ∧ LoadsSpared b s o where
  prints _ quiet := ⟨quiet_sized quiet, trivial⟩
  pitMode _ := ⟨trivial, trivial⟩
  pitData _ := ⟨trivial, trivial⟩
  answered _ _ _ allowed answer := answer allowed.2.1 allowed.2.2
  base := ⟨trivial, bootable.field 44 8 (by decide)⟩
  addressSpace := ⟨trivial, bootable.field 40 1 (by decide)⟩
  revision := ⟨trivial, bootable.field 8 1 (by decide)⟩
  capabilities := ⟨trivial, by decide, bootable.registersKept⟩
  readConfig := by
    refine ⟨?_, trivial⟩
    simp [Aloof, ClockedBoard.mainCounter, hpetOffsetGeneralConfiguration,
      hpetOffsetMainCounterValue]
  writeConfig _ := ⟨trivial, trivial⟩

theorem timersInit_enables {counter : Nat} (bootable : Bootable b s bootInfo)
    (calibrates : b.Calibrates counter)
    (holds : p.Holds b s True (· = counter) (·.interruptFlag = true)) :
    Task.Ensures (Pc.runningDriver b) (timersInit b.acpiTables b.lapicAddr Hpet.loaded) p
      fun _ p' => p'.Holds b s True (fun _ => True) Ticking := by
  have found := AcpiTables.foundHpet_accepted bootable.accepts
  have base : (b.acpiTables.foundHpet b.mem).hpetBaseAddr ≠ 0 :=
    AcpiTables.foundHpet_base_ne_iff.mpr bootable.accepts
  have before := (bootable.finds.beforeWait_ends b.lapicAddr (fun _ => ⟨trivial, trivial⟩)
    fun _ => ⟨trivial, trivial⟩).mono (fun _ kept => kept) (fun _ both => both.1) fun _ same => same
  rw [timersInit_eq]
  apply (Pc.driver_ends lasting_flag before holds).bind
  rintro _ p ⟨rfl, holds⟩
  rw [calibrationWait, if_pos base]
  apply (hpetSleep_ends calibrates lasting_flag (congrArg Hpet.hpetMainCntrAddr found)
    (congrArg Hpet.hpetPeriod found) holds).bind
  intro _ p holds
  apply (startLapicTimer_enables calibrates.apart holds).bind
  intro _ p holds
  exact .ret holds

end Timers

/-! `main` on the PC. -/

section Main

variable {b : ClockedBoard} {s : Screen} {bootInfo : Addr} {counter : Nat} {listed : Prop}

theorem ends_kernel {o : KernelOp} (aloof : AloofMain b o) :
    (perform o).Ends (Informed b s listed) (AloofMain b) fun _ => True :=
  ⟨aloof, fun _ _ => trivial⟩

theorem ends_embed {q : Driver Unit} {Q : Unit → Prop}
    (ends : q.Ends (fun e => Informed b s listed ⟨.driver e.op, e.reply⟩) (Aloof b) Q) :
    (driver q).Ends (Informed b s listed) (AloofMain b) Q :=
  ends.embed (fun _ aloof => aloof) fun _ _ informed => informed

def Pc.Starts (b : ClockedBoard) (counter : Nat) (p : Pc) : Prop :=
  p.Entered b ∧ p.counter = counter

/-- With interrupts shut out nothing is printed. -/
theorem Pc.Interrupt.starts {p p' : Pc} (interrupt : Interrupt b p p')
    (start : p.Starts b counter) : p'.Starts b counter := by
  obtain ⟨⟨closed, loaded⟩, rfl⟩ := start
  obtain ⟨m, a, c⟩ := p'
  obtain ⟨t, console, interrupts, prints, acpi, same⟩ := interrupt
  have flag := (interrupt_keeps ⟨t, interrupts⟩).1
  cases interrupts with
  | timerExpires armed =>
      cases prints
      exact ⟨⟨flag.trans closed, acpi.trans loaded⟩, same⟩
  | lapic flag' presents handles => exact absurd (closed.symm.trans flag') Bool.false_ne_true
  | pics flag' delivers handles => exact absurd (closed.symm.trans flag') Bool.false_ne_true

theorem video_ensures (bootable : Bootable b s bootInfo) {p : Pc} (start : p.Starts b counter) :
    Task.Ensures (Pc.running b) (perform (.initializeVideo (bootInfo + videoModeInfoOffset))) p
      fun _ p' => Stage.shown.Reached b s bootInfo counter p' := by
  obtain ⟨k, shows, intact⟩ := initializeVideo_kept (m := ⟨b.mem, []⟩) bootable.paged
  apply Pc.op_ensures (fun _ _ interrupt => interrupt.starts) _ _ _ start
  · rintro r u u' interrupt ⟨told, holds⟩
    exact ⟨told, interrupt.holds lasting_true holds⟩
  · rintro u ⟨⟨closed, loaded⟩, -⟩
    have step : Pc.Step b ⟨.initializeVideo (bootInfo + videoModeInfoOffset), ()⟩ u
        ⟨u.computer, { u.acpi with console := k }, u.counter⟩ := by
      refine ⟨⟨k, ?_, rfl⟩, rfl, rfl, trivial⟩
      rw [loaded]
      exact bootable.video.symm ▸ shows
    exact ⟨_, _, step.running⟩
  · rintro r u u' step ⟨⟨closed, loaded⟩, counted⟩
    obtain ⟨console, initializes, same⟩ := step.acpi
    rw [loaded] at initializes
    have mode : BootVideoModeInfo.read (Acpi.loaded (Console.loaded ⟨b.mem, []⟩)).machine.mem
        (bootInfo + videoModeInfoOffset) = s.mode := bootable.video
    rw [mode] at initializes
    have drawn : k = console := Except.ok.inj (shows.symm.trans initializes)
    refine ⟨trivial, ?_, False.elim, step.counter.trans counted, trivial⟩
    rw [same, ← drawn]
    exact intact

theorem root_ends (bootable : Bootable b s bootInfo) (listed : Prop) :
    (driver (loadAt (bootInfo + xsdpTableOffset) 8)).Ends (Informed b s listed) (AloofMain b)
      (· = load b.mem (bootInfo + xsdpTableOffset) 8) :=
  ⟨trivial, fun _ informed => informed (by decide) bootable.rootKept⟩

theorem address_ends (b : ClockedBoard) (s : Screen) :
    (perform .getLapicAddressAcpi).Ends (Informed b s True) (AloofMain b) (· = b.lapicAddr) :=
  ⟨trivial, fun _ informed => informed trivial⟩

theorem tables_ends (b : ClockedBoard) (s : Screen) :
    (perform .getAcpiTables).Ends (Informed b s True) (AloofMain b) (· = b.acpiTables) :=
  ⟨trivial, fun _ informed => informed trivial⟩

theorem checkApic_ends (b : ClockedBoard) (s : Screen) (listed : Prop) :
    checkApic.Ends (Informed b s listed) (AloofMain b) fun _ => True := by
  refine ⟨trivial, fun features reported => ?_⟩
  change (if _ then _ else _ : KernelTask Unit).Ends _ _ _
  rw [if_neg reported]
  trivial

/-- A check of the root pointer that comes back wherever memory is kept. -/
theorem check_ensures {o : KernelOp} {xsdpTable : Addr} {check : Console → Outcome Console}
    (reply : KernelReply o) {p : Pc}
    (reached : (Stage.looking (some xsdpTable)).Reached b s bootInfo counter p)
    (still : ∀ r m m', cpuStep b.toBoard ⟨o, r⟩ m m' ↔ m' = m)
    (uncounted : ∀ r c c', b.Counts ⟨o, r⟩ c c' ↔ c' = c) (silent : ∀ r, ReportsApic ⟨o, r⟩)
    (checks : ∀ r a a', acpiStep b.cr3 ⟨o, r⟩ a a' ↔ ∃ console,
      check a.console = .ok console ∧ a' = { a with console })
    (through : ∀ k, Intact s (Spared s b.cr3 b.mem) b.mem k →
      ∃ k', check k = .ok k' ∧ Intact s (Spared s b.cr3 b.mem) b.mem k') :
    Task.Ensures (Pc.running b) (perform o) p fun _ p' =>
      (Stage.looking (some xsdpTable)).Reached b s bootInfo counter p' := by
  apply (stage_acpi False reached still uncounted silent _).mono
  · intro _ p' holds
    exact ⟨reached.1, holds⟩
  · intro a intact
    obtain ⟨k, passes, kept⟩ := through a.console intact
    refine ⟨{ a with console := k }, ⟨reply, (checks _ _ _).mpr ⟨k, passes, rfl⟩⟩, ?_, kept,
      False.elim⟩
    intro r a' now
    obtain ⟨k', passes', rfl⟩ := (checks _ _ _).mp now
    rw [Except.ok.inj (passes.symm.trans passes')]

theorem acpiInit_ensures (bootable : Bootable b s bootInfo) {xsdpTable : Addr} {p : Pc}
    (reached : (Stage.looking (some xsdpTable)).Reached b s bootInfo counter p) :
    Task.Ensures (Pc.running b) (perform (.acpiInit xsdpTable)) p fun _ p' =>
      Stage.listed.Reached b s bootInfo counter p' := by
  have root : xsdpTable = load b.mem (bootInfo + xsdpTableOffset) 8 := reached.1
  apply (stage_acpi True (o := .acpiInit xsdpTable) reached (fun _ _ _ => .rfl)
    (fun _ _ _ => .rfl) (fun _ => trivial) _).mono
  · intro _ p' holds
    exact ⟨trivial, holds⟩
  · intro a intact
    obtain ⟨a', passes, kept, tables, address⟩ :=
      acpiInit_kept Spared.untouched (root ▸ bootable.supported) intact
    refine ⟨a', ⟨(), passes⟩, ?_, kept, fun _ => ⟨tables, address⟩⟩
    intro r a'' passes'
    exact Except.ok.inj (passes'.symm.trans passes)

theorem bootable_walk (bootable : Bootable b s bootInfo) (calibrates : b.Calibrates counter)
    (isrStubTable : Addr) :
    Walk (.ensuring (Pc.running b)) isrStubTable b.idt bootInfo (Pc.Starts b counter)
      (Stage.Reached b s bootInfo counter) where
  prints stage c quiet p reached :=
    stage_quiet (ends_embed (ends_last (o := .console c) (quiet_sized quiet))) reached
  video p start := video_ensures bootable start
  gdt p (reached : Stage.shown.Reached b s bootInfo counter p) :=
    stage_quiet (ends_kernel (o := .gdtInitAsm) trivial) reached
  idt p reached := (idtInit_opens isrStubTable b.idt Idt.loaded reached.2).embed.mono
    fun _ _ holds => ⟨trivial, holds⟩
  root known p reached := (stage_ends (root_ends bootable _) reached).mono
    fun _ _ read => ⟨read.1, read.2.2⟩
  missing f Q p reached := absurd reached.1.symm bootable.root
  version xsdpTable p reached :=
    check_ensures (o := .acpiVcheck xsdpTable) () reached (fun _ _ _ => .rfl) (fun _ _ _ => .rfl)
      (fun _ => trivial) (fun _ _ _ => .rfl) fun k intact =>
      acpiVcheck_kept Spared.untouched (reached.1 ▸ bootable.supported) intact
  checksum xsdpTable p reached :=
    check_ensures (o := .acpiCcheck xsdpTable) () reached (fun _ _ _ => .rfl) (fun _ _ _ => .rfl)
      (fun _ => trivial) (fun _ _ _ => .rfl) fun k intact =>
      acpiCcheck_kept Spared.untouched (reached.1 ▸ bootable.supported) intact
  tables xsdpTable p reached := acpiInit_ensures bootable reached
  apic p reached := stage_quiet (checkApic_ends b s _) reached
  pics p reached := stage_quiet (ends_embed (disablePic8259_ends fun _ _ => trivial)) reached
  address p reached := (stage_ends (address_ends b s) reached).mono
    fun _ _ told => ⟨told.1, told.2.2⟩
  saved lapicAddr p (reached : (Stage.located lapicAddr).Reached b s bootInfo counter p) :=
    stage_quiet (ends_kernel (o := .setLapicAddr _) trivial) reached
  base lapicAddr p reached := stage_quiet (ends_kernel (o := .enableLapicBase) trivial) reached
  readSpurious lapicAddr p reached := by
    obtain ⟨rfl, holds⟩ := reached
    have aloof : Aloof b (.loadVolatile (b.lapicAddr + spuriousVector) 4) :=
      readReg_aloof calibrates.apart (by decide)
    apply (Pc.driver_quiet lasting_flag (ends_last aloof) holds).embed.mono
    exact fun _ _ holds => ⟨rfl, holds⟩
  writeSpurious lapicAddr v p reached :=
    stage_quiet (ends_embed (ends_last (o := .storeVolatile _ 4 _) trivial)) reached
  told lapicAddr p reached := (stage_ends (tables_ends b s) reached).mono
    fun _ _ told => ⟨⟨told.2.1, told.1⟩, told.2.2⟩
  calibrated lapicAddr tables p reached := by
    obtain ⟨⟨rfl, rfl⟩, holds⟩ := reached
    exact (timersInit_enables bootable calibrates holds).embed.mono fun _ _ holds => ⟨trivial, holds⟩
  scrolled p reached := stage_quiet (ends_kernel (o := .kscrollDown) trivial) reached
  number n p reached := stage_quiet (ends_kernel (o := .kprintNum n) trivial) reached

end Main

/-! A PC with an HPET of 10 MHz. -/

section Sample

/-- A root pointer with its checksum, an XSDT that lists a FADT, an HPET and a MADT, the
capabilities of the HPET, and what the bootloader leaves. -/
def hpetTables : Memory 64 :=
  let mem : Memory 64 := fun _ => 0
  let mem := store mem 0x110008 (n := 1) 0xAD
  let mem := store mem 0x11000F (n := 1) 2
  let mem := store mem 0x110018 (n := 8) 0x110040
  let mem := store mem 0x110044 (n := 4) 60
  let mem := store mem 0x110064 (n := 8) 0x110080
  let mem := store mem 0x11006C (n := 8) 0x110200
  let mem := store mem 0x110074 (n := 8) 0x111000
  let mem := store mem 0x110080 (n := 4) 0x50434146
  let mem := store mem 0x110200 (n := 4) 0x54455048
  let mem := store mem 0x110208 (n := 1) 1
  let mem := store mem 0x11022C (n := 8) 0xFED00000
  let mem := store mem 0x111000 (n := 4) 0x43495041
  let mem := store mem 0x111004 (n := 4) 44
  let mem := store mem 0x111024 (n := 4) 0xFEE00000
  let mem := store mem 0x120018 (n := 8) 0x2000
  let mem := store mem 0x120020 (n := 8) 0x1000
  let mem := store mem 0x120028 (n := 4) 8
  let mem := store mem 0x12002C (n := 4) 16
  let mem := store mem 0x120030 (n := 4) 8
  let mem := store mem 0x120038 (n := 8) 0x110000
  store mem 0xFED00000 (n := 8) 0x05F5E10000000000

/-- The same behind page tables that map the lowest 512 GiB to themselves. -/
def hpetMemory : Memory 64 := fun x =>
  if x.toNat < 0x102000 then identityMemory x else hpetTables x

def hpetBoard : ClockedBoard where
  mem := hpetMemory
  acpiTables := ⟨0x110000, 0x110040, 0x110080, 0x110200, 0x111000⟩
  lapicAddr := 0xFEE00000
  keyTables := ⟨0x130000, 0x130100⟩
  idt := 0x200000
  cr3 := 0x100000
  width := 32
  gap := 1000

def hpetPc : Pc where
  computer := Computer.firmwareComputer
  acpi := Acpi.loaded (Console.loaded ⟨hpetMemory, []⟩)
  counter := 0

theorem hpetMemory_low {x : Addr} (below : x.toNat < 0x102000) :
    hpetMemory x = identityMemory x := if_pos below

theorem hpetMemory_tables : IdentityTables hpetMemory := by
  intro level va
  rw [← identity_tables level va]
  apply load_congr_within (by decide)
  intro x inside
  apply hpetMemory_low
  obtain ⟨i, short, place⟩ := PageWalk.slot_toNat level va (identityTable_aligned level)
  have table : (identityTable level).toNat ≤ 0x101000 := by
    cases level <;> decide
  rw [within_iff_toNat (by omega)] at inside
  omega

theorem hpetMemory_entry {level : PageLevel} {a x : Addr}
    (held : PageWalk.IsEntry (entries hpetMemory) 0x100000 level a) (inside : Within x a 8) :
    0x100000 ≤ x.toNat ∧ x.toNat < 0x102000 := identity_below hpetMemory_tables held inside

theorem hpetMemory_paged : PagedScreen cellScreen 0x100000 hpetMemory where
  root := by decide
  apart := identity_apart hpetMemory_tables
  clear level a held x inside := cellScreen_untouched (hpetMemory_entry held inside).1
  mapped j below := by
    apply identity_mapped hpetMemory_tables
    have small : j < 512 := below
    have place : cellScreen.mode.framebufferPointer.toNat = 0x2000 := rfl
    rw [BitVec.toNat_add, BitVec.toNat_ofNat, place]
    omega

theorem hpetMemory_spared {x a : Addr} {n : Nat} (inside : Within x a n)
    (above : 0x102000 ≤ a.toNat) (straight : a.toNat + n ≤ 2 ^ 64) :
    Spared cellScreen 0x100000 hpetMemory x := by
  rw [within_iff_toNat straight] at inside
  refine ⟨cellScreen_untouched (by omega), ?_⟩
  rintro a ⟨j, -, level, found⟩ within
  have below := (hpetMemory_entry (PageWalk.leaf_isEntry found).1 within).2
  omega

theorem hpetMemory_xsdt : xsdtOf hpetMemory 0x110000 = 0x110040 := by decide +kernel

theorem hpetMemory_count : listedCount hpetMemory 0x110000 = 3 := by
  have length : load hpetMemory (0x110040 + lengthOffset) 4 = 60 := by decide +kernel
  rw [listedCount, hpetMemory_xsdt, length]
  decide

theorem hpetMemory_listed : listed hpetMemory 0x110000 = [0x110080, 0x110200, 0x111000] := by
  have pointers : sdtPtrs hpetMemory 0x110040 3 = [0x110080, 0x110200, 0x111000] := by
    decide +kernel
  rw [listed, hpetMemory_xsdt, hpetMemory_count]
  exact pointers

theorem hpetMemory_length : madtLength hpetMemory 0x111000 = 44 := by decide +kernel

theorem hpetMemory_supported :
    Supported (Spared cellScreen 0x100000 hpetMemory) hpetMemory 0x110000 hpetBoard.acpiTables
      hpetBoard.lapicAddr where
  root := fun _ inside => hpetMemory_spared inside (by decide) (by decide)
  length := by
    rw [hpetMemory_xsdt]
    exact fun _ inside => hpetMemory_spared inside (by decide) (by decide)
  pointers := by
    have places : ∀ i, i < 3 → 0x102000 ≤ (sdtPtrAddr 0x110040 i).toNat ∧
        (sdtPtrAddr 0x110040 i).toNat + 8 ≤ 2 ^ 64 := by
      decide +kernel
    rw [hpetMemory_xsdt, hpetMemory_count]
    exact fun i bound _ inside =>
      hpetMemory_spared inside (places i bound).1 (places i bound).2
  signatures := by
    rw [hpetMemory_listed]
    intro p member x inside
    simp only [List.mem_cons, List.not_mem_nil, or_false] at member
    rcases member with rfl | rfl | rfl
    · exact hpetMemory_spared inside (by decide) (by decide)
    · exact hpetMemory_spared inside (by decide) (by decide)
    · exact hpetMemory_spared inside (by decide) (by decide)
  report := by decide +kernel
  table := by
    change ∀ x, Within x 0x111000 (44 * madtLength hpetMemory 0x111000 + 256) → _
    rw [hpetMemory_length]
    exact fun _ inside => hpetMemory_spared inside (by decide) (by decide)
  straight := by
    change 0x111000 + 44 * madtLength hpetMemory 0x111000 + 256 ≤ _
    rw [hpetMemory_length]
    decide
  plain := by
    intro x first
    have kind : (madtRecords hpetMemory 0x111000).kind 0x2C = 0 := by decide +kernel
    have length : (madtRecords hpetMemory 0x111000).length 0x2C = 0 := by decide +kernel
    cases first with
    | here _ hit => exact absurd (kind.symm.trans hit) (by decide)
    | next _ _ long _ => exact absurd length (Nat.ne_of_gt long)
  address := by decide +kernel

theorem hpetMemory_base : hpetBoard.acpiTables.hpetBase hpetBoard.mem = 0xFED00000 := by
  decide +kernel

theorem hpetMemory_root : load hpetMemory (0x120000 + xsdpTableOffset) 8 = 0x110000 := by
  decide +kernel

theorem hpetBoard_bootable : Bootable hpetBoard cellScreen 0x120000 where
  video := (BootVideoModeInfo.mk.injEq ..).mpr (by decide +kernel)
  paged := hpetMemory_paged
  root := by
    change load hpetMemory _ 8 ≠ 0
    rw [hpetMemory_root]
    decide
  supported := by
    change Supported _ _ (load hpetMemory _ 8) _ _
    rw [hpetMemory_root]
    exact hpetMemory_supported
  accepts := by decide +kernel
  rootKept _ inside := hpetMemory_spared inside (by decide) (by decide)
  hpetKept _ inside := hpetMemory_spared inside (by decide) (by decide)
  registersKept := by
    rw [hpetMemory_base]
    exact fun _ inside => hpetMemory_spared inside (by decide) (by decide)

theorem hpetBoard_calibrates : hpetBoard.Calibrates 0 where
  goesOn := by decide
  wakes := by
    have unit : hpetBoard.period = 100000000 := by decide +kernel
    have reading (c : Nat) (small : c < 2 ^ 32) : (hpetBoard.time c).toNat = c * 100000000 := by
      rw [ClockedBoard.time, unit, BitVec.toNat_mul, BitVec.toNat_ofNat]
      change c % 2 ^ 32 % 2 ^ 64 * 100000000 % 2 ^ 64 = _
      rw [Nat.mod_eq_of_lt small, Nat.mod_eq_of_lt (by omega), Nat.mod_eq_of_lt (by omega)]
    intro start _ soon
    have near : start ≤ 1000 := by
      change start ≤ 0 + 1000 at soon
      omega
    refine ⟨start + 100000, by omega, fun count late next => ?_⟩
    have last : count < start + 100000 + 1000 := next
    rw [ClockedBoard.Wakes, BitVec.lt_def, BitVec.toNat_add, reading count (by omega),
      reading start (by omega)]
    change ¬ count * 100000000 < (start * 100000000 + 10000000000000) % 2 ^ 64
    omega
  apart := by
    rw [ClockedBoard.mainCounter, hpetMemory_base]
    decide

end Sample

end Flosp.Kernel
