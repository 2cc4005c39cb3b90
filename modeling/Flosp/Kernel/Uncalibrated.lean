import Flosp.Kernel.MainRuns
import Flosp.Kernel.Startup

/-! `main` on a machine that has no HPET which `hpet_init` takes. -/

namespace Flosp.Kernel

open ByteMemory Interaction

def Board.AcceptsHpet (b : Board) : Prop := b.acpiTables.AcceptsHpet b.mem

def Computer.Uncounted (m : Computer) : Prop := m.globals.timer = ⟨0, false⟩

/-- Memory is read as it is, and the tick counter as 0. -/
def StandsStill (b : Board) : DriverEvent → Prop
  | ⟨.load a n, v⟩ => (let v : BitVec (8 * n) := v; v = load b.mem a n)
  | ⟨.readTicks _, now⟩ => (let now : BitVec 64 := now; now = 0)
  | _ => True

/-- The same for `main`, with the tables that `acpi_init` has found. -/
def MainStandsStill (b : Board) : KernelEvent → Prop
  | ⟨.driver o, r⟩ => StandsStill b ⟨o, r⟩
  | ⟨.getAcpiTables, tables⟩ => (let tables : AcpiTables := tables; tables = b.acpiTables)
  | _ => True

def Calibrating : KernelOp → Prop
  | .kscrollDown => False
  | .driver .enableLapicTimer => False
  | _ => True

section Drivers

variable {b : Board}

theorem finds_standing (b : Board) : FindsHpet b.acpiTables b.mem (StandsStill b) Plain where
  prints _ quiet := quiet
  pitMode _ := trivial
  pitData _ := trivial
  answered _ _ _ _ answer := answer
  base := trivial
  addressSpace := trivial
  revision := trivial
  capabilities := trivial
  readConfig := trivial
  writeConfig _ := trivial

/-- The ticks are waited for with the timer off. -/
theorem sleepTimer_endless : (sleepTimer 10).Obeys (StandsStill b) Plain fun _ => False := by
  refine ⟨trivial, fun start read => ?_⟩
  have zero : start = (0 : BitVec 64) := read
  subst zero
  apply Task.Obeys.iterate (I := fun _ => True) _ trivial
  intro _ _
  refine ⟨trivial, fun now read => ?_⟩
  have zero : now = (0 : BitVec 64) := read
  subst zero
  trivial

theorem timersInit_waits (rejects : ¬ b.AcceptsHpet) (lapicAddr : Addr) :
    (timersInit b.acpiTables lapicAddr Hpet.loaded).Obeys (StandsStill b) Plain fun _ => False := by
  have noBase : ¬ (b.acpiTables.foundHpet b.mem).hpetBaseAddr ≠ 0 :=
    mt AcpiTables.foundHpet_base_ne_iff.mp rejects
  have waits : (calibrationWait (b.acpiTables.foundHpet b.mem)).Obeys (StandsStill b) Plain
      fun _ => False := by
    rw [calibrationWait, if_neg noBase]
    exact sleepTimer_endless
  rw [timersInit_eq]
  apply ((finds_standing b).beforeWait_ends lapicAddr (fun _ => trivial)
    fun _ => trivial).obeys.bind
  rintro _ rfl
  apply waits.bind
  intro _ never
  exact never.elim

end Drivers

section Main

variable {b : Board}

theorem calibrating_startup (b : Board) (bootInfo : Addr) :
    AllowsStartup (MainStandsStill b) Calibrating bootInfo fun _ => True where
  ordinary o ordinary := by
    cases o with
    | driver o =>
        cases o with
        | enableLapicTimer => exact ordinary
        | _ => trivial
    | kscrollDown => exact ordinary
    | _ => trivial
  video := trivial
  root _ _ := trivial
  missing _ := trivial
  version _ _ := trivial
  checksum _ _ := trivial
  tables _ _ := trivial
  unsupported := trivial
  frozen := trivial

theorem main_waits (rejects : ¬ b.AcceptsHpet) (kver : String) (isrStubTable idt bootInfo : Addr) :
    (main kver isrStubTable idt bootInfo).Obeys (MainStandsStill b) Calibrating fun _ => False := by
  apply (calibrating_startup b bootInfo).main_obeys (R := False)
  · intro tables lapicAddr told
    have found : tables = b.acpiTables := told
    subst found
    exact (timersInit_waits rejects lapicAddr).embed
      (fun o plain => (calibrating_startup b bootInfo).ordinary (.driver o) plain)
      fun _ _ kept => kept
  · exact False.elim

namespace Computer

variable {m m' : Computer}

theorem Interrupt.uncounted (interrupt : Interrupt b m m') (off : m.Uncounted) : m'.Uncounted := by
  have disabled : m.globals.timer.lapicTimerEnabled = false := congrArg (·.lapicTimerEnabled) off
  have address : m.enabled = true → m.globals.lapicAddr = b.lapicAddr :=
    fun on => absurd (disabled.symm.trans on) Bool.false_ne_true
  obtain ⟨t, interrupt⟩ := interrupt
  cases interrupt with
  | timerExpires armed => exact off
  | lapic flag presents handles =>
      obtain ⟨shiftDown, rfl⟩ := Handles.effect handles address
      exact (handle_disabled disabled _).trans off
  | pics flag delivers handles =>
      obtain ⟨shiftDown, rfl⟩ := Handles.effect handles address
      exact (handle_disabled disabled _).trans off

theorem step_uncounted {e : KernelEvent} (waiting : Calibrating e.op) (now : step b e m m')
    (off : m.Uncounted) : MainStandsStill b e ∧ m'.Uncounted := by
  obtain ⟨o, r⟩ := e
  cases o with
  | driver o =>
      cases o with
      | enableLapicTimer => exact waiting.elim
      | load a n =>
          obtain ⟨value, rfl⟩ := now
          exact ⟨value, off⟩
      | readTicks reader =>
          obtain ⟨value, rfl⟩ := now
          exact ⟨value.trans (congrArg (·.ticks) off), off⟩
      | lidt idtr =>
          cases now
          exact ⟨trivial, off⟩
      | sti =>
          cases now
          exact ⟨trivial, off⟩
      | _ =>
          have same : m' = m.access b _ := now
          refine ⟨trivial, ?_⟩
          rw [Uncounted, same, access_globals]
          exact off
  | getAcpiTables =>
      obtain ⟨value, rfl⟩ := now
      exact ⟨value, off⟩
  | getLapicAddressAcpi =>
      obtain ⟨value, rfl⟩ := now
      exact ⟨trivial, off⟩
  | kscrollDown => exact waiting.elim
  | _ =>
      cases now
      exact ⟨trivial, off⟩

theorem running_uncounted : Honors (running b) (MainStandsStill b) Calibrating Uncounted := by
  rintro e m m' waiting ⟨u, v, before, now, after⟩ off
  have stable : ∀ u u', Interrupt b u u' → u.Uncounted → u'.Uncounted :=
    fun _ _ interrupt off => interrupt.uncounted off
  obtain ⟨kept, still⟩ := step_uncounted waiting now (interrupts_preserve stable before off)
  exact ⟨kept, interrupts_preserve stable after still⟩

/-- Without an HPET that `hpet_init` takes, no run of `main` gets beyond the calibration of the
LAPIC's timer: the prompt is not come to, and the uptime stays zero. -/
theorem main_uncalibrated (b : Board) (rejects : ¬ b.AcceptsHpet) (kver : String)
    (isrStubTable bootInfo : Addr) (m : Computer) (start : m.HandedOver) :
    ∀ t m', Task.Performs (main kver isrStubTable b.idt bootInfo) t → Follows (running b) t m m' →
      (∀ e ∈ t, e.op ≠ .kscrollDown) ∧ m'.enabled = false ∧ m'.globals.timer.ticks = 0 := by
  intro t m' performs follows
  obtain ⟨waiting, off⟩ := Task.Obeys.performed running_uncounted performs
    (main_waits rejects kver isrStubTable b.idt bootInfo) follows start.timer
  refine ⟨fun e member scrolled => ?_, congrArg (·.lapicTimerEnabled) off, congrArg (·.ticks) off⟩
  have never := waiting e member
  rw [scrolled] at never
  exact never

theorem quietBoard_uncalibrated : ¬ quietBoard.AcceptsHpet ∧
    ∀ t m', Task.Performs (main "0.0.0" 0x101000 quietBoard.idt 0x5000) t →
      Follows (running quietBoard) t firmwareComputer m' →
      (∀ e ∈ t, e.op ≠ .kscrollDown) ∧ m'.enabled = false ∧ m'.globals.timer.ticks = 0 := by
  have rejects : ¬ quietBoard.AcceptsHpet := fun accepts => accepts.1 rfl
  exact ⟨rejects, main_uncalibrated quietBoard rejects "0.0.0" 0x101000 0x5000
    firmwareComputer firmwareComputer_handedOver⟩

end Computer

end Main

end Flosp.Kernel
