import Flosp.Kernel.BootInfo
import Flosp.Kernel.Echo
import Flosp.Kernel.SparedMemory

/-! The PC under `main`: the console and `cpu/acpi.c` in memory, the CPU with its controllers, and
the main counter of the HPET. -/

namespace Flosp.Kernel

open ByteMemory Interaction

/-- A board with the root of its page tables and what the main counter of its HPET is like. -/
structure ClockedBoard extends Board where
  cr3 : BitVec 64
  /-- the bits of the main counter -/
  width : Nat
  /-- how far it goes on from one reading to the next at most -/
  gap : Nat

structure Pc where
  computer : Computer
  /-- the globals of `acpi.c` and the console, with the memory -/
  acpi : Acpi
  /-- the counts of the HPET at the last reading, whatever the width of the main counter -/
  counter : Nat

namespace ClockedBoard

def mainCounter (b : ClockedBoard) : Addr :=
  b.acpiTables.hpetBase b.mem + hpetOffsetMainCounterValue

/-- The main counter goes on. -/
def Counts (b : ClockedBoard) : KernelEvent → Nat → Nat → Prop
  | ⟨.driver (.loadVolatile a n), v⟩, c, c' =>
      if a = b.mainCounter then
        (let v : BitVec (8 * n) := v; v = BitVec.ofNat (8 * n) (c' % 2 ^ b.width)) ∧
          c < c' ∧ c' ≤ c + b.gap
      else c' = c
  | _, c, c' => c' = c

end ClockedBoard

/-- CPUID reports an APIC. -/
def ReportsApic : KernelEvent → Prop
  | ⟨.cpuid _, features⟩ =>
      (let features : BitVec 64 := features;
        (features >>> 32).setWidth 32 &&& cpuidFeatEdxApic ≠ 0)
  | _ => True

/-- The console and `acpi.c` under the operations of `main`. One that freezes the CPU or does not
come back is no step. -/
def acpiStep (cr3 : BitVec 64) : KernelEvent → Acpi → Acpi → Prop
  | ⟨.initializeVideo vmi, _⟩, a, a' => ∃ console,
      initializeVideo cr3 (.read a.machine.mem vmi) a.console = .ok console ∧
        a' = { a with console }
  | ⟨.acpiVcheck xsdpTable, _⟩, a, a' => ∃ console,
      acpiVcheck xsdpTable a.console = .ok console ∧ a' = { a with console }
  | ⟨.acpiCcheck xsdpTable, _⟩, a, a' => ∃ console,
      acpiCcheck xsdpTable a.console = .ok console ∧ a' = { a with console }
  | ⟨.acpiInit xsdpTable, _⟩, a, a' => acpiInit xsdpTable a = .ok a'
  | ⟨.getAcpiTables, tables⟩, a, a' => tables = a.acpiTables ∧ a' = a
  | ⟨.getLapicAddressAcpi, lapicAddr⟩, a, a' => lapicAddr = getLapicAddressAcpi a ∧ a' = a
  | ⟨.driver (.load p n), v⟩, a, a' => v = load a.machine.mem p n ∧ a' = a
  | e, a, a' => ∃ console, consoleStep e a.console console ∧ a' = { a with console }

/-- The CPU and its controllers. What is read from memory is no affair of theirs. -/
def cpuStep (b : Board) : KernelEvent → Computer → Computer → Prop
  | ⟨.driver (.load _ _), _⟩, m, m' => m' = m
  | ⟨.getAcpiTables, _⟩, m, m' => m' = m
  | ⟨.getLapicAddressAcpi, _⟩, m, m' => m' = m
  | e, m, m' => Computer.step b e m m'

namespace Pc

/-- An operation of `main`, with the reply that the part gives which it is asked of. -/
structure Step (b : ClockedBoard) (e : KernelEvent) (p p' : Pc) : Prop where
  acpi : acpiStep b.cr3 e p.acpi p'.acpi
  cpu : cpuStep b.toBoard e p.computer p'.computer
  counter : b.Counts e p.counter p'.counter
  apic : ReportsApic e

/-- An interrupt whose handler returns, with what this prints. -/
def Interrupt (b : ClockedBoard) (p p' : Pc) : Prop :=
  ∃ t console, Computer.InterruptBy b.toBoard p.computer t p'.computer ∧
    Follows (fun e => consoleStep ⟨.driver e.op, e.reply⟩) t p.acpi.console console ∧
    p'.acpi = { p.acpi with console } ∧ p'.counter = p.counter

/-- The steps of the PC under `main`, with interrupts between them. -/
def running (b : ClockedBoard) : KernelEvent → Pc → Pc → Prop := interrupted (Step b) (Interrupt b)

/-- The same as the drivers see them. -/
def runningDriver (b : ClockedBoard) : DriverEvent → Pc → Pc → Prop :=
  Task.pulled .driver (fun _ reply => reply) (running b)

end Pc

/-! What interrupts print. -/

/-- A call of the console comes back. -/
def Calm : Op → Prop
  | .console c => c.Sized
  | _ => True

section Handlers

variable {b : Board} {m m' : Computer} {t : List DriverEvent} {α : Type}

theorem driverFreeze_calm : (driverFreeze : Driver α).Only Calm :=
  ⟨trivial, fun _ => ⟨fun _ => trivial, fun _ => trivial⟩⟩

theorem printErrorCode_calm (cpuStatus : Addr) : (printErrorCode cpuStatus : Driver α).Only Calm :=
  ⟨trivial, fun _ => ⟨trivial, fun _ => ⟨trivial, fun _ => ⟨trivial, fun _ => driverFreeze_calm⟩⟩⟩⟩

theorem handleException_calm (cpuStatus : Addr) (g : HandlerGlobals) :
    (handleException cpuStatus g).Only Calm := by
  refine ⟨trivial, fun (vector : BitVec 64) => ?_⟩
  change Task.Only Calm (if _ then _ else _)
  split
  · apply Task.Only.bind (p := pageFaultHandler cpuStatus)
    · refine ⟨trivial, fun _ => ⟨trivial, fun _ => ⟨trivial, fun _ => ?_⟩⟩⟩
      exact printErrorCode_calm cpuStatus
    · exact fun _ => trivial
  · refine ⟨trivial, fun _ => ⟨trivial, fun (vector : BitVec 64) => ?_⟩⟩
    change Task.Only Calm (if _ then _ else _)
    split
    · exact ⟨trivial, fun _ => printErrorCode_calm cpuStatus⟩
    · refine ⟨trivial, fun _ => ⟨trivial, fun _ => ⟨trivial, fun _ => ⟨trivial, fun _ => ?_⟩⟩⟩⟩
      exact printErrorCode_calm cpuStatus

theorem keyboardHandler_calm (tables : KeyTables) (shiftDown : Bool) :
    (keyboardHandler tables shiftDown).Only Calm := by
  refine ⟨trivial, fun keycode => ?_⟩
  apply Task.Only.bind (p := keycodeChar tables keycode shiftDown)
  · unfold keycodeChar
    repeat' split
    all_goals first
      | trivial
      | exact ⟨trivial, fun _ => trivial⟩
  · exact fun _ => ⟨trivial, fun _ => trivial⟩

theorem flushPs2OutputBuffer_calm : flushPs2OutputBuffer.Only Calm := by
  refine ⟨trivial, fun _ => Task.Only.whileDo ?_ ?_⟩
  · exact ⟨trivial, fun _ => trivial⟩
  · exact ⟨trivial, fun _ => trivial⟩

theorem handleInterrupt_calm (tables : KeyTables) (cpuStatus : Addr) (g : HandlerGlobals) :
    (handleInterrupt tables cpuStatus g).Only Calm := by
  refine ⟨trivial, fun (vector : BitVec 64) => ?_⟩
  change Task.Only Calm (if _ then _ else _)
  split
  · apply Task.Only.bind (p := timerHandler g.lapicAddr cpuStatus g.timer)
    · rw [timerHandler]
      split
      · exact ⟨trivial, fun _ => trivial⟩
      · trivial
    · exact fun _ => trivial
  · split
    · split
      · exact (keyboardHandler_calm tables g.shiftDown).bind fun _ => trivial
      · trivial
    · split
      · exact flushPs2OutputBuffer_calm.bind fun _ => trivial
      · exact ⟨trivial, fun _ => ⟨trivial, fun _ => ⟨trivial, fun _ => ⟨trivial, fun _ => trivial⟩⟩⟩⟩

theorem interruptHandler_calm (tables : KeyTables) (cpuStatus : Addr) (g : HandlerGlobals) :
    (interruptHandler tables cpuStatus g).Only Calm := by
  refine ⟨trivial, fun (error : BitVec 64) => ?_⟩
  change Task.Only Calm (if _ then _ else _)
  split
  · exact handleException_calm cpuStatus g
  · apply (handleInterrupt_calm tables cpuStatus g).bind
    rintro ⟨cpuStatus, g⟩
    apply Task.Only.bind (p := endOfInterrupt cpuStatus)
    · refine ⟨trivial, fun (vector : BitVec 64) => ?_⟩
      change Task.Only Calm (if _ then _ else _)
      split
      · exact ⟨trivial, fun _ => ⟨trivial, fun _ => trivial⟩⟩
      · exact ⟨trivial, fun _ => trivial⟩
    · exact fun _ => trivial

theorem interruptBy_calm (interrupt : Computer.InterruptBy b m t m') : ∀ e ∈ t, Calm e.op := by
  have handled {vector : BitVec 8} {u u' : Computer}
      (handles : Computer.Handles b vector t u u') : ∀ e ∈ t, Calm e.op := by
    obtain ⟨mem, cpuStatus, pending, r, h, -, -, run, -⟩ := handles.own
    exact (interruptHandler_calm b.keyTables cpuStatus u.globals).performed run.performs
  cases interrupt with
  | timerExpires armed => exact List.forall_mem_nil _
  | lapic flag presents handles => exact handled handles
  | pics flag delivers handles => exact handled handles

end Handlers

/-! What is known between two operations. -/

/-- The same for the calls of `main`. -/
def CalmMain : KernelOp → Prop
  | .driver o => Calm o
  | _ => True

theorem consoleStep_prints {s : Screen} {k : Console} (on : k.On s) {o : KernelOp} (calm : CalmMain o)
    (r : KernelReply o) :
    (∃ k', consoleStep ⟨o, r⟩ k k') ∧ ∀ k', consoleStep ⟨o, r⟩ k k' → Prints s k k' := by
  have still : ∀ k', k' = k → Prints s k k' := by
    rintro k' rfl
    exact .refl on
  cases o with
  | driver o =>
      cases o with
      | console c =>
          have prints (u : Int → BitVec 8) := run_prints_only on u (c := c) calm
          constructor
          · obtain ⟨k', runs, -⟩ := prints fun _ => 0
            exact ⟨k', fun _ => 0, runs⟩
          · rintro k' ⟨u, runs⟩
            obtain ⟨k₁, runs', printed⟩ := prints u
            exact Except.ok.inj (runs'.symm.trans runs) ▸ printed
      | _ => exact ⟨⟨k, rfl⟩, still⟩
  | kprintNum n =>
      obtain ⟨k₁, prints, printed⟩ := kprint_prints on (decimal n.toNat)
      constructor
      · exact ⟨k₁, fun _ => 0, (kprintNum_decimal _ n k).trans prints⟩
      · rintro k' ⟨u, runs⟩
        rw [kprintNum_decimal, prints] at runs
        exact Except.ok.inj runs ▸ printed
  | kscrollDown =>
      obtain ⟨k₁, scrolls, printed⟩ := kscrollDown_prints on
      constructor
      · exact ⟨k₁, scrolls⟩
      · intro k' runs
        exact Except.ok.inj (scrolls.symm.trans runs) ▸ printed
  | _ => exact ⟨⟨k, rfl⟩, still⟩

/-- What neither interrupts nor `main` take back. -/
structure Lasting (b : Board) (I : Computer → Prop) : Prop where
  interrupt : ∀ u v, Computer.Interrupt b u v → I u → I v
  step : ∀ e u v, e.op ≠ .cli → cpuStep b e u v → I u → I v

/-- The screen is set up, and memory is kept. -/
structure Pc.Holds (b : ClockedBoard) (s : Screen) (listed : Prop) (C : Nat → Prop)
    (I : Computer → Prop) (p : Pc) : Prop where
  intact : Intact s (Spared s b.cr3 b.mem) b.mem p.acpi.console
  /-- what `acpi_init` has found -/
  found : listed →
    p.acpi.acpiTables = b.acpiTables ∧ getLapicAddressAcpi p.acpi = b.lapicAddr
  counter : C p.counter
  computer : I p.computer

/-- The operation goes on without a reading of the main counter. -/
def Aloof (b : ClockedBoard) : Op → Prop
  | .console c => c.Sized
  | .loadVolatile a _ => a ≠ b.mainCounter
  | _ => True

/-- Nor does it shut interrupts out or change what `acpi.c` has found. -/
def AloofMain (b : ClockedBoard) : KernelOp → Prop
  | .driver o => Aloof b o
  | .initializeVideo _ => False
  | .acpiVcheck _ => False
  | .acpiCcheck _ => False
  | .acpiInit _ => False
  | .cli => False
  | _ => True

/-- What `main` learns from its replies. -/
def Informed (b : ClockedBoard) (s : Screen) (listed : Prop) : KernelEvent → Prop
  | ⟨.driver (.load a n), v⟩ =>
      n ≤ 2 ^ 64 → (∀ x, Within x a n → Spared s b.cr3 b.mem x) →
        (let v : BitVec (8 * n) := v; v = load b.mem a n)
  | ⟨.getAcpiTables, tables⟩ =>
      listed → (let tables : AcpiTables := tables; tables = b.acpiTables)
  | ⟨.getLapicAddressAcpi, a⟩ => listed → (let a : Addr := a; a = b.lapicAddr)
  | ⟨.cpuid code, features⟩ => ReportsApic ⟨.cpuid code, features⟩
  | _ => True

section Rules

variable {b : ClockedBoard} {s : Screen} {listed : Prop} {C : Nat → Prop} {I : Computer → Prop}
  {p p' : Pc}

theorem Spared.untouched {cr3 : BitVec 64} {mem : Memory 64} :
    ∀ x, Spared s cr3 mem x → s.Untouched x := fun _ spared => spared.1

namespace Pc

theorem Interrupt.holds (lasting : Lasting b.toBoard I) (interrupt : Interrupt b p p')
    (holds : p.Holds b s listed C I) : p'.Holds b s listed C I := by
  obtain ⟨t, console, interrupts, prints, acpi, same⟩ := interrupt
  have calm := interruptBy_calm interrupts
  have intact : Intact s (Spared s b.cr3 b.mem) b.mem console := by
    refine prints.invariant (fun e member k k' step intact => ?_) holds.intact
    have printed := (consoleStep_prints intact.on (o := .driver e.op) (calm e member) e.reply).2
    exact intact.prints Spared.untouched (printed k' step)
  constructor
  · rw [acpi]
    exact intact
  · rw [acpi]
    exact holds.found
  · rw [same]
    exact holds.counter
  · exact lasting.interrupt _ _ ⟨t, interrupts⟩ holds.computer

/-- Most operations leave the globals of `acpi.c` alone. -/
theorem acpiStep_aloof {e : KernelEvent} {a a' : Acpi} (aloof : AloofMain b e.op)
    (step : acpiStep b.cr3 e a a') (intact : Intact s (Spared s b.cr3 b.mem) b.mem a.console) :
    ∃ console, Intact s (Spared s b.cr3 b.mem) b.mem console ∧ a' = { a with console } := by
  obtain ⟨o, r⟩ := e
  have printed (calm : CalmMain o) (step : ∃ console, consoleStep ⟨o, r⟩ a.console console ∧
      a' = { a with console }) :
      ∃ console, Intact s (Spared s b.cr3 b.mem) b.mem console ∧ a' = { a with console } := by
    obtain ⟨console, prints, same⟩ := step
    have shown := (consoleStep_prints intact.on calm r).2 console prints
    exact ⟨console, intact.prints Spared.untouched shown, same⟩
  cases o with
  | driver o =>
      cases o with
      | load a n => exact ⟨_, intact, step.2⟩
      | console c => exact printed aloof step
      | _ => exact printed trivial step
  | getAcpiTables => exact ⟨_, intact, step.2⟩
  | getLapicAddressAcpi => exact ⟨_, intact, step.2⟩
  | initializeVideo vmi => exact aloof.elim
  | acpiVcheck xsdpTable => exact aloof.elim
  | acpiCcheck xsdpTable => exact aloof.elim
  | acpiInit xsdpTable => exact aloof.elim
  | _ => exact printed trivial step

theorem counts_aloof {e : KernelEvent} {c c' : Nat} (counts : b.Counts e c c')
    (aloof : AloofMain b e.op) : c' = c := by
  obtain ⟨o, r⟩ := e
  cases o with
  | driver o =>
      cases o with
      | loadVolatile a n => exact (iff_of_eq (if_neg aloof)).mp counts
      | _ => exact counts
  | _ => exact counts

theorem Step.informed {e : KernelEvent} (step : Step b e p p')
    (holds : p.Holds b s listed C I) : Informed b s listed e := by
  obtain ⟨acpi, -, -, apic⟩ := step
  obtain ⟨o, r⟩ := e
  cases o with
  | driver o =>
      cases o with
      | load a n =>
          intro small inside
          exact acpi.1.trans (holds.intact.load_eq small inside)
      | _ => trivial
  | getAcpiTables => exact fun listed => acpi.1.trans (holds.found listed).1
  | getLapicAddressAcpi => exact fun listed => acpi.1.trans (holds.found listed).2
  | cpuid code => exact apic
  | _ => trivial

theorem holds_honors (lasting : Lasting b.toBoard I) :
    Honors (running b) (Informed b s listed) (AloofMain b) (Holds b s listed C I) := by
  intro e p p' aloof now holds
  obtain ⟨u, v, before, step, after⟩ := now
  have stable : ∀ u u', Interrupt b u u' → u.Holds b s listed C I →
      u'.Holds b s listed C I := fun _ _ interrupt holds => interrupt.holds lasting holds
  have here := interrupts_preserve stable before holds
  have opened : e.op ≠ .cli := by
    intro shut
    rw [shut] at aloof
    exact aloof
  obtain ⟨console, intact, acpi⟩ := acpiStep_aloof aloof step.acpi here.intact
  refine ⟨step.informed here, interrupts_preserve stable after ?_⟩
  constructor
  · rw [acpi]
    exact intact
  · rw [acpi]
    exact here.found
  · rw [counts_aloof step.counter aloof]
    exact here.counter
  · exact lasting.step e _ _ opened step.cpu here.computer

theorem Step.running {e : KernelEvent} (step : Step b e p p') : running b e p p' :=
  ⟨p, p', .refl, step, .refl⟩

theorem holds_answers {o : KernelOp} (aloof : AloofMain b o) (holds : p.Holds b s listed C I) :
    ∃ r p', running b ⟨o, r⟩ p p' := by
  have on := holds.intact.on
  have answered {r : KernelReply o} {m : Computer} {a : Acpi}
      (acpi : acpiStep b.cr3 ⟨o, r⟩ p.acpi a) (cpu : cpuStep b.toBoard ⟨o, r⟩ p.computer m)
      (counts : b.Counts ⟨o, r⟩ p.counter p.counter) (apic : ReportsApic ⟨o, r⟩) :
      ∃ r p', running b ⟨o, r⟩ p p' :=
    ⟨r, ⟨m, a, p.counter⟩, Step.running ⟨acpi, cpu, counts, apic⟩⟩
  have silent : ∃ console, console = p.acpi.console ∧ p.acpi = { p.acpi with console } :=
    ⟨_, rfl, rfl⟩
  cases o with
  | driver o =>
      cases o with
      | inb port => exact answered (r := (0 : BitVec 8)) silent rfl rfl trivial
      | load a n => exact answered (r := load p.acpi.machine.mem a n) ⟨rfl, rfl⟩ rfl rfl trivial
      | loadVolatile a n =>
          exact answered (r := (0 : BitVec (8 * n))) silent rfl
            ((iff_of_eq (if_neg aloof)).mpr rfl) trivial
      | readTicks reader =>
          exact answered (r := p.computer.globals.timer.ticks) silent ⟨rfl, rfl⟩ rfl trivial
      | console c =>
          obtain ⟨console, prints⟩ := (consoleStep_prints on (o := .driver (.console c)) aloof ()).1
          exact answered (r := ()) ⟨console, prints, rfl⟩ rfl rfl trivial
      | _ => exact answered (r := ()) silent rfl rfl trivial
  | getAcpiTables => exact answered (r := p.acpi.acpiTables) ⟨rfl, rfl⟩ rfl rfl trivial
  | getLapicAddressAcpi =>
      exact answered (r := getLapicAddressAcpi p.acpi) ⟨rfl, rfl⟩ rfl rfl trivial
  | cpuid code =>
      have reported : ((0xFFFFFFFFFFFFFFFF : BitVec 64) >>> 32).setWidth 32 &&& cpuidFeatEdxApic ≠
          0 := by decide
      exact answered (r := (0xFFFFFFFFFFFFFFFF : BitVec 64)) silent rfl rfl reported
  | kprintNum n =>
      obtain ⟨console, prints⟩ := (consoleStep_prints on (o := .kprintNum n) trivial ()).1
      exact answered (r := ()) ⟨console, prints, rfl⟩ rfl rfl trivial
  | kscrollDown =>
      obtain ⟨console, prints⟩ := (consoleStep_prints on (o := .kscrollDown) trivial ()).1
      exact answered (r := ()) ⟨console, prints, rfl⟩ rfl rfl trivial
  | initializeVideo vmi => exact aloof.elim
  | acpiVcheck xsdpTable => exact aloof.elim
  | acpiCcheck xsdpTable => exact aloof.elim
  | acpiInit xsdpTable => exact aloof.elim
  | cli => exact aloof.elim
  | _ => exact answered (r := ()) silent rfl rfl trivial

theorem runningDriver_iff {o : Op} {r : Reply o} :
    runningDriver b ⟨o, r⟩ p p' ↔ running b ⟨.driver o, r⟩ p p' := by
  constructor
  · rintro ⟨_, ⟨r', rfl, same⟩, now⟩
    have reply : r' = r := same
    exact reply ▸ now
  · intro now
    exact ⟨_, ⟨r, rfl, rfl⟩, now⟩

theorem op_ensures {o : KernelOp} {A : Pc → Prop} {R : KernelReply o → Pc → Prop}
    (stable : ∀ u u', Interrupt b u u' → A u → A u')
    (stable' : ∀ r u u', Interrupt b u u' → R r u → R r u')
    (answers : ∀ u, A u → ∃ r u', running b ⟨o, r⟩ u u')
    (moves : ∀ r u u', Step b ⟨o, r⟩ u u' → A u → R r u') (here : A p) :
    Task.Ensures (running b) (perform o) p R := by
  apply Task.Ensures.op (answers p here)
  intro r p' now
  exact .ret (interrupted_moves stable (stable' r) (moves r) now here)

theorem driverOp_ensures {o : Op} {A : Pc → Prop} {R : Reply o → Pc → Prop}
    (stable : ∀ u u', Interrupt b u u' → A u → A u')
    (stable' : ∀ r u u', Interrupt b u u' → R r u → R r u')
    (answers : ∀ u, A u → ∃ r u', running b ⟨.driver o, r⟩ u u')
    (moves : ∀ r u u', Step b ⟨.driver o, r⟩ u u' → A u → R r u') (here : A p) :
    Task.Ensures (runningDriver b) (Task.perform o) p R := by
  obtain ⟨r, p', now⟩ := answers p here
  have replies : ∃ (r : Reply o) (p' : Pc), runningDriver b ⟨o, r⟩ p p' :=
    ⟨r, p', runningDriver_iff.mpr now⟩
  apply Task.Ensures.op replies
  intro r p' now
  exact .ret (interrupted_moves stable (stable' r) (moves r) (runningDriver_iff.mp now) here)

section Triples

variable {α : Type} {Q : α → Prop} (lasting : Lasting b.toBoard I)

include lasting

theorem ends_ensures {q : KernelTask α} (ends : q.Ends (Informed b s listed) (AloofMain b) Q)
    (holds : p.Holds b s listed C I) :
    Task.Ensures (running b) q p fun a p' => Q a ∧ p'.Holds b s listed C I :=
  ends.ensures (holds_honors lasting) (fun _ _ aloof here => holds_answers aloof here) holds

theorem driver_ends {q : Driver α}
    (ends : q.Ends (fun e => Informed b s listed ⟨.driver e.op, e.reply⟩) (Aloof b) Q)
    (holds : p.Holds b s listed C I) :
    Task.Ensures (runningDriver b) q p fun a p' => Q a ∧ p'.Holds b s listed C I := by
  refine ends.ensures (fun e p p' aloof now => ?_) (fun o p aloof here => ?_) holds
  · exact holds_honors lasting ⟨.driver e.op, e.reply⟩ p p' aloof (runningDriver_iff.mp now)
  · obtain ⟨r, p', now⟩ := holds_answers (o := .driver o) aloof here
    exact ⟨r, p', runningDriver_iff.mpr now⟩

theorem driver_quiet {q : Driver α}
    (ends : q.Ends (fun e => Informed b s listed ⟨.driver e.op, e.reply⟩) (Aloof b) fun _ => True)
    (holds : p.Holds b s listed C I) :
    Task.Ensures (runningDriver b) q p fun _ p' => p'.Holds b s listed C I :=
  (driver_ends lasting ends holds).mono fun _ _ ended => ended.2

end Triples

end Pc

end Rules

end Flosp.Kernel
