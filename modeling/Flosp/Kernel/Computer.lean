import Flosp.Kernel.Controllers
import Flosp.Kernel.Dispatch
import Flosp.Kernel.Main

/-! The computer under `main`: the CPU, the interrupt controllers and the globals that `main` and
the interrupt handler share. Interrupts come between any two operations. -/

namespace Flosp.Kernel

open ByteMemory Interaction

/-- What stays the same: memory, what `acpi_init` finds in it and where the IDT is. -/
structure Board where
  mem : Memory 64
  acpiTables : AcpiTables
  /-- where `get_lapic_address_acpi` puts the LAPIC, and where it is -/
  lapicAddr : Addr
  keyTables : KeyTables
  idt : Addr

/-- What has come at vector 0x20. No code reads it. -/
structure Ledger where
  /-- interrupts of the LAPIC's timer before `lapic_timer_enabled` is set -/
  early : Nat
  /-- interrupts since then, of any timer -/
  counted : Nat
  /-- those of them that a legacy controller delivered -/
  strays : Nat
  deriving DecidableEq, Repr

structure Computer where
  gdtLoaded : Bool
  idtr : Option Idtr
  interruptFlag : Bool
  pics : Chips
  lapic : Lapic
  globals : HandlerGlobals
  ledger : Ledger

namespace Ledger

def lapicTimer (l : Ledger) (enabled : Bool) (vector : BitVec 8) : Ledger :=
  if vector = 0x20 then
    if enabled then { l with counted := l.counted + 1 } else { l with early := l.early + 1 }
  else l

def legacyTimer (l : Ledger) (enabled : Bool) (vector : BitVec 8) : Ledger :=
  if vector = 0x20 ∧ enabled = true then
    { l with counted := l.counted + 1, strays := l.strays + 1 }
  else l

end Ledger

namespace Computer

/-- A write to a port or to a register of a device. The registers of the LAPIC have 32 bits. -/
def access (b : Board) (m : Computer) : Op → Computer
  | .outb port value => { m with pics := m.pics.write port value }
  | .storeVolatile a n v =>
      if n = 4 then { m with lapic := m.lapic.write (a - b.lapicAddr) (v.setWidth 32) } else m
  | _ => m

def enabled (m : Computer) : Bool := m.globals.timer.lapicTimerEnabled

/-- What an operation of a driver does. Ports and registers are read with any value. -/
def driverStep (b : Board) : DriverEvent → Computer → Computer → Prop
  | ⟨.load a n, v⟩, m, m' => v = load b.mem a n ∧ m' = m
  | ⟨.readTicks _, now⟩, m, m' => now = m.globals.timer.ticks ∧ m' = m
  | ⟨.enableLapicTimer, _⟩, m, m' =>
      let timer := { m.globals.timer with lapicTimerEnabled := true }
      m' = { m with globals := { m.globals with timer } }
  | ⟨.lidt idtr, _⟩, m, m' => m' = { m with idtr := some idtr }
  | ⟨.sti, _⟩, m, m' => m' = { m with interruptFlag := true }
  | ⟨o, _⟩, m, m' => m' = m.access b o

/-- Every call that `main` makes is taken to come back, so that there are more runs than the code
has. What holds of all of them holds of these. -/
def step (b : Board) : KernelEvent → Computer → Computer → Prop
  | ⟨.driver o, r⟩, m, m' => driverStep b ⟨o, r⟩ m m'
  | ⟨.getAcpiTables, tables⟩, m, m' => tables = b.acpiTables ∧ m' = m
  | ⟨.getLapicAddressAcpi, a⟩, m, m' => a = b.lapicAddr ∧ m' = m
  | ⟨.setLapicAddr lapicAddr, _⟩, m, m' => m' = { m with globals := { m.globals with lapicAddr } }
  | ⟨.gdtInitAsm, _⟩, m, m' => m' = { m with gdtLoaded := true }
  | ⟨.cli, _⟩, m, m' => m' = { m with interruptFlag := false }
  | _, m, m' => m' = m

/-- The CPU goes to the stub for `vector`, where `interrupt_handler` performs `t` on the frame that
the stub has built and returns. -/
def Handles (b : Board) (vector : BitVec 8) (t : List DriverEvent) (m m' : Computer) : Prop :=
  ∃ (s : Stub) (handler : Cpu → Cpu) (i : Interrupted) (top : Addr) (errorCode : BitVec 64)
    (pending : List (BitVec 8)) (r : Addr × HandlerGlobals) (h : Handling),
    let c := atCall handler s i top errorCode
    s.EnteredAt vector ∧
    Task.Runs (interruptHandler b.keyTables (c.regs .rdi) m.globals) t r ∧
    Follows (handlingStep c.mem) t ⟨[], pending⟩ h ∧
    m' = { h.writes.foldl (access b) m with globals := r.2 }

/-- What may happen between two operations, with what the handler performs. With its gates closed
the CPU runs a handler to its end. An interrupt on which it freezes, or one at the vector that has
no stub, is no step of the machine: `main` does not go on. -/
inductive InterruptBy (b : Board) (m : Computer) : List DriverEvent → Computer → Prop where
  | timerExpires (armed : m.lapic.Armed) : InterruptBy b m [] { m with lapic := m.lapic.expire }
  | lapic {vector : BitVec 8} {t : List DriverEvent} {m' : Computer} (flag : m.interruptFlag = true)
      (presents : m.lapic.Presents vector)
      (handles : Handles b vector t { m with
        lapic := m.lapic.accept vector
        ledger := m.ledger.lapicTimer m.enabled vector } m') : InterruptBy b m t m'
  | pics {vector : BitVec 8} {pics : Chips} {t : List DriverEvent} {m' : Computer}
      (flag : m.interruptFlag = true) (delivers : m.pics.Delivers vector pics)
      (handles : Handles b vector t { m with
        pics
        ledger := m.ledger.legacyTimer m.enabled vector } m') : InterruptBy b m t m'

def Interrupt (b : Board) (m m' : Computer) : Prop := ∃ t, InterruptBy b m t m'

/-- The computer as the firmware hands it over. -/
structure HandedOver (m : Computer) : Prop where
  closed : m.interruptFlag = false
  served : m.pics.Served
  idle : m.pics.master.expects = .interruptMask ∧ m.pics.slave.expects = .interruptMask
  timerMasked : m.lapic.lvtTimer.getLsbD 16 = true
  quiet : m.lapic.requested = [] ∧ m.lapic.inService = []
  timer : m.globals.timer = ⟨0, false⟩
  ledger : m.ledger = ⟨0, 0, 0⟩

/-- What holds whenever `main` is at an operation. -/
structure Sound (b : Board) (m : Computer) : Prop where
  ready : m.interruptFlag = true → m.gdtLoaded = true ∧ m.idtr = some ⟨idtLimit, b.idt⟩
  served : m.pics.Served
  vectors : m.interruptFlag = true → m.pics.SlaveVectors
  timerVector : m.lapic.lvtTimer.getLsbD 16 = false → m.lapic.timerVector = 0x20
  requested : ∀ vector ∈ m.lapic.requested, vector = 0x20
  address : m.enabled = true → m.globals.lapicAddr = b.lapicAddr
  ticks : m.globals.timer.ticks = BitVec.ofNat 64 m.ledger.counted
  inService : m.lapic.inService = if 0 < m.ledger.early ∧ m.ledger.strays = 0 then [0x20] else []
  stopped : 0 < m.ledger.early → m.ledger.strays = 0 → m.ledger.counted = 0
  before : m.enabled = false → m.ledger.counted = 0 ∧ m.ledger.strays = 0

/-- What interrupts leave as it is. -/
structure Settled where
  gdtLoaded : Bool
  idtr : Option Idtr
  interruptFlag : Bool
  pics : Chips
  lapicAddr : Addr
  enabled : Bool

def settled (m : Computer) : Settled where
  gdtLoaded := m.gdtLoaded
  idtr := m.idtr
  interruptFlag := m.interruptFlag
  pics := m.pics
  lapicAddr := m.globals.lapicAddr
  enabled := m.enabled

section Interrupts

variable {b : Board} {m m' : Computer} {vector : BitVec 8} {t : List DriverEvent}

theorem HandedOver.sound (start : m.HandedOver) : m.Sound b where
  ready flag := absurd (start.closed.symm.trans flag) Bool.false_ne_true
  served := start.served
  vectors flag := absurd (start.closed.symm.trans flag) Bool.false_ne_true
  timerVector unmasked := absurd (unmasked.symm.trans start.timerMasked) Bool.false_ne_true
  requested vector member := by
    rw [start.quiet.1] at member
    cases member
  address enabled := by
    rw [Computer.enabled, start.timer] at enabled
    cases enabled
  ticks := by
    rw [start.timer, start.ledger]
    rfl
  inService := by
    rw [start.quiet.2, start.ledger]
    rfl
  stopped early := by
    rw [start.ledger] at early
    cases early
  before _ := by
    rw [start.ledger]
    exact ⟨rfl, rfl⟩

theorem vector_timer_iff (vector : BitVec 8) :
    vector.setWidth 64 = (0x20 : BitVec 64) ↔ vector = 0x20 := by
  have all : ∀ v : BitVec 8, v.setWidth 64 = (0x20 : BitVec 64) ↔ v = 0x20 := by decide
  exact all vector

theorem access_globals (o : Op) : (m.access b o).globals = m.globals := by
  cases o with
  | storeVolatile a n v =>
      rw [access]
      split
      · rfl
      · rfl
  | _ => rfl

theorem access_picEois (vector : BitVec 64) :
    (picEois vector).foldl (access b) m = { m with pics := m.pics.acknowledge vector } := by
  rw [picEois, Chips.acknowledge]
  split <;> rfl

theorem access_lapicEoi (address : m.enabled = true → m.globals.lapicAddr = b.lapicAddr) :
    (lapicEoi m.globals (vector.setWidth 64)).foldl (access b) m = { m with
      lapic := if vector = 0x20 ∧ m.enabled = true then m.lapic.write apicEoi 0 else m.lapic } := by
  by_cases counts : vector = 0x20 ∧ m.enabled = true
  · have offset : m.globals.lapicAddr + apicEoi - b.lapicAddr = apicEoi := by
      rw [address counts.2, BitVec.add_comm, BitVec.add_sub_cancel]
    rw [lapicEoi, if_pos ⟨(vector_timer_iff vector).mpr counts.1, counts.2⟩, if_pos counts]
    simp [access, offset]
  · have silent : ¬ (vector.setWidth 64 = (0x20 : BitVec 64) ∧
        m.globals.timer.lapicTimerEnabled = true) :=
      fun both => counts ⟨(vector_timer_iff vector).mp both.1, both.2⟩
    rw [lapicEoi, if_neg silent, if_neg counts]
    rfl

/-- A handler that returns was entered through the vector's own gate. -/
theorem Handles.own {m₀ : Computer} (handles : Handles b vector t m₀ m') :
    ∃ mem cpuStatus pending r h,
      load mem (cpuStatus + intVectorOffset) 8 = vector.setWidth 64 ∧
      load mem (cpuStatus + errorOffset) 8 = (0 : BitVec 64) ∧
      Task.Runs (interruptHandler b.keyTables cpuStatus m₀.globals) t r ∧
      Follows (handlingStep mem) t ⟨[], pending⟩ h ∧
      m' = { h.writes.foldl (access b) m₀ with globals := r.2 } := by
  obtain ⟨s, handler, i, top, errorCode, pending, r, h, entered, run, follows, rfl⟩ := handles
  have error : load (atCall handler s i top errorCode).mem
      ((atCall handler s i top errorCode).regs .rdi + errorOffset) 8 = _ := atCall_error
  cases coded : s.hasErrorCode with
  | true =>
      -- such a stub stops the machine
      rw [coded] at error
      have flagged := ne_of_eq_of_ne error (by decide : (if true then (1 : BitVec 64) else 0) ≠ 0)
      exact ((interruptHandler_freezes flagged).satisfies t r h run follows).elim
  | false =>
      rw [coded] at error
      have below : vector.toNat < 48 := by
        by_contra above
        exact absurd (entered.coded (by omega)) (Bool.eq_false_iff.mp coded)
      have gate : gateOf vector = vector := if_pos below
      refine ⟨_, _, pending, r, h, ?_, error, run, follows, rfl⟩
      rw [atCall_vector, entered.number, gate, BitVec.ofNat_toNat]

theorem Handles.effect {pics : Chips} {lapic : Lapic} {ledger : Ledger}
    (handles : Handles b vector t { m with pics, lapic, ledger } m')
    (address : m.enabled = true → m.globals.lapicAddr = b.lapicAddr) :
    ∃ shiftDown, m' = { m with
      pics := pics.acknowledge (vector.setWidth 64)
      lapic := if vector = 0x20 ∧ m.enabled = true then lapic.write apicEoi 0 else lapic
      globals := { m.globals with
        timer := m.globals.timer.handle (vector.setWidth 64)
        shiftDown }
      ledger } := by
  obtain ⟨mem, cpuStatus, pending, ⟨pointer, g⟩, h, frame, interrupt, run, follows, rfl⟩ := handles.own
  have outcome := (interruptHandler_handled frame interrupt).satisfies t _ h run follows
  obtain ⟨handsBack, writes, -⟩ := outcome
  obtain ⟨timer, lapicAddr, keyboardEnabled, shiftDown⟩ := g
  obtain ⟨-, sameTimer, sameAddr, sameKeyboard, -⟩ := handsBack
  dsimp only at sameTimer sameAddr sameKeyboard
  refine ⟨shiftDown, ?_⟩
  rw [writes, List.nil_append, List.foldl_append, access_lapicEoi (by exact address), access_picEois,
    sameTimer, sameAddr, sameKeyboard]
  rfl

theorem Sound.expires (sound : m.Sound b) (armed : m.lapic.Armed) :
    Sound b { m with lapic := m.lapic.expire } where
  ready := sound.ready
  served := sound.served
  vectors := sound.vectors
  timerVector := sound.timerVector
  requested vector member := by
    rcases List.mem_insert_iff.mp member with rfl | earlier
    · exact sound.timerVector armed.2.1
    · exact sound.requested vector earlier
  address := sound.address
  ticks := sound.ticks
  inService := sound.inService
  stopped := sound.stopped
  before := sound.before

/-- The LAPIC presents nothing while an interrupt of the timer is in service. -/
theorem Sound.presents (sound : m.Sound b) (presents : m.lapic.Presents vector) :
    vector = 0x20 ∧ m.lapic.inService = [] ∧ ¬ (0 < m.ledger.early ∧ m.ledger.strays = 0) := by
  have timer := sound.requested vector presents.1
  have inService := sound.inService
  have free : ¬ (0 < m.ledger.early ∧ m.ledger.strays = 0) := by
    intro stuck
    rw [if_pos stuck] at inService
    have above := presents.2 0x20 (inService ▸ List.mem_singleton.mpr rfl)
    rw [timer] at above
    exact absurd above (by decide)
  rw [if_neg free] at inService
  exact ⟨timer, inService, free⟩

structure Balanced (ticks : BitVec 64) (inService : List (BitVec 8)) (enabled : Bool) (l : Ledger) :
    Prop where
  ticks : ticks = BitVec.ofNat 64 l.counted
  inService : inService = if 0 < l.early ∧ l.strays = 0 then [0x20] else []
  stopped : 0 < l.early → l.strays = 0 → l.counted = 0
  before : enabled = false → l.counted = 0 ∧ l.strays = 0

theorem Sound.balanced (sound : m.Sound b) :
    Balanced m.globals.timer.ticks m.lapic.inService m.enabled m.ledger :=
  ⟨sound.ticks, sound.inService, sound.stopped, sound.before⟩

theorem Sound.update (sound : m.Sound b) {lapic : Lapic} {timer : TimerState} {shiftDown : Bool}
    {ledger : Ledger} (lvtTimer : lapic.lvtTimer = m.lapic.lvtTimer)
    (requested : ∀ vector ∈ lapic.requested, vector = 0x20)
    (enabled : timer.lapicTimerEnabled = m.enabled)
    (balanced : Balanced timer.ticks lapic.inService m.enabled ledger) :
    let m' := { m with lapic, globals := { m.globals with timer, shiftDown }, ledger }
    m'.Sound b ∧ m'.settled = m.settled := by
  intro m'
  have same : m'.enabled = m.enabled := enabled
  constructor
  · exact {
      ready := sound.ready
      served := sound.served
      vectors := sound.vectors
      timerVector := fun unmasked => by
        have vector := sound.timerVector (lvtTimer ▸ unmasked)
        rw [Lapic.timerVector, ← lvtTimer] at vector
        exact vector
      requested
      address := fun on => sound.address (same ▸ on)
      ticks := balanced.ticks
      inService := balanced.inService
      stopped := balanced.stopped
      before := fun off => balanced.before (same ▸ off) }
  · simp only [settled, m', ← enabled]
    rfl

theorem Lapic.write_eoi (l : Lapic) (value : BitVec 32) :
    l.write apicEoi value = { l with inService := l.inService.tail } := rfl

theorem handle_timer (t : TimerState) (on : t.lapicTimerEnabled = true) :
    t.handle ((0x20 : BitVec 8).setWidth 64) = { t with ticks := t.ticks + 1 } :=
  if_pos ⟨rfl, on⟩

theorem handle_disabled {t : TimerState} (off : t.lapicTimerEnabled = false) (vector : BitVec 64) :
    t.handle vector = t := by
  rw [TimerState.handle, if_neg]
  rw [off]
  rintro ⟨-, on⟩
  cases on

theorem Sound.lapicTimer (sound : m.Sound b) (presents : m.lapic.Presents vector)
    (handles : Handles b vector t { m with
      lapic := m.lapic.accept vector
      ledger := m.ledger.lapicTimer m.enabled vector } m') :
    m'.Sound b ∧ m'.settled = m.settled := by
  obtain ⟨rfl, idle, free⟩ := sound.presents presents
  obtain ⟨shiftDown, rfl⟩ := Handles.effect handles sound.address
  have pics : m.pics.acknowledge ((0x20 : BitVec 8).setWidth 64) = m.pics :=
    Chips.acknowledge_served sound.served _
  have rest : ∀ v ∈ (m.lapic.accept 0x20).requested, v = 0x20 :=
    fun v member => sound.requested v (List.mem_of_mem_erase member)
  obtain ⟨ticks, inService, stopped, before⟩ := sound.balanced
  dsimp only
  rw [pics]
  cases on : m.enabled with
  | true =>
      have time := handle_timer m.globals.timer on
      have enabled : (m.globals.timer.handle ((0x20 : BitVec 8).setWidth 64)).lapicTimerEnabled =
          m.enabled := by rw [time]; rfl
      rw [if_pos ⟨rfl, rfl⟩]
      refine sound.update rfl rest enabled ?_
      rw [time, on]
      refine ⟨?_, ?_, fun early strays => absurd ⟨early, strays⟩ free, nofun⟩
      · simp [Ledger.lapicTimer, ticks, BitVec.ofNat_add]
      · simp [Ledger.lapicTimer, Lapic.write_eoi, Lapic.accept, idle, free]
  | false =>
      have same := handle_disabled (t := m.globals.timer) on ((0x20 : BitVec 8).setWidth 64)
      obtain ⟨counted, strays⟩ := before on
      rw [same, if_neg]
      · refine sound.update rfl rest rfl ?_
        rw [on]
        refine ⟨?_, ?_, fun _ _ => counted, fun _ => ⟨counted, strays⟩⟩
        · exact ticks
        · simp [Ledger.lapicTimer, Lapic.accept, idle, strays]
      · rintro ⟨-, on'⟩
        cases on'

theorem handle_other {t : TimerState} (other : vector ≠ 0x20) :
    t.handle (vector.setWidth 64) = t :=
  if_neg fun timer => other ((vector_timer_iff vector).mp timer.1)

theorem Sound.legacy (sound : m.Sound b) (flag : m.interruptFlag = true) {pics : Chips}
    (delivers : m.pics.Delivers vector pics)
    (handles : Handles b vector t { m with
      pics
      ledger := m.ledger.legacyTimer m.enabled vector } m') :
    m'.Sound b ∧ m'.settled = m.settled := by
  obtain ⟨shiftDown, rfl⟩ := Handles.effect handles sound.address
  have ended : pics.acknowledge (vector.setWidth 64) = m.pics :=
    delivers.acknowledged sound.served (sound.vectors flag)
  obtain ⟨ticks, inService, stopped, before⟩ := sound.balanced
  dsimp only
  rw [ended]
  by_cases stray : vector = 0x20 ∧ m.enabled = true
  · obtain ⟨rfl, on⟩ := stray
    have time := handle_timer m.globals.timer on
    have enabled : (m.globals.timer.handle ((0x20 : BitVec 8).setWidth 64)).lapicTimerEnabled =
        m.enabled := by rw [time]; rfl
    rw [if_pos ⟨rfl, on⟩]
    refine sound.update rfl sound.requested enabled ?_
    rw [time, on]
    refine ⟨?_, ?_, ?_, nofun⟩
    · simp [Ledger.legacyTimer, ticks, BitVec.ofNat_add]
    · -- whatever was in service is acknowledged by accident
      rw [Lapic.write_eoi, inService]
      split <;> simp [Ledger.legacyTimer]
    · simp [Ledger.legacyTimer]
  · have same : m.globals.timer.handle (vector.setWidth 64) = m.globals.timer := by
      by_cases timer : vector = 0x20
      · exact handle_disabled (Bool.eq_false_iff.mpr fun on => stray ⟨timer, on⟩) _
      · exact handle_other timer
    rw [if_neg stray, Ledger.legacyTimer, if_neg stray, same]
    exact sound.update rfl sound.requested rfl sound.balanced

theorem Interrupt.sound (interrupt : Interrupt b m m') (sound : m.Sound b) :
    m'.Sound b ∧ m'.settled = m.settled := by
  obtain ⟨t, interrupt⟩ := interrupt
  cases interrupt with
  | timerExpires armed => exact ⟨sound.expires armed, rfl⟩
  | lapic flag presents handles => exact sound.lapicTimer presents handles
  | pics flag delivers handles => exact sound.legacy flag delivers handles

end Interrupts

end Computer

end Flosp.Kernel
