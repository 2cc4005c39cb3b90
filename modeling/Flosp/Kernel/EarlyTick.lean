import Flosp.Kernel.MainRuns

/-! The window in `lapic_timer_init` between the write that starts the timer and
`lapic_timer_enabled = true`. -/

namespace Flosp.Kernel.Computer

open ByteMemory Interaction Relation

section Window

variable {b : Board} {m : Computer}

/-- The handler returns from every interrupt of the timer, whatever it interrupts. -/
theorem handles_timer (b : Board) (m : Computer) (i : Interrupted) (top : Addr) :
    ∃ t m', Handles b 0x20 t m m' := by
  obtain ⟨s, entered⟩ := Stub.entered_exists (v := 0x20) (by decide)
  have plain : ∀ s ∈ stubs, s.number = 32 → s.hasErrorCode = false := by decide
  have served := entered.outcome id i top 0 b.keyTables m.globals ⟨[], []⟩
  rw [if_pos ⟨by decide, plain s entered.listed entered.number⟩] at served
  obtain ⟨t, r, h, run, follows, -⟩ := served.exists_run
  exact ⟨t, _, s, id, i, top, 0, [], r, h, entered, run, follows, rfl⟩

/-- An interrupt of the timer came before `lapic_timer_enabled` was set, and is still in service. -/
structure Unacknowledged (m : Computer) : Prop where
  early : m.ledger.early = 1
  strays : m.ledger.strays = 0
  disabled : m.enabled = false
  inService : m.lapic.inService = [0x20]

theorem timer_interrupts (sound : m.Sound b) (flag : m.interruptFlag = true)
    (armed : m.lapic.Armed) (disabled : m.enabled = false) (first : m.ledger.early = 0)
    (i : Interrupted) (top : Addr) :
    ∃ m', ReflTransGen (Interrupt b) m m' ∧ m'.Unacknowledged := by
  let expired : Computer := { m with lapic := m.lapic.expire }
  have idle : m.lapic.inService = [] := sound.keepsTime.acknowledged first
  have presents : expired.lapic.Presents 0x20 := by
    constructor
    · rw [← sound.timerVector armed.2.1]
      exact List.mem_insert_self
    · intro u member
      rw [show expired.lapic.inService = [] from idle] at member
      cases member
  have off : expired.enabled = false := disabled
  obtain ⟨t, m', handles⟩ := handles_timer b { expired with
    lapic := expired.lapic.accept 0x20
    ledger := expired.ledger.lapicTimer expired.enabled 0x20 } i top
  have interrupt : Interrupt b expired m' := ⟨t, .lapic flag presents handles⟩
  obtain ⟨sound', settled⟩ := interrupt.sound (sound.expires armed)
  have early : m'.ledger.early = 1 ∧ m'.ledger.strays = 0 := by
    obtain ⟨shiftDown, rfl⟩ := Handles.effect (m := expired) handles sound.address
    constructor
    · simp [Ledger.lapicTimer, off, expired, first]
    · simp [Ledger.lapicTimer, off, expired, (sound.before disabled).2]
  refine ⟨m', .tail (.single ⟨[], .timerExpires armed⟩) interrupt, early.1, early.2, ?_, ?_⟩
  · exact (congrArg Settled.enabled settled).trans disabled
  · rw [sound'.inService, if_pos ⟨by omega, early.2⟩]

def StartsTimer (b : Board) : DriverEvent → Prop
  | ⟨.storeVolatile a n _, _⟩ => a = b.lapicAddr + apicTimerInitialCount ∧ n = 4
  | _ => False

/-- Some run of `p` comes to the write that starts the timer. The timer, which has not interrupted
so far, does so before the next operation. -/
def InterruptsEarly {α : Type} (b : Board) (p : Driver α) (m : Computer) : Prop :=
  ∃ t e m₁ m₂ m', StartsTimer b e ∧ Task.Performs p (t ++ [e]) ∧
    Follows (runningDriver b) t m m₁ ∧ driverStep b e m₁ m₂ ∧ m₂.ledger.early = 0 ∧
    ReflTransGen (Interrupt b) m₂ m' ∧ m'.Unacknowledged

section Steps

variable {α : Type}

theorem runningDriver_quiet {o : Op} {r : Reply o} {m' : Computer}
    (now : driverStep b ⟨o, r⟩ m m') : runningDriver b ⟨o, r⟩ m m' :=
  ⟨⟨.driver o, r⟩, ⟨r, rfl, rfl⟩, m, m', .refl, now, .refl⟩

theorem early_op {o : Op} {next : Reply o → Driver α} {m' : Computer} (r : Reply o)
    (now : driverStep b ⟨o, r⟩ m m') (rest : InterruptsEarly b (next r) m') :
    InterruptsEarly b (.op o next) m := by
  obtain ⟨t, e, m₁, m₂, m'', starts, performs, follows, later⟩ := rest
  exact ⟨_ :: t, e, m₁, m₂, m'', starts, performs.op, ⟨m', runningDriver_quiet now, follows⟩, later⟩

theorem early_log {text : String} {next : Unit → Driver α}
    (rest : InterruptsEarly b (next ()) m) : InterruptsEarly b (logDebug text >>= next) m :=
  early_op (o := .console _) () rfl rest

theorem early_read {register : Addr} {next : BitVec 32 → Driver α} (value : BitVec 32)
    (rest : InterruptsEarly b (next value) m) :
    InterruptsEarly b (lapicReadReg (b.lapicAddr + register) >>= next) m :=
  early_op (o := .loadVolatile _ 4) value rfl rest

theorem early_write {register : Addr} {value : BitVec 32} {next : Unit → Driver α}
    (rest : InterruptsEarly b (next ()) { m with lapic := m.lapic.write register value }) :
    InterruptsEarly b (lapicWriteReg (b.lapicAddr + register) value >>= next) m :=
  early_op (o := .storeVolatile _ 4 value) () (access_register m register value).symm rest

theorem early_start {value : BitVec 32} {next : Unit → Driver α} {m' : Computer}
    (first : m.ledger.early = 0)
    (after : ReflTransGen (Interrupt b)
      { m with lapic := m.lapic.write apicTimerInitialCount value } m')
    (unacknowledged : m'.Unacknowledged) :
    InterruptsEarly b (lapicWriteReg (b.lapicAddr + apicTimerInitialCount) value >>= next) m :=
  ⟨[], ⟨.storeVolatile _ 4 value, ()⟩, m, _, m', ⟨rfl, rfl⟩, .op (.start _), rfl,
    (access_register m apicTimerInitialCount value).symm, first, after, unacknowledged⟩

end Steps

def counting (m : Computer) : Computer :=
  let lvtTimer := 0x20 ||| apicTimerModePeriodic
  { m with lapic := { m.lapic with lvtTimer, initialCount := 0xFFFFFFFF } }

theorem counting_armed (on : m.lapic.softwareEnabled = true) : m.counting.lapic.Armed :=
  ⟨on, (by decide : (0x20 ||| apicTimerModePeriodic).getLsbD 16 = false),
    (by decide : (0xFFFFFFFF : BitVec 32) ≠ 0)⟩

/-- Wherever `lapic_timer_init` ends its calibration, the timer may interrupt between the write of
its initial count and `lapic_timer_enabled = true`. -/
theorem startLapicTimer_reachesEarly (b : Board) (m : Computer) (sound : m.Sound b)
    (flag : m.interruptFlag = true) (on : m.lapic.softwareEnabled = true)
    (disabled : m.enabled = false) (first : m.ledger.early = 0) :
    InterruptsEarly b (startLapicTimer b.lapicAddr) m := by
  have sound' : m.counting.Sound b := sound.registers fun _ => by decide
  obtain ⟨m', interrupts, unacknowledged⟩ := timer_interrupts sound' flag (counting_armed on)
    disabled first ⟨fun _ => 0, 0, 0, 0, 0, fun _ => 0⟩ 0
  unfold startLapicTimer
  apply early_log
  apply early_write
  apply early_read 0
  apply early_log
  apply early_write
  apply early_read 0
  apply early_write
  exact early_start first interrupts unacknowledged

end Window

def calibratedComputer : Computer where
  gdtLoaded := true
  idtr := some ⟨idtLimit, quietBoard.idt⟩
  interruptFlag := true
  pics := ⟨⟨⟨0xFF, 0x20, true, .interruptMask⟩, 0x02, 0⟩, ⟨⟨0xFF, 0x28, true, .interruptMask⟩, 0x04, 0⟩⟩
  lapic := ⟨true, 0x10000, 0xFFFFFFFF, [], []⟩
  globals := ⟨⟨0, false⟩, quietBoard.lapicAddr, false, false⟩
  ledger := ⟨0, 0, 0⟩

theorem calibratedComputer_sound : calibratedComputer.Sound quietBoard where
  ready _ := ⟨rfl, rfl⟩
  served := ⟨rfl, rfl⟩
  vectors _ _ := rfl
  timerVector := by decide
  requested _ := nofun
  address _ := rfl
  ticks := rfl
  inService := rfl
  stopped := nofun
  before _ := ⟨rfl, rfl⟩

theorem calibratedComputer_reachesEarly :
    InterruptsEarly quietBoard (startLapicTimer quietBoard.lapicAddr) calibratedComputer :=
  startLapicTimer_reachesEarly quietBoard calibratedComputer calibratedComputer_sound rfl rfl rfl rfl

end Flosp.Kernel.Computer
