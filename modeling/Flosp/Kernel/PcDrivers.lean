import Flosp.Kernel.Pc

/-! What `idt_init` and `lapic_timer_init` bring about on the PC, and what stays. -/

namespace Flosp.Kernel

open ByteMemory Interaction

namespace ClockedBoard

/-- The femtoseconds of one count. -/
def period (b : ClockedBoard) : BitVec 32 := b.acpiTables.hpetPeriod b.mem

/-- What `poll_hpet` returns at a count. -/
def time (b : ClockedBoard) (count : Nat) : BitVec 64 :=
  BitVec.ofNat 64 (count % 2 ^ b.width) * b.period.setWidth 64

/-- A sleep of 10 milliseconds that began at `start` ends with a reading at `count`. -/
def Wakes (b : ClockedBoard) (start count : Nat) : Prop :=
  ¬ b.time count < b.time start + 10 * hpetMilliseconds

/-- What is relied on besides, from `counter` on. -/
structure Calibrates (b : ClockedBoard) (counter : Nat) : Prop where
  goesOn : 0 < b.gap
  /-- wherever the sleep begins, so many counts in a row would end it that one of them is read -/
  wakes : ∀ start, counter < start → start ≤ counter + b.gap →
    ∃ stop, start < stop ∧ ∀ count, stop ≤ count → count < stop + b.gap → b.Wakes start count
  /-- the main counter is not among the registers of the LAPIC -/
  apart : 0x400 ≤ (b.mainCounter - b.lapicAddr).toNat

end ClockedBoard

/-! What stays. -/

section Lasting

variable {b : Board}

theorem lasting_true : Lasting b fun _ => True := ⟨fun _ _ _ _ => trivial, fun _ _ _ _ _ _ => trivial⟩

theorem access_flag (m : Computer) (o : Op) : (m.access b o).interruptFlag = m.interruptFlag := by
  cases o with
  | storeVolatile a n v =>
      rw [Computer.access]
      split
      · rfl
      · rfl
  | _ => rfl

theorem access_enabled (m : Computer) (o : Op) : (m.access b o).enabled = m.enabled :=
  congrArg (·.timer.lapicTimerEnabled) (Computer.access_globals o)

theorem accesses_flag (writes : List Op) (m : Computer) :
    (writes.foldl (Computer.access b) m).interruptFlag = m.interruptFlag := by
  induction writes generalizing m with
  | nil => rfl
  | cons o writes ih => exact (ih _).trans (access_flag m o)

theorem handle_enabled (t : TimerState) (vector : BitVec 64) :
    (t.handle vector).lapicTimerEnabled = t.lapicTimerEnabled := by
  rw [TimerState.handle]
  split
  · rfl
  · rfl

theorem handles_keeps {vector : BitVec 8} {t : List DriverEvent} {m m' : Computer}
    (handles : Computer.Handles b vector t m m') :
    m'.interruptFlag = m.interruptFlag ∧ m'.enabled = m.enabled := by
  obtain ⟨mem, cpuStatus, pending, r, h, frame, interrupt, run, follows, rfl⟩ := handles.own
  have outcome := (interruptHandler_handled frame interrupt).satisfies t _ h run follows
  refine ⟨accesses_flag h.writes m, ?_⟩
  exact (congrArg (·.lapicTimerEnabled) outcome.handsBack.timer).trans (handle_enabled _ _)

theorem interrupt_keeps {m m' : Computer} (interrupt : Computer.Interrupt b m m') :
    m'.interruptFlag = m.interruptFlag ∧ m'.enabled = m.enabled := by
  obtain ⟨t, interrupt⟩ := interrupt
  cases interrupt with
  | timerExpires armed => exact ⟨rfl, rfl⟩
  | lapic flag presents handles =>
      have kept := handles_keeps handles
      exact kept
  | pics flag delivers handles =>
      have kept := handles_keeps handles
      exact kept

theorem cpuStep_keeps {e : KernelEvent} {m m' : Computer} (opened : e.op ≠ .cli)
    (step : cpuStep b e m m') :
    (m.interruptFlag = true → m'.interruptFlag = true) ∧ (m.enabled = true → m'.enabled = true) := by
  obtain ⟨o, r⟩ := e
  cases o with
  | driver o =>
      cases o with
      | load a n =>
          cases step
          exact ⟨id, id⟩
      | readTicks reader =>
          cases step.2
          exact ⟨id, id⟩
      | enableLapicTimer =>
          cases step
          exact ⟨id, fun _ => rfl⟩
      | lidt idtr =>
          cases step
          exact ⟨id, id⟩
      | sti =>
          cases step
          exact ⟨fun _ => rfl, id⟩
      | _ =>
          have same : m' = m.access b _ := step
          rw [same, access_flag, access_enabled]
          exact ⟨id, id⟩
  | cli => exact absurd rfl opened
  | _ =>
      cases step
      exact ⟨id, id⟩

theorem lasting_flag : Lasting b (·.interruptFlag = true) where
  interrupt _ _ interrupt flag := (interrupt_keeps interrupt).1.trans flag
  step _ _ _ opened step flag := (cpuStep_keeps opened step).1 flag

/-- Interrupts are let in, and those of the timer are counted. -/
def Ticking (m : Computer) : Prop := m.interruptFlag = true ∧ m.enabled = true

theorem lasting_ticking : Lasting b Ticking where
  interrupt _ _ interrupt ticking :=
    have kept := interrupt_keeps interrupt
    ⟨kept.1.trans ticking.1, kept.2.trans ticking.2⟩
  step _ _ _ opened step ticking :=
    have kept := cpuStep_keeps opened step
    ⟨kept.1 ticking.1, kept.2 ticking.2⟩

end Lasting

/-! The drivers. -/

section Drivers

variable {b : ClockedBoard} {s : Screen} {listed : Prop} {C : Nat → Prop} {I I' : Computer → Prop}
  {p : Pc}

theorem driver_brings (lasting : Lasting b.toBoard I) (lasting' : Lasting b.toBoard I') {o : Op}
    (aloof : Aloof b o)
    (moves : ∀ r u v, cpuStep b.toBoard ⟨.driver o, r⟩ u v → I u → I' v)
    (holds : p.Holds b s listed C I) :
    Task.Ensures (Pc.runningDriver b) (Task.perform o) p fun _ p' => p'.Holds b s listed C I' := by
  have allowed : AloofMain b (.driver o) := aloof
  apply Pc.driverOp_ensures (fun _ _ interrupt => interrupt.holds lasting)
    (fun _ _ _ interrupt => interrupt.holds lasting') (fun u here => Pc.holds_answers allowed here)
    _ holds
  intro r u u' step here
  obtain ⟨console, intact, same⟩ := Pc.acpiStep_aloof (e := ⟨.driver o, r⟩) allowed step.acpi here.intact
  constructor
  · rw [same]
    exact intact
  · rw [same]
    exact here.found
  · rw [Pc.counts_aloof step.counter allowed]
    exact here.counter
  · exact moves r _ _ step.cpu here.computer

theorem log_aloof (b : ClockedBoard) (s : Screen) (listed : Prop) (msg : String) :
    (logDebug msg).Ends (fun e => Informed b s listed ⟨.driver e.op, e.reply⟩) (Aloof b)
      fun _ => True :=
  ends_last (o := .console (.kernLog 1 msg)) trivial

/-- `idt_init` lets interrupts in. -/
theorem idtInit_opens (isrStubTable base : Addr) (idt : Idt)
    (holds : p.Holds b s listed C fun _ => True) :
    Task.Ensures (Pc.runningDriver b) (idtInit isrStubTable base idt) p fun _ p' =>
      p'.Holds b s listed C (·.interruptFlag = true) := by
  have log (msg : String) {p : Pc} (holds : p.Holds b s listed C fun _ => True) :
      Task.Ensures (Pc.runningDriver b) (logDebug msg) p
        fun _ p' => p'.Holds b s listed C fun _ => True :=
    Pc.driver_quiet lasting_true (log_aloof b s listed msg) holds
  have descriptors (turns : Nat) (vect : BitVec 8) (idt : Idt) {p : Pc}
      (holds : p.Holds b s listed C fun _ => True) :
      Task.Ensures (Pc.runningDriver b) (setDescriptors isrStubTable turns vect idt) p
        fun _ p' => p'.Holds b s listed C fun _ => True :=
    Pc.driver_quiet lasting_true (setDescriptors_ends turns (fun _ _ => trivial) idt) holds
  have masked : maskPicInterrupts.Ends (fun e => Informed b s listed ⟨.driver e.op, e.reply⟩)
      (Aloof b) fun _ => True := ⟨trivial, fun _ _ => ⟨trivial, fun _ _ => trivial⟩⟩
  apply (log _ holds).bind
  intro _ p holds
  apply (descriptors 32 0 idt holds).bind
  intro idt p holds
  apply (descriptors 16 32 idt holds).bind
  intro idt p holds
  apply (log _ holds).bind
  intro _ p holds
  apply (Pc.driver_quiet lasting_true masked holds).bind
  intro _ p holds
  apply (log _ holds).bind
  intro _ p holds
  apply (Pc.driver_quiet lasting_true (ends_last (o := .lidt ⟨idtLimit, base⟩) trivial) holds).bind
  intro _ p holds
  apply (log _ holds).bind
  intro _ p holds
  apply (driver_brings lasting_true lasting_flag (o := .sti) trivial _ holds).bind
  · intro _ p holds
    exact .ret holds
  · rintro r u v rfl -
    rfl

theorem readReg_aloof (apart : 0x400 ≤ (b.mainCounter - b.lapicAddr).toNat) {register : Addr}
    (inside : register.toNat < 0x400) : Aloof b (.loadVolatile (b.lapicAddr + register) 4) := by
  intro same
  rw [← same, BitVec.add_comm, BitVec.add_sub_cancel] at apart
  omega

theorem startLapicTimer_enables (apart : 0x400 ≤ (b.mainCounter - b.lapicAddr).toNat)
    (holds : p.Holds b s listed C (·.interruptFlag = true)) :
    Task.Ensures (Pc.runningDriver b) (startLapicTimer b.lapicAddr) p fun _ p' =>
      p'.Holds b s listed C Ticking := by
  have quiet {o : Op} (aloof : Aloof b o) {p : Pc}
      (holds : p.Holds b s listed C (·.interruptFlag = true)) :
      Task.Ensures (Pc.runningDriver b) (Task.perform o) p
        fun _ p' => p'.Holds b s listed C (·.interruptFlag = true) :=
    Pc.driver_quiet lasting_flag (ends_last aloof) holds
  have log (msg : String) {p : Pc} (holds : p.Holds b s listed C (·.interruptFlag = true)) :
      Task.Ensures (Pc.runningDriver b) (logDebug msg) p
        fun _ p' => p'.Holds b s listed C (·.interruptFlag = true) :=
    quiet (o := .console (.kernLog 1 msg)) trivial holds
  have write (a : Addr) (v : BitVec 32) {p : Pc}
      (holds : p.Holds b s listed C (·.interruptFlag = true)) :
      Task.Ensures (Pc.runningDriver b) (lapicWriteReg a v) p
        fun _ p' => p'.Holds b s listed C (·.interruptFlag = true) :=
    quiet (o := .storeVolatile a 4 v) trivial holds
  apply (log _ holds).bind
  intro _ p holds
  apply (write _ _ holds).bind
  intro _ p holds
  apply (quiet (readReg_aloof apart (by decide)) holds).bind
  intro count p holds
  apply (log _ holds).bind
  intro _ p holds
  apply (write _ _ holds).bind
  intro _ p holds
  apply (quiet (readReg_aloof apart (by decide)) holds).bind
  intro divider p holds
  apply (write _ _ holds).bind
  intro _ p holds
  apply (write _ _ holds).bind
  intro _ p holds
  apply (driver_brings lasting_flag lasting_ticking (o := .enableLapicTimer) trivial _ holds).bind
  · intro _ p holds
    exact Pc.driver_quiet lasting_ticking (log_aloof b s listed _) holds
  · rintro r u v rfl flag
    exact ⟨flag, rfl⟩

theorem pollHpet_reads (goesOn : 0 < b.gap) (lasting : Lasting b.toBoard I) {g : Hpet}
    (address : g.hpetMainCntrAddr = b.mainCounter) (unit : g.hpetPeriod = b.period)
    (holds : p.Holds b s listed C I) :
    Task.Ensures (Pc.runningDriver b) (pollHpet g) p fun now p' =>
      ∃ c c', C c ∧ c < c' ∧ c' ≤ c + b.gap ∧ now = b.time c' ∧
        p'.Holds b s listed (· = c') I := by
  have reading : Task.Ensures (Pc.runningDriver b)
      (Task.perform (.loadVolatile b.mainCounter 8)) p fun (v : BitVec (8 * 8)) p' =>
        ∃ c c', C c ∧ c < c' ∧ c' ≤ c + b.gap ∧ v = BitVec.ofNat (8 * 8) (c' % 2 ^ b.width) ∧
          p'.Holds b s listed (· = c') I := by
    apply Pc.driverOp_ensures (fun _ _ interrupt => interrupt.holds lasting) _ _ _ holds
    · rintro v u u' interrupt ⟨c, c', start, later, soon, value, holds⟩
      exact ⟨c, c', start, later, soon, value, interrupt.holds lasting holds⟩
    · intro u here
      have counted : b.Counts ⟨.driver (.loadVolatile b.mainCounter 8),
          BitVec.ofNat (8 * 8) ((u.counter + 1) % 2 ^ b.width)⟩ u.counter (u.counter + 1) :=
        (iff_of_eq (if_pos rfl)).mpr
          ⟨rfl, Nat.lt_succ_self _, Nat.add_le_add_left (Nat.succ_le_of_lt goesOn) _⟩
      have step : Pc.Step b ⟨.driver (.loadVolatile b.mainCounter 8), _⟩ u
          ⟨u.computer, u.acpi, u.counter + 1⟩ := ⟨⟨_, rfl, rfl⟩, rfl, counted, trivial⟩
      exact ⟨_, _, step.running⟩
    · intro v u u' step here
      obtain ⟨console, same, acpi⟩ := step.acpi
      obtain ⟨value, later, soon⟩ := (iff_of_eq (if_pos rfl)).mp step.counter
      refine ⟨u.counter, u'.counter, here.counter, later, soon, value, ?_, ?_, rfl, ?_⟩
      · rw [acpi, show console = u.acpi.console from same]
        exact here.intact
      · rw [acpi]
        exact here.found
      · exact lasting.step ⟨.driver (.loadVolatile b.mainCounter 8), v⟩ _ _ nofun step.cpu
          here.computer
  unfold pollHpet
  rw [address, unit]
  refine reading.bind fun v p' reached => ?_
  obtain ⟨c, c', start, later, soon, value, holds⟩ := reached
  exact .ret ⟨c, c', start, later, soon, congrArg (· * b.period.setWidth 64) value, holds⟩

/-- The sleep comes to its end: by the counts that are left of it. -/
theorem hpetSleep_ends {counter : Nat} (calibrates : b.Calibrates counter)
    (lasting : Lasting b.toBoard I) {g : Hpet} (address : g.hpetMainCntrAddr = b.mainCounter)
    (unit : g.hpetPeriod = b.period) (holds : p.Holds b s listed (· = counter) I) :
    Task.Ensures (Pc.runningDriver b) (hpetSleep 10 hpetMilliseconds g) p fun _ p' =>
      p'.Holds b s listed (fun _ => True) I := by
  have poll {C : Nat → Prop} {p : Pc} (holds : p.Holds b s listed C I) :=
    pollHpet_reads calibrates.goesOn lasting address unit holds
  apply (poll holds).bind
  rintro now p ⟨_, start, rfl, later, soon, rfl, holds⟩
  obtain ⟨stop, ahead, wakes⟩ := calibrates.wakes start later soon
  unfold ClockedBoard.Wakes at wakes
  change Task.Ensures _ (Task.whileDo (pollHpet g >>= fun now =>
    return decide (now < b.time start + 10 * hpetMilliseconds)) (return ())) _ _
  generalize b.time start + 10 * hpetMilliseconds = endTime at wakes ⊢
  apply Task.Ensures.whileDo
    (I := fun left p => ∃ c, left = stop - c ∧ c < stop ∧ p.Holds b s listed (· = c) I) _
    ⟨start, rfl, ahead, holds⟩
  rintro left p ⟨c, rfl, before, holds⟩
  apply (poll holds).bind
  rintro now p' ⟨_, c', rfl, later, soon, rfl, holds⟩
  apply Task.Ensures.ret
  split
  · next again =>
      have early : c' < stop := by
        by_contra late
        exact wakes c' (by omega) (by omega) (of_decide_eq_true again)
      exact .ret ⟨_, by omega, c', rfl, early, holds⟩
  · exact ⟨holds.intact, holds.found, trivial, holds.computer⟩
end Drivers

end Flosp.Kernel
