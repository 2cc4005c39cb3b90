import Flosp.Kernel.Computer
import Flosp.Kernel.Walk

/-! What holds in every run of `main`, wherever interrupts come. -/

namespace Flosp.Kernel

open ByteMemory Interaction

namespace Computer

/-- The steps of the computer under `main`, with interrupts between them. -/
def running (b : Board) : KernelEvent → Computer → Computer → Prop :=
  interrupted (step b) (Interrupt b)

def runningDriver (b : Board) : DriverEvent → Computer → Computer → Prop :=
  Task.pulled .driver (fun _ reply => reply) (running b)

/-- From a sound state with `A` all states on the way are sound, and a return leaves `Q`. -/
def Establishes {Op : Type} {Reply : Op → Type} {α : Type} (b : Board)
    (step : Event Op Reply → Computer → Computer → Prop) (p : Task Op Reply α)
    (A : Settled → Prop) (Q : α → Settled → Prop) : Prop :=
  ∀ m : Computer, m.Sound b → A m.settled →
    Task.Guards step p m (Sound b) fun a m' => m'.Sound b ∧ Q a m'.settled

section Rules

variable {Op : Type} {Reply : Op → Type} {α β σ : Type} {b : Board}
  {step' : Event Op Reply → Computer → Computer → Prop} {p : Task Op Reply α}
  {f : α → Task Op Reply β} {A : Settled → Prop} {R : α → Settled → Prop} {Q : β → Settled → Prop}

namespace Establishes

theorem ret {a : α} (holds : ∀ s, A s → R a s) : Establishes b step' (.ret a) A R :=
  fun m sound here => .ret sound ⟨sound, holds m.settled here⟩

theorem bind (first : Establishes b step' p A R)
    (second : ∀ a, Establishes b step' (f a) (R a) Q) : Establishes b step' (p >>= f) A Q :=
  fun m sound here => (first m sound here).bind fun a _ holds => second a _ holds.1 holds.2

theorem mono {R' : α → Settled → Prop} (establishes : Establishes b step' p A R)
    (weaker : ∀ a s, R a s → R' a s) : Establishes b step' p A R' :=
  fun m sound here => (establishes m sound here).mono (fun _ sound => sound)
    fun a _ holds => ⟨holds.1, weaker a _ holds.2⟩

theorem assume {P : Prop} (establishes : P → Establishes b step' p A R) :
    Establishes b step' p (fun s => P ∧ A s) R :=
  fun m sound here => establishes here.1 m sound here.2

theorem weaken {A' : Settled → Prop} (establishes : Establishes b step' p A R)
    (stronger : ∀ s, A' s → A s) : Establishes b step' p A' R :=
  fun m sound here => establishes m sound (stronger _ here)

theorem forever {body : σ → Task Op Reply (σ ⊕ α)} {i : σ}
    (turn : ∀ i, Establishes b step' (body i) A fun x s => x.elim (fun _ => A s) fun _ => False) :
    Establishes b step' (Task.iterate body i) A R := by
  intro m sound here
  apply Task.Guards.iterate (J := fun _ m => m.Sound b ∧ A m.settled) _ ⟨sound, here⟩
  rintro i m ⟨sound, here⟩
  apply (turn i m sound here).mono (fun _ sound => sound)
  rintro (i' | a) m' ⟨sound, here⟩
  · exact ⟨sound, here⟩
  · exact here.elim

end Establishes

def establishing (b : Board) : TaskLogic KernelOp KernelReply where
  Assertion := Settled → Prop
  Triple A p Q := Establishes b (running b) p A Q
  ret _ _ := Establishes.ret fun _ holds => holds
  bind first second := first.bind second

theorem interrupted_establishes {e : KernelEvent} {A' : Settled → Prop}
    (moves : ∀ u v, step b e u v → u.Sound b → A u.settled → v.Sound b ∧ A' v.settled)
    {m m' : Computer} (now : running b e m m') (sound : m.Sound b) (here : A m.settled) :
    m'.Sound b ∧ A' m'.settled := by
  have stable (A : Settled → Prop) : ∀ u u', Interrupt b u u' → u.Sound b ∧ A u.settled →
      u'.Sound b ∧ A u'.settled := by
    rintro u u' interrupt ⟨sound, here⟩
    obtain ⟨sound', same⟩ := interrupt.sound sound
    exact ⟨sound', same ▸ here⟩
  exact interrupted_moves (I := fun u => u.Sound b ∧ A u.settled) (stable A) (stable A')
    (fun u v op holds => moves u v op holds.1 holds.2) now ⟨sound, here⟩

theorem establishes_perform {o : KernelOp} {R : KernelReply o → Settled → Prop}
    (moves : ∀ r u v, step b ⟨o, r⟩ u v → u.Sound b → A u.settled → v.Sound b ∧ R r v.settled) :
    Establishes b (running b) (perform o) A R := by
  intro m sound here
  refine .op sound fun r m' now => ?_
  obtain ⟨sound', holds⟩ := interrupted_establishes (moves r) now sound here
  exact .ret sound' ⟨sound', holds⟩

theorem runningDriver_op {o : Kernel.Op} {r : Kernel.Reply o} {m m' : Computer}
    (now : runningDriver b ⟨o, r⟩ m m') : running b ⟨.driver o, r⟩ m m' := by
  obtain ⟨e', ⟨r', rfl, same⟩, now⟩ := now
  have reply : r' = r := same
  exact reply ▸ now

theorem establishes_driverOp {o : Kernel.Op} {R : Kernel.Reply o → Settled → Prop}
    (moves : ∀ r u v, driverStep b ⟨o, r⟩ u v → u.Sound b → A u.settled →
      v.Sound b ∧ R r v.settled) :
    Establishes b (runningDriver b) (Task.perform o) A R := by
  intro m sound here
  refine .op sound fun r m' now => ?_
  obtain ⟨sound', holds⟩ := interrupted_establishes (e := ⟨.driver o, r⟩) (moves r)
    (runningDriver_op now) sound here
  exact .ret sound' ⟨sound', holds⟩

theorem establishes_driver {p : Driver α} {A : Settled → Prop} {R : α → Settled → Prop}
    (establishes : Establishes b (runningDriver b) p A R) :
    Establishes b (running b) (driver p) A R :=
  fun m sound here => (establishes m sound here).embed

/-- An operation of a driver that keeps `A`. -/
def Keeps (b : Board) (A : Settled → Prop) (o : Kernel.Op) : Prop :=
  ∀ r u v, driverStep b ⟨o, r⟩ u v → u.Sound b → A u.settled → v.Sound b ∧ A v.settled

theorem establishes_only {p : Driver α} {A : Settled → Prop} (only : Task.Only (Keeps b A) p) :
    Establishes b (runningDriver b) p A fun _ s => A s := by
  intro m sound here
  have preserved : ∀ e, Keeps b A e.op → ∀ u u', runningDriver b e u u' →
      u.Sound b ∧ A u.settled → u'.Sound b ∧ A u'.settled := by
    rintro ⟨o, r⟩ keeps u u' now ⟨sound, here⟩
    exact interrupted_establishes (e := ⟨.driver o, r⟩) (keeps r) (runningDriver_op now) sound here
  exact (only.guards preserved ⟨sound, here⟩).mono (fun _ holds => holds.1) fun _ _ holds => holds

end Rules

section Operations

variable {b : Board} {m : Computer} {A R : Settled → Prop}

theorem Sound.registers (sound : m.Sound b) {softwareEnabled : Bool} {lvtTimer initialCount : BitVec 32}
    (vector : lvtTimer.getLsbD 16 = false → lvtTimer.setWidth 8 = (0x20 : BitVec 8)) :
    Sound b { m with lapic := { m.lapic with softwareEnabled, lvtTimer, initialCount } } where
  ready := sound.ready
  served := sound.served
  vectors := sound.vectors
  timerVector := vector
  requested := sound.requested
  address := sound.address
  ticks := sound.ticks
  inService := sound.inService
  stopped := sound.stopped
  before := sound.before

theorem keeps_console (c : ConsoleCall) : Keeps b A (.console c) := by
  rintro r u v rfl sound here
  exact ⟨sound, here⟩

theorem keeps_load (a : Addr) (n : Nat) : Keeps b A (.load a n) := by
  rintro r u v ⟨-, rfl⟩ sound here
  exact ⟨sound, here⟩

theorem keeps_loadVolatile (a : Addr) (n : Nat) : Keeps b A (.loadVolatile a n) := by
  rintro r u v rfl sound here
  exact ⟨sound, here⟩

theorem keeps_readTicks (reader : TickReader) : Keeps b A (.readTicks reader) := by
  rintro r u v ⟨-, rfl⟩ sound here
  exact ⟨sound, here⟩

theorem keeps_outb {port : Port} (unrelated : UnrelatedPort port) (value : BitVec 8) :
    Keeps b A (.outb port value) := by
  rintro r u v step sound here
  have same : v = u := by
    rw [show v = { u with pics := u.pics.write port value } from step,
      Chips.write_unrelated unrelated]
  exact same ▸ ⟨sound, here⟩

theorem keeps_storeWide (a : Addr) (v : BitVec (8 * 8)) : Keeps b A (.storeVolatile a 8 v) := by
  rintro r u v' step sound here
  have same : v' = u := step
  exact same ▸ ⟨sound, here⟩

theorem access_register (m : Computer) (register : Addr) (value : BitVec 32) :
    m.access b (.storeVolatile (b.lapicAddr + register) 4 value) =
      { m with lapic := m.lapic.write register value } := by
  have offset : b.lapicAddr + register - b.lapicAddr = register := by
    rw [BitVec.add_comm, BitVec.add_sub_cancel]
  have written : (value : BitVec (8 * 4)).setWidth 32 = value := BitVec.setWidth_eq value
  rw [access, if_pos rfl, offset, written]

theorem keeps_register {register : Addr} {value : BitVec 32}
    (writes : ∀ l : Lapic, ∃ softwareEnabled lvtTimer initialCount,
      l.write register value = { l with softwareEnabled, lvtTimer, initialCount } ∧
        (lvtTimer = l.lvtTimer ∨ lvtTimer.getLsbD 16 = true ∨ lvtTimer.setWidth 8 = (0x20 : BitVec 8))) :
    Keeps b A (.storeVolatile (b.lapicAddr + register) 4 value) := by
  rintro r u v step sound here
  have moved : v = { u with lapic := u.lapic.write register value } := by
    rw [← access_register]
    exact step
  obtain ⟨softwareEnabled, lvtTimer, initialCount, written, allowed⟩ := writes u.lapic
  rw [moved, written]
  refine ⟨sound.registers fun unmasked => ?_, here⟩
  rcases allowed with rfl | masked | vector
  · exact sound.timerVector unmasked
  · exact absurd (masked.symm.trans unmasked) (by decide)
  · exact vector

/-- The timer is enabled when the handler knows where to acknowledge it. -/
theorem keeps_enableLapicTimer : Keeps b (·.lapicAddr = b.lapicAddr) .enableLapicTimer := by
  rintro r u v rfl sound here
  refine ⟨?_, here⟩
  exact {
    ready := sound.ready
    served := sound.served
    vectors := sound.vectors
    timerVector := sound.timerVector
    requested := sound.requested
    address := fun _ => here
    ticks := sound.ticks
    inService := sound.inService
    stopped := sound.stopped
    before := nofun }

theorem establishes_outb {port : Port} {value : BitVec 8}
    (vectors : ∀ s, A s → (s.interruptFlag = true → s.pics.SlaveVectors) →
      s.interruptFlag = true → (s.pics.write port value).SlaveVectors)
    (holds : ∀ s, A s → R { s with pics := s.pics.write port value }) :
    Establishes b (runningDriver b) (outb port value) A fun _ => R := by
  apply establishes_driverOp
  rintro r u v rfl sound here
  refine ⟨?_, holds _ here⟩
  exact {
    ready := sound.ready
    served := sound.served.write port value
    vectors := vectors _ here sound.vectors
    timerVector := sound.timerVector
    requested := sound.requested
    address := sound.address
    ticks := sound.ticks
    inService := sound.inService
    stopped := sound.stopped
    before := sound.before }

theorem establishes_silent (o : KernelOp) (silent : ∀ r u v, step b ⟨o, r⟩ u v → v = u) :
    Establishes b (running b) (perform o) A fun _ => A := by
  apply establishes_perform
  intro r u v step sound here
  rw [silent r u v step]
  exact ⟨sound, here⟩

theorem establishes_log (filter : BitVec 8) (msg : String) :
    Establishes b (running b) (kernelLog filter msg) A fun _ => A :=
  establishes_driver (establishes_only (Task.only_perform.mpr (keeps_console _)))

theorem establishes_driverKeeps {o : Op} (keeps : Keeps b A o) :
    Establishes b (running b) (driver (Task.perform o)) A fun _ => A :=
  establishes_driver (establishes_only (Task.only_perform.mpr keeps))

end Operations

theorem keeps_timers (b : Board) : AdmitsTimers (Keeps b (·.lapicAddr = b.lapicAddr)) b.lapicAddr where
  prints c _ := keeps_console c
  pitMode := keeps_outb (by unfold UnrelatedPort; decide)
  pitData := keeps_outb (by unfold UnrelatedPort; decide)
  load := keeps_load
  loadVolatile := keeps_loadVolatile
  readTicks := keeps_readTicks
  storeWide := keeps_storeWide
  divider _ := keeps_register fun _ => ⟨_, _, _, rfl, .inl rfl⟩
  initialCount _ := keeps_register fun _ => ⟨_, _, _, rfl, .inl rfl⟩
  lvtTimer v allowed := by
    rcases allowed with rfl | rfl
    · exact keeps_register fun _ => ⟨_, _, _, rfl, .inr (.inl rfl)⟩
    · exact keeps_register fun _ => ⟨_, _, _, rfl, .inr (.inr rfl)⟩
  enable := keeps_enableLapicTimer

section Main

variable {b : Board} {A : Settled → Prop} {α : Type}

def Disabled (s : Settled) : Prop := s.enabled = false

/-- How far the initialization of the slave has come. -/
def SlaveExpects (e : PicData) (s : Settled) : Prop :=
  Disabled s ∧ s.pics.slave.expects = e ∧ s.pics.slave.withIcw4 = true ∧
    (e ≠ .icw2 → s.pics.slave.vectorOffset = icw2Sl)

theorem establishes_master {port : Port} (master : port = picCommandMaster ∨ port = picDataMaster)
    (value : BitVec 8) (holds : ∀ s, A s → A { s with pics := s.pics.write port value }) :
    Establishes b (runningDriver b) (outb port value) A fun _ => A := by
  apply establishes_outb _ holds
  rintro s - vectors flag
  rcases master with rfl | rfl
  · exact vectors flag
  · exact vectors flag

/-- The slave does not interrupt until its initialization is complete, and then with its new
vectors. -/
theorem establishes_slave {port : Port} {value : BitVec 8} {e : PicData}
    (moves : ∀ s, A s → SlaveExpects e { s with pics := s.pics.write port value })
    (initializing : e ≠ .icw2 ∨ e ≠ .interruptMask) :
    Establishes b (runningDriver b) (outb port value) A fun _ => SlaveExpects e := by
  apply establishes_outb _ moves
  rintro s here - - ⟨listens, -⟩
  obtain ⟨-, expects, -, offset⟩ := moves s here
  rcases initializing with set | busy
  · exact offset set
  · exact absurd (expects.symm.trans listens) busy

theorem disablePic8259_establishes :
    Establishes b (runningDriver b) disablePic8259 Disabled fun _ => Disabled := by
  apply (establishes_master (.inl rfl) icw1 fun _ holds => holds).bind
  intro _
  have started : Establishes b (runningDriver b) (outb picCommandSlave icw1) Disabled
      fun _ => SlaveExpects .icw2 :=
    establishes_slave (fun s here => ⟨here, rfl, rfl, fun other => absurd rfl other⟩)
      (.inr (by decide))
  apply started.bind
  intro _
  apply (establishes_master (.inr rfl) icw2Ma fun _ holds => holds).bind
  intro _
  have offset : Establishes b (runningDriver b) (outb picDataSlave icw2Sl) (SlaveExpects .icw2)
      fun _ => SlaveExpects .icw3 := by
    apply establishes_slave _ (.inr (by decide))
    rintro s ⟨here, expects, icw4, -⟩
    refine ⟨here, ?_⟩
    simp [Chip.writeData, Pic8259.data, expects, icw4]
  apply offset.bind
  intro _
  apply (establishes_master (.inr rfl) icw3Ma fun _ holds => holds).bind
  intro _
  have cascade : Establishes b (runningDriver b) (outb picDataSlave icw3Sl) (SlaveExpects .icw3)
      fun _ => SlaveExpects .icw4 := by
    apply establishes_slave _ (.inr (by decide))
    rintro s ⟨here, expects, icw4, vectors⟩
    refine ⟨here, ?_⟩
    simp [Chip.writeData, Pic8259.data, expects, icw4, vectors]
  apply cascade.bind
  intro _
  apply (establishes_master (.inr rfl) icw4 fun _ holds => holds).bind
  intro _
  have complete : Establishes b (runningDriver b) (outb picDataSlave icw4) (SlaveExpects .icw4)
      fun _ => SlaveExpects .interruptMask := by
    apply establishes_slave _ (.inl (by decide))
    rintro s ⟨here, expects, icw4, vectors⟩
    refine ⟨here, ?_⟩
    simp [Chip.writeData, Pic8259.data, expects, icw4, vectors]
  exact complete.mono fun _ _ holds => holds.1

/-- A frozen CPU takes no interrupts. -/
theorem kernelFreeze_establishes {R : α → Settled → Prop} :
    Establishes b (running b) (kernelFreeze : KernelTask α) A R := by
  apply (establishes_log 5 _).bind
  intro _
  apply Establishes.weaken (A := fun _ => True) _ fun _ _ => trivial
  apply Establishes.forever
  intro _
  have closed : Establishes b (running b) (perform .cli) (fun _ => True) fun _ _ => True := by
    apply establishes_perform
    rintro r u v rfl sound -
    refine ⟨?_, trivial⟩
    exact {
      ready := nofun
      served := sound.served
      vectors := nofun
      timerVector := sound.timerVector
      requested := sound.requested
      address := sound.address
      ticks := sound.ticks
      inService := sound.inService
      stopped := sound.stopped
      before := sound.before }
  apply closed.bind
  intro _
  apply (establishes_silent .hlt fun _ _ _ same => same).bind
  intro _
  exact .ret fun _ holds => holds

theorem haltForever_establishes {R : α → Settled → Prop} :
    Establishes b (running b) (haltForever : KernelTask α) A R := by
  apply Establishes.forever
  intro _
  apply (establishes_silent .hlt fun _ _ _ same => same).bind
  intro _
  exact .ret fun _ holds => holds

theorem frozen_establishes {R : α → Settled → Prop} (msg : String) (f : Unit → KernelTask α) :
    Establishes b (running b) (kernelLog 5 msg >>= fun _ => kernelFreeze >>= f) A R :=
  (establishes_log 5 msg).bind fun _ =>
    (kernelFreeze_establishes (R := fun _ _ => False)).bind fun _ _ _ never => never.elim

theorem checkApic_establishes : Establishes b (running b) checkApic A fun _ => A := by
  apply (establishes_silent (.cpuid 1) fun _ _ _ same => same).bind
  intro features
  dsimp only
  split
  · exact (establishes_log 5 _).bind fun _ => kernelFreeze_establishes
  · exact .ret fun _ holds => holds

def Closed (s : Settled) : Prop :=
  s.interruptFlag = false ∧ Disabled s ∧ s.pics.slave.expects = .interruptMask

/-- The GDT is loaded and the slave is masked. -/
def Shielded (s : Settled) : Prop :=
  s.interruptFlag = false ∧ Disabled s ∧ s.gdtLoaded = true ∧ s.pics.slave.mask = 0xFF

theorem maskPicInterrupts_establishes :
    Establishes b (runningDriver b) maskPicInterrupts (fun s => Closed s ∧ s.gdtLoaded = true)
      fun _ => Shielded := by
  apply (establishes_master (.inr rfl) 0xFF fun _ holds => holds).bind
  intro _
  apply establishes_outb
  · rintro s ⟨⟨closed, -⟩, -⟩ - flag
    exact absurd (closed.symm.trans flag) (by decide)
  · rintro s ⟨⟨closed, disabled, idle⟩, loaded⟩
    refine ⟨closed, disabled, loaded, ?_⟩
    simp [Chip.writeData, Pic8259.data, idle]

theorem sti_establishes : Establishes b (runningDriver b)
    (Task.perform (Op.lidt ⟨idtLimit, b.idt⟩) >>= fun _ =>
      logDebug "Debug: Setting interrupt flag" >>= fun _ => Task.perform Op.sti)
    Shielded fun _ => Disabled := by
  have loaded : Establishes b (runningDriver b) (Task.perform (Op.lidt ⟨idtLimit, b.idt⟩)) Shielded
      fun _ s => Shielded s ∧ s.idtr = some ⟨idtLimit, b.idt⟩ := by
    apply establishes_driverOp
    rintro r u v rfl sound here
    refine ⟨?_, here, rfl⟩
    exact {
      ready := fun flag => ⟨(sound.ready flag).1, rfl⟩
      served := sound.served
      vectors := sound.vectors
      timerVector := sound.timerVector
      requested := sound.requested
      address := sound.address
      ticks := sound.ticks
      inService := sound.inService
      stopped := sound.stopped
      before := sound.before }
  apply loaded.bind
  intro _
  apply (establishes_only (Task.only_perform.mpr (keeps_console _))).bind
  intro _
  apply establishes_driverOp
  rintro r u v rfl sound ⟨⟨-, disabled, gdt, masked⟩, idtr⟩
  refine ⟨?_, disabled⟩
  exact {
    ready := fun _ => ⟨gdt, idtr⟩
    served := sound.served
    vectors := fun _ listens => absurd masked listens.2
    timerVector := sound.timerVector
    requested := sound.requested
    address := sound.address
    ticks := sound.ticks
    inService := sound.inService
    stopped := sound.stopped
    before := sound.before }

theorem idtInit_establishes (isrStubTable : Addr) (idt : Idt) :
    Establishes b (runningDriver b) (idtInit isrStubTable b.idt idt)
      (fun s => Closed s ∧ s.gdtLoaded = true) fun _ => Disabled := by
  have log (A : Settled → Prop) (msg : String) :
      Establishes b (runningDriver b) (logDebug msg) A fun _ => A :=
    establishes_only (Task.only_perform.mpr (keeps_console _))
  have descriptors (turns : Nat) (vect : BitVec 8) (idt : Idt) :
      Establishes b (runningDriver b) (setDescriptors isrStubTable turns vect idt)
        (fun s => Closed s ∧ s.gdtLoaded = true) fun _ s => Closed s ∧ s.gdtLoaded = true :=
    establishes_only (setDescriptors_ends turns (fun _ _ => keeps_load _ _) idt).only
  apply (log _ _).bind
  intro _
  apply (descriptors 32 0 idt).bind
  intro idt
  apply (descriptors 16 32 idt).bind
  intro idt
  apply (log _ _).bind
  intro _
  apply maskPicInterrupts_establishes.bind
  intro _
  apply (log _ _).bind
  intro _
  have opened := (sti_establishes (b := b)).bind fun _ =>
    (Establishes.ret (fun _ holds => holds) : Establishes b (runningDriver b) (.ret idt) Disabled
      fun _ => Disabled)
  simp only [Task.bind_assoc] at opened
  exact opened

/-- What the computer is like at each stage. -/
def reachedAt (b : Board) : Stage → Settled → Prop
  | .shown => Closed
  | .gdtLoaded => fun s => Closed s ∧ s.gdtLoaded = true
  | .looking _ => Disabled
  | .listed => Disabled
  | .located lapicAddr => fun s => lapicAddr = b.lapicAddr ∧ Disabled s
  | .lapic lapicAddr => fun s => lapicAddr = b.lapicAddr ∧ s.lapicAddr = b.lapicAddr
  | .timers lapicAddr _ => fun s => lapicAddr = b.lapicAddr ∧ s.lapicAddr = b.lapicAddr
  | .ticking => fun s => s.lapicAddr = b.lapicAddr

theorem gdtInitAsm_establishes :
    Establishes b (running b) (perform .gdtInitAsm) Closed
      fun _ s => Closed s ∧ s.gdtLoaded = true := by
  apply establishes_perform
  rintro r u v rfl sound here
  refine ⟨?_, here, rfl⟩
  exact {
    ready := fun flag => ⟨rfl, (sound.ready flag).2⟩
    served := sound.served
    vectors := sound.vectors
    timerVector := sound.timerVector
    requested := sound.requested
    address := sound.address
    ticks := sound.ticks
    inService := sound.inService
    stopped := sound.stopped
    before := sound.before }

/-- `timer_handler` is told where the LAPIC is before the timer is enabled. -/
theorem setLapicAddr_establishes (lapicAddr : Addr) :
    Establishes b (running b) (perform (.setLapicAddr lapicAddr)) (reachedAt b (.located lapicAddr))
      fun _ => reachedAt b (.lapic lapicAddr) := by
  apply Establishes.assume
  rintro rfl
  apply establishes_perform
  rintro r u v rfl sound here
  refine ⟨?_, rfl, rfl⟩
  exact {
    ready := sound.ready
    served := sound.served
    vectors := sound.vectors
    timerVector := sound.timerVector
    requested := sound.requested
    address := fun _ => rfl
    ticks := sound.ticks
    inService := sound.inService
    stopped := sound.stopped
    before := sound.before }

theorem writeSpurious_establishes (lapicAddr : Addr) (v : BitVec 32) :
    Establishes b (running b) (driver (lapicWriteReg (lapicAddr + spuriousVector) v))
      (reachedAt b (.lapic lapicAddr)) fun _ => reachedAt b (.lapic lapicAddr) := by
  apply Establishes.assume
  rintro rfl
  have keeps : Keeps b (·.lapicAddr = b.lapicAddr)
      (.storeVolatile (b.lapicAddr + spuriousVector) 4 v) :=
    keeps_register fun _ => ⟨_, _, _, rfl, .inl rfl⟩
  exact (establishes_driverKeeps keeps).mono fun _ _ holds => ⟨rfl, holds⟩

theorem timersInit_establishes (lapicAddr : Addr) (tables : AcpiTables) :
    Establishes b (running b) (driver (timersInit tables lapicAddr Hpet.loaded))
      (reachedAt b (.timers lapicAddr tables)) fun _ => reachedAt b .ticking := by
  apply Establishes.assume
  rintro rfl
  exact establishes_driver (establishes_only ((keeps_timers b).timersInit_only tables Hpet.loaded))

theorem main_walk (b : Board) (isrStubTable bootInfo : Addr) :
    Walk (establishing b) isrStubTable b.idt bootInfo Closed (reachedAt b) where
  prints _ c _ := establishes_driverKeeps (keeps_console c)
  video := establishes_silent (.initializeVideo _) fun _ _ _ same => same
  gdt := gdtInitAsm_establishes
  idt := establishes_driver (idtInit_establishes isrStubTable Idt.loaded)
  root _ := establishes_driverKeeps (keeps_load _ _)
  missing f Q := frozen_establishes _ f
  version xsdpTable := establishes_silent (.acpiVcheck xsdpTable) fun _ _ _ same => same
  checksum xsdpTable := establishes_silent (.acpiCcheck xsdpTable) fun _ _ _ same => same
  tables xsdpTable := establishes_silent (.acpiInit xsdpTable) fun _ _ _ same => same
  apic := checkApic_establishes
  pics := establishes_driver disablePic8259_establishes
  address := by
    apply establishes_perform
    rintro r u v ⟨rfl, rfl⟩ sound here
    exact ⟨sound, rfl, here⟩
  saved := setLapicAddr_establishes
  base _ := establishes_silent .enableLapicBase fun _ _ _ same => same
  readSpurious _ := establishes_driverKeeps (keeps_loadVolatile _ _)
  writeSpurious := writeSpurious_establishes
  told _ := by
    apply establishes_perform
    rintro r u v ⟨-, rfl⟩ sound here
    exact ⟨sound, here⟩
  calibrated := timersInit_establishes
  scrolled := establishes_silent .kscrollDown fun _ _ _ same => same
  number n := establishes_silent (.kprintNum n) fun _ _ _ same => same

theorem main_establishes (b : Board) (kver : String) (isrStubTable bootInfo : Addr) :
    Establishes b (running b) (main kver isrStubTable b.idt bootInfo) Closed fun _ _ => False := by
  rw [main_eq]
  apply Establishes.bind ((main_walk b isrStubTable bootInfo).untilHalt_walk kver)
  intro _
  exact haltForever_establishes

/-- Every state in a run of `main` is sound, and none is the last. -/
theorem main_sound (kver : String) (isrStubTable bootInfo : Addr) {m : Computer}
    (start : m.HandedOver) :
    Task.Guards (running b) (main kver isrStubTable b.idt bootInfo) m (Sound b) fun _ _ => False :=
  (main_establishes b kver isrStubTable bootInfo m start.sound
    ⟨start.closed, congrArg TimerState.lapicTimerEnabled start.timer, start.idle.2⟩).mono
    (fun _ sound => sound) fun _ _ never => never.2

end Main

def quietBoard : Board where
  mem := fun _ => 0
  acpiTables := ⟨0, 0, 0, 0, 0⟩
  lapicAddr := 0xFEE00000
  keyTables := ⟨0x3000, 0x3100⟩
  idt := 0x200000

def firmwareComputer : Computer where
  gdtLoaded := false
  idtr := none
  interruptFlag := false
  pics := ⟨⟨⟨0xB8, 0x08, true, .interruptMask⟩, 0x04, 0⟩, ⟨⟨0x8F, 0x70, true, .interruptMask⟩, 0x02, 0⟩⟩
  lapic := ⟨true, 0x10000, 0, [], []⟩
  globals := ⟨⟨0, false⟩, 0, false, false⟩
  ledger := ⟨0, 0, 0⟩

theorem firmwareComputer_handedOver : firmwareComputer.HandedOver :=
  ⟨rfl, ⟨rfl, rfl⟩, ⟨rfl, rfl⟩, by decide, ⟨rfl, rfl⟩, rfl, rfl⟩

/-- The handlers are in place before interrupts are let in, and every interrupt of the legacy
controllers is acknowledged to those that have it in service. -/
structure Attended (b : Board) (m : Computer) : Prop where
  ready : m.interruptFlag = true → m.gdtLoaded = true ∧ m.idtr = some ⟨idtLimit, b.idt⟩
  served : m.pics.Served

/-- In every run of `main` interrupts are attended to, and `main` does not return. -/
theorem main_attended (b : Board) (kver : String) (isrStubTable bootInfo : Addr) (m : Computer)
    (start : m.HandedOver) :
    Task.Guards (running b) (main kver isrStubTable b.idt bootInfo) m (Attended b)
      fun _ _ => False :=
  (main_sound kver isrStubTable bootInfo start).mono (fun _ sound => ⟨sound.ready, sound.served⟩)
    fun _ _ never => never

theorem firmwareComputer_attended :
    Task.Guards (running quietBoard) (main "0.0.0" 0x101000 quietBoard.idt 0x5000) firmwareComputer
      (Attended quietBoard) fun _ _ => False :=
  main_attended quietBoard "0.0.0" 0x101000 0x5000 firmwareComputer firmwareComputer_handedOver

/-- How the uptime goes with the interrupts of the timers. -/
structure KeepsTime (m : Computer) : Prop where
  ticks : m.globals.timer.ticks = BitVec.ofNat 64 m.ledger.counted
  acknowledged : m.ledger.early = 0 → m.lapic.inService = []
  stopped : 0 < m.ledger.early → m.ledger.strays = 0 →
    m.globals.timer.ticks = 0 ∧ ∀ vector, ¬ m.lapic.Presents vector

theorem Sound.keepsTime {b : Board} {m : Computer} (sound : m.Sound b) : m.KeepsTime where
  ticks := sound.ticks
  acknowledged early := by
    rw [sound.inService, if_neg]
    rintro ⟨some, -⟩
    omega
  stopped early strays := by
    constructor
    · rw [sound.ticks, sound.stopped early strays]
      rfl
    · intro vector presents
      exact (sound.presents presents).2.2 ⟨early, strays⟩

/-- In every run of `main` each interrupt at vector 0x20 since `lapic_timer_enabled` is one tick. An
interrupt of the LAPIC's timer that comes before is never acknowledged, and no other follows it:
the uptime stays zero until a legacy controller interrupts at the same vector. -/
theorem main_keepsTime (b : Board) (kver : String) (isrStubTable bootInfo : Addr) (m : Computer)
    (start : m.HandedOver) :
    Task.Always (running b) (main kver isrStubTable b.idt bootInfo) m KeepsTime :=
  (main_sound kver isrStubTable bootInfo start).always.mono fun _ sound => sound.keepsTime

theorem firmwareComputer_keepsTime :
    Task.Always (running quietBoard) (main "0.0.0" 0x101000 quietBoard.idt 0x5000) firmwareComputer
      KeepsTime :=
  main_keepsTime quietBoard "0.0.0" 0x101000 0x5000 firmwareComputer firmwareComputer_handedOver

end Computer

end Flosp.Kernel
