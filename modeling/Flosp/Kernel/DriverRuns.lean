import Flosp.Kernel.Idt
import Flosp.Kernel.Timers
import Flosp.Lib.Promise

/-! What the drivers that `main` calls perform, whatever they are answered, and the HPET that they
find in memory. -/

namespace Flosp.Kernel

open ByteMemory Interaction

/-- A call of a driver that goes on: nothing critical is logged, and no number in binary. -/
def ConsoleCall.Quiet : ConsoleCall → Prop
  | .kernLog filter _ => filter ≠ 5
  | .kprintBin _ _ => False
  | _ => True

theorem ConsoleCall.debug_quiet (msg : String) : (ConsoleCall.kernLog 1 msg).Quiet :=
  show (1 : BitVec 8) ≠ 5 by decide

theorem ConsoleCall.error_quiet (msg : String) : (ConsoleCall.kernLog 4 msg).Quiet :=
  show (4 : BitVec 8) ≠ 5 by decide

section Operations

variable {P : DriverEvent → Prop} {A : Op → Prop} {α : Type} {Q : α → Prop}

theorem ends_op {o : Op} {f : Reply o → Driver α} (allowed : A o)
    (rest : ∀ r, Task.Ends P A (f r) Q) : Task.Ends P A (Task.perform o >>= f) Q :=
  ⟨allowed, fun r _ => rest r⟩

theorem ends_last {o : Op} (allowed : A o) :
    Task.Ends P A (Task.perform o) fun _ : Reply o => True :=
  ⟨allowed, fun _ _ => trivial⟩

theorem only_op {o : Op} {f : Reply o → Driver α} (allowed : A o)
    (rest : ∀ r, Task.Only A (f r)) : Task.Only A (Task.perform o >>= f) :=
  ⟨allowed, rest⟩

end Operations

/-! The descriptors and the legacy controllers. -/

section Tables

variable {P : DriverEvent → Prop} {A : Op → Prop}

/-- By induction on the vectors left. -/
theorem setDescriptors_ends {isrStubTable : Addr} (turns : Nat) {vect : BitVec 8}
    (loads : ∀ i, i < turns →
      A (.load (isrStubTable + 8 * (vect + BitVec.ofNat 8 i).setWidth 64) 8)) (idt : Idt) :
    (setDescriptors isrStubTable turns vect idt).Ends P A fun _ => True := by
  induction turns generalizing vect idt with
  | zero => trivial
  | succ turns ih =>
      have first := loads 0 (Nat.succ_pos turns)
      rw [BitVec.add_zero] at first
      refine ends_op first fun isr => ih (fun i below => ?_) _
      have later := loads (i + 1) (Nat.succ_lt_succ below)
      rwa [Nat.add_comm i, BitVec.ofNat_add, ← BitVec.add_assoc] at later

theorem disablePic8259_ends (sends : ∀ port value, A (.outb port value)) :
    disablePic8259.Ends P A fun _ => True := by
  have send {port : Port} {value : BitVec 8} {f : Unit → Driver Unit}
      (rest : (f ()).Ends P A fun _ => True) : (outb port value >>= f).Ends P A fun _ => True :=
    ends_op (sends port value) fun _ => rest
  exact send (send (send (send (send (send (send (ends_last (sends _ _))))))))

end Tables

/-! The timers. -/

structure Admits (A : Op → Prop) : Prop where
  prints : ∀ c : ConsoleCall, c.Quiet → A (.console c)
  pitMode : ∀ value, A (.outb pitModeCommandRegister value)
  pitData : ∀ value, A (.outb pitChannel0Data value)

namespace Admits

variable {P : DriverEvent → Prop} {A : Op → Prop} {α : Type} {Q : α → Prop} (admits : Admits A)

include admits

theorem debug {msg : String} {f : Unit → Driver α} (rest : Task.Ends P A (f ()) Q) :
    Task.Ends P A (logDebug msg >>= f) Q :=
  ends_op (admits.prints _ (ConsoleCall.debug_quiet msg)) fun _ => rest

theorem error {msg : String} {f : Unit → Driver α} (rest : Task.Ends P A (f ()) Q) :
    Task.Ends P A (logError msg >>= f) Q :=
  ends_op (admits.prints _ (ConsoleCall.error_quiet msg)) fun _ => rest

theorem kprint {msg : String} {f : Unit → Driver α} (rest : Task.Ends P A (f ()) Q) :
    Task.Ends P A (console (.kprint msg) >>= f) Q :=
  ends_op (admits.prints (.kprint msg) trivial) fun _ => rest

theorem kprintHex {h : BitVec 64} {zeroX : Bool} {f : Unit → Driver α}
    (rest : Task.Ends P A (f ()) Q) : Task.Ends P A (console (.kprintHex h zeroX) >>= f) Q :=
  ends_op (admits.prints (.kprintHex h zeroX) trivial) fun _ => rest

theorem setUpPit_ends (g : Hpet) : (setUpPit g).Ends P A fun _ => True := by
  unfold setUpPit
  split
  · exact admits.debug (admits.debug (ends_last (admits.pitMode _)))
  · apply admits.debug
    apply admits.debug
    refine ends_op (admits.pitMode _) fun _ => ends_op (admits.pitData _) fun _ => ?_
    exact ends_last (admits.pitData _)

end Admits

/-! The HPET that the firmware describes. -/

namespace AcpiTables

variable (tables : AcpiTables) (mem : Memory 64)

def hpetBase : Addr := load mem (tables.hpet + baseAddressOffset) 8

/-- `hpet_init` runs and takes the HPET that the table describes. -/
def AcceptsHpet : Prop :=
  tables.hpet ≠ 0 ∧ tables.hpetBase mem ≠ 0 ∧
    load mem (tables.hpet + addressSpaceOffset) 1 = acpiMemorySpace ∧
    load mem (tables.hpet + revisionOffset) 1 ≠ 0

instance : Decidable (tables.AcceptsHpet mem) := inferInstanceAs (Decidable (_ ∧ _ ∧ _ ∧ _))

/-- The femtoseconds between two counts, as the capabilities of the HPET give them. -/
def hpetPeriod : BitVec 32 := (load mem (tables.hpetBase mem) 8 >>> 32).setWidth 32

/-- The globals that `hpet_init` leaves. -/
def foundHpet : Hpet :=
  if tables.AcceptsHpet mem then
    { hpetPeriod := tables.hpetPeriod mem
      hpetBaseAddr := tables.hpetBase mem
      hpetCfgAddr := tables.hpetBase mem + hpetOffsetGeneralConfiguration
      hpetMainCntrAddr := tables.hpetBase mem + hpetOffsetMainCounterValue }
  else Hpet.loaded

variable {tables mem}

theorem foundHpet_accepted (accepts : tables.AcceptsHpet mem) :
    tables.foundHpet mem = ⟨tables.hpetPeriod mem, tables.hpetBase mem,
      tables.hpetBase mem + hpetOffsetGeneralConfiguration,
      tables.hpetBase mem + hpetOffsetMainCounterValue⟩ :=
  if_pos accepts

theorem foundHpet_base_ne_iff : (tables.foundHpet mem).hpetBaseAddr ≠ 0 ↔ tables.AcceptsHpet mem := by
  rw [foundHpet]
  by_cases accepts : tables.AcceptsHpet mem
  · rw [if_pos accepts]
    exact iff_of_true accepts.2.1 accepts
  · rw [if_neg accepts]
    exact iff_of_false (not_not.mpr rfl) accepts

end AcpiTables

/-- What is read and written to find the HPET, where loads are answered from memory. -/
structure FindsHpet (tables : AcpiTables) (mem : Memory 64) (P : DriverEvent → Prop)
    (A : Op → Prop) : Prop extends Admits A where
  answered : ∀ a n (v : BitVec (8 * n)), A (.load a n) → P ⟨.load a n, v⟩ → v = load mem a n
  base : A (.load (tables.hpet + baseAddressOffset) 8)
  addressSpace : A (.load (tables.hpet + addressSpaceOffset) 1)
  revision : A (.load (tables.hpet + revisionOffset) 1)
  capabilities : A (.load (tables.hpetBase mem) 8)
  readConfig : A (.loadVolatile (tables.hpetBase mem + hpetOffsetGeneralConfiguration) 8)
  writeConfig : ∀ v,
    A (.storeVolatile (tables.hpetBase mem + hpetOffsetGeneralConfiguration) 8 v)

namespace FindsHpet

variable {tables : AcpiTables} {mem : Memory 64} {P : DriverEvent → Prop} {A : Op → Prop} {α : Type}
  {Q : α → Prop} (finds : FindsHpet tables mem P A)

include finds

theorem load {a : Addr} {n : Nat} {f : BitVec (8 * n) → Driver α} (allowed : A (.load a n))
    (rest : Task.Ends P A (f (ByteMemory.load mem a n)) Q) :
    Task.Ends P A (loadAt a n >>= f) Q := by
  refine ⟨allowed, fun v promised => ?_⟩
  exact finds.answered a n v allowed promised ▸ rest

theorem hpetStart_ends {g : Hpet} (base : g.hpetBaseAddr = tables.hpetBase mem) :
    (hpetStart g).Ends P A (· = ⟨tables.hpetPeriod mem, tables.hpetBase mem,
      tables.hpetBase mem + hpetOffsetGeneralConfiguration,
      tables.hpetBase mem + hpetOffsetMainCounterValue⟩) := by
  unfold hpetStart
  simp only [base]
  apply finds.load finds.capabilities
  refine ends_op finds.readConfig fun cfg => ends_op (finds.writeConfig _) fun _ => ?_
  refine ends_op finds.readConfig fun cfg => ends_op (finds.writeConfig _) fun _ => ?_
  exact finds.debug rfl

/-- Which HPET is found depends on the memory alone. -/
theorem detectHpet_ends : (detectHpet tables Hpet.loaded).Ends P A (· = tables.foundHpet mem) := by
  unfold detectHpet AcpiTables.foundHpet
  by_cases listed : tables.hpet = 0
  · rw [if_neg (not_not.mpr listed), if_neg fun accepts => accepts.1 listed]
    rfl
  · rw [if_pos listed]
    apply finds.debug
    apply finds.load finds.base
    apply finds.kprint
    apply finds.kprintHex
    apply finds.kprint
    change (if tables.hpetBase mem = 0 then _ else _ : Driver Hpet).Ends _ _ _
    by_cases null : tables.hpetBase mem = 0
    · rw [if_pos null, if_neg fun accepts => accepts.2.1 null]
      exact finds.error (congrArg (Hpet.mk 0 · 0 0) null)
    · rw [if_neg null]
      apply finds.load finds.addressSpace
      by_cases memory : ByteMemory.load mem (tables.hpet + addressSpaceOffset) 1 = acpiMemorySpace
      · rw [if_neg (not_not.mpr memory)]
        apply finds.load finds.revision
        by_cases revised : ByteMemory.load mem (tables.hpet + revisionOffset) 1 = 0
        · rw [if_pos revised, if_neg fun accepts => accepts.2.2.2 revised]
          exact finds.error rfl
        · rw [if_neg revised, if_pos ⟨listed, null, memory, revised⟩]
          exact finds.hpetStart_ends rfl
      · rw [if_pos memory, if_neg fun accepts => memory accepts.2.2.1]
        exact finds.error rfl

theorem beforeWait_ends (lapicAddr : Addr)
    (divider : ∀ v, A (.storeVolatile (lapicAddr + apicTimerDivider) 4 v))
    (initialCount : ∀ v, A (.storeVolatile (lapicAddr + apicTimerInitialCount) 4 v)) :
    (beforeWait tables lapicAddr Hpet.loaded).Ends P A (· = tables.foundHpet mem) := by
  apply finds.debug
  apply finds.detectHpet_ends.bind
  rintro _ rfl
  apply (finds.setUpPit_ends _).bind
  intro _ _
  apply finds.debug
  refine ends_op (divider _) fun _ => ends_op (initialCount _) fun _ => ?_
  exact finds.debug rfl

end FindsHpet

theorem pollingSleep_only {A : Op → Prop} {read : Driver (BitVec 64)} (reads : Task.Only A read)
    (duration : BitVec 64) : Task.Only A (pollingSleep read duration) :=
  reads.bind fun _ => Task.Only.whileDo (reads.bind fun _ => trivial) trivial

/-- What `timers_init` may do besides, wherever the tables and the LAPIC are. -/
structure AdmitsTimers (A : Op → Prop) (lapicAddr : Addr) : Prop extends Admits A where
  load : ∀ a n, A (.load a n)
  loadVolatile : ∀ a n, A (.loadVolatile a n)
  readTicks : ∀ reader, A (.readTicks reader)
  /-- the registers of the HPET have 64 bits -/
  storeWide : ∀ a v, A (.storeVolatile a 8 v)
  divider : ∀ v, A (.storeVolatile (lapicAddr + apicTimerDivider) 4 v)
  initialCount : ∀ v, A (.storeVolatile (lapicAddr + apicTimerInitialCount) 4 v)
  lvtTimer : ∀ v, v = apicDisable ∨ v = 0x20 ||| apicTimerModePeriodic →
    A (.storeVolatile (lapicAddr + apicLvtTimer) 4 v)
  enable : A .enableLapicTimer

namespace AdmitsTimers

variable {A : Op → Prop} {lapicAddr : Addr} {α : Type} (admits : AdmitsTimers A lapicAddr)

include admits

theorem log {msg : String} {f : Unit → Driver α} (rest : Task.Only A (f ())) :
    Task.Only A (logDebug msg >>= f) :=
  only_op (admits.prints _ (ConsoleCall.debug_quiet msg)) fun _ => rest

theorem detectHpet_only (tables : AcpiTables) (g : Hpet) : Task.Only A (detectHpet tables g) := by
  have start (g : Hpet) : (hpetStart g).Ends (fun _ => True) A fun _ => True := by
    refine ends_op (admits.load _ _) fun capabilities => ?_
    refine ends_op (admits.loadVolatile _ _) fun cfg => ends_op (admits.storeWide _ _) fun _ => ?_
    refine ends_op (admits.loadVolatile _ _) fun cfg => ends_op (admits.storeWide _ _) fun _ => ?_
    exact admits.debug trivial
  apply Task.Ends.only (Q := fun _ => True)
  unfold detectHpet
  split
  · apply admits.debug
    refine ends_op (admits.load _ _) fun base => ?_
    apply admits.kprint
    apply admits.kprintHex
    apply admits.kprint
    split
    · exact admits.error trivial
    · refine ends_op (admits.load _ _) fun space => ?_
      split
      · exact admits.error trivial
      · refine ends_op (admits.load _ _) fun revision => ?_
        split
        · exact admits.error trivial
        · exact start _
  · trivial

theorem calibrationSleep_only (g : Hpet) : Task.Only A (calibrationSleep lapicAddr g) := by
  have poll : Task.Only A (pollHpet g) := only_op (admits.loadVolatile _ _) fun _ => trivial
  have ticks : Task.Only A (Kernel.readTicks .sleepTimer) := Task.only_perform.mpr (admits.readTicks _)
  unfold calibrationSleep
  split
  · exact only_op (admits.initialCount _) fun _ => admits.log (pollingSleep_only poll _)
  · exact only_op (admits.initialCount _) fun _ => admits.log (pollingSleep_only ticks _)

theorem startLapicTimer_only : Task.Only A (startLapicTimer lapicAddr) := by
  apply admits.log
  refine only_op (admits.lvtTimer _ (.inl rfl)) fun _ => ?_
  refine only_op (admits.loadVolatile _ _) fun count => ?_
  apply admits.log
  refine only_op (admits.lvtTimer _ (.inr rfl)) fun _ => ?_
  refine only_op (admits.loadVolatile _ _) fun divider => only_op (admits.divider _) fun _ => ?_
  refine only_op (admits.initialCount _) fun _ => only_op admits.enable fun _ => ?_
  exact Task.only_perform.mpr (admits.prints _ (ConsoleCall.debug_quiet _))

theorem timersInit_only (tables : AcpiTables) (g : Hpet) :
    Task.Only A (timersInit tables lapicAddr g) := by
  apply admits.log
  apply (admits.detectHpet_only tables g).bind
  intro g
  apply (admits.setUpPit_ends g).only.bind
  intro _
  apply admits.log
  apply Task.Only.bind (p := lapicTimerInit lapicAddr g)
  · refine only_op (admits.divider _) fun _ => ?_
    exact (admits.calibrationSleep_only g).bind fun _ => admits.startLapicTimer_only
  · exact fun _ => trivial

end AdmitsTimers

end Flosp.Kernel
