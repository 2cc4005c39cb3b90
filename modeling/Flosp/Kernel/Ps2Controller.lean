import Flosp.Kernel.Ps2
import Mathlib.Data.BitVec

/-! A PS/2 controller that stores its configuration byte and answers commands in order, and
what the transfer functions of `drivers/ps2.c` do with it. -/

namespace Flosp.Kernel

open Interaction

/-- The channels that a controller has and how its self tests come out. -/
structure ControllerKind where
  dualChannel : Bool
  controllerTest : BitVec 8
  port1Test : BitVec 8
  port2Test : BitVec 8

/-- Where the next byte that is written to the data port goes. -/
inductive DataTarget where
  | device
  | configByte
  | port2
  deriving DecidableEq

structure Controller where
  config : BitVec 8
  /-- the bytes that wait to be read -/
  output : List (BitVec 8)
  target : DataTarget
  /-- the last configuration byte that was written -/
  written : Option (BitVec 8)

/-- What a command does to the configuration byte. Bit 4 disables port 1 and bit 5 port 2. -/
def ControllerKind.switch (k : ControllerKind) (cmd config : BitVec 8) : BitVec 8 :=
  if cmd = ps2DisablePort then config ||| 0b00010000
  else if cmd = ps2EnablePort then config &&& 0b11101111
  else if cmd = ps2DisablePort2 ∧ k.dualChannel then config ||| 0b00100000
  else if cmd = ps2EnablePort2 ∧ k.dualChannel then config &&& 0b11011111
  else config

/-- The answer to a command. -/
def ControllerKind.answer (k : ControllerKind) (cmd config : BitVec 8) : List (BitVec 8) :=
  if cmd = ps2ReadConfigByte then [config]
  else if cmd = ps2ControllerTest then [k.controllerTest]
  else if cmd = ps2TestPort then [k.port1Test]
  else if cmd = ps2TestPort2 ∧ k.dualChannel then [k.port2Test]
  else []

def ControllerKind.target (k : ControllerKind) (cmd : BitVec 8) : DataTarget :=
  if cmd = ps2WriteConfigByte then .configByte
  else if cmd = ps2WriteByteInputPort2 ∧ k.dualChannel then .port2
  else .device

def Controller.command (k : ControllerKind) (c : Controller) (cmd : BitVec 8) : Controller where
  config := k.switch cmd c.config
  output := c.output ++ k.answer cmd c.config
  target := k.target cmd
  written := c.written

def Controller.data (c : Controller) (value : BitVec 8) : Controller :=
  match c.target with
  | .configByte => { c with config := value, target := .device, written := some value }
  | .device | .port2 => { c with target := .device }

/-- The controller and the devices behind it. -/
structure Ps2Hardware where
  controller : Controller
  /-- a byte was sent to a device, which may send anything from then on -/
  addressed : Bool
  /-- the readings of the status until the last byte is taken -/
  busy : Nat
  /-- the readings of the status until the output is shown -/
  latency : Nat

namespace Ps2Hardware

/-- Bit 0 is for output that waits, bit 1 for input that is not taken yet. -/
def ShowsStatus (s : Ps2Hardware) (status : BitVec 8) : Prop :=
  (status &&& 0b1 ≠ 0 ↔ s.controller.output ≠ [] ∧ s.latency = 0) ∧
    (status &&& 0b10 ≠ 0 ↔ s.busy ≠ 0)

/-- A byte is written. The controller takes it some time later, and an answer takes time too. -/
def Takes (s : Ps2Hardware) (c : Controller) (addressed : Bool) (s' : Ps2Hardware) : Prop :=
  s'.controller = c ∧ s'.addressed = addressed ∧
    (c.output = s.controller.output → s'.latency ≤ s.latency)

def tick (s : Ps2Hardware) : Ps2Hardware :=
  { s with busy := s.busy - 1, latency := s.latency - 1 }

def read (s : Ps2Hardware) : Ps2Hardware :=
  { s with controller := { s.controller with output := s.controller.output.tail } }

end Ps2Hardware

def controllerStep (k : ControllerKind) : DriverEvent → Ps2Hardware → Ps2Hardware → Prop
  | ⟨.inb port, reply⟩, s, s' =>
      if port = ps2StatusPort then
        s' = s.tick ∧ (s.addressed = false → s.ShowsStatus reply)
      else if port = ps2DataPort then
        s' = s.read ∧ (s.addressed = false → ∀ b ∈ s.controller.output.head?, reply = b)
      else s' = s
  | ⟨.outb port value, _⟩, s, s' =>
      if port = ps2CommandPort then
        s.Takes (s.controller.command k value) s.addressed s'
      else if port = ps2DataPort then
        s.Takes (s.controller.data value)
          (s.addressed || decide (s.controller.target ≠ .configByte)) s'
      else s' = s
  | _, s, s' => s' = s

/-- No device has been addressed yet and the controller is as `c` says. -/
structure Ready (c : Controller) (s : Ps2Hardware) : Prop where
  controller : s.controller = c
  addressed : s.addressed = false

def Shown (s : Ps2Hardware) : Prop := s.controller.output = [] ∨ s.latency = 0

section Transfers

variable {k : ControllerKind} {c : Controller} {s : Ps2Hardware}

theorem Ready.tick (ready : Ready c s) : Ready c s.tick := ⟨ready.controller, ready.addressed⟩

theorem Shown.tick (shown : Shown s) : Shown s.tick := by
  rcases shown with empty | now
  · exact .inl empty
  · exact .inr (by simp [Ps2Hardware.tick, now])

theorem showsStatus_exists (s : Ps2Hardware) : ∃ status, s.ShowsStatus status := by
  by_cases output : s.controller.output ≠ [] ∧ s.latency = 0 <;>
    by_cases input : s.busy ≠ 0
  · exact ⟨3, by simp [output], by simp [input]⟩
  · exact ⟨1, by simp [output], by simp [input]⟩
  · exact ⟨2, iff_of_false (by decide) output, iff_of_true (by decide) input⟩
  · exact ⟨0, iff_of_false (by decide) output, iff_of_false (by decide) input⟩

theorem status_ensures {test : BitVec 8 → Bool} {Q : Bool → Ps2Hardware → Prop} (ready : Ready c s)
    (told : ∀ status, s.ShowsStatus status → Q (test status) s.tick) :
    Task.Ensures (controllerStep k) (do
      let status ← inb ps2StatusPort
      return test status) s Q := by
  obtain ⟨status, shows_⟩ := showsStatus_exists s
  refine .op ⟨status, s.tick, ?_⟩ fun reply s' step => .ret ?_
  · simp [controllerStep, shows_]
  · simp only [controllerStep, if_true] at step
    rw [step.1]
    exact told reply (step.2 ready.addressed)

theorem read_ensures {b : BitVec 8} {rest : List (BitVec 8)} {Q : BitVec 8 → Ps2Hardware → Prop}
    (ready : Ready c s) (waits : c.output = b :: rest) (told : Q b s.read) :
    Task.Ensures (controllerStep k) (inb ps2DataPort) s Q := by
  have head : s.controller.output.head? = some b := by rw [ready.controller, waits]; rfl
  have other : ps2DataPort ≠ ps2StatusPort := by decide
  refine .op ⟨b, s.read, ?_⟩ fun reply s' step => .ret ?_
  · simp only [controllerStep, if_neg other, if_true]
    exact ⟨trivial, fun _ x now => Option.some_inj.mp (head.symm.trans now)⟩
  · simp only [controllerStep, if_neg other, if_true] at step
    rw [step.1, step.2 ready.addressed b head]
    exact told

structure Later (s s' : Ps2Hardware) : Prop where
  controller : s'.controller = s.controller
  addressed : s'.addressed = s.addressed
  latency : s'.latency ≤ s.latency

theorem Later.refl (s : Ps2Hardware) : Later s s := ⟨rfl, rfl, Nat.le_refl _⟩

theorem Later.tick {s' : Ps2Hardware} (later : Later s s') : Later s s'.tick :=
  ⟨later.controller, later.addressed, (Nat.sub_le _ _).trans later.latency⟩

theorem Later.ready {s' : Ps2Hardware} (later : Later s s') (ready : Ready c s) : Ready c s' :=
  ⟨later.controller.trans ready.controller, later.addressed.trans ready.addressed⟩

theorem Later.shown {s' : Ps2Hardware} (later : Later s s') (shown : Shown s) : Shown s' := by
  have bound := later.latency
  rcases shown with empty | now
  · exact .inl (later.controller ▸ empty)
  · exact .inr (by omega)

theorem inputBuffer_ensures (ready : Ready c s) :
    Task.Ensures (controllerStep k) (Task.whileDo inputBufferFull (return ())) s
      fun _ s' => Later s s' := by
  refine Task.Ensures.whileDo (I := fun n s' => s'.busy = n ∧ Later s s') (fun n s' now => ?_)
    ⟨rfl, .refl s⟩
  obtain ⟨turns, later⟩ := now
  apply status_ensures (later.ready ready)
  intro status shows_
  by_cases full : status &&& 0b10 ≠ 0
  · have positive := shows_.2.mp full
    rw [if_pos (decide_eq_true full)]
    exact .ret ⟨n - 1, by omega, by simp [Ps2Hardware.tick, turns], later.tick⟩
  · rw [if_neg (by simpa using full)]
    exact later.tick

theorem outputBuffer_ensures (ready : Ready c s) (waits : c.output ≠ []) :
    Task.Ensures (controllerStep k) (Task.whileDo outputBufferEmpty (return ())) s
      fun _ s' => Later s s' := by
  refine Task.Ensures.whileDo (I := fun n s' => s'.latency = n ∧ Later s s') (fun n s' now => ?_)
    ⟨rfl, .refl s⟩
  obtain ⟨turns, later⟩ := now
  have ready' := later.ready ready
  apply status_ensures ready'
  intro status shows_
  by_cases empty : status &&& 0b1 = 0
  · have hidden : s'.latency ≠ 0 := fun shown =>
      shows_.1.mpr ⟨ready'.controller ▸ waits, shown⟩ empty
    rw [if_pos (decide_eq_true empty)]
    exact .ret ⟨n - 1, by omega, by simp [Ps2Hardware.tick, turns], later.tick⟩
  · rw [if_neg (by simpa using empty)]
    exact later.tick

theorem sendCmd_ensures (ready : Ready c s) (cmd : BitVec 8) :
    Task.Ensures (controllerStep k) (ps2SendCmd cmd) s fun _ s' =>
      Ready (c.command k cmd) s' ∧ (k.answer cmd c.config = [] → Shown s → Shown s') := by
  apply (inputBuffer_ensures ready).bind
  intro _ s₁ later
  have ready₁ := later.ready ready
  refine .op ⟨(), ⟨s₁.controller.command k cmd, s₁.addressed, 0, 0⟩, ?_⟩ fun _ s' step => .ret ?_
  · simp [controllerStep, Ps2Hardware.Takes]
  · simp only [controllerStep, if_true, ready₁.controller, ready₁.addressed] at step
    refine ⟨⟨step.1, step.2.1⟩, fun silent shown => ?_⟩
    have kept : (c.command k cmd).output = c.output := by
      rw [Controller.command, silent, List.append_nil]
    rcases later.shown shown with empty | now
    · left
      rw [step.1, kept, ← ready₁.controller, empty]
    · right
      have bound := step.2.2 (kept.trans (congrArg _ ready₁.controller).symm)
      omega

theorem writeData_ensures (ready : Ready c s) (config : c.target = .configByte) (value : BitVec 8) :
    Task.Ensures (controllerStep k) (ps2WriteData value) s fun _ s' => Ready (c.data value) s' := by
  apply (inputBuffer_ensures ready).bind
  intro _ s₁ later
  have ready₁ := later.ready ready
  have other : ps2DataPort ≠ ps2CommandPort := by decide
  let addressed := s₁.addressed || decide (s₁.controller.target ≠ .configByte)
  refine .op ⟨(), ⟨s₁.controller.data value, addressed, 0, 0⟩, ?_⟩ fun _ s' step => .ret ?_
  · simp [controllerStep, other, Ps2Hardware.Takes, addressed]
  · simp only [controllerStep, if_neg other, if_true, ready₁.controller, ready₁.addressed,
      config] at step
    exact ⟨step.1, step.2.1⟩

theorem readData_ensures {b : BitVec 8} {rest : List (BitVec 8)} (ready : Ready c s)
    (waits : c.output = b :: rest) :
    Task.Ensures (controllerStep k) ps2ReadData s fun value s' =>
      value = b ∧ Ready { c with output := rest } s' := by
  apply (outputBuffer_ensures ready (by simp [waits])).bind
  intro _ s₁ later
  have ready₁ := later.ready ready
  refine read_ensures ready₁ waits ⟨rfl, ?_, ready₁.addressed⟩
  rw [Ps2Hardware.read, ready₁.controller, waits]
  rfl

theorem readData_waits (ready : Ready c s) (empty : c.output = []) :
    Task.Satisfies (controllerStep k) ps2ReadData s fun _ _ => False := by
  refine Task.satisfies_bind.mpr ?_
  refine Task.satisfies_iterate (I := fun _ s' => Ready c s') (fun _ s' ready => ?_) ready
  refine Task.satisfies_bind.mpr (Task.Ensures.satisfies ?_)
  apply status_ensures ready
  intro status shows_
  have none : status &&& 0b1 = 0 := by
    by_contra some
    exact (shows_.1.mp some).1 (ready.controller ▸ empty)
  rw [decide_eq_true none, if_pos rfl]
  simp only [Task.pure_eq, Task.ret_bind, Task.satisfies_ret]
  exact ready.tick

theorem lowBit_set : ∀ status : BitVec 8, status &&& 0b1 = 1 ↔ status &&& 0b1 ≠ 0 := by
  decide

theorem flush_ensures (ready : Ready c s) (shown : Shown s) :
    Task.Ensures (controllerStep k) flushPs2OutputBuffer s fun _ s' =>
      Ready { c with output := [] } s' := by
  refine .op ⟨(), s, rfl⟩ fun _ s₁ step => ?_
  cases step
  refine Task.Ensures.whileDo (I := fun n s' =>
    ∃ output, output.length = n ∧ Ready { c with output } s' ∧ Shown s') (fun n s' now => ?_)
    ⟨c.output, rfl, ready, shown⟩
  obtain ⟨output, count, ready', shown'⟩ := now
  apply status_ensures ready'
  intro status shows_
  cases output with
  | nil =>
      have none : ¬ status &&& 0b1 = 1 := by
        rw [lowBit_set, shows_.1, ready'.controller]
        simp
      rw [decide_eq_false none]
      exact ready'.tick
  | cons b rest =>
      have some : status &&& 0b1 = 1 := by
        rw [lowBit_set, shows_.1, ready'.controller]
        refine ⟨List.cons_ne_nil b rest, ?_⟩
        rcases shown' with empty | now
        · rw [ready'.controller] at empty
          cases empty
        · exact now
      rw [decide_eq_true some, if_pos rfl]
      refine (read_ensures (Q := fun _ s' => _) ready'.tick rfl ?_).bind fun _ s'' lower => .ret lower
      refine ⟨rest.length, by simp [← count], rest, rfl, ⟨?_, ready'.addressed⟩, ?_⟩
      · rw [Ps2Hardware.read, ready'.tick.controller]
        rfl
      · rcases shown'.tick with empty | now
        · rw [ready'.tick.controller] at empty
          cases empty
        · exact .inr now

/-- The configuration byte is read, and everything else that was shown is gone. -/
theorem readConfig_ensures (ready : Ready c s) (shown : Shown s) :
    Task.Ensures (controllerStep k) readPs2ControllerConfig s fun config s' =>
      config = c.config ∧ Ready { c with output := [], target := .device } s' := by
  apply (flush_ensures ready shown).bind
  intro _ s₁ ready₁
  apply (sendCmd_ensures ready₁ ps2ReadConfigByte).bind
  intro _ s₂ sent
  apply (readData_ensures sent.1 (b := c.config) rfl).bind
  intro config s₃ got
  refine .op ⟨(), s₃, rfl⟩ fun _ s₄ step => ?_
  cases step
  refine .op ⟨(), s₃, rfl⟩ fun _ s₄ step => ?_
  cases step
  refine .op ⟨(), s₃, rfl⟩ fun _ s₄ step => .ret ?_
  cases step
  exact got

theorem writeConfig_ensures (ready : Ready c s) (config : BitVec 8) :
    Task.Ensures (controllerStep k) (writePs2ControllerConfig config) s fun _ s' =>
      Ready { c with config, target := .device, written := some config } s' := by
  refine .op ⟨(), s, rfl⟩ fun _ s₁ step => ?_
  cases step
  refine .op ⟨(), s, rfl⟩ fun _ s₁ step => ?_
  cases step
  refine .op ⟨(), s, rfl⟩ fun _ s₁ step => ?_
  cases step
  apply (sendCmd_ensures ready ps2WriteConfigByte).bind
  intro _ s₂ sent
  apply (writeData_ensures sent.1 rfl config).mono
  intro _ s₃ ready₃
  have silent : c.output ++ k.answer ps2WriteConfigByte c.config = c.output :=
    List.append_nil c.output
  rw [← silent]
  exact ready₃

end Transfers

end Flosp.Kernel
