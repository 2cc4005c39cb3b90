import Flosp.Kernel.Ps2
import Flosp.Lib.Inevitable

/-! A PS/2 device that answers commands in time, behind a controller that keeps taking what is
written to it. -/

namespace Flosp.Kernel

open Interaction

/-- What a device has in the output buffer and what it has still to send: RESEND some times, and
then the rest. The next byte of the rest comes before the deadline. -/
structure Device where
  output : Option (BitVec 8)
  resends : Nat
  rest : List (BitVec 8)
  deadline : Nat

namespace Device

def incoming (d : Device) : List (BitVec 8) :=
  d.output.toList ++ (List.replicate d.resends ps2Resend ++ d.rest)

def Owes (d : Device) : Prop := d.resends ≠ 0 ∨ d.rest ≠ []

instance (d : Device) : Decidable d.Owes := inferInstanceAs (Decidable (_ ∨ _))

/-- A byte is sent at `now`. One that is no RESEND starts the time for the byte after it. -/
inductive Sends (d : Device) (now : Nat) : Device → Prop
  | resend {n : Nat} : d.output = none → d.resends = n + 1 → now < d.deadline →
      Sends d now { d with output := some ps2Resend, resends := n }
  | next {b : BitVec 8} {rest : List (BitVec 8)} : d.output = none → d.resends = 0 →
      d.rest = b :: rest → now < d.deadline →
      Sends d now ⟨some b, 0, rest, now + ps2TimeoutDuration.toNat⟩

end Device

/-- How a device answers a command: with some RESENDs, an acknowledge, and perhaps its identity. -/
structure Answer where
  command : BitVec 8
  resends : Nat
  identity : List (BitVec 8)

structure TimedWorld where
  device : Device
  /-- to the commands that are still to come -/
  answers : List Answer
  /-- the tick counter -/
  clock : Nat
  /-- How many operations may follow without a tick or a byte. -/
  patience : Nat
  /-- How many status readings until the input buffer is empty. -/
  busy : Nat
  writes : List (Port × BitVec 8)
  /-- The start of the wait for a byte that goes on. -/
  awaiting : Option Nat
  /-- The start that `ps2_wait_for_ack` has noted last. -/
  waitStart : Nat

namespace TimedWorld

/-- Time passes before an operation, and the device may send a byte meanwhile. -/
inductive Passes (w : TimedWorld) : TimedWorld → Prop
  | quiet {clock patience : Nat} : w.clock ≤ clock → (clock = w.clock → patience < w.patience) →
      (w.device.Owes → clock < w.device.deadline) → Passes w { w with clock, patience }
  | sends {sent clock patience : Nat} {device : Device} : w.clock ≤ sent → sent ≤ clock →
      w.device.Sends sent device → (device.Owes → clock < device.deadline) →
      Passes w { w with clock, patience, device }

/-- The status register has bit 0 for the output buffer and bit 1 for the input buffer. -/
def Shows (w : TimedWorld) (status : BitVec 8) : Prop :=
  (status &&& 0b1 = 0 ↔ w.device.output = none) ∧ (status &&& 0b10 = 0 ↔ w.busy = 0)

/-- A reading of the tick counter may start a wait for a byte, or end it. -/
def note (w : TimedWorld) : TickReader → TimedWorld
  | .polRecieveByte | .portIdentify =>
      match w.awaiting with
      | none => { w with awaiting := some w.clock }
      | some start =>
          if start + ps2TimeoutDuration.toNat ≤ w.clock then { w with awaiting := none } else w
  | .waitStart => { w with waitStart := w.clock }
  | _ => w

/-- The device starts to answer a command when it is first written. -/
def hear (w : TimedWorld) (b : BitVec 8) : TimedWorld :=
  match w.answers with
  | [] => w
  | answer :: answers =>
      if b = answer.command then
        { w with
          device := ⟨w.device.output, answer.resends, ps2Ack :: answer.identity,
            w.clock + ps2TimeoutDuration.toNat⟩
          answers }
      else w

def write (w : TimedWorld) (port : Port) (b : BitVec 8) (busy : Nat) : TimedWorld :=
  let w := { w with busy, writes := w.writes ++ [(port, b)] }
  if port = ps2DataPort then w.hear b else w

/-- What an operation does at its time. -/
def Does (w : TimedWorld) : DriverEvent → TimedWorld → Prop
  | ⟨.inb port, b⟩, w' =>
      if port = ps2DataPort then
        (∀ sent ∈ w.device.output, b = sent) ∧
          w' = { w with device := { w.device with output := none } }
      else if port = ps2StatusPort then
        w.Shows b ∧ w' = { w with
          busy := w.busy - 1
          awaiting := if w.device.output = none then w.awaiting else none }
      else w' = w
  | ⟨.outb port b, _⟩, w' => ∃ busy, w' = w.write port b busy
  | ⟨.readTicks reader, now⟩, w' => now = BitVec.ofNat 64 w.clock ∧ w' = w.note reader
  | _, w' => w' = w

def step (e : DriverEvent) (w w' : TimedWorld) : Prop := ∃ v, Passes w v ∧ v.Does e w'

theorem step_quiet {e : DriverEvent} {w w' : TimedWorld} (clock patience : Nat)
    (after : w.clock ≤ clock) (progress : clock = w.clock → patience < w.patience)
    (due : w.device.Owes → clock < w.device.deadline)
    (does : Does { w with clock, patience } e w') : w.step e w' :=
  ⟨_, .quiet after progress due, does⟩

end TimedWorld

/-- Where a wait has found the output buffer empty and a byte has come since, it does not look at
the clock so late that it gives up; and where the clock is looked at, the tick counter does not
wrap around. -/
structure LooksInTime (e : DriverEvent) (w w' : TimedWorld) : Prop where
  room : ∀ reader, e.op = .readTicks reader → w'.clock + ps2TimeoutDuration.toNat < 2 ^ 64
  byte : ∀ reader ∈ [TickReader.polRecieveByte, .portIdentify], e.op = .readTicks reader →
    ∀ start ∈ w.awaiting, w'.device.output ≠ none → w'.clock < start + ps2TimeoutDuration.toNat
  ack : e.op = .readTicks .waitCheck → w'.device.output ≠ none →
    w'.clock < 100 * (w.waitStart + ps2TimeoutDuration.toNat)

def timelyStep (e : DriverEvent) (w w' : TimedWorld) : Prop := w.step e w' ∧ LooksInTime e w w'

/-! What passes without taking a byte. -/

section Passing

variable {d d' : Device} {now : Nat}

theorem Device.Sends.shows (sends : d.Sends now d') : d.output = none ∧ d'.output ≠ none := by
  cases sends with
  | resend empty => exact ⟨empty, nofun⟩
  | next empty => exact ⟨empty, nofun⟩

theorem Device.Sends.incoming (sends : d.Sends now d') : d'.incoming = d.incoming := by
  cases sends with
  | resend empty left => simp [Device.incoming, empty, left, List.replicate_succ]
  | next empty answered left => simp [Device.incoming, empty, answered, left]

theorem Device.Sends.deadline (sends : d.Sends now d') :
    d'.deadline = d.deadline ∨ d'.deadline = now + ps2TimeoutDuration.toNat := by
  cases sends with
  | resend => exact .inl rfl
  | next => exact .inr rfl

/-- Time has passed and `sent` was written, to which the device has not listened. -/
structure Elapsed (w w' : TimedWorld) (sent : List (Port × BitVec 8)) : Prop where
  clock : w.clock ≤ w'.clock
  device : w'.device = w.device ∨
    ∃ now, w.clock ≤ now ∧ now ≤ w'.clock ∧ w.device.Sends now w'.device
  answers : w'.answers = w.answers
  writes : w'.writes = w.writes ++ sent
  waitStart : w'.waitStart = w.waitStart

/-- And no wait for a byte has started. -/
structure Onward (w w' : TimedWorld) (sent : List (Port × BitVec 8)) : Prop
    extends Elapsed w w' sent where
  awaiting : w.awaiting = none → w'.awaiting = none

variable {w v u : TimedWorld} {sent more : List (Port × BitVec 8)}

theorem Elapsed.refl (w : TimedWorld) : Elapsed w w [] :=
  ⟨Nat.le_refl _, .inl rfl, rfl, (List.append_nil _).symm, rfl⟩

theorem Elapsed.trans (first : Elapsed w v sent) (second : Elapsed v u more) :
    Elapsed w u (sent ++ more) where
  clock := first.clock.trans second.clock
  device := by
    rcases first.device with same | ⟨now, after, before, sends⟩
    · rcases second.device with same' | ⟨now, after, before, sends⟩
      · exact .inl (same'.trans same)
      · exact .inr ⟨now, first.clock.trans after, before, same ▸ sends⟩
    · rcases second.device with same' | ⟨now', after', before', sends'⟩
      · exact .inr ⟨now, after, before.trans second.clock, same' ▸ sends⟩
      · exact absurd sends'.shows.1 sends.shows.2
  answers := second.answers.trans first.answers
  writes := by rw [second.writes, first.writes, List.append_assoc]
  waitStart := second.waitStart.trans first.waitStart

theorem Onward.refl (w : TimedWorld) : Onward w w [] := ⟨.refl w, id⟩

theorem Onward.trans (first : Onward w v sent) (second : Onward v u more) :
    Onward w u (sent ++ more) :=
  ⟨first.toElapsed.trans second.toElapsed, second.awaiting ∘ first.awaiting⟩

theorem Elapsed.incoming (elapsed : Elapsed w v sent) :
    v.device.incoming = w.device.incoming := by
  rcases elapsed.device with same | ⟨now, -, -, sends⟩
  · rw [same]
  · exact sends.incoming

theorem Elapsed.shown (elapsed : Elapsed w v sent) (shown : w.device.output ≠ none) :
    v.device = w.device := by
  rcases elapsed.device with same | ⟨now, -, -, sends⟩
  · exact same
  · exact absurd sends.shows.1 shown

theorem Elapsed.unshown (elapsed : Elapsed w v sent) (unshown : v.device.output = none) :
    v.device = w.device := by
  rcases elapsed.device with same | ⟨now, -, -, sends⟩
  · exact same
  · exact absurd unshown sends.shows.2

/-! One operation. -/

theorem passes_later (passes : w.Passes v) : Onward w v [] := by
  cases passes with
  | quiet after => exact ⟨⟨after, .inl rfl, rfl, (List.append_nil _).symm, rfl⟩, id⟩
  | sends after before sends =>
      exact ⟨⟨after.trans before, .inr ⟨_, after, before, sends⟩, rfl,
        (List.append_nil _).symm, rfl⟩, id⟩

theorem passes_awaiting (passes : w.Passes v) : v.awaiting = w.awaiting := by
  cases passes <;> rfl

theorem passes_busy (passes : w.Passes v) : v.busy = w.busy := by
  cases passes <;> rfl

theorem passes_due (passes : w.Passes v) (owes : v.device.Owes) : v.clock < v.device.deadline := by
  cases passes with
  | quiet _ _ due => exact due owes
  | sends _ _ _ due => exact due owes

/-- As long as no byte has come, the clock moves or patience runs out. -/
theorem passes_progress (passes : w.Passes v) (unshown : v.device.output = none) :
    w.clock < v.clock ∨ v.clock = w.clock ∧ v.patience < w.patience := by
  cases passes with
  | quiet after progress =>
      rcases Nat.eq_or_lt_of_le after with same | moved
      · exact .inr ⟨same.symm, progress same.symm⟩
      · exact .inl moved
  | sends _ _ sends => exact absurd unshown sends.shows.2

/-- Operations that neither take a byte nor give one to the device, and start no wait. -/
def Aside : Op → Prop
  | .inb port => port = ps2StatusPort
  | .outb port _ => port = ps2CommandPort
  | .readTicks reader => reader = .portWriteData ∨ reader = .waitCheck
  | _ => True

theorem does_later {e : DriverEvent} (apart : Aside e.op) (does : v.Does e u) :
    Onward v u (portWrites [e]) := by
  have same : Onward v v [] := .refl v
  rcases e with ⟨o, reply⟩
  cases o with
  | inb port =>
      cases (apart : port = ps2StatusPort)
      have other : ps2StatusPort ≠ ps2DataPort := by decide
      simp only [TimedWorld.Does, if_neg other, if_pos] at does
      rw [does.2]
      refine ⟨⟨same.clock, same.device, rfl, same.writes, rfl⟩, ?_⟩
      intro idle
      simp [idle]
  | outb port b =>
      cases (apart : port = ps2CommandPort)
      have other : ps2CommandPort ≠ ps2DataPort := by decide
      rcases does with ⟨busy, rfl⟩
      rw [TimedWorld.write, if_neg other]
      exact ⟨⟨same.clock, same.device, rfl, rfl, rfl⟩, id⟩
  | readTicks reader =>
      rcases does with ⟨-, rfl⟩
      rcases (apart : reader = .portWriteData ∨ reader = .waitCheck) with rfl | rfl
      · exact same
      · exact same
  | load | store | loadVolatile | storeVolatile | enableLapicTimer | console | lidt | sti =>
      cases (does : u = v)
      exact same

theorem step_later {e : DriverEvent} (apart : Aside e.op) (step : w.step e u) :
    Onward w u (portWrites [e]) := by
  rcases step with ⟨v, passes, does⟩
  exact (passes_later passes).trans (does_later apart does)

theorem perform_later {o : Op} (apart : Aside o) :
    Task.Inevitable timelyStep (Task.perform o) w fun reply w' =>
      Onward w w' (portWrites [⟨o, reply⟩]) :=
  .perform fun _ _ step => step_later apart step.1

theorem inputBufferFull_inevitable :
    Task.Inevitable timelyStep inputBufferFull w fun full w' =>
      Onward w w' [] ∧ (full = true → w'.busy < w.busy) := by
  apply Task.Inevitable.op
  intro status w' step
  change BitVec 8 at status
  apply Task.Inevitable.ret
  refine ⟨step_later (e := ⟨.inb ps2StatusPort, status⟩) rfl step.1, ?_⟩
  rcases step with ⟨⟨v, passes, does⟩, -⟩
  have other : ps2StatusPort ≠ ps2DataPort := by decide
  simp only [TimedWorld.Does, if_neg other, if_pos] at does
  intro full
  have busy : v.busy ≠ 0 := fun empty => (of_decide_eq_true full) (does.1.2.mpr empty)
  rw [does.2, ← passes_busy passes]
  exact Nat.sub_one_lt busy

theorem drain_inevitable :
    Task.Inevitable timelyStep (Task.whileDo inputBufferFull (.ret ())) w fun _ w' =>
      Onward w w' [] := by
  apply Task.Inevitable.whileDo (I := fun busy v => Onward w v [] ∧ v.busy = busy) _
    ⟨Onward.refl w, rfl⟩
  intro busy v outcome
  rcases outcome with ⟨later, rfl⟩
  apply inputBufferFull_inevitable.mono
  intro full u read
  cases full with
  | true => exact .ret ⟨_, read.2 rfl, later.trans read.1, rfl⟩
  | false => exact later.trans read.1

theorem awaitInputBuffer_inevitable (start : BitVec 64) :
    Task.Inevitable timelyStep (awaitInputBuffer start) w fun timedOut w' =>
      timedOut = false ∧ Onward w w' [] := by
  rw [awaitInputBuffer_eq]
  apply Task.Inevitable.loop fun x v => x = .inr false ∧ Onward w v []
  · exact (perform_later (o := .inb ps2StatusPort) rfl).bind fun _ v later => .ret ⟨rfl, later⟩
  · intro _ v outcome
    rcases outcome with ⟨⟨⟩, -⟩
  · intro timedOut v outcome
    rcases outcome with ⟨⟨⟩, later⟩
    exact .ret ⟨rfl, later⟩

theorem sendToPort_inevitable (port b : BitVec 8) :
    Task.Inevitable timelyStep (sendToPort port b) w fun _ w' => ∃ v selects busy,
      Onward w v selects ∧ selects ++ [(ps2DataPort, b)] = commandTo port b ∧
        w' = v.write ps2DataPort b busy := by
  have selected : Task.Inevitable timelyStep (selectPort port) w fun _ v =>
      Onward w v (if port = 2 then [(ps2CommandPort, ps2WriteByteInputPort2)] else []) := by
    unfold selectPort
    split
    · apply drain_inevitable.bind
      intro _ v drained
      exact (perform_later (o := .outb ps2CommandPort ps2WriteByteInputPort2) rfl).mono
        fun _ _ later => drained.trans later
    · exact .ret (.refl w)
  apply selected.bind
  intro _ w₁ later₁
  apply (perform_later (o := .readTicks .portWriteData) (.inl rfl)).bind
  intro start w₂ later₂
  apply (awaitInputBuffer_inevitable start).bind
  intro _ w₃ outcome
  rcases outcome with ⟨rfl, later₃⟩
  have written : Task.Inevitable timelyStep (ps2WriteData b) w₃ fun _ w' => ∃ v busy,
      Onward w₃ v [] ∧ w' = v.write ps2DataPort b busy := by
    apply drain_inevitable.bind
    intro _ v later
    apply Task.Inevitable.perform
    intro _ w' outcome
    rcases outcome with ⟨⟨u, passes, busy, rfl⟩, -⟩
    exact ⟨u, busy, later.trans (passes_later passes), rfl⟩
  apply written.bind
  intro _ _ outcome
  rcases outcome with ⟨v, busy, later₄, rfl⟩
  have later := ((later₁.trans later₂).trans later₃).trans later₄
  exact .ret ⟨v, _, busy, later, by simp [commandTo, portWrites], rfl⟩

/-- Sent again, the command is not heard as a new one. -/
theorem resend_inevitable {port cmd : BitVec 8}
    (heard : ∀ answer ∈ w.answers.head?, answer.command ≠ cmd) :
    Task.Inevitable timelyStep (sendToPort port cmd) w fun _ w' =>
      Onward w w' (commandTo port cmd) := by
  apply (sendToPort_inevitable port cmd).mono
  intro _ _ outcome
  rcases outcome with ⟨v, selects, busy, later, whole, rfl⟩
  rw [← whole]
  apply later.trans
  have unheard : ∀ u : TimedWorld, u.answers = w.answers → u.hear cmd = u := by
    intro u same
    unfold TimedWorld.hear
    rw [same]
    cases known : w.answers with
    | nil => rfl
    | cons answer answers =>
        have other := heard answer (by simp [known])
        exact if_neg fun same => other same.symm
  rw [TimedWorld.write, if_pos rfl,
    unheard { v with busy, writes := v.writes ++ [(ps2DataPort, cmd)] } later.answers]
  exact ⟨⟨Nat.le_refl _, .inl rfl, rfl, rfl, rfl⟩, id⟩

/-! The device on time. -/

/-- The time for the next byte has started by now. -/
def TimedWorld.OnTime (w : TimedWorld) : Prop :=
  w.device.deadline ≤ w.clock + ps2TimeoutDuration.toNat

theorem Elapsed.onTime (elapsed : Elapsed w v sent) (onTime : w.OnTime) : v.OnTime := by
  have clock := elapsed.clock
  unfold TimedWorld.OnTime at onTime ⊢
  rcases elapsed.device with same | ⟨now, after, before, sends⟩
  · rw [same]
    omega
  · rcases sends.deadline with same | started
    · rw [same]
      omega
    · rw [started]
      omega

/-- The acknowledge is still to be sent, or it is in the output buffer. -/
def AckDue (start : Nat) (identity : List (BitVec 8)) (d : Device) : Prop :=
  d.rest = ps2Ack :: identity ∧ d.deadline ≤ start + ps2TimeoutDuration.toNat ∨
    d.output = some ps2Ack

theorem Device.Sends.ackDue {start : Nat} {identity : List (BitVec 8)} (sends : d.Sends now d')
    (due : AckDue start identity d) : AckDue start identity d' := by
  rcases due with ⟨owed, early⟩ | shown
  · cases sends with
    | resend => exact .inl ⟨owed, early⟩
    | next empty answered left =>
        rw [owed] at left
        cases left
        exact .inr rfl
  · exact absurd (sends.shows.1.symm.trans shown) nofun

theorem Elapsed.ackDue {start : Nat} {identity : List (BitVec 8)} (elapsed : Elapsed w v sent)
    (due : AckDue start identity w.device) : AckDue start identity v.device := by
  rcases elapsed.device with same | ⟨now, -, -, sends⟩
  · rwa [same]
  · exact sends.ackDue due

/-! Readings of the clock that a wait for a byte goes by. -/

def IsByteReader (reader : TickReader) : Prop := reader ∈ [TickReader.polRecieveByte, .portIdentify]

theorem note_start {reader : TickReader} (reads : IsByteReader reader) (idle : w.awaiting = none) :
    w.note reader = { w with awaiting := some w.clock } := by
  rcases List.mem_pair.mp reads with rfl | rfl <;> simp [TimedWorld.note, idle]

theorem note_check {reader : TickReader} {start : Nat} (reads : IsByteReader reader)
    (waiting : w.awaiting = some start) :
    w.note reader =
      if start + ps2TimeoutDuration.toNat ≤ w.clock then { w with awaiting := none } else w := by
  rcases List.mem_pair.mp reads with rfl | rfl <;> simp [TimedWorld.note, waiting]

end Passing

end Flosp.Kernel
