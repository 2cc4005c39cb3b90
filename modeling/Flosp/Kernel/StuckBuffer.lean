import Flosp.Kernel.Ps2

/-! Writing to a PS/2 port while the controller does not take bytes. The timed wait of
`ps2_port_write_data` never notices, and the waits that do have no timeout. -/

namespace Flosp.Kernel

open Interaction

/-- A controller whose input buffer may be stuck: what the status register holds otherwise and
the tick counter, at each operation of a call. -/
structure StuckController where
  status : Nat → BitVec 8
  ticks : Nat → BitVec 64
  rising : ∀ {j k}, j ≤ k → ticks j ≤ ticks k

/-- A call of `ps2_port_write_data` so far: its operations, the start time that it took, and
whether it wrote to the data port. -/
structure SendProgress where
  count : Nat
  start : Option (BitVec 64)
  sent : Bool

def SendProgress.initial : SendProgress := ⟨0, none, false⟩

namespace StuckController

def Stuck (c : StuckController) (s : SendProgress) : Prop :=
  ∀ start ∈ s.start, (c.ticks s.count).toNat < start.toNat + ps2TimeoutDuration.toNat

instance (c : StuckController) (s : SendProgress) : Decidable (c.Stuck s) :=
  inferInstanceAs (Decidable (∀ start ∈ s.start, _))

/-- The status that is read: while the buffer is stuck its bit 1 is set. -/
def shown (c : StuckController) (s : SendProgress) : BitVec 8 :=
  if c.Stuck s then c.status s.count ||| 0b10 else c.status s.count

def step (c : StuckController) : DriverEvent → SendProgress → SendProgress → Prop
  | ⟨.inb port, status⟩, s, s' =>
      (port = ps2StatusPort → status = c.shown s) ∧ s' = { s with count := s.count + 1 }
  | ⟨.readTicks .portWriteData, now⟩, s, s' =>
      now = c.ticks s.count ∧
        s' = { s with count := s.count + 1, start := s.start.or (some (c.ticks s.count)) }
  | ⟨.readTicks _, now⟩, s, s' => now = c.ticks s.count ∧ s' = { s with count := s.count + 1 }
  | ⟨.outb port _, _⟩, s, s' =>
      s' = { s with count := s.count + 1, sent := s.sent || decide (port = ps2DataPort) }
  | _, s, s' => s' = { s with count := s.count + 1 }

/-- A stuck buffer is reported: the call returns 1 and has written no byte. -/
def Reported (c : StuckController) (g : Ps2) (port b : BitVec 8) : Prop :=
  Task.Ensures c.step (ps2PortWriteData g port b) .initial fun r s => r = 1 ∧ s.sent = false

section Waits

variable {c : StuckController} {g : Ps2} {port : BitVec 8}

/-- Every call for a valid port that returns has written its byte and returns 0. -/
theorem sends_anyway (valid : ¬ g.InvalidPort port) (b : BitVec 8) (s : SendProgress) :
    Task.Satisfies c.step (ps2PortWriteData g port b) s fun r s' => r = 0 ∧ s'.sent = true := by
  rw [ps2PortWriteData_eq, if_neg valid]
  intro t r s' run follows
  rcases sendToPort_runs run with ⟨rfl, u, rfl⟩
  rcases follows_append.mp follows with ⟨mid, -, last, wrote, rfl⟩
  rw [wrote]
  simp

theorem not_reported (valid : ¬ g.InvalidPort port) (b : BitVec 8) : ¬ c.Reported g port b := by
  intro reported
  rcases reported.possible.meets (sends_anyway valid b .initial) with ⟨r, s, returned, sent⟩
  simp [returned.2] at sent

theorem reported_of_invalid (invalid : g.InvalidPort port) (b : BitVec 8) :
    c.Reported g port b := by
  unfold Reported
  rw [ps2PortWriteData_eq, if_pos invalid]
  apply Task.ensures_op.mpr
  constructor
  · exact ⟨(), _, rfl⟩
  · intro reply s logged
    rw [logged]
    exact Task.ensures_ret.mpr ⟨rfl, rfl⟩

/-- A stuck buffer is reported if and only if the port failed its test, so that nothing is
waited for. -/
theorem reported_iff (c : StuckController) (g : Ps2) (port b : BitVec 8) :
    c.Reported g port b ↔ g.InvalidPort port := by
  constructor
  · intro reported
    by_contra valid
    exact not_reported valid b reported
  · intro invalid
    exact reported_of_invalid invalid b

theorem inputBufferFull_stuck {s : SendProgress} (untaken : s.start = none) :
    Task.Satisfies c.step inputBufferFull s fun full s' => full = true ∧ s'.start = none := by
  have masked : ∀ status : BitVec 8, (status ||| 0b10) &&& 0b10 ≠ 0 := by decide
  refine Task.satisfies_op.mpr fun status s' read => ?_
  have stuck : c.Stuck s := by simp [Stuck, untaken]
  have full : status = c.status s.count ||| 0b10 := (read.1 rfl).trans (if_pos stuck)
  refine Task.satisfies_ret.mpr ⟨decide_eq_true ?_, read.2 ▸ untaken⟩
  rw [full]
  exact masked _

/-- The second port is selected before that, and its wait goes on for ever. -/
theorem port2_waits (valid : g.port2 ≠ 0) (b : BitVec 8) :
    ¬ Task.Possible c.step (ps2PortWriteData g 2 b) .initial fun _ _ => True := by
  have waits : Task.Satisfies c.step (Task.whileDo inputBufferFull (.ret ())) .initial
      fun _ _ => False := by
    refine Task.satisfies_iterate (I := fun _ s => s.start = none) ?_ rfl
    intro _ s untaken
    refine (inputBufferFull_stuck untaken).bind fun full s' read => ?_
    rw [read.1]
    exact Task.satisfies_ret.mpr read.2
  have usable : ¬ g.InvalidPort 2 := by
    intro outcome
    rcases outcome with both | both
    · exact valid both.2
    · exact absurd both.1 (by decide)
  rw [ps2PortWriteData_eq, if_neg usable]
  intro returns
  have selects : Task.Satisfies c.step (selectPort 2) .initial fun _ _ => False :=
    waits.bind fun _ _ => False.elim
  have never : Task.Satisfies c.step (sendToPort 2 b) .initial fun _ _ => False :=
    selects.bind fun _ _ => False.elim
  rcases returns.meets never with ⟨_, _, -, absurd⟩
  exact absurd

end Waits

/-- Busy for 100 ticks after the start, which is at 0. -/
def slow : StuckController where
  status := fun _ => 0
  ticks := fun k => BitVec.ofNat 64 (min (50 * k) 100)
  rising := by
    intro j k later
    have exactly_ (i : Nat) : (BitVec.ofNat 64 (min (50 * i) 100)).toNat = min (50 * i) 100 := by
      rw [BitVec.toNat_ofNat]
      omega
    rw [BitVec.le_def, exactly_, exactly_]
    omega

/-- After 100 ticks the byte is written all the same. -/
theorem slow_not_reported :
    (Task.Possible slow.step (ps2PortWriteData Ps2.loaded 1 ps2DisableScanning) .initial
      fun r s => r = 0 ∧ s.sent = true) ∧ ¬ slow.Reported Ps2.loaded 1 ps2DisableScanning := by
  have valid : ¬ Ps2.loaded.InvalidPort 1 := by decide
  constructor
  · rw [ps2PortWriteData_eq, if_neg valid]
    apply Task.possible_op.mpr
    refine ⟨_, _, ⟨rfl, rfl⟩, ?_⟩
    have reads : slow.step ⟨.inb ps2StatusPort, slow.shown ⟨1, some 0, false⟩⟩ ⟨1, some 0, false⟩
        ⟨2, some 0, false⟩ := ⟨fun _ => rfl, rfl⟩
    apply (awaitInputBuffer_possible reads 0).bind
    intro timedOut s waited
    rcases waited with ⟨rfl, rfl⟩
    rw [if_neg Bool.false_ne_true]
    have drained : slow.shown ⟨2, some 0, false⟩ = 0 :=
      if_neg (by simp [Stuck, slow, ps2TimeoutDuration])
    have free : Task.Possible slow.step (Task.whileDo inputBufferFull (.ret ())) ⟨2, some 0, false⟩
        fun _ s => s = ⟨3, some 0, false⟩ := by
      apply Task.Possible.unroll
      exact Task.possible_op.mpr
        ⟨(0 : BitVec 8), _, ⟨fun _ => drained.symm, rfl⟩, Task.possible_ret.mpr rfl⟩
    have written : Task.Possible slow.step (ps2WriteData ps2DisableScanning) ⟨2, some 0, false⟩
        fun _ s => s.sent = true := by
      apply free.bind
      intro _ s same
      rw [same]
      exact Task.possible_op.mpr ⟨(), _, rfl, Task.possible_ret.mpr rfl⟩
    apply written.bind
    intro _ s sent
    exact Task.possible_ret.mpr ⟨rfl, sent⟩
  · exact not_reported valid _

end StuckController

end Flosp.Kernel
