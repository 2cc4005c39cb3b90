import Flosp.Kernel.TimedDevice

/-! A device that sends each byte as soon as it can. -/

namespace Flosp.Kernel

open Interaction

def Device.sendNow (d : Device) (now : Nat) : Device :=
  match d.output, d.resends, d.rest with
  | none, resends + 1, _ => { d with output := some ps2Resend, resends }
  | none, 0, b :: rest => ⟨some b, 0, rest, now + ps2TimeoutDuration.toNat⟩
  | _, _, _ => d

def TimedWorld.eager (w : TimedWorld) : TimedWorld :=
  { w with device := w.device.sendNow w.clock, patience := w.patience - 1 }

/-- Its clock stands still. -/
def eagerAnswer : (o : Op) → TimedWorld → Reply o × TimedWorld
  | .inb port, w =>
      if port = ps2DataPort then
        (w.eager.device.output.getD 0,
          { w.eager with device := { w.eager.device with output := none } })
      else if port = ps2StatusPort then
        (if w.eager.device.output = none then (0 : BitVec 8) else (1 : BitVec 8),
          { w.eager with
            busy := w.eager.busy - 1
            awaiting := if w.eager.device.output = none then w.eager.awaiting else none })
      else ((0 : BitVec 8), w.eager)
  | .outb port b, w => ((), w.eager.write port b 0)
  | .readTicks reader, w => (BitVec.ofNat 64 w.eager.clock, w.eager.note reader)
  | .load _ n, w | .loadVolatile _ n, w => (BitVec.zero (8 * n), w.eager)
  | .store _ _ _, w | .storeVolatile _ _ _, w | .enableLapicTimer, w | .console _, w | .lidt _, w
  | .sti, w => ((), w.eager)

structure TimedWorld.CanGoOn (operations : Nat) (w : TimedWorld) : Prop where
  patience : operations ≤ w.patience
  busy : w.busy = 0
  due : w.device.Owes → w.clock < w.device.deadline
  room : w.clock + ps2TimeoutDuration.toNat < 2 ^ 64
  awaiting : ∀ start ∈ w.awaiting, start = w.clock
  waitStart : w.clock < 100 * (w.waitStart + ps2TimeoutDuration.toNat)

section Eager

variable {w : TimedWorld} {operations : Nat}

theorem sendNow_sends {d : Device} {now : Nat} (due : d.Owes → now < d.deadline) :
    d.sendNow now = d ∨ d.Sends now (d.sendNow now) := by
  rcases d with ⟨output, resends, rest, deadline⟩
  cases output with
  | some b => exact .inl rfl
  | none =>
      cases resends with
      | succ resends => exact .inr (.resend rfl rfl (due (.inl (Nat.succ_ne_zero _))))
      | zero =>
          cases rest with
          | nil => exact .inl rfl
          | cons b rest => exact .inr (.next rfl rfl rfl (due (.inr (List.cons_ne_nil _ _))))

theorem sends_due {d d' : Device} {now : Nat} (sends : d.Sends now d') : now < d'.deadline := by
  cases sends with
  | resend _ _ before => exact before
  | next => exact Nat.lt_add_of_pos_right (by decide)

theorem sendNow_due {d : Device} {now : Nat} (due : d.Owes → now < d.deadline) :
    (d.sendNow now).Owes → now < (d.sendNow now).deadline := by
  rcases sendNow_sends due with same | sends
  · rwa [same]
  · exact fun _ => sends_due sends

theorem eager_passes (canGoOn : w.CanGoOn (operations + 1)) : w.Passes w.eager := by
  have patient : w.patience - 1 < w.patience := by
    have more := canGoOn.patience
    omega
  rcases sendNow_sends canGoOn.due with same | sends
  · rw [TimedWorld.eager, same]
    exact .quiet (Nat.le_refl _) (fun _ => patient) canGoOn.due
  · exact .sends (Nat.le_refl _) (Nat.le_refl _) sends (sendNow_due canGoOn.due)

theorem eager_canGoOn (canGoOn : w.CanGoOn (operations + 1)) : w.eager.CanGoOn operations where
  patience := by
    have more := canGoOn.patience
    change operations ≤ w.patience - 1
    omega
  busy := canGoOn.busy
  due := sendNow_due canGoOn.due
  room := canGoOn.room
  awaiting := canGoOn.awaiting
  waitStart := canGoOn.waitStart

/-- An operation at a world that can go on, without a tick. -/
def TimedWorld.GoesOn (operations : Nat) (w w' : TimedWorld) : Prop :=
  w'.CanGoOn operations ∧ w'.clock = w.clock

theorem note_goesOn (canGoOn : w.CanGoOn operations) (reader : TickReader) :
    w.GoesOn operations (w.note reader) := by
  have duration : ps2TimeoutDuration.toNat = 100 := rfl
  have byteReader : IsByteReader reader → w.GoesOn operations (w.note reader) := by
    intro reads
    cases goes : w.awaiting with
    | none =>
        rw [note_start reads goes]
        refine ⟨⟨canGoOn.patience, canGoOn.busy, canGoOn.due, canGoOn.room, ?_,
          canGoOn.waitStart⟩, rfl⟩
        intro start noted
        exact (Option.some.inj noted).symm
    | some start =>
        have now : start = w.clock := canGoOn.awaiting start goes
        rw [note_check reads goes, if_neg (by omega)]
        exact ⟨canGoOn, rfl⟩
  cases reader with
  | polRecieveByte => exact byteReader List.mem_cons_self
  | portIdentify => exact byteReader (List.mem_cons_of_mem _ List.mem_cons_self)
  | waitStart =>
      refine ⟨⟨canGoOn.patience, canGoOn.busy, canGoOn.due, canGoOn.room, canGoOn.awaiting, ?_⟩,
        rfl⟩
      change w.clock < 100 * (w.clock + ps2TimeoutDuration.toNat)
      omega
  | portWriteData | waitCheck | sleepTimer => exact ⟨canGoOn, rfl⟩

theorem hear_goesOn (canGoOn : w.CanGoOn operations) (b : BitVec 8) :
    w.GoesOn operations (w.hear b) := by
  unfold TimedWorld.hear
  split
  · exact ⟨canGoOn, rfl⟩
  · split
    · refine ⟨⟨canGoOn.patience, canGoOn.busy, fun _ => ?_, canGoOn.room, canGoOn.awaiting,
        canGoOn.waitStart⟩, rfl⟩
      exact Nat.lt_add_of_pos_right (by decide)
    · exact ⟨canGoOn, rfl⟩

theorem write_goesOn (canGoOn : w.CanGoOn operations) (port : Port) (b : BitVec 8) :
    w.GoesOn operations (w.write port b 0) := by
  have written : TimedWorld.CanGoOn operations
      { w with busy := 0, writes := w.writes ++ [(port, b)] } :=
    ⟨canGoOn.patience, rfl, canGoOn.due, canGoOn.room, canGoOn.awaiting, canGoOn.waitStart⟩
  rw [TimedWorld.write]
  split
  · exact hear_goesOn written b
  · exact ⟨written, rfl⟩

theorem eager_does (canGoOn : w.eager.CanGoOn operations) (o : Op) :
    w.eager.Does ⟨o, (eagerAnswer o w).1⟩ (eagerAnswer o w).2 ∧
      w.eager.GoesOn operations (eagerAnswer o w).2 := by
  cases o with
  | inb port =>
      rw [eagerAnswer, TimedWorld.Does]
      split
      · refine ⟨⟨?_, rfl⟩, ⟨canGoOn.patience, canGoOn.busy, canGoOn.due, canGoOn.room,
          canGoOn.awaiting, canGoOn.waitStart⟩, rfl⟩
        intro sent shown
        rw [Option.mem_def.mp shown]
        rfl
      · split
        · refine ⟨⟨?_, rfl⟩, ⟨canGoOn.patience, ?_, canGoOn.due, canGoOn.room, ?_,
            canGoOn.waitStart⟩, rfl⟩
          · have drained := canGoOn.busy
            by_cases unshown : w.eager.device.output = none
            · simp [TimedWorld.Shows, unshown, drained]
            · simp [TimedWorld.Shows, unshown, drained]
          · simp [canGoOn.busy]
          · dsimp only
            split
            · exact canGoOn.awaiting
            · intro _ noted
              cases noted
        · exact ⟨rfl, canGoOn, rfl⟩
  | outb port b => exact ⟨⟨0, rfl⟩, write_goesOn canGoOn port b⟩
  | readTicks reader => exact ⟨⟨rfl, rfl⟩, note_goesOn canGoOn reader⟩
  | load | loadVolatile | store | storeVolatile | enableLapicTimer | console | lidt | sti =>
      exact ⟨rfl, canGoOn, rfl⟩

theorem eagerAnswer_step (canGoOn : w.CanGoOn (operations + 1)) (o : Op) :
    timelyStep ⟨o, (eagerAnswer o w).1⟩ w (eagerAnswer o w).2 ∧
      (eagerAnswer o w).2.CanGoOn operations := by
  rcases eager_does (eager_canGoOn canGoOn) o with ⟨does, goesOn, same⟩
  refine ⟨⟨⟨w.eager, eager_passes canGoOn, does⟩, fun _ _ => goesOn.room, ?_, ?_⟩, goesOn⟩
  · intro reader _ _ start noted _
    have now := canGoOn.awaiting start noted
    rw [same, now]
    exact Nat.lt_add_of_pos_right (by decide)
  · intro _ _
    rw [same]
    exact canGoOn.waitStart

theorem follows_timely {t : List DriverEvent} {w' : TimedWorld}
    (follows : Follows (Task.answers eagerAnswer) t w w') (canGoOn : w.CanGoOn t.length) :
    Follows timelyStep t w w' := by
  induction t generalizing w with
  | nil => exact follows
  | cons e t ih =>
      rcases follows with ⟨mid, answered, later⟩
      have step := eagerAnswer_step canGoOn e.op
      rw [Task.answers] at answered
      rw [answered] at step
      exact ⟨mid, step.1, ih later step.2⟩

end Eager

end Flosp.Kernel
