import Flosp.Kernel.Isr
import Flosp.Kernel.Keyboard
import Flosp.Kernel.Timers
import Flosp.Lib.Reachable

/-! What the stubs call: `interrupt_handler` and `page_fault_handler` (`cpu/idt.c`). -/

namespace Flosp.Kernel

open ByteMemory Interaction

/-- The globals that the handlers of `timers.c`, `apic.c` and `keyboard.c` use. -/
structure HandlerGlobals where
  timer : TimerState
  lapicAddr : Addr
  keyboardEnabled : Bool
  shiftDown : Bool

/-- `&cpu_status->int_vector` and so on, by their offsets -/
def intVectorOffset : Addr := 128
def errorOffset : Addr := 136
def errorCodeOffset : Addr := 144

def picEoi : BitVec 8 := 0x20

def logCritical (msg : String) : Driver Unit := console (.kernLog 5 msg)

/-- `cpu_freeze`. After `cli` no interrupt ends its `hlt`. -/
def driverFreeze {α : Type} : Driver α := do
  logCritical "CPU Frozen"
  Task.iterate (fun _ : Unit => return .inl ()) ()

/-- The last lines before the CPU freezes. -/
def printErrorCode {α : Type} (cpuStatus : Addr) : Driver α := do
  console (.kprint "Error Code: ")
  let errorCode ← loadAt (cpuStatus + errorCodeOffset) 8
  console (.kprintHex errorCode true)
  console (.kprint "\n")
  driverFreeze

/-- The condition is `error_code & 0x01 || 1`. -/
def pageFaultHandler (cpuStatus : Addr) : Driver Unit := do
  let _ ← loadAt (cpuStatus + errorCodeOffset) 8
  logCritical "\nFlosp OS has encountered an exception and cannot continue"
  logCritical "Page Fault"
  printErrorCode cpuStatus

/-- `interrupt_handler` on an exception -/
def handleException (cpuStatus : Addr) (g : HandlerGlobals) : Driver (Addr × HandlerGlobals) := do
  let intVector ← loadAt (cpuStatus + intVectorOffset) 8
  if intVector = 0x0E then
    pageFaultHandler cpuStatus
    return (cpuStatus, g)
  logCritical "\nFlosp OS has encountered an exception and cannot continue"
  let intVector ← loadAt (cpuStatus + intVectorOffset) 8
  if intVector = 0x0D then
    logCritical "General Protection Fault"
    printErrorCode cpuStatus
  else
    console (.kprint "Interrupt vector: ")
    let intVector ← loadAt (cpuStatus + intVectorOffset) 8
    console (.kprintHex intVector true)
    console (.kprint "\n")
    printErrorCode cpuStatus

/-- The `switch` of `interrupt_handler` -/
def handleInterrupt (tables : KeyTables) (cpuStatus : Addr) (g : HandlerGlobals) :
    Driver (Addr × HandlerGlobals) := do
  let intVector ← loadAt (cpuStatus + intVectorOffset) 8
  if intVector = 0x20 then
    let (cpuStatus, timer) ← timerHandler g.lapicAddr cpuStatus g.timer
    return (cpuStatus, { g with timer })
  else if intVector = 0x21 then
    if g.keyboardEnabled then
      let shiftDown ← keyboardHandler tables g.shiftDown
      return (cpuStatus, { g with shiftDown })
    else
      return (cpuStatus, g)
  else if intVector = 0x2C then
    flushPs2OutputBuffer
    return (cpuStatus, g)
  else
    console (.kprint "Unexpected Interrupt: ")
    let intVector ← loadAt (cpuStatus + intVectorOffset) 8
    console (.kprintHex intVector true)
    console (.kprint "\n")
    return (cpuStatus, g)

/-- "Send EOI to PIC" -/
def endOfInterrupt (cpuStatus : Addr) : Driver Unit := do
  let intVector ← loadAt (cpuStatus + intVectorOffset) 8
  if intVector ≥ 8 + 32 then
    outb picCommandSlave picEoi
  outb picCommandMaster picEoi

def interruptHandler (tables : KeyTables) (cpuStatus : Addr) (g : HandlerGlobals) :
    Driver (Addr × HandlerGlobals) := do
  let error ← loadAt (cpuStatus + errorOffset) 8
  if error ≠ 0 then
    handleException cpuStatus g
  else
    let (cpuStatus, g) ← handleInterrupt tables cpuStatus g
    endOfInterrupt cpuStatus
    return (cpuStatus, g)

/-! The machine that a handler sees. -/

/-- What was written to ports and registers of devices, and the bytes that the PS/2 controller
holds. -/
structure Handling where
  writes : List Op
  pending : List (BitVec 8)

def OutputFull (status : BitVec 8) : Prop := status &&& 0b1 = 1

instance (status : BitVec 8) : Decidable (OutputFull status) := inferInstanceAs (Decidable (_ = _))

def handlingStep (mem : Memory 64) : DriverEvent → Handling → Handling → Prop
  | ⟨.load a n, v⟩, s, s' => v = load mem a n ∧ s' = s
  | ⟨.inb port, b⟩, s, s' =>
      if port = ps2StatusPort then (OutputFull b ↔ s.pending ≠ []) ∧ s' = s
      else if port = ps2DataPort then s' = { s with pending := s.pending.tail }
      else s' = s
  | ⟨.outb port value, _⟩, s, s' => s' = { s with writes := s.writes ++ [.outb port value] }
  | ⟨.storeVolatile a n v, _⟩, s, s' =>
      s' = { s with writes := s.writes ++ [.storeVolatile a n v] }
  | _, s, s' => s' = s

def lapicEoi (g : HandlerGlobals) (vector : BitVec 64) : List Op :=
  if vector = 0x20 ∧ g.timer.lapicTimerEnabled = true then
    [.storeVolatile (g.lapicAddr + apicEoi) 4 (0 : BitVec 32)]
  else []

def picEois (vector : BitVec 64) : List Op :=
  (if vector ≥ 8 + 32 then [.outb picCommandSlave picEoi] else []) ++
    [.outb picCommandMaster picEoi]

def TimerState.handle (t : TimerState) (vector : BitVec 64) : TimerState :=
  if vector = 0x20 ∧ t.lapicTimerEnabled = true then { t with ticks := t.ticks + 1 } else t

/-- The structure is handed back, and of the globals only the time and the shift key change. -/
structure HandsBack (cpuStatus : Addr) (vector : BitVec 64) (g : HandlerGlobals)
    (r : Addr × HandlerGlobals) : Prop where
  pointer : r.1 = cpuStatus
  timer : r.2.timer = g.timer.handle vector
  lapicAddr : r.2.lapicAddr = g.lapicAddr
  keyboardEnabled : r.2.keyboardEnabled = g.keyboardEnabled
  shiftDown : vector ≠ 0x21 ∨ g.keyboardEnabled = false → r.2.shiftDown = g.shiftDown

/-- What an interrupt leaves. Every one is acknowledged, the mouse's output is dropped. -/
structure HandledInterrupt (cpuStatus : Addr) (vector : BitVec 64) (g : HandlerGlobals) (s : Handling)
    (r : Addr × HandlerGlobals) (s' : Handling) : Prop where
  handsBack : HandsBack cpuStatus vector g r
  writes : s'.writes = s.writes ++ (lapicEoi g vector ++ picEois vector)
  flushed : vector = 0x2C → s'.pending = []

section Handlers

variable {mem : Memory 64} {tables : KeyTables} {cpuStatus : Addr} {g : HandlerGlobals}
  {s : Handling} {α : Type} {Q : α → Handling → Prop}

theorem ensures_handled_bind {o : Op} {answer : Reply o} {s' : Handling} {f : Reply o → Driver α}
    (moves : ∀ r u, handlingStep mem ⟨o, r⟩ s u ↔ r = answer ∧ u = s') :
    Task.Ensures (handlingStep mem) (Task.perform o >>= f) s Q ↔
      Task.Ensures (handlingStep mem) (f answer) s' Q := by
  rw [Task.ensures_perform_bind moves]
  simp

@[simp] theorem ensures_console_handling {c : ConsoleCall} {f : Unit → Driver α} :
    Task.Ensures (handlingStep mem) (console c >>= f) s Q ↔
      Task.Ensures (handlingStep mem) (f ()) s Q :=
  ensures_handled_bind fun _ _ => (and_iff_right rfl).symm

@[simp] theorem ensures_loadAt_handling {a : Addr} {n : Nat} {f : BitVec (8 * n) → Driver α} :
    Task.Ensures (handlingStep mem) (loadAt a n >>= f) s Q ↔
      Task.Ensures (handlingStep mem) (f (load mem a n)) s Q :=
  ensures_handled_bind fun _ _ => Iff.rfl

@[simp] theorem ensures_outb_handling {port : Port} {value : BitVec 8} {f : Unit → Driver α} :
    Task.Ensures (handlingStep mem) (outb port value >>= f) s Q ↔
      Task.Ensures (handlingStep mem) (f ()) { s with writes := s.writes ++ [.outb port value] } Q :=
  ensures_handled_bind fun _ _ => (and_iff_right rfl).symm

@[simp] theorem ensures_storeVolatile_handling {a : Addr} {n : Nat} {v : BitVec (8 * n)}
    {f : Unit → Driver α} :
    Task.Ensures (handlingStep mem) (storeVolatile a n v >>= f) s Q ↔
      Task.Ensures (handlingStep mem) (f ())
        { s with writes := s.writes ++ [.storeVolatile a n v] } Q :=
  ensures_handled_bind fun _ _ => (and_iff_right rfl).symm

theorem keycodeChar_handled (keycode : BitVec 8) (shiftDown : Bool) :
    Task.Ensures (handlingStep mem) (keycodeChar tables keycode shiftDown) s fun _ s' => s' = s := by
  by_cases shift : IsShiftCode keycode
  · rcases shift with rfl | rfl | rfl | rfl
    · exact .ret rfl
    · exact .ret rfl
    · exact .ret rfl
    · exact .ret rfl
  · rw [keycodeChar_other shift]
    split
    · rw [ensures_console_handling]
      exact .ret rfl
    · rw [ensures_loadAt_handling]
      exact .ret rfl

theorem keyboardHandler_handled (shiftDown : Bool) :
    Task.Ensures (handlingStep mem) (keyboardHandler tables shiftDown) s fun _ s' =>
      s' = { s with pending := s.pending.tail } := by
  refine .op ⟨(0 : BitVec 8), _, rfl⟩ fun keycode s₁ step => ?_
  have taken : s₁ = { s with pending := s.pending.tail } := step
  apply (keycodeChar_handled keycode shiftDown).bind
  rintro ⟨c, shiftDown'⟩ s₂ rfl
  change Task.Ensures _ (console (.kputchar c) >>= fun _ => .ret shiftDown') _ _
  rw [ensures_console_handling, Task.ensures_ret]
  exact taken

theorem status_handled : Task.Ensures (handlingStep mem) (inb ps2StatusPort) s fun status s' =>
    (OutputFull status ↔ s.pending ≠ []) ∧ s' = s := by
  refine .op ?_ fun status s' step => .ret step
  by_cases empty : s.pending = []
  · exact ⟨(0 : BitVec 8), s, iff_of_false (by decide) (not_not.mpr empty), rfl⟩
  · exact ⟨(1 : BitVec 8), s, iff_of_true rfl empty, rfl⟩

/-- The output buffer is read until it is empty: by its length. -/
theorem flush_handled : Task.Ensures (handlingStep mem) flushPs2OutputBuffer s fun _ s' =>
    s' = { s with pending := [] } := by
  unfold flushPs2OutputBuffer
  rw [logDebug, ensures_console_handling]
  refine Task.Ensures.whileDo (I := fun n s' => n = s'.pending.length ∧ s'.writes = s.writes)
    (fun n s' holds => ?_) ⟨rfl, rfl⟩
  apply status_handled.bind
  rintro status s₁ ⟨full, same⟩
  rw [same]
  by_cases empty : s'.pending = []
  · have none : ¬ status &&& 0b1 = 1 := fun one => full.mp one empty
    rw [decide_eq_false none]
    apply Task.Ensures.ret
    obtain ⟨writes, pending⟩ := s'
    cases empty
    exact congrArg (Handling.mk · []) holds.2
  · have some : status &&& 0b1 = 1 := full.mpr empty
    rw [decide_eq_true some]
    apply Task.Ensures.ret
    rw [if_pos rfl]
    refine .op ⟨(0 : BitVec 8), _, rfl⟩ fun _ s₁ step => .ret ⟨s₁.pending.length, ?_, rfl, ?_⟩
    · have taken : s₁ = { s' with pending := s'.pending.tail } := step
      rw [taken, holds.1, List.length_tail]
      exact Nat.sub_lt (List.length_pos_iff.mpr empty) Nat.one_pos
    · have taken : s₁ = { s' with pending := s'.pending.tail } := step
      rw [taken]
      exact holds.2

theorem timerHandler_handled :
    Task.Ensures (handlingStep mem) (timerHandler g.lapicAddr cpuStatus g.timer) s fun r s' =>
      r.1 = cpuStatus ∧ r.2 = g.timer.handle 0x20 ∧ s'.writes = s.writes ++ lapicEoi g 0x20 := by
  unfold timerHandler
  cases enabled : g.timer.lapicTimerEnabled with
  | true =>
      refine .op ⟨(), _, rfl⟩ fun _ s' wrote => ?_
      apply Task.Ensures.ret
      refine ⟨rfl, ?_, ?_⟩
      · rw [TimerState.handle, if_pos ⟨rfl, enabled⟩, enabled]
      · rw [show s' = _ from wrote, lapicEoi, if_pos ⟨rfl, enabled⟩]
  | false =>
      have disabled : ¬ ((0x20 : BitVec 64) = 0x20 ∧ g.timer.lapicTimerEnabled = true) := by
        simp [enabled]
      apply Task.Ensures.ret
      refine ⟨rfl, ?_, ?_⟩
      · rw [TimerState.handle, if_neg disabled]
      · rw [lapicEoi, if_neg disabled, List.append_nil]

theorem HandsBack.same {vector : BitVec 64} (other : vector ≠ 0x20) :
    HandsBack cpuStatus vector g (cpuStatus, g) :=
  ⟨rfl, (if_neg fun timer => other timer.1).symm, rfl, rfl, fun _ => rfl⟩

theorem handleInterrupt_handled {vector : BitVec 64}
    (frame : load mem (cpuStatus + intVectorOffset) 8 = vector) :
    Task.Ensures (handlingStep mem) (handleInterrupt tables cpuStatus g) s fun r s' =>
      HandsBack cpuStatus vector g r ∧ s'.writes = s.writes ++ lapicEoi g vector ∧
        (vector = 0x2C → s'.pending = []) := by
  unfold handleInterrupt
  rw [ensures_loadAt_handling, frame]
  by_cases timer : vector = 0x20
  · subst timer
    have other : (0x20 : BitVec 64) ≠ 0x2C := by decide
    rw [if_pos rfl]
    apply timerHandler_handled.bind
    rintro ⟨pointer, timer⟩ s₁ ⟨same, time, writes⟩
    exact .ret ⟨⟨same, time, rfl, rfl, fun _ => rfl⟩, writes, fun same => absurd same other⟩
  · have silent : lapicEoi g vector = [] := if_neg fun both => timer both.1
    rw [if_neg timer, silent, List.append_nil]
    by_cases keyboard : vector = 0x21
    · subst keyboard
      have other : (0x21 : BitVec 64) ≠ 0x2C := by decide
      rw [if_pos rfl]
      cases enabled : g.keyboardEnabled with
      | true =>
          rw [if_pos rfl]
          apply (keyboardHandler_handled g.shiftDown).bind
          rintro shiftDown _ rfl
          refine .ret ⟨⟨rfl, ?_, rfl, enabled.symm ▸ rfl, ?_⟩, rfl, fun same => absurd same other⟩
          · exact (HandsBack.same timer).timer
          · intro never
            simp [enabled] at never
      | false => exact .ret ⟨HandsBack.same timer, rfl, fun same => absurd same other⟩
    · rw [if_neg keyboard]
      by_cases mouse : vector = 0x2C
      · rw [if_pos mouse]
        apply flush_handled.bind
        rintro _ _ rfl
        exact .ret ⟨HandsBack.same timer, rfl, fun _ => rfl⟩
      · rw [if_neg mouse]
        simp only [ensures_console_handling, ensures_loadAt_handling]
        exact .ret ⟨HandsBack.same timer, rfl, fun same => absurd same mouse⟩

theorem endOfInterrupt_handled {vector : BitVec 64}
    (frame : load mem (cpuStatus + intVectorOffset) 8 = vector) :
    Task.Ensures (handlingStep mem) (endOfInterrupt cpuStatus) s fun _ s' =>
      s' = { s with writes := s.writes ++ picEois vector } := by
  unfold endOfInterrupt
  rw [ensures_loadAt_handling, frame, picEois]
  split
  · change Task.Ensures _ (outb picCommandSlave picEoi >>= fun _ => outb picCommandMaster picEoi) _ _
    rw [ensures_outb_handling]
    refine .op ⟨(), _, rfl⟩ fun _ s' step => .ret (step.trans ?_)
    rw [List.append_assoc]
  · refine .op ⟨(), _, rfl⟩ fun _ s' step => .ret step

theorem interruptHandler_handled {vector : BitVec 64}
    (frame : load mem (cpuStatus + intVectorOffset) 8 = vector)
    (interrupt : load mem (cpuStatus + errorOffset) 8 = (0 : BitVec 64)) :
    Task.Ensures (handlingStep mem) (interruptHandler tables cpuStatus g) s
      (HandledInterrupt cpuStatus vector g s) := by
  unfold interruptHandler
  rw [ensures_loadAt_handling, interrupt, if_neg (not_not.mpr rfl)]
  apply (handleInterrupt_handled frame).bind
  rintro ⟨pointer, g'⟩ s₁ ⟨handsBack, writes, flushed⟩
  have same : pointer = cpuStatus := handsBack.pointer
  subst same
  apply (endOfInterrupt_handled frame).bind
  rintro _ _ rfl
  refine .ret ⟨handsBack, ?_, flushed⟩
  rw [writes, List.append_assoc]

/-! Exceptions: nothing is written, no byte is taken, and nothing returns. -/

theorem guards_console {c : ConsoleCall} {f : Unit → Driver α}
    (rest : Task.Guards (handlingStep mem) (f ()) s (· = s) Q) :
    Task.Guards (handlingStep mem) (console c >>= f) s (· = s) Q := by
  refine .op rfl fun _ s' same => ?_
  rw [show s' = s from same]
  exact rest

theorem guards_loadAt {a : Addr} {n : Nat} {f : BitVec (8 * n) → Driver α}
    (rest : Task.Guards (handlingStep mem) (f (load mem a n)) s (· = s) Q) :
    Task.Guards (handlingStep mem) (loadAt a n >>= f) s (· = s) Q := by
  refine .op rfl fun value s' moves => ?_
  obtain ⟨rfl, rfl⟩ : value = load mem a n ∧ s' = s := moves
  exact rest

theorem driverFreeze_guards :
    Task.Guards (handlingStep mem) (driverFreeze : Driver α) s (· = s) fun _ _ => False := by
  apply guards_console
  apply Task.Guards.iterate (J := fun _ s' => s' = s) _ rfl
  intro _ s' same
  exact .ret (a := (Sum.inl () : Unit ⊕ α)) same same

theorem printErrorCode_guards :
    Task.Guards (handlingStep mem) (printErrorCode cpuStatus : Driver α) s (· = s) fun _ _ => False :=
  guards_console (guards_loadAt (guards_console (guards_console driverFreeze_guards)))

theorem handleException_guards :
    Task.Guards (handlingStep mem) (handleException cpuStatus g) s (· = s) fun _ _ => False := by
  apply guards_loadAt
  split
  · exact (guards_loadAt (guards_console (guards_console printErrorCode_guards))).bind
      fun _ _ never => never.elim
  · apply guards_console
    apply guards_loadAt
    split
    · exact guards_console printErrorCode_guards
    · apply guards_console
      apply guards_loadAt
      exact guards_console (guards_console printErrorCode_guards)

theorem interruptHandler_freezes
    (exception : load mem (cpuStatus + errorOffset) 8 ≠ (0 : BitVec 64)) :
    Task.Guards (handlingStep mem) (interruptHandler tables cpuStatus g) s (· = s)
      fun _ _ => False := by
  apply guards_loadAt
  rw [if_pos exception]
  exact handleException_guards

/-- Where the frame has an error flag nothing returns and nothing is written; everything else
is acknowledged. -/
theorem interruptHandler_outcome (mem : Memory 64) (tables : KeyTables) (cpuStatus : Addr)
    (g : HandlerGlobals) (s : Handling) :
    if load mem (cpuStatus + errorOffset) 8 = (0 : BitVec 64) then
      Task.Ensures (handlingStep mem) (interruptHandler tables cpuStatus g) s
        (HandledInterrupt cpuStatus (load mem (cpuStatus + intVectorOffset) 8) g s)
    else
      Task.Guards (handlingStep mem) (interruptHandler tables cpuStatus g) s (· = s)
        fun _ _ => False := by
  split
  · next interrupt => exact interruptHandler_handled rfl interrupt
  · next exception => exact interruptHandler_freezes exception

end Handlers

end Flosp.Kernel
