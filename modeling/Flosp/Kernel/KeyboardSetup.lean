import Flosp.Kernel.EagerDevice
import Flosp.Kernel.ErrorFlag
import Flosp.Kernel.PortIndependence
import Flosp.Kernel.Ps2Controller
import Flosp.Kernel.TimedWaits

/-! `keyboard_init` and the functions that it calls (`drivers/keyboard.c`, `drivers/ps2.c`): what is
sent to a keyboard, and what of its answers is waited for. -/

namespace Flosp.Kernel

open Interaction

def translationKeyboard : BitVec 8 := 0
def translationMouse : BitVec 8 := 1
def translationOther : BitVec 8 := 2

def ps2KeyboardSetScancodeSet : BitVec 8 := 0xF0
def ps2KeyboardSetScancode1 : BitVec 8 := 0x01

def ps2PortIdentityTranslation (portIdentity : Ps2Response) : BitVec 8 :=
  if portIdentity.byteCount = 1 then translationMouse
  else if portIdentity.byteCount = 2 then translationKeyboard
  else translationOther

/-- `NULL` is `none`. -/
def getPs2PortIdentity (g : Ps2) (port : BitVec 8) : Driver (Option Ps2Response) :=
  if port = 1 then return some g.identity1
  else if port = 2 then return some g.identity2
  else do
    logWarning "Warning: invalid port passed to `get_ps2_port_identity`"
    return none

/-- `ps2_port_identity_translation(get_ps2_port_identity(port)) == TRANSLATION_KEYBOARD`, for one of
the two ports. -/
def isKeyboard (g : Ps2) (port : BitVec 8) : Driver Bool := do
  let portIdentity ← getPs2PortIdentity g port
  return portIdentity.map ps2PortIdentityTranslation = some translationKeyboard

def ps2ScancodeCorrection (g : Ps2) (port : BitVec 8) : Driver (Int × Ps2) := do
  let failed ← ps2PortWriteData g port ps2KeyboardSetScancodeSet
  if failed = 1 then
    logError "Error: PS/2 port write failed: PS2_KEYBOARD_SET_SCANCODE_SET"
    return (1, g)
  let (failed, g) ← ps2WaitForAck g port ps2KeyboardSetScancodeSet
  if failed = 1 then
    logError "Error: PS/2 port acknowledgement failed: PS2_KEYBOARD_SET_SCANCODE_SET"
    return (1, g)
  let failed ← ps2PortWriteData g port ps2KeyboardSetScancode1
  if failed = 1 then
    logError "Error: PS/2 port write failed: PS2_KEYBOARD_SET_SCANCODE_1"
    return (1, g)
  return (0, g)

/-- `keyboard_init` with a keyboard on a port. -/
def setUpKeyboard (name : String) (port : BitVec 8) (keyboardEnabled : Bool) (g : Ps2) :
    Driver (Bool × Ps2) := do
  let (failed, g) ← ps2ScancodeCorrection g port
  if failed = 1 then
    logError ("Error: PS/2 " ++ name ++ " scancode correction failed")
    return (keyboardEnabled, g)
  logDebug "Debug: Keyboard initialized"
  flushPs2OutputBuffer
  return (true, g)

/-- It returns `keyboard_enabled` and the globals of `ps2.c`. -/
def keyboardInit (usbInitialized keyboardEnabled : Bool) (g : Ps2) : Driver (Bool × Ps2) := do
  logDebug "Debug: Initializing keyboard"
  if g.ps2Initialized then
    -- check and set ps/2 keyboard port info
    let first ← isKeyboard g 1
    if first then
      setUpKeyboard "port 1" 1 keyboardEnabled g
    else
      let second ← isKeyboard g 2
      if second then
        setUpKeyboard "port 2" 2 keyboardEnabled g
      else
        console (.kernLog 2 "Info: No PS/2 keyboard detected")
        flushPs2OutputBuffer
        return (keyboardEnabled, g)
  else if usbInitialized then
    logError "YOU SHOULD NOT BE HERE YOU SCOUNDREL"
    return (keyboardEnabled, g)
  else
    logWarning "Error: Keyboard initialization failed, no controller found"
    return (keyboardEnabled, g)

/-- The first port whose device has sent two bytes for its identity. -/
def Ps2.keyboardPort (g : Ps2) : Option (BitVec 8) :=
  if ¬ g.ps2Initialized then none
  else if g.identity1.byteCount = 2 then some 1
  else if g.identity2.byteCount = 2 then some 2
  else none

/-! What is sent and received. -/

def dataRead : DriverEvent → Option (BitVec 8)
  | ⟨.inb port, b⟩ => if port = ps2DataPort then some b else none
  | _ => none

def dataReads (t : List DriverEvent) : List (BitVec 8) := t.filterMap dataRead

/-- What has been written to the ports and read from the data port. -/
structure Exchange where
  writes : List (Port × BitVec 8)
  reads : List (BitVec 8)

def exchanging (e : DriverEvent) (s s' : Exchange) : Prop :=
  s' = ⟨s.writes ++ portWrites [e], s.reads ++ dataReads [e]⟩

namespace Exchange

def wrote (s : Exchange) (writes : List (Port × BitVec 8)) : Exchange :=
  ⟨s.writes ++ writes, s.reads⟩

def read (s : Exchange) (bytes : List (BitVec 8)) : Exchange := ⟨s.writes, s.reads ++ bytes⟩

@[simp] theorem wrote_nil (s : Exchange) : s.wrote [] = s := by
  simp [wrote]

@[simp] theorem read_nil (s : Exchange) : s.read [] = s := by
  simp [read]

@[simp] theorem wrote_wrote (s : Exchange) (writes more : List (Port × BitVec 8)) :
    (s.wrote writes).wrote more = s.wrote (writes ++ more) := by
  simp [wrote]

@[simp] theorem read_read (s : Exchange) (bytes more : List (BitVec 8)) :
    (s.read bytes).read more = s.read (bytes ++ more) := by
  simp [read]

@[simp] theorem wrote_read (s : Exchange) (bytes : List (BitVec 8))
    (writes : List (Port × BitVec 8)) : (s.read bytes).wrote writes = (s.wrote writes).read bytes :=
  rfl

end Exchange

theorem follows_exchanging (t : List DriverEvent) (s : Exchange) :
    Follows exchanging t s ⟨s.writes ++ portWrites t, s.reads ++ dataReads t⟩ := by
  induction t generalizing s with
  | nil => simp [Follows, dataReads]
  | cons e t ih =>
      refine ⟨_, rfl, ?_⟩
      have later := ih ⟨s.writes ++ portWrites [e], s.reads ++ dataReads [e]⟩
      simpa [portWrites, dataReads, ← List.filterMap_append, List.append_assoc] using later

section Exchanges

variable {s : Exchange} {g : Ps2} {port cmd : BitVec 8} {α β : Type}

def Unspoken : Op → Prop
  | .inb port => port ≠ ps2DataPort
  | .outb .. => False
  | _ => True

theorem status_unspoken : Unspoken (.inb ps2StatusPort) := by
  simp [Unspoken, ps2StatusPort, ps2DataPort]

theorem unspoken_exchanging {e : DriverEvent} {s' : Exchange} (unspoken : Unspoken e.op)
    (step : exchanging e s s') : s' = s := by
  rw [show s' = _ from step]
  obtain ⟨o, reply⟩ := e
  cases o with
  | inb port =>
      have other : port ≠ ps2DataPort := unspoken
      simp [portWrites, dataReads, dataRead, other]
  | outb port b => exact unspoken.elim
  | _ =>
      change (⟨s.writes ++ [], s.reads ++ []⟩ : Exchange) = s
      simp

theorem unspoken_satisfies {p : Driver α} (only : Task.Only Unspoken p) :
    Task.Satisfies exchanging p s fun _ s' => s' = s := by
  apply only.satisfies (I := (· = s)) _ rfl
  rintro e unspoken u u' step rfl
  exact unspoken_exchanging unspoken step

theorem unspoken_then {p : Driver α} {f : α → Driver β} {Q : β → Exchange → Prop}
    (only : Task.Only Unspoken p) (rest : ∀ a, Task.Satisfies exchanging (f a) s Q) :
    Task.Satisfies exchanging (p >>= f) s Q := by
  refine (unspoken_satisfies only).bind fun a s' same => ?_
  rw [same]
  exact rest a

theorem console_unspoken (call : ConsoleCall) : Task.Only Unspoken (console call) :=
  Task.only_perform.mpr trivial

theorem ticks_unspoken (reader : TickReader) : Task.Only Unspoken (getUptimeTicks reader) :=
  Task.only_perform.mpr trivial

theorem outb_exchanging (p : Port) (b : BitVec 8) :
    Task.Satisfies exchanging (outb p b) s fun _ s' => s' = s.wrote [(p, b)] := by
  refine Task.satisfies_op.mpr fun reply s' step => Task.satisfies_ret.mpr ?_
  rw [show s' = _ from step]
  simp [portWrites, dataReads, dataRead, Exchange.wrote]

theorem inb_exchanging :
    Task.Satisfies exchanging (inb ps2DataPort) s fun b s' => s' = s.read [b] := by
  refine Task.satisfies_op.mpr fun (b : BitVec 8) s' step => Task.satisfies_ret.mpr ?_
  have taken : s' = ⟨s.writes ++ [], s.reads ++ [b]⟩ := step
  rw [taken, List.append_nil]
  rfl

theorem sendToPort_exchanging (b : BitVec 8) :
    Task.Satisfies exchanging (sendToPort port b) s fun r s' =>
      r = 0 ∧ s' = s.wrote (commandTo port b) := by
  have drained : Task.Only Unspoken (Task.whileDo inputBufferFull (.ret ())) :=
    (inputBufferFull_only status_unspoken).whileDo trivial
  have selected : Task.Satisfies exchanging (selectPort port) s fun _ s' =>
      s' = s.wrote (if port = 2 then [(ps2CommandPort, ps2WriteByteInputPort2)] else []) := by
    unfold selectPort
    split
    · exact unspoken_then drained fun _ => outb_exchanging _ _
    · exact Task.satisfies_ret.mpr s.wrote_nil.symm
  refine selected.bind fun _ s₁ same => ?_
  refine unspoken_then (ticks_unspoken _) fun start => ?_
  have waits : Task.Only Unspoken (awaitInputBuffer start) := by
    rw [awaitInputBuffer_eq]
    apply Task.only_iterate.mpr
    intro _
    exact Task.Only.bind (Task.only_perform.mpr status_unspoken) fun _ => trivial
  have waited : Task.Satisfies exchanging (awaitInputBuffer start) s₁
      fun timedOut s' => timedOut = false ∧ s' = s₁ := fun t timedOut s' run follows =>
    ⟨(awaitInputBuffer_runs run).1, unspoken_satisfies waits t timedOut s' run follows⟩
  refine waited.bind fun timedOut s₂ now => ?_
  rw [now.1, now.2, if_neg Bool.false_ne_true]
  have written : Task.Satisfies exchanging (ps2WriteData b) s₁ fun _ s' =>
      s' = s₁.wrote [(ps2DataPort, b)] := unspoken_then drained fun _ => outb_exchanging _ _
  refine written.bind fun _ s₃ same₃ => Task.satisfies_ret.mpr ⟨rfl, ?_⟩
  rw [same₃, same, Exchange.wrote_wrote]
  rfl

theorem polRecieveByte_exchanging (g : Ps2) :
    Task.Satisfies exchanging (ps2PolRecieveByte g) s fun r s' =>
      r = (1, { g with ps2Error := true }) ∧ s' = s ∨ r.2 = g ∧ s' = s.read [r.1] := by
  refine unspoken_then (ticks_unspoken _) fun start => ?_
  have polls : Task.Only Unspoken (awaitOutputBuffer .polRecieveByte start) :=
    awaitOutputBuffer_only status_unspoken trivial start
  refine unspoken_then polls fun timedOut => ?_
  split
  · exact unspoken_then (console_unspoken _) fun _ => Task.satisfies_ret.mpr (.inl ⟨rfl, rfl⟩)
  · exact inb_exchanging.bind fun b s' same => Task.satisfies_ret.mpr (.inr ⟨rfl, same⟩)

/-! The wait for an acknowledge. -/

/-- How many times a command is sent again. With the error flag set the wait is over after the first
byte, and nothing is. -/
def resent (g : Ps2) (received : List (BitVec 8)) : Nat :=
  if g.ps2Error then 0 else received.count ps2Resend

/-- The exchange of a wait that has received some bytes, none of them an acknowledge. -/
def unanswered (g : Ps2) (port cmd : BitVec 8) (received : List (BitVec 8)) (s : Exchange) :
    Exchange :=
  (s.wrote (List.replicate (resent g received) (commandTo port cmd)).flatten).read received

def GoesOn (g : Ps2) (port cmd : BitVec 8) (s : Exchange) (g' : Ps2) (s' : Exchange) : Prop :=
  g' = g ∧ ∃ received, ps2Ack ∉ received ∧ (g.ps2Error = true → received = []) ∧
    s' = unanswered g port cmd received s

def EndsWait (g : Ps2) (port cmd : BitVec 8) (s : Exchange) (r : Int × Ps2) (s' : Exchange) : Prop :=
  ∃ received, ps2Ack ∉ received ∧
    (r = (0, g) ∧ s' = (unanswered g port cmd received s).read [ps2Ack] ∨
      r = (1, { g with ps2Error := false }) ∧ s' = unanswered g port cmd received s)

theorem unanswered_nil : unanswered g port cmd [] s = s := by
  simp [unanswered, resent]

theorem unanswered_append (clear : g.ps2Error = false) (received : List (BitVec 8)) (b : BitVec 8) :
    ((unanswered g port cmd received s).read [b]).wrote
        (if b = ps2Resend then commandTo port cmd else []) =
      unanswered g port cmd (received ++ [b]) s := by
  by_cases asked : b = ps2Resend
  · simp [unanswered, resent, clear, asked, List.replicate_add]
  · simp [unanswered, resent, clear, asked, List.count_append]

theorem resendIfAsked_exchanging (valid : ¬ g.InvalidPort port) (b : BitVec 8) :
    Task.Satisfies exchanging (resendIfAsked port cmd b g) s fun _ s' =>
      s' = s.wrote (if b = ps2Resend then commandTo port cmd else []) := by
  unfold resendIfAsked
  split
  · rw [ps2PortWriteData_eq, if_neg valid]
    exact (sendToPort_exchanging cmd).bind fun _ s' sent => Task.satisfies_ret.mpr sent.2
  · exact Task.satisfies_ret.mpr s.wrote_nil.symm

theorem checkTimeout_exchanging (start : BitVec 64) :
    Task.Satisfies exchanging (checkTimeout start g) s fun x s' =>
      s' = s ∧ (x = .inl g ∨ x = .inr (1, g)) := by
  have reads : Task.Only Unspoken (getUptimeSeconds .waitCheck) :=
    Task.Only.bind (Task.only_perform.mpr trivial) fun _ => trivial
  refine unspoken_then reads fun now => ?_
  split
  · exact unspoken_then (console_unspoken _) fun _ => Task.satisfies_ret.mpr ⟨rfl, .inr rfl⟩
  · exact Task.satisfies_ret.mpr ⟨rfl, .inl rfl⟩

theorem handleResponse_exchanging {g' : Ps2} {s' : Exchange} (valid : ¬ g.InvalidPort port)
    (goesOn : GoesOn g port cmd s g' s') (start : BitVec 64) (b : BitVec 8) :
    Task.Satisfies exchanging (handleResponse port cmd start b g') (s'.read [b]) fun x s'' =>
      x.elim (GoesOn g port cmd s · s'') (EndsWait g port cmd s · s'') := by
  obtain ⟨rfl, received, unacked, first, rfl⟩ := goesOn
  unfold handleResponse
  split
  · next ack => exact Task.satisfies_ret.mpr ⟨received, unacked, .inl ⟨rfl, ack ▸ rfl⟩⟩
  · next other =>
      have unacked' : ps2Ack ∉ received ++ [b] := by
        simp [unacked, Ne.symm other]
      split
      · next flagged =>
          refine Task.satisfies_ret.mpr ⟨received ++ [b], unacked', .inr ⟨rfl, ?_⟩⟩
          rw [first flagged, unanswered_nil]
          simp [unanswered, resent, flagged]
      · next unflagged =>
          have clear : g'.ps2Error = false := Bool.not_eq_true _ ▸ unflagged
          refine (resendIfAsked_exchanging valid b).bind fun _ s₁ sent => ?_
          rw [unanswered_append clear] at sent
          refine (checkTimeout_exchanging start).mono fun x s₂ checked => ?_
          rcases checked with ⟨rfl, rfl | rfl⟩
          · exact ⟨rfl, received ++ [b], unacked', fun flagged => absurd flagged unflagged, sent⟩
          · refine ⟨received ++ [b], unacked', .inr ⟨?_, sent⟩⟩
            rw [← clear]

theorem awaitAck_exchanging {g' : Ps2} {s' : Exchange} (valid : ¬ g.InvalidPort port)
    (goesOn : GoesOn g port cmd s g' s') (start : BitVec 64) :
    Task.Satisfies exchanging (awaitAck port cmd start g') s' fun x s'' =>
      x.elim (GoesOn g port cmd s · s'') (EndsWait g port cmd s · s'') := by
  rw [awaitAck_eq]
  refine (polRecieveByte_exchanging g').bind fun r s₁ polled => ?_
  rcases polled with ⟨rfl, rfl⟩ | ⟨same, rfl⟩
  · obtain ⟨rfl, received, unacked, -, rfl⟩ := goesOn
    have other : (1 : BitVec 8) ≠ ps2Ack := by decide
    rw [handleResponse, if_neg other, if_pos rfl]
    exact Task.satisfies_ret.mpr ⟨received, unacked, .inr ⟨rfl, rfl⟩⟩
  · rw [same]
    exact handleResponse_exchanging valid goesOn start r.1

/-- Every byte up to the acknowledge is looked at. -/
theorem waitForAck_exchanging (valid : ¬ g.InvalidPort port) (cmd : BitVec 8) :
    Task.Satisfies exchanging (ps2WaitForAck g port cmd) s (EndsWait g port cmd s) := by
  refine unspoken_then (ticks_unspoken _) fun start => ?_
  have starts : GoesOn g port cmd s g s := ⟨rfl, [], by simp, fun _ => rfl, unanswered_nil.symm⟩
  exact Task.satisfies_iterate (I := fun g' s' => GoesOn g port cmd s g' s')
    (fun g' s' goesOn => awaitAck_exchanging valid goesOn start) starts

theorem flushPs2OutputBuffer_exchanging :
    Task.Satisfies exchanging flushPs2OutputBuffer s fun _ s' => ∃ dropped, s' = s.read dropped := by
  refine unspoken_then (console_unspoken _) fun _ => ?_
  refine Task.satisfies_iterate (I := fun _ s' => ∃ dropped, s' = s.read dropped) ?_
    ⟨[], s.read_nil.symm⟩
  rintro _ _ ⟨dropped, rfl⟩
  have status : Task.Only Unspoken (inb ps2StatusPort) := Task.only_perform.mpr status_unspoken
  refine Task.satisfies_bind.mpr ?_
  refine unspoken_then status fun value => Task.satisfies_ret.mpr ?_
  split
  · refine Task.satisfies_bind.mpr (inb_exchanging.bind fun b s' taken => ?_)
    exact Task.satisfies_ret.mpr (Task.satisfies_ret.mpr ⟨dropped ++ [b], by simp [taken]⟩)
  · exact Task.satisfies_ret.mpr ⟨dropped, rfl⟩

/-- A keyboard is told its scan code set if it acknowledges the command for it. -/
def Corrects (g : Ps2) (port : BitVec 8) (s : Exchange) (r : Int × Ps2) (s' : Exchange) : Prop :=
  ∃ received, ps2Ack ∉ received ∧
    (r = (0, g) ∧ s' = (s.wrote (commandsTo port ps2KeyboardSetScancodeSet (resent g received) ++
        commandTo port ps2KeyboardSetScancode1)).read (received ++ [ps2Ack]) ∨
      r = (1, { g with ps2Error := false }) ∧
        s' = (s.wrote (commandsTo port ps2KeyboardSetScancodeSet (resent g received))).read received)

theorem scancodeCorrection_exchanging (valid : ¬ g.InvalidPort port) :
    Task.Satisfies exchanging (ps2ScancodeCorrection g port) s (Corrects g port s) := by
  have sent {s : Exchange} (b : BitVec 8) : Task.Satisfies exchanging (ps2PortWriteData g port b) s
      fun r s' => r = 0 ∧ s' = s.wrote (commandTo port b) := by
    rw [ps2PortWriteData_eq, if_neg valid]
    exact sendToPort_exchanging b
  have whole (received : List (BitVec 8)) :
      unanswered g port ps2KeyboardSetScancodeSet received
          (s.wrote (commandTo port ps2KeyboardSetScancodeSet)) =
        (s.wrote (commandsTo port ps2KeyboardSetScancodeSet (resent g received))).read received := by
    simp [unanswered, commandsTo, List.replicate_succ]
  refine (sent _).bind fun r s₁ first => ?_
  rw [first.1, first.2]
  refine (waitForAck_exchanging valid _).bind fun r s₂ ends => ?_
  obtain ⟨received, unacked, ⟨rfl, rfl⟩ | ⟨rfl, rfl⟩⟩ := ends
  · refine (sent _).bind fun r s₃ second => ?_
    rw [second.1]
    refine Task.satisfies_ret.mpr ⟨received, unacked, .inl ⟨rfl, ?_⟩⟩
    rw [second.2, whole]
    simp
  · refine unspoken_then (console_unspoken _) fun _ => Task.satisfies_ret.mpr ?_
    exact ⟨received, unacked, .inr ⟨rfl, whole received⟩⟩

theorem scancodeCorrection_invalid (invalid : g.InvalidPort port) :
    Task.Satisfies exchanging (ps2ScancodeCorrection g port) s fun r s' => r = (1, g) ∧ s' = s := by
  have unsent : Task.Satisfies exchanging (ps2PortWriteData g port ps2KeyboardSetScancodeSet) s
      fun r s' => r = 1 ∧ s' = s := by
    rw [ps2PortWriteData_eq, if_pos invalid]
    exact unspoken_then (console_unspoken _) fun _ => Task.satisfies_ret.mpr ⟨rfl, rfl⟩
  refine unsent.bind fun r s₁ failed => ?_
  rw [failed.1, failed.2]
  exact unspoken_then (console_unspoken _) fun _ => Task.satisfies_ret.mpr ⟨rfl, rfl⟩

/-! The keyboard's port. -/

theorem translation_keyboard_iff (r : Ps2Response) :
    ps2PortIdentityTranslation r = translationKeyboard ↔ r.byteCount = 2 := by
  unfold ps2PortIdentityTranslation
  split
  · next one =>
      rw [one]
      decide
  · split
    · next two => exact iff_of_true rfl two
    · next other => exact iff_of_false (by decide) other

theorem isKeyboard_one (g : Ps2) : isKeyboard g 1 = .ret (decide (g.identity1.byteCount = 2)) := by
  simp [isKeyboard, getPs2PortIdentity, translation_keyboard_iff]

theorem isKeyboard_two (g : Ps2) : isKeyboard g 2 = .ret (decide (g.identity2.byteCount = 2)) := by
  simp [isKeyboard, getPs2PortIdentity, translation_keyboard_iff]

theorem keyboardPort_none (initialized : g.ps2Initialized = true) (nowhere : g.keyboardPort = none) :
    g.identity1.byteCount ≠ 2 ∧ g.identity2.byteCount ≠ 2 := by
  rw [Ps2.keyboardPort, if_neg (not_not.mpr initialized)] at nowhere
  split at nowhere
  · cases nowhere
  · next first =>
      split at nowhere
      · cases nowhere
      · next second => exact ⟨first, second⟩

theorem keyboardInit_here (usbInitialized keyboardEnabled : Bool)
    (here : g.keyboardPort = some port) :
    ∃ name, keyboardInit usbInitialized keyboardEnabled g =
      (logDebug "Debug: Initializing keyboard" >>= fun _ =>
        setUpKeyboard name port keyboardEnabled g) := by
  unfold Ps2.keyboardPort at here
  split at here
  · cases here
  · next initialized =>
      rw [keyboardInit, if_pos (not_not.mp initialized), isKeyboard_one, isKeyboard_two]
      split at here
      · next first =>
          cases here
          rw [decide_eq_true first]
          exact ⟨"port 1", rfl⟩
      · next first =>
          rw [decide_eq_false first]
          split at here
          · next second =>
              cases here
              rw [decide_eq_true second]
              exact ⟨"port 2", rfl⟩
          · cases here

/-- What `keyboard_init` has written and read when it returns. Of the bytes that it reads on a valid
port, those after the acknowledge are dropped. -/
inductive Programs (keyboardEnabled : Bool) (g : Ps2) (s : Exchange) : Bool × Ps2 → Prop where
  | none : g.keyboardPort = none → s.writes = [] → Programs keyboardEnabled g s (keyboardEnabled, g)
  | invalid {port : BitVec 8} : g.keyboardPort = some port → g.InvalidPort port → s.writes = [] →
      s.reads = [] → Programs keyboardEnabled g s (keyboardEnabled, g)
  | corrected {port : BitVec 8} {received dropped : List (BitVec 8)} :
      g.keyboardPort = some port → ¬ g.InvalidPort port → ps2Ack ∉ received →
      s.reads = received ++ ps2Ack :: dropped →
      s.writes = commandsTo port ps2KeyboardSetScancodeSet (resent g received) ++
        commandTo port ps2KeyboardSetScancode1 → Programs keyboardEnabled g s (true, g)
  | refused {port : BitVec 8} : g.keyboardPort = some port → ¬ g.InvalidPort port →
      ps2Ack ∉ s.reads →
      s.writes = commandsTo port ps2KeyboardSetScancodeSet (resent g s.reads) →
      Programs keyboardEnabled g s (keyboardEnabled, { g with ps2Error := false })

theorem setUpKeyboard_programs {keyboardEnabled : Bool} (name : String)
    (here : g.keyboardPort = some port) :
    Task.Satisfies exchanging (setUpKeyboard name port keyboardEnabled g) ⟨[], []⟩ fun r s' =>
      Programs keyboardEnabled g s' r := by
  by_cases invalid : g.InvalidPort port
  · refine (scancodeCorrection_invalid invalid).bind fun r s₁ unsent => ?_
    rw [unsent.1, unsent.2]
    exact unspoken_then (console_unspoken _) fun _ =>
      Task.satisfies_ret.mpr (.invalid here invalid rfl rfl)
  · refine (scancodeCorrection_exchanging invalid).bind fun r s₁ corrects => ?_
    obtain ⟨received, unacked, ⟨rfl, rfl⟩ | ⟨rfl, rfl⟩⟩ := corrects
    · refine unspoken_then (console_unspoken _) fun _ => ?_
      refine flushPs2OutputBuffer_exchanging.bind fun _ s₂ flushed => Task.satisfies_ret.mpr ?_
      obtain ⟨dropped, rfl⟩ := flushed
      have whole : (([] : List (BitVec 8)) ++ (received ++ [ps2Ack])) ++ dropped =
          received ++ ps2Ack :: dropped := by
        simp
      exact .corrected here invalid unacked whole rfl
    · exact unspoken_then (console_unspoken _) fun _ =>
        Task.satisfies_ret.mpr (.refused here invalid unacked rfl)

theorem keyboardInit_satisfies (usbInitialized keyboardEnabled : Bool) (g : Ps2) :
    Task.Satisfies exchanging (keyboardInit usbInitialized keyboardEnabled g) ⟨[], []⟩ fun r s' =>
      Programs keyboardEnabled g s' r := by
  cases found : g.keyboardPort with
  | some port =>
      obtain ⟨name, same⟩ := keyboardInit_here usbInitialized keyboardEnabled found
      rw [same]
      exact unspoken_then (console_unspoken _) fun _ => setUpKeyboard_programs name found
  | none =>
      refine unspoken_then (console_unspoken _) fun _ => ?_
      split
      · next initialized =>
          have neither := keyboardPort_none initialized found
          rw [isKeyboard_one, isKeyboard_two, decide_eq_false neither.1,
            decide_eq_false neither.2, Task.ret_bind, if_neg Bool.false_ne_true, Task.ret_bind,
            if_neg Bool.false_ne_true]
          refine unspoken_then (console_unspoken _) fun _ => ?_
          refine flushPs2OutputBuffer_exchanging.bind fun _ s' flushed => ?_
          obtain ⟨dropped, rfl⟩ := flushed
          exact Task.satisfies_ret.mpr (.none found rfl)
      · split
        · exact unspoken_then (console_unspoken _) fun _ => Task.satisfies_ret.mpr (.none found rfl)
        · exact unspoken_then (console_unspoken _) fun _ => Task.satisfies_ret.mpr (.none found rfl)

end Exchanges

theorem keyboardInit_programs {usbInitialized keyboardEnabled : Bool} {g : Ps2}
    {t : List DriverEvent} {r : Bool × Ps2}
    (run : Task.Runs (keyboardInit usbInitialized keyboardEnabled g) t r) :
    Programs keyboardEnabled g ⟨portWrites t, dataReads t⟩ r :=
  keyboardInit_satisfies usbInitialized keyboardEnabled g t r _ run (follows_exchanging t ⟨[], []⟩)

/-- What `ps2_init` has found out about a keyboard on the first port. -/
def Ps2.keyboardFound : Ps2 :=
  { Ps2.loaded with ps2Initialized := true, identity1 := ⟨2, #v[0xAB, 0x83, 0]⟩ }

/-- The keyboard asks for the command once more, and also for the scan code set. -/
def askingRun : List DriverEvent × Bool × Ps2 :=
  match Task.execute scripted 5 (keyboardInit false false Ps2.keyboardFound)
    ([0xFE, 0xFA, 0xFE], 0) with
  | some (t, r, _) => (t, r)
  | none => ([], false, Ps2.loaded)

theorem askingRun_programs :
    Programs false Ps2.keyboardFound ⟨portWrites askingRun.1, dataReads askingRun.1⟩
      askingRun.2 := by
  have computed : Task.execute scripted 5 (keyboardInit false false Ps2.keyboardFound)
      ([0xFE, 0xFA, 0xFE], 0) = some (askingRun.1, askingRun.2, [], ps2TimeoutDuration) := rfl
  exact keyboardInit_programs (Task.execute_runs computed).1

/-! A keyboard that answers in time. -/

section InTime

variable {w : TimedWorld} {g : Ps2} {port : BitVec 8}

theorem statusShown_inevitable :
    Task.Inevitable timelyStep (do
      let status ← inb ps2StatusPort
      return decide (status &&& 0b1 = 1)) w fun full v =>
        v.writes = w.writes ∧ v.device.incoming = w.device.incoming ∧
          (full = true ↔ v.device.output ≠ none) := by
  apply Task.Inevitable.op
  intro status _ step
  change BitVec 8 at status
  rcases step with ⟨⟨v, passes, does⟩, -⟩
  have other : ps2StatusPort ≠ ps2DataPort := by decide
  simp only [TimedWorld.Does, if_neg other, if_pos] at does
  rcases does with ⟨⟨shows_, -⟩, rfl⟩
  have later := passes_later passes
  refine .ret ⟨later.writes.trans (List.append_nil _), later.incoming, ?_⟩
  rw [decide_eq_true_iff, lowBit_set]
  exact not_congr shows_

theorem takeByte_inevitable (shown : w.device.output ≠ none) :
    Task.Inevitable timelyStep (do
      let _ ← inb ps2DataPort
      return ()) w fun _ v =>
        v.writes = w.writes ∧ v.device.incoming.length < w.device.incoming.length := by
  apply Task.Inevitable.op
  intro _ _ step
  rcases step with ⟨⟨v, passes, does⟩, -⟩
  simp only [TimedWorld.Does, if_pos] at does
  rw [does.2]
  have later := passes_later passes
  refine .ret ⟨later.writes.trans (List.append_nil _), ?_⟩
  rw [← later.incoming, later.shown shown]
  rcases Option.ne_none_iff_exists'.mp shown with ⟨sent, here⟩
  simp [Device.incoming, here]

theorem flushPs2OutputBuffer_inevitable :
    Task.Inevitable timelyStep flushPs2OutputBuffer w fun _ u =>
      u.writes = w.writes ∧ u.device.output = none := by
  have logged : Task.Inevitable timelyStep (logDebug "Debug: Flushing PS/2 output buffer") w
      fun _ v => Onward w v [] := perform_later trivial
  apply logged.bind
  intro _ v started
  apply Task.Inevitable.whileDo (I := fun left u => u.writes = w.writes ∧
    u.device.incoming.length = left) _ ⟨started.writes.trans (List.append_nil _), rfl⟩
  intro left x now
  rcases now with ⟨unwritten, rfl⟩
  apply statusShown_inevitable.mono
  intro full y looked
  rcases looked with ⟨writes, incoming, shows_⟩
  cases full with
  | false => exact ⟨writes.trans unwritten, not_not.mp (mt shows_.mpr Bool.false_ne_true)⟩
  | true =>
      apply (takeByte_inevitable (shows_.mp rfl)).mono
      intro _ u took
      rw [incoming] at took
      exact ⟨_, took.2, took.1.trans (writes.trans unwritten), rfl⟩

theorem write_writes (p : Port) (b : BitVec 8) (busy : Nat) :
    (w.write p b busy).writes = w.writes ++ [(p, b)] := by
  unfold TimedWorld.write TimedWorld.hear
  grind

theorem sendToPort_zero {b : BitVec 8} (t : List DriverEvent) (r : Int)
    (run : Task.Runs (sendToPort port b) t r) : r = 0 :=
  (sendToPort_exchanging b t r _ run (follows_exchanging t ⟨[], []⟩)).1

section Scancode

variable {resends : Nat} {more : List (BitVec 8)} {answers : List Answer}

theorem scancodeCorrection_inevitable (valid : ¬ g.InvalidPort port) (clear : g.ps2Error = false)
    (idle : w.awaiting = none) (incoming : w.device.incoming = [])
    (known : w.answers = ⟨ps2KeyboardSetScancodeSet, resends, more⟩ :: answers)
    (heard : ∀ answer ∈ answers.head?, answer.command ≠ ps2KeyboardSetScancodeSet) :
    Task.Inevitable timelyStep (ps2ScancodeCorrection g port) w fun r u => r = (0, g) ∧
      u.writes = w.writes ++ (commandsTo port ps2KeyboardSetScancodeSet resends ++
        commandTo port ps2KeyboardSetScancode1) := by
  have passed : (0 : Int) ≠ 1 := by decide
  unfold ps2ScancodeCorrection
  rw [ps2PortWriteData_eq, if_neg valid]
  apply ((command_inevitable incoming idle known).returning sendToPort_zero).bind
  intro _ v outcome
  rcases outcome with ⟨⟨commanded, written⟩, rfl⟩
  rw [if_neg passed]
  apply (waitForAck_inevitable valid clear heard commanded).bind
  intro _ x outcome
  rcases outcome with ⟨rfl, acked⟩
  dsimp only
  rw [if_neg passed, ps2PortWriteData_eq, if_neg valid]
  apply ((sendToPort_inevitable port ps2KeyboardSetScancode1).returning sendToPort_zero).bind
  intro _ u outcome
  rcases outcome with ⟨⟨y, selects, busy, later, whole, rfl⟩, rfl⟩
  rw [if_neg passed]
  refine .ret ⟨rfl, ?_⟩
  rw [write_writes, later.writes, acked.writes, written, ← whole]
  simp [commandsTo, List.replicate_succ]

end Scancode

end InTime

/-- The keyboard of `askingRun`, which asks for its scan code set as well. -/
def askingWorld : TimedWorld where
  device := ⟨none, 0, [], 0⟩
  answers := [⟨ps2KeyboardSetScancodeSet, 1, []⟩, ⟨ps2KeyboardSetScancode1, 1, []⟩]
  clock := 0
  patience := 100
  busy := 0
  writes := []
  awaiting := none
  waitStart := 0

end Flosp.Kernel
