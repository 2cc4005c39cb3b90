import Flosp.Kernel.Drivers

/-! The PS/2 controller and its devices (`drivers/ps2.c`). -/

namespace Flosp.Kernel

open Interaction

def ps2DataPort : Port := 0x60
def ps2CommandPort : Port := 0x64
def ps2StatusPort : Port := 0x64

def ps2ReadConfigByte : BitVec 8 := 0x20
def ps2WriteConfigByte : BitVec 8 := 0x60
def ps2ControllerTest : BitVec 8 := 0xAA
def ps2DisablePort : BitVec 8 := 0xAD
def ps2DisablePort2 : BitVec 8 := 0xA7
def ps2EnablePort : BitVec 8 := 0xAE
def ps2EnablePort2 : BitVec 8 := 0xA8
def ps2TestPort : BitVec 8 := 0xAB
def ps2TestPort2 : BitVec 8 := 0xA9
def ps2WriteByteInputPort2 : BitVec 8 := 0xD4

def ps2ControllerTestPass : BitVec 8 := 0x55
def ps2ControllerTestFail : BitVec 8 := 0xFC
def ps2PortTestPass : BitVec 8 := 0x00

/-- `PS2_PORT_TEST_FAIL_CL` and the other failures, with what is logged for them. -/
def ps2PortTestFailures : List (BitVec 8 × String) :=
  [(0x01, "clock line struck low"), (0x02, "clock line struck high"),
    (0x03, "data line struck low"), (0x04, "data line struck high")]

def ps2DisableScanning : BitVec 8 := 0xF5
def ps2EnableScanning : BitVec 8 := 0xF4
def ps2Identify : BitVec 8 := 0xF2

def ps2Ack : BitVec 8 := 0xFA
def ps2Resend : BitVec 8 := 0xFE

/-- In ticks. -/
def ps2TimeoutDuration : BitVec 64 := 100

structure Ps2Response where
  byteCount : BitVec 8
  data : Vector (BitVec 8) 3
  deriving DecidableEq

def Ps2Response.empty : Ps2Response := ⟨0, #v[0, 0, 0]⟩

/-- The globals of `ps2.c`. `bool` is a signed char and `port1` and `port2` start at -1. -/
structure Ps2 where
  ps2Initialized : Bool
  dualChannel : Bool
  port1 : BitVec 8
  port2 : BitVec 8
  ps2Error : Bool
  identity1 : Ps2Response
  identity2 : Ps2Response

def Ps2.loaded : Ps2 where
  ps2Initialized := false
  dualChannel := false
  port1 := -1
  port2 := -1
  ps2Error := false
  identity1 := ⟨0, #v[0, 0, 0]⟩
  identity2 := ⟨0, #v[0, 0, 0]⟩

def getUptimeTicks (reader : TickReader) : Driver (BitVec 64) := readTicks reader

def getUptimeSeconds (reader : TickReader) : Driver (BitVec 64) := do
  let ticks ← readTicks reader
  return ticks / 100

/-- `(inb(PS2_STATUS_PORT) & 0b10) != 0` -/
def inputBufferFull : Driver Bool := do
  let status ← inb ps2StatusPort
  return decide (status &&& 0b10 ≠ 0)

/-- `(inb(PS2_STATUS_PORT) & 0b1) == 0` -/
def outputBufferEmpty : Driver Bool := do
  let status ← inb ps2StatusPort
  return decide (status &&& 0b1 = 0)

def flushPs2OutputBuffer : Driver Unit := do
  logDebug "Debug: Flushing PS/2 output buffer"
  Task.whileDo (do
    let status ← inb ps2StatusPort
    return decide (status &&& 0b1 = 1)) do
      let _ ← inb ps2DataPort
      return ()

def ps2SendCmd (cmd : BitVec 8) : Driver Unit := do
  Task.whileDo inputBufferFull (return ())
  outb ps2CommandPort cmd

def ps2WriteData (data : BitVec 8) : Driver Unit := do
  Task.whileDo inputBufferFull (return ())
  outb ps2DataPort data

def ps2ReadData : Driver (BitVec 8) := do
  Task.whileDo outputBufferEmpty (return ())
  inb ps2DataPort

def readPs2ControllerConfig : Driver (BitVec 8) := do
  flushPs2OutputBuffer
  ps2SendCmd ps2ReadConfigByte
  let configByte ← ps2ReadData
  console (.kprint "READ: PS/2 Controller Configuration: ")
  console (.kprintBin (configByte.setWidth 64) 1)
  console (.kputchar 10)
  return configByte

def writePs2ControllerConfig (configByte : BitVec 8) : Driver Unit := do
  console (.kprint "WRITE: PS/2 Controller Configuration: ")
  console (.kprintBin (configByte.setWidth 64) 1)
  console (.kputchar 10)
  ps2SendCmd ps2WriteConfigByte
  ps2WriteData configByte

/-- The waiting loop of `ps2_port_write_data`, true when it times out. Its condition compares
bit 1 of the status with 1. -/
def awaitInputBuffer (timeoutStart : BitVec 64) : Driver Bool :=
  Task.iterate (fun _ : Unit => do
    let status ← inb ps2StatusPort
    if status &&& 2 = 1 then
      let now ← getUptimeTicks .portWriteData
      if now ≥ timeoutStart + ps2TimeoutDuration then
        logError "Error: PS/2 timeout: input buffer full"
        return .inr true
      return .inl ()
    return .inr false) ()

def ps2PortWriteData (g : Ps2) (port b : BitVec 8) : Driver Int := do
  if port = 2 then
    if g.port2 = 0 then
      logWarning "Warning: PS/2 byte attempted to be sent to invalid port"
      return 1
    ps2SendCmd ps2WriteByteInputPort2
  if port = 1 ∧ g.port1 = 0 then
    logWarning "Warning: PS/2 byte attempted to be sent to invalid port"
    return 1
  let timeoutStart ← getUptimeTicks .portWriteData
  let timedOut ← awaitInputBuffer timeoutStart
  if timedOut then
    return 1
  ps2WriteData b
  return 0

/-- The port failed its test. -/
def Ps2.InvalidPort (g : Ps2) (port : BitVec 8) : Prop :=
  port = 2 ∧ g.port2 = 0 ∨ port = 1 ∧ g.port1 = 0

instance (g : Ps2) (port : BitVec 8) : Decidable (g.InvalidPort port) :=
  inferInstanceAs (Decidable (_ ∨ _))

/-- "Set controller to write to port 2 if set" -/
def selectPort (port : BitVec 8) : Driver Unit :=
  if port = 2 then ps2SendCmd ps2WriteByteInputPort2 else return ()

def commandTo (port b : BitVec 8) : List (Port × BitVec 8) :=
  (if port = 2 then [(ps2CommandPort, ps2WriteByteInputPort2)] else []) ++ [(ps2DataPort, b)]

/-- `ps2_port_write_data` for a valid port. -/
def sendToPort (port b : BitVec 8) : Driver Int := do
  selectPort port
  let timeoutStart ← getUptimeTicks .portWriteData
  let timedOut ← awaitInputBuffer timeoutStart
  if timedOut then
    return 1
  ps2WriteData b
  return 0

theorem ps2PortWriteData_eq (g : Ps2) (port b : BitVec 8) :
    ps2PortWriteData g port b =
      if g.InvalidPort port then do
        logWarning "Warning: PS/2 byte attempted to be sent to invalid port"
        return 1
      else sendToPort port b := by
  unfold ps2PortWriteData sendToPort selectPort
  by_cases second : port = 2
  · have first : ¬ (port = 1 ∧ g.port1 = 0) := by
      rw [second]
      exact fun both => absurd both.1 (by decide)
    have same : g.InvalidPort port ↔ g.port2 = 0 := by
      rw [Ps2.InvalidPort, or_iff_left first, and_iff_right second]
    rw [if_pos second, if_pos second, if_congr same rfl rfl]
    apply ite_congr rfl (fun _ => rfl)
    intro _
    simp only [if_neg first]
  · have same : g.InvalidPort port ↔ port = 1 ∧ g.port1 = 0 :=
      or_iff_right fun both => second both.1
    rw [if_neg second, if_neg second, if_congr same rfl rfl]
    exact ite_congr rfl (fun _ => rfl) fun _ => rfl

/-- Bit 1 alone is never 1: the loop ends with the first status, and no timeout is noticed. -/
theorem awaitInputBuffer_eq (timeoutStart : BitVec 64) :
    awaitInputBuffer timeoutStart = Task.iterate (fun _ : Unit => do
      let _ ← inb ps2StatusPort
      return .inr false) () := by
  have never : ∀ status : BitVec 8, status &&& 2 ≠ 1 := by decide
  unfold awaitInputBuffer
  congr 1
  funext _
  congr 1
  funext status
  exact if_neg (never status)

theorem awaitInputBuffer_runs {timeoutStart : BitVec 64} {t : List DriverEvent} {timedOut : Bool}
    (run : Task.Runs (awaitInputBuffer timeoutStart) t timedOut) :
    timedOut = false ∧ ∃ status, t = [⟨.inb ps2StatusPort, status⟩] := by
  rw [awaitInputBuffer_eq] at run
  obtain ⟨t₁, t₂, x, rfl, turn, rest⟩ := Task.runs_loop.mp run
  obtain ⟨status, _, rfl, read⟩ := Task.runs_op.mp turn
  obtain ⟨rfl, rfl⟩ := Task.runs_ret.mp read
  obtain ⟨rfl, rfl⟩ := Task.runs_ret.mp rest
  exact ⟨rfl, status, rfl⟩

theorem awaitInputBuffer_possible {S : Type} {step : DriverEvent → S → S → Prop} {s s' : S}
    {status : BitVec 8} (reads : step ⟨.inb ps2StatusPort, status⟩ s s')
    (timeoutStart : BitVec 64) :
    Task.Possible step (awaitInputBuffer timeoutStart) s fun timedOut u =>
      timedOut = false ∧ u = s' := by
  rw [awaitInputBuffer_eq]
  apply Task.Possible.unroll
  apply Task.possible_bind.mpr
  apply Task.possible_op.mpr
  exact ⟨status, s', reads, Task.possible_ret.mpr (Task.possible_ret.mpr ⟨rfl, rfl⟩)⟩

/-- A byte for a valid port is sent in every run that returns. -/
theorem sendToPort_runs {port b : BitVec 8} {t : List DriverEvent} {r : Int}
    (run : Task.Runs (sendToPort port b) t r) :
    r = 0 ∧ ∃ u, t = u ++ [⟨.outb ps2DataPort b, ()⟩] := by
  obtain ⟨t₁, u₁, _, rfl, -, run₁⟩ := Task.runs_bind.mp run
  obtain ⟨t₂, u₂, start, rfl, -, run₂⟩ := Task.runs_bind.mp run₁
  obtain ⟨t₃, u₃, timedOut, rfl, waited, run₃⟩ := Task.runs_bind.mp run₂
  rw [(awaitInputBuffer_runs waited).1, if_neg Bool.false_ne_true] at run₃
  obtain ⟨t₄, u₄, _, rfl, wrote, run₄⟩ := Task.runs_bind.mp run₃
  obtain ⟨rfl, rfl⟩ := Task.runs_ret.mp run₄
  obtain ⟨t₅, u₅, _, rfl, -, run₅⟩ := Task.runs_bind.mp wrote
  obtain ⟨⟨⟩, _, rfl, run₆⟩ := Task.runs_op.mp run₅
  obtain ⟨rfl, -⟩ := Task.runs_ret.mp run₆
  exact ⟨rfl, t₁ ++ (t₂ ++ (t₃ ++ t₅)), by simp⟩

/-- `while ((inb(PS2_STATUS_PORT) & 1) == 0)` with its timeout, true when it times out. -/
def awaitOutputBuffer (reader : TickReader) (timeoutStart : BitVec 64) : Driver Bool :=
  Task.iterate (fun _ : Unit => do
    let empty ← outputBufferEmpty
    if empty then
      let now ← getUptimeTicks reader
      return if now ≥ timeoutStart + ps2TimeoutDuration then .inr true else .inl ()
    return .inr false) ()

def ps2PolRecieveByte (g : Ps2) : Driver (BitVec 8 × Ps2) := do
  let timeoutStart ← getUptimeTicks .polRecieveByte
  let timedOut ← awaitOutputBuffer .polRecieveByte timeoutStart
  if timedOut then
    logWarning "Error: PS/2 polling timeout: output buffer still empty, no data recieved"
    return (1, { g with ps2Error := true })
  let b ← inb ps2DataPort
  return (b, g)

/-! Which operations the transfers perform. -/

section Operations

variable {A : Op → Prop}

theorem inputBufferFull_only (status : A (.inb ps2StatusPort)) : Task.Only A inputBufferFull :=
  Task.Only.bind (Task.only_perform.mpr status) fun _ => trivial

theorem outputBufferEmpty_only (status : A (.inb ps2StatusPort)) :
    Task.Only A outputBufferEmpty :=
  Task.Only.bind (Task.only_perform.mpr status) fun _ => trivial

theorem selectPort_only (status : A (.inb ps2StatusPort))
    (select : A (.outb ps2CommandPort ps2WriteByteInputPort2)) (port : BitVec 8) :
    Task.Only A (selectPort port) := by
  unfold selectPort
  split
  · exact (Task.Only.whileDo (inputBufferFull_only status) Task.only_ret).bind fun _ =>
      Task.only_perform.mpr select
  · trivial

theorem writeData_only (status : A (.inb ps2StatusPort)) (send : ∀ b, A (.outb ps2DataPort b))
    (b : BitVec 8) : Task.Only A (ps2WriteData b) :=
  (Task.Only.whileDo (inputBufferFull_only status) Task.only_ret).bind fun _ =>
    Task.only_perform.mpr (send b)

/-- What a transfer may do besides taking a byte. -/
structure AllowsTransfer (A : Op → Prop) : Prop where
  status : A (.inb ps2StatusPort)
  ticks : ∀ reader, A (.readTicks reader)
  console : ∀ call, A (.console call)
  send : ∀ b, A (.outb ps2DataPort b)
  select : A (.outb ps2CommandPort ps2WriteByteInputPort2)

/-- What writing a byte to a port may do. -/
structure AllowsSend (A : Op → Prop) : Prop where
  status : A (.inb ps2StatusPort)
  ticks : A (.readTicks .portWriteData)
  console : ∀ call, A (.console call)
  send : ∀ b, A (.outb ps2DataPort b)
  select : A (.outb ps2CommandPort ps2WriteByteInputPort2)

theorem AllowsTransfer.toSend (allows : AllowsTransfer A) : AllowsSend A where
  status := allows.status
  ticks := allows.ticks _
  console := allows.console
  send := allows.send
  select := allows.select

theorem awaitOutputBuffer_only {reader : TickReader} (status : A (.inb ps2StatusPort))
    (ticks : A (.readTicks reader)) (start : BitVec 64) :
    Task.Only A (awaitOutputBuffer reader start) := by
  apply Task.only_iterate.mpr
  intro _
  apply (outputBufferEmpty_only status).bind
  intro empty
  split
  · exact Task.Only.bind (Task.only_perform.mpr ticks) fun now => trivial
  · trivial

variable (allows : AllowsSend A)

include allows

theorem awaitInputBuffer_only (start : BitVec 64) : Task.Only A (awaitInputBuffer start) := by
  apply Task.only_iterate.mpr
  intro _
  apply Task.Only.bind (Task.only_perform.mpr allows.status)
  intro status
  split
  · apply Task.Only.bind (Task.only_perform.mpr allows.ticks)
    intro now
    split
    · exact Task.Only.bind (Task.only_perform.mpr (allows.console _)) fun _ => trivial
    · trivial
  · trivial

theorem sendToPort_only (port b : BitVec 8) : Task.Only A (sendToPort port b) := by
  apply (selectPort_only allows.status allows.select port).bind
  intro _
  apply Task.Only.bind (Task.only_perform.mpr allows.ticks)
  intro start
  apply (awaitInputBuffer_only allows start).bind
  intro timedOut
  split
  · trivial
  · exact (writeData_only allows.status allows.send b).bind fun _ => trivial

theorem portWriteData_only (g : Ps2) (port b : BitVec 8) :
    Task.Only A (ps2PortWriteData g port b) := by
  rw [ps2PortWriteData_eq]
  split
  · exact Task.Only.bind (Task.only_perform.mpr (allows.console _)) fun _ => trivial
  · exact sendToPort_only allows port b

end Operations

/-- Clears the error when it is checked. -/
def ps2CheckError (g : Ps2) : Bool × Ps2 :=
  if g.ps2Error then (true, { g with ps2Error := false }) else (false, g)

/-- One turn of the loop of `ps2_wait_for_ack`. -/
def awaitAck (resendPort resendCommand : BitVec 8) (timeoutStart : BitVec 64) (g : Ps2) :
    Driver (Ps2 ⊕ Int × Ps2) := do
  let (response, g) ← ps2PolRecieveByte g
  if response = ps2Ack then
    return .inr (0, g)
  let (failed, g) := ps2CheckError g
  if failed then
    return .inr (1, g)
  if response = ps2Resend then
    let _ ← ps2PortWriteData g resendPort resendCommand
  -- seconds against ticks
  let now ← getUptimeSeconds .waitCheck
  if now ≥ timeoutStart + ps2TimeoutDuration then
    logError "Error: PS/2 timeout: command never aknowledged"
    return .inr (1, g)
  return .inl g

/-- The end of a turn without an acknowledge. -/
def checkTimeout (timeoutStart : BitVec 64) (g : Ps2) : Driver (Ps2 ⊕ Int × Ps2) := do
  let now ← getUptimeSeconds .waitCheck
  if now ≥ timeoutStart + ps2TimeoutDuration then
    logError "Error: PS/2 timeout: command never aknowledged"
    return .inr (1, g)
  return .inl g

def resendIfAsked (resendPort resendCommand response : BitVec 8) (g : Ps2) : Driver Unit :=
  if response = ps2Resend then do
    let _ ← ps2PortWriteData g resendPort resendCommand
  else return ()

/-- What a turn does with the byte it received. -/
def handleResponse (resendPort resendCommand : BitVec 8) (timeoutStart : BitVec 64)
    (response : BitVec 8) (g : Ps2) : Driver (Ps2 ⊕ Int × Ps2) :=
  if response = ps2Ack then return .inr (0, g)
  else if g.ps2Error then return .inr (1, { g with ps2Error := false })
  else do
    resendIfAsked resendPort resendCommand response g
    checkTimeout timeoutStart g

theorem awaitAck_eq (resendPort resendCommand : BitVec 8) (timeoutStart : BitVec 64) (g : Ps2) :
    awaitAck resendPort resendCommand timeoutStart g =
      (ps2PolRecieveByte g >>= fun r =>
        handleResponse resendPort resendCommand timeoutStart r.1 r.2) := by
  unfold awaitAck
  congr 1
  funext ⟨response, g⟩
  apply ite_congr rfl (fun _ => rfl)
  intro _
  cases failed : g.ps2Error with
  | true => simp [ps2CheckError, failed]
  | false =>
      rw [ps2CheckError, failed, if_neg Bool.false_ne_true, if_neg Bool.false_ne_true,
        resendIfAsked]
      by_cases resend : response = ps2Resend <;> simp [resend, checkTimeout]

def ps2WaitForAck (g : Ps2) (resendPort resendCommand : BitVec 8) : Driver (Int × Ps2) := do
  let timeoutStart ← getUptimeTicks .waitStart
  Task.iterate (awaitAck resendPort resendCommand timeoutStart) g

/-- "Re-enable scanning" -/
def enableScanning (port : BitVec 8) (g : Ps2) : Driver Ps2 := do
  let _ ← ps2PortWriteData g port ps2EnableScanning
  let (_, g) ← ps2WaitForAck g port ps2EnableScanning
  return g

/-- One turn of the loop that retrieves the identity. It ends the function by itself, with
`false`, or at its condition, with `true`. -/
def retrieveByte (port : BitVec 8) (state : Ps2Response × Ps2) :
    Driver (Ps2Response × Ps2 ⊕ Bool × Ps2Response × Ps2) := do
  let (response, g) := state
  if response.byteCount = 2 then
    return .inr (true, response, g)
  let timeoutStart ← getUptimeTicks .portIdentify
  let timedOut ← awaitOutputBuffer .portIdentify timeoutStart
  if timedOut then
    logDebug "Debug: Intentional PS/2 timeout: end of identity command"
    let g ← enableScanning port g
    return .inr (false, response, g)
  let (responseByte, g) ← ps2PolRecieveByte g
  let (failed, g) := ps2CheckError g
  if failed then
    return .inr (false, response, g)
  return .inl (⟨response.byteCount + 1,
    response.data.setIfInBounds response.byteCount.toNat responseByte⟩, g)

def Ps2Response.push (response : Ps2Response) (b : BitVec 8) : Ps2Response :=
  ⟨response.byteCount + 1, response.data.setIfInBounds response.byteCount.toNat b⟩

/-- What a turn of the retrieval does with the byte it received. -/
def keepByte (response : Ps2Response) (b : BitVec 8) (g : Ps2) :
    Ps2Response × Ps2 ⊕ Bool × Ps2Response × Ps2 :=
  if g.ps2Error then .inr (false, response, { g with ps2Error := false })
  else .inl (response.push b, g)

theorem retrieveByte_eq (port : BitVec 8) (response : Ps2Response) (g : Ps2) :
    retrieveByte port (response, g) =
      if response.byteCount = 2 then return .inr (true, response, g)
      else (getUptimeTicks .portIdentify >>= fun timeoutStart =>
        awaitOutputBuffer .portIdentify timeoutStart >>= fun timedOut =>
          if timedOut then do
            logDebug "Debug: Intentional PS/2 timeout: end of identity command"
            let g ← enableScanning port g
            return .inr (false, response, g)
          else (ps2PolRecieveByte g >>= fun r => .ret (keepByte response r.1 r.2))) := by
  have kept (b : BitVec 8) (g : Ps2) : (if (ps2CheckError g).1 then
      (.ret (.inr (false, response, (ps2CheckError g).2)) :
        Driver (Ps2Response × Ps2 ⊕ Bool × Ps2Response × Ps2))
      else .ret (.inl (response.push b, (ps2CheckError g).2))) = .ret (keepByte response b g) := by
    cases failed : g.ps2Error <;> simp [ps2CheckError, keepByte, failed]
  unfold retrieveByte
  apply ite_congr rfl (fun _ => rfl)
  intro _
  congr 1
  funext timeoutStart
  congr 1
  funext timedOut
  apply ite_congr rfl (fun _ => rfl)
  intro _
  congr 1
  funext r
  exact kept r.1 r.2

def ps2PortIdentify (port : BitVec 8) (g : Ps2) : Driver (Ps2Response × Ps2) := do
  let response : Ps2Response := ⟨0, #v[0, 0, 0]⟩
  -- Disable scanning
  let _ ← ps2PortWriteData g port ps2DisableScanning
  let (failed, g) ← ps2WaitForAck g port ps2DisableScanning
  if failed = 1 then
    return (response, { g with ps2Error := true })
  -- Identify device
  let _ ← ps2PortWriteData g port ps2Identify
  let (_, g) ← ps2WaitForAck g port ps2Identify
  -- Retrieve response
  let (atCondition, response, g) ← Task.iterate (retrieveByte port) (response, g)
  if atCondition then
    let g ← enableScanning port g
    return (response, g)
  return (response, g)

/-! Which operations an identification performs. -/

section Operations

variable {A : Op → Prop}

theorem polRecieveByte_only (status : A (.inb ps2StatusPort))
    (ticks : A (.readTicks .polRecieveByte)) (console : ∀ call, A (.console call))
    (data : A (.inb ps2DataPort)) (g : Ps2) : Task.Only A (ps2PolRecieveByte g) := by
  apply Task.Only.bind (Task.only_perform.mpr ticks)
  intro start
  apply (awaitOutputBuffer_only status ticks start).bind
  intro timedOut
  split
  · exact Task.Only.bind (Task.only_perform.mpr (console _)) fun _ => trivial
  · exact Task.Only.bind (Task.only_perform.mpr data) fun _ => trivial

theorem resendIfAsked_only (allows : AllowsSend A) (port command response : BitVec 8) (g : Ps2) :
    Task.Only A (resendIfAsked port command response g) := by
  unfold resendIfAsked
  split
  · exact (portWriteData_only allows g port command).bind fun _ => trivial
  · trivial

variable (allows : AllowsTransfer A)

include allows

theorem checkTimeout_only (start : BitVec 64) (g : Ps2) : Task.Only A (checkTimeout start g) := by
  have seconds : Task.Only A (getUptimeSeconds .waitCheck) :=
    Task.Only.bind (Task.only_perform.mpr (allows.ticks _)) fun _ => trivial
  apply seconds.bind
  intro now
  split
  · exact Task.Only.bind (Task.only_perform.mpr (allows.console _)) fun _ => trivial
  · trivial

theorem handleResponse_only (port command : BitVec 8) (start : BitVec 64) (response : BitVec 8)
    (g : Ps2) : Task.Only A (handleResponse port command start response g) := by
  unfold handleResponse
  split
  · trivial
  · split
    · trivial
    · exact (resendIfAsked_only allows.toSend port command response g).bind fun _ =>
        checkTimeout_only allows start g

variable (data : A (.inb ps2DataPort))

include data

theorem waitForAck_only (g : Ps2) (port command : BitVec 8) :
    Task.Only A (ps2WaitForAck g port command) := by
  have ticks : Task.Only A (getUptimeTicks .waitStart) := Task.only_perform.mpr (allows.ticks _)
  apply ticks.bind
  intro start
  apply Task.only_iterate.mpr
  intro g
  rw [awaitAck_eq]
  apply (polRecieveByte_only allows.status (allows.ticks _) allows.console data g).bind
  intro r
  exact handleResponse_only allows port command start r.1 r.2

theorem enableScanning_only (port : BitVec 8) (g : Ps2) : Task.Only A (enableScanning port g) :=
  (portWriteData_only allows.toSend g port _).bind fun _ =>
    (waitForAck_only allows data g port _).bind fun _ => trivial

theorem retrieveByte_only (port : BitVec 8) (state : Ps2Response × Ps2) :
    Task.Only A (retrieveByte port state) := by
  rcases state with ⟨response, g⟩
  rw [retrieveByte_eq]
  split
  · trivial
  · apply Task.Only.bind (Task.only_perform.mpr (allows.ticks _))
    intro start
    apply (awaitOutputBuffer_only allows.status (allows.ticks _) start).bind
    intro timedOut
    split
    · apply Task.Only.bind (Task.only_perform.mpr (allows.console _))
      intro _
      exact (enableScanning_only allows data port g).bind fun _ => trivial
    · exact (polRecieveByte_only allows.status (allows.ticks _) allows.console data g).bind
        fun _ => trivial

theorem portIdentify_only (port : BitVec 8) (g : Ps2) : Task.Only A (ps2PortIdentify port g) := by
  apply (portWriteData_only allows.toSend g port _).bind
  intro _
  apply (waitForAck_only allows data g port _).bind
  intro ⟨failed, g₁⟩
  dsimp only
  split
  · trivial
  · apply (portWriteData_only allows.toSend g₁ port _).bind
    intro _
    apply (waitForAck_only allows data g₁ port _).bind
    intro ⟨_, g₂⟩
    apply Task.Only.bind (Task.only_iterate.mpr (retrieveByte_only allows data port))
    intro ⟨atCondition, response, g₃⟩
    dsimp only
    split
    · exact (enableScanning_only allows data port g₃).bind fun _ => trivial
    · trivial

end Operations

/-- "Check for dual channel", "Clear configuration byte bits 0,1,6". -/
def configureController (g : Ps2) : Driver Ps2 := do
  logDebug "Debug: Disabling any possibly active PS/2 ports"
  ps2SendCmd ps2DisablePort
  ps2SendCmd ps2DisablePort2
  flushPs2OutputBuffer
  let configByte ← readPs2ControllerConfig
  let dualChannel := decide (configByte &&& 0b00100000 = 1)
  if dualChannel then
    logDebug "Debug: Dual channel PS/2 controller found upon first check"
  writePs2ControllerConfig (configByte &&& 0b10111100)
  let _ ← readPs2ControllerConfig
  return if dualChannel then { g with dualChannel := true } else g

/-- "Controller self test", false when it fails. -/
def testController : Driver Bool := do
  logDebug "Debug: Performing PS/2 controller self test"
  ps2SendCmd ps2ControllerTest
  Task.iterate (fun _ : Unit => do
    let response ← ps2ReadData
    if response = ps2ControllerTestPass then
      logDebug "Debug: PS/2 controller test passed"
      return .inr true
    else if response = ps2ControllerTestFail then
      logError "Error: PS/2 controller test failed"
      return .inr false
    return .inl ()) ()

/-- "Second check for dual channel" -/
def checkDualChannel (g : Ps2) : Driver Ps2 := do
  if g.dualChannel then
    return g
  logDebug "Debug: Running secondary test for dual channel PS/2 controller"
  ps2SendCmd ps2EnablePort2
  let configByte ← readPs2ControllerConfig
  if configByte &&& 0b00100000 = 0 then
    logDebug "Debug: Dual channel PS/2 controller found upon second check"
    logDebug "Debug: Disabling PS/2 port 2"
    ps2SendCmd ps2DisablePort2
    return { g with dualChannel := true }
  logDebug "Debug: Dual channel PS/2 controller not detected"
  return g

/-- One of the loops `while (port1 == -1)` and `while (port2 == -1)`. -/
def awaitPortTest (name : String) (port : BitVec 8) : Driver (BitVec 8) :=
  Task.iterate (fun port : BitVec 8 => do
    if port ≠ -1 then
      return .inr port
    let response ← ps2ReadData
    if response = ps2PortTestPass then
      logDebug ("Debug: PS/2 " ++ name ++ " passed test")
      return .inl 1
    match ps2PortTestFailures.lookup response with
    | some failure =>
        logWarning ("PS/2 " ++ name ++ " failed test: " ++ failure)
        return .inl 0
    | none => return .inl port) port

/-- "Port self tests" -/
def testPorts (g : Ps2) : Driver Ps2 := do
  logDebug "Debug: Testing PS/2 port 1"
  ps2SendCmd ps2TestPort
  let port1 ← awaitPortTest "port 1" g.port1
  let g := { g with port1 }
  if g.dualChannel then
    logDebug "Debug: Testing PS/2 port 2"
    ps2SendCmd ps2TestPort
    let port2 ← awaitPortTest "port 2" g.port2
    return { g with port2 }
  return g

/-- "Enable ports" and "Enable interrupts", after the check for usable ports. -/
def enablePorts (g : Ps2) : Driver Unit := do
  if g.port1 ≠ 0 then
    logDebug "Debug: Enabling PS/2 port 1"
    ps2SendCmd ps2EnablePort
  if g.port2 ≠ 0 then
    logDebug "Debug: Enabling PS/2 port 2"
    ps2SendCmd ps2EnablePort2
  let configByte ← readPs2ControllerConfig
  let mut configByte := configByte
  if g.port1 ≠ 0 then
    logDebug "Debug: Enabling PS/2 interrupts on port 1"
    configByte := configByte ||| 0b00000001
  if g.port2 ≠ 0 then
    logDebug "Debug: Enabling PS/2 interrupts on port 2"
    configByte := configByte ||| 0b00000010
  writePs2ControllerConfig configByte
  let _ ← readPs2ControllerConfig

/-- The loop that prints an identity, with `turns` bytes left from byte `i` on. -/
def printIdentityFrom (identity : Ps2Response) : Nat → Nat → Driver Unit
  | 0, _ => return ()
  | turns + 1, i => do
      let byte (i : Nat) : BitVec 8 := identity.data.toList.getD i 0
      -- Second byte does not apply if first is one of these values
      if i = 1 ∧ (byte 0 = 0x00 ∨ byte 0 = 0x03 ∨ byte 0 = 0x04) then
        console (.kprint "N/A")
      else
        console (.kprintHex ((byte i).setWidth 64) true)
        console (.kprint " ")
        printIdentityFrom identity turns (i + 1)

def printIdentity (message : String) (identity : Ps2Response) : Driver Unit := do
  console (.kprint message)
  printIdentityFrom identity identity.byteCount.toNat 0
  console (.kprint "\n")

/-- "Print identities" -/
def identifyPorts (g : Ps2) : Driver Ps2 := do
  logDebug "Debug: Getting PS/2 device identities"
  let (identity1, g) ← ps2PortIdentify 1 g
  let g := { g with identity1 }
  printIdentity "Debug: PS/2 port 1 identity: " g.identity1
  let (identity2, g) ← ps2PortIdentify 2 g
  let g := { g with identity2 }
  printIdentity "Debug: PS/2 port 2 identity: " g.identity2
  return g

def ps2Init (g : Ps2) : Driver (Int × Ps2) := do
  let g ← configureController g
  let passed ← testController
  if ¬ passed then
    return (1, g)
  let g ← checkDualChannel g
  let g ← testPorts g
  if g.port1 = 0 ∧ g.port2 = 0 then
    logError "No PS/2 ports avaliable"
    return (1, g)
  enablePorts g
  let g ← identifyPorts g
  return (0, { g with ps2Initialized := true })

end Flosp.Kernel
