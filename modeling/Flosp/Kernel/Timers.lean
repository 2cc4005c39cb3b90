import Flosp.Kernel.Acpi
import Flosp.Kernel.Apic

/-! The system timers (`kernel/timers.c`, `inc/kernel/timers.h`). -/

namespace Flosp.Kernel

open ByteMemory Interaction

/-- The globals of the HPET. -/
structure Hpet where
  hpetPeriod : BitVec 32
  hpetBaseAddr : Addr
  hpetCfgAddr : Addr
  hpetMainCntrAddr : Addr

/-- The globals as the kernel is loaded. -/
def Hpet.loaded : Hpet := ⟨0, 0, 0, 0⟩

/-- What `timer_handler` reads and writes. -/
structure TimerState where
  /-- the uptime in units of 10 milliseconds -/
  ticks : BitVec 64
  lapicTimerEnabled : Bool
  deriving DecidableEq

def acpiMemorySpace : BitVec 8 := 0
/-- `&HPET->sdt_header.revision`, `&HPET->Base_Address.AddressSpace` and
`&HPET->Base_Address.Address` by their offsets -/
def revisionOffset : Addr := 8
def addressSpaceOffset : Addr := 40
def baseAddressOffset : Addr := 44

def hpetOffsetGeneralConfiguration : Addr := 0x010
def hpetOffsetMainCounterValue : Addr := 0x0F0
def hpetMilliseconds : BitVec 64 := 1000000000000

def pitModeCommandRegister : Port := 0x43
def pitChannel0Data : Port := 0x40
def channel0FrequencyHz : Nat := 100

def pitDisable : Driver Unit := outb pitModeCommandRegister 0b00110010

/-- `divisor` is positive and less than `2 ^ 16`. -/
def pitInit : Driver Unit := do
  outb pitModeCommandRegister 0b00110110
  let divisor := 1193180 / channel0FrequencyHz
  outb pitChannel0Data (BitVec.ofNat 8 divisor)
  outb pitChannel0Data (BitVec.ofNat 8 (divisor >>> 8))

/-- The end of `hpet_init`, with an HPET that it takes. -/
def hpetStart (g : Hpet) : Driver Hpet := do
  let g := { g with
    hpetCfgAddr := g.hpetBaseAddr + hpetOffsetGeneralConfiguration
    hpetMainCntrAddr := g.hpetBaseAddr + hpetOffsetMainCounterValue }
  -- Get the timer period (in femtoseconds)
  let capabilities ← loadAt g.hpetBaseAddr 8
  let g := { g with hpetPeriod := (capabilities >>> 32).setWidth 32 }
  -- Clear bit 1 (disable legacy replacement, stop PIT emulation)
  let cfg ← loadVolatile g.hpetCfgAddr 8
  storeVolatile g.hpetCfgAddr 8 (cfg &&& 0xFFFFFFFD)
  -- Set bit 0 (enable main counter)
  let cfg ← loadVolatile g.hpetCfgAddr 8
  storeVolatile g.hpetCfgAddr 8 (cfg ||| 0x00000001)
  logDebug "Debug: HPET initialized"
  return g

def hpetInit (hpet : Addr) (g : Hpet) : Driver Hpet := do
  let hpetBaseAddr ← loadAt (hpet + baseAddressOffset) 8
  let g := { g with hpetBaseAddr }
  console (.kprint "Debug: HPET Address: ")
  console (.kprintHex hpetBaseAddr true)
  console (.kprint "\n")
  if hpetBaseAddr = 0 then
    logError "Error: HPET address is NULL"
    return g
  let addressSpace ← loadAt (hpet + addressSpaceOffset) 1
  if addressSpace ≠ acpiMemorySpace then
    logError "Error: HPET is not located within memory"
    return { g with hpetBaseAddr := 0 }
  let revision ← loadAt (hpet + revisionOffset) 1
  if revision = 0 then
    logError "Error: HPET revision is 0"
    return { g with hpetBaseAddr := 0 }
  hpetStart g

/-- In femtoseconds. -/
def pollHpet (g : Hpet) : Driver (BitVec 64) := do
  let counter ← loadVolatile g.hpetMainCntrAddr 8
  return counter * g.hpetPeriod.setWidth 64

/-- Reads the time until `duration` has been added to it. -/
def pollingSleep (read : Driver (BitVec 64)) (duration : BitVec 64) : Driver Unit := do
  let now ← read
  let endTime := now + duration
  Task.whileDo (do
    let now ← read
    return now < endTime) (return ())

def sleepTimer (timeMs : BitVec 32) : Driver Unit :=
  pollingSleep (readTicks .sleepTimer) (timeMs.setWidth 64)

def hpetSleep (time timeUnits : BitVec 64) (g : Hpet) : Driver Unit :=
  pollingSleep (pollHpet g) (time * timeUnits)

/-- The wait of `lapic_timer_init`. -/
def calibrationSleep (lapicAddr : Addr) (g : Hpet) : Driver Unit := do
  if g.hpetBaseAddr ≠ 0 then
    lapicWriteReg (lapicAddr + apicTimerInitialCount) (-1)
    logDebug "Debug: HPET sleeping 10 ms for lapic calibration"
    hpetSleep 10 hpetMilliseconds g
  else
    lapicWriteReg (lapicAddr + apicTimerInitialCount) (-1)
    logDebug "Debug: PIT sleeping for 10 ms for lapic calibration"
    sleepTimer 10

/-- `lapic_timer_init` after the wait -/
def startLapicTimer (lapicAddr : Addr) : Driver Unit := do
  logDebug "Debug: lapic timer calibration complete"
  -- Stop apic timer
  lapicWriteReg (lapicAddr + apicLvtTimer) apicDisable
  -- Save amount of ticks in 10 ms
  let count ← lapicReadReg (lapicAddr + apicTimerCurrentCount)
  let ticks10ms := 0xFFFFFFFF - count
  logDebug "Debug: Enabling the lapic timer"
  -- Set timer periodic on IRQ 0 (int 0x20)
  lapicWriteReg (lapicAddr + apicLvtTimer) (0x20 ||| apicTimerModePeriodic)
  let divider ← lapicReadReg (lapicAddr + apicTimerDivider)
  lapicWriteReg (lapicAddr + apicTimerDivider) (divider ||| 0x3)
  lapicWriteReg (lapicAddr + apicTimerInitialCount) ticks10ms
  Task.perform Op.enableLapicTimer
  logDebug "Debug: lapic timer initialized"

def lapicTimerInit (lapicAddr : Addr) (g : Hpet) : Driver Unit := do
  -- APIC timer set to divider 16
  lapicWriteReg (lapicAddr + apicTimerDivider) 0x3
  calibrationSleep lapicAddr g
  startLapicTimer lapicAddr

/-- The HPET part of `timers_init`. -/
def detectHpet (tables : AcpiTables) (g : Hpet) : Driver Hpet := do
  if tables.hpet ≠ 0 then
    logDebug "Debug: Initializing the HPET"
    hpetInit tables.hpet g
  else
    return g

/-- The PIT part of `timers_init`. -/
def setUpPit (g : Hpet) : Driver Unit := do
  if g.hpetBaseAddr ≠ 0 then
    logDebug "Debug: Using the HPET to calibrate the lapic timer"
    logDebug "Debug: Disabling the PIT"
    pitDisable
  else
    logDebug "Debug: Using the PIT to calibrate the lapic timer"
    logDebug "Debug: Initializing the PIT"
    pitInit

def timersInit (tables : AcpiTables) (lapicAddr : Addr) (g : Hpet) : Driver Hpet := do
  logDebug "Debug: Initializing the lapic timer"
  let g ← detectHpet tables g
  setUpPit g
  logDebug "Debug: Initializing the lapic timer"
  lapicTimerInit lapicAddr g
  return g

def timerHandler (lapicAddr cpuStatus : Addr) (t : TimerState) : Driver (Addr × TimerState) := do
  if t.lapicTimerEnabled then
    let t := { t with ticks := t.ticks + 1 }
    lapicWriteReg (lapicAddr + apicEoi) 0
    return (cpuStatus, t)
  return (cpuStatus, t)

/-- What `lapic_timer_init` waits for. -/
def calibrationWait (g : Hpet) : Driver Unit :=
  if g.hpetBaseAddr ≠ 0 then hpetSleep 10 hpetMilliseconds g else sleepTimer 10

def sleepMessage (g : Hpet) : String :=
  if g.hpetBaseAddr ≠ 0 then "Debug: HPET sleeping 10 ms for lapic calibration"
  else "Debug: PIT sleeping for 10 ms for lapic calibration"

theorem calibrationSleep_eq (lapicAddr : Addr) (g : Hpet) :
    calibrationSleep lapicAddr g = (do
      lapicWriteReg (lapicAddr + apicTimerInitialCount) (-1)
      logDebug (sleepMessage g)
      calibrationWait g) := by
  rw [calibrationSleep, sleepMessage, calibrationWait]
  split
  · rfl
  · rfl

/-- `timers_init` up to the wait of `lapic_timer_init` -/
def beforeWait (tables : AcpiTables) (lapicAddr : Addr) (g : Hpet) : Driver Hpet := do
  logDebug "Debug: Initializing the lapic timer"
  let g ← detectHpet tables g
  setUpPit g
  logDebug "Debug: Initializing the lapic timer"
  lapicWriteReg (lapicAddr + apicTimerDivider) 0x3
  lapicWriteReg (lapicAddr + apicTimerInitialCount) (-1)
  logDebug (sleepMessage g)
  return g

theorem timersInit_eq (tables : AcpiTables) (lapicAddr : Addr) (g : Hpet) :
    timersInit tables lapicAddr g = (do
      let g ← beforeWait tables lapicAddr g
      calibrationWait g
      startLapicTimer lapicAddr
      return g) := by
  unfold timersInit beforeWait lapicTimerInit
  simp only [Task.bind_assoc, calibrationSleep_eq]
  rfl

end Flosp.Kernel
