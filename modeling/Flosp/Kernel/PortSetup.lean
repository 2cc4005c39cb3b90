import Flosp.Kernel.Ps2Controller

/-! What `ps2_init` finds out about a controller and how it sets it up. -/

namespace Flosp.Kernel

open Interaction

/-- The hardware as `ps2_init` finds it. -/
def Ps2Hardware.initial (config : BitVec 8) (pending : List (BitVec 8)) (busy : Nat) :
    Ps2Hardware :=
  ⟨⟨config, pending, .device, none⟩, false, busy, 0⟩

/-- A controller with nothing to be read or to be written. -/
def idle (config : BitVec 8) (written : Option (BitVec 8)) : Controller :=
  ⟨config, [], .device, written⟩

/-- A configuration byte with the interrupts and the translation off, with bit 5 of a single
channel controller as it was. -/
structure Masked (k : ControllerKind) (config masked : BitVec 8) : Prop where
  interrupt1 : masked.getLsbD 0 = false
  interrupt2 : masked.getLsbD 1 = false
  translation : masked.getLsbD 6 = false
  bit5 : k.dualChannel = false → masked.getLsbD 5 = config.getLsbD 5

/-- What both checks for a second channel come to. -/
def ControllerKind.detected (k : ControllerKind) (config : BitVec 8) : Bool :=
  k.dualChannel || !config.getLsbD 5

/-- The value that `port1` or `port2` is given for a test result, if it is a known one. -/
def portFlag (result : BitVec 8) : Option (BitVec 8) :=
  if result = ps2PortTestPass then some 1
  else if (ps2PortTestFailures.lookup result).isSome then some 0
  else none

/-- The globals after the port tests. -/
def ControllerKind.tested (k : ControllerKind) (config flag : BitVec 8) : Ps2 :=
  { Ps2.loaded with
    dualChannel := k.detected config
    port1 := flag
    port2 := if k.detected config then flag else -1 }

/-- `ps2_init` up to the port tests, false when the controller fails its self test. -/
def probe (g : Ps2) : Driver (Bool × Ps2) := do
  let g ← configureController g
  let passed ← testController
  if ¬ passed then
    return (false, g)
  let g ← checkDualChannel g
  let g ← testPorts g
  return (true, g)

/-- `ps2_init` from "Enable ports" on. -/
def bringUp (g : Ps2) : Driver (Int × Ps2) := do
  if g.port1 = 0 ∧ g.port2 = 0 then
    logError "No PS/2 ports avaliable"
    return (1, g)
  enablePorts g
  let g ← identifyPorts g
  return (0, { g with ps2Initialized := true })

theorem ps2Init_eq (g : Ps2) :
    ps2Init g = (probe g >>= fun r => if r.1 then bringUp r.2 else return (1, r.2)) := by
  rw [ps2Init, probe, Task.bind_assoc]
  congr 1
  funext g
  rw [Task.bind_assoc]
  congr 1
  funext passed
  cases passed with
  | true => simp [bringUp]
  | false => simp

section Stages

variable {k : ControllerKind} {config c : BitVec 8} {w : Option (BitVec 8)} {s : Ps2Hardware}

theorem Masked.switch (masked : Masked k config c) (cmd : BitVec 8) :
    Masked k config (k.switch cmd c) := by
  obtain ⟨interrupt1, interrupt2, translation, bit5⟩ := masked
  unfold ControllerKind.switch
  split
  · constructor <;> simp_all
  · split
    · constructor <;> simp_all
    · split
      · constructor <;> simp_all
      · split
        · constructor <;> simp_all
        · exact ⟨interrupt1, interrupt2, translation, bit5⟩

theorem switch_single (single : k.dualChannel = false) (cmd config : BitVec 8) :
    (k.switch cmd config).getLsbD 5 = config.getLsbD 5 := by
  unfold ControllerKind.switch
  split
  · simp
  · split
    · simp
    · simp [single]

theorem switch_enable2 (dual : k.dualChannel = true) (config : BitVec 8) :
    (k.switch ps2EnablePort2 config).getLsbD 5 = false := by
  have result : k.switch ps2EnablePort2 config = config &&& 0b11011111 := by
    simp [ControllerKind.switch, dual, ps2EnablePort2, ps2DisablePort, ps2EnablePort,
      ps2DisablePort2]
  simp [result]

theorem masked_configure (k : ControllerKind) (config : BitVec 8) :
    Masked k config
      (k.switch ps2DisablePort2 (k.switch ps2DisablePort config) &&& 0b10111100) := by
  constructor
  · simp
  · simp
  · simp
  · intro single
    rw [BitVec.getLsbD_and, switch_single single, switch_single single]
    simp

theorem bit5_ne_one : ∀ config : BitVec 8, config &&& 0b00100000 ≠ 1 := by decide

theorem bit5_clear : ∀ config : BitVec 8,
    config &&& 0b00100000 = 0 ↔ config.getLsbD 5 = false := by decide

theorem console_quiet {call : ConsoleCall} :
    Task.Ensures (controllerStep k) (console call) s fun _ s' => s' = s :=
  .op ⟨(), s, rfl⟩ fun _ _ step => .ret step

theorem console_ensures {call : ConsoleCall} {α : Type} {next : Unit → Driver α}
    {Q : α → Ps2Hardware → Prop} (rest : Task.Ensures (controllerStep k) (next ()) s Q) :
    Task.Ensures (controllerStep k) (console call >>= next) s Q := by
  apply console_quiet.bind
  intro _ s' same
  rw [same]
  exact rest

/-- The first check never finds a second channel. -/
theorem configureController_ensures (g : Ps2) (pending : List (BitVec 8)) (busy : Nat) :
    Task.Ensures (controllerStep k) (configureController g) (.initial config pending busy)
      fun g' s' => g' = g ∧ ∃ c w, Masked k config c ∧ Ready (idle c w) s' := by
  have ready : Ready ⟨config, pending, .device, none⟩ (.initial config pending busy) := ⟨rfl, rfl⟩
  apply console_ensures
  apply (sendCmd_ensures ready ps2DisablePort).bind
  intro _ s₁ sent₁
  have shown₁ := sent₁.2 rfl (.inr rfl)
  apply (sendCmd_ensures sent₁.1 ps2DisablePort2).bind
  intro _ s₂ sent₂
  have shown₂ := sent₂.2 rfl shown₁
  apply (flush_ensures sent₂.1 shown₂).bind
  intro _ s₃ ready₃
  apply (readConfig_ensures ready₃ (.inl (by rw [ready₃.controller]))).bind
  intro byte s₄ got
  obtain ⟨rfl, ready₄⟩ := got
  rw [decide_eq_false (bit5_ne_one _), if_neg Bool.false_ne_true]
  apply (writeConfig_ensures ready₄ _).bind
  intro _ s₅ ready₅
  apply (readConfig_ensures ready₅ (.inl (by rw [ready₅.controller]))).bind
  intro _ s₆ got
  apply Task.Ensures.ret
  rw [if_neg Bool.false_ne_true]
  exact ⟨rfl, _, _, masked_configure k config, got.2⟩

theorem sendCmd_answered {r cmd : BitVec 8} (ready : Ready (idle c w) s)
    (answered : (idle c w).command k cmd = { idle c w with output := [r] }) :
    Task.Ensures (controllerStep k) (ps2SendCmd cmd) s fun _ s' =>
      Ready { idle c w with output := [r] } s' := by
  apply (sendCmd_ensures ready cmd).mono
  intro _ s' sent
  rw [← answered]
  exact sent.1

theorem testController_ensures (ready : Ready (idle c w) s)
    (known : k.controllerTest = ps2ControllerTestPass ∨
      k.controllerTest = ps2ControllerTestFail) :
    Task.Ensures (controllerStep k) testController s fun passed s' =>
      passed = decide (k.controllerTest = ps2ControllerTestPass) ∧ Ready (idle c w) s' := by
  apply console_ensures
  apply (sendCmd_answered (r := k.controllerTest) ready rfl).bind
  intro _ s₁ ready₁
  apply Task.Ensures.unroll
  apply (readData_ensures ready₁ rfl).bind
  intro response s₂ got
  obtain ⟨rfl, ready₂⟩ := got
  rcases known with pass | fail
  · rw [if_pos pass]
    exact console_ensures (.ret ⟨(decide_eq_true pass).symm, ready₂⟩)
  · have other : k.controllerTest ≠ ps2ControllerTestPass := by
      rw [fail]
      decide
    rw [if_neg other, if_pos fail]
    exact console_ensures (.ret ⟨(decide_eq_false other).symm, ready₂⟩)

/-- A loop that reads another byte when the last one told it nothing waits for ever, if that
was the last one. -/
theorem reading_waits {β σ : Type} {body : σ → Driver (σ ⊕ β)} {i : σ} {r : BitVec 8}
    {next : BitVec 8 → Driver (σ ⊕ β)} (reads : body i = (ps2ReadData >>= next))
    (nothing : next r = return .inl i) (ready : Ready { idle c w with output := [r] } s) :
    Task.Satisfies (controllerStep k) (Task.iterate body i) s fun _ _ => False := by
  refine Task.satisfies_iterate (I := fun j s' =>
    j = i ∧ (Ready { idle c w with output := [r] } s' ∨ Ready (idle c w) s'))
    (fun j s' waiting => ?_) ⟨rfl, .inl ready⟩
  obtain ⟨rfl, waiting⟩ := waiting
  rw [reads]
  rcases waiting with answered | empty
  · refine (readData_ensures answered rfl).satisfies_bind fun response s₂ got => ?_
    obtain ⟨rfl, ready₂⟩ := got
    rw [nothing]
    exact Task.satisfies_ret.mpr ⟨rfl, .inr ready₂⟩
  · exact Task.satisfies_bind.mpr ((readData_waits empty rfl).mono fun _ _ never => never.elim)

theorem testController_waits (ready : Ready (idle c w) s)
    (other : k.controllerTest ≠ ps2ControllerTestPass)
    (other' : k.controllerTest ≠ ps2ControllerTestFail) :
    Task.Satisfies (controllerStep k) testController s fun _ _ => False := by
  refine console_quiet.satisfies_bind fun _ s₁ same => ?_
  subst same
  refine (sendCmd_answered (r := k.controllerTest) ready rfl).satisfies_bind fun _ s₂ ready₂ => ?_
  exact reading_waits rfl (by rw [if_neg other, if_neg other']) ready₂

/-- The second check, after the first has found nothing. -/
theorem checkDualChannel_ensures {g : Ps2} (first : g.dualChannel = false)
    (masked : Masked k config c) (ready : Ready (idle c w) s) :
    Task.Ensures (controllerStep k) (checkDualChannel g) s fun g' s' =>
      g' = { g with dualChannel := k.detected config } ∧
        ∃ c w, Masked k config c ∧ Ready (idle c w) s' := by
  rw [checkDualChannel, first, if_neg Bool.false_ne_true]
  apply console_ensures
  apply (sendCmd_ensures ready ps2EnablePort2).bind
  intro _ s₁ sent
  apply (readConfig_ensures sent.1 (.inl (by rw [sent.1.controller]; rfl))).bind
  intro byte s₂ got
  obtain ⟨told, ready₂⟩ := got
  change byte = k.switch ps2EnablePort2 c at told
  subst told
  have enabled := masked.switch ps2EnablePort2
  have bit : (k.switch ps2EnablePort2 c).getLsbD 5 = false ↔ k.detected config = true := by
    cases kind : k.dualChannel with
    | true =>
        rw [switch_enable2 kind]
        simp [ControllerKind.detected, kind]
    | false =>
        rw [enabled.bit5 kind]
        simp [ControllerKind.detected, kind]
  by_cases found : k.detected config
  · rw [if_pos ((bit5_clear _).mpr (bit.mpr found))]
    apply console_ensures
    apply console_ensures
    apply (sendCmd_ensures ready₂ ps2DisablePort2).bind
    intro _ s₃ sent₃
    apply Task.Ensures.ret
    exact ⟨by rw [found], _, w, enabled.switch ps2DisablePort2, sent₃.1⟩
  · rw [if_neg fun clear => found (bit.mp ((bit5_clear _).mp clear))]
    refine console_ensures (.ret ⟨?_, _, w, enabled, ready₂⟩)
    rw [Bool.not_eq_true] at found
    rw [found, ← first]

theorem awaitPortTest_ensures {r flag : BitVec 8} (known : portFlag r = some flag)
    (ready : Ready { idle c w with output := [r] } s) (name : String) :
    Task.Ensures (controllerStep k) (awaitPortTest name (-1)) s fun flag' s' =>
      flag' = flag ∧ Ready (idle c w) s' := by
  have settled {v : BitVec 8} (set : v ≠ -1) {s' : Ps2Hardware} (ready : Ready (idle c w) s') :
      Task.Ensures (controllerStep k) (awaitPortTest name v) s' fun flag' s' =>
        flag' = v ∧ Ready (idle c w) s' := by
    apply Task.Ensures.unroll
    rw [if_pos set]
    exact .ret ⟨rfl, ready⟩
  apply Task.Ensures.unroll
  rw [if_neg (by decide)]
  apply (readData_ensures ready rfl).bind
  intro response s₁ got
  obtain ⟨rfl, ready₁⟩ := got
  rw [portFlag] at known
  by_cases pass : response = ps2PortTestPass
  · rw [if_pos pass, Option.some_inj] at known
    rw [if_pos pass]
    exact console_ensures (.ret (known ▸ settled (by decide) ready₁))
  · rw [if_neg pass] at known ⊢
    cases found : ps2PortTestFailures.lookup response with
    | some failure =>
        rw [found, Option.isSome_some, if_pos rfl, Option.some_inj] at known
        exact console_ensures (.ret (known ▸ settled (by decide) ready₁))
    | none => simp [found] at known

theorem awaitPortTest_waits {r : BitVec 8} (unknown : portFlag r = none)
    (ready : Ready { idle c w with output := [r] } s) (name : String) :
    Task.Satisfies (controllerStep k) (awaitPortTest name (-1)) s fun _ _ => False := by
  rw [portFlag] at unknown
  have other : r ≠ ps2PortTestPass := by
    intro pass
    simp [pass] at unknown
  have absent : ps2PortTestFailures.lookup r = none := by
    cases found : ps2PortTestFailures.lookup r with
    | some failure => simp [other, found] at unknown
    | none => rfl
  exact reading_waits (if_neg (by decide)) (by rw [if_neg other, absent]) ready

/-- The same result is taken for both ports, as the second test is the first one again. -/
theorem testPorts_ensures {flag : BitVec 8} (known : portFlag k.port1Test = some flag) {g : Ps2}
    (unset1 : g.port1 = -1) (unset2 : g.port2 = -1) (ready : Ready (idle c w) s) :
    Task.Ensures (controllerStep k) (testPorts g) s fun g' s' =>
      g' = { g with port1 := flag, port2 := if g.dualChannel then flag else -1 } ∧
        Ready (idle c w) s' := by
  apply console_ensures
  apply (sendCmd_answered (r := k.port1Test) ready rfl).bind
  intro _ s₁ ready₁
  rw [unset1]
  apply (awaitPortTest_ensures known ready₁ "port 1").bind
  intro flag' s₂ first
  obtain ⟨rfl, ready₂⟩ := first
  cases dual : g.dualChannel with
  | true =>
      apply console_ensures
      apply (sendCmd_answered (r := k.port1Test) ready₂ rfl).bind
      intro _ s₃ ready₃
      rw [unset2]
      apply (awaitPortTest_ensures known ready₃ "port 2").bind
      intro flag' s₄ second
      apply Task.Ensures.ret
      obtain ⟨rfl, ready₄⟩ := second
      exact ⟨by simp, ready₄⟩
  | false =>
      refine .ret ⟨?_, ready₂⟩
      rw [if_neg Bool.false_ne_true, ← unset2]

theorem testPorts_waits (unknown : portFlag k.port1Test = none) {g : Ps2}
    (unset1 : g.port1 = -1) (ready : Ready (idle c w) s) :
    Task.Satisfies (controllerStep k) (testPorts g) s fun _ _ => False := by
  refine console_quiet.satisfies_bind fun _ s₁ same => ?_
  subst same
  refine (sendCmd_answered (r := k.port1Test) ready rfl).satisfies_bind fun _ s₂ ready₂ => ?_
  rw [unset1]
  exact Task.satisfies_bind.mpr
    ((awaitPortTest_waits unknown ready₂ "port 1").mono fun _ _ never => never.elim)

theorem probe_ensures {flag : BitVec 8} (config : BitVec 8)
    (pass : k.controllerTest = ps2ControllerTestPass)
    (known : portFlag k.port1Test = some flag) (pending : List (BitVec 8)) (busy : Nat) :
    Task.Ensures (controllerStep k) (probe Ps2.loaded) (.initial config pending busy) fun r s' =>
      r = (true, k.tested config flag) ∧ ∃ c w, Masked k config c ∧ Ready (idle c w) s' := by
  apply (configureController_ensures Ps2.loaded pending busy).bind
  intro g₁ s₁ configured
  obtain ⟨rfl, c₁, w₁, masked₁, ready₁⟩ := configured
  apply (testController_ensures ready₁ (.inl pass)).bind
  intro passed s₂ tested
  rw [tested.1, decide_eq_true pass, if_neg (by simp)]
  apply (checkDualChannel_ensures rfl masked₁ tested.2).bind
  intro g₃ s₃ checked
  obtain ⟨rfl, c₃, w₃, masked₃, ready₃⟩ := checked
  apply (testPorts_ensures known rfl rfl ready₃).bind
  intro g₄ s₄ flagged
  apply Task.Ensures.ret
  obtain ⟨rfl, ready₄⟩ := flagged
  exact ⟨rfl, c₃, w₃, masked₃, ready₄⟩

theorem probe_refuses (fail : k.controllerTest = ps2ControllerTestFail)
    (pending : List (BitVec 8)) (busy : Nat) :
    Task.Ensures (controllerStep k) (probe Ps2.loaded) (.initial config pending busy) fun r _ =>
      r.1 = false := by
  apply (configureController_ensures Ps2.loaded pending busy).bind
  intro g₁ s₁ configured
  obtain ⟨rfl, c₁, w₁, masked₁, ready₁⟩ := configured
  apply (testController_ensures ready₁ (.inr fail)).bind
  intro passed s₂ tested
  have failed : passed = false := by
    rw [tested.1, fail]
    decide
  rw [failed]
  exact .ret rfl

/-- Some answers are waited for that never come. -/
theorem probe_waits
    (unknown : (k.controllerTest ≠ ps2ControllerTestPass ∧
        k.controllerTest ≠ ps2ControllerTestFail) ∨
      k.controllerTest = ps2ControllerTestPass ∧ portFlag k.port1Test = none)
    (pending : List (BitVec 8)) (busy : Nat) :
    Task.Satisfies (controllerStep k) (probe Ps2.loaded) (.initial config pending busy)
      fun _ _ => False := by
  refine (configureController_ensures Ps2.loaded pending busy).satisfies_bind
    fun g₁ s₁ configured => ?_
  obtain ⟨rfl, c₁, w₁, masked₁, ready₁⟩ := configured
  rcases unknown with ⟨other, other'⟩ | ⟨pass, unknown⟩
  · exact Task.satisfies_bind.mpr
      ((testController_waits ready₁ other other').mono fun _ _ never => never.elim)
  · refine (testController_ensures ready₁ (.inl pass)).satisfies_bind fun passed s₂ tested => ?_
    rw [tested.1, decide_eq_true pass, if_neg (by simp)]
    refine (checkDualChannel_ensures rfl masked₁ tested.2).satisfies_bind fun g₃ s₃ checked => ?_
    obtain ⟨rfl, c₃, w₃, masked₃, ready₃⟩ := checked
    exact Task.satisfies_bind.mpr
      ((testPorts_waits unknown rfl ready₃).mono fun _ _ never => never.elim)

/-- The configuration byte that is written last has the interrupts on for the ports that are
flagged. -/
structure Enabled (g : Ps2) (config : BitVec 8) : Prop where
  interrupt1 : config.getLsbD 0 = decide (g.port1 ≠ 0)
  interrupt2 : config.getLsbD 1 = decide (g.port2 ≠ 0)
  translation : config.getLsbD 6 = false

/-- One port in "Enable ports". -/
def enablePort (message : String) (cmd flag : BitVec 8) : Driver Unit :=
  if flag ≠ 0 then do
    logDebug message
    ps2SendCmd cmd
  else return ()

/-- One port in "Enable interrupts". -/
def enableInterrupt (message : String) (bit flag config : BitVec 8) : Driver (BitVec 8) :=
  if flag ≠ 0 then do
    logDebug message
    return config ||| bit
  else return config

theorem enablePorts_eq (g : Ps2) : enablePorts g = (do
    enablePort "Debug: Enabling PS/2 port 1" ps2EnablePort g.port1
    enablePort "Debug: Enabling PS/2 port 2" ps2EnablePort2 g.port2
    let config ← readPs2ControllerConfig
    let config ← enableInterrupt "Debug: Enabling PS/2 interrupts on port 1" 0b01 g.port1 config
    let config ← enableInterrupt "Debug: Enabling PS/2 interrupts on port 2" 0b10 g.port2 config
    writePs2ControllerConfig config
    let _ ← readPs2ControllerConfig
    return ()) := by
  unfold enablePorts enablePort enableInterrupt
  split <;> split <;> simp

theorem enablePort_ensures {message : String} {cmd flag : BitVec 8} (masked : Masked k config c)
    (silent : ∀ config, k.answer cmd config = []) (device : k.target cmd = .device)
    (ready : Ready (idle c w) s) :
    Task.Ensures (controllerStep k) (enablePort message cmd flag) s fun _ s' =>
      ∃ c, Masked k config c ∧ Ready (idle c w) s' := by
  unfold enablePort
  split
  · apply console_ensures
    apply (sendCmd_ensures ready cmd).mono
    intro _ s' sent
    have same : (idle c w).command k cmd = idle (k.switch cmd c) w := by
      simp [Controller.command, idle, silent, device]
    exact ⟨_, masked.switch cmd, same ▸ sent.1⟩
  · exact .ret ⟨c, masked, ready⟩

theorem enableInterrupt_ensures (message : String) (bit flag : BitVec 8)
    (ready : Ready (idle c w) s) :
    Task.Ensures (controllerStep k) (enableInterrupt message bit flag config) s fun config' s' =>
      config' = (if flag ≠ 0 then config ||| bit else config) ∧ Ready (idle c w) s' := by
  unfold enableInterrupt
  split
  · exact console_ensures (.ret ⟨rfl, ready⟩)
  · exact .ret ⟨rfl, ready⟩

theorem Masked.enabled (masked : Masked k config c) (g : Ps2) :
    Enabled g (let c₁ := if g.port1 ≠ 0 then c ||| 0b01 else c
      if g.port2 ≠ 0 then c₁ ||| 0b10 else c₁) := by
  obtain ⟨interrupt1, interrupt2, translation, -⟩ := masked
  by_cases one : g.port1 = 0 <;> by_cases two : g.port2 = 0 <;> constructor <;>
    simp_all

theorem enablePorts_ensures {g : Ps2} (masked : Masked k config c) (ready : Ready (idle c w) s) :
    Task.Ensures (controllerStep k) (enablePorts g) s fun _ s' =>
      ∃ last, Enabled g last ∧ Ready (idle last (some last)) s' := by
  rw [enablePorts_eq]
  apply (enablePort_ensures masked (fun _ => rfl) rfl ready).bind
  intro _ s₁ first
  obtain ⟨c₁, masked₁, ready₁⟩ := first
  apply (enablePort_ensures masked₁ (fun _ => rfl) rfl ready₁).bind
  intro _ s₂ second
  obtain ⟨c₂, masked₂, ready₂⟩ := second
  apply (readConfig_ensures ready₂ (.inl (by rw [ready₂.controller]; rfl))).bind
  intro byte s₃ got
  obtain ⟨rfl, ready₃⟩ := got
  apply (enableInterrupt_ensures _ 0b01 g.port1 ready₃).bind
  intro byte s₄ bit₁
  obtain ⟨rfl, ready₄⟩ := bit₁
  apply (enableInterrupt_ensures _ 0b10 g.port2 ready₄).bind
  intro byte s₅ bit₂
  obtain ⟨rfl, ready₅⟩ := bit₂
  apply (writeConfig_ensures ready₅ _).bind
  intro _ s₆ ready₆
  refine (readConfig_ensures ready₆ (.inl (by rw [ready₆.controller]; rfl))).bind
    fun _ s₇ got => .ret ⟨_, masked₂.enabled g, got.2⟩

end Stages

end Flosp.Kernel
