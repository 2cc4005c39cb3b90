import Flosp.Kernel.PortSetup

/-! What `ps2_init` believes of a controller when it has probed it: which ports passed their
tests, and whether there is a second channel. -/

namespace Flosp.Kernel

open Interaction

/-- `ps2_init` up to the second check for a second channel, false when the controller fails
its self test. -/
def detect (g : Ps2) : Driver (Bool × Ps2) := do
  let g ← configureController g
  let passed ← testController
  if ¬ passed then
    return (false, g)
  let g ← checkDualChannel g
  return (true, g)

theorem probe_eq (g : Ps2) : probe g = (detect g >>= fun r =>
    if r.1 then (do
      let g ← testPorts r.2
      return (true, g))
    else return (false, r.2)) := by
  rw [probe, detect, Task.bind_assoc]
  congr 1
  funext g
  rw [Task.bind_assoc]
  congr 1
  funext passed
  cases passed with
  | true => simp
  | false => simp

/-- After both checks `dual_channel` is true exactly for a controller with two channels. -/
def DetectsExactly (k : ControllerKind) (config : BitVec 8) (pending : List (BitVec 8)) : Prop :=
  ∀ busy, Task.Satisfies (controllerStep k) (detect Ps2.loaded) (.initial config pending busy)
    fun r _ => r.1 = true → (r.2.dualChannel = true ↔ k.dualChannel = true)

/-- With both ports tested, each flag tells how the port's own test came out. -/
def JudgesApart (k : ControllerKind) (config : BitVec 8) (pending : List (BitVec 8)) : Prop :=
  ∀ busy, Task.Satisfies (controllerStep k) (probe Ps2.loaded) (.initial config pending busy)
    fun r _ => r.1 = true → r.2.dualChannel = true →
      (r.2.port1 ≠ 0 ↔ k.port1Test = ps2PortTestPass) ∧
        (r.2.port2 ≠ 0 ↔ k.port2Test = ps2PortTestPass)

section Detection

variable {k : ControllerKind} {config : BitVec 8} {pending : List (BitVec 8)} {busy : Nat}

theorem detect_ensures (pass : k.controllerTest = ps2ControllerTestPass) :
    Task.Ensures (controllerStep k) (detect Ps2.loaded) (.initial config pending busy) fun r _ =>
      r = (true, { Ps2.loaded with dualChannel := k.detected config }) := by
  apply (configureController_ensures Ps2.loaded pending busy).bind
  intro g₁ s₁ configured
  rcases configured with ⟨rfl, c₁, w₁, masked₁, ready₁⟩
  apply (testController_ensures ready₁ (.inl pass)).bind
  intro passed s₂ tested
  rw [tested.1, decide_eq_true pass, if_neg (by simp)]
  apply (checkDualChannel_ensures rfl masked₁ tested.2).bind
  intro g₃ s₃ checked
  apply Task.Ensures.ret
  rw [checked.1]

/-- A controller that does not pass its self test is not asked any more. -/
theorem detect_stops (other : k.controllerTest ≠ ps2ControllerTestPass) :
    Task.Satisfies (controllerStep k) (detect Ps2.loaded) (.initial config pending busy)
      fun r _ => r.1 = false := by
  refine (configureController_ensures Ps2.loaded pending busy).satisfies_bind
    fun g₁ s₁ configured => ?_
  rcases configured with ⟨rfl, c₁, w₁, masked₁, ready₁⟩
  by_cases fail : k.controllerTest = ps2ControllerTestFail
  · refine (testController_ensures ready₁ (.inr fail)).satisfies_bind fun passed s₂ tested => ?_
    rw [tested.1, decide_eq_false other, if_pos (by simp)]
    exact Task.satisfies_ret.mpr rfl
  · exact Task.satisfies_bind.mpr
      ((testController_waits ready₁ other fail).mono fun _ _ never => never.elim)

theorem detected_eq_dualChannel :
    (k.detected config = true ↔ k.dualChannel = true) ↔
      k.dualChannel = true ∨ config.getLsbD 5 = true := by
  cases dual : k.dualChannel <;> cases bit : config.getLsbD 5 <;>
    simp only [ControllerKind.detected, dual, bit] <;> decide

/-- A single channel controller is recognised by a bit 5 that is set. -/
theorem detectsExactly_iff :
    DetectsExactly k config pending ↔ (k.controllerTest = ps2ControllerTestPass →
      k.dualChannel = true ∨ config.getLsbD 5 = true) := by
  constructor
  · intro exactly_ pass
    rcases (detect_ensures pass).possible.meets (exactly_ 0) with ⟨r, s, rfl, told⟩
    exact detected_eq_dualChannel.mp (told rfl)
  · intro kinds busy
    by_cases pass : k.controllerTest = ps2ControllerTestPass
    · refine (detect_ensures pass).satisfies.mono fun r s found _ => ?_
      rw [found]
      exact detected_eq_dualChannel.mpr (kinds pass)
    · refine (detect_stops pass).mono fun r s stopped reached => ?_
      rw [stopped] at reached
      cases reached

end Detection

/-- A single channel controller whose bit 5 is clear, with all its tests passed. -/
def clearBitKind : ControllerKind where
  dualChannel := false
  controllerTest := 0x55
  port1Test := 0x00
  port2Test := 0x00

theorem clearBit_not_detected : ¬ DetectsExactly clearBitKind 0x45 [] := by
  intro exactly_
  have pass : clearBitKind.controllerTest = ps2ControllerTestPass := rfl
  rcases (detect_ensures pass).possible.meets (exactly_ 0) with ⟨r, s, rfl, told⟩
  revert told
  decide

section Judgement

variable {k : ControllerKind} {config : BitVec 8} {pending : List (BitVec 8)} {busy : Nat}

theorem portFlag_passed {result flag : BitVec 8} (known : portFlag result = some flag) :
    flag ≠ 0 ↔ result = ps2PortTestPass := by
  rw [portFlag] at known
  by_cases pass : result = ps2PortTestPass
  · rw [if_pos pass, Option.some_inj] at known
    exact iff_of_true (by rw [← known]; decide) pass
  · rw [if_neg pass] at known
    split at known
    · rw [Option.some_inj] at known
      exact iff_of_false (by rw [← known]; decide) pass
    · cases known

/-- Without a pass of the controller or a known result there is no verdict. -/
theorem probe_undecided (undecided : k.controllerTest ≠ ps2ControllerTestPass ∨
      portFlag k.port1Test = none) :
    Task.Satisfies (controllerStep k) (probe Ps2.loaded) (.initial config pending busy)
      fun r _ => r.1 = false := by
  by_cases fail : k.controllerTest = ps2ControllerTestFail
  · exact (probe_refuses fail pending busy).satisfies
  · have waits : (k.controllerTest ≠ ps2ControllerTestPass ∧
        k.controllerTest ≠ ps2ControllerTestFail) ∨
      k.controllerTest = ps2ControllerTestPass ∧ portFlag k.port1Test = none := by
      by_cases pass : k.controllerTest = ps2ControllerTestPass
      · exact .inr ⟨pass, undecided.resolve_left fun other => other pass⟩
      · exact .inl ⟨pass, fail⟩
    exact (probe_waits waits pending busy).mono fun _ _ never => never.elim

theorem probe_judges {flag : BitVec 8} (dual : k.dualChannel = true)
    (pass : k.controllerTest = ps2ControllerTestPass) (known : portFlag k.port1Test = some flag) :
    Task.Ensures (controllerStep k) (probe Ps2.loaded) (.initial config pending busy) fun r _ =>
      r.1 = true ∧ r.2.dualChannel = true ∧ r.2.port1 = flag ∧ r.2.port2 = flag := by
  apply (probe_ensures config pass known pending busy).mono
  intro r s told
  have both : k.detected config = true := by simp [ControllerKind.detected, dual]
  rw [told.1]
  simp [ControllerKind.tested, both]

/-- Port 2 is judged by port 1's result, so the verdicts are right when the results agree. -/
theorem judgesApart_iff (dual : k.dualChannel = true) :
    JudgesApart k config pending ↔ (k.controllerTest = ps2ControllerTestPass →
      (portFlag k.port1Test).isSome = true →
      (k.port2Test = ps2PortTestPass ↔ k.port1Test = ps2PortTestPass)) := by
  constructor
  · intro judges pass known
    rcases Option.isSome_iff_exists.mp known with ⟨flag, known⟩
    rcases (probe_judges dual pass known).possible.meets (judges 0) with
      ⟨r, s, ⟨reached, both, port1, port2⟩, told⟩
    rw [← portFlag_passed known, ← port2]
    exact (told reached both).2.symm
  · intro agree busy
    by_cases pass : k.controllerTest = ps2ControllerTestPass
    · cases known : portFlag k.port1Test with
      | some flag =>
          refine (probe_judges dual pass known).satisfies.mono fun r s told _ _ => ?_
          rw [told.2.2.1, told.2.2.2, agree pass (by rw [known]; rfl)]
          exact ⟨portFlag_passed known, portFlag_passed known⟩
      | none =>
          refine (probe_undecided (.inr known)).mono fun r s stopped reached => ?_
          rw [stopped] at reached
          cases reached
    · refine (probe_undecided (.inl pass)).mono fun r s stopped reached => ?_
      rw [stopped] at reached
      cases reached

end Judgement

/-- Both channels, with a test passed by port 1 and failed by port 2. -/
def failedPort2Kind : ControllerKind where
  dualChannel := true
  controllerTest := 0x55
  port1Test := 0x00
  port2Test := 0x01

/-- The same with both tests passed. -/
def healthyKind : ControllerKind := { failedPort2Kind with port2Test := 0x00 }

theorem healthy_judged : JudgesApart healthyKind 0x65 [] :=
  (judgesApart_iff rfl).mpr fun _ _ => Iff.rfl

theorem failedPort2_not_judged : ¬ JudgesApart failedPort2Kind 0x65 [] := by
  intro judges
  have dual : failedPort2Kind.dualChannel = true := rfl
  have pass : failedPort2Kind.controllerTest = ps2ControllerTestPass := rfl
  have known : portFlag failedPort2Kind.port1Test = some 1 := rfl
  rcases (probe_judges dual pass known).possible.meets (judges 0) with
    ⟨r, s, ⟨reached, both, port1, port2⟩, told⟩
  have verdict := (told reached both).2
  rw [port2] at verdict
  revert verdict
  decide

end Flosp.Kernel
