import Flosp.Boot.Effects

/-! What becomes of a failing firmware call. Every status test of the loader uses
`EFI_ERROR`, so a run goes on after a failure as it would have without one. -/

namespace Flosp.Boot

open Interaction

/-- The calls whose status `load_kernel` and its callees test with `EFI_ERROR`. -/
def Call.statusTested : Call → Bool
  | .openFile .. | .setPosition .. | .allocatePool .. | .read .. | .freePool ..
  | .allocatePages .. | .copyMem .. | .setMem .. | .close .. => true
  | _ => false

/-- `e` is a tested call that returned the error `status`. -/
def FailsWith (e : BootEvent) (status : EfiStatus) : Prop :=
  ∃ c out, e = callEvent c (status, out) ∧ c.statusTested ∧ Failed status

/-- A run of `load_kernel` and what `efi_main` does after it. -/
structure LoadingRun where
  rootFileSystem : Addr
  kernelFilename : List Char16
  kernelEntryPoint : Addr
  imageHandle : Addr
  bootInfo : KernelBootInfo
  loaded : Trace
  returned : Except Halt EfiStatus
  entered : Trace
  final : Except Halt EfiStatus
  loads : Runs (loadKernel rootFileSystem kernelFilename kernelEntryPoint) loaded returned
  enters : Resumes (enterKernel imageHandle kernelEntryPoint bootInfo) returned entered final

/-- Each failing call is followed by console output alone, and its status is what
`load_kernel` and then `efi_main` return. -/
def LoadingRun.FailuresStop (run : LoadingRun) : Prop :=
  ∀ before e later status, run.loaded = before ++ e :: later → FailsWith e status →
    (∀ c reply, callEvent c reply ∈ later → c.prints) ∧
      run.returned = .ok status ∧ run.final = .ok status

/-- `efi_main` does not come back from what it does after `load_kernel`: it enters the
kernel whatever the status was. -/
theorem enterKernel_never_returns (imageHandle kernelEntryPoint : Addr) (bootInfo : KernelBootInfo)
    (status : EfiStatus) :
    NeverReturns (enterKernel imageHandle kernelEntryPoint bootInfo status) := by
  simp only [enterKernel, efiError_eq_false, Bool.false_eq_true, if_false]
  repeat
    apply NeverReturns.bind
    intro
  apply neverReturns_halt

theorem LoadingRun.final_error (run : LoadingRun) : ∃ h, run.final = .error h :=
  NeverReturns.resumes (enterKernel_never_returns _ _ _) run.enters

theorem LoadingRun.not_failuresStop (run : LoadingRun) {e : BootEvent} {status : EfiStatus}
    (present : e ∈ run.loaded) (fails : FailsWith e status) : ¬ run.FailuresStop := by
  intro stops
  rcases List.mem_iff_append.mp present with ⟨before, later, split⟩
  rcases run.final_error with ⟨h, ended⟩
  have returned : run.final = .ok status := (stops before e later status split fails).2.2
  rw [ended] at returned
  cases returned

/-- Failures stop the boot only where there are none. -/
theorem failuresStop_iff (run : LoadingRun) :
    run.FailuresStop ↔ ∀ e ∈ run.loaded, ∀ status, ¬ FailsWith e status := by
  constructor
  · intro stops e present status fails
    exact run.not_failuresStop present fails stops
  · intro none before e later status split fails
    have present : e ∈ run.loaded := by
      rw [split]
      exact List.mem_append_right before List.mem_cons_self
    exact absurd fails (none e present status)

/-- The run of `load_kernel`, and of `efi_main` after it, on a firmware that answers by
a function. -/
def LoadingRun.ofHandler {S : Type} (handle : (o : Op) → S → Reply o × S) (start : S)
    (rootFileSystem : Addr) (kernelFilename : List Char16) (kernelEntryPoint imageHandle : Addr)
    (bootInfo : KernelBootInfo) : LoadingRun :=
  let load := exec handle (loadKernel rootFileSystem kernelFilename kernelEntryPoint) start
  let enter := resume handle (enterKernel imageHandle kernelEntryPoint bootInfo) load.2.1 load.2.2
  { rootFileSystem, kernelFilename, kernelEntryPoint, imageHandle, bootInfo,
    loaded := load.1,
    returned := load.2.1,
    entered := enter.1,
    final := enter.2.1,
    loads := exec_runs handle _ start,
    enters := resume_resumes handle _ _ _ }

def deviceError : EfiStatus := efiErr 7

/-- A firmware on a broken disk: `SetPosition` and `Read` fail, everything else succeeds. -/
def brokenDisk (o : Op) (_ : Unit) : Reply o × Unit :=
  match o with
  | .load _ _ n => (0#(8 * n), ())
  | .store .. => ((), ())
  | .call c =>
      match c with
      | .setPosition .. => ((deviceError, ()), ())
      | .read .. => ((deviceError, none), ())
      | .openFile .. => ((efiSuccess, some 0x1000), ())
      | .allocatePool .. => ((efiSuccess, some 0x2000), ())
      | c => ((efiSuccess, c.noOutput), ())

def brokenDiskRun : LoadingRun :=
  .ofHandler brokenDisk () 0x100 (wide kernelFilepath) 0 0x200
    ⟨0, 0, 0, ⟨0, 0, 0, 0, 0⟩, 0x300⟩

theorem brokenDisk_does_not_stop : ¬ brokenDiskRun.FailuresStop := by
  have seek : brokenDiskRun.loaded[5]? =
      some (callEvent (.setPosition 0x1000 0) (deviceError, ())) := rfl
  exact brokenDiskRun.not_failuresStop (List.mem_of_getElem? seek)
    ⟨_, _, rfl, rfl, failed_efiErr 7⟩

end Flosp.Boot
