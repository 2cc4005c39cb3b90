import Flosp.Boot.ExitServices
import Flosp.Boot.Truncation

/-! Where the kernel's entry point is recorded between its reading and the jump to it. -/

namespace Flosp.Boot

open Interaction ByteMemory

/-- The entry point is recorded in memory that `efi_main` owns, and the kernel is entered
there. -/
structure BootRun.EntersImage (run : BootRun) (owns : Addr → Prop) (eEntry : Addr) : Prop where
  recorded : ∀ a n v, storeEvent .kernelEntryPoint a n v ∈ run.trace → ∀ x, Within x a n → owns x
  jumps : ∃ bootInfo, run.ended = .error (.enterKernel eEntry bootInfo)

theorem loadKernel_records {rootFileSystem kernelEntryPoint : Addr} {kernelFilename : List Char16}
    {t : Trace} {status : EfiStatus}
    (runs : Runs (loadKernel rootFileSystem kernelFilename kernelEntryPoint) t (.ok status)) :
    ∃ eEntry, storeEvent .kernelEntryPoint kernelEntryPoint 8 eEntry ∈ t := by
  rcases does_loadKernel runs.keeping with ⟨opened, rest, kept, ⟨_, spins⟩ | ⟨_, k, rfl, _, _⟩⟩
  · cases spins
  · have stored : storeEvent .kernelEntryPoint kernelEntryPoint 8 k.entry ∈
        t.filter effective := by
      rw [kept]
      simp [KernelReplies.events, KernelReplies.tableEvents]
    exact ⟨k.entry, (List.mem_filter.mp stored).1⟩

theorem BootRun.records_at_null (run : BootRun) (exits : ∃ e ∈ run.trace, EndsServices e) :
    ∃ eEntry, storeEvent .kernelEntryPoint 0 8 eEntry ∈ run.trace := by
  obtain ⟨_, present, imageHandle, mapKey, rfl⟩ := exits
  rcases efiMain_reaches _ _ _ _ _ run.runs with
    kept | ⟨before, rest, split, kept, rootFileSystem, bootInfo, runs⟩
  · exact (kept _ present).elim
  · rcases runs_bind.mp runs with ⟨loaded, entered, m, rfl, loads, enters⟩
    rw [split] at present ⊢
    cases m with
    | ok status =>
        rcases loadKernel_records loads with ⟨eEntry, stored⟩
        exact ⟨eEntry, List.mem_append_right _ (List.mem_append_left _ stored)⟩
    | error h =>
        -- nothing follows a `load_kernel` that does not return
        have nothing : entered = [] := enters.1
        rw [nothing, List.append_nil] at present
        have early : ∀ e ∈ before ++ loaded, KeepsServices e.op :=
          List.forall_mem_append.mpr ⟨kept, (loadKernel_keeps ..).events loads⟩
        exact (early _ present).elim

/-- No object of `efi_main` lies at the null pointer, so the entry point never gets into one. -/
theorem entersImage_never (run : BootRun) (exits : ∃ e ∈ run.trace, EndsServices e)
    (owns : Addr → Prop) (notNull : ¬ owns 0) (eEntry : Addr) : ¬ run.EntersImage owns eEntry := by
  intro enters
  rcases run.records_at_null exits with ⟨recorded, stored⟩
  exact notNull (enters.recorded 0 8 recorded stored 0 (by decide))

/-! A firmware on which every call succeeds, once with a segment at page 0. -/

section Sample

def sampleFrame (x : Addr) : Prop := Within x 0x7E000000 0x1000

theorem willing_enters_never : ¬ willingRun.EntersImage sampleFrame 0 := by
  have exit : willingRun.trace[223]? =
      some (callEvent (.exitBootServices 0x10 0) (efiSuccess, ())) := rfl
  have notNull : ¬ Within (0 : Addr) 0x7E000000 0x1000 := by decide
  exact entersImage_never willingRun ⟨_, List.mem_of_getElem? exit, _, _, rfl⟩ sampleFrame
    notNull 0

/-- The kernel of one segment, of which byte 90 is in `p_paddr` -/
def pageZeroFile : KernelFile :=
  { oneSegmentFile with byte := fun i => if i = 90 then 0 else oneSegmentBytes.getD i 0 }

def ofLoader : Op → Bool
  | .load .graphics .. | .load .handleBuffer .. | .load .configurationTable ..
  | .load .vendorTable .. => false
  | .load .. | .store .. => true
  | .call (.openFile ..) | .call (.close _) | .call (.setPosition ..) | .call (.read ..)
  | .call (.allocatePages ..) | .call (.allocatePool ..) | .call (.freePool _)
  | .call (.copyMem ..) | .call (.setMem ..) => true
  | _ => false

def pageZeroReply (o : Op) (b : BumpFirmware) : Reply o × BumpFirmware :=
  if ofLoader o then BumpFirmware.handle pageZeroFile o b else ((willing o ()).1, b)

def pageZeroRun : BootRun :=
  .ofHandler pageZeroReply freshFirmware 0x10 ⟨1, 0x4000⟩ ⟨⟨0, 0⟩, (0, 0), 0⟩

/-- `e_entry` is `0x200000`, and the first bytes of the segment are entered. -/
theorem pageZero_enters_elsewhere :
    (∃ bootInfo, pageZeroRun.ended = .error (.enterKernel 0x0807060504030201 bootInfo)) ∧
      storeEvent .kernelEntryPoint 0 8 0x200000#64 ∈ pageZeroRun.trace ∧
      ¬ pageZeroRun.EntersImage sampleFrame 0x200000 := by
  have jumped : ∃ bootInfo,
      pageZeroRun.ended = .error (.enterKernel 0x0807060504030201 bootInfo) := ⟨_, rfl⟩
  have stored : pageZeroRun.trace[90]? = some (storeEvent .kernelEntryPoint 0 8 0x200000#64) := rfl
  refine ⟨jumped, List.mem_of_getElem? stored, ?_⟩
  intro enters
  rcases jumped with ⟨_, elsewhere⟩
  rcases enters.jumps with ⟨_, there⟩
  rw [elsewhere] at there
  cases there

end Sample

end Flosp.Boot
