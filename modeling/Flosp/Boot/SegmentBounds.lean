import Flosp.Boot.KernelImage
import Flosp.Lib.Monitor

/-! Where `load_segment` writes, for any program headers and any firmware that grants the
pages it is asked for. -/

namespace Flosp.Boot

open Interaction ByteMemory

/-- Remembers the pages of the last `AllocatePages` that succeeded, the first call of every
`load_segment`, and lets `CopyMem` and `SetMem` write to them alone. -/
def grants : Monitor BootEvent (Addr → Prop) where
  next e granted :=
    match e with
    | ⟨.call (.allocatePages _ _ pages memory), (status, out)⟩ => fun x =>
        ¬ Failed status ∧ Within x (out.getD memory) (pageBytes pages)
    | _ => granted
  ok e granted :=
    match e with
    | ⟨.call (.copyMem destination _ length), _⟩ =>
        ∀ x, Within x destination length.toNat → granted x
    | ⟨.call (.setMem buffer size _), _⟩ => ∀ x, Within x buffer size.toNat → granted x
    | _ => True

def GrantsAsAsked (t : Trace) : Prop :=
  ∀ type memoryType pages memory status out,
    callEvent (.allocatePages type memoryType pages memory) (status, out) ∈ t →
      ¬ Failed status ∧ out.getD memory = memory

/-- The `PT_LOAD` headers the loop has read, each as the four loads of its members. -/
def segmentsRead : Trace → List Segment
  | ⟨.load .programHeaders _ 8, offset⟩ :: ⟨.load .programHeaders _ 8, fileSize⟩ ::
      ⟨.load .programHeaders _ 8, memorySize⟩ :: ⟨.load .programHeaders _ 8, address⟩ :: t =>
      ⟨offset, fileSize, memorySize, address⟩ :: segmentsRead t
  | _ :: t => segmentsRead t
  | [] => []

def Segment.Containable (h : Segment) : Prop := ∀ x, h.InFile x ∨ h.InZero x → h.Granted x

/-- Every byte that a `load_segment` of the run writes was granted to it, and a segment
that cannot be written so is refused. -/
def SegmentsConfined (t : Trace) (r : Except Halt EfiStatus) : Prop :=
  grants.Holds t (fun _ => False) ∧
    ∀ h ∈ segmentsRead (t.filter effective), ¬ h.Containable →
      ∃ status, r = .ok status ∧ Failed status

theorem containable_iff (h : Segment) :
    h.Containable ↔ h.fileSize ≤ h.memorySize ∨ 2 ^ 64 - 4096 < h.memorySize.toNat := by
  have pages := pageBytes_bounds h.memorySize
  constructor
  · intro contained
    by_cases ordered : h.fileSize ≤ h.memorySize
    · exact Or.inl ordered
    right
    have reversed : h.memorySize < h.fileSize := BitVec.not_le.mp ordered
    have all (x : Addr) : h.Granted x := contained x (Segment.written_of_reversed reversed x)
    -- the last address before the segment is granted too
    have last := all (h.physicalAddress + BitVec.ofNat 64 (2 ^ 64 - 1))
    have bound := (within_offset_iff (by decide)).mp last
    omega
  · intro condition x written
    rcases condition with ordered | huge
    · rcases written with file | zero
      · exact Segment.granted_of_inFile ordered file
      · exact Segment.granted_of_inZero ordered zero
    · apply within_full
      have whole : pageBytes (efiSizeToPages h.memorySize) % 4096 = 0 := Nat.mul_mod_right ..
      omega

section Trace

variable {h : Segment} {s : SegmentReplies} {kernelImage : Addr} {g : Addr → Prop}

theorem segmentsRead_type (a : Addr) (v : BitVec 32) (t : Trace) :
    segmentsRead (memberEvent a Elf64Phdr.pType v :: t) = segmentsRead t :=
  rfl

theorem segmentsRead_header (a : Addr) (h : Segment) (t : Trace) :
    segmentsRead (h.events a ++ t) = h :: segmentsRead t :=
  rfl

theorem segmentsRead_segment (t : Trace) :
    segmentsRead (s.events kernelImage h ++ t) = segmentsRead t := by
  rw [SegmentReplies.events]
  by_cases file : h.fileSize > 0 <;> by_cases zero : h.memorySize - h.fileSize > 0 <;>
    simp only [file, zero, if_true, if_false] <;> rfl

theorem holds_type (a : Addr) (v : BitVec 32) (t : Trace) :
    grants.Holds (memberEvent a Elf64Phdr.pType v :: t) g ↔ grants.Holds t g :=
  and_iff_right trivial

theorem holds_header (a : Addr) (h : Segment) (t : Trace) :
    grants.Holds (h.events a ++ t) g ↔ grants.Holds t g := by
  change (True ∧ True ∧ True ∧ True ∧ grants.Holds t g) ↔ _
  simp only [true_and]

theorem holds_filePart (target : s.target h = h.physicalAddress) :
    grants.Holds (filePart s kernelImage h) g ↔ ∀ x, h.InFile x → g x := by
  rw [filePart]
  by_cases present : h.fileSize > 0
  · rw [if_pos present]
    change (True ∧ True ∧ (∀ x, Within x (s.target h) h.fileSize.toNat → g x) ∧ True ∧ True) ↔ _
    rw [target]
    simp only [true_and, and_true]
    rfl
  · rw [if_neg present]
    have size : h.fileSize.toNat = 0 := Nat.le_zero.mp (Nat.le_of_not_lt present)
    constructor
    · intro _ x inside
      rw [Segment.InFile, size] at inside
      exact (not_within_zero _ _ inside).elim
    · intro _
      trivial

theorem after_filePart : grants.after (filePart s kernelImage h) g = g := by
  rw [filePart]
  split <;> rfl

theorem holds_zeroPart (target : s.target h = h.physicalAddress) :
    grants.Holds (zeroPart s h) g ↔ ∀ x, h.InZero x → g x := by
  rw [zeroPart]
  by_cases present : h.memorySize - h.fileSize > 0
  · rw [if_pos present]
    change ((∀ x, Within x (s.target h + h.fileSize) (h.memorySize - h.fileSize).toNat → g x) ∧
      True) ↔ _
    rw [target]
    exact and_iff_left trivial
  · rw [if_neg present]
    have size : (h.memorySize - h.fileSize).toNat = 0 := Nat.le_zero.mp (Nat.le_of_not_lt present)
    constructor
    · intro _ x inside
      rw [Segment.InZero, size] at inside
      exact (not_within_zero _ _ inside).elim
    · intro _
      trivial

theorem holds_segment (target : s.target h = h.physicalAddress) (succeeds : ¬ Failed s.pages.1) :
    grants.Holds (s.events kernelImage h) g ↔ h.Containable := by
  have grant : grants.after (s.grantEvents kernelImage h) g = h.Granted := by
    funext x
    change (¬ Failed s.pages.1 ∧ Within x (s.target h) _) = h.Granted x
    rw [target]
    exact propext (and_iff_right succeeds)
  have silent : grants.Holds (s.grantEvents kernelImage h) g := ⟨trivial, trivial, trivial⟩
  rw [events_split, Monitor.holds_append, Monitor.holds_append, Monitor.after_append, grant,
    after_filePart, holds_filePart target, holds_zeroPart target]
  constructor
  · intro holds x written
    rcases written with file | zero
    · exact holds.1.2 x file
    · exact holds.2 x zero
  · intro contained
    exact ⟨⟨silent, fun x file => contained x (Or.inl file)⟩,
      fun x zero => contained x (Or.inr zero)⟩

end Trace

theorem GrantsAsAsked.tail (t₁ : Trace) {t₂ : Trace} (asked : GrantsAsAsked (t₁ ++ t₂)) :
    GrantsAsAsked t₂ := by
  intro type memoryType pages memory status out member
  exact asked type memoryType pages memory status out (List.mem_append_right t₁ member)

theorem GrantsAsAsked.segment {s : SegmentReplies} {h : Segment} {t : Trace}
    (asked : GrantsAsAsked t)
    (member : callEvent (.allocatePages .allocateAddress .efiLoaderData
      (efiSizeToPages h.memorySize) h.physicalAddress) s.pages ∈ t) :
    ¬ Failed s.pages.1 ∧ s.target h = h.physicalAddress :=
  asked _ _ _ _ s.pages.1 s.pages.2 member

theorem holds_loop {kernelImage table : Addr} {turns i : Nat} {status : EfiStatus}
    {loaded : BitVec 16} {t : Trace} {r : Except Halt EfiStatus} {g : Addr → Prop}
    (does : Does (loadProgramSegmentsFrom kernelImage table turns i status loaded) t r)
    (asked : GrantsAsAsked t) :
    grants.Holds t g ↔ ∀ h ∈ segmentsRead t, h.Containable := by
  induction turns generalizing i status loaded t g with
  | zero =>
      rcases does_segments_end does with ⟨rfl, -⟩
      constructor
      · intro _ h member
        cases member
      · intro _
        trivial
  | succ turns ih =>
      rcases does_segments_turn does with ⟨pType, rest, rfl, ⟨-, next⟩ |
        ⟨-, h, s, rest', rfl, next⟩⟩
      · rw [segmentsRead_type, holds_type]
        exact ih next (asked.tail [_])
      · have later : GrantsAsAsked rest' := asked.tail (_ :: (h.events _ ++ _))
        have placed : ¬ Failed s.pages.1 ∧ s.target h = h.physicalAddress := by
          apply asked.segment
          apply List.mem_cons_of_mem
          apply List.mem_append_left
          apply List.mem_append_right
          exact List.mem_cons_of_mem _ List.mem_cons_self
        rw [segmentsRead_type, holds_type, List.append_assoc, segmentsRead_header, holds_header,
          segmentsRead_segment, Monitor.holds_append, holds_segment placed.2 placed.1,
          ih next later, List.forall_mem_cons]

theorem holds_effective {t : Trace} {g : Addr → Prop} :
    grants.Holds (t.filter effective) g ↔ grants.Holds t g := by
  apply Monitor.holds_filter
  · intro e s silent
    rcases e with ⟨op, reply⟩
    cases op with
    | load region a n => cases silent
    | store region a n v => cases silent
    | call c =>
        cases c with
        | outputString string => rfl
        | _ => cases silent
  · intro e s silent
    rcases e with ⟨op, reply⟩
    cases op with
    | load region a n => cases silent
    | store region a n v => cases silent
    | call c =>
        cases c with
        | outputString string => trivial
        | _ => cases silent

theorem GrantsAsAsked.filtered {t : Trace} (asked : GrantsAsAsked t) :
    GrantsAsAsked (t.filter effective) := by
  intro type memoryType pages memory status out member
  exact asked type memoryType pages memory status out (List.mem_filter.mp member).1

theorem holds_iff_containable {kernelImage kernelHeader table : Addr} {t : Trace}
    {r : Except Halt EfiStatus}
    (runs : Runs (loadProgramSegments kernelImage kernelHeader table) t r)
    (asked : GrantsAsAsked t) :
    grants.Holds t (fun _ => False) ↔
      ∀ h ∈ segmentsRead (t.filter effective), h.Containable := by
  have quiet := asked.filtered
  rw [← holds_effective]
  rcases does_loadProgramSegments runs.keeping with ⟨phnum, rest, split, ⟨-, rfl, -⟩ | ⟨-, loop⟩⟩
  · rw [split]
    constructor
    · intro _ h member
      cases member
    · intro _
      exact ⟨trivial, trivial⟩
  · rw [split] at quiet ⊢
    have loads := holds_loop (g := fun _ => False) loop (quiet.tail [_])
    exact (and_iff_right trivial).trans loads

/-- `load_segment` stays inside its grant exactly for headers with no more file bytes than
memory bytes, or whose pages are the whole address space; no header is ever refused. -/
theorem segmentsConfined_iff {kernelImage kernelHeader table : Addr} {t : Trace}
    {r : Except Halt EfiStatus}
    (runs : Runs (loadProgramSegments kernelImage kernelHeader table) t r)
    (asked : GrantsAsAsked t) :
    SegmentsConfined t r ↔ ∀ h ∈ segmentsRead (t.filter effective),
      h.fileSize ≤ h.memorySize ∨ 2 ^ 64 - 4096 < h.memorySize.toNat := by
  simp only [← containable_iff]
  constructor
  · intro confined
    exact (holds_iff_containable runs asked).mp confined.1
  · intro contained
    refine ⟨(holds_iff_containable runs asked).mpr contained, ?_⟩
    intro h member refused
    exact absurd (contained h member) refused

theorem grantsAsAsked_of_follows {file : KernelFile} {t : Trace} {s s' : Firmware}
    (follows : Follows (Uefi file) t s s') : GrantsAsAsked t := by
  intro type memoryType pages memory status out member
  induction t generalizing s with
  | nil => cases member
  | cons e t ih =>
      rcases follows with ⟨mid, now, later⟩
      rcases List.mem_cons.mp member with same | tail
      · subst same
        cases type with
        | allocateAddress => exact ⟨now.1, now.2.1⟩
        | allocateAnyPages => exact now.elim
        | allocateMaxAddress => exact now.elim
      · exact ih later tail

theorem twoHeaders_confined : SegmentsConfined twoHeadersRun.1 twoHeadersRun.2.1 := by
  have allowed : allowed (BumpFirmware.handle twoHeaderFile) BumpFirmware.allow
      (loadProgramSegments 0x100 0x100000000 0x100000040) twoHeaders := by decide +kernel
  have follows := BumpFirmware.follows twoHeaders_valid allowed
  apply (segmentsConfined_iff (exec_runs _ _ twoHeaders) (grantsAsAsked_of_follows follows)).mpr
  intro h member
  have only : segmentsRead (twoHeadersRun.1.filter effective) = [⟨2, 4, 10, 0x200000⟩] := by
    decide +kernel
  rw [← twoHeadersRun, only] at member
  rw [List.mem_singleton.mp member]
  exact Or.inl (by decide)

/-- One `PT_LOAD` header with two pages in the file and one in memory. -/
def reversedMemory : Memory 64 :=
  overlay (overlay (fun _ => 0) 0x100000038 [1]) 0x100000040
    [1, 0, 0, 0, 0, 0, 0, 0, 0, 0, 0, 0, 0, 0, 0, 0, 0, 0, 0, 0, 0, 0, 0, 0,
      0, 0, 0x20, 0, 0, 0, 0, 0, 0, 0x20, 0, 0, 0, 0, 0, 0, 0, 0x10]

def reversedHeaders : BumpFirmware where
  firmware :=
    { mem := reversedMemory, position := 0, pages := fun _ => False
      pool := fun a => if a = 0x100000040 then 56 else 0 }
  nextBuffer := 0x100000080
  nextPage := 0

theorem reversedHeaders_valid : reversedHeaders.Valid where
  aligned := by decide
  above := by decide
  below := by decide
  pool := by
    intro a live
    change (if a = 0x100000040 then 56 else 0) ≠ 0 at live
    change _ ∧ a.toNat + (if a = 0x100000040 then 56 else 0) ≤ _
    by_cases table : a = 0x100000040
    · subst table
      decide
    · rw [if_neg table] at live
      exact absurd rfl live
  pages := fun _ page => page.elim
  low := by decide

def reversedRun : Trace × Except Halt EfiStatus × BumpFirmware :=
  exec (BumpFirmware.handle twoHeaderFile)
    (loadProgramSegments 0x100 0x100000000 0x100000040) reversedHeaders

theorem reversed_not_confined : ¬ SegmentsConfined reversedRun.1 reversedRun.2.1 := by
  have allowed : allowed (BumpFirmware.handle twoHeaderFile) BumpFirmware.allow
      (loadProgramSegments 0x100 0x100000000 0x100000040) reversedHeaders := by decide +kernel
  have asked := grantsAsAsked_of_follows (BumpFirmware.follows reversedHeaders_valid allowed)
  have read : ⟨0, 0x2000, 0x1000, 0x200000⟩ ∈ segmentsRead (reversedRun.1.filter effective) := by
    decide +kernel
  intro confined
  have contained := (holds_iff_containable (exec_runs _ _ reversedHeaders) asked).mp confined.1
  have condition := (containable_iff _).mp (contained _ read)
  revert condition
  decide

end Flosp.Boot
