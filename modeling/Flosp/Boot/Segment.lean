import Flosp.Boot.Firmware
import Flosp.Boot.LoaderRuns

/-! What one `load_segment` does to memory. -/

namespace Flosp.Boot

open Interaction ByteMemory

theorem efiSizeToPages_toNat (a : BitVec 64) :
    (efiSizeToPages a).toNat = a.toNat / 4096 + if a.toNat % 4096 = 0 then 0 else 1 := by
  have mask : a &&& efiPageMask = a % 4096#64 := by
    apply BitVec.eq_of_toNat_eq
    rw [BitVec.toNat_and, BitVec.toNat_umod]
    exact Nat.and_two_pow_sub_one_eq_mod a.toNat 12
  have shift : (a >>> efiPageShift).toNat = a.toNat / 4096 := by
    rw [BitVec.toNat_ushiftRight, Nat.shiftRight_eq_div_pow]
    rfl
  have zero : a % 4096#64 = 0 ↔ a.toNat % 4096 = 0 := by
    rw [← BitVec.toNat_inj, BitVec.toNat_umod]
    rfl
  have size := a.isLt
  rw [efiSizeToPages, mask, BitVec.toNat_add, shift]
  by_cases aligned : a.toNat % 4096 = 0
  · rw [if_neg (not_not.mpr (zero.mpr aligned)), if_pos aligned]
    exact Nat.mod_eq_of_lt (by change a.toNat / 4096 + 0 < 2 ^ 64; omega)
  · rw [if_pos (fun none => aligned (zero.mp none)), if_neg aligned]
    exact Nat.mod_eq_of_lt (by change a.toNat / 4096 + 1 < 2 ^ 64; omega)

theorem pageBytes_bounds (a : BitVec 64) :
    a.toNat ≤ pageBytes (efiSizeToPages a) ∧ pageBytes (efiSizeToPages a) < a.toNat + 4096 := by
  rw [pageBytes, efiSizeToPages_toNat]
  change a.toNat ≤ 4096 * _ ∧ 4096 * _ < _
  split <;> constructor <;> omega

namespace Segment

def InFile (h : Segment) (x : Addr) : Prop := Within x h.physicalAddress h.fileSize.toNat

def InZero (h : Segment) (x : Addr) : Prop :=
  Within x (h.physicalAddress + h.fileSize) (h.memorySize - h.fileSize).toNat

def Granted (h : Segment) (x : Addr) : Prop :=
  Within x h.physicalAddress (pageBytes (efiSizeToPages h.memorySize))

theorem granted_of_inFile {h : Segment} {x : Addr} (ordered : h.fileSize ≤ h.memorySize)
    (inside : h.InFile x) : h.Granted x := by
  have bound : h.fileSize.toNat ≤ h.memorySize.toNat := ordered
  exact inside.mono (Nat.le_trans bound (pageBytes_bounds h.memorySize).1)

theorem zero_size {h : Segment} (ordered : h.fileSize ≤ h.memorySize) :
    (h.memorySize - h.fileSize).toNat = h.memorySize.toNat - h.fileSize.toNat :=
  BitVec.toNat_sub_of_le ordered

theorem inZero_iff {h : Segment} {x : Addr} (ordered : h.fileSize ≤ h.memorySize) :
    h.InZero x ↔ h.fileSize.toNat ≤ (x - h.physicalAddress).toNat ∧
      (x - h.physicalAddress).toNat < h.memorySize.toNat := by
  have bound : h.fileSize.toNat ≤ h.memorySize.toNat := ordered
  have small : h.memorySize.toNat ≤ 2 ^ 64 := Nat.le_of_lt h.memorySize.isLt
  have whole : h.fileSize.toNat + (h.memorySize.toNat - h.fileSize.toNat) = h.memorySize.toNat := by
    omega
  have start : h.fileSize = BitVec.ofNat 64 h.fileSize.toNat := by
    rw [BitVec.ofNat_toNat, BitVec.setWidth_eq]
  have range : h.InZero x ↔ Within x (h.physicalAddress + BitVec.ofNat 64 h.fileSize.toNat)
      (h.memorySize.toNat - h.fileSize.toNat) := by
    rw [InZero, zero_size ordered, ← start]
  rw [range]
  constructor
  · intro inside
    have below : Within x h.physicalAddress h.memorySize.toNat :=
      whole ▸ within_of_sub (by omega) inside
    exact whole ▸ (within_sub_iff below (by omega) small).mp inside
  · intro between
    exact (within_sub_iff between.2 (by omega) small).mpr (whole.symm ▸ between)

theorem granted_of_inZero {h : Segment} {x : Addr} (ordered : h.fileSize ≤ h.memorySize)
    (inside : h.InZero x) : h.Granted x := by
  have below : Within x h.physicalAddress h.memorySize.toNat := ((inZero_iff ordered).mp inside).2
  exact below.mono (pageBytes_bounds h.memorySize).1

/-- With more bytes in the file than in memory the zero fill wraps round, and every
address is written. -/
theorem written_of_reversed {h : Segment} (reversed : h.memorySize < h.fileSize) (x : Addr) :
    h.InFile x ∨ h.InZero x := by
  have less : h.memorySize.toNat < h.fileSize.toNat := reversed
  by_cases low : h.InFile x
  · exact Or.inl low
  right
  have high : h.fileSize.toNat ≤ (x - h.physicalAddress).toNat := Nat.le_of_not_lt low
  have offset := (x - h.physicalAddress).isLt
  have split : x - (h.physicalAddress + h.fileSize) = x - h.physicalAddress - h.fileSize := by
    ring
  have size := h.fileSize.isLt
  have wrapped : (h.memorySize - h.fileSize).toNat =
      2 ^ 64 - h.fileSize.toNat + h.memorySize.toNat := by
    rw [BitVec.toNat_sub]
    exact Nat.mod_eq_of_lt (by omega)
  rw [InZero, Within, split, BitVec.toNat_sub_of_le high, wrapped]
  omega

end Segment

/-- `x` is a byte of a buffer that `AllocatePool` handed out during `t`. -/
def Buffered (t : Trace) (x : Addr) : Prop :=
  ∃ type size status b, callEvent (.allocatePool type size) (status, some b) ∈ t ∧
    Within x b size.toNat

structure Segment.Loads (file : KernelFile) (h : Segment) (t : Trace) (u v : Firmware) : Prop where
  pages : v.pages = fun x => u.pages x ∨ h.Granted x
  pool : v.pool = u.pool
  granted : ∀ x, h.Granted x → ¬ u.pages x ∧ ¬ u.Pooled x
  buffered : ∀ x, Buffered t x → ¬ v.pages x ∧ ¬ u.Pooled x
  kept : ∀ x, ¬ h.InFile x → ¬ h.InZero x → ¬ Buffered t x → v.mem x = u.mem x
  zeroed : ∀ x, h.InZero x → v.mem x = 0
  copied : ∀ k, k < file.delivered (file.seek h.offset) h.fileSize.toNat →
    ¬ h.InZero (h.physicalAddress + BitVec.ofNat 64 k) →
    ¬ Buffered t (h.physicalAddress + BitVec.ofNat 64 k) →
    v.mem (h.physicalAddress + BitVec.ofNat 64 k) = file.byte (file.seek h.offset + k)

section Effects

variable {file : KernelFile} {h : Segment} {s : SegmentReplies} {kernelImage : Addr}
  {u v : Firmware}

theorem buffered_append {t₁ t₂ : Trace} {x : Addr} :
    Buffered (t₁ ++ t₂) x ↔ Buffered t₁ x ∨ Buffered t₂ x := by
  constructor
  · intro buffered
    rcases buffered with ⟨type, size, status, b, member, inside⟩
    rcases List.mem_append.mp member with first | second
    · exact Or.inl ⟨type, size, status, b, first, inside⟩
    · exact Or.inr ⟨type, size, status, b, second, inside⟩
  · intro either
    rcases either with ⟨type, size, status, b, member, inside⟩ |
      ⟨type, size, status, b, member, inside⟩
    · exact ⟨type, size, status, b, List.mem_append_left t₂ member, inside⟩
    · exact ⟨type, size, status, b, List.mem_append_right t₁ member, inside⟩

theorem grantEvents_effect (follows : Follows (Uefi file) (s.grantEvents kernelImage h) u v) :
    s.target h = h.physicalAddress ∧ ¬ Failed s.pages.1 ∧
      u.Free h.physicalAddress (pageBytes (efiSizeToPages h.memorySize)) ∧
      v = { u with
        position := file.seek h.offset
        pages := fun x => u.pages x ∨ h.Granted x } := by
  rcases follows with ⟨_, ⟨-, rfl⟩, _, ⟨succeeds, target, free, rfl⟩, rfl⟩
  exact ⟨target, succeeds, free, rfl⟩

theorem allocatePool_event_inj {type type' : EfiMemoryType} {size size' : BitVec 64}
    {reply reply' : EfiStatus × Option Addr}
    (same : callEvent (.allocatePool type size) reply =
      callEvent (.allocatePool type' size') reply') : size = size' ∧ reply = reply' := by
  injection same with op replies
  injection op with call
  injection call with _ sizes
  exact ⟨sizes, replies⟩

theorem buffered_fileEvents (handed : s.pool.2 = some s.buffer) {x : Addr} :
    Buffered (s.fileEvents kernelImage h) x ↔ Within x s.buffer h.fileSize.toNat := by
  constructor
  · intro buffered
    rcases buffered with ⟨type, size, status, b, member, inside⟩
    simp only [SegmentReplies.fileEvents, List.mem_cons, List.not_mem_nil, or_false] at member
    rcases member with same | same | same | same
    · rcases allocatePool_event_inj same with ⟨sizes, pool⟩
      rw [← pool] at handed
      rw [← Option.some.inj handed, ← sizes]
      exact inside
    · cases same
    · cases same
    · cases same
  · intro inside
    refine ⟨.efiLoaderData, h.fileSize, s.pool.1, s.buffer, ?_, inside⟩
    rw [← handed]
    exact List.mem_cons_self

theorem fileEvents_effect (target : s.target h = h.physicalAddress)
    (follows : Follows (Uefi file) (s.fileEvents kernelImage h) u v) :
    ¬ Failed s.free.1 ∧ s.pool.2 = some s.buffer ∧ v.pages = u.pages ∧ v.pool = u.pool ∧
      u.Free s.buffer h.fileSize.toNat ∧
      (∀ x, ¬ h.InFile x → ¬ Within x s.buffer h.fileSize.toNat → v.mem x = u.mem x) ∧
      ∀ k, k < file.delivered u.position h.fileSize.toNat →
        ¬ Within (h.physicalAddress + BitVec.ofNat 64 k) s.buffer h.fileSize.toNat →
        v.mem (h.physicalAddress + BitVec.ofNat 64 k) = file.byte (u.position + k) := by
  rcases follows with ⟨_, ⟨-, b, pooled, handed, -, -, -, unused, free, keepsPool, rfl⟩, _,
    ⟨-, read, bytes, keepsRead, rfl⟩, _, ⟨-, rfl⟩, _, ⟨succeeds, freed, keepsFree, rfl⟩, rfl⟩
  have buffer : s.buffer = b := by
    rw [SegmentReplies.buffer, handed]
    rfl
  subst buffer
  have size : u.setPool s.buffer h.fileSize.toNat s.buffer = h.fileSize.toNat := if_pos rfl
  have freedOutside : ∀ x, ¬ Within x s.buffer h.fileSize.toNat →
      freed x = copy read h.physicalAddress s.buffer h.fileSize.toNat x := by
    intro x outside
    rw [← target]
    apply keepsFree
    change ¬ Within x s.buffer (u.setPool s.buffer h.fileSize.toNat s.buffer)
    rw [size]
    exact outside
  refine ⟨succeeds, handed, rfl, ?_, free, ?_, ?_⟩
  · funext b
    by_cases same : b = s.buffer
    · rw [same]
      exact (if_pos rfl).trans unused.symm
    · exact (if_neg same).trans (if_neg same)
  · intro x outsideFile outsideBuffer
    calc freed x
      _ = read x := by rw [freedOutside x outsideBuffer, copy_outside outsideFile]
      _ = pooled x := keepsRead x outsideBuffer
      _ = u.mem x := keepsPool x outsideBuffer
  · intro k bound outsideBuffer
    have small : h.fileSize.toNat ≤ 2 ^ 64 := Nat.le_of_lt h.fileSize.isLt
    have inside : Within (h.physicalAddress + BitVec.ofNat 64 k) h.physicalAddress
        h.fileSize.toNat :=
      within_offset (Nat.lt_of_lt_of_le bound (Nat.min_le_left ..)) small
    calc freed (h.physicalAddress + BitVec.ofNat 64 k)
      _ = read (s.buffer + BitVec.ofNat 64 k) := by
        rw [freedOutside _ outsideBuffer, copy, if_pos inside, offset_sub]
      _ = file.byte (u.position + k) := bytes k bound

theorem zeroEvents_effect (target : s.target h = h.physicalAddress)
    (follows : Follows (Uefi file) (s.zeroEvents h) u v) :
    ¬ Failed s.zero.1 ∧ v = { u with
      mem := fill u.mem (h.physicalAddress + h.fileSize) (h.memorySize - h.fileSize).toNat 0 } := by
  rcases follows with ⟨_, ⟨succeeds, rfl⟩, rfl⟩
  rw [← target]
  exact ⟨succeeds, rfl⟩

theorem not_buffered_grant {x : Addr} : ¬ Buffered (s.grantEvents kernelImage h) x := by
  intro buffered
  rcases buffered with ⟨type, size, status, b, member, -⟩
  rcases List.mem_cons.mp member with same | member
  · cases same
  · cases List.mem_singleton.mp member

theorem not_buffered_zero {x : Addr} : ¬ Buffered (s.zeroEvents h) x := by
  intro buffered
  rcases buffered with ⟨type, size, status, b, member, -⟩
  cases List.mem_singleton.mp member

theorem not_buffered_nil {x : Addr} : ¬ Buffered [] x := by
  intro buffered
  rcases buffered with ⟨type, size, status, b, member, -⟩
  cases member

def filePart (s : SegmentReplies) (kernelImage : Addr) (h : Segment) : Trace :=
  if h.fileSize > 0 then s.fileEvents kernelImage h else []

def zeroPart (s : SegmentReplies) (h : Segment) : Trace :=
  if h.memorySize - h.fileSize > 0 then s.zeroEvents h else []

theorem filePart_effect (target : s.target h = h.physicalAddress)
    (follows : Follows (Uefi file) (filePart s kernelImage h) u v) :
    (h.fileSize > 0 → ¬ Failed s.free.1) ∧ v.pages = u.pages ∧ v.pool = u.pool ∧
      (∀ x, Buffered (filePart s kernelImage h) x → ¬ u.pages x ∧ ¬ u.Pooled x) ∧
      (∀ x, ¬ h.InFile x → ¬ Buffered (filePart s kernelImage h) x → v.mem x = u.mem x) ∧
      ∀ k, k < file.delivered u.position h.fileSize.toNat →
        ¬ Buffered (filePart s kernelImage h) (h.physicalAddress + BitVec.ofNat 64 k) →
        v.mem (h.physicalAddress + BitVec.ofNat 64 k) = file.byte (u.position + k) := by
  rw [filePart] at follows ⊢
  by_cases present : h.fileSize > 0
  · rw [if_pos present] at follows ⊢
    rcases fileEvents_effect target follows with
      ⟨succeeds, handed, pages, pool, free, kept, copied⟩
    simp only [buffered_fileEvents handed]
    exact ⟨fun _ => succeeds, pages, pool, free, kept, copied⟩
  · rw [if_neg present] at follows ⊢
    have size : h.fileSize.toNat = 0 := Nat.le_zero.mp (Nat.le_of_not_lt present)
    cases follows
    refine ⟨fun some => absurd some present, rfl, rfl, ?_, ?_, ?_⟩
    · intro x buffered
      exact (not_buffered_nil buffered).elim
    · intro x _ _
      rfl
    · intro k bound
      rw [size, KernelFile.delivered, Nat.zero_min] at bound
      exact (Nat.not_lt_zero k bound).elim

theorem zeroPart_effect (target : s.target h = h.physicalAddress)
    (follows : Follows (Uefi file) (zeroPart s h) u v) :
    (h.memorySize - h.fileSize > 0 → ¬ Failed s.zero.1) ∧ v.pages = u.pages ∧ v.pool = u.pool ∧
      (∀ x, h.InZero x → v.mem x = 0) ∧ ∀ x, ¬ h.InZero x → v.mem x = u.mem x := by
  rw [zeroPart] at follows
  by_cases present : h.memorySize - h.fileSize > 0
  · rw [if_pos present] at follows
    rcases zeroEvents_effect target follows with ⟨succeeds, rfl⟩
    refine ⟨fun _ => succeeds, rfl, rfl, ?_, ?_⟩
    · intro x inside
      exact if_pos inside
    · intro x outside
      exact fill_outside outside
  · rw [if_neg present] at follows
    have size : (h.memorySize - h.fileSize).toNat = 0 := Nat.le_zero.mp (Nat.le_of_not_lt present)
    cases follows
    refine ⟨fun some => absurd some present, rfl, rfl, ?_, ?_⟩
    · intro x inside
      rw [Segment.InZero, size] at inside
      exact (not_within_zero _ _ inside).elim
    · intro x _
      rfl

theorem not_buffered_zeroPart {x : Addr} : ¬ Buffered (zeroPart s h) x := by
  rw [zeroPart]
  split
  · exact not_buffered_zero
  · exact not_buffered_nil

theorem events_split : s.events kernelImage h =
    s.grantEvents kernelImage h ++ filePart s kernelImage h ++ zeroPart s h :=
  rfl

theorem buffered_events {x : Addr} :
    Buffered (s.events kernelImage h) x ↔ Buffered (filePart s kernelImage h) x := by
  rw [events_split, buffered_append, buffered_append]
  constructor
  · intro either
    rcases either with (grantByte | byte) | zeroByte
    · exact (not_buffered_grant grantByte).elim
    · exact byte
    · exact (not_buffered_zeroPart zeroByte).elim
  · intro byte
    exact Or.inl (Or.inr byte)

theorem segment_loads (follows : Follows (Uefi file) (s.events kernelImage h) u v) :
    ¬ Failed (s.status h) ∧ s.target h = h.physicalAddress ∧
      h.Loads file (s.events kernelImage h) u v := by
  rcases follows_append.mp follows with ⟨mid, first, zeroes⟩
  rcases follows_append.mp first with ⟨granted, grant, files⟩
  rcases grantEvents_effect grant with ⟨target, pagesSucceed, free, rfl⟩
  rcases filePart_effect target files with ⟨freeSucceeds, pages, pool, apart, kept, copied⟩
  rcases zeroPart_effect target zeroes with ⟨zeroSucceeds, pages', pool', zeroed, kept'⟩
  refine ⟨?_, target, ⟨?_, ?_, free, ?_, ?_, zeroed, ?_⟩⟩
  · rw [SegmentReplies.status]
    split
    · next zero => exact zeroSucceeds zero
    · split
      · next some => exact freeSucceeds some
      · exact pagesSucceed
  · rw [pages', pages]
  · rw [pool', pool]
  · intro x byte
    have unused := apart x (buffered_events.mp byte)
    rw [pages', pages]
    exact unused
  · intro x outsideFile outsideZero outsideBuffer
    rw [kept' x outsideZero, kept x outsideFile (fun byte => outsideBuffer (buffered_events.mpr byte))]
  · intro k bound outsideZero outsideBuffer
    rw [kept' _ outsideZero]
    exact copied k bound fun byte => outsideBuffer (buffered_events.mpr byte)

end Effects

section Safety

variable {file : KernelFile} {h : Segment} {t : Trace} {u v : Firmware}

theorem Segment.Loads.unbuffered (loads : h.Loads file t u v) {x : Addr}
    (granted : h.Granted x) : ¬ Buffered t x := by
  intro byte
  have unused := (loads.buffered x byte).1
  rw [loads.pages] at unused
  exact unused (Or.inr granted)

theorem Segment.Loads.apart (loads : h.Loads file t u v) (ordered : h.fileSize ≤ h.memorySize)
    {x : Addr} (allocated : u.pages x ∨ u.Pooled x) :
    ¬ h.InFile x ∧ ¬ h.InZero x ∧ ¬ Buffered t x := by
  have outside : ¬ h.Granted x := by
    intro granted
    have free := loads.granted x granted
    rcases allocated with page | pooled
    · exact free.1 page
    · exact free.2 pooled
  refine ⟨fun inside => outside (granted_of_inFile ordered inside),
    fun inside => outside (granted_of_inZero ordered inside), ?_⟩
  intro byte
  have unused := loads.buffered x byte
  rw [loads.pages] at unused
  rcases allocated with page | pooled
  · exact unused.1 (Or.inl page)
  · exact unused.2 pooled

theorem Segment.Loads.safe (loads : h.Loads file t u v) (ordered : h.fileSize ≤ h.memorySize)
    {x : Addr} (allocated : u.pages x ∨ u.Pooled x) : v.mem x = u.mem x := by
  rcases loads.apart ordered allocated with ⟨outsideFile, outsideZero, unbuffered⟩
  exact loads.kept x outsideFile outsideZero unbuffered

end Safety

end Flosp.Boot
