import Flosp.Boot.KernelImage

/-! Which bytes that the loader takes from the file were read from it. The four reads of the
file report how many bytes they delivered. -/

namespace Flosp.Boot

open Interaction ByteMemory

def reported (size : BitVec 64) (status : EfiStatus) (out : Option (BitVec 64)) : Nat :=
  if Failed status then 0 else (out.getD size).toNat

/-- Remembers which addresses hold a byte that a `Read` delivered there, and lets the loader
use no other byte of the structures it reads from the file or of the segments it copies. -/
def reads : Monitor BootEvent (Addr → Prop) where
  next e fresh :=
    match e with
    | ⟨.call (.read _ size buffer), (status, out)⟩ => fun x =>
        Within x buffer (reported size status out) ∨ (fresh x ∧ ¬ Within x buffer size.toNat)
    | ⟨.call (.allocatePool _ size), (_, out)⟩ => fun x =>
        fresh x ∧ ¬ Within x (out.getD 0) size.toNat
    | ⟨.call (.copyMem destination _ length), _⟩ => fun x =>
        fresh x ∧ ¬ Within x destination length.toNat
    | ⟨.call (.setMem buffer size _), _⟩ => fun x => fresh x ∧ ¬ Within x buffer size.toNat
    | ⟨.store _ a n _, _⟩ => fun x => fresh x ∧ ¬ Within x a n
    | _ => fresh
  ok e fresh :=
    match e with
    | ⟨.load .elfIdentity a n, _⟩ | ⟨.load .elfHeader a n, _⟩ | ⟨.load .programHeaders a n, _⟩ =>
        ∀ x, Within x a n → fresh x
    | ⟨.call (.copyMem _ source length), _⟩ => ∀ x, Within x source length.toNat → fresh x
    | _ => True

/-- The bytes of the file as a memory that starts at address zero. -/
def KernelFile.image (file : KernelFile) : Memory 64 := fun a => file.byte a.toNat

theorem KernelFile.delivered_iff {file : KernelFile} {start : BitVec 64} {n i : Nat}
    (inside : i < n) :
    i < file.delivered (file.seek start) n ↔ start.toNat + i < file.size := by
  have bounded := file.bounded
  rw [KernelFile.delivered, Nat.lt_min, KernelFile.seek]
  by_cases last : start = BitVec.allOnes 64
  · rw [if_pos last, last, BitVec.toNat_allOnes]
    omega
  · rw [if_neg last]
    omega

/-- A live pool buffer into which `n` bytes of the file were read from `start` on. -/
structure ReadBuffer (file : KernelFile) (start : BitVec 64) (buffer : Addr) (n : Nat)
    (u : Firmware) (fresh : Addr → Prop) : Prop where
  live : u.pool buffer = n
  small : n < 2 ^ 64
  fresh_iff : ∀ i, i < n → (fresh (buffer + BitVec.ofNat 64 i) ↔ start.toNat + i < file.size)
  bytes : ∀ i, i < n → start.toNat + i < file.size →
    u.mem (buffer + BitVec.ofNat 64 i) = file.byte (start.toNat + i)

namespace ReadBuffer

variable {file : KernelFile} {start : BitVec 64} {buffer : Addr} {n : Nat} {u v : Firmware}
  {fresh fresh' : Addr → Prop}

theorem range_fresh_iff (read : ReadBuffer file start buffer n u fresh) {i len : Nat}
    (some : 0 < len) (fits : i + len ≤ n) :
    (∀ x, Within x (buffer + BitVec.ofNat 64 i) len → fresh x) ↔
      start.toNat + i + len ≤ file.size := by
  have small := read.small
  constructor
  · intro all
    have last := all _ (within_offset (i := len - 1) (by omega) (by omega))
    rw [offset_add, read.fresh_iff _ (by omega)] at last
    omega
  · intro reaches x inside
    rcases (within_iff_exists (by omega)).mp inside with ⟨j, bound, rfl⟩
    rw [offset_add, read.fresh_iff _ (by omega)]
    omega

theorem load_eq (read : ReadBuffer file start buffer n u fresh) {i len : Nat}
    (fits : i + len ≤ n) (reaches : start.toNat + i + len ≤ file.size) :
    ByteMemory.load u.mem (buffer + BitVec.ofNat 64 i) len =
      ByteMemory.load file.image (start + BitVec.ofNat 64 i) len := by
  have bounded := file.bounded
  apply load_congr
  intro j bound
  rw [offset_add, offset_add, read.bytes _ (by omega) (by omega), KernelFile.image,
    BitVec.toNat_add, BitVec.toNat_ofNat, Nat.mod_eq_of_lt (a := i + j) (by omega),
    Nat.mod_eq_of_lt (by omega)]

theorem pooled (read : ReadBuffer file start buffer n u fresh) {x : Addr}
    (inside : Within x buffer n) : u.Pooled x :=
  ⟨buffer, by rw [read.live]; exact inside⟩

theorem mono (read : ReadBuffer file start buffer n u fresh) (live : v.pool buffer = u.pool buffer)
    (same : ∀ x, Within x buffer n → v.mem x = u.mem x ∧ (fresh' x ↔ fresh x)) :
    ReadBuffer file start buffer n v fresh' := by
  have inside (i : Nat) (bound : i < n) : Within (buffer + BitVec.ofNat 64 i) buffer n :=
    within_offset bound (Nat.le_of_lt read.small)
  refine ⟨live.trans read.live, read.small, ?_, ?_⟩
  · intro i bound
    rw [(same _ (inside i bound)).2, read.fresh_iff i bound]
  · intro i bound reaches
    rw [(same _ (inside i bound)).1, read.bytes i bound reaches]

end ReadBuffer

/-- A `Read` reports what it delivers; one past the end of the file delivers nothing. -/
theorem reported_eq {file : KernelFile} {this buffer : Addr} {size : BitVec 64}
    {reply : EfiStatus × Option (BitVec 64)} {u v : Firmware}
    (step : Uefi file (callEvent (.read this size buffer) reply) u v) :
    reported size reply.1 reply.2 = file.delivered u.position size.toNat := by
  rcases step with ⟨⟨succeeds, count⟩, -⟩
  rw [reported]
  by_cases failed : Failed reply.1
  · have past : file.size < u.position := by
      by_contra inside
      exact succeeds (Nat.le_of_not_lt inside) failed
    rw [if_pos failed, KernelFile.delivered]
    omega
  · rw [if_neg failed]
    exact count failed

/-- What reading a part of the file to a new buffer does. -/
structure BufferRead (file : KernelFile) (start : BitVec 64) (buffer : Addr) (n : Nat)
    (u v : Firmware) (fresh fresh' : Addr → Prop) : Prop where
  free : u.Free buffer n
  unused : u.pool buffer = 0
  aligned : buffer ≠ 0 ∧ buffer.toNat % 8 = 0 ∧ buffer.toNat + n ≤ 2 ^ 64
  pool : v.pool = u.setPool buffer n
  kept : ∀ x, ¬ Within x buffer n → v.mem x = u.mem x ∧ (fresh' x ↔ fresh x)
  read : ReadBuffer file start buffer n v fresh'

theorem bufferEvents_read {file : KernelFile} {b : BufferReplies} {kernelImage : Addr}
    {start n : BitVec 64} {u v : Firmware}
    (follows : Follows (Uefi file) (b.events kernelImage start n) u v) (fresh : Addr → Prop) :
    reads.Holds (b.events kernelImage start n) fresh ∧
      BufferRead file start b.buffer n.toNat u v fresh
        (reads.after (b.events kernelImage start n) fresh) := by
  rcases follows with ⟨_, ⟨-, rfl⟩, _, ⟨-, a, pooled, handed, nonzero, aligned, straight, unused,
    free, keepsPool, rfl⟩, _, reading, rfl⟩
  have report : reported n b.read.1 b.read.2 = file.delivered (file.seek start) n.toNat :=
    reported_eq reading
  rcases reading with ⟨-, filled, bytes, keepsRead, rfl⟩
  have buffer : b.buffer = a := by
    rw [BufferReplies.buffer, handed]
    rfl
  subst buffer
  have small : n.toNat < 2 ^ 64 := n.isLt
  have after (x : Addr) : reads.after (b.events kernelImage start n) fresh x ↔
      Within x b.buffer (file.delivered (file.seek start) n.toNat) ∨
        ((fresh x ∧ ¬ Within x b.buffer n.toNat) ∧ ¬ Within x b.buffer n.toNat) := by
    rw [← report]
    exact Iff.rfl
  refine ⟨⟨trivial, trivial, trivial, trivial⟩, free, unused, ⟨nonzero, aligned, straight⟩, rfl, ?_,
    if_pos rfl, small, ?_, ?_⟩
  · intro x outside
    have undelivered : ¬ Within x b.buffer (file.delivered (file.seek start) n.toNat) :=
      fun inside => outside (inside.mono (Nat.min_le_left ..))
    rw [after]
    refine ⟨(keepsRead x outside).trans (keepsPool x outside), ?_⟩
    simp only [undelivered, outside, false_or, not_false_eq_true, and_true]
  · intro i bound
    have inside : Within (b.buffer + BitVec.ofNat 64 i) b.buffer n.toNat :=
      within_offset bound (Nat.le_of_lt small)
    rw [after, within_offset_iff (by omega), KernelFile.delivered_iff bound]
    simp only [inside, not_true_eq_false, and_false, or_false]
  · intro i bound reaches
    have proper : file.seek start = start.toNat := by
      apply if_neg
      intro last
      have bounded := file.bounded
      rw [last, BitVec.toNat_allOnes] at reaches
      omega
    have byte := bytes i ((KernelFile.delivered_iff bound).mpr reaches)
    rw [← proper]
    exact byte

section Segments

variable {file : KernelFile} {h : Segment} {s : SegmentReplies} {kernelImage : Addr}
  {u v : Firmware} {fresh : Addr → Prop}

/-- The copy of a segment uses the whole read, so the file has to reach its end. -/
theorem fileEvents_reads (target : s.target h = h.physicalAddress)
    (position : u.position = file.seek h.offset) (some : h.fileSize > 0)
    (follows : Follows (Uefi file) (s.fileEvents kernelImage h) u v) (fresh : Addr → Prop) :
    (reads.Holds (s.fileEvents kernelImage h) fresh ↔
        h.offset.toNat + h.fileSize.toNat ≤ file.size) ∧
      (∀ x, ¬ Within x s.buffer h.fileSize.toNat → ¬ h.InFile x →
        (reads.after (s.fileEvents kernelImage h) fresh x ↔ fresh x)) ∧
      ∀ x, reads.after (s.fileEvents kernelImage h) fresh x → ¬ h.InFile x := by
  rcases follows with ⟨_, ⟨-, b, pooled, -, -, -, -, -, -, -, rfl⟩, _, reading, -⟩
  have report : reported h.fileSize s.read.1 s.read.2 =
      file.delivered (file.seek h.offset) h.fileSize.toNat := by
    have counted := reported_eq reading
    rw [← position]
    exact counted
  have size : 0 < h.fileSize.toNat := some
  have small := h.fileSize.isLt
  let filled (x : Addr) : Prop :=
    Within x s.buffer (file.delivered (file.seek h.offset) h.fileSize.toNat) ∨
      ((fresh x ∧ ¬ Within x s.buffer h.fileSize.toNat) ∧ ¬ Within x s.buffer h.fileSize.toNat)
  have after (x : Addr) : reads.after (s.fileEvents kernelImage h) fresh x ↔
      filled x ∧ ¬ Within x (s.target h) h.fileSize.toNat := by
    change (Within x s.buffer (reported h.fileSize s.read.1 s.read.2) ∨ _) ∧ _ ↔ _
    rw [report]
    exact Iff.rfl
  have holds : reads.Holds (s.fileEvents kernelImage h) fresh ↔
      ∀ x, Within x s.buffer h.fileSize.toNat → filled x := by
    change (True ∧ True ∧ (∀ x, Within x s.buffer h.fileSize.toNat →
      Within x s.buffer (reported h.fileSize s.read.1 s.read.2) ∨ _) ∧ True ∧ True) ↔ _
    rw [report]
    simp only [true_and, and_true]
    exact Iff.rfl
  refine ⟨?_, ?_, ?_⟩
  · rw [holds]
    constructor
    · intro all
      have inside : Within (s.buffer + BitVec.ofNat 64 (h.fileSize.toNat - 1)) s.buffer
          h.fileSize.toNat :=
        within_offset (by omega) (Nat.le_of_lt small)
      rcases all _ inside with last | ⟨-, outside⟩
      · rw [within_offset_iff (by omega), KernelFile.delivered_iff (by omega)] at last
        omega
      · exact absurd inside outside
    · intro reaches x inside
      rcases (within_iff_exists (Nat.le_of_lt small)).mp inside with ⟨j, bound, rfl⟩
      left
      rw [within_offset_iff (by omega), KernelFile.delivered_iff bound]
      omega
  · intro x outside outsideFile
    have undelivered : ¬ Within x s.buffer
        (file.delivered (file.seek h.offset) h.fileSize.toNat) :=
      fun inside => outside (inside.mono (Nat.min_le_left ..))
    have apart : ¬ Within x (s.target h) h.fileSize.toNat := by
      rw [target]
      exact outsideFile
    rw [after]
    simp only [filled, undelivered, outside, apart, false_or, not_false_eq_true, and_true]
  · intro x still
    have apart := ((after x).mp still).2
    rw [target] at apart
    exact apart

theorem after_zeroPart (target : s.target h = h.physicalAddress) (x : Addr) :
    reads.after (zeroPart s h) fresh x ↔ fresh x ∧ ¬ h.InZero x := by
  rw [zeroPart]
  by_cases present : h.memorySize - h.fileSize > 0
  · rw [if_pos present]
    change fresh x ∧ ¬ Within x (s.target h + h.fileSize) _ ↔ _
    rw [target]
    exact Iff.rfl
  · rw [if_neg present]
    have size : (h.memorySize - h.fileSize).toNat = 0 := Nat.le_zero.mp (Nat.le_of_not_lt present)
    have empty : ¬ h.InZero x := by
      rw [Segment.InZero, size]
      exact not_within_zero _ _
    exact (and_iff_left empty).symm

theorem holds_zeroPart_reads : reads.Holds (zeroPart s h) fresh := by
  rw [zeroPart]
  split
  · exact ⟨trivial, trivial⟩
  · trivial

/-- One `load_segment` uses no missing byte exactly when the file reaches the end of the
segment. It leaves other bytes as fresh as they were, but a segment with more file bytes
than memory bytes overwrites them all. -/
theorem segment_reads (follows : Follows (Uefi file) (s.events kernelImage h) u v)
    (fresh : Addr → Prop) :
    (reads.Holds (s.events kernelImage h) fresh ↔
        (0 < h.fileSize.toNat → h.offset.toNat + h.fileSize.toNat ≤ file.size)) ∧
      (∀ x, ¬ h.InFile x → ¬ h.InZero x → ¬ Buffered (s.events kernelImage h) x →
        (reads.after (s.events kernelImage h) fresh x ↔ fresh x)) ∧
      (h.memorySize < h.fileSize →
        ∀ x, ¬ reads.after (s.events kernelImage h) fresh x) := by
  rw [events_split] at follows
  rcases follows_append.mp follows with ⟨mid, first, -⟩
  rcases follows_append.mp first with ⟨granted, grant, files⟩
  rcases grantEvents_effect grant with ⟨target, -, -, rfl⟩
  have silent : reads.Holds (s.grantEvents kernelImage h) fresh := ⟨trivial, trivial, trivial⟩
  have unchanged : reads.after (s.grantEvents kernelImage h) fresh = fresh := rfl
  simp only [buffered_events]
  simp only [events_split, Monitor.holds_append, Monitor.after_append, unchanged]
  simp only [silent, holds_zeroPart_reads, after_zeroPart target, true_and, and_true]
  rw [filePart] at files ⊢
  by_cases present : h.fileSize > 0
  · rw [if_pos present] at files ⊢
    rcases fileEvents_effect target files with ⟨-, handed, -⟩
    rcases fileEvents_reads target rfl present files fresh with ⟨holds, kept, gone⟩
    refine ⟨holds.trans ⟨fun reaches _ => reaches, fun reaches => reaches present⟩, ?_, ?_⟩
    · intro x outsideFile outsideZero unbuffered
      rw [buffered_fileEvents handed] at unbuffered
      rw [kept x unbuffered outsideFile]
      exact and_iff_left outsideZero
    · intro reversed x still
      rcases Segment.written_of_reversed reversed x with file | zero
      · exact gone x still.1 file
      · exact still.2 zero
  · rw [if_neg present] at files ⊢
    have size : h.fileSize.toNat = 0 := Nat.le_zero.mp (Nat.le_of_not_lt present)
    refine ⟨?_, ?_, ?_⟩
    · rw [size]
      exact iff_of_true trivial fun some => absurd some (Nat.lt_irrefl 0)
    · intro x _ outsideZero _
      exact and_iff_left outsideZero
    · intro reversed
      have less : h.memorySize.toNat < h.fileSize.toNat := reversed
      rw [size] at less
      exact absurd less (Nat.not_lt_zero _)

end Segments

end Flosp.Boot
