import Flosp.Boot.Segment

/-! The loop over the program header table, on a firmware on which every call succeeds. -/

namespace Flosp.Boot

open Interaction ByteMemory

/-- `ProgramHeaders[i].p_type` -/
def headerType (m : Memory 64) (table : Addr) (i : Nat) : BitVec 32 :=
  Elf64Phdr.pType.read m (programHeader table i)

def segmentAt (m : Memory 64) (table : Addr) (i : Nat) : Segment where
  offset := Elf64Phdr.pOffset.read m (programHeader table i)
  fileSize := Elf64Phdr.pFilesz.read m (programHeader table i)
  memorySize := Elf64Phdr.pMemsz.read m (programHeader table i)
  physicalAddress := Elf64Phdr.pPaddr.read m (programHeader table i)

def Loadable (m : Memory 64) (table : Addr) (i : Nat) : Prop := headerType m table i = ptLoad

instance (m : Memory 64) (table : Addr) (i : Nat) : Decidable (Loadable m table i) :=
  inferInstanceAs (Decidable (_ = _))

def InTable (table : Addr) (count : Nat) (x : Addr) : Prop :=
  Within x table (Elf64Phdr.size * count)

theorem field_inTable {table : Addr} {count i : Nat} (inside : i < count)
    (few : Elf64Phdr.size * count ≤ 2 ^ 64) {field : Field}
    (fits : field.offset + field.size ≤ Elf64Phdr.size) {j : Nat} (bound : j < field.size) :
    InTable table count (programHeader table i + BitVec.ofNat 64 field.offset +
      BitVec.ofNat 64 j) := by
  have next : Elf64Phdr.size * i + Elf64Phdr.size ≤ Elf64Phdr.size * count := by
    rw [← Nat.mul_succ]
    exact Nat.mul_le_mul_left _ inside
  rw [programHeader, offset_add, offset_add]
  exact within_offset (by omega) few

theorem field_read_congr {m m' : Memory 64} {table : Addr} {count i : Nat}
    (same : ∀ x, InTable table count x → m' x = m x) (inside : i < count)
    (few : Elf64Phdr.size * count ≤ 2 ^ 64) (field : Field)
    (fits : field.offset + field.size ≤ Elf64Phdr.size) :
    field.read m' (programHeader table i) = field.read m (programHeader table i) :=
  load_congr fun _ bound => same _ (field_inTable inside few fits bound)

theorem headerType_congr {m m' : Memory 64} {table : Addr} {count i : Nat}
    (same : ∀ x, InTable table count x → m' x = m x) (inside : i < count)
    (few : Elf64Phdr.size * count ≤ 2 ^ 64) : headerType m' table i = headerType m table i :=
  field_read_congr same inside few Elf64Phdr.pType (by decide)

theorem segmentAt_congr {m m' : Memory 64} {table : Addr} {count i : Nat}
    (same : ∀ x, InTable table count x → m' x = m x) (inside : i < count)
    (few : Elf64Phdr.size * count ≤ 2 ^ 64) : segmentAt m' table i = segmentAt m table i := by
  have field (f : Field) (fits : f.offset + f.size ≤ Elf64Phdr.size) :=
    field_read_congr same inside few f fits
  have offset := field Elf64Phdr.pOffset (by decide)
  have fileSize := field Elf64Phdr.pFilesz (by decide)
  have memorySize := field Elf64Phdr.pMemsz (by decide)
  have address := field Elf64Phdr.pPaddr (by decide)
  simp only [segmentAt, offset, fileSize, memorySize, address]

section Turns

variable {file : KernelFile} {kernelImage table : Addr} {i : Nat} {u v : Firmware}

theorem segment_read {h : Segment} (follows : Follows (Uefi file)
    (h.events (programHeader table i)) u v) : h = segmentAt u.mem table i ∧ v = u := by
  rcases follows with ⟨_, ⟨offset, rfl⟩, _, ⟨fileSize, rfl⟩, _, ⟨memorySize, rfl⟩, _,
    ⟨address, rfl⟩, rfl⟩
  refine ⟨?_, rfl⟩
  cases h
  cases offset
  cases fileSize
  cases memorySize
  cases address
  rfl

theorem turn_follows {turns : Nat} {status : EfiStatus} {loaded : BitVec 16} {t : Trace}
    {r : Except Halt EfiStatus}
    (does : Does (loadProgramSegmentsFrom kernelImage table (turns + 1) i status loaded) t r)
    (follows : Follows (Uefi file) t u v) :
    ∃ rest : Trace,
      (¬ Loadable u.mem table i ∧
        t = memberEvent (programHeader table i) Elf64Phdr.pType (headerType u.mem table i) ::
          rest ∧
        Does (loadProgramSegmentsFrom kernelImage table turns (i + 1) status loaded) rest r ∧
        Follows (Uefi file) rest u v) ∨
      (Loadable u.mem table i ∧ ∃ (s : SegmentReplies) (mid : Firmware),
        t = memberEvent (programHeader table i) Elf64Phdr.pType (headerType u.mem table i) ::
          ((segmentAt u.mem table i).events (programHeader table i) ++
            s.events kernelImage (segmentAt u.mem table i) ++ rest) ∧
        Follows (Uefi file) (s.events kernelImage (segmentAt u.mem table i)) u mid ∧
        Does (loadProgramSegmentsFrom kernelImage table turns (i + 1)
          (s.status (segmentAt u.mem table i)) (loaded + 1)) rest r ∧
        Follows (Uefi file) rest mid v) := by
  rcases does_segments_turn does with ⟨pType, later, rfl, branch⟩
  rcases follows with ⟨_, ⟨value, stays⟩, after⟩
  have type : pType = headerType u.mem table i := value
  rw [stays] at after
  subst type
  rcases branch with ⟨other, next⟩ | ⟨loadable, h, s, rest, rfl, next⟩
  · exact ⟨later, Or.inl ⟨other, rfl, next, after⟩⟩
  · rcases follows_append.mp after with ⟨mid, first, last⟩
    rcases follows_append.mp first with ⟨read, header, segment⟩
    rcases segment_read header with ⟨rfl, stays⟩
    rw [stays] at segment
    exact ⟨rest, Or.inr ⟨loadable, s, mid, rfl, segment, next, last⟩⟩

end Turns

structure TableLive (m : Memory 64) (table : Addr) (count : Nat) (u : Firmware) : Prop where
  live : u.pool table = Elf64Phdr.size * count
  same : ∀ x, InTable table count x → u.mem x = m x

namespace TableLive

variable {file : KernelFile} {m : Memory 64} {table : Addr} {count i : Nat} {u v : Firmware}

theorem pooled (live : TableLive m table count u) {x : Addr} (inside : InTable table count x) :
    u.Pooled x :=
  ⟨table, by rw [live.live]; exact inside⟩

theorem type_eq (live : TableLive m table count u) (inside : i < count)
    (few : Elf64Phdr.size * count ≤ 2 ^ 64) : headerType u.mem table i = headerType m table i :=
  headerType_congr live.same inside few

theorem segment_eq (live : TableLive m table count u) (inside : i < count)
    (few : Elf64Phdr.size * count ≤ 2 ^ 64) : segmentAt u.mem table i = segmentAt m table i :=
  segmentAt_congr live.same inside few

theorem loadable_iff (live : TableLive m table count u) (inside : i < count)
    (few : Elf64Phdr.size * count ≤ 2 ^ 64) : Loadable u.mem table i ↔ Loadable m table i := by
  rw [Loadable, Loadable, live.type_eq inside few]

theorem after {h : Segment} {t : Trace} (live : TableLive m table count u)
    (loads : h.Loads file t u v) (ordered : h.fileSize ≤ h.memorySize) :
    TableLive m table count v where
  live := loads.pool ▸ live.live
  same := by
    intro x inside
    rw [loads.safe ordered (Or.inr (live.pooled inside)), live.same x inside]

end TableLive

end Flosp.Boot
