import Flosp.Boot.BumpFirmware
import Flosp.Boot.SegmentTable

/-! A kernel file whose segments fit is loaded as the ELF format says. -/

namespace Flosp.Boot

open Interaction ByteMemory

/-- What the loader may ask of a `PT_LOAD` header. -/
structure Segment.Fits (file : KernelFile) (h : Segment) : Prop where
  ordered : h.fileSize ≤ h.memorySize
  nonempty : 0 < h.memorySize
  aligned : h.physicalAddress.toNat % pageSize = 0
  in_memory : h.physicalAddress.toNat + h.memorySize.toNat ≤ 2 ^ 64
  in_file : h.offset.toNat + h.fileSize.toNat ≤ file.size

def Segment.InMemory (h : Segment) (x : Addr) : Prop :=
  Within x h.physicalAddress h.memorySize.toNat

/-- Memory holds the segment: its bytes of the file, then zeros. -/
def Segment.Holds (file : KernelFile) (h : Segment) (mem : Memory 64) : Prop :=
  (∀ k, k < h.fileSize.toNat →
    mem (h.physicalAddress + BitVec.ofNat 64 k) = file.byte (h.offset.toNat + k)) ∧
  ∀ k, h.fileSize.toNat ≤ k → k < h.memorySize.toNat →
    mem (h.physicalAddress + BitVec.ofNat 64 k) = 0

theorem KernelFile.delivered_all {file : KernelFile} {offset size : BitVec 64}
    (inside : offset.toNat + size.toNat ≤ file.size) (some : 0 < size.toNat) :
    file.seek offset = offset.toNat ∧ file.delivered (file.seek offset) size.toNat = size.toNat := by
  have bounded := file.bounded
  have proper : offset ≠ BitVec.allOnes 64 := by
    intro last
    rw [last, BitVec.toNat_allOnes] at inside
    omega
  have start : file.seek offset = offset.toNat := if_neg proper
  rw [start, KernelFile.delivered]
  exact ⟨rfl, Nat.min_eq_left (by omega)⟩

theorem Segment.Loads.holds {file : KernelFile} {h : Segment} {t : Trace} {u v : Firmware}
    (loads : h.Loads file t u v) (fits : h.Fits file) : h.Holds file v.mem := by
  have ordered : h.fileSize.toNat ≤ h.memorySize.toNat := fits.ordered
  have small := h.memorySize.isLt
  have offset (k : Nat) (bound : k < h.memorySize.toNat) :
      (h.physicalAddress + BitVec.ofNat 64 k - h.physicalAddress).toNat = k := by
    rw [offset_sub, BitVec.toNat_ofNat, Nat.mod_eq_of_lt (by omega)]
  constructor
  · intro k bound
    have inside : h.InFile (h.physicalAddress + BitVec.ofNat 64 k) :=
      within_offset bound (Nat.le_of_lt h.fileSize.isLt)
    have outsideZero : ¬ h.InZero (h.physicalAddress + BitVec.ofNat 64 k) := by
      intro zero
      have above := ((inZero_iff fits.ordered).mp zero).1
      rw [offset k (by omega)] at above
      omega
    have unbuffered := loads.unbuffered (Segment.granted_of_inFile fits.ordered inside)
    rcases KernelFile.delivered_all fits.in_file (by omega) with ⟨start, all⟩
    have byte := loads.copied k (by omega) outsideZero unbuffered
    rw [start] at byte
    exact byte
  · intro k above below
    apply loads.zeroed
    rw [inZero_iff fits.ordered, offset k below]
    exact ⟨above, below⟩

theorem inMemory_of_inFile {h : Segment} {x : Addr} (ordered : h.fileSize ≤ h.memorySize)
    (inside : h.InFile x) : h.InMemory x :=
  inside.mono ordered

theorem inMemory_of_inZero {h : Segment} {x : Addr} (ordered : h.fileSize ≤ h.memorySize)
    (inside : h.InZero x) : h.InMemory x :=
  ((Segment.inZero_iff ordered).mp inside).2

theorem granted_of_inMemory {h : Segment} {x : Addr} (inside : h.InMemory x) : h.Granted x :=
  inside.mono (pageBytes_bounds h.memorySize).1

/-- What the loop leaves behind after the headers from `lo` up to `hi` of the table that
`m` holds. -/
structure TableLoaded (file : KernelFile) (m : Memory 64) (table : Addr) (lo hi : Nat) (t : Trace)
    (u v : Firmware) : Prop where
  content : ∀ j, lo ≤ j → j < hi → Loadable m table j → (segmentAt m table j).Holds file v.mem
  pages : ∀ x, v.pages x ↔ u.pages x ∨
    ∃ j, lo ≤ j ∧ j < hi ∧ Loadable m table j ∧ (segmentAt m table j).Granted x
  pool : v.pool = u.pool
  kept : ∀ x, (∀ j, lo ≤ j → j < hi → Loadable m table j → ¬ (segmentAt m table j).InMemory x) →
    ¬ Buffered t x → v.mem x = u.mem x
  safe : ∀ x, u.pages x ∨ u.Pooled x → v.mem x = u.mem x

namespace TableLoaded

variable {file : KernelFile} {m : Memory 64} {table : Addr} {lo hi : Nat} {u v : Firmware}

theorem nil (u : Firmware) : TableLoaded file m table hi hi [] u u where
  content := fun j above below => absurd below (Nat.not_lt.mpr above)
  pages := by
    intro x
    constructor
    · exact Or.inl
    · intro either
      rcases either with page | ⟨j, above, below, -⟩
      · exact page
      · exact absurd below (Nat.not_lt.mpr above)
  pool := rfl
  kept := fun _ _ _ => rfl
  safe := fun _ _ => rfl

theorem skip {t : Trace} {e : BootEvent} (other : ¬ Loadable m table lo)
    (silent : ∀ x, Buffered t x → Buffered (e :: t) x)
    (rest : TableLoaded file m table (lo + 1) hi t u v) :
    TableLoaded file m table lo hi (e :: t) u v := by
  have later (j : Nat) (above : lo ≤ j) (loadable : Loadable m table j) : lo + 1 ≤ j := by
    rcases Nat.eq_or_lt_of_le above with same | more
    · exact absurd (same ▸ loadable) other
    · exact more
  refine ⟨?_, ?_, rest.pool, ?_, rest.safe⟩
  · intro j above below loadable
    exact rest.content j (later j above loadable) below loadable
  · intro x
    rw [rest.pages]
    constructor
    · intro either
      rcases either with page | ⟨j, above, below, loadable, granted⟩
      · exact Or.inl page
      · exact Or.inr ⟨j, by omega, below, loadable, granted⟩
    · intro either
      rcases either with page | ⟨j, above, below, loadable, granted⟩
      · exact Or.inl page
      · exact Or.inr ⟨j, later j above loadable, below, loadable, granted⟩
  · intro x outside unbuffered
    apply rest.kept x
    · intro j above below loadable
      exact outside j (by omega) below loadable
    · intro byte
      exact unbuffered (silent x byte)

theorem cons {t t' whole : Trace} {mid : Firmware} (inside : lo < hi) (loadable : Loadable m table lo)
    (fits : (segmentAt m table lo).Fits file) (loads : (segmentAt m table lo).Loads file t u mid)
    (rest : TableLoaded file m table (lo + 1) hi t' mid v)
    (covers : ∀ x, Buffered t x ∨ Buffered t' x → Buffered whole x) :
    TableLoaded file m table lo hi whole u v := by
  have paged (x : Addr) (memory : (segmentAt m table lo).InMemory x) : mid.pages x := by
    rw [loads.pages]
    exact Or.inr (granted_of_inMemory memory)
  refine ⟨?_, ?_, rest.pool.trans loads.pool, ?_, ?_⟩
  · intro j above below loadable'
    rcases Nat.eq_or_lt_of_le above with rfl | more
    · have held := loads.holds fits
      have size := (segmentAt m table lo).memorySize.isLt
      have keep (k : Nat) (bound : k < (segmentAt m table lo).memorySize.toNat) :
          v.mem ((segmentAt m table lo).physicalAddress + BitVec.ofNat 64 k) =
            mid.mem ((segmentAt m table lo).physicalAddress + BitVec.ofNat 64 k) :=
        rest.safe _ (Or.inl (paged _ (within_offset bound (Nat.le_of_lt size))))
      have ordered : (segmentAt m table lo).fileSize.toNat ≤
          (segmentAt m table lo).memorySize.toNat := fits.ordered
      constructor
      · intro k bound
        rw [keep k (by omega)]
        exact held.1 k bound
      · intro k above' below'
        rw [keep k below']
        exact held.2 k above' below'
    · exact rest.content j more below loadable'
  · intro x
    rw [rest.pages, loads.pages]
    constructor
    · intro either
      rcases either with (page | granted) | ⟨j, above, below, loadable', granted⟩
      · exact Or.inl page
      · exact Or.inr ⟨lo, Nat.le_refl lo, inside, loadable, granted⟩
      · exact Or.inr ⟨j, by omega, below, loadable', granted⟩
    · intro either
      rcases either with page | ⟨j, above, below, loadable', granted⟩
      · exact Or.inl (Or.inl page)
      · rcases Nat.eq_or_lt_of_le above with rfl | more
        · exact Or.inl (Or.inr granted)
        · exact Or.inr ⟨j, more, below, loadable', granted⟩
  · intro x outside unbuffered
    have first : mid.mem x = u.mem x := by
      have apart := outside lo (Nat.le_refl lo) inside loadable
      apply loads.kept x
      · exact fun file => apart (inMemory_of_inFile fits.ordered file)
      · exact fun zero => apart (inMemory_of_inZero fits.ordered zero)
      · exact fun byte => unbuffered (covers x (Or.inl byte))
    rw [← first]
    apply rest.kept x
    · intro j above below loadable'
      exact outside j (by omega) below loadable'
    · exact fun byte => unbuffered (covers x (Or.inr byte))
  · intro x allocated
    have still : mid.pages x ∨ mid.Pooled x := by
      rw [loads.pages, Firmware.Pooled, loads.pool]
      rcases allocated with page | pooled
      · exact Or.inl (Or.inl page)
      · exact Or.inr pooled
    rw [rest.safe x still, loads.safe fits.ordered allocated]

end TableLoaded

section Loop

variable {file : KernelFile} {m : Memory 64} {kernelImage table : Addr} {count : Nat}

theorem buffered_cons_of {e : BootEvent} {t : Trace} {x : Addr} (byte : Buffered t x) :
    Buffered (e :: t) x := by
  rcases byte with ⟨type, size, status, b, member, inside⟩
  exact ⟨type, size, status, b, List.mem_cons_of_mem e member, inside⟩

/-- The loop over the headers from `i` on, by induction on the headers left. -/
theorem segments_loaded (few : Elf64Phdr.size * count ≤ 2 ^ 64)
    (fits : ∀ j, j < count → Loadable m table j → (segmentAt m table j).Fits file)
    {turns i : Nat} {status : EfiStatus} {loaded : BitVec 16} {t : Trace}
    {r : Except Halt EfiStatus} {u v : Firmware}
    (does : Does (loadProgramSegmentsFrom kernelImage table turns i status loaded) t r)
    (follows : Follows (Uefi file) t u v) (live : TableLive m table count u)
    (span : i + turns = count) (room : loaded.toNat + turns < 2 ^ 16)
    (started : loaded ≠ 0 → ¬ Failed status) :
    TableLoaded file m table i count t u v ∧
      ((loaded ≠ 0 ∨ ∃ j, i ≤ j ∧ j < count ∧ Loadable m table j) →
        ∃ final, r = .ok final ∧ ¬ Failed final) := by
  induction turns generalizing i status loaded t u with
  | zero =>
      rcases does_segments_end does with ⟨rfl, rfl⟩
      have stays : v = u := follows
      rw [Nat.add_zero] at span
      rw [stays, span]
      refine ⟨TableLoaded.nil u, ?_⟩
      intro some
      have nonzero : loaded ≠ 0 := by
        rcases some with nonzero | ⟨j, above, below, -⟩
        · exact nonzero
        · exact absurd below (Nat.not_lt.mpr above)
      exact ⟨status, by rw [if_neg nonzero], started nonzero⟩
  | succ turns ih =>
      have inside : i < count := by omega
      rcases turn_follows does follows with ⟨rest, ⟨other, rfl, next, after⟩ |
        ⟨loadable, s, mid, rfl, segment, next, after⟩⟩
      · rw [live.loadable_iff inside few] at other
        rcases ih next after live (by omega) (by omega) started with ⟨tail, succeeds⟩
        refine ⟨tail.skip other fun x => buffered_cons_of, ?_⟩
        intro some
        apply succeeds
        rcases some with nonzero | ⟨j, above, below, loadable⟩
        · exact Or.inl nonzero
        · rcases Nat.eq_or_lt_of_le above with same | more
          · exact absurd (same ▸ loadable) other
          · exact Or.inr ⟨j, more, below, loadable⟩
      · rw [live.loadable_iff inside few] at loadable
        rw [live.segment_eq inside few] at segment next
        rcases segment_loads segment with ⟨succeeded, -, loads⟩
        have fit := fits i inside loadable
        have counted : (loaded + 1).toNat = loaded.toNat + 1 :=
          BitVec.toNat_add_of_lt (by change loaded.toNat + 1 < 2 ^ 16; omega)
        have nonzero : loaded + 1 ≠ 0 := by
          intro zero
          rw [zero] at counted
          exact absurd counted.symm (Nat.succ_ne_zero _)
        rcases ih next after (live.after loads fit.ordered) (by omega) (by omega)
          (fun _ => succeeded) with ⟨tail, succeeds⟩
        refine ⟨tail.cons inside loadable fit loads ?_, fun _ => succeeds (Or.inl nonzero)⟩
        intro x byte
        rw [live.segment_eq inside few]
        apply buffered_cons_of
        rw [buffered_append, buffered_append]
        rcases byte with first | later
        · exact Or.inl (Or.inr first)
        · exact Or.inr later

end Loop

/-- `e_phnum` of the header at `kernelHeader` -/
def headerCount (m : Memory 64) (kernelHeader : Addr) : Nat :=
  (show BitVec 16 from Elf64Ehdr.ePhnum.read m kernelHeader).toNat

theorem headers_few (m : Memory 64) (kernelHeader : Addr) :
    headerCount m kernelHeader < 2 ^ 16 ∧ Elf64Phdr.size * headerCount m kernelHeader ≤ 2 ^ 64 := by
  have bound : headerCount m kernelHeader < 2 ^ 16 := BitVec.isLt _
  have size : Elf64Phdr.size = 56 := rfl
  rw [size]
  omega

/-- What `load_program_segments` finds: the program headers in a live buffer, one of them
`PT_LOAD`, and all of those well formed. Headers are 56 bytes apart for any `e_phentsize`. -/
structure ImageReady (file : KernelFile) (kernelHeader table : Addr) (s : Firmware) : Prop where
  buffer : s.pool table = Elf64Phdr.size * headerCount s.mem kernelHeader
  loadable : ∃ i < headerCount s.mem kernelHeader, Loadable s.mem table i
  fits : ∀ i < headerCount s.mem kernelHeader, Loadable s.mem table i →
    (segmentAt s.mem table i).Fits file

theorem buffered_filter {t : Trace} {x : Addr} :
    Buffered (t.filter effective) x ↔ Buffered t x := by
  constructor
  · intro byte
    rcases byte with ⟨type, size, status, b, member, inside⟩
    exact ⟨type, size, status, b, (List.mem_filter.mp member).1, inside⟩
  · intro byte
    rcases byte with ⟨type, size, status, b, member, inside⟩
    exact ⟨type, size, status, b, List.mem_filter.mpr ⟨member, rfl⟩, inside⟩

/-- `load_program_segments` succeeds and leaves every `PT_LOAD` segment in memory at once;
outside these and the temporary buffers no byte changes, and no other page is allocated. -/
theorem loadProgramSegments_correct {file : KernelFile} {kernelImage kernelHeader table : Addr}
    {t : Trace} {r : Except Halt EfiStatus} {s s' : Firmware}
    (runs : Runs (loadProgramSegments kernelImage kernelHeader table) t r)
    (follows : Follows (Uefi file) t s s') (ready : ImageReady file kernelHeader table s) :
    (∃ status, r = .ok status ∧ ¬ Failed status) ∧
      (∀ i < headerCount s.mem kernelHeader, Loadable s.mem table i →
        (segmentAt s.mem table i).Holds file s'.mem) ∧
      (∀ x, (∀ i < headerCount s.mem kernelHeader, Loadable s.mem table i →
        ¬ (segmentAt s.mem table i).InMemory x) → ¬ Buffered t x → s'.mem x = s.mem x) ∧
      (∀ x, s'.pages x ↔ s.pages x ∨ ∃ i < headerCount s.mem kernelHeader,
        Loadable s.mem table i ∧ (segmentAt s.mem table i).Granted x) ∧
      s'.pool = s.pool := by
  rcases does_of_runs runs follows with ⟨does, moves⟩
  rcases does_loadProgramSegments does with ⟨phnum, rest, split, branch⟩
  rw [split] at moves
  rcases moves with ⟨_, ⟨value, stays⟩, later⟩
  rw [stays] at later
  have count : phnum.toNat = headerCount s.mem kernelHeader := congrArg BitVec.toNat value
  rcases ready.loadable with ⟨first, inside, loadable⟩
  rcases branch with ⟨none, -⟩ | ⟨-, loop⟩
  · rw [none] at count
    rw [← count] at inside
    exact absurd inside (Nat.not_lt_zero first)
  rw [count] at loop
  have room := headers_few s.mem kernelHeader
  have live : TableLive s.mem table (headerCount s.mem kernelHeader) s :=
    ⟨ready.buffer, fun _ _ => rfl⟩
  rcases segments_loaded room.2 ready.fits loop later live (Nat.zero_add _)
    (by change 0 + _ < 2 ^ 16; omega) (fun nonzero => absurd rfl nonzero) with ⟨table', succeeds⟩
  refine ⟨succeeds (Or.inr ⟨first, Nat.zero_le _, inside, loadable⟩), ?_, ?_, ?_, table'.pool⟩
  · intro i below loadable'
    exact table'.content i (Nat.zero_le i) below loadable'
  · intro x outside unbuffered
    apply table'.kept x
    · intro j _ below loadable'
      exact outside j below loadable'
    · intro byte
      apply unbuffered
      rw [← buffered_filter, split]
      exact buffered_cons_of byte
  · intro x
    rw [table'.pages]
    constructor
    · intro either
      rcases either with page | ⟨j, -, below, loadable', granted⟩
      · exact Or.inl page
      · exact Or.inr ⟨j, below, loadable', granted⟩
    · intro either
      rcases either with page | ⟨j, below, loadable', granted⟩
      · exact Or.inl page
      · exact Or.inr ⟨j, Nat.zero_le j, below, loadable', granted⟩

/-! A table of two headers, of which the second is `PT_LOAD`. -/

def twoHeaderFile : KernelFile where
  size := 8
  byte := fun i => BitVec.ofNat 8 (i + 1)
  bounded := by decide

/-- `e_phnum` 2 at `0x100000000`, a `PT_NOTE` header and the `PT_LOAD` header of four file
bytes and ten memory bytes at `0x200000`. -/
def twoHeaderMemory : Memory 64 :=
  overlay (overlay (overlay (fun _ => 0) 0x100000038 [2]) 0x100000040 [4]) 0x100000078
    [1, 0, 0, 0, 0, 0, 0, 0, 2, 0, 0, 0, 0, 0, 0, 0, 0, 0, 0, 0, 0, 0, 0, 0,
      0, 0, 0x20, 0, 0, 0, 0, 0, 4, 0, 0, 0, 0, 0, 0, 0, 10]

def twoHeaders : BumpFirmware where
  firmware :=
    { mem := twoHeaderMemory, position := 0, pages := fun _ => False
      pool := fun a => if a = 0x100000000 then 64 else if a = 0x100000040 then 112 else 0 }
  nextBuffer := 0x1000000B0
  nextPage := 0

theorem twoHeaders_valid : twoHeaders.Valid where
  aligned := by decide
  above := by decide
  below := by decide
  pool := by
    intro a live
    change (if a = 0x100000000 then 64 else if a = 0x100000040 then 112 else 0) ≠ 0 at live
    change _ ∧ a.toNat + (if a = 0x100000000 then 64 else if a = 0x100000040 then 112 else 0) ≤ _
    by_cases header : a = 0x100000000
    · subst header
      decide
    by_cases table : a = 0x100000040
    · subst table
      decide
    · rw [if_neg header, if_neg table] at live
      exact absurd rfl live
  pages := fun _ page => page.elim
  low := by decide

theorem twoHeaders_ready :
    ImageReady twoHeaderFile 0x100000000 0x100000040 twoHeaders.firmware where
  buffer := by decide +kernel
  loadable := ⟨1, by decide +kernel, by decide +kernel⟩
  fits := by
    intro i inside loadable
    have count : headerCount twoHeaders.firmware.mem 0x100000000 = 2 := by decide +kernel
    rw [count] at inside
    have second : i = 1 := by
      rcases Nat.lt_or_ge i 1 with below | above
      · have first : i = 0 := by omega
        subst first
        revert loadable
        decide +kernel
      · omega
    subst second
    exact ⟨by decide +kernel, by decide +kernel, by decide +kernel, by decide +kernel,
      by decide +kernel⟩

def twoHeadersRun : Trace × Except Halt EfiStatus × BumpFirmware :=
  exec (BumpFirmware.handle twoHeaderFile)
    (loadProgramSegments 0x100 0x100000000 0x100000040) twoHeaders

theorem twoHeaders_loaded :
    (∃ status, twoHeadersRun.2.1 = .ok status ∧ ¬ Failed status) ∧
      (segmentAt twoHeaderMemory 0x100000040 1).Holds twoHeaderFile
        twoHeadersRun.2.2.firmware.mem := by
  have allowed : allowed (BumpFirmware.handle twoHeaderFile) BumpFirmware.allow
      (loadProgramSegments 0x100 0x100000000 0x100000040) twoHeaders := by decide +kernel
  have correct := loadProgramSegments_correct (exec_runs _ _ twoHeaders)
    (BumpFirmware.follows twoHeaders_valid allowed) twoHeaders_ready
  exact ⟨correct.1, correct.2.1 1 (by decide +kernel) (by decide +kernel)⟩

end Flosp.Boot
