import Flosp.Lib.AccessLog

/-! The kernel's memory and its `memcpy` (`drivers/mem.c`). -/

namespace Flosp.Kernel

open ByteMemory

abbrev Addr := BitVec 64

/-- Which part of the kernel makes an access. -/
inductive Origin where
  /-- pixels of the back buffer -/
  | draw
  /-- `flush_framebuffer` -/
  | flush
  | pageTable
  /-- a table pointer of the XSDT -/
  | xsdt
  | acpi
  deriving DecidableEq, Repr

abbrev KernelMachine := Machine 64 Origin

/-- `dest[i] = source[i]` for elements of `size` bytes, `turns` of them from `i` on. -/
def copyElements (tag : Origin) (size : Nat) (source dest : Addr) :
    Nat → Nat → KernelMachine → KernelMachine
  | 0, _, m => m
  | turns + 1, i, m =>
      let (element, m) := m.load tag (source + BitVec.ofNat 64 (size * i)) size
      copyElements tag size source dest turns (i + 1)
        (m.store tag (dest + BitVec.ofNat 64 (size * i)) element)

/-- `sizeof(word)` -/
def wordSize : Nat := 4

def memcpy (tag : Origin) (sourcep destp : Addr) (nbytes : BitVec 32) (m : KernelMachine) :
    Addr × KernelMachine :=
  if destp.toNat % wordSize = 0 ∧ sourcep.toNat % wordSize = 0 ∧ nbytes.toNat % wordSize = 0 then
    (destp, copyElements tag wordSize sourcep destp (nbytes.toNat / wordSize) 0 m)
  else
    (destp, copyElements tag 1 sourcep destp nbytes.toNat 0 m)

section Elements

variable {tag : Origin} {size : Nat} {source dest : Addr} {m : KernelMachine}

theorem copyElements_extends (turns i : Nat) :
    Extends m (copyElements tag size source dest turns i m) := by
  induction turns generalizing i m with
  | zero => exact Extends.refl m
  | succ turns ih => exact ((Extends.load m ..).trans (Extends.store ..)).trans (ih (i + 1))

theorem copyElements_allNew {P : Access 64 Origin → Prop} (turns i : Nat) :
    AllNew P m (copyElements tag size source dest turns i m) ↔
      ∀ j, i ≤ j → j < i + turns →
        P ⟨tag, .load, source + BitVec.ofNat 64 (size * j), size⟩ ∧
        P ⟨tag, .store, dest + BitVec.ofNat 64 (size * j), size⟩ := by
  induction turns generalizing i m with
  | zero =>
      apply iff_of_true (AllNew.refl P m)
      intro j above below
      omega
  | succ turns ih =>
      have loaded := Extends.load m tag (source + BitVec.ofNat 64 (size * i)) size
      have stored := Extends.store (m.load tag (source + BitVec.ofNat 64 (size * i)) size).2 tag
        (dest + BitVec.ofNat 64 (size * i))
        (m.load tag (source + BitVec.ofNat 64 (size * i)) size).1
      rw [copyElements, AllNew.trans_iff (loaded.trans stored) (copyElements_extends turns (i + 1)),
        AllNew.trans_iff loaded stored, AllNew.step_iff rfl, AllNew.step_iff rfl, ih]
      constructor
      · intro both j above below
        rcases Nat.eq_or_lt_of_le above with rfl | more
        · exact both.1
        · exact both.2 j more (by omega)
      · intro all
        exact ⟨all i (Nat.le_refl i) (by omega), fun j above below => all j (by omega) (by omega)⟩

theorem copyElements_mem (turns i : Nat) (small : size * turns ≤ 2 ^ 64)
    (forward : Forward dest source (size * turns)) :
    (copyElements tag size source dest turns i m).mem =
      copy m.mem (dest + BitVec.ofNat 64 (size * i)) (source + BitVec.ofNat 64 (size * i))
        (size * turns) := by
  induction turns generalizing i m with
  | zero => exact (copy_zero m.mem _ _).symm
  | succ turns ih =>
      have whole : size * (turns + 1) = size + size * turns := by
        rw [Nat.mul_succ, Nat.add_comm]
      have next (s : Addr) : s + BitVec.ofNat 64 (size * (i + 1)) =
          s + BitVec.ofNat 64 (size * i) + BitVec.ofNat 64 size := by
        rw [offset_add, Nat.mul_succ]
      have shifted : Forward (dest + BitVec.ofNat 64 (size * i))
          (source + BitVec.ofNat 64 (size * i)) (size + size * turns) := by
        rw [whole] at forward
        exact forward.shift _
      rw [whole] at small
      rw [copyElements, ih (i + 1) (by omega) (forward.mono (by omega)), next, next, whole,
        ← copy_copy small shifted]
      simp only [Machine.store_mem, Machine.load_mem, Machine.load_fst, store_load_eq_copy]

end Elements

section Memcpy

variable {tag : Origin} {sourcep destp : Addr} {nbytes : BitVec 32} {m : KernelMachine}

theorem memcpy_fst : (memcpy tag sourcep destp nbytes m).1 = destp := by
  rw [memcpy]
  split
  · rfl
  · rfl

theorem memcpy_extends : Extends m (memcpy tag sourcep destp nbytes m).2 := by
  rw [memcpy]
  split
  · exact copyElements_extends _ 0
  · exact copyElements_extends _ 0

/-- `memcpy` copies, by words or by bytes, unless it would overwrite what it has yet to read. -/
theorem memcpy_mem (forward : Forward destp sourcep nbytes.toNat) :
    (memcpy tag sourcep destp nbytes m).2.mem = copy m.mem destp sourcep nbytes.toNat := by
  have bound := nbytes.isLt
  rw [memcpy]
  by_cases aligned : destp.toNat % wordSize = 0 ∧ sourcep.toNat % wordSize = 0 ∧
      nbytes.toNat % wordSize = 0
  · have words : wordSize * (nbytes.toNat / wordSize) = nbytes.toNat :=
      Nat.mul_div_cancel' (Nat.dvd_of_mod_eq_zero aligned.2.2)
    rw [if_pos aligned]
    refine (copyElements_mem _ 0 (by omega) (words.symm ▸ forward)).trans ?_
    rw [words, Nat.mul_zero, BitVec.add_zero, BitVec.add_zero]
  · rw [if_neg aligned]
    refine (copyElements_mem _ 0 (by omega) ((Nat.one_mul _).symm ▸ forward)).trans ?_
    rw [Nat.one_mul, Nat.one_mul, BitVec.add_zero, BitVec.add_zero]

/-- `memcpy` copies and changes nothing else, unless the destination starts inside the source. -/
theorem memcpy_copies (source : sourcep.toNat + nbytes.toNat ≤ 2 ^ 64)
    (order : Apart destp nbytes.toNat sourcep nbytes.toNat ∨ destp ≤ sourcep) :
    (∀ i, i < nbytes.toNat → (memcpy tag sourcep destp nbytes m).2.mem (destp + BitVec.ofNat 64 i) =
        m.mem (sourcep + BitVec.ofNat 64 i)) ∧
      (∀ x, ¬ Within x destp nbytes.toNat →
        (memcpy tag sourcep destp nbytes m).2.mem x = m.mem x) ∧
      (memcpy tag sourcep destp nbytes m).1 = destp := by
  have bound := nbytes.isLt
  have forward : Forward destp sourcep nbytes.toNat := by
    rcases order with apart | below
    · exact Forward.of_apart apart
    · have distance : destp + BitVec.ofNat 64 (sourcep.toNat - destp.toNat) = sourcep := by
        have order := BitVec.le_def.mp below
        apply BitVec.eq_of_toNat_eq
        rw [BitVec.toNat_add, BitVec.toNat_ofNat]
        omega
      rw [← distance]
      exact Forward.of_below destp (by omega)
  refine ⟨?_, ?_, memcpy_fst⟩
  · intro i inside
    rw [memcpy_mem forward, copy_offset m.mem destp sourcep inside (by omega)]
  · intro x outside
    rw [memcpy_mem forward, copy_outside outside]

/-- By bytes, down over the start of the source. -/
theorem memcpy_copies_down :
    (∀ i, i < (12 : BitVec 32).toNat → (memcpy .draw 0x1004 0x1001 12 ⟨fun a => a.setWidth 8, []⟩).2.mem
        (0x1001 + BitVec.ofNat 64 i) = (0x1004 + BitVec.ofNat 64 i : Addr).setWidth 8) ∧
      (∀ x, ¬ Within x 0x1001 (12 : BitVec 32).toNat →
        (memcpy .draw 0x1004 0x1001 12 ⟨fun a => a.setWidth 8, []⟩).2.mem x = x.setWidth 8) ∧
      (memcpy .draw 0x1004 0x1001 12 ⟨fun a => a.setWidth 8, []⟩).1 = 0x1001 :=
  memcpy_copies (by decide) (Or.inr (by decide))

/-- An access of `tag` that reads only bytes at `source` and writes only bytes at `dest`. -/
def Confined (tag : Origin) (source : Addr) (readable : Nat) (dest : Addr) (writable : Nat)
    (e : Access 64 Origin) : Prop :=
  e.tag = tag ∧ ∀ x, Within x e.addr e.len →
    match e.kind with
    | .load => Within x source readable
    | .store => Within x dest writable

theorem copyElements_confined_iff {size turns readable writable : Nat} (some : 0 < size)
    (small : size * turns ≤ 2 ^ 64) :
    AllNew (Confined tag sourcep readable destp writable) m
        (copyElements tag size sourcep destp turns 0 m) ↔
      size * turns ≤ readable ∧ size * turns ≤ writable := by
  rw [copyElements_allNew, ← elements_within_iff (s := sourcep) some small,
    ← elements_within_iff (s := destp) some small, ← forall₂_and]
  apply forall_congr'
  intro j
  rw [Nat.zero_add]
  constructor
  · intro both below
    exact ⟨(both (Nat.zero_le j) below).1.2, (both (Nat.zero_le j) below).2.2⟩
  · intro both _ below
    exact ⟨⟨rfl, (both below).1⟩, rfl, (both below).2⟩

theorem memcpy_confined_iff {readable writable : Nat} :
    AllNew (Confined tag sourcep readable destp writable) m (memcpy tag sourcep destp nbytes m).2 ↔
      nbytes.toNat ≤ readable ∧ nbytes.toNat ≤ writable := by
  have bound := nbytes.isLt
  rw [memcpy]
  by_cases aligned : destp.toNat % wordSize = 0 ∧ sourcep.toNat % wordSize = 0 ∧
      nbytes.toNat % wordSize = 0
  · have words : wordSize * (nbytes.toNat / wordSize) = nbytes.toNat :=
      Nat.mul_div_cancel' (Nat.dvd_of_mod_eq_zero aligned.2.2)
    rw [if_pos aligned, copyElements_confined_iff (by decide) (by omega), words]
  · rw [if_neg aligned, copyElements_confined_iff (by decide) (by omega), Nat.one_mul]

end Memcpy

section Granularity

variable {tag : Origin} {sourcep destp : Addr} {nbytes : BitVec 32} {m m' : KernelMachine}

theorem copyElements_mem_congr (tag : Origin) (size : Nat) (source dest : Addr) (turns i : Nat)
    (same : m.mem = m'.mem) :
    (copyElements tag size source dest turns i m).mem =
      (copyElements tag size source dest turns i m').mem := by
  induction turns generalizing i m m' with
  | zero => exact same
  | succ turns ih =>
      rw [copyElements, copyElements]
      apply ih
      change ByteMemory.store m.mem _ (ByteMemory.load m.mem _ size) = _
      rw [same]
      rfl

theorem copyElements_add (tag : Origin) (size : Nat) (source dest : Addr) (first second i : Nat)
    (m : KernelMachine) :
    copyElements tag size source dest (first + second) i m =
      copyElements tag size source dest second (i + first)
        (copyElements tag size source dest first i m) := by
  induction first generalizing i m with
  | zero => rw [Nat.zero_add]; rfl
  | succ first ih =>
      have later : i + (first + 1) = i + 1 + first := by omega
      rw [Nat.add_right_comm, later]
      exact ih (i + 1) _

/-- Two aligned words are the same one or have no byte in common. -/
theorem forward_of_aligned {size : Nat} {dest source : Addr} (divides : size ∣ 2 ^ 64)
    (target : size ∣ dest.toNat) (origin : size ∣ source.toNat) : Forward dest source size := by
  by_cases same : dest = source
  · exact Or.inl same
  · right
    have distance : size ∣ (dest - source).toNat := by
      rw [BitVec.toNat_sub]
      apply (Nat.dvd_mod_iff divides).mpr
      exact Nat.dvd_add (Nat.dvd_sub divides origin) target
    apply Nat.le_of_dvd _ distance
    apply Nat.pos_of_ne_zero
    intro zero
    have none : dest - source = 0 := BitVec.eq_of_toNat_eq zero
    rw [← BitVec.sub_add_cancel dest source, none] at same
    exact same (BitVec.zero_add source)

theorem element_mem {size : Nat} {source dest : Addr} (divides : size ∣ 2 ^ 64)
    (target : size ∣ dest.toNat) (origin : size ∣ source.toNat) (i : Nat) (m : KernelMachine) :
    (copyElements tag size source dest 1 i m).mem =
      (copyElements tag 1 source dest size (size * i) m).mem := by
  have small : size ≤ 2 ^ 64 := Nat.le_of_dvd (by decide) divides
  have forward := forward_of_aligned divides target origin
  rw [copyElements_mem 1 i (by omega) (by rw [Nat.mul_one]; exact forward),
    copyElements_mem size (size * i) (by omega) (by rw [Nat.one_mul]; exact forward),
    Nat.mul_one, Nat.one_mul, Nat.one_mul]

/-- Copies of aligned ranges leave the same memory at either granularity, however the ranges
overlap: by induction on the elements. -/
theorem copyElements_bytes {size : Nat} {source dest : Addr} (tag : Origin)
    (divides : size ∣ 2 ^ 64) (target : size ∣ dest.toNat) (origin : size ∣ source.toNat)
    (turns i : Nat) (m : KernelMachine) :
    (copyElements tag size source dest turns i m).mem =
      (copyElements tag 1 source dest (size * turns) (size * i) m).mem := by
  induction turns generalizing i m with
  | zero => rfl
  | succ turns ih =>
      have bytes : size * (1 + turns) = size + size * turns := by ring
      have next : size * (i + 1) = size * i + size := Nat.mul_succ size i
      rw [Nat.add_comm turns, copyElements_add, ih, bytes, copyElements_add, next]
      exact copyElements_mem_congr tag 1 source dest _ _ (element_mem divides target origin i m)

/-- On aligned arguments `memcpy` runs its word loop, and the byte loop would have left the
same memory. -/
theorem memcpy_words_bytes (target : destp.toNat % wordSize = 0)
    (origin : sourcep.toNat % wordSize = 0) (count : nbytes.toNat % wordSize = 0) :
    (memcpy tag sourcep destp nbytes m).2 =
        copyElements tag wordSize sourcep destp (nbytes.toNat / wordSize) 0 m ∧
      (memcpy tag sourcep destp nbytes m).2.mem =
        (copyElements tag 1 sourcep destp nbytes.toNat 0 m).mem := by
  have words : wordSize * (nbytes.toNat / wordSize) = nbytes.toNat :=
    Nat.mul_div_cancel' (Nat.dvd_of_mod_eq_zero count)
  have bytes := copyElements_bytes tag (by decide) (Nat.dvd_of_mod_eq_zero target)
    (Nat.dvd_of_mod_eq_zero origin) (nbytes.toNat / wordSize) 0 m
  rw [memcpy, if_pos ⟨target, origin, count⟩]
  rw [words, Nat.mul_zero] at bytes
  exact ⟨rfl, bytes⟩

/-- Every word is read after the one before it was written over it. -/
theorem memcpy_words_bytes_overlap :
    (memcpy .draw 0x1000 0x1004 12 ⟨fun a => a.setWidth 8, []⟩).2 =
        copyElements .draw wordSize 0x1000 0x1004 3 0 ⟨fun a => a.setWidth 8, []⟩ ∧
      (memcpy .draw 0x1000 0x1004 12 ⟨fun a => a.setWidth 8, []⟩).2.mem =
        (copyElements .draw 1 0x1000 0x1004 12 0 ⟨fun a => a.setWidth 8, []⟩).mem :=
  memcpy_words_bytes (by decide) (by decide) (by decide)

end Granularity

end Flosp.Kernel
