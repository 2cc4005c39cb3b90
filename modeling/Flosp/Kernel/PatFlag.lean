import Flosp.Kernel.Printing
import Flosp.Lib.PageWalk

/-! Setting the PAT flag for an address: for a large page it selects the memory type, for a
4 KiB page it is a bit of the physical address. -/

namespace Flosp.Kernel

open ByteMemory

/-- Memory as the page walk reads it. -/
def entries (mem : Memory 64) (a : Addr) : BitVec 64 := load mem a 8

/-- Page tables that are no part of what the console draws on. -/
structure PageTables (s : Screen) (cr3 : BitVec 64) (mem : Memory 64) : Prop where
  root : cr3 &&& 0xFFF0000000000000 = 0
  levels : PageWalk.LevelsApart (entries mem) cr3
  untouched : ∀ va level a, PageWalk.Reads (entries mem) cr3 va level a →
    ∀ x, Within x a 8 → s.Untouched x

section Walk

variable {cr3 addr : BitVec 64} {m : KernelMachine}

theorem pageSize_iff (e : BitVec 64) : e >>> 7 &&& 0x1 ≠ 0 ↔ e.getLsbD 7 = true := by
  rw [show (0x1 : BitVec 64) = 1#64 from rfl, BitVec.and_one_eq_setWidth_ofBool_getLsbD,
    BitVec.getLsbD_ushiftRight]
  cases e.getLsbD 7 <;> decide

theorem getMemPage_eq (cr3 addr : BitVec 64) (m : KernelMachine) :
    (getMemPage cr3 addr m).1 =
      let entry := entries m.mem
      let pml4Slot := PageWalk.slot .pml4 (cr3 &&& 0xFFFFFFFFFFFFF000) addr
      let pdptSlot := PageWalk.slot .pdpt (entry pml4Slot &&& PageWalk.tableMask) addr
      let pdSlot := PageWalk.slot .pd (entry pdptSlot &&& PageWalk.tableMask) addr
      if (entry pdptSlot).getLsbD 7 = true then pdptSlot
      else if (entry pdSlot).getLsbD 7 = true then pdSlot
      else PageWalk.slot .pt (entry pdSlot &&& PageWalk.tableMask) addr := by
  unfold getMemPage
  simp only [pageSize_iff]
  split
  · next large => exact (if_pos large).symm
  · next small =>
      split
      · next large => exact ((if_neg small).trans (if_pos large)).symm
      · next last => exact ((if_neg small).trans (if_neg last)).symm

theorem root_eq (root : cr3 &&& 0xFFF0000000000000 = 0) :
    cr3 &&& 0xFFFFFFFFFFFFF000 = cr3 &&& PageWalk.tableMask := by
  have split : (0xFFFFFFFFFFFFF000 : BitVec 64) = PageWalk.tableMask ||| 0xFFF0000000000000 := by
    decide
  rw [split, BitVec.and_or_distrib_left, root]
  exact BitVec.or_zero

theorem getMemPage_leaf (root : cr3 &&& 0xFFF0000000000000 = 0) {level : PageLevel} {p : Addr}
    (found : PageWalk.leaf (entries m.mem) cr3 addr = some (level, p)) :
    (getMemPage cr3 addr m).1 = p := by
  rw [getMemPage_eq, root_eq root]
  rw [PageWalk.leaf] at found
  split at found
  · rcases PageWalk.walk_cons found with ⟨never, -⟩ | ⟨-, found⟩
    · cases never
    rcases PageWalk.walk_cons found with ⟨large, here⟩ | ⟨small, found⟩
    · rw [(Prod.mk.inj here).2]
      exact if_pos large
    rcases PageWalk.walk_cons found with ⟨large, here⟩ | ⟨small', found⟩
    · rw [(Prod.mk.inj here).2]
      exact (if_neg (Bool.eq_false_iff.mp small)).trans (if_pos large)
    rcases PageWalk.walk_cons found with ⟨-, here⟩ | ⟨never, -⟩
    · rw [(Prod.mk.inj here).2]
      exact (if_neg (Bool.eq_false_iff.mp small)).trans (if_neg (Bool.eq_false_iff.mp small'))
    · cases never
  · cases found

theorem aligned_apart {a p : Addr} (first : a.toNat % 8 = 0) (second : p.toNat % 8 = 0)
    (other : a ≠ p) : Apart a 8 p 8 := by
  have distinct : a.toNat ≠ p.toNat := fun same => other (BitVec.eq_of_toNat_eq same)
  have boundA := a.isLt
  have boundP := p.isLt
  intro x inside inside'
  rw [within_iff_toNat (by omega)] at inside inside'
  omega

end Walk

section Flags

variable {s : Screen} {k : Console} {cr3 addr flags : BitVec 64}

theorem Prints.entry_eq {k' : Console} {a : Addr} (prints : Prints s k k')
    (untouched : ∀ x, Within x a 8 → s.Untouched x) :
    entries k'.machine.mem a = entries k.machine.mem a :=
  load_congr_within (by decide) fun x inside => prints.mem_eq (untouched x inside)

theorem reads_aligned {mem : Memory 64} {va : BitVec 64} {level : PageLevel} {a : Addr}
    (read : PageWalk.Reads (entries mem) cr3 va level a) : a.toNat % 8 = 0 :=
  PageWalk.reads_aligned (PageWalk.tableMask_aligned cr3) read.2

theorem orEntry_entry {p a : Addr} (first : a.toNat % 8 = 0) (second : p.toNat % 8 = 0) :
    entries (orEntry p flags k).machine.mem a =
      if a = p then entries k.machine.mem a ||| flags else entries k.machine.mem a := by
  change load (store k.machine.mem p (n := 8) (load k.machine.mem p 8 ||| flags)) a 8 = _
  by_cases target : a = p
  · rw [if_pos target, target]
    exact load_store_same k.machine.mem p (n := 8) _ (by decide)
  · rw [if_neg target]
    exact load_store_apart (aligned_apart first second target) (by decide)

/-- Of the entries that map any address, `set_mem_page_flags` changes the one for `addr`. -/
theorem setMemPageFlags_entries (on : k.On s) (tables : PageTables s cr3 k.machine.mem)
    {level : PageLevel} {p : Addr}
    (found : PageWalk.leaf (entries k.machine.mem) cr3 addr = some (level, p)) (flags : BitVec 64) :
    ∃ k', setMemPageFlags cr3 addr flags k = .ok k' ∧
      ∀ va level a, PageWalk.Reads (entries k.machine.mem) cr3 va level a →
        entries k'.machine.mem a =
          if a = p then entries k.machine.mem a ||| flags else entries k.machine.mem a := by
  obtain ⟨k₁, k', sets, before, after⟩ := setMemPageFlags_prints on cr3 addr flags
  refine ⟨k', sets, ?_⟩
  intro va level' a read
  have target := reads_aligned (PageWalk.leaf_reads found).1
  have untouched := tables.untouched va level' a read
  rw [getMemPage_leaf tables.root found] at after
  rw [after.entry_eq untouched, orEntry_entry (reads_aligned read) target,
    before.entry_eq untouched]

/-- Setting the PAT flag for a mapped address keeps every mapping if and only if the address
is in a large page or bit 12 of its entry is set already. -/
theorem setMemPageFlags_keepsMappings_iff (on : k.On s)
    (tables : PageTables s cr3 k.machine.mem) {level : PageLevel} {p : Addr}
    (found : PageWalk.leaf (entries k.machine.mem) cr3 addr = some (level, p)) :
    ∃ k', setMemPageFlags cr3 addr pflagPat k = .ok k' ∧
      ((∀ va, PageWalk.Mapped (entries k.machine.mem) cr3 va →
          PageWalk.translate (entries k'.machine.mem) cr3 va =
            PageWalk.translate (entries k.machine.mem) cr3 va) ↔
        (level = .pt → (entries k.machine.mem p).getLsbD 12 = true)) := by
  obtain ⟨k', sets, updated⟩ := setMemPageFlags_entries on tables found pflagPat
  exact ⟨k', sets, PageWalk.translate_pat_iff tables.levels found updated⟩

end Flags

/-- A memory that holds the given page table entries. -/
def entryMemory (entry : Addr → BitVec 64) : Memory 64 := fun x =>
  byteOf (n := 8) (entry (x - BitVec.ofNat 64 (x.toNat % 8))) (x.toNat % 8)

theorem entries_entryMemory (entry : Addr → BitVec 64) {a : Addr} (aligned : a.toNat % 8 = 0) :
    entries (entryMemory entry) a = entry a := by
  apply BitVec.eq_of_getLsbD_eq
  intro k bound
  have place : (a + BitVec.ofNat 64 (k / 8)).toNat % 8 = k / 8 := by
    rw [BitVec.toNat_add, BitVec.toNat_ofNat]
    omega
  have bit : k % 8 < 8 := Nat.mod_lt k (by decide)
  rw [entries, getLsbD_load _ _ _ _ bound, entryMemory, place, BitVec.add_sub_cancel, byteOf,
    BitVec.getLsbD_extractLsb', Nat.div_add_mod]
  simp [bit]

section Sample

/-- Every address is mapped by one table of each level, or by a large page. -/
def samplePage : PageLevel → BitVec 64
  | .pml4 => 0x100
  | .pdpt => 0x101
  | .pd => 0x102
  | .pt => 0x103

def sampleEntry (pdEntry : BitVec 64) (a : Addr) : BitVec 64 :=
  if a >>> 12 = 0x100 then 0x101001
  else if a >>> 12 = 0x101 then 0x102001
  else if a >>> 12 = 0x102 then pdEntry
  else 0x1

def sampleConsole (pdEntry : BitVec 64) : Console :=
  cellConsole ⟨entryMemory (sampleEntry pdEntry), []⟩

variable {pdEntry : BitVec 64}

theorem sample_slot {level : PageLevel} {table va : BitVec 64} (aligned : table.toNat % 4096 = 0) :
    entries (sampleConsole pdEntry).machine.mem (PageWalk.slot level table va) =
      sampleEntry pdEntry table := by
  obtain ⟨i, -, place⟩ := PageWalk.slot_toNat level va aligned
  have word : (PageWalk.slot level table va).toNat % 8 = 0 := by rw [place]; omega
  change entries (entryMemory (sampleEntry pdEntry)) _ = _
  rw [entries_entryMemory _ word, sampleEntry, sampleEntry, PageWalk.slot_page aligned]

theorem sample_step {next level : PageLevel} {rest : List PageLevel} {table va : BitVec 64} {a : Addr}
    (aligned : table.toNat % 4096 = 0) (page : table >>> 12 = samplePage next)
    (member : (level, a) ∈
      PageWalk.reads (entries (sampleConsole pdEntry).machine.mem) va (next :: rest) table) :
    a >>> 12 = samplePage level ∨
      PageWalk.isLeaf next (sampleEntry pdEntry table) = false ∧
        (level, a) ∈ PageWalk.reads (entries (sampleConsole pdEntry).machine.mem) va rest
          (sampleEntry pdEntry table &&& PageWalk.tableMask) := by
  rw [PageWalk.reads, sample_slot aligned, List.mem_cons] at member
  rcases member with here | below
  · obtain ⟨rfl, rfl⟩ := Prod.mk.inj here
    exact Or.inl ((PageWalk.slot_page aligned).trans page)
  · split at below
    · cases below
    · next through => exact Or.inr ⟨Bool.eq_false_iff.mpr through, below⟩

theorem sample_reads (leads : PageWalk.isLeaf .pd pdEntry = true ∨
      pdEntry &&& PageWalk.tableMask = 0x103000) {va : BitVec 64} {level : PageLevel} {a : Addr}
    (read : PageWalk.Reads (entries (sampleConsole pdEntry).machine.mem) 0x100000 va level a) :
    a >>> 12 = samplePage level := by
  have first : sampleEntry pdEntry 0x100000 &&& PageWalk.tableMask = 0x101000 := by
    rw [sampleEntry, if_pos (by decide)]
    decide
  have second : sampleEntry pdEntry 0x101000 &&& PageWalk.tableMask = 0x102000 := by
    rw [sampleEntry, if_neg (by decide), if_pos (by decide)]
    decide
  have directory : sampleEntry pdEntry 0x102000 = pdEntry := by
    rw [sampleEntry, if_neg (by decide), if_neg (by decide), if_pos (by decide)]
  rcases sample_step (show (0x100000 : Addr).toNat % 4096 = 0 by decide) rfl read.2 with here | ⟨-, below⟩
  · exact here
  rw [first] at below
  rcases sample_step (by decide) rfl below with here | ⟨-, below⟩
  · exact here
  rw [second] at below
  rcases sample_step (by decide) rfl below with here | ⟨small, below⟩
  · exact here
  rw [directory] at small below
  rw [leads.resolve_left (Bool.eq_false_iff.mp small)] at below
  rcases sample_step (by decide) rfl below with here | ⟨never, -⟩
  · exact here
  · cases never

theorem samplePage_untouched {level : PageLevel} {a : Addr} (page : a >>> 12 = samplePage level) :
    ∀ x, Within x a 8 → cellScreen.Untouched x := by
  intro x inside
  have place := congrArg BitVec.toNat page
  have above : 0x100 ≤ a.toNat / 4096 ∧ a.toNat / 4096 ≤ 0x103 := by
    rw [BitVec.toNat_ushiftRight, Nat.shiftRight_eq_div_pow] at place
    rw [show 4096 = 2 ^ 12 from rfl, place]
    cases level <;> decide
  rw [within_iff_toNat (by omega)] at inside
  exact cellScreen_untouched (by omega)

theorem sample_tables (pdEntry : BitVec 64) (leads : PageWalk.isLeaf .pd pdEntry = true ∨
      pdEntry &&& PageWalk.tableMask = 0x103000) :
    PageTables cellScreen 0x100000 (sampleConsole pdEntry).machine.mem where
  root := by decide
  levels := by
    intro va va' level level' a read read'
    have pages := (sample_reads leads read).symm.trans (sample_reads leads read')
    revert pages
    cases level <;> cases level' <;> decide
  untouched := fun va level a read => samplePage_untouched (sample_reads leads read)

theorem largePage_keeps :
    ∃ k', setMemPageFlags 0x100000 0 pflagPat (sampleConsole 0x81) = .ok k' ∧
      ((∀ va, PageWalk.Mapped (entries (sampleConsole 0x81).machine.mem) 0x100000 va →
          PageWalk.translate (entries k'.machine.mem) 0x100000 va =
            PageWalk.translate (entries (sampleConsole 0x81).machine.mem) 0x100000 va) ↔
        (PageLevel.pd = .pt →
          (entries (sampleConsole 0x81).machine.mem 0x102000).getLsbD 12 = true)) :=
  setMemPageFlags_keepsMappings_iff (cellConsole_on _) (sample_tables 0x81 (Or.inl rfl))
    (by decide +kernel)

/-- The flag moves a 4 KiB page. -/
theorem smallPage_moves :
    ∃ k', setMemPageFlags 0x100000 0 pflagPat (sampleConsole 0x103001) = .ok k' ∧
      PageTables cellScreen 0x100000 (sampleConsole 0x103001).machine.mem ∧
      PageWalk.translate (entries (sampleConsole 0x103001).machine.mem) 0x100000 0 = some 0 ∧
      PageWalk.translate (entries k'.machine.mem) 0x100000 0 ≠ some 0 := by
  have tables := sample_tables 0x103001 (Or.inr (by decide))
  have found : PageWalk.leaf (entries (sampleConsole 0x103001).machine.mem) 0x100000 0 =
      some (.pt, 0x103000) := by decide +kernel
  have before : PageWalk.translate (entries (sampleConsole 0x103001).machine.mem) 0x100000 0 =
      some 0 := by decide +kernel
  have clear : (entries (sampleConsole 0x103001).machine.mem 0x103000).getLsbD 12 ≠ true := by
    decide +kernel
  obtain ⟨k', sets, updated⟩ :=
    setMemPageFlags_entries (cellConsole_on _) tables found pflagPat
  refine ⟨k', sets, tables, before, ?_⟩
  intro after
  exact clear ((PageWalk.translate_pat_self tables.levels found updated).mp
    (after.trans before.symm) rfl)

end Sample

end Flosp.Kernel
