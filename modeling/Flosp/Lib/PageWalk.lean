import Mathlib.Data.List.Basic
import Mathlib.Data.BitVec

/-! The four-level page walk of a 64-bit x86 processor, and what a flag that is set in one
entry does to it. Memory is a function from the address of an entry to the entry. -/

inductive PageLevel where
  | pml4
  | pdpt
  | pd
  | pt
  deriving DecidableEq, Repr

/-- The lowest bit of a virtual address that the level does not leave to the levels below. -/
def PageLevel.shift : PageLevel → Nat
  | pml4 => 39
  | pdpt => 30
  | pd => 21
  | pt => 12

/-- The level of the tables that the level's entries lead to. -/
def PageLevel.next : PageLevel → Option PageLevel
  | pml4 => some pdpt
  | pdpt => some pd
  | pd => some pt
  | pt => none

namespace PageWalk

def levels : List PageLevel := [.pml4, .pdpt, .pd, .pt]

/-- Bits 51 to 12, the address of a table or of a 4 KiB page. -/
def tableMask : BitVec 64 := 0x000FFFFFFFFFF000

def present (e : BitVec 64) : Bool := e.getLsbD 0

/-- The entry maps a page; bit 7 of a directory entry says that it is a large one. -/
def isLeaf : PageLevel → BitVec 64 → Bool
  | .pml4, _ => false
  | .pdpt, e => e.getLsbD 7
  | .pd, e => e.getLsbD 7
  | .pt, _ => true

/-- The bits that must be zero, or else the walk faults. -/
def reserved (level : PageLevel) (e : BitVec 64) : BitVec 64 :=
  match level with
  | .pml4 => 0x80
  | .pdpt => if isLeaf .pdpt e then 0x3FFFE000 else 0
  | .pd => if isLeaf .pd e then 0x1FE000 else 0
  | .pt => 0

def valid (level : PageLevel) (e : BitVec 64) : Bool := present e && e &&& reserved level e == 0

def slot (level : PageLevel) (table va : BitVec 64) : BitVec 64 :=
  table + 8 * (va >>> level.shift &&& 0x1FF)

def canonical (va : BitVec 64) : Bool := (va.setWidth 48).signExtend 64 == va

section Walk

variable (entry : BitVec 64 → BitVec 64)

/-- The entry that maps the address, with its level. -/
def walk (va : BitVec 64) : List PageLevel → BitVec 64 → Option (PageLevel × BitVec 64)
  | [], _ => none
  | level :: rest, table =>
      let a := slot level table va
      if !valid level (entry a) then none
      else if isLeaf level (entry a) then some (level, a)
      else walk va rest (entry a &&& tableMask)

/-- The entries that the walk reads. -/
def reads (va : BitVec 64) : List PageLevel → BitVec 64 → List (PageLevel × BitVec 64)
  | [], _ => []
  | level :: rest, table =>
      let a := slot level table va
      (level, a) ::
        (if isLeaf level (entry a) then [] else reads va rest (entry a &&& tableMask))

def leaf (cr3 va : BitVec 64) : Option (PageLevel × BitVec 64) :=
  if canonical va then walk entry va levels (cr3 &&& tableMask) else none

/-- The bits of a virtual address within a page of the level. -/
def offsetMask (level : PageLevel) : BitVec 64 := 1 <<< level.shift - 1

def physical (level : PageLevel) (e va : BitVec 64) : BitVec 64 :=
  (e &&& (tableMask &&& ~~~offsetMask level)) ||| (va &&& offsetMask level)

/-- The physical address of a virtual one. -/
def translate (cr3 va : BitVec 64) : Option (BitVec 64) :=
  (leaf entry cr3 va).map fun found => physical found.1 (entry found.2) va

def Mapped (cr3 va : BitVec 64) : Prop := (leaf entry cr3 va).isSome

/-- The address is mapped, and `a` is an entry that its walk reads at the level. -/
def Reads (cr3 va : BitVec 64) (level : PageLevel) (a : BitVec 64) : Prop :=
  Mapped entry cr3 va ∧ (level, a) ∈ reads entry va levels (cr3 &&& tableMask)

/-- No entry is read at two levels. -/
def LevelsApart (cr3 : BitVec 64) : Prop :=
  ∀ va va' level level' a, Reads entry cr3 va level a → Reads entry cr3 va' level' a →
    level = level'

end Walk

section Congruence

variable {entry entry' : BitVec 64 → BitVec 64} {va : BitVec 64}

/-- Two entries that map a page alike, though perhaps not the same page. -/
structure SameLeaf (level : PageLevel) (e e' : BitVec 64) : Prop where
  leaf : isLeaf level e = true
  leaf' : isLeaf level e' = true
  valid : valid level e' = valid level e

/-- A walk that meets the same entries, or the same leaf, ends in the same place: by induction
on the levels. -/
theorem walk_congr {rest : List PageLevel} {table : BitVec 64}
    (same : ∀ level a, (level, a) ∈ reads entry va rest table →
      entry' a = entry a ∨ SameLeaf level (entry a) (entry' a)) :
    walk entry' va rest table = walk entry va rest table := by
  induction rest generalizing table with
  | nil => rfl
  | cons level rest ih =>
      have here := same level (slot level table va) List.mem_cons_self
      rw [walk, walk]
      rcases here with equal | alike
      · simp only [equal]
        by_cases stops : isLeaf level (entry (slot level table va)) = true
        · simp only [stops, if_true]
        · have below : walk entry' va rest (entry (slot level table va) &&& tableMask) =
              walk entry va rest (entry (slot level table va) &&& tableMask) := by
            apply ih
            intro level' a member
            apply same level' a
            rw [reads, if_neg stops]
            exact List.mem_cons_of_mem _ member
          rw [below]
      · simp only [alike.leaf, alike.leaf', alike.valid, if_true]

theorem walk_cons {next : PageLevel} {rest : List PageLevel} {table : BitVec 64}
    {result : PageLevel × BitVec 64} (found : walk entry va (next :: rest) table = some result) :
    isLeaf next (entry (slot next table va)) = true ∧ result = (next, slot next table va) ∨
      isLeaf next (entry (slot next table va)) = false ∧
        walk entry va rest (entry (slot next table va) &&& tableMask) = some result := by
  rw [walk] at found
  by_cases ok : valid next (entry (slot next table va)) = true
  · simp only [ok, Bool.not_true, Bool.false_eq_true, if_false] at found
    cases stops : isLeaf next (entry (slot next table va)) with
    | true =>
        rw [stops, if_pos rfl] at found
        exact Or.inl ⟨rfl, (Option.some.inj found).symm⟩
    | false =>
        rw [stops, if_neg (by decide)] at found
        exact Or.inr ⟨rfl, found⟩
  · simp only [ok, Bool.not_false, if_true] at found
    cases found

theorem walk_reads {rest : List PageLevel} {table : BitVec 64} {level : PageLevel}
    {a : BitVec 64} (found : walk entry va rest table = some (level, a)) :
    (level, a) ∈ reads entry va rest table ∧ isLeaf level (entry a) = true := by
  induction rest generalizing table with
  | nil => cases found
  | cons next rest ih =>
      rw [reads]
      rcases walk_cons found with ⟨stops, here⟩ | ⟨stops, below⟩
      · obtain ⟨rfl, rfl⟩ := Prod.mk.inj here
        exact ⟨List.mem_cons_self, stops⟩
      · obtain ⟨member, leaf⟩ := ih below
        refine ⟨?_, leaf⟩
        rw [stops, if_neg (by decide)]
        exact List.mem_cons_of_mem _ member

theorem leaf_reads {cr3 : BitVec 64} {level : PageLevel} {a : BitVec 64}
    (found : leaf entry cr3 va = some (level, a)) :
    Reads entry cr3 va level a ∧ isLeaf level (entry a) = true := by
  have mapped : Mapped entry cr3 va := by rw [Mapped, found]; rfl
  rw [leaf] at found
  split at found
  · obtain ⟨member, stops⟩ := walk_reads found
    exact ⟨⟨mapped, member⟩, stops⟩
  · cases found

theorem tableMask_aligned (e : BitVec 64) : (e &&& tableMask).toNat % 4096 = 0 := by
  have low : (e &&& tableMask).setWidth 12 = 0 := by
    rw [BitVec.setWidth_and, show tableMask.setWidth 12 = 0#12 from by decide, BitVec.and_zero]
    rfl
  rw [← show 2 ^ 12 = 4096 from rfl, ← BitVec.toNat_setWidth, low]
  rfl

theorem slot_toNat (level : PageLevel) (va : BitVec 64) {table : BitVec 64}
    (aligned : table.toNat % 4096 = 0) :
    ∃ i, i < 512 ∧ (slot level table va).toNat = table.toNat + 8 * i := by
  have index : (va >>> level.shift &&& 0x1FF).toNat ≤ 0x1FF := by
    rw [BitVec.toNat_and]
    exact Nat.and_le_right
  have bound := table.isLt
  refine ⟨(va >>> level.shift &&& 0x1FF).toNat, by omega, ?_⟩
  rw [slot, BitVec.toNat_add, BitVec.toNat_mul]
  change (table.toNat + 8 * (va >>> level.shift &&& 0x1FF).toNat % 2 ^ 64) % 2 ^ 64 = _
  omega

theorem slot_page {level : PageLevel} {table : BitVec 64} (aligned : table.toNat % 4096 = 0) :
    slot level table va >>> 12 = table >>> 12 := by
  obtain ⟨i, bound, place⟩ := slot_toNat level va aligned
  apply BitVec.eq_of_toNat_eq
  rw [BitVec.toNat_ushiftRight, BitVec.toNat_ushiftRight, place, Nat.shiftRight_eq_div_pow,
    Nat.shiftRight_eq_div_pow]
  omega

theorem reads_aligned {rest : List PageLevel} {table : BitVec 64} {level : PageLevel}
    {a : BitVec 64} (aligned : table.toNat % 4096 = 0)
    (member : (level, a) ∈ reads entry va rest table) : a.toNat % 8 = 0 := by
  induction rest generalizing table with
  | nil => cases member
  | cons next rest ih =>
      rw [reads, List.mem_cons] at member
      rcases member with here | below
      · obtain ⟨i, -, place⟩ := slot_toNat next va aligned
        rw [(Prod.mk.inj here).2, place]
        omega
      · split at below
        · cases below
        · exact ih (tableMask_aligned _) below

end Congruence

/-- The PAT bit of a large page, and the lowest address bit of a 4 KiB page. -/
def pat : BitVec 64 := 0x1000

section Pat

variable {entry entry' : BitVec 64 → BitVec 64} {cr3 : BitVec 64}

theorem isLeaf_pat (level : PageLevel) (e : BitVec 64) :
    isLeaf level (e ||| pat) = isLeaf level e := by
  cases level <;> simp [isLeaf, pat]

theorem present_pat (e : BitVec 64) : present (e ||| pat) = present e := by
  simp [present, pat]

theorem and_pat {e mask : BitVec 64} (clear : pat &&& mask = 0) :
    (e ||| pat) &&& mask = e &&& mask := by
  rw [BitVec.and_or_distrib_right, clear]
  exact BitVec.or_zero

theorem reserved_pat (level : PageLevel) (e : BitVec 64) :
    (e ||| pat) &&& reserved level (e ||| pat) = e &&& reserved level e := by
  have same : reserved level (e ||| pat) = reserved level e := by
    cases level <;> simp only [reserved, isLeaf_pat]
  rw [same]
  apply and_pat
  cases level with
  | pml4 => exact (by decide : pat &&& 0x80 = 0)
  | pdpt => simp only [reserved]; split <;> decide
  | pd => simp only [reserved]; split <;> decide
  | pt => exact (by decide : pat &&& 0 = 0)

theorem sameLeaf_pat {level : PageLevel} {e : BitVec 64} (stops : isLeaf level e = true) :
    SameLeaf level e (e ||| pat) where
  leaf := stops
  leaf' := (isLeaf_pat level e).trans stops
  valid := by rw [valid, valid, present_pat, reserved_pat]

/-- Only in the entry of a 4 KiB page is the PAT bit of a large one part of the address. -/
theorem physical_pat_iff {level : PageLevel} {e va : BitVec 64} (stops : isLeaf level e = true) :
    physical level (e ||| pat) va = physical level e va ↔
      (level = .pt → e.getLsbD 12 = true) := by
  cases level with
  | pml4 => cases stops
  | pdpt =>
      refine iff_of_true ?_ fun small => by cases small
      rw [physical, and_pat (by decide), physical]
  | pd =>
      refine iff_of_true ?_ fun small => by cases small
      rw [physical, and_pat (by decide), physical]
  | pt =>
      constructor
      · intro same _
        have bit := congrArg (fun p => p.getLsbD 12) same
        simpa [physical, tableMask, offsetMask, PageLevel.shift, pat] using bit.symm
      · intro set
        have already : e ||| pat = e := by
          apply BitVec.eq_of_getLsbD_eq
          intro i bound
          rw [BitVec.getLsbD_or]
          by_cases twelve : i = 12
          · rw [twelve, set rfl]
            rfl
          · have clear : pat.getLsbD i = false := by
              have power : pat = BitVec.twoPow 64 12 := by decide
              rw [power, BitVec.getLsbD_twoPow]
              simp [Ne.symm twelve]
            rw [clear, Bool.or_false]
        rw [already]

section Update

variable {addr : BitVec 64} {level : PageLevel} {p : BitVec 64} (apart : LevelsApart entry cr3)
  (found : leaf entry cr3 addr = some (level, p))
  (updated : ∀ va level a, Reads entry cr3 va level a →
    entry' a = if a = p then entry a ||| pat else entry a)

include apart found updated

theorem leaf_pat {va : BitVec 64} (mapped : Mapped entry cr3 va) :
    leaf entry' cr3 va = leaf entry cr3 va := by
  obtain ⟨read, stops⟩ := leaf_reads found
  rw [leaf, leaf]
  congr 1
  apply walk_congr
  intro level' a member
  have value := updated va level' a ⟨mapped, member⟩
  by_cases target : a = p
  · rw [if_pos target] at value
    rw [target] at member value ⊢
    rw [apart va addr level' level p ⟨mapped, member⟩ read, value]
    exact Or.inr (sameLeaf_pat stops)
  · rw [if_neg target] at value
    exact Or.inl value

theorem translate_pat_self : translate entry' cr3 addr = translate entry cr3 addr ↔
    (level = .pt → (entry p).getLsbD 12 = true) := by
  obtain ⟨read, stops⟩ := leaf_reads found
  rw [translate, translate, leaf_pat apart found updated read.1, found, Option.map_some,
    Option.map_some, Option.some.injEq, updated addr level p read, if_pos rfl]
  exact physical_pat_iff stops

/-- Setting the flag in the entry that maps `addr` keeps every translation exactly when the
page is a large one or the bit is set already. -/
theorem translate_pat_iff :
    (∀ va, Mapped entry cr3 va → translate entry' cr3 va = translate entry cr3 va) ↔
      (level = .pt → (entry p).getLsbD 12 = true) := by
  obtain ⟨read, stops⟩ := leaf_reads found
  constructor
  · intro keeps
    exact (translate_pat_self apart found updated).mp (keeps addr read.1)
  · intro large va mapped
    obtain ⟨⟨level', a⟩, other⟩ := Option.isSome_iff_exists.mp mapped
    obtain ⟨read', -⟩ := leaf_reads other
    rw [translate, translate, leaf_pat apart found updated mapped, other, Option.map_some,
      Option.map_some, updated va level' a read']
    by_cases target : a = p
    · rw [target] at read' ⊢
      rw [apart va addr level' level p read' read, if_pos rfl]
      exact congrArg some ((physical_pat_iff stops).mpr large)
    · rw [if_neg target]

end Update

end Pat

section Hierarchy

variable (entry : BitVec 64 → BitVec 64) (cr3 : BitVec 64)

/-- The tables that present entries lead to, from the root on. -/
inductive Table : PageLevel → BitVec 64 → Prop
  | root : Table .pml4 (cr3 &&& tableMask)
  | lower {level next : PageLevel} {table : BitVec 64} (va : BitVec 64) (upper : Table level table)
      (step : level.next = some next) (there : present (entry (slot level table va)) = true)
      (through : isLeaf level (entry (slot level table va)) = false) :
      Table next (entry (slot level table va) &&& tableMask)

def IsEntry (level : PageLevel) (a : BitVec 64) : Prop :=
  ∃ table va, Table entry cr3 level table ∧ a = slot level table va

/-- Tables of different levels share no entry. -/
def TablesApart : Prop :=
  ∀ level level' a, IsEntry entry cr3 level a → IsEntry entry cr3 level' a → level = level'

variable {entry cr3}

theorem table_aligned {level : PageLevel} {table : BitVec 64} (held : Table entry cr3 level table) :
    table.toNat % 4096 = 0 := by
  cases held with
  | root => exact tableMask_aligned cr3
  | lower va upper step there through => exact tableMask_aligned _

theorem isEntry_aligned {level : PageLevel} {a : BitVec 64} (held : IsEntry entry cr3 level a) :
    a.toNat % 8 = 0 := by
  rcases held with ⟨table, va, held, rfl⟩
  rcases slot_toNat level va (table_aligned held) with ⟨i, -, place⟩
  have aligned := table_aligned held
  omega

theorem walk_valid {va : BitVec 64} {level : PageLevel} {rest : List PageLevel} {table : BitVec 64}
    {result : PageLevel × BitVec 64} (found : walk entry va (level :: rest) table = some result) :
    valid level (entry (slot level table va)) = true := by
  by_contra fails
  rw [walk] at found
  simp only [fails, Bool.not_false, if_true] at found
  cases found

/-- A walk that succeeds reads entries of the hierarchy: by induction on the levels left. -/
theorem reads_isEntry {va : BitVec 64} {level : PageLevel} {rest : List PageLevel}
    {table : BitVec 64} {result : PageLevel × BitVec 64}
    (chain : List.IsChain (fun upper lower => upper.next = some lower) (level :: rest))
    (held : Table entry cr3 level table)
    (found : walk entry va (level :: rest) table = some result) :
    ∀ read ∈ reads entry va (level :: rest) table, IsEntry entry cr3 read.1 read.2 := by
  induction rest generalizing level table with
  | nil =>
      rcases walk_cons found with ⟨stops, -⟩ | ⟨-, never⟩
      · intro read member
        rw [reads, if_pos stops, List.mem_singleton] at member
        rw [member]
        exact ⟨table, va, held, rfl⟩
      · cases never
  | cons next rest ih =>
      have here : IsEntry entry cr3 level (slot level table va) := ⟨table, va, held, rfl⟩
      intro read member
      rw [reads, List.mem_cons] at member
      rcases member with rfl | member
      · exact here
      · rcases walk_cons found with ⟨stops, -⟩ | ⟨through, found'⟩
        · rw [if_pos stops] at member
          cases member
        · rw [through, if_neg (by decide)] at member
          have there := (Bool.and_eq_true_iff.mp (walk_valid found)).1
          rcases List.isChain_cons_cons.mp chain with ⟨step, chain'⟩
          exact ih chain' (held.lower va step there through) found' read member

theorem mapped_reads {va : BitVec 64} (mapped : Mapped entry cr3 va) {level : PageLevel}
    {a : BitVec 64} (member : (level, a) ∈ reads entry va levels (cr3 &&& tableMask)) :
    IsEntry entry cr3 level a := by
  rcases Option.isSome_iff_exists.mp mapped with ⟨result, found⟩
  rw [leaf] at found
  split at found
  · have chain : List.IsChain (fun upper lower : PageLevel => upper.next = some lower) levels := by
      simp [levels, PageLevel.next]
    exact reads_isEntry chain Table.root found (level, a) member
  · cases found

theorem leaf_isEntry {va : BitVec 64} {level : PageLevel} {a : BitVec 64}
    (found : leaf entry cr3 va = some (level, a)) :
    IsEntry entry cr3 level a ∧ isLeaf level (entry a) = true := by
  rcases leaf_reads found with ⟨read, stops⟩
  exact ⟨mapped_reads read.1 read.2, stops⟩

theorem leaf_flagged {entry' : BitVec 64 → BitVec 64} (apart : TablesApart entry cr3)
    (flags : ∀ level a, IsEntry entry cr3 level a → entry' a = entry a ∨
      entry' a = entry a ||| pat ∧ ∃ va level', leaf entry cr3 va = some (level', a))
    {va : BitVec 64} (mapped : Mapped entry cr3 va) :
    leaf entry' cr3 va = leaf entry cr3 va := by
  rw [leaf, leaf]
  congr 1
  apply walk_congr
  intro level a member
  have held := mapped_reads mapped member
  rcases flags level a held with same | ⟨flagged, va', level', found⟩
  · exact Or.inl same
  · rcases leaf_isEntry found with ⟨held', stops⟩
    rw [apart level' level a held' held] at stops
    rw [flagged]
    exact Or.inr (sameLeaf_pat stops)

end Hierarchy

end PageWalk
