import Flosp.Kernel.Output
import Flosp.Kernel.PatFlag

/-! `get_mem_page` and `set_mem_page_flags` on addresses that are not mapped. -/

namespace Flosp.Kernel

open ByteMemory

section Walk

variable (entry : Addr → BitVec 64) (cr3 addr : BitVec 64)

def pml4Slot : Addr := PageWalk.slot .pml4 (cr3 &&& 0xFFFFFFFFFFFFF000) addr

def pdptSlot : Addr := PageWalk.slot .pdpt (entry (pml4Slot cr3 addr) &&& PageWalk.tableMask) addr

def pdSlot : Addr :=
  PageWalk.slot .pd (entry (pdptSlot entry cr3 addr) &&& PageWalk.tableMask) addr

/-- The entries that `get_mem_page` reads, each with the level that it is read for. -/
def pageReads : List (PageLevel × Addr) :=
  let pdpt := pdptSlot entry cr3 addr
  let pd := pdSlot entry cr3 addr
  [(.pml4, pml4Slot cr3 addr), (.pdpt, pdpt)] ++
    if (entry pdpt).getLsbD 7 = true then []
    else [(.pdpt, pdpt), (.pd, pd)] ++ if (entry pd).getLsbD 7 = true then [] else [(.pd, pd)]

/-- The access of a read entry -/
def entryLoad (read : PageLevel × Addr) : Access 64 Origin := ⟨.pageTable, .load, read.2, 8⟩

theorem getMemPage_log (m : KernelMachine) : (getMemPage cr3 addr m).2.log =
    ((pageReads (entries m.mem) cr3 addr).map entryLoad).reverse ++ m.log := by
  unfold getMemPage pageReads
  simp only [pageSize_iff]
  split
  · next large =>
      have huge : (entries m.mem (pdptSlot (entries m.mem) cr3 addr)).getLsbD 7 = true := large
      rw [if_pos huge]
      rfl
  · next small =>
      have through : ¬ (entries m.mem (pdptSlot (entries m.mem) cr3 addr)).getLsbD 7 = true := small
      rw [if_neg through]
      split
      · next large =>
          have big : (entries m.mem (pdSlot (entries m.mem) cr3 addr)).getLsbD 7 = true := large
          rw [if_pos big]
          rfl
      · next last =>
          have through' : ¬ (entries m.mem (pdSlot (entries m.mem) cr3 addr)).getLsbD 7 = true :=
            last
          rw [if_neg through']
          rfl

/-- After the reads `done` this one is of the PML4, or goes through a present entry of the level
above that refers to a table. -/
def ThroughPresent (done : List (PageLevel × Addr)) (read : PageLevel × Addr) : Prop :=
  read.1 = .pml4 ∨ ∃ upper p, (upper, p) ∈ done ∧ upper.next = some read.1 ∧
    read.2 = PageWalk.slot read.1 (entry p &&& PageWalk.tableMask) addr ∧
    PageWalk.present (entry p) = true ∧ (entry p).getLsbD 7 = false

def ReadsThroughPresent : List (PageLevel × Addr) → List (PageLevel × Addr) → Prop
  | _, [] => True
  | done, read :: rest =>
      ThroughPresent entry addr done read ∧ ReadsThroughPresent (read :: done) rest

/-- The walk meets an entry of the PML4, a PDPT or a PD that is not present. -/
def MeetsMissing : Prop :=
  ∃ level a, (level, a) ∈ pageReads entry cr3 addr ∧ PageWalk.present (entry a) = false

/-- Every entry that the walk reads is present, and that of the PML4 has bit 7 clear. -/
structure PathPresent : Prop where
  pml4 : PageWalk.present (entry (pml4Slot cr3 addr)) = true ∧
    (entry (pml4Slot cr3 addr)).getLsbD 7 = false
  pdpt : PageWalk.present (entry (pdptSlot entry cr3 addr)) = true
  pd : (entry (pdptSlot entry cr3 addr)).getLsbD 7 = false →
    PageWalk.present (entry (pdSlot entry cr3 addr)) = true

end Walk

/-- What `get_mem_page` reads it reads through present entries, and with one of the read entries
not present the call stores nothing but its output. -/
structure NeverFollowsMissing (cr3 addr : BitVec 64) (k k' : Console) : Prop where
  logged : (getMemPage cr3 addr k.machine).2.log =
    ((pageReads (entries k.machine.mem) cr3 addr).map entryLoad).reverse ++ k.machine.log
  reads : ReadsThroughPresent (entries k.machine.mem) addr []
    (pageReads (entries k.machine.mem) cr3 addr)
  writes : MeetsMissing (entries k.machine.mem) cr3 addr →
    AllNew (fun e => e.kind = .store → e.tag ≠ .pageTable) k.machine k'.machine

section Path

variable {entry : Addr → BitVec 64} {cr3 addr : BitVec 64}

theorem mem_pageReads {read : PageLevel × Addr} : read ∈ pageReads entry cr3 addr ↔
    read = (.pml4, pml4Slot cr3 addr) ∨ read = (.pdpt, pdptSlot entry cr3 addr) ∨
      read = (.pd, pdSlot entry cr3 addr) ∧
        (entry (pdptSlot entry cr3 addr)).getLsbD 7 = false := by
  rw [pageReads]
  cases (entry (pdptSlot entry cr3 addr)).getLsbD 7 with
  | true => simp
  | false =>
      cases (entry (pdSlot entry cr3 addr)).getLsbD 7 with
      | true => simp
      | false => simp

theorem not_meetsMissing_iff : ¬ MeetsMissing entry cr3 addr ↔
    PageWalk.present (entry (pml4Slot cr3 addr)) = true ∧
      PageWalk.present (entry (pdptSlot entry cr3 addr)) = true ∧
      ((entry (pdptSlot entry cr3 addr)).getLsbD 7 = false →
        PageWalk.present (entry (pdSlot entry cr3 addr)) = true) := by
  constructor
  · intro whole
    have through (level : PageLevel) (a : Addr) (read : (level, a) ∈ pageReads entry cr3 addr) :
        PageWalk.present (entry a) = true := by
      by_contra missing
      exact whole ⟨level, a, read, Bool.eq_false_iff.mpr missing⟩
    refine ⟨through .pml4 _ (mem_pageReads.mpr (Or.inl rfl)),
      through .pdpt _ (mem_pageReads.mpr (Or.inr (Or.inl rfl))), ?_⟩
    intro small
    exact through .pd _ (mem_pageReads.mpr (Or.inr (Or.inr ⟨rfl, small⟩)))
  · intro present missing
    rcases present with ⟨pml4, pdpt, pd⟩
    rcases missing with ⟨level, a, read, missing⟩
    rcases mem_pageReads.mp read with here | here | ⟨here, small⟩
    · obtain ⟨rfl, rfl⟩ := Prod.mk.inj here
      rw [pml4] at missing
      cases missing
    · obtain ⟨rfl, rfl⟩ := Prod.mk.inj here
      rw [pdpt] at missing
      cases missing
    · obtain ⟨rfl, rfl⟩ := Prod.mk.inj here
      rw [pd small] at missing
      cases missing

theorem throughPresent_iff {done : List (PageLevel × Addr)} {upper level : PageLevel} {p : Addr}
    (below : upper.next = some level) (only : ∀ q, (upper, q) ∈ done ↔ q = p) :
    ThroughPresent entry addr done
        (level, PageWalk.slot level (entry p &&& PageWalk.tableMask) addr) ↔
      PageWalk.present (entry p) = true ∧ (entry p).getLsbD 7 = false := by
  constructor
  · intro through
    rcases through with top | ⟨upper', q, member, above, -, present⟩
    · rw [show level = PageLevel.pml4 from top] at below
      cases upper <;> cases below
    · have same : upper' = upper := by
        have next : upper'.next = upper.next := above.trans below.symm
        revert next below
        cases upper <;> cases upper' <;> simp [PageLevel.next]
      rw [same] at member
      rw [(only q).mp member] at present
      exact present
  · intro present
    exact Or.inr ⟨upper, p, (only p).mpr rfl, below, rfl, present⟩

theorem readsThroughPresent_iff :
    ReadsThroughPresent entry addr [] (pageReads entry cr3 addr) ↔
      (PageWalk.present (entry (pml4Slot cr3 addr)) = true ∧
        (entry (pml4Slot cr3 addr)).getLsbD 7 = false) ∧
      ((entry (pdptSlot entry cr3 addr)).getLsbD 7 = false →
        PageWalk.present (entry (pdptSlot entry cr3 addr)) = true) := by
  let top : PageLevel × Addr := (.pml4, pml4Slot cr3 addr)
  let pdpt : PageLevel × Addr := (.pdpt, pdptSlot entry cr3 addr)
  let pd : PageLevel × Addr := (.pd, pdSlot entry cr3 addr)
  have first : ThroughPresent entry addr [] top := Or.inl rfl
  have second (done : List (PageLevel × Addr)) (only : ∀ q, (.pml4, q) ∈ done ↔ q = top.2) :
      ThroughPresent entry addr done pdpt ↔ _ := throughPresent_iff rfl only
  have third (done : List (PageLevel × Addr)) (only : ∀ q, (.pdpt, q) ∈ done ↔ q = pdpt.2) :
      ThroughPresent entry addr done pd ↔ _ := throughPresent_iff rfl only
  have pdpt₁ := second [top] (by simp [top])
  have pdpt₂ := second [pdpt, top] (by simp [top, pdpt])
  have pd₁ := third [pdpt, pdpt, top] (by simp [top, pdpt])
  have pd₂ := third [pd, pdpt, pdpt, top] (by simp [top, pdpt, pd])
  rw [pageReads]
  cases large : (entry (pdptSlot entry cr3 addr)).getLsbD 7 with
  | true =>
      rw [if_pos rfl]
      change (_ ∧ ThroughPresent entry addr [top] pdpt ∧ True) ↔ _
      rw [and_iff_right first, pdpt₁, and_true]
      exact (and_iff_left (fun small => by cases small)).symm
  | false =>
      have through : ThroughPresent entry addr [pdpt, pdpt, top] pd ↔
          PageWalk.present (entry (pdptSlot entry cr3 addr)) = true :=
        pd₁.trans (and_iff_left large)
      rw [if_neg (by decide), forall_prop_of_true rfl]
      cases (entry (pdSlot entry cr3 addr)).getLsbD 7 with
      | true =>
          rw [if_pos rfl]
          change (_ ∧ ThroughPresent entry addr [top] pdpt ∧
            ThroughPresent entry addr [pdpt, top] pdpt ∧
            ThroughPresent entry addr [pdpt, pdpt, top] pd ∧ True) ↔ _
          rw [and_iff_right first, pdpt₁, pdpt₂, through, and_true, ← and_assoc, and_self]
      | false =>
          rw [if_neg (by decide)]
          change (_ ∧ ThroughPresent entry addr [top] pdpt ∧
            ThroughPresent entry addr [pdpt, top] pdpt ∧
            ThroughPresent entry addr [pdpt, pdpt, top] pd ∧
            ThroughPresent entry addr [pd, pdpt, pdpt, top] pd ∧ True) ↔ _
          have again : ThroughPresent entry addr [pd, pdpt, pdpt, top] pd ↔
              PageWalk.present (entry (pdptSlot entry cr3 addr)) = true :=
            pd₂.trans (and_iff_left large)
          rw [and_iff_right first, pdpt₁, pdpt₂, through, again, and_true, and_self, ← and_assoc,
            and_self]

end Path

section Flags

variable {cr3 addr flags : BitVec 64} {k k' : Console}

theorem setMemPageFlags_stores (returns : setMemPageFlags cr3 addr flags k = .ok k') :
    ¬ AllNew (fun e => e.kind = .store → e.tag ≠ .pageTable) k.machine k'.machine := by
  intro spares
  by_cases reports : k.Reports
  · obtain ⟨k₁, k₂, sets, before, after⟩ := setMemPageFlags_returns cr3 addr flags reports
    cases Except.ok.inj (returns.symm.trans sets)
    let page := (getMemPage cr3 addr k.machine).1
    have loaded := Extends.load k₁.machine .pageTable page 8
    have stored := Extends.store (k₁.machine.load .pageTable page 8).2 .pageTable page (n := 8)
      ((k₁.machine.load .pageTable page 8).1 ||| flags)
    have writes := (AllNew.trans_iff (before.grows.trans (loaded.trans stored)) after.grows).mp spares
    have entry := ((AllNew.trans_iff before.grows (loaded.trans stored)).mp writes.1).2
    exact (AllNew.step_iff rfl).mp ((AllNew.trans_iff loaded stored).mp entry).2 rfl rfl
  · rw [setMemPageFlags_hangs cr3 addr flags reports] at returns
    cases returns

/-- Nowhere is the Present flag tested, so the property depends on the path being there. -/
theorem neverFollowsMissing_iff (returns : setMemPageFlags cr3 addr flags k = .ok k') :
    NeverFollowsMissing cr3 addr k k' ↔ PathPresent (entries k.machine.mem) cr3 addr := by
  constructor
  · intro never
    have meets : ¬ MeetsMissing (entries k.machine.mem) cr3 addr := fun missing =>
      setMemPageFlags_stores returns (never.writes missing)
    rcases not_meetsMissing_iff.mp meets with ⟨-, pdpt, pd⟩
    exact ⟨(readsThroughPresent_iff.mp never.reads).1, pdpt, pd⟩
  · intro path
    refine ⟨getMemPage_log cr3 addr k.machine, ?_, ?_⟩
    · exact readsThroughPresent_iff.mpr ⟨path.pml4, fun _ => path.pdpt⟩
    · intro missing
      exact absurd missing (not_meetsMissing_iff.mpr ⟨path.pml4.1, path.pdpt, path.pd⟩)

end Flags

section Sample

theorem cellConsole_reports (machine : KernelMachine) : (cellConsole machine).Reports :=
  Or.inr ⟨(by decide : 16 * 0 < 2 ^ 16), fun _ => (by decide : 8 < 2 ^ 16)⟩

theorem largePage_path :
    ∃ k', setMemPageFlags 0x100000 0 pflagPat (sampleConsole 0x81) = .ok k' ∧
      (NeverFollowsMissing 0x100000 0 (sampleConsole 0x81) k' ↔
        PathPresent (entries (sampleConsole 0x81).machine.mem) 0x100000 0) := by
  obtain ⟨_, k', returns, _⟩ := setMemPageFlags_returns 0x100000 0 pflagPat
    (cellConsole_reports ⟨entryMemory (sampleEntry 0x81), []⟩)
  exact ⟨k', returns, neverFollowsMissing_iff returns⟩

/-- Every entry leads to page 0x500000 and none is present. -/
def absentConsole : Console := cellConsole ⟨entryMemory fun _ => 0x500000, []⟩

theorem absent_followed :
    ∃ k', setMemPageFlags 0x100000 0 pflagPat absentConsole = .ok k' ∧
      (getMemPage 0x100000 0 absentConsole.machine).1 = 0x500000 ∧
      ¬ NeverFollowsMissing 0x100000 0 absentConsole k' := by
  obtain ⟨_, k', returns, _⟩ := setMemPageFlags_returns 0x100000 0 pflagPat
    (cellConsole_reports ⟨entryMemory fun _ => 0x500000, []⟩)
  refine ⟨k', returns, by decide +kernel, ?_⟩
  intro never
  have present := (readsThroughPresent_iff.mp never.reads).1.1
  revert present
  decide +kernel

end Sample

end Flosp.Kernel
