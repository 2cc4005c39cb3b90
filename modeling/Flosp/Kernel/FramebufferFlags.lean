import Flosp.Kernel.Bounds
import Flosp.Kernel.Flush
import Flosp.Kernel.MissingTable
import Flosp.Kernel.ReportReach

/-! The loop of `initialize_video` that sets the PAT flag for every byte of the framebuffer. -/

namespace Flosp.Kernel

open ByteMemory

/-- `a` is the entry that maps one of the `n` bytes from `base` on. -/
def MapsByte (entry : Addr → BitVec 64) (cr3 base : BitVec 64) (n : Nat) (a : Addr) : Prop :=
  ∃ j, j < n ∧ ∃ level, PageWalk.leaf entry cr3 (base + BitVec.ofNat 64 j) = some (level, a)

/-- In memory the entries that map the `n` bytes have the flag, and all others are as in
`entry`. -/
structure FlagsExactly (entry : Addr → BitVec 64) (cr3 base : BitVec 64) (n : Nat)
    (mem : Memory 64) : Prop where
  flagged : ∀ a, MapsByte entry cr3 base n a → entries mem a = entry a ||| pflagPat
  kept : ∀ level a, PageWalk.IsEntry entry cr3 level a → ¬ MapsByte entry cr3 base n a →
    entries mem a = entry a

/-- The console output between `m` and `m'` touches no page table. -/
def SparesTables (entry : Addr → BitVec 64) (cr3 : BitVec 64) (m m' : KernelMachine) : Prop :=
  AllNew (fun e => e.kind = .store → e.tag ≠ .pageTable →
    ∀ level a, PageWalk.IsEntry entry cr3 level a → ∀ x, Within x a 8 → ¬ Within x e.addr e.len)
    m m'

section Step

variable {entry : Addr → BitVec 64} {cr3 base : BitVec 64} {k k' : Console}

theorem Outputs.entry_eq (outputs : Outputs k k')
    (spares : SparesTables entry cr3 k.machine k'.machine) {level : PageLevel} {a : Addr}
    (held : PageWalk.IsEntry entry cr3 level a) :
    entries k'.machine.mem a = entries k.machine.mem a := by
  apply load_congr_within (by decide)
  intro x inside
  apply AllNew.mem_eq outputs.grows
  apply outputs.spares.mono₂ spares
  intro e other avoids store
  exact avoids store (other store) level a held x inside

theorem orEntry_grows (page flags : BitVec 64) (k : Console) :
    Extends k.machine (orEntry page flags k).machine :=
  (Extends.load k.machine .pageTable page 8).trans (Extends.store ..)

theorem setMemPageFlags_turn (reports : k.Reports) (cr3 addr flags : BitVec 64) :
    ∃ k', setMemPageFlags cr3 addr flags k = .ok k' ∧ k'.Reports ∧
      k'.videoModeInfo = k.videoModeInfo ∧ Extends k.machine k'.machine ∧
      ∀ entry page, (getMemPage cr3 addr k.machine).1 = page → page.toNat % 8 = 0 →
        SparesTables entry cr3 k.machine k'.machine →
          ∀ level a, PageWalk.IsEntry entry cr3 level a → entries k'.machine.mem a =
            if a = page then entries k.machine.mem a ||| flags else entries k.machine.mem a := by
  obtain ⟨k₁, k', sets, before, after⟩ := setMemPageFlags_returns cr3 addr flags reports
  have writes := orEntry_grows (getMemPage cr3 addr k.machine).1 flags k₁
  refine ⟨k', sets, ?_, after.mode.trans before.mode,
    before.grows.trans (writes.trans after.grows), ?_⟩
  · rw [Console.Reports, after.scrolls_iff, after.last]
    change 5 ≤ k₁.maxTextLine.toNat ∨ k₁.Scrolls
    rw [before.scrolls_iff, before.last]
    exact reports
  · intro entry page found aligned spares level a held
    have early := (AllNew.trans_iff before.grows (writes.trans after.grows)).mp spares
    have late := (AllNew.trans_iff writes after.grows).mp early.2
    rw [after.entry_eq late.2 held, found,
      orEntry_entry (PageWalk.isEntry_aligned held) aligned, before.entry_eq early.1 held]

theorem mapsByte_isEntry {n : Nat} {a : Addr} (maps : MapsByte entry cr3 base n a) :
    ∃ level, PageWalk.IsEntry entry cr3 level a := by
  rcases maps with ⟨j, -, level, found⟩
  exact ⟨level, (PageWalk.leaf_isEntry found).1⟩

theorem mapsByte_succ {n : Nat} {level : PageLevel} {p a : Addr}
    (found : PageWalk.leaf entry cr3 (base + BitVec.ofNat 64 n) = some (level, p)) :
    MapsByte entry cr3 base (n + 1) a ↔ MapsByte entry cr3 base n a ∨ a = p := by
  constructor
  · intro maps
    rcases maps with ⟨j, below, level', found'⟩
    rcases Nat.lt_succ_iff_lt_or_eq.mp below with earlier | rfl
    · exact Or.inl ⟨j, earlier, level', found'⟩
    · rw [found] at found'
      exact Or.inr (Prod.mk.inj (Option.some.inj found')).2.symm
  · intro either
    rcases either with ⟨j, below, rest⟩ | rfl
    · exact ⟨j, Nat.lt_succ_of_lt below, rest⟩
    · exact ⟨n, Nat.lt_succ_self n, level, found⟩

theorem FlagsExactly.leaf_eq {n : Nat} {mem : Memory 64} (flags : FlagsExactly entry cr3 base n mem)
    (apart : PageWalk.TablesApart entry cr3) {va : BitVec 64}
    (mapped : PageWalk.Mapped entry cr3 va) :
    PageWalk.leaf (entries mem) cr3 va = PageWalk.leaf entry cr3 va := by
  apply PageWalk.leaf_flagged apart _ mapped
  intro level a held
  by_cases maps : MapsByte entry cr3 base n a
  · obtain ⟨j, -, level', found⟩ := id maps
    exact Or.inr ⟨flags.flagged a maps, _, level', found⟩
  · exact Or.inl (flags.kept level a held maps)

theorem FlagsExactly.step {n : Nat} {mem mem' : Memory 64} {level : PageLevel} {p : Addr}
    (flags : FlagsExactly entry cr3 base n mem)
    (found : PageWalk.leaf entry cr3 (base + BitVec.ofNat 64 n) = some (level, p))
    (writes : ∀ level a, PageWalk.IsEntry entry cr3 level a → entries mem' a =
      if a = p then entries mem a ||| pflagPat else entries mem a) :
    FlagsExactly entry cr3 base (n + 1) mem' := by
  constructor
  · intro a maps
    rcases mapsByte_isEntry maps with ⟨level', held⟩
    rw [writes level' a held]
    by_cases earlier : MapsByte entry cr3 base n a
    · rw [flags.flagged a earlier, BitVec.or_assoc, BitVec.or_self]
      exact ite_self _
    · have target : a = p := ((mapsByte_succ found).mp maps).resolve_left earlier
      rw [if_pos target, flags.kept level' a held earlier]
  · intro level' a held outside
    rcases not_or.mp (mt (mapsByte_succ found).mpr outside) with ⟨earlier, other⟩
    rw [writes level' a held, if_neg other, flags.kept level' a held earlier]

end Step

section Loop

variable {entry : Addr → BitVec 64} {cr3 base : BitVec 64}

theorem flagFramebuffer_returns (cr3 : BitVec 64) (turns : Nat) (i : BitVec 64) {k : Console}
    (reports : k.Reports) :
    ∃ k', flagFramebuffer cr3 turns i k = .ok k' ∧ Extends k.machine k'.machine := by
  induction turns generalizing i k with
  | zero => exact ⟨k, rfl, Extends.refl k.machine⟩
  | succ turns ih =>
      obtain ⟨mid, sets, reports', -, grows, -⟩ := setMemPageFlags_turn reports cr3
        (k.videoModeInfo.framebufferPointer + i) pflagPat
      obtain ⟨k', flags, grows'⟩ := ih (i + 1) reports'
      exact ⟨k', bind_ok sets flags, grows.trans grows'⟩

/-- The loop never ends if its first turn cannot scroll. -/
theorem flagFramebuffer_hangs (cr3 : BitVec 64) {turns : Nat} (some : turns ≠ 0) (i : BitVec 64)
    {k : Console} (hangs : ¬ k.Reports) : flagFramebuffer cr3 turns i k = .error .endless := by
  cases turns with
  | zero => exact absurd rfl some
  | succ turns =>
      rw [flagFramebuffer, setMemPageFlags_hangs _ _ _ hangs]
      rfl

/-- The run of the loop, by induction on the bytes left. -/
theorem flagFramebuffer_flags (root : cr3 &&& 0xFFF0000000000000 = 0)
    (apart : PageWalk.TablesApart entry cr3) {n : Nat}
    (mapped : ∀ j, j < n → PageWalk.Mapped entry cr3 (base + BitVec.ofNat 64 j))
    {turns i : Nat} (span : i + turns = n) {k k' : Console} (reports : k.Reports)
    (mode : k.videoModeInfo.framebufferPointer = base)
    (flags : FlagsExactly entry cr3 base i k.machine.mem)
    (returns : flagFramebuffer cr3 turns (BitVec.ofNat 64 i) k = .ok k')
    (spares : SparesTables entry cr3 k.machine k'.machine) :
    FlagsExactly entry cr3 base n k'.machine.mem := by
  induction turns generalizing i k with
  | zero =>
      cases returns
      rw [← span]
      exact flags
  | succ turns ih =>
      obtain ⟨mid, sets, reports', kept, grows, writes⟩ := setMemPageFlags_turn reports cr3
        (k.videoModeInfo.framebufferPointer + BitVec.ofNat 64 i) pflagPat
      have rest : flagFramebuffer cr3 turns (BitVec.ofNat 64 (i + 1)) mid = .ok k' := by
        rw [flagFramebuffer, sets] at returns
        rw [BitVec.ofNat_add]
        exact returns
      obtain ⟨k'', returns', grows'⟩ := flagFramebuffer_returns cr3 turns
        (BitVec.ofNat 64 (i + 1)) reports'
      cases Except.ok.inj (rest.symm.trans returns')
      rcases (AllNew.trans_iff grows grows').mp spares with ⟨now, later⟩
      have here := mapped i (by omega)
      rcases Option.isSome_iff_exists.mp here with ⟨⟨level, p⟩, found⟩
      have walked := found
      rw [← flags.leaf_eq apart here, ← mode] at walked
      have aligned := PageWalk.isEntry_aligned (PageWalk.leaf_isEntry found).1
      exact ih (by omega) reports' (by rw [kept, mode])
        (flags.step found (writes entry p (getMemPage_leaf root walked) aligned now)) rest later

end Loop

section Initialize

variable {vmi : BootVideoModeInfo} {m : KernelMachine}

/-- The output of a turn fits above the last text line, or `kscroll_down` reaches the end of a
row of pixels. -/
theorem videoSet_reports_iff
    (small : vmi.pixelsPerScanline.toNat * vmi.verticalResolution.toNat * 4 < 2 ^ 32) :
    (videoSet vmi (Console.loaded m)).Reports ↔ vmi.pixelsPerScanline.toNat < 2 ^ 16 ∨
      vmi.verticalResolution.toNat < 16 ∨ 96 ≤ vmi.verticalResolution.toNat := by
  have last : (videoSet vmi (Console.loaded m)).maxTextLine.toNat =
      (2 ^ 32 - 1 + vmi.verticalResolution.toNat / 16) % 2 ^ 32 % 2 ^ 16 := lastTextLine_toNat vmi
  have scrolls : (videoSet vmi (Console.loaded m)).Scrolls ↔
      16 * (videoSet vmi (Console.loaded m)).maxTextLine.toNat < 2 ^ 16 ∧
        vmi.pixelsPerScanline.toNat < 2 ^ 16 :=
    and_congr Iff.rfl (forall_prop_of_true (by decide : 0 < 16))
  have height := vmi.verticalResolution.isLt
  rw [Console.Reports, scrolls, last]
  rcases Nat.lt_or_ge vmi.pixelsPerScanline.toNat (2 ^ 16) with narrow | wide
  · omega
  · have short : vmi.verticalResolution.toNat < 2 ^ 14 := by
      by_contra tall
      have product : 2 ^ 16 * 2 ^ 14 ≤
          vmi.pixelsPerScanline.toNat * vmi.verticalResolution.toNat :=
        Nat.mul_le_mul wide (Nat.not_lt.mp tall)
      omega
    omega

/-- The page tables are well formed, lie where no output of the screen is drawn or flushed to,
and map every byte of the framebuffer. -/
structure MapsFramebuffer (cr3 : BitVec 64) (vmi : BootVideoModeInfo) (mem : Memory 64) : Prop where
  root : cr3 &&& 0xFFF0000000000000 = 0
  apart : PageWalk.TablesApart (entries mem) cr3
  clear : ∀ level a, PageWalk.IsEntry (entries mem) cr3 level a →
    ∀ x, Within x a 8 → ¬ ReportReach vmi x
  mapped : ∀ j, j < vmi.pixelsPerScanline.toNat * vmi.verticalResolution.toNat * 4 →
    PageWalk.Mapped (entries mem) cr3 (vmi.framebufferPointer + BitVec.ofNat 64 j)

theorem videoSet_reportAt : ReportAt vmi 0 0 (videoSet vmi (Console.loaded m)) :=
  ⟨rfl, rfl, rfl, rfl, rfl, Nat.zero_le _, Nat.zero_le _⟩

theorem flagFramebuffer_spares {cr3 : BitVec 64} {k' : Console}
    (small : vmi.pixelsPerScanline.toNat * vmi.verticalResolution.toNat * 4 < 2 ^ 32)
    (maps : MapsFramebuffer cr3 vmi m.mem)
    (returns : flagFramebuffer cr3
      (vmi.pixelsPerScanline.toNat * vmi.verticalResolution.toNat * 4) 0
      (videoSet vmi (Console.loaded m)) = .ok k') :
    SparesTables (entries m.mem) cr3 m k'.machine := by
  by_cases screen : 0 < vmi.pixelsPerScanline.toNat * vmi.verticalResolution.toNat
  · have writes := flagFramebuffer_writes small screen cr3
      (vmi.pixelsPerScanline.toNat * vmi.verticalResolution.toNat * 4) 0
      (videoSet_reportAt (m := m)) k' returns
    apply writes.2.2.mono
    intro e access stored other level a held x inside within
    exact maps.clear level a held x inside (access stored other x within)
  · rw [Nat.eq_zero_of_not_pos screen] at returns
    cases returns
    exact AllNew.refl _ _

/-- The loop comes to its end, with the flag in exactly the entries of the framebuffer, unless
the screen is wider than `kscroll_down` can count and has few text lines. -/
theorem flagFramebuffer_flags_iff {cr3 : BitVec 64}
    (small : vmi.pixelsPerScanline.toNat * vmi.verticalResolution.toNat * 4 < 2 ^ 32)
    (maps : MapsFramebuffer cr3 vmi m.mem) :
    (∃ k', flagFramebuffer cr3 (framebufferBytes vmi).toNat 0
        (videoSet vmi (Console.loaded m)) = .ok k' ∧
      FlagsExactly (entries m.mem) cr3 vmi.framebufferPointer
        (vmi.pixelsPerScanline.toNat * vmi.verticalResolution.toNat * 4) k'.machine.mem) ↔
    vmi.pixelsPerScanline.toNat < 2 ^ 16 ∨
      vmi.verticalResolution.toNat < 16 ∨ 96 ≤ vmi.verticalResolution.toNat := by
  have bytes : (framebufferBytes vmi).toNat =
      vmi.pixelsPerScanline.toNat * vmi.verticalResolution.toNat * 4 := by
    rw [framebufferBytes, product_toNat, Nat.mod_eq_of_lt small]
  rw [← videoSet_reports_iff (m := m) small, bytes]
  constructor
  · intro ends
    rcases ends with ⟨k', returns, -⟩
    by_contra hangs
    have wide := mt (videoSet_reports_iff (m := m) small).mpr hangs
    have turns : vmi.pixelsPerScanline.toNat * vmi.verticalResolution.toNat * 4 ≠ 0 := by
      have width : vmi.pixelsPerScanline.toNat ≠ 0 := by omega
      have height : vmi.verticalResolution.toNat ≠ 0 := by omega
      exact Nat.mul_ne_zero (Nat.mul_ne_zero width height) (by decide)
    rw [flagFramebuffer_hangs cr3 turns 0 hangs] at returns
    cases returns
  · intro reports
    obtain ⟨k', returns, -⟩ := flagFramebuffer_returns cr3
      (vmi.pixelsPerScanline.toNat * vmi.verticalResolution.toNat * 4) 0 reports
    have start : FlagsExactly (entries m.mem) cr3 vmi.framebufferPointer 0 m.mem := by
      constructor
      · intro a none
        rcases none with ⟨j, below, -⟩
        omega
      · intro level a held _
        rfl
    refine ⟨k', returns, ?_⟩
    exact flagFramebuffer_flags maps.root maps.apart maps.mapped (Nat.zero_add _) reports rfl start
      returns (flagFramebuffer_spares small maps returns)

end Initialize

/-! Two tables below both buffers, by which the lowest 512 GiB are mapped to themselves. -/

section Sample

def identityTable : PageLevel → BitVec 64
  | .pml4 => 0x100000
  | _ => 0x101000

/-- Behind the first entry of the root is a table of pages of 1 GiB. -/
def identityEntry (a : Addr) : BitVec 64 :=
  if a >>> 12 = 0x101 then (a &&& 0xFFF) <<< 27 ||| 0x81
  else if a = 0x100000 then 0x101001
  else 0

def identityMemory : Memory 64 := entryMemory identityEntry

def IdentityTables (mem : Memory 64) : Prop :=
  ∀ level va, entries mem (PageWalk.slot level (identityTable level) va) =
    identityEntry (PageWalk.slot level (identityTable level) va)

theorem identityTable_aligned (level : PageLevel) : (identityTable level).toNat % 4096 = 0 := by
  cases level <;> decide

theorem identity_tables : IdentityTables identityMemory := by
  intro level va
  apply entries_entryMemory
  rcases PageWalk.slot_toNat level va (identityTable_aligned level) with ⟨i, -, place⟩
  have aligned := identityTable_aligned level
  omega

theorem identity_root (va : BitVec 64) :
    identityEntry (PageWalk.slot .pml4 0x100000 va) =
      if PageWalk.slot .pml4 0x100000 va = 0x100000 then 0x101001 else 0 := by
  rw [identityEntry, PageWalk.slot_page (by decide), if_neg (by decide)]

/-- Every entry of the lower table maps a page. -/
theorem identity_leaf (va : BitVec 64) :
    PageWalk.isLeaf .pdpt (identityEntry (PageWalk.slot .pdpt 0x101000 va)) = true ∧
      PageWalk.valid .pdpt (identityEntry (PageWalk.slot .pdpt 0x101000 va)) = true := by
  have every : ∀ i : Fin 512,
      PageWalk.isLeaf .pdpt (identityEntry (BitVec.ofNat 64 (0x101000 + 8 * i.val))) = true ∧
        PageWalk.valid .pdpt (identityEntry (BitVec.ofNat 64 (0x101000 + 8 * i.val))) = true := by
    decide +kernel
  rcases PageWalk.slot_toNat .pdpt va (show (0x101000 : BitVec 64).toNat % 4096 = 0 by decide) with
    ⟨i, bound, place⟩
  have slot : PageWalk.slot .pdpt 0x101000 va = BitVec.ofNat 64 (0x101000 + 8 * i) := by
    apply BitVec.eq_of_toNat_eq
    rw [place, BitVec.toNat_ofNat]
    change 0x101000 + 8 * i = _
    omega
  rw [slot]
  exact every ⟨i, bound⟩

theorem canonical_low {va : BitVec 64} (low : va.toNat < 2 ^ 47) :
    PageWalk.canonical va = true := by
  have positive : (va.setWidth 48).msb = false := by
    rw [BitVec.msb_eq_false_iff_two_mul_lt, BitVec.toNat_setWidth]
    omega
  rw [PageWalk.canonical, BitVec.signExtend_eq_setWidth_of_msb_false positive, beq_iff_eq]
  apply BitVec.eq_of_toNat_eq
  rw [BitVec.toNat_setWidth, BitVec.toNat_setWidth]
  omega

section Tables

variable {mem : Memory 64} (tables : IdentityTables mem)

include tables

theorem identity_table {level : PageLevel} {table : BitVec 64}
    (held : PageWalk.Table (entries mem) 0x100000 level table) :
    table = identityTable level ∧ (level = .pml4 ∨ level = .pdpt) := by
  induction held with
  | root => decide
  | @lower level next table va upper step there through ih =>
      rcases ih with ⟨rfl, rfl | rfl⟩
      · cases step
        rw [tables .pml4 va] at there ⊢
        change PageWalk.present (identityEntry (PageWalk.slot .pml4 0x100000 va)) = true at there
        change identityEntry (PageWalk.slot .pml4 0x100000 va) &&& _ = _ ∧ _
        rw [identity_root] at there ⊢
        split at there
        · next first =>
            rw [if_pos first]
            decide
        · cases there
      · rw [tables .pdpt va] at through
        exact absurd ((identity_leaf va).1.symm.trans through) (by decide)

theorem identity_isEntry {level : PageLevel} {a : Addr}
    (held : PageWalk.IsEntry (entries mem) 0x100000 level a) :
    a >>> 12 = identityTable level >>> 12 ∧ (level = .pml4 ∨ level = .pdpt) := by
  rcases held with ⟨table, va, held, rfl⟩
  rw [PageWalk.slot_page (PageWalk.table_aligned held)]
  rcases identity_table tables held with ⟨rfl, upper⟩
  exact ⟨rfl, upper⟩

theorem identity_apart : PageWalk.TablesApart (entries mem) 0x100000 := by
  intro level level' a held held'
  rcases identity_isEntry tables held with ⟨page, upper⟩
  rcases identity_isEntry tables held' with ⟨page', upper'⟩
  have pages := page.symm.trans page'
  rcases upper with rfl | rfl <;> rcases upper' with rfl | rfl
  · rfl
  · exact absurd pages (by decide)
  · exact absurd pages (by decide)
  · rfl

theorem identity_mapped {va : BitVec 64} (low : va.toNat < 2 ^ 39) :
    PageWalk.Mapped (entries mem) 0x100000 va := by
  have root : (0x100000 : BitVec 64) &&& PageWalk.tableMask = identityTable .pml4 := by decide
  have first : PageWalk.slot .pml4 (identityTable .pml4) va = 0x100000 := by
    have index : va >>> 39 = 0 := by
      apply BitVec.eq_of_toNat_eq
      rw [BitVec.toNat_ushiftRight, Nat.shiftRight_eq_div_pow, Nat.div_eq_of_lt low]
      rfl
    rw [PageWalk.slot, PageLevel.shift, index]
    decide
  have upper : entries mem (PageWalk.slot .pml4 (identityTable .pml4) va) = 0x101001 := by
    rw [tables .pml4 va, first]
    decide
  have table : (0x101001 : BitVec 64) &&& PageWalk.tableMask = identityTable .pdpt := by decide
  have lower := tables .pdpt va
  have leaf := identity_leaf va
  rw [PageWalk.Mapped, PageWalk.leaf, if_pos (canonical_low (by omega)), root, PageWalk.levels,
    PageWalk.walk, upper, if_neg (by decide), if_neg (by decide), table, PageWalk.walk, lower]
  change (if (!PageWalk.valid .pdpt (identityEntry (PageWalk.slot .pdpt 0x101000 va))) = true
    then none else if PageWalk.isLeaf .pdpt (identityEntry (PageWalk.slot .pdpt 0x101000 va)) = true
      then some _ else _).isSome = true
  rw [leaf.2, leaf.1]
  rfl

theorem identity_below {level : PageLevel} {a x : Addr}
    (held : PageWalk.IsEntry (entries mem) 0x100000 level a)
    (inside : Within x a 8) : 0x100000 ≤ x.toNat ∧ x.toNat < 0x102000 := by
  rcases identity_isEntry tables held with ⟨page, upper⟩
  have aligned := PageWalk.isEntry_aligned held
  have place := congrArg BitVec.toNat page
  have pages : 0x100 ≤ a.toNat / 4096 ∧ a.toNat / 4096 ≤ 0x101 := by
    rw [BitVec.toNat_ushiftRight, Nat.shiftRight_eq_div_pow] at place
    rw [show 4096 = 2 ^ 12 from rfl, place]
    rcases upper with rfl | rfl
    · decide
    · decide
  rw [within_iff_toNat (by omega)] at inside
  omega

end Tables

theorem identity_maps (vmi : BootVideoModeInfo)
    (low : vmi.framebufferPointer.toNat + vmi.pixelsPerScanline.toNat *
      vmi.verticalResolution.toNat * 4 ≤ 2 ^ 39)
    (clear : ∀ x : Addr, 0x100000 ≤ x.toNat → x.toNat < 0x102000 → ¬ ReportReach vmi x) :
    MapsFramebuffer 0x100000 vmi identityMemory where
  root := by decide
  apart := identity_apart identity_tables
  clear := by
    intro level a held x inside
    rcases identity_below identity_tables held inside with ⟨above, below⟩
    exact clear x above below
  mapped := by
    intro j below
    apply identity_mapped identity_tables
    rw [BitVec.toNat_add, BitVec.toNat_ofNat]
    omega

theorem cellScreen_flags :
    (∃ k', flagFramebuffer 0x100000 (framebufferBytes cellScreen.mode).toNat 0
        (videoSet cellScreen.mode (Console.loaded ⟨identityMemory, []⟩)) = .ok k' ∧
      FlagsExactly (entries identityMemory) 0x100000 0x2000 512
        k'.machine.mem) ↔ (8 < 2 ^ 16 ∨ 16 < 16 ∨ 96 ≤ 16) := by
  apply flagFramebuffer_flags_iff (by decide)
  apply identity_maps cellScreen.mode (by decide)
  intro x above _ reach
  rcases reach.2 with drawn | flushed
  · rw [within_iff_toNat (by decide)] at drawn
    change _ ∧ _ < 0x1000 + 4 * 389 at drawn
    omega
  · rw [within_iff_toNat (by decide)] at flushed
    change _ ∧ _ < 0x2000 + 256 at flushed
    omega

/-- One text line of 65536 pixels a row, both buffers far above the tables. -/
def wideMode : BootVideoModeInfo := ⟨0x20000000, 0x10000000, 65536, 16, 65536⟩

theorem wideMode_clear {x : Addr} (below : x.toNat < 0x102000) : ¬ ReportReach wideMode x := by
  intro reach
  rcases reach.2 with drawn | flushed
  · rw [within_iff_toNat (by decide)] at drawn
    change 0x10000000 ≤ _ ∧ _ at drawn
    omega
  · rw [within_iff_toNat (by decide)] at flushed
    change 0x20000000 ≤ _ ∧ _ at flushed
    omega

theorem wideMode_never_ends :
    65536 * 16 * 4 < 2 ^ 32 ∧
      MapsFramebuffer 0x100000 wideMode identityMemory ∧
      ¬ ∃ k', flagFramebuffer 0x100000 (framebufferBytes wideMode).toNat 0
          (videoSet wideMode (Console.loaded ⟨identityMemory, []⟩)) = .ok k' ∧
        FlagsExactly (entries identityMemory) 0x100000 0x20000000
          (65536 * 16 * 4) k'.machine.mem := by
  refine ⟨by decide, identity_maps wideMode (by decide) fun _ _ below => wideMode_clear below, ?_⟩
  intro ends
  rcases ends with ⟨k', returns, -⟩
  have hangs : ¬ (videoSet wideMode (Console.loaded ⟨identityMemory, []⟩)).Reports := by
    rw [videoSet_reports_iff (by decide)]
    decide
  rw [flagFramebuffer_hangs 0x100000 (by decide) 0 hangs] at returns
  cases returns

end Sample

end Flosp.Kernel
