import Flosp.Kernel.AcpiStage
import Flosp.Kernel.FramebufferFlags

/-! What `initialize_video` and the functions of `cpu/acpi.c` leave as it was, where they come
through. -/

namespace Flosp.Kernel

open ByteMemory

/-- The page tables map the framebuffer, and no console output stores to them. -/
structure PagedScreen (s : Screen) (cr3 : BitVec 64) (mem : Memory 64) : Prop where
  root : cr3 &&& 0xFFF0000000000000 = 0
  apart : PageWalk.TablesApart (entries mem) cr3
  clear : ∀ level a, PageWalk.IsEntry (entries mem) cr3 level a → ∀ x, Within x a 8 → s.Untouched x
  mapped : ∀ j, j < (framebufferBytes s.mode).toNat →
    PageWalk.Mapped (entries mem) cr3 (s.mode.framebufferPointer + BitVec.ofNat 64 j)

/-- `x` is in no buffer of the console, and in no entry that maps the framebuffer. -/
def Spared (s : Screen) (cr3 : BitVec 64) (mem : Memory 64) (x : Addr) : Prop :=
  s.Untouched x ∧ ∀ a, MapsByte (entries mem) cr3 s.mode.framebufferPointer
    (framebufferBytes s.mode).toNat a → ¬ Within x a 8

/-- The console is set up, in a memory that is `mem` where `kept` says. -/
structure Intact (s : Screen) (kept : Addr → Prop) (mem : Memory 64) (k : Console) : Prop where
  on : k.On s
  keeps : ∀ x, kept x → k.machine.mem x = mem x

section Video

variable {s : Screen} {cr3 : BitVec 64} {mem : Memory 64} {k : Console}

theorem setMemPageFlags_kept (paged : PagedScreen s cr3 mem) (on : k.On s) (addr flags : BitVec 64)
    {p : Addr} (found : (getMemPage cr3 addr k.machine).1 = p) (aligned : p.toNat % 8 = 0) :
    ∃ k', setMemPageFlags cr3 addr flags k = .ok k' ∧ k'.On s ∧
      (∀ level a, PageWalk.IsEntry (entries mem) cr3 level a → entries k'.machine.mem a =
        if a = p then entries k.machine.mem a ||| flags else entries k.machine.mem a) ∧
      ∀ x, s.Untouched x → ¬ Within x p 8 → k'.machine.mem x = k.machine.mem x := by
  obtain ⟨k₁, k', sets, before, after⟩ := setMemPageFlags_prints on cr3 addr flags
  rw [found] at after
  refine ⟨k', sets, after.on, ?_, ?_⟩
  · intro level a held
    have untouched := paged.clear level a held
    rw [after.entry_eq untouched, orEntry_entry (PageWalk.isEntry_aligned held) aligned,
      before.entry_eq untouched]
  · intro x untouched outside
    rw [after.mem_eq untouched, ← before.mem_eq untouched]
    exact store_outside outside

/-- By induction on the bytes left: what is written so far are the flags of the bytes before. -/
theorem flagFramebuffer_kept (paged : PagedScreen s cr3 mem) {turns i : Nat}
    (span : i + turns = (framebufferBytes s.mode).toNat) (on : k.On s)
    (flags : FlagsExactly (entries mem) cr3 s.mode.framebufferPointer i k.machine.mem)
    (keeps : ∀ x, Spared s cr3 mem x → k.machine.mem x = mem x) :
    ∃ k', flagFramebuffer cr3 turns (BitVec.ofNat 64 i) k = .ok k' ∧
      Intact s (Spared s cr3 mem) mem k' := by
  induction turns generalizing i k with
  | zero => exact ⟨k, rfl, on, keeps⟩
  | succ turns ih =>
      have here := paged.mapped i (by omega)
      obtain ⟨⟨level, p⟩, found⟩ := Option.isSome_iff_exists.mp here
      have walked := found
      rw [← flags.leaf_eq paged.apart here] at walked
      have aligned := PageWalk.isEntry_aligned (PageWalk.leaf_isEntry found).1
      obtain ⟨mid, sets, on', writes, same⟩ := setMemPageFlags_kept paged on
        (s.mode.framebufferPointer + BitVec.ofNat 64 i) pflagPat
        (getMemPage_leaf paged.root walked) aligned
      have kept : ∀ x, Spared s cr3 mem x → mid.machine.mem x = mem x := by
        intro x spared
        rw [same x spared.1 (spared.2 p ⟨i, by omega, level, found⟩)]
        exact keeps x spared
      obtain ⟨k', rest, holds⟩ := ih (by omega) on' (flags.step found writes) kept
      refine ⟨k', ?_, holds⟩
      rw [BitVec.ofNat_add] at rest
      rw [flagFramebuffer, on.mode]
      exact bind_ok sets rest

theorem initializeVideo_kept {m : KernelMachine} (paged : PagedScreen s cr3 m.mem) :
    ∃ k, initializeVideo cr3 s.mode (Console.loaded m) = .ok k ∧
      Intact s (Spared s cr3 m.mem) m.mem k := by
  have start : FlagsExactly (entries m.mem) cr3 s.mode.framebufferPointer 0 m.mem := by
    constructor
    · rintro a ⟨j, below, -⟩
      omega
    · intro level a held _
      rfl
  obtain ⟨k, flagged, on, kept⟩ := flagFramebuffer_kept paged (Nat.zero_add _) (videoSet_on s m)
    start fun x _ => rfl
  have blank := blankOutput_prints on
  refine ⟨blankOutput k, ?_, blank.on, fun x spared => ?_⟩
  · rw [initializeVideo_eq]
    exact bind_ok flagged rfl
  · exact (blank.mem_eq spared.1).trans (kept x spared)

end Video

/-- Firmware tables with which the functions of `acpi.c` come through, in memory that is kept. -/
structure Supported (kept : Addr → Prop) (mem : Memory 64) (xsdp : Addr) (tables : AcpiTables)
    (lapicAddr : Addr) : Prop extends TablesClear kept mem xsdp where
  report : (acpiReport mem xsdp).2 = some tables
  table : ∀ x, Within x tables.madt (44 * madtLength mem tables.madt + 256) → kept x
  straight : tables.madt.toNat + 44 * madtLength mem tables.madt + 256 ≤ 2 ^ 64
  /-- no override is found in the MADT or behind it -/
  plain : ∀ x, ¬ FirstEntry madtEntryTypeLapicAddressOverride mem tables.madt 0x2C x
  address : lapicAddr = (load mem (tables.madt + lapicAddressOffset) 4).setWidth 64

theorem acpiReport_located {mem : Memory 64} {xsdp : Addr} {tables : AcpiTables}
    (report : (acpiReport mem xsdp).2 = some tables) :
    mem (xsdp + xsdpRevisionOffset) ≠ 0 ∧ byteSum mem xsdp 36 % 256 = 0 ∧
      lookUp mem xsdp "FACP" ≠ 0 ∧ lookUp mem xsdp "APIC" ≠ 0 ∧
      tables = ⟨xsdp, xsdtOf mem xsdp, lookUp mem xsdp "FACP", lookUp mem xsdp "HPET",
        lookUp mem xsdp "APIC"⟩ := by
  unfold acpiReport at report
  split at report
  · cases report
  · next revised =>
      split at report
      · cases report
      · next sums =>
          unfold tablesReport at report
          dsimp only at report
          split at report
          · cases report
          · next fadt =>
              split at report
              · cases report
              · next madt =>
                  exact ⟨revised, not_not.mp sums, fadt, madt, (Option.some.inj report).symm⟩

section Acpi

variable {s : Screen} {kept : Addr → Prop} {mem : Memory 64} {k : Console} {xsdp : Addr}
  {tables : AcpiTables} {lapicAddr : Addr} (untouched : ∀ x, kept x → s.Untouched x)

theorem Intact.load_eq (intact : Intact s kept mem k) {a : Addr} {n : Nat} (small : n ≤ 2 ^ 64)
    (inside : ∀ x, Within x a n → kept x) : load k.machine.mem a n = load mem a n :=
  load_congr_within small fun x within => intact.keeps x (inside x within)

theorem Intact.loads (intact : Intact s kept mem k) {machine : KernelMachine}
    (loads : Loads k.machine machine) : Intact s kept mem { k with machine } :=
  ⟨(Prints.of_loads intact.on loads).on,
    fun x inside => (congrFun loads.mem_eq x).trans (intact.keeps x inside)⟩

include untouched

theorem Intact.prints (intact : Intact s kept mem k) {k' : Console} (prints : Prints s k k') :
    Intact s kept mem k' :=
  ⟨prints.on, fun x inside => (prints.mem_eq (untouched x inside)).trans (intact.keeps x inside)⟩

theorem Intact.log (intact : Intact s kept mem k) (filter : BitVec 8) (msg : String) :
    ∃ k', kernLog filter msg k = .ok k' ∧ Intact s kept mem k' := by
  obtain ⟨k', logs, prints⟩ := kernLog_prints intact.on filter msg
  exact ⟨k', logs, intact.prints untouched prints⟩

theorem acpiVcheck_kept (supported : Supported kept mem xsdp tables lapicAddr)
    (intact : Intact s kept mem k) :
    ∃ k', acpiVcheck xsdp k = .ok k' ∧ Intact s kept mem k' := by
  have revised := (acpiReport_located supported.report).1
  have revision : (k.machine.load .acpi (xsdp + xsdpRevisionOffset) 1).1 =
      mem (xsdp + xsdpRevisionOffset) := by
    rw [Machine.load_fst, load_one]
    exact intact.keeps _ (supported.root _ (within_offset (by decide) (by decide)))
  have loaded := intact.loads (Loads.load k.machine .acpi (xsdp + xsdpRevisionOffset) 1)
  unfold acpiVcheck
  dsimp only
  rw [revision, if_neg revised]
  exact loaded.log untouched filterDebug _

theorem acpiCcheck_kept (supported : Supported kept mem xsdp tables lapicAddr)
    (intact : Intact s kept mem k) :
    ∃ k', acpiCcheck xsdp k = .ok k' ∧ Intact s kept mem k' := by
  have same : byteSum k.machine.mem xsdp 36 = byteSum mem xsdp 36 :=
    byteSum_congr (by decide) fun x inside => intact.keeps x (supported.root x inside)
  have zero : byteSum k.machine.mem xsdp 36 % 256 = 0 := by
    rw [same]
    exact (acpiReport_located supported.report).2.1
  obtain ⟨machine, loads, passes⟩ := acpiCcheck_passes zero
  rw [passes]
  exact (intact.loads loads).log untouched filterDebug _

omit untouched in
/-- The MADT as the firmware wrote it has no override for the kernel to find. -/
theorem Supported.plain_kept (supported : Supported kept mem xsdp tables lapicAddr)
    {mem' : Memory 64} (keeps : ∀ x, kept x → mem' x = mem x) :
    madtLength mem' tables.madt = madtLength mem tables.madt ∧
      (∀ x, ¬ FirstEntry madtEntryTypeLapicAddressOverride mem' tables.madt 0x2C x) ∧
      load mem' (tables.madt + lapicAddressOffset) 4 =
        load mem (tables.madt + lapicAddressOffset) 4 := by
  have straight := supported.straight
  have byte (i : Nat) (inside : i < 44 * madtLength mem tables.madt + 256) :
      mem' (tables.madt + BitVec.ofNat 64 i) = mem (tables.madt + BitVec.ofNat 64 i) :=
    keeps _ (supported.table _ (within_offset inside (by omega)))
  have field (o n : Nat) (near : o + n ≤ 256) :
      load mem' (tables.madt + BitVec.ofNat 64 o) n =
        load mem (tables.madt + BitVec.ofNat 64 o) n := by
    apply load_congr
    intro i inside
    rw [offset_add]
    exact byte (o + i) (by omega)
  have length : madtLength mem' tables.madt = madtLength mem tables.madt :=
    congrArg BitVec.toNat (field 4 4 (by decide))
  refine ⟨length, fun x first => supported.plain x ?_, field 36 4 (by decide)⟩
  rw [FirstEntry, length] at first
  apply first.congr
  intro o inside
  exact ⟨(byte o (by omega)).symm, congrArg BitVec.toNat (byte (o + 1) (by omega)).symm⟩

theorem acpiInit_kept (supported : Supported kept mem xsdp tables lapicAddr) {a : Acpi}
    (intact : Intact s kept mem a.console) :
    ∃ a', acpiInit xsdp a = .ok a' ∧ Intact s kept mem a'.console ∧ a'.acpiTables = tables ∧
      getLapicAddressAcpi a' = lapicAddr := by
  obtain ⟨-, -, fadt, madt, rfl⟩ := acpiReport_located supported.report
  have xsdt : xsdtOf a.machine.mem xsdp = xsdtOf mem xsdp :=
    intact.load_eq (by decide) fun x inside => supported.root x (root_inside inside)
  have length : load a.machine.mem (xsdtOf mem xsdp + lengthOffset) 4 =
      load mem (xsdtOf mem xsdp + lengthOffset) 4 :=
    intact.load_eq (n := 4) (by decide) supported.length
  have count : listedCount a.machine.mem xsdp = listedCount mem xsdp := by
    rw [listedCount, listedCount, xsdt, length]
  obtain ⟨b, locates, located, same⟩ := locateTables_found supported.toListedClear untouched
    intact.on intact.keeps xsdt count fadt madt
  have place : b.acpiTables.madt = lookUp mem xsdp "APIC" := congrArg AcpiTables.madt same
  obtain ⟨length', plain, address⟩ := supported.plain_kept located.keeps
  dsimp only at length' plain address
  obtain ⟨a', saves, ⟨machine, loads, drawn, tables⟩, -, missing⟩ :=
    saveLapicAddress_spec (place ▸ madt) (by rw [place, length']; exact supported.straight)
  rw [place, address] at missing
  refine ⟨a', acpiInit_ok locates saves, ?_, tables.trans same, ?_⟩
  · rw [drawn]
    exact Intact.loads ⟨located.on, located.keeps⟩ loads
  · rw [missing plain]
    exact supported.address.symm

end Acpi

end Flosp.Kernel
