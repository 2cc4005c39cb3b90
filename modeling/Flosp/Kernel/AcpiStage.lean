import Flosp.Kernel.Checksum
import Flosp.Kernel.Lapic
import Flosp.Kernel.Sysprompt

/-! What `main` does with the root pointer (`cpu/acpi.c`), and what it shows of that. -/

namespace Flosp.Kernel

open ByteMemory

/-- `&table->revision` of the root pointer -/
def xsdpRevisionOffset : Addr := 15

def acpiVcheck (xsdpTable : Addr) (k : Console) : Outcome Console := do
  let (revision, machine) := k.machine.load .acpi (xsdpTable + xsdpRevisionOffset) 1
  let k := { k with machine }
  if revision = 0 then
    let k ← kernLog filterCritical "Fatal: ACPI version 1.0 is not supported" k
    cpuFreeze k
  kernLog filterDebug "Debug: ACPI version supported" k

/-- The calls of `main` from "ACPI version check" to "ACPI Init". -/
def setUpAcpi (xsdpTable : Addr) (a : Acpi) : Outcome Acpi := do
  let console ← acpiVcheck xsdpTable a.console
  let console ← acpiCcheck xsdpTable console
  acpiInit xsdpTable { a with console }

/-! What is reported. -/

/-- The lines that `acpi_init` logs, and the tables if the CPU does not freeze. -/
def tablesReport (mem : Memory 64) (xsdp : Addr) : List String × Option AcpiTables :=
  let fadt := lookUp mem xsdp "FACP"
  let hpet := lookUp mem xsdp "HPET"
  let madt := lookUp mem xsdp "APIC"
  let located := ["Debug: ACPI table FADT (sign: \"FACP\") successfully located",
    if hpet = 0 then "Warning: ACPI table HPET not found"
    else "Debug: ACPI table HPET (sign: \"HPET\") successfully located"]
  if fadt = 0 then (["Fatal: ACPI table FADT not found"], none)
  else if madt = 0 then (located ++ ["Warning: ACPI table MADT not found"], none)
  else (located ++ ["Debug: ACPI table MADT (sign: \"ACPI\") successfully located"],
    some ⟨xsdp, xsdtOf mem xsdp, fadt, hpet, madt⟩)

/-- And with the checks before. -/
def acpiReport (mem : Memory 64) (xsdp : Addr) : List String × Option AcpiTables :=
  if mem (xsdp + xsdpRevisionOffset) = 0 then
    (["Fatal: ACPI version 1.0 is not supported"], none)
  else if byteSum mem xsdp 36 % 256 ≠ 0 then
    (["Debug: ACPI version supported", "Fatal: ACPI checksum failed"], none)
  else
    (["Debug: ACPI version supported", "Debug: ACPI passed checksum"] ++ (tablesReport mem xsdp).1,
      (tablesReport mem xsdp).2)

def writeLine (t : ScrollingText (BitVec 8)) (msg : String) : ScrollingText (BitVec 8) :=
  writeText (ascii msg ++ [newline]) t

def writeLog (log : List String) (t : ScrollingText (BitVec 8)) : ScrollingText (BitVec 8) :=
  log.foldl writeLine t

theorem writeLog_nil (t : ScrollingText (BitVec 8)) : writeLog [] t = t := rfl

theorem writeLog_cons (msg : String) (log : List String) (t : ScrollingText (BitVec 8)) :
    writeLog (msg :: log) t = writeLog log (writeLine t msg) := rfl

theorem writeLog_append (log log' : List String) (t : ScrollingText (BitVec 8)) :
    writeLog (log ++ log') t = writeLog log' (writeLog log t) :=
  List.foldl_append ..

def IsLine (msg : String) : Prop :=
  0 ∉ ascii msg ∧ newline ∉ ascii msg ∧ (ascii msg).length ≤ 58

instance (msg : String) : Decidable (IsLine msg) := inferInstanceAs (Decidable (_ ∧ _ ∧ _))

/-- The console at the beginning of a line, in a memory that was `mem` before. -/
structure Reporting (s : Screen) (mem : Memory 64) (t : ScrollingText (BitVec 8)) (k : Console) :
    Prop where
  shows : Shows s t k
  fits : t.Fits s.columns
  fresh : t.current = []
  keeps : ∀ x, s.Untouched x → k.machine.mem x = mem x

/-- The outcome is as reported: the CPU is frozen, or the MADT is walked next. -/
inductive Reported (s : Screen) (mem : Memory 64) (t : ScrollingText (BitVec 8))
    (outcome : Outcome Acpi) : List String × Option AcpiTables → Prop where
  | frozen {log : List String} (k : Console) : outcome = .error (.frozen k) →
      Reporting s mem (writeLog (log ++ ["CPU Frozen"]) t) k → Reported s mem t outcome (log, none)
  | located {log : List String} (a : Acpi) : outcome = saveLapicAddress a →
      Reporting s mem (writeLog log t) a.console →
      Reported s mem t outcome (log, some a.acpiTables)

structure TablesClear (kept : Addr → Prop) (mem : Memory 64) (xsdp : Addr) : Prop
    extends ListedClear kept mem xsdp where
  root : ∀ x, Within x xsdp 36 → kept x
  length : ∀ x, Within x (xsdtOf mem xsdp + lengthOffset) 4 → kept x

section Reports

variable {s : Screen} {mem : Memory 64} {t : ScrollingText (BitVec 8)} {k : Console} {xsdp : Addr}
  {a : Acpi}

theorem Reporting.loads (reporting : Reporting s mem t k) {machine : KernelMachine}
    (loads : Loads k.machine machine) : Reporting s mem t { k with machine } where
  shows :=
    { on := (Prints.of_loads reporting.shows.on loads).on
      textColor := reporting.shows.textColor
      backgroundColor := reporting.shows.backgroundColor
      line := reporting.shows.line
      col := reporting.shows.col
      pixels := by
        intro y row x col
        rw [← reporting.shows.pixels y row x col]
        simp [Console.pixel, loads.mem_eq] }
  fits := reporting.fits
  fresh := reporting.fresh
  keeps := by
    intro x untouched
    rw [← reporting.keeps x untouched]
    exact congrFun loads.mem_eq x

theorem Reporting.load_eq (reporting : Reporting s mem t k) {a : Addr} {n : Nat} (small : n ≤ 2 ^ 64)
    (clear : ∀ x, Within x a n → s.Untouched x) : load k.machine.mem a n = load mem a n :=
  load_congr_within small fun x inside => reporting.keeps x (clear x inside)

theorem Reporting.byteSum_eq (reporting : Reporting s mem t k)
    (root : ∀ x, Within x xsdp 36 → s.Untouched x) :
    byteSum k.machine.mem xsdp 36 = byteSum mem xsdp 36 :=
  byteSum_congr (by decide) fun x inside => reporting.keeps x (root x inside)

theorem root_inside {x : Addr} (inside : Within x (xsdp + xsdtPtrOffset) 8) : Within x xsdp 36 := by
  have member : Within x (xsdp + BitVec.ofNat 64 24) 8 := inside
  have before : Within x xsdp (24 + 8) := within_of_sub (by decide) member
  rw [Within] at before ⊢
  omega

structure Searching (s : Screen) (mem : Memory 64) (xsdp : Addr) (t : ScrollingText (BitVec 8))
    (a : Acpi) : Prop where
  reporting : Reporting s mem t a.console
  xsdt : a.acpiTables.xsdt = xsdtOf mem xsdp
  count : a.numXsdtEntries = listedCount mem xsdp

theorem Reporting.searching (reporting : Reporting s mem t a.console)
    (clear : TablesClear s.Untouched mem xsdp) :
    Searching s mem xsdp t
      { a.withMachine ((a.machine.load .acpi (xsdp + xsdtPtrOffset) 8).2.load .acpi
          (xsdtOf a.machine.mem xsdp + lengthOffset) 4).2 with
        acpiTables := ⟨xsdp, xsdtOf a.machine.mem xsdp, 0, 0, 0⟩
        numXsdtEntries := listedCount a.machine.mem xsdp } := by
  have loads := (Loads.load a.machine .acpi (xsdp + xsdtPtrOffset) 8).trans
    (Loads.load _ .acpi (xsdtOf a.machine.mem xsdp + lengthOffset) 4)
  have xsdt : xsdtOf a.machine.mem xsdp = xsdtOf mem xsdp :=
    reporting.load_eq (by decide) fun x inside => clear.root x (root_inside inside)
  have length : load a.machine.mem (xsdtOf mem xsdp + lengthOffset) 4 =
      load mem (xsdtOf mem xsdp + lengthOffset) 4 :=
    reporting.load_eq (n := 4) (by decide) clear.length
  refine ⟨reporting.loads loads, xsdt, ?_⟩
  change listedCount a.machine.mem xsdp = listedCount mem xsdp
  rw [listedCount, listedCount, xsdt, length]

theorem Searching.lookUp (searching : Searching s mem xsdp t a) (clear : ListedClear s.Untouched mem xsdp)
    (signature : String) (four : (ascii signature).length = 4) :
    ∃ m, getAcpiTable signature a = (lookUp mem xsdp signature, a.withMachine m) ∧
      Searching s mem xsdp t (a.withMachine m) := by
  have located : Located s s.Untouched mem xsdp a :=
    ⟨searching.reporting.shows.on, searching.xsdt, searching.count, searching.reporting.keeps⟩
  obtain ⟨m, loads, found⟩ := located.getAcpiTable clear signature four
  exact ⟨m, found, searching.reporting.loads loads, searching.xsdt, searching.count⟩

theorem Searching.saved (searching : Searching s mem xsdp t a) (tables : AcpiTables)
    (same : tables.xsdt = a.acpiTables.xsdt) :
    Searching s mem xsdp t { a with acpiTables := tables } :=
  ⟨searching.reporting, same.trans searching.xsdt, searching.count⟩

theorem bind_frozen {α β : Type} {x : Outcome α} {f : α → Outcome β}
    (frozen : x = .error (.frozen k)) : (x >>= f) = .error (.frozen k) := by
  rw [frozen]
  rfl

theorem Reported.after {outcome : Outcome Acpi} (log : List String)
    {report : List String × Option AcpiTables}
    (reported : Reported s mem (writeLog log t) outcome report) :
    Reported s mem t outcome (log ++ report.1, report.2) := by
  cases reported with
  | frozen k ends reporting =>
      refine .frozen k ends ?_
      rwa [List.append_assoc, writeLog_append]
  | located a ends reporting =>
      refine .located a ends ?_
      rwa [writeLog_append]

section Log

variable (apart : Apart s.mode.framebufferPointer s.flushed s.base (4 * s.size))
  (wide : 58 ≤ s.columns)

include apart wide

theorem Reporting.log (reporting : Reporting s mem t k) (filter : BitVec 8)
    (printed : messageFilter < filter) (msg : String) (isLine : IsLine msg) :
    ∃ k', kernLog filter msg k = .ok k' ∧ Reporting s mem (writeLine t msg) k' := by
  obtain ⟨noNul, inline, short⟩ := isLine
  have whole : (ConsoleCall.kernLog filter msg).edit t = writeLine t msg := by
    have all : untilNul (ascii msg) = ascii msg := List.takeWhile_eq_self_iff.mpr fun c member => by
      simpa using ne_of_mem_of_not_mem member noNul
    rw [ConsoleCall.edit, if_neg (by simp), ConsoleCall.text, if_pos printed, all, writeLine]
  have lined : (writeText (ascii msg) t).Fits s.columns :=
    fits_inline reporting.fits inline (by simp [reporting.fresh]; omega)
  have fits : (writeLine t msg).Fits s.columns := by
    rw [writeLine, writeText_append]
    exact fits_newline lined
  obtain ⟨k', logs, shows⟩ := run_shows (c := .kernLog filter msg) apart reporting.shows
    (fun _ => 0) trivial reporting.fits (whole ▸ fits)
  obtain ⟨k'', same, prints⟩ := kernLog_prints reporting.shows.on filter msg
  have one : k'' = k' := Except.ok.inj (same.symm.trans logs)
  rw [one] at prints
  refine ⟨k', logs, whole ▸ shows, fits, ?_, ?_⟩
  · rw [writeLine, writeText_append, writeText_newline]
  · intro x untouched
    exact (prints.mem_eq untouched).trans (reporting.keeps x untouched)

theorem Reporting.freeze (reporting : Reporting s mem t k) {α β : Type} (f : α → Outcome β)
    (msg : String) (isLine : IsLine msg) :
    ∃ k', (kernLog filterCritical msg k >>= fun k => cpuFreeze k >>= f) = .error (.frozen k') ∧
      Reporting s mem (writeLog [msg, "CPU Frozen"] t) k' := by
  obtain ⟨k₁, logs, reporting₁⟩ := reporting.log apart wide filterCritical (by decide) msg isLine
  obtain ⟨k₂, freezes, reporting₂⟩ := reporting₁.log apart wide filterCritical (by decide)
    "CPU Frozen" (by decide)
  rw [writeLog_cons, writeLog_cons, writeLog_nil]
  refine ⟨k₂, bind_ok logs ?_, reporting₂⟩
  rw [cpuFreeze_bind, cpuFreeze]
  exact bind_ok freezes rfl

theorem acpiVcheck_reports (reporting : Reporting s mem t k)
    (root : ∀ x, Within x xsdp 36 → s.Untouched x) :
    if mem (xsdp + xsdpRevisionOffset) = 0 then
      ∃ k', acpiVcheck xsdp k = .error (.frozen k') ∧
        Reporting s mem (writeLog ["Fatal: ACPI version 1.0 is not supported", "CPU Frozen"] t) k'
    else ∃ k', acpiVcheck xsdp k = .ok k' ∧
      Reporting s mem (writeLine t "Debug: ACPI version supported") k' := by
  have revision : (k.machine.load .acpi (xsdp + xsdpRevisionOffset) 1).1 =
      mem (xsdp + xsdpRevisionOffset) := by
    rw [Machine.load_fst, load_one]
    exact reporting.keeps _ (root _ (within_offset (by decide) (by decide)))
  have loaded := reporting.loads (Loads.load k.machine .acpi (xsdp + xsdpRevisionOffset) 1)
  unfold acpiVcheck
  dsimp only
  rw [revision]
  by_cases old : mem (xsdp + xsdpRevisionOffset) = 0
  · rw [if_pos old, if_pos old]
    exact loaded.freeze apart wide _ "Fatal: ACPI version 1.0 is not supported" (by decide)
  · rw [if_neg old, if_neg old]
    exact loaded.log apart wide filterDebug (by decide) _ (by decide)

theorem acpiCcheck_reports (reporting : Reporting s mem t k)
    (root : ∀ x, Within x xsdp 36 → s.Untouched x) :
    (byteSum mem xsdp 36 % 256 = 0 → ∃ k', acpiCcheck xsdp k = .ok k' ∧
      Reporting s mem (writeLine t "Debug: ACPI passed checksum") k') ∧
    (byteSum mem xsdp 36 % 256 ≠ 0 → ∃ k', acpiCcheck xsdp k = .error (.frozen k') ∧
      Reporting s mem (writeLog ["Fatal: ACPI checksum failed", "CPU Frozen"] t) k') := by
  have loads := sumLoop_loads (BitVec.setWidth 64) xsdp xsdpSize.toNat 0 0 k.machine
  have sum := acpiCcheck_zero_iff xsdp k.machine
  rw [reporting.byteSum_eq root] at sum
  unfold acpiCcheck
  generalize sumLoop (BitVec.setWidth 64) xsdp xsdpSize.toNat 0 0 k.machine = summed at loads sum ⊢
  have loaded := reporting.loads loads
  dsimp only
  constructor
  · intro zero
    rw [if_neg (not_not.mpr (sum.mpr zero))]
    exact loaded.log apart wide filterDebug (by decide) _ (by decide)
  · intro nonzero
    rw [if_pos (mt sum.mp nonzero)]
    exact loaded.freeze apart wide _ "Fatal: ACPI checksum failed" (by decide)

theorem Searching.log (searching : Searching s mem xsdp t a) (filter : BitVec 8)
    (printed : messageFilter < filter) (msg : String) (isLine : IsLine msg) :
    ∃ a', logged filter msg a = .ok a' ∧ a'.acpiTables = a.acpiTables ∧
      Searching s mem xsdp (writeLine t msg) a' := by
  obtain ⟨k', logs, reporting⟩ := searching.reporting.log apart wide filter printed msg isLine
  exact ⟨{ a with console := k' }, bind_ok logs rfl, rfl, reporting, searching.xsdt,
    searching.count⟩

theorem Searching.freeze (searching : Searching s mem xsdp t a) {α β : Type}
    (f : α → Outcome β) (msg : String) (isLine : IsLine msg) :
    ∃ k', (logged filterCritical msg a >>= fun a => cpuFreeze a.console >>= f) =
        .error (.frozen k') ∧ Reporting s mem (writeLog [msg, "CPU Frozen"] t) k' := by
  obtain ⟨k', freezes, reporting⟩ := searching.reporting.freeze apart wide f msg isLine
  refine ⟨k', ?_, reporting⟩
  rw [← freezes]
  simp [logged]

theorem locateFadt_reports (searching : Searching s mem xsdp t a)
    (clear : ListedClear s.Untouched mem xsdp) :
    if lookUp mem xsdp "FACP" = 0 then
      ∃ k', locateFadt a = .error (.frozen k') ∧
        Reporting s mem (writeLog ["Fatal: ACPI table FADT not found", "CPU Frozen"] t) k'
    else ∃ a', locateFadt a = .ok a' ∧
      a'.acpiTables = { a.acpiTables with fadt := lookUp mem xsdp "FACP" } ∧
      Searching s mem xsdp
        (writeLine t "Debug: ACPI table FADT (sign: \"FACP\") successfully located") a' := by
  obtain ⟨m, found, searching'⟩ := searching.lookUp clear "FACP" (by decide)
  have saved := searching'.saved { a.acpiTables with fadt := Kernel.lookUp mem xsdp "FACP" } rfl
  unfold locateFadt
  simp only [found]
  by_cases absent : lookUp mem xsdp "FACP" = 0
  · rw [if_pos absent, if_pos absent]
    exact saved.freeze apart wide _ "Fatal: ACPI table FADT not found" (by decide)
  · rw [if_neg absent, if_neg absent]
    exact saved.log apart wide filterDebug (by decide) _ (by decide)

theorem locateHpet_reports (searching : Searching s mem xsdp t a)
    (clear : ListedClear s.Untouched mem xsdp) :
    ∃ a', locateHpet a = .ok a' ∧
      a'.acpiTables = { a.acpiTables with hpet := lookUp mem xsdp "HPET" } ∧
      Searching s mem xsdp (writeLine t (if lookUp mem xsdp "HPET" = 0 then
        "Warning: ACPI table HPET not found"
        else "Debug: ACPI table HPET (sign: \"HPET\") successfully located")) a' := by
  obtain ⟨m, found, searching'⟩ := searching.lookUp clear "HPET" (by decide)
  have saved := searching'.saved { a.acpiTables with hpet := Kernel.lookUp mem xsdp "HPET" } rfl
  unfold locateHpet
  simp only [found]
  by_cases absent : lookUp mem xsdp "HPET" = 0
  · rw [if_pos absent, if_pos absent]
    exact saved.log apart wide filterCritical (by decide) _ (by decide)
  · rw [if_neg absent, if_neg absent]
    exact saved.log apart wide filterDebug (by decide) _ (by decide)

theorem locateMadt_reports (searching : Searching s mem xsdp t a)
    (clear : ListedClear s.Untouched mem xsdp) :
    if lookUp mem xsdp "APIC" = 0 then
      ∃ k', locateMadt a = .error (.frozen k') ∧
        Reporting s mem (writeLog ["Warning: ACPI table MADT not found", "CPU Frozen"] t) k'
    else ∃ a', locateMadt a = .ok a' ∧
      a'.acpiTables = { a.acpiTables with madt := lookUp mem xsdp "APIC" } ∧
      Searching s mem xsdp
        (writeLine t "Debug: ACPI table MADT (sign: \"ACPI\") successfully located") a' := by
  obtain ⟨m, found, searching'⟩ := searching.lookUp clear "APIC" (by decide)
  have saved := searching'.saved { a.acpiTables with madt := Kernel.lookUp mem xsdp "APIC" } rfl
  unfold locateMadt
  simp only [found]
  by_cases absent : lookUp mem xsdp "APIC" = 0
  · rw [if_pos absent, if_pos absent]
    obtain ⟨k', freezes, reporting⟩ := saved.freeze apart wide (Except.ok (α := Acpi))
      "Warning: ACPI table MADT not found" (by decide)
    have same : (fun a : Acpi => cpuFreeze (α := Acpi) a.console >>= Except.ok (α := Acpi)) =
        fun a => cpuFreeze a.console := funext fun a => cpuFreeze_bind a.console _
    rw [same] at freezes
    exact ⟨k', freezes, reporting⟩
  · rw [if_neg absent, if_neg absent]
    exact saved.log apart wide filterDebug (by decide) _ (by decide)

/-- `acpi_init` logs what it finds, and freezes the CPU or goes on to the MADT. -/
theorem acpiInit_reports (reporting : Reporting s mem t a.console)
    (clear : TablesClear s.Untouched mem xsdp) :
    Reported s mem t (acpiInit xsdp a) (tablesReport mem xsdp) := by
  have start := reporting.searching clear
  have xsdt : xsdtOf a.machine.mem xsdp = xsdtOf mem xsdp := start.xsdt
  have fadt := locateFadt_reports apart wide start clear.toListedClear
  unfold tablesReport
  dsimp only
  by_cases noFadt : lookUp mem xsdp "FACP" = 0
  · rw [if_pos noFadt] at fadt ⊢
    obtain ⟨k', freezes, reporting'⟩ := fadt
    exact .frozen k' (bind_frozen (bind_frozen freezes)) reporting'
  · rw [if_neg noFadt] at fadt ⊢
    obtain ⟨a₁, located₁, tables₁, searching₁⟩ := fadt
    obtain ⟨a₂, located₂, tables₂, searching₂⟩ :=
      locateHpet_reports apart wide searching₁ clear.toListedClear
    have madt := locateMadt_reports apart wide searching₂ clear.toListedClear
    by_cases noMadt : lookUp mem xsdp "APIC" = 0
    · rw [if_pos noMadt] at madt ⊢
      obtain ⟨k', freezes, reporting'⟩ := madt
      refine .frozen k' (bind_frozen (bind_ok located₁ (bind_ok located₂ freezes))) ?_
      simp only [List.cons_append, List.nil_append, writeLog_cons] at reporting' ⊢
      exact reporting'
    · rw [if_neg noMadt] at madt ⊢
      obtain ⟨a₃, located₃, tables₃, searching₃⟩ := madt
      rw [tables₂, tables₁, xsdt] at tables₃
      dsimp only at tables₃
      rw [← tables₃]
      refine .located a₃ (bind_ok (bind_ok located₁ (bind_ok located₂ located₃)) rfl) ?_
      simp only [List.cons_append, List.nil_append, writeLog_cons, writeLog_nil]
      exact searching₃.reporting

/-- Whatever the firmware has left, the screen shows what became of it. -/
theorem setUpAcpi_reports (reporting : Reporting s mem t a.console)
    (clear : TablesClear s.Untouched mem xsdp) :
    Reported s mem t (setUpAcpi xsdp a) (acpiReport mem xsdp) := by
  have version := acpiVcheck_reports apart wide reporting clear.root
  rw [setUpAcpi, acpiReport]
  by_cases old : mem (xsdp + xsdpRevisionOffset) = 0
  · rw [if_pos old] at version ⊢
    obtain ⟨k', freezes, reporting'⟩ := version
    exact .frozen k' (bind_frozen freezes) reporting'
  · rw [if_neg old] at version ⊢
    obtain ⟨k₁, passes, reporting₁⟩ := version
    have checksum := acpiCcheck_reports apart wide reporting₁ clear.root
    rw [bind_ok passes rfl]
    by_cases zero : byteSum mem xsdp 36 % 256 = 0
    · rw [if_neg (not_not.mpr zero)]
      obtain ⟨k₂, passes', reporting₂⟩ := checksum.1 zero
      have inited := acpiInit_reports (a := { a with console := k₂ }) apart wide reporting₂ clear
      rw [bind_ok passes' rfl]
      apply Reported.after ["Debug: ACPI version supported", "Debug: ACPI passed checksum"]
      rw [writeLog_cons, writeLog_cons, writeLog_nil]
      exact inited
    · rw [if_pos zero]
      obtain ⟨k', freezes, reporting'⟩ := checksum.2 zero
      refine .frozen k' (bind_frozen freezes) ?_
      simp only [List.cons_append, List.nil_append, writeLog_cons] at reporting' ⊢
      exact reporting'

end Log

end Reports

/-- Lines of 58 characters. -/
def logScreen : Screen where
  mode := ⟨0x200000, 0x1000, 522, 16, 522⟩
  narrow := by decide
  tall := by decide
  short := by decide

/-- The tables of `firmwareMemory` behind a root pointer with a version and a checksum. -/
def rootedMemory : Memory 64 :=
  store (store firmwareMemory 0x10000F (n := 1) 2) 0x100008 (n := 1) 0xAE

def logConsole : Console :=
  { Console.loaded ⟨rootedMemory, []⟩ with
    videoModeInfo := logScreen.mode
    framebufferInfo := ⟨522, 16, 2088, 32⟩ }

theorem logScreen_apart : Apart logScreen.mode.framebufferPointer logScreen.flushed
    logScreen.base (4 * logScreen.size) := by
  intro x framebuffer backbuffer
  rw [within_iff_toNat (by decide)] at framebuffer backbuffer
  change 0x200000 ≤ _ ∧ _ at framebuffer
  change _ ∧ _ < 0x1000 + 4 * (522 * 16) at backbuffer
  omega

theorem logScreen_untouched {x a : Addr} {len : Nat} (inside : Within x a len)
    (above : 0x100000 ≤ a.toNat) (below : a.toNat + len ≤ 0x200000) : logScreen.Untouched x := by
  rw [within_iff_toNat (by omega)] at inside
  constructor
  · intro backbuffer
    rw [within_iff_toNat (by decide)] at backbuffer
    change _ ∧ _ < 0x1000 + 4 * (522 * 16 + 65543) at backbuffer
    omega
  · intro framebuffer
    rw [within_iff_toNat (by decide)] at framebuffer
    change 0x200000 ≤ _ ∧ _ at framebuffer
    omega

theorem rootedMemory_xsdt : xsdtOf rootedMemory 0x100000 = 0x100040 := by decide +kernel

theorem rootedMemory_count : listedCount rootedMemory 0x100000 = 2 := by
  have length : load rootedMemory (0x100040 + lengthOffset) 4 = 52 := by decide +kernel
  rw [listedCount, rootedMemory_xsdt, length]
  decide

theorem rootedMemory_listed : listed rootedMemory 0x100000 = [0x100080, 0x1000C0] := by
  have pointers : sdtPtrs rootedMemory 0x100040 2 = [0x100080, 0x1000C0] := by decide +kernel
  rw [listed, rootedMemory_xsdt, rootedMemory_count]
  exact pointers

theorem rootedMemory_clear : TablesClear logScreen.Untouched rootedMemory 0x100000 where
  root := fun _ inside => logScreen_untouched inside (by decide) (by decide)
  length := by
    rw [rootedMemory_xsdt]
    exact fun _ inside => logScreen_untouched inside (by decide) (by decide)
  pointers := by
    have places : ∀ i, i < 2 → 0x100000 ≤ (sdtPtrAddr 0x100040 i).toNat ∧
        (sdtPtrAddr 0x100040 i).toNat + 8 ≤ 0x200000 := by
      decide +kernel
    rw [rootedMemory_xsdt, rootedMemory_count]
    exact fun i bound _ inside =>
      logScreen_untouched inside (places i bound).1 (places i bound).2
  signatures := by
    rw [rootedMemory_listed]
    intro p member x inside
    simp only [List.mem_cons, List.not_mem_nil, or_false] at member
    rcases member with rfl | rfl
    · exact logScreen_untouched inside (by decide) (by decide)
    · exact logScreen_untouched inside (by decide) (by decide)

theorem logConsole_reporting :
    Reporting logScreen rootedMemory ScrollingText.empty (blankOutput logConsole) where
  shows := shows_blank ⟨rfl, rfl, rfl, rfl, by decide, by decide⟩ rfl rfl
  fits := by decide
  fresh := rfl
  keeps := fun _ untouched =>
    (blankOutput_prints ⟨rfl, rfl, rfl, rfl, by decide, by decide⟩).mem_eq untouched

theorem rootedMemory_reported :
    Reported logScreen rootedMemory ScrollingText.empty
      (setUpAcpi 0x100000 (Acpi.loaded (blankOutput logConsole)))
      (acpiReport rootedMemory 0x100000) ∧
      (acpiReport rootedMemory 0x100000).2.map AcpiTables.madt = some 0x1000C0 :=
  ⟨setUpAcpi_reports logScreen_apart (by decide) logConsole_reporting rootedMemory_clear,
    by decide +kernel⟩

end Flosp.Kernel
