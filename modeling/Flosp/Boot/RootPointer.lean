import Flosp.Boot.Effects

/-! The search of `efi_main` for the ACPI 2.0 root pointer in the configuration table. -/

namespace Flosp.Boot

open Interaction ByteMemory

def AnsweredBy (m : Memory 64) (t : Trace) : Prop :=
  ∀ region a n v, loadEvent region a n v ∈ t → v = ByteMemory.load m a n

def configurationEntry (table : Addr) (i : Nat) : Addr :=
  table + BitVec.ofNat 64 (EfiConfigurationTable.size * i)

def Spells (m : Memory 64) : Addr → List (BitVec 8) → Prop
  | _, [] => True
  | a, c :: rest => m a = c ∧ Spells m (a + 1) rest

instance decidableSpells (m : Memory 64) :
    (a : Addr) → (signature : List (BitVec 8)) → Decidable (Spells m a signature)
  | _, [] => isTrue trivial
  | a, _ :: rest =>
      letI := decidableSpells m (a + 1) rest
      inferInstanceAs (Decidable (_ ∧ _))

/-- `VendorTable` of the entry at `entry` -/
def vendorTableOf (m : Memory 64) (entry : Addr) : Addr :=
  EfiConfigurationTable.vendorTable.read m entry

/-- The vendor table of the entry at `entry` starts with the root pointer's signature. -/
def HasSignature (m : Memory 64) (entry : Addr) : Prop :=
  Spells m (vendorTableOf m entry) xsdpSignature

instance (m : Memory 64) (entry : Addr) : Decidable (HasSignature m entry) :=
  inferInstanceAs (Decidable (Spells ..))

def IsAcpi20 (m : Memory 64) (entry : Addr) : Prop :=
  EfiConfigurationTable.vendorGuid.read m entry = efiAcpi20TableGuid.bits ∧ HasSignature m entry

section Reads

variable {m : Memory 64} {β : Type} {t : Trace} {r : Except Halt β}

theorem runs_load_answered {region : Region} {a : Addr} {n : Nat} {f : BitVec (8 * n) → Program β}
    (runs : Runs (load region a n >>= f) t r) (answered : AnsweredBy m t) :
    ∃ rest, t = loadEvent region a n (ByteMemory.load m a n) :: rest ∧
      Runs (f (ByteMemory.load m a n)) rest r ∧ AnsweredBy m rest := by
  rcases runs_op.mp runs with ⟨v, rest, rfl, next⟩
  have value : v = ByteMemory.load m a n := answered region a n v List.mem_cons_self
  have later : AnsweredBy m rest := by
    intro region' a' n' v' present
    exact answered region' a' n' v' (List.mem_cons_of_mem _ present)
  subst value
  exact ⟨rest, rfl, next, later⟩

/-- `g1[k]` of `compare_efi_guid` for the GUID at `a`. -/
def guidWord (m : Memory 64) (a : Addr) (k : Nat) : BitVec 32 :=
  ByteMemory.load m (a + BitVec.ofNat 64 (4 * k)) 4

/-- The value of `compare_efi_guid` on the GUID at `a`. -/
def guidDifference (m : Memory 64) (a : Addr) (guid : EfiGuid) : BitVec 64 :=
  ((guidWord m a 0 - guid.word 0) ||| (guidWord m a 1 - guid.word 1) |||
    (guidWord m a 2 - guid.word 2) ||| (guidWord m a 3 - guid.word 3)).signExtend 64

theorem eq_iff_words (x y : BitVec 128) :
    x = y ↔ x.extractLsb' 0 32 = y.extractLsb' 0 32 ∧ x.extractLsb' 32 32 = y.extractLsb' 32 32 ∧
      x.extractLsb' 64 32 = y.extractLsb' 64 32 ∧ x.extractLsb' 96 32 = y.extractLsb' 96 32 := by
  constructor
  · intro same
    subst same
    exact ⟨rfl, rfl, rfl, rfl⟩
  · intro words
    rcases words with ⟨w0, w1, w2, w3⟩
    apply BitVec.eq_of_getLsbD_eq
    intro i hi
    have bits (k : Nat) (same : x.extractLsb' k 32 = y.extractLsb' k 32) (above : k ≤ i)
        (below : i < k + 32) : x.getLsbD i = y.getLsbD i := by
      have bit := congrArg (fun z => z.getLsbD (i - k)) same
      simpa [BitVec.getLsbD_extractLsb', show i - k < 32 by omega, Nat.add_sub_cancel' above]
        using bit
    by_cases h0 : i < 32
    · exact bits 0 w0 (by omega) (by omega)
    by_cases h1 : i < 64
    · exact bits 32 w1 (by omega) (by omega)
    by_cases h2 : i < 96
    · exact bits 64 w2 (by omega) (by omega)
    · exact bits 96 w3 (by omega) (by omega)

theorem signExtend_eq_zero (x : BitVec 32) : x.signExtend 64 = 0 ↔ x = 0 := by
  constructor
  · intro zero
    have toInt := congrArg BitVec.toInt zero
    rw [BitVec.toInt_signExtend_of_le (by decide)] at toInt
    exact BitVec.eq_of_toInt_eq toInt
  · intro zero
    rw [zero]
    rfl

theorem guidDifference_eq_zero (m : Memory 64) (a : Addr) (guid : EfiGuid) :
    guidDifference m a guid = 0 ↔ ByteMemory.load m a 16 = guid.bits := by
  have word (k : Nat) (inside : k < 4) :
      guidWord m a k = (ByteMemory.load m a 16).extractLsb' (32 * k) 32 := by
    have part := extract_load m a (show 4 * k + 4 ≤ 16 by omega)
    rw [show 8 * (4 * k) = 32 * k by omega] at part
    exact part.symm
  have equal (x y : BitVec 32) : x - y = 0#32 ↔ x = y := sub_eq_zero
  have none (x y z u : BitVec 32) : x ||| y ||| z ||| u = 0 ↔
      x = 0#32 ∧ y = 0#32 ∧ z = 0#32 ∧ u = 0#32 := by
    rw [BitVec.ofNat_eq_ofNat]
    simp only [BitVec.or_eq_zero_iff, and_assoc]
  rw [guidDifference, signExtend_eq_zero, word 0 (by decide), word 1 (by decide),
    word 2 (by decide), word 3 (by decide), none, equal, equal, equal, equal, eq_iff_words]
  rfl

def ReadsEntry (entry : Addr) (t : Trace) : Prop :=
  ∀ e ∈ t, ∀ a n, e.op = .load .configurationTable a n →
    ∀ x, Within x a n → Within x entry EfiConfigurationTable.size

theorem readsEntry_field {entry : Addr} {field : Field}
    (fits : field.offset + field.size ≤ EfiConfigurationTable.size) {x : Addr}
    (inside : Within x (entry + BitVec.ofNat 64 field.offset) field.size) :
    Within x entry EfiConfigurationTable.size := by
  have small : EfiConfigurationTable.size ≤ 2 ^ 64 := by decide
  rcases (within_iff_exists (by omega)).mp inside with ⟨j, bound, rfl⟩
  rw [offset_add]
  exact within_offset (by omega) small

theorem ReadsEntry.append {entry : Addr} {t₁ t₂ : Trace} (first : ReadsEntry entry t₁)
    (second : ReadsEntry entry t₂) : ReadsEntry entry (t₁ ++ t₂) := by
  intro e member
  rcases List.mem_append.mp member with left | right
  · exact first e left
  · exact second e right

theorem readsEntry_load {entry : Addr} (field : Field) {v : BitVec (8 * field.size)}
    (fits : field.offset + field.size ≤ EfiConfigurationTable.size) :
    ReadsEntry entry
      [loadEvent .configurationTable (entry + BitVec.ofNat 64 field.offset) field.size v] := by
  intro e member a n same x inside
  cases List.mem_singleton.mp member
  cases same
  exact readsEntry_field fits inside

theorem readsEntry_elsewhere {entry : Addr} {region : Region} {a : Addr} {n : Nat}
    {v : BitVec (8 * n)} (other : region ≠ .configurationTable) :
    ReadsEntry entry [loadEvent region a n v] := by
  intro e member a' n' same
  cases List.mem_singleton.mp member
  cases same
  exact absurd rfl other

theorem compareEfiGuid_run {entry : Addr} {guid : EfiGuid} {f : BitVec 64 → Program β}
    (runs : Runs (compareEfiGuid entry guid >>= f) t r) (answered : AnsweredBy m t) :
    ∃ first rest, t = first ++ rest ∧ ReadsEntry entry first ∧
      (∃ e ∈ first, e.op = .load .configurationTable entry 4) ∧ AnsweredBy m rest ∧
      Runs (f (guidDifference m entry guid)) rest r := by
  simp only [compareEfiGuid, Prog.bind_assoc, Prog.pure_eq, Prog.ret_bind] at runs
  rcases runs_load_answered runs answered with ⟨t₀, rfl, runs₀, answered₀⟩
  rcases runs_load_answered runs₀ answered₀ with ⟨t₁, rfl, runs₁, answered₁⟩
  rcases runs_load_answered runs₁ answered₁ with ⟨t₂, rfl, runs₂, answered₂⟩
  rcases runs_load_answered runs₂ answered₂ with ⟨t₃, rfl, runs₃, answered₃⟩
  have start : entry + BitVec.ofNat 64 (4 * 0) = entry := BitVec.add_zero entry
  have word (k : Nat) (v : BitVec (8 * 4)) (inside : k < 4) : ReadsEntry entry
      [loadEvent .configurationTable (entry + BitVec.ofNat 64 (4 * k)) 4 v] := by
    apply readsEntry_load ⟨4 * k, 4⟩
    change 4 * k + 4 ≤ 24
    omega
  have first := word 0 (ByteMemory.load m entry 4) (by decide)
  rw [start] at first
  have reads := ((first.append (word 1 (guidWord m entry 1) (by decide))).append
    (word 2 (guidWord m entry 2) (by decide))).append (word 3 (guidWord m entry 3) (by decide))
  refine ⟨_, t₃, rfl, reads, ⟨_, List.mem_cons_self, rfl⟩, answered₃, ?_⟩
  rw [guidDifference, guidWord, start]
  exact runs₃

theorem matchesSignature_run {entry : Addr} {signature : List (BitVec 8)} {k : Nat}
    {f : Bool → Program β} (runs : Runs (matchesSignature entry signature k >>= f) t r)
    (answered : AnsweredBy m t) :
    ∃ first rest, t = first ++ rest ∧ ReadsEntry entry first ∧ AnsweredBy m rest ∧
      Runs (f (decide (Spells m (vendorTableOf m entry + BitVec.ofNat 64 k) signature))) rest r := by
  induction signature generalizing k t with
  | nil =>
      refine ⟨[], t, rfl, ?_, answered, ?_⟩
      · intro e member
        cases member
      · have spelled : decide (Spells m (vendorTableOf m entry + BitVec.ofNat 64 k) []) = true :=
          decide_eq_true trivial
        rw [spelled]
        exact runs
  | cons c tail ih =>
      simp only [matchesSignature, loadField] at runs
      rcases runs_load_answered runs answered with ⟨t₀, rfl, runs₀, answered₀⟩
      rcases runs_load_answered runs₀ answered₀ with ⟨t₁, rfl, runs₁, answered₁⟩
      let byte : Addr := vendorTableOf m entry + BitVec.ofNat 64 k
      have next : byte + 1 = vendorTableOf m entry + BitVec.ofNat 64 (k + 1) := offset_add _ k 1
      have branch : Runs ((if m byte = c then matchesSignature entry tail (k + 1)
          else pure false) >>= f) t₁ r := by
        rw [← load_one m byte]
        exact runs₁
      have reads : ReadsEntry entry ([loadEvent .configurationTable
          (entry + BitVec.ofNat 64 EfiConfigurationTable.vendorTable.offset)
          EfiConfigurationTable.vendorTable.size (vendorTableOf m entry)] ++
          [loadEvent .vendorTable byte 1 (ByteMemory.load m byte 1)]) :=
        (readsEntry_load _ (by decide)).append (readsEntry_elsewhere (by decide))
      by_cases same : m byte = c
      · rw [if_pos same] at branch
        rcases ih branch answered₁ with ⟨first, rest, rfl, firstReads, restAnswered, restRuns⟩
        have spelled : decide (Spells m byte (c :: tail)) = decide (Spells m (byte + 1) tail) :=
          decide_eq_decide.mpr (and_iff_right same)
        refine ⟨_, rest, rfl, reads.append firstReads, restAnswered, ?_⟩
        rw [spelled, next]
        exact restRuns
      · rw [if_neg same] at branch
        have spelled : decide (Spells m byte (c :: tail)) = false :=
          decide_eq_false fun spells => same spells.1
        refine ⟨_, t₁, rfl, reads, answered₁, ?_⟩
        rw [spelled]
        exact branch

/-- The values stored so far after the turn for entry `i`, with `tempTable` at `temp`. -/
def storedAfter (m : Memory 64) (temp : Addr) (i : Nat) (stored : List Addr) : List Addr :=
  if guidDifference m (configurationEntry temp i) efiAcpi20TableGuid ≠ 0 then
    if HasSignature m temp then vendorTableOf m temp :: stored else stored
  else stored

/-- One turn of the search: the GUID is read `i` entries past `temp`, the rest at `temp`. -/
theorem findXsdpFrom_turn {turns i : Nat} {temp : Addr} {stored : List Addr}
    {r : Except Halt (List Addr)}
    (runs : Runs (findXsdpFrom (turns + 1) i temp stored) t r) (answered : AnsweredBy m t) :
    ∃ guid other rest, t = guid ++ other ++ rest ∧ ReadsEntry (configurationEntry temp i) guid ∧
      (∃ e ∈ guid, e.op = .load .configurationTable (configurationEntry temp i) 4) ∧
      ReadsEntry temp other ∧ AnsweredBy m rest ∧
      Runs (findXsdpFrom turns (i + 1) (temp + BitVec.ofNat 64 EfiConfigurationTable.size)
        (storedAfter m temp i stored)) rest r := by
  unfold findXsdpFrom at runs
  rcases compareEfiGuid_run runs answered with ⟨guid, rest, rfl, guidReads, guidRead, later, branch⟩
  clear runs answered
  let go (stored : List Addr) : Program (List Addr) :=
    findXsdpFrom turns (i + 1) (temp + BitVec.ofNat 64 EfiConfigurationTable.size) stored
  have turn : Runs (if guidDifference m (configurationEntry temp i) efiAcpi20TableGuid ≠ 0 then
      (matchesSignature temp xsdpSignature 0 >>= fun found =>
        if found then
          loadField .configurationTable temp EfiConfigurationTable.vendorTable >>=
            fun vendorTable => go (vendorTable :: stored)
        else go stored)
      else go stored) rest r := branch
  by_cases differs : guidDifference m (configurationEntry temp i) efiAcpi20TableGuid ≠ 0
  · rw [if_pos differs] at turn
    rcases matchesSignature_run turn later with ⟨chars, rest, rfl, charReads, later', branch'⟩
    have start : vendorTableOf m temp + BitVec.ofNat 64 0 = vendorTableOf m temp :=
      BitVec.add_zero _
    rw [start] at branch'
    by_cases spells : HasSignature m temp
    · rw [decide_eq_true (p := Spells m (vendorTableOf m temp) xsdpSignature) spells] at branch'
      rcases runs_load_answered branch' later' with ⟨rest', rfl, next, answered⟩
      refine ⟨guid, _, rest', ?_, guidReads, guidRead, charReads.append
        (readsEntry_load EfiConfigurationTable.vendorTable (v := vendorTableOf m temp)
          (by decide)), answered, ?_⟩
      · rw [List.append_assoc, List.append_assoc]
        rfl
      · rw [storedAfter, if_pos differs, if_pos spells]
        exact next
    · rw [decide_eq_false (p := Spells m (vendorTableOf m temp) xsdpSignature) spells] at branch'
      refine ⟨guid, chars, rest, (List.append_assoc ..).symm, guidReads, guidRead, charReads,
        later', ?_⟩
      rw [storedAfter, if_pos differs, if_neg spells]
      exact branch'
  · rw [if_neg differs] at turn
    refine ⟨guid, [], rest, ?_, guidReads, guidRead, ?_, later, ?_⟩
    · rw [List.append_nil]
    · intro e member
      cases member
    · rw [storedAfter, if_neg differs]
      exact turn

/-- The last turn reads a GUID as far past `tempTable` as `tempTable` has moved. -/
theorem findXsdpFrom_last {turns i : Nat} {temp : Addr} {stored : List Addr}
    {r : Except Halt (List Addr)}
    (runs : Runs (findXsdpFrom (turns + 1) i temp stored) t r) (answered : AnsweredBy m t) :
    ∃ e ∈ t, e.op = .load .configurationTable
      (temp + BitVec.ofNat 64 (EfiConfigurationTable.size * (i + 2 * turns))) 4 := by
  induction turns generalizing i temp stored t with
  | zero =>
      rcases findXsdpFrom_turn runs answered with ⟨guid, other, rest, rfl, -, read, -⟩
      rcases read with ⟨e, member, op⟩
      refine ⟨e, List.mem_append_left rest (List.mem_append_left other member), ?_⟩
      rw [op]
      rfl
  | succ turns ih =>
      rcases findXsdpFrom_turn runs answered with ⟨guid, other, rest, rfl, -, -, -, later, next⟩
      rcases ih next later with ⟨e, member, op⟩
      refine ⟨e, List.mem_append_right _ member, ?_⟩
      have offset : EfiConfigurationTable.size + EfiConfigurationTable.size * (i + 1 + 2 * turns) =
          EfiConfigurationTable.size * (i + 2 * (turns + 1)) := by
        ring
      rw [op, offset_add, offset]

end Reads

/-- A run of the search over a table of at most 65535 entries in a memory. -/
structure SearchRun where
  memory : Memory 64
  systemTable : EfiSystemTable
  few : systemTable.numberOfTableEntries.toNat ≤ 65535
  trace : Trace
  ended : Except Halt (List Addr)
  finds : Runs (findXsdp systemTable) trace ended
  answered : AnsweredBy memory trace

namespace SearchRun

variable (run : SearchRun)

def count : Nat := run.systemTable.numberOfTableEntries.toNat

def entry (i : Nat) : Addr := configurationEntry run.systemTable.configurationTable i

/-- Only entries below the count are read. -/
def ReadsTable : Prop :=
  ∀ e ∈ run.trace, ∀ a n, e.op = .load .configurationTable a n → ∀ x, Within x a n →
    Within x run.systemTable.configurationTable (EfiConfigurationTable.size * run.count)

/-- The search reads the table alone, ends with a pointer exactly when the table has an
ACPI 2.0 entry, and stores nothing but vendor tables of such entries. -/
def PicksRootPointer : Prop :=
  run.ReadsTable ∧ ∃ stored, run.ended = .ok stored ∧
    (stored.headD 0 ≠ 0 ↔ ∃ i < run.count, IsAcpi20 run.memory (run.entry i)) ∧
    ∀ v ∈ stored, ∃ i < run.count, IsAcpi20 run.memory (run.entry i) ∧
      v = vendorTableOf run.memory (run.entry i)

theorem finds_from : Runs (findXsdpFrom run.count 0 run.systemTable.configurationTable [])
    run.trace run.ended := by
  have bound : run.systemTable.numberOfTableEntries.toNat < 2 ^ 16 :=
    Nat.lt_of_le_of_lt run.few (by decide)
  have finds := run.finds
  rw [findXsdp, if_pos bound] at finds
  exact finds

theorem count_le_one (reads : run.ReadsTable) : run.count ≤ 1 := by
  by_contra many
  have turns : run.count = (run.count - 1) + 1 := by omega
  have few : run.count ≤ 65535 := run.few
  have runs := run.finds_from
  rw [turns] at runs
  rcases findXsdpFrom_last runs run.answered with ⟨e, member, op⟩
  have first := reads e member _ 4 op _ (within_offset (i := 0) (by decide) (by decide))
  rw [BitVec.add_zero, Nat.zero_add] at first
  have size : EfiConfigurationTable.size = 24 := rfl
  rw [size] at first
  have bound := (within_offset_iff (by omega)).mp first
  omega

theorem ends_of_count_zero (none : run.count = 0) : run.trace = [] ∧ run.ended = .ok [] := by
  have runs := run.finds_from
  rw [none] at runs
  exact runs_ret.mp runs

theorem ends_of_count_one (one : run.count = 1) : ReadsEntry (run.entry 0) run.trace ∧
    run.ended = .ok (storedAfter run.memory (run.entry 0) 0 []) := by
  have start : run.entry 0 = run.systemTable.configurationTable := BitVec.add_zero _
  have runs := run.finds_from
  rw [one, ← start] at runs
  rcases findXsdpFrom_turn runs run.answered with
    ⟨guid, other, rest, split, guidReads, -, otherReads, -, last⟩
  rcases runs_ret.mp last with ⟨rfl, ended⟩
  have same : configurationEntry (run.entry 0) 0 = run.entry 0 := BitVec.add_zero _
  rw [same] at guidReads
  rw [split, List.append_nil]
  exact ⟨guidReads.append otherReads, ended⟩

end SearchRun

theorem isAcpi20_iff (m : Memory 64) (entry : Addr) :
    IsAcpi20 m entry ↔ guidDifference m entry efiAcpi20TableGuid = 0 ∧ HasSignature m entry := by
  have start : entry + BitVec.ofNat 64 EfiConfigurationTable.vendorGuid.offset = entry :=
    BitVec.add_zero entry
  rw [guidDifference_eq_zero, IsAcpi20, Field.read, start]
  rfl

theorem picks_of_nothing {run : SearchRun} (reads : run.ReadsTable) (ended : run.ended = .ok [])
    (absent : ∀ i < run.count, ¬ HasSignature run.memory (run.entry i)) :
    run.PicksRootPointer := by
  refine ⟨reads, [], ended, ?_, ?_⟩
  · constructor
    · intro null
      exact (null rfl).elim
    · rintro ⟨i, inside, acpi⟩
      exact (absent i inside ((isAcpi20_iff ..).mp acpi).2).elim
  · intro v member
    cases member

/-- About a single entry with the signature it is wrong, whatever the identifier. -/
theorem unsigned_of_picks {run : SearchRun} (one : run.count = 1) (picks : run.PicksRootPointer) :
    ¬ HasSignature run.memory (run.entry 0) := by
  intro signed
  rcases picks with ⟨-, stored, ended, found, genuine⟩
  have last := (run.ends_of_count_one one).2
  rw [ended] at last
  have same : configurationEntry (run.entry 0) 0 = run.entry 0 := BitVec.add_zero _
  have value : stored = storedAfter run.memory (run.entry 0) 0 [] := Except.ok.inj last
  rw [storedAfter, same] at value
  by_cases equal : guidDifference run.memory (run.entry 0) efiAcpi20TableGuid = 0
  · rw [if_neg (not_not.mpr equal)] at value
    subst value
    have acpi : IsAcpi20 run.memory (run.entry 0) := (isAcpi20_iff ..).mpr ⟨equal, signed⟩
    exact found.mpr ⟨0, by omega, acpi⟩ rfl
  · rw [if_pos equal, if_pos signed] at value
    have stores : vendorTableOf run.memory (run.entry 0) ∈ stored := by
      rw [value]
      exact List.mem_singleton.mpr rfl
    rcases genuine _ stores with ⟨i, inside, acpi, -⟩
    have first : i = 0 := by omega
    subst first
    exact equal ((isAcpi20_iff ..).mp acpi).1

/-- The search is right only about tables of at most one entry, and about one entry only
if it does not carry the root pointer's signature. -/
theorem picksRootPointer_iff (run : SearchRun) :
    run.PicksRootPointer ↔
      run.count = 0 ∨ (run.count = 1 ∧ ¬ HasSignature run.memory (run.entry 0)) := by
  constructor
  · intro picks
    rcases Nat.eq_zero_or_pos run.count with none | some
    · exact Or.inl none
    · have one : run.count = 1 := Nat.le_antisymm (run.count_le_one picks.1) some
      exact Or.inr ⟨one, unsigned_of_picks one picks⟩
  · intro condition
    rcases condition with none | ⟨one, unsigned⟩
    · rcases run.ends_of_count_zero none with ⟨trace, ended⟩
      have reads : run.ReadsTable := by
        intro e member
        rw [trace] at member
        cases member
      apply picks_of_nothing reads ended
      intro i inside
      omega
    · rcases run.ends_of_count_one one with ⟨readsEntry, ended⟩
      have reads : run.ReadsTable := by
        intro e member a n op x inside
        have within := readsEntry e member a n op x inside
        have start : run.entry 0 = run.systemTable.configurationTable := BitVec.add_zero _
        rw [start] at within
        rw [one]
        exact within
      rw [storedAfter, if_neg unsigned, ite_self] at ended
      apply picks_of_nothing reads ended
      intro i inside
      have first : i = 0 := by omega
      rw [first]
      exact unsigned

def readOnly (m : Memory 64) (o : Op) (_ : Unit) : Reply o × Unit :=
  match o with
  | .load _ a n => (ByteMemory.load m a n, ())
  | .store .. => ((), ())
  | .call c => ((efiUnsupported, c.noOutput), ())

theorem answeredBy_readOnly {α : Type} (m : Memory 64) (p : Program α) :
    AnsweredBy m (exec (readOnly m) p ()).1 := by
  intro region a n v present
  rcases exec_replies (readOnly m) present with ⟨_, reply⟩
  exact reply

/-- One configuration table entry at `0x1000`, with the ACPI 2.0 GUID and a vendor table
at `0x2000` that starts with the signature. -/
def acpi20Memory : Memory 64 :=
  overlay (overlay (fun _ => 0) 0x2000 xsdpSignature) 0x1000
    [0x71, 0xe8, 0x68, 0x88, 0xf1, 0xe4, 0xd3, 0x11, 0xbc, 0x22, 0x00, 0x80, 0xc7, 0x3c, 0x88, 0x81,
      0x00, 0x20]

def acpi20Table : EfiSystemTable := ⟨1, 0x1000⟩

def acpi20Run : SearchRun where
  memory := acpi20Memory
  systemTable := acpi20Table
  few := by decide +kernel
  trace := (exec (readOnly acpi20Memory) (findXsdp acpi20Table) ()).1
  ended := (exec (readOnly acpi20Memory) (findXsdp acpi20Table) ()).2.1
  finds := exec_runs _ _ ()
  answered := answeredBy_readOnly _ _

theorem acpi20_not_found : ¬ acpi20Run.PicksRootPointer := by
  intro picks
  rcases picks with ⟨-, stored, ended, found, -⟩
  have acpi : IsAcpi20 acpi20Run.memory (acpi20Run.entry 0) := by
    rw [isAcpi20_iff]
    decide +kernel
  have passed : storedAfter acpi20Run.memory (acpi20Run.entry 0) 0 [] = [] := by decide +kernel
  have last := (acpi20Run.ends_of_count_one rfl).2
  rw [ended, passed] at last
  have none : stored = [] := Except.ok.inj last
  subst none
  exact found.mpr ⟨0, by decide, acpi⟩ rfl

end Flosp.Boot
