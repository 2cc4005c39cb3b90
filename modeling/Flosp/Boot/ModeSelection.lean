import Flosp.Boot.Effects

/-! Which of the firmware's graphics modes the bootloader sets. -/

namespace Flosp.Boot

open Interaction ByteMemory

/-- The members of `EFI_GRAPHICS_OUTPUT_MODE_INFORMATION` that a target is given by. -/
@[ext] structure ModeInfo where
  horizontalResolution : BitVec 32
  verticalResolution : BitVec 32
  pixelFormat : BitVec 32
  deriving DecidableEq, Repr

structure ModeInfo.At (info : ModeInfo) (mem : Memory 64) (p : Addr) : Prop where
  width : GraphicsOutputModeInformation.horizontalResolution.read mem p = info.horizontalResolution
  height : GraphicsOutputModeInformation.verticalResolution.read mem p = info.verticalResolution
  format : GraphicsOutputModeInformation.pixelFormat.read mem p = info.pixelFormat

/-- A graphics output protocol and its modes; `none` is a mode whose `QueryMode` fails. -/
structure GraphicsDevice where
  protocol : Addr
  mode : Addr
  modes : List (Option ModeInfo)
  bounded : modes.length < 2 ^ 32

namespace GraphicsDevice

/-- The first mode whose query succeeds with the information of the target. -/
def firstMatch (d : GraphicsDevice) (target : ModeInfo) : Option Nat :=
  d.modes.findIdx? (· == some target)

structure In (d : GraphicsDevice) (mem : Memory 64) : Prop where
  mode : GraphicsOutputProtocol.mode.read mem d.protocol = d.mode
  maxMode : GraphicsOutputProtocolMode.maxMode.read mem d.mode = BitVec.ofNat 32 d.modes.length

/-- What one event does to memory. A failed query may have stored anything through its output
pointers, or nothing. -/
def Step (d : GraphicsDevice) (e : BootEvent) (mem mem' : Memory 64) : Prop :=
  match e with
  | ⟨.load _ a n, v⟩ => v = ByteMemory.load mem a n ∧ mem' = mem
  | ⟨.call (.outputString _), _⟩ => mem' = mem
  | ⟨.call (.queryMode _ i), (status, out)⟩ =>
      d.In mem' ∧
        match d.modes[i.toNat]? with
        | some (some info) => ¬ Failed status ∧ ∃ size p, out = some (size, p) ∧ info.At mem' p
        | _ => Failed status
  | ⟨.call (.setMode ..), _⟩ | ⟨.call .clearScreen, _⟩ | ⟨.call (.reset _), _⟩ => True
  -- the selection makes no other call
  | _ => False

theorem step_silent (d : GraphicsDevice) (e : BootEvent) (mem mem' : Memory 64)
    (silent : effective e = false) (step : d.Step e mem mem') : mem' = mem := by
  rcases e with ⟨op, reply⟩
  cases op with
  | load region a n => cases silent
  | store region a n v => cases silent
  | call c =>
      cases c with
      | outputString string => exact step
      | _ => cases silent

end GraphicsDevice

def modesSet (t : Trace) : List (BitVec 32) :=
  t.filterMap fun e =>
    match e.op with
    | .call (.setMode _ modeNumber) => some modeNumber
    | _ => none

/-- `SetMode`, `ClearScreen` or `Reset` -/
def Reconfigures (e : BootEvent) : Prop :=
  match e.op with
  | .call (.setMode ..) | .call .clearScreen | .call (.reset _) => True
  | _ => False

/-- A member of the mode information is read right after a query that failed. -/
def ReadsFailedQuery (t : Trace) : Prop :=
  ∃ before this i status out a v after, Failed status ∧
    t = before ++ callEvent (.queryMode this i) (status, out) ::
      loadEvent .graphics a 4 v :: after

/-- The first mode that matches is set, no mode if there is none, and no information of a
failed query is read. -/
structure SelectsExactly (d : GraphicsDevice) (target : ModeInfo) (t : Trace)
    (r : Except Halt EfiStatus) : Prop where
  selects : ∀ i, d.firstMatch target = some i → modesSet t = [BitVec.ofNat 32 i]
  refuses : d.firstMatch target = none → (∀ e ∈ t, ¬ Reconfigures e) ∧ r = .ok efiUnsupported
  reads : ¬ ReadsFailedQuery (t.filter effective)

section Search

variable {d : GraphicsDevice} {target : ModeInfo} {mem mem' : Memory 64} {t : Trace}
  {r : Except Halt (EfiStatus × BitVec 64)} {graphicsMode : BitVec 64}

abbrev search (d : GraphicsDevice) (target : ModeInfo) (graphicsMode : BitVec 64) (turns : Nat)
    (i : BitVec 32) (query : BitVec 64 × Addr) : Program (EfiStatus × BitVec 64) :=
  findGraphicsModeFrom d.protocol target.horizontalResolution target.verticalResolution
    target.pixelFormat graphicsMode turns i query

/-- A turn of the loop from the return of `QueryMode` on. -/
def examine (d : GraphicsDevice) (target : ModeInfo) (graphicsMode : BitVec 64) (turns : Nat)
    (i : BitVec 32) (status : EfiStatus) (query : BitVec 64 × Addr) :
    Program (EfiStatus × BitVec 64) := do
  let width : BitVec 32 ←
    loadField .graphics query.2 GraphicsOutputModeInformation.horizontalResolution
  if width = target.horizontalResolution then
    let height : BitVec 32 ←
      loadField .graphics query.2 GraphicsOutputModeInformation.verticalResolution
    if height = target.verticalResolution then
      let format : BitVec 32 ←
        loadField .graphics query.2 GraphicsOutputModeInformation.pixelFormat
      if format = target.pixelFormat then
        efiPrint "Debug: Matching video mode detected\r\n"
        return (status, i.setWidth 64)
  search d target graphicsMode turns (i + 1) query

theorem does_field {β : Type} {base : Addr} (f : Field) {next : BitVec (8 * f.size) → Program β}
    {r : Except Halt β} (does : Does (loadField .graphics base f >>= next) t r)
    (follows : Follows d.Step t mem mem') :
    ∃ rest, t = loadEvent .graphics (base + BitVec.ofNat 64 f.offset) f.size (f.read mem base) ::
        rest ∧
      Does (next (f.read mem base)) rest r ∧ Follows d.Step rest mem mem' := by
  rcases (does_loadField_bind _ _ f _).mp does with ⟨v, rest, rfl, later⟩
  rcases follows with ⟨mid, ⟨value, same⟩, follows⟩
  subst same
  have value : v = f.read mid base := value
  subst value
  exact ⟨rest, rfl, later, follows⟩

theorem search_query {turns i : Nat} {query : BitVec 64 × Addr} (below : i < d.modes.length)
    (inMem : d.In mem)
    (does : Does (search d target graphicsMode (turns + 1) (BitVec.ofNat 32 i) query) t r)
    (follows : Follows d.Step t mem mem') :
    ∃ a a' v v' status out rest mid,
      t = loadEvent .graphics a 8 v :: loadEvent .graphics a' 4 v' ::
        callEvent (.queryMode d.protocol (BitVec.ofNat 32 i)) (status, out) :: rest ∧
      d.Step (callEvent (.queryMode d.protocol (BitVec.ofNat 32 i)) (status, out)) mem mid ∧
      Follows d.Step rest mid mem' ∧
      Does (examine d target graphicsMode turns (BitVec.ofNat 32 i) status
        (Option.getD out query)) rest r := by
  unfold search findGraphicsModeFrom at does
  rcases does_field GraphicsOutputProtocol.mode does follows with ⟨_, rfl, count, follows⟩
  rcases does_field GraphicsOutputProtocolMode.maxMode count follows with ⟨_, rfl, next, follows⟩
  have bound := d.bounded
  have more : BitVec.ofNat 32 i < (BitVec.ofNat 32 d.modes.length) := by
    rw [BitVec.lt_def, BitVec.toNat_ofNat, BitVec.toNat_ofNat]
    omega
  rw [inMem.mode, inMem.maxMode, if_neg (not_not_intro more)] at next
  simp only [queryMode, does_efiPrint_bind, does_efiPrintnum_bind, does_callOut_bind, Call.prints,
    efiError_eq_false, Bool.false_eq_true, if_false, not_false_eq_true] at next
  rcases next with ⟨⟨status, out⟩, rest, rfl, next⟩
  rcases follows with ⟨mid, queried, follows⟩
  exact ⟨_, _, _, _, status, out, rest, mid, rfl, queried, follows, next⟩

def Searches (e : BootEvent) : Prop :=
  (∃ a n v, e = loadEvent .graphics a n v) ∨
    ∃ this i status out, ¬ Failed status ∧ e = callEvent (.queryMode this i) (status, out)

theorem searches_load (a : Addr) (n : Nat) (v : BitVec (8 * n)) :
    Searches (loadEvent .graphics a n v) := Or.inl ⟨a, n, v, rfl⟩

theorem examine_miss {turns : Nat} {i : BitVec 32} {status : EfiStatus} {query : BitVec 64 × Addr}
    {info : ModeInfo} (held : info.At mem query.2) (other : info ≠ target)
    (does : Does (examine d target graphicsMode turns i status query) t r)
    (follows : Follows d.Step t mem mem') :
    ∃ seen rest, t = seen ++ rest ∧ (∀ e ∈ seen, Searches e) ∧ Follows d.Step rest mem mem' ∧
      Does (search d target graphicsMode turns (i + 1) query) rest r := by
  unfold examine at does
  rcases does_field GraphicsOutputModeInformation.horizontalResolution does follows with
    ⟨t₁, rfl, does, follows⟩
  rw [held.width] at does
  by_cases width : info.horizontalResolution = target.horizontalResolution
  · rw [if_pos width] at does
    rcases does_field GraphicsOutputModeInformation.verticalResolution does follows with
      ⟨t₂, rfl, does, follows⟩
    rw [held.height] at does
    by_cases height : info.verticalResolution = target.verticalResolution
    · rw [if_pos height] at does
      rcases does_field GraphicsOutputModeInformation.pixelFormat does follows with
        ⟨t₃, rfl, does, follows⟩
      rw [held.format] at does
      have format : info.pixelFormat ≠ target.pixelFormat := fun format =>
        other (ModeInfo.ext width height format)
      rw [if_neg format] at does
      refine ⟨[_, _, _], t₃, rfl, ?_, follows, does⟩
      simp only [List.forall_mem_cons]
      exact ⟨searches_load .., searches_load .., searches_load .., by simp⟩
    · rw [if_neg height] at does
      refine ⟨[_, _], t₂, rfl, ?_, follows, does⟩
      simp only [List.forall_mem_cons]
      exact ⟨searches_load .., searches_load .., by simp⟩
  · rw [if_neg width] at does
    refine ⟨[_], t₁, rfl, ?_, follows, does⟩
    simp only [List.forall_mem_cons]
    exact ⟨searches_load .., by simp⟩

theorem examine_hit {turns : Nat} {i : BitVec 32} {status : EfiStatus} {query : BitVec 64 × Addr}
    (held : target.At mem query.2)
    (does : Does (examine d target graphicsMode turns i status query) t r)
    (follows : Follows d.Step t mem mem') :
    (∀ e ∈ t, Searches e) ∧ r = .ok (status, i.setWidth 64) := by
  unfold examine at does
  rcases does_field GraphicsOutputModeInformation.horizontalResolution does follows with
    ⟨t₁, rfl, does, follows⟩
  rw [held.width, if_pos rfl] at does
  rcases does_field GraphicsOutputModeInformation.verticalResolution does follows with
    ⟨t₂, rfl, does, follows⟩
  rw [held.height, if_pos rfl] at does
  rcases does_field GraphicsOutputModeInformation.pixelFormat does follows with
    ⟨t₃, rfl, does, follows⟩
  rw [held.format, if_pos rfl] at does
  simp only [does_efiPrint_bind, does_pure] at does
  rcases does with ⟨rfl, rfl⟩
  refine ⟨?_, rfl⟩
  simp only [List.forall_mem_cons]
  exact ⟨searches_load .., searches_load .., searches_load .., by simp⟩

theorem modeNumber_toNat {i : Nat} (below : i < d.modes.length) : (BitVec.ofNat 32 i).toNat = i := by
  have bound := d.bounded
  rw [BitVec.toNat_ofNat]
  exact Nat.mod_eq_of_lt (by omega)

theorem search_queried {turns i : Nat} {query : BitVec 64 × Addr} {info : ModeInfo}
    (mode : d.modes[i]? = some (some info)) (inMem : d.In mem)
    (does : Does (search d target graphicsMode (turns + 1) (BitVec.ofNat 32 i) query) t r)
    (follows : Follows d.Step t mem mem') :
    ∃ seen rest query' status mid, t = seen ++ rest ∧ (∀ e ∈ seen, Searches e) ∧ d.In mid ∧
      info.At mid query'.2 ∧ Follows d.Step rest mid mem' ∧
      Does (examine d target graphicsMode turns (BitVec.ofNat 32 i) status query') rest r := by
  obtain ⟨below, -⟩ := List.getElem?_eq_some_iff.mp mode
  obtain ⟨a, a', v, v', status, out, rest, mid, rfl, queried, followed, next⟩ :=
    search_query below inMem does follows
  obtain ⟨later, answer⟩ := queried
  rw [modeNumber_toNat below, mode] at answer
  obtain ⟨succeeds, size, p, rfl, held⟩ := answer
  refine ⟨[_, _, _], rest, (size, p), status, mid, rfl, ?_, later, held, followed, next⟩
  simp only [List.forall_mem_cons]
  exact ⟨searches_load .., searches_load .., Or.inr ⟨_, _, _, _, succeeds, rfl⟩, by simp⟩

/-- The loop passes modes other than the target, by induction on their number. -/
theorem search_reaches (passed turns : Nat) {i : Nat} {query : BitVec 64 × Addr}
    (others : ∀ j, i ≤ j → j < i + passed → ∃ info, d.modes[j]? = some (some info) ∧ info ≠ target)
    (inMem : d.In mem)
    (does : Does (search d target graphicsMode (turns + passed) (BitVec.ofNat 32 i) query) t r)
    (follows : Follows d.Step t mem mem') :
    ∃ seen rest query' mid, t = seen ++ rest ∧ (∀ e ∈ seen, Searches e) ∧ d.In mid ∧
      Follows d.Step rest mid mem' ∧
      Does (search d target graphicsMode turns (BitVec.ofNat 32 (i + passed)) query') rest r := by
  induction passed generalizing i query mem t with
  | zero => exact ⟨[], t, query, mem, rfl, by simp, inMem, follows, does⟩
  | succ passed ih =>
      obtain ⟨info, mode, other⟩ := others i (Nat.le_refl i) (by omega)
      obtain ⟨queried, _, query', status, mid, rfl, first, inMem, held, follows, does⟩ :=
        search_queried mode inMem does follows
      obtain ⟨examined, _, rfl, second, follows, does⟩ := examine_miss held other does follows
      have next : BitVec.ofNat 32 i + 1 = BitVec.ofNat 32 (i + 1) := (BitVec.ofNat_add i 1).symm
      rw [next] at does
      obtain ⟨seen, rest, query'', mid', rfl, third, inMem, follows, does⟩ :=
        ih (fun j above before => others j (by omega) (by omega)) inMem does follows
      rw [Nat.add_right_comm, Nat.add_assoc] at does
      refine ⟨queried ++ examined ++ seen, rest, query'', mid', by simp only [List.append_assoc],
        ?_, inMem, follows, does⟩
      simp only [List.forall_mem_append]
      exact ⟨⟨first, second⟩, third⟩

/-- A turn for a mode whose query fails: its information is read all the same. -/
theorem search_failed {turns i : Nat} {query : BitVec 64 × Addr} (mode : d.modes[i]? = some none)
    (inMem : d.In mem)
    (does : Does (search d target graphicsMode (turns + 1) (BitVec.ofNat 32 i) query) t r)
    (follows : Follows d.Step t mem mem') : ReadsFailedQuery t := by
  obtain ⟨below, -⟩ := List.getElem?_eq_some_iff.mp mode
  obtain ⟨a, a', v, v', status, out, rest, mid, rfl, queried, -, next⟩ :=
    search_query below inMem does follows
  obtain ⟨-, answer⟩ := queried
  rw [modeNumber_toNat below, mode] at answer
  unfold examine at next
  rcases (does_loadField_bind _ _ GraphicsOutputModeInformation.horizontalResolution _).mp next with
    ⟨width, later, rfl, -⟩
  exact ⟨[_, _], _, _, status, out, _, width, later, answer, rfl⟩

theorem ReadsFailedQuery.append {t₁ : Trace} (reads : ReadsFailedQuery t₁) (before after : Trace) :
    ReadsFailedQuery (before ++ t₁ ++ after) := by
  obtain ⟨seen, this, i, status, out, a, v, rest, failed, rfl⟩ := reads
  refine ⟨before ++ seen, this, i, status, out, a, v, rest ++ after, failed, ?_⟩
  simp only [List.append_assoc, List.cons_append]

theorem not_readsFailedQuery (succeed : ∀ e ∈ t, ∀ this i status out,
      e = callEvent (.queryMode this i) (status, out) → ¬ Failed status) :
    ¬ ReadsFailedQuery t := by
  rintro ⟨before, this, i, status, out, a, v, after, failed, rfl⟩
  exact succeed _ (List.mem_append_right before List.mem_cons_self) this i status out rfl failed

theorem firstMatch_eq_some {i : Nat} : d.firstMatch target = some i ↔
    d.modes[i]? = some (some target) ∧ ∀ j, j < i → d.modes[j]? ≠ some (some target) := by
  rw [GraphicsDevice.firstMatch, List.findIdx?_eq_some_iff_getElem]
  simp only [beq_iff_eq]
  constructor
  · rintro ⟨below, here, earlier⟩
    refine ⟨by rw [List.getElem?_eq_getElem below, here], ?_⟩
    intro j before same
    rw [List.getElem?_eq_getElem (Nat.lt_trans before below)] at same
    exact earlier j before (Option.some.inj same)
  · rintro ⟨mode, earlier⟩
    obtain ⟨below, here⟩ := List.getElem?_eq_some_iff.mp mode
    refine ⟨below, here, fun j before same => earlier j before ?_⟩
    rw [List.getElem?_eq_getElem (Nat.lt_trans before below), same]

theorem passedBefore {k : Nat}
    (others : ∀ i, i < k → d.modes[i]? ≠ some none ∧ d.modes[i]? ≠ some (some target))
    (below : k < d.modes.length) (j : Nat) (_ : 0 ≤ j) (before : j < 0 + k) :
    ∃ info, d.modes[j]? = some (some info) ∧ info ≠ target := by
  rw [Nat.zero_add] at before
  have here := List.getElem?_eq_getElem (Nat.lt_trans before below)
  obtain ⟨succeeds, other⟩ := others j before
  cases mode : d.modes[j] with
  | none => exact absurd (here.trans (congrArg some mode)) succeeds
  | some info =>
      rw [mode] at here
      exact ⟨info, here, fun same => other (same ▸ here)⟩

theorem search_found {i : Nat} {query : BitVec 64 × Addr} (first : d.firstMatch target = some i)
    (succeed : ∀ j, j < i → d.modes[j]? ≠ some none) (inMem : d.In mem)
    (does : Does (search d target graphicsMode (2 ^ 32) 0 query) t r)
    (follows : Follows d.Step t mem mem') :
    (∀ e ∈ t, Searches e) ∧ ∃ status, r = .ok (status, (BitVec.ofNat 32 i).setWidth 64) := by
  obtain ⟨mode, earlier⟩ := firstMatch_eq_some.mp first
  obtain ⟨below, -⟩ := List.getElem?_eq_some_iff.mp mode
  have bound := d.bounded
  obtain ⟨turns, count⟩ : ∃ turns, 2 ^ 32 = turns + 1 + i := ⟨2 ^ 32 - 1 - i, by omega⟩
  rw [count] at does
  obtain ⟨passed, _, query', mid, rfl, seen, inMem, follows, does⟩ :=
    search_reaches i (turns + 1) (i := 0)
      (passedBefore (fun j before => ⟨succeed j before, earlier j before⟩) below) inMem does follows
  rw [Nat.zero_add] at does
  obtain ⟨queried, _, query'', status, mid', rfl, seen', inMem, held, follows, does⟩ :=
    search_queried mode inMem does follows
  obtain ⟨seen'', ended⟩ := examine_hit held does follows
  refine ⟨?_, status, ended⟩
  simp only [List.forall_mem_append]
  exact ⟨seen, seen', seen''⟩

theorem search_reads {j : Nat} {query : BitVec 64 × Addr} (fails : d.modes[j]? = some none)
    (others : ∀ i, i < j → d.modes[i]? ≠ some none ∧ d.modes[i]? ≠ some (some target))
    (inMem : d.In mem) (does : Does (search d target graphicsMode (2 ^ 32) 0 query) t r)
    (follows : Follows d.Step t mem mem') : ReadsFailedQuery t := by
  obtain ⟨below, -⟩ := List.getElem?_eq_some_iff.mp fails
  have bound := d.bounded
  obtain ⟨turns, count⟩ : ∃ turns, 2 ^ 32 = turns + 1 + j := ⟨2 ^ 32 - 1 - j, by omega⟩
  rw [count] at does
  obtain ⟨passed, rest, query', mid, rfl, -, inMem, follows, does⟩ :=
    search_reaches j (turns + 1) (i := 0) (passedBefore others below) inMem does follows
  rw [Nat.zero_add] at does
  have reads := (search_failed fails inMem does follows).append passed []
  rwa [List.append_nil] at reads

theorem search_reads_earlier {i j : Nat} {query : BitVec 64 × Addr}
    (first : d.firstMatch target = some i) (before : j < i) (fails : d.modes[j]? = some none)
    (inMem : d.In mem) (does : Does (search d target graphicsMode (2 ^ 32) 0 query) t r)
    (follows : Follows d.Step t mem mem') : ReadsFailedQuery t := by
  obtain ⟨-, earlier⟩ := firstMatch_eq_some.mp first
  have some : ∃ j, d.modes[j]? = some none := ⟨j, fails⟩
  have least : Nat.find some ≤ j := Nat.find_min' some fails
  exact search_reads (Nat.find_spec some)
    (fun k below => ⟨Nat.find_min some below, earlier k (by omega)⟩) inMem does follows

end Search

/-- `set_graphics_mode` sets a mode whatever the search has found. -/
theorem does_setGraphicsMode {protocol : Addr} {width height format : BitVec 32}
    {query : BitVec 64 × Addr} {t : Trace} {r : Except Halt EfiStatus}
    (does : Does (setGraphicsMode protocol width height format query) t r) :
    ∃ t₁ t₂ m, t = t₁ ++ t₂ ∧ Does (findGraphicsMode protocol width height format 0 query) t₁ m ∧
      ((∃ h, m = .error h ∧ r = .error h) ∨
        ∃ found n set clear resets, m = .ok (found, n) ∧
          t₂ = [callEvent (.setMode protocol (n.setWidth 32)) set, callEvent .clearScreen clear,
            callEvent (.reset 0) resets]) := by
  obtain ⟨t₁, t₂, m, rfl, search, rest⟩ := runsKeeping_bind.mp does
  refine ⟨t₁, t₂, m, rfl, search, ?_⟩
  cases m with
  | error h => exact Or.inl ⟨h, rfl, rest.2⟩
  | ok result =>
      right
      obtain ⟨found, n⟩ := result
      change Does _ t₂ r at rest
      simp only [setMode, clearScreen, reset, efiError_eq_false, Bool.false_eq_true, if_false,
        does_callStatus_bind, does_pure, Call.prints, not_false_eq_true] at rest
      obtain ⟨set, _, rfl, clear, _, rfl, resets, _, rfl, rfl, rfl⟩ := rest
      exact ⟨found, n, set, clear, resets, rfl, rfl⟩

section Selection

variable {d : GraphicsDevice} {target : ModeInfo} {t : Trace} {r : Except Halt EfiStatus}

theorem modesSet_effective (t : Trace) : modesSet (t.filter effective) = modesSet t := by
  rw [modesSet, modesSet, List.filterMap_filter]
  congr 1
  funext e
  rcases e with ⟨op, reply⟩
  cases op with
  | load region a n => rfl
  | store region a n v => rfl
  | call c => cases c <;> rfl

theorem modesSet_quiet {t : Trace} (quiet : ∀ e ∈ t, ¬ Reconfigures e) : modesSet t = [] := by
  rw [modesSet, List.filterMap_eq_nil_iff]
  intro e member
  split
  · next this modeNumber op =>
      have reconfigures : Reconfigures e := by
        rw [Reconfigures, op]
        trivial
      exact absurd reconfigures (quiet e member)
  · rfl

theorem modesSet_searches {t : Trace} (searches : ∀ e ∈ t, Searches e) : modesSet t = [] := by
  rw [modesSet, List.filterMap_eq_nil_iff]
  intro e member
  rcases searches e member with ⟨a, n, v, rfl⟩ | ⟨this, i, status, out, -, rfl⟩
  · rfl
  · rfl

theorem Searches.succeeds {e : BootEvent} (searches : Searches e) (this : Addr) (i : BitVec 32)
    (status : EfiStatus) (out : Option (BitVec 64 × Addr))
    (query : e = callEvent (.queryMode this i) (status, out)) : ¬ Failed status := by
  subst query
  rcases searches with ⟨a, n, v, load⟩ | ⟨this', i', status', out', succeeds, same⟩
  · cases load
  · cases same
    exact succeeds

/-- The selection is exact if and only if there is a match and no query before it fails. -/
theorem selectsExactly_iff (d : GraphicsDevice) (target : ModeInfo) (query : BitVec 64 × Addr)
    (t : Trace) (r : Except Halt EfiStatus) {mem mem' : Memory 64} (inMem : d.In mem)
    (runs : Runs (setGraphicsMode d.protocol target.horizontalResolution target.verticalResolution
      target.pixelFormat query) t r) (follows : Follows d.Step t mem mem') :
    SelectsExactly d target t r ↔
      ∃ i, d.firstMatch target = some i ∧ ∀ j, j < i → d.modes[j]? ≠ some none := by
  obtain ⟨t₁, t₂, m, split, searches, rest⟩ := does_setGraphicsMode runs.keeping
  have filtered := follows.filter d.step_silent
  rw [split] at filtered
  obtain ⟨mid, followed, -⟩ := follows_append.mp filtered
  constructor
  · intro exact
    cases found : d.firstMatch target with
    | none =>
        exfalso
        obtain ⟨quiet, unsupported⟩ := exact.refuses found
        rcases rest with ⟨h, -, halted⟩ | ⟨status, n, set, clear, resets, -, ended⟩
        · cases halted.symm.trans unsupported
        · have present : callEvent (.setMode d.protocol (n.setWidth 32)) set ∈
              t.filter effective := by
            rw [split, ended]
            exact List.mem_append_right t₁ List.mem_cons_self
          exact quiet _ (List.mem_filter.mp present).1 trivial
    | some i =>
        refine ⟨i, rfl, ?_⟩
        by_contra fails
        simp only [not_forall, not_not] at fails
        obtain ⟨j, before, failing⟩ := fails
        apply exact.reads
        rw [split]
        exact (search_reads_earlier found before failing inMem searches followed).append [] t₂
  · rintro ⟨i, first, succeed⟩
    obtain ⟨seen, status, found⟩ := search_found first succeed inMem searches followed
    rcases rest with ⟨h, halted, -⟩ | ⟨found', n, set, clear, resets, ended, rfl⟩
    · cases halted.symm.trans found
    · cases ended.symm.trans found
      refine ⟨?_, ?_, ?_⟩
      · intro k other
        cases first.symm.trans other
        rw [← modesSet_effective, split, modesSet, List.filterMap_append, ← modesSet,
          modesSet_searches seen]
        simp [callEvent]
      · intro none
        cases first.symm.trans none
      · rw [split]
        apply not_readsFailedQuery
        intro e member this k status' out same
        rcases List.mem_append.mp member with early | late
        · exact (seen e early).succeeds this k status' out same
        · subst same
          simp only [List.mem_cons, List.not_mem_nil, or_false] at late
          rcases late with same | same | same
          · cases same
          · cases same
          · cases same

end Selection

section Sample

/-- Two modes, the second of which is the bootloader's target. -/
def sampleDevice : GraphicsDevice where
  protocol := 0x1000
  mode := 0x2000
  modes := [some ⟨1024, 768, 1⟩, some ⟨800, 600, 1⟩]
  bounded := by decide

def sampleMemory : Memory 64 :=
  [(0x1018, 0x2000), (0x2000, 2), (0x3004, 1024), (0x3008, 768), (0x300C, 1), (0x3104, 800),
    (0x3108, 600), (0x310C, 1)].foldl (fun mem word => ByteMemory.store mem word.1 (n := 4) word.2)
      fun _ => 0

def sampleReply (o : Op) (mem : Memory 64) : Reply o × Memory 64 :=
  match o with
  | .load _ a n => (ByteMemory.load mem a n, mem)
  | .store .. => ((), mem)
  | .call (.queryMode _ i) => ((efiSuccess, some (36, 0x3000 + 0x100 * i.setWidth 64)), mem)
  | .call c => ((efiSuccess, c.noOutput), mem)

def sampleAllow (o : Op) (_ : Memory 64) : Bool :=
  match o with
  | .load .. | .call (.outputString _) | .call (.setMode ..) | .call .clearScreen
  | .call (.reset _) => true
  | .call (.queryMode _ i) => i = 0 || i = 1
  | _ => false

theorem sample_in : sampleDevice.In sampleMemory where
  mode := (by decide +kernel : ByteMemory.load sampleMemory 0x1018 8 = (0x2000 : BitVec 64))
  maxMode := (by decide +kernel : ByteMemory.load sampleMemory 0x2000 4 = (2 : BitVec 32))

theorem sample_first : ModeInfo.At ⟨1024, 768, 1⟩ sampleMemory 0x3000 where
  width := (by decide +kernel : ByteMemory.load sampleMemory 0x3004 4 = (1024 : BitVec 32))
  height := (by decide +kernel : ByteMemory.load sampleMemory 0x3008 4 = (768 : BitVec 32))
  format := (by decide +kernel : ByteMemory.load sampleMemory 0x300C 4 = (1 : BitVec 32))

theorem sample_second : ModeInfo.At ⟨800, 600, 1⟩ sampleMemory 0x3100 where
  width := (by decide +kernel : ByteMemory.load sampleMemory 0x3104 4 = (800 : BitVec 32))
  height := (by decide +kernel : ByteMemory.load sampleMemory 0x3108 4 = (600 : BitVec 32))
  format := (by decide +kernel : ByteMemory.load sampleMemory 0x310C 4 = (1 : BitVec 32))

theorem sample_lawful (o : Op) (mem : Memory 64) (allowed : sampleAllow o mem)
    (same : mem = sampleMemory) :
    sampleDevice.Step ⟨o, (sampleReply o mem).1⟩ mem (sampleReply o mem).2 ∧
      (sampleReply o mem).2 = sampleMemory := by
  subst same
  cases o with
  | load region a n => exact ⟨⟨rfl, rfl⟩, rfl⟩
  | store region a n v => cases allowed
  | call c =>
      cases c with
      | outputString string => exact ⟨rfl, rfl⟩
      | setMode this modeNumber => exact ⟨trivial, rfl⟩
      | clearScreen => exact ⟨trivial, rfl⟩
      | reset extendedVerification => exact ⟨trivial, rfl⟩
      | queryMode this i =>
          have success : ¬ Failed efiSuccess := by decide
          refine ⟨⟨sample_in, ?_⟩, rfl⟩
          rcases Bool.or_eq_true_iff.mp allowed with first | second
          · obtain rfl : i = 0 := of_decide_eq_true first
            exact ⟨success, _, _, rfl, sample_first⟩
          · obtain rfl : i = 1 := of_decide_eq_true second
            exact ⟨success, _, _, rfl, sample_second⟩
      | _ => cases allowed

abbrev sampleSelection (target : ModeInfo) : Program EfiStatus :=
  setGraphicsMode 0x1000 target.horizontalResolution target.verticalResolution target.pixelFormat
    (0, 0)

abbrev sampleRun (target : ModeInfo) : Trace × Except Halt EfiStatus × Memory 64 :=
  exec sampleReply (sampleSelection target) sampleMemory

theorem sample_follows (target : ModeInfo)
    (all : allowed sampleReply sampleAllow (sampleSelection target) sampleMemory) :
    Follows sampleDevice.Step (sampleRun target).1 sampleMemory (sampleRun target).2.2 :=
  exec_follows id (fun o mem => sample_lawful o mem) rfl all

/-- The bootloader's target is found behind another mode. -/
theorem sample_selects :
    SelectsExactly sampleDevice ⟨800, 600, 1⟩ (sampleRun ⟨800, 600, 1⟩).1
        (sampleRun ⟨800, 600, 1⟩).2.1 ↔
      ∃ i, sampleDevice.firstMatch ⟨800, 600, 1⟩ = some i ∧
        ∀ j, j < i → sampleDevice.modes[j]? ≠ some none :=
  selectsExactly_iff sampleDevice ⟨800, 600, 1⟩ (0, 0) _ _ sample_in (exec_runs sampleReply _ _)
    (sample_follows ⟨800, 600, 1⟩ (by decide +kernel))

/-- No mode is as wide as 640 pixels, and mode 0 is set. -/
theorem sample_sets_other :
    Runs (sampleSelection ⟨640, 480, 1⟩) (sampleRun ⟨640, 480, 1⟩).1
        (sampleRun ⟨640, 480, 1⟩).2.1 ∧
      Follows sampleDevice.Step (sampleRun ⟨640, 480, 1⟩).1 sampleMemory
        (sampleRun ⟨640, 480, 1⟩).2.2 ∧
      sampleDevice.firstMatch ⟨640, 480, 1⟩ = none ∧
      modesSet (sampleRun ⟨640, 480, 1⟩).1 = [0] ∧
      ¬ SelectsExactly sampleDevice ⟨640, 480, 1⟩ (sampleRun ⟨640, 480, 1⟩).1
        (sampleRun ⟨640, 480, 1⟩).2.1 := by
  have follows := sample_follows ⟨640, 480, 1⟩ (by decide +kernel)
  have sets : modesSet (sampleRun ⟨640, 480, 1⟩).1 = [0] := by decide +kernel
  refine ⟨exec_runs sampleReply _ _, follows, by decide, sets, ?_⟩
  intro selects
  have none := modesSet_quiet (selects.refuses (by decide)).1
  rw [sets] at none
  cases none

end Sample

end Flosp.Boot
