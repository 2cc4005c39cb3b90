import Flosp.Kernel.Cursor

/-! What any console output leaves alone. -/

namespace Flosp.Kernel

open ByteMemory

namespace Screen

/-- A bound on the pixels that characters are drawn to: the column is a 16-bit counter. -/
def reach (s : Screen) : Nat := s.size + 65543

theorem reach_bounds (s : Screen) : s.size ≤ s.reach ∧ s.reach < 2 ^ 60 := by
  have size := s.size_bound
  rw [reach]
  omega

/-- No console output stores to `x`. -/
def Untouched (s : Screen) (x : Addr) : Prop :=
  ¬ Within x s.base (4 * s.reach) ∧ ¬ Within x s.mode.framebufferPointer s.flushed

end Screen

theorem cellFits_reach {s : Screen} {k : Console} (on : k.On s) :
    k.cursor.CellFits s s.reach := by
  have lines := s.lines_bounds
  have line := on.line
  have col := k.textColPx.isLt
  have rows : (16 * k.textLine.toNat + 15) * s.width ≤ s.size := s.rows_bound (by omega)
  change (16 * k.textLine.toNat + 15) * s.width + k.textColPx.toNat + 8 ≤ s.size + 65543
  omega

/-- Console output, possibly with loads of its own between the characters. -/
structure Prints (s : Screen) (k k' : Console) : Prop where
  on : k'.On s
  grows : Extends k.machine k'.machine
  accesses : AllNew (ConsoleAccess s s.reach) k.machine k'.machine

namespace Prints

variable {s : Screen} {k k' k'' : Console}

theorem refl (on : k.On s) : Prints s k k := ⟨on, Extends.refl _, AllNew.refl _ _⟩

theorem trans (first : Prints s k k') (second : Prints s k' k'') : Prints s k k'' :=
  ⟨second.on, first.grows.trans second.grows,
    (AllNew.trans_iff first.grows second.grows).mpr ⟨first.accesses, second.accesses⟩⟩

theorem of_operates {p : Cursor} {f : Prop} (operates : Operates s s.reach k k' p f) (fits : f) :
    Prints s k k' :=
  ⟨operates.on, operates.grows, operates.accesses.mpr fits⟩

theorem of_loads {machine : KernelMachine} (on : k.On s) (loads : Loads k.machine machine) :
    Prints s k { k with machine } where
  on := ⟨on.mode, on.width, on.height, on.font, on.last, on.line⟩
  grows := loads.grows
  accesses := loads.kinds.mono fun e load store => by
    rw [load] at store
    cases store

theorem avoids {x : Addr} {e : Access 64 Origin} (access : ConsoleAccess s s.reach e)
    (untouched : s.Untouched x) (stored : e.kind = .store) : ¬ Within x e.addr e.len := by
  intro inside
  have allowed := access stored
  split at allowed
  · exact untouched.1 (allowed x inside)
  · exact untouched.2 (allowed x inside)
  · exact allowed

theorem mem_eq (prints : Prints s k k') {x : Addr} (untouched : s.Untouched x) :
    k'.machine.mem x = k.machine.mem x :=
  AllNew.mem_eq prints.grows (prints.accesses.mono fun _ access => avoids access untouched)

end Prints

theorem bind_ok {α β : Type} {x : Outcome α} {f : α → Outcome β} {a : α} {r : Outcome β}
    (first : x = .ok a) (rest : f a = r) : (x >>= f) = r := by
  rw [first]
  exact rest

theorem prints_bind {s : Screen} {k : Console} {r : Outcome Console}
    {f : Console → Outcome Console} (first : ∃ k', r = .ok k' ∧ Prints s k k')
    (rest : ∀ k', k'.On s → ∃ k'', f k' = .ok k'' ∧ Prints s k' k'') :
    ∃ k'', (r >>= f) = .ok k'' ∧ Prints s k k'' := by
  obtain ⟨k', ends, prints⟩ := first
  obtain ⟨k'', ends', prints'⟩ := rest k' prints.on
  exact ⟨k'', bind_ok ends ends', prints.trans prints'⟩

section Output

variable {s : Screen} {k : Console}

theorem kputchar_prints (on : k.On s) (c : BitVec 8) :
    ∃ k', kputchar c k = .ok k' ∧ Prints s k k' := by
  obtain ⟨k', puts, operates⟩ := kputchar_operates s.reach_bounds.1 s.reach_bounds.2 on c
  exact ⟨k', puts, Prints.of_operates operates (Or.inr (Or.inr (cellFits_reach on)))⟩

theorem backspace_prints (on : k.On s) : ∃ k', backspace k = .ok k' ∧ Prints s k k' := by
  obtain ⟨k', erases, operates⟩ := backspace_operates s.reach_bounds.1 s.reach_bounds.2 on
  have back : Console.On s { k with textColPx := k.textColPx - 9 } :=
    ⟨on.mode, on.width, on.height, on.font, on.last, on.line⟩
  exact ⟨k', erases, Prints.of_operates operates fun _ => cellFits_reach back⟩

theorem kprint_prints (on : k.On s) (t : List (BitVec 8)) :
    ∃ k', kprint t k = .ok k' ∧ Prints s k k' := by
  induction t generalizing k with
  | nil => exact ⟨k, rfl, Prints.refl on⟩
  | cons c t ih =>
      rw [kprint]
      by_cases null : c = 0
      · rw [if_pos null]
        exact ⟨k, rfl, Prints.refl on⟩
      · rw [if_neg null]
        exact prints_bind (kputchar_prints on c) fun k' on' => ih on'

theorem kprintHex_prints (on : k.On s) (h : BitVec 64) (zeroX : Bool) :
    ∃ k', kprintHex h zeroX k = .ok k' ∧ Prints s k k' := by
  cases zeroX with
  | false => exact kprint_prints on (numeralText 16 hexDigit 0 h)
  | true =>
      apply prints_bind (kprint_prints on (ascii "0x"))
      intro k' on'
      exact kprint_prints on' (numeralText 16 hexDigit 0 h)

theorem kernLog_prints (on : k.On s) (filter : BitVec 8) (msg : String) :
    ∃ k', kernLog filter msg k = .ok k' ∧ Prints s k k' := by
  unfold kernLog
  split
  · apply prints_bind (kprint_prints on (ascii msg))
    intro k' on'
    exact kprint_prints on' (ascii "\n")
  · exact ⟨k, rfl, Prints.refl on⟩

theorem kscrollDown_prints (on : k.On s) : ∃ k', kscrollDown k = .ok k' ∧ Prints s k k' := by
  obtain ⟨k', scrolls, operates⟩ := kscrollDown_operates s.reach_bounds.1 s.reach_bounds.2 on
  exact ⟨k', scrolls, Prints.of_operates operates trivial⟩

theorem flushFramebuffer_prints (on : k.On s) : Prints s k (flushFramebuffer k) :=
  Prints.of_operates (flushFramebuffer_operates on) trivial

theorem blankOutput_prints (on : k.On s) : Prints s k (blankOutput k) :=
  Prints.of_operates (blankOutput_operates s.reach_bounds.1 on) trivial

end Output

section Flags

variable {s : Screen} {k : Console}

theorem getMemPage_loads (cr3 addr : BitVec 64) (m : KernelMachine) :
    Loads m (getMemPage cr3 addr m).2 := by
  have load (a : Addr) (m : KernelMachine) : Loads m (loadEntry a m).2 :=
    Loads.load m .pageTable a 8
  unfold getMemPage
  dsimp only
  split
  · exact (load _ m).trans (load _ _)
  · split
    · exact ((load _ m).trans (load _ _)).trans ((load _ _).trans (load _ _))
    · exact (((load _ m).trans (load _ _)).trans ((load _ _).trans (load _ _))).trans (load _ _)

theorem kprintEntry_prints (on : k.On s) (page : Addr) :
    ∃ k', kprintEntry page k = .ok k' ∧ Prints s k k' := by
  have loaded := Prints.of_loads on (Loads.load k.machine .pageTable page 8)
  obtain ⟨k', prints, rest⟩ := kprintHex_prints loaded.on (loadEntry page k.machine).1 true
  exact ⟨k', prints, loaded.trans rest⟩

theorem orEntry_on (on : k.On s) (page flags : BitVec 64) : (orEntry page flags k).On s :=
  ⟨on.mode, on.width, on.height, on.font, on.last, on.line⟩

/-- What is printed before the entry is written, after `blank_output` -/
def reportEntry (page addr flags : BitVec 64) (k : Console) : Outcome Console := do
  let k ← kprint (ascii "\nAddress:    ") k
  let k ← kprintHex addr true k
  let k ← kprint (ascii "\nPage_Addr:  ") k
  let k ← kprintHex page true k
  let k ← kprint (ascii "\nPage:       ") k
  let k ← kprintEntry page k
  let k ← kprint (ascii "\nFlags:      ") k
  let k ← kprintHex flags true k
  return flushFramebuffer k

/-- What is printed after it -/
def reportResult (page : BitVec 64) (k : Console) : Outcome Console := do
  let k ← kprint (ascii "\nPage(Post): ") k
  kprintEntry page k

def clearReport (k : Console) : Console :=
  flushFramebuffer (blankOutput (flushFramebuffer k))

theorem setMemPageFlags_eq (cr3 addr flags : BitVec 64) (k : Console) :
    setMemPageFlags cr3 addr flags k =
      reportEntry (getMemPage cr3 addr k.machine).1 addr flags
          (blankOutput { k with machine := (getMemPage cr3 addr k.machine).2 }) >>=
        fun k₁ => reportResult (getMemPage cr3 addr k.machine).1
            (orEntry (getMemPage cr3 addr k.machine).1 flags k₁) >>=
          fun k₂ => .ok (clearReport k₂) := by
  simp only [setMemPageFlags, reportEntry, reportResult, bind_assoc, pure_bind]
  rfl

theorem reportEntry_prints (on : k.On s) (page addr flags : BitVec 64) :
    ∃ k', reportEntry page addr flags k = .ok k' ∧ Prints s k k' := by
  unfold reportEntry
  apply prints_bind (kprint_prints on _)
  intro k on
  apply prints_bind (kprintHex_prints on addr true)
  intro k on
  apply prints_bind (kprint_prints on _)
  intro k on
  apply prints_bind (kprintHex_prints on page true)
  intro k on
  apply prints_bind (kprint_prints on _)
  intro k on
  apply prints_bind (kprintEntry_prints on page)
  intro k on
  apply prints_bind (kprint_prints on _)
  intro k on
  apply prints_bind (kprintHex_prints on flags true)
  intro k on
  exact ⟨_, rfl, flushFramebuffer_prints on⟩

theorem reportResult_prints (on : k.On s) (page : BitVec 64) :
    ∃ k', reportResult page k = .ok k' ∧ Prints s k k' :=
  prints_bind (kprint_prints on _) fun _ on' => kprintEntry_prints on' page

theorem clearReport_prints (on : k.On s) : Prints s k (clearReport k) := by
  have flush := flushFramebuffer_prints on
  have blank := blankOutput_prints flush.on
  exact (flush.trans blank).trans (flushFramebuffer_prints blank.on)

/-- `set_mem_page_flags` writes its entry between two stretches of console output. -/
theorem setMemPageFlags_prints (on : k.On s) (cr3 addr flags : BitVec 64) :
    ∃ k₁ k', setMemPageFlags cr3 addr flags k = .ok k' ∧ Prints s k k₁ ∧
      Prints s (orEntry (getMemPage cr3 addr k.machine).1 flags k₁) k' := by
  have walked := Prints.of_loads on (getMemPage_loads cr3 addr k.machine)
  have blank := blankOutput_prints walked.on
  obtain ⟨k₁, printed, before⟩ :=
    reportEntry_prints blank.on (getMemPage cr3 addr k.machine).1 addr flags
  obtain ⟨k₂, printed', after⟩ :=
    reportResult_prints (orEntry_on before.on _ flags) (getMemPage cr3 addr k.machine).1
  refine ⟨k₁, clearReport k₂, ?_, (walked.trans blank).trans before,
    after.trans (clearReport_prints after.on)⟩
  rw [setMemPageFlags_eq]
  apply bind_ok printed
  exact bind_ok printed' rfl

end Flags

/-- One text line of one character. -/
def cellScreen : Screen where
  mode := ⟨0x2000, 0x1000, 8, 16, 8⟩
  narrow := by decide
  tall := by decide
  short := by decide

def cellConsole (machine : KernelMachine) : Console :=
  { Console.loaded machine with
    videoModeInfo := cellScreen.mode
    framebufferInfo := ⟨8, 16, 32, 32⟩ }

theorem cellConsole_on (machine : KernelMachine) : (cellConsole machine).On cellScreen :=
  ⟨rfl, rfl, rfl, rfl, rfl, Nat.one_pos⟩

theorem cellScreen_untouched {x : Addr} (above : 0x100000 ≤ x.toNat) : cellScreen.Untouched x := by
  constructor
  · intro drawn
    rw [within_iff_toNat (by decide)] at drawn
    change 0x1000 ≤ _ ∧ _ < 0x1000 + 4 * (8 * 16 + 65543) at drawn
    omega
  · intro flushed
    rw [within_iff_toNat (by decide)] at flushed
    change 0x2000 ≤ _ ∧ _ < 0x2000 + 256 at flushed
    omega

end Flosp.Kernel
