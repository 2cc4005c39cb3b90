import Flosp.Kernel.Terminal

/-! What scrolling, typing and erasing do to a screen of any content. -/

namespace Flosp.Kernel

open ByteMemory

def Console.withCursor (k : Console) (p : Cursor) : Console :=
  { k with textLine := p.line, textColPx := p.col }

section Scrolling

variable {s : Screen} {k : Console}

theorem scrollRows_withCursor (p : Cursor) (turns : Nat) (pos : Addr) (k : Console) :
    scrollRows turns pos (k.withCursor p) = (scrollRows turns pos k).withCursor p := by
  induction turns generalizing pos k with
  | zero => rfl
  | succ turns ih => exact ih _ { k with machine := _ }

theorem blankPixels_withCursor (p : Cursor) (turns : Nat) (pos : Addr) (k : Console) :
    blankPixels turns pos (k.withCursor p) =
      ((blankPixels turns pos k).1, (blankPixels turns pos k).2.withCursor p) := by
  induction turns generalizing pos k with
  | zero => rfl
  | succ turns ih => exact ih _ (k.storePixel pos (rgb 0 0 0))

theorem blankLastLine_withCursor (p : Cursor) (turns : Nat) (pos : Addr) (k : Console) :
    blankLastLine turns pos (k.withCursor p) = (blankLastLine turns pos k).withCursor p := by
  induction turns generalizing pos k with
  | zero => rfl
  | succ turns ih =>
      rw [blankLastLine, blankPixels_withCursor, blankLastLine]
      exact ih _ _

theorem kscrollDown_withCursor {k' : Console} (p : Cursor) (scrolls : kscrollDown k = .ok k') :
    kscrollDown (k.withCursor p) = .ok (k'.withCursor p) := by
  unfold kscrollDown at scrolls ⊢
  split at scrolls
  · cases scrolls
  next rows =>
    split at scrolls
    · cases scrolls
    next columns =>
      rw [← Except.ok.inj scrolls]
      refine (if_neg rows).trans ((if_neg columns).trans ?_)
      change Except.ok (flushFramebuffer (blankLastLine _ _ (scrollRows _ _ (k.withCursor p)))) = _
      rw [scrollRows_withCursor]
      exact congrArg (Except.ok ∘ flushFramebuffer) (blankLastLine_withCursor p _ _ _)

/-- Scrolling moves the screen up by one text line, wherever the cursor is. -/
theorem kscrollDown_scrolls (s : Screen) (k : Console)
    (on : Console.On s { k with textLine := 0 })
    (apart : Apart s.mode.framebufferPointer s.flushed s.base (4 * s.size)) :
    ∃ k', kscrollDown k = .ok k' ∧
      (∀ y, y < s.height → ∀ x, x < s.width → k'.pixel s.base (y * s.width + x) =
        if y < 16 * k.maxTextLine.toNat then k.pixel s.base ((y + 16) * s.width + x)
        else if y < 16 * k.maxTextLine.toNat + 16 then rgb 0 0 0
        else k.pixel s.base (y * s.width + x)) ∧
      k'.textLine = k.textLine ∧ k'.textColPx = k.textColPx := by
  obtain ⟨k', scrolls, pixels⟩ := kscrollDown_pixel on apart
  have lines := s.lines_bounds
  have last : k.maxTextLine.toNat = s.lines - 1 :=
    (congrArg BitVec.toNat on.last).trans s.lastLine_toNat
  have bottom : 16 * k.maxTextLine.toNat + 16 = 16 * s.lines := by omega
  have back := kscrollDown_withCursor k.cursor scrolls
  refine ⟨k'.withCursor k.cursor, back, ?_, rfl, rfl⟩
  rw [bottom, last]
  exact pixels

theorem noteConsole_scrolls :
    ∃ k', kscrollDown noteConsole = .ok k' ∧
      (∀ y, y < noteScreen.height → ∀ x, x < noteScreen.width →
        k'.pixel noteScreen.base (y * noteScreen.width + x) =
          if y < 16 * noteConsole.maxTextLine.toNat then
            noteConsole.pixel noteScreen.base ((y + 16) * noteScreen.width + x)
          else if y < 16 * noteConsole.maxTextLine.toNat + 16 then rgb 0 0 0
          else noteConsole.pixel noteScreen.base (y * noteScreen.width + x)) ∧
      k'.textLine = noteConsole.textLine ∧ k'.textColPx = noteConsole.textColPx :=
  kscrollDown_scrolls noteScreen noteConsole ⟨rfl, rfl, rfl, rfl, by decide, by decide⟩
    noteScreen_apart

end Scrolling

/-- Column `x` of row `y` belongs to one of the `cells` characters from the cursor on. -/
def Cursor.InCells (p : Cursor) (cells y x : Nat) : Prop :=
  (16 * p.line.toNat ≤ y ∧ y < 16 * p.line.toNat + 16) ∧
    ∃ i, i < cells ∧ p.col.toNat + 9 * i ≤ x ∧ x < p.col.toNat + 9 * i + 8

/-- The cell at the cursor shows the glyph, and nothing else has changed but the column. -/
structure DrawsCell (s : Screen) (c : BitVec 8) (k k' : Console) : Prop where
  glyph : ∀ r, r < 16 → ∀ j, j < 8 →
    k'.pixel s.base ((16 * k.textLine.toNat + r) * s.width + (k.textColPx.toNat + j)) =
      if ((vgafont16 c).getD r 0).getLsbD (7 - j) then k.textColor else k.backgroundColor
  others : ∀ y, y < s.height → ∀ x, x < s.width → ¬ k.cursor.InCells 1 y x →
    k'.pixel s.base (y * s.width + x) = k.pixel s.base (y * s.width + x)
  elsewhere : ∀ a, ¬ Within a s.base (4 * s.size) → k'.machine.mem a = k.machine.mem a
  line : k'.textLine = k.textLine

/-- What drawing a character does to the console. -/
structure DrawsChar (s : Screen) (c : BitVec 8) (k k' : Console) : Prop extends
    DrawsCell s c k k' where
  col : k'.textColPx.toNat = k.textColPx.toNat + 9

section Drawing

variable {s : Screen} {k : Console}

theorem inCells_one {p : Cursor} {y x : Nat} : p.InCells 1 y x ↔
    (16 * p.line.toNat ≤ y ∧ y < 16 * p.line.toNat + 16) ∧
      p.col.toNat ≤ x ∧ x < p.col.toNat + 8 := by
  apply and_congr Iff.rfl
  constructor
  · rintro ⟨i, first, range⟩
    obtain rfl : i = 0 := by omega
    exact range
  · intro range
    exact ⟨0, Nat.one_pos, range⟩

theorem cellFits_of_room (on : k.On s) (room : k.textColPx.toNat + 8 ≤ s.width) :
    k.cursor.CellFits s s.size := by
  have lines := s.lines_bounds
  have line := on.line
  have rows : (16 * k.textLine.toNat + 15 + 1) * s.width ≤ s.size := s.rows_bound (by omega)
  rw [Nat.succ_mul] at rows
  change (16 * k.textLine.toNat + 15) * s.width + k.textColPx.toNat + 8 ≤ s.size
  omega

theorem drawn_elsewhere (on : k.On s) (c : BitVec 8) (room : k.textColPx.toNat + 8 ≤ s.width)
    {a : Addr} (outside : ¬ Within a s.base (4 * s.size)) :
    (drawRows (vgafont16 c) (pixelAddr s.base
      (16 * k.textLine.toNat * s.width + (k.textColPx.toNat + 7))) k).machine.mem a =
      k.machine.mem a := by
  have inside := (drawn_operates on c).accesses.mpr (cellFits_of_room on room)
  have drawn : AllNew (fun e => e.tag = .draw) k.machine (drawRows (vgafont16 c) (pixelAddr s.base
      (16 * k.textLine.toNat * s.width + (k.textColPx.toNat + 7))) k).machine :=
    (drawRows_allNew (by omega)).mpr fun _ _ _ _ => rfl
  apply AllNew.mem_eq (Draws.drawing.drawRows _ _ k).grows
  apply inside.mono₂ drawn
  intro e access tag stored within
  have allowed := access stored
  rw [tag] at allowed
  exact outside (allowed a within)

theorem kputchar_drawsCell (on : k.On s) {c : BitVec 8} (nonzero : c ≠ 0) (other : c ≠ newline)
    (room : k.textColPx.toNat + 8 ≤ s.width) :
    ∃ k', kputchar c k = .ok k' ∧ DrawsCell s c k k' ∧ k'.textColPx = k.textColPx + 9 := by
  have lines := s.lines_bounds
  have line := on.line
  obtain ⟨k', puts, operates, pixels⟩ := kputchar_pixel on (not_or.mpr ⟨nonzero, other⟩) room
  refine ⟨k', puts, ⟨?_, ?_, ?_, congrArg Cursor.line operates.cursor⟩,
    congrArg Cursor.col operates.cursor⟩
  · intro r row j column
    have bit : k.textColPx.toNat + 7 - (k.textColPx.toNat + j) = 7 - j := by omega
    rw [pixels _ (by omega) _ (by omega), if_pos (by omega), Nat.add_sub_cancel_left, bit]
    rfl
  · intro y row x col outside
    have beside := mt inCells_one.mpr outside
    exact (pixels y row x col).trans (if_neg beside)
  · intro a outside
    have drawn := puts.symm.trans (kputchar_drawn on (not_or.mpr ⟨nonzero, other⟩))
    rw [Except.ok.inj drawn]
    exact drawn_elsewhere on c room outside

/-- `text_col_px` is a `ui16_t`, which the advance may leave. -/
theorem advanced_toNat_iff {col : BitVec 16} :
    (col + 9).toNat = col.toNat + 9 ↔ col.toNat + 9 < 2 ^ 16 := by
  have below := col.isLt
  rw [BitVec.toNat_add]
  change (col.toNat + 9) % 2 ^ 16 = col.toNat + 9 ↔ _
  omega

/-- The cell is drawn in any case, and the cursor advances by 9 unless its column wraps. -/
theorem kputchar_drawsChar_iff (s : Screen) (k : Console) (on : k.On s) (c : BitVec 8)
    (nonzero : c ≠ 0) (other : c ≠ newline) (room : k.textColPx.toNat + 8 ≤ s.width) :
    ∃ k', kputchar c k = .ok k' ∧ DrawsCell s c k k' ∧
      (DrawsChar s c k k' ↔ k.textColPx.toNat + 9 < 2 ^ 16) := by
  obtain ⟨k', puts, cell, moved⟩ := kputchar_drawsCell on nonzero other room
  refine ⟨k', puts, cell, ?_⟩
  rw [← advanced_toNat_iff, ← moved]
  constructor
  · intro drawn
    exact drawn.col
  · intro col
    exact ⟨cell, col⟩

theorem noteConsole_drawsChar :
    ∃ k', kputchar 0x41 noteConsole = .ok k' ∧ DrawsCell noteScreen 0x41 noteConsole k' ∧
      (DrawsChar noteScreen 0x41 noteConsole k' ↔ noteConsole.textColPx.toNat + 9 < 2 ^ 16) :=
  kputchar_drawsChar_iff noteScreen noteConsole ⟨rfl, rfl, rfl, rfl, by decide, by decide⟩ 0x41
    (by decide) (by decide) (by decide)

/-- One text line of 65535 pixels a row. -/
def longScreen : Screen where
  mode := ⟨0x10000000, 0x1000, 65535, 16, 65535⟩
  narrow := by decide
  tall := by decide
  short := by decide

def longConsole : Console :=
  { Console.loaded ⟨fun _ => 0, []⟩ with
    videoModeInfo := longScreen.mode
    framebufferInfo := ⟨65535, 16, 262140, 32⟩
    textColPx := 65527 }

theorem longConsole_wraps : longConsole.On longScreen ∧
    longConsole.textColPx.toNat + 8 ≤ longScreen.width ∧
    ∃ k', kputchar 0x41 longConsole = .ok k' ∧ k'.textColPx = 0 ∧
      ¬ DrawsChar longScreen 0x41 longConsole k' := by
  have on : longConsole.On longScreen := ⟨rfl, rfl, rfl, rfl, by decide, by decide⟩
  have room : longConsole.textColPx.toNat + 8 ≤ longScreen.width := by decide
  obtain ⟨k', puts, -, moved⟩ := kputchar_drawsCell on
    (show (0x41 : BitVec 8) ≠ 0 by decide) (by decide) room
  have start : k'.textColPx = 0 := moved.trans (by decide)
  refine ⟨on, room, k', puts, start, ?_⟩
  intro drawn
  have col := drawn.col
  rw [start] at col
  revert col
  decide

end Drawing

/-- The calls of `kputchar` for the characters of a string. -/
def typeText : List (BitVec 8) → Console → Outcome Console
  | [], k => .ok k
  | c :: t, k => kputchar c k >>= typeText t

def backspaces : Nat → Console → Outcome Console
  | 0, k => .ok k
  | n + 1, k => backspaces n k >>= backspace

/-- The cells from the cursor on are blank, and nothing else has changed. -/
structure Erased (s : Screen) (cells : Nat) (k k' : Console) : Prop where
  on : k'.On s
  cursor : k'.cursor = k.cursor
  colors : k'.textColor = k.textColor ∧ k'.backgroundColor = k.backgroundColor
  blank : ∀ y, y < s.height → ∀ x, x < s.width → k.cursor.InCells cells y x →
    k'.pixel s.base (y * s.width + x) = k.backgroundColor
  others : ∀ y, y < s.height → ∀ x, x < s.width → ¬ k.cursor.InCells cells y x →
    k'.pixel s.base (y * s.width + x) = k.pixel s.base (y * s.width + x)

section Erasing

variable {s : Screen} {k k' : Console}

theorem inCells_succ {p : Cursor} (wide : p.col.toNat + 9 < 2 ^ 16) (cells y x : Nat) :
    p.InCells (cells + 1) y x ↔
      p.InCells 1 y x ∨ (⟨p.line, p.col + 9⟩ : Cursor).InCells cells y x := by
  have next : (p.col + 9).toNat = p.col.toNat + 9 := by
    rw [BitVec.toNat_add]
    exact Nat.mod_eq_of_lt wide
  rw [Cursor.InCells, Cursor.InCells, Cursor.InCells, ← and_or_left, next]
  apply and_congr Iff.rfl
  constructor
  · rintro ⟨i, below, range⟩
    cases i with
    | zero => exact Or.inl ⟨0, Nat.one_pos, range⟩
    | succ i => exact Or.inr ⟨i, by omega, by omega⟩
  · rintro (⟨i, below, range⟩ | ⟨i, below, range⟩)
    · exact ⟨i, by omega, range⟩
    · exact ⟨i + 1, by omega, by omega⟩

theorem vgafont16_space (r : Nat) : (vgafont16 0x20).getD r 0 = 0 := by
  have rows : vgafont16 0x20 = List.replicate 16 0 := by decide
  rw [rows, List.getD_eq_getElem?_getD, List.getElem?_replicate]
  split
  · rfl
  · rfl

theorem backspace_erases (on : k.On s) (typed : 9 ≤ k.textColPx.toNat)
    (room : k.textColPx.toNat ≤ s.width + 1) :
    ∃ k', backspace k = .ok k' ∧
      Erased s 1 (k.withCursor ⟨k.textLine, k.textColPx - 9⟩) k' := by
  let back := k.withCursor ⟨k.textLine, k.textColPx - 9⟩
  have backOn : back.On s := ⟨on.mode, on.width, on.height, on.font, on.last, on.line⟩
  have column : back.textColPx.toNat = k.textColPx.toNat - 9 := BitVec.toNat_sub_of_le typed
  obtain ⟨drawn, puts, operates, pixels⟩ :=
    kputchar_pixel backOn (show ¬ ((0x20 : BitVec 8) = 0 ∨ (0x20 : BitVec 8) = newline) by decide)
      (by omega)
  have line : drawn.textLine = k.textLine := congrArg Cursor.line operates.cursor
  have col : drawn.textColPx = k.textColPx - 9 + 9 := congrArg Cursor.col operates.cursor
  have drawnOn := operates.on
  refine ⟨_, backspace_ok typed puts, ?_, ?_, operates.colors, ?_, ?_⟩
  · exact ⟨drawnOn.mode, drawnOn.width, drawnOn.height, drawnOn.font, drawnOn.last, drawnOn.line⟩
  · change (⟨drawn.textLine, drawn.textColPx - 9⟩ : Cursor) = ⟨k.textLine, k.textColPx - 9⟩
    rw [line, col, BitVec.add_sub_cancel]
  · intro y row x column inside
    refine ((pixels y row x column).trans (if_pos (inCells_one.mp inside))).trans ?_
    rw [vgafont16_space]
    change back.ink ((0#8).getLsbD _) = _
    rw [BitVec.getLsbD_zero]
    rfl
  · intro y row x column outside
    exact (pixels y row x column).trans (if_neg (mt inCells_one.mpr outside))

/-- A character is drawn, what was typed after it is erased, and then the character is. -/
theorem Erased.cons {n : Nat} {k₁ k₂ k₃ : Console} (wide : k.textColPx.toNat + 9 < 2 ^ 16)
    (moved : k₁.cursor = ⟨k.textLine, k.textColPx + 9⟩)
    (colors : k₁.textColor = k.textColor ∧ k₁.backgroundColor = k.backgroundColor)
    (drawn : ∀ y, y < s.height → ∀ x, x < s.width → ¬ k.cursor.InCells 1 y x →
      k₁.pixel s.base (y * s.width + x) = k.pixel s.base (y * s.width + x))
    (rest : Erased s n k₁ k₂)
    (last : Erased s 1 (k₂.withCursor ⟨k₂.textLine, k₂.textColPx - 9⟩) k₃) :
    Erased s (n + 1) k k₃ := by
  have cursor₂ := rest.cursor.trans moved
  have home : (k₂.withCursor ⟨k₂.textLine, k₂.textColPx - 9⟩).cursor = k.cursor := by
    have line : k₂.textLine = k.textLine := congrArg Cursor.line cursor₂
    have col : k₂.textColPx = k.textColPx + 9 := congrArg Cursor.col cursor₂
    change (⟨k₂.textLine, k₂.textColPx - 9⟩ : Cursor) = ⟨k.textLine, k.textColPx⟩
    rw [line, col, BitVec.add_sub_cancel]
  have text : k₂.textColor = k.textColor := rest.colors.1.trans colors.1
  have background : k₂.backgroundColor = k.backgroundColor := rest.colors.2.trans colors.2
  have cells (y x : Nat) : k.cursor.InCells (n + 1) y x ↔
      k.cursor.InCells 1 y x ∨ k₁.cursor.InCells n y x := by
    rw [moved]
    exact inCells_succ wide n y x
  refine ⟨last.on, last.cursor.trans home, ⟨last.colors.1.trans text,
    last.colors.2.trans background⟩, ?_, ?_⟩
  · intro y row x col inside
    by_cases here : k.cursor.InCells 1 y x
    · exact (last.blank y row x col (home ▸ here)).trans background
    · have later := ((cells y x).mp inside).resolve_left here
      have kept := last.others y row x col (home ▸ here)
      exact (kept.trans (rest.blank y row x col later)).trans colors.2
  · intro y row x col outside
    have apart := not_or.mp (mt (cells y x).mpr outside)
    calc k₃.pixel s.base (y * s.width + x)
      _ = k₂.pixel s.base (y * s.width + x) := last.others y row x col (home ▸ apart.1)
      _ = k₁.pixel s.base (y * s.width + x) := rest.others y row x col apart.2
      _ = k.pixel s.base (y * s.width + x) := drawn y row x col apart.1

/-- Typed characters are erased by as many backspaces: by induction on the string. The first
character is typed first and erased last. -/
theorem typeText_erased (t : List (BitVec 8)) (on : k.On s) (aligned : k.textColPx.toNat % 9 = 0)
    (visible : ∀ c ∈ t, c ≠ 0 ∧ c ≠ newline)
    (room : ∀ i, i < t.length → k.textColPx.toNat + 9 * i + 8 ≤ s.width) :
    ∃ k', (typeText t k >>= backspaces t.length) = .ok k' ∧ Erased s t.length k k' := by
  induction t generalizing k with
  | nil =>
      have none (y x : Nat) : ¬ k.cursor.InCells 0 y x := fun ⟨_, i, below, _⟩ =>
        absurd below (Nat.not_lt_zero i)
      exact ⟨k, rfl, on, rfl, ⟨rfl, rfl⟩, fun y _ x _ inside => absurd inside (none y x),
        fun _ _ _ _ _ => rfl⟩
  | cons c t ih =>
      have narrow : s.width < 2 ^ 16 := s.narrow
      have first := room 0 Nat.succ_pos'
      have unseen : ¬ (c = 0 ∨ c = newline) := not_or.mpr (visible c List.mem_cons_self)
      obtain ⟨k₁, puts, operates, drawn⟩ := kputchar_pixel on unseen (by omega)
      have col₁ : k₁.textColPx = k.textColPx + 9 := congrArg Cursor.col operates.cursor
      have line₁ : k₁.textLine = k.textLine := congrArg Cursor.line operates.cursor
      have next : k₁.textColPx.toNat = k.textColPx.toNat + 9 := by
        rw [col₁, BitVec.toNat_add]
        exact Nat.mod_eq_of_lt (by change _ + 9 < 2 ^ 16; omega)
      obtain ⟨k₂, types, erased⟩ := ih operates.on (by omega)
        (fun c member => visible c (List.mem_cons_of_mem _ member))
        (fun i below => by
          have fits := room (i + 1) (Nat.succ_lt_succ below)
          omega)
      have col₂ : k₂.textColPx.toNat = k.textColPx.toNat + 9 :=
        (congrArg (fun p => p.col.toNat) erased.cursor).trans next
      obtain ⟨k₃, erases, last⟩ := backspace_erases erased.on (by omega) (by omega)
      refine ⟨k₃, ?_, erased.cons (by omega) operates.cursor operates.colors ?_ last⟩
      · change (kputchar c k >>= typeText t) >>= (fun k => backspaces t.length k >>= backspace) = _
        rw [puts]
        change typeText t k₁ >>= (fun k => backspaces t.length k >>= backspace) = _
        rw [← bind_assoc, types]
        exact erases
      · intro y row x col outside
        exact (drawn y row x col).trans (if_neg (mt inCells_one.mpr outside))

theorem noteConsole_erased :
    ∃ k', (typeText (ascii "Hi") noteConsole >>= backspaces 2) = .ok k' ∧
      Erased noteScreen 2 noteConsole k' :=
  typeText_erased (ascii "Hi") ⟨rfl, rfl, rfl, rfl, by decide, by decide⟩ rfl (by decide) (by decide)

end Erasing

end Flosp.Kernel
