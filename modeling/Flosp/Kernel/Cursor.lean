import Flosp.Kernel.Drawing

/-! The console on a screen: where the text cursor goes, and which pixels each operation
stores to. -/

namespace Flosp.Kernel

open ByteMemory

/-- A video mode within the bounds of the console's 16-bit counters. -/
structure Screen where
  mode : BootVideoModeInfo
  narrow : mode.pixelsPerScanline.toNat < 2 ^ 16
  tall : 16 ≤ mode.verticalResolution.toNat
  short : mode.verticalResolution.toNat < 2 ^ 16

namespace Screen

variable (s : Screen)

def base : Addr := s.mode.backbufferPointer
def width : Nat := s.mode.pixelsPerScanline.toNat
def height : Nat := s.mode.verticalResolution.toNat

def size : Nat := s.width * s.height

def lines : Nat := s.height / 16

def lastLine : BitVec 16 := BitVec.ofNat 16 (s.lines - 1)

def flushed : Nat :=
  (s.mode.pixelsPerScanline * s.mode.horizontalResolution * 4).toNat

theorem lastLine_toNat : s.lastLine.toNat = s.lines - 1 := by
  have short := s.short
  rw [lastLine, BitVec.toNat_ofNat]
  exact Nat.mod_eq_of_lt (by rw [lines, height]; omega)

theorem lines_bounds : 1 ≤ s.lines ∧ 16 * s.lines ≤ s.height ∧ s.lines < 2 ^ 12 := by
  have tall := s.tall
  have short := s.short
  rw [lines, height]
  omega

theorem size_bound : s.size < 2 ^ 32 := by
  have narrow : s.width < 2 ^ 16 := s.narrow
  have short : s.height < 2 ^ 16 := s.short
  calc s.width * s.height
    _ < 2 ^ 16 * 2 ^ 16 := Nat.mul_lt_mul'' narrow short
    _ = 2 ^ 32 := by norm_num

theorem rows_bound {rows : Nat} (above : rows ≤ s.height) : rows * s.width ≤ s.size := by
  rw [size, Nat.mul_comm s.width]
  exact Nat.mul_le_mul_right s.width above

end Screen

/-- A console as `initialize_video` sets it up for the screen. -/
structure Console.On (s : Screen) (k : Console) : Prop where
  mode : k.videoModeInfo = s.mode
  width : k.framebufferInfo.width = s.mode.pixelsPerScanline
  height : k.framebufferInfo.height = s.mode.verticalResolution
  font : k.fontSize = 16
  last : k.maxTextLine = s.lastLine
  line : k.textLine.toNat < s.lines

theorem Console.On.draws {s : Screen} {k k' : Console} (on : k.On s) (draws : Draws k k') : k'.On s := by
  rw [draws.globals]
  exact ⟨on.mode, on.width, on.height, on.font, on.last, on.line⟩

/-- The text line and the pixel column of the next character. -/
structure Cursor where
  line : BitVec 16
  col : BitVec 16

def Console.cursor (k : Console) : Cursor := ⟨k.textLine, k.textColPx⟩

namespace Cursor

def put (s : Screen) (c : BitVec 8) (p : Cursor) : Cursor :=
  if c = 0 then p
  else if c = newline then
    if p.line = s.lastLine then { p with col := 0 } else ⟨p.line + 1, 0⟩
  else { p with col := p.col + 9 }

def putAll (s : Screen) : List (BitVec 8) → Cursor → Cursor
  | [], p => p
  | c :: t, p => if c = 0 then p else putAll s t (p.put s c)

def CellFits (s : Screen) (limit : Nat) (p : Cursor) : Prop :=
  (16 * p.line.toNat + 15) * s.width + p.col.toNat + 8 ≤ limit

def CharFits (s : Screen) (limit : Nat) (c : BitVec 8) (p : Cursor) : Prop :=
  c = 0 ∨ c = newline ∨ p.CellFits s limit

def TextFits (s : Screen) (limit : Nat) : List (BitVec 8) → Cursor → Prop
  | [], _ => True
  | c :: t, p => c = 0 ∨ (p.CharFits s limit c ∧ TextFits s limit t (p.put s c))

end Cursor

/-- A store that the console makes goes to a back buffer of `limit` pixels or, on a flush, to
the framebuffer. -/
def ConsoleAccess (s : Screen) (limit : Nat) (e : Access 64 Origin) : Prop :=
  e.kind = .store →
    match e.tag with
    | .draw => ∀ x, Within x e.addr e.len → Within x s.base (4 * limit)
    | .flush => ∀ x, Within x e.addr e.len → Within x s.mode.framebufferPointer s.flushed
    | _ => False

/-- What a console operation does: where the cursor is afterwards, and when all of its
accesses stay in the first `limit` pixels. -/
structure Operates (s : Screen) (limit : Nat) (k k' : Console) (p : Cursor) (fits : Prop) :
    Prop where
  on : k'.On s
  cursor : k'.cursor = p
  colors : k'.textColor = k.textColor ∧ k'.backgroundColor = k.backgroundColor
  grows : Extends k.machine k'.machine
  accesses : AllNew (ConsoleAccess s limit) k.machine k'.machine ↔ fits

namespace Operates

variable {s : Screen} {limit : Nat} {k k' k'' : Console} {p p' : Cursor} {f f' : Prop}

theorem refl (on : k.On s) : Operates s limit k k k.cursor True :=
  ⟨on, rfl, ⟨rfl, rfl⟩, Extends.refl _, iff_of_true (AllNew.refl _ _) trivial⟩

theorem trans (first : Operates s limit k k' p f) (second : Operates s limit k' k'' p' f') :
    Operates s limit k k'' p' (f ∧ f') where
  on := second.on
  cursor := second.cursor
  colors := ⟨second.colors.1.trans first.colors.1, second.colors.2.trans first.colors.2⟩
  grows := first.grows.trans second.grows
  accesses := by
    rw [AllNew.trans_iff first.grows second.grows, first.accesses, second.accesses]

theorem congr (operates : Operates s limit k k' p f) (same : f ↔ f') :
    Operates s limit k k' p f' :=
  { operates with accesses := operates.accesses.trans same }

theorem quiet (first : Operates s limit k k' p f)
    (second : Operates s limit k' k'' k'.cursor True) : Operates s limit k k'' p f := by
  have both := first.trans second
  rw [first.cursor] at both
  exact both.congr (and_true f).to_iff

theorem moveTo (on : k.On s) (draws : Draws k k') {col : BitVec 16}
    (accesses : AllNew (ConsoleAccess s limit) k.machine k'.machine ↔ f) :
    Operates s limit k { k' with textColPx := col } ⟨k.textLine, col⟩ f := by
  have on' := on.draws draws
  refine ⟨⟨on'.mode, on'.width, on'.height, on'.font, on'.last, on'.line⟩, ?_, ?_,
    draws.grows, accesses⟩
  · rw [draws.globals]
    rfl
  · rw [draws.globals]
    exact ⟨rfl, rfl⟩

theorem of_draws (on : k.On s) (draws : Draws k k')
    (inside : AllNew (ConsoleAccess s limit) k.machine k'.machine) :
    Operates s limit k k' k.cursor True where
  on := on.draws draws
  cursor := by
    rw [draws.globals]
    rfl
  colors := by
    rw [draws.globals]
    exact ⟨rfl, rfl⟩
  grows := draws.grows
  accesses := iff_of_true inside trivial

end Operates

section Operations

variable {s : Screen} {limit : Nat} {k : Console}

theorem pixelStore_access {p : Nat} (bound : p < 2 ^ 60) :
    ConsoleAccess s limit (pixelStore (pixelAddr s.base p)) ↔ p < limit := by
  constructor
  · intro access
    have last := access rfl (pixelAddr s.base p + BitVec.ofNat 64 3)
      (within_offset (show 3 < 4 by decide) (show 4 ≤ 2 ^ 64 by decide))
    rw [pixelAddr, offset_add, within_offset_iff (by omega)] at last
    omega
  · intro inside _ x within
    exact (within_of_sub (show 4 * p + 4 ≤ 2 ^ 64 by omega) within).mono (by omega)

theorem confined_access {p n : Nat} {source : Addr} {e : Access 64 Origin}
    (inside : p + n ≤ limit) (small : limit < 2 ^ 60)
    (confined : Confined .draw source (4 * n) (pixelAddr s.base p) (4 * n) e) :
    ConsoleAccess s limit e := by
  rcases confined with ⟨tag, range⟩
  rw [ConsoleAccess, tag]
  intro stored x within
  have target := range x within
  rw [stored] at target
  exact (within_of_sub (show 4 * p + 4 * n ≤ 2 ^ 64 by omega) target).mono (by omega)

theorem flushFramebuffer_operates (on : k.On s) :
    Operates s limit k (flushFramebuffer k) k.cursor True := by
  apply Operates.of_draws on (Draws.drawing.flushFramebuffer k)
  have confined : AllNew (Confined .flush k.videoModeInfo.backbufferPointer
      (k.videoModeInfo.pixelsPerScanline * k.videoModeInfo.horizontalResolution * 4).toNat
      k.videoModeInfo.framebufferPointer
      (k.videoModeInfo.pixelsPerScanline * k.videoModeInfo.horizontalResolution * 4).toNat)
      k.machine (flushFramebuffer k).machine :=
    memcpy_confined_iff.mpr ⟨Nat.le_refl _, Nat.le_refl _⟩
  apply confined.mono
  intro e confined
  rcases confined with ⟨tag, range⟩
  rw [ConsoleAccess, tag]
  intro stored x within
  have target := range x within
  rw [stored, on.mode] at target
  exact target

theorem pixels_of_toNat {x : BitVec 32} {n : Nat} (value : x.toNat = n) :
    pixels (x.setWidth 64) = pixels (BitVec.ofNat 64 n) := by
  rw [← value, BitVec.ofNat_toNat]

theorem row_toNat {rows : BitVec 32} (on : k.On s) (above : rows.toNat ≤ s.height) :
    (rows * k.framebufferInfo.width).toNat = rows.toNat * s.width := by
  have bound := s.size_bound
  have inside := s.rows_bound above
  rw [on.width, BitVec.toNat_mul]
  exact Nat.mod_eq_of_lt (by rw [← Screen.width]; omega)

theorem line_toNat (on : k.On s) {line : BitVec 16} (inside : line.toNat < s.lines) :
    (line.setWidth 32 * k.fontSize.setWidth 32).toNat = 16 * line.toNat := by
  have lines := s.lines_bounds
  have bound := line.isLt
  rw [on.font, BitVec.toNat_mul, BitVec.toNat_setWidth, BitVec.toNat_setWidth]
  change line.toNat % 2 ^ 32 * 16 % 2 ^ 32 = 16 * line.toNat
  omega

theorem blankRows_operates (enough : s.size ≤ limit) (on : k.On s) :
    Operates s limit k (blankRows k.framebufferInfo.height.toNat 0 k) k.cursor True := by
  apply Operates.of_draws on (Draws.drawing.blankRows _ 0 k)
  apply blankRows_allNew 0
  intro i _ below j inside
  rw [on.mode, on.width, ← Screen.width]
  rw [on.height, ← Screen.height] at below
  rw [on.width, ← Screen.width] at inside
  have row : i * s.width + s.width ≤ s.size := by
    rw [← Nat.succ_mul]
    exact s.rows_bound (by omega)
  have size := s.size_bound
  exact (pixelStore_access (by omega)).mpr (by omega)

theorem blankOutput_operates (enough : s.size ≤ limit) (on : k.On s) :
    Operates s limit k (blankOutput k) ⟨0, 0⟩ True := by
  have blanks := blankRows_operates enough on
  have lines := s.lines_bounds
  exact ⟨⟨blanks.on.mode, blanks.on.width, blanks.on.height, blanks.on.font, blanks.on.last,
    lines.1⟩, rfl, blanks.colors, blanks.grows, blanks.accesses⟩

theorem linePos (on : k.On s) {line : BitVec 16} (inside : line.toNat < s.lines) :
    k.videoModeInfo.backbufferPointer + pixels ((line.setWidth 32 * k.fontSize.setWidth 32 *
      k.framebufferInfo.width).setWidth 64) =
      pixelAddr s.base (16 * line.toNat * s.width) := by
  have lines := s.lines_bounds
  have rows := line_toNat on inside
  have offset := pixels_of_toNat (row_toNat on (by rw [rows]; omega))
  rw [offset, rows, on.mode, ← pixelAddr_zero s.mode.backbufferPointer, pixelAddr_add,
    Nat.zero_add]
  rfl

theorem oneLine (on : k.On s) :
    pixels ((k.fontSize.setWidth 32 * k.framebufferInfo.width).setWidth 64) =
      pixels (BitVec.ofNat 64 (16 * s.width)) := by
  have tall : 16 ≤ s.height := s.tall
  apply pixels_of_toNat
  rw [on.font]
  exact row_toNat on tall

theorem secondLine (on : k.On s) :
    k.videoModeInfo.backbufferPointer + pixels ((k.fontSize.setWidth 32 *
      k.framebufferInfo.width).setWidth 64) = pixelAddr s.base (16 * s.width) := by
  rw [oneLine on, on.mode, ← pixelAddr_zero s.mode.backbufferPointer, pixelAddr_add, Nat.zero_add]
  rfl

theorem rowLength_toNat (on : k.On s) : (k.framebufferInfo.width * 4).toNat = 4 * s.width := by
  have narrow : s.width < 2 ^ 16 := s.narrow
  have width : k.framebufferInfo.width.toNat = s.width := by rw [on.width]; rfl
  rw [BitVec.toNat_mul, width]
  change s.width * 4 % 2 ^ 32 = 4 * s.width
  omega

theorem scrollRows_operates (enough : s.size ≤ limit) (small : limit < 2 ^ 60) (on : k.On s)
    {turns : Nat} (inside : turns + 16 ≤ s.height) :
    Operates s limit k (scrollRows turns (pixelAddr s.base (16 * s.width)) k) k.cursor True := by
  have width : k.framebufferInfo.width.toNat = s.width := by rw [on.width]; rfl
  apply Operates.of_draws on (Draws.drawing.scrollRows turns _ k)
  have scroll := scrollRows_allNew (P := ConsoleAccess s limit) (p := 0) turns s.base (oneLine on)
  rw [Nat.zero_add] at scroll
  apply scroll
  intro i below e confined
  rw [rowLength_toNat on, Nat.zero_add, width] at confined
  have row : i * s.width + s.width ≤ s.size := by
    rw [← Nat.succ_mul]
    exact s.rows_bound (by omega)
  exact confined_access (by omega) small confined

theorem blankLastLine_operates (enough : s.size ≤ limit) (on : k.On s) :
    Operates s limit k
      (blankLastLine 16 (pixelAddr s.base (16 * (s.lines - 1) * s.width)) k) k.cursor True := by
  have lines := s.lines_bounds
  have rows : 16 * (s.lines - 1) * s.width + 16 * s.width ≤ s.size := by
    rw [← Nat.add_mul]
    exact s.rows_bound (by omega)
  apply Operates.of_draws on (Draws.drawing.blankLastLine 16 _ k)
  apply blankLastLine_allNew
  intro i below
  rw [on.width, ← Screen.width] at below
  have size := s.size_bound
  exact (pixelStore_access (by omega)).mpr (by omega)

/-- The memory that `kscroll_down` moves and blanks, by pixels of the buffer. -/
theorem kscrollDown_eq (on : k.On s) :
    kscrollDown k = .ok (flushFramebuffer
      (blankLastLine 16 (pixelAddr s.base (16 * (s.lines - 1) * s.width))
        (scrollRows (16 * (s.lines - 1)) (pixelAddr s.base (16 * s.width)) k))) := by
  have lines := s.lines_bounds
  have narrow : s.width < 2 ^ 16 := s.narrow
  have short : s.height < 2 ^ 16 := s.short
  have last : k.maxTextLine.toNat = s.lines - 1 := by rw [on.last, s.lastLine_toNat]
  have font : k.fontSize.toNat = 16 := by rw [on.font]; rfl
  have width : k.framebufferInfo.width.toNat = s.width := by rw [on.width]; rfl
  let moved := scrollRows (16 * (s.lines - 1)) (pixelAddr s.base (16 * s.width)) k
  have on' : moved.On s := on.draws (Draws.drawing.scrollRows _ _ k)
  have target := linePos on' (show k.maxTextLine.toNat < s.lines by omega)
  have last' : moved.maxTextLine = k.maxTextLine := by rw [on'.last, on.last]
  have font' : moved.fontSize.toNat = 16 := by rw [on'.font]; rfl
  unfold kscrollDown
  rw [font, last, if_neg (by omega), width, if_neg (by omega)]
  simp only [secondLine on]
  change Except.ok (flushFramebuffer (blankLastLine moved.fontSize.toNat
    (moved.videoModeInfo.backbufferPointer + pixels ((moved.maxTextLine.setWidth 32 *
      moved.fontSize.setWidth 32 * moved.framebufferInfo.width).setWidth 64)) moved)) = _
  rw [font', last', target, last]

theorem kscrollDown_operates (enough : s.size ≤ limit) (small : limit < 2 ^ 60) (on : k.On s) :
    ∃ k', kscrollDown k = .ok k' ∧ Operates s limit k k' k.cursor True := by
  have lines := s.lines_bounds
  have scroll := scrollRows_operates enough small on
    (show 16 * (s.lines - 1) + 16 ≤ s.height by omega)
  have blank := blankLastLine_operates enough scroll.on
  have flush : Operates s limit _ _ _ True := flushFramebuffer_operates blank.on
  exact ⟨_, kscrollDown_eq on, (scroll.quiet blank).quiet flush⟩

theorem kputchar_drawn (on : k.On s) {c : BitVec 8} (visible : ¬ (c = 0 ∨ c = newline)) :
    kputchar c k = .ok
      { drawRows (vgafont16 c) (pixelAddr s.base
          (16 * k.textLine.toNat * s.width + (k.textColPx.toNat + 7))) k with
        textColPx := k.textColPx + 9 } := by
  have column : (k.textColPx.setWidth 32 + 8 - 1).toNat = k.textColPx.toNat + 7 := by
    have bound := k.textColPx.isLt
    rw [BitVec.toNat_sub, BitVec.toNat_add, BitVec.toNat_setWidth]
    change (2 ^ 32 - 1 + (k.textColPx.toNat % 2 ^ 32 + 8) % 2 ^ 32) % 2 ^ 32 = _
    omega
  rcases not_or.mp visible with ⟨nonzero, other⟩
  unfold kputchar
  rw [if_neg nonzero, if_neg other]
  simp only [linePos on on.line, pixels_of_toNat column, pixelAddr_add]
  rw [on.font]
  rfl

theorem cell_inside_iff {limit W start col : Nat} :
    (∀ i, i < 16 → ∀ j, j < 8 → start + (col + 7) + W * i - j < limit) ↔
      start + 15 * W + col + 8 ≤ limit := by
  constructor
  · intro all
    have last := all 15 (by decide) 0 (by decide)
    omega
  · intro inside i row j column
    have below : W * i ≤ W * 15 := Nat.mul_le_mul_left W (by omega)
    omega

theorem drawn_operates (on : k.On s) (c : BitVec 8) :
    Operates s limit k
      { drawRows (vgafont16 c) (pixelAddr s.base
          (16 * k.textLine.toNat * s.width + (k.textColPx.toNat + 7))) k with
        textColPx := k.textColPx + 9 }
      ⟨k.textLine, k.textColPx + 9⟩ (k.cursor.CellFits s limit) := by
  apply Operates.moveTo on (Draws.drawing.drawRows (vgafont16 c) _ k)
  have lines := s.lines_bounds
  have line := on.line
  have bound := s.size_bound
  have narrow : s.width < 2 ^ 16 := s.narrow
  have col := k.textColPx.isLt
  have first : 16 * k.textLine.toNat * s.width ≤ s.size := s.rows_bound (by omega)
  have fits : k.cursor.CellFits s limit ↔
      16 * k.textLine.toNat * s.width + 15 * s.width + k.textColPx.toNat + 8 ≤ limit := by
    rw [Cursor.CellFits, Nat.add_mul]
    rfl
  rw [drawRows_allNew (by omega), fits, ← cell_inside_iff, on.width, ← Screen.width, vgafont16,
    glyphRows_length]
  apply forall₂_congr
  intro i row
  apply forall₂_congr
  intro j column
  have below : s.width * i ≤ s.width * 15 := Nat.mul_le_mul_left s.width (by omega)
  exact pixelStore_access (by omega)

theorem newline_room (on : k.On s) (above : k.textLine ≠ s.lastLine) :
    kputchar newline k = .ok { k with textColPx := 0, textLine := k.textLine + 1 } := by
  unfold kputchar
  rw [if_neg (by decide), if_pos rfl, on.last]
  exact if_neg above

theorem newline_full (on : k.On s) (bottom : k.textLine = s.lastLine) :
    kputchar newline k = kscrollDown { k with textColPx := 0 } := by
  unfold kputchar
  rw [if_neg (by decide), if_pos rfl, on.last]
  exact if_pos bottom

theorem nextLine_toNat (on : k.On s) (above : k.textLine ≠ s.lastLine) :
    (k.textLine + 1).toNat = k.textLine.toNat + 1 ∧ k.textLine.toNat + 1 < s.lines := by
  have lines := s.lines_bounds
  have line := on.line
  have before : k.textLine.toNat ≠ s.lines - 1 := by
    rw [← s.lastLine_toNat]
    exact fun same => above (BitVec.eq_of_toNat_eq same)
  have next : (k.textLine + 1).toNat = k.textLine.toNat + 1 :=
    BitVec.toNat_add_of_lt (by change k.textLine.toNat + 1 < 2 ^ 16; omega)
  omega

/-- One character moves the cursor as `Cursor.put` says. -/
theorem kputchar_operates (enough : s.size ≤ limit) (small : limit < 2 ^ 60) (on : k.On s)
    (c : BitVec 8) :
    ∃ k', kputchar c k = .ok k' ∧
      Operates s limit k k' (k.cursor.put s c) (k.cursor.CharFits s limit c) := by
  by_cases null : c = 0
  · refine ⟨k, by rw [kputchar, if_pos null], ?_⟩
    rw [Cursor.put, if_pos null]
    exact (Operates.refl on).congr (iff_of_true trivial (Or.inl null))
  by_cases ends : c = newline
  · have fits : True ↔ k.cursor.CharFits s limit c := iff_of_true trivial (Or.inr (Or.inl ends))
    let home : Console := { k with textColPx := 0 }
    have homeOn : home.On s := ⟨on.mode, on.width, on.height, on.font, on.last, on.line⟩
    rw [Cursor.put, if_neg null, if_pos ends]
    by_cases bottom : k.textLine = s.lastLine
    · obtain ⟨k', scrolls, operates⟩ := kscrollDown_operates enough small homeOn
      have atLast : k.cursor.line = s.lastLine := bottom
      refine ⟨k', ends ▸ (newline_full on bottom).trans scrolls, ?_⟩
      rw [if_pos atLast]
      exact ⟨operates.on, operates.cursor, operates.colors, operates.grows,
        operates.accesses.trans fits⟩
    · have next := nextLine_toNat on bottom
      have above : ¬ k.cursor.line = s.lastLine := bottom
      refine ⟨{ home with textLine := k.textLine + 1 }, ends ▸ newline_room on bottom, ?_⟩
      rw [if_neg above]
      exact ⟨⟨on.mode, on.width, on.height, on.font, on.last, next.1 ▸ next.2⟩, rfl, ⟨rfl, rfl⟩,
        Extends.refl _, iff_of_true (AllNew.refl _ _) (Or.inr (Or.inl ends))⟩
  · have visible : ¬ (c = 0 ∨ c = newline) := not_or.mpr ⟨null, ends⟩
    refine ⟨_, kputchar_drawn on visible, ?_⟩
    rw [Cursor.put, if_neg null, if_neg ends]
    apply (drawn_operates on c).congr
    rw [Cursor.CharFits]
    simp only [null, ends, false_or]

/-- A string moves the cursor character by character. -/
theorem kprint_operates (enough : s.size ≤ limit) (small : limit < 2 ^ 60)
    (t : List (BitVec 8)) (on : k.On s) :
    ∃ k', kprint t k = .ok k' ∧
      Operates s limit k k' (k.cursor.putAll s t) (k.cursor.TextFits s limit t) := by
  induction t generalizing k with
  | nil => exact ⟨k, rfl, Operates.refl on⟩
  | cons c t ih =>
      by_cases null : c = 0
      · refine ⟨k, by rw [kprint, if_pos null], ?_⟩
        rw [Cursor.putAll, if_pos null]
        exact (Operates.refl on).congr (iff_of_true trivial (Or.inl null))
      · obtain ⟨mid, puts, operates⟩ := kputchar_operates enough small on c
        obtain ⟨k', prints, rest⟩ := ih operates.on
        refine ⟨k', ?_, ?_⟩
        · rw [kprint, if_neg null, puts]
          exact prints
        · rw [Cursor.putAll, if_neg null]
          rw [operates.cursor] at rest
          apply (operates.trans rest).congr
          rw [Cursor.TextFits]
          simp only [null, false_or]

theorem backspace_ok {drawn : Console} (room : k.textColPx ≥ 9)
    (puts : kputchar 0x20 { k with textColPx := k.textColPx - 9 } = .ok drawn) :
    backspace k = .ok { drawn with textColPx := drawn.textColPx - 9 } := by
  unfold backspace
  rw [if_pos room]
  change (kputchar 0x20 { k with textColPx := k.textColPx - 9 } >>= _) = _
  rw [puts]
  rfl

theorem backspace_operates (enough : s.size ≤ limit) (small : limit < 2 ^ 60) (on : k.On s) :
    ∃ k', backspace k = .ok k' ∧ Operates s limit k k'
      (if k.textColPx ≥ 9 then ⟨k.textLine, k.textColPx - 9⟩ else k.cursor)
      (k.textColPx ≥ 9 → Cursor.CellFits s limit ⟨k.textLine, k.textColPx - 9⟩) := by
  by_cases room : k.textColPx ≥ 9
  · let back : Console := { k with textColPx := k.textColPx - 9 }
    have backOn : back.On s := ⟨on.mode, on.width, on.height, on.font, on.last, on.line⟩
    obtain ⟨drawn, puts, operates⟩ := kputchar_operates enough small backOn 0x20
    refine ⟨{ drawn with textColPx := drawn.textColPx - 9 }, backspace_ok room puts, ?_⟩
    · rw [if_pos room]
      have on' := operates.on
      refine ⟨⟨on'.mode, on'.width, on'.height, on'.font, on'.last, on'.line⟩, ?_,
        operates.colors, operates.grows, ?_⟩
      · have moved := operates.cursor
        have line := congrArg Cursor.line moved
        have col := congrArg Cursor.col moved
        change (⟨drawn.textLine, drawn.textColPx - 9⟩ : Cursor) = _
        rw [show drawn.textLine = k.textLine from line,
          show drawn.textColPx = k.textColPx - 9 + 9 from col, BitVec.add_sub_cancel]
      · apply operates.accesses.trans
        have drawnChar : ¬ (0x20 : BitVec 8) = 0 ∧ ¬ (0x20 : BitVec 8) = newline := by decide
        rw [Cursor.CharFits]
        simp only [drawnChar.1, drawnChar.2, false_or]
        exact ⟨fun fits _ => fits, fun fits => fits room⟩
  · refine ⟨k, ?_, ?_⟩
    · unfold backspace
      rw [if_neg room]
      rfl
    · rw [if_neg room]
      exact (Operates.refl on).congr (iff_of_true trivial fun more => absurd more room)

end Operations

end Flosp.Kernel
