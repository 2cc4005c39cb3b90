import Flosp.Kernel.Pixels
import Flosp.Kernel.Printing
import Flosp.Lib.ScrollingText

/-! The pixel console is a scrolling terminal, as long as its lines fit the screen. -/

namespace Flosp.Kernel

open ByteMemory

/-- A pixel of a screen that shows the last of the lines: characters are eight pixels wide
and stand nine apart, text lines are sixteen high. -/
def rendering (s : Screen) (lines : List (List (BitVec 8))) (y x : Nat) : BitVec 32 :=
  match ScrollingText.charAt s.lines lines (y / 16) (x / 9) with
  | none => rgb 0 0 0
  | some c =>
      if x % 9 < 8 ∧ ((vgafont16 c).getD (y % 16) 0).getLsbD (7 - x % 9) then rgb 255 255 255
      else rgb 0 0 0

/-- The console shows the text, with the cursor behind it. -/
structure Shows (s : Screen) (t : ScrollingText (BitVec 8)) (k : Console) : Prop where
  on : k.On s
  textColor : k.textColor = rgb 255 255 255
  backgroundColor : k.backgroundColor = rgb 0 0 0
  line : k.textLine.toNat = t.row s.lines
  col : k.textColPx.toNat = 9 * t.current.length
  pixels : ∀ y, y < s.height → ∀ x, x < s.width →
    k.pixel s.base (y * s.width + x) = rendering s t.lines y x

section Steps

variable {s : Screen} {t : ScrollingText (BitVec 8)} {k : Console}

theorem rendering_none {lines : List (List (BitVec 8))} {y x : Nat}
    (blank : ScrollingText.charAt s.lines lines (y / 16) (x / 9) = none) :
    rendering s lines y x = rgb 0 0 0 := by
  rw [rendering, blank]

theorem rendering_some {lines : List (List (BitVec 8))} {y x : Nat} {c : BitVec 8}
    (shown : ScrollingText.charAt s.lines lines (y / 16) (x / 9) = some c) :
    rendering s lines y x =
      if x % 9 < 8 ∧ ((vgafont16 c).getD (y % 16) 0).getLsbD (7 - x % 9) then rgb 255 255 255
      else rgb 0 0 0 := by
  rw [rendering, shown]

theorem rendering_congr {lines lines' : List (List (BitVec 8))} {y y' x : Nat}
    (same : ScrollingText.charAt s.lines lines (y / 16) (x / 9) =
      ScrollingText.charAt s.lines lines' (y' / 16) (x / 9)) (row : y % 16 = y' % 16) :
    rendering s lines y x = rendering s lines' y' x := by
  rw [rendering, rendering, same, row]

theorem index_bound {y x : Nat} (row : y < s.height) (col : x < s.width) :
    y * s.width + x < s.size := by
  have next : (y + 1) * s.width ≤ s.size := s.rows_bound row
  rw [Nat.succ_mul] at next
  omega

theorem before_row_iff (rows : Nat) {W y x : Nat} (col : x < W) : y * W + x < rows * W ↔ y < rows := by
  constructor
  · intro before
    by_contra below
    have next : rows * W ≤ y * W := Nat.mul_le_mul_right W (Nat.not_lt.mp below)
    omega
  · intro above
    have next : (y + 1) * W ≤ rows * W := Nat.mul_le_mul_right W above
    rw [Nat.succ_mul] at next
    omega

theorem shows_blank (on : Console.On s { k with textLine := 0 })
    (textColor : k.textColor = rgb 255 255 255) (backgroundColor : k.backgroundColor = rgb 0 0 0) :
    Shows s ScrollingText.empty (blankOutput k) := by
  have draws := Draws.drawing.blankRows k.framebufferInfo.height.toNat 0 k
  have lines := s.lines_bounds
  have on' : (blankOutput k).On s := by
    rw [blankOutput, draws.globals]
    exact ⟨on.mode, on.width, on.height, on.font, on.last, on.line⟩
  have width : k.framebufferInfo.width.toNat = s.width := congrArg BitVec.toNat on.width
  have height : k.framebufferInfo.height.toNat = s.height := congrArg BitVec.toNat on.height
  have base : k.videoModeInfo.backbufferPointer = s.base :=
    congrArg BootVideoModeInfo.backbufferPointer on.mode
  refine ⟨on', ?_, ?_, ?_, rfl, ?_⟩
  · rw [blankOutput, draws.globals]
    exact textColor
  · rw [blankOutput, draws.globals]
    exact backgroundColor
  · exact (Nat.zero_min _).symm
  · intro y row x col
    have size := s.size_bound
    have index := index_bound row col
    have whole : (0 + s.height) * s.width = s.size := by rw [Nat.zero_add, Screen.size, Nat.mul_comm]
    have blank := blankRows_pixel 0 s.height (k := k)
      (q := y * s.width + x) (by rw [width, whole]; omega) (by omega)
    rw [width, base, whole, if_pos (by omega)] at blank
    change (blankRows k.framebufferInfo.height.toNat 0 k).pixel _ _ = _
    rw [height]
    refine blank.trans (rendering_none ?_).symm
    apply ScrollingText.charAt_none lines.1 (t := ScrollingText.empty)
    change min 0 _ < y / 16 ∨ y / 16 = min 0 _ ∧ 0 ≤ x / 9
    omega

theorem kputchar_pixel (on : k.On s) {c : BitVec 8} (visible : ¬ (c = 0 ∨ c = newline))
    (room : k.textColPx.toNat + 8 ≤ s.width) :
    ∃ k', kputchar c k = .ok k' ∧
      Operates s s.size k k' ⟨k.textLine, k.textColPx + 9⟩ (k.cursor.CellFits s s.size) ∧
      ∀ y, y < s.height → ∀ x, x < s.width → k'.pixel s.base (y * s.width + x) =
        if (16 * k.textLine.toNat ≤ y ∧ y < 16 * k.textLine.toNat + 16) ∧
            k.textColPx.toNat ≤ x ∧ x < k.textColPx.toNat + 8 then
          k.ink (((vgafont16 c).getD (y - 16 * k.textLine.toNat) 0).getLsbD
            (k.textColPx.toNat + 7 - x))
        else k.pixel s.base (y * s.width + x) := by
  refine ⟨_, kputchar_drawn on visible, drawn_operates on c, ?_⟩
  intro y row x col
  have lines := s.lines_bounds
  have line := on.line
  have size := s.size_bound
  have index := index_bound row col
  have width : k.framebufferInfo.width.toNat = s.width := congrArg BitVec.toNat on.width
  have bottom : (16 * k.textLine.toNat + 16) * s.width ≤ s.size := s.rows_bound (by omega)
  have length : (vgafont16 c).length = 16 := glyphRows_length _ _ _
  generalize vgafont16 c = rows at length ⊢
  have pixel := drawRows_pixel s.base rows (k := k) (x := x) (y := y)
    (a := k.textColPx.toNat) (b := 16 * k.textLine.toNat) (by omega) (by omega)
    (by rw [width, length]; omega) (by rw [width]; omega)
  rw [width, length] at pixel
  exact pixel

theorem shows_char (displayed : Shows s t k) {c : BitVec 8} (visible : ¬ (c = 0 ∨ c = newline))
    (room : t.current.length < (s.width + 1) / 9) :
    ∃ k', kputchar c k = .ok k' ∧ Shows s (t.put newline c) k' := by
  have on := displayed.on
  have lines := s.lines_bounds
  have narrow : s.width < 2 ^ 16 := s.narrow
  have other : c ≠ newline := fun same => visible (Or.inr same)
  have put := ScrollingText.put_char (t := t) other
  have column := displayed.col
  obtain ⟨k', puts, operates, pixels⟩ := kputchar_pixel on visible (by omega)
  refine ⟨k', puts, operates.on, operates.colors.1.trans displayed.textColor,
    operates.colors.2.trans displayed.backgroundColor, ?_, ?_, ?_⟩
  · rw [put]
    exact (congrArg (fun p => p.line.toNat) operates.cursor).trans displayed.line
  · have next : (k.textColPx + 9).toNat = k.textColPx.toNat + 9 := by
      rw [BitVec.toNat_add, column]
      change (9 * t.current.length + 9) % 2 ^ 16 = _
      omega
    rw [put, List.length_append, List.length_singleton, Nat.mul_add, ← column]
    exact (congrArg (fun p => p.col.toNat) operates.cursor).trans next
  · intro y row x col
    have typed := ScrollingText.charAt_char (t := t) other lines.1 (y / 16) (x / 9)
    rw [pixels y row x col, displayed.pixels y row x col, displayed.line, displayed.col]
    by_cases here : y / 16 = t.row s.lines ∧ x / 9 = t.current.length
    · rw [if_pos here] at typed
      rw [rendering_some typed]
      have bit : 7 - x % 9 = 9 * t.current.length + 7 - x := by omega
      have offset : y % 16 = y - 16 * t.row s.lines := by omega
      by_cases inside : x % 9 < 8
      · rw [if_pos (by omega), Console.ink, displayed.textColor, displayed.backgroundColor]
        simp only [inside, true_and, offset, bit]
      · have gap : rendering s t.lines y x = rgb 0 0 0 := by
          apply rendering_none
          apply ScrollingText.charAt_none lines.1
          omega
        rw [if_neg (by omega), gap]
        simp only [inside, false_and, if_false]
    · rw [if_neg here] at typed
      rw [if_neg (by omega)]
      exact rendering_congr typed.symm rfl

theorem kscrollDown_pixel (on : k.On s)
    (apart : Apart s.mode.framebufferPointer s.flushed s.base (4 * s.size)) :
    ∃ k', kscrollDown k = .ok k' ∧ ∀ y, y < s.height → ∀ x, x < s.width →
      k'.pixel s.base (y * s.width + x) =
        if y < 16 * (s.lines - 1) then k.pixel s.base ((y + 16) * s.width + x)
        else if y < 16 * s.lines then rgb 0 0 0
        else k.pixel s.base (y * s.width + x) := by
  refine ⟨_, kscrollDown_eq on, ?_⟩
  intro y row x col
  have lines := s.lines_bounds
  have size := s.size_bound
  have index := index_bound row col
  let moved := scrollRows (16 * (s.lines - 1)) (pixelAddr s.base (16 * s.width)) k
  let blanked := blankLastLine 16 (pixelAddr s.base (16 * (s.lines - 1) * s.width)) moved
  have movedOn : moved.On s := on.draws (Draws.drawing.scrollRows _ _ k)
  have blankedOn : blanked.On s := movedOn.draws (Draws.drawing.blankLastLine _ _ moved)
  have width : k.framebufferInfo.width.toNat = s.width := congrArg BitVec.toNat on.width
  have movedWidth : moved.framebufferInfo.width.toNat = s.width :=
    congrArg BitVec.toNat movedOn.width
  have textLines : 16 * (s.lines - 1) * s.width + 16 * s.width ≤ s.size := by
    rw [← Nat.add_mul]
    exact s.rows_bound (by omega)
  have flush : (flushFramebuffer blanked).pixel s.base (y * s.width + x) =
      blanked.pixel s.base (y * s.width + x) := by
    apply flushFramebuffer_pixel (4 * s.size) _ (by omega) (by omega)
    rw [blankedOn.mode]
    exact apart
  have blank := blankLastLine_pixel s.base 16 (k := moved)
    (p := 16 * (s.lines - 1) * s.width) (q := y * s.width + x) (by rw [movedWidth]; omega) (by omega)
  have scroll := scrollRows_pixel s.base (16 * (s.lines - 1)) (k := k) (p := 0)
    (q := y * s.width + x) (oneLine on) (by rw [rowLength_toNat on, width]) (by omega)
    (by rw [width]; omega) (by omega)
  rw [Nat.zero_add, width, Nat.zero_add] at scroll
  rw [movedWidth, ← Nat.add_mul] at blank
  have first := before_row_iff (16 * (s.lines - 1)) (y := y) col
  have behind := before_row_iff (16 * (s.lines - 1) + 16) (y := y) col
  refine flush.trans (blank.trans ?_)
  by_cases above : y < 16 * (s.lines - 1)
  · have below : y * s.width + x + 16 * s.width = (y + 16) * s.width + x := by ring
    rw [if_neg (by omega), if_pos above]
    apply scroll.trans
    rw [if_pos (by omega), below]
  · rw [if_neg above]
    by_cases last : y < 16 * s.lines
    · rw [if_pos (by omega), if_pos last]
    · rw [if_neg (by omega), if_neg last]
      apply scroll.trans
      rw [if_neg (by omega)]

/-- The pixels after a line break: on the last line, the text moves up. -/
theorem newline_pixels (displayed : Shows s t k)
    (apart : Apart s.mode.framebufferPointer s.flushed s.base (4 * s.size)) :
    ∃ k', kputchar newline k = .ok k' ∧ ∀ y, y < s.height → ∀ x, x < s.width →
      k'.pixel s.base (y * s.width + x) = rendering s (t.put newline newline).lines y x := by
  have on := displayed.on
  have lines := s.lines_bounds
  have last : k.textLine = s.lastLine ↔ t.row s.lines = s.lines - 1 := by
    rw [← displayed.line, ← s.lastLine_toNat, BitVec.toNat_inj]
  have typed : (t.put newline newline).row s.lines = min t.lines.length (s.lines - 1) := by
    rw [ScrollingText.put_sep, ScrollingText.row]
  have fresh : (t.put newline newline).current.length = 0 := by
    rw [ScrollingText.put_sep, List.length_nil]
  have count := t.lines_length
  have row_eq : t.row s.lines = min t.done.length (s.lines - 1) := rfl
  by_cases bottom : k.textLine = s.lastLine
  · have homeOn : Console.On s { k with textColPx := 0 } :=
      ⟨on.mode, on.width, on.height, on.font, on.last, on.line⟩
    obtain ⟨k', scrolls, pixels⟩ := kscrollDown_pixel homeOn apart
    refine ⟨k', (newline_full on bottom).trans scrolls, ?_⟩
    intro y row x col
    have full := last.mp bottom
    rw [pixels y row x col]
    by_cases above : y < 16 * (s.lines - 1)
    · have moved : ScrollingText.charAt s.lines (t.put newline newline).lines (y / 16) (x / 9) =
          ScrollingText.charAt s.lines t.lines (y / 16 + 1) (x / 9) :=
        ScrollingText.charAt_sep_full (by omega) _ _
      rw [if_pos above]
      refine (displayed.pixels (y + 16) (by omega) x col).trans (rendering_congr ?_ (by omega))
      rw [moved, Nat.add_div_right y (by decide)]
    · have blank : rendering s (t.put newline newline).lines y x = rgb 0 0 0 := by
        apply rendering_none
        apply ScrollingText.charAt_none lines.1
        omega
      rw [if_neg above, blank]
      by_cases inLines : y < 16 * s.lines
      · rw [if_pos inLines]
      · rw [if_neg inLines]
        refine (displayed.pixels y row x col).trans (rendering_none ?_)
        apply ScrollingText.charAt_none lines.1
        omega
  · refine ⟨_, newline_room on bottom, ?_⟩
    intro y row x col
    have room := mt last.mpr bottom
    refine (displayed.pixels y row x col).trans (rendering_congr ?_ rfl)
    exact (ScrollingText.charAt_sep_room (by omega) _ _).symm

theorem shows_newline (displayed : Shows s t k)
    (apart : Apart s.mode.framebufferPointer s.flushed s.base (4 * s.size)) :
    ∃ k', kputchar newline k = .ok k' ∧ Shows s (t.put newline newline) k' := by
  have lines := s.lines_bounds
  have small : s.size < 2 ^ 60 := Nat.lt_trans s.size_bound (by decide)
  have count := t.lines_length
  have line := displayed.line
  rw [ScrollingText.row] at line
  obtain ⟨k', puts, operates⟩ := kputchar_operates (Nat.le_refl s.size) small displayed.on newline
  obtain ⟨drawn, puts', pixels⟩ := newline_pixels displayed apart
  obtain rfl : drawn = k' := Except.ok.inj (puts'.symm.trans puts)
  have typed : t.put newline newline = ⟨t.lines, []⟩ := ScrollingText.put_sep
  have cursor := operates.cursor
  rw [Cursor.put, if_neg (by decide), if_pos rfl] at cursor
  refine ⟨drawn, puts, operates.on, operates.colors.1.trans displayed.textColor,
    operates.colors.2.trans displayed.backgroundColor, ?_, ?_, pixels⟩
  · rw [typed, ScrollingText.row]
    change drawn.cursor.line.toNat = min t.lines.length (s.lines - 1)
    rw [cursor]
    by_cases bottom : k.cursor.line = s.lastLine
    · have last : k.textLine.toNat = s.lines - 1 := by
        rw [← s.lastLine_toNat]
        exact congrArg BitVec.toNat bottom
      rw [if_pos bottom]
      change k.textLine.toNat = _
      omega
    · have next := nextLine_toNat displayed.on bottom
      rw [if_neg bottom]
      change (k.textLine + 1).toNat = _
      omega
  · rw [typed]
    change drawn.cursor.col.toNat = 0
    rw [cursor]
    split <;> rfl

/-- The characters of a text, by induction on it: no line of the whole text is too long, so
neither is any line on the way. -/
theorem kprint_shows (apart : Apart s.mode.framebufferPointer s.flushed s.base (4 * s.size))
    (text : List (BitVec 8)) (noNul : 0 ∉ text) (displayed : Shows s t k)
    (room : ∀ line ∈ (text.foldl (ScrollingText.put newline) t).lines,
      line.length ≤ (s.width + 1) / 9) :
    ∃ k', kprint text k = .ok k' ∧ Shows s (text.foldl (ScrollingText.put newline) t) k' := by
  induction text generalizing t k with
  | nil => exact ⟨k, rfl, displayed⟩
  | cons c text ih =>
      have nonzero : c ≠ 0 := fun null => noNul (null ▸ List.mem_cons_self)
      have rest : 0 ∉ text := fun null => noNul (List.mem_cons_of_mem c null)
      have step : ∃ k', kputchar c k = .ok k' ∧ Shows s (t.put newline c) k' := by
        by_cases ends : c = newline
        · rw [ends]
          exact shows_newline displayed apart
        · obtain ⟨line, mem, longer⟩ := ScrollingText.current_grows newline text
            (t.put newline c)
          have bound := room line mem
          rw [ScrollingText.put_char ends, List.length_append, List.length_singleton] at longer
          exact shows_char displayed (not_or.mpr ⟨nonzero, ends⟩) (by omega)
      obtain ⟨mid, puts, shown⟩ := step
      obtain ⟨k', prints, final⟩ := ih rest shown room
      refine ⟨k', ?_, final⟩
      rw [kprint, if_neg nonzero]
      exact bind_ok puts prints

end Steps

/-- What a blank console shows after a text whose lines fit the width of the screen: its
last lines, as many as there are text lines, and the cursor behind the last one. -/
theorem kprint_renders (s : Screen) (k : Console) (on : Console.On s { k with textLine := 0 })
    (textColor : k.textColor = rgb 255 255 255) (backgroundColor : k.backgroundColor = rgb 0 0 0)
    (apart : Apart s.mode.framebufferPointer s.flushed s.base (4 * s.size))
    (text : List (BitVec 8)) (noNul : 0 ∉ text)
    (short : ∀ line ∈ text.splitOn newline, line.length ≤ (s.width + 1) / 9) :
    ∃ k', kprint text (blankOutput k) = .ok k' ∧
      (∀ y, y < s.height → ∀ x, x < s.width →
        k'.pixel s.base (y * s.width + x) = rendering s (text.splitOn newline) y x) ∧
      k'.textLine.toNat = min ((text.splitOn newline).length - 1) (s.lines - 1) ∧
      k'.textColPx.toNat = 9 * ((text.splitOn newline).getLastD []).length := by
  have typed := ScrollingText.lines_typed newline text
  have blank := shows_blank on textColor backgroundColor
  rw [← typed] at short ⊢
  obtain ⟨k', prints, shown⟩ := kprint_shows apart text noNul blank short
  refine ⟨k', prints, shown.pixels, ?_, ?_⟩
  · rw [shown.line, ScrollingText.lines_length, Nat.add_sub_cancel]
    rfl
  · rw [shown.col, ScrollingText.lines_getLast]

/-- Two text lines of two characters, and eight rows of pixels below them. -/
def noteScreen : Screen where
  mode := ⟨0x4000, 0x1000, 17, 40, 17⟩
  narrow := by decide
  tall := by decide
  short := by decide

def noteConsole : Console :=
  { Console.loaded ⟨fun _ => 0xFF, []⟩ with
    videoModeInfo := noteScreen.mode
    framebufferInfo := ⟨17, 40, 68, 32⟩
    maxTextLine := 1 }

theorem noteScreen_apart : Apart noteScreen.mode.framebufferPointer noteScreen.flushed
    noteScreen.base (4 * noteScreen.size) := by
  intro x framebuffer backbuffer
  rw [within_iff_toNat (by decide)] at framebuffer backbuffer
  change 0x4000 ≤ _ ∧ _ at framebuffer
  change _ ∧ _ < 0x1000 + 4 * (17 * 40) at backbuffer
  omega

theorem note_renders :
    ∃ k', kprint (ascii "Hi\n\nyo") (blankOutput noteConsole) = .ok k' ∧
      (∀ y, y < noteScreen.height → ∀ x, x < noteScreen.width →
        k'.pixel noteScreen.base (y * noteScreen.width + x) =
          rendering noteScreen ((ascii "Hi\n\nyo").splitOn newline) y x) ∧
      k'.textLine.toNat = 1 ∧ k'.textColPx.toNat = 18 :=
  kprint_renders noteScreen noteConsole ⟨rfl, rfl, rfl, rfl, by decide, by decide⟩ rfl rfl
    noteScreen_apart (ascii "Hi\n\nyo") (by decide) (by decide)

end Flosp.Kernel
