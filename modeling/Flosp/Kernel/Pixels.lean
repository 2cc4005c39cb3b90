import Flosp.Kernel.Cursor
import Flosp.Lib.CellArray

/-! What the loops of the console leave in the pixels of a buffer. -/

namespace Flosp.Kernel

open ByteMemory

/-- Pixel `p` of the buffer at `base`. -/
def Console.pixel (k : Console) (base : Addr) (p : Nat) : BitVec 32 := cell k.machine.mem base 4 p

/-- What a bit of a glyph is drawn in. -/
def Console.ink (k : Console) (bit : Bool) : BitVec 32 :=
  if bit then k.textColor else k.backgroundColor

section Loops

variable {k : Console} {base : Addr} {p q : Nat}

theorem storePixel_pixel (color : BitVec 32) (first : p < 2 ^ 60) (second : q < 2 ^ 60) :
    (k.storePixel (pixelAddr base q) color).pixel base p =
      if p = q then color else k.pixel base p :=
  cell_store 4 k.machine.mem color (by omega) (by omega)

theorem lowBit_iff (ch : BitVec 8) : ch % 2 = 1 ↔ ch.getLsbD 0 = true := by
  revert ch
  decide

theorem drawRow_pixel {turns : Nat} {ch : BitVec 8} (room : turns ≤ p + 1) (first : p < 2 ^ 60)
    (second : q < 2 ^ 60) :
    (drawRow turns ch (pixelAddr base p) k).pixel base q =
      if q ≤ p ∧ p < q + turns then k.ink (ch.getLsbD (p - q)) else k.pixel base q := by
  induction turns generalizing ch p k with
  | zero => rw [if_neg (by omega)]; rfl
  | succ turns ih =>
      have color : (if ch % 2 = 1 then k.textColor else k.backgroundColor) =
          k.ink (ch.getLsbD 0) := by
        simp only [Console.ink, lowBit_iff]
      rw [drawRow, color]
      cases turns with
      | zero =>
          rw [drawRow, storePixel_pixel _ second first]
          by_cases here : q = p
          · rw [if_pos here, if_pos (by omega), here, Nat.sub_self]
          · rw [if_neg here, if_neg (by omega)]
      | succ turns =>
          obtain ⟨r, rfl⟩ : ∃ r, p = r + 1 := ⟨p - 1, by omega⟩
          rw [show pixels 1 = pixels (BitVec.ofNat 64 1) from rfl, pixelAddr_sub,
            ih (by omega) (by omega), storePixel_pixel _ second first]
          by_cases later : q ≤ r ∧ r < q + (turns + 1)
          · have bit : r + 1 - q = r - q + 1 := by omega
            rw [if_pos later, if_pos (by omega), bit, BitVec.getLsbD_ushiftRight, Nat.add_comm 1]
            rfl
          · rw [if_neg later]
            by_cases here : q = r + 1
            · rw [if_pos here, if_pos (by omega), here, Nat.sub_self]
            · rw [if_neg here, if_neg (by omega)]

theorem blankPixels_pixel {turns : Nat} (first : p + turns < 2 ^ 60) (second : q < 2 ^ 60) :
    (blankPixels turns (pixelAddr base p) k).2.pixel base q =
      if p ≤ q ∧ q < p + turns then rgb 0 0 0 else k.pixel base q := by
  induction turns generalizing p k with
  | zero => rw [if_neg (by omega)]; rfl
  | succ turns ih =>
      rw [blankPixels, show pixels 1 = pixels (BitVec.ofNat 64 1) from rfl, pixelAddr_add,
        ih (by omega), storePixel_pixel _ second (by omega), ← ite_or]
      exact if_congr (by omega) rfl rfl

theorem blankLastLine_pixel (base : Addr) (turns : Nat)
    (first : p + turns * k.framebufferInfo.width.toNat < 2 ^ 60) (second : q < 2 ^ 60) :
    (blankLastLine turns (pixelAddr base p) k).pixel base q =
      if p ≤ q ∧ q < p + turns * k.framebufferInfo.width.toNat then rgb 0 0 0
      else k.pixel base q := by
  induction turns generalizing p k with
  | zero => rw [if_neg (by omega)]; rfl
  | succ turns ih =>
      have row := Draws.drawing.blankPixels k.framebufferInfo.width.toNat (pixelAddr base p) k
      rw [Nat.succ_mul] at first ⊢
      rw [blankLastLine, blankPixels_fst, ih (by rw [row.width]; omega), row.width,
        blankPixels_pixel (by omega) second, ← ite_or]
      exact if_congr (by omega) rfl rfl

/-- Rows that are moved by `above` pixels, each before it is overwritten. -/
theorem scrollRows_pixel (base : Addr) (turns : Nat) {above : Nat}
    (line : pixels ((k.fontSize.setWidth 32 * k.framebufferInfo.width).setWidth 64) =
      pixels (BitVec.ofNat 64 above))
    (bytes : (k.framebufferInfo.width * 4).toNat = 4 * k.framebufferInfo.width.toNat)
    (apart : k.framebufferInfo.width.toNat ≤ above)
    (first : p + turns * k.framebufferInfo.width.toNat + above < 2 ^ 60) (second : q < 2 ^ 60) :
    (scrollRows turns (pixelAddr base (p + above)) k).pixel base q =
      if p ≤ q ∧ q < p + turns * k.framebufferInfo.width.toNat then k.pixel base (q + above)
      else k.pixel base q := by
  induction turns generalizing p k with
  | zero => rw [if_neg (by omega)]; rfl
  | succ turns ih =>
      let moved : Console := { k with machine := (memcpy .draw (pixelAddr base (p + above))
        (pixelAddr base p) (k.framebufferInfo.width * 4) k.machine).2 }
      rw [Nat.succ_mul] at first ⊢
      have forward : Forward (pixelAddr base p) (pixelAddr base (p + above))
          (k.framebufferInfo.width * 4).toNat := by
        rw [bytes, pixelAddr, pixelAddr, Nat.mul_add, ← offset_add]
        exact Forward.of_below _ (by omega)
      have row (r : Nat) (bound : r < 2 ^ 60) : moved.pixel base r =
          if p ≤ r ∧ r < p + k.framebufferInfo.width.toNat then k.pixel base (r + above)
          else k.pixel base r := by
        change cell (memcpy .draw _ _ _ k.machine).2.mem base 4 r = _
        rw [memcpy_mem forward, bytes]
        refine (cell_copy 4 k.machine.mem (by omega) (by omega)).trans ?_
        by_cases here : p ≤ r ∧ r < p + k.framebufferInfo.width.toNat
        · rw [if_pos here, if_pos here, show r - p + (p + above) = r + above by omega]
          rfl
        · rw [if_neg here, if_neg here]
          rfl
      rw [scrollRows, line, pixelAddr_sub, rowBytes_eq, pixelAddr_add, Nat.add_right_comm]
      refine (ih (k := moved) line bytes apart (p := p + k.framebufferInfo.width.toNat)
        (by change _ + turns * k.framebufferInfo.width.toNat + _ < _; omega)).trans ?_
      change (if p + k.framebufferInfo.width.toNat ≤ q ∧ q < p + k.framebufferInfo.width.toNat +
        turns * k.framebufferInfo.width.toNat then _ else _) = _
      by_cases later : p + k.framebufferInfo.width.toNat ≤ q ∧
          q < p + k.framebufferInfo.width.toNat + turns * k.framebufferInfo.width.toNat
      · rw [if_pos later, if_pos (by omega), row _ (by omega), if_neg (by omega)]
      · rw [if_neg later, row _ second]
        by_cases here : p ≤ q ∧ q < p + k.framebufferInfo.width.toNat
        · rw [if_pos here, if_pos (by omega)]
        · rw [if_neg here, if_neg (by omega)]

theorem blankColumns_pixel {row turns col : Nat}
    (first : row * k.framebufferInfo.width.toNat + col + turns < 2 ^ 60) (second : q < 2 ^ 60) :
    (blankColumns (BitVec.ofNat 64 row) turns (BitVec.ofNat 64 col) k).pixel
        k.videoModeInfo.backbufferPointer q =
      if row * k.framebufferInfo.width.toNat + col ≤ q ∧
          q < row * k.framebufferInfo.width.toNat + col + turns then rgb 0 0 0
      else k.pixel k.videoModeInfo.backbufferPointer q := by
  induction turns generalizing col k with
  | zero => rw [if_neg (by omega)]; rfl
  | succ turns ih =>
      have next : BitVec.ofNat 64 col + 1 = BitVec.ofNat 64 (col + 1) :=
        (BitVec.ofNat_add col 1).symm
      rw [blankColumns, blankColumns_target, next]
      refine (ih (k := k.storePixel _ _) (by change row * k.framebufferInfo.width.toNat + _ + _ < _
                                             omega)).trans ?_
      change (if row * k.framebufferInfo.width.toNat + (col + 1) ≤ q ∧
        q < row * k.framebufferInfo.width.toNat + (col + 1) + turns then _ else
        (k.storePixel _ _).pixel k.videoModeInfo.backbufferPointer q) = _
      rw [storePixel_pixel _ second (by omega), ← ite_or]
      exact if_congr (by omega) rfl rfl

theorem blankRows_pixel (row turns : Nat)
    (first : (row + turns) * k.framebufferInfo.width.toNat < 2 ^ 60) (second : q < 2 ^ 60) :
    (blankRows turns (BitVec.ofNat 64 row) k).pixel k.videoModeInfo.backbufferPointer q =
      if row * k.framebufferInfo.width.toNat ≤ q ∧
          q < (row + turns) * k.framebufferInfo.width.toNat then rgb 0 0 0
      else k.pixel k.videoModeInfo.backbufferPointer q := by
  induction turns generalizing row k with
  | zero => rw [if_neg (by rw [Nat.add_zero]; omega)]; rfl
  | succ turns ih =>
      have next : BitVec.ofNat 64 row + 1 = BitVec.ofNat 64 (row + 1) :=
        (BitVec.ofNat_add row 1).symm
      have columns := Draws.drawing.blankColumns (BitVec.ofNat 64 row) k.framebufferInfo.width.toNat 0 k
      have shift : row + (turns + 1) = row + 1 + turns := by omega
      have grow : (row + 1 + turns) * k.framebufferInfo.width.toNat =
          row * k.framebufferInfo.width.toNat + k.framebufferInfo.width.toNat +
            turns * k.framebufferInfo.width.toNat := by
        ring
      rw [shift] at first
      have rest := ih (row + 1)
        (k := blankColumns (BitVec.ofNat 64 row) k.framebufferInfo.width.toNat 0 k)
        (by rw [columns.width]; exact first)
      rw [columns.width, columns.mode] at rest
      have here := blankColumns_pixel (show row * k.framebufferInfo.width.toNat + 0 +
        k.framebufferInfo.width.toNat < 2 ^ 60 by omega) second
      rw [blankRows, next, rest, shift, Nat.add_mul row 1, Nat.one_mul]
      refine (if_congr Iff.rfl rfl here).trans ?_
      rw [← ite_or]
      exact if_congr (by omega) rfl rfl

theorem flushFramebuffer_pixel (len : Nat)
    (apart : Apart k.videoModeInfo.framebufferPointer
      (k.videoModeInfo.pixelsPerScanline * k.videoModeInfo.horizontalResolution * 4).toNat
      base len) (small : len < 2 ^ 62) (inside : 4 * (q + 1) ≤ len) :
    (flushFramebuffer k).pixel base q = k.pixel base q := by
  apply load_congr_within (by decide)
  intro x within
  have ours : Within x base len := (within_of_sub (show 4 * q + 4 ≤ 2 ^ 64 by omega) within).mono
    (by omega)
  apply AllNew.mem_eq memcpy_extends
  apply (memcpy_confined_iff.mpr ⟨Nat.le_refl _, Nat.le_refl _⟩).mono
  intro e confined stored touched
  have target := confined.2 x touched
  rw [stored] at target
  exact apart x target ours

theorem row_run_iff {W x y a b n : Nat} (col : x < W) (room : a + n ≤ W) :
    (b * W + a ≤ y * W + x ∧ y * W + x < b * W + a + n) ↔ y = b ∧ a ≤ x ∧ x < a + n := by
  rcases Nat.lt_trichotomy y b with above | same | below
  · have next : (y + 1) * W ≤ b * W := Nat.mul_le_mul_right W above
    rw [Nat.succ_mul] at next
    omega
  · rw [same]
    omega
  · have next : (b + 1) * W ≤ y * W := Nat.mul_le_mul_right W below
    rw [Nat.succ_mul] at next
    omega

theorem drawRows_pixel (base : Addr) (rows : List (BitVec 8)) {x y a b : Nat}
    (room : a + 8 ≤ k.framebufferInfo.width.toNat) (col : x < k.framebufferInfo.width.toNat)
    (first : (b + rows.length) * k.framebufferInfo.width.toNat < 2 ^ 60)
    (second : y * k.framebufferInfo.width.toNat + x < 2 ^ 60) :
    (drawRows rows (pixelAddr base (b * k.framebufferInfo.width.toNat + (a + 7))) k).pixel base
        (y * k.framebufferInfo.width.toNat + x) =
      if (b ≤ y ∧ y < b + rows.length) ∧ a ≤ x ∧ x < a + 8 then
        k.ink ((rows.getD (y - b) 0).getLsbD (a + 7 - x))
      else k.pixel base (y * k.framebufferInfo.width.toNat + x) := by
  induction rows generalizing b k with
  | nil => rw [List.length_nil, if_neg (by omega)]; rfl
  | cons ch rows ih =>
      let here := drawRow 8 ch
        (pixelAddr base (b * k.framebufferInfo.width.toNat + (a + 7))) k
      have row : Draws k here := Draws.drawing.drawRow 8 ch _ k
      have width : here.framebufferInfo.width.toNat = k.framebufferInfo.width.toNat := by
        rw [row.width]
      have grow : (b + (rows.length + 1)) * k.framebufferInfo.width.toNat =
          b * k.framebufferInfo.width.toNat + k.framebufferInfo.width.toNat +
            rows.length * k.framebufferInfo.width.toNat := by
        ring
      have down : b * k.framebufferInfo.width.toNat + (a + 7) + k.framebufferInfo.width.toNat =
          (b + 1) * k.framebufferInfo.width.toNat + (a + 7) := by
        ring
      rw [List.length_cons] at first
      have rest := ih (k := here) (b := b + 1) (by rw [width]; exact room)
        (by rw [width]; exact col)
        (by rw [width, Nat.add_assoc, Nat.add_comm 1]; exact first) (by rw [width]; exact second)
      rw [width] at rest
      have ink (bit : Bool) : here.ink bit = k.ink bit := by
        rw [Console.ink, Console.ink, row.globals]
      have now : here.pixel base (y * k.framebufferInfo.width.toNat + x) =
          if y = b ∧ a ≤ x ∧ x < a + 8 then k.ink (ch.getLsbD (a + 7 - x))
          else k.pixel base (y * k.framebufferInfo.width.toNat + x) := by
        refine (drawRow_pixel (by omega) (by omega) second).trans ?_
        have run := row_run_iff (y := y) (b := b) col room
        by_cases inRun : y = b ∧ a ≤ x ∧ x < a + 8
        · have bounds := run.mpr inRun
          rw [if_pos inRun, if_pos (by omega), inRun.1]
          congr 2
          omega
        · have outside := fun bounds => inRun (run.mp bounds)
          rw [if_neg inRun, if_neg (by omega)]
      rw [drawRows, rowBytes_eq, pixelAddr_add, down]
      apply rest.trans
      rw [now, ink, List.length_cons]
      by_cases later : (b + 1 ≤ y ∧ y < b + 1 + rows.length) ∧ a ≤ x ∧ x < a + 8
      · have index : y - b = y - (b + 1) + 1 := by omega
        rw [if_pos later, if_pos (by omega), index, List.getD_cons_succ]
      · rw [if_neg later]
        by_cases inRow : y = b ∧ a ≤ x ∧ x < a + 8
        · rw [if_pos inRow, if_pos (by omega), inRow.1, Nat.sub_self, List.getD_cons_zero]
        · rw [if_neg inRow, if_neg (by omega)]

end Loops

end Flosp.Kernel
