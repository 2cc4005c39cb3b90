import Flosp.Kernel.Paging

/-! What the console does to the machine: which pixels are stored to, and what stays. -/

namespace Flosp.Kernel

open ByteMemory

def pixelAddr (base : Addr) (p : Nat) : Addr := base + BitVec.ofNat 64 (4 * p)

def pixelStore (pos : Addr) : Access 64 Origin := ⟨.draw, .store, pos, 4⟩

theorem pixelAddr_add (base : Addr) (p n : Nat) :
    pixelAddr base p + pixels (BitVec.ofNat 64 n) = pixelAddr base (p + n) := by
  have scaled : pixels (BitVec.ofNat 64 n) = BitVec.ofNat 64 (4 * n) := by
    rw [pixels, BitVec.ofNat_mul]
    rfl
  rw [pixelAddr, pixelAddr, scaled, offset_add, Nat.mul_add]

theorem pixelAddr_sub (base : Addr) (p n : Nat) :
    pixelAddr base (p + n) - pixels (BitVec.ofNat 64 n) = pixelAddr base p := by
  rw [← pixelAddr_add, BitVec.add_sub_cancel]

theorem pixelAddr_zero (base : Addr) : pixelAddr base 0 = base := BitVec.add_zero base

/-- A preorder that storing a pixel and copying pixels keep to. -/
structure Drawing (R : Console → Console → Prop) : Prop where
  refl : ∀ k, R k k
  trans : ∀ {k k' k''}, R k k' → R k' k'' → R k k''
  storePixel : ∀ k pos color, R k (k.storePixel pos color)
  memcpy : ∀ k tag source dest nbytes, tag = .draw ∨ tag = .flush →
    R k { k with machine := (memcpy tag source dest nbytes k.machine).2 }

namespace Drawing

variable {R : Console → Console → Prop} (drawing : Drawing R)

include drawing

theorem blankColumns (row : BitVec 64) (turns : Nat) (col : BitVec 64) (k : Console) :
    R k (blankColumns row turns col k) := by
  induction turns generalizing col k with
  | zero => exact drawing.refl k
  | succ turns ih => exact drawing.trans (drawing.storePixel k ..) (ih (col + 1) _)

theorem blankRows (turns : Nat) (row : BitVec 64) (k : Console) : R k (blankRows turns row k) := by
  induction turns generalizing row k with
  | zero => exact drawing.refl k
  | succ turns ih => exact drawing.trans (drawing.blankColumns row _ 0 k) (ih (row + 1) _)

theorem scrollRows (turns : Nat) (pos : Addr) (k : Console) : R k (scrollRows turns pos k) := by
  induction turns generalizing pos k with
  | zero => exact drawing.refl k
  | succ turns ih =>
      exact drawing.trans (drawing.memcpy k .draw _ _ _ (Or.inl rfl)) (ih _ _)

theorem blankPixels (turns : Nat) (pos : Addr) (k : Console) : R k (blankPixels turns pos k).2 := by
  induction turns generalizing pos k with
  | zero => exact drawing.refl k
  | succ turns ih => exact drawing.trans (drawing.storePixel k ..) (ih _ _)

theorem blankLastLine (turns : Nat) (pos : Addr) (k : Console) :
    R k (blankLastLine turns pos k) := by
  induction turns generalizing pos k with
  | zero => exact drawing.refl k
  | succ turns ih => exact drawing.trans (drawing.blankPixels _ pos k) (ih _ _)

theorem drawRow (turns : Nat) (ch : BitVec 8) (pos : Addr) (k : Console) :
    R k (drawRow turns ch pos k) := by
  induction turns generalizing ch pos k with
  | zero => exact drawing.refl k
  | succ turns ih => exact drawing.trans (drawing.storePixel k ..) (ih _ _ _)

theorem drawRows (rows : List (BitVec 8)) (lastPos : Addr) (k : Console) :
    R k (drawRows rows lastPos k) := by
  induction rows generalizing lastPos k with
  | nil => exact drawing.refl k
  | cons ch rows ih => exact drawing.trans (drawing.drawRow 8 ch lastPos k) (ih _ _)

theorem flushFramebuffer (k : Console) : R k (flushFramebuffer k) :=
  drawing.memcpy k .flush _ _ _ (Or.inr rfl)

end Drawing

/-- A step that changes nothing but the machine. -/
structure Draws (k k' : Console) : Prop where
  globals : k' = { k with machine := k'.machine }
  grows : Extends k.machine k'.machine

namespace Draws

variable {k k' k'' : Console}

theorem refl (k : Console) : Draws k k := ⟨rfl, Extends.refl k.machine⟩

theorem trans (first : Draws k k') (second : Draws k' k'') : Draws k k'' := by
  refine ⟨?_, first.grows.trans second.grows⟩
  rw [second.globals, first.globals]

theorem storePixel (k : Console) (pos : Addr) (color : BitVec 32) :
    Draws k (k.storePixel pos color) :=
  ⟨rfl, Extends.store ..⟩

theorem memcpy (k : Console) (tag : Origin) (source dest : Addr) (nbytes : BitVec 32) :
    Draws k { k with machine := (memcpy tag source dest nbytes k.machine).2 } :=
  ⟨rfl, memcpy_extends⟩

theorem drawing : Drawing Draws where
  refl := refl
  trans := trans
  storePixel := storePixel
  memcpy := fun k tag source dest nbytes _ => memcpy k tag source dest nbytes

theorem width (draws : Draws k k') : k'.framebufferInfo = k.framebufferInfo := by
  rw [draws.globals]

theorem mode (draws : Draws k k') : k'.videoModeInfo = k.videoModeInfo := by
  rw [draws.globals]

theorem rowBytes (draws : Draws k k') : k'.rowBytes = k.rowBytes := by
  rw [Console.rowBytes, Console.rowBytes, draws.width]

theorem font (draws : Draws k k') : k'.fontSize = k.fontSize := by
  rw [draws.globals]

theorem line (draws : Draws k k') : k'.textLine = k.textLine := by
  rw [draws.globals]

end Draws

section Loops

variable {k : Console} {P : Access 64 Origin → Prop}

theorem storePixel_allNew (pos : Addr) (color : BitVec 32) :
    AllNew P k.machine (k.storePixel pos color).machine ↔ P (pixelStore pos) :=
  AllNew.step_iff rfl

theorem drawRow_allNew {turns : Nat} {ch : BitVec 8} {base : Addr} {p : Nat}
    (room : turns ≤ p + 1) :
    AllNew P k.machine (drawRow turns ch (pixelAddr base p) k).machine ↔
      ∀ j, j < turns → P (pixelStore (pixelAddr base (p - j))) := by
  induction turns generalizing ch p k with
  | zero => exact iff_of_true (AllNew.refl P _) fun j below => absurd below (Nat.not_lt_zero j)
  | succ turns ih =>
      rw [drawRow, AllNew.trans_iff (Draws.storePixel k ..).grows
        (Draws.drawing.drawRow turns _ _ _).grows, storePixel_allNew, Nat.forall_lt_succ_left]
      apply and_congr Iff.rfl
      cases turns with
      | zero => exact iff_of_true (AllNew.refl P _) fun j below => absurd below (Nat.not_lt_zero j)
      | succ turns =>
          obtain ⟨q, rfl⟩ : ∃ q, p = q + 1 := ⟨p - 1, by omega⟩
          rw [show pixels 1 = pixels (BitVec.ofNat 64 1) from rfl, pixelAddr_sub, ih (by omega)]
          simp only [Nat.add_sub_add_right]

theorem rowBytes_eq (k : Console) :
    k.rowBytes = pixels (BitVec.ofNat 64 k.framebufferInfo.width.toNat) := by
  rw [Console.rowBytes, BitVec.ofNat_toNat]

theorem drawRows_allNew {rows : List (BitVec 8)} {base : Addr} {p : Nat} (room : 7 ≤ p) :
    AllNew P k.machine (drawRows rows (pixelAddr base p) k).machine ↔
      ∀ i, i < rows.length → ∀ j, j < 8 →
        P (pixelStore (pixelAddr base (p + k.framebufferInfo.width.toNat * i - j))) := by
  induction rows generalizing p k with
  | nil => exact iff_of_true (AllNew.refl P _) fun i below => absurd below (Nat.not_lt_zero i)
  | cons ch rows ih =>
      have row := Draws.drawing.drawRow 8 ch (pixelAddr base p) k
      rw [drawRows, AllNew.trans_iff row.grows (Draws.drawing.drawRows rows _ _).grows,
        drawRow_allNew (by omega), rowBytes_eq, pixelAddr_add, ih (by omega), row.width,
        List.length_cons, Nat.forall_lt_succ_left (n := rows.length)]
      simp only [Nat.mul_zero, Nat.add_zero, Nat.mul_add, Nat.mul_one, Nat.add_assoc,
        Nat.add_comm (k.framebufferInfo.width.toNat)]

theorem blankPixels_fst (turns : Nat) (base : Addr) (p : Nat) (k : Console) :
    (blankPixels turns (pixelAddr base p) k).1 = pixelAddr base (p + turns) := by
  induction turns generalizing p k with
  | zero => rfl
  | succ turns ih =>
      rw [blankPixels, show pixels 1 = pixels (BitVec.ofNat 64 1) from rfl, pixelAddr_add, ih,
        Nat.add_assoc, Nat.add_comm 1]

theorem blankPixels_allNew {turns : Nat} {base : Addr} {p : Nat} :
    AllNew P k.machine (blankPixels turns (pixelAddr base p) k).2.machine ↔
      ∀ i, i < turns → P (pixelStore (pixelAddr base (p + i))) := by
  induction turns generalizing p k with
  | zero => exact iff_of_true (AllNew.refl P _) fun i below => absurd below (Nat.not_lt_zero i)
  | succ turns ih =>
      rw [blankPixels, AllNew.trans_iff (Draws.storePixel k ..).grows
        (Draws.drawing.blankPixels turns _ _).grows, storePixel_allNew,
        show pixels 1 = pixels (BitVec.ofNat 64 1) from rfl, pixelAddr_add, ih,
        Nat.forall_lt_succ_left]
      simp only [Nat.add_zero, Nat.add_assoc, Nat.add_comm 1]

theorem blankLastLine_allNew {turns : Nat} {base : Addr} {p : Nat}
    (all : ∀ i, i < turns * k.framebufferInfo.width.toNat →
      P (pixelStore (pixelAddr base (p + i)))) :
    AllNew P k.machine (blankLastLine turns (pixelAddr base p) k).machine := by
  induction turns generalizing p k with
  | zero => exact AllNew.refl P _
  | succ turns ih =>
      have row := Draws.drawing.blankPixels k.framebufferInfo.width.toNat (pixelAddr base p) k
      rw [Nat.succ_mul] at all
      rw [blankLastLine, AllNew.trans_iff row.grows (Draws.drawing.blankLastLine turns _ _).grows,
        blankPixels_allNew, blankPixels_fst]
      constructor
      · intro i below
        exact all i (by omega)
      · apply ih
        intro i below
        rw [row.width] at below
        rw [Nat.add_assoc]
        exact all _ (by omega)

theorem blankColumns_target (k : Console) (row col : Nat) :
    k.videoModeInfo.backbufferPointer +
        pixels (BitVec.ofNat 64 row * k.framebufferInfo.width.setWidth 64) +
        pixels (BitVec.ofNat 64 col) =
      pixelAddr k.videoModeInfo.backbufferPointer
        (row * k.framebufferInfo.width.toNat + col) := by
  rw [← BitVec.ofNat_toNat, ← BitVec.ofNat_mul]
  nth_rewrite 1 [← pixelAddr_zero k.videoModeInfo.backbufferPointer]
  rw [pixelAddr_add, pixelAddr_add, Nat.zero_add]

theorem blankColumns_allNew (row turns col : Nat) :
    AllNew P k.machine
        (blankColumns (BitVec.ofNat 64 row) turns (BitVec.ofNat 64 col) k).machine ↔
      ∀ i, i < turns → P (pixelStore (pixelAddr k.videoModeInfo.backbufferPointer
        (row * k.framebufferInfo.width.toNat + (col + i)))) := by
  induction turns generalizing col k with
  | zero => exact iff_of_true (AllNew.refl P _) fun i below => absurd below (Nat.not_lt_zero i)
  | succ turns ih =>
      have store := Draws.storePixel k (k.videoModeInfo.backbufferPointer + pixels
        (BitVec.ofNat 64 row * k.framebufferInfo.width.setWidth 64) + pixels (BitVec.ofNat 64 col))
        (rgb 0 0 0)
      have next : BitVec.ofNat 64 col + 1 = BitVec.ofNat 64 (col + 1) :=
        (BitVec.ofNat_add col 1).symm
      rw [blankColumns, AllNew.trans_iff store.grows (Draws.drawing.blankColumns _ turns _ _).grows,
        storePixel_allNew, next, ih, store.width, store.mode, blankColumns_target,
        Nat.forall_lt_succ_left]
      simp only [Nat.add_zero, Nat.add_assoc, Nat.add_comm 1]

theorem blankRows_allNew {turns : Nat} (row : Nat)
    (all : ∀ i, row ≤ i → i < row + turns → ∀ j, j < k.framebufferInfo.width.toNat →
      P (pixelStore (pixelAddr k.videoModeInfo.backbufferPointer
        (i * k.framebufferInfo.width.toNat + j)))) :
    AllNew P k.machine (blankRows turns (BitVec.ofNat 64 row) k).machine := by
  induction turns generalizing row k with
  | zero => exact AllNew.refl P _
  | succ turns ih =>
      have columns := Draws.drawing.blankColumns (BitVec.ofNat 64 row) k.framebufferInfo.width.toNat 0 k
      have next : BitVec.ofNat 64 row + 1 = BitVec.ofNat 64 (row + 1) :=
        (BitVec.ofNat_add row 1).symm
      rw [blankRows, AllNew.trans_iff columns.grows (Draws.drawing.blankRows turns _ _).grows, next]
      constructor
      · apply (blankColumns_allNew row _ 0).mpr
        intro i below
        rw [Nat.zero_add]
        exact all row (Nat.le_refl row) (by omega) i below
      · apply ih
        rw [columns.width, columns.mode]
        exact fun i above below => all i (by omega) (by omega)

theorem scrollRows_allNew (turns : Nat) (base : Addr) {p above : Nat}
    (line : pixels ((k.fontSize.setWidth 32 * k.framebufferInfo.width).setWidth 64) =
      pixels (BitVec.ofNat 64 above))
    (all : ∀ i, i < turns → ∀ e,
      Confined .draw (pixelAddr base (p + i * k.framebufferInfo.width.toNat + above))
        (k.framebufferInfo.width * 4).toNat
        (pixelAddr base (p + i * k.framebufferInfo.width.toNat))
        (k.framebufferInfo.width * 4).toNat e → P e) :
    AllNew P k.machine (scrollRows turns (pixelAddr base (p + above)) k).machine := by
  induction turns generalizing p k with
  | zero => exact AllNew.refl P _
  | succ turns ih =>
      have copy := Draws.memcpy k .draw (pixelAddr base (p + above)) (pixelAddr base p)
        (k.framebufferInfo.width * 4)
      rw [scrollRows, line, pixelAddr_sub, rowBytes_eq, pixelAddr_add,
        AllNew.trans_iff copy.grows (Draws.drawing.scrollRows turns _ _).grows]
      constructor
      · refine (memcpy_confined_iff.mpr ⟨Nat.le_refl _, Nat.le_refl _⟩).mono fun e confined => ?_
        apply all 0 (by omega)
        rw [Nat.zero_mul, Nat.add_zero]
        exact confined
      · rw [Nat.add_right_comm]
        apply ih (k := { k with machine := (Kernel.memcpy .draw (pixelAddr base (p + above))
          (pixelAddr base p) (k.framebufferInfo.width * 4) k.machine).2 }) line
        intro i below e confined
        apply all (i + 1) (by omega)
        rw [Nat.succ_mul, Nat.add_comm (i * _), ← Nat.add_assoc]
        exact confined

end Loops

end Flosp.Kernel
