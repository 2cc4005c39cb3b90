import Flosp.Kernel.NumberPrinters
import Flosp.Kernel.Output

/-! Where the output of `set_mem_page_flags` is drawn to, on a screen of any size. -/

namespace Flosp.Kernel

open ByteMemory

section Mode

variable (vmi : BootVideoModeInfo)

/-- `max_text_line` as `initialize_video` sets it -/
def lastTextLine : BitVec 16 :=
  (vmi.verticalResolution / (16 : BitVec 8).setWidth 32 - 1).setWidth 16

theorem lastTextLine_toNat : (lastTextLine vmi).toNat =
    (2 ^ 32 - 1 + vmi.verticalResolution.toNat / 16) % 2 ^ 32 % 2 ^ 16 := by
  rw [lastTextLine, BitVec.toNat_setWidth, BitVec.toNat_sub, BitVec.toNat_udiv]
  rfl

/-- The pixels of the back buffer, or those above the end of 30 characters on the lowest line that
five line breaks lead to. -/
def reportPixels : Nat :=
  max (vmi.pixelsPerScanline.toNat * vmi.verticalResolution.toNat)
    ((16 * min 5 (lastTextLine vmi).toNat + 15) * vmi.pixelsPerScanline.toNat + 269)

/-- `x` is in the reach of the output, which is nowhere without a screen. -/
def ReportReach (x : Addr) : Prop :=
  0 < vmi.pixelsPerScanline.toNat * vmi.verticalResolution.toNat ∧
    (Within x vmi.backbufferPointer (4 * reportPixels vmi) ∨
      Within x vmi.framebufferPointer
        (vmi.pixelsPerScanline * vmi.horizontalResolution * 4).toNat)

/-- Only page table entries are stored to outside that reach. -/
def ReportAccess (e : Access 64 Origin) : Prop :=
  e.kind = .store → e.tag ≠ .pageTable → ∀ x, Within x e.addr e.len → ReportReach vmi x

/-- The cursor is on a text line, above the first `lines` line breaks and before the character
`chars`. -/
structure ReportAt (lines chars : Nat) (k : Console) : Prop where
  mode : k.videoModeInfo = vmi
  width : k.framebufferInfo.width = vmi.pixelsPerScanline
  height : k.framebufferInfo.height = vmi.verticalResolution
  font : k.fontSize = 16
  last : k.maxTextLine = lastTextLine vmi
  line : k.textLine.toNat ≤ min lines (lastTextLine vmi).toNat
  col : k.textColPx.toNat ≤ 9 * chars

/-- Output that, if it comes back, has moved the cursor so far and stored in its reach. -/
def Writes (lines chars : Nat) (k : Console) (r : Outcome Console) : Prop :=
  ∀ k', r = .ok k' → ReportAt vmi lines chars k' ∧ Extends k.machine k'.machine ∧
    AllNew (ReportAccess vmi) k.machine k'.machine

end Mode

section Output

variable {vmi : BootVideoModeInfo} {lines lines' chars chars' : Nat} {k : Console}

namespace Writes

theorem step {k₁ : Console} {r : Outcome Console} (first : Writes vmi lines chars k (.ok k₁))
    (rest : ReportAt vmi lines chars k₁ → Writes vmi lines' chars' k₁ r) :
    Writes vmi lines' chars' k r := by
  rcases first k₁ rfl with ⟨here, grows, access⟩
  intro k₂ returns
  rcases rest here k₂ returns with ⟨there, grows', access'⟩
  exact ⟨there, grows.trans grows', (AllNew.trans_iff grows grows').mpr ⟨access, access'⟩⟩

theorem bind {r : Outcome Console} {f : Console → Outcome Console}
    (first : Writes vmi lines chars k r)
    (rest : ∀ k', ReportAt vmi lines chars k' → Writes vmi lines' chars' k' (f k')) :
    Writes vmi lines' chars' k (r >>= f) := by
  cases r with
  | error stop =>
      intro k' returns
      cases returns
  | ok k' => exact first.step (rest k')

theorem mono {r : Outcome Console} (writes : Writes vmi lines chars k r) (more : chars ≤ chars') :
    Writes vmi lines chars' k r := by
  intro k' returns
  rcases writes k' returns with ⟨here, grows, access⟩
  have col := here.col
  exact ⟨⟨here.mode, here.width, here.height, here.font, here.last, here.line, by omega⟩, grows,
    access⟩

theorem still (here : ReportAt vmi lines chars k) : Writes vmi lines chars k (.ok k) := by
  intro k' same
  cases same
  exact ⟨here, Extends.refl _, AllNew.refl _ _⟩

theorem of_draws {k' : Console} (here : ReportAt vmi lines chars k) (draws : Draws k k')
    (access : AllNew (ReportAccess vmi) k.machine k'.machine) :
    Writes vmi lines chars k (.ok k') := by
  intro k'' same
  cases same
  refine ⟨?_, draws.grows, access⟩
  rw [draws.globals]
  exact ⟨here.mode, here.width, here.height, here.font, here.last, here.line, here.col⟩

end Writes

theorem ReportAt.machine (here : ReportAt vmi lines chars k) (machine : KernelMachine) :
    ReportAt vmi lines chars { k with machine } :=
  ⟨here.mode, here.width, here.height, here.font, here.last, here.line, here.col⟩

theorem Writes.of_loads {machine : KernelMachine} (here : ReportAt vmi lines chars k)
    (loads : Loads k.machine machine) : Writes vmi lines chars k (.ok { k with machine }) := by
  intro k' same
  cases same
  refine ⟨here.machine machine, loads.grows, loads.kinds.mono fun e load store => ?_⟩
  rw [load] at store
  cases store

end Output

section Screen

variable {vmi : BootVideoModeInfo} {lines chars : Nat} {k : Console}
  (small : vmi.pixelsPerScanline.toNat * vmi.verticalResolution.toNat * 4 < 2 ^ 32)
  (screen : 0 < vmi.pixelsPerScanline.toNat * vmi.verticalResolution.toNat)

include small in
theorem reportPixels_small : reportPixels vmi < 2 ^ 60 := by
  have width := vmi.pixelsPerScanline.isLt
  have rows : (16 * min 5 (lastTextLine vmi).toNat + 15) * vmi.pixelsPerScanline.toNat ≤
      95 * 2 ^ 32 := Nat.mul_le_mul (by omega) (Nat.le_of_lt width)
  rw [reportPixels]
  omega

include screen in
theorem flushFramebuffer_writes (here : ReportAt vmi lines chars k) :
    Writes vmi lines chars k (.ok (flushFramebuffer k)) := by
  apply Writes.of_draws here (Draws.drawing.flushFramebuffer k)
  have confined : AllNew (Confined .flush k.videoModeInfo.backbufferPointer
      (k.videoModeInfo.pixelsPerScanline * k.videoModeInfo.horizontalResolution * 4).toNat
      k.videoModeInfo.framebufferPointer
      (k.videoModeInfo.pixelsPerScanline * k.videoModeInfo.horizontalResolution * 4).toNat)
      k.machine (flushFramebuffer k).machine :=
    memcpy_confined_iff.mpr ⟨Nat.le_refl _, Nat.le_refl _⟩
  apply confined.mono
  intro e confined stored _ x within
  have target := confined.2 x within
  rw [stored, here.mode] at target
  exact ⟨screen, Or.inr target⟩

include small screen

theorem pixelStore_reaches {p : Nat} (inside : p < reportPixels vmi) :
    ReportAccess vmi (pixelStore (pixelAddr vmi.backbufferPointer p)) := by
  intro _ _ x within
  have bound := reportPixels_small small
  exact ⟨screen, Or.inl ((within_of_sub (show 4 * p + 4 ≤ 2 ^ 64 by omega) within).mono (by omega))⟩

theorem blankOutput_writes (here : ReportAt vmi lines chars k) :
    Writes vmi 0 0 k (.ok (blankOutput k)) := by
  intro k' same
  cases same
  have draws := Draws.drawing.blankRows k.framebufferInfo.height.toNat 0 k
  refine ⟨⟨draws.mode.trans here.mode, ?_, ?_, draws.font.trans here.font, ?_, Nat.zero_le _,
    Nat.zero_le _⟩, draws.grows, ?_⟩
  · exact (congrArg FramebufferInfo.width draws.width).trans here.width
  · exact (congrArg FramebufferInfo.height draws.width).trans here.height
  · change (blankRows k.framebufferInfo.height.toNat 0 k).maxTextLine = _
    rw [draws.globals]
    exact here.last
  · apply blankRows_allNew 0
    intro i _ below j inside
    rw [here.mode, here.width]
    rw [here.height] at below
    rw [here.width] at inside
    have row : (i + 1) * vmi.pixelsPerScanline.toNat ≤
        vmi.verticalResolution.toNat * vmi.pixelsPerScanline.toNat :=
      Nat.mul_le_mul_right _ (by omega)
    rw [Nat.succ_mul, Nat.mul_comm vmi.verticalResolution.toNat] at row
    apply pixelStore_reaches small screen
    rw [reportPixels]
    omega

omit small screen in
/-- The counters of `kscroll_down` reach their bounds on a screen with text lines, which are not
too wide. -/
theorem ReportAt.scrolls (here : ReportAt vmi lines chars k) (scrolls : k.Scrolls) :
    16 * ((lastTextLine vmi).toNat + 1) ≤ vmi.verticalResolution.toNat ∧
      16 * (lastTextLine vmi).toNat < 2 ^ 16 ∧ vmi.pixelsPerScanline.toNat < 2 ^ 16 := by
  have font : k.fontSize.toNat = 16 := by rw [here.font]; rfl
  rcases scrolls with ⟨last, narrow⟩
  rw [font, here.last] at last
  rw [font, here.width] at narrow
  have value := lastTextLine_toNat vmi
  have height := vmi.verticalResolution.isLt
  exact ⟨by omega, last, narrow (by decide)⟩

omit small screen in
theorem rows_le {rows : Nat} (above : rows ≤ vmi.verticalResolution.toNat) :
    rows * vmi.pixelsPerScanline.toNat ≤ reportPixels vmi := by
  have inside := Nat.mul_le_mul_right vmi.pixelsPerScanline.toNat above
  rw [Nat.mul_comm vmi.verticalResolution.toNat] at inside
  exact inside.trans (Nat.le_max_left _ _)

theorem scrollRows_writes (here : ReportAt vmi lines chars k) {turns : Nat}
    (inside : turns + 16 ≤ vmi.verticalResolution.toNat)
    (narrow : vmi.pixelsPerScanline.toNat < 2 ^ 16) :
    Writes vmi lines chars k (.ok (scrollRows turns (k.videoModeInfo.backbufferPointer +
      pixels ((k.fontSize.setWidth 32 * k.framebufferInfo.width).setWidth 64)) k)) := by
  apply Writes.of_draws here (Draws.drawing.scrollRows turns _ k)
  have bound := reportPixels_small small
  have above : (k.fontSize.setWidth 32 * k.framebufferInfo.width).toNat =
      16 * vmi.pixelsPerScanline.toNat := by
    rw [here.font, here.width, BitVec.toNat_mul]
    change 16 * vmi.pixelsPerScanline.toNat % 2 ^ 32 = _
    omega
  have line := pixels_of_toNat above
  have scroll := scrollRows_allNew (P := ReportAccess vmi) (p := 0) turns vmi.backbufferPointer line
  rw [line, here.mode, ← pixelAddr_zero vmi.backbufferPointer, pixelAddr_add]
  apply scroll
  intro i below e confined stored _ x within
  have length : (k.framebufferInfo.width * 4).toNat = 4 * vmi.pixelsPerScanline.toNat := by
    rw [here.width, BitVec.toNat_mul]
    change vmi.pixelsPerScanline.toNat * 4 % 2 ^ 32 = _
    omega
  have target := confined.2 x within
  rw [stored, length, Nat.zero_add, here.width] at target
  have row := rows_le (show i + 1 ≤ vmi.verticalResolution.toNat by omega)
  rw [Nat.succ_mul] at row
  exact ⟨screen, Or.inl ((within_of_sub (by omega) target).mono (by omega))⟩

theorem blankLastLine_writes (here : ReportAt vmi lines chars k) (scrolls : k.Scrolls) :
    Writes vmi lines chars k (.ok (blankLastLine k.fontSize.toNat
      (k.videoModeInfo.backbufferPointer + pixels ((k.maxTextLine.setWidth 32 *
        k.fontSize.setWidth 32 * k.framebufferInfo.width).setWidth 64)) k)) := by
  apply Writes.of_draws here (Draws.drawing.blankLastLine _ _ k)
  rcases here.scrolls scrolls with ⟨rows, last, narrow⟩
  have start : (k.maxTextLine.setWidth 32 * k.fontSize.setWidth 32 *
      k.framebufferInfo.width).toNat =
      16 * (lastTextLine vmi).toNat * vmi.pixelsPerScanline.toNat := by
    have product : 16 * (lastTextLine vmi).toNat * vmi.pixelsPerScanline.toNat < 2 ^ 16 * 2 ^ 16 :=
      Nat.mul_lt_mul'' last narrow
    have line := (lastTextLine vmi).isLt
    rw [here.last, here.font, here.width, BitVec.toNat_mul, BitVec.toNat_mul, BitVec.toNat_setWidth,
      Nat.mod_eq_of_lt (show (lastTextLine vmi).toNat < 2 ^ 32 by omega)]
    change (lastTextLine vmi).toNat * 16 % 2 ^ 32 * vmi.pixelsPerScanline.toNat % 2 ^ 32 = _
    rw [Nat.mod_eq_of_lt (show (lastTextLine vmi).toNat * 16 < 2 ^ 32 by omega),
      Nat.mul_comm (lastTextLine vmi).toNat]
    exact Nat.mod_eq_of_lt product
  rw [pixels_of_toNat start, here.mode, ← pixelAddr_zero vmi.backbufferPointer, pixelAddr_add,
    Nat.zero_add]
  apply blankLastLine_allNew
  intro i below
  rw [here.font, here.width] at below
  change i < 16 * vmi.pixelsPerScanline.toNat at below
  apply pixelStore_reaches small screen
  have inside := rows_le rows
  rw [Nat.mul_add, Nat.add_mul] at inside
  omega

theorem kscrollDown_writes (here : ReportAt vmi lines chars k) :
    Writes vmi lines chars k (kscrollDown k) := by
  by_cases scrolls : k.Scrolls
  · rcases here.scrolls scrolls with ⟨rows, last, narrow⟩
    have wide : ¬ (0 < k.fontSize.toNat ∧ 2 ^ 16 ≤ k.framebufferInfo.width.toNat) := by
      rw [here.width]
      omega
    have turns : k.fontSize.toNat * k.maxTextLine.toNat = 16 * (lastTextLine vmi).toNat := by
      rw [here.font, here.last]
      rfl
    rw [kscrollDown, if_neg (Nat.not_le.mpr scrolls.1), if_neg wide]
    have moved := Outputs.drawing.scrollRows (k.fontSize.toNat * k.maxTextLine.toNat)
      (k.videoModeInfo.backbufferPointer +
        pixels ((k.fontSize.setWidth 32 * k.framebufferInfo.width).setWidth 64)) k
    have moves := scrollRows_writes small screen here
      (show k.fontSize.toNat * k.maxTextLine.toNat + 16 ≤ _ by omega) narrow
    refine moves.step fun here' => ?_
    have same := (moved.scrolls_iff).mpr scrolls
    exact (blankLastLine_writes small screen here' same).step (flushFramebuffer_writes screen)
  · rw [kscrollDown_endless scrolls]
    intro k' endless
    cases endless

theorem newline_writes (here : ReportAt vmi lines chars k) :
    Writes vmi (lines + 1) 0 k (kputchar newline k) := by
  have home : ReportAt vmi lines 0 { k with textColPx := 0 } :=
    ⟨here.mode, here.width, here.height, here.font, here.last, here.line, Nat.le_refl 0⟩
  have line := here.line
  rw [kputchar, if_neg (by decide), if_pos rfl]
  by_cases bottom : k.textLine = k.maxTextLine
  · rw [if_pos bottom]
    intro k' returns
    rcases kscrollDown_writes small screen home k' returns with ⟨there, grows, access⟩
    have line' := there.line
    exact ⟨⟨there.mode, there.width, there.height, there.font, there.last, by omega, there.col⟩,
      grows, access⟩
  · rw [if_neg bottom]
    intro k' same
    cases same
    have above : k.textLine.toNat ≠ (lastTextLine vmi).toNat := by
      rw [← here.last]
      exact fun same => bottom (BitVec.eq_of_toNat_eq same)
    have bound := (lastTextLine vmi).isLt
    have next : (k.textLine + 1).toNat = k.textLine.toNat + 1 :=
      BitVec.toNat_add_of_lt (by change k.textLine.toNat + 1 < 2 ^ 16; omega)
    refine ⟨⟨here.mode, here.width, here.height, here.font, here.last, ?_, Nat.le_refl 0⟩,
      Extends.refl _, AllNew.refl _ _⟩
    change (k.textLine + 1).toNat ≤ _
    omega

omit small screen in
theorem ReportAt.advance {k' : Console} (here : ReportAt vmi lines chars k) (draws : Draws k k')
    (short : chars < 30) :
    ReportAt vmi lines (chars + 1) { k' with textColPx := k'.textColPx + 9 } := by
  have col := here.col
  have advanced : (k.textColPx + 9).toNat = k.textColPx.toNat + 9 :=
    BitVec.toNat_add_of_lt (by change k.textColPx.toNat + 9 < 2 ^ 16; omega)
  rw [draws.globals]
  refine ⟨here.mode, here.width, here.height, here.font, here.last, here.line, ?_⟩
  change (k.textColPx + 9).toNat ≤ _
  omega

theorem char_writes (here : ReportAt vmi lines chars k) (upper : lines ≤ 5) (short : chars < 30)
    {c : BitVec 8} (nonzero : c ≠ 0) (other : c ≠ newline) :
    Writes vmi lines (chars + 1) k (kputchar c k) := by
  have line := here.line
  have col := here.col
  let n := (k.textLine.setWidth 32 * k.fontSize.setWidth 32 * k.framebufferInfo.width).toNat
  have offset : n ≤ 16 * k.textLine.toNat * vmi.pixelsPerScanline.toNat := by
    change (k.textLine.setWidth 32 * k.fontSize.setWidth 32 * k.framebufferInfo.width).toNat ≤ _
    rw [here.font, here.width, BitVec.toNat_mul, BitVec.toNat_mul, BitVec.toNat_setWidth,
      Nat.mul_comm 16]
    exact (Nat.mod_le _ _).trans (Nat.mul_le_mul_right _
      ((Nat.mod_le _ _).trans (Nat.mul_le_mul_right 16 (Nat.mod_le _ _))))
  have column : (k.textColPx.setWidth 32 + 8 - 1).toNat = k.textColPx.toNat + 7 := by
    rw [BitVec.toNat_sub, BitVec.toNat_add, BitVec.toNat_setWidth]
    change (2 ^ 32 - 1 + (k.textColPx.toNat % 2 ^ 32 + 8) % 2 ^ 32) % 2 ^ 32 = _
    omega
  let drawn := drawRows (vgafont16 c)
    (pixelAddr vmi.backbufferPointer (n + (k.textColPx.toNat + 7))) k
  have puts : kputchar c k = .ok { drawn with textColPx := drawn.textColPx + 9 } := by
    rw [kputchar, if_neg nonzero, if_neg other]
    simp only [pixels_of_toNat (n := n) rfl, pixels_of_toNat column]
    rw [here.mode, here.font, ← pixelAddr_zero vmi.backbufferPointer, pixelAddr_add, pixelAddr_add,
      Nat.zero_add]
    rfl
  have draws : Draws k drawn := Draws.drawing.drawRows (vgafont16 c) _ k
  rw [puts]
  intro k' same
  cases same
  refine ⟨here.advance draws short, draws.grows, ?_⟩
  apply (drawRows_allNew (by omega)).mpr
  intro i row j below
  rw [vgafont16, glyphRows_length] at row
  apply pixelStore_reaches small screen
  rw [here.width, reportPixels, lt_max_iff]
  right
  have rows : (16 * k.textLine.toNat + 15) * vmi.pixelsPerScanline.toNat ≤
      (16 * min 5 (lastTextLine vmi).toNat + 15) * vmi.pixelsPerScanline.toNat :=
    Nat.mul_le_mul_right _ (by omega)
  have above : vmi.pixelsPerScanline.toNat * i ≤ vmi.pixelsPerScanline.toNat * 15 :=
    Nat.mul_le_mul_left _ (by omega)
  rw [Nat.add_mul] at rows
  omega

/-- A piece of a line, by induction on its characters. -/
theorem piece_writes {t : List (BitVec 8)} (here : ReportAt vmi lines chars k) (upper : lines ≤ 5)
    (short : chars + t.length ≤ 30) (visible : ∀ c ∈ t, c ≠ 0 ∧ c ≠ newline) :
    Writes vmi lines (chars + t.length) k (kprint t k) := by
  induction t generalizing chars k with
  | nil => exact Writes.still here
  | cons c t ih =>
      rw [List.length_cons] at short ⊢
      rcases visible c List.mem_cons_self with ⟨nonzero, other⟩
      rw [kprint, if_neg nonzero, Nat.add_comm t.length, ← Nat.add_assoc]
      refine (char_writes small screen here upper (by omega) nonzero other).bind fun k' here' => ?_
      exact ih here' (by omega) fun c' member => visible c' (List.mem_cons_of_mem c member)

theorem label_writes (here : ReportAt vmi lines chars k) (upper : lines < 5) {label : String}
    (breaks : (ascii label).head? = some newline) (short : (ascii label).tail.length ≤ 12)
    (visible : ∀ c ∈ (ascii label).tail, c ≠ 0 ∧ c ≠ newline) :
    Writes vmi (lines + 1) 12 k (kprint (ascii label) k) := by
  obtain ⟨t, text⟩ := List.head?_eq_some_iff.mp breaks
  rw [text] at short visible ⊢
  rw [kprint, if_neg (by decide)]
  refine (newline_writes small screen here).bind fun k' here' => ?_
  have piece := piece_writes small screen here' upper
    (show 0 + t.length ≤ 30 by change t.length ≤ 12 at short; omega) visible
  exact piece.mono (by change t.length ≤ 12 at short; omega)

theorem kprintHex_writes (here : ReportAt vmi lines 12 k) (upper : lines ≤ 5) (h : BitVec 64) :
    Writes vmi lines 30 k (kprintHex h true k) := by
  have length : (numeralText 16 hexDigit 0 h).length ≤ 16 := by
    rw [numeralText_eq (by decide) hexDigit_ne_zero, List.length_map,
      Positional.numeral_length_le_iff (by decide) (by decide)]
    exact h.isLt
  have visible : ∀ c ∈ numeralText 16 hexDigit 0 h, c ≠ 0 ∧ c ≠ newline := by
    have digits : ∀ d, d < 16 → hexDigit d ≠ 0 ∧ hexDigit d ≠ newline := by decide
    intro c member
    rw [numeralText_eq (by decide) hexDigit_ne_zero] at member
    obtain ⟨d, inside, rfl⟩ := List.mem_map.mp member
    exact digits d (Positional.numeral_lt (by decide) d inside)
  refine (piece_writes small screen here upper (t := ascii "0x") (by decide) (by decide)).bind
    fun k' here' => ?_
  have piece := piece_writes small screen here' upper
    (show 12 + (ascii "0x").length + _ ≤ 30 by change 12 + 2 + _ ≤ 30; omega) visible
  exact piece.mono (by change 12 + 2 + _ ≤ 30; omega)

theorem kprintEntry_writes (here : ReportAt vmi lines 12 k) (upper : lines ≤ 5) (page : Addr) :
    Writes vmi lines 30 k (kprintEntry page k) :=
  (Writes.of_loads here (Loads.load k.machine .pageTable page 8)).bind fun _ here' =>
    kprintHex_writes small screen here' upper _

theorem reportEntry_writes (here : ReportAt vmi 0 chars k) (page addr flags : BitVec 64) :
    Writes vmi 4 30 k (reportEntry page addr flags k) := by
  unfold reportEntry
  apply (label_writes small screen here (by decide) (by decide) (by decide) (by decide)).bind
  intro k here
  apply (kprintHex_writes small screen here (by decide) addr).bind
  intro k here
  apply (label_writes small screen here (by decide) (by decide) (by decide) (by decide)).bind
  intro k here
  apply (kprintHex_writes small screen here (by decide) page).bind
  intro k here
  apply (label_writes small screen here (by decide) (by decide) (by decide) (by decide)).bind
  intro k here
  apply (kprintEntry_writes small screen here (by decide) page).bind
  intro k here
  apply (label_writes small screen here (by decide) (by decide) (by decide) (by decide)).bind
  intro k here
  apply (kprintHex_writes small screen here (by decide) flags).bind
  intro k here
  exact flushFramebuffer_writes screen here

theorem reportResult_writes (here : ReportAt vmi 4 chars k) (page : BitVec 64) :
    Writes vmi 5 30 k (reportResult page k) :=
  (label_writes small screen here (by decide) (by decide) (by decide) (by decide)).bind
    fun _ here' => kprintEntry_writes small screen here' (by decide) page

omit small screen in
theorem orEntry_writes (here : ReportAt vmi lines chars k) (page flags : BitVec 64) :
    Writes vmi lines chars k (.ok (orEntry page flags k)) := by
  intro k' same
  cases same
  have loaded := Extends.load k.machine .pageTable page 8
  have stored := Extends.store (k.machine.load .pageTable page 8).2 .pageTable page (n := 8)
    ((k.machine.load .pageTable page 8).1 ||| flags)
  refine ⟨here.machine _, loaded.trans stored, (AllNew.trans_iff loaded stored).mpr ⟨?_, ?_⟩⟩
  · apply (AllNew.step_iff rfl).mpr
    intro store
    cases store
  · apply (AllNew.step_iff rfl).mpr
    intro _ other
    exact absurd rfl other

theorem clearReport_writes (here : ReportAt vmi lines chars k) :
    Writes vmi 0 0 k (.ok (clearReport k)) := by
  apply (flushFramebuffer_writes screen here).step
  intro here
  apply (blankOutput_writes small screen here).step
  intro here
  exact flushFramebuffer_writes screen here

/-- A call of `set_mem_page_flags` that comes back has stored in the reach of its output and to
the entry. -/
theorem setMemPageFlags_writes (here : ReportAt vmi lines chars k) (cr3 addr flags : BitVec 64) :
    Writes vmi 0 0 k (setMemPageFlags cr3 addr flags k) := by
  rw [setMemPageFlags_eq]
  apply (Writes.of_loads here (getMemPage_loads cr3 addr k.machine)).step
  intro here
  apply (blankOutput_writes small screen here).step
  intro here
  apply (reportEntry_writes small screen here _ addr flags).bind
  intro k₁ here
  apply (orEntry_writes here _ flags).step
  intro here
  apply (reportResult_writes small screen here _).bind
  intro k₂ here
  exact clearReport_writes small screen here

/-- The loop of `initialize_video`, by induction on its turns. -/
theorem flagFramebuffer_writes (cr3 : BitVec 64) (turns : Nat) (i : BitVec 64)
    (here : ReportAt vmi 0 0 k) : Writes vmi 0 0 k (flagFramebuffer cr3 turns i k) := by
  induction turns generalizing i k with
  | zero => exact Writes.still here
  | succ turns ih =>
      apply (setMemPageFlags_writes small screen here cr3
        (k.videoModeInfo.framebufferPointer + i) pflagPat).bind
      intro k here
      exact ih (i + 1) here

end Screen

end Flosp.Kernel
