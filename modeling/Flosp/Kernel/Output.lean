import Flosp.Kernel.Printing

/-! Console output in any video mode: where it stores, and whether it comes back. -/

namespace Flosp.Kernel

open ByteMemory

/-- Console output between `k` and `k'`: the setting of the console stays, and nothing is stored
through a page table pointer. -/
structure Outputs (k k' : Console) : Prop where
  mode : k'.videoModeInfo = k.videoModeInfo
  info : k'.framebufferInfo = k.framebufferInfo
  last : k'.maxTextLine = k.maxTextLine
  font : k'.fontSize = k.fontSize
  grows : Extends k.machine k'.machine
  spares : AllNew (fun e => e.kind = .store → e.tag ≠ .pageTable) k.machine k'.machine

/-- The 16-bit counters of `kscroll_down` reach their bounds. -/
def Console.Scrolls (k : Console) : Prop :=
  k.fontSize.toNat * k.maxTextLine.toNat < 2 ^ 16 ∧
    (0 < k.fontSize.toNat → k.framebufferInfo.width.toNat < 2 ^ 16)

def lineBreaks : List (BitVec 8) → Nat
  | [] => 0
  | c :: t => if c = 0 then 0 else (if c = newline then 1 else 0) + lineBreaks t

namespace Outputs

variable {k k' k'' : Console}

theorem refl (k : Console) : Outputs k k :=
  ⟨rfl, rfl, rfl, rfl, Extends.refl _, AllNew.refl _ _⟩

theorem trans (first : Outputs k k') (second : Outputs k' k'') : Outputs k k'' where
  mode := second.mode.trans first.mode
  info := second.info.trans first.info
  last := second.last.trans first.last
  font := second.font.trans first.font
  grows := first.grows.trans second.grows
  spares := (AllNew.trans_iff first.grows second.grows).mpr ⟨first.spares, second.spares⟩

theorem of_allNew (draws : Draws k k')
    (tagged : AllNew (fun e => e.tag = .draw ∨ e.tag = .flush) k.machine k'.machine) :
    Outputs k k' where
  mode := draws.mode
  info := draws.width
  last := by rw [draws.globals]
  font := draws.font
  grows := draws.grows
  spares := tagged.mono fun e tag _ => by
    rcases tag with tag | tag
    · rw [tag]; decide
    · rw [tag]; decide

theorem drawing : Drawing Outputs where
  refl := refl
  trans := trans
  storePixel := fun k pos color =>
    of_allNew (Draws.storePixel k pos color) ((AllNew.step_iff rfl).mpr (Or.inl rfl))
  memcpy := by
    intro k tag source dest nbytes pixel
    apply of_allNew (Draws.memcpy k tag source dest nbytes)
    have confined : AllNew (Confined tag source nbytes.toNat dest nbytes.toNat) k.machine
        (Kernel.memcpy tag source dest nbytes k.machine).2 :=
      memcpy_confined_iff.mpr ⟨Nat.le_refl _, Nat.le_refl _⟩
    exact confined.mono fun e inside => by rw [inside.1]; exact pixel

theorem loads {machine : KernelMachine} (loads : Loads k.machine machine) :
    Outputs k { k with machine } :=
  ⟨rfl, rfl, rfl, rfl, loads.grows, loads.kinds.mono fun e load store => by
    rw [load] at store
    cases store⟩

theorem scrolls_iff (outputs : Outputs k k') : k'.Scrolls ↔ k.Scrolls := by
  rw [Console.Scrolls, Console.Scrolls, outputs.font, outputs.last, outputs.info]

end Outputs

section Scroll

variable {k : Console}

theorem kscrollDown_outputs (scrolls : k.Scrolls) :
    ∃ k', kscrollDown k = .ok k' ∧ Outputs k k' := by
  have narrow : ¬ (0 < k.fontSize.toNat ∧ 2 ^ 16 ≤ k.framebufferInfo.width.toNat) := by
    intro both
    have width := scrolls.2 both.1
    omega
  rw [kscrollDown, if_neg (Nat.not_le.mpr scrolls.1), if_neg narrow]
  have moved := Outputs.drawing.scrollRows (k.fontSize.toNat * k.maxTextLine.toNat)
    (k.videoModeInfo.backbufferPointer +
      pixels ((k.fontSize.setWidth 32 * k.framebufferInfo.width).setWidth 64)) k
  exact ⟨_, rfl, (moved.trans (Outputs.drawing.blankLastLine ..)).trans
    (Outputs.drawing.flushFramebuffer _)⟩

theorem kscrollDown_endless (stuck : ¬ k.Scrolls) : kscrollDown k = .error .endless := by
  rw [kscrollDown]
  by_cases rows : 2 ^ 16 ≤ k.fontSize.toNat * k.maxTextLine.toNat
  · exact if_pos rows
  · rw [if_neg rows]
    apply if_pos
    rw [Console.Scrolls] at stuck
    by_contra narrow
    apply stuck
    constructor
    · omega
    · intro positive
      omega

theorem blankOutput_outputs (k : Console) :
    Outputs k (blankOutput k) ∧ (blankOutput k).textLine = 0 := by
  have blank := Outputs.drawing.blankRows k.framebufferInfo.height.toNat 0 k
  exact ⟨⟨blank.mode, blank.info, blank.last, blank.font, blank.grows, blank.spares⟩, rfl⟩

end Scroll

/-- The cursor is on a text line, unless the console can scroll. -/
def Console.Ready (k : Console) : Prop := ¬ k.Scrolls → k.textLine.toNat ≤ k.maxTextLine.toNat

/-- What output of `n` line breaks comes to: it returns, or it would have to scroll and never
comes back. -/
structure Feeds (n : Nat) (k : Console) (r : Outcome Console) : Prop where
  returns : k.textLine.toNat + n ≤ k.maxTextLine.toNat ∨ k.Scrolls →
    ∃ k', r = .ok k' ∧ Outputs k k' ∧ (¬ k.Scrolls → k'.textLine.toNat = k.textLine.toNat + n)
  hangs : ¬ k.Scrolls → k.maxTextLine.toNat < k.textLine.toNat + n → r = .error .endless

namespace Feeds

variable {k k' : Console} {n m : Nat} {r : Outcome Console}

theorem still (ready : k.Ready) (outputs : Outputs k k') (line : k'.textLine = k.textLine) :
    Feeds 0 k (.ok k') where
  returns := fun _ => ⟨k', rfl, outputs, fun _ => congrArg BitVec.toNat line⟩
  hangs := by
    intro stuck beyond
    have inside := ready stuck
    omega

theorem bind {f : Console → Outcome Console} (first : Feeds n k r)
    (rest : ∀ k', Outputs k k' → k'.Ready → Feeds m k' (f k')) :
    Feeds (n + m) k (r >>= f) := by
  have onward : k.textLine.toNat + n ≤ k.maxTextLine.toNat ∨ k.Scrolls →
      ∃ k', r = .ok k' ∧ Outputs k k' ∧ (¬ k.Scrolls → k'.textLine.toNat = k.textLine.toNat + n) ∧
        Feeds m k' (f k') := by
    intro room
    obtain ⟨k', ends, outputs, line⟩ := first.returns room
    refine ⟨k', ends, outputs, line, rest k' outputs ?_⟩
    intro stuck
    rw [outputs.scrolls_iff] at stuck
    rw [line stuck, outputs.last]
    exact room.resolve_right stuck
  constructor
  · intro room
    obtain ⟨k', rfl, outputs, line, next⟩ := onward (room.imp_left fun fits => by omega)
    have room' : k'.textLine.toNat + m ≤ k'.maxTextLine.toNat ∨ k'.Scrolls := by
      rw [outputs.scrolls_iff, outputs.last]
      by_cases scrolls : k.Scrolls
      · exact Or.inr scrolls
      · left
        rw [line scrolls]
        have fits := room.resolve_right scrolls
        omega
    obtain ⟨k'', ends, outputs', line'⟩ := next.returns room'
    refine ⟨k'', ends, outputs.trans outputs', ?_⟩
    intro stuck
    rw [line' (mt outputs.scrolls_iff.mp stuck), line stuck, Nat.add_assoc]
  · intro stuck beyond
    by_cases room : k.textLine.toNat + n ≤ k.maxTextLine.toNat
    · obtain ⟨k', rfl, outputs, line, next⟩ := onward (Or.inl room)
      apply next.hangs (mt outputs.scrolls_iff.mp stuck)
      rw [line stuck, outputs.last]
      omega
    · rw [first.hangs stuck (by omega)]
      rfl

end Feeds

section Text

variable {k : Console}

theorem newline_feeds (ready : k.Ready) : Feeds 1 k (kputchar newline k) := by
  have back : Outputs k { k with textColPx := 0 } :=
    ⟨rfl, rfl, rfl, rfl, Extends.refl _, AllNew.refl _ _⟩
  rw [kputchar, if_neg (by decide), if_pos rfl]
  by_cases bottom : k.textLine = k.maxTextLine
  · rw [if_pos bottom]
    constructor
    · intro room
      have scrolls : k.Scrolls := room.resolve_left (by rw [bottom]; omega)
      obtain ⟨k', ends, outputs⟩ := kscrollDown_outputs (back.scrolls_iff.mpr scrolls)
      exact ⟨k', ends, back.trans outputs, fun stuck => absurd scrolls stuck⟩
    · intro stuck _
      exact kscrollDown_endless (mt back.scrolls_iff.mp stuck)
  · rw [if_neg bottom]
    have next (stuck : ¬ k.Scrolls) : k.textLine.toNat < k.maxTextLine.toNat :=
      Nat.lt_of_le_of_ne (ready stuck) fun same => bottom (BitVec.eq_of_toNat_eq same)
    constructor
    · intro _
      refine ⟨_, rfl, ⟨rfl, rfl, rfl, rfl, Extends.refl _, AllNew.refl _ _⟩, ?_⟩
      intro stuck
      have below := next stuck
      have bound := k.maxTextLine.isLt
      change (k.textLine + 1).toNat = _
      rw [BitVec.toNat_add]
      exact Nat.mod_eq_of_lt (by change k.textLine.toNat + 1 < 2 ^ 16; omega)
    · intro stuck beyond
      have below := next stuck
      omega

theorem kputchar_feeds (ready : k.Ready) (c : BitVec 8) :
    Feeds (if c = newline then 1 else 0) k (kputchar c k) := by
  by_cases breaks : c = newline
  · rw [if_pos breaks, breaks]
    exact newline_feeds ready
  rw [if_neg breaks, kputchar]
  by_cases null : c = 0
  · rw [if_pos null]
    exact Feeds.still ready (Outputs.refl k) rfl
  · rw [if_neg null, if_neg breaks]
    dsimp only
    split
    · exact Feeds.still ready (Outputs.refl k) rfl
    · next rows _ =>
        have drawn := Outputs.drawing.drawRows rows (k.videoModeInfo.backbufferPointer +
          pixels ((k.textLine.setWidth 32 * k.fontSize.setWidth 32 *
            k.framebufferInfo.width).setWidth 64) +
          pixels ((k.textColPx.setWidth 32 + 8 - 1).setWidth 64)) k
        exact Feeds.still ready
          ⟨drawn.mode, drawn.info, drawn.last, drawn.font, drawn.grows, drawn.spares⟩
          (Draws.drawing.drawRows rows _ k).line

theorem kprint_feeds (ready : k.Ready) (t : List (BitVec 8)) :
    Feeds (lineBreaks t) k (kprint t k) := by
  induction t generalizing k with
  | nil => exact Feeds.still ready (Outputs.refl k) rfl
  | cons c t ih =>
      rw [kprint, lineBreaks]
      by_cases null : c = 0
      · rw [if_pos null, if_pos null]
        exact Feeds.still ready (Outputs.refl k) rfl
      · rw [if_neg null, if_neg null]
        exact (kputchar_feeds ready c).bind fun k' _ ready' => ih ready'

theorem lineBreaks_eq_zero {t : List (BitVec 8)} (line : ∀ c ∈ t, c ≠ newline) :
    lineBreaks t = 0 := by
  induction t with
  | nil => rfl
  | cons c t ih =>
      rw [lineBreaks, if_neg (line c List.mem_cons_self),
        ih fun c' member => line c' (List.mem_cons_of_mem c member)]
      split
      · rfl
      · rfl

theorem kprintHex_feeds (ready : k.Ready) (h : BitVec 64) (zeroX : Bool) :
    Feeds 0 k (kprintHex h zeroX k) := by
  have digits : lineBreaks (numeralText 16 hexDigit 0 h) = 0 := by
    apply lineBreaks_eq_zero
    exact numeralText_all (by decide) (by decide) (by decide) h
  have number (k : Console) (ready : k.Ready) :
      Feeds 0 k (kprint (numeralText 16 hexDigit 0 h) k) :=
    digits ▸ kprint_feeds ready _
  cases zeroX with
  | false => exact number k ready
  | true => exact (kprint_feeds ready (ascii "0x")).bind fun k' _ ready' => number k' ready'

end Text

/-! `set_mem_page_flags` -/

section Flags

variable {k : Console}

theorem kprintEntry_feeds (ready : k.Ready) (page : Addr) : Feeds 0 k (kprintEntry page k) := by
  have loaded := Outputs.loads (Loads.load k.machine .pageTable page 8)
  exact (Feeds.still ready loaded rfl).bind fun k' _ ready' => kprintHex_feeds ready' _ true

theorem flushFramebuffer_feeds (ready : k.Ready) : Feeds 0 k (.ok (flushFramebuffer k)) :=
  Feeds.still ready (Outputs.drawing.flushFramebuffer k) (Draws.drawing.flushFramebuffer k).line

theorem kprint_line_feeds (ready : k.Ready) {s : String} (breaks : lineBreaks (ascii s) = 1) :
    Feeds 1 k (kprint (ascii s) k) := breaks ▸ kprint_feeds ready (ascii s)

theorem reportEntry_feeds (ready : k.Ready) (page addr flags : BitVec 64) :
    Feeds 4 k (reportEntry page addr flags k) := by
  change Feeds (1 + (0 + (1 + (0 + (1 + (0 + (1 + (0 + 0)))))))) k _
  unfold reportEntry
  apply (kprint_line_feeds ready rfl).bind
  intro k _ ready
  apply (kprintHex_feeds ready addr true).bind
  intro k _ ready
  apply (kprint_line_feeds ready rfl).bind
  intro k _ ready
  apply (kprintHex_feeds ready page true).bind
  intro k _ ready
  apply (kprint_line_feeds ready rfl).bind
  intro k _ ready
  apply (kprintEntry_feeds ready page).bind
  intro k _ ready
  apply (kprint_line_feeds ready rfl).bind
  intro k _ ready
  apply (kprintHex_feeds ready flags true).bind
  intro k _ ready
  exact flushFramebuffer_feeds ready

theorem reportResult_feeds (ready : k.Ready) (page : BitVec 64) :
    Feeds 1 k (reportResult page k) :=
  (kprint_line_feeds ready rfl).bind fun _ _ ready => kprintEntry_feeds ready page

theorem clearReport_outputs (k : Console) : Outputs k (clearReport k) :=
  ((Outputs.drawing.flushFramebuffer k).trans (blankOutput_outputs _).1).trans
    (Outputs.drawing.flushFramebuffer _)

/-- Five line breaks from the top of the screen have to fit, or the console has to scroll. -/
def Console.Reports (k : Console) : Prop := 5 ≤ k.maxTextLine.toNat ∨ k.Scrolls

section Walk

variable (cr3 addr : BitVec 64) (k : Console)

/-- Where `set_mem_page_flags` starts to print -/
def reportTop : Console := blankOutput { k with machine := (getMemPage cr3 addr k.machine).2 }

theorem reportTop_outputs : Outputs k (reportTop cr3 addr k) ∧
    (reportTop cr3 addr k).textLine = 0 ∧ (reportTop cr3 addr k).Ready := by
  rcases blankOutput_outputs { k with machine := (getMemPage cr3 addr k.machine).2 } with
    ⟨blank, line⟩
  refine ⟨(Outputs.loads (getMemPage_loads cr3 addr k.machine)).trans blank, line, ?_⟩
  intro _
  rw [reportTop, line]
  exact Nat.zero_le _

end Walk

variable (cr3 addr flags : BitVec 64)

/-- Up to the write there are four line breaks. -/
theorem reportEntry_returns (room : 4 ≤ k.maxTextLine.toNat ∨ k.Scrolls) (page : Addr) :
    ∃ k₁, reportEntry page addr flags (reportTop cr3 addr k) = .ok k₁ ∧ Outputs k k₁ ∧
      (¬ k.Scrolls → k₁.textLine.toNat = 4) ∧ (orEntry page flags k₁).Ready := by
  rcases reportTop_outputs cr3 addr k with ⟨start, line, ready⟩
  obtain ⟨k₁, printed, before, fourth⟩ := (reportEntry_feeds ready page addr flags).returns (by
    rw [start.scrolls_iff, start.last, line]
    exact room)
  have outputs := start.trans before
  have bottom : ¬ k.Scrolls → k₁.textLine.toNat = 4 := by
    intro stuck
    rw [fourth (mt start.scrolls_iff.mp stuck), line]
    rfl
  refine ⟨k₁, printed, outputs, bottom, ?_⟩
  intro stuck
  have stuck' : ¬ k.Scrolls := mt outputs.scrolls_iff.mpr stuck
  change k₁.textLine.toNat ≤ k₁.maxTextLine.toNat
  rw [bottom stuck', outputs.last]
  exact room.resolve_right stuck'

/-- A `set_mem_page_flags` that comes back writes its entry between two stretches of output. -/
theorem setMemPageFlags_returns (reports : k.Reports) :
    ∃ k₁ k', setMemPageFlags cr3 addr flags k = .ok k' ∧ Outputs k k₁ ∧
      Outputs (orEntry (getMemPage cr3 addr k.machine).1 flags k₁) k' := by
  obtain ⟨k₁, printed, outputs, fourth, ready⟩ := reportEntry_returns cr3 addr flags
    (reports.imp_left fun fits => by omega) (getMemPage cr3 addr k.machine).1
  obtain ⟨k₂, printed', after, -⟩ := (reportResult_feeds ready _).returns (by
    change k₁.textLine.toNat + 1 ≤ k₁.maxTextLine.toNat ∨ k₁.Scrolls
    rw [outputs.scrolls_iff, outputs.last]
    by_cases scrolls : k.Scrolls
    · exact Or.inr scrolls
    · rw [fourth scrolls]
      exact reports)
  refine ⟨k₁, clearReport k₂, ?_, outputs, after.trans (clearReport_outputs k₂)⟩
  rw [setMemPageFlags_eq]
  apply bind_ok printed
  exact bind_ok printed' rfl

theorem setMemPageFlags_hangs (hangs : ¬ k.Reports) :
    setMemPageFlags cr3 addr flags k = .error .endless := by
  rcases not_or.mp hangs with ⟨short, stuck⟩
  rw [setMemPageFlags_eq]
  by_cases early : 4 ≤ k.maxTextLine.toNat
  · obtain ⟨k₁, printed, outputs, fourth, ready⟩ := reportEntry_returns cr3 addr flags
      (Or.inl early) (getMemPage cr3 addr k.machine).1
    apply bind_ok printed
    rw [(reportResult_feeds ready _).hangs (mt outputs.scrolls_iff.mp stuck) (by
      change k₁.maxTextLine.toNat < k₁.textLine.toNat + 1
      rw [fourth stuck, outputs.last]
      omega)]
    rfl
  · rcases reportTop_outputs cr3 addr k with ⟨start, line, ready⟩
    have endless := (reportEntry_feeds ready (getMemPage cr3 addr k.machine).1 addr flags).hangs
      (mt start.scrolls_iff.mp stuck) (by
        rw [start.last, line]
        change k.maxTextLine.toNat < 0 + 4
        omega)
    rw [reportTop] at endless
    rw [endless]
    rfl

end Flags

end Flosp.Kernel
