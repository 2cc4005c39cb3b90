import Flosp.Kernel.Editing
import Flosp.Kernel.Main
import Flosp.Kernel.NumberPrinters
import Mathlib.Data.List.TakeWhile

/-! What the screen shows after a run: the text of all console calls so far, as a terminal shows
it. -/

namespace Flosp.Kernel

open ByteMemory Interaction

def Screen.columns (s : Screen) : Nat := (s.width + 1) / 9

def untilNul (text : List (BitVec 8)) : List (BitVec 8) := text.takeWhile (· ≠ 0)

def writeText (text : List (BitVec 8)) (t : ScrollingText (BitVec 8)) : ScrollingText (BitVec 8) :=
  text.foldl (ScrollingText.put newline) t

namespace ConsoleCall

/-- `u` is what the buffers of the number printers held before. -/
def run (u : Int → BitVec 8) : ConsoleCall → Console → Outcome Console
  | .kernLog filter msg, k => Kernel.kernLog filter msg k
  | .kprint msg, k => Kernel.kprint (ascii msg) k
  | .kputchar c, k => Kernel.kputchar c k
  | .kprintHex h zeroX, k => kprintHex' u h zeroX k
  | .kprintBin b sizeB, k => Kernel.kprintBin u b sizeB k
  | .backspace, k => Kernel.backspace k

def text : ConsoleCall → List (BitVec 8)
  | .kernLog filter msg => if messageFilter < filter then untilNul (ascii msg) ++ [newline] else []
  | .kprint msg => untilNul (ascii msg)
  | .kputchar c => untilNul [c]
  | .kprintHex h zeroX =>
      (if zeroX then ascii "0x" else []) ++ (Positional.numeral 16 h.toNat).map hexDigit
  | .kprintBin b sizeB => (bitDigits b sizeB).reverse.map decDigit
  | .backspace => []

/-- What a call does to the text on the terminal. -/
def edit (c : ConsoleCall) (t : ScrollingText (BitVec 8)) : ScrollingText (BitVec 8) :=
  if c = .backspace then t.erase else writeText c.text t

/-- `size_b` is the size of some integer. -/
def Sized : ConsoleCall → Prop
  | .kprintBin _ sizeB => 1 ≤ sizeB.toNat ∧ sizeB.toNat ≤ 8
  | _ => True

end ConsoleCall

section Calls

variable {s : Screen} {t : ScrollingText (BitVec 8)} {k : Console}

theorem kprint_append (text text' : List (BitVec 8)) (k : Console) :
    (kprint text k >>= kprint text') = kprint (untilNul text ++ text') k := by
  induction text generalizing k with
  | nil => rfl
  | cons c text ih =>
      by_cases null : c = 0
      · rw [kprint, if_pos null, untilNul, List.takeWhile_cons_of_neg (by simpa using null)]
        rfl
      · rw [kprint, if_neg null, untilNul, List.takeWhile_cons_of_pos (by simpa using null),
          List.cons_append, kprint, if_neg null, bind_assoc]
        congr 1
        funext k'
        exact ih k'

theorem bind_kprint_nil (r : Outcome Console) : (r >>= kprint []) = r := by
  cases r with
  | ok k => rfl
  | error e => rfl

theorem kprint_untilNul (text : List (BitVec 8)) (k : Console) :
    kprint (untilNul text) k = kprint text k := by
  rw [← bind_kprint_nil (kprint text k), kprint_append, List.append_nil]

theorem untilNul_noNul (text : List (BitVec 8)) : 0 ∉ untilNul text := by
  intro member
  have nonzero := List.mem_takeWhile_imp member
  simp at nonzero

theorem kprint_kputchar (c : BitVec 8) (k : Console) : kprint [c] k = kputchar c k := by
  rw [kprint]
  split
  · next null => rw [null, kputchar, if_pos rfl]
  · exact bind_kprint_nil (kputchar c k)

theorem kprintHex'_numeral (u : Int → BitVec 8) (h : BitVec 64) (zeroX : Bool) (k : Console) :
    kprintHex' u h zeroX k = kprint (ConsoleCall.text (.kprintHex h zeroX)) k := by
  have digits := digitStack_text kernelIndices (by decide) hexDigit_ne_zero u h
  have plain : untilNul (ascii "0x") = ascii "0x" := by decide
  rw [ConsoleCall.text, ← numeralText_eq (by decide) hexDigit_ne_zero, kprintHex', kprintHexStack,
    digits]
  cases zeroX with
  | false => rfl
  | true =>
      refine (kprint_append (ascii "0x") _ k).trans ?_
      rw [plain, if_pos rfl]

theorem bits_noNul (b : BitVec 64) (sizeB : BitVec 8) :
    0 ∉ (bitDigits b sizeB).reverse.map decDigit := by
  intro member
  obtain ⟨d, inside, same⟩ := List.mem_map.mp member
  have bit := bitDigits_lt b sizeB d (List.mem_reverse.mp inside)
  exact decDigit_ne_zero d (by omega) same

theorem text_noNul (c : ConsoleCall) : 0 ∉ c.text := by
  cases c with
  | kernLog filter msg =>
      rw [ConsoleCall.text]
      split
      · intro member
        rcases List.mem_append.mp member with inside | last
        · exact untilNul_noNul _ inside
        · exact absurd (List.mem_singleton.mp last) (by decide)
      · exact List.not_mem_nil
  | kprintHex h zeroX =>
      intro member
      rcases List.mem_append.mp member with front | digits
      · cases zeroX
        · cases front
        · exact absurd front (by decide)
      · exact Positional.not_mem_numeral (by decide) hexDigit_ne_zero digits
  | kprintBin b sizeB => exact bits_noNul b sizeB
  | backspace => exact List.not_mem_nil
  | _ => exact untilNul_noNul _

theorem run_printing (u : Int → BitVec 8) {c : ConsoleCall} (prints : c ≠ .backspace) (sized : c.Sized)
    (k : Console) : c.run u k = kprint c.text k := by
  cases c with
  | kernLog filter msg =>
      rw [ConsoleCall.run, ConsoleCall.text, kernLog]
      split
      · exact kprint_append (ascii msg) _ k
      · rfl
  | kprint msg => exact (kprint_untilNul (ascii msg) k).symm
  | kputchar c => exact (kprint_kputchar c k).symm.trans (kprint_untilNul [c] k).symm
  | kprintHex h zeroX => exact kprintHex'_numeral u h zeroX k
  | kprintBin b sizeB =>
      have finished := kprintBin_finished u b sized.1 sized.2
      rw [ConsoleCall.run, Kernel.kprintBin, finished.text_eq (bits_noNul b sizeB)]
      rfl
  | backspace => exact absurd rfl prints

theorem kprint_writes (apart : Apart s.mode.framebufferPointer s.flushed s.base (4 * s.size))
    (shows : Shows s t k) {text : List (BitVec 8)} (noNul : 0 ∉ text)
    (fits : (writeText text t).Fits s.columns) :
    ∃ k', kprint text k = .ok k' ∧ Shows s (writeText text t) k' :=
  kprint_shows apart text noNul shows fits

theorem backspace_shows (shows : Shows s t k) (fits : t.Fits s.columns) :
    ∃ k', backspace k = .ok k' ∧ Shows s t.erase k' := by
  have column := shows.col
  have lines := s.lines_bounds
  have line := shows.line
  have room : t.current.length ≤ (s.width + 1) / 9 := fits _ (by simp [ScrollingText.lines])
  by_cases begun : t.current = []
  · have same : t.erase = t := by rw [ScrollingText.erase, begun, List.dropLast_nil, ← begun]
    have home : ¬ k.textColPx ≥ 9 := by
      rw [begun] at column
      exact Nat.not_le_of_lt (column.trans_lt (by decide))
    exact ⟨k, if_neg home, by rwa [same]⟩
  · have length := List.length_pos_iff.mpr begun
    obtain ⟨k', erases, erased⟩ := backspace_erases shows.on (by omega) (by omega)
    have back : (k.textColPx - 9).toNat = 9 * (t.current.length - 1) := by
      rw [BitVec.toNat_sub_of_le (by change 9 ≤ k.textColPx.toNat; omega), column]
      change 9 * t.current.length - 9 = _
      omega
    refine ⟨k', erases, erased.on, erased.colors.1.trans shows.textColor,
      erased.colors.2.trans shows.backgroundColor, ?_, ?_, ?_⟩
    · exact (congrArg (fun p => p.line.toNat) erased.cursor).trans line
    · rw [ScrollingText.erase, List.length_dropLast]
      exact (congrArg (fun p => p.col.toNat) erased.cursor).trans back
    · intro y row x col
      have shown := ScrollingText.charAt_erase begun lines.1 (y / 16) (x / 9)
      have cell : (Cursor.mk k.textLine (k.textColPx - 9)).InCells 1 y x ↔
          (16 * t.row s.lines ≤ y ∧ y < 16 * t.row s.lines + 16) ∧
            9 * (t.current.length - 1) ≤ x ∧ x < 9 * (t.current.length - 1) + 8 := by
        rw [inCells_one, line, back]
      by_cases here : y / 16 = t.row s.lines ∧ x / 9 + 1 = t.current.length
      · rw [if_pos here] at shown
        rw [rendering_none shown]
        by_cases inside : x % 9 < 8
        · exact (erased.blank y row x col (cell.mpr (by omega))).trans shows.backgroundColor
        · -- between two characters nothing is ever drawn
          refine (erased.others y row x col (mt cell.mp (by omega))).trans ?_
          refine (shows.pixels y row x col).trans ?_
          rw [rendering]
          split
          · rfl
          · exact if_neg fun both => inside both.1
      · rw [if_neg here] at shown
        refine (erased.others y row x col (mt cell.mp (by omega))).trans ?_
        exact (shows.pixels y row x col).trans (rendering_congr shown.symm rfl)

theorem kscrollDown_shows (apart : Apart s.mode.framebufferPointer s.flushed s.base (4 * s.size))
    (shows : Shows s t k) (fresh : t.current = []) (begun : t.done ≠ []) :
    ∃ k', kscrollDown k = .ok k' ∧ Shows s t.scroll k' := by
  have lines := s.lines_bounds
  obtain ⟨k', scrolls, pixels⟩ := kscrollDown_pixel shows.on apart
  have draws : Draws k k' := by
    rw [kscrollDown_eq shows.on] at scrolls
    rw [← Except.ok.inj scrolls]
    have drawing := Draws.drawing
    exact ((drawing.scrollRows _ _ k).trans (drawing.blankLastLine _ _ _)).trans
      (drawing.flushFramebuffer _)
  refine ⟨k', scrolls, shows.on.draws draws, ?_, ?_, ?_, ?_, ?_⟩
  · rw [draws.globals]
    exact shows.textColor
  · rw [draws.globals]
    exact shows.backgroundColor
  · rw [draws.line, ScrollingText.row, ScrollingText.scroll_length begun]
    exact shows.line
  · rw [draws.globals]
    exact shows.col
  · intro y row x col
    have moved (r i : Nat) : ScrollingText.charAt s.lines t.scroll.lines r i =
        ScrollingText.charAt s.lines t.lines (r + 1) i :=
      ScrollingText.charAt_scroll fresh begun r i
    rw [pixels y row x col]
    by_cases above : y < 16 * (s.lines - 1)
    · rw [if_pos above, shows.pixels (y + 16) (by omega) x col]
      refine rendering_congr ?_ (by omega)
      rw [moved, Nat.add_div_right y (by decide)]
    · have blank : rendering s t.scroll.lines y x = rgb 0 0 0 := by
        apply rendering_none
        rw [moved]
        apply ScrollingText.charAt_none lines.1
        rw [ScrollingText.row]
        omega
      rw [if_neg above, blank]
      split
      · rfl
      · refine (shows.pixels y row x col).trans (rendering_none ?_)
        apply ScrollingText.charAt_none lines.1
        rw [ScrollingText.row]
        omega

theorem run_shows (apart : Apart s.mode.framebufferPointer s.flushed s.base (4 * s.size))
    (shows : Shows s t k) (u : Int → BitVec 8) {c : ConsoleCall} (sized : c.Sized)
    (before : t.Fits s.columns) (after : (c.edit t).Fits s.columns) :
    ∃ k', c.run u k = .ok k' ∧ Shows s (c.edit t) k' := by
  by_cases erases : c = .backspace
  · rw [erases]
    exact backspace_shows shows before
  · rw [ConsoleCall.edit, if_neg erases] at after ⊢
    rw [run_printing u erases sized]
    exact kprint_writes apart shows (text_noNul c) after

end Calls

/-! Runs of the kernel. -/

/-- The console under the kernel's operations. The buffers of the number printers hold anything
before. -/
def consoleStep : KernelEvent → Console → Console → Prop
  | ⟨.driver (.console c), _⟩, k, k' => ∃ u, c.run u k = .ok k'
  | ⟨.kprintNum n, _⟩, k, k' => ∃ u, kprintNum u n k = .ok k'
  | ⟨.kscrollDown, _⟩, k, k' => kscrollDown k = .ok k'
  | _, k, k' => k' = k

/-- The numeral that `kprint_num` prints. -/
def decimal (n : Nat) : List (BitVec 8) := (Positional.numeral 10 n).map decDigit

/-- What an operation does to the text. -/
def editOp : KernelOp → ScrollingText (BitVec 8) → ScrollingText (BitVec 8)
  | .driver (.console c), t => c.edit t
  | .kprintNum n, t => writeText (decimal n.toNat) t
  | .kscrollDown, t => t.scroll
  | _, t => t

/-- The operation uses the console through the calls above, and scrolls only between two lines. -/
def Displayable (t : ScrollingText (BitVec 8)) : KernelOp → Prop
  | .driver (.console c) => c.Sized
  | .kscrollDown => t.current = [] ∧ t.done ≠ []
  | .initializeVideo _ | .acpiVcheck _ | .acpiCcheck _ | .acpiInit _ => False
  | _ => True

/-- A terminal that is wide enough, under the same operations. -/
structure DisplayStep (s : Screen) (e : KernelEvent) (t t' : ScrollingText (BitVec 8)) : Prop where
  displayable : Displayable t e.op
  text : t' = editOp e.op t
  fits : t'.Fits s.columns

section Runs

variable {s : Screen} {t t' : ScrollingText (BitVec 8)} {k : Console}

theorem kprintNum_decimal (u : Int → BitVec 8) (n : BitVec 64) (k : Console) :
    kprintNum u n k = kprint (decimal n.toNat) k := by
  rw [kprintNum, kprintNumStack, digitStack_text kernelIndices (by decide) decDigit_ne_zero,
    numeralText_eq (by decide) decDigit_ne_zero]
  rfl

theorem decimal_noNul (n : Nat) : 0 ∉ decimal n :=
  Positional.not_mem_numeral (by decide) decDigit_ne_zero

/-- Whatever the buffers hold, the console does one thing, and shows what the terminal does. -/
theorem consoleStep_shows (apart : Apart s.mode.framebufferPointer s.flushed s.base (4 * s.size))
    {e : KernelEvent} (step : DisplayStep s e t t') (fits : t.Fits s.columns) (shows : Shows s t k) :
    (∃ k', consoleStep e k k') ∧ ∀ k', consoleStep e k k' → Shows s t' k' := by
  obtain ⟨displayable, rfl, after⟩ := step
  obtain ⟨o, r⟩ := e
  have silent {k' : Console} (same : k' = k) : Shows s t k' := same ▸ shows
  cases o with
  | driver o =>
      cases o with
      | console c =>
          have prints (u : Int → BitVec 8) := run_shows apart shows u displayable fits after
          constructor
          · obtain ⟨k', runs, -⟩ := prints fun _ => 0
            exact ⟨k', fun _ => 0, runs⟩
          · rintro k' ⟨u, runs⟩
            obtain ⟨k₁, runs', shown⟩ := prints u
            exact Except.ok.inj (runs'.symm.trans runs) ▸ shown
      | _ => exact ⟨⟨k, rfl⟩, fun k' same => silent same⟩
  | kprintNum n =>
      obtain ⟨k₁, prints, shown⟩ := kprint_writes apart shows (decimal_noNul n.toNat) after
      constructor
      · exact ⟨k₁, fun _ => 0, (kprintNum_decimal _ n k).trans prints⟩
      · rintro k' ⟨u, runs⟩
        rw [kprintNum_decimal, prints] at runs
        exact Except.ok.inj runs ▸ shown
  | kscrollDown =>
      obtain ⟨k₁, scrolls, shown⟩ := kscrollDown_shows apart shows displayable.1 displayable.2
      constructor
      · exact ⟨k₁, scrolls⟩
      · intro k' runs
        exact Except.ok.inj (scrolls.symm.trans runs) ▸ shown
  | initializeVideo vmi => exact displayable.elim
  | acpiVcheck xsdpTable => exact displayable.elim
  | acpiCcheck xsdpTable => exact displayable.elim
  | acpiInit xsdpTable => exact displayable.elim
  | _ => exact ⟨⟨k, rfl⟩, fun k' same => silent same⟩

/-- The pixel console refines the terminal: through any operations that the terminal can display,
the console goes without a stop, and then the screen shows the text. -/
theorem console_refines (apart : Apart s.mode.framebufferPointer s.flushed s.base (4 * s.size))
    {events : List KernelEvent} (displays : Follows (DisplayStep s) events t t')
    (fits : t.Fits s.columns) (shows : Shows s t k) :
    (∃ k', Follows consoleStep events k k') ∧
      ∀ k', Follows consoleStep events k k' → Shows s t' k' := by
  induction events generalizing t k with
  | nil =>
      cases displays
      exact ⟨⟨k, rfl⟩, fun k' same => same ▸ shows⟩
  | cons e events ih =>
      obtain ⟨mid, now, later⟩ := displays
      obtain ⟨⟨k₁, step⟩, shown⟩ := consoleStep_shows apart now fits shows
      constructor
      · obtain ⟨⟨k', rest⟩, -⟩ := ih later now.fits (shown k₁ step)
        exact ⟨k', k₁, step, rest⟩
      · rintro k' ⟨k₂, step₂, rest⟩
        exact (ih later now.fits (shown k₂ step₂)).2 k' rest

/-- A letter is typed and taken back, and a line comes and scrolls away. -/
def noteEvents : List KernelEvent :=
  [⟨.driver (.console (.kputchar 0x48)), ()⟩, ⟨.driver (.console .backspace), ()⟩,
    ⟨.driver (.console (.kernLog 5 "yo")), ()⟩, ⟨.kscrollDown, ()⟩]

theorem noteEvents_refine :
    (∃ k', Follows consoleStep noteEvents (blankOutput noteConsole) k') ∧
      ∀ k', Follows consoleStep noteEvents (blankOutput noteConsole) k' →
        Shows noteScreen ⟨[[]], []⟩ k' :=
  console_refines noteScreen_apart (t := ScrollingText.empty)
    ⟨_, ⟨trivial, rfl, by decide⟩, _, ⟨trivial, rfl, by decide⟩, _, ⟨trivial, rfl, by decide⟩,
      ⟨[[]], []⟩, ⟨⟨rfl, by decide⟩, rfl, by decide⟩, rfl⟩
    (by decide) (shows_blank ⟨rfl, rfl, rfl, rfl, by decide, by decide⟩ rfl rfl)

end Runs

end Flosp.Kernel
