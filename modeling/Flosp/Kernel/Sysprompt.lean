import Flosp.Kernel.Transcript

/-! The system prompt (`kernel/sysprompt.c`) on the screen. -/

namespace Flosp.Kernel

open ByteMemory Interaction

def numberLines (turns i : Nat) : List (BitVec 8) :=
  (List.range' i turns).flatMap fun n => decimal n ++ [newline]

/-- What `enter_sysprompt` prints. -/
def promptText : List (BitVec 8) := ascii "C:\\> " ++ numberLines 1000 0

section Text

variable {n : Nat} {t : ScrollingText (BitVec 8)}

theorem writeText_inline {text : List (BitVec 8)} (inline : newline ∉ text)
    (t : ScrollingText (BitVec 8)) : writeText text t = ⟨t.done, t.current ++ text⟩ := by
  induction text generalizing t with
  | nil => simp [writeText]
  | cons c text ih =>
      rw [List.mem_cons, not_or] at inline
      rw [writeText, List.foldl_cons, ScrollingText.put_char (Ne.symm inline.1)]
      exact (ih inline.2 _).trans (by simp)

theorem writeText_newline (t : ScrollingText (BitVec 8)) : writeText [newline] t = ⟨t.lines, []⟩ := by
  change t.put newline newline = _
  exact ScrollingText.put_sep

theorem writeText_append (text text' : List (BitVec 8)) (t : ScrollingText (BitVec 8)) :
    writeText (text ++ text') t = writeText text' (writeText text t) :=
  List.foldl_append ..

theorem fits_iff : t.Fits n ↔ (∀ line ∈ t.done, line.length ≤ n) ∧ t.current.length ≤ n := by
  simp [ScrollingText.Fits, ScrollingText.lines, or_imp, forall_and]

theorem fits_inline {text : List (BitVec 8)} (fits : t.Fits n) (inline : newline ∉ text)
    (room : t.current.length + text.length ≤ n) : (writeText text t).Fits n := by
  rw [writeText_inline inline, fits_iff, List.length_append]
  exact ⟨(fits_iff.mp fits).1, room⟩

theorem fits_newline (fits : t.Fits n) : (writeText [newline] t).Fits n := by
  rw [writeText_newline, fits_iff]
  exact ⟨fits, Nat.zero_le n⟩

theorem decimal_inline (m : Nat) : newline ∉ decimal m :=
  Positional.not_mem_numeral (by decide) (by decide)

theorem decimal_short {m : Nat} (small : m < 1000) : (decimal m).length ≤ 3 := by
  rw [decimal, List.length_map]
  exact (Positional.numeral_length_le_iff (by decide) (by decide)).mpr small

theorem writeText_numberLines (turns i : Nat) {t : ScrollingText (BitVec 8)} (fresh : t.current = []) :
    writeText (numberLines turns i) t = ⟨t.done ++ (List.range' i turns).map decimal, []⟩ := by
  induction turns generalizing i t with
  | zero =>
      obtain ⟨done, current⟩ := t
      obtain rfl : current = [] := fresh
      simp [numberLines, writeText]
  | succ turns ih =>
      have whole : numberLines (turns + 1) i = decimal i ++ ([newline] ++ numberLines turns (i + 1)) := by
        rw [numberLines, List.range'_succ, List.flatMap_cons, List.append_assoc]
        rfl
      rw [whole, writeText_append, writeText_append, writeText_inline (decimal_inline i),
        writeText_newline, ih _ rfl, fresh]
      simp [ScrollingText.lines, List.range'_succ]

theorem promptText_rows {rows r : Nat} (few : rows ≤ 1000) (above : r + 1 < rows) (i : Nat)
    (t : ScrollingText (BitVec 8)) :
    ScrollingText.charAt rows (writeText promptText t).lines r i =
      (decimal (1001 - rows + r))[i]? := by
  have inline : newline ∉ ascii "C:\\> " ++ decimal 0 := by decide
  have first : promptText = ascii "C:\\> " ++ decimal 0 ++ ([newline] ++ numberLines 999 1) := by
    rw [promptText, numberLines, List.range'_succ, List.flatMap_cons, numberLines]
    simp only [List.append_assoc]
  rw [first, writeText_append, writeText_append, writeText_inline inline, writeText_newline,
    writeText_numberLines 999 1 rfl]
  have index : (t.done.length + 1 + 999 + 1) - rows + r = t.done.length + 1 + (1000 - rows + r) := by
    omega
  rw [ScrollingText.charAt, ScrollingText.lines_length]
  simp only [ScrollingText.lines, List.length_append, List.length_map, List.length_range',
    List.length_singleton]
  rw [index, ScrollingText.getD_snoc_nil, List.getD_append_right _ _ _ _ (by simp),
    List.length_append, List.length_singleton, Nat.add_sub_cancel_left, List.getD_eq_getElem?_getD,
    List.getElem?_map, List.getElem?_range' (by omega)]
  have number : 1 + 1 * (1000 - rows + r) = 1001 - rows + r := by omega
  rw [number]
  rfl

end Text

section Display

variable {s : Screen} {t : ScrollingText (BitVec 8)} {k : Console} {α : Type} {Q : α → Console → Prop}

theorem ensures_displayed (apart : Apart s.mode.framebufferPointer s.flushed s.base (4 * s.size))
    (shows : Shows s t k) (fits : t.Fits s.columns) {o : KernelOp} (displayable : Displayable t o)
    (after : (editOp o t).Fits s.columns) {next : KernelReply o → KernelTask α}
    (reply : KernelReply o)
    (rest : ∀ r k', Shows s (editOp o t) k' → Task.Ensures consoleStep (next r) k' Q) :
    Task.Ensures consoleStep (.op o next) k Q := by
  have step (r : KernelReply o) : DisplayStep s ⟨o, r⟩ t (editOp o t) := ⟨displayable, rfl, after⟩
  obtain ⟨⟨k', moves⟩, -⟩ := consoleStep_shows apart (step reply) fits shows
  refine .op ⟨reply, k', moves⟩ fun r k' moves => rest r k' ?_
  exact (consoleStep_shows apart (step r) fits shows).2 k' moves

theorem printNumbers_displays
    (apart : Apart s.mode.framebufferPointer s.flushed s.base (4 * s.size)) (turns : Nat)
    {i : BitVec 32} (last : i.toNat + turns ≤ 1000) (shows : Shows s t k) (fits : t.Fits s.columns)
    (room : t.current.length + 3 ≤ s.columns) :
    Task.Ensures consoleStep (printNumbers turns i) k fun _ k' =>
      Shows s (writeText (numberLines turns i.toNat) t) k' := by
  induction turns generalizing i t k with
  | zero => exact .ret shows
  | succ turns ih =>
      have next : (i + 1).toNat = i.toNat + 1 :=
        BitVec.toNat_add_of_lt (by change i.toNat + 1 < 2 ^ 32; omega)
      have wide : (i.setWidth 64).toNat = i.toNat := by
        rw [BitVec.toNat_setWidth, Nat.mod_eq_of_lt (by omega)]
      have short := decimal_short (m := i.toNat) (by omega)
      have numbered := fits_inline fits (decimal_inline i.toNat) (by omega)
      have lines := fits_newline numbered
      have whole : numberLines (turns + 1) i.toNat =
          decimal i.toNat ++ ([newline] ++ numberLines turns (i + 1).toNat) := by
        rw [numberLines, List.range'_succ, List.flatMap_cons, next, List.append_assoc]
        rfl
      have number : editOp (.kprintNum (i.setWidth 64)) t = writeText (decimal i.toNat) t := by
        rw [editOp, wide]
      have line (t : ScrollingText (BitVec 8)) :
          editOp (.driver (.console (.kputchar 10))) t = writeText [newline] t := rfl
      refine ensures_displayed (o := .kprintNum _) apart shows fits trivial (number ▸ numbered) ()
        fun _ k₁ shown => ?_
      rw [number] at shown
      refine ensures_displayed (o := .driver (.console (.kputchar 10))) apart shown numbered trivial
        (line _ ▸ lines) () fun _ k₂ shown => ?_
      rw [line] at shown
      rw [whole, writeText_append, writeText_append]
      refine ih (by omega) shown lines ?_
      rw [writeText_newline, List.length_nil]
      omega

/-- The prompt and a thousand lines are behind what the screen has shown before. Up to a thousand
rows show the last numbers, with the cursor below them. -/
structure Prompted (s : Screen) (t : ScrollingText (BitVec 8)) (k : Console) : Prop where
  shows : Shows s (writeText promptText t) k
  rows : s.lines ≤ 1000 → ∀ r, r + 1 < s.lines → ∀ i,
    ScrollingText.charAt s.lines (writeText promptText t).lines r i =
      (decimal (1001 - s.lines + r))[i]?

theorem enterSysprompt_displays (s : Screen)
    (apart : Apart s.mode.framebufferPointer s.flushed s.base (4 * s.size))
    (t : ScrollingText (BitVec 8)) (k : Console) (shows : Shows s t k) (fits : t.Fits s.columns)
    (room : t.current.length + 8 ≤ s.columns) :
    Task.Ensures consoleStep enterSysprompt k fun _ => Prompted s t := by
  suffices displays : Task.Ensures consoleStep enterSysprompt k fun _ =>
      Shows s (writeText promptText t) from
    displays.mono fun _ k' shows =>
      ⟨shows, fun few r above i => promptText_rows few above i t⟩
  have inline : newline ∉ ascii "C:\\> " := by decide
  have length : (ascii "C:\\> ").length = 5 := by decide
  have prompted := fits_inline fits inline (by omega)
  have prompt : editOp (.driver (.console (.kprint "C:\\> "))) t = writeText (ascii "C:\\> ") t := rfl
  refine ensures_displayed (o := .driver (.console (.kprint _))) apart shows fits trivial
    (prompt ▸ prompted) () fun _ k₁ shown => ?_
  rw [prompt] at shown
  rw [promptText, writeText_append]
  refine printNumbers_displays apart 1000 (i := 0) (by decide) shown prompted ?_
  rw [writeText_inline inline, List.length_append, length]
  omega

end Display

/-- Nine columns, as many as the first line of the prompt needs and three more. -/
def promptScreen : Screen where
  mode := ⟨0x80000, 0x1000, 80, 40, 80⟩
  narrow := by decide
  tall := by decide
  short := by decide

def promptConsole : Console :=
  { Console.loaded ⟨fun _ => 0xFF, []⟩ with
    videoModeInfo := promptScreen.mode
    framebufferInfo := ⟨80, 40, 320, 32⟩
    maxTextLine := 1 }

theorem promptScreen_apart : Apart promptScreen.mode.framebufferPointer promptScreen.flushed
    promptScreen.base (4 * promptScreen.size) := by
  intro x framebuffer backbuffer
  rw [within_iff_toNat (by decide)] at framebuffer backbuffer
  change 0x80000 ≤ _ ∧ _ at framebuffer
  change _ ∧ _ < 0x1000 + 4 * (80 * 40) at backbuffer
  omega

theorem promptConsole_displays :
    Task.Ensures consoleStep enterSysprompt (blankOutput promptConsole) fun _ =>
      Prompted promptScreen ScrollingText.empty :=
  enterSysprompt_displays promptScreen promptScreen_apart ScrollingText.empty _
    (shows_blank ⟨rfl, rfl, rfl, rfl, by decide, by decide⟩ rfl rfl) (by decide) (by decide)

end Flosp.Kernel
