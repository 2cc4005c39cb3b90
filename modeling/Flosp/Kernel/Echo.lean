import Flosp.Kernel.Keystrokes
import Flosp.Kernel.Sysprompt

/-! Typing: what the screen shows after a sequence of keyboard interrupts. The arrays of characters
are in the memory that the console draws into. -/

namespace Flosp.Kernel

open ByteMemory Interaction

/-- The bytes that the keyboard has still to send, and the console. -/
structure EchoState where
  coming : List (BitVec 8)
  console : Console

def echoStep : DriverEvent → EchoState → EchoState → Prop
  | ⟨.inb _, b⟩, e, e' => e.coming.head? = some b ∧ e' = { e with coming := e.coming.tail }
  | ⟨.load a n, v⟩, e, e' => v = load e.console.machine.mem a n ∧ e' = e
  | ⟨.console c, _⟩, e, e' => e'.coming = e.coming ∧ ∃ u, c.run u e.console = .ok e'.console
  | _, e, e' => e' = e

/-- What a key does to the text when it goes down. Nothing happens when it goes up. -/
def pressKey (shiftDown : Bool) (b : BitVec 8) (t : ScrollingText (BitVec 8)) :
    ScrollingText (BitVec 8) :=
  if b < 0x80 then (keyText shiftDown b).foldl (fun t c => c.edit t) t else t

/-- The text of a typist who holds `held` at the start. -/
def typeKeys : HeldKeys → List (BitVec 8) → ScrollingText (BitVec 8) → ScrollingText (BitVec 8)
  | _, [], t => t
  | held, b :: bytes, t => typeKeys (hold held b) bytes (pressKey (shiftHeld held) b t)

/-- No line gets longer than the screen is wide. -/
def TypesInside (columns : Nat) : HeldKeys → List (BitVec 8) → ScrollingText (BitVec 8) → Prop
  | _, [], _ => True
  | held, b :: bytes, t => (pressKey (shiftHeld held) b t).Fits columns ∧
      TypesInside columns (hold held b) bytes (pressKey (shiftHeld held) b t)

instance (columns : Nat) : ∀ held bytes t, Decidable (TypesInside columns held bytes t)
  | _, [], _ => inferInstanceAs (Decidable True)
  | held, b :: bytes, t =>
      have := instDecidableTypesInside columns (hold held b) bytes (pressKey (shiftHeld held) b t)
      inferInstanceAs (Decidable (_ ∧ _))

/-- The byte has an entry in the arrays, or a NUL lies behind them where the driver looks. -/
def Known (mem : Memory 64) (tables : KeyTables) (b : BitVec 8) : Prop :=
  Translatable b ∨ ∀ shiftDown, mem (tables.table shiftDown + b.setWidth 64) = 0

/-- The driver looks up no character in what the console draws into. -/
def KeyTables.Clear (tables : KeyTables) (s : Screen) : Prop :=
  ∀ shiftDown, ∀ b : BitVec 8, s.Untouched (tables.table shiftDown + b.setWidth 64)

section Calls

variable {s : Screen} {t : ScrollingText (BitVec 8)} {k : Console} {tables : KeyTables}
  {shiftDown : Bool} {b : BitVec 8} {e : EchoState}

theorem run_prints_only (on : k.On s) (u : Int → BitVec 8) {c : ConsoleCall} (sized : c.Sized) :
    ∃ k', c.run u k = .ok k' ∧ Prints s k k' := by
  by_cases erases : c = .backspace
  · rw [erases]
    exact backspace_prints on
  · rw [run_printing u erases sized]
    exact kprint_prints on c.text

/-- The console shows `t` and has stored nothing outside of its two buffers since it was `k`. -/
structure Since (s : Screen) (t : ScrollingText (BitVec 8)) (k k' : Console) : Prop where
  shows : Shows s t k'
  kept : ∀ a, s.Untouched a → k'.machine.mem a = k.machine.mem a

theorem Since.arrays (since : Since s t k e.console) (clear : tables.Clear s)
    (placed : tables.Placed k.machine.mem) : tables.Placed e.console.machine.mem := by
  have kept (shiftDown : Bool) (i : Nat) (small : i < 59) :
      e.console.machine.mem (tables.table shiftDown + BitVec.ofNat 64 i) =
        k.machine.mem (tables.table shiftDown + BitVec.ofNat 64 i) := by
    have index : (BitVec.ofNat 8 i).setWidth 64 = BitVec.ofNat 64 i := by
      rw [setWidth_index, BitVec.toNat_ofNat, Nat.mod_eq_of_lt (by omega)]
    exact index ▸ since.kept _ (clear shiftDown (BitVec.ofNat 8 i))
  constructor
  · intro i c found
    have small := chars_length.1 ▸ (List.getElem?_eq_some_iff.mp found).1
    exact (kept false i small).trans (placed.chars i c found)
  · intro i c found
    have small := chars_length.2 ▸ (List.getElem?_eq_some_iff.mp found).1
    exact (kept true i small).trans (placed.charsCap i c found)

theorem edit_nul (t : ScrollingText (BitVec 8)) : (ConsoleCall.kputchar 0).edit t = t := rfl

theorem ensures_console_echo (apart : Apart s.mode.framebufferPointer s.flushed s.base (4 * s.size))
    (since : Since s t k e.console) (fits : t.Fits s.columns) {c : ConsoleCall} (sized : c.Sized)
    (after : (c.edit t).Fits s.columns) {α : Type} {f : Unit → Driver α}
    {Q : α → EchoState → Prop}
    (rest : ∀ e', e'.coming = e.coming → Since s (c.edit t) k e'.console →
      Task.Ensures echoStep (f ()) e' Q) :
    Task.Ensures echoStep (console c >>= f) e Q := by
  have prints (u : Int → BitVec 8) : ∃ k', c.run u e.console = .ok k' ∧
      Since s (c.edit t) k k' := by
    obtain ⟨k', runs, shown⟩ := run_shows apart since.shows u sized fits after
    obtain ⟨k₂, runs₂, prints⟩ := run_prints_only since.shows.on u sized
    obtain rfl : k₂ = k' := Except.ok.inj (runs₂.symm.trans runs)
    exact ⟨k₂, runs, shown, fun a outside =>
      (prints.mem_eq outside).trans (since.kept a outside)⟩
  obtain ⟨k₁, runs₁, -⟩ := prints fun _ => 0
  refine .op ⟨(), ⟨e.coming, k₁⟩, rfl, fun _ => 0, runs₁⟩ ?_
  intro _ e' ⟨coming, u, runs⟩
  obtain ⟨k', runs', holds⟩ := prints u
  obtain rfl : k' = e'.console := Except.ok.inj (runs'.symm.trans runs)
  exact rest e' coming holds

theorem visible_edit (c : BitVec 8) (t : ScrollingText (BitVec 8)) :
    (visible [.kputchar c]).foldl (fun t c => c.edit t) t = (ConsoleCall.kputchar c).edit t := by
  by_cases null : c = 0
  · rw [null]
    rfl
  · have kept : visible [.kputchar c] = [.kputchar c] :=
      List.filter_eq_self.mpr fun call member => by
        rw [List.mem_singleton.mp member]
        simpa using null
    rw [kept]
    rfl

theorem pressKey_shift (shift : IsShiftCode b) : pressKey shiftDown b t = t := by
  simp [pressKey, keyText, shift]

theorem pressKey_backspace : pressKey shiftDown 0x0E t = t.erase := rfl

theorem pressKey_char (placed : tables.Placed k.machine.mem)
    (known : Known k.machine.mem tables b) (other : ¬ IsShiftCode b) (char : b ≠ 0x0E) :
    pressKey shiftDown b t = ConsoleCall.edit
      (.kputchar (load k.machine.mem (tables.table shiftDown + b.setWidth 64) 1)) t := by
  have text : keyText shiftDown b =
      visible [.kputchar ((if shiftDown then charsCap else chars).getD b.toNat 0)] := by
    rw [keyText, if_neg other, if_neg char]
  by_cases small : b.toNat < 59
  · have down : b < 0x80 := Nat.lt_trans small (by decide)
    rw [pressKey, if_pos down, text, visible_edit, load_chars placed small]
  · have null : k.machine.mem (tables.table shiftDown + b.setWidth 64) = 0 :=
      known.elim (fun known => absurd (known.below other) small) fun null => null shiftDown
    have missing : (if shiftDown then charsCap else chars).getD b.toNat 0 = 0 := by
      cases shiftDown with
      | true => exact List.getD_eq_default _ _ (chars_length.2 ▸ Nat.not_lt.mp small)
      | false => exact List.getD_eq_default _ _ (chars_length.1 ▸ Nat.not_lt.mp small)
    rw [load_one, null, edit_nul, pressKey, text, missing, visible_edit, edit_nul, ite_self]

theorem keycodeChar_echo (apart : Apart s.mode.framebufferPointer s.flushed s.base (4 * s.size))
    (clear : tables.Clear s) (placed : tables.Placed k.machine.mem)
    (known : Known k.machine.mem tables b) (since : Since s t k e.console)
    (fits : t.Fits s.columns) (after : (pressKey shiftDown b t).Fits s.columns) :
    Task.Ensures echoStep (do
      let (c, shiftDown) ← keycodeChar tables b shiftDown
      console (.kputchar c)
      return shiftDown) e fun shiftDown' e' =>
        shiftDown' = nextShift shiftDown b ∧ e'.coming = e.coming ∧
          Since s (pressKey shiftDown b t) k e'.console := by
  have puts (c : BitVec 8) (shiftDown' : Bool) {t : ScrollingText (BitVec 8)} {e₁ : EchoState}
      (since : Since s t k e₁.console) (fits : t.Fits s.columns)
      (after : ((ConsoleCall.kputchar c).edit t).Fits s.columns) (coming : e₁.coming = e.coming) :
      Task.Ensures echoStep (console (.kputchar c) >>= fun _ => .ret shiftDown') e₁
        fun shift e' => shift = shiftDown' ∧ e'.coming = e.coming ∧
          Since s ((ConsoleCall.kputchar c).edit t) k e'.console :=
    ensures_console_echo (c := .kputchar c) apart since fits trivial after fun e' same shown =>
      .ret ⟨rfl, same.trans coming, shown⟩
  by_cases shift : IsShiftCode b
  · rw [pressKey_shift shift]
    rcases shift with rfl | rfl | rfl | rfl
    · exact puts 0 true since fits fits rfl
    · exact puts 0 true since fits fits rfl
    · exact puts 0 false since fits fits rfl
    · exact puts 0 false since fits fits rfl
  · rw [nextShift_other shift, keycodeChar_other shift]
    by_cases back : b = 0x0E
    · rw [back, pressKey_backspace] at after ⊢
      rw [if_pos rfl]
      refine ensures_console_echo (c := .backspace) apart since fits trivial after ?_
      intro e₂ same shown
      exact puts 0 shiftDown shown after after same
    · rw [pressKey_char placed known shift back] at after ⊢
      rw [if_neg back]
      refine .op ⟨_, _, rfl, rfl⟩ fun c e₂ step => ?_
      obtain ⟨found, rfl⟩ := step
      have kept : c = load k.machine.mem (tables.table shiftDown + b.setWidth 64) 1 := by
        rw [found, load_one, load_one]
        exact since.kept _ (clear shiftDown b)
      rw [← kept] at after ⊢
      exact puts c shiftDown since fits after rfl

theorem keyboardHandler_echo (apart : Apart s.mode.framebufferPointer s.flushed s.base (4 * s.size))
    (clear : tables.Clear s) (placed : tables.Placed k.machine.mem)
    (known : Known k.machine.mem tables b) (since : Since s t k e.console)
    (fits : t.Fits s.columns) (after : (pressKey shiftDown b t).Fits s.columns)
    {rest : List (BitVec 8)} (sent : e.coming = b :: rest) :
    Task.Ensures echoStep (keyboardHandler tables shiftDown) e fun shiftDown' e' =>
      shiftDown' = nextShift shiftDown b ∧ e'.coming = rest ∧
        Since s (pressKey shiftDown b t) k e'.console := by
  have head : e.coming.head? = some b := by rw [sent]; rfl
  refine .op ⟨b, _, head, rfl⟩ fun keycode e₁ step => ?_
  have same : keycode = b := Option.some_inj.mp (step.1.symm.trans head)
  have now : Since s t k e₁.console := step.2 ▸ since
  have left : e₁.coming = rest := by
    rw [step.2, sent]
    rfl
  rw [same]
  apply (keycodeChar_echo apart clear placed known now fits after).mono
  intro shiftDown' e' ⟨next, coming, shown⟩
  exact ⟨next, coming.trans left, shown⟩

/-- By the bytes: each interrupt does to the text what the key does. -/
theorem keyboardInterrupts_echo
    (apart : Apart s.mode.framebufferPointer s.flushed s.base (4 * s.size))
    (clear : tables.Clear s) (placed : tables.Placed k.machine.mem) (bytes : List (BitVec 8))
    (known : ∀ b ∈ bytes, Known k.machine.mem tables b) {held : HeldKeys}
    (released : ReleasesApart held bytes) (since : Since s t k e.console) (fits : t.Fits s.columns)
    (inside : TypesInside s.columns held bytes t) (sent : e.coming = bytes) :
    Task.Ensures echoStep (keyboardInterrupts tables bytes.length (shiftHeld held)) e
      fun shiftDown e' => shiftDown = shiftHeld (bytes.foldl hold held) ∧ e'.coming = [] ∧
        Since s (typeKeys held bytes t) k e'.console := by
  induction bytes generalizing held t e with
  | nil => exact .ret ⟨rfl, sent, since⟩
  | cons b bytes ih =>
      rw [List.forall_mem_cons] at known
      apply (keyboardHandler_echo apart clear placed known.1 since fits inside.1 sent).bind
      intro shiftDown e₁ ⟨next, coming, shown⟩
      rw [(nextShift_held held b).mpr ⟨released.1, released.2.1⟩] at next
      rw [next]
      exact ih known.2 released.2.2 shown inside.1 inside.2 coming

end Calls

/-- The arrays above the two buffers of `promptScreen`, with NULs behind them. -/
def farTables : KeyTables := ⟨0x100000, 0x200000⟩

def farMemory : Memory 64 := overlay (overlay (fun _ => 0) 0x100000 chars) 0x200000 charsCap

def typingConsole : Console := { promptConsole with machine := ⟨farMemory, []⟩ }

theorem promptScreen_untouched {x : Addr} (above : 0x100000 ≤ x.toNat) :
    promptScreen.Untouched x := by
  constructor
  · intro drawn
    rw [within_iff_toNat (by decide)] at drawn
    change 0x1000 ≤ _ ∧ _ < 0x1000 + 4 * (80 * 40 + 65543) at drawn
    omega
  · intro flushed
    rw [within_iff_toNat (by decide)] at flushed
    change 0x80000 ≤ _ ∧ _ < 0x80000 + 25600 at flushed
    omega

theorem farTables_clear : farTables.Clear promptScreen := by
  have above : ∀ shiftDown, ∀ b : BitVec 8,
      0x100000 ≤ (farTables.table shiftDown + b.setWidth 64).toNat := by decide +kernel
  exact fun shiftDown b => promptScreen_untouched (above shiftDown b)

theorem farMemory_entries : ∀ i ∈ List.range 59,
    chars[i]? = some (farMemory (farTables.chars + BitVec.ofNat 64 i)) ∧
      charsCap[i]? = some (farMemory (farTables.charsCap + BitVec.ofNat 64 i)) := by
  decide +kernel

theorem typingConsole_on : typingConsole.On promptScreen :=
  ⟨rfl, rfl, rfl, rfl, by decide, by decide⟩

theorem typingConsole_kept {x : Addr} (above : 0x100000 ≤ x.toNat) :
    (blankOutput typingConsole).machine.mem x = farMemory x :=
  (blankOutput_prints typingConsole_on).mem_eq (promptScreen_untouched above)

theorem farTables_placed : farTables.Placed (blankOutput typingConsole).machine.mem := by
  have above : ∀ i < 59, 0x100000 ≤ (farTables.chars + BitVec.ofNat 64 i).toNat ∧
      0x100000 ≤ (farTables.charsCap + BitVec.ofNat 64 i).toNat := by decide
  constructor
  · intro i c found
    have bound := chars_length.1 ▸ (List.getElem?_eq_some_iff.mp found).1
    rw [typingConsole_kept (above i bound).1]
    exact Option.some_inj.mp
      ((farMemory_entries i (List.mem_range.mpr bound)).1.symm.trans found)
  · intro i c found
    have bound := chars_length.2 ▸ (List.getElem?_eq_some_iff.mp found).1
    rw [typingConsole_kept (above i bound).2]
    exact Option.some_inj.mp
      ((farMemory_entries i (List.mem_range.mpr bound)).2.symm.trans found)

/-- A capital H and an i, which is taken back. -/
def typedBytes : List (BitVec 8) := [0x2A, 0x23, 0xA3, 0xAA, 0x17, 0x97, 0x0E]

theorem typedBytes_known :
    ∀ b ∈ typedBytes, Known (blankOutput typingConsole).machine.mem farTables b := by
  have above : ∀ shiftDown, ∀ b : BitVec 8,
      0x100000 ≤ (farTables.table shiftDown + b.setWidth 64).toNat := by decide +kernel
  have behind : ∀ b ∈ typedBytes, b.toNat < 59 ∨ b = 0xAA ∨
      ∀ shiftDown, farMemory (farTables.table shiftDown + b.setWidth 64) = 0 := by decide +kernel
  intro b member
  rcases behind b member with entry | up | null
  · exact .inl (.inl entry)
  · exact .inl (.inr (.inl up))
  · exact .inr fun shiftDown => (typingConsole_kept (above shiftDown b)).trans (null shiftDown)

/-- The screen shows what the keys have typed, the flag tells whether a shift key is held, and the
arrays are as they were. -/
structure Displayed (s : Screen) (tables : KeyTables) (held : HeldKeys) (bytes : List (BitVec 8))
    (t : ScrollingText (BitVec 8)) (shiftDown : Bool) (e : EchoState) : Prop where
  flag : shiftDown = shiftHeld (bytes.foldl hold held)
  taken : e.coming = []
  shows : Shows s (typeKeys held bytes t) e.console
  arrays : tables.Placed e.console.machine.mem

/-- Keys that have a character, of which no shift key goes up while the other is down, appear on
the screen as they are typed. -/
theorem keyboardInterrupts_display (s : Screen)
    (apart : Apart s.mode.framebufferPointer s.flushed s.base (4 * s.size)) (tables : KeyTables)
    (clear : tables.Clear s) (k : Console) (placed : tables.Placed k.machine.mem)
    (bytes : List (BitVec 8)) (known : ∀ b ∈ bytes, Known k.machine.mem tables b)
    (held : HeldKeys) (released : ReleasesApart held bytes) (t : ScrollingText (BitVec 8))
    (shows : Shows s t k) (fits : t.Fits s.columns)
    (inside : TypesInside s.columns held bytes t) :
    Task.Ensures echoStep (keyboardInterrupts tables bytes.length (shiftHeld held)) ⟨bytes, k⟩
      fun shiftDown e => Displayed s tables held bytes t shiftDown e := by
  have since : Since s t k k := ⟨shows, fun _ _ => rfl⟩
  apply (keyboardInterrupts_echo apart clear placed bytes known released since fits inside rfl).mono
  intro shiftDown e ⟨flag, taken, shown⟩
  exact ⟨flag, taken, shown.shows, shown.arrays clear placed⟩

theorem typedBytes_display :
    Task.Ensures echoStep (keyboardInterrupts farTables typedBytes.length (shiftHeld noneHeld))
      ⟨typedBytes, blankOutput typingConsole⟩
      fun shiftDown e =>
        Displayed promptScreen farTables noneHeld typedBytes ScrollingText.empty shiftDown e :=
  keyboardInterrupts_display promptScreen promptScreen_apart farTables farTables_clear _
    farTables_placed typedBytes typedBytes_known noneHeld
    ⟨by decide, by decide, by decide, by decide, by decide, by decide, by decide, by decide,
      by decide, by decide, by decide, by decide, by decide, by decide, trivial⟩
    ScrollingText.empty
    (shows_blank ⟨rfl, rfl, rfl, rfl, by decide, by decide⟩ rfl rfl) (by decide) (by decide)

example : (typeKeys noneHeld typedBytes ScrollingText.empty).lines = [ascii "H"] := by decide

end Flosp.Kernel
