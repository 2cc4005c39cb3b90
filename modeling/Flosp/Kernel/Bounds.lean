import Flosp.Kernel.Printing

/-! The console draws into its back buffer for as long as its lines stay short: nothing
checks the right margin. -/

namespace Flosp.Kernel

open ByteMemory

section Initialize

variable {s : Screen} {cr3 : BitVec 64}

theorem flagFramebuffer_on (cr3 : BitVec 64) (turns : Nat) (i : BitVec 64) {k : Console} (on : k.On s) :
    ∃ k', flagFramebuffer cr3 turns i k = .ok k' ∧ k'.On s := by
  induction turns generalizing i k with
  | zero => exact ⟨k, rfl, on⟩
  | succ turns ih =>
      obtain ⟨_, mid, sets, -, rest⟩ := setMemPageFlags_prints on cr3
        (k.videoModeInfo.framebufferPointer + i) pflagPat
      obtain ⟨k', flags, on'⟩ := ih (i + 1) rest.on
      exact ⟨k', bind_ok sets flags, on'⟩

section Start

variable (vmi : BootVideoModeInfo)

/-- The console at the first turn of the loop. -/
def videoSet (k : Console) : Console :=
  let framebufferInfo : FramebufferInfo :=
    { width := vmi.pixelsPerScanline
      height := vmi.verticalResolution
      pitch := vmi.pixelsPerScanline * 4
      depth := 32 }
  { k with
    videoModeInfo := vmi
    framebufferInfo
    maxTextLine := (framebufferInfo.height / k.fontSize.setWidth 32 - 1).setWidth 16 }

/-- The loop's bound, a product of `ui32_t`s -/
def framebufferBytes : BitVec 32 := vmi.pixelsPerScanline * vmi.verticalResolution * 4

theorem initializeVideo_eq (cr3 : BitVec 64) (k : Console) : initializeVideo cr3 vmi k =
    flagFramebuffer cr3 (framebufferBytes vmi).toNat 0 (videoSet vmi k) >>=
      fun k => .ok (blankOutput k) := rfl

end Start

theorem videoSet_on (s : Screen) (m : KernelMachine) :
    (videoSet s.mode (Console.loaded m)).On s := by
  have lines := s.lines_bounds
  let last : BitVec 16 := (s.mode.verticalResolution / (16 : BitVec 8).setWidth 32 - 1).setWidth 16
  have atLast : last = s.lastLine := by
    apply BitVec.eq_of_toNat_eq
    have tall : 16 ≤ s.mode.verticalResolution.toNat := s.tall
    have short : s.mode.verticalResolution.toNat < 2 ^ 16 := s.short
    rw [s.lastLine_toNat, Screen.lines, Screen.height, BitVec.toNat_setWidth, BitVec.toNat_sub,
      BitVec.toNat_udiv]
    change (2 ^ 32 - 1 + s.mode.verticalResolution.toNat / 16) % 2 ^ 32 % 2 ^ 16 = _
    omega
  exact ⟨rfl, rfl, rfl, rfl, atLast, lines.1⟩

theorem initializeVideo_on (s : Screen) (cr3 : BitVec 64) (m : KernelMachine) :
    ∃ k, initializeVideo cr3 s.mode (Console.loaded m) = .ok k ∧ k.On s ∧ k.cursor = ⟨0, 0⟩ := by
  obtain ⟨flagged, flags, on⟩ := flagFramebuffer_on cr3 (framebufferBytes s.mode).toNat 0
    (videoSet_on s m)
  have blank := blankOutput_operates (Nat.le_refl s.size) on
  exact ⟨blankOutput flagged, bind_ok flags rfl, blank.on, blank.cursor⟩

end Initialize

inductive ConsoleOp where
  | kputchar (c : BitVec 8)
  | kprint (t : List (BitVec 8))
  | backspace
  | kscrollDown
  | blankOutput

namespace ConsoleOp

def run : ConsoleOp → Console → Outcome Console
  | .kputchar c => Kernel.kputchar c
  | .kprint t => Kernel.kprint t
  | .backspace => Kernel.backspace
  | .kscrollDown => Kernel.kscrollDown
  | .blankOutput => fun k => .ok (Kernel.blankOutput k)

def runAll : List ConsoleOp → Console → Outcome Console
  | [], k => .ok k
  | op :: ops, k => op.run k >>= runAll ops

def moves (s : Screen) : ConsoleOp → Cursor → Cursor
  | .kputchar c, p => p.put s c
  | .kprint t, p => p.putAll s t
  | .backspace, p => if p.col ≥ 9 then { p with col := p.col - 9 } else p
  | .kscrollDown, p => p
  | .blankOutput, _ => ⟨0, 0⟩

/-- The cells that a call draws, with the cursor at `p` before it, lie in the buffer. -/
def Fits (s : Screen) : ConsoleOp → Cursor → Prop
  | .kputchar c, p => p.CharFits s s.size c
  | .kprint t, p => p.TextFits s s.size t
  | .backspace, p => p.col ≥ 9 → Cursor.CellFits s s.size { p with col := p.col - 9 }
  | .kscrollDown, _ => True
  | .blankOutput, _ => True

def AllFit (s : Screen) : List ConsoleOp → Cursor → Prop
  | [], _ => True
  | op :: ops, p => op.Fits s p ∧ AllFit s ops (op.moves s p)

end ConsoleOp

/-- A store to a pixel of the back buffer is one to its first `width * height` pixels. -/
def InBuffer (s : Screen) (e : Access 64 Origin) : Prop :=
  e.tag = .draw → e.kind = .store → ∀ x, Within x e.addr e.len → Within x s.base (4 * s.size)

section Runs

variable {s : Screen} {k : Console}

theorem run_operates (on : k.On s) (op : ConsoleOp) :
    ∃ k', op.run k = .ok k' ∧
      Operates s s.size k k' (op.moves s k.cursor) (op.Fits s k.cursor) := by
  have enough := Nat.le_refl s.size
  have small : s.size < 2 ^ 60 := Nat.lt_trans s.size_bound (by decide)
  cases op with
  | kputchar c => exact kputchar_operates enough small on c
  | kprint t => exact kprint_operates enough small t on
  | backspace => exact backspace_operates enough small on
  | kscrollDown => exact kscrollDown_operates enough small on
  | blankOutput => exact ⟨_, rfl, blankOutput_operates enough on⟩

theorem run_prints (on : k.On s) (op : ConsoleOp) :
    ∃ k', op.run k = .ok k' ∧ Prints s k k' := by
  cases op with
  | kputchar c => exact kputchar_prints on c
  | kprint t => exact kprint_prints on t
  | backspace => exact backspace_prints on
  | kscrollDown => exact kscrollDown_prints on
  | blankOutput => exact ⟨_, rfl, blankOutput_prints on⟩

/-- A run of calls, by induction on the calls: the console stays set up for the screen, and
the stores stay in the buffer exactly where the cells do. -/
theorem runAll_operates (on : k.On s) (ops : List ConsoleOp) :
    ∃ k', ConsoleOp.runAll ops k = .ok k' ∧ Prints s k k' ∧
      (AllNew (ConsoleAccess s s.size) k.machine k'.machine ↔
        ConsoleOp.AllFit s ops k.cursor) := by
  induction ops generalizing k with
  | nil => exact ⟨k, rfl, Prints.refl on, iff_of_true (AllNew.refl _ _) trivial⟩
  | cons op ops ih =>
      obtain ⟨mid, runs, operates⟩ := run_operates on op
      obtain ⟨mid', runs', first⟩ := run_prints on op
      have same : mid' = mid := Except.ok.inj (runs'.symm.trans runs)
      rw [same] at first
      obtain ⟨k', later, rest, fits⟩ := ih operates.on
      refine ⟨k', bind_ok runs later, first.trans rest, ?_⟩
      rw [AllNew.trans_iff first.grows rest.grows, operates.accesses, fits, operates.cursor]
      exact Iff.rfl

/-- The pixel stores of a run stay in the buffer exactly where all of its accesses do. -/
theorem Prints.inBuffer_iff {k' : Console} (prints : Prints s k k') :
    AllNew (InBuffer s) k.machine k'.machine ↔
      AllNew (ConsoleAccess s s.size) k.machine k'.machine := by
  constructor
  · intro inside
    apply inside.mono₂ prints.accesses
    intro e pixel access stored
    have allowed := access stored
    split at allowed
    · next drawn => exact pixel drawn stored
    · exact allowed
    · exact allowed
  · intro inside
    apply inside.mono
    intro e access drawn stored
    have allowed := access stored
    rw [drawn] at allowed
    exact allowed

end Runs

/-- After `initialize_video`, calls to the console store only to pixels of the back buffer
if and only if each character is drawn where its cell lies in the buffer. -/
theorem drawsInBuffer_iff (s : Screen) (cr3 : BitVec 64) (m : KernelMachine)
    (ops : List ConsoleOp) :
    ∃ k k', initializeVideo cr3 s.mode (Console.loaded m) = .ok k ∧
      ConsoleOp.runAll ops k = .ok k' ∧
      (AllNew (InBuffer s) k.machine k'.machine ↔ ConsoleOp.AllFit s ops ⟨0, 0⟩) := by
  obtain ⟨k, starts, on, home⟩ := initializeVideo_on s cr3 m
  obtain ⟨k', runs, prints, fits⟩ := runAll_operates on ops
  refine ⟨k, k', starts, runs, ?_⟩
  rw [prints.inBuffer_iff, fits, home]

theorem secondChar_out_of_buffer :
    ∃ k k', initializeVideo 0 cellScreen.mode (Console.loaded ⟨fun _ => 0, []⟩) = .ok k ∧
      ConsoleOp.runAll [.kprint (ascii "AA")] k = .ok k' ∧
      ¬ AllNew (InBuffer cellScreen) k.machine k'.machine := by
  obtain ⟨k, starts, on, home⟩ := initializeVideo_on cellScreen 0 ⟨fun _ => 0, []⟩
  obtain ⟨k', runs, prints, fits⟩ := runAll_operates on [.kprint (ascii "AA")]
  refine ⟨k, k', starts, runs, ?_⟩
  rw [prints.inBuffer_iff, fits, home]
  intro fits
  have second : Cursor.CharFits cellScreen cellScreen.size 0x41 ⟨0, 9⟩ := by
    rcases fits.1 with null | ⟨-, null | ⟨second, -⟩⟩
    · exact absurd null (by decide)
    · exact absurd null (by decide)
    · exact second
  rcases second with null | ends | cell
  · exact absurd null (by decide)
  · exact absurd ends (by decide)
  · rw [Cursor.CellFits] at cell
    revert cell
    decide

end Flosp.Kernel
