import Flosp.Boot.Main
import Flosp.Kernel.Console

/-! `flush_framebuffer` and the back buffer that the bootloader allocates for it. -/

namespace Flosp.Kernel

open ByteMemory

/-- The kernel's declaration of the structure lays out the same members. -/
def BootVideoModeInfo.ofBoot (mode : Boot.KernelBootVideoModeInfo) : BootVideoModeInfo where
  framebufferPointer := mode.framebufferPointer
  backbufferPointer := mode.backbufferPointer
  horizontalResolution := mode.horizontalResolution
  verticalResolution := mode.verticalResolution
  pixelsPerScanline := mode.pixelsPerScanline

/-- The framebuffer shows the whole back buffer, and no byte outside the two was touched. -/
structure FlushesScreen (mode : Boot.KernelBootVideoModeInfo) (k : Console) : Prop where
  shown : ∀ i, i < (Boot.backbufferSize mode).toNat →
    (flushFramebuffer k).machine.mem (mode.framebufferPointer + BitVec.ofNat 64 i) =
      k.machine.mem (mode.backbufferPointer + BitVec.ofNat 64 i)
  confined : AllNew (Confined .flush mode.backbufferPointer (Boot.backbufferSize mode).toNat
    mode.framebufferPointer (Boot.backbufferSize mode).toNat) k.machine
    (flushFramebuffer k).machine

section Flush

variable {mode : Boot.KernelBootVideoModeInfo}

theorem product_toNat (a b : BitVec 32) : (a * b * 4).toNat = a.toNat * b.toNat * 4 % 2 ^ 32 := by
  rw [BitVec.toNat_mul, BitVec.toNat_mul, Nat.mod_mul_mod]
  rfl

theorem backbufferSize_toNat
    (small : mode.pixelsPerScanline.toNat * mode.verticalResolution.toNat * 4 < 2 ^ 32) :
    (Boot.backbufferSize mode).toNat =
      mode.pixelsPerScanline.toNat * mode.verticalResolution.toNat * 4 := by
  rw [Boot.backbufferSize, product_toNat, Nat.mul_comm mode.verticalResolution.toNat,
    Nat.mod_eq_of_lt small]

def flushedBytes (mode : Boot.KernelBootVideoModeInfo) : BitVec 32 :=
  mode.pixelsPerScanline * mode.horizontalResolution * 4

theorem flush_machine {k : Console} (set : k.videoModeInfo = .ofBoot mode) :
    (flushFramebuffer k).machine = (memcpy .flush mode.backbufferPointer mode.framebufferPointer
      (flushedBytes mode) k.machine).2 := by
  rw [flushFramebuffer, set]
  rfl

def markedConsole (mode : Boot.KernelBootVideoModeInfo) (a : Addr) : Console :=
  { Console.loaded ⟨fun x => if x = a then 1 else 0, []⟩ with videoModeInfo := .ofBoot mode }

/-- The flush is exact on every content of the back buffer if and only if its byte count is
the size of the buffer: it multiplies by the horizontal resolution, not the vertical one. -/
theorem flushesScreen_iff
    (small : mode.pixelsPerScanline.toNat * mode.verticalResolution.toNat * 4 < 2 ^ 32)
    (apart : Apart mode.framebufferPointer (Boot.backbufferSize mode).toNat
      mode.backbufferPointer (Boot.backbufferSize mode).toNat) :
    (∀ k : Console, k.videoModeInfo = .ofBoot mode → FlushesScreen mode k) ↔
      mode.pixelsPerScanline.toNat * mode.horizontalResolution.toNat * 4 % 2 ^ 32 =
        mode.pixelsPerScanline.toNat * mode.verticalResolution.toNat * 4 := by
  rw [← backbufferSize_toNat small, ← product_toNat, ← flushedBytes]
  have bound := (Boot.backbufferSize mode).isLt
  have forward (n : Nat) (fits : n ≤ (Boot.backbufferSize mode).toNat) :
      Forward mode.framebufferPointer mode.backbufferPointer n :=
    (Forward.of_apart apart).mono fits
  constructor
  · intro flushes_all
    let missed := BitVec.ofNat 64 (flushedBytes mode).toNat
    have flushes := flushes_all (markedConsole mode (mode.backbufferPointer + missed)) rfl
    have confined := flushes.confined
    rw [flush_machine rfl, memcpy_confined_iff] at confined
    by_contra different
    have short : (flushedBytes mode).toNat < (Boot.backbufferSize mode).toNat := by omega
    have shown := flushes.shown _ short
    have outside : ¬ Within (mode.framebufferPointer + missed) mode.framebufferPointer
        (flushedBytes mode).toNat := by
      rw [within_offset_iff (by omega)]
      omega
    have distinct : mode.framebufferPointer + missed ≠ mode.backbufferPointer + missed := by
      intro same
      apply apart (mode.framebufferPointer + missed) (within_offset short (by omega))
      rw [same]
      exact within_offset short (by omega)
    rw [flush_machine rfl, memcpy_mem (forward _ confined.1), copy_outside outside] at shown
    have blank : (markedConsole mode (mode.backbufferPointer + missed)).machine.mem
        (mode.framebufferPointer + missed) = 0 := if_neg distinct
    have marked : (markedConsole mode (mode.backbufferPointer + missed)).machine.mem
        (mode.backbufferPointer + missed) = 1 := if_pos rfl
    exact absurd (blank.symm.trans (shown.trans marked)) (by decide)
  · intro same k set
    constructor
    · intro i inside
      rw [flush_machine set, memcpy_mem (forward _ (by omega)), same,
        copy_offset _ _ _ inside (by omega)]
    · rw [flush_machine set, memcpy_confined_iff]
      omega

end Flush

def squareMode : Boot.KernelBootVideoModeInfo where
  framebufferPointer := 0xC0000000
  backbufferPointer := 0x1000000
  horizontalResolution := 1024
  verticalResolution := 1024
  pixelsPerScanline := 1024

theorem buffers_apart {f b : Addr} {n : Nat} (below : b.toNat + n ≤ f.toNat)
    (straight : f.toNat + n ≤ 2 ^ 64) : Apart f n b n := by
  intro x inside other
  rw [within_iff_toNat (by omega)] at inside other
  omega

theorem squareMode_flushes : FlushesScreen squareMode (markedConsole squareMode 0x1000000) :=
  (flushesScreen_iff (by decide) (buffers_apart (by decide) (by decide))).mpr (by decide) _ rfl

/-- The mode that the bootloader asks for. -/
def targetMode : Boot.KernelBootVideoModeInfo where
  framebufferPointer := 0xC0000000
  backbufferPointer := 0x1000000
  horizontalResolution := Boot.targetScreenWidth
  verticalResolution := Boot.targetScreenHeight
  pixelsPerScanline := Boot.targetScreenWidth

theorem targetMode_reads_past : ¬ FlushesScreen targetMode (markedConsole targetMode 0) := by
  intro flushes
  have confined := flushes.confined
  rw [flush_machine rfl, memcpy_confined_iff] at confined
  revert confined
  decide

end Flosp.Kernel
