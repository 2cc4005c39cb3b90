import Flosp.Boot.Firmware

/-! A firmware that answers by a function. It hands out pool buffers upwards from 4 GiB
and never reuses one, and grants pages below 4 GiB in rising order. -/

namespace Flosp.Boot

open Interaction ByteMemory

structure BumpFirmware where
  firmware : Firmware
  /-- the first address above all pool buffers -/
  nextBuffer : Nat
  /-- the first address above all granted pages -/
  nextPage : Nat

namespace BumpFirmware

def poolStart : Nat := 2 ^ 32
def poolEnd : Nat := 2 ^ 62

structure Valid (b : BumpFirmware) : Prop where
  aligned : b.nextBuffer % 8 = 0
  above : poolStart ≤ b.nextBuffer
  below : b.nextBuffer ≤ poolEnd
  pool : ∀ a, b.firmware.pool a ≠ 0 →
    poolStart ≤ a.toNat ∧ a.toNat + b.firmware.pool a ≤ b.nextBuffer
  pages : ∀ x, b.firmware.pages x → x.toNat < b.nextPage
  low : b.nextPage ≤ poolStart

def alignUp (n : Nat) : Nat := (n + 7) / 8 * 8

def handle (file : KernelFile) (o : Op) (b : BumpFirmware) : Reply o × BumpFirmware :=
  let s := b.firmware
  match o with
  | .load _ a n => (ByteMemory.load s.mem a n, b)
  | .store _ a _ v => ((), { b with firmware := { s with mem := ByteMemory.store s.mem a v } })
  | .call c =>
      match c with
      | .openFile .. =>
          ((efiSuccess, some 0x100), { b with firmware := { s with position := 0 } })
      | .setPosition _ position =>
          ((efiSuccess, ()), { b with firmware := { s with position := file.seek position } })
      | .allocatePages _ _ pages memory =>
          ((efiSuccess, none),
            { b with
              firmware := { s with pages := fun x => s.pages x ∨ Within x memory (pageBytes pages) }
              nextPage := memory.toNat + pageBytes pages })
      | .allocatePool _ size =>
          let buffer := BitVec.ofNat 64 b.nextBuffer
          ((efiSuccess, some buffer),
            { b with
              firmware := { s with pool := s.setPool buffer size.toNat }
              nextBuffer := alignUp (b.nextBuffer + size.toNat) })
      | .read _ size buffer =>
          let count := file.delivered s.position size.toNat
          ((efiSuccess, some (BitVec.ofNat 64 count)),
            { b with firmware := { s with
                mem := fun x =>
                  if Within x buffer count then file.byte (s.position + (x - buffer).toNat)
                  else s.mem x
                position := s.position + count } })
      | .freePool buffer =>
          ((efiSuccess, ()), { b with firmware := { s with pool := s.setPool buffer 0 } })
      | .copyMem destination source length =>
          ((efiSuccess, ()),
            { b with firmware := { s with mem := copy s.mem destination source length.toNat } })
      | .setMem buffer size value =>
          ((efiSuccess, ()),
            { b with firmware := { s with mem := fill s.mem buffer size.toNat value } })
      | c => ((efiSuccess, c.noOutput), b)

def allow (o : Op) (b : BumpFirmware) : Bool :=
  match o with
  | .load .. | .store .. => true
  | .call (.allocatePages .allocateAddress _ pages memory) =>
      b.nextPage ≤ memory.toNat && memory.toNat + pageBytes pages ≤ poolStart
  | .call (.allocatePool _ size) => alignUp (b.nextBuffer + size.toNat) ≤ poolEnd
  | .call (.outputString _) | .call (.openFile ..) | .call (.close _) | .call (.setPosition ..)
  | .call (.read ..) | .call (.freePool _) | .call (.copyMem ..) | .call (.setMem ..) => true
  | _ => false

section Laws

variable {file : KernelFile} {b : BumpFirmware}

theorem not_failed_success : ¬ Failed efiSuccess := by decide

theorem alignUp_bounds (n : Nat) : n ≤ alignUp n ∧ alignUp n % 8 = 0 := by
  rw [alignUp]
  omega

theorem Valid.buffer_toNat (valid : b.Valid) :
    (BitVec.ofNat 64 b.nextBuffer).toNat = b.nextBuffer := by
  have bound : b.nextBuffer ≤ 2 ^ 62 := valid.below
  rw [BitVec.toNat_ofNat, Nat.mod_eq_of_lt (by omega)]

theorem Valid.pooled (valid : b.Valid) {x : Addr} (pooled : b.firmware.Pooled x) :
    poolStart ≤ x.toNat ∧ x.toNat < b.nextBuffer := by
  rcases pooled with ⟨a, inside⟩
  have live : b.firmware.pool a ≠ 0 := by
    intro empty
    rw [empty] at inside
    exact not_within_zero _ _ inside
  have range := valid.pool a live
  have below : b.nextBuffer ≤ 2 ^ 62 := valid.below
  have between := (within_iff_toNat (by omega)).mp inside
  omega

theorem handle_allocatePool {type : EfiMemoryType} {size : BitVec 64}
    (allowed : allow (.call (.allocatePool type size)) b) (valid : b.Valid) :
    Uefi file ⟨.call (.allocatePool type size),
        (handle file (.call (.allocatePool type size)) b).1⟩ b.firmware
        (handle file (.call (.allocatePool type size)) b).2.firmware ∧
      (handle file (.call (.allocatePool type size)) b).2.Valid := by
  have room : alignUp (b.nextBuffer + size.toNat) ≤ 2 ^ 62 := of_decide_eq_true allowed
  have up := alignUp_bounds (b.nextBuffer + size.toNat)
  have start := valid.buffer_toNat
  have above : 2 ^ 32 ≤ b.nextBuffer := valid.above
  have low : b.nextPage ≤ 2 ^ 32 := valid.low
  have unused : b.firmware.pool (BitVec.ofNat 64 b.nextBuffer) = 0 := by
    by_contra live
    have range := valid.pool _ live
    omega
  constructor
  · refine ⟨not_failed_success, BitVec.ofNat 64 b.nextBuffer, b.firmware.mem, rfl, ?_, ?_, ?_,
      unused, ?_, fun _ _ => rfl, rfl⟩
    · intro zero
      rw [zero] at start
      change 0 = b.nextBuffer at start
      omega
    · rw [start]
      exact valid.aligned
    · rw [start]
      omega
    · intro x inside
      have between := (within_iff_toNat (by omega)).mp inside
      rw [start] at between
      constructor
      · intro page
        have below := valid.pages x page
        omega
      · intro pooled
        have below := (valid.pooled pooled).2
        omega
  · refine ⟨up.2, ?_, room, ?_, valid.pages, valid.low⟩
    · exact Nat.le_trans valid.above (by change b.nextBuffer ≤ alignUp _; omega)
    · intro a live
      change b.firmware.setPool _ _ a ≠ 0 at live
      change poolStart ≤ a.toNat ∧ a.toNat + b.firmware.setPool _ _ a ≤ alignUp _
      by_cases same : a = BitVec.ofNat 64 b.nextBuffer
      · rw [Firmware.setPool, if_pos same, same, start]
        exact ⟨valid.above, up.1⟩
      · rw [Firmware.setPool, if_neg same] at live ⊢
        have range := valid.pool a live
        exact ⟨range.1, by omega⟩

theorem handle_allocatePages {type : EfiMemoryType} {pages memory : BitVec 64}
    (allowed : allow (.call (.allocatePages .allocateAddress type pages memory)) b)
    (valid : b.Valid) :
    Uefi file ⟨.call (.allocatePages .allocateAddress type pages memory),
        (handle file (.call (.allocatePages .allocateAddress type pages memory)) b).1⟩ b.firmware
        (handle file (.call (.allocatePages .allocateAddress type pages memory)) b).2.firmware ∧
      (handle file (.call (.allocatePages .allocateAddress type pages memory)) b).2.Valid := by
  rcases Bool.and_eq_true_iff.mp allowed with ⟨next, room⟩
  have rising : b.nextPage ≤ memory.toNat := of_decide_eq_true next
  have fits : memory.toNat + pageBytes pages ≤ 2 ^ 32 := of_decide_eq_true room
  constructor
  · refine ⟨not_failed_success, rfl, ?_, rfl⟩
    intro x inside
    have between := (within_iff_toNat (by omega)).mp inside
    constructor
    · intro page
      have below := valid.pages x page
      omega
    · intro pooled
      have above : 2 ^ 32 ≤ x.toNat := (valid.pooled pooled).1
      omega
  · refine ⟨valid.aligned, valid.above, valid.below, valid.pool, ?_, fits⟩
    intro x either
    change x.toNat < memory.toNat + pageBytes pages
    rcases either with page | inside
    · have below := valid.pages x page
      omega
    · exact ((within_iff_toNat (by omega)).mp inside).2

theorem handle_freePool {buffer : Addr} (valid : b.Valid) :
    Uefi file ⟨.call (.freePool buffer), (handle file (.call (.freePool buffer)) b).1⟩ b.firmware
        (handle file (.call (.freePool buffer)) b).2.firmware ∧
      (handle file (.call (.freePool buffer)) b).2.Valid := by
  constructor
  · exact ⟨not_failed_success, b.firmware.mem, fun _ _ => rfl, rfl⟩
  · refine ⟨valid.aligned, valid.above, valid.below, ?_, valid.pages, valid.low⟩
    intro a live
    change b.firmware.setPool _ _ a ≠ 0 at live
    change poolStart ≤ a.toNat ∧ a.toNat + b.firmware.setPool _ _ a ≤ b.nextBuffer
    by_cases same : a = buffer
    · rw [Firmware.setPool, if_pos same] at live
      exact absurd rfl live
    · rw [Firmware.setPool, if_neg same] at live ⊢
      exact valid.pool a live

theorem handle_read {this buffer : Addr} {size : BitVec 64} (valid : b.Valid) :
    Uefi file ⟨.call (.read this size buffer), (handle file (.call (.read this size buffer)) b).1⟩
        b.firmware (handle file (.call (.read this size buffer)) b).2.firmware ∧
      (handle file (.call (.read this size buffer)) b).2.Valid := by
  have count : file.delivered b.firmware.position size.toNat ≤ size.toNat := Nat.min_le_left ..
  have bound := size.isLt
  constructor
  · refine ⟨⟨fun _ => not_failed_success, fun _ => ?_⟩, _, ?_, ?_, rfl⟩
    · exact Nat.mod_eq_of_lt (Nat.lt_of_le_of_lt count bound)
    · intro i inside
      have index : (BitVec.ofNat 64 i).toNat = i := Nat.mod_eq_of_lt (by omega)
      rw [if_pos (within_offset inside (by omega)), offset_sub, index]
    · intro x outside
      exact if_neg fun inside => outside (inside.mono count)
  · exact ⟨valid.aligned, valid.above, valid.below, valid.pool, valid.pages, valid.low⟩

theorem lawful (o : Op) (b : BumpFirmware) (allowed : allow o b) (valid : b.Valid) :
    Uefi file ⟨o, (handle file o b).1⟩ b.firmware (handle file o b).2.firmware ∧
      (handle file o b).2.Valid := by
  have same : ∀ s : Firmware, s.pool = b.firmware.pool → s.pages = b.firmware.pages →
      ({ b with firmware := s } : BumpFirmware).Valid := by
    intro s pool pages
    exact ⟨valid.aligned, valid.above, valid.below, by rw [pool]; exact valid.pool,
      by rw [pages]; exact valid.pages, valid.low⟩
  cases o with
  | load region a n => exact ⟨⟨rfl, rfl⟩, valid⟩
  | store region a n v => exact ⟨rfl, same _ rfl rfl⟩
  | call c =>
      cases c with
      | outputString string => exact ⟨rfl, valid⟩
      | openFile this name mode attributes =>
          exact ⟨⟨not_failed_success, ⟨0x100, rfl, by decide⟩, rfl⟩, same _ rfl rfl⟩
      | close this => exact ⟨⟨not_failed_success, rfl⟩, valid⟩
      | setPosition this position => exact ⟨⟨not_failed_success, rfl⟩, same _ rfl rfl⟩
      | allocatePages type memoryType pages memory =>
          cases type with
          | allocateAddress => exact handle_allocatePages allowed valid
          | allocateAnyPages => cases allowed
          | allocateMaxAddress => cases allowed
      | allocatePool type size => exact handle_allocatePool allowed valid
      | read this size buffer => exact handle_read valid
      | freePool buffer => exact handle_freePool valid
      | copyMem destination source length => exact ⟨⟨not_failed_success, rfl⟩, same _ rfl rfl⟩
      | setMem buffer size value => exact ⟨⟨not_failed_success, rfl⟩, same _ rfl rfl⟩
      | _ => cases allowed

theorem follows {α : Type} {p : Program α} (valid : b.Valid)
    (all : allowed (handle file) allow p b) :
    Follows (Uefi file) (exec (handle file) p b).1 b.firmware
      (exec (handle file) p b).2.2.firmware :=
  exec_follows BumpFirmware.firmware lawful valid all

end Laws

end BumpFirmware

end Flosp.Boot
