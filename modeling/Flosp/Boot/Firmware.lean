import Flosp.Boot.Effects

/-! The firmware under the loader: boot services and one open file, as the UEFI
interface documents them, on a machine on which every call of the loader succeeds. -/

namespace Flosp.Boot

open Interaction ByteMemory

structure KernelFile where
  size : Nat
  byte : Nat → BitVec 8
  bounded : size < 2 ^ 64

/-- Where `SetPosition` moves the file: the all-ones position stands for the end. -/
def KernelFile.seek (file : KernelFile) (position : BitVec 64) : Nat :=
  if position = BitVec.allOnes 64 then file.size else position.toNat

/-- The number of bytes a read of `n` bytes at `position` delivers. -/
def KernelFile.delivered (file : KernelFile) (position n : Nat) : Nat :=
  min n (file.size - position)

/-- Memory, the position in the file, the allocated pages, and the size of the live pool
buffer at each address. -/
structure Firmware where
  mem : Memory 64
  position : Nat
  pages : Addr → Prop
  pool : Addr → Nat

namespace Firmware

def Pooled (s : Firmware) (x : Addr) : Prop := ∃ b, Within x b (s.pool b)

def Free (s : Firmware) (a : Addr) (n : Nat) : Prop :=
  ∀ x, Within x a n → ¬ s.pages x ∧ ¬ s.Pooled x

def setPool (s : Firmware) (b : Addr) (n : Nat) : Addr → Nat :=
  fun b' => if b' = b then n else s.pool b'

def KeepsOutside (s : Firmware) (mem : Memory 64) (a : Addr) (n : Nat) : Prop :=
  ∀ x, ¬ Within x a n → mem x = s.mem x

end Firmware

def pageSize : Nat := 4096

/-- The first `AllocatePages` byte count `n` stands for. -/
def pageBytes (pages : BitVec 64) : Nat := pageSize * pages.toNat

/-- What one event does to the firmware. A pool buffer starts at a multiple of eight, lies
apart from everything allocated and has arbitrary contents. `FreePool` may scribble over
the buffer, and `Read` over the part of it that the file does not reach. -/
def Uefi (file : KernelFile) (e : BootEvent) (s s' : Firmware) : Prop :=
  match e with
  | ⟨.load _ a n, v⟩ => v = ByteMemory.load s.mem a n ∧ s' = s
  | ⟨.store _ a _ v, _⟩ => s' = { s with mem := ByteMemory.store s.mem a v }
  | ⟨.call (.outputString _), _⟩ => s' = s
  | ⟨.call (.openFile ..), (status, out)⟩ =>
      ¬ Failed status ∧ (∃ handle, out = some handle ∧ handle ≠ 0) ∧ s' = { s with position := 0 }
  | ⟨.call (.close _), (status, _)⟩ => ¬ Failed status ∧ s' = s
  | ⟨.call (.setPosition _ position), (status, _)⟩ =>
      ¬ Failed status ∧ s' = { s with position := file.seek position }
  | ⟨.call (.allocatePages .allocateAddress _ pages memory), (status, out)⟩ =>
      ¬ Failed status ∧ out.getD memory = memory ∧ s.Free memory (pageBytes pages) ∧
        s' = { s with pages := fun x => s.pages x ∨ Within x memory (pageBytes pages) }
  | ⟨.call (.allocatePool _ size), (status, out)⟩ =>
      ¬ Failed status ∧ ∃ b mem, out = some b ∧ b ≠ 0 ∧ b.toNat % 8 = 0 ∧
        b.toNat + size.toNat ≤ 2 ^ 64 ∧ s.pool b = 0 ∧ s.Free b size.toNat ∧
        s.KeepsOutside mem b size.toNat ∧ s' = { s with mem, pool := s.setPool b size.toNat }
  | ⟨.call (.read _ size buffer), (status, out)⟩ =>
      let count := file.delivered s.position size.toNat
      ((s.position ≤ file.size → ¬ Failed status) ∧
          (¬ Failed status → (out.getD size).toNat = count)) ∧
        ∃ mem, (∀ i, i < count → mem (buffer + BitVec.ofNat 64 i) = file.byte (s.position + i)) ∧
          s.KeepsOutside mem buffer size.toNat ∧
          s' = { s with mem, position := s.position + count }
  | ⟨.call (.freePool buffer), (status, _)⟩ =>
      ¬ Failed status ∧ ∃ mem, s.KeepsOutside mem buffer (s.pool buffer) ∧
        s' = { s with mem, pool := s.setPool buffer 0 }
  | ⟨.call (.copyMem destination source length), (status, _)⟩ =>
      ¬ Failed status ∧ s' = { s with mem := copy s.mem destination source length.toNat }
  | ⟨.call (.setMem buffer size value), (status, _)⟩ =>
      ¬ Failed status ∧ s' = { s with mem := fill s.mem buffer size.toNat value }
  -- the loader makes no other call
  | _ => False

theorem uefi_silent {file : KernelFile} (e : BootEvent) (s s' : Firmware)
    (silent : effective e = false) (step : Uefi file e s s') : s' = s := by
  rcases e with ⟨op, reply⟩
  cases op with
  | load region a n => cases silent
  | store region a n v => cases silent
  | call c =>
      cases c with
      | outputString string => exact step
      | _ => cases silent

theorem does_of_runs {file : KernelFile} {α : Type} {p : Program α} {t : Trace} {r : Except Halt α}
    {s s' : Firmware} (runs : Runs p t r) (follows : Follows (Uefi file) t s s') :
    Does p (t.filter effective) r ∧ Follows (Uefi file) (t.filter effective) s s' :=
  ⟨runs.keeping, follows.filter uefi_silent⟩

end Flosp.Boot
