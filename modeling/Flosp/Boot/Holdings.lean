import Flosp.Boot.Main
import Flosp.Lib.Contract

/-! What the bootloader holds: pool buffers it has been granted and files it has opened. -/

namespace Flosp.Boot

open Interaction ByteMemory

structure Holdings where
  /-- the size of the buffer that starts at an address -/
  pool : Addr → Option Nat
  files : List Addr

namespace Holdings

def none : Holdings := ⟨fun _ => Option.none, []⟩

def grant (a : Addr) (size : Nat) (h : Holdings) : Holdings :=
  { h with pool := Function.update h.pool a (some size) }

def release (a : Addr) (h : Holdings) : Holdings :=
  { h with pool := Function.update h.pool a Option.none }

def opens (file : Addr) (h : Holdings) : Holdings := { h with files := file :: h.files }

def closes (file : Addr) (h : Holdings) : Holdings := { h with files := h.files.erase file }

def Covers (h : Holdings) (a : Addr) (n : Nat) : Prop :=
  ∃ base size, h.pool base = some size ∧ (a - base).toNat + n ≤ size

/-- A call that succeeds is taken at its outputs. -/
def next (e : BootEvent) (h : Holdings) : Holdings :=
  match e with
  | ⟨.call (.allocatePool _ size), (_, some a)⟩ => h.grant a size.toNat
  | ⟨.call (.freePool a), _⟩ => h.release a
  | ⟨.call (.openVolume _), (_, some file)⟩ => h.opens file
  | ⟨.call (.openFile ..), (_, some file)⟩ => h.opens file
  | ⟨.call (.close file), _⟩ => h.closes file
  | _ => h

/-- Only buffers that are held are freed, filled and read, and only open files are used. -/
def Allows (e : BootEvent) (h : Holdings) : Prop :=
  match e.op with
  | .call (.freePool a) => h.pool a ≠ Option.none
  | .call (.openFile this ..) => this ∈ h.files
  | .call (.setPosition this _) => this ∈ h.files
  | .call (.read this size buffer) => this ∈ h.files ∧ h.Covers buffer size.toNat
  | .call (.close this) => this ∈ h.files
  | .call (.copyMem _ source length) => h.Covers source length.toNat
  | .call (.getMemoryMap size map) => size = 0 ∨ h.Covers map size.toNat
  | .load .elfIdentity a n | .load .elfHeader a n | .load .programHeaders a n => h.Covers a n
  | _ => True

/-- Buffers are granted, apart from those that are held, the volume is opened, and the ELF header
stays `header` once it is read. -/
def promised (header : Memory 64) (e : BootEvent) (h : Holdings) : Bool :=
  match e with
  | ⟨.call (.allocatePool ..), (_, out)⟩ =>
      match (out : Option Addr) with
      | some a => (h.pool a).isNone
      | Option.none => false
  | ⟨.call (.openVolume _), (_, out)⟩ => (out : Option Addr).isSome
  | ⟨.load .elfHeader a n, v⟩ =>
      let v : BitVec (8 * n) := v
      decide (v = ByteMemory.load header a n)
  | _ => true

def contract (header : Memory 64) : Contract BootEvent Holdings where
  next := next
  ok := Allows
  promise e h := promised header e h

instance (header : Memory 64) : ∀ e h, Decidable ((contract header).promise e h) :=
  fun e h => inferInstanceAs (Decidable (promised header e h = true))

end Holdings

/-- What the kernel gets: of the pool the back buffer and the memory map, and of the files only
the volume's root is still open. -/
structure HandedOver (bootInfo : KernelBootInfo) (h : Holdings) : Prop where
  backbuffer : h.pool bootInfo.videoModeInfo.backbufferPointer =
    some (backbufferSize bootInfo.videoModeInfo).toNat
  memoryMap : h.pool bootInfo.memoryMap ≠ none
  apart : bootInfo.memoryMap ≠ bootInfo.videoModeInfo.backbufferPointer
  others : ∀ a, a ≠ bootInfo.memoryMap → a ≠ bootInfo.videoModeInfo.backbufferPointer →
    h.pool a = none
  files : ∃ root, h.files = [root]

/-- `while(1)` asks nothing. -/
def Halt.Leaves : Halt → Holdings → Prop
  | .spin, _ => True
  | .enterKernel _ bootInfo, h => HandedOver bootInfo h

namespace Holdings

section Rules

variable {h : Holdings} {a b : Addr} {n m : Nat}

@[simp] theorem grant_pool_self : (h.grant a n).pool a = some n := Function.update_self ..

theorem grant_pool_other (other : b ≠ a) : (h.grant a n).pool b = h.pool b :=
  Function.update_of_ne other ..

@[simp] theorem grant_files : (h.grant a n).files = h.files := rfl

@[simp] theorem release_files : (h.release a).files = h.files := rfl

theorem release_grant (fresh : h.pool a = Option.none) : (h.grant a n).release a = h := by
  have same : Function.update (Function.update h.pool a (some n)) a Option.none = h.pool := by
    rw [Function.update_idem, ← fresh, Function.update_eq_self]
  exact congrArg (Holdings.mk · h.files) same

theorem release_grant_other (other : a ≠ b) :
    (h.grant b n).release a = (h.release a).grant b n :=
  congrArg (Holdings.mk · h.files) (Function.update_comm other.symm ..)

theorem closes_opens (file : Addr) (h : Holdings) : (h.opens file).closes file = h :=
  congrArg (Holdings.mk h.pool) (List.erase_cons_head ..)

theorem closes_grant (file a : Addr) (n : Nat) (h : Holdings) :
    (h.grant a n).closes file = (h.closes file).grant a n := rfl

theorem covers_grant (inside : m ≤ n) : (h.grant a n).Covers a m := by
  refine ⟨a, n, grant_pool_self, ?_⟩
  rw [BitVec.sub_self]
  simpa using inside

theorem covers_offset {i : Nat} (held : h.pool a = some n) (inside : i + m ≤ n) (small : i < 2 ^ 64) :
    h.Covers (a + BitVec.ofNat 64 i) m := by
  refine ⟨a, n, held, ?_⟩
  rw [BitVec.add_comm, BitVec.add_sub_cancel, BitVec.toNat_ofNat, Nat.mod_eq_of_lt small]
  exact inside

end Rules

end Holdings

/-! The parts of `efi_main`. -/

section Parts

variable {header : Memory 64} {h : Holdings} {α β : Type} {Q : β → Holdings → Prop}

/-- `p` keeps to the contract from `h` on and returns with `Q`. -/
abbrev Uses (header : Memory 64) (p : Program α) (h : Holdings) (Q : α → Holdings → Prop) : Prop :=
  p.Obeys (Holdings.contract header) Halt.Leaves h Q

abbrev Spares (header : Memory 64) (p : Program α) : Prop :=
  p.Idles (Holdings.contract header) Halt.Leaves

theorem uses_bind {p : Program α} {f : α → Program β} {R : α → Holdings → Prop}
    (first : Uses header p h R) (rest : ∀ a h', R a h' → Uses header (f a) h' Q) :
    Uses header (p >>= f) h Q :=
  Prog.Obeys.bind first rest

theorem Spares.uses_bind {p : Program α} {f : α → Program β} (first : Spares header p)
    (rest : ∀ a, Uses header (f a) h Q) : Uses header (p >>= f) h Q :=
  Prog.Idles.then first rest

@[simp] theorem uses_efiPrintChars_bind {s : List Char16} {f : Unit → Program β} :
    Uses header (efiPrintChars s >>= f) h Q ↔ Uses header (f ()) h Q := by
  constructor
  · intro uses
    exact (uses (efiSuccess, ()) rfl).2
  · intro rest reply _
    exact ⟨trivial, rest⟩

@[simp] theorem uses_efiPrint_bind {s : String} {f : Unit → Program β} :
    Uses header (efiPrint s >>= f) h Q ↔ Uses header (f ()) h Q := uses_efiPrintChars_bind

@[simp] theorem uses_efiPrintnum_bind {n : BitVec 64} {f : Unit → Program β} :
    Uses header (efiPrintnum n >>= f) h Q ↔ Uses header (f ()) h Q := uses_efiPrintChars_bind

@[simp] theorem uses_efiPrinthex_bind {v : BitVec 64} {zeroX : BitVec 8} {f : Unit → Program β} :
    Uses header (efiPrinthex v zeroX >>= f) h Q ↔ Uses header (f ()) h Q := by
  unfold efiPrinthex
  by_cases plain : zeroX ≠ 0
  · rw [if_pos plain, Prog.bind_assoc, uses_efiPrint_bind]
    exact uses_efiPrintChars_bind
  · rw [if_neg plain]
    exact uses_efiPrintChars_bind

theorem uses_callStatus_bind {c : Call} {f : EfiStatus → Program β}
    (allowed : ∀ reply, Holdings.Allows ⟨.call c, reply⟩ h)
    (still : ∀ reply, Holdings.next ⟨.call c, reply⟩ h = h)
    (rest : ∀ status, Uses header (f status) h Q) : Uses header (callStatus c >>= f) h Q := by
  intro reply _
  refine ⟨allowed reply, ?_⟩
  change Uses header (f reply.1) (Holdings.next ⟨.call c, reply⟩ h) Q
  rw [still reply]
  exact rest reply.1

theorem uses_callOut_bind {c : Call} {outputs : c.Out → α} {f : EfiStatus × α → Program β}
    (allowed : ∀ reply, Holdings.Allows ⟨.call c, reply⟩ h)
    (still : ∀ reply, Holdings.next ⟨.call c, reply⟩ h = h)
    (rest : ∀ reply, Uses header (f reply) h Q) : Uses header (callOut c outputs >>= f) h Q := by
  intro reply _
  refine ⟨allowed reply, ?_⟩
  change Uses header (f (reply.1, outputs reply.2)) (Holdings.next ⟨.call c, reply⟩ h) Q
  rw [still reply]
  exact rest _

theorem uses_load_bind {region : Region} {a : Addr} {n : Nat} {f : BitVec (8 * n) → Program β}
    (allowed : ∀ v, Holdings.Allows ⟨.load region a n, v⟩ h)
    (rest : ∀ v, Uses header (f v) h Q) : Uses header (load region a n >>= f) h Q :=
  fun v _ => ⟨allowed v, rest v⟩

theorem uses_loadField_bind {region : Region} {base : Addr} {field : Field}
    {f : BitVec (8 * field.size) → Program β}
    (allowed : ∀ v, Holdings.Allows
      ⟨.load region (base + BitVec.ofNat 64 field.offset) field.size, v⟩ h)
    (rest : ∀ v, Uses header (f v) h Q) : Uses header (loadField region base field >>= f) h Q :=
  uses_load_bind allowed rest

theorem Holdings.promised_header {a : Addr} {n : Nat} {v : BitVec (8 * n)}
    (promised : Holdings.promised header ⟨.load .elfHeader a n, v⟩ h = true) :
    v = ByteMemory.load header a n :=
  of_decide_eq_true promised

theorem uses_headerField_bind {base : Addr} {field : Field}
    {f : BitVec (8 * field.size) → Program β}
    (covers : h.Covers (base + BitVec.ofNat 64 field.offset) field.size)
    (rest : Uses header (f (field.read header base)) h Q) :
    Uses header (loadField .elfHeader base field >>= f) h Q := by
  intro v promised
  have same : v = field.read header base := Holdings.promised_header promised
  exact ⟨covers, same ▸ rest⟩

theorem uses_allocatePool_bind {poolType : EfiMemoryType} {size : BitVec 64} {old : Addr}
    {f : EfiStatus × Addr → Program β}
    (rest : ∀ status a, h.pool a = none → Uses header (f (status, a)) (h.grant a size.toNat) Q) :
    Uses header (allocatePool poolType size old >>= f) h Q := by
  rintro ⟨status, out⟩ promised
  refine ⟨trivial, ?_⟩
  cases out with
  | none => cases promised
  | some a => exact rest status a (Option.isNone_iff_eq_none.mp promised)

theorem uses_freePool_bind {buffer : Addr} {f : EfiStatus → Program β}
    (held : h.pool buffer ≠ none) (rest : ∀ status, Uses header (f status) (h.release buffer) Q) :
    Uses header (freePool buffer >>= f) h Q :=
  fun reply _ => ⟨held, rest reply.1⟩

theorem uses_openVolume_bind {this old : Addr} {f : EfiStatus × Addr → Program β}
    (rest : ∀ status root, Uses header (f (status, root)) (h.opens root) Q) :
    Uses header (openVolume this old >>= f) h Q := by
  rintro ⟨status, out⟩ promised
  refine ⟨trivial, ?_⟩
  cases out with
  | none => cases promised
  | some root => exact rest status root

theorem uses_openFile_bind {this old : Addr} {fileName : List Char16}
    {openMode attributes : BitVec 64} {f : EfiStatus × Addr → Program β} (root : this ∈ h.files)
    (missing : ∀ status, Uses header (f (status, old)) h Q)
    (opened : ∀ status file, Uses header (f (status, file)) (h.opens file) Q) :
    Uses header (openFile this fileName openMode attributes old >>= f) h Q := by
  rintro ⟨status, out⟩ -
  refine ⟨root, ?_⟩
  cases out with
  | none => exact missing status
  | some file => exact opened status file

theorem uses_close_bind {file : Addr} {f : EfiStatus → Program β} (opened : file ∈ h.files)
    (rest : ∀ status, Uses header (f status) (h.closes file) Q) :
    Uses header (close file >>= f) h Q :=
  fun reply _ => ⟨opened, rest reply.1⟩

theorem uses_store_bind {region : Region} {a : Addr} {n : Nat} {v : BitVec (8 * n)}
    {f : Unit → Program β} (rest : Uses header (f ()) h Q) :
    Uses header (store region a n v >>= f) h Q :=
  fun _ _ => ⟨trivial, rest⟩

theorem uses_spin_bind {f : α → Program β} : Uses header (spin >>= f) h Q := trivial

end Parts

end Flosp.Boot
