import Flosp.Boot.Truncation

/-! The check of the kernel file's identity. Its first refusal returns the status of success,
and `load_kernel` recognises none of the others. -/

namespace Flosp.Boot

open Interaction ByteMemory

/-- `ELFIDBuffer[i]` -/
def identityByte (m : Memory 64) (elfIdBuffer : Addr) (i : Nat) : BitVec 8 :=
  (Elf64Ehdr.eIdent i).read m elfIdBuffer

def ElfMagic (m : Memory 64) (elfIdBuffer : Addr) : Prop :=
  identityByte m elfIdBuffer 0 = 0x7F ∧ identityByte m elfIdBuffer 1 = 0x45 ∧
    identityByte m elfIdBuffer 2 = 0x4C ∧ identityByte m elfIdBuffer 3 = 0x46

def ElfIdentity (m : Memory 64) (elfIdBuffer : Addr) : Prop :=
  ElfMagic m elfIdBuffer ∧ identityByte m elfIdBuffer 4 = 2 ∧ identityByte m elfIdBuffer 5 = 1

instance (m : Memory 64) (elfIdBuffer : Addr) : Decidable (ElfMagic m elfIdBuffer) :=
  inferInstanceAs (Decidable (_ ∧ _))

instance (m : Memory 64) (elfIdBuffer : Addr) : Decidable (ElfIdentity m elfIdBuffer) :=
  inferInstanceAs (Decidable (_ ∧ _))

/-- The file has an identity, and it is that of a 64-bit LSB file. -/
structure KernelFile.Identified (file : KernelFile) : Prop where
  size : 16 ≤ file.size
  bytes : ElfIdentity file.image 0

def Succeeds (r : Except Halt EfiStatus) : Prop := ∃ status, r = .ok status ∧ ¬ Failed status

def writesKernel : BootEvent → Bool
  | ⟨.call (.copyMem ..), _⟩ => true
  | ⟨.call (.setMem ..), _⟩ => true
  | _ => false

/-- `load_kernel` returns an error with no page allocated and no kernel memory written. -/
def KernelRefused (t : Trace) (r : Except Halt EfiStatus) (s s' : Firmware) : Prop :=
  (∃ status, r = .ok status ∧ Failed status) ∧ s'.pages = s.pages ∧
    ∀ e ∈ t, writesKernel e = false

/-- The check, run with the result `checked`, accepts the file exactly when it is identified,
and the run `t` of `load_kernel` refuses the file when it is not. -/
def IdentityExact (file : KernelFile) (checked : Except Halt EfiStatus) (t : Trace)
    (r : Except Halt EfiStatus) (s s' : Firmware) : Prop :=
  (Succeeds checked ↔ file.Identified) ∧ (¬ file.Identified → KernelRefused t r s s')

section Check

variable {file : KernelFile} {elfIdBuffer : Addr} {t : Trace} {u v : Firmware}

theorem identityByte_loaded {i : Nat} {b : BitVec 8} {rest : Trace}
    (follows : Follows (Uefi file) (identityEvent elfIdBuffer i b :: rest) u v) :
    b = identityByte u.mem elfIdBuffer i ∧ Follows (Uefi file) rest u v := by
  rcases follows with ⟨_, ⟨value, stays⟩, after⟩
  rw [stays] at after
  exact ⟨value, after⟩

theorem anyDiffers_follows {expected : List (Nat × BitVec 8)} {r : Except Halt Bool}
    (does : Does (anyDiffers elfIdBuffer expected) t r) (follows : Follows (Uefi file) t u v) :
    ∃ differs, r = .ok differs ∧ v = u ∧
      (differs = false ↔ ∀ e ∈ expected, identityByte u.mem elfIdBuffer e.1 = e.2) := by
  induction expected generalizing t with
  | nil =>
      rcases runsKeeping_ret.mp does with ⟨rfl, rfl⟩
      exact ⟨false, rfl, follows, by simp⟩
  | cons e tail ih =>
      rw [List.forall_mem_cons]
      rcases does_anyDiffers_cons does with ⟨b, rest, rfl, branch⟩
      rcases identityByte_loaded follows with ⟨byte, after⟩
      rw [← byte]
      rcases branch with ⟨differs, rfl, rfl⟩ | ⟨same, later⟩
      · exact ⟨true, rfl, after, by simp [differs]⟩
      · rcases ih later after with ⟨result, ended, unmoved, all⟩
        exact ⟨result, ended, unmoved, by rw [all, and_iff_right same]⟩

theorem magic_expected {m : Memory 64} :
    (∀ e ∈ [(eiMag0, (0x7F : BitVec 8)), (eiMag1, 0x45), (eiMag2, 0x4C), (eiMag3, 0x46)],
      identityByte m elfIdBuffer e.1 = e.2) ↔ ElfMagic m elfIdBuffer := by
  simp only [List.forall_mem_cons, List.not_mem_nil, false_implies, implies_true, and_true]
  rfl

/-- A wrong magic is accepted, and otherwise the class and the data byte decide. -/
theorem validateElfIdentity_follows {r : Except Halt EfiStatus}
    (does : Does (validateElfIdentity elfIdBuffer) t r) (follows : Follows (Uefi file) t u v) :
    Succeeds r ↔ (ElfMagic u.mem elfIdBuffer → ElfIdentity u.mem elfIdBuffer) := by
  have refused (a : BitVec 64) : ¬ Succeeds (.ok (efiErr a)) := by
    intro succeeds
    rcases succeeds with ⟨status, same, proper⟩
    cases same
    exact proper (failed_efiErr a)
  have accepted : Succeeds (.ok efiSuccess) := ⟨efiSuccess, rfl, by decide⟩
  rcases validateElfIdentity_cases does with ⟨magic, rest, differs, rfl, magicDoes, branch⟩
  rcases follows_append.mp follows with ⟨mid, magicFollows, after⟩
  rcases anyDiffers_follows magicDoes magicFollows with ⟨_, ended, rfl, same⟩
  cases ended
  rw [magic_expected] at same
  rcases branch with ⟨rfl, -, rfl⟩ | ⟨rfl, elfClass, branch⟩
  · have wrong : ¬ ElfMagic mid.mem elfIdBuffer := by
      intro right
      cases same.mpr right
    exact iff_of_true accepted fun right => absurd right wrong
  · have right : ElfMagic mid.mem elfIdBuffer := same.mp rfl
    rcases branch with ⟨narrow, rfl, rfl⟩ | ⟨wide, elfData, rfl, rfl⟩
    · rcases identityByte_loaded after with ⟨classByte, -⟩
      apply iff_of_false (refused 3)
      intro identity
      exact narrow (classByte.trans (identity right).2.1)
    · rcases identityByte_loaded after with ⟨classByte, after⟩
      rcases identityByte_loaded after with ⟨dataByte, -⟩
      by_cases other : elfData ≠ 1
      · rw [if_pos other]
        apply iff_of_false (refused 25)
        intro identity
        exact other (dataByte.trans (identity right).2.2)
      · rw [if_neg other]
        exact iff_of_true accepted
          fun _ => ⟨right, classByte.symm.trans wide, dataByte.symm.trans (not_not.mp other)⟩

end Check

theorem image_offset {file : KernelFile} {i : Nat} (small : i < 2 ^ 64) :
    file.image (0 + BitVec.ofNat 64 i) = file.byte i := by
  rw [KernelFile.image, zero_add, BitVec.toNat_ofNat, Nat.mod_eq_of_lt small]

theorem identity_congr {file : KernelFile} {m : Memory 64} {elfIdBuffer : Addr}
    (holds : ∀ i, i < 16 → m (elfIdBuffer + BitVec.ofNat 64 i) = file.byte i) {i : Nat}
    (inside : i < 16) : identityByte m elfIdBuffer i = identityByte file.image 0 i := by
  apply load_congr
  intro j bound
  have size : (Elf64Ehdr.eIdent i).offset + j = i := by
    change i + j = i
    have single : j < 1 := bound
    omega
  rw [offset_add, offset_add, size, holds i inside, image_offset (by omega)]

theorem elfIdentity_congr {file : KernelFile} {m : Memory 64} {elfIdBuffer : Addr}
    (holds : ∀ i, i < 16 → m (elfIdBuffer + BitVec.ofNat 64 i) = file.byte i) :
    (ElfMagic m elfIdBuffer ↔ ElfMagic file.image 0) ∧
      (ElfIdentity m elfIdBuffer ↔ ElfIdentity file.image 0) := by
  have byte (i : Nat) (inside : i < 16) := identity_congr holds inside
  have magic : ElfMagic m elfIdBuffer ↔ ElfMagic file.image 0 := by
    rw [ElfMagic, ElfMagic, byte 0 (by decide), byte 1 (by decide), byte 2 (by decide),
      byte 3 (by decide)]
  apply And.intro magic
  rw [ElfIdentity, ElfIdentity, magic, byte 4 (by decide), byte 5 (by decide)]

section Loader

variable {file : KernelFile} {elfIdBuffer rootFileSystem : Addr} {kernelFilename : List Char16}
  {tv t : Trace} {rv r : Except Halt EfiStatus} {u v s s' : Firmware}

theorem validateElfIdentity_exact
    (holds : ∀ i, i < 16 → u.mem (elfIdBuffer + BitVec.ofNat 64 i) = file.byte i)
    (checks : Runs (validateElfIdentity elfIdBuffer) tv rv)
    (checked : Follows (Uefi file) tv u v) :
    (Succeeds rv ↔ ElfIdentity file.image 0) ↔ ElfMagic file.image 0 := by
  rcases does_of_runs checks checked with ⟨does, moves⟩
  rcases elfIdentity_congr holds with ⟨magic, identity⟩
  rw [validateElfIdentity_follows does moves, magic, identity]
  constructor
  · intro judged
    by_contra wrong
    exact wrong (judged.mp fun right => absurd right wrong).1
  · intro right
    exact ⟨fun accepted => accepted right, fun identity _ => identity⟩

theorem not_kernelRefused (runs : Runs (loadKernel rootFileSystem kernelFilename 0) t r)
    (follows : Follows (Uefi file) t s s') : ¬ KernelRefused t r s s' := by
  intro refused
  rcases refused.1 with ⟨status, same, failed⟩
  rcases (loadKernel_reads runs follows).1 with ⟨status', same', succeeds⟩
  cases same.symm.trans same'
  exact succeeds failed

/-- The check and the loader do what is asked of them where there is nothing to refuse. -/
theorem identityExact_iff
    (holds : ∀ i, i < 16 → u.mem (elfIdBuffer + BitVec.ofNat 64 i) = file.byte i)
    (checks : Runs (validateElfIdentity elfIdBuffer) tv rv)
    (checked : Follows (Uefi file) tv u v)
    (runs : Runs (loadKernel rootFileSystem kernelFilename 0) t r)
    (follows : Follows (Uefi file) t s s') :
    IdentityExact file rv t r s s' ↔ file.Identified := by
  have loads := not_kernelRefused runs follows
  constructor
  · intro judged
    by_contra bad
    exact loads (judged.2 bad)
  · intro identified
    have judges := (validateElfIdentity_exact holds checks checked).mpr identified.bytes.1
    exact ⟨iff_of_true (judges.mpr identified.bytes) identified, absurd identified⟩

end Loader

/-- The identity of the file in memory, from address zero on. -/
def identityFirmware (file : KernelFile) : BumpFirmware :=
  { freshFirmware with firmware := { freshFirmware.firmware with mem := file.image } }

theorem identityFirmware_valid (file : KernelFile) : (identityFirmware file).Valid where
  aligned := freshFirmware_valid.aligned
  above := freshFirmware_valid.above
  below := freshFirmware_valid.below
  pool := freshFirmware_valid.pool
  pages := freshFirmware_valid.pages
  low := freshFirmware_valid.low

def identityRun (file : KernelFile) : Trace × Except Halt EfiStatus × BumpFirmware :=
  exec (BumpFirmware.handle file) (validateElfIdentity 0) (identityFirmware file)

theorem identityFirmware_holds (file : KernelFile) (i : Nat) (inside : i < 16) :
    (identityFirmware file).firmware.mem (0 + BitVec.ofNat 64 i) = file.byte i :=
  image_offset (by omega)

theorem oneSegment_identityExact :
    IdentityExact oneSegmentFile (identityRun oneSegmentFile).2.1 (kernelRun oneSegmentFile).1
      (kernelRun oneSegmentFile).2.1 freshFirmware.firmware
      (kernelRun oneSegmentFile).2.2.firmware := by
  have loads : allowed (BumpFirmware.handle oneSegmentFile) BumpFirmware.allow
      (loadKernel 0x100 (wide kernelFilepath) 0) freshFirmware := by decide +kernel
  have checks : allowed (BumpFirmware.handle oneSegmentFile) BumpFirmware.allow
      (validateElfIdentity 0) (identityFirmware oneSegmentFile) := by decide +kernel
  apply (identityExact_iff (identityFirmware_holds oneSegmentFile) (exec_runs _ _ _)
    (BumpFirmware.follows (identityFirmware_valid _) checks) (exec_runs _ _ freshFirmware)
    (BumpFirmware.follows freshFirmware_valid loads)).mpr
  exact ⟨by decide, by decide +kernel⟩

/-- The one-segment kernel with its first byte cleared. -/
def noMagicFile : KernelFile :=
  { oneSegmentFile with byte := fun i => (0 :: oneSegmentBytes.tail).getD i 0 }

/-- A file that begins with a zero is not refused. -/
theorem noMagic_accepted :
    ¬ IdentityExact noMagicFile (identityRun noMagicFile).2.1 (kernelRun noMagicFile).1
      (kernelRun noMagicFile).2.1 freshFirmware.firmware
      (kernelRun noMagicFile).2.2.firmware := by
  have loads : allowed (BumpFirmware.handle noMagicFile) BumpFirmware.allow
      (loadKernel 0x100 (wide kernelFilepath) 0) freshFirmware := by decide +kernel
  have unidentified : ¬ ElfIdentity noMagicFile.image 0 := by decide +kernel
  intro judged
  exact not_kernelRefused (exec_runs _ _ freshFirmware)
    (BumpFirmware.follows freshFirmware_valid loads)
    (judged.2 fun identified => unidentified identified.bytes)

end Flosp.Boot
