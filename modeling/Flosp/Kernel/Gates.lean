import Flosp.Kernel.Idt
import Mathlib.Data.BitVec

/-! Where the interrupt gates lead after `idt_init`. -/

namespace Flosp.Kernel

open ByteMemory Interaction

def fromMemory (mem : Memory 64) : DriverEvent → Unit → Unit → Prop
  | ⟨.load a n, v⟩, _, _ => v = load mem a n
  | _, _, _ => True

def stubWord (mem : Memory 64) (table : Addr) (i : Nat) : Addr :=
  load mem (table + BitVec.ofNat 64 (8 * i)) 8

/-- The table at `table` holds the addresses at which the stubs were placed. -/
def Assembled (mem : Memory 64) (table : Addr) (place : Label → Addr) : Prop :=
  ∀ i label, isrStubTable[i]? = some label → stubWord mem table i = place label

/-- The gates of the first 48 vectors lead to the stubs that push them, and there are no others. -/
structure GatesLead (place : Label → Addr) (idt : Idt) : Prop where
  installed : ∀ v : BitVec 8, v.toNat < 48 → ∃ s ∈ stubs, s.vector = some (v.setWidth 64) ∧
    (idt v).present ∧ (idt v).handler = (place s.label).toNat
  absent : ∀ v : BitVec 8, 48 ≤ v.toNat → (idt v).present = false

/-- The label of the stub for a vector. -/
def stubLabel (v : Nat) : Label := if v < 32 then .isrStub v else .irqStub (v - 32)

theorem stubs_vectors :
    stubs.map (fun s => (s.vector, s.label)) =
      (List.range 48).map fun v => (some (BitVec.ofNat 64 v), stubLabel v) := by
  decide

theorem stub_exists {v : Nat} (below : v < 48) :
    ∃ s ∈ stubs, s.vector = some (BitVec.ofNat 64 v) ∧ s.label = stubLabel v := by
  have member : (some (BitVec.ofNat 64 v), stubLabel v) ∈
      stubs.map fun s => (s.vector, s.label) := by
    rw [stubs_vectors]
    exact List.mem_map_of_mem (List.mem_range.mpr below)
  obtain ⟨s, listed, same⟩ := List.mem_map.mp member
  rw [Prod.mk.injEq] at same
  exact ⟨s, listed, same⟩

theorem stub_label {s : Stub} (listed : s ∈ stubs) {v : Nat} (below : v < 48)
    (pushes : s.vector = some (BitVec.ofNat 64 v)) : s.label = stubLabel v := by
  have member := List.mem_map_of_mem (f := fun s => (s.vector, s.label)) listed
  rw [stubs_vectors] at member
  obtain ⟨u, inside, same⟩ := List.mem_map.mp member
  rw [List.mem_range] at inside
  rw [Prod.mk.injEq, pushes, Option.some_inj] at same
  have number : u = v := by
    have equal := congrArg BitVec.toNat same.1
    rw [BitVec.toNat_ofNat, BitVec.toNat_ofNat] at equal
    omega
  rw [← same.2, number]

/-- The table is one entry short of the vectors that `idt_init` sets. -/
theorem isrStubTable_get {i : Nat} (below : i < 47) : isrStubTable[i]? = some (stubLabel i) := by
  have whole : isrStubTable = (List.range 47).map stubLabel := by decide
  rw [whole, List.getElem?_map, List.getElem?_range below]
  rfl

def gate (isr : Addr) : IdtEntry := idtSetDescriptor 0 isr 0x8E Idt.loaded 0

theorem gate_present (isr : Addr) : (gate isr).present = true := by
  simp [gate, idtSetDescriptor, IdtEntry.present]

theorem gate_handler (isr : Addr) : (gate isr).handler = isr.toNat := by
  have bound := isr.isLt
  have word (x : Nat) : x &&& 65535 = x % 65536 := Nat.and_two_pow_sub_one_eq_mod x 16
  have double (x : Nat) : x &&& 4294967295 = x % 4294967296 :=
    Nat.and_two_pow_sub_one_eq_mod x 32
  have low : (gate isr).isrLow.toNat = isr.toNat % 65536 := by
    simp [gate, idtSetDescriptor, BitVec.toNat_and, word]
  have mid : (gate isr).isrMid.toNat = isr.toNat / 65536 % 65536 := by
    simp [gate, idtSetDescriptor, BitVec.toNat_and, Nat.shiftRight_eq_div_pow, word]
  have high : (gate isr).isrHigh.toNat = isr.toNat / 4294967296 % 4294967296 := by
    simp [gate, idtSetDescriptor, BitVec.toNat_and, Nat.shiftRight_eq_div_pow, double]
  rw [IdtEntry.handler, low, mid, high]
  omega

def withGates (mem : Memory 64) (table : Addr) (first turns : Nat) (idt : Idt) : Idt := fun v =>
  if first ≤ v.toNat ∧ v.toNat < first + turns then gate (stubWord mem table v.toNat) else idt v

section Install

variable {mem : Memory 64} {table : Addr}

theorem withGates_set (turns : Nat) (vect : BitVec 8) (idt : Idt) :
    withGates mem table (vect.toNat + 1) turns
        (idtSetDescriptor vect (stubWord mem table vect.toNat) 0x8E idt) =
      withGates mem table vect.toNat (turns + 1) idt := by
  funext v
  rw [withGates, withGates]
  by_cases same : v = vect
  · subst same
    rw [if_neg (by omega), if_pos (by omega), idtSetDescriptor, Function.update_self]
    rfl
  · have distinct : v.toNat ≠ vect.toNat := fun equal => same (BitVec.eq_of_toNat_eq equal)
    rw [idtSetDescriptor, Function.update_of_ne same]
    exact if_congr (by omega) rfl rfl

theorem setDescriptors_ensures (turns : Nat) (vect : BitVec 8) (room : vect.toNat + turns < 256)
    (idt : Idt) :
    Task.Ensures (fromMemory mem) (setDescriptors table turns vect idt) ()
      fun idt' _ => idt' = withGates mem table vect.toNat turns idt := by
  induction turns generalizing vect idt with
  | zero =>
      refine .ret (funext fun v => ?_)
      rw [withGates, if_neg (by omega)]
  | succ turns ih =>
      refine .op ⟨_, (), rfl⟩ fun isr _ answered => ?_
      have index : (8 : BitVec 64) * vect.setWidth 64 = BitVec.ofNat 64 (8 * vect.toNat) := by
        apply BitVec.eq_of_toNat_eq
        simp
      have word : isr = stubWord mem table vect.toNat := by
        rw [answered, index]
        rfl
      have next : (vect + 1).toNat = vect.toNat + 1 :=
        BitVec.toNat_add_of_lt (by change vect.toNat + 1 < 256; omega)
      have rest := ih (vect + 1) (by omega) (idtSetDescriptor vect isr 0x8E idt)
      rw [word, next, withGates_set turns vect] at rest
      rw [word]
      exact rest

theorem ensures_silent_bind {α : Type} {Q : α → Unit → Prop} (o : Op) {f : Reply o → Driver α}
    (reply : Reply o) (silent : ∀ r, fromMemory mem ⟨o, r⟩ () ()) :
    Task.Ensures (fromMemory mem) (Task.perform o >>= f) () Q ↔
      ∀ r, Task.Ensures (fromMemory mem) (f r) () Q :=
  Task.ensures_still_bind o reply fun r _ => iff_of_true (silent r) rfl

@[simp] theorem ensures_console_fromMemory {α : Type} {Q : α → Unit → Prop} {c : ConsoleCall}
    {f : Unit → Driver α} : Task.Ensures (fromMemory mem) (console c >>= f) () Q ↔
      Task.Ensures (fromMemory mem) (f ()) () Q :=
  (ensures_silent_bind (.console c) () fun _ => trivial).trans ⟨fun rest => rest (), fun rest _ => rest⟩

@[simp] theorem ensures_outb_fromMemory {α : Type} {Q : α → Unit → Prop} {port : Port}
    {value : BitVec 8} {f : Unit → Driver α} :
    Task.Ensures (fromMemory mem) (outb port value >>= f) () Q ↔
      Task.Ensures (fromMemory mem) (f ()) () Q :=
  (ensures_silent_bind (.outb port value) () fun _ => trivial).trans ⟨fun rest => rest (), fun rest _ => rest⟩

theorem idtInit_ensures (base : Addr) (idt : Idt) :
    Task.Ensures (fromMemory mem) (idtInit table base idt) ()
      fun idt' _ => idt' = withGates mem table 0 48 idt := by
  rw [idtInit, logDebug, ensures_console_fromMemory]
  apply (setDescriptors_ensures 32 0 (by decide) idt).bind
  rintro idt₁ ⟨⟩ first
  apply (setDescriptors_ensures 16 32 (by decide) idt₁).bind
  rintro idt₂ ⟨⟩ second
  simp only [logDebug, maskPicInterrupts, ensures_console_fromMemory, Task.bind_assoc,
    ensures_outb_fromMemory]
  apply (ensures_silent_bind (.lidt _) () fun _ => trivial).mpr
  rintro ⟨⟩
  rw [ensures_console_fromMemory]
  apply (ensures_silent_bind .sti () fun _ => trivial).mpr
  rintro ⟨⟩
  apply Task.Ensures.ret
  funext v
  rw [second, first]
  change withGates mem table 32 16 (withGates mem table 0 32 idt) v = _
  simp only [withGates]
  by_cases exception : v.toNat < 32
  · rw [if_neg (by omega), if_pos (by omega), if_pos (by omega)]
  · by_cases irq : v.toNat < 48
    · rw [if_pos (by omega), if_pos (by omega)]
    · rw [if_neg (by omega), if_neg (by omega), if_neg (by omega)]

/-- The gate of the last vector comes from the word that follows the table. -/
theorem gatesLead_word {place : Label → Addr} {base : Addr}
    (ensures : Task.Ensures (fromMemory mem) (idtInit table base Idt.loaded) () fun idt _ =>
      GatesLead place idt) : stubWord mem table 47 = place (.irqStub 15) := by
  obtain ⟨t, idt, _, run, follows, leads⟩ := ensures.exists_run
  have final := (idtInit_ensures base Idt.loaded).satisfies t idt _ run follows
  obtain ⟨s, listed, pushes, -, handler⟩ := leads.installed 47 (by decide)
  have label : s.label = .irqStub 15 := stub_label listed (v := 47) (by decide) pushes
  rw [label, final, withGates, if_pos (by decide), gate_handler] at handler
  exact BitVec.eq_of_toNat_eq handler

/-- All gates lead to their stubs if and only if the word that follows the table happens to be
the address of the stub that the table leaves out. -/
theorem gatesLead_iff {place : Label → Addr} (assembled : Assembled mem table place) (base : Addr) :
    (Task.Ensures (fromMemory mem) (idtInit table base Idt.loaded) () fun idt _ =>
        GatesLead place idt) ↔
      stubWord mem table 47 = place (.irqStub 15) := by
  constructor
  · exact gatesLead_word
  · intro last
    apply (idtInit_ensures base Idt.loaded).mono
    intro idt _ final
    subst final
    constructor
    · intro v below
      obtain ⟨s, listed, pushes, label⟩ := stub_exists below
      have vector : s.vector = some (v.setWidth 64) := by
        rw [pushes]
        simp
      refine ⟨s, listed, vector, ?_⟩
      rw [withGates, if_pos (by omega), gate_handler, label]
      refine ⟨gate_present _, ?_⟩
      by_cases inside : v.toNat < 47
      · rw [assembled _ _ (isrStubTable_get inside)]
      · have number : v.toNat = 47 := by omega
        rw [number, last]
        rfl
    · intro v above
      rw [withGates, if_neg (by omega)]
      simp [Idt.loaded, IdtEntry.present]

end Install

/-- Every stub at an address of its own. -/
def spacedStubs : Label → Addr
  | .isrStub n => 0x100000 + BitVec.ofNat 64 (0x40 * n)
  | .irqStub n => 0x100800 + BitVec.ofNat 64 (0x40 * n)

/-- A memory with the addresses of `labels` from 0x101000 on and zeros everywhere else. -/
def labelMemory (labels : List Label) : Memory 64 := fun a =>
  let offset := (a - 0x101000).toNat
  match labels[offset / 8]? with
  | some label => byteOf (n := 8) (spacedStubs label) (offset % 8)
  | none => 0

/-- The table is followed by the entry that it lacks. -/
theorem followed_leads :
    Task.Ensures (fromMemory (labelMemory (isrStubTable ++ [.irqStub 15])))
      (idtInit 0x101000 0x200000 Idt.loaded) () fun idt _ => GatesLead spacedStubs idt := by
  have words : ∀ i ∈ List.range 47, stubWord (labelMemory (isrStubTable ++ [.irqStub 15]))
      0x101000 i = spacedStubs (stubLabel i) := by
    decide +kernel
  have assembled : Assembled (labelMemory (isrStubTable ++ [.irqStub 15])) 0x101000 spacedStubs := by
    intro i label found
    have below : i < 47 := by
      have bound := (List.getElem?_eq_some_iff.mp found).1
      exact bound
    rw [isrStubTable_get below, Option.some_inj] at found
    rw [words i (List.mem_range.mpr below), found]
  exact (gatesLead_iff assembled 0x200000).mpr (by decide +kernel)

/-- The table is followed by zeros. -/
theorem zeros_do_not_lead :
    ¬ Task.Ensures (fromMemory (labelMemory isrStubTable)) (idtInit 0x101000 0x200000 Idt.loaded) ()
      fun idt _ => GatesLead spacedStubs idt := by
  intro ensures
  have last := gatesLead_word ensures
  revert last
  decide +kernel

end Flosp.Kernel
