import Flosp.Kernel.Gates
import Flosp.Kernel.InterruptPath

/-! Where each of the 256 vectors goes after `idt_init`. -/

namespace Flosp.Kernel

open ByteMemory Interaction

/-- General protection: the vector lies beyond the limit of the table. -/
def generalProtection : BitVec 8 := 13

/-- Segment not present: the vector has no gate. -/
def notPresent : BitVec 8 := 11

/-- The vector through whose gate the CPU goes for an interrupt at `v`. -/
def Idt.raised (idt : Idt) (limit : BitVec 16) (v : BitVec 8) : BitVec 8 :=
  if limit.toNat < 16 * v.toNat + 15 then generalProtection
  else if (idt v).present then v
  else notPresent

/-- The vector whose gate the CPU uses for an interrupt at `v` after `idt_init`. -/
def gateOf (v : BitVec 8) : BitVec 8 := if v.toNat < 48 then v else notPresent

/-- The stub that `isr_stub_table` has for the gate. It has none for the last of the 48 gates. -/
structure Stub.EnteredAt (s : Stub) (v : BitVec 8) : Prop where
  listed : s ∈ stubs
  entry : isrStubTable[(gateOf v).toNat]? = some s.label

/-- What becomes of an interrupt at `v` in any context: it is served, or the CPU is frozen and
nothing is acknowledged. -/
def ServesOrFreezes (v : BitVec 8) (s : Stub) : Prop :=
  ∀ (handler : Cpu → Cpu) (i : Interrupted) (top : Addr) (errorCode : BitVec 64)
    (tables : KeyTables) (g : HandlerGlobals) (h : Handling),
    let c := atCall handler s i top errorCode
    if v.toNat < 48 ∧ s.hasErrorCode = false then
      Task.Ensures (handlingStep c.mem) (interruptHandler tables (c.regs .rdi) g) h
        (Served handler s i top errorCode g h)
    else
      Task.Guards (handlingStep c.mem) (interruptHandler tables (c.regs .rdi) g) h (· = h)
        fun _ _ => False

structure Routed (place : Label → Addr) (idt : Idt) (v : BitVec 8) (s : Stub) : Prop where
  listed : s ∈ stubs
  number : s.number = (idt.raised idtLimit v).toNat
  present : (idt (idt.raised idtLimit v)).present = true
  handler : (idt (idt.raised idtLimit v)).handler = (place s.label).toNat
  outcome : ServesOrFreezes v s

section Dispatch

variable {mem : Memory 64} {table : Addr} {place : Label → Addr}

theorem stubs_numbers :
    stubs.map (fun s => (s.number, s.label)) = (List.range 48).map fun v => (v, stubLabel v) := by
  decide

theorem stub_numbered {v : Nat} (below : v < 48) :
    ∃ s ∈ stubs, s.number = v ∧ s.label = stubLabel v := by
  have member : (v, stubLabel v) ∈ stubs.map fun s => (s.number, s.label) := by
    rw [stubs_numbers]
    exact List.mem_map_of_mem (List.mem_range.mpr below)
  obtain ⟨s, listed, same⟩ := List.mem_map.mp member
  rw [Prod.mk.injEq] at same
  exact ⟨s, listed, same⟩

theorem notPresent_coded {s : Stub} (listed : s ∈ stubs) (number : s.number = notPresent.toNat) :
    s.hasErrorCode = true := by
  have coded : ∀ s ∈ stubs, s.number = notPresent.toNat → s.hasErrorCode = true := by decide
  exact coded s listed number

theorem idtLimit_covers (v : BitVec 8) : ¬ idtLimit.toNat < 16 * v.toNat + 15 := by
  have bound := v.isLt
  have limit : idtLimit.toNat = 4095 := by decide
  omega

theorem raised_gate {v : BitVec 8} (below : v.toNat < 48) (idt : Idt) :
    (withGates mem table 0 48 idt).raised idtLimit v = v := by
  have present : (withGates mem table 0 48 idt v).present = true := by
    rw [withGates, if_pos (by omega)]
    exact gate_present _
  rw [Idt.raised, if_neg (idtLimit_covers v), if_pos present]

theorem raised_absent {v : BitVec 8} (above : 48 ≤ v.toNat) :
    (withGates mem table 0 48 Idt.loaded).raised idtLimit v = notPresent := by
  have absent : ¬ (withGates mem table 0 48 Idt.loaded v).present = true := by
    rw [withGates, if_neg (by omega)]
    simp [Idt.loaded, IdtEntry.present]
  rw [Idt.raised, if_neg (idtLimit_covers v), if_neg absent]

theorem gate_leads (assembled : Assembled mem table place) {s : Stub} {v : BitVec 8}
    (below : v.toNat < 47) (label : s.label = stubLabel v.toNat) (idt : Idt) :
    (withGates mem table 0 48 idt v).present = true ∧
      (withGates mem table 0 48 idt v).handler = (place s.label).toNat := by
  rw [withGates, if_pos (by omega), gate_handler, label, assembled _ _ (isrStubTable_get below)]
  exact ⟨gate_present _, rfl⟩

theorem outcome_error {v : BitVec 8} {s : Stub} (coded : s.hasErrorCode = true) : ServesOrFreezes v s := by
  intro handler i top errorCode tables g h c
  rw [if_neg (by simp [coded])]
  apply interruptHandler_freezes
  rw [atCall_error, coded]
  decide

theorem outcome_served {v : BitVec 8} {s : Stub} (below : v.toNat < 48)
    (plain : s.hasErrorCode = false) : ServesOrFreezes v s := by
  intro handler i top errorCode tables g h c
  rw [if_pos ⟨below, plain⟩]
  have interrupt : load c.mem (c.regs .rdi + errorOffset) 8 = (0 : BitVec 64) := by
    rw [atCall_error, plain]
    rfl
  apply (interruptHandler_handled atCall_vector interrupt).mono
  intro r h' acknowledged
  refine ⟨acknowledged, fun returns => ?_⟩
  rw [acknowledged.handsBack.pointer] at returns
  exact resumes_of_returns returns

theorem stubLabel_injective {u v : Nat} (same : stubLabel u = stubLabel v) : u = v := by
  unfold stubLabel at same
  split at same <;> split at same <;> simp at same <;> omega

theorem stub_number {s : Stub} (listed : s ∈ stubs) {v : Nat} (label : s.label = stubLabel v) :
    s.number = v := by
  have member := List.mem_map_of_mem (f := fun s => (s.number, s.label)) listed
  rw [stubs_numbers] at member
  obtain ⟨u, -, same⟩ := List.mem_map.mp member
  rw [Prod.mk.injEq, label] at same
  rw [← same.1, stubLabel_injective same.2]

namespace Stub

variable {s : Stub} {v : BitVec 8}

theorem entered_exists (inner : v ≠ 47) : ∃ s : Stub, s.EnteredAt v := by
  have below : (gateOf v).toNat < 47 := by
    have other : v.toNat ≠ 47 := fun same => inner (BitVec.eq_of_toNat_eq same)
    rw [gateOf]
    split
    · omega
    · decide
  obtain ⟨s, listed, -, label⟩ := stub_numbered (v := (gateOf v).toNat) (by omega)
  exact ⟨s, listed, label ▸ isrStubTable_get below⟩

theorem EnteredAt.below (entered : s.EnteredAt v) : (gateOf v).toNat < 47 :=
  (List.getElem?_eq_some_iff.mp entered.entry).1

theorem EnteredAt.label (entered : s.EnteredAt v) : s.label = stubLabel (gateOf v).toNat :=
  (Option.some_inj.mp ((isrStubTable_get entered.below).symm.trans entered.entry)).symm

theorem EnteredAt.number (entered : s.EnteredAt v) : s.number = (gateOf v).toNat :=
  stub_number entered.listed entered.label

theorem EnteredAt.coded (entered : s.EnteredAt v) (above : 48 ≤ v.toNat) :
    s.hasErrorCode = true := by
  have other : gateOf v = notPresent := if_neg (by omega)
  exact notPresent_coded entered.listed (other ▸ entered.number)

theorem EnteredAt.outcome (entered : s.EnteredAt v) : ServesOrFreezes v s := by
  cases coded : s.hasErrorCode with
  | true => exact outcome_error coded
  | false =>
      have below : v.toNat < 48 := by
        by_contra above
        exact absurd (entered.coded (by omega)) (Bool.eq_false_iff.mp coded)
      exact outcome_served below coded

theorem EnteredAt.routed (entered : s.EnteredAt v) (assembled : Assembled mem table place) :
    Routed place (withGates mem table 0 48 Idt.loaded) v s := by
  have raised : (withGates mem table 0 48 Idt.loaded).raised idtLimit v = gateOf v := by
    rw [gateOf]
    split
    · next below => exact raised_gate below Idt.loaded
    · next above => exact raised_absent (by omega)
  obtain ⟨present, handler⟩ := gate_leads assembled entered.below entered.label Idt.loaded
  refine ⟨entered.listed, ?_, ?_, ?_, entered.outcome⟩
  · rw [raised, entered.number]
  · rw [raised, present]
  · rw [raised, handler]

end Stub

/-- After `idt_init` every vector but the last one with a gate comes to a stub: the first 47 to their
own, where all but the exceptions with an error code are acknowledged and returned from, and the
208 without a gate to that of #NP. On such an interrupt, be it a spurious one of the LAPIC, the CPU
freezes with nothing acknowledged. -/
theorem idtInit_routes (assembled : Assembled mem table place) (base : Addr) :
    Task.Ensures (fromMemory mem) (idtInit table base Idt.loaded) () fun idt _ =>
      ∀ v : BitVec 8, v ≠ 47 → ∃ s, Routed place idt v s := by
  apply (idtInit_ensures base Idt.loaded).mono
  intro idt _ final v inner
  subst final
  obtain ⟨s, entered⟩ := Stub.entered_exists inner
  exact ⟨s, entered.routed assembled⟩

theorem labelMemory_routes :
    Task.Ensures (fromMemory (labelMemory isrStubTable)) (idtInit 0x101000 0x200000 Idt.loaded) ()
      fun idt _ => ∀ v : BitVec 8, v ≠ 47 → ∃ s, Routed spacedStubs idt v s := by
  have words : ∀ i ∈ List.range 47, stubWord (labelMemory isrStubTable) 0x101000 i =
      spacedStubs (stubLabel i) := by
    decide +kernel
  refine idtInit_routes (fun i label found => ?_) 0x200000
  have below : i < 47 := (List.getElem?_eq_some_iff.mp found).1
  rw [isrStubTable_get below, Option.some_inj] at found
  rw [words i (List.mem_range.mpr below), found]

end Dispatch

end Flosp.Kernel
