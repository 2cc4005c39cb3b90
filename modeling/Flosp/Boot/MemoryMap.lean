import Flosp.Boot.Effects

/-! The memory map that the bootloader hands over, on a firmware whose map grows while the
buffer for it is allocated. -/

namespace Flosp.Boot

open Interaction ByteMemory

/-- The firmware's memory map, in descriptors of `d` bytes. `GetMemoryMap` reports its size in
a `UINT64`, also when an allocation has added two descriptors. -/
structure MapState (d : Nat) where
  mem : Memory 64
  count : Nat
  /-- the bytes of the map as it is delivered -/
  byte : Nat → BitVec 8
  key : BitVec 64
  fits : (count + 2) * d < 2 ^ 64

namespace MapState

variable {d : Nat}

def size (s : MapState d) : Nat := s.count * d

def StoredAt (s : MapState d) (a : Addr) : Prop :=
  ∀ i, i < s.size → s.mem (a + BitVec.ofNat 64 i) = s.byte i

structure SameMap (s s' : MapState d) : Prop where
  count : s'.count = s.count
  byte : s'.byte = s.byte
  key : s'.key = s.key

/-- What an event does to the map. `AllocatePool` and console output may change it; of
`AllocatePool` it is known that it succeeds and adds at most two descriptors. -/
def Step (e : BootEvent) (s s' : MapState d) : Prop :=
  match e with
  | ⟨.call (.outputString _), _⟩ => True
  | ⟨.call (.getMemoryMap size map), (status, out)⟩ =>
      ∃ reply, out = some reply ∧ reply.mapSize = BitVec.ofNat 64 s.size ∧
        reply.descriptorSize = BitVec.ofNat 64 d ∧
        if size.toNat < s.size then status = efiBufferTooSmall ∧ s' = s
        else status = efiSuccess ∧ reply.mapKey = s.key ∧ s.SameMap s' ∧ s'.StoredAt map
  | ⟨.call (.allocatePool ..), (status, out)⟩ =>
      ¬ Failed status ∧ (∃ buffer, out = some buffer) ∧ s'.count ≤ s.count + 2
  | ⟨.call (.exitBootServices _ mapKey), (status, _)⟩ =>
      (mapKey = s.key → status = efiSuccess) ∧ (mapKey ≠ s.key → status = efiInvalidParameter)
  -- `get_memory_map` makes no other call
  | _ => False

end MapState

open MapState

/-- What `get_memory_map` leaves to `efi_main`: its variables describe the map as it was when
the buffer had been allocated, and as it still is. -/
structure MapIsCurrent {d : Nat} (t : Trace) (s s' : MapState d) (status : EfiStatus) (map : Addr)
    (reply : MemoryMapReply) : Prop where
  success : status = efiSuccess
  secondQuery : ∃ (early : Trace) (size : BitVec 64) (allocated : EfiStatus × Option Addr)
      (answer : EfiStatus × Option MemoryMapReply) (mid : MapState d),
    t = early ++ [callEvent (.allocatePool .efiLoaderData size) allocated,
      callEvent (.getMemoryMap size map) answer] ∧
    Follows Step (early ++ [callEvent (.allocatePool .efiLoaderData size) allocated]) s mid ∧
    answer.1 ≠ efiBufferTooSmall ∧ mid.SameMap s'
  size : reply.mapSize.toNat = s'.size
  key : reply.mapKey = s'.key
  stored : s'.StoredAt map
  exits : ∀ imageHandle answer (s₁ s₂ : MapState d), s₁.key = s'.key →
    Step (callEvent (.exitBootServices imageHandle reply.mapKey) answer) s₁ s₂ →
    answer.1 = efiSuccess

section Queries

variable {d : Nat} {s s' : MapState d}

theorem size_toNat (s : MapState d) : (BitVec.ofNat 64 s.size).toNat = s.size := by
  have fits := s.fits
  rw [Nat.add_mul] at fits
  rw [BitVec.toNat_ofNat]
  exact Nat.mod_eq_of_lt (by rw [MapState.size]; omega)

theorem slack_toNat (s : MapState d) :
    (BitVec.ofNat 64 s.size + 2 * BitVec.ofNat 64 d).toNat = (s.count + 2) * d := by
  have fits := s.fits
  have two : (2 : BitVec 64) = BitVec.ofNat 64 2 := rfl
  rw [two, ← BitVec.ofNat_mul, ← BitVec.ofNat_add, BitVec.toNat_ofNat, MapState.size,
    ← Nat.add_mul, Nat.mod_eq_of_lt fits]

theorem getMemoryMap'_runs {map : Addr} {reply : MemoryMapReply} {t : Trace}
    {r : Except Halt (EfiStatus × Addr × MemoryMapReply)}
    (runs : Runs (getMemoryMap' map reply) t r) :
    ∃ (print : EfiStatus × Unit) (first : EfiStatus × Option MemoryMapReply)
      (allocated : EfiStatus × Option Addr) (answer : EfiStatus × Option MemoryMapReply),
      let needed := Option.getD first.2 reply
      let size := needed.mapSize + 2 * needed.descriptorSize
      let buffer := Option.getD allocated.2 map
      t = [callEvent (.outputString (wide "Debug: Allocating memory map\r\n")) print,
        callEvent (.getMemoryMap reply.mapSize map) first,
        callEvent (.allocatePool .efiLoaderData size) allocated,
        callEvent (.getMemoryMap size buffer) answer] ∧
      r = .ok (answer.1, buffer, Option.getD answer.2 { needed with mapSize := size }) := by
  simp only [getMemoryMap', efiError_eq_false, Bool.false_eq_true, if_false] at runs
  obtain ⟨print, _, rfl, queries⟩ := runs_op.mp runs
  obtain ⟨first, _, rfl, allocates⟩ := runs_op.mp queries
  obtain ⟨allocated, _, rfl, again⟩ := runs_op.mp allocates
  obtain ⟨answer, _, rfl, returns⟩ := runs_op.mp again
  obtain ⟨rfl, rfl⟩ := runs_ret.mp returns
  exact ⟨print, first, allocated, answer, rfl, rfl⟩

/-- Whatever the first query is made with, `get_memory_map` ends with the current map. -/
theorem getMemoryMap'_current (map : Addr) (reply : MemoryMapReply) {t : Trace}
    {r : Except Halt (EfiStatus × Addr × MemoryMapReply)}
    (runs : Runs (getMemoryMap' map reply) t r) (follows : Follows Step t s s') :
    ∃ status buffer current, r = .ok (status, buffer, current) ∧
      MapIsCurrent t s s' status buffer current := by
  obtain ⟨print, ⟨status₁, asked⟩, ⟨status₂, pool⟩, ⟨status₃, got⟩, rfl, rfl⟩ :=
    getMemoryMap'_runs runs
  obtain ⟨s₀, printed, s₁, first, s₂, allocated, s₃, second, ended⟩ := follows
  cases ended
  obtain ⟨needed, rfl, size₀, width₀, queried⟩ := first
  obtain ⟨granted, ⟨buffer, rfl⟩, grown⟩ := allocated
  obtain ⟨current, rfl, size₂, -, answered⟩ := second
  have count₁ : s₁.count = s₀.count := by
    split at queried
    · rw [queried.2]
    · exact queried.2.2.1.count
  have room : s₂.size ≤ (s₀.count + 2) * d := Nat.mul_le_mul_right d (by omega)
  have large : ¬ (needed.mapSize + 2 * needed.descriptorSize).toNat < s₂.size := by
    rw [size₀, width₀, slack_toNat]
    omega
  obtain ⟨success, key, same, stored⟩ := (if_neg large).mp answered
  have sizes : s'.size = s₂.size := congrArg (· * d) same.count
  refine ⟨status₃, buffer, current, rfl, success,
    ⟨[_, _], _, (status₂, some buffer), (status₃, some current), s₂, rfl, ?_, ?_, same⟩,
    ?_, key.trans same.key.symm, stored, ?_⟩
  · exact ⟨s₀, printed, s₁, ⟨needed, rfl, size₀, width₀, queried⟩, s₂,
      ⟨granted, ⟨buffer, rfl⟩, grown⟩, rfl⟩
  · change status₃ ≠ efiBufferTooSmall
    rw [success]
    decide
  · rw [size₂, size_toNat, sizes]
  · intro imageHandle answer t₁ t₂ unchanged exits
    exact exits.1 (key.trans (same.key.symm.trans unchanged.symm))

end Queries

section Sample

/-- A firmware with descriptors of 48 bytes, three of them before the allocation and five after. -/
def sampleMap (grown : Bool) : MapState 48 where
  mem := fun _ => 0
  count := if grown then 5 else 3
  byte := fun i => BitVec.ofNat 8 i
  key := if grown then 8 else 7
  fits := by cases grown <;> decide

def sampleMapInfo (s : MapState 48) : MemoryMapReply :=
  ⟨BitVec.ofNat 64 s.size, s.key, 48, 1⟩

def sampleMapReply (o : Op) (s : MapState 48) : Reply o × MapState 48 :=
  match o with
  | .load _ _ n => (0#(8 * n), s)
  | .store .. => ((), s)
  | .call (.getMemoryMap size map) =>
      if size.toNat < s.size then ((efiBufferTooSmall, some (sampleMapInfo s)), s)
      else ((efiSuccess, some (sampleMapInfo s)), { s with mem := fun x => s.byte (x - map).toNat })
  | .call (.allocatePool ..) => ((efiSuccess, some 0x100000), sampleMap true)
  | .call c => ((efiSuccess, c.noOutput), s)

def sampleMapAllow (o : Op) (s : MapState 48) : Bool :=
  match o with
  | .call (.outputString _) | .call (.getMemoryMap ..) => true
  | .call (.allocatePool ..) => s.count = 3
  | _ => false

theorem sampleMap_lawful (o : Op) (s : MapState 48) (allowed : sampleMapAllow o s) (_ : True) :
    Step ⟨o, (sampleMapReply o s).1⟩ s (sampleMapReply o s).2 ∧ True := by
  refine ⟨?_, trivial⟩
  cases o with
  | load region a n => cases allowed
  | store region a n v => cases allowed
  | call c =>
      cases c with
      | outputString string => trivial
      | allocatePool poolType size =>
          have three : s.count = 3 := of_decide_eq_true allowed
          refine ⟨(by decide : ¬ Failed efiSuccess), ⟨_, rfl⟩, ?_⟩
          change 5 ≤ s.count + 2
          omega
      | getMemoryMap size map =>
          refine ⟨sampleMapInfo s, ?_⟩
          by_cases small : size.toNat < s.size
          · have reply : sampleMapReply (.call (.getMemoryMap size map)) s =
              ((efiBufferTooSmall, some (sampleMapInfo s)), s) := if_pos small
            rw [reply, if_pos small]
            exact ⟨rfl, rfl, rfl, rfl, rfl⟩
          · have reply : sampleMapReply (.call (.getMemoryMap size map)) s =
              ((efiSuccess, some (sampleMapInfo s)),
                { s with mem := fun x => s.byte (x - map).toNat }) := if_neg small
            rw [reply, if_neg small]
            refine ⟨rfl, rfl, rfl, rfl, rfl, ⟨rfl, rfl, rfl⟩, ?_⟩
            intro i inside
            have fits := s.fits
            have bound : i < s.count * 48 := inside
            change s.byte (map + BitVec.ofNat 64 i - map).toNat = s.byte i
            rw [offset_sub, BitVec.toNat_ofNat, Nat.mod_eq_of_lt (by omega)]
      | _ => cases allowed

abbrev sampleMapRun : Trace × Except Halt (EfiStatus × Addr × MemoryMapReply) × MapState 48 :=
  exec sampleMapReply (getMemoryMap' 0 ⟨0, 0, 0, 0⟩) (sampleMap false)

theorem sampleMap_current :
    ∃ status buffer current, sampleMapRun.2.1 = .ok (status, buffer, current) ∧
      MapIsCurrent sampleMapRun.1 (sampleMap false) sampleMapRun.2.2 status buffer current :=
  getMemoryMap'_current 0 ⟨0, 0, 0, 0⟩ (exec_runs sampleMapReply _ _)
    (exec_follows id (fun o s => sampleMap_lawful o s) trivial (by decide +kernel))

end Sample

end Flosp.Boot
