import Flosp.Lib.ByteMemory

/-! Records in memory as an ABI lays them out whose scalars are aligned to their own size: where
the scalars of a type lie, and what storing all of them leaves to be read. -/

namespace RecordLayout

open ByteMemory

/-- A type by what matters for its layout. -/
inductive CType where
  | scalar (bytes : Nat)
  | record (members : List CType)

/-- The next multiple of `a`. -/
def alignUp (n a : Nat) : Nat := n + (a - n % a) % a

theorem le_alignUp (n a : Nat) : n ≤ alignUp n a := Nat.le_add_right _ _

mutual

def CType.align : CType → Nat
  | .scalar bytes => bytes
  | .record members => alignAll members

/-- The alignment of the strictest member. -/
def alignAll : List CType → Nat
  | [] => 1
  | member :: members => max member.align (alignAll members)

end

mutual

/-- A record is padded to its alignment. -/
def CType.size : CType → Nat
  | .scalar bytes => bytes
  | .record members => alignUp (extent members 0) (alignAll members)

/-- Where members end that begin at `start`. -/
def extent : List CType → Nat → Nat
  | [], start => start
  | member :: members, start => extent members (alignUp start member.align + member.size)

end

structure Slot where
  offset : Nat
  size : Nat
  deriving DecidableEq, Repr

def Slot.shift (n : Nat) (s : Slot) : Slot := ⟨n + s.offset, s.size⟩

mutual

def CType.slots : CType → List Slot
  | .scalar bytes => [⟨0, bytes⟩]
  | .record members => slotsFrom members 0

def slotsFrom : List CType → Nat → List Slot
  | [], _ => []
  | member :: members, start =>
      member.slots.map (Slot.shift (alignUp start member.align)) ++
        slotsFrom members (alignUp start member.align + member.size)

end

/-- The slots lie one after another between two offsets. -/
def Packed : List Slot → Nat → Nat → Prop
  | [], start, stop => start ≤ stop
  | s :: slots, start, stop => start ≤ s.offset ∧ Packed slots (s.offset + s.size) stop

namespace Packed

variable {slots more : List Slot} {start middle stop : Nat}

theorem le (packed : Packed slots start stop) : start ≤ stop := by
  induction slots generalizing start with
  | nil => exact packed
  | cons s slots ih =>
      have rest := ih packed.2
      have first := packed.1
      omega

theorem earlier {start' : Nat} (packed : Packed slots start stop) (before : start' ≤ start) :
    Packed slots start' stop := by
  cases slots with
  | nil => exact Nat.le_trans before packed
  | cons s slots => exact ⟨Nat.le_trans before packed.1, packed.2⟩

theorem later {stop' : Nat} (packed : Packed slots start stop) (after : stop ≤ stop') :
    Packed slots start stop' := by
  induction slots generalizing start with
  | nil => exact Nat.le_trans packed after
  | cons s slots ih => exact ⟨packed.1, ih packed.2⟩

theorem append (first : Packed slots start middle) (second : Packed more middle stop) :
    Packed (slots ++ more) start stop := by
  induction slots generalizing start with
  | nil => exact second.earlier first
  | cons s slots ih => exact ⟨first.1, ih first.2⟩

theorem shift (packed : Packed slots start stop) (n : Nat) :
    Packed (slots.map (Slot.shift n)) (n + start) (n + stop) := by
  induction slots generalizing start with
  | nil => exact Nat.add_le_add_left packed n
  | cons s slots ih =>
      have rest := ih packed.2
      rw [← Nat.add_assoc] at rest
      exact ⟨Nat.add_le_add_left packed.1 n, rest⟩

end Packed

mutual

theorem CType.packed : ∀ t : CType, Packed t.slots 0 t.size
  | .scalar bytes => by simp [CType.slots, CType.size, Packed]
  | .record members => by
      rw [CType.slots, CType.size]
      exact (packedFrom members 0).later (le_alignUp _ _)

theorem packedFrom : ∀ (members : List CType) (start : Nat),
    Packed (slotsFrom members start) start (extent members start)
  | [], start => by simp [slotsFrom, extent, Packed]
  | member :: members, start => by
      have first := member.packed.shift (alignUp start member.align)
      have rest := packedFrom members (alignUp start member.align + member.size)
      rw [Nat.add_zero] at first
      rw [slotsFrom, extent]
      exact (first.append rest).earlier (le_alignUp start member.align)

end

/-! Contents. -/

/-- The value of a scalar, with its size. -/
abbrev Scalar := Σ n : Nat, BitVec (8 * n)

section Contents

variable {w : Nat}

def readSlots (m : Memory w) (base : BitVec w) (slots : List Slot) : List Scalar :=
  slots.map fun s => ⟨s.size, load m (base + BitVec.ofNat w s.offset) s.size⟩

/-- Every value is stored in its slot. -/
def writeSlots (m : Memory w) (base : BitVec w) : List Slot → List Scalar → Memory w
  | s :: slots, v :: values =>
      writeSlots (store m (base + BitVec.ofNat w s.offset) v.2) base slots values
  | _, _ => m

def Fills (values : List Scalar) (slots : List Slot) : Prop :=
  values.map Sigma.fst = slots.map Slot.size

variable {m : Memory w} {base : BitVec w} {slots : List Slot} {values : List Scalar}
  {start stop : Nat}

theorem writeSlots_outside (packed : Packed slots start stop) (fits : stop ≤ 2 ^ w)
    (fills : Fills values slots) {x : BitVec w}
    (outside : (x - base).toNat < start ∨ stop ≤ (x - base).toNat) :
    writeSlots m base slots values x = m x := by
  induction slots generalizing m values start with
  | nil =>
      cases values with
      | nil => rfl
      | cons v values => rfl
  | cons s slots ih =>
      cases values with
      | nil => rfl
      | cons v values =>
          obtain ⟨size, rest⟩ := List.cons.inj fills
          change v.1 = s.size at size
          have first := packed.1
          have last := packed.2.le
          have here : ¬ Within x (base + BitVec.ofNat w s.offset) v.1 := by
            rw [within_sub_iff (within_full x base (Nat.le_refl _)) (by omega) (Nat.le_refl _)]
            omega
          calc writeSlots (store m (base + BitVec.ofNat w s.offset) v.2) base slots values x
              = store m (base + BitVec.ofNat w s.offset) v.2 x :=
                ih packed.2 rest (by omega)
            _ = m x := store_outside here

theorem readSlots_writeSlots (packed : Packed slots start stop) (fits : stop ≤ 2 ^ w)
    (fills : Fills values slots) :
    readSlots (writeSlots m base slots values) base slots = values := by
  induction slots generalizing m values start with
  | nil =>
      cases values with
      | nil => rfl
      | cons v values => cases fills
  | cons s slots ih =>
      cases values with
      | nil => cases fills
      | cons v values =>
          obtain ⟨size, rest⟩ := List.cons.inj fills
          obtain ⟨n, v⟩ := v
          obtain ⟨offset, size'⟩ := s
          cases show n = size' from size
          have last : offset + n ≤ stop := packed.2.le
          have kept : load (writeSlots (store m (base + BitVec.ofNat w offset) v) base slots values)
              (base + BitVec.ofNat w offset) n = v := by
            rw [load_congr_within (by omega) fun x inside =>
              writeSlots_outside packed.2 fits rest (.inl ?_)]
            · exact load_store_same m _ v (by omega)
            · rw [within_sub_iff (within_full x base (Nat.le_refl _)) (by omega)
                (Nat.le_refl _)] at inside
              exact inside.2
          exact congrArg₂ (fun v values => Sigma.mk n v :: values) kept (ih packed.2 rest)

end Contents

end RecordLayout
