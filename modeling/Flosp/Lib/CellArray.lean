import Flosp.Lib.ByteMemory

/-! Arrays of cells of one size in a byte memory: a store changes one cell, and a copy of
whole cells moves them. -/

namespace ByteMemory

variable {w : Nat}

/-- The address of cell `p` of an array of cells of `size` bytes. -/
def cellAddr (base : BitVec w) (size p : Nat) : BitVec w := base + BitVec.ofNat w (size * p)

def cell (m : Memory w) (base : BitVec w) (size p : Nat) : BitVec (8 * size) :=
  load m (cellAddr base size p) size

variable {base : BitVec w} {size : Nat}

theorem cellAddr_offset (p i : Nat) :
    cellAddr base size p + BitVec.ofNat w i = base + BitVec.ofNat w (size * p + i) :=
  offset_add base (size * p) i

theorem within_cells_iff {p n i : Nat} (bound : size * (p + n) ≤ 2 ^ w) (small : i < 2 ^ w) :
    Within (base + BitVec.ofNat w i) (cellAddr base size p) (size * n) ↔
      size * p ≤ i ∧ i < size * (p + n) := by
  rw [Nat.mul_add] at bound ⊢
  have whole : Within (base + BitVec.ofNat w i) base (2 ^ w) := within_full _ _ (Nat.le_refl _)
  rw [cellAddr, within_sub_iff whole (by omega) (Nat.le_refl _), offset_sub, BitVec.toNat_ofNat,
    Nat.mod_eq_of_lt small]

theorem within_cell_iff {p i : Nat} (bound : size * (p + 1) ≤ 2 ^ w) (small : i < 2 ^ w) :
    Within (base + BitVec.ofNat w i) (cellAddr base size p) size ↔
      size * p ≤ i ∧ i < size * (p + 1) := by
  have one : Within (base + BitVec.ofNat w i) (cellAddr base size p) (size * 1) ↔
      size * p ≤ i ∧ i < size * (p + 1) := within_cells_iff bound small
  rwa [Nat.mul_one] at one

theorem cell_congr {m m' : Memory w} {p q : Nat}
    (same : ∀ i, i < size → m (base + BitVec.ofNat w (size * p + i)) =
      m' (base + BitVec.ofNat w (size * q + i))) :
    cell m base size p = cell m' base size q := by
  apply load_congr
  intro i bound
  rw [cellAddr_offset, cellAddr_offset]
  exact same i bound

theorem cell_store (size : Nat) (m : Memory w) {p q : Nat} (v : BitVec (8 * size))
    (first : size * (p + 1) ≤ 2 ^ w) (second : size * (q + 1) ≤ 2 ^ w) :
    cell (store m (cellAddr base size q) v) base size p = if p = q then v else cell m base size p := by
  have rangeP : size * (p + 1) = size * p + size := Nat.mul_succ size p
  have rangeQ : size * (q + 1) = size * q + size := Nat.mul_succ size q
  by_cases same : p = q
  · rw [if_pos same, same]
    exact load_store_same m _ v (by omega)
  · rw [if_neg same]
    apply cell_congr
    intro i bound
    apply store_outside
    intro inside
    have range := (within_cell_iff second (by omega)).mp inside
    rcases Nat.lt_or_gt_of_ne same with below | above
    · have next : size * (p + 1) ≤ size * q := Nat.mul_le_mul_left size below
      omega
    · have next : size * (q + 1) ≤ size * p := Nat.mul_le_mul_left size above
      omega

theorem cell_copy (size : Nat) (m : Memory w) {p src dst n : Nat} (first : size * (p + 1) ≤ 2 ^ w)
    (target : size * (dst + n) ≤ 2 ^ w) :
    cell (copy m (cellAddr base size dst) (cellAddr base size src) (size * n)) base size p =
      if dst ≤ p ∧ p < dst + n then cell m base size (p - dst + src) else cell m base size p := by
  have rangeP : size * (p + 1) = size * p + size := Nat.mul_succ size p
  by_cases moved : dst ≤ p ∧ p < dst + n
  · rw [if_pos moved]
    apply cell_congr
    intro i bound
    have start : size * dst ≤ size * p := Nat.mul_le_mul_left size moved.1
    have stop : size * (p + 1) ≤ size * (dst + n) := Nat.mul_le_mul_left size moved.2
    have offset : size * (p - dst) = size * p - size * dst := Nat.mul_sub size p dst
    have inside : Within (base + BitVec.ofNat w (size * p + i)) (cellAddr base size dst)
        (size * n) := (within_cells_iff target (by omega)).mpr (by omega)
    have split : base + BitVec.ofNat w (size * p + i) =
        cellAddr base size dst + BitVec.ofNat w (size * (p - dst) + i) := by
      rw [cellAddr_offset, offset]
      congr 2
      omega
    rw [copy, if_pos inside, split, offset_sub, cellAddr_offset, Nat.mul_add]
    congr 3
    omega
  · rw [if_neg moved]
    apply cell_congr
    intro i bound
    apply copy_outside
    intro inside
    have range := (within_cells_iff target (by omega)).mp inside
    rcases not_and_or.mp moved with before | behind
    · have next : size * (p + 1) ≤ size * dst := Nat.mul_le_mul_left size (by omega)
      omega
    · have next : size * (dst + n) ≤ size * p := Nat.mul_le_mul_left size (by omega)
      omega

end ByteMemory
