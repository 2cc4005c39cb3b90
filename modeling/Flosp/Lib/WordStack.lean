import Flosp.Lib.ByteMemory

/-! A stack of words in byte memory that grows towards lower addresses. -/

namespace WordStack

open ByteMemory

variable {w n : Nat}

/-- `words` are the words of `n` bytes from `p` on, the first of them at `p`. -/
def Holds (m : Memory w) : BitVec w → List (BitVec (8 * n)) → Prop
  | _, [] => True
  | p, v :: words => load m p n = v ∧ Holds m (p + BitVec.ofNat w n) words

variable {m m' : Memory w} {p : BitVec w} {v : BitVec (8 * n)} {words : List (BitVec (8 * n))}

@[simp] theorem holds_nil : Holds m p ([] : List (BitVec (8 * n))) := trivial

@[simp] theorem holds_cons :
    Holds m p (v :: words) ↔ load m p n = v ∧ Holds m (p + BitVec.ofNat w n) words := Iff.rfl

theorem Holds.congr (holds : Holds m p words) (small : n * words.length ≤ 2 ^ w)
    (same : ∀ x, Within x p (n * words.length) → m x = m' x) : Holds m' p words := by
  induction words generalizing p with
  | nil => trivial
  | cons v words ih =>
      have length : n * (v :: words).length = n + n * words.length := by
        rw [List.length_cons, Nat.mul_succ, Nat.add_comm]
      rw [length] at small same
      constructor
      · rw [← holds.1]
        exact (load_congr_within (by omega) fun x inside => same x (inside.mono (by omega))).symm
      · exact ih holds.2 (by omega) fun x inside => same x (within_of_sub (by omega) inside)

theorem Holds.push (holds : Holds m p words) (room : n * (words.length + 1) ≤ 2 ^ w)
    (v : BitVec (8 * n)) :
    Holds (store m (p - BitVec.ofNat w n) v) (p - BitVec.ofNat w n) (v :: words) := by
  have length : n * (words.length + 1) = n + n * words.length := by
    rw [Nat.mul_succ, Nat.add_comm]
  have top : p - BitVec.ofNat w n + BitVec.ofNat w n = p := BitVec.sub_add_cancel ..
  refine ⟨load_store_same m _ v (by omega), ?_⟩
  rw [top]
  refine holds.congr (by omega) fun x inside => (store_outside fun pushed => ?_).symm
  have whole : Within x (p - BitVec.ofNat w n) (n + n * words.length) := by
    rw [← top] at inside
    exact within_of_sub (by omega) inside
  rw [← top, within_sub_iff whole (by omega) (by omega)] at inside
  exact absurd pushed (Nat.not_lt_of_le inside.1)

theorem Holds.get (holds : Holds m p words) {i : Nat} (found : words[i]? = some v) :
    load m (p + BitVec.ofNat w (n * i)) n = v := by
  induction words generalizing p i with
  | nil => simp at found
  | cons u words ih =>
      cases i with
      | zero =>
          rw [List.getElem?_cons_zero, Option.some_inj] at found
          rw [Nat.mul_zero, BitVec.add_zero, ← found]
          exact holds.1
      | succ i =>
          rw [List.getElem?_cons_succ] at found
          calc load m (p + BitVec.ofNat w (n * (i + 1))) n
              = load m (p + BitVec.ofNat w n + BitVec.ofNat w (n * i)) n := by
                rw [offset_add, Nat.mul_succ, Nat.add_comm]
            _ = v := ih holds.2 found

theorem Holds.set (holds : Holds m p words) (small : n * words.length ≤ 2 ^ w) {i : Nat}
    (below : i < words.length) (v : BitVec (8 * n)) :
    Holds (store m (p + BitVec.ofNat w (n * i)) v) p (words.set i v) := by
  induction words generalizing p i with
  | nil => simp at below
  | cons u words ih =>
      have length : n * (u :: words).length = n + n * words.length := by
        rw [List.length_cons, Nat.mul_succ, Nat.add_comm]
      rw [length] at small
      cases i with
      | zero =>
          rw [Nat.mul_zero, BitVec.add_zero, List.set_cons_zero]
          refine ⟨load_store_same m p v (by omega), holds.2.congr (by omega) fun x inside => ?_⟩
          have whole := within_of_sub (by omega) inside
          rw [within_sub_iff whole (by omega) (by omega)] at inside
          exact (store_outside fun stored => absurd stored (Nat.not_lt_of_le inside.1)).symm
      | succ i =>
          rw [List.length_cons] at below
          have next : n * (i + 1) = n + n * i := by rw [Nat.mul_succ, Nat.add_comm]
          have fits : n * i + n ≤ n * words.length := by
            rw [← Nat.mul_succ]
            exact Nat.mul_le_mul_left n (by omega)
          rw [next, ← offset_add, List.set_cons_succ]
          refine ⟨?_, ih holds.2 (by omega) (by omega)⟩
          rw [← holds.1]
          refine load_congr_within (by omega) fun x inside => store_outside fun stored => ?_
          rw [offset_add] at stored
          have whole : Within x p (n + n * words.length) := inside.mono (by omega)
          rw [within_sub_iff whole (by omega) (by omega)] at stored
          exact absurd inside (Nat.not_lt_of_le (by omega))

theorem Holds.drop {front : List (BitVec (8 * n))} (holds : Holds m p (front ++ words)) :
    Holds m (p + BitVec.ofNat w (n * front.length)) words := by
  induction front generalizing p with
  | nil => simpa using holds
  | cons u front ih =>
      have rest := ih holds.2
      rw [offset_add] at rest
      rw [List.length_cons, Nat.mul_succ, Nat.add_comm]
      exact rest

end WordStack
