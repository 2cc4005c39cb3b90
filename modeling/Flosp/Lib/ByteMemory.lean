import Mathlib.Data.BitVec
import Mathlib.Logic.Function.Basic
import Mathlib.Tactic.Ring

/-! Byte-addressed memory over a `w`-bit address space. Ranges are sets of
addresses at an offset below a length from their start, so a range may wrap
round the end of the address space and no lemma asks that it does not. -/

namespace ByteMemory

abbrev Memory (w : Nat) := BitVec w → BitVec 8

/-- `a` is one of the `len` bytes from `start` on. -/
def Within {w : Nat} (a start : BitVec w) (len : Nat) : Prop := (a - start).toNat < len

instance {w : Nat} (a start : BitVec w) (len : Nat) : Decidable (Within a start len) :=
  inferInstanceAs (Decidable (_ < _))

def Apart {w : Nat} (s : BitVec w) (m : Nat) (t : BitVec w) (n : Nat) : Prop :=
  ∀ a, Within a s m → ¬ Within a t n

variable {w : Nat}

theorem Apart.symm {s t : BitVec w} {m n : Nat} (apart : Apart s m t n) : Apart t n s m :=
  fun a inside other => apart a other inside

theorem Within.mono {a s : BitVec w} {m n : Nat} (inside : Within a s m) (bound : m ≤ n) :
    Within a s n :=
  Nat.lt_of_lt_of_le inside bound

theorem not_within_zero (a s : BitVec w) : ¬ Within a s 0 := Nat.not_lt_zero _

theorem within_full (a s : BitVec w) {len : Nat} (full : 2 ^ w ≤ len) : Within a s len :=
  Nat.lt_of_lt_of_le (a - s).isLt full

theorem offset_sub (s : BitVec w) (i : Nat) : s + BitVec.ofNat w i - s = BitVec.ofNat w i := by
  rw [BitVec.add_comm, BitVec.add_sub_cancel]

theorem within_offset {s : BitVec w} {i len : Nat} (bound : i < len) (small : len ≤ 2 ^ w) :
    Within (s + BitVec.ofNat w i) s len := by
  rw [Within, offset_sub, BitVec.toNat_ofNat, Nat.mod_eq_of_lt (by omega)]
  exact bound

theorem within_offset_iff {s : BitVec w} {i len : Nat} (bound : i < 2 ^ w) :
    Within (s + BitVec.ofNat w i) s len ↔ i < len := by
  rw [Within, offset_sub, BitVec.toNat_ofNat, Nat.mod_eq_of_lt bound]

theorem eq_offset (a s : BitVec w) : a = s + BitVec.ofNat w (a - s).toNat := by
  rw [BitVec.ofNat_toNat, BitVec.setWidth_eq, BitVec.add_comm, BitVec.sub_add_cancel]

theorem within_iff_exists {a s : BitVec w} {len : Nat} (small : len ≤ 2 ^ w) :
    Within a s len ↔ ∃ i, i < len ∧ a = s + BitVec.ofNat w i := by
  constructor
  · intro inside
    exact ⟨(a - s).toNat, inside, eq_offset a s⟩
  · rintro ⟨i, bound, rfl⟩
    exact within_offset bound small

theorem offset_add (s : BitVec w) (i j : Nat) :
    s + BitVec.ofNat w i + BitVec.ofNat w j = s + BitVec.ofNat w (i + j) := by
  rw [BitVec.ofNat_add, BitVec.add_assoc]

theorem within_sub_iff {a s : BitVec w} {i len big : Nat} (inside : Within a s big)
    (fits : i + len ≤ big) (small : big ≤ 2 ^ w) :
    Within a (s + BitVec.ofNat w i) len ↔ i ≤ (a - s).toNat ∧ (a - s).toNat < i + len := by
  have bound : (a - s).toNat < big := inside
  by_cases empty : len = 0
  · subst empty
    constructor
    · intro absurd
      exact (not_within_zero _ _ absurd).elim
    · intro range
      omega
  have index : i < 2 ^ w := by omega
  have split : a - (s + BitVec.ofNat w i) = (a - s) - BitVec.ofNat w i := by
    rw [BitVec.sub_eq_add_neg, BitVec.neg_add, BitVec.sub_eq_add_neg (a - s),
      BitVec.sub_eq_add_neg a, BitVec.add_assoc, BitVec.sub_eq_add_neg]
  rw [Within, split, BitVec.toNat_sub, BitVec.toNat_ofNat, Nat.mod_eq_of_lt index]
  rcases Nat.lt_or_ge (a - s).toNat i with below | above
  · rw [Nat.mod_eq_of_lt (by omega)]
    constructor <;> intro range <;> omega
  · have wrap : 2 ^ w - i + (a - s).toNat = (a - s).toNat - i + 2 ^ w := by omega
    rw [wrap, Nat.add_mod_right, Nat.mod_eq_of_lt (by omega)]
    constructor <;> intro range <;> omega

theorem within_iff_toNat {a s : BitVec w} {len : Nat} (straight : s.toNat + len ≤ 2 ^ w) :
    Within a s len ↔ s.toNat ≤ a.toNat ∧ a.toNat < s.toNat + len := by
  have start := s.isLt
  have target := a.isLt
  rw [Within, BitVec.toNat_sub]
  rcases Nat.lt_or_ge a.toNat s.toNat with below | above
  · rw [Nat.mod_eq_of_lt (by omega)]
    omega
  · have wrap : 2 ^ w - s.toNat + a.toNat = a.toNat - s.toNat + 2 ^ w := by omega
    rw [wrap, Nat.add_mod_right, Nat.mod_eq_of_lt (by omega)]
    omega

theorem within_of_sub {a s : BitVec w} {i len : Nat} (fits : i + len ≤ 2 ^ w)
    (inside : Within a (s + BitVec.ofNat w i) len) : Within a s (i + len) := by
  rcases (within_iff_exists (by omega)).mp inside with ⟨j, bound, rfl⟩
  rw [offset_add]
  exact within_offset (by omega) fits

theorem elements_within_iff {s : BitVec w} {size turns len : Nat} (some : 0 < size)
    (small : size * turns ≤ 2 ^ w) :
    (∀ j, j < turns → ∀ x, Within x (s + BitVec.ofNat w (size * j)) size → Within x s len) ↔
      size * turns ≤ len := by
  constructor
  · intro inside
    rcases Nat.eq_zero_or_pos turns with rfl | more
    · exact Nat.zero_le len
    · have last : size * (turns - 1) + size = size * turns := by
        rw [← Nat.mul_succ, Nat.succ_eq_add_one, Nat.sub_add_cancel more]
      have byte := inside (turns - 1) (by omega) _ (within_offset (i := size - 1) (by omega)
        (by omega))
      rw [offset_add, within_offset_iff (by omega)] at byte
      omega
  · intro enough j below x inside
    have next : size * j + size ≤ size * turns := by
      rw [← Nat.mul_succ]
      exact Nat.mul_le_mul_left size below
    exact (within_of_sub (by omega) inside).mono (by omega)

/-! Little-endian loads and stores of `n` bytes. -/

def load (m : Memory w) : BitVec w → (n : Nat) → BitVec (8 * n)
  | _, 0 => 0#0
  | a, n + 1 => load m (a + 1) n ++ m a

def byteOf {n : Nat} (v : BitVec (8 * n)) (i : Nat) : BitVec 8 := v.extractLsb' (8 * i) 8

def store (m : Memory w) (a : BitVec w) {n : Nat} (v : BitVec (8 * n)) : Memory w := fun x =>
  if Within x a n then byteOf v (x - a).toNat else m x

/-- The effect of moving `n` bytes from `src` to `dst`, read before written. -/
def copy (m : Memory w) (dst src : BitVec w) (n : Nat) : Memory w := fun x =>
  if Within x dst n then m (src + (x - dst)) else m x

def fill (m : Memory w) (dst : BitVec w) (n : Nat) (v : BitVec 8) : Memory w := fun x =>
  if Within x dst n then v else m x

/-- `m` with `bytes` from `a` on. -/
def overlay (m : Memory w) (a : BitVec w) (bytes : List (BitVec 8)) : Memory w := fun x =>
  bytes.getD (x - a).toNat (m x)

theorem store_outside {m : Memory w} {a x : BitVec w} {n : Nat} {v : BitVec (8 * n)}
    (outside : ¬ Within x a n) : store m a v x = m x :=
  if_neg outside

theorem copy_outside {m : Memory w} {dst src x : BitVec w} {n : Nat}
    (outside : ¬ Within x dst n) : copy m dst src n x = m x :=
  if_neg outside

theorem fill_outside {m : Memory w} {dst x : BitVec w} {n : Nat} {v : BitVec 8}
    (outside : ¬ Within x dst n) : fill m dst n v x = m x :=
  if_neg outside

theorem copy_zero (m : Memory w) (dst src : BitVec w) : copy m dst src 0 = m := by
  funext x
  exact copy_outside (not_within_zero x dst)

theorem getLsbD_load (m : Memory w) (a : BitVec w) (n k : Nat) (bound : k < 8 * n) :
    (load m a n).getLsbD k = (m (a + BitVec.ofNat w (k / 8))).getLsbD (k % 8) := by
  induction n generalizing a k with
  | zero => omega
  | succ n ih =>
      change (load m (a + 1) n ++ m a).getLsbD k = _
      rw [BitVec.getLsbD_append]
      by_cases low : k < 8
      · have zero : k / 8 = 0 := by omega
        rw [if_pos low, zero, Nat.mod_eq_of_lt low]
        simp
      · have step : k / 8 = 1 + (k - 8) / 8 := by omega
        have mod : k % 8 = (k - 8) % 8 := by omega
        rw [if_neg low, ih (a + 1) (k - 8) (by omega), step, mod, ← offset_add]
        rfl

theorem byteOf_load (m : Memory w) (a : BitVec w) {n i : Nat} (bound : i < n) :
    byteOf (load m a n) i = m (a + BitVec.ofNat w i) := by
  apply BitVec.eq_of_getLsbD_eq
  intro k hk
  have index : (8 * i + k) / 8 = i := by omega
  have bit : (8 * i + k) % 8 = k := by omega
  rw [byteOf, BitVec.getLsbD_extractLsb', getLsbD_load m a n (8 * i + k) (by omega), index, bit]
  simp [hk]

theorem load_congr {m m' : Memory w} {a a' : BitVec w} {n : Nat}
    (same : ∀ i, i < n → m (a + BitVec.ofNat w i) = m' (a' + BitVec.ofNat w i)) :
    load m a n = load m' a' n := by
  apply BitVec.eq_of_getLsbD_eq
  intro k hk
  rw [getLsbD_load m a n k hk, getLsbD_load m' a' n k hk, same (k / 8) (by omega)]

theorem load_congr_within {m m' : Memory w} {a : BitVec w} {n : Nat} (small : n ≤ 2 ^ w)
    (same : ∀ x, Within x a n → m x = m' x) : load m a n = load m' a n :=
  load_congr fun _ bound => same _ (within_offset bound small)

theorem load_store_same (m : Memory w) (a : BitVec w) {n : Nat} (v : BitVec (8 * n))
    (small : n ≤ 2 ^ w) : load (store m a v) a n = v := by
  apply BitVec.eq_of_getLsbD_eq
  intro k hk
  have inside : Within (a + BitVec.ofNat w (k / 8)) a n := within_offset (by omega) small
  have index : 8 * (k / 8) + k % 8 = k := by omega
  rw [getLsbD_load _ a n k hk, store, if_pos inside, offset_sub, BitVec.toNat_ofNat,
    Nat.mod_eq_of_lt (by omega), byteOf, BitVec.getLsbD_extractLsb', index]
  simp [Nat.mod_lt k (by decide : 0 < 8)]

theorem load_store_apart {m : Memory w} {a b : BitVec w} {n k : Nat} {v : BitVec (8 * n)}
    (apart : Apart b k a n) (small : k ≤ 2 ^ w) : load (store m a v) b k = load m b k :=
  load_congr_within small fun x inside => store_outside (apart x inside)

theorem extract_load (m : Memory w) (a : BitVec w) {n i k : Nat} (fits : i + k ≤ n) :
    (load m a n).extractLsb' (8 * i) (8 * k) = load m (a + BitVec.ofNat w i) k := by
  apply BitVec.eq_of_getLsbD_eq
  intro j hj
  have index : (8 * i + j) / 8 = i + j / 8 := by omega
  have bit : (8 * i + j) % 8 = j % 8 := by omega
  rw [BitVec.getLsbD_extractLsb', getLsbD_load m a n (8 * i + j) (by omega),
    getLsbD_load m _ k j hj, index, bit, offset_add, decide_eq_true hj, Bool.true_and]

theorem load_one (m : Memory w) (a : BitVec w) : load m a 1 = m a := by
  apply BitVec.eq_of_getLsbD_eq
  intro k hk
  have first : k / 8 = 0 := by omega
  have bit : k % 8 = k := by omega
  rw [getLsbD_load m a 1 k (by omega), first, bit, BitVec.add_zero]

theorem store_load (m m' : Memory w) (dst src : BitVec w) (n : Nat)
    (same : ∀ i, i < n → m (src + BitVec.ofNat w i) = m' (src + BitVec.ofNat w i))
    (x : BitVec w) (inside : Within x dst n) :
    store m dst (load m src n) x = m' (src + (x - dst)) := by
  have bound : (x - dst).toNat < n := inside
  rw [store, if_pos inside, byteOf_load m src bound, same _ bound, BitVec.ofNat_toNat,
    BitVec.setWidth_eq]

/-- A copy of `n` bytes in rising order reads every byte before it is overwritten. -/
def Forward (dst src : BitVec w) (n : Nat) : Prop :=
  dst = src ∨ n ≤ (dst - src).toNat

theorem store_load_eq_copy (m : Memory w) (dst src : BitVec w) (n : Nat) :
    store m dst (load m src n) = copy m dst src n := by
  funext x
  by_cases inside : Within x dst n
  · rw [store_load m m dst src n (fun _ _ => rfl) x inside, copy, if_pos inside]
  · rw [store_outside inside, copy_outside inside]

namespace Forward

variable {dst src : BitVec w} {m n : Nat}

theorem mono (forward : Forward dst src n) (bound : m ≤ n) : Forward dst src m :=
  forward.imp_right (Nat.le_trans bound)

theorem of_apart (apart : Apart dst n src n) : Forward dst src n := by
  by_contra neither
  rcases not_or.mp neither with ⟨-, ahead⟩
  have inside : Within dst src n := Nat.lt_of_not_le ahead
  have first : Within dst dst n := by
    rw [Within, BitVec.sub_self]
    exact Nat.lt_of_le_of_lt (Nat.zero_le _) inside
  exact apart dst first inside

theorem of_below (dst : BitVec w) {a n : Nat} (fits : a + n ≤ 2 ^ w) :
    Forward dst (dst + BitVec.ofNat w a) n := by
  rcases Nat.eq_zero_or_pos a with rfl | some
  · exact Or.inl (BitVec.add_zero dst).symm
  rcases Nat.eq_zero_or_pos n with rfl | more
  · exact Or.inr (Nat.zero_le _)
  · right
    have distance : dst - (dst + BitVec.ofNat w a) = 0 - BitVec.ofNat w a := by ring
    rw [distance, BitVec.toNat_sub, BitVec.toNat_ofNat, Nat.mod_eq_of_lt (a := a) (by omega)]
    change n ≤ (2 ^ w - a + 0) % 2 ^ w
    rw [Nat.add_zero, Nat.mod_eq_of_lt (by omega)]
    omega

theorem shift (forward : Forward dst src n) (offset : BitVec w) :
    Forward (dst + offset) (src + offset) n := by
  have distance : dst + offset - (src + offset) = dst - src := by ring
  rw [Forward, distance]
  exact forward.imp_left (congrArg (· + offset))

end Forward

theorem copy_offset (m : Memory w) (dst src : BitVec w) {i n : Nat} (bound : i < n)
    (small : n ≤ 2 ^ w) :
    copy m dst src n (dst + BitVec.ofNat w i) = m (src + BitVec.ofNat w i) := by
  rw [copy, if_pos (within_offset bound small), offset_sub]

theorem Forward.unread {dst src : BitVec w} {a i n : Nat} (forward : Forward dst src n)
    (late : a ≤ i) (bound : i < n) (small : n ≤ 2 ^ w) :
    ¬ Within (src + BitVec.ofNat w i) dst a := by
  rcases forward with same | ahead
  · rw [same, within_offset_iff (by omega)]
    omega
  · have apart : src + BitVec.ofNat w i - dst = BitVec.ofNat w i - (dst - src) := by
      ring
    have distance := (dst - src).isLt
    rw [Within, apart, BitVec.toNat_sub, BitVec.toNat_ofNat, Nat.mod_eq_of_lt (a := i) (by omega),
      Nat.mod_eq_of_lt (by omega)]
    omega

theorem copy_copy {m : Memory w} {dst src : BitVec w} {a b : Nat} (small : a + b ≤ 2 ^ w)
    (forward : Forward dst src (a + b)) :
    copy (copy m dst src a) (dst + BitVec.ofNat w a) (src + BitVec.ofNat w a) b =
      copy m dst src (a + b) := by
  funext x
  by_cases whole : Within x dst (a + b)
  · rcases (within_iff_exists small).mp whole with ⟨i, bound, rfl⟩
    rw [copy_offset m dst src bound small]
    rcases Nat.lt_or_ge i a with first | second
    · have early : ¬ Within (dst + BitVec.ofNat w i) (dst + BitVec.ofNat w a) b := by
        intro late
        have index := (within_sub_iff whole (Nat.le_refl _) small).mp late
        rw [offset_sub, BitVec.toNat_ofNat, Nat.mod_eq_of_lt (by omega)] at index
        omega
      rw [copy_outside early, copy_offset m dst src first (by omega)]
    · have split (s : BitVec w) :
          s + BitVec.ofNat w i = s + BitVec.ofNat w a + BitVec.ofNat w (i - a) := by
        rw [offset_add, Nat.add_sub_cancel' second]
      rw [split dst, copy_offset _ _ _ (by omega) (by omega), ← split src]
      exact copy_outside (forward.unread second bound small)
  · have late : ¬ Within x (dst + BitVec.ofNat w a) b := fun inside =>
      whole (within_of_sub small inside)
    have early : ¬ Within x dst a := fun inside => whole (inside.mono (Nat.le_add_right a b))
    rw [copy_outside late, copy_outside early, copy_outside whole]

end ByteMemory
