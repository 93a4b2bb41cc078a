import Mathlib.Algebra.Group.Int.Defs
import Mathlib.Algebra.Group.Nat.Defs
import Mathlib.Tactic.Common

/-!
# Masks on machine words

Facts about `&&&` with the two kinds of mask that C code on bytes and words uses: one bit
(`BitVec.twoPow`) and the low `k` bits (`2 ^ k - 1`), with the bounds on shifts, unions and
concatenations of small words that follow.
-/

namespace Words

variable {w : Nat}

/-! ## One bit -/

lemma and_twoPow_eq_zero {x : BitVec w} {i : Nat} (hi : i < w) :
    x &&& BitVec.twoPow w i = 0#w ↔ x.getLsbD i = false := by
  rw [BitVec.and_twoPow]
  cases h : x.getLsbD i
  · simp
  · simp only [if_true, reduceCtorEq, iff_false]
    intro h0
    have := congrArg (fun y => BitVec.getLsbD y i) h0
    simp [hi] at this

/-- A mask of one bit, given as a literal. -/
lemma and_bit_eq_zero {x m : BitVec w} (i : Nat) (hi : i < w) (hm : m = BitVec.twoPow w i) :
    x &&& m = 0#w ↔ x.getLsbD i = false := by
  rw [hm, and_twoPow_eq_zero hi]

/-! ## Low bits -/

/-- Masking with the low `k` bits is reduction modulo `2 ^ k`. -/
lemma toNat_and_low {x m : BitVec w} (k : Nat) (hm : m.toNat = 2 ^ k - 1) :
    (x &&& m).toNat = x.toNat % 2 ^ k := by
  rw [BitVec.toNat_and, hm, Nat.and_two_pow_sub_one_eq_mod]

lemma and_low_lt {x m : BitVec w} (k : Nat) (hm : m.toNat = 2 ^ k - 1) :
    (x &&& m).toNat < 2 ^ k := by
  rw [toNat_and_low k hm]
  exact Nat.mod_lt _ (Nat.two_pow_pos k)

/-- A word already below `2 ^ k` is not changed by the mask. -/
lemma and_low_eq {x m : BitVec w} (k : Nat) (hm : m.toNat = 2 ^ k - 1) (hx : x.toNat < 2 ^ k) :
    x &&& m = x := by
  apply BitVec.eq_of_toNat_eq
  rw [toNat_and_low k hm, Nat.mod_eq_of_lt hx]

/-- Arithmetic under a mask: the summands may be masked beforehand. -/
lemma and_low_add_left {x y m : BitVec w} (k : Nat) (hk : k ≤ w) (hm : m.toNat = 2 ^ k - 1) :
    ((x &&& m) + y) &&& m = (x + y) &&& m := by
  apply BitVec.eq_of_toNat_eq
  have hd : 2 ^ k ∣ 2 ^ w := Nat.pow_dvd_pow 2 hk
  rw [toNat_and_low k hm, toNat_and_low k hm, BitVec.toNat_add, BitVec.toNat_add,
    toNat_and_low k hm, Nat.mod_mod_of_dvd _ hd, Nat.mod_mod_of_dvd _ hd, Nat.mod_add_mod]

lemma and_low_sub_left {x y m : BitVec w} (k : Nat) (hk : k ≤ w) (hm : m.toNat = 2 ^ k - 1) :
    ((x &&& m) - y) &&& m = (x - y) &&& m := by
  rw [BitVec.sub_eq_add_neg, BitVec.sub_eq_add_neg, and_low_add_left k hk hm]

/-! ## Bounds -/

lemma or_lt {x y : BitVec w} {k : Nat} (hx : x.toNat < 2 ^ k) (hy : y.toNat < 2 ^ k) :
    (x ||| y).toNat < 2 ^ k := by
  rw [BitVec.toNat_or]
  exact Nat.or_lt_two_pow hx hy

lemma xor_lt {x y : BitVec w} {k : Nat} (hx : x.toNat < 2 ^ k) (hy : y.toNat < 2 ^ k) :
    (x ^^^ y).toNat < 2 ^ k := by
  rw [BitVec.toNat_xor]
  exact Nat.xor_lt_two_pow hx hy

lemma and_lt {x y : BitVec w} {k : Nat} (hx : x.toNat < 2 ^ k) : (x &&& y).toNat < 2 ^ k := by
  rw [BitVec.toNat_and]
  exact Nat.lt_of_le_of_lt Nat.and_le_left hx

lemma shiftRight_lt {x : BitVec w} {k n : Nat} (hx : x.toNat < 2 ^ (k + n)) :
    (x >>> n).toNat < 2 ^ k := by
  rw [BitVec.toNat_ushiftRight, Nat.shiftRight_eq_div_pow]
  exact Nat.div_lt_of_lt_mul (by rwa [Nat.pow_add, Nat.mul_comm] at hx)

lemma shiftLeft_lt {x : BitVec w} {k n : Nat} (hx : x.toNat < 2 ^ k) :
    (x <<< n).toNat < 2 ^ (k + n) := by
  rw [BitVec.toNat_shiftLeft, Nat.shiftLeft_eq, Nat.pow_add]
  exact Nat.lt_of_le_of_lt (Nat.mod_le _ _) (Nat.mul_lt_mul_of_pos_right hx (Nat.two_pow_pos n))

lemma setWidth_lt {v k : Nat} (x : BitVec k) : (x.setWidth v).toNat < 2 ^ k := by
  rw [BitVec.toNat_setWidth]
  exact Nat.lt_of_le_of_lt (Nat.mod_le _ _) x.isLt

end Words
