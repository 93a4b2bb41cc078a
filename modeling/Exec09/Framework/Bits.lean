import Exec09.Framework.Words

/-!
# Bits of a machine word as numbers

A bit is the number `x / 2 ^ i % 2`.  Tests of one bit of an expression in `^^^`, `&&&` and shifts
become linear arithmetic on the values of its operands.
-/

namespace Words

variable {w : Nat}

/-- Bit `i`, as a number. -/
def bit (x : BitVec w) (i : Nat) : Nat := x.toNat / 2 ^ i % 2

lemma bit_lt (x : BitVec w) (i : Nat) : bit x i < 2 := Nat.mod_lt _ (by decide)

lemma bit_eq_toNat (x : BitVec w) (i : Nat) : bit x i = (x.getLsbD i).toNat := by
  have h := Nat.testBit_eq_decide_div_mod_eq (x := x.toNat) (i := i)
  have hlt := bit_lt x i
  change x.getLsbD i = _ at h
  rw [h, bit]
  rw [bit] at hlt
  by_cases h1 : x.toNat / 2 ^ i % 2 = 1
  · simp [h1]
  · have h0 : x.toNat / 2 ^ i % 2 = 0 := by omega
    simp [h0]

lemma bit_xor (x y : BitVec w) (i : Nat) : bit (x ^^^ y) i = (bit x i + bit y i) % 2 := by
  rw [bit_eq_toNat, bit_eq_toNat, bit_eq_toNat, BitVec.getLsbD_xor]
  cases x.getLsbD i <;> cases y.getLsbD i <;> rfl

lemma bit_and (x y : BitVec w) (i : Nat) : bit (x &&& y) i = min (bit x i) (bit y i) := by
  rw [bit_eq_toNat, bit_eq_toNat, bit_eq_toNat, BitVec.getLsbD_and]
  cases x.getLsbD i <;> cases y.getLsbD i <;> rfl

lemma bit_ushiftRight (x : BitVec w) (k i : Nat) : bit (x >>> k) i = bit x (k + i) := by
  rw [bit_eq_toNat, bit_eq_toNat, BitVec.getLsbD_ushiftRight]

/-- A mask of one bit tests that bit. -/
lemma and_ne_zero_iff {x m : BitVec w} (i : Nat) (hi : i < w) (hm : m = BitVec.twoPow w i) :
    x &&& m ≠ 0 ↔ bit x i = 1 := by
  have h := and_bit_eq_zero (x := x) i hi hm
  rw [bit_eq_toNat]
  cases hb : x.getLsbD i
  · simpa [hb] using h
  · simpa [hb] using h

end Words
