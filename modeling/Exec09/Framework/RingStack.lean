import Exec09.Framework.Words

/-!
# A stack in a ring of addresses

A stack that grows downwards in 64K of memory and may wrap through address zero.  Addresses are
32-bit words below `2 ^ 16`; `above S i` is the `i`-th address from the stack pointer on and
`below S i` the `i`-th one under it.  `Holds mem S l` says that the bytes from the stack pointer on
are those of the list `l`: pushing is `List.cons` as long as the list does not fill the ring.
-/

namespace RingStack

variable {β : Type}

/-- The `i`-th address from `S` on. -/
def above (S : BitVec 32) (i : Nat) : BitVec 32 := (S + BitVec.ofNat 32 i) &&& 0xffff

/-- The `i`-th address under `S`. -/
def below (S : BitVec 32) (i : Nat) : BitVec 32 := (S - BitVec.ofNat 32 i) &&& 0xffff

lemma toNat_above (S : BitVec 32) (i : Nat) : (above S i).toNat = (S.toNat + i) % 65536 := by
  rw [above, Words.toNat_and_low 16 (by decide), BitVec.toNat_add, BitVec.toNat_ofNat]
  omega

lemma toNat_below (S : BitVec 32) {i : Nat} (hi : i ≤ 65536) :
    (below S i).toNat = (S.toNat + 65536 - i) % 65536 := by
  rw [below, Words.toNat_and_low 16 (by decide), BitVec.toNat_sub, BitVec.toNat_ofNat]
  omega

lemma below_lt (S : BitVec 32) (i : Nat) : (below S i).toNat < 2 ^ 16 :=
  Words.and_low_lt 16 (by decide)

lemma above_zero {S : BitVec 32} (hS : S.toNat < 2 ^ 16) : above S 0 = S := by
  apply BitVec.eq_of_toNat_eq
  rw [toNat_above]
  omega

lemma below_zero {S : BitVec 32} (hS : S.toNat < 2 ^ 16) : below S 0 = S := by
  apply BitVec.eq_of_toNat_eq
  rw [toNat_below S (by decide)]
  omega

lemma below_below (S : BitVec 32) {i j : Nat} (h : i + j ≤ 65536) :
    below (below S i) j = below S (i + j) := by
  apply BitVec.eq_of_toNat_eq
  rw [toNat_below _ (by omega), toNat_below _ (by omega), toNat_below _ (by omega)]
  omega

lemma above_above (S : BitVec 32) (i j : Nat) : above (above S i) j = above S (i + j) := by
  apply BitVec.eq_of_toNat_eq
  rw [toNat_above, toNat_above, toNat_above]
  omega

lemma above_below (S : BitVec 32) {i j : Nat} (hi : i ≤ 65536) :
    above (below S i) (i + j) = above S j := by
  apply BitVec.eq_of_toNat_eq
  rw [toNat_above, toNat_above, toNat_below S hi]
  omega

/-- Going up again by part of the way. -/
lemma above_of_below (S : BitVec 32) {i j : Nat} (h : i + j ≤ 65536) :
    above (below S (i + j)) j = below S i := by
  apply BitVec.eq_of_toNat_eq
  rw [toNat_above, toNat_below S h, toNat_below S (by omega)]
  omega

/-- Addresses less than a whole turn apart are different. -/
lemma above_ne (S : BitVec 32) {i j : Nat} (hij : i < j) (hj : j < i + 65536) :
    above S i ≠ above S j := by
  intro h
  have h' := congrArg BitVec.toNat h
  rw [toNat_above, toNat_above] at h'
  omega

/-- The bytes from `S` on are those of `l`. -/
def Holds (mem : BitVec 32 → β) (S : BitVec 32) (l : List β) : Prop :=
  ∀ i (h : i < l.length), mem (above S i) = l.get ⟨i, h⟩

lemma Holds.congr {mem mem' : BitVec 32 → β} {S : BitVec 32} {l : List β} (h : Holds mem S l)
    (hm : ∀ i < l.length, mem' (above S i) = mem (above S i)) : Holds mem' S l :=
  fun i hi => (hm i hi).trans (h i hi)

/-- Pushing one byte. -/
lemma Holds.push {mem mem' : BitVec 32 → β} {S : BitVec 32} {l : List β} {b : β}
    (h : Holds mem S l) (hb : mem' (below S 1) = b)
    (hm : ∀ i < l.length, mem' (above S i) = mem (above S i)) : Holds mem' (below S 1) (b :: l) := by
  intro i hi
  cases i with
  | zero =>
    rw [above_zero (below_lt S 1)]
    exact hb
  | succ i =>
    have hi' : i < l.length := Nat.lt_of_succ_lt_succ hi
    have hup : above (below S 1) (i + 1) = above S i := by
      rw [Nat.add_comm, above_below S (by decide)]
    rw [hup, hm i hi']
    exact h i hi'

/-- Pulling one byte. -/
lemma Holds.pull {mem : BitVec 32 → β} {S : BitVec 32} {l : List β} {b : β}
    (h : Holds mem S (b :: l)) : mem (above S 0) = b ∧ Holds mem (above S 1) l := by
  refine ⟨h 0 (Nat.zero_lt_succ _), fun i hi => ?_⟩
  have hnext : above (above S 1) i = above S (i + 1) := by rw [above_above, Nat.add_comm]
  rw [hnext]
  exact h (i + 1) (Nat.succ_lt_succ hi)

end RingStack
