import Exec09.Properties.Chains

/-!
# Decimal addition

A packed decimal number has two digits in a byte.  Numbers of several bytes are added with `ADDA`,
then `ADCA`, each followed by `DAA`.  The invariant of the chain is the carry out of each byte,
which is always the decimal one.  The digits of a byte are not always right: `daa` tests for the two
reasons to correct the high digit separately and corrects it twice when both apply.
-/

namespace Exec09

/-- The `n` bytes of a packed decimal number, the least significant first. -/
def packed : Nat → Nat → List Unsigned
  | 0, _ => []
  | n + 1, x => BitVec.ofNat 32 (x % 100 / 10 * 16 + x % 10) :: packed n (x / 100)

/-- `ADDA`, `DAA`. -/
def addDaa (x : Unsigned × Unsigned) (f : Flags) : Unsigned × Flags :=
  let r := Alu.add x.1 x.2 f
  Alu.daa r.1 r.2

/-- `ADCA`, `DAA`. -/
def adcDaa (x : Unsigned × Unsigned) (f : Flags) : Unsigned × Flags :=
  let r := Alu.adc x.1 x.2 f
  Alu.daa r.1 r.2

/-- The decimal addition of two numbers of `n` bytes. -/
def addPacked (n a b : Nat) (f : Flags) : List Unsigned × Flags :=
  chain addDaa adcDaa ((packed n a).zip (packed n b)) f

/-! ## One byte -/

/-- `daa` corrects the high digit twice: neither sum of digits is a digit, and neither wraps in
its nibble. -/
def Twice (low high : Nat) : Prop := (10 ≤ low ∧ low ≤ 15) ∧ 10 ≤ high ∧ high ≤ 15

instance (low high : Nat) : Decidable (Twice low high) := inferInstanceAs (Decidable (_ ∧ _))

lemma packed_succ (n x : Nat) : packed (n + 1) x =
    BitVec.ofNat 32 (x % 100 / 10 * 16 + x % 10) :: packed n (x / 100) := rfl

lemma toNat_packed_byte (x : Nat) :
    (BitVec.ofNat 32 (x % 100 / 10 * 16 + x % 10)).toNat = x % 100 / 10 * 16 + x % 10 := by
  rw [BitVec.toNat_ofNat]
  omega

lemma carry_eq_toNat {f : Flags} {b : Bool} (h : carryBit f.C = b) : f.carry = b.toNat := by
  rw [Flags.carry, h]

/-- One byte of the chain: the carry is the decimal one; the digits are right unless the high one is
corrected twice. -/
lemma adcDaa_digits {x y : Unsigned} {low high low' high' : Nat} (hx : x.toNat = high * 16 + low)
    (hy : y.toNat = high' * 16 + low') (hlow : low < 10) (hhigh : high < 10) (hlow' : low' < 10)
    (hhigh' : high' < 10) (f : Flags) :
    let sum := 10 * (high + high') + (low + low' + f.carry)
    (adcDaa (x, y) f).2.carry = sum / 100 ∧
    ((adcDaa (x, y) f).1.toNat = sum % 100 / 10 * 16 + sum % 10 ↔
      ¬Twice (low + low' + f.carry) (high + high')) := by
  intro sum
  have hc := f.carry_le
  have hbx : Byte x := show x.toNat < 2 ^ 8 by omega
  have hby : Byte y := show y.toNat < 2 ^ 8 by omega
  have hsum := Alu.toNat_adc hbx hby f
  have hcarry := Alu.carry_adc hbx hby f
  have hhalf := Alu.half_adc hbx hby f
  have hbyte : Byte (Alu.adc x y f).1 := show (Alu.adc x y f).1.toNat < 2 ^ 8 by omega
  have hone := Flags.carry_eq_one (f := (Alu.adc x y f).2)
  rw [hcarry] at hone
  have hvalue := Alu.toNat_daa hbyte (Alu.adc x y f).2
  have hout := Alu.carryBit_daa hbyte (Alu.adc x y f).2
  have hhalf' : halfBit (Alu.adc x y f).2.H = decide (16 ≤ low + low' + f.carry) := by
    rw [Bool.eq_iff_iff, hhalf, decide_eq_true_eq]
    omega
  have hcarry' : carryBit (Alu.adc x y f).2.C =
      decide (256 ≤ 16 * (high + high') + (low + low' + f.carry)) := by
    rw [carryBit, decide_eq_decide, ← hone]
    omega
  have hlow : low + low' + f.carry ≤ 19 := by omega
  have hhigh : high + high' ≤ 18 := by omega
  obtain ⟨hdecimal, hdigits⟩ :=
    Alu.adjusted_digits hlow hhigh (hsum.trans (by omega)) hhalf' hcarry'
  rw [hdecimal] at hout
  constructor
  · refine (carry_eq_toNat hout).trans ?_
    by_cases h : 100 ≤ 10 * (high + high') + (low + low' + f.carry)
    · rw [decide_eq_true h, Bool.toNat_true]
      omega
    · rw [decide_eq_false h, Bool.toNat_false]
      omega
  · rw [Twice, ← hdigits, ← hvalue]
    rfl

lemma adcDaa_packed (a b : Nat) (f : Flags) :
    let r := adcDaa (BitVec.ofNat 32 (a % 100 / 10 * 16 + a % 10),
      BitVec.ofNat 32 (b % 100 / 10 * 16 + b % 10)) f
    r.2.carry = (a % 100 + b % 100 + f.carry) / 100 ∧
    (r.1 = BitVec.ofNat 32 ((a + b + f.carry) % 100 / 10 * 16 + (a + b + f.carry) % 10) ↔
      ¬Twice (a % 10 + b % 10 + f.carry) (a % 100 / 10 + b % 100 / 10)) := by
  intro r
  have hc := f.carry_le
  obtain ⟨hcarry, hdigits⟩ := adcDaa_digits (toNat_packed_byte a) (toNat_packed_byte b)
    (by omega) (by omega) (by omega) (by omega) f
  have hsum : 10 * (a % 100 / 10 + b % 100 / 10) + (a % 10 + b % 10 + f.carry) =
      a % 100 + b % 100 + f.carry := by omega
  rw [hsum] at hcarry hdigits
  refine ⟨hcarry, ?_⟩
  rw [← hdigits, ← BitVec.toNat_inj, toNat_packed_byte]
  have hhundred : (a % 100 + b % 100 + f.carry) % 100 = (a + b + f.carry) % 100 := by omega
  have hten : (a % 100 + b % 100 + f.carry) % 10 = (a + b + f.carry) % 10 := by omega
  rw [hhundred, hten]

/-! ## The chain -/

/-- The decimal carry into byte `k`. -/
def carryInto (a b c k : Nat) : Nat := (a % 100 ^ k + b % 100 ^ k + c) / 100 ^ k

/-- The high digit of byte `k` is corrected twice. -/
def TwiceAt (a b c k : Nat) : Prop :=
  Twice (a / 100 ^ k % 10 + b / 100 ^ k % 10 + carryInto a b c k)
    (a / 100 ^ k % 100 / 10 + b / 100 ^ k % 100 / 10)

instance (a b c k : Nat) : Decidable (TwiceAt a b c k) := inferInstanceAs (Decidable (Twice _ _))

lemma carryInto_succ (a b c k : Nat) : carryInto a b c (k + 1) =
    carryInto (a / 100) (b / 100) ((a % 100 + b % 100 + c) / 100) k := by
  have split (x : Nat) : x % 100 ^ (k + 1) = 100 * (x / 100 % 100 ^ k) + x % 100 := by
    rw [Nat.pow_succ', Nat.mod_mul]
    omega
  rw [carryInto, carryInto, split, split, Nat.pow_succ', ← Nat.div_div_eq_div_mul]
  congr 1
  omega

lemma twiceAt_succ (a b c k : Nat) : TwiceAt a b c (k + 1) ↔
    TwiceAt (a / 100) (b / 100) ((a % 100 + b % 100 + c) / 100) k := by
  rw [TwiceAt, TwiceAt, carryInto_succ, Nat.pow_succ', ← Nat.div_div_eq_div_mul,
    ← Nat.div_div_eq_div_mul]

lemma twiceAt_zero (a b c : Nat) :
    TwiceAt a b c 0 ↔ Twice (a % 10 + b % 10 + c) (a % 100 / 10 + b % 100 / 10) := by
  have hzero : carryInto a b c 0 = c := by simp [carryInto, Nat.mod_one]
  rw [TwiceAt, hzero, Nat.pow_zero, Nat.div_one, Nat.div_one]

lemma packed_mod (n x : Nat) : packed n (x % 100 ^ n) = packed n x := by
  induction n generalizing x with
  | zero => rfl
  | succ n ih =>
    have hhigh : x % 100 ^ (n + 1) / 100 = x / 100 % 100 ^ n := by
      rw [Nat.pow_succ, Nat.mul_comm, Nat.mod_mul_right_div_self]
    have hlow : x % 100 ^ (n + 1) % 100 = x % 100 :=
      Nat.mod_mod_of_dvd x ⟨100 ^ n, Nat.pow_succ'⟩
    have hdigit : x % 100 ^ (n + 1) % 10 = x % 10 := by omega
    rw [packed, hhigh, hlow, hdigit, ih]
    rfl

/-- The invariant of the chain, by induction on the bytes with any carry into the first: the carry
out is the decimal one, and the digits are right if no high digit is corrected twice. -/
lemma chain_adcDaa (n a b : Nat) (f : Flags) :
    let r := chain adcDaa adcDaa ((packed n a).zip (packed n b)) f
    r.2.carry = carryInto a b f.carry n ∧
    (r.1 = packed n (a + b + f.carry) ↔ ∀ k < n, ¬TwiceAt a b f.carry k) := by
  induction n generalizing a b f with
  | zero =>
    refine ⟨?_, ?_⟩
    · rw [carryInto, Nat.pow_zero, Nat.mod_one, Nat.mod_one, Nat.div_one]
      exact (Nat.zero_add f.carry).symm
    · exact ⟨fun _ k hk => absurd hk (Nat.not_lt_zero k), fun _ => rfl⟩
  | succ n ih =>
    obtain ⟨hcarry, hdigits⟩ := adcDaa_packed a b f
    rw [packed_succ, packed_succ, List.zip_cons_cons, chain]
    intro r
    obtain ⟨hout, hrest⟩ := ih (a / 100) (b / 100) (adcDaa
      (BitVec.ofNat 32 (a % 100 / 10 * 16 + a % 10),
        BitVec.ofNat 32 (b % 100 / 10 * 16 + b % 10)) f).2
    rw [hcarry] at hout hrest
    constructor
    · rw [carryInto_succ]
      exact hout
    · have hsum : (a + b + f.carry) / 100 =
          a / 100 + b / 100 + (a % 100 + b % 100 + f.carry) / 100 := by omega
      rw [packed_succ, hsum, List.cons_eq_cons, hdigits, hrest,
        Nat.forall_lt_succ_left']
      simp only [twiceAt_zero, twiceAt_succ]

lemma packed_ne_nil {n : Nat} (hn : 1 ≤ n) (a b : Nat) : (packed n a).zip (packed n b) ≠ [] := by
  obtain ⟨m, rfl⟩ := Nat.exists_eq_add_of_le' hn
  simp [packed_succ]

/-- The carry out of the last byte. -/
lemma carryInto_last {n a b : Nat} (ha : a < 100 ^ n) (hb : b < 100 ^ n) :
    carryInto a b 0 n = 1 ↔ 100 ^ n ≤ a + b := by
  rw [carryInto, Nat.mod_eq_of_lt ha, Nat.mod_eq_of_lt hb, Nat.add_zero,
    Nat.div_eq_iff (by omega)]
  omega

/-- **Decimal addition.**  The chain leaves the decimal sum modulo `100 ^ n`, and in `C` whether the
sum is larger, if and only if no high digit is corrected twice. -/
theorem decimal_addition {n a b : Nat} (hn : 1 ≤ n) (ha : a < 100 ^ n) (hb : b < 100 ^ n)
    (f : Flags) :
    ((addPacked n a b f).1 = packed n ((a + b) % 100 ^ n) ∧
      ((addPacked n a b f).2.C ≠ 0 ↔ 100 ^ n ≤ a + b)) ↔
    ∀ k < n, ¬TwiceAt a b 0 k := by
  have hclear (x : Unsigned × Unsigned) (f : Flags) : addDaa x f = adcDaa x { f with C := 0 } := by
    rw [addDaa, adcDaa, Alu.add_eq_adc]
  obtain ⟨hcarry, hdigits⟩ := chain_adcDaa n a b { f with C := 0 }
  rw [f.carry_clear, ← chain_clear addDaa adcDaa hclear (packed_ne_nil hn a b)] at hcarry hdigits
  have hC : (addPacked n a b f).2.C ≠ 0 ↔ 100 ^ n ≤ a + b := by
    rw [← Flags.carry_eq_one, addPacked, hcarry, carryInto_last ha hb]
  rw [packed_mod, addPacked, ← hdigits]
  exact ⟨And.left, fun h => ⟨h, hC⟩⟩

/-- 1999 + 2 = 2001. -/
theorem decimal_addition_ripple : (addPacked 2 1999 2 ⟨0, 0, 0, 0, 0⟩).1 = [0x01, 0x20] := by
  have h := (decimal_addition (n := 2) (a := 1999) (b := 2) (by decide) (by decide) (by decide)
    ⟨0, 0, 0, 0, 0⟩).mpr (by decide)
  exact h.1

/-- 55 + 56: the sum is 111, and the byte left is 71. -/
theorem decimal_addition_twice :
    (addPacked 1 55 56 ⟨0, 0, 0, 0, 0⟩).1 = [0x71] ∧
    ¬(addPacked 1 55 56 ⟨0, 0, 0, 0, 0⟩).1 = packed 1 ((55 + 56) % 100 ^ 1) := by
  decide

end Exec09
