import Exec09.Properties.AluValues
import Mathlib.Data.Nat.Init

/-!
# Chains of byte operations

Programs add, subtract and shift numbers of several bytes with one helper for the first byte and its
carrying variant for the others.  A chain threads the flags through the bytes; its invariant is the
carry, which the helpers leave in different places, and the sign and overflow of a chain are those of
its last byte.
-/

namespace Exec09

/-- A chain: `first` on the first operand, `next` on the others, the flags passed along. -/
def chain {α : Type} (first next : α → Flags → Unsigned × Flags) :
    List α → Flags → List Unsigned × Flags
  | [], f => ([], f)
  | x :: l, f =>
    let r := first x f
    let r' := chain next next l r.2
    (r.1 :: r'.1, r'.2)

/-- The `n` bytes of a number, the least significant first. -/
def bytes : Nat → Nat → List Unsigned
  | 0, _ => []
  | n + 1, x => BitVec.ofNat 32 (x % 256) :: bytes n (x / 256)

/-- The bytes of two numbers, in pairs. -/
def operands (n a b : Nat) : List (Unsigned × Unsigned) := (bytes n a).zip (bytes n b)

/-- A helper with two operands. -/
def both (g : Unsigned → Unsigned → Flags → Unsigned × Flags) (x : Unsigned × Unsigned)
    (f : Flags) : Unsigned × Flags := g x.1 x.2 f

/-- `v` is a two's complement number modulo `m`. -/
def InRange (m : Nat) (v : Int) : Prop := -(m : Int) ≤ 2 * v ∧ 2 * v < m

lemma toNat_byte (x : Nat) : (BitVec.ofNat 32 (x % 256)).toNat = x % 256 := by
  rw [BitVec.toNat_ofNat]
  omega

lemma byte_ofNat (x : Nat) : Byte (BitVec.ofNat 32 (x % 256)) := by
  rw [Byte, toNat_byte]
  exact Nat.mod_lt _ (by decide)

lemma eq_byte {v : Unsigned} {x : Nat} (h : v.toNat = x % 256) : v = BitVec.ofNat 32 (x % 256) := by
  apply BitVec.eq_of_toNat_eq
  rw [h, toNat_byte]

lemma operands_succ (n a b : Nat) : operands (n + 1) a b =
    (BitVec.ofNat 32 (a % 256), BitVec.ofNat 32 (b % 256)) :: operands n (a / 256) (b / 256) := rfl

lemma bytes_mod (n x : Nat) : bytes n (x % 256 ^ n) = bytes n x := by
  induction n generalizing x with
  | zero => rfl
  | succ n ih =>
    have hlow : x % 256 ^ (n + 1) % 256 = x % 256 :=
      Nat.mod_mod_of_dvd x ⟨256 ^ n, Nat.mul_comm _ _⟩
    have hhigh : x % 256 ^ (n + 1) / 256 = x / 256 % 256 ^ n := by
      rw [Nat.pow_succ, Nat.mul_comm, Nat.mod_mul_right_div_self]
    rw [bytes, hlow, hhigh, ih]
    rfl

lemma bytes_length (n x : Nat) : (bytes n x).length = n := by
  induction n generalizing x with
  | zero => rfl
  | succ n ih => rw [bytes, List.length_cons, ih]

lemma even_pow {n : Nat} (hn : 1 ≤ n) : ∃ k, 256 ^ n = 2 * k ∧ 1 ≤ k := by
  obtain ⟨m, rfl⟩ := Nat.exists_eq_add_of_le' hn
  refine ⟨128 * 256 ^ m, by rw [Nat.pow_succ]; omega, ?_⟩
  have := Nat.pow_pos (n := m) (show 0 < 256 by decide)
  omega

lemma div_lt_pow {n x : Nat} (h : x < 256 ^ (n + 1)) : x / 256 < 256 ^ n := by
  rw [Nat.pow_succ] at h
  omega

/-- The top bytes determine the sign. -/
lemma signed_succ {n x : Nat} (hn : 1 ≤ n) (h : x < 256 ^ (n + 1)) :
    signed (256 ^ (n + 1)) x = 256 * signed (256 ^ n) (x / 256) + (x % 256 : Nat) := by
  obtain ⟨k, hk, -⟩ := even_pow hn
  have hx := div_lt_pow h
  rw [signed_eq (k := 256 * k) (by rw [Nat.pow_succ]; omega) h, signed_eq hk hx]
  rw [Nat.pow_succ] at h ⊢
  split <;> split <;> omega

/-- Whether a number fits is decided by its top bytes. -/
lemma fits_succ {n : Nat} (hn : 1 ≤ n) (v : Int) {r : Nat} (hr : r < 256) :
    InRange (256 ^ (n + 1)) (256 * v + r) ↔ InRange (256 ^ n) v := by
  obtain ⟨k, hk, -⟩ := even_pow hn
  unfold InRange
  rw [Nat.pow_succ, hk]
  omega

/-! ## Addition -/

/-- `r` is what an addition of `a`, `b` and a carry leaves. -/
structure Added (n a b c : Nat) (r : List Unsigned × Flags) : Prop where
  value : r.1 = bytes n (a + b + c)
  carry : r.2.carry = (a + b + c) / 256 ^ n
  sign : signBit r.2.N = true ↔ 256 ^ n ≤ 2 * ((a + b + c) % 256 ^ n)
  overflow : signBit r.2.OV = true ↔
    ¬InRange (256 ^ n) (signed (256 ^ n) a + signed (256 ^ n) b + c)

lemma added_byte {a b : Nat} (ha : a < 256) (hb : b < 256) (f : Flags) :
    Added 1 a b f.carry (chain (both Alu.adc) (both Alu.adc) (operands 1 a b) f) := by
  have hra := byte_ofNat a
  have hrb := byte_ofNat b
  have hva : (BitVec.ofNat 32 (a % 256)).toNat = a := by rw [toNat_byte, Nat.mod_eq_of_lt ha]
  have hvb : (BitVec.ofNat 32 (b % 256)).toNat = b := by rw [toNat_byte, Nat.mod_eq_of_lt hb]
  have hres := Alu.toNat_adc hra hrb f
  have hcarry := Alu.carry_adc hra hrb f
  have hover := Alu.overflow_adc hra hrb f
  rw [hva, hvb] at hres hcarry hover
  refine ⟨?_, ?_, ?_, ?_⟩
  · change [(Alu.adc _ _ f).1] = _
    rw [eq_byte hres]
    rfl
  · rw [Nat.pow_one]
    exact hcarry
  · have hN := signBit_iff (x := (Alu.adc (BitVec.ofNat 32 (a % 256)) (BitVec.ofNat 32 (b % 256)) f).1)
    rw [Words.bit, hres] at hN
    refine hN.trans ?_
    rw [Nat.pow_one]
    omega
  · rw [Nat.pow_one]
    refine hover.trans ?_
    unfold InRange
    omega

lemma added_chain {n : Nat} (hn : 1 ≤ n) : ∀ {a b : Nat}, a < 256 ^ n → b < 256 ^ n → ∀ f : Flags,
    Added n a b f.carry (chain (both Alu.adc) (both Alu.adc) (operands n a b) f) := by
  induction n, hn using Nat.le_induction with
  | base =>
    intro a b ha hb f
    exact added_byte (by simpa using ha) (by simpa using hb) f
  | succ n hn ih =>
    intro a b ha hb f
    have hra := byte_ofNat a
    have hrb := byte_ofNat b
    have hc := f.carry_le
    obtain ⟨hvalue, hcarry, hsign, hover⟩ := ih (div_lt_pow ha) (div_lt_pow hb)
      (Alu.adc (BitVec.ofNat 32 (a % 256)) (BitVec.ofNat 32 (b % 256)) f).2
    have hc' := Alu.carry_adc hra hrb f
    rw [toNat_byte, toNat_byte] at hc'
    rw [hc'] at hvalue hcarry hsign hover
    have hhigh : (a + b + f.carry) / 256 = a / 256 + b / 256 + (a % 256 + b % 256 + f.carry) / 256 := by
      omega
    have hres := Alu.toNat_adc hra hrb f
    rw [toNat_byte, toNat_byte] at hres
    have hlow : (a % 256 + b % 256 + f.carry) % 256 = (a + b + f.carry) % 256 := by omega
    refine ⟨?_, ?_, ?_, ?_⟩
    · refine (congrArg₂ List.cons (eq_byte (hres.trans hlow)) hvalue).trans ?_
      rw [bytes, hhigh]
    · refine hcarry.trans ?_
      rw [Nat.pow_succ, Nat.mul_comm, ← Nat.div_div_eq_div_mul, hhigh]
    · refine hsign.trans ?_
      obtain ⟨k, hk, -⟩ := even_pow hn
      rw [← hhigh, Nat.pow_succ, Nat.mul_comm (256 ^ n), Nat.mod_mul, hk]
      omega
    · refine hover.trans ?_
      rw [signed_succ hn ha, signed_succ hn hb]
      have hsum : 256 * signed (256 ^ n) (a / 256) + (a % 256 : Nat) +
          (256 * signed (256 ^ n) (b / 256) + (b % 256 : Nat)) + f.carry =
          256 * (signed (256 ^ n) (a / 256) + signed (256 ^ n) (b / 256) +
            ((a % 256 + b % 256 + f.carry) / 256 : Nat)) +
            ((a % 256 + b % 256 + f.carry) % 256 : Nat) := by omega
      rw [hsum, fits_succ hn _ (Nat.mod_lt _ (by decide))]

/-- A chain begins with the helper that takes no carry as if the carry were clear. -/
lemma chain_clear {α : Type} (first next : α → Flags → Unsigned × Flags)
    (h : ∀ x f, first x f = next x { f with C := 0 }) {l : List α} (hl : l ≠ []) (f : Flags) :
    chain first next l f = chain next next l { f with C := 0 } := by
  rcases l with _ | ⟨x, l⟩
  · exact absurd rfl hl
  · rw [chain, chain, h]

lemma operands_ne_nil {n : Nat} (hn : 1 ≤ n) (a b : Nat) : operands n a b ≠ [] := by
  obtain ⟨m, rfl⟩ := Nat.exists_eq_add_of_le' hn
  simp [operands_succ]

lemma Flags.carry_clear (f : Flags) : ({ f with C := 0 } : Flags).carry = 0 := by
  simp [Flags.carry, carryBit]

lemma added_add {n a b : Nat} (hn : 1 ≤ n) (ha : a < 256 ^ n) (hb : b < 256 ^ n) (f : Flags) :
    Added n a b 0 (chain (both Alu.add) (both Alu.adc) (operands n a b) f) := by
  have h := added_chain hn ha hb { f with C := 0 }
  rw [f.carry_clear] at h
  rwa [chain_clear (both Alu.add) (both Alu.adc)
    (fun x f => Alu.add_eq_adc x.1 x.2 f) (operands_ne_nil hn a b)]

/-! ## Subtraction -/

/-- `r` is what a subtraction of `b` and a borrow from `a` leaves. -/
structure Subtracted (n a b c : Nat) (r : List Unsigned × Flags) : Prop where
  value : r.1 = bytes n (a + 256 ^ n - (b + c))
  carry : r.2.carry = if a < b + c then 1 else 0
  sign : signBit r.2.N = true ↔ 256 ^ n ≤ 2 * ((a + 256 ^ n - (b + c)) % 256 ^ n)
  overflow : signBit r.2.OV = true ↔
    ¬InRange (256 ^ n) (signed (256 ^ n) a - signed (256 ^ n) b - c)
  less : Cond.LT.holds r.2 = true ↔ signed (256 ^ n) a - signed (256 ^ n) b - c < 0

lemma subtracted_byte {a b : Nat} (ha : a < 256) (hb : b < 256) (f : Flags) :
    Subtracted 1 a b f.carry (chain (both Alu.sbc) (both Alu.sbc) (operands 1 a b) f) := by
  have hra := byte_ofNat a
  have hrb := byte_ofNat b
  have hva : (BitVec.ofNat 32 (a % 256)).toNat = a := by rw [toNat_byte, Nat.mod_eq_of_lt ha]
  have hvb : (BitVec.ofNat 32 (b % 256)).toNat = b := by rw [toNat_byte, Nat.mod_eq_of_lt hb]
  have hres := Alu.toNat_sbc hra hrb f
  have hcarry := Alu.carry_sbc hra hrb f
  have hover := Alu.overflow_sbc hra hrb f
  have hless := Alu.less_sbc hra hrb f
  rw [hva, hvb] at hres hcarry hover hless
  refine ⟨?_, hcarry, ?_, ?_, ?_⟩
  · change [(Alu.sbc _ _ f).1] = _
    rw [eq_byte hres]
    rfl
  · have hN := signBit_iff (x := (Alu.sbc (BitVec.ofNat 32 (a % 256)) (BitVec.ofNat 32 (b % 256)) f).1)
    rw [Words.bit, hres] at hN
    refine hN.trans ?_
    rw [Nat.pow_one]
    omega
  · rw [Nat.pow_one]
    refine hover.trans ?_
    unfold InRange
    omega
  · rw [Nat.pow_one]
    exact hless

lemma subtracted_chain {n : Nat} (hn : 1 ≤ n) : ∀ {a b : Nat}, a < 256 ^ n → b < 256 ^ n →
    ∀ f : Flags, Subtracted n a b f.carry (chain (both Alu.sbc) (both Alu.sbc) (operands n a b) f) := by
  induction n, hn using Nat.le_induction with
  | base =>
    intro a b ha hb f
    exact subtracted_byte (by simpa using ha) (by simpa using hb) f
  | succ n hn ih =>
    intro a b ha hb f
    have hra := byte_ofNat a
    have hrb := byte_ofNat b
    have hc := f.carry_le
    obtain ⟨hvalue, hcarry, hsign, hover, hless⟩ := ih (div_lt_pow ha) (div_lt_pow hb)
      (Alu.sbc (BitVec.ofNat 32 (a % 256)) (BitVec.ofNat 32 (b % 256)) f).2
    have hc' := Alu.carry_sbc hra hrb f
    rw [toNat_byte, toNat_byte] at hc'
    have hborrow : (Alu.sbc (BitVec.ofNat 32 (a % 256)) (BitVec.ofNat 32 (b % 256)) f).2.carry =
        1 - (a % 256 + 256 - (b % 256 + f.carry)) / 256 := by
      rw [hc']
      split <;> omega
    rw [hborrow] at hvalue hcarry hsign hover hless
    have hpow : 256 ^ (n + 1) = 256 ^ n * 256 := Nat.pow_succ 256 n
    have hres := Alu.toNat_sbc hra hrb f
    rw [toNat_byte, toNat_byte] at hres
    have hlow : (a % 256 + 256 - (b % 256 + f.carry)) % 256 =
        (a + 256 ^ (n + 1) - (b + f.carry)) % 256 := by omega
    have hhigh : (a + 256 ^ (n + 1) - (b + f.carry)) / 256 =
        a / 256 + 256 ^ n - (b / 256 + (1 - (a % 256 + 256 - (b % 256 + f.carry)) / 256)) := by omega
    have hdiff : 256 * signed (256 ^ n) (a / 256) + (a % 256 : Nat) -
        (256 * signed (256 ^ n) (b / 256) + (b % 256 : Nat)) - f.carry =
        256 * (signed (256 ^ n) (a / 256) - signed (256 ^ n) (b / 256) -
          (1 - (a % 256 + 256 - (b % 256 + f.carry)) / 256 : Nat)) +
          ((a % 256 + 256 - (b % 256 + f.carry)) % 256 : Nat) := by omega
    refine ⟨?_, ?_, ?_, ?_, ?_⟩
    · refine (congrArg₂ List.cons (eq_byte (hres.trans hlow)) hvalue).trans ?_
      rw [bytes, hhigh]
    · refine hcarry.trans ?_
      split <;> split <;> omega
    · refine hsign.trans ?_
      obtain ⟨k, hk, -⟩ := even_pow hn
      rw [← hhigh, hpow, Nat.mul_comm (256 ^ n), Nat.mod_mul, hk]
      omega
    · refine hover.trans ?_
      rw [signed_succ hn ha, signed_succ hn hb, hdiff, fits_succ hn _ (Nat.mod_lt _ (by decide))]
    · refine hless.trans ?_
      rw [signed_succ hn ha, signed_succ hn hb, hdiff]
      omega

lemma subtracted_sub {n a b : Nat} (hn : 1 ≤ n) (ha : a < 256 ^ n) (hb : b < 256 ^ n) (f : Flags) :
    Subtracted n a b 0 (chain (both Alu.sub) (both Alu.sbc) (operands n a b) f) := by
  have h := subtracted_chain hn ha hb { f with C := 0 }
  rw [f.carry_clear] at h
  rwa [chain_clear (both Alu.sub) (both Alu.sbc)
    (fun x f => Alu.sub_eq_sbc x.1 x.2 f) (operands_ne_nil hn a b)]

/-! ## The 16-bit helpers -/

/-- Two results agree in value, `C`, `N` and `V`; the first is a word, the second its bytes. -/
structure Agrees16 (r : Unsigned × Flags) (r' : List Unsigned × Flags) : Prop where
  value : r'.1 = bytes 2 r.1.toNat
  carry : r.2.C ≠ 0 ↔ r'.2.C ≠ 0
  sign : r.2.N &&& 0x80 ≠ 0 ↔ r'.2.N &&& 0x80 ≠ 0
  overflow : r.2.OV &&& 0x80 ≠ 0 ↔ r'.2.OV &&& 0x80 ≠ 0

lemma carry_ne_zero_iff {f g : Flags} (h : f.carry = g.carry) : f.C ≠ 0 ↔ g.C ≠ 0 := by
  rw [← Flags.carry_eq_one, ← Flags.carry_eq_one, h]

lemma sign_ne_zero {x : Unsigned} : x &&& 0x80 ≠ 0 ↔ signBit x = true := by
  rw [signBit, decide_eq_true_eq]

lemma agrees_addd {arg val : Unsigned} (h : Word arg) (h' : Word val) (f : Flags) :
    Agrees16 (Alu.addd arg val f)
      (chain (both Alu.add) (both Alu.adc) (operands 2 arg.toNat val.toNat) f) := by
  have ha : arg.toNat < 2 ^ 16 := h
  have hv : val.toNat < 2 ^ 16 := h'
  obtain ⟨hvalue, hcarry, hsign, hover⟩ := added_add (n := 2) (by decide) ha hv f
  have hres := Alu.toNat_addd h h' f
  have hpow : 256 ^ 2 = 65536 := rfl
  refine ⟨?_, ?_, ?_, ?_⟩
  · rw [hvalue, hres]
    exact (bytes_mod 2 _).symm
  · exact carry_ne_zero_iff ((Alu.carry_addd h h' f).trans hcarry.symm)
  · rw [sign_ne_zero, sign_ne_zero, hsign]
    refine (Alu.sign_high (Alu.addd arg val f).1).trans ?_
    rw [Words.bit, hres]
    omega
  · rw [sign_ne_zero, sign_ne_zero, hover, Alu.overflow_addd h h', hpow]
    unfold InRange
    omega

lemma agrees_subd {arg val : Unsigned} (h : Word arg) (h' : Word val) (f : Flags) :
    Agrees16 (Alu.subd arg val f)
      (chain (both Alu.sub) (both Alu.sbc) (operands 2 arg.toNat val.toNat) f) := by
  have ha : arg.toNat < 2 ^ 16 := h
  have hv : val.toNat < 2 ^ 16 := h'
  obtain ⟨hvalue, hcarry, hsign, hover, -⟩ := subtracted_sub (n := 2) (by decide) ha hv f
  have hres := Alu.toNat_subd h h' f
  have hpow : 256 ^ 2 = 65536 := rfl
  refine ⟨?_, ?_, ?_, ?_⟩
  · rw [hvalue, hres]
    exact (bytes_mod 2 _).symm
  · exact carry_ne_zero_iff ((Alu.carry_subd h h' f).trans hcarry.symm)
  · rw [sign_ne_zero, sign_ne_zero, hsign]
    refine (Alu.sign_high (Alu.subd arg val f).1).trans ?_
    rw [Words.bit, hres]
    omega
  · rw [sign_ne_zero, sign_ne_zero, hover, Alu.overflow_subd h h', hpow]
    unfold InRange
    omega

lemma carry_div {n a b : Nat} (ha : a < 256 ^ n) (hb : b < 256 ^ n) :
    (a + b + 0) / 256 ^ n = 1 ↔ 256 ^ n ≤ a + b := by
  rw [Nat.add_zero, Nat.div_eq_iff (by omega)]
  omega

/-- **Multi-precision addition and subtraction**, and the 16-bit helpers as the chains of two
bytes. -/
theorem multi_precision {n a b : Nat} (hn : 1 ≤ n) (ha : a < 256 ^ n) (hb : b < 256 ^ n)
    {arg val : Unsigned} (harg : arg.toNat < 65536) (hval : val.toNat < 65536) (f : Flags) :
    let s := chain (both Alu.add) (both Alu.adc) (operands n a b) f
    let d := chain (both Alu.sub) (both Alu.sbc) (operands n a b) f
    (s.1 = bytes n ((a + b) % 256 ^ n) ∧
      (s.2.C ≠ 0 ↔ 256 ^ n ≤ a + b) ∧
      (s.2.OV &&& 0x80 ≠ 0 ↔ ¬InRange (256 ^ n) (signed (256 ^ n) a + signed (256 ^ n) b))) ∧
    (d.1 = bytes n ((a + 256 ^ n - b) % 256 ^ n) ∧
      (Cond.LO.holds d.2 = true ↔ a < b) ∧
      (Cond.LT.holds d.2 = true ↔ signed (256 ^ n) a < signed (256 ^ n) b)) ∧
    Agrees16 (Alu.addd arg val f)
      (chain (both Alu.add) (both Alu.adc) (operands 2 arg.toNat val.toNat) f) ∧
    Agrees16 (Alu.subd arg val f)
      (chain (both Alu.sub) (both Alu.sbc) (operands 2 arg.toNat val.toNat) f) := by
  have hs := added_add hn ha hb f
  have hd := subtracted_sub hn ha hb f
  refine ⟨⟨?_, ?_, ?_⟩, ⟨?_, ?_, ?_⟩, agrees_addd harg hval f, agrees_subd harg hval f⟩
  · rw [hs.value, bytes_mod]
    rfl
  · rw [← Flags.carry_eq_one, hs.carry, carry_div ha hb]
  · rw [sign_ne_zero, hs.overflow]
    simp
  · rw [hd.value, bytes_mod]
    rfl
  · have hlo : Cond.LO.holds (chain (both Alu.sub) (both Alu.sbc) (operands n a b) f).2 = true ↔
        (chain (both Alu.sub) (both Alu.sbc) (operands n a b) f).2.C ≠ 0 := decide_eq_true_iff
    rw [hlo, ← Flags.carry_eq_one, hd.carry]
    split <;> omega
  · rw [hd.less]
    omega

theorem multi_precision_three :
    (chain (both Alu.sub) (both Alu.sbc) (operands 3 0x123456 0x823457) ⟨0, 0, 0, 0, 0⟩).1 =
      [0xff, 0xff, 0x8f] := by
  have h := multi_precision (n := 3) (a := 0x123456) (b := 0x823457) (by decide) (by decide)
    (by decide) (show (1 : Unsigned).toNat < 65536 by decide)
    (show (2 : Unsigned).toNat < 65536 by decide) ⟨0, 0, 0, 0, 0⟩
  exact h.2.1.1

/-! ## Left shifts -/

/-- `r` is what shifting `x` left by one, with a carry, leaves. -/
structure Doubled (n x c : Nat) (r : List Unsigned × Flags) : Prop where
  value : r.1 = bytes n (2 * x + c)
  carry : r.2.carry = (2 * x + c) / 256 ^ n
  overflow : signBit r.2.OV = true ↔ ¬InRange (256 ^ n) (2 * signed (256 ^ n) x + c)

lemma doubled_byte {x : Nat} (hx : x < 256) (f : Flags) :
    Doubled 1 x f.carry (chain Alu.rol Alu.rol (bytes 1 x) f) := by
  have hr := byte_ofNat x
  have hv : (BitVec.ofNat 32 (x % 256)).toNat = x := by rw [toNat_byte, Nat.mod_eq_of_lt hx]
  have hres := Alu.toNat_rol hr f
  have hcarry := Alu.carry_rol hr f
  have hover := Alu.overflow_rol hr f
  rw [hv] at hres hcarry hover
  refine ⟨?_, ?_, ?_⟩
  · change [(Alu.rol _ f).1] = _
    rw [eq_byte hres]
    rfl
  · rw [Nat.pow_one]
    exact hcarry
  · rw [Nat.pow_one]
    refine hover.trans ?_
    unfold InRange
    omega

lemma doubled_chain {n : Nat} (hn : 1 ≤ n) : ∀ {x : Nat}, x < 256 ^ n → ∀ f : Flags,
    Doubled n x f.carry (chain Alu.rol Alu.rol (bytes n x) f) := by
  induction n, hn using Nat.le_induction with
  | base =>
    intro x hx f
    exact doubled_byte (by simpa using hx) f
  | succ n hn ih =>
    intro x hx f
    have hr := byte_ofNat x
    have hc := f.carry_le
    obtain ⟨hvalue, hcarry, hover⟩ := ih (div_lt_pow hx) (Alu.rol (BitVec.ofNat 32 (x % 256)) f).2
    have hc' := Alu.carry_rol hr f
    have hres := Alu.toNat_rol hr f
    rw [toNat_byte] at hc' hres
    rw [hc'] at hvalue hcarry hover
    have hlow : (2 * (x % 256) + f.carry) % 256 = (2 * x + f.carry) % 256 := by omega
    have hhigh : (2 * x + f.carry) / 256 = 2 * (x / 256) + (2 * (x % 256) + f.carry) / 256 := by omega
    refine ⟨?_, ?_, ?_⟩
    · refine (congrArg₂ List.cons (eq_byte (hres.trans hlow)) hvalue).trans ?_
      rw [bytes, hhigh]
    · refine hcarry.trans ?_
      rw [Nat.pow_succ, Nat.mul_comm (256 ^ n), ← Nat.div_div_eq_div_mul, hhigh]
    · refine hover.trans ?_
      have hdouble : 2 * (256 * signed (256 ^ n) (x / 256) + (x % 256 : Nat)) + f.carry =
          256 * (2 * signed (256 ^ n) (x / 256) + ((2 * (x % 256) + f.carry) / 256 : Nat)) +
            ((2 * (x % 256) + f.carry) % 256 : Nat) := by omega
      rw [signed_succ hn hx, hdouble, fits_succ hn _ (Nat.mod_lt _ (by decide))]

/-! ## Right shifts -/

lemma chain_append {α : Type} (first next : α → Flags → Unsigned × Flags) (l : List α) (hl : l ≠ [])
    (x : α) (f : Flags) : chain first next (l ++ [x]) f =
      ((chain first next l f).1 ++ [(next x (chain first next l f).2).1],
        (next x (chain first next l f).2).2) := by
  induction l generalizing first f with
  | nil => exact absurd rfl hl
  | cons y l ih =>
    rcases l with _ | ⟨z, l⟩
    · rfl
    · rw [List.cons_append, chain, ih next (by simp)]
      rfl

/-- What is shifted in at the top. -/
def topHalf (n : Nat) (top : Bool) : Nat := if top then 256 ^ n / 2 else 0

/-- `r` is what shifting `x` right by one, with the bit `top` shifted in, leaves; its bytes are listed
from the most significant. -/
structure Halved (n x : Nat) (top : Bool) (r : List Unsigned × Flags) : Prop where
  value : r.1 = (bytes n (x / 2 + topHalf n top)).reverse
  carry : r.2.carry = x % 2

/-- A helper for the highest byte: it shifts in the bit `top`. -/
def ShiftsRight (first : Unsigned → Flags → Unsigned × Flags) (top : Nat → Flags → Bool) : Prop :=
  ∀ (x : Nat) (f : Flags), x < 256 →
    (first (BitVec.ofNat 32 (x % 256)) f).1.toNat = x / 2 + (if top x f then 128 else 0) ∧
    (first (BitVec.ofNat 32 (x % 256)) f).2.carry = x % 2

lemma shiftsRight_lsr : ShiftsRight Alu.lsr fun _ _ => false := by
  intro x f hx
  refine ⟨?_, ?_⟩
  · rw [Alu.toNat_lsr, toNat_byte, Nat.mod_eq_of_lt hx]
    rfl
  · rw [Alu.carry_lsr, toNat_byte, Nat.mod_eq_of_lt hx]

lemma shiftsRight_asr : ShiftsRight Alu.asr fun x _ => decide (128 ≤ x) := by
  intro x f hx
  refine ⟨?_, ?_⟩
  · rw [Alu.toNat_asr (byte_ofNat x), toNat_byte, Nat.mod_eq_of_lt hx]
    simp only [decide_eq_true_eq]
    split <;> split <;> omega
  · rw [Alu.carry_asr (byte_ofNat x), toNat_byte, Nat.mod_eq_of_lt hx]

lemma shiftsRight_ror : ShiftsRight Alu.ror fun _ f => decide (f.carry = 1) := by
  intro x f hx
  have hc := f.carry_le
  refine ⟨?_, ?_⟩
  · rw [Alu.toNat_ror (byte_ofNat x), toNat_byte, Nat.mod_eq_of_lt hx]
    simp only [decide_eq_true_eq]
    split <;> omega
  · rw [Alu.carry_ror (byte_ofNat x), toNat_byte, Nat.mod_eq_of_lt hx]

/-- The highest byte of a number. -/
def highByte (n x : Nat) : Nat := x / 256 ^ (n - 1)

lemma halved_chain {first : Unsigned → Flags → Unsigned × Flags} {top : Nat → Flags → Bool}
    (hfirst : ShiftsRight first top) {n : Nat} (hn : 1 ≤ n) : ∀ {x : Nat}, x < 256 ^ n →
    ∀ f : Flags, Halved n x (top (highByte n x) f) (chain first Alu.ror (bytes n x).reverse f) := by
  induction n, hn using Nat.le_induction with
  | base =>
    intro x hx f
    have hx : x < 256 := by simpa using hx
    obtain ⟨hres, hcarry⟩ := hfirst x f hx
    have hhigh : highByte 1 x = x := by simp [highByte]
    have hlt : x / 2 + (if top x f then 128 else 0) < 256 := by split <;> omega
    rw [hhigh]
    refine ⟨?_, hcarry⟩
    change [(first _ f).1] = [_]
    rw [eq_byte (hres.trans (Nat.mod_eq_of_lt hlt).symm)]
    rfl
  | succ n hn ih =>
    intro x hx f
    have htop : highByte (n + 1) x = highByte n (x / 256) := by
      obtain ⟨m, rfl⟩ := Nat.exists_eq_add_of_le' hn
      simp only [highByte, Nat.add_sub_cancel]
      rw [Nat.div_div_eq_div_mul, Nat.mul_comm, ← Nat.pow_succ]
    obtain ⟨hvalue, hcarry⟩ := ih (div_lt_pow hx) f
    rw [htop]
    have hne : (bytes n (x / 256)).reverse ≠ [] := by
      intro h0
      have := congrArg List.length h0
      rw [List.length_reverse, bytes_length] at this
      exact absurd this (by simp only [List.length_nil]; omega)
    have hr := byte_ofNat x
    have hres := Alu.toNat_ror hr (chain first Alu.ror (bytes n (x / 256)).reverse f).2
    have hc' := Alu.carry_ror hr (chain first Alu.ror (bytes n (x / 256)).reverse f).2
    rw [toNat_byte, hcarry] at hres
    rw [toNat_byte] at hc'
    obtain ⟨k, hk, -⟩ := even_pow hn
    have hhalf : topHalf (n + 1) (top (highByte n (x / 256)) f) =
        256 * topHalf n (top (highByte n (x / 256)) f) := by
      unfold topHalf
      rw [Nat.pow_succ, hk]
      split <;> omega
    have hlow : x % 256 / 2 + 128 * (x / 256 % 2) =
        (x / 2 + topHalf (n + 1) (top (highByte n (x / 256)) f)) % 256 := by omega
    have hhigh : (x / 2 + topHalf (n + 1) (top (highByte n (x / 256)) f)) / 256 =
        x / 256 / 2 + topHalf n (top (highByte n (x / 256)) f) := by omega
    rw [bytes, List.reverse_cons, chain_append _ _ _ hne]
    refine ⟨?_, ?_⟩
    · rw [bytes, List.reverse_cons, hhigh, ← hvalue, ← eq_byte (hres.trans hlow)]
    · refine hc'.trans ?_
      omega

lemma bytes_ne_nil {n : Nat} (hn : 1 ≤ n) (x : Nat) : bytes n x ≠ [] := by
  obtain ⟨m, rfl⟩ := Nat.exists_eq_add_of_le' hn
  simp [bytes]

lemma testBit_top {n x : Nat} (hn : 1 ≤ n) (hx : x < 256 ^ n) :
    x.testBit (8 * n - 1) = true ↔ 256 ^ n ≤ 2 * x := by
  have hpow : 256 ^ n = 2 * 2 ^ (8 * n - 1) := by
    rw [← Nat.pow_succ', Nat.succ_eq_add_one, Nat.sub_add_cancel (by omega),
      show 256 = 2 ^ 8 from rfl, ← Nat.pow_mul]
  rw [hpow] at hx ⊢
  rw [Nat.testBit_eq_decide_div_mod_eq, decide_eq_true_eq]
  by_cases hle : 2 ^ (8 * n - 1) ≤ x
  · have hdiv : x / 2 ^ (8 * n - 1) = 1 := Nat.div_eq_of_lt_le (by omega) (by omega)
    rw [hdiv]
    omega
  · rw [Nat.div_eq_of_lt (by omega)]
    omega

lemma highByte_top {n x : Nat} (hn : 1 ≤ n) : 128 ≤ highByte n x ↔ 256 ^ n ≤ 2 * x := by
  obtain ⟨m, rfl⟩ := Nat.exists_eq_add_of_le' hn
  have hpos : 0 < 256 ^ m := Nat.pow_pos (by decide)
  rw [highByte, Nat.add_sub_cancel, Nat.le_div_iff_mul_le hpos, Nat.pow_succ]
  omega

lemma carry_div_double {n x : Nat} (hx : x < 256 ^ n) :
    (2 * x + 0) / 256 ^ n = 1 ↔ 256 ^ n ≤ 2 * x := by
  rw [Nat.add_zero, Nat.div_eq_iff (by omega)]
  omega

/-- Half of a two's complement number, rounded down. -/
lemma half_signed {n x : Nat} (hn : 1 ≤ n) (hx : x < 256 ^ n) :
    (signed (256 ^ n) x / 2 % (256 ^ n : Nat)).toNat =
      x / 2 + topHalf n (decide (128 ≤ highByte n x)) := by
  obtain ⟨k, hk, hpos⟩ := even_pow hn
  rw [signed_eq hk hx, topHalf]
  simp only [decide_eq_true_eq, highByte_top hn]
  rw [hk]
  rw [hk] at hx
  by_cases h : x < k
  · rw [if_pos h, if_neg (by omega), Int.emod_eq_of_lt (by omega) (by omega)]
    omega
  · rw [if_neg h, if_pos (by omega)]
    have hshift : ((x : Int) - (2 * k : Nat)) / 2 = (x / 2 + k : Nat) - (2 * k : Nat) := by omega
    rw [hshift, Int.sub_emod_right, Int.emod_eq_of_lt (by omega) (by omega)]
    omega

/-- A rotation to the left and one back. -/
lemma rotated_back {n x : Nat} (hn : 1 ≤ n) (hx : x < 256 ^ n) (f : Flags) :
    let r := chain Alu.rol Alu.rol (bytes n x) f
    Halved n ((2 * x + f.carry) % 256 ^ n) (decide ((2 * x + f.carry) / 256 ^ n = 1))
      (chain Alu.ror Alu.ror r.1.reverse r.2) := by
  have h := doubled_chain hn hx f
  have hpos : 0 < 256 ^ n := by omega
  have hback := halved_chain shiftsRight_ror hn
    (Nat.mod_lt (2 * x + f.carry) hpos) (chain Alu.rol Alu.rol (bytes n x) f).2
  rw [h.carry, bytes_mod] at hback
  rw [← h.value] at hback
  exact hback

/-- **Multi-precision shifts.**  The bytes of right shifts are worked on from the most significant. -/
theorem multi_precision_shifts {n x : Nat} (hn : 1 ≤ n) (hx : x < 256 ^ n) (f : Flags) :
    let left := chain Alu.asl Alu.rol (bytes n x) f
    let logical := chain Alu.lsr Alu.ror (bytes n x).reverse f
    let arithmetic := chain Alu.asr Alu.ror (bytes n x).reverse f
    let rotated := chain Alu.rol Alu.rol (bytes n x) f
    let back := chain Alu.ror Alu.ror rotated.1.reverse rotated.2
    (left.1 = bytes n (2 * x % 256 ^ n) ∧
      (left.2.C ≠ 0 ↔ x.testBit (8 * n - 1) = true) ∧
      (left.2.OV &&& 0x80 ≠ 0 ↔ ¬InRange (256 ^ n) (2 * signed (256 ^ n) x))) ∧
    (logical.1.reverse = bytes n (x / 2) ∧ (logical.2.C ≠ 0 ↔ x % 2 = 1)) ∧
    (arithmetic.1.reverse = bytes n (signed (256 ^ n) x / 2 % (256 ^ n : Nat)).toNat ∧
      (arithmetic.2.C ≠ 0 ↔ x % 2 = 1)) ∧
    (back.1.reverse = bytes n x ∧ (back.2.C ≠ 0 ↔ f.C ≠ 0)) := by
  have hleft := doubled_chain hn hx { f with C := 0 }
  rw [f.carry_clear, ← chain_clear Alu.asl Alu.rol Alu.asl_eq_rol (bytes_ne_nil hn x)] at hleft
  have hlogical := halved_chain shiftsRight_lsr hn hx f
  have harithmetic := halved_chain shiftsRight_asr hn hx f
  have hback := rotated_back hn hx f
  refine ⟨⟨?_, ?_, ?_⟩, ⟨?_, ?_⟩, ⟨?_, ?_⟩, ?_, ?_⟩
  · rw [hleft.value, bytes_mod]
    rfl
  · rw [← Flags.carry_eq_one, hleft.carry, carry_div_double hx, testBit_top hn hx]
  · rw [sign_ne_zero, hleft.overflow]
    simp
  · rw [hlogical.value, List.reverse_reverse]
    rfl
  · rw [← Flags.carry_eq_one, hlogical.carry]
  · rw [harithmetic.value, List.reverse_reverse, half_signed hn hx]
  · rw [← Flags.carry_eq_one, harithmetic.carry]
  · obtain ⟨k, hk, hpos⟩ := even_pow hn
    have hc := f.carry_le
    rw [hback.value, List.reverse_reverse]
    congr 1
    rw [topHalf]
    simp only [decide_eq_true_eq]
    rw [hk]
    rw [hk] at hx
    by_cases h : 2 * x + f.carry < 2 * k
    · rw [Nat.div_eq_of_lt h, Nat.mod_eq_of_lt h, if_neg (by omega)]
      omega
    · have hdiv : (2 * x + f.carry) / (2 * k) = 1 := Nat.div_eq_of_lt_le (by omega) (by omega)
      have hmod : (2 * x + f.carry) % (2 * k) = 2 * x + f.carry - 2 * k := by
        rw [Nat.mod_eq_sub_mod (by omega), Nat.mod_eq_of_lt (by omega)]
      rw [hdiv, hmod, if_pos rfl]
      omega
  · obtain ⟨k, hk, -⟩ := even_pow hn
    have hc := f.carry_le
    rw [← Flags.carry_eq_one, ← Flags.carry_eq_one, hback.carry, hk]
    have hmod : (2 * x + f.carry) % (2 * k) % 2 = (2 * x + f.carry) % 2 :=
      Nat.mod_mod_of_dvd _ ⟨k, rfl⟩
    rw [hmod]
    omega

theorem multi_precision_shifts_two :
    (chain Alu.asr Alu.ror (bytes 2 0x8101).reverse ⟨0, 0, 0, 0, 0⟩).1 = [0xc0, 0x80] := by
  have h := multi_precision_shifts (n := 2) (x := 0x8101) (by decide) (by decide) ⟨0, 0, 0, 0, 0⟩
  have hvalue := h.2.2.1.1
  rw [List.reverse_eq_iff] at hvalue
  rw [hvalue]
  decide

end Exec09
