import Exec09.Framework.Bits
import Exec09.Properties.Widths

/-!
# What the arithmetic helpers compute

The helpers add, subtract and shift 32-bit words, and take carry and overflow out of the wrapped
result with masks and exclusive ors.  Here each of them is given as arithmetic on the values of its
operands: the result modulo `2 ^ 8` or `2 ^ 16`, the carry as a comparison, and overflow as the
signed result falling out of range.
-/

namespace Exec09

/-- The carry as a number. -/
def Flags.carry (f : Flags) : Nat := (carryBit f.C).toNat

lemma Flags.carry_le (f : Flags) : f.carry ≤ 1 := Bool.toNat_le _

lemma Flags.carry_eq_one {f : Flags} : f.carry = 1 ↔ f.C ≠ 0 := by
  simp [Flags.carry, carryBit]

/-- The carry as an operand. -/
lemma Flags.toNat_carry (f : Flags) : (if f.C ≠ 0 then 1 else 0 : Unsigned).toNat = f.carry := by
  rw [Flags.carry, carryBit]
  by_cases h : f.C ≠ 0
  · rw [if_pos h, decide_eq_true h]
    rfl
  · rw [if_neg h, decide_eq_false h]
    rfl

/-- A number modulo `m`, read as a two's complement number. -/
def signed (m x : Nat) : Int := Int.bmod x m

lemma signed_eq {m k x : Nat} (hm : m = 2 * k) (h : x < m) :
    signed m x = if x < k then (x : Int) else x - m := by
  have hmod : (x : Int) % m = x := Int.emod_eq_of_lt (by omega) (by omega)
  rw [signed, Int.bmod_def, hmod]
  split <;> split <;> omega

lemma signed8_eq {x : Nat} (h : x < 256) : signed 256 x = if x < 128 then (x : Int) else x - 256 :=
  signed_eq (k := 128) rfl h

lemma signed16_eq {x : Nat} (h : x < 65536) :
    signed 65536 x = if x < 32768 then (x : Int) else x - 65536 :=
  signed_eq (k := 32768) rfl h

lemma signBit_iff {x : Unsigned} : signBit x = true ↔ Words.bit x 7 = 1 := by
  rw [signBit, decide_eq_true_eq]
  exact Words.and_ne_zero_iff 7 (by decide) (by decide)

lemma halfBit_iff {x : Unsigned} : halfBit x = true ↔ Words.bit x 4 = 1 := by
  rw [halfBit, decide_eq_true_eq]
  exact Words.and_ne_zero_iff 4 (by decide) (by decide)

/-! ## Addition -/

namespace Alu

/-- `add` is `adc` without a carry. -/
lemma add_eq_adc (arg val : Unsigned) (f : Flags) : add arg val f = adc arg val { f with C := 0 } := by
  simp [add, adc]

/-- Bit `i` of what `adc` keeps as `C`. -/
lemma bit_adc_C (arg val : Unsigned) (f : Flags) (i : Nat) : Words.bit (adc arg val f).2.C i =
    min (Words.bit (arg + val + (if f.C ≠ 0 then 1 else 0)) (1 + i)) (Words.bit (0x80 : Unsigned) i) := by
  change Words.bit (((arg + val + (if f.C ≠ 0 then 1 else 0)) >>> 1) &&& 0x80) i = _
  rw [Words.bit_and, Words.bit_ushiftRight]

lemma bit_adc_OV (arg val : Unsigned) (f : Flags) (i : Nat) : Words.bit (adc arg val f).2.OV i =
    (((Words.bit arg i + Words.bit val i) % 2 + Words.bit (adc arg val f).1 i) % 2 +
      Words.bit (adc arg val f).2.C i) % 2 := by
  change Words.bit (arg ^^^ val ^^^ (adc arg val f).1 ^^^ (adc arg val f).2.C) i = _
  rw [Words.bit_xor, Words.bit_xor, Words.bit_xor]

section Bytes

variable {arg val : Unsigned} (h : Byte arg) (h' : Byte val) (f : Flags)
include h h'

lemma toNat_adc_sum :
    (arg + val + (if f.C ≠ 0 then 1 else 0)).toNat = arg.toNat + val.toNat + f.carry := by
  have ha : arg.toNat < 2 ^ 8 := h
  have hv : val.toNat < 2 ^ 8 := h'
  have hc := f.carry_le
  rw [BitVec.toNat_add, BitVec.toNat_add, f.toNat_carry]
  omega

lemma toNat_adc : (adc arg val f).1.toNat = (arg.toNat + val.toNat + f.carry) % 256 := by
  change ((arg + val + (if f.C ≠ 0 then 1 else 0)) &&& 0xff).toNat = _
  rw [Words.toNat_and_low 8 (by decide), toNat_adc_sum h h']
  rfl

lemma carry_adc : (adc arg val f).2.carry = (arg.toNat + val.toNat + f.carry) / 256 := by
  have ha : arg.toNat < 2 ^ 8 := h
  have hv : val.toNat < 2 ^ 8 := h'
  have hc := f.carry_le
  have hle := (adc arg val f).2.carry_le
  have hiff : (adc arg val f).2.carry = 1 ↔ _ := Flags.carry_eq_one.trans
    (Words.and_ne_zero_iff (x := (arg + val + (if f.C ≠ 0 then 1 else 0)) >>> 1) 7 (by decide) rfl)
  rw [Words.bit_ushiftRight, Words.bit, toNat_adc_sum h h'] at hiff
  omega

/-- Signed overflow of an addition. -/
lemma overflow_adc : signBit (adc arg val f).2.OV = true ↔
    ¬(-128 ≤ signed 256 arg.toNat + signed 256 val.toNat + f.carry ∧
      signed 256 arg.toNat + signed 256 val.toNat + f.carry < 128) := by
  have ha : arg.toNat < 256 := h
  have hv : val.toNat < 256 := h'
  have hc := f.carry_le
  rw [signBit_iff, bit_adc_OV, bit_adc_C, show Words.bit (0x80 : Unsigned) 7 = 1 by decide,
    signed8_eq ha, signed8_eq hv]
  simp only [Words.bit, toNat_adc h h', toNat_adc_sum h h']
  split <;> split <;> omega

/-- The half carry is the carry out of bit 3. -/
lemma half_adc : halfBit (adc arg val f).2.H = true ↔
    16 ≤ arg.toNat % 16 + val.toNat % 16 + f.carry := by
  have ha : arg.toNat < 256 := h
  have hv : val.toNat < 256 := h'
  have hc := f.carry_le
  rw [halfBit_iff]
  change Words.bit (adc arg val f).2.OV 4 = 1 ↔ _
  rw [bit_adc_OV, bit_adc_C, show Words.bit (0x80 : Unsigned) 4 = 0 by decide]
  simp only [Words.bit, toNat_adc h h']
  omega

end Bytes

/-! ## Subtraction -/

/-- `sub` is `sbc` without a borrow. -/
lemma sub_eq_sbc (arg val : Unsigned) (f : Flags) : sub arg val f = sbc arg val { f with C := 0 } := by
  simp [sub, sbc]

/-- `cmp` sets the flags `sub` sets. -/
lemma cmp_flags (arg val : Unsigned) (f : Flags) : (cmp arg val f).2 = (sub arg val f).2 := rfl

lemma bit_sbc_OV (arg val : Unsigned) (f : Flags) (i : Nat) : Words.bit (sbc arg val f).2.OV i =
    min ((Words.bit arg i + Words.bit val i) % 2)
      ((Words.bit arg i + Words.bit (sbc arg val f).1 i) % 2) := by
  change Words.bit ((arg ^^^ val) &&& (arg ^^^ (sbc arg val f).1)) i = _
  rw [Words.bit_and, Words.bit_xor, Words.bit_xor]

section Bytes

variable {arg val : Unsigned} (h : Byte arg) (h' : Byte val) (f : Flags)
include h h'

lemma toNat_sbc_wide : (arg - val - (if f.C ≠ 0 then 1 else 0)).toNat =
    if arg.toNat < val.toNat + f.carry then 2 ^ 32 + arg.toNat - (val.toNat + f.carry)
    else arg.toNat - (val.toNat + f.carry) := by
  have ha : arg.toNat < 2 ^ 8 := h
  have hv : val.toNat < 2 ^ 8 := h'
  have hc := f.carry_le
  rw [BitVec.toNat_sub, BitVec.toNat_sub, f.toNat_carry]
  split <;> omega

lemma toNat_sbc : (sbc arg val f).1.toNat = (arg.toNat + 256 - (val.toNat + f.carry)) % 256 := by
  have ha : arg.toNat < 2 ^ 8 := h
  have hv : val.toNat < 2 ^ 8 := h'
  have hc := f.carry_le
  change ((arg - val - (if f.C ≠ 0 then 1 else 0)) &&& 0xff).toNat = _
  rw [Words.toNat_and_low 8 (by decide), toNat_sbc_wide h h']
  split <;> omega

/-- The carry of a subtraction is its borrow. -/
lemma carry_sbc : (sbc arg val f).2.carry = if arg.toNat < val.toNat + f.carry then 1 else 0 := by
  have ha : arg.toNat < 2 ^ 8 := h
  have hv : val.toNat < 2 ^ 8 := h'
  have hc := f.carry_le
  have hle := (sbc arg val f).2.carry_le
  have hiff : (sbc arg val f).2.carry = 1 ↔ _ := Flags.carry_eq_one.trans
    (Words.and_ne_zero_iff (x := arg - val - (if f.C ≠ 0 then 1 else 0)) 8 (by decide) rfl)
  rw [Words.bit, toNat_sbc_wide h h'] at hiff
  split at hiff <;> rename_i hlt
  · rw [if_pos hlt]
    omega
  · rw [if_neg hlt]
    omega

lemma overflow_sbc : signBit (sbc arg val f).2.OV = true ↔
    ¬(-128 ≤ signed 256 arg.toNat - signed 256 val.toNat - f.carry ∧
      signed 256 arg.toNat - signed 256 val.toNat - f.carry < 128) := by
  have ha : arg.toNat < 256 := h
  have hv : val.toNat < 256 := h'
  have hc := f.carry_le
  rw [signBit_iff, bit_sbc_OV, signed8_eq ha, signed8_eq hv]
  simp only [Words.bit, toNat_sbc h h']
  split <;> split <;> omega

/-- `N` and `OV` together tell the sign of the true difference. -/
lemma less_sbc : Cond.LT.holds (sbc arg val f).2 = true ↔
    signed 256 arg.toNat - signed 256 val.toNat - f.carry < 0 := by
  have ha : arg.toNat < 256 := h
  have hv : val.toNat < 256 := h'
  have hc := f.carry_le
  have hN : signBit (sbc arg val f).2.N = true ↔ _ := signBit_iff (x := (sbc arg val f).1)
  have hOV := overflow_sbc h h' f
  rw [Words.bit, toNat_sbc h h'] at hN
  rw [Cond.holds_eq_eval, Cond.eval, Flags.bits, bne_iff_ne, Ne, Bool.eq_iff_iff, hN, hOV,
    signed8_eq ha, signed8_eq hv]
  split <;> split <;> omega

end Bytes

/-! ## 16 bits -/

/-- `cmp16` sets the flags `subd` sets. -/
lemma cmp16_flags (arg val : Unsigned) (f : Flags) : (cmp16 arg val f).2 = (subd arg val f).2 := rfl

lemma bit_addd_OV (arg val : Unsigned) (f : Flags) (i : Nat) : Words.bit (addd arg val f).2.OV i =
    min ((Words.bit arg (8 + i) + Words.bit (addd arg val f).1 (8 + i)) % 2)
      ((Words.bit val (8 + i) + Words.bit (addd arg val f).1 (8 + i)) % 2) := by
  change Words.bit (((arg ^^^ (addd arg val f).1) &&& (val ^^^ (addd arg val f).1)) >>> 8) i = _
  rw [Words.bit_ushiftRight, Words.bit_and, Words.bit_xor, Words.bit_xor]

lemma bit_subd_OV (arg val : Unsigned) (f : Flags) (i : Nat) : Words.bit (subd arg val f).2.OV i =
    min ((Words.bit arg (8 + i) + Words.bit val (8 + i)) % 2)
      ((Words.bit arg (8 + i) + Words.bit (subd arg val f).1 (8 + i)) % 2) := by
  change Words.bit (((arg ^^^ val) &&& (arg ^^^ (subd arg val f).1)) >>> 8) i = _
  rw [Words.bit_ushiftRight, Words.bit_and, Words.bit_xor, Words.bit_xor]

/-- `N` of a 16-bit result is bit 15. -/
lemma sign_high (x : Unsigned) : signBit (x >>> 8) = true ↔ Words.bit x 15 = 1 := by
  rw [signBit_iff, Words.bit_ushiftRight]

section Words16

variable {arg val : Unsigned} (h : Word arg) (h' : Word val) (f : Flags)
include h h'

lemma toNat_addd_wide : (arg + val).toNat = arg.toNat + val.toNat := by
  have ha : arg.toNat < 2 ^ 16 := h
  have hv : val.toNat < 2 ^ 16 := h'
  rw [BitVec.toNat_add]
  omega

lemma toNat_addd : (addd arg val f).1.toNat = (arg.toNat + val.toNat) % 65536 := by
  change ((arg + val) &&& 0xffff).toNat = _
  rw [Words.toNat_and_low 16 (by decide), toNat_addd_wide h h']
  rfl

lemma carry_addd : (addd arg val f).2.carry = (arg.toNat + val.toNat) / 65536 := by
  have ha : arg.toNat < 2 ^ 16 := h
  have hv : val.toNat < 2 ^ 16 := h'
  have hle := (addd arg val f).2.carry_le
  have hiff : (addd arg val f).2.carry = 1 ↔ _ := Flags.carry_eq_one.trans
    (Words.and_ne_zero_iff (x := arg + val) 16 (by decide) rfl)
  rw [Words.bit, toNat_addd_wide h h'] at hiff
  omega

lemma overflow_addd : signBit (addd arg val f).2.OV = true ↔
    ¬(-32768 ≤ signed 65536 arg.toNat + signed 65536 val.toNat ∧
      signed 65536 arg.toNat + signed 65536 val.toNat < 32768) := by
  have ha : arg.toNat < 65536 := h
  have hv : val.toNat < 65536 := h'
  rw [signBit_iff, bit_addd_OV, signed16_eq ha, signed16_eq hv]
  simp only [Words.bit, toNat_addd h h']
  split <;> split <;> omega

lemma toNat_subd_wide : (arg - val).toNat =
    if arg.toNat < val.toNat then 2 ^ 32 + arg.toNat - val.toNat else arg.toNat - val.toNat := by
  have ha : arg.toNat < 2 ^ 16 := h
  have hv : val.toNat < 2 ^ 16 := h'
  rw [BitVec.toNat_sub]
  split <;> omega

lemma toNat_subd : (subd arg val f).1.toNat = (arg.toNat + 65536 - val.toNat) % 65536 := by
  have ha : arg.toNat < 2 ^ 16 := h
  have hv : val.toNat < 2 ^ 16 := h'
  change ((arg - val) &&& 0xffff).toNat = _
  rw [Words.toNat_and_low 16 (by decide), toNat_subd_wide h h']
  split <;> omega

lemma carry_subd : (subd arg val f).2.carry = if arg.toNat < val.toNat then 1 else 0 := by
  have ha : arg.toNat < 2 ^ 16 := h
  have hv : val.toNat < 2 ^ 16 := h'
  have hle := (subd arg val f).2.carry_le
  have hiff : (subd arg val f).2.carry = 1 ↔ _ := Flags.carry_eq_one.trans
    (Words.and_ne_zero_iff (x := arg - val) 16 (by decide) rfl)
  rw [Words.bit, toNat_subd_wide h h'] at hiff
  split at hiff <;> rename_i hlt
  · rw [if_pos hlt]
    omega
  · rw [if_neg hlt]
    omega

lemma overflow_subd : signBit (subd arg val f).2.OV = true ↔
    ¬(-32768 ≤ signed 65536 arg.toNat - signed 65536 val.toNat ∧
      signed 65536 arg.toNat - signed 65536 val.toNat < 32768) := by
  have ha : arg.toNat < 65536 := h
  have hv : val.toNat < 65536 := h'
  rw [signBit_iff, bit_subd_OV, signed16_eq ha, signed16_eq hv]
  simp only [Words.bit, toNat_subd h h']
  split <;> split <;> omega

lemma less_subd : Cond.LT.holds (subd arg val f).2 = true ↔
    signed 65536 arg.toNat < signed 65536 val.toNat := by
  have ha : arg.toNat < 65536 := h
  have hv : val.toNat < 65536 := h'
  have hN : signBit (subd arg val f).2.N = true ↔ _ := sign_high (subd arg val f).1
  have hOV := overflow_subd h h' f
  rw [Words.bit, toNat_subd h h'] at hN
  rw [Cond.holds_eq_eval, Cond.eval, Flags.bits, bne_iff_ne, Ne, Bool.eq_iff_iff, hN, hOV,
    signed16_eq ha, signed16_eq hv]
  split <;> split <;> omega

end Words16

/-! ## Shifts -/

/-- `asl` is `rol` without a carry. -/
lemma asl_eq_rol (arg : Unsigned) (f : Flags) : asl arg f = rol arg { f with C := 0 } := by
  simp [asl, rol]

section Shifts

variable {arg : Unsigned} (h : Byte arg) (f : Flags)
include h

lemma toNat_rol_wide :
    ((arg <<< 1) + (if f.C ≠ 0 then 1 else 0)).toNat = 2 * arg.toNat + f.carry := by
  have ha : arg.toNat < 2 ^ 8 := h
  have hc := f.carry_le
  rw [BitVec.toNat_add, BitVec.toNat_shiftLeft, Nat.shiftLeft_eq, f.toNat_carry]
  omega

lemma toNat_rol : (rol arg f).1.toNat = (2 * arg.toNat + f.carry) % 256 := by
  change (((arg <<< 1) + (if f.C ≠ 0 then 1 else 0)) &&& 0xff).toNat = _
  rw [Words.toNat_and_low 8 (by decide), toNat_rol_wide h]
  rfl

lemma carry_rol : (rol arg f).2.carry = (2 * arg.toNat + f.carry) / 256 := by
  have ha : arg.toNat < 2 ^ 8 := h
  have hc := f.carry_le
  have hle := (rol arg f).2.carry_le
  have hiff : (rol arg f).2.carry = 1 ↔ _ := Flags.carry_eq_one.trans
    (Words.and_ne_zero_iff (x := (arg <<< 1) + (if f.C ≠ 0 then 1 else 0)) 8 (by decide) rfl)
  rw [Words.bit, toNat_rol_wide h] at hiff
  omega

lemma overflow_rol : signBit (rol arg f).2.OV = true ↔
    ¬(-128 ≤ 2 * signed 256 arg.toNat + f.carry ∧ 2 * signed 256 arg.toNat + f.carry < 128) := by
  have ha : arg.toNat < 256 := h
  have hc := f.carry_le
  have hOV : Words.bit (rol arg f).2.OV 7 = (Words.bit arg 7 + Words.bit (rol arg f).1 7) % 2 :=
    Words.bit_xor arg (rol arg f).1 7
  rw [signBit_iff, hOV, signed8_eq ha]
  simp only [Words.bit, toNat_rol h]
  split <;> omega

omit h in
/-- A carry that is one bit. -/
lemma carry_low_bit {g : Flags} {x : Unsigned} (hx : g.C = x &&& 1) : g.carry = x.toNat % 2 := by
  have hle := g.carry_le
  have hne : x &&& 1 ≠ 0 ↔ x.toNat % 2 = 1 := by
    rw [Words.and_ne_zero_iff (x := x) (m := 1) 0 (by decide) rfl, Words.bit]
    simp
  have hiff : g.carry = 1 ↔ x.toNat % 2 = 1 := by rw [Flags.carry_eq_one, hx, hne]
  omega

lemma toNat_ror_wide : (if f.C ≠ 0 then arg ||| 0x100 else arg).toNat =
    arg.toNat + 256 * f.carry := by
  have ha : arg.toNat < 2 ^ 8 := h
  rw [Flags.carry, carryBit]
  by_cases hc : f.C ≠ 0
  · rw [if_pos hc, decide_eq_true hc, BitVec.toNat_or, Nat.or_comm]
    exact (Nat.two_pow_add_eq_or_of_lt ha 1).symm.trans (Nat.add_comm _ _)
  · rw [if_neg hc, decide_eq_false hc]
    rfl

lemma toNat_ror : (ror arg f).1.toNat = arg.toNat / 2 + 128 * f.carry := by
  change ((if f.C ≠ 0 then arg ||| 0x100 else arg) >>> 1).toNat = _
  rw [BitVec.toNat_ushiftRight, toNat_ror_wide h, Nat.shiftRight_eq_div_pow]
  omega

lemma carry_ror : (ror arg f).2.carry = arg.toNat % 2 := by
  rw [carry_low_bit (x := if f.C ≠ 0 then arg ||| 0x100 else arg) rfl, toNat_ror_wide h]
  omega

omit h in
lemma toNat_lsr : (lsr arg f).1.toNat = arg.toNat / 2 := by
  change (arg >>> 1).toNat = _
  rw [BitVec.toNat_ushiftRight, Nat.shiftRight_eq_div_pow]

omit h in
lemma carry_lsr : (lsr arg f).2.carry = arg.toNat % 2 := carry_low_bit rfl

lemma toNat_int8 : (int8 arg).toNat = arg.toNat + if arg.toNat < 128 then 0 else 2 ^ 32 - 256 := by
  have ha : arg.toNat < 2 ^ 8 := h
  rw [int8, BitVec.toNat_signExtend, BitVec.msb_eq_decide]
  simp only [BitVec.toNat_setWidth, decide_eq_true_eq]
  split <;> split <;> omega

lemma toNat_asr : (asr arg f).1.toNat = arg.toNat / 2 + if arg.toNat < 128 then 0 else 128 := by
  have ha : arg.toNat < 2 ^ 8 := h
  change ((int8 arg >>> 1) &&& 0xff).toNat = _
  rw [Words.toNat_and_low 8 (by decide), BitVec.toNat_ushiftRight, Nat.shiftRight_eq_div_pow,
    toNat_int8 h]
  split <;> omega

lemma carry_asr : (asr arg f).2.carry = arg.toNat % 2 := by
  rw [carry_low_bit (x := int8 arg) rfl, toNat_int8 h]
  split <;> omega

end Shifts

/-! ## Decimal adjustment -/

/-- The corrections of `daa` on the value of `A`, which may all apply. -/
def adjusted (a : Nat) (half carry : Bool) : Nat :=
  a + (if 9 < a % 16 ∨ half then 6 else 0) + (if 8 < a / 16 ∧ 9 < a % 16 then 0x60 else 0) +
    (if 9 < a / 16 ∨ carry then 0x60 else 0)

lemma toNat_high_nibble {a : Unsigned} (h : Byte a) : (a &&& 0xf0).toNat = a.toNat / 16 * 16 := by
  have key : ∀ b : BitVec 8, ((b.setWidth 32 : Unsigned) &&& 0xf0).toNat =
      (b.setWidth 32 : Unsigned).toNat / 16 * 16 := by decide
  have ha : a.toNat < 2 ^ 8 := h
  have hb : a = (a.setWidth 8).setWidth 32 := by
    apply BitVec.eq_of_toNat_eq
    simp only [BitVec.toNat_setWidth]
    omega
  rw [hb]
  exact key _

/-- `res` of `daa` before it is masked. -/
def daaWide (a : Unsigned) (f : Flags) : Unsigned :=
  let msn := a &&& 0xf0
  let lsn := a &&& 0x0f
  let res := if lsn > 0x09 ∨ f.H &&& 0x10 ≠ 0 then a + 0x06 else a
  let res := if msn > 0x80 ∧ lsn > 0x09 then res + 0x60 else res
  if msn > 0x90 ∨ f.C ≠ 0 then res + 0x60 else res

lemma toNat_ite_add {p : Prop} [Decidable p] {x y : Unsigned} (hx : x.toNat + y.toNat < 2 ^ 32) :
    (if p then x + y else x).toNat = x.toNat + if p then y.toNat else 0 := by
  split
  · rw [BitVec.toNat_add, Nat.mod_eq_of_lt hx]
  · rfl

lemma toNat_daaWide {a : Unsigned} (h : Byte a) (f : Flags) :
    (daaWide a f).toNat = adjusted a.toNat (halfBit f.H) (carryBit f.C) := by
  have ha : a.toNat < 2 ^ 8 := h
  have hlsn : (a &&& 0x0f).toNat = a.toNat % 16 := Words.toNat_and_low 4 (by decide)
  have hmsn := toNat_high_nibble h
  have h9 : a &&& 0x0f > 0x09 ↔ 9 < a.toNat % 16 := by
    rw [gt_iff_lt, BitVec.lt_def, hlsn]
    rfl
  have h8 : a &&& 0xf0 > 0x80 ↔ 8 < a.toNat / 16 := by
    rw [gt_iff_lt, BitVec.lt_def, hmsn]
    change 128 < _ ↔ _
    omega
  have h90 : a &&& 0xf0 > 0x90 ↔ 9 < a.toNat / 16 := by
    rw [gt_iff_lt, BitVec.lt_def, hmsn]
    change 144 < _ ↔ _
    omega
  have hh : f.H &&& 0x10 ≠ 0 ↔ halfBit f.H = true := by rw [halfBit, decide_eq_true_eq]
  have hc : f.C ≠ 0 ↔ carryBit f.C = true := by rw [carryBit, decide_eq_true_eq]
  have h6 : ((6 : Unsigned).toNat) = 6 := rfl
  have h60 : ((0x60 : Unsigned).toNat) = 0x60 := rfl
  have hle (p : Prop) [Decidable p] (n : Nat) : (if p then n else 0) ≤ n := by split <;> omega
  have hle6 := hle (a &&& 0x0f > 0x09 ∨ f.H &&& 0x10 ≠ 0) 6
  have hle60 := hle (a &&& 0xf0 > 0x80 ∧ a &&& 0x0f > 0x09) 0x60
  have hlow := toNat_ite_add (p := a &&& 0x0f > 0x09 ∨ f.H &&& 0x10 ≠ 0) (x := a) (y := 0x06)
    (by omega)
  rw [h6] at hlow
  have hmid := toNat_ite_add (p := a &&& 0xf0 > 0x80 ∧ a &&& 0x0f > 0x09) (y := 0x60)
    (x := if a &&& 0x0f > 0x09 ∨ f.H &&& 0x10 ≠ 0 then a + 0x06 else a) (by omega)
  rw [h60, hlow] at hmid
  have hhigh := toNat_ite_add (p := a &&& 0xf0 > 0x90 ∨ f.C ≠ 0) (y := 0x60)
    (x := if a &&& 0xf0 > 0x80 ∧ a &&& 0x0f > 0x09 then
      (if a &&& 0x0f > 0x09 ∨ f.H &&& 0x10 ≠ 0 then a + 0x06 else a) + 0x60
      else if a &&& 0x0f > 0x09 ∨ f.H &&& 0x10 ≠ 0 then a + 0x06 else a) (by omega)
  rw [h60, hmid] at hhigh
  refine hhigh.trans ?_
  simp only [adjusted, h9, h8, h90, hh, hc]

lemma toNat_daa {a : Unsigned} (h : Byte a) (f : Flags) :
    (daa a f).1.toNat = adjusted a.toNat (halfBit f.H) (carryBit f.C) % 256 := by
  rw [← toNat_daaWide h]
  exact Words.toNat_and_low 8 (by decide)

/-- `daa` keeps a carry and adds its own. -/
lemma carryBit_daa {a : Unsigned} (h : Byte a) (f : Flags) : carryBit (daa a f).2.C =
    (carryBit f.C || decide (adjusted a.toNat (halfBit f.H) (carryBit f.C) / 256 % 2 = 1)) := by
  have hC : (daa a f).2.C = f.C ||| (daaWide a f &&& 0x100) := rfl
  have hbit : carryBit (daaWide a f &&& 0x100) = true ↔
      adjusted a.toNat (halfBit f.H) (carryBit f.C) / 256 % 2 = 1 := by
    rw [carryBit, decide_eq_true_eq, ← toNat_daaWide h]
    exact Words.and_ne_zero_iff 8 (by decide) rfl
  rw [hC, carryBit_or, Bool.eq_iff_iff, Bool.or_eq_true, Bool.or_eq_true, hbit, decide_eq_true_eq]

/-- A byte whose decimal digits are the sums `low` and `high`, where `low` may include a carry. -/
lemma adjusted_digits {a low high : Nat} {half carry : Bool} (hlow : low ≤ 19) (hhigh : high ≤ 18)
    (ha : a = (16 * high + low) % 256) (hhalf : half = decide (16 ≤ low))
    (hcarry : carry = decide (256 ≤ 16 * high + low)) :
    (carry || decide (adjusted a half carry / 256 % 2 = 1)) = decide (100 ≤ 10 * high + low) ∧
    (adjusted a half carry % 256 = (10 * high + low) % 100 / 10 * 16 + (10 * high + low) % 10 ↔
      ¬((10 ≤ low ∧ low ≤ 15) ∧ 10 ≤ high ∧ high ≤ 15)) := by
  subst hhalf hcarry ha
  have key : ∀ low < 20, ∀ high < 19,
      (decide (256 ≤ 16 * high + low) || decide (adjusted ((16 * high + low) % 256)
        (decide (16 ≤ low)) (decide (256 ≤ 16 * high + low)) / 256 % 2 = 1)) =
          decide (100 ≤ 10 * high + low) ∧
      (adjusted ((16 * high + low) % 256) (decide (16 ≤ low)) (decide (256 ≤ 16 * high + low)) % 256 =
          (10 * high + low) % 100 / 10 * 16 + (10 * high + low) % 10 ↔
        ¬((10 ≤ low ∧ low ≤ 15) ∧ 10 ≤ high ∧ high ≤ 15)) := by decide +kernel
  exact key low (by omega) high (by omega)

end Alu

end Exec09
