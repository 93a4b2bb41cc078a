import Exec09.Cpu.Insn
import Exec09.Framework.Words

/-!
# The lazy condition codes stand for a byte

`Flags` keeps leftovers of results; `get_cc` reads one bit from each.  `Flags.bits` is those
five bits, and `getCc_eq_iff` says that two states have the same `get_cc` exactly when these and
the masked `EFI` agree.  A flag computation is `Lazy` when it depends on the flags only through
the bits, which every helper of `Exec09.Cpu.Alu` is.
-/

namespace Exec09

/-! ## The five bits -/

/-- The bits of the condition code byte kept in `Flags`. -/
structure CcBits where
  h : Bool
  n : Bool
  z : Bool
  v : Bool
  c : Bool
  deriving DecidableEq, Repr

/-- How `H` is read. -/
def halfBit (h : Unsigned) : Bool := h &&& 0x10 ≠ 0

/-- How `N` and `OV` are read. -/
def signBit (n : Unsigned) : Bool := n &&& 0x80 ≠ 0

/-- How `Z` is read. -/
def zeroBit (z : Unsigned) : Bool := z = 0

/-- How `C` is read. -/
def carryBit (c : Unsigned) : Bool := c ≠ 0

/-- The bits `get_cc` reads from the lazy flags. -/
def Flags.bits (f : Flags) : CcBits where
  h := halfBit f.H
  n := signBit f.N
  z := zeroBit f.Z
  v := signBit f.OV
  c := carryBit f.C

/-- The five bits in their places. -/
def CcBits.byte (b : CcBits) : Unsigned :=
  (if b.h then H_FLAG else 0) ||| (if b.n then N_FLAG else 0) ||| (if b.z then Z_FLAG else 0)
    ||| (if b.v then V_FLAG else 0) ||| (if b.c then C_FLAG else 0)

/-- The bits `get_cc` takes from `EFI`. -/
abbrev EFI_MASK : Unsigned := E_FLAG ||| F_FLAG ||| I_FLAG

lemma CcBits.byte_and_mask (b : CcBits) : b.byte &&& EFI_MASK = 0 := by
  rcases b with ⟨_ | _, _ | _, _ | _, _ | _, _ | _⟩ <;> decide

lemma CcBits.byte_and_not_mask (b : CcBits) : b.byte &&& ~~~EFI_MASK = b.byte := by
  rcases b with ⟨_ | _, _ | _, _ | _, _ | _, _ | _⟩ <;> decide

lemma CcBits.byte_injective : Function.Injective CcBits.byte := by
  rintro ⟨_ | _, _ | _, _ | _, _ | _, _ | _⟩ ⟨_ | _, _ | _, _ | _, _ | _, _ | _⟩ h <;>
    first | rfl | exact absurd h (by decide)

variable {σ : Type}

lemma Cpu.getCc_eq (s : Cpu σ) : s.getCc = (s.EFI &&& EFI_MASK) ||| s.flags.bits.byte := by
  simp only [Cpu.getCc, Flags.bits, CcBits.byte, halfBit, signBit, zeroBit, carryBit,
    decide_eq_true_eq, BitVec.or_assoc]

lemma Cpu.getCc_and_mask (s : Cpu σ) : s.getCc &&& EFI_MASK = s.EFI &&& EFI_MASK := by
  rw [s.getCc_eq, BitVec.and_or_distrib_right, CcBits.byte_and_mask, BitVec.and_assoc,
    BitVec.and_self]
  exact BitVec.or_zero

lemma Cpu.getCc_and_not_mask (s : Cpu σ) : s.getCc &&& ~~~EFI_MASK = s.flags.bits.byte := by
  rw [s.getCc_eq, BitVec.and_or_distrib_right, CcBits.byte_and_not_mask, BitVec.and_assoc,
    show EFI_MASK &&& ~~~EFI_MASK = 0#32 by decide, BitVec.and_zero]
  exact BitVec.zero_or

/-- **`get_cc` is the masked `EFI` together with the five bits, and nothing else.** -/
lemma Cpu.getCc_eq_iff {s t : Cpu σ} :
    s.getCc = t.getCc ↔
      s.EFI &&& EFI_MASK = t.EFI &&& EFI_MASK ∧ s.flags.bits = t.flags.bits := by
  constructor
  · intro h
    refine ⟨?_, CcBits.byte_injective ?_⟩
    · rw [← s.getCc_and_mask, ← t.getCc_and_mask, h]
    · rw [← s.getCc_and_not_mask, ← t.getCc_and_not_mask, h]
  · rintro ⟨hE, hb⟩
    rw [s.getCc_eq, t.getCc_eq, hE, hb]

lemma Cpu.getCc_lt (s : Cpu σ) : s.getCc.toNat < 256 := by
  rw [s.getCc_eq]
  refine Words.or_lt (k := 8) ?_ ?_
  · rw [BitVec.and_comm]
    exact Words.and_lt (by decide)
  · rcases s.flags.bits with ⟨_ | _, _ | _, _ | _, _ | _, _ | _⟩ <;> decide

/-! ## Packing and unpacking -/

/-- The bits of a condition code byte. -/
def CcBits.ofByte (v : Unsigned) : CcBits where
  h := v &&& H_FLAG ≠ 0
  n := v &&& N_FLAG ≠ 0
  z := v &&& Z_FLAG ≠ 0
  v := v &&& V_FLAG ≠ 0
  c := v &&& C_FLAG ≠ 0

lemma ite_and_ne_zero (p : Prop) [Decidable p] {b : Unsigned} (hb : b &&& b ≠ 0) :
    ((if p then b else 0) &&& b ≠ 0) ↔ p := by
  split <;> simp_all

/-- `set_cc` stores the bits of its argument.  `Z` is kept inverted: it holds `~arg` at the
zero-flag bit. -/
lemma bits_flagsOfCc (v : Unsigned) : (Cpu.flagsOfCc v).bits = CcBits.ofByte v := by
  have hZ : ~~~v &&& Z_FLAG = 0#32 ↔ ¬v &&& Z_FLAG = 0#32 := by
    rw [Words.and_bit_eq_zero 2 (by decide) (by decide),
      Words.and_bit_eq_zero 2 (by decide) (by decide)]
    simp
  unfold Cpu.flagsOfCc Flags.bits CcBits.ofByte halfBit signBit zeroBit carryBit
  congr 1 <;> rw [decide_eq_decide]
  · exact ite_and_ne_zero _ (by decide)
  · exact ite_and_ne_zero _ (by decide)
  · exact hZ
  · exact ite_and_ne_zero _ (by decide)

/-- The five bits of a byte, put back in their places, are the byte without `E`, `F`, `I`. -/
lemma byte_ofByte (v : Unsigned) (hv : v.toNat < 256) :
    (v &&& EFI_MASK) ||| (CcBits.ofByte v).byte = v := by
  have key : ∀ b : BitVec 8, (b.setWidth 32 &&& EFI_MASK) |||
      (CcBits.ofByte (b.setWidth 32)).byte = b.setWidth 32 := by decide
  have hb : v = (v.setWidth 8).setWidth 32 := by
    apply BitVec.eq_of_toNat_eq
    simp only [BitVec.toNat_setWidth]
    omega
  rw [hb]
  exact key _

/-- **`set_cc (v)` followed by `get_cc ()` gives `v`.** -/
lemma Cpu.getCc_setCc (s : Cpu σ) (v : Unsigned) (hv : v.toNat < 256) :
    (s.setCc v).getCc = v := by
  rw [Cpu.getCc_eq]
  simp only [Cpu.setCc, bits_flagsOfCc]
  rw [BitVec.and_assoc, BitVec.and_self]
  exact byte_ofByte v hv

/-! ## Branch conditions are functions of the bits -/

/-- What the name of a condition says, over the `N`, `Z`, `V`, `C` bits. -/
def Cond.eval : Cond → CcBits → Bool
  | .HI, b => !b.c && !b.z
  | .LS, b => b.c || b.z
  | .HS, b => !b.c
  | .LO, b => b.c
  | .NE, b => !b.z
  | .EQ, b => b.z
  | .VC, b => !b.v
  | .VS, b => b.v
  | .PL, b => !b.n
  | .MI, b => b.n
  | .GE, b => b.n == b.v
  | .LT, b => b.n != b.v
  | .GT, b => !b.z && (b.n == b.v)
  | .LE, b => b.z || (b.n != b.v)

/-- The sign of `N ^ OV` compares the two sign bits. -/
lemma xor_sign (n v : Unsigned) :
    ((n ^^^ v) &&& 0x80 = 0) ↔ ((n &&& 0x80 ≠ 0) ↔ (v &&& 0x80 ≠ 0)) := by
  have h (x : Unsigned) : x &&& 0x80 = 0 ↔ x.getLsbD 7 = false :=
    Words.and_bit_eq_zero 7 (by decide) (by decide)
  rw [Ne, Ne, h, h, h, BitVec.getLsbD_xor]
  cases n.getLsbD 7 <;> cases v.getLsbD 7 <;> simp

lemma Cond.holds_eq_eval (c : Cond) (f : Flags) : c.holds f = c.eval f.bits := by
  have hx := xor_sign f.N f.OV
  cases c <;> rw [Bool.eq_iff_iff] <;>
    simp only [Cond.holds, Cond.eval, Flags.bits, signBit, zeroBit, carryBit, decide_eq_true_eq,
      Bool.and_eq_true, Bool.or_eq_true, Bool.not_eq_true', decide_eq_false_iff_not, beq_iff_eq,
      bne_iff_ne, Ne, decide_eq_decide] at hx ⊢ <;>
    tauto

/-! ## The helpers are functions of the bits -/

/-- A flag computation that sees the flags only through their bits. -/
def Lazy {α : Type} (g : Flags → α × Flags) : Prop :=
  ∀ f f', f.bits = f'.bits → (g f).1 = (g f').1 ∧ (g f).2.bits = (g f').2.bits

/-- The carry as an operand depends on the carry bit only. -/
lemma carry_congr {α : Type} {c c' : Unsigned} (h : carryBit c = carryBit c') (x y : α) :
    (if c ≠ 0 then x else y) = if c' ≠ 0 then x else y := by
  simp only [carryBit, decide_eq_decide] at h
  simp only [h]

lemma Unary.lazy_fn (op : Unary) (arg : Unsigned) : Lazy (op.fn arg) := by
  intro f f' hf
  simp only [Flags.bits, CcBits.mk.injEq] at hf
  obtain ⟨h, n, z, v, c⟩ := hf
  cases op <;>
    simp only [Unary.fn, Alu.neg, Alu.com, Alu.lsr, Alu.ror, Alu.asr, Alu.asl, Alu.rol, Alu.dec,
      Alu.inc, Alu.clr, Flags.bits, h, v, c, carry_congr c, and_self]

lemma Bin8.lazy_fn (op : Bin8) (arg val : Unsigned) : Lazy (op.fn arg val) := by
  intro f f' hf
  simp only [Flags.bits, CcBits.mk.injEq] at hf
  obtain ⟨h, n, z, v, c⟩ := hf
  cases op <;>
    simp only [Bin8.fn, Alu.sub, Alu.sbc, Alu.and, Alu.eor, Alu.adc, Alu.or, Alu.add, Flags.bits,
      h, c, carry_congr c, and_self]

lemma Test8.lazy_fn (op : Test8) (arg val : Unsigned) : Lazy (op.fn arg val) := by
  intro f f' hf
  simp only [Flags.bits, CcBits.mk.injEq] at hf
  obtain ⟨h, n, z, v, c⟩ := hf
  cases op <;> simp only [Test8.fn, Alu.cmp, Alu.bit, Flags.bits, h, c, and_self]

lemma carryBit_or (c r : Unsigned) : carryBit (c ||| r) = (carryBit c || carryBit r) := by
  rw [Bool.eq_iff_iff]
  simp only [carryBit, Bool.or_eq_true, decide_eq_true_eq]
  have h := BitVec.or_eq_zero_iff (x := c) (y := r)
  tauto

/-- `daa` reads the half carry and the carry, and adds to the carry. -/
lemma lazy_daa (a : Unsigned) : Lazy (Alu.daa a) := by
  intro f f' hf
  simp only [Flags.bits, CcBits.mk.injEq] at hf
  obtain ⟨h, n, z, v, c⟩ := hf
  have hc : (f.C ≠ 0) = (f'.C ≠ 0) := propext (decide_eq_decide.mp c)
  have hh : (f.H &&& 0x10 ≠ 0) = (f'.H &&& 0x10 ≠ 0) := propext (decide_eq_decide.mp h)
  simp only [Alu.daa, Flags.bits, carryBit_or, hc, hh, h, c, and_self]

/-- A helper that reads no flag, and copies some: its result is the same for any flags, and its
new bits are a function of the old ones. -/
lemma lazy_of_update {α : Type} {g : Flags → α × Flags} {r : α} {u : CcBits → CcBits}
    (hr : ∀ f, (g f).1 = r) (hu : ∀ f, (g f).2.bits = u f.bits) : Lazy g := by
  intro f f' hf
  rw [hr, hr, hu, hu, hf]
  exact ⟨rfl, rfl⟩

/-- The bits after a result that sets `N` and `Z` and clears `V`. -/
def CcBits.logic (n z : Unsigned) (b : CcBits) : CcBits :=
  { b with n := signBit n, z := zeroBit z, v := signBit 0 }

/-- The bits after a result that sets everything but `H`. -/
def CcBits.arith (n z v c : Unsigned) (b : CcBits) : CcBits :=
  { b with n := signBit n, z := zeroBit z, v := signBit v, c := carryBit c }

lemma lazy_ld (arg : Unsigned) : Lazy (Alu.ld arg) :=
  lazy_of_update (u := CcBits.logic arg arg) (fun _ => rfl) fun _ => rfl

lemma lazy_st (arg : Unsigned) : Lazy (Alu.st arg) :=
  lazy_of_update (u := CcBits.logic arg arg) (fun _ => rfl) fun _ => rfl

lemma lazy_tst (arg : Unsigned) : Lazy (Alu.tst arg) :=
  lazy_of_update (u := CcBits.logic arg arg) (fun _ => rfl) fun _ => rfl

lemma lazy_ld16 (arg : Unsigned) : Lazy (Alu.ld16 arg) :=
  lazy_of_update (u := CcBits.logic (arg >>> 8) arg) (fun _ => rfl) fun _ => rfl

lemma lazy_st16 (arg : Unsigned) : Lazy (Alu.st16 arg) :=
  lazy_of_update (u := CcBits.logic (arg >>> 8) arg) (fun _ => rfl) fun _ => rfl

lemma lazy_std (a b : Unsigned) : Lazy (Alu.std a b) :=
  lazy_of_update (u := CcBits.logic a ((a <<< 8) ||| b)) (fun _ => rfl) fun _ => rfl

lemma lazy_addd (arg val : Unsigned) : Lazy (Alu.addd arg val) :=
  lazy_of_update (u := CcBits.arith _ _ _ _) (fun _ => rfl) fun _ => rfl

lemma lazy_subd (arg val : Unsigned) : Lazy (Alu.subd arg val) :=
  lazy_of_update (u := CcBits.arith _ _ _ _) (fun _ => rfl) fun _ => rfl

lemma lazy_cmp16 (arg val : Unsigned) : Lazy (Alu.cmp16 arg val) :=
  lazy_of_update (u := CcBits.arith _ _ _ _) (fun _ => rfl) fun _ => rfl

lemma lazy_mul (a b : Unsigned) : Lazy (Alu.mul a b) :=
  lazy_of_update (u := fun f => { f with z := zeroBit _, c := carryBit _ }) (fun _ => rfl)
    fun _ => rfl

lemma lazy_sex (b : Unsigned) : Lazy (Alu.sex b) :=
  lazy_of_update (u := fun f => { f with n := signBit _, z := zeroBit _ }) (fun _ => rfl)
    fun _ => rfl

end Exec09
