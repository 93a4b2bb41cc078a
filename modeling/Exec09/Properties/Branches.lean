import Exec09.Properties.Chains
import Exec09.Properties.Modes

/-!
# Branches after comparisons

Each of the fourteen conditions has a meaning as a statement about two numbers, `Cond.Meant`.
The flags that a comparison or a subtraction leaves make every condition hold exactly when it
should; the conditions come in complementary pairs; and a branch does the same thing in its
short and in its long form.
-/

namespace Exec09

open Program

variable {σ : Type}

/-! ## What conditions mean -/

/-- What a condition says after a comparison of `x` with `y`, two numbers below `m`. -/
def Cond.Meant (m x y : Nat) : Cond → Prop
  | .HI => y < x
  | .LS => x ≤ y
  | .HS => y ≤ x
  | .LO => x < y
  | .NE => x ≠ y
  | .EQ => x = y
  | .VC => InRange m (signed m x - signed m y)
  | .VS => ¬InRange m (signed m x - signed m y)
  | .PL => 2 * ((x + m - y) % m) < m
  | .MI => m ≤ 2 * ((x + m - y) % m)
  | .GE => signed m y ≤ signed m x
  | .LT => signed m x < signed m y
  | .GT => signed m y < signed m x
  | .LE => signed m x ≤ signed m y

/-- The flags are those of a comparison of `x` with `y`. -/
structure Flags.Compare (m x y : Nat) (f : Flags) : Prop where
  zero : Cond.EQ.holds f = true ↔ x = y
  borrow : Cond.LO.holds f = true ↔ x < y
  overflow : Cond.VS.holds f = true ↔ ¬InRange m (signed m x - signed m y)
  negative : Cond.MI.holds f = true ↔ m ≤ 2 * ((x + m - y) % m)
  less : Cond.LT.holds f = true ↔ signed m x < signed m y
  injective : signed m x = signed m y → x = y

lemma signed_injective {m k x y : Nat} (hm : m = 2 * k) (hx : x < m) (hy : y < m)
    (h : signed m x = signed m y) : x = y := by
  rw [signed_eq hm hx, signed_eq hm hy] at h
  split at h <;> split at h <;> omega

/-! ## Complements -/

/-- The condition that is tested by the opcode next to this one. -/
def Cond.opposite : Cond → Cond
  | .HI => .LS
  | .LS => .HI
  | .HS => .LO
  | .LO => .HS
  | .NE => .EQ
  | .EQ => .NE
  | .VC => .VS
  | .VS => .VC
  | .PL => .MI
  | .MI => .PL
  | .GE => .LT
  | .LT => .GE
  | .GT => .LE
  | .LE => .GT

lemma Cond.eval_opposite (c : Cond) (b : CcBits) : c.opposite.eval b = !c.eval b := by
  rcases b with ⟨h, n, z, v, d⟩
  cases c <;> cases n <;> cases z <;> cases v <;> cases d <;> rfl

lemma Cond.holds_opposite (c : Cond) (f : Flags) : c.opposite.holds f = !c.holds f := by
  rw [Cond.holds_eq_eval, Cond.holds_eq_eval, c.eval_opposite]

/-- Three more tests on the bits follow from the others. -/
lemma Cond.eval_compound (b : CcBits) :
    Cond.LS.eval b = (Cond.LO.eval b || Cond.EQ.eval b) ∧
    Cond.LE.eval b = (Cond.LT.eval b || Cond.EQ.eval b) := by
  rcases b with ⟨h, n, z, v, d⟩
  cases n <;> cases z <;> cases v <;> cases d <;> exact ⟨rfl, rfl⟩

namespace Flags.Compare

variable {m x y : Nat} {f : Flags} (h : Flags.Compare m x y f)
include h

lemma lower_or_same : Cond.LS.holds f = true ↔ x ≤ y := by
  rw [Cond.holds_eq_eval, (Cond.eval_compound f.bits).1, ← Cond.holds_eq_eval,
    ← Cond.holds_eq_eval, Bool.or_eq_true, h.borrow, h.zero]
  omega

lemma less_or_equal : Cond.LE.holds f = true ↔ signed m x ≤ signed m y := by
  rw [Cond.holds_eq_eval, (Cond.eval_compound f.bits).2, ← Cond.holds_eq_eval,
    ← Cond.holds_eq_eval, Bool.or_eq_true, h.less, h.zero]
  constructor
  · rintro (hlt | rfl)
    · exact Int.le_of_lt hlt
    · exact Int.le_refl _
  · intro hle
    exact (Int.lt_or_eq_of_le hle).imp_right h.injective

/-- A condition holds if and only if what it says is so. -/
lemma holds_iff (c : Cond) : c.holds f = true ↔ c.Meant m x y := by
  have opposite : ∀ c : Cond, c.opposite.holds f = true ↔ ¬c.holds f = true := fun c => by
    rw [c.holds_opposite, Bool.not_eq_true', Bool.not_eq_true]
  cases c with
  | EQ => exact h.zero
  | LO => exact h.borrow
  | VS => exact h.overflow
  | MI => exact h.negative
  | LT => exact h.less
  | LS => exact h.lower_or_same
  | LE => exact h.less_or_equal
  | NE => exact (opposite .EQ).trans (not_congr h.zero)
  | HS => exact (opposite .LO).trans ((not_congr h.borrow).trans Nat.not_lt)
  | VC => exact (opposite .VS).trans ((not_congr h.overflow).trans not_not)
  | PL => exact (opposite .MI).trans ((not_congr h.negative).trans Nat.not_le)
  | GE => exact (opposite .LT).trans ((not_congr h.less).trans Int.not_lt)
  | HI => exact (opposite .LS).trans ((not_congr h.lower_or_same).trans Nat.not_le)
  | GT => exact (opposite .LE).trans ((not_congr h.less_or_equal).trans Int.not_le)

end Flags.Compare

/-! ## The flags of a subtraction -/

lemma eq_zero_iff_toNat {x : Unsigned} : x = 0 ↔ x.toNat = 0 :=
  ⟨fun h => by rw [h]; rfl, fun h => BitVec.eq_of_toNat_eq h⟩

/-- After `cmp` and `sub`. -/
lemma compare_sub {arg val : Unsigned} (h : Byte arg) (h' : Byte val) (f : Flags) :
    Flags.Compare 256 arg.toNat val.toNat (Alu.sub arg val f).2 := by
  have ha : arg.toNat < 256 := h
  have hv : val.toNat < 256 := h'
  have hc : ({ f with C := 0 } : Flags).carry = 0 := f.carry_clear
  have hres := Alu.toNat_sbc h h' { f with C := 0 }
  have hcarry := Alu.carry_sbc h h' { f with C := 0 }
  have hover := Alu.overflow_sbc h h' { f with C := 0 }
  have hless := Alu.less_sbc h h' { f with C := 0 }
  have hN : signBit (Alu.sbc arg val { f with C := 0 }).2.N = true ↔ _ :=
    signBit_iff (x := (Alu.sbc arg val { f with C := 0 }).1)
  rw [hc] at hres hcarry hover hless
  rw [Words.bit, hres] at hN
  rw [Alu.sub_eq_sbc]
  refine ⟨?_, ?_, ?_, ?_, ?_, signed_injective (k := 128) rfl ha hv⟩
  · rw [Cond.holds, decide_eq_true_eq]
    refine (eq_zero_iff_toNat (x := (Alu.sbc arg val { f with C := 0 }).1)).trans ?_
    rw [hres]
    omega
  · rw [Cond.holds, decide_eq_true_eq, ← Flags.carry_eq_one, hcarry]
    split <;> omega
  · refine hover.trans (not_congr ?_)
    unfold InRange
    omega
  · refine hN.trans ?_
    omega
  · rw [hless]
    omega

/-- After `cmp16` and `subd`. -/
lemma compare_subd {arg val : Unsigned} (h : Word arg) (h' : Word val) (f : Flags) :
    Flags.Compare 65536 arg.toNat val.toNat (Alu.subd arg val f).2 := by
  have ha : arg.toNat < 65536 := h
  have hv : val.toNat < 65536 := h'
  have hres := Alu.toNat_subd h h' f
  have hN : signBit (Alu.subd arg val f).2.N = true ↔ _ := Alu.sign_high (Alu.subd arg val f).1
  rw [Words.bit, hres] at hN
  refine ⟨?_, ?_, ?_, ?_, Alu.less_subd h h' f, signed_injective (k := 32768) rfl ha hv⟩
  · rw [Cond.holds, decide_eq_true_eq]
    refine (eq_zero_iff_toNat (x := (Alu.subd arg val f).1)).trans ?_
    rw [hres]
    omega
  · rw [Cond.holds, decide_eq_true_eq, ← Flags.carry_eq_one, Alu.carry_subd h h' f]
    split <;> omega
  · refine (Alu.overflow_subd h h' f).trans (not_congr ?_)
    unfold InRange
    omega
  · refine hN.trans ?_
    omega

/-! ## Comparing instructions -/

/-- The accumulator that an operation subtracts from. -/
def Op8.compared : Op8 → Option Acc
  | .test .cmp r | .bin .sub r => some r
  | _ => none

/-- The register that an operation subtracts from. -/
def Op16.compared : Op16 → Option Cmp16
  | .cmp r => some r
  | .bin .subd => some .D
  | _ => none

lemma Acc.flags_set (r : Acc) (v : Unsigned) (s : Cpu σ) : (r.set v s).flags = s.flags := by
  cases r <;> rfl

lemma Op8.compare_apply {o : Op8} {r : Acc} (ho : o.compared = some r) {x : Unsigned}
    {s : Cpu σ} (hx : Byte x) (hs : Byte (r.val s)) :
    Flags.Compare 256 (r.val s).toNat x.toNat (o.apply x s).flags := by
  unfold Op8.compared at ho
  split at ho <;> cases ho
  · exact compare_sub hs hx s.flags
  · rw [Op8.apply, Acc.flags_set]
    exact compare_sub hs hx s.flags

lemma Op16.compare_apply {o : Op16} {r : Cmp16} (ho : o.compared = some r) {x : Unsigned}
    {s : Cpu σ} (hx : Word x) (hs : Word (r.val s)) :
    Flags.Compare 65536 (r.val s).toNat x.toNat (o.apply x s).flags := by
  unfold Op16.compared at ho
  split at ho <;> cases ho
  · exact compare_subd hs hx s.flags
  · exact compare_subd hs hx s.flags

/-- `PC` and the clock do not matter to the operands. -/
lemma Cmp16.val_moved (r : Cmp16) (s : Cpu σ) (p : Unsigned) (c : Int) :
    r.val { s with PC := p, cpuClk := c } = r.val s := by
  cases r <;> rfl

lemma Acc.val_moved (r : Acc) (s : Cpu σ) (p : Unsigned) (c : Int) :
    r.val { s with PC := p, cpuClk := c } = r.val s := by
  cases r <;> rfl

lemma word_wordOf (hi lo : U8) : Word (wordOf hi lo) := by
  have hhi : (hi.setWidth 32 : Unsigned).toNat < 2 ^ 8 := Words.setWidth_lt hi
  have hlo : (lo.setWidth 32 : Unsigned).toNat < 2 ^ 8 := Words.setWidth_lt lo
  exact Words.or_lt (Words.shiftLeft_lt (n := 8) hhi) (Nat.lt_trans hlo (by decide))

variable [Machine σ]

/-- After the instruction every condition says the truth about `x` and `y`. -/
def Compares (i : Insn) (m x y : Nat) (s : Cpu σ) : Prop :=
  ∃ t, i.exec s = .ok ((), t) ∧ ∀ c : Cond, c.holds t.flags = true ↔ c.Meant m x y

lemma Op8.compares_imm {o : Op8} {r : Acc} (ho : o.compared = some r) {s : Cpu σ} {b : U8}
    (hb : Plain s.world s.PC b) (hs : Byte (r.val s)) :
    Compares (Page.main.insn o.opcode) 256 (r.val s).toNat b.toNat s := by
  have h := o.compare_apply ho (x := b.setWidth 32)
    (s := { s with PC := s.PC + 1, cpuClk := s.cpuClk - 2 }) (Words.setWidth_lt b)
    (by rwa [Acc.val_moved])
  rw [Acc.val_moved, BitVec.toNat_setWidth_of_le (by decide)] at h
  rw [o.insn_opcode.1]
  exact ⟨_, o.exec_imm hb, h.holds_iff⟩

lemma Op8.compares_mem {o : Op8} {r : Acc} (ho : o.compared = some r) {m : Mode} {s u : Cpu σ}
    {b : U8} (hu : m.ea.compute s = .ok ((), u)) (hb : Plain u.world u.ea b)
    (hs : Byte (r.val u)) :
    Compares (Page.main.insn (o.opcode + m.offset)) 256 (r.val u).toNat b.toNat s := by
  have h := o.compare_apply ho (x := b.setWidth 32) (Words.setWidth_lt b) hs
  rw [BitVec.toNat_setWidth_of_le (by decide)] at h
  rw [o.insn_opcode.2 m]
  exact ⟨_, o.exec_mem hu hb, h.holds_iff⟩

lemma Op16.compares_imm {o : Op16} {r : Cmp16} (ho : o.compared = some r) {s : Cpu σ} {d : U16}
    (hd : PlainWord s.world s.PC d) (hs : Word (r.val s)) :
    Compares (o.page.insn o.opcode) 65536 (r.val s).toNat d.toNat s := by
  have h := o.compare_apply ho (x := d.setWidth 32)
    (s := { s with PC := s.PC + 2, cpuClk := s.cpuClk - o.immClk }) (Words.setWidth_lt d)
    (by rwa [Cmp16.val_moved])
  rw [Cmp16.val_moved, BitVec.toNat_setWidth_of_le (by decide)] at h
  rw [o.insn_opcode.1]
  exact ⟨_, o.exec_imm hd, h.holds_iff⟩

lemma Op16.compares_mem {o : Op16} {r : Cmp16} (ho : o.compared = some r) {m : Mode}
    {s u : Cpu σ} {hi lo : U8} (hu : (o.ea m).compute s = .ok ((), u))
    (hhi : Plain u.world u.ea hi) (hlo : Plain u.world ((u.ea + 1) &&& 0xffff) lo)
    (hs : Word (r.val u)) :
    Compares (o.page.insn (o.opcode + m.offset)) 65536 (r.val u).toNat (wordOf hi lo).toNat s := by
  have h := o.compare_apply ho (x := wordOf hi lo)
    (s := { u with PC := u.PC, cpuClk := u.cpuClk - o.memClk }) (word_wordOf hi lo)
    (by rwa [Cmp16.val_moved])
  rw [Cmp16.val_moved] at h
  rw [o.insn_opcode.2 m]
  exact ⟨_, o.exec_mem hu hhi hlo, h.holds_iff⟩

/-! ## Short and long branches -/

/-- The branches: always, never, or on a condition. -/
inductive Branch
  | ra | rn
  | on (c : Cond)
  deriving DecidableEq, Repr

namespace Branch

def taken : Branch → Flags → Bool
  | ra, _ => true
  | rn, _ => false
  | on c, f => c.holds f

def opposite : Branch → Branch
  | ra => rn
  | rn => ra
  | on c => on c.opposite

/-- The opcode of the short form. -/
def opcode : Branch → Unsigned
  | ra => 0x20
  | rn => 0x21
  | on .HI => 0x22
  | on .LS => 0x23
  | on .HS => 0x24
  | on .LO => 0x25
  | on .NE => 0x26
  | on .EQ => 0x27
  | on .VC => 0x28
  | on .VS => 0x29
  | on .PL => 0x2a
  | on .MI => 0x2b
  | on .GE => 0x2c
  | on .LT => 0x2d
  | on .GT => 0x2e
  | on .LE => 0x2f

def short (b : Branch) : Insn := Page.main.insn b.opcode

/-- The long form: `LBRA` is on the main page, the others have the opcode of the short form
behind the prefix `0x10`. -/
def long : Branch → Insn
  | ra => Page.main.insn 0x16
  | b => Page.p10.insn b.opcode

lemma taken_opposite (b : Branch) (f : Flags) : b.opposite.taken f = !b.taken f := by
  cases b with
  | ra => rfl
  | rn => rfl
  | on c => exact c.holds_opposite f

/-! ### What they do -/

lemma insn_short (b : Branch) : b.short =
    match b with | ra => .bra | rn => .brn | on c => .branch c := by
  rcases b with _ | _ | c
  · decide +kernel
  · decide +kernel
  · cases c <;> decide +kernel

lemma insn_long (b : Branch) : b.long =
    match b with | ra => .longBra | rn => .longBrn | on c => .longBranch c := by
  rcases b with _ | _ | c
  · decide +kernel
  · decide +kernel
  · cases c <;> decide +kernel

end Branch

lemma bra_plain {s : Cpu σ} {d : U8} (h : Plain s.world s.PC d) :
    bra s = .ok ((), { s with PC := s.PC + 1 + int8 (d.setWidth 32) }) := by
  rw [bra, ok_bind (immByte_plain h)]
  rfl

lemma longBra_plain {s : Cpu σ} {d : U16} (h : PlainWord s.world s.PC d) :
    longBra s = .ok ((), { s with PC := s.PC + 2 + int16 (d.setWidth 32) }) := by
  rw [longBra, ok_bind (immWord_plain h)]
  rfl

/-- A short branch changes `PC` and the clock. -/
lemma Branch.exec_short (b : Branch) {s : Cpu σ} {d : U8} (h : Plain s.world s.PC d) :
    b.short.exec s = .ok ((), { s with
      PC := if b.taken s.flags then s.PC + 1 + int8 (d.setWidth 32) else s.PC + 1
      cpuClk := s.cpuClk - 3 }) := by
  rw [b.insn_short]
  rcases b with _ | _ | c
  · rw [Insn.exec, ok_bind (bra_plain h)]
    rfl
  · rfl
  · rw [Insn.exec, cond, ok_bind (reads_apply _ s), Exec09.branch, taken]
    cases c.holds s.flags
    · rfl
    · rw [if_pos rfl, if_pos rfl, ok_bind (bra_plain h)]
      rfl

lemma Branch.exec_long (b : Branch) {s : Cpu σ} {d : U16} (h : PlainWord s.world s.PC d) :
    ∃ clk, b.long.exec s = .ok ((), { s with
      PC := if b.taken s.flags then s.PC + 2 + int16 (d.setWidth 32) else s.PC + 2
      cpuClk := clk }) := by
  rw [b.insn_long]
  rcases b with _ | _ | c
  · refine ⟨s.cpuClk - 5, ?_⟩
    rw [Insn.exec, ok_bind (longBra_plain h)]
    rfl
  · exact ⟨s.cpuClk - 5, rfl⟩
  · rw [Insn.exec, cond, ok_bind (reads_apply _ s), Exec09.longBranch, taken]
    cases c.holds s.flags
    · exact ⟨s.cpuClk - 5, rfl⟩
    · refine ⟨s.cpuClk - 6, ?_⟩
      rw [if_pos rfl, if_pos rfl, ok_bind (longBra_plain h)]
      rfl

/-! ### Where they lead -/

lemma int8_eq_ofInt (d : U8) : int8 (d.setWidth 32) = BitVec.ofInt 32 d.toInt := by
  rw [int8, BitVec.setWidth_setWidth_of_le _ (by decide), BitVec.setWidth_eq]
  rfl

/-- The sign-extended displacement of a long branch is the displacement of the short one. -/
lemma int16_eq_ofInt (d : U8) :
    int16 ((d.signExtend 16).setWidth 32) = BitVec.ofInt 32 d.toInt := by
  rw [int16, BitVec.setWidth_setWidth_of_le _ (by decide), BitVec.setWidth_eq,
    ← BitVec.toInt_signExtend_of_le (v := 16) (by decide)]
  rfl

/-- The address `d` bytes past `p`, modulo 65536. -/
lemma toNat_target (p n : Unsigned) (d : Int) :
    (((p + n + BitVec.ofInt 32 d) &&& 0xffff).toNat : Int) = (p.toNat + n.toNat + d) % 65536 := by
  rw [Words.toNat_and_low 16 (by decide), BitVec.toNat_add, BitVec.toNat_add, BitVec.toNat_ofInt]
  omega

/-- **Branches after a comparison mean what they say.**  (1) After a comparison or subtraction of
an 8-bit or a 16-bit register with an operand, each condition holds exactly when it should.
(2) In every state exactly one of two complementary branches is taken.  (3) The short form of a
branch, and the long form with the sign-extended displacement, decide alike, change nothing but
`PC` and the clock, and, when taken, lead `d` bytes past their own end; otherwise to their end.
`PC` is not reduced modulo 65536; the address it stands for is what `get_pc` tells. -/
theorem branches_after_comparisons :
    (∀ (o : Op8) (r : Acc), o.compared = some r → ∀ (s : Cpu σ) (b : U8),
      (Plain s.world s.PC b → Byte (r.val s) →
        Compares (Page.main.insn o.opcode) 256 (r.val s).toNat b.toNat s) ∧
      ∀ (m : Mode) (u : Cpu σ), m.ea.compute s = .ok ((), u) → Plain u.world u.ea b →
        Byte (r.val u) →
        Compares (Page.main.insn (o.opcode + m.offset)) 256 (r.val u).toNat b.toNat s) ∧
    (∀ (o : Op16) (r : Cmp16), o.compared = some r → ∀ s : Cpu σ,
      (∀ d : U16, PlainWord s.world s.PC d → Word (r.val s) →
        Compares (o.page.insn o.opcode) 65536 (r.val s).toNat d.toNat s) ∧
      ∀ (m : Mode) (u : Cpu σ) (hi lo : U8), (o.ea m).compute s = .ok ((), u) →
        Plain u.world u.ea hi → Plain u.world ((u.ea + 1) &&& 0xffff) lo → Word (r.val u) →
        Compares (o.page.insn (o.opcode + m.offset)) 65536 (r.val u).toNat
          (wordOf hi lo).toNat s) ∧
    (∀ (b : Branch) (f : Flags), b.opposite.taken f = !b.taken f) ∧
    ∀ (b : Branch) (d : U8) (s s' : Cpu σ), s'.flags = s.flags →
      Plain s.world s.PC d → PlainWord s'.world s'.PC (d.signExtend 16) →
      ∃ t t', b.short.exec s = .ok ((), t) ∧ b.long.exec s' = .ok ((), t') ∧
        t = { s with PC := t.PC, cpuClk := t.cpuClk } ∧
        t' = { s' with PC := t'.PC, cpuClk := t'.cpuClk } ∧
        if b.taken s.flags then
          (t.getPc.toNat : Int) = (s.PC.toNat + 1 + d.toInt) % 65536 ∧
          (t'.getPc.toNat : Int) = (s'.PC.toNat + 2 + d.toInt) % 65536
        else t.PC = s.PC + 1 ∧ t'.PC = s'.PC + 2 := by
  refine ⟨?_, ?_, Branch.taken_opposite, ?_⟩
  · intro o r ho s b
    exact ⟨Op8.compares_imm ho, fun m u => Op8.compares_mem ho⟩
  · intro o r ho s
    exact ⟨fun d => Op16.compares_imm ho, fun m u hi lo => Op16.compares_mem ho⟩
  · intro b d s s' hf hd hd'
    obtain ⟨clk, hlong⟩ := b.exec_long hd'
    refine ⟨_, _, b.exec_short hd, hlong, rfl, rfl, ?_⟩
    rw [hf]
    split
    · constructor
      · rw [Cpu.getPc, int8_eq_ofInt]
        exact toNat_target s.PC 1 d.toInt
      · rw [Cpu.getPc, int16_eq_ofInt]
        exact toNat_target s'.PC 2 d.toInt
    · exact ⟨rfl, rfl⟩

/-- `CMPA #$7F` with `A = 0x80`: higher as a number, less as a signed number; and a branch back
across address 0. -/
theorem branches_after_comparisons_limits :
    (∃ t, (Page.main.insn 0x81).exec ({ Cpu.zeroed ⟨[(0, 0x7f)]⟩ with A := 0x80 } : Cpu Flat) =
      .ok ((), t) ∧ Cond.HI.holds t.flags = true ∧ Cond.LT.holds t.flags = true) ∧
    ∃ t, Branch.ra.short.exec (Cpu.zeroed ⟨[(0, 0xf0)]⟩ : Cpu Flat) = .ok ((), t) ∧
      (t.getPc.toNat : Int) = 0xfff1 := by
  obtain ⟨h8, -, -, hb⟩ := branches_after_comparisons (σ := Flat)
  constructor
  · have hbyte : (0x80 : Unsigned).toNat < 2 ^ 8 := by decide
    obtain ⟨t, ht, hc⟩ := (h8 (.test .cmp .A) .A rfl
      { Cpu.zeroed ⟨[(0, 0x7f)]⟩ with A := 0x80 } 0x7f).1 (plain_flat (by decide +kernel)) hbyte
    have hhi : (0x7f : U8).toNat < (0x80 : Unsigned).toNat := by decide
    have hlt : signed 256 (0x80 : Unsigned).toNat < signed 256 (0x7f : U8).toNat := by decide
    exact ⟨t, ht, (hc .HI).mpr hhi, (hc .LT).mpr hlt⟩
  · obtain ⟨t, t', ht, -, -, -, hpc⟩ := hb .ra 0xf0 (Cpu.zeroed ⟨[(0, 0xf0)]⟩)
      (Cpu.zeroed ⟨[(0, 0xff), (1, 0xf0)]⟩) rfl (plain_flat (by decide +kernel))
      (plainWord_flat (by decide +kernel))
    simp only [Branch.taken, if_true] at hpc
    exact ⟨t, ht, hpc.1.trans (by decide)⟩

end Exec09
