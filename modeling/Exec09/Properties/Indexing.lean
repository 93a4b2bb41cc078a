import Exec09.Properties.Branches

/-!
# Indexed addressing

A constant offset has up to three encodings, and an accumulator offset stands for the constant that
the accumulator holds.  `EncodesOffset` says that the instruction bytes at `PC` are one of them; all
of them lead to the same address.  An indirect postbyte does what its direct one does and then
fetches the address from there.
-/

namespace Exec09

open Program

variable {σ : Type}

/-! ## Postbytes -/

def IndexReg.val : IndexReg → Cpu σ → Unsigned
  | .X => Cpu.X
  | .Y => Cpu.Y
  | .U => Cpu.U
  | .S => Cpu.S

/-- The register bits of a postbyte. -/
def IndexReg.bits : IndexReg → U8
  | .X => 0x00
  | .Y => 0x20
  | .U => 0x40
  | .S => 0x60

/-- A postbyte with bit 7 set. -/
def IndexReg.post (R : IndexReg) (mode : U8) : U8 := 0x80 ||| R.bits ||| mode

/-- The postbyte of a 5-bit offset. -/
def IndexReg.post5 (R : IndexReg) (n : Int) : U8 := R.bits ||| (BitVec.ofInt 5 n).setWidth 8

lemma IndexReg.get_apply (R : IndexReg) (s : Cpu σ) : R.get s = .ok (R.val s, s) := by
  cases R <;> rfl

@[simp] lemma IndexReg.val_set (R : IndexReg) (v : Unsigned) (s : Cpu σ) :
    R.val (R.set v s) = v := by
  cases R <;> rfl

@[simp] lemma IndexReg.val_fetched (R : IndexReg) (s : Cpu σ) (p : Unsigned) :
    R.val { s with PC := p } = R.val s := by
  cases R <;> rfl

/-- Neither the address nor the clock is a register. -/
@[simp] lemma IndexReg.val_moved (R : IndexReg) (s : Cpu σ) (a : Unsigned) (c : Int) :
    R.val { s with ea := a, cpuClk := c } = R.val s := by
  cases R <;> rfl

/-- What a postbyte with bit 7 set stands for, by its low five bits. -/
lemma decodePost_post (R : IndexReg) (mode : U8) (h : mode.toNat < 32) :
    decodePost ((R.post mode).setWidth 32) =
      match indexModes.lookup (mode.setWidth 32) with
      | some i => .mode R i
      | none => .illegal := by
  have key : ∀ mode : U8, mode.toNat < 32 → ∀ R ∈ [IndexReg.X, .Y, .U, .S],
      decodePost ((R.post mode).setWidth 32) =
        match indexModes.lookup (mode.setWidth 32) with
        | some i => .mode R i
        | none => .illegal := by decide +kernel
  exact key mode h R (by cases R <;> decide)

/-- A postbyte with bit 7 clear holds the offset in 5 bits; it is extended to 16. -/
lemma decodePost_post5 (R : IndexReg) (n : Int) :
    ∃ v, decodePost ((R.post5 n).setWidth 32) = .offset R v ∧
      v = ((BitVec.ofInt 5 n).signExtend 16).setWidth 32 := by
  have key : ∀ d : BitVec 5, ∀ R ∈ [IndexReg.X, .Y, .U, .S],
      decodePost ((R.bits ||| d.setWidth 8).setWidth 32) =
        .offset R ((d.signExtend 16).setWidth 32) := by decide +kernel
  exact ⟨_, key (BitVec.ofInt 5 n) R (by cases R <;> decide), rfl⟩

/-! ## Addresses -/

/-- The address `v` bytes from `r`, however the offset is represented. -/
lemma toNat_offset {r n : Unsigned} {v : Int} (h : (n.toNat : Int) % 65536 = v % 65536) :
    (((r + n) &&& 0xffff).toNat : Int) = (r.toNat + v) % 65536 := by
  rw [Words.toNat_and_low 16 (by decide), BitVec.toNat_add]
  omega

lemma toInt_ofInt {w : Nat} {n : Int} {b : Nat} (hw : 2 ^ w = 2 * b) (h : -b ≤ n) (h' : n < b) :
    (BitVec.ofInt w n).toInt = n := by
  rw [BitVec.toInt_ofInt, hw, Int.bmod_eq_of_le (by omega) (by omega)]

/-- A sign-extended byte. -/
lemma toNat_int8_mod {n : Int} (h : -128 ≤ n) (h' : n ≤ 127) :
    ((int8 ((BitVec.ofInt 8 n).setWidth 32)).toNat : Int) % 65536 = n % 65536 := by
  rw [int8_eq_ofInt, toInt_ofInt (b := 128) rfl (by omega) (by omega), BitVec.toNat_ofInt]
  omega

/-- A word that is not extended. -/
lemma toNat_word_mod (n : Int) :
    (((BitVec.ofInt 16 n).setWidth 32 : Unsigned).toNat : Int) % 65536 = n % 65536 := by
  rw [BitVec.toNat_setWidth_of_le (by decide), BitVec.toNat_ofInt]
  omega

/-- A 5-bit offset extended to 16 bits. -/
lemma toNat_offset5_mod {n : Int} (h : -16 ≤ n) (h' : n ≤ 15) :
    ((((BitVec.ofInt 5 n).signExtend 16).setWidth 32 : Unsigned).toNat : Int) % 65536 =
      n % 65536 := by
  have hext : (BitVec.ofInt 5 n).signExtend 16 = BitVec.ofInt 16 n := by
    rw [BitVec.signExtend, toInt_ofInt (b := 16) rfl (by omega) (by omega)]
  rw [hext, toNat_word_mod]

variable [Machine σ]

/-! ## Encodings of an offset -/

/-- The instruction bytes at `PC` make an indexed operand with the offset `n` from `R`. -/
inductive EncodesOffset (R : IndexReg) (n : Int) (s : Cpu σ) : Prop
  | five : -16 ≤ n → n ≤ 15 → Plain s.world s.PC (R.post5 n) → EncodesOffset R n s
  | eight : -128 ≤ n → n ≤ 127 → Plain s.world s.PC (R.post 0x08) →
      Plain s.world (s.PC + 1) (BitVec.ofInt 8 n) → EncodesOffset R n s
  | sixteen : Plain s.world s.PC (R.post 0x09) →
      PlainWord s.world (s.PC + 1) (BitVec.ofInt 16 n) → EncodesOffset R n s
  | accA : -128 ≤ n → n ≤ 127 → Plain s.world s.PC (R.post 0x06) →
      s.A = (BitVec.ofInt 8 n).setWidth 32 → EncodesOffset R n s
  | accB : -128 ≤ n → n ≤ 127 → Plain s.world s.PC (R.post 0x05) →
      s.B = (BitVec.ofInt 8 n).setWidth 32 → EncodesOffset R n s
  | accD : Plain s.world s.PC (R.post 0x0b) →
      s.getD = (BitVec.ofInt 16 n).setWidth 32 → EncodesOffset R n s

/-- `indexed` with a plain postbyte. -/
lemma indexed_plain {s : Cpu σ} {post : U8} (h : Plain s.world s.PC post) :
    indexed s = (decodePost (post.setWidth 32)).exec { s with PC := s.PC + 1 } := by
  rw [indexed, ok_bind (immByte_plain h), indexedPost_eq]

/-- A mode of the switch. -/
lemma indexed_post {s : Cpu σ} {R : IndexReg} {mode : U8} {i : Index} (hm : mode.toNat < 32)
    (hi : indexModes.lookup (mode.setWidth 32) = some i) (h : Plain s.world s.PC (R.post mode)) :
    indexed s = i.exec R { s with PC := s.PC + 1 } := by
  rw [indexed_plain h, decodePost_post R mode hm, hi]
  rfl

/-- Every encoding of an offset leads to the address that is so far from the register. -/
lemma EncodesOffset.address {R : IndexReg} {n : Int} {s : Cpu σ} (h : EncodesOffset R n s) :
    ∃ t, indexed s = .ok ((), t) ∧ (t.ea.toNat : Int) = ((R.val s).toNat + n) % 65536 := by
  have hR : ∀ p, R.get { s with PC := p } = .ok (R.val s, { s with PC := p }) := fun p => by
    rw [R.get_apply, R.val_fetched]
  cases h with
  | five hlo hhi hp =>
    obtain ⟨v, hdecode, rfl⟩ := decodePost_post5 R n
    rw [indexed_plain hp, hdecode, Post.exec, ok_bind (hR _)]
    exact ⟨_, rfl, toNat_offset (toNat_offset5_mod hlo hhi)⟩
  | eight hlo hhi hp hd =>
    rw [indexed_post (i := ⟨.off8, 5, false⟩) (by decide) rfl hp, Index.exec, IndexMode.addr, bind_assoc,
      ok_bind (hR _), bind_assoc, ok_bind (immByte_plain hd)]
    exact ⟨_, rfl, toNat_offset (toNat_int8_mod hlo hhi)⟩
  | sixteen hp hd =>
    rw [indexed_post (i := ⟨.off16, 8, false⟩) (by decide) rfl hp, Index.exec, IndexMode.addr, bind_assoc,
      ok_bind (hR _), bind_assoc, ok_bind (immWord_plain hd)]
    exact ⟨_, rfl, toNat_offset (toNat_word_mod n)⟩
  | accA hlo hhi hp hd =>
    rw [indexed_post (i := ⟨.accA, 5, false⟩) (by decide) rfl hp, Index.exec, IndexMode.addr, bind_assoc,
      ok_bind (hR _)]
    refine ⟨_, rfl, toNat_offset ?_⟩
    rw [← toNat_int8_mod hlo hhi, ← hd]
  | accB hlo hhi hp hd =>
    rw [indexed_post (i := ⟨.accB, 5, false⟩) (by decide) rfl hp, Index.exec, IndexMode.addr, bind_assoc,
      ok_bind (hR _)]
    refine ⟨_, rfl, toNat_offset ?_⟩
    rw [← toNat_int8_mod hlo hhi, ← hd]
  | accD hp hd =>
    rw [indexed_post (i := ⟨.accD, 8, false⟩) (by decide) rfl hp, Index.exec, IndexMode.addr, bind_assoc,
      ok_bind (hR _)]
    refine ⟨_, rfl, toNat_offset ?_⟩
    have hD : ({ s with PC := s.PC + 1 } : Cpu σ).getD = (BitVec.ofInt 16 n).setWidth 32 := hd
    rw [hD, toNat_word_mod]

/-- The 8-bit offset from `PC` counts from the address after it. -/
lemma indexed_pc8 {R : IndexReg} {n : Int} {s : Cpu σ} (hlo : -128 ≤ n) (hhi : n ≤ 127)
    (hp : Plain s.world s.PC (R.post 0x0c)) (hd : Plain s.world (s.PC + 1) (BitVec.ofInt 8 n)) :
    ∃ t, indexed s = .ok ((), t) ∧ t.PC = s.PC + 2 ∧
      (t.ea.toNat : Int) = (t.PC.toNat + n) % 65536 := by
  rw [indexed_post (i := ⟨.pc8, 5, false⟩) (by decide) rfl hp, Index.exec, IndexMode.addr, bind_assoc,
    ok_bind (immByte_plain hd)]
  refine ⟨_, rfl, ?_, ?_⟩
  · exact BitVec.add_assoc s.PC 1 1
  · rw [← toNat_offset (toNat_int8_mod hlo hhi), BitVec.add_comm]

lemma indexed_pc16 {R : IndexReg} {n : Int} {s : Cpu σ} (hp : Plain s.world s.PC (R.post 0x0d))
    (hd : PlainWord s.world (s.PC + 1) (BitVec.ofInt 16 n)) :
    ∃ t, indexed s = .ok ((), t) ∧ t.PC = s.PC + 3 ∧
      (t.ea.toNat : Int) = (t.PC.toNat + n) % 65536 := by
  rw [indexed_post (i := ⟨.pc16, 9, false⟩) (by decide) rfl hp, Index.exec, IndexMode.addr, bind_assoc,
    ok_bind (immWord_plain hd)]
  refine ⟨_, rfl, ?_, ?_⟩
  · exact BitVec.add_assoc s.PC 1 2
  · rw [← toNat_offset (toNat_word_mod n), BitVec.add_comm]

/-! ## Indirect postbytes -/

/-- A legal indirect postbyte other than `0x9f` and its variants. -/
def IndirectPost (post : U8) : Prop :=
  post &&& 0x90 = 0x90 ∧ post &&& 0x1f ≠ 0x1f ∧ decodePost (post.setWidth 32) ≠ .illegal

instance (post : U8) : Decidable (IndirectPost post) := inferInstanceAs (Decidable (_ ∧ _ ∧ _))

/-- The postbyte with bit 4 cleared. -/
def directPost (post : U8) : U8 := post &&& ~~~0x10#8

/-- The first is the indirect form of the second. -/
def Post.indirectOf : Post → Post → Bool
  | .mode R i, d => i.indirect && d = .mode R { i with indirect := false }
  | _, _ => false

/-- Clearing bit 4 gives the direct form. -/
lemma decodePost_indirect {post : U8} (h : IndirectPost post) :
    (decodePost (post.setWidth 32)).indirectOf (decodePost ((directPost post).setWidth 32)) =
      true := by
  have key : ∀ post : U8, IndirectPost post → (decodePost (post.setWidth 32)).indirectOf
      (decodePost ((directPost post).setWidth 32)) = true := by decide +kernel
  exact key post h

/-- An indirect mode is its direct mode followed by `indirect`. -/
lemma Index.exec_indirect (i : Index) (R : IndexReg) (h : i.indirect = true) :
    (i.exec R : M σ Unit) = (do ({ i with indirect := false } : Index).exec R; Exec09.indirect) := by
  simp [Index.exec, h, bind_assoc]

lemma indexedPost_indirect {post : U8} (h : IndirectPost post) :
    (indexedPost (post.setWidth 32) : M σ Unit) =
      (do indexedPost ((directPost post).setWidth 32); indirect) := by
  have hd := decodePost_indirect h
  rw [indexedPost_eq, indexedPost_eq]
  rcases hp : decodePost (post.setWidth 32) with ⟨R, n⟩ | ⟨R, i⟩ | _ <;> rw [hp] at hd
  · cases hd
  · rw [Post.indirectOf, Bool.and_eq_true, decide_eq_true_eq] at hd
    rw [hd.2]
    exact i.exec_indirect R hd.1
  · cases hd

lemma indirect_plain {u : Cpu σ} {hi lo : U8} (h : Plain u.world u.ea hi)
    (h' : Plain u.world ((u.ea + 1) &&& 0xffff) lo) :
    indirect u = .ok ((), { u with ea := wordOf hi lo, cpuClk := u.cpuClk - 3 }) := by
  have three : u.cpuClk - 1 - 2 = u.cpuClk - 3 := by omega
  rw [indirect, ok_bind (rdmem16Ea_plain h h'), ← three]
  rfl

/-! ## Automatic decrement and increment -/

/-- Stepping down and up again, by one or by two. -/
lemma step_back {r n : Unsigned} (h : Word r) : (((r - n) &&& 0xffff) + n) &&& 0xffff = r := by
  rw [Words.and_low_add_left 16 (by decide) (by decide), BitVec.sub_add_cancel,
    Words.and_low_eq 16 (by decide) h]

/-- `,-R` and `,--R`. -/
lemma indexed_dec {R : IndexReg} {mode : U8} {n : Unsigned} {clk : Int} {s : Cpu σ}
    (hm : mode.toNat < 32) (hi : indexModes.lookup (mode.setWidth 32) = some ⟨.dec n, clk, false⟩)
    (h : Plain s.world s.PC (R.post mode)) :
    ∃ t, indexed s = .ok ((), t) ∧ R.val t = (R.val s - n) &&& 0xffff ∧ t.ea = R.val t := by
  rw [indexed_post hm hi h, Index.exec, IndexMode.addr, bind_assoc, ok_bind (R.get_apply _),
    bind_assoc, ok_bind (R.put_apply _ _), bind_assoc, ok_bind (R.get_apply _)]
  refine ⟨_, rfl, ?_, ?_⟩ <;> cases R <;> rfl

/-- `,R+` and `,R++`. -/
lemma indexed_inc {R : IndexReg} {mode : U8} {n : Unsigned} {clk : Int} {s : Cpu σ}
    (hm : mode.toNat < 32) (hi : indexModes.lookup (mode.setWidth 32) = some ⟨.inc n, clk, false⟩)
    (h : Plain s.world s.PC (R.post mode)) :
    ∃ t, indexed s = .ok ((), t) ∧ R.val t = (R.val s + n) &&& 0xffff ∧ t.ea = R.val s := by
  rw [indexed_post hm hi h, Index.exec, IndexMode.addr, bind_assoc, ok_bind (R.get_apply _)]
  cases R <;> exact ⟨_, rfl, rfl, rfl⟩

/-- The postbytes of a decrement and of the increment that undoes it. -/
def undoes : List (U8 × U8) := [(0x02, 0x00), (0x03, 0x01)]

lemma indexed_undo {R : IndexReg} {down up : U8} (hp : (down, up) ∈ undoes) {s : Cpu σ}
    (hR : Word (R.val s)) (h : Plain s.world s.PC (R.post down)) :
    ∃ t, indexed s = .ok ((), t) ∧ ∀ s' : Cpu σ, R.val s' = R.val t →
      Plain s'.world s'.PC (R.post up) →
      ∃ t', indexed s' = .ok ((), t') ∧ R.val t' = R.val s ∧ t'.ea = t.ea := by
  obtain ⟨n, clk, clk', hdown, hdec, hup, hinc⟩ : ∃ n clk clk', down.toNat < 32 ∧
      indexModes.lookup (down.setWidth 32) = some ⟨.dec n, clk, false⟩ ∧ up.toNat < 32 ∧
      indexModes.lookup (up.setWidth 32) = some ⟨.inc n, clk', false⟩ := by
    simp only [undoes, List.mem_cons, Prod.mk.injEq, List.not_mem_nil, or_false] at hp
    obtain ⟨rfl, rfl⟩ | ⟨rfl, rfl⟩ := hp
    · exact ⟨1, 6, 6, by decide, rfl, by decide, rfl⟩
    · exact ⟨2, 7, 7, by decide, rfl, by decide, rfl⟩
  obtain ⟨t, ht, hval, hea⟩ := indexed_dec hdown hdec h
  refine ⟨t, ht, fun s' hs' h' => ?_⟩
  obtain ⟨t', ht', hval', hea'⟩ := indexed_inc hup hinc h'
  refine ⟨t', ht', ?_, hea'.trans (hs'.trans hea.symm)⟩
  rw [hval', hs', hval, step_back hR]

/-! ## The theorem -/

/-- **Indexed addressing is coherent.**  (1) All encodings of one offset from one value of the
register, those that take it from an accumulator included, give the same address, the sum modulo
65536; an offset from `PC` counts from the address after the offset bytes.  (2) An indirect postbyte
leaves what its direct one leaves, but for the clock and `ea`, which is the word found there.
(3) An increment undoes the decrement before it, and both use the same address. -/
theorem indexed_coherent :
    (∀ (R : IndexReg) (n : Int) (s s' : Cpu σ), R.val s' = R.val s → EncodesOffset R n s →
      EncodesOffset R n s' → ∃ t t', indexed s = .ok ((), t) ∧ indexed s' = .ok ((), t') ∧
        t'.ea = t.ea ∧ (t.ea.toNat : Int) = ((R.val s).toNat + n) % 65536) ∧
    (∀ (R : IndexReg) (n : Int) (s : Cpu σ),
      (-128 ≤ n → n ≤ 127 → Plain s.world s.PC (R.post 0x0c) →
        Plain s.world (s.PC + 1) (BitVec.ofInt 8 n) →
        ∃ t, indexed s = .ok ((), t) ∧ t.PC = s.PC + 2 ∧
          (t.ea.toNat : Int) = (t.PC.toNat + n) % 65536) ∧
      (Plain s.world s.PC (R.post 0x0d) → PlainWord s.world (s.PC + 1) (BitVec.ofInt 16 n) →
        ∃ t, indexed s = .ok ((), t) ∧ t.PC = s.PC + 3 ∧
          (t.ea.toNat : Int) = (t.PC.toNat + n) % 65536)) ∧
    (∀ post : U8, IndirectPost post → ∀ (s u : Cpu σ) (hi lo : U8),
      indexedPost ((directPost post).setWidth 32) s = .ok ((), u) → Plain u.world u.ea hi →
      Plain u.world ((u.ea + 1) &&& 0xffff) lo →
      indexedPost (post.setWidth 32) s =
        .ok ((), { u with ea := wordOf hi lo, cpuClk := u.cpuClk - 3 })) ∧
    ∀ (R : IndexReg) (down up : U8), (down, up) ∈ undoes → ∀ s : Cpu σ, Word (R.val s) →
      Plain s.world s.PC (R.post down) →
      ∃ t, indexed s = .ok ((), t) ∧ ∀ s' : Cpu σ, R.val s' = R.val t →
        Plain s'.world s'.PC (R.post up) →
        ∃ t', indexed s' = .ok ((), t') ∧ R.val t' = R.val s ∧ t'.ea = t.ea := by
  refine ⟨?_, ?_, ?_, ?_⟩
  · intro R n s s' hR h h'
    obtain ⟨t, ht, hea⟩ := h.address
    obtain ⟨t', ht', hea'⟩ := h'.address
    refine ⟨t, t', ht, ht', ?_, hea⟩
    rw [hR, ← hea] at hea'
    exact BitVec.eq_of_toNat_eq (Int.ofNat.inj hea')
  · intro R n s
    exact ⟨indexed_pc8, indexed_pc16⟩
  · intro post hpost s u hi lo hu hhi hlo
    rw [indexedPost_indirect hpost, ok_bind hu, indirect_plain hhi hlo]
  · intro R down up hp s hR h
    exact indexed_undo hp hR h

/-- A program at 0: the postbyte of `-1,X` in five bits, and in eight bits at 2. -/
def minusOne : Cpu Flat := Cpu.zeroed ⟨[(0, 0x1f), (2, 0x88), (3, 0xff)]⟩

/-- `-1,X` with `X = 0`, encoded in five and in eight bits. -/
theorem indexed_coherent_minus_one :
    ∃ t t', indexed minusOne = .ok ((), t) ∧
      indexed { minusOne with PC := 2 } = .ok ((), t') ∧ t'.ea = t.ea ∧
      (t.ea.toNat : Int) = 0xffff := by
  obtain ⟨h, -⟩ := indexed_coherent (σ := Flat)
  obtain ⟨t, t', ht, ht', hsame, hea⟩ := h .X (-1) minusOne { minusOne with PC := 2 } rfl
    (.five (by decide) (by decide) (plain_flat (by decide +kernel)))
    (.eight (by decide) (by decide) (plain_flat (by decide +kernel))
      (plain_flat (by decide +kernel)))
  exact ⟨t, t', ht, ht', hsame, hea.trans (by decide)⟩

end Exec09
