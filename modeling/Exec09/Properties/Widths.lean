import Exec09.Cpu.Flat
import Exec09.Framework.Words
import Exec09.Properties.LazyFlags

/-!
# Register widths

The registers are 32-bit variables and every masking is done by hand.  `Widths` says what they
hold between instructions.  A program is `Sound` when it keeps this and its result satisfies a
bound; the rules follow the program text, and each register assignment is checked where it is
made.
-/

namespace Exec09

open Program

variable {σ α β : Type}

/-- The width invariant.  `PC` is not part of it. -/
structure Widths (s : Cpu σ) : Prop where
  A : s.A.toNat < 2 ^ 8
  B : s.B.toNat < 2 ^ 8
  X : s.X.toNat < 2 ^ 16
  Y : s.Y.toNat < 2 ^ 16
  U : s.U.toNat < 2 ^ 16
  S : s.S.toNat < 2 ^ 16
  DP : s.DP.toNat % 256 = 0 ∧ s.DP.toNat ≤ 0xff00
  EFI : s.EFI &&& ~~~EFI_MASK = 0

/-- The variables the invariant is about. -/
def Cpu.file (s : Cpu σ) :=
  (s.A, s.B, s.X, s.Y, s.U, s.S, s.DP, s.EFI)

lemma Widths.of_file {s t : Cpu σ} (h : t.file = s.file) (hs : Widths s) : Widths t := by
  simp only [Cpu.file, Prod.mk.injEq] at h
  obtain ⟨hA, hB, hX, hY, hU, hS, hDP, hE⟩ := h
  exact ⟨hA ▸ hs.A, hB ▸ hs.B, hX ▸ hs.X, hY ▸ hs.Y, hU ▸ hs.U, hS ▸ hs.S, hDP ▸ hs.DP,
    hE ▸ hs.EFI⟩

/-- `m` keeps the widths, and its result satisfies `Q`. -/
def Sound (m : M σ α) (Q : α → Prop) : Prop :=
  Triple Widths m fun a s => Q a ∧ Widths s

/-- Results that fit a byte. -/
def Byte (v : Unsigned) : Prop := v.toNat < 2 ^ 8

/-- Results that fit 16 bits. -/
def Word (v : Unsigned) : Prop := v.toNat < 2 ^ 16

lemma Byte.word {v : Unsigned} (h : Byte v) : Word v := Nat.lt_trans h (by decide)

/-- Nothing to say about a result. -/
def Any (_ : α) : Prop := True

namespace Sound

variable {m : M σ α} {f : α → M σ β} {Q Q' : α → Prop} {R : β → Prop}

lemma bind (hm : Sound m Q) (hf : ∀ a, Q a → Sound (f a) R) : Sound (m >>= f) R := by
  refine Triple.bind hm fun a s h => ?_
  exact hf a h.1 s h.2

lemma pure {a : α} (h : Q a) : Sound (pure a : M σ α) Q := Triple.pure fun _ hs => ⟨h, hs⟩

lemma reads {g : Cpu σ → α} (h : ∀ s, Widths s → Q (g s)) : Sound (reads g : M σ α) Q :=
  Triple.reads fun s hs => ⟨h s hs, hs⟩

/-- A variable that is not part of the invariant is assigned. -/
lemma keep {g : Cpu σ → Cpu σ} (h : ∀ s, (g s).file = s.file) :
    Sound (modify g : M σ Unit) Any :=
  Triple.modify fun s hs => ⟨trivial, hs.of_file (h s)⟩

lemma modify {g : Cpu σ → Cpu σ} (h : ∀ s, Widths s → Widths (g s)) :
    Sound (modify g : M σ Unit) Any :=
  Triple.modify fun s hs => ⟨trivial, h s hs⟩

lemma throw (e : Exit) : Sound (throw e : M σ α) Q := Triple.throw

lemma ite {c : Prop} [Decidable c] {m' : M σ α} (h : Sound m Q) (h' : Sound m' Q) :
    Sound (if c then m else m') Q := Triple.ite (fun _ => h) fun _ => h'

lemma whenever {c : Prop} [Decidable c] {m : M σ Unit} (h : Sound m Any) :
    Sound (whenever c m) Any := ite h (pure trivial)

lemma forM {l : List β} {k : β → M σ PUnit} (h : ∀ b, Sound (k b) Any) :
    Sound (l.forM k) Any := by
  induction l with
  | nil => exact pure trivial
  | cons b l ih => exact bind (h b) fun _ _ => ih

lemma mono (h : Sound m Q) (hQ : ∀ a, Q a → Q' a) : Sound m Q' :=
  Triple.conseq h (fun _ hs => hs) fun a _ ha => ⟨hQ a ha.1, ha.2⟩

end Sound

/-! ## Elementary programs -/

lemma sound_tick (n : Int) : Sound (tick n : M σ Unit) Any := Sound.keep fun _ => rfl
lemma sound_wrEa (v : Unsigned) : Sound (wrEa v : M σ Unit) Any := Sound.keep fun _ => rfl
lemma sound_wrPC (v : Unsigned) : Sound (wrPC v : M σ Unit) Any := Sound.keep fun _ => rfl
lemma sound_skip (v : Unsigned) : Sound (skip v : M σ Unit) Any := Sound.keep fun _ => rfl
lemma sound_wrZ (v : Unsigned) : Sound (wrZ v : M σ Unit) Any := Sound.keep fun _ => rfl

lemma sound_alu {g : Flags → α × Flags} {Q : α → Prop} (h : ∀ f, Q (g f).1) :
    Sound (alu g : M σ α) Q :=
  Triple.modifyGet fun s hs => ⟨h s.flags, { hs with A := hs.A }⟩

lemma sound_rdA : Sound (rdA : M σ Unsigned) Byte := Sound.reads fun _ hs => hs.A
lemma sound_rdB : Sound (rdB : M σ Unsigned) Byte := Sound.reads fun _ hs => hs.B
lemma sound_rdX : Sound (rdX : M σ Unsigned) Word := Sound.reads fun _ hs => hs.X
lemma sound_rdY : Sound (rdY : M σ Unsigned) Word := Sound.reads fun _ hs => hs.Y
lemma sound_rdU : Sound (rdU : M σ Unsigned) Word := Sound.reads fun _ hs => hs.U
lemma sound_rdS : Sound (rdS : M σ Unsigned) Word := Sound.reads fun _ hs => hs.S
lemma sound_reads (f : Cpu σ → α) : Sound (reads f : M σ α) Any := Sound.reads fun _ _ => trivial

lemma sound_wrA {v : Unsigned} (h : Byte v) : Sound (wrA v : M σ Unit) Any :=
  Sound.modify fun _ hs => { hs with A := h }
lemma sound_wrB {v : Unsigned} (h : Byte v) : Sound (wrB v : M σ Unit) Any :=
  Sound.modify fun _ hs => { hs with B := h }
lemma sound_wrX {v : Unsigned} (h : Word v) : Sound (wrX v : M σ Unit) Any :=
  Sound.modify fun _ hs => { hs with X := h }
lemma sound_wrY {v : Unsigned} (h : Word v) : Sound (wrY v : M σ Unit) Any :=
  Sound.modify fun _ hs => { hs with Y := h }
lemma sound_wrU {v : Unsigned} (h : Word v) : Sound (wrU v : M σ Unit) Any :=
  Sound.modify fun _ hs => { hs with U := h }
lemma sound_wrS {v : Unsigned} (h : Word v) : Sound (wrS v : M σ Unit) Any :=
  Sound.modify fun _ hs => { hs with S := h }

lemma shiftLeft_page {v : Unsigned} (h : Byte v) :
    (v <<< 8).toNat % 256 = 0 ∧ (v <<< 8).toNat ≤ 0xff00 := by
  have hv : v.toNat < 2 ^ 8 := h
  rw [BitVec.toNat_shiftLeft, Nat.shiftLeft_eq]
  omega

lemma sound_wrDP {v : Unsigned} (h : Byte v) : Sound (wrDP v : M σ Unit) Any :=
  Sound.modify fun _ hs => { hs with DP := shiftLeft_page h }

lemma and_not_efi_mask (v : Unsigned) : (v &&& EFI_MASK) &&& ~~~EFI_MASK = 0 := by
  rw [BitVec.and_assoc, show EFI_MASK &&& ~~~EFI_MASK = 0#32 by decide]
  exact BitVec.and_zero

lemma Widths.setCc {s : Cpu σ} (hs : Widths s) (v : Unsigned) : Widths (s.setCc v) :=
  { hs with EFI := and_not_efi_mask v }

lemma sound_setCc (v : Unsigned) : Sound (setCc v : M σ Unit) Any :=
  Sound.modify fun _ hs => hs.setCc v

/-- Setting bits among `E`, `F`, `I`. -/
lemma sound_raise {m : Unsigned} (hm : m &&& ~~~EFI_MASK = 0) :
    Sound (modify fun s => { s with EFI := s.EFI ||| m } : M σ Unit) Any := by
  refine Sound.modify fun s hs => { hs with EFI := ?_ }
  change (s.EFI ||| m) &&& ~~~EFI_MASK = 0
  rw [BitVec.and_or_distrib_right, hs.EFI, hm]
  rfl

lemma sound_clearE :
    Sound (modify fun s => { s with EFI := s.EFI &&& ~~~E_FLAG } : M σ Unit) Any := by
  refine Sound.modify fun s hs => { hs with EFI := ?_ }
  change (s.EFI &&& ~~~E_FLAG) &&& ~~~EFI_MASK = 0
  rw [BitVec.and_assoc, BitVec.and_comm (~~~E_FLAG), ← BitVec.and_assoc, hs.EFI]
  exact BitVec.zero_and

lemma word_and (v : Unsigned) : Word (v &&& 0xffff) := Words.and_low_lt 16 (by decide)

lemma byte_and (v : Unsigned) : Byte (v &&& 0xff) := Words.and_low_lt 8 (by decide)

lemma byte_shiftRight {v : Unsigned} (h : Word v) : Byte (v >>> 8) := Words.shiftRight_lt h

/-- Two bytes make a word. -/
lemma word_pair {hi lo : Unsigned} (hh : Byte hi) (hl : Byte lo) : Word ((hi <<< 8) ||| lo) :=
  Words.or_lt (Words.shiftLeft_lt (k := 8) hh) hl.word

lemma sound_rdD : Sound (rdD : M σ Unsigned) Word := Sound.reads fun _ hs => word_pair hs.A hs.B

lemma IndexReg.sound_get (R : IndexReg) : Sound (R.get : M σ Unsigned) Word := by
  cases R with
  | X => exact sound_rdX
  | Y => exact sound_rdY
  | U => exact sound_rdU
  | S => exact sound_rdS

lemma IndexReg.sound_put (R : IndexReg) {v : Unsigned} (h : Word v) :
    Sound (R.put v : M σ Unit) Any := by
  cases R with
  | X => exact sound_wrX h
  | Y => exact sound_wrY h
  | U => exact sound_wrU h
  | S => exact sound_wrS h

lemma Acc.sound_get (r : Acc) : Sound (r.get : M σ Unsigned) Byte := by
  cases r with
  | A => exact sound_rdA
  | B => exact sound_rdB

lemma Acc.sound_put (r : Acc) {v : Unsigned} (h : Byte v) : Sound (r.put v : M σ Unit) Any := by
  cases r with
  | A => exact sound_wrA h
  | B => exact sound_wrB h

/-! ## Helpers -/

lemma Unary.byte_fn (op : Unary) {arg : Unsigned} (h : Byte arg) (f : Flags) :
    Byte (op.fn arg f).1 := by
  cases op with
  | com => exact Words.xor_lt h (by decide)
  | lsr => exact Words.shiftRight_lt (Nat.lt_trans h (by decide))
  | ror =>
      refine Words.shiftRight_lt (n := 1) ?_
      change (if f.C ≠ 0 then arg ||| 0x100 else arg).toNat < 2 ^ 9
      split
      · exact Words.or_lt (Nat.lt_trans h (by decide)) (by decide)
      · exact Nat.lt_trans h (by decide)
  | clr => exact (by decide : (0 : Unsigned).toNat < 2 ^ 8)
  | neg | asr | asl | rol | dec | inc => exact byte_and _

lemma Bin8.byte_fn (op : Bin8) {arg val : Unsigned} (h : Byte arg) (h' : Byte val) (f : Flags) :
    Byte (op.fn arg val f).1 := by
  cases op with
  | and => exact Words.and_lt h
  | eor => exact Words.xor_lt h h'
  | or => exact Words.or_lt h h'
  | sub | sbc | adc | add => exact byte_and _

lemma sound_unary (op : Unary) {arg : Unsigned} (h : Byte arg) :
    Sound (unary op.fn arg : M σ Unsigned) Byte :=
  (sound_alu (op.byte_fn h)).bind fun _ hv => (sound_tick 2).bind fun _ _ => Sound.pure hv

lemma sound_tst (arg : Unsigned) : Sound (tst arg : M σ Unit) Any :=
  (sound_alu (Q := Any) fun _ => trivial).bind fun _ _ => sound_tick 2

lemma sound_wrAB {res : Unsigned} (h : Word res) : Sound (wrAB res : M σ Unit) Any :=
  (sound_wrA (byte_shiftRight h)).bind fun _ _ => sound_wrB (byte_and _)

lemma Bin16.sound_run (op : Bin16) (val : Unsigned) : Sound (op.run val : M σ Unit) Any := by
  cases op with
  | addd =>
      exact sound_rdD.bind fun _ _ => (sound_alu (Q := Word) fun _ => word_and _).bind
        fun _ h => sound_wrAB h
  | subd =>
      exact sound_rdD.bind fun _ _ => (sound_alu (Q := Word) fun _ => word_and _).bind
        fun _ h => sound_wrAB h

lemma sound_ldd {arg : Unsigned} (h : Word arg) : Sound (ldd arg : M σ Unit) Any :=
  (sound_alu (Q := Word) fun _ => h).bind fun _ h => sound_wrAB h

/-! ## Exchanges and transfers -/

/-- The 16-bit registers of `TFR` and `EXG`. -/
def Reg.wide : Reg → Bool
  | .D | .X | .Y | .U | .S | .PC => true
  | .A | .B | .CC | .DP => false

lemma wide_regOfNumber {nro : Unsigned} {r : Reg} (h : regOfNumber nro = some r) :
    r.wide = decide (nro.toNat < 8) := by
  unfold regOfNumber at h
  split at h <;> first
    | (cases h; simp_all [Reg.wide])
    | cases h

lemma Widths.getReg {s : Cpu σ} (hs : Widths s) (nro : Unsigned) :
    Word (s.getReg nro) ∧ (8 ≤ nro.toNat → Byte (s.getReg nro)) := by
  unfold Cpu.getReg
  rcases hr : regOfNumber nro with _ | r
  · exact ⟨(by decide : (0xff : Unsigned).toNat < 2 ^ 16),
      fun _ => (by decide : (0xff : Unsigned).toNat < 2 ^ 8)⟩
  · have hw := wide_regOfNumber hr
    have narrow (h : r.wide = true) (h8 : 8 ≤ nro.toNat) : False := by
      rw [h] at hw
      have := of_decide_eq_true hw.symm
      omega
    cases r with
    | D => exact ⟨word_pair hs.A hs.B, fun h8 => (narrow rfl h8).elim⟩
    | X => exact ⟨hs.X, fun h8 => (narrow rfl h8).elim⟩
    | Y => exact ⟨hs.Y, fun h8 => (narrow rfl h8).elim⟩
    | U => exact ⟨hs.U, fun h8 => (narrow rfl h8).elim⟩
    | S => exact ⟨hs.S, fun h8 => (narrow rfl h8).elim⟩
    | PC => exact ⟨word_and _, fun h8 => (narrow rfl h8).elim⟩
    | A => exact ⟨Byte.word hs.A, fun _ => hs.A⟩
    | B => exact ⟨Byte.word hs.B, fun _ => hs.B⟩
    | CC => exact ⟨Byte.word s.getCc_lt, fun _ => s.getCc_lt⟩
    | DP =>
        have h : Byte (s.DP >>> 8) := Words.shiftRight_lt (Nat.lt_of_le_of_lt hs.DP.2 (by decide))
        exact ⟨h.word, fun _ => h⟩

lemma Widths.setReg {s : Cpu σ} (hs : Widths s) {nro val : Unsigned} (hv : Word val)
    (hb : 8 ≤ nro.toNat → Byte val) : Widths (s.setReg nro val) := by
  unfold Cpu.setReg
  rcases hr : regOfNumber nro with _ | r
  · exact hs
  · have hw := wide_regOfNumber hr
    have byte (h : r.wide = false) : Byte val := by
      rw [h] at hw
      have := of_decide_eq_false hw.symm
      exact hb (by omega)
    cases r with
    | D => exact { hs with A := byte_shiftRight hv, B := byte_and val }
    | X => exact { hs with X := hv }
    | Y => exact { hs with Y := hv }
    | U => exact { hs with U := hv }
    | S => exact { hs with S := hv }
    | PC => exact { hs with A := hs.A }
    | A => exact { hs with A := byte rfl }
    | B => exact { hs with B := byte rfl }
    | CC => exact hs.setCc val
    | DP => exact { hs with DP := shiftLeft_page (byte rfl) }

/-- Registers of the same size: both numbers are below 8, or neither. -/
lemma sameSize_iff {post : Unsigned} (hp : Byte post) (h : sameSize post) :
    8 ≤ (post >>> 4).toNat ↔ 8 ≤ (post &&& 15).toNat := by
  have key : ∀ b : BitVec 8, sameSize (b.setWidth 32) →
      (8 ≤ ((b.setWidth 32 : Unsigned) >>> 4).toNat ↔
        8 ≤ ((b.setWidth 32 : Unsigned) &&& 15).toNat) := by decide
  have hb : post = (post.setWidth 8).setWidth 32 := by
    apply BitVec.eq_of_toNat_eq
    have : post.toNat < 2 ^ 8 := hp
    simp only [BitVec.toNat_setWidth]
    omega
  rw [hb] at h ⊢
  exact key _ h

lemma Widths.tfrValue {s : Cpu σ} (hs : Widths s) {post a b : Unsigned}
    (hab : sameSize post → (8 ≤ a.toNat ↔ 8 ≤ b.toNat)) :
    Word (if sameSize post then s.getReg a else 0xff) ∧
      (8 ≤ b.toNat → Byte (if sameSize post then s.getReg a else 0xff)) := by
  split
  · exact ⟨(hs.getReg a).1, fun h => (hs.getReg a).2 ((hab ‹_›).mpr h)⟩
  · exact ⟨(by decide : (0xff : Unsigned).toNat < 2 ^ 16),
      fun _ => (by decide : (0xff : Unsigned).toNat < 2 ^ 8)⟩

lemma Widths.tfr {s : Cpu σ} (hs : Widths s) {post : Unsigned} (hp : Byte post) :
    Widths (s.tfr post) := by
  obtain ⟨hw, hb⟩ := hs.tfrValue (a := post >>> 4) (b := post &&& 15) (sameSize_iff hp)
  exact hs.setReg hw hb

lemma Widths.exg {s : Cpu σ} (hs : Widths s) {post : Unsigned} (hp : Byte post) :
    Widths (s.exg post) := by
  obtain ⟨hw, hb⟩ := hs.tfrValue (a := post >>> 4) (b := post &&& 15) (sameSize_iff hp)
  obtain ⟨hw', hb'⟩ := hs.tfrValue (a := post &&& 15) (b := post >>> 4)
    fun h => (sameSize_iff hp h).symm
  exact (hs.setReg hw hb).setReg hw' hb'

/-! ## Bus accesses -/

variable [Machine σ]

lemma sound_simError : Sound (simError : M σ Unit) Any :=
  Sound.bind (Sound.keep fun _ => rfl) fun _ _ => Sound.ite (Sound.keep fun _ => rfl) (Sound.throw _)

lemma sound_signal (x : Signal) : Sound (signal x : M σ Unit) Any := by
  cases x with
  | simError => exact sound_simError
  | monitor on => exact Sound.keep fun _ => rfl
  | exit code => exact Sound.throw _

lemma sound_access (call : View → σ → Reply σ β) : Sound (access call : M σ β) Any := by
  refine Sound.bind (Q := Any) (Triple.modifyGet fun s hs => ⟨trivial, ?_⟩) fun r _ =>
    (Sound.forM sound_signal).bind fun _ _ => Sound.pure trivial
  exact { hs with A := hs.A }

lemma sound_rdmem (addr : Unsigned) : Sound (rdmem addr : M σ Unsigned) Byte :=
  (sound_access _).bind fun v _ => Sound.pure (Words.setWidth_lt v)

lemma sound_read16 (addr : Unsigned) : Sound (read16 addr : M σ Unsigned) Word :=
  (sound_access _).bind fun v _ => Sound.pure (Words.setWidth_lt v)

lemma sound_readStack16 (addr : Unsigned) : Sound (readStack16 addr : M σ Unsigned) Word :=
  (sound_rdmem _).bind fun _ hi => (sound_rdmem _).bind fun _ lo => Sound.pure (word_pair hi lo)

lemma sound_rdmem16 (addr : Unsigned) : Sound (rdmem16 addr : M σ Unsigned) Word :=
  (sound_rdmem _).bind fun _ hi => (sound_tick 1).bind fun _ _ => (sound_rdmem _).bind fun _ lo =>
    Sound.pure (word_pair hi lo)

lemma sound_immByte : Sound (immByte : M σ Unsigned) Byte :=
  (sound_reads _).bind fun _ _ => (sound_rdmem _).bind fun _ h => (sound_skip 1).bind fun _ _ =>
    Sound.pure h

lemma sound_immWord : Sound (immWord : M σ Unsigned) Word :=
  (sound_reads _).bind fun _ _ => (sound_read16 _).bind fun _ h => (sound_skip 2).bind fun _ _ =>
    Sound.pure h

section With

variable {write : Unsigned → Unsigned → M σ Unit} (hw : ∀ a d, Sound (write a d) Any)
include hw

omit [Machine σ] in
lemma sound_pushS16With (data : Unsigned) : Sound (pushS16With write data) Any :=
  Sound.bind (Sound.modify fun _ hs => { hs with S := word_and _ }) fun _ _ =>
    (sound_reads _).bind fun _ _ => (hw _ _).bind fun _ _ => hw _ _

omit [Machine σ] in
lemma sound_pushS8With (data : Unsigned) : Sound (pushS8With write data) Any :=
  Sound.bind (Sound.modify fun _ hs => { hs with S := word_and _ }) fun _ _ =>
    (sound_reads _).bind fun _ _ => hw _ _

omit [Machine σ] in
lemma sound_pushAllWith : Sound (pushAllWith write) Any :=
  (sound_reads _).bind fun _ _ => (sound_pushS16With hw _).bind fun _ _ =>
  (sound_reads _).bind fun _ _ => (sound_pushS16With hw _).bind fun _ _ =>
  (sound_reads _).bind fun _ _ => (sound_pushS16With hw _).bind fun _ _ =>
  (sound_reads _).bind fun _ _ => (sound_pushS16With hw _).bind fun _ _ =>
  (sound_reads _).bind fun _ _ => (sound_pushS8With hw _).bind fun _ _ =>
  (sound_reads _).bind fun _ _ => (sound_pushS8With hw _).bind fun _ _ =>
  (sound_reads _).bind fun _ _ => (sound_pushS8With hw _).bind fun _ _ =>
  (sound_reads _).bind fun _ _ => sound_pushS8With hw _

lemma sound_irqWith : Sound (irqWith write) Any :=
  Sound.bind (Sound.keep fun _ => rfl) fun _ _ =>
  (sound_raise (by decide)).bind fun _ _ => (sound_pushAllWith hw).bind fun _ _ =>
  (sound_raise (by decide)).bind fun _ _ => (sound_read16 _).bind fun _ _ =>
  (sound_wrPC _).bind fun _ _ => Sound.keep fun _ => rfl

lemma sound_firqWith : Sound (firqWith write) Any :=
  Sound.bind (Sound.keep fun _ => rfl) fun _ _ => sound_clearE.bind fun _ _ =>
    (sound_reads _).bind fun _ _ => (sound_pushS16With hw _).bind fun _ _ =>
    (sound_reads _).bind fun _ _ => (sound_pushS8With hw _).bind fun _ _ =>
    (sound_raise (by decide)).bind fun _ _ => (sound_read16 _).bind fun _ _ =>
    (sound_wrPC _).bind fun _ _ => Sound.keep fun _ => rfl

lemma sound_requestIrqWith (source : Unsigned) : Sound (requestIrqWith write source) Any :=
  Sound.bind (Sound.keep fun _ => rfl) fun _ _ => (sound_reads _).bind fun _ _ =>
    (sound_irqWith hw).whenever.bind fun _ _ => Sound.keep fun _ => rfl

lemma sound_requestFirqWith (source : Unsigned) : Sound (requestFirqWith write source) Any :=
  Sound.bind (Sound.keep fun _ => rfl) fun _ _ => (sound_reads _).bind fun _ _ =>
    (sound_firqWith hw).whenever.bind fun _ _ => Sound.keep fun _ => rfl

omit [Machine σ] hw in
lemma sound_releaseIrq (source : Unsigned) : Sound (releaseIrq source : M σ Unit) Any :=
  Sound.bind (Sound.keep fun _ => rfl) fun _ _ => Sound.keep fun _ => rfl

omit [Machine σ] hw in
lemma sound_releaseFirq (source : Unsigned) : Sound (releaseFirq source : M σ Unit) Any :=
  Sound.bind (Sound.keep fun _ => rfl) fun _ _ => Sound.keep fun _ => rfl

lemma sound_effectWith (x : Effect) : Sound (effectWith write x) Any := by
  cases x with
  | signal e => exact sound_signal e
  | requestIrq source => exact sound_requestIrqWith hw source
  | releaseIrq source => exact sound_releaseIrq source
  | requestFirq source => exact sound_requestFirqWith hw source
  | releaseFirq source => exact sound_releaseFirq source

end With

lemma sound_writeN (n : Nat) : ∀ a d, Sound (writeN n a d : M σ Unit) Any := by
  induction n with
  | zero => exact fun _ _ => Sound.throw _
  | succ n ih =>
      intro a d
      refine Sound.bind (Q := Any) (Triple.modifyGet fun s hs => ⟨trivial, ?_⟩) fun r _ =>
        Sound.forM (sound_effectWith ih)
      exact { hs with A := hs.A }

lemma sound_wrmem (a d : Unsigned) : Sound (wrmem a d : M σ Unit) Any := sound_writeN _ a d

lemma sound_wrmem16 (addr data : Unsigned) : Sound (wrmem16 addr data : M σ Unit) Any :=
  (sound_wrmem _ _).bind fun _ _ => (sound_tick 1).bind fun _ _ => sound_wrmem _ _

lemma sound_pushS16 (data : Unsigned) : Sound (pushS16 data : M σ Unit) Any :=
  sound_pushS16With sound_wrmem data

lemma sound_pushS8 (data : Unsigned) : Sound (pushS8 data : M σ Unit) Any :=
  sound_pushS8With sound_wrmem data

lemma sound_irq : Sound (irq : M σ Unit) Any := sound_irqWith sound_wrmem

lemma sound_firq : Sound (firq : M σ Unit) Any := sound_firqWith sound_wrmem

lemma sound_ccCheck : Sound (ccCheck : M σ Unit) Any := by
  have poll : Sound (pollLines : M σ Unit) Any :=
    (sound_reads _).bind fun _ _ => Sound.ite sound_firq <| (sound_reads _).bind fun _ _ =>
      Sound.ite sound_irq (Sound.pure trivial)
  exact (sound_reads _).bind fun _ _ =>
    Sound.whenever (Sound.bind poll fun _ _ => Sound.keep fun _ => rfl)

/-! ## Addressing modes -/

lemma sound_rdmemEa : Sound (rdmemEa : M σ Unsigned) Byte :=
  (sound_reads _).bind fun _ _ => sound_rdmem _

lemma sound_rdmem16Ea : Sound (rdmem16Ea : M σ Unsigned) Word :=
  (sound_reads _).bind fun _ _ => sound_rdmem16 _

lemma sound_wrmemEa (data : Unsigned) : Sound (wrmemEa data : M σ Unit) Any :=
  (sound_reads _).bind fun _ _ => sound_wrmem _ _

lemma sound_direct : Sound (direct : M σ Unit) Any :=
  (sound_reads _).bind fun _ _ => (sound_rdmem _).bind fun _ _ => Sound.keep fun _ => rfl

lemma sound_extended : Sound (extended : M σ Unit) Any :=
  sound_immWord.bind fun _ _ => sound_wrEa _

/-- The widths together with a 16-bit address, as after `indexed`. -/
def Aiming (s : Cpu σ) : Prop := Word s.ea ∧ Widths s

/-- `m` computes a 16-bit address. -/
def Reaches (m : M σ Unit) : Prop := Triple Widths m fun _ => Aiming

omit [Machine σ] in
lemma Reaches.sound {m : M σ Unit} (h : Reaches m) : Sound m Any :=
  Triple.conseq h (fun _ hs => hs) fun _ _ hs => ⟨trivial, hs.2⟩

omit [Machine σ] in
lemma Reaches.after {m : M σ α} {f : α → M σ Unit} {Q : α → Prop} (hm : Sound m Q)
    (hf : ∀ a, Q a → Reaches (f a)) : Reaches (m >>= f) := by
  refine Triple.bind hm fun a s h => ?_
  exact hf a h.1 s h.2

omit [Machine σ] in
/-- A program that leaves the address alone comes after. -/
lemma Reaches.bind {m : M σ Unit} {f : Unit → M σ Unit} (hm : Reaches m)
    (hs : ∀ a, Sound (f a) Any) (hk : ∀ a, Keeps Cpu.ea (f a)) : Reaches (m >>= f) := by
  refine Triple.bind hm fun a s h b t ht => ⟨?_, (hs a s h.2 b t ht).2⟩
  have he : t.ea = s.ea := hk a s b t ht
  exact he ▸ h.1

omit [Machine σ] in
lemma reaches_wrEa {v : Unsigned} (h : Word v) : Reaches (wrEa v : M σ Unit) :=
  Triple.modify fun _ hs => ⟨h, { hs with A := hs.A }⟩

omit [Machine σ] in
lemma keepsEa_tick (n : Int) : Keeps Cpu.ea (tick n : M σ Unit) := Steps.modify fun _ => rfl

lemma keepsEa_simError : Keeps Cpu.ea (simError : M σ Unit) :=
  Steps.bind (Steps.modify fun _ => rfl) fun _ => Steps.ite (Steps.modify fun _ => rfl) (Steps.throw _)

lemma reaches_indirect : Reaches (indirect : M σ Unit) :=
  Reaches.after sound_rdmem16Ea fun _ h =>
    (reaches_wrEa h).bind (fun _ => sound_tick 2) fun _ => keepsEa_tick 2

lemma IndexMode.reaches_addr (R : IndexReg) (m : IndexMode) : Reaches (m.addr R : M σ Unit) := by
  cases m with
  | inc n =>
      refine Reaches.after R.sound_get fun _ h => (reaches_wrEa h).bind (fun _ => ?_) fun _ => ?_
      · exact R.sound_get.bind fun _ _ => R.sound_put (word_and _)
      · cases R <;> exact (Steps.reads _).bind fun _ => Steps.modify fun _ => rfl
  | dec n =>
      exact Reaches.after R.sound_get fun _ _ => Reaches.after (R.sound_put (word_and _)) fun _ _ =>
        Reaches.after R.sound_get fun _ h => reaches_wrEa h
  | zero => exact Reaches.after R.sound_get fun _ h => reaches_wrEa h
  | accB =>
      exact Reaches.after R.sound_get fun _ _ => Reaches.after sound_rdB fun _ _ =>
        reaches_wrEa (word_and _)
  | accA =>
      exact Reaches.after R.sound_get fun _ _ => Reaches.after sound_rdA fun _ _ =>
        reaches_wrEa (word_and _)
  | off8 =>
      exact Reaches.after R.sound_get fun _ _ => Reaches.after sound_immByte fun _ _ =>
        reaches_wrEa (word_and _)
  | off16 =>
      exact Reaches.after R.sound_get fun _ _ => Reaches.after sound_immWord fun _ _ =>
        reaches_wrEa (word_and _)
  | accD =>
      exact Reaches.after R.sound_get fun _ _ => Reaches.after sound_rdD fun _ _ =>
        reaches_wrEa (word_and _)
  | pc8 =>
      exact Reaches.after sound_immByte fun _ _ => Reaches.after (sound_wrEa _) fun _ _ =>
        Reaches.after (sound_reads _) fun _ _ => Reaches.after (sound_reads _) fun _ _ =>
        reaches_wrEa (word_and _)
  | pc16 =>
      exact Reaches.after sound_immWord fun _ _ => Reaches.after (sound_wrEa _) fun _ _ =>
        Reaches.after (sound_reads _) fun _ _ => Reaches.after (sound_reads _) fun _ _ =>
        reaches_wrEa (word_and _)
  | ext => exact Reaches.after sound_immWord fun _ h => reaches_wrEa h

lemma Index.reaches_exec (i : Index) (R : IndexReg) : Reaches (i.exec R : M σ Unit) := by
  unfold Index.exec
  cases i.indirect with
  | false =>
      exact (i.mode.reaches_addr R).bind
        (fun _ => (sound_tick _).bind fun _ _ => Sound.pure trivial)
        fun _ => (keepsEa_tick _).bind fun _ => Steps.pure _
  | true =>
      exact Reaches.after (i.mode.reaches_addr R).sound fun _ _ =>
        Reaches.after (sound_tick _) fun _ _ => reaches_indirect

lemma reaches_indexed : Reaches (indexed : M σ Unit) := by
  refine Reaches.after sound_immByte fun post _ => ?_
  rw [indexedPost_eq]
  cases decodePost post with
  | offset R n =>
      exact Reaches.after R.sound_get fun _ _ => (reaches_wrEa (word_and _)).bind
        (fun _ => sound_tick 5) fun _ => keepsEa_tick 5
  | mode R i => exact i.reaches_exec R
  | illegal =>
      exact (reaches_wrEa (by decide : (0 : Unsigned).toNat < 2 ^ 16)).bind
        (fun _ => sound_simError) fun _ => keepsEa_simError

lemma sound_indexed : Sound (indexed : M σ Unit) Any := reaches_indexed.sound

/-! ## Stack instructions and calls -/

lemma sound_pushU16 (data : Unsigned) : Sound (pushU16 data : M σ Unit) Any :=
  Sound.bind (Sound.modify fun _ hs => { hs with U := word_and _ }) fun _ _ =>
    (sound_reads _).bind fun _ _ => (sound_wrmem _ _).bind fun _ _ => sound_wrmem _ _

lemma sound_pushU8 (data : Unsigned) : Sound (pushU8 data : M σ Unit) Any :=
  Sound.bind (Sound.modify fun _ hs => { hs with U := word_and _ }) fun _ _ =>
    (sound_reads _).bind fun _ _ => sound_wrmem _ _

lemma sound_pullS8 : Sound (pullS8 : M σ Unsigned) Byte :=
  (sound_reads _).bind fun _ _ => (sound_rdmem _).bind fun _ h =>
    Sound.bind (Sound.modify fun _ hs => { hs with S := word_and _ }) fun _ _ => Sound.pure h

lemma sound_pullS16 : Sound (pullS16 : M σ Unsigned) Word :=
  (sound_reads _).bind fun _ _ => (sound_readStack16 _).bind fun _ h =>
    Sound.bind (Sound.modify fun _ hs => { hs with S := word_and _ }) fun _ _ => Sound.pure h

lemma sound_pullU8 : Sound (pullU8 : M σ Unsigned) Byte :=
  (sound_reads _).bind fun _ _ => (sound_rdmem _).bind fun _ h =>
    Sound.bind (Sound.modify fun _ hs => { hs with U := word_and _ }) fun _ _ => Sound.pure h

lemma sound_pullU16 : Sound (pullU16 : M σ Unsigned) Word :=
  (sound_reads _).bind fun _ _ => (sound_readStack16 _).bind fun _ h =>
    Sound.bind (Sound.modify fun _ hs => { hs with U := word_and _ }) fun _ _ => Sound.pure h

omit [Machine σ] in
/-- One register of a push or pull mask. -/
lemma sound_masked {c : Prop} [Decidable c] {n : Int} {m : M σ Unit} (hm : Sound m Any) :
    Sound (whenever c do tick n; m) Any :=
  ((sound_tick n).bind fun _ _ => hm).whenever

lemma sound_pshsPost (post : Unsigned) : Sound (pshsPost post : M σ Unit) Any :=
  have r16 (f : Cpu σ → Unsigned) (g : Unsigned → Unsigned) :
      Sound (reads f >>= fun v => pushS16 (g v) : M σ Unit) Any :=
    (sound_reads f).bind fun _ _ => sound_pushS16 _
  have r8 (f : Cpu σ → Unsigned) (g : Unsigned → Unsigned) :
      Sound (reads f >>= fun v => pushS8 (g v) : M σ Unit) Any :=
    (sound_reads f).bind fun _ _ => sound_pushS8 _
  (sound_tick 5).bind fun _ _ =>
  (sound_masked (r16 _ (· &&& 0xffff))).bind fun _ _ =>
  (sound_masked (r16 _ id)).bind fun _ _ =>
  (sound_masked (r16 _ id)).bind fun _ _ =>
  (sound_masked (r16 _ id)).bind fun _ _ =>
  (sound_masked (r8 _ (· >>> 8))).bind fun _ _ =>
  (sound_masked (r8 _ id)).bind fun _ _ =>
  (sound_masked (r8 _ id)).bind fun _ _ =>
  sound_masked (r8 _ id)

lemma sound_pshuPost (post : Unsigned) : Sound (pshuPost post : M σ Unit) Any :=
  have r16 (f : Cpu σ → Unsigned) (g : Unsigned → Unsigned) :
      Sound (reads f >>= fun v => pushU16 (g v) : M σ Unit) Any :=
    (sound_reads f).bind fun _ _ => sound_pushU16 _
  have r8 (f : Cpu σ → Unsigned) (g : Unsigned → Unsigned) :
      Sound (reads f >>= fun v => pushU8 (g v) : M σ Unit) Any :=
    (sound_reads f).bind fun _ _ => sound_pushU8 _
  (sound_tick 5).bind fun _ _ =>
  (sound_masked (r16 _ (· &&& 0xffff))).bind fun _ _ =>
  (sound_masked (r16 _ id)).bind fun _ _ =>
  (sound_masked (r16 _ id)).bind fun _ _ =>
  (sound_masked (r16 _ id)).bind fun _ _ =>
  (sound_masked (r8 _ (· >>> 8))).bind fun _ _ =>
  (sound_masked (r8 _ id)).bind fun _ _ =>
  (sound_masked (r8 _ id)).bind fun _ _ =>
  sound_masked (r8 _ id)

lemma sound_pulsPost (post : Unsigned) : Sound (pulsPost post : M σ Unit) Any :=
  (sound_tick 5).bind fun _ _ =>
  (sound_masked (sound_pullS8.bind fun _ _ => sound_setCc _)).bind fun _ _ =>
  (sound_masked (sound_pullS8.bind fun _ h => sound_wrA h)).bind fun _ _ =>
  (sound_masked (sound_pullS8.bind fun _ h => sound_wrB h)).bind fun _ _ =>
  (sound_masked (sound_pullS8.bind fun _ h => sound_wrDP h)).bind fun _ _ =>
  (sound_masked (sound_pullS16.bind fun _ h => sound_wrX h)).bind fun _ _ =>
  (sound_masked (sound_pullS16.bind fun _ h => sound_wrY h)).bind fun _ _ =>
  (sound_masked (sound_pullS16.bind fun _ h => sound_wrU h)).bind fun _ _ =>
  sound_masked (sound_pullS16.bind fun _ _ => sound_wrPC _)

lemma sound_puluPost (post : Unsigned) : Sound (puluPost post : M σ Unit) Any :=
  (sound_tick 5).bind fun _ _ =>
  (sound_masked (sound_pullU8.bind fun _ _ => sound_setCc _)).bind fun _ _ =>
  (sound_masked (sound_pullU8.bind fun _ h => sound_wrA h)).bind fun _ _ =>
  (sound_masked (sound_pullU8.bind fun _ h => sound_wrB h)).bind fun _ _ =>
  (sound_masked (sound_pullU8.bind fun _ h => sound_wrDP h)).bind fun _ _ =>
  (sound_masked (sound_pullU16.bind fun _ h => sound_wrX h)).bind fun _ _ =>
  (sound_masked (sound_pullU16.bind fun _ h => sound_wrY h)).bind fun _ _ =>
  (sound_masked (sound_pullU16.bind fun _ h => sound_wrS h)).bind fun _ _ =>
  sound_masked (sound_pullU16.bind fun _ _ => sound_wrPC _)

lemma sound_rti : Sound (rti : M σ Unit) Any := by
  have context : Sound (rtiContext : M σ Unit) Any :=
    (sound_tick 9).bind fun _ _ =>
    sound_pullS8.bind fun _ h => (sound_wrA h).bind fun _ _ =>
    sound_pullS8.bind fun _ h => (sound_wrB h).bind fun _ _ =>
    sound_pullS8.bind fun _ h => (sound_wrDP h).bind fun _ _ =>
    sound_pullS16.bind fun _ h => (sound_wrX h).bind fun _ _ =>
    sound_pullS16.bind fun _ h => (sound_wrY h).bind fun _ _ =>
    sound_pullS16.bind fun _ h => sound_wrU h
  exact (sound_tick 6).bind fun _ _ => sound_pullS8.bind fun _ _ => (sound_setCc _).bind fun _ _ =>
    (sound_reads _).bind fun _ _ => context.whenever.bind fun _ _ =>
    sound_pullS16.bind fun _ _ => sound_wrPC _

lemma sound_swiWith (clk : Int) {masks : Unsigned} (vector : Unsigned)
    (hm : masks &&& ~~~EFI_MASK = 0) : Sound (swiWith clk masks vector : M σ Unit) Any :=
  (sound_tick clk).bind fun _ _ => (sound_raise (by decide)).bind fun _ _ =>
  (sound_pushAllWith sound_wrmem).bind fun _ _ => (sound_raise hm).bind fun _ _ =>
  (sound_read16 _).bind fun _ _ => sound_wrPC _

lemma sound_call {m : M σ Unsigned} {f : Unsigned → Unsigned → Unsigned} {clk : Int}
    {Q : Unsigned → Prop} (hm : Sound m Q) :
    Sound (do
      let tmp ← m
      wrEa (f (← reads Cpu.PC) tmp)
      pushS16 ((← reads Cpu.PC) &&& 0xffff)
      tick clk
      wrPC (← rdEa) : M σ Unit) Any :=
  hm.bind fun _ _ => (sound_reads _).bind fun _ _ => (sound_wrEa _).bind fun _ _ =>
  (sound_reads _).bind fun _ _ => (sound_pushS16 _).bind fun _ _ => (sound_tick _).bind fun _ _ =>
  (sound_reads _).bind fun _ _ => sound_wrPC _

lemma sound_bra : Sound (bra : M σ Unit) Any := sound_immByte.bind fun _ _ => sound_skip _

lemma sound_longBra : Sound (longBra : M σ Unit) Any := sound_immWord.bind fun _ _ => sound_skip _

/-! ## Instructions -/

lemma Ea.sound_andThen (ea : Ea) {k : M σ Unit} (hk : Sound k Any) : Sound (ea.andThen k) Any := by
  cases ea with
  | direct clk => exact sound_direct.bind fun _ _ => (sound_tick clk).bind fun _ _ => hk
  | extended clk => exact sound_extended.bind fun _ _ => (sound_tick clk).bind fun _ _ => hk
  | indexed => exact sound_indexed.bind fun _ _ => hk
  | tickIndexed clk => exact (sound_tick clk).bind fun _ _ => sound_indexed.bind fun _ _ => hk
  | indexedTick clk => exact sound_indexed.bind fun _ _ => (sound_tick clk).bind fun _ _ => hk

lemma Src8.sound_andThen (src : Src8) {k : M σ Unsigned → M σ Unit}
    (hk : ∀ v : M σ Unsigned, Sound v Byte → Sound (k v) Any) : Sound (src.andThen k) Any := by
  cases src with
  | imm => exact (sound_tick 2).bind fun _ _ => hk _ sound_immByte
  | mem ea => exact ea.sound_andThen (hk _ sound_rdmemEa)

lemma Src16.sound_andThen (src : Src16) {k : M σ Unsigned → M σ Unit}
    (hk : ∀ v : M σ Unsigned, Sound v Word → Sound (k v) Any) : Sound (src.andThen k) Any := by
  cases src with
  | imm clk => exact (sound_tick clk).bind fun _ _ => hk _ sound_immWord
  | mem ea => exact ea.sound_andThen (hk _ sound_rdmem16Ea)

omit [Machine σ] in
/-- A helper whose result is not looked at. -/
lemma sound_flags (g : Flags → α × Flags) : Sound (alu g : M σ α) Any :=
  sound_alu fun _ => trivial

lemma sound_st16 (arg : Unsigned) : Sound (st16 arg : M σ Unit) Any :=
  (sound_flags _).bind fun _ _ => (sound_reads _).bind fun _ _ => sound_wrmem16 _ _

/-- `LEA` needs the bound on the address. -/
lemma sound_lea (r : IndexReg) {k : M σ Unit} (hk : Sound k Any) :
    Sound (do indexed; r.put (← rdEa); k : M σ Unit) Any := by
  refine Triple.bind reaches_indexed fun _ => ?_
  refine Triple.bind (Q := fun v s => Word v ∧ Widths s) (Triple.reads fun s h => h) fun v s h => ?_
  exact ((r.sound_put h.1).bind fun _ _ => hk) s h.2

/-- **Every instruction keeps the register widths.** -/
lemma Insn.sound_exec (i : Insn) : Sound (i.exec : M σ Unit) Any := by
  cases i with
  | unaryMem op ea =>
      exact ea.sound_andThen (sound_rdmemEa.bind fun _ h => (sound_unary op h).bind fun _ _ =>
        sound_wrmemEa _)
  | tstMem ea => exact ea.sound_andThen (sound_rdmemEa.bind fun _ _ => sound_tst _)
  | jmp ea => exact ea.sound_andThen ((sound_reads _).bind fun _ _ => sound_wrPC _)
  | jsr ea =>
      exact ea.sound_andThen ((sound_reads _).bind fun _ _ => (sound_pushS16 _).bind fun _ _ =>
        (sound_reads _).bind fun _ _ => sound_wrPC _)
  | unaryAcc op r =>
      exact r.sound_get.bind fun _ h => (sound_unary op h).bind fun _ h => r.sound_put h
  | tstAcc r => exact r.sound_get.bind fun _ _ => sound_tst _
  | bin8 op r src =>
      exact src.sound_andThen fun v hv => r.sound_get.bind fun _ h => hv.bind fun _ h' =>
        (sound_alu (op.byte_fn h h')).bind fun _ h => r.sound_put h
  | test8 op r src =>
      exact src.sound_andThen fun v hv => r.sound_get.bind fun _ _ => hv.bind fun _ _ =>
        sound_flags _
  | ld8 r src =>
      exact src.sound_andThen fun v hv => hv.bind fun _ h =>
        (sound_alu (Q := Byte) fun _ => h).bind fun _ h => r.sound_put h
  | st8 r ea =>
      exact ea.sound_andThen (r.sound_get.bind fun _ _ => (sound_flags _).bind fun _ _ =>
        sound_wrmemEa _)
  | bin16 op src =>
      cases src with
      | imm clk => exact (sound_tick clk).bind fun _ _ => sound_immWord.bind fun _ _ => op.sound_run _
      | mem ea =>
          exact ea.sound_andThen (sound_rdmem16Ea.bind fun _ _ => (op.sound_run _).bind fun _ _ =>
            sound_tick 1)
  | ldd src => exact src.sound_andThen fun v hv => hv.bind fun _ h => sound_ldd h
  | std ea =>
      exact ea.sound_andThen ((sound_reads _).bind fun _ _ => (sound_reads _).bind fun _ _ =>
        (sound_flags _).bind fun _ _ => (sound_reads _).bind fun _ _ => (sound_reads _).bind
        fun _ _ => sound_wrmem16 _ _)
  | cmp16 r src =>
      have get : Sound (r.get : M σ Unsigned) Any := by cases r <;> exact sound_reads _
      cases src with
      | imm clk =>
          exact (sound_tick clk).bind fun _ _ => get.bind fun _ _ => sound_immWord.bind fun _ _ =>
            sound_flags _
      | mem ea =>
          exact ea.sound_andThen (get.bind fun _ _ => sound_rdmem16Ea.bind fun _ _ =>
            (sound_flags _).bind fun _ _ => sound_tick 1)
  | ld16 r src =>
      exact src.sound_andThen fun v hv => hv.bind fun _ h =>
        (sound_alu (Q := Word) fun _ => h).bind fun _ h => r.sound_put h
  | st16 r ea => exact ea.sound_andThen (r.sound_get.bind fun _ _ => sound_st16 _)
  | lea r => exact sound_lea r ((sound_reads _).bind fun _ _ => sound_wrZ _)
  | leaStack r =>
      refine Triple.bind reaches_indexed fun _ => ?_
      exact Triple.bind (Q := fun v s => Word v ∧ Widths s) (Triple.reads fun s h => h)
        fun v s h => r.sound_put h.1 s h.2
  | bra => exact sound_bra.bind fun _ _ => sound_tick 3
  | brn => exact (sound_skip 1).bind fun _ _ => sound_tick 3
  | branch c =>
      exact (sound_reads _).bind fun _ _ => (Sound.ite sound_bra (sound_skip 1)).bind fun _ _ =>
        sound_tick 3
  | bsr => exact sound_call (f := fun pc tmp => pc + int8 tmp) sound_immByte
  | longBra => exact sound_longBra.bind fun _ _ => sound_tick 5
  | longBrn => exact (sound_tick 5).bind fun _ _ => sound_skip 2
  | longBranch c =>
      exact (sound_reads _).bind fun _ _ => Sound.ite (sound_longBra.bind fun _ _ => sound_tick 6)
        ((sound_skip 2).bind fun _ _ => sound_tick 5)
  | longBsr => exact sound_call (f := fun pc tmp => pc + int16 tmp) sound_immWord
  | nop => exact sound_tick 2
  | sync => exact (sound_tick 4).bind fun _ _ => sound_simError
  | daa =>
      exact sound_rdA.bind fun _ _ => (sound_alu (Q := Byte) fun _ => byte_and _).bind fun _ h =>
        (sound_wrA h).bind fun _ _ => sound_tick 2
  | orcc =>
      exact sound_immByte.bind fun _ _ => (sound_reads _).bind fun _ _ => (sound_setCc _).bind
        fun _ _ => sound_tick 3
  | andcc =>
      exact sound_immByte.bind fun _ _ => (sound_reads _).bind fun _ _ => (sound_setCc _).bind
        fun _ _ => sound_tick 3
  | sex =>
      refine sound_rdB.bind fun b hb => (sound_alu (Q := Byte) fun _ => ?_).bind fun _ h =>
        (sound_wrA h).bind fun _ _ => sound_tick 2
      change Byte (if b &&& 0x80 ≠ 0 then 0xff else b &&& 0x80)
      split
      · exact (by decide : (0xff : Unsigned).toNat < 2 ^ 8)
      · exact Words.and_lt hb
  | exg =>
      exact sound_immByte.bind fun _ h => Sound.bind (Sound.modify fun _ hs => hs.exg h)
        fun _ _ => sound_tick 8
  | tfr =>
      exact sound_immByte.bind fun _ h => Sound.bind (Sound.modify fun _ hs => hs.tfr h)
        fun _ _ => sound_tick 6
  | abx =>
      exact sound_rdX.bind fun _ _ => sound_rdB.bind fun _ _ => (sound_wrX (word_and _)).bind
        fun _ _ => sound_tick 3
  | mul =>
      exact sound_rdA.bind fun _ _ => sound_rdB.bind fun _ _ =>
        (sound_alu (Q := Word) fun _ => word_and _).bind fun _ h =>
        (sound_wrA (byte_shiftRight h)).bind fun _ _ => (sound_wrB (byte_and _)).bind fun _ _ =>
        sound_tick 11
  | cwai => exact sound_simError
  | pshs => exact sound_immByte.bind fun _ _ => sound_pshsPost _
  | puls => exact sound_immByte.bind fun _ _ => sound_pulsPost _
  | pshu => exact sound_immByte.bind fun _ _ => sound_pshuPost _
  | pulu => exact sound_immByte.bind fun _ _ => sound_puluPost _
  | rts => exact (sound_tick 5).bind fun _ _ => sound_pullS16.bind fun _ _ => sound_wrPC _
  | rti => exact sound_rti
  | swi => exact sound_swiWith _ _ (by decide)
  | swi2 => exact sound_swiWith _ _ (by decide)
  | swi3 => exact sound_swiWith _ _ (by decide)
  | invalid =>
      exact (sound_tick 2).bind fun _ _ => sound_simError.bind fun _ _ => (sound_reads _).bind
        fun _ _ => sound_wrPC _
  | invalidPrefixed => exact sound_simError

lemma sound_decode : Sound (decode : M σ Insn) Any := by
  refine sound_immByte.bind fun opcode _ => ?_
  rcases insns0.lookup opcode with _ | (i | _ | _)
  · exact Sound.pure trivial
  · exact Sound.pure trivial
  · exact sound_immByte.bind fun _ _ => Sound.pure trivial
  · exact sound_immByte.bind fun _ _ => Sound.pure trivial

lemma sound_cpuInsn : Sound (cpuInsn : M σ Unit) Any := by
  rw [cpuInsn_eq]
  exact Sound.bind (Sound.keep fun _ => rfl) fun _ _ => sound_decode.bind fun i _ =>
    i.sound_exec.bind fun _ _ => sound_ccCheck

/-! ## Runs -/

omit [Machine σ] in
lemma Widths.poke {s : Cpu σ} (hs : Widths s) (r : DebugReg) (val : Unsigned) :
    Widths (s.poke r val) := by
  cases r with
  | pc => exact { hs with A := hs.A }
  | x => exact { hs with X := word_and val }
  | y => exact { hs with Y := word_and val }
  | u => exact { hs with U := word_and val }
  | s => exact { hs with S := word_and val }
  | d => exact { hs with A := byte_and _, B := byte_and val }
  | a => exact { hs with A := byte_and val }
  | b => exact { hs with B := byte_and val }
  | dp => exact { hs with DP := shiftLeft_page (byte_and val) }
  | cc => exact hs.setCc val

lemma Action.sound_run (a : Action σ) : Sound a.run Any := by
  cases a with
  | insn => exact sound_cpuInsn
  | hook => exact sound_access _
  | irq => exact sound_irq
  | firq => exact sound_firq
  | requestIrq source => exact sound_requestIrqWith sound_wrmem source
  | releaseIrq source => exact sound_releaseIrq source
  | requestFirq source => exact sound_requestFirqWith sound_wrmem source
  | releaseFirq source => exact sound_releaseFirq source
  | poke r val => exact Sound.modify fun _ hs => hs.poke r val
  | clock total period clk => exact Sound.keep fun _ => rfl
  | world f => exact Sound.keep fun _ => rfl

lemma sound_runActions (l : List (Action σ)) : Sound (runActions l) Any :=
  Sound.forM Action.sound_run

/-- `cpu_reset` establishes the widths from any state. -/
lemma widths_cpuReset {s t : Cpu σ} (h : cpuReset s = .ok ((), t)) : Widths t := by
  obtain ⟨_, s₁, h₁, k₁⟩ := bind_eq_ok.mp h
  cases h₁
  have rest : Sound (do
      wrPC (← read16 0xfffe)
      modify fun s => { s with world := Machine.cpuIsRunning s.world } : M σ Unit) Any :=
    (sound_read16 _).bind fun _ _ => (sound_wrPC _).bind fun _ _ => Sound.keep fun _ => rfl
  refine (rest _ ?_ _ _ k₁).2
  have zero : (0 : Unsigned).toNat < 2 ^ 8 := by decide
  have zero' : (0 : Unsigned).toNat < 2 ^ 16 := by decide
  have page : (0 : Unsigned).toNat % 256 = 0 ∧ (0 : Unsigned).toNat ≤ 0xff00 := by decide
  have efi : (F_FLAG ||| I_FLAG) &&& ~~~EFI_MASK = 0 := by decide
  exact ⟨zero, zero, zero', zero', zero', zero', page, efi⟩

/-- **The register widths hold at every boundary of every run from reset**: whatever memory holds
and in whatever order instructions, interrupt entries, requests and debugger writes come. -/
theorem register_widths (l : List (Action σ)) (s₀ t : Cpu σ)
    (h : (do cpuReset; runActions l : M σ Unit) s₀ = .ok ((), t)) :
    t.A.toNat < 256 ∧ t.B.toNat < 256 ∧
    t.X.toNat < 65536 ∧ t.Y.toNat < 65536 ∧ t.U.toNat < 65536 ∧ t.S.toNat < 65536 ∧
    t.DP.toNat % 256 = 0 ∧ t.DP.toNat ≤ 0xff00 ∧
    t.EFI &&& ~~~(E_FLAG ||| F_FLAG ||| I_FLAG) = 0 := by
  obtain ⟨_, s, hs, ht⟩ := bind_eq_ok.mp h
  have hw := (sound_runActions l s (widths_cpuReset hs) _ _ ht).2
  exact ⟨hw.A, hw.B, hw.X, hw.Y, hw.U, hw.S, hw.DP.1, hw.DP.2, hw.EFI⟩

/-- `TFR D,DP`, an illegal pair, at the reset address. -/
def tfrRun : List (Action Flat) := [.poke .a 0x1ff, .poke .s 0x12345, .insn, .irq]

def tfrMemory : Flat := ⟨Flat.bytes 0x1000 [0x1f, 0x0b] ++ Flat.bytes 0xfffe [0x10, 0x00]⟩

theorem register_widths_tfrRun :
    (after (do cpuReset; runActions tfrRun) (Cpu.zeroed tfrMemory)).DP = 0xff00 ∧
    (after (do cpuReset; runActions tfrRun) (Cpu.zeroed tfrMemory)).DP.toNat ≤ 0xff00 := by
  have h := register_widths tfrRun (Cpu.zeroed tfrMemory) _
    (eq_ok_after (a := ()) (by decide +kernel))
  obtain ⟨-, -, -, -, -, -, -, hdp, -⟩ := h
  exact ⟨by decide +kernel, hdp⟩

end Exec09
