import Exec09.Properties.Disassembly
import Exec09.Properties.Widths

/-!
# Branch targets in the disassembly

For a relative branch the disassembler adds the operand to the absolute address behind it, and the
interpreter adds it to `PC`.  Both extend the sign of a byte; only the interpreter extends the sign
of a word.
-/

namespace Exec09

open Program

/-! ## The tables -/

/-- The mode under which `dasm` lists a relative branch. -/
def Insn.relMode : Insn → Option AddrMode
  | .bra | .brn | .branch _ | .bsr => some .relByte
  | .longBra | .longBrn | .longBranch _ | .longBsr => some .relWord
  | _ => none

/-- The branch is taken when the flags are `f`. -/
def Insn.taken (f : Flags) : Insn → Bool
  | .bra | .bsr | .longBra | .longBsr => true
  | .branch c | .longBranch c => c.holds f
  | _ => false

/-- The number of bytes of a relative branch before its operand. -/
def Insn.opcodeSize : Insn → Nat
  | .longBranch _ | .longBrn => 2
  | _ => 1

/-- The number of bytes of a relative branch. -/
def Insn.branchSize (i : Insn) : Nat :=
  i.opcodeSize + if i.relMode = some .relWord then 2 else 1

/-- A branch behind `n - 1` prefixes, in one of the interpreter's tables and in the
disassembler's. -/
def Listed (n : Nat) (table : List (U8 × OpcodeT)) (code : Unsigned) (i : Insn) : Prop :=
  ∀ am ∈ i.relMode, (opcodeAt table (code.setWidth 8)).mode = am ∧ i.opcodeSize = n

instance (n : Nat) (table : List (U8 × OpcodeT)) (code : Unsigned) (i : Insn) :
    Decidable (Listed n table code i) :=
  inferInstanceAs (Decidable (∀ am ∈ i.relMode, _))

set_option maxRecDepth 8000 in
/-- The tables of the disassembler list the branches as the switches of the interpreter do. -/
lemma listed_insns0 : ∀ c ∈ insns0, ∀ i ∈ c.2.insn?, Listed 1 codes c.1 i := by decide

lemma listed_insns10 : ∀ c ∈ insns10, Listed 2 codes10 c.1 c.2 := by decide

/-- There is no branch behind the prefix `0x11`. -/
lemma relMode_insns11 : ∀ c ∈ insns11, c.2.relMode = none := by decide

/-- The disassembler lists every branch under its mode. -/
lemma rowAt_branch {ι : Type} (b : Bus ι) (a : Unsigned) {am : AddrMode}
    (h : (b.insnAt a).relMode = some am) :
    (b.rowAt a).mode = am ∧ b.opcodeLength a = (b.insnAt a).opcodeSize := by
  have hrow := b.decoded a
    (Q := fun n row i => ∀ am ∈ i.relMode, row.mode = am ∧ i.opcodeSize = n)
    (fun n row => ⟨fun _ h => (nomatch h), fun _ h => (nomatch h)⟩) listed_insns0 listed_insns10
    (fun c hc am h => by rw [relMode_insns11 c hc] at h; cases h) am h
  exact ⟨hrow.1, hrow.2.symm⟩

lemma setWidth_of_word (d : U16) : (d.setWidth 32 : Unsigned).setWidth 16 = d := by
  apply BitVec.eq_of_toNat_eq
  simp

/-- The unsigned reading of a word. -/
lemma ofInt_toInt_emod (d : U16) : BitVec.ofInt 64 (d.toInt % 65536) = d.setWidth 64 := by
  have hd := d.isLt
  have h : d.toInt % 65536 = (d.toNat : Int) := by
    rw [BitVec.toInt_eq_toNat_cond]
    split <;> omega
  rw [h]
  apply BitVec.eq_of_toNat_eq
  simp

/-! ## What `dasm` prints -/

namespace Dasm

variable {ι : Type} [Board ι] {v : View} {symLookup : BitVec 64 → Option String} {b : Bus ι}

/-- A byte displacement: its sign is extended. -/
lemma operand_relByte {p : BitVec 64} {d : U8} (h : b.absRead8 v p = some ⟨d, b, []⟩)
    (buf : String) (l : List Signal) (t : Option (BitVec 64)) :
    operand v symLookup .relByte buf ⟨p, b, l, t⟩ =
      some (buf ++ absoluteAddrName symLookup (d.signExtend 64 + (p + 1)),
        ⟨p + 1, b, l, some (d.signExtend 64 + (p + 1))⟩) := by
  change (fetch8 v >>= fun d => branchTarget (d.signExtend 64) >>= fun addr =>
    pure (buf ++ absoluteAddrName symLookup addr)) ⟨p, b, l, t⟩ = _
  rw [some_bind (fetch8_eq h l t)]
  rfl

/-- A word displacement: it is taken as unsigned. -/
lemma operand_relWord {p : BitVec 64} {x y : U8} (h : b.absRead8 v p = some ⟨x, b, []⟩)
    (h' : b.absRead8 v (p + 1) = some ⟨y, b, []⟩) (buf : String) (l : List Signal)
    (t : Option (BitVec 64)) :
    operand v symLookup .relWord buf ⟨p, b, l, t⟩ =
      some (buf ++ absoluteAddrName symLookup ((x ++ y : U16).setWidth 64 + (p + 2)),
        ⟨p + 2, b, l, some ((x ++ y : U16).setWidth 64 + (p + 2))⟩) := by
  change (fetch16 v >>= fun d => branchTarget (d.setWidth 64) >>= fun addr =>
    pure (buf ++ absoluteAddrName symLookup addr)) ⟨p, b, l, t⟩ = _
  rw [some_bind (fetch16_eq h h' l t)]
  rfl

end Dasm

/-! ## What the interpreter does -/

section Interpreter

variable {σ α : Type} [Machine σ]

/-! ### `ea` during a push -/

lemma keepsEa_signal (x : Signal) : Keeps Cpu.ea (signal x : M σ Unit) := by
  cases x with
  | simError => exact keepsEa_simError
  | monitor on => exact Steps.modify fun _ => rfl
  | exit code => exact Steps.throw _

lemma keepsEa_read16 (addr : Unsigned) : Keeps Cpu.ea (read16 addr : M σ Unsigned) :=
  Steps.bind (Steps.bind (Steps.modifyGet fun _ => rfl) fun _ =>
    (Steps.forM fun x _ => keepsEa_signal x).bind fun _ => Steps.pure _) fun _ => Steps.pure _

section With

variable {write : Unsigned → Unsigned → M σ Unit} (hw : ∀ a d, Keeps Cpu.ea (write a d))
include hw

omit [Machine σ] in
lemma keepsEa_pushS16With (data : Unsigned) : Keeps Cpu.ea (pushS16With write data) :=
  Steps.bind (Steps.modify fun _ => rfl) fun _ => (Steps.reads _).bind fun _ =>
    (hw _ _).bind fun _ => hw _ _

omit [Machine σ] in
lemma keepsEa_pushS8With (data : Unsigned) : Keeps Cpu.ea (pushS8With write data) :=
  Steps.bind (Steps.modify fun _ => rfl) fun _ => (Steps.reads _).bind fun _ => hw _ _

omit [Machine σ] in
lemma keepsEa_pushAllWith : Keeps Cpu.ea (pushAllWith write) :=
  (Steps.reads _).bind fun _ => (keepsEa_pushS16With hw _).bind fun _ =>
  (Steps.reads _).bind fun _ => (keepsEa_pushS16With hw _).bind fun _ =>
  (Steps.reads _).bind fun _ => (keepsEa_pushS16With hw _).bind fun _ =>
  (Steps.reads _).bind fun _ => (keepsEa_pushS16With hw _).bind fun _ =>
  (Steps.reads _).bind fun _ => (keepsEa_pushS8With hw _).bind fun _ =>
  (Steps.reads _).bind fun _ => (keepsEa_pushS8With hw _).bind fun _ =>
  (Steps.reads _).bind fun _ => (keepsEa_pushS8With hw _).bind fun _ =>
  (Steps.reads _).bind fun _ => keepsEa_pushS8With hw _

lemma keepsEa_irqWith : Keeps Cpu.ea (irqWith write) :=
  Steps.bind (Steps.modify fun _ => rfl) fun _ => Steps.bind (Steps.modify fun _ => rfl) fun _ =>
  (keepsEa_pushAllWith hw).bind fun _ => Steps.bind (Steps.modify fun _ => rfl) fun _ =>
  (keepsEa_read16 _).bind fun _ => Steps.bind (Steps.modify fun _ => rfl) fun _ =>
  Steps.modify fun _ => rfl

lemma keepsEa_firqWith : Keeps Cpu.ea (firqWith write) :=
  Steps.bind (Steps.modify fun _ => rfl) fun _ => Steps.bind (Steps.modify fun _ => rfl) fun _ =>
  (Steps.reads _).bind fun _ => (keepsEa_pushS16With hw _).bind fun _ =>
  (Steps.reads _).bind fun _ => (keepsEa_pushS8With hw _).bind fun _ =>
  Steps.bind (Steps.modify fun _ => rfl) fun _ => (keepsEa_read16 _).bind fun _ =>
  Steps.bind (Steps.modify fun _ => rfl) fun _ => Steps.modify fun _ => rfl

lemma keepsEa_effectWith (x : Effect) : Keeps Cpu.ea (effectWith write x) := by
  cases x with
  | signal e => exact keepsEa_signal e
  | requestIrq source =>
      exact Steps.bind (Steps.modify fun _ => rfl) fun _ => (Steps.reads _).bind fun _ =>
        (keepsEa_irqWith hw).whenever.bind fun _ => Steps.modify fun _ => rfl
  | requestFirq source =>
      exact Steps.bind (Steps.modify fun _ => rfl) fun _ => (Steps.reads _).bind fun _ =>
        (keepsEa_firqWith hw).whenever.bind fun _ => Steps.modify fun _ => rfl
  | releaseIrq source | releaseFirq source =>
      exact Steps.bind (Steps.modify fun _ => rfl) fun _ => Steps.modify fun _ => rfl

end With

lemma keepsEa_writeN (n : Nat) : ∀ a d, Keeps Cpu.ea (writeN n a d : M σ Unit) := by
  induction n with
  | zero => exact fun _ _ => Steps.throw _
  | succ n ih =>
      exact fun a d => Steps.bind (Steps.modifyGet fun _ => rfl) fun _ =>
        Steps.forM fun x _ => keepsEa_effectWith ih x

/-- A push leaves the address alone, whatever handlers its writes enter. -/
lemma keepsEa_pushS16 (data : Unsigned) : Keeps Cpu.ea (pushS16 data : M σ Unit) :=
  keepsEa_pushS16With (keepsEa_writeN _) data

/-! ### Where a branch that is taken goes -/

/-- The end of `bsr` and `long_bsr`. -/
lemma pc_call {clk : Int} {target data : Unsigned} {s t : Cpu σ}
    (h : (do wrEa target; pushS16 data; tick clk; wrPC (← rdEa) : M σ Unit) s = .ok ((), t)) :
    t.PC = target := by
  obtain ⟨_, s₁, h₁, h⟩ := bind_eq_ok.mp h
  cases h₁
  obtain ⟨_, s₂, h₂, h⟩ := bind_eq_ok.mp h
  have hea : s₂.ea = target := keepsEa_pushS16 _ _ _ _ h₂
  cases h
  exact hea

lemma taken_relByte {i : Insn} (hi : i.relMode = some .relByte) {s t : Cpu σ}
    (ht : i.taken s.flags = true) (h : i.exec s = .ok ((), t)) :
    ∃ d u, immByte s = .ok (d, u) ∧ t.PC = u.PC + int8 d := by
  have jump {clk : Int} (h : (do bra; tick clk : M σ Unit) s = .ok ((), t)) :
      ∃ d u, immByte s = .ok (d, u) ∧ t.PC = u.PC + int8 d := by
    obtain ⟨_, s₁, h₁, h⟩ := bind_eq_ok.mp h
    obtain ⟨d, u, hd, h₁⟩ := bind_eq_ok.mp h₁
    cases h₁
    cases h
    exact ⟨d, u, hd, rfl⟩
  cases i with
  | bra => exact jump h
  | branch c =>
      have hb : Exec09.branch (c.holds s.flags) s = .ok ((), t) := h
      rw [show c.holds s.flags = true from ht] at hb
      exact jump hb
  | bsr =>
      obtain ⟨d, u, hd, h⟩ := bind_eq_ok.mp h
      exact ⟨d, u, hd, pc_call h⟩
  | brn | longBrn => cases ht
  | _ => cases hi

lemma taken_relWord {i : Insn} (hi : i.relMode = some .relWord) {s t : Cpu σ}
    (ht : i.taken s.flags = true) (h : i.exec s = .ok ((), t)) :
    ∃ d u, immWord s = .ok (d, u) ∧ t.PC = u.PC + int16 d := by
  have jump {clk : Int} (h : (do longBra; tick clk : M σ Unit) s = .ok ((), t)) :
      ∃ d u, immWord s = .ok (d, u) ∧ t.PC = u.PC + int16 d := by
    obtain ⟨_, s₁, h₁, h⟩ := bind_eq_ok.mp h
    obtain ⟨d, u, hd, h₁⟩ := bind_eq_ok.mp h₁
    cases h₁
    cases h
    exact ⟨d, u, hd, rfl⟩
  cases i with
  | longBra => exact jump h
  | longBranch c =>
      have hb : Exec09.longBranch (c.holds s.flags) s = .ok ((), t) := h
      rw [show c.holds s.flags = true from ht] at hb
      exact jump hb
  | longBsr =>
      obtain ⟨d, u, hd, h⟩ := bind_eq_ok.mp h
      exact ⟨d, u, hd, pc_call h⟩
  | brn | longBrn => cases ht
  | _ => cases hi

end Interpreter

/-! ## From decoding to the target -/

section Both

variable {ι : Type} [Board ι]

/-- The operand of a branch at `a`, as a signed number. -/
def Insn.displacement (b : Bus ι) (a : Unsigned) (i : Insn) : Int :=
  let o := a + BitVec.ofNat 32 i.opcodeSize
  if i.relMode = some .relWord then (b.byteAt o ++ b.byteAt (o + 1) : U16).toInt
  else (b.byteAt o).toInt

lemma Insn.relMode_cases {i : Insn} {am : AddrMode} (h : i.relMode = some am) :
    am = .relByte ∧ i.branchSize = i.opcodeSize + 1 ∨
      am = .relWord ∧ i.branchSize = i.opcodeSize + 2 := by
  cases i <;> first
    | cases h
  all_goals first
    | exact .inl ⟨rfl, rfl⟩
    | exact .inr ⟨rfl, rfl⟩

/-- Where a relative branch that is taken goes: to the address behind it plus the displacement. -/
lemma branch_target {s u t : Cpu (Bus ι)} {i : Insn} {am : AddrMode} (hi : i.relMode = some am)
    {lo top : Nat} (hr : s.world.Region lo top) (hl : lo ≤ s.PC.toNat)
    (hu : s.PC.toNat + i.branchSize ≤ top)
    (hpc : u.PC = s.PC + BitVec.ofNat 32 i.opcodeSize)
    (hw : ∃ io, u.world = { s.world with io := io }) (ht : i.taken u.flags = true)
    (h : i.exec u = .ok ((), t)) :
    t.PC = s.PC + BitVec.ofNat 32 i.branchSize + BitVec.ofInt 32 (i.displacement s.world s.PC) := by
  obtain ⟨io, hw⟩ := hw
  rcases i.relMode_cases hi with ⟨rfl, hs⟩ | ⟨rfl, hs⟩
  · have ha := hr.toNat_add (a := s.PC) (k := i.opcodeSize) (by omega)
    have hm : u.world.MemoryAt u.PC := by
      rw [hw, hpc]
      exact (hr.storage _ (by omega) (by omega)).memoryAt
    obtain ⟨d, w, hd, htpc⟩ := taken_relByte hi ht h
    obtain ⟨rfl, hwpc, -, -⟩ := immByte_bus hm hd
    have hdisp : i.displacement s.world s.PC =
        (s.world.byteAt (s.PC + BitVec.ofNat 32 i.opcodeSize)).toInt := by
      rw [Insn.displacement, hi, if_neg (by decide)]
    rw [htpc, hwpc, hpc, hs, hdisp, int8, setWidth_of_byte, hw, BitVec.ofNat_add,
      ← BitVec.add_assoc]
    rfl
  · have ha := hr.toNat_add (a := s.PC) (k := i.opcodeSize) (by omega)
    have hm : u.world.MemoryAt u.PC := by
      rw [hw, hpc]
      exact (hr.storage _ (by omega) (by omega)).memoryAt
    obtain ⟨d, w, hd, htpc⟩ := taken_relWord hi ht h
    obtain ⟨rfl, hwpc⟩ := immWord_bus hm hd
    have hdisp : i.displacement s.world s.PC =
        (s.world.byteAt (s.PC + BitVec.ofNat 32 i.opcodeSize) ++
          s.world.byteAt (s.PC + BitVec.ofNat 32 i.opcodeSize + 1) : U16).toInt := by
      rw [Insn.displacement, hi, if_pos rfl]
    have hnext := hr.next_byte (a := s.PC + BitVec.ofNat 32 i.opcodeSize) (by omega) (by omega)
    rw [htpc, hwpc, hpc, hs, hdisp, int16, setWidth_of_word, hw, BitVec.ofNat_add,
      ← BitVec.add_assoc,
      ← hnext]
    rfl

/-- What `dasm` prints for a relative branch: a word displacement counts as unsigned. -/
lemma dasm_branch {c : Config} {b : Bus ι} (hb : c.Holds b) {a : Unsigned} {am : AddrMode}
    (hi : (b.insnAt a).relMode = some am) {lo top : Nat} (hr : b.Region lo top) (hl : lo ≤ a.toNat)
    (hu : a.toNat + (b.insnAt a).branchSize ≤ top) (v : View)
    (symLookup : BitVec 64 → Option String) :
    ∃ d x mne, dasm v symLookup (b.toAbsolute a) b = some d ∧ d.target = some x ∧
      d.text = mne ++ absoluteAddrName symLookup x ∧
      x = b.toAbsolute a + BitVec.ofNat 64 (b.insnAt a).branchSize +
        BitVec.ofInt 64 (if am = .relWord then (b.insnAt a).displacement b a % 65536
          else (b.insnAt a).displacement b a) := by
  obtain ⟨hrow, hlen⟩ := rowAt_branch b a hi
  have hread (k : Nat) (hk : a.toNat + k < top) := hr.absRead8_add hb v hl hk
  have hsize := (b.insnAt a).relMode_cases hi
  have run {text : String} {e : Dasm ι}
      (h : Dasm.operand v symLookup (b.rowAt a).mode (formatField 6 (b.rowAt a).code.mne)
        ⟨b.toAbsolute a + BitVec.ofNat 64 (b.opcodeLength a), b, [], none⟩ = some (text, e)) :=
    hr.dasm_eq hb hl (by omega) h
  rw [hlen, hrow] at run
  rcases hsize with ⟨rfl, hs⟩ | ⟨rfl, hs⟩
  · refine ⟨_, _, _, run (Dasm.operand_relByte (hread _ (by omega)) _ _ _), rfl, rfl, ?_⟩
    rw [if_neg (by decide), Insn.displacement, hi, if_neg (by decide), hs, BitVec.ofNat_add,
      BitVec.add_comm, BitVec.add_assoc (b.toAbsolute a)]
    rfl
  · have hlo := hread ((b.insnAt a).opcodeSize + 1) (by omega)
    rw [BitVec.ofNat_add, BitVec.ofNat_add, ← BitVec.add_assoc, ← BitVec.add_assoc] at hlo
    refine ⟨_, _, _, run (Dasm.operand_relWord (hread _ (by omega)) hlo _ _ _), rfl, rfl, ?_⟩
    rw [if_pos rfl, Insn.displacement, hi, if_pos rfl, hs, BitVec.ofNat_add,
      BitVec.add_comm, BitVec.add_assoc (b.toAbsolute a), ofInt_toInt_emod]
    rfl

omit [Board ι] in
lemma displacement_bounds (i : Insn) (b : Bus ι) (a : Unsigned) :
    -32768 ≤ i.displacement b a ∧ i.displacement b a < 32768 := by
  unfold Insn.displacement
  dsimp only
  split
  · exact ⟨BitVec.le_toInt _, BitVec.toInt_lt⟩
  · have hl := BitVec.le_toInt (b.byteAt (a + BitVec.ofNat 32 i.opcodeSize))
    have hu := BitVec.toInt_lt (x := b.byteAt (a + BitVec.ofNat 32 i.opcodeSize))
    omega

omit [Board ι] in
/-- A target within the address space is the plain sum. -/
lemma target_toNat {a t : Unsigned} {n : Nat} {d : Int} (ha : a.toNat + n ≤ 65536)
    (ht : t.toNat < 65536) (hd : -32768 ≤ d ∧ d < 32768)
    (h : t = a + BitVec.ofNat 32 n + BitVec.ofInt 32 d) : (t.toNat : Int) = a.toNat + n + d := by
  have hn := congrArg BitVec.toNat h
  rw [BitVec.toNat_add, BitVec.toNat_add, BitVec.toNat_ofNat, BitVec.toNat_ofInt] at hn
  omega

/-- Two small offsets from an absolute address. -/
lemma offset_eq_iff {base : BitVec 64} {n x y : Nat} {e : Int} (hn : n ≤ 4) (hx : x < 65536)
    (hy : y < 65536) (he : -32768 ≤ e ∧ e < 65536) :
    base + BitVec.ofNat 64 n + BitVec.ofInt 64 e =
      base + (BitVec.ofNat 64 y - BitVec.ofNat 64 x) ↔ n + e = (y : Int) - x := by
  rw [BitVec.add_assoc, BitVec.add_right_inj]
  constructor
  · intro h
    have ht := congrArg BitVec.toNat h
    rw [BitVec.toNat_add, BitVec.toNat_sub, BitVec.toNat_ofNat, BitVec.toNat_ofNat,
      BitVec.toNat_ofNat, BitVec.toNat_ofInt] at ht
    omega
  · intro h
    apply BitVec.eq_of_toNat_eq
    rw [BitVec.toNat_add, BitVec.toNat_sub, BitVec.toNat_ofNat, BitVec.toNat_ofNat,
      BitVec.toNat_ofNat, BitVec.toNat_ofInt]
    omega

/-- The disassembly of the instruction at `PC` ends with the address the processor is at in `t`. -/
def ShowsTarget (v : View) (symLookup : BitVec 64 → Option String) (s t : Cpu (Bus ι)) : Prop :=
  ∃ d mne, dasm v symLookup (s.world.toAbsolute s.PC) s.world = some d ∧
    d.target = some (s.world.toAbsolute t.PC) ∧
    d.text = mne ++ absoluteAddrName symLookup (s.world.toAbsolute t.PC)

/-- **The target of a branch in the disassembly** is the real one exactly if the displacement is a
byte or is not negative.  Source and target lie in one piece of memory. -/
theorem shows_target_iff {c : Config} {s t : Cpu (Bus ι)} {i : Insn} {lo top : Nat}
    (hb : c.Holds s.world) (hr : s.world.Region lo top) (hl : lo ≤ s.PC.toNat)
    (hu : s.PC.toNat + i.branchSize ≤ top) (hi : i.relMode.isSome = true)
    (ht : i.taken s.flags = true) (h : cpuBody s = .ok (i, t)) (hl' : lo ≤ t.PC.toNat)
    (hu' : t.PC.toNat < top) (v : View) (symLookup : BitVec 64 → Option String) :
    ShowsTarget v symLookup s t ↔
      i.relMode = some .relByte ∨ 0 ≤ i.displacement s.world s.PC := by
  obtain ⟨am, hi⟩ := Option.isSome_iff_exists.mp hi
  have hsize := i.relMode_cases hi
  have hop : 1 ≤ i.opcodeSize ∧ i.opcodeSize ≤ 2 := by
    unfold Insn.opcodeSize
    split <;> decide
  have htop : top ≤ 65536 := hr.bound
  have memory (k : Nat) (hk : s.PC.toNat + k < top) :
      s.world.MemoryAt (s.PC + BitVec.ofNat 32 k) := by
    have hn := hr.toNat_add hk
    exact (hr.storage _ (by omega) (by omega)).memoryAt
  obtain ⟨u, hf, hx⟩ := cpuBody_eq_ok h
  have hm : s.world.MemoryAt s.PC := by simpa using memory 0 (by omega)
  obtain ⟨rfl, hpc, hfl, hw⟩ := cpuFetch_bus hm (fun _ => memory 1 (by omega)) hf
  rw [(rowAt_branch s.world s.PC hi).2] at hpc
  -- the interpreter
  have hbounds := displacement_bounds (s.world.insnAt s.PC) s.world s.PC
  have hsum := target_toNat (by omega) (by omega) hbounds
    (branch_target hi hr hl hu hpc hw (hfl ▸ ht) hx)
  -- the disassembler
  obtain ⟨d, x, mne, hd, hdx, htext, hx⟩ := dasm_branch hb hi hr hl hu v symLookup
  have hshown : ShowsTarget v symLookup s t ↔ x = s.world.toAbsolute t.PC := by
    constructor
    · rintro ⟨d', mne, hd', htarget, -⟩
      cases hd.symm.trans hd'
      exact Option.some.inj (hdx.symm.trans htarget)
    · rintro rfl
      exact ⟨d, _, hd, hdx, htext⟩
  rw [hshown, hx, hr.toAbsolute_eq hl (by omega) hl' hu',
    offset_eq_iff (by omega) (by omega) (by omega) (by split <;> omega), hsum, hi]
  rcases hsize with ⟨rfl, hs⟩ | ⟨rfl, hs⟩
  · simp
    omega
  · simp
    omega

end Both

/-- A WPC whose RAM holds `BRA 0` at 0 and `LBRA 2` at 2. -/
def loops : Bus (Io WpcAsic Bare) :=
  Wpc.bus (Wpc.after []) (fun _ p => ([0x20, 0xfe, 0x16, 0xff, 0xfd] : List U8).getD p.toNat 0) ⟨⟩

lemma loops_holds : (Config.wpc []).Holds loops := ⟨rfl, rfl⟩

lemma loops_region : loops.Region 0 0x2000 :=
  Config.region (w := (0, 64)) loops_holds (List.mem_cons_self)
    (Wpc.storageAt loops_holds (Wpc.locate_ram loops_holds (i := 0) (by decide)).1 (by decide)
      (by decide)) (by decide) (by decide)

/-- The short loop. -/
theorem shows_target_iff_short :
    ShowsTarget ⟨0, 0, 0, 0, 0, 0, 0, 0, 0, 0⟩ (fun _ => none) (Cpu.zeroed loops)
      (after cpuBody (Cpu.zeroed loops)) :=
  have run : result cpuBody (Cpu.zeroed loops) = some .bra := by decide +kernel
  have target : (after cpuBody (Cpu.zeroed loops)).PC = 0 := by decide +kernel
  (shows_target_iff loops_holds loops_region (Nat.zero_le _) (by decide) rfl rfl
    (eq_ok_after run) (Nat.zero_le _) (by rw [target]; decide) _ _).mpr (Or.inl rfl)

/-- The long loop. -/
def atLong : Cpu (Bus (Io WpcAsic Bare)) := { Cpu.zeroed loops with PC := 2 }

/-- A backward branch with a word for an operand is shown to go to address 0x10002. -/
theorem long_loop_misplaced :
    atLong.world.Region 0 0x2000 ∧ result cpuBody atLong = some .longBra ∧
      (after cpuBody atLong).PC = 2 ∧
      ¬ShowsTarget ⟨0, 0, 0, 0, 0, 0, 0, 0, 0, 0⟩ (fun _ => none) atLong (after cpuBody atLong) := by
  have run : result cpuBody atLong = some .longBra := by decide +kernel
  have target : (after cpuBody atLong).PC = 2 := by decide +kernel
  refine ⟨loops_region, run, target, ?_⟩
  rintro ⟨d, -, hd, htarget, -⟩
  rw [target] at htarget
  have shown : (dasm ⟨0, 0, 0, 0, 0, 0, 0, 0, 0, 0⟩ (fun _ => none)
      (atLong.world.toAbsolute atLong.PC) atLong.world).bind (·.target) = some 0x20010002 := by
    decide +kernel
  rw [hd] at shown
  have heq := htarget.symm.trans shown
  exact absurd heq (by decide +kernel)

end Exec09
