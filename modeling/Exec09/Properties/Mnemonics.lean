import Exec09.Properties.ContextSaving
import Exec09.Properties.InsnLengths

/-!
# What the disassembler says

The disassembler has tables of its own and a switch of its own over the index postbytes.
`Insn.text` writes an instruction of the interpreter down, with its operand as the interpreter
decodes it.  What `dasm` prints for the bytes at an address is the text of the instruction that is
fetched there.
-/

namespace Exec09

open Program

/-! ## Names -/

def Acc.name : Acc → String
  | .A => "A"
  | .B => "B"

def IndexReg.name : IndexReg → String
  | .X => "X"
  | .Y => "Y"
  | .U => "U"
  | .S => "S"

def Cmp16.name : Cmp16 → String
  | .D => "D"
  | .X => "X"
  | .Y => "Y"
  | .U => "U"
  | .S => "S"

def Reg.name : Reg → String
  | .D => "D"
  | .X => "X"
  | .Y => "Y"
  | .U => "U"
  | .S => "S"
  | .PC => "PC"
  | .A => "A"
  | .B => "B"
  | .CC => "CC"
  | .DP => "DP"

def Unary.name : Unary → String
  | .neg => "NEG"
  | .com => "COM"
  | .lsr => "LSR"
  | .ror => "ROR"
  | .asr => "ASR"
  | .asl => "ASL"
  | .rol => "ROL"
  | .dec => "DEC"
  | .inc => "INC"
  | .clr => "CLR"

def Bin8.name : Bin8 → String
  | .sub => "SUB"
  | .sbc => "SBC"
  | .and => "AND"
  | .eor => "EOR"
  | .adc => "ADC"
  | .or => "OR"
  | .add => "ADD"

def Test8.name : Test8 → String
  | .cmp => "CMP"
  | .bit => "BIT"

def Bin16.name : Bin16 → String
  | .addd => "ADDD"
  | .subd => "SUBD"

/-- The unsigned orders go by the names of the carry. -/
def Cond.name : Cond → String
  | .HI => "HI"
  | .LS => "LS"
  | .HS => "CC"
  | .LO => "CS"
  | .NE => "NE"
  | .EQ => "EQ"
  | .VC => "VC"
  | .VS => "VS"
  | .PL => "PL"
  | .MI => "MI"
  | .GE => "GE"
  | .LT => "LT"
  | .GT => "GT"
  | .LE => "LE"

def Insn.mnemonic : Insn → String
  | .unaryMem op _ => op.name
  | .tstMem _ => "TST"
  | .jmp _ => "JMP"
  | .jsr _ => "JSR"
  | .unaryAcc op r => op.name ++ r.name
  | .tstAcc r => "TST" ++ r.name
  | .bin8 op r _ => op.name ++ r.name
  | .test8 op r _ => op.name ++ r.name
  | .ld8 r _ => "LD" ++ r.name
  | .st8 r _ => "ST" ++ r.name
  | .bin16 op _ => op.name
  | .ldd _ => "LDD"
  | .std _ => "STD"
  | .cmp16 r _ => "CMP" ++ r.name
  | .ld16 r _ => "LD" ++ r.name
  | .st16 r _ => "ST" ++ r.name
  | .lea r | .leaStack r => "LEA" ++ r.name
  | .bra => "BRA"
  | .brn => "BRN"
  | .branch c => "B" ++ c.name
  | .bsr => "BSR"
  | .longBra => "LBRA"
  | .longBrn => "LBRN"
  | .longBranch c => "LB" ++ c.name
  | .longBsr => "LBSR"
  | .nop => "NOP"
  | .sync => "SYNC"
  | .daa => "DAA"
  | .orcc => "ORCC"
  | .andcc => "ANDCC"
  | .sex => "SEX"
  | .exg => "EXG"
  | .tfr => "TFR"
  | .abx => "ABX"
  | .mul => "MUL"
  | .cwai => "CWAI"
  | .pshs => "PSHS"
  | .puls => "PULS"
  | .pshu => "PSHU"
  | .pulu => "PULU"
  | .rts => "RTS"
  | .rti => "RTI"
  | .swi => "SWI"
  | .swi2 => "SWI2"
  | .swi3 => "SWI3"
  | .invalid | .invalidPrefixed => "???"

/-! ## The tables -/

/-- The columns of the disassembler's tables. -/
def OpcodeT.columns (row : OpcodeT) : String × AddrMode := (row.code.mne, row.mode)

/-- What they hold if the row is for the instruction. -/
def Insn.columns (i : Insn) : String × AddrMode := (i.mnemonic, i.addrMode)

/-- The instruction of an entry that is no prefix. -/
def Entry.plain (e : Entry) : Insn := e.insn?.getD .invalid

/-- **But for the prefixes, and `RESET`, which the interpreter does not have, both list the same
opcodes.** -/
lemma columns_codes : (codes.filter fun c => c.1 ≠ 0x3e).map
      (fun c => ((c.1.setWidth 32 : Unsigned), c.2.columns)) =
    (insns0.filter fun c => c.1 ≠ 0x10 && c.1 ≠ 0x11).map
      fun c => (c.1, c.2.plain.columns) := by decide +kernel

lemma columns_codes10 : codes10.map (fun c => ((c.1.setWidth 32 : Unsigned), c.2.columns)) =
    insns10.map fun c => (c.1, c.2.columns) := by decide +kernel

lemma columns_codes11 : codes11.map (fun c => ((c.1.setWidth 32 : Unsigned), c.2.columns)) =
    insns11.map fun c => (c.1, c.2.columns) := by decide +kernel

/-- A lookup among some of the keys, in a table with its keys renamed. -/
lemma lookup_filter_map {κ κ' α β : Type} [BEq κ] [LawfulBEq κ] [BEq κ'] [LawfulBEq κ']
    {f : κ → κ'} (hf : f.Injective) (g : α → β) (p : κ → Bool) (k : κ) (l : List (κ × α)) :
    ((l.filter fun c => p c.1).map fun c => (f c.1, g c.2)).lookup (f k) =
      if p k then (l.lookup k).map g else none := by
  induction l with
  | nil => simp
  | cons c l ih =>
      obtain ⟨a, b⟩ := c
      by_cases hk : k = a
      · subst hk
        by_cases hp : p k
        · simp [hp]
        · simpa [hp] using ih
      · have hne : (k == a) = false := beq_eq_false_iff_ne.mpr hk
        have hne' : (f k == f a) = false := beq_eq_false_iff_ne.mpr (hf.ne hk)
        by_cases hp : p a
        · simp [hp, List.lookup_cons, hne, hne', ih]
        · simp [hp, List.lookup_cons, hne, ih]

lemma setWidth_injective : Function.Injective fun op : U8 => (op.setWidth 32 : Unsigned) := by
  intro x y h
  have h' := congrArg (BitVec.setWidth 8) h
  rwa [setWidth_of_byte, setWidth_of_byte] at h'

/-- The row of an opcode, in terms of the table. -/
lemma columns_opcodeAt (table : List (U8 × OpcodeT)) (op : U8) :
    (opcodeAt table op).columns =
      ((table.lookup op).map OpcodeT.columns).getD Insn.invalid.columns := by
  rw [opcodeAt]
  cases table.lookup op <;> rfl

lemma columns_plain {op : U8} (h₀ : op ≠ 0x10) (h₁ : op ≠ 0x11) (h₂ : op ≠ 0x3e) :
    (opcodeAt codes op).columns =
      (((insns0.lookup (op.setWidth 32)).map Entry.plain).getD .invalid).columns := by
  have disasm := lookup_filter_map setWidth_injective OpcodeT.columns (fun k => k ≠ 0x3e) op codes
  have interp := lookup_filter_map Function.injective_id (fun e : Entry => e.plain.columns)
    (fun k => k ≠ 0x10 && k ≠ 0x11) (op.setWidth 32) insns0
  have hne {x : U8} (h : op ≠ x) : (op.setWidth 32 : Unsigned) ≠ x.setWidth 32 :=
    setWidth_injective.ne h
  rw [if_pos (by simpa using h₂)] at disasm
  rw [if_pos (by simpa using ⟨hne h₀, hne h₁⟩)] at interp
  rw [columns_opcodeAt, ← disasm, columns_codes]
  refine (congrArg (Option.getD · Insn.invalid.columns) interp).trans ?_
  cases insns0.lookup (op.setWidth 32 : Unsigned) <;> rfl

/-- Behind a prefix. -/
lemma columns_prefixed {table : List (U8 × OpcodeT)} {insns : List (Unsigned × Insn)}
    (h : table.map (fun c => ((c.1.setWidth 32 : Unsigned), c.2.columns)) =
      insns.map fun c => (c.1, c.2.columns)) (op : U8) :
    (opcodeAt table op).columns = (decodePrefixed insns (op.setWidth 32)).columns := by
  have disasm := lookup_filter_map setWidth_injective OpcodeT.columns (fun _ => true) op table
  rw [if_pos rfl, List.filter_eq_self.mpr fun _ _ => rfl, h, lookup_map] at disasm
  rw [columns_opcodeAt, ← disasm, decodePrefixed]
  cases insns.lookup (op.setWidth 32 : Unsigned) <;> rfl

/-- **The disassembler lists the instruction that is fetched, unless it is `RESET`.** -/
lemma Bus.columns_rowAt {ι : Type} (b : Bus ι) (a : Unsigned) (h : b.byteAt a ≠ 0x3e) :
    (b.rowAt a).columns = (b.insnAt a).columns := by
  by_cases h₀ : b.byteAt a = 0x10
  · rw [Bus.rowAt, if_pos h₀, Bus.insnAt, h₀]
    exact columns_prefixed columns_codes10 _
  · by_cases h₁ : b.byteAt a = 0x11
    · rw [Bus.rowAt, if_neg h₀, if_pos h₁, Bus.insnAt, h₁]
      exact columns_prefixed columns_codes11 _
    · rw [Bus.rowAt, if_neg h₀, if_neg h₁, columns_plain h₀ h₁ h, Bus.insnAt]
      rcases hl : insns0.lookup ((b.byteAt a).setWidth 32) with _ | (i | _ | _)
      · rfl
      · rfl
      · exact absurd ((eq_prefix_of_lookup hl).1 rfl) h₀
      · exact absurd ((eq_prefix_of_lookup hl).2 rfl) h₁

/-! ## Operands -/

/-- What the text of an operand is made of: the bytes behind the opcode, the names of addresses and
of absolute addresses, and the absolute address behind the instruction. -/
structure Listing where
  byte : Nat → U8
  name : Unsigned → String
  place : BitVec 64 → String
  next : BitVec 64

namespace Listing

variable (l : Listing)

def word (k : Nat) : U16 := l.byte k ++ l.byte (k + 1)

def hexByte (k : Nat) : String := "$" ++ formatHex 2 (l.byte k).toNat

def hexWord (k : Nat) : String := "$" ++ formatHex 4 (l.word k).toNat

end Listing

/-- An address computation, with the offset that is behind the postbyte. -/
def IndexMode.text (R : IndexReg) (l : Listing) : IndexMode → String
  | .inc n => "," ++ R.name ++ String.ofList (List.replicate n.toNat '+')
  | .dec n => "," ++ String.ofList (List.replicate n.toNat '-') ++ R.name
  | .zero => "," ++ R.name
  | .accB => "B," ++ R.name
  | .accA => "A," ++ R.name
  | .accD => "D," ++ R.name
  | .off8 => l.hexByte 1 ++ "," ++ R.name
  | .off16 => l.hexWord 1 ++ "," ++ R.name
  | .pc8 => l.hexByte 1 ++ ",PC"
  | .pc16 => l.hexWord 1 ++ ",PC"
  | .ext => l.name ((l.word 1).setWidth 32)

def Post.text (l : Listing) : Post → String
  | .offset R n => toString (n.setWidth 16).toInt ++ "," ++ R.name
  | .mode R i => if i.indirect then "[" ++ i.mode.text R l ++ "]" else i.mode.text R l
  | .illegal => "???"

def Ea.text (l : Listing) : Ea → String
  | .direct _ => "<" ++ l.name ((l.byte 0).setWidth 32)
  | .extended _ => l.name ((l.word 0).setWidth 32)
  | .indexed | .tickIndexed _ | .indexedTick _ => (decodePost ((l.byte 0).setWidth 32)).text l

def Src8.text (l : Listing) : Src8 → String
  | .imm => "#" ++ l.hexByte 0
  | .mem ea => ea.text l

def Src16.text (l : Listing) : Src16 → String
  | .imm _ => "#" ++ l.hexWord 0
  | .mem ea => ea.text l

/-- The register with a number, as `get_reg` and `set_reg` have it. -/
def regName (nro : Unsigned) : String := ((regOfNumber nro).map Reg.name).getD "??"

/-! ## Pushes and pulls -/

namespace StackReg

/-- The other stack pointer. -/
def other : StackReg → Reg
  | .S => .U
  | .U => .S

/-- The registers by their bit in the postbyte, in the order in which they are pushed. -/
def order (k : StackReg) : List (U8 × Reg) :=
  [ (0x80, .PC), (0x40, k.other), (0x20, .Y), (0x10, .X), (0x08, .DP),
    (0x04, .B), (0x02, .A), (0x01, .CC) ]

/-- The registers a postbyte names. -/
def named (k : StackReg) (post : U8) : List Reg :=
  (k.order.filter fun c => post &&& c.1 ≠ 0).map Prod.snd

section Programs

variable {σ : Type} [Machine σ]

/-- Push a register; no postbyte names `D`. -/
def pushReg (k : StackReg) : Reg → M σ Unit
  | .D => do tick 2; k.push16 (← rdD)
  | .PC => do tick 2; k.push16 ((← reads Cpu.PC) &&& 0xffff)
  | .U => do tick 2; k.push16 (← reads Cpu.U)
  | .S => do tick 2; k.push16 (← reads Cpu.S)
  | .Y => do tick 2; k.push16 (← reads Cpu.Y)
  | .X => do tick 2; k.push16 (← reads Cpu.X)
  | .DP => do tick 1; k.push8 ((← reads Cpu.DP) >>> 8)
  | .B => do tick 1; k.push8 (← reads Cpu.B)
  | .A => do tick 1; k.push8 (← reads Cpu.A)
  | .CC => do tick 1; k.push8 (← reads Cpu.getCc)

/-- Pull a register. -/
def pullReg (k : StackReg) : Reg → M σ Unit
  | .D => do tick 2; wrAB (← k.pull16)
  | .PC => do tick 2; wrPC (← k.pull16)
  | .U => do tick 2; wrU (← k.pull16)
  | .S => do tick 2; wrS (← k.pull16)
  | .Y => do tick 2; wrY (← k.pull16)
  | .X => do tick 2; wrX (← k.pull16)
  | .DP => do tick 1; wrDP (← k.pull8)
  | .B => do tick 1; wrB (← k.pull8)
  | .A => do tick 1; wrA (← k.pull8)
  | .CC => do tick 1; setCc (← k.pull8)

omit [Machine σ] in
/-- The entries of a list that meet a condition, one after the other. -/
lemma forM_filter_map {α β : Type} (p : α → Prop) [DecidablePred p] (f : α → β)
    (g : β → M σ Unit) (l : List α) :
    ((l.filter fun c => p c).map f).forM g = l.forM fun c => whenever (p c) (g (f c)) := by
  induction l with
  | nil => rfl
  | cons c l ih =>
      change _ = (whenever (p c) (g (f c)) >>= fun _ => l.forM fun c => whenever (p c) (g (f c)))
      rw [← ih]
      by_cases hp : p c
      · rw [List.filter_cons_of_pos (by simpa using hp), whenever, if_pos hp]
        rfl
      · rw [List.filter_cons_of_neg (by simpa using hp), whenever, if_neg hp, pure_bind]

omit [Machine σ] in
lemma whenever_bit (post m : U8) (f : M σ Unit) :
    whenever (post &&& m ≠ 0) f = whenever (post.setWidth 32 &&& m.setWidth 32 ≠ (0 : Unsigned)) f := by
  have h : (post.setWidth 32 &&& m.setWidth 32 : Unsigned) ≠ 0 ↔ post &&& m ≠ 0 := by
    rw [← BitVec.setWidth_and]
    exact setWidth_injective.ne_iff (x := post &&& m) (y := 0)
  simp only [whenever, h]

/-- **A push stores the registers its postbyte names.** -/
lemma psh_eq (k : StackReg) (post : U8) : (k.psh (post.setWidth 32) : M σ Unit) =
    (do tick 5; (k.named post).forM k.pushReg) := by
  rw [named, forM_filter_map]
  cases k <;>
    simp only [whenever_bit, BitVec.reduceSetWidth, order, List.forM, bind_pure_unit] <;> rfl

/-- **A pull loads them in the opposite order.** -/
lemma pul_eq (k : StackReg) (post : U8) : (k.pul (post.setWidth 32) : M σ Unit) =
    (do tick 5; (k.named post).reverse.forM k.pullReg) := by
  rw [named, ← List.map_reverse, ← List.filter_reverse, forM_filter_map]
  cases k <;>
    simp only [whenever_bit, BitVec.reduceSetWidth, order, List.reverse_cons, List.reverse_nil,
      List.nil_append, List.cons_append, List.forM, bind_pure_unit] <;> rfl

end Programs

end StackReg

/-- `B` and `A` together are `D`. -/
def pairD : List Reg → List Reg
  | .B :: .A :: l => .D :: pairD l
  | r :: l => r :: pairD l
  | [] => []

/-- The registers of a push or pull. -/
def StackReg.list (k : StackReg) (post : U8) : String :=
  ",".intercalate ((pairD (k.named post)).map Reg.name)

/-! ## The text of an instruction -/

def Insn.operands (l : Listing) : Insn → String
  | .unaryMem _ ea | .tstMem ea | .jmp ea | .jsr ea | .st8 _ ea | .std ea | .st16 _ ea => ea.text l
  | .bin8 _ _ src | .test8 _ _ src | .ld8 _ src => src.text l
  | .bin16 _ src | .ldd src | .cmp16 _ src | .ld16 _ src => src.text l
  | .lea _ | .leaStack _ => (decodePost ((l.byte 0).setWidth 32)).text l
  | .bra | .brn | .branch _ | .bsr => l.place ((l.byte 0).signExtend 64 + l.next)
  | .longBra | .longBrn | .longBranch _ | .longBsr => l.place ((l.word 0).setWidth 64 + l.next)
  | .orcc | .andcc | .cwai => "#" ++ l.hexByte 0
  | .exg | .tfr =>
    regName ((l.byte 0).setWidth 32 >>> 4) ++ "," ++ regName ((l.byte 0).setWidth 32 &&& 15)
  | .pshs | .puls => StackReg.S.list (l.byte 0)
  | .pshu | .pulu => StackReg.U.list (l.byte 0)
  | .invalid | .invalidPrefixed => "???"
  | _ => ""

/-- The stack of a push or pull. -/
def Insn.stack? : Insn → Option StackReg
  | .pshs | .puls => some .S
  | .pshu | .pulu => some .U
  | _ => none

/-- The mnemonic and the operand.  The field of the mnemonic is one blank shorter where a push or
pull names no register. -/
def Insn.text (l : Listing) (i : Insn) : String :=
  formatField (if ∃ k ∈ i.stack?, k.named (l.byte 0) = [] then 5 else 6) i.mnemonic ++ i.operands l

/-! ## What `dasm` prints -/

/-- The name of an address. -/
def Bus.addrName {ι : Type} (b : Bus ι) (symLookup : BitVec 64 → Option String) (addr : Unsigned) :
    String :=
  match symLookup (b.toAbsolute addr) with
  | some name => "0x" ++ formatHex 4 addr.toNat ++ "  <" ++ name ++ ">"
  | none => "0x" ++ formatHex 4 addr.toNat

/-- The operand is `n` bytes at `p`. -/
structure Listing.At {ι : Type} [Board ι] (l : Listing) (v : View)
    (symLookup : BitVec 64 → Option String) (b : Bus ι) (p : BitVec 64) (n : Nat) : Prop where
  byte : ∀ k < n, b.absRead8 v (p + BitVec.ofNat 64 k) = some ⟨l.byte k, b, []⟩
  name : ∀ addr, l.name addr = b.addrName symLookup addr
  place : ∀ addr, l.place addr = absoluteAddrName symLookup addr
  next : l.next = p + BitVec.ofNat 64 n

namespace Dasm

variable {ι α β : Type} [Board ι] {v : View} {symLookup : BitVec 64 → Option String} {b : Bus ι}
  {p : BitVec 64} {k n o : Nat}

omit [Board ι] in
/-- From the byte `k` on, `m` leads to the byte `n` and delivers `a`. -/
def Yields (b : Bus ι) (p : BitVec 64) (k n : Nat) (m : DasmM ι α) (a : α) : Prop :=
  ∀ d : Dasm ι, d.pc = p + BitVec.ofNat 64 k → d.bus = b →
    ∃ e, m d = some (a, e) ∧ e.pc = p + BitVec.ofNat 64 n ∧ e.bus = b

namespace Yields

variable {m : DasmM ι α} {f : α → DasmM ι β} {a : α} {c : β}

omit [Board ι] in
lemma pure (a : α) : Yields b p k k (pure a : DasmM ι α) a := fun d hpc hbus => ⟨d, rfl, hpc, hbus⟩

omit [Board ι] in
lemma bind (hm : Yields b p k n m a) (hf : Yields b p n o (f a) c) :
    Yields b p k o (m >>= f) c := by
  intro d hpc hbus
  obtain ⟨e, h₁, hpc', hbus'⟩ := hm d hpc hbus
  obtain ⟨e', h₂, hpc'', hbus''⟩ := hf e hpc' hbus'
  exact ⟨e', by rw [some_bind h₁, h₂], hpc'', hbus''⟩

omit [Board ι] in
/-- What is done with the value. -/
lemma ret (hm : Yields b p k n m a) (g : α → β) :
    Yields b p k n (m >>= fun x => Pure.pure (g x)) (g a) := hm.bind (pure _)

omit [Board ι] in
lemma congr (hm : Yields b p k n m a) {a' : α} (h : a' = a) : Yields b p k n m a' := h ▸ hm

end Yields

lemma yields_fetch8 {x : U8} (h : b.absRead8 v (p + BitVec.ofNat 64 k) = some ⟨x, b, []⟩) :
    Yields b p k (k + 1) (fetch8 v : DasmM ι U8) x := by
  rintro ⟨pc, bus, l, t⟩ rfl rfl
  refine ⟨_, fetch8_eq h l t, ?_, rfl⟩
  rw [BitVec.ofNat_add, ← BitVec.add_assoc]
  rfl

lemma yields_fetch16 {x y : U8} (h : b.absRead8 v (p + BitVec.ofNat 64 k) = some ⟨x, b, []⟩)
    (h' : b.absRead8 v (p + BitVec.ofNat 64 (k + 1)) = some ⟨y, b, []⟩) :
    Yields b p k (k + 2) (fetch16 v : DasmM ι U16) (x ++ y) := by
  rintro ⟨pc, bus, l, t⟩ rfl rfl
  rw [BitVec.ofNat_add, ← BitVec.add_assoc] at h'
  refine ⟨_, fetch16_eq h h' l t, ?_, rfl⟩
  rw [BitVec.ofNat_add, ← BitVec.add_assoc]
  rfl

lemma yields_monitorAddrName (addr : Unsigned) :
    Yields b p k k (monitorAddrName v symLookup addr : DasmM ι String)
      (b.addrName symLookup addr) := by
  rintro d hpc rfl
  let fault := if d.bus.noResponse (d.bus.findMap addr).devid then
    d.bus.doFault v addr .noResponse else []
  refine ⟨{ d with signals := d.signals ++ fault }, ?_, hpc, rfl⟩
  change (match symLookup (d.bus.toAbsolute addr) with
    | some name => Pure.pure ("0x" ++ formatHex 4 addr.toNat ++ "  <" ++ name ++ ">")
    | none => Pure.pure ("0x" ++ formatHex 4 addr.toNat) : DasmM ι String) _ = _
  rw [Bus.addrName]
  cases symLookup (d.bus.toAbsolute addr) <;> rfl

omit [Board ι] in
lemma yields_branchTarget (operand : BitVec 64) :
    Yields b p k k (branchTarget operand : DasmM ι (BitVec 64))
      (operand + (p + BitVec.ofNat 64 k)) := by
  rintro ⟨pc, bus, l, t⟩ rfl rfl
  exact ⟨_, rfl, rfl, rfl⟩

/-! ### Index postbytes -/

/-- The register of a postbyte. -/
def postReg (op : U8) : IndexReg := indexReg ((op.setWidth 32 >>> 5) &&& 0x3)

lemma name_postReg : ∀ op : U8,
    indexRegNames.getD ((op >>> 5) &&& 0x3).toNat "" = (postReg op).name := by decide +kernel

lemma off4_eq : ∀ op : U8, op &&& 0x80 = 0 →
    off4 (op &&& 0x1f).toNat = toString ((offset5 (op.setWidth 32)).setWidth 16).toInt := by
  decide +kernel

/-- The interpreter looks at the same bits. -/
lemma decodePost_bits : ∀ op : U8, decodePost (op.setWidth 32) =
    if op &&& 0x80 = 0 then .offset (postReg op) (offset5 (op.setWidth 32))
    else ((indexModes.lookup (BitVec.ofNat 32 (op &&& 0x1f).toNat)).map
      (Post.mode (postReg op))).getD .illegal := by decide +kernel

lemma yields_indexedOperand {l : Listing} {op : U8}
    (hl : l.At v symLookup b p (1 + indexedSize op)) :
    Yields b p 1 (1 + indexedSize op) (indexedOperand v symLookup op : DasmM ι String)
      ((decodePost (op.setWidth 32)).text l) := by
  have byte (h : 1 < 1 + indexedSize op) := yields_fetch8 (k := 1) (hl.byte 1 h)
  have word (h : 2 < 1 + indexedSize op) :=
    yields_fetch16 (k := 1) (hl.byte 1 (by omega)) (hl.byte 2 h)
  rw [decodePost_bits, indexedOperand, name_postReg]
  unfold indexedSize at *
  split_ifs at * with h
  · rw [off4_eq op h]
    exact Yields.pure _
  · have hlt : (op &&& 0x1f).toNat < 32 := by
      rw [BitVec.toNat_and]
      exact Nat.lt_of_le_of_lt Nat.and_le_right (by decide)
    generalize (op &&& 0x1f).toNat = n at *
    have bracketed (x y z : String) :
        "[" ++ (x ++ y ++ z) ++ "]" = "[" ++ x ++ y ++ (z ++ "]") := by
      simp only [String.append_assoc]
    obtain hlt | rfl := Nat.lt_or_eq_of_le (Nat.le_of_lt_succ hlt)
    · interval_cases n <;> first
        | refine (Yields.pure _).congr ?_
        | refine ((byte (by decide)).ret _).congr ?_
        | refine ((word (by decide)).ret _).congr ?_
      -- the texts are the same in other brackets
      all_goals
        simp only [indexModes, List.lookup_cons, List.lookup_nil, BitVec.reduceBEq,
          Option.map_some, Option.map_none, Option.getD_some, Option.getD_none, Post.text,
          IndexMode.text, Listing.hexByte, Listing.hexWord, Listing.word, if_true, if_false,
          Bool.false_eq_true]
      all_goals exact String.toList_inj.mp (by simp [List.replicate_succ])
    · refine (word (by decide)).bind ?_
      have named : Yields b p 3 3 (do return "[" ++ (← monitorAddrName v symLookup
          ((l.word 1).setWidth 32)) ++ "]" : DasmM ι String)
          ("[" ++ l.name ((l.word 1).setWidth 32) ++ "]") := by
        rw [hl.name]
        exact (yields_monitorAddrName _).ret ("[" ++ · ++ "]")
      exact named

/-! ### Operands -/

section Operands

variable {l : Listing} (buf : String)

lemma yields_name (hl : l.At v symLookup b p n) (addr : Unsigned) :
    Yields b p k k (monitorAddrName v symLookup addr : DasmM ι String) (l.name addr) :=
  (yields_monitorAddrName addr).congr (hl.name addr)

lemma yields_ea (ea : Ea) (hl : l.At v symLookup b p (ea.addrMode.size (l.byte 0))) :
    Yields b p 0 (ea.addrMode.size (l.byte 0)) (operand v symLookup ea.addrMode buf)
      (buf ++ ea.text l) := by
  have first (h : 0 < ea.addrMode.size (l.byte 0)) := yields_fetch8 (k := 0) (hl.byte 0 h)
  have indexed (hl : l.At v symLookup b p (1 + indexedSize (l.byte 0)))
      (first : Yields b p 0 1 (fetch8 v) (l.byte 0)) :
      Yields b p 0 (1 + indexedSize (l.byte 0)) (operand v symLookup .indexed buf)
        (buf ++ (decodePost ((l.byte 0).setWidth 32)).text l) :=
    first.bind ((yields_indexedOperand hl).ret (buf ++ ·))
  cases ea with
  | direct clk =>
      exact ((first Nat.one_pos).bind ((yields_name hl _).ret (buf ++ "<" ++ ·))).congr
        String.append_assoc.symm
  | extended clk =>
      exact (yields_fetch16 (hl.byte 0 Nat.two_pos) (hl.byte 1 Nat.one_lt_two)).bind
        ((yields_name hl _).ret (buf ++ ·))
  | indexed | tickIndexed clk | indexedTick clk =>
      exact indexed hl (first (Nat.lt_add_right _ Nat.one_pos))

lemma yields_immByte (hl : l.At v symLookup b p 1) :
    Yields b p 0 1 (operand v symLookup .immByte buf) (buf ++ ("#" ++ l.hexByte 0)) :=
  ((yields_fetch8 (hl.byte 0 Nat.one_pos)).ret fun x => buf ++ "#$" ++ formatHex 2 x.toNat).congr
    (String.toList_inj.mp (by simp [Listing.hexByte]))

lemma yields_immWord (hl : l.At v symLookup b p 2) :
    Yields b p 0 2 (operand v symLookup .immWord buf) (buf ++ ("#" ++ l.hexWord 0)) :=
  ((yields_fetch16 (hl.byte 0 Nat.two_pos) (hl.byte 1 Nat.one_lt_two)).ret
    fun x => buf ++ "#$" ++ formatHex 4 x.toNat).congr
      (String.toList_inj.mp (by simp [Listing.hexWord, Listing.word]))

lemma yields_src8 (src : Src8) (hl : l.At v symLookup b p (src.addrMode.size (l.byte 0))) :
    Yields b p 0 (src.addrMode.size (l.byte 0)) (operand v symLookup src.addrMode buf)
      (buf ++ src.text l) := by
  cases src with
  | imm => exact yields_immByte buf hl
  | mem ea => exact yields_ea buf ea hl

lemma yields_src16 (src : Src16) (hl : l.At v symLookup b p (src.addrMode.size (l.byte 0))) :
    Yields b p 0 (src.addrMode.size (l.byte 0)) (operand v symLookup src.addrMode buf)
      (buf ++ src.text l) := by
  cases src with
  | imm clk => exact yields_immWord buf hl
  | mem ea => exact yields_ea buf ea hl

/-- The address of a branch, from behind the instruction. -/
lemma yields_target (hl : l.At v symLookup b p n) (displacement : BitVec 64) :
    Yields b p n n (do return buf ++ absoluteAddrName symLookup (← branchTarget displacement))
      (buf ++ l.place (displacement + l.next)) := by
  rw [hl.place, hl.next]
  exact (yields_branchTarget displacement).ret fun addr => buf ++ absoluteAddrName symLookup addr

/-- A byte displacement has its sign. -/
lemma yields_relByte (hl : l.At v symLookup b p 1) :
    Yields b p 0 1 (operand v symLookup .relByte buf)
      (buf ++ l.place ((l.byte 0).signExtend 64 + l.next)) := by
  refine (yields_fetch8 (hl.byte 0 Nat.one_pos)).bind ?_
  exact yields_target buf hl _

/-- A word displacement has none. -/
lemma yields_relWord (hl : l.At v symLookup b p 2) :
    Yields b p 0 2 (operand v symLookup .relWord buf)
      (buf ++ l.place ((l.word 0).setWidth 64 + l.next)) := by
  refine (yields_fetch16 (hl.byte 0 Nat.two_pos) (hl.byte 1 Nat.one_lt_two)).bind ?_
  exact yields_target buf hl _

omit [Board ι] in
lemma regNames_eq : ∀ op : U8, regNames.getD (op >>> 4).toNat "" = regName (op.setWidth 32 >>> 4) ∧
    regNames.getD (op &&& 15).toNat "" = regName (op.setWidth 32 &&& 15) := by decide +kernel

lemma yields_regPost (hl : l.At v symLookup b p 1) :
    Yields b p 0 1 (operand v symLookup .regPost buf) (buf ++
      (regName ((l.byte 0).setWidth 32 >>> 4) ++ "," ++ regName ((l.byte 0).setWidth 32 &&& 15))) := by
  refine ((yields_fetch8 (hl.byte 0 Nat.one_pos)).ret fun op => buf ++
    regNames.getD (op >>> 4).toNat "" ++ "," ++ regNames.getD (op &&& 15).toNat "").congr ?_
  rw [(regNames_eq _).1, (regNames_eq _).2]
  simp only [String.append_assoc]

omit [Board ι] in
/-- The mode of a push or pull. -/
def stackMode : StackReg → AddrMode
  | .S => .sysPost
  | .U => .usrPost

omit [Board ι] in
/-- A register whose bit is set. -/
def bit (op m : U8) (r : Reg) : List Reg := if op &&& m ≠ 0 then [r] else []

omit [Board ι] in
/-- The registers `dasm` finds in a postbyte. -/
def listed (k : StackReg) (op : U8) : List Reg :=
  bit op 0x80 .PC ++ bit op 0x40 k.other ++ bit op 0x20 .Y ++ bit op 0x10 .X ++ bit op 0x08 .DP ++
    (if op &&& 0x06 = 0x06 then [.D] else bit op 0x04 .B ++ bit op 0x02 .A) ++ bit op 0x01 .CC

omit [Board ι] in
lemma listed_eq (k : StackReg) : ∀ op : U8, listed k op = pairD (k.named op) := by
  cases k <;> decide +kernel

omit [Board ι] in
/-- Every register with a comma behind it. -/
def commas (l : List Reg) : String := String.join (l.map fun r => r.name ++ ",")

omit [Board ι] in
lemma commas_nil : commas [] = "" := String.join_nil

omit [Board ι] in
lemma commas_cons (r : Reg) (l : List Reg) : commas (r :: l) = r.name ++ "," ++ commas l :=
  String.join_cons

omit [Board ι] in
lemma commas_append (l l' : List Reg) : commas (l ++ l') = commas l ++ commas l' := by
  rw [commas, List.map_append, String.join_append]
  rfl

omit [Board ι] in
lemma commas_bit (op m : U8) (r : Reg) :
    commas (bit op m r) = if op &&& m ≠ 0 then r.name ++ "," else "" := by
  unfold bit
  split_ifs
  · rw [commas_cons, commas_nil, String.append_empty]
  · exact commas_nil

omit [Board ι] in
lemma stackList_eq (k : StackReg) (op : U8) :
    stackList (stackMode k) op = commas (pairD (k.named op)) := by
  rw [← listed_eq]
  simp only [listed, commas_append, commas_bit, apply_ite commas, commas_cons, commas_nil]
  cases k <;> rfl

omit [Board ι] in
/-- The last comma goes. -/
lemma dropLast_commas {l : List Reg} (h : l ≠ []) :
    (commas l).toList.dropLast = (",".intercalate (l.map Reg.name)).toList := by
  induction l with
  | nil => exact absurd rfl h
  | cons r l ih =>
      cases l with
      | nil => simp [commas_cons, commas_nil]
      | cons r' l =>
          have hne : (commas (r' :: l)).toList ≠ [] := by simp [commas_cons]
          rw [commas_cons, String.toList_append, List.dropLast_append_of_ne_nil hne,
            ih (List.cons_ne_nil _ _)]
          simp [String.intercalate_cons_cons]

omit [Board ι] in
lemma pairD_ne_nil {l : List Reg} (h : l ≠ []) : pairD l ≠ [] := by
  fun_cases pairD l with
  | case1 => exact List.cons_ne_nil _ _
  | case2 => exact List.cons_ne_nil _ _
  | case3 => exact absurd rfl h

lemma yields_stack (k : StackReg) (hl : l.At v symLookup b p 1) :
    Yields b p 0 1 (operand v symLookup (stackMode k) buf)
      (if k.named (l.byte 0) = [] then String.ofList buf.toList.dropLast
        else buf ++ k.list (l.byte 0)) := by
  have h : Yields b p 0 1 (operand v symLookup (stackMode k) buf)
      (String.ofList (buf ++ stackList (stackMode k) (l.byte 0)).toList.dropLast) := by
    have hf := (yields_fetch8 (hl.byte 0 Nat.one_pos)).ret fun op =>
      String.ofList (buf ++ stackList (stackMode k) op).toList.dropLast
    cases k <;> exact hf
  refine h.congr ?_
  rw [stackList_eq]
  split_ifs with hn
  · rw [hn, pairD, commas_nil, String.append_empty]
  · have hne := pairD_ne_nil hn
    obtain ⟨r, l', hr⟩ := List.exists_cons_of_ne_nil hne
    have hne' : (commas (pairD (k.named (l.byte 0)))).toList ≠ [] := by
      rw [hr, commas_cons]
      simp
    rw [String.toList_append, List.dropLast_append_of_ne_nil hne', dropLast_commas hne]
    exact String.toList_inj.mp (by simp [StackReg.list])

omit buf in
/-- **The operand is read as the interpreter reads it.** -/
lemma yields_insn (i : Insn) (hl : l.At v symLookup b p (i.addrMode.size (l.byte 0))) :
    Yields b p 0 (i.addrMode.size (l.byte 0))
      (operand v symLookup i.addrMode (formatField 6 i.mnemonic)) (i.text l) := by
  have alone (h : i.stack? = none) : i.text l = formatField 6 i.mnemonic ++ i.operands l := by
    simp [Insn.text, h]
  have stacked {k : StackReg} (h : i.stack? = some k) : i.text l =
      formatField (if k.named (l.byte 0) = [] then 5 else 6) i.mnemonic ++ i.operands l := by
    simp [Insn.text, h]
  have push {k : StackReg} (hl : l.At v symLookup b p 1) (h : i.stack? = some k)
      (hop : i.operands l = k.list (l.byte 0))
      (hm : String.ofList (formatField 6 i.mnemonic).toList.dropLast = formatField 5 i.mnemonic) :
      Yields b p 0 1 (operand v symLookup (stackMode k) (formatField 6 i.mnemonic)) (i.text l) := by
    refine (yields_stack _ k hl).congr ?_
    rw [stacked h, hop, hm]
    split_ifs with hn
    · rw [StackReg.list, hn]
      exact String.append_empty
    · rfl
  cases i with
  | unaryMem op ea | tstMem ea | jmp ea | jsr ea | st8 r ea | std ea | st16 r ea =>
      rw [alone rfl]
      exact yields_ea _ ea hl
  | bin8 op r src | test8 op r src | ld8 r src =>
      rw [alone rfl]
      exact yields_src8 _ src hl
  | bin16 op src | ldd src | cmp16 r src | ld16 r src =>
      rw [alone rfl]
      exact yields_src16 _ src hl
  | lea r | leaStack r =>
      rw [alone rfl]
      exact yields_ea _ .indexed hl
  | bra | brn | branch c | bsr =>
      rw [alone rfl]
      exact yields_relByte _ hl
  | longBra | longBrn | longBranch c | longBsr =>
      rw [alone rfl]
      exact yields_relWord _ hl
  | orcc | andcc | cwai =>
      rw [alone rfl]
      exact yields_immByte _ hl
  | exg | tfr =>
      rw [alone rfl]
      exact yields_regPost _ hl
  | pshs | puls | pshu | pulu => exact push hl rfl rfl (by decide +kernel)
  | invalid | invalidPrefixed =>
      rw [alone rfl]
      exact Yields.pure _
  | _ =>
      rw [alone rfl]
      exact (Yields.pure _).congr String.append_empty

end Operands

end Dasm

namespace Bus

variable {ι : Type} {b : Bus ι} {lo top : Nat}

/-- What the text of the instruction at `a` is made of. -/
def listing (b : Bus ι) (symLookup : BitVec 64 → Option String) (a : Unsigned) : Listing where
  byte k := b.byteAt (a + BitVec.ofNat 32 (b.opcodeLength a + k))
  name := b.addrName symLookup
  place := absoluteAddrName symLookup
  next := b.toAbsolute a + BitVec.ofNat 64 (b.insnLength a)

variable [Board ι] {c : Config}

lemma Region.listing_at (hr : b.Region lo top) (hb : c.Holds b) {a : Unsigned} (hl : lo ≤ a.toNat)
    (hu : a.toNat + b.insnLength a ≤ top) (v : View) (symLookup : BitVec 64 → Option String) :
    (b.listing symLookup a).At v symLookup b (b.toAbsolute a + BitVec.ofNat 64 (b.opcodeLength a))
      (b.operandLength a) where
  byte k hk := by
    have hu' : a.toNat + (b.opcodeLength a + b.operandLength a) ≤ top := hu
    rw [BitVec.add_assoc, ← BitVec.ofNat_add]
    exact hr.absRead8_add hb v hl (by omega)
  name _ := rfl
  place _ := rfl
  next := by
    rw [BitVec.add_assoc, ← BitVec.ofNat_add]
    rfl

/-- **`dasm` prints the text of the instruction.** -/
lemma Region.dasm_text (hr : b.Region lo top) (hb : c.Holds b) {a : Unsigned} (hl : lo ≤ a.toNat)
    (hu : a.toNat + b.insnLength a ≤ top) (v : View) (symLookup : BitVec 64 → Option String) :
    ∃ d, dasm v symLookup (b.toAbsolute a) b = some d ∧
      d.text = if b.byteAt a = 0x3e then "RESET " else (b.insnAt a).text (b.listing symLookup a) := by
  have hop : a.toNat + b.opcodeLength a ≤ top :=
    Nat.le_trans (Nat.add_le_add_left (Nat.le_add_right _ (b.operandLength a)) _) hu
  let d : Dasm ι := ⟨b.toAbsolute a + BitVec.ofNat 64 (b.opcodeLength a), b, [], none⟩
  have start : d.pc = b.toAbsolute a + BitVec.ofNat 64 (b.opcodeLength a) + BitVec.ofNat 64 0 :=
    (BitVec.add_zero _).symm
  by_cases hreset : b.byteAt a = 0x3e
  · have hrow : b.rowAt a = ⟨.reset, .implied⟩ := by
      rw [rowAt, hreset]
      rfl
    have hfield : formatField 6 Opcode.reset.mne = "RESET " := by decide +kernel
    have hoperand : Dasm.operand v symLookup (b.rowAt a).mode
        (formatField 6 (b.rowAt a).code.mne) d = some ("RESET ", d) := by
      rw [hrow, hfield]
      rfl
    rw [if_pos hreset]
    exact ⟨_, hr.dasm_eq hb hl hop hoperand, rfl⟩
  · have hrow := b.columns_rowAt a hreset
    obtain ⟨e, he, -⟩ := Dasm.yields_insn (b.insnAt a)
      (hr.listing_at hb hl hu v symLookup) d start rfl
    rw [if_neg hreset]
    refine ⟨_, hr.dasm_eq hb hl hop (e := e) ?_, rfl⟩
    rw [show (b.rowAt a).mode = _ from congrArg Prod.snd hrow,
      show (b.rowAt a).code.mne = _ from congrArg Prod.fst hrow]
    exact he

end Bus

/-- A WPC whose RAM begins with `CMPD [,X++]`. -/
def comparing : Bus (Io WpcAsic Bare) :=
  Wpc.bus (Wpc.after []) (fun _ p => if p = 0 then 0x10 else if p = 1 then 0xa3 else 0x91) ⟨⟩

lemma comparing_holds : (Config.wpc []).Holds comparing := ⟨rfl, rfl⟩

lemma comparing_region : comparing.Region 0 0x2000 :=
  Config.region (w := (0, 64)) comparing_holds List.mem_cons_self
    (Wpc.storageAt comparing_holds (Wpc.locate_ram comparing_holds (i := 0) (by decide)).1
      (by decide) (by decide)) (by decide) (by decide)

end Exec09
