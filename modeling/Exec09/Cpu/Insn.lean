import Exec09.Cpu.Execute

/-!
# The instruction set behind the switch

The cases of `cpu_execute` repeat a few dozen shapes.  `Insn` names the shapes, `Insn.exec` runs
them, and `cases0_eq`, `cases10_eq` and `cases11_eq` say that the switches are exactly the
tables `insns0`, `insns10` and `insns11` of such instructions.  From here on a statement about
every opcode is a statement about every `Insn` (`cpuInsn_eq`).
-/

namespace Exec09

open Program

variable {σ : Type}

/-! ## Operands -/

/-- The accumulators. -/
inductive Acc
  | A | B
  deriving DecidableEq, Repr

def Acc.get : Acc → M σ Unsigned
  | .A => rdA
  | .B => rdB

def Acc.put : Acc → Unsigned → M σ Unit
  | .A => wrA
  | .B => wrB

/-- The operand of a 16-bit comparison. -/
inductive Cmp16
  | D | X | Y | U | S
  deriving DecidableEq, Repr

def Cmp16.get : Cmp16 → M σ Unsigned
  | .D => rdD
  | .X => rdX
  | .Y => rdY
  | .U => rdU
  | .S => rdS

/-- An address computation with the cycles its case charges around it. -/
inductive Ea
  | direct (clk : Int)
  | extended (clk : Int)
  | indexed
  | tickIndexed (clk : Int)
  | indexedTick (clk : Int)
  deriving DecidableEq, Repr

/-- A byte operand; an immediate one always costs two cycles. -/
inductive Src8
  | imm
  | mem (ea : Ea)
  deriving DecidableEq, Repr

/-- A word operand, an immediate one with its cycles. -/
inductive Src16
  | imm (clk : Int)
  | mem (ea : Ea)
  deriving DecidableEq, Repr

/-- The one-operand helpers that return a result. -/
inductive Unary
  | neg | com | lsr | ror | asr | asl | rol | dec | inc | clr
  deriving DecidableEq, Repr

def Unary.fn : Unary → Unsigned → Flags → Unsigned × Flags
  | .neg => Alu.neg
  | .com => Alu.com
  | .lsr => Alu.lsr
  | .ror => Alu.ror
  | .asr => Alu.asr
  | .asl => Alu.asl
  | .rol => Alu.rol
  | .dec => Alu.dec
  | .inc => Alu.inc
  | .clr => Alu.clr

/-- The two-operand helpers that return a byte. -/
inductive Bin8
  | sub | sbc | and | eor | adc | or | add
  deriving DecidableEq, Repr

def Bin8.fn : Bin8 → Unsigned → Unsigned → Flags → Unsigned × Flags
  | .sub => Alu.sub
  | .sbc => Alu.sbc
  | .and => Alu.and
  | .eor => Alu.eor
  | .adc => Alu.adc
  | .or => Alu.or
  | .add => Alu.add

/-- The two-operand helpers that only set flags. -/
inductive Test8
  | cmp | bit
  deriving DecidableEq, Repr

def Test8.fn : Test8 → Unsigned → Unsigned → Flags → Unit × Flags
  | .cmp => Alu.cmp
  | .bit => Alu.bit

/-- The helpers that work on `D`. -/
inductive Bin16
  | addd | subd
  deriving DecidableEq, Repr

def Bin16.run : Bin16 → Unsigned → M σ Unit
  | .addd => Exec09.addd
  | .subd => Exec09.subd

lemma lookup_map {α β : Type} (f : α → β) (k : Unsigned) (l : List (Unsigned × α)) :
    (l.map fun c => (c.1, f c.2)).lookup k = (l.lookup k).map f := by
  induction l with
  | nil => rfl
  | cons c l ih =>
      obtain ⟨a, b⟩ := c
      simp only [List.map_cons, List.lookup_cons, ih]
      cases k == a <;> rfl

lemma mem_of_lookup_eq {α : Type} {k : Unsigned} {l : List (Unsigned × α)} {a : α}
    (h : l.lookup k = some a) : (k, a) ∈ l := by
  obtain ⟨l₁, l₂, rfl, -⟩ := List.lookup_eq_some_iff.mp h
  simp

lemma mem_of_lookup {α : Type} {k : Unsigned} {l : List (Unsigned × α)} {a : α}
    (h : l.lookup k = some a) : a ∈ l.map Prod.snd :=
  List.mem_map_of_mem (mem_of_lookup_eq h)

section Postbytes

variable [Machine σ]

/-! ## Index postbytes -/

/-- The address computations of `indexed`. -/
inductive IndexMode
  /-- Use the register, then add `n`. -/
  | inc (n : Unsigned)
  /-- Subtract `n`, then use the register. -/
  | dec (n : Unsigned)
  | zero | accB | accA | off8 | off16 | accD | pc8 | pc16 | ext
  deriving DecidableEq, Repr

/-- Set `ea`. -/
def IndexMode.addr (R : IndexReg) : IndexMode → M σ Unit
  | .inc n => do wrEa (← R.get); R.put (((← R.get) + n) &&& 0xffff)
  | .dec n => do R.put (((← R.get) - n) &&& 0xffff); wrEa (← R.get)
  | .zero => do wrEa (← R.get)
  | .accB => do wrEa (((← R.get) + int8 (← rdB)) &&& 0xffff)
  | .accA => do wrEa (((← R.get) + int8 (← rdA)) &&& 0xffff)
  | .off8 => do wrEa (((← R.get) + int8 (← immByte)) &&& 0xffff)
  | .off16 => do wrEa (((← R.get) + (← immWord)) &&& 0xffff)
  | .accD => do wrEa (((← R.get) + (← rdD)) &&& 0xffff)
  | .pc8 => do wrEa (int8 (← immByte)); wrEa (((← rdEa) + (← reads Cpu.PC)) &&& 0xffff)
  | .pc16 => do wrEa (← immWord); wrEa (((← rdEa) + (← reads Cpu.PC)) &&& 0xffff)
  | .ext => do wrEa (← immWord)

/-- A postbyte with bit 7 set: the mode, its cycles, and whether it is indirect. -/
structure Index where
  mode : IndexMode
  clk : Int
  indirect : Bool
  deriving DecidableEq, Repr

def Index.exec (i : Index) (R : IndexReg) : M σ Unit := do
  i.mode.addr R
  tick i.clk
  if i.indirect then Exec09.indirect else pure ()

/-- The cases of `switch (post & 0x1f)`. -/
def indexModes : List (Unsigned × Index) :=
  [ (0x00, ⟨.inc 1, 6, false⟩), (0x01, ⟨.inc 2, 7, false⟩), (0x02, ⟨.dec 1, 6, false⟩),
    (0x03, ⟨.dec 2, 7, false⟩), (0x04, ⟨.zero, 4, false⟩), (0x05, ⟨.accB, 5, false⟩),
    (0x06, ⟨.accA, 5, false⟩), (0x08, ⟨.off8, 5, false⟩), (0x09, ⟨.off16, 8, false⟩),
    (0x0b, ⟨.accD, 8, false⟩), (0x0c, ⟨.pc8, 5, false⟩), (0x0d, ⟨.pc16, 9, false⟩),
    (0x11, ⟨.inc 2, 7, true⟩), (0x13, ⟨.dec 2, 7, true⟩), (0x14, ⟨.zero, 4, true⟩),
    (0x15, ⟨.accB, 5, true⟩), (0x16, ⟨.accA, 5, true⟩), (0x18, ⟨.off8, 5, true⟩),
    (0x19, ⟨.off16, 8, true⟩), (0x1b, ⟨.accD, 8, true⟩), (0x1c, ⟨.pc8, 5, true⟩),
    (0x1d, ⟨.pc16, 9, true⟩), (0x1f, ⟨.ext, 6, true⟩) ]

lemma indexCases_eq (R : IndexReg) : (indexCases R : List (Unsigned × M σ Unit)) =
    indexModes.map fun c => (c.1, c.2.exec R) := by
  simp [indexCases, indexModes, Index.exec, IndexMode.addr]

/-- What a postbyte stands for. -/
inductive Post
  | offset (R : IndexReg) (n : Unsigned)
  | mode (R : IndexReg) (i : Index)
  | illegal
  deriving DecidableEq, Repr

def Post.exec : Post → M σ Unit
  | .offset R n => do wrEa (((← R.get) + n) &&& 0xffff); tick 5
  | .mode R i => i.exec R
  | .illegal => do wrEa 0; simError

def decodePost (post : Unsigned) : Post :=
  let R := indexReg ((post >>> 5) &&& 0x3)
  if post &&& 0x80 ≠ 0 then
    match indexModes.lookup (post &&& 0x1f) with
    | some i => .mode R i
    | none => .illegal
  else .offset R (offset5 post)

/-- `indexed` runs what its postbyte stands for. -/
lemma indexedPost_eq (post : Unsigned) :
    (indexedPost post : M σ Unit) = (decodePost post).exec := by
  unfold indexedPost decodePost
  split
  · rw [switch, indexCases_eq, lookup_map fun i : Index => i.exec _]
    cases indexModes.lookup (post &&& 0x1f) <;> rfl
  · rfl

/-- Every mode of `indexModes` is one the postbyte can name. -/
lemma mem_indexModes_of_decodePost {post : Unsigned} {R : IndexReg} {i : Index}
    (h : decodePost post = .mode R i) : i ∈ indexModes.map Prod.snd := by
  unfold decodePost at h
  split at h
  · split at h
    · rename_i j hj
      cases h
      exact mem_of_lookup hj
    · cases h
  · cases h

end Postbytes

/-! ## Instructions -/

/-- The shapes of the cases, and the three defaults. -/
inductive Insn
  | unaryMem (op : Unary) (ea : Ea)
  | tstMem (ea : Ea)
  | jmp (ea : Ea)
  | jsr (ea : Ea)
  | unaryAcc (op : Unary) (r : Acc)
  | tstAcc (r : Acc)
  | bin8 (op : Bin8) (r : Acc) (src : Src8)
  | test8 (op : Test8) (r : Acc) (src : Src8)
  | ld8 (r : Acc) (src : Src8)
  | st8 (r : Acc) (ea : Ea)
  | bin16 (op : Bin16) (src : Src16)
  | ldd (src : Src16)
  | std (ea : Ea)
  | cmp16 (r : Cmp16) (src : Src16)
  | ld16 (r : IndexReg) (src : Src16)
  | st16 (r : IndexReg) (ea : Ea)
  | lea (r : IndexReg)
  | leaStack (r : IndexReg)
  | bra | brn | branch (c : Cond) | bsr
  | longBra | longBrn | longBranch (c : Cond) | longBsr
  | nop | sync | daa | orcc | andcc | sex | exg | tfr | abx | mul | cwai
  | pshs | puls | pshu | pulu | rts | rti | swi | swi2 | swi3
  /-- The default of the main switch. -/
  | invalid
  /-- The default of the switch after a prefix. -/
  | invalidPrefixed
  deriving DecidableEq, Repr

variable [Machine σ]

/-- Compute the address, then go on. -/
def Ea.andThen : Ea → M σ Unit → M σ Unit
  | .direct clk, k => do Exec09.direct; tick clk; k
  | .extended clk, k => do Exec09.extended; tick clk; k
  | .indexed, k => do Exec09.indexed; k
  | .tickIndexed clk, k => do tick clk; Exec09.indexed; k
  | .indexedTick clk, k => do Exec09.indexed; tick clk; k

/-- Prepare a byte operand, then go on with the program that fetches it. -/
def Src8.andThen : Src8 → (M σ Unsigned → M σ Unit) → M σ Unit
  | .imm, k => do tick 2; k immByte
  | .mem ea, k => ea.andThen (k rdmemEa)

/-- Prepare a word operand, then go on with the program that fetches it. -/
def Src16.andThen : Src16 → (M σ Unsigned → M σ Unit) → M σ Unit
  | .imm clk, k => do tick clk; k immWord
  | .mem ea, k => ea.andThen (k rdmem16Ea)

/-- Run the body of a case. -/
def Insn.exec : Insn → M σ Unit
  | .unaryMem op ea => ea.andThen do wrmemEa (← unary op.fn (← rdmemEa))
  | .tstMem ea => ea.andThen do tst (← rdmemEa)
  | .jmp ea => ea.andThen do wrPC (← rdEa)
  | .jsr ea => ea.andThen Exec09.jsr
  | .unaryAcc op r => do r.put (← unary op.fn (← r.get))
  | .tstAcc r => do tst (← r.get)
  | .bin8 op r src => src.andThen fun v => do r.put (← alu (op.fn (← r.get) (← v)))
  | .test8 op r src => src.andThen fun v => do alu (op.fn (← r.get) (← v))
  | .ld8 r src => src.andThen fun v => do r.put (← alu (Alu.ld (← v)))
  | .st8 r ea => ea.andThen do st (← r.get)
  | .bin16 op (.imm clk) => do tick clk; op.run (← immWord)
  | .bin16 op (.mem ea) => ea.andThen do op.run (← rdmem16Ea); tick 1
  | .ldd src => src.andThen fun v => do Exec09.ldd (← v)
  | .std ea => ea.andThen Exec09.std
  | .cmp16 r (.imm clk) => do tick clk; alu (Alu.cmp16 (← r.get) (← immWord))
  | .cmp16 r (.mem ea) => ea.andThen do alu (Alu.cmp16 (← r.get) (← rdmem16Ea)); tick 1
  | .ld16 r src => src.andThen fun v => do r.put (← alu (Alu.ld16 (← v)))
  | .st16 r ea => ea.andThen do Exec09.st16 (← r.get)
  | .lea r => do indexed; r.put (← rdEa); wrZ (← rdEa)
  | .leaStack r => do indexed; r.put (← rdEa)
  | .bra => do Exec09.bra; tick 3
  | .brn => do skip 1; tick 3
  | .branch c => do Exec09.branch (← cond c)
  | .bsr => Exec09.bsr
  | .longBra => do Exec09.longBra; tick 5
  | .longBrn => do tick 5; skip 2
  | .longBranch c => do Exec09.longBranch (← cond c)
  | .longBsr => Exec09.longBsr
  | .nop => Exec09.nop
  | .sync => Exec09.sync
  | .daa => Exec09.daa
  | .orcc => Exec09.orcc
  | .andcc => Exec09.andcc
  | .sex => Exec09.sex
  | .exg => Exec09.exg
  | .tfr => Exec09.tfr
  | .abx => Exec09.abx
  | .mul => Exec09.mul
  | .cwai => Exec09.cwai
  | .pshs => Exec09.pshs
  | .puls => Exec09.puls
  | .pshu => Exec09.pshu
  | .pulu => Exec09.pulu
  | .rts => Exec09.rts
  | .rti => Exec09.rti
  | .swi => Exec09.swi
  | .swi2 => Exec09.swi2
  | .swi3 => Exec09.swi3
  | .invalid => invalidOpcode
  | .invalidPrefixed => simError

/-! ## Opcode tables -/

/-- Opcodes after the prefix `0x10`. -/
def insns10 : List (Unsigned × Insn) :=
  [
    (0x21, .longBrn), (0x22, .longBranch .HI), (0x23, .longBranch .LS), (0x24, .longBranch .HS),
    (0x25, .longBranch .LO), (0x26, .longBranch .NE), (0x27, .longBranch .EQ),
    (0x28, .longBranch .VC), (0x29, .longBranch .VS), (0x2a, .longBranch .PL),
    (0x2b, .longBranch .MI), (0x2c, .longBranch .GE), (0x2d, .longBranch .LT),
    (0x2e, .longBranch .GT), (0x2f, .longBranch .LE), (0x3f, .swi2), (0x83, .cmp16 .D (.imm 5)),
    (0x8c, .cmp16 .Y (.imm 5)), (0x8e, .ld16 .Y (.imm 4)), (0x93, .cmp16 .D (.mem (.direct 5))),
    (0x9c, .cmp16 .Y (.mem (.direct 5))), (0x9e, .ld16 .Y (.mem (.direct 5))),
    (0x9f, .st16 .Y (.direct 5)), (0xa3, .cmp16 .D (.mem (.tickIndexed 1))),
    (0xac, .cmp16 .Y (.mem (.tickIndexed 1))), (0xae, .ld16 .Y (.mem (.tickIndexed 1))),
    (0xaf, .st16 .Y (.tickIndexed 1)), (0xb3, .cmp16 .D (.mem (.extended 6))),
    (0xbc, .cmp16 .Y (.mem (.extended 6))), (0xbe, .ld16 .Y (.mem (.extended 6))),
    (0xbf, .st16 .Y (.extended 6)), (0xce, .ld16 .S (.imm 4)),
    (0xde, .ld16 .S (.mem (.direct 5))), (0xdf, .st16 .S (.direct 5)),
    (0xee, .ld16 .S (.mem (.tickIndexed 1))), (0xef, .st16 .S (.tickIndexed 1)),
    (0xfe, .ld16 .S (.mem (.extended 6))), (0xff, .st16 .S (.extended 6)) ]

/-- Opcodes after the prefix `0x11`. -/
def insns11 : List (Unsigned × Insn) :=
  [
    (0x3f, .swi3), (0x83, .cmp16 .U (.imm 5)), (0x8c, .cmp16 .S (.imm 5)),
    (0x93, .cmp16 .U (.mem (.direct 5))), (0x9c, .cmp16 .S (.mem (.direct 5))),
    (0xa3, .cmp16 .U (.mem (.tickIndexed 1))), (0xac, .cmp16 .S (.mem (.tickIndexed 1))),
    (0xb3, .cmp16 .U (.mem (.extended 6))), (0xbc, .cmp16 .S (.mem (.extended 6))) ]

/-- What a byte in the main switch stands for. -/
inductive Entry
  | insn (i : Insn)
  | page10
  | page11
  deriving DecidableEq, Repr

/-- The opcodes of the main switch. -/
def insns0 : List (Unsigned × Entry) :=
  [
    (0x00, .insn (.unaryMem .neg (.direct 4))), (0x03, .insn (.unaryMem .com (.direct 4))),
    (0x04, .insn (.unaryMem .lsr (.direct 4))), (0x06, .insn (.unaryMem .ror (.direct 4))),
    (0x07, .insn (.unaryMem .asr (.direct 4))), (0x08, .insn (.unaryMem .asl (.direct 4))),
    (0x09, .insn (.unaryMem .rol (.direct 4))), (0x0a, .insn (.unaryMem .dec (.direct 4))),
    (0x0c, .insn (.unaryMem .inc (.direct 4))), (0x0d, .insn (.tstMem (.direct 4))),
    (0x0e, .insn (.jmp (.direct 3))), (0x0f, .insn (.unaryMem .clr (.direct 4))),
    (0x10, .page10), (0x11, .page11), (0x12, .insn .nop), (0x13, .insn .sync),
    (0x16, .insn .longBra), (0x17, .insn .longBsr), (0x19, .insn .daa), (0x1a, .insn .orcc),
    (0x1c, .insn .andcc), (0x1d, .insn .sex), (0x1e, .insn .exg), (0x1f, .insn .tfr),
    (0x20, .insn .bra), (0x21, .insn .brn), (0x22, .insn (.branch .HI)),
    (0x23, .insn (.branch .LS)), (0x24, .insn (.branch .HS)), (0x25, .insn (.branch .LO)),
    (0x26, .insn (.branch .NE)), (0x27, .insn (.branch .EQ)), (0x28, .insn (.branch .VC)),
    (0x29, .insn (.branch .VS)), (0x2a, .insn (.branch .PL)), (0x2b, .insn (.branch .MI)),
    (0x2c, .insn (.branch .GE)), (0x2d, .insn (.branch .LT)), (0x2e, .insn (.branch .GT)),
    (0x2f, .insn (.branch .LE)), (0x30, .insn (.lea .X)), (0x31, .insn (.lea .Y)),
    (0x32, .insn (.leaStack .S)), (0x33, .insn (.leaStack .U)), (0x34, .insn .pshs),
    (0x35, .insn .puls), (0x36, .insn .pshu), (0x37, .insn .pulu), (0x39, .insn .rts),
    (0x3a, .insn .abx), (0x3b, .insn .rti), (0x3c, .insn .cwai), (0x3d, .insn .mul),
    (0x3f, .insn .swi), (0x40, .insn (.unaryAcc .neg .A)), (0x43, .insn (.unaryAcc .com .A)),
    (0x44, .insn (.unaryAcc .lsr .A)), (0x46, .insn (.unaryAcc .ror .A)),
    (0x47, .insn (.unaryAcc .asr .A)), (0x48, .insn (.unaryAcc .asl .A)),
    (0x49, .insn (.unaryAcc .rol .A)), (0x4a, .insn (.unaryAcc .dec .A)),
    (0x4c, .insn (.unaryAcc .inc .A)), (0x4d, .insn (.tstAcc .A)),
    (0x4f, .insn (.unaryAcc .clr .A)), (0x50, .insn (.unaryAcc .neg .B)),
    (0x53, .insn (.unaryAcc .com .B)), (0x54, .insn (.unaryAcc .lsr .B)),
    (0x56, .insn (.unaryAcc .ror .B)), (0x57, .insn (.unaryAcc .asr .B)),
    (0x58, .insn (.unaryAcc .asl .B)), (0x59, .insn (.unaryAcc .rol .B)),
    (0x5a, .insn (.unaryAcc .dec .B)), (0x5c, .insn (.unaryAcc .inc .B)),
    (0x5d, .insn (.tstAcc .B)), (0x5f, .insn (.unaryAcc .clr .B)),
    (0x60, .insn (.unaryMem .neg .indexed)), (0x63, .insn (.unaryMem .com .indexed)),
    (0x64, .insn (.unaryMem .lsr .indexed)), (0x66, .insn (.unaryMem .ror .indexed)),
    (0x67, .insn (.unaryMem .asr .indexed)), (0x68, .insn (.unaryMem .asl .indexed)),
    (0x69, .insn (.unaryMem .rol .indexed)), (0x6a, .insn (.unaryMem .dec .indexed)),
    (0x6c, .insn (.unaryMem .inc .indexed)), (0x6d, .insn (.tstMem .indexed)),
    (0x6e, .insn (.jmp (.indexedTick (-1)))), (0x6f, .insn (.unaryMem .clr .indexed)),
    (0x70, .insn (.unaryMem .neg (.extended 5))), (0x73, .insn (.unaryMem .com (.extended 5))),
    (0x74, .insn (.unaryMem .lsr (.extended 5))), (0x76, .insn (.unaryMem .ror (.extended 5))),
    (0x77, .insn (.unaryMem .asr (.extended 5))), (0x78, .insn (.unaryMem .asl (.extended 5))),
    (0x79, .insn (.unaryMem .rol (.extended 5))), (0x7a, .insn (.unaryMem .dec (.extended 5))),
    (0x7c, .insn (.unaryMem .inc (.extended 5))), (0x7d, .insn (.tstMem (.extended 5))),
    (0x7e, .insn (.jmp (.extended 4))), (0x7f, .insn (.unaryMem .clr (.extended 5))),
    (0x80, .insn (.bin8 .sub .A .imm)), (0x81, .insn (.test8 .cmp .A .imm)),
    (0x82, .insn (.bin8 .sbc .A .imm)), (0x83, .insn (.bin16 .subd (.imm 4))),
    (0x84, .insn (.bin8 .and .A .imm)), (0x85, .insn (.test8 .bit .A .imm)),
    (0x86, .insn (.ld8 .A .imm)), (0x88, .insn (.bin8 .eor .A .imm)),
    (0x89, .insn (.bin8 .adc .A .imm)), (0x8a, .insn (.bin8 .or .A .imm)),
    (0x8b, .insn (.bin8 .add .A .imm)), (0x8c, .insn (.cmp16 .X (.imm 4))), (0x8d, .insn .bsr),
    (0x8e, .insn (.ld16 .X (.imm 3))), (0x90, .insn (.bin8 .sub .A (.mem (.direct 4)))),
    (0x91, .insn (.test8 .cmp .A (.mem (.direct 4)))),
    (0x92, .insn (.bin8 .sbc .A (.mem (.direct 4)))),
    (0x93, .insn (.bin16 .subd (.mem (.direct 4)))),
    (0x94, .insn (.bin8 .and .A (.mem (.direct 4)))),
    (0x95, .insn (.test8 .bit .A (.mem (.direct 4)))),
    (0x96, .insn (.ld8 .A (.mem (.direct 4)))), (0x97, .insn (.st8 .A (.direct 4))),
    (0x98, .insn (.bin8 .eor .A (.mem (.direct 4)))),
    (0x99, .insn (.bin8 .adc .A (.mem (.direct 4)))),
    (0x9a, .insn (.bin8 .or .A (.mem (.direct 4)))),
    (0x9b, .insn (.bin8 .add .A (.mem (.direct 4)))),
    (0x9c, .insn (.cmp16 .X (.mem (.direct 4)))), (0x9d, .insn (.jsr (.direct 7))),
    (0x9e, .insn (.ld16 .X (.mem (.direct 4)))), (0x9f, .insn (.st16 .X (.direct 4))),
    (0xa0, .insn (.bin8 .sub .A (.mem .indexed))),
    (0xa1, .insn (.test8 .cmp .A (.mem .indexed))),
    (0xa2, .insn (.bin8 .sbc .A (.mem .indexed))), (0xa3, .insn (.bin16 .subd (.mem .indexed))),
    (0xa4, .insn (.bin8 .and .A (.mem .indexed))),
    (0xa5, .insn (.test8 .bit .A (.mem .indexed))), (0xa6, .insn (.ld8 .A (.mem .indexed))),
    (0xa7, .insn (.st8 .A .indexed)), (0xa8, .insn (.bin8 .eor .A (.mem .indexed))),
    (0xa9, .insn (.bin8 .adc .A (.mem .indexed))), (0xaa, .insn (.bin8 .or .A (.mem .indexed))),
    (0xab, .insn (.bin8 .add .A (.mem .indexed))), (0xac, .insn (.cmp16 .X (.mem .indexed))),
    (0xad, .insn (.jsr (.indexedTick 3))), (0xae, .insn (.ld16 .X (.mem .indexed))),
    (0xaf, .insn (.st16 .X .indexed)), (0xb0, .insn (.bin8 .sub .A (.mem (.extended 5)))),
    (0xb1, .insn (.test8 .cmp .A (.mem (.extended 5)))),
    (0xb2, .insn (.bin8 .sbc .A (.mem (.extended 5)))),
    (0xb3, .insn (.bin16 .subd (.mem (.extended 5)))),
    (0xb4, .insn (.bin8 .and .A (.mem (.extended 5)))),
    (0xb5, .insn (.test8 .bit .A (.mem (.extended 5)))),
    (0xb6, .insn (.ld8 .A (.mem (.extended 5)))), (0xb7, .insn (.st8 .A (.extended 5))),
    (0xb8, .insn (.bin8 .eor .A (.mem (.extended 5)))),
    (0xb9, .insn (.bin8 .adc .A (.mem (.extended 5)))),
    (0xba, .insn (.bin8 .or .A (.mem (.extended 5)))),
    (0xbb, .insn (.bin8 .add .A (.mem (.extended 5)))),
    (0xbc, .insn (.cmp16 .X (.mem (.extended 5)))), (0xbd, .insn (.jsr (.extended 8))),
    (0xbe, .insn (.ld16 .X (.mem (.extended 5)))), (0xbf, .insn (.st16 .X (.extended 5))),
    (0xc0, .insn (.bin8 .sub .B .imm)), (0xc1, .insn (.test8 .cmp .B .imm)),
    (0xc2, .insn (.bin8 .sbc .B .imm)), (0xc3, .insn (.bin16 .addd (.imm 4))),
    (0xc4, .insn (.bin8 .and .B .imm)), (0xc5, .insn (.test8 .bit .B .imm)),
    (0xc6, .insn (.ld8 .B .imm)), (0xc8, .insn (.bin8 .eor .B .imm)),
    (0xc9, .insn (.bin8 .adc .B .imm)), (0xca, .insn (.bin8 .or .B .imm)),
    (0xcb, .insn (.bin8 .add .B .imm)), (0xcc, .insn (.ldd (.imm 3))),
    (0xce, .insn (.ld16 .U (.imm 3))), (0xd0, .insn (.bin8 .sub .B (.mem (.direct 4)))),
    (0xd1, .insn (.test8 .cmp .B (.mem (.direct 4)))),
    (0xd2, .insn (.bin8 .sbc .B (.mem (.direct 4)))),
    (0xd3, .insn (.bin16 .addd (.mem (.direct 4)))),
    (0xd4, .insn (.bin8 .and .B (.mem (.direct 4)))),
    (0xd5, .insn (.test8 .bit .B (.mem (.direct 4)))),
    (0xd6, .insn (.ld8 .B (.mem (.direct 4)))), (0xd7, .insn (.st8 .B (.direct 4))),
    (0xd8, .insn (.bin8 .eor .B (.mem (.direct 4)))),
    (0xd9, .insn (.bin8 .adc .B (.mem (.direct 4)))),
    (0xda, .insn (.bin8 .or .B (.mem (.direct 4)))),
    (0xdb, .insn (.bin8 .add .B (.mem (.direct 4)))), (0xdc, .insn (.ldd (.mem (.direct 4)))),
    (0xdd, .insn (.std (.direct 4))), (0xde, .insn (.ld16 .U (.mem (.direct 4)))),
    (0xdf, .insn (.st16 .U (.direct 4))), (0xe0, .insn (.bin8 .sub .B (.mem .indexed))),
    (0xe1, .insn (.test8 .cmp .B (.mem .indexed))),
    (0xe2, .insn (.bin8 .sbc .B (.mem .indexed))), (0xe3, .insn (.bin16 .addd (.mem .indexed))),
    (0xe4, .insn (.bin8 .and .B (.mem .indexed))),
    (0xe5, .insn (.test8 .bit .B (.mem .indexed))), (0xe6, .insn (.ld8 .B (.mem .indexed))),
    (0xe7, .insn (.st8 .B .indexed)), (0xe8, .insn (.bin8 .eor .B (.mem .indexed))),
    (0xe9, .insn (.bin8 .adc .B (.mem .indexed))), (0xea, .insn (.bin8 .or .B (.mem .indexed))),
    (0xeb, .insn (.bin8 .add .B (.mem .indexed))), (0xec, .insn (.ldd (.mem .indexed))),
    (0xed, .insn (.std .indexed)), (0xee, .insn (.ld16 .U (.mem .indexed))),
    (0xef, .insn (.st16 .U .indexed)), (0xf0, .insn (.bin8 .sub .B (.mem (.extended 5)))),
    (0xf1, .insn (.test8 .cmp .B (.mem (.extended 5)))),
    (0xf2, .insn (.bin8 .sbc .B (.mem (.extended 5)))),
    (0xf3, .insn (.bin16 .addd (.mem (.extended 5)))),
    (0xf4, .insn (.bin8 .and .B (.mem (.extended 5)))),
    (0xf5, .insn (.test8 .bit .B (.mem (.extended 5)))),
    (0xf6, .insn (.ld8 .B (.mem (.extended 5)))), (0xf7, .insn (.st8 .B (.extended 5))),
    (0xf8, .insn (.bin8 .eor .B (.mem (.extended 5)))),
    (0xf9, .insn (.bin8 .adc .B (.mem (.extended 5)))),
    (0xfa, .insn (.bin8 .or .B (.mem (.extended 5)))),
    (0xfb, .insn (.bin8 .add .B (.mem (.extended 5)))),
    (0xfc, .insn (.ldd (.mem (.extended 5)))), (0xfd, .insn (.std (.extended 5))),
    (0xfe, .insn (.ld16 .U (.mem (.extended 5)))), (0xff, .insn (.st16 .U (.extended 5))) ]

/-- Run an entry of the main switch. -/
def Entry.exec : Entry → M σ Unit
  | .insn i => i.exec
  | .page10 => Exec09.page10
  | .page11 => Exec09.page11

lemma cases10_eq : (cases10 : List (Unsigned × M σ Unit)) =
    insns10.map fun c => (c.1, c.2.exec) := rfl

lemma cases11_eq : (cases11 : List (Unsigned × M σ Unit)) =
    insns11.map fun c => (c.1, c.2.exec) := rfl

set_option maxRecDepth 4000 in
lemma cases0_eq : (cases0 : List (Unsigned × M σ Unit)) =
    insns0.map fun c => (c.1, c.2.exec) := rfl

/-! ## Decoding -/

/-- The instruction an opcode after a prefix stands for. -/
def decodePrefixed (insns : List (Unsigned × Insn)) (opcode : Unsigned) : Insn :=
  (insns.lookup opcode).getD .invalidPrefixed

/-- Finish decoding an entry of the main switch; a prefix fetches another byte. -/
def Entry.decode : Option Entry → M σ Insn
  | none => return .invalid
  | some (.insn i) => return i
  | some .page10 => return decodePrefixed insns10 (← immByte)
  | some .page11 => return decodePrefixed insns11 (← immByte)

/-- Fetch and decode an instruction. -/
def decode : M σ Insn := do
  let opcode ← immByte
  Entry.decode (insns0.lookup opcode)

/-- The instruction of an entry that is no prefix. -/
def Entry.insn? : Entry → Option Insn
  | .insn i => some i
  | .page10 => none
  | .page11 => none

/-- Every instruction that can be decoded. -/
def allInsns : List Insn :=
  insns0.filterMap (fun c => c.2.insn?) ++ insns10.map Prod.snd ++ insns11.map Prod.snd ++
    [.invalid, .invalidPrefixed]

lemma decodePrefixed_mem {insns : List (Unsigned × Insn)} (opcode : Unsigned)
    (h : ∀ i ∈ insns.map Prod.snd, i ∈ allInsns) : decodePrefixed insns opcode ∈ allInsns := by
  unfold decodePrefixed
  rcases hl : insns.lookup opcode with _ | i
  · simp [allInsns]
  · exact h i (mem_of_lookup hl)

/-- What is decoded is in the tables or one of the defaults. -/
lemma decode_mem {s t : Cpu σ} {i : Insn} (h : decode s = .ok (i, t)) : i ∈ allInsns := by
  obtain ⟨opcode, s₁, -, k₁⟩ := bind_eq_ok.mp h
  rcases hl : insns0.lookup opcode with _ | (j | _ | _) <;> rw [hl] at k₁
  · cases k₁
    simp [allInsns]
  · cases k₁
    have hm : i ∈ insns0.filterMap fun c => c.2.insn? := by
      obtain ⟨c, hc, hce⟩ := List.mem_map.mp (mem_of_lookup hl)
      exact List.mem_filterMap.mpr ⟨c, hc, by rw [hce]; rfl⟩
    simp [allInsns, hm]
  · obtain ⟨b, s₂, -, k₂⟩ := bind_eq_ok.mp k₁
    cases k₂
    exact decodePrefixed_mem b fun i hi => by simp [allInsns, hi]
  · obtain ⟨b, s₂, -, k₂⟩ := bind_eq_ok.mp k₁
    cases k₂
    exact decodePrefixed_mem b fun i hi => by simp [allInsns, hi]

/-- A prefix switch runs the instruction its table names. -/
lemma switch_prefixed (insns : List (Unsigned × Insn)) (opcode : Unsigned) :
    switch opcode (insns.map fun c => (c.1, c.2.exec)) (simError : M σ Unit) =
      (decodePrefixed insns opcode).exec := by
  rw [switch, lookup_map, decodePrefixed]
  cases insns.lookup opcode <;> rfl

/-- The main switch decodes and runs. -/
lemma switch_cases0 (opcode : Unsigned) :
    switch opcode cases0 (invalidOpcode : M σ Unit) =
      (do (← Entry.decode (insns0.lookup opcode)).exec) := by
  rw [switch, cases0_eq, lookup_map]
  rcases insns0.lookup opcode with _ | (i | _ | _)
  · simp [Entry.decode, Insn.exec]
  · simp [Entry.decode, Entry.exec]
  · simp [Entry.decode, Entry.exec, page10, cases10_eq, switch_prefixed]
  · simp [Entry.decode, Entry.exec, page11, cases11_eq, switch_prefixed]

/-- **One instruction is: remember `PC`, decode, run the instruction, check the interrupt
lines.** -/
lemma cpuInsn_eq : (cpuInsn : M σ Unit) = (do
    modify fun s => { s with iPC := s.PC }
    let i ← decode
    i.exec
    ccCheck) := by
  simp only [cpuInsn, decode, switch_cases0, bind_assoc]

end Exec09
