import Exec09.Machine.Bus

/-!
# The disassembler

`dasm` of `monitor.c` reads the instruction at an absolute address and returns its text and the
number of its bytes.  It reads as the debugger does, so it runs on the machine and may change it.
`cmd_next` relies on the number.

`sprintf` and the character tables are spelled out; `sym_lookup (&program_symtab, ..)` is a
parameter.
-/

namespace Exec09

/-! ## Tables -/

/-- `enum addr_mode`. -/
inductive AddrMode
  | illegal | implied | immByte | immWord | direct | extended | indexed | relByte | relWord
  | regPost | sysPost | usrPost
  deriving DecidableEq, Repr

/-- `enum opcode`. -/
inductive Opcode
  | undoc | abx | adca | adcb | adda | addb | addd | anda | andb | andcc | asla | aslb | asl
  | asra | asrb | asr | bcc | lbcc | bcs | lbcs | beq | lbeq | bge | lbge | bgt | lbgt | bhi
  | lbhi | bita | bitb | ble | lble | bls | lbls | blt | lblt | bmi | lbmi | bne | lbne | bpl
  | lbpl | bra | lbra | brn | lbrn | bsr | lbsr | bvc | lbvc | bvs | lbvs | clra | clrb | clr
  | cmpa | cmpb | cmpd | cmps | cmpu | cmpx | cmpy | coma | comb | com | cwai | daa | deca | decb
  | dec | eora | eorb | exg | inca | incb | inc | jmp | jsr | lda | ldb | ldd | lds | ldu | ldx
  | ldy | leas | leau | leax | leay | lsra | lsrb | lsr | mul | nega | negb | neg | nop | ora
  | orb | orcc | pshs | pshu | puls | pulu | rola | rolb | rol | rora | rorb | ror | rti | rts
  | sbca | sbcb | sex | sta | stb | std | sts | stu | stx | sty | suba | subb | subd | swi | swi2
  | swi3 | sync | tfr | tsta | tstb | tst | reset

/-- The table `mne`. -/
def Opcode.mne : Opcode → String
  | .undoc => "???" | .abx => "ABX" | .adca => "ADCA" | .adcb => "ADCB" | .adda => "ADDA"
  | .addb => "ADDB" | .addd => "ADDD" | .anda => "ANDA" | .andb => "ANDB" | .andcc => "ANDCC"
  | .asla => "ASLA" | .aslb => "ASLB" | .asl => "ASL" | .asra => "ASRA" | .asrb => "ASRB"
  | .asr => "ASR" | .bcc => "BCC" | .lbcc => "LBCC" | .bcs => "BCS" | .lbcs => "LBCS"
  | .beq => "BEQ" | .lbeq => "LBEQ" | .bge => "BGE" | .lbge => "LBGE" | .bgt => "BGT"
  | .lbgt => "LBGT" | .bhi => "BHI" | .lbhi => "LBHI" | .bita => "BITA" | .bitb => "BITB"
  | .ble => "BLE" | .lble => "LBLE" | .bls => "BLS" | .lbls => "LBLS" | .blt => "BLT"
  | .lblt => "LBLT" | .bmi => "BMI" | .lbmi => "LBMI" | .bne => "BNE" | .lbne => "LBNE"
  | .bpl => "BPL" | .lbpl => "LBPL" | .bra => "BRA" | .lbra => "LBRA" | .brn => "BRN"
  | .lbrn => "LBRN" | .bsr => "BSR" | .lbsr => "LBSR" | .bvc => "BVC" | .lbvc => "LBVC"
  | .bvs => "BVS" | .lbvs => "LBVS" | .clra => "CLRA" | .clrb => "CLRB" | .clr => "CLR"
  | .cmpa => "CMPA" | .cmpb => "CMPB" | .cmpd => "CMPD" | .cmps => "CMPS" | .cmpu => "CMPU"
  | .cmpx => "CMPX" | .cmpy => "CMPY" | .coma => "COMA" | .comb => "COMB" | .com => "COM"
  | .cwai => "CWAI" | .daa => "DAA" | .deca => "DECA" | .decb => "DECB" | .dec => "DEC"
  | .eora => "EORA" | .eorb => "EORB" | .exg => "EXG" | .inca => "INCA" | .incb => "INCB"
  | .inc => "INC" | .jmp => "JMP" | .jsr => "JSR" | .lda => "LDA" | .ldb => "LDB" | .ldd => "LDD"
  | .lds => "LDS" | .ldu => "LDU" | .ldx => "LDX" | .ldy => "LDY" | .leas => "LEAS"
  | .leau => "LEAU" | .leax => "LEAX" | .leay => "LEAY" | .lsra => "LSRA" | .lsrb => "LSRB"
  | .lsr => "LSR" | .mul => "MUL" | .nega => "NEGA" | .negb => "NEGB" | .neg => "NEG"
  | .nop => "NOP" | .ora => "ORA" | .orb => "ORB" | .orcc => "ORCC" | .pshs => "PSHS"
  | .pshu => "PSHU" | .puls => "PULS" | .pulu => "PULU" | .rola => "ROLA" | .rolb => "ROLB"
  | .rol => "ROL" | .rora => "RORA" | .rorb => "RORB" | .ror => "ROR" | .rti => "RTI"
  | .rts => "RTS" | .sbca => "SBCA" | .sbcb => "SBCB" | .sex => "SEX" | .sta => "STA"
  | .stb => "STB" | .std => "STD" | .sts => "STS" | .stu => "STU" | .stx => "STX" | .sty => "STY"
  | .suba => "SUBA" | .subb => "SUBB" | .subd => "SUBD" | .swi => "SWI" | .swi2 => "SWI2"
  | .swi3 => "SWI3" | .sync => "SYNC" | .tfr => "TFR" | .tsta => "TSTA" | .tstb => "TSTB"
  | .tst => "TST" | .reset => "RESET"

/-- `opcode_t`. -/
structure OpcodeT where
  code : Opcode
  mode : AddrMode

/-- The table `codes`; an opcode that is not listed is `{_undoc, _illegal}`. -/
def codes : List (U8 × OpcodeT) :=
  [ (0x00, ⟨.neg, .direct⟩), (0x03, ⟨.com, .direct⟩), (0x04, ⟨.lsr, .direct⟩),
    (0x06, ⟨.ror, .direct⟩), (0x07, ⟨.asr, .direct⟩), (0x08, ⟨.asl, .direct⟩),
    (0x09, ⟨.rol, .direct⟩), (0x0a, ⟨.dec, .direct⟩), (0x0c, ⟨.inc, .direct⟩),
    (0x0d, ⟨.tst, .direct⟩), (0x0e, ⟨.jmp, .direct⟩), (0x0f, ⟨.clr, .direct⟩),
    (0x12, ⟨.nop, .implied⟩), (0x13, ⟨.sync, .implied⟩), (0x16, ⟨.lbra, .relWord⟩),
    (0x17, ⟨.lbsr, .relWord⟩), (0x19, ⟨.daa, .implied⟩), (0x1a, ⟨.orcc, .immByte⟩),
    (0x1c, ⟨.andcc, .immByte⟩), (0x1d, ⟨.sex, .implied⟩), (0x1e, ⟨.exg, .regPost⟩),
    (0x1f, ⟨.tfr, .regPost⟩), (0x20, ⟨.bra, .relByte⟩), (0x21, ⟨.brn, .relByte⟩),
    (0x22, ⟨.bhi, .relByte⟩), (0x23, ⟨.bls, .relByte⟩), (0x24, ⟨.bcc, .relByte⟩),
    (0x25, ⟨.bcs, .relByte⟩), (0x26, ⟨.bne, .relByte⟩), (0x27, ⟨.beq, .relByte⟩),
    (0x28, ⟨.bvc, .relByte⟩), (0x29, ⟨.bvs, .relByte⟩), (0x2a, ⟨.bpl, .relByte⟩),
    (0x2b, ⟨.bmi, .relByte⟩), (0x2c, ⟨.bge, .relByte⟩), (0x2d, ⟨.blt, .relByte⟩),
    (0x2e, ⟨.bgt, .relByte⟩), (0x2f, ⟨.ble, .relByte⟩), (0x30, ⟨.leax, .indexed⟩),
    (0x31, ⟨.leay, .indexed⟩), (0x32, ⟨.leas, .indexed⟩), (0x33, ⟨.leau, .indexed⟩),
    (0x34, ⟨.pshs, .sysPost⟩), (0x35, ⟨.puls, .sysPost⟩), (0x36, ⟨.pshu, .usrPost⟩),
    (0x37, ⟨.pulu, .usrPost⟩), (0x39, ⟨.rts, .implied⟩), (0x3a, ⟨.abx, .implied⟩),
    (0x3b, ⟨.rti, .implied⟩), (0x3c, ⟨.cwai, .immByte⟩), (0x3d, ⟨.mul, .implied⟩),
    (0x3e, ⟨.reset, .implied⟩), (0x3f, ⟨.swi, .implied⟩), (0x40, ⟨.nega, .implied⟩),
    (0x43, ⟨.coma, .implied⟩), (0x44, ⟨.lsra, .implied⟩), (0x46, ⟨.rora, .implied⟩),
    (0x47, ⟨.asra, .implied⟩), (0x48, ⟨.asla, .implied⟩), (0x49, ⟨.rola, .implied⟩),
    (0x4a, ⟨.deca, .implied⟩), (0x4c, ⟨.inca, .implied⟩), (0x4d, ⟨.tsta, .implied⟩),
    (0x4f, ⟨.clra, .implied⟩), (0x50, ⟨.negb, .implied⟩), (0x53, ⟨.comb, .implied⟩),
    (0x54, ⟨.lsrb, .implied⟩), (0x56, ⟨.rorb, .implied⟩), (0x57, ⟨.asrb, .implied⟩),
    (0x58, ⟨.aslb, .implied⟩), (0x59, ⟨.rolb, .implied⟩), (0x5a, ⟨.decb, .implied⟩),
    (0x5c, ⟨.incb, .implied⟩), (0x5d, ⟨.tstb, .implied⟩), (0x5f, ⟨.clrb, .implied⟩),
    (0x60, ⟨.neg, .indexed⟩), (0x63, ⟨.com, .indexed⟩), (0x64, ⟨.lsr, .indexed⟩),
    (0x66, ⟨.ror, .indexed⟩), (0x67, ⟨.asr, .indexed⟩), (0x68, ⟨.asl, .indexed⟩),
    (0x69, ⟨.rol, .indexed⟩), (0x6a, ⟨.dec, .indexed⟩), (0x6c, ⟨.inc, .indexed⟩),
    (0x6d, ⟨.tst, .indexed⟩), (0x6e, ⟨.jmp, .indexed⟩), (0x6f, ⟨.clr, .indexed⟩),
    (0x70, ⟨.neg, .extended⟩), (0x73, ⟨.com, .extended⟩), (0x74, ⟨.lsr, .extended⟩),
    (0x76, ⟨.ror, .extended⟩), (0x77, ⟨.asr, .extended⟩), (0x78, ⟨.asl, .extended⟩),
    (0x79, ⟨.rol, .extended⟩), (0x7a, ⟨.dec, .extended⟩), (0x7c, ⟨.inc, .extended⟩),
    (0x7d, ⟨.tst, .extended⟩), (0x7e, ⟨.jmp, .extended⟩), (0x7f, ⟨.clr, .extended⟩),
    (0x80, ⟨.suba, .immByte⟩), (0x81, ⟨.cmpa, .immByte⟩), (0x82, ⟨.sbca, .immByte⟩),
    (0x83, ⟨.subd, .immWord⟩), (0x84, ⟨.anda, .immByte⟩), (0x85, ⟨.bita, .immByte⟩),
    (0x86, ⟨.lda, .immByte⟩), (0x88, ⟨.eora, .immByte⟩), (0x89, ⟨.adca, .immByte⟩),
    (0x8a, ⟨.ora, .immByte⟩), (0x8b, ⟨.adda, .immByte⟩), (0x8c, ⟨.cmpx, .immWord⟩),
    (0x8d, ⟨.bsr, .relByte⟩), (0x8e, ⟨.ldx, .immWord⟩), (0x90, ⟨.suba, .direct⟩),
    (0x91, ⟨.cmpa, .direct⟩), (0x92, ⟨.sbca, .direct⟩), (0x93, ⟨.subd, .direct⟩),
    (0x94, ⟨.anda, .direct⟩), (0x95, ⟨.bita, .direct⟩), (0x96, ⟨.lda, .direct⟩),
    (0x97, ⟨.sta, .direct⟩), (0x98, ⟨.eora, .direct⟩), (0x99, ⟨.adca, .direct⟩),
    (0x9a, ⟨.ora, .direct⟩), (0x9b, ⟨.adda, .direct⟩), (0x9c, ⟨.cmpx, .direct⟩),
    (0x9d, ⟨.jsr, .direct⟩), (0x9e, ⟨.ldx, .direct⟩), (0x9f, ⟨.stx, .direct⟩),
    (0xa0, ⟨.suba, .indexed⟩), (0xa1, ⟨.cmpa, .indexed⟩), (0xa2, ⟨.sbca, .indexed⟩),
    (0xa3, ⟨.subd, .indexed⟩), (0xa4, ⟨.anda, .indexed⟩), (0xa5, ⟨.bita, .indexed⟩),
    (0xa6, ⟨.lda, .indexed⟩), (0xa7, ⟨.sta, .indexed⟩), (0xa8, ⟨.eora, .indexed⟩),
    (0xa9, ⟨.adca, .indexed⟩), (0xaa, ⟨.ora, .indexed⟩), (0xab, ⟨.adda, .indexed⟩),
    (0xac, ⟨.cmpx, .indexed⟩), (0xad, ⟨.jsr, .indexed⟩), (0xae, ⟨.ldx, .indexed⟩),
    (0xaf, ⟨.stx, .indexed⟩), (0xb0, ⟨.suba, .extended⟩), (0xb1, ⟨.cmpa, .extended⟩),
    (0xb2, ⟨.sbca, .extended⟩), (0xb3, ⟨.subd, .extended⟩), (0xb4, ⟨.anda, .extended⟩),
    (0xb5, ⟨.bita, .extended⟩), (0xb6, ⟨.lda, .extended⟩), (0xb7, ⟨.sta, .extended⟩),
    (0xb8, ⟨.eora, .extended⟩), (0xb9, ⟨.adca, .extended⟩), (0xba, ⟨.ora, .extended⟩),
    (0xbb, ⟨.adda, .extended⟩), (0xbc, ⟨.cmpx, .extended⟩), (0xbd, ⟨.jsr, .extended⟩),
    (0xbe, ⟨.ldx, .extended⟩), (0xbf, ⟨.stx, .extended⟩), (0xc0, ⟨.subb, .immByte⟩),
    (0xc1, ⟨.cmpb, .immByte⟩), (0xc2, ⟨.sbcb, .immByte⟩), (0xc3, ⟨.addd, .immWord⟩),
    (0xc4, ⟨.andb, .immByte⟩), (0xc5, ⟨.bitb, .immByte⟩), (0xc6, ⟨.ldb, .immByte⟩),
    (0xc8, ⟨.eorb, .immByte⟩), (0xc9, ⟨.adcb, .immByte⟩), (0xca, ⟨.orb, .immByte⟩),
    (0xcb, ⟨.addb, .immByte⟩), (0xcc, ⟨.ldd, .immWord⟩), (0xce, ⟨.ldu, .immWord⟩),
    (0xd0, ⟨.subb, .direct⟩), (0xd1, ⟨.cmpb, .direct⟩), (0xd2, ⟨.sbcb, .direct⟩),
    (0xd3, ⟨.addd, .direct⟩), (0xd4, ⟨.andb, .direct⟩), (0xd5, ⟨.bitb, .direct⟩),
    (0xd6, ⟨.ldb, .direct⟩), (0xd7, ⟨.stb, .direct⟩), (0xd8, ⟨.eorb, .direct⟩),
    (0xd9, ⟨.adcb, .direct⟩), (0xda, ⟨.orb, .direct⟩), (0xdb, ⟨.addb, .direct⟩),
    (0xdc, ⟨.ldd, .direct⟩), (0xdd, ⟨.std, .direct⟩), (0xde, ⟨.ldu, .direct⟩),
    (0xdf, ⟨.stu, .direct⟩), (0xe0, ⟨.subb, .indexed⟩), (0xe1, ⟨.cmpb, .indexed⟩),
    (0xe2, ⟨.sbcb, .indexed⟩), (0xe3, ⟨.addd, .indexed⟩), (0xe4, ⟨.andb, .indexed⟩),
    (0xe5, ⟨.bitb, .indexed⟩), (0xe6, ⟨.ldb, .indexed⟩), (0xe7, ⟨.stb, .indexed⟩),
    (0xe8, ⟨.eorb, .indexed⟩), (0xe9, ⟨.adcb, .indexed⟩), (0xea, ⟨.orb, .indexed⟩),
    (0xeb, ⟨.addb, .indexed⟩), (0xec, ⟨.ldd, .indexed⟩), (0xed, ⟨.std, .indexed⟩),
    (0xee, ⟨.ldu, .indexed⟩), (0xef, ⟨.stu, .indexed⟩), (0xf0, ⟨.subb, .extended⟩),
    (0xf1, ⟨.cmpb, .extended⟩), (0xf2, ⟨.sbcb, .extended⟩), (0xf3, ⟨.addd, .extended⟩),
    (0xf4, ⟨.andb, .extended⟩), (0xf5, ⟨.bitb, .extended⟩), (0xf6, ⟨.ldb, .extended⟩),
    (0xf7, ⟨.stb, .extended⟩), (0xf8, ⟨.eorb, .extended⟩), (0xf9, ⟨.adcb, .extended⟩),
    (0xfa, ⟨.orb, .extended⟩), (0xfb, ⟨.addb, .extended⟩), (0xfc, ⟨.ldd, .extended⟩),
    (0xfd, ⟨.std, .extended⟩), (0xfe, ⟨.ldu, .extended⟩), (0xff, ⟨.stu, .extended⟩) ]

/-- The table `codes10`, for the opcodes behind the prefix `0x10`. -/
def codes10 : List (U8 × OpcodeT) :=
  [ (0x21, ⟨.lbrn, .relWord⟩), (0x22, ⟨.lbhi, .relWord⟩), (0x23, ⟨.lbls, .relWord⟩),
    (0x24, ⟨.lbcc, .relWord⟩), (0x25, ⟨.lbcs, .relWord⟩), (0x26, ⟨.lbne, .relWord⟩),
    (0x27, ⟨.lbeq, .relWord⟩), (0x28, ⟨.lbvc, .relWord⟩), (0x29, ⟨.lbvs, .relWord⟩),
    (0x2a, ⟨.lbpl, .relWord⟩), (0x2b, ⟨.lbmi, .relWord⟩), (0x2c, ⟨.lbge, .relWord⟩),
    (0x2d, ⟨.lblt, .relWord⟩), (0x2e, ⟨.lbgt, .relWord⟩), (0x2f, ⟨.lble, .relWord⟩),
    (0x3f, ⟨.swi2, .implied⟩), (0x83, ⟨.cmpd, .immWord⟩), (0x8c, ⟨.cmpy, .immWord⟩),
    (0x8e, ⟨.ldy, .immWord⟩), (0x93, ⟨.cmpd, .direct⟩), (0x9c, ⟨.cmpy, .direct⟩),
    (0x9e, ⟨.ldy, .direct⟩), (0x9f, ⟨.sty, .direct⟩), (0xa3, ⟨.cmpd, .indexed⟩),
    (0xac, ⟨.cmpy, .indexed⟩), (0xae, ⟨.ldy, .indexed⟩), (0xaf, ⟨.sty, .indexed⟩),
    (0xb3, ⟨.cmpd, .extended⟩), (0xbc, ⟨.cmpy, .extended⟩), (0xbe, ⟨.ldy, .extended⟩),
    (0xbf, ⟨.sty, .extended⟩), (0xce, ⟨.lds, .immWord⟩), (0xde, ⟨.lds, .direct⟩),
    (0xdf, ⟨.sts, .direct⟩), (0xee, ⟨.lds, .indexed⟩), (0xef, ⟨.sts, .indexed⟩),
    (0xfe, ⟨.lds, .extended⟩), (0xff, ⟨.sts, .extended⟩) ]

/-- The table `codes11`, for the opcodes behind the prefix `0x11`. -/
def codes11 : List (U8 × OpcodeT) :=
  [ (0x3f, ⟨.swi3, .implied⟩), (0x83, ⟨.cmpu, .immWord⟩), (0x8c, ⟨.cmps, .immWord⟩),
    (0x93, ⟨.cmpu, .direct⟩), (0x9c, ⟨.cmps, .direct⟩), (0xa3, ⟨.cmpu, .indexed⟩),
    (0xac, ⟨.cmps, .indexed⟩), (0xb3, ⟨.cmpu, .extended⟩), (0xbc, ⟨.cmps, .extended⟩) ]

/-- An entry of one of the tables. -/
def opcodeAt (table : List (U8 × OpcodeT)) (op : U8) : OpcodeT :=
  (table.lookup op).getD ⟨.undoc, .illegal⟩

/-- The table `reg`. -/
def regNames : List String :=
  [ "D", "X", "Y", "U", "S", "PC", "??", "??", "A", "B", "CC", "DP", "??", "??", "??", "??" ]

/-- The table `index_reg`. -/
def indexRegNames : List String := ["X", "Y", "U", "S"]

/-- The table `off4`: the 5-bit offsets as signed numbers. -/
def off4 (n : Nat) : String := if n < 16 then toString n else "-" ++ toString (32 - n)

/-! ## Formats -/

/-- The conversion `%0nX`. -/
def formatHex (n x : Nat) : String :=
  let digits := (Nat.toDigits 16 x).map Char.toUpper
  String.ofList (List.replicate (n - digits.length) '0' ++ digits)

/-- The conversion `%-n.ns`. -/
def formatField (n : Nat) (text : String) : String :=
  String.ofList ((text.toList ++ List.replicate n ' ').take n)

/-- `absolute_addr_name`.  `%X` takes the low 32 bits of its argument. -/
def absoluteAddrName (symLookup : BitVec 64 → Option String) (addr : BitVec 64) : String :=
  let text := formatHex 2 ((addr >>> 28).setWidth 32).toNat ++ ":0x" ++
    formatHex 4 (addr &&& 0xffffff).toNat
  match symLookup addr with
  | some name => text ++ "  <" ++ formatField 16 name ++ ">"
  | none => text

/-! ## Reading -/

/-- What `dasm` works on: its variable `pc` and the machine, with what reading has signalled.
`target` remembers the address of which the text says the name. -/
structure Dasm (ι : Type) where
  pc : BitVec 64
  bus : Bus ι
  signals : List Signal
  target : Option (BitVec 64)

abbrev DasmM (ι : Type) := StateT (Dasm ι) Option

namespace Dasm

variable {ι : Type} [Board ι]

-- The processor the devices see, and `sym_lookup (&program_symtab, ..)`.
variable (v : View) (symLookup : BitVec 64 → Option String)

def absRead8 (addr : BitVec 64) : DasmM ι U8 := fun d => do
  let r ← d.bus.absRead8 v addr
  return (r.val, { d with bus := r.world, signals := d.signals ++ r.signals })

/-- `abs_read8 (pc++)`. -/
def fetch8 : DasmM ι U8 := do
  let pc := (← get).pc
  modify fun d => { d with pc := d.pc + 1 }
  absRead8 v pc

/-- `(pc += 2, abs_read16 (pc-2))`. -/
def fetch16 : DasmM ι U16 := do
  modify fun d => { d with pc := d.pc + 2 }
  let pc := (← get).pc
  let hi ← absRead8 v (pc - 2)
  let lo ← absRead8 v (pc - 2 + 1)
  return hi ++ lo

/-- `monitor_addr_name`; `to_absolute` faults where no device responds. -/
def monitorAddrName (addr : Unsigned) : DasmM ι String := do
  let b := (← get).bus
  let fault :=
    if b.noResponse (b.findMap addr).devid then b.doFault v addr .noResponse else []
  modify fun d => { d with signals := d.signals ++ fault }
  let text := "0x" ++ formatHex 4 addr.toNat
  match symLookup (b.toAbsolute addr) with
  | some name => return text ++ "  <" ++ name ++ ">"
  | none => return text

/-! ## Operands -/

/-- The opcode, behind its prefix if it has one, and its entry. -/
def fetchOpcode : DasmM ι OpcodeT := do
  let op ← fetch8 v
  if op = 0x10 then
    return opcodeAt codes10 (← fetch8 v)
  else if op = 0x11 then
    return opcodeAt codes11 (← fetch8 v)
  else
    return opcodeAt codes op

/-- The case `_indexed`, once it has the postbyte. -/
def indexedOperand (op : U8) : DasmM ι String :=
  let R := indexRegNames.getD ((op >>> 5) &&& 0x3).toNat ""
  if op &&& 0x80 = 0 then
    return off4 (op &&& 0x1f).toNat ++ "," ++ R
  else
    match (op &&& 0x1f).toNat with
    | 0x00 => return "," ++ R ++ "+"
    | 0x01 => return "," ++ R ++ "++"
    | 0x02 => return ",-" ++ R
    | 0x03 => return ",--" ++ R
    | 0x04 => return "," ++ R
    | 0x05 => return "B," ++ R
    | 0x06 => return "A," ++ R
    | 0x08 => return "$" ++ formatHex 2 (← fetch8 v).toNat ++ "," ++ R
    | 0x09 => return "$" ++ formatHex 4 (← fetch16 v).toNat ++ "," ++ R
    | 0x0b => return "D," ++ R
    | 0x0c => return "$" ++ formatHex 2 (← fetch8 v).toNat ++ ",PC"
    | 0x0d => return "$" ++ formatHex 4 (← fetch16 v).toNat ++ ",PC"
    | 0x11 => return "[," ++ R ++ "++]"
    | 0x13 => return "[,--" ++ R ++ "]"
    | 0x14 => return "[," ++ R ++ "]"
    | 0x15 => return "[B," ++ R ++ "]"
    | 0x16 => return "[A," ++ R ++ "]"
    | 0x18 => return "[$" ++ formatHex 2 (← fetch8 v).toNat ++ "," ++ R ++ "]"
    | 0x19 => return "[$" ++ formatHex 4 (← fetch16 v).toNat ++ "," ++ R ++ "]"
    | 0x1b => return "[D," ++ R ++ "]"
    | 0x1c => return "[$" ++ formatHex 2 (← fetch8 v).toNat ++ ",PC]"
    | 0x1d => return "[$" ++ formatHex 4 (← fetch16 v).toNat ++ ",PC]"
    | 0x1f => return "[" ++ (← monitorAddrName v symLookup ((← fetch16 v).setWidth 32)) ++ "]"
    | _ => return "???"

/-- The registers of a push or pull, each with a comma behind it. -/
def stackList (am : AddrMode) (op : U8) : String :=
  (if op &&& 0x80 ≠ 0 then "PC," else "") ++
  (if op &&& 0x40 ≠ 0 then (if am = .usrPost then "S," else "U,") else "") ++
  (if op &&& 0x20 ≠ 0 then "Y," else "") ++
  (if op &&& 0x10 ≠ 0 then "X," else "") ++
  (if op &&& 0x08 ≠ 0 then "DP," else "") ++
  (if op &&& 0x06 = 0x06 then "D,"
    else (if op &&& 0x04 ≠ 0 then "B," else "") ++ (if op &&& 0x02 ≠ 0 then "A," else "")) ++
  (if op &&& 0x01 ≠ 0 then "CC," else "")

/-- The address a relative branch names: the sum of the operand and `pc` behind it.  In
`fetch16 () + pc` the order is the compiler's choice; here the operand goes first. -/
def branchTarget (operand : BitVec 64) : DasmM ι (BitVec 64) := do
  let addr := operand + (← get).pc
  modify fun d => { d with target := some addr }
  return addr

/-- `switch (am)`: the text, with `buf` before it.  The last case writes a NUL over the last
character there is, also when no register was named. -/
def operand (am : AddrMode) (buf : String) : DasmM ι String := do
  match am with
  | .illegal => return buf ++ "???"
  | .implied => return buf
  | .immByte => return buf ++ "#$" ++ formatHex 2 (← fetch8 v).toNat
  | .immWord => return buf ++ "#$" ++ formatHex 4 (← fetch16 v).toNat
  | .direct => return buf ++ "<" ++ (← monitorAddrName v symLookup ((← fetch8 v).setWidth 32))
  | .extended => return buf ++ (← monitorAddrName v symLookup ((← fetch16 v).setWidth 32))
  | .indexed => return buf ++ (← indexedOperand v symLookup (← fetch8 v))
  | .relByte =>
    return buf ++ absoluteAddrName symLookup (← branchTarget ((← fetch8 v).signExtend 64))
  | .relWord =>
    return buf ++ absoluteAddrName symLookup (← branchTarget ((← fetch16 v).setWidth 64))
  | .regPost =>
    let op ← fetch8 v
    return buf ++ regNames.getD (op >>> 4).toNat "" ++ "," ++ regNames.getD (op &&& 15).toNat ""
  | .usrPost | .sysPost =>
    let text := buf ++ stackList am (← fetch8 v)
    return String.ofList text.toList.dropLast

end Dasm

/-! ## `dasm` -/

/-- The text in `buf`, the absolute address it ends with if it is a branch, the result of `dasm`, and
the machine once it has been read. -/
structure Disassembly (ι : Type) where
  text : String
  target : Option (BitVec 64)
  length : Unsigned
  bus : Bus ι
  signals : List Signal

section

variable {ι : Type} [Board ι] (v : View) (symLookup : BitVec 64 → Option String)

/-- Disassemble the instruction at an absolute address; `none` if it leads to no device. -/
def dasm (opc : BitVec 64) (b : Bus ι) : Option (Disassembly ι) :=
  let program : DasmM ι String := do
    let op ← Dasm.fetchOpcode v
    Dasm.operand v symLookup op.mode (formatField 6 op.code.mne)
  (program.run ⟨opc, b, [], none⟩).map fun r =>
    ⟨r.1, r.2.target, (r.2.pc - opc).setWidth 32, r.2.bus, r.2.signals⟩

/-- Where `cmd_next` sets its temporary breakpoint. -/
def cmdNextAddr (b : Bus ι) : Option (BitVec 64) :=
  let addr := b.toAbsolute v.pc
  (dasm v symLookup addr b).map fun r => addr + r.length.signExtend 64

end

end Exec09
