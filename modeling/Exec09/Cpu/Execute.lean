import Exec09.Cpu.Ops

/-!
# `cpu_execute`

The opcode switch, one entry for each `case`, with the statements of the case in order; the
two prefix bytes lead to switches of their own.  `cpuInsn` is the part of an iteration that runs
one instruction, `cpuIteration` adds the hook and the monitor, and `cpuExecute` is the do-while
loop with its cycle accounting.
-/

namespace Exec09

open Program

variable {σ : Type} [Machine σ]

/-! ## The opcode switch -/

/-- The cases after the prefix `0x10`. -/
def cases10 : List (Unsigned × M σ Unit) :=
  [
    -- long branches
    (0x21, do tick 5; skip 2),
    (0x22, do longBranch (← cond .HI)),
    (0x23, do longBranch (← cond .LS)),
    (0x24, do longBranch (← cond .HS)),
    (0x25, do longBranch (← cond .LO)),
    (0x26, do longBranch (← cond .NE)),
    (0x27, do longBranch (← cond .EQ)),
    (0x28, do longBranch (← cond .VC)),
    (0x29, do longBranch (← cond .VS)),
    (0x2a, do longBranch (← cond .PL)),
    (0x2b, do longBranch (← cond .MI)),
    (0x2c, do longBranch (← cond .GE)),
    (0x2d, do longBranch (← cond .LT)),
    (0x2e, do longBranch (← cond .GT)),
    (0x2f, do longBranch (← cond .LE)),
    (0x3f, swi2),
    -- D and Y
    (0x83, do tick 5; alu (Alu.cmp16 (← rdD) (← immWord))),
    (0x8c, do tick 5; alu (Alu.cmp16 (← rdY) (← immWord))),
    (0x8e, do tick 4; wrY (← alu (Alu.ld16 (← immWord)))),
    (0x93, do direct; tick 5; alu (Alu.cmp16 (← rdD) (← rdmem16Ea)); tick 1),
    (0x9c, do direct; tick 5; alu (Alu.cmp16 (← rdY) (← rdmem16Ea)); tick 1),
    (0x9e, do direct; tick 5; wrY (← alu (Alu.ld16 (← rdmem16Ea)))),
    (0x9f, do direct; tick 5; st16 (← rdY)),
    (0xa3, do tick 1; indexed; alu (Alu.cmp16 (← rdD) (← rdmem16Ea)); tick 1),
    (0xac, do tick 1; indexed; alu (Alu.cmp16 (← rdY) (← rdmem16Ea)); tick 1),
    (0xae, do tick 1; indexed; wrY (← alu (Alu.ld16 (← rdmem16Ea)))),
    (0xaf, do tick 1; indexed; st16 (← rdY)),
    (0xb3, do extended; tick 6; alu (Alu.cmp16 (← rdD) (← rdmem16Ea)); tick 1),
    (0xbc, do extended; tick 6; alu (Alu.cmp16 (← rdY) (← rdmem16Ea)); tick 1),
    (0xbe, do extended; tick 6; wrY (← alu (Alu.ld16 (← rdmem16Ea)))),
    (0xbf, do extended; tick 6; st16 (← rdY)),
    -- S
    (0xce, do tick 4; wrS (← alu (Alu.ld16 (← immWord)))),
    (0xde, do direct; tick 5; wrS (← alu (Alu.ld16 (← rdmem16Ea)))),
    (0xdf, do direct; tick 5; st16 (← rdS)),
    (0xee, do tick 1; indexed; wrS (← alu (Alu.ld16 (← rdmem16Ea)))),
    (0xef, do tick 1; indexed; st16 (← rdS)),
    (0xfe, do extended; tick 6; wrS (← alu (Alu.ld16 (← rdmem16Ea)))),
    (0xff, do extended; tick 6; st16 (← rdS)) ]

/-- The cases after the prefix `0x11`. -/
def cases11 : List (Unsigned × M σ Unit) :=
  [
    (0x3f, swi3),
    (0x83, do tick 5; alu (Alu.cmp16 (← rdU) (← immWord))),
    (0x8c, do tick 5; alu (Alu.cmp16 (← rdS) (← immWord))),
    (0x93, do direct; tick 5; alu (Alu.cmp16 (← rdU) (← rdmem16Ea)); tick 1),
    (0x9c, do direct; tick 5; alu (Alu.cmp16 (← rdS) (← rdmem16Ea)); tick 1),
    (0xa3, do tick 1; indexed; alu (Alu.cmp16 (← rdU) (← rdmem16Ea)); tick 1),
    (0xac, do tick 1; indexed; alu (Alu.cmp16 (← rdS) (← rdmem16Ea)); tick 1),
    (0xb3, do extended; tick 6; alu (Alu.cmp16 (← rdU) (← rdmem16Ea)); tick 1),
    (0xbc, do extended; tick 6; alu (Alu.cmp16 (← rdS) (← rdmem16Ea)); tick 1) ]

/-- The prefix `0x10`. -/
def page10 : M σ Unit := do
  let opcode ← immByte
  switch opcode cases10 simError

/-- The prefix `0x11`. -/
def page11 : M σ Unit := do
  let opcode ← immByte
  switch opcode cases11 simError

/-- The cases of the main switch. -/
def cases0 : List (Unsigned × M σ Unit) :=
  [
    -- read-modify-write, direct
    (0x00, do direct; tick 4; wrmemEa (← unary Alu.neg (← rdmemEa))),
    (0x03, do direct; tick 4; wrmemEa (← unary Alu.com (← rdmemEa))),
    (0x04, do direct; tick 4; wrmemEa (← unary Alu.lsr (← rdmemEa))),
    (0x06, do direct; tick 4; wrmemEa (← unary Alu.ror (← rdmemEa))),
    (0x07, do direct; tick 4; wrmemEa (← unary Alu.asr (← rdmemEa))),
    (0x08, do direct; tick 4; wrmemEa (← unary Alu.asl (← rdmemEa))),
    (0x09, do direct; tick 4; wrmemEa (← unary Alu.rol (← rdmemEa))),
    (0x0a, do direct; tick 4; wrmemEa (← unary Alu.dec (← rdmemEa))),
    (0x0c, do direct; tick 4; wrmemEa (← unary Alu.inc (← rdmemEa))),
    (0x0d, do direct; tick 4; tst (← rdmemEa)),
    (0x0e, do direct; tick 3; wrPC (← rdEa)),
    (0x0f, do direct; tick 4; wrmemEa (← unary Alu.clr (← rdmemEa))),
    (0x10, page10),
    (0x11, page11),
    -- inherent and branches
    (0x12, nop),
    (0x13, sync),
    (0x16, do longBra; tick 5),
    (0x17, longBsr),
    (0x19, daa),
    (0x1a, orcc),
    (0x1c, andcc),
    (0x1d, sex),
    (0x1e, exg),
    (0x1f, tfr),
    -- short branches
    (0x20, do bra; tick 3),
    (0x21, do skip 1; tick 3),
    (0x22, do branch (← cond .HI)),
    (0x23, do branch (← cond .LS)),
    (0x24, do branch (← cond .HS)),
    (0x25, do branch (← cond .LO)),
    (0x26, do branch (← cond .NE)),
    (0x27, do branch (← cond .EQ)),
    (0x28, do branch (← cond .VC)),
    (0x29, do branch (← cond .VS)),
    (0x2a, do branch (← cond .PL)),
    (0x2b, do branch (← cond .MI)),
    (0x2c, do branch (← cond .GE)),
    (0x2d, do branch (← cond .LT)),
    (0x2e, do branch (← cond .GT)),
    (0x2f, do branch (← cond .LE)),
    -- load effective address
    (0x30, do indexed; wrX (← rdEa); wrZ (← rdEa)),
    (0x31, do indexed; wrY (← rdEa); wrZ (← rdEa)),
    (0x32, do indexed; wrS (← rdEa)),
    (0x33, do indexed; wrU (← rdEa)),
    -- stack and inherent
    (0x34, pshs),
    (0x35, puls),
    (0x36, pshu),
    (0x37, pulu),
    (0x39, rts),
    (0x3a, abx),
    (0x3b, rti),
    (0x3c, cwai),
    (0x3d, mul),
    (0x3f, swi),
    -- accumulator A
    (0x40, do wrA (← unary Alu.neg (← rdA))),
    (0x43, do wrA (← unary Alu.com (← rdA))),
    (0x44, do wrA (← unary Alu.lsr (← rdA))),
    (0x46, do wrA (← unary Alu.ror (← rdA))),
    (0x47, do wrA (← unary Alu.asr (← rdA))),
    (0x48, do wrA (← unary Alu.asl (← rdA))),
    (0x49, do wrA (← unary Alu.rol (← rdA))),
    (0x4a, do wrA (← unary Alu.dec (← rdA))),
    (0x4c, do wrA (← unary Alu.inc (← rdA))),
    (0x4d, do tst (← rdA)),
    (0x4f, do wrA (← unary Alu.clr (← rdA))),
    -- accumulator B
    (0x50, do wrB (← unary Alu.neg (← rdB))),
    (0x53, do wrB (← unary Alu.com (← rdB))),
    (0x54, do wrB (← unary Alu.lsr (← rdB))),
    (0x56, do wrB (← unary Alu.ror (← rdB))),
    (0x57, do wrB (← unary Alu.asr (← rdB))),
    (0x58, do wrB (← unary Alu.asl (← rdB))),
    (0x59, do wrB (← unary Alu.rol (← rdB))),
    (0x5a, do wrB (← unary Alu.dec (← rdB))),
    (0x5c, do wrB (← unary Alu.inc (← rdB))),
    (0x5d, do tst (← rdB)),
    (0x5f, do wrB (← unary Alu.clr (← rdB))),
    -- read-modify-write, indexed
    (0x60, do indexed; wrmemEa (← unary Alu.neg (← rdmemEa))),
    (0x63, do indexed; wrmemEa (← unary Alu.com (← rdmemEa))),
    (0x64, do indexed; wrmemEa (← unary Alu.lsr (← rdmemEa))),
    (0x66, do indexed; wrmemEa (← unary Alu.ror (← rdmemEa))),
    (0x67, do indexed; wrmemEa (← unary Alu.asr (← rdmemEa))),
    (0x68, do indexed; wrmemEa (← unary Alu.asl (← rdmemEa))),
    (0x69, do indexed; wrmemEa (← unary Alu.rol (← rdmemEa))),
    (0x6a, do indexed; wrmemEa (← unary Alu.dec (← rdmemEa))),
    (0x6c, do indexed; wrmemEa (← unary Alu.inc (← rdmemEa))),
    (0x6d, do indexed; tst (← rdmemEa)),
    (0x6e, do indexed; tick (-1); wrPC (← rdEa)),
    (0x6f, do indexed; wrmemEa (← unary Alu.clr (← rdmemEa))),
    -- read-modify-write, extended
    (0x70, do extended; tick 5; wrmemEa (← unary Alu.neg (← rdmemEa))),
    (0x73, do extended; tick 5; wrmemEa (← unary Alu.com (← rdmemEa))),
    (0x74, do extended; tick 5; wrmemEa (← unary Alu.lsr (← rdmemEa))),
    (0x76, do extended; tick 5; wrmemEa (← unary Alu.ror (← rdmemEa))),
    (0x77, do extended; tick 5; wrmemEa (← unary Alu.asr (← rdmemEa))),
    (0x78, do extended; tick 5; wrmemEa (← unary Alu.asl (← rdmemEa))),
    (0x79, do extended; tick 5; wrmemEa (← unary Alu.rol (← rdmemEa))),
    (0x7a, do extended; tick 5; wrmemEa (← unary Alu.dec (← rdmemEa))),
    (0x7c, do extended; tick 5; wrmemEa (← unary Alu.inc (← rdmemEa))),
    (0x7d, do extended; tick 5; tst (← rdmemEa)),
    (0x7e, do extended; tick 4; wrPC (← rdEa)),
    (0x7f, do extended; tick 5; wrmemEa (← unary Alu.clr (← rdmemEa))),
    -- A and X, immediate
    (0x80, do tick 2; wrA (← alu (Alu.sub (← rdA) (← immByte)))),
    (0x81, do tick 2; alu (Alu.cmp (← rdA) (← immByte))),
    (0x82, do tick 2; wrA (← alu (Alu.sbc (← rdA) (← immByte)))),
    (0x83, do tick 4; subd (← immWord)),
    (0x84, do tick 2; wrA (← alu (Alu.and (← rdA) (← immByte)))),
    (0x85, do tick 2; alu (Alu.bit (← rdA) (← immByte))),
    (0x86, do tick 2; wrA (← alu (Alu.ld (← immByte)))),
    (0x88, do tick 2; wrA (← alu (Alu.eor (← rdA) (← immByte)))),
    (0x89, do tick 2; wrA (← alu (Alu.adc (← rdA) (← immByte)))),
    (0x8a, do tick 2; wrA (← alu (Alu.or (← rdA) (← immByte)))),
    (0x8b, do tick 2; wrA (← alu (Alu.add (← rdA) (← immByte)))),
    (0x8c, do tick 4; alu (Alu.cmp16 (← rdX) (← immWord))),
    (0x8d, bsr),
    (0x8e, do tick 3; wrX (← alu (Alu.ld16 (← immWord)))),
    -- A and X, direct
    (0x90, do direct; tick 4; wrA (← alu (Alu.sub (← rdA) (← rdmemEa)))),
    (0x91, do direct; tick 4; alu (Alu.cmp (← rdA) (← rdmemEa))),
    (0x92, do direct; tick 4; wrA (← alu (Alu.sbc (← rdA) (← rdmemEa)))),
    (0x93, do direct; tick 4; subd (← rdmem16Ea); tick 1),
    (0x94, do direct; tick 4; wrA (← alu (Alu.and (← rdA) (← rdmemEa)))),
    (0x95, do direct; tick 4; alu (Alu.bit (← rdA) (← rdmemEa))),
    (0x96, do direct; tick 4; wrA (← alu (Alu.ld (← rdmemEa)))),
    (0x97, do direct; tick 4; st (← rdA)),
    (0x98, do direct; tick 4; wrA (← alu (Alu.eor (← rdA) (← rdmemEa)))),
    (0x99, do direct; tick 4; wrA (← alu (Alu.adc (← rdA) (← rdmemEa)))),
    (0x9a, do direct; tick 4; wrA (← alu (Alu.or (← rdA) (← rdmemEa)))),
    (0x9b, do direct; tick 4; wrA (← alu (Alu.add (← rdA) (← rdmemEa)))),
    (0x9c, do direct; tick 4; alu (Alu.cmp16 (← rdX) (← rdmem16Ea)); tick 1),
    (0x9d, do direct; tick 7; jsr),
    (0x9e, do direct; tick 4; wrX (← alu (Alu.ld16 (← rdmem16Ea)))),
    (0x9f, do direct; tick 4; st16 (← rdX)),
    -- A and X, indexed
    (0xa0, do indexed; wrA (← alu (Alu.sub (← rdA) (← rdmemEa)))),
    (0xa1, do indexed; alu (Alu.cmp (← rdA) (← rdmemEa))),
    (0xa2, do indexed; wrA (← alu (Alu.sbc (← rdA) (← rdmemEa)))),
    (0xa3, do indexed; subd (← rdmem16Ea); tick 1),
    (0xa4, do indexed; wrA (← alu (Alu.and (← rdA) (← rdmemEa)))),
    (0xa5, do indexed; alu (Alu.bit (← rdA) (← rdmemEa))),
    (0xa6, do indexed; wrA (← alu (Alu.ld (← rdmemEa)))),
    (0xa7, do indexed; st (← rdA)),
    (0xa8, do indexed; wrA (← alu (Alu.eor (← rdA) (← rdmemEa)))),
    (0xa9, do indexed; wrA (← alu (Alu.adc (← rdA) (← rdmemEa)))),
    (0xaa, do indexed; wrA (← alu (Alu.or (← rdA) (← rdmemEa)))),
    (0xab, do indexed; wrA (← alu (Alu.add (← rdA) (← rdmemEa)))),
    (0xac, do indexed; alu (Alu.cmp16 (← rdX) (← rdmem16Ea)); tick 1),
    (0xad, do indexed; tick 3; jsr),
    (0xae, do indexed; wrX (← alu (Alu.ld16 (← rdmem16Ea)))),
    (0xaf, do indexed; st16 (← rdX)),
    -- A and X, extended
    (0xb0, do extended; tick 5; wrA (← alu (Alu.sub (← rdA) (← rdmemEa)))),
    (0xb1, do extended; tick 5; alu (Alu.cmp (← rdA) (← rdmemEa))),
    (0xb2, do extended; tick 5; wrA (← alu (Alu.sbc (← rdA) (← rdmemEa)))),
    (0xb3, do extended; tick 5; subd (← rdmem16Ea); tick 1),
    (0xb4, do extended; tick 5; wrA (← alu (Alu.and (← rdA) (← rdmemEa)))),
    (0xb5, do extended; tick 5; alu (Alu.bit (← rdA) (← rdmemEa))),
    (0xb6, do extended; tick 5; wrA (← alu (Alu.ld (← rdmemEa)))),
    (0xb7, do extended; tick 5; st (← rdA)),
    (0xb8, do extended; tick 5; wrA (← alu (Alu.eor (← rdA) (← rdmemEa)))),
    (0xb9, do extended; tick 5; wrA (← alu (Alu.adc (← rdA) (← rdmemEa)))),
    (0xba, do extended; tick 5; wrA (← alu (Alu.or (← rdA) (← rdmemEa)))),
    (0xbb, do extended; tick 5; wrA (← alu (Alu.add (← rdA) (← rdmemEa)))),
    (0xbc, do extended; tick 5; alu (Alu.cmp16 (← rdX) (← rdmem16Ea)); tick 1),
    (0xbd, do extended; tick 8; jsr),
    (0xbe, do extended; tick 5; wrX (← alu (Alu.ld16 (← rdmem16Ea)))),
    (0xbf, do extended; tick 5; st16 (← rdX)),
    -- B, D and U, immediate
    (0xc0, do tick 2; wrB (← alu (Alu.sub (← rdB) (← immByte)))),
    (0xc1, do tick 2; alu (Alu.cmp (← rdB) (← immByte))),
    (0xc2, do tick 2; wrB (← alu (Alu.sbc (← rdB) (← immByte)))),
    (0xc3, do tick 4; addd (← immWord)),
    (0xc4, do tick 2; wrB (← alu (Alu.and (← rdB) (← immByte)))),
    (0xc5, do tick 2; alu (Alu.bit (← rdB) (← immByte))),
    (0xc6, do tick 2; wrB (← alu (Alu.ld (← immByte)))),
    (0xc8, do tick 2; wrB (← alu (Alu.eor (← rdB) (← immByte)))),
    (0xc9, do tick 2; wrB (← alu (Alu.adc (← rdB) (← immByte)))),
    (0xca, do tick 2; wrB (← alu (Alu.or (← rdB) (← immByte)))),
    (0xcb, do tick 2; wrB (← alu (Alu.add (← rdB) (← immByte)))),
    (0xcc, do tick 3; ldd (← immWord)),
    (0xce, do tick 3; wrU (← alu (Alu.ld16 (← immWord)))),
    -- B, D and U, direct
    (0xd0, do direct; tick 4; wrB (← alu (Alu.sub (← rdB) (← rdmemEa)))),
    (0xd1, do direct; tick 4; alu (Alu.cmp (← rdB) (← rdmemEa))),
    (0xd2, do direct; tick 4; wrB (← alu (Alu.sbc (← rdB) (← rdmemEa)))),
    (0xd3, do direct; tick 4; addd (← rdmem16Ea); tick 1),
    (0xd4, do direct; tick 4; wrB (← alu (Alu.and (← rdB) (← rdmemEa)))),
    (0xd5, do direct; tick 4; alu (Alu.bit (← rdB) (← rdmemEa))),
    (0xd6, do direct; tick 4; wrB (← alu (Alu.ld (← rdmemEa)))),
    (0xd7, do direct; tick 4; st (← rdB)),
    (0xd8, do direct; tick 4; wrB (← alu (Alu.eor (← rdB) (← rdmemEa)))),
    (0xd9, do direct; tick 4; wrB (← alu (Alu.adc (← rdB) (← rdmemEa)))),
    (0xda, do direct; tick 4; wrB (← alu (Alu.or (← rdB) (← rdmemEa)))),
    (0xdb, do direct; tick 4; wrB (← alu (Alu.add (← rdB) (← rdmemEa)))),
    (0xdc, do direct; tick 4; ldd (← rdmem16Ea)),
    (0xdd, do direct; tick 4; std),
    (0xde, do direct; tick 4; wrU (← alu (Alu.ld16 (← rdmem16Ea)))),
    (0xdf, do direct; tick 4; st16 (← rdU)),
    -- B, D and U, indexed
    (0xe0, do indexed; wrB (← alu (Alu.sub (← rdB) (← rdmemEa)))),
    (0xe1, do indexed; alu (Alu.cmp (← rdB) (← rdmemEa))),
    (0xe2, do indexed; wrB (← alu (Alu.sbc (← rdB) (← rdmemEa)))),
    (0xe3, do indexed; addd (← rdmem16Ea); tick 1),
    (0xe4, do indexed; wrB (← alu (Alu.and (← rdB) (← rdmemEa)))),
    (0xe5, do indexed; alu (Alu.bit (← rdB) (← rdmemEa))),
    (0xe6, do indexed; wrB (← alu (Alu.ld (← rdmemEa)))),
    (0xe7, do indexed; st (← rdB)),
    (0xe8, do indexed; wrB (← alu (Alu.eor (← rdB) (← rdmemEa)))),
    (0xe9, do indexed; wrB (← alu (Alu.adc (← rdB) (← rdmemEa)))),
    (0xea, do indexed; wrB (← alu (Alu.or (← rdB) (← rdmemEa)))),
    (0xeb, do indexed; wrB (← alu (Alu.add (← rdB) (← rdmemEa)))),
    (0xec, do indexed; ldd (← rdmem16Ea)),
    (0xed, do indexed; std),
    (0xee, do indexed; wrU (← alu (Alu.ld16 (← rdmem16Ea)))),
    (0xef, do indexed; st16 (← rdU)),
    -- B, D and U, extended
    (0xf0, do extended; tick 5; wrB (← alu (Alu.sub (← rdB) (← rdmemEa)))),
    (0xf1, do extended; tick 5; alu (Alu.cmp (← rdB) (← rdmemEa))),
    (0xf2, do extended; tick 5; wrB (← alu (Alu.sbc (← rdB) (← rdmemEa)))),
    (0xf3, do extended; tick 5; addd (← rdmem16Ea); tick 1),
    (0xf4, do extended; tick 5; wrB (← alu (Alu.and (← rdB) (← rdmemEa)))),
    (0xf5, do extended; tick 5; alu (Alu.bit (← rdB) (← rdmemEa))),
    (0xf6, do extended; tick 5; wrB (← alu (Alu.ld (← rdmemEa)))),
    (0xf7, do extended; tick 5; st (← rdB)),
    (0xf8, do extended; tick 5; wrB (← alu (Alu.eor (← rdB) (← rdmemEa)))),
    (0xf9, do extended; tick 5; wrB (← alu (Alu.adc (← rdB) (← rdmemEa)))),
    (0xfa, do extended; tick 5; wrB (← alu (Alu.or (← rdB) (← rdmemEa)))),
    (0xfb, do extended; tick 5; wrB (← alu (Alu.add (← rdB) (← rdmemEa)))),
    (0xfc, do extended; tick 5; ldd (← rdmem16Ea)),
    (0xfd, do extended; tick 5; std),
    (0xfe, do extended; tick 5; wrU (← alu (Alu.ld16 (← rdmem16Ea)))),
    (0xff, do extended; tick 5; st16 (← rdU)) ]

/-- The default of the main switch: charge, report, and go back to the opcode. -/
def invalidOpcode : M σ Unit := do
  tick 2
  simError
  wrPC (← reads Cpu.iPC)

/-! ## One instruction -/

/-- The check that ends each iteration. -/
def ccCheck : M σ Unit := do
  whenever ((← reads Cpu.ccChanged) ≠ 0) ccModified

/-- One instruction of the loop body: fetch, dispatch and the final check. -/
def cpuInsn : M σ Unit := do
  modify fun s => { s with iPC := s.PC }
  let opcode ← immByte
  switch opcode cases0 invalidOpcode
  ccCheck

/-! ## The loop -/

/-- `command_insn_hook ()` and `check_break ()`. -/
def insnHook : M σ Unit := access Machine.insnHook

section Loop

-- `monitor6809`, a session with the debugger; its result says whether to leave the loop.
variable (monitor6809 : M σ Bool)

/-- One iteration.  The result is `false` after `goto cpu_exit`. -/
def cpuIteration : M σ Bool := do
  insnHook
  let leave ← if (← reads Cpu.monitorOn) then monitor6809 else pure false
  if leave then
    return false
  else
    cpuInsn
    return true

/-- The do-while loop, for at most the given number of iterations; `none` when they do not
suffice. -/
def cpuLoop : Nat → M σ (Option Unit)
  | 0 => return none
  | n + 1 => do
    if ← cpuIteration monitor6809 then
      if (← reads Cpu.cpuClk) > 0 then cpuLoop n else return some ()
    else
      return some ()

/-- The conversion of a `long` to the result type `int`. -/
def toInt (v : Int) : Int := v.bmod (2 ^ 32)

/-- Execute code for a certain number of cycles. -/
def cpuExecute (fuel : Nat) (cycles : Int) : M σ (Option Int) := do
  modify fun s => { s with cpuPeriod := cycles, cpuClk := cycles }
  match ← cpuLoop monitor6809 fuel with
  | none => return none
  | some () =>
    modify fun s => { s with cpuPeriod := s.cpuPeriod - s.cpuClk }
    modify fun s => { s with cpuClk := s.cpuPeriod }
    return some (toInt (← reads Cpu.cpuPeriod))

end Loop

/-! ## Reset -/

/-- `cpu_reset`. -/
def cpuReset : M σ Unit := do
  modify fun s =>
    { s with
      X := 0, Y := 0, S := 0, U := 0, A := 0, B := 0, DP := 0
      flags := { H := 0, N := 0, Z := 1, OV := 0, C := 0 }
      EFI := F_FLAG ||| I_FLAG }
  wrPC (← read16 0xfffe)
  modify fun s => { s with world := Machine.cpuIsRunning s.world }

end Exec09
