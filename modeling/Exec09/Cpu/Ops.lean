import Exec09.Cpu.Alu
import Exec09.Cpu.Bus

/-!
# Addressing modes and instruction helpers

The functions of `6809.c` from which the opcode switch is put together: register access, the
addressing modes, the stack instructions, calls, returns, software interrupts and branches.
`monitor_call`, `monitor_return` and `command_exit_irq_hook` keep statistics for the debugger
and touch nothing modelled here; `check_pc` and `check_stack` are empty.
-/

namespace Exec09

open Program

variable {σ : Type}

/-! ## Registers as operands -/

def rdA : M σ Unsigned := reads Cpu.A
def rdB : M σ Unsigned := reads Cpu.B
def rdX : M σ Unsigned := reads Cpu.X
def rdY : M σ Unsigned := reads Cpu.Y
def rdU : M σ Unsigned := reads Cpu.U
def rdS : M σ Unsigned := reads Cpu.S
/-- `get_d ()`. -/
def rdD : M σ Unsigned := reads Cpu.getD
def rdEa : M σ Unsigned := reads Cpu.ea

def wrA (val : Unsigned) : M σ Unit := modify fun s => { s with A := val }
def wrB (val : Unsigned) : M σ Unit := modify fun s => { s with B := val }
def wrX (val : Unsigned) : M σ Unit := modify fun s => { s with X := val }
def wrY (val : Unsigned) : M σ Unit := modify fun s => { s with Y := val }
def wrU (val : Unsigned) : M σ Unit := modify fun s => { s with U := val }
def wrS (val : Unsigned) : M σ Unit := modify fun s => { s with S := val }
def wrEa (val : Unsigned) : M σ Unit := modify fun s => { s with ea := val }
/-- `change_pc`, and the plain assignments `PC = ...`. -/
def wrPC (val : Unsigned) : M σ Unit := modify fun s => { s with PC := val }
def wrZ (val : Unsigned) : M σ Unit :=
  modify fun s => { s with flags := { s.flags with Z := val } }

/-- `PC += n`. -/
def skip (n : Unsigned) : M σ Unit := modify fun s => { s with PC := s.PC + n }

/-- `set_cc`, as a program. -/
def setCc (arg : Unsigned) : M σ Unit := modify (Cpu.setCc arg)

/-- The registers `TFR` and `EXG` can name. -/
inductive Reg
  | D | X | Y | U | S | PC | A | B | CC | DP
  deriving DecidableEq, Repr

/-- The labels of the switches in `get_reg` and `set_reg`. -/
def regOfNumber (nro : Unsigned) : Option Reg :=
  match nro.toNat with
  | 0 => some .D
  | 1 => some .X
  | 2 => some .Y
  | 3 => some .U
  | 4 => some .S
  | 5 => some .PC
  | 8 => some .A
  | 9 => some .B
  | 10 => some .CC
  | 11 => some .DP
  | _ => none

/-- `get_reg`; an unassigned number reads as `0xff`. -/
def Cpu.getReg (s : Cpu σ) (nro : Unsigned) : Unsigned :=
  match regOfNumber nro with
  | some .D => (s.A <<< 8) ||| s.B
  | some .X => s.X
  | some .Y => s.Y
  | some .U => s.U
  | some .S => s.S
  | some .PC => s.PC &&& 0xffff
  | some .A => s.A
  | some .B => s.B
  | some .CC => s.getCc
  | some .DP => s.DP >>> 8
  | none => 0xff

/-- `set_reg`: no masking, and an unassigned number is ignored. -/
def Cpu.setReg (s : Cpu σ) (nro val : Unsigned) : Cpu σ :=
  match regOfNumber nro with
  | some .D => { s with A := val >>> 8, B := val &&& 0xff }
  | some .X => { s with X := val }
  | some .Y => { s with Y := val }
  | some .U => { s with U := val }
  | some .S => { s with S := val }
  | some .PC => { s with PC := val }
  | some .A => { s with A := val }
  | some .B => { s with B := val }
  | some .CC => s.setCc val
  | some .DP => { s with DP := val <<< 8 }
  | none => s

variable [Machine σ]

/-! ## Addressing modes -/

/-- `RDMEM (ea)`. -/
def rdmemEa : M σ Unsigned := do rdmem (← rdEa)
/-- `RDMEM16 (ea)`. -/
def rdmem16Ea : M σ Unsigned := do rdmem16 (← rdEa)
/-- `WRMEM (ea, data)`. -/
def wrmemEa (data : Unsigned) : M σ Unit := do wrmem (← rdEa) data

def direct : M σ Unit := do
  let val ← rdmem (← reads Cpu.PC)
  modify fun s => { s with PC := s.PC + 1, ea := val ||| s.DP }

def extended : M σ Unit := do
  let val ← immWord
  wrEa val

/-- The table `index_regs`. -/
inductive IndexReg
  | X | Y | U | S
  deriving DecidableEq, Repr

/-- `*R`. -/
def IndexReg.get : IndexReg → M σ Unsigned
  | .X => rdX
  | .Y => rdY
  | .U => rdU
  | .S => rdS

/-- `*R = val`. -/
def IndexReg.put : IndexReg → Unsigned → M σ Unit
  | .X => wrX
  | .Y => wrY
  | .U => wrU
  | .S => wrS

/-- `index_regs[n]`, for the two register bits of the postbyte. -/
def indexReg (n : Unsigned) : IndexReg :=
  if n = 0 then .X else if n = 1 then .Y else if n = 2 then .U else .S

/-- A C `switch`: the case labelled with the value, or the default. -/
def switch (val : Unsigned) (cases : List (Unsigned × M σ Unit)) (default : M σ Unit) :
    M σ Unit :=
  match cases.lookup val with
  | some body => body
  | none => default

/-- `ea = RDMEM16 (ea); cpu_clk -= 2`, the tail of every indirect mode. -/
def indirect : M σ Unit := do
  wrEa (← rdmem16Ea)
  tick 2

/-- The cases of `switch (post & 0x1f)` in `indexed`. -/
def indexCases (R : IndexReg) : List (Unsigned × M σ Unit) :=
  [ (0x00, do wrEa (← R.get); R.put (((← R.get) + 1) &&& 0xffff); tick 6),
    (0x01, do wrEa (← R.get); R.put (((← R.get) + 2) &&& 0xffff); tick 7),
    (0x02, do R.put (((← R.get) - 1) &&& 0xffff); wrEa (← R.get); tick 6),
    (0x03, do R.put (((← R.get) - 2) &&& 0xffff); wrEa (← R.get); tick 7),
    (0x04, do wrEa (← R.get); tick 4),
    (0x05, do wrEa (((← R.get) + int8 (← rdB)) &&& 0xffff); tick 5),
    (0x06, do wrEa (((← R.get) + int8 (← rdA)) &&& 0xffff); tick 5),
    (0x08, do wrEa (((← R.get) + int8 (← immByte)) &&& 0xffff); tick 5),
    (0x09, do wrEa (((← R.get) + (← immWord)) &&& 0xffff); tick 8),
    (0x0b, do wrEa (((← R.get) + (← rdD)) &&& 0xffff); tick 8),
    (0x0c, do wrEa (int8 (← immByte)); wrEa (((← rdEa) + (← reads Cpu.PC)) &&& 0xffff); tick 5),
    (0x0d, do wrEa (← immWord); wrEa (((← rdEa) + (← reads Cpu.PC)) &&& 0xffff); tick 9),
    (0x11, do wrEa (← R.get); R.put (((← R.get) + 2) &&& 0xffff); tick 7; indirect),
    (0x13, do R.put (((← R.get) - 2) &&& 0xffff); wrEa (← R.get); tick 7; indirect),
    (0x14, do wrEa (← R.get); tick 4; indirect),
    (0x15, do wrEa (((← R.get) + int8 (← rdB)) &&& 0xffff); tick 5; indirect),
    (0x16, do wrEa (((← R.get) + int8 (← rdA)) &&& 0xffff); tick 5; indirect),
    (0x18, do wrEa (((← R.get) + int8 (← immByte)) &&& 0xffff); tick 5; indirect),
    (0x19, do wrEa (((← R.get) + (← immWord)) &&& 0xffff); tick 8; indirect),
    (0x1b, do wrEa (((← R.get) + (← rdD)) &&& 0xffff); tick 8; indirect),
    (0x1c, do
      wrEa (int8 (← immByte)); wrEa (((← rdEa) + (← reads Cpu.PC)) &&& 0xffff); tick 5; indirect),
    (0x1d, do wrEa (← immWord); wrEa (((← rdEa) + (← reads Cpu.PC)) &&& 0xffff); tick 9; indirect),
    (0x1f, do wrEa (← immWord); tick 6; indirect) ]

/-- The 5-bit offset of a postbyte with bit 7 clear, sign extended in 16 bits. -/
def offset5 (post : Unsigned) : Unsigned :=
  if post &&& 0x10 ≠ 0 then post ||| 0xfff0 else post &&& 0x000f

/-- What `indexed` does once it has the postbyte. -/
def indexedPost (post : Unsigned) : M σ Unit :=
  let R := indexReg ((post >>> 5) &&& 0x3)
  if post &&& 0x80 ≠ 0 then
    switch (post &&& 0x1f) (indexCases R) (do wrEa 0; simError)
  else do
    wrEa (((← R.get) + offset5 post) &&& 0xffff)
    tick 5

def indexed : M σ Unit := do
  let post ← immByte
  indexedPost post

/-! ## Accumulator helpers with cycles or several registers -/

/-- A one-operand helper: each of them charges two cycles. -/
def unary (g : Unsigned → Flags → Unsigned × Flags) (arg : Unsigned) : M σ Unsigned := do
  let res ← alu (g arg)
  tick 2
  return res

def tst (arg : Unsigned) : M σ Unit := do
  alu (Alu.tst arg)
  tick 2

def daa : M σ Unit := do
  wrA (← alu (Alu.daa (← rdA)))
  tick 2

/-- `EXG` and `TFR` accept two registers of the same size. -/
def sameSize (post : Unsigned) : Prop := (post ^^^ (post <<< 4)) &&& 0x80 = 0

instance (post : Unsigned) : Decidable (sameSize post) :=
  inferInstanceAs (Decidable (_ = _))

/-- `EXG` on the state, given the postbyte. -/
def Cpu.exg (post : Unsigned) (s : Cpu σ) : Cpu σ :=
  let tmp1 := if sameSize post then s.getReg (post >>> 4) else 0xff
  let tmp2 := if sameSize post then s.getReg (post &&& 15) else 0xff
  (s.setReg (post &&& 15) tmp1).setReg (post >>> 4) tmp2

/-- `TFR` on the state, given the postbyte. -/
def Cpu.tfr (post : Unsigned) (s : Cpu σ) : Cpu σ :=
  s.setReg (post &&& 15) (if sameSize post then s.getReg (post >>> 4) else 0xff)

def exg : M σ Unit := do
  let post ← immByte
  modify (Cpu.exg post)
  tick 8

def tfr : M σ Unit := do
  let post ← immByte
  modify (Cpu.tfr post)
  tick 6

def mul : M σ Unit := do
  let res ← alu (Alu.mul (← rdA) (← rdB))
  wrA (res >>> 8)
  wrB (res &&& 0xff)
  tick 11

def st (arg : Unsigned) : M σ Unit := do
  alu (Alu.st arg)
  wrmemEa arg

def abx : M σ Unit := do
  wrX (((← rdX) + (← rdB)) &&& 0xffff)
  tick 3

/-- Split a 16-bit result into `A` and `B`. -/
def wrAB (res : Unsigned) : M σ Unit := do
  wrA (res >>> 8)
  wrB (res &&& 0xff)

def addd (val : Unsigned) : M σ Unit := do wrAB (← alu (Alu.addd (← rdD) val))

def subd (val : Unsigned) : M σ Unit := do wrAB (← alu (Alu.subd (← rdD) val))

def ldd (arg : Unsigned) : M σ Unit := do wrAB (← alu (Alu.ld16 arg))

def sex : M σ Unit := do
  wrA (← alu (Alu.sex (← rdB)))
  tick 2

def std : M σ Unit := do
  alu (Alu.std (← rdA) (← rdB))
  wrmem16 (← rdEa) (← rdD)

def st16 (arg : Unsigned) : M σ Unit := do
  alu (Alu.st16 arg)
  wrmem16 (← rdEa) arg

/-! ## Stack instructions -/

/-- `U = (U - 2) & 0xffff; write_stack16 (U, data)`. -/
def pushU16 (data : Unsigned) : M σ Unit := do
  modify fun s => { s with U := (s.U - 2) &&& 0xffff }
  writeStack16 (← reads Cpu.U) data

/-- `U = (U - 1) & 0xffff; write_stack (U, data)`. -/
def pushU8 (data : Unsigned) : M σ Unit := do
  modify fun s => { s with U := (s.U - 1) &&& 0xffff }
  wrmem (← reads Cpu.U) data

/-- `read_stack (S)`, then `S = (S + 1) & 0xffff`. -/
def pullS8 : M σ Unsigned := do
  let val ← rdmem (← reads Cpu.S)
  modify fun s => { s with S := (s.S + 1) &&& 0xffff }
  return val

/-- `read_stack16 (S)`, then `S = (S + 2) & 0xffff`. -/
def pullS16 : M σ Unsigned := do
  let val ← readStack16 (← reads Cpu.S)
  modify fun s => { s with S := (s.S + 2) &&& 0xffff }
  return val

/-- `read_stack (U)`, then `U = (U + 1) & 0xffff`. -/
def pullU8 : M σ Unsigned := do
  let val ← rdmem (← reads Cpu.U)
  modify fun s => { s with U := (s.U + 1) &&& 0xffff }
  return val

/-- `read_stack16 (U)`, then `U = (U + 2) & 0xffff`. -/
def pullU16 : M σ Unsigned := do
  let val ← readStack16 (← reads Cpu.U)
  modify fun s => { s with U := (s.U + 2) &&& 0xffff }
  return val

/-- `DP = val << 8`. -/
def wrDP (val : Unsigned) : M σ Unit := modify fun s => { s with DP := val <<< 8 }

/-- `PSHS` once it has the postbyte. -/
def pshsPost (post : Unsigned) : M σ Unit := do
  tick 5
  whenever (post &&& 0x80 ≠ 0) do tick 2; pushS16 ((← reads Cpu.PC) &&& 0xffff)
  whenever (post &&& 0x40 ≠ 0) do tick 2; pushS16 (← reads Cpu.U)
  whenever (post &&& 0x20 ≠ 0) do tick 2; pushS16 (← reads Cpu.Y)
  whenever (post &&& 0x10 ≠ 0) do tick 2; pushS16 (← reads Cpu.X)
  whenever (post &&& 0x08 ≠ 0) do tick 1; pushS8 ((← reads Cpu.DP) >>> 8)
  whenever (post &&& 0x04 ≠ 0) do tick 1; pushS8 (← reads Cpu.B)
  whenever (post &&& 0x02 ≠ 0) do tick 1; pushS8 (← reads Cpu.A)
  whenever (post &&& 0x01 ≠ 0) do tick 1; pushS8 (← reads Cpu.getCc)

def pshs : M σ Unit := do
  let post ← immByte
  pshsPost post

/-- `PSHU` once it has the postbyte. -/
def pshuPost (post : Unsigned) : M σ Unit := do
  tick 5
  whenever (post &&& 0x80 ≠ 0) do tick 2; pushU16 ((← reads Cpu.PC) &&& 0xffff)
  whenever (post &&& 0x40 ≠ 0) do tick 2; pushU16 (← reads Cpu.S)
  whenever (post &&& 0x20 ≠ 0) do tick 2; pushU16 (← reads Cpu.Y)
  whenever (post &&& 0x10 ≠ 0) do tick 2; pushU16 (← reads Cpu.X)
  whenever (post &&& 0x08 ≠ 0) do tick 1; pushU8 ((← reads Cpu.DP) >>> 8)
  whenever (post &&& 0x04 ≠ 0) do tick 1; pushU8 (← reads Cpu.B)
  whenever (post &&& 0x02 ≠ 0) do tick 1; pushU8 (← reads Cpu.A)
  whenever (post &&& 0x01 ≠ 0) do tick 1; pushU8 (← reads Cpu.getCc)

def pshu : M σ Unit := do
  let post ← immByte
  pshuPost post

/-- `PULS` once it has the postbyte. -/
def pulsPost (post : Unsigned) : M σ Unit := do
  tick 5
  whenever (post &&& 0x01 ≠ 0) do tick 1; setCc (← pullS8)
  whenever (post &&& 0x02 ≠ 0) do tick 1; wrA (← pullS8)
  whenever (post &&& 0x04 ≠ 0) do tick 1; wrB (← pullS8)
  whenever (post &&& 0x08 ≠ 0) do tick 1; wrDP (← pullS8)
  whenever (post &&& 0x10 ≠ 0) do tick 2; wrX (← pullS16)
  whenever (post &&& 0x20 ≠ 0) do tick 2; wrY (← pullS16)
  whenever (post &&& 0x40 ≠ 0) do tick 2; wrU (← pullS16)
  whenever (post &&& 0x80 ≠ 0) do tick 2; wrPC (← pullS16)

def puls : M σ Unit := do
  let post ← immByte
  pulsPost post

/-- `PULU` once it has the postbyte. -/
def puluPost (post : Unsigned) : M σ Unit := do
  tick 5
  whenever (post &&& 0x01 ≠ 0) do tick 1; setCc (← pullU8)
  whenever (post &&& 0x02 ≠ 0) do tick 1; wrA (← pullU8)
  whenever (post &&& 0x04 ≠ 0) do tick 1; wrB (← pullU8)
  whenever (post &&& 0x08 ≠ 0) do tick 1; wrDP (← pullU8)
  whenever (post &&& 0x10 ≠ 0) do tick 2; wrX (← pullU16)
  whenever (post &&& 0x20 ≠ 0) do tick 2; wrY (← pullU16)
  whenever (post &&& 0x40 ≠ 0) do tick 2; wrS (← pullU16)
  whenever (post &&& 0x80 ≠ 0) do tick 2; wrPC (← pullU16)

def pulu : M σ Unit := do
  let post ← immByte
  puluPost post

/-! ## Miscellaneous instructions -/

def nop : M σ Unit := tick 2

def jsr : M σ Unit := do
  pushS16 ((← reads Cpu.PC) &&& 0xffff)
  wrPC (← rdEa)

/-- The registers `RTI` pulls when the CC byte it has just loaded has `E` set. -/
def rtiContext : M σ Unit := do
  tick 9
  wrA (← pullS8)
  wrB (← pullS8)
  wrDP (← pullS8)
  wrX (← pullS16)
  wrY (← pullS16)
  wrU (← pullS16)

def rti : M σ Unit := do
  tick 6
  setCc (← pullS8)
  whenever (← reads Cpu.entireState) rtiContext
  wrPC (← pullS16)

def rts : M σ Unit := do
  tick 5
  wrPC (← pullS16)

/-- What `swi`, `swi2` and `swi3` share: charge, set `E`, push everything, set the masks given
and load the vector.  `swi2` and `swi3` set no mask, which is the assignment of `EFI` to
itself here. -/
def swiWith (clk : Int) (masks vector : Unsigned) : M σ Unit := do
  tick clk
  modify fun s => { s with EFI := s.EFI ||| E_FLAG }
  pushAll
  modify fun s => { s with EFI := s.EFI ||| masks }
  wrPC (← read16 vector)

def swi : M σ Unit := swiWith 19 (I_FLAG ||| F_FLAG) 0xfffa
def swi2 : M σ Unit := swiWith 20 0 0xfff4
def swi3 : M σ Unit := swiWith 20 0 0xfff2

/-- Reported as not supported. -/
def cwai : M σ Unit := simError

/-- Reported as not supported. -/
def sync : M σ Unit := do
  tick 4
  simError

def orcc : M σ Unit := do
  let tmp ← immByte
  setCc ((← reads Cpu.getCc) ||| tmp)
  tick 3

def andcc : M σ Unit := do
  let tmp ← immByte
  setCc ((← reads Cpu.getCc) &&& tmp)
  tick 3

/-! ## Branch instructions -/

/-- `cond_XX ()`. -/
def cond (c : Cond) : M σ Bool := reads fun s => c.holds s.flags

def bra : M σ Unit := do
  let tmp ← immByte
  skip (int8 tmp)

def branch (cond : Bool) : M σ Unit := do
  (if cond then bra else skip 1)
  tick 3

def longBra : M σ Unit := do
  let tmp ← immWord
  skip (int16 tmp)

def longBranch (cond : Bool) : M σ Unit :=
  if cond then do
    longBra
    tick 6
  else do
    skip 2
    tick 5

def longBsr : M σ Unit := do
  let tmp ← immWord
  wrEa ((← reads Cpu.PC) + int16 tmp)
  pushS16 ((← reads Cpu.PC) &&& 0xffff)
  tick 9
  wrPC (← rdEa)

def bsr : M σ Unit := do
  let tmp ← immByte
  wrEa ((← reads Cpu.PC) + int8 tmp)
  pushS16 ((← reads Cpu.PC) &&& 0xffff)
  tick 7
  wrPC (← rdEa)

end Exec09
