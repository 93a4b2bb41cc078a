import Exec09.Cpu.State

/-!
# The arithmetic helpers

The flag computations of the helpers `adc` ... `subd` of `6809.c`, as functions of the lazy
flags.  A helper returns the result byte or word together with the new flags; `bit`, `cmp`,
`tst` and `cmp16` return the flags only.  The cycles some of them charge are left to the
programs of `Exec09.Cpu.Ops`.
-/

namespace Exec09.Alu

/-! ## 8-bit accumulator and memory helpers -/

def adc (arg val : Unsigned) (f : Flags) : Unsigned × Flags :=
  let sum := arg + val + (if f.C ≠ 0 then 1 else 0)
  let c := (sum >>> 1) &&& 0x80
  let res := sum &&& 0xff
  let v := arg ^^^ val ^^^ res ^^^ c
  (res, { H := v, N := res, Z := res, OV := v, C := c })

def add (arg val : Unsigned) (_f : Flags) : Unsigned × Flags :=
  let sum := arg + val
  let c := (sum >>> 1) &&& 0x80
  let res := sum &&& 0xff
  let v := arg ^^^ val ^^^ res ^^^ c
  (res, { H := v, N := res, Z := res, OV := v, C := c })

def and (arg val : Unsigned) (f : Flags) : Unsigned × Flags :=
  let res := arg &&& val
  (res, { f with N := res, Z := res, OV := 0 })

/-- The source notes that this is the same as `lsl`. -/
def asl (arg : Unsigned) (f : Flags) : Unsigned × Flags :=
  let wide := arg <<< 1
  let res := wide &&& 0xff
  (res, { f with N := res, Z := res, OV := arg ^^^ res, C := wide &&& 0x100 })

def asr (arg : Unsigned) (f : Flags) : Unsigned × Flags :=
  let wide := int8 arg
  let res := (wide >>> 1) &&& 0xff
  (res, { f with N := res, Z := res, C := wide &&& 1 })

def bit (arg val : Unsigned) (f : Flags) : Unit × Flags :=
  let res := arg &&& val
  ((), { f with N := res, Z := res, OV := 0 })

def clr (_arg : Unsigned) (f : Flags) : Unsigned × Flags :=
  (0, { f with N := 0, Z := 0, OV := 0, C := 0 })

def cmp (arg val : Unsigned) (f : Flags) : Unit × Flags :=
  let wide := arg - val
  let res := wide &&& 0xff
  ((), { f with N := res, Z := res, OV := (arg ^^^ val) &&& (arg ^^^ res), C := wide &&& 0x100 })

def com (arg : Unsigned) (f : Flags) : Unsigned × Flags :=
  let res := arg ^^^ 0xff
  (res, { f with N := res, Z := res, OV := 0, C := 1 })

def daa (a : Unsigned) (f : Flags) : Unsigned × Flags :=
  let msn := a &&& 0xf0
  let lsn := a &&& 0x0f
  let res := if lsn > 0x09 ∨ f.H &&& 0x10 ≠ 0 then a + 0x06 else a
  let res := if msn > 0x80 ∧ lsn > 0x09 then res + 0x60 else res
  let res := if msn > 0x90 ∨ f.C ≠ 0 then res + 0x60 else res
  (res &&& 0xff,
    { f with N := res &&& 0xff, Z := res &&& 0xff, OV := 0, C := f.C ||| (res &&& 0x100) })

def dec (arg : Unsigned) (f : Flags) : Unsigned × Flags :=
  let res := (arg - 1) &&& 0xff
  (res, { f with N := res, Z := res, OV := arg &&& ~~~res })

def eor (arg val : Unsigned) (f : Flags) : Unsigned × Flags :=
  let res := arg ^^^ val
  (res, { f with N := res, Z := res, OV := 0 })

def inc (arg : Unsigned) (f : Flags) : Unsigned × Flags :=
  let res := (arg + 1) &&& 0xff
  (res, { f with N := res, Z := res, OV := ~~~arg &&& res })

def ld (arg : Unsigned) (f : Flags) : Unsigned × Flags :=
  (arg, { f with N := arg, Z := arg, OV := 0 })

def lsr (arg : Unsigned) (f : Flags) : Unsigned × Flags :=
  let res := arg >>> 1
  (res, { f with N := 0, Z := res, C := arg &&& 1 })

def mul (a b : Unsigned) (f : Flags) : Unsigned × Flags :=
  let res := (a * b) &&& 0xffff
  (res, { f with Z := res, C := res &&& 0x80 })

def neg (arg : Unsigned) (f : Flags) : Unsigned × Flags :=
  let res := (-arg) &&& 0xff
  (res, { f with N := res, Z := res, OV := res &&& arg, C := res })

def or (arg val : Unsigned) (f : Flags) : Unsigned × Flags :=
  let res := arg ||| val
  (res, { f with N := res, Z := res, OV := 0 })

def rol (arg : Unsigned) (f : Flags) : Unsigned × Flags :=
  let wide := (arg <<< 1) + (if f.C ≠ 0 then 1 else 0)
  let res := wide &&& 0xff
  (res, { f with N := res, Z := res, OV := arg ^^^ res, C := wide &&& 0x100 })

def ror (arg : Unsigned) (f : Flags) : Unsigned × Flags :=
  let wide := if f.C ≠ 0 then arg ||| 0x100 else arg
  let res := wide >>> 1
  (res, { f with N := res, Z := res, C := wide &&& 1 })

def sbc (arg val : Unsigned) (f : Flags) : Unsigned × Flags :=
  let wide := arg - val - (if f.C ≠ 0 then 1 else 0)
  let res := wide &&& 0xff
  (res, { f with N := res, Z := res, OV := (arg ^^^ val) &&& (arg ^^^ res), C := wide &&& 0x100 })

/-- The flag part of `st`. -/
def st (arg : Unsigned) (f : Flags) : Unit × Flags :=
  ((), { f with N := arg, Z := arg, OV := 0 })

def sub (arg val : Unsigned) (f : Flags) : Unsigned × Flags :=
  let wide := arg - val
  let res := wide &&& 0xff
  (res, { f with N := res, Z := res, OV := (arg ^^^ val) &&& (arg ^^^ res), C := wide &&& 0x100 })

def tst (arg : Unsigned) (f : Flags) : Unit × Flags :=
  ((), { f with N := arg, Z := arg, OV := 0 })

/-! ## 16-bit accumulator helpers

`addd`, `subd` and `mul` return the 16-bit result; the programs split it into `A` and `B`. -/

def addd (arg val : Unsigned) (f : Flags) : Unsigned × Flags :=
  let wide := arg + val
  let res := wide &&& 0xffff
  (res, { f with
    N := res >>> 8
    Z := res
    OV := ((arg ^^^ res) &&& (val ^^^ res)) >>> 8
    C := wide &&& 0x10000 })

def cmp16 (arg val : Unsigned) (f : Flags) : Unit × Flags :=
  let wide := arg - val
  let res := wide &&& 0xffff
  ((), { f with
    N := res >>> 8
    Z := res
    OV := ((arg ^^^ val) &&& (arg ^^^ res)) >>> 8
    C := wide &&& 0x10000 })

def ld16 (arg : Unsigned) (f : Flags) : Unsigned × Flags :=
  (arg, { f with N := arg >>> 8, Z := arg, OV := 0 })

/-- The new value of `A` and the flags. -/
def sex (b : Unsigned) (f : Flags) : Unsigned × Flags :=
  let sign := b &&& 0x80
  (if sign ≠ 0 then 0xff else sign, { f with N := sign, Z := b })

/-- The flag part of `std`, which takes `N` from `A`. -/
def std (a b : Unsigned) (f : Flags) : Unit × Flags :=
  ((), { f with N := a, Z := (a <<< 8) ||| b, OV := 0 })

/-- The flag part of `st16`. -/
def st16 (arg : Unsigned) (f : Flags) : Unit × Flags :=
  ((), { f with N := arg >>> 8, Z := arg, OV := 0 })

def subd (arg val : Unsigned) (f : Flags) : Unsigned × Flags :=
  let wide := arg - val
  let res := wide &&& 0xffff
  (res, { f with
    N := res >>> 8
    Z := res
    OV := ((arg ^^^ val) &&& (arg ^^^ res)) >>> 8
    C := wide &&& 0x10000 })

end Exec09.Alu

namespace Exec09

/-! ## Branch conditions -/

/-- The names of the `cond_XX` macros. -/
inductive Cond
  | HI | LS | HS | LO | NE | EQ | VC | VS | PL | MI | GE | LT | GT | LE
  deriving DecidableEq, Repr

/-- The `cond_XX` macros. -/
def Cond.holds : Cond → Flags → Bool
  | .HI, f => f.Z ≠ 0 ∧ f.C = 0
  | .LS, f => f.Z = 0 ∨ f.C ≠ 0
  | .HS, f => f.C = 0
  | .LO, f => f.C ≠ 0
  | .NE, f => f.Z ≠ 0
  | .EQ, f => f.Z = 0
  | .VC, f => f.OV &&& 0x80 = 0
  | .VS, f => f.OV &&& 0x80 ≠ 0
  | .PL, f => f.N &&& 0x80 = 0
  | .MI, f => f.N &&& 0x80 ≠ 0
  | .GE, f => (f.N ^^^ f.OV) &&& 0x80 = 0
  | .LT, f => (f.N ^^^ f.OV) &&& 0x80 ≠ 0
  | .GT, f => (f.N ^^^ f.OV) &&& 0x80 = 0 ∧ f.Z ≠ 0
  | .LE, f => (f.N ^^^ f.OV) &&& 0x80 ≠ 0 ∨ f.Z = 0

end Exec09
