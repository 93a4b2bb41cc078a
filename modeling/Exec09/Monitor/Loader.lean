import Exec09.Cpu.Bus
import Exec09.Framework.Scan

/-!
# The program loaders

`load_hex` and `load_s19` of `monitor.c`.  A file is the list of its characters, or `none` when it
cannot be opened; the local variables are a record that is passed along, and stores go through
`write8`, that is `cpu_write8`.  What is printed is kept as a list of texts.
-/

namespace Exec09

open Program Scan

variable {σ : Type} [Machine σ]

/-- The local variables of `load_hex` and `load_s19`. -/
structure Load where
  fp : List Char
  count : Unsigned
  addr : Unsigned
  data : Unsigned
  checksum : Unsigned
  line : Nat
  out : List String

namespace Load

def printf (v : Load) (text : String) : Load := { v with out := v.out ++ [text] }

/-- `printf ("line %d: ...\n", line)`. -/
def complain (v : Load) (text : String) : Load :=
  v.printf ("line " ++ toString v.line ++ ": " ++ text ++ "\n")

/-- `fscanf (fp, "%2x", &data)`; `data` keeps its value when nothing can be read. -/
def scanData (v : Load) : Load :=
  let (vals, rest) := fscanf [.hex 2] v.fp
  { v with fp := rest, data := (vals.head?.map (BitVec.ofInt 32)).getD v.data }

/-- `fgetc (fp)`, the character ignored. -/
def skipChar (v : Load) : Load := { v with fp := v.fp.tail }

/-- The loop `for (; count != 0; count--, addr++, checksum += data)` over the data bytes, which both
loaders have, for the given number of iterations. -/
def bytes : Nat → Load → M σ Load
  | 0, v => return v
  | n + 1, v => do
    let v := v.scanData
    wrmem v.addr v.data
    bytes n
      { v with count := v.count - 1, addr := v.addr + 1, checksum := v.checksum + v.data }

/-- One record of a hex file, `line` already counted.  The result says whether to go on. -/
def hexRecord (v : Load) : M σ (Bool × Load) :=
  match fscanf [.lit ':', .hex 2, .hex 4, .hex 2] v.fp with
  | ([count, addr, type], rest) =>
    let count := BitVec.ofInt 32 count
    let addr := BitVec.ofInt 32 addr
    let v := { v with
      fp := rest, count := count, addr := addr
      checksum := count + (addr >>> 8) + (addr &&& 0xff) + BitVec.ofInt 32 type }
    match type with
    | 0 => do
      let v ← bytes v.count.toNat v
      let v := { v with checksum := (-v.checksum) &&& 0xff }
      let v := v.scanData
      if v.data ≠ v.checksum then
        return (false, v.complain "invalid hex record checksum.")
      else
        return (true, v.skipChar)
    | 1 =>
      let v := { v with checksum := (-v.checksum) &&& 0xff }
      let v := v.scanData
      if v.data ≠ v.checksum then
        return (false, v.complain "invalid hex record checksum ")
      else
        return (false, v)
    | _ => return (false, v.complain ("not supported hex type " ++ toString type ++ "."))
  | (_, rest) => return (false, { v with fp := rest }.complain "invalid hex record information.")

/-- One S-record. -/
def s19Record (v : Load) : M σ (Bool × Load) :=
  match fscanf [.lit 'S', .hex 1, .hex 2, .hex 4] v.fp with
  | ([type, count, addr], rest) =>
    let count := BitVec.ofInt 32 count
    let addr := BitVec.ofInt 32 addr
    let v := { v with
      fp := rest, count := count, addr := addr
      checksum := count + (addr >>> 8) + (addr &&& 0xff) }
    match type with
    | 1 => do
      let v := { v with count := v.count - 3 }
      let v ← bytes v.count.toNat v
      let v := { v with checksum := ~~~v.checksum &&& 0xff }
      let v := v.scanData
      if v.data ≠ v.checksum then
        return (false, v.complain "invalid S record checksum.")
      else
        return (true, v.skipChar)
    | 9 =>
      let v := { v with checksum := ~~~v.checksum &&& 0xff }
      let v := v.scanData
      if v.data ≠ v.checksum then
        return (false, v.complain "invalid S record checksum.")
      else
        return (false, v)
    | _ => return (false, v.complain ("S" ++ toString type ++ " not supported."))
  | (_, rest) => return (false, { v with fp := rest }.complain "invalid S record information.")

/-- `while (done != 0)`, for at most the given number of iterations; `none` when they do not
suffice. -/
def records (record : Load → M σ (Bool × Load)) : Nat → Load → M σ (Option Load)
  | 0, _ => return none
  | n + 1, v => do
    let (more, v) ← record { v with line := v.line + 1 }
    if more then records record n v else return some v

end Load

/-- What a loader returns, and what it has printed. -/
structure Loaded where
  status : Nat
  out : List String
  deriving DecidableEq, Repr

/-- What the loaders share.  An iteration that goes on has read a character at least.  `data` is
whatever the uninitialised local variable holds. -/
def loadWith (record : Load → M σ (Bool × Load)) (kind name : String) (file : Option (List Char))
    (data : Unsigned) : M σ (Option Loaded) :=
  match file with
  | none => return some ⟨1, ["failed to open " ++ kind ++ " file " ++ name ++ ".\n"]⟩
  | some fp => do
    let v := { fp := fp, count := 0, addr := 0, data := data, checksum := 0, line := 0, out := [] }
    match ← Load.records record (fp.length + 1) v with
    | none => return none
    | some v => return some ⟨0, v.out⟩

/-- `if (prog_name && load_s19 (prog_name)) usage ()`, and the same for `load_hex`, in `main`:
`usage` ends the process, so the program is started when the loader has returned 0. -/
def Loaded.starts (l : Loaded) : Bool := l.status = 0

def loadHex : String → Option (List Char) → Unsigned → M σ (Option Loaded) :=
  loadWith Load.hexRecord "hex record"

def loadS19 : String → Option (List Char) → Unsigned → M σ (Option Loaded) :=
  loadWith Load.s19Record "S-record"

end Exec09
