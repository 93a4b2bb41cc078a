import Exec09.Debugger.Eval
import Exec09.Debugger.Scripts
import Exec09.Framework.CBuffer
import Exec09.Framework.CNumber
import Exec09.Machine.Bus

/-!
# Map files

`load_map_file` of `monitor.c`.  The linker writes a map file beside the program; its lines give
names to addresses, and on the WPC `page` lines say in which bank of the ROM.  A name is kept in the
symbol table of the program under the absolute address, so the loader switches the bank as it
goes.

A line is read into a buffer of 255 characters.  An incomplete line at the end of the file is not
looked at, as `feof` is set by then.  The name of the file is assumed to fit its buffer.
-/

namespace Exec09

open CText CBuffer

/-- The variables of `load_map_file`, and what it works on: the bus and the symbol tables.  `sizes`
is `ty.size` of the symbols. -/
structure MapLoad (ι : Type) where
  bus : Bus ι
  symbols : Symbols
  sizes : Nat → Unsigned
  sym : Option Nat
  signals : List Signal

namespace MapLoad

variable {ι : Type} [Board ι]

-- The processor the devices see, what `malloc` leaves, and whether the machine is named `wpc`.
variable (v : View) (garbage : Nat → Nat → U8) (onWpc : Bool)

/-- `to_absolute`, which faults where no device responds. -/
def toAbsolute (addr : U16) (s : MapLoad ι) : BitVec 64 × MapLoad ι :=
  let addr : Unsigned := addr.setWidth 32
  let fault :=
    if s.bus.noResponse (s.bus.findMap addr).devid then s.bus.doFault v addr .noResponse else []
  (s.bus.toAbsolute addr, { s with signals := s.signals ++ fault })

/-- `wpc_set_rom_page`, as for a write to the register; the ASIC does not know of it. -/
def setRomPage (page : U8) (s : MapLoad ι) : MapLoad ι :=
  { s with bus := { s.bus with
      busmaps := busMap 0x4000 2 (page.setWidth 64 * 0x4000) 0x4000 MAP_READABLE s.bus.busmaps } }

/-- The end of the symbol before, and the new one. -/
def define (value : U16) (name : CString) (s : MapLoad ι) : Option (MapLoad ι) := do
  let s :=
    match s.sym with
    | some i =>
      let (addr, s) := s.toAbsolute v value
      let size := (addr - (s.symbols.syms i).value).setWidth 32
      { s with sizes := Function.update s.sizes i size }
    | none => s
  let (addr, s) := s.toAbsolute v value
  let (i, symbols) ← s.symbols.symAdd garbage .program name addr 0
  return { s with symbols := symbols, sizes := Function.update s.sizes i 0, sym := some i }

/-- One line.  A value without a name behind it lets `strtok` return a null pointer. -/
def mapLine (buf : List Char) (s : MapLoad ι) : Option (MapLoad ι) :=
  if buf.take 4 = "page".toList then
    let page : U8 := (((strtoulEnd 10 (buf.drop 4)).map Prod.fst).getD 0).setWidth 8
    some { if onWpc then s.setRomPage page else s with sym := none }
  else if buf.take 6 ≠ List.replicate 6 ' ' then some s
  else
    match strtoulEnd 16 (buf.dropWhile (· = ' ')) with
    | none => some s
    | some (value, rest) =>
      match strtok (rest.dropWhile (· = ' ')) with
      | none => none
      | some (id, _) =>
        -- local and section labels
        if id.take 2 = "l_".toList ∨ id.take 2 = "s_".toList then some s
        else s.define v garbage (value.setWidth 16) (cString id.tail)

/-- The loop, for at most the given number of lines. -/
def mapLines : Nat → List Char → MapLoad ι → Option (MapLoad ι)
  | 0, _, s => some s
  | n + 1, fp, s =>
    let (buf, fp, eof) := fgets 254 fp
    if eof then some s
    else (s.mapLine v garbage onWpc (buf.takeWhile (· ≠ NUL))).bind (mapLines n fp)

end MapLoad

/-- The map file of a program: `.map` is appended to its name, or replaces what is behind the last
dot. -/
def openMap (files : List Char → Option (List Char)) (name : List Char) : Option (List Char) :=
  match files (name ++ ".map".toList) with
  | some fp => some fp
  | none =>
    match (name.reverse.dropWhile (· ≠ '.')).reverse with
    | [] => none
    | front => files (front ++ "map".toList)

/-- `load_map_file`, with what it returns.  An iteration that goes on has read a character at
least. -/
def loadMapFile {ι : Type} [Board ι] (v : View) (garbage : Nat → Nat → U8) (onWpc : Bool)
    (files : List Char → Option (List Char)) (name : List Char) (s : MapLoad ι) :
    Option (Int × MapLoad ι) :=
  match openMap files name with
  | none => some (-1, s)
  | some fp =>
    ({ s with sym := none }.mapLines v garbage onWpc (fp.length + 1) fp).map fun s => (0, s)

end Exec09
