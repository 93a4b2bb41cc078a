import Exec09.Machine.Bus

/-!
# Creating a ROM

`rom_create` of `machine.c`, down to the accesses to the buffer it allocates: which bytes are
copied, and at which indices.
-/

namespace Exec09

/-- An allocated block, with the indices at which it has been accessed. -/
structure Block where
  bytes : Nat → U8
  touched : List Nat

namespace Block

/-- `memcpy` inside the block. -/
def memcpy (b : Block) (dst src n : Nat) : Block where
  bytes i := if dst ≤ i ∧ i < dst + n then b.bytes (src + (i - dst)) else b.bytes i
  touched := b.touched ++ List.range' src n ++ List.range' dst n

/-- `fread` of `n` bytes from the start of a file to the start of the block. -/
def fread (b : Block) (n : Nat) (file : List U8) : Block where
  bytes i := (file.take n).getD i (b.bytes i)
  touched := b.touched ++ List.range n

end Block

/-- `sizeof_file`, an `int` that the caller takes as unsigned. -/
def sizeofFile (file : List U8) : Unsigned := BitVec.ofNat 32 file.length

/-- The loop of `rom_create`, `buf` being relative to the start of the block; `none` when the given
number of tests of its condition does not suffice. -/
def mirrorLoop (imageSize : Unsigned) : Nat → Nat → Unsigned → Block → Option Block
  | 0, _, _, _ => none
  | fuel + 1, buf, maxsize, b =>
    if maxsize > 0 then
      mirrorLoop imageSize fuel (buf + imageSize.toNat) (maxsize - imageSize)
        (b.memcpy (buf + imageSize.toNat) buf imageSize.toNat)
    else some b

/-- What `rom_create` is given as a file. -/
inductive RomFile
  /-- `filename` is null. -/
  | unnamed
  /-- The file cannot be opened. -/
  | missing
  | image (file : List U8)
  deriving DecidableEq, Repr

/-- A ROM device and its buffer. -/
structure Rom where
  device : HwDevice
  buffer : Block

/-- `rom_create`; the inner `none` is the null pointer.  `garbage` is what `malloc` leaves in the
buffer. -/
def romCreate (fuel : Nat) (filename : RomFile) (maxsize : Unsigned) (garbage : Nat → U8) :
    Option (Option Rom) :=
  let dev : HwDevice := ⟨.rom, maxsize.toNat⟩
  let buf : Block := ⟨garbage, []⟩
  match filename with
  | .unnamed => some (some ⟨dev, buf⟩)
  | .missing => some none
  | .image file =>
    let imageSize := sizeofFile file
    (mirrorLoop imageSize fuel 0 (maxsize - imageSize) (buf.fread imageSize.toNat file)).map
      fun buf => some ⟨dev, buf⟩

end Exec09
