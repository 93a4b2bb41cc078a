import Exec09.Cpu.State
import Exec09.Framework.Chain

/-!
# The symbol tables

`symtab.c`.  A symbol is a record on two hash chains of its table, by name and by value.  Its name
is a pointer into a string space, a buffer that is filled from its start and replaced by another
one when the next string does not fit.

A pointer is an index: of a symbol in the order of allocation, of a string space likewise.  What
`malloc` leaves in a string space is `garbage` of its index.
-/

namespace Exec09

abbrev MAX_STRINGSPACE : Nat := 32000

abbrev MAX_SYMBOL_HASH : Nat := 1009

/-- A string of C: the bytes before its NUL. -/
structure CString where
  bytes : List U8
  noNul : 0 ∉ bytes
  deriving DecidableEq

/-- `struct stringspace`. -/
structure StringSpace where
  space : Nat → U8
  used : Nat

/-- A pointer into a string space. -/
structure NamePtr where
  space : Nat
  offset : Nat
  deriving DecidableEq, Repr

/-- `struct symbol`, without the data type. -/
structure Symbol where
  name : NamePtr
  value : BitVec 64
  type : Unsigned
  nameChain : Option Nat
  valueChain : Option Nat
  deriving DecidableEq, Repr

/-- The symbol tables of the program. -/
inductive SymtabId
  | program | internal | auto
  deriving DecidableEq, Repr

/-- `struct symtab`. -/
structure Symtab where
  symsByName : Nat → Option Nat
  symsByValue : Nat → Option Nat
  parent : Option SymtabId

/-- Everything `symtab.c` keeps. -/
structure Symbols where
  spaces : Nat → StringSpace
  spaceCount : Nat
  currentStringspace : Nat
  syms : Nat → Symbol
  symCount : Nat
  tables : SymtabId → Symtab

/-- `memset (symtab, 0, ..)`. -/
def symtabInit : Symtab where
  symsByName _ := none
  symsByValue _ := none
  parent := none

/-- The hash of a name: its first three characters, which are signed. -/
def symHashName (name : CString) : Nat :=
  let char (n : Nat) : Unsigned := (name.bytes.getD n 0).signExtend 32
  let hash : Unsigned := char 0 &&& 0x1f
  let hash :=
    if name.bytes.getD 0 0 ≠ 0 then
      let hash := (hash <<< 11) + 544 * char 1
      if name.bytes.getD 1 0 ≠ 0 then (hash <<< 5) + 17 * char 2 else hash
    else hash
  hash.toNat % MAX_SYMBOL_HASH

def symHashValue (value : BitVec 64) : Nat := value.toNat % MAX_SYMBOL_HASH

namespace Symbols

variable (garbage : Nat → Nat → U8)

def stringspaceCreate (st : Symbols) : Symbols :=
  { st with
    spaces := Function.update st.spaces st.spaceCount ⟨garbage st.spaceCount, 0⟩
    spaceCount := st.spaceCount + 1
    currentStringspace := st.spaceCount }

/-- `strcpy` to an offset of a string space. -/
def strcpy (ss : StringSpace) (offset : Nat) (string : CString) : StringSpace :=
  { ss with
    space := fun i =>
      if offset ≤ i ∧ i < offset + string.bytes.length + 1 then string.bytes.getD (i - offset) 0
      else ss.space i }

/-- `stringspace_copy`; `none` when the string does not even fit an empty string space, whose end
`strcpy` then overruns. -/
def stringspaceCopy (string : CString) (st : Symbols) : Option (NamePtr × Symbols) :=
  let len := string.bytes.length + 1
  let st :=
    if (st.spaces st.currentStringspace).used + len > MAX_STRINGSPACE then
      st.stringspaceCreate garbage
    else st
  let ss := st.spaces st.currentStringspace
  if ss.used + len > MAX_STRINGSPACE then none
  else
    some (⟨st.currentStringspace, ss.used⟩,
      { st with
        spaces := Function.update st.spaces st.currentStringspace
          { strcpy ss ss.used string with used := ss.used + len } })

/-- `sym_init`. -/
def symInit : Symbols :=
  stringspaceCreate garbage
    { spaces := fun n => ⟨garbage n, 0⟩
      spaceCount := 0
      currentStringspace := 0
      syms := fun _ => ⟨⟨0, 0⟩, 0, 0, none, none⟩
      symCount := 0
      tables := fun _ => symtabInit }

/-- The string at an offset has these bytes, and then its NUL. -/
def stringAt (space : Nat → U8) : Nat → List U8 → Bool
  | offset, [] => space offset = 0
  | offset, c :: cs => space offset = c && stringAt space (offset + 1) cs

/-- `!strcmp (name, sym->name)`. -/
def hasName (st : Symbols) (name : CString) (i : Nat) : Bool :=
  stringAt (st.spaces (st.syms i).name.space).space (st.syms i).name.offset name.bytes

/-- The loops of `sym_find1`, over a table and its parents and over a chain. -/
def findFrom (st : Symbols) (name : CString) (type : Unsigned) : Nat → Option SymtabId → Option Nat
  | 0, _ => none
  | _ + 1, none => none
  | n + 1, some t =>
    match Chain.find (fun i => (st.syms i).nameChain) (st.hasName name) st.symCount
        ((st.tables t).symsByName (symHashName name)) with
    | some i => if type ≠ 0 ∧ (st.syms i).type ≠ type then none else some i
    | none => findFrom st name type n (st.tables t).parent

/-- `sym_find1`; there are three tables. -/
def symFind1 (st : Symbols) (t : SymtabId) (name : CString) (type : Unsigned) : Option Nat :=
  st.findFrom name type 3 (some t)

/-- `sym_find`, with the value it copies. -/
def symFind (st : Symbols) (t : SymtabId) (name : CString) (type : Unsigned) :
    Option (BitVec 64) :=
  (st.symFind1 t name type).map fun i => (st.syms i).value

/-- The loops of `sym_lookup`. -/
def lookupFrom (st : Symbols) (value : BitVec 64) : Nat → Option SymtabId → Option Nat
  | 0, _ => none
  | _ + 1, none => none
  | n + 1, some t =>
    match Chain.find (fun i => (st.syms i).valueChain) (fun i => value = (st.syms i).value)
        st.symCount ((st.tables t).symsByValue (symHashValue value)) with
    | some i => some i
    | none => lookupFrom st value n (st.tables t).parent

/-- `sym_lookup`: the name of a symbol with that value. -/
def symLookup (st : Symbols) (t : SymtabId) (value : BitVec 64) : Option NamePtr :=
  (st.lookupFrom value 3 (some t)).map fun i => (st.syms i).name

def symAdd (t : SymtabId) (name : CString) (value : BitVec 64) (type : Unsigned) (st : Symbols) :
    Option (Nat × Symbols) := do
  let (p, st) ← st.stringspaceCopy garbage name
  let tab := st.tables t
  let s : Symbol := {
    name := p
    value := value
    type := type
    nameChain := tab.symsByName (symHashName name)
    valueChain := tab.symsByValue (symHashValue value) }
  return (st.symCount,
    { st with
      syms := Function.update st.syms st.symCount s
      symCount := st.symCount + 1
      tables := Function.update st.tables t
        { tab with
          symsByName := Function.update tab.symsByName (symHashName name) (some st.symCount)
          symsByValue := Function.update tab.symsByValue (symHashValue value)
            (some st.symCount) } })

def symSet (t : SymtabId) (name : CString) (value : BitVec 64) (type : Unsigned) (st : Symbols) :
    Option Symbols :=
  match st.symFind1 t name type with
  | some i =>
    some { st with syms := Function.update st.syms i { st.syms i with value := value } }
  | none => (st.symAdd garbage t name value type).map Prod.snd

end Symbols

end Exec09
