import Exec09.Framework.Arguments
import Exec09.Monitor.Dasm

/-!
# The command line

`option_table`, `process_option` and `parse_args` of `main.c`.  An argument is the list of its
characters, and `argv[argc]` is `NULL`.  The variables that options set are a record; what is printed
is kept as a list of texts.  A `long` has 64 bits.
-/

namespace Exec09

open CText

/-! ## Variables -/

/-- The values of `type`. -/
def HEX : BitVec 32 := 0
def S19 : BitVec 32 := 1
def BIN : BitVec 32 := 2

/-- The variables that `option_table` points to, `prog_name`, and the output. -/
structure Settings where
  debugEnabled : BitVec 32
  type : BitVec 32
  machineRealtime : BitVec 32
  cyclesPerIrq : BitVec 32
  cyclesPerFirq : BitVec 32
  dumpCyclesOnSuccess : BitVec 32
  traceEnabled : BitVec 32
  maxCycles : BitVec 64
  machinePersistent : BitVec 32
  machineName : List Char
  progName : Option (List Char)
  out : List String

/-- The initial values. -/
def Settings.initial : Settings where
  debugEnabled := 0
  type := S19
  machineRealtime := 0
  cyclesPerIrq := 0
  cyclesPerFirq := 0
  dumpCyclesOnSuccess := 0
  traceEnabled := 0
  maxCycles := 500000000
  machinePersistent := 0
  machineName := "simple".toList
  progName := none
  out := []

/-- The targets of `int_value`. -/
inductive IntVar
  | debugEnabled | type | machineRealtime | cyclesPerIrq | cyclesPerFirq | dumpCyclesOnSuccess
  | traceEnabled | maxCycles | machinePersistent
  deriving DecidableEq, Repr

/-- The targets of `string_value`. -/
inductive StringVar
  | machineName
  deriving DecidableEq, Repr

namespace Settings

/-- The `int` at a target; of `max_cycles` this is the lower half. -/
def int (s : Settings) : IntVar → BitVec 32
  | .debugEnabled => s.debugEnabled
  | .type => s.type
  | .machineRealtime => s.machineRealtime
  | .cyclesPerIrq => s.cyclesPerIrq
  | .cyclesPerFirq => s.cyclesPerFirq
  | .dumpCyclesOnSuccess => s.dumpCyclesOnSuccess
  | .traceEnabled => s.traceEnabled
  | .maxCycles => s.maxCycles.setWidth 32
  | .machinePersistent => s.machinePersistent

/-- `*(opt->int_value) = x`. -/
def setInt (s : Settings) (x : BitVec 32) : IntVar → Settings
  | .debugEnabled => { s with debugEnabled := x }
  | .type => { s with type := x }
  | .machineRealtime => { s with machineRealtime := x }
  | .cyclesPerIrq => { s with cyclesPerIrq := x }
  | .cyclesPerFirq => { s with cyclesPerFirq := x }
  | .dumpCyclesOnSuccess => { s with dumpCyclesOnSuccess := x }
  | .traceEnabled => { s with traceEnabled := x }
  | .maxCycles => { s with maxCycles := s.maxCycles.extractLsb' 32 32 ++ x }
  | .machinePersistent => { s with machinePersistent := x }

def string (s : Settings) : StringVar → List Char
  | .machineName => s.machineName

/-- `*(opt->string_value) = x`. -/
def setString (s : Settings) (x : List Char) : StringVar → Settings
  | .machineName => { s with machineName := x }

def printf (s : Settings) (text : String) : Settings := { s with out := s.out ++ [text] }

end Settings

/-- The end of the program: the exit status, and what was printed. -/
structure Exited where
  status : Int
  out : List String

/-- Programs over the variables. -/
abbrev MainM := StateT Settings (Except Exited)

/-! ## The table -/

/-- The handlers of `option_table`. -/
inductive OptionHandler
  | doHelp
  deriving DecidableEq, Repr

/-- `struct option`, less `can_negate`, which nothing reads. -/
structure OptionEntry where
  oShort : Char
  oLong : List Char
  help : Option String
  takesArg : Bool
  intValue : Option IntVar
  defaultValue : BitVec 32
  stringValue : Option StringVar
  handler : Option OptionHandler
  deriving DecidableEq, Repr

/-- `option_table`, less the entry that ends it. -/
def optionTable : List OptionEntry :=
  [ ⟨'d', "debug".toList, some "Enter the monitor immediately", false, some .debugEnabled, 1,
      none, none⟩,
    ⟨'h', "help".toList, none, false, none, 0, none, some .doHelp⟩,
    ⟨'b', "binary".toList, some "", false, some .type, BIN, none, none⟩,
    ⟨'M', "mhz".toList, some "", true, none, 0, none, none⟩,
    ⟨'-', "68a09".toList, some "Emulate the 68A09 variation (1.5Mhz)", false, none, 0, none, none⟩,
    ⟨'-', "68b09".toList, some "Emulate the 68B09 variation (2Mhz)", false, none, 0, none, none⟩,
    ⟨'R', "realtime".toList, some "Limit simulation speed to match realtime", false,
      some .machineRealtime, 0, none, none⟩,
    ⟨'I', "irqfreq".toList, some "Asserts an IRQ every so many cycles automatically", true,
      some .cyclesPerIrq, 0, none, none⟩,
    ⟨'F', "firqfreq".toList, some "Asserts an FIRQ every so many cycles automatically", true,
      some .cyclesPerFirq, 0, none, none⟩,
    ⟨'C', "cycledump".toList, some "", false, some .dumpCyclesOnSuccess, 1, none, none⟩,
    ⟨'t', "loadmap".toList, some "", false, none, 0, none, none⟩,
    ⟨'T', "trace".toList, some "", false, some .traceEnabled, 1, none, none⟩,
    ⟨'m', "maxcycles".toList, some "Sets maximum number of cycles to run", true, some .maxCycles, 0,
      none, none⟩,
    ⟨'s', "machine".toList, some "Specify the machine (exact hardware) to emulate", true, none, 0,
      some .machineName, none⟩,
    ⟨'p', "persistent".toList, some "Use persistent machine state", false,
      some .machinePersistent, 1, none, none⟩ ]

/-- The line of `do_help` for an option. -/
def OptionEntry.helpLine (opt : OptionEntry) : Option String :=
  opt.help.map fun help =>
    let name := formatField 16 (String.ofList opt.oLong)
    if opt.oShort = '-' then "   --" ++ name ++ "    " ++ help ++ "\n"
    else "   -" ++ String.singleton opt.oShort ++ ", --" ++ name ++ help ++ "\n"

def usageText : List String :=
  "Motorola 6809 Simulator     Version 0.92\n" :: "m6809-run [options] [program]\n\n" ::
    "Options:\n" :: optionTable.filterMap OptionEntry.helpLine

/-- `exit (status)`. -/
def exit {α : Type} (status : Int) : MainM α := fun s => .error ⟨status, s.out⟩

def doHelp : MainM Int := do
  modify fun s => { s with out := s.out ++ usageText }
  exit 0

/-- `opt->handler (arg)`; the only handler ignores its argument. -/
def OptionHandler.call : OptionHandler → MainM Int
  | doHelp => Exec09.doHelp

/-! ## The arguments -/

/-- `process_option`: positive if the argument was taken, zero if not, negative on error.  What
`sim_exit` prints is left out. -/
def processOption (opt : OptionEntry) (arg : Option (List Char)) : MainM Int := do
  let rc ←
    if opt.takesArg then
      match arg with
      | none => pure 0
      | some arg => do
        match opt.intValue, opt.stringValue with
        | some v, _ => modify fun s => s.setInt ((strtoul 0 arg).setWidth 32) v
        | none, some v => modify fun s => s.setString arg v
        | none, none => pure ()
        pure 1
    else do
      -- the `if (arg)` in front of the disabled `printf` governs the statement behind it
      if arg.isSome then
        match opt.intValue with
        | some v => modify fun s => s.setInt opt.defaultValue v
        | none => pure ()
      pure (0 : Int)
  let rc ←
    match opt.handler with
    | some handler => handler.call
    | none => pure rc
  if rc < 0 then exit 0x70
  return rc

def processPlainArgument (arg : List Char) : MainM Unit :=
  modify fun s => if s.progName.isNone then { s with progName := some arg } else s

/-- The body of the loop of `parse_args`: the next value of `argn`. -/
def nextArg (argv : List (List Char)) (argn : Nat) : MainM Nat :=
  match argv.getD argn [] with
  | '-' :: '-' :: cs => do
    let (name, rest) := Arguments.splitName cs
    match optionTable.find? fun opt => opt.oLong = name with
    | some opt => do
      let _ ← processOption opt rest
      return argn + 1
    | none => do
      modify fun s => s.printf ("long option '" ++ String.ofList name ++ "' not recognized.\n")
      return argn + 1
  | '-' :: cs =>
    match optionTable.find? fun opt => opt.oShort = cs.headD '\x00' with
    | some opt => do
      let rc ← processOption opt argv[argn + 1]?
      return if rc ≠ 0 then argn + 2 else argn + 1
    | none => do
      modify fun s =>
        s.printf ("short option '" ++ String.singleton (cs.headD '\x00') ++ "' not recognized.\n")
      return argn + 1
  | arg => do
    processPlainArgument arg
    return argn + 1

/-- The loop, for a number of iterations: `argn` where it ends, if it does. -/
def parseLoop (argv : List (List Char)) : Nat → Nat → MainM (Option Nat)
  | 0, argn => return if argn < argv.length then none else some argn
  | n + 1, argn => if argn < argv.length then nextArg argv argn >>= parseLoop argv n else pure (some argn)

/-- `parse_args`. -/
def parseArgs (argv : List (List Char)) : MainM (Option Nat) := parseLoop argv argv.length 1

end Exec09
