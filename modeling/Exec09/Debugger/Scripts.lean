import Mathlib.Tactic.Common

/-!
# Command input

`command_exec` and `command_loop` of `command.c`: a line is read from `command_input`, its first word
is looked up, and the handler is called.  `source` replaces `command_input` by another file while the
loop is running.

A file is the list of the characters still to be read, and `files` maps the name of a file to its
text.  What handlers do to the machine, the breakpoints and the display is outside this module; what
they do to the loop, by `exit_command_loop` and `command_input`, is all here.  The history variable
`lines` records the lines that were read, and whether the keyboard was the input.
-/

namespace Exec09

/-! ## Reading and splitting lines -/

/-- `fgets (buffer, n + 1, infile)`: what is read, what is left, and whether the end of the file was
hit. -/
def fgets : Nat → List Char → List Char × List Char × Bool
  | 0, cs => ([], cs, false)
  | _ + 1, [] => ([], [], true)
  | n + 1, c :: cs =>
    if c = '\n' then ([c], cs, false)
    else (c :: (fgets n cs).1, (fgets n cs).2.1, (fgets n cs).2.2)

/-- The delimiters given to `strtok`. -/
def isDelim (c : Char) : Bool := c = ' ' || c = '\t' || c = '\n'

/-- `strtok (buffer, " \t\n")`: the next word, and what a later call goes on with. -/
def strtok (cs : List Char) : Option (List Char × List Char) :=
  match cs.dropWhile isDelim with
  | [] => none
  | c :: rest =>
    some (c :: rest.takeWhile (!isDelim ·), (rest.dropWhile (!isDelim ·)).drop 1)

/-! ## Commands -/

/-- The handlers of `cmdtab`. -/
inductive Handler
  | print | set | examine | break_ | breakList | delete | step | next | continue_ | quit | reset
  | help | watch | rwatch | awatch | list | symbolFile | display | source | regs | vars | runfor
  | measure | dumpInsns | traceDump | dump | restore
  deriving DecidableEq, Repr

/-- `cmdtab`: prefix, name and handler. -/
def cmdtab : List (String × String × Handler) :=
  [ ("p", "print", .print), ("set", "set", .set), ("x", "examine", .examine),
    ("b", "break", .break_), ("bl", "blist", .breakList), ("d", "delete", .delete),
    ("s", "step", .step), ("n", "next", .next), ("c", "continue", .continue_),
    ("fg", "foreground", .continue_), ("q", "quit", .quit), ("re", "reset", .reset),
    ("h", "help", .help), ("wa", "watch", .watch), ("rwa", "rwatch", .rwatch),
    ("awa", "awatch", .awatch), ("?", "?", .help), ("l", "list", .list),
    ("sym", "symbol-file", .symbolFile), ("di", "display", .display), ("so", "source", .source),
    ("regs", "regs", .regs), ("vars", "vars", .vars), ("runfor", "runfor", .runfor),
    ("me", "measure", .measure), ("dumpi", "dumpi", .dumpInsns), ("td", "tracedump", .traceDump),
    ("dump", "du", .dump), ("restore", "res", .restore) ]

/-- `command_lookup`: flags after a slash do not count. -/
def commandLookup (cmd : List Char) : Option Handler :=
  let cmd := cmd.takeWhile (· ≠ '/')
  (cmdtab.find? fun c => cmd = c.1.toList || cmd = c.2.1.toList).map fun c => c.2.2

/-- What a handler assigns to `exit_command_loop`, if anything. -/
def Handler.exit (args : List Char) : Handler → Option Int
  | .step | .next | .continue_ | .runfor => some 0
  | .measure => (strtok args).map fun _ => 0
  | .quit => some 1
  | _ => none

/-! ## The session -/

/-- The globals of the command input. -/
structure Session where
  /-- What is left of the script being read; `none` is `stdin`. -/
  commandInput : Option (List Char)
  stdin : List Char
  /-- `feof (command_input)`. -/
  feof : Bool
  prevBuffer : List Char
  exitCommandLoop : Int
  /-- The lines read so far, each with whether it came from the keyboard. -/
  lines : List (Bool × List Char)

-- The files, by name.
variable (files : List Char → Option (List Char))

namespace Session

/-- What is left of the current input. -/
def input (s : Session) : List Char := s.commandInput.getD s.stdin

def keyboard (s : Session) : Bool := s.commandInput.isNone

def setInput (s : Session) (cs : List Char) : Session :=
  match s.commandInput with
  | some _ => { s with commandInput := some cs }
  | none => { s with stdin := cs }

/-- `command_exec_file`, the result telling whether the file could be opened. -/
def execFile (name : List Char) (s : Session) : Bool × Session :=
  match files name with
  | some text => (true, { s with commandInput := some text, feof := false })
  | none => (false, s)

/-- `cmd_source`. -/
def cmdSource (args : List Char) (s : Session) : Session :=
  match strtok args with
  | none => s
  | some (name, _) => (s.execFile files name).2

/-- Call a handler. -/
def perform (h : Handler) (args : List Char) (s : Session) : Session :=
  match h with
  | .source => s.cmdSource files args
  | h => { s with exitCommandLoop := (h.exit args).getD s.exitCommandLoop }

/-- What `command_exec` does with a line once it is read. -/
def execLine (buffer : List Char) (s : Session) : Session :=
  let buffer := if buffer.head? = some '\n' then s.prevBuffer else buffer
  if buffer.head? = some '#' then s
  else
    match strtok buffer with
    | none => s
    | some (cmd, args) =>
      let s := { s with prevBuffer := cmd }
      match commandLookup cmd with
      | none => s
      | some h => s.perform files h args

/-- `command_exec (command_input)`. -/
def commandExec (s : Session) : Int × Session :=
  let (buffer, rest, eof) := fgets 254 s.input
  let s := { s.setInput rest with feof := eof }
  if eof then (-1, s)
  else (0, { s with lines := s.lines ++ [(s.keyboard, buffer)] }.execLine files buffer)

/-- One turn of the loop in `command_loop`, with what follows the loop when it ends: a script that is
finished is closed, and the loop restarts on `stdin`; otherwise there is a result to return. -/
def turn (s : Session) : Session × Option Int :=
  let (rc, s) := s.commandExec files
  if rc < 0 ∨ s.exitCommandLoop ≥ 0 then
    if s.feof ∧ !s.keyboard then
      ({ s with commandInput := none, feof := false, exitCommandLoop := -1 }, none)
    else (s, some s.exitCommandLoop)
  else (s, none)

/-- `command_loop`, for at most the given number of lines. -/
def commandLoop : Nat → Session → Option (Int × Session)
  | 0, _ => none
  | n + 1, s =>
    match s.turn files with
    | (s, some rc) => some (rc, s)
    | (s, none) => commandLoop n s

/-- The debugger is entered: `exit_command_loop = -1`, then the loop. -/
def enter (n : Nat) (s : Session) : Option (Int × Session) :=
  { s with exitCommandLoop := -1 }.commandLoop files n

/-- There is nothing more to come: `quit` was given, or the keyboard input has ended. -/
def finished (s : Session) : Bool := s.exitCommandLoop = 1 || (s.keyboard && s.feof)

/-- A whole session, line by line: each time the loop has returned, the debugger is entered again.
At most the given number of turns. -/
def play : Nat → Session → Session
  | 0, s => s
  | n + 1, s =>
    if s.finished then s else play n ({ s with exitCommandLoop := -1 }.turn files).1

end Session

end Exec09
