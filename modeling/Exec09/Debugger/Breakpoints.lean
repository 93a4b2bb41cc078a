import Exec09.Machine.Bus
import Mathlib.Data.Fintype.Card

/-!
# The breakpoint table

The table `breaktab` of `command.c`, the commands that create and delete entries, and the hooks the
processor calls before each instruction and on each memory access.

A command is given here by its arguments once they are evaluated: the address `eval_mem` yields,
the number after `mask` or `ignore`, the text after `if`.  The rest of `eval` is outside this
module; what it returns for a condition, and what it leaves in the buffer, comes with the event
(`HookEnv`).

Two history variables record what no variable of the source remembers: what the command asked for
that created the occupant of a slot, and the calls of `breakpoint_hit`.
-/

namespace Exec09

abbrev MAX_BREAKS : Nat := 32

abbrev MAX_TRACE : Nat := 256

/-- `breakpoint_t`, with the fields that are ever read. -/
structure Breakpoint where
  id : U8
  used : Bool
  enabled : Bool
  conditional : Bool
  threaded : Bool
  onRead : Bool
  onWrite : Bool
  onExecute : Bool
  keepRunning : Bool
  temp : Bool
  lastWrite : U16
  writeMask : U16
  addr : BitVec 64
  condition : String
  tid : Unsigned
  ignoreCount : Unsigned
  deriving DecidableEq, Repr

/-- An entry as the program starts. -/
def Breakpoint.zeroed : Breakpoint where
  id := 0
  used := false
  enabled := false
  conditional := false
  threaded := false
  onRead := false
  onWrite := false
  onExecute := false
  keepRunning := false
  temp := false
  lastWrite := 0
  writeMask := 0
  addr := 0
  condition := ""
  tid := 0
  ignoreCount := 0

/-- An index of `breaktab`. -/
abbrev Slot := Fin MAX_BREAKS

/-- What a command asks for. -/
structure Origin where
  addr : BitVec 64
  onExecute : Bool
  onRead : Bool
  onWrite : Bool
  /-- The number after `mask`, if one is given. -/
  mask : Option (BitVec 64)
  /-- `if` was given. -/
  conditional : Bool
  deriving DecidableEq, Repr

/-- The debugger's globals, with `monitor_on` of `monitor.c`. -/
structure Debugger where
  breaktab : Slot → Breakpoint
  activeBreakCount : Unsigned
  traceBuffer : Nat → U16
  traceOffset : Nat
  threadIdSize : Unsigned
  threadCurrent : BitVec 64
  threadId : BitVec 64
  monitorOn : Bool
  /-- What the last command asked for that created an entry in the slot. -/
  origin : Slot → Option Origin
  /-- Calls of `breakpoint_hit` so far, latest first. -/
  hits : List Slot

namespace Debugger

/-- The debugger as the program starts. -/
def init : Debugger where
  breaktab _ := Breakpoint.zeroed
  activeBreakCount := 0
  traceBuffer _ := 0
  traceOffset := 0
  threadIdSize := 2
  threadCurrent := 0
  threadId := 0
  monitorOn := false
  origin _ := none
  hits := []

/-- Assign fields of an entry. -/
def modifySlot (n : Slot) (f : Breakpoint → Breakpoint) (d : Debugger) : Debugger :=
  { d with breaktab := Function.update d.breaktab n (f (d.breaktab n)) }

/-! ## Allocation -/

def brkEnable (n : Slot) (flag : Bool) (d : Debugger) : Debugger :=
  if (d.breaktab n).enabled ≠ flag then
    { d.modifySlot n fun br => { br with enabled := flag } with
      activeBreakCount := if flag then d.activeBreakCount + 1 else d.activeBreakCount - 1 }
  else d

/-- The slot `brkalloc` takes: the first one that is not used. -/
def freeSlot (d : Debugger) : Option Slot :=
  (List.finRange MAX_BREAKS).find? fun n => !(d.breaktab n).used

/-- `brkalloc`, for an entry that is to be as `o` says; without a free slot the caller follows a null
pointer. -/
def brkalloc (o : Origin) (d : Debugger) : Option (Slot × Debugger) :=
  d.freeSlot.map fun n =>
    (n, { (d.modifySlot n fun br =>
        { br with
          used := true
          id := BitVec.ofNat 8 n
          conditional := false
          threaded := false
          keepRunning := false
          ignoreCount := 0
          temp := false }).brkEnable n true with
      origin := Function.update d.origin n (some o) })

def brkfree (n : Slot) (d : Debugger) : Debugger :=
  (d.brkEnable n false).modifySlot n fun br => { br with used := false }

/-- One round of the loop of `brkfree_temps`. -/
def brkfreeTemp (d : Debugger) (n : Slot) : Debugger :=
  if (d.breaktab n).used ∧ (d.breaktab n).temp then d.brkfree n else d

def brkfreeTemps (d : Debugger) : Debugger := (List.finRange MAX_BREAKS).foldl brkfreeTemp d

/-- The first entry with that address. -/
def brkfindByAddr (d : Debugger) (addr : BitVec 64) : Option Slot :=
  (List.finRange MAX_BREAKS).find? fun n => (d.breaktab n).addr = addr

/-! ## Commands -/

/-- What may follow the address of `b`. -/
inductive BreakArg
  | cond (text : String)
  | ignore (count : Unsigned)
  | other
  deriving DecidableEq, Repr

/-- What may follow the address of a watch command, in any number. -/
inductive WatchArg
  | print
  | mask (m : BitVec 64)
  | cond (text : String)
  | other
  deriving DecidableEq, Repr

/-- `strcpy (br->condition, arg)` and `br->conditional = 1`; the buffer has 128 bytes. -/
def setCondition (n : Slot) (text : String) (d : Debugger) : Option Debugger :=
  if text.utf8ByteSize < 128 then
    some (d.modifySlot n fun br => { br with conditional := true, condition := text })
  else none

def breakOrigin (addr : BitVec 64) (arg : Option BreakArg) : Origin where
  addr := addr
  onExecute := true
  onRead := false
  onWrite := false
  mask := none
  conditional := match arg with
    | some (.cond _) => true
    | _ => false

def cmdBreak (addr : BitVec 64) (arg : Option BreakArg) (d : Debugger) : Option Debugger := do
  let (n, d) ← d.brkalloc (breakOrigin addr arg)
  let d := d.modifySlot n fun br => { br with addr := addr, onExecute := true }
  match arg with
  | some (.cond text) => d.setCondition n text
  | some (.ignore count) => return d.modifySlot n fun br => { br with ignoreCount := count }
  | _ => return d

/-- The mask an argument gives. -/
def WatchArg.mask? : WatchArg → Option (BitVec 64)
  | .mask m => some m
  | _ => none

/-- Is it `if`? -/
def WatchArg.isCond : WatchArg → Bool
  | .cond _ => true
  | _ => false

/-- The last mask given. -/
def lastMask : List WatchArg → Option (BitVec 64)
  | [] => none
  | a :: l => (lastMask l).or a.mask?

def watchOrigin (onRead onWrite : Bool) (addr : BitVec 64) (args : List WatchArg) : Origin where
  addr := addr
  onExecute := false
  onRead := onRead
  onWrite := onWrite
  mask := lastMask args
  conditional := args.any WatchArg.isCond

/-- One round of the loop of `cmd_watch1`. -/
def watchArg (n : Slot) (d : Debugger) : WatchArg → Option Debugger
  | .print => return d.modifySlot n fun br => { br with keepRunning := true }
  | .mask m => return d.modifySlot n fun br => { br with writeMask := m.setWidth 16 }
  | .cond text => d.setCondition n text
  | .other => return d

def cmdWatch1 (onRead onWrite : Bool) (addr : BitVec 64) (args : List WatchArg) (d : Debugger) :
    Option Debugger := do
  let (n, d) ← d.brkalloc (watchOrigin onRead onWrite addr args)
  args.foldlM (watchArg n)
    (d.modifySlot n fun br => { br with addr := addr, onRead := onRead, onWrite := onWrite })

def cmdWatch := cmdWatch1 false true
def cmdRwatch := cmdWatch1 true false
def cmdAwatch := cmdWatch1 true true

/-- The temporary breakpoint of `cmd_next`, behind the current instruction, and of `cmd_measure`, at
the return address. -/
def breakTemp (addr : BitVec 64) (d : Debugger) : Option Debugger := do
  let (n, d) ← d.brkalloc (breakOrigin addr none)
  return d.modifySlot n fun br => { br with addr := addr, onExecute := true, temp := true }

def cmdNext := breakTemp
def cmdMeasure := breakTemp

/-- `cmd_delete`: all entries, or one by its number; a number outside the table is an invalid
index. -/
def cmdDelete (id : Option Nat) (d : Debugger) : Option Debugger :=
  match id with
  | none => some ((List.finRange MAX_BREAKS).foldl (fun d n => d.brkfree n) d)
  | some id =>
    if h : id < MAX_BREAKS then
      if (d.breaktab ⟨id, h⟩).used then some (d.brkfree ⟨id, h⟩) else some d
    else none

/-! ## Hooks -/

/-- What the hooks get from the rest of the debugger. -/
structure HookEnv where
  /-- `eval`: the value of a condition and what is left of its text. -/
  eval : String → BitVec 64 × String
  /-- The thread the target's memory names: `to_absolute (target_read (..))`. -/
  thread : BitVec 64

def breakpointHit (e : HookEnv) (n : Slot) (d : Debugger) : Debugger :=
  let d := { d with hits := n :: d.hits }
  let br := d.breaktab n
  if br.threaded ∧ d.threadId ≠ br.tid.setWidth 64 then d
  else
    let val := e.eval br.condition
    let d := if br.conditional then d.modifySlot n fun br => { br with condition := val.2 } else d
    if br.conditional ∧ val.1 = 0 then d
    else if br.ignoreCount ≠ 0 then
      d.modifySlot n fun br => { br with ignoreCount := br.ignoreCount - 1 }
    else { d with monitorOn := !br.keepRunning }

def commandTraceInsn (addr : U16) (d : Debugger) : Debugger :=
  { d with
    traceBuffer := fun i => if i = d.traceOffset then addr else d.traceBuffer i
    traceOffset := (d.traceOffset + 1) % MAX_TRACE }

/-- `command_insn_hook`, with `pc` at the absolute address `abspc`. -/
def commandInsnHook (e : HookEnv) (pc : U16) (abspc : BitVec 64) (d : Debugger) : Debugger :=
  let d := d.commandTraceInsn pc
  if d.activeBreakCount = 0 then d
  else
    match d.brkfindByAddr abspc with
    | some n =>
      if (d.breaktab n).enabled ∧ (d.breaktab n).onExecute then
        let d := d.breakpointHit e n
        if d.monitorOn ∧ (d.breaktab n).temp then d.brkfree n else d
      else d
    | none => d

def commandReadHook (e : HookEnv) (addr : BitVec 64) (d : Debugger) : Debugger :=
  if d.activeBreakCount = 0 then d
  else
    match d.brkfindByAddr addr with
    | some n =>
      if (d.breaktab n).enabled ∧ (d.breaktab n).onRead then d.breakpointHit e n else d
    | none => d

def commandChangeThread (e : HookEnv) (d : Debugger) : Debugger :=
  if e.thread = d.threadId then d else { d with threadId := e.thread }

/-- The end of `command_write_hook`. -/
def changeThreadAt (e : HookEnv) (addr : BitVec 64) (d : Debugger) : Debugger :=
  if d.threadIdSize ≠ 0 ∧ addr = d.threadCurrent + d.threadIdSize.setWidth 64 - 1 then
    d.commandChangeThread e
  else d

/-- The bits under the mask have changed since the last write. -/
def maskOk (br : Breakpoint) (val : U8) : Bool :=
  br.lastWrite &&& br.writeMask ≠ val.setWidth 16 &&& br.writeMask

/-- `command_write_hook`.  The thread is looked at only when the hook has not returned before. -/
def commandWriteHook (e : HookEnv) (addr : BitVec 64) (val : U8) (d : Debugger) : Debugger :=
  if d.activeBreakCount = 0 then d.changeThreadAt e addr
  else
    match d.brkfindByAddr addr with
    | some n =>
      let br := d.breaktab n
      if br.enabled ∧ br.onWrite then
        let d := if br.writeMask ≠ 0 then
            d.modifySlot n fun br => { br with lastWrite := val.setWidth 16 }
          else d
        if br.writeMask ≠ 0 ∧ ¬maskOk br val then d
        else
          let d := d.breakpointHit e n
          if d.monitorOn then d.changeThreadAt e addr else d
      else d.changeThreadAt e addr
    | none => d.changeThreadAt e addr

end Debugger

end Exec09
