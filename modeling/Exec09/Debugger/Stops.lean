import Exec09.Debugger.Breakpoints

/-!
# Asking the program to stop

`cpu_execute` looks at `monitor_on` once for each instruction.  The hooks, `sim_error`, the signal
handler, the clock and the step count of `check_break` write it in between.  The hooks' effect on
the table is that of `Breakpoints`; what they print is added here.
-/

namespace Exec09

namespace Debugger

/-- A line that a hook prints. -/
inductive Report
  /-- `Breakpoint %d reached.` -/
  | breakpoint (id : U8)
  /-- `Watchpoint %d triggered.`, with the address and, for a write, the value. -/
  | watchpoint (id : U8) (addr : BitVec 64) (val : Option U8)
  deriving DecidableEq, Repr

/-- What `command_insn_hook` prints. -/
def insnReports (e : HookEnv) (pc : U16) (abspc : BitVec 64) (d : Debugger) : List Report :=
  let d := d.commandTraceInsn pc
  if d.activeBreakCount = 0 then []
  else
    match d.brkfindByAddr abspc with
    | some n =>
      if (d.breaktab n).enabled ∧ (d.breaktab n).onExecute then
        let d := d.breakpointHit e n
        if !d.monitorOn then []
        else if (d.breaktab n).temp then [] else [.breakpoint (d.breaktab n).id]
      else []
    | none => []

/-- What `command_read_hook` prints: the line stands before the call of `breakpoint_hit`. -/
def readReports (addr : BitVec 64) (d : Debugger) : List Report :=
  if d.activeBreakCount = 0 then []
  else
    match d.brkfindByAddr addr with
    | some n =>
      if (d.breaktab n).enabled ∧ (d.breaktab n).onRead then
        [.watchpoint (d.breaktab n).id addr none]
      else []
    | none => []

/-- What `command_write_hook` prints: the line stands behind the call, and behind the test of
`monitor_on`. -/
def writeReports (e : HookEnv) (addr : BitVec 64) (val : U8) (d : Debugger) : List Report :=
  if d.activeBreakCount = 0 then []
  else
    match d.brkfindByAddr addr with
    | some n =>
      let br := d.breaktab n
      if br.enabled ∧ br.onWrite then
        let d := if br.writeMask ≠ 0 then
            d.modifySlot n fun br => { br with lastWrite := val.setWidth 16 }
          else d
        if br.writeMask ≠ 0 ∧ ¬maskOk br val then []
        else
          let d := d.breakpointHit e n
          if !d.monitorOn then [] else [.watchpoint (d.breaktab n).id addr (some val)]
      else []
    | none => []

end Debugger

/-- The debugger with the other globals that can stop the program. -/
structure Monitor where
  debugger : Debugger
  /-- Instructions still to be executed after `s`, an `int`. -/
  autoBreakInsnCount : BitVec 32
  /-- Milliseconds still to pass after `runfor`, an `int`. -/
  stopAfterMs : BitVec 32
  debugEnabled : Bool
  out : List Debugger.Report

namespace Monitor

def setMonitorOn (m : Monitor) : Monitor :=
  { m with debugger := { m.debugger with monitorOn := true } }

/-- `sim_error`; without the debugger the process ends. -/
def simError (m : Monitor) : Option Monitor :=
  if m.debugEnabled then some m.setMonitorOn else none

def monitorSignal (m : Monitor) : Monitor := m.setMonitorOn

def commandPeriodic (m : Monitor) : Monitor :=
  if m.stopAfterMs ≠ 0 then
    let m := { m with stopAfterMs := m.stopAfterMs - 100 }
    if m.stopAfterMs.toInt ≤ 0 then { m.setMonitorOn with stopAfterMs := 0 } else m
  else m

def checkBreak (m : Monitor) : Bool × Monitor :=
  if 0 < m.autoBreakInsnCount.toInt then
    let m := { m with autoBreakInsnCount := m.autoBreakInsnCount - 1 }
    (m.autoBreakInsnCount = 0, m)
  else (false, m)

/-- `if (check_break () != 0) monitor_on = 1`, in `cpu_execute`. -/
def breakCheck (m : Monitor) : Monitor :=
  if m.checkBreak.1 then m.checkBreak.2.setMonitorOn else m.checkBreak.2

end Monitor

end Exec09
