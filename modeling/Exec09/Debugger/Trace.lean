import Exec09.Debugger.Breakpoints

/-!
# The trace buffer

`command_insn_hook` enters each program counter in `trace_buffer`; `cmd_trace_dump` lists the
buffer.  Of a line of the listing the program counter is modelled, not how it is printed.
-/

namespace Exec09

namespace Debugger

/-- The rounds of the loop of `cmd_trace_dump` from `off` on; `none` when `fuel` rounds are not
enough. -/
def traceDumpFrom (d : Debugger) : Nat → Nat → Option (List U16)
  | 0, _ => none
  | fuel + 1, off =>
    let pc := d.traceBuffer off
    let off := (off + 1) % MAX_TRACE
    if off ≠ d.traceOffset then (traceDumpFrom d fuel off).map (pc :: ·) else some [pc]

/-- `cmd_trace_dump`: the program counters it lists. -/
def cmdTraceDump (fuel : Nat) (d : Debugger) : Option (List U16) :=
  d.traceDumpFrom fuel ((d.traceOffset + 1) % MAX_TRACE)

end Debugger

end Exec09
