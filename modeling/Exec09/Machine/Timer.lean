import Exec09.Cpu.State

/-!
# The hardware timer

`hwtimer` and `oscillator` of `timer.c`.  A timer counts CPU cycles down; what it does to the rest
of the simulator, asserting a line of the interrupt multiplexer and reporting an error, is returned
as a list of calls.  The registers of `hwtimer_class` are not mapped on any board.
-/

namespace Exec09

/-- What a timer calls. -/
inductive TimerCall
  /-- `imux_assert (dev, line)`; devices are numbered by the bus. -/
  | imuxAssert (dev : Nat) (line : Unsigned)
  | simError
  deriving DecidableEq, Repr

/-- Generate an interrupt at zero. -/
abbrev HWTF_INT : Unsigned := 0x80

/-- `struct hwtimer`; `count` is an `int`. -/
structure Hwtimer where
  count : BitVec 32
  reload : Unsigned
  resolution : Unsigned
  flags : Unsigned
  prevCycles : BitVec 64
  intDev : Option Nat
  intLine : Unsigned
  deriving DecidableEq, Repr

namespace Hwtimer

/-- The interrupt generated when the count is zero or negative, if one is configured. -/
def interrupt (timer : Hwtimer) : List TimerCall :=
  match timer.intDev with
  | some dev => if timer.flags &&& HWTF_INT ≠ 0 then [.imuxAssert dev timer.intLine] else []
  | none => []

/-- Make a negative count positive again. -/
def wrap (timer : Hwtimer) : Hwtimer × List TimerCall :=
  if timer.count.toInt < 0 then
    if timer.reload > 0 then
      let count := timer.count + timer.reload
      ({ timer with count }, if count.toInt < 0 then [.simError] else [])
    else
      ({ timer with count := 0 }, [])
  else
    (timer, [])

/-- `hwtimer_decrement`. -/
def decrement (timer : Hwtimer) (cycles : Unsigned) : Hwtimer × List TimerCall :=
  if timer.count = 0 ∧ timer.reload = 0 then
    (timer, [])
  else
    let timer := { timer with count := timer.count - cycles }
    if timer.count.toInt ≤ 0 then
      let r := timer.wrap
      (r.1, timer.interrupt ++ r.2)
    else
      (timer, [])

/-- `hwtimer_update`, at the time `cycles`. -/
def update (timer : Hwtimer) (cycles : BitVec 64) : Hwtimer × List TimerCall :=
  let r := timer.decrement ((cycles - timer.prevCycles).setWidth 32)
  ({ r.1 with prevCycles := cycles }, r.2)

/-- `hwtimer_reset`. -/
def reset (timer : Hwtimer) (cycles : BitVec 64) : Hwtimer :=
  { timer with count := 0, flags := 0, resolution := 128, prevCycles := cycles }

/-- `oscillator_reset`. -/
def oscillatorReset (timer : Hwtimer) (cycles : BitVec 64) : Hwtimer :=
  let timer := timer.reset cycles
  let timer := { timer with count := timer.reload }
  if timer.intDev.isSome then { timer with flags := timer.flags ||| HWTF_INT } else timer

/-- What `oscillator_create` fills in of a block from `malloc`. -/
def oscillatorCreate (block : Hwtimer) (intDev : Option Nat) (intLine : Unsigned) : Hwtimer :=
  { block with reload := 2048, intDev, intLine }

/-- A sequence of calls of `hwtimer_decrement`. -/
def decrements (timer : Hwtimer) : List Unsigned → Hwtimer × List TimerCall
  | [] => (timer, [])
  | cycles :: l =>
    let r := timer.decrement cycles
    let r' := r.1.decrements l
    (r'.1, r.2 ++ r'.2)

end Hwtimer

end Exec09
