import Exec09.Cpu.Run
import Exec09.Main.Options

/-!
# The loop of `main`

`idle_loop` and the `for` loop of `main.c`.  What they call outside the interpreter is a parameter
(`MainCalls`), and so is the time of day: a run is given the milliseconds of real time that
`idle_loop` finds to have passed, one number for each iteration.  The process sleeping is not
modelled.
-/

namespace Exec09

open Program

/-! ## `idle_loop` -/

/-- The static variables of `idle_loop`, less the time of day.  Of its `int`s, the two sums are
taken not to overflow. -/
structure Idle where
  count : Int
  lastCycles : BitVec 64
  totalMsElapsed : Int
  cumulativeDelay : Int
  deriving DecidableEq, Repr

namespace Idle

abbrev period : Int := 30

abbrev CYCLES_PER_MS : Nat := 2000

def initial : Idle where
  count := period
  lastCycles := 0
  totalMsElapsed := 0
  cumulativeDelay := 0

/-- `sim_ms`, at the time `cycles`. -/
def simMs (i : Idle) (cycles : BitVec 64) : Int :=
  let ms := toInt ((cycles - i.lastCycles) / BitVec.ofNat 64 CYCLES_PER_MS).toNat
  if ms < 0 then ms + CYCLES_PER_MS else ms

/-- `total_ms_elapsed` when it is looked at. -/
def elapsed (i : Idle) (cycles : BitVec 64) : Int := i.totalMsElapsed + i.simMs cycles

/-- What the body leaves, `realMs` milliseconds of real time after the last time. -/
def next (i : Idle) (cycles : BitVec 64) (realMs : Int) : Idle :=
  let delay := i.cumulativeDelay + (i.simMs cycles - realMs)
  { count := period
    lastCycles := cycles
    totalMsElapsed := if i.elapsed cycles > 100 then i.elapsed cycles - 100 else i.elapsed cycles
    cumulativeDelay := if delay > 0 then delay - 50 else delay }

end Idle

variable {σ D : Type} [Machine σ]

/-- `idle_loop`; `periodic` is `machine->periodic` and `command_periodic`. -/
def idleLoop (periodic : M σ Unit) (realMs : Int) (i : Idle) : M σ Idle := do
  if i.count - 1 > 0 then return { i with count := i.count - 1 }
  else do
    let cycles ← reads Cpu.getCycles
    whenever (i.elapsed cycles > 100) periodic
    return i.next cycles realMs

/-! ## The loop -/

/-- `mhz`, which nothing assigns. -/
abbrev mhz : Unsigned := 1

namespace Settings

/-- Interrupts are requested by the clock. -/
def interrupting (o : Settings) : Bool := ¬(o.cyclesPerIrq = 0 ∧ o.cyclesPerFirq = 0)

/-- The argument of `cpu_execute`, an `int`. -/
def slice (o : Settings) : Int :=
  if o.interrupting then o.cyclesPerIrq.toInt else (mhz * 1024).toInt

end Settings

/-- What the loop calls, over the state `D` that devices keep for `machine_update`. -/
structure MainCalls (σ D : Type) where
  monitor6809 : M σ Bool
  machineUpdate : D → M σ D
  periodic : M σ Unit
  /-- `cpu_quit` is zero. -/
  quitting : σ → Bool

/-- The static variables of the loop and of what it calls. -/
structure Statics (D : Type) where
  firqFreq : Nat
  devices : D
  idle : Idle

/-- Before the first iteration. -/
def Statics.initial (d : D) : Statics D := ⟨0, d, Idle.initial⟩

/-- Every eighth time there is also a FIRQ. -/
def clockInterrupts (v : Statics D) : M σ (Statics D) := do
  requestIrq 0
  if v.firqFreq + 1 = 8 then
    requestFirq 0
    return { v with firqFreq := 0 }
  else return { v with firqFreq := v.firqFreq + 1 }

/-- The check for a rogue program that won't end. -/
def checkCycles (o : Settings) : M σ Unit := do
  let total ← reads Cpu.total
  whenever (o.maxCycles > 0 ∧ total > o.maxCycles) simError

/-- Interrupts by the clock, or the devices that need periodic processing. -/
def clockOrDevices (c : MainCalls σ D) (o : Settings) (v : Statics D) : M σ (Statics D) :=
  if o.interrupting then clockInterrupts v
  else do
    let devices ← c.machineUpdate v.devices
    return { v with devices }

/-- What an iteration does after the slice. -/
def afterSlice (c : MainCalls σ D) (o : Settings) (realMs : Int) (v : Statics D) :
    M σ (Statics D) := do
  let v ← clockOrDevices c o v
  let idle ← idleLoop c.periodic realMs v.idle
  checkCycles o
  return { v with idle }

/-- One iteration, if `fuel` is enough for its slice. -/
def mainIteration (c : MainCalls σ D) (o : Settings) (fuel : Nat) (realMs : Int) (v : Statics D) :
    M σ (Option (Statics D)) := do
  match ← mainSlice c.monitor6809 fuel o.slice with
  | none => return none
  | some () =>
    let v ← afterSlice c o realMs v
    return some v

/-- The loop, for as many iterations as there are times: `some` if it goes on after them. -/
def mainFor (c : MainCalls σ D) (o : Settings) (fuel : Nat) :
    List Int → Statics D → M σ (Option (Statics D))
  | [], v => return some v
  | realMs :: rest, v => do
    match ← mainIteration c o fuel realMs v with
    | none => return none
    | some v =>
      if ← reads fun s => c.quitting s.world then throw (.code 0)
      else mainFor c o fuel rest v

end Exec09
