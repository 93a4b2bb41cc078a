import Exec09.Framework.Program

/-!
# The 6809 processor state

The globals of `6809.c` and the interface through which the interpreter reaches the rest of
the simulator.  A C `unsigned` is a 32-bit word (`Unsigned`), and the registers keep that
width here: nothing in the types says that `A` is a byte or that `PC` is a 16-bit address.

The interpreter calls out to `machine.c` (`cpu_read8`, `cpu_read16`, `cpu_write8`) and to the
debugger hooks.  `Machine` collects these as operations on a world `σ`, which holds memory,
devices and debugger data.  An operation sees the processor only through `View`, the values the
`get_xx` functions return, and answers with what it did to the interpreter: `Signal`s
(`sim_error`, a change of `monitor_on`, `exit`) and, for a write, requests on the interrupt
lines.

Programs run in `M σ`, a state monad in which `exit` is an exception.  Two history variables,
`simErrors` and `hist`, record what the program text makes happen but no variable of the
source remembers: calls of `sim_error`, and interrupt entries, requests and releases.
-/

namespace Exec09

open Program

/-- C `unsigned int`. -/
abbrev Unsigned := BitVec 32

/-- The source's `U8`. -/
abbrev U8 := BitVec 8

/-- The source's `U16`. -/
abbrev U16 := BitVec 16

/-- The cast `(INT8) v`, converted back to `unsigned`. -/
def int8 (v : Unsigned) : Unsigned := (v.setWidth 8).signExtend 32

/-- The cast `(INT16) v`, converted back to `unsigned`. -/
def int16 (v : Unsigned) : Unsigned := (v.setWidth 16).signExtend 32

/-! ## Condition code bits -/

abbrev E_FLAG : Unsigned := 0x80
abbrev F_FLAG : Unsigned := 0x40
abbrev H_FLAG : Unsigned := 0x20
abbrev I_FLAG : Unsigned := 0x10
abbrev N_FLAG : Unsigned := 0x08
abbrev Z_FLAG : Unsigned := 0x04
abbrev V_FLAG : Unsigned := 0x02
abbrev C_FLAG : Unsigned := 0x01

/-- The lazily kept condition codes.  Each variable holds a leftover of the last result that
set it: `H` is read at bit 4, `N` and `OV` at bit 7, `Z` is set when it is zero and `C` when it
is not. -/
structure Flags where
  H : Unsigned
  N : Unsigned
  Z : Unsigned
  OV : Unsigned
  C : Unsigned
  deriving DecidableEq, Repr

/-! ## The machine behind the bus -/

/-- What the rest of the simulator can see of the processor: the results of `get_a` ...
`get_pc`, `get_cc` and `get_cycles`. -/
structure View where
  a : Unsigned
  b : Unsigned
  dp : Unsigned
  x : Unsigned
  y : Unsigned
  u : Unsigned
  s : Unsigned
  pc : Unsigned
  cc : Unsigned
  cycles : BitVec 64
  deriving DecidableEq, Repr

/-- How the simulator process ends. -/
inductive Exit
  /-- `exit (code)`. -/
  | code (n : U8)
  /-- The C call stack is exhausted by interrupt entries nested inside stack writes. -/
  | overflow
  deriving DecidableEq, Repr

/-- What a bus access or a hook does to the interpreter besides its result. -/
inductive Signal
  /-- A call of `sim_error`, such as a fault handler makes. -/
  | simError
  /-- `monitor_on` is assigned. -/
  | monitor (on : Bool)
  /-- `exit (code)`, such as the console's exit port makes through `sim_exit`. -/
  | exit (code : U8)
  deriving DecidableEq, Repr

/-- What a write can do: a device may work the interrupt lines. -/
inductive Effect
  | signal (e : Signal)
  | requestIrq (source : Unsigned)
  | releaseIrq (source : Unsigned)
  | requestFirq (source : Unsigned)
  | releaseFirq (source : Unsigned)
  deriving DecidableEq, Repr

/-- The answer to a read. -/
structure Reply (σ β : Type) where
  val : β
  world : σ
  signals : List Signal

/-- The answer to a write. -/
structure WriteReply (σ : Type) where
  world : σ
  effects : List Effect

/-- The functions the interpreter calls outside `6809.c`, over a world `σ` of memory, devices
and debugger data. -/
class Machine (σ : Type) where
  /-- `cpu_read8`, its fault handling and read hook included. -/
  read8 : View → σ → Unsigned → Reply σ U8
  /-- `cpu_read16`. -/
  read16 : View → σ → Unsigned → Reply σ U16
  /-- `cpu_write8`. -/
  write8 : View → σ → Unsigned → U8 → WriteReply σ
  /-- `command_insn_hook` followed by `check_break`. -/
  insnHook : View → σ → Reply σ Unit
  /-- `cpu_is_running`, called once the processor is reset. -/
  cpuIsRunning : σ → σ
  /-- `debug_enabled`. -/
  debugEnabled : Bool
  /-- How many interrupt entries can be nested inside one another's stack writes before the C
  call stack is exhausted. -/
  nesting : Nat

/-! ## Processor state -/

/-- What the interrupt logic saw at one moment. -/
structure Snapshot where
  cc : Unsigned
  S : Unsigned
  irqsPending : Unsigned
  firqsPending : Unsigned
  deriving DecidableEq, Repr

/-- The interrupt history. -/
inductive Event
  /-- `irq ()` is entered. -/
  | irq (at_ : Snapshot)
  /-- `firq ()` is entered. -/
  | firq (at_ : Snapshot)
  /-- A call of `request_irq` or `request_firq` has returned. -/
  | requested (after : Snapshot)
  /-- `release_irq` is called. -/
  | releasedIrq
  /-- `release_firq` is called. -/
  | releasedFirq
  deriving DecidableEq, Repr

/-- The globals of `6809.c`, with `total` of `main.c`, `monitor_on` of `monitor.c`, the world,
and the two history variables. -/
structure Cpu (σ : Type) where
  X : Unsigned
  Y : Unsigned
  S : Unsigned
  U : Unsigned
  PC : Unsigned
  A : Unsigned
  B : Unsigned
  DP : Unsigned
  flags : Flags
  EFI : Unsigned
  iPC : Unsigned
  ea : Unsigned
  cpuClk : Int
  cpuPeriod : Int
  total : BitVec 64
  irqsPending : Unsigned
  firqsPending : Unsigned
  ccChanged : Unsigned
  monitorOn : Bool
  world : σ
  /-- Number of calls of `sim_error` so far. -/
  simErrors : Nat
  /-- Interrupt entries, requests and releases so far, latest first. -/
  hist : List Event

/-- Interpreter programs: globals are state and `exit` is an exception. -/
abbrev M (σ : Type) := StateT (Cpu σ) (Except Exit)

variable {σ : Type}

namespace Cpu

/-! ## Reading registers from outside -/

def getA (s : Cpu σ) : Unsigned := s.A
def getB (s : Cpu σ) : Unsigned := s.B
def getDp (s : Cpu σ) : Unsigned := s.DP >>> 8
def getX (s : Cpu σ) : Unsigned := s.X
def getY (s : Cpu σ) : Unsigned := s.Y
def getS (s : Cpu σ) : Unsigned := s.S
def getU (s : Cpu σ) : Unsigned := s.U
def getPc (s : Cpu σ) : Unsigned := s.PC &&& 0xffff
def getD (s : Cpu σ) : Unsigned := (s.A <<< 8) ||| s.B

/-- The condition code byte the lazy flags stand for. -/
def getCc (s : Cpu σ) : Unsigned :=
  (s.EFI &&& (E_FLAG ||| F_FLAG ||| I_FLAG))
    ||| (if s.flags.H &&& 0x10 ≠ 0 then H_FLAG else 0)
    ||| (if s.flags.N &&& 0x80 ≠ 0 then N_FLAG else 0)
    ||| (if s.flags.Z = 0 then Z_FLAG else 0)
    ||| (if s.flags.OV &&& 0x80 ≠ 0 then V_FLAG else 0)
    ||| (if s.flags.C ≠ 0 then C_FLAG else 0)

/-- `EFI & I_FLAG`. -/
def irqMasked (s : Cpu σ) : Bool := s.EFI &&& I_FLAG ≠ 0

/-- `EFI & F_FLAG`. -/
def firqMasked (s : Cpu σ) : Bool := s.EFI &&& F_FLAG ≠ 0

/-- `EFI & E_FLAG`. -/
def entireState (s : Cpu σ) : Bool := s.EFI &&& E_FLAG ≠ 0

/-- An IRQ is pending and not masked. -/
def irqDeliverable (s : Cpu σ) : Bool := s.irqsPending ≠ 0 ∧ ¬s.irqMasked

/-- A FIRQ is pending and not masked. -/
def firqDeliverable (s : Cpu σ) : Bool := s.firqsPending ≠ 0 ∧ ¬s.firqMasked

/-- `total + cpu_period - cpu_clk`, an `unsigned long`. -/
def getCycles (s : Cpu σ) : BitVec 64 := s.total + BitVec.ofInt 64 (s.cpuPeriod - s.cpuClk)

/-- What the rest of the simulator sees. -/
def view (s : Cpu σ) : View where
  a := s.getA
  b := s.getB
  dp := s.getDp
  x := s.getX
  y := s.getY
  u := s.getU
  s := s.getS
  pc := s.getPc
  cc := s.getCc
  cycles := s.getCycles

/-- The interrupt logic's view, for the history. -/
def snapshot (s : Cpu σ) : Snapshot where
  cc := s.getCc
  S := s.S
  irqsPending := s.irqsPending
  firqsPending := s.firqsPending

/-! ## Writing registers from outside -/

def setA (val : Unsigned) (s : Cpu σ) : Cpu σ := { s with A := val &&& 0xff }
def setB (val : Unsigned) (s : Cpu σ) : Cpu σ := { s with B := val &&& 0xff }
def setDp (val : Unsigned) (s : Cpu σ) : Cpu σ := { s with DP := (val &&& 0xff) <<< 8 }
def setX (val : Unsigned) (s : Cpu σ) : Cpu σ := { s with X := val &&& 0xffff }
def setY (val : Unsigned) (s : Cpu σ) : Cpu σ := { s with Y := val &&& 0xffff }
def setS (val : Unsigned) (s : Cpu σ) : Cpu σ := { s with S := val &&& 0xffff }
def setU (val : Unsigned) (s : Cpu σ) : Cpu σ := { s with U := val &&& 0xffff }
def setPc (val : Unsigned) (s : Cpu σ) : Cpu σ := { s with PC := val &&& 0xffff }
def setD (val : Unsigned) (s : Cpu σ) : Cpu σ :=
  { s with A := (val >>> 8) &&& 0xff, B := val &&& 0xff }

/-- The flags `set_cc` unpacks from a condition code byte. -/
def flagsOfCc (arg : Unsigned) : Flags where
  H := if arg &&& H_FLAG ≠ 0 then 0x10 else 0
  N := if arg &&& N_FLAG ≠ 0 then 0x80 else 0
  Z := ~~~arg &&& Z_FLAG
  OV := if arg &&& V_FLAG ≠ 0 then 0x80 else 0
  C := arg &&& C_FLAG

/-- Unpack a condition code byte and have the interrupt lines polled at the end of the
instruction. -/
def setCc (arg : Unsigned) (s : Cpu σ) : Cpu σ :=
  { s with
    EFI := arg &&& (E_FLAG ||| F_FLAG ||| I_FLAG)
    flags := flagsOfCc arg
    ccChanged := 1 }

end Cpu

/-! ## Elementary programs -/

/-- `cpu_clk -= n`. -/
def tick (n : Int) : M σ Unit := modify fun s => { s with cpuClk := s.cpuClk - n }

lemma tick_apply (n : Int) (s : Cpu σ) :
    tick n s = .ok ((), { s with cpuClk := s.cpuClk - n }) := rfl

/-- Run a flag computation. -/
def alu {α : Type} (g : Flags → α × Flags) : M σ α :=
  modifyGet fun s => ((g s.flags).1, { s with flags := (g s.flags).2 })

variable [Machine σ]

/-- `sim_error`: with the debugger enabled the monitor is requested and the caller goes on,
otherwise the process ends. -/
def simError : M σ Unit := do
  modify fun s => { s with simErrors := s.simErrors + 1 }
  if Machine.debugEnabled σ then
    modify fun s => { s with monitorOn := true }
  else
    throw (.code 2)

/-- Carry out what a bus access reported. -/
def signal : Signal → M σ Unit
  | .simError => simError
  | .monitor on => modify fun s => { s with monitorOn := on }
  | .exit code => throw (.code code)

/-- A call into the machine that can only answer and signal. -/
def access {β : Type} (call : View → σ → Reply σ β) : M σ β := do
  let r ← modifyGet fun s => (call s.view s.world, { s with world := (call s.view s.world).world })
  r.signals.forM signal
  return r.val

end Exec09
