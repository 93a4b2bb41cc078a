import Exec09.Cpu.Insn

/-!
# Runs

What can happen to the processor at an instruction boundary: an instruction, the hook before it, a
device or the main loop working an interrupt line, the debugger writing a register, time being
accounted for, and the rest of the simulator changing memory or devices.  A run is a list of such
actions; nothing restricts their order.
-/

namespace Exec09

open Program

variable {σ : Type}

/-- The registers the debugger can write. -/
inductive DebugReg
  | pc | x | y | u | s | d | a | b | dp | cc
  deriving DecidableEq, Repr

/-- `set_pc` ... `set_cc`. -/
def Cpu.poke : DebugReg → Unsigned → Cpu σ → Cpu σ
  | .pc => Cpu.setPc
  | .x => Cpu.setX
  | .y => Cpu.setY
  | .u => Cpu.setU
  | .s => Cpu.setS
  | .d => Cpu.setD
  | .a => Cpu.setA
  | .b => Cpu.setB
  | .dp => Cpu.setDp
  | .cc => Cpu.setCc

inductive Action (σ : Type)
  | insn
  | hook
  | irq
  | firq
  | requestIrq (source : Unsigned)
  | releaseIrq (source : Unsigned)
  | requestFirq (source : Unsigned)
  | releaseFirq (source : Unsigned)
  /-- The debugger writes a register. -/
  | poke (r : DebugReg) (val : Unsigned)
  /-- The main loop accounts for the time so far and grants a new slice. -/
  | clock (total : BitVec 64) (period clk : Int)
  /-- Memory or devices change by themselves, or the debugger changes them. -/
  | world (f : View → σ → σ)

variable [Machine σ]

def Action.run : Action σ → M σ Unit
  | .insn => cpuInsn
  | .hook => insnHook
  | .irq => Exec09.irq
  | .firq => Exec09.firq
  | .requestIrq source => Exec09.requestIrq source
  | .releaseIrq source => Exec09.releaseIrq source
  | .requestFirq source => Exec09.requestFirq source
  | .releaseFirq source => Exec09.releaseFirq source
  | .poke r val => modify (Cpu.poke r val)
  | .clock total period clk =>
      modify fun s => { s with total := total, cpuPeriod := period, cpuClk := clk }
  | .world f => modify fun s => { s with world := f s.view s.world }

/-- The actions one after the other. -/
def runActions (l : List (Action σ)) : M σ Unit := l.forM Action.run

/-- `n` instructions. -/
def runInsns (n : Nat) : M σ Unit := runActions (List.replicate n .insn)

/-! ## The main loop -/

section MainLoop

-- `monitor6809`, as in `cpu_execute`.
variable (monitor6809 : M σ Bool)

/-- `total += cpu_execute (cycles)`. -/
def mainSlice (fuel : Nat) (cycles : Int) : M σ (Option Unit) := do
  match ← cpuExecute monitor6809 fuel cycles with
  | none => return none
  | some v =>
    modify fun s => { s with total := s.total + BitVec.ofInt 64 v }
    return some ()

/-- Iterations of the loop in `main`: each simulates a slice and then does what else there is to
do, which may change devices and work the interrupt lines. -/
def mainLoop (fuel : Nat) : List (Int × List (Action σ)) → M σ (Option Unit)
  | [] => return some ()
  | (cycles, l) :: rest => do
    match ← mainSlice monitor6809 fuel cycles with
    | none => return none
    | some () =>
      runActions l
      mainLoop fuel rest

end MainLoop

end Exec09
