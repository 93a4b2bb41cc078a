import Exec09.Cpu.State

/-!
# The load of the interrupts

`command_exit_irq_hook`, which `rti` calls, and the virtual register `$irqload`.
-/

namespace Exec09

abbrev IRQ_CYCLE_COUNTS : Nat := 128

/-- The globals of the hook.  The table has `unsigned int`s, the sum is an `unsigned long`. -/
structure IrqLoad where
  irqCycleTab : Nat → Unsigned
  irqCycleEntry : Nat
  irqCycles : BitVec 64

namespace IrqLoad

def init : IrqLoad := ⟨fun _ => 0, 0, 0⟩

/-- `command_exit_irq_hook`. -/
def commandExitIrqHook (s : IrqLoad) (cycles : BitVec 64) : IrqLoad where
  irqCycleTab i := if i = s.irqCycleEntry then cycles.setWidth 32 else s.irqCycleTab i
  irqCycleEntry := (s.irqCycleEntry + 1) % IRQ_CYCLE_COUNTS
  irqCycles := s.irqCycles - (s.irqCycleTab s.irqCycleEntry).setWidth 64 + cycles

/-- `irq_load_virtual`: the value of `$irqload`. -/
def irqLoadVirtual (s : IrqLoad) : BitVec 64 := s.irqCycles / BitVec.ofNat 64 IRQ_CYCLE_COUNTS

/-- The globals after the calls with the arguments `l`. -/
def after (l : List (BitVec 64)) : IrqLoad := l.foldl commandExitIrqHook init

end IrqLoad

/-- What `rti` passes to the hook.  Without an IRQ so far `irq_start_time` is 0. -/
def Cpu.irqCycles {σ : Type} (s : Cpu σ) (irqStartTime : BitVec 64) : BitVec 64 :=
  s.getCycles - irqStartTime

end Exec09
