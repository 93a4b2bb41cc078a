import Exec09.Machine.Timer
import Exec09.Main.Loop
import Exec09.Properties.Multiplexer
import Exec09.Properties.Protection
import Exec09.Properties.SwitchRelease

/-!
# What the machines do between slices

`machine_update` calls the devices that have an `update` function; that is the oscillator of the
EON2.  The WPC has a `periodic` function, which polls the keyboard.  `command_periodic` is left out:
it only acts for a session that has asked to be stopped.
-/

namespace Exec09

open Program

variable {δ : Type} [Host δ]

/-! ## The oscillator -/

/-- The oscillator.  The history variable `calls` records what it has called, earliest first. -/
structure Oscillator where
  timer : Hwtimer
  calls : List TimerCall

/-- There is one multiplexer. -/
def TimerCall.run : TimerCall → M (Bus (Io Eon2 δ)) Unit
  | .imuxAssert _ line => (MuxAction.assert line).run
  | .simError => Exec09.simError

namespace Oscillator

/-- `oscillator_create (intdev, 0)`, on a block from `malloc`, before the first cycle. -/
def attached (block : Hwtimer) : Oscillator where
  timer := (Hwtimer.oscillatorCreate block (some 7) 0).oscillatorReset 0
  calls := []

/-- `hwtimer_update`. -/
def update (osc : Oscillator) : M (Bus (Io Eon2 δ)) Oscillator := do
  let cycles ← reads Cpu.getCycles
  (osc.timer.update cycles).2.forM TimerCall.run
  return ⟨(osc.timer.update cycles).1, osc.calls ++ (osc.timer.update cycles).2⟩

end Oscillator

/-! ## The keyboard of the WPC -/

/-- `select` and `read` of `wpc_keypoll`: a character, if one is there. -/
def pollKey (h : δ) : Option U8 × δ :=
  let (ready, h) := Host.select .terminal h
  if ready.1 then (some (Host.read .terminal h).1, (Host.read .terminal h).2) else (none, h)

/-- `wpc_periodic`. -/
def wpcPeriodic (b : Bus (Io WpcAsic δ)) : Bus (Io WpcAsic δ) :=
  (b.setDev (b.io.dev.keypoll (pollKey b.io.host).1).periodic).setHost (pollKey b.io.host).2

/-! ## The machines -/

namespace Model

/-- `machine_update`. -/
def machineUpdate (m : Model) (osc : Oscillator) : M (Bus (Io m.Regs δ)) Oscillator :=
  match m with
  | simple | eon | wpc => pure osc
  | eon2 => osc.update

/-- `machine->periodic`. -/
def periodicWork (m : Model) : M (Bus (Io m.Regs δ)) Unit :=
  match m with
  | simple | eon | eon2 => pure ()
  | wpc => modify fun s => { s with world := wpcPeriodic s.world }

/-- The loop of `main` on a machine. -/
def mainCalls (m : Model) (monitor6809 : M (Bus (Io m.Regs δ)) Bool)
    (quitting : Bus (Io m.Regs δ) → Bool) : MainCalls (Bus (Io m.Regs δ)) Oscillator where
  monitor6809
  machineUpdate := m.machineUpdate
  periodic := m.periodicWork
  quitting

end Model

end Exec09
