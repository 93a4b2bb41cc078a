import Exec09.Main.Machines
import Exec09.Monitor.Loader

/-!
# Starting the machine

What `main` does once the options are read and `machine_init` has made the machine: it loads the
program, resets the CPU, and enters the loop.  A binary image is in the ROM of the machine already,
and no option selects hex files.  The map file and `.dbinit` are left out: on the simple machine the
one only gives names to addresses, the other is input of the debugger.
-/

namespace Exec09

open Program

variable {σ D : Type} [Machine σ]

/-- `monitor_init`.  `debug_enabled` is set by an option, or because there is no program; here it is
a constant of the machine.  The word at the vector is kept for backtraces. -/
def monitorInit : M σ Unit := do
  let _entryPoint ← read16 0xfffe
  modify fun s => { s with monitorOn := Machine.debugEnabled σ }

/-- `load_s19 (prog_name)`, if the program is in that format. -/
def loadProgram (o : Settings) (name : List Char) (file : Option (List Char)) (data : Unsigned) :
    M σ (Option Loaded) :=
  if o.type = S19 then loadS19 (String.ofList name) file data else return some ⟨0, []⟩

/-- From `machine_init` to the loop.  `usage` ends the process; `none` would mean that the loader
does not come to an end. -/
def boot (o : Settings) (file : Option (List Char)) (data : Unsigned) : M σ (Option Unit) :=
  match o.progName with
  | none => do
    monitorInit
    return some ()
  | some name => do
    match ← loadProgram o name file data with
    | none => return none
    | some l =>
      whenever (¬l.starts) (throw (.code 0))
      cpuReset
      monitorInit
      return some ()

/-- `main`, from `machine_init` on. -/
def mainFrom (c : MainCalls σ D) (o : Settings) (file : Option (List Char)) (data : Unsigned)
    (fuel : Nat) (times : List Int) (v : Statics D) : M σ (Option (Statics D)) := do
  match ← boot o file data with
  | none => return none
  | some () => mainFor c o fuel times v

/-- `machine_init ("simple", ..)`, with any bytes in the RAM; `ram_reset` clears it. -/
def Simple.board {δ : Type} (priv : Nat → BitVec 64 → U8) (h : δ) :
    Bus (Io (Model.Regs .simple) δ) where
  busmaps := Simple.maps
  deviceTable := Simple.devices
  priv := priv
  systemRunning := false
  io := ⟨⟨⟩, h⟩

end Exec09
