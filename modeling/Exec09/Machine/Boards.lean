import Exec09.Machine.Bus

/-!
# Boards

What the machines of this simulator have in common: a set of I/O devices, and around them the host
with its terminal and files and the debugger with its hooks.  A board is given by the registers
`ρ` of its devices and the state `δ` of its surroundings.

The simple machine is here too: 64K of RAM and a console.
-/

namespace Exec09

/-- Where bytes come from and go to. -/
inductive Stream
  | terminal | hostfile
  deriving DecidableEq, Repr

/-- The surroundings of a board. -/
class Host (δ : Type) where
  /-- `command_read_hook`. -/
  readHook : View → Bus Unit → δ → BitVec 64 → Reply δ Unit
  /-- `command_write_hook`. -/
  writeHook : View → Bus Unit → δ → BitVec 64 → U8 → Reply δ Unit
  /-- `command_insn_hook` and `check_break`. -/
  insnHook : View → Bus Unit → δ → Reply δ Unit
  /-- `getchar`, as a `U8`. -/
  getchar : δ → U8 × δ
  /-- `putchar` or `write`. -/
  put : Stream → U8 → δ → δ
  /-- `select`: can the stream be read, and can it be written? -/
  select : Stream → δ → (Bool × Bool) × δ
  /-- `read` of one byte. -/
  read : Stream → δ → U8 × δ
  /-- What a `U8` function yields that falls off its end. -/
  noReturn : U8
  debugEnabled : Bool
  nesting : Nat

/-- A host with no input, no output anyone sees, and no breakpoints. -/
structure Bare where
  deriving DecidableEq, Repr

instance : Host Bare where
  readHook _ _ h _ := ⟨(), h, []⟩
  writeHook _ _ h _ _ := ⟨(), h, []⟩
  insnHook _ _ h := ⟨(), h, []⟩
  getchar h := (0xff, h)
  put _ _ h := h
  select _ h := ((false, true), h)
  read _ h := (0, h)
  noReturn := 0
  debugEnabled := false
  nesting := 1

/-- What a board adds to its bus. -/
structure Io (ρ δ : Type) where
  dev : ρ
  host : δ

/-- The I/O devices of a board. -/
class Devices (ρ δ : Type) where
  /-- `machine->fault`, as far as it calls `sim_error`. -/
  fault : List Signal
  read : Bus (Io ρ δ) → Nat → BitVec 64 → Reply (Bus (Io ρ δ)) U8
  write : View → Bus (Io ρ δ) → Nat → BitVec 64 → U8 → WriteReply (Bus (Io ρ δ))

namespace Bus

variable {ι ρ δ : Type}

/-- The part of the bus that does not depend on the board. -/
def memory (b : Bus ι) : Bus Unit where
  busmaps := b.busmaps
  deviceTable := b.deviceTable
  priv := b.priv
  systemRunning := b.systemRunning
  io := ()

def setDev (b : Bus (Io ρ δ)) (d : ρ) : Bus (Io ρ δ) := { b with io := { b.io with dev := d } }

def setHost (b : Bus (Io ρ δ)) (h : δ) : Bus (Io ρ δ) := { b with io := { b.io with host := h } }

/-- The host's answer to a hook. -/
def hookReply (b : Bus (Io ρ δ)) (r : Reply δ Unit) : Reply (Io ρ δ) Unit :=
  ⟨(), { b.io with host := r.world }, r.signals⟩

end Bus

instance {ρ δ : Type} [Host δ] [Devices ρ δ] : Board (Io ρ δ) where
  fault _ _ _ _ := Devices.fault ρ δ
  ioRead _ b := Devices.read b
  ioWrite v b := Devices.write v b
  readHook v b a := b.hookReply (Host.readHook v b.memory b.io.host a)
  writeHook v b a d := b.hookReply (Host.writeHook v b.memory b.io.host a d)
  insnHook v b := b.hookReply (Host.insnHook v b.memory b.io.host)
  debugEnabled := Host.debugEnabled δ
  nesting := Host.nesting δ

/-- A device table, the first device being the null device. -/
def table (l : List (HwClass × Nat)) : List HwDevice :=
  ⟨.null, 0⟩ :: l.map fun x => ⟨x.1, x.2⟩

/-! ## The console -/

section Console

variable {δ : Type} [Host δ]

abbrev MISSING : U8 := 0xff

/-- Reading `CON_IN` takes a character from the terminal. -/
def consoleRead (addr : BitVec 64) (h : δ) : U8 × δ :=
  if addr = 2 then Host.getchar h else (MISSING, h)

/-- `CON_OUT` prints and `CON_EXIT` ends the simulation. -/
def consoleWrite (addr : BitVec 64) (val : U8) (h : δ) : WriteReply δ :=
  if addr = 0 then ⟨Host.put .terminal val h, []⟩
  else if addr = 1 then ⟨h, [.signal (.exit val)]⟩
  else ⟨h, []⟩

end Console

/-! ## The simple machine -/

/-- The simple machine has no device registers. -/
structure Simple where
  deriving DecidableEq, Repr

namespace Simple

/-- The RAM and the console. -/
def devices : List HwDevice := table [(.ram, 0x10000), (.io, 0x80)]

/-- `simple_init`. -/
def maps : Busmaps :=
  busMap 0xff00 2 0 0x80 MAP_READWRITE (busMap 0x0000 1 0 0x10000 MAP_READWRITE unmapped)

variable {δ : Type} [Host δ]

instance : Devices Simple δ where
  fault := [.simError]
  read b _ phy := ⟨(consoleRead phy b.io.host).1, b.setHost (consoleRead phy b.io.host).2, []⟩
  write _ b _ phy val :=
    let r := consoleWrite phy val b.io.host
    ⟨b.setHost r.world, r.effects⟩

end Simple

end Exec09
