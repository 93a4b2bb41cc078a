import Exec09.Machine.Eon

/-!
# The second-generation EON machine

Here the 1MB RAM is behind the small MMU of `mmu.c`, and all I/O devices share one 128-byte window
through an expander that gives each of them eight bytes.  The interrupt multiplexer collects
interrupt lines and drives one line of the CPU.

The small MMU keeps its slot registers in an array indexed by a byte the guest writes.  The history
variable `touched` records the elements of that array and of the bus maps that are accessed.
-/

namespace Exec09

/-! ## The small MMU -/

abbrev SMR_PAGESIZE : Nat := 4096
abbrev SMR_SLOTS : Nat := 16
abbrev SMR_SLOT : BitVec 64 := 0
abbrev SM_GLOBAL_REGS : Nat := 6
abbrev SMR_PAGE : BitVec 64 := 6
abbrev SMR_FLAGS : BitVec 64 := 7

/-- An array element the small MMU accesses. -/
inductive Touch
  /-- `slot_regs[slot][reg]`. -/
  | slotReg (slot reg : Nat)
  /-- `busmaps[entry]`, in a call of `bus_map`. -/
  | busmap (entry : Nat)
  deriving DecidableEq, Repr

/-- `struct small_mmu`, with the maps it controls. -/
structure SmallMmu where
  globalRegs : Nat → U8
  slotRegs : Nat → Nat → U8
  maps : Busmaps
  /-- Elements accessed so far, latest first. -/
  touched : List Touch

namespace SmallMmu

/-- `global_regs[0]`, the slot that registers 6 and 7 belong to. -/
def slot (m : SmallMmu) : Nat := (m.globalRegs 0).toNat

def touch (m : SmallMmu) (l : List Touch) : SmallMmu := { m with touched := l ++ m.touched }

/-- The entries `bus_map` goes through. -/
def busMapTouches (addr len : Unsigned) : List Touch :=
  (List.range' ((roundUp addr).toNat / BUS_MAP_SIZE) ((roundUp len).toNat / BUS_MAP_SIZE)).map
    Touch.busmap

/-- Registers from 6 on are those of the current slot. -/
def read (m : SmallMmu) (addr : BitVec 64) : U8 × SmallMmu :=
  if addr.toNat < SM_GLOBAL_REGS then (m.globalRegs addr.toNat, m)
  else (m.slotRegs m.slot (addr.toNat - SM_GLOBAL_REGS),
    m.touch [.slotReg m.slot (addr.toNat - SM_GLOBAL_REGS)])

/-- Store into the register file. -/
def setReg (m : SmallMmu) (addr : BitVec 64) (val : U8) : SmallMmu :=
  if addr.toNat < SM_GLOBAL_REGS then
    { m with globalRegs := fun r => if r = addr.toNat then val else m.globalRegs r }
  else
    { m with slotRegs := fun s r =>
        if s = m.slot ∧ r = addr.toNat - SM_GLOBAL_REGS then val else m.slotRegs s r }.touch
      [.slotReg m.slot (addr.toNat - SM_GLOBAL_REGS)]

/-- Map the current slot as its registers say, `realdev` being the device behind the MMU. -/
def remap (m : SmallMmu) (realdev : Unsigned) : SmallMmu :=
  let addr := BitVec.ofNat 32 (m.slot * SMR_PAGESIZE)
  { m with
    maps := busMap addr realdev ((m.slotRegs m.slot 0).setWidth 64 * BitVec.ofNat 64 SMR_PAGESIZE)
      (BitVec.ofNat 32 SMR_PAGESIZE) (m.slotRegs m.slot 1 &&& MAP_READWRITE) m.maps }.touch
    (busMapTouches addr (BitVec.ofNat 32 SMR_PAGESIZE) ++
      [Touch.slotReg m.slot 1, Touch.slotReg m.slot 0])

def write (m : SmallMmu) (realdev : Unsigned) (addr : BitVec 64) (val : U8) : SmallMmu :=
  let m := m.setReg addr val
  if addr = SMR_PAGE ∨ addr = SMR_FLAGS then m.remap realdev else m

/-- Map slot `p` to page `p`, as `small_mmu_reset` does for every slot. -/
def resetSlot (realdev : Unsigned) (m : SmallMmu) (p : Nat) : SmallMmu :=
  ((m.write realdev SMR_SLOT (BitVec.ofNat 8 p)).write realdev SMR_PAGE (BitVec.ofNat 8 p)).write
    realdev SMR_FLAGS MAP_READWRITE

def reset (m : SmallMmu) (realdev : Unsigned) : SmallMmu :=
  (List.range SMR_SLOTS).foldl (resetSlot realdev) m

end SmallMmu

/-! ## The interrupt multiplexer -/

/-- `struct imux`. -/
structure Imux where
  enabled : Unsigned
  pending : Unsigned
  /-- The line of the CPU that is driven. -/
  src : Unsigned
  deriving DecidableEq, Repr

namespace Imux

/-- Raise or lower the CPU line according to the lines that are pending and enabled. -/
def refresh (m : Imux) : List Effect :=
  if m.pending &&& m.enabled ≠ 0 then
    if m.src = 1 then [.requestIrq m.src] else [.requestFirq m.src]
  else
    if m.src = 1 then [.releaseIrq m.src] else [.releaseFirq m.src]

def reset (m : Imux) : Imux := { m with enabled := 0, pending := 0 }

def read (m : Imux) (addr : BitVec 64) : U8 :=
  if addr = 0 then m.enabled.setWidth 8
  else if addr = 1 then m.pending.setWidth 8
  else 0xff

/-- Register 0 holds the enable bits; a one written to register 1 clears a pending bit. -/
def setReg (m : Imux) (addr : BitVec 64) (val : U8) : Imux :=
  if addr = 0 then { m with enabled := val.setWidth 32 }
  else if addr = 1 then { m with pending := m.pending &&& ~~~(val.setWidth 32) }
  else m

def write (m : Imux) (addr : BitVec 64) (val : U8) : Imux × List Effect :=
  (m.setReg addr val, (m.setReg addr val).refresh)

/-- Source line `sig` becomes active. -/
def assert (m : Imux) (sig : Unsigned) : Imux × List Effect :=
  let m := { m with pending := m.pending ||| ((1 : Unsigned) <<< sig) }
  (m, m.refresh)

end Imux

/-! ## Serial ports -/

/-- `struct serial_port`. -/
structure SerialPort where
  ctrl : Unsigned
  status : Unsigned
  deriving DecidableEq, Repr

namespace SerialPort

variable {δ : Type} [Host δ]

/-- `serial_update`: the status follows what the host's stream is ready for. -/
def update (p : SerialPort) (ready : Bool × Bool) : SerialPort :=
  let status := if ready.1 then p.status ||| 1 else p.status &&& ~~~1
  { p with status := if ready.2 then status ||| 2 else status &&& ~~~2 }

def read (p : SerialPort) (f : Stream) (addr : BitVec 64) (h : δ) : U8 × SerialPort × δ :=
  let (ready, h) := Host.select f h
  let p := p.update ready
  if addr = 0 then
    if p.status &&& 1 = 0 then (0xff, p, h)
    else ((Host.read f h).1, p, (Host.read f h).2)
  else if addr = 1 then (p.status.setWidth 8, p, h)
  else (Host.noReturn δ, p, h)

def write (p : SerialPort) (f : Stream) (addr : BitVec 64) (val : U8) (h : δ) :
    SerialPort × δ :=
  if addr = 0 then (p, Host.put f val h)
  else if addr = 1 then ({ p with ctrl := val.setWidth 32 }, h)
  else (p, h)

end SerialPort

/-! ## The machine -/

/-- The registers of the EON2's devices. -/
structure Eon2 where
  globalRegs : Nat → U8
  slotRegs : Nat → Nat → U8
  touched : List Touch
  disk : Disk
  imux : Imux
  serial : SerialPort
  hostfile : SerialPort

namespace Eon2

/-- The devices behind the expander. -/
inductive Part
  | serial | disk | mmu | imux | hostfile
  deriving DecidableEq, Repr

/-- RAM, small MMU, ROM, expander, serial port, disk, multiplexer, host file, oscillator. -/
def devices : List HwDevice :=
  table [(.ram, 0x100000), (.io, 16), (.rom, 0x800), (.io, 0x80), (.io, 4), (.io, 4), (.io, 0x80),
    (.io, 4), (.io, 0)]

/-- The expander's slots of eight bytes. -/
def slotPart (n : Nat) : Option Part :=
  match n with
  | 0 => some .serial
  | 1 => some .disk
  | 2 => some .mmu
  | 3 => some .imux
  | 9 => some .hostfile
  | _ => none

/-- Devices by number. -/
def idPart (dev : Nat) : Option Part :=
  match dev with
  | 2 => some .mmu
  | 5 => some .serial
  | 6 => some .disk
  | 7 => some .imux
  | 8 => some .hostfile
  | _ => none

/-- The device and register an I/O access reaches: number 4 is the expander. -/
def route (dev : Nat) (phy : BitVec 64) : Option (Part × BitVec 64) :=
  if dev = 4 then (slotPart (phy.toNat / 8)).map fun p => (p, BitVec.ofNat 64 (phy.toNat % 8))
  else (idPart dev).map fun p => (p, phy)

/-- The small MMU over a table of maps; `global_regs` and `slot_regs` come from `malloc`. -/
def mmuAttached (globalRegs : Nat → U8) (slotRegs : Nat → Nat → U8) : SmallMmu :=
  SmallMmu.reset ⟨globalRegs, slotRegs, unmapped, []⟩ 1

/-- The ROM and the expander are mapped over the MMU's slot 15. -/
def overlay (m : Busmaps) : Busmaps :=
  busMap 0xff00 4 0 0x80 MAP_READWRITE (busMap 0xf800 3 0 0x800 MAP_READABLE m)

/-- The small MMU and the maps after `machine_init`. -/
def init (globalRegs : Nat → U8) (slotRegs : Nat → Nat → U8) : SmallMmu :=
  let m := mmuAttached globalRegs slotRegs
  { m with maps := overlay m.maps }

variable {δ : Type} [Host δ]

/-- The small MMU of a bus. -/
def mmu (b : Bus (Io Eon2 δ)) : SmallMmu :=
  ⟨b.io.dev.globalRegs, b.io.dev.slotRegs, b.busmaps, b.io.dev.touched⟩

def setMmu (b : Bus (Io Eon2 δ)) (m : SmallMmu) : Bus (Io Eon2 δ) :=
  { b with busmaps := m.maps }.setDev
    { b.io.dev with globalRegs := m.globalRegs, slotRegs := m.slotRegs, touched := m.touched }

/-- An expander slot without a device: `sim_error`, and if that returns the process follows a
null pointer. -/
def noBacking : List Signal := [.simError, .exit 139]

instance : Devices Eon2 δ where
  fault := [.simError]
  read b dev phy :=
    match route dev phy with
    | some (.serial, reg) =>
      let r := b.io.dev.serial.read .terminal reg b.io.host
      ⟨r.1, (b.setDev { b.io.dev with serial := r.2.1 }).setHost r.2.2, []⟩
    | some (.disk, _) => ⟨Host.noReturn δ, b, []⟩
    | some (.mmu, reg) => ⟨((mmu b).read reg).1, setMmu b ((mmu b).read reg).2, []⟩
    | some (.imux, reg) => ⟨b.io.dev.imux.read reg, b, []⟩
    | some (.hostfile, reg) =>
      let r := b.io.dev.hostfile.read .hostfile reg b.io.host
      ⟨r.1, (b.setDev { b.io.dev with hostfile := r.2.1 }).setHost r.2.2, []⟩
    | none => ⟨0, b, noBacking⟩
  write _ b dev phy val :=
    match route dev phy with
    | some (.serial, reg) =>
      let r := b.io.dev.serial.write .terminal reg val b.io.host
      ⟨(b.setDev { b.io.dev with serial := r.1 }).setHost r.2, []⟩
    | some (.disk, reg) =>
      let r := b.diskWrite 1 b.io.dev.disk reg val
      ⟨r.2.setDev { b.io.dev with disk := r.1 }, []⟩
    | some (.mmu, reg) => ⟨setMmu b ((mmu b).write 1 reg val), []⟩
    | some (.imux, reg) =>
      let r := b.io.dev.imux.write reg val
      ⟨b.setDev { b.io.dev with imux := r.1 }, r.2⟩
    | some (.hostfile, reg) =>
      let r := b.io.dev.hostfile.write .hostfile reg val b.io.host
      ⟨(b.setDev { b.io.dev with hostfile := r.1 }).setHost r.2, []⟩
    | none => ⟨b, noBacking.map .signal⟩

end Eon2

end Exec09
