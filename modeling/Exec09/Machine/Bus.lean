import Exec09.Cpu.Bus
import Exec09.Framework.Words

/-!
# The bus

`machine.c`: the 512 bus maps that translate CPU addresses to offsets in devices, the table of
devices behind them, and the accesses of the CPU and of the debugger.

Memory and the null device are modelled here.  Every other class of device, the debugger's hooks
and the reaction to a fault belong to a `Board`; with one, a `Bus` is a world the interpreter of
`6809.c` runs on.

`busmaps` is a function, so that an index past the array is not an error of the model: entry 512
and the following stand for whatever the C compiler places there.  The same holds for `priv`, the
buffers of the memory devices, which are `malloc`ed with the device's size.
-/

namespace Exec09

/-! ## Bus maps -/

abbrev BUS_MAP_SIZE : Nat := 128
abbrev MAX_CPU_ADDR : Nat := 65536
abbrev NUM_BUS_MAPS : Nat := MAX_CPU_ADDR / BUS_MAP_SIZE
abbrev INVALID_DEVID : U8 := 0xff

abbrev MAP_READABLE : U8 := 0x1
abbrev MAP_WRITABLE : U8 := 0x2
abbrev MAP_READWRITE : U8 := 0x3
abbrev MAP_FIXED : U8 := 0x4

/-- `struct bus_map`. -/
structure BusMap where
  devid : Unsigned
  offset : BitVec 64
  flags : U8
  deriving DecidableEq, Repr

/-- `MAP_FIXED` is set. -/
def BusMap.fixed (e : BusMap) : Bool := e.flags &&& MAP_FIXED ≠ 0

abbrev Busmaps := Nat → BusMap

/-- Round up to a multiple of the map unit size. -/
def roundUp {w : Nat} (x : BitVec w) : BitVec w :=
  (x + BitVec.ofNat w (BUS_MAP_SIZE - 1)) / BitVec.ofNat w BUS_MAP_SIZE * BitVec.ofNat w BUS_MAP_SIZE

/-- The loop of `bus_map`: `count` entries from `start` on. -/
def busMapLoop (devid : Unsigned) (flags : U8) : Nat → Nat → BitVec 64 → Busmaps → Busmaps
  | 0, _, _, m => m
  | count + 1, start, offset, m =>
    busMapLoop devid flags count (start + 1) (offset + BitVec.ofNat 64 BUS_MAP_SIZE)
      fun k => if k = start ∧ ¬(m k).fixed then ⟨devid, offset, flags⟩ else m k

/-- Map a portion of a device into the CPU's address space. -/
def busMap (addr devid : Unsigned) (offset : BitVec 64) (len : Unsigned) (flags : U8)
    (m : Busmaps) : Busmaps :=
  busMapLoop devid flags ((roundUp len).toNat / BUS_MAP_SIZE)
    ((roundUp addr).toNat / BUS_MAP_SIZE) (roundUp offset) m

/-- The table `machine_init` starts from: nothing is mapped anywhere. -/
def unmapped : Busmaps := fun _ => ⟨INVALID_DEVID.setWidth 32, 0, 0⟩

/-- What the loop leaves in an entry: fixed entries and those outside the range are kept. -/
lemma busMapLoop_apply (devid : Unsigned) (flags : U8) (count start : Nat) (offset : BitVec 64)
    (m : Busmaps) (k : Nat) :
    busMapLoop devid flags count start offset m k =
      if start ≤ k ∧ k < start + count ∧ ¬(m k).fixed then
        ⟨devid, offset + BitVec.ofNat 64 (BUS_MAP_SIZE * (k - start)), flags⟩
      else m k := by
  induction count generalizing start offset m with
  | zero =>
    have h : ¬(start ≤ k ∧ k < start + 0 ∧ ¬(m k).fixed) := by omega
    rw [busMapLoop, if_neg h]
  | succ count ih =>
    rw [busMapLoop, ih]
    by_cases hk : k = start
    · subst hk
      have hout : ∀ P : Prop, ¬(k + 1 ≤ k ∧ P) := fun P h => by omega
      rw [if_neg (hout _)]
      by_cases hf : (m k).fixed <;> simp [hf]
    · have hsame : (if k = start ∧ ¬(m k).fixed then
          (⟨devid, offset, flags⟩ : BusMap) else m k) = m k := if_neg fun h => hk h.1
      rw [hsame]
      have hrange : (start + 1 ≤ k ∧ k < start + 1 + count ∧ ¬(m k).fixed) ↔
          (start ≤ k ∧ k < start + (count + 1) ∧ ¬(m k).fixed) := by
        constructor <;> (rintro ⟨h₁, h₂, h₃⟩; exact ⟨by omega, by omega, h₃⟩)
      by_cases h : start ≤ k ∧ k < start + (count + 1) ∧ ¬(m k).fixed
      · have hoff : BitVec.ofNat 64 BUS_MAP_SIZE + BitVec.ofNat 64 (BUS_MAP_SIZE * (k - (start + 1)))
            = BitVec.ofNat 64 (BUS_MAP_SIZE * (k - start)) := by
          rw [← BitVec.ofNat_add]
          have : BUS_MAP_SIZE + BUS_MAP_SIZE * (k - (start + 1)) = BUS_MAP_SIZE * (k - start) := by
            change 128 + 128 * (k - (start + 1)) = 128 * (k - start)
            omega
          rw [this]
        rw [if_pos (hrange.mpr h), if_pos h, BitVec.add_assoc, hoff]
      · rw [if_neg (fun h' => h (hrange.mp h')), if_neg h]

/-! ## Devices -/

/-- The device classes the bus itself knows; all others are I/O devices of the board. -/
inductive HwClass
  | null | ram | rom | io
  deriving DecidableEq, Repr

/-- `struct hw_device`, its position in the table being its `devid`. -/
structure HwDevice where
  cls : HwClass
  size : Nat
  deriving DecidableEq, Repr

/-- The faults a machine is told about. -/
inductive Fault
  | notWritable | noResponse | notReadable
  deriving DecidableEq, Repr

/-- Memory, devices and debugger of a simulated computer; `ι` is what the board adds. -/
structure Bus (ι : Type) where
  busmaps : Busmaps
  /-- `device_table`, up to `device_count`.  The null device is attached first. -/
  deviceTable : List HwDevice
  /-- The buffers of the RAM and ROM devices. -/
  priv : Nat → BitVec 64 → U8
  systemRunning : Bool
  io : ι

/-- What distinguishes one board from another. -/
class Board (ι : Type) where
  /-- `machine->fault`. -/
  fault : View → Bus ι → Unsigned → Fault → List Signal
  /-- The `read` function of an I/O device. -/
  ioRead : View → Bus ι → Nat → BitVec 64 → Reply (Bus ι) U8
  /-- The `write` function of an I/O device, which may remap the bus or transfer memory. -/
  ioWrite : View → Bus ι → Nat → BitVec 64 → U8 → WriteReply (Bus ι)
  /-- `command_read_hook`. -/
  readHook : View → Bus ι → BitVec 64 → Reply ι Unit
  /-- `command_write_hook`. -/
  writeHook : View → Bus ι → BitVec 64 → U8 → Reply ι Unit
  /-- `command_insn_hook` and `check_break`. -/
  insnHook : View → Bus ι → Reply ι Unit
  debugEnabled : Bool
  nesting : Nat

namespace Bus

variable {ι : Type}

def findMap (b : Bus ι) (addr : Unsigned) : BusMap := b.busmaps (addr.toNat / BUS_MAP_SIZE)

/-- An id that `find_device` faults on.  The id is an `unsigned char`. -/
def noResponse (b : Bus ι) (devid : Unsigned) : Bool :=
  devid.setWidth 8 = INVALID_DEVID ∨ b.deviceTable.length ≤ (devid.setWidth 8).toNat

/-- `find_device`, less its fault; the null device is number 0. -/
def findDevice (b : Bus ι) (devid : Unsigned) : Nat :=
  if b.noResponse devid then 0 else (devid.setWidth 8).toNat

/-- `map->offset + addr % BUS_MAP_SIZE`. -/
def phyAddr (b : Bus ι) (addr : Unsigned) : BitVec 64 :=
  (b.findMap addr).offset + BitVec.ofNat 64 (addr.toNat % BUS_MAP_SIZE)

/-- The device an address is mapped to. -/
def device (b : Bus ι) (addr : Unsigned) : Nat := b.findDevice (b.findMap addr).devid

def cls (b : Bus ι) (dev : Nat) : HwClass := (b.deviceTable[dev]?.map HwDevice.cls).getD .null

/-- `device * 0x10000000L + reladdr`. -/
def absoluteFromReladdr (device : Unsigned) (reladdr : BitVec 64) : BitVec 64 :=
  device.setWidth 64 * 0x10000000 + reladdr

/-- The device number in an absolute address. -/
def absDevice (addr : BitVec 64) : Nat := ((addr >>> 28).setWidth 32).toNat

/-- The offset in an absolute address. -/
def absOffset (addr : BitVec 64) : BitVec 64 := addr &&& 0xfffffff

/-- `to_absolute`, less its fault. -/
def toAbsolute (b : Bus ι) (addr : Unsigned) : BitVec 64 :=
  absoluteFromReladdr (b.findMap addr).devid (b.phyAddr addr)

variable [Board ι]

/-- `do_fault`. -/
def doFault (v : View) (b : Bus ι) (addr : Unsigned) (type : Fault) : List Signal :=
  if b.systemRunning then Board.fault v b addr type else []

/-- The faults of an access: no device responds, or the map lacks the permission `flag`. -/
def faults (v : View) (b : Bus ι) (addr : Unsigned) (flag : U8) (type : Fault) : List Signal :=
  (if b.noResponse (b.findMap addr).devid then doFault v b addr .noResponse else []) ++
    if (b.findMap addr).flags &&& flag = 0 then doFault v b addr type else []

/-- `class_ptr->read`. -/
def devRead (v : View) (b : Bus ι) (dev : Nat) (phy : BitVec 64) : Reply (Bus ι) U8 :=
  match b.cls dev with
  | .null => ⟨0xff, b, []⟩
  | .ram => ⟨b.priv dev phy, b, []⟩
  | .rom => ⟨b.priv dev phy, b, []⟩
  | .io => Board.ioRead v b dev phy

/-- `ram_write`, which ROM devices have too. -/
def store (b : Bus ι) (dev : Nat) (phy : BitVec 64) (val : U8) : Bus ι :=
  { b with priv := fun d p => if d = dev ∧ p = phy then val else b.priv d p }

/-- `class_ptr->write`. -/
def devWrite (v : View) (b : Bus ι) (dev : Nat) (phy : BitVec 64) (val : U8) :
    WriteReply (Bus ι) :=
  match b.cls dev with
  | .null => ⟨b, []⟩
  | .ram => ⟨b.store dev phy val, []⟩
  | .rom => ⟨b.store dev phy val, []⟩
  | .io => Board.ioWrite v b dev phy val

/-- `command_read_hook` for an address of the CPU. -/
def hooked (v : View) (b : Bus ι) (addr : Unsigned) : Reply (Bus ι) Unit :=
  let r := Board.readHook v b (b.toAbsolute addr)
  ⟨(), { b with io := r.world }, r.signals⟩

def cpuRead8 (v : View) (b : Bus ι) (addr : Unsigned) : Reply (Bus ι) U8 :=
  let h := b.hooked v addr
  let r := h.world.devRead v (b.device addr) (b.phyAddr addr)
  ⟨r.val, r.world, b.faults v addr MAP_READABLE .notReadable ++ h.signals ++ r.signals⟩

/-- The 16-bit read translates the address once: both bytes come from one device. -/
def cpuRead16 (v : View) (b : Bus ι) (addr : Unsigned) : Reply (Bus ι) U16 :=
  let h := b.hooked v addr
  let hi := h.world.devRead v (b.device addr) (b.phyAddr addr)
  let lo := hi.world.devRead v (b.device addr) (b.phyAddr addr + 1)
  ⟨hi.val ++ lo.val, lo.world,
    b.faults v addr MAP_READABLE .notReadable ++ h.signals ++ hi.signals ++ lo.signals⟩

def cpuWrite8 (v : View) (b : Bus ι) (addr : Unsigned) (val : U8) : WriteReply (Bus ι) :=
  let r := b.devWrite v (b.device addr) (b.phyAddr addr) val
  let h := Board.writeHook v r.world (b.toAbsolute addr) val
  ⟨{ r.world with io := h.world },
    (b.faults v addr MAP_WRITABLE .notWritable).map .signal ++ r.effects ++
      h.signals.map .signal⟩

/-- The debugger's read of an absolute address.  Without a device of that number the C code
follows an invalid pointer. -/
def absRead8 (v : View) (b : Bus ι) (addr : BitVec 64) : Option (Reply (Bus ι) U8) :=
  if absDevice addr < b.deviceTable.length then
    some (b.devRead v (absDevice addr) (absOffset addr))
  else none

/-- The debugger's write to an absolute address. -/
def absWrite8 (v : View) (b : Bus ι) (addr : BitVec 64) (val : U8) :
    Option (WriteReply (Bus ι)) :=
  if absDevice addr < b.deviceTable.length then
    some (b.devWrite v (absDevice addr) (absOffset addr) val)
  else none

instance : Machine (Bus ι) where
  read8 := cpuRead8
  read16 := cpuRead16
  write8 := cpuWrite8
  insnHook v b :=
    let r := Board.insnHook v b
    ⟨(), { b with io := r.world }, r.signals⟩
  cpuIsRunning b := { b with systemRunning := true }
  debugEnabled := Board.debugEnabled ι
  nesting := Board.nesting ι

end Bus

end Exec09
