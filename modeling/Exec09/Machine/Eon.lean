import Exec09.Machine.Boards

/-!
# The EON machine

A 1MB RAM behind an MMU with sixteen 4KB pages, a boot ROM, a console and a disk drive that
transfers sectors straight to and from the RAM device.  The disk drive is shared with the second
generation of the machine.
-/

namespace Exec09

/-! ## The memory management unit -/

abbrev MMU_PAGESIZE : Nat := 4096
abbrev MMU_PAGECOUNT : Nat := 16
abbrev MMU_PAGEREGS : Nat := 4

/-- `mmu_regs`, by page and register, with the maps they control. -/
structure Mmu where
  regs : Nat → Nat → U8
  maps : Busmaps

namespace Mmu

/-- The page a register address selects. -/
def page (addr : BitVec 64) : Nat := addr.toNat / MMU_PAGEREGS % MMU_PAGECOUNT

def reg (addr : BitVec 64) : Nat := addr.toNat % MMU_PAGEREGS

/-- Map a page as its registers say. -/
def remap (m : Mmu) (p : Nat) : Mmu :=
  { m with
    maps := busMap (BitVec.ofNat 32 (p * MMU_PAGESIZE)) ((m.regs p 0).setWidth 32)
      ((m.regs p 1).setWidth 64 * BitVec.ofNat 64 MMU_PAGESIZE) (BitVec.ofNat 32 MMU_PAGESIZE)
      (m.regs p 2 &&& MAP_READWRITE) m.maps }

def setReg (m : Mmu) (p r : Nat) (val : U8) : Mmu :=
  { m with regs := fun p' r' => if p' = p ∧ r' = r then val else m.regs p' r' }

/-- The fault registers 0x60 to 0x62 show variables that nothing assigns. -/
def read (m : Mmu) (addr : BitVec 64) : U8 :=
  if addr = 0x60 ∨ addr = 0x61 ∨ addr = 0x62 then 0 else m.regs (page addr) (reg addr)

/-- A write to any register of a page maps the whole page again. -/
def write (m : Mmu) (addr : BitVec 64) (val : U8) : Mmu :=
  (m.setReg (page addr) (reg addr) val).remap (page addr)

def resetPage (m : Mmu) (p : Nat) : Mmu :=
  ((m.write (BitVec.ofNat 64 (p * MMU_PAGEREGS)) 0).write
    (BitVec.ofNat 64 (p * MMU_PAGEREGS + 1)) 0).write
      (BitVec.ofNat 64 (p * MMU_PAGEREGS + 2)) MAP_READWRITE

def reset (m : Mmu) : Mmu := (List.range MMU_PAGECOUNT).foldl resetPage m

/-- The fifth entry of a page, which `mmu_reset_complete` looks at. -/
def sampled (p : Nat) : Nat := 4 + p * (MMU_PAGESIZE / BUS_MAP_SIZE)

/-- Load the registers from the maps in place. -/
def resetComplete (m : Mmu) : Mmu :=
  { m with
    regs := fun p r =>
      if p < MMU_PAGECOUNT then
        let map := m.maps (sampled p)
        if r = 0 then map.devid.setWidth 8
        else if r = 1 then (map.offset / BitVec.ofNat 64 MMU_PAGESIZE).setWidth 8
        else if r = 2 then map.flags &&& MAP_READWRITE
        else m.regs p r
      else m.regs p r }

end Mmu

/-! ## The disk drive -/

abbrev SECTOR_SIZE : Nat := 512

/-- `struct disk_priv` and the file behind it. -/
structure Disk where
  offset : BitVec 64
  /-- `disk->ram`, relative to the buffer of the RAM device. -/
  ram : BitVec 64
  /-- The position in the file. -/
  pos : Nat
  file : Nat → U8
  len : Nat

namespace Disk

/-- `fseek`, which fails when the offset is negative as a `long`. -/
def seek (d : Disk) : Disk := if d.offset.msb then d else { d with pos := d.offset.toNat }

/-- Bytes that `fread` delivers: up to a sector, as far as the file goes. -/
def available (d : Disk) : Nat := min SECTOR_SIZE (d.len - d.pos)

/-- `fread` into the memory of a device. -/
def fread (d : Disk) (mem : BitVec 64 → U8) : Disk × (BitVec 64 → U8) :=
  ({ d with pos := d.pos + d.available },
    fun p => if d.ram ≤ p ∧ (p - d.ram).toNat < d.available
      then d.file (d.pos + (p - d.ram).toNat) else mem p)

/-- `fwrite` of a sector.  A gap after the old end of the file reads as zero. -/
def fwrite (d : Disk) (data : Nat → U8) : Disk :=
  { d with
    pos := d.pos + SECTOR_SIZE
    file := fun n =>
      if d.pos ≤ n ∧ n < d.pos + SECTOR_SIZE then data (n - d.pos)
      else if n < d.len then d.file n else 0
    len := max d.len (d.pos + SECTOR_SIZE) }

/-- `disk_write`, with the buffer of the RAM device the disk transfers to. -/
def write (d : Disk) (mem : BitVec 64 → U8) (addr : BitVec 64) (val : U8) :
    Disk × (BitVec 64 → U8) :=
  if addr = 1 then
    ({ d with ram := val.setWidth 64 * BitVec.ofNat 64 SECTOR_SIZE }, mem)
  else if addr = 2 then
    ({ d with offset := val.setWidth 64 }, mem)
  else if addr = 3 then
    (seek { d with
      offset := ((d.offset <<< 8) ||| val.setWidth 64) * BitVec.ofNat 64 SECTOR_SIZE }, mem)
  else if addr = 0 then
    -- read, write and erase exclude one another, in this order; a flush is not seen
    if val &&& 0x1 ≠ 0 then d.fread mem
    else if val &&& 0x2 ≠ 0 then (d.fwrite fun i => mem (d.ram + BitVec.ofNat 64 i), mem)
    else if val &&& 0x8 ≠ 0 then (d.fwrite fun _ => 0xff, mem)
    else (d, mem)
  else (d, mem)

/-- Calls of `disk_write` one after the other. -/
def writes (l : List (BitVec 64 × U8)) (s : Disk × (BitVec 64 → U8)) :
    Disk × (BitVec 64 → U8) :=
  l.foldl (fun s x => s.1.write s.2 x.1 x.2) s

/-- `disk_reset`, which `device_attach` calls. -/
def reset (s : Disk × (BitVec 64 → U8)) : Disk × (BitVec 64 → U8) :=
  writes [(1, 0), (2, 0), (3, 0), (0, 0x4)] s

/-- One round of the loop of `disk_format`. -/
def formatSector (s : Disk × (BitVec 64 → U8)) (sector : Nat) : Disk × (BitVec 64 → U8) :=
  writes [(2, BitVec.ofNat 8 (sector / 256)), (3, BitVec.ofNat 8 sector), (0, 0x8)] s

/-- `disk_format`, for a new disk. -/
def format (sectors : Nat) (s : Disk × (BitVec 64 → U8)) : Disk × (BitVec 64 → U8) :=
  writes [(0, 0x4)] ((List.range sectors).foldl formatSector s)

end Disk

/-- Let the disk work on the memory of device `ramdev`. -/
def Bus.diskWrite {ι : Type} (b : Bus ι) (ramdev : Nat) (d : Disk) (addr : BitVec 64) (val : U8) :
    Disk × Bus ι :=
  let r := d.write (b.priv ramdev) addr val
  (r.1, { b with priv := fun dev => if dev = ramdev then r.2 else b.priv dev })

/-! ## The machine -/

/-- The registers of the EON's devices. -/
structure Eon where
  mmuRegs : Nat → Nat → U8
  disk : Disk

namespace Eon

/-- In the order in which they are attached: MMU, RAM, boot ROM, console, disk. -/
def devices : List HwDevice :=
  table [(.io, 0x80), (.ram, 0x100000), (.rom, 0x1c00), (.io, 0x80), (.io, 4)]

/-- `eon_init`, the maps of the devices after the MMU. -/
def overlay (m : Busmaps) : Busmaps :=
  busMap 0xe200 5 0 0x80 MAP_READWRITE <|
  busMap 0xff00 4 0 0x80 MAP_READWRITE <|
  busMap 0xe100 4 0 0x80 MAP_READWRITE <|
  busMap 0xe400 3 0 0x1c00 MAP_READABLE <|
  busMap 0x0000 2 0 0x10000 MAP_READWRITE m

/-- Attaching the MMU resets it; then it is mapped, fixed, at 0xE000. -/
def mmuAttached : Mmu :=
  let m := Mmu.reset ⟨fun _ _ => 0, unmapped⟩
  { m with maps := busMap 0xe000 1 0 0x80 (MAP_READWRITE ||| MAP_FIXED) m.maps }

/-- The MMU and the maps after `machine_init`. -/
def init : Mmu := Mmu.resetComplete { mmuAttached with maps := overlay mmuAttached.maps }

/-- The MMU after a sequence of guest writes to its registers. -/
def mmuAfter (l : List (BitVec 64 × U8)) : Mmu := l.foldl (fun m x => m.write x.1 x.2) init

variable {δ : Type} [Host δ]

/-- The MMU of a bus. -/
def mmu (b : Bus (Io Eon δ)) : Mmu := ⟨b.io.dev.mmuRegs, b.busmaps⟩

instance : Devices Eon δ where
  fault := [.simError]
  read b dev phy :=
    match dev with
    | 1 => ⟨(mmu b).read phy, b, []⟩
    | 4 => ⟨(consoleRead phy b.io.host).1, b.setHost (consoleRead phy b.io.host).2, []⟩
    | _ => ⟨Host.noReturn δ, b, []⟩
  write _ b dev phy val :=
    match dev with
    | 1 =>
      let m := (mmu b).write phy val
      ⟨{ b with busmaps := m.maps }.setDev { b.io.dev with mmuRegs := m.regs }, []⟩
    | 4 =>
      let r := consoleWrite phy val b.io.host
      ⟨b.setHost r.world, r.effects⟩
    | _ =>
      let r := b.diskWrite 2 b.io.dev.disk phy val
      ⟨r.2.setDev { b.io.dev with disk := r.1 }, []⟩

/-- A bus with the given MMU and memory contents, and an empty disk. -/
def bus (m : Mmu) (priv : Nat → BitVec 64 → U8) (h : δ) : Bus (Io Eon δ) where
  busmaps := m.maps
  deviceTable := devices
  priv := priv
  systemRunning := true
  io := ⟨⟨m.regs, ⟨0, 0, 0, fun _ => 0, 0⟩⟩, h⟩

end Eon

end Exec09
