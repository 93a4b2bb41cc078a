import Exec09.Cpu.State

/-!
# Bus accesses and interrupt entry

A write can reach a device that requests an interrupt, and `request_irq` enters the handler on
the spot when the mask is clear.  The entry pushes the context, and those stack writes can again
reach a device.  The recursion is modelled by its depth: `writeN n` is `cpu_write8` when `n`
calls of it fit on the C stack, and `wrmem` has room for the machine's `nesting` of entries.

`irqWith` and `firqWith` take the write they push with, so each is one definition for every
depth.
-/

namespace Exec09

open Program

variable {σ : Type} [Machine σ]

/-! ## Reads -/

/-- `RDMEM`, that is `cpu_read8`, widened to `unsigned`. -/
def rdmem (addr : Unsigned) : M σ Unsigned := do
  let val ← access fun v w => Machine.read8 v w addr
  return val.setWidth 32

/-- `cpu_read16`, widened to `unsigned`. -/
def read16 (addr : Unsigned) : M σ Unsigned := do
  let val ← access fun v w => Machine.read16 v w addr
  return val.setWidth 32

/-- `RDMEM16`: two byte reads, the second address wrapped to 16 bits. -/
def rdmem16 (addr : Unsigned) : M σ Unsigned := do
  let hi ← rdmem addr
  tick 1
  let lo ← rdmem ((addr + 1) &&& 0xffff)
  return (hi <<< 8) ||| lo

def readStack16 (addr : Unsigned) : M σ Unsigned := do
  let hi ← rdmem addr
  let lo ← rdmem ((addr + 1) &&& 0xffff)
  return (hi <<< 8) ||| lo

/-- Fetch the byte at `PC`. -/
def immByte : M σ Unsigned := do
  let val ← rdmem (← reads Cpu.PC)
  modify fun s => { s with PC := s.PC + 1 }
  return val

/-- Fetch the word at `PC`, with the fast 16-bit read. -/
def immWord : M σ Unsigned := do
  let val ← read16 (← reads Cpu.PC)
  modify fun s => { s with PC := s.PC + 2 }
  return val

/-! ## Interrupt entry, over the write it pushes with -/

section With

-- How a context is pushed: an address and a data byte.
variable (write : Unsigned → Unsigned → M σ Unit)

def writeStack16With (addr data : Unsigned) : M σ Unit := do
  write ((addr + 1) &&& 0xffff) (data &&& 0xff)
  write addr (data >>> 8)

/-- `S = (S - 2) & 0xffff; write_stack16 (S, data)`. -/
def pushS16With (data : Unsigned) : M σ Unit := do
  modify fun s => { s with S := (s.S - 2) &&& 0xffff }
  writeStack16With write (← reads Cpu.S) data

/-- `S = (S - 1) & 0xffff; write_stack (S, data)`. -/
def pushS8With (data : Unsigned) : M σ Unit := do
  modify fun s => { s with S := (s.S - 1) &&& 0xffff }
  write (← reads Cpu.S) data

/-- The twelve pushes shared by `irq`, `swi`, `swi2` and `swi3`.  Each value is read when its
push is reached. -/
def pushAllWith : M σ Unit := do
  pushS16With write ((← reads Cpu.PC) &&& 0xffff)
  pushS16With write (← reads Cpu.U)
  pushS16With write (← reads Cpu.Y)
  pushS16With write (← reads Cpu.X)
  pushS8With write ((← reads Cpu.DP) >>> 8)
  pushS8With write (← reads Cpu.B)
  pushS8With write (← reads Cpu.A)
  pushS8With write (← reads Cpu.getCc)

def irqWith : M σ Unit := do
  modify fun s => { s with hist := .irq s.snapshot :: s.hist }
  modify fun s => { s with EFI := s.EFI ||| E_FLAG }
  pushAllWith write
  modify fun s => { s with EFI := s.EFI ||| I_FLAG }
  let pc ← read16 0xfff8
  modify fun s => { s with PC := pc }
  modify fun s => { s with irqsPending := 0 }

def firqWith : M σ Unit := do
  modify fun s => { s with hist := .firq s.snapshot :: s.hist }
  modify fun s => { s with EFI := s.EFI &&& ~~~E_FLAG }
  pushS16With write ((← reads Cpu.PC) &&& 0xffff)
  pushS8With write (← reads Cpu.getCc)
  modify fun s => { s with EFI := s.EFI ||| (I_FLAG ||| F_FLAG) }
  let pc ← read16 0xfff6
  modify fun s => { s with PC := pc }
  modify fun s => { s with firqsPending := 0 }

/-- Mark the line pending and, if it is not masked, enter the handler at once. -/
def requestIrqWith (source : Unsigned) : M σ Unit := do
  modify fun s => { s with irqsPending := s.irqsPending ||| ((1 : Unsigned) <<< source) }
  whenever (¬(← reads Cpu.irqMasked)) (irqWith write)
  modify fun s => { s with hist := .requested s.snapshot :: s.hist }

def requestFirqWith (source : Unsigned) : M σ Unit := do
  modify fun s => { s with firqsPending := s.firqsPending ||| ((1 : Unsigned) <<< source) }
  whenever (¬(← reads Cpu.firqMasked)) (firqWith write)
  modify fun s => { s with hist := .requested s.snapshot :: s.hist }

def releaseIrq (source : Unsigned) : M σ Unit := do
  modify fun s => { s with irqsPending := s.irqsPending &&& ~~~((1 : Unsigned) <<< source) }
  modify fun s => { s with hist := .releasedIrq :: s.hist }

def releaseFirq (source : Unsigned) : M σ Unit := do
  modify fun s => { s with firqsPending := s.firqsPending &&& ~~~((1 : Unsigned) <<< source) }
  modify fun s => { s with hist := .releasedFirq :: s.hist }

/-- Carry out what a write reported. -/
def effectWith : Effect → M σ Unit
  | .signal e => signal e
  | .requestIrq source => requestIrqWith write source
  | .releaseIrq source => releaseIrq source
  | .requestFirq source => requestFirqWith write source
  | .releaseFirq source => releaseFirq source

end With

/-! ## Writes -/

/-- `cpu_write8` when `n` nested calls of it fit on the C stack. -/
def writeN : Nat → Unsigned → Unsigned → M σ Unit
  | 0, _, _ => throw .overflow
  | n + 1, addr, data => do
    let r ← modifyGet fun s =>
      let r := Machine.write8 s.view s.world addr (data.setWidth 8)
      (r, { s with world := r.world })
    r.effects.forM (effectWith (writeN n))

/-- `WRMEM`, that is `cpu_write8`. -/
def wrmem (addr data : Unsigned) : M σ Unit := writeN (Machine.nesting σ + 1) addr data

def wrmem16 (addr data : Unsigned) : M σ Unit := do
  wrmem addr (data >>> 8)
  tick 1
  wrmem ((addr + 1) &&& 0xffff) (data &&& 0xff)

def writeStack16 (addr data : Unsigned) : M σ Unit := writeStack16With wrmem addr data
def pushS16 (data : Unsigned) : M σ Unit := pushS16With wrmem data
def pushS8 (data : Unsigned) : M σ Unit := pushS8With wrmem data
def pushAll : M σ Unit := pushAllWith wrmem
def irq : M σ Unit := irqWith wrmem
def firq : M σ Unit := firqWith wrmem
def requestIrq (source : Unsigned) : M σ Unit := requestIrqWith wrmem source
def requestFirq (source : Unsigned) : M σ Unit := requestFirqWith wrmem source

/-- The choice `cc_modified` makes: FIRQ goes first. -/
def pollLines : M σ Unit := do
  if ← reads Cpu.firqDeliverable then
    firq
  else if ← reads Cpu.irqDeliverable then
    irq
  else
    pure ()

/-- Poll the interrupt lines after a change of the condition codes. -/
def ccModified : M σ Unit := do
  pollLines
  modify fun s => { s with ccChanged := 0 }

end Exec09
