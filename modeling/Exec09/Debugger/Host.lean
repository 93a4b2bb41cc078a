import Exec09.Debugger.Breakpoints
import Exec09.Machine.Boards

/-!
# The debugger around a board

The hooks of `command.c` as the machine calls them: with the target's memory as it is at the time of
the call.  `thread_current` is expected to point into memory; what a device register there would
answer is not modelled.  Nor are conditions that assign, and `check_break`.
-/

namespace Exec09

namespace Bus

variable {ι : Type}

/-- `abs_read8` of memory. -/
def memoryByte (b : Bus ι) (addr : BitVec 64) : U8 :=
  match b.cls (absDevice addr) with
  | .null => 0xff
  | .io => 0
  | .ram | .rom => b.priv (absDevice addr) (absOffset addr)

/-- `target_read (addr, 2)`, which is `abs_read16`. -/
def memoryWord (b : Bus ι) (addr : BitVec 64) : U16 := b.memoryByte addr ++ b.memoryByte (addr + 1)

end Bus

/-- A host with a debugger.  Its conditions are evaluated by `evalCond`, given what they can refer
to: the registers and the memory. -/
structure DebugHost (δ : Type) where
  base : δ
  debugger : Debugger
  evalCond : View → Bus Unit → String → BitVec 64 × String

namespace DebugHost

variable {δ : Type}

/-- What a hook gets from the rest of the debugger. -/
def env (h : DebugHost δ) (v : View) (b : Bus Unit) : Debugger.HookEnv where
  eval := h.evalCond v b
  thread := b.toAbsolute ((b.memoryWord h.debugger.threadCurrent).setWidth 32)

/-- The hook, and the assignment of `monitor_on` if it makes one: then its value afterwards does
not depend on its value before. -/
def call (h : DebugHost δ) (hook : Debugger → Debugger) : Reply (DebugHost δ) Unit where
  val := ()
  world := { h with debugger := hook h.debugger }
  signals :=
    let on := (hook { h.debugger with monitorOn := true }).monitorOn
    let off := (hook { h.debugger with monitorOn := false }).monitorOn
    if on = off then [.monitor on] else []

instance [Host δ] : Host (DebugHost δ) where
  readHook v b h addr := h.call fun d => d.commandReadHook (h.env v b) addr
  writeHook v b h addr val := h.call fun d => d.commandWriteHook (h.env v b) addr val
  insnHook v b h :=
    h.call fun d => d.commandInsnHook (h.env v b) (v.pc.setWidth 16) (b.toAbsolute v.pc)
  getchar h := ((Host.getchar h.base).1, { h with base := (Host.getchar h.base).2 })
  put s c h := { h with base := Host.put s c h.base }
  select s h := ((Host.select s h.base).1, { h with base := (Host.select s h.base).2 })
  read s h := ((Host.read s h.base).1, { h with base := (Host.read s h.base).2 })
  noReturn := Host.noReturn δ
  debugEnabled := Host.debugEnabled δ
  nesting := Host.nesting δ

end DebugHost

end Exec09
