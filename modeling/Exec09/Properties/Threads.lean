import Exec09.Debugger.Host
import Exec09.Properties.Protection
import Exec09.Properties.Stops

/-!
# The cached thread

`command_write_hook` looks at the current thread at its end, when the last byte of the thread id is
written.  It does not get there when a watchpoint on that byte has a mask that sees no change, or
when `monitor_on` is not set after the hit.
-/

namespace Exec09

namespace Debugger

/-- The hook returns before its end: an entry for writes is found, and either its mask sees no change
or `monitor_on` is clear after the hit. -/
def ReturnsEarly (e : HookEnv) (addr : BitVec 64) (val : U8) (d : Debugger) : Prop :=
  d.activeBreakCount ≠ 0 ∧ ∃ n, d.brkfindByAddr addr = some n ∧
    (d.breaktab n).enabled = true ∧ (d.breaktab n).onWrite = true ∧
    ((d.breaktab n).writeMask ≠ 0 ∧ maskOk (d.breaktab n) val = false ∨
      (if d.effective e n then (d.breaktab n).keepRunning else !d.monitorOn) = true)

/-- The thread, as it is in the debugger's globals. -/
def threading (d : Debugger) : Unsigned × BitVec 64 × BitVec 64 :=
  (d.threadIdSize, d.threadCurrent, d.threadId)

@[simp] lemma threading_breakpointHit (e : HookEnv) (n : Slot) (d : Debugger) :
    (d.breakpointHit e n).threading = d.threading := by
  unfold breakpointHit
  dsimp only
  split_ifs <;> rfl

@[simp] lemma threading_noteWrite (n : Slot) (val : U8) (d : Debugger) :
    (d.noteWrite n val).threading = d.threading := by
  unfold noteWrite
  split <;> rfl

/-- Whether the end of the hook does anything, and what, is a matter of the thread. -/
lemma threading_changeThreadAt (e : HookEnv) (addr : BitVec 64) {d d' : Debugger}
    (h : d.threading = d'.threading) :
    (d.changeThreadAt e addr).threading = (d'.changeThreadAt e addr).threading := by
  obtain ⟨hsize, h⟩ := Prod.mk.inj h
  obtain ⟨hcurrent, hid⟩ := Prod.mk.inj h
  unfold changeThreadAt commandChangeThread
  rw [hsize, hcurrent, hid]
  split_ifs <;> simp [threading, hsize, hcurrent, hid]

/-- `monitor_on` after the hit of an entry, the value being noted. -/
lemma monitorOn_hitNoted (e : HookEnv) (n : Slot) (val : U8) (d : Debugger) :
    ((d.noteWrite n val).breakpointHit e n).monitorOn =
      !(if d.effective e n then (d.breaktab n).keepRunning else !d.monitorOn) := by
  obtain ⟨heff, hkeep, hon⟩ := noteWrite_spec e n val d
  rw [monitorOn_breakpointHit, heff, hkeep, hon]
  split
  · rfl
  · exact (Bool.not_not _).symm

lemma threading_hitNoted (e : HookEnv) (n : Slot) (val : U8) (d : Debugger) :
    ((d.noteWrite n val).breakpointHit e n).threading = d.threading := by
  rw [threading_breakpointHit, threading_noteWrite]

/-- Returning early, the hook leaves the thread alone. -/
lemma ReturnsEarly.threading {e : HookEnv} {addr : BitVec 64} {val : U8} {d : Debugger}
    (h : d.ReturnsEarly e addr val) : (d.commandWriteHook e addr val).threading = d.threading := by
  obtain ⟨h0, n, hfind, hen, hon, hcase⟩ := h
  simp only [commandWriteHook, hfind]
  rw [if_neg h0, if_pos ⟨hen, hon⟩]
  by_cases hm : (d.breaktab n).writeMask ≠ 0 ∧ ¬maskOk (d.breaktab n) val = true
  · rw [if_pos hm]
    exact threading_noteWrite n val d
  · rw [if_neg hm]
    have hoff := hcase.resolve_left fun h => hm ⟨h.1, by simp [h.2]⟩
    have hstop : ¬((d.noteWrite n val).breakpointHit e n).monitorOn = true := by
      rw [monitorOn_hitNoted, hoff]
      decide
    refine Eq.trans (congrArg Debugger.threading (if_neg hstop)) ?_
    exact threading_hitNoted e n val d

/-- Otherwise it gets to its end. -/
lemma threading_writeHook {e : HookEnv} {addr : BitVec 64} {val : U8} {d : Debugger}
    (h : ¬d.ReturnsEarly e addr val) :
    (d.commandWriteHook e addr val).threading = (d.changeThreadAt e addr).threading := by
  by_cases h0 : d.activeBreakCount = 0
  · rw [commandWriteHook, if_pos h0]
  cases hfind : d.brkfindByAddr addr with
  | none =>
    simp only [commandWriteHook, hfind]
    rw [if_neg h0]
  | some n =>
    simp only [commandWriteHook, hfind]
    rw [if_neg h0]
    by_cases hon : (d.breaktab n).enabled = true ∧ (d.breaktab n).onWrite = true
    · have hno := fun hcase => h ⟨h0, n, hfind, hon.1, hon.2, hcase⟩
      have hm : ¬((d.breaktab n).writeMask ≠ 0 ∧ ¬maskOk (d.breaktab n) val = true) :=
        fun h => hno (Or.inl ⟨h.1, Bool.eq_false_iff.mpr h.2⟩)
      have hgo : ((d.noteWrite n val).breakpointHit e n).monitorOn = true := by
        rw [monitorOn_hitNoted, Bool.eq_false_iff.mpr fun h => hno (Or.inr h)]
        rfl
      rw [if_pos hon, if_neg hm]
      refine Eq.trans (congrArg Debugger.threading (if_pos hgo)) ?_
      exact threading_changeThreadAt e addr (threading_hitNoted e n val d)
    · rw [if_neg hon]

lemma threading_changeThreadAt_eq (e : HookEnv) (addr : BitVec 64) (d : Debugger) :
    (d.changeThreadAt e addr).threading =
      (d.threadIdSize, d.threadCurrent,
        if d.threadIdSize ≠ 0 ∧ addr = d.threadCurrent + d.threadIdSize.setWidth 64 - 1 then e.thread
        else d.threadId) := by
  unfold changeThreadAt commandChangeThread
  split
  · split
    · rename_i heq
      rw [heq]
      rfl
    · rfl
  · rfl

end Debugger

/-! ## Writes of the processor -/

namespace Model

section Devices

variable {δ : Type} [Host δ]

/-- When it is written to, a device does nothing to the host but `put`. -/
def OnlyPuts (δ ρ : Type) [Host δ] [Devices ρ δ] : Prop :=
  ∀ (P : δ → Prop), (∀ s c h, P h → P (Host.put s c h)) → ∀ (v : View) (b : Bus (Io ρ δ))
    (dev : Nat) (phy : BitVec 64) (val : U8), P b.io.host →
      P (Devices.write v b dev phy val).world.io.host

lemma put_consoleWrite {P : δ → Prop} (hput : ∀ s c h, P h → P (Host.put s c h)) (phy : BitVec 64)
    (val : U8) {h : δ} (hP : P h) : P (consoleWrite phy val h).world := by
  unfold consoleWrite
  split_ifs
  · exact hput _ _ _ hP
  · exact hP
  · exact hP

lemma put_serialWrite {P : δ → Prop} (hput : ∀ s c h, P h → P (Host.put s c h)) (p : SerialPort)
    (f : Stream) (reg : BitVec 64) (val : U8) {h : δ} (hP : P h) : P (p.write f reg val h).2 := by
  unfold SerialPort.write
  split_ifs
  · exact hput _ _ _ hP
  · exact hP
  · exact hP

lemma onlyPuts_simple : OnlyPuts δ Simple :=
  fun _ hput _ _ _ phy val h => put_consoleWrite hput phy val h

lemma onlyPuts_eon : OnlyPuts δ Eon := by
  intro P hput v b dev phy val h
  simp only [Devices.write]
  split
  · exact h
  · exact put_consoleWrite hput phy val h
  · exact h

lemma onlyPuts_eon2 : OnlyPuts δ Eon2 := by
  intro P hput v b dev phy val h
  simp only [Devices.write]
  split
  · exact put_serialWrite hput _ _ _ val h
  · exact h
  · exact h
  · exact h
  · exact put_serialWrite hput _ _ _ val h
  · exact h

lemma onlyPuts_wpc : OnlyPuts δ WpcAsic := by
  intro P hput v b dev phy val h
  simp only [Devices.write]
  generalize Wpc.write ⟨b.io.dev, b.busmaps⟩ v.cycles phy val = w
  split_ifs
  · exact hput _ _ _ h
  · exact h

lemma onlyPuts (m : Model) : OnlyPuts δ m.Regs := by
  cases m with
  | simple => exact onlyPuts_simple
  | eon => exact onlyPuts_eon
  | eon2 => exact onlyPuts_eon2
  | wpc => exact onlyPuts_wpc

lemma devWrite_host (m : Model) {P : δ → Prop} (hput : ∀ s c h, P h → P (Host.put s c h)) (v : View)
    {b : Bus (Io m.Regs δ)} (dev : Nat) (phy : BitVec 64) (val : U8) (h : P b.io.host) :
    P (b.devWrite v dev phy val).world.io.host := by
  unfold Bus.devWrite
  cases b.cls dev with
  | null => exact h
  | ram => exact h
  | rom => exact h
  | io => exact m.onlyPuts P hput v b dev phy val h

end Devices

/-! ## Runs of writes -/

/-- A call of `cpu_write8`.  What happens in between can set and clear `monitor_on`, and so can a
fault of the write itself; `monitorOn` is what the hook finds. -/
structure CpuWrite where
  view : View
  addr : Unsigned
  val : U8
  monitorOn : Bool
  deriving DecidableEq, Repr

section Runs

variable {δ : Type} [Host δ] {m : Model}

abbrev debugger (b : Bus (Io m.Regs (DebugHost δ))) : Debugger := b.io.host.debugger

def setMonitor (on : Bool) (b : Bus (Io m.Regs (DebugHost δ))) : Bus (Io m.Regs (DebugHost δ)) :=
  b.setHost { b.io.host with debugger := { debugger b with monitorOn := on } }

def cpuWrite (b : Bus (Io m.Regs (DebugHost δ))) (x : CpuWrite) :
    Bus (Io m.Regs (DebugHost δ)) :=
  ((setMonitor x.monitorOn b).cpuWrite8 x.view x.addr x.val).world

def cpuWrites (b : Bus (Io m.Regs (DebugHost δ))) (l : List CpuWrite) :
    Bus (Io m.Regs (DebugHost δ)) :=
  l.foldl cpuWrite b

variable (b : Bus (Io m.Regs (DebugHost δ))) (x : CpuWrite)

/-- The thread id in the memory at `thread_current`, big endian. -/
def storedThread : U16 :=
  let current := (debugger b).threadCurrent
  b.priv (Bus.absDevice current) (Bus.absOffset current) ++
    b.priv (Bus.absDevice (current + 1)) (Bus.absOffset (current + 1))

/-- Both of its bytes are in RAM. -/
def InRam : Prop :=
  b.cls (Bus.absDevice (debugger b).threadCurrent) = .ram ∧
    b.cls (Bus.absDevice ((debugger b).threadCurrent + 1)) = .ram

/-- The cached thread is the one in memory. -/
def Follows : Prop := (debugger b).threadId = b.toAbsolute ((storedThread b).setWidth 32)

/-- The write changes the thread id in memory. -/
def ChangesThread : Prop := storedThread (cpuWrite b x) ≠ storedThread b

/-- The device has been written to, and the hook is called. -/
def atHook : Bus (Io m.Regs (DebugHost δ)) :=
  ((setMonitor x.monitorOn b).devWrite x.view (b.device x.addr) (b.phyAddr x.addr) x.val).world

/-- The write is one to the last byte of the thread id, and the hook gets to its end. -/
def Refreshes : Prop :=
  b.toAbsolute x.addr = (debugger b).threadCurrent + 1 ∧
    ¬(debugger (setMonitor x.monitorOn b)).ReturnsEarly
      (b.io.host.env x.view (atHook b x).memory) (b.toAbsolute x.addr) x.val

lemma atHook_host : debugger (atHook b x) = debugger (setMonitor x.monitorOn b) ∧
    (atHook b x).io.host.evalCond = b.io.host.evalCond :=
  m.devWrite_host (P := fun h : DebugHost δ =>
    h.debugger = debugger (setMonitor x.monitorOn b) ∧ h.evalCond = b.io.host.evalCond)
    (fun _ _ _ h => h) x.view (b.device x.addr) (b.phyAddr x.addr) x.val ⟨rfl, rfl⟩

/-- **One write**: the device, then the hook. -/
lemma cpuWrite_debugger : debugger (cpuWrite b x) =
    (debugger (setMonitor x.monitorOn b)).commandWriteHook
      (b.io.host.env x.view (atHook b x).memory) (b.toAbsolute x.addr) x.val := by
  obtain ⟨hdbg, heval⟩ := atHook_host b x
  have henv : (atHook b x).io.host.env x.view (atHook b x).memory =
      b.io.host.env x.view (atHook b x).memory := by
    unfold DebugHost.env
    rw [heval, show (atHook b x).io.host.debugger = _ from hdbg]
    rfl
  change (debugger (atHook b x)).commandWriteHook
    ((atHook b x).io.host.env x.view (atHook b x).memory) (b.toAbsolute x.addr) x.val = _
  rw [henv, hdbg]

lemma cpuWrite_memory : (cpuWrite b x).priv = (atHook b x).priv ∧
    (cpuWrite b x).busmaps = (atHook b x).busmaps ∧
    (cpuWrite b x).deviceTable = b.deviceTable :=
  ⟨rfl, rfl, m.devWrite_table x.view (setMonitor x.monitorOn b) _ _ x.val⟩

/-- **What a write does to the thread** that the debugger knows. -/
lemma cpuWrite_threading [Decidable (Refreshes b x)] (hsize : (debugger b).threadIdSize = 2) :
    (debugger (cpuWrite b x)).threading =
      (2, (debugger b).threadCurrent,
        if Refreshes b x then (b.io.host.env x.view (atHook b x).memory).thread
        else (debugger b).threadId) := by
  have hlast : (debugger b).threadCurrent + (2 : Unsigned).setWidth 64 - 1 =
      (debugger b).threadCurrent + 1 := by
    change (debugger b).threadCurrent + 2 - 1 = _
    bv_omega
  rw [cpuWrite_debugger]
  by_cases hearly : (debugger (setMonitor x.monitorOn b)).ReturnsEarly
      (b.io.host.env x.view (atHook b x).memory) (b.toAbsolute x.addr) x.val
  · rw [hearly.threading, if_neg fun h => h.2 hearly, ← hsize]
    rfl
  · rw [Debugger.threading_writeHook hearly, Debugger.threading_changeThreadAt_eq]
    change ((debugger b).threadIdSize, (debugger b).threadCurrent,
      if (debugger b).threadIdSize ≠ 0 ∧ b.toAbsolute x.addr =
        (debugger b).threadCurrent + (debugger b).threadIdSize.setWidth 64 - 1 then _ else _) = _
    rw [hsize, hlast]
    refine congrArg (fun t => ((2 : Unsigned), (debugger b).threadCurrent, t)) ?_
    exact if_congr ⟨fun h => ⟨h.2, hearly⟩, fun h => ⟨by decide, h.1⟩⟩ rfl rfl

omit [Host δ] in
/-- What the debugger reads is the thread id in RAM. -/
lemma memoryWord_eq {b : Bus (Io m.Regs (DebugHost δ))} (h : InRam b) :
    b.memory.memoryWord (debugger b).threadCurrent = storedThread b := by
  have hbyte : ∀ addr, b.cls (Bus.absDevice addr) = .ram →
      b.memory.memoryByte addr = b.priv (Bus.absDevice addr) (Bus.absOffset addr) := by
    intro addr hcls
    change b.memory.cls (Bus.absDevice addr) = .ram at hcls
    unfold Bus.memoryByte
    rw [hcls]
    rfl
  rw [Bus.memoryWord, hbyte _ h.1, hbyte _ h.2]
  rfl

/-- What stays as it is through all writes. -/
structure Tracks (b₀ b : Bus (Io m.Regs (DebugHost δ))) : Prop where
  size : (debugger b).threadIdSize = 2
  current : (debugger b).threadCurrent = (debugger b₀).threadCurrent
  table : b.deviceTable = b₀.deviceTable

lemma Tracks.write {b₀ b : Bus (Io m.Regs (DebugHost δ))} (h : Tracks b₀ b) (x : CpuWrite) :
    Tracks b₀ (cpuWrite b x) := by
  classical
  have hthread := cpuWrite_threading b x h.size
  obtain ⟨hsize, hrest⟩ := Prod.mk.inj hthread
  obtain ⟨hcurrent, -⟩ := Prod.mk.inj hrest
  exact ⟨hsize, hcurrent.trans h.current, (cpuWrite_memory b x).2.2.trans h.table⟩

omit [Host δ] in
lemma Tracks.inRam {b₀ b : Bus (Io m.Regs (DebugHost δ))} (h : Tracks b₀ b) (h₀ : InRam b₀) :
    InRam b := by
  unfold InRam Bus.cls at h₀ ⊢
  rw [h.current, h.table]
  exact h₀

/-- A write that refreshes the cache refreshes it with what is then in memory. -/
lemma follows_of_refreshes {b : Bus (Io m.Regs (DebugHost δ))} {x : CpuWrite}
    (hsize : (debugger b).threadIdSize = 2) (hram : InRam b) (h : Refreshes b x) :
    Follows (cpuWrite b x) := by
  classical
  have htracks : Tracks b (cpuWrite b x) := Tracks.write ⟨hsize, rfl, rfl⟩ x
  have hthread := cpuWrite_threading b x hsize
  rw [if_pos h] at hthread
  obtain ⟨-, hrest⟩ := Prod.mk.inj hthread
  obtain ⟨-, hid⟩ := Prod.mk.inj hrest
  rw [Follows, hid, ← memoryWord_eq (htracks.inRam hram), htracks.current]
  have hmem : (atHook b x).memory = (cpuWrite b x).memory := rfl
  rw [hmem]
  rfl

lemma threadId_of_not_refreshes {b : Bus (Io m.Regs (DebugHost δ))} {x : CpuWrite}
    (hsize : (debugger b).threadIdSize = 2) (h : ¬Refreshes b x) :
    (debugger (cpuWrite b x)).threadId = (debugger b).threadId := by
  classical
  have hthread := cpuWrite_threading b x hsize
  rw [if_neg h] at hthread
  obtain ⟨-, hrest⟩ := Prod.mk.inj hthread
  exact (Prod.mk.inj hrest).2

lemma cpuWrites_snoc (b : Bus (Io m.Regs (DebugHost δ))) (p : List CpuWrite) (x : CpuWrite) :
    cpuWrites b (p ++ [x]) = cpuWrite (cpuWrites b p) x := List.foldl_append ..

lemma Tracks.writes {b : Bus (Io m.Regs (DebugHost δ))} (hsize : (debugger b).threadIdSize = 2)
    (l : List CpuWrite) : Tracks b (cpuWrites b l) := by
  induction l using List.reverseRecOn with
  | nil => exact ⟨hsize, rfl, rfl⟩
  | append_singleton l x ih =>
    rw [cpuWrites_snoc]
    exact ih.write x

end Runs

/-- The simple machine with memory full of zeros, no watchpoints and `thread_current` at 0x0100. -/
def threaded : Bus (Io (Regs .simple) (DebugHost Bare)) where
  busmaps := Simple.maps
  deviceTable := Simple.devices
  priv _ _ := 0
  systemRunning := true
  io := ⟨⟨⟩, ⟨⟩, { Debugger.init with threadCurrent := 0x10000100 }, fun _ _ s => (0, s)⟩

/-- A store of one byte. -/
def storeByte (addr : Unsigned) (val : U8) : CpuWrite :=
  ⟨⟨0, 0, 0, 0, 0, 0, 0, 0, 0, 0⟩, addr, val, false⟩

end Model

end Exec09
