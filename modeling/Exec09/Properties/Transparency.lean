import Exec09.Debugger.Host
import Exec09.Properties.Protection
import Exec09.Properties.SameRuns

/-!
# The debugger does not show

The target is the machine without its debugger: registers, memory and devices, and the host's
streams.  The hooks write the debugger's own tables and `monitor_on`, and nothing of the target.
So a program runs on a machine with breakpoints and watchpoints as it runs without a debugger, as
long as the sessions the user has with the debugger leave the target alone.
-/

namespace Exec09

open Program

variable {δ ρ β : Type}

/-! ## The target -/

/-- A host without a debugger: its hooks do nothing. -/
structure Unhooked (δ : Type) where
  base : δ

instance [Host δ] : Host (Unhooked δ) where
  readHook _ _ h _ := ⟨(), h, []⟩
  writeHook _ _ h _ _ := ⟨(), h, []⟩
  insnHook _ _ h := ⟨(), h, []⟩
  getchar h := ((Host.getchar h.base).1, ⟨(Host.getchar h.base).2⟩)
  put s c h := ⟨Host.put s c h.base⟩
  select s h := ((Host.select s h.base).1, ⟨(Host.select s h.base).2⟩)
  read s h := ((Host.read s h.base).1, ⟨(Host.read s h.base).2⟩)
  noReturn := Host.noReturn δ
  debugEnabled := Host.debugEnabled δ
  nesting := Host.nesting δ

/-- The bus without the debugger. -/
def Bus.target (b : Bus (Io ρ (DebugHost δ))) : Bus (Io ρ (Unhooked δ)) :=
  { b with io := ⟨b.io.dev, ⟨b.io.host.base⟩⟩ }

/-- An answer, but for what happens to the debugger. -/
def Reply.target (r : Reply (Bus (Io ρ (DebugHost δ))) β) : Reply (Bus (Io ρ (Unhooked δ))) β :=
  ⟨r.val, r.world.target, r.signals⟩

def WriteReply.target (r : WriteReply (Bus (Io ρ (DebugHost δ)))) :
    WriteReply (Bus (Io ρ (Unhooked δ))) :=
  ⟨r.world.target, r.effects⟩

/-- The processor on its target. -/
def Cpu.target (s : Cpu (Bus (Io ρ (DebugHost δ)))) : Cpu (Bus (Io ρ (Unhooked δ))) :=
  { s with world := s.world.target, monitorOn := false }

/-- Forget whether a session is asked for. -/
def Cpu.quiet {σ : Type} (s : Cpu σ) : Cpu σ := { s with monitorOn := false }

section Machines

variable [Host δ]

/-! ## Devices -/

lemma consoleRead_target (addr : BitVec 64) (h : DebugHost δ) :
    consoleRead addr (⟨h.base⟩ : Unhooked δ) =
      ((consoleRead addr h).1, ⟨(consoleRead addr h).2.base⟩) := by
  unfold consoleRead
  split <;> rfl

lemma consoleWrite_target (addr : BitVec 64) (val : U8) (h : DebugHost δ) :
    consoleWrite addr val (⟨h.base⟩ : Unhooked δ) =
      ⟨⟨(consoleWrite addr val h).world.base⟩, (consoleWrite addr val h).effects⟩ := by
  unfold consoleWrite
  split
  · rfl
  · split <;> rfl

lemma SerialPort.read_eq [Host β] (p : SerialPort) (f : Stream) (addr : BitVec 64) (h : β) :
    p.read f addr h =
      if addr = 0 then
        if (p.update (Host.select f h).1).status &&& 1 = 0 then
          (0xff, p.update (Host.select f h).1, (Host.select f h).2)
        else
          ((Host.read f (Host.select f h).2).1, p.update (Host.select f h).1,
            (Host.read f (Host.select f h).2).2)
      else if addr = 1 then
        ((p.update (Host.select f h).1).status.setWidth 8, p.update (Host.select f h).1,
          (Host.select f h).2)
      else (Host.noReturn β, p.update (Host.select f h).1, (Host.select f h).2) := rfl

lemma SerialPort.read_target (p : SerialPort) (f : Stream) (addr : BitVec 64) (h : DebugHost δ) :
    p.read f addr (⟨h.base⟩ : Unhooked δ) =
      ((p.read f addr h).1, (p.read f addr h).2.1, ⟨(p.read f addr h).2.2.base⟩) := by
  rw [read_eq, read_eq]
  change (if addr = 0 then if (p.update (Host.select f h).1).status &&& 1 = 0 then _ else _
    else _) = _
  split
  · split <;> rfl
  · split <;> rfl

lemma SerialPort.write_target (p : SerialPort) (f : Stream) (addr : BitVec 64) (val : U8)
    (h : DebugHost δ) :
    p.write f addr val (⟨h.base⟩ : Unhooked δ) =
      ((p.write f addr val h).1, ⟨(p.write f addr val h).2.base⟩) := by
  unfold SerialPort.write
  split
  · rfl
  · split <;> rfl

lemma Simple.read_target (b : Bus (Io Simple (DebugHost δ))) (dev : Nat) (phy : BitVec 64) :
    Devices.read b.target dev phy = (Devices.read b dev phy).target := by
  simp only [Devices.read]
  rw [show b.target.io.host = ⟨b.io.host.base⟩ from rfl, consoleRead_target]
  rfl

lemma Eon.read_target (b : Bus (Io Eon (DebugHost δ))) (dev : Nat) (phy : BitVec 64) :
    Devices.read b.target dev phy = (Devices.read b dev phy).target := by
  simp only [Devices.read]
  split
  · rfl
  · rw [show b.target.io.host = ⟨b.io.host.base⟩ from rfl, consoleRead_target]
    rfl
  · rfl

lemma Eon2.read_target (b : Bus (Io Eon2 (DebugHost δ))) (dev : Nat) (phy : BitVec 64) :
    Devices.read b.target dev phy = (Devices.read b dev phy).target := by
  simp only [Devices.read]
  split
  · rw [show b.target.io.host = ⟨b.io.host.base⟩ from rfl, SerialPort.read_target]
    rfl
  · rfl
  · rfl
  · rfl
  · rw [show b.target.io.host = ⟨b.io.host.base⟩ from rfl, SerialPort.read_target]
    rfl
  · rfl

lemma WpcAsic.read_target (b : Bus (Io WpcAsic (DebugHost δ))) (dev : Nat) (phy : BitVec 64) :
    Devices.read b.target dev phy = (Devices.read b dev phy).target := by
  simp only [Devices.read]
  by_cases hd : asicReg phy = some .debugData
  · rw [if_pos hd, if_pos hd]
    by_cases hc : b.io.dev.consoleInited
    · rw [if_pos hc, if_pos (show b.target.io.dev.consoleInited from hc)]
      rfl
    · rw [if_neg hc, if_neg (show ¬b.target.io.dev.consoleInited from hc)]
      rfl
  · simp only [if_neg hd]
    rw [show b.target.io.dev = b.io.dev from rfl]
    generalize b.io.dev.read phy = x
    rfl

lemma Simple.write_target (v : View) (b : Bus (Io Simple (DebugHost δ))) (dev : Nat)
    (phy : BitVec 64) (val : U8) :
    Devices.write v b.target dev phy val = (Devices.write v b dev phy val).target := by
  simp only [Devices.write]
  rw [show b.target.io.host = ⟨b.io.host.base⟩ from rfl, consoleWrite_target]
  rfl

lemma Eon.write_target (v : View) (b : Bus (Io Eon (DebugHost δ))) (dev : Nat)
    (phy : BitVec 64) (val : U8) :
    Devices.write v b.target dev phy val = (Devices.write v b dev phy val).target := by
  simp only [Devices.write]
  split
  · rfl
  · rw [show b.target.io.host = ⟨b.io.host.base⟩ from rfl, consoleWrite_target]
    rfl
  · rfl

lemma Eon2.write_target (v : View) (b : Bus (Io Eon2 (DebugHost δ))) (dev : Nat)
    (phy : BitVec 64) (val : U8) :
    Devices.write v b.target dev phy val = (Devices.write v b dev phy val).target := by
  simp only [Devices.write]
  split
  · rw [show b.target.io.host = ⟨b.io.host.base⟩ from rfl, SerialPort.write_target]
    rfl
  · rfl
  · rfl
  · rfl
  · rw [show b.target.io.host = ⟨b.io.host.base⟩ from rfl, SerialPort.write_target]
    rfl
  · rfl

lemma WpcAsic.write_target (v : View) (b : Bus (Io WpcAsic (DebugHost δ))) (dev : Nat)
    (phy : BitVec 64) (val : U8) :
    Devices.write v b.target dev phy val = (Devices.write v b dev phy val).target := by
  simp only [Devices.write]
  rw [show (⟨b.target.io.dev, b.target.busmaps⟩ : Wpc) = ⟨b.io.dev, b.busmaps⟩ from rfl]
  generalize Wpc.write ⟨b.io.dev, b.busmaps⟩ v.cycles phy val = w
  split <;> rfl

/-- No device sees the debugger. -/
lemma Model.read_target (m : Model) (b : Bus (Io m.Regs (DebugHost δ))) (dev : Nat)
    (phy : BitVec 64) : Devices.read b.target dev phy = (Devices.read b dev phy).target := by
  cases m with
  | simple => exact Simple.read_target b dev phy
  | eon => exact Eon.read_target b dev phy
  | eon2 => exact Eon2.read_target b dev phy
  | wpc => exact WpcAsic.read_target b dev phy

lemma Model.write_target (m : Model) (v : View) (b : Bus (Io m.Regs (DebugHost δ))) (dev : Nat)
    (phy : BitVec 64) (val : U8) :
    Devices.write v b.target dev phy val = (Devices.write v b dev phy val).target := by
  cases m with
  | simple => exact Simple.write_target v b dev phy val
  | eon => exact Eon.write_target v b dev phy val
  | eon2 => exact Eon2.write_target v b dev phy val
  | wpc => exact WpcAsic.write_target v b dev phy val

/-! ## The bus -/

omit [Host δ] in
/-- A hook changes nothing of the target, and asks for nothing but a session. -/
lemma DebugHost.call_silent (h : DebugHost δ) (hook : Debugger → Debugger) :
    (h.call hook).signals.filter Signal.heard = [] := by
  unfold DebugHost.call
  dsimp only
  split <;> rfl

section Bus

variable {m : Model}

lemma Bus.hooked_target (v : View) (b : Bus (Io m.Regs (DebugHost δ))) (addr : Unsigned) :
    (b.hooked v addr).world.target = b.target ∧
      (b.hooked v addr).signals.filter Signal.heard = [] :=
  ⟨rfl, DebugHost.call_silent _ _⟩

lemma Bus.devRead_target (v : View) (b : Bus (Io m.Regs (DebugHost δ))) (dev : Nat)
    (phy : BitVec 64) : b.target.devRead v dev phy = (b.devRead v dev phy).target := by
  have hcls : b.target.cls dev = b.cls dev := rfl
  unfold Bus.devRead
  rw [hcls]
  cases b.cls dev with
  | null | ram | rom => rfl
  | io => exact m.read_target b dev phy

lemma Bus.devWrite_target (v : View) (b : Bus (Io m.Regs (DebugHost δ))) (dev : Nat)
    (phy : BitVec 64) (val : U8) :
    b.target.devWrite v dev phy val = (b.devWrite v dev phy val).target := by
  have hcls : b.target.cls dev = b.cls dev := rfl
  unfold Bus.devWrite
  rw [hcls]
  cases b.cls dev with
  | null | ram | rom => rfl
  | io => exact m.write_target v b dev phy val

lemma Bus.faults_target (v : View) (b : Bus (Io m.Regs (DebugHost δ))) (addr : Unsigned) (flag : U8)
    (type : Fault) : b.target.faults v addr flag type = b.faults v addr flag type := by
  have hfault (t : Fault) : b.target.doFault v addr t = b.doFault v addr t := by
    cases m <;> rfl
  unfold Bus.faults
  rw [hfault, hfault]
  rfl

omit [Host δ] in
lemma filter_map_signal (l : List Signal) :
    (l.map Effect.signal).filter Effect.heard = (l.filter Signal.heard).map Effect.signal := by
  rw [List.filter_map]
  rfl

omit [Host δ] in
@[simp] lemma Bus.device_target (b : Bus (Io m.Regs (DebugHost δ))) (addr : Unsigned) :
    b.target.device addr = b.device addr := rfl

omit [Host δ] in
@[simp] lemma Bus.phyAddr_target (b : Bus (Io m.Regs (DebugHost δ))) (addr : Unsigned) :
    b.target.phyAddr addr = b.phyAddr addr := rfl

lemma Bus.target_hooked (v : View) (b : Bus (Io m.Regs (DebugHost δ))) (addr : Unsigned) :
    b.target.hooked v addr = ⟨(), b.target, []⟩ := rfl

/-- The bytes an access reads, after the hook. -/
lemma Bus.devRead_hooked (v : View) (b : Bus (Io m.Regs (DebugHost δ))) (addr : Unsigned)
    (dev : Nat) (phy : BitVec 64) :
    b.target.devRead v dev phy = ((b.hooked v addr).world.devRead v dev phy).target :=
  Bus.devRead_target v (b.hooked v addr).world dev phy

lemma Bus.cpuRead8_target (v : View) (b : Bus (Io m.Regs (DebugHost δ))) (addr : Unsigned) :
    SameReply True (fun b b' => b' = b.target) (b.cpuRead8 v addr) (b.target.cpuRead8 v addr) := by
  refine .inr ?_
  simp only [Bus.cpuRead8, Bus.target_hooked, Bus.device_target, Bus.phyAddr_target,
    Bus.faults_target, Bus.devRead_hooked v b addr]
  generalize (b.hooked v addr).world.devRead v (b.device addr) (b.phyAddr addr) = r
  refine ⟨rfl, rfl, ?_⟩
  simp only [List.filter_append, (Bus.hooked_target v b addr).2]
  rfl

/-- The second byte is read where the first left the device. -/
lemma Bus.cpuRead16_target (v : View) (b : Bus (Io m.Regs (DebugHost δ))) (addr : Unsigned) :
    SameReply True (fun b b' => b' = b.target) (b.cpuRead16 v addr)
      (b.target.cpuRead16 v addr) := by
  refine .inr ?_
  simp only [Bus.cpuRead16, Bus.target_hooked, Bus.device_target, Bus.phyAddr_target,
    Bus.faults_target, Bus.devRead_hooked v b addr]
  generalize (b.hooked v addr).world.devRead v (b.device addr) (b.phyAddr addr) = hi
  rw [show hi.target.world = hi.world.target from rfl, Bus.devRead_target]
  generalize hi.world.devRead v (b.device addr) (b.phyAddr addr + 1) = lo
  refine ⟨rfl, rfl, ?_⟩
  simp only [List.filter_append, (Bus.hooked_target v b addr).2]
  rfl

/-- The hook runs after the write. -/
lemma Bus.cpuWrite8_target (v : View) (b : Bus (Io m.Regs (DebugHost δ))) (addr : Unsigned)
    (val : U8) :
    SameWrite True (fun b b' => b' = b.target) (b.cpuWrite8 v addr val)
      (b.target.cpuWrite8 v addr val) := by
  refine .inr ?_
  simp only [Bus.cpuWrite8, Bus.device_target, Bus.phyAddr_target, Bus.faults_target,
    Bus.devWrite_target]
  generalize b.devWrite v (b.device addr) (b.phyAddr addr) val = r
  have hhook : (Board.writeHook v r.world (b.toAbsolute addr) val).signals.filter Signal.heard = [] :=
    DebugHost.call_silent _ _
  refine ⟨rfl, ?_⟩
  simp only [List.filter_append, filter_map_signal, hhook]
  rfl

/-- **The bus with the debugger does what the target does.** -/
lemma simulates_target : Simulates True fun (b : Bus (Io m.Regs (DebugHost δ)))
    (b' : Bus (Io m.Regs (Unhooked δ))) => b' = b.target where
  read8 v b b' a hb := hb ▸ Bus.cpuRead8_target v b a
  read16 v b b' a hb := hb ▸ Bus.cpuRead16_target v b a
  write8 v b b' a d hb := hb ▸ Bus.cpuWrite8_target v b a d
  insnHook v b b' hb := .inr ⟨rfl, hb, (DebugHost.call_silent _ _).symm⟩
  cpuIsRunning b b' hb := by rw [hb]; rfl
  debugEnabled := rfl
  nesting := rfl

end Bus

/-! ## Runs -/

section Runs

variable {m : Model}

/-- A machine with the debugger beside one without. -/
abbrev OnTarget (b : Bus (Io m.Regs (DebugHost δ))) (b' : Bus (Io m.Regs (Unhooked δ))) : Prop :=
  b' = b.target

/-- A session that looks at the target, sets breakpoints and goes on. -/
def Unobtrusive (session : M (Bus (Io m.Regs (DebugHost δ))) Bool) : Prop :=
  ∀ s, ∃ t, session s = .ok (false, t) ∧ t.target = s.target

omit [Host δ] in
lemma InStep.quiet_eq {s : Cpu (Bus (Io m.Regs (DebugHost δ)))}
    {t : Cpu (Bus (Io m.Regs (Unhooked δ)))} (h : InStep OnTarget s t) : t.quiet = s.target :=
  congrArg₂ (fun (u : Cpu Unit) w => { u with world := w }) h.proper h.world

omit [Host δ] in
lemma inStep_target (s : Cpu (Bus (Io m.Regs (DebugHost δ)))) : InStep OnTarget s s.target :=
  ⟨rfl, rfl⟩

omit [Host δ] in
lemma InStep.of_target_eq {s u : Cpu (Bus (Io m.Regs (DebugHost δ)))}
    {t : Cpu (Bus (Io m.Regs (Unhooked δ)))} (h : InStep OnTarget s t) (hu : u.target = s.target) :
    InStep OnTarget u t where
  proper := h.proper.trans (congrArg Cpu.proper hu).symm
  world := h.world.trans (congrArg Cpu.world hu).symm

omit [Host δ] in
lemma Unobtrusive.follows {session : M (Bus (Io m.Regs (DebugHost δ))) Bool}
    (h : Unobtrusive session) :
    Follows True (InStep OnTarget) (whenMonitored session) (whenMonitored (pure false)) := by
  intro s t hst
  rw [whenMonitored_pure]
  by_cases hon : s.monitorOn = true
  · rw [whenMonitored_on _ hon]
    obtain ⟨u, hu, htarget⟩ := h s
    refine ⟨fun a s' hs' => ?_, fun _ e he => ?_⟩
    · obtain ⟨rfl, rfl⟩ := Prod.mk.inj (Except.ok.inj (hu.symm.trans hs'))
      exact ⟨t, rfl, hst.of_target_eq htarget⟩
    · cases hu.symm.trans he
  · rw [whenMonitored_off _ hon]
    exact Follows.pure false s t hst

end Runs

end Machines

/-- A branch to itself in memory full of zeros, and a breakpoint on it. -/
def watched : Cpu (Bus (Io (Model.Regs .simple) (DebugHost Bare))) := Cpu.zeroed
  { busmaps := Simple.maps
    deviceTable := Simple.devices
    priv := fun _ a => if a = 0 then 0x20 else if a = 1 then 0xfe else 0
    systemRunning := true
    io :=
      { dev := ⟨⟩
        host :=
          { base := ⟨⟩
            debugger :=
              { Debugger.init with
                breaktab := fun n => if n.val = 0 then
                  { Breakpoint.zeroed with
                    used := true, enabled := true, onExecute := true, addr := 0x10000000 }
                  else Breakpoint.zeroed
                activeBreakCount := 1 }
            evalCond := fun _ _ text => (0, text) } } }

/-- The user types `continue` at once. -/
def goOn : M (Bus (Io (Model.Regs .simple) (DebugHost Bare))) Bool := do
  modify fun s => { s with monitorOn := false }
  return false

/-- Two slices, and an interrupt between them. -/
def slices (σ : Type) : List (Int × List (Action σ)) := [(6, [.requestIrq 1]), (6, [])]

lemma sameSlices {σ τ : Type} (R : Cpu σ → Cpu τ → Prop) :
    List.Forall₂ (fun x y => y.1 = x.1 ∧ List.Forall₂ (SameAction R) x.2 y.2) (slices σ)
      (slices τ) :=
  .cons ⟨rfl, .cons (.requestIrq 1) .nil⟩ (.cons ⟨rfl, .nil⟩ .nil)

end Exec09
