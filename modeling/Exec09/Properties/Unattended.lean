import Exec09.Properties.Transparency
import Exec09.Properties.RunInvariants
import Exec09.Properties.Cycles

/-!
# Runs without debugging

With `debug_enabled` off `sim_error` ends the process, and without breakpoints nothing else sets
`monitor_on`.  So as long as the process runs, the monitor is not entered and `sim_error` has not
been called (`Off.kept`); every call of `cpu_execute` then spends its budget or ends the process
(`Off.cpuExecute`).
-/

namespace Exec09

open Program

variable {σ α : Type} [Machine σ]

/-- Debugging is off, and in the worlds of `I`, which no access leaves, nothing sets `monitor_on`. -/
class Unattended (I : σ → Prop) : Prop extends Closed I where
  debugEnabled : Machine.debugEnabled σ = false
  quiet8 : ∀ v w a on, I w → .monitor on ∉ (Machine.read8 v w a).signals
  quiet16 : ∀ v w a on, I w → .monitor on ∉ (Machine.read16 v w a).signals
  quietWrite : ∀ v w a d on, I w → .signal (.monitor on) ∉ (Machine.write8 v w a d).effects
  quietHook : ∀ v w on, I w → .monitor on ∉ (Machine.insnHook v w).signals

omit [Machine σ] in
/-- The monitor is not entered, and there have been `n` calls of `sim_error`. -/
structure Off (I : σ → Prop) (n : Nat) (s : Cpu σ) : Prop where
  monitorOn : s.monitorOn = false
  simErrors : s.simErrors = n
  world : I s.world

omit [Machine σ] in
/-- A state beside itself. -/
def SameOff (I : σ → Prop) (n : Nat) (s t : Cpu σ) : Prop := t = s ∧ Off I n s

section Kept

variable {I : σ → Prop} {n : Nat} {m : M σ α}

omit [Machine σ] in
/-- Beside itself a program does the same. -/
lemma follows_itself :
    Follows True (SameOff I n) m m ↔ Triple (Off I n) m fun _ => Off I n := by
  constructor
  · intro h s hs a t ht
    obtain ⟨t', -, -, hoff⟩ := (h s s ⟨rfl, hs⟩).1 a t ht
    exact hoff
  · rintro h _ s ⟨rfl, hs⟩
    exact ⟨fun a t ht => ⟨t, ht, rfl, h s hs a t ht⟩, fun _ _ he => he⟩

instance : Linked (SameOff I n) where
  proper h := congrArg Cpu.proper h.1
  plug u h := ⟨congrArg u.plug h.1, h.2.monitorOn, h.2.simErrors, h.2.world⟩

variable [Unattended I]

lemma off_simError : Triple (Off I n) (simError : M σ Unit) fun _ => Off I n := by
  intro s _ a t h
  rw [simError, ok_bind (modify_apply _ s), Unattended.debugEnabled I] at h
  cases h

lemma off_signals {l : List Signal} (hl : ∀ on, .monitor on ∉ l) :
    Triple (Off I n) (l.forM signal : M σ Unit) fun _ => Off I n := by
  induction l with
  | nil => exact Triple.pure fun _ hs => hs
  | cons x l ih =>
      have htail : ∀ on, .monitor on ∉ l := fun on h => hl on (List.mem_cons_of_mem _ h)
      refine Triple.bind (?_ : Triple (Off I n) (signal x) fun _ => Off I n) fun _ => ih htail
      cases x with
      | simError => exact off_simError
      | monitor on => exact absurd List.mem_cons_self (hl on)
      | exit c =>
          intro s _ a t h
          cases h

lemma off_access {β : Type} {call : View → σ → Reply σ β}
    (hI : ∀ v w, I w → I (call v w).world) (hq : ∀ v w on, I w → .monitor on ∉ (call v w).signals) :
    Triple (Off I n) (access call) fun _ => Off I n := by
  intro s hs a t h
  rw [access_apply, Reply.carry] at h
  obtain ⟨_, u, hu, ht⟩ := bind_eq_ok.mp h
  cases ht
  have hw : Off I n { s with world := (call s.view s.world).world } :=
    ⟨hs.monitorOn, hs.simErrors, hI s.view s.world hs.world⟩
  exact off_signals (fun on => hq s.view s.world on hs.world) _ hw _ _ hu

instance : SameCalls True (SameOff I n) where
  read8 a := follows_itself.mpr (off_access (fun v w => Closed.read8 v w a)
    fun v w => Unattended.quiet8 v w a)
  read16 a := follows_itself.mpr (off_access (fun v w => Closed.read16 v w a)
    fun v w => Unattended.quiet16 v w a)
  insnHook := follows_itself.mpr (off_access Closed.insnHook Unattended.quietHook)
  simError := follows_itself.mpr off_simError
  write8 a d _ s := by
    rintro ⟨rfl, hs⟩
    have hq (on : Bool) := Unattended.quietWrite s.view s.world a d on hs.world
    exact .inr ⟨⟨rfl, hs.monitorOn, hs.simErrors, Closed.write8 s.view s.world a d hs.world⟩, rfl,
      fun on h => absurd h (hq on), fun on h => absurd h (hq on)⟩
  cpuIsRunning _ s := by
    rintro ⟨rfl, hs⟩
    exact ⟨rfl, hs.monitorOn, hs.simErrors, Closed.cpuIsRunning s.world hs.world⟩
  nesting := rfl

/-- **With debugging off the monitor is not entered.** -/
lemma Off.insnHook {s t : Cpu σ} (hs : Off I n s) (h : Exec09.insnHook s = .ok ((), t)) :
    Off I n t :=
  follows_itself.mp follows_insnHook s hs () t h

lemma Off.cpuInsn {s t : Cpu σ} (hs : Off I n s) (h : Exec09.cpuInsn s = .ok ((), t)) :
    Off I n t :=
  follows_itself.mp follows_cpuInsn s hs () t h

lemma Off.requestIrq {s t : Cpu σ} (hs : Off I n s) {source : Unsigned}
    (h : Exec09.requestIrq source s = .ok ((), t)) : Off I n t :=
  follows_itself.mp (follows_requestIrqWith follows_wrmem source) s hs () t h

lemma Off.requestFirq {s t : Cpu σ} (hs : Off I n s) {source : Unsigned}
    (h : Exec09.requestFirq source s = .ok ((), t)) : Off I n t :=
  follows_itself.mp (follows_requestFirqWith follows_wrmem source) s hs () t h

lemma Off.cpuReset {s t : Cpu σ} (hs : Off I n s) (h : Exec09.cpuReset s = .ok ((), t)) :
    Off I n t :=
  follows_itself.mp follows_cpuReset s hs () t h

/-! ## Slices -/

lemma Off.smooth {s : Cpu σ} (hs : Off I n s) : Smooth s := fun _ hm =>
  ⟨(hs.insnHook hm).monitorOn, fun _ ht =>
    ((hs.insnHook hm).cpuInsn ht).simErrors.trans (hs.insnHook hm).simErrors.symm⟩

lemma Off.runs {s t : Cpu σ} {ks : List Int} (hs : Off I n s) (h : Runs s ks t) : Off I n t := by
  induction h with
  | nil s => exact hs
  | cons h r ih =>
      obtain ⟨m, hh, -, hi, -, -⟩ := h
      exact ih ((hs.insnHook hh).cpuInsn hi)

omit [Machine σ] [Unattended I] in
lemma Off.grant {s : Cpu σ} (hs : Off I n s) (c : Int) : Off I n (s.grant c) :=
  ⟨hs.monitorOn, hs.simErrors, hs.world⟩

lemma Off.smoothSlice {s : Cpu σ} (hs : Off I n s) (c : Int) : SmoothSlice c s :=
  fun _ _ hr _ => ((hs.grant c).runs hr).smooth

/-- **A slice ends the process or spends its budget**, and then `total` has grown by what the
instructions cost. -/
lemma Off.mainSlice {s : Cpu σ} (hs : Off I n s) (monitor6809 : M σ Bool) {fuel : Nat} {c : Int}
    (hfuel : 1 ≤ fuel) (hc : c ≤ 2 * fuel) (hb : Budget c) :
    (∃ e, Exec09.mainSlice monitor6809 fuel c s = .error e) ∨
      ∃ ks t, Runs (s.grant c) ks t ∧ Off I n t ∧
        Exec09.mainSlice monitor6809 fuel c s = .ok (some (), t.settled) ∧
        max 2 c ≤ ks.sum ∧ ks.sum ≤ max 20 (c + 19) ∧
        t.settled.total = s.total + BitVec.ofInt 64 ks.sum := by
  obtain ⟨e, he⟩ | ⟨ks, t, hr, hsp, hmax, hx⟩ :=
    cpuExecute_spec monitor6809 hfuel hc (hs.smoothSlice c)
  · exact .inl ⟨e, mainSlice_error monitor6809 he⟩
  obtain ⟨hclk, hacc, -⟩ := hr.charged
  have hsum : t.cpuPeriod - t.cpuClk = ks.sum := by
    have hp : t.cpuPeriod = c := congrArg Prod.fst hacc
    have hq : t.cpuClk = c - ks.sum := hclk
    rw [hp, hq, Int.sub_sub_self]
  have hlow : 2 ≤ ks.sum := by
    cases hr with
    | nil => exact absurd rfl hsp.1
    | cons h r =>
        have hk := h.charged.2.2.1
        have hrest := r.sum_nonneg
        rw [List.sum_cons]
        omega
  refine .inr ⟨ks, t, hr, (hs.grant c).runs hr, ?_, max_le hlow hsp.2.1, hmax, ?_⟩
  · rw [mainSlice_of_execute monitor6809 hx, ← hsum]
    rfl
  · have htotal : t.total = s.total := congrArg Prod.snd hacc
    change t.total + BitVec.ofInt 64 (toInt (t.cpuPeriod - t.cpuClk)) = _
    rw [htotal, hsum, toInt_eq hr.sum_nonneg (hsp.le_max hr hb)]

end Kept

/-! ## Machines without breakpoints -/

section Machines

variable {δ : Type} [Host δ]

/-- In the hosts of `J`, which no call leaves, the hooks ask for nothing. -/
class Unwatched (J : δ → Prop) : Prop where
  debugEnabled : Host.debugEnabled δ = false
  readHook : ∀ v b h a, J h → J (Host.readHook v b h a).world ∧ (Host.readHook v b h a).signals = []
  writeHook : ∀ v b h a d, J h →
    J (Host.writeHook v b h a d).world ∧ (Host.writeHook v b h a d).signals = []
  insnHook : ∀ v b h, J h → J (Host.insnHook v b h).world ∧ (Host.insnHook v b h).signals = []
  getchar : ∀ h, J h → J (Host.getchar h).2
  put : ∀ s c h, J h → J (Host.put s c h)
  select : ∀ s h, J h → J (Host.select s h).2
  read : ∀ s h, J h → J (Host.read s h).2

/-- The debugger has no active breakpoints. -/
abbrev NoBreakpoints (h : DebugHost δ) : Prop := h.debugger.activeBreakCount = 0

omit [Host δ] in
/-- A hook that returns at once asks for nothing. -/
lemma DebugHost.call_quiet (h : DebugHost δ) {hook : Debugger → Debugger}
    (hh : ∀ on, (hook { h.debugger with monitorOn := on }).monitorOn = on) :
    (h.call hook).signals = [] := by
  unfold DebugHost.call
  dsimp only
  rw [hh, hh]
  rfl

omit [Host δ] in
lemma Debugger.changeThreadAt_frame (e : Debugger.HookEnv) (addr : BitVec 64) (d : Debugger) :
    (d.changeThreadAt e addr).monitorOn = d.monitorOn ∧
      (d.changeThreadAt e addr).activeBreakCount = d.activeBreakCount := by
  unfold Debugger.changeThreadAt Debugger.commandChangeThread
  split
  · split <;> exact ⟨rfl, rfl⟩
  · exact ⟨rfl, rfl⟩

/-- Without breakpoints the hooks only keep the trace and the thread. -/
lemma unwatched_debugHost (hd : Host.debugEnabled δ = false) :
    Unwatched (NoBreakpoints : DebugHost δ → Prop) where
  debugEnabled := hd
  readHook v b h a hb := by
    have hook (on : Bool) : ({ h.debugger with monitorOn := on }).commandReadHook (h.env v b) a =
        { h.debugger with monitorOn := on } := if_pos hb
    exact ⟨(congrArg Debugger.activeBreakCount (if_pos hb)).trans hb,
      h.call_quiet fun on => congrArg Debugger.monitorOn (hook on)⟩
  writeHook v b h a d hb := by
    have hook (on : Bool) : ({ h.debugger with monitorOn := on }).commandWriteHook (h.env v b) a d =
        ({ h.debugger with monitorOn := on }).changeThreadAt (h.env v b) a := if_pos hb
    refine ⟨?_, h.call_quiet fun on => ?_⟩
    · have hsame : h.debugger.commandWriteHook (h.env v b) a d =
          h.debugger.changeThreadAt (h.env v b) a := if_pos hb
      exact (congrArg Debugger.activeBreakCount hsame).trans
        ((Debugger.changeThreadAt_frame _ _ _).2.trans hb)
    · rw [hook]
      exact (Debugger.changeThreadAt_frame _ _ _).1
  insnHook v b h hb := by
    have hook (on : Bool) : ({ h.debugger with monitorOn := on }).commandInsnHook (h.env v b)
        (v.pc.setWidth 16) (b.toAbsolute v.pc) =
          ({ h.debugger with monitorOn := on }).commandTraceInsn (v.pc.setWidth 16) := if_pos hb
    have hsame : h.debugger.commandInsnHook (h.env v b) (v.pc.setWidth 16) (b.toAbsolute v.pc) =
        h.debugger.commandTraceInsn (v.pc.setWidth 16) := if_pos hb
    exact ⟨(congrArg Debugger.activeBreakCount hsame).trans hb,
      h.call_quiet fun on => congrArg Debugger.monitorOn (hook on)⟩
  getchar _ hb := hb
  put _ _ _ hb := hb
  select _ _ hb := hb
  read _ _ hb := hb

/-- An answer that leaves the host in `J` and does not ask for the monitor. -/
structure Reply.Tame {ρ β : Type} (J : δ → Prop) (r : Reply (Bus (Io ρ δ)) β) : Prop where
  host : J r.world.io.host
  quiet : ∀ on, .monitor on ∉ r.signals

structure WriteReply.Tame {ρ : Type} (J : δ → Prop) (r : WriteReply (Bus (Io ρ δ))) : Prop where
  host : J r.world.io.host
  quiet : ∀ on, .signal (.monitor on) ∉ r.effects

variable {J : δ → Prop} [Unwatched J]

lemma tame_consoleRead {h : δ} (hJ : J h) (addr : BitVec 64) : J (consoleRead addr h).2 := by
  unfold consoleRead
  split
  · exact Unwatched.getchar h hJ
  · exact hJ

lemma tame_consoleWrite {h : δ} (hJ : J h) (addr : BitVec 64) (val : U8) :
    J (consoleWrite addr val h).world ∧
      ∀ on, .signal (.monitor on) ∉ (consoleWrite addr val h).effects := by
  unfold consoleWrite
  split
  · exact ⟨Unwatched.put _ _ h hJ, fun _ => List.not_mem_nil⟩
  · split
    · exact ⟨hJ, fun on hm => by simp at hm⟩
    · exact ⟨hJ, fun _ => List.not_mem_nil⟩

lemma tame_serialRead {h : δ} (hJ : J h) (p : SerialPort) (f : Stream) (addr : BitVec 64) :
    J (p.read f addr h).2.2 := by
  rw [SerialPort.read_eq]
  have hs := Unwatched.select f h hJ
  split
  · split
    · exact hs
    · exact Unwatched.read f _ hs
  · split
    · exact hs
    · exact hs

lemma tame_serialWrite {h : δ} (hJ : J h) (p : SerialPort) (f : Stream) (addr : BitVec 64)
    (val : U8) : J (p.write f addr val h).2 := by
  unfold SerialPort.write
  split
  · exact Unwatched.put f val h hJ
  · split
    · exact hJ
    · exact hJ

lemma Simple.tame_read {b : Bus (Io Simple δ)} (hJ : J b.io.host) (dev : Nat) (phy : BitVec 64) :
    (Devices.read b dev phy).Tame J where
  host := tame_consoleRead hJ phy
  quiet _ := List.not_mem_nil

lemma Eon.tame_read {b : Bus (Io Eon δ)} (hJ : J b.io.host) (dev : Nat) (phy : BitVec 64) :
    (Devices.read b dev phy).Tame J := by
  simp only [Devices.read]
  split
  · exact ⟨hJ, fun _ => List.not_mem_nil⟩
  · exact ⟨tame_consoleRead hJ phy, fun _ => List.not_mem_nil⟩
  · exact ⟨hJ, fun _ => List.not_mem_nil⟩

omit [Unwatched J] [Host δ] in
lemma Eon2.quiet_noBacking (on : Bool) : .monitor on ∉ noBacking := by
  simp [noBacking]

lemma Eon2.tame_read {b : Bus (Io Eon2 δ)} (hJ : J b.io.host) (dev : Nat) (phy : BitVec 64) :
    (Devices.read b dev phy).Tame J := by
  simp only [Devices.read]
  split
  · exact ⟨tame_serialRead hJ _ _ _, fun _ => List.not_mem_nil⟩
  · exact ⟨hJ, fun _ => List.not_mem_nil⟩
  · exact ⟨hJ, fun _ => List.not_mem_nil⟩
  · exact ⟨hJ, fun _ => List.not_mem_nil⟩
  · exact ⟨tame_serialRead hJ _ _ _, fun _ => List.not_mem_nil⟩
  · exact ⟨hJ, quiet_noBacking⟩

lemma WpcAsic.tame_read {b : Bus (Io WpcAsic δ)} (hJ : J b.io.host) (dev : Nat) (phy : BitVec 64) :
    (Devices.read b dev phy).Tame J := by
  simp only [Devices.read]
  split
  · split
    · exact ⟨Unwatched.read _ _ hJ, fun _ => List.not_mem_nil⟩
    · exact ⟨hJ, fun _ => List.not_mem_nil⟩
  · exact ⟨hJ, fun _ => List.not_mem_nil⟩

lemma Simple.tame_write (v : View) {b : Bus (Io Simple δ)} (hJ : J b.io.host) (dev : Nat)
    (phy : BitVec 64) (val : U8) : (Devices.write v b dev phy val).Tame J :=
  ⟨(tame_consoleWrite hJ phy val).1, (tame_consoleWrite hJ phy val).2⟩

lemma Eon.tame_write (v : View) {b : Bus (Io Eon δ)} (hJ : J b.io.host) (dev : Nat)
    (phy : BitVec 64) (val : U8) : (Devices.write v b dev phy val).Tame J := by
  simp only [Devices.write]
  split
  · exact ⟨hJ, fun _ => List.not_mem_nil⟩
  · exact ⟨(tame_consoleWrite hJ phy val).1, (tame_consoleWrite hJ phy val).2⟩
  · exact ⟨hJ, fun _ => List.not_mem_nil⟩

omit [Unwatched J] [Host δ] in
lemma Imux.quiet_write (m : Imux) (addr : BitVec 64) (val : U8) (on : Bool) :
    .signal (.monitor on) ∉ (m.write addr val).2 := by
  simp only [Imux.write, Imux.refresh]
  split
  · split <;> simp
  · split <;> simp

lemma Eon2.tame_write (v : View) {b : Bus (Io Eon2 δ)} (hJ : J b.io.host) (dev : Nat)
    (phy : BitVec 64) (val : U8) : (Devices.write v b dev phy val).Tame J := by
  simp only [Devices.write]
  split
  · exact ⟨tame_serialWrite hJ _ _ _ _, fun _ => List.not_mem_nil⟩
  · exact ⟨hJ, fun _ => List.not_mem_nil⟩
  · exact ⟨hJ, fun _ => List.not_mem_nil⟩
  · exact ⟨hJ, Imux.quiet_write _ _ _⟩
  · exact ⟨tame_serialWrite hJ _ _ _ _, fun _ => List.not_mem_nil⟩
  · exact ⟨hJ, fun on hm => by simp [noBacking] at hm⟩

lemma WpcAsic.tame_write (v : View) {b : Bus (Io WpcAsic δ)} (hJ : J b.io.host) (dev : Nat)
    (phy : BitVec 64) (val : U8) : (Devices.write v b dev phy val).Tame J := by
  simp only [Devices.write]
  generalize Wpc.write ⟨b.io.dev, b.busmaps⟩ v.cycles phy val = w
  split
  · exact ⟨Unwatched.put _ _ _ hJ, fun _ => List.not_mem_nil⟩
  · exact ⟨hJ, fun _ => List.not_mem_nil⟩

lemma Model.tame_read (m : Model) {b : Bus (Io m.Regs δ)} (hJ : J b.io.host) (dev : Nat)
    (phy : BitVec 64) : (Devices.read b dev phy).Tame J := by
  cases m with
  | simple => exact Simple.tame_read hJ dev phy
  | eon => exact Eon.tame_read hJ dev phy
  | eon2 => exact Eon2.tame_read hJ dev phy
  | wpc => exact WpcAsic.tame_read hJ dev phy

lemma Model.tame_write (m : Model) (v : View) {b : Bus (Io m.Regs δ)} (hJ : J b.io.host) (dev : Nat)
    (phy : BitVec 64) (val : U8) : (Devices.write v b dev phy val).Tame J := by
  cases m with
  | simple => exact Simple.tame_write v hJ dev phy val
  | eon => exact Eon.tame_write v hJ dev phy val
  | eon2 => exact Eon2.tame_write v hJ dev phy val
  | wpc => exact WpcAsic.tame_write v hJ dev phy val

namespace Bus

variable {m : Model}

omit [Unwatched J] in
lemma quiet_faults (v : View) (b : Bus (Io m.Regs δ)) (addr : Unsigned) (flag : U8) (type : Fault)
    (on : Bool) : .monitor on ∉ b.faults v addr flag type := by
  have hfault (t : Fault) : .monitor on ∉ b.doFault v addr t := by
    unfold doFault
    split
    · cases m <;> simp [Board.fault, Devices.fault]
    · exact List.not_mem_nil
  unfold faults
  rw [List.mem_append]
  rintro (h | h)
  · split at h
    · exact hfault _ h
    · cases h
  · split at h
    · exact hfault _ h
    · cases h

lemma tame_devRead (v : View) {b : Bus (Io m.Regs δ)} (hJ : J b.io.host) (dev : Nat)
    (phy : BitVec 64) : (b.devRead v dev phy).Tame J := by
  unfold devRead
  cases b.cls dev with
  | null | ram | rom => exact ⟨hJ, fun _ => List.not_mem_nil⟩
  | io => exact m.tame_read hJ dev phy

lemma tame_devWrite (v : View) {b : Bus (Io m.Regs δ)} (hJ : J b.io.host) (dev : Nat)
    (phy : BitVec 64) (val : U8) : (b.devWrite v dev phy val).Tame J := by
  unfold devWrite
  cases b.cls dev with
  | null | ram | rom => exact ⟨hJ, fun _ => List.not_mem_nil⟩
  | io => exact m.tame_write v hJ dev phy val

lemma tame_hooked (v : View) {b : Bus (Io m.Regs δ)} (hJ : J b.io.host) (addr : Unsigned) :
    (b.hooked v addr).Tame J where
  host := (Unwatched.readHook v b.memory b.io.host (b.toAbsolute addr) hJ).1
  quiet on hm := by
    have hs : (b.hooked v addr).signals = [] :=
      (Unwatched.readHook v b.memory b.io.host (b.toAbsolute addr) hJ).2
    rw [hs] at hm
    cases hm

lemma tame_cpuRead8 (v : View) {b : Bus (Io m.Regs δ)} (hJ : J b.io.host) (addr : Unsigned) :
    (b.cpuRead8 v addr).Tame J := by
  have hook := tame_hooked v hJ addr
  have read := tame_devRead v hook.host (b.device addr) (b.phyAddr addr)
  refine ⟨read.host, fun on hm => ?_⟩
  simp only [cpuRead8, List.mem_append] at hm
  obtain (hm | hm) | hm := hm
  · exact quiet_faults v b addr _ _ on hm
  · exact hook.quiet on hm
  · exact read.quiet on hm

lemma tame_cpuRead16 (v : View) {b : Bus (Io m.Regs δ)} (hJ : J b.io.host) (addr : Unsigned) :
    (b.cpuRead16 v addr).Tame J := by
  have hook := tame_hooked v hJ addr
  have hi := tame_devRead v hook.host (b.device addr) (b.phyAddr addr)
  have lo := tame_devRead v hi.host (b.device addr) (b.phyAddr addr + 1)
  refine ⟨lo.host, fun on hm => ?_⟩
  simp only [cpuRead16, List.mem_append] at hm
  obtain ((hm | hm) | hm) | hm := hm
  · exact quiet_faults v b addr _ _ on hm
  · exact hook.quiet on hm
  · exact hi.quiet on hm
  · exact lo.quiet on hm

lemma tame_cpuWrite8 (v : View) {b : Bus (Io m.Regs δ)} (hJ : J b.io.host) (addr : Unsigned)
    (val : U8) : (b.cpuWrite8 v addr val).Tame J := by
  have write := tame_devWrite v hJ (b.device addr) (b.phyAddr addr) val
  have hook := Unwatched.writeHook v
    (b.devWrite v (b.device addr) (b.phyAddr addr) val).world.memory _ (b.toAbsolute addr) val
    write.host
  refine ⟨hook.1, fun on hm => ?_⟩
  have hs : (Board.writeHook v (b.devWrite v (b.device addr) (b.phyAddr addr) val).world
      (b.toAbsolute addr) val).signals = [] := hook.2
  simp only [cpuWrite8, hs, List.map_nil, List.append_nil, List.mem_append, List.mem_map] at hm
  obtain ⟨x, hx, he⟩ | hm := hm
  · cases he
    exact quiet_faults v b addr _ _ on hx
  · exact write.quiet on hm

/-- **Without debugging and breakpoints nothing sets `monitor_on`**, on every board. -/
instance : Unattended fun b : Bus (Io m.Regs δ) => J b.io.host where
  read8 v _ a hJ := (tame_cpuRead8 v hJ a).host
  read16 v _ a hJ := (tame_cpuRead16 v hJ a).host
  write8 v _ a d hJ := (tame_cpuWrite8 v hJ a d).host
  insnHook v b hJ := (Unwatched.insnHook v b.memory b.io.host hJ).1
  cpuIsRunning _ hJ := hJ
  debugEnabled := Unwatched.debugEnabled J
  quiet8 v _ a on hJ := (tame_cpuRead8 v hJ a).quiet on
  quiet16 v _ a on hJ := (tame_cpuRead16 v hJ a).quiet on
  quietWrite v _ a d on hJ := (tame_cpuWrite8 v hJ a d).quiet on
  quietHook v b on hJ hm := by
    have hs : (Machine.insnHook v b).signals = [] :=
      (Unwatched.insnHook v b.memory b.io.host hJ).2
    rw [hs] at hm
    cases hm

end Bus

end Machines

end Exec09
