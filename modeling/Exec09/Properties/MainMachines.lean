import Exec09.Main.Machines
import Exec09.Properties.MainLoop
import Exec09.Properties.Oscillator
import Exec09.Properties.PlainMemory

/-!
# The loop of `main` on the machines

What the machines do between slices takes no time and does not enter the monitor
(`Model.benign`), so on each of them the loop ends rogue programs and requests interrupts at an even
pace.  On the EON2 it also drives the oscillator (`mainFor_pulses`): none of its pulses is lost.
-/

namespace Exec09

open Program

variable {δ : Type} [Host δ]

/-! ## Between slices -/

/-- What asks for something but the monitor takes no time. -/
lemma Benign.effects {σ : Type} [Machine σ] {I : σ → Prop} [Unattended I] (n : Nat)
    {l : List Effect} (hl : ∀ x ∈ l, x.heard = true) :
    Benign I (l.forM (effectWith (writeN n)) : M σ Unit) := by
  have hsame (k : Nat) : SameEffects (SameOff I k) l l :=
    ⟨rfl, fun _ h => (Bool.false_ne_true (hl _ h)).elim, fun _ h => (Bool.false_ne_true (hl _ h)).elim⟩
  exact .ofFree (Steps.forM fun x _ => free_effectWith (free_writeN n) x) fun k =>
    follows_itself.mp (follows_effects (follows_writeN n) (hsame k))

omit [Host δ] in
/-- The multiplexer works the lines of the CPU. -/
lemma Imux.refresh_heard (m : Imux) : ∀ x ∈ m.refresh, x.heard = true := by
  unfold Imux.refresh
  split
  · split <;> simp [Effect.heard]
  · split <;> simp [Effect.heard]

section Benign

variable {J : δ → Prop} [Unwatched J]

instance : Unattended fun b : Bus (Io Eon2 δ) => J b.io.host :=
  inferInstanceAs (Unattended fun b : Bus (Io (Model.Regs .eon2) δ) => J b.io.host)

lemma MuxOp.benign_run (n : Nat) (x : MuxOp) :
    Benign (fun b : Bus (Io Eon2 δ) => J b.io.host) (x.run n : M (Bus (Io Eon2 δ)) Unit) := by
  have hset : Benign (fun b : Bus (Io Eon2 δ) => J b.io.host)
      (modify fun s => s.setMux (x.apply s.mux) : M (Bus (Io Eon2 δ)) Unit) :=
    .ofFree (free_modify fun _ => rfl) fun _ => Triple.modify fun s hs =>
      ⟨hs.monitorOn, hs.simErrors, hs.world⟩
  exact hset.bind fun _ => (Benign.reads _).bind fun m => .effects n m.refresh_heard

lemma Oscillator.benign_update (osc : Oscillator) :
    Benign (fun b : Bus (Io Eon2 δ) => J b.io.host) osc.update := by
  have call (x : TimerCall) : Benign (fun b : Bus (Io Eon2 δ) => J b.io.host) x.run := by
    cases x with
    | imuxAssert dev line => exact MuxOp.benign_run _ _
    | simError => exact .ofFree free_simError fun _ => off_simError
  have calls (l : List TimerCall) :
      Benign (fun b : Bus (Io Eon2 δ) => J b.io.host) (l.forM TimerCall.run) :=
    fun n T => Triple.forM fun x => call x n T
  exact (Benign.reads _).bind fun _ => (calls _).bind fun _ => .pure _

lemma tame_pollKey {h : δ} (hJ : J h) : J (pollKey h).2 := by
  have hs := Unwatched.select .terminal h hJ
  unfold pollKey
  dsimp only
  split
  · exact Unwatched.read .terminal _ hs
  · exact hs

/-- **What the machines do between slices** takes no time and does not enter the monitor. -/
lemma Model.benign (m : Model) (monitor6809 : M (Bus (Io m.Regs δ)) Bool)
    (quitting : Bus (Io m.Regs δ) → Bool) :
    (m.mainCalls monitor6809 quitting).Benign fun b => J b.io.host where
  machineUpdate osc := by
    cases m with
    | simple | eon | wpc => exact .pure _
    | eon2 => exact osc.benign_update
  periodic := by
    cases m with
    | simple | eon | eon2 => exact .pure _
    | wpc =>
        exact .ofFree (free_modify fun _ => rfl) fun _ => Triple.modify fun s hs =>
          ⟨hs.monitorOn, hs.simErrors, tame_pollKey hs.world⟩

end Benign

/-! ## Rogue programs -/

/-- **A rogue program is ended.**  With debugging off, no breakpoints and a limit on the cycles, the
process ends on every machine within as many iterations as slices fit into the limit, and one
more. -/
theorem Model.mainFor_ends (m : Model) {J : δ → Prop} [Unwatched J]
    (monitor6809 : M (Bus (Io m.Regs δ)) Bool) (quitting : Bus (Io m.Regs δ) → Bool) {o : Settings}
    {fuel : Nat} (hfuel : 1 ≤ fuel) (hslice : o.slice ≤ 2 * fuel) (hb : Budget o.slice)
    (hmax : 0 < o.maxCycles) (hroom : o.maxCycles.toNat + max 20 (o.slice + 19) < 2 ^ 64) {n : Nat}
    {s : Cpu (Bus (Io m.Regs δ))} (hs : Off (fun b => J b.io.host) n s)
    (htotal : s.total ≤ o.maxCycles) (v : Statics Oscillator) (times : List Int)
    (hlong : (o.maxCycles.toNat : Int) < s.total.toNat + times.length * max 2 o.slice) :
    ∃ e, mainFor (m.mainCalls monitor6809 quitting) o fuel times v s = .error e :=
  mainFor_rogue (m.benign monitor6809 quitting) hfuel hslice hb hmax hroom hs htotal v times hlong

/-- The simple machine running a branch to itself, with an idle debugger. -/
def spinning : Cpu (Bus (Io (Model.Regs .simple) (DebugHost Bare))) :=
  { watched with
    world :=
      { watched.world with
        io := { watched.world.io with
          host := { watched.world.io.host with debugger := Debugger.init } } } }

/-- No debugger ever runs, and nobody quits. -/
def spinningCalls : MainCalls (Bus (Io (Model.Regs .simple) (DebugHost Bare))) Oscillator :=
  Model.mainCalls .simple (pure false) fun _ => false

/-- Before the first iteration; on this machine the oscillator does nothing. -/
def spinningStatics : Statics Oscillator :=
  Statics.initial (Oscillator.attached ⟨0, 0, 0, 0, 0, none, 0⟩)

instance : Unwatched (NoBreakpoints : DebugHost Bare → Prop) := unwatched_debugHost rfl

lemma off_spinning :
    Off (fun b : Bus (Io (Model.Regs .simple) (DebugHost Bare)) => NoBreakpoints b.io.host) 0
      spinning := ⟨rfl, rfl, rfl⟩

/-- It is ended after at most eleven slices. -/
theorem mainFor_ends_spinning :
    ∃ e, mainFor spinningCalls { Settings.initial with maxCycles := 10000 } 512
      (List.replicate 11 0) spinningStatics spinning = .error e := by
  have hslice : ({ Settings.initial with maxCycles := 10000 } : Settings).slice = 1024 := by decide
  refine Model.mainFor_ends .simple _ _ (by decide) ?_ ?_ (by decide) ?_ off_spinning (by decide)
    _ _ ?_
  · rw [hslice]
    decide
  · rw [hslice]
    decide
  · rw [hslice]
    decide
  · rw [hslice]
    decide

/-! ## Interrupts by the clock -/

section Unasking

lemma consoleWrite_unasking (addr : BitVec 64) (val : U8) (h : δ) {x : Effect}
    (hx : x ∈ (consoleWrite addr val h).effects) : ∃ e, x = .signal e := by
  unfold consoleWrite at hx
  split at hx
  · cases hx
  · split at hx
    · exact ⟨_, List.mem_singleton.mp hx⟩
    · cases hx

lemma Eon.write_unasking (v : View) (b : Bus (Io Eon δ)) (dev : Nat) (phy : BitVec 64) (val : U8)
    {x : Effect} (hx : x ∈ (Devices.write v b dev phy val).effects) : ∃ e, x = .signal e := by
  simp only [Devices.write] at hx
  split at hx
  · cases hx
  · exact consoleWrite_unasking phy val b.io.host hx
  · cases hx

lemma WpcAsic.write_unasking (v : View) (b : Bus (Io WpcAsic δ)) (dev : Nat) (phy : BitVec 64)
    (val : U8) {x : Effect} (hx : x ∈ (Devices.write v b dev phy val).effects) :
    ∃ e, x = .signal e := by
  simp only [Devices.write] at hx
  split at hx
  · cases hx
  · cases hx

/-- Only the multiplexer of the EON2 asks for interrupts. -/
lemma Model.write_unasking (m : Model) (hm : m ≠ .eon2) (v : View) (b : Bus (Io m.Regs δ))
    (dev : Nat) (phy : BitVec 64) (val : U8) {x : Effect}
    (hx : x ∈ (Devices.write v b dev phy val).effects) : ∃ e, x = .signal e := by
  cases m with
  | simple => exact consoleWrite_unasking phy val b.io.host hx
  | eon => exact Eon.write_unasking v b dev phy val hx
  | eon2 => exact absurd rfl hm
  | wpc => exact WpcAsic.write_unasking v b dev phy val hx

lemma Model.devWrite_unasking (m : Model) (hm : m ≠ .eon2) (v : View) (b : Bus (Io m.Regs δ))
    (dev : Nat) (phy : BitVec 64) (val : U8) {x : Effect}
    (hx : x ∈ (b.devWrite v dev phy val).effects) : ∃ e, x = .signal e := by
  unfold Bus.devWrite at hx
  cases hcls : b.cls dev with
  | null | ram | rom =>
      rw [hcls] at hx
      cases hx
  | io =>
      rw [hcls] at hx
      exact m.write_unasking hm v b dev phy val hx

lemma Model.unasking (m : Model) (hm : m ≠ .eon2) : Unasking (Bus (Io m.Regs δ)) where
  write8 v b a d x hx source := by
    have hsignal : ∃ e, x = .signal e := by
      simp only [Machine.write8, Bus.cpuWrite8, List.mem_append, List.mem_map] at hx
      obtain (⟨e, -, he⟩ | hx) | ⟨e, -, he⟩ := hx
      · exact ⟨e, he.symm⟩
      · exact m.devWrite_unasking hm v b _ _ _ hx
      · exact ⟨e, he.symm⟩
    obtain ⟨e, rfl⟩ := hsignal
    exact ⟨fun h => Effect.noConfusion h, fun h => Effect.noConfusion h⟩

end Unasking

namespace Oscillator

/-- The oscillator after `S` cycles: its count follows, and it knows the time. -/
structure Timely (osc : Oscillator) (T : BitVec 64) (S : Nat) : Prop where
  counting : osc.timer.Counting S
  reload : osc.timer.reload = 2048
  time : osc.timer.prevCycles = T

omit [Host δ] in
lemma timely_attached (block : Hwtimer) : (attached block).Timely 0 0 where
  counting := by
    change ((Hwtimer.oscillatorCreate block (some 7) 0).oscillatorReset 0).Counting 0
    refine Hwtimer.oscillatorReset_counting 0 ?_ ?_
    · exact (by decide : (0 : Unsigned) < 2048)
    · exact (by decide : (2048 : Unsigned).toNat < 2 ^ 31)
  reload := Hwtimer.oscillatorReset_reload _ _
  time := by
    simp [attached, Hwtimer.oscillatorReset, Hwtimer.oscillatorCreate, Hwtimer.reset]

omit [Host δ] in
lemma interrupt_attached (block : Hwtimer) :
    (attached block).timer.interrupt = [.imuxAssert 7 0] := by
  simp [attached, Hwtimer.oscillatorReset, Hwtimer.oscillatorCreate, Hwtimer.reset,
    Hwtimer.interrupt]

omit [Host δ] in
/-- After a slice of `k` cycles. -/
lemma Timely.update {osc : Oscillator} {T : BitVec 64} {S : Nat} (h : osc.Timely T S) {k : Int}
    (hlow : 0 < k) (hhigh : k < 2048) :
    ∃ j, (osc.timer.update (T + BitVec.ofInt 64 k)).2 =
        (List.replicate j osc.timer.interrupt).flatten ∧
      (osc.timer.update (T + BitVec.ofInt 64 k)).1.interrupt = osc.timer.interrupt ∧
      (∀ l, (⟨(osc.timer.update (T + BitVec.ofInt 64 k)).1, l⟩ : Oscillator).Timely
        (T + BitVec.ofInt 64 k) (S + (BitVec.ofInt 32 k).toNat)) ∧
      S / 2048 + j = (S + (BitVec.ofInt 32 k).toNat) / 2048 + Hwtimer.extra 2048 S := by
  have hdiff : ((T + BitVec.ofInt 64 k - osc.timer.prevCycles).setWidth 32 : Unsigned) =
      BitVec.ofInt 32 k := by
    rw [h.time, BitVec.add_comm, BitVec.add_sub_cancel]
    apply BitVec.eq_of_toNat_eq
    simp only [BitVec.toNat_setWidth, BitVec.toNat_ofInt]
    omega
  have hnat : (BitVec.ofInt 32 k).toNat = k.toNat := by
    rw [BitVec.toNat_ofInt]
    omega
  have hsmall : 0 < BitVec.ofInt 32 k ∧ BitVec.ofInt 32 k < osc.timer.reload := by
    rw [h.reload]
    constructor
    · rw [BitVec.lt_def, hnat]
      simpa using hlow
    · rw [BitVec.lt_def, hnat]
      change k.toNat < 2048
      omega
  obtain ⟨n, j, hd, hc, hj⟩ := h.counting.decrement hsmall
  have hupdate : osc.timer.update (T + BitVec.ofInt 64 k) =
      ({ osc.timer with count := n, prevCycles := T + BitVec.ofInt 64 k },
        (List.replicate j osc.timer.interrupt).flatten) := by
    rw [Hwtimer.update, hdiff, hd]
  have hreload : osc.timer.reload.toNat = 2048 := by
    rw [h.reload]
    rfl
  rw [hreload] at hj
  refine ⟨j, by rw [hupdate], by rw [hupdate]; rfl, fun l => ?_, hj⟩
  rw [hupdate]
  exact ⟨⟨hc.positive, hc.fits, hc.count⟩, h.reload, rfl⟩

end Oscillator

/-- What an iteration does to the devices when there are no interrupts by the clock. -/
lemma afterSlice_devices {σ D : Type} [Machine σ] {c : MainCalls σ D} {o : Settings}
    (ho : o.interrupting = false) {realMs : Int} {v v' : Statics D} {s t : Cpu σ}
    (h : afterSlice c o realMs v s = .ok (v', t)) :
    ∃ u, c.machineUpdate v.devices s = .ok (v'.devices, u) := by
  obtain ⟨w, u, hu, h⟩ := bind_eq_ok.mp h
  obtain ⟨i, x, hx, h⟩ := bind_eq_ok.mp h
  obtain ⟨_, y, hy, h⟩ := bind_eq_ok.mp h
  cases h
  rw [clockOrDevices, if_neg (by simp [ho])] at hu
  obtain ⟨d, z, hz, hu⟩ := bind_eq_ok.mp hu
  cases hu
  exact ⟨u, hz⟩

/-- What the oscillator is after an update. -/
lemma Oscillator.update_eq_ok {osc osc' : Oscillator} {s t : Eon2Cpu δ} {T : BitVec 64}
    (hT : s.getCycles = T) (h : osc.update s = .ok (osc', t)) :
    osc' = ⟨(osc.timer.update T).1, osc.calls ++ (osc.timer.update T).2⟩ := by
  subst hT
  obtain ⟨cycles, u, hu, h⟩ := bind_eq_ok.mp h
  cases hu
  obtain ⟨_, x, -, h⟩ := bind_eq_ok.mp h
  cases h
  rfl

section Pulses

variable {J : δ → Prop} [Unwatched J] {monitor6809 : M (Bus (Io (Model.Regs .eon2) δ)) Bool}
  {quitting : Bus (Io (Model.Regs .eon2) δ) → Bool} {o : Settings}
  (ho : o.interrupting = false) {fuel : Nat} (hfuel : 512 ≤ fuel)
include ho hfuel

/-- The costs of the slices, and the pulses so far. -/
lemma mainFor_timely {n : Nat} {s t : Cpu (Bus (Io (Model.Regs .eon2) δ))}
    (hs : Off (fun b => J b.io.host) n s) {v v' : Statics Oscillator} {times : List Int}
    (hv : v.devices.Timely s.total s.total.toNat)
    (hroom : s.total.toNat + times.length * 1043 < 2 ^ 64)
    (h : mainFor (Model.mainCalls .eon2 monitor6809 quitting) o fuel times v s = .ok (some v', t)) :
    ∃ (costs : List Unsigned) (k : Nat), costs.length = times.length ∧
      (∀ c ∈ costs, 1024 ≤ c.toNat ∧ c.toNat ≤ 1043) ∧
      t.total.toNat = s.total.toNat + Hwtimer.total costs ∧
      v'.devices.calls =
        v.devices.calls ++ (List.replicate k v.devices.timer.interrupt).flatten ∧
      s.total.toNat / 2048 + k =
        t.total.toNat / 2048 + Hwtimer.extras 2048 s.total.toNat costs := by
  have hslice : o.slice = 1024 := by
    rw [Settings.slice, ho]
    rfl
  induction times generalizing s v with
  | nil =>
      cases h
      exact ⟨[], 0, rfl, by simp, by simp, by simp, by simp [Hwtimer.extras]⟩
  | cons realMs times ih =>
      obtain ⟨e, he⟩ | ⟨ks, m, v₁, t₁, -, hlow, hhigh, hm, ha, ht₁, hbetween, -⟩ :=
        mainIteration_spec (Model.benign .eon2 monitor6809 quitting) (o := o) (by omega : 1 ≤ fuel)
          (by omega) (by rw [hslice]; decide) realMs v hs
      · rw [mainFor, error_bind he] at h
        cases h
      rw [mainFor_next ht₁] at h
      split at h
      · cases h
      rw [hslice] at hlow hhigh
      have hlow' : 1024 ≤ ks.sum := by simpa using hlow
      have hhigh' : ks.sum ≤ 1043 := by simpa using hhigh
      have hlen : ((realMs :: times).length : Int) = times.length + 1 := by simp
      have hsum := toNat_add_ofInt (T := s.total) (k := ks.sum) (by omega) (by omega)
      have hcost : (BitVec.ofInt 32 ks.sum).toNat = ks.sum.toNat := by
        rw [BitVec.toNat_ofInt]
        omega
      obtain ⟨u, hu⟩ := afterSlice_devices ho ha
      have hcycles : m.settled.getCycles = s.total + BitVec.ofInt 64 ks.sum :=
        (Cpu.getCycles_idle hm.idle).trans hm.total
      have hdev := Oscillator.update_eq_ok hcycles hu
      obtain ⟨j, hcalls, hint, htimely, hj⟩ := hv.update (k := ks.sum) (by omega) (by omega)
      have hS : s.total.toNat + (BitVec.ofInt 32 ks.sum).toNat = t₁.total.toNat := by
        rw [hbetween.total, hcost]
        omega
      have hv₁ : v₁.devices.Timely t₁.total t₁.total.toNat := by
        rw [hdev, ← hS, hbetween.total]
        exact htimely _
      obtain ⟨costs, k, hl, hb, htotal, hk, hpulses⟩ := ih hbetween.off hv₁ (by omega) h
      refine ⟨BitVec.ofInt 32 ks.sum :: costs, j + k, by simp [hl], ?_, ?_, ?_, ?_⟩
      · intro c hc
        obtain rfl | hc := List.mem_cons.mp hc
        · omega
        · exact hb c hc
      · rw [Hwtimer.total_cons]
        omega
      · rw [hk, hdev, hint, hcalls, List.replicate_add, List.flatten_append, List.append_assoc]
      · rw [Hwtimer.extras, hS]
        omega

end Pulses

/-- The EON2 running a branch to itself, with `clk` cycles left of a slice. -/
def turning (period clk : Int) : Cpu (Bus (Io (Model.Regs .eon2) Bare)) :=
  { Cpu.zeroed (eon2Bus [0x20, 0xfe]) with cpuPeriod := period, cpuClk := clk }

def turningCalls : MainCalls (Bus (Io (Model.Regs .eon2) Bare)) Oscillator :=
  Model.mainCalls .eon2 (pure false) fun _ => false

/-- What it takes for a byte of the program to be read. -/
lemma turning_plain {a : Unsigned} {b : U8}
    (h : (eon2Bus [0x20, 0xfe]).cls ((eon2Bus [0x20, 0xfe]).device a) ≠ .io ∧
      (eon2Bus [0x20, 0xfe]).noResponse ((eon2Bus [0x20, 0xfe]).findMap a).devid = false ∧
      ((eon2Bus [0x20, 0xfe]).findMap a).flags &&& MAP_READABLE ≠ 0 ∧
      (eon2Bus [0x20, 0xfe]).byteOf ((eon2Bus [0x20, 0xfe]).device a)
        ((eon2Bus [0x20, 0xfe]).phyAddr a) = b) :
    Plain (eon2Bus [0x20, 0xfe]) a b := by
  obtain ⟨hm, ha, hf, hb⟩ := h
  intro v
  change (eon2Bus [0x20, 0xfe]).cpuRead8 v a = _
  rw [Bus.cpuRead8_memory v hm, Bus.faults_eq_nil ha hf, hb]
  rfl

lemma turning_insn (p clk : Int) : cpuInsn (turning p clk) = .ok ((), turning p (clk - 3)) := by
  have hop : Plain (eon2Bus [0x20, 0xfe]) 0 0x20 := turning_plain (by decide +kernel)
  have hoff : Plain (eon2Bus [0x20, 0xfe]) 1 0xfe := turning_plain (by decide +kernel)
  have hbyte : immByte (turning p clk) = .ok (0x20, { turning p clk with PC := 1 }) :=
    immByte_plain (s := turning p clk) hop
  have hlookup : insns0.lookup 0x20 = some (.insn .bra) := by decide +kernel
  have hdecode : decode (turning p clk) = .ok (.bra, { turning p clk with PC := 1 }) := by
    rw [decode, ok_bind hbyte, hlookup]
    rfl
  have hoffset : immByte { turning p clk with PC := 1 } =
      .ok (0xfe, { turning p clk with PC := 2 }) :=
    immByte_plain (s := { turning p clk with PC := 1 }) hoff
  have htarget : (2 : Unsigned) + int8 0xfe = 0 := by decide
  have hbra : bra { turning p clk with PC := 1 } = .ok ((), turning p clk) := by
    rw [bra, ok_bind hoffset, skip, modify_apply, htarget]
    rfl
  have hexec : Insn.exec .bra { turning p clk with PC := 1 } = .ok ((), turning p (clk - 3)) :=
    ok_bind hbra
  have hipc : (modify fun s => { s with iPC := s.PC } : M (Bus (Io (Model.Regs .eon2) Bare)) PUnit)
      (turning p clk) = .ok (⟨⟩, turning p clk) := rfl
  rw [cpuInsn_eq, ok_bind hipc, ok_bind hdecode, ok_bind hexec]
  rfl

lemma turning_iterates (p clk : Int) : Iterates (turning p clk) 3 (turning p (clk - 3)) := by
  refine ⟨turning p clk, rfl, rfl, turning_insn p clk, rfl, ?_⟩
  change 3 = clk - (clk - 3)
  omega

lemma turning_runs (p clk : Int) (n : Nat) :
    Runs (turning p clk) (List.replicate n 3) (turning p (clk - 3 * n)) := by
  induction n generalizing clk with
  | zero => simpa using Runs.nil (turning p clk)
  | succ n ih =>
      have h := Runs.cons (turning_iterates p clk) (ih (clk - 3))
      have he : clk - 3 - 3 * (n : Int) = clk - 3 * ((n + 1 : Nat) : Int) := by omega
      rw [he] at h
      exact h

instance : Unwatched (fun _ : Bare => True) where
  debugEnabled := rfl
  readHook _ _ _ _ _ := ⟨trivial, rfl⟩
  writeHook _ _ _ _ _ _ := ⟨trivial, rfl⟩
  insnHook _ _ _ _ := ⟨trivial, rfl⟩
  getchar _ _ := trivial
  put _ _ _ _ := trivial
  select _ _ _ := trivial
  read _ _ _ := trivial

/-- A slice of 1026 cycles. -/
lemma turning_slice : mainSlice (pure false) 512 1024 (turning 0 0) =
    .ok (some (), { (turning 1024 (-2)).exited with total := 1026 }) := by
  have hr : Runs ((turning 0 0).grant 1024) (List.replicate 341 3) (turning 1024 1) :=
    turning_runs 1024 1024 341
  have hu : Unspent ((turning 0 0).grant 1024).cpuClk (List.replicate 341 (3 : Int)) := by
    right
    rw [List.sum_replicate]
    decide
  have hloop : cpuLoop (pure false) 512 ((turning 0 0).grant 1024) =
      .ok (some (), turning 1024 (-2)) := by
    have h := cpuLoop_of_runs (pure false) hr hu 171
    rw [List.length_replicate] at h
    rw [h]
    exact cpuLoop_last (pure false) (turning_iterates 1024 1) (by decide) 170
  rw [mainSlice_of_execute (pure false) (cpuExecute_of_loop (pure false) hloop)]
  rfl

end Exec09
