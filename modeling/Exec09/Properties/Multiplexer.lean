import Exec09.Properties.Delivery
import Exec09.Properties.Memory
import Exec09.Machine.Eon2
import Mathlib.Logic.Relation

/-!
# The interrupt multiplexer

Three latches take part when a device of the EON2 interrupts: the lines pending and the lines
enabled in the multiplexer, and the multiplexer's bit in `irqs_pending`.  `imux_refresh` drives the
bit from the other two at the end of every operation on the multiplexer, and `irq` clears it
without telling the multiplexer.

A run is seen here as a sequence of `MuxStep`s, in which an operation on the multiplexer and an
interrupt entry are single steps, whatever their own stack writes reach.
-/

namespace Exec09

open Program

/-- A state of the CPU on an EON2. -/
abbrev Eon2Cpu (δ : Type) := Cpu (Bus (Io Eon2 δ))

/-- Some line is pending and enabled. -/
def Imux.active (m : Imux) : Bool := m.pending &&& m.enabled ≠ 0

/-- The multiplexer of the machine. -/
def Cpu.mux {δ : Type} (s : Eon2Cpu δ) : Imux := s.world.io.dev.imux

/-- The multiplexer's bit in `irqs_pending`. -/
def Cpu.lineSet {σ : Type} (s : Cpu σ) : Bool := s.irqsPending &&& ((1 : Unsigned) <<< (1 : Unsigned)) ≠ 0

/-- Entries of `irq`. -/
def Event.isIrq : Event → Bool
  | .irq _ => true
  | _ => false

section Entered

variable {σ : Type} {s t u : Cpu σ}

/-- From `s` to `t` an IRQ is entered. -/
def Entered (s t : Cpu σ) : Prop := ∃ es, t.hist = es ++ s.hist ∧ ∃ e ∈ es, e.isIrq = true

/-- From `s` to `t` the history is only extended. -/
def Extends (s t : Cpu σ) : Prop := ∃ es, t.hist = es ++ s.hist

lemma Entered.extends (h : Entered s t) : Extends s t := by
  obtain ⟨es, he, -⟩ := h
  exact ⟨es, he⟩

lemma Extends.trans (h : Extends s t) (h' : Extends t u) : Extends s u := by
  obtain ⟨es, he⟩ := h
  obtain ⟨es', he'⟩ := h'
  exact ⟨es' ++ es, by rw [he', he, List.append_assoc]⟩

lemma Entered.trans_right (h : Entered s t) (h' : Extends t u) : Entered s u := by
  obtain ⟨es, he, e, hm, hi⟩ := h
  obtain ⟨es', he'⟩ := h'
  exact ⟨es' ++ es, by rw [he', he, List.append_assoc], e, List.mem_append_right _ hm, hi⟩

lemma Extends.trans_entered (h : Extends s t) (h' : Entered t u) : Entered s u := by
  obtain ⟨es, he⟩ := h
  obtain ⟨es', he', e, hm, hi⟩ := h'
  exact ⟨es' ++ es, by rw [he', he, List.append_assoc], e, List.mem_append_left _ hm, hi⟩

end Entered

variable {δ : Type} [Host δ]

/-! ## What a bus access does to the multiplexer -/

namespace Eon2

/-- A device write either leaves the multiplexer and the CPU's lines alone, or is a write to a
register of the multiplexer. -/
lemma write_mux (v : View) (b : Bus (Io Eon2 δ)) (dev : Nat) (phy : BitVec 64) (val : U8) :
    ((Devices.write v b dev phy val).world.io.dev.imux = b.io.dev.imux ∧
      ∃ l : List Signal, (Devices.write v b dev phy val).effects = l.map .signal) ∨
    ∃ reg, (Devices.write v b dev phy val).world.io.dev.imux = b.io.dev.imux.setReg reg val ∧
      (Devices.write v b dev phy val).effects = (b.io.dev.imux.setReg reg val).refresh := by
  simp only [Devices.write]
  split
  · exact Or.inl ⟨rfl, [], rfl⟩
  · exact Or.inl ⟨rfl, [], rfl⟩
  · exact Or.inl ⟨rfl, [], rfl⟩
  · exact Or.inr ⟨_, rfl, rfl⟩
  · exact Or.inl ⟨rfl, [], rfl⟩
  · exact Or.inl ⟨rfl, noBacking, rfl⟩

lemma cpuWrite8_mux (v : View) (b : Bus (Io Eon2 δ)) (a : Unsigned) (val : U8) :
    ((b.cpuWrite8 v a val).world.io.dev.imux = b.io.dev.imux ∧
      ∃ l : List Signal, (b.cpuWrite8 v a val).effects = l.map .signal) ∨
    ∃ (reg : BitVec 64) (l l' : List Signal),
      (b.cpuWrite8 v a val).world.io.dev.imux = b.io.dev.imux.setReg reg val ∧
      (b.cpuWrite8 v a val).effects =
        l.map .signal ++ ((b.io.dev.imux.setReg reg val).refresh ++ l'.map .signal) := by
  have hdev : ((b.devWrite v (b.device a) (b.phyAddr a) val).world.io.dev.imux = b.io.dev.imux ∧
      ∃ l : List Signal, (b.devWrite v (b.device a) (b.phyAddr a) val).effects = l.map .signal) ∨
      ∃ reg, (b.devWrite v (b.device a) (b.phyAddr a) val).world.io.dev.imux =
          b.io.dev.imux.setReg reg val ∧
        (b.devWrite v (b.device a) (b.phyAddr a) val).effects =
          (b.io.dev.imux.setReg reg val).refresh := by
    unfold Bus.devWrite
    cases b.cls (b.device a) with
    | null => exact Or.inl ⟨rfl, [], rfl⟩
    | ram => exact Or.inl ⟨rfl, [], rfl⟩
    | rom => exact Or.inl ⟨rfl, [], rfl⟩
    | io => exact write_mux v b (b.device a) (b.phyAddr a) val
  rcases hdev with ⟨hm, l, hl⟩ | ⟨reg, hm, hl⟩
  · refine Or.inl ⟨hm, b.faults v a MAP_WRITABLE .notWritable ++ (l ++
      (Board.writeHook v (b.devWrite v (b.device a) (b.phyAddr a) val).world
        (b.toAbsolute a) val).signals), ?_⟩
    simp only [Bus.cpuWrite8, hl, List.map_append, List.append_assoc]
  · refine Or.inr ⟨reg, b.faults v a MAP_WRITABLE .notWritable,
      (Board.writeHook v (b.devWrite v (b.device a) (b.phyAddr a) val).world
        (b.toAbsolute a) val).signals, hm, ?_⟩
    simp only [Bus.cpuWrite8, hl, List.append_assoc]

lemma devRead_mux (v : View) (b : Bus (Io Eon2 δ)) (dev : Nat) (phy : BitVec 64) :
    (b.devRead v dev phy).world.io.dev.imux = b.io.dev.imux := by
  unfold Bus.devRead
  cases b.cls dev with
  | null => rfl
  | ram => rfl
  | rom => rfl
  | io =>
    change (Devices.read b dev phy).world.io.dev.imux = b.io.dev.imux
    simp only [Devices.read]
    split <;> rfl

/-- Interrupt logic and multiplexer; reads leave them alone. -/
def latches (s : Eon2Cpu δ) : Core × Imux := (s.core, s.mux)

instance : Unread (latches : Eon2Cpu δ → Core × Imux) where
  ofCore s t hc hw := by rw [latches, latches, hc, Cpu.mux, Cpu.mux, hw]
  read8 s a := Prod.ext rfl (devRead_mux s.view _ _ _)
  read16 s a := Prod.ext rfl ((devRead_mux s.view _ _ _).trans (devRead_mux s.view _ _ _))

end Eon2

/-! ## Steps -/

/-- The operations on the multiplexer: a device asserts a line, the guest writes a register. -/
inductive MuxOp
  | assert (line : Unsigned)
  | write (reg : BitVec 64) (val : U8)
  deriving DecidableEq, Repr

def MuxOp.apply : MuxOp → Imux → Imux
  | .assert line, m => (m.assert line).1
  | .write reg val, m => m.setReg reg val

lemma MuxOp.apply_src (o : MuxOp) (m : Imux) : (o.apply m).src = m.src := by
  cases o with
  | assert line => rfl
  | write reg val =>
    simp only [apply, Imux.setReg]
    split_ifs <;> rfl

omit [Host δ] in
def Cpu.setMux (m : Imux) (s : Eon2Cpu δ) : Eon2Cpu δ :=
  { s with world := s.world.setDev { s.world.io.dev with imux := m } }

/-- `imux_assert` and `imux_write`: both end with a refresh of the line to the CPU.  There is room
for `n` nested bus writes. -/
def MuxOp.run (n : Nat) (o : MuxOp) : M (Bus (Io Eon2 δ)) Unit := do
  modify fun s => s.setMux (o.apply s.mux)
  (← reads Cpu.mux).refresh.forM (effectWith (writeN n))

/-- Events an operation on the multiplexer leaves, on line 1. -/
def Event.isOp : Event → Bool
  | .requested _ | .releasedIrq => true
  | _ => false

/-- The CPU goes on without operating the multiplexer or entering an IRQ. -/
structure Beside (s t : Eon2Cpu δ) : Prop where
  mux : t.mux = s.mux
  line : t.lineSet = s.lineSet
  hist : ∃ es, t.hist = es ++ s.hist ∧ ∀ e ∈ es, e.isIrq = false ∧ e.isOp = false

/-- A step, with a flag that tells whether an IRQ has been entered since the last operation on the
multiplexer. -/
inductive MuxStep : Eon2Cpu δ × Bool → Eon2Cpu δ × Bool → Prop
  | op (n : Nat) (o : MuxOp) {s t : Eon2Cpu δ} (c c' : Bool) (h : o.run n s = .ok ((), t))
      (hc : c' = true ↔ Entered s t) : MuxStep (s, c) (t, c')
  | irq (n : Nat) {s t : Eon2Cpu δ} (c : Bool) (h : irqWith (writeN n) s = .ok ((), t)) :
      MuxStep (s, c) (t, true)
  | cpu {s t : Eon2Cpu δ} (c : Bool) (h : Beside s t) : MuxStep (s, c) (t, c)

/-- Any interleaving of steps. -/
abbrev MuxRun : Eon2Cpu δ × Bool → Eon2Cpu δ × Bool → Prop := Relation.ReflTransGen MuxStep

/-- The multiplexer's bit is set only while a line is pending and enabled, and while one is, the
bit is set or an IRQ has been entered since the last operation. -/
structure MuxInv (x : Eon2Cpu δ × Bool) : Prop where
  set : x.1.lineSet = true → x.1.mux.active = true
  waits : x.1.mux.active = true → x.1.lineSet = true ∨ x.2 = true

/-! ## The line and the FIRQ -/

/-- The multiplexer stays on its line, and while that is line 1 nobody requests a FIRQ. -/
structure Steady (s t : Eon2Cpu δ) : Prop where
  src : t.mux.src = s.mux.src
  firq : s.mux.src = 1 → s.firqsPending = 0 → t.firqsPending = 0

instance : IsPreorder (Eon2Cpu δ) Steady where
  refl _ := ⟨rfl, fun _ h => h⟩
  trans _ _ _ h h' := ⟨h'.src.trans h.src, fun hs h0 => h'.firq (h.src.trans hs) (h.firq hs h0)⟩

omit [Host δ] in
lemma Steady.keep (s t : Eon2Cpu δ) (h : Eon2.latches t = Eon2.latches s) : Steady s t := by
  have hf : t.firqsPending = s.firqsPending := congrArg (fun x => x.1.lines.firqsPending) h
  exact ⟨congrArg (fun x => x.2.src) h, fun _ h0 => hf.trans h0⟩

section Steady

variable {write : Unsigned → Unsigned → M (Bus (Io Eon2 δ)) Unit}
  (hw : ∀ a d, Steps Steady (write a d))
include hw

lemma steady_irqWith : Steps Steady (irqWith write) :=
  Steps.bind (Steps.modify fun _ => ⟨rfl, fun _ h => h⟩) fun _ =>
  Steps.bind (Steps.modify fun _ => ⟨rfl, fun _ h => h⟩) fun _ =>
  (steps_pushAllWith Steady.keep hw).bind fun _ =>
  Steps.bind (Steps.modify fun _ => ⟨rfl, fun _ h => h⟩) fun _ =>
  ((keeps_read16 _).mono Steady.keep).bind fun _ =>
  Steps.bind (Steps.modify fun _ => ⟨rfl, fun _ h => h⟩) fun _ => Steps.modify fun _ => ⟨rfl, fun _ h => h⟩

lemma steady_firqWith : Steps Steady (firqWith write) :=
  Steps.bind (Steps.modify fun _ => ⟨rfl, fun _ h => h⟩) fun _ =>
  Steps.bind (Steps.modify fun _ => ⟨rfl, fun _ h => h⟩) fun _ =>
  (Steps.reads _).bind fun _ => (steps_pushS16With Steady.keep hw _).bind fun _ =>
  (Steps.reads _).bind fun _ => (steps_pushS8With Steady.keep hw _).bind fun _ =>
  Steps.bind (Steps.modify fun _ => ⟨rfl, fun _ h => h⟩) fun _ =>
  ((keeps_read16 _).mono Steady.keep).bind fun _ =>
  Steps.bind (Steps.modify fun _ => ⟨rfl, fun _ h => h⟩) fun _ => Steps.modify fun _ => ⟨rfl, fun _ _ => rfl⟩

lemma steady_requestIrqWith (source : Unsigned) : Steps Steady (requestIrqWith write source) :=
  Steps.bind (Steps.modify fun _ => ⟨rfl, fun _ h => h⟩) fun _ => (Steps.reads _).bind fun _ =>
  (steady_irqWith hw).whenever.bind fun _ => Steps.modify fun _ => ⟨rfl, fun _ h => h⟩

/-- A FIRQ is requested only by a multiplexer on another line. -/
lemma steady_requestFirqWith {source : Unsigned} {s t : Eon2Cpu δ} (hs : s.mux.src ≠ 1)
    (h : requestFirqWith write source s = .ok ((), t)) : Steady s t := by
  obtain ⟨-, rfl⟩ | ⟨-, s₂, h₂, rfl⟩ := requestFirqWith_eq_ok h
  · exact ⟨rfl, fun h1 => absurd h1 hs⟩
  · exact ⟨(steady_firqWith hw _ _ _ h₂).src, fun h1 => absurd h1 hs⟩

end Steady

/-! ## Operations -/

/-- An operation on the multiplexer changes it and then drives the line: line 1 with requests and
releases of the IRQ, any other with requests and releases of the FIRQ. -/
lemma MuxOp.run_eq_ok {n : Nat} {o : MuxOp} {s t : Eon2Cpu δ} (h : o.run n s = .ok ((), t)) :
    (s.mux.src = 1 ∧ (o.apply s.mux).active = true ∧
      requestIrqWith (writeN n) 1 (s.setMux (o.apply s.mux)) = .ok ((), t)) ∨
    (s.mux.src = 1 ∧ (o.apply s.mux).active = false ∧
      releaseIrq 1 (s.setMux (o.apply s.mux)) = .ok ((), t)) ∨
    (s.mux.src ≠ 1 ∧ ((∃ line,
        requestFirqWith (writeN n) line (s.setMux (o.apply s.mux)) = .ok ((), t)) ∨
      ∃ line, releaseFirq line (s.setMux (o.apply s.mux)) = .ok ((), t))) := by
  obtain ⟨_, s₁, h₁, k₁⟩ := bind_eq_ok.mp h
  obtain ⟨m, s₂, h₂, k₂⟩ := bind_eq_ok.mp k₁
  cases h₁
  cases h₂
  change (o.apply s.mux).refresh.forM (effectWith (writeN n)) _ = _ at k₂
  have hsrc := o.apply_src s.mux
  have one {x : Effect} {u : Eon2Cpu δ}
      (h : List.forM [x] (effectWith (writeN n)) u = .ok ((), t)) :
      effectWith (writeN n) x u = .ok ((), t) := by
    obtain ⟨_, u', hu, hk⟩ := bind_eq_ok.mp h
    cases hk
    exact hu
  by_cases ha : (o.apply s.mux).pending &&& (o.apply s.mux).enabled ≠ 0 <;>
    by_cases h1 : s.mux.src = 1 <;>
    simp only [Imux.refresh, ha, hsrc, h1, ne_eq, not_false_eq_true,
      if_true, if_false] at k₂
  · exact Or.inl ⟨h1, decide_eq_true ha, one k₂⟩
  · exact Or.inr (Or.inr ⟨h1, Or.inl ⟨_, one k₂⟩⟩)
  · exact Or.inr (Or.inl ⟨h1, decide_eq_false ha, one k₂⟩)
  · exact Or.inr (Or.inr ⟨h1, Or.inr ⟨_, one k₂⟩⟩)

omit [Host δ] in
lemma steady_setMux (o : MuxOp) (s : Eon2Cpu δ) : Steady s (s.setMux (o.apply s.mux)) :=
  ⟨o.apply_src s.mux, fun _ h => h⟩

lemma MuxOp.steady_run {n : Nat} (hw : ∀ a d, Steps Steady (writeN n a d : M (Bus (Io Eon2 δ)) Unit))
    (o : MuxOp) : Steps Steady (o.run n : M (Bus (Io Eon2 δ)) Unit) := by
  intro s _ t h
  have hset := steady_setMux o s
  refine IsTrans.trans _ _ _ hset ?_
  obtain ⟨-, -, h⟩ | ⟨-, -, h⟩ | ⟨hs, ⟨_, h⟩ | ⟨_, h⟩⟩ := MuxOp.run_eq_ok h
  · exact steady_requestIrqWith hw 1 _ _ _ h
  · cases h
    exact ⟨rfl, fun _ h => h⟩
  · exact steady_requestFirqWith hw (hset.src.trans_ne hs) h
  · cases h
    exact ⟨rfl, fun h1 => absurd h1 (hset.src.trans_ne hs)⟩

lemma keepsLatches_signals (l : List Signal) (write : Unsigned → Unsigned → M (Bus (Io Eon2 δ)) Unit) :
    Keeps (Eon2.latches : Eon2Cpu δ → _) ((l.map Effect.signal).forM (effectWith write)) := by
  refine Steps.forM fun x hx => ?_
  obtain ⟨e, -, rfl⟩ := List.mem_map.mp hx
  exact keeps_signal e

/-- A bus write leaves the latches alone, or it is an operation on the multiplexer between signals
that leave them alone. -/
lemma writeN_mux {n : Nat} {a d : Unsigned} {s t : Eon2Cpu δ}
    (h : writeN (n + 1) a d s = .ok ((), t)) :
    Eon2.latches t = Eon2.latches s ∨
    ∃ (o : MuxOp) (u v : Eon2Cpu δ), Eon2.latches u = Eon2.latches s ∧ o.run n u = .ok ((), v) ∧
      Eon2.latches t = Eon2.latches v := by
  obtain ⟨r, s₁, h₁, k₁⟩ := bind_eq_ok.mp h
  cases h₁
  change (s.world.cpuWrite8 s.view a (d.setWidth 8)).effects.forM (effectWith (writeN n)) _ = _ at k₁
  obtain ⟨hm, l, hl⟩ | ⟨reg, l, l', hm, hl⟩ := Eon2.cpuWrite8_mux s.view s.world a (d.setWidth 8)
  · rw [hl] at k₁
    have hk := keepsLatches_signals l _ _ _ _ k₁
    exact Or.inl (hk.trans (Prod.ext rfl hm))
  · rw [hl, List.forM_eq_forM, List.forM_append, List.forM_append] at k₁
    obtain ⟨_, s₂, h₂, k₂⟩ := bind_eq_ok.mp k₁
    obtain ⟨_, s₃, h₃, k₃⟩ := bind_eq_ok.mp k₂
    have hs₂ := keepsLatches_signals l _ _ _ _ h₂
    have hs₃ := keepsLatches_signals l' _ _ _ _ k₃
    have hmux : s₂.mux = s.mux.setReg reg (d.setWidth 8) := (congrArg Prod.snd hs₂).trans hm
    -- the multiplexer is written before the signals; they do not look at it
    refine Or.inr ⟨.write reg (d.setWidth 8), s₂.setMux s.mux, s₃, ?_, ?_, hs₃⟩
    · have hcore : s₂.core = s.core := congrArg Prod.fst hs₂
      exact Prod.ext hcore rfl
    · have hback : (s₂.setMux s.mux).setMux (s.mux.setReg reg (d.setWidth 8)) = s₂ := by
        rw [← hmux]
        rfl
      refine bind_eq_ok.mpr ⟨(), s₂, ?_, bind_eq_ok.mpr ⟨s₂.mux, s₂, rfl, ?_⟩⟩
      · change Except.ok ((), _) = _
        exact congrArg (fun x => Except.ok ((), x)) hback
      · rw [hmux]
        exact h₃

lemma steady_writeN (n : Nat) :
    ∀ a d, Steps Steady (writeN n a d : M (Bus (Io Eon2 δ)) Unit) := by
  induction n with
  | zero => exact fun _ _ => Steps.throw _
  | succ n ih =>
    intro a d s _ t h
    obtain hl | ⟨o, u, v, hu, hv, ht⟩ := writeN_mux h
    · exact Steady.keep s t hl
    · have hop := IsTrans.trans _ _ _ (Steady.keep s u hu) (o.steady_run ih _ _ _ hv)
      exact IsTrans.trans _ _ _ hop (Steady.keep v t ht)

/-! ## What one step preserves -/

section Line

variable {σ : Type} [Machine σ]

omit [Machine σ] in
lemma Cpu.lineSet_pendIrq (s : Cpu σ) : (s.pendIrq 1).lineSet = true := by
  refine decide_eq_true fun h0 => ?_
  change (s.irqsPending ||| 1 <<< 1) &&& ((1 : Unsigned) <<< (1 : Unsigned)) = 0 at h0
  rw [BitVec.and_or_distrib_right] at h0
  exact absurd (BitVec.or_eq_zero_iff.mp h0).2 (by decide)

omit [Machine σ] in
lemma Cpu.lineSet_of_none {s : Cpu σ} (h : s.irqsPending = 0) : s.lineSet = false := by
  rw [lineSet, h]
  decide

omit [Machine σ] in
lemma lineSet_releaseIrq {s t : Cpu σ} (h : releaseIrq 1 s = .ok ((), t)) : t.lineSet = false := by
  cases h
  refine decide_eq_false (not_not.mpr ?_)
  change (s.irqsPending &&& ~~~((1 : Unsigned) <<< (1 : Unsigned))) &&&
    ((1 : Unsigned) <<< (1 : Unsigned)) = 0
  rw [BitVec.and_assoc]
  exact (congrArg (s.irqsPending &&& ·) (by decide)).trans BitVec.and_zero

/-- Every entry is recorded. -/
lemma entered_irqWith {n : Nat} {s t : Cpu σ} (h : irqWith (writeN n) s = .ok ((), t)) :
    t.irqsPending = 0 ∧ Entered s t := by
  obtain ⟨-, hp, -, -, es, he, -⟩ := irqWith_spec (calm_writeN n) (ramWrite_writeN n) h
  exact ⟨hp, es ++ [.irq s.snapshot], by simp [he], .irq s.snapshot, by simp, rfl⟩

end Line

lemma MuxOp.calm_run (n : Nat) (o : MuxOp) : Steps Calm (o.run n : M (Bus (Io Eon2 δ)) Unit) :=
  Steps.bind (Steps.modify fun _ => Calm.keep _ _ rfl) fun _ => (Steps.reads _).bind fun _ =>
    Steps.forM fun x _ => calm_effectWith (calm_writeN n) (ramWrite_writeN n) x

lemma MuxOp.extends_run {n : Nat} {o : MuxOp} {s t : Eon2Cpu δ} (h : o.run n s = .ok ((), t)) :
    Extends s t := by
  obtain ⟨es, he, -⟩ := (o.calm_run n _ _ _ h).hist
  exact ⟨es, he⟩

/-- After an operation the bit is set only for a line pending and enabled, and it is set or the
operation itself has entered the IRQ. -/
lemma MuxOp.run_inv {n : Nat} {o : MuxOp} {s t : Eon2Cpu δ} (hs : s.mux.src = 1)
    (h : o.run n s = .ok ((), t)) {c : Bool} (hc : c = true ↔ Entered s t) : MuxInv (t, c) := by
  obtain ⟨-, ha, h⟩ | ⟨-, ha, h⟩ | ⟨h1, -⟩ := MuxOp.run_eq_ok h
  · obtain ⟨-, rfl⟩ | ⟨-, s₂, h₂, rfl⟩ := requestIrqWith_eq_ok h
    · exact ⟨fun _ => ha, fun _ => Or.inl (Cpu.lineSet_pendIrq _)⟩
    · obtain ⟨hp, hin⟩ := entered_irqWith h₂
      have hoff : (s₂.record (.requested s₂.snapshot)).lineSet = false := Cpu.lineSet_of_none hp
      have hrec : Extends s₂ (s₂.record (.requested s₂.snapshot)) := ⟨[_], rfl⟩
      refine ⟨fun hl => absurd (hl.symm.trans hoff) (by decide), fun _ => Or.inr (hc.mpr ?_)⟩
      exact hin.trans_right hrec
  · have hoff := lineSet_releaseIrq h
    cases h
    exact ⟨fun hl => absurd (hl.symm.trans hoff) (by decide),
      fun hl => absurd (hl.symm.trans ha) (by decide)⟩
  · exact absurd hs h1

lemma muxInv_irq {n : Nat} {s t : Eon2Cpu δ} (h : irqWith (writeN n) s = .ok ((), t)) :
    MuxInv (t, true) := by
  have hoff := Cpu.lineSet_of_none (entered_irqWith h).1
  exact ⟨fun hl => absurd (hl.symm.trans hoff) (by decide), fun _ => Or.inr rfl⟩

/-- **One step keeps the multiplexer on its line and the latches coherent.** -/
lemma MuxStep.inv {x y : Eon2Cpu δ × Bool} (h : MuxStep x y) (hs : x.1.mux.src = 1) :
    y.1.mux.src = 1 ∧ (MuxInv x → MuxInv y) := by
  cases h with
  | op n o c c' h hc =>
    exact ⟨((o.steady_run (steady_writeN n) _ _ _ h).src).trans hs,
      fun _ => MuxOp.run_inv hs h hc⟩
  | irq n c h =>
    exact ⟨((steady_irqWith (steady_writeN n) _ _ _ h).src).trans hs, fun _ => muxInv_irq h⟩
  | cpu c h =>
    refine ⟨(congrArg Imux.src h.mux).trans hs, fun hi => ⟨?_, ?_⟩⟩
    · rw [h.line, h.mux]
      exact hi.set
    · rw [h.line, h.mux]
      exact hi.waits

/-- The flag is raised by entries only. -/
lemma MuxStep.flag {x y : Eon2Cpu δ × Bool} (h : MuxStep x y) :
    Extends x.1 y.1 ∧ (y.2 = true → x.2 = true ∨ Entered x.1 y.1) := by
  cases h with
  | op n o c c' h hc => exact ⟨MuxOp.extends_run h, fun hf => Or.inr (hc.mp hf)⟩
  | irq n c h =>
    have hin := (entered_irqWith h).2
    exact ⟨hin.extends, fun _ => Or.inr hin⟩
  | cpu c h =>
    obtain ⟨es, he, -⟩ := h.hist
    exact ⟨⟨es, he⟩, Or.inl⟩

/-! ## Whole runs -/

lemma MuxRun.src {x y : Eon2Cpu δ × Bool} (h : MuxRun x y) (hs : x.1.mux.src = 1) :
    y.1.mux.src = 1 := by
  induction h with
  | refl => exact hs
  | tail _ hstep ih => exact (hstep.inv ih).1

/-- **The latches stay coherent, whatever the interleaving.** -/
lemma MuxRun.inv {x y : Eon2Cpu δ × Bool} (h : MuxRun x y) (hs : x.1.mux.src = 1)
    (hi : MuxInv x) : MuxInv y := by
  induction h with
  | refl => exact hi
  | tail hrun hstep ih => exact (hstep.inv (MuxRun.src hrun hs)).2 ih

lemma MuxRun.flag {x y : Eon2Cpu δ × Bool} (h : MuxRun x y) :
    Extends x.1 y.1 ∧ (y.2 = true → x.2 = true ∨ Entered x.1 y.1) := by
  induction h with
  | refl => exact ⟨⟨[], rfl⟩, Or.inl⟩
  | tail _ hstep ih =>
    obtain ⟨hext, hflag⟩ := hstep.flag
    refine ⟨ih.1.trans hext, fun hy => ?_⟩
    obtain hx | hin := hflag hy
    · exact (ih.2 hx).imp_right fun he => he.trans_right hext
    · exact Or.inr (ih.1.trans_entered hin)

/-- From `s` to `t` the multiplexer is operated. -/
def Operated {σ : Type} (s t : Cpu σ) : Prop :=
  ∃ es, t.hist = es ++ s.hist ∧ ∃ e ∈ es, e.isOp = true

/-- An operation makes the latches coherent, whatever they were before. -/
lemma MuxRun.inv_of_operated {x y : Eon2Cpu δ × Bool} (h : MuxRun x y) (hs : x.1.mux.src = 1)
    (ho : Operated x.1 y.1) : MuxInv y := by
  induction h with
  | refl =>
    obtain ⟨es, he, e, hm, -⟩ := ho
    rw [List.self_eq_append_left.mp he] at hm
    exact absurd hm List.not_mem_nil
  | @tail y z hrun hstep ih =>
    have hy := MuxRun.src hrun hs
    cases hstep with
    | op n o c c' h hc => exact MuxOp.run_inv hy h hc
    | irq n c h => exact muxInv_irq h
    | @cpu u v c h =>
      refine (MuxStep.inv (.cpu c h) hy).2 (ih ?_)
      -- the operation is not among the events of the last step
      obtain ⟨es, he, e, hm, hop⟩ := ho
      obtain ⟨es₁, he₁⟩ := (MuxRun.flag hrun).1
      obtain ⟨es₂, he₂, hno⟩ := h.hist
      have hes : es = es₂ ++ es₁ := by
        have hall : es ++ x.1.hist = es₂ ++ es₁ ++ x.1.hist := by
          rw [List.append_assoc, ← he₁, ← he₂, ← he]
        exact List.append_cancel_right hall
      rw [hes] at hm
      obtain hm | hm := List.mem_append.mp hm
      · exact absurd (hop.symm.trans (hno e hm).2) (by decide)
      · exact ⟨es₁, he₁, e, hm, hop⟩

/-! ## The CPU's own steps -/

/-- From `s` to `t` the machine takes steps, and whether or not an IRQ had been entered before. -/
structure Covers (s t : Eon2Cpu δ) : Prop where
  steady : Steady s t
  run : ∀ c, ∃ c', MuxRun (s, c) (t, c')

instance : IsPreorder (Eon2Cpu δ) Covers where
  refl s := ⟨Std.Refl.refl s, fun c => ⟨c, .refl⟩⟩
  trans s t u h h' := by
    refine ⟨IsTrans.trans _ _ _ h.steady h'.steady, fun c => ?_⟩
    obtain ⟨c₁, h₁⟩ := h.run c
    obtain ⟨c₂, h₂⟩ := h'.run c₁
    exact ⟨c₂, h₁.trans h₂⟩

lemma Covers.beside {s t : Eon2Cpu δ} (hs : Steady s t) (h : Beside s t) : Covers s t :=
  ⟨hs, fun c => ⟨c, .single (.cpu c h)⟩⟩

/-- A step that leaves the pending lines, the multiplexer and the history alone. -/
lemma Covers.silent {s t : Eon2Cpu δ} (hm : t.mux = s.mux) (hp : t.irqsPending = s.irqsPending)
    (hf : t.firqsPending = s.firqsPending) (hh : t.hist = s.hist) : Covers s t :=
  Covers.beside ⟨congrArg Imux.src hm, fun _ h0 => hf.trans h0⟩
    ⟨hm, by rw [Cpu.lineSet, hp, Cpu.lineSet], [], hh, by simp⟩

lemma Covers.keep (s t : Eon2Cpu δ) (h : Eon2.latches t = Eon2.latches s) : Covers s t :=
  Covers.silent (congrArg (fun x => x.2) h) (congrArg (fun x => x.1.lines.irqsPending) h)
    (congrArg (fun x => x.1.lines.firqsPending) h) (congrArg (fun x => x.1.lines.hist) h)

lemma MuxOp.covers_run (n : Nat) (o : MuxOp) : Steps Covers (o.run n : M (Bus (Io Eon2 δ)) Unit) := by
  intro s _ t h
  refine ⟨o.steady_run (steady_writeN n) _ _ _ h, fun c => ?_⟩
  by_cases hin : Entered s t
  · exact ⟨true, .single (.op n o c true h (by simp [hin]))⟩
  · exact ⟨false, .single (.op n o c false h (by simp [hin]))⟩

lemma covers_writeN (n : Nat) :
    ∀ a d, Steps Covers (writeN n a d : M (Bus (Io Eon2 δ)) Unit) := by
  cases n with
  | zero => exact fun _ _ => Steps.throw _
  | succ n =>
    intro a d s _ t h
    obtain hl | ⟨o, u, v, hu, hv, ht⟩ := writeN_mux h
    · exact Covers.keep s t hl
    · have hop := IsTrans.trans _ _ _ (Covers.keep s u hu) (o.covers_run n _ _ _ hv)
      exact IsTrans.trans _ _ _ hop (Covers.keep v t ht)

lemma covers_irqWith (n : Nat) : Steps Covers (irqWith (writeN n) : M (Bus (Io Eon2 δ)) Unit) :=
  fun _ _ _ h => ⟨steady_irqWith (steady_writeN n) _ _ _ h, fun c => ⟨true, .single (.irq n c h)⟩⟩

lemma covers_firqWith (n : Nat) : Steps Covers (firqWith (writeN n) : M (Bus (Io Eon2 δ)) Unit) := by
  have hw := covers_writeN (δ := δ) n
  refine Steps.bind (Steps.modify fun s => ?_) fun _ => ?_
  · exact Covers.beside ⟨rfl, fun _ h => h⟩ ⟨rfl, rfl, [.firq s.snapshot], rfl, by simp [Event.isIrq, Event.isOp]⟩
  refine Steps.bind (Steps.modify fun s => Covers.silent rfl rfl rfl rfl) fun _ => ?_
  refine (Steps.reads _).bind fun _ => (steps_pushS16With Covers.keep hw _).bind fun _ => ?_
  refine (Steps.reads _).bind fun _ => (steps_pushS8With Covers.keep hw _).bind fun _ => ?_
  refine Steps.bind (Steps.modify fun s => Covers.silent rfl rfl rfl rfl) fun _ => ?_
  refine ((keeps_read16 _).mono Covers.keep).bind fun _ => ?_
  refine Steps.bind (Steps.modify fun s => Covers.silent rfl rfl rfl rfl) fun _ => ?_
  exact Steps.modify fun s => Covers.beside ⟨rfl, fun _ _ => rfl⟩ ⟨rfl, rfl, [], rfl, by simp⟩

/-- Before the check that ends it, an instruction is a sequence of steps. -/
lemma covers_cpuBody : Steps Covers (cpuBody : M (Bus (Io Eon2 δ)) Insn) := by
  have write (a d : Unsigned) : Steps Covers (wrmem a d : M (Bus (Io Eon2 δ)) Unit) :=
    covers_writeN _ a d
  intro s i m hb
  obtain ⟨u, hf, hx⟩ := cpuBody_eq_ok hb
  refine IsTrans.trans _ _ _ (Covers.keep s u (keeps_cpuFetch _ _ _ hf)) ?_
  by_cases hc : i.WritesCc = true
  · exact Insn.steps_exec_cc Covers.keep hc (fun _ s v => Covers.silent rfl rfl rfl rfl) hx
  by_cases hs : i.IsSwi = true
  · exact Insn.steps_exec_swi Covers.keep write hs (fun _ _ s => Covers.silent rfl rfl rfl rfl)
      _ _ _ hx
  · exact Insn.steps_exec_plain Covers.keep (fun _ => write) (by simp [Insn.Plain, hc, hs])
      (fun _ _ s => Covers.silent rfl rfl rfl rfl) _ _ _ hx

lemma covers_ccCheck : Steps Covers (ccCheck : M (Bus (Io Eon2 δ)) Unit) := by
  intro m _ t hk
  obtain ⟨-, rfl⟩ | ⟨-, v, hv, rfl⟩ := ccCheck_eq_ok hk
  · exact Std.Refl.refl _
  · have hpoll : Covers m v := by
      obtain ⟨-, hv⟩ | ⟨-, -, hv⟩ | ⟨-, rfl⟩ := pollLines_eq_ok hv
      · exact covers_firqWith _ _ _ _ hv
      · exact covers_irqWith _ _ _ _ hv
      · exact Std.Refl.refl _
    exact IsTrans.trans _ _ _ hpoll (Covers.silent rfl rfl rfl rfl)

/-! ## Interleavings -/

/-- What happens at a boundary: a device asserts a line of the multiplexer, or the CPU executes an
instruction, with the writes of the guest to the multiplexer among its effects. -/
inductive MuxAction
  | assert (line : Unsigned)
  | insn
  deriving DecidableEq, Repr

def MuxAction.run : MuxAction → M (Bus (Io Eon2 δ)) Unit
  | .assert line => (MuxOp.assert line).run (Machine.nesting (Bus (Io Eon2 δ)) + 1)
  | .insn => cpuInsn

def runMux (l : List MuxAction) : M (Bus (Io Eon2 δ)) Unit := l.forM MuxAction.run

/-- **Every interleaving is a sequence of steps.** -/
lemma covers_runMux (l : List MuxAction) : Steps Covers (runMux l : M (Bus (Io Eon2 δ)) Unit) := by
  refine Steps.forM fun a _ => ?_
  cases a with
  | assert line => exact MuxOp.covers_run _ _
  | insn =>
    change Steps Covers cpuInsn
    rw [cpuInsn_eq_body]
    exact covers_cpuBody.bind fun _ => covers_ccCheck

lemma orderly_runMux (l : List MuxAction) : Steps Orderly (runMux l : M (Bus (Io Eon2 δ)) Unit) := by
  refine Steps.forM fun a _ => ?_
  cases a with
  | assert line => exact (MuxOp.calm_run _ _).mono fun _ _ h => h.orderly
  | insn => exact orderly_cpuInsn

/-- Every operation is recorded. -/
lemma MuxOp.operated_run {n : Nat} {o : MuxOp} {s t : Eon2Cpu δ} (hs : s.mux.src = 1)
    (h : o.run n s = .ok ((), t)) : Operated s t := by
  obtain ⟨-, -, h⟩ | ⟨-, -, h⟩ | ⟨h1, -⟩ := MuxOp.run_eq_ok h
  · obtain ⟨-, rfl⟩ | ⟨-, s₂, h₂, rfl⟩ := requestIrqWith_eq_ok h
    · exact ⟨[_], rfl, _, List.mem_singleton_self _, rfl⟩
    · obtain ⟨es, he, -⟩ := (entered_irqWith h₂).2
      exact ⟨.requested s₂.snapshot :: es, congrArg (_ :: ·) he, _, List.mem_cons_self, rfl⟩
  · cases h
    exact ⟨[_], rfl, _, List.mem_singleton_self _, rfl⟩
  · exact absurd hs h1

/-- What an operation leaves to be seen at any later boundary where a line is pending and enabled:
the bit is set, or an IRQ has been entered. -/
lemma waits_of_operated {l : List MuxAction} {s t : Eon2Cpu δ} (hs : s.mux.src = 1)
    (h : runMux l s = .ok ((), t)) (ho : Operated s t) (ha : t.mux.active = true) :
    t.lineSet = true ∨ Entered s t := by
  obtain ⟨c, hrun⟩ := (covers_runMux l _ _ _ h).run false
  refine ((MuxRun.inv_of_operated hrun hs ho).waits ha).imp_right fun hc => ?_
  exact ((MuxRun.flag hrun).2 hc).resolve_left Bool.false_ne_true

/-- **The multiplexer neither loses nor invents interrupts.**  From any state with the multiplexer
on line 1, no line pending and enabled and nothing pending at the CPU: the latches are coherent at
every step of every run; every interleaving of asserted lines and instructions is such a run; and
at a boundary after an operation at which some line is pending and enabled, an IRQ has been entered
since the operation if `I` is clear, and if an `RTI` comes next that restores `I` clear, it has been
entered since or is entered at the end of the `RTI`. -/
theorem mux_neither_loses_nor_invents {t₀ : Eon2Cpu δ} (hsrc : t₀.mux.src = 1)
    (hoff : t₀.mux.active = false) (hirq : t₀.irqsPending = 0) (hfirq : t₀.firqsPending = 0) :
    (∀ x, MuxRun (t₀, false) x → MuxInv x ∧
      ∀ n (o : MuxOp) t, o.run n x.1 = .ok ((), t) → Operated x.1 t) ∧
    ∀ (l : List MuxAction) (s : Eon2Cpu δ), runMux l t₀ = .ok ((), s) →
      (∃ c, MuxRun (t₀, false) (s, c)) ∧
      ∀ (l' : List MuxAction) (t : Eon2Cpu δ), runMux l' s = .ok ((), t) → Operated s t →
        t.mux.active = true →
        (t.irqMasked = false → Entered s t) ∧
        ∀ m w : Eon2Cpu δ, cpuBody t = .ok (.rti, m) → ccCheck m = .ok ((), w) →
          m.irqMasked = false →
          Entered s t ∨ ∃ es, w.hist = es ++ t.hist ∧ .irq m.snapshot ∈ es := by
  have hinv : MuxInv (t₀, false) := by
    refine ⟨fun hl => ?_, fun ha => absurd (ha.symm.trans hoff) (by decide)⟩
    exact absurd (hl.symm.trans (Cpu.lineSet_of_none hirq)) (by decide)
  have hquiet : t₀.Quiet :=
    ⟨Cpu.irqDeliverable_eq_false.mpr (.inl hirq), Cpu.firqDeliverable_eq_false.mpr (.inl hfirq)⟩
  refine ⟨fun x hx => ⟨MuxRun.inv hx hsrc hinv, fun n o t ht => ?_⟩, fun l s hl => ?_⟩
  · exact MuxOp.operated_run (MuxRun.src hx hsrc) ht
  have hls := covers_runMux l _ _ _ hl
  refine ⟨hls.run false, fun l' t hl' ho ha => ?_⟩
  have hs := hls.steady.src.trans hsrc
  have hst := (covers_runMux l' _ _ _ hl').steady
  have hf := hst.firq hs (hls.steady.firq hsrc hfirq)
  have hw := waits_of_operated hs hl' ho ha
  constructor
  · intro hI
    refine hw.resolve_left fun hset => ?_
    -- nothing deliverable waits at a boundary
    have hq := (orderly_runMux l' _ _ _ hl').quiet ((orderly_runMux l _ _ _ hl).quiet hquiet)
    obtain h0 | hm := Cpu.irqDeliverable_eq_false.mp hq.1
    · exact absurd (hset.symm.trans (Cpu.lineSet_of_none h0)) (by decide)
    · exact absurd (hI.symm.trans (decide_eq_true hm)) (by decide)
  · intro m w hb hck hI
    refine hw.symm.imp_right fun hset => ?_
    have hp : t.irqsPending ≠ 0 := fun h0 =>
      absurd (hset.symm.trans (Cpu.lineSet_of_none h0)) (by decide)
    have hfm := (covers_cpuBody _ _ _ hb).steady.firq (hst.src.trans hs) hf
    exact ccCheck_rti hb hck hp hI (Cpu.firqDeliverable_eq_false.mpr (.inl hfm))

/-! ## A line that is disabled again -/

/-- The EON2 with a program at the start of its RAM. -/
def eon2Bus (prog : List U8) : Bus (Io Eon2 Bare) where
  busmaps := (Eon2.init (fun _ => 0) fun _ _ => 0).maps
  deviceTable := Eon2.devices
  priv dev phy := if dev = 1 then prog.getD phy.toNat 0 else 0
  systemRunning := true
  io :=
    { dev :=
        { globalRegs := (Eon2.init (fun _ => 0) fun _ _ => 0).globalRegs
          slotRegs := (Eon2.init (fun _ => 0) fun _ _ => 0).slotRegs
          touched := []
          disk := ⟨0, 0, 0, fun _ => 0, 0⟩
          imux := ⟨0, 0, 1⟩
          serial := ⟨0, 0⟩
          hostfile := ⟨0, 0⟩ }
      host := ⟨⟩ }

/-- `LDA #1`, `STA IMUX_ENB`, `CLR IMUX_ENB`, `ANDCC #$EF`, `STA IMUX_PEND`. -/
def disabling : Eon2Cpu Bare :=
  { Cpu.zeroed (eon2Bus [0x86, 0x01, 0xb7, 0xff, 0x18, 0x7f, 0xff, 0x18, 0x1c, 0xef, 0xb7, 0xff, 0x19])
    with EFI := I_FLAG }

/-- A line asserted while enabled is acknowledged without an IRQ although `I` is clear in between:
by then the guest has disabled it. -/
theorem disabled_line_not_served :
    ¬∀ (t₀ : Eon2Cpu Bare), t₀.mux.src = 1 → t₀.mux.active = false → t₀.irqsPending = 0 →
      t₀.firqsPending = 0 → ∀ (l l₁ l₂ : List MuxAction) (line : Nat) (s s₁ t u : Eon2Cpu Bare),
      runMux l t₀ = .ok ((), s) → s.mux.enabled.getLsbD line = true →
      runMux [.assert (BitVec.ofNat 32 line)] s = .ok ((), s₁) →
      runMux l₁ s₁ = .ok ((), t) → t.mux.pending.getLsbD line = true → t.irqMasked = false →
      runMux l₂ t = .ok ((), u) → u.mux.pending.getLsbD line = false → Entered s u := by
  intro h
  -- the state before the assertion, the one behind it, with `I` clear, and with line 0 acknowledged
  let s := after (runMux [.insn, .insn]) disabling
  let s₁ := after (runMux [.assert (BitVec.ofNat 32 0)]) s
  let t := after (runMux [.insn, .insn]) s₁
  let u := after (runMux [.insn]) t
  obtain ⟨hrun, hrun₁, hrun₂, hrun₃⟩ :
      result (runMux [.insn, .insn]) disabling = some () ∧
      result (runMux [.assert (BitVec.ofNat 32 0)]) s = some () ∧
      result (runMux [.insn, .insn]) s₁ = some () ∧ result (runMux [.insn]) t = some () := by
    decide +kernel
  obtain ⟨hsrc, hactive, henabled, hpending, hmasked, hacknowledged, hall⟩ :
      disabling.mux.src = 1 ∧ disabling.mux.active = false ∧ s.mux.enabled.getLsbD 0 = true ∧
      t.mux.pending.getLsbD 0 = true ∧ t.irqMasked = false ∧ u.mux.pending.getLsbD 0 = false ∧
      u.hist.any Event.isIrq = false := by
    decide +kernel
  have hin := h disabling hsrc hactive rfl rfl [.insn, .insn] [.insn, .insn] [.insn] 0 s s₁ t u
    (eq_ok_after hrun) henabled (eq_ok_after hrun₁) (eq_ok_after hrun₂) hpending hmasked
    (eq_ok_after hrun₃) hacknowledged
  obtain ⟨es, he, e, hm, hirq⟩ := hin
  rw [List.any_eq_false] at hall
  exact hall e (by rw [he]; exact List.mem_append_left _ hm) hirq

/-- A handler that acknowledges line 0, and a program that enables lines 0 and 1 and clears `I`. -/
def twoLines : Eon2Cpu Bare :=
  { Cpu.zeroed (eon2Bus [0x86, 0x01, 0xb7, 0xff, 0x19, 0x3b,
      0x86, 0x03, 0xb7, 0xff, 0x18, 0x1c, 0xef]) with
    PC := 6, S := 0x8000, EFI := I_FLAG }

/-- Both lines are asserted before `I` is clear; this is the start of the handler. -/
def inHandler : Eon2Cpu Bare := after (runMux [.insn, .insn, .assert 0, .assert 1, .insn]) twoLines

/-- Line 0 is acknowledged; line 1 is served at the end of the handler's `RTI`. -/
theorem mux_neither_loses_nor_invents_twoLines :
    Entered inHandler (after (runMux [.insn, .insn]) inHandler) ∨
    ∃ es, (after ccCheck (after cpuBody (after (runMux [.insn, .insn]) inHandler))).hist =
        es ++ (after (runMux [.insn, .insn]) inHandler).hist ∧
      .irq (after cpuBody (after (runMux [.insn, .insn]) inHandler)).snapshot ∈ es := by
  -- line 0 is acknowledged in `t`, and `RTI` is executed in `m`
  let t := after (runMux [.insn, .insn]) inHandler
  let m := after cpuBody t
  obtain ⟨hsrc, hactive, hfirst, hrun⟩ :
      twoLines.mux.src = 1 ∧ twoLines.mux.active = false ∧
      result (runMux [.insn, .insn, .assert 0, .assert 1, .insn]) twoLines = some () ∧
      result (runMux [.insn, .insn]) inHandler = some () := by
    decide +kernel
  obtain ⟨hhist, hop, hline, hrti, hcheck, hclear⟩ :
      t.hist = t.hist.take 1 ++ inHandler.hist ∧ (∃ e ∈ t.hist.take 1, e.isOp = true) ∧
      t.mux.active = true ∧ result cpuBody t = some .rti ∧ result ccCheck m = some () ∧
      m.irqMasked = false := by
    decide +kernel
  have h := (mux_neither_loses_nor_invents hsrc hactive rfl rfl).2
    [.insn, .insn, .assert 0, .assert 1, .insn] inHandler (eq_ok_after hfirst)
  have operated : Operated inHandler t := ⟨t.hist.take 1, hhist, hop⟩
  exact (h.2 [.insn, .insn] t (eq_ok_after hrun) operated hline).2 m (after ccCheck m)
    (eq_ok_after hrti) (eq_ok_after hcheck) hclear

end Exec09
