import Exec09.Properties.Protection
import Exec09.Properties.SameRuns

/-!
# What is true in every state of a run

A property of the world that no single access destroys holds in every state of every run: the
worlds with the property are a machine of their own, and the processor on it does what it does on
the machine it is taken from.  On the four machines this is said of the mapping hardware: whatever
program runs, the bus is mapped as the mapping registers say.
-/

namespace Exec09

open Program

/-! ## Runs inside an invariant -/

section Invariants

variable {σ α : Type} [Machine σ]

/-- No access of the interpreter leaves `I`. -/
class Closed (I : σ → Prop) : Prop where
  read8 : ∀ v w a, I w → I (Machine.read8 v w a).world
  read16 : ∀ v w a, I w → I (Machine.read16 v w a).world
  write8 : ∀ v w a d, I w → I (Machine.write8 v w a d).world
  insnHook : ∀ v w, I w → I (Machine.insnHook v w).world
  cpuIsRunning : ∀ w, I w → I (Machine.cpuIsRunning w)

/-- The worlds in `I`. -/
def Within (I : σ → Prop) : Type := { w : σ // I w }

instance (I : σ → Prop) [Closed I] : Machine (Within I) where
  read8 v w a :=
    ⟨(Machine.read8 v w.1 a).val, ⟨_, Closed.read8 v w.1 a w.2⟩, (Machine.read8 v w.1 a).signals⟩
  read16 v w a :=
    ⟨(Machine.read16 v w.1 a).val, ⟨_, Closed.read16 v w.1 a w.2⟩, (Machine.read16 v w.1 a).signals⟩
  write8 v w a d := ⟨⟨_, Closed.write8 v w.1 a d w.2⟩, (Machine.write8 v w.1 a d).effects⟩
  insnHook v w :=
    ⟨(Machine.insnHook v w.1).val, ⟨_, Closed.insnHook v w.1 w.2⟩, (Machine.insnHook v w.1).signals⟩
  cpuIsRunning w := ⟨_, Closed.cpuIsRunning w.1 w.2⟩
  debugEnabled := Machine.debugEnabled σ
  nesting := Machine.nesting σ

/-- A world, and the same world with its invariant. -/
abbrev IsWithin (I : σ → Prop) (w : σ) (w' : Within I) : Prop := w'.1 = w

/-- Forgetting the invariant changes nothing. -/
lemma simulates_within (I : σ → Prop) [Closed I] : Simulates True (IsWithin I) where
  read8 _ _ _ _ hw := hw ▸ .inr ⟨rfl, rfl, rfl⟩
  read16 _ _ _ _ hw := hw ▸ .inr ⟨rfl, rfl, rfl⟩
  write8 _ _ _ _ _ hw := hw ▸ .inr ⟨rfl, rfl⟩
  insnHook _ _ _ hw := hw ▸ .inr ⟨rfl, rfl, rfl⟩
  cpuIsRunning _ _ hw := hw ▸ rfl
  debugEnabled := rfl
  nesting := rfl

instance (I : σ → Prop) [Closed I] : SameCalls True (InStep (IsWithin I)) :=
  (simulates_within I).sameCalls

/-- `m` does not leave `I`. -/
def Stays (I : σ → Prop) (m : M σ α) : Prop :=
  Triple (fun s => I s.world) m fun _ s => I s.world

variable {I : σ → Prop}

omit [Machine σ] in
/-- What can be done inside `I` stays there. -/
lemma Stays.of_follows {m : M σ α} {m' : M (Within I) α}
    (h : Follows True (InStep (IsWithin I)) m m') : Stays I m := by
  intro s hs a t ht
  obtain ⟨t', -, htt⟩ := (h s { s with world := ⟨s.world, hs⟩ } ⟨rfl, rfl⟩).1 a t ht
  rw [← htt.world]
  exact t'.world.2

omit [Machine σ] in
lemma Stays.keep {f : Cpu σ → Cpu σ} (h : ∀ s, (f s).world = s.world) :
    Stays I (modify f : M σ Unit) :=
  Triple.modify fun s hs => (h s).symm ▸ hs

/-- An action that, if it changes the world by itself, does not leave `I`. -/
def Action.Keeps (I : σ → Prop) : Action σ → Prop
  | .world f => ∀ v w, I w → I (f v w)
  | _ => True

variable [Closed I]

lemma stays_cpuInsn : Stays I (cpuInsn : M σ Unit) :=
  .of_follows follows_cpuInsn

lemma stays_insnHook : Stays I (insnHook : M σ Unit) :=
  .of_follows follows_insnHook

lemma Action.Keeps.stays {a : Action σ} (h : a.Keeps I) : Stays I a.run := by
  cases a with
  | insn => exact stays_cpuInsn
  | hook => exact stays_insnHook
  | irq => exact .of_follows follows_irq
  | firq => exact .of_follows follows_firq
  | requestIrq source => exact .of_follows (follows_requestIrqWith follows_wrmem source)
  | releaseIrq source =>
      exact .of_follows (follows_releaseIrq source : Follows True (InStep (IsWithin I)) _ _)
  | requestFirq source => exact .of_follows (follows_requestFirqWith follows_wrmem source)
  | releaseFirq source =>
      exact .of_follows (follows_releaseFirq source : Follows True (InStep (IsWithin I)) _ _)
  | poke r val =>
      exact .of_follows (follows_poke r val : Follows True (InStep (IsWithin I)) _ _)
  | clock total period clk => exact .keep fun _ => rfl
  | world f => exact Triple.modify fun s hs => h s.view s.world hs

lemma stays_runActions {l : List (Action σ)} (h : ∀ a ∈ l, a.Keeps I) : Stays I (runActions l) := by
  induction l with
  | nil => exact Triple.pure fun _ hs => hs
  | cons a l ih =>
      exact Triple.bind (h a (List.mem_cons_self ..)).stays fun _ =>
        ih fun b hb => h b (List.mem_cons_of_mem _ hb)

section Loop

variable {monitor6809 : M σ Bool} (hm : Stays I monitor6809)
include hm

lemma stays_beforeInsn : Stays I (beforeInsn monitor6809) :=
  Triple.bind stays_insnHook fun _ => Triple.bind (Triple.reads fun _ hs => hs) fun _ =>
    Triple.ite (fun _ => hm) fun _ => Triple.pure fun _ hs => hs

lemma stays_cpuLoop (fuel : Nat) : Stays I (cpuLoop monitor6809 fuel) := by
  induction fuel with
  | zero => exact Triple.pure fun _ hs => hs
  | succ n ih =>
      rw [cpuLoop_succ]
      refine Triple.bind (stays_beforeInsn hm) fun leave => Triple.ite (fun _ => ?_) fun _ => ?_
      · exact Triple.pure fun _ hs => hs
      · exact Triple.bind stays_cpuInsn fun _ => Triple.bind (Triple.reads fun _ hs => hs) fun _ =>
          Triple.ite (fun _ => ih) fun _ => Triple.pure fun _ hs => hs

lemma stays_cpuExecute (fuel : Nat) (cycles : Int) :
    Stays I (cpuExecute monitor6809 fuel cycles) := by
  refine Triple.bind (Stays.keep fun _ => rfl) fun _ => Triple.bind (stays_cpuLoop hm fuel)
    fun r => ?_
  cases r with
  | none => exact Triple.pure fun _ hs => hs
  | some =>
      exact Triple.bind (Stays.keep fun _ => rfl) fun _ => Triple.bind (Stays.keep fun _ => rfl)
        fun _ => Triple.bind (Triple.reads fun _ hs => hs) fun _ => Triple.pure fun _ hs => hs

/-- **The loop of `main` does not leave an invariant of the accesses.** -/
lemma stays_mainLoop (fuel : Nat) {l : List (Int × List (Action σ))}
    (h : ∀ x ∈ l, ∀ a ∈ x.2, a.Keeps I) : Stays I (mainLoop monitor6809 fuel l) := by
  induction l with
  | nil => exact Triple.pure fun _ hs => hs
  | cons x l ih =>
      obtain ⟨cycles, actions⟩ := x
      have hslice : Stays I (mainSlice monitor6809 fuel cycles) := by
        refine Triple.bind (stays_cpuExecute hm fuel cycles) fun v => ?_
        cases v with
        | none => exact Triple.pure fun _ hs => hs
        | some v => exact Triple.bind (Stays.keep fun _ => rfl) fun _ => Triple.pure fun _ hs => hs
      refine Triple.bind hslice fun r => ?_
      cases r with
      | none => exact Triple.pure fun _ hs => hs
      | some =>
          exact Triple.bind (stays_runActions (h _ (List.mem_cons_self ..))) fun _ =>
            ih fun y hy => h y (List.mem_cons_of_mem _ hy)

end Loop

end Invariants

/-! ## The mapping hardware -/

namespace Model

variable {δ : Type} [Host δ]

/-- Maps, devices and mapping registers are those of some configuration. -/
def Mapped : (m : Model) → Bus (Io m.Regs δ) → Prop
  | simple, b => Config.simple.Holds b
  | eon, b => Eon.Mapped b.busmaps b.deviceTable b.io.dev
  | eon2, b => ∃ g r, Eon2.Mapped g r b.busmaps b.deviceTable b.io.dev
  | wpc, b => WpcAsic.Mapped b.busmaps b.deviceTable b.io.dev

/-- The bus is mapped as the mapping registers say.  Those of the WPC cannot be read back. -/
def Agrees : (m : Model) → Bus (Io m.Regs δ) → Prop
  | simple, b => b.busmaps = Simple.maps
  | eon, b =>
      b.busmaps Eon.mmuEntry = ⟨1, 0, MAP_READWRITE ||| MAP_FIXED⟩ ∧
        ∀ p < 14, (Eon.mmu b).Coherent p
  | eon2, b => ∀ p < 15, (Eon2.mmu b).Coherent p
  | wpc, b => ∃ low high rom, ∀ k < NUM_BUS_MAPS,
      place (b.busmaps k) = Wpc.shows low high rom k

variable {m : Model}

lemma Mapped.step {b b' : Bus (Io m.Regs δ)} (h : BusStep b b') (hb : m.Mapped b) :
    m.Mapped b' := by
  cases m with
  | simple => exact Simple.reached (.single h) hb
  | eon => exact Eon.mapped_reached (.single h) hb
  | eon2 =>
      obtain ⟨g, r, hb⟩ := hb
      exact ⟨g, r, Eon2.mapped_reached (.single h) hb⟩
  | wpc => exact WpcAsic.mapped_reached (.single h) hb

instance : Closed (m.Mapped (δ := δ)) where
  read8 v b a hb := hb.step (.read8 v b a)
  read16 v b a hb := hb.step (.read16 v b a)
  write8 v b a d hb := hb.step (.write8 v b a d)
  insnHook v b hb := hb.step (.insnHook v b)
  cpuIsRunning b hb := hb.step (.running b)

omit [Host δ] in
lemma Mapped.holds {b : Bus (Io m.Regs δ)} (hb : m.Mapped b) :
    ∃ c : Config, c.model = m ∧ c.Holds b := by
  cases m with
  | simple => exact ⟨.simple, rfl, hb⟩
  | eon =>
      obtain ⟨⟨l, hl⟩, ht⟩ := hb
      exact ⟨.eon l, rfl, congrArg Mmu.maps hl, ht⟩
  | eon2 =>
      obtain ⟨g, r, ⟨l, hl⟩, ht⟩ := hb
      exact ⟨.eon2 g r l, rfl, hl.maps, ht⟩
  | wpc =>
      obtain ⟨⟨l, hl⟩, ht⟩ := hb
      exact ⟨.wpc l, rfl, hl.maps, ht⟩

omit [Host δ] in
lemma Mapped.agrees {b : Bus (Io m.Regs δ)} (hb : m.Mapped b) : m.Agrees b := by
  cases m with
  | simple => exact hb.maps
  | eon =>
      obtain ⟨⟨l, hl⟩, -⟩ := hb
      have hmmu : Eon.mmu b = Eon.mmuAfter l := hl
      have hentry : Eon.init.maps Eon.mmuEntry = ⟨1, 0, MAP_READWRITE ||| MAP_FIXED⟩ := by
        rw [Eon.init_apply (by decide)]
        rfl
      refine ⟨?_, fun p hp => ?_⟩
      · change (Eon.mmu b).maps Eon.mmuEntry = _
        rw [hmmu]
        exact (Mmu.writes_keep (by rw [hentry]; decide) l).trans hentry
      · rw [hmmu]
        exact Mmu.writes_coherent l (.inl (Eon.init_coherent hp))
  | eon2 =>
      obtain ⟨g, r, ⟨l, hl⟩, -⟩ := hb
      intro p hp k hk
      have hcoh := SmallMmu.writes_coherent (Eon2.init_free g r) (Eon2.init_coherent g r hp) l k hk
      change (⟨b.io.dev.globalRegs, b.io.dev.slotRegs, b.busmaps, []⟩ : SmallMmu).maps _ = _
      rw [hl.maps, hcoh, ← hl.slotRegs]
      rfl
  | wpc =>
      obtain ⟨⟨l, hl⟩, -⟩ := hb
      refine ⟨Wpc.lastWrite .dmdLowPage l, Wpc.lastWrite .dmdHighPage l, Wpc.lastWrite .romBank l,
        fun k hk => ?_⟩
      have hmaps : b.busmaps = (Wpc.after l).maps := hl.maps
      rw [hmaps]
      exact Wpc.after_place l hk

omit [Host δ] in
/-- The timers of the WPC do not touch the RAM lock. -/
lemma keeps_periodic : Action.Keeps (Mapped wpc)
    (.world fun _ (b : Bus (Io WpcAsic δ)) => b.setDev b.io.dev.periodic) := by
  rintro v b ⟨⟨l, hl⟩, ht⟩
  have hlock : b.io.dev.periodic.ramUnlocked = b.io.dev.ramUnlocked ∧
      b.io.dev.periodic.ramLockSize = b.io.dev.ramLockSize := by
    unfold WpcAsic.periodic
    dsimp only
    split_ifs <;> exact ⟨rfl, rfl⟩
  exact ⟨⟨l, hlock.1.trans hl.unlocked, hlock.2.trans hl.lockSize, hl.maps⟩, ht⟩

/-- A WPC with a branch to itself in its RAM. -/
def spinning : Cpu (Bus (Io (Regs wpc) Bare)) :=
  Cpu.zeroed (Wpc.bus (Wpc.after []) (fun _ p => ([0x20, 0xfe] : List U8).getD p.toNat 0) ⟨⟩)

/-- A slice, and what happens between two slices. -/
def oneSlice : M (Bus (Io (Regs wpc) Bare)) (Option Unit) :=
  mainLoop (pure false) 2
    [(3, [.world fun _ b => b.setDev b.io.dev.periodic, .releaseFirq 1])]

end Model

end Exec09
