import Exec09.Cpu.Insn
import Exec09.Framework.Simulation

/-!
# Simulation between machines

The interpreter is one program for every machine behind the bus.  What it does to the registers is
the same on every machine, so a relation between two processors that agree on their registers is
kept by every program of the interpreter if the accesses keep it: reads, writes, the hook and
`sim_error`.

Here are registers, bus accesses and interrupt entry; instructions and runs are in `SameRuns`.
-/

namespace Exec09

open Program

variable {σ τ α β : Type}

/-! ## Relations between processors -/

/-- All of the processor that a program can look at. -/
def Cpu.proper (s : Cpu σ) : Cpu Unit := { s with world := (), monitorOn := false }

/-- The processor with other registers. -/
def Cpu.plug (u : Cpu Unit) (s : Cpu σ) : Cpu σ :=
  { u with world := s.world, monitorOn := s.monitorOn, simErrors := s.simErrors }

/-- Related processors agree, and the relation does not depend on what is in the registers. -/
class Linked (R : Cpu σ → Cpu τ → Prop) : Prop where
  proper : ∀ {s t}, R s t → t.proper = s.proper
  plug : ∀ {s t} (u : Cpu Unit), R s t → R (u.plug s) (u.plug t)

/-- More than the assignment of `monitor_on`. -/
def Signal.heard : Signal → Bool
  | .monitor _ => false
  | .simError | .exit _ => true

def Effect.heard : Effect → Bool
  | .signal e => e.heard
  | .requestIrq _ | .releaseIrq _ | .requestFirq _ | .releaseFirq _ => true

/-- Effects that differ at most in assignments of `monitor_on` the relation does not see. -/
structure SameEffects (R : Cpu σ → Cpu τ → Prop) (l l' : List Effect) : Prop where
  heard : l'.filter Effect.heard = l.filter Effect.heard
  left : ∀ on, .signal (.monitor on) ∈ l → ∀ s t, R s t → R { s with monitorOn := on } t
  right : ∀ on, .signal (.monitor on) ∈ l' → ∀ s t, R s t → R s { t with monitorOn := on }

/-- What the interpreter calls keeps the relation. -/
class SameCalls (exact : Prop) (R : Cpu σ → Cpu τ → Prop) [Machine σ] [Machine τ] : Prop
    extends Linked R where
  read8 : ∀ a, Follows exact R (access fun v w => Machine.read8 v w a : M σ U8)
    (access fun v w => Machine.read8 v w a)
  read16 : ∀ a, Follows exact R (access fun v w => Machine.read16 v w a : M σ U16)
    (access fun v w => Machine.read16 v w a)
  insnHook : Follows exact R (insnHook : M σ Unit) insnHook
  simError : Follows exact R (simError : M σ Unit) simError
  /-- If the simulation is not exact, the first write may end the process. -/
  write8 : ∀ a d s t, R s t →
    (¬exact ∧ ∃ c, .signal (.exit c) ∈ (Machine.write8 s.view s.world a d).effects) ∨
      (R { s with world := (Machine.write8 s.view s.world a d).world }
          { t with world := (Machine.write8 t.view t.world a d).world } ∧
        SameEffects R (Machine.write8 s.view s.world a d).effects
          (Machine.write8 t.view t.world a d).effects)
  cpuIsRunning : ∀ s t, R s t →
    R { s with world := Machine.cpuIsRunning s.world }
      { t with world := Machine.cpuIsRunning t.world }
  nesting : Machine.nesting τ = Machine.nesting σ

/-! ## Registers -/

section Registers

variable {exact : Prop} {R : Cpu σ → Cpu τ → Prop} [Linked R]

lemma Linked.view {s : Cpu σ} {t : Cpu τ} (h : R s t) : t.view = s.view :=
  congrArg Cpu.view (Linked.proper h)

/-- What is read is in the registers. -/
lemma follows_reads (f : ∀ ρ, Cpu ρ → α) (h : ∀ ρ (s : Cpu ρ), f Unit s.proper = f ρ s) :
    Follows exact R (reads (f σ) : M σ α) (reads (f τ)) :=
  Follows.reads fun s t hst =>
    (h τ t).symm.trans ((congrArg (f Unit) (Linked.proper hst)).trans (h σ s))

/-- What is assigned is in the registers. -/
lemma follows_modify (f : ∀ ρ, Cpu ρ → Cpu ρ)
    (h : ∀ ρ (s : Cpu ρ), f ρ s = (f Unit s.proper).plug s) :
    Follows exact R (modify (f σ) : M σ Unit) (modify (f τ)) := by
  refine Follows.modify fun s t hst => ?_
  rw [h σ s, h τ t, Linked.proper hst]
  exact Linked.plug _ hst

lemma follows_alu (g : Flags → α × Flags) :
    Follows exact R (alu g : M σ α) (alu g) := by
  refine Follows.modifyGet fun s t hst => ?_
  have hproper : t.proper = s.proper := Linked.proper hst
  have hflags : t.flags = s.flags := congrArg Cpu.flags hproper
  have hplug : ∀ ρ (u : Cpu ρ), { u with flags := (g u.flags).2 } =
      ({ u.proper with flags := (g u.proper.flags).2 } : Cpu Unit).plug u := fun _ _ => rfl
  refine ⟨by rw [hflags], ?_⟩
  change R { s with flags := (g s.flags).2 } { t with flags := (g t.flags).2 }
  rw [hplug σ s, hplug τ t, hproper]
  exact Linked.plug _ hst

lemma follows_tick (n : Int) : Follows exact R (tick n : M σ Unit) (tick n) :=
  follows_modify (fun _ s => { s with cpuClk := s.cpuClk - n }) fun _ _ => rfl

lemma follows_wrA (v : Unsigned) : Follows exact R (wrA v : M σ Unit) (wrA v) :=
  follows_modify (fun _ s => { s with A := v }) fun _ _ => rfl

lemma follows_wrB (v : Unsigned) : Follows exact R (wrB v : M σ Unit) (wrB v) :=
  follows_modify (fun _ s => { s with B := v }) fun _ _ => rfl

lemma follows_wrX (v : Unsigned) : Follows exact R (wrX v : M σ Unit) (wrX v) :=
  follows_modify (fun _ s => { s with X := v }) fun _ _ => rfl

lemma follows_wrY (v : Unsigned) : Follows exact R (wrY v : M σ Unit) (wrY v) :=
  follows_modify (fun _ s => { s with Y := v }) fun _ _ => rfl

lemma follows_wrU (v : Unsigned) : Follows exact R (wrU v : M σ Unit) (wrU v) :=
  follows_modify (fun _ s => { s with U := v }) fun _ _ => rfl

lemma follows_wrS (v : Unsigned) : Follows exact R (wrS v : M σ Unit) (wrS v) :=
  follows_modify (fun _ s => { s with S := v }) fun _ _ => rfl

lemma follows_wrDP (v : Unsigned) : Follows exact R (wrDP v : M σ Unit) (wrDP v) :=
  follows_modify (fun _ s => { s with DP := v <<< 8 }) fun _ _ => rfl

lemma follows_wrEa (v : Unsigned) : Follows exact R (wrEa v : M σ Unit) (wrEa v) :=
  follows_modify (fun _ s => { s with ea := v }) fun _ _ => rfl

lemma follows_wrPC (v : Unsigned) : Follows exact R (wrPC v : M σ Unit) (wrPC v) :=
  follows_modify (fun _ s => { s with PC := v }) fun _ _ => rfl

lemma follows_wrZ (v : Unsigned) : Follows exact R (wrZ v : M σ Unit) (wrZ v) :=
  follows_modify (fun _ s => { s with flags := { s.flags with Z := v } }) fun _ _ => rfl

lemma follows_skip (n : Unsigned) : Follows exact R (skip n : M σ Unit) (skip n) :=
  follows_modify (fun _ s => { s with PC := s.PC + n }) fun _ _ => rfl

lemma follows_setCc (v : Unsigned) : Follows exact R (setCc v : M σ Unit) (setCc v) :=
  follows_modify (fun _ s => s.setCc v) fun _ _ => rfl

lemma follows_PC : Follows exact R (reads Cpu.PC : M σ Unsigned) (reads Cpu.PC) :=
  follows_reads (fun _ => Cpu.PC) fun _ _ => rfl

lemma follows_rdA : Follows exact R (rdA : M σ Unsigned) rdA :=
  follows_reads (fun _ => Cpu.A) fun _ _ => rfl

lemma follows_rdB : Follows exact R (rdB : M σ Unsigned) rdB :=
  follows_reads (fun _ => Cpu.B) fun _ _ => rfl

lemma follows_rdD : Follows exact R (rdD : M σ Unsigned) rdD :=
  follows_reads (fun _ => Cpu.getD) fun _ _ => rfl

lemma follows_rdX : Follows exact R (rdX : M σ Unsigned) rdX :=
  follows_reads (fun _ => Cpu.X) fun _ _ => rfl

lemma follows_rdY : Follows exact R (rdY : M σ Unsigned) rdY :=
  follows_reads (fun _ => Cpu.Y) fun _ _ => rfl

lemma follows_rdU : Follows exact R (rdU : M σ Unsigned) rdU :=
  follows_reads (fun _ => Cpu.U) fun _ _ => rfl

lemma follows_rdS : Follows exact R (rdS : M σ Unsigned) rdS :=
  follows_reads (fun _ => Cpu.S) fun _ _ => rfl

lemma follows_rdDP : Follows exact R (reads Cpu.DP : M σ Unsigned) (reads Cpu.DP) :=
  follows_reads (fun _ => Cpu.DP) fun _ _ => rfl

lemma follows_rdEa : Follows exact R (rdEa : M σ Unsigned) rdEa :=
  follows_reads (fun _ => Cpu.ea) fun _ _ => rfl

lemma follows_getCc :
    Follows exact R (reads Cpu.getCc : M σ Unsigned) (reads Cpu.getCc) :=
  follows_reads (fun _ => Cpu.getCc) fun _ _ => rfl

lemma IndexReg.follows_get (r : IndexReg) :
    Follows exact R (r.get : M σ Unsigned) r.get := by
  cases r with
  | X => exact follows_rdX
  | Y => exact follows_rdY
  | U => exact follows_rdU
  | S => exact follows_rdS

lemma IndexReg.follows_put (r : IndexReg) (v : Unsigned) :
    Follows exact R (r.put v : M σ Unit) (r.put v) := by
  cases r with
  | X => exact follows_wrX v
  | Y => exact follows_wrY v
  | U => exact follows_wrU v
  | S => exact follows_wrS v

lemma Acc.follows_get (r : Acc) : Follows exact R (r.get : M σ Unsigned) r.get := by
  cases r with
  | A => exact follows_rdA
  | B => exact follows_rdB

lemma Acc.follows_put (r : Acc) (v : Unsigned) :
    Follows exact R (r.put v : M σ Unit) (r.put v) := by
  cases r with
  | A => exact follows_wrA v
  | B => exact follows_wrB v

lemma Cmp16.follows_get (r : Cmp16) : Follows exact R (r.get : M σ Unsigned) r.get := by
  cases r with
  | D => exact follows_rdD
  | X => exact follows_rdX
  | Y => exact follows_rdY
  | U => exact follows_rdU
  | S => exact follows_rdS

lemma follows_unary (g : Unsigned → Flags → Unsigned × Flags) (arg : Unsigned) :
    Follows exact R (unary g arg : M σ Unsigned) (unary g arg) :=
  (follows_alu _).bind fun _ => (follows_tick 2).bind fun _ => Follows.pure _

lemma follows_tst (arg : Unsigned) : Follows exact R (tst arg : M σ Unit) (tst arg) :=
  (follows_alu _).bind fun _ => follows_tick 2

lemma follows_wrAB (res : Unsigned) : Follows exact R (wrAB res : M σ Unit) (wrAB res) :=
  (follows_wrA _).bind fun _ => follows_wrB _

lemma Bin16.follows_run (op : Bin16) (val : Unsigned) :
    Follows exact R (op.run val : M σ Unit) (op.run val) := by
  cases op with
  | addd | subd =>
      exact follows_rdD.bind fun _ => (follows_alu _).bind fun _ => follows_wrAB _

lemma Cpu.setReg_plug (ρ : Type) (s : Cpu ρ) (nro val : Unsigned) :
    s.setReg nro val = (s.proper.setReg nro val).plug s := by
  unfold Cpu.setReg
  split <;> rfl

lemma Cpu.plug_setReg (u : Cpu Unit) (s : Cpu σ) (nro val : Unsigned) :
    u.plug (s.setReg nro val) = u.plug s := by
  unfold Cpu.setReg
  split <;> rfl

lemma Cpu.proper_setReg (s : Cpu σ) (nro val : Unsigned) :
    (s.setReg nro val).proper = s.proper.setReg nro val := by
  unfold Cpu.setReg
  split <;> rfl

lemma follows_tfr (post : Unsigned) :
    Follows exact R (modify (Cpu.tfr post) : M σ Unit) (modify (Cpu.tfr post)) :=
  follows_modify (fun _ => Cpu.tfr post) fun ρ s => Cpu.setReg_plug ρ s _ _

lemma follows_exg (post : Unsigned) :
    Follows exact R (modify (Cpu.exg post) : M σ Unit) (modify (Cpu.exg post)) := by
  refine follows_modify (fun _ => Cpu.exg post) fun ρ s => ?_
  rw [Cpu.exg, Cpu.exg, Cpu.setReg_plug, Cpu.plug_setReg, Cpu.proper_setReg]
  rfl

end Registers

/-! ## Bus accesses -/

section Accesses

variable [Machine σ] [Machine τ] {exact : Prop} {R : Cpu σ → Cpu τ → Prop} [SameCalls exact R]

lemma follows_simError : Follows exact R (simError : M σ Unit) simError := SameCalls.simError

lemma follows_insnHook : Follows exact R (insnHook : M σ Unit) insnHook := SameCalls.insnHook

lemma follows_rdmem (addr : Unsigned) :
    Follows exact R (rdmem addr : M σ Unsigned) (rdmem addr) :=
  (SameCalls.read8 addr).bind fun _ => Follows.pure _

lemma follows_read16 (addr : Unsigned) :
    Follows exact R (read16 addr : M σ Unsigned) (read16 addr) :=
  (SameCalls.read16 addr).bind fun _ => Follows.pure _

lemma follows_rdmem16 (addr : Unsigned) :
    Follows exact R (rdmem16 addr : M σ Unsigned) (rdmem16 addr) :=
  (follows_rdmem _).bind fun _ => (follows_tick 1).bind fun _ => (follows_rdmem _).bind
    fun _ => Follows.pure _

lemma follows_readStack16 (addr : Unsigned) :
    Follows exact R (readStack16 addr : M σ Unsigned) (readStack16 addr) :=
  (follows_rdmem _).bind fun _ => (follows_rdmem _).bind fun _ => Follows.pure _

lemma follows_immByte : Follows exact R (immByte : M σ Unsigned) immByte :=
  follows_PC.bind fun _ => (follows_rdmem _).bind fun _ => (follows_skip 1).bind fun _ =>
    Follows.pure _

lemma follows_immWord : Follows exact R (immWord : M σ Unsigned) immWord :=
  follows_PC.bind fun _ => (follows_read16 _).bind fun _ => (follows_skip 2).bind fun _ =>
    Follows.pure _

lemma follows_rdmemEa : Follows exact R (rdmemEa : M σ Unsigned) rdmemEa :=
  follows_rdEa.bind fun _ => follows_rdmem _

lemma follows_rdmem16Ea : Follows exact R (rdmem16Ea : M σ Unsigned) rdmem16Ea :=
  follows_rdEa.bind fun _ => follows_rdmem16 _

/-! ## Interrupt entry and writes -/

section With

variable {write : Unsigned → Unsigned → M σ Unit} {write' : Unsigned → Unsigned → M τ Unit}
  (hw : ∀ a d, Follows exact R (write a d) (write' a d))

section Pushes

include hw

lemma follows_pushS16With (data : Unsigned) :
    Follows exact R (pushS16With write data) (pushS16With write' data) :=
  Follows.bind (follows_modify (fun _ s => { s with S := (s.S - 2) &&& 0xffff }) fun _ _ => rfl) fun _ => follows_rdS.bind fun _ => (hw _ _).bind fun _ => hw _ _

lemma follows_pushS8With (data : Unsigned) :
    Follows exact R (pushS8With write data) (pushS8With write' data) :=
  Follows.bind (follows_modify (fun _ s => { s with S := (s.S - 1) &&& 0xffff }) fun _ _ => rfl) fun _ => follows_rdS.bind fun _ => hw _ _

lemma follows_pushAllWith : Follows exact R (pushAllWith write) (pushAllWith write') :=
  follows_PC.bind fun _ => (follows_pushS16With hw _).bind fun _ =>
  follows_rdU.bind fun _ => (follows_pushS16With hw _).bind fun _ =>
  follows_rdY.bind fun _ => (follows_pushS16With hw _).bind fun _ =>
  follows_rdX.bind fun _ => (follows_pushS16With hw _).bind fun _ =>
  follows_rdDP.bind fun _ => (follows_pushS8With hw _).bind fun _ =>
  follows_rdB.bind fun _ => (follows_pushS8With hw _).bind fun _ =>
  follows_rdA.bind fun _ => (follows_pushS8With hw _).bind fun _ =>
  follows_getCc.bind fun _ => follows_pushS8With hw _

end Pushes

include hw

lemma follows_irqWith : Follows exact R (irqWith write) (irqWith write') :=
  Follows.bind (follows_modify (fun _ s => { s with hist := .irq s.snapshot :: s.hist })
    fun _ _ => rfl) fun _ =>
  Follows.bind (follows_modify (fun _ s => { s with EFI := s.EFI ||| E_FLAG })
    fun _ _ => rfl) fun _ =>
  (follows_pushAllWith hw).bind fun _ =>
  Follows.bind (follows_modify (fun _ s => { s with EFI := s.EFI ||| I_FLAG })
    fun _ _ => rfl) fun _ =>
  (follows_read16 _).bind fun _ => (follows_wrPC _).bind fun _ =>
  follows_modify (fun _ s => { s with irqsPending := 0 }) fun _ _ => rfl

lemma follows_firqWith : Follows exact R (firqWith write) (firqWith write') :=
  Follows.bind (follows_modify (fun _ s => { s with hist := .firq s.snapshot :: s.hist })
    fun _ _ => rfl) fun _ =>
  Follows.bind (follows_modify (fun _ s => { s with EFI := s.EFI &&& ~~~E_FLAG })
    fun _ _ => rfl) fun _ =>
  follows_PC.bind fun _ => (follows_pushS16With hw _).bind fun _ =>
  follows_getCc.bind fun _ => (follows_pushS8With hw _).bind fun _ =>
  Follows.bind (follows_modify (fun _ s => { s with EFI := s.EFI ||| (I_FLAG ||| F_FLAG) })
    fun _ _ => rfl) fun _ =>
  (follows_read16 _).bind fun _ => (follows_wrPC _).bind fun _ =>
  follows_modify (fun _ s => { s with firqsPending := 0 }) fun _ _ => rfl

lemma follows_requestIrqWith (source : Unsigned) :
    Follows exact R (requestIrqWith write source) (requestIrqWith write' source) :=
  Follows.bind (follows_modify (fun _ s =>
      { s with irqsPending := s.irqsPending ||| ((1 : Unsigned) <<< source) })
    fun _ _ => rfl) fun _ =>
  Follows.bind (follows_reads (fun _ => Cpu.irqMasked) fun _ _ => rfl) fun _ =>
  (follows_irqWith hw).whenever.bind fun _ =>
  follows_modify (fun _ s => { s with hist := .requested s.snapshot :: s.hist })
    fun _ _ => rfl

lemma follows_requestFirqWith (source : Unsigned) :
    Follows exact R (requestFirqWith write source) (requestFirqWith write' source) :=
  Follows.bind (follows_modify (fun _ s =>
      { s with firqsPending := s.firqsPending ||| ((1 : Unsigned) <<< source) })
    fun _ _ => rfl) fun _ =>
  Follows.bind (follows_reads (fun _ => Cpu.firqMasked) fun _ _ => rfl) fun _ =>
  (follows_firqWith hw).whenever.bind fun _ =>
  follows_modify (fun _ s => { s with hist := .requested s.snapshot :: s.hist })
    fun _ _ => rfl

omit hw in
lemma follows_releaseIrq (source : Unsigned) :
    Follows exact R (releaseIrq source : M σ Unit) (releaseIrq source) :=
  Follows.bind (follows_modify (fun _ s =>
      { s with irqsPending := s.irqsPending &&& ~~~((1 : Unsigned) <<< source) })
    fun _ _ => rfl) fun _ =>
  follows_modify (fun _ s => { s with hist := .releasedIrq :: s.hist }) fun _ _ => rfl

omit hw in
lemma follows_releaseFirq (source : Unsigned) :
    Follows exact R (releaseFirq source : M σ Unit) (releaseFirq source) :=
  Follows.bind (follows_modify (fun _ s =>
      { s with firqsPending := s.firqsPending &&& ~~~((1 : Unsigned) <<< source) })
    fun _ _ => rfl) fun _ =>
  follows_modify (fun _ s => { s with hist := .releasedFirq :: s.hist }) fun _ _ => rfl

/-- A heard effect is carried out alike. -/
lemma follows_effectWith {x : Effect} (hx : x.heard) :
    Follows exact R (effectWith write x) (effectWith write' x) := by
  cases x with
  | signal e =>
      cases e with
      | simError => exact follows_simError
      | monitor on => cases hx
      | exit c => exact Follows.throw _
  | requestIrq source => exact follows_requestIrqWith hw source
  | releaseIrq source => exact follows_releaseIrq source
  | requestFirq source => exact follows_requestFirqWith hw source
  | releaseFirq source => exact follows_releaseFirq source

lemma follows_effects {l l' : List Effect} (h : SameEffects R l l') :
    Follows exact R (l.forM (effectWith write)) (l'.forM (effectWith write')) := by
  have hquiet (x : Effect) (hx : ¬x.heard) : ∃ on, x = .signal (.monitor on) := by
    cases x with
    | signal e =>
        cases e with
        | monitor on => exact ⟨on, rfl⟩
        | simError | exit c => exact absurd rfl hx
    | requestIrq _ | releaseIrq _ | requestFirq _ | releaseFirq _ => exact absurd rfl hx
  refine Follows.forM_filter (fun x hx => follows_effectWith hw hx) (fun x hm hx s => ?_)
    (fun x hm hx t => ?_) h.heard
  · obtain ⟨on, rfl⟩ := hquiet x hx
    exact ⟨_, rfl, h.left on hm s⟩
  · obtain ⟨on, rfl⟩ := hquiet x hx
    exact ⟨_, rfl, fun s => h.right on hm s t⟩

end With

/-- `exit` among what a write reported ends the process. -/
lemma forM_effect_exit {w : Unsigned → Unsigned → M σ Unit} {l : List Effect} {c : U8}
    (h : .signal (.exit c) ∈ l) (s : Cpu σ) : ∃ e, l.forM (effectWith w) s = .error e := by
  induction l generalizing s with
  | nil => cases h
  | cons x l ih =>
      rcases hx : effectWith w x s with e | ⟨_, t⟩
      · exact ⟨e, error_bind hx⟩
      · rcases List.mem_cons.mp h with rfl | h
        · cases hx
        · obtain ⟨e, he⟩ := ih h t
          exact ⟨e, (ok_bind hx).trans he⟩

/-- Writes, with the entries nested in them. -/
lemma follows_writeN (n : Nat) : ∀ a d,
    Follows exact R (writeN n a d : M σ Unit) (writeN n a d) := by
  induction n with
  | zero => exact fun _ _ => Follows.throw _
  | succ n ih =>
      intro a d s t hst
      change (∀ u s', (Machine.write8 s.view s.world a (d.setWidth 8)).effects.forM
        (effectWith (writeN n)) _ = _ → ∃ t', (Machine.write8 t.view t.world a
        (d.setWidth 8)).effects.forM (effectWith (writeN n)) _ = _ ∧ _) ∧
        (_ → ∀ e, (Machine.write8 s.view s.world a (d.setWidth 8)).effects.forM
        (effectWith (writeN n)) _ = _ → (Machine.write8 t.view t.world a
        (d.setWidth 8)).effects.forM (effectWith (writeN n)) _ = _)
      have calls : SameCalls exact R := inferInstance
      rcases calls.write8 a (d.setWidth 8) s t hst with ⟨hx, c, hc⟩ | ⟨hw, hl⟩
      · obtain ⟨e, he⟩ := forM_effect_exit (w := writeN n) hc
          { s with world := (Machine.write8 s.view s.world a (d.setWidth 8)).world }
        refine ⟨fun u s' hu => ?_, fun h => absurd h hx⟩
        cases hu.symm.trans he
      · exact follows_effects ih hl _ _ hw

lemma follows_wrmem (a d : Unsigned) :
    Follows exact R (wrmem a d : M σ Unit) (wrmem a d) := by
  have calls : SameCalls exact R := inferInstance
  rw [wrmem, wrmem, calls.nesting]
  exact follows_writeN _ a d

lemma follows_irq : Follows exact R (irq : M σ Unit) irq :=
  follows_irqWith follows_wrmem

lemma follows_firq : Follows exact R (firq : M σ Unit) firq :=
  follows_firqWith follows_wrmem

lemma follows_wrmemEa (d : Unsigned) :
    Follows exact R (wrmemEa d : M σ Unit) (wrmemEa d) :=
  follows_rdEa.bind fun _ => follows_wrmem _ _

lemma follows_wrmem16 (a d : Unsigned) :
    Follows exact R (wrmem16 a d : M σ Unit) (wrmem16 a d) :=
  (follows_wrmem _ _).bind fun _ => (follows_tick 1).bind fun _ => follows_wrmem _ _

lemma follows_pushS16 (data : Unsigned) :
    Follows exact R (pushS16 data : M σ Unit) (pushS16 data) :=
  follows_pushS16With follows_wrmem data

lemma follows_pushS8 (data : Unsigned) :
    Follows exact R (pushS8 data : M σ Unit) (pushS8 data) :=
  follows_pushS8With follows_wrmem data

lemma follows_ccCheck : Follows exact R (ccCheck : M σ Unit) ccCheck := by
  have poll : Follows exact R (pollLines : M σ Unit) pollLines :=
    Follows.bind (follows_reads (fun _ => Cpu.firqDeliverable) fun _ _ => rfl) fun _ =>
      Follows.ite follows_firq (Follows.bind
        (follows_reads (fun _ => Cpu.irqDeliverable) fun _ _ => rfl) fun _ =>
        Follows.ite follows_irq (Follows.pure ()))
  refine Follows.bind (follows_reads (fun _ => Cpu.ccChanged) fun _ _ => rfl) fun _ => ?_
  exact Follows.whenever (Follows.bind poll fun _ =>
    follows_modify (fun _ s => { s with ccChanged := 0 }) fun _ _ => rfl)

end Accesses

end Exec09
