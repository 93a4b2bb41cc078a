import Exec09.Properties.LazyFlags

/-!
# What an instruction can observe

`Cpu.observe` forgets how the condition codes are kept and how the cycle count is split between
`total`, `cpu_period` and `cpu_clk`.  Every program of the interpreter is a function of what is
left: from states with equal observations it stops alike, or returns equal results in states with
equal observations (`Blind`).

The globals `iPC` and `ea` are scratch.  They are part of an observation only while they are
live: `iPC` from the start of an instruction to its end, `ea` from an address computation on.
`cc_changed` is read only by the check that ends an iteration, so it can be left out as well.
-/

namespace Exec09

open Program

variable {σ α β : Type}

/-- Which of the three variables are part of an observation. -/
structure Live where
  iPC : Bool
  ea : Bool
  ccChanged : Bool
  deriving DecidableEq, Repr

/-- At an instruction boundary. -/
def Live.boundary : Live := ⟨false, false, true⟩

/-- After an address computation. -/
def Live.aim (l : Live) : Live := { l with ea := true }

/-- The observable part of a state.  A variable that is not live is `none`. -/
structure Observation (σ : Type) where
  X : Unsigned
  Y : Unsigned
  S : Unsigned
  U : Unsigned
  PC : Unsigned
  A : Unsigned
  B : Unsigned
  DP : Unsigned
  bits : CcBits
  efi : Unsigned
  iPC : Option Unsigned
  ea : Option Unsigned
  cycles : BitVec 64
  irqsPending : Unsigned
  firqsPending : Unsigned
  ccChanged : Option Unsigned
  monitorOn : Bool
  world : σ
  simErrors : Nat
  hist : List Event

/-- Observe a state. -/
def Cpu.observe (l : Live) (s : Cpu σ) : Observation σ where
  X := s.X
  Y := s.Y
  S := s.S
  U := s.U
  PC := s.PC
  A := s.A
  B := s.B
  DP := s.DP
  bits := s.flags.bits
  efi := s.EFI &&& EFI_MASK
  iPC := if l.iPC then some s.iPC else none
  ea := if l.ea then some s.ea else none
  cycles := s.getCycles
  irqsPending := s.irqsPending
  firqsPending := s.firqsPending
  ccChanged := if l.ccChanged then some s.ccChanged else none
  monitorOn := s.monitorOn
  world := s.world
  simErrors := s.simErrors
  hist := s.hist

namespace Observation

/-- `get_cc`, from an observation. -/
def cc (o : Observation σ) : Unsigned := o.efi ||| o.bits.byte

def view (o : Observation σ) : View where
  a := o.A
  b := o.B
  dp := o.DP >>> 8
  x := o.X
  y := o.Y
  u := o.U
  s := o.S
  pc := o.PC &&& 0xffff
  cc := o.cc
  cycles := o.cycles

def snapshot (o : Observation σ) : Snapshot where
  cc := o.cc
  S := o.S
  irqsPending := o.irqsPending
  firqsPending := o.firqsPending

end Observation

section Readings

variable (l : Live) (s : Cpu σ)

lemma Cpu.getCc_observe : s.getCc = (s.observe l).cc := s.getCc_eq

lemma Cpu.view_observe : s.view = (s.observe l).view := by
  rw [Cpu.view, s.getCc_observe l]
  rfl

lemma Cpu.snapshot_observe : s.snapshot = (s.observe l).snapshot := by
  rw [Cpu.snapshot, s.getCc_observe l]
  rfl

/-- A test of one bit of `EFI` looks at the observed part only. -/
lemma efi_test {m : Unsigned} (hm : m &&& EFI_MASK = m) (x : Unsigned) :
    x &&& m = (x &&& EFI_MASK) &&& m := by
  rw [BitVec.and_assoc, BitVec.and_comm EFI_MASK, hm]

lemma Cpu.irqMasked_observe :
    s.irqMasked = decide ((s.observe l).efi &&& I_FLAG ≠ 0) := by
  rw [Cpu.irqMasked, efi_test (by decide)]
  rfl

lemma Cpu.firqMasked_observe :
    s.firqMasked = decide ((s.observe l).efi &&& F_FLAG ≠ 0) := by
  rw [Cpu.firqMasked, efi_test (by decide)]
  rfl

lemma Cpu.entireState_observe :
    s.entireState = decide ((s.observe l).efi &&& E_FLAG ≠ 0) := by
  rw [Cpu.entireState, efi_test (by decide)]
  rfl

end Readings

/-! ## Agreement of states -/

/-- Two states look the same, up to the scratch variables that are not live. -/
def Agree (l : Live) (s t : Cpu σ) : Prop := s.observe l = t.observe l

/-- A program that looks at a state only through its observation and touches neither scratch
variable. -/
def Blind (m : M σ α) : Prop := ∀ l : Live, Uniform (Agree l) (Agree l) m

/-- An address computation: `ea` is live afterwards. -/
def Aims (m : M σ α) : Prop := ∀ l : Live, Uniform (Agree l) (Agree l.aim) m

/-- A program that uses the address. -/
def Aimed (m : M σ α) : Prop := ∀ l : Live, Uniform (Agree l.aim) (Agree l.aim) m

/-- Forget the scratch variables. -/
lemma Agree.drop {l : Live} {s t : Cpu σ} (h : Agree l s t) :
    Agree { l with iPC := false, ea := false } s t := by
  have h' := congrArg (fun o : Observation σ => { o with iPC := none, ea := none }) h
  exact h'

lemma Agree.dropEa {l : Live} {s t : Cpu σ} (h : Agree l s t) :
    Agree { l with ea := false } s t := by
  have h' := congrArg (fun o : Observation σ => { o with ea := none }) h
  exact h'

namespace Blind

lemma bind {m : M σ α} {f : α → M σ β} (hm : Blind m) (hf : ∀ a, Blind (f a)) :
    Blind (m >>= f) :=
  fun l => (hm l).bind fun a => hf a l

lemma pure (a : α) : Blind (pure a : M σ α) := fun _ => Uniform.pure a

lemma throw (x : Exit) : Blind (throw x : M σ α) := fun _ => Uniform.throw x

lemma ite {c : Prop} [Decidable c] {m m' : M σ α} (h : Blind m) (h' : Blind m') :
    Blind (if c then m else m') :=
  fun l => (h l).ite (h' l)

lemma whenever {c : Prop} [Decidable c] {m : M σ Unit} (h : Blind m) : Blind (whenever c m) :=
  fun l => (h l).whenever

lemma forM {l : List β} {k : β → M σ PUnit} (h : ∀ b, Blind (k b)) : Blind (l.forM k) :=
  fun l => Uniform.forM fun b => h b l

/-- A reading that is a function of the observation. -/
lemma reads {f : Cpu σ → α} (f' : Observation σ → α) (h : ∀ l s, f s = f' (s.observe l)) :
    Blind (reads f : M σ α) := by
  refine fun l => Uniform.reads fun s t hst => ?_
  rw [h l s, h l t, hst]

/-- An update that is a function of the observation. -/
lemma modify {g : Cpu σ → Cpu σ} (g' : Observation σ → Observation σ)
    (h : ∀ l s, (g s).observe l = g' (s.observe l)) :
    Blind (modify g : M σ PUnit) := by
  refine fun l => Uniform.modify fun s t hst => ?_
  rw [Agree, h, h, hst]

lemma aimed {m : M σ α} (h : Blind m) : Aimed m := fun l => h l.aim

end Blind

namespace Aims

lemma bind {m : M σ α} {f : α → M σ β} (hm : Aims m) (hf : ∀ a, Aimed (f a)) : Aims (m >>= f) :=
  fun l => (hm l).bind fun a => hf a l

/-- A program before the address computation. -/
lemma after {m : M σ α} {f : α → M σ β} (hm : Blind m) (hf : ∀ a, Aims (f a)) :
    Aims (m >>= f) :=
  fun l => (hm l).bind fun a => hf a l

end Aims

namespace Aimed

lemma bind {m : M σ α} {f : α → M σ β} (hm : Aimed m) (hf : ∀ a, Aimed (f a)) :
    Aimed (m >>= f) :=
  fun l => (hm l).bind fun a => hf a l

lemma pure (a : α) : Aimed (pure a : M σ α) := (Blind.pure a).aimed

end Aimed

/-! ## Elementary programs -/

lemma getCycles_tick (s : Cpu σ) (n : Int) :
    ({ s with cpuClk := s.cpuClk - n } : Cpu σ).getCycles = s.getCycles + BitVec.ofInt 64 n := by
  simp only [Cpu.getCycles]
  rw [show s.cpuPeriod - (s.cpuClk - n) = (s.cpuPeriod - s.cpuClk) + n by omega,
    BitVec.ofInt_add, BitVec.add_assoc]

lemma blind_tick (n : Int) : Blind (tick n : M σ Unit) := by
  refine Blind.modify (fun o => { o with cycles := o.cycles + BitVec.ofInt 64 n }) fun l s => ?_
  rw [Cpu.observe, getCycles_tick]
  rfl

lemma blind_alu {g : Flags → α × Flags} (hg : Lazy g) : Blind (alu g : M σ α) := by
  refine fun l => Uniform.modifyGet fun s t hst => ?_
  obtain ⟨h₁, h₂⟩ := hg s.flags t.flags (congrArg Observation.bits hst)
  refine ⟨h₁, ?_⟩
  have h := congrArg (fun o : Observation σ => { o with bits := (g s.flags).2.bits }) hst
  refine h.trans ?_
  simp only [h₂]
  rfl

/-- The machine sees the processor only through `View`. -/
lemma blind_modifyGet_world (call : View → σ → α) (world : α → σ) :
    Blind (modifyGet fun s : Cpu σ =>
      (call s.view s.world, { s with world := world (call s.view s.world) }) : M σ α) := by
  refine fun l => Uniform.modifyGet fun s t hst => ?_
  have hv : s.view = t.view := by rw [s.view_observe l, t.view_observe l, hst]
  have hw : s.world = t.world := congrArg Observation.world hst
  refine ⟨by rw [hv, hw], ?_⟩
  have h := congrArg (fun o : Observation σ => { o with world := world (call s.view s.world) }) hst
  refine h.trans ?_
  rw [hv, hw]
  rfl

section Accesses

variable [Machine σ]

lemma blind_simError : Blind (simError : M σ Unit) := by
  refine (Blind.modify (fun o => { o with simErrors := o.simErrors + 1 }) fun _ _ => rfl).bind
    fun _ => Blind.ite ?_ (Blind.throw _)
  exact Blind.modify (fun o => { o with monitorOn := true }) fun _ _ => rfl

lemma blind_signal (x : Signal) : Blind (signal x : M σ Unit) := by
  cases x with
  | simError => exact blind_simError
  | monitor on => exact Blind.modify (fun o => { o with monitorOn := on }) fun _ _ => rfl
  | exit code => exact Blind.throw _

lemma blind_access (call : View → σ → Reply σ β) : Blind (access call : M σ β) :=
  (blind_modifyGet_world call Reply.world).bind fun _ =>
    (Blind.forM blind_signal).bind fun _ => Blind.pure _

lemma blind_rdmem (addr : Unsigned) : Blind (rdmem addr : M σ Unsigned) :=
  (blind_access _).bind fun _ => Blind.pure _

lemma blind_read16 (addr : Unsigned) : Blind (read16 addr : M σ Unsigned) :=
  (blind_access _).bind fun _ => Blind.pure _

lemma blind_readStack16 (addr : Unsigned) : Blind (readStack16 addr : M σ Unsigned) :=
  (blind_rdmem _).bind fun _ => (blind_rdmem _).bind fun _ => Blind.pure _

lemma blind_rdmem16 (addr : Unsigned) : Blind (rdmem16 addr : M σ Unsigned) :=
  (blind_rdmem _).bind fun _ => (blind_tick _).bind fun _ => (blind_rdmem _).bind fun _ =>
    Blind.pure _

end Accesses

/-! ## Registers -/

lemma blind_reads_PC : Blind (reads Cpu.PC : M σ Unsigned) :=
  Blind.reads Observation.PC fun _ _ => rfl
lemma blind_reads_DP : Blind (reads Cpu.DP : M σ Unsigned) :=
  Blind.reads Observation.DP fun _ _ => rfl
lemma blind_reads_getCc : Blind (reads Cpu.getCc : M σ Unsigned) :=
  Blind.reads Observation.cc fun l s => s.getCc_observe l
lemma blind_rdA : Blind (rdA : M σ Unsigned) := Blind.reads Observation.A fun _ _ => rfl
lemma blind_rdB : Blind (rdB : M σ Unsigned) := Blind.reads Observation.B fun _ _ => rfl
lemma blind_rdX : Blind (rdX : M σ Unsigned) := Blind.reads Observation.X fun _ _ => rfl
lemma blind_rdY : Blind (rdY : M σ Unsigned) := Blind.reads Observation.Y fun _ _ => rfl
lemma blind_rdU : Blind (rdU : M σ Unsigned) := Blind.reads Observation.U fun _ _ => rfl
lemma blind_rdS : Blind (rdS : M σ Unsigned) := Blind.reads Observation.S fun _ _ => rfl
lemma blind_rdD : Blind (rdD : M σ Unsigned) :=
  Blind.reads (fun o => (o.A <<< 8) ||| o.B) fun _ _ => rfl

lemma aimed_rdEa : Aimed (rdEa : M σ Unsigned) :=
  fun _ => Uniform.reads fun _ _ hst => Option.some.inj (congrArg Observation.ea hst)

lemma blind_wrA (v : Unsigned) : Blind (wrA v : M σ Unit) :=
  Blind.modify (fun o => { o with A := v }) fun _ _ => rfl
lemma blind_wrB (v : Unsigned) : Blind (wrB v : M σ Unit) :=
  Blind.modify (fun o => { o with B := v }) fun _ _ => rfl
lemma blind_wrX (v : Unsigned) : Blind (wrX v : M σ Unit) :=
  Blind.modify (fun o => { o with X := v }) fun _ _ => rfl
lemma blind_wrY (v : Unsigned) : Blind (wrY v : M σ Unit) :=
  Blind.modify (fun o => { o with Y := v }) fun _ _ => rfl
lemma blind_wrU (v : Unsigned) : Blind (wrU v : M σ Unit) :=
  Blind.modify (fun o => { o with U := v }) fun _ _ => rfl
lemma blind_wrS (v : Unsigned) : Blind (wrS v : M σ Unit) :=
  Blind.modify (fun o => { o with S := v }) fun _ _ => rfl
lemma blind_wrPC (v : Unsigned) : Blind (wrPC v : M σ Unit) :=
  Blind.modify (fun o => { o with PC := v }) fun _ _ => rfl
lemma blind_wrDP (v : Unsigned) : Blind (wrDP v : M σ Unit) :=
  Blind.modify (fun o => { o with DP := v <<< 8 }) fun _ _ => rfl
lemma blind_skip (v : Unsigned) : Blind (skip v : M σ Unit) :=
  Blind.modify (fun o => { o with PC := o.PC + v }) fun _ _ => rfl
lemma blind_wrZ (v : Unsigned) : Blind (wrZ v : M σ Unit) :=
  Blind.modify (fun o => { o with bits := { o.bits with z := zeroBit v } }) fun _ _ => rfl

lemma aims_wrEa (v : Unsigned) : Aims (wrEa v : M σ Unit) := by
  refine fun l => Uniform.modify fun s t hst => ?_
  have := congrArg (fun o : Observation σ => { o with ea := some v }) hst
  exact this

/-- `set_cc`, on an observation. -/
def Observation.setCc (v : Unsigned) (o : Observation σ) : Observation σ :=
  { o with
    efi := v &&& EFI_MASK &&& EFI_MASK
    bits := CcBits.ofByte v
    ccChanged := o.ccChanged.map fun _ => 1 }

lemma observe_setCc (l : Live) (v : Unsigned) (s : Cpu σ) :
    (s.setCc v).observe l = (s.observe l).setCc v := by
  rw [Observation.setCc, ← bits_flagsOfCc]
  obtain ⟨p, e, _ | _⟩ := l <;> rfl

lemma blind_setCc (v : Unsigned) : Blind (setCc v : M σ Unit) :=
  Blind.modify (Observation.setCc v) fun l s => observe_setCc l v s

/-- An assignment to `EFI` whose observed part depends on the observed part. -/
lemma blind_modify_EFI {g : Unsigned → Unsigned}
    (hg : ∀ x, g x &&& EFI_MASK = g (x &&& EFI_MASK) &&& EFI_MASK) :
    Blind (modify fun s : Cpu σ => { s with EFI := g s.EFI } : M σ Unit) := by
  refine Blind.modify (fun o => { o with efi := g o.efi &&& EFI_MASK }) fun l s => ?_
  simp only [Cpu.observe]
  rw [hg]
  rfl

lemma or_efi_mask (m x : Unsigned) :
    (x ||| m) &&& EFI_MASK = ((x &&& EFI_MASK) ||| m) &&& EFI_MASK := by
  rw [BitVec.and_or_distrib_right, BitVec.and_or_distrib_right, BitVec.and_assoc x,
    BitVec.and_self]

lemma and_efi_mask (m x : Unsigned) :
    (x &&& m) &&& EFI_MASK = ((x &&& EFI_MASK) &&& m) &&& EFI_MASK := by
  rw [BitVec.and_assoc, BitVec.and_assoc, BitVec.and_assoc, ← BitVec.and_assoc EFI_MASK,
    BitVec.and_comm EFI_MASK m, BitVec.and_assoc m, BitVec.and_self]

lemma blind_reads_irqMasked : Blind (reads Cpu.irqMasked : M σ Bool) :=
  Blind.reads (fun o => decide (o.efi &&& I_FLAG ≠ 0)) fun l s => s.irqMasked_observe l

lemma blind_reads_firqMasked : Blind (reads Cpu.firqMasked : M σ Bool) :=
  Blind.reads (fun o => decide (o.efi &&& F_FLAG ≠ 0)) fun l s => s.firqMasked_observe l

lemma blind_reads_entireState : Blind (reads Cpu.entireState : M σ Bool) :=
  Blind.reads (fun o => decide (o.efi &&& E_FLAG ≠ 0)) fun l s => s.entireState_observe l

lemma blind_reads_firqDeliverable : Blind (reads Cpu.firqDeliverable : M σ Bool) := by
  refine Blind.reads
    (fun o => decide (o.firqsPending ≠ 0 ∧ ¬decide (o.efi &&& F_FLAG ≠ 0))) fun l s => ?_
  rw [Cpu.firqDeliverable, s.firqMasked_observe l]
  rfl

lemma blind_reads_irqDeliverable : Blind (reads Cpu.irqDeliverable : M σ Bool) := by
  refine Blind.reads
    (fun o => decide (o.irqsPending ≠ 0 ∧ ¬decide (o.efi &&& I_FLAG ≠ 0))) fun l s => ?_
  rw [Cpu.irqDeliverable, s.irqMasked_observe l]
  rfl

lemma blind_reads_cond (c : Cond) : Blind (cond c : M σ Bool) :=
  Blind.reads (fun o => c.eval o.bits) fun _ s => c.holds_eq_eval s.flags

/-- `get_reg`, on an observation. -/
def Observation.getReg (o : Observation σ) (nro : Unsigned) : Unsigned :=
  match regOfNumber nro with
  | some .D => (o.A <<< 8) ||| o.B
  | some .X => o.X
  | some .Y => o.Y
  | some .U => o.U
  | some .S => o.S
  | some .PC => o.PC &&& 0xffff
  | some .A => o.A
  | some .B => o.B
  | some .CC => o.cc
  | some .DP => o.DP >>> 8
  | none => 0xff

/-- `set_reg`, on an observation. -/
def Observation.setReg (o : Observation σ) (nro val : Unsigned) : Observation σ :=
  match regOfNumber nro with
  | some .D => { o with A := val >>> 8, B := val &&& 0xff }
  | some .X => { o with X := val }
  | some .Y => { o with Y := val }
  | some .U => { o with U := val }
  | some .S => { o with S := val }
  | some .PC => { o with PC := val }
  | some .A => { o with A := val }
  | some .B => { o with B := val }
  | some .CC => o.setCc val
  | some .DP => { o with DP := val <<< 8 }
  | none => o

lemma Cpu.getReg_observe (l : Live) (s : Cpu σ) (nro : Unsigned) :
    s.getReg nro = (s.observe l).getReg nro := by
  unfold Cpu.getReg Observation.getReg
  rw [← s.getCc_observe l]
  rfl

lemma Cpu.observe_setReg (l : Live) (s : Cpu σ) (nro val : Unsigned) :
    (s.setReg nro val).observe l = (s.observe l).setReg nro val := by
  unfold Cpu.setReg Observation.setReg
  rcases regOfNumber nro with _ | r
  · rfl
  · cases r with
    | CC => exact observe_setCc l val s
    | _ => rfl

lemma blind_exg (post : Unsigned) : Blind (modify (Cpu.exg post) : M σ Unit) := by
  refine Blind.modify
    (fun o => (o.setReg (post &&& 15) (if sameSize post then o.getReg (post >>> 4) else 0xff)).setReg
      (post >>> 4) (if sameSize post then o.getReg (post &&& 15) else 0xff)) fun l s => ?_
  simp only [Cpu.exg, Cpu.observe_setReg, s.getReg_observe l]

lemma blind_tfr (post : Unsigned) : Blind (modify (Cpu.tfr post) : M σ Unit) := by
  refine Blind.modify
    (fun o => o.setReg (post &&& 15) (if sameSize post then o.getReg (post >>> 4) else 0xff))
    fun l s => ?_
  simp only [Cpu.tfr, Cpu.observe_setReg, s.getReg_observe l]

end Exec09
