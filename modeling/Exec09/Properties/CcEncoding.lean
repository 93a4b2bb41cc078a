import Exec09.Cpu.Run
import Exec09.Properties.Blind
import Exec09.Properties.Interrupts

/-!
# The lazy condition codes encode the CC register

States that agree on the registers, memory, the interrupt state and `get_cc` are indistinguishable
for every run.  In particular the flags may be replaced by `set_cc (get_cc ())` between two
instructions: this raises `cc_changed`, but with no interrupt deliverable the poll it causes finds
nothing to do.
-/

namespace Exec09

open Program

variable {σ : Type}

/-- Two states agree on everything but the representation of the flags, the scratch variables and
the split of the cycle count. -/
structure Alike (s t : Cpu σ) : Prop where
  A : s.A = t.A
  B : s.B = t.B
  DP : s.DP = t.DP
  X : s.X = t.X
  Y : s.Y = t.Y
  U : s.U = t.U
  S : s.S = t.S
  PC : s.PC = t.PC
  cc : s.getCc = t.getCc
  world : s.world = t.world
  irqsPending : s.irqsPending = t.irqsPending
  firqsPending : s.firqsPending = t.firqsPending
  ccChanged : s.ccChanged = t.ccChanged
  cycles : s.getCycles = t.getCycles
  monitorOn : s.monitorOn = t.monitorOn
  simErrors : s.simErrors = t.simErrors
  hist : s.hist = t.hist

lemma alike_iff {s t : Cpu σ} : Alike s t ↔ Agree Live.boundary s t := by
  constructor
  · rintro ⟨hA, hB, hDP, hX, hY, hU, hS, hPC, hcc, hw, hi, hf, hc, hcy, hm, he, hh⟩
    obtain ⟨hE, hb⟩ := Cpu.getCc_eq_iff.mp hcc
    simp only [Agree, Cpu.observe, Live.boundary, hA, hB, hDP, hX, hY, hU, hS, hPC, hE, hb, hw, hi,
      hf, hc, hcy, hm, he, hh]
    rfl
  · intro h
    simp only [Agree, Cpu.observe, Observation.mk.injEq, Live.boundary] at h
    obtain ⟨hX, hY, hS, hU, hPC, hA, hB, hDP, hb, hE, -, -, hcy, hi, hf, hc, hm, hw, he, hh⟩ := h
    exact ⟨hA, hB, hDP, hX, hY, hU, hS, hPC, Cpu.getCc_eq_iff.mpr ⟨hE, hb⟩, hw, hi, hf,
      Option.some.inj hc, hcy, hm, he, hh⟩

/-! ## Actions -/

lemma blind_poke (r : DebugReg) (val : Unsigned) : Blind (modify (Cpu.poke r val) : M σ Unit) := by
  cases r with
  | pc => exact Blind.modify (fun o => { o with PC := val &&& 0xffff }) fun _ _ => rfl
  | x => exact Blind.modify (fun o => { o with X := val &&& 0xffff }) fun _ _ => rfl
  | y => exact Blind.modify (fun o => { o with Y := val &&& 0xffff }) fun _ _ => rfl
  | u => exact Blind.modify (fun o => { o with U := val &&& 0xffff }) fun _ _ => rfl
  | s => exact Blind.modify (fun o => { o with S := val &&& 0xffff }) fun _ _ => rfl
  | d =>
      exact Blind.modify (fun o => { o with A := (val >>> 8) &&& 0xff, B := val &&& 0xff })
        fun _ _ => rfl
  | a => exact Blind.modify (fun o => { o with A := val &&& 0xff }) fun _ _ => rfl
  | b => exact Blind.modify (fun o => { o with B := val &&& 0xff }) fun _ _ => rfl
  | dp => exact Blind.modify (fun o => { o with DP := (val &&& 0xff) <<< 8 }) fun _ _ => rfl
  | cc => exact blind_setCc val

variable [Machine σ]

/-- What can happen between two instructions is a function of what can be observed. -/
lemma Action.blind_run {a : Action σ} (ha : a ≠ .insn) : Blind a.run := by
  cases a with
  | insn => exact absurd rfl ha
  | hook => exact blind_access _
  | irq => exact blind_irq
  | firq => exact blind_firq
  | requestIrq source => exact blind_requestIrqWith blind_wrmem source
  | releaseIrq source => exact blind_releaseIrq source
  | requestFirq source => exact blind_requestFirqWith blind_wrmem source
  | releaseFirq source => exact blind_releaseFirq source
  | poke r val => exact blind_poke r val
  | clock total period clk =>
      exact Blind.modify (fun o => { o with cycles := total + BitVec.ofInt 64 (period - clk) })
        fun _ _ => rfl
  | world f =>
      refine Blind.modify (fun o => { o with world := f o.view o.world }) fun l s => ?_
      rw [s.view_observe l]
      rfl

lemma Action.uniform_run (a : Action σ) :
    Uniform (Agree Live.boundary) (Agree Live.boundary) a.run := by
  by_cases ha : a = .insn
  · rw [ha]
    exact uniform_cpuInsn
  · exact Action.blind_run ha _

lemma uniform_runActions (l : List (Action σ)) :
    Uniform (Agree Live.boundary) (Agree Live.boundary) (runActions l) :=
  Uniform.forM Action.uniform_run

/-! ## Normalising the flags -/

omit [Machine σ] in
/-- Normalised flags look the same, except that `cc_changed` is raised. -/
lemma agree_setCc_getCc (s : Cpu σ) : Agree ⟨false, false, false⟩ s (s.setCc s.getCc) := by
  have h : (s.setCc s.getCc).getCc = s.getCc := Cpu.getCc_setCc s _ s.getCc_lt
  obtain ⟨hE, hb⟩ := Cpu.getCc_eq_iff.mp h
  have hcy : (s.setCc s.getCc).getCycles = s.getCycles := rfl
  simp only [Agree, Cpu.observe, hE, hb, hcy]
  rfl

lemma uniform_cpuBody (c : Bool) :
    Uniform (Agree ⟨false, false, c⟩) (Agree (Live.body c)) (cpuBody : M σ Insn) :=
  ((uniform_enter c).bind fun _ => blind_decode _).bind fun i => (i.blindfold_exec c).bind fun _ =>
    Uniform.pure i

/-- An instruction that makes an interrupt deliverable raises `cc_changed`. -/
lemma quiet_cpuBody {i : Insn} {s m : Cpu σ} (h : cpuBody s = .ok (i, m)) (hs : s.Quiet) :
    m.ccChanged ≠ 0 ∨ m.Quiet := by
  obtain hc | hr := cpuBody_lines h
  · exact .inr (hc.quiet hs)
  · obtain hl | hl := hr.lines
    · exact .inr ((Calm.keep _ _ hl).quiet hs)
    · exact .inl (hl.trans_ne (by decide))

omit [Machine σ] in
lemma Agree.quiet {l : Live} {s t : Cpu σ} (h : Agree l s t) (hs : s.Quiet) : t.Quiet := by
  rw [← Cpu.quiet_snapshot] at hs ⊢
  rwa [t.snapshot_observe l, ← h, ← s.snapshot_observe l]

omit [Machine σ] in
lemma uniform_ccSeen :
    Uniform (Agree ⟨true, false, false⟩) (Agree ⟨true, false, true⟩)
      (modify fun s => { s with ccChanged := 0 } : M σ Unit) := by
  refine Uniform.modify fun s t hst => ?_
  have h := congrArg (fun o : Observation σ => { o with ccChanged := some 0 }) hst
  exact h

/-- With nothing deliverable a poll makes no difference. -/
lemma pollLines_quiet {s : Cpu σ} (hs : s.Quiet) : pollLines s = .ok ((), s) := by
  obtain ⟨hi, hf⟩ := hs
  simp [pollLines, bind_apply, hi, hf, Except.bind]

lemma ccModified_quiet {s : Cpu σ} (hs : s.Quiet) :
    ccModified s = .ok ((), { s with ccChanged := 0 }) :=
  ok_bind (pollLines_quiet hs)

/-- Where `cc_changed` is lowered and nothing is deliverable, the check could as well poll. -/
lemma ccCheck_eq_ccModified {s : Cpu σ} (hs : s.ccChanged ≠ 0 ∨ s.Quiet) :
    ccCheck s = ccModified s := by
  change whenever (s.ccChanged ≠ 0) ccModified s = ccModified s
  by_cases hc : s.ccChanged = 0
  · have hs' : { s with ccChanged := 0 } = s := by rw [← hc]
    rw [whenever, if_neg (not_not.mpr hc), ccModified_quiet (hs.resolve_left (not_not.mpr hc)), hs']
    rfl
  · rw [whenever, if_pos hc]

/-- The check at the end of an instruction, when `cc_changed` may be raised on one side only, but
lowered on neither while something is deliverable. -/
lemma ccCheck_agree {s t : Cpu σ} (h : Agree (Live.body false) s t)
    (hs : s.ccChanged ≠ 0 ∨ s.Quiet) (ht : t.ccChanged ≠ 0 ∨ t.Quiet) :
    Outcomes (fun _ _ s t => Agree Live.boundary s t) (ccCheck s) (ccCheck t) := by
  rw [ccCheck_eq_ccModified hs, ccCheck_eq_ccModified ht]
  exact Outcomes.mono (fun _ _ _ _ h => h.2.drop)
    (((blind_pollLines (Live.body false)).bind fun _ => uniform_ccSeen) s t h)

/-- One instruction from two quiet states that differ in `cc_changed` at most. -/
lemma cpuInsn_quiet {s t : Cpu σ} (h : Agree ⟨false, false, false⟩ s t) (hs : s.Quiet) :
    Outcomes (fun _ _ s t => Agree Live.boundary s t) (cpuInsn s) (cpuInsn t) := by
  rw [cpuInsn_eq_body]
  have hb := (uniform_cpuBody false s t h).and (fun i m hm => quiet_cpuBody hm hs)
    (fun i m hm => quiet_cpuBody hm (h.quiet hs))
  exact Outcomes.bind (fun i j m m' hm => ccCheck_agree hm.1.2 hm.2.1 hm.2.2) hb

/-! ## The encoding is faithful -/

omit [Machine σ] in
/-- The five bits of `get_cc`. -/
lemma CcBits.ofByte_getCc (s : Cpu σ) : CcBits.ofByte s.getCc = s.flags.bits := by
  have h : (s.setCc s.getCc).getCc = s.getCc := Cpu.getCc_setCc s _ s.getCc_lt
  exact (bits_flagsOfCc s.getCc).symm.trans (Cpu.getCc_eq_iff.mp h).2

/-- **The lazy condition codes are a faithful encoding of the CC register.**  States that agree on
everything but the raw flags agree again after an instruction and after any run; `set_cc` and
`get_cc` are inverse on bytes; each branch condition is the function of the bits of `get_cc` that
its name says; and normalising the flags while no interrupt is deliverable is not seen by any
continuation of the run. -/
theorem lazy_cc_faithful :
    (∀ s t : Cpu σ, Alike s t →
      Outcomes (fun _ _ s' t' => Alike s' t') (cpuInsn s) (cpuInsn t)) ∧
    (∀ (l : List (Action σ)) (s t : Cpu σ), Alike s t →
      Outcomes (fun _ _ s' t' => Alike s' t') (runActions l s) (runActions l t)) ∧
    (∀ (s : Cpu σ) (v : Unsigned), v.toNat < 256 → (s.setCc v).getCc = v) ∧
    (∀ (c : Cond) (s : Cpu σ), c.holds s.flags = c.eval (CcBits.ofByte s.getCc)) ∧
    (∀ (s : Cpu σ), s.Quiet → ∀ l : List (Action σ),
      Outcomes (fun _ _ s' t' => Alike s' t') (runActions (.insn :: l) s)
        (runActions (.insn :: l) (s.setCc s.getCc))) := by
  have alike {x y : Except Exit (Unit × Cpu σ)}
      (h : Outcomes (fun a b s' t' => a = b ∧ Agree Live.boundary s' t') x y) :
      Outcomes (fun _ _ s' t' => Alike s' t') x y :=
    h.mono fun _ _ _ _ hq => alike_iff.mpr hq.2
  refine ⟨?_, ?_, ?_, ?_, ?_⟩
  · exact fun s t h => alike (uniform_cpuInsn s t (alike_iff.mp h))
  · exact fun l s t h => alike (uniform_runActions l s t (alike_iff.mp h))
  · exact fun s v hv => Cpu.getCc_setCc s v hv
  · intro c s
    rw [CcBits.ofByte_getCc, c.holds_eq_eval]
  · intro s hs l
    exact Outcomes.bind (f := fun _ => runActions l) (k := fun _ => runActions l)
      (fun _ _ s' t' h => alike (uniform_runActions l s' t' h))
        (cpuInsn_quiet (agree_setCc_getCc s) hs)

end Exec09
