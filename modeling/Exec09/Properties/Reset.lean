import Exec09.Cpu.Flat
import Exec09.Properties.CcEncoding
import Exec09.Properties.Delivery

/-!
# What a reset leaves behind

`cpu_reset` assigns the registers, the flags and the masks.  Of the processor's other globals
`iPC` and `ea` are scratch and `cc_changed` asks for a poll, which finds nothing to do while the
reset masks are in force; the old `PC` can be seen during the fetch of the vector, but only by a
breakpoint there.  The words of pending interrupts are neither assigned nor overwritten before they
are used: a request from before the reset is served once the guest clears its mask.  Nothing else
of the processor's past shows.
-/

namespace Exec09

open Program

variable {σ : Type}

/-! ## Sessions that begin with a reset -/

/-- The history starts here. -/
def Cpu.recordFromHere (s : Cpu σ) : Cpu σ := { s with simErrors := 0, hist := [] }

/-- A reset, and what happens after it. -/
def fromReset [Machine σ] (l : List (Action σ)) : M σ Unit := do
  modify Cpu.recordFromHere
  cpuReset
  runActions l

/-- Everything outside the processor is the same: memory and devices, the time the devices can
read, and the monitor's switch. -/
structure SameOutside (s t : Cpu σ) : Prop where
  world : s.world = t.world
  cycles : s.getCycles = t.getCycles
  monitorOn : s.monitorOn = t.monitorOn

/-- The registers, memory and the interrupt entries are the same. -/
structure SameProgress (s t : Cpu σ) : Prop where
  A : s.A = t.A
  B : s.B = t.B
  DP : s.DP = t.DP
  X : s.X = t.X
  Y : s.Y = t.Y
  U : s.U = t.U
  S : s.S = t.S
  PC : s.PC = t.PC
  cc : s.getCc = t.getCc
  world : s.world = t.world
  entries : s.hist.filter Event.isEntry = t.hist.filter Event.isEntry

/-- No run that begins with a reset tells the two states apart. -/
def ResetErases [Machine σ] (s t : Cpu σ) : Prop :=
  ∀ l : List (Action σ),
    Outcomes (fun _ _ s' t' => SameProgress s' t') (fromReset l s) (fromReset l t)

/-- The same interrupts are pending. -/
def SamePending (s t : Cpu σ) : Prop :=
  s.irqsPending = t.irqsPending ∧ s.firqsPending = t.firqsPending

/-- The fetch of the reset vector, during which `PC` still has its old value, is the same with
either: a read breakpoint there may have a condition on the register. -/
def SameFetch [Machine σ] (s t : Cpu σ) : Prop :=
  ∀ v : View, Machine.read16 { v with pc := s.getPc } s.world 0xfffe
    = Machine.read16 { v with pc := t.getPc } s.world 0xfffe

/-! ## A poll that is due on one side only -/

/-- The states look the same, and `cc_changed` differs at most while nothing is deliverable. -/
def Indistinct (s t : Cpu σ) : Prop :=
  Agree ⟨false, false, false⟩ s t ∧ (Agree Live.boundary s t ∨ s.Quiet)

lemma Agree.indistinct {s t : Cpu σ} (h : Agree Live.boundary s t) : Indistinct s t := by
  have h' := congrArg (fun o : Observation σ => { o with ccChanged := none }) h
  exact ⟨h', .inl h⟩

/-- What can be told of states that look the same. -/
lemma Agree.sameProgress {l : Live} {s t : Cpu σ} (h : Agree l s t) : SameProgress s t where
  A := congrArg Observation.A h
  B := congrArg Observation.B h
  DP := congrArg Observation.DP h
  X := congrArg Observation.X h
  Y := congrArg Observation.Y h
  U := congrArg Observation.U h
  S := congrArg Observation.S h
  PC := congrArg Observation.PC h
  cc := by rw [s.getCc_observe l, t.getCc_observe l, h]
  world := congrArg Observation.world h
  entries := congrArg (fun o : Observation σ => o.hist.filter Event.isEntry) h

/-- Assigning the condition codes raises `cc_changed` on both sides. -/
lemma Agree.setCc {s t : Cpu σ} (h : Agree ⟨false, false, false⟩ s t) (v : Unsigned) :
    Agree Live.boundary (s.setCc v) (t.setCc v) := by
  have h' := congrArg (fun o : Observation σ => { o.setCc v with ccChanged := some 1 }) h
  have look (u : Cpu σ) : (u.setCc v).observe Live.boundary
      = { (u.observe ⟨false, false, false⟩).setCc v with ccChanged := some 1 } := by
    rw [Observation.setCc, ← bits_flagsOfCc]
    rfl
  rw [Agree, look s, look t]
  exact h'

variable [Machine σ]

/-- Between two instructions only an assignment to the condition codes makes an interrupt
deliverable. -/
lemma Action.quiet_run {a : Action σ} (ha : a ≠ .insn) (hp : ∀ v, a ≠ .poke .cc v) {s t : Cpu σ}
    (h : a.run s = .ok ((), t)) (hs : s.Quiet) : t.Quiet := by
  have keep (hl : t.lines = s.lines) : t.Quiet := (Calm.keep s t hl).quiet hs
  cases a with
  | insn => exact absurd rfl ha
  | hook => exact (Calm.ofCore s t (keeps_access (fun _ => rfl) s _ t h)).quiet hs
  | irq =>
      obtain ⟨-, hi, -, hf, -⟩ := irqWith_spec calm_wrmem ramWrite_wrmem h
      exact ⟨Cpu.irqDeliverable_eq_false.mpr (.inl hi), hf hs.2⟩
  | firq =>
      obtain ⟨-, hf, hI, -⟩ := firqWith_spec calm_wrmem ramWrite_wrmem h
      exact ⟨Cpu.irqDeliverable_eq_false.mpr (.inr hI), Cpu.firqDeliverable_eq_false.mpr (.inl hf)⟩
  | requestIrq source =>
      exact (calm_requestIrqWith calm_wrmem ramWrite_wrmem source s _ t h).quiet hs
  | releaseIrq source => exact (calm_releaseIrq source s _ t h).quiet hs
  | requestFirq source =>
      exact (calm_requestFirqWith calm_wrmem ramWrite_wrmem source s _ t h).quiet hs
  | releaseFirq source => exact (calm_releaseFirq source s _ t h).quiet hs
  | poke r val =>
      cases r with
      | cc => exact absurd rfl (hp val)
      | _ =>
        cases h
        exact keep rfl
  | clock total period clk =>
      cases h
      exact keep rfl
  | world f =>
      cases h
      exact keep rfl

/-- One step of two runs side by side. -/
lemma Action.indistinct_run (a : Action σ) : Uniform Indistinct Indistinct a.run := by
  rintro s t ⟨h, hb | hs⟩
  · exact Outcomes.mono (fun _ _ _ _ hq => ⟨hq.1, hq.2.indistinct⟩) (a.uniform_run s t hb)
  by_cases ha : a = .insn
  · rw [ha]
    exact Outcomes.mono (fun _ _ _ _ hq => ⟨rfl, hq.indistinct⟩) (cpuInsn_quiet h hs)
  by_cases hp : ∃ v, a = .poke .cc v
  · obtain ⟨v, rfl⟩ := hp
    exact ⟨rfl, (h.setCc v).indistinct⟩
  · have quiet (b : Unit) (u : Cpu σ) (hu : a.run s = .ok (b, u)) : u.Quiet :=
      a.quiet_run ha (not_exists.mp hp) hu hs
    have both := (Action.blind_run ha _ s t h).and quiet fun _ _ _ => trivial
    exact both.mono fun _ _ _ _ hq => ⟨hq.1.1, hq.1.2, .inr hq.2.1⟩

lemma indistinct_runActions (l : List (Action σ)) : Uniform Indistinct Indistinct (runActions l) :=
  Uniform.forM Action.indistinct_run

/-! ## Reset -/

/-- The states look the same, whatever their `PC` is. -/
def AgreeButPC (s t : Cpu σ) : Prop :=
  Agree ⟨false, false, false⟩ { s with PC := 0 } { t with PC := 0 }

lemma fromReset_snoc {l : List (Action σ)} {s u : Cpu σ} {a : Action σ}
    (h : fromReset l s = .ok ((), u)) : fromReset (l ++ [a]) s = a.run u := by
  have split : fromReset (l ++ [a]) = (do fromReset l; a.run : M σ Unit) := by
    simp [fromReset, runActions, List.forM_append]
  rw [split, ok_bind h]

/-- The assignments of `cpu_reset`. -/
def Cpu.cleared (s : Cpu σ) : Cpu σ :=
  { s with
    X := 0, Y := 0, S := 0, U := 0, A := 0, B := 0, DP := 0
    flags := { H := 0, N := 0, Z := 1, OV := 0, C := 0 }
    EFI := F_FLAG ||| I_FLAG }

lemma cpuReset_eq : (cpuReset : M σ Unit) = (do
    modify Cpu.cleared
    wrPC (← read16 0xfffe)
    modify fun s => { s with world := Machine.cpuIsRunning s.world }) := rfl

omit [Machine σ] in
/-- What the reset leaves: the outside, the pending interrupts, and for the moment `PC`. -/
lemma agreeButPC_cleared {s t : Cpu σ} (h : SameOutside s t) (hp : SamePending s t) :
    AgreeButPC s.recordFromHere.cleared t.recordFromHere.cleared := by
  unfold AgreeButPC Agree Cpu.observe
  congr 1
  · exact h.cycles
  · exact hp.1
  · exact hp.2
  · exact h.monitorOn
  · exact h.world

lemma uniform_signal_butPC (x : Signal) : Uniform AgreeButPC AgreeButPC (signal x : M σ Unit) := by
  have update (g : Cpu σ → Cpu σ) (g' : Observation σ → Observation σ)
      (hg : ∀ s, ({ g s with PC := 0 } : Cpu σ).observe ⟨false, false, false⟩
        = g' (({ s with PC := 0 } : Cpu σ).observe ⟨false, false, false⟩)) :
      Uniform AgreeButPC AgreeButPC (modify g : M σ PUnit) := by
    refine Uniform.modify fun s t hst => ?_
    rw [AgreeButPC, Agree, hg, hg]
    exact congrArg g' hst
  cases x with
  | simError =>
      refine (update _ (fun o => { o with simErrors := o.simErrors + 1 }) fun _ => rfl).bind
        fun _ => Uniform.ite ?_ (Uniform.throw _)
      exact update _ (fun o => { o with monitorOn := true }) fun _ => rfl
  | monitor on => exact update _ (fun o => { o with monitorOn := on }) fun _ => rfl
  | exit code => exact Uniform.throw _

/-- The fetch answers alike. -/
lemma agreeButPC_read16 {s t : Cpu σ} {addr : Unsigned} (h : AgreeButPC s t)
    (hr : Machine.read16 s.view s.world addr = Machine.read16 t.view t.world addr) :
    Outcomes (fun v v' s' t' => v = v' ∧ AgreeButPC s' t') (read16 addr s) (read16 addr t) := by
  have report (r : Reply σ U16) : Uniform AgreeButPC AgreeButPC (do
      r.signals.forM signal
      return r.val : M σ U16) :=
    (Uniform.forM uniform_signal_butPC).bind fun _ => Uniform.pure _
  let answer (u : Cpu σ) : Except Exit (Reply σ U16 × Cpu σ) :=
    .ok (Machine.read16 u.view u.world addr,
      { u with world := (Machine.read16 u.view u.world addr).world })
  have same : Outcomes (fun r r' s' t' => r = r' ∧ AgreeButPC s' t') (answer s) (answer t) := by
    have h' := congrArg (fun o : Observation σ =>
      { o with world := (Machine.read16 s.view s.world addr).world }) h
    refine ⟨hr, h'.trans ?_⟩
    rw [hr]
    rfl
  exact Uniform.resume (fun v => Uniform.pure (v.setWidth 32)) (Uniform.resume report same)

/-- Reset makes states indistinct. -/
lemma indistinct_cpuReset {s t : Cpu σ} (h : SameOutside s t) (hf : SameFetch s t)
    (hp : SamePending s t) :
    Outcomes (fun _ _ s' t' => Indistinct s' t') (cpuReset s.recordFromHere)
      (cpuReset t.recordFromHere) := by
  have hr : Machine.read16 s.recordFromHere.cleared.view s.world 0xfffe
      = Machine.read16 t.recordFromHere.cleared.view t.world 0xfffe := by
    have hv : s.recordFromHere.cleared.view
        = { t.recordFromHere.cleared.view with pc := s.getPc } := by
      simp only [Cpu.view, View.mk.injEq]
      exact ⟨rfl, rfl, rfl, rfl, rfl, rfl, rfl, rfl, rfl, h.cycles⟩
    rw [hv, hf, h.world]
    rfl
  -- `PC` is assigned, and the processor is running
  have start (pc : Unsigned) : Uniform AgreeButPC (Agree ⟨false, false, false⟩) (do
      wrPC pc
      modify fun s => { s with world := Machine.cpuIsRunning s.world } : M σ Unit) := by
    have assign : Uniform AgreeButPC (Agree ⟨false, false, false⟩) (wrPC pc : M σ Unit) := by
      refine Uniform.modify fun s t hst => ?_
      have h' := congrArg (fun o : Observation σ => { o with PC := pc }) hst
      exact h'
    exact assign.bind fun _ =>
      Blind.modify (fun o => { o with world := Machine.cpuIsRunning o.world }) (fun _ _ => rfl) _
  have run := Uniform.resume start (agreeButPC_read16 (agreeButPC_cleared h hp) hr)
  have quiet (b : Unit) (u : Cpu σ) (hu : cpuReset s.recordFromHere = .ok (b, u)) : u.Quiet :=
    (quiet_cpuReset hu).1
  have both := Outcomes.and (x := cpuReset s.recordFromHere) run quiet fun _ _ _ => trivial
  exact both.mono fun _ _ _ _ hq => ⟨hq.1.2, .inr hq.2.1⟩

/-- Nothing but the pending interrupts outlives a reset. -/
lemma SamePending.resetErases {s t : Cpu σ} (hp : SamePending s t) (h : SameOutside s t)
    (hf : SameFetch s t) : ResetErases s t := by
  intro l
  refine Outcomes.bind (f := fun _ => runActions l) (k := fun _ => runActions l) ?_
    (indistinct_cpuReset h hf hp)
  intro _ _ s' t' hi
  exact Outcomes.mono (fun _ _ _ _ hq => hq.2.1.sameProgress) (indistinct_runActions l s' t' hi)

/-! ## The pending interrupts show -/

/-- Clear the bits of some sources. -/
def releaseAll (sources : List Nat) (pending : Unsigned) : Unsigned :=
  sources.foldl (fun p n => p &&& ~~~((1 : Unsigned) <<< BitVec.ofNat 32 n)) pending

lemma getLsbD_releaseAll {sources : List Nat} (h : ∀ n ∈ sources, n < 32) (p : Unsigned) (i : Nat) :
    (releaseAll sources p).getLsbD i = (p.getLsbD i && decide (i ∉ sources)) := by
  induction sources generalizing p with
  | nil => simp [releaseAll]
  | cons n l ih =>
    have hn : n < 32 := h n List.mem_cons_self
    have step : (p &&& ~~~((1 : Unsigned) <<< BitVec.ofNat 32 n)).getLsbD i
        = (p.getLsbD i && decide (i ≠ n)) := by
      by_cases hi : i < 32
      · simp [hi, Nat.mod_eq_of_lt (show n < 4294967296 by omega)]
        grind
      · simp [BitVec.getLsbD_of_ge p i (by omega)]
    have hl := ih (fun m hm => h m (List.mem_cons_of_mem _ hm))
      (p &&& ~~~((1 : Unsigned) <<< BitVec.ofNat 32 n))
    rw [step] at hl
    refine hl.trans ?_
    simp [Bool.and_assoc]

lemma releaseAll_eq_zero_iff {sources : List Nat} (h : ∀ n ∈ sources, n < 32) {p : Unsigned} :
    releaseAll sources p = 0 ↔ ∀ i < 32, i ∉ sources → p.getLsbD i = false := by
  constructor
  · intro h0 i hi hmem
    have hb := getLsbD_releaseAll h p i
    rw [h0, decide_eq_true hmem, Bool.and_true] at hb
    exact hb.symm.trans BitVec.getLsbD_zero
  · intro hb
    refine BitVec.eq_of_getLsbD_eq fun i hi => ?_
    rw [getLsbD_releaseAll h]
    by_cases hmem : i ∈ sources
    · simp [hmem]
    · simp [hmem, hb i hi hmem]

/-- Every source. -/
lemma releaseAll_range (p : Unsigned) : releaseAll (List.range 32) p = 0 :=
  (releaseAll_eq_zero_iff fun _ hn => List.mem_range.mp hn).mpr fun _ hi hmem =>
    absurd (List.mem_range.mpr hi) hmem

/-- Some sources clear one of two words and not the other. -/
lemma exists_releaseAll {p q : Unsigned} (h : p ≠ q) :
    ∃ sources, ¬(releaseAll sources p = 0 ↔ releaseAll sources q = 0) := by
  obtain ⟨k, hk, hpq⟩ : ∃ k, k < 32 ∧ p.getLsbD k ≠ q.getLsbD k := by
    by_contra hn
    refine h (BitVec.eq_of_getLsbD_eq fun i hi => ?_)
    by_contra hb
    exact hn ⟨i, hi, hb⟩
  -- every source but the one that differs
  let sources := (List.range 32).filter (· ≠ k)
  have hlt : ∀ n ∈ sources, n < 32 := fun n hn => List.mem_range.mp (List.mem_filter.mp hn).1
  have zero (x : Unsigned) : releaseAll sources x = 0 ↔ x.getLsbD k = false := by
    rw [releaseAll_eq_zero_iff hlt]
    constructor
    · exact fun hx => hx k hk (by simp [sources])
    · intro hx i hi hmem
      obtain rfl : i = k := by simpa [sources, hi] using hmem
      exact hx
  refine ⟨sources, fun hiff => hpq ?_⟩
  rw [zero, zero] at hiff
  exact Bool.eq_iff_iff.mpr (by simpa using not_congr hiff)

/-- A run up to a `NOP` behind which what is still pending is served: some sources are released, and
the masks are cleared. -/
def probe (irqs firqs : List Nat) : List (Action Flat) :=
  irqs.map (fun n => .releaseIrq (BitVec.ofNat 32 n))
    ++ firqs.map (fun n => .releaseFirq (BitVec.ofNat 32 n))
    ++ [.world fun _ _ => ⟨[(0, 0x12)]⟩, .poke .pc 0, .poke .cc 0]

/-- Actions that are plain updates. -/
lemma runActions_map {f : Nat → Action Flat} {g : Nat → Cpu Flat → Cpu Flat}
    (h : ∀ n u, (f n).run u = .ok ((), g n u)) (l : List Nat) (u : Cpu Flat) :
    runActions (l.map f) u = .ok ((), l.foldl (fun u n => g n u) u) := by
  induction l generalizing u with
  | nil => rfl
  | cons n l ih => exact (ok_bind (h n u)).trans (ih (g n u))

lemma foldl_same {β : Type} {g : Nat → Cpu Flat → Cpu Flat} {p : Cpu Flat → β}
    (h : ∀ n u, p (g n u) = p u) (l : List Nat) (u : Cpu Flat) :
    p (l.foldl (fun u n => g n u) u) = p u := by
  induction l generalizing u with
  | nil => rfl
  | cons n l ih => exact (ih (g n u)).trans (h n u)

/-- `release_irq`, as an update. -/
def Cpu.releasedIrq (n : Nat) (u : Cpu Flat) : Cpu Flat :=
  { u with
    irqsPending := u.irqsPending &&& ~~~((1 : Unsigned) <<< BitVec.ofNat 32 n)
    hist := .releasedIrq :: u.hist }

/-- `release_firq`, as an update. -/
def Cpu.releasedFirq (n : Nat) (u : Cpu Flat) : Cpu Flat :=
  { u with
    firqsPending := u.firqsPending &&& ~~~((1 : Unsigned) <<< BitVec.ofNat 32 n)
    hist := .releasedFirq :: u.hist }

/-- The probe runs, whatever came before the reset. -/
lemma probe_ok (irqs firqs : List Nat) (s : Cpu Flat) :
    ∃ u, fromReset (probe irqs firqs) s = .ok ((), u) ∧ u.world = ⟨[(0, 0x12)]⟩ ∧ u.PC = 0 ∧
      u.EFI = 0 ∧ u.ccChanged = 1 ∧ u.irqsPending = releaseAll irqs s.irqsPending ∧
      u.firqsPending = releaseAll firqs s.firqsPending ∧ u.hist.filter Event.isEntry = [] := by
  obtain ⟨u₀, h₀, hi₀, hf₀, hh₀⟩ : ∃ u₀, cpuReset s.recordFromHere = .ok ((), u₀) ∧
      u₀.irqsPending = s.irqsPending ∧ u₀.firqsPending = s.firqsPending ∧ u₀.hist = [] :=
    ⟨_, rfl, rfl, rfl, rfl⟩
  let u₁ := irqs.foldl (fun u n => u.releasedIrq n) u₀
  let u₂ := firqs.foldl (fun u n => u.releasedFirq n) u₁
  have h₁ : runActions (irqs.map fun n => .releaseIrq (BitVec.ofNat 32 n)) u₀ = .ok ((), u₁) :=
    runActions_map (fun _ _ => rfl) irqs u₀
  have h₂ : runActions (firqs.map fun n => .releaseFirq (BitVec.ofNat 32 n)) u₁ = .ok ((), u₂) :=
    runActions_map (fun _ _ => rfl) firqs u₁
  refine ⟨(({ u₂ with world := ⟨[(0, 0x12)]⟩ } : Cpu Flat).setPc 0).setCc 0, ?_, rfl, rfl, rfl, rfl,
    ?_, ?_, ?_⟩
  · change (do cpuReset; runActions (probe irqs firqs) : M Flat Unit) s.recordFromHere = _
    rw [ok_bind h₀, probe, runActions, List.forM_eq_forM, List.forM_append, List.forM_append]
    exact (ok_bind ((ok_bind h₁).trans h₂)).trans rfl
  · have h : u₂.irqsPending = u₁.irqsPending :=
      foldl_same (g := Cpu.releasedFirq) (p := Cpu.irqsPending) (fun _ _ => rfl) firqs u₁
    rw [← hi₀]
    exact h.trans (List.foldl_hom Cpu.irqsPending fun _ _ => rfl).symm
  · have h : u₁.firqsPending = u₀.firqsPending :=
      foldl_same (g := Cpu.releasedIrq) (p := Cpu.firqsPending) (fun _ _ => rfl) irqs u₀
    rw [← hf₀, ← h]
    exact (List.foldl_hom Cpu.firqsPending fun _ _ => rfl).symm
  · let entries (u : Cpu Flat) : List Event := u.hist.filter Event.isEntry
    have h₂' : entries u₂ = entries u₁ :=
      foldl_same (g := Cpu.releasedFirq) (p := entries) (fun _ _ => rfl) firqs u₁
    have h₁' : entries u₁ = entries u₀ :=
      foldl_same (g := Cpu.releasedIrq) (p := entries) (fun _ _ => rfl) irqs u₀
    exact (h₂'.trans h₁').trans (congrArg (List.filter Event.isEntry) hh₀)

/-- A `NOP` at address 0. -/
lemma cpuBody_nop {u : Cpu Flat} (hw : u.world = ⟨[(0, 0x12)]⟩) (hp : u.PC = 0) :
    cpuBody u = .ok (.nop, { u with iPC := 0, PC := 1, cpuClk := u.cpuClk - 2 }) := by
  obtain ⟨X, Y, S, U, PC, A, B, DP, fl, EFI, iPC, ea, clk, per, tot, ip, fp, cc, mo, w, se, h⟩ := u
  subst hw hp
  rfl

/-- Before a `NOP`, with the masks just cleared and no interrupt entered yet. -/
structure AtNop (u : Cpu Flat) : Prop where
  world : u.world = ⟨[(0, 0x12)]⟩
  PC : u.PC = 0
  EFI : u.EFI = 0
  ccChanged : u.ccChanged = 1
  entries : u.hist.filter Event.isEntry = []

namespace AtNop

variable {u : Cpu Flat}

/-- The `NOP` itself. -/
def done (u : Cpu Flat) : Cpu Flat := { u with iPC := 0, PC := 1, cpuClk := u.cpuClk - 2 }

lemma cpuInsn_eq_check (h : AtNop u) : cpuInsn u = ccCheck (done u) := by
  rw [cpuInsn_eq_body]
  exact ok_bind (cpuBody_nop h.world h.PC)

/-- Without a pending interrupt nothing else happens. -/
lemma passed (h : AtNop u) (hi : u.irqsPending = 0) (hf : u.firqsPending = 0) :
    ∃ v, cpuInsn u = .ok ((), v) ∧ v.hist.filter Event.isEntry = [] := by
  have hq : (done u).Quiet :=
    ⟨Cpu.irqDeliverable_eq_false.mpr (.inl hi), Cpu.firqDeliverable_eq_false.mpr (.inl hf)⟩
  rw [h.cpuInsn_eq_check, ccCheck_eq_ccModified (.inr hq), ccModified_quiet hq]
  exact ⟨_, rfl, h.entries⟩

/-- A pending interrupt is served. -/
lemma entered (h : AtNop u) (hp : u.irqsPending ≠ 0 ∨ u.firqsPending ≠ 0) {v : Cpu Flat}
    (hv : cpuInsn u = .ok ((), v)) : ∃ e ∈ v.hist, e.isEntry = true := by
  rw [h.cpuInsn_eq_check] at hv
  have hE : (done u).EFI = 0 := h.EFI
  obtain ⟨h0, -⟩ | ⟨-, w, hw, rfl⟩ := ccCheck_eq_ok hv
  · exact absurd (h.ccChanged.symm.trans h0) (by decide)
  obtain ⟨-, hx⟩ | ⟨-, -, hx⟩ | ⟨hq, -⟩ := pollLines_eq_ok hw
  · obtain ⟨-, -, -, -, es, he, -⟩ := firqWith_spec calm_wrmem ramWrite_wrmem hx
    exact ⟨.firq (done u).snapshot, by simp [he], rfl⟩
  · obtain ⟨-, -, -, -, es, he, -⟩ := irqWith_spec calm_wrmem ramWrite_wrmem hx
    exact ⟨.irq (done u).snapshot, by simp [he], rfl⟩
  · -- the poll found nothing, so nothing was pending
    exfalso
    rcases hp with hp | hp
    · obtain h0 | h0 := Cpu.irqDeliverable_eq_false.mp hq.1
      · exact hp h0
      · rw [hE] at h0
        exact h0 (by decide)
    · obtain h0 | h0 := Cpu.firqDeliverable_eq_false.mp hq.2
      · exact hp h0
      · rw [hE] at h0
        exact h0 (by decide)

/-- One side serves an interrupt, the other has none. -/
lemma told_apart {t : Cpu Flat} (hs : AtNop u) (ht : AtNop t)
    (hp : u.irqsPending ≠ 0 ∨ u.firqsPending ≠ 0) (hi : t.irqsPending = 0)
    (hf : t.firqsPending = 0) :
    ¬Outcomes (fun _ _ s' t' => SameProgress s' t') (cpuInsn u) (cpuInsn t) := by
  intro h
  obtain ⟨v, hv, hve⟩ := ht.passed hi hf
  rw [hv] at h
  rcases hx : cpuInsn u with e | ⟨_, w⟩
  · rw [hx] at h
    exact h
  · rw [hx] at h
    obtain ⟨e, hmem, hE⟩ := hs.entered hp hx
    have hmem' : e ∈ w.hist.filter Event.isEntry := List.mem_filter.mpr ⟨hmem, hE⟩
    rw [h.entries, hve] at hmem'
    exact absurd hmem' List.not_mem_nil

end AtNop

/-! ## What a reset erases -/

lemma SameProgress.symm {σ : Type} {s t : Cpu σ} (h : SameProgress s t) : SameProgress t s where
  A := h.A.symm
  B := h.B.symm
  DP := h.DP.symm
  X := h.X.symm
  Y := h.Y.symm
  U := h.U.symm
  S := h.S.symm
  PC := h.PC.symm
  cc := h.cc.symm
  world := h.world.symm
  entries := h.entries.symm

namespace ResetErases

lemma symm {s t : Cpu σ} (h : ResetErases s t) : ResetErases t s :=
  fun l => Outcomes.symm (fun _ _ _ _ hq => hq.symm) (h l)

lemma progress {s t s' t' : Cpu σ} (h : ResetErases s t) {l : List (Action σ)}
    (hs : fromReset l s = .ok ((), s')) (ht : fromReset l t = .ok ((), t')) :
    SameProgress s' t' := by
  have run := h l
  rw [hs, ht] at run
  exact run

variable {s t : Cpu Flat}

/-- Sources that clear one side's words clear the other's. -/
lemma releaseAll_eq_zero (h : ResetErases s t) {irqs firqs : List Nat}
    (hi : releaseAll irqs t.irqsPending = 0) (hf : releaseAll firqs t.firqsPending = 0) :
    releaseAll irqs s.irqsPending = 0 ∧ releaseAll firqs s.firqsPending = 0 := by
  obtain ⟨u, hu, hw, hp, hE, hc, hui, huf, he⟩ := probe_ok irqs firqs s
  obtain ⟨v, hv, hw', hp', hE', hc', hvi, hvf, he'⟩ := probe_ok irqs firqs t
  have run := h (probe irqs firqs ++ [.insn])
  rw [fromReset_snoc hu, fromReset_snoc hv] at run
  by_contra hn
  refine AtNop.told_apart ⟨hw, hp, hE, hc, he⟩ ⟨hw', hp', hE', hc', he'⟩ ?_ (hvi.trans hi)
    (hvf.trans hf) run
  rw [hui, huf]
  exact not_and_or.mp hn

/-- On the smallest machine every pending interrupt shows: release all others and clear the
masks. -/
lemma samePending (h : ResetErases s t) : SamePending s t := by
  have all (u : Cpu Flat) : releaseAll (List.range 32) u.irqsPending = 0 ∧
      releaseAll (List.range 32) u.firqsPending = 0 :=
    ⟨releaseAll_range _, releaseAll_range _⟩
  constructor
  · by_contra hne
    obtain ⟨sources, hn⟩ := exists_releaseAll hne
    exact hn ⟨fun hs => (h.symm.releaseAll_eq_zero hs (all s).2).1,
      fun ht => (h.releaseAll_eq_zero ht (all t).2).1⟩
  · by_contra hne
    obtain ⟨sources, hn⟩ := exists_releaseAll hne
    exact hn ⟨fun hs => (h.symm.releaseAll_eq_zero (all s).1 hs).2,
      fun ht => (h.releaseAll_eq_zero (all t).1 ht).2⟩

end ResetErases

/-- **Nothing but the pending interrupts outlives a reset.**  States with the same pending
interrupts, and everything outside the processor the same, go on alike after a reset, whatever
happens then; on the smallest machine no other states do. -/
theorem reset_erases_all_but_pending {s t : Cpu σ} (h : SameOutside s t) (hf : SameFetch s t) :
    (SamePending s t → ResetErases s t) ∧
      ∀ s t : Cpu Flat, SameOutside s t → (ResetErases s t ↔ SamePending s t) :=
  ⟨fun hp => hp.resetErases h hf, fun _ _ h =>
    ⟨fun he => he.samePending, fun hp => hp.resetErases h fun _ => rfl⟩⟩

/-- A processor with a past, but no pending interrupt. -/
def withPast : Cpu Flat :=
  { Cpu.zeroed ⟨[]⟩ with A := 0x5a, S := 0x8000, EFI := E_FLAG, ccChanged := 1 }

/-- The general statement at a fresh processor and one with a past. -/
theorem reset_erases_all_but_pending_past : ResetErases (Cpu.zeroed ⟨[]⟩) withPast :=
  have outside : SameOutside (Cpu.zeroed ⟨[]⟩) withPast := ⟨by decide, by decide, by decide⟩
  have fetch : SameFetch (Cpu.zeroed ⟨[]⟩) withPast := fun _ => rfl
  (reset_erases_all_but_pending outside fetch).1 ⟨by decide, by decide⟩

/-- `ANDCC #$EF` at the reset vector. -/
def unmasking : Flat := ⟨Flat.bytes 0x1000 [0x1c, 0xef] ++ [(0xfffe, 0x10)]⟩

/-- Just reset. -/
def justReset : Cpu Flat := after cpuReset (Cpu.zeroed unmasking)

/-- Just reset, and then an IRQ was requested, which is masked. -/
def justRequested : Cpu Flat := after (requestIrq 0) justReset

/-- A request from before a second reset is served after it, at the first `ANDCC`. -/
theorem old_request_served :
    SameOutside justReset justRequested ∧ ¬ResetErases justReset justRequested := by
  have ok : result (fromReset [.insn]) justReset = some () := by decide +kernel
  have ok' : result (fromReset [.insn]) justRequested = some () := by decide +kernel
  have world : justReset.world = justRequested.world := by decide +kernel
  have cycles : justReset.getCycles = justRequested.getCycles := by decide +kernel
  have monitor : justReset.monitorOn = justRequested.monitorOn := by decide +kernel
  refine ⟨⟨world, cycles, monitor⟩, fun h => ?_⟩
  have hPC := (h.progress (eq_ok_after ok) (eq_ok_after ok')).PC
  exact absurd hPC (by decide +kernel)

end Exec09
