import Mathlib
import Exec09.Cpu.Flat
import Exec09.Properties.CcEncoding
import Exec09.Properties.Costs

/-!
# Cycle accounting

`cpu_execute` runs instructions until their costs use up the budget, and the main loop adds what
it returns to `total`.  `Runs` is a stretch of iterations in which the monitor is not entered and
no instruction calls `sim_error`, with the cost of each.  The loop runs the shortest stretch that
spends the budget, `get_cycles` counts the costs without a jump at the end of a slice, and a
stretch does not depend on how the time is cut.
-/

namespace Exec09

open Program

variable {σ : Type}

/-! ## Stretches of iterations -/

/-- The state in which `cpu_execute` enters its loop. -/
def Cpu.grant (c : Int) (s : Cpu σ) : Cpu σ := { s with cpuPeriod := c, cpuClk := c }

variable [Machine σ]

/-- One iteration in which the monitor is not entered and the instruction does not call
`sim_error`, and the cost of the instruction. -/
def Iterates (s : Cpu σ) (cost : Int) (t : Cpu σ) : Prop :=
  ∃ h, insnHook s = .ok ((), h) ∧ h.monitorOn = false ∧ cpuInsn h = .ok ((), t) ∧
    t.simErrors = h.simErrors ∧ cost = h.cpuClk - t.cpuClk

/-- Iterations one after the other, with their costs. -/
inductive Runs : Cpu σ → List Int → Cpu σ → Prop
  | nil (s : Cpu σ) : Runs s [] s
  | cons {s m t : Cpu σ} {k : Int} {ks : List Int} (h : Iterates s k m) (r : Runs m ks t) :
      Runs s (k :: ks) t

/-- The iteration from `s` does not enter the monitor, and if it returns the instruction has not
called `sim_error`. -/
def Smooth (s : Cpu σ) : Prop :=
  ∀ h, insnHook s = .ok ((), h) → h.monitorOn = false ∧
    ∀ t, cpuInsn h = .ok ((), t) → t.simErrors = h.simErrors

/-- The loop goes on after these costs: nothing has run yet or the budget is not used up. -/
def Unspent (c : Int) (ks : List Int) : Prop := ks = [] ∨ ks.sum < c

/-- Every iteration that `cpu_execute (c)` gets to is smooth. -/
def SmoothSlice (c : Int) (s : Cpu σ) : Prop :=
  ∀ ks t, Runs (s.grant c) ks t → Unspent c ks → Smooth t

/-- The costs add up to the budget, and those of no shorter stretch do. -/
def Spends (c : Int) (ks : List Int) : Prop :=
  ks ≠ [] ∧ c ≤ ks.sum ∧ ∀ j, 1 ≤ j → j < ks.length → (ks.take j).sum < c

lemma free_insnHook : Steps Free (insnHook : M σ Unit) := free_access _

lemma Iterates.charged {s t : Cpu σ} {k : Int} (h : Iterates s k t) :
    t.cpuClk = s.cpuClk - k ∧ t.account = s.account ∧ 2 ≤ k ∧ k ≤ 20 := by
  obtain ⟨m, hh, -, hi, he, rfl⟩ := h
  obtain ⟨-, hc, hp⟩ := free_insnHook _ _ _ hh
  obtain ⟨-, hp', hk⟩ := charges_cpuInsn _ _ _ hi
  have := hk he
  exact ⟨by omega, hp'.trans hp, this.1, this.2⟩

lemma Runs.charged {s t : Cpu σ} {ks : List Int} (h : Runs s ks t) :
    t.cpuClk = s.cpuClk - ks.sum ∧ t.account = s.account ∧ ∀ k ∈ ks, 2 ≤ k ∧ k ≤ 20 := by
  induction h with
  | nil s => simp
  | cons h r ih =>
      obtain ⟨hc, hp, hk⟩ := h.charged
      obtain ⟨hc', hp', hks⟩ := ih
      refine ⟨by rw [hc', hc, List.sum_cons]; omega, hp'.trans hp, ?_⟩
      intro k' hk'
      obtain rfl | hk' := List.mem_cons.mp hk'
      · exact hk
      · exact hks k' hk'

lemma Runs.sum_nonneg {s t : Cpu σ} {ks : List Int} (h : Runs s ks t) : 0 ≤ ks.sum := by
  refine List.sum_nonneg fun k hk => ?_
  have := (h.charged.2.2 k hk).1
  omega

lemma Runs.append {s t u : Cpu σ} {ks ls : List Int} (h : Runs s ks t) (h' : Runs t ls u) :
    Runs s (ks ++ ls) u := by
  induction h with
  | nil s => exact h'
  | cons h r ih => exact .cons h (ih h')

/-- Iterations are deterministic: of two stretches from one state one continues the other. -/
lemma Runs.continues {s t : Cpu σ} {ks : List Int} (h : Runs s ks t) {ls : List Int} {u : Cpu σ}
    (h' : Runs s ls u) (hl : ks.length ≤ ls.length) : ∃ rest, ls = ks ++ rest ∧ Runs t rest u := by
  induction h generalizing ls with
  | nil s => exact ⟨ls, rfl, h'⟩
  | cons h r ih =>
      obtain ⟨m, hh, -, hi, -, rfl⟩ := h
      cases h' with
      | nil => simp at hl
      | cons h₂ r₂ =>
          obtain ⟨m₂, hh₂, -, hi₂, -, rfl⟩ := h₂
          cases hh.symm.trans hh₂
          cases hi.symm.trans hi₂
          obtain ⟨rest, rfl, hr⟩ := ih r₂ (by simpa using hl)
          exact ⟨rest, rfl, hr⟩

/-! ## The loop -/

section Loop

variable (monitor6809 : M σ Bool)

lemma cpuIteration_of_iterates {s t : Cpu σ} {k : Int} (h : Iterates s k t) :
    cpuIteration monitor6809 s = .ok (true, t) := by
  obtain ⟨m, hh, hm, hi, -, -⟩ := h
  rw [cpuIteration, ok_bind hh, ok_bind (reads_apply Cpu.monitorOn m), hm]
  simp only [Bool.false_eq_true, if_false]
  rw [ok_bind (pure_apply false m)]
  simp only [Bool.false_eq_true, if_false]
  rw [ok_bind hi]
  rfl

/-- A smooth iteration ends the process or is one of a stretch. -/
lemma Smooth.iterates {s : Cpu σ} (h : Smooth s) :
    (∃ e, cpuIteration monitor6809 s = .error e) ∨ ∃ k t, Iterates s k t := by
  rcases hh : insnHook s with e | ⟨_, m⟩
  · left
    exact ⟨e, by rw [cpuIteration, bind_apply, hh]; rfl⟩
  obtain ⟨hm, he⟩ := h m hh
  rcases hi : cpuInsn m with e | ⟨_, t⟩
  · left
    refine ⟨e, ?_⟩
    rw [cpuIteration, ok_bind hh, ok_bind (reads_apply Cpu.monitorOn m), hm]
    simp only [Bool.false_eq_true, if_false]
    rw [ok_bind (pure_apply false m)]
    simp only [Bool.false_eq_true, if_false]
    rw [bind_apply, hi]
    rfl
  · exact .inr ⟨_, t, m, hh, hm, hi, he t hi, rfl⟩

/-- While the budget lasts the loop goes on. -/
lemma cpuLoop_of_runs {s t : Cpu σ} {ks : List Int} (h : Runs s ks t)
    (hu : Unspent s.cpuClk ks) (n : Nat) :
    cpuLoop monitor6809 (ks.length + n) s = cpuLoop monitor6809 n t := by
  induction h with
  | nil s => simp
  | @cons s m t k ks h r ih =>
      obtain ⟨hc, -, -, -⟩ := h.charged
      have hsum : k + ks.sum < s.cpuClk := by simpa [Unspent] using hu
      have hpos := r.sum_nonneg
      rw [List.length_cons, Nat.add_right_comm, cpuLoop,
        ok_bind (cpuIteration_of_iterates monitor6809 h)]
      simp only [if_true]
      rw [ok_bind (reads_apply Cpu.cpuClk m), if_pos (by omega)]
      exact ih (.inr (by omega))

/-- The iteration that spends the budget is the last one. -/
lemma cpuLoop_last {s t : Cpu σ} {k : Int} (h : Iterates s k t) (hk : s.cpuClk ≤ k) (n : Nat) :
    cpuLoop monitor6809 (n + 1) s = .ok (some (), t) := by
  obtain ⟨hc, -, -, -⟩ := h.charged
  rw [cpuLoop, ok_bind (cpuIteration_of_iterates monitor6809 h)]
  simp only [if_true]
  rw [ok_bind (reads_apply Cpu.cpuClk t), if_neg (by omega)]
  rfl

lemma cpuLoop_error {s : Cpu σ} {e : Exit} (h : cpuIteration monitor6809 s = .error e) (n : Nat) :
    cpuLoop monitor6809 (n + 1) s = .error e := by
  rw [cpuLoop, bind_apply, h]
  rfl

/-- The loop reaches an iteration that ends the process or spends the budget, and it does so within
half as many iterations as there are cycles. -/
lemma exists_last (n : Nat) : ∀ s : Cpu σ, s.cpuClk ≤ 2 * (n + 1) →
    (∀ ks t, Runs s ks t → Unspent s.cpuClk ks → Smooth t) →
    ∃ ks t, Runs s ks t ∧ Unspent s.cpuClk ks ∧ ks.length ≤ n ∧
      ((∃ e, cpuIteration monitor6809 t = .error e) ∨ ∃ k u, Iterates t k u ∧ t.cpuClk ≤ k) := by
  induction n with
  | zero =>
      intro s hs hsm
      refine ⟨[], s, .nil s, .inl rfl, le_rfl, ?_⟩
      obtain he | ⟨k, u, hk⟩ := (hsm [] s (.nil s) (.inl rfl)).iterates monitor6809
      · exact .inl he
      · have := hk.charged
        exact .inr ⟨k, u, hk, by omega⟩
  | succ n ih =>
      intro s hs hsm
      obtain he | ⟨k, m, hk⟩ := (hsm [] s (.nil s) (.inl rfl)).iterates monitor6809
      · exact ⟨[], s, .nil s, .inl rfl, Nat.zero_le _, .inl he⟩
      by_cases hlast : s.cpuClk ≤ k
      · exact ⟨[], s, .nil s, .inl rfl, Nat.zero_le _, .inr ⟨k, m, hk, hlast⟩⟩
      obtain ⟨hc, -, hlo, -⟩ := hk.charged
      have unspent {ks : List Int} (hu : Unspent m.cpuClk ks) : Unspent s.cpuClk (k :: ks) := by
        right
        rw [List.sum_cons]
        obtain rfl | hu := hu
        · simp only [List.sum_nil]
          omega
        · omega
      obtain ⟨ks, t, hr, hu, hl, hend⟩ := ih m (by omega) fun ks t hr hu =>
        hsm (k :: ks) t (.cons hk hr) (unspent hu)
      exact ⟨k :: ks, t, .cons hk hr, unspent hu, by simpa using hl, hend⟩

end Loop

/-! ## One call of `cpu_execute` -/

/-- The largest `int`. -/
abbrev INT_MAX : Int := 2147483647

lemma toInt_eq {v : Int} (h₀ : 0 ≤ v) (h : v ≤ INT_MAX) : toInt v = v := by
  have h' : v ≤ 2147483647 := h
  rw [toInt, Int.bmod_eq_of_le] <;> omega

omit [Machine σ] in
/-- The assignments at `cpu_exit`. -/
def Cpu.exited (t : Cpu σ) : Cpu σ :=
  { t with cpuPeriod := t.cpuPeriod - t.cpuClk, cpuClk := t.cpuPeriod - t.cpuClk }

lemma spends_last {s t u : Cpu σ} {ks : List Int} {k : Int} (h : Runs s ks t)
    (hu : Unspent s.cpuClk ks) (hk : Iterates t k u) (hl : t.cpuClk ≤ k) :
    Runs s (ks ++ [k]) u ∧ Spends s.cpuClk (ks ++ [k]) ∧
      (ks ++ [k]).sum ≤ max 20 (s.cpuClk + 19) := by
  obtain ⟨hc, -, hall⟩ := h.charged
  obtain ⟨-, -, hlo, hhi⟩ := hk.charged
  have hsum : (ks ++ [k]).sum = ks.sum + k := by simp
  refine ⟨h.append (.cons hk (.nil u)), ⟨by simp, by omega, fun j hj hlen => ?_⟩, ?_⟩
  · have hle : j ≤ ks.length := by simpa [Nat.lt_succ_iff] using hlen
    rw [List.take_append_of_le_length hle]
    have hlt : ks.sum < s.cpuClk := by
      obtain rfl | hu := hu
      · simp only [List.length_nil] at hle
        omega
      · exact hu
    have hdrop : 0 ≤ (ks.drop j).sum := List.sum_nonneg fun x hx => by
      have := (hall x (List.mem_of_mem_drop hx)).1
      omega
    have hsplit : ks.sum = (ks.take j).sum + (ks.drop j).sum := by
      rw [← List.sum_append, List.take_append_drop]
    omega
  · obtain rfl | hu := hu
    · simp only [List.nil_append, List.sum_cons, List.sum_nil]
      omega
    · omega

section Loop

variable (monitor6809 : M σ Bool)

lemma cpuExecute_of_loop {fuel : Nat} {c : Int} {s t : Cpu σ}
    (h : cpuLoop monitor6809 fuel (s.grant c) = .ok (some (), t)) :
    cpuExecute monitor6809 fuel c s =
      .ok (some (toInt (t.cpuPeriod - t.cpuClk)), t.exited) := by
  have hm : (modify fun s : Cpu σ => { s with cpuPeriod := c, cpuClk := c } : M σ PUnit) s =
      .ok (⟨⟩, s.grant c) := rfl
  rw [cpuExecute, ok_bind hm, ok_bind h]
  rfl

/-- **`cpu_execute (c)` runs the shortest stretch of instructions that spends the budget and
returns its cost.** -/
lemma cpuExecute_spec {fuel : Nat} {c : Int} {s : Cpu σ} (hfuel : 1 ≤ fuel) (hc : c ≤ 2 * fuel)
    (hs : SmoothSlice c s) :
    (∃ e, cpuExecute monitor6809 fuel c s = .error e) ∨
    ∃ ks t, Runs (s.grant c) ks t ∧ Spends c ks ∧ ks.sum ≤ max 20 (c + 19) ∧
      cpuExecute monitor6809 fuel c s = .ok (some (toInt ks.sum), t.exited) := by
  obtain ⟨n, rfl⟩ := Nat.exists_eq_add_of_le' hfuel
  obtain ⟨ks, t, hr, hu, hl, hend⟩ := exists_last monitor6809 n (s.grant c) (by
    change c ≤ _
    omega) hs
  obtain ⟨j, rfl⟩ := Nat.exists_eq_add_of_le hl
  obtain ⟨e, he⟩ | ⟨k, u, hk, hlast⟩ := hend
  · left
    have hloop : cpuLoop monitor6809 (ks.length + j + 1) (s.grant c) = .error e := by
      rw [Nat.add_assoc, cpuLoop_of_runs monitor6809 hr hu, cpuLoop_error monitor6809 he]
    refine ⟨e, ?_⟩
    have hm : (modify fun s : Cpu σ => { s with cpuPeriod := c, cpuClk := c } : M σ PUnit) s =
        .ok (⟨⟩, s.grant c) := rfl
    rw [cpuExecute, ok_bind hm, bind_apply, hloop]
    rfl
  · right
    obtain ⟨hr', hsp, hmax⟩ := spends_last hr hu hk hlast
    have hloop : cpuLoop monitor6809 (ks.length + j + 1) (s.grant c) = .ok (some (), u) := by
      rw [Nat.add_assoc, cpuLoop_of_runs monitor6809 hr hu, cpuLoop_last monitor6809 hk hlast]
    refine ⟨ks ++ [k], u, hr', hsp, hmax, ?_⟩
    obtain ⟨hclk, hacc, -⟩ := hr'.charged
    have hp : u.cpuPeriod = c := congrArg Prod.fst hacc
    have hq : u.cpuClk = c - (ks ++ [k]).sum := hclk
    rw [cpuExecute_of_loop monitor6809 hloop, hp, hq, Int.sub_sub_self]

end Loop

/-! ## `get_cycles` -/

lemma Runs.getCycles {s t : Cpu σ} {ks : List Int} (h : Runs s ks t) :
    t.getCycles = s.getCycles + BitVec.ofInt 64 ks.sum := by
  obtain ⟨hc, hp, -⟩ := h.charged
  simp only [Cpu.account, Prod.mk.injEq] at hp
  rw [Cpu.getCycles, Cpu.getCycles, hc, hp.1, hp.2, BitVec.add_assoc, ← BitVec.ofInt_add]
  congr 2
  omega

omit [Machine σ] in
/-- With no slice under way `get_cycles` is `total`. -/
lemma Cpu.getCycles_idle {s : Cpu σ} (h : s.cpuPeriod = s.cpuClk) : s.getCycles = s.total := by
  rw [Cpu.getCycles, h, Int.sub_self]
  exact BitVec.add_zero _

omit [Machine σ] in
/-- After `total += cpu_execute (c)`. -/
def Cpu.settled (t : Cpu σ) : Cpu σ :=
  { t.exited with total := t.total + BitVec.ofInt 64 (toInt (t.cpuPeriod - t.cpuClk)) }

/-- A slice ends without a jump of `get_cycles`. -/
lemma getCycles_settled {s t : Cpu σ} {c : Int} {ks : List Int} (h : Runs (s.grant c) ks t)
    (hmax : ks.sum ≤ INT_MAX) : t.settled.getCycles = t.getCycles := by
  obtain ⟨hclk, hacc, -⟩ := h.charged
  have hp : t.cpuPeriod = c := congrArg Prod.fst hacc
  have hq : t.cpuClk = c - ks.sum := hclk
  have hi : toInt (t.cpuPeriod - t.cpuClk) = t.cpuPeriod - t.cpuClk :=
    toInt_eq (by rw [hp, hq, Int.sub_sub_self]; exact h.sum_nonneg)
      (by rw [hp, hq, Int.sub_sub_self]; exact hmax)
  rw [Cpu.getCycles_idle rfl, Cpu.settled, hi]
  rfl

/-! ## The main loop -/

omit [Machine σ] in
/-- The actions that neither run an instruction nor set the clock. -/
def Action.Timeless : Action σ → Bool
  | .insn => false
  | .clock _ _ _ => false
  | _ => true

lemma Action.free_run {a : Action σ} (ha : a.Timeless = true) : Steps Free a.run := by
  cases a with
  | insn => cases ha
  | hook => exact free_insnHook
  | irq => exact free_irqWith free_wrmem
  | firq => exact free_firqWith free_wrmem
  | requestIrq source => exact free_effectWith free_wrmem (.requestIrq source)
  | releaseIrq source => exact free_effectWith free_wrmem (.releaseIrq source)
  | requestFirq source => exact free_effectWith free_wrmem (.requestFirq source)
  | releaseFirq source => exact free_effectWith free_wrmem (.releaseFirq source)
  | poke r val => exact Steps.modify fun s => by cases r <;> exact Free.of_meter rfl
  | clock total period clk => cases ha
  | world f => exact free_modify fun _ => rfl

omit [Machine σ] in
lemma Free.getCycles {s t : Cpu σ} (h : Free s t) :
    t.getCycles = s.getCycles ∧ (s.cpuPeriod = s.cpuClk → t.cpuPeriod = t.cpuClk) := by
  have hp : t.cpuPeriod = s.cpuPeriod := congrArg Prod.fst h.account
  have ht : t.total = s.total := congrArg Prod.snd h.account
  refine ⟨by rw [Cpu.getCycles, Cpu.getCycles, hp, ht, h.clk], fun hs => ?_⟩
  rw [hp, h.clk, hs]

/-- Iterations of the main loop, with the costs of all the instructions they run. -/
inductive Sliced : List (Int × List (Action σ)) → Cpu σ → List Int → Cpu σ → Prop
  | nil (s : Cpu σ) : Sliced [] s [] s
  | cons {s m v t : Cpu σ} {c : Int} {l : List (Action σ)} {ks ls : List Int}
      {rest : List (Int × List (Action σ))} (r : Runs (s.grant c) ks m) (sp : Spends c ks)
      (hl : runActions l m.settled = .ok ((), v)) (tail : Sliced rest v ls t) :
      Sliced ((c, l) :: rest) s (ks ++ ls) t

/-- A budget that leaves room for the last instruction in an `int`. -/
def Budget (c : Int) : Prop := c + 19 ≤ INT_MAX

instance (c : Int) : Decidable (Budget c) := inferInstanceAs (Decidable (_ ≤ _))

lemma Spends.le_max {s t : Cpu σ} {c : Int} {ks : List Int} (h : Runs s ks t) (hs : Spends c ks)
    (hc : Budget c) : ks.sum ≤ INT_MAX := by
  obtain ⟨hne, -, hj⟩ := hs
  obtain ⟨-, -, hall⟩ := h.charged
  have hb : c + 19 ≤ 2147483647 := hc
  have hlast := (hall _ (List.getLast_mem hne)).2
  have hsum : ks.sum = ks.dropLast.sum + ks.getLast hne := by
    conv_lhs => rw [← List.dropLast_append_getLast hne]
    simp
  have hinit : ks.dropLast.sum ≤ max 0 (c - 1) := by
    by_cases hlen : ks.length = 1
    · have : ks.dropLast = [] := by
        apply List.eq_nil_of_length_eq_zero
        simp [hlen]
      simp [this]
    · have hpos := List.length_pos_iff.mpr hne
      have := hj (ks.length - 1) (by omega) (by omega)
      rw [List.dropLast_eq_take]
      omega
  change ks.sum ≤ 2147483647
  omega

/-- **`get_cycles` counts the costs of all instructions of the main loop.** -/
lemma Sliced.getCycles {its : List (Int × List (Action σ))} {s t : Cpu σ} {ks : List Int}
    (h : Sliced its s ks t)
    (hits : ∀ it ∈ its, Budget it.1 ∧ ∀ a ∈ it.2, a.Timeless = true)
    (hs : s.cpuPeriod = s.cpuClk) :
    t.getCycles = s.getCycles + BitVec.ofInt 64 ks.sum ∧ t.cpuPeriod = t.cpuClk := by
  induction h with
  | nil s => exact ⟨by simp, hs⟩
  | @cons s m v t c l ks ls rest r sp hl tail ih =>
      obtain ⟨hb, ha⟩ := hits (c, l) List.mem_cons_self
      have hfree : Free m.settled v :=
        Steps.forM (fun a hm => Action.free_run (ha a hm)) _ _ _ hl
      obtain ⟨hcyc, hidle⟩ := ih (fun it hm => hits it (List.mem_cons_of_mem _ hm))
        (hfree.getCycles.2 rfl)
      refine ⟨?_, hidle⟩
      calc t.getCycles = v.getCycles + BitVec.ofInt 64 ls.sum := hcyc
        _ = m.getCycles + BitVec.ofInt 64 ls.sum := by
          rw [hfree.getCycles.1, getCycles_settled r (sp.le_max r hb)]
        _ = s.getCycles + BitVec.ofInt 64 ks.sum + BitVec.ofInt 64 ls.sum := by
          rw [r.getCycles, Cpu.getCycles_idle (s := s.grant c) rfl, Cpu.getCycles_idle hs]
          rfl
        _ = s.getCycles + BitVec.ofInt 64 (ks ++ ls).sum := by
          rw [List.sum_append, BitVec.add_assoc, ← BitVec.ofInt_add]

section Loop

variable (monitor6809 : M σ Bool)

/-- Every iteration the main loop gets to is smooth. -/
def SmoothLoop (fuel : Nat) : List (Int × List (Action σ)) → Cpu σ → Prop
  | [], _ => True
  | (c, l) :: rest, s =>
    SmoothSlice c s ∧ ∀ m v, mainSlice monitor6809 fuel c s = .ok (some (), m) →
      runActions l m = .ok ((), v) → SmoothLoop fuel rest v

lemma mainSlice_of_execute {fuel : Nat} {c v : Int} {s t : Cpu σ}
    (h : cpuExecute monitor6809 fuel c s = .ok (some v, t)) :
    mainSlice monitor6809 fuel c s =
      .ok (some (), { t with total := t.total + BitVec.ofInt 64 v }) := by
  rw [mainSlice, ok_bind h]
  rfl

lemma mainSlice_error {fuel : Nat} {c : Int} {s : Cpu σ} {e : Exit}
    (h : cpuExecute monitor6809 fuel c s = .error e) :
    mainSlice monitor6809 fuel c s = .error e := by
  rw [mainSlice, bind_apply, h]
  rfl

/-- The main loop ends the process or runs its slices. -/
lemma mainLoop_spec {fuel : Nat} (hfuel : 1 ≤ fuel) :
    ∀ (its : List (Int × List (Action σ))) (s : Cpu σ), (∀ it ∈ its, it.1 ≤ 2 * fuel) →
      SmoothLoop monitor6809 fuel its s →
      (∃ e, mainLoop monitor6809 fuel its s = .error e) ∨
        ∃ ks t, Sliced its s ks t ∧ mainLoop monitor6809 fuel its s = .ok (some (), t)
  | [], s, _, _ => .inr ⟨[], s, .nil s, rfl⟩
  | (c, l) :: rest, s, hits, hsm => by
      obtain ⟨hslice, hrest⟩ := hsm
      have hc : c ≤ 2 * fuel := hits (c, l) List.mem_cons_self
      obtain ⟨e, he⟩ | ⟨ks, m, hr, hsp, -, hx⟩ := cpuExecute_spec monitor6809 hfuel hc hslice
      · left
        exact ⟨e, by rw [mainLoop, bind_apply, mainSlice_error monitor6809 he]; rfl⟩
      have hsum : ks.sum = m.cpuPeriod - m.cpuClk := by
        obtain ⟨hclk, hacc, -⟩ := hr.charged
        have hp : m.cpuPeriod = c := congrArg Prod.fst hacc
        have hq : m.cpuClk = c - ks.sum := hclk
        omega
      have hm : mainSlice monitor6809 fuel c s = .ok (some (), m.settled) := by
        rw [mainSlice_of_execute monitor6809 hx, hsum]
        rfl
      rcases hl : runActions l m.settled with e | ⟨_, v⟩
      · left
        refine ⟨e, ?_⟩
        rw [mainLoop, ok_bind hm]
        exact (bind_apply _ _ _).trans (by rw [hl]; rfl)
      have hstep : mainLoop monitor6809 fuel ((c, l) :: rest) s =
          mainLoop monitor6809 fuel rest v := by
        rw [mainLoop, ok_bind hm]
        exact ok_bind hl
      obtain ⟨e, he⟩ | ⟨ls, t, htail, ht⟩ := mainLoop_spec hfuel rest v
        (fun it hm => hits it (List.mem_cons_of_mem _ hm)) (hrest _ v hm hl)
      · exact .inl ⟨e, hstep.trans he⟩
      · exact .inr ⟨ks ++ ls, t, .cons hr hsp hl htail, hstep.trans ht⟩

end Loop

/-! ## Cutting the time differently -/

/-- Costs are the same in states that look the same, though the clocks may differ. -/
lemma Iterates.agree {s t s' : Cpu σ} {k : Int} (h : Iterates s k t)
    (ha : Agree Live.boundary s s') : ∃ t', Iterates s' k t' ∧ Agree Live.boundary t t' := by
  have hk := h
  obtain ⟨m, hh, hm, hi, he, -⟩ := h
  obtain ⟨_, m', hh', -, ham⟩ := (blind_access Machine.insnHook _ s s' ha).of_ok hh
  obtain ⟨_, t', hi', -, hat⟩ := (uniform_cpuInsn m m' ham).of_ok hi
  have hm' : m'.monitorOn = false := (congrArg Observation.monitorOn ham).symm.trans hm
  have he' : t'.simErrors = m'.simErrors := by
    have hm : m.simErrors = m'.simErrors := congrArg Observation.simErrors ham
    have ht : t.simErrors = t'.simErrors := congrArg Observation.simErrors hat
    rw [← hm, ← ht, he]
  have hk' : Iterates s' (m'.cpuClk - t'.cpuClk) t' := ⟨m', hh', hm', hi', he', rfl⟩
  refine ⟨t', ?_, hat⟩
  have hcyc := (Runs.cons hk (.nil t)).getCycles
  have hcyc' := (Runs.cons hk' (.nil t')).getCycles
  have heq : BitVec.ofInt 64 k = BitVec.ofInt 64 (m'.cpuClk - t'.cpuClk) := by
    have hs : s.getCycles = s'.getCycles := congrArg Observation.cycles ha
    have ht : t.getCycles = t'.getCycles := congrArg Observation.cycles hat
    rw [ht, hs, hcyc'] at hcyc
    simpa using (BitVec.add_right_inj _).mp hcyc.symm
  obtain ⟨-, -, hlo, hhi⟩ := hk.charged
  obtain ⟨-, -, hlo', hhi'⟩ := hk'.charged
  have hnat := congrArg BitVec.toNat heq
  simp only [BitVec.toNat_ofInt] at hnat
  have hcost : k = m'.cpuClk - t'.cpuClk := by omega
  rw [hcost]
  exact hk'

lemma Runs.agree {s t s' : Cpu σ} {ks : List Int} (h : Runs s ks t)
    (ha : Agree Live.boundary s s') : ∃ t', Runs s' ks t' ∧ Agree Live.boundary t t' := by
  induction h generalizing s' with
  | nil s => exact ⟨s', .nil s', ha⟩
  | cons h r ih =>
      obtain ⟨m', hm', ham⟩ := h.agree ha
      obtain ⟨t', ht', hat⟩ := ih ham
      exact ⟨t', .cons hm' ht', hat⟩

omit [Machine σ] in
/-- The clock variables are seen only through `get_cycles`. -/
lemma agree_of_cycles (s : Cpu σ) (c p : Int) (n : BitVec 64)
    (h : { s with cpuClk := c, cpuPeriod := p, total := n }.getCycles = s.getCycles) :
    Agree Live.boundary { s with cpuClk := c, cpuPeriod := p, total := n } s := by
  unfold Agree Cpu.observe
  rw [h]

/-- **Cut into slices with nothing in between, the time runs the same instructions as uncut.** -/
lemma Sliced.uncut {its : List (Int × List (Action σ))} {s t : Cpu σ} {ks : List Int}
    (h : Sliced its s ks t) (hits : ∀ it ∈ its, Budget it.1 ∧ it.2 = [])
    (hs : s.cpuPeriod = s.cpuClk) : ∃ u, Runs s ks u ∧ Agree Live.boundary u t := by
  induction h with
  | nil s => exact ⟨s, .nil s, rfl⟩
  | @cons s m v t c l ks ls rest r sp hl tail ih =>
      obtain ⟨hb, rfl⟩ := hits (c, l) List.mem_cons_self
      cases hl
      obtain ⟨u, hu, hau⟩ := ih (fun it hm => hits it (List.mem_cons_of_mem _ hm)) rfl
      have hgrant : Agree Live.boundary (s.grant c) s := 
        agree_of_cycles s c c s.total (by rw [Cpu.getCycles_idle hs, Cpu.getCycles_idle rfl])
      have hsettle : Agree Live.boundary m.settled m :=
        agree_of_cycles m _ _ _ (getCycles_settled r (sp.le_max r hb))
      obtain ⟨m', hm', ham⟩ := r.agree hgrant
      obtain ⟨u', hu', hau'⟩ := hu.agree (hsettle.trans ham)
      exact ⟨u', hm'.append hu', hau'.symm.trans hau⟩

/-! ## Accounting and termination -/

/-- `get_cycles` as a number, as long as the counter has room. -/
lemma Runs.getCycles_toNat {s t : Cpu σ} {ks : List Int} (h : Runs s ks t)
    (hroom : s.getCycles.toNat + ks.sum < 2 ^ 64) :
    (t.getCycles.toNat : Int) = s.getCycles.toNat + ks.sum := by
  have hpos := h.sum_nonneg
  rw [h.getCycles, BitVec.toNat_add, BitVec.toNat_ofInt]
  omega

/-- **Cycle accounting and termination of `cpu_execute`.**  An instruction costs between 2 and 20
cycles.  `cpu_execute (c)` ends, runs the shortest stretch of instructions that spends the budget,
and returns its cost, which is in `[c, c + 19]` (or the process ends on the way).  `get_cycles`
counts the costs, inside a slice and over the main loop.  Slices with nothing in between run the
instructions of the uncut stretch, of which there is only one. -/
theorem cycle_accounting :
    (∀ s t : Cpu σ, cpuInsn s = .ok ((), t) → t.simErrors = s.simErrors →
      2 ≤ s.cpuClk - t.cpuClk ∧ s.cpuClk - t.cpuClk ≤ 20) ∧
    (∀ (monitor6809 : M σ Bool) (fuel : Nat) (c : Int) (s : Cpu σ), Budget c → 1 ≤ fuel →
      c ≤ 2 * fuel → SmoothSlice c s →
      (∃ e, cpuExecute monitor6809 fuel c s = .error e) ∨
      ∃ ks t, Runs (s.grant c) ks t ∧ Spends c ks ∧
        cpuExecute monitor6809 fuel c s = .ok (some ks.sum, t.exited) ∧
        (1 ≤ c → c ≤ ks.sum ∧ ks.sum ≤ c + 19)) ∧
    (∀ (s t : Cpu σ) (ks : List Int), Runs s ks t →
      (∀ k ∈ ks, 2 ≤ k ∧ k ≤ 20) ∧ t.getCycles = s.getCycles + BitVec.ofInt 64 ks.sum ∧
      (s.getCycles.toNat + ks.sum < 2 ^ 64 →
        (t.getCycles.toNat : Int) = s.getCycles.toNat + ks.sum)) ∧
    (∀ (monitor6809 : M σ Bool) (fuel : Nat) (its : List (Int × List (Action σ))) (s : Cpu σ),
      1 ≤ fuel →
      (∀ it ∈ its, it.1 ≤ 2 * fuel ∧ Budget it.1 ∧ ∀ a ∈ it.2, a.Timeless = true) →
      s.cpuPeriod = s.cpuClk → SmoothLoop monitor6809 fuel its s →
      (∃ e, mainLoop monitor6809 fuel its s = .error e) ∨
      ∃ ks t, Sliced its s ks t ∧ mainLoop monitor6809 fuel its s = .ok (some (), t) ∧
        t.cpuPeriod = t.cpuClk ∧ t.getCycles = s.getCycles + BitVec.ofInt 64 ks.sum) ∧
    (∀ (its : List (Int × List (Action σ))) (s t : Cpu σ) (ks : List Int), Sliced its s ks t →
      (∀ it ∈ its, Budget it.1 ∧ it.2 = []) → s.cpuPeriod = s.cpuClk →
      ∃ u, Runs s ks u ∧ Agree Live.boundary u t ∧
        ∀ ls v, Runs s ls v → ks.length ≤ ls.length → ∃ rest, ls = ks ++ rest ∧ Runs u rest v) := by
  refine ⟨fun s t h he => (charges_cpuInsn s _ t h).clk he, ?_, ?_, ?_, ?_⟩
  · intro monitor6809 fuel c s hb hfuel hc hs
    obtain he | ⟨ks, t, hr, hsp, hmax, hx⟩ := cpuExecute_spec monitor6809 hfuel hc hs
    · exact .inl he
    · rw [toInt_eq hr.sum_nonneg (hsp.le_max hr hb)] at hx
      exact .inr ⟨ks, t, hr, hsp, hx, fun h1 => ⟨hsp.2.1, by omega⟩⟩
  · exact fun s t ks h => ⟨h.charged.2.2, h.getCycles, h.getCycles_toNat⟩
  · intro monitor6809 fuel its s hfuel hits hs hsm
    obtain he | ⟨ks, t, hsl, hx⟩ :=
      mainLoop_spec monitor6809 hfuel its s (fun it hm => (hits it hm).1) hsm
    · exact .inl he
    · obtain ⟨hcyc, hidle⟩ := hsl.getCycles (fun it hm => (hits it hm).2) hs
      exact .inr ⟨ks, t, hsl, hx, hidle, hcyc⟩
  · intro its s t ks hsl hits hs
    obtain ⟨u, hu, ha⟩ := hsl.uncut hits hs
    exact ⟨u, hu, ha, fun ls v hv hl => hu.continues hv hl⟩

/-! ## A budget too large for the result -/

/-- `BRA *` with `clk` cycles left of a slice. -/
def braState (period clk : Int) : Cpu Flat :=
  { Cpu.zeroed ⟨Flat.bytes 0x1000 [0x20, 0xfe]⟩ with
    PC := 0x1000, iPC := 0x1000, cpuPeriod := period, cpuClk := clk }

lemma braState_insn (p clk : Int) : cpuInsn (braState p clk) = .ok ((), braState p (clk - 3)) := by
  have hbyte : immByte (braState p clk) =
      .ok (0x20, { braState p clk with PC := 0x1001 }) := rfl
  have hlookup : insns0.lookup 0x20 = some (.insn .bra) := by decide +kernel
  have hdecode : decode (braState p clk) = .ok (.bra, { braState p clk with PC := 0x1001 }) := by
    rw [decode, ok_bind hbyte, hlookup]
    rfl
  have hoffset : immByte { braState p clk with PC := 0x1001 } =
      .ok (0xfe, { braState p clk with PC := 0x1002 }) := rfl
  have htarget : (0x1002 : Unsigned) + int8 0xfe = 0x1000 := by decide
  have hbra : bra { braState p clk with PC := 0x1001 } = .ok ((), braState p clk) := by
    rw [bra, ok_bind hoffset, skip, modify_apply, htarget]
    rfl
  have hexec : Insn.exec .bra { braState p clk with PC := 0x1001 } =
      .ok ((), braState p (clk - 3)) := ok_bind hbra
  have hipc : (modify fun s : Cpu Flat => { s with iPC := s.PC } : M Flat PUnit) (braState p clk) =
      .ok (⟨⟩, braState p clk) := rfl
  rw [cpuInsn_eq, ok_bind hipc, ok_bind hdecode, ok_bind hexec]
  rfl

lemma braState_iterates (p clk : Int) : Iterates (braState p clk) 3 (braState p (clk - 3)) := by
  refine ⟨braState p clk, rfl, rfl, braState_insn p clk, rfl, ?_⟩
  change 3 = clk - (clk - 3)
  omega

lemma braState_runs (p clk : Int) (n : Nat) :
    Runs (braState p clk) (List.replicate n 3) (braState p (clk - 3 * n)) := by
  induction n generalizing clk with
  | zero => simpa using Runs.nil (braState p clk)
  | succ n ih =>
      have h := Runs.cons (braState_iterates p clk) (ih (clk - 3))
      have he : clk - 3 - 3 * (n : Int) = clk - 3 * ((n + 1 : Nat) : Int) := by omega
      rw [he] at h
      exact h

/-- Nothing else happens: no monitor and no `sim_error`. -/
lemma braState_smooth {p clk : Int} {ks : List Int} {t : Cpu Flat}
    (h : Runs (braState p clk) ks t) : Smooth t := by
  have hrun := braState_runs p clk ks.length
  obtain ⟨rest, hks, hr⟩ := hrun.continues h (by simp)
  have hnil : rest = [] := by
    have := congrArg List.length hks
    simpa using this
  subst hnil
  cases hr
  intro m hm
  cases hm
  refine ⟨rfl, fun t ht => ?_⟩
  cases (braState_insn _ _).symm.trans ht
  rfl

/-- The largest budget, spent on `BRA *`: 715827883 instructions cost 2147483649 cycles, and the
conversion to `int` makes a negative result of it. -/
theorem cpuExecute_wraps :
    SmoothSlice INT_MAX (braState 0 0) ∧
    ∃ t, Runs ((braState 0 0).grant INT_MAX) (List.replicate 715827883 3) t ∧
      ∀ monitor6809 : M Flat Bool,
        cpuExecute monitor6809 715827883 INT_MAX (braState 0 0) =
          .ok (some (-2147483647), t.exited) := by
  have hu : Unspent ((braState 0 0).grant INT_MAX).cpuClk (List.replicate 715827882 (3 : Int)) := by
    right
    rw [List.sum_replicate]
    decide
  refine ⟨fun ks t hr _ => braState_smooth hr, _, braState_runs INT_MAX INT_MAX 715827883,
    fun monitor6809 => ?_⟩
  have hr : Runs ((braState 0 0).grant INT_MAX) (List.replicate 715827882 3)
      (braState INT_MAX (INT_MAX - 3 * (715827882 : Nat))) :=
    braState_runs INT_MAX INT_MAX 715827882
  have hloop : cpuLoop monitor6809 715827883 ((braState 0 0).grant INT_MAX) =
      .ok (some (), braState INT_MAX (INT_MAX - 3 * (715827883 : Nat))) := by
    have h := cpuLoop_of_runs monitor6809 hr hu 1
    rw [List.length_replicate] at h
    rw [h]
    exact cpuLoop_last monitor6809 (braState_iterates _ _) (by decide) 0
  rw [cpuExecute_of_loop monitor6809 hloop]
  rfl

/-- A budget of 10 is spent by four of them. -/
theorem cycle_accounting_bra :
    ∃ ks t, Runs ((braState 0 0).grant 10) ks t ∧ Spends 10 ks ∧
      cpuExecute (pure false) 5 10 (braState 0 0) = .ok (some ks.sum, t.exited) ∧
      10 ≤ ks.sum ∧ ks.sum ≤ 29 := by
  obtain ⟨-, hx, -⟩ := cycle_accounting (σ := Flat)
  have hsm : SmoothSlice 10 (braState 0 0) := fun ks t hr _ => braState_smooth hr
  obtain ⟨e, he⟩ | ⟨ks, t, hr, hsp, hex, hb⟩ :=
    hx (pure false) 5 10 (braState 0 0) (by decide) (by decide) (by decide) hsm
  · have : result (cpuExecute (pure false) 5 10) (braState 0 0) = some (some 12) := by
      decide +kernel
    simp [result, he] at this
  · exact ⟨ks, t, hr, hsp, hex, hb (by decide)⟩

end Exec09
