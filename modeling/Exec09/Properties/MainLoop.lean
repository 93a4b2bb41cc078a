import Exec09.Main.Loop
import Exec09.Properties.Unattended

/-!
# The loop of `main`

With debugging off, every iteration of the loop ends the process or adds to `total` what its slice
cost, and the check for rogue programs keeps `total` below `max_cycles`.  So the process ends
(`mainFor_rogue`).  With `cycles_per_irq` set, the loop requests interrupts at an even pace
(`mainFor_pace`).
-/

namespace Exec09

open Program

variable {σ α D : Type} [Machine σ]

/-! ## Between slices -/

omit [Machine σ] in
/-- Debugging is off, no slice is under way, and `total` is `T`. -/
structure Between (I : σ → Prop) (n : Nat) (T : BitVec 64) (s : Cpu σ) : Prop where
  off : Off I n s
  total : s.total = T
  idle : s.cpuPeriod = s.cpuClk

omit [Machine σ] in
/-- What may run between slices: it takes no time and does not enter the monitor. -/
def Benign (I : σ → Prop) (m : M σ α) : Prop :=
  ∀ n T, Triple (Between I n T) m fun _ => Between I n T

namespace Benign

variable {I : σ → Prop} {m : M σ α}

omit [Machine σ] in
lemma ofFree (hm : Steps Free m) (hoff : ∀ n, Triple (Off I n) m fun _ => Off I n) :
    Benign I m := by
  intro n T s hs a t h
  have hfree := hm s a t h
  exact ⟨hoff n s hs.off a t h, (congrArg Prod.snd hfree.account).trans hs.total,
    hfree.getCycles.2 hs.idle⟩

omit [Machine σ] in
lemma pure (a : α) : Benign I (pure a : M σ α) := fun _ _ => Triple.pure fun _ hs => hs

omit [Machine σ] in
lemma bind {β : Type} {f : α → M σ β} (hm : Benign I m) (hf : ∀ a, Benign I (f a)) :
    Benign I (m >>= f) := fun n T => Triple.bind (hm n T) fun a => hf a n T

omit [Machine σ] in
lemma reads (g : Cpu σ → α) : Benign I (reads g : M σ α) := fun _ _ => Triple.reads fun _ hs => hs

omit [Machine σ] in
lemma ite {c : Prop} [Decidable c] {m' : M σ α} (h : Benign I m) (h' : Benign I m') :
    Benign I (if c then m else m') := fun n T => Triple.ite (fun _ => h n T) fun _ => h' n T

variable [Unattended I]

lemma requestIrq (source : Unsigned) : Benign I (Exec09.requestIrq source : M σ Unit) :=
  .ofFree (free_effectWith free_wrmem (.requestIrq source)) fun _ _ hs _ _ h => hs.requestIrq h

lemma requestFirq (source : Unsigned) : Benign I (Exec09.requestFirq source : M σ Unit) :=
  .ofFree (free_effectWith free_wrmem (.requestFirq source)) fun _ _ hs _ _ h => hs.requestFirq h

lemma clockInterrupts (v : Statics D) : Benign I (Exec09.clockInterrupts v : M σ (Statics D)) :=
  (requestIrq 0).bind fun _ => .ite ((requestFirq 0).bind fun _ => .pure _) (.pure _)

omit [Machine σ] [Unattended I] in
lemma idleLoop {periodic : M σ Unit} (hp : Benign I periodic) (realMs : Int) (i : Idle) :
    Benign I (Exec09.idleLoop periodic realMs i) :=
  .ite (.pure _) <| (Benign.reads _).bind fun _ => Benign.bind (.ite hp (.pure _)) fun _ => .pure _

end Benign

/-- What the loop calls between slices. -/
structure MainCalls.Benign (I : σ → Prop) (c : MainCalls σ D) : Prop where
  machineUpdate : ∀ d, Exec09.Benign I (c.machineUpdate d)
  periodic : Exec09.Benign I c.periodic

/-! ## One iteration -/

section Iteration

variable {I : σ → Prop} [Unattended I] {c : MainCalls σ D} (hc : c.Benign I) {o : Settings}
  {n : Nat} {T : BitVec 64}

/-- **With debugging off the check lets only programs go on that have not used up their cycles.** -/
lemma checkCycles_passes (o : Settings) :
    Triple (Between I n T) (checkCycles o : M σ Unit) fun _ s =>
      Between I n T s ∧ (0 < o.maxCycles → T ≤ o.maxCycles) := by
  intro s hs a t h
  obtain ⟨total, u, hu, h⟩ := bind_eq_ok.mp h
  cases hu
  obtain ⟨-, herr⟩ | ⟨hle, rfl⟩ := whenever_eq_ok.mp h
  · rw [simError, ok_bind (modify_apply _ s), Unattended.debugEnabled I] at herr
    cases herr
  · rw [hs.total] at hle
    exact ⟨hs, fun hpos => BitVec.not_lt.mp fun hlt => hle ⟨hpos, hlt⟩⟩

include hc in
lemma afterSlice_passes (realMs : Int) (v : Statics D) :
    Triple (Between I n T) (afterSlice c o realMs v) fun _ s =>
      Between I n T s ∧ (0 < o.maxCycles → T ≤ o.maxCycles) := by
  have first : Benign I (clockOrDevices c o v) :=
    .ite (.clockInterrupts v) ((hc.machineUpdate _).bind fun _ => .pure _)
  refine Triple.bind (first n T) fun v => ?_
  refine Triple.bind (Benign.idleLoop hc.periodic realMs v.idle n T) fun _ => ?_
  exact Triple.bind (checkCycles_passes o) fun _ => Triple.pure fun _ hs => hs

include hc in
/-- **An iteration ends the process or adds the cost of its slice to `total`**, which it leaves
within `max_cycles`. -/
lemma mainIteration_spec {fuel : Nat} (hfuel : 1 ≤ fuel) (hslice : o.slice ≤ 2 * fuel)
    (hb : Budget o.slice) (realMs : Int) (v : Statics D) {s : Cpu σ} (hs : Off I n s) :
    (∃ e, mainIteration c o fuel realMs v s = .error e) ∨
      ∃ ks m v' t, Runs (s.grant o.slice) ks m ∧
        max 2 o.slice ≤ ks.sum ∧ ks.sum ≤ max 20 (o.slice + 19) ∧
        Between I n (s.total + BitVec.ofInt 64 ks.sum) m.settled ∧
        afterSlice c o realMs v m.settled = .ok (v', t) ∧
        mainIteration c o fuel realMs v s = .ok (some v', t) ∧
        Between I n (s.total + BitVec.ofInt 64 ks.sum) t ∧
        (0 < o.maxCycles → s.total + BitVec.ofInt 64 ks.sum ≤ o.maxCycles) := by
  obtain ⟨e, he⟩ | ⟨ks, m, hr, hoff, hm, hlow, hhigh, htotal⟩ :=
    hs.mainSlice c.monitor6809 hfuel hslice hb
  · exact .inl ⟨e, by rw [mainIteration, error_bind he]⟩
  have hbetween : Between I n (s.total + BitVec.ofInt 64 ks.sum) m.settled :=
    ⟨⟨hoff.monitorOn, hoff.simErrors, hoff.world⟩, htotal, rfl⟩
  rcases ha : afterSlice c o realMs v m.settled with e | ⟨v', t⟩
  · refine .inl ⟨e, ?_⟩
    rw [mainIteration, ok_bind hm]
    exact error_bind ha
  · obtain ⟨ht, hle⟩ := afterSlice_passes hc realMs v _ hbetween v' t ha
    refine .inr ⟨ks, m, v', t, hr, hlow, hhigh, hbetween, ha, ?_, ht, hle⟩
    rw [mainIteration, ok_bind hm]
    exact ok_bind ha

end Iteration

/-- The process goes on to the next iteration, unless the user has quit. -/
lemma mainFor_next {c : MainCalls σ D} {o : Settings} {fuel : Nat} {realMs : Int} {times : List Int}
    {v v' : Statics D} {s t : Cpu σ} (h : mainIteration c o fuel realMs v s = .ok (some v', t)) :
    mainFor c o fuel (realMs :: times) v s =
      if c.quitting t.world then .error (.code 0) else mainFor c o fuel times v' t := by
  rw [mainFor, ok_bind h]
  change (reads (fun s => c.quitting s.world) >>= _ : M σ _) t = _
  rw [ok_bind (reads_apply (fun s : Cpu σ => c.quitting s.world) t)]
  split
  · rfl
  · rfl

/-! ## Rogue programs -/

omit [Machine σ] in
/-- `total` as a number, while there is room in it. -/
lemma toNat_add_ofInt {T : BitVec 64} {k : Int} (hk : 0 ≤ k) (hroom : T.toNat + k < 2 ^ 64) :
    ((T + BitVec.ofInt 64 k).toNat : Int) = T.toNat + k := by
  rw [BitVec.toNat_add, BitVec.toNat_ofInt]
  omega

/-- **A rogue program is ended.**  With debugging off and a limit on the cycles, the process ends
within as many iterations as slices fit into the limit, and one more. -/
lemma mainFor_rogue {I : σ → Prop} [Unattended I] {c : MainCalls σ D} (hc : c.Benign I)
    {o : Settings} {fuel : Nat} (hfuel : 1 ≤ fuel) (hslice : o.slice ≤ 2 * fuel)
    (hb : Budget o.slice) (hmax : 0 < o.maxCycles)
    (hroom : o.maxCycles.toNat + max 20 (o.slice + 19) < 2 ^ 64) {n : Nat} {s : Cpu σ}
    (hs : Off I n s) (htotal : s.total ≤ o.maxCycles) (v : Statics D) (times : List Int)
    (hlong : (o.maxCycles.toNat : Int) < s.total.toNat + times.length * max 2 o.slice) :
    ∃ e, mainFor c o fuel times v s = .error e := by
  induction times generalizing s v with
  | nil =>
      have : s.total.toNat ≤ o.maxCycles.toNat := BitVec.le_def.mp htotal
      simp only [List.length_nil] at hlong
      omega
  | cons realMs times ih =>
      obtain ⟨e, he⟩ | ⟨ks, -, v', t, -, hlow, hhigh, -, -, ht, hbetween, hle⟩ :=
        mainIteration_spec hc hfuel hslice hb realMs v hs
      · exact ⟨e, by rw [mainFor, error_bind he]⟩
      rw [mainFor_next ht]
      split
      · exact ⟨.code 0, rfl⟩
      · have hs' : s.total.toNat ≤ o.maxCycles.toNat := BitVec.le_def.mp htotal
        have hsum := toNat_add_ofInt (T := s.total) (k := ks.sum) (by omega) (by omega)
        refine ih hbetween.off (hbetween.total ▸ hle hmax) v' ?_
        rw [hbetween.total, hsum]
        have hlen : ((realMs :: times).length : Int) = times.length + 1 := by simp
        rw [hlen, add_mul, one_mul] at hlong
        omega

/-! ## Interrupts by the clock -/

/-- Is it the end of a request? -/
def Event.isRequest : Event → Bool
  | .requested _ => true
  | _ => false

/-- The calls of `request_irq` and `request_firq` so far. -/
def Cpu.requests (s : Cpu σ) : Nat := s.hist.countP Event.isRequest

/-- No device asks for interrupts. -/
class Unasking (σ : Type) [Machine σ] : Prop where
  write8 : ∀ v (w : σ) a d x, x ∈ (Machine.write8 v w a d).effects →
    ∀ source, x ≠ .requestIrq source ∧ x ≠ .requestFirq source

section Requests

omit [Machine σ] in
lemma requests_ofCore (s t : Cpu σ) (h : t.core = s.core) : SameOn Cpu.requests s t :=
  congrArg (fun k : Core => k.lines.hist.countP Event.isRequest) h

omit [Machine σ] in
/-- An event that is not a request. -/
lemma requests_record {e : Event} (he : e.isRequest = false) (s : Cpu σ) :
    SameOn Cpu.requests s { s with hist := e :: s.hist } :=
  List.countP_cons_of_neg (by simp [he])

section With

variable {write : Unsigned → Unsigned → M σ Unit} (hw : ∀ a d, Keeps Cpu.requests (write a d))
include hw

lemma requests_irqWith : Keeps Cpu.requests (irqWith write) :=
  Steps.bind (Steps.modify fun s => requests_record rfl s) fun _ =>
  Steps.bind (Steps.modify fun _ => rfl) fun _ =>
  (steps_pushAllWith requests_ofCore hw).bind fun _ => Steps.bind (Steps.modify fun _ => rfl) fun _ =>
  ((keeps_read16 _).mono requests_ofCore).bind fun _ =>
  Steps.bind (Steps.modify fun _ => rfl) fun _ => Steps.modify fun _ => rfl

lemma requests_firqWith : Keeps Cpu.requests (firqWith write) :=
  Steps.bind (Steps.modify fun s => requests_record rfl s) fun _ =>
  Steps.bind (Steps.modify fun _ => rfl) fun _ =>
  (Steps.reads _).bind fun _ => (steps_pushS16With requests_ofCore hw _).bind fun _ =>
  (Steps.reads _).bind fun _ => (steps_pushS8With requests_ofCore hw _).bind fun _ =>
  Steps.bind (Steps.modify fun _ => rfl) fun _ =>
  ((keeps_read16 _).mono requests_ofCore).bind fun _ =>
  Steps.bind (Steps.modify fun _ => rfl) fun _ => Steps.modify fun _ => rfl

omit hw in
lemma requests_effectWith {x : Effect}
    (hx : ∀ source, x ≠ .requestIrq source ∧ x ≠ .requestFirq source) :
    Keeps Cpu.requests (effectWith write x) := by
  cases x with
  | signal e => exact (keeps_signal e).mono requests_ofCore
  | requestIrq source => exact absurd rfl (hx source).1
  | releaseIrq source =>
      exact Steps.bind (Steps.modify fun _ => rfl) fun _ => Steps.modify fun s =>
        requests_record rfl s
  | requestFirq source => exact absurd rfl (hx source).2
  | releaseFirq source =>
      exact Steps.bind (Steps.modify fun _ => rfl) fun _ => Steps.modify fun s =>
        requests_record rfl s

end With

variable [Unasking σ]

lemma requests_writeN (n : Nat) : ∀ a d, Keeps Cpu.requests (writeN n a d : M σ Unit) := by
  induction n with
  | zero => exact fun _ _ => Steps.throw _
  | succ n ih =>
      intro a d s _ t h
      obtain ⟨l, u, hl, h⟩ := bind_eq_ok.mp h
      cases hl
      have effects : Keeps Cpu.requests
          ((Machine.write8 s.view s.world a (d.setWidth 8)).effects.forM (effectWith (writeN n)) :
            M σ Unit) :=
        Steps.forM fun x hx => requests_effectWith fun source =>
          Unasking.write8 s.view s.world a _ x hx source
      have hsame : t.requests = _ := effects _ _ _ h
      exact hsame

lemma requests_wrmem (a d : Unsigned) : Keeps Cpu.requests (wrmem a d : M σ Unit) :=
  requests_writeN _ a d

/-- An instruction requests no interrupt. -/
lemma requests_cpuInsn : Keeps Cpu.requests (cpuInsn : M σ Unit) := by
  intro s _ t h
  rw [cpuInsn_eq_body] at h
  obtain ⟨i, m, hb, hk⟩ := bind_eq_ok.mp h
  obtain ⟨u, hf, hi⟩ := cpuBody_eq_ok hb
  have hfetch : u.requests = s.requests := requests_ofCore s u (keeps_cpuFetch _ _ _ hf)
  have hexec : m.requests = u.requests := by
    by_cases hc : i.WritesCc = true
    · exact Insn.steps_exec_cc requests_ofCore hc (fun _ _ _ => rfl) hi
    · by_cases hs : i.IsSwi = true
      · exact Insn.steps_exec_swi requests_ofCore requests_wrmem hs (fun _ _ _ => rfl) _ _ _ hi
      · exact Insn.steps_exec_plain requests_ofCore (fun _ => requests_wrmem)
          (by simp [Insn.Plain, hc, hs]) (fun _ _ _ => rfl) _ _ _ hi
  have hcheck : t.requests = m.requests := by
    obtain ⟨-, rfl⟩ | ⟨-, w, hw, rfl⟩ := ccCheck_eq_ok hk
    · rfl
    obtain ⟨-, hx⟩ | ⟨-, -, hx⟩ | ⟨-, rfl⟩ := pollLines_eq_ok hw
    · have hsame : w.requests = m.requests := requests_firqWith requests_wrmem _ _ _ hx
      exact hsame
    · have hsame : w.requests = m.requests := requests_irqWith requests_wrmem _ _ _ hx
      exact hsame
    · rfl
  exact (hcheck.trans hexec).trans hfetch

lemma requests_runs {s t : Cpu σ} {ks : List Int} (h : Runs s ks t) : t.requests = s.requests := by
  induction h with
  | nil s => rfl
  | cons h r ih =>
      obtain ⟨m, hh, -, hi, -, -⟩ := h
      have hook : m.requests = _ := requests_ofCore _ m (keeps_access (fun _ => rfl) _ _ _ hh)
      exact ih.trans ((requests_cpuInsn _ _ _ hi).trans hook)

/-- A request is one more. -/
lemma requests_requestIrq (source : Unsigned) {s t : Cpu σ} (h : requestIrq source s = .ok ((), t)) :
    t.requests = s.requests + 1 := by
  obtain ⟨-, rfl⟩ | ⟨-, u, hu, rfl⟩ := requestIrqWith_eq_ok h
  · exact List.countP_cons_of_pos rfl
  · have hsame : u.requests = (s.pendIrq source).requests := requests_irqWith requests_wrmem _ _ _ hu
    exact (List.countP_cons_of_pos rfl).trans (congrArg (· + 1) hsame)

lemma requests_requestFirq (source : Unsigned) {s t : Cpu σ}
    (h : requestFirq source s = .ok ((), t)) : t.requests = s.requests + 1 := by
  obtain ⟨-, rfl⟩ | ⟨-, u, hu, rfl⟩ := requestFirqWith_eq_ok h
  · exact List.countP_cons_of_pos rfl
  · have hsame : u.requests = (s.pendFirq source).requests :=
      requests_firqWith requests_wrmem _ _ _ hu
    exact (List.countP_cons_of_pos rfl).trans (congrArg (· + 1) hsame)

/-- One interrupt, and every eighth time two. -/
lemma clockInterrupts_requests {v v' : Statics D} {s t : Cpu σ} (hv : v.firqFreq < 8)
    (h : clockInterrupts v s = .ok (v', t)) :
    v'.firqFreq = (v.firqFreq + 1) % 8 ∧ t.requests = s.requests + 1 + (v.firqFreq + 1) / 8 := by
  obtain ⟨_, u, hu, h⟩ := bind_eq_ok.mp h
  have hirq := requests_requestIrq 0 hu
  by_cases h8 : v.firqFreq + 1 = 8
  · rw [if_pos h8] at h
    obtain ⟨_, w, hw, h⟩ := bind_eq_ok.mp h
    cases h
    have hfirq := requests_requestFirq 0 hw
    refine ⟨?_, ?_⟩
    · simp [h8]
    · rw [hfirq, hirq, h8]
  · rw [if_neg h8] at h
    cases h
    have hlt : v.firqFreq + 1 < 8 := by omega
    refine ⟨(Nat.mod_eq_of_lt hlt).symm, ?_⟩
    rw [hirq, Nat.div_eq_of_lt hlt]

/-- What the end of an iteration requests. -/
lemma afterSlice_requests {c : MainCalls σ D} (hp : Keeps Cpu.requests c.periodic) {o : Settings}
    (ho : o.interrupting = true) {realMs : Int} {v v' : Statics D} {s t : Cpu σ}
    (hv : v.firqFreq < 8) (h : afterSlice c o realMs v s = .ok (v', t)) :
    v'.firqFreq = (v.firqFreq + 1) % 8 ∧ t.requests = s.requests + 1 + (v.firqFreq + 1) / 8 := by
  obtain ⟨w, u, hu, h⟩ := bind_eq_ok.mp h
  obtain ⟨i, x, hx, h⟩ := bind_eq_ok.mp h
  obtain ⟨_, y, hy, h⟩ := bind_eq_ok.mp h
  cases h
  rw [clockOrDevices, if_pos ho] at hu
  obtain ⟨hfreq, hreq⟩ := clockInterrupts_requests hv hu
  have idle : Keeps Cpu.requests (idleLoop c.periodic realMs w.idle) :=
    Steps.ite (Steps.pure _) <| (Steps.reads _).bind fun _ => hp.whenever.bind fun _ => Steps.pure _
  have check : Keeps Cpu.requests (checkCycles o : M σ Unit) :=
    (Steps.reads _).bind fun _ => (keeps_simError.mono requests_ofCore).whenever
  have hidle : x.requests = u.requests := idle _ _ _ hx
  have hcheck : t.requests = x.requests := check _ _ _ hy
  exact ⟨hfreq, (hcheck.trans hidle).trans hreq⟩

/-- **Interrupts by the clock come at an even pace.**  With debugging off, on a machine whose devices
ask for no interrupts, `n` iterations request `n` IRQs and a FIRQ with every eighth of them, and take
between `n` times `cycles_per_irq` and `n` times 19 cycles more; or the process ends on the way. -/
lemma mainFor_pace {I : σ → Prop} [Unattended I] {c : MainCalls σ D} (hc : c.Benign I)
    (hp : Keeps Cpu.requests c.periodic) {o : Settings} (ho : o.interrupting = true) {fuel : Nat}
    (hfuel : 1 ≤ fuel) (hslice : o.slice ≤ 2 * fuel) (hb : Budget o.slice) {n : Nat} {s : Cpu σ}
    (hs : Off I n s) (v : Statics D) (hv : v.firqFreq < 8) (times : List Int)
    (hroom : s.total.toNat + times.length * max 20 (o.slice + 19) < 2 ^ 64) :
    (∃ e, mainFor c o fuel times v s = .error e) ∨
      ∃ v' t, mainFor c o fuel times v s = .ok (some v', t) ∧
        t.requests = s.requests + times.length + (v.firqFreq + times.length) / 8 ∧
        v'.firqFreq = (v.firqFreq + times.length) % 8 ∧
        s.total.toNat + times.length * max 2 o.slice ≤ t.total.toNat ∧
        t.total.toNat ≤ s.total.toNat + times.length * max 20 (o.slice + 19) := by
  induction times generalizing s v with
  | nil =>
      refine .inr ⟨v, s, rfl, ?_, ?_, ?_, ?_⟩
      · simp only [List.length_nil]
        omega
      · exact (Nat.mod_eq_of_lt hv).symm
      · simp
      · simp
  | cons realMs times ih =>
      obtain ⟨e, he⟩ | ⟨ks, m, v₁, t₁, hr, hlow, hhigh, -, ha, ht₁, hbetween, -⟩ :=
        mainIteration_spec hc hfuel hslice hb realMs v hs
      · exact .inl ⟨e, by rw [mainFor, error_bind he]⟩
      rw [mainFor_next ht₁]
      split
      · exact .inl ⟨.code 0, rfl⟩
      have hlen : ((realMs :: times).length : Int) = times.length + 1 := by simp
      rw [hlen, add_mul, one_mul] at hroom
      have htimes : 0 ≤ (times.length : Int) * max 20 (o.slice + 19) :=
        Int.mul_nonneg (by omega) (by omega)
      have hsum := toNat_add_ofInt (T := s.total) (k := ks.sum) (by omega) (by omega)
      obtain ⟨hfreq, hreq⟩ := afterSlice_requests hp ho hv ha
      have hruns : m.requests = (s.grant o.slice).requests := requests_runs hr
      have hsettled : m.settled.requests = s.requests := hruns
      obtain ⟨e, he⟩ | ⟨v', t, ht, hn, hf, hlo, hhi⟩ := ih hbetween.off v₁
        (hfreq ▸ Nat.mod_lt _ (by decide)) (by rw [hbetween.total, hsum]; omega)
      · exact .inl ⟨e, he⟩
      · rw [hbetween.total, hsum] at hlo hhi
        refine .inr ⟨v', t, ht, ?_, ?_, ?_, ?_⟩
        · rw [hn, hreq, hfreq, hsettled, List.length_cons]
          omega
        · rw [hf, hfreq, List.length_cons]
          omega
        · rw [hlen, add_mul, one_mul]
          omega
        · rw [hlen, add_mul, one_mul]
          omega

end Requests

end Exec09
