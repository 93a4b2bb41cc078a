import Exec09.Properties.Interrupts

/-!
# Writes that enter no handler

A bus write can change the processor only by entering an interrupt handler.  When none is entered,
every register, the flags and the clock are as before; and the flags are as before in any case, for
the handlers' entry sequences do not touch them.
-/

namespace Exec09

open Program

variable {σ : Type} [Machine σ]

/-- What a write leaves alone when it enters no handler. -/
structure Still where
  X : Unsigned
  Y : Unsigned
  S : Unsigned
  U : Unsigned
  PC : Unsigned
  A : Unsigned
  B : Unsigned
  DP : Unsigned
  flags : Flags
  EFI : Unsigned
  iPC : Unsigned
  ea : Unsigned
  cpuClk : Int
  cpuPeriod : Int
  total : BitVec 64
  ccChanged : Unsigned

omit [Machine σ] in
def Cpu.still (s : Cpu σ) : Still where
  X := s.X
  Y := s.Y
  S := s.S
  U := s.U
  PC := s.PC
  A := s.A
  B := s.B
  DP := s.DP
  flags := s.flags
  EFI := s.EFI
  iPC := s.iPC
  ea := s.ea
  cpuClk := s.cpuClk
  cpuPeriod := s.cpuPeriod
  total := s.total
  ccChanged := s.ccChanged

/-- The flags are as before, and unless a handler is entered so is everything else. -/
def Undisturbed (s t : Cpu σ) : Prop :=
  t.flags = s.flags ∧
    ∃ es, t.hist = es ++ s.hist ∧ ((∀ e ∈ es, e.isEntry = false) → t.still = s.still)

instance : IsPreorder (Cpu σ) Undisturbed where
  refl _ := ⟨rfl, [], rfl, fun _ => rfl⟩
  trans s t u h h' := by
    obtain ⟨hf, es, he, hs⟩ := h
    obtain ⟨hf', es', he', hs'⟩ := h'
    refine ⟨hf'.trans hf, es' ++ es, by rw [he', he, List.append_assoc], fun hn => ?_⟩
    exact (hs' fun e hm => hn e (List.mem_append_left _ hm)).trans
      (hs fun e hm => hn e (List.mem_append_right _ hm))

omit [Machine σ] in
/-- A step that changes neither the history nor what `still` shows. -/
lemma Undisturbed.silent {s t : Cpu σ} (hh : t.hist = s.hist) (hs : t.still = s.still) :
    Undisturbed s t :=
  ⟨congrArg Still.flags hs, [], hh, fun _ => hs⟩

lemma keepsFlags_irqWith {write : Unsigned → Unsigned → M σ Unit}
    (hw : ∀ a d, Keeps Cpu.flags (write a d)) : Keeps Cpu.flags (irqWith write) :=
  have keep (s t : Cpu σ) (h : t.core = s.core) : SameOn Cpu.flags s t := congrArg Core.flags h
  Steps.bind (Steps.modify fun _ => rfl) fun _ => Steps.bind (Steps.modify fun _ => rfl) fun _ =>
  (steps_pushAllWith keep hw).bind fun _ => Steps.bind (Steps.modify fun _ => rfl) fun _ =>
  ((keeps_read16 _).mono keep).bind fun _ =>
  Steps.bind (Steps.modify fun _ => rfl) fun _ => Steps.modify fun _ => rfl

lemma keepsFlags_firqWith {write : Unsigned → Unsigned → M σ Unit}
    (hw : ∀ a d, Keeps Cpu.flags (write a d)) : Keeps Cpu.flags (firqWith write) :=
  have keep (s t : Cpu σ) (h : t.core = s.core) : SameOn Cpu.flags s t := congrArg Core.flags h
  Steps.bind (Steps.modify fun _ => rfl) fun _ => Steps.bind (Steps.modify fun _ => rfl) fun _ =>
  (Steps.reads _).bind fun _ => (steps_pushS16With keep hw _).bind fun _ =>
  (Steps.reads _).bind fun _ => (steps_pushS8With keep hw _).bind fun _ =>
  Steps.bind (Steps.modify fun _ => rfl) fun _ => ((keeps_read16 _).mono keep).bind fun _ =>
  Steps.bind (Steps.modify fun _ => rfl) fun _ => Steps.modify fun _ => rfl

lemma undisturbed_signal (x : Signal) : Steps Undisturbed (signal x : M σ Unit) := by
  cases x with
  | simError =>
      exact Steps.bind (Steps.modify fun _ => Undisturbed.silent rfl rfl) fun _ =>
        Steps.ite (Steps.modify fun _ => Undisturbed.silent rfl rfl) (Steps.throw _)
  | monitor on => exact Steps.modify fun _ => Undisturbed.silent rfl rfl
  | exit code => exact Steps.throw _

section With

variable {write : Unsigned → Unsigned → M σ Unit} (hc : ∀ a d, Steps Calm (write a d))
  (hw : RamWrite write) (hu : ∀ a d, Steps Undisturbed (write a d))
include hc hw hu

lemma undisturbed_effectWith (x : Effect) : Steps Undisturbed (effectWith write x) := by
  have hflags (a d : Unsigned) : Keeps Cpu.flags (write a d) := (hu a d).mono fun _ _ h => h.1
  cases x with
  | signal e => exact undisturbed_signal e
  | requestIrq source =>
      intro s _ t h
      obtain ⟨-, rfl⟩ | ⟨-, s₂, h₂, rfl⟩ := requestIrqWith_eq_ok h
      · exact ⟨rfl, [_], rfl, fun _ => rfl⟩
      · obtain ⟨-, -, -, -, es, he, -, -⟩ := irqWith_spec hc hw h₂
        have hf : s₂.flags = (s.pendIrq source).flags := keepsFlags_irqWith hflags _ _ _ h₂
        refine ⟨hf, .requested s₂.snapshot :: (es ++ [.irq (s.pendIrq source).snapshot]), ?_,
          fun hn => ?_⟩
        · simp [Cpu.record, he, Cpu.pendIrq]
        · exact absurd (hn (.irq (s.pendIrq source).snapshot) (by simp)) (by simp [Event.isEntry])
  | releaseIrq source =>
      intro s _ t h
      cases h
      exact ⟨rfl, [_], rfl, fun _ => rfl⟩
  | requestFirq source =>
      intro s _ t h
      obtain ⟨-, rfl⟩ | ⟨-, s₂, h₂, rfl⟩ := requestFirqWith_eq_ok h
      · exact ⟨rfl, [_], rfl, fun _ => rfl⟩
      · obtain ⟨-, -, -, -, es, he, -, -, -⟩ := firqWith_spec hc hw h₂
        have hf : s₂.flags = (s.pendFirq source).flags := keepsFlags_firqWith hflags _ _ _ h₂
        refine ⟨hf, .requested s₂.snapshot :: (es ++ [.firq (s.pendFirq source).snapshot]), ?_,
          fun hn => ?_⟩
        · simp [Cpu.record, he, Cpu.pendFirq]
        · exact absurd (hn (.firq (s.pendFirq source).snapshot) (by simp)) (by simp [Event.isEntry])
  | releaseFirq source =>
      intro s _ t h
      cases h
      exact ⟨rfl, [_], rfl, fun _ => rfl⟩

end With

lemma undisturbed_writeN (n : Nat) : ∀ a d, Steps Undisturbed (writeN n a d : M σ Unit) := by
  induction n with
  | zero => exact fun _ _ => Steps.throw _
  | succ n ih =>
      intro a d
      refine Steps.bind (Steps.modifyGet fun s => Undisturbed.silent rfl rfl) fun r => ?_
      exact Steps.forM fun x _ => undisturbed_effectWith (calm_writeN n) (ramWrite_writeN n) ih x

/-- **A bus write that enters no handler changes no register.** -/
lemma undisturbed_wrmem (a d : Unsigned) : Steps Undisturbed (wrmem a d : M σ Unit) :=
  undisturbed_writeN _ a d

/-! ## No handler entered -/

/-- No interrupt handler is entered from `s` to `t`. -/
def NoEntry (s t : Cpu σ) : Prop := t.hist.filter Event.isEntry = s.hist.filter Event.isEntry

instance (s t : Cpu σ) : Decidable (NoEntry s t) := inferInstanceAs (Decidable (_ = _))

omit [Machine σ] in
lemma noEntry_iff {s t : Cpu σ} {es : List Event} (h : t.hist = es ++ s.hist) :
    NoEntry s t ↔ ∀ e ∈ es, e.isEntry = false := by
  rw [NoEntry, h, List.filter_append, List.append_left_eq_self, List.filter_eq_nil_iff]
  simp

/-- The check at the end of an iteration: the flags are as before, and unless a handler is entered
only `cc_changed` is different. -/
lemma ccCheck_undisturbed {m t : Cpu σ} (h : ccCheck m = .ok ((), t)) :
    t.flags = m.flags ∧ ∃ es, t.hist = es ++ m.hist ∧
      ((∀ e ∈ es, e.isEntry = false) → t = m ∨ t = { m with ccChanged := 0 }) := by
  have hflags (a d : Unsigned) : Keeps Cpu.flags (wrmem a d : M σ Unit) :=
    (undisturbed_wrmem a d).mono fun _ _ h => h.1
  obtain ⟨-, rfl⟩ | ⟨-, u, hu, rfl⟩ := ccCheck_eq_ok h
  · exact ⟨rfl, [], rfl, fun _ => .inl rfl⟩
  obtain ⟨-, hx⟩ | ⟨-, -, hx⟩ | ⟨-, rfl⟩ := pollLines_eq_ok hu
  · obtain ⟨-, -, -, -, es, he, -, -, -⟩ := firqWith_spec calm_wrmem ramWrite_wrmem hx
    have hf : u.flags = m.flags := keepsFlags_firqWith hflags _ _ _ hx
    refine ⟨hf, es ++ [.firq m.snapshot], by simp [he], fun hn => ?_⟩
    exact absurd (hn (.firq m.snapshot) (by simp)) (by simp [Event.isEntry])
  · obtain ⟨-, -, -, -, es, he, -, -⟩ := irqWith_spec calm_wrmem ramWrite_wrmem hx
    have hf : u.flags = m.flags := keepsFlags_irqWith hflags _ _ _ hx
    refine ⟨hf, es ++ [.irq m.snapshot], by simp [he], fun hn => ?_⟩
    exact absurd (hn (.irq m.snapshot) (by simp)) (by simp [Event.isEntry])
  · exact ⟨rfl, [], rfl, fun _ => .inr rfl⟩

end Exec09
