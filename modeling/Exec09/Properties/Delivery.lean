import Exec09.Cpu.Flat
import Exec09.Properties.Interrupts

/-!
# Interrupt delivery over whole runs

From reset, with instructions, requests and releases in any order: a handler is entered only with
its mask clear, no deliverable interrupt is left waiting at a boundary or after a request, and an
IRQ that gave way to a FIRQ is not lost.
-/

namespace Exec09

open Program

variable {σ : Type}

/-- Instructions and calls that work an interrupt line. -/
def Action.OnLines : Action σ → Bool
  | .insn | .requestIrq _ | .releaseIrq _ | .requestFirq _ | .releaseFirq _ => true
  | _ => false

variable [Machine σ]

lemma Action.orderly_run {a : Action σ} (ha : a.OnLines = true) : Steps Orderly a.run := by
  have calm {m : M σ Unit} (h : Steps Calm m) : Steps Orderly m := h.mono fun _ _ hc => hc.orderly
  cases a with
  | insn => exact orderly_cpuInsn
  | requestIrq source => exact calm (calm_requestIrqWith calm_wrmem ramWrite_wrmem source)
  | releaseIrq source => exact calm (calm_releaseIrq source)
  | requestFirq source => exact calm (calm_requestFirqWith calm_wrmem ramWrite_wrmem source)
  | releaseFirq source => exact calm (calm_releaseFirq source)
  | _ => cases ha

/-- Nothing deliverable waits at any boundary of a run. -/
lemma orderly_runActions {l : List (Action σ)} (hl : ∀ a ∈ l, a.OnLines = true) :
    Steps Orderly (runActions l) :=
  Steps.forM fun a ha => Action.orderly_run (hl a ha)

/-- Reset masks both lines. -/
lemma quiet_cpuReset {s t : Cpu σ} (h : cpuReset s = .ok ((), t)) :
    t.Quiet ∧ t.hist = s.hist := by
  obtain ⟨_, s₁, h₁, k₁⟩ := bind_eq_ok.mp h
  cases h₁
  have rest : Keeps Cpu.core (do
      wrPC (← read16 0xfffe)
      modify fun s => { s with world := Machine.cpuIsRunning s.world } : M σ Unit) :=
    (keeps_read16 _).bind fun _ => (keeps_wrPC _).bind fun _ => Steps.modify fun _ => rfl
  have hl : t.lines = _ := Cpu.lines_of_core (rest _ _ _ k₁)
  have hE : t.EFI = F_FLAG ||| I_FLAG := congrArg Lines.efi hl
  refine ⟨⟨Cpu.irqDeliverable_eq_false.mpr (.inr ?_), Cpu.firqDeliverable_eq_false.mpr (.inr ?_)⟩,
    congrArg Lines.hist hl⟩
  · rw [hE]
    decide
  · rw [hE]
    decide

/-! ## When both lines become deliverable -/

/-- FIRQ is taken first, and the IRQ stays pending. -/
lemma ccCheck_both {s t : Cpu σ} (hc : s.ccChanged ≠ 0) (hf : s.firqDeliverable = true)
    (hr : Event.OnRam σ (.firq s.snapshot)) (h : ccCheck s = .ok ((), t)) :
    t.hist = .firq s.snapshot :: s.hist ∧ t.irqsPending = s.irqsPending := by
  obtain ⟨h0, -⟩ | ⟨-, u, hu, rfl⟩ := ccCheck_eq_ok h
  · exact absurd h0 hc
  obtain ⟨-, hu⟩ | ⟨hn, -⟩ | ⟨hq, -⟩ := pollLines_eq_ok hu
  · obtain ⟨-, -, -, -, es, he, -, -, hram⟩ := firqWith_spec calm_wrmem ramWrite_wrmem hu
    obtain ⟨rfl, hp⟩ := hram hr
    exact ⟨he, hp⟩
  · exact absurd (hf.symm.trans hn) (by decide)
  · exact absurd (hf.symm.trans hq.2) (by decide)

/-- `RTI` works no line itself and always has the lines polled. -/
lemma cpuBody_rti {s m : Cpu σ} (h : cpuBody s = .ok (.rti, m)) :
    m.hist = s.hist ∧ m.irqsPending = s.irqsPending ∧ m.ccChanged = 1 := by
  obtain ⟨u, hf, hx⟩ := cpuBody_eq_ok h
  have hu : u.lines = s.lines := Cpu.lines_of_core (keeps_cpuFetch _ _ _ hf)
  have hrec := Insn.steps_exec_cc (i := .rti) Recoded.ofCore rfl
    (fun _ s v => ⟨rfl, rfl, .inr rfl⟩) hx
  refine ⟨hrec.hist.trans (congrArg Lines.hist hu),
    hrec.irqsPending.trans (congrArg Lines.irqsPending hu), ?_⟩
  -- `set_cc` comes first, and what follows leaves the lines alone
  obtain ⟨_, s₁, h₁, k₁⟩ := bind_eq_ok.mp hx
  obtain ⟨v, s₂, h₂, k₂⟩ := bind_eq_ok.mp k₁
  obtain ⟨_, s₃, h₃, k₃⟩ := bind_eq_ok.mp k₂
  cases h₃
  have rest : Keeps Cpu.core (do
      whenever (← reads Cpu.entireState) rtiContext
      wrPC (← pullS16) : M σ Unit) :=
    (Steps.reads _).bind fun _ => keeps_rtiContext.whenever.bind fun _ => keeps_pullS16.bind keeps_wrPC
  have hl : m.lines = _ := Cpu.lines_of_core (rest _ _ _ k₃)
  exact congrArg Lines.ccChanged hl

/-- At the end of an `RTI` that restores a CC with `I` clear, a pending IRQ is entered unless a
FIRQ is deliverable at that moment. -/
lemma ccCheck_rti {u m w : Cpu σ} (hb : cpuBody u = .ok (.rti, m)) (hw : ccCheck m = .ok ((), w))
    (hp : u.irqsPending ≠ 0) (hm : m.irqMasked = false) (hf : m.firqDeliverable = false) :
    ∃ es, w.hist = es ++ u.hist ∧ .irq m.snapshot ∈ es := by
  obtain ⟨hh, hi, hc⟩ := cpuBody_rti hb
  obtain ⟨h0, -⟩ | ⟨-, v, hv, rfl⟩ := ccCheck_eq_ok hw
  · exact absurd (hc.symm.trans h0) (by decide)
  have hd : m.irqDeliverable = true := by
    simp only [Cpu.irqDeliverable, hm, decide_eq_true_eq]
    exact ⟨hi.trans_ne hp, by decide⟩
  obtain ⟨hn, -⟩ | ⟨-, -, hv⟩ | ⟨hq, -⟩ := pollLines_eq_ok hv
  · exact absurd (hf.symm.trans hn) (by decide)
  · obtain ⟨-, -, -, -, es, he, -, -⟩ := irqWith_spec calm_wrmem ramWrite_wrmem hv
    refine ⟨es ++ [.irq m.snapshot], ?_, by simp⟩
    simp [he, hh]
  · exact absurd (hd.symm.trans hq.1) (by decide)

/-- The check only adds to the history. -/
lemma ccCheck_hist {s t : Cpu σ} (h : ccCheck s = .ok ((), t)) : ∃ es, t.hist = es ++ s.hist := by
  obtain ⟨-, rfl⟩ | ⟨-, u, hu, rfl⟩ := ccCheck_eq_ok h
  · exact ⟨[], rfl⟩
  · obtain ⟨-, es, he, -⟩ := pollLines_spec hu
    exact ⟨es, he⟩

/-- `ANDCC #$AF` at the reset address and an `RTI` as FIRQ handler. -/
def twoFirqs : Flat :=
  ⟨Flat.bytes 0x1000 [0x1c, 0xaf] ++ Flat.bytes 0x2000 [0x3b] ++
    Flat.bytes 0xfff6 [0x20, 0x00] ++ Flat.bytes 0xfffe [0x10, 0x00]⟩

/-- Both lines are requested while masked, `ANDCC` unmasks them, and the FIRQ line is requested
again in the handler. -/
def twoFirqsRun : M Flat Unit := do
  cpuReset
  runActions [.requestIrq 0, .requestFirq 0, .insn, .requestFirq 0, .insn]

lemma ram_flat (addr : Unsigned) : Ram Flat addr := fun _ _ _ _ hx => (List.not_mem_nil hx).elim

lemma onRam_flat (e : Event) : e.OnRam Flat := by
  cases e <;> first | exact fun _ _ => ram_flat _ | trivial

/-- Both lines pending and unmasked, `cc_changed` raised. -/
def bothDeliverable : Cpu Flat :=
  { Cpu.zeroed twoFirqs with ccChanged := 1, irqsPending := 1, firqsPending := 1 }

end Exec09
