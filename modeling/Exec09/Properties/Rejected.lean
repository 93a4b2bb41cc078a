import Exec09.Properties.Modes
import Exec09.Properties.Undisturbed

/-!
# Rejected instructions

With the debugger enabled `sim_error` returns, and what a rejected instruction leaves depends on
where it was rejected.  The argument that most of them leave `PC` behind the instruction has to allow
for interrupts, which load `PC` as well: an interrupt that is entered sets a mask that was clear, so
either `PC` is kept or the masks are not (`Grows`).
-/

namespace Exec09

open Program

variable {σ : Type} [Machine σ]

/-! ## Masks only grow -/

/-- What was masked is masked. -/
structure Masks (s t : Cpu σ) : Prop where
  irq : s.irqMasked = true → t.irqMasked = true
  firq : s.firqMasked = true → t.firqMasked = true

omit [Machine σ] in
lemma Masks.keep {s t : Cpu σ} (h : t.EFI = s.EFI) : Masks s t := by
  constructor <;> simp only [Cpu.irqMasked, Cpu.firqMasked, h] <;> exact id

instance : IsPreorder (Cpu σ) Masks where
  refl _ := Masks.keep rfl
  trans _ _ _ h h' := ⟨h'.irq ∘ h.irq, h'.firq ∘ h.firq⟩

omit [Machine σ] in
lemma Masks.ofCore (s t : Cpu σ) (h : t.core = s.core) : Masks s t :=
  Masks.keep (congrArg Lines.efi (Cpu.lines_of_core h))

omit [Machine σ] in
lemma masks_raise (s : Cpu σ) (m : Unsigned) : Masks s { s with EFI := s.EFI ||| m } := by
  constructor <;> intro h
  · exact decide_eq_true (or_and_ne_zero (of_decide_eq_true h))
  · exact decide_eq_true (or_and_ne_zero (of_decide_eq_true h))

omit [Machine σ] in
lemma masks_clearE (s : Cpu σ) : Masks s { s with EFI := s.EFI &&& ~~~E_FLAG } := by
  have h (b : Unsigned) (hb : ~~~E_FLAG &&& b = b) : (s.EFI &&& ~~~E_FLAG) &&& b = s.EFI &&& b := by
    rw [BitVec.and_assoc, hb]
  have hI := h I_FLAG (by decide)
  have hF := h F_FLAG (by decide)
  constructor <;> simp only [Cpu.irqMasked, Cpu.firqMasked, hI, hF] <;> exact id

section With

variable {write : Unsigned → Unsigned → M σ Unit} (hw : ∀ a d, Steps Masks (write a d))
include hw

lemma masks_irqWith : Steps Masks (irqWith write) :=
  Steps.bind (Steps.modify fun _ => Masks.keep rfl) fun _ =>
  Steps.bind (Steps.modify fun s => masks_raise s E_FLAG) fun _ =>
  (steps_pushAllWith Masks.ofCore hw).bind fun _ =>
  Steps.bind (Steps.modify fun s => masks_raise s I_FLAG) fun _ =>
  ((keeps_read16 _).mono Masks.ofCore).bind fun _ =>
  Steps.bind (Steps.modify fun _ => Masks.keep rfl) fun _ => Steps.modify fun _ => Masks.keep rfl

lemma masks_firqWith : Steps Masks (firqWith write) :=
  Steps.bind (Steps.modify fun _ => Masks.keep rfl) fun _ =>
  Steps.bind (Steps.modify masks_clearE) fun _ =>
  (Steps.reads _).bind fun _ => (steps_pushS16With Masks.ofCore hw _).bind fun _ =>
  (Steps.reads _).bind fun _ => (steps_pushS8With Masks.ofCore hw _).bind fun _ =>
  Steps.bind (Steps.modify fun s => masks_raise s _) fun _ =>
  ((keeps_read16 _).mono Masks.ofCore).bind fun _ =>
  Steps.bind (Steps.modify fun _ => Masks.keep rfl) fun _ => Steps.modify fun _ => Masks.keep rfl

end With

/-! ## Either kept or masked -/

/-- The masks only grow; if they are the same, so is the observation `g`. -/
structure Grows {ω : Type} (g : Cpu σ → ω) (s t : Cpu σ) : Prop extends Masks s t where
  kept : t.irqMasked = s.irqMasked → t.firqMasked = s.firqMasked → g t = g s

omit [Machine σ] in
lemma Bool.between {a b c : Bool} (h : a = true → b = true) (h' : b = true → c = true)
    (hac : c = a) : b = a ∧ c = b := by
  cases a <;> cases b <;> cases c <;> simp_all

section Grows

variable {ω : Type} {g : Cpu σ → ω}

omit [Machine σ] in
lemma Grows.silent {s t : Cpu σ} (hE : t.EFI = s.EFI) (hg : g t = g s) : Grows g s t :=
  ⟨Masks.keep hE, fun _ _ => hg⟩

instance : IsPreorder (Cpu σ) (Grows g) where
  refl _ := Grows.silent rfl rfl
  trans s t u h h' := by
    refine ⟨⟨h'.irq ∘ h.irq, h'.firq ∘ h.firq⟩, fun hi hf => ?_⟩
    obtain ⟨hi, hi'⟩ := Bool.between h.irq h'.irq hi
    obtain ⟨hf, hf'⟩ := Bool.between h.firq h'.firq hf
    exact (h'.kept hi' hf').trans (h.kept hi hf)

omit [Machine σ] in
/-- A handler has been entered: one more line is masked. -/
lemma Grows.entered_irq {s t : Cpu σ} (h : Masks s t) (hs : s.irqMasked = false)
    (ht : t.irqMasked = true) : Grows g s t :=
  ⟨h, fun hi => absurd (hs ▸ ht ▸ hi) (by decide)⟩

omit [Machine σ] in
lemma Grows.entered_firq {s t : Cpu σ} (h : Masks s t) (hs : s.firqMasked = false)
    (ht : t.firqMasked = true) : Grows g s t :=
  ⟨h, fun _ hf => absurd (hs ▸ ht ▸ hf) (by decide)⟩

omit [Machine σ] in
lemma Cpu.irqMasked_of_ne {s : Cpu σ} (h : s.EFI &&& I_FLAG ≠ 0) : s.irqMasked = true :=
  decide_eq_true h

omit [Machine σ] in
lemma Cpu.irqMasked_of_eq {s : Cpu σ} (h : s.EFI &&& I_FLAG = 0) : s.irqMasked = false :=
  decide_eq_false (not_not.mpr h)

omit [Machine σ] in
lemma Cpu.firqMasked_of_ne {s : Cpu σ} (h : s.EFI &&& F_FLAG ≠ 0) : s.firqMasked = true :=
  decide_eq_true h

omit [Machine σ] in
lemma Cpu.firqMasked_of_eq {s : Cpu σ} (h : s.EFI &&& F_FLAG = 0) : s.firqMasked = false :=
  decide_eq_false (not_not.mpr h)

section Writing

-- `g` is a register: something a write leaves alone unless it enters a handler.
variable (hg : ∀ s t : Cpu σ, t.still = s.still → g t = g s)
include hg

lemma grows_effectWith {write : Unsigned → Unsigned → M σ Unit}
    (hc : ∀ a d, Steps Calm (write a d)) (hr : RamWrite write)
    (hm : ∀ a d, Steps Masks (write a d)) (x : Effect) : Steps (Grows g) (effectWith write x) := by
  cases x with
  | signal e =>
      intro s _ t h
      obtain ⟨on, n, rfl⟩ := signal_eq_ok h
      exact Grows.silent rfl (hg _ _ rfl)
  | requestIrq source =>
      intro s _ t h
      obtain ⟨-, rfl⟩ | ⟨hI, s₂, h₂, rfl⟩ := requestIrqWith_eq_ok h
      · exact Grows.silent rfl (hg _ _ rfl)
      · obtain ⟨-, -, hI₂, -⟩ := irqWith_spec hc hr h₂
        have pend : Masks s (s.pendIrq source) := Masks.keep rfl
        exact Grows.entered_irq (IsTrans.trans _ _ _ pend
          (IsTrans.trans _ _ _ (masks_irqWith hm _ _ _ h₂) (Masks.keep rfl)))
          (Cpu.irqMasked_of_eq hI) (Cpu.irqMasked_of_ne hI₂)
  | releaseIrq source =>
      intro s _ t h
      cases h
      exact Grows.silent rfl (hg _ _ rfl)
  | requestFirq source =>
      intro s _ t h
      obtain ⟨-, rfl⟩ | ⟨hF, s₂, h₂, rfl⟩ := requestFirqWith_eq_ok h
      · exact Grows.silent rfl (hg _ _ rfl)
      · obtain ⟨-, -, -, hF₂, -⟩ := firqWith_spec hc hr h₂
        have pend : Masks s (s.pendFirq source) := Masks.keep rfl
        exact Grows.entered_firq (IsTrans.trans _ _ _ pend
          (IsTrans.trans _ _ _ (masks_firqWith hm _ _ _ h₂) (Masks.keep rfl)))
          (Cpu.firqMasked_of_eq hF) (Cpu.firqMasked_of_ne hF₂)
  | releaseFirq source =>
      intro s _ t h
      cases h
      exact Grows.silent rfl (hg _ _ rfl)

lemma grows_writeN (n : Nat) : ∀ a d, Steps (Grows g) (writeN n a d : M σ Unit) := by
  induction n with
  | zero => exact fun _ _ => Steps.throw _
  | succ n ih =>
      intro a d
      have hm (a d : Unsigned) : Steps Masks (writeN n a d : M σ Unit) :=
        (ih a d).mono fun _ _ h => h.toMasks
      refine Steps.bind (Steps.modifyGet fun s => Grows.silent rfl (hg _ _ rfl)) fun r => ?_
      exact Steps.forM fun x _ => grows_effectWith hg (calm_writeN n) (ramWrite_writeN n) hm x

/-- **A bus write keeps the registers, or a line that was clear is masked.** -/
lemma grows_wrmem (a d : Unsigned) : Steps (Grows g) (wrmem a d : M σ Unit) := grows_writeN hg _ a d

end Writing

end Grows

lemma masks_wrmem (a d : Unsigned) : Steps Masks (wrmem a d : M σ Unit) :=
  (grows_wrmem (g := Cpu.still) (fun _ _ h => h) a d).mono fun _ _ h => h.toMasks

/-! ## The check at the end -/

omit [Machine σ] in
/-- The check at the end of the iteration enters a handler. -/
def Cpu.Polls (s : Cpu σ) : Prop :=
  s.ccChanged ≠ 0 ∧ (s.irqDeliverable = true ∨ s.firqDeliverable = true)

omit [Machine σ] in
/-- One of the masks is no longer what it was. -/
def Remasked (s t : Cpu σ) : Prop :=
  ¬(t.irqMasked = s.irqMasked ∧ t.firqMasked = s.firqMasked)

omit [Machine σ] in
lemma remasked_irq {s t : Cpu σ} (hs : s.irqDeliverable = true) (ht : t.EFI &&& I_FLAG ≠ 0) :
    Remasked s t := by
  have h : ¬s.irqMasked := (of_decide_eq_true hs).2
  rintro ⟨hi, -⟩
  exact h (hi ▸ Cpu.irqMasked_of_ne ht)

omit [Machine σ] in
lemma remasked_firq {s t : Cpu σ} (hs : s.firqDeliverable = true) (ht : t.EFI &&& F_FLAG ≠ 0) :
    Remasked s t := by
  have h : ¬s.firqMasked := (of_decide_eq_true hs).2
  rintro ⟨-, hf⟩
  exact h (hf ▸ Cpu.firqMasked_of_ne ht)

lemma ccCheck_polls {s t : Cpu σ} (hp : s.Polls) (h : ccCheck s = .ok ((), t)) : Remasked s t := by
  obtain ⟨hc, -⟩ | ⟨-, u, hu, rfl⟩ := ccCheck_eq_ok h
  · exact absurd hc hp.1
  obtain ⟨hf, hx⟩ | ⟨-, hi, hx⟩ | ⟨hq, rfl⟩ := pollLines_eq_ok hu
  · obtain ⟨-, -, -, hF, -⟩ := firqWith_spec calm_wrmem ramWrite_wrmem hx
    exact remasked_firq hf hF
  · obtain ⟨-, -, hI, -⟩ := irqWith_spec calm_wrmem ramWrite_wrmem hx
    exact remasked_irq hi hI
  · exact absurd hp.2 (by simp [hq.1, hq.2])

lemma masks_ccCheck {s t : Cpu σ} (h : ccCheck s = .ok ((), t)) : Masks s t := by
  obtain ⟨-, rfl⟩ | ⟨-, u, hu, rfl⟩ := ccCheck_eq_ok h
  · exact Masks.keep rfl
  refine IsTrans.trans _ u _ ?_ (Masks.keep rfl)
  obtain ⟨-, hx⟩ | ⟨-, -, hx⟩ | ⟨-, rfl⟩ := pollLines_eq_ok hu
  · exact masks_firqWith masks_wrmem _ _ _ hx
  · exact masks_irqWith masks_wrmem _ _ _ hx
  · exact Masks.keep rfl

lemma ccCheck_not_polls {s : Cpu σ} (hp : ¬s.Polls) :
    ccCheck s = .ok ((), { s with ccChanged := 0 }) := by
  by_cases hc : s.ccChanged = 0
  · have hs : { s with ccChanged := 0 } = s := by rw [← hc]
    rw [hs, ccCheck, ok_bind (reads_apply Cpu.ccChanged s), whenever, if_neg (not_not.mpr hc)]
    rfl
  · have hq : ¬(s.irqDeliverable = true ∨ s.firqDeliverable = true) := fun h => hp ⟨hc, h⟩
    rw [not_or] at hq
    have poll : pollLines s = .ok ((), s) := by
      rw [pollLines, ok_bind (reads_apply Cpu.firqDeliverable s), if_neg hq.2,
        ok_bind (reads_apply Cpu.irqDeliverable s), if_neg hq.1]
      rfl
    rw [ccCheck, ok_bind (reads_apply Cpu.ccChanged s), whenever, if_pos hc, ccModified,
      ok_bind poll]
    rfl

/-- The check keeps a register that `cc_changed` is no part of, or masks a line. -/
lemma grows_ccCheck {ω : Type} {g : Cpu σ → ω}
    (hg : ∀ (s : Cpu σ) c, g { s with ccChanged := c } = g s) : Steps (Grows g) (ccCheck : M σ Unit) := by
  intro s _ t h
  by_cases hp : s.Polls
  · exact ⟨masks_ccCheck h, fun hi hf => absurd ⟨hi, hf⟩ (ccCheck_polls hp h)⟩
  · rw [ccCheck_not_polls hp] at h
    cases h
    exact Grows.silent rfl (hg s 0)

/-! ## The body behind an index postbyte -/

omit [Machine σ] in
/-- `PC`, and the masks with it. -/
def Cpu.place (s : Cpu σ) : Unsigned × Unsigned := (s.PC, s.EFI)

lemma keepsPlace_rdmem (a : Unsigned) : Keeps Cpu.place (rdmem a : M σ Unsigned) := by
  intro s v t h
  obtain ⟨-, on, n, rfl⟩ := rdmem_eq_ok h
  rfl

lemma keepsPlace_rdmemEa : Keeps Cpu.place (rdmemEa : M σ Unsigned) :=
  (Steps.reads _).bind keepsPlace_rdmem

lemma keepsPlace_rdmem16Ea : Keeps Cpu.place (rdmem16Ea : M σ Unsigned) :=
  (Steps.reads _).bind fun a => (keepsPlace_rdmem a).bind fun _ =>
    Steps.bind (Steps.modify fun _ => rfl) fun _ => (keepsPlace_rdmem _).bind fun _ => Steps.pure _

omit [Machine σ] in
lemma keepsPlace_alu {α : Type} (g : Flags → α × Flags) : Keeps Cpu.place (alu g : M σ α) :=
  Steps.modifyGet fun _ => rfl

omit [Machine σ] in
lemma keepsPlace_unary (g : Unsigned → Flags → Unsigned × Flags) (arg : Unsigned) :
    Keeps Cpu.place (unary g arg : M σ Unsigned) :=
  (keepsPlace_alu _).bind fun _ => Steps.bind (Steps.modify fun _ => rfl) fun _ => Steps.pure _

omit [Machine σ] in
lemma Acc.keepsPlace_get (r : Acc) : Keeps Cpu.place (r.get : M σ Unsigned) := by
  cases r <;> exact Steps.reads _

omit [Machine σ] in
lemma Acc.keepsPlace_put (r : Acc) (v : Unsigned) : Keeps Cpu.place (r.put v : M σ Unit) := by
  cases r <;> exact Steps.modify fun _ => rfl

omit [Machine σ] in
lemma IndexReg.keepsPlace_get (r : IndexReg) : Keeps Cpu.place (r.get : M σ Unsigned) := by
  cases r <;> exact Steps.reads _

omit [Machine σ] in
lemma IndexReg.keepsPlace_put (r : IndexReg) (v : Unsigned) :
    Keeps Cpu.place (r.put v : M σ Unit) := by
  cases r <;> exact Steps.modify fun _ => rfl

omit [Machine σ] in
lemma Cmp16.keepsPlace_get (r : Cmp16) : Keeps Cpu.place (r.get : M σ Unsigned) := by
  cases r <;> exact Steps.reads _

omit [Machine σ] in
lemma keepsPlace_wrAB (res : Unsigned) : Keeps Cpu.place (wrAB res : M σ Unit) :=
  Steps.bind (Steps.modify fun _ => rfl) fun _ => Steps.modify fun _ => rfl

omit [Machine σ] in
lemma Bin16.keepsPlace_run (op : Bin16) (v : Unsigned) : Keeps Cpu.place (op.run v : M σ Unit) := by
  cases op <;> exact (Steps.reads _).bind fun _ => (keepsPlace_alu _).bind keepsPlace_wrAB

omit [Machine σ] in
lemma Steps.ofPlace {α : Type} {m : M σ α} (h : Keeps Cpu.place m) : Steps (Grows Cpu.PC) m :=
  h.mono fun _ _ h => Grows.silent (congrArg Prod.snd h) (congrArg Prod.fst h)

lemma growsPC_wrmem (a d : Unsigned) : Steps (Grows Cpu.PC) (wrmem a d : M σ Unit) :=
  grows_wrmem (fun _ _ h => congrArg Still.PC h) a d

lemma growsPC_wrmem16 (a d : Unsigned) : Steps (Grows Cpu.PC) (wrmem16 a d : M σ Unit) :=
  (growsPC_wrmem _ _).bind fun _ =>
    Steps.bind (Steps.modify fun _ => Grows.silent rfl rfl) fun _ => growsPC_wrmem _ _

omit [Machine σ] in
/-- The address computation an instruction starts with. -/
def Insn.ea? : Insn → Option Ea
  | .unaryMem _ ea | .tstMem ea | .jmp ea | .jsr ea | .bin8 _ _ (.mem ea) | .test8 _ _ (.mem ea)
  | .ld8 _ (.mem ea) | .st8 _ ea | .bin16 _ (.mem ea) | .ldd (.mem ea) | .std ea
  | .cmp16 _ (.mem ea) | .ld16 _ (.mem ea) | .st16 _ ea => some ea
  | .lea _ | .leaStack _ => some .indexed
  | _ => none

/-- What follows the address computation keeps `PC` unless an interrupt is entered, the two jumps
excepted. -/
lemma Insn.exec_andThen {i : Insn} {ea : Ea} (h : i.ea? = some ea) (hj : i ≠ .jmp ea)
    (hs : i ≠ .jsr ea) : ∃ k : M σ Unit, i.exec = ea.andThen k ∧ Steps (Grows Cpu.PC) k := by
  have tick1 : Keeps Cpu.place (tick 1 : M σ Unit) := Steps.modify fun _ => rfl
  cases i with
  | unaryMem op ea =>
      cases h
      exact ⟨_, rfl, (Steps.ofPlace keepsPlace_rdmemEa).bind fun _ =>
        (Steps.ofPlace (keepsPlace_unary _ _)).bind fun _ => (Steps.reads _).bind fun _ =>
        growsPC_wrmem _ _⟩
  | tstMem ea =>
      cases h
      exact ⟨_, rfl, Steps.ofPlace <| keepsPlace_rdmemEa.bind fun _ =>
        (keepsPlace_alu _).bind fun _ => Steps.modify fun _ => rfl⟩
  | jmp ea =>
      cases h
      exact absurd rfl hj
  | jsr ea =>
      cases h
      exact absurd rfl hs
  | bin8 op r src =>
      cases src with
      | imm => cases h
      | mem ea =>
          cases h
          exact ⟨_, rfl, Steps.ofPlace <| r.keepsPlace_get.bind fun _ =>
            keepsPlace_rdmemEa.bind fun _ => (keepsPlace_alu _).bind r.keepsPlace_put⟩
  | test8 op r src =>
      cases src with
      | imm => cases h
      | mem ea =>
          cases h
          exact ⟨_, rfl, Steps.ofPlace <| r.keepsPlace_get.bind fun _ =>
            keepsPlace_rdmemEa.bind fun _ => keepsPlace_alu _⟩
  | ld8 r src =>
      cases src with
      | imm => cases h
      | mem ea =>
          cases h
          exact ⟨_, rfl, Steps.ofPlace <| keepsPlace_rdmemEa.bind fun _ =>
            (keepsPlace_alu _).bind r.keepsPlace_put⟩
  | st8 r ea =>
      cases h
      exact ⟨_, rfl, (Steps.ofPlace r.keepsPlace_get).bind fun _ =>
        (Steps.ofPlace (keepsPlace_alu _)).bind fun _ => (Steps.reads _).bind fun _ =>
        growsPC_wrmem _ _⟩
  | bin16 op src =>
      cases src with
      | imm clk => cases h
      | mem ea =>
          cases h
          exact ⟨_, rfl, Steps.ofPlace <| keepsPlace_rdmem16Ea.bind fun _ =>
            (op.keepsPlace_run _).bind fun _ => tick1⟩
  | ldd src =>
      cases src with
      | imm clk => cases h
      | mem ea =>
          cases h
          exact ⟨_, rfl, Steps.ofPlace <| keepsPlace_rdmem16Ea.bind fun _ =>
            (keepsPlace_alu _).bind keepsPlace_wrAB⟩
  | std ea =>
      cases h
      exact ⟨_, rfl, (Steps.reads _).bind fun _ => (Steps.reads _).bind fun _ =>
        (Steps.ofPlace (keepsPlace_alu _)).bind fun _ => (Steps.reads _).bind fun _ =>
        (Steps.reads _).bind fun _ => growsPC_wrmem16 _ _⟩
  | cmp16 r src =>
      cases src with
      | imm clk => cases h
      | mem ea =>
          cases h
          exact ⟨_, rfl, Steps.ofPlace <| r.keepsPlace_get.bind fun _ =>
            keepsPlace_rdmem16Ea.bind fun _ => (keepsPlace_alu _).bind fun _ => tick1⟩
  | ld16 r src =>
      cases src with
      | imm clk => cases h
      | mem ea =>
          cases h
          exact ⟨_, rfl, Steps.ofPlace <| keepsPlace_rdmem16Ea.bind fun _ =>
            (keepsPlace_alu _).bind r.keepsPlace_put⟩
  | st16 r ea =>
      cases h
      exact ⟨_, rfl, (Steps.ofPlace r.keepsPlace_get).bind fun _ =>
        (Steps.ofPlace (keepsPlace_alu _)).bind fun _ => (Steps.reads _).bind fun _ =>
        growsPC_wrmem16 _ _⟩
  | lea r =>
      cases h
      exact ⟨_, rfl, Steps.ofPlace <| (Steps.reads _).bind fun _ =>
        (r.keepsPlace_put _).bind fun _ => (Steps.reads _).bind fun _ => Steps.modify fun _ => rfl⟩
  | leaStack r =>
      cases h
      exact ⟨_, rfl, Steps.ofPlace <| (Steps.reads _).bind fun _ =>
        r.keepsPlace_put _⟩
  | _ => cases h

/-! ## Fetching -/

omit [Machine σ] in
/-- Code bytes have been fetched: `PC` has moved by `n`, and reading may have done to the world what
it does. -/
def Fetched (n : Unsigned) (s t : Cpu σ) : Prop :=
  ∃ c w on e, t = { s with PC := s.PC + n, cpuClk := c, world := w, monitorOn := on, simErrors := e }

lemma fetched_immByte {s t : Cpu σ} {v : Unsigned} (h : immByte s = .ok (v, t)) : Fetched 1 s t := by
  obtain ⟨pc, s₁, h₁, h⟩ := bind_eq_ok.mp h
  obtain ⟨b, s₂, h₂, h⟩ := bind_eq_ok.mp h
  obtain ⟨_, s₃, h₃, h⟩ := bind_eq_ok.mp h
  cases h₁
  obtain ⟨-, on, n, rfl⟩ := rdmem_eq_ok h₂
  cases h₃
  cases h
  exact ⟨s.cpuClk, _, on, n, rfl⟩

omit [Machine σ] in
lemma Fetched.trans {m n : Unsigned} {s t u : Cpu σ} (h : Fetched m s t) (h' : Fetched n t u) :
    Fetched (m + n) s u := by
  obtain ⟨c, w, on, e, rfl⟩ := h
  obtain ⟨c', w', on', e', rfl⟩ := h'
  exact ⟨c', w', on', e', by simp only [BitVec.add_assoc]⟩

/-- Decoding fetches one byte, or two behind a prefix. -/
lemma fetched_decode {s t : Cpu σ} {i : Insn} (h : decode s = .ok (i, t)) :
    ∃ n, (n = 1 ∨ n = 2) ∧ Fetched n s t := by
  obtain ⟨opcode, u, hu, h⟩ := bind_eq_ok.mp h
  have first := fetched_immByte hu
  rcases hl : insns0.lookup opcode with _ | (j | _ | _) <;> rw [hl] at h
  · cases h
    exact ⟨1, .inl rfl, first⟩
  · cases h
    exact ⟨1, .inl rfl, first⟩
  · obtain ⟨b, v, hv, h⟩ := bind_eq_ok.mp h
    cases h
    exact ⟨1 + 1, .inr rfl, first.trans (fetched_immByte hv)⟩
  · obtain ⟨b, v, hv, h⟩ := bind_eq_ok.mp h
    cases h
    exact ⟨1 + 1, .inr rfl, first.trans (fetched_immByte hv)⟩

lemma fetched_cpuFetch {s t : Cpu σ} {i : Insn} (h : cpuFetch s = .ok (i, t)) :
    ∃ n, (n = 1 ∨ n = 2) ∧ Fetched n { s with iPC := s.PC } t := by
  obtain ⟨_, u, hu, h⟩ := bind_eq_ok.mp h
  cases hu
  exact fetched_decode h

/-- The byte an indexed address computation starts with, and the cycles charged before it. -/
def Ea.readPost : Ea → M σ Unsigned
  | .tickIndexed clk => do tick clk; immByte
  | _ => immByte

lemma fetched_readPost {ea : Ea} {s t : Cpu σ} {v : Unsigned} (h : ea.readPost s = .ok (v, t)) :
    Fetched 1 s t := by
  cases ea with
  | tickIndexed clk =>
      obtain ⟨_, u, hu, h⟩ := bind_eq_ok.mp h
      cases hu
      obtain ⟨c, w, on, e, rfl⟩ := fetched_immByte h
      exact ⟨c, w, on, e, rfl⟩
  | _ => exact fetched_immByte h

omit [Machine σ] in
/-- What is left after an undefined postbyte: the effective address is 0, and `PC` is behind the
postbyte. -/
structure Reported (u v w : Cpu σ) : Prop where
  lines : w.lines = u.lines
  registers : w.registers = u.registers
  PC : w.PC = u.PC + 1
  ea : w.ea = 0
  world : w.world = v.world

lemma simError_debug (hd : Machine.debugEnabled σ = true) (s : Cpu σ) :
    simError s = .ok ((), { s with monitorOn := true, simErrors := s.simErrors + 1 }) := by
  rw [simError, ok_bind (modify_apply _ s), if_pos hd]
  rfl

lemma indexedPost_illegal (hd : Machine.debugEnabled σ = true) {post : Unsigned}
    (hp : decodePost post = .illegal) (v : Cpu σ) :
    indexedPost post v =
      .ok ((), { v with ea := 0, monitorOn := true, simErrors := v.simErrors + 1 }) := by
  rw [indexedPost_eq, hp]
  exact (ok_bind (modify_apply _ v)).trans (simError_debug hd _)

/-- **Behind an undefined postbyte the body runs on, with address 0.** -/
lemma andThen_illegal (hd : Machine.debugEnabled σ = true) {ea : Ea} (hi : ea.mode = .indexed)
    {post : Unsigned} (hp : decodePost post = .illegal) {u v : Cpu σ}
    (hv : ea.readPost u = .ok (post, v)) (k : M σ Unit) :
    ∃ w, Reported u v w ∧ ea.andThen k u = k w := by
  have hx {u : Cpu σ} (h : immByte u = .ok (post, v)) : indexed u = _ :=
    (ok_bind h).trans (indexedPost_illegal hd hp v)
  obtain ⟨c, wo, on, e, hf⟩ := fetched_readPost hv
  have reported (c : Int) : Reported u v
      { v with ea := 0, cpuClk := c, monitorOn := true, simErrors := v.simErrors + 1 } := by
    subst hf
    exact ⟨rfl, rfl, rfl, rfl, rfl⟩
  cases ea with
  | direct clk => cases hi
  | extended clk => cases hi
  | indexed => exact ⟨_, reported v.cpuClk, ok_bind (hx hv)⟩
  | tickIndexed clk =>
      exact ⟨_, reported v.cpuClk, (ok_bind (tick_apply clk u)).trans (ok_bind (hx hv))⟩
  | indexedTick clk =>
      exact ⟨_, reported (v.cpuClk - clk), (ok_bind (hx hv)).trans (ok_bind (tick_apply clk _))⟩

/-! ## What a rejected instruction leaves -/

/-- The instruction at `PC` is rejected: it decodes to one of the two defaults, or it is indexed and
its postbyte is undefined.  `v` is the state once its bytes have been fetched. -/
inductive Rejected (s : Cpu σ) : Insn → Cpu σ → Prop
  | opcode {v : Cpu σ} (h : cpuFetch s = .ok (.invalid, v)) : Rejected s .invalid v
  | prefixed {v : Cpu σ} (h : cpuFetch s = .ok (.invalidPrefixed, v)) :
      Rejected s .invalidPrefixed v
  | postbyte {i : Insn} {ea : Ea} {u v : Cpu σ} {post : Unsigned} (h : cpuFetch s = .ok (i, u))
      (he : i.ea? = some ea) (hi : ea.mode = .indexed) (hv : ea.readPost u = .ok (post, v))
      (hp : decodePost post = .illegal) : Rejected s i v

omit [Machine σ] in
/-- The registers, the flags, `PC` and what counts as memory are as before. -/
structure Untouched {μ : Type} (memory : σ → μ) (s t : Cpu σ) : Prop where
  registers : t.registers = s.registers
  PC : t.PC = s.PC
  memory : memory t.world = memory s.world

omit [Machine σ] in
lemma Untouched.masks {μ : Type} {memory : σ → μ} {s t : Cpu σ} (h : Untouched memory s t) :
    t.irqMasked = s.irqMasked ∧ t.firqMasked = s.firqMasked := by
  have hcc : t.getCc = s.getCc := congrArg Registers.cc h.registers
  have hI : t.EFI &&& I_FLAG = s.EFI &&& I_FLAG := by
    rw [← t.getCc_and (by decide), ← s.getCc_and (by decide), hcc]
  have hF : t.EFI &&& F_FLAG = s.EFI &&& F_FLAG := by
    rw [← t.getCc_and (by decide), ← s.getCc_and (by decide), hcc]
  simp only [Cpu.irqMasked, Cpu.firqMasked, hI, hF, and_self]

omit [Machine σ] in
/-- The default of the main switch, or a jump at address 0. -/
def Insn.Returns (i : Insn) (s : Cpu σ) : Prop := i = .invalid ∨ (∃ ea, i = .jmp ea) ∧ s.PC = 0

omit [Machine σ] in
lemma Insn.returns_jmp {ea : Ea} {s : Cpu σ} : (Insn.jmp ea).Returns s ↔ s.PC = 0 := by
  simp [Insn.Returns]

omit [Machine σ] in
lemma Insn.not_returns {i : Insn} {ea : Ea} (he : i.ea? = some ea) (hj : i ≠ .jmp ea) (s : Cpu σ) :
    ¬i.Returns s := by
  rintro (rfl | ⟨⟨ea', rfl⟩, -⟩)
  · cases he
  · cases he
    exact hj rfl

lemma jsr_eq_ok {s t : Cpu σ} (h : Exec09.jsr s = .ok ((), t)) :
    Grows Cpu.S { s with S := (s.S - 2) &&& 0xffff } t := by
  have write := grows_wrmem (σ := σ) (g := Cpu.S) fun _ _ h => congrArg Still.S h
  obtain ⟨pc, s₁, h₁, k₁⟩ := bind_eq_ok.mp h
  obtain ⟨_, s₂, h₂, k₂⟩ := bind_eq_ok.mp k₁
  cases h₁
  obtain ⟨_, s₃, h₃, k₃⟩ := bind_eq_ok.mp h₂
  cases h₃
  have push : Grows Cpu.S { s with S := (s.S - 2) &&& 0xffff } s₂ :=
    ((Steps.reads _).bind fun _ => (write _ _).bind fun _ => write _ _) _ _ _ k₃
  obtain ⟨ea, s₄, h₄, k₄⟩ := bind_eq_ok.mp k₂
  cases h₄
  cases k₄
  exact IsTrans.trans _ _ _ push (Grows.silent rfl rfl)

lemma stack_moves (S : Unsigned) : (S - 2) &&& 0xffff ≠ S := by
  intro h
  have hn := congrArg BitVec.toNat h
  rw [Words.toNat_and_low 16 (by decide), BitVec.toNat_sub] at hn
  have h2 : (2 : Unsigned).toNat = 2 := rfl
  omega

lemma cpuInsn_of_fetch {s u : Cpu σ} {i : Insn} (h : cpuFetch s = .ok (i, u)) :
    cpuInsn s = (do i.exec; ccCheck) u := by
  have heq : (cpuInsn : M σ Unit) = (do let i ← cpuFetch; i.exec; ccCheck) := by
    simp only [cpuInsn_eq, cpuFetch, bind_assoc]
  rw [heq, ok_bind h]

omit [Machine σ] in
/-- An outcome that keeps a register from where it has been moved, or masks more lines than there
were, does not leave the machine as it was. -/
lemma not_untouched {ω μ : Type} {memory : σ → μ} {g : Cpu σ → ω} {s w : Cpu σ}
    {x : Except Exit (Unit × Cpu σ)} (hE : w.EFI = s.EFI)
    (hg : ∀ t, Untouched memory s t → g t = g s) (hw : g w ≠ g s)
    (hx : ∀ t, x = .ok ((), t) → Grows g w t) : ¬∃ t, x = .ok ((), t) ∧ Untouched memory s t := by
  rintro ⟨t, ht, hu⟩
  have hm := hu.masks
  have hgrow := hx t ht
  have keep : g t = g w := hgrow.kept
    (hm.1.trans (by simp only [Cpu.irqMasked, hE])) (hm.2.trans (by simp only [Cpu.firqMasked, hE]))
  exact hw (keep.symm.trans (hg t hu))

/-- An iteration that has come back to where it was leaves the machine as it was unless the check at
its end enters a handler. -/
lemma untouched_iff_not_polls {μ : Type} {memory : σ → μ} {s m : Cpu σ}
    (hl : m.lines = s.lines) (hr : m.registers = s.registers) :
    (∃ t, ccCheck m = .ok ((), t) ∧ Untouched memory s t) ↔
      m.PC = s.PC ∧ ¬s.Polls ∧ memory m.world = memory s.world := by
  have hE : m.EFI = s.EFI := congrArg Lines.efi hl
  have hp : m.Polls ↔ s.Polls := by
    rw [Cpu.Polls, Cpu.Polls, show m.ccChanged = s.ccChanged from congrArg Lines.ccChanged hl,
      Cpu.irqDeliverable_of_lines hl, Cpu.firqDeliverable_of_lines hl]
  constructor
  · rintro ⟨t, ht, hu⟩
    have hn : ¬m.Polls := fun hm => ccCheck_polls hm ht
      ⟨hu.masks.1.trans (by simp only [Cpu.irqMasked, hE]),
        hu.masks.2.trans (by simp only [Cpu.firqMasked, hE])⟩
    rw [ccCheck_not_polls hn] at ht
    cases ht
    exact ⟨hu.PC, mt hp.mpr hn, hu.memory⟩
  · rintro ⟨hPC, hn, hw⟩
    exact ⟨_, ccCheck_not_polls (mt hp.mp hn), hr, hPC, hw⟩

/-- The registers, the lines and `EFI` of a state reached by fetching. -/
lemma fetched_frame {s v : Cpu σ} {i : Insn} (h : cpuFetch s = .ok (i, v)) :
    v.lines = s.lines ∧ v.registers = s.registers ∧ v.iPC = s.PC ∧ v.PC ≠ s.PC ∧ v.PC + 1 ≠ s.PC := by
  obtain ⟨n, rfl | rfl, c, w, on, e, rfl⟩ := fetched_cpuFetch h
  · exact ⟨rfl, rfl, rfl, by simp, by simp [BitVec.add_assoc]⟩
  · exact ⟨rfl, rfl, rfl, by simp, by simp [BitVec.add_assoc]⟩

lemma invalidOpcode_debug (hd : Machine.debugEnabled σ = true) (s : Cpu σ) :
    invalidOpcode s = .ok ((), { s with
      PC := s.iPC, cpuClk := s.cpuClk - 2, monitorOn := true, simErrors := s.simErrors + 1 }) :=
  (ok_bind (tick_apply 2 s)).trans (ok_bind (simError_debug hd _))

/-- **What a rejected instruction leaves.**  With the debugger enabled, an iteration that rejects its
instruction leaves the registers, the flags, `PC` and memory as they were exactly when the
instruction is the default of the main switch, or a jump with an undefined postbyte at address 0,
no handler is entered at its end, and fetching it did not change memory. -/
theorem rejected_untouched {μ : Type} (memory : σ → μ) (hd : Machine.debugEnabled σ = true)
    {s v : Cpu σ} {i : Insn} (h : Rejected s i v) :
    (∃ t, cpuInsn s = .ok ((), t) ∧ Untouched memory s t) ↔
      i.Returns s ∧ ¬s.Polls ∧ memory v.world = memory s.world := by
  cases h with
  | opcode hf =>
      obtain ⟨hl, hr, hi, -, -⟩ := fetched_frame hf
      rw [cpuInsn_of_fetch hf, Insn.exec, ok_bind (invalidOpcode_debug hd v)]
      refine (untouched_iff_not_polls ?_ ?_).trans ?_
      · exact hl
      · exact hr
      · simp [Insn.Returns, hi]
  | prefixed hf =>
      obtain ⟨hl, -, -, hPC, -⟩ := fetched_frame hf
      have hE : v.EFI = s.EFI := congrArg Lines.efi hl
      rw [cpuInsn_of_fetch hf, Insn.exec, ok_bind (simError_debug hd v)]
      refine iff_of_false (not_untouched ?_ (fun _ ht => ht.PC) ?_
        (grows_ccCheck (fun _ _ => rfl) _ ())) ?_
      · exact hE
      · exact hPC
      · simp [Insn.Returns]
  | postbyte hf he hi hv hp =>
      rename_i ea u post
      obtain ⟨hl, hr, -, -, hPC⟩ := fetched_frame hf
      rw [cpuInsn_of_fetch hf]
      by_cases hj : i = .jmp ea
      · subst hj
        obtain ⟨w, hw, hk⟩ := andThen_illegal hd hi hp hv (do wrPC (← rdEa))
        rw [Insn.exec, ok_bind (hk.trans (ok_bind (reads_apply Cpu.ea w)))]
        refine (untouched_iff_not_polls ?_ ?_).trans ?_
        · exact hw.lines.trans hl
        · exact hw.registers.trans hr
        · rw [Insn.returns_jmp, ← hw.world, hw.ea]
          exact and_congr_left' eq_comm
      · -- the body runs on, and its end is not where it started
        refine iff_of_false ?_ fun h => Insn.not_returns he hj s h.1
        by_cases hs : i = .jsr ea
        · subst hs
          obtain ⟨w, hw, hk⟩ := andThen_illegal hd hi hp hv Exec09.jsr
          have hS : w.S = s.S := congrArg Registers.S (hw.registers.trans hr)
          have moved : Cpu.S { w with S := (w.S - 2) &&& 0xffff } ≠ s.S := hS ▸ stack_moves w.S
          refine not_untouched (g := Cpu.S) ?_ (fun _ ht => congrArg Registers.S ht.registers) moved
            fun t ht => ?_
          · exact congrArg Lines.efi (hw.lines.trans hl)
          · obtain ⟨_, x, hx, hc⟩ := bind_eq_ok.mp ht
            exact IsTrans.trans _ x _ (jsr_eq_ok (hk.symm.trans hx))
              (grows_ccCheck (fun _ _ => rfl) _ _ _ hc)
        · obtain ⟨k, hik, hg⟩ := Insn.exec_andThen (σ := σ) he hj hs
          obtain ⟨w, hw, hk⟩ := andThen_illegal hd hi hp hv k
          rw [hik]
          have moved : w.PC ≠ s.PC := hw.PC ▸ hPC
          refine not_untouched ?_ (fun _ ht => ht.PC) moved fun t ht => ?_
          · exact congrArg Lines.efi (hw.lines.trans hl)
          · obtain ⟨_, x, hx, hc⟩ := bind_eq_ok.mp ht
            exact IsTrans.trans _ x _ (hg _ _ _ (hk.symm.trans hx))
              (grows_ccCheck (fun _ _ => rfl) _ _ _ hc)

/-! ## On a machine with a debugger -/

/-- The smallest machine, with the debugger enabled. -/
structure Debugged where
  flat : Flat
  deriving DecidableEq, Repr

instance : Machine Debugged where
  read8 v w addr := ⟨(Machine.read8 v w.flat addr).val, w, []⟩
  read16 v w addr := ⟨(Machine.read16 v w.flat addr).val, w, []⟩
  write8 v w addr d := ⟨⟨(Machine.write8 v w.flat addr d).world⟩, []⟩
  insnHook _ w := ⟨(), w, []⟩
  cpuIsRunning w := w
  debugEnabled := true
  nesting := 1

/-- A program at address 0x100. -/
def debugging (prog : List U8) : Cpu Debugged :=
  { Cpu.zeroed ⟨⟨Flat.bytes 0x100 prog⟩⟩ with PC := 0x100 }

/-- The undefined opcode `01` leaves the machine as it was. -/
theorem rejected_untouched_one :
    ∃ t, cpuInsn (debugging [0x01]) = .ok ((), t) ∧ Untouched id (debugging [0x01]) t := by
  have hf : cpuFetch (debugging [0x01]) = .ok (.invalid, after cpuFetch (debugging [0x01])) :=
    eq_ok_after (by decide +kernel)
  refine (rejected_untouched id rfl (.opcode hf)).mpr ⟨.inl rfl, ?_, ?_⟩
  · exact fun h => h.1 rfl
  · decide +kernel

/-- `10 00` leaves `PC` behind the two bytes, and `LDA` with the undefined postbyte `87` loads the
accumulator from address 0. -/
theorem rejected_moves :
    (Rejected (debugging [0x10, 0x00]) .invalidPrefixed (after cpuFetch (debugging [0x10, 0x00])) ∧
      ¬∃ t, cpuInsn (debugging [0x10, 0x00]) = .ok ((), t) ∧
        Untouched id (debugging [0x10, 0x00]) t) ∧
    (after cpuInsn { debugging [0xa6, 0x87] with A := 0x12 }).A = 0 := by
  have hf : cpuFetch (debugging [0x10, 0x00]) =
      .ok (.invalidPrefixed, after cpuFetch (debugging [0x10, 0x00])) :=
    eq_ok_after (by decide +kernel)
  have hi : cpuInsn (debugging [0x10, 0x00]) = .ok ((), after cpuInsn (debugging [0x10, 0x00])) :=
    eq_ok_after (by decide +kernel)
  have hPC : (after cpuInsn (debugging [0x10, 0x00])).PC = 0x102 := by decide +kernel
  refine ⟨⟨.prefixed hf, ?_⟩, by decide +kernel⟩
  rintro ⟨t, ht, hu⟩
  rw [hi] at ht
  cases ht
  exact absurd (hPC.symm.trans hu.PC) (by decide)

end Exec09
