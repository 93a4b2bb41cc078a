import Exec09.Properties.Frame
import Exec09.Properties.LazyFlags

/-!
# The interrupt logic

`Calm` is what every program that does not assign the condition codes guarantees about the
interrupt lines, bus writes and the interrupt entries nested in them included: a line that was not
deliverable does not become deliverable, every entry recorded meanwhile found its mask clear, and
a pending IRQ is not forgotten.  `pollLines_spec` says what the check at the end of an iteration
does, and `cpuInsn_lines` puts the two together for one instruction.
-/

namespace Exec09

open Program

variable {σ : Type}

/-! ## Deliverable lines -/

lemma Cpu.irqDeliverable_eq_false {s : Cpu σ} :
    s.irqDeliverable = false ↔ s.irqsPending = 0 ∨ s.EFI &&& I_FLAG ≠ 0 := by
  simp only [Cpu.irqDeliverable, Cpu.irqMasked, decide_eq_false_iff_not, decide_eq_true_eq]
  tauto

lemma Cpu.firqDeliverable_eq_false {s : Cpu σ} :
    s.firqDeliverable = false ↔ s.firqsPending = 0 ∨ s.EFI &&& F_FLAG ≠ 0 := by
  simp only [Cpu.firqDeliverable, Cpu.firqMasked, decide_eq_false_iff_not, decide_eq_true_eq]
  tauto

/-- No deliverable interrupt is waiting. -/
def Cpu.Quiet (s : Cpu σ) : Prop := s.irqDeliverable = false ∧ s.firqDeliverable = false

/-- No deliverable interrupt was waiting when the snapshot was taken. -/
def Snapshot.Quiet (n : Snapshot) : Prop :=
  (n.irqsPending = 0 ∨ n.cc &&& I_FLAG ≠ 0) ∧ (n.firqsPending = 0 ∨ n.cc &&& F_FLAG ≠ 0)

lemma Cpu.getCc_and {m : Unsigned} (hm : m &&& EFI_MASK = m) (s : Cpu σ) :
    s.getCc &&& m = s.EFI &&& m := by
  have h := s.getCc_and_mask
  calc s.getCc &&& m = (s.getCc &&& EFI_MASK) &&& m := by
        rw [BitVec.and_assoc, BitVec.and_comm EFI_MASK, hm]
    _ = s.EFI &&& m := by rw [h, BitVec.and_assoc, BitVec.and_comm EFI_MASK, hm]

lemma Cpu.quiet_snapshot {s : Cpu σ} : s.snapshot.Quiet ↔ s.Quiet := by
  rw [Snapshot.Quiet, Cpu.Quiet, Cpu.irqDeliverable_eq_false, Cpu.firqDeliverable_eq_false]
  simp only [Cpu.snapshot]
  rw [s.getCc_and (by decide : I_FLAG &&& EFI_MASK = I_FLAG),
    s.getCc_and (by decide : F_FLAG &&& EFI_MASK = F_FLAG)]

/-- The lines decide what is deliverable. -/
lemma Cpu.irqDeliverable_of_lines {s t : Cpu σ} (h : t.lines = s.lines) :
    t.irqDeliverable = s.irqDeliverable := by
  have hE : t.EFI = s.EFI := congrArg Lines.efi h
  have hp : t.irqsPending = s.irqsPending := congrArg Lines.irqsPending h
  rw [Bool.eq_iff_iff]
  simp only [Cpu.irqDeliverable, Cpu.irqMasked, decide_eq_true_eq, hE, hp]

lemma Cpu.firqDeliverable_of_lines {s t : Cpu σ} (h : t.lines = s.lines) :
    t.firqDeliverable = s.firqDeliverable := by
  have hE : t.EFI = s.EFI := congrArg Lines.efi h
  have hp : t.firqsPending = s.firqsPending := congrArg Lines.firqsPending h
  rw [Bool.eq_iff_iff]
  simp only [Cpu.firqDeliverable, Cpu.firqMasked, decide_eq_true_eq, hE, hp]

lemma or_and_ne_zero {x m b : Unsigned} (h : x &&& b ≠ 0) : (x ||| m) &&& b ≠ 0 := by
  intro h0
  rw [BitVec.and_or_distrib_right] at h0
  exact h (BitVec.or_eq_zero_iff.mp h0).1

/-! ## Events -/

/-- An entry finds its mask clear. -/
def Event.Allowed : Event → Prop
  | .irq n => n.cc &&& I_FLAG = 0
  | .firq n => n.cc &&& F_FLAG = 0
  | _ => True

/-- A request leaves no deliverable interrupt waiting. -/
def Event.Served : Event → Prop
  | .requested n => n.Quiet
  | _ => True

/-- The events after which a pending IRQ may be gone. -/
def Event.endsIrq : Event → Bool
  | .irq _ | .releasedIrq => true
  | _ => false

/-- Interrupt entries. -/
def Event.isEntry : Event → Bool
  | .irq _ | .firq _ => true
  | _ => false

section Ram

variable (σ) [Machine σ]

/-- A bus address at which a write never works an interrupt line, as in RAM. -/
def Ram (addr : Unsigned) : Prop :=
  ∀ (v : View) (w : σ) (d : U8), ∀ x ∈ (Machine.write8 v w addr d).effects, ∃ e, x = .signal e

/-- The `n` bytes below the stack pointer are RAM. -/
def RamBelow (S : Unsigned) (n : Nat) : Prop :=
  ∀ i < n, Ram σ ((S - 1 - BitVec.ofNat 32 i) &&& 0xffff)

/-- The bytes an entry pushes are RAM. -/
def Event.OnRam : Event → Prop
  | .irq n => RamBelow σ n.S 12
  | .firq n => RamBelow σ n.S 3
  | _ => True

end Ram

/-! ## Calm programs -/

variable [Machine σ]

/-- What is recorded from `s` to `t`: entries that found their mask clear, and, from a quiet state
with the stack in RAM, requests that left nothing waiting; an IRQ that was pending either still is,
or was entered or released. -/
def Records (s t : Cpu σ) : Prop :=
  ∃ es, t.hist = es ++ s.hist ∧ (∀ e ∈ es, e.Allowed) ∧
    (s.irqsPending ≠ 0 → t.irqsPending ≠ 0 ∨ ∃ e ∈ es, e.endsIrq = true) ∧
    (s.Quiet → (∀ e ∈ es, e.OnRam σ) → ∀ e ∈ es, e.Served)

lemma Records.trans {s t u : Cpu σ} (h : Records s t) (hq : s.Quiet → t.Quiet)
    (h' : Records t u) : Records s u := by
  obtain ⟨es, he, ha, hp, hr⟩ := h
  obtain ⟨es', he', ha', hp', hr'⟩ := h'
  refine ⟨es' ++ es, by rw [he', he, List.append_assoc], ?_, ?_, ?_⟩
  · exact fun e hm => (List.mem_append.mp hm).elim (ha' e) (ha e)
  · intro hs
    obtain ht | ⟨e, hm, hE⟩ := hp hs
    · obtain hu | ⟨e, hm, hE⟩ := hp' ht
      · exact .inl hu
      · exact .inr ⟨e, List.mem_append_left _ hm, hE⟩
    · exact .inr ⟨e, List.mem_append_right _ hm, hE⟩
  · intro hs hram e hm
    obtain hm | hm := List.mem_append.mp hm
    · exact hr' (hq hs) (fun e he => hram e (List.mem_append_left _ he)) e hm
    · exact hr hs (fun e he => hram e (List.mem_append_right _ he)) e hm

/-- What a program that does not assign the condition codes does to the interrupt logic. -/
structure Calm (s t : Cpu σ) : Prop where
  ccChanged : t.ccChanged = s.ccChanged
  irq : s.irqDeliverable = false → t.irqDeliverable = false
  firq : s.firqDeliverable = false → t.firqDeliverable = false
  hist : Records s t

lemma Calm.quiet {s t : Cpu σ} (h : Calm s t) (hs : s.Quiet) : t.Quiet := ⟨h.irq hs.1, h.firq hs.2⟩

/-- A step that records nothing. -/
lemma Calm.silent {s t : Cpu σ} (hc : t.ccChanged = s.ccChanged)
    (hi : s.irqDeliverable = false → t.irqDeliverable = false)
    (hf : s.firqDeliverable = false → t.firqDeliverable = false) (hh : t.hist = s.hist)
    (hp : t.irqsPending = s.irqsPending) : Calm s t where
  ccChanged := hc
  irq := hi
  firq := hf
  hist := ⟨[], hh, by simp, fun h => .inl (hp ▸ h), by simp⟩

lemma Calm.keep (s t : Cpu σ) (h : t.lines = s.lines) : Calm s t :=
  Calm.silent (congrArg Lines.ccChanged h) (fun hs => (Cpu.irqDeliverable_of_lines h).trans hs)
    (fun hs => (Cpu.firqDeliverable_of_lines h).trans hs) (congrArg Lines.hist h)
    (congrArg Lines.irqsPending h)

lemma Calm.ofCore (s t : Cpu σ) (h : t.core = s.core) : Calm s t :=
  Calm.keep s t (Cpu.lines_of_core h)

lemma Calm.trans {s t u : Cpu σ} (h : Calm s t) (h' : Calm t u) : Calm s u where
  ccChanged := h'.ccChanged.trans h.ccChanged
  irq hs := h'.irq (h.irq hs)
  firq hs := h'.firq (h.firq hs)
  hist := h.hist.trans h.quiet h'.hist

instance : IsPreorder (Cpu σ) Calm where
  refl s := Calm.keep s s rfl
  trans _ _ _ := Calm.trans

/-- Setting bits of `EFI` masks more. -/
lemma Calm.raise (s : Cpu σ) (m : Unsigned) : Calm s { s with EFI := s.EFI ||| m } := by
  refine Calm.silent rfl (fun hs => ?_) (fun hs => ?_) rfl rfl
  · rw [Cpu.irqDeliverable_eq_false] at hs ⊢
    exact hs.imp_right or_and_ne_zero
  · rw [Cpu.firqDeliverable_eq_false] at hs ⊢
    exact hs.imp_right or_and_ne_zero

/-- Clearing `E` unmasks nothing. -/
lemma Calm.clearE (s : Cpu σ) : Calm s { s with EFI := s.EFI &&& ~~~E_FLAG } := by
  have h (b : Unsigned) (hb : ~~~E_FLAG &&& b = b) : (s.EFI &&& ~~~E_FLAG) &&& b = s.EFI &&& b := by
    rw [BitVec.and_assoc, hb]
  refine Calm.silent rfl (fun hs => ?_) (fun hs => ?_) rfl rfl
  · rw [Cpu.irqDeliverable_eq_false] at hs ⊢
    exact hs.imp_right fun h' => (h _ (by decide)).trans_ne h'
  · rw [Cpu.firqDeliverable_eq_false] at hs ⊢
    exact hs.imp_right fun h' => (h _ (by decide)).trans_ne h'

/-! ## Entries -/

def Cpu.pendIrq (source : Unsigned) (s : Cpu σ) : Cpu σ :=
  { s with irqsPending := s.irqsPending ||| ((1 : Unsigned) <<< source) }

def Cpu.pendFirq (source : Unsigned) (s : Cpu σ) : Cpu σ :=
  { s with firqsPending := s.firqsPending ||| ((1 : Unsigned) <<< source) }

def Cpu.record (e : Event) (s : Cpu σ) : Cpu σ := { s with hist := e :: s.hist }

section With

variable {write : Unsigned → Unsigned → M σ Unit}

/-- Nothing has happened to the lines, and `n` more bytes can be pushed to RAM. -/
def Pushed (L : Lines) (n : Nat) (s : Cpu σ) : Prop := s.lines = L ∧ RamBelow σ s.S n

/-- How a write behaves in RAM: it is kept from the lines and the stack pointer. -/
def RamWrite (write : Unsigned → Unsigned → M σ Unit) : Prop :=
  ∀ a d, Ram σ a → Keeps (fun s => (s.lines, s.S)) (write a d)

/-- A write to RAM between pushes. -/
lemma RamWrite.pushed (hw : RamWrite write) {L : Lines} {n : Nat} {a d : Unsigned} (ha : Ram σ a) :
    Triple (Pushed L n) (write a d) fun _ => Pushed L n := by
  intro s hs _ t ht
  have h : (t.lines, t.S) = (s.lines, s.S) := hw a d ha s _ t ht
  rw [Prod.mk.injEq] at h
  rw [Pushed, h.1, h.2]
  exact hs

omit [Machine σ] in
lemma below_sub (S n i : Unsigned) :
    (((S - n) &&& 0xffff) - 1 - i) &&& 0xffff = (S - 1 - (i + n)) &&& 0xffff := by
  rw [BitVec.sub_sub, Words.and_low_sub_left 16 (by decide) (by decide)]
  congr 1
  grind

lemma RamBelow.sub {S : Unsigned} {k n : Nat} (h : RamBelow σ S (n + k)) :
    RamBelow σ ((S - BitVec.ofNat 32 k) &&& 0xffff) n := by
  intro i hi
  rw [below_sub, ← BitVec.ofNat_add]
  exact h (i + k) (by omega)

lemma ram_pushS8With (hw : RamWrite write) {L : Lines} {n : Nat} (data : Unsigned) :
    Triple (Pushed L (n + 1)) (pushS8With write data) fun _ => Pushed L n := by
  refine Triple.bind (Q := fun _ s => Pushed L n s ∧ Ram σ s.S) (Triple.modify ?_) fun _ => ?_
  · rintro s ⟨hL, hr⟩
    exact ⟨⟨hL, hr.sub (k := 1)⟩, by simpa using hr 0 (by omega)⟩
  · refine Triple.bind (Q := fun a s => Pushed L n s ∧ Ram σ a) (Triple.reads fun s h => h)
      fun a s h => ?_
    exact hw.pushed h.2 s h.1

lemma ram_pushS16With (hw : RamWrite write) {L : Lines} {n : Nat} (data : Unsigned) :
    Triple (Pushed L (n + 2)) (pushS16With write data) fun _ => Pushed L n := by
  refine Triple.bind
    (Q := fun _ s => Pushed L n s ∧ Ram σ ((s.S + 1) &&& 0xffff) ∧ Ram σ s.S) (Triple.modify ?_)
    fun _ => ?_
  · rintro s ⟨hL, hr⟩
    have hlo : (((s.S - 2) &&& 0xffff) + 1) &&& 0xffff = (s.S - 1 - BitVec.ofNat 32 0) &&& 0xffff := by
      rw [Words.and_low_add_left 16 (by decide) (by decide)]
      congr 1
      grind
    have hhi : (s.S - 2) &&& 0xffff = (s.S - 1 - BitVec.ofNat 32 1) &&& 0xffff := by
      congr 1
      grind
    refine ⟨⟨hL, hr.sub (k := 2)⟩, ?_, ?_⟩
    · exact hlo ▸ hr 0 (by omega)
    · exact hhi ▸ hr 1 (by omega)
  · refine Triple.bind
      (Q := fun a s => Pushed L n s ∧ Ram σ ((a + 1) &&& 0xffff) ∧ Ram σ a)
      (Triple.reads fun s h => h) fun a s h => ?_
    exact Triple.bind (hw.pushed h.2.1) (fun _ => hw.pushed h.2.2) s h.1

/-- The context of an interrupt goes to twelve bytes below the stack pointer. -/
lemma ram_pushAllWith (hw : RamWrite write) {L : Lines} :
    Triple (Pushed L 12) (pushAllWith write) fun _ => Pushed L 0 := by
  have rd {n : Nat} (f : Cpu σ → Unsigned) :
      Triple (Pushed L n) (reads f : M σ Unsigned) fun _ => Pushed L n := Triple.reads fun _ h => h
  exact (rd _).bind fun _ => (ram_pushS16With hw _).bind fun _ =>
    (rd _).bind fun _ => (ram_pushS16With hw _).bind fun _ =>
    (rd _).bind fun _ => (ram_pushS16With hw _).bind fun _ =>
    (rd _).bind fun _ => (ram_pushS16With hw _).bind fun _ =>
    (rd _).bind fun _ => (ram_pushS8With hw _).bind fun _ =>
    (rd _).bind fun _ => (ram_pushS8With hw _).bind fun _ =>
    (rd _).bind fun _ => (ram_pushS8With hw _).bind fun _ =>
    (rd _).bind fun _ => ram_pushS8With hw _

lemma lines_pushAllWith (hw : RamWrite write) {s t : Cpu σ}
    (h : pushAllWith write s = .ok ((), t)) (hr : RamBelow σ s.S 12) : t.lines = s.lines :=
  (ram_pushAllWith hw s ⟨rfl, hr⟩ _ t h).1

/-- `firq` pushes three bytes. -/
lemma lines_pushFast (hw : RamWrite write) {s t : Cpu σ}
    (h : (do
      pushS16With write ((← reads Cpu.PC) &&& 0xffff)
      pushS8With write (← reads Cpu.getCc) : M σ Unit) s = .ok ((), t)) (hr : RamBelow σ s.S 3) :
    t.lines = s.lines := by
  have rd {n : Nat} (f : Cpu σ → Unsigned) :
      Triple (Pushed s.lines n) (reads f : M σ Unsigned) fun _ => Pushed s.lines n :=
    Triple.reads fun _ h => h
  have push : Triple (Pushed s.lines 3) _ fun _ => Pushed s.lines 0 :=
    (rd Cpu.PC).bind fun v => (ram_pushS16With hw (v &&& 0xffff)).bind fun _ =>
      (rd Cpu.getCc).bind fun v => ram_pushS8With hw v
  exact (push s ⟨rfl, hr⟩ _ t h).1

/-- A request is one of two things: the masked line is marked, or the handler is entered. -/
lemma requestIrqWith_eq_ok {source : Unsigned} {s t : Cpu σ}
    (h : requestIrqWith write source s = .ok ((), t)) :
    (s.EFI &&& I_FLAG ≠ 0 ∧ t = (s.pendIrq source).record (.requested (s.pendIrq source).snapshot)) ∨
    (s.EFI &&& I_FLAG = 0 ∧ ∃ s₂, irqWith write (s.pendIrq source) = .ok ((), s₂) ∧
      t = s₂.record (.requested s₂.snapshot)) := by
  obtain ⟨_, s₁, h₁, k₁⟩ := bind_eq_ok.mp h
  obtain ⟨masked, s₁', h₁', k₂⟩ := bind_eq_ok.mp k₁
  obtain ⟨_, s₂, h₂, k₃⟩ := bind_eq_ok.mp k₂
  cases h₁
  cases h₁'
  cases k₃
  obtain ⟨hm, h₂⟩ | ⟨hm, rfl⟩ := whenever_eq_ok.mp h₂
  · exact .inr ⟨not_not.mp fun h0 => hm (decide_eq_true h0), s₂, h₂, rfl⟩
  · exact .inl ⟨of_decide_eq_true (not_not.mp hm), rfl⟩

lemma requestFirqWith_eq_ok {source : Unsigned} {s t : Cpu σ}
    (h : requestFirqWith write source s = .ok ((), t)) :
    (s.EFI &&& F_FLAG ≠ 0 ∧
      t = (s.pendFirq source).record (.requested (s.pendFirq source).snapshot)) ∨
    (s.EFI &&& F_FLAG = 0 ∧ ∃ s₂, firqWith write (s.pendFirq source) = .ok ((), s₂) ∧
      t = s₂.record (.requested s₂.snapshot)) := by
  obtain ⟨_, s₁, h₁, k₁⟩ := bind_eq_ok.mp h
  obtain ⟨masked, s₁', h₁', k₂⟩ := bind_eq_ok.mp k₁
  obtain ⟨_, s₂, h₂, k₃⟩ := bind_eq_ok.mp k₂
  cases h₁
  cases h₁'
  cases k₃
  obtain ⟨hm, h₂⟩ | ⟨hm, rfl⟩ := whenever_eq_ok.mp h₂
  · exact .inr ⟨not_not.mp fun h0 => hm (decide_eq_true h0), s₂, h₂, rfl⟩
  · exact .inl ⟨of_decide_eq_true (not_not.mp hm), rfl⟩

variable (hc : ∀ a d, Steps Calm (write a d)) (hw : RamWrite write)
include hc hw

/-- Entering `irq`: the line is served and masked, and with the stack in RAM nothing else is
recorded. -/
lemma irqWith_spec {s t : Cpu σ} (h : irqWith write s = .ok ((), t)) :
    t.ccChanged = s.ccChanged ∧ t.irqsPending = 0 ∧ t.EFI &&& I_FLAG ≠ 0 ∧
    (s.firqDeliverable = false → t.firqDeliverable = false) ∧
    ∃ es, t.hist = es ++ .irq s.snapshot :: s.hist ∧ (∀ e ∈ es, e.Allowed) ∧
      (Event.OnRam σ (.irq s.snapshot) → es = []) := by
  obtain ⟨_, s₁, h₁, h⟩ := bind_eq_ok.mp h
  obtain ⟨_, s₂, h₂, h⟩ := bind_eq_ok.mp h
  obtain ⟨_, s₃, h₃, h⟩ := bind_eq_ok.mp h
  obtain ⟨_, s₄, h₄, h⟩ := bind_eq_ok.mp h
  obtain ⟨pc, s₅, h₅, h⟩ := bind_eq_ok.mp h
  obtain ⟨_, s₆, h₆, h⟩ := bind_eq_ok.mp h
  cases h₁
  cases h₂
  have push : Calm _ s₃ := steps_pushAllWith Calm.ofCore hc _ _ _ h₃
  obtain ⟨es, he, ha, -, -⟩ := push.hist
  cases h₄
  have read : s₅.lines = _ := Cpu.lines_of_core (keeps_read16 _ _ _ _ h₅)
  cases h₆
  cases h
  have hE : s₅.EFI = s₃.EFI ||| I_FLAG := congrArg Lines.efi read
  refine ⟨(congrArg Lines.ccChanged read).trans push.ccChanged, rfl, ?_, ?_, es, ?_, ha, ?_⟩
  · exact ne_of_eq_of_ne (congrArg (· &&& I_FLAG) hE) (by simp [BitVec.and_or_distrib_right])
  · intro hf
    have hf₃ := push.firq ((Calm.raise _ E_FLAG).firq hf)
    have hf₄ := (Calm.raise s₃ I_FLAG).firq hf₃
    exact (Cpu.firqDeliverable_of_lines read).trans hf₄
  · exact (congrArg Lines.hist read).trans he
  · intro hr
    have hh : s₃.hist = .irq s.snapshot :: s.hist :=
      congrArg Lines.hist (lines_pushAllWith hw h₃ hr)
    rw [he] at hh
    exact List.append_left_eq_self.mp hh

/-- Entering `firq`: the line is served, both lines are masked, and a pending IRQ is still
pending unless the pushes served it. -/
lemma firqWith_spec {s t : Cpu σ} (h : firqWith write s = .ok ((), t)) :
    t.ccChanged = s.ccChanged ∧ t.firqsPending = 0 ∧ t.EFI &&& I_FLAG ≠ 0 ∧
    t.EFI &&& F_FLAG ≠ 0 ∧
    ∃ es, t.hist = es ++ .firq s.snapshot :: s.hist ∧ (∀ e ∈ es, e.Allowed) ∧
      (s.irqsPending ≠ 0 → t.irqsPending ≠ 0 ∨ ∃ e ∈ es, e.endsIrq = true) ∧
      (Event.OnRam σ (.firq s.snapshot) → es = [] ∧ t.irqsPending = s.irqsPending) := by
  obtain ⟨_, s₁, h₁, h⟩ := bind_eq_ok.mp h
  obtain ⟨_, s₂, h₂, h⟩ := bind_eq_ok.mp h
  obtain ⟨pc₀, s₂', h₂', h⟩ := bind_eq_ok.mp h
  obtain ⟨_, s₃', h₃', h⟩ := bind_eq_ok.mp h
  obtain ⟨cc, s₃'', h₃'', h⟩ := bind_eq_ok.mp h
  obtain ⟨_, s₃, h₃, h⟩ := bind_eq_ok.mp h
  obtain ⟨_, s₄, h₄, h⟩ := bind_eq_ok.mp h
  obtain ⟨pc, s₅, h₅, h⟩ := bind_eq_ok.mp h
  obtain ⟨_, s₆, h₆, h⟩ := bind_eq_ok.mp h
  cases h₁
  cases h₂
  cases h₂'
  cases h₃''
  have push : Calm _ s₃ :=
    (steps_pushS16With Calm.ofCore hc _ _ _ _ h₃').trans (steps_pushS8With Calm.ofCore hc _ _ _ _ h₃)
  obtain ⟨es, he, ha, hp, -⟩ := push.hist
  cases h₄
  have read : s₅.lines = _ := Cpu.lines_of_core (keeps_read16 _ _ _ _ h₅)
  cases h₆
  cases h
  have hE : s₅.EFI = s₃.EFI ||| (I_FLAG ||| F_FLAG) := congrArg Lines.efi read
  have hP : s₅.irqsPending = s₃.irqsPending := congrArg Lines.irqsPending read
  refine ⟨(congrArg Lines.ccChanged read).trans push.ccChanged, rfl, ?_, ?_, es, ?_, ha, ?_, ?_⟩
  · exact ne_of_eq_of_ne (congrArg (· &&& I_FLAG) hE) (by simp [BitVec.and_or_distrib_right])
  · exact ne_of_eq_of_ne (congrArg (· &&& F_FLAG) hE) (by simp [BitVec.and_or_distrib_right])
  · exact (congrArg Lines.hist read).trans he
  · exact fun hs => (hp hs).imp_left (hP.trans_ne ·)
  · intro hr
    have hL : s₃.lines = _ := lines_pushFast hw
      (bind_eq_ok.mpr ⟨_, _, rfl, bind_eq_ok.mpr ⟨_, _, h₃', bind_eq_ok.mpr ⟨_, _, rfl, h₃⟩⟩⟩) hr
    have hh : s₃.hist = .firq s.snapshot :: s.hist := congrArg Lines.hist hL
    rw [he] at hh
    exact ⟨List.append_left_eq_self.mp hh, hP.trans (congrArg Lines.irqsPending hL)⟩

lemma calm_requestIrqWith (source : Unsigned) : Steps Calm (requestIrqWith write source) := by
  intro s _ t h
  obtain ⟨hm, rfl⟩ | ⟨hm, s₂, h₂, rfl⟩ := requestIrqWith_eq_ok h
  · -- the line is masked and stays pending
    refine ⟨rfl, fun _ => Cpu.irqDeliverable_eq_false.mpr (.inr hm), fun hf => hf, [.requested _],
      rfl, by simp [Event.Allowed], fun hp => .inl ?_, ?_⟩
    · exact fun h0 => hp (BitVec.or_eq_zero_iff.mp h0).1
    · intro hs _ e hmem
      obtain rfl := List.mem_singleton.mp hmem
      exact Cpu.quiet_snapshot.mpr ⟨Cpu.irqDeliverable_eq_false.mpr (.inr hm), hs.2⟩
  · -- the line is not masked: the handler is entered
    obtain ⟨hcc, hp, -, hf, es, he, ha, hr⟩ := irqWith_spec hc hw h₂
    have hi : s₂.irqDeliverable = false := Cpu.irqDeliverable_eq_false.mpr (.inl hp)
    refine ⟨hcc, fun _ => hi, hf, .requested s₂.snapshot :: (es ++ [.irq (s.pendIrq source).snapshot]),
      ?_, ?_, ?_, ?_⟩
    · simp [Cpu.record, he, Cpu.pendIrq]
    · intro e hmem
      simp only [List.mem_cons, List.mem_append, List.not_mem_nil, or_false] at hmem
      obtain rfl | hmem | rfl := hmem
      · trivial
      · exact ha e hmem
      · exact (Cpu.getCc_and (by decide) _).trans hm
    · exact fun _ => .inr ⟨.irq (s.pendIrq source).snapshot, by simp, rfl⟩
    · intro hs hram e hmem
      have hnil : es = [] := hr (hram (.irq _) (by simp))
      subst hnil
      simp only [List.nil_append, List.mem_cons, List.not_mem_nil, or_false] at hmem
      obtain rfl | rfl := hmem
      · exact Cpu.quiet_snapshot.mpr ⟨hi, hf hs.2⟩
      · trivial

lemma calm_requestFirqWith (source : Unsigned) : Steps Calm (requestFirqWith write source) := by
  intro s _ t h
  obtain ⟨hm, rfl⟩ | ⟨hm, s₂, h₂, rfl⟩ := requestFirqWith_eq_ok h
  · -- the line is masked and stays pending
    refine ⟨rfl, fun hi => hi, fun _ => Cpu.firqDeliverable_eq_false.mpr (.inr hm), [.requested _],
      rfl, by simp [Event.Allowed], fun hp => .inl hp, ?_⟩
    intro hs _ e hmem
    obtain rfl := List.mem_singleton.mp hmem
    exact Cpu.quiet_snapshot.mpr ⟨hs.1, Cpu.firqDeliverable_eq_false.mpr (.inr hm)⟩
  · -- the line is not masked: the handler is entered
    obtain ⟨hcc, hp, hI, -, es, he, ha, hpend, hr⟩ := firqWith_spec hc hw h₂
    have hi : s₂.irqDeliverable = false := Cpu.irqDeliverable_eq_false.mpr (.inr hI)
    have hf : s₂.firqDeliverable = false := Cpu.firqDeliverable_eq_false.mpr (.inl hp)
    refine ⟨hcc, fun _ => hi, fun _ => hf,
      .requested s₂.snapshot :: (es ++ [.firq (s.pendFirq source).snapshot]), ?_, ?_, ?_, ?_⟩
    · simp [Cpu.record, he, Cpu.pendFirq]
    · intro e hmem
      simp only [List.mem_cons, List.mem_append, List.not_mem_nil, or_false] at hmem
      obtain rfl | hmem | rfl := hmem
      · trivial
      · exact ha e hmem
      · exact (Cpu.getCc_and (by decide) _).trans hm
    · intro hs
      obtain hs | ⟨e, hmem, hE⟩ := hpend hs
      · exact .inl hs
      · exact .inr ⟨e, by simp [hmem], hE⟩
    · intro hs hram e hmem
      obtain ⟨rfl, -⟩ := hr (hram (.firq _) (by simp))
      simp only [List.nil_append, List.mem_cons, List.not_mem_nil, or_false] at hmem
      obtain rfl | rfl := hmem
      · exact Cpu.quiet_snapshot.mpr ⟨hi, hf⟩
      · trivial

omit hc hw in
lemma calm_releaseIrq (source : Unsigned) : Steps Calm (releaseIrq source : M σ Unit) := by
  intro s _ t h
  cases h
  refine ⟨rfl, fun hi => ?_, fun hf => hf, [.releasedIrq], rfl, by simp [Event.Allowed],
    fun _ => .inr ⟨_, List.mem_singleton_self _, rfl⟩, by simp [Event.Served]⟩
  rw [Cpu.irqDeliverable_eq_false] at hi ⊢
  exact hi.imp_left fun h0 => (congrArg (· &&& _) h0).trans BitVec.zero_and

omit hc hw in
lemma calm_releaseFirq (source : Unsigned) : Steps Calm (releaseFirq source : M σ Unit) := by
  intro s _ t h
  cases h
  refine ⟨rfl, fun hi => hi, fun hf => ?_, [.releasedFirq], rfl, by simp [Event.Allowed],
    fun hs => .inl hs, by simp [Event.Served]⟩
  rw [Cpu.firqDeliverable_eq_false] at hf ⊢
  exact hf.imp_left fun h0 => (congrArg (· &&& _) h0).trans BitVec.zero_and

lemma calm_effectWith (x : Effect) : Steps Calm (effectWith write x) := by
  cases x with
  | signal e => exact (keeps_signal e).mono Calm.ofCore
  | requestIrq source => exact calm_requestIrqWith hc hw source
  | releaseIrq source => exact calm_releaseIrq source
  | requestFirq source => exact calm_requestFirqWith hc hw source
  | releaseFirq source => exact calm_releaseFirq source

end With

/-! ## Writes -/

lemma keepsS_signal (x : Signal) : Keeps Cpu.S (signal x : M σ Unit) := by
  cases x with
  | simError =>
      exact Steps.bind (Steps.modify fun _ => rfl) fun _ =>
        Steps.ite (Steps.modify fun _ => rfl) (Steps.throw _)
  | monitor on => exact Steps.modify fun _ => rfl
  | exit code => exact Steps.throw _

lemma ramWrite_writeN (n : Nat) : RamWrite (writeN n : Unsigned → Unsigned → M σ Unit) := by
  intro a d ha
  cases n with
  | zero => exact Steps.throw _
  | succ n =>
      intro s _ t h
      obtain ⟨r, s₁, h₁, h⟩ := bind_eq_ok.mp h
      cases h₁
      refine (Steps.forM (R := SameOn fun s => (s.lines, s.S)) (fun x hx => ?_)) _ _ _ h
      obtain ⟨e, rfl⟩ := ha _ _ _ x hx
      intro u _ v hv
      exact Prod.ext (Cpu.lines_of_core (keeps_signal e u _ v hv)) (keepsS_signal e u _ v hv)

lemma calm_writeN (n : Nat) : ∀ a d, Steps Calm (writeN n a d : M σ Unit) := by
  induction n with
  | zero => exact fun _ _ => Steps.throw _
  | succ n ih =>
      intro a d
      refine Steps.bind (Steps.modifyGet fun s => Calm.keep _ _ rfl) fun r => ?_
      exact Steps.forM fun x _ => calm_effectWith ih (ramWrite_writeN n) x

/-- **A bus write is calm, whatever the device behind it does to the interrupt lines.** -/
lemma calm_wrmem (a d : Unsigned) : Steps Calm (wrmem a d : M σ Unit) := calm_writeN _ a d

lemma ramWrite_wrmem : RamWrite (wrmem : Unsigned → Unsigned → M σ Unit) := ramWrite_writeN _

/-! ## Instructions -/

/-- What an instruction that assigns the condition codes does: no event, no change of a pending
line, and either nothing at all or `cc_changed` is raised. -/
structure Recoded (s t : Cpu σ) : Prop where
  hist : t.hist = s.hist
  irqsPending : t.irqsPending = s.irqsPending
  lines : t.lines = s.lines ∨ t.ccChanged = 1

instance : IsPreorder (Cpu σ) Recoded where
  refl _ := ⟨rfl, rfl, .inl rfl⟩
  trans s t u h h' := by
    refine ⟨h'.hist.trans h.hist, h'.irqsPending.trans h.irqsPending, ?_⟩
    obtain hu | hu := h'.lines
    · exact h.lines.imp hu.trans (congrArg Lines.ccChanged hu).trans
    · exact .inr hu

omit [Machine σ] in
lemma Recoded.keep (s t : Cpu σ) (h : t.lines = s.lines) : Recoded s t :=
  ⟨congrArg Lines.hist h, congrArg Lines.irqsPending h, .inl h⟩

omit [Machine σ] in
lemma Recoded.ofCore (s t : Cpu σ) (h : t.core = s.core) : Recoded s t :=
  Recoded.keep s t (Cpu.lines_of_core h)

/-- **An instruction is calm or assigns the condition codes, never both.** -/
lemma Insn.exec_lines (i : Insn) {s t : Cpu σ} (h : i.exec s = .ok ((), t)) :
    Calm s t ∨ Recoded s t := by
  by_cases hc : i.WritesCc = true
  · exact .inr (Insn.steps_exec_cc Recoded.ofCore hc (fun _ s v => ⟨rfl, rfl, .inr rfl⟩) h)
  · left
    by_cases hs : i.IsSwi = true
    · exact Insn.steps_exec_swi Calm.ofCore calm_wrmem hs (fun m _ s => Calm.raise s m) _ _ _ h
    · exact Insn.steps_exec_plain Calm.ofCore (fun _ => calm_wrmem) (by simp [Insn.Plain, hc, hs])
        (fun _ _ s => Calm.keep _ _ rfl) _ _ _ h

/-- Fetch and decode the next instruction. -/
def cpuFetch : M σ Insn := do
  modify fun s => { s with iPC := s.PC }
  decode

/-- One instruction without the check that ends the iteration. -/
def cpuBody : M σ Insn := do
  let i ← cpuFetch
  i.exec
  return i

lemma cpuInsn_eq_body : (cpuInsn : M σ Unit) = (do let _ ← cpuBody; ccCheck) := by
  simp [cpuInsn_eq, cpuBody, cpuFetch]

lemma keeps_cpuFetch {ω : Type} {obs : Cpu σ → ω} [Unread obs] :
    Keeps obs (cpuFetch : M σ Insn) :=
  Steps.bind (keeps_modify (fun _ => rfl) fun _ => rfl) fun _ => keeps_decode

lemma cpuBody_eq_ok {i : Insn} {s m : Cpu σ} (h : cpuBody s = .ok (i, m)) :
    ∃ u, cpuFetch s = .ok (i, u) ∧ i.exec u = .ok ((), m) := by
  obtain ⟨j, u, hu, k₁⟩ := bind_eq_ok.mp h
  obtain ⟨_, v, hv, k₂⟩ := bind_eq_ok.mp k₁
  cases k₂
  exact ⟨u, hu, hv⟩

lemma cpuBody_lines {i : Insn} {s m : Cpu σ} (h : cpuBody s = .ok (i, m)) :
    Calm s m ∨ Recoded s m := by
  obtain ⟨u, hf, hi⟩ := cpuBody_eq_ok h
  have hu : u.lines = s.lines := Cpu.lines_of_core (keeps_cpuFetch _ _ _ hf)
  obtain hc | hr := i.exec_lines hi
  · exact .inl ((Calm.keep s u hu).trans hc)
  · exact .inr (IsTrans.trans s u m (Recoded.keep s u hu) hr)

/-! ## The check at the end of an iteration -/

/-- FIRQ goes first, then IRQ. -/
lemma pollLines_eq_ok {s t : Cpu σ} (h : pollLines s = .ok ((), t)) :
    (s.firqDeliverable = true ∧ firq s = .ok ((), t)) ∨
    (s.firqDeliverable = false ∧ s.irqDeliverable = true ∧ irq s = .ok ((), t)) ∨
    (s.Quiet ∧ t = s) := by
  obtain ⟨b, s₁, h₁, h⟩ := bind_eq_ok.mp h
  cases h₁
  split at h
  · exact .inl ⟨‹_›, h⟩
  · obtain ⟨c, s₂, h₂, h⟩ := bind_eq_ok.mp h
    cases h₂
    have hf : s.firqDeliverable = false := Bool.eq_false_iff.mpr ‹_›
    split at h
    · exact .inr (.inl ⟨hf, ‹_›, h⟩)
    · cases h
      exact .inr (.inr ⟨⟨Bool.eq_false_iff.mpr ‹_›, hf⟩, rfl⟩)

lemma ccCheck_eq_ok {s t : Cpu σ} (h : ccCheck s = .ok ((), t)) :
    (s.ccChanged = 0 ∧ t = s) ∨
    (s.ccChanged ≠ 0 ∧ ∃ u, pollLines s = .ok ((), u) ∧ t = { u with ccChanged := 0 }) := by
  obtain ⟨b, s₁, h₁, h⟩ := bind_eq_ok.mp h
  cases h₁
  obtain ⟨hc, h⟩ | ⟨hc, rfl⟩ := whenever_eq_ok.mp h
  · obtain ⟨_, u, hu, k⟩ := bind_eq_ok.mp h
    cases k
    exact .inr ⟨hc, u, hu, rfl⟩
  · exact .inl ⟨not_not.mp hc, rfl⟩

/-- What the interrupt logic guarantees from boundary to boundary. -/
structure Orderly (s t : Cpu σ) : Prop where
  quiet : s.Quiet → t.Quiet
  hist : Records s t

lemma Calm.orderly {s t : Cpu σ} (h : Calm s t) : Orderly s t := ⟨h.quiet, h.hist⟩

instance : IsPreorder (Cpu σ) Orderly where
  refl s := (Calm.keep s s rfl).orderly
  trans _ _ _ h h' := ⟨fun hs => h'.quiet (h.quiet hs), h.hist.trans h.quiet h'.hist⟩

/-- Polling leaves nothing waiting, whatever it started from. -/
lemma pollLines_spec {s t : Cpu σ} (h : pollLines s = .ok ((), t)) :
    t.Quiet ∧ ∃ es, t.hist = es ++ s.hist ∧ (∀ e ∈ es, e.Allowed) ∧
      (s.irqsPending ≠ 0 → t.irqsPending ≠ 0 ∨ ∃ e ∈ es, e.endsIrq = true) ∧
      ((∀ e ∈ es, e.OnRam σ) → ∀ e ∈ es, e.Served) := by
  obtain ⟨hd, h⟩ | ⟨hf, hd, h⟩ | ⟨hq, rfl⟩ := pollLines_eq_ok h
  · obtain ⟨-, hp, hI, -, es, he, ha, hpend, hr⟩ := firqWith_spec calm_wrmem ramWrite_wrmem h
    refine ⟨⟨Cpu.irqDeliverable_eq_false.mpr (.inr hI), Cpu.firqDeliverable_eq_false.mpr (.inl hp)⟩,
      es ++ [.firq s.snapshot], by simp [he], ?_, ?_, ?_⟩
    · intro e hmem
      obtain hmem | hmem := List.mem_append.mp hmem
      · exact ha e hmem
      · obtain rfl := List.mem_singleton.mp hmem
        have hm := (of_decide_eq_true hd).2
        exact (Cpu.getCc_and (by decide) s).trans (not_not.mp fun h0 => hm (decide_eq_true h0))
    · intro hs
      obtain hs | ⟨e, hmem, hE⟩ := hpend hs
      · exact .inl hs
      · exact .inr ⟨e, List.mem_append_left _ hmem, hE⟩
    · intro hram e hmem
      obtain ⟨rfl, -⟩ := hr (hram _ (by simp))
      obtain rfl := List.mem_singleton.mp hmem
      trivial
  · obtain ⟨-, hp, -, hf', es, he, ha, hr⟩ := irqWith_spec calm_wrmem ramWrite_wrmem h
    refine ⟨⟨Cpu.irqDeliverable_eq_false.mpr (.inl hp), hf' hf⟩,
      es ++ [.irq s.snapshot], by simp [he], ?_, ?_, ?_⟩
    · intro e hmem
      obtain hmem | hmem := List.mem_append.mp hmem
      · exact ha e hmem
      · obtain rfl := List.mem_singleton.mp hmem
        have hm := (of_decide_eq_true hd).2
        exact (Cpu.getCc_and (by decide) s).trans (not_not.mp fun h0 => hm (decide_eq_true h0))
    · exact fun _ => .inr ⟨_, List.mem_append_right _ (List.mem_singleton_self _), rfl⟩
    · intro hram e hmem
      obtain rfl := hr (hram _ (by simp))
      obtain rfl := List.mem_singleton.mp hmem
      trivial
  · exact ⟨hq, [], rfl, by simp, .inl, by simp⟩

/-- **From boundary to boundary, no deliverable interrupt is left waiting.** -/
lemma orderly_cpuInsn : Steps Orderly (cpuInsn : M σ Unit) := by
  intro s _ t h
  rw [cpuInsn_eq_body] at h
  obtain ⟨i, m, hb, hk⟩ := bind_eq_ok.mp h
  obtain ⟨hc, rfl⟩ | ⟨hc, u, hu, rfl⟩ := ccCheck_eq_ok hk
  · obtain hs | hs := cpuBody_lines hb
    · exact hs.orderly
    · -- `cc_changed` is not raised, so nothing was assigned
      obtain hl | hl := hs.lines
      · exact (Calm.keep _ _ hl).orderly
      · exact absurd (hl.symm.trans hc) (by decide)
  · obtain ⟨hq, es, he, ha, hp, hr⟩ := pollLines_spec hu
    obtain hs | hs := cpuBody_lines hb
    · exact ⟨fun _ => hq, hs.hist.trans hs.quiet ⟨es, he, ha, hp, fun _ => hr⟩⟩
    · refine ⟨fun _ => hq, es, ?_, ha, ?_, fun _ => hr⟩
      · rw [← hs.hist]
        exact he
      · rw [← hs.irqsPending]
        exact hp

end Exec09
