import Exec09.Cpu.Insn
import Exec09.Framework.Words

/-!
# Plain memory

Behind the abstract bus anything can happen.  An address is `Plain` in a world when reading it
delivers a fixed byte and does nothing else, as RAM and ROM do, and `RamAt` when a write to it,
moreover, changes that byte and no other.  Accesses to such addresses are computed here once.
-/

namespace Exec09

open Program

variable {σ : Type} [Machine σ]

/-! ## Any read -/

/-- Signals that do not end the process ask for the monitor and count errors. -/
lemma signal_eq_ok {x : Signal} {s t : Cpu σ} (h : signal x s = .ok ((), t)) :
    ∃ on n, t = { s with monitorOn := on, simErrors := n } := by
  cases x with
  | simError =>
    change simError s = _ at h
    rw [simError] at h
    obtain ⟨_, u, hu, h⟩ := bind_eq_ok.mp h
    cases hu
    split at h
    · cases h
      exact ⟨_, _, rfl⟩
    · cases h
  | monitor on =>
    cases h
    exact ⟨_, _, rfl⟩
  | exit code => cases h

lemma signals_eq_ok {l : List Signal} {s t : Cpu σ} (h : l.forM signal s = .ok ((), t)) :
    ∃ on n, t = { s with monitorOn := on, simErrors := n } := by
  induction l generalizing s with
  | nil =>
    cases h
    exact ⟨_, _, rfl⟩
  | cons x l ih =>
    obtain ⟨_, u, hu, h⟩ := bind_eq_ok.mp h
    obtain ⟨on, n, rfl⟩ := signal_eq_ok hu
    obtain ⟨on', n', rfl⟩ := ih h
    exact ⟨_, _, rfl⟩

/-- A list of signals is carried out one by one, by whatever carries out single ones. -/
lemma forM_map_signal {g : Effect → M σ Unit} (hg : ∀ x, g (.signal x) = signal x)
    (l : List Signal) : (l.map Effect.signal).forM g = l.forM signal := by
  induction l with
  | nil => rfl
  | cons x l ih =>
    change (g (.signal x) >>= fun _ => (l.map .signal).forM g) = (signal x >>= fun _ => l.forM signal)
    rw [ih, hg]

lemma forM_signal (write : Unsigned → Unsigned → M σ Unit)
    (l : List Signal) : (l.map Effect.signal).forM (effectWith write) = l.forM signal :=
  forM_map_signal (fun _ => rfl) l

/-- A read that returns leaves the registers alone. -/
lemma access_eq_ok {β : Type} {call : View → σ → Reply σ β} {s t : Cpu σ} {x : β}
    (h : access call s = .ok (x, t)) :
    x = (call s.view s.world).val ∧ ∃ on n,
      t = { s with world := (call s.view s.world).world, monitorOn := on, simErrors := n } := by
  obtain ⟨r, u, hu, h⟩ := bind_eq_ok.mp h
  cases hu
  obtain ⟨_, u, hu, h⟩ := bind_eq_ok.mp h
  obtain ⟨on, n, rfl⟩ := signals_eq_ok hu
  cases h
  exact ⟨rfl, on, n, rfl⟩

/-- A byte read that returns, as an `unsigned`. -/
lemma rdmem_eq_ok {addr : Unsigned} {s t : Cpu σ} {x : Unsigned} (h : rdmem addr s = .ok (x, t)) :
    x = (Machine.read8 s.view s.world addr).val.setWidth 32 ∧ ∃ on n,
      t = { s with
        world := (Machine.read8 s.view s.world addr).world, monitorOn := on, simErrors := n } := by
  obtain ⟨b, u, hu, h⟩ := bind_eq_ok.mp h
  obtain ⟨rfl, hw⟩ := access_eq_ok hu
  cases h
  exact ⟨rfl, hw⟩

/-- A 16-bit read that returns. -/
lemma read16_eq_ok {addr : Unsigned} {s t : Cpu σ} {x : Unsigned}
    (h : read16 addr s = .ok (x, t)) :
    x = (Machine.read16 s.view s.world addr).val.setWidth 32 ∧ ∃ on n,
      t = { s with
        world := (Machine.read16 s.view s.world addr).world, monitorOn := on, simErrors := n } := by
  obtain ⟨b, u, hu, h⟩ := bind_eq_ok.mp h
  obtain ⟨rfl, hw⟩ := access_eq_ok hu
  cases h
  exact ⟨rfl, hw⟩

/-! ## Plain reads -/

/-- Reading the byte at `a` delivers `b` and nothing else happens. -/
def Plain (w : σ) (a : Unsigned) (b : U8) : Prop := ∀ v, Machine.read8 v w a = ⟨b, w, []⟩

/-- The fast 16-bit read at `a` delivers `d` and nothing else happens. -/
def PlainWord (w : σ) (a : Unsigned) (d : U16) : Prop := ∀ v, Machine.read16 v w a = ⟨d, w, []⟩

lemma access_plain {β : Type} (call : View → σ → Reply σ β) {s : Cpu σ} {b : β}
    (h : ∀ v, call v s.world = ⟨b, s.world, []⟩) : access call s = .ok (b, s) := by
  have hget : (modifyGet fun s : Cpu σ =>
      (call s.view s.world, { s with world := (call s.view s.world).world }) : M σ _) s =
      .ok (⟨b, s.world, []⟩, s) := by
    rw [modifyGet_apply, h]
  rw [access, ok_bind hget]
  rfl

lemma rdmem_plain {s : Cpu σ} {a : Unsigned} {b : U8} (h : Plain s.world a b) :
    rdmem a s = .ok (b.setWidth 32, s) := by
  rw [rdmem, ok_bind (access_plain (fun v w => Machine.read8 v w a) h)]
  rfl

lemma read16_plain {s : Cpu σ} {a : Unsigned} {d : U16} (h : PlainWord s.world a d) :
    read16 a s = .ok (d.setWidth 32, s) := by
  rw [read16, ok_bind (access_plain (fun v w => Machine.read16 v w a) h)]
  rfl

lemma immByte_plain {s : Cpu σ} {b : U8} (h : Plain s.world s.PC b) :
    immByte s = .ok (b.setWidth 32, { s with PC := s.PC + 1 }) := by
  rw [immByte, ok_bind (reads_apply Cpu.PC s), ok_bind (rdmem_plain h)]
  rfl

lemma immWord_plain {s : Cpu σ} {d : U16} (h : PlainWord s.world s.PC d) :
    immWord s = .ok (d.setWidth 32, { s with PC := s.PC + 2 }) := by
  rw [immWord, ok_bind (reads_apply Cpu.PC s), ok_bind (read16_plain h)]
  rfl

/-- The word two bytes make, high byte first. -/
def wordOf (hi lo : U8) : Unsigned := (hi.setWidth 32 <<< 8) ||| lo.setWidth 32

lemma rdmem16_plain {s : Cpu σ} {a : Unsigned} {hi lo : U8} (h : Plain s.world a hi)
    (h' : Plain s.world ((a + 1) &&& 0xffff) lo) :
    rdmem16 a s = .ok (wordOf hi lo, { s with cpuClk := s.cpuClk - 1 }) := by
  have hlo : rdmem ((a + 1) &&& 0xffff) { s with cpuClk := s.cpuClk - 1 } =
      .ok (lo.setWidth 32, { s with cpuClk := s.cpuClk - 1 }) := rdmem_plain h'
  rw [rdmem16, ok_bind (rdmem_plain h), ok_bind (tick_apply 1 s), ok_bind hlo]
  rfl

lemma readStack16_plain {s : Cpu σ} {a : Unsigned} {hi lo : U8} (h : Plain s.world a hi)
    (h' : Plain s.world ((a + 1) &&& 0xffff) lo) : readStack16 a s = .ok (wordOf hi lo, s) := by
  rw [readStack16, ok_bind (rdmem_plain h), ok_bind (rdmem_plain h')]
  rfl

/-! ## Writes -/

/-- Writing `d` at `a` leads to `w'` and nothing else happens. -/
def PlainWrite (w : σ) (a : Unsigned) (d : U8) (w' : σ) : Prop :=
  ∀ v, Machine.write8 v w a d = ⟨w', []⟩

lemma wrmem_plain {s : Cpu σ} {a data : Unsigned} {w' : σ}
    (h : PlainWrite s.world a (data.setWidth 8) w') :
    wrmem a data s = .ok ((), { s with world := w' }) := by
  have hget : (modifyGet fun s : Cpu σ =>
      let r := Machine.write8 s.view s.world a (data.setWidth 8)
      (r, { s with world := r.world }) : M σ _) s = .ok (⟨w', []⟩, { s with world := w' }) := by
    rw [modifyGet_apply, h]
  rw [wrmem, writeN, ok_bind hget]
  rfl

/-- The address holds `b` in ordinary RAM: a write there is seen there and nowhere else. -/
structure RamAt (w : σ) (a : Unsigned) (b : U8) : Prop where
  plain : Plain w a b
  write : ∀ d, ∃ w', PlainWrite w a d w' ∧ Plain w' a d ∧
    ∀ v a', a' ≠ a → (Machine.read8 v w' a').val = (Machine.read8 v w a').val

end Exec09
