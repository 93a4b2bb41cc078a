import Exec09.Cpu.Flat
import Exec09.Framework.RingStack
import Exec09.Properties.Memory

/-!
# The context-saving code paths agree

The push and pull sequences are written out nine times.  Two runs are compared that differ in the
stack pointer used and in the clock (`Twins`): every push and pull has one lemma for both stacks, and
the sequences follow line by line.
-/

namespace Exec09

open Program RingStack

variable {σ : Type}

/-! ## The two stacks -/

inductive StackReg
  | S | U
  deriving DecidableEq, Repr

/-- The roles of `S` and `U` exchanged. -/
def Cpu.swapSU (s : Cpu σ) : Cpu σ := { s with S := s.U, U := s.S }

/-- The state as the instructions on the stack of `S` have to see it. -/
def StackReg.view : StackReg → Cpu σ → Cpu σ
  | .S, s => s
  | .U, s => s.swapSU

def StackReg.ptr : StackReg → Cpu σ → Unsigned
  | .S => Cpu.S
  | .U => Cpu.U

def StackReg.set : StackReg → Unsigned → Cpu σ → Cpu σ
  | .S, v, s => { s with S := v }
  | .U, v, s => { s with U := v }

def Cpu.clocked (c : Int) (s : Cpu σ) : Cpu σ := { s with cpuClk := c }

variable [Machine σ]

/-- Addresses that are RAM in the worlds `Ok`: a read delivers the byte stored, a write stores one,
and nothing else happens. -/
structure PlainRam (σ : Type) [Machine σ] where
  Ram : Unsigned → Prop
  Ok : σ → Prop
  get : σ → Unsigned → U8
  put : σ → Unsigned → U8 → σ
  read : ∀ {w a}, Ok w → Ram a → Plain w a (get w a)
  write : ∀ {w a d}, Ok w → Ram a → PlainWrite w a d (put w a d) ∧ Ok (put w a d)

/-- The twelve bytes on either side of a stack pointer are RAM. -/
structure PlainRam.Stack (r : PlainRam σ) (w : σ) (p : Unsigned) : Prop where
  ok : r.Ok w
  word : p.toNat < 2 ^ 16
  under : ∀ i, 1 ≤ i → i ≤ 12 → r.Ram (below p i)
  upper : ∀ i, i < 12 → r.Ram (above p i)

namespace StackReg

def push8 : StackReg → Unsigned → M σ Unit
  | .S => pushS8
  | .U => pushU8

def push16 : StackReg → Unsigned → M σ Unit
  | .S => pushS16
  | .U => pushU16

def pull8 : StackReg → M σ Unsigned
  | .S => pullS8
  | .U => pullU8

def pull16 : StackReg → M σ Unsigned
  | .S => pullS16
  | .U => pullU16

/-- `PSHS`, `PSHU`. -/
def psh : StackReg → Unsigned → M σ Unit
  | .S => pshsPost
  | .U => pshuPost

/-- `PULS`, `PULU`. -/
def pul : StackReg → Unsigned → M σ Unit
  | .S => pulsPost
  | .U => puluPost

variable {r : PlainRam σ} (k : StackReg) {s : Cpu σ}

lemma push8_plain (d : Unsigned) (hok : r.Ok s.world) (h : r.Ram (below (k.ptr s) 1)) :
    k.push8 d s = .ok ((), { k.set (below (k.ptr s) 1) s with
      world := r.put s.world (below (k.ptr s) 1) (d.setWidth 8) }) := by
  cases k with
  | S =>
    rw [push8, pushS8, pushS8With, ok_bind (modify_apply _ _), ok_bind (reads_apply _ _)]
    exact wrmem_plain (s := { s with S := below s.S 1 }) (r.write hok h).1
  | U =>
    rw [push8, pushU8, ok_bind (modify_apply _ _), ok_bind (reads_apply _ _)]
    exact wrmem_plain (s := { s with U := below s.U 1 }) (r.write hok h).1

/-- The memory after a word is pushed at `p`, low byte first. -/
def putWord (r : PlainRam σ) (w : σ) (p d : Unsigned) : σ :=
  r.put (r.put w (above p 1) ((d &&& 0xff).setWidth 8)) p ((d >>> 8).setWidth 8)

lemma writeStack16_plain {p d : Unsigned} (hok : r.Ok s.world) (h : r.Ram p)
    (h' : r.Ram (above p 1)) :
    writeStack16 p d s = .ok ((), { s with world := putWord r s.world p d }) := by
  obtain ⟨hlow, hok'⟩ := r.write (d := (d &&& 0xff).setWidth 8) hok h'
  have hfirst : wrmem ((p + 1) &&& 0xffff) (d &&& 0xff) s = .ok ((), { s with
      world := r.put s.world (above p 1) ((d &&& 0xff).setWidth 8) }) := wrmem_plain hlow
  rw [writeStack16, writeStack16With, ok_bind hfirst]
  exact wrmem_plain (s := { s with
    world := r.put s.world (above p 1) ((d &&& 0xff).setWidth 8) }) (r.write hok' h).1

lemma push16_plain (d : Unsigned) (hok : r.Ok s.world) (h : r.Ram (below (k.ptr s) 2))
    (h' : r.Ram (below (k.ptr s) 1)) :
    k.push16 d s = .ok ((), { k.set (below (k.ptr s) 2) s with
      world := putWord r s.world (below (k.ptr s) 2) d }) := by
  have hup : above (below (k.ptr s) 2) 1 = below (k.ptr s) 1 :=
    above_of_below (k.ptr s) (i := 1) (j := 1) (by decide)
  rw [← hup] at h'
  cases k with
  | S =>
    rw [push16, pushS16, pushS16With, ok_bind (modify_apply _ _), ok_bind (reads_apply _ _)]
    exact writeStack16_plain (s := { s with S := below s.S 2 }) hok h h'
  | U =>
    rw [push16, pushU16, ok_bind (modify_apply _ _), ok_bind (reads_apply _ _)]
    exact writeStack16_plain (s := { s with U := below s.U 2 }) hok h h'

lemma pull8_plain (hok : r.Ok s.world) (h : r.Ram (k.ptr s)) :
    k.pull8 s = .ok ((r.get s.world (k.ptr s)).setWidth 32, k.set (above (k.ptr s) 1) s) := by
  cases k with
  | S =>
    rw [pull8, pullS8, ok_bind (reads_apply _ _), ok_bind (rdmem_plain (a := s.S) (r.read hok h))]
    rfl
  | U =>
    rw [pull8, pullU8, ok_bind (reads_apply _ _), ok_bind (rdmem_plain (a := s.U) (r.read hok h))]
    rfl

lemma pull16_plain (hok : r.Ok s.world) (h : r.Ram (k.ptr s)) (h' : r.Ram (above (k.ptr s) 1)) :
    k.pull16 s = .ok (wordOf (r.get s.world (k.ptr s)) (r.get s.world (above (k.ptr s) 1)),
      k.set (above (k.ptr s) 2) s) := by
  cases k with
  | S =>
    rw [pull16, pullS16, ok_bind (reads_apply _ _),
      ok_bind (readStack16_plain (a := s.S) (r.read hok h) (r.read hok h'))]
    rfl
  | U =>
    rw [pull16, pullU16, ok_bind (reads_apply _ _),
      ok_bind (readStack16_plain (a := s.U) (r.read hok h) (r.read hok h'))]
    rfl

end StackReg

/-! ## Runs on the two stacks -/

/-- The second state is the first with the roles of the stacks that belong to `k`, and its clock is
`d` ahead.  The pointer is one of `P`. -/
structure Twins (r : PlainRam σ) (k : StackReg) (P : Unsigned → Prop) (d : Int) (s t : Cpu σ) :
    Prop where
  ok : r.Ok s.world
  ptr : P (k.ptr s)
  eq : t = (k.view s).clocked (s.cpuClk + d)

/-- At most `n` bytes under `a`. -/
def Under (a : Unsigned) (n : Nat) (p : Unsigned) : Prop := ∃ i ≤ n, p = below a i

/-- At most `n` bytes over `a`. -/
def Over (a : Unsigned) (n : Nat) (p : Unsigned) : Prop := ∃ i ≤ n, p = above a i

section Twins

variable {r : PlainRam σ} {k : StackReg} {P Q : Unsigned → Prop} {d : Int}

lemma Twins.mono {s t : Cpu σ} (h : Twins r k P d s t) (hP : ∀ p, P p → Q p) :
    Twins r k Q d s t :=
  ⟨h.ok, hP _ h.ptr, h.eq⟩

lemma together_tick (n : Int) : Together (Twins r k P d) (Twins r k P d) (tick n) (tick n) := by
  refine Together.modify fun s t h => ⟨h.ok, ?_, ?_⟩
  · have hptr := h.ptr
    cases k <;> exact hptr
  · have hclk : s.cpuClk + d - n = s.cpuClk - n + d := by omega
    rw [h.eq, ← hclk]
    cases k <;> rfl

/-- The second program charges for itself. -/
lemma tick_right {n : Int} {R : Cpu σ → Cpu σ → Prop} {m m' : M σ Unit}
    (h : Together (Twins r k P (d - n)) R m m') :
    Together (Twins r k P d) R m (do tick n; m') := by
  refine Together.right (fun s t hst => ⟨hst.ok, hst.ptr, ?_⟩) h
  have hclk : s.cpuClk + d - n = s.cpuClk + (d - n) := by omega
  rw [hst.eq, ← hclk]
  rfl

/-- An update that does the same on both sides. -/
lemma together_set {g g' : Cpu σ → Cpu σ} (hw : ∀ s, (g s).world = s.world)
    (hp : ∀ s, k.ptr (g s) = k.ptr s)
    (heq : ∀ s d, g' ((k.view s).clocked (s.cpuClk + d)) = (k.view (g s)).clocked ((g s).cpuClk + d)) :
    Together (Twins r k P d) (Twins r k P d) (modify g : M σ PUnit) (modify g') := by
  refine Together.modify fun s t h => ⟨?_, ?_, ?_⟩
  · rw [hw]
    exact h.ok
  · rw [hp]
    exact h.ptr
  · rw [h.eq, heq]

/-! ### Pushes -/

lemma together_push8 (v : Unsigned) (hP : ∀ p, P p → r.Ram (below p 1) ∧ Q (below p 1)) :
    Together (Twins r k P d) (Twins r k Q d) (k.push8 v) (StackReg.S.push8 v) := by
  intro s t h
  obtain rfl := h.eq
  obtain ⟨hram, hQ⟩ := hP _ h.ptr
  have hok := h.ok
  refine ⟨(), _, _, k.push8_plain v hok hram, StackReg.S.push8_plain v (r := r) ?_ ?_, ?_, ?_, ?_⟩
  · cases k <;> exact hok
  · cases k <;> exact hram
  · cases k <;> exact (r.write hok hram).2
  · cases k <;> exact hQ
  · cases k <;> rfl

lemma together_push16 (v : Unsigned)
    (hP : ∀ p, P p → r.Ram (below p 1) ∧ r.Ram (below p 2) ∧ Q (below p 2)) :
    Together (Twins r k P d) (Twins r k Q d) (k.push16 v) (StackReg.S.push16 v) := by
  intro s t h
  obtain rfl := h.eq
  obtain ⟨hram, hram', hQ⟩ := hP _ h.ptr
  have hok := h.ok
  have hup : above (below (k.ptr s) 2) 1 = below (k.ptr s) 1 :=
    above_of_below (k.ptr s) (i := 1) (j := 1) (by decide)
  have hok' := (r.write (d := (v &&& 0xff).setWidth 8) hok (hup ▸ hram)).2
  refine ⟨(), _, _, k.push16_plain v hok hram' hram,
    StackReg.S.push16_plain v (r := r) ?_ ?_ ?_, ?_, ?_, ?_⟩
  · cases k <;> exact hok
  · cases k <;> exact hram'
  · cases k <;> exact hram
  · cases k <;> exact (r.write hok' hram').2
  · cases k <;> exact hQ
  · cases k <;> rfl

/-! ### Pulls -/

lemma together_pull8 (hP : ∀ p, P p → r.Ram p ∧ Q (above p 1)) :
    Together (Twins r k P d) (Twins r k Q d) k.pull8 StackReg.S.pull8 := by
  intro s t h
  obtain rfl := h.eq
  obtain ⟨hram, hQ⟩ := hP _ h.ptr
  have hok := h.ok
  refine ⟨_, _, _, k.pull8_plain hok hram, ?_, ?_, ?_, rfl⟩
  · cases k <;> exact StackReg.S.pull8_plain (r := r) hok hram
  · cases k <;> exact hok
  · cases k <;> exact hQ

lemma together_pull16 (hP : ∀ p, P p → r.Ram p ∧ r.Ram (above p 1) ∧ Q (above p 2)) :
    Together (Twins r k P d) (Twins r k Q d) k.pull16 StackReg.S.pull16 := by
  intro s t h
  obtain rfl := h.eq
  obtain ⟨hram, hram', hQ⟩ := hP _ h.ptr
  have hok := h.ok
  refine ⟨_, _, _, k.pull16_plain hok hram hram', ?_, ?_, ?_, rfl⟩
  · cases k <;> exact StackReg.S.pull16_plain (r := r) hok hram hram'
  · cases k <;> exact hok
  · cases k <;> exact hQ

/-! ### Loads -/

lemma together_setCc (v : Unsigned) :
    Together (Twins r k P d) (Twins r k P d) (setCc v) (setCc v) := by
  refine together_set (fun _ => rfl) ?_ ?_ <;> cases k <;> intros <;> rfl

lemma together_wrA (v : Unsigned) : Together (Twins r k P d) (Twins r k P d) (wrA v) (wrA v) := by
  refine together_set (fun _ => rfl) ?_ ?_ <;> cases k <;> intros <;> rfl

lemma together_wrB (v : Unsigned) : Together (Twins r k P d) (Twins r k P d) (wrB v) (wrB v) := by
  refine together_set (fun _ => rfl) ?_ ?_ <;> cases k <;> intros <;> rfl

lemma together_wrDP (v : Unsigned) : Together (Twins r k P d) (Twins r k P d) (wrDP v) (wrDP v) := by
  refine together_set (fun _ => rfl) ?_ ?_ <;> cases k <;> intros <;> rfl

lemma together_wrX (v : Unsigned) : Together (Twins r k P d) (Twins r k P d) (wrX v) (wrX v) := by
  refine together_set (fun _ => rfl) ?_ ?_ <;> cases k <;> intros <;> rfl

lemma together_wrY (v : Unsigned) : Together (Twins r k P d) (Twins r k P d) (wrY v) (wrY v) := by
  refine together_set (fun _ => rfl) ?_ ?_ <;> cases k <;> intros <;> rfl

lemma together_wrPC (v : Unsigned) : Together (Twins r k P d) (Twins r k P d) (wrPC v) (wrPC v) := by
  refine together_set (fun _ => rfl) ?_ ?_ <;> cases k <;> intros <;> rfl

/-- The register that is not the stack in use. -/
lemma together_wrS (v : Unsigned) : Together (Twins r .U P d) (Twins r .U P d) (wrS v) (wrU v) :=
  together_set (fun _ => rfl) (fun _ => rfl) fun _ _ => rfl

lemma together_wrU (v : Unsigned) : Together (Twins r .S P d) (Twins r .S P d) (wrU v) (wrU v) :=
  together_set (fun _ => rfl) (fun _ => rfl) fun _ _ => rfl

/-! ### Lines -/

/-- A line of `PSHS` and one of `PSHU`. -/
lemma together_psh_line {c : Prop} [Decidable c] {n : Int} {f f' : Cpu σ → Unsigned}
    {m q : Unsigned → M σ Unit} (hPQ : ∀ p, P p → Q p)
    (hf : ∀ s i, f s = f' ((k.view s).clocked i))
    (hm : ∀ v, Together (Twins r k P d) (Twins r k Q d) (m v) (q v)) :
    Together (Twins r k P d) (Twins r k Q d) (whenever c do tick n; m (← reads f))
      (whenever c do tick n; q (← reads f')) := by
  refine Together.whenever ?_ fun s t h => h.mono hPQ
  refine Together.bind (together_tick n) fun _ => Together.bind (Together.reads fun s t h => ?_) hm
  rw [h.eq, hf s]

/-- A line of `PULS` and one of `PULU`. -/
lemma together_pul_line {c : Prop} [Decidable c] {n : Int} {m m' : Unsigned → M σ Unit}
    {pull pull' : M σ Unsigned} (hPQ : ∀ p, P p → Q p)
    (hp : Together (Twins r k P d) (Twins r k Q d) pull pull')
    (hm : ∀ v, Together (Twins r k Q d) (Twins r k Q d) (m v) (m' v)) :
    Together (Twins r k P d) (Twins r k Q d) (whenever c do tick n; m (← pull))
      (whenever c do tick n; m' (← pull')) := by
  refine Together.whenever ?_ fun s t h => h.mono hPQ
  exact Together.bind (together_tick n) fun _ => Together.bind hp hm

/-- A push of the interrupts and the line of `PSHS` that does the same, and the rest. -/
lemma together_save {c : Prop} [Decidable c] (hc : c) {n : Int} {f f' : Cpu σ → Unsigned}
    {m q : Unsigned → M σ Unit} {R : Cpu σ → Cpu σ → Prop} {rest rest' : M σ Unit}
    (hf : ∀ s i, f s = f' ((k.view s).clocked i))
    (hm : ∀ v, Together (Twins r k P (d - n)) (Twins r k Q (d - n)) (m v) (q v))
    (hrest : Together (Twins r k Q (d - n)) R rest rest') :
    Together (Twins r k P d) R (do m (← reads f); rest)
      (do whenever c (do tick n; q (← reads f')); rest') := by
  rw [whenever, if_pos hc, bind_assoc]
  refine tick_right ?_
  have hread : Together (Twins r k P (d - n)) (Twins r k P (d - n))
      (reads f : M σ Unsigned) (reads f') :=
    Together.reads fun s t h => by rw [h.eq, hf s]
  simp only [bind_assoc]
  exact Together.bind hread fun v => Together.bind (hm v) fun _ => hrest

lemma together_save_last {c : Prop} [Decidable c] (hc : c) {n : Int} {f f' : Cpu σ → Unsigned}
    {m m' : Unsigned → M σ Unit} (hf : ∀ s i, f s = f' ((k.view s).clocked i))
    (hm : ∀ v, Together (Twins r k P (d - n)) (Twins r k Q (d - n)) (m v) (m' v)) :
    Together (Twins r k P d) (Twins r k Q (d - n)) (do m (← reads f))
      (whenever c do tick n; m' (← reads f')) := by
  rw [whenever, if_pos hc]
  refine tick_right (Together.bind (Together.reads fun s t h => ?_) hm)
  rw [h.eq, hf s]

/-- A load of `RTI` and the line of `PULS` that does the same, and the rest. -/
lemma together_load {c : Prop} [Decidable c] (hc : c) {n : Int} {m m' : Unsigned → M σ Unit}
    {pull pull' : M σ Unsigned} {R : Cpu σ → Cpu σ → Prop} {rest rest' : M σ Unit}
    (hp : Together (Twins r k P (d - n)) (Twins r k Q (d - n)) pull pull')
    (hm : ∀ v, Together (Twins r k Q (d - n)) (Twins r k Q (d - n)) (m v) (m' v))
    (hrest : Together (Twins r k Q (d - n)) R rest rest') :
    Together (Twins r k P d) R (do m (← pull); rest)
      (do whenever c (do tick n; m' (← pull')); rest') := by
  rw [whenever, if_pos hc, bind_assoc]
  refine tick_right ?_
  simp only [bind_assoc]
  exact Together.bind hp fun v => Together.bind (hm v) fun _ => hrest

lemma together_load_last {c : Prop} [Decidable c] (hc : c) {n : Int} {m m' : Unsigned → M σ Unit}
    {pull pull' : M σ Unsigned}
    (hp : Together (Twins r k P (d - n)) (Twins r k Q (d - n)) pull pull')
    (hm : ∀ v, Together (Twins r k Q (d - n)) (Twins r k Q (d - n)) (m v) (m' v)) :
    Together (Twins r k P d) (Twins r k Q (d - n)) (do m (← pull))
      (whenever c do tick n; m' (← pull')) := by
  rw [whenever, if_pos hc]
  exact tick_right (Together.bind hp hm)

end Twins

/-! ### Where the pointer is -/

section Positions

variable {r : PlainRam σ} {w : σ} {a : Unsigned} (h : r.Stack w a)
include h

lemma under_one {n : Nat} (hn : n < 12) (p : Unsigned) (hp : Under a n p) :
    r.Ram (below p 1) ∧ Under a (n + 1) (below p 1) := by
  obtain ⟨i, hi, rfl⟩ := hp
  rw [below_below a (by omega)]
  exact ⟨h.under _ (by omega) (by omega), i + 1, by omega, rfl⟩

lemma under_two {n : Nat} (hn : n < 11) (p : Unsigned) (hp : Under a n p) :
    r.Ram (below p 1) ∧ r.Ram (below p 2) ∧ Under a (n + 2) (below p 2) := by
  obtain ⟨i, hi, rfl⟩ := hp
  rw [below_below a (by omega), below_below a (by omega)]
  exact ⟨h.under _ (by omega) (by omega), h.under _ (by omega) (by omega), i + 2, by omega, rfl⟩

lemma over_one {n : Nat} (hn : n < 12) (p : Unsigned) (hp : Over a n p) :
    r.Ram p ∧ Over a (n + 1) (above p 1) := by
  obtain ⟨i, hi, rfl⟩ := hp
  rw [above_above]
  exact ⟨h.upper i (by omega), i + 1, by omega, rfl⟩

lemma over_two {n : Nat} (hn : n < 11) (p : Unsigned) (hp : Over a n p) :
    r.Ram p ∧ r.Ram (above p 1) ∧ Over a (n + 2) (above p 2) := by
  obtain ⟨i, hi, rfl⟩ := hp
  rw [above_above, above_above]
  exact ⟨h.upper i (by omega), h.upper (i + 1) (by omega), i + 2, by omega, rfl⟩

end Positions

lemma Under.mono {a p : Unsigned} {n : Nat} (j : Nat) (h : Under a n p) : Under a (n + j) p := by
  obtain ⟨i, hi, rfl⟩ := h
  exact ⟨i, by omega, rfl⟩

lemma Over.mono {a p : Unsigned} {n : Nat} (j : Nat) (h : Over a n p) : Over a (n + j) p := by
  obtain ⟨i, hi, rfl⟩ := h
  exact ⟨i, by omega, rfl⟩

/-! ## The sequences -/

section Sequences

variable {r : PlainRam σ} {w : σ} {a : Unsigned} (h : r.Stack w a) {d : Int}
include h

/-- `PSHU` is `PSHS` with the roles of the stacks exchanged. -/
lemma together_psh (m : Unsigned) :
    Together (Twins r .U (Under a 0) d) (Twins r .U (Under a 12) d) (pshuPost m) (pshsPost m) := by
  refine Together.bind (together_tick 5) fun _ => ?_
  refine Together.bind (together_psh_line (m := fun v => StackReg.U.push16 (v &&& 0xffff))
    (q := fun v => StackReg.S.push16 (v &&& 0xffff)) (fun _ => Under.mono 2) (fun _ _ => rfl)
    fun v => together_push16 _ (under_two h (by decide))) fun _ => ?_
  refine Together.bind (together_psh_line (fun _ => Under.mono 2) (fun _ _ => rfl)
    fun v => together_push16 v (under_two h (by decide))) fun _ => ?_
  refine Together.bind (together_psh_line (fun _ => Under.mono 2) (fun _ _ => rfl)
    fun v => together_push16 v (under_two h (by decide))) fun _ => ?_
  refine Together.bind (together_psh_line (fun _ => Under.mono 2) (fun _ _ => rfl)
    fun v => together_push16 v (under_two h (by decide))) fun _ => ?_
  refine Together.bind (together_psh_line (m := fun v => StackReg.U.push8 (v >>> 8))
    (q := fun v => StackReg.S.push8 (v >>> 8)) (fun _ => Under.mono 1) (fun _ _ => rfl)
    fun v => together_push8 _ (under_one h (by decide))) fun _ => ?_
  refine Together.bind (together_psh_line (fun _ => Under.mono 1) (fun _ _ => rfl)
    fun v => together_push8 v (under_one h (by decide))) fun _ => ?_
  refine Together.bind (together_psh_line (fun _ => Under.mono 1) (fun _ _ => rfl)
    fun v => together_push8 v (under_one h (by decide))) fun _ => ?_
  exact together_psh_line (fun _ => Under.mono 1) (fun _ _ => rfl)
    fun v => together_push8 v (under_one h (by decide))

/-- `PULU` is `PULS` with the roles of the stacks exchanged. -/
lemma together_pul (m : Unsigned) :
    Together (Twins r .U (Over a 0) d) (Twins r .U (Over a 12) d) (puluPost m) (pulsPost m) := by
  refine Together.bind (together_tick 5) fun _ => ?_
  refine Together.bind (together_pul_line (fun _ => Over.mono 1)
    (together_pull8 (over_one h (by decide))) fun v => together_setCc v) fun _ => ?_
  refine Together.bind (together_pul_line (fun _ => Over.mono 1)
    (together_pull8 (over_one h (by decide))) fun v => together_wrA v) fun _ => ?_
  refine Together.bind (together_pul_line (fun _ => Over.mono 1)
    (together_pull8 (over_one h (by decide))) fun v => together_wrB v) fun _ => ?_
  refine Together.bind (together_pul_line (fun _ => Over.mono 1)
    (together_pull8 (over_one h (by decide))) fun v => together_wrDP v) fun _ => ?_
  refine Together.bind (together_pul_line (fun _ => Over.mono 2)
    (together_pull16 (over_two h (by decide))) fun v => together_wrX v) fun _ => ?_
  refine Together.bind (together_pul_line (fun _ => Over.mono 2)
    (together_pull16 (over_two h (by decide))) fun v => together_wrY v) fun _ => ?_
  refine Together.bind (together_pul_line (fun _ => Over.mono 2)
    (together_pull16 (over_two h (by decide))) fun v => together_wrS v) fun _ => ?_
  exact together_pul_line (fun _ => Over.mono 2)
    (together_pull16 (over_two h (by decide))) fun v => together_wrPC v

/-- The interrupts push what `PSHS` with mask `0xff` pushes. -/
lemma together_pushAll : Together (Twins r .S (Under a 0) d)
    (Twins r .S (Under a 12) (d - 5 - 2 - 2 - 2 - 2 - 1 - 1 - 1 - 1)) pushAll (pshsPost 0xff) := by
  refine tick_right ?_
  refine together_save (by decide) (m := fun v => StackReg.S.push16 (v &&& 0xffff))
    (q := fun v => StackReg.S.push16 (v &&& 0xffff)) (fun _ _ => rfl)
    (fun v => together_push16 _ (under_two h (by decide))) ?_
  refine together_save (by decide) (fun _ _ => rfl)
    (fun v => together_push16 v (under_two h (by decide))) ?_
  refine together_save (by decide) (fun _ _ => rfl)
    (fun v => together_push16 v (under_two h (by decide))) ?_
  refine together_save (by decide) (fun _ _ => rfl)
    (fun v => together_push16 v (under_two h (by decide))) ?_
  refine together_save (by decide) (m := fun v => StackReg.S.push8 (v >>> 8))
    (q := fun v => StackReg.S.push8 (v >>> 8)) (fun _ _ => rfl)
    (fun v => together_push8 _ (under_one h (by decide))) ?_
  refine together_save (by decide) (fun _ _ => rfl)
    (fun v => together_push8 v (under_one h (by decide))) ?_
  refine together_save (by decide) (fun _ _ => rfl)
    (fun v => together_push8 v (under_one h (by decide))) ?_
  exact together_save_last (by decide) (fun _ _ => rfl)
    (fun v => together_push8 v (under_one h (by decide)))

/-- What `RTI` loads after the condition codes is what `PULS` with mask `0xff` loads. -/
lemma together_context : Together (Twins r .S (Over a 1) d)
    (Twins r .S (Over a 12) (d - 1 - 1 - 1 - 2 - 2 - 2 - 2))
    (do
      wrA (← pullS8)
      wrB (← pullS8)
      wrDP (← pullS8)
      wrX (← pullS16)
      wrY (← pullS16)
      wrU (← pullS16)
      wrPC (← pullS16))
    (do
      whenever ((0xff : Unsigned) &&& 0x02 ≠ 0) do tick 1; wrA (← pullS8)
      whenever ((0xff : Unsigned) &&& 0x04 ≠ 0) do tick 1; wrB (← pullS8)
      whenever ((0xff : Unsigned) &&& 0x08 ≠ 0) do tick 1; wrDP (← pullS8)
      whenever ((0xff : Unsigned) &&& 0x10 ≠ 0) do tick 2; wrX (← pullS16)
      whenever ((0xff : Unsigned) &&& 0x20 ≠ 0) do tick 2; wrY (← pullS16)
      whenever ((0xff : Unsigned) &&& 0x40 ≠ 0) do tick 2; wrU (← pullS16)
      whenever ((0xff : Unsigned) &&& 0x80 ≠ 0) do tick 2; wrPC (← pullS16)) := by
  refine together_load (by decide) (together_pull8 (k := .S) (over_one h (by decide)))
    (fun v => together_wrA v) ?_
  refine together_load (by decide) (together_pull8 (k := .S) (over_one h (by decide)))
    (fun v => together_wrB v) ?_
  refine together_load (by decide) (together_pull8 (k := .S) (over_one h (by decide)))
    (fun v => together_wrDP v) ?_
  refine together_load (by decide) (together_pull16 (k := .S) (over_two h (by decide)))
    (fun v => together_wrX v) ?_
  refine together_load (by decide) (together_pull16 (k := .S) (over_two h (by decide)))
    (fun v => together_wrY v) ?_
  refine together_load (by decide) (together_pull16 (k := .S) (over_two h (by decide)))
    (fun v => together_wrU v) ?_
  exact together_load_last (by decide) (together_pull16 (k := .S) (over_two h (by decide)))
    (fun v => together_wrPC v)

end Sequences

/-! ## Agreement -/

lemma Twins.start {r : PlainRam σ} {k : StackReg} {P : Unsigned → Prop} {s : Cpu σ}
    (hok : r.Ok s.world) (hP : P (k.ptr s)) (c : Int) :
    Twins r k P (c - s.cpuClk) s ((k.view s).clocked c) := by
  have hc : s.cpuClk + (c - s.cpuClk) = c := by omega
  refine ⟨hok, hP, ?_⟩
  rw [hc]

/-- `m` does from `s` what `PSHS` with mask `0xff` does from `e`, and goes on with `rest`; only the
clock can differ. -/
def SavesAll (m rest : M σ Unit) (s e : Cpu σ) : Prop :=
  ∃ t c, pshsPost 0xff e = .ok ((), t) ∧ m s = rest (t.clocked c)

lemma pushAll_saves {r : PlainRam σ} {s : Cpu σ} (h : r.Stack s.world s.S) (c : Int) :
    ∃ t i, pshsPost 0xff (s.clocked c) = .ok ((), t) ∧ pushAll s = .ok ((), t.clocked i) := by
  obtain ⟨_, s', t', hs, ht, ht'⟩ := together_pushAll h s (s.clocked c)
    (Twins.start (k := .S) h.ok ⟨0, Nat.le_refl 0, (below_zero h.word).symm⟩ c)
  refine ⟨t', s'.cpuClk, ht, ?_⟩
  rw [hs, ht'.eq]
  rfl

/-- What follows the pushes of an IRQ. -/
def irqRest : M σ Unit := do
  modify fun s => { s with EFI := s.EFI ||| I_FLAG }
  let pc ← read16 0xfff8
  modify fun s => { s with PC := pc }
  modify fun s => { s with irqsPending := 0 }

/-- What follows the pushes of a software interrupt. -/
def swiRest (masks vector : Unsigned) : M σ Unit := do
  modify fun s => { s with EFI := s.EFI ||| masks }
  wrPC (← read16 vector)

/-- The state from which an IRQ pushes. -/
def Cpu.irqEntry (s : Cpu σ) : Cpu σ :=
  { s with EFI := s.EFI ||| E_FLAG, hist := .irq s.snapshot :: s.hist }

/-- The state from which a software interrupt pushes. -/
def Cpu.swiEntry (s : Cpu σ) : Cpu σ := { s with EFI := s.EFI ||| E_FLAG }

lemma irq_saves {r : PlainRam σ} {s : Cpu σ} (h : r.Stack s.world s.S) :
    SavesAll irq irqRest s s.irqEntry := by
  obtain ⟨t, c, ht, hs⟩ := pushAll_saves (s := s.irqEntry) h s.cpuClk
  refine ⟨t, c, ht, ?_⟩
  have hpush : pushAllWith wrmem s.irqEntry = .ok ((), t.clocked c) := hs
  rw [irq, irqWith, ok_bind (modify_apply _ _), ok_bind (modify_apply _ _)]
  exact ok_bind hpush

lemma swiWith_saves {r : PlainRam σ} {s : Cpu σ} (h : r.Stack s.world s.S) (clk : Int)
    (masks vector : Unsigned) :
    SavesAll (swiWith clk masks vector) (swiRest masks vector) s s.swiEntry := by
  obtain ⟨t, c, ht, hs⟩ := pushAll_saves (s := s.swiEntry.clocked (s.cpuClk - clk)) h s.cpuClk
  refine ⟨t, c, ht, ?_⟩
  rw [swiWith, ok_bind (tick_apply clk s), ok_bind (modify_apply _ _)]
  exact ok_bind hs

/-- `RTI` on a condition code byte with `E` set. -/
lemma rti_loads {r : PlainRam σ} {s : Cpu σ} (h : r.Stack s.world s.S)
    (hE : (r.get s.world s.S).setWidth 32 &&& E_FLAG ≠ (0 : Unsigned)) :
    ∃ t c, pulsPost 0xff s = .ok ((), t) ∧ rti s = .ok ((), t.clocked c) := by
  have hram : r.Ram s.S := above_zero h.word ▸ h.upper 0 (by decide)
  -- the states after the condition codes
  have hpull (c : Int) : pullS8 (s.clocked c) = .ok ((r.get s.world s.S).setWidth 32,
      StackReg.S.set (above s.S 1) (s.clocked c)) :=
    StackReg.S.pull8_plain (s := s.clocked c) h.ok hram
  let cc (c : Int) : Cpu σ :=
    Cpu.setCc ((r.get s.world s.S).setWidth 32) (StackReg.S.set (above s.S 1) (s.clocked c))
  have hentire (c : Int) : (cc c).entireState = true := by
    rw [Cpu.entireState, decide_eq_true_eq]
    change (r.get s.world s.S).setWidth 32 &&& (E_FLAG ||| F_FLAG ||| I_FLAG) &&& E_FLAG ≠ 0
    rw [BitVec.and_assoc]
    exact hE
  have hfirst : (whenever ((0xff : Unsigned) &&& 0x01 ≠ 0) do tick 1; setCc (← pullS8))
      (s.clocked (s.cpuClk - 5)) = .ok ((), cc (s.cpuClk - 6)) := by
    have six : s.cpuClk - 5 - 1 = s.cpuClk - 6 := by omega
    rw [whenever, if_pos (by decide), ok_bind (tick_apply 1 _)]
    exact ok_bind ((congrArg (fun c => pullS8 (s.clocked c)) six).trans (hpull _))
  have hover : Over s.S 1 (above s.S 1) := ⟨1, Nat.le_refl 1, rfl⟩
  have hstart : Twins r .S (Over s.S 1) _ ((cc (s.cpuClk - 6)).clocked (s.cpuClk - 6 - 9))
      (cc (s.cpuClk - 6)) :=
    Twins.start (k := .S) (s := (cc (s.cpuClk - 6)).clocked (s.cpuClk - 6 - 9)) h.ok hover
      (s.cpuClk - 6)
  obtain ⟨_, s', t', hs, ht, ht'⟩ := together_context h _ _ hstart
  refine ⟨t', s'.cpuClk, ?_, ?_⟩
  · rw [pulsPost, ok_bind (tick_apply 5 s)]
    exact (ok_bind hfirst).trans ht
  · rw [rti, ok_bind (tick_apply 6 s)]
    refine (ok_bind (hpull (s.cpuClk - 6))).trans ?_
    rw [setCc, ok_bind (modify_apply _ _), ok_bind (reads_apply _ _)]
    have hrest : (do
        whenever ((cc (s.cpuClk - 6)).entireState = true) rtiContext
        wrPC (← pullS16) : M σ Unit) (cc (s.cpuClk - 6)) = .ok ((), s') := by
      rw [whenever, if_pos (hentire _), rtiContext]
      simp only [bind_assoc]
      exact (ok_bind (tick_apply 9 _)).trans hs
    have heq : s' = t'.clocked s'.cpuClk := by
      rw [ht'.eq]
      rfl
    rw [← heq]
    exact hrest

/-- **All context-saving code paths agree**, on a stack in RAM.  (1) From the state with `E` set,
`irq`, `swi`, `swi2` and `swi3` go through the state that `PSHS` with mask `0xff` leaves, and from
there set their masks and load their vector; `RTI` on a condition code byte with `E` set leaves the
state that `PULS` with mask `0xff` leaves; in both cases the clock aside.  (2) `PSHU` and `PULU` are
`PSHS` and `PULS` with the roles of `S` and `U` exchanged. -/
theorem context_paths_agree (r : PlainRam σ) (s : Cpu σ) :
    (r.Stack s.world s.S →
      SavesAll irq irqRest s s.irqEntry ∧
      SavesAll swi (swiRest (I_FLAG ||| F_FLAG) 0xfffa) s s.swiEntry ∧
      SavesAll swi2 (swiRest 0 0xfff4) s s.swiEntry ∧
      SavesAll swi3 (swiRest 0 0xfff2) s s.swiEntry ∧
      ((r.get s.world s.S).setWidth 32 &&& E_FLAG ≠ (0 : Unsigned) →
        ∃ t c, pulsPost 0xff s = .ok ((), t) ∧ rti s = .ok ((), t.clocked c))) ∧
    (r.Stack s.world s.U → ∀ m : Unsigned,
      (∃ t, pshuPost m s = .ok ((), t) ∧ pshsPost m s.swapSU = .ok ((), t.swapSU)) ∧
      ∃ t, puluPost m s = .ok ((), t) ∧ pulsPost m s.swapSU = .ok ((), t.swapSU)) := by
  refine ⟨fun h => ⟨irq_saves h, swiWith_saves h 19 _ _, swiWith_saves h 20 _ _,
    swiWith_saves h 20 _ _, rti_loads h⟩, fun h m => ⟨?_, ?_⟩⟩
  · obtain ⟨_, s', t', hs, ht, ht'⟩ := together_psh h m s s.swapSU
      (Twins.start (k := .U) h.ok ⟨0, Nat.le_refl 0, (below_zero h.word).symm⟩ s.cpuClk)
    refine ⟨s', hs, ?_⟩
    rw [ht, ht'.eq, Int.sub_self, Int.add_zero]
    rfl
  · obtain ⟨_, s', t', hs, ht, ht'⟩ := together_pul h m s s.swapSU
      (Twins.start (k := .U) h.ok ⟨0, Nat.le_refl 0, (above_zero h.word).symm⟩ s.cpuClk)
    refine ⟨s', hs, ?_⟩
    rw [ht, ht'.eq, Int.sub_self, Int.add_zero]
    rfl

/-! ## An instance -/

/-- All of the flat memory is RAM. -/
def flatPlain : PlainRam Flat where
  Ram _ := True
  Ok _ := True
  get := Flat.get
  put := Flat.put
  read _ _ := fun _ => rfl
  write _ _ := ⟨fun _ => rfl, trivial⟩

lemma flatPlain_stack (w : Flat) {p : Unsigned} (hp : p.toNat < 2 ^ 16) : flatPlain.Stack w p :=
  ⟨trivial, hp, fun _ _ _ => trivial, fun _ _ => trivial⟩

def wrapped : Cpu Flat := { Cpu.zeroed ⟨[]⟩ with U := 1, S := 0x1234 }

/-- `PSHU S,X` at `U = 1`: the bytes wrap around zero, and it is `PSHS U,X` with the stacks
exchanged. -/
theorem context_paths_agree_wrapped :
    ∃ t, pshuPost 0x50 wrapped = .ok ((), t) ∧ pshsPost 0x50 wrapped.swapSU = .ok ((), t.swapSU) :=
  ((context_paths_agree flatPlain wrapped).2 (flatPlain_stack _ (by decide)) 0x50).1

end Exec09
