import Exec09.Machine.Bus
import Exec09.Properties.Cycles
import Exec09.Properties.ProgramCounter
import Exec09.Properties.Widths

/-!
# A fence around the address space

`find_map` takes any `unsigned` as an index into `busmaps`, and the interpreter has to see to it
that it is a 16-bit address.  `Fenced c σ` is the machine `σ` behind a fence: a call with any other
address ends the process with status `c`.  An instruction asks for 16-bit addresses only when no
fence makes a difference to it.

Stack pointers, effective addresses and vectors are 16-bit words (`Widths`).  `PC` is counted up
without a mask, and `Inside` follows it through the interpreter together with the calls.  Here are
the rules of `Inside` and the programs every instruction is made of.
-/

namespace Exec09

open Program

variable {σ α β : Type}

/-! ## The fence -/

/-- `σ` behind a fence. -/
def Fenced (_ : U8) (σ : Type) : Type := σ

instance fenced (c : U8) (σ : Type) [Machine σ] : Machine (Fenced c σ) where
  read8 v w addr :=
    if addr.toNat < MAX_CPU_ADDR then (Machine.read8 v w addr : Reply σ U8) else ⟨0, w, [.exit c]⟩
  read16 v w addr :=
    if addr.toNat < MAX_CPU_ADDR then (Machine.read16 v w addr : Reply σ U16) else ⟨0, w, [.exit c]⟩
  write8 v w addr d :=
    if addr.toNat < MAX_CPU_ADDR then (Machine.write8 v w addr d : WriteReply σ)
    else ⟨w, [.signal (.exit c)]⟩
  insnHook v w := (Machine.insnHook v w : Reply σ Unit)
  cpuIsRunning w := (Machine.cpuIsRunning w : σ)
  debugEnabled := Machine.debugEnabled σ
  nesting := Machine.nesting σ

/-- A program of `σ` beside the fenced ones.  What it calls is not behind the fence. -/
def unfenced (c : U8) (m : M σ α) : M (Fenced c σ) α := m

/-- The instruction at `PC` calls the bus with 16-bit addresses only: whatever the status, no fence
ends it. -/
def Cpu.AsksInside [Machine σ] (s : Cpu σ) : Prop :=
  ∀ c, (cpuInsn : M (Fenced c σ) Unit) s = (cpuInsn : M σ Unit) s

/-- What is known of the registers: their widths, and something about `PC` and `ea`. -/
structure Known (pc ea : Unsigned → Prop) (s : Cpu σ) : Prop where
  widths : Widths s
  pc : pc s.PC
  ea : ea s.ea

/-- From `K` the fence makes no difference to the program, whose result satisfies `Q` and whose last
state satisfies `K'`. -/
def Inside (c : U8) (K : Cpu σ → Prop) (m : M σ α) (m' : M (Fenced c σ) α) (Q : α → Prop)
    (K' : Cpu σ → Prop) : Prop :=
  ∀ s, K s → m' s = m s ∧ ∀ a t, m s = .ok (a, t) → Q a ∧ K' t

namespace Inside

variable {c : U8} {K L N : Cpu σ → Prop} {Q Q' : α → Prop} {R : β → Prop} {m : M σ α}
  {m' : M (Fenced c σ) α} {f : α → M σ β} {k : α → M (Fenced c σ) β}

/-- The second program starts where the first one ended. -/
lemma bindRun (hm : Inside c K m m' Q L) (hf : ∀ s a t, K s → m s = .ok (a, t) → Q a → L t →
      Inside c (· = t) (f a) (k a) R N) : Inside c K (m >>= f) (m' >>= k) R N := by
  intro s hs
  obtain ⟨he, ht⟩ := hm s hs
  refine ⟨?_, fun b u h => ?_⟩
  · change Except.bind (m' s) (fun p => k p.1 p.2) = Except.bind (m s) (fun p => f p.1 p.2)
    refine (congrArg (fun x : Except Exit (α × Cpu σ) => x.bind fun p => k p.1 p.2) he).trans ?_
    rcases hr : m s with e | ⟨a, t⟩
    · rfl
    · obtain ⟨hq, hk⟩ := ht a t hr
      exact (hf s a t hs hr hq hk t rfl).1
  · obtain ⟨a, t, h₁, h₂⟩ := bind_eq_ok.mp h
    obtain ⟨hq, hk⟩ := ht a t h₁
    exact (hf s a t hs h₁ hq hk t rfl).2 b u h₂

lemma bind (hm : Inside c K m m' Q L) (hf : ∀ a, Q a → Inside c L (f a) (k a) R N) :
    Inside c K (m >>= f) (m' >>= k) R N :=
  bindRun hm fun _ a _ _ _ hq hk _ ht => hf a hq _ (ht ▸ hk)

lemma pure {a : α} (h : Q a) : Inside c K (pure a) (pure a) Q K := by
  intro s hs
  refine ⟨rfl, fun b t hb => ?_⟩
  cases hb
  exact ⟨h, hs⟩

lemma reads {g : Cpu σ → α} (h : ∀ s, K s → Q (g s)) : Inside c K (reads g) (reads g) Q K := by
  intro s hs
  refine ⟨rfl, fun b t hb => ?_⟩
  cases hb
  exact ⟨h s hs, hs⟩

lemma modify {g : Cpu σ → Cpu σ} (h : ∀ s, K s → L (g s)) :
    Inside c K (modify g : M σ Unit) (modify g) Any L := by
  intro s hs
  refine ⟨rfl, fun b t hb => ?_⟩
  cases hb
  exact ⟨trivial, h s hs⟩

lemma throw (e : Exit) : Inside c K (throw e) (throw e) Q L := by
  intro s _
  refine ⟨rfl, fun b t hb => ?_⟩
  cases hb

lemma ite {p : Prop} [Decidable p] {n : M σ α} {n' : M (Fenced c σ) α}
    (h : p → Inside c K m m' Q L) (h' : ¬p → Inside c K n n' Q L) :
    Inside c K (if p then m else n) (if p then m' else n') Q L := by
  by_cases hp : p
  · rw [if_pos hp, if_pos hp]
    exact h hp
  · rw [if_neg hp, if_neg hp]
    exact h' hp

lemma whenever {p : Prop} [Decidable p] {m : M σ Unit} {m' : M (Fenced c σ) Unit}
    (h : Inside c K m m' Any K) : Inside c K (whenever p m) (whenever p m') Any K :=
  ite (fun _ => h) fun _ => pure trivial

lemma forM {l : List β} {k : β → M σ PUnit} {k' : β → M (Fenced c σ) PUnit}
    (h : ∀ b, Inside c K (k b) (k' b) Any K) : Inside c K (l.forM k) (l.forM k') Any K := by
  induction l with
  | nil => exact pure trivial
  | cons b l ih => exact bind (h b) fun _ _ => ih

/-- A program that never calls the bus is the same one behind the fence. -/
lemma silent (hm : Triple K m fun a s => Q a ∧ L s) : Inside c K m m Q L :=
  fun s hs => ⟨rfl, hm s hs⟩

/-- Behind the fence the program is another one that comes to the same. -/
lemma replace (h : Inside c K m m Q L) (he : m' = m) : Inside c K m m' Q L :=
  fun s hs => ⟨congrFun he s, (h s hs).2⟩

lemma weaken (h : Inside c K m m' Q L) (hk : ∀ s, L s → N s) : Inside c K m m' Q N :=
  fun s hs => ⟨(h s hs).1, fun a t ht => ((h s hs).2 a t ht).imp_right (hk t)⟩

lemma strengthen (h : Inside c K m m' Q L) (hk : ∀ s, N s → K s) : Inside c N m m' Q L :=
  fun s hs => h s (hk s hs)

/-- What is known of the state, used outside it. -/
lemma given {p : Prop} (hp : ∀ s, K s → p) (h : p → Inside c K m m' Q L) :
    Inside c K m m' Q L :=
  fun s hs => h (hp s hs) s hs

end Inside

/-! ## Registers -/

/-- The variables `Known` says more about. -/
def Cpu.aim (s : Cpu σ) : Unsigned × Unsigned := (s.PC, s.ea)

section Elementary

variable {c : U8} {p e : Unsigned → Prop} {K : Cpu σ → Prop} {Q : α → Prop} {m : M σ α}

lemma Known.of_aim {s t : Cpu σ} (h : Known p e s) (hw : Widths t) (ht : t.aim = s.aim) :
    Known p e t := by
  obtain ⟨hpc, hea⟩ : t.PC = s.PC ∧ t.ea = s.ea := Prod.mk.inj ht
  exact ⟨hw, hpc ▸ h.pc, hea ▸ h.ea⟩

/-- A program that keeps the widths and moves neither `PC` nor `ea`. -/
lemma Inside.ofSound (hm : Sound m Q) (hk : Keeps Cpu.aim m) :
    Inside c (Known p e) m m Q (Known p e) :=
  silent fun s hs a t ht =>
    let h := hm s hs.widths a t ht
    ⟨h.1, hs.of_aim h.2 (hk s a t ht)⟩

lemma inside_keep {g : Cpu σ → Cpu σ} (h : ∀ s, (g s).file = s.file)
    (ha : ∀ s, (g s).aim = s.aim) :
    Inside c (Known p e) (modify g : M σ Unit) (modify g) Any (Known p e) :=
  Inside.ofSound (Sound.keep h) (Steps.modify ha)

lemma inside_reads (f : Cpu σ → α) : Inside c K (Program.reads f) (Program.reads f) Any K :=
  Inside.reads fun _ _ => trivial

lemma inside_tick (n : Int) : Inside c (Known p e) (tick n : M σ Unit) (tick n) Any (Known p e) :=
  inside_keep (fun _ => rfl) fun _ => rfl

lemma inside_alu {g : Flags → α × Flags} (h : ∀ f, Q (g f).1) :
    Inside c (Known p e) (alu g : M σ α) (alu g) Q (Known p e) :=
  Inside.ofSound (sound_alu h) (Steps.modifyGet fun _ => rfl)

lemma inside_rdA : Inside c (Known p e) (rdA : M σ Unsigned) rdA Byte (Known p e) :=
  Inside.reads fun _ hs => hs.widths.A

lemma inside_rdB : Inside c (Known p e) (rdB : M σ Unsigned) rdB Byte (Known p e) :=
  Inside.reads fun _ hs => hs.widths.B

lemma inside_rdD : Inside c (Known p e) (rdD : M σ Unsigned) rdD Word (Known p e) :=
  Inside.reads fun _ hs => word_pair hs.widths.A hs.widths.B

lemma inside_rdEa : Inside c (Known p e) (rdEa : M σ Unsigned) rdEa e (Known p e) :=
  Inside.reads fun _ hs => hs.ea

lemma inside_wrEa {v : Unsigned} {r : Unsigned → Prop} (h : r v) :
    Inside c (Known p e) (wrEa v : M σ Unit) (wrEa v) Any (Known p r) :=
  Inside.modify fun _ hs => ⟨{ hs.widths with A := hs.widths.A }, hs.pc, h⟩

lemma inside_wrPC {v : Unsigned} {p' : Unsigned → Prop} (h : p' v) :
    Inside c (Known p e) (wrPC v : M σ Unit) (wrPC v) Any (Known p' e) :=
  Inside.modify fun _ hs => ⟨{ hs.widths with A := hs.widths.A }, h, hs.ea⟩

/-- `PC += n`, from a place that is known. -/
lemma inside_skip {n : Unsigned} (d : Unsigned) :
    Inside c (Known (· = n) e) (skip d : M σ Unit) (skip d) Any (Known (· = n + d) e) :=
  Inside.modify fun _ hs =>
    ⟨{ hs.widths with A := hs.widths.A }, congrArg (· + d) hs.pc, hs.ea⟩

lemma inside_wrA {v : Unsigned} (h : Byte v) :
    Inside c (Known p e) (wrA v : M σ Unit) (wrA v) Any (Known p e) :=
  Inside.ofSound (sound_wrA h) (Steps.modify fun _ => rfl)

lemma inside_wrB {v : Unsigned} (h : Byte v) :
    Inside c (Known p e) (wrB v : M σ Unit) (wrB v) Any (Known p e) :=
  Inside.ofSound (sound_wrB h) (Steps.modify fun _ => rfl)

lemma inside_wrX {v : Unsigned} (h : Word v) :
    Inside c (Known p e) (wrX v : M σ Unit) (wrX v) Any (Known p e) :=
  Inside.ofSound (sound_wrX h) (Steps.modify fun _ => rfl)

lemma inside_wrY {v : Unsigned} (h : Word v) :
    Inside c (Known p e) (wrY v : M σ Unit) (wrY v) Any (Known p e) :=
  Inside.ofSound (sound_wrY h) (Steps.modify fun _ => rfl)

lemma inside_wrU {v : Unsigned} (h : Word v) :
    Inside c (Known p e) (wrU v : M σ Unit) (wrU v) Any (Known p e) :=
  Inside.ofSound (sound_wrU h) (Steps.modify fun _ => rfl)

lemma inside_wrS {v : Unsigned} (h : Word v) :
    Inside c (Known p e) (wrS v : M σ Unit) (wrS v) Any (Known p e) :=
  Inside.ofSound (sound_wrS h) (Steps.modify fun _ => rfl)

lemma inside_wrDP {v : Unsigned} (h : Byte v) :
    Inside c (Known p e) (wrDP v : M σ Unit) (wrDP v) Any (Known p e) :=
  Inside.ofSound (sound_wrDP h) (Steps.modify fun _ => rfl)

lemma inside_setCc (v : Unsigned) :
    Inside c (Known p e) (setCc v : M σ Unit) (setCc v) Any (Known p e) :=
  Inside.ofSound (sound_setCc v) (Steps.modify fun _ => rfl)

lemma inside_raise {b : Unsigned} (h : b &&& ~~~EFI_MASK = 0) :
    Inside c (Known p e) (modify fun s => { s with EFI := s.EFI ||| b } : M σ Unit)
      (modify fun s => { s with EFI := s.EFI ||| b }) Any (Known p e) :=
  Inside.ofSound (sound_raise h) (Steps.modify fun _ => rfl)

lemma IndexReg.inside_get (R : IndexReg) :
    Inside c (Known p e) (R.get : M σ Unsigned) R.get Word (Known p e) := by
  cases R with
  | X => exact Inside.reads fun _ hs => hs.widths.X
  | Y => exact Inside.reads fun _ hs => hs.widths.Y
  | U => exact Inside.reads fun _ hs => hs.widths.U
  | S => exact Inside.reads fun _ hs => hs.widths.S

lemma IndexReg.inside_put (R : IndexReg) {v : Unsigned} (h : Word v) :
    Inside c (Known p e) (R.put v : M σ Unit) (R.put v) Any (Known p e) := by
  cases R with
  | X => exact inside_wrX h
  | Y => exact inside_wrY h
  | U => exact inside_wrU h
  | S => exact inside_wrS h

lemma Acc.inside_get (r : Acc) :
    Inside c (Known p e) (r.get : M σ Unsigned) r.get Byte (Known p e) := by
  cases r with
  | A => exact inside_rdA
  | B => exact inside_rdB

lemma Acc.inside_put (r : Acc) {v : Unsigned} (h : Byte v) :
    Inside c (Known p e) (r.put v : M σ Unit) (r.put v) Any (Known p e) := by
  cases r with
  | A => exact inside_wrA h
  | B => exact inside_wrB h

lemma Cmp16.inside_get (r : Cmp16) : Inside c K (r.get : M σ Unsigned) r.get Any K := by
  cases r <;> exact inside_reads _

lemma inside_unary (op : Unary) {arg : Unsigned} (h : Byte arg) :
    Inside c (Known p e) (unary op.fn arg : M σ Unsigned) (unary op.fn arg) Byte (Known p e) :=
  (inside_alu (op.byte_fn h)).bind fun _ hv => (inside_tick 2).bind fun _ _ => Inside.pure hv

lemma inside_tst (arg : Unsigned) :
    Inside c (Known p e) (tst arg : M σ Unit) (tst arg) Any (Known p e) :=
  (inside_alu (Q := Any) fun _ => trivial).bind fun _ _ => inside_tick 2

lemma inside_wrAB {res : Unsigned} (h : Word res) :
    Inside c (Known p e) (wrAB res : M σ Unit) (wrAB res) Any (Known p e) :=
  (inside_wrA (byte_shiftRight h)).bind fun _ _ => inside_wrB (byte_and _)

lemma Bin16.inside_run (op : Bin16) (val : Unsigned) :
    Inside c (Known p e) (op.run val : M σ Unit) (op.run val) Any (Known p e) := by
  cases op with
  | addd | subd =>
      exact inside_rdD.bind fun _ _ => (inside_alu (Q := Word) fun _ => word_and _).bind
        fun _ h => inside_wrAB h

end Elementary

/-! ## Bus accesses -/

section Accesses

variable [Machine σ] {c : U8} {p e : Unsigned → Prop}

lemma fenced_read8 {addr : Unsigned} (h : Word addr) (v : View) (w : σ) :
    @Machine.read8 (Fenced c σ) _ v w addr = Machine.read8 v w addr := if_pos h

lemma fenced_read16 {addr : Unsigned} (h : Word addr) (v : View) (w : σ) :
    @Machine.read16 (Fenced c σ) _ v w addr = Machine.read16 v w addr := if_pos h

lemma fenced_write8 {addr : Unsigned} (h : Word addr) (v : View) (w : σ) (d : U8) :
    @Machine.write8 (Fenced c σ) _ v w addr d = Machine.write8 v w addr d := if_pos h

lemma inside_simError : Inside c (Known p e) (simError : M σ Unit) simError Any (Known p e) :=
  Inside.ofSound sound_simError (Steps.bind (Steps.modify fun _ => rfl) fun _ =>
    Steps.ite (Steps.modify fun _ => rfl) (Steps.throw _))

lemma keepsAim_signal (x : Signal) : Keeps Cpu.aim (signal x : M σ Unit) := by
  cases x with
  | simError =>
      exact Steps.bind (Steps.modify fun _ => rfl) fun _ =>
        Steps.ite (Steps.modify fun _ => rfl) (Steps.throw _)
  | monitor on => exact Steps.modify fun _ => rfl
  | exit code => exact Steps.throw _

lemma inside_signal (x : Signal) :
    Inside c (Known p e) (signal x : M σ Unit) (signal x) Any (Known p e) :=
  Inside.ofSound (sound_signal x) (keepsAim_signal x)

/-- A call on this side of the fence. -/
lemma inside_access {call : View → σ → Reply σ β}
    {call' : View → Fenced c σ → Reply (Fenced c σ) β} (h : ∀ v (w : σ), call' v w = call v w) :
    Inside c (Known p e) (access call) (access call') Any (Known p e) := by
  have hcall : call' = call := funext fun v => funext fun w => h v w
  refine Inside.replace (Inside.ofSound (sound_access call) ?_)
    (congrArg (fun k : View → σ → Reply σ β => (access k : M σ β)) hcall)
  exact Steps.bind (Steps.modifyGet fun _ => rfl) fun _ =>
    (Steps.forM fun x _ => keepsAim_signal x).bind fun _ => Steps.pure _

omit [Machine σ] in
/-- A write on this side of the fence, up to what it reports. -/
lemma inside_answer {call : View → σ → WriteReply σ}
    {call' : View → Fenced c σ → WriteReply (Fenced c σ)} (h : ∀ v (w : σ), call' v w = call v w) :
    Inside c (Known p e)
      (modifyGet fun s => (call s.view s.world, { s with world := (call s.view s.world).world }))
      (modifyGet fun s => (call' s.view s.world, { s with world := (call' s.view s.world).world }))
      Any (Known p e) := by
  have hcall : call' = call := funext fun v => funext fun w => h v w
  refine Inside.replace (Inside.silent (Triple.modifyGet fun s hs => ⟨trivial, ?_⟩))
    (congrArg (fun k : View → σ → WriteReply σ => (modifyGet fun s : Cpu σ => (k s.view s.world,
      { s with world := (k s.view s.world).world }) : M σ (WriteReply σ))) hcall)
  exact hs.of_aim { hs.widths with A := hs.widths.A } rfl

lemma inside_rdmem {addr : Unsigned} (h : Word addr) :
    Inside c (Known p e) (rdmem addr : M σ Unsigned) (rdmem addr) Byte (Known p e) :=
  (inside_access fun v w => fenced_read8 h v w).bind fun v _ => Inside.pure (Words.setWidth_lt v)

lemma inside_read16 {addr : Unsigned} (h : Word addr) :
    Inside c (Known p e) (read16 addr : M σ Unsigned) (read16 addr) Word (Known p e) :=
  (inside_access fun v w => fenced_read16 h v w).bind fun v _ => Inside.pure (Words.setWidth_lt v)

lemma inside_readStack16 {addr : Unsigned} (h : Word addr) :
    Inside c (Known p e) (readStack16 addr : M σ Unsigned) (readStack16 addr) Word (Known p e) :=
  (inside_rdmem h).bind fun _ hi => (inside_rdmem (word_and _)).bind fun _ lo =>
    Inside.pure (word_pair hi lo)

lemma inside_rdmem16 {addr : Unsigned} (h : Word addr) :
    Inside c (Known p e) (rdmem16 addr : M σ Unsigned) (rdmem16 addr) Word (Known p e) :=
  (inside_rdmem h).bind fun _ hi => (inside_tick 1).bind fun _ _ =>
    (inside_rdmem (word_and _)).bind fun _ lo => Inside.pure (word_pair hi lo)

lemma inside_rdmemEa :
    Inside c (Known p Word) (rdmemEa : M σ Unsigned) rdmemEa Byte (Known p Word) :=
  inside_rdEa.bind fun _ h => inside_rdmem h

lemma inside_rdmem16Ea :
    Inside c (Known p Word) (rdmem16Ea : M σ Unsigned) rdmem16Ea Word (Known p Word) :=
  inside_rdEa.bind fun _ h => inside_rdmem16 h

/-- A fetch at a 16-bit `PC`. -/
lemma inside_immByte {n : Unsigned} (h : Word n) :
    Inside c (Known (· = n) e) (immByte : M σ Unsigned) immByte Byte (Known (· = n + 1) e) :=
  (Inside.reads (Q := (· = n)) fun _ hs => hs.pc).bind fun _ ha =>
    (inside_rdmem (ha ▸ h)).bind fun _ hv => (inside_skip 1).bind fun _ _ => Inside.pure hv

lemma inside_immWord {n : Unsigned} (h : Word n) :
    Inside c (Known (· = n) e) (immWord : M σ Unsigned) immWord Word (Known (· = n + 2) e) :=
  (Inside.reads (Q := (· = n)) fun _ hs => hs.pc).bind fun _ ha =>
    (inside_read16 (ha ▸ h)).bind fun _ hv => (inside_skip 2).bind fun _ _ => Inside.pure hv

/-! ## Interrupt entry -/

section With

variable {write : Unsigned → Unsigned → M σ Unit} {write' : Unsigned → Unsigned → M (Fenced c σ) Unit}
  (hw : ∀ a d, Word a → Inside c (Known p e) (write a d) (write' a d) Any (Known p e))
include hw

omit [Machine σ] in
lemma inside_pushS16With (data : Unsigned) :
    Inside c (Known p e) (pushS16With write data) (pushS16With write' data) Any (Known p e) :=
  Inside.bind
    (Inside.ofSound (Sound.modify fun _ hs => { hs with S := word_and _ }) (Steps.modify fun _ => rfl))
    fun _ _ => (Inside.reads fun _ hs => hs.widths.S).bind fun _ h =>
      (hw _ _ (word_and _)).bind fun _ _ => hw _ _ h

omit [Machine σ] in
lemma inside_pushS8With (data : Unsigned) :
    Inside c (Known p e) (pushS8With write data) (pushS8With write' data) Any (Known p e) :=
  Inside.bind
    (Inside.ofSound (Sound.modify fun _ hs => { hs with S := word_and _ }) (Steps.modify fun _ => rfl))
    fun _ _ => (Inside.reads fun _ hs => hs.widths.S).bind fun _ h => hw _ _ h

omit [Machine σ] in
lemma inside_pushAllWith :
    Inside c (Known p e) (pushAllWith write) (pushAllWith write') Any (Known p e) :=
  (inside_reads _).bind fun _ _ => (inside_pushS16With hw _).bind fun _ _ =>
  (inside_reads _).bind fun _ _ => (inside_pushS16With hw _).bind fun _ _ =>
  (inside_reads _).bind fun _ _ => (inside_pushS16With hw _).bind fun _ _ =>
  (inside_reads _).bind fun _ _ => (inside_pushS16With hw _).bind fun _ _ =>
  (inside_reads _).bind fun _ _ => (inside_pushS8With hw _).bind fun _ _ =>
  (inside_reads _).bind fun _ _ => (inside_pushS8With hw _).bind fun _ _ =>
  (inside_reads _).bind fun _ _ => (inside_pushS8With hw _).bind fun _ _ =>
  (inside_reads _).bind fun _ _ => inside_pushS8With hw _

-- An entry loads `PC` from its vector.
variable (hp : ∀ v, Word v → p v)
include hp

lemma inside_irqWith : Inside c (Known p e) (irqWith write) (irqWith write') Any (Known p e) :=
  Inside.bind (inside_keep (fun _ => rfl) fun _ => rfl) fun _ _ =>
  (inside_raise (by decide)).bind fun _ _ => (inside_pushAllWith hw).bind fun _ _ =>
  (inside_raise (by decide)).bind fun _ _ =>
  (inside_read16 (by decide : (0xfff8 : Unsigned).toNat < 2 ^ 16)).bind fun v h =>
  (inside_wrPC (hp v h)).bind fun _ _ => inside_keep (fun _ => rfl) fun _ => rfl

lemma inside_firqWith : Inside c (Known p e) (firqWith write) (firqWith write') Any (Known p e) :=
  Inside.bind (inside_keep (fun _ => rfl) fun _ => rfl) fun _ _ =>
  (Inside.ofSound sound_clearE (Steps.modify fun _ => rfl)).bind fun _ _ =>
  (inside_reads _).bind fun _ _ => (inside_pushS16With hw _).bind fun _ _ =>
  (inside_reads _).bind fun _ _ => (inside_pushS8With hw _).bind fun _ _ =>
  (inside_raise (by decide)).bind fun _ _ =>
  (inside_read16 (by decide : (0xfff6 : Unsigned).toNat < 2 ^ 16)).bind fun v h =>
  (inside_wrPC (hp v h)).bind fun _ _ => inside_keep (fun _ => rfl) fun _ => rfl

lemma inside_effectWith (x : Effect) :
    Inside c (Known p e) (effectWith write x) (effectWith write' x) Any (Known p e) := by
  cases x with
  | signal s => exact inside_signal s
  | requestIrq source =>
      exact Inside.bind (inside_keep (fun _ => rfl) fun _ => rfl) fun _ _ =>
        (inside_reads _).bind fun b _ => (inside_irqWith hw hp).whenever.bind fun _ _ =>
        inside_keep (fun _ => rfl) fun _ => rfl
  | releaseIrq source =>
      exact Inside.bind (inside_keep (fun _ => rfl) fun _ => rfl) fun _ _ =>
        inside_keep (fun _ => rfl) fun _ => rfl
  | requestFirq source =>
      exact Inside.bind (inside_keep (fun _ => rfl) fun _ => rfl) fun _ _ =>
        (inside_reads _).bind fun b _ => (inside_firqWith hw hp).whenever.bind fun _ _ =>
        inside_keep (fun _ => rfl) fun _ => rfl
  | releaseFirq source =>
      exact Inside.bind (inside_keep (fun _ => rfl) fun _ => rfl) fun _ _ =>
        inside_keep (fun _ => rfl) fun _ => rfl

end With

section Writes

variable (hp : ∀ v, Word v → p v)
include hp

/-- Writes to 16-bit addresses, with the entries nested in them. -/
lemma inside_writeN (n : Nat) : ∀ a d, Word a →
    Inside c (Known p e) (writeN n a d : M σ Unit) (writeN n a d) Any (Known p e) := by
  induction n with
  | zero => exact fun _ _ _ => Inside.throw _
  | succ n ih =>
      intro a d ha
      exact (inside_answer fun v w => fenced_write8 ha v w (d.setWidth 8)).bind fun r _ =>
        Inside.forM fun x => inside_effectWith ih hp x

lemma inside_wrmem {a : Unsigned} (h : Word a) (d : Unsigned) :
    Inside c (Known p e) (wrmem a d : M σ Unit) (wrmem a d) Any (Known p e) :=
  inside_writeN hp _ a d h

lemma inside_wrmemEa (d : Unsigned) :
    Inside c (Known p Word) (wrmemEa d : M σ Unit) (wrmemEa d) Any (Known p Word) :=
  inside_rdEa.bind fun _ h => inside_wrmem hp h d

lemma inside_wrmem16 {a : Unsigned} (h : Word a) (d : Unsigned) :
    Inside c (Known p e) (wrmem16 a d : M σ Unit) (wrmem16 a d) Any (Known p e) :=
  (inside_wrmem hp h _).bind fun _ _ => (inside_tick 1).bind fun _ _ =>
    inside_wrmem hp (word_and _) _

lemma inside_pushS16 (data : Unsigned) :
    Inside c (Known p e) (pushS16 data : M σ Unit) (pushS16 data) Any (Known p e) :=
  inside_pushS16With (fun _ d h => inside_wrmem hp h d) data

lemma inside_pushS8 (data : Unsigned) :
    Inside c (Known p e) (pushS8 data : M σ Unit) (pushS8 data) Any (Known p e) :=
  inside_pushS8With (fun _ d h => inside_wrmem hp h d) data

lemma inside_ccCheck : Inside c (Known p e) (ccCheck : M σ Unit) ccCheck Any (Known p e) := by
  have hw (a d : Unsigned) (h : Word a) :
      Inside c (Known p e) (wrmem a d : M σ Unit) (wrmem a d) Any (Known p e) := inside_wrmem hp h d
  have poll : Inside c (Known p e) (pollLines : M σ Unit) pollLines Any (Known p e) :=
    (inside_reads _).bind fun _ _ => Inside.ite (fun _ => inside_firqWith hw hp) fun _ =>
      (inside_reads _).bind fun _ _ => Inside.ite (fun _ => inside_irqWith hw hp) fun _ =>
        Inside.pure trivial
  exact (inside_reads _).bind fun _ _ =>
    Inside.whenever (Inside.bind poll fun _ _ => inside_keep (fun _ => rfl) fun _ => rfl)

end Writes

end Accesses

/-! ## Addressing modes -/

section Modes

variable [Machine σ] {c : U8} {p e : Unsigned → Prop} {n : Unsigned}

lemma toNat_add_ofNat {k : Nat} (h : n.toNat + k ≤ MAX_CPU_ADDR) :
    (n + BitVec.ofNat 32 k).toNat = n.toNat + k := by
  rw [BitVec.toNat_add, BitVec.toNat_ofNat]
  change n.toNat + k ≤ 65536 at h
  omega

lemma inside_indirect :
    Inside c (Known p Word) (indirect : M σ Unit) indirect Any (Known p Word) :=
  inside_rdmem16Ea.bind fun _ h => (inside_wrEa h).bind fun _ _ => inside_tick 2

lemma IndexMode.inside_addr (R : IndexReg) (m : IndexMode) (h : n.toNat + m.size ≤ MAX_CPU_ADDR) :
    Inside c (Known (· = n) e) (m.addr R : M σ Unit) (m.addr R) Any
      (Known (· = n + BitVec.ofNat 32 m.size) Word) := by
  have stay {a : M σ Unit} {a' : M (Fenced c σ) Unit}
      (ha : Inside c (Known (· = n) e) a a' Any (Known (· = n) Word)) :
      Inside c (Known (· = n) e) a a' Any (Known (· = n + BitVec.ofNat 32 0) Word) :=
    ha.weaken fun _ hs => ⟨hs.widths, hs.pc.trans (BitVec.add_zero n).symm, hs.ea⟩
  have hn (hm : 1 ≤ m.size) : Word n := Nat.lt_of_lt_of_le (Nat.lt_add_of_pos_right hm) h
  cases m with
  | inc k =>
      exact stay (R.inside_get.bind fun _ hv => (inside_wrEa hv).bind fun _ _ =>
        R.inside_get.bind fun _ _ => R.inside_put (word_and _))
  | dec k =>
      exact stay (R.inside_get.bind fun _ _ => (R.inside_put (word_and _)).bind fun _ _ =>
        R.inside_get.bind fun _ hv => inside_wrEa hv)
  | zero => exact stay (R.inside_get.bind fun _ hv => inside_wrEa hv)
  | accB | accA | accD =>
      exact stay (R.inside_get.bind fun _ _ => (inside_reads _).bind fun _ _ =>
        inside_wrEa (word_and _))
  | off8 =>
      exact R.inside_get.bind fun _ _ => (inside_immByte (hn (Nat.le_refl 1))).bind fun _ _ =>
        inside_wrEa (word_and _)
  | off16 =>
      exact R.inside_get.bind fun _ _ => (inside_immWord (hn Nat.one_le_ofNat)).bind fun _ _ =>
        inside_wrEa (word_and _)
  | pc8 =>
      exact (inside_immByte (hn (Nat.le_refl 1))).bind fun _ _ =>
        (inside_wrEa (r := Any) trivial).bind fun _ _ => (inside_reads _).bind fun _ _ =>
        (inside_reads _).bind fun _ _ => inside_wrEa (word_and _)
  | pc16 =>
      exact (inside_immWord (hn Nat.one_le_ofNat)).bind fun _ _ =>
        (inside_wrEa (r := Any) trivial).bind fun _ _ => (inside_reads _).bind fun _ _ =>
        (inside_reads _).bind fun _ _ => inside_wrEa (word_and _)
  | ext => exact (inside_immWord (hn Nat.one_le_ofNat)).bind fun _ hv => inside_wrEa hv

/-- A postbyte, with the bytes behind it below the end of the address space. -/
lemma Post.inside_exec (post : Post) (h : n.toNat + post.size ≤ MAX_CPU_ADDR) :
    Inside c (Known (· = n) e) (post.exec : M σ Unit) post.exec Any
      (Known (· = n + BitVec.ofNat 32 post.size) Word) := by
  have stay (s : Cpu σ) (hs : Known (· = n) Word s) : Known (· = n + BitVec.ofNat 32 0) Word s :=
    ⟨hs.widths, hs.pc.trans (BitVec.add_zero n).symm, hs.ea⟩
  cases post with
  | offset R k =>
      exact Inside.weaken (R.inside_get.bind fun _ _ => (inside_wrEa (word_and _)).bind fun _ _ =>
        inside_tick 5) stay
  | mode R i =>
      refine (i.mode.inside_addr R h).bind fun _ _ => (inside_tick _).bind fun _ _ => ?_
      cases i.indirect with
      | false => exact Inside.pure trivial
      | true => exact inside_indirect
  | illegal =>
      exact Inside.weaken ((inside_wrEa (by decide : (0 : Unsigned).toNat < 2 ^ 16)).bind
        fun _ _ => inside_simError) stay

/-- `PC` is `n`, and what the byte and the word at it can be read as. -/
structure Behind (n : Unsigned) (ok : U8 → U16 → Prop) (s : Cpu σ) : Prop where
  known : Known (· = n) Any s
  reads : ∀ v v', ok (Machine.read8 v s.world n).val (Machine.read16 v' s.world n).val

variable {ok ok' : U8 → U16 → Prop}

lemma Behind.mono {s : Cpu σ} (h : Behind n ok s) (hok : ∀ b d, ok b d → ok' b d) :
    Behind n ok' s :=
  ⟨h.known, fun v v' => hok _ _ (h.reads v v')⟩

lemma Behind.some {s : Cpu σ} (h : Behind n ok s) : ∃ b d, ok b d :=
  ⟨_, _, h.reads s.view s.view⟩

lemma inside_tick_behind (k : Int) :
    Inside c (Behind n ok) (tick k : M σ Unit) (tick k) Any (Behind n ok) :=
  Inside.modify fun _ hs => ⟨⟨{ hs.known.widths with A := hs.known.widths.A }, hs.known.pc, trivial⟩,
    hs.reads⟩

/-- The operand byte. -/
lemma inside_operand (h : Word n) :
    Inside c (Behind n ok) (immByte : M σ Unsigned) immByte
      (fun v => ∃ b d, ok b d ∧ v = b.setWidth 32) (Known (· = n + 1) Any) := by
  intro s hs
  obtain ⟨he, ht⟩ := inside_immByte h s hs.known
  refine ⟨he, fun v t hv => ⟨⟨_, _, hs.reads s.view s.view, ?_⟩, (ht v t hv).2⟩⟩
  rw [immByte_eq_ok hv, Cpu.operand, hs.known.pc]

lemma immWord_eq_ok {s t : Cpu σ} {v : Unsigned} (h : immWord s = .ok (v, t)) :
    v = (Machine.read16 s.view s.world s.PC).val.setWidth 32 := by
  obtain ⟨pc, s₁, h₁, k₁⟩ := bind_eq_ok.mp h
  obtain ⟨b, s₂, h₂, k₂⟩ := bind_eq_ok.mp k₁
  obtain ⟨_, s₃, -, k₃⟩ := bind_eq_ok.mp k₂
  cases h₁
  cases k₃
  exact (read16_eq_ok h₂).1

/-- The operand word. -/
lemma inside_operand16 (h : Word n) :
    Inside c (Behind n ok) (immWord : M σ Unsigned) immWord
      (fun v => ∃ b d, ok b d ∧ v = d.setWidth 32) (Known (· = n + 2) Any) := by
  intro s hs
  obtain ⟨he, ht⟩ := inside_immWord h s hs.known
  refine ⟨he, fun v t hv => ⟨⟨_, _, hs.reads s.view s.view, ?_⟩, (ht v t hv).2⟩⟩
  rw [immWord_eq_ok hv, hs.known.pc]

/-- `indexed`, with what is to hold of `PC` behind it. -/
lemma inside_indexed (hn : Word n)
    (hok : ∀ b d, ok b d → n.toNat + (1 + indexedSize b) ≤ MAX_CPU_ADDR ∧
      p (n + BitVec.ofNat 32 (1 + indexedSize b))) :
    Inside c (Behind n ok) (indexed : M σ Unit) indexed Any (Known p Word) := by
  refine (inside_operand hn).bind fun v hv => ?_
  obtain ⟨b, d, hbd, rfl⟩ := hv
  obtain ⟨hroom, hp⟩ := hok b d hbd
  have hone : (n + 1).toNat = n.toNat + 1 :=
    toNat_add_ofNat (k := 1) (by omega)
  rw [indexedPost_eq, indexedPost_eq]
  refine ((decodePost (b.setWidth 32)).inside_exec (n := n + 1) ?_).weaken fun s hs => ?_
  · rw [hone, size_decodePost]
    omega
  · refine ⟨hs.widths, ?_, hs.ea⟩
    rw [hs.pc, size_decodePost, BitVec.add_assoc, show (1 : Unsigned) = BitVec.ofNat 32 1 from rfl,
      ← BitVec.ofNat_add]
    exact hp

end Modes

/-! ## Stacks -/

section Stacks

variable [Machine σ] {c : U8} {p e : Unsigned → Prop}

omit [Machine σ] in
lemma inside_setS (g : Unsigned → Unsigned) :
    Inside c (Known p e) (modify fun s => { s with S := g s.S &&& 0xffff } : M σ Unit)
      (modify fun s => { s with S := g s.S &&& 0xffff }) Any (Known p e) :=
  Inside.ofSound (Sound.modify fun _ hs => { hs with S := word_and _ }) (Steps.modify fun _ => rfl)

omit [Machine σ] in
lemma inside_setU (g : Unsigned → Unsigned) :
    Inside c (Known p e) (modify fun s => { s with U := g s.U &&& 0xffff } : M σ Unit)
      (modify fun s => { s with U := g s.U &&& 0xffff }) Any (Known p e) :=
  Inside.ofSound (Sound.modify fun _ hs => { hs with U := word_and _ }) (Steps.modify fun _ => rfl)

lemma inside_pullS8 :
    Inside c (Known p e) (pullS8 : M σ Unsigned) pullS8 Byte (Known p e) :=
  (Inside.reads fun _ hs => hs.widths.S).bind fun _ h => (inside_rdmem h).bind fun _ hv =>
    (inside_setS (· + 1)).bind fun _ _ => Inside.pure hv

lemma inside_pullS16 :
    Inside c (Known p e) (pullS16 : M σ Unsigned) pullS16 Word (Known p e) :=
  (Inside.reads fun _ hs => hs.widths.S).bind fun _ h => (inside_readStack16 h).bind fun _ hv =>
    (inside_setS (· + 2)).bind fun _ _ => Inside.pure hv

lemma inside_pullU8 :
    Inside c (Known p e) (pullU8 : M σ Unsigned) pullU8 Byte (Known p e) :=
  (Inside.reads fun _ hs => hs.widths.U).bind fun _ h => (inside_rdmem h).bind fun _ hv =>
    (inside_setU (· + 1)).bind fun _ _ => Inside.pure hv

lemma inside_pullU16 :
    Inside c (Known p e) (pullU16 : M σ Unsigned) pullU16 Word (Known p e) :=
  (Inside.reads fun _ hs => hs.widths.U).bind fun _ h => (inside_readStack16 h).bind fun _ hv =>
    (inside_setU (· + 2)).bind fun _ _ => Inside.pure hv

omit [Machine σ] in
/-- One register of a push or pull mask. -/
lemma inside_masked {q : Prop} [Decidable q] {n : Int} {m : M σ Unit} {m' : M (Fenced c σ) Unit}
    (h : Inside c (Known p e) m m' Any (Known p e)) :
    Inside c (Known p e) (whenever q do tick n; m) (whenever q do tick n; m') Any (Known p e) :=
  Inside.whenever ((inside_tick n).bind fun _ _ => h)

omit [Machine σ] in
/-- The last register of a pull mask is `PC`. -/
lemma inside_maskedPC {q : Prop} [Decidable q] {n : Int} {m : M σ Unsigned}
    {m' : M (Fenced c σ) Unsigned} (h : Inside c (Known p e) m m' Word (Known p e))
    (hq : ¬q → ∀ v, p v → Word v) :
    Inside c (Known p e) (whenever q do tick n; wrPC (← m)) (whenever q do tick n; wrPC (← m')) Any
      (Known Word e) :=
  Inside.ite (fun _ => (inside_tick n).bind fun _ _ => h.bind fun _ hv => inside_wrPC hv)
    fun hn => Inside.weaken (Inside.pure trivial) fun s hs => ⟨hs.widths, hq hn s.PC hs.pc, hs.ea⟩

lemma inside_pulsPost {post : Unsigned} (hq : ¬post &&& 0x80 ≠ 0 → ∀ v, p v → Word v) :
    Inside c (Known p e) (pulsPost post : M σ Unit) (pulsPost post) Any (Known Word e) :=
  (inside_tick 5).bind fun _ _ =>
  (inside_masked (inside_pullS8.bind fun _ _ => inside_setCc _)).bind fun _ _ =>
  (inside_masked (inside_pullS8.bind fun _ h => inside_wrA h)).bind fun _ _ =>
  (inside_masked (inside_pullS8.bind fun _ h => inside_wrB h)).bind fun _ _ =>
  (inside_masked (inside_pullS8.bind fun _ h => inside_wrDP h)).bind fun _ _ =>
  (inside_masked (inside_pullS16.bind fun _ h => inside_wrX h)).bind fun _ _ =>
  (inside_masked (inside_pullS16.bind fun _ h => inside_wrY h)).bind fun _ _ =>
  (inside_masked (inside_pullS16.bind fun _ h => inside_wrU h)).bind fun _ _ =>
  inside_maskedPC inside_pullS16 hq

lemma inside_puluPost {post : Unsigned} (hq : ¬post &&& 0x80 ≠ 0 → ∀ v, p v → Word v) :
    Inside c (Known p e) (puluPost post : M σ Unit) (puluPost post) Any (Known Word e) :=
  (inside_tick 5).bind fun _ _ =>
  (inside_masked (inside_pullU8.bind fun _ _ => inside_setCc _)).bind fun _ _ =>
  (inside_masked (inside_pullU8.bind fun _ h => inside_wrA h)).bind fun _ _ =>
  (inside_masked (inside_pullU8.bind fun _ h => inside_wrB h)).bind fun _ _ =>
  (inside_masked (inside_pullU8.bind fun _ h => inside_wrDP h)).bind fun _ _ =>
  (inside_masked (inside_pullU16.bind fun _ h => inside_wrX h)).bind fun _ _ =>
  (inside_masked (inside_pullU16.bind fun _ h => inside_wrY h)).bind fun _ _ =>
  (inside_masked (inside_pullU16.bind fun _ h => inside_wrS h)).bind fun _ _ =>
  inside_maskedPC inside_pullU16 hq

lemma inside_rti : Inside c (Known p e) (rti : M σ Unit) rti Any (Known Word e) := by
  have context : Inside c (Known p e) (rtiContext : M σ Unit) rtiContext Any (Known p e) :=
    (inside_tick 9).bind fun _ _ =>
    inside_pullS8.bind fun _ h => (inside_wrA h).bind fun _ _ =>
    inside_pullS8.bind fun _ h => (inside_wrB h).bind fun _ _ =>
    inside_pullS8.bind fun _ h => (inside_wrDP h).bind fun _ _ =>
    inside_pullS16.bind fun _ h => (inside_wrX h).bind fun _ _ =>
    inside_pullS16.bind fun _ h => (inside_wrY h).bind fun _ _ =>
    inside_pullS16.bind fun _ h => inside_wrU h
  exact (inside_tick 6).bind fun _ _ => inside_pullS8.bind fun _ _ =>
    (inside_setCc _).bind fun _ _ => (inside_reads _).bind fun _ _ =>
    context.whenever.bind fun _ _ => inside_pullS16.bind fun _ hv => inside_wrPC hv

lemma inside_rts : Inside c (Known p e) (rts : M σ Unit) rts Any (Known Word e) :=
  (inside_tick 5).bind fun _ _ => inside_pullS16.bind fun _ hv => inside_wrPC hv

section Pushes

variable (hp : ∀ v, Word v → p v)
include hp

lemma inside_pushU16 (data : Unsigned) :
    Inside c (Known p e) (pushU16 data : M σ Unit) (pushU16 data) Any (Known p e) :=
  (inside_setU (· - 2)).bind fun _ _ => (Inside.reads fun _ hs => hs.widths.U).bind fun _ h =>
    (inside_wrmem hp (word_and _) _).bind fun _ _ => inside_wrmem hp h _

lemma inside_pushU8 (data : Unsigned) :
    Inside c (Known p e) (pushU8 data : M σ Unit) (pushU8 data) Any (Known p e) :=
  (inside_setU (· - 1)).bind fun _ _ => (Inside.reads fun _ hs => hs.widths.U).bind fun _ h =>
    inside_wrmem hp h _

lemma inside_pshsPost (post : Unsigned) :
    Inside c (Known p e) (pshsPost post : M σ Unit) (pshsPost post) Any (Known p e) :=
  (inside_tick 5).bind fun _ _ =>
  (inside_masked ((inside_reads _).bind fun _ _ => inside_pushS16 hp _)).bind fun _ _ =>
  (inside_masked ((inside_reads _).bind fun _ _ => inside_pushS16 hp _)).bind fun _ _ =>
  (inside_masked ((inside_reads _).bind fun _ _ => inside_pushS16 hp _)).bind fun _ _ =>
  (inside_masked ((inside_reads _).bind fun _ _ => inside_pushS16 hp _)).bind fun _ _ =>
  (inside_masked ((inside_reads _).bind fun _ _ => inside_pushS8 hp _)).bind fun _ _ =>
  (inside_masked ((inside_reads _).bind fun _ _ => inside_pushS8 hp _)).bind fun _ _ =>
  (inside_masked ((inside_reads _).bind fun _ _ => inside_pushS8 hp _)).bind fun _ _ =>
  inside_masked ((inside_reads _).bind fun _ _ => inside_pushS8 hp _)

lemma inside_pshuPost (post : Unsigned) :
    Inside c (Known p e) (pshuPost post : M σ Unit) (pshuPost post) Any (Known p e) :=
  (inside_tick 5).bind fun _ _ =>
  (inside_masked ((inside_reads _).bind fun _ _ => inside_pushU16 hp _)).bind fun _ _ =>
  (inside_masked ((inside_reads _).bind fun _ _ => inside_pushU16 hp _)).bind fun _ _ =>
  (inside_masked ((inside_reads _).bind fun _ _ => inside_pushU16 hp _)).bind fun _ _ =>
  (inside_masked ((inside_reads _).bind fun _ _ => inside_pushU16 hp _)).bind fun _ _ =>
  (inside_masked ((inside_reads _).bind fun _ _ => inside_pushU8 hp _)).bind fun _ _ =>
  (inside_masked ((inside_reads _).bind fun _ _ => inside_pushU8 hp _)).bind fun _ _ =>
  (inside_masked ((inside_reads _).bind fun _ _ => inside_pushU8 hp _)).bind fun _ _ =>
  inside_masked ((inside_reads _).bind fun _ _ => inside_pushU8 hp _)

lemma inside_swiWith (clk : Int) {masks vector : Unsigned} (hm : masks &&& ~~~EFI_MASK = 0)
    (hv : Word vector) :
    Inside c (Known p e) (swiWith clk masks vector : M σ Unit) (swiWith clk masks vector) Any
      (Known Word e) :=
  (inside_tick clk).bind fun _ _ => (inside_raise (by decide)).bind fun _ _ =>
  (inside_pushAllWith fun _ d h => inside_wrmem hp h d).bind fun _ _ =>
  (inside_raise hm).bind fun _ _ => (inside_read16 hv).bind fun _ h => inside_wrPC h

end Pushes

end Stacks

end Exec09
