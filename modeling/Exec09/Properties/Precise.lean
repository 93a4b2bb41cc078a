import Exec09.Properties.Multiplexer

/-!
# When the interrupt of a store is precise

On the EON2 a store can reach the interrupt multiplexer, and `request_irq` enters the handler at
once, in the middle of the instruction.  Here the instructions are written over the write they
store with (`Insn.execWith`).  With a write that only latches the request this gives the precise
behaviour, in which the handler is entered at the following boundary (`preciseBody`), and the two
are compared.
-/

namespace Exec09

open Program

variable {σ : Type} [Machine σ]

/-! ## Instructions over the write they store with -/

section With

variable (write : Unsigned → Unsigned → M σ Unit)

def wrmem16With (addr data : Unsigned) : M σ Unit := do
  write addr (data >>> 8)
  tick 1
  write ((addr + 1) &&& 0xffff) (data &&& 0xff)

def pushU16With (data : Unsigned) : M σ Unit := do
  modify fun s => { s with U := (s.U - 2) &&& 0xffff }
  writeStack16With write (← reads Cpu.U) data

def pushU8With (data : Unsigned) : M σ Unit := do
  modify fun s => { s with U := (s.U - 1) &&& 0xffff }
  write (← reads Cpu.U) data

def pshsPostWith (post : Unsigned) : M σ Unit := do
  tick 5
  whenever (post &&& 0x80 ≠ 0) do tick 2; pushS16With write ((← reads Cpu.PC) &&& 0xffff)
  whenever (post &&& 0x40 ≠ 0) do tick 2; pushS16With write (← reads Cpu.U)
  whenever (post &&& 0x20 ≠ 0) do tick 2; pushS16With write (← reads Cpu.Y)
  whenever (post &&& 0x10 ≠ 0) do tick 2; pushS16With write (← reads Cpu.X)
  whenever (post &&& 0x08 ≠ 0) do tick 1; pushS8With write ((← reads Cpu.DP) >>> 8)
  whenever (post &&& 0x04 ≠ 0) do tick 1; pushS8With write (← reads Cpu.B)
  whenever (post &&& 0x02 ≠ 0) do tick 1; pushS8With write (← reads Cpu.A)
  whenever (post &&& 0x01 ≠ 0) do tick 1; pushS8With write (← reads Cpu.getCc)

def pshuPostWith (post : Unsigned) : M σ Unit := do
  tick 5
  whenever (post &&& 0x80 ≠ 0) do tick 2; pushU16With write ((← reads Cpu.PC) &&& 0xffff)
  whenever (post &&& 0x40 ≠ 0) do tick 2; pushU16With write (← reads Cpu.S)
  whenever (post &&& 0x20 ≠ 0) do tick 2; pushU16With write (← reads Cpu.Y)
  whenever (post &&& 0x10 ≠ 0) do tick 2; pushU16With write (← reads Cpu.X)
  whenever (post &&& 0x08 ≠ 0) do tick 1; pushU8With write ((← reads Cpu.DP) >>> 8)
  whenever (post &&& 0x04 ≠ 0) do tick 1; pushU8With write (← reads Cpu.B)
  whenever (post &&& 0x02 ≠ 0) do tick 1; pushU8With write (← reads Cpu.A)
  whenever (post &&& 0x01 ≠ 0) do tick 1; pushU8With write (← reads Cpu.getCc)

def jsrWith : M σ Unit := do
  pushS16With write ((← reads Cpu.PC) &&& 0xffff)
  wrPC (← rdEa)

/-- `bsr` and `long_bsr`, once the operand is fetched. -/
def bsrWith (clk : Int) (offset : Unsigned) : M σ Unit := do
  wrEa ((← reads Cpu.PC) + offset)
  pushS16With write ((← reads Cpu.PC) &&& 0xffff)
  tick clk
  wrPC (← rdEa)

def swiOver (clk : Int) (masks vector : Unsigned) : M σ Unit := do
  tick clk
  modify fun s => { s with EFI := s.EFI ||| E_FLAG }
  pushAllWith write
  modify fun s => { s with EFI := s.EFI ||| masks }
  wrPC (← read16 vector)

/-- Run the body of a case, with `write` for every memory write. -/
def Insn.execWith : Insn → M σ Unit
  | .unaryMem op ea => ea.andThen do
      let data ← unary op.fn (← rdmemEa)
      write (← rdEa) data
  | .st8 r ea => ea.andThen do
      let arg ← r.get
      alu (Alu.st arg)
      write (← rdEa) arg
  | .std ea => ea.andThen do
      alu (Alu.std (← rdA) (← rdB))
      wrmem16With write (← rdEa) (← rdD)
  | .st16 r ea => ea.andThen do
      let arg ← r.get
      alu (Alu.st16 arg)
      wrmem16With write (← rdEa) arg
  | .pshs => do
      let post ← immByte
      pshsPostWith write post
  | .pshu => do
      let post ← immByte
      pshuPostWith write post
  | .jsr ea => ea.andThen (jsrWith write)
  | .bsr => do
      let tmp ← immByte
      bsrWith write 7 (int8 tmp)
  | .longBsr => do
      let tmp ← immWord
      bsrWith write 9 (int16 tmp)
  | .swi => swiOver write 19 (I_FLAG ||| F_FLAG) 0xfffa
  | .swi2 => swiOver write 20 0 0xfff4
  | .swi3 => swiOver write 20 0 0xfff2
  | i => i.exec

end With

/-- With `WRMEM` these are the instructions of the processor. -/
lemma Insn.execWith_wrmem (i : Insn) : (i.execWith wrmem : M σ Unit) = i.exec := by
  cases i <;> rfl

/-! ## The precise behaviour -/

/-- A request only marks the line; everything else is as in the code. -/
def latchEffect (write : Unsigned → Unsigned → M σ Unit) : Effect → M σ Unit
  | .requestIrq source => modify (Cpu.pendIrq source)
  | x => effectWith write x

/-- A memory write whose request for an IRQ has to wait. -/
def latchWrite (addr data : Unsigned) : M σ Unit := do
  let r ← modifyGet fun s =>
    let r := Machine.write8 s.view s.world addr (data.setWidth 8)
    (r, { s with world := r.world })
  r.effects.forM (latchEffect (writeN (Machine.nesting σ)))

/-- One instruction with precise interrupts: all register changes and memory writes come first, and
an IRQ that is then pending is taken at the boundary. -/
def preciseBody : M σ Insn := do
  let i ← cpuFetch
  i.execWith latchWrite
  whenever (← reads Cpu.irqDeliverable) (irqWith (writeN (Machine.nesting σ)))
  return i

/-- The latching write of an instruction that may not write again once the IRQ is requested. -/
def lastWrite (addr data : Unsigned) : M σ Unit := do
  if (← reads Cpu.irqsPending) ≠ 0 then throw .overflow else latchWrite addr data

/-- Every write that requests an IRQ is the last write of the instruction. -/
def RequestsLast (i : Insn) (s : Cpu σ) : Prop := ∃ t, i.execWith lastWrite s = .ok ((), t)

/-- Subroutine calls and software interrupts: they load `PC` after their pushes. -/
def Insn.LoadsPcLast : Insn → Bool
  | .jsr _ | .bsr | .longBsr | .swi | .swi2 | .swi3 => true
  | _ => false

/-! ## The machine without the simulator's own bookkeeping -/

/-- Everything but `monitor_on` and the two history variables. -/
def Cpu.machine (s : Cpu σ) : Cpu σ := { s with monitorOn := false, simErrors := 0, hist := [] }

/-- The same simulated machine. -/
def SameMachine (s t : Cpu σ) : Prop := s.machine = t.machine

/-! ## Entering an interrupt does not look at the bookkeeping -/

/-- The program treats states with the same machine alike. -/
abbrev Unminded {α : Type} (m : M σ α) : Prop := Uniform SameMachine SameMachine m

omit [Machine σ] in
lemma unminded_modify {f : Cpu σ → Cpu σ} (h : ∀ s, (f s).machine = (f s.machine).machine) :
    Unminded (modify f : M σ Unit) := by
  refine Uniform.modify fun s t hst => ?_
  calc (f s).machine = (f s.machine).machine := h s
    _ = (f t.machine).machine := by rw [show s.machine = t.machine from hst]
    _ = (f t).machine := (h t).symm

omit [Machine σ] in
lemma unminded_reads {α : Type} {g : Cpu σ → α} (h : ∀ s, g s = g s.machine) :
    Unminded (reads g : M σ α) := by
  refine Uniform.reads fun s t hst => ?_
  rw [h s, h t, show s.machine = t.machine from hst]

lemma unminded_signal (x : Signal) : Unminded (signal x : M σ Unit) := by
  cases x with
  | simError =>
    refine Uniform.bind (unminded_modify fun _ => rfl) fun _ => ?_
    exact Uniform.ite (unminded_modify fun _ => rfl) (Uniform.throw _)
  | monitor on => exact unminded_modify fun _ => rfl
  | exit code => exact Uniform.throw _

omit [Machine σ] in
/-- A call into the machine sees registers and world only. -/
lemma unminded_modifyGet {α : Type} (call : View → σ → α) (world : α → σ) :
    Unminded (modifyGet fun s => (call s.view s.world, { s with world := world (call s.view s.world) }) :
      M σ α) := by
  refine Uniform.modifyGet fun s t hst => ?_
  have hst' : s.machine = t.machine := hst
  have hview : s.view = t.view := by
    change s.machine.view = t.machine.view
    rw [hst']
  have hworld : s.world = t.world := by
    change s.machine.world = t.machine.world
    rw [hst']
  refine ⟨by rw [hview, hworld], ?_⟩
  rw [hview, hworld]
  exact congrArg (fun u : Cpu σ => { u with world := world (call t.view t.world) }) hst'

lemma unminded_read16 (a : Unsigned) : Unminded (read16 a : M σ Unsigned) :=
  ((unminded_modifyGet (fun v w => Machine.read16 v w a) Reply.world).bind fun _ =>
    (Uniform.forM unminded_signal).bind fun _ => Uniform.pure _).bind fun _ => Uniform.pure _

section With

variable {write : Unsigned → Unsigned → M σ Unit} (hw : ∀ a d, Unminded (write a d))
include hw

omit [Machine σ] in
lemma unminded_pushS16With (data : Unsigned) : Unminded (pushS16With write data) :=
  (unminded_modify fun _ => rfl).bind fun _ => (unminded_reads fun _ => rfl).bind fun _ =>
    (hw _ _).bind fun _ => hw _ _

omit [Machine σ] in
lemma unminded_pushS8With (data : Unsigned) : Unminded (pushS8With write data) :=
  (unminded_modify fun _ => rfl).bind fun _ => (unminded_reads fun _ => rfl).bind fun _ => hw _ _

omit [Machine σ] in
lemma unminded_pushAllWith : Unminded (pushAllWith write) :=
  (unminded_reads fun _ => rfl).bind fun _ => (unminded_pushS16With hw _).bind fun _ =>
  (unminded_reads fun _ => rfl).bind fun _ => (unminded_pushS16With hw _).bind fun _ =>
  (unminded_reads fun _ => rfl).bind fun _ => (unminded_pushS16With hw _).bind fun _ =>
  (unminded_reads fun _ => rfl).bind fun _ => (unminded_pushS16With hw _).bind fun _ =>
  (unminded_reads fun _ => rfl).bind fun _ => (unminded_pushS8With hw _).bind fun _ =>
  (unminded_reads fun _ => rfl).bind fun _ => (unminded_pushS8With hw _).bind fun _ =>
  (unminded_reads fun _ => rfl).bind fun _ => (unminded_pushS8With hw _).bind fun _ =>
  (unminded_reads fun _ => rfl).bind fun _ => unminded_pushS8With hw _

lemma unminded_irqWith : Unminded (irqWith write) :=
  (unminded_modify fun _ => rfl).bind fun _ => (unminded_modify fun _ => rfl).bind fun _ =>
  (unminded_pushAllWith hw).bind fun _ => (unminded_modify fun _ => rfl).bind fun _ =>
  (unminded_read16 _).bind fun _ => (unminded_modify fun _ => rfl).bind fun _ =>
  unminded_modify fun _ => rfl

lemma unminded_firqWith : Unminded (firqWith write) :=
  (unminded_modify fun _ => rfl).bind fun _ => (unminded_modify fun _ => rfl).bind fun _ =>
  (unminded_reads fun _ => rfl).bind fun _ => (unminded_pushS16With hw _).bind fun _ =>
  (unminded_reads fun _ => rfl).bind fun _ => (unminded_pushS8With hw _).bind fun _ =>
  (unminded_modify fun _ => rfl).bind fun _ => (unminded_read16 _).bind fun _ =>
  (unminded_modify fun _ => rfl).bind fun _ => unminded_modify fun _ => rfl

lemma unminded_effectWith (x : Effect) : Unminded (effectWith write x) := by
  cases x with
  | signal e => exact unminded_signal e
  | requestIrq source =>
    exact (unminded_modify fun _ => rfl).bind fun _ => (unminded_reads fun _ => rfl).bind fun _ =>
      (unminded_irqWith hw).whenever.bind fun _ => unminded_modify fun _ => rfl
  | releaseIrq source =>
    exact (unminded_modify fun _ => rfl).bind fun _ => unminded_modify fun _ => rfl
  | requestFirq source =>
    exact (unminded_modify fun _ => rfl).bind fun _ => (unminded_reads fun _ => rfl).bind fun _ =>
      (unminded_firqWith hw).whenever.bind fun _ => unminded_modify fun _ => rfl
  | releaseFirq source =>
    exact (unminded_modify fun _ => rfl).bind fun _ => unminded_modify fun _ => rfl

end With

lemma unminded_writeN (n : Nat) : ∀ a d, Unminded (writeN n a d : M σ Unit) := by
  induction n with
  | zero => exact fun _ _ => Uniform.throw _
  | succ n ih =>
    intro a d
    exact Uniform.bind
      (unminded_modifyGet (fun v w => Machine.write8 v w a (d.setWidth 8)) WriteReply.world) fun _ =>
      Uniform.forM (unminded_effectWith ih)

/-! ## Programs and their precise counterparts -/

variable {δ : Type} [Host δ] {α β : Type}

/-- Interrupt lines and multiplexer. -/
def Eon2.ports (s : Eon2Cpu δ) : Lines × Imux := (s.lines, s.mux)

instance : Unread (Eon2.ports : Eon2Cpu δ → Lines × Imux) where
  ofCore s t hc hw := by
    rw [Eon2.ports, Eon2.ports, Cpu.lines_of_core hc, Cpu.mux, Cpu.mux, hw]
  read8 s a := Prod.ext rfl (Eon2.devRead_mux s.view _ _ _)
  read16 s a := Prod.ext rfl ((Eon2.devRead_mux s.view _ _ _).trans (Eon2.devRead_mux s.view _ _ _))

/-- The multiplexer is on line 1, `I` is clear and no IRQ is pending. -/
structure Ready (s : Eon2Cpu δ) : Prop where
  src : s.mux.src = 1
  unmasked : s.EFI &&& I_FLAG = 0
  none : s.irqsPending = 0

omit [Host δ] in
lemma Ready.keep {s t : Eon2Cpu δ} (hs : Ready s) (h : Eon2.ports t = Eon2.ports s) : Ready t where
  src := (congrArg (fun x => x.2.src) h).trans hs.src
  unmasked := (congrArg (fun x => x.1.efi &&& I_FLAG) h).trans hs.unmasked
  none := (congrArg (fun x => x.1.irqsPending) h).trans hs.none

/-- `x` is the outcome of a program that has taken the IRQ waiting in `t`. -/
def Took (a : α) (t : Eon2Cpu δ) (x : Except Exit (α × Eon2Cpu δ)) : Prop :=
  (∀ t', irqWith (writeN (Machine.nesting (Bus (Io Eon2 δ)))) t = .ok ((), t') →
    ∃ u, x = .ok (a, u) ∧ SameMachine u t') ∧
  ∀ b u, x = .ok (b, u) → ∃ t', irqWith (writeN (Machine.nesting (Bus (Io Eon2 δ)))) t = .ok ((), t')

/-- How a program, given the write it stores with, goes on from a boundary without a pending IRQ:
unless it writes again after a request, the latching write leads to a state in which the IRQ waits
if and only if the code has taken it there. -/
def Defers (m : (Unsigned → Unsigned → M (Bus (Io Eon2 δ)) Unit) → M (Bus (Io Eon2 δ)) α) : Prop :=
  ∀ s a t, Ready s → m lastWrite s = .ok (a, t) →
    m latchWrite s = .ok (a, t) ∧
    (Ready t ∧ m wrmem s = .ok (a, t) ∨ t.irqDeliverable = true ∧ Took a t (m wrmem s))

/-- A program that writes, whatever it does before. -/
def Barred (m : (Unsigned → Unsigned → M (Bus (Io Eon2 δ)) Unit) → M (Bus (Io Eon2 δ)) α) : Prop :=
  ∀ s, s.irqsPending ≠ 0 → ∀ a t, m lastWrite s ≠ .ok (a, t)

/-- A program that either writes or does nothing at all. -/
def Silent (m : (Unsigned → Unsigned → M (Bus (Io Eon2 δ)) Unit) → M (Bus (Io Eon2 δ)) α) : Prop :=
  ∀ s, s.irqsPending ≠ 0 → ∀ a t, m lastWrite s = .ok (a, t) →
    t = s ∧ ∀ write u, m write u = .ok (a, u)

section Rules

variable {m : (Unsigned → Unsigned → M (Bus (Io Eon2 δ)) Unit) → M (Bus (Io Eon2 δ)) α}
  {f : α → (Unsigned → Unsigned → M (Bus (Io Eon2 δ)) Unit) → M (Bus (Io Eon2 δ)) β}
  {p : M (Bus (Io Eon2 δ)) α}

lemma Barred.after (hp : Keeps Eon2.ports p) (hf : ∀ a, Barred (f a)) :
    Barred fun write => p >>= fun a => f a write := by
  intro s hs b t h
  obtain ⟨a, u, hu, hk⟩ := bind_eq_ok.mp h
  have hpend : u.irqsPending = s.irqsPending :=
    congrArg (fun x : Lines × Imux => x.1.irqsPending) (hp _ _ _ hu)
  exact hf a u (hpend.trans_ne hs) b t hk

lemma Barred.bind (hm : Barred m) : Barred fun write => m write >>= fun a => f a write := by
  intro s hs b t h
  obtain ⟨a, u, hu, -⟩ := bind_eq_ok.mp h
  exact hm s hs a u hu

lemma Barred.silent (hm : Barred m) : Silent m := fun s hs a t h => absurd h (hm s hs a t)

lemma Silent.whenever {c : Prop} [Decidable c]
    {m : (Unsigned → Unsigned → M (Bus (Io Eon2 δ)) Unit) → M (Bus (Io Eon2 δ)) Unit}
    (hm : Silent m) : Silent fun write => whenever c (m write) := by
  by_cases hc : c
  · simp only [Program.whenever, if_pos hc]
    exact hm
  · simp only [Program.whenever, if_neg hc]
    intro s _ a t h
    cases h
    exact ⟨rfl, fun _ _ => rfl⟩

lemma Silent.bind (hm : Silent m) (hf : ∀ a, Silent (f a)) :
    Silent fun write => m write >>= fun a => f a write := by
  intro s hs b t h
  obtain ⟨a, u, hu, hk⟩ := bind_eq_ok.mp h
  obtain ⟨rfl, hm'⟩ := hm s hs a u hu
  obtain ⟨rfl, hf'⟩ := hf a _ hs b t hk
  exact ⟨rfl, fun write u => (ok_bind (hm' write u)).trans (hf' write u)⟩

/-- A program that does not store. -/
lemma Defers.plain (hp : Keeps Eon2.ports p) : Defers fun _ => p :=
  fun _ _ _ hs h => ⟨h, Or.inl ⟨hs.keep (hp _ _ _ h), h⟩⟩

lemma Defers.after (hp : Keeps Eon2.ports p) (hf : ∀ a, Defers (f a)) :
    Defers fun write => p >>= fun a => f a write := by
  intro s b t hs h
  obtain ⟨a, u, hu, hk⟩ := bind_eq_ok.mp h
  have hnext := hf a u b t (hs.keep (hp _ _ _ hu)) hk
  simp only [ok_bind hu]
  exact hnext

/-- What comes after a request must be silent. -/
lemma Defers.bind (hm : Defers m) (hf : ∀ a, Defers (f a)) (hlast : ∀ a, Silent (f a)) :
    Defers fun write => m write >>= fun a => f a write := by
  intro s b t hs h
  obtain ⟨a, u, hu, hk⟩ := bind_eq_ok.mp h
  obtain ⟨hlatch, ⟨hr, hcode⟩ | ⟨hd, htook⟩⟩ := hm s a u hs hu
  · have hnext := hf a u b t hr hk
    simp only [ok_bind hlatch, ok_bind hcode]
    exact hnext
  · obtain ⟨rfl, hnone⟩ := hlast a u (of_decide_eq_true hd).1 b t hk
    refine ⟨(ok_bind hlatch).trans (hnone latchWrite _), Or.inr ⟨hd, fun t' ht' => ?_, ?_⟩⟩
    · obtain ⟨v, hv, hsame⟩ := htook.1 t' ht'
      exact ⟨v, (ok_bind hv).trans (hnone wrmem v), hsame⟩
    · intro c v hv
      obtain ⟨a', w, hw, -⟩ := bind_eq_ok.mp hv
      exact htook.2 a' w hw

lemma Defers.whenever {c : Prop} [Decidable c]
    {m : (Unsigned → Unsigned → M (Bus (Io Eon2 δ)) Unit) → M (Bus (Io Eon2 δ)) Unit}
    (hm : Defers m) : Defers fun write => whenever c (m write) := by
  by_cases hc : c
  · simp only [Program.whenever, if_pos hc]
    exact hm
  · simp only [Program.whenever, if_neg hc]
    exact Defers.plain (Steps.pure ())

end Rules

/-! ## The write -/

/-- One effect between signals. -/
lemma forM_between {g : Effect → M σ Unit} (hg : ∀ x, g (.signal x) = signal x)
    (l l' : List Signal) (x : Effect) :
    (l.map Effect.signal ++ ([x] ++ l'.map Effect.signal)).forM g =
      (do l.forM signal; g x; l'.forM signal) := by
  rw [← forM_map_signal hg l, ← forM_map_signal hg l', List.forM_eq_forM, List.forM_append]
  rfl

/-- Signals that return do so in every state. -/
lemma signals_return {l : List Signal} {s t : Cpu σ} (h : l.forM signal s = .ok ((), t))
    (s' : Cpu σ) : ∃ t', l.forM signal s' = .ok ((), t') ∧ SameMachine t' s' := by
  induction l generalizing s s' with
  | nil => exact ⟨s', rfl, rfl⟩
  | cons x l ih =>
    obtain ⟨_, u, hu, hk⟩ := bind_eq_ok.mp h
    have first : ∃ u', signal x s' = .ok ((), u') ∧ SameMachine u' s' := by
      cases x with
      | simError =>
        obtain ⟨_, v, hv, hk'⟩ := bind_eq_ok.mp hu
        by_cases hd : Machine.debugEnabled σ = true
        · refine ⟨{ s' with simErrors := s'.simErrors + 1, monitorOn := true },
            bind_eq_ok.mpr ⟨(), _, rfl, ?_⟩, rfl⟩
          rw [if_pos hd]
          rfl
        · rw [if_neg hd] at hk'
          cases hk'
      | monitor on => exact ⟨_, rfl, rfl⟩
      | exit code => cases hu
    obtain ⟨u', hu', hsame⟩ := first
    obtain ⟨t', ht', hsame'⟩ := ih hk u'
    exact ⟨t', bind_eq_ok.mpr ⟨_, u', hu', ht'⟩, hsame'.trans hsame⟩

lemma signals_keep {l : List Signal} {s t : Cpu σ} (h : l.forM signal s = .ok ((), t)) :
    SameMachine t s := by
  obtain ⟨on, n, rfl⟩ := signals_eq_ok h
  rfl

/-- After a pending request nothing is written any more. -/
lemma barred_write (a d : Unsigned) : Barred (δ := δ) fun write => write a d := by
  intro s hs x t h
  obtain ⟨p, u, hu, hk⟩ := bind_eq_ok.mp h
  cases hu
  rw [if_pos hs] at hk
  cases hk

/-- A request that is not masked enters the handler. -/
lemma requestIrqWith_unmasked {write : Unsigned → Unsigned → M σ Unit} {source : Unsigned}
    {s t : Cpu σ} (hm : s.EFI &&& I_FLAG = 0) (h : irqWith write (s.pendIrq source) = .ok ((), t)) :
    requestIrqWith write source s = .ok ((), t.record (.requested t.snapshot)) := by
  have hmask : (s.pendIrq source).irqMasked = false := decide_eq_false (not_not.mpr hm)
  refine bind_eq_ok.mpr ⟨(), s.pendIrq source, rfl, bind_eq_ok.mpr ⟨_, _, rfl, ?_⟩⟩
  refine bind_eq_ok.mpr ⟨(), t, whenever_eq_ok.mpr (Or.inl ⟨?_, h⟩), rfl⟩
  rw [hmask]
  decide

/-- The request of a write to the multiplexer between the signals of the bus: the latched request
waits where the code takes the IRQ. -/
lemma took_request {l l' : List Signal} {s t : Eon2Cpu δ} (hs : Ready s)
    (h : (do l.forM signal; modify (Cpu.pendIrq 1); l'.forM signal : M (Bus (Io Eon2 δ)) Unit) s =
      .ok ((), t)) :
    t.irqDeliverable = true ∧ Took () t ((do
      l.forM signal
      requestIrqWith (writeN (Machine.nesting (Bus (Io Eon2 δ)))) 1
      l'.forM signal : M (Bus (Io Eon2 δ)) Unit) s) := by
  obtain ⟨_, s₂, h₂, k₂⟩ := bind_eq_ok.mp h
  obtain ⟨_, s₃, h₃, k₃⟩ := bind_eq_ok.mp k₂
  cases h₃
  have hm : s₂.EFI &&& I_FLAG = 0 := by
    obtain ⟨on, n, rfl⟩ := signals_eq_ok h₂
    exact hs.unmasked
  have hback : SameMachine t (s₂.pendIrq 1) := signals_keep k₃
  have hirq := unminded_irqWith (unminded_writeN (σ := Bus (Io Eon2 δ))
    (Machine.nesting (Bus (Io Eon2 δ))))
  refine ⟨?_, fun t' ht' => ?_, fun b u hu => ?_⟩
  · obtain ⟨on, n, rfl⟩ := signals_eq_ok k₃
    refine decide_eq_true ⟨fun h0 => ?_, ?_⟩
    · exact absurd (BitVec.or_eq_zero_iff.mp h0).2 (by decide)
    · exact Bool.not_eq_true _ ▸ decide_eq_false (not_not.mpr hm)
  · obtain ⟨_, s₄, h₄, -, hsame⟩ := (hirq t _ hback).of_ok ht'
    obtain ⟨u, hu, hsame'⟩ := signals_return k₃ (s₄.record (.requested s₄.snapshot))
    refine ⟨u, bind_eq_ok.mpr ⟨(), s₂, h₂, bind_eq_ok.mpr ⟨(), _, ?_, hu⟩⟩, hsame'.trans hsame.symm⟩
    exact requestIrqWith_unmasked hm h₄
  · obtain ⟨_, v, hv, kv⟩ := bind_eq_ok.mp hu
    obtain ⟨_, w, hw, -⟩ := bind_eq_ok.mp kv
    obtain rfl : v = s₂ := congrArg Prod.snd (Except.ok.inj (hv.symm.trans h₂))
    obtain ⟨h1, -⟩ | ⟨-, s₄, h₄, -⟩ := requestIrqWith_eq_ok hw
    · exact absurd hm h1
    · obtain ⟨_, t', ht', -⟩ := (hirq _ t hback.symm).of_ok h₄
      exact ⟨t', ht'⟩

/-- The latching write and the one of the code differ only when the multiplexer requests an IRQ. -/
lemma defers_write (a d : Unsigned) : Defers (δ := δ) fun write => write a d := by
  intro s x t hs h
  have hlatch : latchWrite a d s = .ok (x, t) := by
    obtain ⟨p, u, hu, hk⟩ := bind_eq_ok.mp h
    cases hu
    rwa [if_neg (not_not.mpr hs.none)] at hk
  refine ⟨hlatch, ?_⟩
  -- both writes change the world first
  have split (g : Effect → M (Bus (Io Eon2 δ)) Unit) : (do
      let r ← modifyGet fun s : Eon2Cpu δ =>
        let r := Machine.write8 s.view s.world a (d.setWidth 8)
        (r, { s with world := r.world })
      r.effects.forM g : M (Bus (Io Eon2 δ)) Unit) s =
      (s.world.cpuWrite8 s.view a (d.setWidth 8)).effects.forM g
        { s with world := (s.world.cpuWrite8 s.view a (d.setWidth 8)).world } := rfl
  rw [latchWrite, split] at hlatch
  change Ready t ∧ wrmem a d s = _ ∨ t.irqDeliverable = true ∧ Took () t (wrmem a d s)
  rw [wrmem, writeN, split]
  obtain ⟨hm, l, hl⟩ | ⟨reg, l, l', hm, hl⟩ := Eon2.cpuWrite8_mux s.view s.world a (d.setWidth 8)
  · -- only signals
    rw [hl, forM_map_signal fun _ => rfl] at hlatch
    rw [hl, forM_map_signal fun _ => rfl]
    refine Or.inl ⟨?_, hlatch⟩
    obtain ⟨on, n, rfl⟩ := signals_eq_ok hlatch
    exact hs.keep (Prod.ext rfl hm)
  · -- a register of the multiplexer
    have hsrc : (s.world.io.dev.imux.setReg reg (d.setWidth 8)).src = 1 :=
      (MuxOp.apply_src (.write reg (d.setWidth 8)) s.mux).trans hs.src
    have hready : Ready { s with world := (s.world.cpuWrite8 s.view a (d.setWidth 8)).world } :=
      ⟨(congrArg Imux.src hm).trans hsrc, hs.unmasked, hs.none⟩
    simp only [Imux.refresh, hsrc, if_true] at hl
    split_ifs at hl with hact
    · rw [hl, forM_between fun _ => rfl] at hlatch
      rw [hl, forM_between fun _ => rfl]
      exact Or.inr (took_request hready hlatch)
    · rw [hl, forM_between fun _ => rfl] at hlatch
      rw [hl, forM_between fun _ => rfl]
      refine Or.inl ⟨?_, hlatch⟩
      obtain ⟨_, s₂, h₂, k₂⟩ := bind_eq_ok.mp hlatch
      obtain ⟨_, s₃, h₃, k₃⟩ := bind_eq_ok.mp k₂
      obtain ⟨on, n, rfl⟩ := signals_eq_ok h₂
      cases h₃
      obtain ⟨on', n', rfl⟩ := signals_eq_ok k₃
      refine ⟨hready.src, hs.unmasked, ?_⟩
      exact (congrArg (· &&& _) hs.none).trans BitVec.zero_and

/-! ## Stores and pushes -/

lemma defers_wrmem16With (a d : Unsigned) : Defers (δ := δ) fun write => wrmem16With write a d :=
  (defers_write _ _).bind (fun _ => Defers.after (keeps_tick 1) fun _ => defers_write _ _)
    fun _ => (Barred.after (keeps_tick 1) fun _ => barred_write _ _).silent

/-- A program that pushes: once an IRQ is requested it would write again. -/
structure Pushing (m : (Unsigned → Unsigned → M (Bus (Io Eon2 δ)) Unit) → M (Bus (Io Eon2 δ)) Unit) :
    Prop where
  defers : Defers m
  barred : Barred m

/-- A push of two bytes, the stack pointer being moved by `f` and read by `g`. -/
lemma pushing16 {f : Eon2Cpu δ → Eon2Cpu δ} {g : Eon2Cpu δ → Unsigned}
    (hf : ∀ s, (f s).core = s.core) (hw : ∀ s, (f s).world = s.world) (d : Unsigned) :
    Pushing fun write => (do modify f; writeStack16With write (← reads g) d) where
  defers := Defers.after (keeps_modify hf hw) fun _ => Defers.after (Steps.reads _) fun _ =>
    (defers_write _ _).bind (fun _ => defers_write _ _) fun _ => (barred_write _ _).silent
  barred := Barred.after (keeps_modify hf hw) fun _ => Barred.after (Steps.reads _) fun _ =>
    (barred_write _ _).bind

lemma pushing8 {f : Eon2Cpu δ → Eon2Cpu δ} {g : Eon2Cpu δ → Unsigned}
    (hf : ∀ s, (f s).core = s.core) (hw : ∀ s, (f s).world = s.world) (d : Unsigned) :
    Pushing fun write => (do modify f; write (← reads g) d) where
  defers := Defers.after (keeps_modify hf hw) fun _ => Defers.after (Steps.reads _) fun _ =>
    defers_write _ _
  barred := Barred.after (keeps_modify hf hw) fun _ => Barred.after (Steps.reads _) fun _ =>
    barred_write _ _

lemma pushing_pushS16With (d : Unsigned) : Pushing (δ := δ) fun write => pushS16With write d :=
  pushing16 (f := fun s => { s with S := (s.S - 2) &&& 0xffff }) (g := Cpu.S) (fun _ => rfl)
    (fun _ => rfl) d

lemma pushing_pushS8With (d : Unsigned) : Pushing (δ := δ) fun write => pushS8With write d :=
  pushing8 (f := fun s => { s with S := (s.S - 1) &&& 0xffff }) (g := Cpu.S) (fun _ => rfl)
    (fun _ => rfl) d

lemma pushing_pushU16With (d : Unsigned) : Pushing (δ := δ) fun write => pushU16With write d :=
  pushing16 (f := fun s => { s with U := (s.U - 2) &&& 0xffff }) (g := Cpu.U) (fun _ => rfl)
    (fun _ => rfl) d

lemma pushing_pushU8With (d : Unsigned) : Pushing (δ := δ) fun write => pushU8With write d :=
  pushing8 (f := fun s => { s with U := (s.U - 1) &&& 0xffff }) (g := Cpu.U) (fun _ => rfl)
    (fun _ => rfl) d

/-- Part of a push mask: registers are pushed or nothing happens. -/
structure Masked (m : (Unsigned → Unsigned → M (Bus (Io Eon2 δ)) Unit) → M (Bus (Io Eon2 δ)) Unit) :
    Prop where
  defers : Defers m
  silent : Silent m

/-- The register of one bit. -/
lemma Pushing.masked {c : Prop} [Decidable c] {n : Int} {r : Eon2Cpu δ → Unsigned}
    {p : Unsigned → (Unsigned → Unsigned → M (Bus (Io Eon2 δ)) Unit) → M (Bus (Io Eon2 δ)) Unit}
    (h : ∀ v, Pushing (p v)) :
    Masked fun write => whenever c (do tick n; p (← reads r) write) where
  defers :=
    (Defers.after (keeps_tick n) fun _ => Defers.after (Steps.reads _) fun v =>
      (h v).defers).whenever
  silent :=
    (Barred.after (keeps_tick n) fun _ => Barred.after (Steps.reads _) fun v =>
      (h v).barred).silent.whenever

lemma Masked.bind {m m' : (Unsigned → Unsigned → M (Bus (Io Eon2 δ)) Unit) → M (Bus (Io Eon2 δ)) Unit}
    (h : Masked m) (h' : Masked m') : Masked fun write => m write >>= fun _ => m' write where
  defers := h.defers.bind (fun _ => h'.defers) fun _ => h'.silent
  silent := h.silent.bind fun _ => h'.silent

lemma defers_pshsPostWith (post : Unsigned) :
    Defers (δ := δ) fun write => pshsPostWith write post :=
  Defers.after (keeps_tick 5) fun _ =>
    ((Pushing.masked fun v => pushing_pushS16With (v &&& 0xffff)).bind <|
      (Pushing.masked pushing_pushS16With).bind <| (Pushing.masked pushing_pushS16With).bind <|
      (Pushing.masked pushing_pushS16With).bind <|
      (Pushing.masked fun v => pushing_pushS8With (v >>> 8)).bind <|
      (Pushing.masked pushing_pushS8With).bind <| (Pushing.masked pushing_pushS8With).bind <|
      Pushing.masked pushing_pushS8With).defers

lemma defers_pshuPostWith (post : Unsigned) :
    Defers (δ := δ) fun write => pshuPostWith write post :=
  Defers.after (keeps_tick 5) fun _ =>
    ((Pushing.masked fun v => pushing_pushU16With (v &&& 0xffff)).bind <|
      (Pushing.masked pushing_pushU16With).bind <| (Pushing.masked pushing_pushU16With).bind <|
      (Pushing.masked pushing_pushU16With).bind <|
      (Pushing.masked fun v => pushing_pushU8With (v >>> 8)).bind <|
      (Pushing.masked pushing_pushU8With).bind <| (Pushing.masked pushing_pushU8With).bind <|
      Pushing.masked pushing_pushU8With).defers

/-! ## Instructions -/

lemma Ea.defers_andThen (ea : Ea)
    {k : (Unsigned → Unsigned → M (Bus (Io Eon2 δ)) Unit) → M (Bus (Io Eon2 δ)) Unit}
    (hk : Defers k) : Defers fun write => ea.andThen (k write) := by
  cases ea with
  | direct clk => exact Defers.after keeps_direct fun _ => Defers.after (keeps_tick clk) fun _ => hk
  | extended clk =>
    exact Defers.after keeps_extended fun _ => Defers.after (keeps_tick clk) fun _ => hk
  | indexed => exact Defers.after keeps_indexed fun _ => hk
  | tickIndexed clk =>
    exact Defers.after (keeps_tick clk) fun _ => Defers.after keeps_indexed fun _ => hk
  | indexedTick clk =>
    exact Defers.after keeps_indexed fun _ => Defers.after (keeps_tick clk) fun _ => hk

omit [Host δ] in
lemma keepsPorts_alu {γ : Type} (g : Flags → γ × Flags) :
    Keeps Eon2.ports (alu g : M (Bus (Io Eon2 δ)) γ) := Steps.modifyGet fun _ => rfl

/-- A store or push that is not a call or a software interrupt. -/
lemma Insn.defers_execWith {i : Insn} (hs : i.Stores = true) (hi : i.LoadsPcLast = false) :
    Defers (δ := δ) fun write => i.execWith write := by
  cases i with
  | unaryMem op ea =>
    refine ea.defers_andThen <| Defers.after keeps_rdmemEa fun arg => ?_
    refine Defers.after ((keepsPorts_alu _).bind fun _ => (keeps_tick 2).bind fun _ =>
      Steps.pure _) fun data => ?_
    exact Defers.after (Steps.reads _) fun a => defers_write a data
  | st8 r ea =>
    refine ea.defers_andThen <| Defers.after r.keeps_get fun arg => ?_
    exact Defers.after (keepsPorts_alu _) fun _ => Defers.after (Steps.reads _) fun a =>
      defers_write a arg
  | std ea =>
    refine ea.defers_andThen <| Defers.after (Steps.reads _) fun a => ?_
    refine Defers.after (Steps.reads _) fun b => Defers.after (keepsPorts_alu _) fun _ => ?_
    exact Defers.after (Steps.reads _) fun addr => Defers.after (Steps.reads _) fun data =>
      defers_wrmem16With addr data
  | st16 r ea =>
    refine ea.defers_andThen <| Defers.after r.keeps_get fun arg => ?_
    exact Defers.after (keepsPorts_alu _) fun _ => Defers.after (Steps.reads _) fun a =>
      defers_wrmem16With a arg
  | pshs => exact Defers.after keeps_immByte defers_pshsPostWith
  | pshu => exact Defers.after keeps_immByte defers_pshuPostWith
  | jsr | bsr | longBsr | swi | swi2 | swi3 => cases hi
  | _ => cases hs

/-- An instruction that does not store is the same with every write, and no line becomes
pending. -/
lemma Insn.execWith_of_not_stores {i : Insn} (hs : i.Stores = false)
    (write : Unsigned → Unsigned → M σ Unit) : i.execWith write = i.exec := by
  cases i <;> first | (cases hs; done) | rfl

lemma Insn.irqsPending_of_not_stores {i : Insn} (hs : i.Stores = false) {s t : Cpu σ}
    (h : i.exec s = .ok ((), t)) : t.irqsPending = s.irqsPending := by
  have keep (s t : Cpu σ) (h : t.core = s.core) : SameOn Cpu.irqsPending s t :=
    show t.core.lines.irqsPending = s.core.lines.irqsPending by rw [h]
  by_cases hc : i.WritesCc = true
  · exact Insn.steps_exec_cc keep hc (fun _ _ _ => rfl) h
  · have hswi : i.IsSwi = false := by
      cases i <;> first | rfl | cases hs
    exact Insn.steps_exec_plain keep (fun h' => absurd (h'.symm.trans hs) (by decide))
      (by simp [Insn.Plain, hc, hswi]) (fun _ _ _ => rfl) _ _ _ h

/-! ## Precision -/

omit [Host δ] in
/-- A boundary with `I` clear and nothing deliverable. -/
lemma Ready.of_quiet {s : Eon2Cpu δ} (hsrc : s.mux.src = 1) (hm : s.irqMasked = false)
    (hq : s.Quiet) : Ready s := by
  have hI : s.EFI &&& I_FLAG = 0 := not_not.mp fun h => by
    exact absurd (hm.symm.trans (decide_eq_true h)) (by decide)
  refine ⟨hsrc, hI, ?_⟩
  exact (Cpu.irqDeliverable_eq_false.mp hq.1).resolve_right (not_not.mpr hI)

/-- What the instruction has done when it is complete, and what is left for the boundary. -/
lemma Insn.completes {i : Insn} (hi : i.LoadsPcLast = false) {u v : Eon2Cpu δ} (hu : Ready u)
    (h : i.execWith lastWrite u = .ok ((), v)) :
    i.execWith latchWrite u = .ok ((), v) ∧
    (v.irqDeliverable = false ∧ i.exec u = .ok ((), v) ∨
      v.irqDeliverable = true ∧ Took () v (i.exec u)) := by
  cases hs : i.Stores with
  | false =>
    rw [Insn.execWith_of_not_stores hs] at h ⊢
    refine ⟨h, Or.inl ⟨Cpu.irqDeliverable_eq_false.mpr (Or.inl ?_), h⟩⟩
    exact (Insn.irqsPending_of_not_stores hs h).trans hu.none
  | true =>
    obtain ⟨hlatch, hcase⟩ := Insn.defers_execWith hs hi u () v hu h
    simp only [Insn.execWith_wrmem] at hcase
    refine ⟨hlatch, hcase.imp_left fun hr => ⟨?_, hr.2⟩⟩
    exact Cpu.irqDeliverable_eq_false.mpr (Or.inl hr.1.none)

/-- A write that requests an IRQ with `I` clear enters the handler at once: the context is that of
the moment, with the byte written. -/
lemma wrmem_immediate {s t : Eon2Cpu δ} {a d : Unsigned} (hsrc : s.mux.src = 1)
    (hm : s.irqMasked = false) (h : wrmem a d s = .ok ((), t))
    (hreq : .requestIrq 1 ∈ (Machine.write8 s.view s.world a (d.setWidth 8)).effects) :
    ∃ v w : Eon2Cpu δ, SameMachine v (Cpu.pendIrq 1
        { s with world := (Machine.write8 s.view s.world a (d.setWidth 8)).world }) ∧
      irqWith (writeN (Machine.nesting (Bus (Io Eon2 δ)))) v = .ok ((), w) ∧ SameMachine t w := by
  have hI : s.EFI &&& I_FLAG = 0 := not_not.mp fun h0 => by
    exact absurd (hm.symm.trans (decide_eq_true h0)) (by decide)
  obtain ⟨r, s₁, h₁, k₁⟩ := bind_eq_ok.mp h
  cases h₁
  change (s.world.cpuWrite8 s.view a (d.setWidth 8)).effects.forM
    (effectWith (writeN (Machine.nesting (Bus (Io Eon2 δ))))) _ = _ at k₁
  change _ ∈ (s.world.cpuWrite8 s.view a (d.setWidth 8)).effects at hreq
  obtain ⟨-, l, hl⟩ | ⟨reg, l, l', -, hl⟩ := Eon2.cpuWrite8_mux s.view s.world a (d.setWidth 8)
  · rw [hl] at hreq
    obtain ⟨x, -, hx⟩ := List.mem_map.mp hreq
    cases hx
  · have hsrc' : (s.world.io.dev.imux.setReg reg (d.setWidth 8)).src = 1 :=
      (MuxOp.apply_src (.write reg (d.setWidth 8)) s.mux).trans hsrc
    simp only [Imux.refresh, hsrc', if_true] at hl
    split_ifs at hl with hact
    · rw [hl, forM_between fun _ => rfl] at k₁
      obtain ⟨_, s₂, h₂, k₂⟩ := bind_eq_ok.mp k₁
      obtain ⟨_, s₃, h₃, k₃⟩ := bind_eq_ok.mp k₂
      obtain ⟨on, n, rfl⟩ := signals_eq_ok h₂
      obtain ⟨h1, -⟩ | ⟨-, w, hw, rfl⟩ := requestIrqWith_eq_ok h₃
      · exact absurd hI h1
      · have hback : SameMachine t (w.record (.requested w.snapshot)) := signals_keep k₃
        refine ⟨_, w, ?_, hw, hback⟩
        rfl
    · rw [hl] at hreq
      simp at hreq

/-- **When the interrupt of a store is precise.**  On the EON2, at every boundary with `I` clear:
an instruction that is not a call or a software interrupt, and whose write that requests an IRQ, if
there is one, is its last write, leaves the machine as if all its register changes and writes had
been completed first and an IRQ then pending had been taken at the boundary.  Wherever the
requesting write stands, the handler is entered inside it, with the registers of that moment. -/
theorem store_interrupt_precise :
    (∀ s : Eon2Cpu δ, s.mux.src = 1 → s.irqMasked = false → s.Quiet → ∀ i u,
      cpuFetch s = .ok (i, u) → i.LoadsPcLast = false → RequestsLast i u →
      (∀ t, preciseBody s = .ok (i, t) → ∃ t', cpuBody s = .ok (i, t') ∧ SameMachine t' t) ∧
      ∀ t', cpuBody s = .ok (i, t') → ∃ t, preciseBody s = .ok (i, t) ∧ SameMachine t' t) ∧
    ∀ (s t : Eon2Cpu δ) (a d : Unsigned), s.mux.src = 1 → s.irqMasked = false →
      wrmem a d s = .ok ((), t) →
      .requestIrq 1 ∈ (Machine.write8 s.view s.world a (d.setWidth 8)).effects →
      ∃ v w : Eon2Cpu δ, SameMachine v (Cpu.pendIrq 1
          { s with world := (Machine.write8 s.view s.world a (d.setWidth 8)).world }) ∧
        irqWith (writeN (Machine.nesting (Bus (Io Eon2 δ)))) v = .ok ((), w) ∧
        SameMachine t w := by
  refine ⟨fun s hsrc hm hq i u hf hi hlast => ?_, fun s t a d => wrmem_immediate⟩
  have hu := (Ready.of_quiet hsrc hm hq).keep (keeps_cpuFetch _ _ _ hf)
  obtain ⟨v, hv⟩ := hlast
  obtain ⟨hlatch, hcase⟩ := Insn.completes hi hu hv
  have hprecise : preciseBody s = (do
      whenever v.irqDeliverable (irqWith (writeN (Machine.nesting (Bus (Io Eon2 δ)))))
      return i : M (Bus (Io Eon2 δ)) Insn) v := by
    rw [preciseBody, ok_bind hf, ok_bind hlatch]
    rfl
  have hbody : cpuBody s = (do
      i.exec
      return i : M (Bus (Io Eon2 δ)) Insn) u := by
    rw [cpuBody, ok_bind hf]
  rw [hprecise, hbody]
  obtain ⟨hd, hcode⟩ | ⟨hd, htook⟩ := hcase
  · -- nothing waits
    rw [ok_bind hcode, hd]
    refine ⟨fun t ht => ?_, fun t ht => ?_⟩
    · cases ht
      exact ⟨v, rfl, rfl⟩
    · cases ht
      exact ⟨v, rfl, rfl⟩
  · rw [hd]
    refine ⟨fun t ht => ?_, fun t' ht' => ?_⟩
    · obtain ⟨_, w, hw, hk⟩ := bind_eq_ok.mp ht
      cases hk
      obtain ⟨x, hx, hsame⟩ := htook.1 _ hw
      exact ⟨x, bind_eq_ok.mpr ⟨(), x, hx, rfl⟩, hsame⟩
    · obtain ⟨_, x, hx, hk⟩ := bind_eq_ok.mp ht'
      cases hk
      obtain ⟨w, hw⟩ := htook.2 _ _ hx
      obtain ⟨y, hy, hsame⟩ := htook.1 _ hw
      obtain rfl : y = t' := congrArg Prod.snd (Except.ok.inj (hy.symm.trans hx))
      exact ⟨w, bind_eq_ok.mpr ⟨(), w, whenever_eq_ok.mpr (Or.inl ⟨rfl, hw⟩), rfl⟩, hsame⟩

/-! ## Where it is not -/

/-- The EON2 with a program, `I` clear and the multiplexer given; the MMU is set to slot 5. -/
def withMux (m : Imux) (prog : List U8) : Eon2Cpu Bare :=
  let b := eon2Bus prog
  { Cpu.zeroed (b.setDev { b.io.dev with imux := m, globalRegs := fun _ => 5 }) with
    A := 1, B := 1, S := 0x8000 }

/-- `STA IMUX_ENB` enables the pending line 0. -/
def staEnb : Eon2Cpu Bare := withMux ⟨0, 1, 1⟩ [0xb7, 0xff, 0x18]

/-- `STD IMUX_ENB` enables the pending line 0 with its first byte and acknowledges it with the
second. -/
def stdEnb : Eon2Cpu Bare := withMux ⟨0, 1, 1⟩ [0xfd, 0xff, 0x18]

/-- `JSR $0100` at `0201`, with the return address pushed to the multiplexer: its high byte enables
the pending line 1. -/
def jsrEnb : Eon2Cpu Bare :=
  { withMux ⟨0, 2, 1⟩ (List.replicate 0x201 0 ++ [0xbd, 0x01, 0x00]) with PC := 0x201, S := 0xff1a }

/-- If one instruction leaves the machine as the precise behaviour does, it leaves the same `PC`. -/
lemma PC_of_precise {s : Eon2Cpu Bare} {i : Insn}
    (h : ∀ i t, preciseBody s = .ok (i, t) → ∃ t', cpuBody s = .ok (i, t') ∧ SameMachine t' t)
    (hi : result preciseBody s = some i) : (after cpuBody s).PC = (after preciseBody s).PC := by
  obtain ⟨t', ht', hsame⟩ := h i _ (eq_ok_after hi)
  have hafter : after cpuBody s = t' := by
    rw [after, ht']
  rw [hafter]
  change t'.machine.PC = (after preciseBody s).machine.PC
  rw [show t'.machine = _ from hsame]

/-- At a boundary with `I` clear and nothing waiting, the code does not do what the precise machine
does. -/
def Imprecise (s : Eon2Cpu Bare) : Prop :=
  s.mux.src = 1 ∧ s.irqMasked = false ∧ s.Quiet ∧
    ¬∀ i t, preciseBody s = .ok (i, t) → ∃ t', cpuBody s = .ok (i, t') ∧ SameMachine t' t

/-- The IRQ is taken although the store has acknowledged the line by its end; and the `JSR` takes
control from the handler that was entered inside it. -/
theorem store_interrupt_imprecise : Imprecise stdEnb ∧ Imprecise jsrEnb := by
  constructor
  · refine ⟨rfl, by decide, ⟨by decide, by decide⟩, fun h => ?_⟩
    exact absurd (PC_of_precise h (i := .std (.extended 5)) (by decide +kernel)) (by decide +kernel)
  · refine ⟨rfl, by decide, ⟨by decide, by decide⟩, fun h => ?_⟩
    exact absurd (PC_of_precise h (i := .jsr (.extended 8)) (by decide +kernel)) (by decide +kernel)

/-- The byte store is precise: its write is the last thing it does. -/
theorem store_interrupt_precise_sta :
    ∃ t', cpuBody staEnb = .ok (.st8 .A (.extended 5), t') ∧
      SameMachine t' (after preciseBody staEnb) :=
  ((store_interrupt_precise (δ := Bare)).1 staEnb rfl (by decide) ⟨by decide, by decide⟩
    (.st8 .A (.extended 5)) (after cpuFetch staEnb) (eq_ok_after (by decide +kernel)) rfl
    ⟨_, eq_ok_after (a := ()) (by decide +kernel)⟩).1 _ (eq_ok_after (by decide +kernel))

end Exec09
