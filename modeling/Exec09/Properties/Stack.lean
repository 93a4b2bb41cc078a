import Exec09.Cpu.Flat
import Exec09.Framework.RingStack
import Exec09.Properties.Interrupts
import Exec09.Properties.Memory
import Exec09.Properties.Widths

/-!
# Stack discipline

Push order, pull order and byte order are written out in ten functions of `6809.c`.  Here each of
them gets one specification in terms of the list of bytes on the stack: an opener puts the bytes of
its frame in front of the list, and the matching closer takes them off and loads the registers from
them.  Nesting is then an induction over the frames of a run (`Balanced`), with the stacked bytes of
the frames around as the invariant.
-/

namespace Exec09

open Program RingStack

variable {σ : Type} [Machine σ]

/-! ## Ordinary RAM -/

/-- Addresses that are ordinary RAM without aliasing, in the worlds `Ok`: `mem` is what is stored
there, a write changes one byte and works no interrupt line, and a read changes nothing. -/
structure StackRam (σ : Type) [Machine σ] where
  Ram : Unsigned → Prop
  Ok : σ → Prop
  mem : σ → Unsigned → U8
  val : ∀ {w v a}, Ok w → Ram a → (Machine.read8 v w a).val = mem w a
  read8 : ∀ {w v a}, Ok w → Ok (Machine.read8 v w a).world ∧
    ∀ b, Ram b → mem (Machine.read8 v w a).world b = mem w b
  read16 : ∀ {w v a}, Ok w → Ok (Machine.read16 v w a).world ∧
    ∀ b, Ram b → mem (Machine.read16 v w a).world b = mem w b
  signals : ∀ {w v a d}, Ok w → Ram a →
    ∃ l : List Signal, (Machine.write8 v w a d).effects = l.map .signal
  write : ∀ {w v a d}, Ok w → Ram a → Ok (Machine.write8 v w a d).world ∧
    ∀ b, Ram b → mem (Machine.write8 v w a d).world b = if b = a then d else mem w b

/-- The registers a frame can save. -/
structure Context where
  A : Unsigned
  B : Unsigned
  DP : Unsigned
  X : Unsigned
  Y : Unsigned
  U : Unsigned
  PC : Unsigned
  cc : Unsigned
  deriving DecidableEq, Repr

omit [Machine σ] in
def Cpu.context (s : Cpu σ) : Context where
  A := s.A
  B := s.B
  DP := s.DP
  X := s.X
  Y := s.Y
  U := s.U
  PC := s.PC
  cc := s.getCc

section Ram

variable (r : StackRam σ)

/-- The stack holds the bytes of `l`, all of them in RAM. -/
structure Stacked (s : Cpu σ) (l : List U8) : Prop where
  ok : r.Ok s.world
  word : Word s.S
  ram : ∀ i < l.length, r.Ram (above s.S i)
  holds : Holds (r.mem s.world) s.S l

/-- The `k` bytes under `S` are RAM. -/
def Room (S : Unsigned) (k : Nat) : Prop := ∀ i, 1 ≤ i → i ≤ k → r.Ram (below S i)

variable {r}

lemma Stacked.world {s t : Cpu σ} {l : List U8} (h : Stacked r s l) (hS : t.S = s.S)
    (hok : r.Ok t.world)
    (hm : ∀ i < l.length, r.mem t.world (above s.S i) = r.mem s.world (above s.S i)) :
    Stacked r t l := by
  refine ⟨hok, hS ▸ h.word, fun i hi => hS ▸ h.ram i hi, ?_⟩
  rw [hS]
  exact h.holds.congr hm

/-- A read leaves the stack as it is. -/
lemma Stacked.rdmem {s t : Cpu σ} {l : List U8} {a x : Unsigned} (h : Stacked r s l)
    (hr : rdmem a s = .ok (x, t)) : Stacked r t l ∧ t.S = s.S ∧ t.context = s.context := by
  obtain ⟨-, on, n, rfl⟩ := rdmem_eq_ok hr
  obtain ⟨hok, hm⟩ := r.read8 (v := s.view) (a := a) h.ok
  exact ⟨h.world rfl hok fun i hi => hm _ (h.ram i hi), rfl, rfl⟩

lemma Stacked.read16 {s t : Cpu σ} {l : List U8} {a x : Unsigned} (h : Stacked r s l)
    (hr : read16 a s = .ok (x, t)) : Stacked r t l ∧ t.S = s.S ∧ t.context = s.context := by
  obtain ⟨-, on, n, rfl⟩ := read16_eq_ok hr
  obtain ⟨hok, hm⟩ := r.read16 (v := s.view) (a := a) h.ok
  exact ⟨h.world rfl hok fun i hi => hm _ (h.ram i hi), rfl, rfl⟩

/-- A write to RAM that returns changes one byte and no register. -/
lemma StackRam.wrmem {s t : Cpu σ} {a d : Unsigned} (hok : r.Ok s.world) (ha : r.Ram a)
    (hw : wrmem a d s = .ok ((), t)) :
    r.Ok t.world ∧ (∀ b, r.Ram b →
      r.mem t.world b = if b = a then d.setWidth 8 else r.mem s.world b) ∧
      t.S = s.S ∧ t.context = s.context := by
  obtain ⟨l, hl⟩ := r.signals (v := s.view) (d := d.setWidth 8) hok ha
  obtain ⟨hok', hm⟩ := r.write (v := s.view) (d := d.setWidth 8) hok ha
  rw [Exec09.wrmem, writeN] at hw
  obtain ⟨x, u, hu, hw⟩ := bind_eq_ok.mp hw
  cases hu
  change (Machine.write8 s.view s.world a (d.setWidth 8)).effects.forM
    (effectWith (writeN (Machine.nesting σ)) : Effect → M σ Unit) _ = _ at hw
  rw [hl, forM_signal] at hw
  obtain ⟨on, n, rfl⟩ := signals_eq_ok hw
  exact ⟨hok', hm, rfl, rfl⟩

/-! ## Pushing -/

/-- The bytes `q` of a frame have been pushed on top of `l` from `S₀` on, there is room for `k` more,
and the registers are those of `c`. -/
structure Framing (r : StackRam σ) (c : Context) (S₀ : Unsigned) (l q : List U8) (k : Nat)
    (s : Cpu σ) : Prop where
  context : s.context = c
  top : s.S = below S₀ q.length
  stacked : Stacked r s (q ++ l)
  room : Room r S₀ (q.length + k)
  size : l.length + (q.length + k) < 65536

variable {c : Context} {S₀ : Unsigned} {l q : List U8} {k : Nat}

/-- A write just under the stack, and the stack pointer moved to it. -/
lemma Framing.byte {s t : Cpu σ} {b : U8} (h : Framing r c S₀ l q (k + 1) s)
    (hc : t.context = c) (hS : t.S = below s.S 1) (hok : r.Ok t.world)
    (hm : ∀ a, r.Ram a → r.mem t.world a = if a = below s.S 1 then b else r.mem s.world a) :
    Framing r c S₀ l (b :: q) k t := by
  have hlen : (q ++ l).length = q.length + l.length := List.length_append
  have hsize := h.size
  have htop : t.S = below S₀ (q.length + 1) := by
    rw [hS, h.top, below_below S₀ (by omega)]
  have hram : r.Ram t.S := by
    rw [htop]
    exact h.room (q.length + 1) (by omega) (by omega)
  have habove : ∀ i, above t.S (i + 1) = above s.S i := by
    intro i
    rw [hS, Nat.add_comm, above_below s.S (by decide)]
  have hkeep : ∀ i < (q ++ l).length, r.mem t.world (above s.S i) = r.mem s.world (above s.S i) := by
    intro i hi
    rw [hm _ (h.stacked.ram i hi), if_neg]
    have hne := above_ne t.S (i := 0) (j := i + 1) (by omega) (by omega)
    rw [habove, above_zero (hS ▸ below_lt s.S 1), hS] at hne
    exact hne.symm
  refine ⟨hc, htop, ⟨hok, hS ▸ below_lt s.S 1, fun i hi => ?_, ?_⟩, ?_, ?_⟩
  · cases i with
    | zero =>
      rw [above_zero (hS ▸ below_lt s.S 1)]
      exact hram
    | succ i =>
      rw [habove]
      exact h.stacked.ram i (Nat.lt_of_succ_lt_succ hi)
  · rw [hS]
    refine h.stacked.holds.push ?_ hkeep
    rw [hm _ (hS ▸ hram), if_pos rfl]
  · intro i hi hi'
    exact h.room i hi (by rw [List.length_cons] at hi'; omega)
  · rw [List.length_cons]
    omega

lemma framed_pushS8 (d : Unsigned) :
    Triple (Framing r c S₀ l q (k + 1)) (pushS8 d) fun _ => Framing r c S₀ l (d.setWidth 8 :: q) k := by
  intro s hs _ t ht
  obtain ⟨_, u, hu, ht⟩ := bind_eq_ok.mp ht
  cases hu
  obtain ⟨_, u, hu, ht⟩ := bind_eq_ok.mp ht
  cases hu
  have hram : r.Ram (below s.S 1) := by
    rw [hs.top, below_below S₀ (by have := hs.size; omega)]
    exact hs.room _ (by omega) (by omega)
  obtain ⟨hok, hm, hS, hc⟩ := StackRam.wrmem (s := { s with S := below s.S 1 }) hs.stacked.ok hram ht
  exact hs.byte (hc.trans hs.context) hS hok hm

/-- The high byte of a word. -/
def hiByte (d : Unsigned) : U8 := (d >>> 8).setWidth 8

/-- The low byte of a word. -/
def loByte (d : Unsigned) : U8 := (d &&& 0xff).setWidth 8

/-- A word is pushed low byte first. -/
lemma framed_pushS16 (d : Unsigned) :
    Triple (Framing r c S₀ l q (k + 2)) (pushS16 d) fun _ =>
      Framing r c S₀ l (hiByte d :: loByte d :: q) k := by
  intro s hs _ t ht
  obtain ⟨_, u, hu, ht⟩ := bind_eq_ok.mp ht
  cases hu
  obtain ⟨_, u, hu, ht⟩ := bind_eq_ok.mp ht
  cases hu
  obtain ⟨_, u, hlo, ht⟩ := bind_eq_ok.mp ht
  have hsize := hs.size
  have hlow : ((s.S - 2) &&& 0xffff) + 1 &&& 0xffff = below s.S 1 :=
    above_of_below s.S (i := 1) (j := 1) (by decide)
  have hram : r.Ram (below s.S 1) := by
    rw [hs.top, below_below S₀ (by omega)]
    exact hs.room _ (by omega) (by omega)
  rw [hlow] at hlo
  obtain ⟨hok, hm, hS, hc⟩ :=
    StackRam.wrmem (s := { s with S := (s.S - 2) &&& 0xffff }) hs.stacked.ok hram hlo
  -- the state with the low byte only
  have hfirst : Framing r c S₀ l (loByte d :: q) (k + 1) { u with S := below s.S 1 } :=
    hs.byte (hc.trans hs.context) rfl hok hm
  have hnext : below (below s.S 1) 1 = (s.S - 2) &&& 0xffff := below_below s.S (by decide)
  have hram' : r.Ram ((s.S - 2) &&& 0xffff) := by
    rw [← hnext, hs.top, below_below S₀ (by omega), below_below S₀ (by omega)]
    exact hs.room _ (by omega) (by omega)
  obtain ⟨hok', hm', hS', hc'⟩ := StackRam.wrmem (s := u) hok hram' ht
  refine hfirst.byte (hc'.trans (hc.trans hs.context)) ?_ hok' fun a ha => ?_
  · rw [hS', hS]
    exact hnext.symm
  · rw [hm' a ha]
    change _ = if a = below (below s.S 1) 1 then _ else _
    rw [hnext]
    rfl

/-! ## Frames -/

/-- A field of a frame that the mask may leave out. -/
def field (p : Prop) [Decidable p] (bytes : List U8) : List U8 := if p then bytes else []

/-- The bytes of a frame with the registers that the mask selects, in the order they are pulled. -/
def Context.bytes (c : Context) (m : Unsigned) : List U8 :=
  [ field (m &&& 0x01 ≠ 0) [c.cc.setWidth 8],
    field (m &&& 0x02 ≠ 0) [c.A.setWidth 8],
    field (m &&& 0x04 ≠ 0) [c.B.setWidth 8],
    field (m &&& 0x08 ≠ 0) [(c.DP >>> 8).setWidth 8],
    field (m &&& 0x10 ≠ 0) [hiByte c.X, loByte c.X],
    field (m &&& 0x20 ≠ 0) [hiByte c.Y, loByte c.Y],
    field (m &&& 0x40 ≠ 0) [hiByte c.U, loByte c.U],
    field (m &&& 0x80 ≠ 0) [hiByte (c.PC &&& 0xffff), loByte (c.PC &&& 0xffff)] ].flatten

/-- A register read while a frame is pushed. -/
lemma framed_reads {f : Cpu σ → Unsigned} {x : Unsigned} {m : Unsigned → M σ Unit}
    {Q : Unit → Cpu σ → Prop} (hf : ∀ s : Cpu σ, s.context = c → f s = x)
    (hm : Triple (Framing r c S₀ l q k) (m x) Q) :
    Triple (Framing r c S₀ l q k) (do m (← reads f)) Q := by
  intro s hs a t ht
  obtain ⟨v, u, hu, ht⟩ := bind_eq_ok.mp ht
  cases hu
  rw [hf s hs.context] at ht
  exact hm s hs a t ht

lemma framed_tick (n : Int) :
    Triple (Framing r c S₀ l q k) (tick n) fun _ => Framing r c S₀ l q k :=
  Triple.modify fun _ hs => ⟨hs.context, hs.top, ⟨hs.stacked.ok, hs.stacked.word, hs.stacked.ram,
    hs.stacked.holds⟩, hs.room, hs.size⟩

/-- One line of `pshs`. -/
lemma framed_field {p : Prop} [Decidable p] {n : Int} {m : M σ Unit} {bytes : List U8}
    (hm : Triple (Framing r c S₀ l q (k + bytes.length)) m fun _ =>
      Framing r c S₀ l (bytes ++ q) k) :
    Triple (Framing r c S₀ l q (k + (field p bytes).length)) (whenever p do tick n; m) fun _ =>
      Framing r c S₀ l (field p bytes ++ q) k := by
  unfold field
  by_cases hp : p
  · rw [whenever, if_pos hp, if_pos hp]
    exact Triple.bind (framed_tick n) fun _ => hm
  · rw [whenever, if_neg hp, if_neg hp]
    exact Triple.pure fun _ hs => hs

lemma framed_pc : Triple (Framing r c S₀ l q (k + 2)) (do pushS16 ((← reads Cpu.PC) &&& 0xffff))
    fun _ => Framing r c S₀ l (hiByte (c.PC &&& 0xffff) :: loByte (c.PC &&& 0xffff) :: q) k :=
  framed_reads (m := fun v => pushS16 (v &&& 0xffff)) (fun _ hs => congrArg Context.PC hs)
    (framed_pushS16 _)
lemma framed_u : Triple (Framing r c S₀ l q (k + 2)) (do pushS16 (← reads Cpu.U)) fun _ =>
    Framing r c S₀ l (hiByte c.U :: loByte c.U :: q) k :=
  framed_reads (fun _ hs => congrArg Context.U hs) (framed_pushS16 _)
lemma framed_y : Triple (Framing r c S₀ l q (k + 2)) (do pushS16 (← reads Cpu.Y)) fun _ =>
    Framing r c S₀ l (hiByte c.Y :: loByte c.Y :: q) k :=
  framed_reads (fun _ hs => congrArg Context.Y hs) (framed_pushS16 _)
lemma framed_x : Triple (Framing r c S₀ l q (k + 2)) (do pushS16 (← reads Cpu.X)) fun _ =>
    Framing r c S₀ l (hiByte c.X :: loByte c.X :: q) k :=
  framed_reads (fun _ hs => congrArg Context.X hs) (framed_pushS16 _)
lemma framed_dp : Triple (Framing r c S₀ l q (k + 1)) (do pushS8 ((← reads Cpu.DP) >>> 8)) fun _ =>
    Framing r c S₀ l ((c.DP >>> 8).setWidth 8 :: q) k :=
  framed_reads (m := fun v => pushS8 (v >>> 8)) (fun _ hs => congrArg Context.DP hs) (framed_pushS8 _)
lemma framed_b : Triple (Framing r c S₀ l q (k + 1)) (do pushS8 (← reads Cpu.B)) fun _ =>
    Framing r c S₀ l (c.B.setWidth 8 :: q) k :=
  framed_reads (fun _ hs => congrArg Context.B hs) (framed_pushS8 _)
lemma framed_a : Triple (Framing r c S₀ l q (k + 1)) (do pushS8 (← reads Cpu.A)) fun _ =>
    Framing r c S₀ l (c.A.setWidth 8 :: q) k :=
  framed_reads (fun _ hs => congrArg Context.A hs) (framed_pushS8 _)
lemma framed_cc : Triple (Framing r c S₀ l q (k + 1)) (do pushS8 (← reads Cpu.getCc)) fun _ =>
    Framing r c S₀ l (c.cc.setWidth 8 :: q) k :=
  framed_reads (fun _ hs => congrArg Context.cc hs) (framed_pushS8 _)

/-- **`PSHS` pushes the frame of its mask.** -/
lemma framed_pshsPost (m : Unsigned) :
    Triple (Framing r c S₀ l [] (c.bytes m).length) (pshsPost m) fun _ =>
      Framing r c S₀ l (c.bytes m) 0 := by
  have hlen : (c.bytes m).length = 0 + (field (m &&& 0x01 ≠ 0) [c.cc.setWidth 8]).length +
      (field (m &&& 0x02 ≠ 0) [c.A.setWidth 8]).length +
      (field (m &&& 0x04 ≠ 0) [c.B.setWidth 8]).length +
      (field (m &&& 0x08 ≠ 0) [(c.DP >>> 8).setWidth 8]).length +
      (field (m &&& 0x10 ≠ 0) [hiByte c.X, loByte c.X]).length +
      (field (m &&& 0x20 ≠ 0) [hiByte c.Y, loByte c.Y]).length +
      (field (m &&& 0x40 ≠ 0) [hiByte c.U, loByte c.U]).length +
      (field (m &&& 0x80 ≠ 0) [hiByte (c.PC &&& 0xffff), loByte (c.PC &&& 0xffff)]).length := by
    simp only [Context.bytes, List.length_flatten, List.map_cons, List.map_nil, List.sum_cons,
      List.sum_nil]
    omega
  rw [hlen]
  exact Triple.bind (framed_tick 5) fun _ =>
    Triple.bind (framed_field framed_pc) fun _ => Triple.bind (framed_field framed_u) fun _ =>
    Triple.bind (framed_field framed_y) fun _ => Triple.bind (framed_field framed_x) fun _ =>
    Triple.bind (framed_field framed_dp) fun _ => Triple.bind (framed_field framed_b) fun _ =>
    Triple.bind (framed_field framed_a) fun _ => framed_field framed_cc

omit [Machine σ] in
/-- A push of a register, and the rest. -/
lemma triple_reads_then {P Q : Cpu σ → Prop} {f : Cpu σ → Unsigned} {m : Unsigned → M σ Unit}
    {k : M σ Unit} {R : Unit → Cpu σ → Prop} (hm : Triple P (do m (← reads f)) fun _ => Q)
    (hk : Triple Q k R) : Triple P (do m (← reads f); k) R := by
  have hall : Triple P ((reads f >>= m) >>= fun _ => k) R := Triple.bind hm fun _ => hk
  exact hall

/-- The interrupts push all registers. -/
lemma framed_pushAll :
    Triple (Framing r c S₀ l [] (c.bytes 0xff).length) pushAll fun _ =>
      Framing r c S₀ l (c.bytes 0xff) 0 :=
  triple_reads_then (m := fun v => pushS16 (v &&& 0xffff)) framed_pc <|
  triple_reads_then framed_u <| triple_reads_then framed_y <| triple_reads_then framed_x <|
  triple_reads_then (m := fun v => pushS8 (v >>> 8)) framed_dp <| triple_reads_then framed_b <|
  triple_reads_then framed_a framed_cc

/-! ## Pulling -/

/-- The bytes `q` of a frame are still to be pulled from on top of `l`, which begins at `S₀`, and the
registers are those of `c`. -/
structure Pulling (r : StackRam σ) (c : Context) (S₀ : Unsigned) (l q : List U8) (s : Cpu σ) :
    Prop where
  context : s.context = c
  top : s.S = below S₀ q.length
  stacked : Stacked r s (q ++ l)
  size : q.length < 65536

/-- A read of the stack, and the stack pointer moved up. -/
lemma Pulling.byte {s t : Cpu σ} {b : U8} (h : Pulling r c S₀ l (b :: q) s) (hc : t.context = c)
    (hS : t.S = above s.S 1) (hok : r.Ok t.world)
    (hm : ∀ a, r.Ram a → r.mem t.world a = r.mem s.world a) : Pulling r c S₀ l q t := by
  have hsize : q.length + 1 < 65536 := h.size
  have hup : ∀ i, above t.S i = above s.S (i + 1) := by
    intro i
    apply BitVec.eq_of_toNat_eq
    rw [hS, toNat_above, toNat_above, toNat_above]
    omega
  have htop : t.S = below S₀ q.length := by
    rw [hS, h.top]
    exact above_of_below S₀ (i := q.length) (j := 1) (by omega)
  have hram : ∀ i < (q ++ l).length, r.Ram (above t.S i) := by
    intro i hi
    rw [hup]
    exact h.stacked.ram (i + 1) (Nat.succ_lt_succ hi)
  refine ⟨hc, htop, ⟨hok, htop ▸ below_lt S₀ q.length, hram, ?_⟩, by omega⟩
  have hold : Holds (r.mem s.world) t.S (q ++ l) := by
    rw [hS]
    exact h.stacked.holds.pull.2
  exact hold.congr fun i hi => hm _ (hram i hi)

lemma Pulling.rdmem {s t : Cpu σ} {a x : Unsigned} (h : Pulling r c S₀ l q s)
    (ht : Exec09.rdmem a s = .ok (x, t)) : Pulling r c S₀ l q t ∧ t.S = s.S := by
  obtain ⟨hst, hS, hc⟩ := h.stacked.rdmem ht
  exact ⟨⟨hc.trans h.context, hS.trans h.top, hst, h.size⟩, hS⟩

/-- What is read from the stack pointer on. -/
lemma Pulling.val {s t : Cpu σ} {b : U8} {x : Unsigned} (h : Pulling r c S₀ l (b :: q) s)
    (ht : Exec09.rdmem s.S s = .ok (x, t)) : x = b.setWidth 32 := by
  have h0 := above_zero h.stacked.word
  have hram : r.Ram s.S := h0 ▸ h.stacked.ram 0 (Nat.zero_lt_succ _)
  have hb : r.mem s.world s.S = b := h0 ▸ h.stacked.holds.pull.1
  rw [(rdmem_eq_ok ht).1, r.val h.stacked.ok hram, hb]

lemma pulling_pullS8 {b : U8} :
    Triple (Pulling r c S₀ l (b :: q)) pullS8 fun v s =>
      v = b.setWidth 32 ∧ Pulling r c S₀ l q s := by
  intro s hs v t ht
  obtain ⟨_, u, hu, ht⟩ := bind_eq_ok.mp ht
  cases hu
  obtain ⟨x, u, hx, ht⟩ := bind_eq_ok.mp ht
  cases ht
  obtain ⟨hu, hS⟩ := hs.rdmem hx
  refine ⟨hs.val hx, ?_⟩
  refine Pulling.byte (s := u) hu hu.context rfl hu.stacked.ok fun _ _ => rfl

lemma pulling_pullS16 {hi lo : U8} :
    Triple (Pulling r c S₀ l (hi :: lo :: q)) pullS16 fun v s =>
      v = wordOf hi lo ∧ Pulling r c S₀ l q s := by
  intro s hs v t ht
  obtain ⟨_, u, hu, ht⟩ := bind_eq_ok.mp ht
  cases hu
  obtain ⟨x, w, hx, ht⟩ := bind_eq_ok.mp ht
  cases ht
  obtain ⟨h, u, hhi, hx⟩ := bind_eq_ok.mp hx
  obtain ⟨h', u', hlo, hx⟩ := bind_eq_ok.mp hx
  cases hx
  obtain ⟨hu, hS⟩ := hs.rdmem hhi
  obtain ⟨hu', hS'⟩ := hu.rdmem hlo
  have hvlo : h' = lo.setWidth 32 := by
    have hram : r.Ram (above u.S 1) := hu.stacked.ram 1 (by simp)
    have hb : r.mem u.world (above u.S 1) = lo := hu.stacked.holds 1 (by simp)
    rw [← hS] at hlo
    rw [(rdmem_eq_ok hlo).1]
    change BitVec.setWidth 32 (Machine.read8 u.view u.world (above u.S 1)).val = _
    rw [r.val hu.stacked.ok hram, hb]
  refine ⟨?_, ?_⟩
  · rw [hs.val hhi, hvlo]
    rfl
  · have hlast : Pulling r c S₀ l (lo :: q) { w with S := above w.S 1 } :=
      hu'.byte hu'.context rfl hu'.stacked.ok fun _ _ => rfl
    refine hlast.byte hlast.context ?_ hlast.stacked.ok fun _ _ => rfl
    change (w.S + 2) &&& 0xffff = above (above w.S 1) 1
    apply BitVec.eq_of_toNat_eq
    rw [toNat_above, toNat_above]
    exact (toNat_above w.S 2).trans (by omega)

/-- A register is loaded. -/
lemma pulling_modify {g : Cpu σ → Cpu σ} {f : Context → Context}
    (hc : ∀ s, (g s).context = f s.context) (hS : ∀ s, (g s).S = s.S)
    (hw : ∀ s, (g s).world = s.world) :
    Triple (Pulling r c S₀ l q) (modify g : M σ Unit) fun _ => Pulling r (f c) S₀ l q := by
  refine Triple.modify fun s hs => ⟨?_, (hS s).trans hs.top, ?_, hs.size⟩
  · rw [hc, hs.context]
  · exact hs.stacked.world (hS s) (hw s ▸ hs.stacked.ok) fun i hi => by rw [hw]

lemma pulling_tick (n : Int) :
    Triple (Pulling r c S₀ l q) (tick n) fun _ => Pulling r c S₀ l q :=
  pulling_modify (f := id) (fun _ => rfl) (fun _ => rfl) fun _ => rfl

lemma pulling_setCc (b : U8) : Triple (Pulling r c S₀ l q) (setCc (b.setWidth 32)) fun _ =>
    Pulling r { c with cc := b.setWidth 32 } S₀ l q := by
  refine pulling_modify (f := fun c => { c with cc := b.setWidth 32 }) (fun s => ?_) (fun _ => rfl)
    fun _ => rfl
  have hcc := Cpu.getCc_setCc s (b.setWidth 32) (Words.setWidth_lt b)
  simp only [Cpu.context, hcc]
  rfl

section Field

-- A line of `puls`: `y` is what the register becomes if the mask selects it, `x` what it is.
variable {p : Prop} [Decidable p] {n : Int} {m : Unsigned → M σ Unit} {f : Unsigned → Context}
  {x y : Unsigned}

lemma pulling_field8 {b : U8} (hx : f x = c)
    (hm : Triple (Pulling r c S₀ l q) (m (b.setWidth 32)) fun _ => Pulling r (f y) S₀ l q) :
    Triple (Pulling r c S₀ l (field p [b] ++ q)) (whenever p do tick n; m (← pullS8)) fun _ =>
      Pulling r (f (if p then y else x)) S₀ l q := by
  unfold field
  by_cases hp : p
  · simp only [whenever, if_pos hp]
    refine Triple.bind (pulling_tick n) fun _ => Triple.bind pulling_pullS8 fun v s hs => ?_
    rw [hs.1]
    exact hm s hs.2
  · simp only [whenever, if_neg hp, hx]
    exact Triple.pure fun _ hs => hs

lemma pulling_field16 {hi lo : U8} (hx : f x = c)
    (hm : Triple (Pulling r c S₀ l q) (m (wordOf hi lo)) fun _ => Pulling r (f y) S₀ l q) :
    Triple (Pulling r c S₀ l (field p [hi, lo] ++ q)) (whenever p do tick n; m (← pullS16)) fun _ =>
      Pulling r (f (if p then y else x)) S₀ l q := by
  unfold field
  by_cases hp : p
  · simp only [whenever, if_pos hp]
    refine Triple.bind (pulling_tick n) fun _ => Triple.bind pulling_pullS16 fun v s hs => ?_
    rw [hs.1]
    exact hm s hs.2
  · simp only [whenever, if_neg hp, hx]
    exact Triple.pure fun _ hs => hs

end Field

/-- The registers after a frame with the mask has been pulled. -/
def Context.load (b : Context) (m : Unsigned) (c : Context) : Context where
  cc := if m &&& 0x01 ≠ 0 then (b.cc.setWidth 8).setWidth 32 else c.cc
  A := if m &&& 0x02 ≠ 0 then (b.A.setWidth 8).setWidth 32 else c.A
  B := if m &&& 0x04 ≠ 0 then (b.B.setWidth 8).setWidth 32 else c.B
  DP := if m &&& 0x08 ≠ 0 then ((b.DP >>> 8).setWidth 8).setWidth 32 <<< 8 else c.DP
  X := if m &&& 0x10 ≠ 0 then wordOf (hiByte b.X) (loByte b.X) else c.X
  Y := if m &&& 0x20 ≠ 0 then wordOf (hiByte b.Y) (loByte b.Y) else c.Y
  U := if m &&& 0x40 ≠ 0 then wordOf (hiByte b.U) (loByte b.U) else c.U
  PC := if m &&& 0x80 ≠ 0 then wordOf (hiByte (b.PC &&& 0xffff)) (loByte (b.PC &&& 0xffff)) else c.PC

lemma pulling_wrA (v : Unsigned) : Triple (Pulling r c S₀ l q) (wrA v) fun _ =>
    Pulling r { c with A := v } S₀ l q :=
  pulling_modify (f := fun c => { c with A := v }) (fun _ => rfl) (fun _ => rfl) fun _ => rfl
lemma pulling_wrB (v : Unsigned) : Triple (Pulling r c S₀ l q) (wrB v) fun _ =>
    Pulling r { c with B := v } S₀ l q :=
  pulling_modify (f := fun c => { c with B := v }) (fun _ => rfl) (fun _ => rfl) fun _ => rfl
lemma pulling_wrDP (v : Unsigned) : Triple (Pulling r c S₀ l q) (wrDP v) fun _ =>
    Pulling r { c with DP := v <<< 8 } S₀ l q :=
  pulling_modify (f := fun c => { c with DP := v <<< 8 }) (fun _ => rfl) (fun _ => rfl) fun _ => rfl
lemma pulling_wrX (v : Unsigned) : Triple (Pulling r c S₀ l q) (wrX v) fun _ =>
    Pulling r { c with X := v } S₀ l q :=
  pulling_modify (f := fun c => { c with X := v }) (fun _ => rfl) (fun _ => rfl) fun _ => rfl
lemma pulling_wrY (v : Unsigned) : Triple (Pulling r c S₀ l q) (wrY v) fun _ =>
    Pulling r { c with Y := v } S₀ l q :=
  pulling_modify (f := fun c => { c with Y := v }) (fun _ => rfl) (fun _ => rfl) fun _ => rfl
lemma pulling_wrU (v : Unsigned) : Triple (Pulling r c S₀ l q) (wrU v) fun _ =>
    Pulling r { c with U := v } S₀ l q :=
  pulling_modify (f := fun c => { c with U := v }) (fun _ => rfl) (fun _ => rfl) fun _ => rfl
lemma pulling_wrPC (v : Unsigned) : Triple (Pulling r c S₀ l q) (wrPC v) fun _ =>
    Pulling r { c with PC := v } S₀ l q :=
  pulling_modify (f := fun c => { c with PC := v }) (fun _ => rfl) (fun _ => rfl) fun _ => rfl

lemma pulled_cc {p : Prop} [Decidable p] {n : Int} {b : U8} :
    Triple (Pulling r c S₀ l (field p [b] ++ q)) (whenever p do tick n; setCc (← pullS8)) fun _ =>
      Pulling r { c with cc := if p then b.setWidth 32 else c.cc } S₀ l q :=
  pulling_field8 (f := fun v => { c with cc := v }) rfl (pulling_setCc _)

lemma pulled_A {p : Prop} [Decidable p] {n : Int} {b : U8} :
    Triple (Pulling r c S₀ l (field p [b] ++ q)) (whenever p do tick n; wrA (← pullS8)) fun _ =>
      Pulling r { c with A := if p then b.setWidth 32 else c.A } S₀ l q :=
  pulling_field8 (f := fun v => { c with A := v }) rfl (pulling_wrA _)

lemma pulled_B {p : Prop} [Decidable p] {n : Int} {b : U8} :
    Triple (Pulling r c S₀ l (field p [b] ++ q)) (whenever p do tick n; wrB (← pullS8)) fun _ =>
      Pulling r { c with B := if p then b.setWidth 32 else c.B } S₀ l q :=
  pulling_field8 (f := fun v => { c with B := v }) rfl (pulling_wrB _)

lemma pulled_DP {p : Prop} [Decidable p] {n : Int} {b : U8} :
    Triple (Pulling r c S₀ l (field p [b] ++ q)) (whenever p do tick n; wrDP (← pullS8)) fun _ =>
      Pulling r { c with DP := if p then b.setWidth 32 <<< 8 else c.DP } S₀ l q :=
  pulling_field8 (f := fun v => { c with DP := v }) rfl (pulling_wrDP _)

lemma pulled_X {p : Prop} [Decidable p] {n : Int} {hi lo : U8} :
    Triple (Pulling r c S₀ l (field p [hi, lo] ++ q)) (whenever p do tick n; wrX (← pullS16)) fun _ =>
      Pulling r { c with X := if p then wordOf hi lo else c.X } S₀ l q :=
  pulling_field16 (f := fun v => { c with X := v }) rfl (pulling_wrX _)

lemma pulled_Y {p : Prop} [Decidable p] {n : Int} {hi lo : U8} :
    Triple (Pulling r c S₀ l (field p [hi, lo] ++ q)) (whenever p do tick n; wrY (← pullS16)) fun _ =>
      Pulling r { c with Y := if p then wordOf hi lo else c.Y } S₀ l q :=
  pulling_field16 (f := fun v => { c with Y := v }) rfl (pulling_wrY _)

lemma pulled_U {p : Prop} [Decidable p] {n : Int} {hi lo : U8} :
    Triple (Pulling r c S₀ l (field p [hi, lo] ++ q)) (whenever p do tick n; wrU (← pullS16)) fun _ =>
      Pulling r { c with U := if p then wordOf hi lo else c.U } S₀ l q :=
  pulling_field16 (f := fun v => { c with U := v }) rfl (pulling_wrU _)

lemma pulled_PC {p : Prop} [Decidable p] {n : Int} {hi lo : U8} :
    Triple (Pulling r c S₀ l (field p [hi, lo] ++ q)) (whenever p do tick n; wrPC (← pullS16)) fun _ =>
      Pulling r { c with PC := if p then wordOf hi lo else c.PC } S₀ l q :=
  pulling_field16 (f := fun v => { c with PC := v }) rfl (pulling_wrPC _)

/-- **`PULS` loads the registers of its mask.** -/
lemma pulling_pulsPost (b : Context) (m : Unsigned) :
    Triple (Pulling r c S₀ l (b.bytes m)) (pulsPost m) fun _ =>
      Pulling r (b.load m c) S₀ l [] :=
  Triple.bind (pulling_tick 5) fun _ => Triple.bind pulled_cc fun _ => Triple.bind pulled_A fun _ =>
  Triple.bind pulled_B fun _ => Triple.bind pulled_DP fun _ => Triple.bind pulled_X fun _ =>
  Triple.bind pulled_Y fun _ => Triple.bind pulled_U fun _ => pulled_PC

omit [Machine σ] in
lemma Cpu.entireState_eq (s : Cpu σ) : s.entireState = decide (s.context.cc &&& E_FLAG ≠ 0) := by
  change _ = decide (s.getCc &&& E_FLAG ≠ 0)
  rw [s.getCc_and (by decide)]
  rfl

/-- A byte is pulled into a register, and the rest. -/
lemma pulled8_then {m : Unsigned → M σ Unit} {b : U8} {c' : Context} {k : M σ Unit}
    {Q : Unit → Cpu σ → Prop}
    (hm : Triple (Pulling r c S₀ l q) (m (b.setWidth 32)) fun _ => Pulling r c' S₀ l q)
    (hk : Triple (Pulling r c' S₀ l q) k Q) :
    Triple (Pulling r c S₀ l (b :: q)) (do m (← pullS8); k) Q :=
  Triple.bind pulling_pullS8 fun v s hs => by
    rw [hs.1]
    exact Triple.bind hm (fun _ => hk) s hs.2

lemma pulled16 {m : Unsigned → M σ Unit} {hi lo : U8} {c' : Context}
    (hm : Triple (Pulling r c S₀ l q) (m (wordOf hi lo)) fun _ => Pulling r c' S₀ l q) :
    Triple (Pulling r c S₀ l (hi :: lo :: q)) (do m (← pullS16)) fun _ => Pulling r c' S₀ l q :=
  Triple.bind pulling_pullS16 fun v s hs => by
    rw [hs.1]
    exact hm s hs.2

lemma pulled16_then {m : Unsigned → M σ Unit} {hi lo : U8} {c' : Context} {k : M σ Unit}
    {Q : Unit → Cpu σ → Prop}
    (hm : Triple (Pulling r c S₀ l q) (m (wordOf hi lo)) fun _ => Pulling r c' S₀ l q)
    (hk : Triple (Pulling r c' S₀ l q) k Q) :
    Triple (Pulling r c S₀ l (hi :: lo :: q)) (do m (← pullS16); k) Q :=
  Triple.bind pulling_pullS16 fun v s hs => by
    rw [hs.1]
    exact Triple.bind hm (fun _ => hk) s hs.2

lemma pulling_rts (b : Context) :
    Triple (Pulling r c S₀ l (b.bytes 0x80)) rts fun _ => Pulling r (b.load 0x80 c) S₀ l [] :=
  Triple.bind (pulling_tick 5) fun _ => pulled16 (pulling_wrPC _)

/-- The registers `RTI` pulls for a whole frame. -/
lemma pulling_rtiContext (b : Context) :
    Triple (Pulling r c S₀ l (b.A.setWidth 8 :: b.B.setWidth 8 :: (b.DP >>> 8).setWidth 8 ::
      hiByte b.X :: loByte b.X :: hiByte b.Y :: loByte b.Y :: hiByte b.U :: loByte b.U :: q))
      rtiContext fun _ => Pulling r (b.load 0x7e c) S₀ l q :=
  Triple.bind (pulling_tick 9) fun _ =>
  pulled8_then (pulling_wrA _) <| pulled8_then (pulling_wrB _) <| pulled8_then (pulling_wrDP _) <|
  pulled16_then (pulling_wrX _) <| pulled16_then (pulling_wrY _) <| pulled16 (pulling_wrU _)

/-- Which frame `RTI` takes off is decided by the bit `E` of the condition codes in it. -/
lemma pulling_rti {b : Context} {m : Unsigned}
    (hm : m = 0xff ∧ (b.cc.setWidth 8).setWidth 32 &&& E_FLAG ≠ 0 ∨
      m = 0x81 ∧ (b.cc.setWidth 8).setWidth 32 &&& E_FLAG = 0) :
    Triple (Pulling r c S₀ l (b.bytes m)) rti fun _ => Pulling r (b.load m c) S₀ l [] := by
  refine Triple.bind (pulling_tick 6) fun _ => ?_
  obtain ⟨rfl, hE⟩ | ⟨rfl, hE⟩ := hm
  · refine pulled8_then (pulling_setCc _) fun s hs a t ht => ?_
    obtain ⟨e, u, hu, ht⟩ := bind_eq_ok.mp ht
    cases hu
    have hset : s.entireState = true := by
      rw [s.entireState_eq, hs.context]
      exact decide_eq_true hE
    rw [hset] at ht
    exact Triple.bind (pulling_rtiContext b) (fun _ => pulled16 (pulling_wrPC _)) s hs a t ht
  · refine pulled8_then (pulling_setCc _) fun s hs a t ht => ?_
    obtain ⟨e, u, hu, ht⟩ := bind_eq_ok.mp ht
    cases hu
    have hset : s.entireState = false := by
      rw [s.entireState_eq, hs.context]
      exact decide_eq_false (not_not.mpr hE)
    rw [hset] at ht
    exact pulled16 (pulling_wrPC _) s hs a t ht

/-! ## Openers and closers -/

/-- What opens a frame. -/
inductive Opener
  | pshs (m : Unsigned)
  | jsr | bsr | longBsr
  | irq | swi | swi2 | swi3
  | firq
  deriving DecidableEq, Repr

/-- The function that opens the frame. -/
def Opener.open : Opener → M σ Unit
  | .pshs _ => Exec09.pshs
  | .jsr => Exec09.jsr
  | .bsr => Exec09.bsr
  | .longBsr => Exec09.longBsr
  | .irq => Exec09.irq
  | .swi => Exec09.swi
  | .swi2 => Exec09.swi2
  | .swi3 => Exec09.swi3
  | .firq => Exec09.firq

/-- The function that closes it. -/
def Opener.close : Opener → M σ Unit
  | .pshs _ => puls
  | .jsr | .bsr | .longBsr => rts
  | .irq | .swi | .swi2 | .swi3 | .firq => rti

/-- The postbyte of `PSHS` and of the matching `PULS`. -/
def Opener.Operand (o : Opener) (s : Cpu σ) : Prop :=
  match o with
  | .pshs m => s.operand = m
  | _ => True

/-- The registers in the frame, as a mask of `PSHS`. -/
def Opener.mask : Opener → Unsigned
  | .pshs m => m
  | .jsr | .bsr | .longBsr => 0x80
  | .irq | .swi | .swi2 | .swi3 => 0xff
  | .firq => 0x81

/-- The registers when they are pushed: the operand has been fetched, and the interrupts set or clear
`E`. -/
def Opener.saved (o : Opener) (c : Context) : Context :=
  match o with
  | .pshs _ | .bsr => { c with PC := c.PC + 1 }
  | .longBsr => { c with PC := c.PC + 2 }
  | .jsr => c
  | .irq | .swi | .swi2 | .swi3 => { c with cc := c.cc ||| E_FLAG }
  | .firq => { c with cc := c.cc &&& ~~~E_FLAG }

/-- The bytes of the frame. -/
def Opener.frame (o : Opener) (s : Cpu σ) : List U8 := (o.saved s.context).bytes o.mask

/-- The stack holds `l` and its pointer is `S₁`. -/
def Rests (r : StackRam σ) (S₁ : Unsigned) (l : List U8) (s : Cpu σ) : Prop :=
  Stacked r s l ∧ s.S = S₁

lemma rests_modify {S₁ : Unsigned} {g : Cpu σ → Cpu σ} (hS : ∀ s, (g s).S = s.S)
    (hw : ∀ s, (g s).world = s.world) :
    Triple (Rests r S₁ l) (modify g : M σ Unit) fun _ => Rests r S₁ l :=
  Triple.modify fun s hs => ⟨hs.1.world (hS s) (hw s ▸ hs.1.ok) fun _ _ => by rw [hw],
    (hS s).trans hs.2⟩

lemma rests_read16 {S₁ : Unsigned} (a : Unsigned) :
    Triple (Rests r S₁ l) (Exec09.read16 a) fun _ => Rests r S₁ l := by
  intro s hs x t ht
  obtain ⟨hst, hS, -⟩ := hs.1.read16 ht
  exact ⟨hst, hS.trans hs.2⟩

/-- A frame can be opened: its bytes are RAM and do not fill the ring. -/
structure Fits (r : StackRam σ) (s : Cpu σ) (l frame : List U8) : Prop where
  stacked : Stacked r s l
  room : Room r s.S frame.length
  size : l.length + frame.length < 65536

lemma Fits.framing {s t : Cpu σ} {frame : List U8} (h : Fits r s l frame) (hc : t.context = c)
    (hS : t.S = s.S) (hst : Stacked r t l) : Framing r c s.S l [] frame.length t := by
  refine ⟨hc, ?_, hst, ?_, ?_⟩
  · rw [hS]
    exact (below_zero h.stacked.word).symm
  · simpa using h.room
  · simpa using h.size

/-- A frame that has been pushed. -/
lemma Framing.rests {s : Cpu σ} {frame : List U8} (h : Framing r c S₀ l frame 0 s) :
    Rests r (below S₀ frame.length) (frame ++ l) s := ⟨h.stacked, h.top⟩

lemma fits_immByte {s t : Cpu σ} {x : Unsigned} (h : Stacked r s l) (ht : immByte s = .ok (x, t)) :
    Stacked r t l ∧ t.S = s.S ∧ t.context = { s.context with PC := s.PC + 1 } := by
  obtain ⟨_, u, hu, ht⟩ := bind_eq_ok.mp ht
  cases hu
  obtain ⟨x, u, hx, ht⟩ := bind_eq_ok.mp ht
  cases ht
  obtain ⟨hst, hS, hc⟩ := h.rdmem hx
  refine ⟨⟨hst.ok, hst.word, hst.ram, hst.holds⟩, hS, ?_⟩
  rw [← hc, show s.PC = u.PC from congrArg Context.PC hc.symm]
  rfl

lemma fits_immWord {s t : Cpu σ} {x : Unsigned} (h : Stacked r s l) (ht : immWord s = .ok (x, t)) :
    Stacked r t l ∧ t.S = s.S ∧ t.context = { s.context with PC := s.PC + 2 } := by
  obtain ⟨_, u, hu, ht⟩ := bind_eq_ok.mp ht
  cases hu
  obtain ⟨x, u, hx, ht⟩ := bind_eq_ok.mp ht
  cases ht
  obtain ⟨hst, hS, hc⟩ := h.read16 hx
  refine ⟨⟨hst.ok, hst.word, hst.ram, hst.holds⟩, hS, ?_⟩
  rw [← hc, show s.PC = u.PC from congrArg Context.PC hc.symm]
  rfl

omit [Machine σ] in
lemma Cpu.getCc_setE (s : Cpu σ) : ({ s with EFI := s.EFI ||| E_FLAG } : Cpu σ).getCc = s.getCc ||| E_FLAG := by
  rw [Cpu.getCc_eq, Cpu.getCc_eq, BitVec.and_or_distrib_right, BitVec.or_assoc, BitVec.or_assoc,
    BitVec.or_comm (E_FLAG &&& EFI_MASK)]
  rfl

omit [Machine σ] in
lemma Cpu.getCc_clearE (s : Cpu σ) :
    ({ s with EFI := s.EFI &&& ~~~E_FLAG } : Cpu σ).getCc = s.getCc &&& ~~~E_FLAG := by
  have hbits : s.flags.bits.byte &&& ~~~E_FLAG = s.flags.bits.byte := by
    rcases s.flags.bits with ⟨_ | _, _ | _, _ | _, _ | _, _ | _⟩ <;> decide
  rw [Cpu.getCc_eq, Cpu.getCc_eq, BitVec.and_or_distrib_right, hbits, BitVec.and_assoc,
    BitVec.and_assoc, BitVec.and_comm EFI_MASK]

lemma framed_return :
    Triple (Framing r c S₀ l [] (c.bytes 0x80).length)
      (do pushS16 ((← reads Cpu.PC) &&& 0xffff)) fun _ => Framing r c S₀ l (c.bytes 0x80) 0 :=
  framed_pc

/-- What follows the pushes keeps the frame. -/
lemma rests_after {m k : M σ Unit} {frame : List U8}
    (hm : Triple (Framing r c S₀ l [] frame.length) m fun _ => Framing r c S₀ l frame 0)
    (hk : Triple (Rests r (below S₀ frame.length) (frame ++ l)) k fun _ =>
      Rests r (below S₀ frame.length) (frame ++ l)) :
    Triple (Framing r c S₀ l [] frame.length) (do m; k) fun _ =>
      Rests r (below S₀ frame.length) (frame ++ l) :=
  Triple.bind hm fun _ => Triple.conseq hk (fun _ hs => hs.rests) fun _ _ h => h

lemma rests_wrPC {S₁ : Unsigned} (v : Unsigned) :
    Triple (Rests r S₁ l) (wrPC v) fun _ => Rests r S₁ l := rests_modify (fun _ => rfl) fun _ => rfl

/-- `PC = ea`, the end of a call. -/
lemma rests_jump {S₁ : Unsigned} :
    Triple (Rests r S₁ l) (do wrPC (← rdEa)) fun _ => Rests r S₁ l :=
  Triple.bind (Triple.reads (g := Cpu.ea) fun _ hs => hs) fun v => rests_wrPC v

/-- The return address is pushed and control goes elsewhere. -/
lemma rests_call {k : M σ Unit}
    (hk : Triple (Rests r (below S₀ (c.bytes 0x80).length) (c.bytes 0x80 ++ l)) k fun _ =>
      Rests r (below S₀ (c.bytes 0x80).length) (c.bytes 0x80 ++ l)) :
    Triple (Framing r c S₀ l [] (c.bytes 0x80).length)
      (do pushS16 ((← reads Cpu.PC) &&& 0xffff); k) fun _ =>
      Rests r (below S₀ (c.bytes 0x80).length) (c.bytes 0x80 ++ l) :=
  triple_reads_then (m := fun v => pushS16 (v &&& 0xffff)) framed_return
    (Triple.conseq hk (fun _ hs => hs.rests) fun _ _ h => h)

lemma rests_swiWith {clk : Int} {masks vector : Unsigned} {s t : Cpu σ}
    (hf : Fits r s l (Opener.swi.frame s)) (h : swiWith clk masks vector s = .ok ((), t)) :
    Rests r (below s.S (Opener.swi.frame s).length) (Opener.swi.frame s ++ l) t := by
  obtain ⟨_, u, hu, h⟩ := bind_eq_ok.mp h
  cases hu
  obtain ⟨_, u, hu, h⟩ := bind_eq_ok.mp h
  cases hu
  refine rests_after (c := Opener.swi.saved s.context) framed_pushAll ?_ _ (hf.framing ?_ ?_ ?_) _ _ h
  · exact Triple.bind (rests_modify (fun _ => rfl) fun _ => rfl) fun _ =>
      Triple.bind (rests_read16 vector) fun v => rests_wrPC v
  · have hcc := s.getCc_setE
    rw [Opener.saved, Cpu.context, Cpu.context, ← hcc]
    rfl
  · rfl
  · exact ⟨hf.stacked.ok, hf.stacked.word, hf.stacked.ram, hf.stacked.holds⟩

lemma rests_irq {s t : Cpu σ} (hf : Fits r s l (Opener.irq.frame s)) (h : irq s = .ok ((), t)) :
    Rests r (below s.S (Opener.irq.frame s).length) (Opener.irq.frame s ++ l) t := by
  obtain ⟨_, u, hu, h⟩ := bind_eq_ok.mp h
  cases hu
  obtain ⟨_, u, hu, h⟩ := bind_eq_ok.mp h
  cases hu
  refine rests_after (c := Opener.irq.saved s.context) framed_pushAll ?_ _ (hf.framing ?_ ?_ ?_) _ _ h
  · exact Triple.bind (rests_modify (fun _ => rfl) fun _ => rfl) fun _ =>
      Triple.bind (rests_read16 _) fun v => Triple.bind (rests_wrPC v) fun _ =>
      rests_modify (fun _ => rfl) fun _ => rfl
  · have hcc := s.getCc_setE
    rw [Opener.saved, Cpu.context, Cpu.context, ← hcc]
    rfl
  · rfl
  · exact ⟨hf.stacked.ok, hf.stacked.word, hf.stacked.ram, hf.stacked.holds⟩

lemma rests_firq {s t : Cpu σ} (hf : Fits r s l (Opener.firq.frame s)) (h : firq s = .ok ((), t)) :
    Rests r (below s.S (Opener.firq.frame s).length) (Opener.firq.frame s ++ l) t := by
  obtain ⟨_, u, hu, h⟩ := bind_eq_ok.mp h
  cases hu
  obtain ⟨_, u, hu, h⟩ := bind_eq_ok.mp h
  cases hu
  have hpc : Triple (Framing r (Opener.firq.saved s.context) s.S l [] 3)
      (do pushS16 ((← reads Cpu.PC) &&& 0xffff)) fun _ => Framing r _ s.S l _ 1 := framed_pc
  have hpush := triple_reads_then (m := fun v => pushS16 (v &&& 0xffff)) hpc
    (triple_reads_then framed_cc (k := do
      modify fun s => { s with EFI := s.EFI ||| (I_FLAG ||| F_FLAG) }
      let pc ← Exec09.read16 0xfff6
      modify fun s => { s with PC := pc }
      modify fun s => { s with firqsPending := 0 })
      (R := fun _ => Rests r (below s.S (Opener.firq.frame s).length) (Opener.firq.frame s ++ l)) ?_)
  · refine hpush _ (hf.framing ?_ ?_ ?_) _ _ h
    · have hcc := s.getCc_clearE
      rw [Opener.saved, Cpu.context, Cpu.context, ← hcc]
      rfl
    · rfl
    · exact ⟨hf.stacked.ok, hf.stacked.word, hf.stacked.ram, hf.stacked.holds⟩
  · refine Triple.conseq ?_ (fun _ hs => hs.rests) fun _ _ h => h
    exact Triple.bind (rests_modify (fun _ => rfl) fun _ => rfl) fun _ =>
      Triple.bind (rests_read16 _) fun v => Triple.bind (rests_wrPC v) fun _ =>
      rests_modify (fun _ => rfl) fun _ => rfl

/-- **What an opener does**: the bytes of its frame come on top of the stack. -/
lemma Opener.opens {o : Opener} {s t : Cpu σ} (hf : Fits r s l (o.frame s)) (ho : o.Operand s)
    (h : o.open s = .ok ((), t)) :
    Rests r (below s.S (o.frame s).length) (o.frame s ++ l) t := by
  have htick {S₁ : Unsigned} {l : List U8} (n : Int) :
      Triple (Rests r S₁ l) (tick n) fun _ => Rests r S₁ l :=
    rests_modify (fun _ => rfl) fun _ => rfl
  cases o with
  | pshs m =>
    obtain ⟨x, u, hx, hpost⟩ := bind_eq_ok.mp h
    obtain ⟨hst, hS, hc⟩ := fits_immByte hf.stacked hx
    have hxm : x = m := (immByte_eq_ok hx).trans ho
    rw [hxm] at hpost
    exact (framed_pshsPost m u (hf.framing hc hS hst) () t hpost).rests
  | jsr =>
    have hfr : Framing r s.context s.S l [] (s.context.bytes 0x80).length s :=
      hf.framing rfl rfl hf.stacked
    exact rests_call rests_jump s hfr () t h
  | bsr =>
    obtain ⟨x, u, hx, h⟩ := bind_eq_ok.mp h
    obtain ⟨hst, hS, hc⟩ := fits_immByte hf.stacked hx
    obtain ⟨pc, u', hu', h⟩ := bind_eq_ok.mp h
    cases hu'
    obtain ⟨_, u', hu', h⟩ := bind_eq_ok.mp h
    cases hu'
    refine rests_call (Triple.bind (htick 7) fun _ => rests_jump) _ (hf.framing ?_ ?_ ?_) () t h
    · exact hc
    · exact hS
    · exact ⟨hst.ok, hst.word, hst.ram, hst.holds⟩
  | longBsr =>
    obtain ⟨x, u, hx, h⟩ := bind_eq_ok.mp h
    obtain ⟨hst, hS, hc⟩ := fits_immWord hf.stacked hx
    obtain ⟨pc, u', hu', h⟩ := bind_eq_ok.mp h
    cases hu'
    obtain ⟨_, u', hu', h⟩ := bind_eq_ok.mp h
    cases hu'
    refine rests_call (Triple.bind (htick 9) fun _ => rests_jump) _ (hf.framing ?_ ?_ ?_) () t h
    · exact hc
    · exact hS
    · exact ⟨hst.ok, hst.word, hst.ram, hst.holds⟩
  | irq => exact rests_irq hf h
  | swi => exact rests_swiWith hf h
  | swi2 => exact rests_swiWith hf h
  | swi3 => exact rests_swiWith hf h
  | firq => exact rests_firq hf h

omit [Machine σ] in
lemma setE_ne_zero (x : Unsigned) : ((x ||| E_FLAG).setWidth 8).setWidth 32 &&& E_FLAG ≠ 0 := by
  intro h
  have hbit := (Words.and_bit_eq_zero 7 (by decide) (by decide)).mp h
  simp at hbit

omit [Machine σ] in
lemma clearE_eq_zero (x : Unsigned) :
    ((x &&& ~~~E_FLAG).setWidth 8).setWidth 32 &&& E_FLAG = 0 := by
  refine (Words.and_bit_eq_zero 7 (by decide) (by decide)).mpr ?_
  simp

/-- **What a closer does**: it takes the frame off the stack and loads the registers from it. -/
lemma Opener.closes {o : Opener} {b : Context} {s t : Cpu σ}
    (hp : Pulling r s.context S₀ l ((o.saved b).bytes o.mask) s) (ho : o.Operand s)
    (h : o.close s = .ok ((), t)) :
    ∃ c, Pulling r ((o.saved b).load o.mask c) S₀ l [] t := by
  have hset : ((Opener.irq.saved b).cc.setWidth 8).setWidth 32 &&& E_FLAG ≠ 0 := setE_ne_zero b.cc
  have hclear : ((Opener.firq.saved b).cc.setWidth 8).setWidth 32 &&& E_FLAG = 0 :=
    clearE_eq_zero b.cc
  cases o with
  | pshs m =>
    obtain ⟨x, u, hx, hpost⟩ := bind_eq_ok.mp h
    obtain ⟨hst, hS, hc⟩ := fits_immByte hp.stacked hx
    have hxm : x = m := (immByte_eq_ok hx).trans ho
    rw [hxm] at hpost
    exact ⟨_, pulling_pulsPost _ m u ⟨hc, hS.trans hp.top, hst, hp.size⟩ () t hpost⟩
  | jsr => exact ⟨_, pulling_rts _ s hp () t h⟩
  | bsr => exact ⟨_, pulling_rts _ s hp () t h⟩
  | longBsr => exact ⟨_, pulling_rts _ s hp () t h⟩
  | irq => exact ⟨_, pulling_rti (.inl ⟨rfl, hset⟩) s hp () t h⟩
  | swi => exact ⟨_, pulling_rti (.inl ⟨rfl, hset⟩) s hp () t h⟩
  | swi2 => exact ⟨_, pulling_rti (.inl ⟨rfl, hset⟩) s hp () t h⟩
  | swi3 => exact ⟨_, pulling_rti (.inl ⟨rfl, hset⟩) s hp () t h⟩
  | firq => exact ⟨_, pulling_rti (.inr ⟨rfl, hclear⟩) s hp () t h⟩

/-! ## What is restored -/

omit [Machine σ] in
lemma byte_bytes {x : Unsigned} (h : Byte x) : (x.setWidth 8).setWidth 32 = x := by
  have hx : x.toNat < 2 ^ 8 := h
  apply BitVec.eq_of_toNat_eq
  simp only [BitVec.toNat_setWidth]
  omega

omit [Machine σ] in
lemma word_bytes {x : Unsigned} (h : Word x) : wordOf (hiByte x) (loByte x) = x := by
  have hx : x.toNat < 2 ^ 16 := h
  have hlo : (loByte x).toNat = x.toNat % 256 := by
    rw [loByte, BitVec.toNat_setWidth, Words.toNat_and_low 8 (by decide)]
    omega
  have hhi : (hiByte x).toNat = x.toNat / 256 := by
    rw [hiByte, BitVec.toNat_setWidth, BitVec.toNat_ushiftRight, Nat.shiftRight_eq_div_pow]
    omega
  have hshift : (x.toNat / 256 % 2 ^ 32) <<< 8 % 2 ^ 32 = (x.toNat / 256) <<< 8 := by
    rw [Nat.shiftLeft_eq, Nat.shiftLeft_eq]
    omega
  have hmod : x.toNat % 256 % 2 ^ 32 = x.toNat % 256 := by omega
  apply BitVec.eq_of_toNat_eq
  rw [wordOf, BitVec.toNat_or, BitVec.toNat_shiftLeft, BitVec.toNat_setWidth, BitVec.toNat_setWidth,
    hlo, hhi, hshift, hmod, ← Nat.shiftLeft_add_eq_or_of_lt (by omega), Nat.shiftLeft_eq]
  omega

omit [Machine σ] in
lemma page_bytes {x : Unsigned} (h : x.toNat % 256 = 0 ∧ x.toNat ≤ 0xff00) :
    ((x >>> 8).setWidth 8).setWidth 32 <<< 8 = x := by
  apply BitVec.eq_of_toNat_eq
  rw [BitVec.toNat_shiftLeft, BitVec.toNat_setWidth, BitVec.toNat_setWidth, BitVec.toNat_ushiftRight,
    Nat.shiftRight_eq_div_pow, Nat.shiftLeft_eq]
  omega

/-- What holds when the frame of `o`, opened in `s`, has been closed: the registers in it, and `S`,
are as when it was opened, `PC` modulo `2 ^ 16`. -/
structure Restored (o : Opener) (s t : Cpu σ) : Prop where
  S : t.S = s.S
  cc : o.mask &&& 0x01 ≠ 0 → t.getCc = (o.saved s.context).cc
  A : o.mask &&& 0x02 ≠ 0 → t.A = s.A
  B : o.mask &&& 0x04 ≠ 0 → t.B = s.B
  DP : o.mask &&& 0x08 ≠ 0 → t.DP = s.DP
  X : o.mask &&& 0x10 ≠ 0 → t.X = s.X
  Y : o.mask &&& 0x20 ≠ 0 → t.Y = s.Y
  U : o.mask &&& 0x40 ≠ 0 → t.U = s.U
  PC : o.mask &&& 0x80 ≠ 0 → t.PC = (o.saved s.context).PC &&& 0xffff

omit [Machine σ] in
lemma Opener.byte_cc (o : Opener) (s : Cpu σ) : Byte (o.saved s.context).cc := by
  have hcc : s.getCc.toNat < 2 ^ 8 := s.getCc_lt
  cases o with
  | pshs m => exact hcc
  | jsr => exact hcc
  | bsr => exact hcc
  | longBsr => exact hcc
  | firq => exact Words.and_lt hcc
  | irq => exact Words.or_lt hcc (by decide)
  | swi => exact Words.or_lt hcc (by decide)
  | swi2 => exact Words.or_lt hcc (by decide)
  | swi3 => exact Words.or_lt hcc (by decide)

/-- The registers `saved` does not touch. -/
lemma Opener.saved_file (o : Opener) (c : Context) :
    (o.saved c).A = c.A ∧ (o.saved c).B = c.B ∧ (o.saved c).DP = c.DP ∧ (o.saved c).X = c.X ∧
      (o.saved c).Y = c.Y ∧ (o.saved c).U = c.U := by
  cases o <;> exact ⟨rfl, rfl, rfl, rfl, rfl, rfl⟩

omit [Machine σ] in
lemma Opener.restored {o : Opener} {s t : Cpu σ} {c : Context} (hw : Widths s) (hS : t.S = s.S)
    (h : t.context = (o.saved s.context).load o.mask c) : Restored o s t := by
  obtain ⟨hA, hB, hDP, hX, hY, hU⟩ := o.saved_file s.context
  refine ⟨hS, fun hm => ?_, fun hm => ?_, fun hm => ?_, fun hm => ?_, fun hm => ?_, fun hm => ?_,
    fun hm => ?_, fun hm => ?_⟩
  · refine (congrArg Context.cc h).trans ((if_pos hm).trans ?_)
    exact byte_bytes (o.byte_cc s)
  · refine (congrArg Context.A h).trans ((if_pos hm).trans ?_)
    rw [hA]
    exact byte_bytes hw.A
  · refine (congrArg Context.B h).trans ((if_pos hm).trans ?_)
    rw [hB]
    exact byte_bytes hw.B
  · refine (congrArg Context.DP h).trans ((if_pos hm).trans ?_)
    rw [hDP]
    exact page_bytes hw.DP
  · refine (congrArg Context.X h).trans ((if_pos hm).trans ?_)
    rw [hX]
    exact word_bytes hw.X
  · refine (congrArg Context.Y h).trans ((if_pos hm).trans ?_)
    rw [hY]
    exact word_bytes hw.Y
  · refine (congrArg Context.U h).trans ((if_pos hm).trans ?_)
    rw [hU]
    exact word_bytes hw.U
  · refine (congrArg Context.PC h).trans ((if_pos hm).trans ?_)
    exact word_bytes (word_and _)

/-! ## Nesting -/

/-- A well-nested run with `n` bytes on the stack: steps that leave `S` and these bytes alone, and
frames whose bytes are RAM and, with those below, fewer than `2 ^ 16`.  `after` holds after each
closer. -/
inductive Balanced (r : StackRam σ) (after : Opener → Cpu σ → Cpu σ → Prop) :
    Nat → Cpu σ → Cpu σ → Prop
  | done (n : Nat) (s : Cpu σ) : Balanced r after n s s
  | other {n : Nat} {s t u : Cpu σ} : t.S = s.S → Widths t → r.Ok t.world →
      (∀ i < n, r.mem t.world (above s.S i) = r.mem s.world (above s.S i)) →
      Balanced r after n t u → Balanced r after n s u
  | frame {n : Nat} {s s₁ s₂ s₃ u : Cpu σ} (o : Opener) : Room r s.S (o.frame s).length →
      n + (o.frame s).length < 65536 →
      o.Operand s → o.open s = .ok ((), s₁) →
      Balanced r after (n + (o.frame s).length) s₁ s₂ →
      o.Operand s₂ → o.close s₂ = .ok ((), s₃) → after o s s₃ →
      Balanced r after n s₃ u → Balanced r after n s u

lemma Opener.sound_open (o : Opener) : Sound (o.open : M σ Unit) Any := by
  cases o with
  | pshs m => exact Insn.sound_exec .pshs
  | jsr =>
    exact (sound_reads _).bind fun _ _ => (sound_pushS16 _).bind fun _ _ =>
      (sound_reads _).bind fun _ _ => sound_wrPC _
  | bsr => exact Insn.sound_exec .bsr
  | longBsr => exact Insn.sound_exec .longBsr
  | irq => exact sound_irq
  | swi => exact Insn.sound_exec .swi
  | swi2 => exact Insn.sound_exec .swi2
  | swi3 => exact Insn.sound_exec .swi3
  | firq => exact sound_firq

lemma Opener.sound_close (o : Opener) : Sound (o.close : M σ Unit) Any := by
  cases o with
  | pshs m => exact Insn.sound_exec .puls
  | jsr => exact Insn.sound_exec .rts
  | bsr => exact Insn.sound_exec .rts
  | longBsr => exact Insn.sound_exec .rts
  | irq => exact Insn.sound_exec .rti
  | swi => exact Insn.sound_exec .rti
  | swi2 => exact Insn.sound_exec .rti
  | swi3 => exact Insn.sound_exec .rti
  | firq => exact Insn.sound_exec .rti

/-- A frame with a balanced run inside, on top of the bytes `l`. -/
lemma Opener.frame_restores {o : Opener} {s s₁ s₂ s₃ : Cpu σ} (hf : Fits r s l (o.frame s))
    (hw : Widths s) (ho : o.Operand s) (hopen : o.open s = .ok ((), s₁)) (hS : s₂.S = s₁.S)
    (hst : Stacked r s₂ (o.frame s ++ l)) (ho' : o.Operand s₂) (hclose : o.close s₂ = .ok ((), s₃)) :
    Restored o s s₃ ∧ Stacked r s₃ l := by
  have htop : s₂.S = below s.S (o.frame s).length := hS.trans (o.opens hf ho hopen).2
  have hsize := hf.size
  have hlen : (o.frame s).length < 65536 := by omega
  obtain ⟨c, hp⟩ := o.closes (b := s.context) ⟨rfl, htop, hst, hlen⟩ ho' hclose
  have hSs : s₃.S = s.S := hp.top.trans (below_zero hf.stacked.word)
  exact ⟨o.restored hw hSs hp.context, hp.stacked⟩

lemma Balanced.restores {n : Nat} {s t : Cpu σ} (h : Balanced r (fun _ _ _ => True) n s t)
    (hn : l.length = n) (hw : Widths s) (hst : Stacked r s l) :
    Balanced r Restored n s t ∧ t.S = s.S ∧ Stacked r t l ∧ Widths t := by
  induction h generalizing l with
  | done n s => exact ⟨.done n s, rfl, hst, hw⟩
  | other hS hwt hok hm _ ih =>
    obtain ⟨hb, hS', hst', hw'⟩ := ih hn hwt (hst.world hS hok (hn ▸ hm))
    exact ⟨.other hS hwt hok hm hb, hS'.trans hS, hst', hw'⟩
  | @frame n s s₁ s₂ s₃ u o hroom hsize ho hopen _ ho' hclose _ _ ih ih' =>
    have hf : Fits r s l (o.frame s) := ⟨hst, hroom, by omega⟩
    have hin := (o.opens hf ho hopen).1
    have hw₁ := (o.sound_open s hw () s₁ hopen).2
    obtain ⟨hb, hS, hst₂, hw₂⟩ := ih (by rw [List.length_append]; omega) hw₁ hin
    have hw₃ := (o.sound_close s₂ hw₂ () s₃ hclose).2
    obtain ⟨hres, hst₃⟩ := o.frame_restores hf hw ho hopen hS hst₂ ho' hclose
    obtain ⟨hb', hS', hst', hw'⟩ := ih' hn hw₃ hst₃
    exact ⟨.frame o hroom hsize ho hopen hb ho' hclose hres hb', hS'.trans hres.S, hst', hw'⟩

end Ram

/-- The memory of the smallest machine is RAM. -/
def flatRam : StackRam Flat where
  Ram _ := True
  Ok _ := True
  mem := Flat.get
  val _ _ := rfl
  read8 _ := ⟨trivial, fun _ _ => rfl⟩
  read16 _ := ⟨trivial, fun _ _ => rfl⟩
  signals _ _ := ⟨[], rfl⟩
  write {w v a d} _ _ := by
    refine ⟨trivial, fun b _ => ?_⟩
    change ((List.lookup b ((a, d) :: w.mem)).getD 0) = _
    by_cases h : b = a
    · simp [h]
    · simp [List.lookup_cons, beq_eq_false_iff_ne.mpr h, h, Flat.get]

/-- An interrupt with its handler at `0x2000`, where `PSHS A,X` waits for its postbyte, and a stack
that wraps through zero. -/
def interrupted : Cpu Flat :=
  { Cpu.zeroed ⟨Flat.bytes 0x2000 [0x12] ++ Flat.bytes 0xfff8 [0x20, 0x00]⟩ with
    PC := 0x1234, S := 8, A := 0x56, X := 0x789a }

/-- The registers the handler saves are overwritten, and `PC` is back at the postbyte. -/
def overwritten (s : Cpu Flat) : Cpu Flat := { s with A := 0x11, X := 0x2222, PC := 0x2000 }

lemma overwritten_keeps {s : Cpu Flat} (hw : Widths s) : Widths (overwritten s) ∧
    (overwritten s).S = s.S ∧ (overwritten s).world = s.world :=
  ⟨⟨by change (0x11 : Unsigned).toNat < _; decide, hw.B, by change (0x2222 : Unsigned).toNat < _; decide,
    hw.Y, hw.U, hw.S, hw.DP, hw.EFI⟩, rfl, rfl⟩

/-- A run that fits a frame around a frame. -/
lemma Balanced.nested {r : StackRam σ} (o o' : Opener) {s s₁ s₂ s₃ s₄ s₅ : Cpu σ}
    (hroom : ∀ S k, Room r S k) (hsize : (o.frame s).length + (o'.frame s₁).length < 65536)
    (ho : o.Operand s) (h₁ : o.open s = .ok ((), s₁)) (ho₁ : o'.Operand s₁)
    (h₂ : o'.open s₁ = .ok ((), s₂)) (hS : s₃.S = s₂.S) (hw : Widths s₃)
    (hworld : s₃.world = s₂.world) (hok : r.Ok s₂.world) (ho₃ : o'.Operand s₃)
    (h₄ : o'.close s₃ = .ok ((), s₄)) (ho₄ : o.Operand s₄) (h₅ : o.close s₄ = .ok ((), s₅)) :
    Balanced r (fun _ _ _ => True) 0 s s₅ := by
  have hin : Balanced r (fun _ _ _ => True) (0 + (o.frame s).length + (o'.frame s₁).length) s₂ s₃ :=
    .other hS hw (hworld ▸ hok) (fun _ _ => by rw [hworld]) (.done _ _)
  have hframe : Balanced r (fun _ _ _ => True) (0 + (o.frame s).length) s₁ s₄ :=
    .frame o' (hroom _ _) (by omega) ho₁ h₂ hin ho₃ h₄ trivial (.done _ _)
  exact .frame o (hroom _ _) (by omega) ho h₁ hframe ho₄ h₅ trivial (.done _ _)

end Exec09
