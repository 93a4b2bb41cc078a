import Mathlib.Order.Nat
import Exec09.Properties.Interrupts

/-!
# What an instruction costs

`cpu_clk` is lowered piecemeal: by the case, the addressing mode, the word accesses and the
helpers.  A program `Charges lo hi` when a run of it that makes no call of `sim_error` lowers
`cpu_clk` by at least `lo` and at most `hi`; the bounds of a sequence are the sums of the bounds.
`Insn.clocks` adds them up for each instruction, and every instruction of the opcode tables is
between 2 and 20.
-/

namespace Exec09

open Program

variable {σ α β : Type}

/-! ## Programs that charge nothing -/

/-- What the main loop accounts with. -/
def Cpu.account (s : Cpu σ) : Int × BitVec 64 := (s.cpuPeriod, s.total)

/-- The clock is as before; `sim_error` may have been called. -/
structure Free (s t : Cpu σ) : Prop where
  errors : s.simErrors ≤ t.simErrors
  clk : t.cpuClk = s.cpuClk
  account : t.account = s.account

instance : IsPreorder (Cpu σ) Free where
  refl _ := ⟨le_rfl, rfl, rfl⟩
  trans _ _ _ h h' :=
    ⟨h.errors.trans h'.errors, h'.clk.trans h.clk, h'.account.trans h.account⟩

/-- The variables `Free` is about. -/
def Cpu.meter (s : Cpu σ) : Nat × Int × Int × BitVec 64 :=
  (s.simErrors, s.cpuClk, s.account)

lemma Free.of_meter {s t : Cpu σ} (h : t.meter = s.meter) : Free s t := by
  simp only [Cpu.meter, Prod.mk.injEq] at h
  exact ⟨h.1.ge, h.2.1, h.2.2⟩

lemma free_modify {g : Cpu σ → Cpu σ} (h : ∀ s, (g s).meter = s.meter) :
    Steps Free (modify g : M σ Unit) :=
  Steps.modify fun s => Free.of_meter (h s)

/-! ## Charges -/

/-- From `s` to `t`, without a call of `sim_error`, the clock is lowered within the bounds. -/
structure Charged (lo hi : Int) (s t : Cpu σ) : Prop where
  errors : s.simErrors ≤ t.simErrors
  account : t.account = s.account
  clk : t.simErrors = s.simErrors → lo ≤ s.cpuClk - t.cpuClk ∧ s.cpuClk - t.cpuClk ≤ hi

def Charges (lo hi : Int) (m : M σ α) : Prop := Steps (Charged lo hi) m

namespace Charges

variable {lo hi lo' hi' : Int} {m m' : M σ α} {f : α → M σ β}

lemma ofFree (h : Steps Free m) : Charges 0 0 m := by
  intro s a t ht
  obtain ⟨he, hc, hp⟩ := h s a t ht
  exact ⟨he, hp, fun _ => by omega⟩

lemma bind (hm : Charges lo hi m) (hf : ∀ a, Charges lo' hi' (f a)) :
    Charges (lo + lo') (hi + hi') (m >>= f) := by
  intro s b u h
  obtain ⟨a, t, h₁, h₂⟩ := bind_eq_ok.mp h
  obtain ⟨he, hp, hc⟩ := hm s a t h₁
  obtain ⟨he', hp', hc'⟩ := hf a t b u h₂
  refine ⟨he.trans he', hp'.trans hp, fun hu => ?_⟩
  have hst : t.simErrors = s.simErrors := by omega
  have h₁ := hc hst
  have h₂ := hc' (hu.trans hst.symm)
  omega

/-- A step without charge before the rest. -/
lemma after (hm : Steps Free m) (hf : ∀ a, Charges lo hi (f a)) : Charges lo hi (m >>= f) := by
  have h := (ofFree hm).bind hf
  rwa [Int.zero_add, Int.zero_add] at h

/-- Steps without charge after the rest. -/
lemma thenFree (hm : Charges lo hi m) (hf : ∀ a, Steps Free (f a)) : Charges lo hi (m >>= f) := by
  have h := hm.bind fun a => ofFree (hf a)
  rwa [Int.add_zero, Int.add_zero] at h

lemma weaken (h : Charges lo hi m) (hlo : lo' ≤ lo) (hhi : hi ≤ hi') : Charges lo' hi' m := by
  intro s a t ht
  obtain ⟨he, hp, hc⟩ := h s a t ht
  refine ⟨he, hp, fun hu => ?_⟩
  have := hc hu
  omega

lemma ite {c : Prop} [Decidable c] (h : Charges lo hi m) (h' : Charges lo hi m') :
    Charges lo hi (if c then m else m') := by
  split
  · exact h
  · exact h'

lemma tick (n : Int) : Charges n n (tick n : M σ Unit) := by
  intro s _ t h
  cases h
  exact ⟨le_rfl, rfl, fun _ => by simp only [Int.sub_sub_self]; omega⟩

/-- The rest of a program after `cpu_clk -= n`. -/
lemma tickThen {n : Int} {k : Unit → M σ β} (hk : ∀ u, Charges lo hi (k u)) :
    Charges (n + lo) (n + hi) (Exec09.tick n >>= k) := (tick n).bind hk

/-- A charge at the end of a program that makes none before it. -/
lemma thenTick {n : Int} {m : M σ Unit} (hm : Steps Free m) :
    Charges n n (do m; Exec09.tick n) := after hm fun _ => tick n

end Charges

/-- A program that calls `sim_error` satisfies any bounds. -/
lemma charges_of_error {lo hi : Int} {m : M σ α}
    (h : ∀ s a t, m s = .ok (a, t) → s.simErrors < t.simErrors ∧ t.account = s.account) :
    Charges lo hi m := by
  intro s a t ht
  obtain ⟨he, hp⟩ := h s a t ht
  exact ⟨he.le, hp, fun hu => by omega⟩

/-! ## Registers -/

lemma free_wrA (v : Unsigned) : Steps Free (wrA v : M σ Unit) :=
  free_modify fun _ => rfl
lemma free_wrB (v : Unsigned) : Steps Free (wrB v : M σ Unit) :=
  free_modify fun _ => rfl
lemma free_wrX (v : Unsigned) : Steps Free (wrX v : M σ Unit) :=
  free_modify fun _ => rfl
lemma free_wrY (v : Unsigned) : Steps Free (wrY v : M σ Unit) :=
  free_modify fun _ => rfl
lemma free_wrU (v : Unsigned) : Steps Free (wrU v : M σ Unit) :=
  free_modify fun _ => rfl
lemma free_wrS (v : Unsigned) : Steps Free (wrS v : M σ Unit) :=
  free_modify fun _ => rfl
lemma free_wrEa (v : Unsigned) : Steps Free (wrEa v : M σ Unit) :=
  free_modify fun _ => rfl
lemma free_wrPC (v : Unsigned) : Steps Free (wrPC v : M σ Unit) :=
  free_modify fun _ => rfl
lemma free_wrDP (v : Unsigned) : Steps Free (wrDP v : M σ Unit) :=
  free_modify fun _ => rfl
lemma free_wrZ (v : Unsigned) : Steps Free (wrZ v : M σ Unit) :=
  free_modify fun _ => rfl
lemma free_skip (v : Unsigned) : Steps Free (skip v : M σ Unit) :=
  free_modify fun _ => rfl
lemma free_setCc (v : Unsigned) : Steps Free (setCc v : M σ Unit) :=
  free_modify fun _ => rfl

lemma free_alu (g : Flags → α × Flags) : Steps Free (alu g : M σ α) :=
  Steps.modifyGet fun _ => Free.of_meter rfl

lemma IndexReg.free_get (R : IndexReg) : Steps Free (R.get : M σ Unsigned) := by
  cases R <;> exact Steps.reads _

lemma IndexReg.free_put (R : IndexReg) (v : Unsigned) : Steps Free (R.put v : M σ Unit) := by
  cases R <;> exact free_modify fun _ => rfl

lemma Acc.free_get (r : Acc) : Steps Free (r.get : M σ Unsigned) := by
  cases r <;> exact Steps.reads _

lemma Acc.free_put (r : Acc) (v : Unsigned) : Steps Free (r.put v : M σ Unit) := by
  cases r <;> exact free_modify fun _ => rfl

lemma Cmp16.free_get (r : Cmp16) : Steps Free (r.get : M σ Unsigned) := by
  cases r <;> exact Steps.reads _

lemma free_wrAB (res : Unsigned) : Steps Free (wrAB res : M σ Unit) :=
  (free_wrA _).bind fun _ => free_wrB _

lemma Cpu.free_setReg (s : Cpu σ) (nro val : Unsigned) : Free s (s.setReg nro val) := by
  unfold Cpu.setReg
  split <;> exact Free.of_meter rfl

lemma Cpu.free_exg (post : Unsigned) (s : Cpu σ) : Free s (s.exg post) :=
  IsTrans.trans _ _ _ (Cpu.free_setReg _ _ _) (Cpu.free_setReg _ _ _)

/-! ## The bus -/

variable [Machine σ]

lemma simError_errors {s t : Cpu σ} {a : Unit} (h : simError s = .ok (a, t)) :
    s.simErrors < t.simErrors ∧ t.cpuClk = s.cpuClk ∧ t.account = s.account := by
  obtain ⟨_, s₁, h₁, k₁⟩ := bind_eq_ok.mp h
  cases h₁
  split at k₁
  · cases k₁
    exact ⟨Nat.lt_succ_self _, rfl, rfl⟩
  · cases k₁

lemma free_simError : Steps Free (simError : M σ Unit) :=
  fun _ _ _ h => ⟨(simError_errors h).1.le, (simError_errors h).2.1, (simError_errors h).2.2⟩

lemma charges_simError (lo hi : Int) : Charges lo hi (simError : M σ Unit) :=
  charges_of_error fun _ _ _ h => ⟨(simError_errors h).1, (simError_errors h).2.2⟩

lemma free_signal (x : Signal) : Steps Free (signal x : M σ Unit) := by
  cases x with
  | simError => exact free_simError
  | monitor on => exact free_modify fun _ => rfl
  | exit code => exact Steps.throw _

lemma free_access (call : View → σ → Reply σ β) : Steps Free (access call : M σ β) :=
  Steps.bind (Steps.modifyGet fun _ => Free.of_meter rfl) fun _ =>
    (Steps.forM fun x _ => free_signal x).bind fun _ => Steps.pure _

lemma free_rdmem (addr : Unsigned) : Steps Free (rdmem addr : M σ Unsigned) :=
  (free_access _).bind fun _ => Steps.pure _

lemma free_read16 (addr : Unsigned) : Steps Free (read16 addr : M σ Unsigned) :=
  (free_access _).bind fun _ => Steps.pure _

lemma free_immByte : Steps Free (immByte : M σ Unsigned) :=
  (Steps.reads _).bind fun _ => (free_rdmem _).bind fun _ => (free_skip 1).bind fun _ =>
    Steps.pure _

lemma free_immWord : Steps Free (immWord : M σ Unsigned) :=
  (Steps.reads _).bind fun _ => (free_read16 _).bind fun _ => (free_skip 2).bind fun _ =>
    Steps.pure _

lemma free_readStack16 (addr : Unsigned) : Steps Free (readStack16 addr : M σ Unsigned) :=
  (free_rdmem _).bind fun _ => (free_rdmem _).bind fun _ => Steps.pure _

lemma free_rdmemEa : Steps Free (rdmemEa : M σ Unsigned) :=
  (Steps.reads _).bind fun _ => free_rdmem _

section With

variable {write : Unsigned → Unsigned → M σ Unit} (hw : ∀ a d, Steps Free (write a d))
include hw

omit [Machine σ] in
lemma free_pushS16With (data : Unsigned) : Steps Free (pushS16With write data) :=
  Steps.bind (free_modify fun _ => rfl) fun _ => (Steps.reads _).bind fun _ =>
    (hw _ _).bind fun _ => hw _ _

omit [Machine σ] in
lemma free_pushS8With (data : Unsigned) : Steps Free (pushS8With write data) :=
  Steps.bind (free_modify fun _ => rfl) fun _ => (Steps.reads _).bind fun _ =>
    hw _ _

omit [Machine σ] in
lemma free_pushAllWith : Steps Free (pushAllWith write) :=
  (Steps.reads _).bind fun _ => (free_pushS16With hw _).bind fun _ =>
  (Steps.reads _).bind fun _ => (free_pushS16With hw _).bind fun _ =>
  (Steps.reads _).bind fun _ => (free_pushS16With hw _).bind fun _ =>
  (Steps.reads _).bind fun _ => (free_pushS16With hw _).bind fun _ =>
  (Steps.reads _).bind fun _ => (free_pushS8With hw _).bind fun _ =>
  (Steps.reads _).bind fun _ => (free_pushS8With hw _).bind fun _ =>
  (Steps.reads _).bind fun _ => (free_pushS8With hw _).bind fun _ =>
  (Steps.reads _).bind fun _ => free_pushS8With hw _

lemma free_irqWith : Steps Free (irqWith write) :=
  Steps.bind (free_modify fun _ => rfl) fun _ =>
  Steps.bind (free_modify fun _ => rfl) fun _ =>
  (free_pushAllWith hw).bind fun _ =>
  Steps.bind (free_modify fun _ => rfl) fun _ => (free_read16 _).bind fun _ =>
  (free_wrPC _).bind fun _ => free_modify fun _ => rfl

lemma free_firqWith : Steps Free (firqWith write) :=
  Steps.bind (free_modify fun _ => rfl) fun _ =>
  Steps.bind (free_modify fun _ => rfl) fun _ =>
  (Steps.reads _).bind fun _ => (free_pushS16With hw _).bind fun _ =>
  (Steps.reads _).bind fun _ => (free_pushS8With hw _).bind fun _ =>
  Steps.bind (free_modify fun _ => rfl) fun _ => (free_read16 _).bind fun _ =>
  (free_wrPC _).bind fun _ => free_modify fun _ => rfl

lemma free_effectWith (x : Effect) : Steps Free (effectWith write x) := by
  cases x with
  | signal e => exact free_signal e
  | requestIrq source =>
      exact Steps.bind (free_modify fun _ => rfl) fun _ =>
        (Steps.reads _).bind fun _ => (free_irqWith hw).whenever.bind fun _ =>
        free_modify fun _ => rfl
  | requestFirq source =>
      exact Steps.bind (free_modify fun _ => rfl) fun _ =>
        (Steps.reads _).bind fun _ => (free_firqWith hw).whenever.bind fun _ =>
        free_modify fun _ => rfl
  | releaseIrq source | releaseFirq source =>
      exact Steps.bind (free_modify fun _ => rfl) fun _ =>
        free_modify fun _ => rfl

end With

lemma free_writeN (n : Nat) : ∀ a d, Steps Free (writeN n a d : M σ Unit) := by
  induction n with
  | zero => exact fun _ _ => Steps.throw _
  | succ n ih =>
      exact fun a d => Steps.bind (Steps.modifyGet fun _ => Free.of_meter rfl) fun _ =>
        Steps.forM fun x _ => free_effectWith ih x

lemma free_wrmem (a d : Unsigned) : Steps Free (wrmem a d : M σ Unit) := free_writeN _ a d

/-- The check at the end of an iteration charges nothing, also when it enters a handler. -/
lemma free_ccCheck : Steps Free (ccCheck : M σ Unit) := by
  have poll : Steps Free (pollLines : M σ Unit) :=
    (Steps.reads _).bind fun _ => Steps.ite (free_firqWith free_wrmem) <|
      (Steps.reads _).bind fun _ => Steps.ite (free_irqWith free_wrmem) (Steps.pure _)
  exact (Steps.reads _).bind fun _ => Steps.whenever <|
    poll.bind fun _ => free_modify fun _ => rfl

/-! ## Addressing modes -/

lemma charges_rdmem16 (addr : Unsigned) : Charges 1 1 (rdmem16 addr : M σ Unsigned) :=
  Charges.after (free_rdmem _) fun _ => (Charges.tick 1).thenFree fun _ =>
    (free_rdmem _).bind fun _ => Steps.pure _

lemma charges_rdmem16Ea : Charges 1 1 (rdmem16Ea : M σ Unsigned) :=
  Charges.after (Steps.reads _) fun _ => charges_rdmem16 _

lemma charges_wrmem16 (addr data : Unsigned) : Charges 1 1 (wrmem16 addr data : M σ Unit) :=
  Charges.after (free_wrmem _ _) fun _ => (Charges.tick 1).thenFree fun _ => free_wrmem _ _

lemma free_direct : Steps Free (direct : M σ Unit) :=
  (Steps.reads _).bind fun _ => (free_rdmem _).bind fun _ =>
    free_modify fun _ => rfl

lemma free_extended : Steps Free (extended : M σ Unit) := free_immWord.bind fun _ => free_wrEa _

lemma IndexMode.free_addr (R : IndexReg) (m : IndexMode) : Steps Free (m.addr R : M σ Unit) := by
  cases m with
  | inc n =>
      exact R.free_get.bind fun _ => (free_wrEa _).bind fun _ => R.free_get.bind fun _ =>
        R.free_put _
  | dec n =>
      exact R.free_get.bind fun _ => (R.free_put _).bind fun _ => R.free_get.bind fun _ =>
        free_wrEa _
  | zero => exact R.free_get.bind fun _ => free_wrEa _
  | accB | accA | accD =>
      exact R.free_get.bind fun _ => (Steps.reads _).bind fun _ => free_wrEa _
  | off8 => exact R.free_get.bind fun _ => free_immByte.bind fun _ => free_wrEa _
  | off16 => exact R.free_get.bind fun _ => free_immWord.bind fun _ => free_wrEa _
  | pc8 =>
      exact free_immByte.bind fun _ => (free_wrEa _).bind fun _ => (Steps.reads _).bind fun _ =>
        (Steps.reads _).bind fun _ => free_wrEa _
  | pc16 =>
      exact free_immWord.bind fun _ => (free_wrEa _).bind fun _ => (Steps.reads _).bind fun _ =>
        (Steps.reads _).bind fun _ => free_wrEa _
  | ext => exact free_immWord.bind fun _ => free_wrEa _

lemma charges_indirect : Charges 3 3 (indirect : M σ Unit) :=
  (charges_rdmem16Ea.bind fun _ => Charges.thenTick (free_wrEa _)).weaken (by decide) (by decide)

/-- The cycles of a mode, the fetch of an indirect one included. -/
def Index.clocks (i : Index) : Int := i.clk + if i.indirect then 3 else 0

lemma Index.charges_exec (i : Index) (R : IndexReg) :
    Charges i.clocks i.clocks (i.exec R : M σ Unit) := by
  refine Charges.after (i.mode.free_addr R) fun _ => Charges.tickThen fun _ => ?_
  split
  · exact charges_indirect
  · exact Charges.ofFree (Steps.pure _)

lemma indexModes_clocks : ∀ i ∈ indexModes.map Prod.snd, 4 ≤ i.clocks ∧ i.clocks ≤ 12 := by
  decide

lemma charges_indexed : Charges 4 12 (indexed : M σ Unit) := by
  refine Charges.after free_immByte fun post => ?_
  rw [indexedPost_eq]
  rcases hp : decodePost post with ⟨R, n⟩ | ⟨R, i⟩ | _
  · exact (Charges.after R.free_get fun _ => Charges.thenTick (free_wrEa _)).weaken
      (by decide) (by decide)
  · obtain ⟨hlo, hhi⟩ := indexModes_clocks i (mem_indexModes_of_decodePost hp)
    exact (i.charges_exec R).weaken hlo hhi
  · exact Charges.after (free_wrEa 0) fun _ => charges_simError _ _

/-- The least and the greatest charge of an address computation. -/
def Ea.clocks : Ea → Int × Int
  | .direct clk | .extended clk => (clk, clk)
  | .indexed => (4, 12)
  | .tickIndexed clk | .indexedTick clk => (4 + clk, 12 + clk)

lemma Ea.charges_andThen (ea : Ea) {k : M σ Unit} {lo hi : Int} (hk : Charges lo hi k) :
    Charges (ea.clocks.1 + lo) (ea.clocks.2 + hi) (ea.andThen k) := by
  cases ea with
  | direct clk => exact Charges.after free_direct fun _ => Charges.tickThen fun _ => hk
  | extended clk => exact Charges.after free_extended fun _ => Charges.tickThen fun _ => hk
  | indexed => exact charges_indexed.bind fun _ => hk
  | tickIndexed clk =>
      refine (Charges.tickThen fun _ => charges_indexed.bind fun _ => hk).weaken ?_ ?_ <;>
        simp only [Ea.clocks] <;> omega
  | indexedTick clk =>
      refine (charges_indexed.bind fun _ => Charges.tickThen fun _ => hk).weaken ?_ ?_ <;>
        simp only [Ea.clocks] <;> omega

lemma Ea.charges_andThenFree (ea : Ea) {k : M σ Unit} (hk : Steps Free k) :
    Charges ea.clocks.1 ea.clocks.2 (ea.andThen k) := by
  have h := ea.charges_andThen (Charges.ofFree hk)
  rwa [Int.add_zero, Int.add_zero] at h

def Src8.clocks : Src8 → Int × Int
  | .imm => (2, 2)
  | .mem ea => ea.clocks

/-- A word from memory costs one more. -/
def Src16.clocks : Src16 → Int × Int
  | .imm clk => (clk, clk)
  | .mem ea => (ea.clocks.1 + 1, ea.clocks.2 + 1)

lemma Src8.charges_andThen (src : Src8) {k : M σ Unsigned → M σ Unit}
    (hk : ∀ v : M σ Unsigned, Steps Free v → Steps Free (k v)) :
    Charges src.clocks.1 src.clocks.2 (src.andThen k) := by
  cases src with
  | imm =>
      exact (Charges.tick 2).thenFree fun _ => hk _ free_immByte
  | mem ea => exact ea.charges_andThenFree (hk _ free_rdmemEa)

lemma Src16.charges_andThen (src : Src16) {k : M σ Unsigned → M σ Unit}
    (hk : ∀ (c : Int) (v : M σ Unsigned), Charges c c v → Charges c c (k v)) :
    Charges src.clocks.1 src.clocks.2 (src.andThen k) := by
  cases src with
  | imm clk =>
      refine (Charges.tickThen fun _ => hk 0 _ (Charges.ofFree free_immWord)).weaken ?_ ?_ <;>
        simp only [Src16.clocks] <;> omega
  | mem ea => exact ea.charges_andThen (hk 1 _ charges_rdmem16Ea)

/-! ## Instructions -/

/-- The least and the greatest cost of an instruction.  `SYNC`, `CWAI` and the defaults call
`sim_error`. -/
def Insn.clocks : Insn → Int × Int
  | .unaryMem _ ea | .tstMem ea => (ea.clocks.1 + 2, ea.clocks.2 + 2)
  | .jmp ea | .jsr ea | .st8 _ ea => ea.clocks
  | .unaryAcc _ _ | .tstAcc _ | .nop | .daa | .sex => (2, 2)
  | .bin8 _ _ src | .test8 _ _ src | .ld8 _ src => src.clocks
  | .bin16 _ (.imm clk) | .cmp16 _ (.imm clk) => (clk, clk)
  | .bin16 _ (.mem ea) | .cmp16 _ (.mem ea) => (ea.clocks.1 + 2, ea.clocks.2 + 2)
  | .ldd src | .ld16 _ src => src.clocks
  | .std ea | .st16 _ ea => (ea.clocks.1 + 1, ea.clocks.2 + 1)
  | .lea _ | .leaStack _ => (4, 12)
  | .bra | .brn | .branch _ | .orcc | .andcc | .abx => (3, 3)
  | .bsr => (7, 7)
  | .longBra | .longBrn | .rts => (5, 5)
  | .longBranch _ => (5, 6)
  | .longBsr => (9, 9)
  | .exg => (8, 8)
  | .tfr => (6, 6)
  | .mul => (11, 11)
  | .pshs | .puls | .pshu | .pulu => (5, 17)
  | .rti => (6, 15)
  | .swi => (19, 19)
  | .swi2 | .swi3 => (20, 20)
  | .sync | .cwai | .invalid | .invalidPrefixed => (2, 20)

omit [Machine σ] in
/-- One register of a push or pull mask. -/
lemma charges_masked {c : Prop} [Decidable c] {n : Int} {m : M σ Unit} (hn : 0 ≤ n)
    (hm : Steps Free m) : Charges 0 n (whenever c do tick n; m) := by
  refine Charges.ite ?_ ((Charges.ofFree (Steps.pure _)).weaken (by decide) hn)
  exact ((Charges.tick n).thenFree fun _ => hm).weaken hn (Int.le_refl n)

omit [Machine σ] in
/-- The eight registers of a push or pull mask, four words and four bytes in either order. -/
lemma charges_mask {m₁ m₂ m₃ m₄ m₅ m₆ m₇ m₈ : M σ Unit} {a b c d e f g h : Int}
    (h₁ : Charges 0 a m₁) (h₂ : Charges 0 b m₂) (h₃ : Charges 0 c m₃) (h₄ : Charges 0 d m₄)
    (h₅ : Charges 0 e m₅) (h₆ : Charges 0 f m₆) (h₇ : Charges 0 g m₇) (h₈ : Charges 0 h m₈)
    (hsum : a + b + c + d + e + f + g + h = 12) :
    Charges 5 17 (do tick 5; m₁; m₂; m₃; m₄; m₅; m₆; m₇; m₈) :=
  (Charges.tickThen fun _ => h₁.bind fun _ => h₂.bind fun _ => h₃.bind fun _ => h₄.bind fun _ =>
    h₅.bind fun _ => h₆.bind fun _ => h₇.bind fun _ => h₈).weaken (by omega) (by omega)

lemma free_pushS16 (data : Unsigned) : Steps Free (pushS16 data : M σ Unit) :=
  free_pushS16With free_wrmem data

lemma free_pushS8 (data : Unsigned) : Steps Free (pushS8 data : M σ Unit) :=
  free_pushS8With free_wrmem data

lemma free_pushU16 (data : Unsigned) : Steps Free (pushU16 data : M σ Unit) :=
  Steps.bind (free_modify fun _ => rfl) fun _ => (Steps.reads _).bind fun _ =>
    (free_wrmem _ _).bind fun _ => free_wrmem _ _

lemma free_pushU8 (data : Unsigned) : Steps Free (pushU8 data : M σ Unit) :=
  Steps.bind (free_modify fun _ => rfl) fun _ => (Steps.reads _).bind fun _ =>
    free_wrmem _ _

lemma free_pullS8 : Steps Free (pullS8 : M σ Unsigned) :=
  (Steps.reads _).bind fun _ => (free_rdmem _).bind fun _ =>
    Steps.bind (free_modify fun _ => rfl) fun _ => Steps.pure _

lemma free_pullS16 : Steps Free (pullS16 : M σ Unsigned) :=
  (Steps.reads _).bind fun _ => (free_readStack16 _).bind fun _ =>
    Steps.bind (free_modify fun _ => rfl) fun _ => Steps.pure _

lemma free_pullU8 : Steps Free (pullU8 : M σ Unsigned) :=
  (Steps.reads _).bind fun _ => (free_rdmem _).bind fun _ =>
    Steps.bind (free_modify fun _ => rfl) fun _ => Steps.pure _

lemma free_pullU16 : Steps Free (pullU16 : M σ Unsigned) :=
  (Steps.reads _).bind fun _ => (free_readStack16 _).bind fun _ =>
    Steps.bind (free_modify fun _ => rfl) fun _ => Steps.pure _

lemma charges_pshs : Charges 5 17 (pshs : M σ Unit) :=
  have p16 (f : Cpu σ → Unsigned) (g : Unsigned → Unsigned) :
      Steps Free (reads f >>= fun v => pushS16 (g v) : M σ Unit) :=
    (Steps.reads f).bind fun _ => free_pushS16 _
  have p8 (f : Cpu σ → Unsigned) (g : Unsigned → Unsigned) :
      Steps Free (reads f >>= fun v => pushS8 (g v) : M σ Unit) :=
    (Steps.reads f).bind fun _ => free_pushS8 _
  Charges.after free_immByte fun _ => charges_mask
    (charges_masked (by decide) (p16 _ (· &&& 0xffff))) (charges_masked (by decide) (p16 _ id))
    (charges_masked (by decide) (p16 _ id)) (charges_masked (by decide) (p16 _ id))
    (charges_masked (by decide) (p8 _ (· >>> 8))) (charges_masked (by decide) (p8 _ id))
    (charges_masked (by decide) (p8 _ id)) (charges_masked (by decide) (p8 _ id)) (by decide)

lemma charges_pshu : Charges 5 17 (pshu : M σ Unit) :=
  have p16 (f : Cpu σ → Unsigned) (g : Unsigned → Unsigned) :
      Steps Free (reads f >>= fun v => pushU16 (g v) : M σ Unit) :=
    (Steps.reads f).bind fun _ => free_pushU16 _
  have p8 (f : Cpu σ → Unsigned) (g : Unsigned → Unsigned) :
      Steps Free (reads f >>= fun v => pushU8 (g v) : M σ Unit) :=
    (Steps.reads f).bind fun _ => free_pushU8 _
  Charges.after free_immByte fun _ => charges_mask
    (charges_masked (by decide) (p16 _ (· &&& 0xffff))) (charges_masked (by decide) (p16 _ id))
    (charges_masked (by decide) (p16 _ id)) (charges_masked (by decide) (p16 _ id))
    (charges_masked (by decide) (p8 _ (· >>> 8))) (charges_masked (by decide) (p8 _ id))
    (charges_masked (by decide) (p8 _ id)) (charges_masked (by decide) (p8 _ id)) (by decide)

lemma charges_puls : Charges 5 17 (puls : M σ Unit) :=
  Charges.after free_immByte fun _ => charges_mask
    (charges_masked (by decide) (free_pullS8.bind free_setCc))
    (charges_masked (by decide) (free_pullS8.bind free_wrA))
    (charges_masked (by decide) (free_pullS8.bind free_wrB))
    (charges_masked (by decide) (free_pullS8.bind free_wrDP))
    (charges_masked (by decide) (free_pullS16.bind free_wrX))
    (charges_masked (by decide) (free_pullS16.bind free_wrY))
    (charges_masked (by decide) (free_pullS16.bind free_wrU))
    (charges_masked (by decide) (free_pullS16.bind free_wrPC)) (by decide)

lemma charges_pulu : Charges 5 17 (pulu : M σ Unit) :=
  Charges.after free_immByte fun _ => charges_mask
    (charges_masked (by decide) (free_pullU8.bind free_setCc))
    (charges_masked (by decide) (free_pullU8.bind free_wrA))
    (charges_masked (by decide) (free_pullU8.bind free_wrB))
    (charges_masked (by decide) (free_pullU8.bind free_wrDP))
    (charges_masked (by decide) (free_pullU16.bind free_wrX))
    (charges_masked (by decide) (free_pullU16.bind free_wrY))
    (charges_masked (by decide) (free_pullU16.bind free_wrS))
    (charges_masked (by decide) (free_pullU16.bind free_wrPC)) (by decide)

lemma charges_rti : Charges 6 15 (rti : M σ Unit) := by
  have context : Charges 9 9 (rtiContext : M σ Unit) :=
    (Charges.tick 9).thenFree fun _ => free_pullS8.bind fun _ => (free_wrA _).bind fun _ =>
      free_pullS8.bind fun _ => (free_wrB _).bind fun _ =>
      free_pullS8.bind fun _ => (free_wrDP _).bind fun _ =>
      free_pullS16.bind fun _ => (free_wrX _).bind fun _ =>
      free_pullS16.bind fun _ => (free_wrY _).bind fun _ =>
      free_pullS16.bind fun _ => free_wrU _
  have maybe (b : Bool) : Charges 0 9 (whenever (b = true) rtiContext : M σ Unit) :=
    Charges.ite (context.weaken (by decide) (by decide))
      ((Charges.ofFree (Steps.pure _)).weaken (by decide) (by decide))
  refine Charges.weaken (Charges.tickThen fun _ => Charges.after free_pullS8 fun _ =>
    Charges.after (free_setCc _) fun _ => Charges.after (Steps.reads _) fun b =>
    (maybe b).bind fun _ => Charges.ofFree (free_pullS16.bind free_wrPC)) ?_ ?_ <;> decide

lemma charges_swiWith (clk : Int) (masks vector : Unsigned) :
    Charges clk clk (swiWith clk masks vector : M σ Unit) := by
  have rest : Steps Free (do
      modify fun s => { s with EFI := s.EFI ||| E_FLAG }
      pushAll
      modify fun s => { s with EFI := s.EFI ||| masks }
      wrPC (← read16 vector) : M σ Unit) :=
    Steps.bind (free_modify fun _ => rfl) fun _ =>
    (free_pushAllWith free_wrmem).bind fun _ =>
    Steps.bind (free_modify fun _ => rfl) fun _ => (free_read16 _).bind free_wrPC
  exact (Charges.tick clk).thenFree fun _ => rest

omit [Machine σ] in
/-- A helper that charges two cycles after its flag computation. -/
lemma charges_unary (g : Unsigned → Flags → Unsigned × Flags) (arg : Unsigned) :
    Charges 2 2 (unary g arg : M σ Unsigned) :=
  Charges.after (free_alu _) fun _ => (Charges.tick 2).thenFree fun _ => Steps.pure _

omit [Machine σ] in
lemma charges_tst (arg : Unsigned) : Charges 2 2 (tst arg : M σ Unit) :=
  Charges.thenTick (free_alu _)

lemma charges_longBranch (b : Bool) : Charges 5 6 (longBranch b : M σ Unit) :=
  Charges.ite
    ((Charges.thenTick (free_immWord.bind fun _ => free_skip _)).weaken (by decide) (by decide))
    ((Charges.thenTick (free_skip 2)).weaken (by decide) (by decide))

/-- The shape of `bsr` and `long_bsr`. -/
lemma charges_call {m : M σ Unsigned} {f : Unsigned → Unsigned → Unsigned} (clk : Int)
    (hm : Steps Free m) :
    Charges clk clk (do
      let tmp ← m
      wrEa (f (← reads Cpu.PC) tmp)
      pushS16 ((← reads Cpu.PC) &&& 0xffff)
      tick clk
      wrPC (← rdEa) : M σ Unit) :=
  Charges.after hm fun _ => Charges.after (Steps.reads _) fun _ =>
    Charges.after (free_wrEa _) fun _ => Charges.after (Steps.reads _) fun _ =>
    Charges.after (free_pushS16 _) fun _ => (Charges.tick clk).thenFree fun _ =>
    (Steps.reads _).bind fun _ => free_wrPC _

lemma Insn.charges_exec (i : Insn) : Charges i.clocks.1 i.clocks.2 (i.exec : M σ Unit) := by
  have run (op : Bin16) (val : Unsigned) : Steps Free (op.run val : M σ Unit) := by
    cases op <;> exact (Steps.reads _).bind fun _ => (free_alu _).bind fun _ => free_wrAB _
  cases i with
  | unaryMem op ea =>
      exact ea.charges_andThen <| Charges.after free_rdmemEa fun _ =>
        (charges_unary _ _).thenFree fun _ => (Steps.reads _).bind fun _ => free_wrmem _ _
  | tstMem ea => exact ea.charges_andThen <| Charges.after free_rdmemEa charges_tst
  | jmp ea =>
      exact ea.charges_andThenFree ((Steps.reads _).bind free_wrPC)
  | jsr ea =>
      exact ea.charges_andThenFree <| (Steps.reads _).bind fun _ =>
        (free_pushS16 _).bind fun _ => (Steps.reads _).bind free_wrPC
  | unaryAcc op r =>
      exact Charges.after r.free_get fun _ => (charges_unary _ _).thenFree fun _ => r.free_put _
  | tstAcc r => exact Charges.after r.free_get charges_tst
  | bin8 op r src =>
      exact src.charges_andThen fun v hv => r.free_get.bind fun _ =>
        hv.bind fun _ => (free_alu _).bind fun _ => r.free_put _
  | test8 op r src =>
      exact src.charges_andThen fun v hv => r.free_get.bind fun _ =>
        hv.bind fun _ => free_alu _
  | ld8 r src =>
      exact src.charges_andThen fun v hv => hv.bind fun _ =>
        (free_alu _).bind fun _ => r.free_put _
  | st8 r ea =>
      exact ea.charges_andThenFree <| r.free_get.bind fun _ =>
        (free_alu _).bind fun _ => (Steps.reads _).bind fun _ => free_wrmem _ _
  | bin16 op src =>
      cases src with
      | imm clk =>
          exact (Charges.tick clk).thenFree fun _ => free_immWord.bind (run op)
      | mem ea =>
          exact ea.charges_andThen ((charges_rdmem16Ea.bind fun _ =>
            Charges.thenTick (run op _)).weaken (by decide) (by decide))
  | ldd src =>
      exact src.charges_andThen fun c v hv => hv.thenFree fun _ =>
        (free_alu _).bind fun _ => free_wrAB _
  | std ea =>
      exact ea.charges_andThen <| Charges.after (Steps.reads _) fun _ =>
        Charges.after (Steps.reads _) fun _ => Charges.after (free_alu _) fun _ =>
        Charges.after (Steps.reads _) fun _ => Charges.after (Steps.reads _) fun _ =>
        charges_wrmem16 _ _
  | cmp16 r src =>
      cases src with
      | imm clk =>
          exact (Charges.tick clk).thenFree fun _ => r.free_get.bind fun _ =>
            free_immWord.bind fun _ => free_alu _
      | mem ea =>
          exact ea.charges_andThen (Charges.after r.free_get fun _ =>
            (charges_rdmem16Ea.bind fun _ => Charges.thenTick (free_alu _)).weaken
              (by decide) (by decide))
  | ld16 r src =>
      exact src.charges_andThen fun c v hv => hv.thenFree fun _ =>
        (free_alu _).bind fun _ => r.free_put _
  | st16 r ea =>
      exact ea.charges_andThen <| Charges.after r.free_get fun _ =>
        Charges.after (free_alu _) fun _ => Charges.after (Steps.reads _) fun _ =>
        charges_wrmem16 _ _
  | lea r =>
      exact charges_indexed.thenFree fun _ => (Steps.reads _).bind fun _ =>
        (r.free_put _).bind fun _ => (Steps.reads _).bind free_wrZ
  | leaStack r =>
      exact charges_indexed.thenFree fun _ => (Steps.reads _).bind fun _ => r.free_put _
  | bra => exact Charges.thenTick (free_immByte.bind fun _ => free_skip _)
  | brn => exact Charges.thenTick (free_skip 1)
  | branch c =>
      exact Charges.after (Steps.reads _) fun _ => Charges.thenTick <|
        Steps.ite (free_immByte.bind fun _ => free_skip _) (free_skip 1)
  | bsr => exact charges_call 7 free_immByte
  | longBra => exact Charges.thenTick (free_immWord.bind fun _ => free_skip _)
  | longBrn =>
      exact (Charges.tick 5).thenFree fun _ => free_skip 2
  | longBranch c => exact Charges.after (Steps.reads _) charges_longBranch
  | longBsr => exact charges_call 9 free_immWord
  | nop => exact Charges.tick 2
  | sync =>
      exact (Charges.tickThen fun _ => charges_simError (-2) 16).weaken
        (by decide) (by decide)
  | daa =>
      exact Charges.after (Steps.reads _) fun _ => Charges.after (free_alu _) fun _ =>
        Charges.thenTick (free_wrA _)
  | orcc =>
      exact Charges.after free_immByte fun _ => Charges.after (Steps.reads _) fun _ =>
        Charges.thenTick (free_setCc _)
  | andcc =>
      exact Charges.after free_immByte fun _ => Charges.after (Steps.reads _) fun _ =>
        Charges.thenTick (free_setCc _)
  | sex =>
      exact Charges.after (Steps.reads _) fun _ => Charges.after (free_alu _) fun _ =>
        Charges.thenTick (free_wrA _)
  | exg =>
      exact Charges.after free_immByte fun _ => Charges.thenTick
        (Steps.modify fun s => s.free_exg _)
  | tfr =>
      exact Charges.after free_immByte fun _ => Charges.thenTick
        (Steps.modify fun s => s.free_setReg _ _)
  | abx =>
      exact Charges.after (Steps.reads _) fun _ => Charges.after (Steps.reads _) fun _ =>
        Charges.thenTick (free_wrX _)
  | mul =>
      exact Charges.after (Steps.reads _) fun _ => Charges.after (Steps.reads _) fun _ =>
        Charges.after (free_alu _) fun _ => Charges.after (free_wrA _) fun _ =>
        Charges.thenTick (free_wrB _)
  | cwai => exact charges_simError _ _
  | pshs => exact charges_pshs
  | puls => exact charges_puls
  | pshu => exact charges_pshu
  | pulu => exact charges_pulu
  | rts =>
      exact (Charges.tick 5).thenFree fun _ => free_pullS16.bind free_wrPC
  | rti => exact charges_rti
  | swi => exact charges_swiWith _ _ _
  | swi2 => exact charges_swiWith _ _ _
  | swi3 => exact charges_swiWith _ _ _
  | invalid =>
      exact (Charges.tickThen fun _ => (charges_simError 0 18).bind fun _ =>
        Charges.ofFree ((Steps.reads _).bind free_wrPC)).weaken (by decide) (by decide)
  | invalidPrefixed => exact charges_simError _ _

lemma allInsns_clocks : ∀ i ∈ allInsns, 2 ≤ i.clocks.1 ∧ i.clocks.2 ≤ 20 := by
  decide +kernel

lemma free_cpuFetch : Steps Free (cpuFetch : M σ Insn) := by
  refine Steps.bind (free_modify fun _ => rfl) fun _ =>
    free_immByte.bind fun opcode => ?_
  rcases insns0.lookup opcode with _ | (i | _ | _)
  · exact Steps.pure _
  · exact Steps.pure _
  · exact free_immByte.bind fun _ => Steps.pure _
  · exact free_immByte.bind fun _ => Steps.pure _

lemma cpuFetch_mem {s t : Cpu σ} {i : Insn} (h : cpuFetch s = .ok (i, t)) : i ∈ allInsns := by
  obtain ⟨_, s₁, -, k⟩ := bind_eq_ok.mp h
  exact decode_mem k

/-- **An instruction that does not call `sim_error` costs at least 2 and at most 20 cycles.** -/
lemma charges_cpuInsn : Charges 2 20 (cpuInsn : M σ Unit) := by
  rw [cpuInsn_eq_body]
  intro s _ t h
  obtain ⟨i, m, hb, hc⟩ := bind_eq_ok.mp h
  obtain ⟨u, hf, hx⟩ := cpuBody_eq_ok hb
  obtain ⟨hlo, hhi⟩ := allInsns_clocks i (cpuFetch_mem hf)
  obtain ⟨he₁, hc₁, hp₁⟩ := free_cpuFetch _ _ _ hf
  obtain ⟨he₂, hp₂, hc₂⟩ := i.charges_exec _ _ _ hx
  obtain ⟨he₃, hc₃, hp₃⟩ := free_ccCheck _ _ _ hc
  refine ⟨he₁.trans (he₂.trans he₃), hp₃.trans (hp₂.trans hp₁), fun hu => ?_⟩
  have hclk := hc₂ (by omega)
  omega

end Exec09
