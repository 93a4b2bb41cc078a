import Exec09.Monitor.Dasm
import Exec09.Properties.Costs
import Exec09.Properties.Modes
import Exec09.Properties.Rejected

/-!
# How far an instruction moves `PC`

The interpreter knows no length of an instruction: it moves `PC` where it fetches.
`Insn.addrMode` says which of the disassembler's modes an instruction is listed under, and `Moves`
follows `PC` through the interpreter.  Where nothing is reported to the user and no handler is
entered, an instruction that does not transfer control moves `PC` by the size of its mode.
-/

namespace Exec09

open Program

variable {σ α β : Type}

/-! ## What moves `PC` -/

/-- The calls of `sim_error` and the entries of a handler so far. -/
def Cpu.alarms (s : Cpu σ) : Nat := s.simErrors + s.hist.countP Event.isEntry

/-- From `s` to `t`, `PC` has moved by `n` unless there was an alarm. -/
structure Moved (n : Unsigned) (s t : Cpu σ) : Prop where
  alarms : s.alarms ≤ t.alarms
  pc : t.alarms = s.alarms → t.PC = s.PC + n

/-- Every normal run of `m` moves `PC` by `n`. -/
abbrev Moves (n : Unsigned) (m : M σ α) : Prop := Steps (Moved n) m

lemma Moved.trans {m n : Unsigned} {s t u : Cpu σ} (h : Moved m s t) (h' : Moved n t u) :
    Moved (m + n) s u := by
  refine ⟨h.alarms.trans h'.alarms, fun hu => ?_⟩
  have h₁ := h.alarms
  have h₂ := h'.alarms
  rw [h'.pc (by omega), h.pc (by omega), BitVec.add_assoc]

lemma Moved.after {n : Unsigned} {s t u : Cpu σ} (h : Moved 0 s t) (h' : Moved n t u) :
    Moved n s u := by
  simpa using h.trans h'

/-- The variables `Moved` is about. -/
def Cpu.marks (s : Cpu σ) : Unsigned × Nat × List Event := (s.PC, s.simErrors, s.hist)

/-- `PC` stays where it is unless a handler is entered. -/
lemma Moved.of_hist {s t : Cpu σ} {es : List Event} (he : s.simErrors ≤ t.simErrors)
    (hh : t.hist = es ++ s.hist) (hs : (∀ e ∈ es, e.isEntry = false) → t.PC = s.PC) :
    Moved 0 s t := by
  have hn : t.hist.countP Event.isEntry =
      es.countP Event.isEntry + s.hist.countP Event.isEntry := by
    rw [hh, List.countP_append]
  refine ⟨?_, fun ha => ?_⟩
  · simp only [Cpu.alarms]
    omega
  · simp only [Cpu.alarms] at ha
    have none : ∀ e ∈ es, ¬e.isEntry = true := List.countP_eq_zero.mp (by omega)
    simpa using hs fun e hm => Bool.not_eq_true _ ▸ none e hm

lemma Moved.of_marks {s t : Cpu σ} (h : t.marks = s.marks) : Moved 0 s t := by
  obtain ⟨hpc, he, hh⟩ : t.PC = s.PC ∧ t.simErrors = s.simErrors ∧ t.hist = s.hist := by
    simpa only [Cpu.marks, Prod.mk.injEq] using h
  have hh' : t.hist = ([] : List Event) ++ s.hist := hh
  exact Moved.of_hist he.ge hh' fun _ => hpc

namespace Moves

variable {n : Unsigned} {m : M σ α} {f : α → M σ β}

lemma bind {n' : Unsigned} (hm : Moves n m) (hf : ∀ a, Moves n' (f a)) : Moves (n + n') (m >>= f) := by
  intro s b u h
  obtain ⟨a, t, h₁, h₂⟩ := bind_eq_ok.mp h
  exact (hm s a t h₁).trans (hf a t b u h₂)

/-- A step that does not move `PC` before the rest. -/
lemma after (hm : Moves 0 m) (hf : ∀ a, Moves n (f a)) : Moves n (m >>= f) := by
  intro s b u h
  obtain ⟨a, t, h₁, h₂⟩ := bind_eq_ok.mp h
  exact (hm s a t h₁).after (hf a t b u h₂)

/-- Steps that do not move `PC` after the rest. -/
lemma before (hm : Moves n m) (hf : ∀ a, Moves 0 (f a)) : Moves n (m >>= f) := by
  simpa using hm.bind hf

lemma ofMarks (h : Keeps Cpu.marks m) : Moves 0 m := h.mono fun _ _ => Moved.of_marks

lemma modify {g : Cpu σ → Cpu σ} (h : ∀ s, (g s).marks = s.marks) : Moves 0 (modify g : M σ Unit) :=
  ofMarks (Steps.modify h)

lemma pure (a : α) : Moves 0 (pure a : M σ α) := ofMarks (Steps.pure a)

lemma reads (g : Cpu σ → α) : Moves 0 (reads g : M σ α) := ofMarks (Steps.reads g)

lemma whenever {c : Prop} [Decidable c] {m : M σ Unit} (h : c → Moves 0 m) :
    Moves 0 (whenever c m) := by
  by_cases hc : c
  · rw [Program.whenever, if_pos hc]
    exact h hc
  · rw [Program.whenever, if_neg hc]
    exact pure ()

end Moves

/-! ## Registers -/

lemma moves_skip (n : Unsigned) : Moves n (skip n : M σ Unit) := by
  intro s _ t h
  cases h
  exact ⟨Nat.le_refl _, fun _ => rfl⟩

lemma moves_tick (n : Int) : Moves 0 (tick n : M σ Unit) := Moves.modify fun _ => rfl

lemma moves_alu (g : Flags → α × Flags) : Moves 0 (alu g : M σ α) :=
  Moves.ofMarks (Steps.modifyGet fun _ => rfl)

lemma moves_unary (g : Unsigned → Flags → Unsigned × Flags) (arg : Unsigned) :
    Moves 0 (unary g arg : M σ Unsigned) :=
  (moves_alu _).after fun _ => (moves_tick 2).after fun _ => Moves.pure _

lemma Acc.moves_get (r : Acc) : Moves 0 (r.get : M σ Unsigned) := by
  cases r <;> exact Moves.reads _

lemma Acc.moves_put (r : Acc) (v : Unsigned) : Moves 0 (r.put v : M σ Unit) := by
  cases r <;> exact Moves.modify fun _ => rfl

lemma IndexReg.moves_get (R : IndexReg) : Moves 0 (R.get : M σ Unsigned) := by
  cases R <;> exact Moves.reads _

lemma IndexReg.moves_put (R : IndexReg) (v : Unsigned) : Moves 0 (R.put v : M σ Unit) := by
  cases R <;> exact Moves.modify fun _ => rfl

lemma Cmp16.moves_get (r : Cmp16) : Moves 0 (r.get : M σ Unsigned) := by
  cases r <;> exact Moves.reads _

lemma moves_wrEa (v : Unsigned) : Moves 0 (wrEa v : M σ Unit) := Moves.modify fun _ => rfl

lemma moves_wrAB (res : Unsigned) : Moves 0 (wrAB res : M σ Unit) :=
  Moves.after (Moves.modify fun _ => rfl) fun _ => Moves.modify fun _ => rfl

lemma Bin16.moves_run (op : Bin16) (v : Unsigned) : Moves 0 (op.run v : M σ Unit) := by
  cases op <;> exact (Moves.reads _).after fun _ => (moves_alu _).after moves_wrAB

lemma moves_wrA (v : Unsigned) : Moves 0 (wrA v : M σ Unit) := Moves.modify fun _ => rfl
lemma moves_wrB (v : Unsigned) : Moves 0 (wrB v : M σ Unit) := Moves.modify fun _ => rfl
lemma moves_wrX (v : Unsigned) : Moves 0 (wrX v : M σ Unit) := Moves.modify fun _ => rfl
lemma moves_wrY (v : Unsigned) : Moves 0 (wrY v : M σ Unit) := Moves.modify fun _ => rfl
lemma moves_wrU (v : Unsigned) : Moves 0 (wrU v : M σ Unit) := Moves.modify fun _ => rfl
lemma moves_wrS (v : Unsigned) : Moves 0 (wrS v : M σ Unit) := Moves.modify fun _ => rfl
lemma moves_wrDP (v : Unsigned) : Moves 0 (wrDP v : M σ Unit) := Moves.modify fun _ => rfl
lemma moves_wrZ (v : Unsigned) : Moves 0 (wrZ v : M σ Unit) := Moves.modify fun _ => rfl

lemma moves_setCc (v : Unsigned) : Moves 0 (setCc v : M σ Unit) := Moves.modify fun _ => rfl

/-- Only register number 5 is `PC`. -/
lemma marks_setReg (s : Cpu σ) {nro : Unsigned} (val : Unsigned) (h : nro ≠ 5) :
    (s.setReg nro val).marks = s.marks := by
  have hpc : regOfNumber nro ≠ some .PC := by
    intro hr
    unfold regOfNumber at hr
    split at hr <;> first
      | (exact absurd (BitVec.eq_of_toNat_eq ‹_›) h)
      | cases hr
  unfold Cpu.setReg
  rcases hr : regOfNumber nro with _ | r
  · rfl
  · cases r with
    | PC => exact absurd hr hpc
    | _ => rfl

/-! ## The bus -/

variable [Machine σ]

lemma simError_alarms {s t : Cpu σ} {a : Unit} (h : simError s = .ok (a, t)) :
    s.alarms < t.alarms := by
  obtain ⟨_, s₁, h₁, k₁⟩ := bind_eq_ok.mp h
  cases h₁
  split at k₁
  · cases k₁
    exact Nat.add_lt_add_right (Nat.lt_succ_self _) _
  · cases k₁

omit [Machine σ] in
/-- An instruction that has been reported is not followed any further. -/
lemma Moved.of_alarm {n : Unsigned} {s t : Cpu σ} (h : s.alarms < t.alarms) : Moved n s t :=
  ⟨h.le, fun he => absurd he h.ne'⟩

lemma moves_simError (n : Unsigned) : Moves n (simError : M σ Unit) :=
  fun _ _ _ h => Moved.of_alarm (simError_alarms h)

lemma moves_signal (x : Signal) : Moves 0 (signal x : M σ Unit) := by
  cases x with
  | simError => exact moves_simError 0
  | monitor on => exact Moves.modify fun _ => rfl
  | exit code => exact Steps.throw _

lemma moves_signals (l : List Signal) : Moves 0 (l.forM signal : M σ Unit) := by
  induction l with
  | nil => exact Moves.pure _
  | cons x l ih => exact (moves_signal x).after fun _ => ih

lemma moves_access (call : View → σ → Reply σ β) : Moves 0 (access call : M σ β) :=
  Moves.after (Moves.ofMarks (Steps.modifyGet fun _ => rfl)) fun _ =>
    (moves_signals _).after fun _ => Moves.pure _

lemma moves_rdmem (addr : Unsigned) : Moves 0 (rdmem addr : M σ Unsigned) :=
  (moves_access _).after fun _ => Moves.pure _

lemma moves_read16 (addr : Unsigned) : Moves 0 (read16 addr : M σ Unsigned) :=
  (moves_access _).after fun _ => Moves.pure _

lemma moves_rdmem16 (addr : Unsigned) : Moves 0 (rdmem16 addr : M σ Unsigned) :=
  (moves_rdmem _).after fun _ => (moves_tick 1).after fun _ => (moves_rdmem _).after fun _ =>
    Moves.pure _

lemma moves_rdmemEa : Moves 0 (rdmemEa : M σ Unsigned) := (Moves.reads _).after moves_rdmem

lemma moves_rdmem16Ea : Moves 0 (rdmem16Ea : M σ Unsigned) := (Moves.reads _).after moves_rdmem16

lemma moves_immByte : Moves 1 (immByte : M σ Unsigned) :=
  (Moves.reads _).after fun _ => (moves_rdmem _).after fun _ => (moves_skip 1).before fun _ =>
    Moves.pure _

lemma moves_immWord : Moves 2 (immWord : M σ Unsigned) :=
  (Moves.reads _).after fun _ => (moves_read16 _).after fun _ => (moves_skip 2).before fun _ =>
    Moves.pure _

/-- **A write moves `PC` only by entering a handler.** -/
lemma moves_wrmem (a d : Unsigned) : Moves 0 (wrmem a d : M σ Unit) := by
  intro s _ t h
  obtain ⟨-, es, hh, hs⟩ := undisturbed_wrmem a d s _ t h
  exact Moved.of_hist (free_wrmem a d s _ t h).errors hh fun hn => congrArg Still.PC (hs hn)

lemma moves_wrmemEa (data : Unsigned) : Moves 0 (wrmemEa data : M σ Unit) :=
  (Moves.reads _).after fun _ => moves_wrmem _ _

lemma moves_wrmem16 (addr data : Unsigned) : Moves 0 (wrmem16 addr data : M σ Unit) :=
  (moves_wrmem _ _).after fun _ => (moves_tick 1).after fun _ => moves_wrmem _ _

lemma moves_ccCheck : Moves 0 (ccCheck : M σ Unit) := by
  intro s _ t h
  obtain ⟨-, es, hh, hs⟩ := ccCheck_undisturbed h
  refine Moved.of_hist (free_ccCheck s _ t h).errors hh fun hn => ?_
  rcases hs hn with rfl | rfl <;> rfl

/-! ## The sizes of the modes -/

/-- The bytes `dasm` takes behind the index postbyte `op`. -/
def indexedSize (op : U8) : Nat :=
  if op &&& 0x80 = 0 then 0
  else
    match (op &&& 0x1f).toNat with
    | 0x08 | 0x0c | 0x18 | 0x1c => 1
    | 0x09 | 0x0d | 0x19 | 0x1d | 0x1f => 2
    | _ => 0

/-- The bytes `dasm` takes behind the opcode when `op` is the first of them. -/
def AddrMode.size (op : U8) : AddrMode → Nat
  | .illegal | .implied => 0
  | .immByte | .direct | .relByte | .regPost | .sysPost | .usrPost => 1
  | .immWord | .extended | .relWord => 2
  | .indexed => 1 + indexedSize op

/-- The bytes the interpreter takes behind the postbyte. -/
def IndexMode.size : IndexMode → Nat
  | .off8 | .pc8 => 1
  | .off16 | .pc16 | .ext => 2
  | _ => 0

def Post.size : Post → Nat
  | .mode _ i => i.mode.size
  | _ => 0

set_option maxRecDepth 4000 in
/-- The two switches over the index postbytes agree. -/
lemma size_decodePost : ∀ op : U8, (decodePost (op.setWidth 32)).size = indexedSize op := by decide

/-! ## The addressing modes -/

lemma moves_indirect : Moves 0 (indirect : M σ Unit) :=
  moves_rdmem16Ea.after fun _ => (moves_wrEa _).after fun _ => moves_tick 2

lemma IndexMode.moves_addr (R : IndexReg) (m : IndexMode) :
    Moves (BitVec.ofNat 32 m.size) (m.addr R : M σ Unit) := by
  have pc (k : Unsigned → Unsigned) :
      Moves 0 (do wrEa (k ((← rdEa) + (← Program.reads Cpu.PC))) : M σ Unit) :=
    (Moves.reads _).after fun _ => (Moves.reads _).after fun _ => moves_wrEa _
  cases m with
  | inc n =>
      exact R.moves_get.after fun _ => (moves_wrEa _).after fun _ => R.moves_get.after fun _ =>
        R.moves_put _
  | dec n =>
      exact R.moves_get.after fun _ => (R.moves_put _).after fun _ => R.moves_get.after fun _ =>
        moves_wrEa _
  | zero => exact R.moves_get.after fun _ => moves_wrEa _
  | accB | accA | accD =>
      exact R.moves_get.after fun _ => (Moves.reads _).after fun _ => moves_wrEa _
  | off8 => exact R.moves_get.after fun _ => moves_immByte.before fun _ => moves_wrEa _
  | off16 => exact R.moves_get.after fun _ => moves_immWord.before fun _ => moves_wrEa _
  | pc8 => exact moves_immByte.before fun _ => (moves_wrEa _).after fun _ => pc (· &&& 0xffff)
  | pc16 => exact moves_immWord.before fun _ => (moves_wrEa _).after fun _ => pc (· &&& 0xffff)
  | ext => exact moves_immWord.before fun _ => moves_wrEa _

lemma Index.moves_exec (i : Index) (R : IndexReg) :
    Moves (BitVec.ofNat 32 i.mode.size) (i.exec R : M σ Unit) := by
  refine (i.mode.moves_addr R).before fun _ => (moves_tick _).after fun _ => ?_
  cases i.indirect with
  | false => exact Moves.pure ()
  | true => exact moves_indirect

lemma moves_indexedPost (op : U8) :
    Moves (BitVec.ofNat 32 (indexedSize op)) (indexedPost (op.setWidth 32) : M σ Unit) := by
  rw [indexedPost_eq, ← size_decodePost]
  cases decodePost (op.setWidth 32) with
  | offset R n =>
      exact R.moves_get.after fun _ => (moves_wrEa _).after fun _ => moves_tick 5
  | mode R i => exact i.moves_exec R
  | illegal => exact (moves_wrEa 0).after fun _ => moves_simError _

/-- The byte at `PC` is `op`, whoever looks. -/
def Cpu.Next (s : Cpu σ) (op : U8) : Prop := ∀ v, (Machine.read8 v s.world s.PC).val = op

lemma Cpu.Next.operand {s : Cpu σ} {op : U8} (h : s.Next op) : s.operand = op.setWidth 32 := by
  rw [Cpu.operand, h]

lemma moved_immByte_bind {k : Unsigned → M σ α} {n : Unsigned} {s t : Cpu σ} {a : α} {op : U8}
    (ho : s.Next op) (h : (immByte >>= k) s = .ok (a, t)) (hk : Moves n (k (op.setWidth 32))) :
    Moved (1 + n) s t := by
  obtain ⟨v, u, hu, h⟩ := bind_eq_ok.mp h
  rw [immByte_eq_ok hu, ho.operand] at h
  exact (moves_immByte s v u hu).trans (hk u a t h)

lemma moved_indexed_bind {k : M σ Unit} {s t : Cpu σ} {op : U8} (ho : s.Next op) (hk : Moves 0 k)
    (h : (do indexed; k) s = .ok ((), t)) :
    Moved (BitVec.ofNat 32 (1 + indexedSize op)) s t := by
  rw [indexed, bind_assoc] at h
  rw [BitVec.ofNat_add]
  exact moved_immByte_bind ho h ((moves_indexedPost op).before fun _ => hk)

/-- The mode under which `dasm` lists an address computation. -/
def Ea.addrMode : Ea → AddrMode
  | .direct _ => .direct
  | .extended _ => .extended
  | .indexed | .tickIndexed _ | .indexedTick _ => .indexed

lemma Ea.moved_andThen {ea : Ea} {k : M σ Unit} {s t : Cpu σ} {op : U8} (ho : s.Next op)
    (hk : Moves 0 k) (h : ea.andThen k s = .ok ((), t)) :
    Moved (BitVec.ofNat 32 (ea.addrMode.size op)) s t := by
  cases ea with
  | direct clk =>
      have one : Moves 1 (Exec09.direct : M σ Unit) :=
        (Moves.reads _).after fun _ => (moves_rdmem _).after fun v s _ t h => by
          cases h
          exact ⟨Nat.le_refl _, fun _ => rfl⟩
      exact (one.before fun _ => (moves_tick clk).after fun _ => hk) s _ t h
  | extended clk =>
      have two : Moves 2 (Exec09.extended : M σ Unit) := moves_immWord.before fun _ => moves_wrEa _
      exact (two.before fun _ => (moves_tick clk).after fun _ => hk) s _ t h
  | indexed => exact moved_indexed_bind ho hk h
  | tickIndexed clk =>
      obtain ⟨_, u, hu, h⟩ := bind_eq_ok.mp h
      cases hu
      have later : Cpu.Next { s with cpuClk := s.cpuClk - clk } op := ho
      exact (moves_tick clk s () _ rfl).after (moved_indexed_bind later hk h)
  | indexedTick clk => exact moved_indexed_bind ho ((moves_tick clk).after fun _ => hk) h

lemma Ea.addrMode_ne (ea : Ea) : ea.addrMode ≠ .implied ∧ ea.addrMode ≠ .illegal := by
  cases ea <;> exact ⟨nofun, nofun⟩

def Src8.addrMode : Src8 → AddrMode
  | .imm => .immByte
  | .mem ea => ea.addrMode

def Src16.addrMode : Src16 → AddrMode
  | .imm _ => .immWord
  | .mem ea => ea.addrMode

lemma Src8.addrMode_ne (src : Src8) : src.addrMode ≠ .implied ∧ src.addrMode ≠ .illegal := by
  cases src with
  | imm => exact ⟨nofun, nofun⟩
  | mem ea => exact ea.addrMode_ne

lemma Src16.addrMode_ne (src : Src16) : src.addrMode ≠ .implied ∧ src.addrMode ≠ .illegal := by
  cases src with
  | imm clk => exact ⟨nofun, nofun⟩
  | mem ea => exact ea.addrMode_ne

lemma Src8.moved_andThen {src : Src8} {k : M σ Unsigned → M σ Unit} {s t : Cpu σ} {op : U8}
    (ho : s.Next op) (hk : ∀ (n : Unsigned) (v : M σ Unsigned), Moves n v → Moves n (k v))
    (h : src.andThen k s = .ok ((), t)) : Moved (BitVec.ofNat 32 (src.addrMode.size op)) s t := by
  cases src with
  | imm => exact ((moves_tick 2).after fun _ => hk 1 _ moves_immByte) s _ t h
  | mem ea => exact ea.moved_andThen ho (hk 0 _ moves_rdmemEa) h

lemma Src16.moved_andThen {src : Src16} {k : M σ Unsigned → M σ Unit} {s t : Cpu σ} {op : U8}
    (ho : s.Next op) (hk : ∀ (n : Unsigned) (v : M σ Unsigned), Moves n v → Moves n (k v))
    (h : src.andThen k s = .ok ((), t)) : Moved (BitVec.ofNat 32 (src.addrMode.size op)) s t := by
  cases src with
  | imm clk => exact ((moves_tick clk).after fun _ => hk 2 _ moves_immWord) s _ t h
  | mem ea => exact ea.moved_andThen ho (hk 0 _ moves_rdmem16Ea) h

/-! ## Instructions -/

omit [Machine σ] in
/-- The mode under which `dasm` lists an instruction. -/
def Insn.addrMode : Insn → AddrMode
  | .unaryMem _ ea | .tstMem ea | .jmp ea | .jsr ea | .st8 _ ea | .std ea | .st16 _ ea => ea.addrMode
  | .bin8 _ _ src | .test8 _ _ src | .ld8 _ src => src.addrMode
  | .bin16 _ src | .ldd src | .cmp16 _ src | .ld16 _ src => src.addrMode
  | .lea _ | .leaStack _ => .indexed
  | .bra | .brn | .branch _ | .bsr => .relByte
  | .longBra | .longBrn | .longBranch _ | .longBsr => .relWord
  | .orcc | .andcc | .cwai => .immByte
  | .exg | .tfr => .regPost
  | .pshs | .puls => .sysPost
  | .pshu | .pulu => .usrPost
  | .unaryAcc _ _ | .tstAcc _ | .nop | .sync | .daa | .sex | .abx | .mul | .rts | .rti
  | .swi | .swi2 | .swi3 => .implied
  | .invalid | .invalidPrefixed => .illegal

omit [Machine σ] in
/-- The instruction transfers control: a jump, call or return, a branch that is taken, or a
transfer, exchange or pull into `PC`.  `post` is the byte behind the opcode. -/
def Insn.transfers (post : Unsigned) (f : Flags) : Insn → Bool
  | .jmp _ | .jsr _ | .bra | .bsr | .longBra | .longBsr | .rts | .rti | .swi | .swi2 | .swi3 => true
  | .branch c | .longBranch c => c.holds f
  | .tfr => post &&& 15 = 5
  | .exg => post &&& 15 = 5 ∨ post >>> 4 = 5
  | .puls | .pulu => post &&& 0x80 ≠ 0
  | _ => false

lemma moves_pushS16 (data : Unsigned) : Moves 0 (pushS16 data : M σ Unit) :=
  Moves.after (Moves.modify fun _ => rfl) fun _ => (Moves.reads _).after fun _ =>
    (moves_wrmem _ _).after fun _ => moves_wrmem _ _

lemma moves_pushS8 (data : Unsigned) : Moves 0 (pushS8 data : M σ Unit) :=
  Moves.after (Moves.modify fun _ => rfl) fun _ => (Moves.reads _).after fun _ => moves_wrmem _ _

lemma moves_pushU16 (data : Unsigned) : Moves 0 (pushU16 data : M σ Unit) :=
  Moves.after (Moves.modify fun _ => rfl) fun _ => (Moves.reads _).after fun _ =>
    (moves_wrmem _ _).after fun _ => moves_wrmem _ _

lemma moves_pushU8 (data : Unsigned) : Moves 0 (pushU8 data : M σ Unit) :=
  Moves.after (Moves.modify fun _ => rfl) fun _ => (Moves.reads _).after fun _ => moves_wrmem _ _

lemma moves_readStack16 (addr : Unsigned) : Moves 0 (readStack16 addr : M σ Unsigned) :=
  (moves_rdmem _).after fun _ => (moves_rdmem _).after fun _ => Moves.pure _

lemma moves_pullS8 : Moves 0 (pullS8 : M σ Unsigned) :=
  (Moves.reads _).after fun _ => (moves_rdmem _).after fun _ =>
    Moves.after (Moves.modify fun _ => rfl) fun _ => Moves.pure _

lemma moves_pullS16 : Moves 0 (pullS16 : M σ Unsigned) :=
  (Moves.reads _).after fun _ => (moves_readStack16 _).after fun _ =>
    Moves.after (Moves.modify fun _ => rfl) fun _ => Moves.pure _

lemma moves_pullU8 : Moves 0 (pullU8 : M σ Unsigned) :=
  (Moves.reads _).after fun _ => (moves_rdmem _).after fun _ =>
    Moves.after (Moves.modify fun _ => rfl) fun _ => Moves.pure _

lemma moves_pullU16 : Moves 0 (pullU16 : M σ Unsigned) :=
  (Moves.reads _).after fun _ => (moves_readStack16 _).after fun _ =>
    Moves.after (Moves.modify fun _ => rfl) fun _ => Moves.pure _

omit [Machine σ] in
/-- One register of a push or pull mask. -/
lemma moves_masked {c : Prop} [Decidable c] {n : Int} {m : M σ Unit} (hm : c → Moves 0 m) :
    Moves 0 (whenever c do tick n; m) :=
  Moves.whenever fun hc => (moves_tick n).after fun _ => hm hc

lemma moves_pshsPost (post : Unsigned) : Moves 0 (pshsPost post : M σ Unit) :=
  have r16 (f : Cpu σ → Unsigned) (g : Unsigned → Unsigned) :
      Moves 0 (reads f >>= fun v => pushS16 (g v) : M σ Unit) :=
    (Moves.reads f).after fun _ => moves_pushS16 _
  have r8 (f : Cpu σ → Unsigned) (g : Unsigned → Unsigned) :
      Moves 0 (reads f >>= fun v => pushS8 (g v) : M σ Unit) :=
    (Moves.reads f).after fun _ => moves_pushS8 _
  (moves_tick 5).after fun _ =>
  (moves_masked fun _ => r16 _ (· &&& 0xffff)).after fun _ =>
  (moves_masked fun _ => r16 _ id).after fun _ =>
  (moves_masked fun _ => r16 _ id).after fun _ =>
  (moves_masked fun _ => r16 _ id).after fun _ =>
  (moves_masked fun _ => r8 _ (· >>> 8)).after fun _ =>
  (moves_masked fun _ => r8 _ id).after fun _ =>
  (moves_masked fun _ => r8 _ id).after fun _ =>
  moves_masked fun _ => r8 _ id

lemma moves_pshuPost (post : Unsigned) : Moves 0 (pshuPost post : M σ Unit) :=
  have r16 (f : Cpu σ → Unsigned) (g : Unsigned → Unsigned) :
      Moves 0 (reads f >>= fun v => pushU16 (g v) : M σ Unit) :=
    (Moves.reads f).after fun _ => moves_pushU16 _
  have r8 (f : Cpu σ → Unsigned) (g : Unsigned → Unsigned) :
      Moves 0 (reads f >>= fun v => pushU8 (g v) : M σ Unit) :=
    (Moves.reads f).after fun _ => moves_pushU8 _
  (moves_tick 5).after fun _ =>
  (moves_masked fun _ => r16 _ (· &&& 0xffff)).after fun _ =>
  (moves_masked fun _ => r16 _ id).after fun _ =>
  (moves_masked fun _ => r16 _ id).after fun _ =>
  (moves_masked fun _ => r16 _ id).after fun _ =>
  (moves_masked fun _ => r8 _ (· >>> 8)).after fun _ =>
  (moves_masked fun _ => r8 _ id).after fun _ =>
  (moves_masked fun _ => r8 _ id).after fun _ =>
  moves_masked fun _ => r8 _ id

lemma moves_pulsPost {post : Unsigned} (hp : ¬post &&& 0x80 ≠ 0) :
    Moves 0 (pulsPost post : M σ Unit) :=
  (moves_tick 5).after fun _ =>
  (moves_masked fun _ => moves_pullS8.after fun _ => moves_setCc _).after fun _ =>
  (moves_masked fun _ => moves_pullS8.after fun _ => moves_wrA _).after fun _ =>
  (moves_masked fun _ => moves_pullS8.after fun _ => moves_wrB _).after fun _ =>
  (moves_masked fun _ => moves_pullS8.after fun _ => moves_wrDP _).after fun _ =>
  (moves_masked fun _ => moves_pullS16.after fun _ => moves_wrX _).after fun _ =>
  (moves_masked fun _ => moves_pullS16.after fun _ => moves_wrY _).after fun _ =>
  (moves_masked fun _ => moves_pullS16.after fun _ => moves_wrU _).after fun _ =>
  moves_masked fun hc => absurd hc hp

lemma moves_puluPost {post : Unsigned} (hp : ¬post &&& 0x80 ≠ 0) :
    Moves 0 (puluPost post : M σ Unit) :=
  (moves_tick 5).after fun _ =>
  (moves_masked fun _ => moves_pullU8.after fun _ => moves_setCc _).after fun _ =>
  (moves_masked fun _ => moves_pullU8.after fun _ => moves_wrA _).after fun _ =>
  (moves_masked fun _ => moves_pullU8.after fun _ => moves_wrB _).after fun _ =>
  (moves_masked fun _ => moves_pullU8.after fun _ => moves_wrDP _).after fun _ =>
  (moves_masked fun _ => moves_pullU16.after fun _ => moves_wrX _).after fun _ =>
  (moves_masked fun _ => moves_pullU16.after fun _ => moves_wrY _).after fun _ =>
  (moves_masked fun _ => moves_pullU16.after fun _ => moves_wrS _).after fun _ =>
  moves_masked fun hc => absurd hc hp

lemma moved_immByte_move {k : Unsigned → M σ Unit} {s t : Cpu σ} {op : U8}
    (ho : s.Next op) (h : (immByte >>= k) s = .ok ((), t)) (hk : Moves 0 (k (op.setWidth 32))) :
    Moved 1 s t := by
  simpa using moved_immByte_bind ho h hk

/-- **An instruction that does not transfer control moves `PC` by the size of its mode.** -/
lemma Insn.moved_exec {i : Insn} {s t : Cpu σ} {op : U8}
    (ho : i.addrMode ≠ .implied → s.Next op)
    (ht : i.transfers (op.setWidth 32) s.flags = false) (h : i.exec s = .ok ((), t)) :
    Moved (BitVec.ofNat 32 (i.addrMode.size op)) s t := by
  cases i with
  | unaryMem op' ea =>
      exact ea.moved_andThen (ho ea.addrMode_ne.1) (moves_rdmemEa.after fun _ => (moves_unary _ _).after fun _ =>
        moves_wrmemEa _) h
  | tstMem ea =>
      exact ea.moved_andThen (ho ea.addrMode_ne.1) (moves_rdmemEa.after fun _ => (moves_alu _).after fun _ =>
        moves_tick 2) h
  | unaryAcc op' r =>
      exact (r.moves_get.after fun _ => (moves_unary _ _).after fun _ => r.moves_put _) s _ t h
  | tstAcc r =>
      exact (r.moves_get.after fun _ => (moves_alu _).after fun _ => moves_tick 2) s _ t h
  | bin8 op' r src =>
      exact src.moved_andThen (ho src.addrMode_ne.1) (fun _ _ hv => r.moves_get.after fun _ => hv.before fun _ =>
        (moves_alu _).after fun _ => r.moves_put _) h
  | test8 op' r src =>
      exact src.moved_andThen (ho src.addrMode_ne.1) (fun _ _ hv => r.moves_get.after fun _ => hv.before fun _ =>
        moves_alu _) h
  | ld8 r src =>
      exact src.moved_andThen (ho src.addrMode_ne.1) (fun _ _ hv => hv.before fun _ => (moves_alu _).after fun _ =>
        r.moves_put _) h
  | st8 r ea =>
      exact ea.moved_andThen (ho ea.addrMode_ne.1) (r.moves_get.after fun _ => (moves_alu _).after fun _ =>
        moves_wrmemEa _) h
  | bin16 op' src =>
      cases src with
      | imm clk =>
          exact ((moves_tick clk).after fun _ => moves_immWord.before fun _ => op'.moves_run _) s _ t h
      | mem ea =>
          exact ea.moved_andThen (ho ea.addrMode_ne.1) (moves_rdmem16Ea.after fun _ => (op'.moves_run _).after fun _ =>
            moves_tick 1) h
  | ldd src =>
      exact src.moved_andThen (ho src.addrMode_ne.1) (fun _ _ hv => hv.before fun _ => (moves_alu _).after fun _ =>
        moves_wrAB _) h
  | std ea =>
      exact ea.moved_andThen (ho ea.addrMode_ne.1) ((Moves.reads _).after fun _ => (Moves.reads _).after fun _ =>
        (moves_alu _).after fun _ => (Moves.reads _).after fun _ => (Moves.reads _).after fun _ =>
        moves_wrmem16 _ _) h
  | cmp16 r src =>
      cases src with
      | imm clk =>
          exact ((moves_tick clk).after fun _ => r.moves_get.after fun _ =>
            moves_immWord.before fun _ => moves_alu _) s _ t h
      | mem ea =>
          exact ea.moved_andThen (ho ea.addrMode_ne.1) (r.moves_get.after fun _ => moves_rdmem16Ea.after fun _ =>
            (moves_alu _).after fun _ => moves_tick 1) h
  | ld16 r src =>
      exact src.moved_andThen (ho src.addrMode_ne.1) (fun _ _ hv => hv.before fun _ => (moves_alu _).after fun _ =>
        r.moves_put _) h
  | st16 r ea =>
      exact ea.moved_andThen (ho ea.addrMode_ne.1) (r.moves_get.after fun _ => (moves_alu _).after fun _ =>
        (Moves.reads _).after fun _ => moves_wrmem16 _ _) h
  | lea r =>
      exact moved_indexed_bind (ho nofun) ((Moves.reads _).after fun _ => (r.moves_put _).after fun _ =>
        (Moves.reads _).after fun _ => moves_wrZ _) h
  | leaStack r =>
      exact moved_indexed_bind (ho nofun) ((Moves.reads _).after fun _ => r.moves_put _) h
  | brn => exact ((moves_skip 1).before fun _ => moves_tick 3) s _ t h
  | branch c =>
      have hc : c.holds s.flags = false := ht
      have hb : Exec09.branch (c.holds s.flags) s = .ok ((), t) := h
      rw [hc] at hb
      exact ((moves_skip 1).before fun _ => moves_tick 3) s _ t hb
  | longBrn => exact ((moves_tick 5).after fun _ => moves_skip 2) s _ t h
  | longBranch c =>
      have hc : c.holds s.flags = false := ht
      have hb : Exec09.longBranch (c.holds s.flags) s = .ok ((), t) := h
      rw [hc] at hb
      exact ((moves_skip 2).before fun _ => moves_tick 5) s _ t hb
  | nop => exact moves_tick 2 s _ t h
  | sync => exact ((moves_tick 4).after fun _ => moves_simError _) s _ t h
  | daa =>
      exact ((Moves.reads _).after fun _ => (moves_alu _).after fun _ => (moves_wrA _).after fun _ =>
        moves_tick 2) s _ t h
  | orcc | andcc =>
      exact moved_immByte_move (ho nofun) h ((Moves.reads _).after fun _ => (moves_setCc _).after fun _ =>
        moves_tick 3)
  | sex =>
      exact ((Moves.reads _).after fun _ => (moves_alu _).after fun _ => (moves_wrA _).after fun _ =>
        moves_tick 2) s _ t h
  | exg =>
      have hp : ¬(op.setWidth 32 &&& 15 = (5 : Unsigned) ∨ op.setWidth 32 >>> 4 = (5 : Unsigned)) :=
        of_decide_eq_false ht
      rw [not_or] at hp
      refine moved_immByte_move (ho nofun) h ?_
      refine Moves.after (Moves.modify fun u => ?_) fun _ => moves_tick 8
      exact (marks_setReg _ _ hp.2).trans (marks_setReg _ _ hp.1)
  | tfr =>
      have hp : ¬op.setWidth 32 &&& 15 = (5 : Unsigned) := of_decide_eq_false ht
      refine moved_immByte_move (ho nofun) h ?_
      exact Moves.after (Moves.modify fun u => marks_setReg _ _ hp) fun _ => moves_tick 6
  | abx =>
      exact ((Moves.reads _).after fun _ => (Moves.reads _).after fun _ => (moves_wrX _).after
        fun _ => moves_tick 3) s _ t h
  | mul =>
      exact ((Moves.reads _).after fun _ => (Moves.reads _).after fun _ => (moves_alu _).after
        fun _ => (moves_wrA _).after fun _ => (moves_wrB _).after fun _ => moves_tick 11) s _ t h
  | cwai => exact moves_simError _ s _ t h
  | pshs => exact moved_immByte_move (ho nofun) h (moves_pshsPost _)
  | puls => exact moved_immByte_move (ho nofun) h (moves_pulsPost (of_decide_eq_false ht))
  | pshu => exact moved_immByte_move (ho nofun) h (moves_pshuPost _)
  | pulu => exact moved_immByte_move (ho nofun) h (moves_puluPost (of_decide_eq_false ht))
  | invalid =>
      obtain ⟨_, u, hu, h⟩ := bind_eq_ok.mp h
      cases hu
      obtain ⟨_, w, hw, h⟩ := bind_eq_ok.mp h
      obtain ⟨pc, w', hw', h⟩ := bind_eq_ok.mp h
      cases hw'
      cases h
      have less := simError_alarms hw
      exact Moved.of_alarm less
  | invalidPrefixed => exact moves_simError _ s _ t h
  | jmp | jsr | bra | bsr | longBra | longBsr | rts | rti | swi | swi2 | swi3 => cases ht

/-- An instruction that is not listed is reported. -/
lemma Insn.legal_of_quiet {i : Insn} {s t : Cpu σ} (h : i.exec s = .ok ((), t))
    (he : t.simErrors = s.simErrors) : i.addrMode ≠ .illegal := by
  cases i with
  | unaryMem _ ea | st8 _ ea | st16 _ ea => exact ea.addrMode_ne.2
  | tstMem ea | jmp ea | jsr ea | std ea => exact ea.addrMode_ne.2
  | bin8 _ _ src | test8 _ _ src => exact src.addrMode_ne.2
  | ld8 _ src => exact src.addrMode_ne.2
  | bin16 _ src | cmp16 _ src | ld16 _ src => exact src.addrMode_ne.2
  | ldd src => exact src.addrMode_ne.2
  | invalid =>
      obtain ⟨_, u, hu, h⟩ := bind_eq_ok.mp h
      cases hu
      obtain ⟨_, w, hw, h⟩ := bind_eq_ok.mp h
      cases h
      exact absurd he (simError_errors hw).1.ne'
  | invalidPrefixed => exact absurd he (simError_errors h).1.ne'
  | _ => nofun

/-! ## Return addresses -/

omit [Machine σ] in
/-- The instruction stacks a return address. -/
def Insn.calls : Insn → Bool
  | .jsr _ | .bsr | .longBsr | .swi | .swi2 | .swi3 => true
  | _ => false

/-- What a call or software interrupt does before it stacks anything. -/
def Insn.upToPush : Insn → M σ Unit
  | .jsr ea => ea.compute
  | .bsr => do
    let tmp ← immByte
    wrEa ((← reads Cpu.PC) + int8 tmp)
  | .longBsr => do
    let tmp ← immWord
    wrEa ((← reads Cpu.PC) + int16 tmp)
  | .swi => do tick 19; modify fun s => { s with EFI := s.EFI ||| E_FLAG }
  | .swi2 | .swi3 => do tick 20; modify fun s => { s with EFI := s.EFI ||| E_FLAG }
  | _ => pure ()

/-- The end of a software interrupt, behind the return address. -/
def swiAfterPush (masks vector : Unsigned) : M σ Unit := do
  pushS16 (← reads Cpu.U)
  pushS16 (← reads Cpu.Y)
  pushS16 (← reads Cpu.X)
  pushS8 ((← reads Cpu.DP) >>> 8)
  pushS8 (← reads Cpu.B)
  pushS8 (← reads Cpu.A)
  pushS8 (← reads Cpu.getCc)
  modify fun s => { s with EFI := s.EFI ||| masks }
  wrPC (← read16 vector)

/-- What a call or software interrupt does once the return address is stacked. -/
def Insn.afterPush : Insn → M σ Unit
  | .jsr _ => do wrPC (← rdEa)
  | .bsr => do tick 7; wrPC (← rdEa)
  | .longBsr => do tick 9; wrPC (← rdEa)
  | .swi => swiAfterPush (I_FLAG ||| F_FLAG) 0xfffa
  | .swi2 => swiAfterPush 0 0xfff4
  | .swi3 => swiAfterPush 0 0xfff2
  | _ => pure ()

/-- A call stacks `PC` once. -/
lemma Insn.exec_of_calls {i : Insn} (hi : i.calls = true) :
    (i.exec : M σ Unit) =
      (do i.upToPush; pushS16 ((← reads Cpu.PC) &&& 0xffff); i.afterPush) := by
  have swi_eq (clk : Int) (masks vector : Unsigned) :
      (swiWith clk masks vector : M σ Unit) = (do
        tick clk
        modify fun s => { s with EFI := s.EFI ||| E_FLAG }
        pushS16 ((← reads Cpu.PC) &&& 0xffff)
        swiAfterPush masks vector) := by
    simp only [swiWith, swiAfterPush, pushAll, pushAllWith, pushS16, pushS8, bind_assoc]
  cases i with
  | jsr ea => rw [Insn.exec, Ea.andThen_eq]; rfl
  | bsr => simp only [Insn.exec, Exec09.bsr, upToPush, afterPush, bind_assoc]
  | longBsr => simp only [Insn.exec, Exec09.longBsr, upToPush, afterPush, bind_assoc]
  | swi => rw [Insn.exec, Exec09.swi, swi_eq]; simp only [upToPush, afterPush, bind_assoc]
  | swi2 => rw [Insn.exec, Exec09.swi2, swi_eq]; simp only [upToPush, afterPush, bind_assoc]
  | swi3 => rw [Insn.exec, Exec09.swi3, swi_eq]; simp only [upToPush, afterPush, bind_assoc]
  | _ => cases hi

/-- In the run from `s` to `t` the word that is stacked first is `data`. -/
def Insn.Stacks (i : Insn) (s t : Cpu σ) (data : Unsigned) : Prop :=
  ∃ u v, i.upToPush s = .ok ((), u) ∧ pushS16 data u = .ok ((), v) ∧ i.afterPush v = .ok ((), t)

instance : Unread (Cpu.hist : Cpu σ → List Event) where
  ofCore _ _ h _ := congrArg Lines.hist (Cpu.lines_of_core h)
  read8 _ _ := rfl
  read16 _ _ := rfl

/-- No handler is entered before the push, as nothing is written. -/
lemma Insn.keepsHist_upToPush (i : Insn) : Keeps Cpu.hist (i.upToPush : M σ Unit) := by
  cases i with
  | jsr ea => exact ea.steps_andThen (fun _ _ h => h) (Steps.pure ())
  | bsr => exact keeps_immByte.bind fun _ => (Steps.reads _).bind fun _ => keeps_wrEa _
  | longBsr => exact keeps_immWord.bind fun _ => (Steps.reads _).bind fun _ => keeps_wrEa _
  | swi | swi2 | swi3 => exact (keeps_tick _).bind fun _ => Steps.modify fun _ => rfl
  | _ => exact Steps.pure ()

/-- Up to the push `PC` moves by the size of the mode. -/
lemma Insn.moved_upToPush {i : Insn} (hi : i.calls = true) {s t : Cpu σ} {op : U8}
    (ho : i.addrMode ≠ .implied → s.Next op) (h : i.upToPush s = .ok ((), t)) :
    Moved (BitVec.ofNat 32 (i.addrMode.size op)) s t := by
  cases i with
  | jsr ea => exact ea.moved_andThen (ho ea.addrMode_ne.1) (Moves.pure ()) h
  | bsr => exact (moves_immByte.before fun _ => (Moves.reads _).after fun _ => moves_wrEa _) s _ t h
  | longBsr =>
      exact (moves_immWord.before fun _ => (Moves.reads _).after fun _ => moves_wrEa _) s _ t h
  | swi | swi2 | swi3 =>
      cases h
      exact Moved.of_marks rfl
  | _ => cases hi

lemma Insn.errors_afterPush (i : Insn) :
    Steps (fun s t => s.simErrors ≤ t.simErrors) (i.afterPush : M σ Unit) := by
  have jump (clk : Int) : Steps (fun s t => s.simErrors ≤ t.simErrors)
      (do tick clk; wrPC (← rdEa) : M σ Unit) :=
    ((Charges.tick clk).thenFree fun _ => (Steps.reads _).bind free_wrPC).mono fun _ _ h => h.errors
  have vectored (masks vector : Unsigned) :
      Steps (fun s t => s.simErrors ≤ t.simErrors) (swiAfterPush masks vector : M σ Unit) :=
    have free : Steps Free (swiAfterPush masks vector : M σ Unit) :=
      (Steps.reads _).bind fun _ => (free_pushS16 _).bind fun _ =>
      (Steps.reads _).bind fun _ => (free_pushS16 _).bind fun _ =>
      (Steps.reads _).bind fun _ => (free_pushS16 _).bind fun _ =>
      (Steps.reads _).bind fun _ => (free_pushS8 _).bind fun _ =>
      (Steps.reads _).bind fun _ => (free_pushS8 _).bind fun _ =>
      (Steps.reads _).bind fun _ => (free_pushS8 _).bind fun _ =>
      (Steps.reads _).bind fun _ => (free_pushS8 _).bind fun _ =>
      Steps.bind (free_modify fun _ => rfl) fun _ => (free_read16 _).bind free_wrPC
    free.mono fun _ _ h => h.errors
  cases i with
  | jsr ea => exact ((Steps.reads _).bind free_wrPC).mono fun _ _ (h : Free _ _) => h.errors
  | bsr | longBsr => exact jump _
  | swi | swi2 | swi3 => exact vectored _ _
  | _ => exact (Steps.pure ()).mono fun _ _ (h : Free _ _) => h.errors

/-- **The return address is `PC` moved by the size of the mode**, where nothing is reported. -/
lemma Insn.stacks_return {i : Insn} (hi : i.calls = true) {s t : Cpu σ} {op : U8}
    (ho : i.addrMode ≠ .implied → s.Next op) (h : i.exec s = .ok ((), t))
    (he : t.simErrors = s.simErrors) :
    i.Stacks s t ((s.PC + BitVec.ofNat 32 (i.addrMode.size op)) &&& 0xffff) := by
  rw [exec_of_calls hi] at h
  obtain ⟨_, u, hu, h⟩ := bind_eq_ok.mp h
  obtain ⟨_, u', hpc, h⟩ := bind_eq_ok.mp h
  cases hpc
  obtain ⟨_, v, hv, h⟩ := bind_eq_ok.mp h
  have hm := i.moved_upToPush hi ho hu
  have hhist : u.hist = s.hist := i.keepsHist_upToPush s _ u hu
  have hpush := (free_pushS16 _ u _ v hv).errors
  have hafter : v.simErrors ≤ t.simErrors := i.errors_afterPush v _ t h
  have hquiet : u.alarms = s.alarms := by
    have hle := hm.alarms
    rw [Cpu.alarms, Cpu.alarms, hhist] at hle ⊢
    omega
  rw [← hm.pc hquiet]
  exact ⟨u, v, hu, hv, h⟩

end Exec09
