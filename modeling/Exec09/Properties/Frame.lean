import Exec09.Cpu.Insn

/-!
# What instructions do to the flags and the interrupt logic

`Cpu.lines` is the state of the interrupt logic: the mask bits, the pending lines, `cc_changed`
and the history.  Only three things change it: a bus write, which may reach a device that works
the lines; an assignment of the condition codes; and the software interrupts, which set bits of
`EFI`.  The flags are changed by the arithmetic helper an instruction uses (`Insn.FlagOp`).
`Insn.Plain`, `Insn.WritesCc` and `Insn.IsSwi` sort the instructions accordingly, and the lemmas
at the end lift any preorder on states from these steps to whole instructions.
-/

namespace Exec09

open Program

variable {σ α β : Type}

/-- The state of the interrupt logic. -/
structure Lines where
  efi : Unsigned
  irqsPending : Unsigned
  firqsPending : Unsigned
  ccChanged : Unsigned
  hist : List Event

def Cpu.lines (s : Cpu σ) : Lines where
  efi := s.EFI
  irqsPending := s.irqsPending
  firqsPending := s.firqsPending
  ccChanged := s.ccChanged
  hist := s.hist

/-- The lines together with the flags: everything but registers, clock and world. -/
structure Core where
  lines : Lines
  flags : Flags

def Cpu.core (s : Cpu σ) : Core where
  lines := s.lines
  flags := s.flags

lemma Cpu.lines_of_core {s t : Cpu σ} (h : t.core = s.core) : t.lines = s.lines :=
  congrArg Core.lines h

/-! ## Programs that leave the core alone -/

/-- An observation that looks at the core and the world only, and finds nothing changed by a
read. -/
class Unread [Machine σ] {ω : Type} (obs : Cpu σ → ω) : Prop where
  ofCore : ∀ s t : Cpu σ, t.core = s.core → t.world = s.world → obs t = obs s
  read8 : ∀ (s : Cpu σ) a,
    obs { s with world := (Machine.read8 s.view s.world a).world } = obs s
  read16 : ∀ (s : Cpu σ) a,
    obs { s with world := (Machine.read16 s.view s.world a).world } = obs s

instance [Machine σ] : Unread (Cpu.core : Cpu σ → Core) where
  ofCore _ _ h _ := h
  read8 _ _ := rfl
  read16 _ _ := rfl

section Keeping

variable [Machine σ] {ω : Type} {obs : Cpu σ → ω} [Unread obs]

lemma keeps_modify {f : Cpu σ → Cpu σ} (h : ∀ s, (f s).core = s.core)
    (hw : ∀ s, (f s).world = s.world) : Keeps obs (modify f : M σ Unit) :=
  Steps.modify fun s => Unread.ofCore s (f s) (h s) (hw s)

lemma keeps_tick (n : Int) : Keeps obs (tick n : M σ Unit) :=
  keeps_modify (fun _ => rfl) fun _ => rfl

lemma keeps_wrA (v : Unsigned) : Keeps obs (wrA v : M σ Unit) :=
  keeps_modify (fun _ => rfl) fun _ => rfl
lemma keeps_wrB (v : Unsigned) : Keeps obs (wrB v : M σ Unit) :=
  keeps_modify (fun _ => rfl) fun _ => rfl
lemma keeps_wrX (v : Unsigned) : Keeps obs (wrX v : M σ Unit) :=
  keeps_modify (fun _ => rfl) fun _ => rfl
lemma keeps_wrY (v : Unsigned) : Keeps obs (wrY v : M σ Unit) :=
  keeps_modify (fun _ => rfl) fun _ => rfl
lemma keeps_wrU (v : Unsigned) : Keeps obs (wrU v : M σ Unit) :=
  keeps_modify (fun _ => rfl) fun _ => rfl
lemma keeps_wrS (v : Unsigned) : Keeps obs (wrS v : M σ Unit) :=
  keeps_modify (fun _ => rfl) fun _ => rfl
lemma keeps_wrEa (v : Unsigned) : Keeps obs (wrEa v : M σ Unit) :=
  keeps_modify (fun _ => rfl) fun _ => rfl
lemma keeps_wrPC (v : Unsigned) : Keeps obs (wrPC v : M σ Unit) :=
  keeps_modify (fun _ => rfl) fun _ => rfl
lemma keeps_wrDP (v : Unsigned) : Keeps obs (wrDP v : M σ Unit) :=
  keeps_modify (fun _ => rfl) fun _ => rfl
lemma keeps_skip (v : Unsigned) : Keeps obs (skip v : M σ Unit) :=
  keeps_modify (fun _ => rfl) fun _ => rfl

omit [Machine σ] [Unread obs] in
lemma IndexReg.keeps_get (R : IndexReg) : Keeps obs (R.get : M σ Unsigned) := by
  cases R <;> exact Steps.reads _

lemma IndexReg.keeps_put (R : IndexReg) (v : Unsigned) :
    Keeps obs (R.put v : M σ Unit) := by
  cases R <;> exact keeps_modify (fun _ => rfl) fun _ => rfl

omit [Machine σ] [Unread obs] in
lemma Acc.keeps_get (r : Acc) : Keeps obs (r.get : M σ Unsigned) := by
  cases r <;> exact Steps.reads _

lemma Acc.keeps_put (r : Acc) (v : Unsigned) : Keeps obs (r.put v : M σ Unit) := by
  cases r <;> exact keeps_modify (fun _ => rfl) fun _ => rfl

omit [Machine σ] [Unread obs] in
lemma Cmp16.keeps_get (r : Cmp16) : Keeps obs (r.get : M σ Unsigned) := by
  cases r <;> exact Steps.reads _

lemma keeps_wrAB (res : Unsigned) : Keeps obs (wrAB res : M σ Unit) :=
  (keeps_wrA _).bind fun _ => keeps_wrB _

lemma keeps_simError : Keeps obs (simError : M σ Unit) :=
  Steps.bind (keeps_modify (fun _ => rfl) fun _ => rfl) fun _ =>
    Steps.ite (keeps_modify (fun _ => rfl) fun _ => rfl) (Steps.throw _)

lemma keeps_signal (x : Signal) : Keeps obs (signal x : M σ Unit) := by
  cases x with
  | simError => exact keeps_simError
  | monitor on => exact keeps_modify (fun _ => rfl) fun _ => rfl
  | exit code => exact Steps.throw _

lemma keeps_access {call : View → σ → Reply σ β}
    (h : ∀ s : Cpu σ, obs { s with world := (call s.view s.world).world } = obs s) :
    Keeps obs (access call : M σ β) :=
  Steps.bind (Steps.modifyGet h) fun _ =>
    (Steps.forM fun x _ => keeps_signal x).bind fun _ => Steps.pure _

lemma keeps_rdmem (addr : Unsigned) : Keeps obs (rdmem addr : M σ Unsigned) :=
  (keeps_access fun s => Unread.read8 s addr).bind fun _ => Steps.pure _

lemma keeps_read16 (addr : Unsigned) : Keeps obs (read16 addr : M σ Unsigned) :=
  (keeps_access fun s => Unread.read16 s addr).bind fun _ => Steps.pure _

lemma keeps_rdmem16 (addr : Unsigned) : Keeps obs (rdmem16 addr : M σ Unsigned) :=
  (keeps_rdmem _).bind fun _ => (keeps_tick 1).bind fun _ => (keeps_rdmem _).bind fun _ =>
    Steps.pure _

lemma keeps_immByte : Keeps obs (immByte : M σ Unsigned) :=
  (Steps.reads _).bind fun _ => (keeps_rdmem _).bind fun _ => (keeps_skip 1).bind fun _ =>
    Steps.pure _

lemma keeps_immWord : Keeps obs (immWord : M σ Unsigned) :=
  (Steps.reads _).bind fun _ => (keeps_read16 _).bind fun _ => (keeps_skip 2).bind fun _ =>
    Steps.pure _

lemma keeps_rdmemEa : Keeps obs (rdmemEa : M σ Unsigned) :=
  (Steps.reads _).bind fun _ => keeps_rdmem _

lemma keeps_rdmem16Ea : Keeps obs (rdmem16Ea : M σ Unsigned) :=
  (Steps.reads _).bind fun _ => keeps_rdmem16 _

lemma keeps_direct : Keeps obs (direct : M σ Unit) :=
  (Steps.reads _).bind fun _ => (keeps_rdmem _).bind fun _ => keeps_modify (fun _ => rfl) fun _ => rfl

lemma keeps_extended : Keeps obs (extended : M σ Unit) :=
  keeps_immWord.bind fun _ => keeps_wrEa _

lemma keeps_indirect : Keeps obs (indirect : M σ Unit) :=
  keeps_rdmem16Ea.bind fun _ => (keeps_wrEa _).bind fun _ => keeps_tick 2

lemma IndexMode.keeps_addr (R : IndexReg) (m : IndexMode) :
    Keeps obs (m.addr R : M σ Unit) := by
  cases m with
  | inc n =>
      exact R.keeps_get.bind fun _ => (keeps_wrEa _).bind fun _ => R.keeps_get.bind fun _ =>
        R.keeps_put _
  | dec n =>
      exact R.keeps_get.bind fun _ => (R.keeps_put _).bind fun _ => R.keeps_get.bind fun _ =>
        keeps_wrEa _
  | zero => exact R.keeps_get.bind fun _ => keeps_wrEa _
  | accB => exact R.keeps_get.bind fun _ => (Steps.reads _).bind fun _ => keeps_wrEa _
  | accA => exact R.keeps_get.bind fun _ => (Steps.reads _).bind fun _ => keeps_wrEa _
  | off8 => exact R.keeps_get.bind fun _ => keeps_immByte.bind fun _ => keeps_wrEa _
  | off16 => exact R.keeps_get.bind fun _ => keeps_immWord.bind fun _ => keeps_wrEa _
  | accD => exact R.keeps_get.bind fun _ => (Steps.reads _).bind fun _ => keeps_wrEa _
  | pc8 =>
      exact keeps_immByte.bind fun _ => (keeps_wrEa _).bind fun _ => (Steps.reads _).bind fun _ =>
        (Steps.reads _).bind fun _ => keeps_wrEa _
  | pc16 =>
      exact keeps_immWord.bind fun _ => (keeps_wrEa _).bind fun _ => (Steps.reads _).bind fun _ =>
        (Steps.reads _).bind fun _ => keeps_wrEa _
  | ext => exact keeps_immWord.bind fun _ => keeps_wrEa _

lemma Post.keeps_exec (post : Post) : Keeps obs (post.exec : M σ Unit) := by
  cases post with
  | offset R n => exact R.keeps_get.bind fun _ => (keeps_wrEa _).bind fun _ => keeps_tick 5
  | mode R i =>
      exact (i.mode.keeps_addr R).bind fun _ => (keeps_tick _).bind fun _ =>
        Steps.ite keeps_indirect (Steps.pure _)
  | illegal => exact (keeps_wrEa 0).bind fun _ => keeps_simError

lemma keeps_indexed : Keeps obs (indexed : M σ Unit) := by
  refine keeps_immByte.bind fun post => ?_
  rw [indexedPost_eq]
  exact (decodePost post).keeps_exec

lemma keeps_pullS8 : Keeps obs (pullS8 : M σ Unsigned) :=
  (Steps.reads _).bind fun _ => (keeps_rdmem _).bind fun _ =>
    Steps.bind (keeps_modify (fun _ => rfl) fun _ => rfl) fun _ => Steps.pure _

lemma keeps_readStack16 (addr : Unsigned) : Keeps obs (readStack16 addr : M σ Unsigned) :=
  (keeps_rdmem _).bind fun _ => (keeps_rdmem _).bind fun _ => Steps.pure _

lemma keeps_pullS16 : Keeps obs (pullS16 : M σ Unsigned) :=
  (Steps.reads _).bind fun _ => (keeps_readStack16 _).bind fun _ =>
    Steps.bind (keeps_modify (fun _ => rfl) fun _ => rfl) fun _ => Steps.pure _

lemma keeps_pullU8 : Keeps obs (pullU8 : M σ Unsigned) :=
  (Steps.reads _).bind fun _ => (keeps_rdmem _).bind fun _ =>
    Steps.bind (keeps_modify (fun _ => rfl) fun _ => rfl) fun _ => Steps.pure _

lemma keeps_pullU16 : Keeps obs (pullU16 : M σ Unsigned) :=
  (Steps.reads _).bind fun _ => (keeps_readStack16 _).bind fun _ =>
    Steps.bind (keeps_modify (fun _ => rfl) fun _ => rfl) fun _ => Steps.pure _

lemma keeps_rtiContext : Keeps obs (rtiContext : M σ Unit) :=
  (keeps_tick 9).bind fun _ => keeps_pullS8.bind fun _ => (keeps_wrA _).bind fun _ =>
  keeps_pullS8.bind fun _ => (keeps_wrB _).bind fun _ =>
  keeps_pullS8.bind fun _ => (keeps_wrDP _).bind fun _ =>
  keeps_pullS16.bind fun _ => (keeps_wrX _).bind fun _ =>
  keeps_pullS16.bind fun _ => (keeps_wrY _).bind fun _ =>
  keeps_pullS16.bind fun _ => keeps_wrU _

lemma keeps_decode : Keeps obs (decode : M σ Insn) := by
  refine keeps_immByte.bind fun opcode => ?_
  rcases insns0.lookup opcode with _ | (i | _ | _)
  · exact Steps.pure _
  · exact Steps.pure _
  · exact keeps_immByte.bind fun _ => Steps.pure _
  · exact keeps_immByte.bind fun _ => Steps.pure _

lemma keeps_bra : Keeps obs (bra : M σ Unit) := keeps_immByte.bind fun _ => keeps_skip _

lemma keeps_branch (b : Bool) : Keeps obs (branch b : M σ Unit) :=
  (Steps.ite keeps_bra (keeps_skip 1)).bind fun _ => keeps_tick 3

lemma keeps_longBra : Keeps obs (longBra : M σ Unit) :=
  keeps_immWord.bind fun _ => keeps_skip _

lemma keeps_longBranch (b : Bool) : Keeps obs (longBranch b : M σ Unit) :=
  Steps.ite (keeps_longBra.bind fun _ => keeps_tick 6) ((keeps_skip 2).bind fun _ => keeps_tick 5)

end Keeping

/-! ## The three kinds of instruction -/

/-- The instructions that assign the condition codes as a whole. -/
def Insn.WritesCc : Insn → Bool
  | .orcc | .andcc | .exg | .tfr | .puls | .pulu | .rti => true
  | _ => false

/-- The software interrupts. -/
def Insn.IsSwi : Insn → Bool
  | .swi | .swi2 | .swi3 => true
  | _ => false

/-- The bits of `EFI` a software interrupt sets besides `E`. -/
def Insn.swiMasks : Insn → Unsigned
  | .swi => I_FLAG ||| F_FLAG
  | _ => 0

/-- The flag computations an instruction can perform. -/
def Insn.FlagOp : Insn → (Flags → Flags) → Prop
  | .unaryMem op _, u | .unaryAcc op _, u => ∃ arg, u = fun f => (op.fn arg f).2
  | .tstMem _, u | .tstAcc _, u => ∃ arg, u = fun f => (Alu.tst arg f).2
  | .bin8 op _ _, u => ∃ arg val, u = fun f => (op.fn arg val f).2
  | .test8 op _ _, u => ∃ arg val, u = fun f => (op.fn arg val f).2
  | .ld8 _ _, u => ∃ arg, u = fun f => (Alu.ld arg f).2
  | .st8 _ _, u => ∃ arg, u = fun f => (Alu.st arg f).2
  | .bin16 .addd _, u => ∃ arg val, u = fun f => (Alu.addd arg val f).2
  | .bin16 .subd _, u => ∃ arg val, u = fun f => (Alu.subd arg val f).2
  | .ldd _, u | .ld16 _ _, u => ∃ arg, u = fun f => (Alu.ld16 arg f).2
  | .std _, u => ∃ a b, u = fun f => (Alu.std a b f).2
  | .cmp16 _ _, u => ∃ arg val, u = fun f => (Alu.cmp16 arg val f).2
  | .st16 _ _, u => ∃ arg, u = fun f => (Alu.st16 arg f).2
  | .lea _, u => ∃ z, u = fun f => { f with Z := z }
  | .daa, u => ∃ a, u = fun f => (Alu.daa a f).2
  | .sex, u => ∃ b, u = fun f => (Alu.sex b f).2
  | .mul, u => ∃ a b, u = fun f => (Alu.mul a b f).2
  | _, _ => False

/-- All others. -/
def Insn.Plain (i : Insn) : Bool := !i.WritesCc && !i.IsSwi

/-- The instructions that can write to the bus. -/
def Insn.Stores : Insn → Bool
  | .unaryMem _ _ | .st8 _ _ | .std _ | .st16 _ _ | .pshs | .pshu
  | .jsr _ | .bsr | .longBsr | .swi | .swi2 | .swi3 => true
  | _ => false

section Lifting

variable [Machine σ] {ω : Type} {obs : Cpu σ → ω} [Unread obs] {R : Cpu σ → Cpu σ → Prop}
  [IsPreorder (Cpu σ) R] (keep : ∀ s t : Cpu σ, obs t = obs s → R s t)
include keep

omit [Machine σ] [Unread obs] [IsPreorder (Cpu σ) R] in
lemma Steps.ofKeeps {m : M σ α} (h : Keeps obs m) : Steps R m := h.mono keep

section With

variable {w : Unsigned → Unsigned → M σ Unit} (hw : ∀ a d, Steps R (w a d))
include hw

lemma steps_pushS16With (data : Unsigned) : Steps R (pushS16With w data) :=
  Steps.bind (Steps.ofKeeps keep (keeps_modify (fun _ => rfl) fun _ => rfl)) fun _ => (Steps.reads _).bind fun _ =>
    (hw _ _).bind fun _ => hw _ _

lemma steps_pushS8With (data : Unsigned) : Steps R (pushS8With w data) :=
  Steps.bind (Steps.ofKeeps keep (keeps_modify (fun _ => rfl) fun _ => rfl)) fun _ => (Steps.reads _).bind fun _ =>
    hw _ _

lemma steps_pushAllWith : Steps R (pushAllWith w) :=
  (Steps.reads _).bind fun _ => (steps_pushS16With keep hw _).bind fun _ =>
  (Steps.reads _).bind fun _ => (steps_pushS16With keep hw _).bind fun _ =>
  (Steps.reads _).bind fun _ => (steps_pushS16With keep hw _).bind fun _ =>
  (Steps.reads _).bind fun _ => (steps_pushS16With keep hw _).bind fun _ =>
  (Steps.reads _).bind fun _ => (steps_pushS8With keep hw _).bind fun _ =>
  (Steps.reads _).bind fun _ => (steps_pushS8With keep hw _).bind fun _ =>
  (Steps.reads _).bind fun _ => (steps_pushS8With keep hw _).bind fun _ =>
  (Steps.reads _).bind fun _ => steps_pushS8With keep hw _

end With

section Writing

variable (write : ∀ a d, Steps R (wrmem a d : M σ Unit))
include write

lemma steps_wrmem16 (addr data : Unsigned) : Steps R (wrmem16 addr data : M σ Unit) :=
  (write _ _).bind fun _ => (Steps.ofKeeps keep (keeps_tick 1)).bind fun _ => write _ _

lemma steps_pushS16 (data : Unsigned) : Steps R (pushS16 data : M σ Unit) :=
  steps_pushS16With keep write data

lemma steps_pushS8 (data : Unsigned) : Steps R (pushS8 data : M σ Unit) :=
  steps_pushS8With keep write data

lemma steps_pushU16 (data : Unsigned) : Steps R (pushU16 data : M σ Unit) :=
  Steps.bind (Steps.ofKeeps keep (keeps_modify (fun _ => rfl) fun _ => rfl)) fun _ => (Steps.reads _).bind fun _ =>
    (write _ _).bind fun _ => write _ _

lemma steps_pushU8 (data : Unsigned) : Steps R (pushU8 data : M σ Unit) :=
  Steps.bind (Steps.ofKeeps keep (keeps_modify (fun _ => rfl) fun _ => rfl)) fun _ => (Steps.reads _).bind fun _ =>
    write _ _

omit write in
/-- One register of a push or pull mask. -/
lemma steps_masked {c : Prop} [Decidable c] {n : Int} {m : M σ Unit} (hm : Steps R m) :
    Steps R (whenever c do tick n; m) :=
  ((Steps.ofKeeps keep (keeps_tick n)).bind fun _ => hm).whenever

lemma steps_pshsPost (post : Unsigned) : Steps R (pshsPost post : M σ Unit) :=
  have p16 (f : Cpu σ → Unsigned) (g : Unsigned → Unsigned) :
      Steps R (reads f >>= fun v => pushS16 (g v) : M σ Unit) :=
    (Steps.reads f).bind fun _ => steps_pushS16 keep write _
  have p8 (f : Cpu σ → Unsigned) (g : Unsigned → Unsigned) :
      Steps R (reads f >>= fun v => pushS8 (g v) : M σ Unit) :=
    (Steps.reads f).bind fun _ => steps_pushS8 keep write _
  (Steps.ofKeeps keep (keeps_tick 5)).bind fun _ =>
  (steps_masked keep (p16 _ (· &&& 0xffff))).bind fun _ =>
  (steps_masked keep (p16 _ id)).bind fun _ =>
  (steps_masked keep (p16 _ id)).bind fun _ =>
  (steps_masked keep (p16 _ id)).bind fun _ =>
  (steps_masked keep (p8 _ (· >>> 8))).bind fun _ =>
  (steps_masked keep (p8 _ id)).bind fun _ =>
  (steps_masked keep (p8 _ id)).bind fun _ =>
  steps_masked keep (p8 _ id)

lemma steps_pshuPost (post : Unsigned) : Steps R (pshuPost post : M σ Unit) :=
  have p16 (f : Cpu σ → Unsigned) (g : Unsigned → Unsigned) :
      Steps R (reads f >>= fun v => pushU16 (g v) : M σ Unit) :=
    (Steps.reads f).bind fun _ => steps_pushU16 keep write _
  have p8 (f : Cpu σ → Unsigned) (g : Unsigned → Unsigned) :
      Steps R (reads f >>= fun v => pushU8 (g v) : M σ Unit) :=
    (Steps.reads f).bind fun _ => steps_pushU8 keep write _
  (Steps.ofKeeps keep (keeps_tick 5)).bind fun _ =>
  (steps_masked keep (p16 _ (· &&& 0xffff))).bind fun _ =>
  (steps_masked keep (p16 _ id)).bind fun _ =>
  (steps_masked keep (p16 _ id)).bind fun _ =>
  (steps_masked keep (p16 _ id)).bind fun _ =>
  (steps_masked keep (p8 _ (· >>> 8))).bind fun _ =>
  (steps_masked keep (p8 _ id)).bind fun _ =>
  (steps_masked keep (p8 _ id)).bind fun _ =>
  steps_masked keep (p8 _ id)

omit write in
lemma Ea.steps_andThen (ea : Ea) {k : M σ Unit} (hk : Steps R k) : Steps R (ea.andThen k) := by
  have ofK {m : M σ Unit} (h : Keeps obs m) : Steps R m := Steps.ofKeeps keep h
  cases ea with
  | direct clk => exact (ofK keeps_direct).bind fun _ => (ofK (keeps_tick clk)).bind fun _ => hk
  | extended clk =>
      exact (ofK keeps_extended).bind fun _ => (ofK (keeps_tick clk)).bind fun _ => hk
  | indexed => exact (ofK keeps_indexed).bind fun _ => hk
  | tickIndexed clk =>
      exact (ofK (keeps_tick clk)).bind fun _ => (ofK keeps_indexed).bind fun _ => hk
  | indexedTick clk =>
      exact (ofK keeps_indexed).bind fun _ => (ofK (keeps_tick clk)).bind fun _ => hk

omit write in
lemma Src8.steps_andThen (src : Src8) {k : M σ Unsigned → M σ Unit}
    (hk : ∀ v : M σ Unsigned, Keeps obs v → Steps R (k v)) : Steps R (src.andThen k) := by
  cases src with
  | imm => exact (Steps.ofKeeps keep (keeps_tick 2)).bind fun _ => hk _ keeps_immByte
  | mem ea => exact ea.steps_andThen keep (hk _ keeps_rdmemEa)

omit write in
lemma Src16.steps_andThen (src : Src16) {k : M σ Unsigned → M σ Unit}
    (hk : ∀ v : M σ Unsigned, Keeps obs v → Steps R (k v)) : Steps R (src.andThen k) := by
  cases src with
  | imm clk => exact (Steps.ofKeeps keep (keeps_tick clk)).bind fun _ => hk _ keeps_immWord
  | mem ea => exact ea.steps_andThen keep (hk _ keeps_rdmem16Ea)

lemma steps_call {m : M σ Unsigned} {f : Unsigned → Unsigned → Unsigned} {clk : Int}
    (hm : Keeps obs m) :
    Steps R (do
      let tmp ← m
      wrEa (f (← reads Cpu.PC) tmp)
      pushS16 ((← reads Cpu.PC) &&& 0xffff)
      tick clk
      wrPC (← rdEa) : M σ Unit) :=
  (Steps.ofKeeps keep hm).bind fun _ => (Steps.reads _).bind fun _ =>
  (Steps.ofKeeps keep (keeps_wrEa _)).bind fun _ => (Steps.reads _).bind fun _ =>
  (steps_pushS16 keep write _).bind fun _ => (Steps.ofKeeps keep (keeps_tick _)).bind fun _ =>
  (Steps.reads _).bind fun _ => Steps.ofKeeps keep (keeps_wrPC _)

omit [Machine σ] [IsPreorder (Cpu σ) R] keep write in
lemma steps_alu {g : Flags → α × Flags}
    (h : ∀ s : Cpu σ, R s { s with flags := (g s.flags).2 }) : Steps R (alu g : M σ α) :=
  Steps.modifyGet h

omit write in
/-- **A plain instruction is made of bus writes, its flag computation and steps that leave the core
alone.** -/
lemma Insn.steps_exec_plain {i : Insn}
    (write : i.Stores = true → ∀ a d, Steps R (wrmem a d : M σ Unit)) (hi : i.Plain = true)
    (flags : ∀ u, i.FlagOp u → ∀ s : Cpu σ, R s { s with flags := u s.flags }) :
    Steps R (i.exec : M σ Unit) := by
  have ofK {m : M σ Unit} (h : Keeps obs m) : Steps R m := Steps.ofKeeps keep h
  have ofK' {m : M σ Unsigned} (h : Keeps obs m) : Steps R m := Steps.ofKeeps keep h
  cases i with
  | unaryMem op ea =>
      exact ea.steps_andThen keep <| (ofK' keeps_rdmemEa).bind fun arg =>
        ((steps_alu (flags _ ⟨arg, rfl⟩)).bind fun _ => (ofK (keeps_tick 2)).bind fun _ =>
          Steps.pure _).bind fun _ => (Steps.reads _).bind fun _ => write rfl _ _
  | tstMem ea =>
      exact ea.steps_andThen keep <| (ofK' keeps_rdmemEa).bind fun arg =>
        (steps_alu (flags _ ⟨arg, rfl⟩)).bind fun _ => ofK (keeps_tick 2)
  | jmp ea => exact ea.steps_andThen keep (ofK ((Steps.reads _).bind keeps_wrPC))
  | jsr ea =>
      exact ea.steps_andThen keep <| (Steps.reads _).bind fun _ =>
        (steps_pushS16 keep (write rfl) _).bind fun _ => (Steps.reads _).bind fun _ => ofK (keeps_wrPC _)
  | unaryAcc op r =>
      exact (ofK' r.keeps_get).bind fun arg =>
        ((steps_alu (flags _ ⟨arg, rfl⟩)).bind fun _ => (ofK (keeps_tick 2)).bind fun _ =>
          Steps.pure _).bind fun _ => ofK (r.keeps_put _)
  | tstAcc r =>
      exact (ofK' r.keeps_get).bind fun arg =>
        (steps_alu (flags _ ⟨arg, rfl⟩)).bind fun _ => ofK (keeps_tick 2)
  | bin8 op r src =>
      exact src.steps_andThen keep fun v hv => (ofK' r.keeps_get).bind fun arg =>
        (ofK' hv).bind fun val => (steps_alu (flags _ ⟨arg, val, rfl⟩)).bind fun _ =>
        ofK (r.keeps_put _)
  | test8 op r src =>
      exact src.steps_andThen keep fun v hv => (ofK' r.keeps_get).bind fun arg =>
        (ofK' hv).bind fun val => steps_alu (flags _ ⟨arg, val, rfl⟩)
  | ld8 r src =>
      exact src.steps_andThen keep fun v hv => (ofK' hv).bind fun val =>
        (steps_alu (flags _ ⟨val, rfl⟩)).bind fun _ => ofK (r.keeps_put _)
  | st8 r ea =>
      exact ea.steps_andThen keep <| (ofK' r.keeps_get).bind fun arg =>
        (steps_alu (flags _ ⟨arg, rfl⟩)).bind fun _ => (Steps.reads _).bind fun _ => write rfl _ _
  | bin16 op src =>
      have run (val : Unsigned) : Steps R (op.run val : M σ Unit) := by
        cases op <;> exact (Steps.reads _).bind fun arg =>
          (steps_alu (flags _ ⟨arg, val, rfl⟩)).bind fun _ => ofK (keeps_wrAB _)
      cases src with
      | imm clk => exact (ofK (keeps_tick clk)).bind fun _ => (ofK' keeps_immWord).bind run
      | mem ea =>
          exact ea.steps_andThen keep <| (ofK' keeps_rdmem16Ea).bind fun val => (run val).bind
            fun _ => ofK (keeps_tick 1)
  | ldd src =>
      exact src.steps_andThen keep fun v hv => (ofK' hv).bind fun val =>
        (steps_alu (flags _ ⟨val, rfl⟩)).bind fun _ => ofK (keeps_wrAB _)
  | std ea =>
      exact ea.steps_andThen keep <| (Steps.reads _).bind fun a => (Steps.reads _).bind fun b =>
        (steps_alu (flags _ ⟨a, b, rfl⟩)).bind fun _ => (Steps.reads _).bind fun _ =>
        (Steps.reads _).bind fun _ => steps_wrmem16 keep (write rfl) _ _
  | cmp16 r src =>
      cases src with
      | imm clk =>
          exact (ofK (keeps_tick clk)).bind fun _ => (ofK' r.keeps_get).bind fun arg =>
            (ofK' keeps_immWord).bind fun val => steps_alu (flags _ ⟨arg, val, rfl⟩)
      | mem ea =>
          exact ea.steps_andThen keep <| (ofK' r.keeps_get).bind fun arg =>
            (ofK' keeps_rdmem16Ea).bind fun val => (steps_alu (flags _ ⟨arg, val, rfl⟩)).bind
            fun _ => ofK (keeps_tick 1)
  | ld16 r src =>
      exact src.steps_andThen keep fun v hv => (ofK' hv).bind fun val =>
        (steps_alu (flags _ ⟨val, rfl⟩)).bind fun _ => ofK (r.keeps_put _)
  | st16 r ea =>
      exact ea.steps_andThen keep <| (ofK' r.keeps_get).bind fun arg =>
        (steps_alu (flags _ ⟨arg, rfl⟩)).bind fun _ => (Steps.reads _).bind fun _ =>
        steps_wrmem16 keep (write rfl) _ _
  | lea r =>
      exact (ofK keeps_indexed).bind fun _ => (Steps.reads _).bind fun _ =>
        (ofK (r.keeps_put _)).bind fun _ => (Steps.reads _).bind fun z =>
        Steps.modify (flags _ ⟨z, rfl⟩)
  | leaStack r => exact ofK (keeps_indexed.bind fun _ => (Steps.reads _).bind r.keeps_put)
  | bra => exact ofK (keeps_bra.bind fun _ => keeps_tick 3)
  | brn => exact ofK ((keeps_skip 1).bind fun _ => keeps_tick 3)
  | branch c => exact ofK ((Steps.reads _).bind keeps_branch)
  | bsr => exact steps_call keep (write rfl) (f := fun pc tmp => pc + int8 tmp) keeps_immByte
  | longBra => exact ofK (keeps_longBra.bind fun _ => keeps_tick 5)
  | longBrn => exact ofK ((keeps_tick 5).bind fun _ => keeps_skip 2)
  | longBranch c => exact ofK ((Steps.reads _).bind keeps_longBranch)
  | longBsr => exact steps_call keep (write rfl) (f := fun pc tmp => pc + int16 tmp) keeps_immWord
  | nop => exact ofK (keeps_tick 2)
  | sync => exact ofK ((keeps_tick 4).bind fun _ => keeps_simError)
  | daa =>
      exact (Steps.reads _).bind fun a => (steps_alu (flags _ ⟨a, rfl⟩)).bind fun _ =>
        (ofK (keeps_wrA _)).bind fun _ => ofK (keeps_tick 2)
  | sex =>
      exact (Steps.reads _).bind fun b => (steps_alu (flags _ ⟨b, rfl⟩)).bind fun _ =>
        (ofK (keeps_wrA _)).bind fun _ => ofK (keeps_tick 2)
  | abx =>
      exact ofK ((Steps.reads _).bind fun _ => (Steps.reads _).bind fun _ => (keeps_wrX _).bind
        fun _ => keeps_tick 3)
  | mul =>
      exact (Steps.reads _).bind fun a => (Steps.reads _).bind fun b =>
        (steps_alu (flags _ ⟨a, b, rfl⟩)).bind fun _ => (ofK (keeps_wrA _)).bind fun _ =>
        (ofK (keeps_wrB _)).bind fun _ => ofK (keeps_tick 11)
  | cwai => exact ofK keeps_simError
  | pshs => exact (ofK' keeps_immByte).bind (steps_pshsPost keep (write rfl))
  | pshu => exact (ofK' keeps_immByte).bind (steps_pshuPost keep (write rfl))
  | rts => exact ofK ((keeps_tick 5).bind fun _ => keeps_pullS16.bind keeps_wrPC)
  | invalid =>
      exact ofK ((keeps_tick 2).bind fun _ => keeps_simError.bind fun _ => (Steps.reads _).bind
        keeps_wrPC)
  | invalidPrefixed => exact ofK keeps_simError
  | orcc | andcc | exg | tfr | puls | pulu | rti | swi | swi2 | swi3 => cases hi

/-- A software interrupt also sets bits of `EFI`. -/
lemma Insn.steps_exec_swi {i : Insn} (hi : i.IsSwi = true)
    (raise : ∀ m, m = E_FLAG ∨ m = i.swiMasks →
      ∀ s : Cpu σ, R s { s with EFI := s.EFI ||| m }) : Steps R (i.exec : M σ Unit) := by
  have swi (clk : Int) (vector : Unsigned) :
      Steps R (swiWith clk i.swiMasks vector : M σ Unit) :=
    (Steps.ofKeeps keep (keeps_tick clk)).bind fun _ =>
    Steps.bind (Steps.modify (raise _ (.inl rfl))) fun _ =>
    (steps_pushAllWith keep write).bind fun _ =>
    Steps.bind (Steps.modify (raise _ (.inr rfl))) fun _ =>
    (Steps.ofKeeps keep (keeps_read16 _)).bind fun _ => Steps.ofKeeps keep (keeps_wrPC _)
  cases i with
  | swi => exact swi _ _
  | swi2 => exact swi _ _
  | swi3 => exact swi _ _
  | _ => cases hi

end Writing

/-! ## Assignments of the condition codes -/

omit [IsPreorder (Cpu σ) R] in
/-- `set_reg` assigns the condition codes when the number names them. -/
lemma steps_setReg (s : Cpu σ) {nro : Unsigned}
    (val : Unsigned) (recode : regOfNumber nro = some .CC → ∀ (s : Cpu σ) v, R s (s.setCc v)) :
    R s (s.setReg nro val) := by
  unfold Cpu.setReg
  rcases h : regOfNumber nro with _ | r
  · exact keep _ _ (Unread.ofCore _ _ rfl rfl)
  · cases r with
    | CC => exact recode h s val
    | _ => exact keep _ _ (Unread.ofCore _ _ rfl rfl)

section Recoding

variable {post : Unsigned}

omit [Machine σ] [IsPreorder (Cpu σ) R] keep in
lemma steps_setCc (recode : ∀ (s : Cpu σ) v, R s (s.setCc v)) (v : Unsigned) :
    Steps R (setCc v : M σ Unit) := Steps.modify fun s => recode s v

/-- `PULS` assigns the condition codes when bit 0 of its mask is set. -/
lemma steps_pulsPost (recode : post &&& 0x01 ≠ 0 → ∀ (s : Cpu σ) v, R s (s.setCc v)) :
    Steps R (pulsPost post : M σ Unit) := by
  have ofK {m : M σ Unit} (h : Keeps obs m) : Steps R m := Steps.ofKeeps keep h
  have masked {c : Prop} [Decidable c] {n : Int} {m : M σ Unit} (hm : Keeps obs m) :
      Steps R (whenever c do tick n; m) := steps_masked keep (ofK hm)
  refine (ofK (keeps_tick 5)).bind fun _ => Steps.bind (Steps.wheneverOf fun hc => ?_) fun _ => ?_
  · exact (ofK (keeps_tick 1)).bind fun _ => (Steps.ofKeeps keep keeps_pullS8).bind
      (steps_setCc (recode hc))
  · exact (masked (keeps_pullS8.bind keeps_wrA)).bind fun _ =>
      (masked (keeps_pullS8.bind keeps_wrB)).bind fun _ =>
      (masked (keeps_pullS8.bind keeps_wrDP)).bind fun _ =>
      (masked (keeps_pullS16.bind keeps_wrX)).bind fun _ =>
      (masked (keeps_pullS16.bind keeps_wrY)).bind fun _ =>
      (masked (keeps_pullS16.bind keeps_wrU)).bind fun _ =>
      masked (keeps_pullS16.bind keeps_wrPC)

lemma steps_puluPost (recode : post &&& 0x01 ≠ 0 → ∀ (s : Cpu σ) v, R s (s.setCc v)) :
    Steps R (puluPost post : M σ Unit) := by
  have ofK {m : M σ Unit} (h : Keeps obs m) : Steps R m := Steps.ofKeeps keep h
  have masked {c : Prop} [Decidable c] {n : Int} {m : M σ Unit} (hm : Keeps obs m) :
      Steps R (whenever c do tick n; m) := steps_masked keep (ofK hm)
  refine (ofK (keeps_tick 5)).bind fun _ => Steps.bind (Steps.wheneverOf fun hc => ?_) fun _ => ?_
  · exact (ofK (keeps_tick 1)).bind fun _ => (Steps.ofKeeps keep keeps_pullU8).bind
      (steps_setCc (recode hc))
  · exact (masked (keeps_pullU8.bind keeps_wrA)).bind fun _ =>
      (masked (keeps_pullU8.bind keeps_wrB)).bind fun _ =>
      (masked (keeps_pullU8.bind keeps_wrDP)).bind fun _ =>
      (masked (keeps_pullU16.bind keeps_wrX)).bind fun _ =>
      (masked (keeps_pullU16.bind keeps_wrY)).bind fun _ =>
      (masked (keeps_pullU16.bind keeps_wrS)).bind fun _ =>
      masked (keeps_pullU16.bind keeps_wrPC)

end Recoding

/-- The byte the next fetch delivers. -/
def Cpu.operand (s : Cpu σ) : Unsigned :=
  (Machine.read8 s.view s.world s.PC).val.setWidth 32

omit keep [IsPreorder (Cpu σ) R] in
lemma immByte_eq_ok {s t : Cpu σ} {v : Unsigned} (h : immByte s = .ok (v, t)) : v = s.operand := by
  obtain ⟨pc, s₁, h₁, k₁⟩ := bind_eq_ok.mp h
  obtain ⟨b, s₂, h₂, k₂⟩ := bind_eq_ok.mp k₁
  obtain ⟨_, s₃, h₃, k₃⟩ := bind_eq_ok.mp k₂
  cases h₁
  cases k₃
  obtain ⟨r, s₄, h₄, k₄⟩ := bind_eq_ok.mp h₂
  obtain ⟨q, s₅, h₅, k₅⟩ := bind_eq_ok.mp h₄
  obtain ⟨_, s₆, h₆, k₆⟩ := bind_eq_ok.mp k₅
  cases h₅
  cases k₆
  cases k₄
  rfl

/-- The instruction, with the operand byte that follows it, assigns the condition codes. -/
def Insn.TargetsCc (i : Insn) (post : Unsigned) : Bool :=
  match i with
  | .orcc | .andcc | .rti => true
  | .puls | .pulu => post &&& 0x01 ≠ 0
  | .tfr => regOfNumber (post &&& 15) = some .CC
  | .exg => regOfNumber (post &&& 15) = some .CC ∨ regOfNumber (post >>> 4) = some .CC
  | _ => false

/-- An instruction that begins with an operand byte. -/
lemma steps_immByte_bind {k : Unsigned → M σ Unit} {s t : Cpu σ} (h : (immByte >>= k) s = .ok ((), t))
    (hk : Steps R (k s.operand)) : R s t := by
  obtain ⟨v, s₁, h₁, k₁⟩ := bind_eq_ok.mp h
  rw [immByte_eq_ok h₁] at k₁
  exact IsTrans.trans _ _ _ (keep _ _ (keeps_immByte _ _ _ h₁)) (hk _ _ _ k₁)

/-- The instructions that can assign the condition codes write nothing to the bus. -/
lemma Insn.steps_exec_cc {i : Insn} (hi : i.WritesCc = true) {s t : Cpu σ}
    (recode : i.TargetsCc s.operand = true → ∀ (s : Cpu σ) v, R s (s.setCc v))
    (h : i.exec s = .ok ((), t)) : R s t := by
  have ofK {m : M σ Unit} (h : Keeps obs m) : Steps R m := Steps.ofKeeps keep h
  cases i with
  | orcc =>
      exact steps_immByte_bind keep h <| (Steps.reads _).bind fun _ =>
        (steps_setCc (recode rfl) _).bind fun _ => ofK (keeps_tick 3)
  | andcc =>
      exact steps_immByte_bind keep h <| (Steps.reads _).bind fun _ =>
        (steps_setCc (recode rfl) _).bind fun _ => ofK (keeps_tick 3)
  | exg =>
      refine steps_immByte_bind keep h <| Steps.bind (Steps.modify fun u => ?_)
        fun _ => ofK (keeps_tick 8)
      exact IsTrans.trans _ _ _
        (steps_setReg keep _ _ fun hr => recode (decide_eq_true (.inl hr)))
        (steps_setReg keep _ _ fun hr => recode (decide_eq_true (.inr hr)))
  | tfr =>
      exact steps_immByte_bind keep h <| Steps.bind (Steps.modify fun u =>
        steps_setReg keep _ _ fun hr => recode (decide_eq_true hr)) fun _ => ofK (keeps_tick 6)
  | puls =>
      exact steps_immByte_bind keep h <|
        steps_pulsPost keep fun hc => recode (decide_eq_true hc)
  | pulu =>
      exact steps_immByte_bind keep h <|
        steps_puluPost keep fun hc => recode (decide_eq_true hc)
  | rti =>
      have run : Steps R (Exec09.rti : M σ Unit) :=
        (ofK (keeps_tick 6)).bind fun _ => (Steps.ofKeeps keep keeps_pullS8).bind fun _ =>
        (steps_setCc (recode rfl) _).bind fun _ => (Steps.reads _).bind fun _ =>
        (ofK keeps_rtiContext).whenever.bind fun _ =>
        (Steps.ofKeeps keep keeps_pullS16).bind fun _ => ofK (keeps_wrPC _)
      exact run _ _ _ h
  | _ => cases hi

end Lifting

end Exec09
