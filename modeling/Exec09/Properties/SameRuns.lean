import Exec09.Cpu.Run
import Exec09.Properties.Simulation

/-!
# Runs on machines that simulate one another

Every instruction does the same on a machine and on one that simulates it (`follows_cpuInsn`), and
so do runs of actions, calls of `cpu_execute` and the loop of `main` (`follows_runActions`,
`follows_cpuExecute`, `follows_mainLoop`).
-/

namespace Exec09

open Program

variable {σ τ α β : Type} [Machine σ] [Machine τ] {exact : Prop} {R : Cpu σ → Cpu τ → Prop}
  [SameCalls exact R]

/-! ## Addressing modes and stacks -/

lemma follows_direct : Follows exact R (direct : M σ Unit) direct :=
  follows_PC.bind fun _ => (follows_rdmem _).bind fun v =>
    follows_modify (fun _ s => { s with PC := s.PC + 1, ea := v ||| s.DP }) fun _ _ => rfl

lemma follows_extended : Follows exact R (extended : M σ Unit) extended :=
  follows_immWord.bind fun _ => follows_wrEa _

lemma follows_indirect : Follows exact R (indirect : M σ Unit) indirect :=
  follows_rdmem16Ea.bind fun _ => (follows_wrEa _).bind fun _ => follows_tick 2

lemma IndexMode.follows_addr (r : IndexReg) (m : IndexMode) :
    Follows exact R (m.addr r : M σ Unit) (m.addr r) := by
  cases m with
  | inc n =>
      exact r.follows_get.bind fun _ => (follows_wrEa _).bind fun _ => r.follows_get.bind fun _ =>
        r.follows_put _
  | dec n =>
      exact r.follows_get.bind fun _ => (r.follows_put _).bind fun _ => r.follows_get.bind fun _ =>
        follows_wrEa _
  | zero => exact r.follows_get.bind fun _ => follows_wrEa _
  | accB => exact r.follows_get.bind fun _ => follows_rdB.bind fun _ => follows_wrEa _
  | accA => exact r.follows_get.bind fun _ => follows_rdA.bind fun _ => follows_wrEa _
  | accD => exact r.follows_get.bind fun _ => follows_rdD.bind fun _ => follows_wrEa _
  | off8 => exact r.follows_get.bind fun _ => follows_immByte.bind fun _ => follows_wrEa _
  | off16 => exact r.follows_get.bind fun _ => follows_immWord.bind fun _ => follows_wrEa _
  | pc8 =>
      exact follows_immByte.bind fun _ => (follows_wrEa _).bind fun _ =>
        follows_rdEa.bind fun _ => follows_PC.bind fun _ => follows_wrEa _
  | pc16 =>
      exact follows_immWord.bind fun _ => (follows_wrEa _).bind fun _ =>
        follows_rdEa.bind fun _ => follows_PC.bind fun _ => follows_wrEa _
  | ext => exact follows_immWord.bind fun _ => follows_wrEa _

lemma follows_indexed : Follows exact R (indexed : M σ Unit) indexed := by
  refine follows_immByte.bind fun post => ?_
  rw [indexedPost_eq, indexedPost_eq]
  cases decodePost post with
  | offset r n => exact r.follows_get.bind fun _ => (follows_wrEa _).bind fun _ => follows_tick 5
  | mode r i =>
      exact (i.mode.follows_addr r).bind fun _ => (follows_tick _).bind fun _ =>
        Follows.ite follows_indirect (Follows.pure ())
  | illegal => exact (follows_wrEa 0).bind fun _ => follows_simError

lemma follows_pushU16 (data : Unsigned) :
    Follows exact R (pushU16 data : M σ Unit) (pushU16 data) :=
  Follows.bind (follows_modify (fun _ s => { s with U := (s.U - 2) &&& 0xffff }) 
    fun _ _ => rfl) fun _ => follows_rdU.bind fun _ => (follows_wrmem _ _).bind fun _ =>
    follows_wrmem _ _

lemma follows_pushU8 (data : Unsigned) :
    Follows exact R (pushU8 data : M σ Unit) (pushU8 data) :=
  Follows.bind (follows_modify (fun _ s => { s with U := (s.U - 1) &&& 0xffff }) 
    fun _ _ => rfl) fun _ => follows_rdU.bind fun _ => follows_wrmem _ _

lemma follows_pullS8 : Follows exact R (pullS8 : M σ Unsigned) pullS8 :=
  follows_rdS.bind fun _ => (follows_rdmem _).bind fun _ =>
    Follows.bind (follows_modify (fun _ s => { s with S := (s.S + 1) &&& 0xffff }) 
      fun _ _ => rfl) fun _ => Follows.pure _

lemma follows_pullS16 : Follows exact R (pullS16 : M σ Unsigned) pullS16 :=
  follows_rdS.bind fun _ => (follows_readStack16 _).bind fun _ =>
    Follows.bind (follows_modify (fun _ s => { s with S := (s.S + 2) &&& 0xffff }) 
      fun _ _ => rfl) fun _ => Follows.pure _

lemma follows_pullU8 : Follows exact R (pullU8 : M σ Unsigned) pullU8 :=
  follows_rdU.bind fun _ => (follows_rdmem _).bind fun _ =>
    Follows.bind (follows_modify (fun _ s => { s with U := (s.U + 1) &&& 0xffff }) 
      fun _ _ => rfl) fun _ => Follows.pure _

lemma follows_pullU16 : Follows exact R (pullU16 : M σ Unsigned) pullU16 :=
  follows_rdU.bind fun _ => (follows_readStack16 _).bind fun _ =>
    Follows.bind (follows_modify (fun _ s => { s with U := (s.U + 2) &&& 0xffff }) 
      fun _ _ => rfl) fun _ => Follows.pure _

/-- One register of a push or pull mask. -/
lemma follows_masked {q : Prop} [Decidable q] {n : Int} {m : M σ Unit} {m' : M τ Unit}
    (h : Follows exact R m m') :
    Follows exact R (whenever q do tick n; m) (whenever q do tick n; m') :=
  Follows.whenever ((follows_tick n).bind fun _ => h)

lemma follows_pshsPost (post : Unsigned) :
    Follows exact R (pshsPost post : M σ Unit) (pshsPost post) :=
  (follows_tick 5).bind fun _ =>
  (follows_masked (follows_PC.bind fun _ => follows_pushS16 _)).bind fun _ =>
  (follows_masked (follows_rdU.bind fun _ => follows_pushS16 _)).bind fun _ =>
  (follows_masked (follows_rdY.bind fun _ => follows_pushS16 _)).bind fun _ =>
  (follows_masked (follows_rdX.bind fun _ => follows_pushS16 _)).bind fun _ =>
  (follows_masked (follows_rdDP.bind fun _ => follows_pushS8 _)).bind fun _ =>
  (follows_masked (follows_rdB.bind fun _ => follows_pushS8 _)).bind fun _ =>
  (follows_masked (follows_rdA.bind fun _ => follows_pushS8 _)).bind fun _ =>
  follows_masked (follows_getCc.bind fun _ => follows_pushS8 _)

lemma follows_pshuPost (post : Unsigned) :
    Follows exact R (pshuPost post : M σ Unit) (pshuPost post) :=
  (follows_tick 5).bind fun _ =>
  (follows_masked (follows_PC.bind fun _ => follows_pushU16 _)).bind fun _ =>
  (follows_masked (follows_rdS.bind fun _ => follows_pushU16 _)).bind fun _ =>
  (follows_masked (follows_rdY.bind fun _ => follows_pushU16 _)).bind fun _ =>
  (follows_masked (follows_rdX.bind fun _ => follows_pushU16 _)).bind fun _ =>
  (follows_masked (follows_rdDP.bind fun _ => follows_pushU8 _)).bind fun _ =>
  (follows_masked (follows_rdB.bind fun _ => follows_pushU8 _)).bind fun _ =>
  (follows_masked (follows_rdA.bind fun _ => follows_pushU8 _)).bind fun _ =>
  follows_masked (follows_getCc.bind fun _ => follows_pushU8 _)

lemma follows_pulsPost (post : Unsigned) :
    Follows exact R (pulsPost post : M σ Unit) (pulsPost post) :=
  (follows_tick 5).bind fun _ =>
  (follows_masked (follows_pullS8.bind fun _ => follows_setCc _)).bind fun _ =>
  (follows_masked (follows_pullS8.bind fun _ => follows_wrA _)).bind fun _ =>
  (follows_masked (follows_pullS8.bind fun _ => follows_wrB _)).bind fun _ =>
  (follows_masked (follows_pullS8.bind fun _ => follows_wrDP _)).bind fun _ =>
  (follows_masked (follows_pullS16.bind fun _ => follows_wrX _)).bind fun _ =>
  (follows_masked (follows_pullS16.bind fun _ => follows_wrY _)).bind fun _ =>
  (follows_masked (follows_pullS16.bind fun _ => follows_wrU _)).bind fun _ =>
  follows_masked (follows_pullS16.bind fun _ => follows_wrPC _)

lemma follows_puluPost (post : Unsigned) :
    Follows exact R (puluPost post : M σ Unit) (puluPost post) :=
  (follows_tick 5).bind fun _ =>
  (follows_masked (follows_pullU8.bind fun _ => follows_setCc _)).bind fun _ =>
  (follows_masked (follows_pullU8.bind fun _ => follows_wrA _)).bind fun _ =>
  (follows_masked (follows_pullU8.bind fun _ => follows_wrB _)).bind fun _ =>
  (follows_masked (follows_pullU8.bind fun _ => follows_wrDP _)).bind fun _ =>
  (follows_masked (follows_pullU16.bind fun _ => follows_wrX _)).bind fun _ =>
  (follows_masked (follows_pullU16.bind fun _ => follows_wrY _)).bind fun _ =>
  (follows_masked (follows_pullU16.bind fun _ => follows_wrS _)).bind fun _ =>
  follows_masked (follows_pullU16.bind fun _ => follows_wrPC _)

lemma follows_rti : Follows exact R (rti : M σ Unit) rti := by
  have context : Follows exact R (rtiContext : M σ Unit) rtiContext :=
    (follows_tick 9).bind fun _ =>
    follows_pullS8.bind fun _ => (follows_wrA _).bind fun _ =>
    follows_pullS8.bind fun _ => (follows_wrB _).bind fun _ =>
    follows_pullS8.bind fun _ => (follows_wrDP _).bind fun _ =>
    follows_pullS16.bind fun _ => (follows_wrX _).bind fun _ =>
    follows_pullS16.bind fun _ => (follows_wrY _).bind fun _ =>
    follows_pullS16.bind fun _ => follows_wrU _
  exact (follows_tick 6).bind fun _ => follows_pullS8.bind fun _ => (follows_setCc _).bind
    fun _ => Follows.bind (follows_reads (fun _ => Cpu.entireState) fun _ _ => rfl) fun _ =>
    context.whenever.bind fun _ => follows_pullS16.bind fun _ => follows_wrPC _

lemma follows_swiWith (clk : Int) (masks vector : Unsigned) :
    Follows exact R (swiWith clk masks vector : M σ Unit) (swiWith clk masks vector) :=
  (follows_tick clk).bind fun _ =>
  Follows.bind (follows_modify (fun _ s => { s with EFI := s.EFI ||| E_FLAG })
    fun _ _ => rfl) fun _ =>
  (follows_pushAllWith follows_wrmem).bind fun _ =>
  Follows.bind (follows_modify (fun _ s => { s with EFI := s.EFI ||| masks })
    fun _ _ => rfl) fun _ =>
  (follows_read16 _).bind fun _ => follows_wrPC _

/-! ## Instructions -/

lemma Ea.follows_andThen (ea : Ea) {k : M σ Unit} {k' : M τ Unit}
    (hk : Follows exact R k k') :
    Follows exact R (ea.andThen k) (ea.andThen k') := by
  cases ea with
  | direct clk => exact follows_direct.bind fun _ => (follows_tick clk).bind fun _ => hk
  | extended clk => exact follows_extended.bind fun _ => (follows_tick clk).bind fun _ => hk
  | indexed => exact follows_indexed.bind fun _ => hk
  | tickIndexed clk => exact (follows_tick clk).bind fun _ => follows_indexed.bind fun _ => hk
  | indexedTick clk => exact follows_indexed.bind fun _ => (follows_tick clk).bind fun _ => hk

lemma Src8.follows_andThen (src : Src8) {k : M σ Unsigned → M σ Unit} {k' : M τ Unsigned → M τ Unit}
    (hk : ∀ {v v'}, Follows exact R v v' → Follows exact R (k v) (k' v')) :
    Follows exact R (src.andThen k) (src.andThen k') := by
  cases src with
  | imm => exact (follows_tick 2).bind fun _ => hk follows_immByte
  | mem ea => exact ea.follows_andThen (hk follows_rdmemEa)

lemma Src16.follows_andThen (src : Src16) {k : M σ Unsigned → M σ Unit}
    {k' : M τ Unsigned → M τ Unit}
    (hk : ∀ {v v'}, Follows exact R v v' → Follows exact R (k v) (k' v')) :
    Follows exact R (src.andThen k) (src.andThen k') := by
  cases src with
  | imm clk => exact (follows_tick clk).bind fun _ => hk follows_immWord
  | mem ea => exact ea.follows_andThen (hk follows_rdmem16Ea)

/-- `BSR` and `LBSR`, with the target computed from `PC`. -/
lemma follows_call (x : Unsigned → Unsigned) (clk : Int) :
    Follows exact R
      (do
        wrEa (x (← reads Cpu.PC))
        pushS16 ((← reads Cpu.PC) &&& 0xffff)
        tick clk
        wrPC (← rdEa) : M σ Unit)
      (do
        wrEa (x (← reads Cpu.PC))
        pushS16 ((← reads Cpu.PC) &&& 0xffff)
        tick clk
        wrPC (← rdEa)) :=
  follows_PC.bind fun _ => (follows_wrEa _).bind fun _ => follows_PC.bind fun _ =>
    (follows_pushS16 _).bind fun _ => (follows_tick clk).bind fun _ => follows_rdEa.bind fun _ =>
    follows_wrPC _

/-- Every instruction does alike. -/
lemma Insn.follows_exec (i : Insn) : Follows exact R (i.exec : M σ Unit) i.exec := by
  have bra : Follows exact R (Exec09.bra : M σ Unit) Exec09.bra :=
    follows_immByte.bind fun _ => follows_skip _
  have longBra : Follows exact R (Exec09.longBra : M σ Unit) Exec09.longBra :=
    follows_immWord.bind fun _ => follows_skip _
  have cond (c : Cond) : Follows exact R (Exec09.cond c : M σ Bool) (Exec09.cond c) :=
    follows_reads (fun _ s => c.holds s.flags) fun _ _ => rfl
  cases i with
  | unaryMem op ea =>
      exact ea.follows_andThen (follows_rdmemEa.bind fun _ => (follows_unary _ _).bind
        fun _ => follows_wrmemEa _)
  | tstMem ea => exact ea.follows_andThen (follows_rdmemEa.bind fun _ => follows_tst _)
  | jmp ea => exact ea.follows_andThen (follows_rdEa.bind fun _ => follows_wrPC _)
  | jsr ea =>
      exact ea.follows_andThen (follows_PC.bind fun _ => (follows_pushS16 _).bind fun _ =>
        follows_rdEa.bind fun _ => follows_wrPC _)
  | unaryAcc op r =>
      exact r.follows_get.bind fun _ => (follows_unary _ _).bind fun _ => r.follows_put _
  | tstAcc r => exact r.follows_get.bind fun _ => follows_tst _
  | bin8 op r src =>
      exact src.follows_andThen fun hv => r.follows_get.bind fun _ => hv.bind fun _ =>
        (follows_alu _).bind fun _ => r.follows_put _
  | test8 op r src =>
      exact src.follows_andThen fun hv => r.follows_get.bind fun _ => hv.bind fun _ =>
        follows_alu _
  | ld8 r src =>
      exact src.follows_andThen fun hv => hv.bind fun _ => (follows_alu _).bind fun _ =>
        r.follows_put _
  | st8 r ea =>
      exact ea.follows_andThen (r.follows_get.bind fun _ => (follows_alu _).bind fun _ =>
        follows_wrmemEa _)
  | bin16 op src =>
      cases src with
      | imm clk =>
          exact (follows_tick clk).bind fun _ => follows_immWord.bind fun _ => op.follows_run _
      | mem ea =>
          exact ea.follows_andThen (follows_rdmem16Ea.bind fun _ =>
            (op.follows_run _).bind fun _ => follows_tick 1)
  | ldd src =>
      exact src.follows_andThen fun hv => hv.bind fun _ => (follows_alu _).bind fun _ =>
        follows_wrAB _
  | std ea =>
      exact ea.follows_andThen (follows_rdA.bind fun _ => follows_rdB.bind fun _ =>
        (follows_alu _).bind fun _ => follows_rdEa.bind fun _ => follows_rdD.bind fun _ =>
        follows_wrmem16 _ _)
  | cmp16 r src =>
      cases src with
      | imm clk =>
          exact (follows_tick clk).bind fun _ => r.follows_get.bind fun _ =>
            follows_immWord.bind fun _ => follows_alu _
      | mem ea =>
          exact ea.follows_andThen (r.follows_get.bind fun _ => follows_rdmem16Ea.bind
            fun _ => (follows_alu _).bind fun _ => follows_tick 1)
  | ld16 r src =>
      exact src.follows_andThen fun hv => hv.bind fun _ => (follows_alu _).bind fun _ =>
        r.follows_put _
  | st16 r ea =>
      exact ea.follows_andThen (r.follows_get.bind fun _ => (follows_alu _).bind fun _ =>
        follows_rdEa.bind fun _ => follows_wrmem16 _ _)
  | lea r =>
      exact follows_indexed.bind fun _ => follows_rdEa.bind fun _ => (r.follows_put _).bind
        fun _ => follows_rdEa.bind fun _ => follows_wrZ _
  | leaStack r =>
      exact follows_indexed.bind fun _ => follows_rdEa.bind fun _ => r.follows_put _
  | bra => exact bra.bind fun _ => follows_tick 3
  | brn => exact (follows_skip 1).bind fun _ => follows_tick 3
  | branch c =>
      exact (cond c).bind fun _ => (Follows.ite bra (follows_skip 1)).bind fun _ => follows_tick 3
  | bsr => exact follows_immByte.bind fun tmp => follows_call (· + int8 tmp) 7
  | longBra => exact longBra.bind fun _ => follows_tick 5
  | longBrn => exact (follows_tick 5).bind fun _ => follows_skip 2
  | longBranch c =>
      exact (cond c).bind fun _ => Follows.ite (longBra.bind fun _ => follows_tick 6)
        ((follows_skip 2).bind fun _ => follows_tick 5)
  | longBsr => exact follows_immWord.bind fun tmp => follows_call (· + int16 tmp) 9
  | nop => exact follows_tick 2
  | sync => exact (follows_tick 4).bind fun _ => follows_simError
  | cwai => exact follows_simError
  | daa =>
      exact follows_rdA.bind fun _ => (follows_alu _).bind fun _ => (follows_wrA _).bind fun _ =>
        follows_tick 2
  | orcc | andcc =>
      exact follows_immByte.bind fun _ => follows_getCc.bind fun _ => (follows_setCc _).bind
        fun _ => follows_tick 3
  | sex =>
      exact follows_rdB.bind fun _ => (follows_alu _).bind fun _ => (follows_wrA _).bind fun _ =>
        follows_tick 2
  | exg => exact follows_immByte.bind fun _ => (follows_exg _).bind fun _ => follows_tick 8
  | tfr => exact follows_immByte.bind fun _ => (follows_tfr _).bind fun _ => follows_tick 6
  | abx =>
      exact follows_rdX.bind fun _ => follows_rdB.bind fun _ => (follows_wrX _).bind fun _ =>
        follows_tick 3
  | mul =>
      exact follows_rdA.bind fun _ => follows_rdB.bind fun _ => (follows_alu _).bind fun _ =>
        (follows_wrA _).bind fun _ => (follows_wrB _).bind fun _ => follows_tick 11
  | pshs => exact follows_immByte.bind fun _ => follows_pshsPost _
  | pshu => exact follows_immByte.bind fun _ => follows_pshuPost _
  | puls => exact follows_immByte.bind fun _ => follows_pulsPost _
  | pulu => exact follows_immByte.bind fun _ => follows_puluPost _
  | rts => exact (follows_tick 5).bind fun _ => follows_pullS16.bind fun _ => follows_wrPC _
  | rti => exact follows_rti
  | swi => exact follows_swiWith _ _ _
  | swi2 => exact follows_swiWith _ _ _
  | swi3 => exact follows_swiWith _ _ _
  | invalid =>
      exact (follows_tick 2).bind fun _ => (follows_simError).bind fun _ =>
        Follows.bind (follows_reads (fun _ => Cpu.iPC) fun _ _ => rfl) fun _ => follows_wrPC _
  | invalidPrefixed => exact follows_simError

/-- **One instruction does alike on both machines.** -/
lemma follows_cpuInsn : Follows exact R (cpuInsn : M σ Unit) cpuInsn := by
  have decode : Follows exact R (Exec09.decode : M σ Insn) Exec09.decode := by
    refine follows_immByte.bind fun opcode => ?_
    rcases insns0.lookup opcode with _ | (i | _ | _)
    · exact Follows.pure _
    · exact Follows.pure _
    · exact follows_immByte.bind fun _ => Follows.pure _
    · exact follows_immByte.bind fun _ => Follows.pure _
  rw [cpuInsn_eq, cpuInsn_eq]
  exact Follows.bind (follows_modify (fun _ s => { s with iPC := s.PC }) 
    fun _ _ => rfl) fun _ => decode.bind fun i => i.follows_exec.bind fun _ =>
    follows_ccCheck

/-! ## Runs -/

lemma follows_cpuReset : Follows exact R (cpuReset : M σ Unit) cpuReset := by
  refine Follows.bind (follows_modify (fun _ s =>
    { s with
      X := 0, Y := 0, S := 0, U := 0, A := 0, B := 0, DP := 0
      flags := { H := 0, N := 0, Z := 1, OV := 0, C := 0 }
      EFI := F_FLAG ||| I_FLAG }) fun _ _ => rfl) fun _ => ?_
  refine (follows_read16 _).bind fun _ => (follows_wrPC _).bind fun _ => ?_
  have calls : SameCalls exact R := inferInstance
  exact Follows.modify calls.cpuIsRunning

/-- The same action on both machines. -/
inductive SameAction (R : Cpu σ → Cpu τ → Prop) : Action σ → Action τ → Prop
  | insn : SameAction R .insn .insn
  | hook : SameAction R .hook .hook
  | irq : SameAction R .irq .irq
  | firq : SameAction R .firq .firq
  | requestIrq (source : Unsigned) : SameAction R (.requestIrq source) (.requestIrq source)
  | releaseIrq (source : Unsigned) : SameAction R (.releaseIrq source) (.releaseIrq source)
  | requestFirq (source : Unsigned) : SameAction R (.requestFirq source) (.requestFirq source)
  | releaseFirq (source : Unsigned) : SameAction R (.releaseFirq source) (.releaseFirq source)
  | poke (r : DebugReg) (val : Unsigned) : SameAction R (.poke r val) (.poke r val)
  | clock (total : BitVec 64) (period clk : Int) :
      SameAction R (.clock total period clk) (.clock total period clk)
  | world (f : View → σ → σ) (f' : View → τ → τ)
      (h : ∀ s t, R s t → R { s with world := f s.view s.world }
        { t with world := f' t.view t.world }) : SameAction R (.world f) (.world f')

lemma follows_poke (r : DebugReg) (val : Unsigned) :
    Follows exact R (modify (Cpu.poke r val) : M σ Unit) (modify (Cpu.poke r val)) := by
  cases r <;> exact follows_modify (fun ρ => Cpu.poke _ val) fun _ _ => rfl

lemma SameAction.follows {a : Action σ} {a' : Action τ} (h : SameAction R a a') :
    Follows exact R (Action.run a) (Action.run a') := by
  cases h with
  | insn => exact follows_cpuInsn
  | hook => exact follows_insnHook
  | irq => exact follows_irq
  | firq => exact follows_firq
  | requestIrq source => exact follows_requestIrqWith follows_wrmem source
  | releaseIrq source => exact follows_releaseIrq source
  | requestFirq source => exact follows_requestFirqWith follows_wrmem source
  | releaseFirq source => exact follows_releaseFirq source
  | poke r val => exact follows_poke r val
  | clock total period clk =>
      exact follows_modify (fun _ s => { s with total := total, cpuPeriod := period, cpuClk := clk })
        fun _ _ => rfl
  | world f f' h => exact Follows.modify h

/-- **Runs do alike.** -/
lemma follows_runActions {l : List (Action σ)} {l' : List (Action τ)}
    (h : List.Forall₂ (SameAction R) l l') :
    Follows exact R (runActions l) (runActions l') := by
  induction h with
  | nil => exact Follows.pure _
  | cons h _ ih => exact h.follows.bind fun _ => ih

section Loop

variable (monitor6809 : M σ Bool)

/-- The part of an iteration before its instruction; the result says whether to leave the loop. -/
def beforeInsn : M σ Bool := do
  insnHook
  if (← reads Cpu.monitorOn) then monitor6809 else pure false

omit [Machine τ] [SameCalls exact R] in
lemma cpuIteration_eq : cpuIteration monitor6809 = (do
    if ← beforeInsn monitor6809 then return false else do cpuInsn; return true) := by
  simp only [cpuIteration, beforeInsn, bind_assoc]
  refine congrArg (insnHook >>= ·) (funext fun _ =>
    congrArg (reads Cpu.monitorOn >>= ·) (funext fun on => ?_))
  cases on <;> rfl

omit [Machine τ] [SameCalls exact R] in
lemma cpuLoop_succ (n : Nat) : cpuLoop monitor6809 (n + 1) = (do
    if ← beforeInsn monitor6809 then return some () else do
      cpuInsn
      if (← reads Cpu.cpuClk) > 0 then cpuLoop monitor6809 n else return some ()) := by
  rw [cpuLoop, cpuIteration_eq, bind_assoc]
  refine congrArg (beforeInsn monitor6809 >>= ·) (funext fun leave => ?_)
  cases leave with
  | true => rfl
  | false => simp only [Bool.false_eq_true, if_false, if_true, bind_assoc, pure_bind]

/-- A session with the debugger if `monitor_on` asks for one. -/
def whenMonitored : M σ Bool := do
  if (← reads Cpu.monitorOn) then monitor6809 else pure false

omit [Machine σ] in
lemma whenMonitored_on {s : Cpu σ} (h : s.monitorOn = true) :
    whenMonitored monitor6809 s = monitor6809 s := by
  rw [whenMonitored, ok_bind (reads_apply Cpu.monitorOn s), if_pos h]

omit [Machine σ] in
lemma whenMonitored_off {s : Cpu σ} (h : ¬s.monitorOn = true) :
    whenMonitored monitor6809 s = (pure false : M σ Bool) s := by
  rw [whenMonitored, ok_bind (reads_apply Cpu.monitorOn s), if_neg h]

omit [Machine σ] in
lemma whenMonitored_pure (s : Cpu σ) :
    whenMonitored (pure false) s = (pure false : M σ Bool) s := by
  rw [whenMonitored, ok_bind (reads_apply Cpu.monitorOn s), ite_self]

variable {monitor6809} {monitor6809' : M τ Bool}
  (hm : Follows exact R (whenMonitored monitor6809) (whenMonitored monitor6809'))
include hm

lemma follows_beforeInsn :
    Follows exact R (beforeInsn monitor6809) (beforeInsn monitor6809') :=
  follows_insnHook.bind fun _ => hm

lemma follows_cpuLoop (fuel : Nat) :
    Follows exact R (cpuLoop monitor6809 fuel) (cpuLoop monitor6809' fuel) := by
  induction fuel with
  | zero => exact Follows.pure _
  | succ n ih =>
      rw [cpuLoop_succ, cpuLoop_succ]
      refine (follows_beforeInsn hm).bind fun leave => Follows.ite (Follows.pure _) ?_
      refine follows_cpuInsn.bind fun _ => ?_
      exact Follows.bind (follows_reads (fun _ => Cpu.cpuClk) fun _ _ => rfl) fun _ =>
        Follows.ite ih (Follows.pure _)

/-- **`cpu_execute` does alike.** -/
lemma follows_cpuExecute (fuel : Nat) (cycles : Int) :
    Follows exact R (cpuExecute monitor6809 fuel cycles)
      (cpuExecute monitor6809' fuel cycles) := by
  refine Follows.bind (follows_modify (fun _ s => { s with cpuPeriod := cycles, cpuClk := cycles })
    fun _ _ => rfl) fun _ => (follows_cpuLoop hm fuel).bind fun r => ?_
  cases r with
  | none => exact Follows.pure _
  | some =>
      exact Follows.bind (follows_modify (fun _ s => { s with cpuPeriod := s.cpuPeriod - s.cpuClk })
          fun _ _ => rfl) fun _ =>
        Follows.bind (follows_modify (fun _ s => { s with cpuClk := s.cpuPeriod })
          fun _ _ => rfl) fun _ =>
        Follows.bind (follows_reads (fun _ => Cpu.cpuPeriod) fun _ _ => rfl) fun _ =>
        Follows.pure _

lemma follows_mainSlice (fuel : Nat) (cycles : Int) :
    Follows exact R (mainSlice monitor6809 fuel cycles) (mainSlice monitor6809' fuel cycles) := by
  refine (follows_cpuExecute hm fuel cycles).bind fun v => ?_
  cases v with
  | none => exact Follows.pure _
  | some v =>
      exact Follows.bind (follows_modify (fun _ s =>
        { s with total := s.total + BitVec.ofInt 64 v }) fun _ _ => rfl) fun _ => Follows.pure _

/-- The loop of `main` does alike. -/
lemma follows_mainLoop (fuel : Nat) {l : List (Int × List (Action σ))}
    {l' : List (Int × List (Action τ))}
    (h : List.Forall₂ (fun x y => y.1 = x.1 ∧ List.Forall₂ (SameAction R) x.2 y.2) l l') :
    Follows exact R (mainLoop monitor6809 fuel l) (mainLoop monitor6809' fuel l') := by
  induction h with
  | nil => exact Follows.pure _
  | @cons x y l l' h _ ih =>
      obtain ⟨cycles, a⟩ := x
      obtain ⟨cycles', a'⟩ := y
      obtain ⟨rfl, ha⟩ : cycles' = cycles ∧ _ := h
      refine (follows_mainSlice hm fuel cycles').bind fun r => ?_
      cases r with
      | none => exact Follows.pure _
      | some => exact (follows_runActions ha).bind fun _ => ih

end Loop

/-! ## Machines that answer alike -/

section Answers

variable {W : σ → τ → Prop}

/-- Two processors agree, over related worlds.  `monitor_on` is not compared: it is the debugger's
business whether and when it asks for a session. -/
structure InStep (W : σ → τ → Prop) (s : Cpu σ) (t : Cpu τ) : Prop where
  proper : t.proper = s.proper
  world : W s.world t.world

/-- Two answers are the same, or the simulation is not exact and the first one ends the process. -/
def SameReply (exact : Prop) (W : σ → τ → Prop) (r : Reply σ β) (r' : Reply τ β) : Prop :=
  (¬exact ∧ ∃ c, .exit c ∈ r.signals) ∨
    (r'.val = r.val ∧ W r.world r'.world ∧
      r'.signals.filter Signal.heard = r.signals.filter Signal.heard)

def SameWrite (exact : Prop) (W : σ → τ → Prop) (r : WriteReply σ) (r' : WriteReply τ) : Prop :=
  (¬exact ∧ ∃ c, .signal (.exit c) ∈ r.effects) ∨
    (W r.world r'.world ∧ r'.effects.filter Effect.heard = r.effects.filter Effect.heard)

/-- The second machine does what the first one does, in related worlds. -/
structure Simulates (exact : Prop) (W : σ → τ → Prop) [Machine σ] [Machine τ] : Prop where
  read8 : ∀ v w w' a, W w w' → SameReply exact W (Machine.read8 v w a) (Machine.read8 v w' a)
  read16 : ∀ v w w' a, W w w' → SameReply exact W (Machine.read16 v w a) (Machine.read16 v w' a)
  write8 : ∀ v w w' a d, W w w' →
    SameWrite exact W (Machine.write8 v w a d) (Machine.write8 v w' a d)
  insnHook : ∀ v w w', W w w' → SameReply exact W (Machine.insnHook v w) (Machine.insnHook v w')
  cpuIsRunning : ∀ w w', W w w' → W (Machine.cpuIsRunning w) (Machine.cpuIsRunning w')
  debugEnabled : Machine.debugEnabled τ = Machine.debugEnabled σ
  nesting : Machine.nesting τ = Machine.nesting σ

omit [Machine σ] [Machine τ] in
lemma InStep.monitor {s : Cpu σ} {t : Cpu τ} (h : InStep W s t) (on on' : Bool) :
    InStep W { s with monitorOn := on } { t with monitorOn := on' } :=
  ⟨h.proper, h.world⟩

instance : Linked (InStep W) where
  proper h := h.proper
  plug u h := ⟨congrArg (fun n => ({ u with monitorOn := false, simErrors := n } : Cpu Unit))
    (congrArg Cpu.simErrors h.proper), h.world⟩

/-- `exit` among what an access reported ends the process. -/
lemma forM_signal_exit {l : List Signal} {c : U8} (h : .exit c ∈ l) (s : Cpu σ) :
    ∃ e, (l.forM signal : M σ Unit) s = .error e := by
  induction l generalizing s with
  | nil => cases h
  | cons x l ih =>
      rcases hx : (signal x : M σ Unit) s with e | ⟨_, t⟩
      · exact ⟨e, error_bind hx⟩
      · rcases List.mem_cons.mp h with rfl | h
        · cases hx
        · obtain ⟨e, he⟩ := ih h t
          exact ⟨e, (ok_bind hx).trans he⟩

/-- What is left of an access when the machine has answered. -/
def Reply.carry (r : Reply σ β) : M σ β := do
  r.signals.forM signal
  return r.val

lemma access_apply (call : View → σ → Reply σ β) (s : Cpu σ) : access call s =
    (call s.view s.world).carry { s with world := (call s.view s.world).world } := rfl

section Signals

variable (hd : Machine.debugEnabled τ = Machine.debugEnabled σ)
include hd

lemma InStep.follows_simError : Follows exact (InStep W) (simError : M σ Unit) simError := by
  refine Follows.bind (Follows.modify fun s t h => ⟨?_, h.world⟩) fun _ => ?_
  · exact congrArg (fun u : Cpu Unit => { u with simErrors := u.simErrors + 1 }) h.proper
  · rw [hd]
    exact Follows.ite (Follows.modify fun _ _ h => h.monitor true true) (Follows.throw _)

lemma InStep.follows_signal (x : Signal) :
    Follows exact (InStep W) (signal x : M σ Unit) (signal x) := by
  cases x with
  | simError => exact InStep.follows_simError hd
  | monitor on => exact Follows.modify fun _ _ h => h.monitor on on
  | exit c => exact Follows.throw _

lemma InStep.follows_signals {l l' : List Signal}
    (h : l'.filter Signal.heard = l.filter Signal.heard) :
    Follows exact (InStep W) (l.forM signal : M σ Unit) (l'.forM signal) := by
  refine Follows.forM_filter (fun x _ => InStep.follows_signal hd x) (fun x _ hx s => ?_)
    (fun x _ hx t => ?_) h
  · cases x with
    | simError => exact absurd rfl hx
    | monitor on => exact ⟨_, rfl, fun t h => ⟨h.proper, h.world⟩⟩
    | exit c => exact absurd rfl hx
  · cases x with
    | simError => exact absurd rfl hx
    | monitor on => exact ⟨_, rfl, fun s h => ⟨h.proper, h.world⟩⟩
    | exit c => exact absurd rfl hx

/-- Calls that are answered alike. -/
lemma InStep.follows_access {call : View → σ → Reply σ β} {call' : View → τ → Reply τ β}
    (h : ∀ v w w', W w w' → SameReply exact W (call v w) (call' v w')) :
    Follows exact (InStep W) (access call) (access call') := by
  intro s t hst
  rw [access_apply, access_apply, Linked.view hst]
  rcases h s.view s.world t.world hst.world with ⟨hx, c, hc⟩ | ⟨hval, hw, hl⟩
  · obtain ⟨e, he⟩ := forM_signal_exit hc { s with world := (call s.view s.world).world }
    refine ⟨fun a u hu => ?_, fun h => absurd h hx⟩
    cases hu.symm.trans (error_bind he)
  · rw [Reply.carry, Reply.carry, hval]
    exact (InStep.follows_signals hd hl).bind (fun _ => Follows.pure _) _ _ ⟨hst.proper, hw⟩

end Signals

/-- On machines that answer alike the processors stay in step. -/
lemma Simulates.sameCalls (hM : Simulates exact W) : SameCalls exact (InStep W) where
  read8 a := InStep.follows_access hM.debugEnabled fun v w w' => hM.read8 v w w' a
  read16 a := InStep.follows_access hM.debugEnabled fun v w w' => hM.read16 v w w' a
  insnHook := InStep.follows_access hM.debugEnabled hM.insnHook
  simError := InStep.follows_simError hM.debugEnabled
  write8 a d s t hst := by
    rw [Linked.view hst]
    rcases hM.write8 s.view s.world t.world a d hst.world with h | ⟨hw, hl⟩
    · exact .inl h
    · exact .inr ⟨⟨hst.proper, hw⟩, hl, fun _ _ _ _ h => ⟨h.proper, h.world⟩,
        fun _ _ _ _ h => ⟨h.proper, h.world⟩⟩
  cpuIsRunning s t hst := ⟨hst.proper, hM.cpuIsRunning _ _ hst.world⟩
  nesting := hM.nesting

end Answers

end Exec09
