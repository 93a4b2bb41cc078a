import Exec09.Properties.Observation

/-!
# Instructions are functions of what they observe

Every program of `6809.c`, up to whole instructions, is `Blind`, or computes an address
(`Aims`), or uses one (`Aimed`).  `blind_cpuInsn` puts the cases together.
-/

namespace Exec09

open Program

variable {σ : Type} [Machine σ]

/-! ## Interrupt entry and writes -/

lemma blind_immByte : Blind (immByte : M σ Unsigned) :=
  blind_reads_PC.bind fun _ => (blind_rdmem _).bind fun _ => (blind_skip 1).bind fun _ =>
    Blind.pure _

lemma blind_immWord : Blind (immWord : M σ Unsigned) :=
  blind_reads_PC.bind fun _ => (blind_read16 _).bind fun _ => (blind_skip 2).bind fun _ =>
    Blind.pure _

section With

variable {write : Unsigned → Unsigned → M σ Unit} (hw : ∀ a d, Blind (write a d))
include hw

omit [Machine σ] in
lemma blind_pushS16With (data : Unsigned) : Blind (pushS16With write data) :=
  (Blind.modify (fun o => { o with S := (o.S - 2) &&& 0xffff }) fun _ _ => rfl).bind fun _ =>
    blind_rdS.bind fun _ => (hw _ _).bind fun _ => hw _ _

omit [Machine σ] in
lemma blind_pushS8With (data : Unsigned) : Blind (pushS8With write data) :=
  (Blind.modify (fun o => { o with S := (o.S - 1) &&& 0xffff }) fun _ _ => rfl).bind fun _ =>
    blind_rdS.bind fun _ => hw _ _

omit [Machine σ] in
lemma blind_pushAllWith : Blind (pushAllWith write) :=
  blind_reads_PC.bind fun _ => (blind_pushS16With hw _).bind fun _ =>
  blind_rdU.bind fun _ => (blind_pushS16With hw _).bind fun _ =>
  blind_rdY.bind fun _ => (blind_pushS16With hw _).bind fun _ =>
  blind_rdX.bind fun _ => (blind_pushS16With hw _).bind fun _ =>
  blind_reads_DP.bind fun _ => (blind_pushS8With hw _).bind fun _ =>
  blind_rdB.bind fun _ => (blind_pushS8With hw _).bind fun _ =>
  blind_rdA.bind fun _ => (blind_pushS8With hw _).bind fun _ =>
  blind_reads_getCc.bind fun _ => blind_pushS8With hw _

omit [Machine σ] hw in
/-- Recording an event that is a function of the snapshot. -/
lemma blind_record (event : Snapshot → Event) :
    Blind (modify fun s => { s with hist := event s.snapshot :: s.hist } : M σ Unit) := by
  refine Blind.modify (fun o => { o with hist := event o.snapshot :: o.hist }) fun l s => ?_
  rw [s.snapshot_observe l]
  rfl

lemma blind_irqWith : Blind (irqWith write) :=
  (blind_record Event.irq).bind fun _ =>
  (blind_modify_EFI (or_efi_mask E_FLAG)).bind fun _ =>
  (blind_pushAllWith hw).bind fun _ =>
  (blind_modify_EFI (or_efi_mask I_FLAG)).bind fun _ =>
  (blind_read16 _).bind fun _ => (blind_wrPC _).bind fun _ =>
  Blind.modify (fun o => { o with irqsPending := 0 }) fun _ _ => rfl

lemma blind_firqWith : Blind (firqWith write) :=
  (blind_record Event.firq).bind fun _ =>
  (blind_modify_EFI (and_efi_mask (~~~E_FLAG))).bind fun _ =>
  blind_reads_PC.bind fun _ => (blind_pushS16With hw _).bind fun _ =>
  blind_reads_getCc.bind fun _ => (blind_pushS8With hw _).bind fun _ =>
  (blind_modify_EFI (or_efi_mask (I_FLAG ||| F_FLAG))).bind fun _ =>
  (blind_read16 _).bind fun _ => (blind_wrPC _).bind fun _ =>
  Blind.modify (fun o => { o with firqsPending := 0 }) fun _ _ => rfl

lemma blind_requestIrqWith (source : Unsigned) : Blind (requestIrqWith write source) :=
  (Blind.modify (fun o => { o with irqsPending := o.irqsPending ||| ((1 : Unsigned) <<< source) })
    fun _ _ => rfl).bind fun _ =>
  blind_reads_irqMasked.bind fun _ => (blind_irqWith hw).whenever.bind fun _ =>
  blind_record Event.requested

lemma blind_requestFirqWith (source : Unsigned) : Blind (requestFirqWith write source) :=
  (Blind.modify
    (fun o => { o with firqsPending := o.firqsPending ||| ((1 : Unsigned) <<< source) })
    fun _ _ => rfl).bind fun _ =>
  blind_reads_firqMasked.bind fun _ => (blind_firqWith hw).whenever.bind fun _ =>
  blind_record Event.requested

omit [Machine σ] hw in
lemma blind_releaseIrq (source : Unsigned) : Blind (releaseIrq source : M σ Unit) :=
  (Blind.modify
    (fun o => { o with irqsPending := o.irqsPending &&& ~~~((1 : Unsigned) <<< source) })
    fun _ _ => rfl).bind fun _ => blind_record fun _ => .releasedIrq

omit [Machine σ] hw in
lemma blind_releaseFirq (source : Unsigned) : Blind (releaseFirq source : M σ Unit) :=
  (Blind.modify
    (fun o => { o with firqsPending := o.firqsPending &&& ~~~((1 : Unsigned) <<< source) })
    fun _ _ => rfl).bind fun _ => blind_record fun _ => .releasedFirq

lemma blind_effectWith (x : Effect) : Blind (effectWith write x) := by
  cases x with
  | signal e => exact blind_signal e
  | requestIrq source => exact blind_requestIrqWith hw source
  | releaseIrq source => exact blind_releaseIrq source
  | requestFirq source => exact blind_requestFirqWith hw source
  | releaseFirq source => exact blind_releaseFirq source

end With

/-- Writes are blind at every nesting depth. -/
lemma blind_writeN (n : Nat) : ∀ addr data, Blind (writeN n addr data : M σ Unit) := by
  induction n with
  | zero => exact fun _ _ => Blind.throw _
  | succ n ih =>
      intro addr data
      refine (blind_modifyGet_world (fun v w => Machine.write8 v w addr (data.setWidth 8))
        WriteReply.world).bind fun r => ?_
      exact Blind.forM (blind_effectWith ih)

lemma blind_wrmem (addr data : Unsigned) : Blind (wrmem addr data : M σ Unit) :=
  blind_writeN _ addr data

lemma blind_wrmem16 (addr data : Unsigned) : Blind (wrmem16 addr data : M σ Unit) :=
  (blind_wrmem _ _).bind fun _ => (blind_tick _).bind fun _ => blind_wrmem _ _

lemma blind_pushS16 (data : Unsigned) : Blind (pushS16 data : M σ Unit) :=
  blind_pushS16With blind_wrmem data

lemma blind_pushS8 (data : Unsigned) : Blind (pushS8 data : M σ Unit) :=
  blind_pushS8With blind_wrmem data

lemma blind_irq : Blind (irq : M σ Unit) := blind_irqWith blind_wrmem

lemma blind_firq : Blind (firq : M σ Unit) := blind_firqWith blind_wrmem

lemma blind_pollLines : Blind (pollLines : M σ Unit) :=
  blind_reads_firqDeliverable.bind fun _ => Blind.ite blind_firq <|
    blind_reads_irqDeliverable.bind fun _ => Blind.ite blind_irq (Blind.pure ())

lemma blind_ccModified : Blind (ccModified : M σ Unit) :=
  blind_pollLines.bind fun _ =>
    Blind.modify (fun o => { o with ccChanged := o.ccChanged.map fun _ => 0 }) fun l s => by
      obtain ⟨p, e, _ | _⟩ := l <;> rfl

/-- The check reads `cc_changed`, so it has to be live. -/
lemma uniform_ccCheck {l : Live} (hl : l.ccChanged = true) :
    Uniform (Agree l) (Agree l) (ccCheck : M σ Unit) := by
  refine Uniform.bind (Uniform.reads fun s t hst => ?_) fun _ => (blind_ccModified l).whenever
  have h := congrArg Observation.ccChanged hst
  simpa [Cpu.observe, hl] using h

/-! ## Addressing modes -/

lemma aimed_rdmemEa : Aimed (rdmemEa : M σ Unsigned) :=
  aimed_rdEa.bind fun _ => (blind_rdmem _).aimed

lemma aimed_rdmem16Ea : Aimed (rdmem16Ea : M σ Unsigned) :=
  aimed_rdEa.bind fun _ => (blind_rdmem16 _).aimed

lemma aimed_wrmemEa (data : Unsigned) : Aimed (wrmemEa data : M σ Unit) :=
  aimed_rdEa.bind fun _ => (blind_wrmem _ _).aimed

lemma aims_direct : Aims (direct : M σ Unit) := by
  refine Aims.after blind_reads_PC fun _ => Aims.after (blind_rdmem _) fun val l => ?_
  refine Uniform.modify fun s t hst => ?_
  have h := congrArg
    (fun o : Observation σ => { o with PC := o.PC + 1, ea := some (val ||| o.DP) }) hst
  exact h

lemma aims_extended : Aims (extended : M σ Unit) := Aims.after blind_immWord fun _ => aims_wrEa _

omit [Machine σ] in
lemma IndexReg.blind_get (R : IndexReg) : Blind (R.get : M σ Unsigned) := by
  cases R with
  | X => exact blind_rdX
  | Y => exact blind_rdY
  | U => exact blind_rdU
  | S => exact blind_rdS

omit [Machine σ] in
lemma IndexReg.blind_put (R : IndexReg) (v : Unsigned) : Blind (R.put v : M σ Unit) := by
  cases R with
  | X => exact blind_wrX v
  | Y => exact blind_wrY v
  | U => exact blind_wrU v
  | S => exact blind_wrS v

lemma aims_indirect_tail : Aimed (indirect : M σ Unit) :=
  aimed_rdmem16Ea.bind fun _ l => ((aims_wrEa _).bind fun _ => (blind_tick 2).aimed) l.aim

lemma IndexMode.aims_addr (R : IndexReg) (m : IndexMode) : Aims (m.addr R : M σ Unit) := by
  cases m with
  | inc n =>
      exact Aims.after R.blind_get fun _ => (aims_wrEa _).bind fun _ =>
        (R.blind_get.bind fun _ => R.blind_put _).aimed
  | dec n =>
      exact Aims.after R.blind_get fun _ => Aims.after (R.blind_put _) fun _ =>
        Aims.after R.blind_get fun _ => aims_wrEa _
  | zero => exact Aims.after R.blind_get fun _ => aims_wrEa _
  | accB => exact Aims.after R.blind_get fun _ => Aims.after blind_rdB fun _ => aims_wrEa _
  | accA => exact Aims.after R.blind_get fun _ => Aims.after blind_rdA fun _ => aims_wrEa _
  | off8 => exact Aims.after R.blind_get fun _ => Aims.after blind_immByte fun _ => aims_wrEa _
  | off16 => exact Aims.after R.blind_get fun _ => Aims.after blind_immWord fun _ => aims_wrEa _
  | accD => exact Aims.after R.blind_get fun _ => Aims.after blind_rdD fun _ => aims_wrEa _
  | pc8 =>
      exact Aims.after blind_immByte fun _ => (aims_wrEa _).bind fun _ => aimed_rdEa.bind fun _ =>
        blind_reads_PC.aimed.bind fun _ l => aims_wrEa _ l.aim
  | pc16 =>
      exact Aims.after blind_immWord fun _ => (aims_wrEa _).bind fun _ => aimed_rdEa.bind fun _ =>
        blind_reads_PC.aimed.bind fun _ l => aims_wrEa _ l.aim
  | ext => exact Aims.after blind_immWord fun _ => aims_wrEa _

lemma Index.aims_exec (i : Index) (R : IndexReg) : Aims (i.exec R : M σ Unit) := by
  refine (i.mode.aims_addr R).bind fun _ => (blind_tick _).aimed.bind fun _ => ?_
  split
  · exact aims_indirect_tail
  · exact Aimed.pure ()

lemma Post.aims_exec (post : Post) : Aims (post.exec : M σ Unit) := by
  cases post with
  | offset R n =>
      exact Aims.after R.blind_get fun _ => (aims_wrEa _).bind fun _ => (blind_tick 5).aimed
  | mode R i => exact i.aims_exec R
  | illegal => exact (aims_wrEa 0).bind fun _ => blind_simError.aimed

lemma aims_indexed : Aims (indexed : M σ Unit) := by
  refine Aims.after blind_immByte fun post => ?_
  rw [indexedPost_eq]
  exact (decodePost post).aims_exec

/-! ## Helpers -/

omit [Machine σ] in
lemma blind_wrAB (res : Unsigned) : Blind (wrAB res : M σ Unit) :=
  (blind_wrA _).bind fun _ => blind_wrB _

omit [Machine σ] in
lemma blind_unary (op : Unary) (arg : Unsigned) : Blind (unary op.fn arg : M σ Unsigned) :=
  (blind_alu (op.lazy_fn arg)).bind fun _ => (blind_tick 2).bind fun _ => Blind.pure _

omit [Machine σ] in
lemma blind_tst (arg : Unsigned) : Blind (tst arg : M σ Unit) :=
  (blind_alu (lazy_tst arg)).bind fun _ => blind_tick 2

lemma aimed_st (arg : Unsigned) : Aimed (st arg : M σ Unit) :=
  (blind_alu (lazy_st arg)).aimed.bind fun _ => aimed_wrmemEa arg

omit [Machine σ] in
lemma blind_bin16 (op : Bin16) (val : Unsigned) : Blind (op.run val : M σ Unit) := by
  cases op with
  | addd => exact blind_rdD.bind fun _ => (blind_alu (lazy_addd _ _)).bind fun _ => blind_wrAB _
  | subd => exact blind_rdD.bind fun _ => (blind_alu (lazy_subd _ _)).bind fun _ => blind_wrAB _

omit [Machine σ] in
lemma blind_ldd (arg : Unsigned) : Blind (ldd arg : M σ Unit) :=
  (blind_alu (lazy_ld16 arg)).bind fun _ => blind_wrAB _

lemma aimed_std : Aimed (std : M σ Unit) :=
  blind_rdA.aimed.bind fun _ => blind_rdB.aimed.bind fun _ =>
  (blind_alu (lazy_std _ _)).aimed.bind fun _ => aimed_rdEa.bind fun _ =>
  blind_rdD.aimed.bind fun _ => (blind_wrmem16 _ _).aimed

lemma aimed_st16 (arg : Unsigned) : Aimed (st16 arg : M σ Unit) :=
  (blind_alu (lazy_st16 arg)).aimed.bind fun _ => aimed_rdEa.bind fun _ =>
    (blind_wrmem16 _ _).aimed

omit [Machine σ] in
lemma Acc.blind_get (r : Acc) : Blind (r.get : M σ Unsigned) := by
  cases r with
  | A => exact blind_rdA
  | B => exact blind_rdB

omit [Machine σ] in
lemma Acc.blind_put (r : Acc) (v : Unsigned) : Blind (r.put v : M σ Unit) := by
  cases r with
  | A => exact blind_wrA v
  | B => exact blind_wrB v

omit [Machine σ] in
lemma Cmp16.blind_get (r : Cmp16) : Blind (r.get : M σ Unsigned) := by
  cases r with
  | D => exact blind_rdD
  | X => exact blind_rdX
  | Y => exact blind_rdY
  | U => exact blind_rdU
  | S => exact blind_rdS

/-! ## Stack instructions and calls -/

lemma blind_pushU16 (data : Unsigned) : Blind (pushU16 data : M σ Unit) :=
  (Blind.modify (fun o => { o with U := (o.U - 2) &&& 0xffff }) fun _ _ => rfl).bind fun _ =>
    blind_rdU.bind fun _ => (blind_wrmem _ _).bind fun _ => blind_wrmem _ _

lemma blind_pushU8 (data : Unsigned) : Blind (pushU8 data : M σ Unit) :=
  (Blind.modify (fun o => { o with U := (o.U - 1) &&& 0xffff }) fun _ _ => rfl).bind fun _ =>
    blind_rdU.bind fun _ => blind_wrmem _ _

lemma blind_pullS8 : Blind (pullS8 : M σ Unsigned) :=
  blind_rdS.bind fun _ => (blind_rdmem _).bind fun _ =>
    (Blind.modify (fun o => { o with S := (o.S + 1) &&& 0xffff }) fun _ _ => rfl).bind fun _ =>
      Blind.pure _

lemma blind_pullS16 : Blind (pullS16 : M σ Unsigned) :=
  blind_rdS.bind fun _ => (blind_readStack16 _).bind fun _ =>
    (Blind.modify (fun o => { o with S := (o.S + 2) &&& 0xffff }) fun _ _ => rfl).bind fun _ =>
      Blind.pure _

lemma blind_pullU8 : Blind (pullU8 : M σ Unsigned) :=
  blind_rdU.bind fun _ => (blind_rdmem _).bind fun _ =>
    (Blind.modify (fun o => { o with U := (o.U + 1) &&& 0xffff }) fun _ _ => rfl).bind fun _ =>
      Blind.pure _

lemma blind_pullU16 : Blind (pullU16 : M σ Unsigned) :=
  blind_rdU.bind fun _ => (blind_readStack16 _).bind fun _ =>
    (Blind.modify (fun o => { o with U := (o.U + 2) &&& 0xffff }) fun _ _ => rfl).bind fun _ =>
      Blind.pure _

omit [Machine σ] in
/-- One register of a push or pull mask. -/
lemma blind_masked {c : Prop} [Decidable c] {n : Int} {m : M σ Unit} (hm : Blind m) :
    Blind (whenever c do tick n; m) :=
  ((blind_tick n).bind fun _ => hm).whenever

lemma blind_pshsPost (post : Unsigned) : Blind (pshsPost post : M σ Unit) :=
  (blind_tick 5).bind fun _ =>
  (blind_masked (blind_reads_PC.bind fun _ => blind_pushS16 _)).bind fun _ =>
  (blind_masked (blind_rdU.bind blind_pushS16)).bind fun _ =>
  (blind_masked (blind_rdY.bind blind_pushS16)).bind fun _ =>
  (blind_masked (blind_rdX.bind blind_pushS16)).bind fun _ =>
  (blind_masked (blind_reads_DP.bind fun _ => blind_pushS8 _)).bind fun _ =>
  (blind_masked (blind_rdB.bind blind_pushS8)).bind fun _ =>
  (blind_masked (blind_rdA.bind blind_pushS8)).bind fun _ =>
  blind_masked (blind_reads_getCc.bind blind_pushS8)

lemma blind_pshuPost (post : Unsigned) : Blind (pshuPost post : M σ Unit) :=
  (blind_tick 5).bind fun _ =>
  (blind_masked (blind_reads_PC.bind fun _ => blind_pushU16 _)).bind fun _ =>
  (blind_masked (blind_rdS.bind blind_pushU16)).bind fun _ =>
  (blind_masked (blind_rdY.bind blind_pushU16)).bind fun _ =>
  (blind_masked (blind_rdX.bind blind_pushU16)).bind fun _ =>
  (blind_masked (blind_reads_DP.bind fun _ => blind_pushU8 _)).bind fun _ =>
  (blind_masked (blind_rdB.bind blind_pushU8)).bind fun _ =>
  (blind_masked (blind_rdA.bind blind_pushU8)).bind fun _ =>
  blind_masked (blind_reads_getCc.bind blind_pushU8)

lemma blind_pulsPost (post : Unsigned) : Blind (pulsPost post : M σ Unit) :=
  (blind_tick 5).bind fun _ =>
  (blind_masked (blind_pullS8.bind blind_setCc)).bind fun _ =>
  (blind_masked (blind_pullS8.bind blind_wrA)).bind fun _ =>
  (blind_masked (blind_pullS8.bind blind_wrB)).bind fun _ =>
  (blind_masked (blind_pullS8.bind blind_wrDP)).bind fun _ =>
  (blind_masked (blind_pullS16.bind blind_wrX)).bind fun _ =>
  (blind_masked (blind_pullS16.bind blind_wrY)).bind fun _ =>
  (blind_masked (blind_pullS16.bind blind_wrU)).bind fun _ =>
  blind_masked (blind_pullS16.bind blind_wrPC)

lemma blind_puluPost (post : Unsigned) : Blind (puluPost post : M σ Unit) :=
  (blind_tick 5).bind fun _ =>
  (blind_masked (blind_pullU8.bind blind_setCc)).bind fun _ =>
  (blind_masked (blind_pullU8.bind blind_wrA)).bind fun _ =>
  (blind_masked (blind_pullU8.bind blind_wrB)).bind fun _ =>
  (blind_masked (blind_pullU8.bind blind_wrDP)).bind fun _ =>
  (blind_masked (blind_pullU16.bind blind_wrX)).bind fun _ =>
  (blind_masked (blind_pullU16.bind blind_wrY)).bind fun _ =>
  (blind_masked (blind_pullU16.bind blind_wrS)).bind fun _ =>
  blind_masked (blind_pullU16.bind blind_wrPC)

lemma aimed_jsr : Aimed (jsr : M σ Unit) :=
  blind_reads_PC.aimed.bind fun _ => (blind_pushS16 _).aimed.bind fun _ =>
    aimed_rdEa.bind fun _ => (blind_wrPC _).aimed

lemma blind_rtiContext : Blind (rtiContext : M σ Unit) :=
  (blind_tick 9).bind fun _ =>
  blind_pullS8.bind fun _ => (blind_wrA _).bind fun _ =>
  blind_pullS8.bind fun _ => (blind_wrB _).bind fun _ =>
  blind_pullS8.bind fun _ => (blind_wrDP _).bind fun _ =>
  blind_pullS16.bind fun _ => (blind_wrX _).bind fun _ =>
  blind_pullS16.bind fun _ => (blind_wrY _).bind fun _ =>
  blind_pullS16.bind fun _ => blind_wrU _

lemma blind_rti : Blind (rti : M σ Unit) :=
  (blind_tick 6).bind fun _ =>
  blind_pullS8.bind fun _ => (blind_setCc _).bind fun _ =>
  blind_reads_entireState.bind fun _ => blind_rtiContext.whenever.bind fun _ =>
  blind_pullS16.bind fun _ => blind_wrPC _

lemma blind_rts : Blind (rts : M σ Unit) :=
  (blind_tick 5).bind fun _ => blind_pullS16.bind fun _ => blind_wrPC _

lemma blind_swiWith (clk : Int) (masks vector : Unsigned) :
    Blind (swiWith clk masks vector : M σ Unit) :=
  (blind_tick clk).bind fun _ =>
  (blind_modify_EFI (or_efi_mask E_FLAG)).bind fun _ =>
  (blind_pushAllWith blind_wrmem).bind fun _ =>
  (blind_modify_EFI (or_efi_mask masks)).bind fun _ =>
  (blind_read16 _).bind fun _ => blind_wrPC _

lemma blind_orcc : Blind (orcc : M σ Unit) :=
  blind_immByte.bind fun _ => blind_reads_getCc.bind fun _ => (blind_setCc _).bind fun _ =>
    blind_tick 3

lemma blind_andcc : Blind (andcc : M σ Unit) :=
  blind_immByte.bind fun _ => blind_reads_getCc.bind fun _ => (blind_setCc _).bind fun _ =>
    blind_tick 3

lemma blind_bra : Blind (bra : M σ Unit) := blind_immByte.bind fun _ => blind_skip _

lemma blind_branch (b : Bool) : Blind (branch b : M σ Unit) :=
  (Blind.ite blind_bra (blind_skip 1)).bind fun _ => blind_tick 3

lemma blind_longBra : Blind (longBra : M σ Unit) := blind_immWord.bind fun _ => blind_skip _

lemma blind_longBranch (b : Bool) : Blind (longBranch b : M σ Unit) :=
  Blind.ite (blind_longBra.bind fun _ => blind_tick 6)
    ((blind_skip 2).bind fun _ => blind_tick 5)

lemma aims_longBsr : Aims (longBsr : M σ Unit) :=
  Aims.after blind_immWord fun _ => Aims.after blind_reads_PC fun _ =>
  (aims_wrEa _).bind fun _ =>
  blind_reads_PC.aimed.bind fun _ => (blind_pushS16 _).aimed.bind fun _ =>
  (blind_tick 9).aimed.bind fun _ => aimed_rdEa.bind fun _ => (blind_wrPC _).aimed

lemma aims_bsr : Aims (bsr : M σ Unit) :=
  Aims.after blind_immByte fun _ => Aims.after blind_reads_PC fun _ =>
  (aims_wrEa _).bind fun _ =>
  blind_reads_PC.aimed.bind fun _ => (blind_pushS16 _).aimed.bind fun _ =>
  (blind_tick 7).aimed.bind fun _ => aimed_rdEa.bind fun _ => (blind_wrPC _).aimed

/-! ## Instructions -/

/-- An address computation with its cycles, then a program that uses the address. -/
lemma Ea.aims_andThen (ea : Ea) {k : M σ Unit} (hk : Aimed k) : Aims (ea.andThen k) := by
  cases ea with
  | direct clk => exact aims_direct.bind fun _ => (blind_tick clk).aimed.bind fun _ => hk
  | extended clk => exact aims_extended.bind fun _ => (blind_tick clk).aimed.bind fun _ => hk
  | indexed => exact aims_indexed.bind fun _ => hk
  | tickIndexed clk => exact Aims.after (blind_tick clk) fun _ => aims_indexed.bind fun _ => hk
  | indexedTick clk => exact aims_indexed.bind fun _ => (blind_tick clk).aimed.bind fun _ => hk

/-- Inside an instruction, outside the reach of an address. -/
def Live.body (c : Bool) : Live := ⟨true, false, c⟩

/-- What an instruction does to the relation between two states: the same as before holds after
it, except that the address it has left behind may differ. -/
def Blindfold (m : M σ Unit) : Prop :=
  ∀ c, Uniform (Agree (Live.body c)) (Agree (Live.body c)) m

omit [Machine σ] in
lemma Blind.blindfold {m : M σ Unit} (h : Blind m) : Blindfold m := fun c => h (Live.body c)

omit [Machine σ] in
lemma Aims.blindfold {m : M σ Unit} (h : Aims m) : Blindfold m :=
  fun c => (h (Live.body c)).conseq (fun _ _ hst => hst) fun _ _ hst => hst.dropEa

omit [Machine σ] in
lemma Blindfold.bind {m : M σ Unit} {f : Unit → M σ Unit} (hm : Blindfold m)
    (hf : ∀ a, Blindfold (f a)) : Blindfold (m >>= f) :=
  fun c => (hm c).bind fun a => hf a c

lemma Src8.blindfold_andThen (src : Src8) {k : M σ Unsigned → M σ Unit}
    (hi : Blind (k immByte)) (hm : Aimed (k rdmemEa)) : Blindfold (src.andThen k) := by
  cases src with
  | imm => exact ((blind_tick 2).bind fun _ => hi).blindfold
  | mem ea => exact (ea.aims_andThen hm).blindfold

lemma Src16.blindfold_andThen (src : Src16) {k : M σ Unsigned → M σ Unit}
    (hi : Blind (k immWord)) (hm : Aimed (k rdmem16Ea)) : Blindfold (src.andThen k) := by
  cases src with
  | imm clk => exact ((blind_tick clk).bind fun _ => hi).blindfold
  | mem ea => exact (ea.aims_andThen hm).blindfold

/-- **Every instruction is a function of what it observes.** -/
lemma Insn.blindfold_exec (i : Insn) : Blindfold (i.exec : M σ Unit) := by
  cases i with
  | unaryMem op ea =>
      exact (ea.aims_andThen (aimed_rdmemEa.bind fun _ => (blind_unary op _).aimed.bind
        fun _ => aimed_wrmemEa _)).blindfold
  | tstMem ea => exact (ea.aims_andThen (aimed_rdmemEa.bind fun _ => (blind_tst _).aimed)).blindfold
  | jmp ea => exact (ea.aims_andThen (aimed_rdEa.bind fun _ => (blind_wrPC _).aimed)).blindfold
  | jsr ea => exact (ea.aims_andThen aimed_jsr).blindfold
  | unaryAcc op r =>
      exact (r.blind_get.bind fun _ => (blind_unary op _).bind fun _ => r.blind_put _).blindfold
  | tstAcc r => exact (r.blind_get.bind fun _ => blind_tst _).blindfold
  | bin8 op r src =>
      refine src.blindfold_andThen ?_ ?_
      · exact r.blind_get.bind fun _ => blind_immByte.bind fun _ =>
          (blind_alu (op.lazy_fn _ _)).bind fun _ => r.blind_put _
      · exact r.blind_get.aimed.bind fun _ => aimed_rdmemEa.bind fun _ =>
          (blind_alu (op.lazy_fn _ _)).aimed.bind fun _ => (r.blind_put _).aimed
  | test8 op r src =>
      refine src.blindfold_andThen ?_ ?_
      · exact r.blind_get.bind fun _ => blind_immByte.bind fun _ => blind_alu (op.lazy_fn _ _)
      · exact r.blind_get.aimed.bind fun _ => aimed_rdmemEa.bind fun _ =>
          (blind_alu (op.lazy_fn _ _)).aimed
  | ld8 r src =>
      refine src.blindfold_andThen ?_ ?_
      · exact blind_immByte.bind fun _ => (blind_alu (lazy_ld _)).bind fun _ => r.blind_put _
      · exact aimed_rdmemEa.bind fun _ => (blind_alu (lazy_ld _)).aimed.bind fun _ =>
          (r.blind_put _).aimed
  | st8 r ea =>
      exact (ea.aims_andThen (r.blind_get.aimed.bind fun _ => aimed_st _)).blindfold
  | bin16 op src =>
      cases src with
      | imm clk =>
          exact ((blind_tick clk).bind fun _ => blind_immWord.bind fun _ =>
            blind_bin16 op _).blindfold
      | mem ea =>
          exact (ea.aims_andThen (aimed_rdmem16Ea.bind fun _ => (blind_bin16 op _).aimed.bind
            fun _ => (blind_tick 1).aimed)).blindfold
  | ldd src =>
      exact src.blindfold_andThen (blind_immWord.bind fun _ => blind_ldd _)
        (aimed_rdmem16Ea.bind fun _ => (blind_ldd _).aimed)
  | std ea => exact (ea.aims_andThen aimed_std).blindfold
  | cmp16 r src =>
      cases src with
      | imm clk =>
          exact ((blind_tick clk).bind fun _ => r.blind_get.bind fun _ => blind_immWord.bind
            fun _ => blind_alu (lazy_cmp16 _ _)).blindfold
      | mem ea =>
          exact (ea.aims_andThen (r.blind_get.aimed.bind fun _ => aimed_rdmem16Ea.bind fun _ =>
            (blind_alu (lazy_cmp16 _ _)).aimed.bind fun _ => (blind_tick 1).aimed)).blindfold
  | ld16 r src =>
      refine src.blindfold_andThen ?_ ?_
      · exact blind_immWord.bind fun _ => (blind_alu (lazy_ld16 _)).bind fun _ => r.blind_put _
      · exact aimed_rdmem16Ea.bind fun _ => (blind_alu (lazy_ld16 _)).aimed.bind fun _ =>
          (r.blind_put _).aimed
  | st16 r ea =>
      exact (ea.aims_andThen (r.blind_get.aimed.bind fun _ => aimed_st16 _)).blindfold
  | lea r =>
      exact (aims_indexed.bind fun _ => aimed_rdEa.bind fun _ => (r.blind_put _).aimed.bind
        fun _ => aimed_rdEa.bind fun _ => (blind_wrZ _).aimed).blindfold
  | leaStack r =>
      exact (aims_indexed.bind fun _ => aimed_rdEa.bind fun _ => (r.blind_put _).aimed).blindfold
  | bra => exact (blind_bra.bind fun _ => blind_tick 3).blindfold
  | brn => exact ((blind_skip 1).bind fun _ => blind_tick 3).blindfold
  | branch c => exact ((blind_reads_cond c).bind blind_branch).blindfold
  | bsr => exact aims_bsr.blindfold
  | longBra => exact (blind_longBra.bind fun _ => blind_tick 5).blindfold
  | longBrn => exact ((blind_tick 5).bind fun _ => blind_skip 2).blindfold
  | longBranch c => exact ((blind_reads_cond c).bind blind_longBranch).blindfold
  | longBsr => exact aims_longBsr.blindfold
  | nop => exact (blind_tick 2).blindfold
  | sync => exact ((blind_tick 4).bind fun _ => blind_simError).blindfold
  | daa =>
      exact (blind_rdA.bind fun _ => (blind_alu (lazy_daa _)).bind fun _ => (blind_wrA _).bind
        fun _ => blind_tick 2).blindfold
  | orcc => exact blind_orcc.blindfold
  | andcc => exact blind_andcc.blindfold
  | sex =>
      exact (blind_rdB.bind fun _ => (blind_alu (lazy_sex _)).bind fun _ => (blind_wrA _).bind
        fun _ => blind_tick 2).blindfold
  | exg =>
      exact (blind_immByte.bind fun _ => (blind_exg _).bind fun _ => blind_tick 8).blindfold
  | tfr =>
      exact (blind_immByte.bind fun _ => (blind_tfr _).bind fun _ => blind_tick 6).blindfold
  | abx =>
      exact (blind_rdX.bind fun _ => blind_rdB.bind fun _ => (blind_wrX _).bind fun _ =>
        blind_tick 3).blindfold
  | mul =>
      exact (blind_rdA.bind fun _ => blind_rdB.bind fun _ => (blind_alu (lazy_mul _ _)).bind
        fun _ => (blind_wrA _).bind fun _ => (blind_wrB _).bind fun _ => blind_tick 11).blindfold
  | cwai => exact blind_simError.blindfold
  | pshs => exact (blind_immByte.bind blind_pshsPost).blindfold
  | puls => exact (blind_immByte.bind blind_pulsPost).blindfold
  | pshu => exact (blind_immByte.bind blind_pshuPost).blindfold
  | pulu => exact (blind_immByte.bind blind_puluPost).blindfold
  | rts => exact blind_rts.blindfold
  | rti => exact blind_rti.blindfold
  | swi => exact (blind_swiWith _ _ _).blindfold
  | swi2 => exact (blind_swiWith _ _ _).blindfold
  | swi3 => exact (blind_swiWith _ _ _).blindfold
  | invalid =>
      -- the only reader of `iPC`, which is live throughout an instruction
      refine (blind_tick 2).blindfold.bind fun _ => blind_simError.blindfold.bind fun _ => ?_
      refine fun c => Uniform.bind (Uniform.reads fun s t hst => ?_) fun _ =>
        (blind_wrPC _).blindfold c
      exact Option.some.inj (congrArg Observation.iPC hst)
  | invalidPrefixed => exact blind_simError.blindfold

lemma blind_decode : Blind (decode : M σ Insn) := by
  refine blind_immByte.bind fun opcode => ?_
  rcases insns0.lookup opcode with _ | (i | _ | _)
  · exact Blind.pure _
  · exact Blind.pure _
  · exact blind_immByte.bind fun _ => Blind.pure _
  · exact blind_immByte.bind fun _ => Blind.pure _

omit [Machine σ] in
/-- The first step of an instruction makes `iPC` live. -/
lemma uniform_enter (c : Bool) :
    Uniform (Agree ⟨false, false, c⟩) (Agree (Live.body c))
      (modify fun s => { s with iPC := s.PC } : M σ Unit) := by
  refine Uniform.modify fun s t hst => ?_
  have h := congrArg (fun o : Observation σ => { o with iPC := some o.PC }) hst
  exact h

/-- **One pass through the interpreter's loop body maps states that look alike to states that
look alike.** -/
lemma uniform_cpuInsn :
    Uniform (Agree Live.boundary) (Agree Live.boundary) (cpuInsn : M σ Unit) := by
  rw [cpuInsn_eq]
  refine (uniform_enter true).bind fun _ => ?_
  refine (blind_decode _).bind fun i => (i.blindfold_exec true).bind fun _ => ?_
  exact (uniform_ccCheck rfl).conseq (fun _ _ hst => hst) fun _ _ hst => hst.drop

end Exec09
