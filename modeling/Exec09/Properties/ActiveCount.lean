import Exec09.Properties.Breakpoints
import Mathlib.Algebra.BigOperators.Group.Finset.Piecewise

/-!
# The count of active breakpoints is exact

The table is driven here by more than the commands: `brkalloc` and `brkfree` are also called on
their own, the latter for any slot, used or not.  Whatever the order, an entry is used exactly when
it is enabled, the count is the number of such entries, and an entry in use carries the index of its
slot as its number.  So the hooks may look at the count first.
-/

namespace Exec09

namespace Debugger

/-- What is done to the table. -/
inductive TableOp
  | alloc (o : Origin)
  | free (n : Slot)
  /-- A command, a hook, or `brkfree_temps` as the monitor is entered. -/
  | event (x : Event)

/-- `none` also where an entry is to be allocated without a free slot. -/
def tableStep (d : Debugger) : TableOp → Option Debugger
  | .alloc o => (d.brkalloc o).map Prod.snd
  | .free n => some (d.brkfree n)
  | .event x => d.step x

def tableRun (l : List TableOp) (d : Debugger) : Option Debugger := l.foldlM tableStep d

/-! ## Counting -/

lemma taken_brkalloc {o : Origin} {n : Slot} {d d' : Debugger} (h : d.brkalloc o = some (n, d')) :
    Taken n d d' := by
  obtain ⟨hfree, hst, -, hcount⟩ := brkalloc_spec h
  refine ⟨hfree, fun m hm => ?_, ?_, ?_, hcount⟩
  · rw [hst, Function.update_of_ne hm]
  · rw [hst, Function.update_self]
  · rw [hst, Function.update_self]

lemma Counted.tableStep {x : TableOp} {d d' : Debugger} (h : d.tableStep x = some d')
    (hi : Counted d) : Counted d' := by
  cases x with
  | alloc o =>
    obtain ⟨⟨n, d₁⟩, hd, rfl⟩ := Option.map_eq_some_iff.mp h
    exact hi.taken (taken_brkalloc hd)
  | free n =>
    obtain rfl : d.brkfree n = d' := Option.some.inj h
    exact hi.freed (freed_brkfree n d)
  | event x =>
    obtain ⟨o, n, -, hc⟩ | ⟨-, hq⟩ := step_cases h
    · exact hi.taken hc.taken
    · exact hi.quietly hq

/-! ## Numbers -/

/-- An entry in use carries the index of its slot. -/
def Numbered (d : Debugger) : Prop :=
  ∀ n : Slot, (d.breaktab n).used = true → (d.breaktab n).id = BitVec.ofNat 8 n

/-- A slot keeps its number, and is not taken, or it gets the number that is due to it. -/
def Renumbers (d d' : Debugger) : Prop :=
  ∀ n : Slot, (d'.breaktab n).id = (d.breaktab n).id ∧
      ((d'.breaktab n).used = true → (d.breaktab n).used = true) ∨
    (d'.breaktab n).id = BitVec.ofNat 8 n

lemma Numbered.renumbers {d d' : Debugger} (h : Renumbers d d') (hi : Numbered d) :
    Numbered d' := by
  intro n hn
  obtain ⟨hid, hused⟩ | hid := h n
  · exact hid.trans (hi n (hused hn))
  · exact hid

lemma renumbers_of_eq {d d' : Debugger} (h : d'.breaktab = d.breaktab) : Renumbers d d' := by
  intro n
  rw [h]
  exact Or.inl ⟨rfl, id⟩

lemma Renumbers.refl (d : Debugger) : Renumbers d d := renumbers_of_eq rfl

lemma Renumbers.trans {d d' d'' : Debugger} (h : Renumbers d d') (h' : Renumbers d' d'') :
    Renumbers d d'' := by
  intro n
  obtain ⟨hid', hused'⟩ | hid' := h' n
  · obtain ⟨hid, hused⟩ | hid := h n
    · exact Or.inl ⟨hid'.trans hid, hused ∘ hused'⟩
    · exact Or.inr (hid'.trans hid)
  · exact Or.inr hid'

lemma renumbers_modifySlot {m : Slot} {f : Breakpoint → Breakpoint} {d : Debugger}
    (h : (f (d.breaktab m)).id = (d.breaktab m).id ∧
        ((f (d.breaktab m)).used = true → (d.breaktab m).used = true) ∨
      (f (d.breaktab m)).id = BitVec.ofNat 8 m) : Renumbers d (d.modifySlot m f) := by
  intro n
  by_cases hn : n = m
  · subst hn
    simpa only [modifySlot, Function.update_self] using h
  · have hslot : (d.modifySlot m f).breaktab n = d.breaktab n := Function.update_of_ne hn _ _
    rw [hslot]
    exact Or.inl ⟨rfl, id⟩

lemma renumbers_brkEnable (m : Slot) (flag : Bool) (d : Debugger) :
    Renumbers d (d.brkEnable m flag) := by
  unfold brkEnable
  split
  · have hset : Renumbers d (d.modifySlot m fun br => { br with enabled := flag }) :=
      renumbers_modifySlot (Or.inl ⟨rfl, id⟩)
    exact hset.trans (renumbers_of_eq rfl)
  · exact .refl d

lemma renumbers_brkfree (m : Slot) (d : Debugger) : Renumbers d (d.brkfree m) :=
  (renumbers_brkEnable m false d).trans (renumbers_modifySlot (Or.inl ⟨rfl, fun h => by cases h⟩))

lemma renumbers_brkalloc {o : Origin} {n : Slot} {d d' : Debugger}
    (h : d.brkalloc o = some (n, d')) : Renumbers d d' := by
  obtain ⟨m, -, hd⟩ := Option.map_eq_some_iff.mp h
  obtain ⟨rfl, rfl⟩ := Prod.mk.inj hd
  refine Renumbers.trans (renumbers_modifySlot ?_)
    ((renumbers_brkEnable m true _).trans (renumbers_of_eq rfl))
  exact Or.inr rfl

lemma renumbers_foldl {α : Type} {f : Debugger → α → Debugger} (h : ∀ d a, Renumbers d (f d a))
    (l : List α) (d : Debugger) : Renumbers d (l.foldl f d) := by
  induction l generalizing d with
  | nil => exact .refl d
  | cons a l ih => exact (h d a).trans (ih (f d a))

lemma renumbers_setCondition {n : Slot} {text : String} {d d' : Debugger}
    (h : d.setCondition n text = some d') : Renumbers d d' := by
  unfold setCondition at h
  split at h
  · cases h
    exact renumbers_modifySlot (Or.inl ⟨rfl, id⟩)
  · cases h

lemma renumbers_watchArgs {n : Slot} {args : List WatchArg} {d d' : Debugger}
    (h : args.foldlM (watchArg n) d = some d') : Renumbers d d' := by
  induction args generalizing d with
  | nil =>
    obtain rfl : d = d' := Option.some.inj h
    exact .refl d
  | cons a l ih =>
    rw [List.foldlM_cons] at h
    obtain ⟨d₁, h₁, h⟩ := Option.bind_eq_some_iff.mp h
    refine Renumbers.trans ?_ (ih h)
    cases a with
    | print =>
      cases h₁
      exact renumbers_modifySlot (Or.inl ⟨rfl, id⟩)
    | mask m =>
      cases h₁
      exact renumbers_modifySlot (Or.inl ⟨rfl, id⟩)
    | cond text => exact renumbers_setCondition h₁
    | other =>
      obtain rfl : d = d₁ := Option.some.inj h₁
      exact .refl d

lemma renumbers_cmdBreak {addr : BitVec 64} {arg : Option BreakArg} {d d' : Debugger}
    (h : d.cmdBreak addr arg = some d') : Renumbers d d' := by
  obtain ⟨⟨n, d₁⟩, hd, h⟩ := Option.bind_eq_some_iff.mp h
  have hset : Renumbers d (d₁.modifySlot n fun br => { br with addr := addr, onExecute := true }) :=
    (renumbers_brkalloc hd).trans (renumbers_modifySlot (Or.inl ⟨rfl, id⟩))
  rcases arg with _ | text | count | _
  · cases h
    exact hset
  · exact hset.trans (renumbers_setCondition h)
  · cases h
    exact hset.trans (renumbers_modifySlot (Or.inl ⟨rfl, id⟩))
  · cases h
    exact hset

lemma renumbers_breakTemp {addr : BitVec 64} {d d' : Debugger} (h : d.breakTemp addr = some d') :
    Renumbers d d' := by
  obtain ⟨⟨n, d₁⟩, hd, h⟩ := Option.bind_eq_some_iff.mp h
  cases h
  exact (renumbers_brkalloc hd).trans (renumbers_modifySlot (Or.inl ⟨rfl, id⟩))

lemma renumbers_cmdWatch1 {onRead onWrite : Bool} {addr : BitVec 64} {args : List WatchArg}
    {d d' : Debugger} (h : d.cmdWatch1 onRead onWrite addr args = some d') : Renumbers d d' := by
  obtain ⟨⟨n, d₁⟩, hd, h⟩ := Option.bind_eq_some_iff.mp h
  exact (renumbers_brkalloc hd).trans
    ((renumbers_modifySlot (Or.inl ⟨rfl, id⟩)).trans (renumbers_watchArgs h))

lemma renumbers_cmdDelete {id : Option Nat} {d d' : Debugger} (h : d.cmdDelete id = some d') :
    Renumbers d d' := by
  unfold cmdDelete at h
  split at h
  · cases h
    exact renumbers_foldl (fun d n => renumbers_brkfree n d) _ d
  · split at h
    · split at h
      · cases h
        exact renumbers_brkfree _ d
      · cases h
        exact .refl d
    · cases h

lemma renumbers_brkfreeTemps (d : Debugger) : Renumbers d d.brkfreeTemps := by
  refine renumbers_foldl (fun d n => ?_) _ d
  unfold brkfreeTemp
  split
  · exact renumbers_brkfree n d
  · exact .refl d

lemma renumbers_breakpointHit (e : HookEnv) (n : Slot) (d : Debugger) :
    Renumbers d (d.breakpointHit e n) := by
  have hcond : Renumbers d (if (d.breaktab n).conditional = true then
      modifySlot n (fun br => { br with condition := (e.eval (d.breaktab n).condition).2 })
        { d with hits := n :: d.hits } else { d with hits := n :: d.hits }) := by
    split
    · have hnote : Renumbers d { d with hits := n :: d.hits } := renumbers_of_eq rfl
      exact hnote.trans (renumbers_modifySlot (Or.inl ⟨rfl, id⟩))
    · exact renumbers_of_eq rfl
  simp only [breakpointHit]
  split
  · exact renumbers_of_eq rfl
  · split
    · exact hcond
    · split
      · exact hcond.trans (renumbers_modifySlot (Or.inl ⟨rfl, id⟩))
      · exact hcond.trans (renumbers_of_eq rfl)

lemma renumbers_changeThreadAt (e : HookEnv) (addr : BitVec 64) (d : Debugger) :
    Renumbers d (d.changeThreadAt e addr) := by
  unfold changeThreadAt commandChangeThread
  split_ifs <;> exact renumbers_of_eq rfl

lemma renumbers_hook (h : Hook) (e : HookEnv) (addr : BitVec 64) (d : Debugger) :
    Renumbers d (d.hook h e addr) := by
  cases h with
  | insn pc =>
    have htrace : Renumbers d (d.commandTraceInsn pc) := renumbers_of_eq rfl
    simp only [hook, commandInsnHook]
    split
    · exact htrace
    split
    · rename_i n _
      split
      · have hhit := htrace.trans (renumbers_breakpointHit e n (d.commandTraceInsn pc))
        split
        · exact hhit.trans (renumbers_brkfree _ _)
        · exact hhit
      · exact htrace
    · exact htrace
  | read =>
    simp only [hook, commandReadHook]
    split
    · exact .refl d
    split
    · split
      · exact renumbers_breakpointHit e _ d
      · exact .refl d
    · exact .refl d
  | write val =>
    simp only [hook, commandWriteHook]
    split
    · exact renumbers_changeThreadAt e addr d
    split
    · rename_i n _
      have hlast : Renumbers d (if (d.breaktab n).writeMask ≠ 0 then
          d.modifySlot n fun br => { br with lastWrite := val.setWidth 16 } else d) := by
        split
        · exact renumbers_modifySlot (Or.inl ⟨rfl, id⟩)
        · exact .refl d
      generalize (if (d.breaktab n).writeMask ≠ 0 then
        d.modifySlot n fun br => { br with lastWrite := val.setWidth 16 } else d) = d₁ at hlast ⊢
      have hhit := hlast.trans (renumbers_breakpointHit e n d₁)
      split_ifs
      · exact hlast
      · exact hhit.trans (renumbers_changeThreadAt e addr _)
      · exact hhit
      · exact renumbers_changeThreadAt e addr d
    · exact renumbers_changeThreadAt e addr d

lemma renumbers_step {x : Event} {d d' : Debugger} (h : d.step x = some d') : Renumbers d d' := by
  cases x with
  | «break» addr arg => exact renumbers_cmdBreak h
  | watch addr args => exact renumbers_cmdWatch1 h
  | rwatch addr args => exact renumbers_cmdWatch1 h
  | awatch addr args => exact renumbers_cmdWatch1 h
  | next addr => exact renumbers_breakTemp h
  | measure addr => exact renumbers_breakTemp h
  | delete id => exact renumbers_cmdDelete h
  | enter =>
    cases h
    exact renumbers_brkfreeTemps d
  | hook h' e addr =>
    cases h
    exact renumbers_hook h' e addr d

lemma Numbered.tableStep {x : TableOp} {d d' : Debugger} (h : d.tableStep x = some d')
    (hi : Numbered d) : Numbered d' := by
  cases x with
  | alloc o =>
    obtain ⟨⟨n, d₁⟩, hd, rfl⟩ := Option.map_eq_some_iff.mp h
    exact hi.renumbers (renumbers_brkalloc hd)
  | free n =>
    obtain rfl : d.brkfree n = d' := Option.some.inj h
    exact hi.renumbers (renumbers_brkfree n d)
  | event x => exact hi.renumbers (renumbers_step h)

/-! ## Every run -/

lemma counted_numbered_run {l : List TableOp} {d d' : Debugger} (h : tableRun l d = some d')
    (hd : Counted d ∧ Numbered d) : Counted d' ∧ Numbered d' := by
  induction l generalizing d with
  | nil =>
    obtain rfl : d = d' := Option.some.inj h
    exact hd
  | cons x l ih =>
    rw [tableRun, List.foldlM_cons] at h
    obtain ⟨d₁, h₁, h⟩ := Option.bind_eq_some_iff.mp h
    exact ih h ⟨hd.1.tableStep h₁, hd.2.tableStep h₁⟩

/-- The entries in use. -/
def usedSlots (d : Debugger) : Finset Slot :=
  Finset.univ.filter fun n => (d.breaktab n).used = true ∧ (d.breaktab n).enabled = true

lemma Counted.card {d : Debugger} (hi : Counted d) :
    d.activeBreakCount.toNat = d.usedSlots.card := by
  have hle := liveCount_le d.standing
  have hsum : liveCount d.standing = d.usedSlots.card := by
    rw [usedSlots, Finset.card_filter]
    refine Finset.sum_congr rfl fun n _ => ?_
    have hn : (d.breaktab n).enabled = (d.breaktab n).used := hi.enabled n
    change (d.breaktab n).enabled.toNat = _
    rw [hn]
    cases (d.breaktab n).used <;> rfl
  rw [hi.count, BitVec.toNat_ofNat, Nat.mod_eq_of_lt (by omega), hsum]

/-- With nothing counted nothing is enabled. -/
lemma Counted.enabled_of_zero {d : Debugger} (hi : Counted d) (h0 : d.activeBreakCount = 0)
    (n : Slot) : (d.breaktab n).enabled = false := by
  have hempty : d.usedSlots = ∅ := by
    rw [← Finset.card_eq_zero, ← hi.card, h0]
    rfl
  have hn : (d.breaktab n).enabled = (d.breaktab n).used := hi.enabled n
  by_contra hne
  rw [Bool.not_eq_false] at hne
  have hmem : n ∈ d.usedSlots :=
    Finset.mem_filter.mpr ⟨Finset.mem_univ n, hn.symm.trans hne, hne⟩
  rw [hempty] at hmem
  cases hmem

/-- **The count is exact**, in every run: it is the number of entries that are used and enabled, an
entry is used exactly when it is enabled, and the numbers of the entries in use are the indices of
their slots, so distinct.  Hence a hook calls `breakpoint_hit` for the entry it would call it for
without looking at the count. -/
theorem active_break_count_exact {l : List TableOp} {d : Debugger}
    (h : tableRun l init = some d) :
    d.activeBreakCount.toNat = d.usedSlots.card ∧
    (∀ n, (d.breaktab n).used = (d.breaktab n).enabled) ∧
    (∀ n, (d.breaktab n).used = true → (d.breaktab n).id.toNat = n) ∧
    (∀ m n, (d.breaktab m).used = true → (d.breaktab n).used = true →
      (d.breaktab m).id = (d.breaktab n).id → m = n) ∧
    (d.activeBreakCount = 0 →
      ∀ n, (d.breaktab n).used = false ∧ (d.breaktab n).enabled = false) ∧
    ∀ (k : Hook) (e : HookEnv) (a : BitVec 64), (d.hook k e a).hits =
      ((d.brkfindByAddr a).filter fun n =>
        (d.breaktab n).enabled && k.flag (d.breaktab n) && k.passes (d.breaktab n)).toList ++
      d.hits := by
  obtain ⟨hc, hn⟩ := counted_numbered_run h ⟨counted_init, fun _ hu => by cases hu⟩
  have hid (n : Slot) (hu : (d.breaktab n).used = true) : (d.breaktab n).id.toNat = n := by
    rw [hn n hu, BitVec.toNat_ofNat]
    exact Nat.mod_eq_of_lt (n.isLt.trans (by decide))
  refine ⟨hc.card, fun n => (hc.enabled n).symm, hid, fun m n hm hn' hmn => ?_,
    fun h0 n => ⟨(hc.enabled n).symm.trans (hc.enabled_of_zero h0 n), hc.enabled_of_zero h0 n⟩,
    fun k e a => ?_⟩
  · rw [Fin.ext_iff, ← hid m hm, ← hid n hn', hmn]
  · rw [(hits_hook k e a d).2, hitSlot]
    split_ifs with h0
    · have hnone : ((d.brkfindByAddr a).filter fun n =>
          (d.breaktab n).enabled && k.flag (d.breaktab n) && k.passes (d.breaktab n)) = none := by
        rw [Option.filter_eq_none_iff]
        intro n _
        rw [hc.enabled_of_zero h0 n]
        exact Bool.false_ne_true
      rw [hnone]
    · rfl

/-- A temporary breakpoint that is hit, and everything deleted, free slots included. -/
theorem active_break_count_exact_deleted :
    ∃ d, tableRun [.event (.watch 0x200 []), .event (.next 0x100), .free 5,
        .event (.hook (.insn 0x100) quietEnv 0x100), .event (.delete none)] init = some d ∧
      d.activeBreakCount.toNat = d.usedSlots.card := by
  refine ⟨_, rfl, ?_⟩
  exact (active_break_count_exact (l := [.event (.watch 0x200 []), .event (.next 0x100), .free 5,
    .event (.hook (.insn 0x100) quietEnv 0x100), .event (.delete none)]) rfl).1

end Debugger

end Exec09
