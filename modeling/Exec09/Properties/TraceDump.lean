import Exec09.Debugger.Trace
import Exec09.Framework.Ring
import Exec09.Properties.Breakpoints

/-!
# What a trace dump lists

The trace buffer is a ring with the last 256 program counters.  The loop of `cmd_trace_dump` starts
behind the oldest one and ends before the place that is written next, where the oldest one is.
-/

namespace Exec09

namespace Debugger

/-! ## What is entered -/

/-- The trace, as it is in the debugger's globals. -/
def trace (d : Debugger) : (Nat → U16) × Nat := (d.traceBuffer, d.traceOffset)

@[simp] lemma trace_modifySlot (n : Slot) (f : Breakpoint → Breakpoint) (d : Debugger) :
    (d.modifySlot n f).trace = d.trace := rfl

@[simp] lemma trace_brkEnable (n : Slot) (flag : Bool) (d : Debugger) :
    (d.brkEnable n flag).trace = d.trace := by
  unfold brkEnable
  split <;> rfl

@[simp] lemma trace_brkfree (n : Slot) (d : Debugger) : (d.brkfree n).trace = d.trace :=
  trace_brkEnable n false d

lemma trace_brkalloc {o : Origin} {n : Slot} {d d' : Debugger}
    (h : d.brkalloc o = some (n, d')) : d'.trace = d.trace := by
  obtain ⟨m, -, hd⟩ := Option.map_eq_some_iff.mp h
  obtain ⟨rfl, rfl⟩ := Prod.mk.inj hd
  exact trace_brkEnable m true _

lemma trace_foldl {f : Debugger → Slot → Debugger} (h : ∀ d n, (f d n).trace = d.trace)
    (l : List Slot) (d : Debugger) : (l.foldl f d).trace = d.trace := by
  induction l generalizing d with
  | nil => rfl
  | cons n l ih => exact (ih (f d n)).trans (h d n)

lemma trace_brkfreeTemps (d : Debugger) : d.brkfreeTemps.trace = d.trace := by
  refine trace_foldl (fun d n => ?_) _ d
  unfold brkfreeTemp
  split
  · exact trace_brkfree n d
  · rfl

lemma trace_setCondition {n : Slot} {text : String} {d d' : Debugger}
    (h : d.setCondition n text = some d') : d'.trace = d.trace := by
  unfold setCondition at h
  split at h
  · cases h
    rfl
  · cases h

lemma trace_watchArgs {n : Slot} {args : List WatchArg} {d d' : Debugger}
    (h : args.foldlM (watchArg n) d = some d') : d'.trace = d.trace := by
  induction args generalizing d with
  | nil =>
    obtain rfl : d = d' := Option.some.inj h
    rfl
  | cons a l ih =>
    rw [List.foldlM_cons] at h
    obtain ⟨d₁, h₁, h⟩ := Option.bind_eq_some_iff.mp h
    refine (ih h).trans ?_
    cases a with
    | print => cases h₁; rfl
    | mask m => cases h₁; rfl
    | cond text => exact trace_setCondition h₁
    | other => cases h₁; rfl

@[simp] lemma trace_breakpointHit (e : HookEnv) (n : Slot) (d : Debugger) :
    (d.breakpointHit e n).trace = d.trace := by
  unfold breakpointHit
  dsimp only
  split_ifs <;> rfl

@[simp] lemma trace_changeThreadAt (e : HookEnv) (addr : BitVec 64) (d : Debugger) :
    (d.changeThreadAt e addr).trace = d.trace := by
  unfold changeThreadAt commandChangeThread
  split_ifs <;> rfl

lemma trace_readHook (e : HookEnv) (addr : BitVec 64) (d : Debugger) :
    (d.commandReadHook e addr).trace = d.trace := by
  unfold commandReadHook
  split
  · rfl
  · split
    · split
      · exact trace_breakpointHit e _ d
      · rfl
    · rfl

lemma trace_writeHook (e : HookEnv) (addr : BitVec 64) (val : U8) (d : Debugger) :
    (d.commandWriteHook e addr val).trace = d.trace := by
  unfold commandWriteHook
  dsimp only
  split
  · exact trace_changeThreadAt e addr d
  · split
    · split_ifs <;> simp
    · exact trace_changeThreadAt e addr d

lemma trace_insnHook (e : HookEnv) (pc : U16) (addr : BitVec 64) (d : Debugger) :
    (d.commandInsnHook e pc addr).trace = (d.commandTraceInsn pc).trace := by
  unfold commandInsnHook
  dsimp only
  split
  · rfl
  · split
    · split_ifs <;> simp
    · rfl

/-- The program counter of an instruction that is about to be executed. -/
def Event.insnPc : Event → Option U16
  | .hook (.insn pc) _ _ => some pc
  | _ => none

lemma trace_cmdBreak {addr : BitVec 64} {arg : Option BreakArg} {d d' : Debugger}
    (h : d.cmdBreak addr arg = some d') : d'.trace = d.trace := by
  obtain ⟨⟨n, d₁⟩, hd, h⟩ := Option.bind_eq_some_iff.mp h
  have hbrk : d₁.trace = d.trace := trace_brkalloc hd
  rcases arg with _ | text | count | _
  · cases h
    exact hbrk
  · exact (trace_setCondition h).trans hbrk
  · cases h
    exact hbrk
  · cases h
    exact hbrk

lemma trace_cmdWatch1 {onRead onWrite : Bool} {addr : BitVec 64} {args : List WatchArg}
    {d d' : Debugger} (h : d.cmdWatch1 onRead onWrite addr args = some d') :
    d'.trace = d.trace := by
  obtain ⟨⟨n, d₁⟩, hd, h⟩ := Option.bind_eq_some_iff.mp h
  have hbrk : d₁.trace = d.trace := trace_brkalloc hd
  exact (trace_watchArgs h).trans hbrk

lemma trace_breakTemp {addr : BitVec 64} {d d' : Debugger} (h : d.breakTemp addr = some d') :
    d'.trace = d.trace := by
  obtain ⟨⟨n, d₁⟩, hd, h⟩ := Option.bind_eq_some_iff.mp h
  have hbrk : d₁.trace = d.trace := trace_brkalloc hd
  cases h
  exact hbrk

lemma trace_cmdDelete {id : Option Nat} {d d' : Debugger} (h : d.cmdDelete id = some d') :
    d'.trace = d.trace := by
  unfold cmdDelete at h
  split at h
  · cases h
    exact trace_foldl (fun d n => trace_brkfree n d) _ d
  · split at h
    · split at h
      · cases h
        exact trace_brkfree _ d
      · cases h
        rfl
    · cases h

/-- **One step** enters the program counter of an instruction, or nothing. -/
lemma trace_step {d d' : Debugger} {x : Event} (h : d.step x = some d') :
    d'.trace = (x.insnPc.elim d fun pc => d.commandTraceInsn pc).trace := by
  cases x with
  | «break» addr arg => exact trace_cmdBreak h
  | watch addr args => exact trace_cmdWatch1 h
  | rwatch addr args => exact trace_cmdWatch1 h
  | awatch addr args => exact trace_cmdWatch1 h
  | next addr => exact trace_breakTemp h
  | measure addr => exact trace_breakTemp h
  | delete id => exact trace_cmdDelete h
  | enter =>
    cases h
    exact trace_brkfreeTemps d
  | hook k e addr =>
    cases h
    cases k with
    | insn pc => exact trace_insnHook e pc addr d
    | read => exact trace_readHook e addr d
    | write val => exact trace_writeHook e addr val d

/-- The program counters of a run, in the order of execution. -/
def insnPcs (l : List Event) : List U16 := l.filterMap Event.insnPc

/-- **The ring over a run**: it logs the program counters. -/
lemma run_logs {l : List Event} {d : Debugger} (h : run l init = some d) :
    Ring.Logs MAX_TRACE (insnPcs l) d.traceBuffer d.traceOffset := by
  have hrun : ∀ (l : List Event) (log : List U16) (d d' : Debugger), run l d = some d' →
      Ring.Logs MAX_TRACE log d.traceBuffer d.traceOffset →
      Ring.Logs MAX_TRACE (log ++ insnPcs l) d'.traceBuffer d'.traceOffset := by
    intro l
    induction l with
    | nil =>
      intro log d d' h hlog
      obtain rfl : d = d' := Option.some.inj h
      rw [insnPcs, List.filterMap_nil, List.append_nil]
      exact hlog
    | cons x l ih =>
      intro log d d' h hlog
      rw [run, List.foldlM_cons] at h
      obtain ⟨d₁, h₁, h⟩ := Option.bind_eq_some_iff.mp h
      have htrace := trace_step h₁
      cases hpc : x.insnPc with
      | none =>
        rw [hpc] at htrace
        obtain ⟨hbuf, hoff⟩ := Prod.mk.inj htrace
        rw [insnPcs, List.filterMap_cons_none hpc]
        exact ih log d₁ d' h (by rw [hbuf, hoff]; exact hlog)
      | some pc =>
        rw [hpc] at htrace
        obtain ⟨hbuf, hoff⟩ := Prod.mk.inj htrace
        have hlog' := ih (log ++ [pc]) d₁ d' h (by rw [hbuf, hoff]; exact hlog.push pc)
        rw [insnPcs, List.filterMap_cons_some hpc, List.append_cons]
        exact hlog'
  have hnil := hrun l [] init d h (Ring.Logs.nil MAX_TRACE _)
  rwa [List.nil_append] at hnil

/-! ## What is listed -/

/-- The loop lists the `k` cells before the place of the next entry. -/
lemma traceDumpFrom_eq {d : Debugger} {k : Nat} (hk : 0 < k) (hle : k ≤ MAX_TRACE) :
    ∀ {fuel off : Nat}, off < MAX_TRACE → (off + k) % MAX_TRACE = d.traceOffset → k ≤ fuel →
      d.traceDumpFrom fuel off =
        some ((List.range k).map fun i => d.traceBuffer ((off + i) % MAX_TRACE)) := by
  induction k with
  | zero => exact absurd hk (Nat.lt_irrefl 0)
  | succ k ih =>
    intro fuel off hoff hend hfuel
    obtain ⟨fuel, rfl⟩ : ∃ n, fuel = n + 1 := ⟨fuel - 1, by omega⟩
    change (off + (k + 1)) % 256 = d.traceOffset at hend
    have hoff' : off < 256 := hoff
    have hhead : (off + 0) % MAX_TRACE = off := Nat.mod_eq_of_lt hoff
    rw [traceDumpFrom, List.range_succ_eq_map, List.map_cons, hhead, List.map_map]
    cases k with
    | zero => exact if_neg (not_not_intro hend)
    | succ k =>
      have hle' : k + 1 + 1 ≤ 256 := hle
      have hnext : (off + 1) % 256 ≠ d.traceOffset := by omega
      refine (if_pos hnext).trans ?_
      rw [ih (Nat.succ_pos k) (Nat.le_of_succ_le hle) (Nat.mod_lt _ (by decide))
        (by change ((off + 1) % 256 + (k + 1)) % 256 = _; omega) (Nat.le_of_succ_le_succ hfuel)]
      refine congrArg some (congrArg _ (List.map_congr_left fun i _ => congrArg d.traceBuffer ?_))
      change ((off + 1) % 256 + i) % 256 = (off + (i + 1)) % 256
      omega

lemma cmdTraceDump_eq {d : Debugger} (hoff : d.traceOffset < MAX_TRACE) {fuel : Nat}
    (hfuel : MAX_TRACE ≤ fuel) :
    d.cmdTraceDump fuel =
      some ((List.range 255).map fun i => d.traceBuffer ((d.traceOffset + 1 + i) % MAX_TRACE)) := by
  have hoff' : d.traceOffset < 256 := hoff
  unfold cmdTraceDump
  rw [traceDumpFrom_eq (k := 255) (by decide) (by decide) (Nat.mod_lt _ (by decide))
    (by change ((d.traceOffset + 1) % 256 + 255) % 256 = _; omega)
    (Nat.le_trans (by decide) hfuel)]
  refine congrArg some (List.map_congr_left fun i _ => congrArg d.traceBuffer ?_)
  change ((d.traceOffset + 1) % 256 + i) % 256 = (d.traceOffset + 1 + i) % 256
  omega

/-- **The trace dump.**  In every run of at least 256 instructions it lists the last 255, oldest
first, and so never the last 256. -/
theorem trace_dump_lists_255 {l : List Event} {d : Debugger} (h : run l init = some d)
    (hn : MAX_TRACE ≤ (insnPcs l).length) {fuel : Nat} (hfuel : MAX_TRACE ≤ fuel) :
    d.cmdTraceDump fuel = some ((insnPcs l).drop ((insnPcs l).length - 255)) ∧
      d.cmdTraceDump fuel ≠ some ((insnPcs l).drop ((insnPcs l).length - MAX_TRACE)) := by
  have hlogs := run_logs h
  have hoff : d.traceOffset < MAX_TRACE := by
    rw [hlogs.pos_eq]
    exact Nat.mod_lt _ (by decide)
  have hlen : 256 ≤ (insnPcs l).length := hn
  have hlist : d.cmdTraceDump fuel = some ((insnPcs l).drop ((insnPcs l).length - 255)) := by
    rw [cmdTraceDump_eq hoff hfuel, ← hlogs.last (k := 255) (by decide) (by omega)]
    rfl
  refine ⟨hlist, fun heq => ?_⟩
  have hlengths := congrArg List.length (Option.some.inj (hlist.symm.trans heq))
  rw [List.length_drop, List.length_drop] at hlengths
  change (insnPcs l).length - ((insnPcs l).length - 255) =
    (insnPcs l).length - ((insnPcs l).length - 256) at hlengths
  omega

/-- The instruction at 0x0000, 256 times. -/
def nops : List Event := List.replicate 256 (.hook (.insn 0) ⟨fun s => (0, s), 0⟩ 0)

lemma run_nops : ∃ d, run nops init = some d := by
  have hrun : ∀ (n : Nat) (x : Event) (d : Debugger), (∀ d : Debugger, ∃ d', d.step x = some d') →
      ∃ d', run (List.replicate n x) d = some d' := by
    intro n x d hx
    induction n generalizing d with
    | zero => exact ⟨d, rfl⟩
    | succ n ih =>
      obtain ⟨d₁, h₁⟩ := hx d
      obtain ⟨d', h'⟩ := ih d₁
      refine ⟨d', ?_⟩
      rw [run, List.replicate_succ, List.foldlM_cons, h₁]
      exact h'
  exact hrun 256 _ init fun d => ⟨_, rfl⟩

lemma insnPcs_nops : insnPcs nops = List.replicate 256 0 := List.filterMap_replicate_of_some rfl

lemma length_insnPcs_nops : MAX_TRACE ≤ (insnPcs nops).length := by
  rw [insnPcs_nops, List.length_replicate]

theorem trace_dump_lists_255_nops : ∃ d, run nops init = some d ∧
    d.cmdTraceDump 256 = some ((insnPcs nops).drop ((insnPcs nops).length - 255)) ∧
      d.cmdTraceDump 256 ≠ some ((insnPcs nops).drop ((insnPcs nops).length - MAX_TRACE)) := by
  obtain ⟨d, hd⟩ := run_nops
  exact ⟨d, hd, trace_dump_lists_255 hd length_insnPcs_nops (by decide)⟩

/-- After 256 instructions the first one is missing from the list. -/
theorem trace_dump_misses_oldest : ¬∀ (l : List Event) (d : Debugger) (fuel : Nat),
    run l init = some d → MAX_TRACE ≤ (insnPcs l).length → MAX_TRACE ≤ fuel →
      d.cmdTraceDump fuel = some ((insnPcs l).drop ((insnPcs l).length - MAX_TRACE)) := by
  intro h
  obtain ⟨d, hd⟩ := run_nops
  have hoff : d.traceOffset < MAX_TRACE := by
    rw [(run_logs hd).pos_eq]
    exact Nat.mod_lt _ (by decide)
  have hlist := h nops d 256 hd length_insnPcs_nops (by decide)
  rw [cmdTraceDump_eq hoff (by decide)] at hlist
  have hlengths := congrArg List.length (Option.some.inj hlist)
  rw [List.length_map, List.length_range, List.length_drop, insnPcs_nops,
    List.length_replicate] at hlengths
  exact absurd hlengths (by decide)

end Debugger

end Exec09
