import Exec09.Debugger.Breakpoints
import Mathlib.Algebra.Order.BigOperators.Group.Finset

/-!
# Breakpoints are found and have the kind asked for

What the commands and hooks do to the table is said once: an entry is created in the first free
slot (`Created`), an entry is freed, or nothing happens to what an entry stands for (`Minor`).  From
this follow an invariant of the table over all runs, when a hook finds the entry it should find,
and when an entry has exactly the kind its command asked for.
-/

namespace Exec09

namespace Debugger

/-! ## Events -/

/-- The hooks of the processor, with what they are told besides the address. -/
inductive Hook
  | insn (pc : U16)
  | read
  | write (val : U8)
  deriving DecidableEq, Repr

/-- What happens to the debugger. -/
inductive Event
  | break (addr : BitVec 64) (arg : Option BreakArg)
  | watch (addr : BitVec 64) (args : List WatchArg)
  | rwatch (addr : BitVec 64) (args : List WatchArg)
  | awatch (addr : BitVec 64) (args : List WatchArg)
  | next (addr : BitVec 64)
  | measure (addr : BitVec 64)
  | delete (id : Option Nat)
  /-- The monitor is entered: `command_loop` frees the temporary breakpoints. -/
  | enter
  | hook (h : Hook) (e : HookEnv) (addr : BitVec 64)

def hook (h : Hook) (e : HookEnv) (addr : BitVec 64) (d : Debugger) : Debugger :=
  match h with
  | .insn pc => d.commandInsnHook e pc addr
  | .read => d.commandReadHook e addr
  | .write val => d.commandWriteHook e addr val

def step (d : Debugger) : Event → Option Debugger
  | .break addr arg => d.cmdBreak addr arg
  | .watch addr args => d.cmdWatch addr args
  | .rwatch addr args => d.cmdRwatch addr args
  | .awatch addr args => d.cmdAwatch addr args
  | .next addr => d.cmdNext addr
  | .measure addr => d.cmdMeasure addr
  | .delete id => d.cmdDelete id
  | .enter => some d.brkfreeTemps
  | .hook h e addr => some (d.hook h e addr)

/-- The events one after the other. -/
def run (l : List Event) (d : Debugger) : Option Debugger := l.foldlM step d

/-- What a creating command asks for. -/
def Event.origin : Event → Option Origin
  | .break addr arg => some (breakOrigin addr arg)
  | .watch addr args => some (watchOrigin false true addr args)
  | .rwatch addr args => some (watchOrigin true false addr args)
  | .awatch addr args => some (watchOrigin true true addr args)
  | .next addr | .measure addr => some (breakOrigin addr none)
  | _ => none

/-! ## What a step can do -/

/-- What an entry stands for. -/
structure Standing where
  used : Bool
  enabled : Bool
  addr : BitVec 64
  onExecute : Bool
  onRead : Bool
  onWrite : Bool
  writeMask : U16
  conditional : Bool
  deriving DecidableEq, Repr

def Standing.of (br : Breakpoint) : Standing where
  used := br.used
  enabled := br.enabled
  addr := br.addr
  onExecute := br.onExecute
  onRead := br.onRead
  onWrite := br.onWrite
  writeMask := br.writeMask
  conditional := br.conditional

def standing (d : Debugger) (n : Slot) : Standing := .of (d.breaktab n)

/-- What becomes of a slot when an entry is created in it: a command sets the fields of its own sort
and leaves the others. -/
def Standing.created (o : Origin) (b : Standing) : Standing where
  used := true
  enabled := true
  addr := o.addr
  onExecute := o.onExecute || b.onExecute
  onRead := if o.onExecute then b.onRead else o.onRead
  onWrite := if o.onExecute then b.onWrite else o.onWrite
  writeMask := (o.mask.map fun m => m.setWidth 16).getD b.writeMask
  conditional := o.conditional

/-- Nothing happens to what the entries stand for. -/
structure Minor (d d' : Debugger) : Prop where
  standing : d'.standing = d.standing
  origin : d'.origin = d.origin
  count : d'.activeBreakCount = d.activeBreakCount

/-- The entry in slot `n` is freed. -/
structure Freed (n : Slot) (d d' : Debugger) : Prop where
  standing : d'.standing =
    Function.update d.standing n { d.standing n with used := false, enabled := false }
  origin : d'.origin = d.origin
  count : d'.activeBreakCount =
    if (d.standing n).enabled then d.activeBreakCount - 1 else d.activeBreakCount

/-- An entry is created in slot `n`, the first one that is free. -/
structure Created (o : Origin) (n : Slot) (d d' : Debugger) : Prop where
  free : d.freeSlot = some n
  standing : d'.standing = Function.update d.standing n ((d.standing n).created o)
  origin : d'.origin = Function.update d.origin n (some o)
  count : d'.activeBreakCount =
    if (d.standing n).enabled then d.activeBreakCount else d.activeBreakCount + 1

lemma Minor.refl (d : Debugger) : Minor d d := ⟨rfl, rfl, rfl⟩

lemma Minor.trans {d d' d'' : Debugger} (h : Minor d d') (h' : Minor d' d'') : Minor d d'' :=
  ⟨h'.standing.trans h.standing, h'.origin.trans h.origin, h'.count.trans h.count⟩

/-- Assigning fields of slot `n` shows in slot `n` only. -/
lemma standing_modifySlot (n : Slot) (f : Breakpoint → Breakpoint) (d : Debugger) :
    (d.modifySlot n f).standing = Function.update d.standing n (.of (f (d.breaktab n))) := by
  funext m
  by_cases hm : m = n
  · subst hm
    simp only [standing, modifySlot, Function.update_self]
  · simp only [standing, modifySlot, Function.update_of_ne hm]

lemma minor_modifySlot {n : Slot} {f : Breakpoint → Breakpoint} {d : Debugger}
    (h : Standing.of (f (d.breaktab n)) = .of (d.breaktab n)) : Minor d (d.modifySlot n f) := by
  refine ⟨?_, rfl, rfl⟩
  rw [standing_modifySlot, h]
  exact Function.update_eq_self n d.standing

lemma standing_brkEnable (n : Slot) (flag : Bool) (d : Debugger) :
    (d.brkEnable n flag).standing =
      Function.update d.standing n { d.standing n with enabled := flag } := by
  by_cases h : (d.breaktab n).enabled = flag
  · rw [brkEnable, if_neg (not_not.mpr h), ← h]
    exact (Function.update_eq_self n d.standing).symm
  · rw [brkEnable, if_pos h]
    exact standing_modifySlot n (fun br => { br with enabled := flag }) d

lemma origin_brkEnable (n : Slot) (flag : Bool) (d : Debugger) :
    (d.brkEnable n flag).origin = d.origin := by
  unfold brkEnable
  split <;> rfl

/-- `brkfree` frees. -/
lemma freed_brkfree (n : Slot) (d : Debugger) : Freed n d (d.brkfree n) := by
  refine ⟨?_, origin_brkEnable n false d, ?_⟩
  · rw [brkfree, standing_modifySlot]
    have hn : Standing.of ((d.brkEnable n false).breaktab n) =
        { d.standing n with enabled := false } := by
      change (d.brkEnable n false).standing n = _
      rw [standing_brkEnable, Function.update_self]
    have hfree (br : Breakpoint) :
        Standing.of { br with used := false } = { Standing.of br with used := false } := rfl
    rw [hfree, hn, standing_brkEnable, Function.update_idem]
  · change (d.brkEnable n false).activeBreakCount = _
    cases h : (d.breaktab n).enabled <;> simp [brkEnable, standing, Standing.of, h]

/-- `brkalloc` takes the first free slot and resets part of it. -/
lemma brkalloc_spec {o : Origin} {n : Slot} {d d' : Debugger} (h : d.brkalloc o = some (n, d')) :
    d.freeSlot = some n ∧
    d'.standing = Function.update d.standing n
      { d.standing n with used := true, enabled := true, conditional := false } ∧
    d'.origin = Function.update d.origin n (some o) ∧
    d'.activeBreakCount =
      if (d.standing n).enabled then d.activeBreakCount else d.activeBreakCount + 1 := by
  obtain ⟨m, hm, hd⟩ := Option.map_eq_some_iff.mp h
  obtain ⟨rfl, rfl⟩ := Prod.mk.inj hd
  refine ⟨hm, ?_, rfl, ?_⟩
  · change (brkEnable m true _).standing = _
    rw [standing_brkEnable, standing_modifySlot, Function.update_idem, Function.update_self]
    rfl
  · change (brkEnable m true _).activeBreakCount = _
    cases he : (d.breaktab m).enabled <;>
      simp [brkEnable, modifySlot, standing, Standing.of, he]

/-- The commands assign fields of the slot they have taken. -/
structure Assigned (n : Slot) (g : Standing → Standing) (d d' : Debugger) : Prop where
  standing : d'.standing = Function.update d.standing n (g (d.standing n))
  origin : d'.origin = d.origin
  count : d'.activeBreakCount = d.activeBreakCount

lemma assigned_modifySlot {n : Slot} {f : Breakpoint → Breakpoint} {g : Standing → Standing}
    (h : ∀ br, Standing.of (f br) = g (.of br)) (d : Debugger) :
    Assigned n g d (d.modifySlot n f) := by
  refine ⟨?_, rfl, rfl⟩
  rw [standing_modifySlot, h]
  rfl

lemma Assigned.refl (n : Slot) (d : Debugger) : Assigned n id d d :=
  ⟨(Function.update_eq_self n d.standing).symm, rfl, rfl⟩

lemma Assigned.trans {n : Slot} {g g' : Standing → Standing} {d d' d'' : Debugger}
    (h : Assigned n g d d') (h' : Assigned n g' d' d'') : Assigned n (g' ∘ g) d d'' := by
  refine ⟨?_, h'.origin.trans h.origin, h'.count.trans h.count⟩
  rw [h'.standing, h.standing, Function.update_idem, Function.update_self]
  rfl

lemma assigned_setCondition {n : Slot} {text : String} {d d' : Debugger}
    (h : d.setCondition n text = some d') :
    Assigned n (fun b => { b with conditional := true }) d d' := by
  unfold setCondition at h
  split at h
  · cases h
    exact assigned_modifySlot (fun _ => rfl) d
  · cases h

/-- A taken slot becomes what its command assigns to it. -/
lemma Assigned.created {o : Origin} {n : Slot} {g : Standing → Standing} {d d₁ d' : Debugger}
    (h : Assigned n g d₁ d') (hd : d.brkalloc o = some (n, d₁))
    (hg : g { d.standing n with used := true, enabled := true, conditional := false } =
      (d.standing n).created o) : Created o n d d' := by
  obtain ⟨hfree, hst, ho, hc⟩ := brkalloc_spec hd
  refine ⟨hfree, ?_, h.origin.trans ho, h.count.trans hc⟩
  rw [h.standing, hst, Function.update_idem, Function.update_self, hg]

lemma created_cmdBreak {addr : BitVec 64} {arg : Option BreakArg} {d d' : Debugger}
    (h : d.cmdBreak addr arg = some d') : ∃ n, Created (breakOrigin addr arg) n d d' := by
  obtain ⟨⟨n, d₁⟩, hd, h⟩ := Option.bind_eq_some_iff.mp h
  have hset : Assigned n (fun b => { b with addr := addr, onExecute := true }) d₁
      (d₁.modifySlot n fun br => { br with addr := addr, onExecute := true }) :=
    assigned_modifySlot (fun _ => rfl) d₁
  refine ⟨n, ?_⟩
  rcases arg with _ | text | count | _
  · cases h
    exact hset.created hd rfl
  · exact (hset.trans (assigned_setCondition h)).created hd rfl
  · cases h
    have hign := assigned_modifySlot (n := n) (f := fun br => { br with ignoreCount := count })
      (g := id) (fun _ => rfl) (d₁.modifySlot n fun br => { br with addr := addr, onExecute := true })
    exact (hset.trans hign).created hd rfl
  · cases h
    exact hset.created hd rfl

lemma created_breakTemp {addr : BitVec 64} {d d' : Debugger} (h : d.breakTemp addr = some d') :
    ∃ n, Created (breakOrigin addr none) n d d' := by
  obtain ⟨⟨n, d₁⟩, hd, h⟩ := Option.bind_eq_some_iff.mp h
  cases h
  have hset := assigned_modifySlot (n := n)
    (f := fun br => { br with addr := addr, onExecute := true, temp := true })
    (g := fun b => { b with addr := addr, onExecute := true }) (fun _ => rfl) d₁
  exact ⟨n, hset.created hd rfl⟩

/-- What arguments of a watch command assign: the last mask, and whether there is an `if`. -/
def assigns (mask : Option (BitVec 64)) (cond : Bool) (b : Standing) : Standing :=
  { b with
    writeMask := (mask.map fun m => m.setWidth 16).getD b.writeMask
    conditional := b.conditional || cond }

lemma assigns_none : assigns none false = id := by
  funext b
  simp [assigns]

lemma assigns_comp (m m' : Option (BitVec 64)) (c c' : Bool) :
    assigns m' c' ∘ assigns m c = assigns (m'.or m) (c || c') := by
  funext b
  cases m' <;> simp [assigns, Bool.or_assoc]

lemma assigned_watchArg {n : Slot} {a : WatchArg} {d d' : Debugger}
    (h : d.watchArg n a = some d') : Assigned n (assigns a.mask? a.isCond) d d' := by
  cases a with
  | print =>
    cases h
    change Assigned n (assigns none false) _ _
    rw [assigns_none]
    exact assigned_modifySlot (fun _ => rfl) d
  | mask m =>
    cases h
    refine assigned_modifySlot (fun br => ?_) d
    simp [assigns, WatchArg.mask?, WatchArg.isCond, Standing.of]
  | cond text =>
    have hg : assigns none true = fun b => { b with conditional := true } := by
      funext b
      simp [assigns]
    change Assigned n (assigns none true) d d'
    rw [hg]
    exact assigned_setCondition h
  | other =>
    obtain rfl : d = d' := Option.some.inj h
    change Assigned n (assigns none false) d d
    rw [assigns_none]
    exact Assigned.refl n d

lemma assigned_watchArgs {n : Slot} {args : List WatchArg} {d d' : Debugger}
    (h : args.foldlM (watchArg n) d = some d') :
    Assigned n (assigns (lastMask args) (args.any WatchArg.isCond)) d d' := by
  induction args generalizing d with
  | nil =>
    obtain rfl : d = d' := Option.some.inj h
    change Assigned n (assigns none false) d d
    rw [assigns_none]
    exact Assigned.refl n d
  | cons a l ih =>
    rw [List.foldlM_cons] at h
    obtain ⟨d₁, h₁, h⟩ := Option.bind_eq_some_iff.mp h
    have hcomp := (assigned_watchArg h₁).trans (ih h)
    rw [assigns_comp] at hcomp
    exact hcomp

lemma created_cmdWatch1 {onRead onWrite : Bool} {addr : BitVec 64} {args : List WatchArg}
    {d d' : Debugger} (h : d.cmdWatch1 onRead onWrite addr args = some d') :
    ∃ n, Created (watchOrigin onRead onWrite addr args) n d d' := by
  obtain ⟨⟨n, d₁⟩, hd, h⟩ := Option.bind_eq_some_iff.mp h
  have hset := assigned_modifySlot (n := n)
    (f := fun br => { br with addr := addr, onRead := onRead, onWrite := onWrite })
    (g := fun b => { b with addr := addr, onRead := onRead, onWrite := onWrite }) (fun _ => rfl) d₁
  exact ⟨n, (hset.trans (assigned_watchArgs h)).created hd (by
    simp [assigns, Standing.created, watchOrigin])⟩

/-! ## Freeing and hooks -/

/-- Entries are freed and fields are assigned that do not matter, in any order. -/
inductive Quietly : Debugger → Debugger → Prop
  | refl (d : Debugger) : Quietly d d
  | minor {d d' d'' : Debugger} : Minor d d' → Quietly d' d'' → Quietly d d''
  | freed {d d' d'' : Debugger} (n : Slot) : Freed n d d' → Quietly d' d'' → Quietly d d''

lemma Minor.quietly {d d' : Debugger} (h : Minor d d') : Quietly d d' := .minor h (.refl d')

lemma Quietly.trans {d d' d'' : Debugger} (h : Quietly d d') (h' : Quietly d' d'') :
    Quietly d d'' := by
  induction h with
  | refl => exact h'
  | minor hm _ ih => exact .minor hm (ih h')
  | freed n hf _ ih => exact .freed n hf (ih h')

lemma quietly_brkfree (n : Slot) (d : Debugger) : Quietly d (d.brkfree n) :=
  .freed n (freed_brkfree n d) (.refl _)

lemma quietly_foldl {f : Debugger → Slot → Debugger} (h : ∀ d n, Quietly d (f d n)) (l : List Slot)
    (d : Debugger) : Quietly d (l.foldl f d) := by
  induction l generalizing d with
  | nil => exact .refl d
  | cons n l ih => exact (h d n).trans (ih (f d n))

lemma quietly_brkfreeTemps (d : Debugger) : Quietly d d.brkfreeTemps := by
  refine quietly_foldl (fun d n => ?_) _ d
  unfold brkfreeTemp
  split
  · exact quietly_brkfree n d
  · exact .refl d

lemma quietly_cmdDelete {id : Option Nat} {d d' : Debugger} (h : d.cmdDelete id = some d') :
    Quietly d d' := by
  unfold cmdDelete at h
  split at h
  · cases h
    exact quietly_foldl (fun d n => quietly_brkfree n d) _ d
  · split at h
    · split at h
      · cases h
        exact quietly_brkfree _ d
      · cases h
        exact .refl d
    · cases h

/-- A hook that changes nothing that matters, with the calls of `breakpoint_hit` it makes. -/
def Calls (l : List Slot) (d d' : Debugger) : Prop := Minor d d' ∧ d'.hits = l ++ d.hits

lemma Calls.refl (d : Debugger) : Calls [] d d := ⟨Minor.refl d, rfl⟩

lemma Calls.minor {l : List Slot} {d d' d'' : Debugger} (h : Calls l d d') (h' : Minor d' d'')
    (hh : d''.hits = d'.hits) : Calls l d d'' := ⟨h.1.trans h', hh.trans h.2⟩

/-- `breakpoint_hit` does nothing to what the entries stand for. -/
lemma calls_breakpointHit (e : HookEnv) (n : Slot) (d : Debugger) :
    Calls [n] d (d.breakpointHit e n) := by
  have first : Calls [n] d { d with hits := n :: d.hits } := ⟨⟨rfl, rfl, rfl⟩, rfl⟩
  simp only [breakpointHit]
  split
  · exact first
  · generalize hd₁ : (if (d.breaktab n).conditional = true then
      modifySlot n (fun br => { br with condition := (e.eval (d.breaktab n).condition).2 })
        { d with hits := n :: d.hits } else { d with hits := n :: d.hits }) = d₁
    have second : Calls [n] d d₁ := by
      rw [← hd₁]
      split
      · exact first.minor (minor_modifySlot rfl) rfl
      · exact first
    split
    · exact second
    · split
      · exact second.minor (minor_modifySlot rfl) rfl
      · exact second.minor ⟨rfl, rfl, rfl⟩ rfl

lemma calls_changeThreadAt (e : HookEnv) (addr : BitVec 64) (d : Debugger) :
    Calls [] d (d.changeThreadAt e addr) := by
  unfold changeThreadAt commandChangeThread
  split_ifs <;> exact ⟨⟨rfl, rfl, rfl⟩, rfl⟩

/-- The kind of event an entry has to be for. -/
def Hook.flag : Hook → Breakpoint → Bool
  | .insn _ => Breakpoint.onExecute
  | .read => Breakpoint.onRead
  | .write _ => Breakpoint.onWrite

/-- The write passes the entry's own mask. -/
def Hook.passes : Hook → Breakpoint → Bool
  | .write val, br => br.writeMask = 0 ∨ maskOk br val
  | _, _ => true

/-- The entry a hook calls `breakpoint_hit` for. -/
def hitSlot (d : Debugger) (h : Hook) (addr : BitVec 64) : Option Slot :=
  if d.activeBreakCount = 0 then none
  else (d.brkfindByAddr addr).filter fun n =>
    (d.breaktab n).enabled && h.flag (d.breaktab n) && h.passes (d.breaktab n)

/-- `brkfree` makes no call. -/
lemma hits_brkfree (n : Slot) (d : Debugger) : (d.brkfree n).hits = d.hits := by
  change (d.brkEnable n false).hits = d.hits
  unfold brkEnable
  split <;> rfl

/-- What a hook does: entries may be freed, and `breakpoint_hit` is called for the entries given. -/
def Hits (l : List Slot) (d d' : Debugger) : Prop := Quietly d d' ∧ d'.hits = l ++ d.hits

lemma Calls.hits {l : List Slot} {d d' : Debugger} (h : Calls l d d') : Hits l d d' :=
  ⟨h.1.quietly, h.2⟩

lemma Calls.trans_nil {l : List Slot} {d d' d'' : Debugger} (h : Calls l d d')
    (h' : Calls [] d' d'') : Calls l d d'' := ⟨h.1.trans h'.1, h'.2.trans h.2⟩

/-- The call, and freeing a temporary breakpoint that stops the program. -/
lemma hits_hitExecute (e : HookEnv) (n : Slot) (d : Debugger) :
    Hits [n] d (if (d.breakpointHit e n).monitorOn ∧ ((d.breakpointHit e n).breaktab n).temp then
      (d.breakpointHit e n).brkfree n else d.breakpointHit e n) := by
  have hcall := calls_breakpointHit e n d
  split
  · exact ⟨hcall.1.quietly.trans (quietly_brkfree n _), (hits_brkfree n _).trans hcall.2⟩
  · exact hcall.hits

lemma hits_insnHook (e : HookEnv) (pc : U16) (addr : BitVec 64) (d : Debugger) :
    Hits (d.hitSlot (.insn pc) addr).toList d (d.commandInsnHook e pc addr) := by
  have htrace : Calls [] d (d.commandTraceInsn pc) := ⟨⟨rfl, rfl, rfl⟩, rfl⟩
  have hfind : (d.commandTraceInsn pc).brkfindByAddr addr = d.brkfindByAddr addr := rfl
  have htab : (d.commandTraceInsn pc).breaktab = d.breaktab := rfl
  have hcount : (d.commandTraceInsn pc).activeBreakCount = d.activeBreakCount := rfl
  simp only [commandInsnHook, hitSlot, hfind, htab, hcount]
  by_cases h0 : d.activeBreakCount = 0
  · rw [if_pos h0, if_pos h0]
    exact htrace.hits
  rw [if_neg h0, if_neg h0]
  cases hf : d.brkfindByAddr addr with
  | none => exact htrace.hits
  | some n =>
    by_cases hon : (d.breaktab n).enabled = true ∧ (d.breaktab n).onExecute = true
    · have hhit := hits_hitExecute e n (d.commandTraceInsn pc)
      simp only [Option.filter_some, Hook.flag, Hook.passes, hon.1, hon.2, Bool.and_self, if_true,
        and_self]
      exact ⟨htrace.1.quietly.trans hhit.1, hhit.2⟩
    · have hoff : ((d.breaktab n).enabled && (d.breaktab n).onExecute) = false := by
        simpa using hon
      simp only [Option.filter_some, Hook.flag, Hook.passes, hoff, Bool.and_true]
      rw [if_neg hon]
      exact htrace.hits

lemma hits_readHook (e : HookEnv) (addr : BitVec 64) (d : Debugger) :
    Hits (d.hitSlot .read addr).toList d (d.commandReadHook e addr) := by
  simp only [commandReadHook, hitSlot]
  by_cases h0 : d.activeBreakCount = 0
  · rw [if_pos h0, if_pos h0]
    exact (Calls.refl d).hits
  rw [if_neg h0, if_neg h0]
  cases hf : d.brkfindByAddr addr with
  | none => exact (Calls.refl d).hits
  | some n =>
    by_cases hon : (d.breaktab n).enabled = true ∧ (d.breaktab n).onRead = true
    · simp only [Option.filter_some, Hook.flag, Hook.passes, hon.1, hon.2, Bool.and_self, if_true,
        and_self]
      exact (calls_breakpointHit e n d).hits
    · have hoff : ((d.breaktab n).enabled && (d.breaktab n).onRead) = false := by
        simpa using hon
      simp only [Option.filter_some, Hook.flag, Hook.passes, hoff, Bool.and_true]
      rw [if_neg hon]
      exact (Calls.refl d).hits

lemma hits_writeHook (e : HookEnv) (addr : BitVec 64) (val : U8) (d : Debugger) :
    Hits (d.hitSlot (.write val) addr).toList d (d.commandWriteHook e addr val) := by
  have hthread := calls_changeThreadAt e addr d
  simp only [commandWriteHook, hitSlot]
  by_cases h0 : d.activeBreakCount = 0
  · rw [if_pos h0, if_pos h0]
    exact hthread.hits
  rw [if_neg h0, if_neg h0]
  cases hf : d.brkfindByAddr addr with
  | none => exact hthread.hits
  | some n =>
    by_cases hon : (d.breaktab n).enabled = true ∧ (d.breaktab n).onWrite = true
    · simp only [Option.filter_some, Hook.flag, hon.1, hon.2, Bool.true_and, and_self, if_true]
      -- the last value is kept for an entry with a mask
      have hlast : Calls [] d (if (d.breaktab n).writeMask ≠ 0 then
          d.modifySlot n fun br => { br with lastWrite := val.setWidth 16 } else d) := by
        split
        · exact ⟨minor_modifySlot rfl, rfl⟩
        · exact Calls.refl d
      generalize (if (d.breaktab n).writeMask ≠ 0 then
        d.modifySlot n fun br => { br with lastWrite := val.setWidth 16 } else d) = d₁ at hlast ⊢
      by_cases hp : (Hook.write val).passes (d.breaktab n) = true
      · have hm : ¬((d.breaktab n).writeMask ≠ 0 ∧ ¬maskOk (d.breaktab n) val = true) := by
          simp only [Hook.passes, decide_eq_true_eq] at hp
          tauto
        rw [if_pos hp, if_neg hm]
        have hcall := hlast.1.trans (calls_breakpointHit e n d₁).1
        have hhits := (calls_breakpointHit e n d₁).2.trans (congrArg ([n] ++ ·) hlast.2)
        split
        · exact (Calls.trans_nil ⟨hcall, hhits⟩ (calls_changeThreadAt e addr _)).hits
        · exact Calls.hits ⟨hcall, hhits⟩
      · have hm : (d.breaktab n).writeMask ≠ 0 ∧ ¬maskOk (d.breaktab n) val = true := by
          simp only [Hook.passes, decide_eq_true_eq] at hp
          tauto
        rw [if_neg hp, if_pos hm]
        exact hlast.hits
    · have hoff : ((d.breaktab n).enabled && (d.breaktab n).onWrite) = false := by
        simpa using hon
      simp only [Option.filter_some, Hook.flag, hoff, Bool.false_and]
      rw [if_neg hon]
      exact hthread.hits

/-- **One hook**: entries may be freed, and `breakpoint_hit` is called for at most one. -/
lemma hits_hook (h : Hook) (e : HookEnv) (addr : BitVec 64) (d : Debugger) :
    Hits (d.hitSlot h addr).toList d (d.hook h e addr) := by
  cases h with
  | insn pc => exact hits_insnHook e pc addr d
  | read => exact hits_readHook e addr d
  | write val => exact hits_writeHook e addr val d

/-- **One step**: an entry is created, or at most entries are freed. -/
lemma step_cases {d d' : Debugger} {x : Event} (h : d.step x = some d') :
    (∃ o n, x.origin = some o ∧ Created o n d d') ∨ x.origin = none ∧ Quietly d d' := by
  cases x with
  | «break» addr arg =>
    obtain ⟨n, hn⟩ := created_cmdBreak h
    exact Or.inl ⟨_, n, rfl, hn⟩
  | watch addr args =>
    obtain ⟨n, hn⟩ := created_cmdWatch1 h
    exact Or.inl ⟨_, n, rfl, hn⟩
  | rwatch addr args =>
    obtain ⟨n, hn⟩ := created_cmdWatch1 h
    exact Or.inl ⟨_, n, rfl, hn⟩
  | awatch addr args =>
    obtain ⟨n, hn⟩ := created_cmdWatch1 h
    exact Or.inl ⟨_, n, rfl, hn⟩
  | next addr =>
    obtain ⟨n, hn⟩ := created_breakTemp h
    exact Or.inl ⟨_, n, rfl, hn⟩
  | measure addr =>
    obtain ⟨n, hn⟩ := created_breakTemp h
    exact Or.inl ⟨_, n, rfl, hn⟩
  | delete id => exact Or.inr ⟨rfl, quietly_cmdDelete h⟩
  | enter =>
    cases h
    exact Or.inr ⟨rfl, quietly_brkfreeTemps d⟩
  | hook h' e addr =>
    cases h
    exact Or.inr ⟨rfl, (hits_hook h' e addr d).1⟩

/-! ## The table over runs -/

/-- How many entries are enabled. -/
def liveCount (s : Slot → Standing) : Nat := ∑ n, (s n).enabled.toNat

lemma liveCount_update (s : Slot → Standing) (n : Slot) (b : Standing) :
    liveCount (Function.update s n b) + (s n).enabled.toNat = liveCount s + b.enabled.toNat := by
  have hother : ∀ m ∈ Finset.univ.erase n, (Function.update s n b m).enabled.toNat =
      (s m).enabled.toNat := by
    intro m hm
    rw [Function.update_of_ne (Finset.ne_of_mem_erase hm)]
  have hnew := Finset.add_sum_erase Finset.univ (fun m => (Function.update s n b m).enabled.toNat)
    (Finset.mem_univ n)
  have hold := Finset.add_sum_erase Finset.univ (fun m => (s m).enabled.toNat) (Finset.mem_univ n)
  rw [Finset.sum_congr rfl hother] at hnew
  simp only [Function.update_self] at hnew
  unfold liveCount
  omega

lemma liveCount_le (s : Slot → Standing) : liveCount s ≤ 32 := by
  have h := Finset.sum_le_card_nsmul Finset.univ (fun n => (s n).enabled.toNat) 1
    fun n _ => Bool.toNat_le (s n).enabled
  simpa [liveCount] using h

lemma liveCount_pos {s : Slot → Standing} {n : Slot} (h : (s n).enabled = true) :
    0 < liveCount s := by
  have hn := Finset.single_le_sum (f := fun n => (s n).enabled.toNat) (fun _ _ => Nat.zero_le _)
    (Finset.mem_univ n)
  simp only [h, Bool.toNat_true] at hn
  exact hn

/-- A breakpoint is no watchpoint. -/
def OneSort (o : Origin) : Prop :=
  o.onExecute = true → o.onRead = false ∧ o.onWrite = false ∧ o.mask = none

lemma Event.oneSort {x : Event} {o : Origin} (h : x.origin = some o) : OneSort o := by
  cases x <;> cases h <;> intro he <;> first | exact ⟨rfl, rfl, rfl⟩ | cases he

/-- An entry is where it was asked for and serves at least the kind of event it was asked for. -/
structure Carries (b : Standing) (o : Origin) : Prop where
  addr : b.addr = o.addr
  onExecute : o.onExecute = true → b.onExecute = true
  onRead : o.onRead = true → b.onRead = true
  onWrite : o.onWrite = true → b.onWrite = true

/-- An entry is used exactly when it is enabled, and the count says how many are. -/
structure Counted (d : Debugger) : Prop where
  enabled : ∀ n, (d.standing n).enabled = (d.standing n).used
  count : d.activeBreakCount = BitVec.ofNat 32 (liveCount d.standing)

/-- What holds of the table in every run. -/
structure TableInv (d : Debugger) : Prop where
  enabled : ∀ n, (d.standing n).enabled = (d.standing n).used
  count : d.activeBreakCount = BitVec.ofNat 32 (liveCount d.standing)
  carries : ∀ n, (d.standing n).used = true → ∃ o, d.origin n = some o ∧ Carries (d.standing n) o

lemma TableInv.counted {d : Debugger} (hi : TableInv d) : Counted d := ⟨hi.enabled, hi.count⟩

lemma counted_init : Counted init := by
  refine ⟨fun _ => rfl, ?_⟩
  have h0 : liveCount init.standing = 0 := Finset.sum_eq_zero fun _ _ => rfl
  rw [h0]
  rfl

lemma tableInv_init : TableInv init :=
  ⟨counted_init.enabled, counted_init.count, fun _ hn => by cases hn⟩

lemma Counted.minor {d d' : Debugger} (h : Minor d d') (hi : Counted d) : Counted d' := by
  refine ⟨?_, ?_⟩
  · rw [h.standing]
    exact hi.enabled
  · rw [h.count, h.standing]
    exact hi.count

lemma TableInv.minor {d d' : Debugger} (h : Minor d d') (hi : TableInv d) : TableInv d' := by
  refine ⟨(hi.counted.minor h).enabled, (hi.counted.minor h).count, ?_⟩
  rw [h.standing, h.origin]
  exact hi.carries

lemma Counted.freed {n : Slot} {d d' : Debugger} (h : Freed n d d') (hi : Counted d) :
    Counted d' := by
  have hcount := liveCount_update d.standing n
    { d.standing n with used := false, enabled := false }
  refine ⟨fun m => ?_, ?_⟩
  · rw [h.standing]
    by_cases hmn : m = n
    · rw [hmn, Function.update_self]
    · rw [Function.update_of_ne hmn]
      exact hi.enabled m
  · rw [h.count, h.standing, hi.count]
    cases he : (d.standing n).enabled with
    | false =>
      simp only [he, Bool.toNat_false, Nat.add_zero] at hcount
      rw [if_neg Bool.false_ne_true, hcount]
    | true =>
      simp only [he, Bool.toNat_true, Bool.toNat_false, Nat.add_zero] at hcount
      rw [if_pos rfl, ← hcount, BitVec.ofNat_add]
      exact BitVec.add_sub_cancel _ _

lemma TableInv.freed {n : Slot} {d d' : Debugger} (h : Freed n d d') (hi : TableInv d) :
    TableInv d' := by
  refine ⟨(hi.counted.freed h).enabled, (hi.counted.freed h).count, fun m hm => ?_⟩
  rw [h.standing] at hm ⊢
  rw [h.origin]
  by_cases hmn : m = n
  · rw [hmn, Function.update_self] at hm
    cases hm
  · rw [Function.update_of_ne hmn] at hm ⊢
    exact hi.carries m hm

lemma carries_created {o : Origin} (ho : OneSort o) (b : Standing) : Carries (b.created o) o := by
  refine ⟨rfl, fun h => ?_, fun h => ?_, fun h => ?_⟩
  · simp [Standing.created, h]
  · cases he : o.onExecute with
    | false => simpa [Standing.created, he] using h
    | true => simp [(ho he).1] at h
  · cases he : o.onExecute with
    | false => simpa [Standing.created, he] using h
    | true => simp [(ho he).2.1] at h

/-- The first free slot comes into use. -/
structure Taken (n : Slot) (d d' : Debugger) : Prop where
  free : d.freeSlot = some n
  others : ∀ m, m ≠ n → d'.standing m = d.standing m
  used : (d'.standing n).used = true
  enabled : (d'.standing n).enabled = true
  count : d'.activeBreakCount =
    if (d.standing n).enabled then d.activeBreakCount else d.activeBreakCount + 1

lemma Created.taken {o : Origin} {n : Slot} {d d' : Debugger} (h : Created o n d d') :
    Taken n d d' := by
  refine ⟨h.free, fun m hm => ?_, ?_, ?_, h.count⟩
  · rw [h.standing, Function.update_of_ne hm]
  · rw [h.standing, Function.update_self]
    rfl
  · rw [h.standing, Function.update_self]
    rfl

/-- That slot was not used. -/
lemma Taken.unused {n : Slot} {d d' : Debugger} (h : Taken n d d') :
    (d.standing n).used = false := by
  have hn := List.find?_some h.free
  change (d.breaktab n).used = false
  simpa using hn

lemma Counted.taken {n : Slot} {d d' : Debugger} (h : Taken n d d') (hi : Counted d) :
    Counted d' := by
  have hoff : (d.standing n).enabled = false := (hi.enabled n).trans h.unused
  refine ⟨fun m => ?_, ?_⟩
  · by_cases hmn : m = n
    · rw [hmn, h.used, h.enabled]
    · rw [h.others m hmn]
      exact hi.enabled m
  · have hd' : d'.standing = Function.update d.standing n (d'.standing n) :=
      Function.eq_update_iff.mpr ⟨rfl, h.others⟩
    have hcount := liveCount_update d.standing n (d'.standing n)
    rw [← hd', hoff, h.enabled, Bool.toNat_false, Bool.toNat_true, Nat.add_zero] at hcount
    rw [h.count, hoff, if_neg Bool.false_ne_true, hcount, hi.count, BitVec.ofNat_add]
    rfl

lemma TableInv.created {o : Origin} {n : Slot} {d d' : Debugger} (ho : OneSort o)
    (h : Created o n d d') (hi : TableInv d) : TableInv d' := by
  have hc := hi.counted.taken h.taken
  refine ⟨hc.enabled, hc.count, fun m hm => ?_⟩
  rw [h.standing] at hm ⊢
  rw [h.origin]
  by_cases hmn : m = n
  · rw [hmn, Function.update_self, Function.update_self]
    exact ⟨o, rfl, carries_created ho (d.standing n)⟩
  · rw [Function.update_of_ne hmn] at hm
    rw [Function.update_of_ne hmn, Function.update_of_ne hmn]
    exact hi.carries m hm

lemma Counted.quietly {d d' : Debugger} (h : Quietly d d') (hi : Counted d) : Counted d' := by
  induction h with
  | refl => exact hi
  | minor hm _ ih => exact ih (hi.minor hm)
  | freed n hf _ ih => exact ih (hi.freed hf)

lemma TableInv.quietly {d d' : Debugger} (h : Quietly d d') (hi : TableInv d) : TableInv d' := by
  induction h with
  | refl => exact hi
  | minor hm _ ih => exact ih (hi.minor hm)
  | freed n hf _ ih => exact ih (hi.freed hf)

lemma TableInv.step {d d' : Debugger} {x : Event} (h : d.step x = some d') (hi : TableInv d) :
    TableInv d' := by
  obtain ⟨o, n, ho, hc⟩ | ⟨-, hq⟩ := step_cases h
  · exact hi.created (Event.oneSort ho) hc
  · exact hi.quietly hq

/-- A property that every step keeps is kept by every run. -/
lemma run_induction {P : Debugger → Prop} (hstep : ∀ {d d' x}, P d → d.step x = some d' → P d')
    {l : List Event} {d d' : Debugger} (h : run l d = some d') (hd : P d) : P d' := by
  induction l generalizing d with
  | nil =>
    obtain rfl : d = d' := Option.some.inj h
    exact hd
  | cons x l ih =>
    rw [run, List.foldlM_cons] at h
    obtain ⟨d₁, h₁, h⟩ := Option.bind_eq_some_iff.mp h
    exact ih h (hstep hd h₁)

/-- **The table in every run.** -/
lemma tableInv_run {l : List Event} {d : Debugger} (h : run l init = some d) : TableInv d :=
  run_induction (P := TableInv) (fun hi hs => hi.step hs) h tableInv_init

/-! ## Nothing is missed -/

/-- Was an entry for that kind of event asked for? -/
def Hook.asked : Hook → Origin → Bool
  | .insn _ => Origin.onExecute
  | .read => Origin.onRead
  | .write _ => Origin.onWrite

/-- A live entry that was created at `a` for that kind of event. -/
structure Live (d : Debugger) (h : Hook) (a : BitVec 64) (n : Slot) : Prop where
  used : (d.breaktab n).used = true
  enabled : (d.breaktab n).enabled = true
  created : ∃ o, d.origin n = some o ∧ o.addr = a ∧ h.asked o = true

/-- The lowest slot with that address, used or not. -/
structure FirstAt (d : Debugger) (a : BitVec 64) (n : Slot) : Prop where
  addr : (d.breaktab n).addr = a
  below : ∀ m < n, (d.breaktab m).addr ≠ a

/-- If the event passes a live entry created for it, `breakpoint_hit` is called for such an entry. -/
def Unmissed (d : Debugger) (h : Hook) (e : HookEnv) (a : BitVec 64) : Prop :=
  ∀ n, Live d h a n → h.passes (d.breaktab n) = true →
    ∃ m, Live d h a m ∧ (d.hook h e a).hits = m :: d.hits

lemma brkfindByAddr_eq_some {d : Debugger} {a : BitVec 64} {n : Slot} :
    d.brkfindByAddr a = some n ↔ FirstAt d a n := by
  rw [brkfindByAddr, ← Fin.find?_eq_find?_finRange, Fin.find?_eq_some_iff]
  constructor
  · rintro ⟨ha, hlt⟩
    exact ⟨of_decide_eq_true ha, fun m hm => of_decide_eq_false (hlt m hm)⟩
  · rintro ⟨ha, hlt⟩
    exact ⟨decide_eq_true ha, fun m hm => decide_eq_false (hlt m hm)⟩

/-- A live entry serves its kind of event, and the count says that there is one. -/
lemma Live.serves {d : Debugger} {h : Hook} {a : BitVec 64} {n : Slot} (hn : Live d h a n)
    (hi : TableInv d) : h.flag (d.breaktab n) = true ∧ (d.breaktab n).addr = a ∧
      d.activeBreakCount ≠ 0 := by
  obtain ⟨o, ho, ha, hask⟩ := hn.created
  obtain ⟨o', ho', hc⟩ := hi.carries n hn.used
  obtain rfl : o = o' := Option.some.inj (ho.symm.trans ho')
  refine ⟨?_, hc.addr.trans ha, ?_⟩
  · cases h with
    | insn pc => exact hc.onExecute hask
    | read => exact hc.onRead hask
    | write val => exact hc.onWrite hask
  · have hpos := liveCount_pos (s := d.standing) (n := n) hn.enabled
    have hle := liveCount_le d.standing
    rw [hi.count]
    intro h0
    have h0' := congrArg BitVec.toNat h0
    rw [BitVec.toNat_ofNat, Nat.mod_eq_of_lt (by omega)] at h0'
    exact absurd h0' (by simpa using hpos.ne')

/-- A hook calls `breakpoint_hit` for the lowest entry with the address, if that one is live and
meant for the event. -/
lemma Live.hitSlot {d : Debugger} {h : Hook} {a : BitVec 64} {n : Slot} (hn : Live d h a n)
    (hi : TableInv d) (hf : FirstAt d a n) :
    d.hitSlot h a = if h.passes (d.breaktab n) then some n else none := by
  obtain ⟨hflag, -, hcount⟩ := hn.serves hi
  rw [Debugger.hitSlot, if_neg hcount, brkfindByAddr_eq_some.mpr hf, Option.filter_some]
  simp only [hn.enabled, hflag, Bool.true_and]

/-- It calls it for that one only. -/
lemma firstAt_of_hitSlot {d : Debugger} {h : Hook} {a : BitVec 64} {n : Slot}
    (hs : d.hitSlot h a = some n) : FirstAt d a n ∧ h.passes (d.breaktab n) = true := by
  unfold hitSlot at hs
  split at hs
  · cases hs
  · obtain ⟨hfind, hp⟩ := Option.filter_eq_some_iff.mp hs
    exact ⟨brkfindByAddr_eq_some.mp hfind, (Bool.and_eq_true_iff.mp hp).2⟩

/-- **Which entries are missed**, in every run and at every hook: an entry is not missed exactly
when the lowest slot with its address, be it free or meant for other events, is live, meant for this
event and passed by it.  When that slot is live and meant for the event, its own mask decides. -/
theorem breakpoints_found {l : List Event} {d : Debugger} (hr : run l init = some d) (h : Hook)
    (e : HookEnv) (a : BitVec 64) :
    (Unmissed d h e a ↔ ∀ n, Live d h a n → h.passes (d.breaktab n) = true →
      ∃ m, FirstAt d a m ∧ Live d h a m ∧ h.passes (d.breaktab m) = true) ∧
    ∀ m, FirstAt d a m → Live d h a m →
      (d.hook h e a).hits = if h.passes (d.breaktab m) then m :: d.hits else d.hits := by
  have hi := tableInv_run hr
  have hhits := (hits_hook h e a d).2
  have hfirst : ∀ m, FirstAt d a m → Live d h a m →
      (d.hook h e a).hits = if h.passes (d.breaktab m) then m :: d.hits else d.hits := by
    intro m hf hm
    rw [hhits, hm.hitSlot hi hf]
    split <;> rfl
  refine ⟨⟨fun hu n hn hp => ?_, fun hc n hn hp => ?_⟩, hfirst⟩
  · obtain ⟨m, hm, hcall⟩ := hu n hn hp
    rw [hhits] at hcall
    have hs : d.hitSlot h a = some m := by
      cases hs : d.hitSlot h a with
      | none =>
        rw [hs] at hcall
        exact absurd hcall (List.cons_ne_self m d.hits).symm
      | some k =>
        rw [hs] at hcall
        rw [(List.cons.inj hcall).1]
    obtain ⟨hf, hpm⟩ := firstAt_of_hitSlot hs
    exact ⟨m, hf, hm, hpm⟩
  · obtain ⟨m, hf, hm, hpm⟩ := hc n hn hp
    refine ⟨m, hm, ?_⟩
    rw [hfirst m hf hm, if_pos hpm]

/-- Conditions are false and no thread is named. -/
def quietEnv : HookEnv where
  eval s := (0, s)
  thread := 0

/-- A single breakpoint is found. -/
theorem breakpoints_found_single :
    ∃ d, run [.break 0x100 none] init = some d ∧ Live d (.insn 0x100) 0x100 0 ∧
      Unmissed d (.insn 0x100) quietEnv 0x100 := by
  refine ⟨_, rfl, ?_, ?_⟩
  · exact ⟨rfl, rfl, _, rfl, rfl, rfl⟩
  · refine (breakpoints_found (l := [.break 0x100 none]) rfl _ _ _).1.mpr fun _ _ _ => ?_
    exact ⟨0, ⟨rfl, fun m hm => absurd hm (Fin.not_lt_zero m)⟩, ⟨rfl, rfl, _, rfl, rfl, rfl⟩, rfl⟩

/-- A watchpoint behind a breakpoint at its address is missed, and so is a breakpoint behind a free
slot that held another one. -/
theorem entries_missed :
    (∃ d, run [.break 0x100 none, .watch 0x100 []] init = some d ∧ Live d (.write 5) 0x100 1 ∧
      (d.hook (.write 5) quietEnv 0x100).hits = [] ∧ ¬Unmissed d (.write 5) quietEnv 0x100) ∧
    ∃ d, run [.break 0x100 none, .break 0x100 none, .delete (some 0)] init = some d ∧
      Live d (.insn 0x100) 0x100 1 ∧ (d.hook (.insn 0x100) quietEnv 0x100).hits = [] ∧
      ¬Unmissed d (.insn 0x100) quietEnv 0x100 := by
  constructor
  · refine ⟨_, rfl, ⟨rfl, rfl, _, rfl, rfl, rfl⟩, rfl, fun hu => ?_⟩
    obtain ⟨m, -, hc⟩ := hu 1 ⟨rfl, rfl, _, rfl, rfl, rfl⟩ rfl
    cases hc
  · refine ⟨_, rfl, ⟨rfl, rfl, _, rfl, rfl, rfl⟩, rfl, fun hu => ?_⟩
    obtain ⟨m, -, hc⟩ := hu 1 ⟨rfl, rfl, _, rfl, rfl, rfl⟩ rfl
    cases hc

/-! ## Entries have the kind asked for -/

/-- An entry has exactly the kind asked for. -/
structure Exact (b : Standing) (o : Origin) : Prop where
  onExecute : b.onExecute = o.onExecute
  onRead : b.onRead = o.onRead
  onWrite : b.onWrite = o.onWrite
  writeMask : b.writeMask.setWidth 64 = o.mask.getD 0
  conditional : b.conditional = o.conditional

/-- What was in a slot does not show in the entry created there: no watchpoint before a breakpoint,
no breakpoint before a watchpoint, no mask unless one is given, which then has 16 bits. -/
structure Clean (b : Standing) (o : Origin) : Prop where
  watch : o.onExecute = true → b.onRead = false ∧ b.onWrite = false
  execute : o.onExecute = false → b.onExecute = false
  noMask : o.mask = none → b.writeMask = 0
  mask : ∀ m, o.mask = some m → m.toNat < 2 ^ 16

/-- Every used entry has exactly the kind asked for. -/
def KindsExact (d : Debugger) : Prop :=
  ∀ n, (d.standing n).used = true → ∃ o, d.origin n = some o ∧ Exact (d.standing n) o

/-- Entries are created in clean slots only. -/
def CleanRun : List Event → Debugger → Prop
  | [], _ => True
  | x :: l, d => ∀ d', d.step x = some d' →
      (∀ o n, x.origin = some o → d.freeSlot = some n → Clean (d.standing n) o) ∧ CleanRun l d'

lemma setWidth_setWidth_iff (m : BitVec 64) :
    (m.setWidth 16).setWidth 64 = m ↔ m.toNat < 2 ^ 16 := by
  rw [← BitVec.toNat_inj]
  simp only [BitVec.toNat_setWidth]
  omega

lemma exact_created {o : Origin} (ho : OneSort o) (b : Standing) :
    Exact (b.created o) o ↔ Clean b o := by
  have hmask : ((b.created o).writeMask.setWidth 64 = o.mask.getD 0) ↔
      (o.mask = none → b.writeMask = 0) ∧ ∀ m, o.mask = some m → m.toNat < 2 ^ 16 := by
    cases hm : o.mask with
    | none =>
      have hz : b.writeMask.setWidth 64 = 0 ↔ b.writeMask = 0 := by
        have hlt : b.writeMask.toNat < 2 ^ 64 := by omega
        rw [← BitVec.toNat_inj, ← BitVec.toNat_inj, BitVec.toNat_setWidth, Nat.mod_eq_of_lt hlt]
        rfl
      simpa [Standing.created, hm] using hz
    | some m => simpa [Standing.created, hm] using setWidth_setWidth_iff m
  constructor
  · rintro ⟨he, hr, hw, hm, -⟩
    obtain ⟨hnone, hsome⟩ := hmask.mp hm
    refine ⟨fun h => ?_, fun h => ?_, hnone, hsome⟩
    · simp only [Standing.created, h, if_true] at hr hw
      exact ⟨hr.trans (ho h).1, hw.trans (ho h).2.1⟩
    · simpa [Standing.created, h] using he
  · rintro ⟨hw, he, hnone, hsome⟩
    refine ⟨?_, ?_, ?_, hmask.mpr ⟨hnone, hsome⟩, rfl⟩
    · cases h : o.onExecute <;> simp [Standing.created, h]
      exact he h
    · cases h : o.onExecute <;> simp [Standing.created, h]
      rw [(hw h).1, (ho h).1]
    · cases h : o.onExecute <;> simp [Standing.created, h]
      rw [(hw h).2, (ho h).2.1]

lemma KindsExact.quietly {d d' : Debugger} (h : Quietly d d') (hd : KindsExact d) :
    KindsExact d' := by
  induction h with
  | refl => exact hd
  | minor hm _ ih =>
    refine ih fun n hn => ?_
    rw [hm.standing] at hn ⊢
    rw [hm.origin]
    exact hd n hn
  | freed n hf _ ih =>
    refine ih fun m hm => ?_
    rw [hf.standing] at hm ⊢
    rw [hf.origin]
    by_cases hmn : m = n
    · rw [hmn, Function.update_self] at hm
      cases hm
    · rw [Function.update_of_ne hmn] at hm ⊢
      exact hd m hm

/-- The entry created is the one that may be wrong. -/
lemma kindsExact_created {o : Origin} {n : Slot} {d d' : Debugger} (ho : OneSort o)
    (h : Created o n d d') (hd : KindsExact d) : KindsExact d' ↔ Clean (d.standing n) o := by
  have hn : d'.standing n = (d.standing n).created o := by
    rw [h.standing, Function.update_self]
  have hon : d'.origin n = some o := by
    rw [h.origin, Function.update_self]
  constructor
  · intro hk
    obtain ⟨o', ho', hex⟩ := hk n (congrArg Standing.used hn)
    obtain rfl : o = o' := Option.some.inj (hon.symm.trans ho')
    rw [hn] at hex
    exact (exact_created ho _).mp hex
  · intro hc m hm
    by_cases hmn : m = n
    · rw [hmn, hn]
      exact ⟨o, hon, (exact_created ho _).mpr hc⟩
    · rw [h.standing, Function.update_of_ne hmn] at hm ⊢
      rw [h.origin, Function.update_of_ne hmn]
      exact hd m hm

lemma kindsExact_step {x : Event} {d d' : Debugger} (h : d.step x = some d') (hd : KindsExact d) :
    KindsExact d' ↔ ∀ o n, x.origin = some o → d.freeSlot = some n → Clean (d.standing n) o := by
  obtain ⟨o, n, ho, hc⟩ | ⟨ho, hq⟩ := step_cases h
  · rw [kindsExact_created (Event.oneSort ho) hc hd]
    constructor
    · intro hcl o' n' ho' hn'
      obtain rfl : o = o' := Option.some.inj (ho.symm.trans ho')
      obtain rfl : n = n' := Option.some.inj (hc.free.symm.trans hn')
      exact hcl
    · intro hcl
      exact hcl o n ho hc.free
  · refine ⟨fun _ o n ho' => ?_, fun _ => hd.quietly hq⟩
    rw [ho] at ho'
    cases ho'

lemma kindsExact_run (l : List Event) (d : Debugger) (hd : KindsExact d) :
    (∀ l' d', l' <+: l → run l' d = some d' → KindsExact d') ↔ CleanRun l d := by
  induction l generalizing d with
  | nil =>
    refine ⟨fun _ => trivial, fun _ l' d' hl hr => ?_⟩
    rw [List.prefix_nil.mp hl] at hr
    obtain rfl : d = d' := Option.some.inj hr
    exact hd
  | cons x l ih =>
    have hcons {d₁ d' : Debugger} {l' : List Event} (h₁ : d.step x = some d₁) :
        run (x :: l') d = some d' ↔ run l' d₁ = some d' := by
      rw [run, List.foldlM_cons, h₁]
      rfl
    constructor
    · intro hall d₁ h₁
      have hk₁ : KindsExact d₁ := hall [x] d₁ (by simp) ((hcons h₁).mpr rfl)
      refine ⟨(kindsExact_step h₁ hd).mp hk₁, (ih d₁ hk₁).mp fun l' d' hl hr => ?_⟩
      exact hall (x :: l') d' ((List.prefix_cons_inj x).mpr hl) ((hcons h₁).mpr hr)
    · intro hcl l' d' hl hr
      cases l' with
      | nil =>
        obtain rfl : d = d' := Option.some.inj hr
        exact hd
      | cons y l' =>
        obtain ⟨rfl, hl'⟩ := List.cons_prefix_cons.mp hl
        have hr' := hr
        rw [run, List.foldlM_cons] at hr'
        obtain ⟨d₁, h₁, -⟩ := Option.bind_eq_some_iff.mp hr'
        obtain ⟨hx, hcl⟩ := hcl d₁ h₁
        exact (ih d₁ ((kindsExact_step h₁ hd).mpr hx)).mpr hcl l' d' hl' ((hcons h₁).mp hr)

end Debugger

end Exec09
