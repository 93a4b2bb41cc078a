import Exec09.Debugger.Stops
import Exec09.Properties.Breakpoints

/-!
# Requests to stop

Each event that writes `monitor_on` either asks for a stop or, as the hit of a print-only entry,
takes the request back.  The last of them decides what `cpu_execute` sees, so a request survives
exactly when no print-only entry is hit after the last one.
-/

namespace Exec09

namespace Debugger

/-- What a hook prints. -/
def reports (h : Hook) (e : HookEnv) (addr : BitVec 64) (d : Debugger) : List Report :=
  match h with
  | .insn pc => d.insnReports e pc addr
  | .read => d.readReports addr
  | .write val => d.writeReports e addr val

/-- Is the hook one of those that watchpoints are for? -/
def Hook.isAccess : Hook → Bool
  | .insn _ => false
  | _ => true

/-- The thread is the entry's, its condition holds and no hits are left to be ignored. -/
def effective (e : HookEnv) (n : Slot) (d : Debugger) : Bool :=
  let br := d.breaktab n
  !(br.threaded && d.threadId ≠ br.tid.setWidth 64) &&
    (!br.conditional || (e.eval br.condition).1 ≠ 0) && br.ignoreCount = 0

/-- The entry whose hit counts, if the hook makes one that does. -/
def hitEffect (h : Hook) (e : HookEnv) (addr : BitVec 64) (d : Debugger) : Option Slot :=
  (d.hitSlot h addr).filter fun n => d.effective e n

lemma monitorOn_breakpointHit (e : HookEnv) (n : Slot) (d : Debugger) :
    (d.breakpointHit e n).monitorOn =
      if d.effective e n then !(d.breaktab n).keepRunning else d.monitorOn := by
  -- working out the condition leaves `monitor_on` alone
  have hcond : (if (d.breaktab n).conditional = true then
      modifySlot n (fun br => { br with condition := (e.eval (d.breaktab n).condition).2 })
        { d with hits := n :: d.hits } else { d with hits := n :: d.hits }).monitorOn =
      d.monitorOn := by
    split <;> rfl
  simp only [breakpointHit]
  split
  · rename_i ht
    have hno : d.effective e n = false := by simp [effective, ht]
    rw [hno]
    rfl
  rename_i ht
  split
  · rename_i hc
    have hno : d.effective e n = false := by simp [effective, hc]
    rw [hno]
    exact hcond
  rename_i hc
  split
  · rename_i hi
    have hno : d.effective e n = false := by
      rw [effective, decide_eq_false hi, Bool.and_false]
    rw [hno]
    exact hcond
  · rename_i hi
    have hyes : d.effective e n = true := by
      simp only [effective, Bool.and_eq_true, Bool.or_eq_true, Bool.not_eq_true',
        Bool.and_eq_false_iff, decide_eq_true_eq, decide_eq_false_iff_not]
      refine ⟨⟨?_, ?_⟩, not_not.mp hi⟩
      · by_contra hne
        exact ht (by simpa using hne)
      · by_contra hne
        exact hc (by simpa using hne)
    rw [hyes]
    rfl

lemma monitorOn_brkfree (n : Slot) (d : Debugger) : (d.brkfree n).monitorOn = d.monitorOn := by
  change (d.brkEnable n false).monitorOn = d.monitorOn
  unfold brkEnable
  split <;> rfl

lemma monitorOn_changeThreadAt (e : HookEnv) (addr : BitVec 64) (d : Debugger) :
    (d.changeThreadAt e addr).monitorOn = d.monitorOn := by
  unfold changeThreadAt commandChangeThread
  split_ifs <;> rfl

/-- The hook finds the entry, which is enabled and meant for the event. -/
lemma hitSlot_spec {d : Debugger} {h : Hook} {addr : BitVec 64} {n : Slot}
    (hs : d.hitSlot h addr = some n) : d.activeBreakCount ≠ 0 ∧ d.brkfindByAddr addr = some n ∧
      (d.breaktab n).enabled = true ∧ h.flag (d.breaktab n) = true ∧
      h.passes (d.breaktab n) = true := by
  unfold hitSlot at hs
  split at hs
  · cases hs
  · rename_i h0
    obtain ⟨hfind, hp⟩ := Option.filter_eq_some_iff.mp hs
    simp only [Bool.and_eq_true] at hp
    exact ⟨h0, hfind, hp.1.1, hp.1.2, hp.2⟩

/-- The entry in slot `n` once the last value written is noted. -/
def noteWrite (n : Slot) (val : U8) (d : Debugger) : Debugger :=
  if (d.breaktab n).writeMask ≠ 0 then
    d.modifySlot n fun br => { br with lastWrite := val.setWidth 16 }
  else d

/-- Noting it changes nothing that a hit depends on. -/
lemma noteWrite_spec (e : HookEnv) (n : Slot) (val : U8) (d : Debugger) :
    (d.noteWrite n val).effective e n = d.effective e n ∧
    ((d.noteWrite n val).breaktab n).keepRunning = (d.breaktab n).keepRunning ∧
    (d.noteWrite n val).monitorOn = d.monitorOn := by
  unfold noteWrite
  split
  · simp [effective, modifySlot]
  · exact ⟨rfl, rfl, rfl⟩

/-- A write that has passed the mask. -/
lemma write_of_hitSlot {d : Debugger} {e : HookEnv} {addr : BitVec 64} {val : U8} {n : Slot}
    (hs : d.hitSlot (.write val) addr = some n) :
    (d.commandWriteHook e addr val).monitorOn = ((d.noteWrite n val).breakpointHit e n).monitorOn ∧
    d.writeReports e addr val =
      if ((d.noteWrite n val).breakpointHit e n).monitorOn then
        [.watchpoint (((d.noteWrite n val).breakpointHit e n).breaktab n).id addr (some val)]
      else [] := by
  obtain ⟨h0, hfind, hen, hon, hp⟩ := hitSlot_spec hs
  have hm : ¬((d.breaktab n).writeMask ≠ 0 ∧ ¬maskOk (d.breaktab n) val = true) := by
    simp only [Hook.passes, decide_eq_true_eq] at hp
    tauto
  constructor
  · simp only [commandWriteHook, hfind]
    rw [if_neg h0, if_pos ⟨hen, hon⟩, if_neg hm]
    change (if ((d.noteWrite n val).breakpointHit e n).monitorOn = true then
      ((d.noteWrite n val).breakpointHit e n).changeThreadAt e addr
      else (d.noteWrite n val).breakpointHit e n).monitorOn = _
    split
    · exact monitorOn_changeThreadAt e addr _
    · rfl
  · simp only [writeReports, hfind]
    rw [if_neg h0, if_pos ⟨hen, hon⟩, if_neg hm]
    change (if (!((d.noteWrite n val).breakpointHit e n).monitorOn) = true then [] else _) = _
    cases ((d.noteWrite n val).breakpointHit e n).monitorOn <;> rfl

/-- A write that calls for nothing. -/
lemma write_of_hitSlot_none {d : Debugger} {addr : BitVec 64} {val : U8} (e : HookEnv)
    (hs : d.hitSlot (.write val) addr = none) :
    (d.commandWriteHook e addr val).monitorOn = d.monitorOn := by
  simp only [hitSlot] at hs
  simp only [commandWriteHook]
  split
  · exact monitorOn_changeThreadAt e addr d
  rename_i h0
  rw [if_neg h0] at hs
  split
  · rename_i n hfind
    rw [hfind] at hs
    split
    · rename_i hon
      have hp : (Hook.write val).passes (d.breaktab n) = false := by
        simpa [Option.filter_some, Hook.flag, hon.1, hon.2] using hs
      have hm : (d.breaktab n).writeMask ≠ 0 ∧ ¬maskOk (d.breaktab n) val = true := by
        simp only [Hook.passes, decide_eq_false_iff_not] at hp
        tauto
      rw [if_pos hm]
      exact (noteWrite_spec e n val d).2.2
    · exact monitorOn_changeThreadAt e addr d
  · exact monitorOn_changeThreadAt e addr d

/-- Instructions and reads. -/
lemma monitorOn_insnHook (e : HookEnv) (pc : U16) (addr : BitVec 64) (d : Debugger) :
    (d.commandInsnHook e pc addr).monitorOn =
      ((d.hitSlot (.insn pc) addr).map fun n => (d.breakpointHit e n).monitorOn).getD
        d.monitorOn := by
  have hfind : (d.commandTraceInsn pc).brkfindByAddr addr = d.brkfindByAddr addr := rfl
  have htab : (d.commandTraceInsn pc).breaktab = d.breaktab := rfl
  have hcount : (d.commandTraceInsn pc).activeBreakCount = d.activeBreakCount := rfl
  simp only [commandInsnHook, hitSlot, hfind, htab, hcount]
  by_cases h0 : d.activeBreakCount = 0
  · rw [if_pos h0, if_pos h0]
    rfl
  rw [if_neg h0, if_neg h0]
  cases hf : d.brkfindByAddr addr with
  | none => rfl
  | some n =>
    have heff : (d.commandTraceInsn pc).effective e n = d.effective e n := rfl
    have hhit : ((d.commandTraceInsn pc).breakpointHit e n).monitorOn =
        (d.breakpointHit e n).monitorOn := by
      rw [monitorOn_breakpointHit, monitorOn_breakpointHit, heff, htab]
      rfl
    by_cases hon : (d.breaktab n).enabled = true ∧ (d.breaktab n).onExecute = true
    · simp only [Option.filter_some, Hook.flag, Hook.passes, hon.1, hon.2, Bool.and_self, if_true,
        and_self, Option.map_some, Option.getD_some]
      split
      · exact (monitorOn_brkfree n _).trans hhit
      · exact hhit
    · have hoff : ((d.breaktab n).enabled && (d.breaktab n).onExecute) = false := by
        simpa using hon
      simp only [Option.filter_some, Hook.flag, Hook.passes, hoff, Bool.and_true]
      rw [if_neg hon]
      rfl

lemma monitorOn_readHook (e : HookEnv) (addr : BitVec 64) (d : Debugger) :
    (d.commandReadHook e addr).monitorOn =
      ((d.hitSlot .read addr).map fun n => (d.breakpointHit e n).monitorOn).getD d.monitorOn := by
  simp only [commandReadHook, hitSlot]
  by_cases h0 : d.activeBreakCount = 0
  · rw [if_pos h0, if_pos h0]
    rfl
  rw [if_neg h0, if_neg h0]
  cases hf : d.brkfindByAddr addr with
  | none => rfl
  | some n =>
    by_cases hon : (d.breaktab n).enabled = true ∧ (d.breaktab n).onRead = true
    · simp [Option.filter_some, Hook.flag, Hook.passes, hon.1, hon.2]
    · have hoff : ((d.breaktab n).enabled && (d.breaktab n).onRead) = false := by
        simpa using hon
      simp only [Option.filter_some, Hook.flag, Hook.passes, hoff, Bool.and_true]
      rw [if_neg hon]
      rfl

/-- **What `monitor_on` is after a hook**: a hit that counts decides it. -/
lemma monitorOn_hook (h : Hook) (e : HookEnv) (addr : BitVec 64) (d : Debugger) :
    (d.hook h e addr).monitorOn =
      ((d.hitEffect h e addr).map fun n => !(d.breaktab n).keepRunning).getD d.monitorOn := by
  have hcount : (d.hook h e addr).monitorOn =
      ((d.hitSlot h addr).map fun n =>
        if d.effective e n then !(d.breaktab n).keepRunning else d.monitorOn).getD
          d.monitorOn := by
    cases h with
    | insn pc =>
      simp only [← monitorOn_breakpointHit]
      exact monitorOn_insnHook e pc addr d
    | read =>
      simp only [← monitorOn_breakpointHit]
      exact monitorOn_readHook e addr d
    | write val =>
      cases hs : d.hitSlot (.write val) addr with
      | none => exact write_of_hitSlot_none e hs
      | some n =>
        obtain ⟨heff, hk, hon⟩ := noteWrite_spec e n val d
        refine (write_of_hitSlot hs).1.trans ?_
        rw [monitorOn_breakpointHit, heff, hk, hon]
        rfl
  rw [hcount, hitEffect]
  cases d.hitSlot h addr with
  | none => rfl
  | some n =>
    cases he : d.effective e n <;> simp [Option.filter_some, he]

/-- A read that an entry is found for is reported. -/
lemma readReports_of_hitSlot {d : Debugger} {addr : BitVec 64} {n : Slot}
    (hs : d.hitSlot .read addr = some n) :
    d.readReports addr = [.watchpoint (d.breaktab n).id addr none] := by
  obtain ⟨h0, hfind, hen, hon, -⟩ := hitSlot_spec hs
  simp only [readReports, hfind]
  rw [if_neg h0, if_pos ⟨hen, hon⟩]

/-- A write is not reported when the hit of a print-only entry has cleared `monitor_on`. -/
lemma writeReports_of_printOnly {d : Debugger} {e : HookEnv} {addr : BitVec 64} {val : U8} {n : Slot}
    (hs : d.hitEffect (.write val) e addr = some n) (hk : (d.breaktab n).keepRunning = true) :
    d.writeReports e addr val = [] := by
  obtain ⟨hslot, he⟩ := Option.filter_eq_some_iff.mp hs
  obtain ⟨heff, hkeep, -⟩ := noteWrite_spec e n val d
  have hoff : ((d.noteWrite n val).breakpointHit e n).monitorOn = false := by
    rw [monitorOn_breakpointHit, heff, he, hkeep, hk]
    rfl
  rw [(write_of_hitSlot hslot).2, hoff]
  rfl

end Debugger

namespace Monitor

open Debugger

/-- What happens between two looks at `monitor_on`. -/
inductive Event
  | hook (h : Hook) (e : HookEnv) (addr : BitVec 64)
  | simError
  | signal
  | periodic
  | checkBreak

def step (m : Monitor) : Event → Option Monitor
  | .hook h e addr =>
    some { m with
      debugger := m.debugger.hook h e addr
      out := m.out ++ m.debugger.reports h e addr }
  | .simError => m.simError
  | .signal => some m.monitorSignal
  | .periodic => some m.commandPeriodic
  | .checkBreak => some m.breakCheck

/-- The events one after the other; `none` when one of them ends the process. -/
def run (l : List Event) (m : Monitor) : Option Monitor := l.foldlM step m

/-- What an event wants. -/
inductive Verdict
  /-- The program is to stop. -/
  | stop
  /-- A print-only entry is hit. -/
  | printOnly
  deriving DecidableEq, Repr

/-- Worked out in the state before the event. -/
def verdict (m : Monitor) : Event → Option Verdict
  | .hook h e addr => (m.debugger.hitEffect h e addr).map fun n =>
      if (m.debugger.breaktab n).keepRunning then .printOnly else .stop
  | .simError | .signal => some .stop
  | .periodic =>
    if m.stopAfterMs ≠ 0 ∧ (m.stopAfterMs - 100).toInt ≤ 0 then some .stop else none
  | .checkBreak => if m.checkBreak.1 then some .stop else none

/-- The verdicts along a run. -/
def verdicts : List Event → Monitor → List Verdict
  | [], _ => []
  | x :: l, m => (m.verdict x).toList ++ ((m.step x).map (verdicts l)).getD []

/-- `monitor_on` as a verdict leaves it. -/
def Verdict.on : Verdict → Bool
  | .stop => true
  | .printOnly => false

lemma monitorOn_step {m m' : Monitor} {x : Event} (h : m.step x = some m') :
    m'.debugger.monitorOn = ((m.verdict x).map Verdict.on).getD m.debugger.monitorOn := by
  cases x with
  | hook k e addr =>
    cases h
    simp only [verdict, Option.map_map, monitorOn_hook]
    congr 2
    funext n
    cases hk : (m.debugger.breaktab n).keepRunning <;> simp [hk, Verdict.on]
  | simError =>
    simp only [step, simError] at h
    split at h
    · cases h
      rfl
    · cases h
  | signal =>
    cases h
    rfl
  | periodic =>
    cases h
    simp only [commandPeriodic, verdict]
    by_cases h0 : m.stopAfterMs = 0
    · simp [h0]
    · by_cases hle : (m.stopAfterMs - 100).toInt ≤ 0
      · rw [if_pos h0, if_pos hle, if_pos ⟨h0, hle⟩]
        rfl
      · rw [if_pos h0, if_neg hle, if_neg fun h => hle h.2]
        rfl
  | checkBreak =>
    cases h
    have hkeep : m.checkBreak.2.debugger = m.debugger := by
      unfold checkBreak
      split <;> rfl
    simp only [breakCheck, verdict]
    split
    · rfl
    · exact congrArg Debugger.monitorOn hkeep

/-- **The last verdict decides.** -/
lemma monitorOn_run {l : List Event} {m m' : Monitor} (h : run l m = some m') :
    m'.debugger.monitorOn =
      ((verdicts l m).getLast?.map Verdict.on).getD m.debugger.monitorOn := by
  induction l generalizing m with
  | nil =>
    obtain rfl : m = m' := Option.some.inj h
    rfl
  | cons x l ih =>
    rw [run, List.foldlM_cons] at h
    obtain ⟨m₁, h₁, h⟩ := Option.bind_eq_some_iff.mp h
    rw [ih h, monitorOn_step h₁, verdicts, h₁, Option.map_some, Option.getD_some,
      List.getLast?_append]
    cases hl : (verdicts l m₁).getLast? with
    | none => cases m.verdict x <;> rfl
    | some v => rfl

/-- The event happens in the run, in that state. -/
def Happens (l : List Event) (m : Monitor) (x : Event) (m₁ : Monitor) : Prop :=
  ∃ l₁ l₂, l = l₁ ++ x :: l₂ ∧ run l₁ m = some m₁

/-- A print-only watchpoint is hit by an access. -/
structure PrintOnlyHit (k : Hook) (e : HookEnv) (addr : BitVec 64) (m : Monitor) (n : Slot) :
    Prop where
  access : k.isAccess = true
  hit : m.debugger.hitEffect k e addr = some n
  printOnly : (m.debugger.breaktab n).keepRunning = true

/-- The event is reported. -/
def Reported (k : Hook) (e : HookEnv) (addr : BitVec 64) (m : Monitor) (n : Slot) : Prop :=
  ∃ m' val, m.step (.hook k e addr) = some m' ∧
    m'.out = m.out ++ [.watchpoint (m.debugger.breaktab n).id addr val]

/-- A hit is reported just when the access is a read. -/
lemma reported_iff {k : Hook} {e : HookEnv} {addr : BitVec 64} {m : Monitor} {n : Slot}
    (h : PrintOnlyHit k e addr m n) : Reported k e addr m n ↔ k = .read := by
  cases k with
  | insn pc => cases h.access
  | read =>
    refine ⟨fun _ => rfl, fun _ => ⟨_, none, rfl, ?_⟩⟩
    obtain ⟨hs, -⟩ := Option.filter_eq_some_iff.mp h.hit
    exact congrArg (m.out ++ ·) (readReports_of_hitSlot hs)
  | write val =>
    refine ⟨?_, fun hk => by cases hk⟩
    rintro ⟨m', v, hstep, hout⟩
    obtain rfl := Option.some.inj hstep
    have hempty : m.debugger.reports (.write val) e addr = [] :=
      writeReports_of_printOnly h.hit h.printOnly
    rw [hempty] at hout
    simp at hout

/-- **When stop requests are kept.**  In the state before `cpu_execute` looks at it, `monitor_on` is
set if a stop was asked for, and every hit of a print-only watchpoint has been reported, exactly
when no print-only entry is hit after the last request and no print-only watchpoint by a write. -/
theorem stop_requests_kept {l : List Event} {m m' : Monitor} (h : run l m = some m') :
    ((.stop ∈ verdicts l m → m'.debugger.monitorOn = true) ∧
      ∀ k e addr m₁ n, Happens l m (.hook k e addr) m₁ → PrintOnlyHit k e addr m₁ n →
        Reported k e addr m₁ n) ↔
    (.stop ∈ verdicts l m → (verdicts l m).getLast? = some .stop) ∧
      ∀ k e addr m₁ n, Happens l m (.hook k e addr) m₁ → PrintOnlyHit k e addr m₁ n →
        k = .read := by
  have hlast : (.stop ∈ verdicts l m → m'.debugger.monitorOn = true) ↔
      (.stop ∈ verdicts l m → (verdicts l m).getLast? = some .stop) := by
    refine forall_congr' fun hstop => ?_
    rw [monitorOn_run h]
    cases hl : (verdicts l m).getLast? with
    | none =>
      rw [List.getLast?_eq_none_iff.mp hl] at hstop
      cases hstop
    | some v => cases v <;> simp [Verdict.on]
  rw [hlast]
  refine and_congr_right fun _ => ?_
  constructor
  · intro hall k e addr m₁ n hx hp
    exact (reported_iff hp).mp (hall k e addr m₁ n hx hp)
  · intro hall k e addr m₁ n hx hp
    exact (reported_iff hp).mpr (hall k e addr m₁ n hx hp)

/-- A watchpoint at 0x200 and a print-only one at 0x100. -/
def twoWatchpoints : List Debugger.Event := [.watch 0x200 [], .watch 0x100 [.print]]

/-- A read of the print-only one, then a write to the other one and a step that is not over. -/
theorem stop_requests_kept_last : ∃ d m', Debugger.run
    [.rwatch 0x100 [.print], .watch 0x200 []] Debugger.init = some d ∧
    run [.hook .read quietEnv 0x100, .hook (.write 1) quietEnv 0x200, .checkBreak]
      ⟨d, 2, 0, true, []⟩ = some m' ∧ m'.debugger.monitorOn = true := by
  refine ⟨_, _, rfl, rfl, ?_⟩
  refine (stop_requests_kept (l := [.hook .read quietEnv 0x100, .hook (.write 1) quietEnv 0x200,
    .checkBreak]) rfl).mpr ⟨fun _ => by decide +kernel, ?_⟩ |>.1 (by decide +kernel)
  rintro k e addr m₁ n ⟨l₁, l₂, hl, hr⟩ hp
  match l₁, hl with
  | [], hl =>
    cases hl
    rfl
  | [_], hl =>
    cases hl
    cases hr
    have hn := hp.hit.symm.trans (show _ = some (1 : Slot) by decide +kernel)
    cases hn
    exact absurd hp.printOnly (by decide +kernel)
  | [_, _], hl => cases hl
  | _ :: _ :: _ :: l₁, hl => cases l₁ <;> cases hl

/-- A write to the watchpoint, then one to the print-only one: the request is gone, and the second
hit has not been reported. -/
theorem stop_request_cancelled : ∃ d m', Debugger.run twoWatchpoints Debugger.init = some d ∧
    run [.hook (.write 1) quietEnv 0x200, .hook (.write 1) quietEnv 0x100, .checkBreak]
      ⟨d, 0, 0, true, []⟩ = some m' ∧
    verdicts [.hook (.write 1) quietEnv 0x200, .hook (.write 1) quietEnv 0x100, .checkBreak]
      ⟨d, 0, 0, true, []⟩ = [.stop, .printOnly] ∧
    m'.debugger.monitorOn = false ∧ m'.out = [.watchpoint 0 0x200 (some 1)] :=
  ⟨_, _, rfl, rfl, by decide +kernel⟩

end Monitor

end Exec09
