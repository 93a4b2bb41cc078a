import Exec09.Debugger.Breakpoints
import Exec09.Debugger.Eval

/-!
# What is left of a condition

`eval` leaves a prefix of its text.  The whole text is left exactly when it is `Intact`: no operator
is found in it where a NUL would be written.  A breakpoint therefore keeps its condition, and decides
at every hit as it did at the first one, if and only if the condition is of that kind.
-/

namespace Exec09

open CText

variable {μ : Type}

/-! ## What is left is a prefix -/

/-- An evaluator leaves prefixes. -/
def LeavesPrefix (ev : Evaluator μ) (expr : List Char) : Prop :=
  ∀ w r, ev expr w = some r → r.left <+: expr

/-- A binary operator leaves part of its first operand. -/
lemma left_evalBoth {ev : Evaluator μ} {f : BitVec 64 → BitVec 64 → Option (BitVec 64)}
    {first second : List Char} {w : EvalState μ} {r : Evaluated μ}
    (hev : LeavesPrefix ev first) (h : evalBoth ev f first second w = some r) :
    r.left <+: first := by
  simp only [evalBoth, Option.bind_eq_bind, Option.bind_eq_some_iff, Option.pure_def,
    Option.some.injEq] at h
  obtain ⟨r₁, hr₁, r₂, _, val, _, rfl⟩ := h
  exact hev w r₁ hr₁

/-- Part of what is in front of an operator is less than the whole. -/
lemma prefix_of_strstr {op expr a b l : List Char} (h : strstr op expr = some (a, b))
    (hop : op ≠ []) (hl : l <+: a) : l <+: expr ∧ l ≠ expr := by
  have hexpr := eq_of_strstr h
  have hlen := hl.length_le
  have hpos := List.length_pos_iff.mpr hop
  constructor
  · rw [hexpr]
    exact hl.trans (List.prefix_append a (op ++ b))
  · rintro rfl
    have hcount := congrArg List.length hexpr
    rw [List.length_append, List.length_append] at hcount
    omega

/-- No operator is folded. -/
structure NoFold (expr : List Char) : Prop where
  assign : '=' ∉ expr
  operators : ∀ op ∈ ['+', '-', '*', '/'], op ∈ expr → expr.head? = some op

/-- The text begins with a letter. -/
def IsName (expr : List Char) : Prop := expr.head?.any Char.isAlpha

instance (expr : List Char) : Decidable (IsName expr) :=
  inferInstanceAs (Decidable (expr.head?.any Char.isAlpha = true))

/-- A text that `eval` leaves as it is. -/
structure Intact (expr : List Char) : Prop extends NoFold expr where
  colon : expr.head? = some '&' ∨ IsName expr → ':' ∉ expr

/-- One of the operators is folded. -/
def Folded [Target μ] (ev : Evaluator μ) (expr : List Char)
    (c : EvalState μ → Option (Evaluated μ)) : Prop :=
  foldComparisons ev expr = some c ∨ foldAssign ev expr = some c ∨
    ∃ op ∈ ['+', '-', '*', '/'], foldBinary ev expr op = some c

/-- `eval` folds an operator, or there is none to be folded. -/
lemma evalBody_cases [Target μ] (ev : Evaluator μ) (expr : List Char) :
    Folded ev expr (evalBody ev expr) ∨ NoFold expr ∧ evalBody ev expr = evalPrimary ev expr := by
  rw [evalBody]
  cases hfold : (foldComparisons ev expr <|> foldAssign ev expr <|> foldBinary ev expr '+' <|>
      foldBinary ev expr '-' <|> foldBinary ev expr '*' <|> foldBinary ev expr '/') with
  | some c =>
    refine .inl ?_
    simp only [Option.orElse_eq_orElse, Option.orElse_eq_or, Option.or_eq_some_iff] at hfold
    simp only [Folded, Option.getD_some, List.mem_cons, List.not_mem_nil, or_false, exists_eq_or_imp,
      exists_eq_left]
    tauto
  | none =>
    refine .inr ⟨?_, rfl⟩
    simp only [Option.orElse_eq_orElse, Option.orElse_eq_or, Option.or_eq_none_iff,
      foldAssign_eq_none_iff, foldBinary_eq_none_iff] at hfold
    obtain ⟨_, hassign, hadd, hsub, hmul, hdiv⟩ := hfold
    refine ⟨hassign, ?_⟩
    simp only [List.forall_mem_cons]
    exact ⟨hadd, hsub, hmul, hdiv, List.forall_mem_nil _⟩

/-- Where an operator is folded the text is not intact. -/
lemma Folded.not_noFold [Target μ] {ev : Evaluator μ} {expr : List Char}
    {c : EvalState μ → Option (Evaluated μ)} (h : Folded ev expr c) : ¬NoFold expr := by
  intro hn
  obtain h | h | ⟨op, hop, h⟩ := h
  · rw [foldComparisons_eq_none ev hn.assign] at h
    cases h
  · rw [(foldAssign_eq_none_iff ev expr).mpr hn.assign] at h
    cases h
  · rw [(foldBinary_eq_none_iff ev expr op).mpr (hn.operators op hop)] at h
    cases h

/-- What is left of an address. -/
lemma left_evalAddress [Target μ] {ev : Evaluator μ} {mem : List Char} {w : EvalState μ}
    {r : Evaluated μ} (hev : ∀ s : List Char, s.length < mem.length → LeavesPrefix ev s)
    (h : evalAddress ev mem w = some r) :
    (':' ∈ mem ∧ r.left <+: mem ∧ r.left ≠ mem) ∨ (':' ∉ mem ∧ IsName mem ∧ r.left = mem) ∨
      (':' ∉ mem ∧ ¬IsName mem ∧ ∃ r', ev mem w = some r' ∧ r.left = r'.left) := by
  simp only [evalAddress] at h
  split at h
  · rename_i devno phyaddr hs
    have hlen := length_of_strstr hs
    have hdev := hev devno (by rw [hlen, List.length_singleton]; omega)
    refine .inl ⟨?_, prefix_of_strstr hs (by simp) (left_evalBoth hdev h)⟩
    rw [eq_of_strchr hs]
    simp
  · rename_i hs
    have hcolon := strchr_eq_none_iff.mp hs
    split at h
    · rename_i hname
      cases h
      exact .inr (.inl ⟨hcolon, hname, rfl⟩)
    · rename_i hname
      simp only [Option.bind_eq_bind, Option.bind_eq_some_iff, Option.pure_def,
        Option.some.injEq] at h
      obtain ⟨r', hr', addr, _, rfl⟩ := h
      exact .inr (.inr ⟨hcolon, hname, r', hr', rfl⟩)

/-- Reading the memory leaves what the address leaves. -/
lemma left_evalMem [Target μ] {ev : Evaluator μ} {mem : List Char} {mode : EvalMode}
    {w : EvalState μ} {r : Evaluated μ} (h : evalMem ev mem mode w = some r) :
    ∃ r', evalAddress ev mem w = some r' ∧ r.left = r'.left := by
  simp only [evalMem, Option.bind_eq_bind, Option.bind_eq_some_iff] at h
  obtain ⟨r', hr', h⟩ := h
  refine ⟨r', hr', ?_⟩
  cases mode with
  | lvalue =>
    cases h
    rfl
  | rvalue =>
    simp only [Option.bind_eq_some_iff, Option.pure_def, Option.some.injEq] at h
    obtain ⟨_, _, rfl⟩ := h
    rfl

/-- The destination of an assignment. -/
lemma left_evalAssign [Target μ] {ev : Evaluator μ} {dst left : List Char} {val : BitVec 64}
    {w w' : EvalState μ} (hev : ∀ s : List Char, s.length ≤ dst.length → LeavesPrefix ev s)
    (h : evalAssign ev dst val w = some (left, w')) : left <+: dst := by
  simp only [evalAssign] at h
  split at h
  · simp only [Option.bind_eq_bind, Option.bind_eq_some_iff, Option.pure_def, Option.some.injEq,
      Prod.mk.injEq] at h
    obtain ⟨_, _, rfl, _⟩ := h
    exact List.prefix_refl _
  · simp only [Option.bind_eq_bind, Option.bind_eq_some_iff, Option.pure_def, Option.some.injEq,
      Prod.mk.injEq] at h
    obtain ⟨r, hr, _, _, rfl, _⟩ := h
    obtain ⟨r', hr', hleft⟩ := left_evalMem hr
    obtain ⟨_, hp, _⟩ | ⟨_, _, heq⟩ | ⟨_, _, r'', hr'', heq⟩ :=
      left_evalAddress (fun s hs => hev s (Nat.le_of_lt hs)) hr'
    · rw [hleft]
      exact hp
    · rw [hleft, heq]
    · rw [hleft, heq]
      exact hev dst (Nat.le_refl _) w r'' hr''

/-- What a folded operator leaves. -/
lemma Folded.left [Target μ] {ev : Evaluator μ} {expr : List Char}
    {c : EvalState μ → Option (Evaluated μ)} {w : EvalState μ} {r : Evaluated μ}
    (h : Folded ev expr c) (hev : ∀ s : List Char, s.length < expr.length → LeavesPrefix ev s)
    (hr : c w = some r) : r.left <+: expr ∧ r.left ≠ expr := by
  have hboth {op a b : List Char} {f : BitVec 64 → BitVec 64 → Option (BitVec 64)}
      (hs : strstr op expr = some (a, b)) (hop : op ≠ []) (hf : evalBoth ev f a b w = some r) :
      r.left <+: expr ∧ r.left ≠ expr := by
    have hlen := length_of_strstr hs
    have hpos := List.length_pos_iff.mpr hop
    exact prefix_of_strstr hs hop (left_evalBoth (hev a (by omega)) hf)
  obtain h | h | ⟨op, _, h⟩ := h
  · simp only [foldComparisons, matchBinary] at h
    split at h
    · rename_i hs
      cases h
      exact hboth hs (by simp) hr
    · split at h
      · rename_i hs
        cases h
        exact hboth hs (by simp) hr
      · cases h
  · simp only [foldAssign] at h
    split at h
    · cases h
    · rename_i dst p hs
      cases h
      simp only [Option.bind_eq_bind, Option.bind_eq_some_iff, Option.pure_def,
        Option.some.injEq] at hr
      obtain ⟨r₁, _, ⟨left, w'⟩, hassign, rfl⟩ := hr
      have hlen := length_of_strstr hs
      refine prefix_of_strstr hs (by simp) (left_evalAssign (fun s hle => hev s ?_) hassign)
      rw [hlen, List.length_singleton]
      omega
  · simp only [foldBinary] at h
    split at h
    · cases h
    · cases h
    · rename_i hs
      cases h
      exact hboth hs (by simp) hr

/-- A memory expression is left alone unless it has a colon. -/
lemma left_evalMem_iff [Target μ] {mem : List Char} {mode : EvalMode} {w : EvalState μ}
    {r : Evaluated μ}
    (hev : ∀ s : List Char, s.length < mem.length → LeavesPrefix (eval (μ := μ)) s)
    (hself : ¬IsName mem → ':' ∉ mem → ∀ r', eval mem w = some r' → r'.left = mem)
    (h : evalMem eval mem mode w = some r) :
    r.left <+: mem ∧ (r.left = mem ↔ ':' ∉ mem) := by
  obtain ⟨r₁, hr₁, hleft⟩ := left_evalMem h
  rw [hleft]
  obtain ⟨hc, hp, hne⟩ | ⟨hc, _, heq⟩ | ⟨hc, hname, r₂, hr₂, heq⟩ := left_evalAddress hev hr₁
  · exact ⟨hp, iff_of_false hne fun hnot => hnot hc⟩
  · rw [heq]
    exact ⟨List.prefix_refl _, iff_of_true rfl hc⟩
  · rw [heq, hself hname hc r₂ hr₂]
    exact ⟨List.prefix_refl _, iff_of_true rfl hc⟩

/-- Behind an ampersand there is no operator either. -/
lemma NoFold.of_amp {mem : List Char} (h : NoFold ('&' :: mem)) : NoFold mem := by
  refine ⟨fun hmem => h.assign (List.mem_cons_of_mem _ hmem), fun op hop hmem => ?_⟩
  obtain rfl : '&' = op := by simpa using h.operators op hop (List.mem_cons_of_mem _ hmem)
  simp at hop

/-- What a text that folds nothing leaves. -/
lemma left_evalPrimary [Target μ] {expr : List Char} {w : EvalState μ} {r : Evaluated μ}
    (hn : NoFold expr)
    (ih : ∀ s : List Char, s.length < expr.length → ∀ w (r : Evaluated μ), eval s w = some r →
      r.left <+: s ∧ (r.left = s ↔ Intact s))
    (h : evalPrimary eval expr w = some r) :
    r.left <+: expr ∧ (r.left = expr ↔ Intact expr) := by
  have hev : ∀ s : List Char, s.length < expr.length → LeavesPrefix (eval (μ := μ)) s :=
    fun s hs w r hr => (ih s hs w r hr).1
  -- most texts are left alone
  have hsame (hcolon : expr.head? = some '&' ∨ IsName expr → ':' ∉ expr) (hr : r.left = expr) :
      r.left <+: expr ∧ (r.left = expr ↔ Intact expr) := by
    rw [hr]
    exact ⟨List.prefix_refl _, iff_of_true rfl ⟨hn, hcolon⟩⟩
  simp only [evalPrimary] at h
  split at h
  · cases h
    exact hsame (by simp [IsName]) rfl
  · cases h
    exact hsame (by simp [IsName]) rfl
  · refine hsame (by simp [IsName]) ?_
    split at h
    · cases h
      rfl
    · simp only [Option.bind_eq_bind, Option.bind_eq_some_iff, Option.pure_def,
        Option.some.injEq] at h
      obtain ⟨_, _, rfl⟩ := h
      rfl
  · -- an address
    rename_i mem
    simp only [Option.bind_eq_bind, Option.bind_eq_some_iff, Option.pure_def,
      Option.some.injEq] at h
    obtain ⟨r₁, hr₁, rfl⟩ := h
    have hmem : mem.length < ('&' :: mem).length := Nat.lt_succ_self _
    obtain ⟨hp, hiff⟩ := left_evalMem_iff (fun s hs => hev s (Nat.lt_trans hs hmem))
      (fun _ hc r' hr' => (ih mem hmem w r' hr').2.mpr ⟨hn.of_amp, fun _ => hc⟩) hr₁
    rw [List.prefix_cons_inj, List.cons.injEq, hiff]
    refine ⟨hp, fun hc => ⟨hn, fun _ => by simpa using hc.2⟩, fun hi => ⟨rfl, fun hc => ?_⟩⟩
    exact hi.colon (.inl rfl) (List.mem_cons_of_mem _ hc)
  · rename_i hamp
    split at h
    · -- a name
      rename_i hname
      obtain ⟨hp, hiff⟩ := left_evalMem_iff hev (fun hnot => absurd hname hnot) h
      rw [hiff]
      exact ⟨hp, fun hc => ⟨hn, fun _ => hc⟩, fun hi => hi.colon (.inr hname)⟩
    · rename_i hname
      cases h
      refine hsame (fun h => ?_) rfl
      obtain h | h := h
      · obtain ⟨mem, rfl⟩ := List.head?_eq_some_iff.mp h
        exact (hamp mem rfl).elim
      · exact absurd h hname

/-- **What `eval` leaves is a prefix of its text, and all of it exactly when the text is intact.** -/
theorem eval_left [Target μ] {expr : List Char} {w : EvalState μ} {r : Evaluated μ}
    (h : eval expr w = some r) : r.left <+: expr ∧ (r.left = expr ↔ Intact expr) := by
  induction hn : expr.length using Nat.strong_induction_on generalizing expr w r with
  | _ n ih =>
    have ih' : ∀ s : List Char, s.length < expr.length → ∀ w (r : Evaluated μ),
        eval s w = some r → r.left <+: s ∧ (r.left = s ↔ Intact s) :=
      fun s hs w r hr => ih s.length (hn ▸ hs) hr rfl
    rw [eval_eq] at h
    obtain hfold | ⟨hnofold, hbody⟩ := evalBody_cases (eval (μ := μ)) expr
    · obtain ⟨hp, hne⟩ := hfold.left (fun s hs w r hr => (ih' s hs w r hr).1) h
      exact ⟨hp, iff_of_false hne fun hi => hfold.not_noFold hi.toNoFold⟩
    · rw [hbody] at h
      exact left_evalPrimary hnofold ih' h

/-! ## Hits of a conditional breakpoint -/

open Debugger

/-- A call of `breakpoint_hit`. -/
structure Hit (μ : Type) where
  before : Debugger
  /-- What expressions are evaluated in. -/
  state : EvalState μ
  thread : BitVec 64

namespace Hit

variable [Target μ] (n : Slot) (h : Hit μ)

/-- `eval` on the text of a condition. -/
def env : HookEnv where
  eval text := match eval text.toList h.state with
    | some r => (r.val, String.ofList r.left)
    | none => (0, text)
  thread := h.thread

def after : Debugger := h.before.breakpointHit h.env n

omit [Target μ] in
/-- The entry is not for another thread. -/
def Evaluates : Prop :=
  ¬((h.before.breaktab n).threaded ∧ h.before.threadId ≠ (h.before.breaktab n).tid.setWidth 64)

/-- The debugger with the hit noted. -/
def noted : Debugger := { h.before with hits := n :: h.before.hits }

end Hit

/-- What `breakpoint_hit` does when the condition is true. -/
def conditionTrue (n : Slot) (d : Debugger) : Debugger :=
  if (d.breaktab n).ignoreCount ≠ 0 then
    d.modifySlot n fun br => { br with ignoreCount := br.ignoreCount - 1 }
  else { d with monitorOn := !(d.breaktab n).keepRunning }

/-- The breakpoint is hit again and again.  In between anything may change but the condition, and
every evaluation returns. -/
inductive HitRun [Target μ] (n : Slot) : String → List (Hit μ) → Prop
  | nil (text : String) : HitRun n text []
  | cons {text : String} {h : Hit μ} {l : List (Hit μ)} :
    (h.before.breaktab n).conditional = true → (h.before.breaktab n).condition = text →
    (h.Evaluates n → ∃ r, eval text.toList h.state = some r) →
    HitRun n ((h.after n).breaktab n).condition l → HitRun n text (h :: l)

/-- The hit leaves the condition, and goes on as the text says in the state of the hit. -/
structure KeepsCondition [Target μ] (n : Slot) (text : String) (h : Hit μ) : Prop where
  condition : ((h.after n).breaktab n).condition = text
  decision : h.Evaluates n → ∃ r, eval text.toList h.state = some r ∧
    h.after n = if r.val = 0 then h.noted n else conditionTrue n (h.noted n)

section Hits

variable [Target μ] {n : Slot} {text : String} {h : Hit μ}

lemma after_of_not_evaluates (hev : ¬h.Evaluates n) : h.after n = h.noted n := by
  rw [Hit.Evaluates, not_not] at hev
  simp only [Hit.after, breakpointHit, if_pos hev]
  rfl

/-- After a hit that evaluates the condition it is what `eval` has left of it. -/
lemma after_of_evaluates {r : Evaluated μ} (hev : h.Evaluates n)
    (hcond : (h.before.breaktab n).conditional = true)
    (htext : (h.before.breaktab n).condition = text) (hr : eval text.toList h.state = some r) :
    h.after n =
      let d := (h.noted n).modifySlot n fun br => { br with condition := String.ofList r.left }
      if r.val = 0 then d else conditionTrue n d := by
  have heval : h.env.eval (h.before.breaktab n).condition = (r.val, String.ofList r.left) := by
    simp only [Hit.env, htext, hr]
  simp only [Hit.after, breakpointHit, if_neg hev, hcond, heval, if_true, true_and, Hit.noted,
    conditionTrue, modifySlot, Function.update_self]

lemma condition_conditionTrue (n : Slot) (d : Debugger) :
    ((conditionTrue n d).breaktab n).condition = (d.breaktab n).condition := by
  simp only [conditionTrue]
  split
  · simp [modifySlot]
  · rfl

/-- What one hit does. -/
lemma keepsCondition_iff (hcond : (h.before.breaktab n).conditional = true)
    (htext : (h.before.breaktab n).condition = text)
    (hret : h.Evaluates n → ∃ r, eval text.toList h.state = some r) :
    KeepsCondition n text h ↔ (h.Evaluates n → Intact text.toList) := by
  by_cases hev : h.Evaluates n
  · obtain ⟨r, hr⟩ := hret hev
    have hafter := after_of_evaluates hev hcond htext hr
    have hcondition : ((h.after n).breaktab n).condition = String.ofList r.left := by
      rw [hafter]
      simp only
      split
      · simp [modifySlot]
      · rw [condition_conditionTrue]
        simp [modifySlot]
    constructor
    · intro hk _
      have hleft := congrArg String.toList (hcondition.symm.trans hk.condition)
      rw [String.toList_ofList] at hleft
      exact (eval_left hr).2.mp hleft
    · intro hi
      have hleft := (eval_left hr).2.mpr (hi hev)
      rw [hleft, String.ofList_toList] at hafter hcondition
      have hsame : (h.noted n).modifySlot n (fun br => { br with condition := text }) =
          h.noted n := by
        rw [modifySlot, ← htext]
        simp only [Hit.noted, Function.update_eq_self]
      rw [hsame] at hafter
      exact ⟨hcondition, fun _ => ⟨r, hr, hafter⟩⟩
  · refine iff_of_true ⟨?_, fun h => absurd h hev⟩ fun h => absurd h hev
    rw [after_of_not_evaluates hev]
    exact htext

/-- **A breakpoint keeps its condition in a run of hits if and only if the text is intact**, or no
hit of the run comes to evaluate it. -/
theorem condition_kept_iff {l : List (Hit μ)} (hrun : HitRun n text l) :
    (∀ h ∈ l, KeepsCondition n text h) ↔
      (Intact text.toList ∨ ∀ h ∈ l, ¬h.Evaluates n) := by
  induction hrun with
  | nil text => simp
  | @cons text h l hcond htext hret _ ih =>
    have hkeeps := keepsCondition_iff hcond htext hret
    rw [List.forall_mem_cons, List.forall_mem_cons, hkeeps]
    by_cases hi : Intact text.toList
    · have hsame := (hkeeps.mpr fun _ => hi).condition
      rw [hsame] at ih
      exact iff_of_true ⟨fun _ => hi, ih.mpr (.inl hi)⟩ (.inl hi)
    · by_cases hev : h.Evaluates n
      · refine iff_of_false (fun hk => hi (hk.1 hev)) ?_
        rintro (hi' | hne)
        · exact hi hi'
        · exact hne.1 hev
      · have hsame := (hkeeps.mpr fun he => absurd he hev).condition
        rw [hsame] at ih
        simp only [ih, hev, hi, false_implies, false_or, not_false_eq_true, true_and]

end Hits

/-- The register `$x` has the value 3. -/
private def threeInX : EvalState NoTarget :=
  (assignVirtual ['x'] 3 (EvalState.start NoTarget.mk fun _ _ => 0)).getD
    (EvalState.start .mk fun _ _ => 0)

/-- Breakpoint 0 has that condition. -/
private def conditionAt (text : String) : Debugger :=
  init.modifySlot 0 fun br => { br with conditional := true, condition := text }

private def hitAt (text : String) : Hit NoTarget := ⟨conditionAt text, threeInX, 0⟩

theorem condition_kept_iff_intact : KeepsCondition 0 "$x" (hitAt "$x") := by
  have hrun : HitRun 0 "$x" [hitAt "$x", hitAt "$x"] :=
    .cons rfl rfl (fun _ => ⟨_, rfl⟩) (.cons rfl rfl (fun _ => ⟨_, rfl⟩) (.nil _))
  have hops : ∀ op ∈ ['+', '-', '*', '/'], op ∈ "$x".toList → "$x".toList.head? = some op := by
    simp only [List.forall_mem_cons]
    exact ⟨by decide, by decide, by decide, by decide, List.forall_mem_nil _⟩
  exact (condition_kept_iff hrun).mpr (.inl ⟨⟨by decide, hops⟩, by decide⟩) _ List.mem_cons_self

/-- The condition `$x==5` becomes `$x`, which is true when `$x` is 3. -/
theorem condition_lost :
    ¬ ∀ (n : Slot) (text : String) (l : List (Hit NoTarget)), HitRun n text l →
      ∀ h ∈ l, KeepsCondition n text h := by
  intro hall
  have hrun : HitRun 0 "$x==5" [hitAt "$x==5", hitAt "$x"] :=
    .cons rfl rfl (fun _ => ⟨_, rfl⟩) (.cons rfl rfl (fun _ => ⟨_, rfl⟩) (.nil _))
  have hkeeps := (hall 0 "$x==5" _ hrun (hitAt "$x==5") List.mem_cons_self).condition
  revert hkeeps
  decide +kernel

end Exec09
