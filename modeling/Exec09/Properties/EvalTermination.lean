import Exec09.Debugger.EvalInPlace

/-!
# The evaluation of expressions ends

The evaluator in memory does what the one on texts does, and its log shows why it ends.  A call is
measured by twice the length of its string, and one more where the function hands the whole string
to the other one: `eval` hands over what begins with a letter, `eval_mem` what does not.
-/

namespace Exec09.InPlace

open CText CBuffer

variable {μ α β : Type}

/-! ## What is shown of a log -/

/-- A part of a string, where it stands in it. -/
def Str.Within (a whole : Str) : Prop :=
  ∃ pre post, whole.text = pre ++ (a.text ++ post) ∧ a.expr = whole.expr + pre.length

/-- The strings, with their ends, have no character in common. -/
def Str.Disjoint (a b : Str) : Prop :=
  a.expr + a.text.length < b.expr ∨ b.expr + b.text.length < a.expr

namespace Call

def Shorter (c : Call) : Prop := c.callee.text.length < c.caller.text.length

/-- `eval` calls `eval_mem` with its own string, or the other way round. -/
def HandsOver (c : Call) : Prop :=
  c.callee.toStr = c.caller.toStr ∧
    (c.caller.fn = .eval ∧ c.callee.fn ≠ .eval ∨ c.caller.fn ≠ .eval ∧ c.callee.fn = .eval)

/-- A string that begins with a letter is handed over by `eval`, any other by `eval_mem`. -/
structure Sound (c : Call) : Prop where
  within : c.callee.Within c.caller.toStr
  decreases : c.Shorter ∨
    c.HandsOver ∧ (c.caller.fn = .eval ↔ c.caller.text.head?.any Char.isAlpha = true)
  frame : SameOutside c.callee.expr c.callee.text.length c.before c.after

/-- What was handed over is not handed back. -/
lemma Sound.not_back {c d : Call} (hc : c.Sound) (hd : d.Sound) (h : d.caller = c.callee)
    (hover : c.HandsOver) : ¬d.HandsOver := by
  intro hback
  obtain ⟨htext, hfn⟩ := id hover
  have hlen : c.callee.text = c.caller.text := congrArg Str.text htext
  have hlen' : d.callee.text = d.caller.text := congrArg Str.text hback.1
  have hc' := hc.decreases.resolve_left fun hs => by
    rw [Shorter, hlen] at hs
    exact Nat.lt_irrefl _ hs
  have hd' := hd.decreases.resolve_left fun hs => by
    rw [Shorter, hlen'] at hs
    exact Nat.lt_irrefl _ hs
  -- both calls would be made by the same function
  have hsame : c.caller.fn = .eval ↔ c.callee.fn = .eval := by
    rw [hc'.2, ← hlen, ← h, ← hd'.2]
  rcases hfn with ⟨h₁, h₂⟩ | ⟨h₁, h₂⟩
  · exact h₂ (hsame.mp h₁)
  · exact h₁ (hsame.mpr h₂)

end Call

structure Split.Sound (x : Split) : Prop where
  first : x.first.Within x.whole.toStr
  second : x.second.Within x.whole.toStr
  disjoint : x.first.Disjoint x.second

structure State.Sound (s : State μ) : Prop where
  calls : ∀ c ∈ s.calls, c.Sound
  splits : ∀ x ∈ s.splits, x.Sound

/-! ## The measure -/

def rank (a : Activation) : Nat :=
  2 * a.text.length +
    match a.fn with
    | .eval => if a.text.head?.any Char.isAlpha then 1 else 0
    | .evalMem _ => if a.text.head?.any Char.isAlpha then 0 else 1

lemma rank_bounds (a : Activation) :
    2 * a.text.length ≤ rank a ∧ rank a ≤ 2 * a.text.length + 1 := by
  unfold rank
  split <;> split <;> omega

/-- Shorter strings are below, whatever they begin with. -/
lemma rank_lt {a : Activation} {n : Nat} {whole : List Char} (h : a.text.length < whole.length)
    (hn : 2 * whole.length ≤ n) : rank a < n := by
  have hb := (rank_bounds a).2
  omega

/-! ## Runs -/

/-- A run ends as `x` does, with the result `out` shows. -/
def Yields (x : Option β) (out : α → State μ → β) : Except Stop α → State μ → Prop
  | .ok a, t => x = some (out a t)
  | .error .crash, _ => x = none
  | .error .deep, _ => False

/-- The evaluator in memory gives what the evaluator on texts gives. -/
abbrev Agrees (p : Nat) (x : Option (Evaluated μ)) : Except Stop (BitVec 64) → State μ → Prop :=
  Yields x fun v t => ⟨v, stringAt t.chars p, t.world⟩

/-- What stops a step stops the rest. -/
lemma Yields.stop {γ δ : Type} {x : Option γ} {out : α → State μ → γ} {out' : β → State μ → δ}
    {k : γ → Option δ} {e : Stop} {t : State μ} (h : Yields x out (.error e) t) :
    Yields (x.bind k) out' (.error e) t := by
  cases e with
  | crash =>
    have hx : x = none := h
    rw [hx]
    rfl
  | deep => exact h

/-- A run that ends as `Q` says, changes the text of `str` only, and keeps the log sound. -/
structure Runs (str : Str) (s : State μ) (Q : Except Stop α → State μ → Prop)
    (r : Except Stop α × State μ) : Prop where
  outcome : Q r.1 r.2
  frame : SameOutside str.expr str.text.length s.chars r.2.chars
  sound : s.Sound → r.2.Sound

lemma bind_apply (m : EvalM μ α) (k : α → EvalM μ β) (s : State μ) :
    (m >>= k) s = match m s with
      | (.ok a, t) => k a t
      | (.error e, t) => (.error e, t) := by
  change (match m s with
    | (a, t) => ExceptT.bindCont k a t) = _
  rcases m s with ⟨e | a, t⟩ <;> rfl

section Runs

variable {self part : Str} {s : State μ} {Q : Except Stop α → State μ → Prop}
  {Q' : Except Stop β → State μ → Prop}

lemma Str.Within.sameOutside (h : part.Within self) {buf buf' : List Char}
    (hf : SameOutside part.expr part.text.length buf buf') :
    SameOutside self.expr self.text.length buf buf' := by
  obtain ⟨pre, post, htext, hexpr⟩ := h
  refine hf.mono (by omega) ?_
  rw [htext, List.length_append, List.length_append]
  omega

/-- One part of a string after the other. -/
lemma Runs.bind {m : EvalM μ α} {k : α → EvalM μ β} (hm : Runs part s Q (m s))
    (hp : part.Within self)
    (hk : ∀ a t, Q (.ok a) t → SameOutside part.expr part.text.length s.chars t.chars →
      Runs self t Q' (k a t))
    (he : ∀ e t, Q (.error e) t → Q' (.error e) t) : Runs self s Q' ((m >>= k) s) := by
  obtain ⟨hQ, hf, hs⟩ := hm
  rw [bind_apply]
  rcases hr : m s with ⟨e | a, t⟩
  · rw [hr] at hQ hf hs
    exact ⟨he e t hQ, hp.sameOutside hf, hs⟩
  · rw [hr] at hQ hf hs
    have hrest := hk a t hQ hf
    exact ⟨hrest.outcome, (hp.sameOutside hf).trans hrest.frame, fun h => hrest.sound (hs h)⟩

lemma Runs.pure (a : α) (h : Q (.ok a) s) : Runs self s Q ((pure a : EvalM μ α) s) :=
  ⟨h, SameOutside.refl _ _ _, id⟩

lemma Runs.onWorld {f : EvalState μ → Option (α × EvalState μ)}
    (hsome : ∀ a w, f s.world = some (a, w) → Q (.ok a) { s with world := w })
    (hnone : f s.world = none → Q (.error .crash) s) : Runs self s Q (onWorld f s) := by
  unfold InPlace.onWorld
  split
  · rename_i a w h
    exact ⟨hsome a w h, SameOutside.refl _ _ _, fun hs => ⟨hs.calls, hs.splits⟩⟩
  · rename_i h
    exact ⟨hnone h, SameOutside.refl _ _ _, id⟩

/-- A NUL is written into the string. -/
lemma Runs.cut {q : Nat} {r : Except Stop α × State μ} (hlo : self.expr ≤ q)
    (hhi : q < self.expr + self.text.length)
    (h : Runs self { s with chars := terminate s.chars q } Q r) : Runs self s Q r :=
  ⟨h.outcome, ((terminate_sameOutside s.chars q).mono hlo (by omega)).trans h.frame,
    fun hs => h.sound ⟨hs.calls, hs.splits⟩⟩

end Runs

/-! ## Calls -/

variable [Target μ]

/-- The evaluation on texts. -/
def inText : Fn → List Char → EvalState μ → Option (Evaluated μ)
  | .eval, expr => eval expr
  | .evalMem mode, expr => Exec09.evalMem eval expr mode

/-- The calls below `n` are right. -/
def Good (rec : Fn → Nat → EvalM μ (BitVec 64)) (n : Nat) : Prop :=
  ∀ (fn : Fn) (p : Nat) (s : State μ), rank ⟨⟨p, stringAt s.chars p⟩, fn⟩ < n →
    Runs ⟨p, stringAt s.chars p⟩ s (Agrees p (inText fn (stringAt s.chars p) s.world)) (rec fn p s)

section Body

variable {rec : Fn → Nat → EvalM μ (BitVec 64)} {n : Nat} {self : Activation} {s : State μ}
  {op a b : List Char}

lemma call_runs (hrec : Good rec n) (fn : Fn) {p : Nat} {t : List Char}
    (ht : stringAt s.chars p = t) (hn : rank ⟨⟨p, t⟩, fn⟩ < n)
    (hw : Str.Within ⟨p, t⟩ self.toStr)
    (hd : t.length < self.text.length ∨
      (Call.HandsOver ⟨self, ⟨⟨p, t⟩, fn⟩, [], []⟩ ∧
        (self.fn = .eval ↔ self.text.head?.any Char.isAlpha = true))) :
    Runs ⟨p, t⟩ s (Agrees p (inText fn t s.world)) (call rec self fn p s) := by
  subst ht
  obtain ⟨hout, hframe, hsound⟩ := hrec fn p s hn
  refine ⟨?_, hframe, fun hs => ⟨fun c hc => ?_, (hsound hs).splits⟩⟩
  · unfold call
    rcases hr : rec fn p s with ⟨(_ | _) | v, t⟩ <;> rw [hr] at hout <;> exact hout
  · rcases List.mem_cons.mp hc with rfl | hc
    · exact ⟨hw, hd, hframe⟩
    · exact (hsound hs).calls c hc

/-- A string taken apart. -/
structure Halves (str : Str) (op a b : List Char) (s : State μ) : Prop where
  whole : str.text = a ++ (op ++ b)
  op_ne : op ≠ []
  first : stringAt s.chars str.expr = a
  second : stringAt s.chars (str.expr + a.length + op.length) = b

omit [Target μ] in
lemma halves_cut (hs : stringAt s.chars self.expr = self.text) (hop : op ≠ [])
    (h : strstr op self.text = some (a, b)) :
    Halves self.toStr op a b { s with chars := terminate s.chars (self.expr + a.length) } := by
  have hwhole := eq_of_strstr h
  have hpos := List.length_pos_iff.mpr hop
  rw [hwhole] at hs
  have hb : stringAt s.chars (self.expr + a.length + op.length) = b :=
    stringAt_append (stringAt_append hs)
  refine ⟨hwhole, hop, stringAt_terminate hs, ?_⟩
  rw [(terminate_sameOutside s.chars _).stringAt_eq (Or.inr (by omega)), hb]

namespace Halves

omit [Target μ]

variable {whole : Str} (h : Halves whole op a b s)

include h

lemma length_eq : whole.text.length = a.length + op.length + b.length := by
  rw [h.whole, List.length_append, List.length_append]
  omega

lemma pos : 0 < op.length := List.length_pos_iff.mpr h.op_ne

lemma first_within : Str.Within ⟨whole.expr, a⟩ whole := ⟨[], op ++ b, h.whole, rfl⟩

lemma second_within : Str.Within ⟨whole.expr + a.length + op.length, b⟩ whole :=
  ⟨a ++ op, [], by rw [h.whole, List.append_nil, List.append_assoc],
    by rw [List.length_append, ← Nat.add_assoc]⟩

/-- The first half ends in front of the second, also after it is evaluated. -/
lemma first_end {t : State μ} (hf : SameOutside whole.expr a.length s.chars t.chars) :
    whole.expr + (stringAt t.chars whole.expr).length < whole.expr + a.length + op.length := by
  have hend : (stringAt t.chars whole.expr).length ≤ a.length := by
    refine length_stringAt_le fun c hc => stringAt_end h.first c ?_
    rwa [← hf _ (Or.inr (Nat.le_refl _))]
  have hpos := h.pos
  omega

end Halves

omit [Target μ] in
/-- The split is logged. -/
lemma Halves.runs_split (h : Halves self.toStr op a b s)
    {Q : Except Stop α → State μ → Prop} {r : Except Stop α × State μ}
    (hr : Runs self.toStr (split self self.expr (self.expr + a.length + op.length) s).2 Q r) :
    Runs self.toStr s Q r := by
  refine ⟨hr.outcome, hr.frame, fun hs => hr.sound ⟨hs.calls, fun x hx => ?_⟩⟩
  rcases List.mem_cons.mp hx with rfl | hx
  · dsimp only
    rw [h.first, h.second]
    have hpos := h.pos
    refine ⟨h.first_within, h.second_within, Or.inl ?_⟩
    change self.expr + a.length < self.expr + a.length + op.length
    omega
  · exact hs.splits x hx

/-- Both halves, the first one first. -/
lemma evalBoth_runs (hrec : Good rec n) (hn : 2 * self.text.length ≤ n)
    (h : Halves self.toStr op a b s) (f : BitVec 64 → BitVec 64 → Option (BitVec 64)) :
    Runs self.toStr s (Agrees self.expr (Exec09.evalBoth eval f a b s.world))
      (evalBoth rec self f self.expr (self.expr + a.length + op.length) s) := by
  have hlen := h.length_eq
  have hpos := h.pos
  let s₁ := (split self self.expr (self.expr + a.length + op.length) s).2
  refine h.runs_split ?_
  have h₁ : Runs ⟨self.expr, a⟩ s₁ (Agrees self.expr (eval a s.world))
      (call rec self .eval self.expr s₁) :=
    call_runs (s := s₁) hrec .eval h.first (rank_lt (by change a.length < _; omega) hn)
      h.first_within (Or.inl (by omega))
  have heval (v : BitVec 64) (t : State μ)
      (hv : eval a s.world = some ⟨v, stringAt t.chars self.expr, t.world⟩) :
      Exec09.evalBoth eval f a b s.world = (eval b t.world).bind fun r =>
        (f v r.val).bind fun val => some ⟨val, stringAt t.chars self.expr, r.state⟩ := by
    rw [Exec09.evalBoth, hv]
    rfl
  refine h₁.bind h.first_within (fun v₁ t hv₁ hf₁ => ?_) ?_
  · have hb : stringAt t.chars (self.expr + a.length + op.length) = b := by
      rw [hf₁.stringAt_eq (Or.inr (by change self.expr + a.length ≤ _; omega))]
      exact h.second
    have h₂ : Runs ⟨self.expr + a.length + op.length, b⟩ t
        (Agrees (self.expr + a.length + op.length) (eval b t.world))
        (call rec self .eval (self.expr + a.length + op.length) t) :=
      call_runs hrec .eval hb (rank_lt (by change b.length < _; omega) hn) h.second_within
        (Or.inl (by omega))
    refine h₂.bind h.second_within (fun v₂ u hv₂ hf₂ => ?_) ?_
    · have hleft : stringAt u.chars self.expr = stringAt t.chars self.expr :=
        hf₂.stringAt_eq (Or.inl (h.first_end hf₁))
      have hboth : Exec09.evalBoth eval f a b s.world =
          (f v₁ v₂).bind fun val => some ⟨val, stringAt t.chars self.expr, u.world⟩ := by
        rw [heval v₁ t hv₁, show eval b t.world = _ from hv₂]
        rfl
      refine Runs.onWorld (fun val w hw => ?_) fun hw => ?_
      · obtain ⟨val', hval, heq⟩ := Option.map_eq_some_iff.mp hw
        cases heq
        rw [hboth, hval, ← hleft]
        rfl
      · rw [hboth, Option.map_eq_none_iff.mp hw]
        rfl
    · intro e u he
      rw [heval v₁ t hv₁]
      exact he.stop
  · exact fun e t he => he.stop

/-! ## The functions -/

/-- How a function that may return 0 ends: as nothing happened, or with a value. -/
structure Folds (str : Str) (s : State μ) (x : Option (EvalState μ → Option (Evaluated μ)))
    (r : Except Stop (Option (BitVec 64)) × State μ) : Prop where
  skips : x = none → r = (.ok none, s)
  folds : ∀ g, x = some g → ∃ r' : Except Stop (BitVec 64) × State μ,
    r = (r'.1.map some, r'.2) ∧ Runs str s (Agrees str.expr (g s.world)) r'

omit [Target μ] in
lemma Folds.skipped {str : Str} {s : State μ} : Folds str s none (.ok none, s) where
  skips _ := rfl
  folds g hg := by cases hg

omit [Target μ] in
lemma map_some_apply (m : EvalM μ (BitVec 64)) (s : State μ) :
    (some <$> m) s = ((m s).1.map some, (m s).2) := by
  rw [map_eq_pure_bind, bind_apply]
  rcases m s with ⟨e | v, t⟩ <;> rfl

omit [Target μ] in
lemma matchBinary_apply (expr : Nat) (op : List Char) (s : State μ) :
    matchBinary expr op s = match strstr op (stringAt s.chars expr) with
      | none => (.ok none, s)
      | some (first, _) => (.ok (some (expr + first.length + op.length)),
          { s with chars := terminate s.chars (expr + first.length) }) := by
  change (match strstr op (stringAt s.chars expr) with
    | none => (return none : EvalM μ (Option Nat))
    | some (first, _) => do
      cut (expr + first.length)
      return some (expr + first.length + op.length)) s = _
  rcases strstr op (stringAt s.chars expr) with _ | ⟨first, _⟩ <;> rfl

omit [Target μ] in
lemma orElse_runs {x : Option (EvalState μ → Option (Evaluated μ))}
    {y : EvalState μ → Option (Evaluated μ)} {m : EvalM μ (Option (BitVec 64))}
    {next : EvalM μ (BitVec 64)} (hm : Folds self.toStr s x (m s))
    (hnext : Runs self.toStr s (Agrees self.expr (y s.world)) (next s)) :
    Runs self.toStr s (Agrees self.expr (x.getD y s.world)) (orElse m next s) := by
  unfold orElse
  rw [bind_apply]
  cases x with
  | none => rw [hm.skips rfl]; exact hnext
  | some g =>
    obtain ⟨⟨e | v, t⟩, hr, hruns⟩ := hm.folds g rfl <;> rw [hr] <;> exact hruns

omit [Target μ] in
/-- A NUL over the operator, and then the work on the halves. -/
lemma operator_folds (hs : stringAt s.chars self.expr = self.text) (hop : op ≠ [])
    (h : strstr op self.text = some (a, b)) {g : EvalState μ → Option (Evaluated μ)}
    {m : EvalM μ (BitVec 64)} (hm : ∀ t : State μ, Halves self.toStr op a b t →
      Runs self.toStr t (Agrees self.expr (g t.world)) (m t)) :
    Folds self.toStr s (some g)
      ((some <$> m) { s with chars := terminate s.chars (self.expr + a.length) }) := by
  have hhalves := halves_cut hs hop h
  have hlen := hhalves.length_eq
  have hpos := hhalves.pos
  refine ⟨fun h => (Option.some_ne_none g h).elim, fun g hg => ⟨_, map_some_apply _ _, ?_⟩⟩
  cases hg
  exact Runs.cut (Nat.le_add_right _ _) (by omega) (hm _ hhalves)

lemma foldComparisons_folds (hrec : Good rec n) (hn : 2 * self.text.length ≤ n)
    (hs : stringAt s.chars self.expr = self.text) :
    Folds self.toStr s (Exec09.foldComparisons eval self.text) (foldComparisons rec self s) := by
  unfold foldComparisons
  rw [bind_apply, matchBinary_apply, hs]
  simp only [Exec09.foldComparisons, Exec09.matchBinary]
  rcases heq : strstr ['=', '='] self.text with _ | ⟨a, b⟩
  · dsimp only
    rw [bind_apply, matchBinary_apply, hs]
    rcases hne : strstr ['!', '='] self.text with _ | ⟨a, b⟩
    · exact Folds.skipped
    · exact operator_folds hs (by decide) hne fun t ht => evalBoth_runs hrec hn ht _
  · exact operator_folds hs (by decide) heq fun t ht => evalBoth_runs hrec hn ht _

lemma foldBinary_folds (hrec : Good rec n) (hn : 2 * self.text.length ≤ n)
    (hs : stringAt s.chars self.expr = self.text) (op : Char) :
    Folds self.toStr s (Exec09.foldBinary eval self.text op) (foldBinary rec self op s) := by
  unfold foldBinary
  rw [bind_apply]
  simp only [text, hs, Exec09.foldBinary]
  rcases h : strchr op self.text with _ | ⟨_ | ⟨c, a⟩, b⟩
  · exact Folds.skipped
  · exact Folds.skipped
  · exact operator_folds hs (List.cons_ne_nil _ _) h fun t ht => evalBoth_runs hrec hn ht _

omit [Target μ] in
lemma Str.Within.refl (str : Str) : str.Within str := ⟨[], [], by rw [List.append_nil]; rfl, rfl⟩

/-- The whole string goes to the other function. -/
lemma handed_runs (hrec : Good rec n) (hn : rank self ≤ n)
    (hs : stringAt s.chars self.expr = self.text) (fn : Fn)
    (hfn : self.fn = .eval ∧ fn ≠ .eval ∨ self.fn ≠ .eval ∧ fn = .eval)
    (hhead : self.fn = .eval ↔ self.text.head?.any Char.isAlpha = true) :
    Runs self.toStr s (Agrees self.expr (inText fn self.text s.world))
      (call rec self fn self.expr s) := by
  refine call_runs hrec fn hs (Nat.lt_of_lt_of_le ?_ hn) (Str.Within.refl _)
    (Or.inr ⟨⟨rfl, hfn⟩, hhead⟩)
  obtain ⟨str, fn'⟩ := self
  have hlt : 2 * str.text.length + 0 < 2 * str.text.length + 1 := Nat.lt_succ_self _
  rcases hfn with ⟨h, h'⟩ | ⟨h, h'⟩
  · have halpha := hhead.mp h
    cases h
    cases fn with
    | eval => exact absurd rfl h'
    | evalMem mode =>
      change 2 * str.text.length + (if _ then 0 else 1) < 2 * str.text.length + if _ then 1 else 0
      rwa [if_pos halpha, if_pos halpha]
  · have halpha : ¬str.text.head?.any Char.isAlpha = true := fun hc => h (hhead.mpr hc)
    cases h'
    cases fn' with
    | eval => exact absurd rfl h
    | evalMem mode =>
      change 2 * str.text.length + (if _ then 1 else 0) < 2 * str.text.length + if _ then 0 else 1
      rwa [if_neg halpha, if_neg halpha]

lemma evalAddress_runs (hrec : Good rec n) (hn : rank self ≤ n)
    (hs : stringAt s.chars self.expr = self.text) (hfn : self.fn ≠ .eval) :
    Runs self.toStr s (Agrees self.expr (Exec09.evalAddress eval self.text s.world))
      (evalAddress rec self s) := by
  have hlen := (rank_bounds self).1
  unfold evalAddress
  rw [bind_apply]
  simp only [text, hs, Exec09.evalAddress]
  rcases h : strchr ':' self.text with _ | ⟨a, b⟩
  · dsimp only
    split
    · refine Runs.onWorld (fun v w hw => ?_) fun hw => by cases hw
      cases hw
      exact congrArg some (by rw [← hs])
    · rename_i halpha
      have hcall := handed_runs hrec hn hs .eval (Or.inr ⟨hfn, rfl⟩)
        ⟨fun h => absurd h hfn, fun h => absurd h halpha⟩
      refine hcall.bind (Str.Within.refl _) (fun v t hv _ => ?_) fun e t he => he.stop
      have haddr : ((eval self.text s.world).bind fun r =>
          (Target.toAbsolute r.val r.state.target).bind fun addr => some { r with val := addr }) =
            (Target.toAbsolute v t.world.target).bind fun addr =>
              some ⟨addr, stringAt t.chars self.expr, t.world⟩ := by
        rw [show eval self.text s.world = _ from hv]
        rfl
      refine Runs.onWorld (fun addr w hw => ?_) fun hw => haddr.trans ?_
      · obtain ⟨addr', hto, heq⟩ := Option.map_eq_some_iff.mp hw
        cases heq
        exact haddr.trans (by rw [hto]; rfl)
      · rw [Option.map_eq_none_iff.mp hw]
        rfl
  · have hhalves := halves_cut hs (List.cons_ne_nil _ _) h
    have hlen' := hhalves.length_eq
    have hpos := hhalves.pos
    exact Runs.cut (Nat.le_add_right _ _) (by omega)
      (evalBoth_runs hrec (Nat.le_trans hlen hn) hhalves _)

lemma evalMem_runs (hrec : Good rec n) (hn : rank self ≤ n)
    (hs : stringAt s.chars self.expr = self.text) (hfn : self.fn ≠ .eval) (mode : EvalMode) :
    Runs self.toStr s (Agrees self.expr (Exec09.evalMem eval self.text mode s.world))
      (evalMem rec self mode s) := by
  refine (evalAddress_runs hrec hn hs hfn).bind (Str.Within.refl _) (fun v t hv _ => ?_)
    fun e t he => he.stop
  have haddr : Exec09.evalAddress eval self.text s.world =
      some ⟨v, stringAt t.chars self.expr, t.world⟩ := hv
  cases mode with
  | lvalue =>
    refine Runs.pure v ?_
    rw [Exec09.evalMem, haddr]
    rfl
  | rvalue =>
    have hmem : Exec09.evalMem eval self.text .rvalue s.world =
        (targetRead1 v t.world).bind fun r => some ⟨r.1, stringAt t.chars self.expr, r.2⟩ := by
      rw [Exec09.evalMem, haddr]
      rfl
    refine Runs.onWorld (fun val w hw => ?_) fun hw => hmem.trans ?_
    · exact hmem.trans (by simp only [hw, Option.bind_some])
    · simp only [hw, Option.bind_none]

/-- `eval_assign` works on the half in front of the `=`. -/
lemma evalAssign_runs (hrec : Good rec n) (hn : 2 * self.text.length ≤ n)
    (hs : stringAt s.chars self.expr = a) (hw : Str.Within ⟨self.expr, a⟩ self.toStr)
    (ha : a.length < self.text.length) (val : BitVec 64) :
    Runs ⟨self.expr, a⟩ s
      (Yields (Exec09.evalAssign eval a val s.world) fun () t =>
        (stringAt t.chars self.expr, t.world))
      (evalAssign rec self self.expr val s) := by
  unfold evalAssign
  rw [bind_apply]
  simp only [text, hs]
  by_cases hname : ∃ name, a = '$' :: name
  · obtain ⟨name, rfl⟩ := hname
    have hpure : Exec09.evalAssign eval ('$' :: name) val s.world =
        (assignVirtual name val s.world).bind fun w => some ('$' :: name, w) := rfl
    refine Runs.onWorld (fun _ w hw' => ?_) fun hw' => ?_
    · obtain ⟨w', hassign, heq⟩ := Option.map_eq_some_iff.mp hw'
      cases heq
      rw [hpure, hassign, ← hs]
      rfl
    · rw [hpure, Option.map_eq_none_iff.mp hw']
      rfl
  · split
    · exact absurd ⟨_, rfl⟩ hname
    have hcall := call_runs hrec (.evalMem .lvalue) hs (rank_lt ha hn) hw (Or.inl ha)
    have hpure : Exec09.evalAssign eval a val s.world =
        (Exec09.evalMem eval a .lvalue s.world).bind fun r =>
          (Target.absWrite8 r.val (val.setWidth 8) r.state.target).bind fun target =>
            some (r.left, { r.state with target := target }) := by
      unfold Exec09.evalAssign
      split
      · exact absurd ⟨_, rfl⟩ hname
      · rfl
    rw [hpure]
    refine hcall.bind (Str.Within.refl _) (fun dst t hdst _ => ?_) fun e t he => he.stop
    have hmem : Exec09.evalMem eval a .lvalue s.world =
      some ⟨dst, stringAt t.chars self.expr, t.world⟩ := hdst
    rw [hmem, Option.bind_some]
    refine Runs.onWorld (fun _ w hw' => ?_) fun hw' => ?_
    · obtain ⟨w', hwrite, heq⟩ := Option.map_eq_some_iff.mp hw'
      cases heq
      rw [hwrite]
      rfl
    · rw [Option.map_eq_none_iff.mp hw']
      rfl

/-- The half behind the `=`, and then the other one. -/
lemma assign_runs (hrec : Good rec n) (hn : 2 * self.text.length ≤ n)
    (h : Halves self.toStr ['='] a b s) :
    Runs self.toStr s (Agrees self.expr ((eval b s.world).bind fun r =>
        (Exec09.evalAssign eval a r.val r.state).bind fun q => some ⟨r.val, q.1, q.2⟩))
      (assign rec self (self.expr + a.length + 1) s) := by
  have hlen := h.length_eq
  have hpos := h.pos
  let s₁ := (split self self.expr (self.expr + a.length + 1) s).2
  refine h.runs_split ?_
  have h₁ : Runs ⟨self.expr + a.length + 1, b⟩ s₁
      (Agrees (self.expr + a.length + 1) (eval b s.world))
      (call rec self .eval (self.expr + a.length + 1) s₁) :=
    call_runs (s := s₁) hrec .eval h.second (rank_lt (by change b.length < _; omega) hn)
      h.second_within (Or.inl (by omega))
  refine h₁.bind h.second_within (fun val t hval hf => ?_) fun e t he => he.stop
  have ha : stringAt t.chars self.expr = a := by
    have hend := h.first_end (SameOutside.refl _ _ _)
    rw [hf.stringAt_eq (Or.inl hend)]
    exact h.first
  have h₂ := evalAssign_runs hrec hn ha h.first_within (by omega) val
  rw [show eval b s.world = _ from hval]
  refine h₂.bind h.first_within (fun _ u hassign _ => ?_) fun e u he => he.stop
  refine Runs.pure val ?_
  rw [Option.bind_some, show Exec09.evalAssign eval a val t.world = _ from hassign]
  rfl

lemma foldAssign_folds (hrec : Good rec n) (hn : 2 * self.text.length ≤ n)
    (hs : stringAt s.chars self.expr = self.text) :
    Folds self.toStr s (Exec09.foldAssign eval self.text) (foldAssign rec self s) := by
  unfold foldAssign
  rw [bind_apply]
  simp only [text, hs, Exec09.foldAssign]
  rcases h : strchr '=' self.text with _ | ⟨a, b⟩
  · exact Folds.skipped
  · change Folds self.toStr s _ ((some <$> assign rec self (self.expr + a.length + 1))
      { s with chars := terminate s.chars (self.expr + a.length) })
    refine operator_folds hs (List.cons_ne_nil _ _) h fun t ht => ?_
    exact assign_runs hrec hn ht

omit [Target μ] in
/-- A value that needs the globals only. -/
lemma runs_value {str : Str} {t : List Char} (hs : stringAt s.chars str.expr = t)
    (g : EvalState μ → BitVec 64) :
    Runs str s (Agrees str.expr (some ⟨g s.world, t, s.world⟩))
      (onWorld (fun w => some (g w, w)) s) := by
  refine Runs.onWorld (fun v w hw => ?_) fun hw => by cases hw
  cases hw
  rw [← hs]
  rfl

lemma evalPrimary_runs (hrec : Good rec n) (hn : rank self ≤ n)
    (hs : stringAt s.chars self.expr = self.text) (hfn : self.fn = .eval) :
    Runs self.toStr s (Agrees self.expr (Exec09.evalPrimary eval self.text s.world))
      (evalPrimary rec self self.text s) := by
  have hlen := (rank_bounds self).1
  unfold Exec09.evalPrimary
  split
  · rename_i heq
    rw [heq, evalPrimary]
    exact runs_value (hs.trans heq) _
  · rename_i heq
    rw [heq, evalPrimary]
    exact runs_value (hs.trans heq) _
  · rename_i name h₁ h₂ heq
    rw [heq, evalPrimary]
    · by_cases hd : name.head?.any Char.isDigit = true
      · rw [if_pos hd, if_pos hd]
        exact runs_value (hs.trans heq) _
      · rw [if_neg hd, if_neg hd]
        refine Runs.onWorld (fun v w hw => ?_) fun hw => ?_
        · rw [hw, ← heq, ← hs]
          rfl
        · rw [hw]
          rfl
    · exact h₁
    · exact h₂
  · rename_i mem heq
    rw [show evalPrimary rec self self.text = call rec self (.evalMem .lvalue) (self.expr + 1) by
      rw [heq, evalPrimary]]
    obtain ⟨hamp, hne, hmem⟩ := of_stringAt_cons (hs.trans heq)
    have hw : Str.Within ⟨self.expr + 1, mem⟩ self.toStr :=
      ⟨['&'], [], by rw [heq, List.append_nil]; rfl, rfl⟩
    have hlt : mem.length < self.text.length := by
      rw [heq]
      exact Nat.lt_succ_self _
    have hcall := call_runs hrec (.evalMem .lvalue) hmem (rank_lt hlt (Nat.le_trans hlen hn)) hw
      (Or.inl hlt)
    rcases hr : call rec self (.evalMem .lvalue) (self.expr + 1) s with ⟨e | v, t⟩
    · rw [hr] at hcall
      exact ⟨hcall.outcome.stop, hw.sameOutside hcall.frame, hcall.sound⟩
    · rw [hr] at hcall
      refine ⟨?_, hw.sameOutside hcall.frame, hcall.sound⟩
      have hval : Exec09.evalMem eval mem .lvalue s.world =
        some ⟨v, stringAt t.chars (self.expr + 1), t.world⟩ := hcall.outcome
      have hamp' : t.chars[self.expr]? = some '&' :=
        (hcall.frame _ (Or.inl (Nat.lt_succ_self _))).trans hamp
      change (Exec09.evalMem eval mem .lvalue s.world).bind _ =
        some (⟨v, stringAt t.chars self.expr, t.world⟩ : Evaluated μ)
      rw [hval, stringAt_cons hamp' hne]
      rfl
  · rename_i h₁ h₂ h₃ h₄
    rw [evalPrimary]
    · by_cases halpha : self.text.head?.any Char.isAlpha = true
      · rw [if_pos halpha, if_pos halpha]
        exact handed_runs hrec hn hs (.evalMem .rvalue) (Or.inl ⟨hfn, Fn.noConfusion⟩)
          ⟨fun _ => halpha, fun _ => hfn⟩
      · rw [if_neg halpha, if_neg halpha]
        exact runs_value hs fun _ => strtoul 0 self.text
    · exact h₁
    · exact h₂
    · exact h₃
    · exact h₄

omit [Target μ] in
lemma getD_orElse {γ : Type} (x y : Option γ) (z : γ) : (x <|> y).getD z = x.getD (y.getD z) := by
  cases x <;> rfl

/-- The body of `eval`, one operator after the other. -/
lemma evalBody_runs (hrec : Good rec n) (hn : rank self ≤ n)
    (hs : stringAt s.chars self.expr = self.text) (hfn : self.fn = .eval) :
    Runs self.toStr s (Agrees self.expr (eval self.text s.world)) (evalBody rec self s) := by
  have hlen : 2 * self.text.length ≤ n := Nat.le_trans (rank_bounds self).1 hn
  have hbody : eval (μ := μ) self.text = (Exec09.foldComparisons eval self.text).getD
      ((Exec09.foldAssign eval self.text).getD
        ((Exec09.foldBinary eval self.text '+').getD
          ((Exec09.foldBinary eval self.text '-').getD
            ((Exec09.foldBinary eval self.text '*').getD
              ((Exec09.foldBinary eval self.text '/').getD
                (Exec09.evalPrimary eval self.text)))))) := by
    rw [eval_eq, Exec09.evalBody]
    simp only [getD_orElse]
  rw [hbody]
  unfold evalBody
  refine orElse_runs (foldComparisons_folds hrec hlen hs) ?_
  refine orElse_runs (foldAssign_folds hrec hlen hs) ?_
  refine orElse_runs (foldBinary_folds hrec hlen hs '+') ?_
  refine orElse_runs (foldBinary_folds hrec hlen hs '-') ?_
  refine orElse_runs (foldBinary_folds hrec hlen hs '*') ?_
  refine orElse_runs (foldBinary_folds hrec hlen hs '/') ?_
  rw [bind_apply]
  simp only [text, hs]
  exact evalPrimary_runs hrec hn hs hfn

lemma body_runs (hrec : Good rec n) (fn : Fn) (p : Nat)
    (hn : rank ⟨⟨p, stringAt s.chars p⟩, fn⟩ ≤ n) :
    Runs ⟨p, stringAt s.chars p⟩ s (Agrees p (inText fn (stringAt s.chars p) s.world))
      (body rec fn p s) := by
  unfold body
  rw [bind_apply]
  simp only [text]
  cases fn with
  | eval => exact evalBody_runs hrec hn rfl rfl
  | evalMem mode => exact evalMem_runs hrec hn rfl Fn.noConfusion mode

end Body

/-- A depth above the rank is enough. -/
lemma run_good (n : Nat) : Good (μ := μ) (run n) n := by
  induction n with
  | zero => exact fun _ _ _ h => absurd h (Nat.not_lt_zero _)
  | succ n ih => exact fun fn p s h => body_runs ih fn p (Nat.le_of_lt_succ h)

/-! ## The bound on the depth -/

/-- Where the first program does not reach its bound the second does the same. -/
def Upto (m m' : EvalM μ α) : Prop := ∀ s, (m s).1 ≠ .error .deep → m' s = m s

omit [Target μ] in
lemma Upto.refl (m : EvalM μ α) : Upto m m := fun _ _ => rfl

omit [Target μ] in
lemma Upto.bind {m m' : EvalM μ α} {k k' : α → EvalM μ β} (hm : Upto m m')
    (hk : ∀ a, Upto (k a) (k' a)) : Upto (m >>= k) (m' >>= k') := by
  intro s hs
  rw [bind_apply] at hs
  rw [bind_apply, bind_apply]
  rcases hr : m s with ⟨e | a, t⟩
  · rw [hr] at hs
    have hdeep : (m s).1 ≠ .error .deep := by
      rw [hr]
      exact fun he => hs (by cases he; rfl)
    rw [hm s hdeep, hr]
  · rw [hr] at hs
    rw [hm s (by rw [hr]; exact fun he => by cases he), hr]
    exact hk a t hs

omit [Target μ] in
lemma Upto.map {m m' : EvalM μ α} (h : Upto m m') (f : α → β) : Upto (f <$> m) (f <$> m') := by
  rw [map_eq_pure_bind, map_eq_pure_bind]
  exact h.bind fun _ => refl _

omit [Target μ] in
lemma Upto.orElse {m m' : EvalM μ (Option (BitVec 64))} {next next' : EvalM μ (BitVec 64)}
    (hm : Upto m m') (hnext : Upto next next') : Upto (orElse m next) (orElse m' next') := by
  refine hm.bind fun v => ?_
  cases v with
  | none => exact hnext
  | some v => exact refl _

section Upto

variable {rec rec' : Fn → Nat → EvalM μ (BitVec 64)} (h : ∀ fn p, Upto (rec fn p) (rec' fn p))
  (self : Activation)

include h

omit [Target μ] in
lemma call_upto (fn : Fn) (p : Nat) : Upto (call rec self fn p) (call rec' self fn p) := by
  intro s hs
  unfold call
  rw [h fn p s hs]

omit [Target μ] in
lemma evalBoth_upto (f : BitVec 64 → BitVec 64 → Option (BitVec 64)) (first second : Nat) :
    Upto (evalBoth rec self f first second) (evalBoth rec' self f first second) :=
  (Upto.refl _).bind fun _ => (call_upto h self _ _).bind fun _ =>
    (call_upto h self _ _).bind fun _ => Upto.refl _

omit [Target μ] in
lemma foldComparisons_upto : Upto (foldComparisons rec self) (foldComparisons rec' self) := by
  refine (Upto.refl _).bind fun p => ?_
  cases p with
  | some p => exact (evalBoth_upto h self _ _ _).map some
  | none =>
    refine (Upto.refl _).bind fun p => ?_
    cases p with
    | some p => exact (evalBoth_upto h self _ _ _).map some
    | none => exact Upto.refl _

omit [Target μ] in
lemma foldBinary_upto (op : Char) : Upto (foldBinary rec self op) (foldBinary rec' self op) := by
  refine (Upto.refl _).bind fun t => ?_
  split
  · exact Upto.refl _
  · exact Upto.refl _
  · exact (Upto.refl _).bind fun _ => (evalBoth_upto h self _ _ _).map some

lemma evalMem_upto (mode : EvalMode) : Upto (evalMem rec self mode) (evalMem rec' self mode) := by
  refine Upto.bind ?_ fun _ => Upto.refl _
  refine (Upto.refl _).bind fun t => ?_
  split
  · exact (Upto.refl _).bind fun _ => evalBoth_upto h self _ _ _
  · split
    · exact Upto.refl _
    · exact (call_upto h self _ _).bind fun _ => Upto.refl _

lemma foldAssign_upto : Upto (foldAssign rec self) (foldAssign rec' self) := by
  refine (Upto.refl _).bind fun t => ?_
  split
  · exact Upto.refl _
  · refine (Upto.refl _).bind fun _ => Upto.map ?_ some
    refine (Upto.refl _).bind fun _ => (call_upto h self _ _).bind fun val => ?_
    refine Upto.bind ?_ fun _ => Upto.refl _
    refine (Upto.refl _).bind fun t => ?_
    split
    · exact Upto.refl _
    · exact (call_upto h self _ _).bind fun _ => Upto.refl _

lemma evalPrimary_upto (expr : List Char) :
    Upto (evalPrimary rec self expr) (evalPrimary rec' self expr) := by
  unfold evalPrimary
  split
  · exact Upto.refl _
  · exact Upto.refl _
  · exact Upto.refl _
  · exact call_upto h self _ _
  · split
    · exact call_upto h self _ _
    · exact Upto.refl _

lemma body_upto (fn : Fn) (p : Nat) : Upto (body rec fn p) (body rec' fn p) := by
  refine (Upto.refl _).bind fun t => ?_
  cases fn with
  | eval =>
    refine (foldComparisons_upto h _).orElse <| (foldAssign_upto h _).orElse <|
      (foldBinary_upto h _ _).orElse <| (foldBinary_upto h _ _).orElse <|
      (foldBinary_upto h _ _).orElse <| (foldBinary_upto h _ _).orElse ?_
    exact (Upto.refl _).bind fun t => evalPrimary_upto h _ t
  | evalMem mode => exact evalMem_upto h _ mode

end Upto

lemma run_upto (n : Nat) (fn : Fn) (p : Nat) : Upto (μ := μ) (run n fn p) (run (n + 1) fn p) := by
  induction n generalizing fn p with
  | zero => exact fun s hs => absurd rfl hs
  | succ n ih => exact body_upto ih fn p

/-- A run that does not reach its bound is the same with a larger one. -/
lemma run_add {n : Nat} {fn : Fn} {p : Nat} {s : State μ}
    (h : (run n fn p s).1 ≠ .error .deep) (d : Nat) : run (n + d) fn p s = run n fn p s := by
  induction d with
  | zero => rfl
  | succ d ih =>
    rw [← Nat.add_assoc, run_upto (n + d) fn p s (by rwa [ih]), ih]

/-! ## The result -/

/-- As an evaluation starts. -/
def start (chars : List Char) (world : EvalState μ) : State μ := ⟨chars, world, [], []⟩

/-- **The evaluation of every string ends**, within a depth of twice its length and two; what it
gives is what the evaluation on texts gives.  Each call is for a shorter part of its caller's
string, or the whole string goes from one function to the other, which does not hand it back.  The
halves of an expression do not meet, and a call changes no string but its own. -/
theorem eval_terminates (chars : List Char) (world : EvalState μ) (fn : Fn) (expr : Nat) :
    let text := stringAt chars expr
    let r := run (2 * text.length + 2) fn expr (start chars world)
    (r.1 ≠ .error .deep ∧
      ∀ d, run (2 * text.length + 2 + d) fn expr (start chars world) = r) ∧
    Agrees expr (inText fn text world) r.1 r.2 ∧
    (∀ c ∈ r.2.calls, c.callee.Within c.caller.toStr ∧ (c.Shorter ∨ c.HandsOver)) ∧
    (∀ c ∈ r.2.calls, ∀ d ∈ r.2.calls, d.caller = c.callee → c.HandsOver → ¬d.HandsOver) ∧
    (∀ x ∈ r.2.splits, x.first.Within x.whole.toStr ∧ x.second.Within x.whole.toStr ∧
      x.first.Disjoint x.second) ∧
    ∀ c ∈ r.2.calls, ∀ p, c.callee.Disjoint ⟨p, stringAt c.before p⟩ →
      stringAt c.after p = stringAt c.before p := by
  intro text r
  have hrank : rank ⟨⟨expr, text⟩, fn⟩ < 2 * text.length + 2 := by
    have hb := (rank_bounds ⟨⟨expr, text⟩, fn⟩).2
    change rank _ ≤ 2 * text.length + 1 at hb
    omega
  have hrun := run_good _ fn expr (start chars world) hrank
  have hsound : r.2.Sound := hrun.sound ⟨List.forall_mem_nil _, List.forall_mem_nil _⟩
  have hdeep : r.1 ≠ .error .deep := fun hr => by
    have hout : Agrees expr (inText fn text world) r.1 r.2 := hrun.outcome
    rw [hr] at hout
    exact hout
  refine ⟨⟨hdeep, run_add hdeep⟩, hrun.outcome, fun c hc => ?_, fun c hc d hd => ?_,
    fun x hx => ?_, fun c hc p hp => ?_⟩
  · have h := hsound.calls c hc
    exact ⟨h.within, h.decreases.imp_right And.left⟩
  · exact (hsound.calls c hc).not_back (hsound.calls d hd)
  · have h := hsound.splits x hx
    exact ⟨h.first, h.second, h.disjoint⟩
  · refine (hsound.calls c hc).frame.stringAt_eq ?_
    exact hp.symm.imp_right Nat.le_of_lt

end Exec09.InPlace
