import Exec09.Debugger.Eval
import Exec09.Framework.Precedence
import Mathlib.Data.List.TakeWhile

/-!
# The value of an expression

`eval` takes a text apart at its first `+`, then at `-`, `*` and `/`, and evaluates both parts.  On
sums and products of numerals this computes the readings of `Precedence`: it is the usual reading
when no `-` directly follows another one and when in each product only the first operator is `/`, and
for every other arrangement of the operators there are numerals for which it is not.
-/

namespace Exec09

open CText Precedence

/-! ## Expressions -/

/-- Operands with operators between them. -/
structure Row (α : Type) where
  first : α
  rest : List (Op × α)

def Row.map {α β : Type} (f : α → β) (r : Row α) : Row β :=
  ⟨f r.first, r.rest.map fun p => (p.1, f p.2)⟩

/-- A product: the operators are `*` and `/`. -/
abbrev Term := Row Numeral

/-- A sum: the operators are `+` and `-`. -/
abbrev Expr := Row Term

def mulSymbol : Op → Char
  | .outer => '*'
  | .inner => '/'

def addSymbol : Op → Char
  | .outer => '+'
  | .inner => '-'

/-- `*` and `/` in `unsigned long`. -/
def products : Level (BitVec 64) where
  unit := 1
  outer := (· * ·)
  inner a b := if b = 0 then none else some (a / b)
  outer_unit := BitVec.mul_one
  inner_unit a := by simp
  outer_assoc := BitVec.mul_assoc

/-- `+` and `-` in `unsigned long`. -/
def sums : Level (BitVec 64) where
  unit := 0
  outer := (· + ·)
  inner a b := some (a - b)
  outer_unit := BitVec.add_zero
  inner_unit a := by simp
  outer_assoc := BitVec.add_assoc

namespace Row

def termText (t : Term) : List Char := rowText mulSymbol Numeral.text t.first t.rest

def text (e : Expr) : List Char := rowText addSymbol termText e.first e.rest

/-- The value of a product, from the left. -/
def termValue (t : Term) : Option (BitVec 64) :=
  products.leftValue (some t.first.value) (t.rest.map fun p => (p.1, some p.2.value))

/-- **The value of an expression by the usual rules**; `none` when a divisor is zero. -/
def value (e : Expr) : Option (BitVec 64) :=
  sums.leftValue e.first.termValue (e.rest.map fun p => (p.1, p.2.termValue))

/-- What `eval` computes. -/
def termCode (t : Term) : Option (BitVec 64) :=
  products.readValue (some t.first.value) (t.rest.map fun p => (p.1, some p.2.value))

def code (e : Expr) : Option (BitVec 64) :=
  sums.readValue e.first.termCode (e.rest.map fun p => (p.1, p.2.termCode))

end Row

/-! ## Evaluation of the texts -/

section Texts

variable {μ : Type} [Target μ] (w : EvalState μ)

/-- The value `eval` returns. -/
def evalValue (s : List Char) : Option (BitVec 64) := (eval s w).map Evaluated.val

/-- Evaluation changes nothing but the text. -/
def Quiet (s : List Char) : Prop := ∀ r, eval s w = some r → r.state = w

variable {w}

lemma evalValue_of_evalBoth {s a b : List Char} {f : BitVec 64 → BitVec 64 → Option (BitVec 64)}
    (hs : eval (μ := μ) s = evalBoth eval f a b) (ha : Quiet w a) (hb : Quiet w b) :
    Quiet w s ∧ evalValue w s = (evalValue w a).bind fun x => (evalValue w b).bind (f x) := by
  rw [Quiet, evalValue, hs]
  cases hra : eval a w with
  | none => simp [evalBoth, hra, evalValue]
  | some r₁ =>
    have hstate := ha r₁ hra
    cases hrb : eval b w with
    | none => simp [evalBoth, hra, hrb, hstate, evalValue]
    | some r₂ =>
      have hstate' := hb r₂ hrb
      cases hf : f r₁.val r₂.val with
      | none => simp [evalBoth, hra, hrb, hstate, hf, evalValue]
      | some v => simp [evalBoth, hra, hrb, hstate, hstate', hf, evalValue]

/-- The first operator of a kind, when there is none of an earlier kind. -/
lemma eval_binary {a b : List Char} {op : Char} (ha : a ≠ []) (hop : op ∉ a)
    (hassign : '=' ∉ a ++ op :: b) (hkind : op ∈ ['+', '-', '*', '/'])
    (hfirst : ∀ c ∈ ['+', '-', '*', '/'].takeWhile (· ≠ op), c ∉ a ++ op :: b) :
    eval (μ := μ) (a ++ op :: b) = evalBoth eval (binary op) a b := by
  obtain ⟨c, a', rfl⟩ := List.exists_cons_of_ne_nil ha
  have hfold : foldBinary (eval (μ := μ)) (c :: a' ++ op :: b) op =
      some (evalBoth eval (binary op) (c :: a') b) := by
    simp only [foldBinary, strchr_append hop]
  have hnone (d : Char) (hd : d ∉ c :: a' ++ op :: b) :
      foldBinary (eval (μ := μ)) (c :: a' ++ op :: b) d = none :=
    (foldBinary_eq_none_iff eval _ d).mpr fun h => absurd h hd
  rw [eval_eq, evalBody, foldComparisons_eq_none eval hassign,
    (foldAssign_eq_none_iff eval _).mpr hassign]
  simp only [List.mem_cons, List.not_mem_nil, or_false] at hkind
  obtain rfl | rfl | rfl | rfl := hkind
  · rw [hfold]
    rfl
  · rw [hfold, hnone '+' (hfirst _ (by decide))]
    rfl
  · rw [hfold, hnone '+' (hfirst _ (by decide)), hnone '-' (hfirst _ (by decide))]
    rfl
  · rw [hfold, hnone '+' (hfirst _ (by decide)), hnone '-' (hfirst _ (by decide)),
      hnone '*' (hfirst _ (by decide))]
    rfl

/-- Texts without some characters, whose evaluation is quiet. -/
structure PlainText (w : EvalState μ) (bad : List Char) (s : List Char) : Prop where
  chars : ∀ c ∈ bad, c ∉ s
  quiet : Quiet w s

lemma plain_binary {bad a b : List Char} {op : Char} (hbad : op ∉ bad) (hassign : '=' ∈ bad)
    (hkind : op ∈ ['+', '-', '*', '/']) (ha : a ≠ []) (hop : op ∉ a)
    (hfirst : ∀ c ∈ ['+', '-', '*', '/'].takeWhile (· ≠ op), c ∈ bad ∨ c ∉ a ∧ c ∉ b)
    (hpa : PlainText w bad a) (hpb : PlainText w bad b) :
    PlainText w bad (a ++ op :: b) ∧ evalValue w (a ++ op :: b) =
      (evalValue w a).bind fun x => (evalValue w b).bind (binary op x) := by
  have hchars : ∀ c ∈ bad, c ∉ a ++ op :: b := fun c hc hmem => by
    obtain hmem | hmem := List.mem_append.mp hmem
    · exact hpa.chars c hc hmem
    · obtain rfl | hmem := List.mem_cons.mp hmem
      · exact hbad hc
      · exact hpb.chars c hc hmem
  have hsplit : eval (μ := μ) (a ++ op :: b) = evalBoth eval (binary op) a b := by
    refine eval_binary ha hop (hchars _ hassign) hkind fun c hc hmem => ?_
    obtain hc' | ⟨hca, hcb⟩ := hfirst c hc
    · exact hchars c hc' hmem
    · obtain hmem | hmem := List.mem_append.mp hmem
      · exact hca hmem
      · obtain rfl | hmem := List.mem_cons.mp hmem
        · simpa using List.mem_takeWhile_imp hc
        · exact hcb hmem
  obtain ⟨hquiet, hval⟩ := evalValue_of_evalBoth hsplit hpa.quiet hpb.quiet
  exact ⟨⟨hchars, hquiet⟩, hval⟩

/-- A numeral evaluates to its value. -/
lemma eval_numeral (n : Numeral) (w : EvalState μ) : eval n.text w = some ⟨n.value, n.text, w⟩ := by
  obtain ⟨c, cs, htext, hdigit, halpha⟩ := n.exists_text
  have hnone (d : Char) (hd : d ∈ ['+', '-', '*', '/', '=', '!', ':']) :
      foldBinary (eval (μ := μ)) n.text d = none :=
    (foldBinary_eq_none_iff eval _ d).mpr fun h => absurd h (n.notMem_text hd)
  have hassign : '=' ∉ n.text := n.notMem_text (by decide)
  rw [eval_eq, evalBody, foldComparisons_eq_none eval hassign,
    (foldAssign_eq_none_iff eval _).mpr hassign, hnone '+' (by decide), hnone '-' (by decide),
    hnone '*' (by decide), hnone '/' (by decide)]
  change evalPrimary eval n.text w = _
  have hchar (d : Char) (hd : d ∈ ['$', '&']) : c ≠ d := by
    rintro rfl
    refine (digitVal_char hdigit).2 ?_
    revert hd
    simp only [List.mem_cons, List.not_mem_nil]
    tauto
  have hstrtoul := n.strtoul_text
  rw [htext] at hstrtoul ⊢
  unfold evalPrimary
  split
  · rename_i heq
    exact absurd (List.cons.inj heq).1 (hchar '$' (by decide))
  · rename_i heq
    exact absurd (List.cons.inj heq).1 (hchar '$' (by decide))
  · rename_i heq
    exact absurd (List.cons.inj heq).1 (hchar '$' (by decide))
  · rename_i heq
    exact absurd (List.cons.inj heq).1 (hchar '&' (by decide))
  · rw [hstrtoul, if_neg (by simp [halpha])]

lemma operand_numeral (w : EvalState μ) (n : Numeral) :
    Operand mulSymbol (PlainText w ['=', '!', '+', '-']) n.text where
  nonempty h := by
    obtain ⟨c, cs, htext, _⟩ := n.exists_text
    rw [htext] at h
    cases h
  operators op := by
    cases op
    · exact n.notMem_text (by decide)
    · exact n.notMem_text (by decide)
  good := by
    refine ⟨fun c hc => n.notMem_text ?_, fun r hr => ?_⟩
    · simp only [List.mem_cons, List.not_mem_nil, or_false] at hc ⊢
      tauto
    · rw [eval_numeral] at hr
      cases hr
      rfl

lemma splits_products (w : EvalState μ) :
    Splits products mulSymbol (PlainText w ['=', '!', '+', '-']) (evalValue w) where
  outer a b hne hop ha hb := by
    refine plain_binary (by decide) (by decide) (by decide) hne hop (fun c hc => .inl ?_) ha hb
    have hc' : c ∈ ['+', '-'] := hc
    simp only [List.mem_cons, List.not_mem_nil, or_false] at hc' ⊢
    tauto
  inner a b hne hop ha' hb' ha hb := by
    refine plain_binary (by decide) (by decide) (by decide) hne hop (fun c hc => ?_) ha hb
    have hc' : c ∈ ['+', '-', '*'] := hc
    by_cases hmul : c = '*'
    · rw [hmul]
      exact .inr ⟨ha', hb'⟩
    · refine .inl ?_
      simp only [List.mem_cons, List.not_mem_nil, or_false] at hc' ⊢
      tauto

lemma splits_sums (w : EvalState μ) :
    Splits sums addSymbol (PlainText w ['=', '!']) (evalValue w) where
  outer a b hne hop ha hb :=
    plain_binary (by decide) (by decide) (by decide) hne hop (fun c hc => by cases hc) ha hb
  inner a b hne hop ha' hb' ha hb := by
    refine plain_binary (by decide) (by decide) (by decide) hne hop (fun c hc => ?_) ha hb
    have hc' : c ∈ ['+'] := hc
    rw [List.mem_singleton.mp hc']
    exact .inr ⟨ha', hb'⟩

/-- A product evaluates to the other reading. -/
lemma operand_term (w : EvalState μ) (t : Term) :
    Operand addSymbol (PlainText w ['=', '!']) t.termText ∧
      evalValue w t.termText = t.termCode := by
  obtain ⟨hgood, hval⟩ :=
    split_text (splits_products w) (by decide) (operand_numeral w) t.first t.rest
  refine ⟨⟨?_, fun op => ?_, fun c hc => hgood.chars c ?_, hgood.quiet⟩, ?_⟩
  · intro h
    exact (operand_numeral w t.first).nonempty (List.append_eq_nil_iff.mp h).1
  · cases op
    · exact hgood.chars _ (by decide)
    · exact hgood.chars _ (by decide)
  · exact List.mem_append_left ['+', '-'] hc
  · have hnumeral (n : Numeral) : evalValue w n.text = some n.value := by
      rw [evalValue, eval_numeral, Option.map_some]
    rw [Row.termText, hval]
    simp only [hnumeral]
    rfl

/-- **An expression evaluates to the other reading**, in every state. -/
theorem evalValue_text (w : EvalState μ) (e : Expr) :
    PlainText w ['=', '!'] e.text ∧ evalValue w e.text = e.code := by
  obtain ⟨hgood, hval⟩ :=
    split_text (splits_sums w) (by decide) (fun t => (operand_term w t).1) e.first e.rest
  refine ⟨hgood, ?_⟩
  rw [Row.text, hval]
  simp only [(operand_term w _).2]
  rfl

/-- The comparisons. -/
lemma evalValue_eq (w : EvalState μ) (e e' : Expr) :
    evalValue w (e.text ++ ('=' :: '=' :: e'.text)) =
      e.code.bind fun x => e'.code.bind fun y => some (if x = y then 1 else 0) := by
  obtain ⟨hplain, hval⟩ := evalValue_text w e
  obtain ⟨hplain', hval'⟩ := evalValue_text w e'
  have hfind : strstr ['=', '='] (e.text ++ ('=' :: '=' :: e'.text)) = some (e.text, e'.text) :=
    strstr_append rfl (hplain.chars '=' (by decide))
  have hs : eval (μ := μ) (e.text ++ ('=' :: '=' :: e'.text)) =
      evalBoth eval (fun x y => some (if x = y then 1 else 0)) e.text e'.text := by
    rw [eval_eq, evalBody]
    simp only [foldComparisons, matchBinary, hfind]
    rfl
  rw [(evalValue_of_evalBoth hs hplain.quiet hplain'.quiet).2, hval, hval']

lemma evalValue_ne (w : EvalState μ) (e e' : Expr) :
    evalValue w (e.text ++ ('!' :: '=' :: e'.text)) =
      e.code.bind fun x => e'.code.bind fun y => some (if x = y then 0 else 1) := by
  obtain ⟨hplain, hval⟩ := evalValue_text w e
  obtain ⟨hplain', hval'⟩ := evalValue_text w e'
  have hnot : strstr ['=', '='] (e.text ++ ('!' :: '=' :: e'.text)) = none := by
    rw [Option.eq_none_iff_forall_ne_some]
    rintro ⟨a, b⟩ h
    -- there is only one equals sign
    have hcount := congrArg (List.count '=') (eq_of_strstr h)
    simp [List.count_append, List.count_eq_zero_of_not_mem (hplain.chars '=' (by decide)),
      List.count_eq_zero_of_not_mem (hplain'.chars '=' (by decide))] at hcount
    omega
  have hfind : strstr ['!', '='] (e.text ++ ('!' :: '=' :: e'.text)) = some (e.text, e'.text) :=
    strstr_append rfl (hplain.chars '!' (by decide))
  have hs : eval (μ := μ) (e.text ++ ('!' :: '=' :: e'.text)) =
      evalBoth eval (fun x y => some (if x ≠ y then 1 else 0)) e.text e'.text := by
    rw [eval_eq, evalBody]
    simp only [foldComparisons, matchBinary, hnot, hfind]
    rfl
  rw [(evalValue_of_evalBoth hs hplain.quiet hplain'.quiet).2, hval, hval']
  simp only [ne_eq, ite_not]

end Texts

/-! ## Arrangements of operators -/

/-- Operators without numerals. -/
abbrev Shape := Row (Row Unit)

def Row.shape (e : Expr) : Shape := e.map (Row.map fun _ => ())

/-- In a product only the first operator is `/`. -/
def DivisionFirst {α : Type} (t : Row α) : Prop := ∀ p ∈ t.rest.tail, p.1 = .outer

/-- The arrangements that are read as usual. -/
structure AsUsual {α : Type} (s : Row (Row α)) : Prop where
  sums : Level.NoInnerPair s.rest
  first : DivisionFirst s.first
  rest : ∀ p ∈ s.rest, DivisionFirst p.2

lemma termCode_of_divisionFirst {t : Term} (h : DivisionFirst t) : t.termCode = t.termValue := by
  refine products.readValue_of_tail _ fun p hp => ?_
  rw [← List.map_tail, List.mem_map] at hp
  obtain ⟨q, hq, rfl⟩ := hp
  exact h q hq

/-- In a sum a common first operand can be taken out. -/
lemma sums_group (a b c : BitVec 64) :
    sums.inner (sums.outer a b) c = (sums.inner b c).map (sums.outer a) := by
  simp only [sums, Option.map_some, BitVec.sub_eq_add_neg, BitVec.add_assoc]

lemma code_of_asUsual {e : Expr} (h : AsUsual e) : e.code = e.value := by
  have hterms : e.rest.map (fun p => (p.1, p.2.termCode)) =
      e.rest.map fun p => (p.1, p.2.termValue) :=
    List.map_congr_left fun p hp => by rw [termCode_of_divisionFirst (h.rest p hp)]
  rw [Row.code, hterms, termCode_of_divisionFirst h.first]
  exact sums.readValue_of_isChain sums_group _ (h.sums.congr (by simp [Function.comp_def]))

/-! ## Numerals for the other arrangements -/

def withOne (p : Op × Unit) : Op × Numeral := (p.1, .small 1)

/-- Numerals for a product: this one in front, and ones. -/
def pad (a : Numeral) (t : Row Unit) : Term := ⟨a, t.rest.map withOne⟩

def withZero (p : Op × Row Unit) : Op × Term := (p.1, pad (.small 0) p.2)

/-- Numerals for a sum: such products, and zeros. -/
def padSum (a : Numeral) (s : Shape) : Expr := ⟨pad a s.first, s.rest.map withZero⟩

@[simp] lemma map_pad (a : Numeral) (t : Row Unit) : (pad a t).map (fun _ => ()) = t := by
  simp [pad, withOne, Row.map, Function.comp_def]

lemma map_withOne (rest : List (Op × Unit)) :
    (rest.map withOne).map (fun p => (p.1, some p.2.value)) = products.units rest := by
  rw [List.map_map]
  rfl

@[simp] lemma termValue_pad (a : Numeral) (t : Row Unit) : (pad a t).termValue = some a.value := by
  rw [Row.termValue, pad, map_withOne, Level.leftValue_units]

@[simp] lemma termCode_pad (a : Numeral) (t : Row Unit) : (pad a t).termCode = some a.value := by
  rw [Row.termCode, pad, map_withOne, Level.readValue_units]

lemma shape_padSum (a : Numeral) (s : Shape) : (padSum a s).shape = s := by
  rw [Row.shape, Row.map]
  simp [padSum, withZero, Function.comp_def]

lemma map_withZero {f : Term → Option (BitVec 64)} (hf : ∀ t, f (pad (.small 0) t) = some 0)
    (rest : List (Op × Row Unit)) :
    (rest.map withZero).map (fun p => (p.1, f p.2)) = sums.units rest := by
  rw [List.map_map]
  simp only [withZero, Function.comp_def, hf]
  rfl

/-- **Numerals with which every arrangement is read as usual.** -/
lemma value_padSum (a : Numeral) (s : Shape) :
    (padSum a s).value = some a.value ∧ (padSum a s).code = some a.value := by
  constructor
  · rw [Row.value, padSum, map_withZero (fun t => by simp), Level.leftValue_units, termValue_pad]
  · rw [Row.code, padSum, map_withZero (fun t => by simp), Level.readValue_units, termCode_pad]

/-! ### A division that is not the first operator of its product -/

/-- Nothing can make a product of this again. -/
def Dead (x : Option (BitVec 64)) : Prop := x = none ∨ x = some 0

lemma Dead.mul {x y : Option (BitVec 64)} (h : Dead x ∨ Dead y) :
    Dead (products.apply .outer x y) := by
  obtain (rfl | rfl) | (rfl | rfl) := h
  · exact .inl rfl
  · cases y with
    | none => exact .inl rfl
    | some b => exact .inr (by simp [products])
  · exact .inl (by simp)
  · cases x with
    | none => exact .inl rfl
    | some a => exact .inr (by simp [products])

lemma Dead.div {y : Option (BitVec 64)} (h : Dead y) (x : Option (BitVec 64)) :
    products.apply .inner x y = none := by
  obtain rfl | rfl := h
  · simp
  · cases x with
    | none => rfl
    | some a => simp [products]

/-- A dead part makes the whole dead. -/
lemma dead_split_cons {y : Option (BitVec 64)} {rest : List (Op × Option (BitVec 64))}
    (h : Dead (products.split y rest).1 ∨ Dead (products.split y rest).2)
    (x : Option (BitVec 64)) (op : Op) :
    Dead (products.split x ((op, y) :: rest)).1 ∨
      Dead (products.split x ((op, y) :: rest)).2 := by
  cases op with
  | outer => exact .inr (Dead.mul h)
  | inner =>
    obtain h | h := h
    · exact .inl (.inl (h.div x))
    · exact .inr h

/-- One divided by two. -/
lemma dead_split_units {γ : Type} (pre post : List (Op × γ)) :
    Dead (products.split (some 1) (products.units pre ++ (.inner, some 2) ::
        products.units post)).1 ∨
      Dead (products.split (some 1) (products.units pre ++ (.inner, some 2) ::
        products.units post)).2 := by
  induction pre with
  | nil =>
    refine .inl (.inr ?_)
    change products.apply .inner (some 1) (products.split (some 2) (products.units post)).1 = some 0
    rw [Level.split_units]
    decide
  | cons p pre ih => exact dead_split_cons ih _ _

lemma exists_bad_term {t : Row Unit} (h : ¬DivisionFirst t) :
    ∃ b : Term, b.map (fun _ => ()) = t ∧ b.termValue = some 1 ∧ Dead b.termCode := by
  obtain ⟨⟨⟩, rest⟩ := t
  simp only [DivisionFirst, not_forall] at h
  obtain ⟨⟨op, ⟨⟩⟩, hmem, hop⟩ := h
  obtain rfl : op = .inner := by
    cases op
    · exact absurd rfl hop
    · rfl
  obtain ⟨q, tail, rfl⟩ : ∃ q tail, rest = q :: tail := by
    cases rest with
    | nil => cases hmem
    | cons q tail => exact ⟨q, tail, rfl⟩
  obtain ⟨pre, post, htail⟩ := List.append_of_mem hmem
  obtain rfl : tail = pre ++ (.inner, ()) :: post := htail
  have hvalues : ((q :: pre).map withOne ++ (.inner, .small 2) :: post.map withOne).map
      (fun p => (p.1, some p.2.value)) =
      products.units (q :: pre) ++ (.inner, some 2) :: products.units post := by
    rw [List.map_append, map_withOne, List.map_cons, map_withOne]
    rfl
  refine ⟨⟨.small 2, (q :: pre).map withOne ++ (.inner, .small 2) :: post.map withOne⟩, ?_, ?_, ?_⟩
  · simp [Row.map, withOne, Function.comp_def]
  · rw [Row.termValue, hvalues, Level.leftValue_units_cons]
    change products.apply .inner (some (Numeral.small 2).value) (some 2) = some 1
    decide
  · rw [Row.termCode, hvalues]
    exact Dead.mul (dead_split_cons (dead_split_units pre post) _ _)

/-! ### Two subtractions in sequence -/

lemma exists_inner_pair {γ : Type} {rest : List (Op × γ)} (h : ¬Level.NoInnerPair rest) :
    ∃ pre y z post, rest = pre ++ (.inner, y) :: (.inner, z) :: post ∧
      (pre = [] ∨ ∃ pre' u, pre = pre' ++ [(.outer, u)]) := by
  induction rest with
  | nil => exact absurd List.IsChain.nil h
  | cons p rest ih =>
    cases rest with
    | nil => exact absurd (List.isChain_singleton p) h
    | cons q rest =>
      obtain ⟨op, y⟩ := p
      by_cases hpair : op = .inner ∧ q.1 = .inner
      · obtain ⟨rfl, hq⟩ := hpair
        obtain ⟨op, z⟩ := q
        obtain rfl : op = .inner := hq
        exact ⟨[], y, z, rest, rfl, .inl rfl⟩
      · have hrest : ¬Level.NoInnerPair (q :: rest) := fun hc =>
          h (List.isChain_cons_cons.mpr ⟨hpair, hc⟩)
        obtain ⟨pre, y', z, post, heq, hpre⟩ := ih hrest
        refine ⟨(op, y) :: pre, y', z, post, by rw [heq]; rfl, .inr ?_⟩
        obtain rfl | ⟨pre', u, rfl⟩ := hpre
        · refine ⟨[], y, ?_⟩
          cases op with
          | outer => rfl
          | inner =>
            obtain ⟨rfl, _⟩ := List.cons.inj heq
            exact absurd ⟨rfl, rfl⟩ hpair
        · exact ⟨(op, y) :: pre', u, rfl⟩

lemma exists_bad_sum {s : Shape} (h : ¬Level.NoInnerPair s.rest) :
    ∃ e : Expr, e.shape = s ∧ e.value = some (-1) ∧ e.code = some 1 := by
  obtain ⟨first, rest⟩ := s
  obtain ⟨pre, y, z, post, hrest, hpre⟩ := exists_inner_pair h
  obtain rfl : rest = pre ++ (.inner, y) :: (.inner, z) :: post := hrest
  have hvalues {f : Term → Option (BitVec 64)} (hf : ∀ a t, f (pad a t) = some a.value) :
      (pre.map withZero ++ (.inner, pad (.small 0) y) :: (.inner, pad (.small 1) z) ::
        post.map withZero).map (fun p => (p.1, f p.2)) =
      sums.units pre ++ (.inner, some 0) :: (.inner, some 1) :: sums.units post := by
    have hzero : ∀ t, f (pad (.small 0) t) = some 0 := hf _
    rw [List.map_append, map_withZero hzero, List.map_cons, List.map_cons, map_withZero hzero]
    simp only [hf]
    rfl
  refine ⟨⟨pad (.small 0) first, pre.map withZero ++ (.inner, pad (.small 0) y) ::
    (.inner, pad (.small 1) z) :: post.map withZero⟩, ?_, ?_, ?_⟩
  · rw [Row.shape, Row.map]
    simp [withZero, Function.comp_def]
  · rw [Row.value, hvalues termValue_pad, Level.leftValue_append, Level.leftValue_units,
      termValue_pad]
    change sums.leftValue (some (-1)) (sums.units post) = some (-1)
    rw [Level.leftValue_units]
  · have hpair : sums.readValue (some 0) ((.inner, some 0) :: (.inner, some 1) :: sums.units post) =
        some 1 := by
      simp only [Level.readValue, Level.split, Level.split_units]
      decide
    rw [Row.code, hvalues termCode_pad, termCode_pad]
    obtain rfl | ⟨pre', u, rfl⟩ := hpre
    · exact hpair
    · rw [Level.units, List.map_append, List.append_assoc]
      exact (sums.readValue_units_outer (some 0) BitVec.zero_add pre' _).trans hpair

/-! ### Any other arrangement -/

/-- Such a product among zeros. -/
lemma exists_bad_operand {s : Shape} (hsums : Level.NoInnerPair s.rest) {p : Op × Row Unit}
    (hp : p ∈ s.rest) (hbad : ¬DivisionFirst p.2) :
    ∃ e : Expr, e.shape = s ∧ (e.value = some 1 ∨ e.value = some (-1)) ∧ Dead e.code := by
  obtain ⟨first, rest⟩ := s
  obtain ⟨op, t⟩ := p
  obtain ⟨b, hb, hvalue, hcode⟩ := exists_bad_term hbad
  obtain ⟨pre, post, hrest⟩ := List.append_of_mem hp
  obtain rfl : rest = pre ++ (op, t) :: post := hrest
  have hvalues {f : Term → Option (BitVec 64)} (hf : ∀ a t, f (pad a t) = some a.value) :
      (pre.map withZero ++ (op, b) :: post.map withZero).map (fun p => (p.1, f p.2)) =
        sums.units pre ++ (op, f b) :: sums.units post := by
    rw [List.map_append, map_withZero (hf _), List.map_cons, map_withZero (hf _)]
  have hshape : Row.shape ⟨pad (.small 0) first, pre.map withZero ++ (op, b) :: post.map withZero⟩ =
      ⟨first, pre ++ (op, t) :: post⟩ := by
    rw [Row.shape, Row.map]
    simp [withZero, Function.comp_def, hb]
  refine ⟨_, hshape, ?_, ?_⟩
  · rw [Row.value, hvalues termValue_pad, Level.leftValue_units_cons, hvalue, termValue_pad]
    cases op
    · exact .inl (by decide)
    · exact .inr (by decide)
  · have hchain : Level.NoInnerPair (sums.units pre ++ (op, b.termCode) :: sums.units post) :=
      hsums.congr (by simp [Level.units, Function.comp_def])
    rw [Row.code, hvalues termCode_pad, sums.readValue_of_isChain sums_group _ hchain,
      Level.leftValue_units_cons, termCode_pad]
    obtain h | h := hcode
    · rw [h]
      exact .inl (by simp)
    · rw [h]
      cases op
      · exact .inr (by decide)
      · exact .inr (by decide)

/-- **Every other arrangement is read in another way** with some numerals; the usual value is not
`c`, and `eval` gives `c` or crashes. -/
lemma exists_bad {s : Shape} (h : ¬AsUsual s) :
    ∃ e : Expr, e.shape = s ∧ ∃ v, e.value = some v ∧
      ∃ c : Fin 2, BitVec.ofNat 64 c ≠ v ∧ (e.code = none ∨ e.code = some (BitVec.ofNat 64 c)) := by
  by_cases hsums : Level.NoInnerPair s.rest
  · by_cases hfirst : DivisionFirst s.first
    · have hrest : ∃ p ∈ s.rest, ¬DivisionFirst p.2 := by
        by_contra hno
        push Not at hno
        exact h ⟨hsums, hfirst, hno⟩
      obtain ⟨p, hp, hbad⟩ := hrest
      obtain ⟨e, hshape, hvalue, hcode⟩ := exists_bad_operand hsums hp hbad
      obtain hvalue | hvalue := hvalue
      · exact ⟨e, hshape, 1, hvalue, 0, by decide, hcode⟩
      · exact ⟨e, hshape, -1, hvalue, 0, by decide, hcode⟩
    · obtain ⟨b, hb, hvalue, hcode⟩ := exists_bad_term hfirst
      refine ⟨⟨b, s.rest.map withZero⟩, ?_, 1, ?_, 0, by decide, ?_⟩
      · rw [Row.shape, Row.map, hb]
        simp [withZero, Function.comp_def]
      · rw [Row.value, map_withZero (fun t => by simp), Level.leftValue_units, hvalue]
      · rw [Row.code, map_withZero (fun t => by simp), Level.readValue_units]
        exact hcode
  · obtain ⟨e, hshape, hvalue, hcode⟩ := exists_bad_sum hsums
    exact ⟨e, hshape, -1, hvalue, 1, by decide, .inr hcode⟩

/-! ## The usual rules -/

section Usual

variable {μ : Type} [Target μ] (w : EvalState μ)

/-- Expressions with these operators are evaluated as usual. -/
def EvalsAsUsual (s : Shape) : Prop :=
  ∀ e : Expr, e.shape = s → ∀ v, e.value = some v → evalValue w e.text = some v

/-- And compared. -/
def ComparesAsUsual (s s' : Shape) : Prop :=
  ∀ e e' : Expr, e.shape = s → e'.shape = s' → ∀ v v', e.value = some v → e'.value = some v' →
    evalValue w (e.text ++ ('=' :: '=' :: e'.text)) = some (if v = v' then 1 else 0) ∧
      evalValue w (e.text ++ ('!' :: '=' :: e'.text)) = some (if v = v' then 0 else 1)

variable {w}

lemma asUsual_shape {e : Expr} (h : AsUsual e.shape) : AsUsual e := by
  have hterm {t : Term} (ht : DivisionFirst (t.map fun _ => ())) : DivisionFirst t := by
    intro p hp
    refine ht (p.1, ()) ?_
    rw [Row.map, ← List.map_tail]
    exact List.mem_map_of_mem hp
  refine ⟨h.sums.congr ?_, hterm h.first, fun p hp => hterm (h.rest (p.1, p.2.map fun _ => ()) ?_)⟩
  · simp [Row.shape, Row.map, Function.comp_def]
  · exact List.mem_map_of_mem hp

lemma evalsAsUsual_iff (s : Shape) : EvalsAsUsual w s ↔ AsUsual s := by
  constructor
  · intro h
    by_contra hbad
    obtain ⟨e, rfl, v, hv, c, hne, hcode⟩ := exists_bad hbad
    have heval := h e rfl v hv
    rw [(evalValue_text w e).2] at heval
    obtain hcode | hcode := hcode
    · rw [hcode] at heval
      cases heval
    · rw [hcode] at heval
      exact hne (Option.some.inj heval)
  · rintro h e rfl v hv
    rw [(evalValue_text w e).2, code_of_asUsual (asUsual_shape h), hv]

/-- An operand that compares as it should not. -/
lemma comparesAsUsual_iff (s s' : Shape) : ComparesAsUsual w s s' ↔ AsUsual s ∧ AsUsual s' := by
  constructor
  · intro h
    constructor
    · by_contra hbad
      obtain ⟨e, rfl, v, hv, c, hne, hcode⟩ := exists_bad hbad
      obtain ⟨hval, hcode'⟩ := value_padSum (.small (c.castLE (by decide))) s'
      have heval := (h e _ rfl (shape_padSum _ s') v _ hv hval).1
      rw [evalValue_eq, hcode'] at heval
      obtain hcode | hcode := hcode
      · rw [hcode] at heval
        cases heval
      · rw [hcode] at heval
        simp [Ne.symm hne] at heval
    · by_contra hbad
      obtain ⟨e, rfl, v, hv, c, hne, hcode⟩ := exists_bad hbad
      obtain ⟨hval, hcode'⟩ := value_padSum (.small (c.castLE (by decide))) s
      have heval := (h _ e (shape_padSum _ s) rfl _ v hval hv).1
      rw [evalValue_eq, hcode'] at heval
      obtain hcode | hcode := hcode
      · rw [hcode] at heval
        cases heval
      · rw [hcode] at heval
        simp [hne] at heval
  · rintro ⟨hs, hs'⟩ e e' rfl rfl v v' hv hv'
    rw [evalValue_eq, evalValue_ne, code_of_asUsual (asUsual_shape hs),
      code_of_asUsual (asUsual_shape hs'), hv, hv']
    exact ⟨rfl, rfl⟩

/-- **`eval` follows the usual rules exactly for the arrangements without a `-` directly behind
another one in which, in each product, only the first operator is `/`.** -/
theorem eval_as_usual_iff (w : EvalState μ) :
    (∀ s, EvalsAsUsual w s ↔ AsUsual s) ∧
      ∀ s s', ComparesAsUsual w s s' ↔ AsUsual s ∧ AsUsual s' :=
  ⟨evalsAsUsual_iff, comparesAsUsual_iff⟩

end Usual

/-- `8-4-2`. -/
private def eightFourTwo : Expr :=
  ⟨⟨.small 8, []⟩, [(.inner, ⟨.small 4, []⟩), (.inner, ⟨.small 2, []⟩)]⟩

example : eightFourTwo.text = "8-4-2".toList := by decide

/-- `8-4-2` is 2, and `eval` gives 6. -/
theorem eval_not_as_usual :
    ¬ ∀ (w : EvalState NoTarget) (e : Expr) (v : BitVec 64), e.value = some v →
      evalValue w e.text = some v := by
  intro h
  have heval := h (.start .mk fun _ _ => 0) eightFourTwo 2 (by decide)
  rw [(evalValue_text _ eightFourTwo).2] at heval
  revert heval
  decide

end Exec09
