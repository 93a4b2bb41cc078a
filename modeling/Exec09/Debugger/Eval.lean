import Exec09.Debugger.Symtab
import Exec09.Framework.CText
import Mathlib.Data.List.TakeWhile

/-!
# The expressions of the debugger

`eval` of `command.c` and what it calls.  The text of an expression is taken apart in place: a NUL
is written over every operator that is found.  So a call has two results, the value and what is then
left of the text, the string in front of the first NUL.

A character stands for a byte.  `none` is a crash: a division by zero, or an access of the machine
that does not return.
-/

namespace Exec09

open CText

abbrev MAX_HISTORY : Nat := 10

/-- What expressions reach of the machine. -/
class Target (μ : Type) where
  toAbsolute : BitVec 64 → μ → Option (BitVec 64)
  absRead8 : BitVec 64 → μ → Option (U8 × μ)
  absWrite8 : BitVec 64 → U8 → μ → Option μ
  /-- A call of the `virtual_handler_t` at an address: what it leaves at its pointer. -/
  virtualHandler : BitVec 64 → BitVec 64 → Bool → μ → Option (BitVec 64 × μ)

/-- The globals that expressions use, with the machine. -/
structure EvalState (μ : Type) where
  symbols : Symbols
  historytab : Nat → BitVec 64
  historyCount : Unsigned
  threadCurrent : BitVec 64
  target : μ
  /-- What `malloc` leaves in a string space. -/
  garbage : Nat → Nat → U8

/-- As the program starts. -/
def EvalState.start {μ : Type} (target : μ) (garbage : Nat → Nat → U8) : EvalState μ where
  symbols := Symbols.symInit garbage
  historytab _ := 0
  historyCount := 0
  threadCurrent := 0
  target := target
  garbage := garbage

/-- A target without memory. -/
inductive NoTarget
  | mk

instance : Target NoTarget where
  toAbsolute _ _ := none
  absRead8 _ _ := none
  absWrite8 _ _ _ := none
  virtualHandler _ _ _ _ := none

/-- `eval_mode_t`. -/
inductive EvalMode
  | lvalue | rvalue
  deriving DecidableEq, Repr

/-- What a call returns, and what is left of its text. -/
structure Evaluated (μ : Type) where
  val : BitVec 64
  left : List Char
  state : EvalState μ

variable {μ : Type}

/-- Calls of `eval`. -/
abbrev Evaluator (μ : Type) := List Char → EvalState μ → Option (Evaluated μ)

/-- The bytes of a text. -/
def cString (cs : List Char) : CString where
  bytes := (cs.map fun c => BitVec.ofNat 8 c.toNat).takeWhile (· ≠ 0)
  noNul h := by
    have hne := List.mem_takeWhile_imp h
    simp at hne

/-! ## Binary operators

The functions below call `eval` for the parts of a text; they take it as a parameter. -/

variable (ev : Evaluator μ)

/-- `match_binary`. -/
def matchBinary (expr op : List Char) : Option (List Char × List Char) := strstr op expr

/-- A binary operator: the first operand, the second, and then the operation. -/
def evalBoth (f : BitVec 64 → BitVec 64 → Option (BitVec 64)) (first second : List Char)
    (w : EvalState μ) : Option (Evaluated μ) := do
  let r₁ ← ev first w
  let r₂ ← ev second r₁.state
  let val ← f r₁.val r₂.val
  return ⟨val, r₁.left, r₂.state⟩

/-- `fold_comparisons`; `none` when it returns 0. -/
def foldComparisons (expr : List Char) : Option (EvalState μ → Option (Evaluated μ)) :=
  match matchBinary expr ['=', '='] with
  | some (first, second) =>
    some (evalBoth ev (fun a b => some (if a = b then 1 else 0)) first second)
  | none =>
    match matchBinary expr ['!', '='] with
    | some (first, second) =>
      some (evalBoth ev (fun a b => some (if a ≠ b then 1 else 0)) first second)
    | none => none

/-- The `switch` of `fold_binary`. -/
def binary (op : Char) (val₁ val₂ : BitVec 64) : Option (BitVec 64) :=
  match op with
  | '+' => some (val₁ + val₂)
  | '-' => some (val₁ - val₂)
  | '*' => some (val₁ * val₂)
  | _ => if val₂ = 0 then none else some (val₁ / val₂)

/-- `fold_binary`; `none` when it returns 0. -/
def foldBinary (expr : List Char) (op : Char) : Option (EvalState μ → Option (Evaluated μ)) :=
  match strchr op expr with
  | none => none
  -- the first character is a unary operator
  | some ([], _) => none
  | some (first, second) => some (evalBoth ev (binary op) first second)

lemma foldBinary_eq_none_iff (expr : List Char) (op : Char) :
    foldBinary ev expr op = none ↔ (op ∈ expr → expr.head? = some op) := by
  cases hs : strchr op expr with
  | none => simp [foldBinary, hs, strchr_eq_none_iff.mp hs]
  | some q =>
    obtain ⟨a, b⟩ := q
    have hexpr := eq_of_strchr hs
    cases a with
    | nil =>
      simp only [foldBinary, hs]
      exact iff_of_true trivial fun _ => by rw [hexpr]; rfl
    | cons c a =>
      have hc : c ≠ op := by
        rintro rfl
        rw [hexpr, List.cons_append, strchr_cons] at hs
        simp at hs
      simp only [foldBinary, hs]
      refine iff_of_false nofun fun hhead => hc ?_
      rw [hexpr] at hhead
      simpa using hhead (by simp)

lemma foldComparisons_eq_none {expr : List Char} (h : '=' ∉ expr) :
    foldComparisons ev expr = none := by
  have heq : strstr ['=', '='] expr = none := strstr_eq_none List.mem_cons_self h
  have hne : strstr ['!', '='] expr = none :=
    strstr_eq_none (List.mem_cons_of_mem _ List.mem_cons_self) h
  simp only [foldComparisons, matchBinary, heq, hne]

/-- The evaluators agree on the texts shorter than this one. -/
def SameBelow (ev ev' : Evaluator μ) (expr : List Char) : Prop :=
  ∀ s : List Char, s.length < expr.length → ev s = ev' s

section SameBelow

variable {ev} {ev' : Evaluator μ} {expr : List Char}

lemma length_of_strstr {op a b : List Char} (h : strstr op expr = some (a, b)) :
    expr.length = a.length + op.length + b.length := by
  rw [eq_of_strstr h, List.length_append, List.length_append]
  omega

/-- Both sides of an operator are shorter. -/
lemma SameBelow.evalBoth_eq (h : SameBelow ev ev' expr) {op a b : List Char}
    (hs : strstr op expr = some (a, b)) (hop : op ≠ [])
    (f : BitVec 64 → BitVec 64 → Option (BitVec 64)) : evalBoth ev f a b = evalBoth ev' f a b := by
  have hlen := length_of_strstr hs
  have hpos := List.length_pos_iff.mpr hop
  funext w
  rw [evalBoth, evalBoth, h a (by omega), h b (by omega)]

lemma SameBelow.foldComparisons_eq (h : SameBelow ev ev' expr) :
    foldComparisons ev expr = foldComparisons ev' expr := by
  simp only [foldComparisons]
  split
  · rename_i heq
    rw [h.evalBoth_eq heq (by simp)]
  · split
    · rename_i heq
      rw [h.evalBoth_eq heq (by simp)]
    · rfl

lemma SameBelow.foldBinary_eq (h : SameBelow ev ev' expr) (op : Char) :
    foldBinary ev expr op = foldBinary ev' expr op := by
  simp only [foldBinary]
  split
  · rfl
  · rfl
  · rename_i heq
    rw [h.evalBoth_eq heq (by simp)]

end SameBelow

/-! ## Registers, memory and assignments -/

def evalHistorical (id : Unsigned) (w : EvalState μ) : BitVec 64 :=
  w.historytab (id.toNat % MAX_HISTORY)

variable [Target μ]

/-- `assign_virtual`. -/
def assignVirtual (name : List Char) (val : BitVec 64) (w : EvalState μ) : Option (EvalState μ) :=
  match w.symbols.symFind .auto (cString name) 0 with
  | some handler =>
    (Target.virtualHandler handler val true w.target).map fun r => { w with target := r.2 }
  | none =>
    (w.symbols.symSet w.garbage .internal (cString name) val 0).map fun symbols =>
      { w with
        symbols := symbols
        threadCurrent := if name = "thread_current".toList then val else w.threadCurrent }

/-- `eval_virtual`. -/
def evalVirtual (name : List Char) (w : EvalState μ) : Option (BitVec 64 × EvalState μ) :=
  match w.symbols.symFind .auto (cString name) 0 with
  | some handler =>
    (Target.virtualHandler handler handler false w.target).map fun r =>
      (r.1, { w with target := r.2 })
  | none => some ((w.symbols.symFind .internal (cString name) 0).getD 0, w)

/-- `target_read (addr, 1)`. -/
def targetRead1 (addr : BitVec 64) (w : EvalState μ) : Option (BitVec 64 × EvalState μ) :=
  (Target.absRead8 addr w.target).map fun r => (r.1.setWidth 64, { w with target := r.2 })

def makeAddr (devno phyaddr : BitVec 64) : BitVec 64 := devno * 0x10000000 + phyaddr

/-- The address of `eval_mem`. -/
def evalAddress (expr : List Char) (w : EvalState μ) : Option (Evaluated μ) :=
  match strchr ':' expr with
  | some (devno, phyaddr) => evalBoth ev (fun a b => some (makeAddr a b)) devno phyaddr w
  | none =>
    if expr.head?.any Char.isAlpha then
      some ⟨(w.symbols.symFind .program (cString expr) 0).getD 0, expr, w⟩
    else do
      let r ← ev expr w
      let addr ← Target.toAbsolute r.val r.state.target
      return { r with val := addr }

/-- `eval_mem`. -/
def evalMem (expr : List Char) (mode : EvalMode) (w : EvalState μ) : Option (Evaluated μ) := do
  let r ← evalAddress ev expr w
  match mode with
  | .lvalue => return r
  | .rvalue =>
    let (val, w) ← targetRead1 r.val r.state
    return ⟨val, r.left, w⟩

/-- `eval_assign`. -/
def evalAssign (expr : List Char) (val : BitVec 64) (w : EvalState μ) :
    Option (List Char × EvalState μ) :=
  match expr with
  | '$' :: name => do
    let w ← assignVirtual name val w
    return (expr, w)
  | _ => do
    let r ← evalMem ev expr .lvalue w
    let target ← Target.absWrite8 r.val (val.setWidth 8) r.state.target
    return (r.left, { r.state with target := target })

/-- An assignment; `none` without `=`. -/
def foldAssign (expr : List Char) : Option (EvalState μ → Option (Evaluated μ)) :=
  match strchr '=' expr with
  | none => none
  | some (dst, p) => some fun w => do
    let r ← ev p w
    let (left, w) ← evalAssign ev dst r.val r.state
    return ⟨r.val, left, w⟩

lemma foldAssign_eq_none_iff (expr : List Char) :
    foldAssign ev expr = none ↔ '=' ∉ expr := by
  rw [← strchr_eq_none_iff, foldAssign]
  cases strchr '=' expr <;> simp

/-- What is neither a comparison nor an assignment nor a sum or a product. -/
def evalPrimary (expr : List Char) (w : EvalState μ) : Option (Evaluated μ) :=
  match expr with
  | '$' :: '$' :: n =>
    some ⟨evalHistorical (w.historyCount - (strtoul 10 n).setWidth 32) w, expr, w⟩
  | ['$'] => some ⟨evalHistorical 0 w, expr, w⟩
  | '$' :: name =>
    if name.head?.any Char.isDigit then
      some ⟨evalHistorical ((strtoul 10 name).setWidth 32) w, expr, w⟩
    else do
      let (val, w) ← evalVirtual name w
      return ⟨val, expr, w⟩
  | '&' :: mem => do
    let r ← evalMem ev mem .lvalue w
    return { r with left := '&' :: r.left }
  | _ =>
    if expr.head?.any Char.isAlpha then evalMem ev expr .rvalue w
    else some ⟨strtoul 0 expr, expr, w⟩

/-- The body of `eval`. -/
def evalBody (expr : List Char) : EvalState μ → Option (Evaluated μ) :=
  (foldComparisons ev expr <|> foldAssign ev expr <|> foldBinary ev expr '+' <|>
    foldBinary ev expr '-' <|> foldBinary ev expr '*' <|> foldBinary ev expr '/').getD
      (evalPrimary ev expr)

/-! ## The recursion -/

/-- `eval` with a bound on the depth of the calls. -/
def evalDepth : Nat → Evaluator μ
  | 0 => fun _ _ => none
  | n + 1 => evalBody (evalDepth n)

/-- `eval`: the parts are shorter than the whole (`eval_eq`). -/
def eval (expr : List Char) : EvalState μ → Option (Evaluated μ) := evalDepth (expr.length + 1) expr

section SameBelow

variable {ev} {ev' : Evaluator μ} {expr : List Char}

/-- The address itself is evaluated when it is not a name. -/
lemma SameBelow.evalMem_eq (h : SameBelow ev ev' expr)
    (hself : expr.head?.any Char.isAlpha = false → ev expr = ev' expr) (mode : EvalMode) :
    evalMem ev expr mode = evalMem ev' expr mode := by
  have haddr : evalAddress ev expr = evalAddress ev' expr := by
    funext w
    simp only [evalAddress]
    split
    · rename_i heq
      rw [h.evalBoth_eq heq (by simp)]
    · split
      · rfl
      · rename_i halpha
        rw [hself (Bool.eq_false_iff.mpr halpha)]
  funext w
  rw [evalMem, evalMem, haddr]

/-- The same for a text that is itself shorter. -/
lemma SameBelow.evalMem_eq_of_lt (h : SameBelow ev ev' expr) {mem : List Char}
    (hmem : mem.length < expr.length) (mode : EvalMode) :
    evalMem ev mem mode = evalMem ev' mem mode :=
  evalMem_eq (fun s hs => h s (Nat.lt_trans hs hmem)) (fun _ => h mem hmem) mode

lemma SameBelow.foldAssign_eq (h : SameBelow ev ev' expr) :
    foldAssign ev expr = foldAssign ev' expr := by
  simp only [foldAssign]
  split
  · rfl
  · rename_i dst p heq
    have hlen := length_of_strstr heq
    have hdst : dst.length < expr.length := by
      rw [hlen, List.length_singleton]
      omega
    have hassign : evalAssign ev dst = evalAssign ev' dst := by
      funext val w
      simp only [evalAssign]
      split
      · rfl
      · rw [h.evalMem_eq_of_lt hdst]
    rw [h p (by rw [hlen, List.length_singleton]; omega), hassign]

lemma SameBelow.evalPrimary_eq (h : SameBelow ev ev' expr) :
    evalPrimary ev expr = evalPrimary ev' expr := by
  funext w
  simp only [evalPrimary]
  split
  · rfl
  · rfl
  · rfl
  · rw [h.evalMem_eq_of_lt (by simp)]
  · split
    · rename_i halpha
      rw [h.evalMem_eq fun hna => absurd halpha (Bool.eq_false_iff.mp hna)]
    · rfl

lemma SameBelow.evalBody_eq (h : SameBelow ev ev' expr) : evalBody ev expr = evalBody ev' expr := by
  rw [evalBody, evalBody, h.foldComparisons_eq, h.foldAssign_eq, h.foldBinary_eq, h.foldBinary_eq,
    h.foldBinary_eq, h.foldBinary_eq, h.evalPrimary_eq]

end SameBelow

/-- More depth than the text is long changes nothing. -/
lemma evalDepth_eq {n : Nat} {expr : List Char} (h : expr.length < n) :
    evalDepth n expr = eval (μ := μ) expr := by
  induction n using Nat.strong_induction_on generalizing expr with
  | _ n ih =>
    obtain ⟨m, rfl⟩ := Nat.exists_eq_succ_of_ne_zero (Nat.ne_zero_of_lt h)
    refine SameBelow.evalBody_eq fun s hs => ?_
    by_cases hm : m = expr.length
    · rw [hm]
    · rw [ih m (Nat.lt_succ_self m) (by omega), ih expr.length (by omega) hs]

/-- **`eval` is the recursive function of the source.** -/
theorem eval_eq (expr : List Char) : eval (μ := μ) expr = evalBody eval expr :=
  SameBelow.evalBody_eq fun _ hs => evalDepth_eq hs

end Exec09
