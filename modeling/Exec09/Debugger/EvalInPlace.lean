import Exec09.Debugger.Eval
import Exec09.Framework.CBuffer

/-!
# Expressions in memory

`eval` and `eval_mem` of `command.c` on pointers into an array of characters, with the NULs they
write.  `Debugger.Eval` has the same functions on texts.

The calls of the two functions are logged, with the call they are made from: `fold_comparisons`,
`fold_binary` and `eval_assign` belong to the call of `eval` that calls them.  So are the splits of
an expression at an operator.

A bound on the depth of the calls makes the recursion a function.  The operands of a binary operator
are evaluated from left to right; C leaves the order of those of a comparison and of `:` open.
-/

namespace Exec09.InPlace

open CText CBuffer

/-- The functions that are called again. -/
inductive Fn
  | eval
  | evalMem (mode : EvalMode)
  deriving DecidableEq, Repr

/-- A string in memory. -/
structure Str where
  expr : Nat
  text : List Char
  deriving DecidableEq, Repr

/-- A call, with the string as it finds it. -/
structure Activation extends Str where
  fn : Fn
  deriving DecidableEq, Repr

/-- A call made by another one, and all characters before and after it. -/
structure Call where
  caller : Activation
  callee : Activation
  before : List Char
  after : List Char

/-- An expression taken apart at an operator. -/
structure Split where
  whole : Activation
  first : Str
  second : Str

/-- What the evaluation works on, and its log. -/
structure State (μ : Type) where
  chars : List Char
  world : EvalState μ
  calls : List Call
  splits : List Split

/-- Why there is no value: a crash, or the bound on the depth. -/
inductive Stop
  | crash | deep
  deriving DecidableEq, Repr

/-- Evaluation; a stop leaves the state as it is. -/
abbrev EvalM (μ : Type) := ExceptT Stop (StateM (State μ))

variable {μ α : Type}

def text (p : Nat) : EvalM μ (List Char) := fun s => (.ok (stringAt s.chars p), s)

/-- `*p = '\0'`. -/
def cut (p : Nat) : EvalM μ Unit := fun s => (.ok (), { s with chars := terminate s.chars p })

/-- A step that has nothing to do with the characters. -/
def onWorld (f : EvalState μ → Option (α × EvalState μ)) : EvalM μ α := fun s =>
  match f s.world with
  | some (a, w) => (.ok a, { s with world := w })
  | none => (.error .crash, s)

def split (whole : Activation) (first second : Nat) : EvalM μ Unit := fun s =>
  let part (p : Nat) : Str := ⟨p, stringAt s.chars p⟩
  (.ok (), { s with splits := ⟨whole, part first, part second⟩ :: s.splits })

/-- `match_binary`: the pointer behind the operator. -/
def matchBinary (expr : Nat) (op : List Char) : EvalM μ (Option Nat) := do
  match strstr op (← text expr) with
  | none => return none
  | some (first, _) =>
    cut (expr + first.length)
    return some (expr + first.length + op.length)

/-- An `else if`: what follows when a function returns 0. -/
def orElse (m : EvalM μ (Option (BitVec 64))) (next : EvalM μ (BitVec 64)) :
    EvalM μ (BitVec 64) := do
  match ← m with
  | some val => return val
  | none => next

/-! ## The functions

They take the calls of `eval` and `eval_mem` as a parameter; `self` is the call they run in. -/

section Body

variable (rec : Fn → Nat → EvalM μ (BitVec 64)) (self : Activation)

/-- A call that is logged. -/
def call (fn : Fn) (p : Nat) : EvalM μ (BitVec 64) := fun s =>
  let callee : Activation := ⟨⟨p, stringAt s.chars p⟩, fn⟩
  let r := rec fn p s
  (r.1, { r.2 with calls := ⟨self, callee, s.chars, r.2.chars⟩ :: r.2.calls })

def evalBoth (f : BitVec 64 → BitVec 64 → Option (BitVec 64)) (first second : Nat) :
    EvalM μ (BitVec 64) := do
  split self first second
  let val₁ ← call rec self .eval first
  let val₂ ← call rec self .eval second
  onWorld fun w => (f val₁ val₂).map fun val => (val, w)

/-- `fold_comparisons`; `none` when it returns 0. -/
def foldComparisons : EvalM μ (Option (BitVec 64)) := do
  match ← matchBinary self.expr ['=', '='] with
  | some p => some <$> evalBoth rec self (fun a b => some (if a = b then 1 else 0)) self.expr p
  | none =>
    match ← matchBinary self.expr ['!', '='] with
    | some p => some <$> evalBoth rec self (fun a b => some (if a ≠ b then 1 else 0)) self.expr p
    | none => return none

/-- `fold_binary`; `none` when it returns 0. -/
def foldBinary (op : Char) : EvalM μ (Option (BitVec 64)) := do
  match strchr op (← text self.expr) with
  | none => return none
  -- the first character is a unary operator
  | some ([], _) => return none
  | some (first, _) =>
    cut (self.expr + first.length)
    some <$> evalBoth rec self (binary op) self.expr (self.expr + first.length + 1)

variable [Target μ]

/-- The address of `eval_mem`. -/
def evalAddress : EvalM μ (BitVec 64) := do
  let expr ← text self.expr
  match strchr ':' expr with
  | some (devno, _) =>
    cut (self.expr + devno.length)
    evalBoth rec self (fun a b => some (makeAddr a b)) self.expr (self.expr + devno.length + 1)
  | none =>
    if expr.head?.any Char.isAlpha then
      onWorld fun w => some ((w.symbols.symFind .program (cString expr) 0).getD 0, w)
    else do
      let val ← call rec self .eval self.expr
      onWorld fun w => (Target.toAbsolute val w.target).map fun addr => (addr, w)

/-- `eval_mem`. -/
def evalMem (mode : EvalMode) : EvalM μ (BitVec 64) := do
  let val ← evalAddress rec self
  match mode with
  | .lvalue => return val
  | .rvalue => onWorld (targetRead1 val)

/-- `eval_assign`. -/
def evalAssign (expr : Nat) (val : BitVec 64) : EvalM μ Unit := do
  match ← text expr with
  | '$' :: name => onWorld fun w => (assignVirtual name val w).map fun w => ((), w)
  | _ =>
    let dst ← call rec self (.evalMem .lvalue) expr
    onWorld fun w => (Target.absWrite8 dst (val.setWidth 8) w.target).map fun target =>
      ((), { w with target := target })

/-- The value behind the `=`, and then the assignment. -/
def assign (p : Nat) : EvalM μ (BitVec 64) := do
  split self self.expr p
  let val ← call rec self .eval p
  evalAssign rec self self.expr val
  return val

/-- An assignment; `none` without `=`. -/
def foldAssign : EvalM μ (Option (BitVec 64)) := do
  match strchr '=' (← text self.expr) with
  | none => return none
  | some (dst, _) =>
    cut (self.expr + dst.length)
    some <$> assign rec self (self.expr + dst.length + 1)

/-- What is neither a comparison nor an assignment nor a sum or a product, by the text that is
there. -/
def evalPrimary (expr : List Char) : EvalM μ (BitVec 64) :=
  match expr with
  | '$' :: '$' :: n =>
    onWorld fun w => some (evalHistorical (w.historyCount - (strtoul 10 n).setWidth 32) w, w)
  | ['$'] => onWorld fun w => some (evalHistorical 0 w, w)
  | '$' :: name =>
    if name.head?.any Char.isDigit then
      onWorld fun w => some (evalHistorical ((strtoul 10 name).setWidth 32) w, w)
    else onWorld (evalVirtual name)
  | '&' :: _ => call rec self (.evalMem .lvalue) (self.expr + 1)
  | _ =>
    if expr.head?.any Char.isAlpha then call rec self (.evalMem .rvalue) self.expr
    else return strtoul 0 expr

/-- The body of `eval`. -/
def evalBody : EvalM μ (BitVec 64) :=
  orElse (foldComparisons rec self) <| orElse (foldAssign rec self) <|
    orElse (foldBinary rec self '+') <| orElse (foldBinary rec self '-') <|
    orElse (foldBinary rec self '*') <| orElse (foldBinary rec self '/') do
    evalPrimary rec self (← text self.expr)

/-- A call of either function. -/
def body (fn : Fn) (expr : Nat) : EvalM μ (BitVec 64) := do
  let self : Activation := ⟨⟨expr, ← text expr⟩, fn⟩
  match fn with
  | .eval => evalBody rec self
  | .evalMem mode => evalMem rec self mode

end Body

/-- The recursion, down to a depth. -/
def run [Target μ] : Nat → Fn → Nat → EvalM μ (BitVec 64)
  | 0, _, _ => throw .deep
  | n + 1, fn, expr => body (run n) fn expr

end Exec09.InPlace
