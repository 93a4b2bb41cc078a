import Mathlib.Data.List.Chain
import Mathlib.Tactic.Common

/-!
# Two operators of one level

Operands in a row, with one of two operators between neighbours.  The usual reading of such a row
associates to the left.  The other reading here takes the row apart at the first `outer` operator
and, where there is none, at the first `inner` one, and goes on with both parts; it is what
recursive splitting of a text computes (`split_text`).  The readings agree on rows without two
`inner` operators in sequence where both operators are those of a group (`readValue_of_isChain`), and
otherwise on rows with at most the first operator `inner` (`readValue_of_tail`).
-/

namespace Precedence

/-- The operators of a level: the one a text is split at first, and the other one. -/
inductive Op
  | outer | inner
  deriving DecidableEq, Repr

variable {α β : Type}

/-- What the operators mean; the inner one may fail. -/
structure Level (β : Type) where
  unit : β
  outer : β → β → β
  inner : β → β → Option β
  outer_unit : ∀ a, outer a unit = a
  inner_unit : ∀ a, inner a unit = some a
  outer_assoc : ∀ a b c, outer (outer a b) c = outer a (outer b c)

namespace Level

variable (L : Level β)

/-- An operator on results. -/
def apply (op : Op) (x y : Option β) : Option β := do
  let a ← x
  let b ← y
  match op with
  | .outer => some (L.outer a b)
  | .inner => L.inner a b

@[simp] lemma apply_none_left (op : Op) (y : Option β) : L.apply op none y = none := rfl

@[simp] lemma apply_none_right (op : Op) (x : Option β) : L.apply op x none = none := by
  cases x <;> rfl

@[simp] lemma apply_outer (a b : β) : L.apply .outer (some a) (some b) = some (L.outer a b) := rfl

@[simp] lemma apply_inner (a b : β) : L.apply .inner (some a) (some b) = L.inner a b := rfl

@[simp] lemma apply_unit (op : Op) (x : Option β) : L.apply op x (some L.unit) = x := by
  cases x with
  | none => rfl
  | some a =>
    cases op with
    | outer => rw [apply_outer, L.outer_unit]
    | inner => rw [apply_inner, L.inner_unit]

lemma apply_assoc (x y z : Option β) :
    L.apply .outer (L.apply .outer x y) z = L.apply .outer x (L.apply .outer y z) := by
  cases x with
  | none => simp
  | some a =>
    cases y with
    | none => simp
    | some b =>
      cases z with
      | none => simp
      | some c => simp [L.outer_assoc]

/-- The usual reading, to the left. -/
def leftValue (x : Option β) (rest : List (Op × Option β)) : Option β :=
  rest.foldl (fun acc p => L.apply p.1 acc p.2) x

/-- The other one: the part in front of the first outer operator, and what is behind it. -/
def split (x : Option β) : List (Op × Option β) → Option β × Option β
  | [] => (x, some L.unit)
  | (.outer, y) :: rest => (x, L.apply .outer (split y rest).1 (split y rest).2)
  | (.inner, y) :: rest => (L.apply .inner x (split y rest).1, (split y rest).2)

def readValue (x : Option β) (rest : List (Op × Option β)) : Option β :=
  L.apply .outer (L.split x rest).1 (L.split x rest).2

lemma readValue_outer (x y : Option β) (rest : List (Op × Option β)) :
    L.readValue x ((.outer, y) :: rest) = L.apply .outer x (L.readValue y rest) := rfl

/-- What is behind the first outer operator does not depend on what is in front of it. -/
lemma split_snd (x y : Option β) (rest : List (Op × Option β)) :
    (L.split x rest).2 = (L.split y rest).2 := by
  cases rest with
  | nil => rfl
  | cons p rest =>
    obtain ⟨op, z⟩ := p
    cases op <;> rfl

/-- In front of an outer operator only one operand matters. -/
lemma split_fst_of_outer (y : Option β) {rest : List (Op × Option β)}
    (h : ∀ p ∈ rest.head?, p.1 = .outer) : (L.split y rest).1 = y := by
  cases rest with
  | nil => rfl
  | cons p rest =>
    obtain ⟨op, z⟩ := p
    obtain rfl : op = .outer := h _ rfl
    rfl

/-- An inner operator in front of an outer one. -/
lemma readValue_inner (x y : Option β) {rest : List (Op × Option β)}
    (h : ∀ p ∈ rest.head?, p.1 = .outer) :
    L.readValue x ((.inner, y) :: rest) =
      L.apply .outer (L.apply .inner x y) (L.split y rest).2 := by
  rw [readValue, split, L.split_fst_of_outer y h]

/-- Only the first operator may be inner. -/
lemma leftValue_of_outer (x y : Option β) {rest : List (Op × Option β)}
    (h : ∀ p ∈ rest, p.1 = .outer) :
    L.leftValue (L.apply .outer x y) rest = L.apply .outer x (L.leftValue y rest) := by
  induction rest generalizing y with
  | nil => rfl
  | cons p rest ih =>
    obtain ⟨op, z⟩ := p
    obtain rfl : op = .outer := h _ List.mem_cons_self
    rw [leftValue, List.foldl_cons, apply_assoc]
    exact ih _ fun p hp => h p (List.mem_cons_of_mem _ hp)

lemma readValue_of_outer (x : Option β) {rest : List (Op × Option β)}
    (h : ∀ p ∈ rest, p.1 = .outer) : L.readValue x rest = L.leftValue x rest := by
  induction rest generalizing x with
  | nil => exact L.apply_unit .outer x
  | cons p rest ih =>
    obtain ⟨op, y⟩ := p
    obtain rfl : op = .outer := h _ List.mem_cons_self
    have hrest : ∀ p ∈ rest, p.1 = .outer := fun p hp => h p (List.mem_cons_of_mem _ hp)
    rw [readValue_outer, ih y hrest, ← L.leftValue_of_outer x y hrest]
    rfl

/-- **Rows in which at most the first operator is inner.** -/
theorem readValue_of_tail (x : Option β) {rest : List (Op × Option β)}
    (h : ∀ p ∈ rest.tail, p.1 = .outer) : L.readValue x rest = L.leftValue x rest := by
  cases rest with
  | nil => exact L.apply_unit .outer x
  | cons p rest =>
    obtain ⟨op, y⟩ := p
    cases op with
    | outer => exact L.readValue_of_outer x (List.forall_mem_cons.mpr ⟨rfl, h⟩)
    | inner =>
      have hrest : ∀ p ∈ rest, p.1 = .outer := h
      have hhead : ∀ p ∈ rest.head?, p.1 = .outer := fun p hp => hrest p (List.mem_of_mem_head? hp)
      rw [L.readValue_inner x y hhead]
      -- what follows is a product behind the first operand
      have hread := L.readValue_of_outer (L.apply .inner x y) hrest
      rw [readValue, L.split_fst_of_outer _ hhead] at hread
      rw [L.split_snd y (L.apply .inner x y), hread]
      rfl

/-! ### Units as operands -/

/-- Operands that are units, with these operators. -/
def units {γ : Type} (rest : List (Op × γ)) : List (Op × Option β) :=
  rest.map fun p => (p.1, some L.unit)

variable {γ : Type}

@[simp] lemma leftValue_units (x : Option β) (rest : List (Op × γ)) :
    L.leftValue x (L.units rest) = x := by
  induction rest with
  | nil => rfl
  | cons p rest ih =>
    rw [units, List.map_cons, leftValue, List.foldl_cons, apply_unit]
    exact ih

@[simp] lemma split_units (x : Option β) (rest : List (Op × γ)) :
    L.split x (L.units rest) = (x, some L.unit) := by
  induction rest generalizing x with
  | nil => rfl
  | cons p rest ih =>
    obtain ⟨op, y⟩ := p
    have hrest := ih (some L.unit)
    rw [units] at hrest ⊢
    cases op <;> simp [split, hrest]

@[simp] lemma readValue_units (x : Option β) (rest : List (Op × γ)) :
    L.readValue x (L.units rest) = x := by
  rw [readValue, split_units, apply_unit]

lemma leftValue_append (x : Option β) (rest rest' : List (Op × Option β)) :
    L.leftValue x (rest ++ rest') = L.leftValue (L.leftValue x rest) rest' := List.foldl_append

/-- One operand among units. -/
lemma leftValue_units_cons (x y : Option β) (op : Op) (pre post : List (Op × γ)) :
    L.leftValue x (L.units pre ++ (op, y) :: L.units post) = L.apply op x y := by
  rw [leftValue_append, leftValue_units]
  exact L.leftValue_units _ post

/-- Units in front of an outer operator do not matter. -/
lemma readValue_units_outer (y : Option β) (hunit : ∀ a, L.outer L.unit a = a)
    (pre : List (Op × γ)) (rest : List (Op × Option β)) :
    L.readValue (some L.unit) (L.units pre ++ (.outer, y) :: rest) = L.readValue y rest := by
  have hone (z : Option β) : L.apply .outer (some L.unit) z = z := by
    cases z with
    | none => rfl
    | some a => rw [apply_outer, hunit]
  have hsplit : L.split (some L.unit) (L.units pre ++ (.outer, y) :: rest) =
      (some L.unit, L.readValue y rest) := by
    induction pre with
    | nil => rfl
    | cons p pre ih =>
      obtain ⟨op, z⟩ := p
      rw [units] at ih ⊢
      cases op with
      | outer => simp [split, ih, hone]
      | inner => simp [split, ih]
  rw [readValue, hsplit, hone]

/-! ### Groups -/

/-- No two inner operators in sequence. -/
def NoInnerPair {γ : Type} (rest : List (Op × γ)) : Prop :=
  rest.IsChain fun p q => ¬(p.1 = .inner ∧ q.1 = .inner)

/-- Only the operators matter. -/
lemma NoInnerPair.congr {γ δ : Type} {rest : List (Op × γ)} {rest' : List (Op × δ)}
    (h : NoInnerPair rest) (hops : rest'.map Prod.fst = rest.map Prod.fst) :
    NoInnerPair rest' := by
  have hchain : (rest.map Prod.fst).IsChain fun p q => ¬(p = .inner ∧ q = .inner) :=
    (List.isChain_map _).mpr h
  rw [← hops] at hchain
  exact (List.isChain_map _).mp hchain

/-- In a group a common first operand can be taken out. -/
lemma leftValue_apply (hgroup : ∀ a b c, L.inner (L.outer a b) c = (L.inner b c).map (L.outer a))
    (x y : Option β) (rest : List (Op × Option β)) :
    L.leftValue (L.apply .outer x y) rest = L.apply .outer x (L.leftValue y rest) := by
  have hinner (x y z : Option β) :
      L.apply .inner (L.apply .outer x y) z = L.apply .outer x (L.apply .inner y z) := by
    cases x with
    | none => simp
    | some a =>
      cases y with
      | none => simp
      | some b =>
        cases z with
        | none => simp
        | some c =>
          rw [apply_outer, apply_inner, apply_inner, hgroup]
          cases L.inner b c <;> rfl
  induction rest generalizing y with
  | nil => rfl
  | cons p rest ih =>
    obtain ⟨op, z⟩ := p
    rw [leftValue, List.foldl_cons]
    cases op with
    | outer =>
      rw [apply_assoc]
      exact ih _
    | inner =>
      rw [hinner]
      exact ih _

/-- **Rows without two inner operators in sequence**, in a group. -/
theorem readValue_of_isChain
    (hgroup : ∀ a b c, L.inner (L.outer a b) c = (L.inner b c).map (L.outer a)) (x : Option β)
    {rest : List (Op × Option β)} (h : NoInnerPair rest) :
    L.readValue x rest = L.leftValue x rest := by
  induction rest generalizing x with
  | nil => exact L.apply_unit .outer x
  | cons p rest ih =>
    obtain ⟨op, y⟩ := p
    have hrest : NoInnerPair rest := h.tail
    cases op with
    | outer =>
      rw [readValue_outer, ih y hrest, ← L.leftValue_apply hgroup]
      rfl
    | inner =>
      cases rest with
      | nil => exact L.apply_unit .outer _
      | cons q rest =>
        obtain ⟨op, z⟩ := q
        cases op with
        | inner => exact absurd ⟨rfl, rfl⟩ (List.isChain_cons_cons.mp h).1
        | outer =>
          have hread := ih (L.apply .inner x y) hrest
          rw [readValue_outer] at hread
          rw [L.readValue_inner x y (by simp)]
          exact hread

end Level

/-! ## Texts -/

section Text

/-- The text of a row. -/
def rowText (symbol : Op → Char) (txt : α → List Char) (x : α) (rest : List (Op × α)) :
    List Char :=
  txt x ++ rest.flatMap fun p => symbol p.1 :: txt p.2

/-- An evaluator that takes the texts of a class apart at the operators of the level. -/
structure Splits (L : Level β) (symbol : Op → Char) (Good : List Char → Prop)
    (ev : List Char → Option β) : Prop where
  outer : ∀ a b, a ≠ [] → symbol .outer ∉ a → Good a → Good b →
    Good (a ++ symbol .outer :: b) ∧
      ev (a ++ symbol .outer :: b) = L.apply .outer (ev a) (ev b)
  inner : ∀ a b, a ≠ [] → symbol .inner ∉ a → symbol .outer ∉ a → symbol .outer ∉ b → Good a →
    Good b → Good (a ++ symbol .inner :: b) ∧
      ev (a ++ symbol .inner :: b) = L.apply .inner (ev a) (ev b)

/-- The text of an operand. -/
structure Operand (symbol : Op → Char) (Good : List Char → Prop) (s : List Char) : Prop where
  nonempty : s ≠ []
  operators : ∀ op, symbol op ∉ s
  good : Good s

variable {L : Level β} {symbol : Op → Char} {Good : List Char → Prop}
  {ev : List Char → Option β} {txt : α → List Char}

/-- The text of a row: the part in front of the first outer operator, and what is behind it. -/
lemma exists_split_text (h : Splits L symbol Good ev) (hne : symbol .outer ≠ symbol .inner)
    (htxt : ∀ x, Operand symbol Good (txt x)) (x : α) (rest : List (Op × α)) :
    ∃ a, a ≠ [] ∧ symbol .outer ∉ a ∧ Good a ∧
      ev a = (L.split (ev (txt x)) (rest.map fun p => (p.1, ev (txt p.2)))).1 ∧
      ((rowText symbol txt x rest = a ∧
          (L.split (ev (txt x)) (rest.map fun p => (p.1, ev (txt p.2)))).2 = some L.unit) ∨
        ∃ b, rowText symbol txt x rest = a ++ symbol .outer :: b ∧ Good b ∧
          ev b = (L.split (ev (txt x)) (rest.map fun p => (p.1, ev (txt p.2)))).2) := by
  have hx := htxt x
  induction rest generalizing x with
  | nil =>
    refine ⟨txt x, hx.nonempty, hx.operators .outer, hx.good, rfl, .inl ⟨?_, rfl⟩⟩
    simp [rowText]
  | cons p rest ih =>
    obtain ⟨op, y⟩ := p
    have htail : rowText symbol txt x ((op, y) :: rest) =
        txt x ++ symbol op :: rowText symbol txt y rest := by
      simp [rowText]
    obtain ⟨a, hne', houter, ha, hev, htext⟩ := ih y (htxt y)
    cases op with
    | outer =>
      refine ⟨txt x, hx.nonempty, hx.operators .outer, hx.good, rfl, .inr ⟨_, htail, ?_⟩⟩
      obtain ⟨hrow, hunit⟩ | ⟨b, hrow, hb, hevb⟩ := htext
      · rw [hrow, hev, List.map_cons, Level.split, hunit, Level.apply_unit]
        exact ⟨ha, rfl⟩
      · obtain ⟨hgood, hval⟩ := h.outer a b hne' houter ha hb
        rw [hrow, hval, hev, hevb]
        exact ⟨hgood, rfl⟩
    | inner =>
      obtain ⟨hgood, hval⟩ := h.inner (txt x) a hx.nonempty (hx.operators .inner)
        (hx.operators .outer) houter hx.good ha
      refine ⟨txt x ++ symbol .inner :: a, by simp, ?_, hgood, ?_, ?_⟩
      · simp [hx.operators .outer, hne, houter]
      · rw [hval, hev]
        rfl
      · rw [htail]
        obtain ⟨hrow, hunit⟩ | ⟨b, hrow, hb, hevb⟩ := htext
        · exact .inl ⟨by rw [hrow], hunit⟩
        · exact .inr ⟨b, by rw [hrow, List.append_assoc]; rfl, hb, hevb⟩

/-- **Taking a text apart computes the other reading.** -/
theorem split_text (h : Splits L symbol Good ev) (hne : symbol .outer ≠ symbol .inner)
    (htxt : ∀ x, Operand symbol Good (txt x)) (x : α) (rest : List (Op × α)) :
    Good (rowText symbol txt x rest) ∧
      ev (rowText symbol txt x rest) =
        L.readValue (ev (txt x)) (rest.map fun p => (p.1, ev (txt p.2))) := by
  obtain ⟨a, hne', houter, ha, hev, ⟨hrow, hunit⟩ | ⟨b, hrow, hb, hevb⟩⟩ :=
    exists_split_text h hne htxt x rest
  · rw [hrow, hev, Level.readValue, hunit, Level.apply_unit]
    exact ⟨ha, rfl⟩
  · obtain ⟨hgood, hval⟩ := h.outer a b hne' houter ha hb
    rw [hrow, hval, hev, hevb]
    exact ⟨hgood, rfl⟩

end Text

end Precedence
