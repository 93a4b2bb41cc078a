import Exec09.Framework.CText

/-!
# Argument vectors

An argument vector is read as a list of items: options by name or by letter, with the value that
belongs to them, and plain words.  Every word belongs to exactly one item.
-/

namespace Arguments

/-- What a letter and a name stand for, and which options take an argument. -/
structure Options (ω : Type) where
  short : Char → Option ω
  long : List Char → Option ω
  takesArg : ω → Bool

inductive Item (ω : Type)
  /-- `--name` or `--name=value`. -/
  | long (o : ω) (word : List Char) (value : Option (List Char))
  /-- `-c`, with the next word if the option takes an argument. -/
  | short (o : ω) (word : List Char) (value : Option (List Char))
  /-- A dash and something else. -/
  | unknown (word : List Char)
  | plain (word : List Char)
  deriving DecidableEq

variable {ω : Type}

namespace Item

/-- The words of an item. -/
def words : Item ω → List (List Char)
  | long _ w _ => [w]
  | short _ w v => w :: v.toList
  | unknown w => [w]
  | plain w => [w]

def option : Item ω → Option ω
  | long o _ _ => some o
  | short o _ _ => some o
  | _ => none

def value : Item ω → Option (List Char)
  | long _ _ v => v
  | short _ _ v => v
  | _ => none

def plainWord : Item ω → Option (List Char)
  | plain w => some w
  | _ => none

end Item

/-- The text before the first `=`, and the one behind it. -/
def splitName (cs : List Char) : List Char × Option (List Char) :=
  match CText.strchr '=' cs with
  | some (name, value) => (name, some value)
  | none => (cs, none)

/-- The items of an argument vector. -/
def items (g : Options ω) : List (List Char) → List (Item ω)
  | [] => []
  | w :: l =>
    match w with
    | '-' :: '-' :: cs =>
      match g.long (splitName cs).1 with
      | some o => .long o w (splitName cs).2 :: items g l
      | none => .unknown w :: items g l
    | '-' :: cs =>
      match g.short (cs.headD '\x00') with
      | some o =>
        if g.takesArg o then
          match l with
          | [] => [.short o w none]
          | v :: l => .short o w (some v) :: items g l
        else .short o w none :: items g l
      | none => .unknown w :: items g l
    | _ => .plain w :: items g l

attribute [grind] items

section Items

variable {g : Options ω} {l : List (List Char)} {cs : List Char} {o : ω}

lemma items_long (ho : g.long (splitName cs).1 = some o) :
    items g (('-' :: '-' :: cs) :: l) = .long o ('-' :: '-' :: cs) (splitName cs).2 :: items g l := by
  rw [items, ho]

lemma items_long_none (ho : g.long (splitName cs).1 = none) :
    items g (('-' :: '-' :: cs) :: l) = .unknown ('-' :: '-' :: cs) :: items g l := by
  rw [items, ho]

lemma items_flag (hcs : ∀ cs', cs = '-' :: cs' → False) (ho : g.short (cs.headD '\x00') = some o)
    (ht : g.takesArg o = false) : items g (('-' :: cs) :: l) = .short o ('-' :: cs) none :: items g l := by
  rw [items, ho]
  · simp [ht]
  · exact hcs

/-- The next word belongs to an option that takes an argument. -/
lemma items_short (hcs : ∀ cs', cs = '-' :: cs' → False) (ho : g.short (cs.headD '\x00') = some o)
    (ht : g.takesArg o = true) :
    items g (('-' :: cs) :: l) = .short o ('-' :: cs) l.head? :: items g l.tail := by
  rw [items, ho]
  · cases l <;> simp [ht, items]
  · exact hcs

lemma items_short_none (hcs : ∀ cs', cs = '-' :: cs' → False)
    (ho : g.short (cs.headD '\x00') = none) :
    items g (('-' :: cs) :: l) = .unknown ('-' :: cs) :: items g l := by
  rw [items, ho]
  exact hcs

lemma items_plain {w : List Char} (hw : ∀ cs', w = '-' :: cs' → False) :
    items g (w :: l) = .plain w :: items g l := by
  rw [items]
  · exact fun cs' h => hw _ h
  · exact hw

/-- Each word belongs to one item, and they come in order. -/
lemma flatMap_words_items (g : Options ω) (l : List (List Char)) :
    (items g l).flatMap Item.words = l := by
  fun_induction items g l <;> simp_all [Item.words]

/-- The options of items are those of the table. -/
lemma option_of_mem_items {i : Item ω} {o : ω} (hi : i ∈ items g l) (ho : i.option = some o) :
    (∃ c, g.short c = some o) ∨ ∃ name, g.long name = some o := by
  fun_induction items g l <;> grind [Item.option]

end Items

/-! ## The words of an option -/

section Occurrences

/-- The option is among the items. -/
def Occurs (o : ω) (l : List (Item ω)) : Prop := ∃ i ∈ l, i.option = some o

def plainWords (l : List (Item ω)) : List (List Char) := l.filterMap Item.plainWord

/-- The first word of some items. -/
def nextWord (l : List (Item ω)) : Option (List Char) := (l.flatMap Item.words).head?

/-- What an option is handed by a reader that does not look whether it takes an argument: its value,
or for a letter the next word. -/
def Item.handed (next : Option (List Char)) : Item ω → Option (List Char)
  | long _ _ v => v
  | short _ _ v => v.or next
  | _ => none

/-- The option occurs with a value, or as a letter that is not the last word. -/
def Backed (o : ω) (l : List (Item ω)) : Prop :=
  ∃ before i after, l = before ++ i :: after ∧ i.option = some o ∧
    (i.value ≠ none ∨ ∃ w, i = .short o w none ∧ after ≠ [])

variable {o : ω} {l : List (Item ω)}

lemma nextWord_items (g : Options ω) (l : List (List Char)) : nextWord (items g l) = l.head? := by
  rw [nextWord, flatMap_words_items]

lemma isSome_nextWord (h : l ≠ []) : (nextWord l).isSome = true := by
  obtain ⟨i, l, rfl⟩ := List.exists_cons_of_ne_nil h
  cases i <;> simp [nextWord, Item.words]

lemma Backed.occurs (h : Backed o l) : Occurs o l := by
  obtain ⟨before, i, after, rfl, ho, -⟩ := h
  exact ⟨i, by simp, ho⟩

lemma Backed.cons (i : Item ω) (h : Backed o l) : Backed o (i :: l) := by
  obtain ⟨before, j, after, rfl, hj⟩ := h
  exact ⟨i :: before, j, after, rfl, hj⟩

variable [DecidableEq ω]

instance (o : ω) (l : List (Item ω)) : Decidable (Occurs o l) :=
  inferInstanceAs (Decidable (∃ i ∈ l, _))

/-- The values of an option. -/
def values (o : ω) (l : List (Item ω)) : List (List Char) :=
  l.filterMap fun i => if i.option = some o then i.value else none

/-- The words that an option is handed. -/
def handed (o : ω) : List (Item ω) → List (List Char)
  | [] => []
  | i :: l => (if i.option = some o then (i.handed (nextWord l)).toList else []) ++ handed o l

/-- The option is handed a word exactly if it is backed. -/
lemma handed_ne_nil_iff : handed o l ≠ [] ↔ Backed o l := by
  induction l with
  | nil => simp [handed, Backed]
  | cons i l ih =>
    rw [handed, ne_eq, List.append_eq_nil_iff, not_and_or, ← ne_eq (handed o l), ih]
    constructor
    · rintro (h | h)
      · by_cases ho : i.option = some o
        · refine ⟨[], i, l, rfl, ho, ?_⟩
          rw [if_pos ho] at h
          cases i with
          | long o' w v => exact Or.inl fun hv : v = none => h (by rw [hv]; rfl)
          | short o' w v =>
            cases v with
            | some v => exact Or.inl (Option.some_ne_none v)
            | none =>
              cases ho
              exact Or.inr ⟨w, rfl, fun hl => h (by rw [hl]; rfl)⟩
          | unknown w => cases ho
          | plain w => cases ho
        · exact absurd (if_neg ho) h
      · exact h.cons i
    · rintro ⟨before, j, after, hl, ho, hj⟩
      cases before with
      | nil =>
        obtain ⟨rfl, rfl⟩ := List.cons.inj hl
        refine Or.inl ?_
        rw [if_pos ho]
        rcases hj with hv | ⟨w, rfl, hafter⟩
        · obtain ⟨x, hx⟩ := Option.ne_none_iff_exists'.mp hv
          cases i <;> simp_all [Item.value, Item.handed]
        · obtain ⟨x, hx⟩ := Option.isSome_iff_exists.mp (isSome_nextWord hafter)
          simp [Item.handed, hx]
      | cons k before =>
        obtain ⟨rfl, rfl⟩ := List.cons.inj hl
        exact Or.inr ⟨before, j, after, rfl, ho, hj⟩

/-- An option that takes an argument is handed its values. -/
lemma handed_eq_values {g : Options ω} (ho : g.takesArg o = true) (l : List (List Char)) :
    handed o (items g l) = values o (items g l) := by
  fun_induction items g l <;>
    grind [handed, values, Item.option, Item.value, Item.handed, nextWord]

end Occurrences

end Arguments
