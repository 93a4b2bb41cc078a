import Mathlib.Data.List.TakeWhile

/-!
# Strings in an array of characters

A pointer into an array stands for the string up to the next NUL.  A string is shortened by a NUL
that is written into it.  The end of the array ends a string too, so that every pointer stands for
one.
-/

namespace CBuffer

abbrev NUL : Char := '\x00'

/-- The string at a pointer. -/
def stringAt (buf : List Char) (p : Nat) : List Char := (buf.drop p).takeWhile (· ≠ NUL)

/-- `*p = '\0'`. -/
def terminate (buf : List Char) (p : Nat) : List Char := buf.set p NUL

/-- Only the `n` characters from `p` on may differ. -/
def SameOutside (p n : Nat) (buf buf' : List Char) : Prop :=
  ∀ i, i < p ∨ p + n ≤ i → buf'[i]? = buf[i]?

variable {buf buf' buf'' : List Char} {p q n : Nat} {c : Char} {a b t : List Char}

/-! ## One character after the other -/

lemma stringAt_nil (h : ∀ c, buf[p]? = some c → c = NUL) : stringAt buf p = [] := by
  rw [stringAt]
  cases hd : buf.drop p with
  | nil => rfl
  | cons c l =>
    have hc : buf[p]? = some c := by rw [← List.head?_drop, hd]; rfl
    rw [h c hc]
    rfl

lemma stringAt_cons (h : buf[p]? = some c) (hc : c ≠ NUL) :
    stringAt buf p = c :: stringAt buf (p + 1) := by
  obtain ⟨hp, hget⟩ := List.getElem?_eq_some_iff.mp h
  rw [stringAt, List.drop_eq_getElem_cons hp, hget, List.takeWhile_cons_of_pos (by simpa using hc)]
  rfl

lemma of_stringAt_nil (h : stringAt buf p = []) : ∀ c, buf[p]? = some c → c = NUL := by
  intro c hc
  by_contra hne
  rw [stringAt_cons hc hne] at h
  cases h

lemma of_stringAt_cons (h : stringAt buf p = c :: t) :
    buf[p]? = some c ∧ c ≠ NUL ∧ stringAt buf (p + 1) = t := by
  cases hd : buf[p]? with
  | none =>
    rw [stringAt_nil fun c hc => by rw [hd] at hc; cases hc] at h
    cases h
  | some d =>
    by_cases hne : d = NUL
    · rw [stringAt_nil fun c hc => by rw [hd] at hc; cases hc; exact hne] at h
      cases h
    · rw [stringAt_cons hd hne] at h
      obtain ⟨rfl, ht⟩ := List.cons.inj h
      exact ⟨rfl, hne, ht⟩

/-! ## Parts of a string -/

/-- A string ends at a NUL. -/
lemma stringAt_end (h : stringAt buf p = t) : ∀ c, buf[p + t.length]? = some c → c = NUL := by
  induction t generalizing p with
  | nil => exact of_stringAt_nil h
  | cons d t ih =>
    rw [List.length_cons, Nat.add_comm t.length, ← Nat.add_assoc]
    exact ih (of_stringAt_cons h).2.2

/-- Where there is a NUL a string cannot go on. -/
lemma length_stringAt_le (h : ∀ c, buf[p + n]? = some c → c = NUL) :
    (stringAt buf p).length ≤ n := by
  induction n generalizing p with
  | zero =>
    have hnil : stringAt buf p = [] := stringAt_nil h
    rw [hnil]
    exact Nat.le_refl 0
  | succ n ih =>
    cases ht : stringAt buf p with
    | nil => exact Nat.zero_le _
    | cons c t =>
      obtain ⟨-, -, rfl⟩ := of_stringAt_cons ht
      have hrest : (stringAt buf (p + 1)).length ≤ n := ih fun d hd => h d <| by
        rwa [Nat.add_comm n, ← Nat.add_assoc]
      exact Nat.succ_le_succ hrest

lemma stringAt_append (h : stringAt buf p = a ++ b) : stringAt buf (p + a.length) = b := by
  induction a generalizing p with
  | nil => exact h
  | cons c a ih =>
    rw [List.length_cons, Nat.add_comm a.length, ← Nat.add_assoc]
    exact ih (of_stringAt_cons h).2.2

/-- What is left in front of a NUL that is written into a string. -/
lemma stringAt_terminate (h : stringAt buf p = a ++ b) :
    stringAt (terminate buf (p + a.length)) p = a := by
  induction a generalizing p with
  | nil =>
    refine stringAt_nil fun c hc => ?_
    obtain ⟨hp, hget⟩ := List.getElem?_eq_some_iff.mp hc
    exact hget.symm.trans (List.getElem_set_self _)
  | cons d a ih =>
    obtain ⟨hd, hne, ht⟩ := of_stringAt_cons h
    have hkeep : (terminate buf (p + (d :: a).length))[p]? = some d := by
      rw [terminate, List.getElem?_set_ne (by rw [List.length_cons]; omega), hd]
    rw [stringAt_cons hkeep hne]
    congr 1
    rw [List.length_cons, Nat.add_comm a.length, ← Nat.add_assoc]
    exact ih ht

/-! ## Changes elsewhere -/

lemma SameOutside.refl (p n : Nat) (buf : List Char) : SameOutside p n buf buf := fun _ _ => rfl

lemma SameOutside.trans (h : SameOutside p n buf buf') (h' : SameOutside p n buf' buf'') :
    SameOutside p n buf buf'' :=
  fun i hi => (h' i hi).trans (h i hi)

lemma SameOutside.mono (h : SameOutside q n buf buf') {m : Nat} (hp : p ≤ q)
    (hm : q + n ≤ p + m) : SameOutside p m buf buf' :=
  fun i hi => h i (by omega)

lemma terminate_sameOutside (buf : List Char) (p : Nat) :
    SameOutside p 1 buf (terminate buf p) := by
  intro i hi
  exact List.getElem?_set_ne (by omega)

/-- A string depends on its own characters and its end. -/
lemma stringAt_congr
    (h : ∀ i, p ≤ i → i ≤ p + (stringAt buf p).length → buf'[i]? = buf[i]?) :
    stringAt buf' p = stringAt buf p := by
  generalize ht : stringAt buf p = t at h
  induction t generalizing p with
  | nil =>
    refine stringAt_nil fun c hc => of_stringAt_nil ht c ?_
    rwa [← h p (Nat.le_refl p) (Nat.le_add_right p _)]
  | cons c t ih =>
    obtain ⟨hc, hne, hrest⟩ := of_stringAt_cons ht
    rw [List.length_cons] at h
    rw [stringAt_cons (by rwa [h p (Nat.le_refl p) (by omega)]) hne]
    congr 1
    exact ih hrest fun i hi hi' => h i (by omega) (by omega)

/-- A string in front of the changes or behind them stays as it is. -/
lemma SameOutside.stringAt_eq (h : SameOutside q n buf buf')
    (hp : p + (stringAt buf p).length < q ∨ q + n ≤ p) : stringAt buf' p = stringAt buf p :=
  stringAt_congr fun i hi hi' => h i (by omega)

end CBuffer
