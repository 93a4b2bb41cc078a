import Exec09.Framework.CText

/-!
# Numbers inside a text

`strtoul` with its end pointer: the number at the front of a text, and the text behind it.
-/

namespace CText

open Scan

/-- The prefix `0x` of a hexadecimal number, which needs a digit behind it. -/
def skipHexPrefix : List Char → List Char
  | '0' :: x :: c :: cs =>
    if (x = 'x' ∨ x = 'X') ∧ (digitVal c).isSome then c :: cs else '0' :: x :: c :: cs
  | cs => cs

/-- `strtoul (cs, &end, base)` for the bases 10 and 16; `none` if there is no number, when `end` is
`cs`. -/
def strtoulEnd (base : Nat) (cs : List Char) : Option (BitVec 64 × List Char) :=
  let (neg, _, cs) := sign cs.length (cs.dropWhile isSpace)
  let cs := if base = 16 then skipHexPrefix cs else cs
  let ds := digitsIn base cs
  let v := valueIn base ds
  if ds = [] then none
  else
    some (if v < 0x10000000000000000 then if neg then -BitVec.ofNat 64 v else BitVec.ofNat 64 v
      else BitVec.allOnes 64, cs.drop ds.length)

/-- Digits of a base, for a number that fits a machine word. -/
structure Digits (base : Nat) where
  text : List Char
  nonempty : text ≠ []
  areDigits : ∀ c ∈ text, ((digitVal c).filter (· < base)).isSome
  fits : valueIn base (text.filterMap digitVal) < 0x10000000000000000

def Digits.value {base : Nat} (n : Digits base) : BitVec 64 :=
  BitVec.ofNat 64 (valueIn base (n.text.filterMap digitVal))

/-! ## Reading digits -/

lemma digitVal_of_isSpace {c : Char} (h : isSpace c = true) : digitVal c = none := by
  by_contra hne
  have hs := (digitVal_char (Option.isSome_iff_ne_none.mpr hne)).1
  rw [h] at hs
  cases hs

lemma sign_of_digit {n : Nat} {c : Char} {cs : List Char} (h : (digitVal c).isSome) :
    sign n (c :: cs) = (false, n, c :: cs) := by
  have hc := (digitVal_char h).2
  refine sign_of_notMem fun hmem => hc ?_
  simp only [List.mem_cons, List.not_mem_nil, or_false] at hmem ⊢
  rcases hmem with rfl | rfl | rfl | rfl <;> simp

namespace Digits

variable {base : Nat} (n : Digits base)

lemma isSome_digitVal {c : Char} (hc : c ∈ n.text) : (digitVal c).isSome := by
  obtain ⟨d, hd⟩ := Option.isSome_iff_exists.mp (n.areDigits c hc)
  rw [(Option.filter_eq_some_iff.mp hd).1]
  rfl

lemma length_filterMap : (n.text.filterMap digitVal).length = n.text.length := by
  have hall : ∀ cs : List Char, (∀ c ∈ cs, (digitVal c).isSome) →
      (cs.filterMap digitVal).length = cs.length := by
    intro cs
    induction cs with
    | nil => exact fun _ => rfl
    | cons c cs ih =>
        intro h
        obtain ⟨d, hd⟩ := Option.isSome_iff_exists.mp (h c List.mem_cons_self)
        rw [List.filterMap_cons_some hd, List.length_cons, List.length_cons,
          ih fun c hc => h c (List.mem_cons_of_mem _ hc)]
  exact hall n.text fun c hc => n.isSome_digitVal hc

/-- The digits end where something else begins. -/
lemma digitsIn_append {rest : List Char} (hrest : ∀ c ∈ rest.head?, isSpace c = true) :
    digitsIn base (n.text ++ rest) = n.text.filterMap digitVal := by
  have hall : ∀ cs : List Char, (∀ c ∈ cs, ((digitVal c).filter (· < base)).isSome) →
      digitsIn base (cs ++ rest) = cs.filterMap digitVal := by
    intro cs
    induction cs with
    | nil =>
        intro _
        cases rest with
        | nil => rfl
        | cons c rest =>
            rw [List.nil_append, digitsIn, digitVal_of_isSpace (hrest c rfl)]
            rfl
    | cons c cs ih =>
        intro h
        obtain ⟨d, hd⟩ := Option.isSome_iff_exists.mp (h c List.mem_cons_self)
        rw [List.cons_append, digitsIn, hd, ih fun c hc => h c (List.mem_cons_of_mem _ hc),
          List.filterMap_cons_some (Option.filter_eq_some_iff.mp hd).1]
  exact hall n.text n.areDigits

lemma skipHexPrefix_append {rest : List Char} (hrest : ∀ c ∈ rest.head?, isSpace c = true) :
    skipHexPrefix (n.text ++ rest) = n.text ++ rest := by
  -- the second character is a digit or a blank
  have hx {x : Char} (hc : (n.text ++ rest)[1]? = some x) : ¬(x = 'x' ∨ x = 'X') := by
    obtain ⟨c, cs, htext⟩ := List.exists_cons_of_ne_nil n.nonempty
    rw [htext, List.cons_append, List.getElem?_cons_succ] at hc
    cases cs with
    | nil =>
        have hspace : isSpace x = true := hrest x (by rwa [List.head?_eq_getElem?])
        rintro (rfl | rfl) <;> revert hspace <;> decide
    | cons d cs =>
        obtain rfl : d = x := Option.some.inj hc
        have hd := (digitVal_char (n.isSome_digitVal (c := d) (by rw [htext]; simp))).2
        rintro (rfl | rfl) <;> exact hd (by simp)
  unfold skipHexPrefix
  split
  · rename_i x c cs heq
    rw [if_neg fun h => hx (by rw [heq]; rfl) h.1, heq]
  · rfl

/-- **Digits are read as their value**, behind any blanks. -/
lemma strtoulEnd_text (blanks : List Char) {rest : List Char}
    (hblanks : ∀ c ∈ blanks, isSpace c = true) (hrest : ∀ c ∈ rest.head?, isSpace c = true) :
    strtoulEnd base (blanks ++ (n.text ++ rest)) = some (n.value, rest) := by
  obtain ⟨c, cs, htext⟩ := List.exists_cons_of_ne_nil n.nonempty
  have hc := n.isSome_digitVal (c := c) (by rw [htext]; exact List.mem_cons_self)
  have hdrop : (blanks ++ (n.text ++ rest)).dropWhile isSpace = n.text ++ rest := by
    rw [List.dropWhile_append_of_pos hblanks, htext, List.cons_append, List.dropWhile_cons,
      (digitVal_char hc).1]
    rfl
  have hsign (m : Nat) : sign m (n.text ++ rest) = (false, m, n.text ++ rest) := by
    rw [htext]
    exact sign_of_digit hc
  have hne : n.text.filterMap digitVal ≠ [] := fun h => n.nonempty (List.eq_nil_of_length_eq_zero
    (by rw [← n.length_filterMap, h]; rfl))
  have hfront : (if base = 16 then skipHexPrefix (n.text ++ rest) else n.text ++ rest) =
      n.text ++ rest := by
    rw [n.skipHexPrefix_append hrest, ite_self]
  simp only [strtoulEnd, hdrop, hsign, hfront, n.digitsIn_append hrest, hne, if_false,
    if_pos n.fits, n.length_filterMap, List.drop_left, Bool.false_eq_true]
  rfl

end Digits

end CText
