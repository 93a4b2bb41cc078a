import Exec09.Framework.Scan

/-!
# Strings of C

The parts of `string.h` and `stdlib.h` that take a text apart, over lists of characters: `strstr`
with the text before and behind the place it finds, and `strtoul`.
-/

namespace CText

open Scan

/-! ## Searching -/

/-- The text before the first occurrence of `op`, and the text behind it. -/
def strstr (op : List Char) : List Char → Option (List Char × List Char)
  | [] => if op = [] then some ([], []) else none
  | c :: cs =>
    if op.isPrefixOf (c :: cs) then some ([], (c :: cs).drop op.length)
    else (strstr op cs).map fun q => (c :: q.1, q.2)

/-- The same for one character. -/
def strchr (c : Char) (cs : List Char) : Option (List Char × List Char) := strstr [c] cs

lemma eq_of_strstr {op cs a b : List Char} (h : strstr op cs = some (a, b)) :
    cs = a ++ (op ++ b) := by
  induction cs generalizing a b with
  | nil =>
    simp only [strstr] at h
    split at h
    · rename_i hop
      obtain ⟨rfl, rfl⟩ := Prod.mk.inj (Option.some.inj h)
      rw [hop]
      rfl
    · cases h
  | cons c cs ih =>
    simp only [strstr] at h
    split at h
    · rename_i hop
      obtain ⟨rfl, rfl⟩ := Prod.mk.inj (Option.some.inj h)
      exact (List.prefix_iff_eq_append.mp (List.isPrefixOf_iff_prefix.mp hop)).symm
    · obtain ⟨⟨a', b'⟩, hq, heq⟩ := Option.map_eq_some_iff.mp h
      obtain ⟨rfl, rfl⟩ := Prod.mk.inj heq
      rw [ih hq]
      rfl

/-- What is found has to be there. -/
lemma strstr_eq_none {op cs : List Char} {c : Char} (hop : c ∈ op) (hc : c ∉ cs) :
    strstr op cs = none := by
  rw [Option.eq_none_iff_forall_ne_some]
  rintro ⟨a, b⟩ h
  rw [eq_of_strstr h] at hc
  exact hc (List.mem_append_right _ (List.mem_append_left _ hop))

/-- The first occurrence is found. -/
lemma strstr_append {op a b : List Char} {c : Char} (hop : op.head? = some c) (ha : c ∉ a) :
    strstr op (a ++ (op ++ b)) = some (a, b) := by
  obtain ⟨op', rfl⟩ : ∃ op', op = c :: op' := by
    cases op with
    | nil => cases hop
    | cons d op' =>
      cases hop
      exact ⟨op', rfl⟩
  induction a with
  | nil => simp [strstr]
  | cons d a ih =>
    rw [List.mem_cons, not_or] at ha
    have hprefix : (c :: op').isPrefixOf (d :: (a ++ (c :: op' ++ b))) = false := by
      simp [List.isPrefixOf, ha.1]
    rw [List.cons_append, strstr, hprefix, ih ha.2]
    rfl

lemma eq_of_strchr {c : Char} {cs a b : List Char} (h : strchr c cs = some (a, b)) :
    cs = a ++ c :: b := eq_of_strstr h

lemma strchr_append {c : Char} {a b : List Char} (ha : c ∉ a) :
    strchr c (a ++ c :: b) = some (a, b) := strstr_append rfl ha

lemma strchr_eq_none_iff {c : Char} {cs : List Char} : strchr c cs = none ↔ c ∉ cs := by
  constructor
  · intro h hc
    obtain ⟨a, b, rfl, ha⟩ := List.eq_append_cons_of_mem hc
    rw [strchr_append ha] at h
    cases h
  · exact fun h => strstr_eq_none List.mem_cons_self h

/-- Found at the start. -/
lemma strchr_cons (c : Char) (cs : List Char) : strchr c (c :: cs) = some ([], cs) :=
  strchr_append (a := []) List.not_mem_nil

/-! ## Numbers -/

/-- The digits of a base at the front. -/
def digitsIn (base : Nat) : List Char → List Nat
  | [] => []
  | c :: cs =>
    match (digitVal c).filter (· < base) with
    | some d => d :: digitsIn base cs
    | none => []

/-- The number some digits stand for, the first one leading. -/
def valueIn (base : Nat) (ds : List Nat) : Nat := ds.foldl (fun v d => v * base + d) 0

/-- The base of a number that may have a prefix, and the text behind the prefix. -/
def guessBase : List Char → Nat × List Char
  | '0' :: x :: cs =>
    if (x = 'x' ∨ x = 'X') ∧ (cs.head?.bind digitVal).isSome then (16, cs) else (8, x :: cs)
  | cs => (10, cs)

/-- `strtoul`; base 0 is the one the text itself gives. -/
def strtoul (base : Nat) (cs : List Char) : BitVec 64 :=
  let (neg, _, cs) := sign cs.length (cs.dropWhile isSpace)
  let (base, cs) := if base = 0 then guessBase cs else (base, cs)
  let v := valueIn base (digitsIn base cs)
  if v < 0x10000000000000000 then if neg then -BitVec.ofNat 64 v else BitVec.ofNat 64 v
  else BitVec.allOnes 64

/-- An unsigned number as it is written: in decimal without leading zeros, or in hexadecimal behind
`0x`.  It fits a machine word. -/
structure Numeral where
  hex : Bool
  digits : List Char
  nonempty : digits ≠ []
  areDigits : ∀ c ∈ digits, ((digitVal c).filter (· < if hex then 16 else 10)).isSome
  noLeadingZero : hex = false → digits.head? = some '0' → digits = ['0']
  fits : valueIn (if hex then 16 else 10) (digits.filterMap digitVal) < 0x10000000000000000

namespace Numeral

def base (n : Numeral) : Nat := if n.hex then 16 else 10

def text (n : Numeral) : List Char := if n.hex then '0' :: 'x' :: n.digits else n.digits

def value (n : Numeral) : BitVec 64 :=
  BitVec.ofNat 64 (valueIn n.base (n.digits.filterMap digitVal))

/-- A numeral of one decimal digit. -/
def small (d : Fin 10) : Numeral where
  hex := false
  digits := [Char.ofNat (48 + d)]
  nonempty := nofun
  areDigits := List.forall_mem_singleton.mpr (by decide +revert)
  noLeadingZero := by decide +revert
  fits := by decide +revert

@[simp] lemma value_small (d : Fin 10) : (small d).value = BitVec.ofNat 64 d := by
  decide +revert

end Numeral

/-! ## Reading numerals -/

lemma digitsIn_eq {base : Nat} {cs : List Char}
    (h : ∀ c ∈ cs, ((digitVal c).filter (· < base)).isSome) :
    digitsIn base cs = cs.filterMap digitVal := by
  induction cs with
  | nil => rfl
  | cons c cs ih =>
    obtain ⟨d, hd⟩ := Option.isSome_iff_exists.mp (h c List.mem_cons_self)
    rw [digitsIn, hd, ih fun c hc => h c (List.mem_cons_of_mem _ hc),
      List.filterMap_cons_some (Option.filter_eq_some_iff.mp hd).1]

/-- The digits are no other characters. -/
lemma digitVal_char {c : Char} (h : (digitVal c).isSome) :
    isSpace c = false ∧ c ∉ ['+', '-', '*', '/', '=', '!', ':', '$', '&', 'x', 'X'] := by
  have hne (d : Char) (hd : digitVal d = none) : c ≠ d := by
    rintro rfl
    rw [hd] at h
    cases h
  constructor
  · rw [isSpace, Bool.or_eq_false_iff, decide_eq_false_iff_not, Bool.and_eq_false_iff,
      decide_eq_false_iff_not, decide_eq_false_iff_not]
    refine ⟨hne ' ' (by decide), ?_⟩
    simp only [digitVal] at h
    split at h
    · omega
    · split at h
      · omega
      · split at h
        · omega
        · cases h
  · simp only [List.mem_cons, List.not_mem_nil, or_false, not_or]
    exact ⟨hne _ (by decide), hne _ (by decide), hne _ (by decide), hne _ (by decide),
      hne _ (by decide), hne _ (by decide), hne _ (by decide), hne _ (by decide),
      hne _ (by decide), hne _ (by decide), hne _ (by decide)⟩

/-- Decimal digits are no letters. -/
lemma isAlpha_of_digit {c : Char} {d : Nat} (h : digitVal c = some d) (hd : d < 10) :
    c.isAlpha = false := by
  rw [Bool.eq_false_iff]
  intro halpha
  change (decide (65 ≤ c.val ∧ c.val ≤ 90) || (decide (97 ≤ c.val) && decide (c.val ≤ 122))) =
    true at halpha
  simp only [Bool.or_eq_true, Bool.and_eq_true, decide_eq_true_eq, UInt32.le_iff_toNat_le] at halpha
  have hrange : 65 ≤ c.toNat ∧ c.toNat ≤ 90 ∨ 97 ≤ c.toNat ∧ c.toNat ≤ 122 := halpha
  simp only [digitVal] at h
  split at h
  · omega
  · split at h
    · cases h
      omega
    · split at h
      · cases h
        omega
      · cases h

/-- A sign and blanks are not there to be skipped. -/
lemma strtoul_zero_of_digit {c : Char} {cs : List Char} (h : (digitVal c).isSome) :
    strtoul 0 (c :: cs) =
      let (base, cs) := guessBase (c :: cs)
      let v := valueIn base (digitsIn base cs)
      if v < 0x10000000000000000 then BitVec.ofNat 64 v else BitVec.allOnes 64 := by
  obtain ⟨hspace, hc⟩ := digitVal_char h
  simp only [List.mem_cons, not_or] at hc
  have hsign : sign (c :: cs).length (c :: cs) = (false, (c :: cs).length, c :: cs) := by
    unfold sign
    split
    · rename_i heq
      exact absurd (List.cons.inj heq).1 hc.1
    · rename_i heq
      exact absurd (List.cons.inj heq).1 hc.2.1
    · rfl
  have hdrop : (c :: cs).dropWhile isSpace = c :: cs := by
    rw [List.dropWhile_cons, hspace]
    rfl
  simp only [strtoul, hdrop, hsign, if_true, Bool.false_eq_true, if_false]

namespace Numeral

lemma isSome_digitVal (n : Numeral) {c : Char} (hc : c ∈ n.digits) : (digitVal c).isSome := by
  obtain ⟨d, hd⟩ := Option.isSome_iff_exists.mp (n.areDigits c hc)
  rw [(Option.filter_eq_some_iff.mp hd).1]
  rfl

/-- The base is guessed from the way the number is written. -/
lemma guessBase_text (n : Numeral) : guessBase n.text = (n.base, n.digits) := by
  obtain ⟨c, cs, hcs⟩ := List.exists_cons_of_ne_nil n.nonempty
  have hc := n.isSome_digitVal (c := c) (by rw [hcs]; exact List.mem_cons_self)
  cases hhex : n.hex with
  | true =>
    rw [text, base, hhex, if_pos rfl, if_pos rfl, hcs, guessBase, if_pos]
    exact ⟨.inl rfl, hc⟩
  | false =>
    rw [text, base, hhex, if_neg (by decide), if_neg (by decide)]
    have hlead := n.noLeadingZero hhex
    rw [hcs] at hlead ⊢
    unfold guessBase
    split
    · rename_i heq
      obtain ⟨rfl, rfl⟩ := List.cons.inj heq
      exact absurd (hlead rfl) (by simp)
    · rfl

/-- The first character is a digit. -/
lemma exists_text (n : Numeral) : ∃ c cs, n.text = c :: cs ∧ (digitVal c).isSome ∧
    c.isAlpha = false := by
  obtain ⟨c, cs, hcs⟩ := List.exists_cons_of_ne_nil n.nonempty
  cases hhex : n.hex with
  | true =>
    refine ⟨'0', 'x' :: n.digits, ?_, by decide, by decide⟩
    rw [text, hhex, if_pos rfl]
  | false =>
    have hc := n.areDigits c (by rw [hcs]; exact List.mem_cons_self)
    refine ⟨c, cs, ?_, n.isSome_digitVal (by rw [hcs]; exact List.mem_cons_self), ?_⟩
    · rw [text, hhex, if_neg (by decide), hcs]
    · rw [hhex, if_neg (by decide)] at hc
      obtain ⟨d, hd⟩ := Option.isSome_iff_exists.mp hc
      obtain ⟨hd, hlt⟩ := Option.filter_eq_some_iff.mp hd
      rw [decide_eq_true_eq] at hlt
      exact isAlpha_of_digit hd hlt

/-- Other characters do not occur. -/
lemma notMem_text (n : Numeral) {c : Char} (hc : c ∈ ['+', '-', '*', '/', '=', '!', ':']) :
    c ∉ n.text := by
  have hx : c ≠ '0' ∧ c ≠ 'x' := by
    constructor
    · rintro rfl
      revert hc
      decide
    · rintro rfl
      revert hc
      decide
  have hdigits : c ∉ n.digits := fun hmem => by
    refine (digitVal_char (n.isSome_digitVal hmem)).2 ?_
    exact List.mem_append_left ['$', '&', 'x', 'X'] hc
  rw [text]
  split
  · simp [hx, hdigits]
  · exact hdigits

/-- **A numeral is read as its value.** -/
lemma strtoul_text (n : Numeral) : strtoul 0 n.text = n.value := by
  obtain ⟨c, cs, htext, hc, _⟩ := n.exists_text
  have hguess := n.guessBase_text
  have hbase : n.base = if n.hex then 16 else 10 := rfl
  have hdigits : digitsIn n.base n.digits = n.digits.filterMap digitVal :=
    digitsIn_eq fun c hc => by rw [hbase]; exact n.areDigits c hc
  rw [htext] at hguess ⊢
  rw [strtoul_zero_of_digit hc, hguess]
  simp only [hdigits]
  rw [if_pos (by rw [hbase]; exact n.fits), value]

end Numeral

end CText
