import Mathlib.Tactic.Common
import Mathlib.Tactic.Ring

/-!
# Scanning hexadecimal text

`fscanf` for formats made of literal characters and of hexadecimal fields with a width.  A field may
have a sign and the prefix `0x`, which count towards the width.  A file is the list of characters
still to be read.  `hexField` is the other direction, a number printed with
a fixed number of digits, and `fscanf_hexField` says that it is read back.
-/

namespace Scan

/-- `isspace`. -/
def isSpace (c : Char) : Bool := c = ' ' || (9 ≤ c.toNat && c.toNat ≤ 13)

/-- The value of a hexadecimal digit, in either case. -/
def digitVal (c : Char) : Option Nat :=
  let n := c.toNat
  if 48 ≤ n ∧ n ≤ 57 then some (n - 48)
  else if 65 ≤ n ∧ n ≤ 70 then some (n - 55)
  else if 97 ≤ n ∧ n ≤ 102 then some (n - 87)
  else none

/-- The digits at the front, at most `n` of them. -/
def digits : Nat → List Char → List Nat × List Char
  | 0, cs => ([], cs)
  | _ + 1, [] => ([], [])
  | n + 1, c :: cs =>
    match digitVal c with
    | some d => (d :: (digits n cs).1, (digits n cs).2)
    | none => ([], c :: cs)

/-- The number some digits stand for, the first one leading. -/
def value (ds : List Nat) : Nat := ds.foldl (fun v d => v * 16 + d) 0

/-- A sign, if there is one, and what it leaves of the width. -/
def sign : Nat → List Char → Bool × Nat × List Char
  | n + 1, '+' :: cs => (false, n, cs)
  | n + 1, '-' :: cs => (true, n, cs)
  | n, cs => (false, n, cs)

/-- The same for the prefix `0x`. -/
def skipBase : Nat → List Char → Nat × List Char
  | n + 2, '0' :: 'x' :: cs => (n, cs)
  | n + 2, '0' :: 'X' :: cs => (n, cs)
  | n, cs => (n, cs)

/-- A number as `%x` reads it: it needs a digit behind the sign and the prefix. -/
def number (width : Nat) (cs : List Char) : Option Int × List Char :=
  let (neg, n, cs) := sign width cs
  let (n, cs) := skipBase n cs
  match digits n cs with
  | ([], rest) => (none, rest)
  | (ds, rest) => (some (if neg then -(value ds : Int) else value ds), rest)

/-- What a format asks for. -/
inductive Directive
  /-- This character. -/
  | lit (c : Char)
  /-- A hexadecimal number of at most `width` characters, after white space. -/
  | hex (width : Nat)
  deriving DecidableEq, Repr

/-- The numbers that could be assigned before the first directive that failed, and what is left to
be read. -/
def fscanf : List Directive → List Char → List Int × List Char
  | [], cs => ([], cs)
  | .lit _ :: _, [] => ([], [])
  | .lit c :: fmt, d :: cs => if d = c then fscanf fmt cs else ([], d :: cs)
  | .hex width :: fmt, cs =>
    match number width (cs.dropWhile isSpace) with
    | (none, rest) => ([], rest)
    | (some v, rest) => (v :: (fscanf fmt rest).1, (fscanf fmt rest).2)

/-! ## Printing -/

/-- A digit, in upper case. -/
def hexChar (d : Nat) : Char := "0123456789ABCDEF".toList.getD d '0'

/-- The last `n` hexadecimal digits of `v`. -/
def hexField : Nat → Nat → List Char
  | 0, _ => []
  | n + 1, v => hexChar (v / 16 ^ n % 16) :: hexField n v

/-! ## Reading back what was printed -/

lemma hexChar_spec : ∀ d < 16, digitVal (hexChar d) = some d ∧ isSpace (hexChar d) = false ∧
    hexChar d ∉ ['+', '-', 'x', 'X'] := by
  decide

lemma digitVal_hexChar (v n : Nat) : digitVal (hexChar (v / n % 16)) = some (v / n % 16) :=
  (hexChar_spec _ (Nat.mod_lt _ (by decide))).1

lemma isSpace_hexChar (v n : Nat) : isSpace (hexChar (v / n % 16)) = false :=
  (hexChar_spec _ (Nat.mod_lt _ (by decide))).2.1

/-- A digit is neither a sign nor the letter of the prefix. -/
lemma hexChar_notMem (v n : Nat) : hexChar (v / n % 16) ∉ ['+', '-', 'x', 'X'] :=
  (hexChar_spec _ (Nat.mod_lt _ (by decide))).2.2

/-- What is read of a printed field: its digits, and the number they stand for. -/
lemma digits_hexField (n v : Nat) (cs : List Char) :
    (digits n (hexField n v ++ cs)).2 = cs ∧ ∀ acc : Nat,
      (digits n (hexField n v ++ cs)).1.foldl (fun v d => v * 16 + d) acc =
        acc * 16 ^ n + v % 16 ^ n := by
  induction n with
  | zero => simp [digits, hexField, Nat.mod_one]
  | succ n ih =>
      simp only [hexField, List.cons_append, digits, digitVal_hexChar]
      refine ⟨ih.1, fun acc => ?_⟩
      rw [List.foldl_cons, ih.2, Nat.mod_pow_succ, Nat.pow_succ]
      ring

lemma sign_of_notMem {n : Nat} {c : Char} {cs : List Char} (h : c ∉ ['+', '-', 'x', 'X']) :
    sign n (c :: cs) = (false, n, c :: cs) := by
  simp only [List.mem_cons, not_or] at h
  unfold sign
  split
  · rename_i heq
    exact absurd (List.cons.inj heq).1 h.1
  · rename_i heq
    exact absurd (List.cons.inj heq).1 h.2.1
  · rfl

lemma skipBase_of_notMem {n : Nat} {b c : Char} {cs : List Char} (h : c ∉ ['+', '-', 'x', 'X']) :
    skipBase n (b :: c :: cs) = (n, b :: c :: cs) := by
  simp only [List.mem_cons, not_or] at h
  unfold skipBase
  split
  · rename_i heq
    exact absurd (List.cons.inj (List.cons.inj heq).2).1 h.2.2.1
  · rename_i heq
    exact absurd (List.cons.inj (List.cons.inj heq).2).1 h.2.2.2.1
  · rfl

/-- Nothing is skipped before a printed number. -/
lemma skip_hexField (n v : Nat) (cs : List Char) :
    sign (n + 1) (hexField (n + 1) v ++ cs) = (false, n + 1, hexField (n + 1) v ++ cs) ∧
    skipBase (n + 1) (hexField (n + 1) v ++ cs) = (n + 1, hexField (n + 1) v ++ cs) := by
  refine ⟨sign_of_notMem (hexChar_notMem v _), ?_⟩
  cases n with
  | zero => simp [skipBase]
  | succ n => exact skipBase_of_notMem (hexChar_notMem v _)

@[simp] lemma fscanf_nil (cs : List Char) : fscanf [] cs = ([], cs) := by
  simp [fscanf]

@[simp] lemma fscanf_lit (c : Char) (fmt : List Directive) (cs : List Char) :
    fscanf (.lit c :: fmt) (c :: cs) = fscanf fmt cs := by
  simp [fscanf]

/-- A printed number that fits its field is read back. -/
lemma number_hexField {n v : Nat} (hn : n ≠ 0) (hv : v < 16 ^ n) (cs : List Char) :
    number n (hexField n v ++ cs) = (some (v : Int), cs) := by
  obtain ⟨m, rfl⟩ := Nat.exists_eq_succ_of_ne_zero hn
  obtain ⟨hrest, hval⟩ := digits_hexField (m + 1) v cs
  obtain ⟨hsign, hbase⟩ := skip_hexField m v cs
  have hne : (digits (m + 1) (hexField (m + 1) v ++ cs)).1 ≠ [] := by
    simp [hexField, digits, digitVal_hexChar]
  simp only [number, Nat.succ_eq_add_one, hsign, hbase, Bool.false_eq_true, if_false]
  rw [hrest, value, hval 0, Nat.mod_eq_of_lt hv, Nat.zero_mul, Nat.zero_add]

lemma fscanf_hexField {n v : Nat} (hn : n ≠ 0) (hv : v < 16 ^ n) (fmt : List Directive)
    (cs : List Char) : fscanf (.hex n :: fmt) (hexField n v ++ cs) =
      ((v : Int) :: (fscanf fmt cs).1, (fscanf fmt cs).2) := by
  have hskip : (hexField n v ++ cs).dropWhile isSpace = hexField n v ++ cs := by
    obtain ⟨m, rfl⟩ := Nat.exists_eq_succ_of_ne_zero hn
    rw [hexField, List.cons_append, List.dropWhile_cons_of_neg (by simp [isSpace_hexChar])]
  rw [fscanf, hskip, number_hexField hn hv]

/-! ## Reading arbitrary text -/

lemma digitVal_lt {c : Char} {d : Nat} (h : digitVal c = some d) : d < 16 := by
  unfold digitVal at h
  simp only at h
  split_ifs at h <;> cases h <;> omega

/-- There are at most as many digits as the width allows, each below 16. -/
lemma digits_spec (n : Nat) (cs : List Char) :
    (digits n cs).1.length ≤ n ∧ (∀ d ∈ (digits n cs).1, d < 16) ∧
      (digits n cs).2.length ≤ cs.length := by
  induction n generalizing cs with
  | zero => simp [digits]
  | succ n ih =>
      cases cs with
      | nil => simp [digits]
      | cons c cs =>
          obtain ⟨hlen, hlt, hrest⟩ := ih cs
          rw [digits]
          cases hd : digitVal c with
          | none => simp
          | some d =>
              refine ⟨Nat.succ_le_succ hlen, fun e he => ?_, Nat.le_succ_of_le hrest⟩
              rcases List.mem_cons.mp he with rfl | he
              · exact digitVal_lt hd
              · exact hlt e he

lemma foldl_value_lt {ds : List Nat} (h : ∀ d ∈ ds, d < 16) (acc : Nat) :
    ds.foldl (fun v d => v * 16 + d) acc < (acc + 1) * 16 ^ ds.length := by
  induction ds generalizing acc with
  | nil => simp
  | cons d ds ih =>
      have hd : d < 16 := h d List.mem_cons_self
      have htail := ih (fun e he => h e (List.mem_cons_of_mem _ he)) (acc * 16 + d)
      rw [List.foldl_cons, List.length_cons, Nat.pow_succ]
      calc ds.foldl (fun v d => v * 16 + d) (acc * 16 + d)
          < (acc * 16 + d + 1) * 16 ^ ds.length := htail
        _ ≤ ((acc + 1) * 16) * 16 ^ ds.length := Nat.mul_le_mul_right _ (by omega)
        _ = (acc + 1) * (16 ^ ds.length * 16) := by ring

lemma value_digits_lt (n : Nat) (cs : List Char) : value (digits n cs).1 < 16 ^ n := by
  obtain ⟨hlen, hlt, -⟩ := digits_spec n cs
  have h := foldl_value_lt hlt 0
  rw [Nat.zero_add, Nat.one_mul] at h
  exact Nat.lt_of_lt_of_le h (Nat.pow_le_pow_right (by decide) hlen)

/-- A sign takes one of the characters. -/
lemma sign_spec (n : Nat) (cs : List Char) :
    (sign n cs).2.1 ≤ n ∧ ((sign n cs).1 = true → (sign n cs).2.1 + 1 = n) ∧
      (sign n cs).2.2.length ≤ cs.length := by
  unfold sign
  split <;> simp

lemma skipBase_spec (n : Nat) (cs : List Char) :
    (skipBase n cs).1 ≤ n ∧ (skipBase n cs).2.length ≤ cs.length := by
  unfold skipBase
  split <;> simp <;> omega

/-- What is left of the text after a number. -/
lemma number_length (width : Nat) (cs : List Char) : (number width cs).2.length ≤ cs.length := by
  obtain ⟨-, -, hsign⟩ := sign_spec width cs
  obtain ⟨-, hbase⟩ := skipBase_spec (sign width cs).2.1 (sign width cs).2.2
  obtain ⟨-, -, hrest⟩ := digits_spec (skipBase (sign width cs).2.1 (sign width cs).2.2).1
    (skipBase (sign width cs).2.1 (sign width cs).2.2).2
  have h : (number width cs).2 = (digits (skipBase (sign width cs).2.1 (sign width cs).2.2).1
      (skipBase (sign width cs).2.1 (sign width cs).2.2).2).2 := by
    simp only [number]
    split <;> simp_all
  rw [h]
  omega

/-- The number is that of the digits behind the sign and the prefix. -/
lemma number_eq_some {width : Nat} {cs : List Char} {v : Int} (h : (number width cs).1 = some v) :
    ∃ m, m ≤ (sign width cs).2.1 ∧ ∃ x : Nat, x < 16 ^ m ∧
      v = if (sign width cs).1 then -(x : Int) else x := by
  obtain ⟨hbase, -⟩ := skipBase_spec (sign width cs).2.1 (sign width cs).2.2
  refine ⟨_, hbase, _, value_digits_lt _ (skipBase (sign width cs).2.1 (sign width cs).2.2).2, ?_⟩
  simp only [number] at h
  split at h
  · cases h
  · rename_i ds rest _ heq
    rw [heq]
    exact (Option.some.inj h).symm

/-- **The numbers a field can give**: a sign costs a digit. -/
lemma number_bounds {width : Nat} {cs : List Char} {v : Int}
    (h : (number (width + 1) cs).1 = some v) : -(16 ^ width : Int) < v ∧ v < 16 ^ (width + 1) := by
  obtain ⟨m, hm, x, hx, rfl⟩ := number_eq_some h
  obtain ⟨hle, hneg, -⟩ := sign_spec (width + 1) cs
  have hpow : (0 : Int) < 16 ^ width := Int.pow_pos (by decide)
  have htop {k : Nat} (hk : m ≤ k) : (x : Int) < 16 ^ k := by
    have hxk : x < 16 ^ k := Nat.lt_of_lt_of_le hx (Nat.pow_le_pow_right (by decide) hk)
    exact_mod_cast hxk
  split
  · rename_i hs
    have hx' := htop (k := width) (by have := hneg hs; omega)
    have hpow' : (0 : Int) < 16 ^ (width + 1) := Int.pow_pos (by decide)
    omega
  · have hx' := htop (k := width + 1) (by omega)
    omega

/-- A field, with the text before and behind it. -/
lemma fscanf_hex_cons {width : Nat} {fmt : List Directive} {cs rest : List Char} {v : Int}
    {vs : List Int} (h : fscanf (.hex width :: fmt) cs = (v :: vs, rest)) :
    ∃ cs', (number width (cs.dropWhile isSpace)).1 = some v ∧ cs'.length ≤ cs.length ∧
      fscanf fmt cs' = (vs, rest) := by
  have hlen := number_length width (cs.dropWhile isSpace)
  have hdrop := (List.dropWhile_suffix (l := cs) isSpace).length_le
  rw [fscanf] at h
  split at h
  · cases h
  · rename_i w cs' hnum
    rw [hnum] at hlen
    obtain ⟨hv, hrest⟩ := Prod.mk.inj h
    obtain ⟨rfl, rfl⟩ := List.cons.inj hv
    refine ⟨cs', by rw [hnum], Nat.le_trans hlen hdrop, ?_⟩
    rw [← hrest]

/-- Reading a single field. -/
lemma fscanf_hex_length (width : Nat) (cs : List Char) :
    (fscanf [.hex width] cs).2.length ≤ cs.length := by
  have hlen := number_length width (cs.dropWhile isSpace)
  have hdrop := (List.dropWhile_suffix (l := cs) isSpace).length_le
  rw [fscanf]
  split <;> rename_i h <;> rw [h] at hlen <;> simpa using Nat.le_trans hlen hdrop

/-- A literal, the first character of the text. -/
lemma fscanf_lit_cons {c : Char} {fmt : List Directive} {cs rest : List Char} {vs : List Int}
    (h : fscanf (.lit c :: fmt) cs = (vs, rest)) (hne : vs ≠ []) :
    ∃ cs', cs = c :: cs' ∧ fscanf fmt cs' = (vs, rest) := by
  cases cs with
  | nil =>
      rw [fscanf] at h
      exact absurd (Prod.mk.inj h).1.symm hne
  | cons d cs =>
      rw [fscanf] at h
      split at h
      · rename_i hd
        exact ⟨cs, by rw [hd], h⟩
      · exact absurd (Prod.mk.inj h).1.symm hne

end Scan
