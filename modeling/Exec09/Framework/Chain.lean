import Mathlib.Data.List.Basic
import Mathlib.Logic.Function.Basic
import Mathlib.Tactic.Common

/-!
# Chains of records

Singly linked lists whose link is a field of the records themselves, so that one record can be on
several chains.  `Links` says which records a pointer leads to; records are added at the head.
`Indexed` is a table of chains, one for each key, the records in the order of their allocation.
-/

namespace Chain

variable {α : Type}

/-- Follow the links from a pointer on to the first record that passes the test, looking at no more
than the given number of records. -/
def find (next : α → Option α) (test : α → Bool) : Nat → Option α → Option α
  | 0, _ => none
  | _ + 1, none => none
  | n + 1, some a => if test a then some a else find next test n (next a)

/-- The records a pointer leads to, in order. -/
inductive Links (next : α → Option α) : Option α → List α → Prop
  | nil : Links next none []
  | cons {a : α} {l : List α} : Links next (next a) l → Links next (some a) (a :: l)

namespace Links

variable {next next' : α → Option α} {head : Option α} {l l' : List α}

/-- A search goes through the records in order. -/
lemma find_eq (h : Links next head l) (test : α → Bool) {n : Nat} (hn : l.length ≤ n) :
    find next test n head = l.find? test := by
  induction h generalizing n with
  | nil => cases n <;> rfl
  | cons _ ih =>
    rename_i a l _
    obtain ⟨m, rfl⟩ := Nat.exists_eq_succ_of_ne_zero (Nat.ne_zero_of_lt hn)
    rw [find, List.find?_cons]
    split
    · rename_i ht
      rw [ht]
    · rename_i ht
      rw [Bool.not_eq_true] at ht
      rw [ht]
      exact ih (Nat.le_of_succ_le_succ hn)

/-- Other links do not matter. -/
lemma congr (h : Links next head l) (hnext : ∀ a ∈ l, next' a = next a) : Links next' head l := by
  induction h with
  | nil => exact .nil
  | cons _ ih =>
    rename_i a l _
    refine .cons ?_
    rw [hnext a List.mem_cons_self]
    exact ih fun b hb => hnext b (List.mem_cons_of_mem a hb)

/-- A pointer leads to one list only. -/
lemma unique (h : Links next head l) (h' : Links next head l') : l = l' := by
  induction h generalizing l' with
  | nil =>
    cases h'
    rfl
  | cons _ ih =>
    cases h' with
    | cons h' => rw [ih h']

/-- A record that is not on the chain becomes its head. -/
lemma push [DecidableEq α] {a : α} (h : Links next head l) (ha : a ∉ l)
    (hnext : next' = Function.update next a head) : Links next' (some a) (a :: l) := by
  refine .cons ?_
  rw [hnext, Function.update_self]
  refine h.congr fun b hb => Function.update_of_ne ?_ _ _
  rintro rfl
  exact ha hb

end Links

/-! ## Tables of chains -/

/-- The numbers below `n`, the largest first. -/
def newestFirst : Nat → List Nat
  | 0 => []
  | n + 1 => n :: newestFirst n

lemma mem_newestFirst {n i : Nat} : i ∈ newestFirst n ↔ i < n := by
  induction n with
  | zero => simp [newestFirst]
  | succ n ih =>
    rw [newestFirst, List.mem_cons, ih]
    omega

lemma length_newestFirst (n : Nat) : (newestFirst n).length = n := by
  induction n with
  | zero => rfl
  | succ n ih => exact congrArg Nat.succ ih

variable {κ : Type} [DecidableEq κ]

/-- The chain of each key holds the records below `n` with that key, the newest first. -/
def Indexed (next : Nat → Option Nat) (heads : κ → Option Nat) (key : Nat → κ) (n : Nat) : Prop :=
  ∀ k, Links next (heads k) ((newestFirst n).filter fun i => key i = k)

lemma indexed_zero (next : Nat → Option Nat) (key : Nat → κ) :
    Indexed next (fun _ => none) key 0 := fun _ => .nil

namespace Indexed

variable {next next' : Nat → Option Nat} {heads heads' : κ → Option Nat} {key key' : Nat → κ}
  {n : Nat}

/-- Only the records below `n` count. -/
lemma congr (h : Indexed next heads key n) (hnext : ∀ i < n, next' i = next i)
    (hkey : ∀ i < n, key' i = key i) : Indexed next' heads key' n := by
  intro k
  have hsame : ((newestFirst n).filter fun i => key' i = k) =
      (newestFirst n).filter fun i => key i = k :=
    List.filter_congr fun i hi => by rw [hkey i (mem_newestFirst.mp hi)]
  rw [hsame]
  exact (h k).congr fun i hi => hnext i (mem_newestFirst.mp (List.mem_filter.mp hi).1)

/-- The next record becomes the head of the chain of its key. -/
lemma push (h : Indexed next heads key n) {k : κ}
    (hnext : next' = Function.update next n (heads k))
    (hheads : heads' = Function.update heads k (some n)) (hkey : key' = Function.update key n k) :
    Indexed next' heads' key' (n + 1) := by
  have hold : Indexed next heads key' n := h.congr (fun _ _ => rfl) fun i hi => by
    rw [hkey, Function.update_of_ne (Nat.ne_of_lt hi)]
  intro k'
  rw [newestFirst, List.filter_cons, hkey, Function.update_self, ← hkey]
  by_cases hk : k' = k
  · subst hk
    rw [if_pos (by simp), hheads, Function.update_self]
    refine (hold k').push (fun hn => ?_) hnext
    exact absurd (mem_newestFirst.mp (List.mem_filter.mp hn).1) (Nat.lt_irrefl n)
  · rw [if_neg (by simpa using Ne.symm hk), hheads, Function.update_of_ne hk]
    refine (hold k').congr fun i hi => ?_
    have hi' := mem_newestFirst.mp (List.mem_filter.mp hi).1
    rw [hnext, Function.update_of_ne (Nat.ne_of_lt hi')]

/-- A search on the chain of a key is one among the records with that key. -/
lemma find_eq (h : Indexed next heads key n) (k : κ) (test : Nat → Bool) :
    find next test n (heads k) = (newestFirst n).find? fun i => decide (key i = k) && test i := by
  have hlen : ((newestFirst n).filter fun i => key i = k).length ≤ n :=
    Nat.le_trans (List.length_filter_le _ _) (Nat.le_of_eq (length_newestFirst n))
  rw [(h k).find_eq test hlen, List.find?_filter]
  congr 1
  funext i
  rw [Bool.decide_and, Bool.decide_eq_true, Bool.decide_eq_true]

/-- The records on the chain of a key. -/
lemma mem_iff (h : Indexed next heads key n) {k : κ} {i : Nat} :
    (∃ l, Links next (heads k) l ∧ i ∈ l) ↔ i < n ∧ key i = k := by
  constructor
  · rintro ⟨l, hl, hi⟩
    rw [hl.unique (h k), List.mem_filter, mem_newestFirst] at hi
    exact ⟨hi.1, of_decide_eq_true hi.2⟩
  · rintro ⟨hi, hk⟩
    exact ⟨_, h k, List.mem_filter.mpr ⟨mem_newestFirst.mpr hi, decide_eq_true hk⟩⟩

end Indexed

end Chain
