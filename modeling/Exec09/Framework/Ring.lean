import Mathlib.Data.List.Basic

/-!
# The last entries of a log in a ring

A ring of `N` cells with the place of the next entry.  Each entry overwrites the oldest one, so the
ring holds the last `N` entries of the log, the oldest of them in the cell that is written next.
-/

namespace Ring

variable {α : Type} {N : Nat} {l : List α} {buf : Nat → α} {pos : Nat}

/-- The ring holds the end of the log `l`. -/
structure Logs (N : Nat) (l : List α) (buf : Nat → α) (pos : Nat) : Prop where
  pos_eq : pos = l.length % N
  recent : ∀ i (h : i < l.length), l.length ≤ i + N → buf (i % N) = l[i]

lemma Logs.nil (N : Nat) (buf : Nat → α) : Logs N [] buf 0 :=
  ⟨(Nat.zero_mod N).symm, fun _ h => absurd h (Nat.not_lt_zero _)⟩

/-- An entry goes to the cell at `pos`. -/
lemma Logs.push (h : Logs N l buf pos) (x : α) :
    Logs N (l ++ [x]) (fun i => if i = pos then x else buf i) ((pos + 1) % N) := by
  constructor
  · rw [h.pos_eq, List.length_append, List.length_singleton, Nat.mod_add_mod]
  · intro i hi hle
    rw [List.length_append, List.length_singleton] at hi hle
    by_cases hlast : i = l.length
    · subst hlast
      rw [if_pos h.pos_eq.symm, List.getElem_concat_length]
      rfl
    · have hi' : i < l.length := by omega
      -- the cells of the `N` last entries are different
      have hne : i % N ≠ pos := by
        rw [h.pos_eq]
        intro heq
        have hmod : (l.length - i) % N = 0 := Nat.sub_mod_eq_zero_of_mod_eq heq.symm
        rw [Nat.mod_eq_of_lt (by omega)] at hmod
        omega
      rw [if_neg hne, List.getElem_append_left hi']
      exact h.recent i hi' (by omega)

/-- The `k` cells up to the next place, in order. -/
lemma Logs.last (h : Logs N l buf pos) {k : Nat} (hk : k ≤ N) (hl : k ≤ l.length) :
    (List.range k).map (fun i => buf ((pos + (N - k) + i) % N)) = l.drop (l.length - k) := by
  apply List.ext_getElem
  · rw [List.length_map, List.length_range, List.length_drop]
    omega
  · intro i hi hi'
    rw [List.length_map, List.length_range] at hi
    rw [List.getElem_map, List.getElem_range, List.getElem_drop,
      ← h.recent (l.length - k + i) (by omega) (by omega)]
    congr 1
    have hsum : l.length + (N - k) + i = l.length - k + i + N := by omega
    rw [h.pos_eq, Nat.add_assoc, Nat.mod_add_mod, ← Nat.add_assoc, hsum, Nat.add_mod_right]

end Ring
