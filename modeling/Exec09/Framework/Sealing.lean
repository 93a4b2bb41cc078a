import Mathlib.Data.List.Basic

/-!
# Cells that can be sealed

A cell is overwritten until a value seals it; from then on it keeps that value.  A writer may also
leave the cell alone.  What a list of writers leaves is the value of one of them: the last to write
up to the first that seals.
-/

namespace Sealing

variable {α β : Type*} (seals : α → Bool) (value : β → Option α)

/-- What a writer leaves in a cell that holds `cur`. -/
def write (cur : α) (c : β) : α :=
  match value c with
  | some x => if seals cur then cur else x
  | none => cur

/-- The writer of `l` whose value `x` stays: the last to write up to the first that seals. -/
def Decides (l : List β) (c : β) (x : α) : Prop :=
  ∃ pre post, l = pre ++ c :: post ∧ value c = some x ∧
    (∀ d ∈ pre, ∀ y, value d = some y → seals y = false) ∧
    (seals x = true ∨ ∀ d ∈ post, value d = none)

variable {seals value} {cur x : α} {l : List β} {c : β}

lemma write_none (h : value c = none) : write seals value cur c = cur := by
  rw [write, h]

lemma write_sealed (h : seals cur = true) : write seals value cur c = cur := by
  unfold write
  split
  · exact if_pos h
  · rfl

lemma write_some (h : value c = some x) (hcur : seals cur = false) :
    write seals value cur c = x := by
  rw [write, h]
  exact if_neg (by rw [hcur]; exact Bool.false_ne_true)

lemma foldl_none (h : ∀ d ∈ l, value d = none) : l.foldl (write seals value) cur = cur := by
  induction l with
  | nil => rfl
  | cons d l ih =>
    rw [List.foldl_cons, write_none (h d List.mem_cons_self)]
    exact ih fun d' hd => h d' (List.mem_cons_of_mem d hd)

lemma foldl_sealed (h : seals cur = true) : l.foldl (write seals value) cur = cur := by
  induction l with
  | nil => rfl
  | cons d l ih => rw [List.foldl_cons, write_sealed h, ih]

/-- As long as no writer seals it the cell is not sealed. -/
lemma foldl_unsealed (h : ∀ d ∈ l, ∀ y, value d = some y → seals y = false)
    (hcur : seals cur = false) : seals (l.foldl (write seals value) cur) = false := by
  induction l generalizing cur with
  | nil => exact hcur
  | cons d l ih =>
    rw [List.foldl_cons]
    refine ih (fun d' hd => h d' (List.mem_cons_of_mem d hd)) ?_
    cases hd : value d with
    | none => rwa [write_none hd]
    | some y =>
      rw [write_some hd hcur]
      exact h d List.mem_cons_self y hd

/-- The deciding writer's value is what stays. -/
lemma foldl_of_decides (hcur : seals cur = false) (h : Decides seals value l c x) :
    l.foldl (write seals value) cur = x := by
  obtain ⟨pre, post, rfl, hc, hpre, hpost⟩ := h
  rw [List.foldl_append, List.foldl_cons, write_some hc (foldl_unsealed hpre hcur)]
  rcases hpost with hsealed | hnone
  · exact foldl_sealed hsealed
  · exact foldl_none hnone

/-- Some writer decides as soon as one writes. -/
lemma exists_decides (h : ∃ d ∈ l, (value d).isSome) : ∃ c x, Decides seals value l c x := by
  induction l with
  | nil =>
    obtain ⟨d, hd, -⟩ := h
    exact absurd hd List.not_mem_nil
  | cons d l ih =>
    -- `d` decides when it seals or when nobody writes after it; otherwise the rest decides
    by_cases hrest : ∃ d' ∈ l, (value d').isSome
    · by_cases hseal : ∃ x, value d = some x ∧ seals x = true
      · obtain ⟨x, hx, hs⟩ := hseal
        exact ⟨d, x, [], l, rfl, hx, fun _ hd => absurd hd List.not_mem_nil, .inl hs⟩
      · obtain ⟨c, x, pre, post, hl, hc, hpre, hpost⟩ := ih hrest
        refine ⟨c, x, d :: pre, post, by rw [hl, List.cons_append], hc, ?_, hpost⟩
        intro d' hd' y hy
        rcases List.mem_cons.mp hd' with rfl | hd'
        · exact Bool.eq_false_iff.mpr fun hs => hseal ⟨y, hy, hs⟩
        · exact hpre d' hd' y hy
    · obtain ⟨d', hd', hsome⟩ := h
      rcases List.mem_cons.mp hd' with rfl | hd'
      · obtain ⟨x, hx⟩ := Option.isSome_iff_exists.mp hsome
        refine ⟨d', x, [], l, rfl, hx, fun _ hd => absurd hd List.not_mem_nil, .inr fun c hc => ?_⟩
        exact Option.not_isSome_iff_eq_none.mp fun hc' => hrest ⟨c, hc, hc'⟩
      · exact absurd ⟨d', hd', hsome⟩ hrest

end Sealing
