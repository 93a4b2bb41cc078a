import Exec09.Framework.Ring
import Mathlib.Algebra.BigOperators.Group.Finset.Piecewise
import Mathlib.Algebra.BigOperators.Group.List.Basic
import Mathlib.Data.List.Rotate
import Mathlib.Tactic.Abel

/-!
# Running sums over a ring

A running sum takes back the entry that is about to be overwritten and adds the new value.  The ring
may keep values in a narrower form; `r` is what is read back of a value.  What the narrowing loses
is added and never taken back.
-/

namespace RollingSum

open Finset

variable {M : Type} [AddCommGroup M]

/-- The sum over the cells is that over the last `N` entries. -/
lemma sum_of_logs {α : Type} {N : Nat} {l : List α} {buf : Nat → α} {pos : Nat}
    (h : Ring.Logs N l buf pos) (hl : N ≤ l.length) (f : α → M) :
    ∑ i ∈ range N, f (buf i) = ((l.drop (l.length - N)).map f).sum := by
  have hrotate : (List.range N).map (fun i => (pos + (N - N) + i) % N) =
      (List.range N).rotate pos := by
    apply List.ext_getElem
    · rw [List.length_map, List.length_rotate]
    · intro i hi _
      rw [List.getElem_map, List.getElem_rotate, List.getElem_range, List.getElem_range,
        List.length_range, Nat.sub_self, Nat.add_zero, Nat.add_comm]
  have hlast : ((List.range N).rotate pos).map buf = l.drop (l.length - N) := by
    rw [← hrotate, List.map_map]
    exact h.last (Nat.le_refl N) hl
  calc ∑ i ∈ range N, f (buf i)
      = ((List.range N).map (f ∘ buf)).sum := rfl
    _ = (((List.range N).rotate pos).map (f ∘ buf)).sum :=
      ((List.rotate_perm _ _).map _).sum_eq.symm
    _ = ((l.drop (l.length - N)).map f).sum := by rw [← List.map_map, hlast]

/-- The cells, as they are read back, the next place, and the sum. -/
structure State (M : Type) where
  cells : Nat → M
  pos : Nat
  total : M

/-- The last `N` values, or all when there are fewer. -/
def recent {α : Type} (N : Nat) (l : List α) : List α := l.drop (l.length - N)

/-- The values that are no longer in the ring. -/
def evicted {α : Type} (N : Nat) (l : List α) : List α := l.take (l.length - N)

lemma evicted_append_recent {α : Type} (N : Nat) (l : List α) : evicted N l ++ recent N l = l :=
  List.take_append_drop _ _

section Run

variable (N : Nat) (r : M → M)

def push (s : State M) (x : M) : State M where
  cells i := if i = s.pos then r x else s.cells i
  pos := (s.pos + 1) % N
  total := s.total - s.cells s.pos + x

def start : State M := ⟨fun _ => 0, 0, 0⟩

/-- The state after the values `l`. -/
def run (l : List M) : State M := l.foldl (push N r) start

lemma run_concat (l : List M) (x : M) : run N r (l ++ [x]) = push N r (run N r l) x := by
  rw [run, List.foldl_append]
  rfl

/-- The ring as if it had been filled with zeros before. -/
lemma logs_run (l : List M) :
    Ring.Logs N (List.replicate N (0 : M) ++ l.map r) (run N r l).cells (run N r l).pos := by
  induction l using List.reverseRecOn with
  | nil =>
    rw [List.map_nil, List.append_nil]
    refine ⟨by rw [List.length_replicate, Nat.mod_self]; rfl, fun i hi _ => ?_⟩
    rw [List.getElem_replicate]
    rfl
  | append_singleton l x ih =>
    rw [run_concat, List.map_append, ← List.append_assoc]
    exact ih.push (r x)

variable {N} {r}

/-- The ring holds the last values. -/
lemma sum_cells (l : List M) :
    ∑ i ∈ range N, (run N r l).cells i = ((recent N l).map r).sum := by
  have h := sum_of_logs (logs_run N r l)
    (by rw [List.length_append, List.length_replicate]; omega) id
  have hlen : (List.replicate N (0 : M) ++ l.map r).length - N = l.length := by
    rw [List.length_append, List.length_replicate, List.length_map]
    omega
  rw [hlen, List.map_id, List.drop_append, List.sum_append, List.length_replicate,
    List.drop_replicate, List.sum_replicate, nsmul_zero, zero_add, ← List.map_drop] at h
  exact h

/-- What the narrowing has lost is in the sum for good. -/
lemma total_eq (hN : 0 < N) (l : List M) :
    (run N r l).total =
      ∑ i ∈ range N, (run N r l).cells i + (l.map fun x => x - r x).sum := by
  induction l using List.reverseRecOn with
  | nil =>
    have hzero : ∑ i ∈ range N, (run N r []).cells i = 0 := Finset.sum_eq_zero fun _ _ => rfl
    rw [hzero, List.map_nil, List.sum_nil, add_zero]
    rfl
  | append_singleton l x ih =>
    have hpos : (run N r l).pos ∈ range N := by
      rw [(logs_run N r l).pos_eq, mem_range]
      exact Nat.mod_lt _ hN
    have hcells : ∑ i ∈ range N, (push N r (run N r l) x).cells i =
        ∑ i ∈ range N, (run N r l).cells i - (run N r l).cells (run N r l).pos + r x := by
      have hupd : (push N r (run N r l) x).cells =
          Function.update (run N r l).cells (run N r l).pos (r x) := by
        funext i
        exact (Function.update_apply _ _ _ _).symm
      rw [hupd, sum_update_of_mem hpos, sum_eq_add_sum_sdiff_singleton_of_mem hpos]
      abel
    rw [run_concat, hcells, List.map_append, List.sum_append, List.map_singleton,
      List.sum_singleton]
    change (run N r l).total - _ + x = _
    rw [ih]
    abel

/-- The sum is that of the last values exactly if nothing is lost of the others. -/
theorem total_eq_recent_iff (hN : 0 < N) (l : List M) :
    (run N r l).total = (recent N l).sum ↔ ((evicted N l).map fun x => x - r x).sum = 0 := by
  have hsplit : (l.map fun x => x - r x).sum = ((evicted N l).map fun x => x - r x).sum +
      ((recent N l).map fun x => x - r x).sum := by
    rw [← List.sum_append, ← List.map_append, evicted_append_recent]
  have hrecent : ((recent N l).map r).sum + ((recent N l).map fun x => x - r x).sum =
      (recent N l).sum := by
    rw [← List.sum_map_add]
    simp
  rw [total_eq hN, sum_cells, hsplit, add_left_comm, hrecent, add_eq_right]

/-- The sum is that of the cells exactly if nothing is lost. -/
theorem total_eq_cells_iff (hN : 0 < N) (l : List M) :
    (run N r l).total = ∑ i ∈ range N, (run N r l).cells i ↔
      (l.map fun x => x - r x).sum = 0 := by
  rw [total_eq hN, add_eq_left]

end Run

end RollingSum
