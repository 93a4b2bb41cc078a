import Exec09.Cpu.Flat
import Exec09.Debugger.IrqLoad
import Exec09.Framework.RollingSum
import Mathlib.Algebra.Order.BigOperators.Group.List
import Mathlib.Algebra.Order.Group.Nat
import Mathlib.Data.BitVec

/-!
# The rolling sum of the interrupt cycles

The hook is a running sum over a ring of 128 cells that keeps the low halves of its arguments.  The
high halves are added to the sum and never taken back.
-/

namespace Exec09

namespace IrqLoad

open Finset RollingSum

/-- What is read back of an argument. -/
def narrowed (a : BitVec 64) : BitVec 64 := (a.setWidth 32).setWidth 64

/-- The upper half of an argument. -/
def high (a : BitVec 64) : Nat := a.toNat / 2 ^ 32

/-- The hook's sum is that of the last arguments and that of the table, and `$irqload` is the
average of the last 128. -/
structure Rolls (l : List (BitVec 64)) : Prop where
  last : (after l).irqCycles = (recent IRQ_CYCLE_COUNTS l).sum
  tab : (after l).irqCycles =
    ∑ i ∈ range IRQ_CYCLE_COUNTS, ((after l).irqCycleTab i).setWidth 64
  load : IRQ_CYCLE_COUNTS ≤ l.length → (after l).irqLoadVirtual =
    (recent IRQ_CYCLE_COUNTS l).sum / BitVec.ofNat 64 IRQ_CYCLE_COUNTS

/-! ## The hook as a running sum -/

/-- The table as it is read. -/
def toSum (s : IrqLoad) : RollingSum.State (BitVec 64) :=
  ⟨fun i => (s.irqCycleTab i).setWidth 64, s.irqCycleEntry, s.irqCycles⟩

lemma toSum_hook (s : IrqLoad) (a : BitVec 64) :
    (s.commandExitIrqHook a).toSum = push IRQ_CYCLE_COUNTS narrowed s.toSum a := by
  have hcells : (s.commandExitIrqHook a).toSum.cells =
      (push IRQ_CYCLE_COUNTS narrowed s.toSum a).cells := by
    funext i
    change ((if i = s.irqCycleEntry then a.setWidth 32 else s.irqCycleTab i).setWidth 64) =
      if i = s.irqCycleEntry then narrowed a else (s.irqCycleTab i).setWidth 64
    split <;> rfl
  exact congrArg (fun cells => (⟨cells, (s.commandExitIrqHook a).irqCycleEntry,
    (s.commandExitIrqHook a).irqCycles⟩ : State (BitVec 64))) hcells

lemma toSum_after (l : List (BitVec 64)) :
    (after l).toSum = RollingSum.run IRQ_CYCLE_COUNTS narrowed l := by
  induction l using List.reverseRecOn with
  | nil => rfl
  | append_singleton l a ih =>
    rw [run_concat, ← ih, ← toSum_hook, after, List.foldl_append]
    rfl

/-- What the narrowing loses. -/
lemma sum_lost (l : List (BitVec 64)) :
    (l.map fun a => a - narrowed a).sum = BitVec.ofNat 64 (2 ^ 32 * (l.map high).sum) := by
  induction l with
  | nil => rfl
  | cons a l ih =>
    have ha : a - narrowed a = BitVec.ofNat 64 (2 ^ 32 * high a) := by
      apply BitVec.eq_of_toNat_eq
      simp only [narrowed, high, BitVec.toNat_sub, BitVec.toNat_setWidth, BitVec.toNat_ofNat]
      omega
    rw [List.map_cons, List.sum_cons, ih, ha, List.map_cons, List.sum_cons, Nat.mul_add,
      BitVec.ofNat_add]

/-- Nothing is lost if the upper halves add up to a multiple of 2^32. -/
lemma sum_lost_eq_zero_iff (l : List (BitVec 64)) :
    (l.map fun a => a - narrowed a).sum = 0 ↔ 2 ^ 32 ∣ (l.map high).sum := by
  rw [sum_lost, ← BitVec.toNat_inj, BitVec.toNat_ofNat]
  change 2 ^ 32 * (l.map high).sum % 2 ^ 64 = 0 ↔ _
  rw [show (2 : Nat) ^ 64 = 2 ^ 32 * 2 ^ 32 from rfl, Nat.mul_mod_mul_left]
  omega

/-- After a sequence of calls. -/
lemma rolls_iff (l : List (BitVec 64)) : Rolls l ↔
    2 ^ 32 ∣ (l.map high).sum ∧ 2 ^ 32 ∣ ((evicted IRQ_CYCLE_COUNTS l).map high).sum := by
  have htotal : (after l).irqCycles =
      (RollingSum.run IRQ_CYCLE_COUNTS narrowed l).total := congrArg State.total (toSum_after l)
  have hcells : ∑ i ∈ range IRQ_CYCLE_COUNTS, ((after l).irqCycleTab i).setWidth 64 =
      ∑ i ∈ range IRQ_CYCLE_COUNTS, (RollingSum.run IRQ_CYCLE_COUNTS narrowed l).cells i := by
    rw [← toSum_after]
    rfl
  have hpos : 0 < IRQ_CYCLE_COUNTS := by decide
  have htab := total_eq_cells_iff (r := narrowed) hpos l
  have hlast := total_eq_recent_iff (r := narrowed) hpos l
  rw [← htotal, ← hcells, sum_lost_eq_zero_iff] at htab
  rw [← htotal, sum_lost_eq_zero_iff] at hlast
  constructor
  · exact fun h => ⟨htab.mp h.tab, hlast.mp h.last⟩
  · rintro ⟨hall, hevicted⟩
    have hsum := hlast.mpr hevicted
    exact ⟨hsum, htab.mpr hall, fun _ => by rw [irqLoadVirtual, hsum]⟩

/-! ## Runs -/

lemma high_eq_zero_iff (a : BitVec 64) : high a = 0 ↔ a.toNat < 2 ^ 32 := by
  unfold high
  omega

lemma sum_high_eq_zero {l : List (BitVec 64)} (h : ∀ a ∈ l, a.toNat < 2 ^ 32) :
    (l.map high).sum = 0 := by
  refine List.sum_eq_zero fun x hx => ?_
  obtain ⟨a, ha, rfl⟩ := List.mem_map.mp hx
  exact (high_eq_zero_iff a).mpr (h a ha)

/-- Arguments that fit the table roll. -/
lemma rolls_of_small {l : List (BitVec 64)} (h : ∀ a ∈ l, a.toNat < 2 ^ 32) : Rolls l := by
  refine (rolls_iff l).mpr ⟨?_, ?_⟩
  · rw [sum_high_eq_zero h]
    exact Nat.dvd_zero _
  · have hevicted : ∀ a ∈ evicted IRQ_CYCLE_COUNTS l, a.toNat < 2 ^ 32 :=
      fun a ha => h a (List.mem_of_mem_take ha)
    rw [sum_high_eq_zero hevicted]
    exact Nat.dvd_zero _

/-- An argument that does not fit is noticed when it comes. -/
lemma small_of_rolls {l : List (BitVec 64)} (h : ∀ p, p <+: l → Rolls p) :
    ∀ a ∈ l, a.toNat < 2 ^ 32 := by
  intro a ha
  obtain ⟨before, behind, rfl⟩ := List.append_of_mem ha
  have hbefore := ((rolls_iff _).mp (h before (List.prefix_append _ _))).1
  have hupto := ((rolls_iff _).mp (h (before ++ [a]) ⟨behind, by simp⟩)).1
  rw [List.map_append, List.sum_append, List.map_singleton, List.sum_singleton] at hupto
  have hdvd : 2 ^ 32 ∣ high a := (Nat.dvd_add_right hbefore).mp hupto
  have hlt : high a < 2 ^ 32 := by
    have := a.isLt
    unfold high
    omega
  exact (high_eq_zero_iff a).mp (Nat.eq_zero_of_dvd_of_lt hdvd hlt)

lemma toNat_sum_of_small {l : List (BitVec 64)} (h : ∀ a ∈ l, a.toNat < 2 ^ 32)
    (hl : l.length ≤ 2 ^ 32) : l.sum.toNat = (l.map BitVec.toNat).sum := by
  have hbound (l : List (BitVec 64)) (h : ∀ a ∈ l, a.toNat < 2 ^ 32) :
      (l.map BitVec.toNat).sum ≤ l.length * (2 ^ 32 - 1) := by
    have := List.sum_le_card_nsmul (l.map BitVec.toNat) (2 ^ 32 - 1) fun x hx => by
      obtain ⟨a, ha, rfl⟩ := List.mem_map.mp hx
      exact Nat.le_pred_of_lt (h a ha)
    rwa [List.length_map] at this
  induction l with
  | nil => rfl
  | cons a l ih =>
    have hl' : l.length ≤ 2 ^ 32 := by
      rw [List.length_cons] at hl
      omega
    have hsum := hbound (a :: l) h
    rw [List.map_cons, List.sum_cons] at hsum ⊢
    rw [List.sum_cons, BitVec.toNat_add, ih (fun b hb => h b (List.mem_cons_of_mem a hb)) hl']
    refine Nat.mod_eq_of_lt (Nat.lt_of_le_of_lt hsum ?_)
    calc (a :: l).length * (2 ^ 32 - 1) ≤ 2 ^ 32 * (2 ^ 32 - 1) := Nat.mul_le_mul_right _ hl
      _ < 2 ^ 64 := by decide

/-- **The rolling sum.**  After one sequence of calls it is right exactly if the upper halves add up
to multiples of 2^32, those of all arguments and those of the arguments no longer in the table; and
it is right after every call exactly if every argument fits the table.  `$irqload` then is the
average of the last 128 arguments. -/
theorem irq_load_rolls (l : List (BitVec 64)) :
    (Rolls l ↔
      2 ^ 32 ∣ (l.map high).sum ∧ 2 ^ 32 ∣ ((evicted IRQ_CYCLE_COUNTS l).map high).sum) ∧
    ((∀ p, p <+: l → Rolls p) ↔ ∀ a ∈ l, a.toNat < 2 ^ 32) ∧
    ((∀ a ∈ l, a.toNat < 2 ^ 32) → IRQ_CYCLE_COUNTS ≤ l.length →
      (after l).irqLoadVirtual.toNat =
        ((recent IRQ_CYCLE_COUNTS l).map BitVec.toNat).sum / IRQ_CYCLE_COUNTS) := by
  refine ⟨rolls_iff l, ⟨small_of_rolls, fun h p hp => ?_⟩, fun h hl => ?_⟩
  · exact rolls_of_small fun a ha => h a (hp.subset ha)
  · have hrecent : (recent IRQ_CYCLE_COUNTS l).length = IRQ_CYCLE_COUNTS := by
      rw [recent, List.length_drop]
      omega
    have hsmall : ∀ a ∈ recent IRQ_CYCLE_COUNTS l, a.toNat < 2 ^ 32 :=
      fun a ha => h a (List.mem_of_mem_drop ha)
    rw [(rolls_of_small h).load hl, BitVec.toNat_udiv, BitVec.toNat_ofNat,
      toNat_sum_of_small hsmall (by rw [hrecent]; decide)]
    rfl

/-- The cycles of a machine that has run for 2^32 of them. -/
def longRun : Cpu Unit := { Cpu.zeroed () with total := 0x100000000 }

/-- An RTI without an IRQ so far.  The table misses the cycles; when 128 more interrupts of 100
cycles have returned, `$irqload` still has a part of them. -/
theorem irq_load_keeps_evicted :
    ¬Rolls [longRun.irqCycles 0] ∧
      (after (longRun.irqCycles 0 :: List.replicate 128 100)).irqLoadVirtual = 0x2000064 ∧
      ¬Rolls (longRun.irqCycles 0 :: List.replicate 128 100) := by
  refine ⟨fun h => ?_, by decide +kernel, fun h => ?_⟩
  · exact absurd ((rolls_iff _).mp h).1 (by decide +kernel)
  · exact absurd ((rolls_iff _).mp h).2 (by decide +kernel)

end IrqLoad

end Exec09
