import Exec09.Framework.Sealing
import Exec09.Properties.BusMaps

/-!
# The last writer of a map entry

A sequence of calls of `bus_map` on a table without fixed entries.  An address is mapped by the last
call that covers it, up to the first of them that maps it with `MAP_FIXED`.  For an entry of the
table the calls are the writers of a cell that a fixed map seals.
-/

namespace Exec09

/-- The arguments of a call that is aligned to the map unit and stays in the address space. -/
structure BusCall where
  addr : Unsigned
  devid : Unsigned
  offset : BitVec 64
  len : Unsigned
  flags : Unsigned
  addr_aligned : addr.toNat % BUS_MAP_SIZE = 0
  offset_aligned : offset.toNat % BUS_MAP_SIZE = 0
  len_aligned : len.toNat % BUS_MAP_SIZE = 0
  inside : addr.toNat + len.toNat ≤ MAX_CPU_ADDR

namespace BusCall

/-- The call itself.  `struct bus_map` has an `unsigned char` for the flags. -/
def run (m : Busmaps) (c : BusCall) : Busmaps :=
  busMap c.addr c.devid c.offset c.len (c.flags.setWidth 8) m

def Covers (c : BusCall) (a : Unsigned) : Prop :=
  c.addr.toNat ≤ a.toNat ∧ a.toNat < c.addr.toNat + c.len.toNat

/-- The entries the call installs have `MAP_FIXED`. -/
def Fixes (c : BusCall) : Prop := c.flags.setWidth 8 &&& MAP_FIXED ≠ 0

/-- What the call writes to entry `k`, when it may. -/
def entry (k : Nat) (c : BusCall) : Option BusMap :=
  if c.addr.toNat / BUS_MAP_SIZE ≤ k ∧ k < c.addr.toNat / BUS_MAP_SIZE + c.len.toNat / BUS_MAP_SIZE
  then some ⟨c.devid, c.offset + BitVec.ofNat 64 (BUS_MAP_SIZE * (k - c.addr.toNat / BUS_MAP_SIZE)),
    c.flags.setWidth 8⟩
  else none

variable {c : BusCall} {a : Unsigned}

lemma run_apply (m : Busmaps) (k : Nat) (c : BusCall) :
    run m c k = Sealing.write BusMap.fixed (entry k) (m k) c := by
  have ha : c.addr.toNat = c.addr.toNat / BUS_MAP_SIZE * BUS_MAP_SIZE :=
    (Nat.div_mul_cancel (Nat.dvd_of_mod_eq_zero c.addr_aligned)).symm
  have hl : c.len.toNat = c.len.toNat / BUS_MAP_SIZE * BUS_MAP_SIZE :=
    (Nat.div_mul_cancel (Nat.dvd_of_mod_eq_zero c.len_aligned)).symm
  rw [run, busMap_apply m _ _ k ha hl c.offset_aligned, Sealing.write, entry]
  by_cases hk : c.addr.toNat / BUS_MAP_SIZE ≤ k ∧
      k < c.addr.toNat / BUS_MAP_SIZE + c.len.toNat / BUS_MAP_SIZE
  · rw [if_pos hk]
    by_cases hf : (m k).fixed = true
    · rw [if_neg fun h => h.2.2 hf]
      exact (if_pos hf).symm
    · rw [if_pos ⟨hk.1, hk.2, hf⟩]
      exact (if_neg hf).symm
  · rw [if_neg hk, if_neg fun h => hk ⟨h.1, h.2.1⟩]

lemma entry_of_covers (h : c.Covers a) :
    entry (a.toNat / BUS_MAP_SIZE) c = some ⟨c.devid, c.offset + BitVec.ofNat 64
      (BUS_MAP_SIZE * (a.toNat / BUS_MAP_SIZE - c.addr.toNat / BUS_MAP_SIZE)),
      c.flags.setWidth 8⟩ := by
  obtain ⟨hlo, hhi⟩ := h
  have ha : c.addr.toNat % 128 = 0 := c.addr_aligned
  have hl : c.len.toNat % 128 = 0 := c.len_aligned
  refine if_pos ⟨Nat.div_le_div_right hlo, ?_⟩
  change a.toNat / 128 < c.addr.toNat / 128 + c.len.toNat / 128
  omega

lemma entry_of_not_covers (h : ¬c.Covers a) : entry (a.toNat / BUS_MAP_SIZE) c = none := by
  refine if_neg fun ⟨hlo, hhi⟩ => h ?_
  have ha : c.addr.toNat % 128 = 0 := c.addr_aligned
  have hl : c.len.toNat % 128 = 0 := c.len_aligned
  have hlo' : c.addr.toNat / 128 ≤ a.toNat / 128 := hlo
  have hhi' : a.toNat / 128 < c.addr.toNat / 128 + c.len.toNat / 128 := hhi
  constructor <;> omega

lemma fixes_iff (offset : BitVec 64) :
    c.Fixes ↔ (⟨c.devid, offset, c.flags.setWidth 8⟩ : BusMap).fixed = true := by
  unfold Fixes BusMap.fixed
  exact decide_eq_true_iff.symm

end BusCall

/-! ## Sequences of calls -/

/-- `c` is the last of the calls `l` to cover `a`, up to the first that fixes the entry. -/
def LastWriter (l : List BusCall) (a : Unsigned) (c : BusCall) : Prop :=
  ∃ pre post, l = pre ++ c :: post ∧ c.Covers a ∧ (∀ d ∈ pre, d.Covers a → ¬d.Fixes) ∧
    (c.Fixes ∨ ∀ d ∈ post, ¬d.Covers a)

namespace BusCall

variable {c : BusCall} {a : Unsigned} {l : List BusCall}

/-- For the entry of an address the calls are writers to a cell that a fixed map seals. -/
lemma foldl_run (l : List BusCall) (m : Busmaps) (k : Nat) :
    l.foldl run m k = l.foldl (Sealing.write BusMap.fixed (entry k)) (m k) := by
  induction l generalizing m with
  | nil => rfl
  | cons c l ih => rw [List.foldl_cons, List.foldl_cons, ih, run_apply]

lemma covers_iff : c.Covers a ↔ (entry (a.toNat / BUS_MAP_SIZE) c).isSome := by
  constructor
  · intro h
    rw [entry_of_covers h]
    rfl
  · intro h
    by_contra hc
    rw [entry_of_not_covers hc] at h
    exact Bool.false_ne_true h

lemma decides_iff {x : BusMap} :
    Sealing.Decides BusMap.fixed (entry (a.toNat / BUS_MAP_SIZE)) l c x ↔
      LastWriter l a c ∧ entry (a.toNat / BUS_MAP_SIZE) c = some x := by
  have hfixes : ∀ {d : BusCall} {y : BusMap}, entry (a.toNat / BUS_MAP_SIZE) d = some y →
      (d.Fixes ↔ y.fixed = true) := by
    intro d y hy
    have hcov : d.Covers a := covers_iff.mpr (by rw [hy]; rfl)
    rw [entry_of_covers hcov] at hy
    cases hy
    exact d.fixes_iff _
  have hnone : ∀ d : BusCall, ¬d.Covers a ↔ entry (a.toNat / BUS_MAP_SIZE) d = none := fun d => by
    rw [covers_iff, Option.not_isSome_iff_eq_none]
  constructor
  · rintro ⟨pre, post, hl, hx, hpre, hpost⟩
    refine ⟨⟨pre, post, hl, covers_iff.mpr (by rw [hx]; rfl), fun d hd hcov hfix => ?_, ?_⟩, hx⟩
    · have hy := entry_of_covers hcov
      have hfree := hpre d hd _ hy
      rw [(hfixes hy).mp hfix] at hfree
      exact Bool.noConfusion hfree
    · exact hpost.imp (hfixes hx).mpr fun h d hd => (hnone d).mpr (h d hd)
  · rintro ⟨⟨pre, post, hl, -, hpre, hpost⟩, hx⟩
    refine ⟨pre, post, hl, hx, fun d hd y hy => ?_, ?_⟩
    · have hcov : d.Covers a := covers_iff.mpr (by rw [hy]; rfl)
      exact Bool.eq_false_iff.mpr fun hf => hpre d hd hcov ((hfixes hy).mpr hf)
    · exact hpost.imp (hfixes hx).mp fun h d hd => (hnone d).mp (h d hd)

end BusCall

/-- The bus after the calls `l`. -/
def Bus.mapped {ι : Type} (b : Bus ι) (l : List BusCall) : Bus ι :=
  { b with busmaps := l.foldl BusCall.run b.busmaps }

section Mapped

variable {ι : Type} {b : Bus ι} {l : List BusCall} {a : Unsigned} {c : BusCall}

lemma findMap_mapped : (b.mapped l).findMap a =
    l.foldl (Sealing.write BusMap.fixed (BusCall.entry (a.toNat / BUS_MAP_SIZE))) (b.findMap a) :=
  BusCall.foldl_run l b.busmaps _

/-- The last writer's entry. -/
lemma findMap_of_lastWriter (hfree : (b.findMap a).fixed = false) (h : LastWriter l a c) :
    (b.mapped l).findMap a = ⟨c.devid, c.offset + BitVec.ofNat 64
      (BUS_MAP_SIZE * (a.toNat / BUS_MAP_SIZE - c.addr.toNat / BUS_MAP_SIZE)),
      c.flags.setWidth 8⟩ := by
  have hcov : c.Covers a := by
    obtain ⟨-, -, -, hcov, -⟩ := h
    exact hcov
  rw [findMap_mapped]
  exact Sealing.foldl_of_decides hfree (BusCall.decides_iff.mpr ⟨h, BusCall.entry_of_covers hcov⟩)

/-- The offset of the entry and that in the map unit add up. -/
lemma phyAddr_of_lastWriter (hfree : (b.findMap a).fixed = false) (h : LastWriter l a c) :
    (b.mapped l).phyAddr a = c.offset + BitVec.ofNat 64 (a.toNat - c.addr.toNat) := by
  obtain ⟨-, -, -, ⟨hlo, -⟩, -⟩ := id h
  have hsum : 128 * (a.toNat / 128 - c.addr.toNat / 128) + a.toNat % 128 =
      a.toNat - c.addr.toNat := by
    have ha : c.addr.toNat % 128 = 0 := c.addr_aligned
    omega
  rw [Bus.phyAddr, findMap_of_lastWriter hfree h]
  change c.offset + BitVec.ofNat 64 (128 * (a.toNat / 128 - c.addr.toNat / 128)) +
    BitVec.ofNat 64 (a.toNat % 128) = _
  rw [BitVec.add_assoc, ← BitVec.ofNat_add, hsum]

end Mapped

/-- After any sequence of calls on a table without fixed entries, every address is mapped by the
last writer; without a call that covers it its entry is the old one, and a fixed entry outlasts
every further call. -/
theorem mapped_by_last_writer {ι : Type} (b : Bus ι)
    (hfree : ∀ k, k < NUM_BUS_MAPS → (b.busmaps k).fixed = false) (l : List BusCall)
    (a : Unsigned) (ha : a.toNat < MAX_CPU_ADDR) :
    ((∃ c ∈ l, c.Covers a) → ∃ c, LastWriter l a c) ∧
    (∀ c, LastWriter l a c →
      ((b.mapped l).findMap a).devid = c.devid ∧
      ((b.mapped l).findMap a).flags = c.flags.setWidth 8 ∧
      (b.mapped l).phyAddr a = c.offset + BitVec.ofNat 64 (a.toNat - c.addr.toNat)) ∧
    ((∀ c ∈ l, ¬c.Covers a) → (b.mapped l).findMap a = b.findMap a) ∧
    (((b.mapped l).findMap a).fixed = true →
      ∀ l', (b.mapped (l ++ l')).findMap a = (b.mapped l).findMap a) := by
  have hcur : (b.findMap a).fixed = false := hfree _ (Nat.div_lt_of_lt_mul ha)
  refine ⟨?_, fun c hc => ?_, fun hnone => ?_, fun hfixed l' => ?_⟩
  · rintro ⟨c, hc, hcov⟩
    obtain ⟨c', x, h⟩ := Sealing.exists_decides ⟨c, hc, BusCall.covers_iff.mp hcov⟩
    exact ⟨c', (BusCall.decides_iff.mp h).1⟩
  · have hentry := findMap_of_lastWriter hcur hc
    exact ⟨by rw [hentry], by rw [hentry], phyAddr_of_lastWriter hcur hc⟩
  · rw [findMap_mapped]
    exact Sealing.foldl_none fun c hc => BusCall.entry_of_not_covers (hnone c hc)
  · rw [findMap_mapped (l := l ++ l'), List.foldl_append, ← findMap_mapped]
    exact Sealing.foldl_sealed hfixed

/-- A device in two units at 0x1000, mapped for good. -/
def fixedWindow : BusCall :=
  ⟨0x1000, 1, 0x80, 0x100, 0x7, by decide, by decide, by decide, by decide⟩

/-- Memory over the whole address space. -/
def wholeMemory : BusCall :=
  ⟨0, 2, 0, 0x10000, 0x3, by decide, by decide, by decide, by decide⟩

/-- A bus without maps. -/
def bareBus : Bus Unit := ⟨unmapped, [], fun _ _ => 0, true, ()⟩

theorem mapped_window_stays :
    LastWriter [fixedWindow, wholeMemory] 0x1080 fixedWindow ∧
      (bareBus.mapped [fixedWindow, wholeMemory]).phyAddr 0x1080 = 0x100 := by
  have hlast : LastWriter [fixedWindow, wholeMemory] 0x1080 fixedWindow :=
    ⟨[], [wholeMemory], rfl, ⟨by decide, by decide⟩, fun _ h => absurd h List.not_mem_nil,
      .inl (by unfold BusCall.Fixes; decide)⟩
  obtain ⟨-, hmapped, -, -⟩ := mapped_by_last_writer bareBus (fun k _ => unmapped_free k)
    [fixedWindow, wholeMemory] 0x1080 (by decide)
  refine ⟨hlast, ?_⟩
  rw [(hmapped fixedWindow hlast).2.2]
  decide

/-- A call with flags past the field of the map. -/
def wideFlags : BusCall :=
  ⟨0, 1, 0, 0x80, 0x103, by decide, by decide, by decide, by decide⟩

/-- The entry has other flags than the call that installed it. -/
theorem mapped_flags_narrowed :
    LastWriter [wideFlags] 0 wideFlags ∧
      ((bareBus.mapped [wideFlags]).findMap 0).flags.setWidth 32 ≠ wideFlags.flags :=
  ⟨⟨[], [], rfl, ⟨by decide, by decide⟩, fun _ h => absurd h List.not_mem_nil,
    .inr fun _ h => absurd h List.not_mem_nil⟩, by decide⟩

end Exec09
