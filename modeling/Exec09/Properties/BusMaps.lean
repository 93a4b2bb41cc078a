import Exec09.Machine.Eon2
import Exec09.Machine.Wpc

/-!
# What a remapping does

`bus_map` on arguments that are multiples of the map unit, which is how every caller uses it, and
from it the maps of each machine: after its initialisation, and after each write of the guest to a
mapping register.
-/

namespace Exec09

/-! ## `bus_map` on aligned arguments -/

lemma roundUp_of_aligned {w : Nat} (x : BitVec w) (hw : 8 ≤ w) (h : x.toNat % BUS_MAP_SIZE = 0) :
    roundUp x = x := by
  have h' : x.toNat % 128 = 0 := h
  -- a multiple of the unit is at least a unit below the end of the word
  have hx : x.toNat + 127 < 2 ^ w := by
    have hlt := x.isLt
    have hdvd : (128 : Nat) ∣ 2 ^ w := Nat.pow_dvd_pow 2 (by omega : 7 ≤ w)
    omega
  have h8 : (2 : Nat) ^ 8 ≤ 2 ^ w := Nat.pow_le_pow_right (by decide) hw
  have h8' : (2 : Nat) ^ 8 = 256 := rfl
  have hc : (127 : Nat) % 2 ^ w = 127 := Nat.mod_eq_of_lt (by omega)
  have hb : (128 : Nat) % 2 ^ w = 128 := Nat.mod_eq_of_lt (by omega)
  have hdiv : (x.toNat + 127) / 128 * 128 = x.toNat := by omega
  apply BitVec.eq_of_toNat_eq
  simp only [roundUp, BitVec.toNat_mul, BitVec.toNat_udiv, BitVec.toNat_add, BitVec.toNat_ofNat,
    BUS_MAP_SIZE, hb, show 128 - 1 = 127 from rfl, hc, Nat.mod_eq_of_lt hx, hdiv]
  exact Nat.mod_eq_of_lt (by omega)

/-- The entry a call leaves at `k`, for a range that starts at entry `s` and has `n` entries. -/
lemma busMap_apply {addr devid len : Unsigned} {offset : BitVec 64} {flags : U8} (m : Busmaps)
    (s n k : Nat) (ha : addr.toNat = s * BUS_MAP_SIZE) (hl : len.toNat = n * BUS_MAP_SIZE)
    (ho : offset.toNat % BUS_MAP_SIZE = 0) :
    busMap addr devid offset len flags m k =
      if s ≤ k ∧ k < s + n ∧ ¬(m k).fixed then
        ⟨devid, offset + BitVec.ofNat 64 (BUS_MAP_SIZE * (k - s)), flags⟩
      else m k := by
  have hs' : addr.toNat = s * 128 := ha
  have hn' : len.toNat = n * 128 := hl
  have hra : roundUp addr = addr :=
    roundUp_of_aligned addr (by decide) (by change addr.toNat % 128 = 0; omega)
  have hrl : roundUp len = len :=
    roundUp_of_aligned len (by decide) (by change len.toNat % 128 = 0; omega)
  have hro : roundUp offset = offset := roundUp_of_aligned offset (by decide) ho
  have hds : addr.toNat / BUS_MAP_SIZE = s := by change addr.toNat / 128 = s; omega
  have hdn : len.toNat / BUS_MAP_SIZE = n := by change len.toNat / 128 = n; omega
  rw [busMap, busMapLoop_apply, hra, hrl, hro, hds, hdn]

/-- A stretch of the table that shows one device at consecutive offsets, and can be remapped. -/
structure Linear (m : Busmaps) (lo hi : Nat) : Prop where
  free : ∀ k, lo ≤ k → k < hi → (m k).fixed = false
  devid : ∀ k, lo ≤ k → k < hi → (m k).devid = (m lo).devid
  offset : ∀ k, lo ≤ k → k < hi →
    (m k).offset = (m lo).offset + BitVec.ofNat 64 (BUS_MAP_SIZE * (k - lo))

section Step

variable {addr d len : Unsigned} {offset : BitVec 64} {flags : U8} {m : Busmaps} {s n : Nat}

/-- The arguments of a call: `n` entries from entry `s` on, without `MAP_FIXED`. -/
structure Aligned (addr len : Unsigned) (offset : BitVec 64) (flags : U8) (s n : Nat) : Prop where
  first : addr.toNat = s * BUS_MAP_SIZE
  length : len.toNat = n * BUS_MAP_SIZE
  unit : offset.toNat % BUS_MAP_SIZE = 0
  start : s < 2 ^ 24
  count : n < 2 ^ 24
  small : offset.toNat < 2 ^ 63
  free : flags &&& MAP_FIXED = 0

lemma Aligned.apply (h : Aligned addr len offset flags s n) (m : Busmaps) (k : Nat) :
    busMap addr d offset len flags m k =
      if s ≤ k ∧ k < s + n ∧ ¬(m k).fixed then
        ⟨d, offset + BitVec.ofNat 64 (BUS_MAP_SIZE * (k - s)), flags⟩
      else m k :=
  busMap_apply m s n k h.first h.length h.unit

lemma Aligned.outside (h : Aligned addr len offset flags s n) (m : Busmaps) {k : Nat}
    (hk : k < s ∨ s + n ≤ k) : busMap addr d offset len flags m k = m k := by
  rw [h.apply, if_neg (by omega)]

lemma Aligned.inside (h : Aligned addr len offset flags s n) {k : Nat} (hk : s ≤ k)
    (hk' : k < s + n) (hf : (m k).fixed = false) :
    busMap addr d offset len flags m k =
      ⟨d, offset + BitVec.ofNat 64 (BUS_MAP_SIZE * (k - s)), flags⟩ := by
  rw [h.apply, if_pos ⟨hk, hk', by simp [hf]⟩]

lemma Aligned.keep (h : Aligned addr len offset flags s n) {k : Nat} (hf : (m k).fixed = true) :
    busMap addr d offset len flags m k = m k := by
  rw [h.apply, if_neg fun hk => hk.2.2 hf]

lemma Aligned.apply_free (h : Aligned addr len offset flags s n) {k : Nat}
    (hf : (m k).fixed = false) :
    busMap addr d offset len flags m k =
      if s ≤ k ∧ k < s + n then
        ⟨d, offset + BitVec.ofNat 64 (BUS_MAP_SIZE * (k - s)), flags⟩
      else m k := by
  rw [h.apply]
  simp only [hf, Bool.false_eq_true, not_false_eq_true, and_true]

/-- Fixed entries stay, and no entry becomes fixed. -/
lemma Aligned.fixed (h : Aligned addr len offset flags s n) (m : Busmaps) (k : Nat) :
    (busMap addr d offset len flags m k).fixed = (m k).fixed := by
  rw [h.apply]
  split
  · rename_i hk
    simp only [BusMap.fixed, h.free, ne_eq, not_true_eq_false, decide_false]
    exact (Bool.not_eq_true _ ▸ hk.2.2).symm
  · rfl

/-- A call leaves a stretch linear that it does not meet. -/
lemma Aligned.linear_outside (h : Aligned addr len offset flags s n) {lo hi : Nat}
    (hm : Linear m lo hi) (hlo : lo < hi) (hd : hi ≤ s ∨ s + n ≤ lo) :
    Linear (busMap addr d offset len flags m) lo hi := by
  have hout : ∀ k, lo ≤ k → k < hi → busMap addr d offset len flags m k = m k :=
    fun k hk hk' => h.outside m (by omega)
  refine ⟨fun k hk hk' => ?_, fun k hk hk' => ?_, fun k hk hk' => ?_⟩
  · rw [hout k hk hk']; exact hm.free k hk hk'
  · rw [hout k hk hk', hout lo (Nat.le_refl lo) hlo]; exact hm.devid k hk hk'
  · rw [hout k hk hk', hout lo (Nat.le_refl lo) hlo]; exact hm.offset k hk hk'

/-- A call makes every stretch linear that it covers. -/
lemma Aligned.linear_inside (h : Aligned addr len offset flags s n) {lo hi : Nat}
    (hm : ∀ k, lo ≤ k → k < hi → (m k).fixed = false) (hlo : lo < hi) (hs : s ≤ lo)
    (hn : hi ≤ s + n) : Linear (busMap addr d offset len flags m) lo hi := by
  have hin : ∀ k, lo ≤ k → k < hi → busMap addr d offset len flags m k =
      ⟨d, offset + BitVec.ofNat 64 (BUS_MAP_SIZE * (k - s)), flags⟩ :=
    fun k hk hk' => h.inside (by omega) (by omega) (hm k hk hk')
  refine ⟨fun k hk hk' => ?_, fun k hk hk' => ?_, fun k hk hk' => ?_⟩
  · rw [h.fixed]; exact hm k hk hk'
  · rw [hin k hk hk', hin lo (Nat.le_refl lo) hlo]
  · rw [hin k hk hk', hin lo (Nat.le_refl lo) hlo]
    change _ = offset + _ + _
    have hsum : BUS_MAP_SIZE * (lo - s) + BUS_MAP_SIZE * (k - lo) = BUS_MAP_SIZE * (k - s) := by
      change 128 * (lo - s) + 128 * (k - lo) = 128 * (k - s)
      omega
    rw [BitVec.add_assoc, ← BitVec.ofNat_add, hsum]

end Step

lemma unmapped_free (k : Nat) : (unmapped k).fixed = false := by
  change (⟨INVALID_DEVID.setWidth 32, 0, 0⟩ : BusMap).fixed = false
  decide

/-! ## EON -/

/-- The arguments for one 4KB page, as both MMUs give them. -/
lemma aligned_page {p : Nat} (hp : p < 256) (reg flags : U8) :
    Aligned (BitVec.ofNat 32 (p * 4096)) (BitVec.ofNat 32 4096)
      (reg.setWidth 64 * BitVec.ofNat 64 4096) (flags &&& MAP_READWRITE) (32 * p) 32 := by
  have hreg := reg.isLt
  have hoff : (reg.setWidth 64 * BitVec.ofNat 64 4096).toNat = reg.toNat * 4096 := by
    simp only [BitVec.toNat_mul, BitVec.toNat_setWidth, BitVec.toNat_ofNat]
    omega
  refine ⟨?_, by decide, ?_, by omega, by decide, by omega, ?_⟩
  · change (p * 4096) % 2 ^ 32 = 32 * p * 128
    omega
  · change _ % 128 = 0
    omega
  · rw [BitVec.and_assoc]
    exact BitVec.and_zero

namespace Mmu

lemma page_lt (addr : BitVec 64) : page addr < MMU_PAGECOUNT := Nat.mod_lt _ (by decide)

@[simp] lemma setReg_maps (m : Mmu) (p r : Nat) (val : U8) : (m.setReg p r val).maps = m.maps := rfl

@[simp] lemma remap_regs (m : Mmu) (p : Nat) : (m.remap p).regs = m.regs := rfl

lemma aligned_remap (m : Mmu) {p : Nat} (hp : p < MMU_PAGECOUNT) :
    Aligned (BitVec.ofNat 32 (p * MMU_PAGESIZE)) (BitVec.ofNat 32 MMU_PAGESIZE)
      ((m.regs p 1).setWidth 64 * BitVec.ofNat 64 MMU_PAGESIZE) (m.regs p 2 &&& MAP_READWRITE)
      (32 * p) 32 :=
  aligned_page (Nat.lt_of_lt_of_le hp (by decide)) (m.regs p 1) (m.regs p 2)

lemma write_fixed (m : Mmu) (addr : BitVec 64) (val : U8) (k : Nat) :
    ((m.write addr val).maps k).fixed = (m.maps k).fixed :=
  ((m.setReg (page addr) (reg addr) val).aligned_remap (page_lt addr)).fixed m.maps k

lemma reset_fixed (m : Mmu) (k : Nat) : (m.reset.maps k).fixed = (m.maps k).fixed := by
  have hpages : ∀ (l : List Nat) (m : Mmu),
      ((l.foldl resetPage m).maps k).fixed = (m.maps k).fixed := by
    intro l
    induction l with
    | nil => intro m; rfl
    | cons p l ih =>
      intro m
      rw [List.foldl_cons, ih, resetPage, write_fixed, write_fixed, write_fixed]
  exact hpages _ m

end Mmu

namespace Eon

/-- The MMU's own entry, in units of the bus map. -/
abbrev mmuEntry : Nat := 448

lemma mmuAttached_apply (k : Nat) :
    mmuAttached.maps k = if k = mmuEntry then ⟨1, 0, 7⟩
      else (Mmu.reset ⟨fun _ _ => 0, unmapped⟩).maps k := by
  have hfree : ¬((Mmu.reset ⟨fun _ _ => 0, unmapped⟩).maps k).fixed := by
    rw [Mmu.reset_fixed, unmapped_free]
    exact Bool.false_ne_true
  have happly : mmuAttached.maps k =
      if mmuEntry ≤ k ∧ k < mmuEntry + 1 ∧ ¬((Mmu.reset ⟨fun _ _ => 0, unmapped⟩).maps k).fixed then
        ⟨1, 0 + BitVec.ofNat 64 (BUS_MAP_SIZE * (k - mmuEntry)), MAP_READWRITE ||| MAP_FIXED⟩
      else (Mmu.reset ⟨fun _ _ => 0, unmapped⟩).maps k :=
    busMap_apply _ mmuEntry 1 k (by decide) (by decide) (by decide)
  rw [happly]
  by_cases hk : k = mmuEntry
  · subst hk
    rw [if_pos ⟨Nat.le_refl _, by decide, hfree⟩, if_pos rfl]
    rfl
  · rw [if_neg (by omega), if_neg hk]

/-- Once the MMU is mapped its entry is the only fixed one. -/
lemma mmuAttached_fixed (k : Nat) : (mmuAttached.maps k).fixed = (k == mmuEntry) := by
  rw [mmuAttached_apply]
  by_cases hk : k = mmuEntry
  · rw [if_pos hk, hk]
    decide
  · rw [if_neg hk, Mmu.reset_fixed, unmapped_free]
    simp [hk]

/-- The maps of the devices around the MMU's entry. -/
def layout (k : Nat) : BusMap :=
  if k = mmuEntry then ⟨1, 0, 7⟩
  else if k = 452 then ⟨5, 0, 3⟩
  else if k = 450 ∨ k = 510 then ⟨4, 0, 3⟩
  else if 456 ≤ k then ⟨3, BitVec.ofNat 64 (BUS_MAP_SIZE * (k - 456)), 1⟩
  else ⟨2, BitVec.ofNat 64 (BUS_MAP_SIZE * k), 3⟩

lemma overlay_apply {k : Nat} (hk : k < NUM_BUS_MAPS) : overlay mmuAttached.maps k = layout k := by
  have hk' : k < 512 := hk
  have hram : Aligned 0x0000 0x10000 0 MAP_READWRITE 0 512 := by constructor <;> decide
  have hrom : Aligned 0xe400 0x1c00 0 MAP_READABLE 456 56 := by constructor <;> decide
  have hcon : Aligned 0xe100 0x80 0 MAP_READWRITE 450 1 := by constructor <;> decide
  have hcon' : Aligned 0xff00 0x80 0 MAP_READWRITE 510 1 := by constructor <;> decide
  have hdisk : Aligned 0xe200 0x80 0 MAP_READWRITE 452 1 := by constructor <;> decide
  by_cases hmmu : k = mmuEntry
  · -- every call finds the entry fixed
    have hf : (mmuAttached.maps k).fixed = true := by rw [mmuAttached_fixed, hmmu]; rfl
    rw [overlay, hdisk.keep, hcon'.keep, hcon.keep, hrom.keep, hram.keep hf, mmuAttached_apply,
      layout, if_pos hmmu, if_pos hmmu]
    · rwa [hram.fixed]
    · rwa [hrom.fixed, hram.fixed]
    · rwa [hcon.fixed, hrom.fixed, hram.fixed]
    · rwa [hcon'.fixed, hcon.fixed, hrom.fixed, hram.fixed]
  · have hf : (mmuAttached.maps k).fixed = false := by rw [mmuAttached_fixed]; simp [hmmu]
    rw [overlay, hdisk.apply_free, hcon'.apply_free, hcon.apply_free, hrom.apply_free,
      hram.apply_free hf, layout]
    · rw [if_neg hmmu]
      split_ifs
      all_goals try omega
      · rw [show k - 452 = 0 by omega]; rfl
      · rw [show k - 510 = 0 by omega]; rfl
      · rw [show k - 450 = 0 by omega]; rfl
      · exact congrArg (BusMap.mk 3 · 1) (BitVec.zero_add _)
      · exact congrArg (BusMap.mk 2 · 3) (BitVec.zero_add _)
    · rwa [hram.fixed]
    · rwa [hrom.fixed, hram.fixed]
    · rwa [hcon.fixed, hrom.fixed, hram.fixed]
    · rwa [hcon'.fixed, hcon.fixed, hrom.fixed, hram.fixed]

lemma init_apply {k : Nat} (hk : k < NUM_BUS_MAPS) : init.maps k = layout k := overlay_apply hk

lemma layout_fixed (k : Nat) : (layout k).fixed = (k == mmuEntry) := by
  unfold layout
  split_ifs with h
  · rw [h]; decide
  all_goals
    rw [beq_eq_false_iff_ne.mpr h]
    simp [BusMap.fixed]

end Eon

end Exec09
