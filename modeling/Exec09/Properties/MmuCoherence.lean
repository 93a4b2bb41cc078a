import Exec09.Properties.BusMaps

/-!
# The EON's MMU registers and the bus maps

The registers of a page determine its map entries, except for the entry of the MMU itself, which
is fixed.  The pages 14 and 15 start with other devices laid over them, and come to obey their
registers with the first write to one of them.
-/

namespace Exec09

namespace Mmu

/-- Entry `k` of page `p` as the registers describe it. -/
def entry (m : Mmu) (p k : Nat) : BusMap where
  devid := (m.regs p 0).setWidth 32
  offset := (m.regs p 1).setWidth 64 * BitVec.ofNat 64 MMU_PAGESIZE +
    BitVec.ofNat 64 (BUS_MAP_SIZE * k)
  flags := m.regs p 2 &&& MAP_READWRITE

/-- Page `p` is mapped as its registers say. -/
def Coherent (m : Mmu) (p : Nat) : Prop :=
  ∀ k < 32, (m.maps (32 * p + k)).fixed = false → m.maps (32 * p + k) = m.entry p k

/-- A write changes no entry outside the page of its register. -/
lemma write_outside (m : Mmu) (addr : BitVec 64) (val : U8) {k : Nat} (hk : k / 32 ≠ page addr) :
    (m.write addr val).maps k = m.maps k := by
  have h := (m.setReg (page addr) (reg addr) val).aligned_remap (page_lt addr)
  exact h.outside m.maps (by omega)

/-- A write leaves fixed entries alone. -/
lemma write_keep (m : Mmu) (addr : BitVec 64) (val : U8) {k : Nat}
    (hf : (m.maps k).fixed = true) : (m.write addr val).maps k = m.maps k :=
  ((m.setReg (page addr) (reg addr) val).aligned_remap (page_lt addr)).keep hf

lemma write_regs_of_ne (m : Mmu) (addr : BitVec 64) (val : U8) {p : Nat} (hp : p ≠ page addr)
    (r : Nat) : (m.write addr val).regs p r = m.regs p r := by
  change (if p = page addr ∧ r = reg addr then val else m.regs p r) = m.regs p r
  exact if_neg fun h => hp h.1

/-- A write makes its own page coherent. -/
lemma write_coherent_self (m : Mmu) (addr : BitVec 64) (val : U8) :
    (m.write addr val).Coherent (page addr) := by
  intro k hk hf
  rw [write_fixed] at hf
  have h := (m.setReg (page addr) (reg addr) val).aligned_remap (page_lt addr)
  refine (h.inside (Nat.le_add_right _ _) (by omega) hf).trans ?_
  rw [Nat.add_sub_cancel_left]
  rfl

/-- A write keeps every other page coherent. -/
lemma write_coherent_of_ne {m : Mmu} {p : Nat} (hm : m.Coherent p) {addr : BitVec 64} (val : U8)
    (hp : p ≠ page addr) : (m.write addr val).Coherent p := by
  intro k hk hf
  rw [write_fixed] at hf
  rw [m.write_outside addr val (by omega), hm k hk hf]
  simp only [entry, m.write_regs_of_ne addr val hp]

lemma write_coherent {m : Mmu} {p : Nat} (hm : m.Coherent p) (addr : BitVec 64) (val : U8) :
    (m.write addr val).Coherent p := by
  by_cases hp : p = page addr
  · rw [hp]
    exact m.write_coherent_self addr val
  · exact write_coherent_of_ne hm val hp

/-- A sequence of register writes. -/
def writes (m : Mmu) (l : List (BitVec 64 × U8)) : Mmu := l.foldl (fun m x => m.write x.1 x.2) m

@[simp] lemma writes_nil (m : Mmu) : m.writes [] = m := rfl

@[simp] lemma writes_cons (m : Mmu) (x : BitVec 64 × U8) (l : List (BitVec 64 × U8)) :
    m.writes (x :: l) = (m.write x.1 x.2).writes l := rfl

lemma writes_keep {m : Mmu} {k : Nat} (hf : (m.maps k).fixed = true) (l : List (BitVec 64 × U8)) :
    (m.writes l).maps k = m.maps k := by
  induction l generalizing m with
  | nil => rfl
  | cons x l ih =>
    rw [writes_cons, ih (by rw [write_fixed]; exact hf), m.write_keep x.1 x.2 hf]

lemma writes_fixed (m : Mmu) (l : List (BitVec 64 × U8)) (k : Nat) :
    ((m.writes l).maps k).fixed = (m.maps k).fixed := by
  induction l generalizing m with
  | nil => rfl
  | cons x l ih => rw [writes_cons, ih, write_fixed]

/-- A coherent page stays coherent, and a page becomes coherent with the first write to it. -/
lemma writes_coherent {m : Mmu} {p : Nat} (l : List (BitVec 64 × U8))
    (h : m.Coherent p ∨ ∃ x ∈ l, page x.1 = p) : (m.writes l).Coherent p := by
  induction l generalizing m with
  | nil =>
    rcases h with h | ⟨x, hx, -⟩
    · exact h
    · exact absurd hx List.not_mem_nil
  | cons x l ih =>
    rw [writes_cons]
    apply ih
    rcases h with h | ⟨y, hy, hp⟩
    · exact Or.inl (write_coherent h x.1 x.2)
    · rcases List.mem_cons.mp hy with rfl | hy
      · exact Or.inl (hp ▸ m.write_coherent_self y.1 y.2)
      · exact Or.inr ⟨y, hy, hp⟩

end Mmu

namespace Eon

/-- Below the I/O region there is RAM. -/
lemma init_ram {k : Nat} (hk : k < mmuEntry) :
    init.maps k = ⟨2, BitVec.ofNat 64 (BUS_MAP_SIZE * k), 3⟩ := by
  have hk' : k < 448 := hk
  rw [init_apply (Nat.lt_trans hk (by decide)), layout, if_neg (Nat.ne_of_lt hk),
    if_neg (by omega), if_neg (by omega), if_neg (by omega)]

/-- The registers are sampled from the fifth entry, which in pages 0 to 13 is RAM. -/
lemma init_regs {p : Nat} (hp : p < 14) :
    init.regs p 0 = 2 ∧ init.regs p 1 = BitVec.ofNat 8 p ∧ init.regs p 2 = 3 := by
  have hs : overlay mmuAttached.maps (Mmu.sampled p) =
      ⟨2, BitVec.ofNat 64 (BUS_MAP_SIZE * (4 + p * 32)), 3⟩ :=
    init_ram (by change 4 + p * 32 < 448; omega)
  have hp' : p < MMU_PAGECOUNT := Nat.lt_trans hp (by decide)
  simp only [init, Mmu.resetComplete, if_pos hp', hs]
  refine ⟨rfl, ?_, rfl⟩
  apply BitVec.eq_of_toNat_eq
  change 128 * (4 + p * 32) % 2 ^ 64 / 4096 % 2 ^ 8 = p % 2 ^ 8
  omega

lemma init_coherent {p : Nat} (hp : p < 14) : init.Coherent p := by
  intro k hk _
  obtain ⟨h0, h1, h2⟩ := init_regs hp
  rw [init_ram (by change 32 * p + k < 448; omega), Mmu.entry, h0, h1, h2]
  have hoff : BitVec.ofNat 64 (BUS_MAP_SIZE * (32 * p + k)) =
      (BitVec.ofNat 8 p).setWidth 64 * BitVec.ofNat 64 MMU_PAGESIZE +
        BitVec.ofNat 64 (BUS_MAP_SIZE * k) := by
    apply BitVec.eq_of_toNat_eq
    simp only [BitVec.toNat_add, BitVec.toNat_mul, BitVec.toNat_setWidth, BitVec.toNat_ofNat]
    change 128 * (32 * p + k) % 2 ^ 64 =
      (p % 2 ^ 8 % 2 ^ 64 * (4096 % 2 ^ 64) % 2 ^ 64 + 128 * k % 2 ^ 64) % 2 ^ 64
    omega
  rw [hoff]
  rfl

/-- The MMU's own entry stays the only fixed one. -/
lemma mmuAfter_fixed (l : List (BitVec 64 × U8)) {k : Nat} (hk : k < NUM_BUS_MAPS) :
    ((mmuAfter l).maps k).fixed = (k == mmuEntry) := by
  have h : ((mmuAfter l).maps k).fixed = (init.maps k).fixed := Mmu.writes_fixed init l k
  rw [h, init_apply hk, layout_fixed]

/-- While the MMU's entry is in place, the MMU is found at every address of its window. -/
lemma mmu_reachable {ι : Type} {b : Bus ι}
    (hb : b.busmaps mmuEntry = ⟨1, 0, MAP_READWRITE ||| MAP_FIXED⟩)
    (hd : b.deviceTable = devices) {addr : Unsigned} (ha : addr.toNat / BUS_MAP_SIZE = mmuEntry) :
    b.device addr = 1 ∧ b.phyAddr addr = BitVec.ofNat 64 (addr.toNat % BUS_MAP_SIZE) := by
  have hmap : b.findMap addr = ⟨1, 0, MAP_READWRITE ||| MAP_FIXED⟩ := by
    rw [Bus.findMap, ha, hb]
  constructor
  · rw [Bus.device, hmap, Bus.findDevice, Bus.noResponse, hd]
    decide
  · rw [Bus.phyAddr, hmap]
    exact BitVec.zero_add _

/-- **The MMU's registers and the bus maps stay coherent.**  After any sequence of writes to the
MMU's window its own map entry is the one it started with, so that the MMU is still found at
0xE000; a page is mapped as its registers say,
the pages 14 and 15 from the first write to one of their registers on; and one more write changes
no entry outside the page of its register. -/
theorem mmu_coherent (l : List (BitVec 64 × U8)) :
    (mmuAfter l).maps mmuEntry = ⟨1, 0, MAP_READWRITE ||| MAP_FIXED⟩ ∧
    (∀ (ι : Type) (b : Bus ι) (addr : Unsigned), b.busmaps = (mmuAfter l).maps →
      b.deviceTable = devices → addr.toNat / BUS_MAP_SIZE = mmuEntry →
      b.device addr = 1 ∧ b.phyAddr addr = BitVec.ofNat 64 (addr.toNat % BUS_MAP_SIZE)) ∧
    (∀ p < MMU_PAGECOUNT, (p < 14 ∨ ∃ x ∈ l, Mmu.page x.1 = p) → (mmuAfter l).Coherent p) ∧
    (∀ addr val k, k / 32 ≠ Mmu.page addr →
      ((mmuAfter l).write addr val).maps k = (mmuAfter l).maps k) := by
  have hinit : init.maps mmuEntry = ⟨1, 0, 7⟩ := by
    rw [init_apply (by decide)]
    rfl
  have hf : (init.maps mmuEntry).fixed = true := by
    rw [hinit]
    decide
  have hentry : (mmuAfter l).maps mmuEntry = ⟨1, 0, MAP_READWRITE ||| MAP_FIXED⟩ :=
    (Mmu.writes_keep hf l).trans hinit
  refine ⟨hentry, fun ι b addr hb hd ha => ?_, fun p _ hp => ?_,
    fun addr val k hk => (mmuAfter l).write_outside addr val hk⟩
  · exact mmu_reachable (by rw [hb, hentry]) hd ha
  · exact Mmu.writes_coherent l (hp.imp_left init_coherent)

end Eon

end Exec09
