import Exec09.Properties.Banking

/-!
# Mappings and the sizes of devices

`bus_map` does not look at the size of the device it maps.  Whether a mapping stays inside its
device depends on what the registers of each machine can express: the EON2 cannot leave its RAM,
the EON leaves its boot ROM with every page but the first, and the ROM window of the WPC, which
shows the RAM device, is larger than that device.
-/

namespace Exec09

/-- The size of the RAM or ROM device that a map entry names, if it names one. -/
def storageSize (t : List HwDevice) (devid : Unsigned) : Option Nat :=
  if devid.setWidth 8 = INVALID_DEVID then none
  else
    match t[(devid.setWidth 8).toNat]? with
    | some d => if d.cls = .ram ∨ d.cls = .rom then some d.size else none
    | none => none

/-- If the entry names a RAM or ROM device, the whole unit lies inside it. -/
def BusMap.Within (t : List HwDevice) (e : BusMap) : Prop :=
  ∀ n, storageSize t e.devid = some n → e.offset.toNat + BUS_MAP_SIZE ≤ n

namespace Config

/-- Every map entry stays inside its device. -/
def InBounds (c : Config) : Prop := ∀ k < NUM_BUS_MAPS, (c.maps k).Within c.devices

end Config

namespace Eon

/-- The value of a register of the MMU: the last one written, or the one after initialisation. -/
def lastReg (l : List (BitVec 64 × U8)) (p r : Nat) : U8 :=
  l.foldl (fun acc x => if p = Mmu.page x.1 ∧ r = Mmu.reg x.1 then x.2 else acc) (init.regs p r)

lemma mmuAfter_regs (l : List (BitVec 64 × U8)) (p r : Nat) :
    (mmuAfter l).regs p r = lastReg l p r := by
  have h : ∀ (m : Mmu), (m.writes l).regs p r =
      l.foldl (fun acc x => if p = Mmu.page x.1 ∧ r = Mmu.reg x.1 then x.2 else acc)
        (m.regs p r) := by
    induction l with
    | nil => intro m; rfl
    | cons x l ih =>
      intro m
      rw [Mmu.writes_cons, ih, List.foldl_cons]
      rfl
  exact h init

/-- The registers of page `p` are in force: from the start below page 14, and from the first write
to one of them on in pages 14 and 15. -/
def InForce (l : List (BitVec 64 × U8)) (p : Nat) : Prop := p < 14 ∨ ∃ x ∈ l, Mmu.page x.1 = p

/-- A page none of whose registers is written is not remapped. -/
lemma mmuAfter_untouched {l : List (BitVec 64 × U8)} {k : Nat}
    (h : ∀ x ∈ l, Mmu.page x.1 ≠ k / 32) : (mmuAfter l).maps k = init.maps k := by
  have hw : ∀ m : Mmu, (m.writes l).maps k = m.maps k := by
    induction l with
    | nil => intro m; rfl
    | cons x l ih =>
      intro m
      rw [Mmu.writes_cons, ih fun y hy => h y (List.mem_cons_of_mem x hy)]
      exact m.write_outside x.1 x.2 (h x List.mem_cons_self).symm
  exact hw init

/-- On the EON, device 2 is the RAM and device 3 the boot ROM. -/
lemma storageSize_devices : ∀ d : U8, storageSize devices (d.setWidth 32) =
    if d = 2 then some 0x100000 else if d = 3 then some 0x1c00 else none := by
  decide +kernel

lemma within_iff (d : U8) (o : BitVec 64) (f : U8) :
    BusMap.Within devices ⟨d.setWidth 32, o, f⟩ ↔
      (d = 2 → o.toNat + BUS_MAP_SIZE ≤ 0x100000) ∧ (d = 3 → o.toNat + BUS_MAP_SIZE ≤ 0x1c00) := by
  unfold BusMap.Within
  rw [storageSize_devices]
  by_cases h2 : d = 2
  · subst h2
    simp
  · by_cases h3 : d = 3
    · subst h3
      simp
    · rw [if_neg h2, if_neg h3]
      exact ⟨fun _ => ⟨fun h => absurd h h2, fun h => absurd h h3⟩, fun _ n hn => by cases hn⟩

/-- Offset of entry `k` of a page. -/
lemma entry_offset (m : Mmu) (p : Nat) {k : Nat} (hk : k < 32) :
    (m.entry p k).offset.toNat = (m.regs p 1).toNat * 4096 + 128 * k := by
  have := (m.regs p 1).isLt
  simp only [Mmu.entry, BitVec.toNat_add, BitVec.toNat_mul, BitVec.toNat_setWidth,
    BitVec.toNat_ofNat]
  change ((m.regs p 1).toNat % 2 ^ 64 * (4096 % 2 ^ 64) % 2 ^ 64 + 128 * k % 2 ^ 64) % 2 ^ 64 = _
  omega

/-- A page that shows the boot ROM must show its first page. -/
lemma entry_within (m : Mmu) (p : Nat) {k : Nat} (hk : k < 32) (h : m.regs p 0 = 3 → m.regs p 1 = 0) :
    (m.entry p k).Within devices := by
  refine (within_iff (m.regs p 0) _ _).mpr ⟨fun _ => ?_, fun h3 => ?_⟩
  · have := (m.regs p 1).isLt
    change (m.entry p k).offset.toNat + 128 ≤ _
    rw [entry_offset m p hk]
    omega
  · change (m.entry p k).offset.toNat + 128 ≤ _
    rw [entry_offset m p hk, h h3]
    change 0 * 4096 + 128 * k + 128 ≤ 7168
    omega

lemma not_entry_within (m : Mmu) (p : Nat) (h3 : m.regs p 0 = 3) (h : m.regs p 1 ≠ 0) :
    ¬(m.entry p 31).Within devices := by
  intro hw
  have hle : (m.entry p 31).offset.toNat + 128 ≤ 7168 :=
    ((within_iff (m.regs p 0) _ _).mp hw).2 h3
  rw [entry_offset m p (by decide)] at hle
  have : (m.regs p 1).toNat ≠ 0 := fun h0 => h (BitVec.eq_of_toNat_eq h0)
  omega

/-- Before the guest writes to the MMU, everything is inside its device. -/
lemma layout_within {k : Nat} (hk : k < NUM_BUS_MAPS) : (layout k).Within devices := by
  have hk' : k < 512 := hk
  unfold layout
  split_ifs
  · exact (within_iff 1 _ _).mpr ⟨by decide, by decide⟩
  · exact (within_iff 5 _ _).mpr ⟨by decide, by decide⟩
  · exact (within_iff 4 _ _).mpr ⟨by decide, by decide⟩
  · refine (within_iff 3 _ _).mpr ⟨fun h => absurd h (by decide), fun _ => ?_⟩
    change 128 * (k - 456) % 2 ^ 64 + 128 ≤ 7168
    omega
  · refine (within_iff 2 _ _).mpr ⟨fun _ => ?_, fun h => absurd h (by decide)⟩
    change 128 * k % 2 ^ 64 + 128 ≤ 1048576
    omega

/-- The mappings of the EON stay inside their devices exactly when every page that shows the boot
ROM shows the first page of it. -/
lemma inBounds_iff (l : List (BitVec 64 × U8)) :
    (Config.eon l).InBounds ↔
      ∀ p < MMU_PAGECOUNT, InForce l p → lastReg l p 0 = 3 → lastReg l p 1 = 0 := by
  have hcoh : ∀ p, InForce l p → (mmuAfter l).Coherent p :=
    fun p hp => Mmu.writes_coherent l (hp.imp_left init_coherent)
  simp only [← mmuAfter_regs]
  constructor
  · intro h p hp hforce h3
    have hp' : p < 16 := hp
    by_contra h1
    refine not_entry_within (mmuAfter l) p h3 h1 ?_
    have hk : 32 * p + 31 < NUM_BUS_MAPS := by
      change 32 * p + 31 < 512
      omega
    have hfree : ((mmuAfter l).maps (32 * p + 31)).fixed = false := by
      rw [mmuAfter_fixed l hk]
      exact beq_eq_false_iff_ne.mpr (by change 32 * p + 31 ≠ 448; omega)
    rw [← hcoh p hforce 31 (by decide) hfree]
    exact h _ hk
  · intro h k hk
    have hk' : k < 512 := hk
    by_cases hforce : InForce l (k / 32)
    · by_cases hmmu : k = mmuEntry
      · have hkeep : (mmuAfter l).maps k = init.maps k := by
          refine Mmu.writes_keep ?_ l
          rw [init_apply hk, layout_fixed, hmmu]
          rfl
        change ((mmuAfter l).maps k).Within devices
        rw [hkeep, init_apply hk]
        exact layout_within hk
      · have hfree : ((mmuAfter l).maps k).fixed = false := by
          rw [mmuAfter_fixed l hk]
          exact beq_eq_false_iff_ne.mpr hmmu
        have hsplit : 32 * (k / 32) + k % 32 = k := Nat.div_add_mod k 32
        have hentry : (mmuAfter l).maps k = (mmuAfter l).entry (k / 32) (k % 32) := by
          have := hcoh _ hforce (k % 32) (Nat.mod_lt k (by decide))
          rw [hsplit] at this
          exact this hfree
        change ((mmuAfter l).maps k).Within devices
        rw [hentry]
        exact entry_within (mmuAfter l) _ (Nat.mod_lt k (by decide))
          (h _ (by change k / 32 < 16; omega) hforce)
    · change ((mmuAfter l).maps k).Within devices
      rw [mmuAfter_untouched fun x hx hp => hforce (Or.inr ⟨x, hx, hp⟩), init_apply hk]
      exact layout_within hk

end Eon

namespace Eon2

/-- Every page the small MMU can select is inside the RAM. -/
lemma page_within (reg f : U8) {k : Nat} (hk : k < 32) :
    BusMap.Within devices
      ⟨1, reg.setWidth 64 * BitVec.ofNat 64 SMR_PAGESIZE + BitVec.ofNat 64 (BUS_MAP_SIZE * k), f⟩ := by
  intro n hn
  have hsize : n = 0x100000 := (Option.some.inj hn).symm
  have hreg := reg.isLt
  have hoff : (reg.setWidth 64 * BitVec.ofNat 64 SMR_PAGESIZE +
      BitVec.ofNat 64 (BUS_MAP_SIZE * k)).toNat = reg.toNat * 4096 + 128 * k := by
    simp only [BitVec.toNat_add, BitVec.toNat_mul, BitVec.toNat_setWidth, BitVec.toNat_ofNat]
    change (reg.toNat % 2 ^ 64 * (4096 % 2 ^ 64) % 2 ^ 64 + 128 * k % 2 ^ 64) % 2 ^ 64 = _
    omega
  rw [hoff, hsize]
  change _ + 128 ≤ 1048576
  omega

lemma write_within {m : SmallMmu} (hm : ∀ k < NUM_BUS_MAPS, (m.maps k).Within devices)
    (addr : BitVec 64) (val : U8) :
    ∀ k < NUM_BUS_MAPS, ((m.write 1 addr val).maps k).Within devices := by
  intro k hk
  simp only [SmallMmu.write]
  split
  · have ha := (m.setReg addr val).aligned_remap
    change (busMap _ 1 _ _ _ (m.setReg addr val).maps k).Within devices
    rw [ha.apply, SmallMmu.setReg_maps]
    split
    · rename_i hin
      exact page_within _ _ (by omega)
    · exact hm k hk
  · rw [SmallMmu.setReg_maps]
    exact hm k hk

lemma mmuAttached_within (g : Nat → U8) (r : Nat → Nat → U8) :
    ∀ k < NUM_BUS_MAPS, ((mmuAttached g r).maps k).Within devices := by
  intro k hk
  have hk' : k < 512 := hk
  have hatt : (mmuAttached g r).Coherent (k / 32) := by
    unfold mmuAttached SmallMmu.reset
    exact SmallMmu.resetSlots_coherent (malloc_free g r) (by omega) _
      (Or.inr (List.mem_range.mpr (by change k / 32 < 16; omega)))
  have hentry := hatt (k % 32) (Nat.mod_lt k (by decide))
  rw [Nat.div_add_mod] at hentry
  rw [hentry]
  exact page_within _ _ (Nat.mod_lt k (by decide))

lemma init_within (g : Nat → U8) (r : Nat → Nat → U8) :
    ∀ k < NUM_BUS_MAPS, ((init g r).maps k).Within devices := by
  intro k hk
  have hk' : k < 512 := hk
  change (overlay (mmuAttached g r).maps k).Within devices
  rw [overlay, aligned_expander.apply]
  split
  · intro n hn
    cases hn
  · rw [aligned_rom.apply]
    split
    · intro n hn
      have hsize : n = 0x800 := (Option.some.inj hn).symm
      rw [hsize]
      change (0 + 128 * (k - 496) % 2 ^ 64) % 2 ^ 64 + 128 ≤ 2048
      omega
    · exact mmuAttached_within g r k hk

lemma inBounds (g : Nat → U8) (r : Nat → Nat → U8) (l : List (BitVec 64 × U8)) :
    (Config.eon2 g r l).InBounds := by
  have h : ∀ m : SmallMmu, (∀ k < NUM_BUS_MAPS, (m.maps k).Within devices) →
      ∀ k < NUM_BUS_MAPS, ((m.writes l).maps k).Within devices := by
    induction l with
    | nil => exact fun m hm => hm
    | cons x l ih => exact fun m hm => ih _ (write_within hm x.1 x.2)
  exact h _ (init_within g r)

end Eon2

namespace Wpc

lemma within_of_place {e : BusMap} {d : Unsigned} {o : BitVec 64} (h : place e = (d, o)) :
    e.Within devices ↔ ∀ n, storageSize devices d = some n → o.toNat + BUS_MAP_SIZE ≤ n := by
  have hd : e.devid = d := congrArg Prod.fst h
  have ho : e.offset = o := congrArg Prod.snd h
  rw [BusMap.Within, hd, ho]

/-- A page number times the size of a page, plus an offset. -/
lemma page_offset (p : U8) (size i : Nat) (hs : size ≤ 0x4000) (hi : i < 0x10000) :
    (p.setWidth 64 * BitVec.ofNat 64 size + BitVec.ofNat 64 i).toNat = p.toNat * size + i := by
  have hp := p.isLt
  have hprod : p.toNat * size ≤ 255 * 0x4000 := Nat.mul_le_mul (by omega) hs
  rw [BitVec.toNat_add, BitVec.toNat_mul, BitVec.toNat_setWidth, BitVec.toNat_ofNat,
    BitVec.toNat_ofNat, Nat.mod_eq_of_lt (show p.toNat < 2 ^ 64 by omega),
    Nat.mod_eq_of_lt (show size < 2 ^ 64 by omega), Nat.mod_eq_of_lt (show i < 2 ^ 64 by omega),
    Nat.mod_eq_of_lt (show p.toNat * size < 2 ^ 64 by omega)]
  exact Nat.mod_eq_of_lt (by omega)

/-- With the ROM window where `wpc_init` puts it, every window fits its device. -/
lemma shows_within (low high : Option U8) {k : Nat} (hk : k < NUM_BUS_MAPS) :
    ∀ n, storageSize devices (shows low high none k).1 = some n →
      (shows low high none k).2.toNat + BUS_MAP_SIZE ≤ n := by
  have hk' : k < 512 := hk
  have hbyte : ∀ p : U8, p.toNat < 256 := fun p => p.isLt
  intro n hn
  unfold shows at hn ⊢
  split_ifs at hn ⊢ with h₁ h₂ h₃ h₄ h₅ h₆
  · have hsize : n = 0x2000 := (Option.some.inj hn).symm
    rw [hsize]
    change 128 * k % 2 ^ 64 + 128 ≤ 8192
    omega
  · cases hn
  · cases low with
    | none =>
      have hsize : n = 0x2000 := (Option.some.inj hn).symm
      rw [hsize]
      change 128 * (k - 112) % 2 ^ 64 + 128 ≤ 8192
      omega
    | some p =>
      have hsize : n = 0x100000 := (Option.some.inj hn).symm
      have hp := hbyte p
      have hoff := page_offset p 0x200 (128 * (k - 112)) (by decide) (by omega)
      change _ = p.toNat * 512 + 128 * (k - 112) at hoff
      rw [hsize]
      refine Nat.le_trans (Nat.add_le_add_right (Nat.le_of_eq hoff) 128) ?_
      omega
  · cases high with
    | none =>
      have hsize : n = 0x2000 := (Option.some.inj hn).symm
      rw [hsize]
      change 128 * (k - 112) % 2 ^ 64 + 128 ≤ 8192
      omega
    | some p =>
      have hsize : n = 0x100000 := (Option.some.inj hn).symm
      have hp := hbyte p
      have hoff := page_offset p 0x200 (128 * (k - 116)) (by decide) (by omega)
      change _ = p.toNat * 512 + 128 * (k - 116) at hoff
      rw [hsize]
      refine Nat.le_trans (Nat.add_le_add_right (Nat.le_of_eq hoff) 128) ?_
      omega
  · cases hn
  · have hsize : n = 0x100000 := (Option.some.inj hn).symm
    rw [hsize]
    change 128 * (k - 128) % 2 ^ 64 + 128 ≤ 1048576
    omega
  · have hsize : n = 0x100000 := (Option.some.inj hn).symm
    rw [hsize]
    change (1015808 + 128 * (k - 256) % 2 ^ 64) % 2 ^ 64 + 128 ≤ 1048576
    omega

/-- The mappings of the WPC stay inside their devices exactly as long as the ROM window is not
moved. -/
lemma inBounds_iff (l : List RegWrite) :
    (Config.wpc l).InBounds ↔ lastWrite .romBank l = none := by
  constructor
  · intro h
    cases hr : lastWrite .romBank l with
    | none => rfl
    | some v =>
      have hp : place ((after l).maps 255) =
          (2, v.setWidth 64 * 0x4000 + BitVec.ofNat 64 (BUS_MAP_SIZE * (255 - 128))) := by
        rw [after_place l (by decide), hr]
        rfl
      have hle := (within_of_place hp).mp (h 255 (by decide)) 0x2000 rfl
      have hoff := page_offset v 0x4000 (BUS_MAP_SIZE * (255 - 128)) (by decide) (by decide)
      change (v.setWidth 64 * 0x4000 + BitVec.ofNat 64 (BUS_MAP_SIZE * (255 - 128))).toNat + 128 ≤
        8192 at hle
      change (v.setWidth 64 * 0x4000 + BitVec.ofNat 64 (BUS_MAP_SIZE * (255 - 128))).toNat =
        v.toNat * 16384 + 128 * 127 at hoff
      omega
  · intro h k hk
    have hk' : k < 512 := hk
    have hp := after_place l hk
    rw [h] at hp
    exact (within_of_place (e := (after l).maps k) rfl).mpr (by
      change ∀ n, storageSize devices (place ((after l).maps k)).1 = some n →
        (place ((after l).maps k)).2.toNat + BUS_MAP_SIZE ≤ n
      rw [hp]
      exact shows_within _ _ hk)

end Wpc

lemma Simple.inBounds : Config.simple.InBounds := by
  intro k hk
  have hk' : k < 512 := hk
  have hram : Aligned 0x0000 0x10000 0 MAP_READWRITE 0 512 := by constructor <;> decide
  have hcon : Aligned 0xff00 0x80 0 MAP_READWRITE 510 1 := by constructor <;> decide
  change (busMap 0xff00 2 0 0x80 MAP_READWRITE _ k).Within Simple.devices
  rw [hcon.apply]
  split
  · intro n hn
    cases hn
  · rw [hram.apply_free (unmapped_free k), if_pos (by omega)]
    intro n hn
    have hsize : n = 0x10000 := (Option.some.inj hn).symm
    rw [hsize]
    change (0 + 128 * (k - 0) % 2 ^ 64) % 2 ^ 64 + 128 ≤ 65536
    omega

namespace Config

/-- What the guest has to respect for its mappings to stay inside their devices. -/
def Fits : Config → Prop
  | simple => True
  | eon l => ∀ p < MMU_PAGECOUNT, Eon.InForce l p → Eon.lastReg l p 0 = 3 → Eon.lastReg l p 1 = 0
  | eon2 _ _ _ => True
  | wpc l => Wpc.lastWrite .romBank l = none

lemma inBounds_iff_fits (c : Config) : c.InBounds ↔ c.Fits := by
  cases c with
  | simple => exact ⟨fun _ => trivial, fun _ => Simple.inBounds⟩
  | eon l => exact Eon.inBounds_iff l
  | eon2 g r l => exact ⟨fun _ => trivial, fun _ => Eon2.inBounds g r l⟩
  | wpc l => exact Wpc.inBounds_iff l

end Config

lemma Config.devices_null (c : Config) : c.devices[0]? = some ⟨.null, 0⟩ := by
  cases c <;> rfl

/-- Behind an address with RAM or ROM is the device its map entry names. -/
lemma storageSize_of_storageAt {ι : Type} {b : Bus ι} {a : Unsigned}
    (h0 : b.deviceTable[0]? = some ⟨.null, 0⟩) (h : b.StorageAt a) {d : HwDevice}
    (hd : b.deviceTable[b.device a]? = some d) :
    storageSize b.deviceTable (b.findMap a).devid = some d.size := by
  have hcls : d.cls = .ram ∨ d.cls = .rom := by
    rw [Bus.StorageAt, Bus.cls, hd] at h
    exact h
  by_cases hresp : b.noResponse (b.findMap a).devid = true
  · have hdev : b.device a = 0 := if_pos hresp
    rw [hdev, h0] at hd
    rw [← Option.some.inj hd] at hcls
    rcases hcls with hcls | hcls <;> cases hcls
  · have hdev : b.device a = ((b.findMap a).devid.setWidth 8).toNat := if_neg hresp
    have hid : (b.findMap a).devid.setWidth 8 ≠ INVALID_DEVID := by
      intro hid
      exact hresp (by simp only [Bus.noResponse, hid, true_or, decide_true])
    rw [hdev] at hd
    simp only [storageSize, if_neg hid, hd, if_pos hcls]

/-- **Mappings and device sizes.**  For every machine and every sequence of writes to its mapping
registers, all map entries lie inside the devices they name if and only if the registers fit: on
the EON a page that selects the boot ROM selects its first 4KB, and on the WPC the ROM bank
register is not written at all.  Then every access of the CPU to RAM or ROM is inside the buffer of
the device. -/
theorem mappings_inside_devices (c : Config) :
    (c.InBounds ↔ c.Fits) ∧
    (c.Fits → ∀ (ι : Type) (b : Bus ι), c.Holds b → ∀ (a : Unsigned) (d : HwDevice),
      a.toNat < MAX_CPU_ADDR → b.StorageAt a → b.deviceTable[b.device a]? = some d →
      (b.phyAddr a).toNat < d.size) := by
  refine ⟨c.inBounds_iff_fits, fun hc ι b hb a d ha hs hd => ?_⟩
  have hk : a.toNat / BUS_MAP_SIZE < NUM_BUS_MAPS := by
    change a.toNat / 128 < 512
    have : a.toNat < 65536 := ha
    omega
  have hsize := storageSize_of_storageAt (by rw [hb.devices]; exact c.devices_null) hs hd
  have hin := c.inBounds_iff_fits.mpr hc _ hk
  rw [← hb.maps, ← hb.devices] at hin
  have hle : (b.findMap a).offset.toNat + 128 ≤ d.size := hin d.size hsize
  have hmod : a.toNat % BUS_MAP_SIZE < 128 := Nat.mod_lt _ (by decide)
  refine Nat.lt_of_le_of_lt ?_ (show (b.findMap a).offset.toNat + 127 < d.size by omega)
  rw [Bus.phyAddr, BitVec.toNat_add, BitVec.toNat_ofNat]
  refine Nat.le_trans (Nat.mod_le _ _) (Nat.add_le_add_left ?_ _)
  exact Nat.le_trans (Nat.mod_le _ _) (by omega)

/-- Selecting the boot ROM for page 1 of the EON maps past the end of the ROM. -/
theorem boot_rom_page_outside : ¬∀ c : Config, c.InBounds := by
  intro h
  have hle := h (.eon [(4, 3)]) 63 (by decide) 0x1c00 (by decide +kernel)
  exact absurd hle (by decide +kernel)

end Exec09
