import Exec09.Properties.DeviceBounds

/-!
# Absolute addresses

The debugger addresses memory by device number and offset, packed into one integer.  `to_absolute`
packs the number in the map entry, and `abs_read8` looks it up in the device table without the
check that `find_device` makes for the CPU.
-/

namespace Exec09

/-- The device number is a byte and the offset fits below it in an absolute address. -/
def BusMap.Packs (e : BusMap) : Prop := e.devid.toNat < 256 ∧ e.offset.toNat + BUS_MAP_SIZE ≤ 2 ^ 28

section Step

variable {addr d len : Unsigned} {offset : BitVec 64} {flags : U8} {m : Busmaps} {s n : Nat}

lemma Aligned.packs (h : Aligned addr len offset flags s n) (hd : d.toNat < 256)
    (ho : offset.toNat + n * 128 ≤ 2 ^ 28) {k : Nat} (hm : (m k).Packs) :
    (busMap addr d offset len flags m k).Packs := by
  rw [h.apply]
  split
  · rename_i hk
    refine ⟨hd, ?_⟩
    change (offset + BitVec.ofNat 64 (128 * (k - s))).toNat + 128 ≤ 2 ^ 28
    have hcount := h.count
    have hoff : (offset + BitVec.ofNat 64 (128 * (k - s))).toNat = offset.toNat + 128 * (k - s) := by
      rw [BitVec.toNat_add, BitVec.toNat_ofNat]
      omega
    rw [hoff]
    omega
  · exact hm

end Step

/-- A page register times 4KB leaves room for a page. -/
lemma page_fits (reg : U8) : (reg.setWidth 64 * BitVec.ofNat 64 4096).toNat + 32 * 128 ≤ 2 ^ 28 := by
  have hreg := reg.isLt
  rw [BitVec.toNat_mul, BitVec.toNat_setWidth, BitVec.toNat_ofNat]
  omega

lemma unmapped_packs (k : Nat) : (unmapped k).Packs := by
  change (⟨INVALID_DEVID.setWidth 32, 0, 0⟩ : BusMap).Packs
  exact ⟨by decide, by decide⟩

lemma Simple.packs (k : Nat) : (Simple.maps k).Packs := by
  have hram : Aligned 0x0000 0x10000 0 MAP_READWRITE 0 512 := by constructor <;> decide
  have hcon : Aligned 0xff00 0x80 0 MAP_READWRITE 510 1 := by constructor <;> decide
  exact hcon.packs (by decide) (by decide)
    (hram.packs (by decide) (by decide) (unmapped_packs k))

lemma Eon.packs (l : List (BitVec 64 × U8)) {k : Nat} (hk : k < NUM_BUS_MAPS) :
    ((Eon.mmuAfter l).maps k).Packs := by
  have hw : ∀ m : Mmu, (m.maps k).Packs → ((m.writes l).maps k).Packs := by
    induction l with
    | nil => exact fun m hm => hm
    | cons x l ih =>
      intro m hm
      rw [Mmu.writes_cons]
      have ha := (m.setReg (Mmu.page x.1) (Mmu.reg x.1) x.2).aligned_remap (Mmu.page_lt x.1)
      refine ih _ (ha.packs ?_ (page_fits _) hm)
      rw [BitVec.toNat_setWidth]
      exact Nat.lt_of_le_of_lt (Nat.mod_le _ _) (BitVec.isLt _)
  refine hw Eon.init ?_
  have hk' : k < 512 := hk
  rw [Eon.init_apply hk, Eon.layout]
  split_ifs
  · exact ⟨by decide, by decide⟩
  · exact ⟨by decide, by decide⟩
  · exact ⟨by decide, by decide⟩
  · refine ⟨show (3 : Unsigned).toNat < 256 by decide, ?_⟩
    change 128 * (k - 456) % 2 ^ 64 + 128 ≤ 2 ^ 28
    omega
  · refine ⟨show (2 : Unsigned).toNat < 256 by decide, ?_⟩
    change 128 * k % 2 ^ 64 + 128 ≤ 2 ^ 28
    omega

lemma Eon2.packs (g : Nat → U8) (r : Nat → Nat → U8) (l : List (BitVec 64 × U8)) (k : Nat) :
    (((Eon2.init g r).writes l).maps k).Packs := by
  have hwrite : ∀ (m : SmallMmu) (addr : BitVec 64) (val : U8), (m.maps k).Packs →
      ((m.write 1 addr val).maps k).Packs := by
    intro m addr val hm
    simp only [SmallMmu.write]
    split
    · refine (m.setReg addr val).aligned_remap.packs (by decide) (page_fits _) ?_
      rw [SmallMmu.setReg_maps]
      exact hm
    · rw [SmallMmu.setReg_maps]
      exact hm
  have hreset : ∀ (q : List Nat) (m : SmallMmu), (m.maps k).Packs →
      ((q.foldl (SmallMmu.resetSlot 1) m).maps k).Packs := by
    intro q
    induction q with
    | nil => exact fun m hm => hm
    | cons p q ih => exact fun m hm => ih _ (hwrite _ _ _ (hwrite _ _ _ (hwrite _ _ _ hm)))
  have hwrites : ∀ m : SmallMmu, (m.maps k).Packs → ((m.writes l).maps k).Packs := by
    induction l with
    | nil => exact fun m hm => hm
    | cons x l ih => exact fun m hm => ih _ (hwrite m x.1 x.2 hm)
  refine hwrites _ ?_
  have hatt : ((Eon2.mmuAttached g r).maps k).Packs := by
    unfold Eon2.mmuAttached SmallMmu.reset
    exact hreset _ _ (unmapped_packs k)
  exact Eon2.aligned_expander.packs (by decide) (by decide)
    (Eon2.aligned_rom.packs (by decide) (by decide) hatt)

/-- A bank number times the size of a bank leaves room for a unit. -/
lemma bank_packs {d : Unsigned} (hd : d.toNat < 256) (p : U8) {size i : Nat} (hs : size ≤ 0x4000)
    (hi : i < 0x8000) :
    d.toNat < 256 ∧
      (p.setWidth 64 * BitVec.ofNat 64 size + BitVec.ofNat 64 i).toNat + 128 ≤ 2 ^ 28 := by
  have hp := p.isLt
  have hprod : p.toNat * size ≤ 255 * 0x4000 := Nat.mul_le_mul (by omega) hs
  rw [Wpc.page_offset p size i hs (by omega)]
  exact ⟨hd, by omega⟩

/-- The same for a window that starts at the beginning of its device. -/
lemma start_packs {d : Unsigned} (hd : d.toNat < 256) {i : Nat} (hi : i < 0x10000) :
    d.toNat < 256 ∧ (BitVec.ofNat 64 i).toNat + 128 ≤ 2 ^ 28 := by
  rw [BitVec.toNat_ofNat]
  exact ⟨hd, by omega⟩

lemma Wpc.shows_packs (low high rom : Option U8) {k : Nat} (hk : k < NUM_BUS_MAPS) :
    (shows low high rom k).1.toNat < 256 ∧
      (shows low high rom k).2.toNat + 128 ≤ 2 ^ 28 := by
  have hk' : k < 512 := hk
  have hunit : ∀ s, BUS_MAP_SIZE * (k - s) < 0x10000 := by
    intro s
    change 128 * (k - s) < 65536
    omega
  unfold shows
  split_ifs with h₁ h₂ h₃ h₄ h₅ h₆
  · exact start_packs (show (2 : Unsigned).toNat < 256 by decide) (hunit 0)
  · exact ⟨by decide, by decide⟩
  · cases low with
    | none => exact start_packs (show (4 : Unsigned).toNat < 256 by decide) (hunit 112)
    | some p =>
      exact bank_packs (show (3 : Unsigned).toNat < 256 by decide) p (by decide)
        (by change 128 * (k - 112) < 32768; omega)
  · cases high with
    | none => exact start_packs (show (4 : Unsigned).toNat < 256 by decide) (hunit 112)
    | some p =>
      exact bank_packs (show (3 : Unsigned).toNat < 256 by decide) p (by decide)
        (by change 128 * (k - 116) < 32768; omega)
  · exact start_packs (show (1 : Unsigned).toNat < 256 by decide) (hunit 120)
  · cases rom with
    | none => exact start_packs (show (3 : Unsigned).toNat < 256 by decide) (hunit 128)
    | some p =>
      exact bank_packs (show (2 : Unsigned).toNat < 256 by decide) p (by decide)
        (by change 128 * (k - 128) < 32768; omega)
  · refine ⟨show (3 : Unsigned).toNat < 256 by decide, ?_⟩
    change (1015808 + 128 * (k - 256) % 2 ^ 64) % 2 ^ 64 + 128 ≤ 2 ^ 28
    omega

lemma Wpc.packs (l : List Wpc.RegWrite) {k : Nat} (hk : k < NUM_BUS_MAPS) :
    ((Wpc.after l).maps k).Packs := by
  have hp := after_place l hk
  have hd : ((after l).maps k).devid = _ := congrArg Prod.fst hp
  have ho : ((after l).maps k).offset = _ := congrArg Prod.snd hp
  rw [BusMap.Packs, hd, ho]
  exact shows_packs _ _ _ hk

lemma Config.packs (c : Config) {k : Nat} (hk : k < NUM_BUS_MAPS) : (c.maps k).Packs := by
  cases c with
  | simple => exact Simple.packs k
  | eon l => exact Eon.packs l hk
  | eon2 g r l => exact Eon2.packs g r l k
  | wpc l => exact Wpc.packs l hk

lemma Config.devices_length (c : Config) : c.devices.length ≤ 255 := by
  cases c with
  | simple => exact show Simple.devices.length ≤ 255 by decide
  | eon l => exact show Eon.devices.length ≤ 255 by decide
  | eon2 g r l => exact show Eon2.devices.length ≤ 255 by decide
  | wpc l => exact show Wpc.devices.length ≤ 255 by decide

/-! ## Decoding -/

/-- What `abs_read8` makes of device number and offset, if the offset fits below the number. -/
lemma absolute_decode {d : Unsigned} {o : BitVec 64} (hd : d.toNat < 256) (ho : o.toNat < 2 ^ 28) :
    Bus.absDevice (Bus.absoluteFromReladdr d o) = d.toNat ∧
      Bus.absOffset (Bus.absoluteFromReladdr d o) = o := by
  have habs : (Bus.absoluteFromReladdr d o).toNat = d.toNat * 2 ^ 28 + o.toNat := by
    rw [Bus.absoluteFromReladdr, BitVec.toNat_add, BitVec.toNat_mul, BitVec.toNat_setWidth]
    change (d.toNat % 2 ^ 64 * 2 ^ 28 % 2 ^ 64 + o.toNat) % 2 ^ 64 = _
    omega
  constructor
  · rw [Bus.absDevice, BitVec.toNat_setWidth, BitVec.toNat_ushiftRight, habs,
      Nat.shiftRight_eq_div_pow]
    omega
  · apply BitVec.eq_of_toNat_eq
    rw [Bus.absOffset, BitVec.toNat_and, habs]
    change (d.toNat * 2 ^ 28 + o.toNat) &&& (2 ^ 28 - 1) = o.toNat
    rw [Nat.and_two_pow_sub_one_eq_mod]
    omega

namespace Bus

variable {ι : Type}

/-- The absolute address of `a` holds the device number of its map entry and its offset. -/
lemma toAbsolute_decode {c : Config} {b : Bus ι} (hb : c.Holds b) {a : Unsigned}
    (ha : a.toNat < MAX_CPU_ADDR) :
    absDevice (b.toAbsolute a) = (b.findMap a).devid.toNat ∧
      absOffset (b.toAbsolute a) = b.phyAddr a := by
  have hk : a.toNat / BUS_MAP_SIZE < NUM_BUS_MAPS := by
    have ha' : a.toNat < 65536 := ha
    change a.toNat / 128 < 512
    omega
  have hp : (b.findMap a).Packs := by
    rw [findMap, hb.maps]
    exact c.packs hk
  have hoff : (b.findMap a).offset.toNat + 128 ≤ 2 ^ 28 := hp.2
  refine absolute_decode hp.1 ?_
  rw [phyAddr, BitVec.toNat_add, BitVec.toNat_ofNat]
  change ((b.findMap a).offset.toNat + a.toNat % 128 % 2 ^ 64) % 2 ^ 64 < 2 ^ 28
  omega

lemma devid_byte {c : Config} {b : Bus ι} (hb : c.Holds b) {a : Unsigned}
    (ha : a.toNat < MAX_CPU_ADDR) :
    ((b.findMap a).devid.setWidth 8).toNat = (b.findMap a).devid.toNat := by
  have hk : a.toNat / BUS_MAP_SIZE < NUM_BUS_MAPS := by
    have ha' : a.toNat < 65536 := ha
    change a.toNat / 128 < 512
    omega
  have hp : (b.findMap a).devid.toNat < 256 := by
    rw [findMap, hb.maps]
    exact (c.packs hk).1
  rw [BitVec.toNat_setWidth]
  exact Nat.mod_eq_of_lt hp

/-- A device answers at `a`: `find_device` does not fall back on the null device. -/
def Answers (b : Bus ι) (a : Unsigned) : Prop := b.noResponse (b.findMap a).devid = false

/-- Only the number of a device in the table answers. -/
lemma not_answers_iff {c : Config} {b : Bus ι} (hb : c.Holds b) {a : Unsigned}
    (ha : a.toNat < MAX_CPU_ADDR) :
    ¬b.Answers a ↔ b.deviceTable.length ≤ (b.findMap a).devid.toNat := by
  have hlen : b.deviceTable.length ≤ 255 := hb.devices ▸ c.devices_length
  have hbyte := devid_byte hb ha
  rw [Answers, Bool.not_eq_false, noResponse, decide_eq_true_iff, hbyte]
  refine ⟨fun h => h.elim (fun h => ?_) id, Or.inr⟩
  have hnum := congrArg BitVec.toNat h
  rw [hbyte] at hnum
  change (b.findMap a).devid.toNat = 255 at hnum
  omega

/-- Where a device answers, it is the one in the absolute address. -/
lemma Answers.device_eq {c : Config} {b : Bus ι} (hb : c.Holds b) {a : Unsigned}
    (ha : a.toNat < MAX_CPU_ADDR) (h : b.Answers a) :
    b.device a = absDevice (b.toAbsolute a) := by
  have hdev : b.device a = ((b.findMap a).devid.setWidth 8).toNat :=
    if_neg (by rw [show b.noResponse _ = false from h]; decide)
  rw [hdev, devid_byte hb ha, (toAbsolute_decode hb ha).1]

/-- Where no device answers, the CPU gets the null device. -/
lemma cls_of_not_answers {c : Config} {b : Bus ι} (hb : c.Holds b) {a : Unsigned}
    (h : ¬b.Answers a) : b.cls (b.device a) = .null := by
  have hdev : b.device a = 0 := if_pos (Bool.not_eq_false _ ▸ h)
  rw [cls, hdev, hb.devices, c.devices_null]
  rfl

lemma memoryAt_of_not_answers {c : Config} {b : Bus ι} (hb : c.Holds b) {a : Unsigned}
    (h : ¬b.Answers a) : b.MemoryAt a := by
  rw [MemoryAt, cls_of_not_answers hb h]
  decide

lemma StorageAt.answers {c : Config} {b : Bus ι} (hb : c.Holds b) {a : Unsigned}
    (h : b.StorageAt a) : b.Answers a := by
  by_contra hno
  rw [StorageAt, cls_of_not_answers hb hno] at h
  rcases h with h | h <;> cases h

variable [Board ι]

/-- At address `a` the debugger sees the memory the CPU sees. -/
structure Debuggable (b : Bus ι) (a : Unsigned) : Prop where
  device : absDevice (b.toAbsolute a) = b.device a
  offset : absOffset (b.toAbsolute a) = b.phyAddr a
  read : ∀ v : View, ∃ r, b.absRead8 v (b.toAbsolute a) = some r ∧ r.val = (b.cpuRead8 v a).val
  write : b.StorageAt a → ∀ (v : View) (val : U8), ∃ r,
    b.absWrite8 v (b.toAbsolute a) val = some r ∧ (r.world.cpuRead8 v a).val = val

/-- The byte the debugger has written is the one the CPU reads. -/
lemma store_then_read {b : Bus ι} {a : Unsigned} (h : b.StorageAt a) (v : View) (val : U8) :
    ((b.devWrite v (b.device a) (b.phyAddr a) val).world.cpuRead8 v a).val = val := by
  have hw : b.devWrite v (b.device a) (b.phyAddr a) val =
      ⟨b.store (b.device a) (b.phyAddr a) val, []⟩ := by
    rcases h with h | h <;> simp [devWrite, h]
  rw [hw]
  refine (cpuRead8_storage (b := b.store (b.device a) (b.phyAddr a) val) h v).trans ?_
  exact if_pos ⟨rfl, rfl⟩

lemma Answers.debuggable {c : Config} {b : Bus ι} (hb : c.Holds b) {a : Unsigned}
    (ha : a.toNat < MAX_CPU_ADDR) (hm : b.MemoryAt a) (h : b.Answers a) : b.Debuggable a := by
  have hdev := h.device_eq hb ha
  have hoff := (toAbsolute_decode hb ha).2
  have hin : absDevice (b.toAbsolute a) < b.deviceTable.length := by
    rw [(toAbsolute_decode hb ha).1]
    by_contra hle
    exact (not_answers_iff hb ha).mpr (by omega) h
  refine ⟨hdev.symm, hoff, fun v => ⟨_, if_pos hin, ?_⟩, fun hs v val => ⟨_, if_pos hin, ?_⟩⟩
  · rw [← hdev, hoff, devRead_memory v hm, cpuRead8_memory v hm]
  · rw [← hdev, hoff]
    exact store_then_read hs v val

lemma Debuggable.answers {c : Config} {b : Bus ι} (hb : c.Holds b) {a : Unsigned}
    (ha : a.toNat < MAX_CPU_ADDR) (h : b.Debuggable a) : b.Answers a := by
  by_contra hno
  obtain ⟨r, hr, -⟩ := h.read ⟨0, 0, 0, 0, 0, 0, 0, 0, 0, 0⟩
  have hout := (not_answers_iff hb ha).mp hno
  rw [absRead8, (toAbsolute_decode hb ha).1, if_neg (by omega)] at hr
  cases hr

end Bus

/-- Nothing is mapped between the RAM and the display memory of the WPC. -/
lemma Wpc.not_answers {ι : Type} {l : List Wpc.RegWrite} {b : Bus ι} (hb : (Config.wpc l).Holds b)
    {a : Unsigned} (ha : 0x2000 ≤ a.toNat) (ha' : a.toNat < 0x3800) : ¬b.Answers a := by
  have hk : a.toNat / BUS_MAP_SIZE < NUM_BUS_MAPS := by
    change a.toNat / 128 < 512
    omega
  have hid : (b.findMap a).devid = 0xff := by
    have hp := after_place l hk
    have hlow : ¬a.toNat / BUS_MAP_SIZE < 64 := by
      change ¬a.toNat / 128 < 64
      omega
    have hhigh : a.toNat / BUS_MAP_SIZE < 112 := by
      change a.toNat / 128 < 112
      omega
    unfold shows at hp
    rw [if_neg hlow, if_pos hhigh] at hp
    rw [Bus.findMap, hb.maps]
    exact congrArg Prod.fst hp
  rw [Bus.Answers, hid]
  simp [Bus.noResponse]

end Exec09
