import Exec09.Properties.Configurations
import Mathlib.Data.List.Induction

/-!
# What the guest sees through its windows

The map entries of the EON2 and of the WPC as functions of the registers that control them, and
the windows of each machine: stretches of addresses through which, whatever the guest writes to
the mapping registers, one device is seen at consecutive offsets.
-/

namespace Exec09

/-- Device and offset of an entry. -/
def place (e : BusMap) : Unsigned × BitVec 64 := (e.devid, e.offset)

/-- Consecutive offsets, given one by one. -/
lemma linear_of_place {m : Busmaps} {lo hi : Nat} (d : Unsigned) (o : BitVec 64) (hlo : lo < hi)
    (hf : ∀ k, lo ≤ k → k < hi → (m k).fixed = false)
    (hp : ∀ k, lo ≤ k → k < hi →
      place (m k) = (d, o + BitVec.ofNat 64 (BUS_MAP_SIZE * (k - lo)))) : Linear m lo hi := by
  have hlo' : place (m lo) = (d, o) := by
    rw [hp lo (Nat.le_refl lo) hlo, Nat.sub_self]
    exact congrArg (Prod.mk d) (BitVec.add_zero o)
  have hd : (m lo).devid = d := congrArg Prod.fst hlo'
  have ho : (m lo).offset = o := congrArg Prod.snd hlo'
  refine ⟨hf, fun k hk hk' => ?_, fun k hk hk' => ?_⟩
  · rw [hd]
    exact congrArg Prod.fst (hp k hk hk')
  · rw [ho]
    exact congrArg Prod.snd (hp k hk hk')

/-! ## EON2 -/

namespace SmallMmu

/-- Slot `p` is mapped to the RAM as its registers say. -/
def Coherent (m : SmallMmu) (p : Nat) : Prop :=
  ∀ k < 32, m.maps (32 * p + k) =
    ⟨1, (m.slotRegs p 0).setWidth 64 * BitVec.ofNat 64 SMR_PAGESIZE +
      BitVec.ofNat 64 (BUS_MAP_SIZE * k), m.slotRegs p 1 &&& MAP_READWRITE⟩

/-- No entry is fixed. -/
def Free (m : SmallMmu) : Prop := ∀ k, (m.maps k).fixed = false

lemma slot_lt (m : SmallMmu) : m.slot < 256 := (m.globalRegs 0).isLt

lemma aligned_remap (m : SmallMmu) :
    Aligned (BitVec.ofNat 32 (m.slot * SMR_PAGESIZE)) (BitVec.ofNat 32 SMR_PAGESIZE)
      ((m.slotRegs m.slot 0).setWidth 64 * BitVec.ofNat 64 SMR_PAGESIZE)
      (m.slotRegs m.slot 1 &&& MAP_READWRITE) (32 * m.slot) 32 :=
  aligned_page m.slot_lt (m.slotRegs m.slot 0) (m.slotRegs m.slot 1)

@[simp] lemma setReg_maps (m : SmallMmu) (addr : BitVec 64) (val : U8) :
    (m.setReg addr val).maps = m.maps := by
  unfold setReg
  split <;> rfl

lemma Free.write {m : SmallMmu} (h : m.Free) (addr : BitVec 64) (val : U8) :
    (m.write 1 addr val).Free := by
  intro k
  simp only [SmallMmu.write]
  split
  · refine ((m.setReg addr val).aligned_remap.fixed (m.setReg addr val).maps k).trans ?_
    rw [setReg_maps]
    exact h k
  · rw [setReg_maps]
    exact h k

/-- Mapping a slot makes it coherent. -/
lemma remap_coherent_self {m : SmallMmu} (h : m.Free) : (m.remap 1).Coherent m.slot := by
  intro k hk
  refine (m.aligned_remap.inside (Nat.le_add_right _ _) (by omega) (h _)).trans ?_
  rw [Nat.add_sub_cancel_left]
  rfl

lemma remap_coherent {m : SmallMmu} (hm : m.Free) {p : Nat} (h : p ≠ m.slot → m.Coherent p) :
    (m.remap 1).Coherent p := by
  by_cases hp : p = m.slot
  · rw [hp]
    exact remap_coherent_self hm
  · intro k hk
    refine (m.aligned_remap.outside m.maps (by omega)).trans ?_
    exact h hp k hk

/-- A store changes one register of the selected slot, or none. -/
lemma setReg_slotRegs (m : SmallMmu) (addr : BitVec 64) (val : U8) {p r : Nat}
    (h : p = m.slot → r = addr.toNat - SM_GLOBAL_REGS → addr.toNat < SM_GLOBAL_REGS) :
    (m.setReg addr val).slotRegs p r = m.slotRegs p r := by
  unfold setReg
  split
  · rfl
  · rename_i hlt
    exact if_neg fun hpr => hlt (h hpr.1 hpr.2)

/-- A register from 6 on does not change which slot is selected. -/
lemma setReg_slot (m : SmallMmu) {addr : BitVec 64} (val : U8)
    (ha : ¬addr.toNat < SM_GLOBAL_REGS) : (m.setReg addr val).slot = m.slot := by
  unfold setReg
  rw [if_neg ha]
  rfl

lemma setReg_coherent {m : SmallMmu} {p : Nat} (h : m.Coherent p) (addr : BitVec 64) (val : U8)
    (hp : p = m.slot → addr ≠ SMR_PAGE ∧ addr ≠ SMR_FLAGS) : (m.setReg addr val).Coherent p := by
  have hreg : ∀ r < 2, (m.setReg addr val).slotRegs p r = m.slotRegs p r := by
    intro r hr
    refine m.setReg_slotRegs addr val fun hslot hr' => ?_
    obtain ⟨h6, h7⟩ := hp hslot
    have h6' : addr.toNat ≠ 6 := fun h => h6 (BitVec.eq_of_toNat_eq h)
    have h7' : addr.toNat ≠ 7 := fun h => h7 (BitVec.eq_of_toNat_eq h)
    change addr.toNat < 6
    change r = addr.toNat - 6 at hr'
    omega
  intro k hk
  rw [setReg_maps, h k hk, hreg 0 (by decide), hreg 1 (by decide)]

lemma Free.setReg {m : SmallMmu} (h : m.Free) (addr : BitVec 64) (val : U8) :
    (m.setReg addr val).Free := by
  intro k
  rw [setReg_maps]
  exact h k

/-- Writing the page or the flags of the selected slot. -/
lemma write_eq_remap (m : SmallMmu) {addr : BitVec 64} (val : U8)
    (ha : addr = SMR_PAGE ∨ addr = SMR_FLAGS) :
    m.write 1 addr val = (m.setReg addr val).remap 1 ∧ (m.setReg addr val).slot = m.slot := by
  refine ⟨?_, m.setReg_slot val ?_⟩
  · simp only [write, if_pos ha]
  · rcases ha with rfl | rfl <;> decide

lemma write_coherent_self {m : SmallMmu} (hf : m.Free) {addr : BitVec 64} (val : U8)
    (ha : addr = SMR_PAGE ∨ addr = SMR_FLAGS) : (m.write 1 addr val).Coherent m.slot := by
  obtain ⟨heq, hslot⟩ := m.write_eq_remap val ha
  rw [heq, ← hslot]
  exact remap_coherent_self (hf.setReg addr val)

/-- A slot that is mapped as its registers say stays so. -/
lemma write_coherent {m : SmallMmu} (hf : m.Free) {p : Nat} (h : m.Coherent p) (addr : BitVec 64)
    (val : U8) : (m.write 1 addr val).Coherent p := by
  by_cases ha : addr = SMR_PAGE ∨ addr = SMR_FLAGS
  · obtain ⟨heq, hslot⟩ := m.write_eq_remap val ha
    rw [heq]
    refine remap_coherent (hf.setReg addr val) fun hp => setReg_coherent h addr val fun h' => ?_
    exact absurd (h'.trans hslot.symm) hp
  · have heq : m.write 1 addr val = m.setReg addr val := by simp only [write, if_neg ha]
    rw [heq]
    exact setReg_coherent h addr val fun _ => not_or.mp ha

/-- Resetting a slot maps it. -/
lemma resetSlot_coherent {m : SmallMmu} (hf : m.Free) {p : Nat} (hp : p < 256) :
    (resetSlot 1 m p).Coherent p := by
  let m₁ := m.write 1 SMR_SLOT (BitVec.ofNat 8 p)
  have hf₁ : m₁.Free := hf.write _ _
  have hslot : m₁.slot = p := Nat.mod_eq_of_lt hp
  have hslot' : (m₁.write 1 SMR_PAGE (BitVec.ofNat 8 p)).slot = p := by
    obtain ⟨heq, hs⟩ := m₁.write_eq_remap (BitVec.ofNat 8 p) (Or.inl rfl)
    rw [heq]
    exact hs.trans hslot
  have h := write_coherent_self (hf₁.write SMR_PAGE (BitVec.ofNat 8 p)) MAP_READWRITE (Or.inr rfl)
  rw [hslot'] at h
  exact h

lemma resetSlots_free {m : SmallMmu} (hf : m.Free) (l : List Nat) : (l.foldl (resetSlot 1) m).Free := by
  induction l generalizing m with
  | nil => exact hf
  | cons p l ih => exact ih (((hf.write _ _).write _ _).write _ _)

lemma resetSlots_coherent {m : SmallMmu} (hf : m.Free) {p : Nat} (hp : p < 256) (l : List Nat)
    (h : m.Coherent p ∨ p ∈ l) : (l.foldl (resetSlot 1) m).Coherent p := by
  induction l generalizing m with
  | nil => exact h.resolve_right List.not_mem_nil
  | cons q l ih =>
    have hf' : (resetSlot 1 m q).Free := ((hf.write _ _).write _ _).write _ _
    rw [List.foldl_cons]
    apply ih hf'
    rcases h with h | h
    · exact Or.inl (write_coherent ((hf.write _ _).write _ _)
        (write_coherent (hf.write _ _) (write_coherent hf h _ _) _ _) _ _)
    · rcases List.mem_cons.mp h with rfl | h
      · exact Or.inl (resetSlot_coherent hf hp)
      · exact Or.inr h

lemma writes_free {m : SmallMmu} (hf : m.Free) (l : List (BitVec 64 × U8)) : (m.writes l).Free := by
  induction l generalizing m with
  | nil => exact hf
  | cons x l ih => exact ih (hf.write x.1 x.2)

lemma writes_coherent {m : SmallMmu} (hf : m.Free) {p : Nat} (h : m.Coherent p)
    (l : List (BitVec 64 × U8)) : (m.writes l).Coherent p := by
  induction l generalizing m with
  | nil => exact h
  | cons x l ih => exact ih (hf.write x.1 x.2) (write_coherent hf h x.1 x.2)

end SmallMmu

namespace Eon2

lemma aligned_rom : Aligned 0xf800 0x800 0 MAP_READABLE 496 16 := by constructor <;> decide

lemma aligned_expander : Aligned 0xff00 0x80 0 MAP_READWRITE 510 1 := by constructor <;> decide

variable (g : Nat → U8) (r : Nat → Nat → U8)

lemma malloc_free : SmallMmu.Free ⟨g, r, unmapped, []⟩ := unmapped_free

lemma mmuAttached_free : (mmuAttached g r).Free := by
  unfold mmuAttached SmallMmu.reset
  exact SmallMmu.resetSlots_free (malloc_free g r) _

lemma init_free : (init g r).Free := by
  intro k
  change (overlay (mmuAttached g r).maps k).fixed = false
  rw [overlay, aligned_expander.fixed, aligned_rom.fixed]
  exact mmuAttached_free g r k

/-- Below the ROM the maps are those of the reset MMU. -/
lemma init_coherent {p : Nat} (hp : p < 15) : (init g r).Coherent p := by
  intro k hk
  have hatt : (mmuAttached g r).Coherent p := by
    unfold mmuAttached SmallMmu.reset
    exact SmallMmu.resetSlots_coherent (malloc_free g r) (by omega) _
      (Or.inr (List.mem_range.mpr (by change p < 16; omega)))
  change overlay (mmuAttached g r).maps (32 * p + k) = _
  rw [overlay, aligned_expander.outside _ (by omega), aligned_rom.outside _ (by omega)]
  exact hatt k hk

end Eon2

/-! ## WPC -/

namespace Wpc

/-- The last value written to a register. -/
def lastWrite (r : AsicReg) (l : List RegWrite) : Option U8 :=
  l.foldl (fun acc x => if asicReg x.addr = some r then some x.val else acc) none

lemma lastWrite_snoc (r : AsicReg) (l : List RegWrite) (x : RegWrite) :
    lastWrite r (l ++ [x]) = if asicReg x.addr = some r then some x.val else lastWrite r l := by
  rw [lastWrite, List.foldl_append, List.foldl_cons, List.foldl_nil, ← lastWrite]

lemma after_snoc (l : List RegWrite) (x : RegWrite) :
    after (l ++ [x]) = (after l).write x.now x.addr x.val := by
  rw [after, List.foldl_append, List.foldl_cons, List.foldl_nil, ← after]

lemma lockedBytes_units (w : WpcAsic) : lockedBytes w % 128 = 0 ∧ lockedBytes w ≤ 4096 := by
  unfold lockedBytes
  split_ifs <;> decide

/-- Map entries at the start of RAM that can be written. -/
def writableUnits (w : WpcAsic) : Nat := 64 - lockedBytes w / 128

/-- The RAM lock only decides where `MAP_WRITABLE` ends. -/
lemma updateRam_apply (asic : WpcAsic) {m : Busmaps} (hf : ∀ k, (m k).fixed = false) (k : Nat) :
    (updateRam ⟨asic, m⟩).maps k =
      if k < 64 then
        ⟨2, BitVec.ofNat 64 (BUS_MAP_SIZE * k),
          if k < writableUnits asic then MAP_READWRITE else MAP_READABLE⟩
      else m k := by
  obtain ⟨hu, hle⟩ := lockedBytes_units asic
  have hn : WPC_RAM_SIZE - lockedBytes asic = 128 * writableUnits asic := by
    change 8192 - lockedBytes asic = 128 * (64 - lockedBytes asic / 128)
    omega
  have hn' : writableUnits asic ≤ 64 := Nat.sub_le _ _
  have hlow : Aligned 0x0000 (BitVec.ofNat 32 (128 * writableUnits asic)) 0 MAP_READWRITE 0
      (writableUnits asic) := by
    refine ⟨by decide, ?_, by decide, by decide, by omega, by decide, by decide⟩
    change 128 * writableUnits asic % 2 ^ 32 = writableUnits asic * 128
    omega
  have hhigh : Aligned (BitVec.ofNat 32 (128 * writableUnits asic))
      (BitVec.ofNat 32 (WPC_RAM_SIZE - 128 * writableUnits asic))
      (BitVec.ofNat 64 (128 * writableUnits asic)) MAP_READABLE (writableUnits asic)
      (64 - writableUnits asic) := by
    refine ⟨?_, ?_, ?_, by omega, by omega, ?_, by decide⟩
    · change 128 * writableUnits asic % 2 ^ 32 = writableUnits asic * 128
      omega
    · change (8192 - 128 * writableUnits asic) % 2 ^ 32 = (64 - writableUnits asic) * 128
      omega
    · change 128 * writableUnits asic % 2 ^ 64 % 128 = 0
      omega
    · change 128 * writableUnits asic % 2 ^ 64 < 2 ^ 63
      omega
  simp only [updateRam, hn]
  by_cases hfull : 128 * writableUnits asic < WPC_RAM_SIZE
  · rw [if_pos hfull, hhigh.apply_free (by rw [hlow.fixed]; exact hf k), hlow.apply_free (hf k)]
    by_cases hk : k < 64
    · rw [if_pos hk]
      by_cases hw : k < writableUnits asic
      · rw [if_neg (by omega), if_pos (by omega), if_pos hw]
        exact congrArg (BusMap.mk 2 · 3) (BitVec.zero_add _)
      · have hsum : 128 * writableUnits asic + BUS_MAP_SIZE * (k - writableUnits asic) =
            BUS_MAP_SIZE * k := by
          change 128 * writableUnits asic + 128 * (k - writableUnits asic) = 128 * k
          omega
        rw [if_pos (by omega), if_neg hw, ← BitVec.ofNat_add, hsum]
    · rw [if_neg (by omega), if_neg (by omega), if_neg hk]
  · have h64 : writableUnits asic = 64 := by
      change ¬128 * writableUnits asic < 8192 at hfull
      omega
    rw [if_neg hfull, hlow.apply_free (hf k), h64]
    by_cases hk : k < 64
    · rw [if_pos (by omega), if_pos hk, if_pos hk]
      exact congrArg (BusMap.mk 2 · 3) (BitVec.zero_add _)
    · rw [if_neg (by omega), if_neg hk]

lemma updateRam_free (asic : WpcAsic) {m : Busmaps} (hf : ∀ k, (m k).fixed = false) (k : Nat) :
    ((updateRam ⟨asic, m⟩).maps k).fixed = false := by
  rw [updateRam_apply asic hf]
  split_ifs
  · simp [BusMap.fixed]
  · simp [BusMap.fixed]
  · exact hf k

/-- The arguments with which a bank of `n` units is mapped at unit `s`, the bank number being a
byte. -/
lemma aligned_bank {addr len : Unsigned} {size : BitVec 64} {flags : U8} {s n : Nat} (val : U8)
    (ha : addr.toNat = s * 128) (hl : len.toNat = n * 128) (hs : size.toNat = n * 128)
    (hs' : s < 512) (hn : n ≤ 512) (hf : flags &&& MAP_FIXED = 0) :
    Aligned addr len (val.setWidth 64 * size) flags s n := by
  have hval := val.isLt
  have hprod : val.toNat * size.toNat ≤ 255 * 65536 :=
    Nat.mul_le_mul (by omega) (by omega)
  have hoff : (val.setWidth 64 * size).toNat = val.toNat * size.toNat := by
    rw [BitVec.toNat_mul, BitVec.toNat_setWidth, Nat.mod_eq_of_lt (show val.toNat < 2 ^ 64 by omega)]
    exact Nat.mod_eq_of_lt (by omega)
  refine ⟨ha, hl, ?_, by omega, by omega, by omega, hf⟩
  rw [hoff, hs, ← Nat.mul_assoc]
  exact Nat.mul_mod_left _ _

lemma aligned_rom (val : U8) :
    Aligned 0x4000 0x4000 (val.setWidth 64 * 0x4000) MAP_READABLE 128 128 :=
  aligned_bank val (by decide) (by decide) (by decide) (by decide) (by decide) (by decide)

/-- The two windows on the display memory. -/
lemma aligned_dmd {map : Nat} (hmap : map < 2) (val : U8) :
    Aligned (BitVec.ofNat 32 (0x3800 + map * 0x200)) 0x200 (val.setWidth 64 * 0x200) MAP_READWRITE
      (112 + map * 4) 4 := by
  refine aligned_bank val ?_ (by decide) (by decide) (by omega) (by decide) (by decide)
  change (14336 + map * 512) % 2 ^ 32 = (112 + map * 4) * 128
  omega

/-- Five registers bear on the maps. -/
lemma write_maps (w : Wpc) (now addr : BitVec 64) (val : U8) :
    (w.write now addr val).maps =
      match asicReg addr with
      | some .dmdLowPage =>
        busMap (BitVec.ofNat 32 (0x3800 + 0 * 0x200)) 3 (val.setWidth 64 * 0x200) 0x200
          MAP_READWRITE w.maps
      | some .dmdHighPage =>
        busMap (BitVec.ofNat 32 (0x3800 + 1 * 0x200)) 3 (val.setWidth 64 * 0x200) 0x200
          MAP_READWRITE w.maps
      | some .romBank => busMap 0x4000 2 (val.setWidth 64 * 0x4000) 0x4000 MAP_READABLE w.maps
      | some .ramLock => (updateRam ⟨{ w.asic with ramUnlocked := val }, w.maps⟩).maps
      | some .ramLockSize => (updateRam ⟨{ w.asic with ramLockSize := val }, w.maps⟩).maps
      | _ => w.maps := by
  unfold write
  generalize asicReg addr = reg
  cases reg with
  | none => rfl
  | some r => cases r <;> simp only [setDmdPage, setRomPage]

/-- No register write makes an entry fixed. -/
lemma write_free {w : Wpc} (hf : ∀ k, (w.maps k).fixed = false) (now addr : BitVec 64) (val : U8)
    (k : Nat) : ((w.write now addr val).maps k).fixed = false := by
  rw [write_maps]
  split
  · exact ((aligned_dmd (by decide) val).fixed w.maps k).trans (hf k)
  · exact ((aligned_dmd (by decide) val).fixed w.maps k).trans (hf k)
  · exact ((aligned_rom val).fixed w.maps k).trans (hf k)
  · exact updateRam_free _ hf k
  · exact updateRam_free _ hf k
  · exact hf k

/-- What the CPU finds at map entry `k`, given the last values written to the page registers:
device and offset. -/
def shows (low high rom : Option U8) (k : Nat) : Unsigned × BitVec 64 :=
  if k < 64 then (2, BitVec.ofNat 64 (BUS_MAP_SIZE * k))
  else if k < 112 then (0xff, 0)
  else if k < 116 then
    match low with
    | none => (4, BitVec.ofNat 64 (BUS_MAP_SIZE * (k - 112)))
    | some p => (3, p.setWidth 64 * 0x200 + BitVec.ofNat 64 (BUS_MAP_SIZE * (k - 112)))
  else if k < 120 then
    match high with
    | none => (4, BitVec.ofNat 64 (BUS_MAP_SIZE * (k - 112)))
    | some p => (3, p.setWidth 64 * 0x200 + BitVec.ofNat 64 (BUS_MAP_SIZE * (k - 116)))
  else if k < 128 then (1, BitVec.ofNat 64 (BUS_MAP_SIZE * (k - 120)))
  else if k < 256 then
    match rom with
    | none => (3, BitVec.ofNat 64 (BUS_MAP_SIZE * (k - 128)))
    | some b => (2, b.setWidth 64 * 0x4000 + BitVec.ofNat 64 (BUS_MAP_SIZE * (k - 128)))
  else (3, 0xf8000 + BitVec.ofNat 64 (BUS_MAP_SIZE * (k - 256)))

/-- `wpc_init` before it sets up the RAM lock. -/
def attached : Busmaps :=
  busMap 0x3800 4 0 0x400 MAP_READWRITE <|
  busMap 0x8000 3 0xf8000 0x8000 MAP_READABLE <|
  busMap 0x4000 3 0 0x4000 MAP_READABLE <|
  busMap 0x0000 2 0 0x2000 MAP_READWRITE <|
  busMap 0x3c00 1 0 0x400 MAP_READWRITE unmapped

lemma init_eq : init = updateRam ⟨WpcAsic.reset, attached⟩ := rfl

section Init

lemma aligned_asic : Aligned 0x3c00 0x400 0 MAP_READWRITE 120 8 := by constructor <;> decide
lemma aligned_ram : Aligned 0x0000 0x2000 0 MAP_READWRITE 0 64 := by constructor <;> decide
lemma aligned_paged : Aligned 0x4000 0x4000 0 MAP_READABLE 128 128 := by constructor <;> decide
lemma aligned_fixed : Aligned 0x8000 0x8000 0xf8000 MAP_READABLE 256 256 := by
  constructor <;> decide
lemma aligned_display : Aligned 0x3800 0x400 0 MAP_READWRITE 112 8 := by constructor <;> decide

lemma attached_free (k : Nat) : (attached k).fixed = false := by
  rw [attached, aligned_display.fixed, aligned_fixed.fixed, aligned_paged.fixed,
    aligned_ram.fixed, aligned_asic.fixed]
  exact unmapped_free k

lemma init_free (k : Nat) : (init.maps k).fixed = false := by
  rw [init_eq]
  exact updateRam_free _ attached_free k

lemma attached_place {k : Nat} (hk : k < NUM_BUS_MAPS) :
    place (attached k) = shows none none none k := by
  have hk' : k < 512 := hk
  have hf₁ := unmapped_free k
  have hf₂ := (aligned_asic.fixed (d := 1) unmapped k).trans hf₁
  have hf₃ := (aligned_ram.fixed (d := 2) _ k).trans hf₂
  have hf₄ := (aligned_paged.fixed (d := 3) _ k).trans hf₃
  have hf₅ := (aligned_fixed.fixed (d := 3) _ k).trans hf₄
  rw [attached, aligned_display.apply_free hf₅, aligned_fixed.apply_free hf₄,
    aligned_paged.apply_free hf₃, aligned_ram.apply_free hf₂, aligned_asic.apply_free hf₁, shows]
  -- one case for each device
  obtain h | h | h | h | h | h | h : k < 64 ∨ (64 ≤ k ∧ k < 112) ∨ (112 ≤ k ∧ k < 116) ∨
      (116 ≤ k ∧ k < 120) ∨ (120 ≤ k ∧ k < 128) ∨ (128 ≤ k ∧ k < 256) ∨ 256 ≤ k := by
    omega
  all_goals
    simp (disch := omega) only [if_pos, if_neg]
    simp [place, unmapped]

end Init

/-- Setting up the RAM lock moves nothing. -/
lemma updateRam_place (asic : WpcAsic) {m : Busmaps} (hf : ∀ k, (m k).fixed = false) {k : Nat}
    {l h r : Option U8} (hm : place (m k) = shows l h r k) :
    place ((updateRam ⟨asic, m⟩).maps k) = shows l h r k := by
  rw [updateRam_apply asic hf]
  split
  · rename_i hk
    unfold shows
    rw [if_pos hk]
    rfl
  · exact hm

lemma init_place {k : Nat} (hk : k < NUM_BUS_MAPS) :
    place (init.maps k) = shows none none none k := by
  rw [init_eq]
  exact updateRam_place _ attached_free (attached_place hk)

lemma after_free (l : List RegWrite) (k : Nat) : ((after l).maps k).fixed = false := by
  induction l using List.reverseRecOn generalizing k with
  | nil => exact init_free k
  | append_singleton l x ih =>
    rw [after_snoc]
    exact write_free ih x.now x.addr x.val k

/-- Each page register bears on its own window. -/
lemma shows_low {k : Nat} (hk : k < 112 ∨ 116 ≤ k) (l l' h r : Option U8) :
    shows l h r k = shows l' h r k := by
  unfold shows
  rcases hk with hk | hk
  · simp only [if_pos hk]
  · simp (disch := omega) only [if_neg]

lemma shows_high {k : Nat} (hk : k < 116 ∨ 120 ≤ k) (l h h' r : Option U8) :
    shows l h r k = shows l h' r k := by
  unfold shows
  rcases hk with hk | hk
  · simp only [if_pos hk]
  · simp (disch := omega) only [if_neg]

lemma shows_rom {k : Nat} (hk : k < 128 ∨ 256 ≤ k) (l h r r' : Option U8) :
    shows l h r k = shows l h r' k := by
  unfold shows
  rcases hk with hk | hk
  · simp only [if_pos hk]
  · simp (disch := omega) only [if_neg]

/-- **The maps of the WPC.**  What an entry shows depends on the last values written to the three
page registers, and on no other write. -/
lemma after_place (l : List RegWrite) {k : Nat} (hk : k < NUM_BUS_MAPS) :
    place ((after l).maps k) =
      shows (lastWrite .dmdLowPage l) (lastWrite .dmdHighPage l) (lastWrite .romBank l) k := by
  induction l using List.reverseRecOn with
  | nil => exact init_place hk
  | append_singleton l x ih =>
    have hf := after_free l
    have hk' : k < 512 := hk
    rw [after_snoc, write_maps]
    simp only [lastWrite_snoc]
    split
    · rename_i hr
      simp only [hr, Option.some.injEq, reduceCtorEq, if_true, if_false]
      have ha := aligned_dmd (show 0 < 2 by decide) x.val
      by_cases hin : 112 ≤ k ∧ k < 116
      · rw [ha.inside hin.1 hin.2 (hf k)]
        unfold shows
        rw [if_neg (by omega), if_neg (by omega), if_pos hin.2]
        rfl
      · rw [ha.outside _ (by omega), ih]
        exact shows_low (by omega) _ _ _ _
    · rename_i hr
      simp only [hr, Option.some.injEq, reduceCtorEq, if_true, if_false]
      have ha := aligned_dmd (show 1 < 2 by decide) x.val
      by_cases hin : 116 ≤ k ∧ k < 120
      · rw [ha.inside hin.1 hin.2 (hf k)]
        unfold shows
        rw [if_neg (by omega), if_neg (by omega), if_neg (by omega), if_pos hin.2]
        rfl
      · rw [ha.outside _ (by omega), ih]
        exact shows_high (by omega) _ _ _ _
    · rename_i hr
      simp only [hr, Option.some.injEq, reduceCtorEq, if_true, if_false]
      have ha := aligned_rom x.val
      by_cases hin : 128 ≤ k ∧ k < 256
      · rw [ha.inside hin.1 hin.2 (hf k)]
        unfold shows
        rw [if_neg (by omega), if_neg (by omega), if_neg (by omega), if_neg (by omega),
          if_neg (by omega), if_pos hin.2]
        rfl
      · rw [ha.outside _ (by omega), ih]
        exact shows_rom (by omega) _ _ _ _
    · rename_i hr
      simp only [hr, Option.some.injEq, reduceCtorEq, if_false]
      exact updateRam_place _ hf ih
    · rename_i hr
      simp only [hr, Option.some.injEq, reduceCtorEq, if_false]
      exact updateRam_place _ hf ih
    · rename_i hlow hhigh hrom _ _
      rw [if_neg hlow, if_neg hhigh, if_neg hrom]
      exact ih

end Wpc

/-! ## Windows -/

namespace Config

/-- The windows of a machine, in units of the bus map: start and end.  The EON's pages 14 and 15
and the EON2's slot 15 are left out, because several devices start out in them. -/
def windows : Config → List (Nat × Nat)
  | simple => [(0, 510)]
  | eon _ => (List.range 14).map fun p => (32 * p, 32 * p + 32)
  | eon2 _ _ _ => (List.range 15).map fun p => (32 * p, 32 * p + 32)
  | wpc _ => [(0, 64), (112, 116), (116, 120), (128, 256), (256, 512)]

lemma linear_simple : Linear Simple.maps 0 510 := by
  have hram : Aligned 0x0000 0x10000 0 MAP_READWRITE 0 512 := by constructor <;> decide
  have hcon : Aligned 0xff00 0x80 0 MAP_READWRITE 510 1 := by constructor <;> decide
  exact hcon.linear_outside (hram.linear_inside (fun k _ _ => unmapped_free k) (by decide)
    (by decide) (by decide)) (by decide) (by decide)

lemma linear_eon (l : List (BitVec 64 × U8)) {p : Nat} (hp : p < 14) :
    Linear (Eon.mmuAfter l).maps (32 * p) (32 * p + 32) := by
  have hcoh : (Eon.mmuAfter l).Coherent p :=
    Mmu.writes_coherent l (Or.inl (Eon.init_coherent hp))
  have hfree : ∀ k, 32 * p ≤ k → k < 32 * p + 32 → ((Eon.mmuAfter l).maps k).fixed = false := by
    intro k hk hk'
    rw [Eon.mmuAfter_fixed l (by change k < 512; omega)]
    exact beq_eq_false_iff_ne.mpr (by change k ≠ 448; omega)
  refine linear_of_place (((Eon.mmuAfter l).regs p 0).setWidth 32)
    (((Eon.mmuAfter l).regs p 1).setWidth 64 * BitVec.ofNat 64 MMU_PAGESIZE) (by omega) hfree ?_
  intro k hk hk'
  obtain ⟨j, rfl⟩ := Nat.exists_eq_add_of_le hk
  rw [hcoh j (by omega) (hfree _ hk hk'), Nat.add_sub_cancel_left]
  rfl

lemma linear_eon2 (g : Nat → U8) (r : Nat → Nat → U8) (l : List (BitVec 64 × U8)) {p : Nat}
    (hp : p < 15) : Linear ((Eon2.init g r).writes l).maps (32 * p) (32 * p + 32) := by
  have hcoh := SmallMmu.writes_coherent (Eon2.init_free g r) (Eon2.init_coherent g r hp) l
  refine linear_of_place 1
    ((((Eon2.init g r).writes l).slotRegs p 0).setWidth 64 * BitVec.ofNat 64 SMR_PAGESIZE)
    (by omega) (fun k _ _ => SmallMmu.writes_free (Eon2.init_free g r) l k) ?_
  intro k hk hk'
  obtain ⟨j, rfl⟩ := Nat.exists_eq_add_of_le hk
  rw [hcoh j (by omega), Nat.add_sub_cancel_left]
  rfl

/-- Through each window of the WPC one device is seen. -/
lemma shows_linear {lo hi : Nat}
    (h : lo = 0 ∧ hi = 64 ∨ lo = 112 ∧ hi = 116 ∨ lo = 116 ∧ hi = 120 ∨ lo = 128 ∧ hi = 256 ∨
      lo = 256 ∧ hi = 512) (low high rom : Option U8) :
    ∃ (d : Unsigned) (o : BitVec 64), ∀ k, lo ≤ k → k < hi →
      Wpc.shows low high rom k = (d, o + BitVec.ofNat 64 (BUS_MAP_SIZE * (k - lo))) := by
  have hzero : ∀ x : BitVec 64, 0 + x = x := BitVec.zero_add
  rcases h with ⟨rfl, rfl⟩ | ⟨rfl, rfl⟩ | ⟨rfl, rfl⟩ | ⟨rfl, rfl⟩ | ⟨rfl, rfl⟩
  · refine ⟨2, 0, fun k hk hk' => ?_⟩
    unfold Wpc.shows
    rw [if_pos hk', hzero, Nat.sub_zero]
  · cases low with
    | none =>
      refine ⟨4, 0, fun k hk hk' => ?_⟩
      unfold Wpc.shows
      rw [if_neg (by omega), if_neg (by omega), if_pos hk', hzero]
    | some p =>
      refine ⟨3, p.setWidth 64 * 0x200, fun k hk hk' => ?_⟩
      unfold Wpc.shows
      rw [if_neg (by omega), if_neg (by omega), if_pos hk']
  · cases high with
    | none =>
      refine ⟨4, BitVec.ofNat 64 (BUS_MAP_SIZE * 4), fun k hk hk' => ?_⟩
      have hsum : BUS_MAP_SIZE * 4 + BUS_MAP_SIZE * (k - 116) = BUS_MAP_SIZE * (k - 112) := by
        change 128 * 4 + 128 * (k - 116) = 128 * (k - 112)
        omega
      unfold Wpc.shows
      rw [if_neg (by omega), if_neg (by omega), if_neg (by omega), if_pos hk',
        ← BitVec.ofNat_add, hsum]
    | some p =>
      refine ⟨3, p.setWidth 64 * 0x200, fun k hk hk' => ?_⟩
      unfold Wpc.shows
      rw [if_neg (by omega), if_neg (by omega), if_neg (by omega), if_pos hk']
  · cases rom with
    | none =>
      refine ⟨3, 0, fun k hk hk' => ?_⟩
      unfold Wpc.shows
      rw [if_neg (by omega), if_neg (by omega), if_neg (by omega), if_neg (by omega),
        if_neg (by omega), if_pos hk', hzero]
    | some p =>
      refine ⟨2, p.setWidth 64 * 0x4000, fun k hk hk' => ?_⟩
      unfold Wpc.shows
      rw [if_neg (by omega), if_neg (by omega), if_neg (by omega), if_neg (by omega),
        if_neg (by omega), if_pos hk']
  · refine ⟨3, 0xf8000, fun k hk hk' => ?_⟩
    unfold Wpc.shows
    rw [if_neg (by omega), if_neg (by omega), if_neg (by omega), if_neg (by omega),
      if_neg (by omega), if_neg (by omega)]

lemma linear_wpc (l : List Wpc.RegWrite) {lo hi : Nat}
    (h : (lo, hi) ∈ windows (.wpc l)) : Linear (Wpc.after l).maps lo hi := by
  have hf : ∀ k, lo ≤ k → k < hi → ((Wpc.after l).maps k).fixed = false :=
    fun k _ _ => Wpc.after_free l k
  simp only [windows, List.mem_cons, Prod.mk.injEq, List.not_mem_nil, or_false] at h
  have hhi : lo < hi ∧ hi ≤ NUM_BUS_MAPS := by
    change lo < hi ∧ hi ≤ 512
    omega
  obtain ⟨d, o, hp⟩ := shows_linear h (Wpc.lastWrite .dmdLowPage l) (Wpc.lastWrite .dmdHighPage l)
    (Wpc.lastWrite .romBank l)
  refine linear_of_place d o hhi.1 hf fun k hk hk' => ?_
  rw [Wpc.after_place l (Nat.lt_of_lt_of_le hk' hhi.2)]
  exact hp k hk hk'

/-- **Windows are linear**, whatever the guest has written to the mapping registers. -/
lemma linear (c : Config) {lo hi : Nat} (h : (lo, hi) ∈ c.windows) : Linear c.maps lo hi := by
  cases c with
  | simple =>
    obtain ⟨rfl, rfl⟩ : lo = 0 ∧ hi = 510 := by simpa [windows] using h
    exact linear_simple
  | eon l =>
    obtain ⟨p, hp, ⟨⟩⟩ := List.mem_map.mp h
    exact linear_eon l (List.mem_range.mp hp)
  | eon2 g r l =>
    obtain ⟨p, hp, ⟨⟩⟩ := List.mem_map.mp h
    exact linear_eon2 g r l (List.mem_range.mp hp)
  | wpc l => exact linear_wpc l h

end Config

end Exec09
