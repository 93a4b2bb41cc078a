import Exec09.Properties.FastRead

/-!
# Bank switching on the WPC

`wpc_init` maps the devices by the numbers they got when they were attached; `wpc_set_rom_page` and
`wpc_set_dmd_page` name the devices 2 and 3.  Since the null device is attached first, these are
the RAM and the ROM and not the ROM and the display memory.
-/

namespace Exec09

namespace Bus

variable {ι : Type}

/-- A RAM or ROM device is mapped at the address. -/
def StorageAt (b : Bus ι) (a : Unsigned) : Prop :=
  b.cls (b.device a) = .ram ∨ b.cls (b.device a) = .rom

lemma StorageAt.memoryAt {b : Bus ι} {a : Unsigned} (h : b.StorageAt a) : b.MemoryAt a := by
  rcases h with h | h <;> simp [MemoryAt, h]

lemma StorageAt.byteOf {b : Bus ι} {a : Unsigned} (h : b.StorageAt a) (phy : BitVec 64) :
    b.byteOf (b.device a) phy = b.priv (b.device a) phy := by
  rcases h with h | h <;> simp [Bus.byteOf, h]

variable [Board ι]

/-- `cpu_read8` at `a` delivers byte `off` of device `dev`, whatever the memories hold. -/
def ReadsByte (b : Bus ι) (a : Unsigned) (dev : Nat) (off : BitVec 64) : Prop :=
  ∀ (priv : Nat → BitVec 64 → U8) (v : View),
    (({ b with priv := priv } : Bus ι).cpuRead8 v a).val = priv dev off

/-- `cpu_write8` at `a` changes byte `off` of device `dev` and no other byte. -/
def WritesByte (b : Bus ι) (a : Unsigned) (dev : Nat) (off : BitVec 64) : Prop :=
  ∀ (priv : Nat → BitVec 64 → U8) (v : View) (val : U8),
    (({ b with priv := priv } : Bus ι).cpuWrite8 v a val).world.priv =
      fun d p => if d = dev ∧ p = off then val else priv d p

lemma cpuRead8_storage {b : Bus ι} {a : Unsigned} (h : b.StorageAt a) (v : View) :
    (b.cpuRead8 v a).val = b.priv (b.device a) (b.phyAddr a) := by
  rw [cpuRead8_memory v h.memoryAt]
  exact h.byteOf _

/-- Which byte is read is a matter of device and offset. -/
lemma readsByte_iff {b : Bus ι} {a : Unsigned} (h : b.StorageAt a) (dev : Nat)
    (off : BitVec 64) : b.ReadsByte a dev off ↔ b.device a = dev ∧ b.phyAddr a = off := by
  constructor
  · intro hr
    -- a memory that holds one at the byte mapped here and zero elsewhere
    let marked : Nat → BitVec 64 → U8 :=
      fun d p => if d = b.device a ∧ p = b.phyAddr a then 1 else 0
    have hv : marked (b.device a) (b.phyAddr a) = marked dev off :=
      (cpuRead8_storage (b := { b with priv := marked }) h ⟨0, 0, 0, 0, 0, 0, 0, 0, 0, 0⟩).symm.trans
        (hr marked _)
    by_contra hne
    have h1 : marked (b.device a) (b.phyAddr a) = 1 := if_pos ⟨rfl, rfl⟩
    have h0 : marked dev off = 0 := if_neg fun h' => hne ⟨h'.1.symm, h'.2.symm⟩
    rw [h1, h0] at hv
    exact absurd hv (by decide)
  · rintro ⟨rfl, rfl⟩ priv v
    exact cpuRead8_storage (b := { b with priv := priv }) h v

end Bus

namespace Wpc

/-- The numbers of the devices, which are their positions in the table. -/
abbrev ramDev : Nat := 2
abbrev romDev : Nat := 3
abbrev dmdDev : Nat := 4

section Place

variable {ι : Type} {b : Bus ι} {l : List RegWrite}

/-- Device and offset behind an address, from the map entry. -/
lemma locate (hb : (Config.wpc l).Holds b) {a : Unsigned} {d : Unsigned} {o : BitVec 64}
    (ha : a.toNat < MAX_CPU_ADDR)
    (h : shows (lastWrite .dmdLowPage l) (lastWrite .dmdHighPage l) (lastWrite .romBank l)
      (a.toNat / BUS_MAP_SIZE) = (d, o)) (hd : d.toNat < 5) :
    b.device a = d.toNat ∧ b.phyAddr a = o + BitVec.ofNat 64 (a.toNat % BUS_MAP_SIZE) := by
  have hk : a.toNat / BUS_MAP_SIZE < NUM_BUS_MAPS := by
    change a.toNat / 128 < 512
    have : a.toNat < 65536 := ha
    omega
  have hp : place (b.findMap a) = (d, o) := by
    rw [Bus.findMap, hb.maps]
    exact (after_place l hk).trans h
  have hdev : (b.findMap a).devid = d := congrArg Prod.fst hp
  have hoff : (b.findMap a).offset = o := congrArg Prod.snd hp
  have h8 : (d.setWidth 8).toNat = d.toNat := by
    rw [BitVec.toNat_setWidth]
    omega
  have hresp : b.noResponse d = false := by
    have hne : d.setWidth 8 ≠ INVALID_DEVID := by
      intro h
      rw [h] at h8
      have : (INVALID_DEVID : U8).toNat = 255 := rfl
      omega
    have hlen : ¬b.deviceTable.length ≤ (d.setWidth 8).toNat := by
      rw [hb.devices, h8]
      change ¬5 ≤ d.toNat
      omega
    simp only [Bus.noResponse, hne, hlen, or_self, decide_false]
  rw [Bus.device, hdev, Bus.findDevice, hresp, Bus.phyAddr, hoff, h8]
  exact ⟨rfl, rfl⟩

/-- Offsets in a window that starts at map unit `s`. -/
lemma window_offset (o : BitVec 64) (s i : Nat) :
    o + BitVec.ofNat 64 (BUS_MAP_SIZE * ((s * BUS_MAP_SIZE + i) / BUS_MAP_SIZE - s)) +
      BitVec.ofNat 64 ((s * BUS_MAP_SIZE + i) % BUS_MAP_SIZE) = o + BitVec.ofNat 64 i := by
  have hsum : BUS_MAP_SIZE * ((s * BUS_MAP_SIZE + i) / BUS_MAP_SIZE - s) +
      (s * BUS_MAP_SIZE + i) % BUS_MAP_SIZE = i := by
    change 128 * ((s * 128 + i) / 128 - s) + (s * 128 + i) % 128 = i
    omega
  rw [BitVec.add_assoc, ← BitVec.ofNat_add, hsum]

/-- Device and offset behind byte `i` of a window that starts at map unit `s`. -/
lemma locate_window (hb : (Config.wpc l).Holds b) {s i : Nat} {d : Unsigned} {o : BitVec 64}
    (hi : s * BUS_MAP_SIZE + i < MAX_CPU_ADDR)
    (h : ∀ k, k = (s * BUS_MAP_SIZE + i) / BUS_MAP_SIZE →
      shows (lastWrite .dmdLowPage l) (lastWrite .dmdHighPage l) (lastWrite .romBank l) k =
        (d, o + BitVec.ofNat 64 (BUS_MAP_SIZE * (k - s)))) (hd : d.toNat < 5) :
    b.device (BitVec.ofNat 32 (s * BUS_MAP_SIZE + i)) = d.toNat ∧
      b.phyAddr (BitVec.ofNat 32 (s * BUS_MAP_SIZE + i)) = o + BitVec.ofNat 64 i := by
  have ha : (BitVec.ofNat 32 (s * BUS_MAP_SIZE + i)).toNat = s * BUS_MAP_SIZE + i := by
    rw [BitVec.toNat_ofNat]
    exact Nat.mod_eq_of_lt (Nat.lt_trans hi (by decide))
  have hloc := locate hb (a := BitVec.ofNat 32 (s * BUS_MAP_SIZE + i)) (by rw [ha]; exact hi)
    (h _ (by rw [ha])) hd
  rw [ha, window_offset] at hloc
  exact hloc

lemma locate_rom (hb : (Config.wpc l).Holds b) {i : Nat} (hi : i < 0x4000) {v : U8}
    (hv : lastWrite .romBank l = some v) :
    b.device (BitVec.ofNat 32 (0x4000 + i)) = 2 ∧
      b.phyAddr (BitVec.ofNat 32 (0x4000 + i)) = v.setWidth 64 * 0x4000 + BitVec.ofNat 64 i := by
  refine locate_window hb (s := 128) (d := 2) (by change 128 * 128 + i < 65536; omega) ?_ (by decide)
  intro k hk
  have hk' : k = (128 * 128 + i) / 128 := hk
  unfold shows
  rw [if_neg (by omega), if_neg (by omega), if_neg (by omega), if_neg (by omega),
    if_neg (by omega), if_pos (by omega), hv]

lemma locate_fixed (hb : (Config.wpc l).Holds b) {i : Nat} (hi : i < 0x8000) :
    b.device (BitVec.ofNat 32 (0x8000 + i)) = romDev ∧
      b.phyAddr (BitVec.ofNat 32 (0x8000 + i)) = 0xf8000 + BitVec.ofNat 64 i := by
  refine locate_window hb (s := 256) (d := 3) (by change 256 * 128 + i < 65536; omega) ?_ (by decide)
  intro k hk
  have hk' : k = (256 * 128 + i) / 128 := hk
  unfold shows
  rw [if_neg (by omega), if_neg (by omega), if_neg (by omega), if_neg (by omega),
    if_neg (by omega), if_neg (by omega)]

lemma locate_low (hb : (Config.wpc l).Holds b) {i : Nat} (hi : i < 0x200) {p : U8}
    (hp : lastWrite .dmdLowPage l = some p) :
    b.device (BitVec.ofNat 32 (0x3800 + i)) = 3 ∧
      b.phyAddr (BitVec.ofNat 32 (0x3800 + i)) = p.setWidth 64 * 0x200 + BitVec.ofNat 64 i := by
  refine locate_window hb (s := 112) (d := 3) (by change 112 * 128 + i < 65536; omega) ?_ (by decide)
  intro k hk
  have hk' : k = (112 * 128 + i) / 128 := hk
  unfold shows
  rw [if_neg (by omega), if_neg (by omega), if_pos (by omega), hp]

lemma locate_high (hb : (Config.wpc l).Holds b) {i : Nat} (hi : i < 0x200) {p : U8}
    (hp : lastWrite .dmdHighPage l = some p) :
    b.device (BitVec.ofNat 32 (0x3a00 + i)) = 3 ∧
      b.phyAddr (BitVec.ofNat 32 (0x3a00 + i)) = p.setWidth 64 * 0x200 + BitVec.ofNat 64 i := by
  refine locate_window hb (s := 116) (d := 3) (by change 116 * 128 + i < 65536; omega) ?_ (by decide)
  intro k hk
  have hk' : k = (116 * 128 + i) / 128 := hk
  unfold shows
  rw [if_neg (by omega), if_neg (by omega), if_neg (by omega), if_pos (by omega), hp]

lemma locate_ram (hb : (Config.wpc l).Holds b) {i : Nat} (hi : i < 0x2000) :
    b.device (BitVec.ofNat 32 i) = ramDev ∧ b.phyAddr (BitVec.ofNat 32 i) = BitVec.ofNat 64 i := by
  have h := locate_window hb (s := 0) (i := i) (d := 2) (o := 0)
    (by change 0 * 128 + i < 65536; omega) ?_ (by decide)
  · have h0 : 0 * BUS_MAP_SIZE + i = i := by omega
    rw [h0] at h
    exact ⟨h.1, h.2.trans (BitVec.zero_add _)⟩
  · intro k hk
    have hk' : k = (0 * 128 + i) / 128 := hk
    unfold shows
    rw [if_pos (by omega)]
    exact congrArg (Prod.mk 2) (BitVec.zero_add _).symm

lemma storageAt (hb : (Config.wpc l).Holds b) {a : Unsigned} {d : Nat} (ha : b.device a = d)
    (hd : 2 ≤ d) (hd' : d < 5) : b.StorageAt a := by
  rw [Bus.StorageAt, ha, Bus.cls, hb.devices]
  have : d = 2 ∨ d = 3 ∨ d = 4 := by omega
  rcases this with rfl | rfl | rfl
  · exact Or.inl rfl
  · exact Or.inr rfl
  · exact Or.inl rfl

end Place

/-- The map entries a register moves. -/
def moves (r : Option AsicReg) (k : Nat) : Prop :=
  match r with
  | some .dmdLowPage => 112 ≤ k ∧ k < 116
  | some .dmdHighPage => 116 ≤ k ∧ k < 120
  | some .romBank => 128 ≤ k ∧ k < 256
  | _ => False

/-- A register write changes what its own window shows and nothing else. -/
lemma after_snoc_place (l : List RegWrite) (x : RegWrite) {k : Nat} (hk : k < NUM_BUS_MAPS)
    (h : ¬moves (asicReg x.addr) k) :
    place ((after (l ++ [x])).maps k) = place ((after l).maps k) := by
  rw [after_place (l ++ [x]) hk, after_place l hk]
  simp only [lastWrite_snoc]
  cases hr : asicReg x.addr with
  | none => simp
  | some r =>
    rw [hr] at h
    cases r
    all_goals simp only [Option.some.injEq, reduceCtorEq, if_true, if_false]
    case dmdLowPage => exact shows_low (by simp only [moves] at h; omega) _ _ _ _
    case dmdHighPage => exact shows_high (by simp only [moves] at h; omega) _ _ _ _
    case romBank => exact shows_rom (by simp only [moves] at h; omega) _ _ _ _

section Banking

variable {ι : Type} [Board ι]

/-- What bank switching is for, after the register writes `l`. -/
structure BanksAsMeant (l : List RegWrite) (b : Bus ι) : Prop where
  /-- The ROM window shows the bank selected last. -/
  rom : ∀ v i, lastWrite .romBank l = some v → v.toNat < 64 → i < 0x4000 →
    b.ReadsByte (BitVec.ofNat 32 (0x4000 + i)) romDev (v.setWidth 64 * 0x4000 + BitVec.ofNat 64 i)
  /-- The fixed part of the ROM is always there. -/
  fixed : ∀ i < 0x8000,
    b.ReadsByte (BitVec.ofNat 32 (0x8000 + i)) romDev (0xf8000 + BitVec.ofNat 64 i)
  /-- The display windows show the pages selected last. -/
  low : ∀ p i, lastWrite .dmdLowPage l = some p → p.toNat < 16 → i < 0x200 →
    b.ReadsByte (BitVec.ofNat 32 (0x3800 + i)) dmdDev (p.setWidth 64 * 0x200 + BitVec.ofNat 64 i) ∧
    b.WritesByte (BitVec.ofNat 32 (0x3800 + i)) dmdDev (p.setWidth 64 * 0x200 + BitVec.ofNat 64 i)
  high : ∀ p i, lastWrite .dmdHighPage l = some p → p.toNat < 16 → i < 0x200 →
    b.ReadsByte (BitVec.ofNat 32 (0x3a00 + i)) dmdDev (p.setWidth 64 * 0x200 + BitVec.ofNat 64 i) ∧
    b.WritesByte (BitVec.ofNat 32 (0x3a00 + i)) dmdDev (p.setWidth 64 * 0x200 + BitVec.ofNat 64 i)
  /-- The RAM stays where it is. -/
  ram : ∀ i < 0x2000,
    b.ReadsByte (BitVec.ofNat 32 i) ramDev (BitVec.ofNat 64 i)
  /-- A further register write moves its own window only. -/
  independent : ∀ (x : RegWrite) (k : Nat), k < NUM_BUS_MAPS → ¬moves (asicReg x.addr) k →
    place ((after (l ++ [x])).maps k) = place (b.busmaps k)

/-- **Bank switching works exactly until it is used.**  After a sequence of register writes every
window of the WPC shows what it is meant to show if and only if no existing bank is selected: the
ROM window shows the RAM device and the display windows show the ROM as soon as their register is
written. -/
theorem banking {l : List RegWrite} {b : Bus ι} (hb : (Config.wpc l).Holds b) :
    BanksAsMeant l b ↔
      (∀ v, lastWrite .romBank l = some v → 64 ≤ v.toNat) ∧
      (∀ p, lastWrite .dmdLowPage l = some p → 16 ≤ p.toNat) ∧
      (∀ p, lastWrite .dmdHighPage l = some p → 16 ≤ p.toNat) := by
  constructor
  · intro h
    refine ⟨fun v hv => ?_, fun p hp => ?_, fun p hp => ?_⟩
    · by_contra hlt
      have hloc := locate_rom hb (show 0 < 0x4000 by decide) hv
      have hread := h.rom v 0 hv (by omega) (by decide)
      rw [Bus.readsByte_iff (storageAt hb hloc.1 (by decide) (by decide)), hloc.1] at hread
      exact absurd hread.1 (by decide)
    · by_contra hlt
      have hloc := locate_low hb (show 0 < 0x200 by decide) hp
      have hread := (h.low p 0 hp (by omega) (by decide)).1
      rw [Bus.readsByte_iff (storageAt hb hloc.1 (by decide) (by decide)), hloc.1] at hread
      exact absurd hread.1 (by decide)
    · by_contra hlt
      have hloc := locate_high hb (show 0 < 0x200 by decide) hp
      have hread := (h.high p 0 hp (by omega) (by decide)).1
      rw [Bus.readsByte_iff (storageAt hb hloc.1 (by decide) (by decide)), hloc.1] at hread
      exact absurd hread.1 (by decide)
  · rintro ⟨hrom, hlow, hhigh⟩
    refine ⟨fun v i hv hlt _ => ?_, fun i hi => ?_, fun p i hp hlt _ => ?_, fun p i hp hlt _ => ?_,
      fun i hi => ?_, fun x k hk hx => ?_⟩
    · have := hrom v hv
      omega
    · have hloc := locate_fixed hb hi
      exact (Bus.readsByte_iff (storageAt hb hloc.1 (by decide) (by decide)) _ _).mpr hloc
    · have := hlow p hp
      omega
    · have := hhigh p hp
      omega
    · have hloc := locate_ram hb hi
      exact (Bus.readsByte_iff (storageAt hb hloc.1 (by decide) (by decide)) _ _).mpr hloc
    · rw [hb.maps]
      exact after_snoc_place l x hk hx

end Banking

/-- The guest selects ROM bank 1, and finds the RAM device in the window. -/
theorem rom_bank_shows_ram :
    ¬∀ (l : List RegWrite) (b : Bus (Io WpcAsic Bare)), (Config.wpc l).Holds b →
      BanksAsMeant l b := by
  intro h
  have hb : (Config.wpc [⟨0, 0x3fc, 1⟩]).Holds
      (bus (after [⟨0, 0x3fc, 1⟩]) (fun _ _ => 0) (⟨⟩ : Bare)) := ⟨rfl, rfl⟩
  have hv : lastWrite .romBank [⟨0, 0x3fc, 1⟩] = some 1 := by decide
  have hloc := locate_rom hb (show 0 < 0x4000 by decide) hv
  have hread := (h _ _ hb).rom 1 0 hv (by decide) (by decide)
  rw [Bus.readsByte_iff (storageAt hb hloc.1 (by decide) (by decide)), hloc.1] at hread
  exact absurd hread.1 (by decide)

theorem banking_unlocked :
    BanksAsMeant [⟨0, 0x3fd, 1⟩] (bus (after [⟨0, 0x3fd, 1⟩]) (fun _ _ => 0) (⟨⟩ : Bare)) :=
  (banking ⟨rfl, rfl⟩).mpr
    ⟨fun v hv => absurd hv (by decide +revert), fun v hv => absurd hv (by decide +revert),
      fun v hv => absurd hv (by decide +revert)⟩

end Wpc

end Exec09
