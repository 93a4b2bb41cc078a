import Exec09.Properties.Windows
import Mathlib.Tactic.IntervalCases

/-!
# Registers of the WPC ASIC over a history of writes

What the bit shifter and the RAM lock show to the guest after any sequence of writes to the ASIC,
in terms of the last value written to each of their registers.
-/

namespace Exec09

namespace Wpc

/-- The value a register holds: what was last written, or zero from the reset. -/
def held (r : AsicReg) (l : List RegWrite) : U8 := (lastWrite r l).getD 0

lemma held_snoc (r : AsicReg) (l : List RegWrite) (x : RegWrite) :
    held r (l ++ [x]) = if asicReg x.addr = some r then x.val else held r l := by
  simp only [held, lastWrite_snoc]
  split <;> rfl

/-- A part of the ASIC that only writes to register `r` change holds the last value written. -/
lemma after_held {f : WpcAsic → U8} (r : AsicReg) (h0 : f WpcAsic.reset = 0)
    (hf : ∀ (w : Wpc) (now addr : BitVec 64) (val : U8),
      f (w.write now addr val).asic = if asicReg addr = some r then val else f w.asic)
    (l : List RegWrite) : f (after l).asic = held r l := by
  induction l using List.reverseRecOn with
  | nil => exact h0
  | append_singleton l x ih => rw [after_snoc, hf, held_snoc, ih]

/-! ## The bit shifter -/

lemma dmdSetVisible_shifter (w : WpcAsic) (now : BitVec 64) (val : U8) :
    (w.dmdSetVisible now val).shiftaddr = w.shiftaddr ∧
      (w.dmdSetVisible now val).shiftbit = w.shiftbit := by
  obtain ⟨_, _, _, _, _, h⟩ := w.dmdSetVisible_fields now val
  rw [h]
  exact ⟨rfl, rfl⟩

/-- The two bytes of the base address are kept apart. -/
lemma write_shiftaddr (w : Wpc) (now addr : BitVec 64) (val : U8) :
    (w.write now addr val).asic.shiftaddr =
      if asicReg addr = some .shiftaddrHi then
        (w.asic.shiftaddr &&& 0x00ff) ||| (val.setWidth 16 <<< 8)
      else if asicReg addr = some .shiftaddrLo then
        (w.asic.shiftaddr &&& 0xff00) ||| val.setWidth 16
      else w.asic.shiftaddr := by
  unfold write
  cases asicReg addr with
  | none => rfl
  | some r => cases r <;> simp [setDmdPage, setRomPage, updateRam, dmdSetVisible_shifter]

lemma write_shiftbit (w : Wpc) (now addr : BitVec 64) (val : U8) :
    (w.write now addr val).asic.shiftbit =
      if asicReg addr = some .shiftbit then val.setWidth 16 else w.asic.shiftbit := by
  unfold write
  cases asicReg addr with
  | none => rfl
  | some r => cases r <;> simp [setDmdPage, setRomPage, updateRam, dmdSetVisible_shifter]

/-- The high and the low byte of a word. -/
def highByte (x : U16) : U8 := (x >>> 8).setWidth 8
def lowByte (x : U16) : U8 := x.setWidth 8

/-- Replacing the high byte, as the ASIC does. -/
lemma bytes_replace_high (x : U16) (val : U8) :
    highByte ((x &&& 0x00ff) ||| (val.setWidth 16 <<< 8)) = val ∧
      lowByte ((x &&& 0x00ff) ||| (val.setWidth 16 <<< 8)) = lowByte x := by
  constructor
  all_goals
    apply BitVec.eq_of_getLsbD_eq
    intro i hi
    interval_cases i <;> simp [highByte, lowByte]

lemma bytes_replace_low (x : U16) (val : U8) :
    highByte ((x &&& 0xff00) ||| val.setWidth 16) = highByte x ∧
      lowByte ((x &&& 0xff00) ||| val.setWidth 16) = val := by
  constructor
  all_goals
    apply BitVec.eq_of_getLsbD_eq
    intro i hi
    interval_cases i <;> simp [highByte, lowByte]

lemma after_shiftaddr_high (l : List RegWrite) :
    highByte (after l).asic.shiftaddr = held .shiftaddrHi l := by
  refine after_held (f := fun w => highByte w.shiftaddr) .shiftaddrHi rfl
    (fun w now addr val => ?_) l
  rw [write_shiftaddr]
  by_cases hhi : asicReg addr = some .shiftaddrHi
  · rw [if_pos hhi, if_pos hhi, (bytes_replace_high _ val).1]
  · rw [if_neg hhi, if_neg hhi]
    split
    · exact (bytes_replace_low _ val).1
    · rfl

lemma after_shiftaddr_low (l : List RegWrite) :
    lowByte (after l).asic.shiftaddr = held .shiftaddrLo l := by
  refine after_held (f := fun w => lowByte w.shiftaddr) .shiftaddrLo rfl
    (fun w now addr val => ?_) l
  rw [write_shiftaddr]
  by_cases hhi : asicReg addr = some .shiftaddrHi
  · rw [if_pos hhi, if_neg (by simp [hhi]), (bytes_replace_high _ val).2]
  · rw [if_neg hhi]
    split
    · exact (bytes_replace_low _ val).2
    · rfl

lemma after_shiftbit (l : List RegWrite) :
    (after l).asic.shiftbit = (held .shiftbit l).setWidth 16 := by
  induction l using List.reverseRecOn with
  | nil => rfl
  | append_singleton l x ih =>
    rw [after_snoc, write_shiftbit, held_snoc, ih]
    split <;> rfl

/-- The high byte is read as it was written. -/
lemma read_shiftaddr_high (l : List RegWrite) :
    (after l).asic.read 0x3f4 = held .shiftaddrHi l := after_shiftaddr_high l

/-- The offset of the bit is added to the low byte alone. -/
lemma read_shiftaddr_low (l : List RegWrite) :
    ((after l).asic.read 0x3f5).toNat =
      ((held .shiftaddrLo l).toNat + (held .shiftbit l).toNat / 8) % 256 := by
  have hlow : ((after l).asic.shiftaddr &&& 0xff).toNat = (held .shiftaddrLo l).toNat := by
    rw [← after_shiftaddr_low, Words.toNat_and_low 8 rfl]
    exact (BitVec.toNat_setWidth ..).symm
  have hbit := (held .shiftbit l).isLt
  have hlt := (held .shiftaddrLo l).isLt
  change (((after l).asic.shiftaddr &&& 0xff) + (after l).asic.shiftbit / 8).toNat % 256 = _
  rw [BitVec.toNat_add, hlow, BitVec.toNat_udiv, after_shiftbit, BitVec.toNat_setWidth]
  change ((held .shiftaddrLo l).toNat + (held .shiftbit l).toNat % 65536 / 8) % 65536 % 256 = _
  omega

lemma read_shiftbit (l : List RegWrite) :
    (after l).asic.read 0x3f6 = (1 : U8) <<< ((held .shiftbit l).toNat % 8) := by
  have hbit := (held .shiftbit l).isLt
  change (1 : U8) <<< ((after l).asic.shiftbit.toNat % 8) = _
  rw [after_shiftbit, BitVec.toNat_setWidth,
    Nat.mod_eq_of_lt (show (held .shiftbit l).toNat < 2 ^ 16 by omega)]

/-- The registers at 0x3FF4, 0x3FF5 and 0x3FF6 locate bit `b` relative to the address with the
bytes `h` and `l`: the address of its byte, and its mask. -/
def Locates (w : WpcAsic) (h l b : U8) : Prop :=
  256 * (w.read 0x3f4).toNat + (w.read 0x3f5).toNat =
      (256 * h.toNat + l.toNat + b.toNat / 8) % 65536 ∧
    w.read 0x3f6 = (1 : U8) <<< (b.toNat % 8)

/-- **The bit shifter.**  After any writes to the ASIC its answer is the right one if and only if
the address of the bit has the same high byte as the base address. -/
theorem shifter_locates_iff (l : List RegWrite) :
    Locates (after l).asic (held .shiftaddrHi l) (held .shiftaddrLo l) (held .shiftbit l) ↔
      (held .shiftaddrLo l).toNat + (held .shiftbit l).toNat / 8 < 256 := by
  have hhi := (held .shiftaddrHi l).isLt
  have hlo := (held .shiftaddrLo l).isLt
  have hbit := (held .shiftbit l).isLt
  rw [Locates, read_shiftaddr_high, read_shiftaddr_low, and_iff_left (read_shiftbit l)]
  omega

/-- Bit 8 of the byte at 0x00FF is bit 0 at 0x0100, and the ASIC answers 0x0000. -/
theorem shifter_loses_carry : ¬∀ l : List RegWrite,
    Locates (after l).asic (held .shiftaddrHi l) (held .shiftaddrLo l) (held .shiftbit l) := by
  intro h
  have hloc := (h [⟨0, 0x3f5, 0xff⟩, ⟨0, 0x3f6, 8⟩]).1
  rw [read_shiftaddr_high, read_shiftaddr_low] at hloc
  exact absurd hloc (by decide)

/-! ## The RAM lock -/

lemma after_ramUnlocked (l : List RegWrite) : (after l).asic.ramUnlocked = held .ramLock l := by
  refine after_held (f := WpcAsic.ramUnlocked) .ramLock rfl (fun w now addr val => ?_) l
  unfold write
  cases asicReg addr with
  | none => rfl
  | some r => cases r <;> simp [setDmdPage, setRomPage, updateRam, dmdSetVisible_lock]

lemma after_ramLockSize (l : List RegWrite) :
    (after l).asic.ramLockSize = held .ramLockSize l := by
  refine after_held (f := WpcAsic.ramLockSize) .ramLockSize rfl (fun w now addr val => ?_) l
  unfold write
  cases asicReg addr with
  | none => rfl
  | some r => cases r <;> simp [setDmdPage, setRomPage, updateRam, dmdSetVisible_lock]

/-- What the lock leaves at entry `k` of the RAM's own address range. -/
def ramEntry (w : WpcAsic) (k : Nat) : BusMap :=
  ⟨2, BitVec.ofNat 64 (BUS_MAP_SIZE * k),
    if k < writableUnits w then MAP_READWRITE else MAP_READABLE⟩

lemma ramEntry_congr {w w' : WpcAsic} (hu : w.ramUnlocked = w'.ramUnlocked)
    (hs : w.ramLockSize = w'.ramLockSize) (k : Nat) : ramEntry w k = ramEntry w' k := by
  have hl : lockedBytes w = lockedBytes w' := by
    unfold lockedBytes
    rw [hu, hs]
  have hn : writableUnits w = writableUnits w' := by
    unfold writableUnits
    rw [hl]
  unfold ramEntry
  rw [hn]

lemma updateRam_ram (w : Wpc) (hf : ∀ k, (w.maps k).fixed = false) {k : Nat} (hk : k < 64) :
    w.updateRam.maps k = ramEntry w.updateRam.asic k := by
  have h := updateRam_apply w.asic hf k
  rw [if_pos hk] at h
  exact h

/-- No register moves the RAM, and the two of the lock set up the whole range again. -/
lemma write_ram {w : Wpc} (hf : ∀ k, (w.maps k).fixed = false) {k : Nat} (hk : k < 64)
    (h : w.maps k = ramEntry w.asic k) (now addr : BitVec 64) (val : U8) :
    (w.write now addr val).maps k = ramEntry (w.write now addr val).asic k := by
  unfold write
  split
  · exact ((aligned_dmd (show 0 < 2 by decide) val).outside _ (by omega)).trans
      (h.trans (ramEntry_congr rfl rfl k))
  · exact ((aligned_dmd (show 1 < 2 by decide) val).outside _ (by omega)).trans
      (h.trans (ramEntry_congr rfl rfl k))
  · obtain ⟨hu, hs⟩ := dmdSetVisible_lock w.asic now val
    exact h.trans (ramEntry_congr hu.symm hs.symm k)
  · exact h.trans (ramEntry_congr rfl rfl k)
  · exact h.trans (ramEntry_congr rfl rfl k)
  · simp only [setRomPage]
    rw [(aligned_rom val).outside _ (by omega), h]
    exact ramEntry_congr rfl rfl k
  · exact updateRam_ram { w with asic := { w.asic with ramUnlocked := val } } hf hk
  · exact updateRam_ram { w with asic := { w.asic with ramLockSize := val } } hf hk
  all_goals exact h.trans (ramEntry_congr rfl rfl k)

lemma after_ram (l : List RegWrite) {k : Nat} (hk : k < 64) :
    (after l).maps k = ramEntry (after l).asic k := by
  induction l using List.reverseRecOn with
  | nil => exact updateRam_ram ⟨WpcAsic.reset, attached⟩ attached_free hk
  | append_singleton l x ih =>
    rw [after_snoc]
    exact write_ram (after_free l) hk ih x.now x.addr x.val

/-- The RAM is mapped at 0x0000..0x1FFF byte for byte, readable, and all but its last `n` bytes are
writable. -/
def RamLocked (m : Busmaps) (n : Nat) : Prop :=
  ∀ a < WPC_RAM_SIZE,
    (m (a / BUS_MAP_SIZE)).devid = 2 ∧
    (m (a / BUS_MAP_SIZE)).offset + BitVec.ofNat 64 (a % BUS_MAP_SIZE) = BitVec.ofNat 64 a ∧
    (m (a / BUS_MAP_SIZE)).flags &&& MAP_READABLE ≠ 0 ∧
    ((m (a / BUS_MAP_SIZE)).flags &&& MAP_WRITABLE = 0 ↔ WPC_RAM_SIZE - n ≤ a)

/-- After any writes the map of the RAM is that of the last values of the two lock registers. -/
lemma after_ramLocked (l : List RegWrite) :
    RamLocked (after l).maps (lockedBytes (after l).asic) := by
  intro a ha
  have ha' : a < 8192 := ha
  have hk : a / BUS_MAP_SIZE < 64 := by
    change a / 128 < 64
    omega
  obtain ⟨hunit, hle⟩ := lockedBytes_units (after l).asic
  have hflags : ((if a / BUS_MAP_SIZE < writableUnits (after l).asic then MAP_READWRITE
      else MAP_READABLE) &&& MAP_WRITABLE = 0) ↔
        ¬a / BUS_MAP_SIZE < writableUnits (after l).asic := by
    split
    · rename_i h
      exact iff_of_false (by decide) (not_not_intro h)
    · rename_i h
      exact iff_of_true (by decide) h
  rw [after_ram l hk]
  refine ⟨rfl, ?_, ?_, hflags.trans ?_⟩
  · change BitVec.ofNat 64 (128 * (a / 128)) + BitVec.ofNat 64 (a % 128) = BitVec.ofNat 64 a
    rw [← BitVec.ofNat_add, Nat.div_add_mod]
  · change (if _ then MAP_READWRITE else MAP_READABLE) &&& MAP_READABLE ≠ 0
    split <;> decide
  · change ¬a / 128 < 64 - lockedBytes (after l).asic / 128 ↔
      8192 - lockedBytes (after l).asic ≤ a
    omega

/-- The end of the RAM that cannot be written is determined by the map. -/
lemma RamLocked.unique {m : Busmaps} {n n' : Nat} (h : RamLocked m n) (h' : RamLocked m n')
    (hn : n ≤ WPC_RAM_SIZE) (hn' : n' ≤ WPC_RAM_SIZE) : n = n' := by
  by_contra hne
  rcases Nat.lt_or_gt_of_ne hne with hlt | hlt
  · have ha : WPC_RAM_SIZE - n' < WPC_RAM_SIZE := by omega
    have hle := (h _ ha).2.2.2.mp ((h' _ ha).2.2.2.mpr (Nat.le_refl _))
    omega
  · have ha : WPC_RAM_SIZE - n < WPC_RAM_SIZE := by omega
    have hle := (h' _ ha).2.2.2.mp ((h _ ha).2.2.2.mpr (Nat.le_refl _))
    omega

/-- The size of the protected area as the register values suggest it: twice as much for each bit
that is taken from the lock size. -/
def lockSize (lock size : U8) : Nat :=
  if lock ≠ 0 then 0
  else if size = 0xf then 256
  else if size = 0x7 then 512
  else if size = 0x3 then 1024
  else if size = 0x1 then 2048
  else if size = 0x0 then 4096
  else 0

lemma lockedBytes_eq_lockSize_iff (w : WpcAsic) :
    lockedBytes w = lockSize w.ramUnlocked w.ramLockSize ↔
      w.ramUnlocked ≠ 0 ∨ w.ramLockSize ≠ 0x7 := by
  unfold lockedBytes lockSize
  by_cases hu : w.ramUnlocked = 0
  · by_cases h7 : w.ramLockSize = 0x7
    · exact iff_of_false (by simp [hu, h7]) fun h => h.elim (· hu) (· h7)
    · rw [if_neg (not_not_intro hu), if_neg (not_not_intro hu), if_neg h7, if_neg h7]
      exact iff_of_true rfl (Or.inr h7)
  · rw [if_pos hu, if_pos hu]
    exact iff_of_true rfl (Or.inl hu)

lemma lockSize_le (lock size : U8) : lockSize lock size ≤ 4096 := by
  unfold lockSize
  split_ifs <;> decide

/-- **The RAM lock.**  After any writes to the ASIC the RAM is protected to the size that the last
values of the two registers suggest if and only if it is unlocked or the lock size is not 0x7. -/
theorem ram_locked_iff (l : List RegWrite) :
    RamLocked (after l).maps (lockSize (held .ramLock l) (held .ramLockSize l)) ↔
      held .ramLock l ≠ 0 ∨ held .ramLockSize l ≠ 0x7 := by
  have hactual := after_ramLocked l
  have hle := (lockedBytes_units (after l).asic).2
  have hle' := lockSize_le (held .ramLock l) (held .ramLockSize l)
  rw [← after_ramUnlocked, ← after_ramLockSize] at hle' ⊢
  rw [← lockedBytes_eq_lockSize_iff]
  constructor
  · intro h
    exact hactual.unique h (Nat.le_trans hle (by decide)) (Nat.le_trans hle' (by decide))
  · intro heq
    rw [← heq]
    exact hactual

/-- With lock size 0x7 the byte at 0x1A00 is protected. -/
theorem lock_size_7_protects_more : ¬∀ l : List RegWrite,
    RamLocked (after l).maps (lockSize (held .ramLock l) (held .ramLockSize l)) := by
  intro h
  have hloc := (h [⟨0, 0x3fe, 7⟩] 0x1a00 (by decide)).2.2.2.mp
    ((after_ramLocked [⟨0, 0x3fe, 7⟩] 0x1a00 (by decide)).2.2.2.mpr (by decide))
  exact absurd hloc (by decide)

end Wpc

end Exec09
