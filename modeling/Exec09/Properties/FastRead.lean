import Exec09.Properties.Windows
import Exec09.Properties.Memory
import Exec09.Cpu.Ops

/-!
# The 16-bit read

`cpu_read16` translates its address once and takes the second byte from the same device, as the
comment in `machine.c` says; `RDMEM16` translates both addresses.  On memory the two agree exactly
where the second address continues the first, and within a window of the machine it always does.
-/

namespace Exec09

open Program

/-- The address after `a`, in 16 bits. -/
def nextAddr (a : Unsigned) : Unsigned := (a + 1) &&& 0xffff

lemma nextAddr_toNat (a : Unsigned) : (nextAddr a).toNat = (a.toNat + 1) % 65536 := by
  have hsum : (a + 1).toNat = (a.toNat + 1) % 2 ^ 32 := BitVec.toNat_add a 1
  rw [nextAddr, Words.toNat_and_low 16 (by decide), hsum]
  omega

lemma low_byte_eq {hi hi' lo lo' : U8} (h : (hi ++ lo : U16) = hi' ++ lo') : lo = lo' := by
  have hlow := congrArg (BitVec.extractLsb' 0 8) h
  rwa [BitVec.extractLsb'_append_eq_right, BitVec.extractLsb'_append_eq_right] at hlow

/-- The two ways of putting a word together. -/
lemma wordOf_eq_append (hi lo : U8) : wordOf hi lo = (hi ++ lo : U16).setWidth 32 := by
  have hhi := hi.isLt
  have hlo := lo.isLt
  have hsh : hi.toNat <<< 8 = hi.toNat * 256 := Nat.shiftLeft_eq _ _
  have hor : hi.toNat <<< 8 ||| lo.toNat < 2 ^ 16 :=
    Nat.or_lt_two_pow (by omega) (by omega)
  apply BitVec.eq_of_toNat_eq
  rw [wordOf, BitVec.toNat_or, BitVec.toNat_shiftLeft, BitVec.toNat_setWidth,
    BitVec.toNat_setWidth, BitVec.toNat_setWidth, BitVec.toNat_append,
    Nat.mod_eq_of_lt (show hi.toNat < 2 ^ 32 by omega),
    Nat.mod_eq_of_lt (show lo.toNat < 2 ^ 32 by omega), Nat.mod_eq_of_lt (by omega),
    Nat.mod_eq_of_lt (by omega)]

namespace Bus

variable {ι : Type}

/-- RAM, ROM or nothing is mapped at the address. -/
def MemoryAt (b : Bus ι) (a : Unsigned) : Prop := b.cls (b.device a) ≠ .io

/-- The byte a memory device delivers. -/
def byteOf (b : Bus ι) (dev : Nat) (phy : BitVec 64) : U8 :=
  if b.cls dev = .null then 0xff else b.priv dev phy

/-- The byte mapped at `a'` is the one after that mapped at `a`, or nothing is mapped at either. -/
def Continues (b : Bus ι) (a a' : Unsigned) : Prop :=
  b.cls (b.device a) = .null ∧ b.cls (b.device a') = .null ∨
    b.device a' = b.device a ∧ b.phyAddr a' = b.phyAddr a + 1

lemma Continues.byteOf_eq {b : Bus ι} {a a' : Unsigned} (h : b.Continues a a') :
    b.byteOf (b.device a') (b.phyAddr a') = b.byteOf (b.device a) (b.phyAddr a + 1) := by
  rcases h with ⟨hn, hn'⟩ | ⟨hd, hp⟩
  · simp only [byteOf, hn, hn', if_true]
  · rw [hd, hp]

variable [Board ι]

lemma devRead_memory (v : View) {b : Bus ι} {dev : Nat} (h : b.cls dev ≠ .io) (phy : BitVec 64) :
    b.devRead v dev phy = ⟨b.byteOf dev phy, b, []⟩ := by
  unfold devRead byteOf
  cases hc : b.cls dev with
  | null => simp
  | ram => simp
  | rom => simp
  | io => exact absurd hc h

lemma cpuRead8_memory (v : View) {b : Bus ι} {a : Unsigned} (h : b.MemoryAt a) :
    b.cpuRead8 v a =
      ⟨b.byteOf (b.device a) (b.phyAddr a), (b.hooked v a).world,
        b.faults v a MAP_READABLE .notReadable ++ (b.hooked v a).signals⟩ := by
  have hr : (b.hooked v a).world.devRead v (b.device a) (b.phyAddr a) =
      ⟨b.byteOf (b.device a) (b.phyAddr a), (b.hooked v a).world, []⟩ := 
    devRead_memory v (b := (b.hooked v a).world) h _
  simp only [cpuRead8, hr, List.append_nil]

lemma cpuRead16_memory (v : View) {b : Bus ι} {a : Unsigned} (h : b.MemoryAt a) :
    b.cpuRead16 v a =
      ⟨b.byteOf (b.device a) (b.phyAddr a) ++ b.byteOf (b.device a) (b.phyAddr a + 1),
        (b.hooked v a).world,
        b.faults v a MAP_READABLE .notReadable ++ (b.hooked v a).signals⟩ := by
  have hr : ∀ phy, (b.hooked v a).world.devRead v (b.device a) phy =
      ⟨b.byteOf (b.device a) phy, (b.hooked v a).world, []⟩ := 
    fun phy => devRead_memory v (b := (b.hooked v a).world) h phy
  simp only [cpuRead16, hr, List.append_nil]

/-- The fast read agrees with two byte reads where the second byte continues the first. -/
lemma cpuRead16_eq {b : Bus ι} {a : Unsigned} (h : b.MemoryAt a) (h' : b.MemoryAt (nextAddr a))
    (hc : b.Continues a (nextAddr a)) (v : View) :
    (b.cpuRead16 v a).val = (b.cpuRead8 v a).val ++ (b.cpuRead8 v (nextAddr a)).val := by
  rw [cpuRead16_memory v h, cpuRead8_memory v h, cpuRead8_memory v h', hc.byteOf_eq]

/-- Where it does not, there are contents for which they differ. -/
lemma exists_cpuRead16_ne {b : Bus ι} {a : Unsigned} (h : b.MemoryAt a)
    (h' : b.MemoryAt (nextAddr a)) (hc : ¬b.Continues a (nextAddr a)) :
    ∃ priv : Nat → BitVec 64 → U8, ∀ v : View,
      ((({ b with priv := priv } : Bus ι).cpuRead16 v a).val ≠
        (({ b with priv := priv } : Bus ι).cpuRead8 v a).val ++
          (({ b with priv := priv } : Bus ι).cpuRead8 v (nextAddr a)).val) := by
  -- it is enough that the low bytes differ
  suffices hlow : ∃ priv : Nat → BitVec 64 → U8,
      ({ b with priv := priv } : Bus ι).byteOf (b.device a) (b.phyAddr a + 1) ≠
        ({ b with priv := priv } : Bus ι).byteOf (b.device (nextAddr a)) (b.phyAddr (nextAddr a)) by
    obtain ⟨priv, hne⟩ := hlow
    refine ⟨priv, fun v heq => hne ?_⟩
    rw [cpuRead16_memory (b := { b with priv := priv }) v h,
      cpuRead8_memory (b := { b with priv := priv }) v h,
      cpuRead8_memory (b := { b with priv := priv }) v h'] at heq
    exact low_byte_eq heq
  by_cases hn : b.cls (b.device (nextAddr a)) = .null
  · have hn' : b.cls (b.device a) ≠ .null := fun h0 => hc (Or.inl ⟨h0, hn⟩)
    refine ⟨fun _ _ => 0, ?_⟩
    change (if b.cls (b.device a) = .null then (0xff : U8) else 0) ≠
      if b.cls (b.device (nextAddr a)) = .null then 0xff else 0
    rw [if_neg hn', if_pos hn]
    decide
  · refine ⟨fun d p => if d = b.device (nextAddr a) ∧ p = b.phyAddr (nextAddr a) then 1 else 0, ?_⟩
    change (if b.cls (b.device a) = .null then (0xff : U8)
        else if b.device a = b.device (nextAddr a) ∧ b.phyAddr a + 1 = b.phyAddr (nextAddr a)
          then 1 else 0) ≠
      if b.cls (b.device (nextAddr a)) = .null then 0xff
        else if b.device (nextAddr a) = b.device (nextAddr a) ∧
          b.phyAddr (nextAddr a) = b.phyAddr (nextAddr a) then 1 else 0
    have hother : ¬(b.device a = b.device (nextAddr a) ∧ b.phyAddr a + 1 = b.phyAddr (nextAddr a)) :=
      fun h0 => hc (Or.inr ⟨h0.1.symm, h0.2.symm⟩)
    rw [if_neg hn, if_neg hother, if_pos (And.intro rfl rfl)]
    split
    · decide
    · decide

/-- Reads with the same side effects return together. -/
lemma access_congr {σ β γ : Type} [Machine σ] {call : View → σ → Reply σ β}
    (call' : View → σ → Reply σ γ) {s t : Cpu σ} {x : β}
    (hw : (call' s.view s.world).world = (call s.view s.world).world)
    (hs : (call' s.view s.world).signals = (call s.view s.world).signals)
    (h : access call s = .ok (x, t)) :
    access call' s = .ok ((call' s.view s.world).val, t) := by
  obtain ⟨r, u, hu, h⟩ := bind_eq_ok.mp h
  cases hu
  obtain ⟨_, u, hu, h⟩ := bind_eq_ok.mp h
  cases h
  change ((call' s.view s.world).signals.forM signal >>= fun _ => pure (call' s.view s.world).val)
    { s with world := (call' s.view s.world).world } = _
  rw [hs, hw, ok_bind hu]
  rfl

/-- A byte read of memory that returns, and the fast read from the same state. -/
lemma rdmem_memory {s t : Cpu (Bus ι)} {a x : Unsigned} (h : s.world.MemoryAt a)
    (hr : rdmem a s = .ok (x, t)) :
    x = (s.world.byteOf (s.world.device a) (s.world.phyAddr a)).setWidth 32 ∧
      t.world = (s.world.hooked s.view a).world ∧ t.PC = s.PC ∧
      read16 a s = .ok ((s.world.byteOf (s.world.device a) (s.world.phyAddr a) ++
        s.world.byteOf (s.world.device a) (s.world.phyAddr a + 1) : U16).setWidth 32, t) := by
  have h8 : Machine.read8 s.view s.world a = _ := cpuRead8_memory s.view h
  have h16 : Machine.read16 s.view s.world a = _ := cpuRead16_memory s.view h
  obtain ⟨b, u, hacc, hval⟩ := bind_eq_ok.mp hr
  cases hval
  have hfast := access_congr (fun v w => Machine.read16 v w a)
    (by rw [h8, h16]) (by rw [h8, h16]) hacc
  obtain ⟨hb, on, n, ht⟩ := access_eq_ok hacc
  rw [h8] at hb ht
  rw [h16] at hfast
  refine ⟨by rw [hb], by rw [ht], by rw [ht], ?_⟩
  rw [read16, ok_bind hfast]
  rfl

/-- Where the second byte continues the first, an operand fetched with the fast read is the one
`RDMEM16` would have found. -/
lemma immWord_of_rdmem16 {s u : Cpu (Bus ι)} {y : Unsigned} (h : s.world.MemoryAt s.PC)
    (h' : s.world.MemoryAt (nextAddr s.PC)) (hc : s.world.Continues s.PC (nextAddr s.PC))
    (hr : rdmem16 s.PC s = .ok (y, u)) :
    ∃ t : Cpu (Bus ι), immWord s = .ok (y, t) ∧ t.PC = s.PC + 2 := by
  obtain ⟨hi, s₁, hhi, hr₁⟩ := bind_eq_ok.mp hr
  rw [ok_bind (tick_apply 1 s₁)] at hr₁
  obtain ⟨lo, s₂, hlo, hr₂⟩ := bind_eq_ok.mp hr₁
  cases hr₂
  obtain ⟨rfl, hw, hpc, hfast⟩ := rdmem_memory h hhi
  -- the hook of the first read leaves maps, devices and contents alone
  have h₁ : s₁.world.MemoryAt (nextAddr s.PC) := by
    rw [hw]
    exact h'
  have hbyte : s₁.world.byteOf (s₁.world.device (nextAddr s.PC))
      (s₁.world.phyAddr (nextAddr s.PC)) =
      s.world.byteOf (s.world.device s.PC) (s.world.phyAddr s.PC + 1) := by
    rw [hw]
    exact hc.byteOf_eq
  obtain ⟨rfl, -⟩ := rdmem_memory (s := { s₁ with cpuClk := s₁.cpuClk - 1 }) h₁ hlo
  refine ⟨{ s₁ with PC := s₁.PC + 2 }, ?_, by rw [hpc]⟩
  rw [immWord, ok_bind (reads_apply Cpu.PC s), ok_bind hfast, ← wordOf_eq_append]
  change _ = Except.ok (wordOf _ (s₁.world.byteOf (s₁.world.device (nextAddr s.PC))
    (s₁.world.phyAddr (nextAddr s.PC))), _)
  rw [hbyte]
  rfl

/-! ## Where the second byte continues the first -/

omit [Board ι]

/-- A bus address within a map unit. -/
lemma continues_unit (b : Bus ι) {a : Unsigned} (ha : a.toNat < MAX_CPU_ADDR)
    (hu : a.toNat % BUS_MAP_SIZE ≠ 127) : b.Continues a (nextAddr a) := by
  have ha' : a.toNat < 65536 := ha
  have hu' : a.toNat % 128 ≠ 127 := hu
  have hn : (nextAddr a).toNat = a.toNat + 1 := by
    rw [nextAddr_toNat]
    omega
  have hmap : b.findMap (nextAddr a) = b.findMap a := by
    have : (nextAddr a).toNat / BUS_MAP_SIZE = a.toNat / BUS_MAP_SIZE := by
      rw [hn]
      change (a.toNat + 1) / 128 = a.toNat / 128
      omega
    rw [findMap, findMap, this]
  refine Or.inr ⟨by rw [device, device, hmap], ?_⟩
  have hoff : (nextAddr a).toNat % BUS_MAP_SIZE = a.toNat % BUS_MAP_SIZE + 1 := by
    rw [hn]
    change (a.toNat + 1) % 128 = a.toNat % 128 + 1
    omega
  rw [phyAddr, phyAddr, hmap, hoff, BitVec.ofNat_add, BitVec.add_assoc]
  rfl

/-- From one map unit to the next of a linear stretch. -/
lemma continues_linear {b : Bus ι} {a : Unsigned} {lo hi : Nat} (hm : Linear b.busmaps lo hi)
    (hhi : hi ≤ NUM_BUS_MAPS) (hlo : lo ≤ a.toNat / BUS_MAP_SIZE)
    (ha : (a.toNat + 1) / BUS_MAP_SIZE < hi) : b.Continues a (nextAddr a) := by
  have hhi' : hi ≤ 512 := hhi
  have ha' : (a.toNat + 1) / 128 < hi := ha
  by_cases hu : a.toNat % BUS_MAP_SIZE = 127
  · have hu' : a.toNat % 128 = 127 := hu
    have hn : (nextAddr a).toNat = a.toNat + 1 := by
      rw [nextAddr_toNat]
      omega
    have hk : (nextAddr a).toNat / BUS_MAP_SIZE = a.toNat / BUS_MAP_SIZE + 1 := by
      rw [hn]
      change (a.toNat + 1) / 128 = a.toNat / 128 + 1
      omega
    have hk0 : (nextAddr a).toNat % BUS_MAP_SIZE = 0 := by
      rw [hn]
      change (a.toNat + 1) % 128 = 0
      omega
    have hlt : a.toNat / BUS_MAP_SIZE + 1 < hi := by
      change a.toNat / 128 + 1 < hi
      omega
    have hmap : b.findMap (nextAddr a) = b.busmaps (a.toNat / BUS_MAP_SIZE + 1) := by
      rw [findMap, hk]
    have hd : (b.busmaps (a.toNat / BUS_MAP_SIZE + 1)).devid =
        (b.busmaps (a.toNat / BUS_MAP_SIZE)).devid :=
      (hm.devid _ (by omega) hlt).trans (hm.devid _ hlo (by omega)).symm
    refine Or.inr ⟨by rw [device, device, hmap, findMap, hd], ?_⟩
    have hsum : BUS_MAP_SIZE * (a.toNat / BUS_MAP_SIZE + 1 - lo) + 0 =
        BUS_MAP_SIZE * (a.toNat / BUS_MAP_SIZE - lo) + 127 + 1 := by
      change 128 * (a.toNat / 128 + 1 - lo) + 0 = 128 * (a.toNat / 128 - lo) + 127 + 1
      have : lo ≤ a.toNat / 128 := hlo
      omega
    rw [phyAddr, phyAddr, hmap, findMap, hm.offset _ (by omega) hlt, hm.offset _ hlo (by omega),
      hk0, hu, BitVec.add_assoc, ← BitVec.ofNat_add, hsum, BitVec.ofNat_add, BitVec.ofNat_add,
      ← BitVec.add_assoc, ← BitVec.add_assoc]
    rfl
  · exact b.continues_unit (by change a.toNat < 65536; omega) hu

end Bus

/-- The two bytes of a word at `a` lie in one window of the machine. -/
def Config.Within (c : Config) (a : Unsigned) : Prop :=
  ∃ w ∈ c.windows, w.1 ≤ a.toNat / BUS_MAP_SIZE ∧ (a.toNat + 1) / BUS_MAP_SIZE < w.2

lemma Config.windows_le (c : Config) {w : Nat × Nat} (h : w ∈ c.windows) : w.2 ≤ NUM_BUS_MAPS := by
  change w.2 ≤ 512
  cases c with
  | simple =>
    rw [List.mem_singleton.mp h]
    decide
  | eon l =>
    obtain ⟨p, hp, rfl⟩ := List.mem_map.mp h
    have := List.mem_range.mp hp
    change 32 * p + 32 ≤ 512
    omega
  | eon2 g r l =>
    obtain ⟨p, hp, rfl⟩ := List.mem_map.mp h
    have := List.mem_range.mp hp
    change 32 * p + 32 ≤ 512
    omega
  | wpc l =>
    have hall : ∀ w ∈ windows (.wpc l), w.2 ≤ 512 := by
      simp [windows]
    exact hall w h

/-- **The 16-bit read and two 8-bit reads.**  On a machine in any configuration, at an address that
is backed by memory with its successor: where the successor continues the address the fast read
delivers the two bytes, and an operand fetched with it is the one `RDMEM16` finds; where it does
not, memory contents tell the two apart; and it does within a map unit and within a window. -/
theorem fast_read_agrees {ι : Type} [Board ι] (c : Config) (b : Bus ι) (hb : c.Holds b)
    (a : Unsigned) (ha : a.toNat < MAX_CPU_ADDR) (h : b.MemoryAt a) (h' : b.MemoryAt (nextAddr a)) :
    (b.Continues a (nextAddr a) →
      (∀ v, (b.cpuRead16 v a).val = (b.cpuRead8 v a).val ++ (b.cpuRead8 v (nextAddr a)).val) ∧
      ∀ (s u : Cpu (Bus ι)) (y : Unsigned), s.world = b → s.PC = a → rdmem16 a s = .ok (y, u) →
        ∃ t, immWord s = .ok (y, t) ∧ extended s = .ok ((), { t with ea := y })) ∧
    (¬b.Continues a (nextAddr a) → ∃ priv : Nat → BitVec 64 → U8, ∀ v,
      (({ b with priv := priv } : Bus ι).cpuRead16 v a).val ≠
        (({ b with priv := priv } : Bus ι).cpuRead8 v a).val ++
          (({ b with priv := priv } : Bus ι).cpuRead8 v (nextAddr a)).val) ∧
    (a.toNat % BUS_MAP_SIZE ≠ 127 ∨ c.Within a → b.Continues a (nextAddr a)) := by
  refine ⟨fun hc => ⟨Bus.cpuRead16_eq h h' hc, ?_⟩, Bus.exists_cpuRead16_ne h h', ?_⟩
  · rintro s u y rfl rfl hr
    obtain ⟨t, ht, -⟩ := Bus.immWord_of_rdmem16 h h' hc hr
    refine ⟨t, ht, ?_⟩
    rw [extended, ok_bind ht]
    rfl
  · rintro (hu | ⟨w, hw, hlo, hhi⟩)
    · exact b.continues_unit ha hu
    · refine Bus.continues_linear ?_ (c.windows_le hw) hlo hhi
      rw [hb.maps]
      exact c.linear hw

/-- An EON whose guest has moved page 1 to RAM offset 0x7000, where the byte 1 is stored. -/
def movedPage : Bus (Io Eon Bare) :=
  Eon.bus (Eon.mmuAfter [(5, 7)]) (fun d p => if d = 2 ∧ p = 0x7000 then 1 else 0) ⟨⟩

/-- At the end of page 0 the fast read does not see the page that follows. -/
theorem page_edge_differs :
    ¬∀ (c : Config) (b : Bus (Io Eon Bare)), c.Holds b → ∀ a : Unsigned, a.toNat < MAX_CPU_ADDR →
      b.MemoryAt a → b.MemoryAt (nextAddr a) → ∀ v,
      (b.cpuRead16 v a).val = (b.cpuRead8 v a).val ++ (b.cpuRead8 v (nextAddr a)).val := by
  intro h
  have heq := h (.eon [(5, 7)]) movedPage ⟨rfl, rfl⟩ 0x0fff (by decide)
    (show movedPage.cls (movedPage.device 0x0fff) ≠ .io by decide +kernel)
    (show movedPage.cls (movedPage.device (nextAddr 0x0fff)) ≠ .io by decide +kernel)
    ⟨0, 0, 0, 0, 0, 0, 0, 0, 0, 0⟩
  exact absurd heq (by decide +kernel)

theorem fast_read_agrees_page :
    (movedPage.cpuRead16 ⟨0, 0, 0, 0, 0, 0, 0, 0, 0, 0⟩ 0x1000).val =
      (movedPage.cpuRead8 ⟨0, 0, 0, 0, 0, 0, 0, 0, 0, 0⟩ 0x1000).val ++
        (movedPage.cpuRead8 ⟨0, 0, 0, 0, 0, 0, 0, 0, 0, 0⟩ (nextAddr 0x1000)).val := by
  have h := fast_read_agrees (.eon [(5, 7)]) movedPage ⟨rfl, rfl⟩ 0x1000 (by decide)
    (show movedPage.cls (movedPage.device 0x1000) ≠ .io by decide +kernel)
    (show movedPage.cls (movedPage.device (nextAddr 0x1000)) ≠ .io by decide +kernel)
  exact (h.1 (h.2.2 (Or.inl (by decide)))).1 _

end Exec09
