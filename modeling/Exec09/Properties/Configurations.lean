import Exec09.Properties.MmuCoherence
import Mathlib.Logic.Relation

/-!
# Configurations

A configuration is one of the four machines together with what its guest has written to the
mapping registers.  It determines the bus maps and the device table, and whatever happens on the
bus of a machine, its maps are those of some configuration.
-/

namespace Exec09

/-- A machine, and the guest's writes to its mapping registers so far. -/
inductive Config
  | simple
  | eon (l : List (BitVec 64 × U8))
  /-- The registers of the small MMU come from `malloc`. -/
  | eon2 (globalRegs : Nat → U8) (slotRegs : Nat → Nat → U8) (l : List (BitVec 64 × U8))
  | wpc (l : List Wpc.RegWrite)

/-- The small MMU after a sequence of register writes. -/
def SmallMmu.writes (m : SmallMmu) (l : List (BitVec 64 × U8)) : SmallMmu :=
  l.foldl (fun m x => m.write 1 x.1 x.2) m

namespace Config

def maps : Config → Busmaps
  | simple => Simple.maps
  | eon l => (Eon.mmuAfter l).maps
  | eon2 g r l => ((Eon2.init g r).writes l).maps
  | wpc l => (Wpc.after l).maps

def devices : Config → List HwDevice
  | simple => Simple.devices
  | eon _ => Eon.devices
  | eon2 _ _ _ => Eon2.devices
  | wpc _ => Wpc.devices

/-- The bus is that of a machine in this configuration. -/
structure Holds {ι : Type} (c : Config) (b : Bus ι) : Prop where
  maps : b.busmaps = c.maps
  devices : b.deviceTable = c.devices

end Config

/-! ## Everything that happens on a bus -/

section Reach

variable {ι : Type} [Board ι]

/-- One access by the CPU or the debugger. -/
inductive BusStep : Bus ι → Bus ι → Prop
  | read8 (v : View) (b : Bus ι) (addr : Unsigned) : BusStep b (b.cpuRead8 v addr).world
  | read16 (v : View) (b : Bus ι) (addr : Unsigned) : BusStep b (b.cpuRead16 v addr).world
  | write8 (v : View) (b : Bus ι) (addr : Unsigned) (val : U8) :
      BusStep b (b.cpuWrite8 v addr val).world
  | absRead8 (v : View) (b : Bus ι) (addr : BitVec 64) (r : Reply (Bus ι) U8)
      (h : b.absRead8 v addr = some r) : BusStep b r.world
  | absWrite8 (v : View) (b : Bus ι) (addr : BitVec 64) (val : U8) (r : WriteReply (Bus ι))
      (h : b.absWrite8 v addr val = some r) : BusStep b r.world
  | insnHook (v : View) (b : Bus ι) :
      BusStep b { b with io := (Board.insnHook v b).world }
  | running (b : Bus ι) : BusStep b { b with systemRunning := true }

/-- A property that the devices and the hooks keep is kept by every access. -/
lemma BusStep.preserves {P : Bus ι → Prop}
    (hio : ∀ v b a, P b → P { b with io := (Board.readHook v b a).world })
    (hwr : ∀ v b a d, P b → P { b with io := (Board.writeHook v b a d).world })
    (hin : ∀ v b, P b → P { b with io := (Board.insnHook v b).world })
    (hrun : ∀ b, P b → P { b with systemRunning := true })
    (hread : ∀ v b dev phy, P b → P (Board.ioRead v b dev phy).world)
    (hwrite : ∀ v b dev phy val, P b → P (Board.ioWrite v b dev phy val).world)
    (hstore : ∀ b dev phy val, P b → P (b.store dev phy val))
    {b b' : Bus ι} (h : BusStep b b') (hb : P b) : P b' := by
  have hdr : ∀ v b dev phy, P b → P (b.devRead v dev phy).world := by
    intro v b dev phy hb
    unfold Bus.devRead
    split
    · exact hb
    · exact hb
    · exact hb
    · exact hread v b dev phy hb
  have hdw : ∀ v b dev phy val, P b → P (b.devWrite v dev phy val).world := by
    intro v b dev phy val hb
    unfold Bus.devWrite
    split
    · exact hb
    · exact hstore b dev phy val hb
    · exact hstore b dev phy val hb
    · exact hwrite v b dev phy val hb
  cases h with
  | read8 v _ addr => exact hdr v _ _ _ (hio v b _ hb)
  | read16 v _ addr => exact hdr v _ _ _ (hdr v _ _ _ (hio v b _ hb))
  | write8 v _ addr val => exact hwr v _ _ _ (hdw v b _ _ val hb)
  | absRead8 v _ addr r h =>
    simp only [Bus.absRead8, Option.ite_none_right_eq_some, Option.some.injEq] at h
    obtain ⟨-, rfl⟩ := h
    exact hdr v b _ _ hb
  | absWrite8 v _ addr val r h =>
    simp only [Bus.absWrite8, Option.ite_none_right_eq_some, Option.some.injEq] at h
    obtain ⟨-, rfl⟩ := h
    exact hdw v b _ _ val hb
  | insnHook v => exact hin v b hb
  | running => exact hrun b hb

end Reach

/-! ## The maps of a machine are those of a configuration -/

section Machines

variable {δ : Type} [Host δ]

/-- A property of maps, device table and device registers that the devices keep. -/
lemma Devices.preserves {ρ : Type} [Devices ρ δ] {P : Busmaps → List HwDevice → ρ → Prop}
    (hread : ∀ (b : Bus (Io ρ δ)) dev phy, P b.busmaps b.deviceTable b.io.dev →
      P (Devices.read b dev phy).world.busmaps (Devices.read b dev phy).world.deviceTable
        (Devices.read b dev phy).world.io.dev)
    (hwrite : ∀ v (b : Bus (Io ρ δ)) dev phy val, P b.busmaps b.deviceTable b.io.dev →
      P (Devices.write v b dev phy val).world.busmaps
        (Devices.write v b dev phy val).world.deviceTable
        (Devices.write v b dev phy val).world.io.dev)
    {b b' : Bus (Io ρ δ)} (h : Relation.ReflTransGen BusStep b b')
    (hb : P b.busmaps b.deviceTable b.io.dev) : P b'.busmaps b'.deviceTable b'.io.dev := by
  induction h with
  | refl => exact hb
  | tail _ hstep ih =>
    let Q : Bus (Io ρ δ) → Prop := fun b => P b.busmaps b.deviceTable b.io.dev
    have hQ : Q _ := ih
    exact BusStep.preserves (P := Q) (fun _ _ _ h => h) (fun _ _ _ _ h => h) (fun _ _ h => h)
      (fun _ h => h) (fun _ b dev phy => hread b dev phy)
      (fun v b dev phy val => hwrite v b dev phy val) (fun _ _ _ _ h => h) hstep hQ

lemma Simple.reached {b b' : Bus (Io Simple δ)} (h : Relation.ReflTransGen BusStep b b')
    (hb : Config.simple.Holds b) : Config.simple.Holds b' := by
  have hP := Devices.preserves
    (P := fun m t (_ : Simple) => m = Config.simple.maps ∧ t = Config.simple.devices)
    (fun _ _ _ h => h) (fun _ _ _ _ _ h => h) h ⟨hb.maps, hb.devices⟩
  exact ⟨hP.1, hP.2⟩

/-- The registers of the MMU and the maps are those of some configuration. -/
def Eon.Mapped (m : Busmaps) (t : List HwDevice) (d : Eon) : Prop :=
  (∃ l, (⟨d.mmuRegs, m⟩ : Mmu) = Eon.mmuAfter l) ∧ t = Eon.devices

lemma Eon.mapped_reached {b b' : Bus (Io Eon δ)} (h : Relation.ReflTransGen BusStep b b')
    (hb : Mapped b.busmaps b.deviceTable b.io.dev) :
    Mapped b'.busmaps b'.deviceTable b'.io.dev := by
  refine Devices.preserves (P := Mapped) (fun b dev phy hb => ?_) (fun v b dev phy val hb => ?_) h hb
  · simp only [Devices.read]
    split <;> exact hb
  · obtain ⟨⟨l, hl⟩, ht⟩ := hb
    simp only [Devices.write]
    split
    · -- the MMU itself: the configuration has one more register write
      refine ⟨⟨l ++ [(phy, val)], ?_⟩, ht⟩
      rw [Eon.mmuAfter, List.foldl_append]
      change (Eon.mmu b).write phy val = (Eon.mmuAfter l).write phy val
      rw [← hl]
      rfl
    · exact ⟨⟨l, hl⟩, ht⟩
    · exact ⟨⟨l, hl⟩, ht⟩

/-- On an EON the registers of the MMU are those of the configuration, too. -/
lemma Eon.reached {b b' : Bus (Io Eon δ)} (h : Relation.ReflTransGen BusStep b b')
    (hb : Eon.mmu b = Eon.init ∧ b.deviceTable = Eon.devices) :
    ∃ l, Eon.mmu b' = Eon.mmuAfter l ∧ (Config.eon l).Holds b' := by
  obtain ⟨⟨l, hl⟩, ht⟩ := Eon.mapped_reached h ⟨⟨[], hb.1⟩, hb.2⟩
  exact ⟨l, hl, congrArg Mmu.maps hl, ht⟩

end Machines

/-! ## The small MMU, whose history of accesses does not matter -/

namespace SmallMmu

/-- The same registers and maps. -/
structure Same (m m' : SmallMmu) : Prop where
  globalRegs : m.globalRegs = m'.globalRegs
  slotRegs : m.slotRegs = m'.slotRegs
  maps : m.maps = m'.maps

lemma Same.setReg {m m' : SmallMmu} (h : Same m m') (addr : BitVec 64) (val : U8) :
    Same (m.setReg addr val) (m'.setReg addr val) := by
  obtain ⟨hg, hr, hm⟩ := h
  have hslot : m.slot = m'.slot := by rw [slot, hg, slot]
  unfold SmallMmu.setReg
  split
  · exact ⟨by simp only [hg], hr, hm⟩
  · refine ⟨hg, ?_, hm⟩
    simp only [touch]
    rw [hslot, hr]

lemma Same.remap {m m' : SmallMmu} (h : Same m m') (realdev : Unsigned) :
    Same (m.remap realdev) (m'.remap realdev) := by
  obtain ⟨hg, hr, hm⟩ := h
  exact ⟨hg, hr, by simp only [SmallMmu.remap, touch, slot, hg, hr, hm]⟩

lemma Same.write {m m' : SmallMmu} (h : Same m m') (realdev : Unsigned) (addr : BitVec 64)
    (val : U8) : Same (m.write realdev addr val) (m'.write realdev addr val) := by
  simp only [SmallMmu.write]
  split
  · exact (h.setReg addr val).remap realdev
  · exact h.setReg addr val

lemma same_read (m : SmallMmu) (addr : BitVec 64) : Same (m.read addr).2 m := by
  unfold SmallMmu.read
  split
  · exact ⟨rfl, rfl, rfl⟩
  · exact ⟨rfl, rfl, rfl⟩

end SmallMmu

/-! ## The ASIC, of which only the RAM lock bears on the maps -/

namespace Wpc

lemma dmdSetVisible_lock (w : WpcAsic) (now : BitVec 64) (val : U8) :
    (w.dmdSetVisible now val).ramUnlocked = w.ramUnlocked ∧
      (w.dmdSetVisible now val).ramLockSize = w.ramLockSize := by
  obtain ⟨_, _, _, _, _, h⟩ := w.dmdSetVisible_fields now val
  rw [h]
  exact ⟨rfl, rfl⟩

/-- The same maps and RAM lock. -/
structure Same (w w' : Wpc) : Prop where
  unlocked : w.asic.ramUnlocked = w'.asic.ramUnlocked
  lockSize : w.asic.ramLockSize = w'.asic.ramLockSize
  maps : w.maps = w'.maps

lemma Same.updateRam {w w' : Wpc} (h : Same w w') : Same w.updateRam w'.updateRam := by
  have hl : lockedBytes w.asic = lockedBytes w'.asic := by
    unfold lockedBytes
    rw [h.unlocked, h.lockSize]
  exact ⟨h.unlocked, h.lockSize, by simp only [Wpc.updateRam, hl, h.maps]⟩

lemma Same.write {w w' : Wpc} (h : Same w w') (now addr : BitVec 64) (val : U8) :
    Same (w.write now addr val) (w'.write now addr val) := by
  obtain ⟨hu, hs, hm⟩ := h
  unfold Wpc.write
  split
  all_goals try exact ⟨hu, hs, hm⟩
  · exact ⟨hu, hs, by simp only [setDmdPage, hm]⟩
  · exact ⟨hu, hs, by simp only [setDmdPage, hm]⟩
  · have hv := dmdSetVisible_lock w.asic now val
    have hv' := dmdSetVisible_lock w'.asic now val
    exact ⟨hv.1.trans (hu.trans hv'.1.symm), hv.2.trans (hs.trans hv'.2.symm), hm⟩
  · exact ⟨hu, hs, by simp only [setRomPage, hm]⟩
  · exact Same.updateRam ⟨rfl, hs, hm⟩
  · exact Same.updateRam ⟨hu, rfl, hm⟩

end Wpc

section Machines

variable {δ : Type} [Host δ]

/-- The registers of the small MMU and the maps are those of some configuration. -/
def Eon2.Mapped (g : Nat → U8) (r : Nat → Nat → U8) (m : Busmaps) (t : List HwDevice)
    (d : Eon2) : Prop :=
  (∃ l, SmallMmu.Same ⟨d.globalRegs, d.slotRegs, m, []⟩ ((Eon2.init g r).writes l)) ∧
    t = Eon2.devices

lemma Eon2.mapped_reached {g : Nat → U8} {r : Nat → Nat → U8} {b b' : Bus (Io Eon2 δ)}
    (h : Relation.ReflTransGen BusStep b b')
    (hb : Mapped g r b.busmaps b.deviceTable b.io.dev) :
    Mapped g r b'.busmaps b'.deviceTable b'.io.dev := by
  refine Devices.preserves (P := Mapped g r) (fun b dev phy hb => ?_)
    (fun v b dev phy val hb => ?_) h hb
  · simp only [Devices.read]
    split
    all_goals try exact hb
    obtain ⟨⟨l, hl⟩, ht⟩ := hb
    have hsame := SmallMmu.same_read (Eon2.mmu b)
    exact ⟨⟨l, (hsame _).globalRegs.trans hl.globalRegs, (hsame _).slotRegs.trans hl.slotRegs,
      (hsame _).maps.trans hl.maps⟩, ht⟩
  · simp only [Devices.write]
    split
    all_goals try exact hb
    -- the small MMU: the configuration has one more register write
    rename_i reg _
    obtain ⟨⟨l, hl⟩, ht⟩ := hb
    have hmmu : SmallMmu.Same (Eon2.mmu b) ((Eon2.init g r).writes l) :=
      ⟨hl.globalRegs, hl.slotRegs, hl.maps⟩
    have hw := hmmu.write 1 reg val
    have hl' : (Eon2.init g r).writes (l ++ [(reg, val)]) =
        ((Eon2.init g r).writes l).write 1 reg val := by
      rw [SmallMmu.writes, List.foldl_append]
      rfl
    exact ⟨⟨l ++ [(reg, val)], hl' ▸ ⟨hw.globalRegs, hw.slotRegs, hw.maps⟩⟩, ht⟩

lemma Eon2.reached {g : Nat → U8} {r : Nat → Nat → U8} {b b' : Bus (Io Eon2 δ)}
    (h : Relation.ReflTransGen BusStep b b')
    (hb : (Eon2.mmu b).Same (Eon2.init g r) ∧ b.deviceTable = Eon2.devices) :
    ∃ l, (Config.eon2 g r l).Holds b' := by
  obtain ⟨⟨l, hl⟩, ht⟩ :=
    Eon2.mapped_reached h ⟨⟨[], hb.1.globalRegs, hb.1.slotRegs, hb.1.maps⟩, hb.2⟩
  exact ⟨l, hl.maps, ht⟩

/-- The RAM lock and the maps are those of some configuration. -/
def WpcAsic.Mapped (m : Busmaps) (t : List HwDevice) (d : WpcAsic) : Prop :=
  (∃ l, Wpc.Same ⟨d, m⟩ (Wpc.after l)) ∧ t = Wpc.devices

lemma WpcAsic.mapped_reached {b b' : Bus (Io WpcAsic δ)} (h : Relation.ReflTransGen BusStep b b')
    (hb : Mapped b.busmaps b.deviceTable b.io.dev) :
    Mapped b'.busmaps b'.deviceTable b'.io.dev := by
  refine Devices.preserves (P := Mapped) (fun b dev phy hb => ?_) (fun v b dev phy val hb => ?_) h hb
  · obtain ⟨⟨l, hl⟩, ht⟩ := hb
    simp only [Devices.read]
    split_ifs
    · exact ⟨⟨l, hl⟩, ht⟩
    · exact ⟨⟨l, hl.unlocked, hl.lockSize, hl.maps⟩, ht⟩
    · exact ⟨⟨l, hl⟩, ht⟩
  · obtain ⟨⟨l, hl⟩, ht⟩ := hb
    have hl' : Wpc.after (l ++ [⟨v.cycles, phy, val⟩]) =
        (Wpc.after l).write v.cycles phy val := by
      simp only [Wpc.after, List.foldl_append, List.foldl_cons, List.foldl_nil]
    have hw := hl.write v.cycles phy val
    rw [← hl'] at hw
    simp only [Devices.write]
    generalize Wpc.write ⟨b.io.dev, b.busmaps⟩ v.cycles phy val = w at hw ⊢
    split_ifs
    · exact ⟨⟨_, hw⟩, ht⟩
    · exact ⟨⟨_, hw⟩, ht⟩

lemma WpcAsic.reached {b b' : Bus (Io WpcAsic δ)} (h : Relation.ReflTransGen BusStep b b')
    (hb : Wpc.Same ⟨b.io.dev, b.busmaps⟩ Wpc.init ∧ b.deviceTable = Wpc.devices) :
    ∃ l, (Config.wpc l).Holds b' := by
  obtain ⟨⟨l, hl⟩, ht⟩ := WpcAsic.mapped_reached h ⟨⟨[], hb.1⟩, hb.2⟩
  exact ⟨l, hl.maps, ht⟩

end Machines

end Exec09
