import Exec09.Properties.Absolute
import Exec09.Properties.Memory
import Exec09.Cpu.Flat

/-!
# Write protection

`cpu_write8` reports a write through an entry without `MAP_WRITABLE` to the fault handler of the
machine and, if that returns, carries the write out.  ROM devices store like RAM devices, and the
`readonly` field of a device class is not looked at.  So the memories are protected as far as the
fault handler ends the process.
-/

namespace Exec09

open Program

/-! ## The four machines -/

/-- The machines that can be selected. -/
inductive Model
  | simple | eon | eon2 | wpc
  deriving DecidableEq, Repr

namespace Model

/-- The registers of the devices. -/
def Regs : Model → Type
  | simple => Simple
  | eon => Eon
  | eon2 => Eon2
  | wpc => WpcAsic

variable {δ : Type} [Host δ]

instance (m : Model) : Devices m.Regs δ :=
  match m with
  | simple => inferInstanceAs (Devices Simple δ)
  | eon => inferInstanceAs (Devices Eon δ)
  | eon2 => inferInstanceAs (Devices Eon2 δ)
  | wpc => inferInstanceAs (Devices WpcAsic δ)

def devices : Model → List HwDevice
  | simple => Simple.devices
  | eon => Eon.devices
  | eon2 => Eon2.devices
  | wpc => Wpc.devices

/-- The fault handler ends the process.  That of the WPC is empty, and `sim_error` returns when
the debugger is enabled. -/
def FaultExits (δ : Type) [Host δ] : Model → Prop
  | wpc => False
  | _ => Host.debugEnabled δ = false

/-- The disk that a write to a register of a device makes read a sector, and the RAM device it
reads into. -/
def transfer : (m : Model) → m.Regs → Nat → BitVec 64 → U8 → Option (Disk × Nat)
  | simple, _, _, _, _ => none
  | eon, r, dev, phy, val =>
    if dev = 5 ∧ phy = 0 ∧ val &&& 1 ≠ 0 then some (Eon.disk r, 2) else none
  | eon2, r, dev, phy, val =>
    match Eon2.route dev phy with
    | some (.disk, reg) => if reg = 0 ∧ val &&& 1 ≠ 0 then some (Eon2.disk r, 1) else none
    | _ => none
  | wpc, _, _, _, _ => none

end Model

/-- The machine a configuration is one of. -/
def Config.model : Config → Model
  | simple => .simple
  | eon _ => .eon
  | eon2 _ _ _ => .eon2
  | wpc _ => .wpc

lemma Config.devices_eq (c : Config) : c.devices = c.model.devices := by
  cases c <;> rfl

/-- The sector that is read differs from what is in memory. -/
def Disk.Overwrites (d : Disk) (mem : BitVec 64 → U8) : Prop :=
  ∃ p, d.ram ≤ p ∧ (p - d.ram).toNat < d.available ∧ d.file (d.pos + (p - d.ram).toNat) ≠ mem p

lemma Disk.fread_apply (d : Disk) (mem : BitVec 64 → U8) (p : BitVec 64) :
    (d.fread mem).2 p = if d.ram ≤ p ∧ (p - d.ram).toNat < d.available
      then d.file (d.pos + (p - d.ram).toNat) else mem p := rfl

lemma Disk.fread_eq_iff (d : Disk) (mem : BitVec 64 → U8) :
    (d.fread mem).2 = mem ↔ ¬d.Overwrites mem := by
  constructor
  · rintro h ⟨p, hle, hlt, hne⟩
    refine hne ?_
    have hp := congrFun h p
    rwa [fread_apply, if_pos ⟨hle, hlt⟩] at hp
  · intro h
    funext p
    rw [fread_apply]
    by_cases hp : d.ram ≤ p ∧ (p - d.ram).toNat < d.available
    · rw [if_pos hp]
      by_contra hne
      exact h ⟨p, hp.1, hp.2, hne⟩
    · rw [if_neg hp]

/-- Only reading a sector changes memory. -/
lemma Disk.write_mem (d : Disk) (mem : BitVec 64 → U8) (addr : BitVec 64) (val : U8) :
    (d.write mem addr val).2 = if addr = 0 ∧ val &&& 1 ≠ 0 then (d.fread mem).2 else mem := by
  by_cases h0 : addr = 0
  · subst h0
    by_cases hr : val &&& 1 = 0
    · rw [if_neg fun h => h.2 hr]
      simp only [write, show ¬(0 : BitVec 64) = 1 by decide, show ¬(0 : BitVec 64) = 2 by decide,
        show ¬(0 : BitVec 64) = 3 by decide, if_false, if_true, hr, ne_eq, not_true_eq_false]
      split_ifs <;> rfl
    · rw [if_pos ⟨rfl, hr⟩]
      simp only [write, show ¬(0 : BitVec 64) = 1 by decide, show ¬(0 : BitVec 64) = 2 by decide,
        show ¬(0 : BitVec 64) = 3 by decide, if_false, if_true, ne_eq, hr, not_false_eq_true]
  · rw [if_neg fun h => h0 h.1]
    simp only [write, h0, if_false]
    split_ifs <;> rfl

namespace Bus

variable {ι : Type}

/-- The map entry of the address lacks `MAP_WRITABLE`. -/
def ReadOnly (b : Bus ι) (a : Unsigned) : Prop := (b.findMap a).flags &&& MAP_WRITABLE = 0

/-- The memory after a disk access, which goes to one device. -/
lemma diskWrite_priv (b : Bus ι) (ram : Nat) (d : Disk) (addr : BitVec 64) (val : U8) :
    (b.diskWrite ram d addr val).2.priv =
      if addr = 0 ∧ val &&& 1 ≠ 0 then
        fun dev => if dev = ram then (d.fread (b.priv ram)).2 else b.priv dev
      else b.priv := by
  change (fun dev => if dev = ram then (d.write (b.priv ram) addr val).2 else b.priv dev) = _
  rw [Disk.write_mem]
  split_ifs
  · rfl
  · funext dev
    split_ifs with h
    · rw [h]
    · rfl

end Bus

namespace Model

variable {δ : Type} [Host δ]

/-- Carrying out the write changes no memory: nothing is mapped at the address, the byte there has
that value already, or an I/O device is told something other than to read a sector that differs
from the memory it is read into. -/
def Harmless (m : Model) (b : Bus (Io m.Regs δ)) (a : Unsigned) (val : U8) : Prop :=
  match b.cls (b.device a) with
  | .null => True
  | .ram => b.priv (b.device a) (b.phyAddr a) = val
  | .rom => b.priv (b.device a) (b.phyAddr a) = val
  | .io => ∀ d ram, m.transfer b.io.dev (b.device a) (b.phyAddr a) val = some (d, ram) →
      ¬d.Overwrites (b.priv ram)

/-- The I/O devices of the EON. -/
lemma eon_io {ι : Type} {b : Bus ι} (hd : b.deviceTable = Eon.devices) {dev : Nat}
    (hc : b.cls dev = .io) : dev = 1 ∨ dev = 4 ∨ dev = 5 := by
  rw [Bus.cls, hd] at hc
  rcases dev with _ | _ | _ | _ | _ | _ | n
  · exact absurd hc (by decide)
  · exact Or.inl rfl
  · exact absurd hc (by decide)
  · exact absurd hc (by decide)
  · exact Or.inr (Or.inl rfl)
  · exact Or.inr (Or.inr rfl)
  · exact absurd hc (by simp [Eon.devices, table])

omit [Host δ] in
lemma Harmless.storage {m : Model} {b : Bus (Io m.Regs δ)} {a : Unsigned} {val : U8}
    (h : m.Harmless b a val) (hs : b.StorageAt a) : b.priv (b.device a) (b.phyAddr a) = val := by
  unfold Harmless at h
  rcases hs with hs | hs <;> rwa [hs] at h

/-- What the I/O devices of a machine do to memory: nothing, except that a disk that is told to
read overwrites a part of a RAM device. -/
structure OnlyTransfers (δ ρ : Type) [Host δ] [Devices ρ δ] (devices : List HwDevice)
    (transfer : ρ → Nat → BitVec 64 → U8 → Option (Disk × Nat)) : Prop where
  read_priv : ∀ (b : Bus (Io ρ δ)) dev phy, (Devices.read b dev phy).world.priv = b.priv
  read_table : ∀ (b : Bus (Io ρ δ)) dev phy,
    (Devices.read b dev phy).world.deviceTable = b.deviceTable
  write_table : ∀ v (b : Bus (Io ρ δ)) dev phy val,
    (Devices.write v b dev phy val).world.deviceTable = b.deviceTable
  write_priv : ∀ v (b : Bus (Io ρ δ)) dev phy val, b.deviceTable = devices → b.cls dev = .io →
    (Devices.write v b dev phy val).world.priv =
      match transfer b.io.dev dev phy val with
      | some (d, ram) => fun dev => if dev = ram then (d.fread (b.priv ram)).2 else b.priv dev
      | none => b.priv
  transfer_ram : ∀ r dev phy val d ram, transfer r dev phy val = some (d, ram) →
    (devices[ram]?.map HwDevice.cls) = some .ram

lemma onlyTransfers_simple : OnlyTransfers δ Simple Simple.devices (transfer .simple) where
  read_priv _ _ _ := rfl
  read_table _ _ _ := rfl
  write_table _ _ _ _ _ := rfl
  write_priv _ _ _ _ _ _ _ := rfl
  transfer_ram _ _ _ _ _ _ h := by cases h

lemma onlyTransfers_eon : OnlyTransfers δ Eon Eon.devices (transfer .eon) where
  read_priv b dev phy := by
    simp only [Devices.read]
    split <;> rfl
  read_table b dev phy := by
    simp only [Devices.read]
    split <;> rfl
  write_table v b dev phy val := by
    simp only [Devices.write]
    split <;> rfl
  write_priv v b dev phy val hd hc := by
    rcases eon_io hd hc with rfl | rfl | rfl
    · rfl
    · rfl
    · change (b.diskWrite 2 b.io.dev.disk phy val).2.priv = _
      rw [Bus.diskWrite_priv]
      simp only [transfer, true_and]
      split_ifs <;> rfl
  transfer_ram r dev phy val d ram h := by
    simp only [transfer] at h
    split_ifs at h
    cases h
    rfl

lemma onlyTransfers_eon2 : OnlyTransfers δ Eon2 Eon2.devices (transfer .eon2) where
  read_priv b dev phy := by
    simp only [Devices.read]
    split <;> rfl
  read_table b dev phy := by
    simp only [Devices.read]
    split <;> rfl
  write_table v b dev phy val := by
    simp only [Devices.write]
    split <;> rfl
  write_priv v b dev phy val _ _ := by
    simp only [Devices.write, transfer]
    rcases hr : Eon2.route dev phy with _ | ⟨part, reg⟩
    · rfl
    · cases part with
      | disk =>
        change (b.diskWrite 1 b.io.dev.disk reg val).2.priv = _
        rw [Bus.diskWrite_priv]
        simp only
        split_ifs <;> rfl
      | serial => rfl
      | mmu => rfl
      | imux => rfl
      | hostfile => rfl
  transfer_ram r dev phy val d ram h := by
    simp only [transfer] at h
    split at h
    · split_ifs at h
      cases h
      rfl
    · cases h

lemma onlyTransfers_wpc : OnlyTransfers δ WpcAsic Wpc.devices (transfer .wpc) where
  read_priv b dev phy := by
    simp only [Devices.read]
    split_ifs <;> rfl
  read_table b dev phy := by
    simp only [Devices.read]
    split_ifs <;> rfl
  write_table v b dev phy val := by
    simp only [Devices.write]
    generalize Wpc.write ⟨b.io.dev, b.busmaps⟩ v.cycles phy val = w
    split_ifs <;> rfl
  write_priv v b dev phy val _ _ := by
    simp only [Devices.write]
    generalize Wpc.write ⟨b.io.dev, b.busmaps⟩ v.cycles phy val = w
    split_ifs <;> rfl
  transfer_ram _ _ _ _ _ _ h := by cases h

lemma onlyTransfers (m : Model) : OnlyTransfers δ m.Regs m.devices m.transfer := by
  cases m with
  | simple => exact onlyTransfers_simple
  | eon => exact onlyTransfers_eon
  | eon2 => exact onlyTransfers_eon2
  | wpc => exact onlyTransfers_wpc

lemma devWrite_io (m : Model) {b : Bus (Io m.Regs δ)} (hd : b.deviceTable = m.devices) (v : View)
    {dev : Nat} (hc : b.cls dev = .io) (phy : BitVec 64) (val : U8) :
    (b.devWrite v dev phy val).world.priv =
      match m.transfer b.io.dev dev phy val with
      | some (d, ram) => fun dev => if dev = ram then (d.fread (b.priv ram)).2 else b.priv dev
      | none => b.priv := by
  rw [← m.onlyTransfers.write_priv v b dev phy val hd hc, Bus.devWrite, hc]
  rfl

/-- Storing a byte changes the memories unless it is there already. -/
lemma store_priv_eq_iff {ι : Type} (b : Bus ι) (dev : Nat) (phy : BitVec 64) (val : U8) :
    (b.store dev phy val).priv = b.priv ↔ b.priv dev phy = val := by
  constructor
  · intro h
    have hp := congrFun (congrFun h dev) phy
    simp only [Bus.store, and_self, if_true] at hp
    exact hp.symm
  · intro h
    funext d p
    simp only [Bus.store]
    split
    · rename_i hp
      rw [hp.1, hp.2, h]
    · rfl

/-- Replacing the memory of one device changes the memories unless it is the same. -/
lemma replace_priv_eq_iff (priv : Nat → BitVec 64 → U8) (ram : Nat) (mem : BitVec 64 → U8) :
    (fun dev => if dev = ram then mem else priv dev) = priv ↔ mem = priv ram := by
  constructor
  · intro h
    have hram := congrFun h ram
    rwa [if_pos rfl] at hram
  · intro h
    funext dev
    split_ifs with hd
    · rw [h, hd]
    · rfl

/-- Exactly the harmless writes leave the memories alone. -/
lemma cpuWrite8_priv_eq_iff (m : Model) {b : Bus (Io m.Regs δ)} (hd : b.deviceTable = m.devices)
    (v : View) (a : Unsigned) (val : U8) :
    (b.cpuWrite8 v a val).world.priv = b.priv ↔ m.Harmless b a val := by
  change (b.devWrite v (b.device a) (b.phyAddr a) val).world.priv = b.priv ↔ _
  unfold Harmless
  cases hc : b.cls (b.device a) with
  | null =>
    simp only [Bus.devWrite, hc]
  | ram =>
    simp only [Bus.devWrite, hc]
    exact store_priv_eq_iff b _ _ val
  | rom =>
    simp only [Bus.devWrite, hc]
    exact store_priv_eq_iff b _ _ val
  | io =>
    simp only [m.devWrite_io hd v hc]
    cases ht : m.transfer b.io.dev (b.device a) (b.phyAddr a) val with
    | none => exact iff_of_true rfl fun d ram he => by cases he
    | some x =>
      obtain ⟨d, ram⟩ := x
      refine (replace_priv_eq_iff b.priv ram _).trans ((d.fread_eq_iff _).trans ?_)
      refine ⟨fun h d' ram' he => ?_, fun h => h d ram rfl⟩
      cases he
      exact h

/-! ## The fault -/

lemma fault_eq (m : Model) : Devices.fault m.Regs δ = if m = .wpc then [] else [.simError] := by
  cases m <;> rfl

lemma faultExits_iff (m : Model) : m.FaultExits δ ↔ m ≠ .wpc ∧ Host.debugEnabled δ = false := by
  cases m <;> simp [FaultExits]

end Model

/-- `sim_error` returns when the debugger is enabled. -/
lemma simErrors_return_iff {σ : Type} [Machine σ] (l : List Signal) (h : ∀ x ∈ l, x = .simError)
    (s : Cpu σ) :
    (∃ u, l.forM signal s = .ok ((), u)) ↔ l = [] ∨ Machine.debugEnabled σ = true := by
  induction l generalizing s with
  | nil => exact ⟨fun _ => Or.inl rfl, fun _ => ⟨s, rfl⟩⟩
  | cons x l ih =>
    have hx := h x List.mem_cons_self
    subst hx
    have hl := ih fun y hy => h y (List.mem_cons_of_mem _ hy)
    by_cases hdbg : Machine.debugEnabled σ = true
    · have hok : ∀ s : Cpu σ, signal .simError s =
          .ok ((), { s with simErrors := s.simErrors + 1, monitorOn := true }) := by
        intro s
        simp only [signal, simError, hdbg, if_true]
        rfl
      refine ⟨fun _ => Or.inr hdbg, fun _ => ?_⟩
      obtain ⟨u, hu⟩ := (hl { s with simErrors := s.simErrors + 1, monitorOn := true }).mpr
        (Or.inr hdbg)
      exact ⟨u, (ok_bind (hok s)).trans hu⟩
    · refine ⟨fun hreturn => ?_, fun h' => ?_⟩
      · obtain ⟨u, hu⟩ := hreturn
        obtain ⟨_, t, ht, -⟩ := bind_eq_ok.mp hu
        have herr : signal .simError s = .error (.code 2) := by
          simp only [signal, simError, hdbg]
          rfl
        rw [herr] at ht
        cases ht
      · rcases h' with h' | h'
        · cases h'
        · exact absurd h' hdbg

namespace Model

variable {δ : Type} [Host δ]

/-- The fault of a write through a read-only entry returns exactly when the fault handler does not
end the process. -/
lemma faults_return_iff (m : Model) {b : Bus (Io m.Regs δ)} (v : View) {a : Unsigned}
    (hrun : b.systemRunning = true) (hro : b.ReadOnly a) (s : Cpu (Bus (Io m.Regs δ))) :
    (∃ u, (b.faults v a MAP_WRITABLE .notWritable).forM signal s = .ok ((), u)) ↔
      ¬m.FaultExits δ := by
  have hfault : ∀ type, b.doFault v a type = Devices.fault m.Regs δ := fun type => if_pos hrun
  have hlist : b.faults v a MAP_WRITABLE .notWritable =
      (if b.noResponse (b.findMap a).devid then Devices.fault m.Regs δ else []) ++
        Devices.fault m.Regs δ := by
    rw [Bus.faults, hfault, hfault]
    exact congrArg _ (if_pos hro)
  rw [hlist, simErrors_return_iff, faultExits_iff, fault_eq]
  · change _ ∨ Host.debugEnabled δ = true ↔ _
    by_cases hm : m = .wpc
    · simp [hm]
    · simp [hm]
  · intro x hx
    rw [fault_eq] at hx
    split_ifs at hx <;> simp at hx <;> exact hx

/-- `cpu_write8` leaves the memories alone: if the fault handler returns, they are as before when
the write is finished. -/
def Protected (m : Model) (s : Cpu (Bus (Io m.Regs δ))) (a data : Unsigned) : Prop :=
  ∀ u, (s.world.faults s.view a MAP_WRITABLE .notWritable).forM signal s = .ok ((), u) →
    (s.world.cpuWrite8 s.view a (data.setWidth 8)).world.priv = s.world.priv

lemma protected_iff (m : Model) (s : Cpu (Bus (Io m.Regs δ)))
    (hd : s.world.deviceTable = m.devices) {a : Unsigned} (hrun : s.world.systemRunning = true)
    (hro : s.world.ReadOnly a) (data : Unsigned) :
    m.Protected s a data ↔ m.FaultExits δ ∨ m.Harmless s.world a (data.setWidth 8) := by
  have hret := m.faults_return_iff s.view hrun hro s
  rw [← m.cpuWrite8_priv_eq_iff hd s.view]
  constructor
  · intro h
    by_cases hex : m.FaultExits δ
    · exact Or.inl hex
    · obtain ⟨u, hu⟩ := hret.mpr hex
      exact Or.inr (h u hu)
  · rintro (hex | hpriv) u hu
    · exact absurd hex (hret.mp ⟨u, hu⟩)
    · exact hpriv

end Model

/-! ## Entries of the map -/

/-- A call of `bus_map` leaves an entry alone or gives it its own device and flags. -/
lemma busMap_entry (addr d : Unsigned) (offset : BitVec 64) (len : Unsigned) (flags : U8)
    (m : Busmaps) (k : Nat) :
    busMap addr d offset len flags m k = m k ∨
      (busMap addr d offset len flags m k).devid = d ∧
        (busMap addr d offset len flags m k).flags = flags := by
  rw [busMap, busMapLoop_apply]
  split_ifs
  · exact Or.inr ⟨rfl, rfl⟩
  · exact Or.inl rfl

namespace Eon2

/-- RAM, ROM or writable. -/
def EntryKind (e : BusMap) : Prop := e.devid = 1 ∨ e.devid = 3 ∨ e.flags = MAP_READWRITE

lemma EntryKind.busMap {m : Busmaps} {k : Nat} (hm : EntryKind (m k)) {addr d : Unsigned}
    {offset : BitVec 64} {len : Unsigned} {flags : U8}
    (h : d = 1 ∨ d = 3 ∨ flags = MAP_READWRITE) :
    EntryKind (busMap addr d offset len flags m k) := by
  rcases busMap_entry addr d offset len flags m k with he | ⟨hd, hf⟩
  · rw [he]
    exact hm
  · rw [EntryKind, hd, hf]
    exact h

/-- The only I/O device the EON2 maps is the expander, and it is writable. -/
lemma entryKind (g : Nat → U8) (r : Nat → Nat → U8) (l : List (BitVec 64 × U8)) {k : Nat}
    (hk : k < NUM_BUS_MAPS) : EntryKind (((init g r).writes l).maps k) := by
  have hk' : k < 512 := hk
  have hwrites : ∀ m : SmallMmu, EntryKind (m.maps k) → EntryKind ((m.writes l).maps k) := by
    induction l with
    | nil => exact fun m hm => hm
    | cons x l ih =>
      intro m hm
      refine ih _ ?_
      simp only [SmallMmu.write]
      split
      · refine EntryKind.busMap ?_ (Or.inl rfl)
        rw [SmallMmu.setReg_maps]
        exact hm
      · rw [SmallMmu.setReg_maps]
        exact hm
  refine hwrites _ ?_
  have hatt : EntryKind ((mmuAttached g r).maps k) := by
    have hcoh : (mmuAttached g r).Coherent (k / 32) := by
      unfold mmuAttached SmallMmu.reset
      exact SmallMmu.resetSlots_coherent (malloc_free g r) (by omega) _
        (Or.inr (List.mem_range.mpr (by change k / 32 < 16; omega)))
    have hentry := hcoh (k % 32) (Nat.mod_lt k (by decide))
    rw [Nat.div_add_mod] at hentry
    rw [hentry]
    exact Or.inl rfl
  exact (hatt.busMap (Or.inr (Or.inl rfl))).busMap (Or.inr (Or.inr rfl))

end Eon2

namespace Wpc

/-- Outside its own window, the RAM device is mapped for reading only. -/
def EntryKind (k : Nat) (e : BusMap) : Prop := e.devid = 2 → k < 64 ∨ e.flags = MAP_READABLE

lemma EntryKind.busMap {m : Busmaps} {k : Nat} (hm : EntryKind k (m k)) {addr d : Unsigned}
    {offset : BitVec 64} {len : Unsigned} {flags : U8} (h : d ≠ 2 ∨ flags = MAP_READABLE) :
    EntryKind k (Exec09.busMap addr d offset len flags m k) := by
  rcases busMap_entry addr d offset len flags m k with he | ⟨hd, hf⟩
  · rw [he]
    exact hm
  · intro h2
    rw [hf]
    exact h.elim (fun hne => absurd (hd.symm.trans h2) hne) Or.inr

lemma EntryKind.updateRam (asic : WpcAsic) {m : Busmaps} (hf : ∀ k, (m k).fixed = false) {k : Nat}
    (hm : EntryKind k (m k)) : EntryKind k ((updateRam ⟨asic, m⟩).maps k) := by
  rw [updateRam_apply asic hf]
  split
  · rename_i hk
    exact fun _ => Or.inl hk
  · exact hm

lemma entryKind (l : List RegWrite) (k : Nat) : EntryKind k ((after l).maps k) := by
  induction l using List.reverseRecOn with
  | nil =>
    change EntryKind k (init.maps k)
    rw [init_eq]
    refine EntryKind.updateRam _ attached_free ?_
    have hram : EntryKind k (busMap 0x0000 2 0 0x2000 MAP_READWRITE
        (busMap 0x3c00 1 0 0x400 MAP_READWRITE unmapped) k) := by
      rw [aligned_ram.apply]
      split
      · rename_i h
        exact fun _ => Or.inl (by omega)
      · refine EntryKind.busMap (fun h => ?_) (Or.inl (by decide))
        exact absurd (show (INVALID_DEVID.setWidth 32 : Unsigned) = 2 from h) (by decide)
    exact ((hram.busMap (Or.inl (by decide))).busMap (Or.inl (by decide))).busMap
      (Or.inl (by decide))
  | append_singleton l x ih =>
    rw [after_snoc, write_maps]
    split
    · exact ih.busMap (Or.inl (by decide))
    · exact ih.busMap (Or.inl (by decide))
    · exact ih.busMap (Or.inr rfl)
    · exact EntryKind.updateRam _ (after_free l) ih
    · exact EntryKind.updateRam _ (after_free l) ih
    · exact ih

end Wpc

/-! ## Writes that return -/

namespace Model

variable {δ : Type} [Host δ]

/-- The bus maps are ones the machine can get to. -/
def Reachable {ι : Type} (m : Model) (b : Bus ι) : Prop := ∃ c : Config, c.model = m ∧ c.Holds b

lemma Reachable.devices {ι : Type} {m : Model} {b : Bus ι} (h : m.Reachable b) :
    b.deviceTable = m.devices := by
  obtain ⟨c, rfl, hb⟩ := h
  rw [hb.devices, c.devices_eq]

/-- A device whose writes work no interrupt line. -/
def OnlySignals (δ ρ : Type) [Host δ] [Devices ρ δ] : Prop :=
  ∀ v (b : Bus (Io ρ δ)) dev phy val, ∃ l : List Signal,
    (Devices.write v b dev phy val).effects = l.map .signal

lemma consoleWrite_signals (addr : BitVec 64) (val : U8) (h : δ) :
    ∃ l : List Signal, (consoleWrite addr val h).effects = l.map .signal := by
  unfold consoleWrite
  split_ifs
  · exact ⟨[], rfl⟩
  · exact ⟨[.exit val], rfl⟩
  · exact ⟨[], rfl⟩

lemma onlySignals_simple : OnlySignals δ Simple :=
  fun _ b _ phy val => consoleWrite_signals phy val b.io.host

lemma onlySignals_eon : OnlySignals δ Eon := by
  intro v b dev phy val
  simp only [Devices.write]
  split
  · exact ⟨[], rfl⟩
  · exact consoleWrite_signals phy val b.io.host
  · exact ⟨[], rfl⟩

lemma onlySignals_wpc : OnlySignals δ WpcAsic := by
  intro v b dev phy val
  refine ⟨[], ?_⟩
  simp only [Devices.write]
  split_ifs <;> rfl

/-- On the EON2 a read-only entry does not lead to an I/O device. -/
lemma eon2_readOnly {ι : Type} {b : Bus ι} (hb : Reachable .eon2 b) {a : Unsigned}
    (ha : a.toNat < MAX_CPU_ADDR) (hro : b.ReadOnly a) : b.MemoryAt a := by
  obtain ⟨c, hc, hb⟩ := hb
  cases c with
  | simple => cases hc
  | eon l => cases hc
  | wpc l => cases hc
  | eon2 g r l =>
    by_cases hans : b.Answers a
    · have hdev : b.device a = (b.findMap a).devid.toNat :=
        (hans.device_eq hb ha).trans (Bus.toAbsolute_decode hb ha).1
      have hkind : Eon2.EntryKind (b.findMap a) := by
        rw [Bus.findMap, hb.maps]
        refine Eon2.entryKind g r l ?_
        have ha' : a.toNat < 65536 := ha
        change a.toNat / 128 < 512
        omega
      rw [Bus.MemoryAt, Bus.cls, hb.devices, hdev]
      rcases hkind with h1 | h3 | hrw
      · rw [h1]
        exact show ((Eon2.devices[1]?.map HwDevice.cls).getD .null) ≠ .io by decide
      · rw [h3]
        exact show ((Eon2.devices[3]?.map HwDevice.cls).getD .null) ≠ .io by decide
      · rw [Bus.ReadOnly, hrw] at hro
        exact absurd hro (by decide)
    · exact Bus.memoryAt_of_not_answers hb hans

/-- A write through a read-only entry works no interrupt line. -/
lemma cpuWrite8_effects (m : Model) {b : Bus (Io m.Regs δ)} (hb : m.Reachable b) (v : View)
    {a : Unsigned} (ha : a.toNat < MAX_CPU_ADDR) (hro : b.ReadOnly a) (val : U8) :
    ∃ l : List Signal, (b.cpuWrite8 v a val).effects =
      (b.faults v a MAP_WRITABLE .notWritable ++ l).map .signal := by
  have hdev : ∃ l : List Signal,
      (b.devWrite v (b.device a) (b.phyAddr a) val).effects = l.map .signal := by
    unfold Bus.devWrite
    cases hc : b.cls (b.device a) with
    | null => exact ⟨[], rfl⟩
    | ram => exact ⟨[], rfl⟩
    | rom => exact ⟨[], rfl⟩
    | io =>
      have hsig : m = .eon2 ∨ OnlySignals δ m.Regs := by
        cases m with
        | simple => exact Or.inr onlySignals_simple
        | eon => exact Or.inr onlySignals_eon
        | eon2 => exact Or.inl rfl
        | wpc => exact Or.inr onlySignals_wpc
      rcases hsig with hm | hsig
      · exact absurd hc (eon2_readOnly (hm ▸ hb) ha hro)
      · exact hsig v b _ _ val
  obtain ⟨l, hl⟩ := hdev
  refine ⟨l ++ (Board.writeHook v (b.devWrite v (b.device a) (b.phyAddr a) val).world
    (b.toAbsolute a) val).signals, ?_⟩
  simp only [Bus.cpuWrite8, hl, List.map_append, List.append_assoc]

/-- A write through a read-only entry that returns, and whose fault did not. -/
lemma wrmem_readOnly (m : Model) {s t : Cpu (Bus (Io m.Regs δ))} (hb : m.Reachable s.world)
    (hrun : s.world.systemRunning = true) {a data : Unsigned} (ha : a.toNat < MAX_CPU_ADDR)
    (hro : s.world.ReadOnly a) (h : wrmem a data s = .ok ((), t)) :
    ¬m.FaultExits δ ∧ t.world = (s.world.cpuWrite8 s.view a (data.setWidth 8)).world := by
  obtain ⟨l, hl⟩ := m.cpuWrite8_effects hb s.view ha hro (data.setWidth 8)
  rw [wrmem, writeN] at h
  obtain ⟨r, u, hu, h⟩ := bind_eq_ok.mp h
  cases hu
  have heff : (Machine.write8 s.view s.world a (data.setWidth 8)).effects = _ := hl
  rw [heff, forM_signal] at h
  obtain ⟨on, n, ht⟩ := signals_eq_ok h
  rw [List.forM_eq_forM, List.forM_append] at h
  obtain ⟨_, u, hu, -⟩ := bind_eq_ok.mp h
  exact ⟨(m.faults_return_iff s.view hrun hro _).mp ⟨u, hu⟩, by rw [ht]; rfl⟩

/-! ## Runs of a guest -/

/-- An access of the guest that returns.  Where it writes through a read-only entry or to a ROM
device, the write is harmless. -/
inductive GuestStep (m : Model) : Bus (Io m.Regs δ) → Bus (Io m.Regs δ) → Prop
  | read8 (v : View) (b : Bus (Io m.Regs δ)) (a : Unsigned) : GuestStep m b (b.cpuRead8 v a).world
  | read16 (v : View) (b : Bus (Io m.Regs δ)) (a : Unsigned) :
      GuestStep m b (b.cpuRead16 v a).world
  | write8 (v : View) (b : Bus (Io m.Regs δ)) (a : Unsigned) (val : U8)
      (ha : a.toNat < MAX_CPU_ADDR) (returns : b.ReadOnly a → ¬m.FaultExits δ)
      (harmless : b.ReadOnly a ∨ b.cls (b.device a) = .rom → m.Harmless b a val) :
      GuestStep m b (b.cpuWrite8 v a val).world

lemma devRead_keeps (m : Model) (v : View) (b : Bus (Io m.Regs δ)) (dev : Nat) (phy : BitVec 64) :
    (b.devRead v dev phy).world.priv = b.priv ∧
      (b.devRead v dev phy).world.deviceTable = b.deviceTable := by
  unfold Bus.devRead
  cases b.cls dev with
  | null => exact ⟨rfl, rfl⟩
  | ram => exact ⟨rfl, rfl⟩
  | rom => exact ⟨rfl, rfl⟩
  | io => exact ⟨m.onlyTransfers.read_priv b dev phy, m.onlyTransfers.read_table b dev phy⟩

lemma devWrite_table (m : Model) (v : View) (b : Bus (Io m.Regs δ)) (dev : Nat) (phy : BitVec 64)
    (val : U8) : (b.devWrite v dev phy val).world.deviceTable = b.deviceTable := by
  unfold Bus.devWrite
  cases b.cls dev with
  | null => rfl
  | ram => rfl
  | rom => rfl
  | io => exact m.onlyTransfers.write_table v b dev phy val

/-- A step of the guest leaves the device table and the ROM devices alone. -/
lemma GuestStep.keeps {m : Model} {b b' : Bus (Io m.Regs δ)} (h : m.GuestStep b b')
    (hd : b.deviceTable = m.devices) :
    b'.deviceTable = m.devices ∧ ∀ dev, b.cls dev = .rom → b'.priv dev = b.priv dev := by
  cases h with
  | read8 v _ a =>
    have hk := m.devRead_keeps v (b.hooked v a).world (b.device a) (b.phyAddr a)
    exact ⟨hk.2.trans hd, fun dev _ => congrFun hk.1 dev⟩
  | read16 v _ a =>
    have hk := m.devRead_keeps v (b.hooked v a).world (b.device a) (b.phyAddr a)
    have hk' := m.devRead_keeps v ((b.hooked v a).world.devRead v (b.device a) (b.phyAddr a)).world
      (b.device a) (b.phyAddr a + 1)
    exact ⟨(hk'.2.trans hk.2).trans hd, fun dev _ => congrFun (hk'.1.trans hk.1) dev⟩
  | write8 v _ a val _ _ harmless =>
    refine ⟨(m.devWrite_table v b _ _ val).trans hd, fun dev hrom => ?_⟩
    by_cases hh : m.Harmless b a val
    · exact congrFun ((m.cpuWrite8_priv_eq_iff hd v a val).mpr hh) dev
    · -- the write goes to RAM or to the RAM of a disk
      have hne : b.cls (b.device a) ≠ .rom := fun hr => hh (harmless (Or.inr hr))
      change (b.devWrite v (b.device a) (b.phyAddr a) val).world.priv dev = b.priv dev
      cases hc : b.cls (b.device a) with
      | null => rw [Bus.devWrite, hc]
      | ram =>
        have hdev : dev ≠ b.device a := fun he => by rw [he, hc] at hrom; cases hrom
        rw [Bus.devWrite, hc]
        funext p
        exact if_neg fun h => hdev h.1
      | rom => exact absurd hc hne
      | io =>
        rw [m.devWrite_io hd v hc]
        cases ht : m.transfer b.io.dev (b.device a) (b.phyAddr a) val with
        | none => rfl
        | some x =>
          obtain ⟨d, ram⟩ := x
          have hram := m.onlyTransfers.transfer_ram (δ := δ) _ _ _ _ _ _ ht
          have hdev : dev ≠ ram := by
            intro he
            rw [he, Bus.cls, hd, hram] at hrom
            cases hrom
          exact if_neg hdev

/-- In a run of such steps the ROM devices do not change. -/
lemma guest_keeps_rom {m : Model} {b b' : Bus (Io m.Regs δ)} (hd : b.deviceTable = m.devices)
    (h : Relation.ReflTransGen m.GuestStep b b') :
    b'.deviceTable = m.devices ∧ ∀ dev, b.cls dev = .rom → b'.priv dev = b.priv dev := by
  induction h with
  | refl => exact ⟨hd, fun _ _ => rfl⟩
  | tail _ hstep ih =>
    obtain ⟨hd', hrom'⟩ := hstep.keeps ih.1
    refine ⟨hd', fun dev hrom => (hrom' dev ?_).trans (ih.2 dev hrom)⟩
    rw [Bus.cls, ih.1, ← hd]
    exact hrom

/-- A byte of the WPC's RAM that is locked at the moment. -/
def Locked {ι : Type} (b : Bus ι) (off : Nat) : Prop :=
  off < 0x2000 ∧ b.ReadOnly (BitVec.ofNat 32 off)

/-- The only writable address of a byte of the WPC's RAM is its own. -/
lemma wpc_ram_alias {ι : Type} {b : Bus ι} (hb : Reachable .wpc b) {a : Unsigned}
    (ha : a.toNat < MAX_CPU_ADDR) (hrw : ¬b.ReadOnly a) (hdev : b.device a = Wpc.ramDev) :
    a.toNat < 0x2000 ∧ b.phyAddr a = BitVec.ofNat 64 a.toNat := by
  obtain ⟨c, hc, hb⟩ := hb
  cases c with
  | simple => cases hc
  | eon l => cases hc
  | eon2 g r l => cases hc
  | wpc l =>
    have hans : b.Answers a := by
      by_contra hno
      have h0 : b.device a = 0 := if_pos (Bool.not_eq_false _ ▸ hno)
      rw [h0] at hdev
      exact absurd hdev (by decide)
    have hid : (b.findMap a).devid = 2 := by
      have hnum := (hans.device_eq hb ha).trans (Bus.toAbsolute_decode hb ha).1
      exact BitVec.eq_of_toNat_eq (hnum.symm.trans hdev)
    have hkind : Wpc.EntryKind (a.toNat / BUS_MAP_SIZE) (b.findMap a) := by
      rw [Bus.findMap, hb.maps]
      exact Wpc.entryKind l _
    have hk : a.toNat / BUS_MAP_SIZE < 64 := by
      refine (hkind hid).resolve_right fun hf => hrw ?_
      rw [Bus.ReadOnly, hf]
      decide
    have ha' : a.toNat < 0x2000 := by
      change a.toNat / 128 < 64 at hk
      omega
    refine ⟨ha', ?_⟩
    have hloc := (Wpc.locate_ram hb ha').2
    rwa [BitVec.ofNat_toNat, BitVec.setWidth_eq] at hloc

/-- A step of the guest leaves the locked bytes of the RAM alone. -/
lemma GuestStep.keeps_locked {b b' : Bus (Io (Regs .wpc) δ)} (h : GuestStep .wpc b b')
    (hb : Reachable .wpc b) {off : Nat} (hl : Locked b off) :
    b'.priv Wpc.ramDev (BitVec.ofNat 64 off) = b.priv Wpc.ramDev (BitVec.ofNat 64 off) := by
  cases h with
  | read8 v _ a =>
    have hk := devRead_keeps .wpc v (b.hooked v a).world (b.device a) (b.phyAddr a)
    exact congrFun (congrFun hk.1 _) _
  | read16 v _ a =>
    have hk := devRead_keeps .wpc v (b.hooked v a).world (b.device a) (b.phyAddr a)
    have hk' := devRead_keeps .wpc v
      ((b.hooked v a).world.devRead v (b.device a) (b.phyAddr a)).world (b.device a)
      (b.phyAddr a + 1)
    exact congrFun (congrFun (hk'.1.trans hk.1) _) _
  | write8 v _ a val ha _ harmless =>
    by_cases hh : Harmless .wpc b a val
    · have hpriv := (cpuWrite8_priv_eq_iff .wpc hb.devices v a val).mpr hh
      exact congrFun (congrFun hpriv _) _
    · have hrw : ¬b.ReadOnly a := fun hro => hh (harmless (Or.inl hro))
      change (b.devWrite v (b.device a) (b.phyAddr a) val).world.priv _ _ = _
      have hother : ¬(Wpc.ramDev = b.device a ∧ BitVec.ofNat 64 off = b.phyAddr a) := by
        rintro ⟨hdev, hphy⟩
        obtain ⟨ha', hloc⟩ := wpc_ram_alias hb ha hrw hdev.symm
        have hnum := congrArg BitVec.toNat (hphy.trans hloc)
        rw [BitVec.toNat_ofNat, BitVec.toNat_ofNat] at hnum
        have hoff := hl.1
        have hsame : BitVec.ofNat 32 off = a := by
          apply BitVec.eq_of_toNat_eq
          rw [BitVec.toNat_ofNat]
          omega
        exact hrw (hsame ▸ hl.2)
      cases hc : b.cls (b.device a) with
      | null => rw [Bus.devWrite, hc]
      | ram =>
        rw [Bus.devWrite, hc]
        exact if_neg hother
      | rom =>
        rw [Bus.devWrite, hc]
        exact if_neg hother
      | io =>
        rw [devWrite_io .wpc hb.devices v hc]
        rfl

/-- A run of the guest during which a byte of the WPC's RAM stays locked. -/
def LockedRun (off : Nat) : Bus (Io (Regs .wpc) δ) → Bus (Io (Regs .wpc) δ) → Prop :=
  Relation.ReflTransGen fun b b' => Reachable .wpc b ∧ Locked b off ∧ GuestStep .wpc b b'

/-- **Write protection.**  For every machine, every bus map it can get to and every address whose
map entry lacks `MAP_WRITABLE`: `cpu_write8` leaves the memories alone if and only if the fault
handler ends the process or the write is harmless, and then no program that returns from the write
finds a memory changed.  A guest whose writes through such entries and to ROM devices are harmless
changes no ROM device in any run, and no byte of the WPC's RAM while it is locked. -/
theorem write_protection (m : Model) :
    (∀ (s : Cpu (Bus (Io m.Regs δ))) (a data : Unsigned), m.Reachable s.world →
      s.world.systemRunning = true → a.toNat < MAX_CPU_ADDR → s.world.ReadOnly a →
      (m.Protected s a data ↔ m.FaultExits δ ∨ m.Harmless s.world a (data.setWidth 8)) ∧
      (m.Protected s a data → ∀ t, wrmem a data s = .ok ((), t) →
        t.world.priv = s.world.priv)) ∧
    (∀ b b' : Bus (Io m.Regs δ), m.Reachable b → Relation.ReflTransGen m.GuestStep b b' →
      ∀ dev, b.cls dev = .rom → b'.priv dev = b.priv dev) ∧
    ∀ (b b' : Bus (Io (Regs .wpc) δ)) (off : Nat), LockedRun off b b' →
      b'.priv Wpc.ramDev (BitVec.ofNat 64 off) = b.priv Wpc.ramDev (BitVec.ofNat 64 off) := by
  refine ⟨fun s a data hb hrun ha hro => ?_, fun b b' hb h => (guest_keeps_rom hb.devices h).2,
    fun b b' off h => ?_⟩
  · have hiff := m.protected_iff s hb.devices hrun hro data
    refine ⟨hiff, fun hp t ht => ?_⟩
    obtain ⟨hret, hworld⟩ := m.wrmem_readOnly hb hrun ha hro ht
    rw [hworld]
    exact (m.cpuWrite8_priv_eq_iff hb.devices s.view a _).mpr ((hiff.mp hp).resolve_left hret)
  · induction h with
    | refl => rfl
    | tail _ hstep ih => exact (hstep.2.2.keeps_locked hstep.1 hstep.2.1).trans ih

omit [Host δ] in
/-- Storing another value in the RAM of the WPC is not harmless, locked or not. -/
lemma wpc_ram_not_harmless {l : List Wpc.RegWrite} {b : Bus (Io (Regs .wpc) δ)}
    (hb : (Config.wpc l).Holds b) {off : Nat} (hoff : off < 0x2000) {val : U8}
    (hne : b.priv Wpc.ramDev (BitVec.ofNat 64 off) ≠ val) :
    ¬Harmless .wpc b (BitVec.ofNat 32 off) val := by
  intro h
  obtain ⟨hdev, hphy⟩ := Wpc.locate_ram hb hoff
  have hbyte := h.storage (Wpc.storageAt hb hdev (by decide) (by decide))
  rw [hdev, hphy] at hbyte
  exact hne hbyte

/-- After reset the upper half of the WPC's RAM is locked. -/
lemma wpc_reset : ∃ b : Bus (Io (Regs .wpc) Bare), (Config.wpc []).Holds b ∧
    b.systemRunning = true ∧ b.ReadOnly (BitVec.ofNat 32 0x1000) ∧ b.priv = fun _ _ => 0 := by
  refine ⟨Wpc.bus (Wpc.after []) (fun _ _ => 0) (⟨⟩ : Bare), ⟨rfl, rfl⟩, rfl, ?_, rfl⟩
  change ((Wpc.after []).maps 32).flags &&& MAP_WRITABLE = 0
  decide +kernel

/-- A store to the locked RAM of the WPC is carried out. -/
theorem locked_ram_is_written :
    ¬∀ (m : Model) (s : Cpu (Bus (Io m.Regs Bare))) (a data : Unsigned), m.Reachable s.world →
      s.world.systemRunning = true → a.toNat < MAX_CPU_ADDR → s.world.ReadOnly a →
      m.Protected s a data := by
  intro h
  obtain ⟨b, hb, hrun, hro, hzero⟩ := wpc_reset
  have hp := h .wpc (Cpu.zeroed b) (BitVec.ofNat 32 0x1000) 1 ⟨_, rfl, hb⟩ hrun (by decide) hro
  rw [protected_iff .wpc (Cpu.zeroed b) hb.devices hrun hro] at hp
  refine hp.elim id (wpc_ram_not_harmless hb (by decide) ?_)
  rw [hzero]
  decide

end Model

end Exec09
