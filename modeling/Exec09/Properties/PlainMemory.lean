import Exec09.Properties.Transparency

/-!
# The bus as plain memory

What the interpreter is written for: a memory of bytes.  A program that keeps to addresses behind
which the bus has memory, with the permissions it needs and no byte at two addresses, runs on the
board as it runs on plain memory: the maps, the device table and the debugger make no difference.
Leaving these addresses ends a run on plain memory, so nothing is said of such a program.
-/

namespace Exec09

open Program

/-! ## Ideal memory -/

/-- The addresses a program keeps to. -/
structure Footprint where
  readable : Unsigned → Bool
  writable : Unsigned → Bool
  /-- Where the fast 16-bit read is used. -/
  pair : Unsigned → Bool

/-- A memory of bytes.  The machine it stands for is `τ`. -/
structure Ideal (τ : Type) where
  region : Footprint
  mem : Unsigned → U8

namespace Ideal

variable {τ : Type}

def put (w : Ideal τ) (a : Unsigned) (d : U8) : Ideal τ :=
  { w with mem := Function.update w.mem a d }

instance [Machine τ] : Machine (Ideal τ) where
  read8 _ w a := if w.region.readable a then ⟨w.mem a, w, []⟩ else ⟨0, w, [.exit 0]⟩
  read16 _ w a :=
    if w.region.pair a then ⟨w.mem a ++ w.mem (nextAddr a), w, []⟩ else ⟨0, w, [.exit 0]⟩
  write8 _ w a d := if w.region.writable a then ⟨w.put a d, []⟩ else ⟨w, [.signal (.exit 0)]⟩
  insnHook _ w := ⟨(), w, []⟩
  cpuIsRunning w := w
  debugEnabled := Machine.debugEnabled τ
  nesting := Machine.nesting τ

end Ideal

/-! ## The board behind it -/

/-- A board whose hooks only ask for a session. -/
class SilentHooks (ι : Type) [Board ι] : Prop where
  read : ∀ v (b : Bus ι) a, (Board.readHook v b a).signals.filter Signal.heard = []
  write : ∀ v (b : Bus ι) a d, (Board.writeHook v b a d).signals.filter Signal.heard = []
  insn : ∀ v (b : Bus ι), (Board.insnHook v b).signals.filter Signal.heard = []

instance {ρ δ : Type} [Host δ] [Devices ρ (DebugHost δ)] : SilentHooks (Io ρ (DebugHost δ)) where
  read _ _ _ := DebugHost.call_silent _ _
  write _ _ _ _ := DebugHost.call_silent _ _
  insn _ _ := DebugHost.call_silent _ _

namespace Bus

variable {ι : Type}

/-- The bus has memory behind the region. -/
structure Backs (b : Bus ι) (r : Footprint) : Prop where
  readable : ∀ a, r.readable a →
    b.MemoryAt a ∧ b.Answers a ∧ (b.findMap a).flags &&& MAP_READABLE ≠ 0
  writable : ∀ a, r.writable a → b.StorageAt a ∧ b.Answers a ∧ ¬b.ReadOnly a
  /-- Nothing but the address itself shows a byte that can be written. -/
  apart : ∀ a a', r.writable a → r.readable a' → b.device a' = b.device a →
    b.phyAddr a' = b.phyAddr a → a' = a
  pair : ∀ a, r.pair a → r.readable a ∧ r.readable (nextAddr a) ∧ b.Continues a (nextAddr a)

/-- The memory behind the region holds these bytes. -/
structure Shows (w : Ideal (Bus ι)) (b : Bus ι) : Prop where
  backs : b.Backs w.region
  mem : ∀ a, w.region.readable a → b.byteOf (b.device a) (b.phyAddr a) = w.mem a

variable {w : Ideal (Bus ι)} {b : Bus ι}

/-- What a hook does to the rest of the board is not seen. -/
lemma Shows.setIo (h : Shows w b) (x : ι) : Shows w { b with io := x } :=
  ⟨⟨h.backs.readable, h.backs.writable, h.backs.apart, h.backs.pair⟩, h.mem⟩

lemma Shows.store (h : Shows w b) {a : Unsigned} (ha : w.region.writable a) (d : U8) :
    Shows (w.put a d) (b.store (b.device a) (b.phyAddr a) d) := by
  obtain ⟨hst, -, -⟩ := h.backs.writable a ha
  refine ⟨⟨h.backs.readable, h.backs.writable, h.backs.apart, h.backs.pair⟩, fun a' ha' => ?_⟩
  change (if b.cls (b.device a') = .null then 0xff
    else (b.store (b.device a) (b.phyAddr a) d).priv (b.device a') (b.phyAddr a')) =
      Function.update w.mem a d a'
  by_cases haa : a' = a
  · subst haa
    have hcls : b.cls (b.device a') ≠ .null := by
      rcases hst with hc | hc <;> simp [hc]
    rw [if_neg hcls, Function.update_self]
    exact if_pos ⟨rfl, rfl⟩
  · have hother : (b.store (b.device a) (b.phyAddr a) d).priv (b.device a') (b.phyAddr a') =
        b.priv (b.device a') (b.phyAddr a') :=
      if_neg fun hp => haa (h.backs.apart a a' ha ha' hp.1 hp.2)
    rw [hother, Function.update_of_ne haa]
    exact h.mem a' ha'

variable [Board ι]

lemma faults_eq_nil {v : View} {a : Unsigned} {flag : U8} {type : Fault} (h : b.Answers a)
    (hf : (b.findMap a).flags &&& flag ≠ 0) : b.faults v a flag type = [] := by
  have hans : b.noResponse (b.findMap a).devid = false := h
  rw [faults, hans, if_neg hf]
  rfl

variable [SilentHooks ι]

lemma hooked_silent (v : View) (b : Bus ι) (a : Unsigned) :
    (b.hooked v a).signals.filter Signal.heard = [] := SilentHooks.read _ _ _

lemma Shows.read8 (h : Shows w b) (v : View) (a : Unsigned) :
    SameReply False Shows (Machine.read8 v w a) (b.cpuRead8 v a) := by
  by_cases ha : w.region.readable a
  · obtain ⟨hm, hans, hflag⟩ := h.backs.readable a ha
    refine .inr ?_
    rw [cpuRead8_memory v hm, faults_eq_nil hans hflag]
    change (_ = (if w.region.readable a then _ else _ : Reply (Ideal (Bus ι)) U8).val) ∧
      Shows (if w.region.readable a then _ else _ : Reply (Ideal (Bus ι)) U8).world _ ∧
      _ = (if w.region.readable a then _ else _ : Reply (Ideal (Bus ι)) U8).signals.filter _
    rw [if_pos ha]
    exact ⟨h.mem a ha, h.setIo _, hooked_silent v b a⟩
  · refine .inl ⟨id, 0, ?_⟩
    change _ ∈ (if w.region.readable a then _ else _ : Reply (Ideal (Bus ι)) U8).signals
    rw [if_neg ha]
    exact List.mem_singleton_self _

lemma Shows.read16 (h : Shows w b) (v : View) (a : Unsigned) :
    SameReply False Shows (Machine.read16 v w a) (b.cpuRead16 v a) := by
  by_cases ha : w.region.pair a
  · obtain ⟨hr, hr', hc⟩ := h.backs.pair a ha
    obtain ⟨hm, hans, hflag⟩ := h.backs.readable a hr
    refine .inr ?_
    rw [cpuRead16_memory v hm, faults_eq_nil hans hflag, ← hc.byteOf_eq, h.mem a hr, h.mem _ hr']
    change (_ = (if w.region.pair a then _ else _ : Reply (Ideal (Bus ι)) U16).val) ∧
      Shows (if w.region.pair a then _ else _ : Reply (Ideal (Bus ι)) U16).world _ ∧
      _ = (if w.region.pair a then _ else _ : Reply (Ideal (Bus ι)) U16).signals.filter _
    rw [if_pos ha]
    exact ⟨rfl, h.setIo _, hooked_silent v b a⟩
  · refine .inl ⟨id, 0, ?_⟩
    change _ ∈ (if w.region.pair a then _ else _ : Reply (Ideal (Bus ι)) U16).signals
    rw [if_neg ha]
    exact List.mem_singleton_self _

lemma Shows.write8 (h : Shows w b) (v : View) (a : Unsigned) (d : U8) :
    SameWrite False Shows (Machine.write8 v w a d) (b.cpuWrite8 v a d) := by
  by_cases ha : w.region.writable a
  · obtain ⟨hst, hans, hrw⟩ := h.backs.writable a ha
    have hw : b.devWrite v (b.device a) (b.phyAddr a) d =
        ⟨b.store (b.device a) (b.phyAddr a) d, []⟩ := by
      rcases hst with hc | hc <;> simp [devWrite, hc]
    refine .inr ?_
    simp only [cpuWrite8, hw, faults_eq_nil hans hrw]
    change Shows (if w.region.writable a then _ else _ : WriteReply (Ideal (Bus ι))).world _ ∧
      _ = (if w.region.writable a then _ else _ : WriteReply (Ideal (Bus ι))).effects.filter _
    rw [if_pos ha]
    refine ⟨(h.store ha d).setIo _, ?_⟩
    rw [List.map_nil, List.nil_append, List.nil_append, filter_map_signal, SilentHooks.write]
    rfl
  · refine .inl ⟨id, 0, ?_⟩
    change _ ∈ (if w.region.writable a then _ else _ : WriteReply (Ideal (Bus ι))).effects
    rw [if_neg ha]
    exact List.mem_singleton_self _

/-- **The bus is plain memory** to a program that keeps to the region. -/
lemma simulates_plain : Simulates False (Shows (ι := ι)) where
  read8 v _ _ a h := h.read8 v a
  read16 v _ _ a h := h.read16 v a
  write8 v _ _ a d h := h.write8 v a d
  insnHook v _ b h := .inr ⟨rfl, h.setIo _, SilentHooks.insn v b⟩
  cpuIsRunning _ _ h :=
    ⟨⟨h.backs.readable, h.backs.writable, h.backs.apart, h.backs.pair⟩, h.mem⟩
  debugEnabled := rfl
  nesting := rfl

/-! ## Runs -/

omit [Board ι] [SilentHooks ι] in
/-- A session that changes neither the processor nor the memory of the region, and goes on. -/
def LeavesAlone (session : M (Bus ι) Bool) : Prop :=
  ∀ t, ∃ u, session t = .ok (false, u) ∧ u.proper = t.proper ∧
    ∀ w, Shows w t.world → Shows w u.world

omit [Board ι] [SilentHooks ι] in
lemma LeavesAlone.follows {session : M (Bus ι) Bool} (h : LeavesAlone session) :
    Follows False (InStep Shows) (whenMonitored (pure false)) (whenMonitored session) := by
  intro s t hst
  rw [whenMonitored_pure]
  by_cases hon : t.monitorOn = true
  · rw [whenMonitored_on _ hon]
    obtain ⟨u, hu, hproper, hshows⟩ := h t
    refine ⟨fun a s' hs' => ?_, fun hx => hx.elim⟩
    cases hs'
    exact ⟨u, hu, hproper.trans hst.proper, hshows _ hst.world⟩
  · rw [whenMonitored_off _ hon]
    exact Follows.pure false s t hst

/-- **Programs run on the board as on plain memory.**  When the loop of `main` returns on plain
memory, it does on the board, with the same registers and with the same bytes in the region. -/
theorem mainLoop_as_plain {session : M (Bus ι) Bool} (hm : LeavesAlone session) (fuel : Nat)
    {l : List (Int × List (Action (Ideal (Bus ι))))} {l' : List (Int × List (Action (Bus ι)))}
    (hl : List.Forall₂ (fun x y => y.1 = x.1 ∧ List.Forall₂ (SameAction (InStep Shows)) x.2 y.2) l l')
    {s : Cpu (Ideal (Bus ι))} {t : Cpu (Bus ι)} (hp : t.proper = s.proper)
    (hs : Shows s.world t.world) {r : Option Unit} {s' : Cpu (Ideal (Bus ι))}
    (h : mainLoop (pure false) fuel l s = .ok (r, s')) :
    ∃ t', mainLoop session fuel l' t = .ok (r, t') ∧ t'.proper = s'.proper ∧
      Shows s'.world t'.world := by
  have calls : SameCalls False (InStep (Shows (ι := ι))) := simulates_plain.sameCalls
  obtain ⟨t', ht', hst⟩ := (follows_mainLoop hm.follows fuel hl s t ⟨hp, hs⟩).1 r s' h
  exact ⟨t', ht', hst.proper, hst.world⟩

end Bus

/-! ## The simple machine -/

namespace Simple

/-- All addresses but those of the console. -/
def ram : Footprint where
  readable a := a.toNat < 0xff00 ∨ 0xff80 ≤ a.toNat ∧ a.toNat < 0x10000
  writable a := a.toNat < 0xff00 ∨ 0xff80 ≤ a.toNat ∧ a.toNat < 0x10000
  pair a := a.toNat + 1 < 0xff00 ∨ 0xff80 ≤ a.toNat ∧ a.toNat + 1 < 0x10000

lemma maps_apply {k : Nat} (hk : k < 512) :
    maps k = if k = 510 then ⟨2, 0, MAP_READWRITE⟩
      else ⟨1, BitVec.ofNat 64 (BUS_MAP_SIZE * k), MAP_READWRITE⟩ := by
  have hram : Aligned 0x0000 0x10000 0 MAP_READWRITE 0 512 := by constructor <;> decide
  have hcon : Aligned 0xff00 0x80 0 MAP_READWRITE 510 1 := by constructor <;> decide
  have hfree : (busMap 0x0000 1 0 0x10000 MAP_READWRITE unmapped k).fixed = false :=
    (hram.fixed unmapped k).trans (unmapped_free k)
  rw [maps, hcon.apply_free hfree, hram.inside (Nat.zero_le k) (by omega) (unmapped_free k)]
  by_cases h : k = 510
  · subst h
    rfl
  · rw [if_neg h, if_neg (by omega), Nat.sub_zero]
    exact congrArg (BusMap.mk 1 · MAP_READWRITE) (BitVec.zero_add _)

section

variable {ι : Type} {b : Bus ι} (hb : Config.simple.Holds b)
include hb

/-- Outside the console an address is its own offset in the RAM. -/
lemma findMap_ram {a : Unsigned} (ha : ram.readable a) :
    b.findMap a = ⟨1, BitVec.ofNat 64 (BUS_MAP_SIZE * (a.toNat / BUS_MAP_SIZE)), MAP_READWRITE⟩ := by
  have ha' : a.toNat < 0xff00 ∨ 0xff80 ≤ a.toNat ∧ a.toNat < 0x10000 := of_decide_eq_true ha
  have hk : a.toNat / 128 < 512 := by omega
  have hne : a.toNat / 128 ≠ 510 := by omega
  rw [Bus.findMap, hb.maps]
  exact (maps_apply hk).trans (if_neg hne)

lemma device_ram {a : Unsigned} (ha : ram.readable a) : b.device a = 1 := by
  rw [Bus.device, findMap_ram hb ha, Bus.findDevice, Bus.noResponse, hb.devices]
  rfl

lemma phyAddr_ram {a : Unsigned} (ha : ram.readable a) :
    b.phyAddr a = BitVec.ofNat 64 a.toNat := by
  rw [Bus.phyAddr, findMap_ram hb ha, ← BitVec.ofNat_add, Nat.div_add_mod]

lemma storageAt_ram {a : Unsigned} (ha : ram.readable a) : b.StorageAt a := by
  refine .inl ?_
  rw [device_ram hb ha, Bus.cls, hb.devices]
  rfl

lemma answers_ram {a : Unsigned} (ha : ram.readable a) : b.Answers a := by
  rw [Bus.Answers, Bus.noResponse, findMap_ram hb ha, hb.devices]
  rfl

/-- The simple machine is plain memory, but for its console. -/
lemma backs : b.Backs ram where
  readable a ha := by
    refine ⟨(storageAt_ram hb ha).memoryAt, answers_ram hb ha, ?_⟩
    rw [findMap_ram hb ha]
    exact (by decide : MAP_READWRITE &&& MAP_READABLE ≠ 0)
  writable a ha := by
    refine ⟨storageAt_ram hb ha, answers_ram hb ha, ?_⟩
    rw [Bus.ReadOnly, findMap_ram hb ha]
    exact (by decide : ¬MAP_READWRITE &&& MAP_WRITABLE = 0)
  apart a a' ha ha' _ hp := by
    rw [phyAddr_ram hb ha, phyAddr_ram hb ha'] at hp
    have hn := congrArg BitVec.toNat hp
    rw [BitVec.toNat_ofNat, BitVec.toNat_ofNat] at hn
    have h := a.isLt
    have h' := a'.isLt
    exact BitVec.eq_of_toNat_eq (by omega)
  pair a ha := by
    have ha' : a.toNat + 1 < 0xff00 ∨ 0xff80 ≤ a.toNat ∧ a.toNat + 1 < 0x10000 :=
      of_decide_eq_true ha
    have hnext : (nextAddr a).toNat = a.toNat + 1 := by
      rw [nextAddr_toNat]
      omega
    have hr : ram.readable a := decide_eq_true (by omega)
    have hr' : ram.readable (nextAddr a) := decide_eq_true (by omega)
    refine ⟨hr, hr', .inr ⟨?_, ?_⟩⟩
    · rw [device_ram hb hr, device_ram hb hr']
    · rw [phyAddr_ram hb hr, phyAddr_ram hb hr', hnext, BitVec.ofNat_add]
      rfl

end

end Simple

/-- The memory of the simple machine with a branch to itself. -/
def branchMemory : Ideal (Bus (Io (Model.Regs .simple) (DebugHost Bare))) :=
  ⟨Simple.ram, fun a => if a = 0 then 0x20 else if a = 1 then 0xfe else 0⟩

lemma shows_watched : Bus.Shows branchMemory watched.world where
  backs := Simple.backs ⟨rfl, rfl⟩
  mem a ha := by
    have hb : Config.simple.Holds watched.world := ⟨rfl, rfl⟩
    have hlt := a.isLt
    rw [(Simple.storageAt_ram hb ha).byteOf, Simple.phyAddr_ram hb ha]
    change (if BitVec.ofNat 64 a.toNat = 0 then (0x20 : U8)
      else if BitVec.ofNat 64 a.toNat = 1 then 0xfe else 0) =
        if a = 0 then 0x20 else if a = 1 then 0xfe else 0
    have heq (n : Nat) (hn : n < 2 ^ 32) :
        BitVec.ofNat 64 a.toNat = BitVec.ofNat 64 n ↔ a = BitVec.ofNat 32 n := by
      rw [← BitVec.toNat_inj, ← BitVec.toNat_inj]
      simp only [BitVec.toNat_ofNat]
      omega
    simp only [show (0 : BitVec 64) = BitVec.ofNat 64 0 from rfl,
      show (1 : BitVec 64) = BitVec.ofNat 64 1 from rfl, heq 0 (by decide), heq 1 (by decide)]
    rfl

/-- The program with the breakpoint, and an interrupt between its slices. -/
theorem mainLoop_as_plain_watched :
    ∃ t', mainLoop goOn 3 (slices _) watched = .ok (some (), t') ∧ t'.PC = 0 ∧ t'.S = 0xfff4 := by
  have hrun : mainLoop (pure false) 3 (slices _) (Cpu.zeroed branchMemory) =
      .ok (some (), after (mainLoop (pure false) 3 (slices _)) (Cpu.zeroed branchMemory)) :=
    eq_ok_after (by decide +kernel)
  obtain ⟨t', ht', hp, -⟩ := Bus.mainLoop_as_plain
    (fun t => ⟨{ t with monitorOn := false }, rfl, rfl, fun _ h => h⟩) 3 (sameSlices (InStep Bus.Shows))
    rfl shows_watched hrun
  refine ⟨t', ht', ?_, ?_⟩
  · exact (congrArg Cpu.PC hp).trans (by decide +kernel)
  · exact (congrArg Cpu.S hp).trans (by decide +kernel)

end Exec09
