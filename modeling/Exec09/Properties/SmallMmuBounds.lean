import Exec09.Properties.Windows

/-!
# The bounds of the small MMU

The slot selector of the small MMU is a byte the guest stores in register 0, and the other registers
use it as an index without a check.  The accesses stay within the arrays exactly as long as the
guest selects one of the sixteen slots before it turns to registers 6 and 7.
-/

namespace Exec09

/-- The element exists. -/
def Touch.InBounds : Touch → Prop
  | .slotReg slot reg => slot < SMR_SLOTS ∧ reg < 2
  | .busmap entry => entry < NUM_BUS_MAPS

namespace SmallMmu

/-- A guest's access to a register. -/
inductive Access
  | read (addr : BitVec 64)
  | write (addr : BitVec 64) (val : U8)
  deriving DecidableEq, Repr

def Access.addr : Access → BitVec 64
  | .read addr => addr
  | .write addr _ => addr

def access (m : SmallMmu) : Access → SmallMmu
  | .read addr => (m.read addr).2
  | .write addr val => m.write 1 addr val

def run (m : SmallMmu) (l : List Access) : SmallMmu := l.foldl access m

@[simp] lemma run_nil (m : SmallMmu) : m.run [] = m := rfl

@[simp] lemma run_cons (m : SmallMmu) (x : Access) (l : List Access) :
    m.run (x :: l) = (m.access x).run l := rfl

/-- Every array element accessed so far exists. -/
def InBounds (m : SmallMmu) : Prop := ∀ t ∈ m.touched, t.InBounds

lemma InBounds.setMaps {m : SmallMmu} (h : m.InBounds) (maps : Busmaps) :
    ({ m with maps := maps } : SmallMmu).InBounds := h

lemma slot_setMaps (m : SmallMmu) (maps : Busmaps) :
    ({ m with maps := maps } : SmallMmu).slot = m.slot := rfl

/-- The slot selected after an access. -/
def Access.selects (slot : Nat) : Access → Nat
  | .read _ => slot
  | .write addr val => if addr = SMR_SLOT then val.toNat else slot

/-- Whenever one of the registers 6 and 7 is accessed, the slot selected last exists. -/
def Selects : Nat → List Access → Prop
  | _, [] => True
  | slot, x :: l => (SM_GLOBAL_REGS ≤ x.addr.toNat → slot < SMR_SLOTS) ∧ Selects (x.selects slot) l

lemma access_slot (m : SmallMmu) (x : Access) : (m.access x).slot = x.selects m.slot := by
  cases x with
  | read addr =>
    change (m.read addr).2.slot = m.slot
    unfold read
    split <;> rfl
  | write addr val =>
    change (m.write 1 addr val).slot = if addr = SMR_SLOT then val.toNat else m.slot
    by_cases ha : addr = SMR_PAGE ∨ addr = SMR_FLAGS
    · obtain ⟨heq, hslot⟩ := m.write_eq_remap val ha
      rw [heq, if_neg (by rcases ha with rfl | rfl <;> decide)]
      exact hslot
    · have heq : m.write 1 addr val = m.setReg addr val := by simp only [write, if_neg ha]
      rw [heq, setReg]
      split
      · by_cases h0 : addr = SMR_SLOT
        · subst h0
          rfl
        · rw [if_neg h0]
          have hne : ¬0 = addr.toNat := fun h => h0 (BitVec.eq_of_toNat_eq h.symm)
          change ((if 0 = addr.toNat then val else m.globalRegs 0) : U8).toNat = _
          rw [if_neg hne]
          rfl
      · rename_i hlt
        rw [if_neg fun h0 => hlt (by rw [h0]; decide)]
        rfl

/-- What an access adds to the history. -/
def touches (m : SmallMmu) : Access → List Touch
  | .read addr =>
    if addr.toNat < SM_GLOBAL_REGS then []
    else [.slotReg m.slot (addr.toNat - SM_GLOBAL_REGS)]
  | .write addr _ =>
    if addr.toNat < SM_GLOBAL_REGS then []
    else
      (if addr = SMR_PAGE ∨ addr = SMR_FLAGS then
        (List.range' (32 * m.slot) 32).map Touch.busmap ++
          [Touch.slotReg m.slot 1, Touch.slotReg m.slot 0]
      else []) ++ [.slotReg m.slot (addr.toNat - SM_GLOBAL_REGS)]

/-- Mapping a slot goes through its 32 map entries. -/
lemma busMapTouches_slot {p : Nat} (hp : p < 256) :
    busMapTouches (BitVec.ofNat 32 (p * SMR_PAGESIZE)) (BitVec.ofNat 32 SMR_PAGESIZE) =
      (List.range' (32 * p) 32).map Touch.busmap := by
  have ha : (BitVec.ofNat 32 (p * SMR_PAGESIZE)).toNat = 32 * p * 128 := by
    change p * 4096 % 2 ^ 32 = 32 * p * 128
    omega
  have hr : roundUp (BitVec.ofNat 32 (p * SMR_PAGESIZE)) = BitVec.ofNat 32 (p * SMR_PAGESIZE) :=
    roundUp_of_aligned _ (by decide) (by rw [ha]; exact Nat.mul_mod_left _ _)
  have hs : (BitVec.ofNat 32 (p * SMR_PAGESIZE)).toNat / BUS_MAP_SIZE = 32 * p := by
    rw [ha]
    exact Nat.mul_div_cancel _ (by decide)
  have hl : (roundUp (BitVec.ofNat 32 SMR_PAGESIZE)).toNat / BUS_MAP_SIZE = 32 := by decide
  rw [busMapTouches, hr, hs, hl]

lemma access_touched (m : SmallMmu) (x : Access) :
    (m.access x).touched = m.touches x ++ m.touched := by
  cases x with
  | read addr =>
    by_cases h : addr.toNat < SM_GLOBAL_REGS
    · simp only [access, read, touches, if_pos h, List.nil_append]
    · simp only [access, read, touches, if_neg h, touch]
  | write addr val =>
    by_cases h : addr.toNat < SM_GLOBAL_REGS
    · have ha : ¬(addr = SMR_PAGE ∨ addr = SMR_FLAGS) := by
        rintro (rfl | rfl) <;> exact absurd h (by decide)
      simp only [access, write, touches, setReg, if_pos h, if_neg ha, List.nil_append]
    · by_cases ha : addr = SMR_PAGE ∨ addr = SMR_FLAGS
      · have hslot : (m.setReg addr val).slot = m.slot := m.setReg_slot val h
        have ht : (m.setReg addr val).touched =
            .slotReg m.slot (addr.toNat - SM_GLOBAL_REGS) :: m.touched := by
          simp only [setReg, if_neg h, touch, List.cons_append, List.nil_append]
        simp only [access, write, touches, if_neg h, if_pos ha, remap, touch, hslot, ht,
          busMapTouches_slot m.slot_lt, List.append_assoc, List.cons_append, List.nil_append]
      · simp only [access, write, touches, setReg, if_neg h, if_neg ha, touch,
          List.nil_append]

/-- An access stays in bounds exactly when the slot it uses exists. -/
lemma touches_inBounds (m : SmallMmu) {x : Access} (hx : x.addr.toNat < 8) :
    (∀ t ∈ m.touches x, t.InBounds) ↔ (SM_GLOBAL_REGS ≤ x.addr.toNat → m.slot < SMR_SLOTS) := by
  by_cases h : x.addr.toNat < SM_GLOBAL_REGS
  · have hnil : m.touches x = [] := by
      cases x with
      | read addr => exact if_pos h
      | write addr val => exact if_pos h
    rw [hnil]
    exact ⟨fun _ h' => absurd h (by omega), fun _ t ht => absurd ht List.not_mem_nil⟩
  · have hreg : x.addr.toNat - SM_GLOBAL_REGS < 2 := by
      change x.addr.toNat - 6 < 2
      omega
    have hmem : Touch.slotReg m.slot (x.addr.toNat - SM_GLOBAL_REGS) ∈ m.touches x := by
      cases x with
      | read addr =>
        rw [touches, if_neg (show ¬addr.toNat < SM_GLOBAL_REGS from h)]
        exact List.mem_singleton.mpr rfl
      | write addr val =>
        rw [touches, if_neg (show ¬addr.toNat < SM_GLOBAL_REGS from h)]
        exact List.mem_append_right _ (List.mem_singleton.mpr rfl)
    constructor
    · intro hall _
      exact (hall _ hmem).1
    · intro hslot t ht
      have hs : m.slot < 16 := hslot (Nat.le_of_not_lt h)
      cases x with
      | read addr =>
        rw [touches, if_neg (show ¬addr.toNat < SM_GLOBAL_REGS from h)] at ht
        rw [List.mem_singleton.mp ht]
        exact ⟨hs, hreg⟩
      | write addr val =>
        rw [touches, if_neg (show ¬addr.toNat < SM_GLOBAL_REGS from h)] at ht
        rcases List.mem_append.mp ht with ht | ht
        · split at ht
          · rcases List.mem_append.mp ht with ht | ht
            · obtain ⟨k, hk, rfl⟩ := List.mem_map.mp ht
              have hk' := List.mem_range'_1.mp hk
              change k < 512
              omega
            · rcases List.mem_cons.mp ht with rfl | ht
              · exact ⟨hs, by decide⟩
              · rw [List.mem_singleton.mp ht]
                exact ⟨hs, by decide⟩
          · exact absurd ht List.not_mem_nil
        · rw [List.mem_singleton.mp ht]
          exact ⟨hs, hreg⟩

lemma access_inBounds (m : SmallMmu) {x : Access} (hx : x.addr.toNat < 8) :
    (m.access x).InBounds ↔
      (SM_GLOBAL_REGS ≤ x.addr.toNat → m.slot < SMR_SLOTS) ∧ m.InBounds := by
  rw [InBounds, access_touched, ← touches_inBounds m hx]
  exact List.forall_mem_append

/-- Out of bounds once, out of bounds ever after. -/
lemma inBounds_of_run {m : SmallMmu} {l : List Access} (h : (m.run l).InBounds) : m.InBounds := by
  induction l generalizing m with
  | nil => exact h
  | cons x l ih =>
    intro t ht
    exact ih h t (by rw [access_touched]; exact List.mem_append_right _ ht)

lemma run_inBounds {m : SmallMmu} (hm : m.InBounds) {l : List Access}
    (hl : ∀ x ∈ l, x.addr.toNat < 8) : (m.run l).InBounds ↔ Selects m.slot l := by
  induction l generalizing m with
  | nil => exact ⟨fun _ => trivial, fun _ => hm⟩
  | cons x l ih =>
    have hx := hl x List.mem_cons_self
    have hl' : ∀ y ∈ l, y.addr.toNat < 8 := fun y hy => hl y (List.mem_cons_of_mem x hy)
    rw [run_cons, Selects, ← access_slot m x]
    constructor
    · intro h
      have hacc : (m.access x).InBounds := inBounds_of_run h
      exact ⟨((access_inBounds m hx).mp hacc).1, (ih hacc hl').mp h⟩
    · rintro ⟨hslot, hsel⟩
      exact (ih ((access_inBounds m hx).mpr ⟨hslot, hm⟩) hl').mpr hsel

end SmallMmu

namespace Eon2

variable (g : Nat → U8) (r : Nat → Nat → U8)

lemma resetSlot_run (m : SmallMmu) (p : Nat) :
    SmallMmu.resetSlot 1 m p = m.run
      [.write SMR_SLOT (BitVec.ofNat 8 p), .write SMR_PAGE (BitVec.ofNat 8 p),
        .write SMR_FLAGS MAP_READWRITE] := rfl

/-- The reset selects the slots 0 to 15. -/
lemma resetSlot_inBounds {m : SmallMmu} (hm : m.InBounds) {p : Nat} (hp : p < 16) :
    (SmallMmu.resetSlot 1 m p).InBounds := by
  have hp' : (BitVec.ofNat 8 p).toNat < SMR_SLOTS := by
    change p % 2 ^ 8 < 16
    omega
  have h0 : ¬SM_GLOBAL_REGS ≤ (SMR_SLOT).toNat := by decide
  rw [resetSlot_run]
  refine (SmallMmu.run_inBounds hm ?_).mpr ⟨fun h => absurd h h0, fun _ => hp', fun _ => hp',
    trivial⟩
  intro x hx
  simp only [List.mem_cons, List.not_mem_nil, or_false] at hx
  rcases hx with rfl | rfl | rfl <;> simp [SmallMmu.Access.addr]

lemma resetSlots_inBounds {m : SmallMmu} (hm : m.InBounds) {l : List Nat} (hl : ∀ p ∈ l, p < 16) :
    (l.foldl (SmallMmu.resetSlot 1) m).InBounds := by
  induction l generalizing m with
  | nil => exact hm
  | cons p l ih =>
    exact ih (resetSlot_inBounds hm (hl p List.mem_cons_self))
      fun q hq => hl q (List.mem_cons_of_mem p hq)

lemma mmuAttached_inBounds : (mmuAttached g r).InBounds := by
  unfold mmuAttached SmallMmu.reset
  exact resetSlots_inBounds (fun t ht => absurd ht List.not_mem_nil)
    fun p hp => List.mem_range.mp hp

lemma mmuAttached_slot : (mmuAttached g r).slot = 15 := by
  unfold mmuAttached SmallMmu.reset
  rw [show List.range SMR_SLOTS = List.range 15 ++ [15] from rfl, List.foldl_append]
  generalize (List.range 15).foldl (SmallMmu.resetSlot 1) ⟨g, r, unmapped, []⟩ = m
  rw [List.foldl_cons, List.foldl_nil, resetSlot_run, SmallMmu.run_cons, SmallMmu.run_cons,
    SmallMmu.run_cons, SmallMmu.run_nil, SmallMmu.access_slot, SmallMmu.access_slot,
    SmallMmu.access_slot]
  rfl

lemma init_eq : init g r = { mmuAttached g r with maps := overlay (mmuAttached g r).maps } := rfl

lemma init_inBounds : (init g r).InBounds := by
  rw [init_eq]
  exact (mmuAttached_inBounds g r).setMaps _

/-- After the reset slot 15 is selected. -/
lemma init_slot : (init g r).slot = 15 := by
  rw [init_eq]
  exact (SmallMmu.slot_setMaps _ _).trans (mmuAttached_slot g r)

/-- **The small MMU stays within its arrays exactly when the guest selects existing slots.**  For
every sequence of accesses to the eight registers after the initialisation, all elements of
`slot_regs` and of the bus maps that are accessed exist if and only if, whenever register 6 or 7 is
accessed, the value last written to the slot selector (15 after the reset) is below 16. -/
theorem small_mmu_bounds (l : List SmallMmu.Access) (hl : ∀ x ∈ l, x.addr.toNat < 8) :
    ((init g r).run l).InBounds ↔ SmallMmu.Selects 15 l := by
  rw [SmallMmu.run_inBounds (init_inBounds g r) hl, init_slot]

/-- Slot 16 is selected and its page register read. -/
theorem slot_sixteen_out_of_bounds :
    ¬∀ (g : Nat → U8) (r : Nat → Nat → U8) (l : List SmallMmu.Access),
      (∀ x ∈ l, x.addr.toNat < 8) → ((init g r).run l).InBounds := by
  intro h
  have hin := h (fun _ => 0) (fun _ _ => 0) [.write SMR_SLOT 16, .read SMR_PAGE] (by decide)
  rw [SmallMmu.run_cons, SmallMmu.run_cons, SmallMmu.run_nil,
    SmallMmu.access_inBounds _ (by decide), SmallMmu.access_slot] at hin
  exact absurd (hin.1 (by decide)) (by decide)

theorem small_mmu_bounds_slot_three :
    ((init (fun _ => 0) fun _ _ => 0).run
      [.write SMR_SLOT 3, .write SMR_PAGE 200, .read SMR_FLAGS]).InBounds :=
  (small_mmu_bounds (fun _ => 0) (fun _ _ => 0) _ (by decide)).mpr
    ⟨fun h => absurd h (by decide), fun _ => by decide, fun _ => by decide, trivial⟩

end Eon2

end Exec09
