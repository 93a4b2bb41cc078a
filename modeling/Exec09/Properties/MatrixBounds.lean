import Exec09.Machine.WpcMessages
import Mathlib.Data.List.Infix
import Mathlib.Data.List.Induction
import Mathlib.Tactic.IntervalCases

/-!
# Indices into the arrays of the ASIC

The lamp matrix has 8 columns, the switch matrix 10, and three pages of the display are visible, out
of the 16 that the display memory holds.  Which elements an access of the guest touches follows from
the strobe registers and from the page numbers that were written before.
-/

namespace Exec09

/-- An element of an array of the ASIC, or a page that is copied out of the display memory. -/
inductive MatrixAccess
  | lamp (col : Int)
  | switch (col : Int)
  | visible (phase : Nat)
  | page (num : U8)
  deriving DecidableEq, Repr

/-- The element exists; the page is inside the display memory, device number 4. -/
def MatrixAccess.InRange : MatrixAccess → Prop
  | lamp col => 0 ≤ col ∧ col < 8
  | switch col => 0 ≤ col ∧ col < 10
  | visible phase => phase < 3
  | page num => ∀ d, Wpc.devices[4]? = some d → num.toNat * 512 + 512 ≤ d.size

namespace WpcAsic

/-! ## What an access of the guest touches -/

/-- `wpc_read_switch_column`. -/
def columnAccesses (col : Int) : List MatrixAccess :=
  (List.range 8).map fun (row : Nat) => .switch ((col * 8 + (row : Int)).tdiv 8)

def readAccesses (w : WpcAsic) (addr : BitVec 64) : List MatrixAccess :=
  match asicReg addr with
  | some .swRow =>
    if w.switchStrobe ≥ 0x16 ∧ w.switchStrobe ≤ 0x1f then
      columnAccesses (w.switchStrobe.toNat - 0x16 + 1)
    else columnAccesses (1 + scanbit w.switchStrobe)
  | some .swCabinet => columnAccesses 0
  | some .fliptronicA => columnAccesses 9
  | some .fliptronicB => columnAccesses 9
  | some .flipperSwitch => columnAccesses 9
  | _ => []

/-- The elements of `dmd_visibles`, all of them. -/
def allVisible : List MatrixAccess := (List.range 3).map .visible

/-- `wpc_dmd_set_visible`: the elements it sets, those it compares, and what it sends. -/
def dmdAccesses (w : WpcAsic) (now : BitVec 64) (val : U8) : List MatrixAccess :=
  if now - w.lastFirqTime ≤ 1850 * 8 then []
  else
    (if now - w.lastFirqTime ≥ 1850 * 8 * 5 then allVisible else [.visible w.dmdPhase]) ++
      allVisible ++
      if (w.dmdSetVisibleSends now val).2 then
        allVisible ++
          (List.range 3).map fun i => .page ((w.dmdSetVisibleSends now val).1.dmdVisibles i)
      else []

def writeAccesses (w : WpcAsic) (now addr : BitVec 64) (val : U8) : List MatrixAccess :=
  match asicReg addr with
  | some .dmdActivePage => w.dmdAccesses now val
  | some .lampRow => [.lamp (scanbit w.lampStrobe)]
  | _ => []

/-! ## The accesses are all there are -/

lemma readSwitchColumn_congr {w w' : WpcAsic} {col : Int}
    (h : ∀ c, .switch c ∈ columnAccesses col → w.switchMx c = w'.switchMx c) :
    w.readSwitchColumn col = w'.readSwitchColumn col := by
  have hrow : ∀ row ∈ List.range 8,
      w.readSwitch (col * 8 + (row : Int)) = w'.readSwitch (col * 8 + (row : Int)) := by
    intro row hrow
    unfold readSwitch
    rw [h _ (List.mem_map.mpr ⟨row, hrow, rfl⟩)]
  unfold readSwitchColumn
  refine List.foldl_ext _ _ _ fun val row hmem => ?_
  rw [hrow row hmem]

/-- What a read delivers depends on the switch columns it touches and on no others. -/
lemma read_congr (w : WpcAsic) (addr : BitVec 64) {mx : Int → U8}
    (h : ∀ c, .switch c ∈ w.readAccesses addr → w.switchMx c = mx c) :
    w.read addr = { w with switchMx := mx }.read addr := by
  have hcol : ∀ col, (∀ c, .switch c ∈ columnAccesses col → w.switchMx c = mx c) →
      w.readSwitchColumn col = { w with switchMx := mx }.readSwitchColumn col :=
    fun col h => readSwitchColumn_congr h
  unfold readAccesses at h
  unfold WpcAsic.read
  generalize asicReg addr = reg at h ⊢
  cases reg with
  | none => rfl
  | some r =>
    cases r
    case swRow =>
      dsimp only at h ⊢
      split at h
      · rename_i hs
        rw [if_pos hs, if_pos hs]
        exact hcol _ h
      · rename_i hs
        rw [if_neg hs, if_neg hs]
        exact hcol _ h
    case swCabinet => exact hcol 0 h
    case fliptronicA => exact hcol 9 h
    case fliptronicB => exact hcol 9 h
    case flipperSwitch => exact hcol 9 h
    all_goals rfl

lemma dmdSetVisible_matrices (w : WpcAsic) (now : BitVec 64) (val : U8) :
    (w.dmdSetVisible now val).lampMx = w.lampMx ∧
      (w.dmdSetVisible now val).switchMx = w.switchMx := by
  obtain ⟨_, _, _, _, _, h⟩ := w.dmdSetVisible_fields now val
  rw [h]
  exact ⟨rfl, rfl⟩

/-- The visible pages after a write to the register. -/
lemma dmdSetVisible_visibles (w : WpcAsic) (now : BitVec 64) (val : U8) :
    (w.dmdSetVisible now val).dmdVisibles =
      if now - w.lastFirqTime ≤ 1850 * 8 then w.dmdVisibles
      else if now - w.lastFirqTime ≥ 1850 * 8 * 5 then
        fun i => if i < 3 then val else w.dmdVisibles i
      else fun i => if i = w.dmdPhase then val else w.dmdVisibles i := by
  unfold dmdSetVisible
  split
  · rfl
  · extract_lets w₁ w₂ same w₃
    -- the rest of the function leaves the pages alone
    have h₃ : w₃.dmdVisibles = w₁.dmdVisibles := by
      unfold w₃
      split
      · rfl
      · rfl
    have hrest : (if same ∧ w₃.noChangeCount < 100 then w₃
        else { w₃ with
          noChangeCount := 0
          dmdLastVisibles := fun i => if i < 3 then w₃.dmdVisibles i else w₃.dmdLastVisibles i }
        ).dmdVisibles = w₃.dmdVisibles := by
      split
      · rfl
      · rfl
    rw [hrest, h₃]
    unfold w₁
    exact apply_ite WpcAsic.dmdVisibles _ _ _

lemma dmdSetVisible_untouched (w : WpcAsic) (now : BitVec 64) (val : U8) {i : Nat}
    (hi : .visible i ∉ w.dmdAccesses now val) :
    (w.dmdSetVisible now val).dmdVisibles i = w.dmdVisibles i := by
  rw [dmdSetVisible_visibles]
  unfold dmdAccesses at hi
  split at hi
  · rename_i hearly
    rw [if_pos hearly]
  · rename_i hearly
    rw [if_neg hearly]
    have hset := fun h => hi (List.mem_append_left _ (List.mem_append_left _ h))
    split at hset
    · rename_i hlate
      rw [if_pos hlate]
      exact if_neg fun h3 => hset (List.mem_map.mpr ⟨i, List.mem_range.mpr h3, rfl⟩)
    · rename_i hlate
      rw [if_neg hlate]
      exact if_neg fun h => hset (by rw [h]; exact List.mem_singleton_self _)

/-- What a write leaves alone of the arrays. -/
lemma write_frame (w : Wpc) (now addr : BitVec 64) (val : U8) :
    (∀ i, .lamp i ∉ w.asic.writeAccesses now addr val →
      (w.write now addr val).asic.lampMx i = w.asic.lampMx i) ∧
    (∀ i, .visible i ∉ w.asic.writeAccesses now addr val →
      (w.write now addr val).asic.dmdVisibles i = w.asic.dmdVisibles i) ∧
    (w.write now addr val).asic.switchMx = w.asic.switchMx := by
  unfold writeAccesses Wpc.write
  generalize asicReg addr = reg
  cases reg with
  | none => exact ⟨fun _ _ => rfl, fun _ _ => rfl, rfl⟩
  | some r =>
    cases r
    case dmdActivePage =>
      obtain ⟨hlamp, hswitch⟩ := w.asic.dmdSetVisible_matrices now val
      exact ⟨fun i _ => congrFun hlamp i, fun i => w.asic.dmdSetVisible_untouched now val, hswitch⟩
    case lampRow =>
      exact ⟨fun i hi => if_neg fun h => hi (by rw [h]; exact List.mem_singleton_self _),
        fun _ _ => rfl, rfl⟩
    all_goals exact ⟨fun _ _ => rfl, fun _ _ => rfl, rfl⟩

/-! ## One access -/

lemma scanbit_lt (val : U8) : scanbit val < 8 := by
  revert val
  decide

lemma neg_one_le_scanbit (val : U8) : -1 ≤ scanbit val := by
  revert val
  decide

lemma scanbit_nonneg_iff (val : U8) : 0 ≤ scanbit val ↔ val ≠ 0 := by
  revert val
  decide

/-- A column is in range if and only if all its switches are. -/
lemma columnAccesses_inRange (col : Nat) :
    (∀ a ∈ columnAccesses col, a.InRange) ↔ col < 10 := by
  have hcol : ∀ row < 8, ((col : Int) * 8 + (row : Nat)).tdiv 8 = col := by
    intro row hrow
    have hdiv : (col * 8 + row) / 8 = col := by omega
    change Int.tdiv ((col * 8 + row : Nat) : Int) ((8 : Nat) : Int) = col
    rw [← Int.ofNat_tdiv, hdiv]
  constructor
  · intro h
    have h0 := h _ (List.mem_map.mpr ⟨0, by decide, rfl⟩)
    rw [hcol 0 (by decide)] at h0
    exact Int.ofNat_lt.mp h0.2
  · intro h a ha
    obtain ⟨row, hrow, rfl⟩ := List.mem_map.mp ha
    rw [hcol row (List.mem_range.mp hrow)]
    exact ⟨Int.natCast_nonneg col, Int.ofNat_lt.mpr h⟩

/-! ## The display's pages -/

lemma page_inRange_iff (num : U8) : (MatrixAccess.page num).InRange ↔ num.toNat < 16 := by
  constructor
  · intro h
    have hle : num.toNat * 512 + 512 ≤ 16 * 512 := h ⟨.ram, 16 * 512⟩ rfl
    omega
  · intro h d hd
    rw [← Option.some.inj hd]
    change num.toNat * 512 + 512 ≤ 16 * 512
    omega

lemma allVisible_inRange : ∀ a ∈ allVisible, a.InRange := by
  intro a ha
  obtain ⟨i, hi, rfl⟩ := List.mem_map.mp ha
  exact List.mem_range.mp hi

/-- The page sequencer has never been given a page that does not exist. -/
structure DmdInRange (w : WpcAsic) : Prop where
  phase : w.dmdPhase < 3
  visible : ∀ i < 3, (w.dmdVisibles i).toNat < 16
  last : ∀ i < 3, (w.dmdLastVisibles i).toNat < 16

section Sequencer

variable (w : WpcAsic) (now : BitVec 64) (val : U8)

/-- The register ignores writes that follow too soon. -/
def Ignored : Prop := now - w.lastFirqTime ≤ 1850 * 8

instance : Decidable (w.Ignored now) := inferInstanceAs (Decidable (_ ≤ _))

/-- The first half of `wpc_dmd_set_visible`: the page is noted for the current phase, or for all
three. -/
def notePage : WpcAsic :=
  { (if now - w.lastFirqTime ≥ 1850 * 8 * 5 then
      { w with dmdVisibles := fun i => if i < 3 then val else w.dmdVisibles i, dmdPhase := 0 }
    else
      { w with
        dmdVisibles := fun i => if i = w.dmdPhase then val else w.dmdVisibles i
        dmdPhase := if w.dmdPhase + 1 = 3 then 0 else w.dmdPhase + 1 }) with
    lastFirqTime := now }

/-- The pages are those that were sent last. -/
def SamePages : Prop :=
  w.dmdVisibles 0 = w.dmdLastVisibles 0 ∧ w.dmdVisibles 1 = w.dmdLastVisibles 1 ∧
    w.dmdVisibles 2 = w.dmdLastVisibles 2

instance : Decidable w.SamePages := inferInstanceAs (Decidable (_ ∧ _))

/-- The second half: the pages are sent on unless they are the same. -/
def sendPages : WpcAsic × Bool :=
  let v := if w.SamePages then { w with noChangeCount := w.noChangeCount + 1 } else w
  if w.SamePages ∧ v.noChangeCount < 100 then (v, false)
  else
    ({ v with
      noChangeCount := 0
      dmdLastVisibles := fun i => if i < 3 then v.dmdVisibles i else v.dmdLastVisibles i }, true)

lemma dmdSetVisibleSends_eq :
    w.dmdSetVisibleSends now val =
      if w.Ignored now then (w, false) else (w.notePage now val).sendPages := rfl

lemma notePage_phase (h : w.dmdPhase < 3) : (w.notePage now val).dmdPhase < 3 := by
  unfold notePage
  split
  · exact Nat.zero_lt_succ 2
  · change (if w.dmdPhase + 1 = 3 then 0 else w.dmdPhase + 1) < 3
    split <;> omega

lemma notePage_visibles (i : Nat) :
    (w.notePage now val).dmdVisibles i = val ∨
      (w.notePage now val).dmdVisibles i = w.dmdVisibles i := by
  unfold notePage
  split
  · exact ite_eq_or_eq ..
  · exact ite_eq_or_eq ..

/-- The page that is written is noted somewhere. -/
lemma notePage_noted (h : w.dmdPhase < 3) : ∃ i < 3, (w.notePage now val).dmdVisibles i = val := by
  unfold notePage
  split
  · exact ⟨0, by decide, rfl⟩
  · exact ⟨w.dmdPhase, h, if_pos rfl⟩

@[simp] lemma notePage_last : (w.notePage now val).dmdLastVisibles = w.dmdLastVisibles := by
  unfold notePage
  split <;> rfl

@[simp] lemma sendPages_phase : w.sendPages.1.dmdPhase = w.dmdPhase := by
  unfold sendPages
  dsimp only
  split_ifs <;> rfl

@[simp] lemma sendPages_visibles : w.sendPages.1.dmdVisibles = w.dmdVisibles := by
  unfold sendPages
  dsimp only
  split_ifs <;> rfl

lemma sendPages_last (i : Nat) (hi : i < 3) :
    w.sendPages.1.dmdLastVisibles i = w.dmdLastVisibles i ∨
      w.sendPages.1.dmdLastVisibles i = w.dmdVisibles i := by
  unfold sendPages
  dsimp only
  split_ifs
  all_goals first | exact Or.inl rfl | exact Or.inr (if_pos hi)

/-- Nothing is sent only if the pages are the ones that were sent last. -/
lemma samePages_of_not_sent (h : w.sendPages.2 = false) :
    ∀ i < 3, w.dmdVisibles i = w.dmdLastVisibles i := by
  have hsame : w.SamePages := by
    unfold sendPages at h
    by_contra hne
    rw [if_neg fun hs => hne hs.1] at h
    cases h
  intro i hi
  obtain ⟨h0, h1, h2⟩ := hsame
  interval_cases i
  · exact h0
  · exact h1
  · exact h2

lemma dmdAccesses_eq (h : ¬w.Ignored now) :
    w.dmdAccesses now val =
      (if now - w.lastFirqTime ≥ 1850 * 8 * 5 then allVisible else [.visible w.dmdPhase]) ++
        allVisible ++
        if (w.notePage now val).sendPages.2 then
          allVisible ++ (List.range 3).map fun i => .page ((w.notePage now val).dmdVisibles i)
        else [] := by
  refine (if_neg h).trans ?_
  rw [dmdSetVisibleSends_eq, if_neg h, sendPages_visibles]

end Sequencer

/-- **The pages** stay in range if and only if a write that counts names one that exists. -/
lemma dmdAccesses_inRange {w : WpcAsic} (hw : w.DmdInRange) (now : BitVec 64) (val : U8) :
    (∀ a ∈ w.dmdAccesses now val, a.InRange) ↔ w.Ignored now ∨ val.toNat < 16 := by
  by_cases hign : w.Ignored now
  · have hnil : w.dmdAccesses now val = [] := if_pos hign
    rw [hnil]
    exact iff_of_true (fun a ha => absurd ha List.not_mem_nil) (Or.inl hign)
  · have hset : ∀ a ∈ (if now - w.lastFirqTime ≥ 1850 * 8 * 5 then allVisible
        else [.visible w.dmdPhase]), a.InRange := by
      intro a ha
      split at ha
      · exact allVisible_inRange a ha
      · rw [List.mem_singleton.mp ha]
        exact hw.phase
    rw [dmdAccesses_eq w now val hign]
    constructor
    · intro h
      right
      obtain ⟨i, hi, hval⟩ := w.notePage_noted now val hw.phase
      cases hs : (w.notePage now val).sendPages.2 with
      | false =>
        rw [← hval, samePages_of_not_sent _ hs i hi, notePage_last]
        exact hw.last i hi
      | true =>
        rw [← hval, ← page_inRange_iff]
        refine h _ (List.mem_append_right _ ?_)
        rw [hs, if_pos rfl]
        exact List.mem_append_right _ (List.mem_map.mpr ⟨i, List.mem_range.mpr hi, rfl⟩)
    · intro h a ha
      have hval := h.resolve_left hign
      rcases List.mem_append.mp ha with ha | ha
      · exact (List.mem_append.mp ha).elim (hset a) (allVisible_inRange a)
      · split at ha
        · rcases List.mem_append.mp ha with ha | ha
          · exact allVisible_inRange a ha
          · obtain ⟨i, hi, rfl⟩ := List.mem_map.mp ha
            rw [page_inRange_iff]
            rcases w.notePage_visibles now val i with hv | hv
            · rw [hv]
              exact hval
            · rw [hv]
              exact hw.visible i (List.mem_range.mp hi)
        · exact absurd ha List.not_mem_nil

lemma DmdInRange.dmdSetVisible {w : WpcAsic} (hw : w.DmdInRange) {now : BitVec 64} {val : U8}
    (h : w.Ignored now ∨ val.toNat < 16) : (w.dmdSetVisible now val).DmdInRange := by
  rw [← dmdSetVisibleSends_fst, dmdSetVisibleSends_eq]
  by_cases hign : w.Ignored now
  · rw [if_pos hign]
    exact hw
  · rw [if_neg hign]
    have hvis : ∀ i < 3, ((w.notePage now val).dmdVisibles i).toNat < 16 := by
      intro i hi
      rcases w.notePage_visibles now val i with hv | hv
      · rw [hv]
        exact h.resolve_left hign
      · rw [hv]
        exact hw.visible i hi
    refine ⟨?_, fun i hi => ?_, fun i hi => ?_⟩
    · rw [sendPages_phase]
      exact w.notePage_phase now val hw.phase
    · rw [sendPages_visibles]
      exact hvis i hi
    · rcases sendPages_last (w.notePage now val) i hi with hl | hl
      · rw [hl, notePage_last]
        exact hw.last i hi
      · rw [hl]
        exact hvis i hi

/-! ## The strobes -/

/-- The column that is read follows from the strobe; of the strobes of the later boards the last one
is too many. -/
lemma switchRow_inRange (w : WpcAsic) :
    (∀ a ∈ (if w.switchStrobe ≥ 0x16 ∧ w.switchStrobe ≤ 0x1f then
        columnAccesses (w.switchStrobe.toNat - 0x16 + 1)
      else columnAccesses (1 + scanbit w.switchStrobe)), a.InRange) ↔ w.switchStrobe ≠ 0x1f := by
  have hne : w.switchStrobe ≠ 0x1f ↔ w.switchStrobe.toNat ≠ 31 :=
    not_congr ⟨fun h => by rw [h]; rfl, fun h => BitVec.eq_of_toNat_eq h⟩
  have hrange : (w.switchStrobe ≥ 0x16 ∧ w.switchStrobe ≤ 0x1f) ↔
      22 ≤ w.switchStrobe.toNat ∧ w.switchStrobe.toNat ≤ 31 := Iff.rfl
  rw [hne]
  split
  · rename_i h
    have h' := hrange.mp h
    have hcol : ((w.switchStrobe.toNat : Int) - 0x16 + 1) = (w.switchStrobe.toNat - 21 : Nat) := by
      omega
    rw [hcol, columnAccesses_inRange]
    omega
  · rename_i h
    obtain ⟨col, hcol⟩ : ∃ col : Nat, 1 + scanbit w.switchStrobe = col :=
      ⟨(1 + scanbit w.switchStrobe).toNat, by have := neg_one_le_scanbit w.switchStrobe; omega⟩
    have hlt := scanbit_lt w.switchStrobe
    rw [hcol, columnAccesses_inRange]
    refine iff_of_true (by omega) fun h31 => h (hrange.mpr (by omega))

lemma lampRow_inRange (w : WpcAsic) :
    (∀ a ∈ [MatrixAccess.lamp (scanbit w.lampStrobe)], a.InRange) ↔ w.lampStrobe ≠ 0 := by
  rw [List.forall_mem_singleton]
  change 0 ≤ scanbit w.lampStrobe ∧ scanbit w.lampStrobe < 8 ↔ _
  rw [and_iff_left (scanbit_lt _), scanbit_nonneg_iff]

end WpcAsic

/-! ## Runs of the guest -/

/-- An access of the guest to the registers of the ASIC. -/
inductive GuestAccess
  | read (addr : BitVec 64)
  | write (x : Wpc.RegWrite)
  deriving DecidableEq, Repr

namespace GuestAccess

def accesses (w : WpcAsic) : GuestAccess → List MatrixAccess
  | read addr => w.readAccesses addr
  | write x => w.writeAccesses x.now x.addr x.val

/-- The machine after the access.  A read of the console's data marks it as used. -/
def step (w : Wpc) : GuestAccess → Wpc
  | read addr =>
    if asicReg addr = some .debugData then
      { w with asic := { w.asic with consoleInited := true } }
    else w
  | write x => w.write x.now x.addr x.val

def run (l : List GuestAccess) : Wpc := l.foldl step Wpc.init

/-- The row of the lamps is not written without a column, the switches are not read at the last
strobe, and no page is shown that does not exist. -/
def Careful (w : WpcAsic) : GuestAccess → Prop
  | read addr => asicReg addr = some .swRow → w.switchStrobe ≠ 0x1f
  | write x =>
    (asicReg x.addr = some .lampRow → w.lampStrobe ≠ 0) ∧
      (asicReg x.addr = some .dmdActivePage → w.Ignored x.now ∨ x.val.toNat < 16)

/-- One access touches only what exists if and only if it is careful. -/
lemma accesses_inRange {w : WpcAsic} (hw : w.DmdInRange) (x : GuestAccess) :
    (∀ a ∈ x.accesses w, a.InRange) ↔ x.Careful w := by
  have hnil : ∀ a ∈ ([] : List MatrixAccess), a.InRange := fun a ha => absurd ha List.not_mem_nil
  cases x with
  | read addr =>
    change (∀ a ∈ w.readAccesses addr, a.InRange) ↔ (asicReg addr = some .swRow → _)
    unfold WpcAsic.readAccesses
    generalize asicReg addr = reg
    have hcol : ∀ col : Nat, col < 10 → ∀ a ∈ WpcAsic.columnAccesses col, a.InRange :=
      fun col => (WpcAsic.columnAccesses_inRange col).mpr
    cases reg with
    | none => exact iff_of_true hnil (by simp)
    | some r =>
      cases r
      case swRow => exact w.switchRow_inRange.trans ⟨fun h _ => h, fun h => h rfl⟩
      case swCabinet => exact iff_of_true (hcol 0 (by decide)) (by simp)
      case fliptronicA => exact iff_of_true (hcol 9 (by decide)) (by simp)
      case fliptronicB => exact iff_of_true (hcol 9 (by decide)) (by simp)
      case flipperSwitch => exact iff_of_true (hcol 9 (by decide)) (by simp)
      all_goals exact iff_of_true hnil (by simp)
  | write x =>
    change (∀ a ∈ w.writeAccesses x.now x.addr x.val, a.InRange) ↔
      (asicReg x.addr = some .lampRow → _) ∧ (asicReg x.addr = some .dmdActivePage → _)
    unfold WpcAsic.writeAccesses
    generalize asicReg x.addr = reg
    cases reg with
    | none => exact iff_of_true hnil (by simp)
    | some r =>
      cases r
      case dmdActivePage =>
        refine (WpcAsic.dmdAccesses_inRange hw x.now x.val).trans ?_
        exact ⟨fun h => ⟨by simp, fun _ => h⟩, fun h => h.2 rfl⟩
      case lampRow =>
        refine w.lampRow_inRange.trans ?_
        exact ⟨fun h => ⟨fun _ => h, by simp⟩, fun h => h.1 rfl⟩
      all_goals exact iff_of_true hnil (by simp)

lemma dmdInRange_step {w : Wpc} (hw : w.asic.DmdInRange) {x : GuestAccess} (hx : x.Careful w.asic) :
    (x.step w).asic.DmdInRange := by
  cases x with
  | read addr =>
    unfold step
    dsimp only
    split
    · exact ⟨hw.phase, hw.visible, hw.last⟩
    · exact hw
  | write x =>
    obtain ⟨-, hdmd⟩ := hx
    change (w.write x.now x.addr x.val).asic.DmdInRange
    unfold Wpc.write
    generalize asicReg x.addr = reg at hdmd ⊢
    cases reg with
    | none => exact hw
    | some r =>
      cases r
      case dmdActivePage => exact hw.dmdSetVisible (hdmd rfl)
      all_goals exact ⟨hw.phase, hw.visible, hw.last⟩

lemma run_snoc (l : List GuestAccess) (x : GuestAccess) : run (l ++ [x]) = x.step (run l) :=
  List.foldl_append ..

lemma dmdInRange_init : Wpc.init.asic.DmdInRange := by
  refine ⟨?_, ?_, ?_⟩ <;> decide

/-- As long as every access is careful or in range, the pages that are noted exist. -/
lemma dmdInRange_run {l : List GuestAccess}
    (h : ∀ p x, p ++ [x] <+: l → (run p).asic.DmdInRange → x.Careful (run p).asic) :
    ∀ p, p <+: l → (run p).asic.DmdInRange := by
  intro p
  induction p using List.reverseRecOn with
  | nil => exact fun _ => dmdInRange_init
  | append_singleton p x ih =>
    intro hp
    have hw := ih ((List.prefix_append p [x]).trans hp)
    rw [run_snoc]
    exact dmdInRange_step hw (h p x hp hw)

end GuestAccess

end Exec09
