import Exec09.Machine.Eon
import Mathlib.Algebra.Group.Nat.Defs

/-!
# The disk as an array of sectors

A `Drive` is the disk as its drivers see it: 65536 sectors, the values last written to the
registers, and the sector that the last write to `DSK_SECTOR+1` has selected.  The code keeps the
latched high byte and the byte offset of the selected sector in one variable.  It agrees with the
drive as long as each selection writes the high byte first, or comes after the selection of
sector 0.
-/

namespace Exec09

/-- The memory of the RAM device. -/
abbrev DiskRam := BitVec 64 → U8

/-- The disk as its drivers see it, with the memory it transfers to and from. -/
structure Drive where
  page : U8
  high : U8
  selected : Nat
  sectors : Nat → Nat → U8
  mem : DiskRam
  /-- `DSK_SECTOR` has been written since the last selection. -/
  latched : Bool
  /-- Nothing has been transferred since the last selection. -/
  ready : Bool

/-- What happens to the disk and the RAM device. -/
inductive DiskEvent
  /-- A register is written. -/
  | reg (addr : BitVec 64) (val : U8)
  /-- The CPU has changed the memory. -/
  | ram (mem : DiskRam)

/-- The write makes the disk transfer a sector. -/
def DiskEvent.transfers : DiskEvent → Bool
  | .reg addr val => addr = 0 ∧ (val &&& 0x1 ≠ 0 ∨ val &&& 0x2 ≠ 0 ∨ val &&& 0x8 ≠ 0)
  | .ram _ => false

/-- It is a write to `DSK_SECTOR+1`. -/
def DiskEvent.selects : DiskEvent → Bool
  | .reg addr _ => addr = 3
  | .ram _ => false

namespace Drive

/-- The memory after the selected sector is read. -/
def load (v : Drive) : DiskRam := fun p =>
  if 512 * v.page.toNat ≤ p.toNat ∧ p.toNat < 512 * v.page.toNat + 512 then
    v.sectors v.selected (p.toNat - 512 * v.page.toNat)
  else v.mem p

/-- Store a sector. -/
def store (v : Drive) (data : Nat → U8) : Drive :=
  { v with sectors := Function.update v.sectors v.selected data, ready := false }

def step (v : Drive) : DiskEvent → Drive
  | .ram mem => { v with mem := mem }
  | .reg addr val =>
    if addr = 1 then { v with page := val }
    else if addr = 2 then { v with high := val, latched := true }
    else if addr = 3 then
      { v with selected := 256 * v.high.toNat + val.toNat, latched := false, ready := true }
    else if addr = 0 then
      if val &&& 0x1 ≠ 0 then { v with mem := v.load, ready := false }
      else if val &&& 0x2 ≠ 0 then
        v.store fun i => v.mem (BitVec.ofNat 64 (512 * v.page.toNat + i))
      else if val &&& 0x8 ≠ 0 then v.store fun _ => 0xff
      else v
    else v

def run (l : List DiskEvent) (v : Drive) : Drive := l.foldl step v

/-- Only the selected sector changes. -/
lemma sectors_step_of_ne (v : Drive) (x : DiskEvent) {n : Nat} (h : n ≠ v.selected) :
    (v.step x).sectors n = v.sectors n := by
  cases x with
  | ram mem => rfl
  | reg addr val =>
    simp only [step, store]
    split_ifs <;> first | rfl | exact Function.update_of_ne h _ _

/-- Every transfer is the first one after a selection. -/
def EachSelected : List DiskEvent → Drive → Prop
  | [], _ => True
  | x :: l, v => (x.transfers = true → v.ready = true) ∧ EachSelected l (v.step x)

/-- Every selection has its high byte written before it, or sector 0 was selected last. -/
def EachLatched : List DiskEvent → Drive → Prop
  | [], _ => True
  | x :: l, v => (x.selects = true → v.latched = true ∨ v.selected = 0) ∧ EachLatched l (v.step x)

end Drive

namespace Disk

def event (s : Disk × DiskRam) : DiskEvent → Disk × DiskRam
  | .reg addr val => s.1.write s.2 addr val
  | .ram mem => (s.1, mem)

def run (l : List DiskEvent) (s : Disk × DiskRam) : Disk × DiskRam := l.foldl event s

/-- The sectors of the file. -/
def sectors (d : Disk) : Nat → Nat → U8 := fun n i => d.file (512 * n + i)

/-- The drive that shows a disk just reset. -/
def drive (s : Disk × DiskRam) : Drive where
  page := 0
  high := 0
  selected := 0
  sectors := s.1.sectors
  mem := s.2
  latched := false
  ready := true

/-- The code has the sectors and the memory of the drive, and stands at the sector selected. -/
structure Agrees (s : Disk × DiskRam) (v : Drive) : Prop where
  mem : s.2 = v.mem
  sectors : ∀ n < 65536, ∀ i < 512, s.1.sectors n i = v.sectors n i
  pos : v.ready = true → s.1.pos = 512 * v.selected

/-- What the variables of the code hold as long as the code agrees with the drive. -/
structure Tracks (s : Disk × DiskRam) (v : Drive) : Prop extends Agrees s v where
  len : 512 * 65536 ≤ s.1.len
  selected : v.selected < 65536
  ram : s.1.ram.toNat = 512 * v.page.toNat
  latched : v.latched = true → s.1.offset.toNat = v.high.toNat
  unlatched : v.latched = false →
    s.1.offset.toNat = 512 * v.selected ∧ v.selected / 256 = v.high.toNat

/-! ## Addresses -/

/-- The offset that a low byte makes of what is in the variable. -/
def combine (offset : BitVec 64) (val : U8) : BitVec 64 :=
  ((offset <<< 8) ||| val.setWidth 64) * BitVec.ofNat 64 512

lemma toNat_combine {offset : BitVec 64} (h : offset.toNat < 2 ^ 32) (val : U8) :
    (combine offset val).toNat = (256 * offset.toNat + val.toNat) * 512 := by
  have hval := val.isLt
  have hshift : (offset <<< 8).toNat = offset.toNat <<< 8 := by
    rw [BitVec.toNat_shiftLeft, Nat.shiftLeft_eq]
    omega
  have hwide : (val.setWidth 64).toNat = val.toNat := by
    rw [BitVec.toNat_setWidth]
    omega
  have hor : ((offset <<< 8) ||| val.setWidth 64).toNat = 256 * offset.toNat + val.toNat := by
    rw [BitVec.toNat_or, hshift, hwide, ← Nat.shiftLeft_add_eq_or_of_lt hval, Nat.shiftLeft_eq]
    omega
  rw [combine, BitVec.toNat_mul, hor, BitVec.toNat_ofNat]
  omega

/-- So short an offset is not negative as a `long`. -/
lemma seek_combine {d : Disk} {offset : BitVec 64} {val : U8} (ho : d.offset = combine offset val)
    (h : offset.toNat < 2 ^ 32) :
    d.seek = { d with pos := (256 * offset.toNat + val.toNat) * 512 } := by
  have hval := val.isLt
  have hn := toNat_combine h val
  have hmsb : d.offset.msb = false := by
    rw [ho, BitVec.msb_eq_false_iff_two_mul_lt, hn]
    omega
  rw [seek, hmsb, ho, hn]
  rfl

/-! ## Transfers -/

lemma available_eq {s : Disk × DiskRam} {v : Drive} (h : Tracks s v) (hready : v.ready = true) :
    s.1.available = 512 := by
  have hpos := h.pos hready
  have hlen := h.len
  have hsel := h.selected
  change min 512 (s.1.len - s.1.pos) = 512
  omega

/-- Reading a sector. -/
lemma fread_eq {s : Disk × DiskRam} {v : Drive} (h : Tracks s v) (hready : v.ready = true) :
    (s.1.fread s.2).2 = v.load := by
  have hram := h.ram
  have hpage := v.page.isLt
  funext p
  have hp := p.isLt
  simp only [fread, available_eq h hready, Drive.load]
  by_cases hle : s.1.ram ≤ p
  · have hle' : s.1.ram.toNat ≤ p.toNat := BitVec.le_def.mp hle
    have hsub : (p - s.1.ram).toNat = p.toNat - 512 * v.page.toNat := by
      rw [BitVec.toNat_sub_of_le hle, hram]
    by_cases hin : p.toNat < 512 * v.page.toNat + 512
    · have hi : p.toNat - 512 * v.page.toNat < 512 := by omega
      have hsector := h.sectors v.selected h.selected _ hi
      rw [hsub, if_pos ⟨hle, hi⟩, if_pos ⟨by omega, hin⟩, h.pos hready]
      exact hsector
    · rw [hsub, if_neg (fun hc => by omega), if_neg (fun hc => hin hc.2), h.mem]
  · have hlt : ¬512 * v.page.toNat ≤ p.toNat := fun hc =>
      hle (BitVec.le_def.mpr (by omega))
    rw [if_neg (fun hc => hle hc.1), if_neg (fun hc => hlt hc.1), h.mem]

/-- Writing one. -/
lemma sectors_fwrite {s : Disk × DiskRam} {v : Drive} (h : Tracks s v) (hready : v.ready = true)
    (data : Nat → U8) {n i : Nat} (hn : n < 65536) (hi : i < 512) :
    (s.1.fwrite data).sectors n i = (v.store data).sectors n i := by
  have hpos := h.pos hready
  have hlen := h.len
  have hin : 512 * n + i < s.1.len := by omega
  simp only [sectors, fwrite, SECTOR_SIZE, Drive.store]
  by_cases hs : n = v.selected
  · subst hs
    rw [if_pos ⟨by omega, by omega⟩, Function.update_self]
    congr 1
    omega
  · rw [if_neg (fun hc => hs (by omega)), if_pos hin, Function.update_of_ne hs]
    exact h.sectors n hn i hi

/-- The disk after a sector is written. -/
lemma tracks_fwrite {s : Disk × DiskRam} {v : Drive} (h : Tracks s v) (hready : v.ready = true)
    (data : Nat → U8) : Tracks (s.1.fwrite data, s.2) (v.store data) where
  mem := h.mem
  sectors _ hn _ hi := sectors_fwrite h hready data hn hi
  pos hr := by cases hr
  len := Nat.le_trans h.len (Nat.le_max_left _ _)
  selected := h.selected
  ram := h.ram
  latched := h.latched
  unlatched := h.unlatched

/-! ## One event -/

/-- The memory the disk writes from. -/
lemma ram_add {s : Disk × DiskRam} {v : Drive} (h : Tracks s v) (i : Nat) :
    s.1.ram + BitVec.ofNat 64 i = BitVec.ofNat 64 (512 * v.page.toNat + i) := by
  rw [BitVec.ofNat_add, ← h.ram, BitVec.ofNat_toNat, BitVec.setWidth_eq]

lemma tracks_select {s : Disk × DiskRam} {v : Drive} (h : Tracks s v) (val : U8)
    (hlatched : v.latched = true ∨ v.selected = 0) :
    Tracks (s.1.write s.2 3 val) (v.step (.reg 3 val)) := by
  have hval := val.isLt
  have hhigh := v.high.isLt
  -- in both cases the variable holds the high byte
  have hoffset : s.1.offset.toNat = v.high.toNat := by
    cases hl : v.latched with
    | true => exact h.latched hl
    | false =>
      obtain ⟨ho, hsel⟩ := h.unlatched hl
      have h0 : v.selected = 0 := by
        rcases hlatched with hl' | h0
        · rw [hl] at hl'
          cases hl'
        · exact h0
      omega
  have hseek := seek_combine (d := { s.1 with offset := combine s.1.offset val }) rfl
    (show s.1.offset.toNat < 2 ^ 32 by omega)
  have hcomb := toNat_combine (show s.1.offset.toNat < 2 ^ 32 by omega) val
  have hwrite : s.1.write s.2 3 val = ({ s.1 with
      offset := combine s.1.offset val
      pos := (256 * s.1.offset.toNat + val.toNat) * 512 }, s.2) :=
    congrArg (·, s.2) hseek
  rw [hwrite]
  refine ⟨⟨h.mem, h.sectors, fun _ => ?_⟩, h.len, ?_, h.ram, fun hl => ?_, fun _ => ⟨?_, ?_⟩⟩
  · change (256 * s.1.offset.toNat + val.toNat) * 512 =
      512 * (256 * v.high.toNat + val.toNat)
    rw [hoffset, Nat.mul_comm]
  · change 256 * v.high.toNat + val.toNat < 65536
    omega
  · cases hl
  · change (combine s.1.offset val).toNat = 512 * (256 * v.high.toNat + val.toNat)
    rw [hcomb, hoffset, Nat.mul_comm]
  · change (256 * v.high.toNat + val.toNat) / 256 = v.high.toNat
    omega

/-- Without the high byte written again, the code goes elsewhere. -/
lemma not_agrees_select {s : Disk × DiskRam} {v : Drive} (h : Tracks s v) (val : U8)
    (hlatched : v.latched = false) (h0 : v.selected ≠ 0) :
    ¬Agrees (s.1.write s.2 3 val) (v.step (.reg 3 val)) := by
  intro ha
  obtain ⟨ho, hsel⟩ := h.unlatched hlatched
  have hlt := h.selected
  have hseek := seek_combine (d := { s.1 with offset := combine s.1.offset val }) rfl
    (show s.1.offset.toNat < 2 ^ 32 by omega)
  have hpos : (s.1.write s.2 3 val).1.pos = (256 * s.1.offset.toNat + val.toNat) * 512 :=
    congrArg Disk.pos hseek
  have hneed : (s.1.write s.2 3 val).1.pos = 512 * (256 * v.high.toNat + val.toNat) :=
    ha.pos rfl
  omega

lemma tracks_event {s : Disk × DiskRam} {v : Drive} (h : Tracks s v) (x : DiskEvent)
    (htransfer : x.transfers = true → v.ready = true)
    (hselect : x.selects = true → v.latched = true ∨ v.selected = 0) :
    Tracks (event s x) (v.step x) := by
  cases x with
  | ram mem => exact ⟨⟨rfl, h.sectors, h.pos⟩, h.len, h.selected, h.ram, h.latched, h.unlatched⟩
  | reg addr val =>
    by_cases h1 : addr = 1
    · subst h1
      have hram : (val.setWidth 64 * BitVec.ofNat 64 512).toNat =
          512 * val.toNat := by
        have hval := val.isLt
        rw [BitVec.toNat_mul, BitVec.toNat_setWidth, BitVec.toNat_ofNat]
        omega
      exact ⟨⟨h.mem, h.sectors, h.pos⟩, h.len, h.selected, hram, h.latched, h.unlatched⟩
    by_cases h2 : addr = 2
    · subst h2
      have hoff : (val.setWidth 64).toNat = val.toNat := by
        rw [BitVec.toNat_setWidth]
        omega
      exact ⟨⟨h.mem, h.sectors, h.pos⟩, h.len, h.selected, h.ram, fun _ => hoff, fun hl => by cases hl⟩
    by_cases h3 : addr = 3
    · subst h3
      exact tracks_select h val (hselect rfl)
    by_cases h0 : addr = 0
    · subst h0
      simp only [event, write, Drive.step, if_neg h1, if_neg h2, if_neg h3, if_true]
      have hready (hv : val &&& 0x1 ≠ 0 ∨ val &&& 0x2 ≠ 0 ∨ val &&& 0x8 ≠ 0) : v.ready = true :=
        htransfer (by simp only [DiskEvent.transfers, hv, and_self, decide_true])
      split_ifs with hr hw he
      · have hr' := hready (Or.inl hr)
        exact ⟨⟨fread_eq h hr', h.sectors, fun hc => by cases hc⟩, h.len, h.selected, h.ram,
          h.latched, h.unlatched⟩
      · have hdata : (fun i => s.2 (s.1.ram + BitVec.ofNat 64 i)) = fun i =>
            v.mem (BitVec.ofNat 64 (512 * v.page.toNat + i)) := by
          funext i
          rw [ram_add h, h.mem]
        rw [← hdata]
        exact tracks_fwrite h (hready (Or.inr (Or.inl hw))) _
      · exact tracks_fwrite h (hready (Or.inr (Or.inr he))) _
      · exact h
    · simp only [event, write, Drive.step, if_neg h1, if_neg h2, if_neg h3, if_neg h0]
      exact h

/-! ## Runs -/

lemma agrees_run_iff (l : List DiskEvent) {s : Disk × DiskRam} {v : Drive} (h : Tracks s v)
    (hsel : v.EachSelected l) :
    (∀ l', l' <+: l → Agrees (run l' s) (v.run l')) ↔ v.EachLatched l := by
  induction l generalizing s v with
  | nil =>
    refine ⟨fun _ => trivial, fun _ l' hl => ?_⟩
    rw [List.prefix_nil.mp hl]
    exact h.toAgrees
  | cons x l ih =>
    obtain ⟨hready, hsel⟩ := hsel
    constructor
    · intro hall
      have hx : x.selects = true → v.latched = true ∨ v.selected = 0 := by
        intro hs
        by_contra hne
        rw [not_or, Bool.not_eq_true] at hne
        cases x with
        | ram mem => cases hs
        | reg addr val =>
          obtain rfl : addr = 3 := of_decide_eq_true hs
          exact not_agrees_select h val hne.1 hne.2 (hall [.reg 3 val] (by simp))
      refine ⟨hx, (ih (tracks_event h x hready hx) hsel).mp fun l' hl => ?_⟩
      exact hall (x :: l') ((List.prefix_cons_inj x).mpr hl)
    · rintro ⟨hx, hlatched⟩ l' hl
      cases l' with
      | nil => exact h.toAgrees
      | cons y l' =>
        obtain ⟨rfl, hl'⟩ := List.cons_prefix_cons.mp hl
        exact (ih (tracks_event h y hready hx) hsel).mpr hlatched l' hl'

lemma reset_eq (s : Disk × DiskRam) :
    reset s = ({ s.1 with offset := 0, ram := 0, pos := 0 }, s.2) := by
  simp [reset, writes, write, seek]

/-- Reset, the disk stands at sector 0. -/
lemma tracks_reset {s : Disk × DiskRam} (hlen : 512 * 65536 ≤ s.1.len) :
    Tracks (reset s) (drive (reset s)) := by
  rw [reset_eq]
  exact ⟨⟨rfl, fun _ _ _ _ => rfl, fun _ => rfl⟩, hlen, Nat.zero_lt_succ _, rfl,
    (fun h => by cases h), fun _ => ⟨rfl, by simp [drive]⟩⟩

/-! ## A new disk -/

/-- A sector is erased. -/
lemma formatSector_eq (s : Disk × DiskRam) {k : Nat} (hk : k < 65536) :
    ∃ d : Disk, formatSector s k = (d.fwrite fun _ => 0xff, s.2) ∧ d.pos = 512 * k ∧
      d.file = s.1.file ∧ d.len = s.1.len := by
  have hhigh : ((BitVec.ofNat 8 (k / 256)).setWidth 64).toNat = k / 256 := by
    rw [BitVec.toNat_setWidth, BitVec.toNat_ofNat]
    omega
  have hlow : (BitVec.ofNat 8 k).toNat = k % 256 := BitVec.toNat_ofNat k 8
  have hseek := seek_combine (d := { s.1 with
      offset := combine ((BitVec.ofNat 8 (k / 256)).setWidth 64) (BitVec.ofNat 8 k) }) rfl
    (show ((BitVec.ofNat 8 (k / 256)).setWidth 64).toNat < 2 ^ 32 by omega)
  have hpos : (256 * (k / 256) + k % 256) * 512 = 512 * k := by omega
  rw [hhigh, hlow, hpos] at hseek
  have hselect : ({ s.1 with offset := (BitVec.ofNat 8 (k / 256)).setWidth 64 } : Disk).write s.2 3
      (BitVec.ofNat 8 k) = ({ s.1 with
        offset := combine ((BitVec.ofNat 8 (k / 256)).setWidth 64) (BitVec.ofNat 8 k)
        pos := 512 * k }, s.2) := congrArg (·, s.2) hseek
  refine ⟨{ s.1 with
    offset := combine ((BitVec.ofNat 8 (k / 256)).setWidth 64) (BitVec.ofNat 8 k)
    pos := 512 * k }, ?_, rfl, rfl, rfl⟩
  have herase (s' : Disk × DiskRam) : s'.1.write s'.2 0 0x8 = (s'.1.fwrite fun _ => 0xff, s'.2) := by
    simp [write]
  exact (congrArg (fun s' : Disk × DiskRam => s'.1.write s'.2 0 0x8) hselect).trans (herase (_, s.2))

lemma sectors_foldl_formatSector (s : Disk × DiskRam) {k : Nat} (hk : k ≤ 65536) :
    (∀ n < k, ∀ i < 512, ((List.range k).foldl formatSector s).1.sectors n i = 0xff) ∧
      512 * k ≤ ((List.range k).foldl formatSector s).1.len := by
  induction k with
  | zero => exact ⟨fun n hn => absurd hn (Nat.not_lt_zero n), Nat.zero_le _⟩
  | succ k ih =>
    obtain ⟨hff, hlen⟩ := ih (by omega)
    rw [List.range_succ, List.foldl_append, List.foldl_cons, List.foldl_nil]
    generalize (List.range k).foldl formatSector s = s' at hff hlen
    obtain ⟨d, hd, hpos, hfile, hl⟩ := formatSector_eq s' (show k < 65536 by omega)
    rw [hd]
    refine ⟨fun n hn i hi => ?_, ?_⟩
    · simp only [sectors, fwrite, SECTOR_SIZE, hpos]
      by_cases hin : 512 * k ≤ 512 * n + i ∧ 512 * n + i < 512 * k + 512
      · rw [if_pos hin]
      · rw [if_neg hin, if_pos (by omega), hfile]
        exact hff n (by omega) i hi
    · change 512 * (k + 1) ≤ max d.len (d.pos + 512)
      omega

/-- A disk just formatted has its sectors, and all of them are erased. -/
lemma sectors_format (s : Disk × DiskRam) {k : Nat} (hk : k ≤ 65536) :
    (∀ n < k, ∀ i < 512, (format k s).1.sectors n i = 0xff) ∧ 512 * k ≤ (format k s).1.len := by
  have hflush : format k s = (List.range k).foldl formatSector s := by
    simp [format, writes, write]
  rw [hflush]
  exact sectors_foldl_formatSector s hk

/-! ## Every sequence -/

/-- **The disk is an array of 65536 sectors**, in every sequence of register writes, among changes
of the memory, that selects a sector before each transfer, exactly when each selection has its high
byte written before it or comes after one of sector 0.  (The file holds all the sectors.) -/
theorem disk_is_sectors {s : Disk × DiskRam} (hlen : 512 * 65536 ≤ s.1.len) {l : List DiskEvent}
    (hsel : (drive (reset s)).EachSelected l) :
    (∀ l', l' <+: l → Agrees (run l' (reset s)) ((drive (reset s)).run l')) ↔
      (drive (reset s)).EachLatched l :=
  agrees_run_iff l (tracks_reset hlen) hsel

/-- An erased disk. -/
def erased : Disk × DiskRam := (⟨0, 0, 0, fun _ => 0xff, 512 * 65536⟩, fun _ => 0)

/-- A page of memory is written to sector 5 and read back elsewhere. -/
theorem disk_is_sectors_roundtrip :
    Agrees (run [.reg 2 0, .reg 3 5, .reg 0 2, .reg 1 1, .reg 2 0, .reg 3 5, .reg 0 1]
        (reset erased))
      ((drive (reset erased)).run
        [.reg 2 0, .reg 3 5, .reg 0 2, .reg 1 1, .reg 2 0, .reg 3 5, .reg 0 1]) := by
  refine (disk_is_sectors (s := erased) (Nat.le_refl _) ?_).mpr ?_ _ (List.prefix_refl _)
  · simp [Drive.EachSelected, DiskEvent.transfers, Drive.step, Drive.store, drive]
  · simp [Drive.EachLatched, DiskEvent.selects, Drive.step, Drive.store, drive]

/-- Sector 1 and then, by the low byte alone, sector 2: the file is at sector 131074. -/
theorem sector_two_missed :
    (run [.reg 2 0, .reg 3 1, .reg 3 2] (reset erased)).1.pos = 512 * 131074 ∧
    ((drive (reset erased)).run [.reg 2 0, .reg 3 1, .reg 3 2]).selected = 2 := by
  decide +kernel

end Disk

end Exec09
