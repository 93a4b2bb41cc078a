import Exec09.Cpu.Flat
import Exec09.Framework.Words
import Exec09.Monitor.Loader
import Mathlib.Algebra.Group.Nat.Defs

/-!
# What the loaders do with any file

What a loader stores, and when it stops, depends on the file alone.  The data records it meets in a
file are listed here (`Format.metIn`), each with the calls of `write8` it leads to and whether its
checksum is right; and both loaders are shown to make just these calls and to return 0, on every
machine (`loads_eq`).  From that follow the answers to two questions: is a file stored where it
should be, and is a corrupt record rejected.
-/

namespace Exec09

open Program Scan

variable {σ : Type} [Machine σ]

/-- Calls of `write8`, each with its address and data. -/
def storeAll (l : List (Unsigned × Unsigned)) : M σ Unit := l.forM fun c => wrmem c.1 c.2

lemma storeAll_cons (c : Unsigned × Unsigned) (l : List (Unsigned × Unsigned)) :
    (storeAll (c :: l) : M σ Unit) = (do wrmem c.1 c.2; storeAll l) := rfl

lemma storeAll_append (l l' : List (Unsigned × Unsigned)) :
    (storeAll (l ++ l') : M σ Unit) = (do storeAll l; storeAll l') := by
  induction l with
  | nil => rfl
  | cons c l ih => rw [List.cons_append, storeAll_cons, storeAll_cons, ih, bind_assoc]

namespace Load

/-- The calls that the loop over the data bytes makes, and the variables behind it. -/
def readBytes : Nat → Load → List (Unsigned × Unsigned) × Load
  | 0, v => ([], v)
  | n + 1, v =>
    let v := v.scanData
    let r := readBytes n
      { v with count := v.count - 1, addr := v.addr + 1, checksum := v.checksum + v.data }
    ((v.addr, v.data) :: r.1, r.2)

lemma bytes_eq_readBytes (n : Nat) (v : Load) :
    (bytes n v : M σ Load) = (do storeAll (readBytes n v).1; return (readBytes n v).2) := by
  induction n generalizing v with
  | zero => rfl
  | succ n ih =>
      rw [bytes]
      simp only [ih, readBytes, storeAll_cons, bind_assoc]

lemma length_readBytes (n : Nat) (v : Load) : (readBytes n v).1.length = n := by
  induction n generalizing v with
  | zero => rfl
  | succ n ih => exact congrArg Nat.succ (ih _)

/-- The calls go to consecutive addresses. -/
lemma addrs_readBytes (n : Nat) (v : Load) : (readBytes n v).1.map Prod.fst =
    (List.range n).map fun i => v.addr + BitVec.ofNat 32 i := by
  induction n generalizing v with
  | zero => rfl
  | succ n ih =>
      rw [List.range_succ_eq_map, List.map_cons, List.map_map, readBytes, List.map_cons, ih]
      congr 1
      · exact (BitVec.add_zero v.addr).symm
      · refine List.map_congr_left fun i _ => ?_
        change v.addr + 1 + BitVec.ofNat 32 i = v.addr + BitVec.ofNat 32 (i + 1)
        rw [Nat.add_comm i 1, BitVec.ofNat_add, ← BitVec.add_assoc]
        rfl

end Load

/-- The fields of a data record's header, and the text behind it. -/
structure Header where
  count : Int
  addr : Int
  rest : List Char
  deriving DecidableEq, Repr

/-- What the loaders do differently. -/
structure Format where
  /-- The header at the front of the text, if it is that of a data record. -/
  header : List Char → Option Header
  /-- What the count counts besides the data bytes. -/
  extra : Unsigned
  /-- The checksum that belongs to a sum. -/
  finish : Unsigned → Unsigned
  text : String

def s19Format : Format where
  header cs := match fscanf [.lit 'S', .hex 1, .hex 2, .hex 4] cs with
    | ([1, count, addr], rest) => some ⟨count, addr, rest⟩
    | _ => none
  extra := 3
  finish x := ~~~x &&& 0xff
  text := "invalid S record checksum."

def hexFormat : Format where
  header cs := match fscanf [.lit ':', .hex 2, .hex 4, .hex 2] cs with
    | ([count, addr, 0], rest) => some ⟨count, addr, rest⟩
    | _ => none
  extra := 0
  finish x := -x &&& 0xff
  text := "invalid hex record checksum."

/-- A data record that a loader meets: its header, the calls of `write8`, and whether its checksum
is the one that is read. -/
structure Met where
  header : Header
  stores : List (Unsigned × Unsigned)
  sound : Bool
  deriving DecidableEq, Repr

namespace Format

variable (f : Format)

/-- The variables before the loop over the data bytes. -/
def start (h : Header) (v : Load) : Load :=
  let count := BitVec.ofInt 32 h.count
  let addr := BitVec.ofInt 32 h.addr
  { v with
    fp := h.rest, count := count - f.extra, addr := addr
    checksum := count + (addr >>> 8) + (addr &&& 0xff) }

/-- Read the checksum behind the data bytes. -/
def check (w : Load) : Bool × Load :=
  let w := { w with checksum := f.finish w.checksum }
  let w := w.scanData
  if w.data ≠ w.checksum then (false, w.complain f.text) else (true, w.skipChar)

omit [Machine σ] in
lemma pure_check (w : Load) : (pure (f.check w) : M σ (Bool × Load)) =
    let w := { w with checksum := f.finish w.checksum }
    let w := w.scanData
    if w.data ≠ w.checksum then pure (false, w.complain f.text) else pure (true, w.skipChar) := by
  simp only [check]
  split <;> rfl

/-- What the loop stores for a header, and the variables behind it. -/
def body (h : Header) (v : Load) : List (Unsigned × Unsigned) × Load :=
  Load.readBytes (f.start h v).count.toNat (f.start h v)

/-- The data records met in at most `n` iterations of the loop over the records. -/
def met : Nat → Load → List Met
  | 0, _ => []
  | n + 1, v =>
    let v := { v with line := v.line + 1 }
    match f.header v.fp with
    | none => []
    | some h =>
      let c := f.check (f.body h v).2
      ⟨h, (f.body h v).1, c.1⟩ :: if c.1 then met n c.2 else []

/-- The data records met in a file. -/
def metIn (file : List Char) (data : Unsigned) : List Met :=
  f.met (file.length + 1)
    { fp := file, count := 0, addr := 0, data := data, checksum := 0, line := 0, out := [] }

/-- A loader's treatment of one record, in the terms above. -/
structure Describes (record : Load → M σ (Bool × Load)) : Prop where
  data {v : Load} {h : Header} (hh : f.header v.fp = some h) :
    record v = (do storeAll (f.body h v).1; return f.check (f.body h v).2)
  other {v : Load} (hh : f.header v.fp = none) : ∃ v', record v = pure (false, v')
  shorter {cs : List Char} {h : Header} (hh : f.header cs = some h) : h.rest.length < cs.length

end Format

/-- A literal and three fields are at least one character. -/
lemma fields_shorter {c : Char} {w₁ w₂ w₃ : Nat} {cs rest : List Char} {x y z : Int}
    (h : fscanf [.lit c, .hex w₁, .hex w₂, .hex w₃] cs = ([x, y, z], rest)) :
    rest.length < cs.length := by
  obtain ⟨cs₀, rfl, h₀⟩ := fscanf_lit_cons h (List.cons_ne_nil _ _)
  obtain ⟨cs₁, -, hl₁, h₁⟩ := fscanf_hex_cons h₀
  obtain ⟨cs₂, -, hl₂, h₂⟩ := fscanf_hex_cons h₁
  obtain ⟨cs₃, -, hl₃, h₃⟩ := fscanf_hex_cons h₂
  rw [fscanf_nil] at h₃
  obtain rfl := (Prod.mk.inj h₃).2
  simp only [List.length_cons]
  omega

omit [Machine σ] in
lemma ite_pure_false {c : Prop} [Decidable c] (v w : Load) :
    (if c then pure (false, v) else pure (false, w) : M σ (Bool × Load)) =
      pure (false, if c then v else w) := by
  split <;> rfl

lemma describes_s19 : s19Format.Describes (Load.s19Record : Load → M σ (Bool × Load)) where
  data {v h} hh := by
    simp only [s19Format] at hh
    split at hh
    · rename_i count addr rest heq
      obtain rfl := Option.some.inj hh
      rw [Load.s19Record, heq]
      simp only [Load.bytes_eq_readBytes, bind_assoc, pure_bind]
      exact congrArg (storeAll (s19Format.body ⟨count, addr, rest⟩ v).1 >>= ·)
        (funext fun _ => (s19Format.pure_check _).symm)
    · cases hh
  other {v} hh := by
    simp only [s19Format] at hh
    rw [Load.s19Record]
    split at hh
    · cases hh
    · rename_i hne
      split
      · rename_i type count addr rest heq
        dsimp only
        split
        · exact absurd heq (hne _ _ _)
        · exact ⟨_, ite_pure_false _ _⟩
        · exact ⟨_, rfl⟩
      · exact ⟨_, rfl⟩
  shorter {cs h} hh := by
    simp only [s19Format] at hh
    split at hh
    · rename_i count addr rest heq
      obtain rfl := Option.some.inj hh
      exact fields_shorter heq
    · cases hh

lemma describes_hex : hexFormat.Describes (Load.hexRecord : Load → M σ (Bool × Load)) where
  data {v h} hh := by
    simp only [hexFormat] at hh
    split at hh
    · rename_i count addr rest heq
      obtain rfl := Option.some.inj hh
      rw [Load.hexRecord, heq]
      have hsum (x : Unsigned) : x + BitVec.ofInt 32 0 = x := BitVec.add_zero x
      have hcount : BitVec.ofInt 32 count - 0 = BitVec.ofInt 32 count := BitVec.sub_zero _
      simp only [Load.bytes_eq_readBytes, bind_assoc, pure_bind, hsum]
      simp only [Format.body, Format.start, hexFormat, hcount]
      exact congrArg (storeAll _ >>= ·) (funext fun _ => (hexFormat.pure_check _).symm)
    · cases hh
  other {v} hh := by
    simp only [hexFormat] at hh
    rw [Load.hexRecord]
    split at hh
    · cases hh
    · rename_i hne
      split
      · rename_i count addr type rest heq
        dsimp only
        split
        · exact absurd heq (hne _ _ _)
        · exact ⟨_, ite_pure_false _ _⟩
        · exact ⟨_, rfl⟩
      · exact ⟨_, rfl⟩
  shorter {cs h} hh := by
    simp only [hexFormat] at hh
    split at hh
    · rename_i count addr rest heq
      obtain rfl := Option.some.inj hh
      exact fields_shorter heq
    · cases hh

/-! ## The whole file -/

lemma scanData_length (v : Load) : v.scanData.fp.length ≤ v.fp.length := by
  have h := fscanf_hex_length 2 v.fp
  simpa [Load.scanData] using h

lemma readBytes_length (n : Nat) (v : Load) : (Load.readBytes n v).2.fp.length ≤ v.fp.length := by
  induction n generalizing v with
  | zero => exact Nat.le_refl _
  | succ n ih => exact Nat.le_trans (ih _) (scanData_length v)

namespace Format

variable (f : Format)

lemma check_length (w : Load) : (f.check w).2.fp.length ≤ w.fp.length := by
  have h := scanData_length { w with checksum := f.finish w.checksum }
  simp only [check]
  split
  · exact h
  · simp only [Load.skipChar, List.length_tail]
    exact Nat.le_trans (Nat.sub_le _ _) h

/-- **The records of a file**: with an iteration for every character, and one more, the loop ends,
and it has made the calls of the records met. -/
lemma records_eq_met {record : Load → M σ (Bool × Load)} (hf : f.Describes record) {n : Nat}
    {v : Load} (hn : v.fp.length < n) :
    ∃ w, Load.records record n v =
      (do storeAll ((f.met n v).flatMap Met.stores); return some w) := by
  induction n generalizing v with
  | zero => cases hn
  | succ n ih =>
      rw [Load.records, met]
      cases hh : f.header v.fp with
      | none =>
          obtain ⟨w, hw⟩ := hf.other (v := { v with line := v.line + 1 }) hh
          refine ⟨w, ?_⟩
          rw [hw]
          rfl
      | some h =>
          rw [hf.data (v := { v with line := v.line + 1 }) hh]
          -- the text left is shorter, as the header has been read
          have hlen : (f.check (f.body h { v with line := v.line + 1 }).2).2.fp.length < n := by
            have hcheck := f.check_length (f.body h { v with line := v.line + 1 }).2
            have hbody := readBytes_length (f.start h { v with line := v.line + 1 }).count.toNat
              (f.start h { v with line := v.line + 1 })
            have hshort := hf.shorter hh
            change (f.body h { v with line := v.line + 1 }).2.fp.length ≤ h.rest.length at hbody
            omega
          simp only [bind_assoc, pure_bind, List.flatMap_cons]
          generalize f.check (f.body h { v with line := v.line + 1 }).2 = c at hlen ⊢
          cases hc : c.1 with
          | false =>
              refine ⟨c.2, ?_⟩
              simp
          | true =>
              obtain ⟨w, hw⟩ := ih hlen
              refine ⟨w, ?_⟩
              simp only [if_true, hw, storeAll_append, bind_assoc]

end Format

/-- **What the loaders do with any file**: they make the calls of the data records met, and return
0. -/
lemma loads_eq (name : String) (file : List Char) (data : Unsigned) :
    (∃ out, (loadS19 name (some file) data : M σ (Option Loaded)) =
      (do storeAll ((s19Format.metIn file data).flatMap Met.stores); return some ⟨0, out⟩)) ∧
    ∃ out, (loadHex name (some file) data : M σ (Option Loaded)) =
      (do storeAll ((hexFormat.metIn file data).flatMap Met.stores); return some ⟨0, out⟩) := by
  constructor
  · obtain ⟨w, hw⟩ := s19Format.records_eq_met (σ := σ) describes_s19 (v :=
      { fp := file, count := 0, addr := 0, data := data, checksum := 0, line := 0, out := [] })
      (Nat.lt_succ_self file.length)
    refine ⟨w.out, ?_⟩
    simp only [loadS19, loadWith, hw, bind_assoc, pure_bind]
    rfl
  · obtain ⟨w, hw⟩ := hexFormat.records_eq_met (σ := σ) describes_hex (v :=
      { fp := file, count := 0, addr := 0, data := data, checksum := 0, line := 0, out := [] })
      (Nat.lt_succ_self file.length)
    refine ⟨w.out, ?_⟩
    simp only [loadHex, loadWith, hw, bind_assoc, pure_bind]
    rfl

/-! ## Where an S-record file is stored -/

/-- A record met has been read somewhere in the file. -/
lemma Format.mem_met {f : Format} {n : Nat} {v : Load} {r : Met} (hr : r ∈ f.met n v) :
    ∃ u, f.header u.fp = some r.header ∧ r.stores = (f.body r.header u).1 := by
  induction n generalizing v with
  | zero => cases hr
  | succ n ih =>
      rw [met] at hr
      cases hh : f.header v.fp with
      | none =>
          rw [hh] at hr
          cases hr
      | some h =>
          rw [hh] at hr
          rcases List.mem_cons.mp hr with rfl | hr
          · exact ⟨{ v with line := v.line + 1 }, hh, rfl⟩
          · split at hr
            · exact ih hr
            · cases hr

/-- The record at the front of the text is met first. -/
lemma Format.mem_met_first {f : Format} {n : Nat} {v : Load} {h : Header}
    (hh : f.header v.fp = some h) :
    ⟨h, (f.body h { v with line := v.line + 1 }).1,
      (f.check (f.body h { v with line := v.line + 1 }).2).1⟩ ∈ f.met (n + 1) v := by
  rw [met, hh]
  exact List.mem_cons_self

/-- The numbers in the header of an S-record. -/
lemma s19Header_bounds {cs : List Char} {h : Header} (hh : s19Format.header cs = some h) :
    -16 < h.count ∧ h.count < 256 ∧ -4096 < h.addr ∧ h.addr < 65536 := by
  simp only [s19Format] at hh
  split at hh
  · rename_i count addr rest heq
    obtain rfl := Option.some.inj hh
    obtain ⟨cs₀, -, h₀⟩ := fscanf_lit_cons heq (List.cons_ne_nil _ _)
    obtain ⟨cs₁, -, -, h₁⟩ := fscanf_hex_cons h₀
    obtain ⟨cs₂, hcount, -, h₂⟩ := fscanf_hex_cons h₁
    obtain ⟨cs₃, haddr, -, -⟩ := fscanf_hex_cons h₂
    have hc := number_bounds hcount
    have ha := number_bounds haddr
    norm_num at hc ha
    exact ⟨hc.1, hc.2, ha.1, ha.2⟩
  · cases hh

/-- How many bytes the loop is to read: a count below 3 wraps around. -/
lemma s19_iterations {h : Header} (hc : -16 < h.count) (hc' : h.count < 256) (v : Load) :
    ((s19Format.start h v).count.toNat : Int) =
      if 3 ≤ h.count then h.count - 3 else 2 ^ 32 + h.count - 3 := by
  have h3 : ((3 : Unsigned).toNat : Int) = 3 := rfl
  have hcount : (((BitVec.ofInt 32 h.count).toNat : Nat) : Int) =
      if 0 ≤ h.count then h.count else 2 ^ 32 + h.count := by
    rw [BitVec.toNat_ofInt]
    split <;> omega
  change (((BitVec.ofInt 32 h.count - 3).toNat : Nat) : Int) = _
  rw [BitVec.toNat_sub]
  split at hcount <;> split <;> omega

/-- The bytes of a record stay below 65536 just when it ends there. -/
lemma s19_addresses {a : Int} (ha : -4096 < a) (ha' : a < 65536) {n : Nat} (hn : n ≤ 252) :
    (∀ i < n, (BitVec.ofInt 32 a + BitVec.ofNat 32 i : Unsigned).toNat < 65536) ↔
      n = 0 ∨ 0 ≤ a ∧ a + n ≤ 65536 := by
  have hadd {i : Nat} (hi : i < n) (h0 : 0 ≤ a) :
      ((BitVec.ofInt 32 a + BitVec.ofNat 32 i : Unsigned).toNat : Int) = a + i := by
    rw [BitVec.toNat_add, BitVec.toNat_ofInt, BitVec.toNat_ofNat]
    omega
  constructor
  · intro hall
    by_cases h0 : n = 0
    · exact Or.inl h0
    have hfirst := hall 0 (by omega)
    have hnonneg : 0 ≤ a := by
      rw [BitVec.toNat_add, BitVec.toNat_ofInt, BitVec.toNat_ofNat] at hfirst
      omega
    have hlast := hall (n - 1) (by omega)
    have hlast' := hadd (i := n - 1) (by omega) hnonneg
    exact Or.inr ⟨hnonneg, by omega⟩
  · rintro (rfl | ⟨h0, hend⟩) i hi
    · cases hi
    · have h := hadd hi h0
      omega

/-- **Where an S-record file is stored.**  For every file `load_s19` ends, having made the calls of
the records met.  It stores at most 252 bytes for each S1 record, all of them below 65536, exactly
when each S1 record met has a count of at least 3 and, if there are data bytes, a nonnegative
address and its end at 65536 at most. -/
theorem s19_confined (name : String) (file : List Char) (data : Unsigned) :
    (∃ out, (loadS19 name (some file) data : M σ (Option Loaded)) =
      (do storeAll ((s19Format.metIn file data).flatMap Met.stores); return some ⟨0, out⟩)) ∧
    ((∀ r ∈ s19Format.metIn file data, r.stores.length ≤ 252 ∧
        ∀ c ∈ r.stores, c.1.toNat < 65536) ↔
      ∀ r ∈ s19Format.metIn file data, 3 ≤ r.header.count ∧ (r.header.count = 3 ∨
        0 ≤ r.header.addr ∧ r.header.addr + (r.header.count - 3) ≤ 65536)) := by
  refine ⟨(loads_eq name file data).1, forall₂_congr fun r hr => ?_⟩
  obtain ⟨u, hh, hst⟩ := Format.mem_met hr
  obtain ⟨hc, hc', ha, ha'⟩ := s19Header_bounds hh
  have hn := s19_iterations hc hc' u
  have hlen : r.stores.length = (s19Format.start r.header u).count.toNat := by
    rw [hst]
    exact Load.length_readBytes _ _
  have haddr : (∀ c ∈ r.stores, c.1.toNat < 65536) ↔
      ∀ i < (s19Format.start r.header u).count.toNat,
        (BitVec.ofInt 32 r.header.addr + BitVec.ofNat 32 i : Unsigned).toNat < 65536 := by
    have hmap : r.stores.map Prod.fst = (List.range (s19Format.start r.header u).count.toNat).map
        fun i => BitVec.ofInt 32 r.header.addr + BitVec.ofNat 32 i := by
      rw [hst]
      exact Load.addrs_readBytes _ _
    rw [← List.forall_mem_map (f := Prod.fst) (P := fun a : Unsigned => a.toNat < 65536), hmap,
      List.forall_mem_map]
    simp only [List.mem_range]
  rw [hlen, haddr]
  generalize (s19Format.start r.header u).count.toNat = n at hn ⊢
  constructor
  · rintro ⟨hle, hall⟩
    have h3 : 3 ≤ r.header.count := by
      by_contra hlt
      rw [if_neg hlt] at hn
      omega
    rw [if_pos h3] at hn
    refine ⟨h3, ?_⟩
    rcases (s19_addresses ha ha' hle).mp hall with h0 | ⟨h0, hend⟩
    · exact Or.inl (by omega)
    · exact Or.inr ⟨h0, by omega⟩
  · rintro ⟨h3, hend⟩
    rw [if_pos h3] at hn
    have hle : n ≤ 252 := by omega
    refine ⟨hle, (s19_addresses ha ha' hle).mpr ?_⟩
    rcases hend with h0 | ⟨h0, hend⟩
    · exact Or.inl (by omega)
    · exact Or.inr ⟨h0, by omega⟩

/-- A record of two bytes at 0xFFFF, with a right checksum: the second one goes to 65536.  A record
with a count of 2: 4294967295 bytes. -/
theorem s19_not_confined :
    s19Format.metIn "S105FFFF1234B6\n".toList 0 =
      [⟨⟨5, 0xffff, "1234B6\n".toList⟩, [(0xffff, 0x12), (0x10000, 0x34)], true⟩] ∧
    ∃ r ∈ s19Format.metIn "S1020000".toList 0, r.stores.length = 4294967295 := by
  refine ⟨by decide +kernel, ?_⟩
  have hh : s19Format.header "S1020000".toList = some ⟨2, 0, []⟩ := by decide +kernel
  have hmem := Format.mem_met_first (n := 8) (v := ⟨"S1020000".toList, 0, 0, 0, 0, 0, []⟩) hh
  refine ⟨_, hmem, ?_⟩
  rw [Format.body, Load.length_readBytes]
  decide +kernel

/-! ## Corrupt records -/

/-- Where the loader meets a record with a wrong checksum, it has stored the records before it and
nothing else, and has the program not started. -/
def Rejects (f : Format) (load : ∀ (σ : Type) [Machine σ], M σ (Option Loaded)) (file : List Char)
    (data : Unsigned) : Prop :=
  ∀ before bad after, f.metIn file data = before ++ bad :: after → bad.sound = false →
    ∃ l : Loaded, l.starts = false ∧ ∀ (σ : Type) [Machine σ],
      load σ = (do storeAll (before.flatMap Met.stores); return some l)

/-- Stores into plain memory always come to an end. -/
lemma storeAll_flat (l : List (Unsigned × Unsigned)) (s : Cpu Flat) :
    ∃ t, (storeAll l : M Flat Unit) s = .ok ((), t) := by
  induction l generalizing s with
  | nil => exact ⟨s, rfl⟩
  | cons c l ih =>
      have hstep : (wrmem c.1 c.2 : M Flat Unit) s =
          .ok ((), { s with world := s.world.put c.1 (c.2.setWidth 8) }) := rfl
      obtain ⟨t, ht⟩ := ih { s with world := s.world.put c.1 (c.2.setWidth 8) }
      exact ⟨t, (ok_bind hstep).trans ht⟩

/-- Two such programs that are the same return the same. -/
lemma return_flat {l l' : List (Unsigned × Unsigned)} {x y : Option Loaded}
    (h : (do storeAll l; return x : M Flat (Option Loaded)) = (do storeAll l'; return y)) :
    x = y := by
  obtain ⟨t, ht⟩ := storeAll_flat l (Cpu.zeroed ⟨[]⟩)
  obtain ⟨t', ht'⟩ := storeAll_flat l' (Cpu.zeroed ⟨[]⟩)
  have happ := congrFun h (Cpu.zeroed ⟨[]⟩)
  rw [ok_bind ht, ok_bind ht'] at happ
  exact (Prod.mk.inj (Except.ok.inj happ)).1

/-- A loader that returns 0 for every file rejects nothing. -/
lemma rejects_iff {f : Format} {load : ∀ (σ : Type) [Machine σ], M σ (Option Loaded)}
    {file : List Char} {data : Unsigned}
    (hload : ∃ out, load Flat =
      (do storeAll ((f.metIn file data).flatMap Met.stores); return some ⟨0, out⟩)) :
    Rejects f load file data ↔ ∀ r ∈ f.metIn file data, r.sound = true := by
  constructor
  · intro hrej r hr
    by_contra hbad
    rw [Bool.not_eq_true] at hbad
    obtain ⟨before, after, hmet⟩ := List.append_of_mem hr
    obtain ⟨l, hl, hall⟩ := hrej before r after hmet hbad
    obtain ⟨out, hout⟩ := hload
    obtain rfl := Option.some.inj (return_flat (hout.symm.trans (hall Flat)))
    cases hl
  · intro hall before bad after hmet hbad
    have hmem : bad ∈ f.metIn file data := by
      rw [hmet]
      exact List.mem_append_right before List.mem_cons_self
    rw [hall bad hmem] at hbad
    cases hbad

/-- **Corrupt records are never rejected**: the loaders do what is asked of them with just the files
in which they meet no such record. -/
theorem corrupt_records_rejected_iff (name : String) (file : List Char) (data : Unsigned) :
    (Rejects s19Format (fun _ _ => loadS19 name (some file) data) file data ↔
      ∀ r ∈ s19Format.metIn file data, r.sound = true) ∧
    (Rejects hexFormat (fun _ _ => loadHex name (some file) data) file data ↔
      ∀ r ∈ hexFormat.metIn file data, r.sound = true) :=
  ⟨rejects_iff (loads_eq name file data).1, rejects_iff (loads_eq name file data).2⟩

/-- One byte with a wrong checksum: it is stored, and the program is started. -/
theorem corrupt_record_loaded :
    s19Format.metIn "S1040000FF00\n".toList 0 =
      [⟨⟨4, 0, "FF00\n".toList⟩, [(0, 0xff)], false⟩] ∧
    ((loadS19 "a.s19" (some "S1040000FF00\n".toList) 0 : M Flat (Option Loaded))
        (Cpu.zeroed ⟨[]⟩)).toOption.map (fun p => (p.1, p.2.world.mem)) =
      some (some ⟨0, ["line 1: invalid S record checksum.\n"]⟩, [(0, 0xff)]) ∧
    ((loadHex "a.hex" (some ":01000000FF01\n".toList) 0 : M Flat (Option Loaded))
        (Cpu.zeroed ⟨[]⟩)).toOption.map (fun p => (p.1, p.2.world.mem)) =
      some (some ⟨0, ["line 1: invalid hex record checksum.\n"]⟩, [(0, 0xff)]) := by
  decide +kernel

end Exec09
