import Mathlib
import Exec09.Cpu.Flat
import Exec09.Framework.Words
import Exec09.Monitor.Loader

/-!
# Loading an image

An image is a list of data records.  Its S-record text and its hex text are built here from the
definition of the formats, bytes in upper-case hexadecimal and a checksum at the end of each record,
and the loaders are shown to carry out the stores of the records, in order, and to return 0.
-/

namespace Exec09

open Program Scan

variable {σ : Type} [Machine σ]

/-- Bytes for consecutive addresses. -/
structure DataRecord where
  addr : U16
  bytes : List U8
  deriving DecidableEq, Repr

/-- Store bytes from an address on. -/
def storeBytes : Unsigned → List U8 → M σ Unit
  | _, [] => pure ()
  | a, b :: l => do
    wrmem a (b.setWidth 32)
    storeBytes (a + 1) l

def DataRecord.store (r : DataRecord) : M σ Unit := storeBytes (r.addr.setWidth 32) r.bytes

/-! ## The two formats -/

/-- A byte in text. -/
def hex2 (b : U8) : List Char := hexField 2 b.toNat

/-- An address in text. -/
def hex4 (w : U16) : List Char := hexField 4 w.toNat

/-- The bytes of an address and of the data, added up. -/
def sumBytes (addr : U16) (bytes : List U8) : U8 :=
  (addr >>> 8).setWidth 8 + addr.setWidth 8 + bytes.sum

/-- An S-record: type, count, address, data and the one's complement of the sum. -/
def s19Line (type : Nat) (addr : U16) (bytes : List U8) : List Char :=
  let count := BitVec.ofNat 8 (bytes.length + 3)
  'S' :: hexField 1 type ++ hex2 count ++ hex4 addr ++ bytes.flatMap hex2 ++
    hex2 (~~~(count + sumBytes addr bytes))

/-- A hex record: count, address, type, data and the two's complement of the sum. -/
def hexLine (type : Nat) (addr : U16) (bytes : List U8) : List Char :=
  let count := BitVec.ofNat 8 bytes.length
  ':' :: hex2 count ++ hex4 addr ++ hexField 2 type ++ bytes.flatMap hex2 ++
    hex2 (-(count + BitVec.ofNat 8 type + sumBytes addr bytes))

/-- The records, a line each, and the closing record; `start` is the address it carries. -/
def encodeS19 (start : U16) (rs : List DataRecord) : List Char :=
  rs.flatMap (fun r => s19Line 1 r.addr r.bytes ++ ['\n']) ++ s19Line 9 start []

def encodeHex (start : U16) (rs : List DataRecord) : List Char :=
  rs.flatMap (fun r => hexLine 0 r.addr r.bytes ++ ['\n']) ++ hexLine 1 start []

-- the closing records as programs write them
example : encodeS19 0 [] = "S9030000FC".toList := by decide
example : encodeHex 0 [] = ":00000001FF".toList := by decide
example : encodeS19 0 [⟨0x7af0, [0x0a, 0x0a, 0x0d]⟩] = "S1067AF00A0A0D6E\nS9030000FC".toList := by
  decide

/-! ## Reading bytes -/

lemma fscanf_hex2 (b : U8) (fmt : List Directive) (cs : List Char) :
    fscanf (.hex 2 :: fmt) (hex2 b ++ cs) = ((b.toNat : Int) :: (fscanf fmt cs).1, (fscanf fmt cs).2) :=
  fscanf_hexField (by decide) b.isLt fmt cs

lemma fscanf_hex4 (w : U16) (fmt : List Directive) (cs : List Char) :
    fscanf (.hex 4 :: fmt) (hex4 w ++ cs) = ((w.toNat : Int) :: (fscanf fmt cs).1, (fscanf fmt cs).2) :=
  fscanf_hexField (by decide) w.isLt fmt cs

namespace Load

lemma scanData_hex2 {v : Load} {b : U8} {cs : List Char} (h : v.fp = hex2 b ++ cs) :
    v.scanData = { v with fp := cs, data := b.setWidth 32 } := by
  simp [scanData, h, fscanf_hex2, BitVec.ofInt_natCast, BitVec.ofNat_toNat]

/-- The variables after the loop over the data bytes. -/
def passed : List U8 → Load → Load
  | [], v => v
  | b :: l, v => passed l
      { v with
        fp := v.fp.drop 2, data := b.setWidth 32, count := v.count - 1, addr := v.addr + 1
        checksum := v.checksum + b.setWidth 32 }

lemma hex2_append (b : U8) (cs : List Char) : (hex2 b ++ cs).drop 2 = cs := rfl

/-- The loop stores the bytes it reads. -/
lemma bytes_eq {l : List U8} {v : Load} {cs : List Char} (h : v.fp = l.flatMap hex2 ++ cs) :
    (bytes l.length v : M σ Load) = (do storeBytes v.addr l; return passed l v) := by
  induction l generalizing v with
  | nil => simp [bytes, storeBytes, passed]
  | cons b l ih =>
      rw [List.flatMap_cons, List.append_assoc] at h
      have hd : v.fp.drop 2 = l.flatMap hex2 ++ cs := by rw [h, hex2_append]
      rw [List.length_cons, bytes, scanData_hex2 h]
      simp only [storeBytes, bind_assoc]
      rw [ih rfl, passed, hd]

lemma passed_fp {l : List U8} {v : Load} {cs : List Char} (h : v.fp = l.flatMap hex2 ++ cs) :
    (passed l v).fp = cs := by
  induction l generalizing v with
  | nil => exact h
  | cons b l ih =>
      refine ih ?_
      rw [List.flatMap_cons, List.append_assoc] at h
      exact (congrArg (List.drop 2) h).trans (hex2_append b _)

lemma passed_out (l : List U8) (v : Load) : (passed l v).out = v.out := by
  induction l generalizing v with
  | nil => rfl
  | cons b l ih => exact ih _

/-- The low byte of the running checksum. -/
lemma passed_checksum (l : List U8) (v : Load) :
    (passed l v).checksum.setWidth 8 = v.checksum.setWidth 8 + l.sum := by
  induction l generalizing v with
  | nil => simp [passed]
  | cons b l ih =>
      rw [passed, ih, List.sum_cons, ← BitVec.add_assoc, BitVec.setWidth_add _ _ (by decide)]
      simp

end Load

/-! ## Checksums -/

lemma low_byte (x : Unsigned) : x &&& 0xff = (x.setWidth 8).setWidth 32 := by
  apply BitVec.eq_of_toNat_eq
  rw [Words.toNat_and_low 8 (by decide), BitVec.toNat_setWidth, BitVec.toNat_setWidth]
  have hx := x.isLt
  omega

/-- The two bytes of an address, as the loaders add them. -/
lemma address_bytes (w : U16) :
    ((w.setWidth 32 : Unsigned) >>> 8).setWidth 8 + ((w.setWidth 32 : Unsigned) &&& 0xff).setWidth 8 =
      (w >>> 8).setWidth 8 + w.setWidth 8 := by
  have hhi : ((w.setWidth 32 : Unsigned) >>> 8).setWidth 8 = (w >>> 8).setWidth 8 := by
    apply BitVec.eq_of_toNat_eq
    simp only [BitVec.toNat_setWidth, BitVec.toNat_ushiftRight, Nat.shiftRight_eq_div_pow]
    have hw := w.isLt
    omega
  have hlo : ((w.setWidth 32 : Unsigned) &&& 0xff).setWidth 8 = w.setWidth 8 := by
    rw [low_byte, BitVec.setWidth_setWidth_of_le _ (by decide), BitVec.setWidth_eq,
      BitVec.setWidth_setWidth_of_le _ (by decide)]
  rw [hhi, hlo]

lemma setWidth8_add (x y : Unsigned) : (x + y).setWidth 8 = x.setWidth 8 + y.setWidth 8 :=
  BitVec.setWidth_add x y (by decide)

/-! ## One record -/

namespace Load

/-- The rest of a data record, the checksum that is read being the one that has been worked out. -/
lemma data_tail {l : List U8} {u : Load} {b : U8} {cs : List Char} {f : Unsigned → Unsigned}
    (text : String) (h : u.fp = l.flatMap hex2 ++ (hex2 b ++ '\n' :: cs))
    (hf : f (passed l u).checksum = b.setWidth 32) :
    ∃ v', (do
        let v ← bytes l.length u
        let v := { v with checksum := f v.checksum }
        let v := v.scanData
        if v.data ≠ v.checksum then return (false, v.complain text)
        else return (true, v.skipChar) : M σ (Bool × Load)) =
          (do storeBytes u.addr l; return (true, v')) ∧ v'.fp = cs ∧ v'.out = u.out := by
  have hfp := passed_fp h
  have hout := passed_out l u
  rw [bytes_eq h]
  generalize passed l u = w at hf hfp hout
  have hread : { w with checksum := f w.checksum }.scanData =
      { w with fp := '\n' :: cs, data := b.setWidth 32, checksum := f w.checksum } :=
    scanData_hex2 hfp
  refine ⟨{ w with fp := cs, data := b.setWidth 32, checksum := f w.checksum }, ?_, rfl, hout⟩
  simp only [bind_assoc, pure_bind, hread]
  rw [if_neg (not_not.mpr hf.symm)]
  rfl

omit [Machine σ] in
/-- The rest of a closing record. -/
lemma end_tail {u : Load} {b : U8} {cs : List Char} (text : String) (h : u.fp = hex2 b ++ cs)
    (hf : u.checksum = b.setWidth 32) :
    ∃ v', (if u.scanData.data ≠ u.scanData.checksum then
        pure (false, u.scanData.complain text)
        else pure (false, u.scanData) : M σ (Bool × Load)) = pure (false, v') ∧ v'.out = u.out := by
  have hread := scanData_hex2 h
  refine ⟨u.scanData, if_neg (not_not.mpr ?_), ?_⟩
  · rw [hread]
    exact hf.symm
  · rw [hread]

lemma complement_low_byte {x : Unsigned} {y : U8} (h : x.setWidth 8 = y) :
    ~~~x &&& 0xff = (~~~y).setWidth 32 := by
  rw [low_byte, BitVec.setWidth_not (by decide), h]

lemma negate_low_byte {x : Unsigned} {y : U8} (h : x.setWidth 8 = y) :
    -x &&& 0xff = (-y).setWidth 32 := by
  rw [low_byte, BitVec.setWidth_neg_of_le (by decide), h]

lemma fscanf_s19Line (addr : U16) (l : List U8) (type : Nat) (ht : type < 16) (cs : List Char) :
    fscanf [.lit 'S', .hex 1, .hex 2, .hex 4] (s19Line type addr l ++ cs) =
      ([(type : Int), ((BitVec.ofNat 8 (l.length + 3)).toNat : Int), (addr.toNat : Int)], l.flatMap hex2 ++
        (hex2 (~~~(BitVec.ofNat 8 (l.length + 3) + sumBytes addr l)) ++ cs)) := by
  simp only [s19Line, List.cons_append, List.append_assoc, fscanf_lit]
  rw [fscanf_hexField (by decide) ht, fscanf_hex2, fscanf_hex4, fscanf_nil]

lemma fscanf_hexLine (addr : U16) (l : List U8) (type : Nat) (ht : type < 256) (cs : List Char) :
    fscanf [.lit ':', .hex 2, .hex 4, .hex 2] (hexLine type addr l ++ cs) =
      ([((BitVec.ofNat 8 l.length).toNat : Int), (addr.toNat : Int), (type : Int)], l.flatMap hex2 ++
        (hex2 (-(BitVec.ofNat 8 l.length + BitVec.ofNat 8 type + sumBytes addr l)) ++ cs)) := by
  simp only [hexLine, List.cons_append, List.append_assoc, fscanf_lit]
  rw [fscanf_hex2, fscanf_hex4, fscanf_hexField (by decide) ht, fscanf_nil]

/-- What the loaders add up before the data bytes. -/
lemma header_checksum (count : U8) (addr : U16) :
    ((count.setWidth 32 : Unsigned) + ((addr.setWidth 32 : Unsigned) >>> 8) +
      ((addr.setWidth 32 : Unsigned) &&& 0xff)).setWidth 8 =
        count + ((addr >>> 8).setWidth 8 + addr.setWidth 8) := by
  rw [setWidth8_add, setWidth8_add, BitVec.add_assoc, address_bytes,
    BitVec.setWidth_setWidth_of_le _ (by decide), BitVec.setWidth_eq]

/-- An S1 record stores its bytes, and the loop goes on behind its line. -/
lemma s19Record_data (r : DataRecord) (hr : r.bytes.length ≤ 252) {v : Load} {cs : List Char}
    (h : v.fp = s19Line 1 r.addr r.bytes ++ '\n' :: cs) :
    ∃ v', (s19Record v : M σ (Bool × Load)) = (do r.store; return (true, v')) ∧
      v'.fp = cs ∧ v'.out = v.out := by
  have hscan := (congrArg _ h).trans (fscanf_s19Line r.addr r.bytes 1 (by decide) ('\n' :: cs))
  rw [s19Record, hscan]
  simp only [BitVec.ofInt_natCast, BitVec.ofNat_toNat]
  generalize hc : BitVec.ofNat 8 (r.bytes.length + 3) = count
  have hcount : ((count.setWidth 32 : Unsigned) - 3).toNat = r.bytes.length := by
    have h3 : (3 : Unsigned).toNat = 3 := rfl
    simp only [← hc, BitVec.toNat_sub, BitVec.toNat_setWidth, BitVec.toNat_ofNat, h3]
    omega
  rw [hcount]
  refine data_tail (f := fun x => ~~~x &&& 0xff) _ rfl
    (complement_low_byte ((passed_checksum _ _).trans ?_))
  rw [header_checksum, sumBytes, BitVec.add_assoc, BitVec.add_assoc]

/-- An S9 record ends the loop. -/
lemma s19Record_end (start : U16) {v : Load} {cs : List Char} (h : v.fp = s19Line 9 start [] ++ cs) :
    ∃ v', (s19Record v : M σ (Bool × Load)) = pure (false, v') ∧ v'.out = v.out := by
  have hscan := (congrArg _ h).trans (fscanf_s19Line start [] 9 (by decide) cs)
  rw [s19Record, hscan]
  simp only [BitVec.ofInt_natCast, BitVec.ofNat_toNat]
  refine end_tail _ rfl (complement_low_byte ?_)
  rw [header_checksum, sumBytes, List.sum_nil, BitVec.ofNat_eq_ofNat, BitVec.add_zero]

/-- A hex data record stores its bytes, and the loop goes on behind its line. -/
lemma hexRecord_data (r : DataRecord) (hr : r.bytes.length ≤ 255) {v : Load} {cs : List Char}
    (h : v.fp = hexLine 0 r.addr r.bytes ++ '\n' :: cs) :
    ∃ v', (hexRecord v : M σ (Bool × Load)) = (do r.store; return (true, v')) ∧
      v'.fp = cs ∧ v'.out = v.out := by
  have hscan := (congrArg _ h).trans (fscanf_hexLine r.addr r.bytes 0 (by decide) ('\n' :: cs))
  rw [hexRecord, hscan]
  simp only [BitVec.ofInt_natCast, BitVec.ofNat_toNat]
  generalize hc : BitVec.ofNat 8 r.bytes.length = count
  have hcount : (count.setWidth 32 : Unsigned).toNat = r.bytes.length := by
    simp only [← hc, BitVec.toNat_setWidth, BitVec.toNat_ofNat]
    omega
  rw [hcount]
  refine data_tail (f := fun x => -x &&& 0xff) _ rfl
    (negate_low_byte ((passed_checksum _ _).trans ?_))
  rw [setWidth8_add, header_checksum, sumBytes, BitVec.add_zero, BitVec.add_assoc, BitVec.add_assoc]
  simp

/-- A type-01 record ends the loop. -/
lemma hexRecord_end (start : U16) {v : Load} {cs : List Char} (h : v.fp = hexLine 1 start [] ++ cs) :
    ∃ v', (hexRecord v : M σ (Bool × Load)) = pure (false, v') ∧ v'.out = v.out := by
  have hscan := (congrArg _ h).trans (fscanf_hexLine start [] 1 (by decide) cs)
  rw [hexRecord, hscan]
  simp only [BitVec.ofInt_natCast, BitVec.ofNat_toNat]
  refine end_tail _ rfl (negate_low_byte ?_)
  rw [setWidth8_add, header_checksum, sumBytes, List.sum_nil, BitVec.ofNat_eq_ofNat, BitVec.add_zero,
    BitVec.add_assoc _ _ (BitVec.setWidth 8 1#32), BitVec.add_comm _ (BitVec.setWidth 8 1#32),
    ← BitVec.add_assoc]
  rfl

/-! ## All records -/

/-- A loader that stores the data records and stops at the closing one, whatever the format. -/
structure Reads (record : Load → M σ (Bool × Load)) (line : DataRecord → List Char)
    (closing : List Char) (limit : Nat) : Prop where
  data (r : DataRecord) (hr : r.bytes.length ≤ limit) {v : Load} {cs : List Char}
    (h : v.fp = line r ++ '\n' :: cs) :
    ∃ v', record v = (do r.store; return (true, v')) ∧ v'.fp = cs ∧ v'.out = v.out
  closing {v : Load} {cs : List Char} (h : v.fp = closing ++ cs) :
    ∃ v', record v = pure (false, v') ∧ v'.out = v.out

lemma records_eq {record : Load → M σ (Bool × Load)} {line : DataRecord → List Char}
    {closing : List Char} {limit : Nat} (hrec : Reads record line closing limit)
    {rs : List DataRecord} (hrs : ∀ r ∈ rs, r.bytes.length ≤ limit) {n : Nat} (hn : rs.length < n)
    {v : Load} {cs : List Char}
    (h : v.fp = rs.flatMap (fun r => line r ++ ['\n']) ++ closing ++ cs) :
    ∃ v', records record n v = (do rs.forM DataRecord.store; return some v') ∧ v'.out = v.out := by
  induction rs generalizing n v with
  | nil =>
      obtain ⟨m, rfl⟩ := Nat.exists_eq_succ_of_ne_zero (Nat.ne_zero_of_lt hn)
      obtain ⟨v', hv', hout⟩ := hrec.closing (v := { v with line := v.line + 1 }) h
      refine ⟨v', ?_, hout⟩
      simp [records, hv']
  | cons r rs ih =>
      obtain ⟨m, rfl⟩ := Nat.exists_eq_succ_of_ne_zero (Nat.ne_zero_of_lt hn)
      obtain ⟨u, hu, hfp, hout⟩ := hrec.data r (hrs r (by simp))
        (v := { v with line := v.line + 1 })
        (show _ = line r ++ '\n' :: (rs.flatMap (fun r => line r ++ ['\n']) ++ closing ++ cs) by
          simp [h])
      obtain ⟨v', hv', hout'⟩ := ih (fun r hr => hrs r (List.mem_cons_of_mem _ hr))
        (Nat.lt_of_succ_lt_succ hn) hfp
      refine ⟨v', ?_, hout'.trans hout⟩
      rw [records, hu]
      simp [hv']

lemma reads_s19 (start : U16) :
    Reads (s19Record : Load → M σ (Bool × Load)) (fun r => s19Line 1 r.addr r.bytes)
      (s19Line 9 start []) 252 where
  data r hr _ _ := s19Record_data r hr
  closing := s19Record_end start

lemma reads_hex (start : U16) :
    Reads (hexRecord : Load → M σ (Bool × Load)) (fun r => hexLine 0 r.addr r.bytes)
      (hexLine 1 start []) 255 where
  data r hr _ _ := hexRecord_data r hr
  closing := hexRecord_end start

end Load

lemma length_le_flatMap (line : DataRecord → List Char) (rs : List DataRecord) :
    rs.length ≤ (rs.flatMap fun r => line r ++ ['\n']).length := by
  induction rs with
  | nil => simp
  | cons r rs ih =>
      simp only [List.flatMap_cons, List.length_append, List.length_cons, List.length_nil]
      omega

/-- A loader given the text of an image, and possibly more text behind the closing record. -/
lemma loadWith_eq {record : Load → M σ (Bool × Load)} {line : DataRecord → List Char}
    {closing : List Char} {limit : Nat} (hrec : Load.Reads record line closing limit)
    {rs : List DataRecord} (hrs : ∀ r ∈ rs, r.bytes.length ≤ limit) (kind name : String)
    (cs : List Char) (data : Unsigned) :
    loadWith record kind name (some (rs.flatMap (fun r => line r ++ ['\n']) ++ closing ++ cs)) data =
      (do rs.forM DataRecord.store; return some ⟨0, []⟩) := by
  have hn : rs.length < (rs.flatMap (fun r => line r ++ ['\n']) ++ closing ++ cs).length + 1 := by
    have h := length_le_flatMap line rs
    simp only [List.length_append]
    omega
  obtain ⟨v', hv', hout⟩ := Load.records_eq hrec hrs hn
    (v := ⟨rs.flatMap (fun r => line r ++ ['\n']) ++ closing ++ cs, 0, 0, data, 0, 0, []⟩) rfl
  simp only [loadWith, hv', bind_assoc, pure_bind, hout]

/-- **Both loaders reproduce the image.**  On the S-record text of a list of data records `load_s19`
carries out the stores of the records in order, nothing else, and returns 0 without a message; so
does `load_hex` on the hex text; and so the two texts of one list do the same.  What follows the
closing record is not read. -/
theorem loaders_reproduce_image (start : U16) (rs : List DataRecord) (cs : List Char)
    (name : String) (data : Unsigned) :
    ((∀ r ∈ rs, r.bytes.length ≤ 252) →
      (loadS19 name (some (encodeS19 start rs ++ cs)) data : M σ (Option Loaded)) =
        (do rs.forM DataRecord.store; return some ⟨0, []⟩)) ∧
    ((∀ r ∈ rs, r.bytes.length ≤ 255) →
      (loadHex name (some (encodeHex start rs ++ cs)) data : M σ (Option Loaded)) =
        (do rs.forM DataRecord.store; return some ⟨0, []⟩)) ∧
    ((∀ r ∈ rs, r.bytes.length ≤ 252) →
      (loadS19 name (some (encodeS19 start rs ++ cs)) data : M σ (Option Loaded)) =
        loadHex name (some (encodeHex start rs ++ cs)) data) := by
  have s19 (h : ∀ r ∈ rs, r.bytes.length ≤ 252) :=
    loadWith_eq (σ := σ) (Load.reads_s19 start) h "S-record" name cs data
  have hex (h : ∀ r ∈ rs, r.bytes.length ≤ 255) :=
    loadWith_eq (σ := σ) (Load.reads_hex start) h "hex record" name cs data
  refine ⟨s19, hex, fun h => ?_⟩
  exact (s19 h).trans (hex fun r hr => (h r hr).trans (by decide)).symm

/-- Three bytes at 0x7AF0. -/
theorem loaders_reproduce_image_line :
    (loadS19 "a.s19" (some ("S1067AF00A0A0D6E\nS9030000FC".toList ++ [])) 0 : M Flat (Option Loaded)) =
      (do storeBytes 0x7af0 [0x0a, 0x0a, 0x0d]; return some ⟨0, []⟩) ∧
    (loadHex "a.hex" (some (":037AF0000A0A0D72\n:00000001FF".toList ++ [])) 0 :
      M Flat (Option Loaded)) =
      (do storeBytes 0x7af0 [0x0a, 0x0a, 0x0d]; return some ⟨0, []⟩) := by
  have h := loaders_reproduce_image (σ := Flat) 0 [⟨0x7af0, [0x0a, 0x0a, 0x0d]⟩] []
  have hs : encodeS19 0 [⟨0x7af0, [0x0a, 0x0a, 0x0d]⟩] = "S1067AF00A0A0D6E\nS9030000FC".toList := by
    decide
  have hh : encodeHex 0 [⟨0x7af0, [0x0a, 0x0a, 0x0d]⟩] = ":037AF0000A0A0D72\n:00000001FF".toList := by
    decide
  rw [hs, hh] at h
  exact ⟨(h "a.s19" 0).1 (by simp), (h "a.hex" 0).2.1 (by simp)⟩

end Exec09
