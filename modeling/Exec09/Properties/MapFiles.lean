import Mathlib
import Exec09.Machine.Wpc
import Exec09.Monitor.MapFile
import Exec09.Properties.Scripts
import Exec09.Properties.Symtab
import Exec09.Properties.Windows

/-!
# Names from a map file

Three things together: a line of a map file is read as what it says (`mapLine_text`); definitions
made one after the other are found by name and by value (`Symbols.run_adds`); and an absolute
address on the WPC is a matter of the banks that are selected (`Wpc.absoluteAt`).  So the debugger
shows at an address the name that the file has for it in the bank that is there.
-/

namespace Exec09

open CText CBuffer Scan Chain

/-! ## Words of a line -/

lemma dropWhile_blanks {n : Nat} {c : Char} {cs : List Char} (hc : c ≠ ' ') :
    (List.replicate n ' ' ++ c :: cs).dropWhile (· = ' ') = c :: cs := by
  rw [List.dropWhile_append_of_pos fun x hx => by simp [List.eq_of_mem_replicate hx]]
  simp [hc]

lemma strtok_append {token tail : List Char} (hne : token ≠ [])
    (htoken : ∀ c ∈ token, isDelim c = false) (htail : ∀ c ∈ tail.head?, isDelim c = true) :
    strtok (token ++ tail) = some (token, tail.drop 1) := by
  obtain ⟨c, cs, rfl⟩ := List.exists_cons_of_ne_nil hne
  have hc : isDelim c = false := htoken c List.mem_cons_self
  have hcs : ∀ x ∈ cs, (!isDelim x) = true := fun x hx => by
    rw [htoken x (List.mem_cons_of_mem _ hx)]
    rfl
  have hstop : tail.takeWhile (!isDelim ·) = [] ∧ tail.dropWhile (!isDelim ·) = tail := by
    cases tail with
    | nil => exact ⟨rfl, rfl⟩
    | cons d tail =>
        have hd : isDelim d = true := htail d rfl
        simp [hd]
  simp only [strtok, List.cons_append, List.dropWhile_cons, hc, Bool.false_eq_true, if_false,
    List.takeWhile_append_of_pos hcs, List.dropWhile_append_of_pos hcs, hstop.1, hstop.2,
    List.append_nil]

/-! ## The lines of a map file -/

/-- A line: a page number, a symbol behind its value, or anything else. -/
inductive MapLine
  | page (number : Digits 10) (tail : List Char)
  | symbol (indent : Nat) (value : Digits 16) (token tail : List Char)
  | other (text : List Char)

namespace MapLine

def text : MapLine → List Char
  | page number tail => "page ".toList ++ (number.text ++ tail)
  | symbol indent value token tail =>
    List.replicate (6 + indent) ' ' ++ (value.text ++ ' ' :: (token ++ tail))
  | other text => text

/-- The parts of a line are what they are read as. -/
def Shape : MapLine → Prop
  | page _ tail => ∀ c ∈ tail.head?, isSpace c = true
  | symbol _ _ token tail =>
    token ≠ [] ∧ (∀ c ∈ token, isDelim c = false) ∧ ∀ c ∈ tail.head?, isDelim c = true
  | other text => text.take 4 ≠ "page".toList ∧ text.take 6 ≠ List.replicate 6 ' '

/-- A complete line of the file. -/
structure Formed (x : MapLine) : Prop where
  piece : Piece 254 x.text
  complete : lost 254 x.text = false
  noNul : NUL ∉ x.text
  shape : x.Shape

/-- The address and the name that the line defines; labels that are local define nothing, and the
first character of a name does not count. -/
def entry : MapLine → Option (U16 × CString)
  | symbol _ value token _ =>
    if token.take 2 = "l_".toList ∨ token.take 2 = "s_".toList then none
    else some (value.value.setWidth 16, cString token.tail)
  | _ => none

/-- The write to the bank register of the WPC that selects the page of the line. -/
def writes : MapLine → List Wpc.RegWrite
  | page number _ => [⟨0, 0x3fc, number.value.setWidth 8⟩]
  | _ => []

/-- Names are short enough for a string space. -/
lemma Formed.length_name {x : MapLine} (h : x.Formed) {addr : U16} {name : CString}
    (he : x.entry = some (addr, name)) : name.bytes.length < MAX_STRINGSPACE := by
  cases x with
  | page | other => cases he
  | symbol indent value token tail =>
      have hlength := h.piece.length
      simp only [text, List.length_append, List.length_cons, List.length_replicate] at hlength
      simp only [entry, Option.ite_none_left_eq_some, Option.some.injEq, Prod.mk.injEq] at he
      obtain ⟨-, -, rfl⟩ := he
      have hbytes : (cString token.tail).bytes.length ≤ token.tail.length := by
        refine (List.takeWhile_sublist _).length_le.trans_eq ?_
        rw [List.length_map]
      rw [List.length_tail] at hbytes
      change _ < 32000
      omega

end MapLine

namespace MapLoad

variable {ι : Type} [Board ι] {v : View} {garbage : Nat → Nat → U8} {onWpc : Bool}

/-- What a line does. -/
def perform (v : View) (garbage : Nat → Nat → U8) (onWpc : Bool) (x : MapLine) (s : MapLoad ι) :
    Option (MapLoad ι) :=
  match x with
  | .page number _ =>
    some { if onWpc then s.setRomPage (number.value.setWidth 8) else s with sym := none }
  | .symbol .. =>
    match x.entry with
    | some (addr, name) => s.define v garbage addr name
    | none => some s
  | .other _ => some s

/-- **A line is read as what it says.** -/
lemma mapLine_text {x : MapLine} (h : x.Shape) (s : MapLoad ι) :
    s.mapLine v garbage onWpc x.text = s.perform v garbage onWpc x := by
  cases x with
  | page number tail =>
      have hnumber : strtoulEnd 10 (' ' :: (number.text ++ tail)) = some (number.value, tail) :=
        number.strtoulEnd_text [' '] (by simp [isSpace]) h
      have htake : (MapLine.page number tail).text.take 4 = "page".toList := rfl
      have hdrop : (MapLine.page number tail).text.drop 4 = ' ' :: (number.text ++ tail) := rfl
      rw [mapLine, if_pos htake, hdrop, hnumber]
      rfl
  | symbol indent value token tail =>
      obtain ⟨hne, htoken, htail⟩ := h
      obtain ⟨c, cs, hvalue⟩ := List.exists_cons_of_ne_nil value.nonempty
      have hc : c ≠ ' ' := by
        rintro rfl
        have := value.isSome_digitVal (c := ' ') (by rw [hvalue]; exact List.mem_cons_self)
        revert this
        decide
      obtain ⟨d, ds, htok⟩ := List.exists_cons_of_ne_nil hne
      have hd : d ≠ ' ' := by
        rintro rfl
        have := htoken ' ' (by rw [htok]; exact List.mem_cons_self)
        revert this
        decide
      have hfront : (MapLine.symbol indent value token tail).text.dropWhile (· = ' ') =
          value.text ++ ' ' :: (token ++ tail) := by
        rw [MapLine.text, hvalue]
        exact dropWhile_blanks hc
      have hread : strtoulEnd 16 (value.text ++ ' ' :: (token ++ tail)) =
          some (value.value, ' ' :: (token ++ tail)) :=
        value.strtoulEnd_text [] (by simp) (by simp [isSpace])
      have hid : (' ' :: (token ++ tail)).dropWhile (· = ' ') = token ++ tail := by
        rw [htok]
        exact dropWhile_blanks (n := 1) hd
      have hsix : (MapLine.symbol indent value token tail).text.take 6 = List.replicate 6 ' ' := by
        rw [MapLine.text, List.replicate_add, List.append_assoc]
        exact List.take_left' (List.length_replicate ..)
      have hfour : ¬(MapLine.symbol indent value token tail).text.take 4 = "page".toList := by
        have htake := congrArg (List.take 4) hsix
        rw [List.take_take] at htake
        rw [show (4 : Nat) = min 4 6 from rfl, htake]
        decide
      rw [mapLine, if_neg hfour, if_neg (not_not.mpr hsix), hfront, hread]
      simp only [hid, strtok_append hne htoken htail, perform, MapLine.entry]
      split <;> rfl
  | other text => rw [mapLine, MapLine.text, if_neg h.1, if_pos h.2, perform]

end MapLoad

namespace Symbols

variable (garbage : Nat → Nat → U8)

/-! ## Definitions one after the other -/

/-- The definitions of names and values in a table. -/
def adds (t : SymtabId) (es : List (CString × BitVec 64)) : List Op :=
  es.map fun e => .add t e.1 e.2 0

/-- A value is looked up as a name. -/
def Names (st : Symbols) (t : SymtabId) (value : BitVec 64) (name : CString) : Prop :=
  ∃ p, st.symLookup t value = some p ∧ Stored st p name

section Added

variable {t t' : SymtabId} {name name' : CString} {value value' : BitVec 64} {type : Unsigned}
  {st st' : Symbols} {owner : Nat → SymtabId} {names : Nat → CString} {born : Nat → BitVec 64}

/-- After an addition the new symbol is the first one that is compared. -/
lemma Added.symLookup_eq (h : Added t name value type st st') (hh : Holds st owner names born) :
    st'.symLookup t' value' =
      if t = t' ∧ value = value' then some (st'.syms st.symCount).name
      else st.symLookup t' value' := by
  obtain ⟨p, c, c', hsyms⟩ := h.new
  rw [(h.holds hh).symLookup_eq, hh.symLookup_eq, h.symCount, newestFirst, List.find?_cons]
  simp only [Function.update_self, hsyms]
  by_cases hthis : t = t' ∧ value = value'
  · obtain ⟨rfl, rfl⟩ := hthis
    simp
  · have hnot : ¬((t = t' ∧ symHashValue value = symHashValue value') ∧ value' = value) :=
      fun hall => hthis ⟨hall.1.1, hall.2.symm⟩
    rw [if_neg hthis, decide_eq_false hnot]
    -- the older symbols are as they were
    have hold : (newestFirst st.symCount).find? (fun i =>
        (Function.update owner st.symCount t i = t' ∧
          symHashValue (Function.update born st.symCount value i) = symHashValue value') ∧
          value' = (Function.update st.syms st.symCount ⟨p, value, type, c, c'⟩ i).value) =
        (newestFirst st.symCount).find? fun i =>
          (owner i = t' ∧ symHashValue (born i) = symHashValue value') ∧
            value' = (st.syms i).value := by
      refine List.find?_congr fun i hi => ?_
      have hne : i ≠ st.symCount := Nat.ne_of_lt (mem_newestFirst.mp hi)
      rw [Function.update_of_ne hne, Function.update_of_ne hne, Function.update_of_ne hne]
    rw [hold]
    refine Option.map_congr fun i hi => ?_
    have hlt := mem_newestFirst.mp (List.mem_of_find?_eq_some hi)
    rw [Function.update_of_ne (Nat.ne_of_lt hlt)]

/-- What is looked up is the name of a symbol. -/
lemma Holds.names_of (hh : Holds st owner names born) (h : Names st t value name) :
    ∃ i < st.symCount, st.symLookup t value = some (st.syms i).name ∧ names i = name := by
  obtain ⟨p, hp, hstored⟩ := h
  have hfound := hp
  rw [hh.symLookup_eq, Option.map_eq_some_iff] at hfound
  obtain ⟨i, hi, rfl⟩ := hfound
  have hlt := mem_newestFirst.mp (List.mem_of_find?_eq_some hi)
  exact ⟨i, hlt, hp, eq_of_stringAt (hh.stored i hlt).string hstored.string⟩

lemma Added.names_self (h : Added t name value type st st') (hh : Holds st owner names born) :
    Names st' t value name := by
  refine ⟨_, (h.symLookup_eq hh).trans (if_pos ⟨rfl, rfl⟩), ?_⟩
  have hstored := (h.holds hh).stored st.symCount (by rw [h.symCount]; exact Nat.lt_succ_self _)
  rwa [Function.update_self] at hstored

lemma Added.names_of_ne (h : Added t name value type st st') (hh : Holds st owner names born)
    (hne : ¬(t = t' ∧ value = value')) (hold : Names st t' value' name') :
    Names st' t' value' name' := by
  obtain ⟨i, hlt, hlookup, rfl⟩ := hh.names_of hold
  have hi : i ≠ st.symCount := Nat.ne_of_lt hlt
  obtain ⟨p, c, c', hsyms⟩ := h.new
  have hstored := (h.holds hh).stored i (by rw [h.symCount]; exact Nat.lt_succ_of_lt hlt)
  rw [Function.update_of_ne hi] at hstored
  have hsame : (st'.syms i).name = (st.syms i).name := by rw [hsyms, Function.update_of_ne hi]
  rw [hsame] at hstored
  exact ⟨_, (h.symLookup_eq hh).trans ((if_neg hne).trans hlookup), hstored⟩

end Added

/-- The definitions have been made: the last one of a name and of a value counts, and where there is
none the tables answer as before. -/
structure Defined (t : SymtabId) (es : List (CString × BitVec 64)) (st st' : Symbols) : Prop where
  holds : ∃ owner names born, Holds st' owner names born
  byName : ∀ name, st'.symFind t name 0 =
    ((es.reverse.find? fun e => e.1 = name).map Prod.snd).or (st.symFind t name 0)
  byValue : ∀ e value, es.reverse.find? (fun e => e.2 = value) = some e → Names st' t value e.1
  otherValues : ∀ value, es.reverse.find? (fun e => e.2 = value) = none →
    st'.symLookup t value = st.symLookup t value

/-- **Definitions can be made, and they count.** -/
lemma run_adds (t : SymtabId) (es : List (CString × BitVec 64)) {st : Symbols}
    (hh : ∃ owner names born, Holds st owner names born)
    (hlen : ∀ e ∈ es, e.1.bytes.length < MAX_STRINGSPACE) :
    ∃ st', run garbage (adds t es) st = some st' ∧ Defined t es st st' := by
  induction es using List.reverseRecOn with
  | nil => exact ⟨st, rfl, hh, fun _ => rfl, fun _ _ h => by simp at h, fun _ _ => rfl⟩
  | append_singleton es e ih =>
    obtain ⟨st₁, hrun, hd⟩ := ih fun e he => hlen e (List.mem_append_left _ he)
    obtain ⟨owner, names, born, hh₁⟩ := hd.holds
    obtain ⟨st₂, hstep⟩ := step_isSome garbage st₁ (.add t e.1 e.2 0)
      (hlen e (List.mem_append_right _ List.mem_cons_self))
    have hfind := symFind_step garbage hd.holds rfl hstep
    obtain ⟨_, _, _, _, _, h, _⟩ | ⟨-, hadd⟩ := step_cases garbage hh₁.current hstep
    · cases h
    simp only [Op.table, Op.name, Op.value, Op.type] at hfind hadd
    refine ⟨st₂, ?_, ⟨_, _, _, hadd.holds hh₁⟩, fun name => ?_, fun e' value he' => ?_,
      fun value hnone => ?_⟩
    · rw [adds, List.map_append]
      exact run_snoc garbage hrun hstep
    · rw [hfind, hd.byName, List.reverse_append, List.reverse_singleton, List.singleton_append,
        List.find?_cons]
      by_cases hname : e.1 = name
      · simp [hname]
      · simp [hname]
    · rw [List.reverse_append, List.reverse_singleton, List.singleton_append, List.find?_cons]
        at he'
      by_cases hvalue : e.2 = value
      · obtain rfl : e = e' := by simpa [hvalue] using he'
        exact hvalue ▸ hadd.names_self hh₁
      · rw [decide_eq_false hvalue] at he'
        exact hadd.names_of_ne hh₁ (fun h => hvalue h.2) (hd.byValue e' value he')
    · rw [List.reverse_append, List.reverse_singleton, List.singleton_append, List.find?_cons]
        at hnone
      by_cases hvalue : e.2 = value
      · simp [hvalue] at hnone
      · rw [decide_eq_false hvalue] at hnone
        rw [hadd.symLookup_eq hh₁, if_neg fun h => hvalue h.2, hd.otherValues value hnone]

end Symbols

/-! ## The banks of the WPC -/

namespace Wpc

/-- The absolute address behind an address of the CPU.  Of what the guest has written, only the last
values in the page registers count. -/
def absoluteAt (l : List RegWrite) (addr : U16) : BitVec 64 :=
  let p := shows (lastWrite .dmdLowPage l) (lastWrite .dmdHighPage l) (lastWrite .romBank l)
    (addr.toNat / BUS_MAP_SIZE)
  Bus.absoluteFromReladdr p.1 (p.2 + BitVec.ofNat 64 (addr.toNat % BUS_MAP_SIZE))

lemma toAbsolute_eq {ι : Type} {b : Bus ι} {l : List RegWrite} (hb : (Config.wpc l).Holds b)
    (addr : U16) : b.toAbsolute (addr.setWidth 32) = absoluteAt l addr := by
  have hk : addr.toNat / BUS_MAP_SIZE < NUM_BUS_MAPS := by
    have := addr.isLt
    change addr.toNat / 128 < 512
    omega
  have hwide : (addr.setWidth 32 : Unsigned).toNat = addr.toNat := by
    rw [BitVec.toNat_setWidth]
    exact Nat.mod_eq_of_lt (Nat.lt_trans addr.isLt (by decide))
  have hmap : b.findMap (addr.setWidth 32) = (after l).maps (addr.toNat / BUS_MAP_SIZE) := by
    rw [Bus.findMap, hb.maps, hwide]
    rfl
  rw [absoluteAt, ← after_place l hk, Bus.toAbsolute, Bus.phyAddr, hmap, hwide]
  rfl

/-- The names in a map file, with the absolute addresses in the bank that is selected there. -/
def entries : List RegWrite → List MapLine → List (CString × BitVec 64)
  | _, [] => []
  | l, x :: xs =>
    (x.entry.map fun e => (e.2, absoluteAt l e.1)).toList ++ entries (l ++ x.writes) xs

lemma entries_length {xs : List MapLine} (hx : ∀ x ∈ xs, x.Formed) (l : List RegWrite) :
    ∀ e ∈ entries l xs, e.1.bytes.length < MAX_STRINGSPACE := by
  induction xs generalizing l with
  | nil => simp [entries]
  | cons x xs ih =>
      intro e he
      rcases List.mem_append.mp he with he | he
      · obtain ⟨⟨addr, name⟩, hentry, rfl⟩ :
            ∃ y, x.entry = some y ∧ (y.2, absoluteAt l y.1) = e := by
          simpa using he
        exact (hx x List.mem_cons_self).length_name hentry
      · exact ih (fun y hy => hx y (List.mem_cons_of_mem _ hy)) _ e he

section Load

variable {δ : Type} [Host δ] {v : View} {garbage : Nat → Nat → U8} {l : List RegWrite}

omit [Host δ] in
/-- A page is selected as by a write to the bank register. -/
lemma holds_setRomPage {s : MapLoad (Io WpcAsic δ)} (hb : (Config.wpc l).Holds s.bus) (page : U8) :
    (Config.wpc (l ++ [⟨0, 0x3fc, page⟩])).Holds (s.setRomPage page).bus := by
  have hreg : asicReg 0x3fc = some .romBank := by decide
  have hwrite : (after (l ++ [⟨0, 0x3fc, page⟩])).maps =
      busMap 0x4000 2 (page.setWidth 64 * 0x4000) 0x4000 MAP_READABLE (after l).maps := by
    rw [after_snoc, write_maps, hreg]
  exact ⟨(congrArg _ hb.maps).trans hwrite.symm, hb.devices⟩

/-- A definition adds the symbol at the address in the selected bank. -/
lemma define_eq {s : MapLoad (Io WpcAsic δ)} (hb : (Config.wpc l).Holds s.bus) (addr : U16)
    (name : CString) {st : Symbols}
    (h : s.symbols.step garbage (.add .program name (absoluteAt l addr) 0) = some st) :
    ∃ s', s.define v garbage addr name = some s' ∧ s'.bus = s.bus ∧ s'.symbols = st := by
  obtain ⟨⟨i, _⟩, hadd, rfl⟩ := Option.map_eq_some_iff.mp h
  have habs : s.bus.toAbsolute (addr.setWidth 32) = absoluteAt l addr := toAbsolute_eq hb addr
  unfold MapLoad.define
  cases s.sym with
  | none =>
      simp only [MapLoad.toAbsolute, habs, hadd]
      exact ⟨_, rfl, rfl, rfl⟩
  | some j =>
      simp only [MapLoad.toAbsolute, habs, hadd]
      exact ⟨_, rfl, rfl, rfl⟩

/-- One line: the bank it selects and the name it defines. -/
lemma perform_eq {s : MapLoad (Io WpcAsic δ)} (hb : (Config.wpc l).Holds s.bus) (x : MapLine)
    {st : Symbols}
    (h : Symbols.run garbage (Symbols.adds .program
      (x.entry.map fun e => (e.2, absoluteAt l e.1)).toList) s.symbols = some st) :
    ∃ s', s.perform v garbage true x = some s' ∧ (Config.wpc (l ++ x.writes)).Holds s'.bus ∧
      s'.symbols = st := by
  cases x with
  | page number tail =>
      cases h
      exact ⟨_, rfl, holds_setRomPage hb _, rfl⟩
  | other text =>
      cases h
      exact ⟨s, rfl, by simpa [MapLine.writes] using hb, rfl⟩
  | symbol indent value token tail =>
      have hwrites : l ++ (MapLine.symbol indent value token tail).writes = l := List.append_nil l
      rw [hwrites, MapLoad.perform]
      cases hentry : (MapLine.symbol indent value token tail).entry with
      | none =>
          rw [hentry] at h
          cases h
          exact ⟨s, rfl, hb, rfl⟩
      | some e =>
          obtain ⟨addr, name⟩ := e
          rw [hentry] at h
          have hstep :
              s.symbols.step garbage (.add .program name (absoluteAt l addr) 0) = some st := by
            simpa [Symbols.run, Symbols.adds] using h
          obtain ⟨s', hdefine, hbus, hst⟩ := define_eq (v := v) hb addr name hstep
          exact ⟨s', hdefine, hbus ▸ hb, hst⟩

/-- The whole file, up to an incomplete line at its end. -/
lemma mapLines_eq {xs : List MapLine} (hx : ∀ x ∈ xs, x.Formed) {rest : List Char}
    (hrest : (fgets 254 rest).2.2 = true) {l : List RegWrite} {s : MapLoad (Io WpcAsic δ)}
    (hb : (Config.wpc l).Holds s.bus) {st : Symbols}
    (h : Symbols.run garbage (Symbols.adds .program (entries l xs)) s.symbols = some st)
    {fuel : Nat} (hfuel : (xs.flatMap MapLine.text ++ rest).length < fuel) :
    ∃ s', s.mapLines v garbage true fuel (xs.flatMap MapLine.text ++ rest) = some s' ∧
      (Config.wpc (l ++ xs.flatMap MapLine.writes)).Holds s'.bus ∧ s'.symbols = st := by
  obtain ⟨fuel, rfl⟩ := Nat.exists_eq_succ_of_ne_zero (Nat.ne_zero_of_lt hfuel)
  induction xs generalizing l s fuel with
  | nil =>
      cases h
      refine ⟨s, ?_, by simpa using hb, rfl⟩
      rw [List.flatMap_nil, List.nil_append, MapLoad.mapLines]
      dsimp only
      rw [if_pos hrest]
  | cons x xs ih =>
      have hformed := hx x List.mem_cons_self
      rw [entries, Symbols.adds, List.map_append, Symbols.run_append, Option.bind_eq_some_iff] at h
      obtain ⟨st₁, hfirst, hothers⟩ := h
      obtain ⟨s₁, hperform, hb₁, rfl⟩ := perform_eq (v := v) hb x hfirst
      have hpos : 0 < x.text.length := List.length_pos_iff.mpr hformed.piece.ne
      have htext : (x :: xs).flatMap MapLine.text ++ rest =
          x.text ++ (xs.flatMap MapLine.text ++ rest) := by
        rw [List.flatMap_cons, List.append_assoc]
      rw [htext, List.length_append] at hfuel
      obtain ⟨fuel, rfl⟩ := Nat.exists_eq_succ_of_ne_zero (n := fuel) (by omega)
      obtain ⟨s', hs', hb', hst⟩ := ih (fun y hy => hx y (List.mem_cons_of_mem _ hy)) hb₁ hothers
        fuel (by omega)
      refine ⟨s', ?_, ?_, hst⟩
      · have hnul : x.text.takeWhile (· ≠ NUL) = x.text :=
          List.takeWhile_eq_self_iff.mpr fun c hc => by
            have hne : c ≠ NUL := fun h => hformed.noNul (h ▸ hc)
            simpa using hne
        rw [htext, MapLoad.mapLines, fgets_piece hformed.piece hformed.complete]
        simp only [Bool.false_eq_true, if_false, hnul, MapLoad.mapLine_text hformed.shape, hperform,
          Option.bind_some, hs']
      · rw [List.flatMap_cons, ← List.append_assoc]
        exact hb'

end Load

/-- A map file with one page and one name. -/
def onePage : List MapLine :=
  [ .page ⟨['3', '2'], by decide, List.all_eq_true.mp (by decide), by decide⟩ ['\n'],
    .symbol 0 ⟨['4', '0', '0', '1'], by decide, List.all_eq_true.mp (by decide), by decide⟩
      "_start".toList " main.o\n".toList ]

/-- The file of that program. -/
def gameFiles (name : List Char) : Option (List Char) :=
  if name = "game.map".toList then some "page 32\n      4001 _start main.o\n".toList else none

/-- A WPC with cleared memory, before anything is named. -/
def unnamed : MapLoad (Io WpcAsic Bare) where
  bus := Wpc.bus (after []) (fun _ _ => 0) ⟨⟩
  symbols := Symbols.symInit fun _ _ => 0
  sizes _ := 0
  sym := none
  signals := []

end Wpc

end Exec09
