import Exec09.Debugger.Symtab
import Mathlib.Data.List.Find
import Mathlib.Data.List.GetD
import Mathlib.Data.List.Induction

/-!
# Symbols are found again

What the tables hold is described by what has been defined (`Holds`): the owner, the name and the
first value of every symbol, in the order of definition.  The strings in the string spaces lie below
the used part, so that later ones do not touch them; the two families of chains are indexed by the
hash of the name and of the first value.  Lookup by name follows, and exactly when lookup by value
agrees with it.
-/

namespace Exec09

open Chain

namespace Symbols

variable (garbage : Nat → Nat → U8)

/-- The operations on the tables. -/
inductive Op
  | add (t : SymtabId) (name : CString) (value : BitVec 64) (type : Unsigned)
  | set (t : SymtabId) (name : CString) (value : BitVec 64) (type : Unsigned)

namespace Op

def table : Op → SymtabId
  | add t .. | set t .. => t

def name : Op → CString
  | add _ name .. | set _ name .. => name

def value : Op → BitVec 64
  | add _ _ value _ | set _ _ value _ => value

def type : Op → Unsigned
  | add _ _ _ type | set _ _ _ type => type

end Op

def step (st : Symbols) : Op → Option Symbols
  | .add t name value type => (st.symAdd garbage t name value type).map Prod.snd
  | .set t name value type => st.symSet garbage t name value type

/-- The operations one after the other. -/
def run (l : List Op) (st : Symbols) : Option Symbols := l.foldlM (step garbage) st

/-! ## Strings -/

lemma stringAt_iff (space : Nat → U8) (offset : Nat) (cs : List U8) :
    stringAt space offset cs = true ↔ ∀ j ≤ cs.length, space (offset + j) = cs.getD j 0 := by
  induction cs generalizing offset with
  | nil =>
    simp only [stringAt, decide_eq_true_eq, List.length_nil, Nat.le_zero]
    exact ⟨fun h j hj => by rw [hj]; exact h, fun h => h 0 rfl⟩
  | cons c cs ih =>
    simp only [stringAt, Bool.and_eq_true, decide_eq_true_eq, ih, List.length_cons]
    constructor
    · rintro ⟨hc, hcs⟩ j hj
      cases j with
      | zero => exact hc
      | succ j =>
        have h := hcs j (Nat.le_of_succ_le_succ hj)
        rw [Nat.add_assoc, Nat.add_comm 1 j] at h
        exact h
    · intro h
      refine ⟨h 0 (Nat.zero_le _), fun j hj => ?_⟩
      have hj' := h (j + 1) (Nat.succ_le_succ hj)
      rw [Nat.add_assoc, Nat.add_comm 1 j]
      exact hj'

/-- Two strings at one place have the same length, as neither contains the NUL of the other. -/
lemma length_le_of_stringAt {space : Nat → U8} {offset : Nat} {s s' : CString}
    (h : stringAt space offset s.bytes = true) (h' : stringAt space offset s'.bytes = true) :
    s'.bytes.length ≤ s.bytes.length := by
  by_contra hlt
  have hlt' : s.bytes.length < s'.bytes.length := Nat.lt_of_not_le hlt
  have hend := (stringAt_iff _ _ _).mp h s.bytes.length (Nat.le_refl _)
  have hmid := (stringAt_iff _ _ _).mp h' s.bytes.length (Nat.le_of_lt hlt')
  rw [hend, List.getD_eq_default _ _ (Nat.le_refl _), List.getD_eq_getElem _ _ hlt'] at hmid
  exact s'.noNul (hmid ▸ List.getElem_mem hlt')

/-- **What is compared is the whole string.** -/
lemma eq_of_stringAt {space : Nat → U8} {offset : Nat} {s s' : CString}
    (h : stringAt space offset s.bytes = true) (h' : stringAt space offset s'.bytes = true) :
    s = s' := by
  have hlen := Nat.le_antisymm (length_le_of_stringAt h' h) (length_le_of_stringAt h h')
  have hbytes : s.bytes = s'.bytes := by
    refine List.ext_getElem hlen fun j hj hj' => ?_
    have hs := (stringAt_iff _ _ _).mp h j (Nat.le_of_lt hj)
    have hs' := (stringAt_iff _ _ _).mp h' j (Nat.le_of_lt hj')
    rw [List.getD_eq_getElem _ _ hj] at hs
    rw [List.getD_eq_getElem _ _ hj'] at hs'
    exact hs.symm.trans hs'
  cases s
  cases s'
  simpa using hbytes

/-- The string is at the pointer, inside the used part of its string space. -/
structure Stored (st : Symbols) (p : NamePtr) (s : CString) : Prop where
  space : p.space < st.spaceCount
  string : stringAt (st.spaces p.space).space p.offset s.bytes = true
  used : p.offset + s.bytes.length + 1 ≤ (st.spaces p.space).used

lemma Stored.congr {st st' : Symbols} {p : NamePtr} {s : CString} (h : Stored st p s)
    (hspaces : st'.spaces = st.spaces) (hcount : st'.spaceCount = st.spaceCount) :
    Stored st' p s := by
  refine ⟨hcount ▸ h.space, ?_, ?_⟩
  · rw [hspaces]
    exact h.string
  · rw [hspaces]
    exact h.used

/-- Strings stay where they are. -/
def Keeps (st st' : Symbols) : Prop := ∀ p s, Stored st p s → Stored st' p s

lemma keeps_stringspaceCreate (st : Symbols) : Keeps st (st.stringspaceCreate garbage) := by
  intro p s h
  have hspace : (st.stringspaceCreate garbage).spaces p.space = st.spaces p.space :=
    Function.update_of_ne (Nat.ne_of_lt h.space) _ _
  refine ⟨Nat.lt_succ_of_lt h.space, ?_, ?_⟩
  · rw [hspace]
    exact h.string
  · rw [hspace]
    exact h.used

/-- `stringspace_copy` stores the string and changes nothing else. -/
structure Copied (s : CString) (p : NamePtr) (st st' : Symbols) : Prop where
  stored : Stored st' p s
  keeps : Keeps st st'
  current : st'.currentStringspace < st'.spaceCount
  syms : st'.syms = st.syms
  symCount : st'.symCount = st.symCount
  tables : st'.tables = st.tables

/-- The copy itself, once there is room. -/
lemma copied_strcpy {st : Symbols} (s : CString) (hcur : st.currentStringspace < st.spaceCount) :
    Copied s ⟨st.currentStringspace, (st.spaces st.currentStringspace).used⟩ st
      { st with
        spaces := Function.update st.spaces st.currentStringspace
          { strcpy (st.spaces st.currentStringspace) (st.spaces st.currentStringspace).used s with
            used := (st.spaces st.currentStringspace).used + (s.bytes.length + 1) } } := by
  refine ⟨⟨hcur, ?_, ?_⟩, fun p s' h => ?_, hcur, rfl, rfl, rfl⟩
  · rw [stringAt_iff]
    intro j hj
    simp only [Function.update_self, strcpy]
    rw [if_pos ⟨by omega, by omega⟩, Nat.add_sub_cancel_left]
  · simp only [Function.update_self]
    omega
  · by_cases hp : p.space = st.currentStringspace
    · refine ⟨h.space, ?_, ?_⟩
      · have hstring := (stringAt_iff _ _ _).mp h.string
        have hused := h.used
        rw [stringAt_iff]
        intro j hj
        rw [hp] at hstring hused
        simp only [hp, Function.update_self, strcpy]
        rw [if_neg (by omega)]
        exact hstring j hj
      · have hused := h.used
        rw [hp] at hused
        simp only [hp, Function.update_self]
        omega
    · have hspace := Function.update_of_ne hp
        ({ strcpy (st.spaces st.currentStringspace) (st.spaces st.currentStringspace).used s with
            used := (st.spaces st.currentStringspace).used + (s.bytes.length + 1) } : StringSpace)
        st.spaces
      refine ⟨h.space, ?_, ?_⟩
      · simp only [hspace]
        exact h.string
      · simp only [hspace]
        exact h.used

lemma stringspaceCopy_spec {st st' : Symbols} {s : CString} {p : NamePtr}
    (hcur : st.currentStringspace < st.spaceCount)
    (h : st.stringspaceCopy garbage s = some (p, st')) : Copied s p st st' := by
  simp only [stringspaceCopy] at h
  generalize hst₁ : (if (st.spaces st.currentStringspace).used + (s.bytes.length + 1) >
    MAX_STRINGSPACE then st.stringspaceCreate garbage else st) = st₁ at h
  -- after a new string space or without one
  have hfirst : Keeps st st₁ ∧ st₁.currentStringspace < st₁.spaceCount ∧ st₁.syms = st.syms ∧
      st₁.symCount = st.symCount ∧ st₁.tables = st.tables := by
    rw [← hst₁]
    split
    · exact ⟨keeps_stringspaceCreate garbage st, Nat.lt_succ_self _, rfl, rfl, rfl⟩
    · exact ⟨fun _ _ h => h, hcur, rfl, rfl, rfl⟩
  obtain ⟨hkeeps, hcur₁, hsyms, hcount, htables⟩ := hfirst
  split at h
  · cases h
  · obtain ⟨rfl, rfl⟩ := Prod.mk.inj (Option.some.inj h)
    have hc := copied_strcpy s hcur₁
    exact ⟨hc.stored, fun p s h => hc.keeps p s (hkeeps p s h), hc.current, hsyms, hcount, htables⟩

/-- A string that fits an empty string space is stored. -/
lemma stringspaceCopy_isSome (st : Symbols) {s : CString}
    (hlen : s.bytes.length < MAX_STRINGSPACE) :
    ∃ p st', st.stringspaceCopy garbage s = some (p, st') := by
  simp only [stringspaceCopy]
  split
  · rename_i hfull
    have hempty : ((st.stringspaceCreate garbage).spaces
        (st.stringspaceCreate garbage).currentStringspace).used = 0 := by
      simp [stringspaceCreate]
    rw [if_neg (by rw [hempty]; omega)]
    exact ⟨_, _, rfl⟩
  · exact ⟨_, _, rfl⟩

/-! ## What the tables hold -/

/-- The chains of a family, by table and hash. -/
def nameHeads (st : Symbols) (k : SymtabId × Nat) : Option Nat := (st.tables k.1).symsByName k.2

def valueHeads (st : Symbols) (k : SymtabId × Nat) : Option Nat := (st.tables k.1).symsByValue k.2

/-- The tables hold the symbols with these owners, names and first values. -/
structure Holds (st : Symbols) (owner : Nat → SymtabId) (names : Nat → CString)
    (born : Nat → BitVec 64) : Prop where
  current : st.currentStringspace < st.spaceCount
  stored : ∀ i < st.symCount, Stored st (st.syms i).name (names i)
  byName : Indexed (fun i => (st.syms i).nameChain) st.nameHeads
    (fun i => (owner i, symHashName (names i))) st.symCount
  byValue : Indexed (fun i => (st.syms i).valueChain) st.valueHeads
    (fun i => (owner i, symHashValue (born i))) st.symCount
  parent : ∀ t, (st.tables t).parent = none

lemma holds_symInit (owner : Nat → SymtabId) (names : Nat → CString) (born : Nat → BitVec 64) :
    Holds (symInit garbage) owner names born where
  current := Nat.zero_lt_one
  stored := fun _ hi => absurd hi (Nat.not_lt_zero _)
  byName := indexed_zero _ _
  byValue := indexed_zero _ _
  parent := fun _ => rfl

/-- A head of one table has changed. -/
lemma heads_update {heads : Symtab → Nat → Option Nat} {tables : SymtabId → Symtab} {t : SymtabId}
    {tab : Symtab} {k : Nat} {head : Option Nat}
    (h : heads tab = Function.update (heads (tables t)) k head) :
    (fun q : SymtabId × Nat => heads (Function.update tables t tab q.1) q.2) =
      Function.update (fun q => heads (tables q.1) q.2) (t, k) head := by
  funext ⟨t', k'⟩
  by_cases ht : t' = t
  · subst ht
    by_cases hk : k' = k
    · subst hk
      simp [h]
    · simp [h, hk]
  · simp [ht]

/-- The key of one symbol has changed. -/
lemma keys_update {β : Type} (owner : Nat → SymtabId) (f : Nat → β) (hash : β → Nat) (n : Nat)
    (t : SymtabId) (b : β) :
    (fun i => (Function.update owner n t i, hash (Function.update f n b i))) =
      Function.update (fun i => (owner i, hash (f i))) n (t, hash b) := by
  funext i
  by_cases hi : i = n
  · subst hi
    simp
  · simp [hi]

/-- `sym_add` allocates the next symbol. -/
structure Added (t : SymtabId) (name : CString) (value : BitVec 64) (type : Unsigned)
    (st st' : Symbols) : Prop where
  symCount : st'.symCount = st.symCount + 1
  new : ∃ p c c', st'.syms = Function.update st.syms st.symCount ⟨p, value, type, c, c'⟩
  holds : ∀ {owner names born}, Holds st owner names born →
    Holds st' (Function.update owner st.symCount t) (Function.update names st.symCount name)
      (Function.update born st.symCount value)

lemma symAdd_spec {t : SymtabId} {name : CString} {value : BitVec 64} {type : Unsigned}
    {st st' : Symbols} {i : Nat} (hcur : st.currentStringspace < st.spaceCount)
    (h : st.symAdd garbage t name value type = some (i, st')) : Added t name value type st st' := by
  simp only [symAdd, Option.bind_eq_bind, Option.bind_eq_some_iff, Option.pure_def,
    Option.some.injEq, Prod.mk.injEq] at h
  obtain ⟨⟨p, st₁⟩, hcopy, -, hst'⟩ := h
  have hc := stringspaceCopy_spec garbage hcur hcopy
  rw [hc.syms, hc.symCount, hc.tables] at hst'
  subst hst'
  refine ⟨rfl, ⟨_, _, _, rfl⟩, fun hh => ⟨hc.current, fun i hi => ?_, ?_, ?_, fun t' => ?_⟩⟩
  · by_cases hlast : i = st.symCount
    · subst hlast
      simp only [Function.update_self]
      exact hc.stored.congr rfl rfl
    · simp only [Function.update_of_ne hlast]
      have hold := hh.stored i (Nat.lt_of_le_of_ne (Nat.le_of_lt_succ hi) hlast)
      exact (hc.keeps _ _ hold).congr rfl rfl
  · exact hh.byName.push (Function.comp_update Symbol.nameChain _ _ _) (heads_update rfl)
      (keys_update _ _ symHashName _ _ _)
  · exact hh.byValue.push (Function.comp_update Symbol.valueChain _ _ _) (heads_update rfl)
      (keys_update _ _ symHashValue _ _ _)
  · by_cases ht : t' = t
    · subst ht
      simpa using hh.parent t'
    · simpa [ht] using hh.parent t'

/-- Changing the value of a symbol changes no chain. -/
lemma Holds.setValue {st : Symbols} {owner : Nat → SymtabId} {names : Nat → CString}
    {born : Nat → BitVec 64} (h : Holds st owner names born) (i : Nat) (value : BitVec 64) :
    Holds { st with syms := Function.update st.syms i { st.syms i with value := value } }
      owner names born := by
  have hsame {β : Type} (f : Symbol → β) (hf : ∀ s v, f { s with value := v } = f s) (j : Nat) :
      f (Function.update st.syms i { st.syms i with value := value } j) = f (st.syms j) := by
    by_cases hj : j = i
    · subst hj
      rw [Function.update_self, hf]
    · rw [Function.update_of_ne hj]
  refine ⟨h.current, fun j hj => ?_, ?_, ?_, h.parent⟩
  · simp only [hsame Symbol.name fun _ _ => rfl]
    exact (h.stored j hj).congr rfl rfl
  · exact h.byName.congr (fun j _ => hsame Symbol.nameChain (fun _ _ => rfl) j) fun _ _ => rfl
  · exact h.byValue.congr (fun j _ => hsame Symbol.valueChain (fun _ _ => rfl) j) fun _ _ => rfl

/-! ## Lookup by name -/

section Find

variable {st : Symbols} {owner : Nat → SymtabId} {names : Nat → CString} {born : Nat → BitVec 64}

/-- `strcmp` finds the name. -/
lemma Holds.hasName_iff (h : Holds st owner names born) {i : Nat} (hi : i < st.symCount)
    (name : CString) : st.hasName name i = true ↔ names i = name := by
  have hstored := (h.stored i hi).string
  constructor
  · exact fun hname => eq_of_stringAt hstored hname
  · rintro rfl
    exact hstored

/-- The newest symbol with that owner and name. -/
def newest (owner : Nat → SymtabId) (names : Nat → CString) (t : SymtabId) (name : CString)
    (n : Nat) : Option Nat :=
  (newestFirst n).find? fun i => owner i = t ∧ names i = name

lemma newest_eq_some {t : SymtabId} {name : CString} {n i : Nat}
    (h : newest owner names t name n = some i) : i < n ∧ owner i = t ∧ names i = name := by
  rw [newest] at h
  exact ⟨mem_newestFirst.mp (List.mem_of_find?_eq_some h), by simpa using List.find?_some h⟩

/-- **The chain leads to the newest symbol of that name**, whatever else has the same hash. -/
lemma Holds.symFind1_eq (h : Holds st owner names born) (t : SymtabId) (name : CString)
    (type : Unsigned) :
    st.symFind1 t name type = (newest owner names t name st.symCount).filter
      fun i => ¬(type ≠ 0 ∧ (st.syms i).type ≠ type) := by
  have hchain : Chain.find (fun i => (st.syms i).nameChain) (st.hasName name) st.symCount
      ((st.tables t).symsByName (symHashName name)) =
      newest owner names t name st.symCount := by
    refine (h.byName.find_eq (t, symHashName name) (st.hasName name)).trans ?_
    refine List.find?_congr fun i hi => ?_
    have hname := h.hasName_iff (mem_newestFirst.mp hi) name
    by_cases hn : names i = name
    · simp [hname.mpr hn, hn]
    · simp [Bool.eq_false_iff.mpr fun hh => hn (hname.mp hh), hn]
  simp only [symFind1, findFrom, hchain, h.parent]
  cases newest owner names t name st.symCount with
  | none => rfl
  | some i =>
    rw [Option.filter_some]
    by_cases htype : type ≠ 0 ∧ (st.syms i).type ≠ type
    · simp [htype]
    · simp only [htype, not_false_eq_true, decide_true, if_true, if_false]

/-- `sym_find` with type 0. -/
lemma Holds.symFind_eq (h : Holds st owner names born) (t : SymtabId) (name : CString) :
    st.symFind t name 0 =
      (newest owner names t name st.symCount).map fun i => (st.syms i).value := by
  rw [symFind, h.symFind1_eq]
  congr 1
  cases newest owner names t name st.symCount <;> rfl

/-- After an addition. -/
lemma newest_update (t t' : SymtabId) (name name' : CString) (n : Nat) :
    newest (Function.update owner n t) (Function.update names n name) t' name' (n + 1) =
      if t = t' ∧ name = name' then some n else newest owner names t' name' n := by
  have hold : newest (Function.update owner n t) (Function.update names n name) t' name' n =
      newest owner names t' name' n := by
    refine List.find?_congr fun i hi => ?_
    have hi' : i ≠ n := Nat.ne_of_lt (mem_newestFirst.mp hi)
    rw [Function.update_of_ne hi', Function.update_of_ne hi']
  rw [← hold, newest, newestFirst, List.find?_cons, Function.update_self, Function.update_self]
  by_cases h : t = t' ∧ name = name'
  · simp [h]
  · simp [h, newest]

end Find

/-! ## Steps -/

/-- A `sym_set` that finds its symbol changes its value; every other operation adds one. -/
lemma step_cases {st st' : Symbols} {op : Op} (hcur : st.currentStringspace < st.spaceCount)
    (h : st.step garbage op = some st') :
    (∃ t name value type i, op = .set t name value type ∧ st.symFind1 t name type = some i ∧
      st' = { st with syms := Function.update st.syms i { st.syms i with value := value } }) ∨
    ((∀ t name value type, op = .set t name value type → st.symFind1 t name type = none) ∧
      Added op.table op.name op.value op.type st st') := by
  cases op with
  | add t name value type =>
    obtain ⟨⟨i, _⟩, hadd, rfl⟩ := Option.map_eq_some_iff.mp h
    exact .inr ⟨fun _ _ _ _ => nofun, symAdd_spec garbage hcur hadd⟩
  | set t name value type =>
    simp only [step, symSet] at h
    split at h
    · rename_i i hi
      exact .inl ⟨t, name, value, type, i, rfl, hi, (Option.some.inj h).symm⟩
    · rename_i hnone
      obtain ⟨⟨i, _⟩, hadd, rfl⟩ := Option.map_eq_some_iff.mp h
      refine .inr ⟨fun _ _ _ _ heq => ?_, symAdd_spec garbage hcur hadd⟩
      cases heq
      exact hnone

/-- The operations keep the description of the tables. -/
lemma holds_step {st st' : Symbols} {op : Op} (hh : ∃ owner names born, Holds st owner names born)
    (h : st.step garbage op = some st') : ∃ owner names born, Holds st' owner names born := by
  obtain ⟨owner, names, born, hh⟩ := hh
  obtain ⟨_, _, value, _, i, _, _, rfl⟩ | ⟨_, hadd⟩ := step_cases garbage hh.current h
  · exact ⟨owner, names, born, hh.setValue i value⟩
  · exact ⟨_, _, _, hadd.holds hh⟩

lemma run_append (l l' : List Op) (st : Symbols) :
    run garbage (l ++ l') st = (run garbage l st).bind (run garbage l') := by
  rw [run, List.foldlM_append]
  rfl

lemma run_snoc {l : List Op} {op : Op} {st st' st'' : Symbols} (h : run garbage l st = some st')
    (hstep : st'.step garbage op = some st'') : run garbage (l ++ [op]) st = some st'' := by
  rw [run_append, h]
  simp [run, hstep]

/-- The tables are described in every state reached. -/
lemma holds_run {l : List Op} {st : Symbols} (h : run garbage l (symInit garbage) = some st) :
    ∃ owner names born, Holds st owner names born := by
  induction l using List.reverseRecOn generalizing st with
  | nil =>
    cases h
    exact ⟨_, _, _, holds_symInit garbage (fun _ => .program) (fun _ => ⟨[], by simp⟩) fun _ => 0⟩
  | append_singleton l op ih =>
    rw [run_append, Option.bind_eq_some_iff] at h
    obtain ⟨st', hl, hop⟩ := h
    have hstep : st'.step garbage op = some st := by simpa [run] using hop
    exact holds_step garbage (ih hl) hstep

/-! ## The last definition wins -/

/-- The value last given to a name on a table. -/
def lastDef (l : List Op) (t : SymtabId) (name : CString) : Option (BitVec 64) :=
  (l.reverse.find? fun op => op.table = t ∧ op.name = name).map Op.value

lemma lastDef_snoc (l : List Op) (op : Op) (t : SymtabId) (name : CString) :
    lastDef (l ++ [op]) t name =
      if op.table = t ∧ op.name = name then some op.value else lastDef l t name := by
  rw [lastDef, List.reverse_append, List.reverse_singleton, List.singleton_append, List.find?_cons]
  by_cases h : op.table = t ∧ op.name = name
  · simp [h]
  · simp [h, lastDef]

/-- What an operation does to the answers. -/
lemma symFind_step {st st' : Symbols} {op : Op} (hh : ∃ owner names born, Holds st owner names born)
    (htype : op.type = 0) (h : st.step garbage op = some st') (t : SymtabId) (name : CString) :
    st'.symFind t name 0 =
      if op.table = t ∧ op.name = name then some op.value else st.symFind t name 0 := by
  obtain ⟨owner, names, born, hh⟩ := hh
  obtain ⟨t', name', value, type, i, rfl, hi, rfl⟩ | ⟨_, hadd⟩ := step_cases garbage hh.current h
  · -- the symbol found is the one with that name
    obtain rfl : type = 0 := htype
    have hnewest : newest owner names t' name' st.symCount = some i := by
      rw [hh.symFind1_eq, Option.filter_eq_some_iff] at hi
      exact hi.1
    obtain ⟨_, howner, hname⟩ := newest_eq_some hnewest
    rw [(hh.setValue i value).symFind_eq, hh.symFind_eq]
    by_cases hthis : t' = t ∧ name' = name
    · obtain ⟨rfl, rfl⟩ := hthis
      simp [Op.table, Op.name, Op.value, hnewest]
    · refine Eq.trans (Option.map_congr fun j hj => ?_) (if_neg hthis).symm
      obtain ⟨_, howner', hname'⟩ := newest_eq_some hj
      have hji : j ≠ i := by
        rintro rfl
        exact hthis ⟨howner.symm.trans howner', hname.symm.trans hname'⟩
      simp only [Function.update_of_ne hji]
  · obtain ⟨p, c, c', hsyms⟩ := hadd.new
    rw [(hadd.holds hh).symFind_eq, hh.symFind_eq, hadd.symCount, newest_update, hsyms]
    split
    · simp
    · refine Option.map_congr fun j hj => ?_
      rw [Function.update_of_ne (Nat.ne_of_lt (newest_eq_some hj).1)]

/-- Names that fit a string space can always be defined. -/
lemma step_isSome (st : Symbols) (op : Op) (hlen : op.name.bytes.length < MAX_STRINGSPACE) :
    ∃ st', st.step garbage op = some st' := by
  obtain ⟨p, st₁, hcopy⟩ := stringspaceCopy_isSome garbage st hlen
  cases op with
  | add t name value type =>
    simp only [Op.name] at hcopy
    exact ⟨_, by simp only [step, symAdd, hcopy]; rfl⟩
  | set t name value type =>
    simp only [Op.name] at hcopy
    simp only [step, symSet]
    split
    · exact ⟨_, rfl⟩
    · exact ⟨_, by simp only [symAdd, hcopy]; rfl⟩

/-- **Lookup by name gives the last definition.** -/
theorem symFind_eq_lastDef (l : List Op) (htype : ∀ op ∈ l, op.type = 0)
    (hlen : ∀ op ∈ l, op.name.bytes.length < MAX_STRINGSPACE) :
    ∃ st, run garbage l (symInit garbage) = some st ∧
      ∀ t name, st.symFind t name 0 = lastDef l t name := by
  induction l using List.reverseRecOn with
  | nil => exact ⟨_, rfl, fun _ _ => rfl⟩
  | append_singleton l op ih =>
    obtain ⟨st, hrun, hfind⟩ := ih (fun op hop => htype op (List.mem_append_left _ hop))
      fun op hop => hlen op (List.mem_append_left _ hop)
    have hop : op ∈ l ++ [op] := List.mem_append_right _ List.mem_cons_self
    obtain ⟨st', hstep⟩ := step_isSome garbage st op (hlen op hop)
    refine ⟨st', run_snoc garbage hrun hstep, fun t name => ?_⟩
    rw [symFind_step garbage (holds_run garbage hrun) (htype op hop) hstep, lastDef_snoc, hfind]

private def nameX : CString := ⟨[0x78], by decide⟩

theorem symFind_eq_lastDef_twice :
    ∃ st, run (fun _ _ => 0)
        [.add .program nameX 1 0, .add .internal nameX 5 0, .set .program nameX 2 0]
        (symInit fun _ _ => 0) = some st ∧
      st.symFind .program nameX 0 = some 2 ∧ st.symFind .internal nameX 0 = some 5 ∧
      st.symFind .auto nameX 0 = none := by
  obtain ⟨st, hrun, hfind⟩ := symFind_eq_lastDef (fun _ _ => 0)
    [.add .program nameX 1 0, .add .internal nameX 5 0, .set .program nameX 2 0] (by decide)
    (by decide)
  exact ⟨st, hrun, (hfind _ _).trans (by decide), (hfind _ _).trans (by decide),
    (hfind _ _).trans (by decide)⟩

/-! ## Lookup by value -/

/-- The symbol is on one of the chains by name. -/
def Member (st : Symbols) (t : SymtabId) (i : Nat) : Prop :=
  ∃ hash l, Links (fun i => (st.syms i).nameChain) ((st.tables t).symsByName hash) l ∧ i ∈ l

/-- The index by value agrees with the index by name. -/
structure ValueIndexed (st : Symbols) (t : SymtabId) : Prop where
  chain : ∀ i, Member st t i → ∃ l, Links (fun i => (st.syms i).valueChain)
    ((st.tables t).symsByValue (symHashValue (st.syms i).value)) l ∧ i ∈ l
  lookup : ∀ v, (st.symLookup t v).isSome ↔ ∃ i, Member st t i ∧ (st.syms i).value = v
  name : ∀ v p, st.symLookup t v = some p →
    ∃ i, Member st t i ∧ (st.syms i).value = v ∧ (st.syms i).name = p

section Values

variable {st : Symbols} {owner : Nat → SymtabId} {names : Nat → CString} {born : Nat → BitVec 64}

lemma Holds.member_iff (h : Holds st owner names born) {t : SymtabId} {i : Nat} :
    Member st t i ↔ i < st.symCount ∧ owner i = t := by
  constructor
  · rintro ⟨hash, hl⟩
    obtain ⟨hi, hkey⟩ := (h.byName.mem_iff (k := (t, hash))).mp hl
    exact ⟨hi, (Prod.mk.inj hkey).1⟩
  · rintro ⟨hi, rfl⟩
    exact ⟨_, (h.byName.mem_iff (k := (owner i, symHashName (names i)))).mpr ⟨hi, rfl⟩⟩

/-- A symbol stays on the chain of its first value. -/
lemma Holds.onValueChain_iff (h : Holds st owner names born) {t : SymtabId} {hash i : Nat} :
    (∃ l, Links (fun i => (st.syms i).valueChain) ((st.tables t).symsByValue hash) l ∧ i ∈ l) ↔
      i < st.symCount ∧ owner i = t ∧ symHashValue (born i) = hash :=
  (h.byValue.mem_iff (k := (t, hash))).trans (and_congr_right fun _ => Prod.mk.injEq ..  ▸ Iff.rfl)

/-- `sym_lookup` finds what is on the chain of the value and has the value. -/
lemma Holds.symLookup_eq (h : Holds st owner names born) (t : SymtabId) (v : BitVec 64) :
    st.symLookup t v = ((newestFirst st.symCount).find? fun i =>
      (owner i = t ∧ symHashValue (born i) = symHashValue v) ∧ v = (st.syms i).value).map
        fun i => (st.syms i).name := by
  have hchain := h.byValue.find_eq (t, symHashValue v) fun i => v = (st.syms i).value
  simp only [valueHeads, Prod.mk.injEq, Bool.decide_and] at hchain
  simp only [symLookup, lookupFrom, hchain, h.parent, Bool.decide_and]
  congr 1
  split
  · rename_i heq
    exact heq.symm
  · rename_i heq
    exact heq.symm

/-- **The indexes agree as long as no value has left the hash of the first one.** -/
lemma Holds.valueIndexed_iff (h : Holds st owner names born) :
    (∀ t, ValueIndexed st t) ↔
      ∀ i < st.symCount, symHashValue (born i) = symHashValue (st.syms i).value := by
  constructor
  · intro hv i hi
    exact (h.onValueChain_iff.mp ((hv (owner i)).chain i (h.member_iff.mpr ⟨hi, rfl⟩))).2.2
  · intro hborn t
    have hfound : ∀ v i, (newestFirst st.symCount).find? (fun i =>
        (owner i = t ∧ symHashValue (born i) = symHashValue v) ∧ v = (st.syms i).value) = some i →
        Member st t i ∧ (st.syms i).value = v := fun v i hi => by
      have hi' := List.find?_some hi
      simp only [decide_eq_true_eq] at hi'
      exact ⟨h.member_iff.mpr ⟨mem_newestFirst.mp (List.mem_of_find?_eq_some hi), hi'.1.1⟩,
        hi'.2.symm⟩
    refine ⟨fun i hi => ?_, fun v => ?_, fun v p hp => ?_⟩
    · obtain ⟨hi, howner⟩ := h.member_iff.mp hi
      exact h.onValueChain_iff.mpr ⟨hi, howner, hborn i hi⟩
    · rw [h.symLookup_eq, Option.isSome_map]
      constructor
      · intro hsome
        obtain ⟨i, hi⟩ := Option.isSome_iff_exists.mp hsome
        exact ⟨i, hfound v i hi⟩
      · rintro ⟨i, hi, rfl⟩
        obtain ⟨hi, howner⟩ := h.member_iff.mp hi
        rw [List.find?_isSome]
        exact ⟨i, mem_newestFirst.mpr hi, decide_eq_true ⟨⟨howner, hborn i hi⟩, rfl⟩⟩
    · rw [h.symLookup_eq, Option.map_eq_some_iff] at hp
      obtain ⟨i, hi, hname⟩ := hp
      obtain ⟨hmember, hvalue⟩ := hfound v i hi
      exact ⟨i, hmember, hvalue, hname⟩

end Values

/-- A `sym_set` that finds its symbol keeps the hash of the value. -/
def KeepsHash (st : Symbols) : Op → Prop
  | .add .. => True
  | .set t name value type =>
    ∀ i, st.symFind1 t name type = some i → symHashValue value = symHashValue (st.syms i).value

/-- Every `sym_set` of a run does. -/
def EachKeepsHash (l : List Op) : Prop :=
  ∀ l' op st, l' ++ [op] <+: l → run garbage l' (symInit garbage) = some st → KeepsHash st op

/-- The symbol found is one of the table. -/
lemma Holds.symFind1_lt {st : Symbols} {owner : Nat → SymtabId} {names : Nat → CString}
    {born : Nat → BitVec 64} (h : Holds st owner names born) {t : SymtabId} {name : CString}
    {type : Unsigned} {i : Nat} (hi : st.symFind1 t name type = some i) : i < st.symCount := by
  rw [h.symFind1_eq, Option.filter_eq_some_iff] at hi
  exact (newest_eq_some hi.1).1

lemma valueIndexed_step {st st' : Symbols} {op : Op}
    (hh : ∃ owner names born, Holds st owner names born) (hv : ∀ t, ValueIndexed st t)
    (h : st.step garbage op = some st') :
    (∀ t, ValueIndexed st' t) ↔ KeepsHash st op := by
  obtain ⟨owner, names, born, hh⟩ := hh
  rw [hh.valueIndexed_iff] at hv
  obtain ⟨t, name, value, type, i, rfl, hi, rfl⟩ | ⟨hnone, hadd⟩ := step_cases garbage hh.current h
  · have hlt := hh.symFind1_lt hi
    rw [(hh.setValue i value).valueIndexed_iff]
    constructor
    · intro hv' i' hi'
      obtain rfl := Option.some.inj (hi.symm.trans hi')
      have hnew := hv' i hlt
      simp only [Function.update_self] at hnew
      exact hnew.symm.trans (hv i hlt)
    · intro hkeeps j hj
      by_cases hji : j = i
      · subst hji
        simp only [Function.update_self]
        exact (hv j hj).trans (hkeeps j hi).symm
      · simp only [Function.update_of_ne hji]
        exact hv j hj
  · have hkeeps : KeepsHash st op := by
      cases op with
      | add => trivial
      | set t name value type =>
        intro i hi
        rw [hnone _ _ _ _ rfl] at hi
        cases hi
    refine iff_of_true ((hadd.holds hh).valueIndexed_iff.mpr fun j hj => ?_) hkeeps
    obtain ⟨p, c, c', hsyms⟩ := hadd.new
    rw [hadd.symCount] at hj
    rw [hsyms]
    by_cases hlast : j = st.symCount
    · subst hlast
      simp only [Function.update_self]
    · simp only [Function.update_of_ne hlast]
      exact hv j (Nat.lt_of_le_of_ne (Nat.le_of_lt_succ hj) hlast)

lemma valueIndexed_symInit (t : SymtabId) : ValueIndexed (symInit garbage) t := by
  have hh := holds_symInit garbage (fun _ => .program) (fun _ => ⟨[], by simp⟩) fun _ => 0
  exact hh.valueIndexed_iff.mpr (fun i hi => absurd hi (Nat.not_lt_zero i)) t

/-- **In every state of a run the indexes agree if and only if no `sym_set` changed the hash of a
value.** -/
theorem value_index_agrees_iff (l : List Op) :
    (∀ l' st, l' <+: l → run garbage l' (symInit garbage) = some st → ∀ t, ValueIndexed st t) ↔
      EachKeepsHash garbage l := by
  constructor
  · intro hv l' op st hprefix hrun
    have hv' := hv l' st ((List.prefix_append l' [op]).trans hprefix) hrun
    have hh := holds_run garbage hrun
    cases op with
    | add => trivial
    | set t name value type =>
      intro i hi
      have hstep : st.step garbage (.set t name value type) = some
          { st with syms := Function.update st.syms i { st.syms i with value := value } } := by
        simp only [step, symSet, hi]
      have hnext := hv _ _ hprefix (run_snoc garbage hrun hstep)
      exact (valueIndexed_step garbage hh hv' hstep).mp hnext i hi
  · intro hkeeps l'
    induction l' using List.reverseRecOn with
    | nil =>
      intro st _ hrun
      cases hrun
      exact valueIndexed_symInit garbage
    | append_singleton l' op ih =>
      intro st hprefix hrun
      rw [run_append, Option.bind_eq_some_iff] at hrun
      obtain ⟨st', hrun', hop⟩ := hrun
      have hstep : st'.step garbage op = some st := by simpa [run] using hop
      have hv := ih st' ((List.prefix_append l' [op]).trans hprefix) hrun'
      exact (valueIndexed_step garbage (holds_run garbage hrun') hv hstep).mpr
        (hkeeps l' op st' hprefix hrun')

/-- After `sym_set` the new value is looked up in vain. -/
theorem value_index_stale :
    ¬ ∀ garbage l st t, run garbage l (symInit garbage) = some st → ValueIndexed st t := by
  intro h
  have hv := h (fun _ _ => 0) [.add .program nameX 1 0, .set .program nameX 2 0] _ .program rfl
  have hmember := (hv.lookup 2).mpr ⟨0, ⟨symHashName nameX, [0], .cons .nil, List.mem_cons_self⟩, rfl⟩
  revert hmember
  decide

end Symbols

end Exec09
