import Exec09.Main.Options

/-!
# What the command line does

An iteration of `parse_args` reads one item of the argument vector.  What is stored by the items is
what the command line says, except for flags: `process_option` sets a flag only if it is handed a
word, which belongs to the next option or is the program.
-/

namespace Exec09

open Arguments CText

/-! ## One option -/

namespace Settings

lemma int_setInt (s : Settings) (x : BitVec 32) (v w : IntVar) :
    (s.setInt x v).int w = if v = w then x else s.int w := by
  cases v with
  | maxCycles =>
    cases w with
    | maxCycles =>
      rw [if_pos rfl]
      exact BitVec.setWidth_append_eq_right (a := s.maxCycles.extractLsb' 32 32)
    | _ => rfl
  | _ => cases w <;> rfl

lemma high_setInt (s : Settings) (x : BitVec 32) (v : IntVar) :
    (s.setInt x v).maxCycles.extractLsb' 32 32 = s.maxCycles.extractLsb' 32 32 := by
  cases v with
  | maxCycles => exact BitVec.extractLsb'_append_eq_left
  | _ => rfl

@[simp] lemma string_setInt (s : Settings) (x : BitVec 32) (v : IntVar) (w : StringVar) :
    (s.setInt x v).string w = s.string w := by
  cases v <;> rfl

@[simp] lemma int_setString (s : Settings) (x : List Char) (v : StringVar) (w : IntVar) :
    (s.setString x v).int w = s.int w := by
  cases w <;> rfl

@[simp] lemma progName_setInt (s : Settings) (x : BitVec 32) (v : IntVar) :
    (s.setInt x v).progName = s.progName := by
  cases v <;> rfl

end Settings

namespace OptionEntry

variable (opt : OptionEntry)

/-- The number that `process_option` stores when it is handed a word. -/
def result (arg : List Char) : BitVec 32 :=
  if opt.takesArg then (strtoul 0 arg).setWidth 32 else opt.defaultValue

/-- What `process_option` stores when it is handed a word. -/
def store (s : Settings) (arg : List Char) : Settings :=
  match opt.intValue, opt.stringValue with
  | some v, _ => s.setInt (opt.result arg) v
  | none, some v => if opt.takesArg then s.setString arg v else s
  | none, none => s

end OptionEntry

lemma processOption_eq {opt : OptionEntry} (h : opt.handler = none) (arg : Option (List Char))
    (s : Settings) :
    processOption opt arg s =
      .ok (if opt.takesArg ∧ arg.isSome then 1 else 0, arg.elim s (opt.store s)) := by
  obtain ⟨c, name, help, takesArg, iv, d, sv, handler⟩ := opt
  cases h
  cases takesArg <;> cases arg <;> cases iv <;> cases sv <;> rfl

/-- The option for help takes no argument and has no variable. -/
lemma processOption_help {opt : OptionEntry} (h : opt.handler = some .doHelp)
    (ht : opt.takesArg = false) (hv : opt.intValue = none) (arg : Option (List Char))
    (s : Settings) : processOption opt arg s = .error ⟨0, s.out ++ usageText⟩ := by
  obtain ⟨c, name, help, takesArg, iv, d, sv, handler⟩ := opt
  cases h
  cases ht
  cases hv
  cases arg <;> rfl

lemma help_entry : ∀ opt ∈ optionTable, opt.handler = some .doHelp →
    opt.takesArg = false ∧ opt.intValue = none := by
  decide

/-! ## Items -/

/-- The options of `option_table`. -/
def optionSyntax : Options OptionEntry where
  short c := optionTable.find? fun opt => opt.oShort = c
  long name := optionTable.find? fun opt => opt.oLong = name
  takesArg := OptionEntry.takesArg

lemma optionSyntax_short (c : Char) :
    optionSyntax.short c = optionTable.find? fun opt => opt.oShort = c := rfl

lemma optionSyntax_long (name : List Char) :
    optionSyntax.long name = optionTable.find? fun opt => opt.oLong = name := rfl

lemma mem_of_short {c : Char} {o : OptionEntry} (h : optionSyntax.short c = some o) :
    o ∈ optionTable := List.mem_of_find?_eq_some (optionSyntax_short c ▸ h)

lemma mem_of_long {name : List Char} {o : OptionEntry} (h : optionSyntax.long name = some o) :
    o ∈ optionTable := List.mem_of_find?_eq_some (optionSyntax_long name ▸ h)

lemma mem_optionTable {l : List (List Char)} {i : Item OptionEntry} {o : OptionEntry}
    (hi : i ∈ items optionSyntax l) (ho : i.option = some o) : o ∈ optionTable := by
  rcases option_of_mem_items hi ho with ⟨c, h⟩ | ⟨name, h⟩
  · exact mem_of_short h
  · exact mem_of_long h

/-- What is printed about a word that is no option. -/
def notRecognized : List Char → String
  | '-' :: '-' :: cs =>
    "long option '" ++ String.ofList (splitName cs).1 ++ "' not recognized.\n"
  | w => "short option '" ++ String.singleton (w.tail.headD '\x00') ++ "' not recognized.\n"

/-- What an item does, given the word behind it. -/
def carryOut (next : Option (List Char)) (s : Settings) : Item OptionEntry → Settings
  | .long o _ v => v.elim s (o.store s)
  | .short o _ v => (v.or next).elim s (o.store s)
  | .unknown w => s.printf (notRecognized w)
  | .plain w => if s.progName.isNone then { s with progName := some w } else s

/-- The item is the option for help. -/
def AsksHelp (i : Item OptionEntry) : Prop := ∃ o ∈ i.option, o.handler = some .doHelp

instance (i : Item OptionEntry) : Decidable (AsksHelp i) :=
  inferInstanceAs (Decidable (∃ o ∈ i.option, _))

/-- What the items do, one after the other. -/
def perform : List (Item OptionEntry) → Settings → Except Exited Settings
  | [], s => .ok s
  | i :: l, s =>
    if AsksHelp i then .error ⟨0, s.out ++ usageText⟩ else perform l (carryOut (nextWord l) s i)

/-! ## The loop -/

/-- The outcome of `process_option`, its result used for `argn`. -/
lemma processOption_bind {o : OptionEntry} (ho : o ∈ optionTable) (arg : Option (List Char))
    (f : Int → Nat) (s : Settings) :
    (processOption o arg >>= fun rc => pure (f rc)) s =
      if o.handler = some .doHelp then .error ⟨0, s.out ++ usageText⟩
      else .ok (f (if o.takesArg ∧ arg.isSome then 1 else 0), arg.elim s (o.store s)) := by
  change (processOption o arg s >>= fun p => .ok (f p.1, p.2)) = _
  rcases hh : o.handler with _ | ⟨⟨⟩⟩
  · rw [processOption_eq hh]
    rfl
  · obtain ⟨ht, hv⟩ := help_entry o ho hh
    rw [processOption_help hh ht hv]
    rfl

/-- The iteration at `argn` reads the first item of the words `l`, which are the words from there
on. -/
def ReadsItem (argv : List (List Char)) (argn : Nat) (l : List (List Char)) : Prop :=
  ∃ i k, argn < k ∧ k ≤ argv.length ∧
    items optionSyntax l = i :: items optionSyntax (argv.drop k) ∧
    ∀ s, nextArg argv argn s =
      if AsksHelp i then .error ⟨0, s.out ++ usageText⟩
      else .ok (k, carryOut argv[k]? s i)

section Iteration

variable {argv : List (List Char)} {argn : Nat} (h : argn < argv.length) {w cs : List Char}
include h

lemma readsItem_long (hw : argv.getD argn [] = '-' :: '-' :: cs) :
    ReadsItem argv argn (('-' :: '-' :: cs) :: argv.drop (argn + 1)) := by
  have hnext : nextArg argv argn = (optionSyntax.long (splitName cs).1).elim
      (do
        modify fun s => s.printf
          ("long option '" ++ String.ofList (splitName cs).1 ++ "' not recognized.\n")
        return argn + 1)
      fun opt => do
        let _ ← processOption opt (splitName cs).2
        return argn + 1 := by
    rw [nextArg, hw, optionSyntax_long]
    split
    · rename_i heq
      obtain ⟨-, rfl⟩ := List.cons.inj (List.cons.inj heq).2
      rcases splitName _ with ⟨name, rest⟩
      dsimp only
      cases optionTable.find? fun opt => opt.oLong = name <;> rfl
    · rename_i hne heq
      exact (hne _ (List.cons.inj heq).2.symm).elim
    · rename_i hne _
      exact (hne _ rfl).elim
  rw [ReadsItem, hnext]
  cases ho : optionSyntax.long (splitName cs).1 with
  | some o =>
    refine ⟨_, argn + 1, by omega, h, items_long ho, fun s => ?_⟩
    refine (processOption_bind (mem_of_long ho) _ (fun _ => argn + 1) s).trans ?_
    simp [AsksHelp, Item.option, carryOut]
  | none =>
    refine ⟨_, argn + 1, by omega, h, items_long_none ho, fun s => ?_⟩
    rw [if_neg (by simp [AsksHelp, Item.option])]
    rfl

lemma readsItem_short (hw : argv.getD argn [] = '-' :: cs) (hcs : ∀ cs', cs = '-' :: cs' → False) :
    ReadsItem argv argn (('-' :: cs) :: argv.drop (argn + 1)) := by
  have hnext : nextArg argv argn = (optionSyntax.short (cs.headD '\x00')).elim
      (do
        modify fun s => s.printf
          ("short option '" ++ String.singleton (cs.headD '\x00') ++ "' not recognized.\n")
        return argn + 1)
      fun opt => do
        let rc ← processOption opt argv[argn + 1]?
        return if rc ≠ 0 then argn + 2 else argn + 1 := by
    rw [nextArg, hw, optionSyntax_short]
    split
    · rename_i heq
      exact (hcs _ (List.cons.inj heq).2).elim
    · rename_i heq
      obtain ⟨-, rfl⟩ := List.cons.inj heq
      cases optionTable.find? fun opt => opt.oShort = cs.headD '\x00' <;> rfl
    · rename_i hne
      exact (hne _ rfl).elim
  rw [ReadsItem, hnext]
  cases ho : optionSyntax.short (cs.headD '\x00') with
  | some o =>
    have run := processOption_bind (mem_of_short ho) argv[argn + 1]?
      fun rc => if rc ≠ 0 then argn + 2 else argn + 1
    cases ht : o.takesArg with
    | true =>
      have htail : (argv.drop (argn + 1)).tail = argv.drop (argn + 2) := List.tail_drop
      rw [items_short hcs ho ht, htail, List.head?_drop]
      cases harg : argv[argn + 1]? with
      | some v =>
        have hlen := (List.getElem?_eq_some_iff.mp harg).1
        rw [harg] at run
        refine ⟨_, argn + 2, by omega, hlen, rfl, fun s => (run s).trans ?_⟩
        simp [AsksHelp, Item.option, carryOut, ht]
      | none =>
        have hlen := List.getElem?_eq_none_iff.mp harg
        rw [harg] at run
        refine ⟨.short o ('-' :: cs) none, argn + 1, by omega, h, ?_, fun s => (run s).trans ?_⟩
        · rw [List.drop_eq_nil_of_le hlen, List.drop_eq_nil_of_le (Nat.le_succ_of_le hlen)]
        · simp [AsksHelp, Item.option, carryOut, harg]
    | false =>
      refine ⟨_, argn + 1, by omega, h, items_flag hcs ho ht, fun s => (run s).trans ?_⟩
      simp [AsksHelp, Item.option, carryOut, ht]
  | none =>
    refine ⟨_, argn + 1, by omega, h, items_short_none hcs ho, fun s => ?_⟩
    rw [if_neg (by simp [AsksHelp, Item.option]), carryOut, notRecognized]
    · rfl
    · exact fun cs' heq => hcs cs' (List.cons.inj heq).2

lemma readsItem_plain (hw : argv.getD argn [] = w) (hne : ∀ cs', w = '-' :: cs' → False) :
    ReadsItem argv argn (w :: argv.drop (argn + 1)) := by
  have hnext : nextArg argv argn = do
      processPlainArgument w
      return argn + 1 := by
    rw [nextArg, hw]
    split
    · exact (hne _ rfl).elim
    · exact (hne _ rfl).elim
    · rfl
  rw [ReadsItem, hnext]
  refine ⟨_, argn + 1, by omega, h, items_plain hne, fun s => ?_⟩
  rw [if_neg (by simp [AsksHelp, Item.option])]
  rfl

/-- Every iteration reads the first item of what is left. -/
lemma readsItem : ReadsItem argv argn (argv.drop argn) := by
  obtain ⟨w, hw⟩ : ∃ w, argv.getD argn [] = w := ⟨_, rfl⟩
  have hdrop : argv.drop argn = w :: argv.drop (argn + 1) := by
    rw [List.drop_eq_getElem_cons h, ← hw, List.getD_eq_getElem?_getD, List.getElem?_eq_getElem h]
    rfl
  rw [hdrop]
  by_cases hlong : ∃ cs, w = '-' :: '-' :: cs
  · obtain ⟨cs, rfl⟩ := hlong
    exact readsItem_long h hw
  · by_cases hshort : ∃ cs, w = '-' :: cs
    · obtain ⟨cs, rfl⟩ := hshort
      exact readsItem_short h hw fun cs' hcs => hlong ⟨cs', by rw [hcs]⟩
    · exact readsItem_plain h hw fun cs hcs => hshort ⟨cs, hcs⟩

omit h in
lemma parseLoop_end (h : argv.length ≤ argn) (n : Nat) (s : Settings) :
    parseLoop argv n argn s = .ok (some argn, s) := by
  cases n <;> rw [parseLoop, if_neg (Nat.not_lt.mpr h)] <;> rfl

omit h in
/-- The loop carries out the items, and ends behind the last word. -/
lemma parseLoop_eq (n : Nat) (h : argv.length ≤ argn + n) (s : Settings) :
    parseLoop argv n argn s =
      (perform (items optionSyntax (argv.drop argn)) s).map
        fun t => (some (max argn argv.length), t) := by
  induction n generalizing argn s with
  | zero =>
    rw [Nat.add_zero] at h
    rw [parseLoop_end h, List.drop_eq_nil_of_le h, Nat.max_eq_left h]
    rfl
  | succ n ih =>
    by_cases hlt : argn < argv.length
    · obtain ⟨i, k, hk, hk', hitems, hrun⟩ := readsItem hlt
      rw [parseLoop, if_pos hlt, hitems, perform, nextWord_items, List.head?_drop]
      change (nextArg argv argn s >>= fun p => parseLoop argv n p.1 p.2) = _
      rw [hrun]
      split
      · rfl
      · change parseLoop argv n k _ = _
        rw [ih (by omega), Nat.max_eq_right hk', Nat.max_eq_right (Nat.le_of_lt hlt)]
    · have hlen := Nat.not_lt.mp hlt
      rw [parseLoop_end hlen, List.drop_eq_nil_of_le hlen, Nat.max_eq_left hlen]
      rfl

end Iteration

/-- The items of a command line. -/
def commandItems (argv : List (List Char)) : List (Item OptionEntry) :=
  items optionSyntax (argv.drop 1)

lemma parseArgs_eq (argv : List (List Char)) (s : Settings) :
    parseArgs argv s =
      (perform (commandItems argv) s).map fun t => (some (max 1 argv.length), t) :=
  parseLoop_eq argv.length (by omega) s

/-! ## Variables after the items -/

/-- An `int` belongs to one option. -/
lemma intValue_inj : ∀ o ∈ optionTable, ∀ o' ∈ optionTable, ∀ v ∈ o.intValue,
    o'.intValue = some v → o' = o := by
  decide

lemma stringValue_inj : ∀ o ∈ optionTable, ∀ o' ∈ optionTable, ∀ v ∈ o.stringValue,
    o'.stringValue = some v → o' = o := by
  decide

/-- An option with a text has no number. -/
lemma stringValue_entry : ∀ o ∈ optionTable, ∀ v ∈ o.stringValue,
    o.intValue = none ∧ o.takesArg = true := by
  decide

namespace OptionEntry

variable {o : OptionEntry}

lemma int_store {v : IntVar} (h : o.intValue = some v) (s : Settings) (arg : List Char) :
    (o.store s arg).int v = o.result arg := by
  rw [store, h]
  exact (Settings.int_setInt _ _ _ _).trans (if_pos rfl)

lemma int_store_of_ne {v : IntVar} (h : o.intValue ≠ some v) (s : Settings) (arg : List Char) :
    (o.store s arg).int v = s.int v := by
  unfold store
  split
  · rename_i w _ hw
    rw [Settings.int_setInt, if_neg fun hv => h (by rw [hw, hv])]
  · split
    · exact Settings.int_setString _ _ _ _
    · rfl
  · rfl

lemma string_store {v : StringVar} (hi : o.intValue = none) (ht : o.takesArg = true)
    (h : o.stringValue = some v) (s : Settings) (arg : List Char) :
    (o.store s arg).string v = arg := by
  rw [store, hi, h]
  dsimp only
  rw [if_pos ht]
  rfl

lemma string_store_of_ne {v : StringVar} (h : o.stringValue ≠ some v) (s : Settings)
    (arg : List Char) : (o.store s arg).string v = s.string v := by
  unfold store
  split
  · exact Settings.string_setInt _ _ _ _
  · rename_i w _ hw
    cases v
    cases w
    exact absurd hw h
  · rfl

lemma high_store (s : Settings) (arg : List Char) :
    (o.store s arg).maxCycles.extractLsb' 32 32 = s.maxCycles.extractLsb' 32 32 := by
  unfold store
  split
  · exact Settings.high_setInt _ _ _
  · split <;> rfl
  · rfl

lemma progName_store (s : Settings) (arg : List Char) : (o.store s arg).progName = s.progName := by
  unfold store
  split
  · exact Settings.progName_setInt _ _ _
  · split <;> rfl
  · rfl

end OptionEntry

lemma carryOut_of_option {i : Item OptionEntry} {o : OptionEntry} (h : i.option = some o)
    (next : Option (List Char)) (s : Settings) :
    carryOut next s i = (i.handed next).elim s (o.store s) := by
  cases i <;> cases h <;> rfl

/-- The word an item hands to the option `o`. -/
def handedTo (o : OptionEntry) (next : Option (List Char)) (i : Item OptionEntry) :
    Option (List Char) :=
  if i.option = some o then i.handed next else none

/-- A variable `get` that the option `o` alone sets, to what `f` makes of the word it is handed. -/
structure SetBy (o : OptionEntry) {β : Type} (get : Settings → β) (f : List Char → β) : Prop where
  store : ∀ s arg, get (o.store s arg) = f arg
  other : ∀ o' ∈ optionTable, o' ≠ o → ∀ s arg, get (o'.store s arg) = get s
  printf : ∀ s text, get (s.printf text) = get s
  plain : ∀ s w, get { s with progName := some w } = get s

/-- The items have their options from the table. -/
def FromTable (l : List (Item OptionEntry)) : Prop :=
  ∀ i ∈ l, ∀ o, i.option = some o → o ∈ optionTable

namespace SetBy

variable {o : OptionEntry} {β : Type} {get : Settings → β} {f : List Char → β}
  {l : List (Item OptionEntry)}

lemma carryOut (h : SetBy o get f) {i : Item OptionEntry}
    (hi : ∀ o, i.option = some o → o ∈ optionTable) (next : Option (List Char)) (s : Settings) :
    get (carryOut next s i) = ((handedTo o next i).map f).getD (get s) := by
  cases ho : i.option with
  | none =>
    rw [handedTo, ho, if_neg (by simp)]
    cases i with
    | long o w v => cases ho
    | short o w v => cases ho
    | unknown w => exact h.printf _ _
    | plain w =>
      unfold Exec09.carryOut
      dsimp only
      split
      · exact h.plain _ _
      · rfl
  | some o' =>
    rw [carryOut_of_option ho, handedTo, ho]
    by_cases heq : o' = o
    · rw [if_pos (congrArg some heq), heq]
      cases i.handed next with
      | none => rfl
      | some arg => exact h.store _ _
    · rw [if_neg fun hsome => heq (Option.some.inj hsome)]
      cases i.handed next with
      | none => rfl
      | some arg => exact h.other o' (hi o' ho) heq _ _

/-- The last word that the option is handed decides. -/
lemma perform (h : SetBy o get f) (hl : FromTable l) {s t : Settings}
    (hrun : perform l s = .ok t) : get t = ((handed o l).getLast?.map f).getD (get s) := by
  induction l generalizing s with
  | nil =>
    cases hrun
    rfl
  | cons i l ih =>
    rw [Exec09.perform] at hrun
    split at hrun
    · cases hrun
    · have htail := ih (fun j hj => hl j (List.mem_cons_of_mem i hj)) hrun
      rw [h.carryOut (hl i List.mem_cons_self)] at htail
      have hword : (if i.option = some o then (i.handed (nextWord l)).toList else []) =
          (handedTo o (nextWord l) i).toList := by
        unfold handedTo
        split <;> rfl
      rw [htail, handed, hword, List.getLast?_append]
      cases (handed o l).getLast? with
      | some arg => rfl
      | none => cases handedTo o (nextWord l) i <;> rfl

end SetBy

lemma setBy_int {o : OptionEntry} (ho : o ∈ optionTable) {v : IntVar} (hv : o.intValue = some v) :
    SetBy o (·.int v) o.result where
  store := o.int_store hv
  other o' ho' hne := o'.int_store_of_ne fun hv' => hne (intValue_inj o ho o' ho' v hv hv')
  printf _ _ := by cases v <;> rfl
  plain _ _ := by cases v <;> rfl

lemma setBy_string {o : OptionEntry} (ho : o ∈ optionTable) {v : StringVar}
    (hv : o.stringValue = some v) : SetBy o (·.string v) id where
  store := o.string_store (stringValue_entry o ho v hv).1 (stringValue_entry o ho v hv).2 hv
  other o' ho' hne := o'.string_store_of_ne fun hv' => hne (stringValue_inj o ho o' ho' v hv hv')
  printf _ _ := rfl
  plain _ _ := rfl

section Perform

variable {l : List (Item OptionEntry)} {s t : Settings}

/-- No option sets the upper half of `max_cycles`. -/
lemma high_carryOut (next : Option (List Char)) (s : Settings) (i : Item OptionEntry) :
    (carryOut next s i).maxCycles.extractLsb' 32 32 = s.maxCycles.extractLsb' 32 32 := by
  cases ho : i.option with
  | some o =>
    rw [carryOut_of_option ho]
    cases i.handed next with
    | none => rfl
    | some arg => exact o.high_store s arg
  | none =>
    cases i with
    | long o w v => cases ho
    | short o w v => cases ho
    | unknown w => rfl
    | plain w =>
      unfold carryOut
      dsimp only
      split <;> rfl

/-- The first plain word is the program. -/
lemma progName_carryOut (next : Option (List Char)) (s : Settings) (i : Item OptionEntry) :
    (carryOut next s i).progName = s.progName.or i.plainWord := by
  cases ho : i.option with
  | some o =>
    have hplain : i.plainWord = none := by
      cases i <;> first | rfl | cases ho
    rw [carryOut_of_option ho, hplain, Option.or_none]
    cases i.handed next with
    | none => rfl
    | some arg => exact o.progName_store s arg
  | none =>
    cases i with
    | long o w v => cases ho
    | short o w v => cases ho
    | unknown w => exact (Option.or_none).symm
    | plain w =>
      unfold carryOut Item.plainWord
      dsimp only
      cases hp : s.progName <;> simp [hp]

lemma perform_cons {i : Item OptionEntry} (h : perform (i :: l) s = .ok t) :
    perform l (carryOut (nextWord l) s i) = .ok t := by
  rw [perform] at h
  split at h
  · cases h
  · exact h

lemma high_perform (h : perform l s = .ok t) :
    t.maxCycles.extractLsb' 32 32 = s.maxCycles.extractLsb' 32 32 := by
  induction l generalizing s with
  | nil =>
    cases h
    rfl
  | cons i l ih => rw [ih (perform_cons h), high_carryOut]

lemma progName_perform (h : perform l s = .ok t) :
    t.progName = s.progName.or (plainWords l).head? := by
  induction l generalizing s with
  | nil =>
    cases h
    exact (Option.or_none).symm
  | cons i l ih =>
    rw [ih (perform_cons h), progName_carryOut, Option.or_assoc, plainWords, plainWords,
      List.filterMap_cons]
    cases i.plainWord <;> rfl

/-- The program ends early exactly if it is asked for help. -/
lemma perform_help (h : ∃ i ∈ l, AsksHelp i) (s : Settings) :
    ∃ out, perform l s = .error ⟨0, out ++ usageText⟩ := by
  induction l generalizing s with
  | nil => simp at h
  | cons i l ih =>
    rw [perform]
    split
    · exact ⟨s.out, rfl⟩
    · rename_i hi
      obtain ⟨j, hj, hjh⟩ := h
      rcases List.mem_cons.mp hj with rfl | hj
      · exact absurd hjh hi
      · exact ih ⟨j, hj, hjh⟩ _

lemma perform_no_help (h : ¬∃ i ∈ l, AsksHelp i) (s : Settings) : ∃ t, perform l s = .ok t := by
  induction l generalizing s with
  | nil => exact ⟨s, rfl⟩
  | cons i l ih =>
    rw [perform, if_neg fun hi => h ⟨i, List.mem_cons_self, hi⟩]
    exact ih (fun ⟨j, hj, hjh⟩ => h ⟨j, List.mem_cons_of_mem i hj, hjh⟩) _

end Perform

/-! ## The command line as it is written -/

/-- The variables are as the items say: a flag that occurs has been set, an option with an argument
has its last value, and the first plain word is the program. -/
structure AsWritten (l : List (Item OptionEntry)) (s t : Settings) : Prop where
  flag : ∀ o ∈ optionTable, o.takesArg = false → ∀ v ∈ o.intValue,
    t.int v = if Occurs o l then o.defaultValue else s.int v
  number : ∀ o ∈ optionTable, o.takesArg = true → ∀ v ∈ o.intValue,
    t.int v = ((values o l).getLast?.map fun x => (strtoul 0 x).setWidth 32).getD (s.int v)
  high : t.maxCycles.extractLsb' 32 32 = s.maxCycles.extractLsb' 32 32
  string : ∀ o ∈ optionTable, ∀ v ∈ o.stringValue,
    t.string v = (values o l).getLast?.getD (s.string v)
  program : t.progName = s.progName.or (plainWords l).head?

/-- The items set the same: the same flags, the same last values, and the same program, in whatever
form and order. -/
structure SameOptions (l l' : List (Item OptionEntry)) : Prop where
  flag : ∀ o ∈ optionTable, o.takesArg = false → (Occurs o l ↔ Occurs o l')
  value : ∀ o ∈ optionTable, o.takesArg = true →
    (values o l).getLast? = (values o l').getLast?
  program : (plainWords l).head? = (plainWords l').head?

/-- A condition on each flag. -/
def FlagsBacked (l : List (Item OptionEntry)) (s : Settings) : Prop :=
  ∀ o ∈ optionTable, o.takesArg = false → ∀ v ∈ o.intValue, Occurs o l →
    Backed o l ∨ s.int v = o.defaultValue

section AsWritten

variable {argv : List (List Char)} {s t : Settings}

lemma fromTable (argv : List (List Char)) : FromTable (commandItems argv) :=
  fun _ hi _ ho => mem_optionTable hi ho

/-- A flag that is handed no word is not set. -/
lemma flag_perform (h : perform (commandItems argv) s = .ok t) {o : OptionEntry}
    (ho : o ∈ optionTable) (ht : o.takesArg = false) {v : IntVar} (hv : o.intValue = some v)
    [Decidable (Backed o (commandItems argv))] :
    t.int v = if Backed o (commandItems argv) then o.defaultValue else s.int v := by
  rw [(setBy_int ho hv).perform (fromTable argv) h]
  split
  · rename_i hb
    obtain ⟨arg, harg⟩ := Option.isSome_iff_exists.mp
      (List.getLast?_isSome.mpr (handed_ne_nil_iff.mpr hb))
    rw [harg]
    exact if_neg (ht ▸ Bool.false_ne_true)
  · rename_i hb
    rw [not_not.mp (mt handed_ne_nil_iff.mp hb)]
    rfl

lemma number_perform (h : perform (commandItems argv) s = .ok t) {o : OptionEntry}
    (ho : o ∈ optionTable) (ht : o.takesArg = true) {v : IntVar} (hv : o.intValue = some v) :
    t.int v = ((values o (commandItems argv)).getLast?.map fun x =>
      (strtoul 0 x).setWidth 32).getD (s.int v) := by
  have hresult : o.result = fun x => (strtoul 0 x).setWidth 32 := by
    funext x
    exact if_pos ht
  rw [(setBy_int ho hv).perform (fromTable argv) h, hresult, commandItems,
    handed_eq_values (g := optionSyntax) ht]

lemma string_perform (h : perform (commandItems argv) s = .ok t) {o : OptionEntry}
    (ho : o ∈ optionTable) {v : StringVar} (hv : o.stringValue = some v) :
    t.string v = (values o (commandItems argv)).getLast?.getD (s.string v) := by
  have ht := (stringValue_entry o ho v hv).2
  rw [(setBy_string ho hv).perform (fromTable argv) h, commandItems,
    handed_eq_values (g := optionSyntax) ht, Option.map_id]
  rfl

lemma asWritten_iff (h : perform (commandItems argv) s = .ok t) :
    AsWritten (commandItems argv) s t ↔ FlagsBacked (commandItems argv) s := by
  classical
  constructor
  · intro hw o ho ht v hv hocc
    have hset := flag_perform h ho ht hv
    rw [hw.flag o ho ht v hv, if_pos hocc] at hset
    by_cases hb : Backed o (commandItems argv)
    · exact Or.inl hb
    · rw [if_neg hb] at hset
      exact Or.inr hset.symm
  · intro hb
    refine ⟨fun o ho ht v hv => ?_, fun o ho ht v hv => number_perform h ho ht hv,
      high_perform h, fun o ho v hv => string_perform h ho hv, progName_perform h⟩
    rw [flag_perform h ho ht hv]
    by_cases hocc : Occurs o (commandItems argv)
    · rw [if_pos hocc]
      rcases hb o ho ht v hv hocc with hback | hdefault
      · rw [if_pos hback]
      · rw [hdefault, ite_self]
    · rw [if_neg hocc, if_neg fun hback => hocc hback.occurs]

lemma exists_entry (v : IntVar) : ∃ o ∈ optionTable, v ∈ o.intValue := by
  cases v <;> decide

lemma machineName_entry : ∃ o ∈ optionTable, StringVar.machineName ∈ o.stringValue := by
  decide

/-- The variables determine the settings but for the output. -/
lemma Settings.eq_of_int {t t' : Settings} (hint : ∀ v, t.int v = t'.int v)
    (hhigh : t.maxCycles.extractLsb' 32 32 = t'.maxCycles.extractLsb' 32 32)
    (hname : t.machineName = t'.machineName) (hprog : t.progName = t'.progName) :
    { t with out := [] } = { t' with out := [] } := by
  have hmax : t.maxCycles = t'.maxCycles := by
    have hlow := congrArg BitVec.toNat (hint .maxCycles)
    have hup := congrArg BitVec.toNat hhigh
    simp only [Settings.int, BitVec.toNat_setWidth, BitVec.extractLsb'_toNat,
      Nat.shiftRight_eq_div_pow] at hlow hup
    apply BitVec.eq_of_toNat_eq
    omega
  have hdebug := hint .debugEnabled
  have htype := hint .type
  have hrealtime := hint .machineRealtime
  have hirq := hint .cyclesPerIrq
  have hfirq := hint .cyclesPerFirq
  have hdump := hint .dumpCyclesOnSuccess
  have htrace := hint .traceEnabled
  have hpersistent := hint .machinePersistent
  simp only [Settings.int] at *
  simp [*]

/-- What is written determines the variables. -/
lemma AsWritten.unique {l l' : List (Item OptionEntry)} {t' : Settings} (h : AsWritten l s t)
    (h' : AsWritten l' s t') (hsame : SameOptions l l') :
    { t with out := [] } = { t' with out := [] } := by
  refine Settings.eq_of_int (fun v => ?_) (h.high.trans h'.high.symm) ?_ ?_
  · obtain ⟨o, ho, hv⟩ := exists_entry v
    cases ht : o.takesArg with
    | true => rw [h.number o ho ht v hv, h'.number o ho ht v hv, hsame.value o ho ht]
    | false =>
      rw [h.flag o ho ht v hv, h'.flag o ho ht v hv]
      simp only [hsame.flag o ho ht]
  · obtain ⟨o, ho, hv⟩ := machineName_entry
    have hname := h.string o ho .machineName hv
    rw [hsame.value o ho (stringValue_entry o ho _ hv).2, ← h'.string o ho .machineName hv] at hname
    exact hname
  · rw [h.program, h'.program, hsame.program]

lemma perform_of_parseArgs {n : Option Nat} (h : parseArgs argv s = .ok (n, t)) :
    perform (commandItems argv) s = .ok t := by
  rw [parseArgs_eq] at h
  cases hp : perform (commandItems argv) s with
  | error e =>
    rw [hp] at h
    cases h
  | ok t' =>
    rw [hp] at h
    cases h
    rfl

end AsWritten

/-- **The command line** is read once, word by word.  Unless it asks for help, the variables are as
it is written if and only if each flag on it stands with a value behind `=`, or as a letter that is
not the last word, or has its value already.  Where this is so, form and order do not matter. -/
theorem parseArgs_asWritten_iff (argv : List (List Char)) (s : Settings) :
    (commandItems argv).flatMap Item.words = argv.drop 1 ∧
    ((∃ i ∈ commandItems argv, AsksHelp i) →
      ∃ out, parseArgs argv s = .error ⟨0, out ++ usageText⟩) ∧
    ((¬∃ i ∈ commandItems argv, AsksHelp i) →
      ∃ t, parseArgs argv s = .ok (some (max 1 argv.length), t) ∧
        (AsWritten (commandItems argv) s t ↔ FlagsBacked (commandItems argv) s)) ∧
    ∀ argv' n n' t t', parseArgs argv s = .ok (n, t) → parseArgs argv' s = .ok (n', t') →
      FlagsBacked (commandItems argv) s → FlagsBacked (commandItems argv') s →
      SameOptions (commandItems argv) (commandItems argv') →
      { t with out := [] } = { t' with out := [] } := by
  refine ⟨flatMap_words_items _ _, fun h => ?_, fun h => ?_, ?_⟩
  · obtain ⟨out, hout⟩ := perform_help h s
    exact ⟨out, by rw [parseArgs_eq, hout]; rfl⟩
  · obtain ⟨t, ht⟩ := perform_no_help h s
    exact ⟨t, by rw [parseArgs_eq, ht]; rfl, asWritten_iff ht⟩
  · intro argv' n n' t t' h h' hb hb' hsame
    have hw := (asWritten_iff (perform_of_parseArgs h)).mpr hb
    exact hw.unique ((asWritten_iff (perform_of_parseArgs h')).mpr hb') hsame

/-- `-d` as the last argument is ignored. -/
theorem last_flag_ignored :
    parseArgs ["m6809-run".toList, "-d".toList] Settings.initial =
      .ok (some 2, Settings.initial) ∧
    ¬AsWritten (commandItems ["m6809-run".toList, "-d".toList]) Settings.initial
      Settings.initial := by
  refine ⟨by rfl, fun h => ?_⟩
  have hflag := h.flag _ List.mem_cons_self rfl .debugEnabled rfl
  exact absurd hflag (by decide)

end Exec09
