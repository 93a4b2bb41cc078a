import Exec09.Debugger.Scripts
import Mathlib.Data.List.TakeWhile

/-!
# Scripts that call scripts

`Script` is a script file together with the files its `source` lines name.  Textual inclusion reads
the lines of such a tree in order, each file behind the line that names it.  `command_exec` reads
only some of them: a nested file takes the place of the one that calls it, and when it is finished
control goes to the keyboard.  `Item.read` marks the lines it gets to, and a session reads exactly
those, up to the first `quit`.
-/

namespace Exec09

/-! ## Lines -/

/-- What `fgets` can deliver: at most 254 characters, a newline only at the end. -/
structure Piece (n : Nat) (l : List Char) : Prop where
  ne : l ≠ []
  length : l.length ≤ n
  newline : '\n' ∉ l.dropLast

/-- The end of the file is hit before the line is complete. -/
def lost (n : Nat) (l : List Char) : Bool := l.length < n && l.getLast? != some '\n'

lemma fgets_piece {n : Nat} {l cs : List Char} (h : Piece n l) (hl : lost n l = false) :
    fgets n (l ++ cs) = (l, cs, false) := by
  induction n generalizing l with
  | zero => exact absurd (List.eq_nil_of_length_eq_zero (Nat.le_zero.mp h.length)) h.ne
  | succ n ih =>
      obtain _ | ⟨c, l⟩ := l
      · exact absurd rfl h.ne
      obtain _ | ⟨d, l⟩ := l
      · by_cases hc : c = '\n'
        · simp [fgets, hc]
        · have hn : n = 0 := by simpa [lost, hc] using hl
          simp [fgets, hc, hn]
      · have hc : c ≠ '\n' := fun hc => h.newline (by simp [hc])
        have htail : Piece n (d :: l) :=
          ⟨by simp, Nat.le_of_succ_le_succ h.length, fun hd => h.newline (by simp [hd])⟩
        have hlost : lost n (d :: l) = false := by simpa [lost] using hl
        have hrec := ih htail hlost
        simp only [List.cons_append] at hrec
        simp [fgets, hc, hrec]

lemma fgets_lost {n : Nat} {l : List Char} (h : Piece n l) (hl : lost n l = true) :
    (fgets n l).2 = ([], true) := by
  induction n generalizing l with
  | zero => exact absurd (List.eq_nil_of_length_eq_zero (Nat.le_zero.mp h.length)) h.ne
  | succ n ih =>
      obtain _ | ⟨c, l⟩ := l
      · exact absurd rfl h.ne
      obtain _ | ⟨d, l⟩ := l
      · have hc : 0 < n ∧ c ≠ '\n' := by simpa [lost] using hl
        obtain ⟨m, rfl⟩ := Nat.exists_eq_succ_of_ne_zero (Nat.ne_of_gt hc.1)
        simp [fgets, hc.2]
      · have hc : c ≠ '\n' := fun hc => h.newline (by simp [hc])
        have htail : Piece n (d :: l) :=
          ⟨by simp, Nat.le_of_succ_le_succ h.length, fun hd => h.newline (by simp [hd])⟩
        have hlost : lost n (d :: l) = true := by simpa [lost] using hl
        have hrec := ih htail hlost
        simp [fgets, hc, hrec]

/-- The first word of a line that is not a comment, and what follows it. -/
def commandOf (l : List Char) : Option (List Char × List Char) :=
  if l.head? = some '#' then none else strtok l

/-- The line is a command: it has a word, or is blank, which repeats the previous command. -/
def isCommand (l : List Char) : Bool := l.head? = some '\n' || (commandOf l).isSome

/-- The line calls `quit`. -/
def quits (l : List Char) : Bool := (commandOf l).bind (fun c => commandLookup c.1) = some .quit

/-- The text of the file the line makes the debugger read. -/
def opens (files : List Char → Option (List Char)) (l : List Char) : Option (List Char) :=
  match commandOf l with
  | some (cmd, args) =>
    if commandLookup cmd = some .source then (strtok args).bind fun name => files name.1 else none
  | none => none

/-! ## Words -/

lemma strtok_nil : strtok [] = none := rfl

lemma strtok_word {cs w rest : List Char} (h : strtok cs = some (w, rest)) :
    strtok w = some (w, []) := by
  rw [strtok] at h
  split at h
  · cases h
  · rename_i c rest' hd
    have hc : isDelim c = false := by
      have := List.head?_dropWhile_not isDelim cs
      rw [hd] at this
      simpa using this
    cases h
    have hw (p : Char → Bool) (l : List Char) : (l.takeWhile p).dropWhile p = [] :=
      List.dropWhile_eq_nil_iff.mpr fun x hx => List.mem_takeWhile_imp hx
    simp [strtok, hc, hw, List.takeWhile_idem]

/-! ## Trees of scripts -/

/-- The lines of a script, and under each line that names a file the script in it. -/
inductive Script
  | nil
  | line (l : List Char) (rest : Script)
  | source (l : List Char) (file rest : Script)
  deriving DecidableEq, Repr

/-- The text of the file. -/
def Script.text : Script → List Char
  | nil => []
  | line l rest => l ++ rest.text
  | source l _ rest => l ++ rest.text

/-- The tree is what the files make of it; only the last line of a file can lack its newline. -/
def Script.Formed (files : List Char → Option (List Char)) : Script → Prop
  | nil => True
  | line l rest =>
    Piece 254 l ∧ (lost 254 l = true → rest = nil) ∧ opens files l = none ∧ rest.Formed files
  | source l file rest =>
    Piece 254 l ∧ (lost 254 l = true → rest = nil) ∧ opens files l = some file.text ∧
      file.Formed files ∧ rest.Formed files

/-- A line of the inclusion: whether it stands in the keyboard input, its text, and whether
`command_exec` gets to it. -/
structure Item where
  keyboard : Bool
  text : List Char
  read : Bool
  deriving DecidableEq, Repr

/-- The lines of the inclusion, those of a file behind the line that names it.  A line is read if it
is complete and the one before it was, except that nothing is read behind a `source` line of a file:
only the keyboard is returned to. -/
def Script.items (keyboard read : Bool) : Script → List Item
  | nil => []
  | line l rest => ⟨keyboard, l, read && !lost 254 l⟩ :: rest.items keyboard read
  | source l file rest =>
    ⟨keyboard, l, read && !lost 254 l⟩ ::
      (file.items false (read && !lost 254 l) ++ rest.items keyboard (read && keyboard))

/-- A line as the session records it. -/
def Item.entry (i : Item) : Bool × List Char := (i.keyboard, i.text)

/-- Everything up to the first `quit`. -/
def untilQuit {α : Type} (text : α → List Char) : List α → List α
  | [] => []
  | a :: l => a :: if quits (text a) then [] else untilQuit text l

/-- The session as the program starts: `.dbinit` is the input if it exists. -/
def Session.start (dbinit : Option (List Char)) (keyboard : List Char) : Session where
  commandInput := dbinit
  stdin := keyboard
  feof := false
  prevBuffer := []
  exitCommandLoop := 0
  lines := []

/-! ## What one line does -/

section Steps

variable {files : List Char → Option (List Char)}

/-- `prev_buffer` holds at most one word, and not one that means `quit`. -/
def Repeatable (p : List Char) : Prop :=
  strtok p = none ∨ strtok p = some (p, []) ∧ commandLookup p ≠ some .quit

lemma Handler.exit_ne_one {h : Handler} (hq : h ≠ .quit) (args : List Char) :
    (h.exit args).getD (-1) ≠ 1 := by
  cases h <;> first | exact absurd rfl hq | simp [Handler.exit]
  cases strtok args <;> simp

lemma Session.perform_other {h : Handler} (hs : h ≠ .source) (args : List Char) (s : Session) :
    s.perform files h args =
      { s with exitCommandLoop := (h.exit args).getD s.exitCommandLoop } := by
  cases h <;> first | exact absurd rfl hs | rfl

/-- What a line that opens no file leaves: `exit_command_loop` is 1 exactly behind `quit`. -/
structure Executed (l : List Char) (s t : Session) : Prop where
  commandInput : t.commandInput = s.commandInput
  stdin : t.stdin = s.stdin
  feof : t.feof = s.feof
  lines : t.lines = s.lines
  quit : quits l = true → t.exitCommandLoop = 1
  goes : quits l = false → t.exitCommandLoop ≠ 1 ∧ Repeatable t.prevBuffer

/-- The line that is executed: a blank one stands for the previous command. -/
lemma Session.execLine_eq (l : List Char) (s : Session) :
    s.execLine files l =
      match commandOf (if l.head? = some '\n' then s.prevBuffer else l) with
      | none => s
      | some (cmd, args) =>
        match commandLookup cmd with
        | none => { s with prevBuffer := cmd }
        | some h => { s with prevBuffer := cmd }.perform files h args := by
  rw [Session.execLine]
  generalize (if l.head? = some '\n' then s.prevBuffer else l) = b
  rw [commandOf]
  by_cases hb : b.head? = some '#'
  · rw [if_pos hb, if_pos hb]
  · rcases strtok b with _ | ⟨cmd, args⟩
    · simp only [if_neg hb]
    · rcases hc : commandLookup cmd <;> simp only [if_neg hb, hc]

/-- Executing a text that opens no file. -/
lemma executed_of_commandOf {l b : List Char} {s t : Session} (he : s.exitCommandLoop = -1)
    (hp : Repeatable s.prevBuffer) (ho : opens files b = none) (hq : quits l = quits b)
    (ht : t = match commandOf b with
      | none => s
      | some (cmd, args) =>
        match commandLookup cmd with
        | none => { s with prevBuffer := cmd }
        | some h => { s with prevBuffer := cmd }.perform files h args) : Executed l s t := by
  rcases hb : commandOf b with _ | ⟨cmd, args⟩
  · have hn : quits b = false := by simp [quits, hb]
    rw [hb] at ht
    subst ht
    refine ⟨rfl, rfl, rfl, rfl, fun h => ?_, fun _ => ⟨by simp [he], hp⟩⟩
    simp [hq, hn] at h
  · have hword : strtok cmd = some (cmd, []) := by
      unfold commandOf at hb
      split at hb
      · cases hb
      · exact strtok_word hb
    have hb' : quits b = decide (commandLookup cmd = some .quit) := by simp [quits, hb]
    simp only [hb] at ht
    rcases hc : commandLookup cmd with _ | h
    · simp only [hc] at ht
      subst ht
      refine ⟨rfl, rfl, rfl, rfl, fun h => ?_, fun _ => ⟨by simp [he], .inr ⟨hword, by simp [hc]⟩⟩⟩
      simp [hq, hb', hc] at h
    · simp only [hc] at ht
      by_cases hs : h = .source
      · -- `source` without a file
        subst hs
        have hnone : { s with prevBuffer := cmd }.cmdSource files args =
            { s with prevBuffer := cmd } := by
          simp only [opens, hb, hc, if_true] at ho
          rw [Session.cmdSource]
          rcases ha : strtok args with _ | ⟨name, rest⟩
          · rfl
          · have hf : files name = none := by simpa [ha] using ho
            simp [Session.execFile, hf]
        rw [Session.perform, hnone] at ht
        subst ht
        refine ⟨rfl, rfl, rfl, rfl, fun h => ?_,
          fun _ => ⟨by simp [he], .inr ⟨hword, by simp [hc]⟩⟩⟩
        simp [hq, hb', hc] at h
      · rw [Session.perform_other hs, he] at ht
        subst ht
        refine ⟨rfl, rfl, rfl, rfl, fun hquit => ?_, fun hquit => ?_⟩
        · have hh : h = .quit := by simpa [hq, hb', hc] using hquit
          simp [hh, Handler.exit]
        · have hh : h ≠ .quit := by simpa [hq, hb', hc] using hquit
          exact ⟨Handler.exit_ne_one hh args, .inr ⟨hword, by simp [hc, hh]⟩⟩

lemma commandOf_newline {l : List Char} (hl : Piece 254 l) (h : l.head? = some '\n') :
    l = ['\n'] := by
  obtain _ | ⟨c, l⟩ := l
  · cases h
  · cases h
    obtain _ | ⟨d, l⟩ := l
    · rfl
    · exact absurd (by simp) hl.newline

lemma executed_execLine {l : List Char} {s : Session} (hl : Piece 254 l)
    (he : s.exitCommandLoop = -1) (hp : Repeatable s.prevBuffer) (ho : opens files l = none) :
    Executed l s (s.execLine files l) := by
  by_cases hn : l.head? = some '\n'
  · obtain rfl := commandOf_newline hl hn
    -- the previous command is repeated without its arguments
    have hrep (c : List Char × List Char) (h : commandOf s.prevBuffer = some c) :
        c.2 = [] ∧ commandLookup c.1 ≠ some .quit := by
      unfold commandOf at h
      split at h
      · cases h
      · obtain hp | ⟨hp, hq⟩ := hp
        · rw [hp] at h
          cases h
        · rw [hp] at h
          cases h
          exact ⟨rfl, hq⟩
    have hopen : opens files s.prevBuffer = none := by
      rw [opens]
      rcases h : commandOf s.prevBuffer with _ | ⟨cmd, args⟩
      · rfl
      · obtain rfl : args = [] := (hrep _ h).1
        simp [strtok_nil]
    refine executed_of_commandOf he hp hopen ?_ ?_
    · have hq : quits s.prevBuffer = false := by
        rcases h : commandOf s.prevBuffer with _ | c
        · simp [quits, h]
        · simpa [quits, h] using (hrep c h).2
      rw [hq]
      rfl
    · rw [Session.execLine_eq, if_pos hn]
  · refine executed_of_commandOf he hp ho rfl ?_
    rw [Session.execLine_eq, if_neg hn]

/-- A line that names a file makes it the input. -/
lemma execLine_opens {l text : List Char} {s : Session} (hl : Piece 254 l) (ho : opens files l = some text) :
    ∃ cmd, s.execLine files l =
      { s with prevBuffer := cmd, commandInput := some text, feof := false } ∧ Repeatable cmd := by
  rw [opens] at ho
  rcases hc : commandOf l with _ | ⟨cmd, args⟩
  · simp [hc] at ho
  · simp only [hc] at ho
    have hsource : commandLookup cmd = some .source := by
      by_contra h
      simp [h] at ho
    simp only [hsource, if_true] at ho
    have hword : strtok l = some (cmd, args) := by
      unfold commandOf at hc
      split at hc
      · cases hc
      · exact hc
    have hn : l.head? ≠ some '\n' := by
      intro hn
      obtain rfl := commandOf_newline hl hn
      cases hc
    refine ⟨cmd, ?_, .inr ⟨strtok_word hword, by simp [hsource]⟩⟩
    rw [Session.execLine_eq, if_neg hn, hc]
    simp only [hsource, Session.perform, Session.cmdSource]
    rcases ha : strtok args with _ | ⟨name, rest⟩
    · simp [ha] at ho
    · have hf : files name = some text := by simpa [ha] using ho
      simp [Session.execFile, hf]

/-! ## Turns -/

/-- A session in progress: whether the keyboard is the input, what is left of the input, what is
left of the keyboard input meanwhile, and the lines read so far. -/
structure At (kb : Bool) (cs keys : List Char) (lines : List (Bool × List Char))
    (s : Session) : Prop where
  keyboard : s.keyboard = kb
  input : s.input = cs
  keys : kb = false → s.stdin = keys
  feof : s.feof = false
  lines : s.lines = lines
  exit : s.exitCommandLoop ≠ 1
  prev : Repeatable s.prevBuffer

/-- A session that has ended. -/
structure Ended (lines : List (Bool × List Char)) (s : Session) : Prop where
  finished : s.finished = true
  lines : s.lines = lines

lemma At.not_finished {kb : Bool} {cs keys : List Char} {lines : List (Bool × List Char)} {s : Session}
    (h : At kb cs keys lines s) : s.finished = false := by
  simp [Session.finished, h.exit, h.feof]

lemma Session.play_succ {s : Session} (h : s.finished = false) (n : Nat) :
    s.play files (n + 1) = ({ s with exitCommandLoop := -1 }.turn files).1.play files n := by
  rw [Session.play, h]
  rfl

lemma Session.play_finished {s : Session} (h : s.finished = true) (n : Nat) : s.play files n = s := by
  cases n with
  | zero => rfl
  | succ n => rw [Session.play, if_pos h]

/-- Turns lead from one state to the other. -/
def Plays (files : List Char → Option (List Char)) (s t : Session) : Prop :=
  ∃ n, s.play files n = t

lemma Plays.refl (s : Session) : Plays files s s := ⟨0, rfl⟩

lemma Session.play_add (s : Session) (m n : Nat) :
    s.play files (m + n) = (s.play files m).play files n := by
  induction m generalizing s with
  | zero => rw [Nat.zero_add, Session.play]
  | succ m ih =>
      rw [Nat.succ_add]
      rcases h : s.finished
      · rw [Session.play_succ h, Session.play_succ h, ih]
      · rw [Session.play_finished h, Session.play_finished h, Session.play_finished h]

lemma Plays.trans {s t u : Session} (h : Plays files s t) (h' : Plays files t u) :
    Plays files s u := by
  obtain ⟨m, rfl⟩ := h
  obtain ⟨n, rfl⟩ := h'
  exact ⟨m + n, Session.play_add s m n⟩

lemma plays_turn {s : Session} (h : s.finished = false) :
    Plays files s ({ s with exitCommandLoop := -1 }.turn files).1 :=
  ⟨1, Session.play_succ h 0⟩

lemma Session.keyboard_setInput (s : Session) (cs : List Char) :
    (s.setInput cs).keyboard = s.keyboard := by
  unfold Session.setInput Session.keyboard
  split <;> simp_all

lemma Session.input_setInput (s : Session) (cs : List Char) : (s.setInput cs).input = cs := by
  unfold Session.setInput Session.input
  split <;> simp_all

lemma Session.stdin_setInput {s : Session} (h : s.keyboard = false) (cs : List Char) :
    (s.setInput cs).stdin = s.stdin := by
  unfold Session.setInput
  unfold Session.keyboard at h
  split <;> simp_all

/-- What `setInput` leaves alone. -/
lemma Session.setInput_frame (s : Session) (cs : List Char) :
    (s.setInput cs).lines = s.lines ∧ (s.setInput cs).prevBuffer = s.prevBuffer ∧
      (s.setInput cs).exitCommandLoop = s.exitCommandLoop := by
  unfold Session.setInput
  split <;> exact ⟨rfl, rfl, rfl⟩

/-- The session once a line has been read, before it is executed. -/
def Session.advance (l cs : List Char) (s : Session) : Session :=
  { s.setInput cs with feof := false, lines := s.lines ++ [(s.keyboard, l)] }

/-- A turn that reads a line executes it. -/
lemma turn_read {s : Session} {l cs : List Char} (h : fgets 254 s.input = (l, cs, false))
    (hf : ((s.advance l cs).execLine files l).feof = false) :
    (s.turn files).1 = (s.advance l cs).execLine files l := by
  have hrun : s.commandExec files = (0, (s.advance l cs).execLine files l) := by
    rw [Session.commandExec, h]
    have hk := s.keyboard_setInput cs
    obtain ⟨hl, -, -⟩ := s.setInput_frame cs
    simp only [Session.advance, Session.keyboard] at hk ⊢
    simp [hk, hl]
  rw [Session.turn, hrun]
  simp only [hf]
  split <;> simp

/-- A turn that finds a script finished goes back to the keyboard. -/
lemma turn_finished {s : Session} {b cs : List Char} (h : fgets 254 s.input = (b, cs, true))
    (hk : s.keyboard = false) :
    (s.turn files).1 = { s with commandInput := none, feof := false, exitCommandLoop := -1 } := by
  obtain ⟨c, hc⟩ : ∃ c, s.commandInput = some c := by
    cases hc : s.commandInput <;> simp_all [Session.keyboard]
  simp [Session.turn, Session.commandExec, h, Session.setInput, Session.keyboard, hc]

/-- A turn that finds the keyboard input finished. -/
lemma turn_ended {s : Session} {b cs : List Char} (h : fgets 254 s.input = (b, cs, true))
    (hk : s.keyboard = true) : (s.turn files).1 = { s with stdin := cs, feof := true } := by
  have hc : s.commandInput = none := by simpa [Session.keyboard] using hk
  simp [Session.turn, Session.commandExec, h, Session.setInput, Session.keyboard, hc]

/-- The session about to execute the line it has read. -/
lemma At.advance {kb : Bool} {l cs keys : List Char} {lines : List (Bool × List Char)} {s : Session}
    (hs : At kb (l ++ cs) keys lines s) :
    At kb cs keys (lines ++ [(kb, l)]) ({ s with exitCommandLoop := -1 }.advance l cs) ∧
      ({ s with exitCommandLoop := -1 }.advance l cs).exitCommandLoop = -1 := by
  obtain ⟨hlines, hprev, hexit⟩ := { s with exitCommandLoop := -1 }.setInput_frame cs
  have hk : { s with exitCommandLoop := -1 }.keyboard = kb := hs.keyboard
  refine ⟨⟨?_, ?_, fun h => ?_, rfl, ?_, ?_, ?_⟩, hexit⟩
  · exact (Session.keyboard_setInput _ cs).trans hk
  · exact Session.input_setInput _ cs
  · exact (Session.stdin_setInput (hk.trans h) cs).trans (hs.keys h)
  · rw [Session.advance, hk]
    exact congrArg (· ++ [(kb, l)]) hs.lines
  · exact fun h => absurd (hexit.symm.trans h) (show (-1 : Int) ≠ 1 by decide)
  · exact hprev.symm ▸ hs.prev

lemma At.plays_read (files : List Char → Option (List Char)) {kb : Bool} {l cs keys : List Char}
    {lines : List (Bool × List Char)} {s : Session} (hs : At kb (l ++ cs) keys lines s) (hl : Piece 254 l)
    (hlost : lost 254 l = false)
    (hf : (({ s with exitCommandLoop := -1 }.advance l cs).execLine files l).feof = false) :
    Plays files s (({ s with exitCommandLoop := -1 }.advance l cs).execLine files l) := by
  have hread : fgets 254 { s with exitCommandLoop := -1 }.input = (l, cs, false) := by
    have hi : { s with exitCommandLoop := -1 }.input = l ++ cs := hs.input
    rw [hi, fgets_piece hl hlost]
  exact turn_read hread hf ▸ plays_turn hs.not_finished

/-- A turn that reads a complete line which opens no file. -/
lemma At.plays_line {kb : Bool} {l cs keys : List Char} {lines : List (Bool × List Char)}
    {s : Session} (hs : At kb (l ++ cs) keys lines s) (hl : Piece 254 l)
    (hlost : lost 254 l = false) (ho : opens files l = none) :
    ∃ t, Plays files s t ∧ (quits l = true → Ended (lines ++ [(kb, l)]) t) ∧
      (quits l = false → At kb cs keys (lines ++ [(kb, l)]) t) := by
  obtain ⟨hu, hexit⟩ := hs.advance
  have hplay := hs.plays_read files hl hlost
  generalize { s with exitCommandLoop := -1 }.advance l cs = u at hu hexit hplay
  have hx : Executed l u (u.execLine files l) := executed_execLine hl hexit hu.prev ho
  have hk : (u.execLine files l).keyboard = kb := by
    rw [Session.keyboard, hx.commandInput]
    exact hu.keyboard
  have hi : (u.execLine files l).input = cs := by
    rw [Session.input, hx.commandInput, hx.stdin]
    exact hu.input
  refine ⟨_, hplay (hx.feof.trans hu.feof), fun hq => ⟨?_, hx.lines.trans hu.lines⟩, fun hq => ?_⟩
  · simp [Session.finished, hx.quit hq]
  · exact ⟨hk, hi, fun h => hx.stdin.trans (hu.keys h), hx.feof.trans hu.feof,
      hx.lines.trans hu.lines, (hx.goes hq).1, (hx.goes hq).2⟩

/-- A turn that reads a line which opens a file. -/
lemma At.plays_source {kb : Bool} {l text cs keys : List Char} {lines : List (Bool × List Char)}
    {s : Session} (hs : At kb (l ++ cs) keys lines s) (hl : Piece 254 l)
    (hlost : lost 254 l = false) (ho : opens files l = some text) :
    ∃ t, Plays files s t ∧ At false text (if kb then cs else keys) (lines ++ [(kb, l)]) t := by
  obtain ⟨hu, hexit⟩ := hs.advance
  have hplay := hs.plays_read files hl hlost
  generalize { s with exitCommandLoop := -1 }.advance l cs = u at hu hexit hplay
  obtain ⟨cmd, hx, hprev⟩ := execLine_opens (s := u) hl ho
  rw [hx] at hplay
  refine ⟨_, hplay rfl, rfl, rfl, fun _ => ?_, rfl, hu.lines, ?_, hprev⟩
  · have hk := hu.keyboard
    have hi := hu.input
    cases kb
    · exact hu.keys rfl
    · have hnone : u.commandInput = none := by simpa [Session.keyboard] using hk
      simpa [Session.input, hnone] using hi
  · exact ne_of_eq_of_ne hexit (by decide)

/-- A turn that finds nothing more to read: the end of the file, perhaps behind an incomplete
line. -/
lemma At.plays_end {l keys : List Char} {lines : List (Bool × List Char)} {s : Session}
    (hs : At false l keys lines s) (hl : (fgets 254 l).2 = ([], true)) :
    ∃ t, Plays files s t ∧ At true keys keys lines t := by
  have hread : fgets 254 { s with exitCommandLoop := -1 }.input = ((fgets 254 l).1, [], true) := by
    have hi : { s with exitCommandLoop := -1 }.input = l := hs.input
    rw [hi, ← hl]
  have step : Plays files s _ := plays_turn hs.not_finished
  rw [turn_finished hread hs.keyboard] at step
  refine ⟨_, step, rfl, hs.keys rfl, fun h => absurd h (by decide), rfl, hs.lines, ?_, hs.prev⟩
  exact show (-1 : Int) ≠ 1 by decide

lemma At.plays_done {l keys : List Char} {lines : List (Bool × List Char)} {s : Session}
    (hs : At true l keys lines s) (hl : (fgets 254 l).2 = ([], true)) :
    ∃ t, Plays files s t ∧ Ended lines t := by
  have hread : fgets 254 { s with exitCommandLoop := -1 }.input = ((fgets 254 l).1, [], true) := by
    have hi : { s with exitCommandLoop := -1 }.input = l := hs.input
    rw [hi, ← hl]
  have hk : s.commandInput = none := by simpa [Session.keyboard] using hs.keyboard
  have step : Plays files s _ := plays_turn hs.not_finished
  rw [turn_ended hread hs.keyboard] at step
  refine ⟨_, step, ?_, hs.lines⟩
  simp [Session.finished, Session.keyboard, hk]

/-! ## What a session reads -/

/-- The lines `command_exec` gets to. -/
def heard (items : List Item) : List (Bool × List Char) :=
  (items.filter Item.read).map Item.entry

lemma heard_append (a b : List Item) : heard (a ++ b) = heard a ++ heard b := by
  simp [heard]

/-- Behind a line that is not read nothing is read, the keyboard's own lines apart. -/
lemma Script.items_unread (t : Script) (kb : Bool) : ∀ i ∈ t.items kb false, i.read = false := by
  induction t generalizing kb with
  | nil => simp [Script.items]
  | line l rest ih => simpa [Script.items] using ih kb
  | source l file rest ihf ihr =>
      intro i hi
      simp only [Script.items, Bool.false_and, List.mem_cons, List.mem_append] at hi
      obtain rfl | hi | hi := hi
      · rfl
      · exact ihf false i hi
      · exact ihr kb i hi

/-- An incomplete line is not read, and neither is the file it names. -/
lemma Script.items_lost_line {l : List Char} {rest : Script} (hlost : lost 254 l = true)
    (hnil : rest = .nil) (kb : Bool) : ∀ i ∈ (line l rest).items kb true, i.read = false := by
  simp [Script.items, hlost, hnil]

lemma Script.items_lost_source {l : List Char} {rest : Script} (hlost : lost 254 l = true)
    (hnil : rest = .nil) (file : Script) (kb : Bool) :
    ∀ i ∈ (source l file rest).items kb true, i.read = false := by
  intro i hi
  simp only [Script.items, hlost, hnil, Bool.not_true, Bool.and_false, List.append_nil,
    List.mem_cons] at hi
  obtain rfl | hi := hi
  · rfl
  · exact file.items_unread false i hi

lemma heard_unread {l : List Item} (h : ∀ i ∈ l, i.read = false) : heard l = [] := by
  have hf : l.filter Item.read = [] := by simpa [List.filter_eq_nil_iff] using h
  rw [heard, hf, List.map_nil]

/-- Is there a `quit` among the lines. -/
def hasQuit {α : Type} (text : α → List Char) (l : List α) : Bool := l.any fun a => quits (text a)

lemma untilQuit_append {α : Type} (text : α → List Char) (a b : List α) :
    untilQuit text (a ++ b) =
      if hasQuit text a then untilQuit text a else a ++ untilQuit text b := by
  induction a with
  | nil => rfl
  | cons x a ih =>
      cases hx : quits (text x)
      · have hq : hasQuit text (x :: a) = hasQuit text a := by simp [hasQuit, hx]
        rw [List.cons_append, untilQuit, untilQuit, ih, hq, hx]
        simp only [Bool.false_eq_true, if_false]
        exact apply_ite (x :: ·) _ _ _
      · simp [untilQuit, hasQuit, hx]

lemma quits_of_opens {l text : List Char} (h : opens files l = some text) : quits l = false := by
  rw [opens] at h
  rcases hc : commandOf l with _ | ⟨cmd, args⟩
  · simp [quits, hc]
  · simp only [hc] at h
    by_cases hs : commandLookup cmd = some .source
    · simp [quits, hc, hs]
    · simp [hs] at h

/-- The outcome of reading `l` behind `lines`: the session ends at a `quit`, or goes on with the
keyboard. -/
def Arrives (keys : List Char) (lines l : List (Bool × List Char)) (t : Session) : Prop :=
  (hasQuit Prod.snd l = true → Ended (lines ++ untilQuit Prod.snd l) t) ∧
  (hasQuit Prod.snd l = false → At true keys keys (lines ++ l) t)

lemma arrives_quit {keys : List Char} {lines l : List (Bool × List Char)} {e : Bool × List Char}
    {t : Session} (he : quits e.2 = true) (h : Ended (lines ++ [e]) t) :
    Arrives keys lines (e :: l) t := by
  refine ⟨fun _ => ?_, fun h => ?_⟩
  · rwa [untilQuit, if_pos he]
  · simp [hasQuit, he] at h

lemma arrives_cons {keys : List Char} {lines l : List (Bool × List Char)} {e : Bool × List Char}
    {t : Session} (he : quits e.2 = false) (h : Arrives keys (lines ++ [e]) l t) :
    Arrives keys lines (e :: l) t := by
  have hl : hasQuit Prod.snd (e :: l) = hasQuit Prod.snd l := by simp [hasQuit, he]
  refine ⟨fun hq => ?_, fun hq => ?_⟩
  · rw [untilQuit, he, if_neg (by decide)]
    simpa using h.1 (hl ▸ hq)
  · simpa using h.2 (hl ▸ hq)

lemma fgets_incomplete {t : Script} (ht : t = .nil) {l : List Char} (hl : Piece 254 l)
    (hlost : lost 254 l = true) : (fgets 254 (l ++ t.text)).2 = ([], true) := by
  rw [ht, Script.text, List.append_nil]
  exact fgets_lost hl hlost

lemma At.arrives_end {cs keys : List Char} {lines : List (Bool × List Char)} {s : Session}
    (hs : At false cs keys lines s) (hcs : (fgets 254 cs).2 = ([], true)) {items : List Item}
    (hi : ∀ i ∈ items, i.read = false) :
    ∃ u, Plays files s u ∧ Arrives keys lines (heard items) u := by
  obtain ⟨u, hu, hat⟩ : ∃ u, Plays files s u ∧ _ := hs.plays_end hcs
  rw [heard_unread hi]
  exact ⟨u, hu, fun h => absurd h (by simp [hasQuit]), fun _ => by simpa using hat⟩

/-- A script that is the input is read up to its first `source` line, then the file in that; then
control is with the keyboard. -/
lemma Script.plays_file {t : Script} (ht : t.Formed files) {keys : List Char}
    {lines : List (Bool × List Char)} {s : Session} (hs : At false t.text keys lines s) :
    ∃ u, Plays files s u ∧ Arrives keys lines (heard (t.items false true)) u := by
  induction t generalizing lines s with
  | nil => exact hs.arrives_end rfl (by simp [Script.items])
  | line l rest ih =>
      obtain ⟨hl, hnil, ho, hrest⟩ := ht
      rcases hlost : lost 254 l
      · obtain ⟨t, hplay, hq, hn⟩ := hs.plays_line hl hlost ho
        have hitems : heard ((Script.line l rest).items false true) =
            (false, l) :: heard (rest.items false true) := by
          simp [Script.items, heard, Item.entry, hlost]
        rw [hitems]
        cases hquit : quits l
        · obtain ⟨u, hu, harr⟩ := ih hrest (hn hquit)
          exact ⟨u, hplay.trans hu, arrives_cons hquit harr⟩
        · exact ⟨t, hplay, arrives_quit hquit (hq hquit)⟩
      · exact hs.arrives_end (fgets_incomplete (hnil hlost) hl hlost)
          (items_lost_line hlost (hnil hlost) false)
  | source l file rest ihf ihr =>
      obtain ⟨hl, hnil, ho, hfile, hrest⟩ := ht
      rcases hlost : lost 254 l
      · obtain ⟨t, hplay, hat⟩ := hs.plays_source hl hlost ho
        have hitems : heard ((Script.source l file rest).items false true) =
            (false, l) :: heard (file.items false true) := by
          have hr : heard (rest.items false false) = [] := heard_unread (rest.items_unread false)
          have happ := heard_append (file.items false true) (rest.items false false)
          rw [hr, List.append_nil] at happ
          simp only [Script.items, hlost, Bool.and_false, Bool.not_false, Bool.and_true]
          rw [← happ]
          rfl
        rw [hitems]
        obtain ⟨u, hu, harr⟩ := ihf hfile hat
        exact ⟨u, hplay.trans hu, arrives_cons (quits_of_opens ho) harr⟩
      · exact hs.arrives_end (fgets_incomplete (hnil hlost) hl hlost)
          (items_lost_source hlost (hnil hlost) file false)

/-- The keyboard input is read to its end, with the scripts it calls, unless a `quit` is met. -/
lemma Script.plays_keyboard {k : Script} (hk : k.Formed files) {keys : List Char}
    {lines : List (Bool × List Char)} {s : Session} (hs : At true k.text keys lines s) :
    ∃ u, Plays files s u ∧ Ended (lines ++ untilQuit Prod.snd (heard (k.items true true))) u := by
  induction k generalizing lines s keys with
  | nil =>
      obtain ⟨u, hu, hend⟩ : ∃ u, Plays files s u ∧ _ := hs.plays_done rfl
      exact ⟨u, hu, by simpa [Script.items, heard, untilQuit] using hend⟩
  | line l rest ih =>
      obtain ⟨hl, hnil, ho, hrest⟩ := hk
      rcases hlost : lost 254 l
      · obtain ⟨t, hplay, hq, hn⟩ := hs.plays_line hl hlost ho
        have hitems : heard ((Script.line l rest).items true true) =
            (true, l) :: heard (rest.items true true) := by
          simp [Script.items, heard, Item.entry, hlost]
        rw [hitems, untilQuit]
        cases hquit : quits l
        · obtain ⟨u, hu, hend⟩ := ih hrest (hn hquit)
          exact ⟨u, hplay.trans hu, by simpa using hend⟩
        · exact ⟨t, hplay, hq hquit⟩
      · obtain ⟨u, hu, hend⟩ : ∃ u, Plays files s u ∧ _ :=
          hs.plays_done (fgets_incomplete (hnil hlost) hl hlost)
        refine ⟨u, hu, ?_⟩
        have hunread := heard_unread (items_lost_line hlost (hnil hlost) true)
        simpa [hunread, untilQuit] using hend
  | source l file rest ihf ihr =>
      obtain ⟨hl, hnil, ho, hfile, hrest⟩ := hk
      rcases hlost : lost 254 l
      · obtain ⟨t, hplay, hat⟩ := hs.plays_source hl hlost ho
        obtain ⟨u, hu, harr⟩ := file.plays_file hfile hat
        have hitems : heard ((Script.source l file rest).items true true) =
            (true, l) :: (heard (file.items false true) ++ heard (rest.items true true)) := by
          rw [← heard_append]
          simp [Script.items, heard, Item.entry, hlost]
        rw [hitems, untilQuit, quits_of_opens ho, if_neg (by decide), untilQuit_append]
        cases hquit : hasQuit Prod.snd (heard (file.items false true))
        · obtain ⟨v, hv, hend⟩ := ihr hrest (harr.2 hquit)
          refine ⟨v, (hplay.trans hu).trans hv, ?_⟩
          simpa using hend
        · refine ⟨u, hplay.trans hu, ?_⟩
          simpa using harr.1 hquit
      · obtain ⟨u, hu, hend⟩ : ∃ u, Plays files s u ∧ _ :=
          hs.plays_done (fgets_incomplete (hnil hlost) hl hlost)
        refine ⟨u, hu, ?_⟩
        have hunread := heard_unread (items_lost_source hlost (hnil hlost) file true)
        simpa [hunread, untilQuit] using hend

end Steps

/-! ## Against textual inclusion -/

/-- The commands of a session, or of an inclusion, in order. -/
def commands (lines : List (Bool × List Char)) : List (Bool × List Char) :=
  lines.filter fun e => isCommand e.2

/-- The commands of the lines up to the first `quit`. -/
def commandsOf (items : List Item) : List (Bool × List Char) :=
  commands (untilQuit Prod.snd (items.map Item.entry))

/-- Up to the first `quit`, every command is read. -/
def NoneMissed (items : List Item) : Prop :=
  ∀ i ∈ untilQuit Item.text items, isCommand i.text = true → i.read = true

instance (items : List Item) : Decidable (NoneMissed items) :=
  inferInstanceAs (Decidable (∀ i ∈ untilQuit Item.text items, isCommand i.text = true → i.read = true))

/-- Dropping the lines that are not read leaves the same commands. -/
def Same (items : List Item) : Prop := commandsOf (items.filter Item.read) = commandsOf items

lemma isCommand_of_quits {l : List Char} (h : quits l = true) : isCommand l = true := by
  rcases hc : commandOf l with _ | c
  · simp [quits, hc] at h
  · simp [isCommand, hc]

lemma commandsOf_cons (i : Item) (items : List Item) :
    commandsOf (i :: items) =
      (if isCommand i.text then [i.entry] else []) ++
        if quits i.text then [] else commandsOf items := by
  simp only [commandsOf, commands, List.map_cons, untilQuit, List.filter_cons, Item.entry]
  split <;> split <;> simp

lemma noneMissed_cons (i : Item) (items : List Item) :
    NoneMissed (i :: items) ↔ (isCommand i.text = true → i.read = true) ∧
      (quits i.text = false → NoneMissed items) := by
  rw [NoneMissed, untilQuit, List.forall_mem_cons]
  cases quits i.text <;> simp [NoneMissed]

/-- A line that is read in front. -/
lemma same_iff_cons {i : Item} (hi : i.read = true) {items : List Item}
    (h : Same items ↔ NoneMissed items) : Same (i :: items) ↔ NoneMissed (i :: items) := by
  have hsame : Same (i :: items) ↔ (quits i.text = false → Same items) := by
    rw [Same, List.filter_cons_of_pos hi, commandsOf_cons, commandsOf_cons]
    cases quits i.text <;> simp [Same]
  rw [hsame, noneMissed_cons, h]
  simp [hi]

lemma same_iff_append_read {a : List Item} (ha : ∀ i ∈ a, i.read = true) {items : List Item}
    (h : Same items ↔ NoneMissed items) : Same (a ++ items) ↔ NoneMissed (a ++ items) := by
  induction a with
  | nil => exact h
  | cons i a ih =>
      exact same_iff_cons (ha i (by simp)) (ih fun j hj => ha j (List.mem_cons_of_mem _ hj))

/-- What is read next comes from the keyboard. -/
def Fresh (items : List Item) : Prop :=
  ∀ e ∈ (commandsOf (items.filter Item.read)).head?, e.1 = true

/-- Lines of scripts that are not read in front of what the keyboard goes on with. -/
lemma same_iff_append_unread {b : List Item} (hb : ∀ i ∈ b, i.read = false ∧ i.keyboard = false)
    {items : List Item} (hf : Fresh items) (h : Same items ↔ NoneMissed items) :
    Same (b ++ items) ↔ NoneMissed (b ++ items) := by
  induction b with
  | nil => exact h
  | cons i b ih =>
      obtain ⟨hread, hkey⟩ := hb i (by simp)
      have ih := ih fun j hj => hb j (List.mem_cons_of_mem _ hj)
      have hskip : (i :: (b ++ items)).filter Item.read = (b ++ items).filter Item.read :=
        List.filter_cons_of_neg (by simp [hread])
      have hrest : (b ++ items).filter Item.read = items.filter Item.read := by
        have hnil : b.filter Item.read = [] :=
          List.filter_eq_nil_iff.mpr fun j hj => by simp [(hb j (List.mem_cons_of_mem _ hj)).1]
        rw [List.filter_append, hnil, List.nil_append]
      by_cases hc : isCommand i.text = true
      · -- a command of a script is missing where the keyboard goes on
        refine iff_of_false (fun hsame => ?_) fun hn => ?_
        · rw [Same, List.cons_append, hskip, hrest, commandsOf_cons, if_pos hc] at hsame
          have hkeyboard := hf i.entry (by rw [hsame]; simp)
          exact absurd (hkey.symm.trans hkeyboard) (by decide)
        · exact absurd (((noneMissed_cons i _).mp hn).1 hc) (by simp [hread])
      · have hq : quits i.text = false := Bool.eq_false_iff.mpr (mt isCommand_of_quits hc)
        have hsame : Same (i :: (b ++ items)) ↔ Same (b ++ items) := by
          rw [Same, hskip, commandsOf_cons, if_neg hc, hq]
          simp [Same]
        rw [List.cons_append, hsame, ih, noneMissed_cons]
        simp [hq, hc]

/-- When nothing is read. -/
lemma same_iff_unread {items : List Item} (h : ∀ i ∈ items, i.read = false) :
    Same items ↔ NoneMissed items := by
  have hnil : items.filter Item.read = [] := by simpa [List.filter_eq_nil_iff] using h
  rw [Same, hnil]
  induction items with
  | nil => exact iff_of_true rfl fun i hi => absurd hi (by simp [untilQuit])
  | cons i items ih =>
      have ih := ih (fun j hj => h j (List.mem_cons_of_mem _ hj))
        (List.filter_eq_nil_iff.mpr fun j hj => by simp [h j (List.mem_cons_of_mem _ hj)])
      rw [commandsOf_cons, noneMissed_cons]
      have hi := h i (by simp)
      by_cases hc : isCommand i.text = true
      · simp [hc, hi, commandsOf, commands, untilQuit]
      · have hq : quits i.text = false := Bool.eq_false_iff.mpr (mt isCommand_of_quits hc)
        simpa [hc, hq] using ih

variable {files : List Char → Option (List Char)}

lemma isCommand_of_opens {l text : List Char} (h : opens files l = some text) :
    isCommand l = true := by
  rw [opens] at h
  rcases hc : commandOf l with _ | c
  · simp [hc] at h
  · simp [isCommand, hc]

lemma Script.items_keyboard (t : Script) (r : Bool) : ∀ i ∈ t.items false r, i.keyboard = false := by
  induction t generalizing r with
  | nil => simp [Script.items]
  | line l rest ih => simpa [Script.items] using ih r
  | source l file rest ihf ihr =>
      intro i hi
      simp only [Script.items, List.mem_cons, List.mem_append] at hi
      obtain rfl | hi | hi := hi
      · rfl
      · exact ihf _ i hi
      · exact ihr _ i hi

/-- Of a script the first lines of its inclusion are read, and no others. -/
lemma Script.items_split {t : Script} (ht : t.Formed files) :
    ∃ a b, t.items false true = a ++ b ∧ (∀ i ∈ a, i.read = true) ∧ ∀ i ∈ b, i.read = false := by
  induction t with
  | nil => exact ⟨[], [], rfl, by simp, by simp⟩
  | line l rest ih =>
      obtain ⟨-, hnil, -, hrest⟩ := ht
      rcases hlost : lost 254 l
      · obtain ⟨a, b, hab, ha, hb⟩ := ih hrest
        exact ⟨⟨false, l, true⟩ :: a, b, by simp [Script.items, hlost, hab], by simpa using ha, hb⟩
      · exact ⟨[], _, rfl, by simp, items_lost_line hlost (hnil hlost) false⟩
  | source l file rest ihf ihr =>
      obtain ⟨-, hnil, -, hfile, -⟩ := ht
      rcases hlost : lost 254 l
      · obtain ⟨a, b, hab, ha, hb⟩ := ihf hfile
        refine ⟨⟨false, l, true⟩ :: a, b ++ rest.items false false,
          by simp [Script.items, hlost, hab], by simpa using ha, fun i hi => ?_⟩
        exact (List.mem_append.mp hi).elim (hb i) (rest.items_unread false i)
      · exact ⟨[], _, rfl, by simp, items_lost_source hlost (hnil hlost) file false⟩

lemma fresh_nil : Fresh [] := by
  intro e he
  cases he

lemma fresh_cons {i : Item} (hi : i.keyboard = true) (hr : i.read = true) {items : List Item}
    (h : isCommand i.text = false → Fresh items) : Fresh (i :: items) := by
  rw [Fresh, List.filter_cons_of_pos hr, commandsOf_cons]
  by_cases hc : isCommand i.text = true
  · simp [hc, Item.entry, hi]
  · have hq : quits i.text = false := Bool.eq_false_iff.mpr (mt isCommand_of_quits hc)
    rw [if_neg hc, hq, List.nil_append, if_neg Bool.false_ne_true]
    exact h (Bool.eq_false_iff.mpr hc)

lemma fresh_unread {items : List Item} (h : ∀ i ∈ items, i.read = false) : Fresh items := by
  have hnil : items.filter Item.read = [] := by simpa [List.filter_eq_nil_iff] using h
  rw [Fresh, hnil]
  exact fresh_nil

lemma Script.fresh_items {k : Script} (hk : k.Formed files) : Fresh (k.items true true) := by
  induction k with
  | nil => exact fresh_nil
  | line l rest ih =>
      obtain ⟨-, hnil, -, hrest⟩ := hk
      rcases hlost : lost 254 l
      · exact fresh_cons rfl (by simp [hlost]) fun _ => ih hrest
      · exact fresh_unread (items_lost_line hlost (hnil hlost) true)
  | source l file rest =>
      obtain ⟨-, hnil, ho, -, -⟩ := hk
      rcases hlost : lost 254 l
      · exact fresh_cons rfl (by simp [hlost]) fun hc =>
          absurd (isCommand_of_opens ho) (Bool.eq_false_iff.mp hc)
      · exact fresh_unread (items_lost_source hlost (hnil hlost) file true)

/-- A script in front of what the keyboard goes on with. -/
lemma Script.same_iff_file {t : Script} (ht : t.Formed files) {items : List Item} (hf : Fresh items)
    (h : Same items ↔ NoneMissed items) :
    Same (t.items false true ++ items) ↔ NoneMissed (t.items false true ++ items) := by
  obtain ⟨a, b, hab, ha, hb⟩ := t.items_split ht
  have hkey (i : Item) (hi : i ∈ b) : i.keyboard = false :=
    t.items_keyboard true i (hab ▸ List.mem_append_right a hi)
  rw [hab, List.append_assoc]
  exact same_iff_append_read ha (same_iff_append_unread (fun i hi => ⟨hb i hi, hkey i hi⟩) hf h)

lemma Script.same_iff_keyboard {k : Script} (hk : k.Formed files) :
    Same (k.items true true) ↔ NoneMissed (k.items true true) := by
  induction k with
  | nil => exact same_iff_unread (by simp [Script.items])
  | line l rest ih =>
      obtain ⟨-, hnil, -, hrest⟩ := hk
      rcases hlost : lost 254 l
      · exact same_iff_cons (by simp [hlost]) (ih hrest)
      · exact same_iff_unread (items_lost_line hlost (hnil hlost) true)
  | source l file rest ihf ihr =>
      obtain ⟨-, hnil, -, hfile, hrest⟩ := hk
      rcases hlost : lost 254 l
      · have htail := file.same_iff_file hfile (rest.fresh_items hrest) (ihr hrest)
        simp only [Script.items, hlost, Bool.not_false, Bool.and_true]
        exact same_iff_cons rfl htail
      · exact same_iff_unread (items_lost_source hlost (hnil hlost) file true)

/-! ## Whole sessions -/

/-- The inclusion of everything that is put in: `.dbinit`, then the keyboard input. -/
def inclusion (dbinit : Option Script) (keyboard : Script) : List Item :=
  (dbinit.elim [] fun t => t.items false true) ++ keyboard.items true true

/-- The session reads the lines that are marked, up to the first `quit`. -/
lemma session_reads {dbinit : Option Script} (hd : ∀ t ∈ dbinit, t.Formed files) {keyboard : Script}
    (hk : keyboard.Formed files) :
    ∃ u, Plays files (Session.start (dbinit.map Script.text) keyboard.text) u ∧
      Ended (untilQuit Prod.snd (heard (inclusion dbinit keyboard))) u := by
  cases dbinit with
  | none =>
      have hs : At true keyboard.text [] [] (Session.start none keyboard.text) :=
        ⟨rfl, rfl, fun h => absurd h (by decide), rfl, rfl, show (0 : Int) ≠ 1 by decide, .inl rfl⟩
      obtain ⟨u, hu, hend⟩ := keyboard.plays_keyboard hk hs
      exact ⟨u, hu, by simpa [inclusion] using hend⟩
  | some t =>
      have hs : At false t.text keyboard.text [] (Session.start (some t.text) keyboard.text) :=
        ⟨rfl, rfl, fun _ => rfl, rfl, rfl, show (0 : Int) ≠ 1 by decide, .inl rfl⟩
      obtain ⟨u, hu, harr⟩ := t.plays_file (hd t rfl) hs
      have hinc : heard (inclusion (some t) keyboard) =
          heard (t.items false true) ++ heard (keyboard.items true true) := heard_append _ _
      rw [hinc, untilQuit_append]
      cases hquit : hasQuit Prod.snd (heard (t.items false true))
      · obtain ⟨v, hv, hend⟩ := keyboard.plays_keyboard hk (harr.2 hquit)
        exact ⟨v, hu.trans hv, by simpa using hend⟩
      · exact ⟨u, hu, by simpa using harr.1 hquit⟩

/-- The file `g` steps once; `f` calls it and then prints a value, or does so the other way
round. -/
def scriptFiles (nested : Bool) (name : List Char) : Option (List Char) :=
  if name = ['g'] then some "s\n".toList
  else if name = ['f'] then some (if nested then "so g\np a\n" else "p a\nso g\n").toList
  else none

/-- `f`, as a tree. -/
def scriptTree (nested : Bool) : Script :=
  let g : Script := .line "s\n".toList .nil
  if nested then .source "so g\n".toList g (.line "p a\n".toList .nil)
  else .line "p a\n".toList (.source "so g\n".toList g .nil)

/-- At the keyboard, `f` is called and then the session ends. -/
def typed (nested : Bool) : Script :=
  .source "so f\n".toList (scriptTree nested) (.line "q\n".toList .nil)

lemma typed_formed (nested : Bool) : (typed nested).Formed (scriptFiles nested) := by
  have piece (l : List Char) (h : l ≠ [] ∧ l.length ≤ 254 ∧ '\n' ∉ l.dropLast) : Piece 254 l :=
    ⟨h.1, h.2.1, h.2.2⟩
  cases nested
  · refine ⟨piece _ (by decide), by decide, by decide, ⟨piece _ (by decide), by decide, by decide,
      piece _ (by decide), by decide, by decide, ⟨piece _ (by decide), by decide, by decide, trivial⟩,
      trivial⟩, piece _ (by decide), by decide, by decide, trivial⟩
  · refine ⟨piece _ (by decide), by decide, by decide, ⟨piece _ (by decide), by decide, by decide,
      ⟨piece _ (by decide), by decide, by decide, trivial⟩, piece _ (by decide), by decide, by decide,
      trivial⟩, piece _ (by decide), by decide, by decide, trivial⟩

end Exec09
