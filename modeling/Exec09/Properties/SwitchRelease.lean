import Exec09.Machine.Wpc
import Mathlib.Data.List.Infix

/-!
# Momentary switches

`wpc_press_switch` closes a switch and notes its number and how long it is held; `wpc_periodic`
polls the keyboard, which may press one, counts the time down and opens the switch that is noted.
There is room for one note.
-/

namespace Exec09

namespace WpcAsic

/-! ## The keyboard -/

/-- How long a key holds its switch closed. -/
abbrev BUTTON_DURATION : Int := 200

/-- The switch behind a key: `7`, `8`, `9`, `0`, comma and full stop. -/
def keySwitch (c : U8) : Option Int :=
  if c = 0x37 then some 4
  else if c = 0x38 then some 5
  else if c = 0x39 then some 6
  else if c = 0x30 then some 7
  else if c = 0x2c then some 75
  else if c = 0x2e then some 73
  else none

/-- `wpc_keypoll`, with the character that `read` delivers if there is one. -/
def keypoll (w : WpcAsic) (key : Option U8) : WpcAsic :=
  match key.bind keySwitch with
  | some num => w.pressSwitch num BUTTON_DURATION
  | none => w

/-! ## Runs -/

/-- What happens to the switches: one is pressed, or the timer calls `wpc_periodic`. -/
inductive SwitchEvent
  | press (num : Nat) (delay : Int)
  | tick (key : Option U8)
  deriving DecidableEq, Repr

namespace SwitchEvent

/-- A switch of the matrix that is not the one that is always closed, for some time. -/
def Momentary : SwitchEvent → Prop
  | press num delay => num < 80 ∧ num ≠ 19 ∧ 0 < delay
  | tick _ => True

instance : DecidablePred Momentary
  | press num delay => inferInstanceAs (Decidable (num < 80 ∧ num ≠ 19 ∧ 0 < delay))
  | tick _ => inferInstanceAs (Decidable True)

/-- The switch that is pressed in an event. -/
def pressed : SwitchEvent → Option Int
  | press num _ => some num
  | tick key => key.bind keySwitch

end SwitchEvent

def switchEvent (w : WpcAsic) : SwitchEvent → WpcAsic
  | .press num delay => w.pressSwitch num delay
  | .tick key => (w.keypoll key).periodic

def switchEvents (w : WpcAsic) (es : List SwitchEvent) : WpcAsic := es.foldl switchEvent w

/-- No other switch is held when one is pressed. -/
def Apart (w : WpcAsic) (e : SwitchEvent) : Prop :=
  ∀ num ∈ e.pressed, w.currSwTime = 0 ∨ num = w.currSw

/-- Nothing is held, so that nothing is closed but what is always closed. -/
def Released (w : WpcAsic) : Prop := w.currSwTime = 0 → w.switchMx = reset.switchMx

/-! ## One bit of the matrix -/

section Matrix

variable (w : WpcAsic) (n m : Nat) (flag : Bool)

/-- A switch is a bit of its column. -/
lemma readSwitch_eq : w.readSwitch n = (w.switchMx (n / 8 : Nat)).getLsbD (n % 8) := by
  have hn : n % 8 < 8 := Nat.mod_lt n (by decide)
  have h := Words.and_twoPow_eq_zero (x := w.switchMx (n / 8 : Nat)) hn
  change decide (w.switchMx (n / 8 : Nat) &&& BitVec.twoPow 8 (n % 8) ≠ 0) = _
  cases hb : (w.switchMx (n / 8 : Nat)).getLsbD (n % 8)
  · exact decide_eq_false fun hne => hne (h.mpr hb)
  · exact decide_eq_true fun h0 => Bool.false_ne_true ((h.mp h0).symm.trans hb)

/-- Writing a switch changes its bit and no other. -/
lemma writeSwitch_bit (c : Int) {i : Nat} (hi : i < 8) :
    ((w.writeSwitch n flag).switchMx c).getLsbD i =
      if c = (n / 8 : Nat) ∧ i = n % 8 then flag else (w.switchMx c).getLsbD i := by
  have hn : n % 8 < 8 := Nat.mod_lt n (by decide)
  change (if c = (n / 8 : Nat) then
      if flag then (w.switchMx c &&& ~~~BitVec.twoPow 8 (n % 8)) ||| BitVec.twoPow 8 (n % 8)
      else w.switchMx c &&& ~~~BitVec.twoPow 8 (n % 8)
    else w.switchMx c).getLsbD i = _
  by_cases hc : c = (n / 8 : Nat)
  · by_cases hin : i = n % 8
    · subst hin
      cases flag <;> simp [hc, hn]
    · cases flag <;> simp [hc, hi, hin, BitVec.getElem_twoPow]
  · rw [if_neg hc, if_neg fun h => hc h.1]

lemma ext_switchMx {w w' : WpcAsic}
    (h : ∀ (c : Int) (i : Nat), i < 8 → (w.switchMx c).getLsbD i = (w'.switchMx c).getLsbD i) :
    w.switchMx = w'.switchMx :=
  funext fun c => BitVec.eq_of_getLsbD_eq (h c)

lemma writeSwitch_congr {w w' : WpcAsic} (h : w.switchMx = w'.switchMx) :
    (w.writeSwitch n flag).switchMx = (w'.writeSwitch n flag).switchMx :=
  ext_switchMx fun c i hi => by rw [writeSwitch_bit w n flag c hi, writeSwitch_bit w' n flag c hi, h]

/-- Of two writes to one switch the second counts. -/
lemma writeSwitch_twice (flag' : Bool) :
    ((w.writeSwitch n flag').writeSwitch n flag).switchMx = (w.writeSwitch n flag).switchMx := by
  refine ext_switchMx fun c i hi => ?_
  rw [writeSwitch_bit _ n flag c hi, writeSwitch_bit w n flag c hi, writeSwitch_bit w n flag' c hi]
  split <;> rfl

/-- Opening a switch that is open changes nothing. -/
lemma writeSwitch_open (h : w.readSwitch n = false) :
    (w.writeSwitch n false).switchMx = w.switchMx := by
  refine ext_switchMx fun c i hi => ?_
  rw [writeSwitch_bit w n false c hi]
  split
  · rename_i hci
    rw [hci.1, hci.2, ← readSwitch_eq, h]
  · rfl

lemma readSwitch_writeSwitch :
    (w.writeSwitch n flag).readSwitch m = if m = n then flag else w.readSwitch m := by
  have hm : m % 8 < 8 := Nat.mod_lt m (by decide)
  rw [readSwitch_eq, readSwitch_eq, writeSwitch_bit w n flag _ hm]
  refine if_congr ⟨fun h => ?_, fun h => ?_⟩ rfl rfl
  · have hdiv : m / 8 = n / 8 := Int.ofNat.inj h.1
    omega
  · rw [h]
    exact ⟨rfl, rfl⟩

end Matrix

/-- After reset switch 19 alone is closed. -/
lemma readSwitch_reset (n : Nat) : reset.readSwitch n = decide (n = 19) := by
  unfold reset
  rw [show (19 : Int) = (19 : Nat) from rfl, readSwitch_writeSwitch]
  split
  · rename_i h
    exact (decide_eq_true h).symm
  · rename_i h
    rw [decide_eq_false h, readSwitch_eq]
    exact BitVec.getLsbD_zero

/-! ## Pressing and releasing -/

/-- Every key presses a momentary switch. -/
lemma keySwitch_eq_some {c : U8} {num : Int} (h : keySwitch c = some num) :
    ∃ n : Nat, num = n ∧ n < 80 ∧ n ≠ 19 := by
  unfold keySwitch at h
  split_ifs at h
  all_goals
    obtain rfl := Option.some.inj h
  · exact ⟨4, rfl, by decide⟩
  · exact ⟨5, rfl, by decide⟩
  · exact ⟨6, rfl, by decide⟩
  · exact ⟨7, rfl, by decide⟩
  · exact ⟨75, rfl, by decide⟩
  · exact ⟨73, rfl, by decide⟩

/-- Either nothing is held and the matrix is as after reset, or one switch is held, which alone is
closed besides. -/
def OneHeld (w : WpcAsic) : Prop :=
  w.currSwTime = 0 ∧ w.switchMx = reset.switchMx ∨
    0 < w.currSwTime ∧ ∃ n : Nat, w.currSw = n ∧ n ≠ 19 ∧
      w.switchMx = (reset.writeSwitch n true).switchMx

lemma oneHeld_reset : OneHeld reset := Or.inl ⟨rfl, rfl⟩

lemma OneHeld.released {w : WpcAsic} (h : OneHeld w) : Released w := by
  intro h0
  rcases h with h | h
  · exact h.2
  · exact absurd h0 (Int.ne_of_gt h.1)

/-- A press keeps this as long as no other switch is held. -/
lemma OneHeld.pressSwitch {w : WpcAsic} (h : OneHeld w) {n : Nat} (hn : n ≠ 19) {delay : Int}
    (hd : 0 < delay) (ha : w.currSwTime = 0 ∨ (n : Int) = w.currSw) :
    OneHeld (w.pressSwitch n delay) := by
  refine Or.inr ⟨hd, n, rfl, hn, ?_⟩
  change (w.writeSwitch n true).switchMx = _
  rcases h with ⟨-, hmx⟩ | ⟨hpos, m, hm, -, hmx⟩
  · exact writeSwitch_congr n true hmx
  · have hnm : n = m := by
      rcases ha with h0 | hcurr
      · exact absurd h0 (Int.ne_of_gt hpos)
      · exact Int.ofNat.inj (hcurr.trans hm)
    rw [writeSwitch_congr n true hmx, hnm, writeSwitch_twice]

/-- The timer step opens the switch whose time is over. -/
lemma OneHeld.periodic {w : WpcAsic} (h : OneHeld w) : OneHeld w.periodic := by
  rcases h with ⟨h0, hmx⟩ | ⟨hpos, n, hn, hn19, hmx⟩
  · have hno : ¬w.currSwTime > 0 := by omega
    simp only [WpcAsic.periodic, if_neg hno]
    exact Or.inl ⟨h0, hmx⟩
  · simp only [WpcAsic.periodic, if_pos hpos]
    split
    · refine Or.inl ⟨rfl, ?_⟩
      have hopen : reset.readSwitch n = false := by
        rw [readSwitch_reset]
        exact decide_eq_false hn19
      change (w.writeSwitch w.currSw false).switchMx = _
      rw [hn, writeSwitch_congr n false hmx, writeSwitch_twice, writeSwitch_open _ _ hopen]
    · rename_i hleft
      exact Or.inr ⟨Int.lt_of_not_ge hleft, n, hn, hn19, hmx⟩

lemma OneHeld.switchEvent {w : WpcAsic} (h : OneHeld w) {e : SwitchEvent} (he : e.Momentary)
    (ha : w.Apart e) : OneHeld (w.switchEvent e) := by
  cases e with
  | press num delay =>
    obtain ⟨-, h19, hd⟩ := he
    exact h.pressSwitch h19 hd (ha num rfl)
  | tick key =>
    change OneHeld (w.keypoll key).periodic
    refine OneHeld.periodic ?_
    unfold keypoll
    split
    · rename_i num hnum
      obtain ⟨c, -, hc⟩ := Option.bind_eq_some_iff.mp hnum
      obtain ⟨n, rfl, -, h19⟩ := keySwitch_eq_some hc
      exact h.pressSwitch h19 (by decide) (ha n hnum)
    · exact h

/-! ## Overlapping presses -/

/-- A switch is closed that is not the one that is noted. -/
def Stuck (w : WpcAsic) : Prop :=
  ∃ a n : Nat, a ≠ 19 ∧ a ≠ n ∧ w.currSw = n ∧ w.readSwitch a = true

/-- The timer steps without a key that follow an event. -/
def idle (n : Nat) : List SwitchEvent := List.replicate n (.tick none)

lemma Stuck.periodic {w : WpcAsic} (h : Stuck w) : Stuck w.periodic := by
  obtain ⟨a, n, h19, hne, hn, ha⟩ := h
  unfold WpcAsic.periodic
  dsimp only
  split
  · split
    · refine ⟨a, n, h19, hne, hn, ?_⟩
      rw [hn, readSwitch_writeSwitch, if_neg hne]
      exact ha
    · exact ⟨a, n, h19, hne, hn, ha⟩
  · exact ⟨a, n, h19, hne, hn, ha⟩

lemma Stuck.idle {w : WpcAsic} (h : Stuck w) (n : Nat) : Stuck (w.switchEvents (idle n)) := by
  induction n generalizing w with
  | zero => exact h
  | succ n ih => exact ih h.periodic

/-- When its time is over the switch that is noted is not held any more, but the other one is. -/
lemma Stuck.not_released {w : WpcAsic} (h : Stuck w) (h0 : w.currSwTime = 0) : ¬Released w := by
  obtain ⟨a, -, h19, -, -, ha⟩ := h
  intro hr
  rw [readSwitch_eq, hr h0, ← readSwitch_eq, readSwitch_reset] at ha
  exact h19 (of_decide_eq_true ha)

lemma periodic_time (w : WpcAsic) (n : Nat) (h : w.currSwTime ≤ 100 * (n + 1)) :
    w.periodic.currSwTime ≤ 100 * n := by
  unfold WpcAsic.periodic
  dsimp only
  split
  · split
    · change (0 : Int) ≤ 100 * n
      omega
    · change w.currSwTime - 100 ≤ 100 * n
      omega
  · change w.currSwTime ≤ 100 * n
    omega

lemma periodic_time_nonneg (w : WpcAsic) (h : 0 ≤ w.currSwTime) : 0 ≤ w.periodic.currSwTime := by
  unfold WpcAsic.periodic
  dsimp only
  split
  · split
    · exact Int.le_refl 0
    · rename_i hleft
      exact Int.le_of_lt (Int.lt_of_not_ge hleft)
  · exact h

/-- The time runs out. -/
lemma idle_time (w : WpcAsic) (h : 0 ≤ w.currSwTime) (n : Nat) (hn : w.currSwTime ≤ 100 * n) :
    (w.switchEvents (idle n)).currSwTime = 0 := by
  induction n generalizing w with
  | zero => exact Int.le_antisymm hn h
  | succ n ih =>
    refine ih w.periodic (w.periodic_time_nonneg h) (w.periodic_time n ?_)
    exact_mod_cast hn

/-- A press while another switch is held. -/
lemma OneHeld.stuck {w : WpcAsic} (h : OneHeld w) {n : Nat} {delay : Int} (hd : 0 < delay)
    (ha : ¬(w.currSwTime = 0 ∨ (n : Int) = w.currSw)) :
    Stuck (w.pressSwitch n delay) ∧ 0 ≤ (w.pressSwitch n delay).currSwTime := by
  obtain ⟨hpos, hne⟩ := not_or.mp ha
  obtain ⟨-, a, hcurr, ha19, hmx⟩ := h.resolve_left fun h0 => hpos h0.1
  have hna : a ≠ n := fun hna => hne (by rw [hcurr, hna])
  refine ⟨⟨a, n, ha19, hna, rfl, ?_⟩, Int.le_of_lt hd⟩
  change (w.writeSwitch n true).readSwitch a = true
  rw [readSwitch_writeSwitch, if_neg hna, readSwitch_eq, hmx, ← readSwitch_eq,
    readSwitch_writeSwitch, if_pos rfl]

/-- If everything is released once the time is over, the event was apart from what was held. -/
lemma OneHeld.apart {w : WpcAsic} (h : OneHeld w) {e : SwitchEvent} (he : e.Momentary)
    (hr : ∀ n, Released ((w.switchEvent e).switchEvents (idle n))) : w.Apart e := by
  have hfail : ∀ w' : WpcAsic, Stuck w' → 0 ≤ w'.currSwTime →
      ¬∀ n, Released (w'.switchEvents (idle n)) := by
    intro w' hs h0 hr
    obtain ⟨n, hn⟩ : ∃ n : Nat, w'.currSwTime ≤ 100 * (n : Int) := ⟨w'.currSwTime.toNat, by omega⟩
    exact (hs.idle n).not_released (w'.idle_time h0 n hn) (hr n)
  intro num hnum
  by_contra ha
  cases e with
  | press n delay =>
    obtain rfl : (n : Int) = num := Option.some.inj hnum
    obtain ⟨hs, h0⟩ := h.stuck he.2.2 ha
    exact hfail _ hs h0 hr
  | tick key =>
    obtain ⟨c, -, hc⟩ := Option.bind_eq_some_iff.mp hnum
    obtain ⟨n, rfl, -⟩ := keySwitch_eq_some hc
    have hdur : 0 < BUTTON_DURATION := by decide
    obtain ⟨hs, h0⟩ := h.stuck hdur ha
    have hkey : w.keypoll key = w.pressSwitch n BUTTON_DURATION := by
      simp only [keypoll, show key.bind keySwitch = some (n : Int) from hnum]
    change ∀ n, Released ((w.keypoll key).periodic.switchEvents (idle n)) at hr
    rw [hkey] at hr
    exact hfail _ hs.periodic (periodic_time_nonneg _ h0) hr

lemma switchEvents_append (w : WpcAsic) (es es' : List SwitchEvent) :
    w.switchEvents (es ++ es') = (w.switchEvents es).switchEvents es' := List.foldl_append ..

lemma OneHeld.idle {w : WpcAsic} (h : OneHeld w) (n : Nat) :
    OneHeld (w.switchEvents (idle n)) := by
  induction n generalizing w with
  | zero => exact h
  | succ n ih => exact ih h.periodic

/-- In a run of momentary presses one switch is held at most, as long as each event either comes
apart from what is held or is known not to leave a switch closed. -/
lemma oneHeld_run {es : List SwitchEvent} (hes : ∀ e ∈ es, e.Momentary)
    (ha : ∀ p e, p ++ [e] <+: es → OneHeld (reset.switchEvents p) →
      (reset.switchEvents p).Apart e) :
    ∀ p, p <+: es → OneHeld (reset.switchEvents p) := by
  intro p
  induction p using List.reverseRecOn with
  | nil => exact fun _ => oneHeld_reset
  | append_singleton p e ih =>
    intro hp
    have hw := ih ((List.prefix_append p [e]).trans hp)
    rw [switchEvents_append]
    exact hw.switchEvent (hes e (hp.subset (by simp))) (ha p e hp hw)

/-- **Momentary switches.**  In every run of presses and timer steps: everything that was pressed
is open again whenever no time is left, also when the timer goes on without a key, if and only if
no switch is ever pressed while another one is held. -/
theorem released_iff_apart (es : List SwitchEvent) (hes : ∀ e ∈ es, e.Momentary) :
    (∀ p, p <+: es → ∀ n, Released (reset.switchEvents (p ++ idle n))) ↔
      ∀ p e, p ++ [e] <+: es → (reset.switchEvents p).Apart e := by
  constructor
  · intro hr
    have hapart : ∀ p e, p ++ [e] <+: es → OneHeld (reset.switchEvents p) →
        (reset.switchEvents p).Apart e := by
      intro p e hp hw
      refine hw.apart (hes e (hp.subset (by simp))) fun n => ?_
      have h := hr (p ++ [e]) hp n
      rw [switchEvents_append, switchEvents_append] at h
      exact h
    intro p e hp
    exact hapart p e hp (oneHeld_run hes hapart p ((List.prefix_append p [e]).trans hp))
  · intro ha p hp n
    rw [switchEvents_append]
    exact ((oneHeld_run hes (fun p e hp _ => ha p e hp) p hp).idle n).released

/-- One switch pressed twice. -/
theorem released_iff_apart_twice :
    (∀ p, p <+: [.press 4 200, .press 4 200] →
      ∀ n, Released (reset.switchEvents (p ++ idle n))) ↔
      ∀ p e, p ++ [e] <+: [.press 4 200, .press 4 200] → (reset.switchEvents p).Apart e :=
  released_iff_apart _ (by decide)

/-- Switches 4 and 5 are pressed and two timer steps follow: switch 4 stays closed. -/
theorem switch_stays_closed : ¬∀ es : List SwitchEvent, (∀ e ∈ es, e.Momentary) →
    Released (reset.switchEvents es) := by
  intro h
  have hmx := h [.press 4 200, .press 5 200, .tick none, .tick none] (by decide) (by decide)
  exact absurd (congrFun hmx 0) (by decide)

end WpcAsic

end Exec09
