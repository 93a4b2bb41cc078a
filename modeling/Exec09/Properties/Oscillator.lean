import Mathlib
import Exec09.Machine.Timer

/-!
# Oscillator pulses

After `S` cycles a periodic timer with reload value `r` should have given `S / r` pulses.  The count
of `hwtimer_decrement` follows `S` (`Counting`), except that it rests at zero when `S` is a multiple
of `r`; the next call then finds the timer expired a second time.  The number of pulses is therefore
`S / r` plus one for each call made at such a moment (`extras`).
-/

namespace Exec09

namespace Hwtimer

/-- The cycles of a sequence of calls. -/
def total (l : List Unsigned) : Nat := (l.map BitVec.toNat).sum

@[simp] lemma total_nil : total [] = 0 := rfl

@[simp] lemma total_cons (c : Unsigned) (l : List Unsigned) : total (c :: l) = c.toNat + total l := by
  simp [total]

/-- Increments that are positive and below the reload value. -/
def Small (timer : Hwtimer) (l : List Unsigned) : Prop := ∀ c ∈ l, 0 < c ∧ c < timer.reload

/-- What is left of the period after `S` cycles; a period that has just ended is left at zero. -/
def remaining (r S : Nat) : Nat := if S ≠ 0 ∧ S % r = 0 then 0 else r - S % r

/-- A call made when the count rests at zero. -/
def extra (r S : Nat) : Nat := if S ≠ 0 ∧ S % r = 0 then 1 else 0

/-- The count after `S` cycles, for a reload value that fits an `int`. -/
structure Counting (timer : Hwtimer) (S : Nat) : Prop where
  positive : 0 < timer.reload.toNat
  fits : timer.reload.toNat < 2 ^ 31
  count : timer.count.toNat = remaining timer.reload.toNat S

/-- What happens to the quotient and the remainder when less than `r` is added. -/
lemma div_mod_add {r S c : Nat} (hc : c < r) :
    S % r + c < r ∧ (S + c) / r = S / r ∧ (S + c) % r = S % r + c ∨
      r ≤ S % r + c ∧ (S + c) / r = S / r + 1 ∧ (S + c) % r = S % r + c - r := by
  have hS := Nat.div_add_mod S r
  have hmod : S % r < r := Nat.mod_lt _ (by omega)
  by_cases h : S % r + c < r
  · have hsum : S + c = r * (S / r) + (S % r + c) := by omega
    refine .inl ⟨h, ?_, ?_⟩
    · rw [hsum, Nat.mul_add_div (by omega), Nat.div_eq_of_lt h, Nat.add_zero]
    · rw [hsum, Nat.mul_add_mod, Nat.mod_eq_of_lt h]
  · have hrest : S % r + c - r < r := by omega
    have hsum : S + c = r * (S / r + 1) + (S % r + c - r) := by
      rw [Nat.mul_add, Nat.mul_one]
      omega
    refine .inr ⟨by omega, ?_, ?_⟩
    · rw [hsum, Nat.mul_add_div (by omega), Nat.div_eq_of_lt hrest, Nat.add_zero]
    · rw [hsum, Nat.mul_add_mod, Nat.mod_eq_of_lt hrest]

/-- One call: the period goes on, ends, or has ended before. -/
lemma remaining_add {r S c : Nat} (hpos : 0 < c) (hc : c < r) :
    c < remaining r S ∧ remaining r (S + c) = remaining r S - c ∧
        S / r = (S + c) / r + extra r S ∨
      c = remaining r S ∧ remaining r (S + c) = 0 ∧ S / r + 1 = (S + c) / r + extra r S ∨
      remaining r S < c ∧ remaining r (S + c) = remaining r S + r - c ∧
        S / r + 1 = (S + c) / r + extra r S := by
  have hmod : S % r < r := Nat.mod_lt _ (by omega)
  have hrest (h : (S + c) % r ≠ 0) : remaining r (S + c) = r - (S + c) % r := by
    rw [remaining, if_neg fun hz => h hz.2]
  by_cases hz : S ≠ 0 ∧ S % r = 0
  · have hrem : remaining r S = 0 := by rw [remaining, if_pos hz]
    have hextra : extra r S = 1 := by rw [extra, if_pos hz]
    obtain ⟨-, hd, hm⟩ | ⟨hge, -, -⟩ := div_mod_add (S := S) hc
    · refine .inr (.inr ?_)
      rw [hrem, hextra, hd, hrest (by omega), hm]
      omega
    · omega
  · have hrem : remaining r S = r - S % r := by rw [remaining, if_neg hz]
    have hextra : extra r S = 0 := by rw [extra, if_neg hz]
    obtain ⟨hlt, hd, hm⟩ | ⟨hge, hd, hm⟩ := div_mod_add (S := S) hc
    · refine .inl ?_
      rw [hrem, hextra, hd, hrest (by omega), hm]
      omega
    · by_cases hend : S % r + c = r
      · have hzero : remaining r (S + c) = 0 := by rw [remaining, if_pos (by omega)]
        refine .inr (.inl ?_)
        rw [hrem, hextra, hd, hzero]
        omega
      · refine .inr (.inr ?_)
        rw [hrem, hextra, hd, hrest (by omega), hm]
        omega

/-! ## One call -/

lemma toInt_of_small {x : BitVec 32} (h : x.toNat < 2 ^ 31) : x.toInt = x.toNat := by
  rw [BitVec.toInt_eq_toNat_cond, if_pos (by omega)]

lemma toInt_sub {x y : BitVec 32} (hx : x.toNat < 2 ^ 31) (hy : y.toNat < 2 ^ 31) :
    (x - y).toInt = x.toNat - y.toNat := by
  rw [BitVec.toInt_eq_toNat_cond, BitVec.toNat_sub]
  split <;> omega

section Decrement

variable {timer : Hwtimer} {c : Unsigned} (hr : 0 < timer.reload.toNat)
include hr

/-- A timer with a reload value is running. -/
lemma decrement_running : timer.decrement c =
    if (timer.count - c).toInt ≤ 0 then
      (({ timer with count := timer.count - c } : Hwtimer).wrap.1,
        timer.interrupt ++ ({ timer with count := timer.count - c } : Hwtimer).wrap.2)
    else ({ timer with count := timer.count - c }, []) := by
  have hrun : ¬(timer.count = 0 ∧ timer.reload = 0) := by
    rintro ⟨-, h0⟩
    rw [h0] at hr
    exact absurd hr (by decide)
  rw [decrement, if_neg hrun]
  rfl

lemma decrement_above (h : 0 < (timer.count - c).toInt) :
    timer.decrement c = ({ timer with count := timer.count - c }, []) := by
  rw [decrement_running hr, if_neg (Int.not_le.mpr h)]

lemma decrement_zero (h : (timer.count - c).toInt = 0) :
    timer.decrement c = ({ timer with count := timer.count - c }, timer.interrupt) := by
  rw [decrement_running hr, if_pos (Int.le_of_eq h), wrap, if_neg (Int.not_lt.mpr (Int.le_of_eq h.symm))]
  simp

lemma decrement_below (h : (timer.count - c).toInt < 0)
    (hnew : 0 ≤ (timer.count - c + timer.reload).toInt) :
    timer.decrement c = ({ timer with count := timer.count - c + timer.reload }, timer.interrupt) := by
  have hreload : timer.reload > 0 := BitVec.lt_def.mpr hr
  rw [decrement_running hr, if_pos (Int.le_of_lt h), wrap, if_pos h, if_pos hreload]
  simp only [if_neg (Int.not_lt.mpr hnew), List.append_nil]

end Decrement

/-- The number of pulses of one call and the count it leaves. -/
lemma Counting.decrement {timer : Hwtimer} {S : Nat} (h : timer.Counting S) {c : Unsigned}
    (hc : 0 < c ∧ c < timer.reload) :
    ∃ (n : BitVec 32) (k : Nat),
      timer.decrement c = ({ timer with count := n }, (List.replicate k timer.interrupt).flatten) ∧
      Counting { timer with count := n } (S + c.toNat) ∧
      S / timer.reload.toNat + k = (S + c.toNat) / timer.reload.toNat + extra timer.reload.toNat S := by
  obtain ⟨hr, hfit, hcount⟩ := h
  have hpos : 0 < c.toNat := BitVec.lt_def.mp hc.1
  have hlt : c.toNat < timer.reload.toNat := BitVec.lt_def.mp hc.2
  have hn : timer.count.toNat ≤ timer.reload.toNat := by
    rw [hcount, remaining]
    split <;> omega
  have hsub := toInt_sub (x := timer.count) (y := c) (by omega) (by omega)
  obtain ⟨hgt, hrem, hk⟩ | ⟨heq, hrem, hk⟩ | ⟨hgt, hrem, hk⟩ := remaining_add (S := S) hpos hlt
  · refine ⟨timer.count - c, 0, ?_, ⟨hr, hfit, ?_⟩, hk⟩
    · rw [decrement_above hr (by omega)]
      simp
    · refine Eq.trans ?_ hrem.symm
      rw [BitVec.toNat_sub]
      omega
  · refine ⟨timer.count - c, 1, ?_, ⟨hr, hfit, ?_⟩, hk⟩
    · rw [decrement_zero hr (by omega)]
      simp
    · refine Eq.trans ?_ hrem.symm
      rw [BitVec.toNat_sub]
      omega
  · have hnat : (timer.count - c + timer.reload).toNat =
        timer.count.toNat + timer.reload.toNat - c.toNat := by
      rw [BitVec.toNat_add, BitVec.toNat_sub]
      omega
    have hnew := toInt_of_small (x := timer.count - c + timer.reload) (by omega)
    refine ⟨timer.count - c + timer.reload, 1, ?_, ⟨hr, hfit, ?_⟩, hk⟩
    · rw [decrement_below hr (by omega) (by omega)]
      simp
    · refine Eq.trans ?_ hrem.symm
      rw [hnat, hcount]

/-! ## Sequences of calls -/

/-- Calls made when the count rests at zero, in a sequence that begins after `S` cycles. -/
def extras (r : Nat) : Nat → List Unsigned → Nat
  | _, [] => 0
  | S, c :: l => extra r S + extras r (S + c.toNat) l

/-- The pulses of a sequence of calls. -/
lemma Counting.decrements {timer : Hwtimer} {S : Nat} (h : timer.Counting S) {l : List Unsigned}
    (hl : timer.Small l) :
    ∃ (n : BitVec 32) (k : Nat),
      timer.decrements l = ({ timer with count := n }, (List.replicate k timer.interrupt).flatten) ∧
      Counting { timer with count := n } (S + total l) ∧
      S / timer.reload.toNat + k =
        (S + total l) / timer.reload.toNat + extras timer.reload.toNat S l := by
  induction l generalizing timer S with
  | nil => exact ⟨timer.count, 0, by simp [Hwtimer.decrements], h, by simp [extras]⟩
  | cons c l ih =>
    obtain ⟨n, k, hd, hn, hk⟩ := h.decrement (hl c (by simp))
    obtain ⟨n', k', hd', hn', hk'⟩ := @ih { timer with count := n } _ hn
      fun x hx => hl x (by simp [hx])
    refine ⟨n', k + k', ?_, ?_, ?_⟩
    · rw [Hwtimer.decrements, hd]
      simp only [hd', List.replicate_add, List.flatten_append]
      rfl
    · rw [total_cons, ← Nat.add_assoc]
      exact hn'
    · have hk' : (S + c.toNat) / timer.reload.toNat + k' =
          (S + c.toNat + total l) / timer.reload.toNat +
            extras timer.reload.toNat (S + c.toNat) l := hk'
      have hsum : S + (c.toNat + total l) = S + c.toNat + total l := by omega
      rw [extras, total_cons, hsum]
      omega

/-- No call is made when the count rests at zero. -/
lemma extras_eq_zero_iff {r S : Nat} {l : List Unsigned} :
    extras r S l = 0 ↔ ∀ p, p <+: l → p ≠ l → S + total p ≠ 0 → ¬ r ∣ S + total p := by
  induction l generalizing S with
  | nil =>
    simp only [extras, true_iff]
    intro p hp hne
    exact absurd (List.prefix_nil.mp hp) hne
  | cons c l ih =>
    have hextra : extra r S = 0 ↔ (S ≠ 0 → ¬ r ∣ S) := by
      rw [extra, Nat.dvd_iff_mod_eq_zero]
      split <;> rename_i hz
      · simp [hz.1, hz.2]
      · simpa using hz
    rw [extras, Nat.add_eq_zero_iff, hextra, ih]
    constructor
    · rintro ⟨h0, h⟩ p hp hne
      rcases p with _ | ⟨d, p⟩
      · simpa using h0
      · obtain ⟨rfl, hp'⟩ := List.cons_prefix_cons.mp hp
        rw [total_cons, ← Nat.add_assoc]
        exact h p hp' fun e => hne (by rw [e])
    · intro h
      refine ⟨by simpa using h [] (List.nil_prefix) (by simp), fun p hp hne => ?_⟩
      have := h (c :: p) (List.cons_prefix_cons.mpr ⟨rfl, hp⟩) (by simpa using hne)
      rwa [total_cons, ← Nat.add_assoc] at this

/-! ## The oscillator -/

/-- The calls of `imux_assert`. -/
def asserts (calls : List TimerCall) : Nat :=
  calls.countP fun c => match c with | .imuxAssert _ _ => true | .simError => false

/-- What is expected of a timer after the calls `l`: the count is in range, no error was reported,
and there was a pulse for each full period. -/
structure OnTime (timer : Hwtimer) (l : List Unsigned) : Prop where
  low : 0 ≤ (timer.decrements l).1.count.toInt
  high : (timer.decrements l).1.count.toInt ≤ timer.reload.toNat
  errors : .simError ∉ (timer.decrements l).2
  pulses : asserts (timer.decrements l).2 = total l / timer.reload.toNat

/-- The reload value is an `int`, somebody listens when a period is over, and no call but the last
ends exactly on a period. -/
structure Paced (timer : Hwtimer) (l : List Unsigned) : Prop where
  fits : timer.reload.toNat < 2 ^ 31
  heard : timer.intDev.isSome ∨ total l < timer.reload.toNat
  offBeat : ∀ p, p <+: l → p ≠ [] → p ≠ l → ¬ timer.reload.toNat ∣ total p

@[simp] lemma oscillatorReset_reload (timer : Hwtimer) (cycles : BitVec 64) :
    (timer.oscillatorReset cycles).reload = timer.reload := by
  rw [oscillatorReset]
  cases hd : timer.intDev <;> simp [reset, hd]

@[simp] lemma oscillatorReset_count (timer : Hwtimer) (cycles : BitVec 64) :
    (timer.oscillatorReset cycles).count = timer.reload := by
  rw [oscillatorReset]
  cases hd : timer.intDev <;> simp [reset, hd]

lemma oscillatorReset_counting {timer : Hwtimer} (cycles : BitVec 64) (hr : 0 < timer.reload)
    (hfit : timer.reload.toNat < 2 ^ 31) : (timer.oscillatorReset cycles).Counting 0 := by
  have hpos : 0 < timer.reload.toNat := BitVec.lt_def.mp hr
  exact ⟨by simpa using hpos, by simpa using hfit, by simp [remaining]⟩

/-- One pulse for each interrupt, if there is a device for it. -/
lemma asserts_interrupt (timer : Hwtimer) (cycles : BitVec 64) (k : Nat) :
    asserts (List.replicate k (timer.oscillatorReset cycles).interrupt).flatten =
        (if timer.intDev.isSome then k else 0) ∧
      .simError ∉ (List.replicate k (timer.oscillatorReset cycles).interrupt).flatten := by
  rcases hd : timer.intDev with _ | dev
  · have hnone : (timer.oscillatorReset cycles).interrupt = [] := by
      simp [interrupt, oscillatorReset, reset, hd]
    rw [hnone]
    simp [asserts, List.flatten_replicate_nil]
  · have hsome : (timer.oscillatorReset cycles).interrupt = [.imuxAssert dev timer.intLine] := by
      simp [interrupt, oscillatorReset, reset, hd]
    rw [hsome]
    induction k with
    | zero => simp [asserts]
    | succ k ih =>
      rw [List.replicate_succ, List.flatten_cons]
      refine ⟨?_, by simp⟩
      have hk := ih.1
      simp only [asserts, List.countP_append, Option.isSome_some, if_true] at hk ⊢
      rw [hk]
      simp [Nat.add_comm]

lemma positive_total {l : List Unsigned} (hl : ∀ c ∈ l, 0 < c) (hne : l ≠ []) : 0 < total l := by
  rcases l with _ | ⟨c, l⟩
  · exact absurd rfl hne
  · have hc : 0 < c.toNat := BitVec.lt_def.mp (hl c (by simp))
    rw [total_cons]
    omega

lemma total_mono {p l : List Unsigned} (h : p <+: l) : total p ≤ total l := by
  obtain ⟨q, rfl⟩ := h
  simp [total]

/-- **Oscillator pulses.**  From `oscillator_reset` on, the count stays in range, no error is reported
and each call leaves the number of pulses at that of the full periods, exactly if the reload value
is an `int`, there is a device for the pulses, and no call but the last ends exactly on a period. -/
theorem oscillator_pulses (timer : Hwtimer) (cycles : BitVec 64) (l : List Unsigned)
    (hr : 0 < timer.reload) (hl : timer.Small l) :
    (∀ p, p <+: l → OnTime (timer.oscillatorReset cycles) p) ↔ timer.Paced l := by
  have hpos : 0 < timer.reload.toNat := BitVec.lt_def.mp hr
  have hzero : ∀ p, p <+: l → p ≠ [] → total p ≠ 0 := fun p hp hne =>
    Nat.ne_of_gt (positive_total (fun c hc => (hl c (hp.subset hc)).1) hne)
  constructor
  · intro h
    have hfit : timer.reload.toNat < 2 ^ 31 := by
      have hlow := (h [] List.nil_prefix).low
      rw [show ((timer.oscillatorReset cycles).decrements []).1 = timer.oscillatorReset cycles from rfl,
        oscillatorReset_count, BitVec.toInt_eq_toNat_cond] at hlow
      split at hlow <;> omega
    obtain ⟨n, k, hd, -, hk⟩ := (oscillatorReset_counting cycles hr hfit).decrements
      (l := l) (by simpa [Small] using hl)
    have hpulses := (h l List.prefix_rfl).pulses
    rw [hd] at hpulses
    simp only [(asserts_interrupt timer cycles k).1, oscillatorReset_reload] at hpulses
    simp only [oscillatorReset_reload, Nat.zero_div, Nat.zero_add] at hk
    by_cases hdev : timer.intDev.isSome
    · rw [if_pos hdev] at hpulses
      refine ⟨hfit, .inl hdev, fun p hp hne hne' => ?_⟩
      have hextras : extras timer.reload.toNat 0 l = 0 := by omega
      have := extras_eq_zero_iff.mp hextras p hp hne' (by simpa using hzero p hp hne)
      simpa using this
    · rw [if_neg hdev] at hpulses
      have hlt : total l < timer.reload.toNat := by
        by_contra hge
        have := Nat.div_pos (Nat.not_lt.mp hge) hpos
        omega
      refine ⟨hfit, .inr hlt, fun p hp hne _ hdvd => ?_⟩
      have hle := Nat.le_of_dvd (Nat.pos_of_ne_zero (hzero p hp hne)) hdvd
      have := total_mono hp
      omega
  · rintro ⟨hfit, hheard, hoff⟩ p hp
    obtain ⟨n, k, hd, ⟨-, -, hn⟩, hk⟩ := (oscillatorReset_counting cycles hr hfit).decrements
      (l := p) (by
        intro c hc
        simpa using hl c (hp.subset hc))
    simp only [oscillatorReset_reload, Nat.zero_div, Nat.zero_add] at hk hn
    have hle : n.toNat ≤ timer.reload.toNat := by
      rw [hn, remaining]
      split <;> omega
    have hextras : extras timer.reload.toNat 0 p = 0 := by
      refine extras_eq_zero_iff.mpr fun q hq hne h0 => ?_
      have hq0 : q ≠ [] := by
        rintro rfl
        simp at h0
      have hql : q ≠ l := by
        rintro rfl
        exact hne (hq.eq_of_length_le hp.length_le)
      simpa using hoff q (hq.trans hp) hq0 hql
    have hint : n.toInt = n.toNat := toInt_of_small (by omega)
    refine ⟨?_, ?_, ?_, ?_⟩
    · rw [hd]
      change 0 ≤ n.toInt
      omega
    · rw [hd, oscillatorReset_reload]
      change n.toInt ≤ _
      omega
    · rw [hd]
      exact (asserts_interrupt timer cycles k).2
    · rw [hd, oscillatorReset_reload]
      change asserts (List.replicate k (timer.oscillatorReset cycles).interrupt).flatten = _
      rw [(asserts_interrupt timer cycles k).1]
      rcases hheard with hdev | hlt
      · rw [if_pos hdev]
        omega
      · have hsmall : total p / timer.reload.toNat = 0 :=
          Nat.div_eq_of_lt (Nat.lt_of_le_of_lt (total_mono hp) hlt)
        split <;> omega

/-- The oscillator of the eon board, on the multiplexer. -/
def eonOscillator : Hwtimer := oscillatorCreate ⟨0, 0, 0, 0, 0, none, 0⟩ (some 3) 0

theorem oscillator_pulses_eon :
    OnTime (eonOscillator.oscillatorReset 0) [1030, 1029, 1027] := by
  have hpaced : eonOscillator.Paced [1030, 1029, 1027] := by
    have hoff : ∀ p ∈ List.inits [1030, 1029, 1027], p ≠ [] → p ≠ [1030, 1029, 1027] →
        ¬ eonOscillator.reload.toNat ∣ total p := by decide +kernel
    exact ⟨by decide, .inl rfl, fun p hp => hoff p ((List.mem_inits _ _).mpr hp)⟩
  have hsmall : eonOscillator.Small [1030, 1029, 1027] := by
    simp only [Small, List.forall_mem_cons]
    exact ⟨by decide, by decide, by decide, by simp⟩
  exact (oscillator_pulses eonOscillator 0 _ (by decide) hsmall).mpr hpaced _ List.prefix_rfl

/-- Three slices of 1024 cycles, the loop of `main`: the second call ends on a period, and the third
gives a second pulse for it. -/
theorem oscillator_pulses_twice :
    ¬ ∀ p, p <+: [1024, 1024, 1024] → OnTime (eonOscillator.oscillatorReset 0) p := by
  intro h
  have hpulses := (h _ List.prefix_rfl).pulses
  exact absurd hpulses (by decide +kernel)

end Hwtimer

end Exec09
