import Exec09.Framework.Program

/-!
# Simulation of programs with state

A program follows another one, over a state of its own, when it returns what the other returns, in
a state related to the other's.  In an exact simulation it also ends early as the other does; in
one that is not exact nothing is said of a first program that ends early.
-/

namespace Program

variable {S T ε α β : Type}

lemma bind_eq_error {m : StateT S (Except ε) α} {f : α → StateT S (Except ε) β} {s : S} {e : ε} :
    (m >>= f) s = .error e ↔ m s = .error e ∨ ∃ a t, m s = .ok (a, t) ∧ f a t = .error e := by
  rw [bind_apply]
  rcases m s with e' | ⟨a, t⟩
  · simp [Except.bind]
  · simp [Except.bind]

/-- From related states `m'` returns what `m` returns, and the states are related again.  If the
simulation is exact, `m'` also ends early when `m` does. -/
def Follows (exact : Prop) (R : S → T → Prop) (m : StateT S (Except ε) α)
    (m' : StateT T (Except ε) α) : Prop :=
  ∀ s t, R s t → (∀ a s', m s = .ok (a, s') → ∃ t', m' t = .ok (a, t') ∧ R s' t') ∧
    (exact → ∀ e, m s = .error e → m' t = .error e)

namespace Follows

variable {exact : Prop} {R : S → T → Prop} {m n : StateT S (Except ε) α}
  {m' n' : StateT T (Except ε) α} {f : α → StateT S (Except ε) β} {f' : α → StateT T (Except ε) β}

lemma bind (hm : Follows exact R m m') (hf : ∀ a, Follows exact R (f a) (f' a)) :
    Follows exact R (m >>= f) (m' >>= f') := by
  intro s t hst
  obtain ⟨hok, herr⟩ := hm s t hst
  constructor
  · intro b u h
    obtain ⟨a, s₁, h₁, h₂⟩ := bind_eq_ok.mp h
    obtain ⟨t₁, ht₁, hst₁⟩ := hok a s₁ h₁
    obtain ⟨u', hu', huu⟩ := (hf a s₁ t₁ hst₁).1 b u h₂
    exact ⟨u', (ok_bind ht₁).trans hu', huu⟩
  · intro hx e h
    rcases bind_eq_error.mp h with h₁ | ⟨a, s₁, h₁, h₂⟩
    · exact error_bind (herr hx e h₁)
    · obtain ⟨t₁, ht₁, hst₁⟩ := hok a s₁ h₁
      exact (ok_bind ht₁).trans ((hf a s₁ t₁ hst₁).2 hx e h₂)

lemma pure (a : α) : Follows exact R (pure a : StateT S (Except ε) α) (pure a) := by
  intro s t hst
  refine ⟨fun b u h => ?_, fun _ e h => ?_⟩
  · cases h
    exact ⟨t, rfl, hst⟩
  · cases h

lemma throw (e : ε) : Follows exact R (throw e : StateT S (Except ε) α) (throw e) := by
  intro s t _
  refine ⟨fun b u h => ?_, fun _ e h => ?_⟩
  · cases h
  · cases h
    rfl

lemma reads {g : S → α} {g' : T → α} (h : ∀ s t, R s t → g' t = g s) :
    Follows exact R (reads g : StateT S (Except ε) α) (reads g') := by
  intro s t hst
  refine ⟨fun b u hu => ?_, fun _ e he => ?_⟩
  · cases hu
    exact ⟨t, by rw [reads_apply, h s t hst], hst⟩
  · cases he

lemma modify {g : S → S} {g' : T → T} (h : ∀ s t, R s t → R (g s) (g' t)) :
    Follows exact R (modify g : StateT S (Except ε) PUnit) (modify g') := by
  intro s t hst
  refine ⟨fun b u hu => ?_, fun _ e he => ?_⟩
  · cases hu
    exact ⟨g' t, rfl, h s t hst⟩
  · cases he

lemma modifyGet {g : S → α × S} {g' : T → α × T}
    (h : ∀ s t, R s t → (g' t).1 = (g s).1 ∧ R (g s).2 (g' t).2) :
    Follows exact R (modifyGet g : StateT S (Except ε) α) (modifyGet g') := by
  intro s t hst
  obtain ⟨hval, hrel⟩ := h s t hst
  refine ⟨fun b u hu => ?_, fun _ e he => ?_⟩
  · obtain ⟨rfl, rfl⟩ := Prod.mk.inj (Except.ok.inj hu)
    exact ⟨(g' t).2, congrArg Except.ok (Prod.ext hval rfl), hrel⟩
  · cases he

lemma ite {c : Prop} [Decidable c] (h : Follows exact R m m') (h' : Follows exact R n n') :
    Follows exact R (if c then m else n) (if c then m' else n') := by
  split
  · exact h
  · exact h'

lemma whenever {c : Prop} [Decidable c] {m : StateT S (Except ε) Unit}
    {m' : StateT T (Except ε) Unit} (h : Follows exact R m m') :
    Follows exact R (whenever c m) (whenever c m') :=
  ite h (pure ())

lemma forM {l : List β} {k : β → StateT S (Except ε) PUnit} {k' : β → StateT T (Except ε) PUnit}
    (h : ∀ b, Follows exact R (k b) (k' b)) : Follows exact R (l.forM k) (l.forM k') := by
  induction l with
  | nil => exact pure _
  | cons b l ih => exact bind (h b) fun _ => ih

/-- The first program begins with something the relation does not see. -/
lemma left {k : StateT S (Except ε) PUnit}
    (hk : ∀ s, ∃ s', k s = .ok (⟨⟩, s') ∧ ∀ t, R s t → R s' t) (h : Follows exact R m m') :
    Follows exact R (do k; m) m' := by
  intro s t hst
  obtain ⟨s₁, h₁, hrel⟩ := hk s
  have hrest : (do k; m : StateT S (Except ε) α) s = m s₁ := ok_bind h₁
  rw [hrest]
  exact h s₁ t (hrel t hst)

/-- The second program begins with something the relation does not see. -/
lemma right {k : StateT T (Except ε) PUnit}
    (hk : ∀ t, ∃ t', k t = .ok (⟨⟩, t') ∧ ∀ s, R s t → R s t') (h : Follows exact R m m') :
    Follows exact R m (do k; m') := by
  intro s t hst
  obtain ⟨t₁, h₁, hrel⟩ := hk t
  have hrest : (do k; m' : StateT T (Except ε) α) t = m' t₁ := ok_bind h₁
  rw [hrest]
  exact h s t₁ (hrel s hst)

/-- The same things are done one after the other, up to things the relation does not see. -/
lemma forM_filter {p : β → Bool} {k : β → StateT S (Except ε) PUnit}
    {k' : β → StateT T (Except ε) PUnit} (h : ∀ b, p b → Follows exact R (k b) (k' b))
    {l l' : List β} (hs : ∀ b ∈ l, ¬p b → ∀ s, ∃ s', k b s = .ok (⟨⟩, s') ∧ ∀ t, R s t → R s' t)
    (ht : ∀ b ∈ l', ¬p b → ∀ t, ∃ t', k' b t = .ok (⟨⟩, t') ∧ ∀ s, R s t → R s t')
    (hl : l'.filter p = l.filter p) : Follows exact R (l.forM k) (l'.forM k') := by
  induction l generalizing l' with
  | nil =>
      induction l' with
      | nil => exact pure _
      | cons b l' ih =>
          have hb : ¬p b := fun hb => by simp [hb] at hl
          rw [List.filter_cons_of_neg hb] at hl
          exact right (ht b List.mem_cons_self hb)
            (ih (fun c hc => ht c (List.mem_cons_of_mem _ hc)) hl)
  | cons b l ih =>
      have hs' : ∀ c ∈ l, ¬p c → _ := fun c hc => hs c (List.mem_cons_of_mem _ hc)
      by_cases hb : p b
      · rw [List.filter_cons_of_pos hb] at hl
        induction l' with
        | nil => cases hl
        | cons b' l' ih' =>
            have ht' : ∀ c ∈ l', ¬p c → _ := fun c hc => ht c (List.mem_cons_of_mem _ hc)
            by_cases hb' : p b'
            · rw [List.filter_cons_of_pos hb'] at hl
              obtain ⟨rfl, htail⟩ := List.cons.inj hl
              exact bind (h b' hb') fun _ => ih hs' ht' htail
            · rw [List.filter_cons_of_neg hb'] at hl
              exact right (ht b' List.mem_cons_self hb') (ih' ht' hl)
      · rw [List.filter_cons_of_neg hb] at hl
        exact left (hs b List.mem_cons_self hb) (ih hs' ht hl)

/-- What related states have in common is the same after an exact simulation. -/
lemma project {U : Type} {g : S → U} {g' : T → U} (hg : ∀ s t, R s t → g' t = g s) (hx : exact)
    (h : Follows exact R m m') {s : S} {t : T} (hst : R s t) :
    (m' t).map (Prod.map id g') = (m s).map (Prod.map id g) := by
  obtain ⟨hok, herr⟩ := h s t hst
  rcases hm : m s with e | ⟨a, s'⟩
  · rw [herr hx e hm]
    rfl
  · obtain ⟨t', ht', hst'⟩ := hok a s' hm
    rw [ht']
    exact congrArg Except.ok (Prod.ext rfl (hg s' t' hst'))

end Follows

end Program
