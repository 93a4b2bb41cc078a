import Mathlib.Algebra.Group.Nat.Defs
import Mathlib.Tactic.Common

/-!
# Reasoning about programs with state and an exit

Programs in `StateT S (Except ε)`: they read and change a state and may stop the whole run with
a value of `ε`.  Three judgements are closed under the constructors a `do` block is made of:

* `Triple P m Q`, partial correctness over normal results;
* `Steps R m`, the first and the last state are related by the preorder `R`; in particular
  `Keeps g m`, the observation `g` of the state is the same before and after;
* `Coupled R m m' Q`, two programs started in related states stop alike or return results and
  states that are again related; and `Together R R' m m'`, where both return equal results.

Each rule is named after the constructor it is for, so that a proof follows the program text.
-/

namespace Program

variable {S T ε α β γ δ : Type}

/-- Read a projection of the state. -/
def reads (f : S → α) : StateT S (Except ε) α := fun s => .ok (f s, s)

/-- A statement guarded by an `if` without `else`. -/
def whenever (c : Prop) [Decidable c] (m : StateT S (Except ε) Unit) : StateT S (Except ε) Unit :=
  if c then m else pure ()

/-! ## Inversion of single steps -/

lemma bind_apply (m : StateT S (Except ε) α) (f : α → StateT S (Except ε) β) (s : S) :
    (m >>= f) s = (m s).bind fun p => f p.1 p.2 := rfl

lemma bind_eq_ok {m : StateT S (Except ε) α} {f : α → StateT S (Except ε) β} {s u : S} {b : β} :
    (m >>= f) s = .ok (b, u) ↔ ∃ a t, m s = .ok (a, t) ∧ f a t = .ok (b, u) := by
  rw [bind_apply]
  rcases m s with e | ⟨a, t⟩
  · simp [Except.bind]
  · simp [Except.bind]

@[simp] lemma pure_apply (a : α) (s : S) : (pure a : StateT S (Except ε) α) s = .ok (a, s) := rfl

@[simp] lemma reads_apply (f : S → α) (s : S) :
    (reads f : StateT S (Except ε) α) s = .ok (f s, s) := rfl

@[simp] lemma modify_apply (f : S → S) (s : S) :
    (modify f : StateT S (Except ε) PUnit) s = .ok (⟨⟩, f s) := rfl

@[simp] lemma modifyGet_apply (f : S → α × S) (s : S) :
    (modifyGet f : StateT S (Except ε) α) s = .ok (f s) := rfl

@[simp] lemma throw_apply (e : ε) (s : S) :
    (throw e : StateT S (Except ε) α) s = .error e := rfl

lemma ok_bind {m : StateT S (Except ε) α} {f : α → StateT S (Except ε) β} {s t : S} {a : α}
    (h : m s = .ok (a, t)) : (m >>= f) s = f a t := by
  rw [bind_apply, h]
  rfl

lemma error_bind {m : StateT S (Except ε) α} {f : α → StateT S (Except ε) β} {s : S} {e : ε}
    (h : m s = .error e) : (m >>= f) s = .error e := by
  rw [bind_apply, h]
  rfl

lemma whenever_eq_ok {c : Prop} [Decidable c] {m : StateT S (Except ε) Unit} {s t : S} :
    whenever c m s = .ok ((), t) ↔ c ∧ m s = .ok ((), t) ∨ ¬c ∧ t = s := by
  by_cases hc : c
  · simp [whenever, hc]
  · simp [whenever, hc, eq_comm]

/-! ## Partial correctness -/

/-- Every normal result of `m` from a state in `P` satisfies `Q`. -/
def Triple (P : S → Prop) (m : StateT S (Except ε) α) (Q : α → S → Prop) : Prop :=
  ∀ s, P s → ∀ a t, m s = .ok (a, t) → Q a t

namespace Triple

variable {P P' : S → Prop} {Q Q' : α → S → Prop} {R : β → S → Prop}
  {m : StateT S (Except ε) α} {f : α → StateT S (Except ε) β}

lemma bind (hm : Triple P m Q) (hf : ∀ a, Triple (Q a) (f a) R) : Triple P (m >>= f) R := by
  intro s hs b u h
  obtain ⟨a, t, h₁, h₂⟩ := bind_eq_ok.mp h
  exact hf a t (hm s hs a t h₁) b u h₂

lemma pure {a : α} (h : ∀ s, P s → Q a s) :
    Triple P (pure a : StateT S (Except ε) α) Q := by
  intro s hs b t hb
  cases hb
  exact h s hs

lemma reads {g : S → α} (h : ∀ s, P s → Q (g s) s) :
    Triple P (reads g : StateT S (Except ε) α) Q := by
  intro s hs b t hb
  cases hb
  exact h s hs

lemma modify {g : S → S} {Q : PUnit → S → Prop} (h : ∀ s, P s → Q ⟨⟩ (g s)) :
    Triple P (modify g : StateT S (Except ε) PUnit) Q := by
  intro s hs b t hb
  cases hb
  exact h s hs

lemma modifyGet {g : S → α × S} (h : ∀ s, P s → Q (g s).1 (g s).2) :
    Triple P (modifyGet g : StateT S (Except ε) α) Q := by
  intro s hs b t hb
  have hg : g s = (b, t) := Except.ok.inj hb
  simpa only [hg] using h s hs

lemma throw {e : ε} : Triple P (throw e : StateT S (Except ε) α) Q := by
  intro s _ b t hb
  cases hb

lemma ite {c : Prop} [Decidable c] {m' : StateT S (Except ε) α} (h : c → Triple P m Q)
    (h' : ¬c → Triple P m' Q) : Triple P (if c then m else m') Q := by
  split
  · exact h ‹_›
  · exact h' ‹_›

lemma whenever {c : Prop} [Decidable c] {m : StateT S (Except ε) Unit} {Q : Unit → S → Prop}
    (h : c → Triple P m Q) (h' : ∀ s, P s → Q () s) : Triple P (whenever c m) Q :=
  ite h fun _ => pure h'

lemma conseq (h : Triple P' m Q') (hP : ∀ s, P s → P' s) (hQ : ∀ a s, Q' a s → Q a s) :
    Triple P m Q :=
  fun s hs a t ht => hQ a t (h s (hP s hs) a t ht)

lemma forM {l : List γ} {g : γ → StateT S (Except ε) PUnit}
    (h : ∀ c, Triple P (g c) fun _ => P) : Triple P (l.forM g) fun _ => P := by
  induction l with
  | nil => exact pure fun _ hs => hs
  | cons c l ih => exact bind (h c) fun _ => ih

end Triple

/-! ## Relations between start and end -/

/-- Every normal run of `m` relates its first state to its last one by `R`. -/
def Steps (R : S → S → Prop) (m : StateT S (Except ε) α) : Prop :=
  ∀ s a t, m s = .ok (a, t) → R s t

namespace Steps

variable {R R' : S → S → Prop} {m : StateT S (Except ε) α} {f : α → StateT S (Except ε) β}

lemma mono (h : Steps R m) (hR : ∀ s t, R s t → R' s t) : Steps R' m :=
  fun s a t ht => hR s t (h s a t ht)

lemma modify {k : S → S} (h : ∀ s, R s (k s)) :
    Steps R (modify k : StateT S (Except ε) PUnit) := by
  intro s b t hb
  cases hb
  exact h s

lemma modifyGet {k : S → α × S} (h : ∀ s, R s (k s).2) :
    Steps R (modifyGet k : StateT S (Except ε) α) := by
  intro s b t hb
  have hk : k s = (b, t) := Except.ok.inj hb
  simpa only [hk] using h s

lemma throw (e : ε) : Steps R (throw e : StateT S (Except ε) α) := by
  intro s b t h
  cases h

lemma ite {c : Prop} [Decidable c] {m' : StateT S (Except ε) α} (h : Steps R m)
    (h' : Steps R m') : Steps R (if c then m else m') := by
  split
  · exact h
  · exact h'

variable [IsPreorder S R]

lemma bind (hm : Steps R m) (hf : ∀ a, Steps R (f a)) : Steps R (m >>= f) := by
  intro s b u h
  obtain ⟨a, t, h₁, h₂⟩ := bind_eq_ok.mp h
  exact IsTrans.trans _ _ _ (hm s a t h₁) (hf a t b u h₂)

lemma pure (a : α) : Steps R (pure a : StateT S (Except ε) α) := by
  intro s b t h
  cases h
  exact Std.Refl.refl s

lemma reads (r : S → α) : Steps R (reads r : StateT S (Except ε) α) := by
  intro s b t h
  cases h
  exact Std.Refl.refl s

lemma wheneverOf {c : Prop} [Decidable c] {m : StateT S (Except ε) Unit} (h : c → Steps R m) :
    Steps R (whenever c m) := by
  by_cases hc : c
  · rw [Program.whenever, if_pos hc]
    exact h hc
  · rw [Program.whenever, if_neg hc]
    exact pure ()

lemma whenever {c : Prop} [Decidable c] {m : StateT S (Except ε) Unit} (h : Steps R m) :
    Steps R (whenever c m) :=
  wheneverOf fun _ => h

lemma forM {l : List γ} {k : γ → StateT S (Except ε) PUnit} (h : ∀ c ∈ l, Steps R (k c)) :
    Steps R (l.forM k) := by
  induction l with
  | nil => exact pure _
  | cons c l ih =>
      exact bind (h c List.mem_cons_self) fun _ => ih fun c hc => h c (List.mem_cons_of_mem _ hc)

end Steps

/-- The observation `g` is the same in both states. -/
def SameOn (g : S → γ) (s t : S) : Prop := g t = g s

instance (g : S → γ) : IsPreorder S (SameOn g) where
  refl _ := rfl
  trans _ _ _ h h' := Eq.trans h' h

/-- The observation `g` of the state is the same before and after `m`. -/
abbrev Keeps (g : S → γ) (m : StateT S (Except ε) α) : Prop := Steps (SameOn g) m

/-! ## Coupled runs -/

/-- How two outcomes correspond: equal exits, or results and states related by `Q`. -/
def Outcomes (Q : α → β → S → T → Prop) : Except ε (α × S) → Except ε (β × T) → Prop
  | .ok (a, s), .ok (b, t) => Q a b s t
  | .error e, .error e' => e = e'
  | _, _ => False

/-- Two programs, started in states related by `R`, have corresponding outcomes. -/
def Coupled (R : S → T → Prop) (m : StateT S (Except ε) α) (m' : StateT T (Except ε) β)
    (Q : α → β → S → T → Prop) : Prop :=
  ∀ s t, R s t → Outcomes Q (m s) (m' t)

/-- One program, started in two states related by `R`, gives equal results and states related
by `R'`. -/
def Uniform (R R' : S → S → Prop) (m : StateT S (Except ε) α) : Prop :=
  Coupled R m m fun a b s t => a = b ∧ R' s t

lemma Outcomes.mono {Q Q' : α → β → S → T → Prop} (h : ∀ a b s t, Q a b s t → Q' a b s t) :
    ∀ {x : Except ε (α × S)} {y : Except ε (β × T)}, Outcomes Q x y → Outcomes Q' x y
  | .ok (_, _), .ok (_, _), hxy => h _ _ _ _ hxy
  | .error _, .error _, hxy => hxy
  | .ok _, .error _, hxy => hxy.elim
  | .error _, .ok _, hxy => hxy.elim

lemma Outcomes.symm {Q : α → β → S → T → Prop} {Q' : β → α → T → S → Prop}
    (h : ∀ a b s t, Q a b s t → Q' b a t s) :
    ∀ {x : Except ε (α × S)} {y : Except ε (β × T)}, Outcomes Q x y → Outcomes Q' y x
  | .ok (_, _), .ok (_, _), hxy => h _ _ _ _ hxy
  | .error _, .error _, hxy => Eq.symm hxy
  | .ok _, .error _, hxy => hxy.elim
  | .error _, .ok _, hxy => hxy.elim

lemma Outcomes.bind {Q : α → β → S → T → Prop} {U : γ → δ → S → T → Prop}
    {f : α → StateT S (Except ε) γ} {k : β → StateT T (Except ε) δ}
    (hf : ∀ a b s t, Q a b s t → Outcomes U (f a s) (k b t)) :
    ∀ {x : Except ε (α × S)} {y : Except ε (β × T)}, Outcomes Q x y →
      Outcomes U (x.bind fun p => f p.1 p.2) (y.bind fun p => k p.1 p.2)
  | .ok (_, _), .ok (_, _), hxy => hf _ _ _ _ hxy
  | .error _, .error _, hxy => hxy
  | .ok _, .error _, hxy => hxy.elim
  | .error _, .ok _, hxy => hxy.elim

lemma Outcomes.of_ok {Q : α → β → S → T → Prop} {x : Except ε (α × S)} {y : Except ε (β × T)}
    (h : Outcomes Q x y) {a : α} {s : S} (hx : x = .ok (a, s)) :
    ∃ b t, y = .ok (b, t) ∧ Q a b s t := by
  subst hx
  rcases y with e | ⟨b, t⟩
  · exact h.elim
  · exact ⟨b, t, rfl, h⟩

/-- What is known of the two outcomes on their own. -/
lemma Outcomes.and {Q : α → β → S → T → Prop} {P : α → S → Prop} {P' : β → T → Prop}
    {x : Except ε (α × S)} {y : Except ε (β × T)} (h : Outcomes Q x y)
    (hx : ∀ a s, x = .ok (a, s) → P a s) (hy : ∀ b t, y = .ok (b, t) → P' b t) :
    Outcomes (fun a b s t => Q a b s t ∧ P a s ∧ P' b t) x y := by
  rcases x with e | ⟨a, s⟩ <;> rcases y with e' | ⟨b, t⟩
  · exact h
  · exact h
  · exact h
  · exact ⟨h, hx a s rfl, hy b t rfl⟩

namespace Uniform

variable {R R' R'' : S → S → Prop} {m : StateT S (Except ε) α} {f : α → StateT S (Except ε) β}

/-- Go on after two corresponding outcomes. -/
lemma resume (hf : ∀ a, Uniform R R' (f a)) {x y : Except ε (α × S)}
    (h : Outcomes (fun a b s t => a = b ∧ R s t) x y) :
    Outcomes (fun a b s t => a = b ∧ R' s t) (x.bind fun p => f p.1 p.2)
      (y.bind fun p => f p.1 p.2) := by
  refine Outcomes.bind ?_ h
  rintro a b s t ⟨rfl, hst⟩
  exact hf a s t hst

lemma bind (hm : Uniform R R' m) (hf : ∀ a, Uniform R' R'' (f a)) : Uniform R R'' (m >>= f) :=
  fun s t hst => resume hf (hm s t hst)

lemma pure (a : α) : Uniform R R (pure a : StateT S (Except ε) α) :=
  fun _ _ h => ⟨rfl, h⟩

lemma reads {g : S → α} (h : ∀ s t, R s t → g s = g t) :
    Uniform R R (reads g : StateT S (Except ε) α) :=
  fun s t hst => ⟨h s t hst, hst⟩

lemma modify {g : S → S} (h : ∀ s t, R s t → R' (g s) (g t)) :
    Uniform R R' (modify g : StateT S (Except ε) PUnit) :=
  fun s t hst => ⟨rfl, h s t hst⟩

lemma modifyGet {g : S → α × S} (h : ∀ s t, R s t → (g s).1 = (g t).1 ∧ R' (g s).2 (g t).2) :
    Uniform R R' (modifyGet g : StateT S (Except ε) α) :=
  fun s t hst => h s t hst

lemma throw (e : ε) : Uniform R R' (throw e : StateT S (Except ε) α) :=
  fun _ _ _ => rfl

lemma ite {c : Prop} [Decidable c] {m' : StateT S (Except ε) α} (h : Uniform R R' m)
    (h' : Uniform R R' m') : Uniform R R' (if c then m else m') := by
  split
  · exact h
  · exact h'

lemma whenever {c : Prop} [Decidable c] {m : StateT S (Except ε) Unit} (h : Uniform R R m) :
    Uniform R R (whenever c m) :=
  ite h (pure ())

lemma forM {l : List δ} {k : δ → StateT S (Except ε) PUnit} (h : ∀ c, Uniform R R (k c)) :
    Uniform R R (l.forM k) := by
  induction l with
  | nil => exact pure _
  | cons c l ih => exact bind (h c) fun _ => ih

lemma conseq {R₁ R₁' : S → S → Prop} (h : Uniform R R' m) (hR : ∀ s t, R₁ s t → R s t)
    (hR' : ∀ s t, R' s t → R₁' s t) : Uniform R₁ R₁' m :=
  fun s t hst => Outcomes.mono (fun _ _ _ _ hq => ⟨hq.1, hR' _ _ hq.2⟩) (h s t (hR s t hst))

end Uniform

/-! ## Programs that return together -/

/-- Started in related states, both programs return, with equal results and in related states. -/
def Together (R R' : S → T → Prop) (m : StateT S (Except ε) α) (m' : StateT T (Except ε) α) :
    Prop :=
  ∀ s t, R s t → ∃ a s' t', m s = .ok (a, s') ∧ m' t = .ok (a, t') ∧ R' s' t'

namespace Together

variable {R R' R'' : S → T → Prop} {m : StateT S (Except ε) α} {m' : StateT T (Except ε) α}
  {f : α → StateT S (Except ε) β} {f' : α → StateT T (Except ε) β}

lemma bind (hm : Together R R' m m') (hf : ∀ a, Together R' R'' (f a) (f' a)) :
    Together R R'' (m >>= f) (m' >>= f') := by
  intro s t h
  obtain ⟨a, s₁, t₁, hs, ht, h₁⟩ := hm s t h
  obtain ⟨b, s₂, t₂, hs', ht', h₂⟩ := hf a s₁ t₁ h₁
  exact ⟨b, s₂, t₂, (ok_bind hs).trans hs', (ok_bind ht).trans ht', h₂⟩

/-- The second program starts with an update of its own. -/
lemma right {g : T → T} (h : ∀ s t, R s t → R' s (g t)) (hm : Together R' R'' m m') :
    Together R R'' m (do modify g; m') := by
  intro s t hst
  obtain ⟨a, s', t', hs, ht, h'⟩ := hm s (g t) (h s t hst)
  exact ⟨a, s', t', hs, (ok_bind (modify_apply g t)).trans ht, h'⟩

lemma pure (a : α) (h : ∀ s t, R s t → R' s t) :
    Together R R' (pure a : StateT S (Except ε) α) (pure a : StateT T (Except ε) α) :=
  fun s t hst => ⟨a, s, t, rfl, rfl, h s t hst⟩

lemma reads {g : S → α} {g' : T → α} (h : ∀ s t, R s t → g s = g' t) :
    Together R R (reads g : StateT S (Except ε) α) (reads g' : StateT T (Except ε) α) :=
  fun s t hst => ⟨g s, s, t, rfl, by rw [h s t hst, reads_apply], hst⟩

lemma modify {g : S → S} {g' : T → T} (h : ∀ s t, R s t → R' (g s) (g' t)) :
    Together R R' (modify g : StateT S (Except ε) PUnit) (modify g' : StateT T (Except ε) PUnit) :=
  fun s t hst => ⟨⟨⟩, g s, g' t, rfl, rfl, h s t hst⟩

lemma whenever {c : Prop} [Decidable c] {m : StateT S (Except ε) Unit}
    {m' : StateT T (Except ε) Unit} (hm : Together R R' m m') (h : ∀ s t, R s t → R' s t) :
    Together R R' (whenever c m) (whenever c m') := by
  by_cases hc : c
  · rw [Program.whenever, if_pos hc, Program.whenever, if_pos hc]
    exact hm
  · rw [Program.whenever, if_neg hc, Program.whenever, if_neg hc]
    exact pure () h

end Together

end Program
