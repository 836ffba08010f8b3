import IncidentGate.Lib.ScriptTree
import Mathlib.Data.Nat.Notation
import Mathlib.Logic.Function.Basic
import Mathlib.Logic.Relation

/-!
Scripts that run side by side over one shared world.

A step is one question of one party's script, answered by the world. What a party asserts is
proved against everything that the others may do to the world meanwhile, and then holds in
every run. A party that is never scheduled again has crashed.
-/

namespace IncidentGate.Lib.Interleaving

open ScriptTree

variable {Q : Type} {A : Q → Type} {ε α W : Type}

structure System (Q : Type) (A : Q → Type) (ε α W : Type) where
  world : W
  script : ℕ → Script Q A ε α

/-- How a party's script ended. -/
def outcome (s : System Q A ε α W) (i : ℕ) : Option (Except ε α) :=
  match s.script i with
  | .ret a => some (.ok a)
  | .raise e => some (.error e)
  | .ask _ _ => none

variable (exec : ℕ → (q : Q) → W → A q → W → Prop)

/-- The world answers the question that a party has come to. -/
inductive Step (i : ℕ) (s : System Q A ε α W) : System Q A ε α W → Prop where
  | answer {q : Q} {k : A q → Script Q A ε α} {a : A q} {w : W} (hq : s.script i = .ask q k)
    (ha : exec i q s.world a w) : Step i s ⟨w, Function.update s.script i (k a)⟩

def Run : System Q A ε α W → System Q A ε α W → Prop :=
  Relation.ReflTransGen fun s s' => ∃ i, Step exec i s s'

/-- What a party may rely on, and what each of its steps promises: a step from one world to
another with a script left to run. -/
structure Terms (Q : Type) (A : Q → Type) (ε α W : Type) where
  rely : ℕ → W → W → Prop
  promise : ℕ → W → W → Script Q A ε α → Prop
  refl : ∀ i w, rely i w w
  trans : ∀ {i w w' w''}, rely i w w' → rely i w' w'' → rely i w w''
  keeps : ∀ {i j w w' p}, promise i w w' p → j ≠ i → rely j w w'

variable (T : Terms Q A ε α W)

/-- The script keeps its promises and ends as `P` says, whatever the others do. -/
def Sure (i : ℕ) : Script Q A ε α → (Except ε α → W → Prop) → W → Prop
  | .ret a, P, w => P (.ok a) w
  | .raise e, P, w => P (.error e) w
  | .ask q k, P, w => ∀ w₁, T.rely i w w₁ → ∀ a w₂, exec i q w₁ a w₂ →
    T.promise i w₁ w₂ (k a) ∧ Sure i (k a) P w₂

/-- What a party asserts survives what the others do. -/
def Stable (i : ℕ) (P : Except ε α → W → Prop) : Prop :=
  ∀ o w w', T.rely i w w' → P o w → P o w'

variable {exec T} {i : ℕ} {p : Script Q A ε α} {P : Except ε α → W → Prop} {w w' : W}
  {s s' : System Q A ε α W}

lemma Sure.stable (hP : Stable T i P) (h : Sure exec T i p P w) (hw : T.rely i w w') :
    Sure exec T i p P w' := by
  cases p with
  | ret a => exact hP _ _ _ hw h
  | raise e => exact hP _ _ _ hw h
  | ask q k => exact fun w₁ h₁ => h w₁ (T.trans hw h₁)

variable (exec T) in
/-- Every party is sure of its assertion. -/
def AllSure (P : ℕ → Except ε α → W → Prop) (s : System Q A ε α W) : Prop :=
  ∀ i, Sure exec T i (s.script i) (P i) s.world

variable {P : ℕ → Except ε α → W → Prop}

/-- One step keeps its promise, and leaves every party sure. -/
theorem AllSure.step (hP : ∀ i, Stable T i (P i)) (h : AllSure exec T P s)
    (hstep : Step exec i s s') :
    T.promise i s.world s'.world (s'.script i) ∧ AllSure exec T P s' := by
  obtain ⟨hq, ha⟩ := hstep
  have hi := h i
  rw [hq] at hi
  obtain ⟨hpromise, hrest⟩ := hi s.world (T.refl i _) _ _ ha
  refine ⟨by simpa using hpromise, fun j => ?_⟩
  by_cases hj : j = i
  · subst hj
    simpa using hrest
  · simpa [hj] using (h j).stable (hP j) (T.keeps hpromise hj)

theorem AllSure.run (hP : ∀ i, Stable T i (P i)) (h : AllSure exec T P s)
    (hrun : Run exec s s') : AllSure exec T P s' := by
  induction hrun with
  | refl => exact h
  | tail _ hstep ih =>
    obtain ⟨i, hstep⟩ := hstep
    exact (ih.step hP hstep).2

/-- What every kept promise preserves is preserved by a run. -/
theorem AllSure.preserves (hP : ∀ i, Stable T i (P i)) (h : AllSure exec T P s)
    {I : System Q A ε α W → Prop}
    (hI : ∀ i s s', Step exec i s s' → T.promise i s.world s'.world (s'.script i) →
      I s → I s')
    (hrun : Run exec s s') (hs : I s) : I s' := by
  induction hrun with
  | refl => exact hs
  | tail hrun hstep ih =>
    obtain ⟨i, hstep⟩ := hstep
    exact hI i _ _ hstep ((h.run hP hrun).step hP hstep).1 ih

lemma AllSure.outcome (h : AllSure exec T P s) {o : Except ε α} (ho : outcome s i = some o) :
    P i o s.world := by
  have hi := h i
  unfold Interleaving.outcome at ho
  split at ho
  · rename_i a hs
    cases ho
    rwa [hs] at hi
  · rename_i e hs
    cases ho
    rwa [hs] at hi
  · cases ho

/-- A party may assert anything else that it is sure of from some state on. -/
theorem AllSure.later (hP : ∀ i, Stable T i (P i)) (h : AllSure exec T P s)
    {R : Except ε α → W → Prop} (hR : Stable T i R) (hi : Sure exec T i (s.script i) R s.world)
    (hrun : Run exec s s') {o : Except ε α} (ho : Interleaving.outcome s' i = some o) :
    R o s'.world := by
  have hstable : ∀ j, Stable T j (Function.update P i R j) := by
    intro j
    by_cases hj : j = i
    · subst hj
      simpa using hR
    · simpa [hj] using hP j
  have hsure : AllSure exec T (Function.update P i R) s := by
    intro j
    by_cases hj : j = i
    · subst hj
      simpa using hi
    · simpa [hj] using h j
  simpa using (hsure.run hstable hrun).outcome ho

lemma Run.ask {q : Q} {k : A q → Script Q A ε α} {a : A q} (hq : s.script i = .ask q k)
    (ha : exec i q s.world a w') (h : Run exec ⟨w', Function.update s.script i (k a)⟩ s') :
    Run exec s s' :=
  .head ⟨i, .answer hq ha⟩ h

/-- A party's script is not touched by the steps of others, and its ends only get fewer. -/
lemma Step.ends (hstep : Step exec i s s') {j : ℕ} {E : Except ε α → Prop}
    (h : (s.script j).Ends E) : (s'.script j).Ends E := by
  obtain ⟨hq, ha⟩ := hstep
  by_cases hj : j = i
  · subst hj
    rw [hq] at h
    simpa using h _
  · simpa [hj] using h

lemma Run.ends (hrun : Run exec s s') {j : ℕ} {E : Except ε α → Prop}
    (h : (s.script j).Ends E) : (s'.script j).Ends E := by
  induction hrun with
  | refl => exact h
  | tail _ hstep ih =>
    obtain ⟨i, hstep⟩ := hstep
    exact hstep.ends ih

lemma outcome_of_ends {E : Except ε α → Prop} (h : (s.script i).Ends E) {o : Except ε α}
    (ho : outcome s i = some o) : E o := by
  unfold Interleaving.outcome at ho
  split at ho
  · rename_i a hs
    cases ho
    rwa [hs] at h
  · rename_i e hs
    cases ho
    rwa [hs] at h
  · cases ho

/-! ### One party alone -/

section
variable (answer : (q : Q) → W → A q × W)

/-- How a script ends that runs by itself in a world with one answer to each question. -/
def alone : Script Q A ε α → W → Except ε α × W
  | .ret a, w => (.ok a, w)
  | .raise e, w => (.error e, w)
  | .ask q k, w => alone (k (answer q w).1) (answer q w).2

variable {answer}

lemma alone_elim {ε' β : Type} {f : Except ε α → Script Q A ε' β} :
    alone answer (p.elim f) w = alone answer (f (alone answer p w).1) (alone answer p w).2 := by
  induction p generalizing w with
  | ret a => rfl
  | raise e => rfl
  | ask q k ih => exact ih (answer q w).1

lemma alone_ofExcept (r : Except ε α) :
    alone answer (.ofExcept r : Script Q A ε α) w = (r, w) := by
  cases r <;> rfl

/-- Running by itself is one of the runs of a system. -/
theorem run_alone (hanswer : ∀ q w, exec i q w (answer q w).1 (answer q w).2)
    (hs : s.script i = p) :
    Run exec s ⟨(alone answer p s.world).2,
      Function.update s.script i (.ofExcept (alone answer p s.world).1)⟩ := by
  induction p generalizing s with
  | ret a =>
    have hself : Function.update s.script i (.ret a) = s.script := by
      rw [← hs, Function.update_eq_self]
    simp only [alone, Script.ofExcept_ok, hself]
    exact .refl
  | raise e =>
    have hself : Function.update s.script i (.raise e) = s.script := by
      rw [← hs, Function.update_eq_self]
    simp only [alone, Script.ofExcept_error, hself]
    exact .refl
  | ask q k ih =>
    refine .ask hs (hanswer q s.world) ?_
    have hrest := ih (answer q s.world).1
      (s := ⟨(answer q s.world).2, Function.update s.script i (k (answer q s.world).1)⟩)
      (Function.update_self ..)
    rw [Function.update_idem] at hrest
    exact hrest

end

end IncidentGate.Lib.Interleaving
