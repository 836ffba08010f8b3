import IncidentGate.Lib.Checkpoint

/-!
Scripts that ask questions of two kinds, and in the one kind do what another script does.

A script mirrors another if it makes the exchanges of the other, whatever it asks beside them, and
where it returns the other returns too. It may raise anywhere.
-/

namespace IncidentGate.Lib.Beside

open ScriptTree Checkpoint

variable {Q Q' : Type} {A : Q → Type} {A' : Q' → Type} {ε α β γ δ : Type}

/-- The answers to either kind of question. -/
@[reducible] def Either (A : Q → Type) (A' : Q' → Type) : Q ⊕ Q' → Type
  | .inl q => A q
  | .inr q => A' q

/-- A script among those that ask a second kind of question. -/
def beside : Script Q A ε α → Script (Q ⊕ Q') (Either A A') ε α
  | .ret a => .ret a
  | .raise e => .raise e
  | .ask q k => .ask (.inl q) fun a => beside (k a)

def left? : Exchange (Either A A') → Option (Exchange A)
  | ⟨.inl q, a⟩ => some ⟨q, a⟩
  | ⟨.inr _, _⟩ => none

/-- The exchanges of the first kind. -/
def lefts (h : List (Exchange (Either A A'))) : List (Exchange A) := h.filterMap left?

@[simp] lemma lefts_nil : lefts ([] : List (Exchange (Either A A'))) = [] := rfl

lemma lefts_append (h h' : List (Exchange (Either A A'))) : lefts (h ++ h') = lefts h ++ lefts h' :=
  List.filterMap_append

inductive Mirrors (rel : α → β → Prop) :
    Script (Q ⊕ Q') (Either A A') ε α → Script Q A ε β → Prop
  | ret {a : α} {b : β} (h : rel a b) : Mirrors rel (.ret a) (.ret b)
  | raise {e : ε} {p : Script Q A ε β} : Mirrors rel (.raise e) p
  | shared {q : Q} {k : A q → Script (Q ⊕ Q') (Either A A') ε α} {k' : A q → Script Q A ε β}
      (h : ∀ a, Mirrors rel (k a) (k' a)) : Mirrors rel (.ask (.inl q) k) (.ask q k')
  | own {q : Q'} {k : A' q → Script (Q ⊕ Q') (Either A A') ε α} {p : Script Q A ε β}
      (h : ∀ a, Mirrors rel (k a) p) : Mirrors rel (.ask (.inr q) k) p

/-- The script asks nothing of the first kind. -/
def Own (p : Script (Q ⊕ Q') (Either A A') ε α) : Prop := Mirrors (fun _ () => True) p (.ret ())

section
variable {rel : α → β → Prop} {p : Script (Q ⊕ Q') (Either A A') ε α} {p' : Script Q A ε β}
  {es : List (Exchange (Either A A'))}

lemma mirrors_beside (p : Script Q A ε α) :
    Mirrors (· = ·) (beside p : Script (Q ⊕ Q') (Either A A') ε α) p := by
  induction p with
  | ret a => exact .ret rfl
  | raise e => exact .raise
  | ask q k ih => exact .shared ih

lemma Mirrors.bind {rel' : γ → δ → Prop} {f : α → Script (Q ⊕ Q') (Either A A') ε γ}
    {g : β → Script Q A ε δ} (h : Mirrors rel p p')
    (hf : ∀ a b, rel a b → Mirrors rel' (f a) (g b)) : Mirrors rel' (p.bind f) (p'.bind g) := by
  induction h with
  | ret hrel => exact hf _ _ hrel
  | raise => exact .raise
  | shared _ ih => exact .shared ih
  | own _ ih => exact .own ih

/-- The work of another script, and then the rest. -/
lemma Mirrors.beside_bind {w : Script Q A ε γ} {f : γ → Script (Q ⊕ Q') (Either A A') ε α}
    {f' : γ → Script Q A ε β} (hf : ∀ c, Mirrors rel (f c) (f' c)) :
    Mirrors rel ((beside w).bind f) (w.bind f') :=
  (mirrors_beside w).bind fun c _ hc => hc ▸ hf c

lemma Own.bind {w : Script (Q ⊕ Q') (Either A A') ε γ}
    {f : γ → Script (Q ⊕ Q') (Either A A') ε α} (hw : Own w) (hf : ∀ c, Mirrors rel (f c) p') :
    Mirrors rel (w.bind f) p' := Mirrors.bind (g := fun _ => p') hw fun c _ _ => hf c

/-- On its way the script has made the other's exchanges. -/
lemma Mirrors.along {q : Script (Q ⊕ Q') (Either A A') ε α} (h : Mirrors rel p p')
    (halong : Along p es q) : ∃ q', Along p' (lefts es) q' ∧ Mirrors rel q q' := by
  induction h generalizing es with
  | ret hrel =>
    cases halong
    exact ⟨_, .here _, .ret hrel⟩
  | raise =>
    cases halong
    exact ⟨_, .here _, .raise⟩
  | shared hk ih =>
    cases halong with
    | here => exact ⟨_, .here _, .shared hk⟩
    | ask hrest =>
      obtain ⟨q', hrest, hq⟩ := ih _ hrest
      exact ⟨q', .ask hrest, hq⟩
  | own hk ih =>
    cases halong with
    | here => exact ⟨_, .here _, .own hk⟩
    | ask hrest =>
      obtain ⟨q', hrest, hq⟩ := ih _ hrest
      exact ⟨q', hrest, hq⟩

lemma Mirrors.returns {a : α} (h : Mirrors rel p p') (halong : Along p es (.ret a)) :
    ∃ b, rel a b ∧ Along p' (lefts es) (.ret b) := by
  obtain ⟨q', halong, hq⟩ := h.along halong
  cases hq with
  | ret hrel => exact ⟨_, hrel, halong⟩

lemma Own.lefts {q : Script (Q ⊕ Q') (Either A A') ε α} (h : Own p) (halong : Along p es q) :
    lefts es = [] := by
  obtain ⟨q', halong, -⟩ := Mirrors.along h halong
  generalize Beside.lefts es = es' at halong
  cases halong
  rfl

end

end IncidentGate.Lib.Beside
