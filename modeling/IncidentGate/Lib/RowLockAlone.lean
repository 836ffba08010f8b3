import IncidentGate.Lib.RowLock

/-!
A logic for one transaction that no other session disturbs.

Its assertions are about the state the transaction sees: the committed one under its own
writes. What the counters hold, what the outside world answers and, if the server may give
statements up, where it does so are not known.
-/

namespace IncidentGate.Lib.RowLockAlone

open ScriptTree ScriptTree.Script RowLock

variable {E : Engine} {ε α β : Type}

section
variable (F : Prop)

/-- Every run of the program from the state it sees ends in `Q` and ends no transaction. The
server may give statements up only if `F`. -/
def alone : Prog E ε α → (Except ε α → E.Db → Prop) → E.Db → Prop
  | .ret a, Q, V => Q (.ok a) V
  | .raise e, Q, V => Q (.error e) V
  | .ask (.stmt q) k, Q, V =>
      (∀ s s' r ws, E.exec q s V = (s', .ok (r, ws)) → alone (k (.ok r)) Q (view V ws)) ∧
      (∀ s s' e, E.exec q s V = (s', .error e) → alone (k (.error e)) Q V) ∧
      (F → alone (k (.error E.failure)) Q V)
  | .ask .commit _, _, _ => False
  | .ask .rollback _, _, _ => False
  | .ask (.input _) k, Q, V => ∀ a, alone (k a) Q V

/-- The ends of a program: a post-condition on success and one on an exception. -/
def ends (ok : α → E.Db → Prop) (err : ε → E.Db → Prop) : Except ε α → E.Db → Prop
  | .ok a, V => ok a V
  | .error e, V => err e V

end

variable {F : Prop} {p : Prog E ε α} {V : E.Db}

@[simp] lemma ends_ok (ok : α → E.Db → Prop) (err : ε → E.Db → Prop) (a : α) (V : E.Db) :
    ends ok err (.ok a) V ↔ ok a V := Iff.rfl

@[simp] lemma ends_error (ok : α → E.Db → Prop) (err : ε → E.Db → Prop) (e : ε) (V : E.Db) :
    ends ok err (.error e) V ↔ err e V := Iff.rfl

lemma alone_mono {Q Q' : Except ε α → E.Db → Prop} (hQ : ∀ r V, Q r V → Q' r V)
    (h : alone F p Q V) : alone F p Q' V := by
  induction p generalizing V with
  | ret a => exact hQ _ _ h
  | raise e => exact hQ _ _ h
  | ask q k ih =>
    cases q with
    | stmt q =>
      obtain ⟨hok, herr, hfail⟩ := h
      exact ⟨fun s s' r ws he => ih _ (hok s s' r ws he),
        fun s s' e he => ih _ (herr s s' e he), fun hF => ih _ (hfail hF)⟩
    | commit => exact h
    | rollback => exact h
    | input i => exact fun a => ih _ (h a)

/-- The rule for one script after another. -/
lemma alone_bind {ok : β → E.Db → Prop} {err : ε → E.Db → Prop} {f : α → Prog E ε β}
    (h : alone F p (ends (fun a V => alone F (f a) (ends ok err) V) err) V) :
    alone F (p.bind f) (ends ok err) V := by
  induction p generalizing V with
  | ret a => exact h
  | raise e => exact h
  | ask q k ih =>
    cases q with
    | stmt q =>
      obtain ⟨hok, herr, hfail⟩ := h
      exact ⟨fun s s' r ws he => ih _ (hok s s' r ws he),
        fun s s' e he => ih _ (herr s s' e he), fun hF => ih _ (hfail hF)⟩
    | commit => exact h.elim
    | rollback => exact h.elim
    | input i => exact fun a => ih _ (h a)

/-- The run of the session is one of those the logic speaks of, and it commits nothing. -/
theorem solo_alone {w : World E} (hF : ∀ n, w.fails n → F) {Q : Except ε α → E.Db → Prop}
    {σ : Solo E} (h : alone F p Q (view σ.db σ.wrote)) :
    Q (solo w p σ).1 (view (solo w p σ).2.db (solo w p σ).2.wrote) ∧
      (solo w p σ).2.db = σ.db := by
  induction p generalizing σ with
  | ret a => exact ⟨h, rfl⟩
  | raise e => exact ⟨h, rfl⟩
  | ask q k ih =>
    cases q with
    | stmt q =>
      obtain ⟨hok, herr, hfail⟩ := h
      simp only [solo]
      split
      · rename_i hn
        exact ih _ (hfail (hF _ hn))
      · split
        · rename_i he
          have hnext := hok _ _ _ _ he
          rw [← view_append] at hnext
          exact ih _ hnext
        · rename_i he
          exact ih _ (herr _ _ _ he)
    | commit => exact h.elim
    | rollback => exact h.elim
    | input i => exact ih _ (h _)

/-! ### A run read backwards -/

/-- What a session alone sees: the committed state under its own writes. -/
def sight (σ : Solo E) : E.Db := view σ.db σ.wrote

variable {w : World E} {σ σ' : Solo E}

lemma sight_eq (h : σ.wrote = []) : sight σ = σ.db := by rw [sight, h, view_nil]

lemma solo_bind_ok {f : α → Prog E ε β} {b : β} (h : solo w (p.bind f) σ = (.ok b, σ')) :
    ∃ a τ, solo w p σ = (.ok a, τ) ∧ solo w (f a) τ = (.ok b, σ') := by
  rw [bind_eq_elim, solo_elim] at h
  generalize solo w p σ = out at h ⊢
  obtain ⟨r, τ⟩ := out
  cases r with
  | ok a => exact ⟨a, τ, rfl, h⟩
  | error e => cases h

lemma solo_bind_eq {f : α → Prog E ε β} {a : α} (h : solo w p σ = (.ok a, σ')) :
    solo w (p.bind f) σ = solo w (f a) σ' := by
  rw [bind_eq_elim, solo_elim, h]

lemma solo_uncommitted {R : ε → Prop} (hp : p.Within (· ≠ .commit) R) :
    (solo w p σ).2.db = σ.db := by
  induction p generalizing σ with
  | ret a => rfl
  | raise e => rfl
  | ask q k ih =>
    cases q with
    | stmt q =>
      simp only [solo]
      split
      · exact ih _ (hp.2 _)
      · split
        · exact ih _ (hp.2 _)
        · exact ih _ (hp.2 _)
    | commit => exact absurd rfl hp.1
    | rollback => exact ih _ (hp.2 _)
    | input i => exact ih _ (hp.2 _)

/-- What a session alone sees keeps an invariant that each of its statements keeps, as long as
it takes nothing back. -/
lemma solo_sight {S : Op E → Prop} {X : ε → Prop} {I : E.Db → Prop}
    (hS : ∀ q, S (.stmt q) → ∀ s V s' r ws, I V → E.exec q s V = (s', .ok (r, ws)) →
      I (view V ws)) (hrollback : ¬ S .rollback) (hp : p.Within S X) (hI : I (sight σ)) :
    I (sight (solo w p σ).2) := by
  induction p generalizing σ with
  | ret a => exact hI
  | raise e => exact hI
  | ask q k ih =>
    cases q with
    | stmt q =>
      simp only [solo]
      split
      · exact ih _ (hp.2 _) hI
      · split
        · rename_i he
          refine ih _ (hp.2 _) ?_
          rw [sight, view_append]
          exact hS q hp.1 _ _ _ _ _ hI he
        · exact ih _ (hp.2 _) hI
    | commit => exact ih _ (hp.2 _) hI
    | rollback => exact absurd hp.1 hrollback
    | input i => exact ih _ (hp.2 _) hI

end IncidentGate.Lib.RowLockAlone
