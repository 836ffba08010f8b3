import IncidentGate.Lib.ScriptTree
import Mathlib.Data.Nat.Notation

/-!
Graphs whose state is checkpointed between their nodes, over dependencies that may answer anything.

A visit of a node is a script: it asks, and returns where to go and the state that is checkpointed
there. A visit may be lost at any point of it, and then the node is visited again on the state of
the last checkpoint. What the dependencies were asked and answered is the history of a run.
-/

namespace IncidentGate.Lib.Checkpoint

open ScriptTree

variable {Q : Type} {A : Q → Type} {ε N S α β : Type}

/-- A question and its answer. -/
abbrev Exchange (A : Q → Type) := (q : Q) × A q

/-! ### Scripts and their histories -/

lemma bind_bind {γ : Type} (p : Script Q A ε α) (f : α → Script Q A ε β)
    (g : β → Script Q A ε γ) : (p.bind f).bind g = p.bind fun a => (f a).bind g := by
  induction p with
  | ret a => rfl
  | raise e => rfl
  | ask q k ih => simp only [Script.bind_ask, ih]

/-- The script makes the exchanges and is left with the rest of it. -/
inductive Along : Script Q A ε α → List (Exchange A) → Script Q A ε α → Prop
  | here (p : Script Q A ε α) : Along p [] p
  | ask {q : Q} {k : A q → Script Q A ε α} {a : A q} {es : List (Exchange A)}
      {p : Script Q A ε α} (h : Along (k a) es p) : Along (.ask q k) (⟨q, a⟩ :: es) p

/-- Every question that the script asks satisfies `K`, and wherever it returns, `P` holds of the
history until there and of what is returned. -/
def Ensures (K : Q → Prop) (P : List (Exchange A) → α → Prop) :
    List (Exchange A) → Script Q A ε α → Prop
  | h, .ret a => P h a
  | _, .raise _ => True
  | h, .ask q k => K q ∧ ∀ a, Ensures K P (h ++ [⟨q, a⟩]) (k a)

section
variable {K K' : Q → Prop} {P P' : List (Exchange A) → α → Prop} {h es : List (Exchange A)}
  {p p' : Script Q A ε α}

@[simp] lemma ensures_ret (a : α) : Ensures K P h (.ret a : Script Q A ε α) ↔ P h a := .rfl

@[simp] lemma ensures_raise (e : ε) : Ensures K P h (.raise e : Script Q A ε α) ↔ True := .rfl

@[simp] lemma ensures_ask (q : Q) (k : A q → Script Q A ε α) :
    Ensures K P h (.ask q k) ↔ K q ∧ ∀ a, Ensures K P (h ++ [⟨q, a⟩]) (k a) := .rfl

@[simp] lemma ensures_bind {f : α → Script Q A ε β} {P : List (Exchange A) → β → Prop} :
    Ensures K P h (p.bind f) ↔ Ensures K (fun h a => Ensures K P h (f a)) h p := by
  induction p generalizing h with
  | ret a => exact .rfl
  | raise e => exact .rfl
  | ask q k ih => exact and_congr_right' (forall_congr' fun a => ih a)

lemma Ensures.mono (hp : Ensures K P h p) (hK : ∀ q, K q → K' q) (hP : ∀ h a, P h a → P' h a) :
    Ensures K' P' h p := by
  induction p generalizing h with
  | ret a => exact hP h a hp
  | raise e => trivial
  | ask q k ih => exact ⟨hK q hp.1, fun a => ih a (hp.2 a)⟩

lemma Ensures.and (hp : Ensures K P h p) (hp' : Ensures K' P' h p) :
    Ensures (fun q => K q ∧ K' q) (fun h a => P h a ∧ P' h a) h p := by
  induction p generalizing h with
  | ret a => exact ⟨hp, hp'⟩
  | raise e => trivial
  | ask q k ih => exact ⟨⟨hp.1, hp'.1⟩, fun a => ih a (hp.2 a) (hp'.2 a)⟩

lemma ensures_top (h : List (Exchange A)) (p : Script Q A ε α) :
    Ensures (fun _ => True) (fun _ _ => True) h p := by
  induction p generalizing h with
  | ret a => trivial
  | raise e => trivial
  | ask q k ih => exact ⟨trivial, fun a => ih a _⟩

lemma Ensures.history (hp : Ensures K P h p) :
    Ensures K (fun h' a => P h' a ∧ ∃ es, h' = h ++ es ∧ ∀ e ∈ es, K e.1) h p := by
  suffices hall : ∀ h₀ es₀ : List (Exchange A), h = h₀ ++ es₀ → (∀ e ∈ es₀, K e.1) →
      Ensures K (fun h' a => P h' a ∧ ∃ es, h' = h₀ ++ es ∧ ∀ e ∈ es, K e.1) h p from
    hall h [] (by simp) (by simp)
  intro h₀ es₀ hsplit hes₀
  induction p generalizing h es₀ with
  | ret a => exact ⟨hp, es₀, hsplit, hes₀⟩
  | raise e => trivial
  | ask q k ih =>
    refine ⟨hp.1, fun a => ih a (hp.2 a) (es₀ ++ [⟨q, a⟩]) (by simp [hsplit]) ?_⟩
    intro e he
    rcases List.mem_append.mp he with he | he
    · exact hes₀ e he
    · rw [List.mem_singleton.mp he]
      exact hp.1

lemma Ensures.returns {a : α} (hp : Ensures K P h p) (halong : Along p es (.ret a)) :
    P (h ++ es) a := by
  induction es generalizing h p with
  | nil =>
    cases halong
    rw [List.append_nil]
    exact hp
  | cons e es ih =>
    cases halong with
    | ask hrest => simpa using ih (hp.2 _) hrest

lemma Ensures.asked (hp : Ensures K P h p) (halong : Along p es p') : ∀ e ∈ es, K e.1 := by
  induction halong generalizing h with
  | here => simp
  | ask hrest ih =>
    rintro e (_ | ⟨_, he⟩)
    · exact hp.1
    · exact ih (hp.2 _) e he

lemma along_append {p'' : Script Q A ε α} {es' : List (Exchange A)} :
    Along p (es ++ es') p'' ↔ ∃ p', Along p es p' ∧ Along p' es' p'' := by
  constructor
  · intro h
    induction es generalizing p with
    | nil => exact ⟨p, .here p, h⟩
    | cons e es ih =>
      cases h with
      | ask hrest =>
        obtain ⟨p', h₁, h₂⟩ := ih hrest
        exact ⟨p', .ask h₁, h₂⟩
  · rintro ⟨p', h₁, h₂⟩
    induction h₁ with
    | here => exact h₂
    | ask _ ih => exact .ask (ih h₂)

/-- A script that goes on with what another returns: it is on its way through the first, or through
the second. -/
lemma along_bind {f : α → Script Q A ε β} {p' : Script Q A ε β} (h : Along (p.bind f) es p') :
    (∃ p₁, p' = p₁.bind f ∧ Along p es p₁) ∨
      ∃ es₁ es₂ a, es = es₁ ++ es₂ ∧ Along p es₁ (.ret a) ∧ Along (f a) es₂ p' := by
  induction p generalizing es with
  | ret a => exact .inr ⟨[], es, a, rfl, .here _, h⟩
  | raise e =>
    cases h
    exact .inl ⟨_, rfl, .here _⟩
  | ask q k ih =>
    cases h with
    | here => exact .inl ⟨_, rfl, .here _⟩
    | ask hrest =>
      rcases ih _ hrest with ⟨p₁, rfl, h₁⟩ | ⟨es₁, es₂, a, rfl, h₁, h₂⟩
      · exact .inl ⟨p₁, rfl, .ask h₁⟩
      · exact .inr ⟨_ :: es₁, es₂, a, rfl, .ask h₁, h₂⟩

lemma along_ret {a b : α} (h : Along (.ret a : Script Q A ε α) es (.ret b)) : es = [] ∧ b = a := by
  cases h
  exact ⟨rfl, rfl⟩

lemma along_bind_ret {f : α → Script Q A ε β} {b : β} (h : Along (p.bind f) es (.ret b)) :
    ∃ es₁ es₂ a, es = es₁ ++ es₂ ∧ Along p es₁ (.ret a) ∧ Along (f a) es₂ (.ret b) := by
  rcases along_bind h with ⟨p₁, hret, h₁⟩ | h
  · cases p₁ with
    | ret a => exact ⟨es, [], a, (List.append_nil es).symm, h₁, by rw [hret]; exact .here _⟩
    | _ => cases hret
  · exact h

end

/-! ### Graphs and runs -/

structure Graph (N S : Type) (A : Q → Type) (ε : Type) where
  start : N
  /-- Where to go, or nothing at the end, with the state that is checkpointed. -/
  visit : N → S → Script Q A ε (Option N × S)

/-- A run from the first checkpoint on: its history, where it is, and the last checkpoint. -/
inductive Run (G : Graph N S A ε) (s₀ : S) : List (Exchange A) → Option N → S → Prop
  | start : Run G s₀ [] (some G.start) s₀
  | completed {h es : List (Exchange A)} {n : N} {s s' : S} {n' : Option N}
      (hrun : Run G s₀ h (some n) s) (hvisit : Along (G.visit n s) es (.ret (n', s'))) :
      Run G s₀ (h ++ es) n' s'
  | lost {h es : List (Exchange A)} {n : N} {s : S} {p : Script Q A ε (Option N × S)}
      (hrun : Run G s₀ h (some n) s) (hvisit : Along (G.visit n s) es p) :
      Run G s₀ (h ++ es) (some n) s

/-- A run, with the nodes whose visits were completed on it. -/
inductive Visited (G : Graph N S A ε) (s₀ : S) :
    List N → List (Exchange A) → Option N → S → Prop
  | start : Visited G s₀ [] [] (some G.start) s₀
  | completed {ns : List N} {h es : List (Exchange A)} {n : N} {s s' : S} {n' : Option N}
      (hrun : Visited G s₀ ns h (some n) s) (hvisit : Along (G.visit n s) es (.ret (n', s'))) :
      Visited G s₀ (ns ++ [n]) (h ++ es) n' s'
  | lost {ns : List N} {h es : List (Exchange A)} {n : N} {s : S}
      {p : Script Q A ε (Option N × S)} (hrun : Visited G s₀ ns h (some n) s)
      (hvisit : Along (G.visit n s) es p) : Visited G s₀ ns (h ++ es) (some n) s

/-- A run that loses no visit, with the nodes it visited. -/
inductive Direct (G : Graph N S A ε) (n₀ : Option N) (s₀ : S) :
    List N → List (Exchange A) → Option N → S → Prop
  | start : Direct G n₀ s₀ [] [] n₀ s₀
  | completed {ns : List N} {h es : List (Exchange A)} {n : N} {s s' : S} {n' : Option N}
      (hrun : Direct G n₀ s₀ ns h (some n) s) (hvisit : Along (G.visit n s) es (.ret (n', s'))) :
      Direct G n₀ s₀ (ns ++ [n]) (h ++ es) n' s'

/-- An invariant of the runs, in which a visit asks only what `K` admits there. -/
structure Invariant (G : Graph N S A ε) (s₀ : S) (K : N → S → Q → Prop)
    (I : Option N → List (Exchange A) → S → Prop) : Prop where
  start : I (some G.start) [] s₀
  kept : ∀ {n h s q}, I (some n) h s → K n s q → ∀ a, I (some n) (h ++ [⟨q, a⟩]) s
  visited : ∀ {n h s}, I (some n) h s →
    Ensures (K n s) (fun h' r => I r.1 h' r.2) h (G.visit n s)

section
variable {G : Graph N S A ε} {s₀ s : S} {K : N → S → Q → Prop}
  {I : Option N → List (Exchange A) → S → Prop} {h : List (Exchange A)} {n : Option N}

lemma Invariant.kept_all (hI : Invariant G s₀ K I) {n : N} (hn : I (some n) h s)
    {es : List (Exchange A)} (hes : ∀ e ∈ es, K n s e.1) : I (some n) (h ++ es) s := by
  induction es generalizing h with
  | nil => simpa using hn
  | cons e es ih =>
    have hnext := hI.kept hn (hes e (by simp)) e.2
    simpa using ih hnext fun e' he' => hes e' (List.mem_cons_of_mem _ he')

lemma Invariant.run (hI : Invariant G s₀ K I) (hrun : Run G s₀ h n s) : I n h s := by
  induction hrun with
  | start => exact hI.start
  | completed _ hvisit ih => exact (hI.visited ih).returns hvisit
  | lost _ hvisit ih => exact hI.kept_all ih ((hI.visited ih).asked hvisit)

/-- Whatever a run asked, it asked on a visit of a node that it had come to. -/
lemma Run.asked (hrun : Run G s₀ h n s) {e : Exchange A} {h₁ h₂ : List (Exchange A)}
    (hsplit : h = h₁ ++ e :: h₂) : ∃ h₀ es n' s' p, h₁ = h₀ ++ es ∧ Run G s₀ h₀ (some n') s' ∧
      Along (G.visit n' s') (es ++ [e]) p := by
  have hvisit : ∀ {h es : List (Exchange A)} {n : N} {s : S} {p : Script Q A ε (Option N × S)},
      Run G s₀ h (some n) s → Along (G.visit n s) es p →
      (∀ h₂, h = h₁ ++ e :: h₂ → ∃ h₀ es n' s' p, h₁ = h₀ ++ es ∧ Run G s₀ h₀ (some n') s' ∧
        Along (G.visit n' s') (es ++ [e]) p) →
      ∀ h₂, h ++ es = h₁ ++ e :: h₂ → ∃ h₀ es n' s' p, h₁ = h₀ ++ es ∧
        Run G s₀ h₀ (some n') s' ∧ Along (G.visit n' s') (es ++ [e]) p := by
    intro h es n s p hrun halong hbefore h₂ hsplit
    have hthis : ∀ {t}, h₁ = h ++ t → es = t ++ e :: h₂ → ∃ h₀ es n' s' p, h₁ = h₀ ++ es ∧
        Run G s₀ h₀ (some n') s' ∧ Along (G.visit n' s') (es ++ [e]) p := by
      rintro t hbefore rfl
      rw [List.append_cons] at halong
      obtain ⟨p', halong, -⟩ := along_append.mp halong
      exact ⟨h, t, n, s, p', hbefore, hrun, halong⟩
    rcases List.append_eq_append_iff.mp hsplit with ⟨t, ht, hes⟩ | ⟨t, ht, hes⟩
    · exact hthis ht hes
    · rcases t with _ | ⟨e', t⟩
      · refine @hthis [] ?_ ?_
        · simpa using ht.symm
        · simpa using hes.symm
      · obtain ⟨rfl, -⟩ := List.cons_eq_cons.mp hes
        exact hbefore t ht
  induction hrun generalizing h₂ with
  | start => simp at hsplit
  | completed hrun halong ih => exact hvisit hrun halong (fun _ => ih) h₂ hsplit
  | lost hrun halong ih => exact hvisit hrun halong (fun _ => ih) h₂ hsplit

lemma Invariant.asked (hI : Invariant G s₀ K I) (hrun : Run G s₀ h n s) {e : Exchange A}
    {h₁ h₂ : List (Exchange A)} (hsplit : h = h₁ ++ e :: h₂) :
    ∃ n' s', I (some n') h₁ s' ∧ K n' s' e.1 := by
  obtain ⟨h₀, es, n', s', p, rfl, hbefore, halong⟩ := hrun.asked hsplit
  have hn := hI.run hbefore
  have hasked := (hI.visited hn).asked halong
  exact ⟨n', s', hI.kept_all hn fun e' he' => hasked e' (List.mem_append_left _ he'),
    hasked e (by simp)⟩

lemma Run.visited (hrun : Run G s₀ h n s) : ∃ ns, Visited G s₀ ns h n s := by
  induction hrun with
  | start => exact ⟨[], .start⟩
  | completed _ hvisit ih =>
    obtain ⟨ns, hvisited⟩ := ih
    exact ⟨_, hvisited.completed hvisit⟩
  | lost _ hvisit ih =>
    obtain ⟨ns, hvisited⟩ := ih
    exact ⟨ns, hvisited.lost hvisit⟩

/-- Whatever was lost and visited again, a run is where one that lost nothing is, on some of the
answers that it was given. -/
lemma Visited.direct {ns : List N} (hvisited : Visited G s₀ ns h n s) :
    ∃ h', List.Sublist h' h ∧ Direct G (some G.start) s₀ ns h' n s := by
  induction hvisited with
  | start => exact ⟨[], .slnil, .start⟩
  | completed _ hvisit ih =>
    obtain ⟨h', hsub, hdirect⟩ := ih
    exact ⟨_, hsub.append (.refl _), hdirect.completed hvisit⟩
  | lost _ _ ih =>
    obtain ⟨h', hsub, hdirect⟩ := ih
    exact ⟨h', hsub.trans (List.sublist_append_left _ _), hdirect⟩

lemma Run.direct (hrun : Run G s₀ h n s) :
    ∃ ns h', List.Sublist h' h ∧ Direct G (some G.start) s₀ ns h' n s := by
  obtain ⟨ns, hvisited⟩ := hrun.visited
  exact ⟨ns, hvisited.direct⟩

lemma Direct.run {ns : List N} (hdirect : Direct G (some G.start) s₀ ns h n s) :
    Run G s₀ h n s := by
  induction hdirect with
  | start => exact .start
  | completed _ hvisit ih => exact ih.completed hvisit

/-- What every completed visit keeps. -/
structure Keeps (G : Graph N S A ε) (s₀ : S) (J : List (Exchange A) → Option N → S → Prop) :
    Prop where
  start : J [] (some G.start) s₀
  visited : ∀ {h n s es n' s'}, J h (some n) s → Along (G.visit n s) es (.ret (n', s')) →
    J (h ++ es) n' s'

lemma Keeps.direct {J : List (Exchange A) → Option N → S → Prop} (hJ : Keeps G s₀ J) {ns : List N}
    (hdirect : Direct G (some G.start) s₀ ns h n s) : J h n s := by
  induction hdirect with
  | start => exact hJ.start
  | completed _ hvisit ih => exact hJ.visited ih hvisit

/-- A rank that every completed visit lowers bounds the visits. -/
lemma Keeps.length_le {J : List (Exchange A) → Option N → S → Prop} (hJ : Keeps G s₀ J)
    (rank : Option N → S → ℕ)
    (hrank : ∀ {h n s es n' s'}, J h (some n) s → Along (G.visit n s) es (.ret (n', s')) →
      rank n' s' < rank (some n) s)
    {ns : List N} (hdirect : Direct G (some G.start) s₀ ns h n s) :
    ns.length + rank n s ≤ rank (some G.start) s₀ := by
  induction hdirect with
  | start => simp
  | completed hdirect hvisit ih =>
    have hlower := hrank (hJ.direct hdirect) hvisit
    simp only [List.length_append, List.length_singleton]
    omega

end

/-! ### Runs in an environment -/

/-- What the dependencies raise on, and what they may answer. -/
structure Environment (A : Q → Type) where
  raises : Q → Prop
  answers : ∀ q, A q → Prop

/-- The script returns whatever it is answered, and `P` holds of what it returns. -/
def Completes (E : Environment A) (P : α → Prop) : Script Q A ε α → Prop
  | .ret a => P a
  | .raise _ => False
  | .ask q k => ¬E.raises q ∧ ∀ a, E.answers q a → Completes E P (k a)

/-- From the node on the run ends within so many visits, and `P` holds of the state it ends in. -/
def Graph.Ends (G : Graph N S A ε) (E : Environment A) (P : S → Prop) : ℕ → Option N → S → Prop
  | _, none, s => P s
  | 0, some _, _ => False
  | visits + 1, some n, s => Completes E (fun r => G.Ends E P visits r.1 r.2) (G.visit n s)

section
variable {E : Environment A} {P P' : α → Prop} {p : Script Q A ε α}

@[simp] lemma completes_ret (a : α) : Completes E P (.ret a : Script Q A ε α) ↔ P a := .rfl

@[simp] lemma completes_raise (e : ε) : Completes E P (.raise e : Script Q A ε α) ↔ False := .rfl

@[simp] lemma completes_ask (q : Q) (k : A q → Script Q A ε α) :
    Completes E P (.ask q k) ↔ ¬E.raises q ∧ ∀ a, E.answers q a → Completes E P (k a) := .rfl

@[simp] lemma completes_bind {f : α → Script Q A ε β} {P : β → Prop} :
    Completes E P (p.bind f) ↔ Completes E (fun a => Completes E P (f a)) p := by
  induction p with
  | ret a => exact .rfl
  | raise e => exact .rfl
  | ask q k ih => exact and_congr_right' (forall₂_congr fun a _ => ih a)

lemma Completes.mono (hp : Completes E P p) (hP : ∀ a, P a → P' a) : Completes E P' p := by
  induction p with
  | ret a => exact hP a hp
  | raise e => exact hp
  | ask q k ih => exact ⟨hp.1, fun a ha => ih a (hp.2 a ha)⟩

end

lemma Graph.ends_none {G : Graph N S A ε} {E : Environment A} {P : S → Prop} {visits : ℕ} {s : S} :
    G.Ends E P visits none s ↔ P s := by
  cases visits <;> exact .rfl

lemma Graph.ends_some {G : Graph N S A ε} {E : Environment A} {P : S → Prop} {visits : ℕ} {n : N}
    {s : S} : G.Ends E P (visits + 1) (some n) s ↔
      Completes E (fun r => G.Ends E P visits r.1 r.2) (G.visit n s) := .rfl

/-! ### Runs under fixed answers -/

/-- The exchanges of a script whose questions are answered as `f` says, and how it ends. -/
def answered (f : ∀ q, A q) : Script Q A ε α → List (Exchange A) × Except ε α
  | .ret a => ([], .ok a)
  | .raise e => ([], .error e)
  | .ask q k => (⟨q, f q⟩ :: (answered f (k (f q))).1, (answered f (k (f q))).2)

lemma along_answered (f : ∀ q, A q) (p : Script Q A ε α) :
    Along p (answered f p).1 (.ofExcept (answered f p).2) := by
  induction p with
  | ret a => exact .here _
  | raise e => exact .here _
  | ask q k ih => exact .ask (ih (f q))

/-- Where the run from `(h, n, s)` is after at most so many visits, or where its node raises. -/
def Graph.follow (G : Graph N S A ε) (f : ∀ q, A q) :
    ℕ → List (Exchange A) × Option N × S → List (Exchange A) × Option N × S
  | 0, c => c
  | fuel + 1, (h, n, s) =>
    match n with
    | none => (h, none, s)
    | some n =>
      match (answered f (G.visit n s)).2 with
      | .error _ => (h, some n, s)
      | .ok v => G.follow f fuel (h ++ (answered f (G.visit n s)).1, v)

lemma answered_fixed (f : ∀ q, A q) (p : Script Q A ε α) :
    ∀ e ∈ (answered f p).1, e.2 = f e.1 := by
  induction p with
  | ret a => simp [answered]
  | raise e => simp [answered]
  | ask q k ih =>
    rintro e (_ | ⟨_, he⟩)
    · rfl
    · exact ih (f q) e he

lemma Graph.follow_fixed {G : Graph N S A ε} {f : ∀ q, A q} {fuel : ℕ}
    {c : List (Exchange A) × Option N × S} (hc : ∀ e ∈ c.1, e.2 = f e.1) :
    ∀ e ∈ (G.follow f fuel c).1, e.2 = f e.1 := by
  induction fuel generalizing c with
  | zero => exact hc
  | succ fuel ih =>
    obtain ⟨h, n, s⟩ := c
    cases n with
    | none => exact hc
    | some n =>
      unfold Graph.follow
      dsimp only
      split
      · exact hc
      · refine ih fun e he => ?_
        rcases List.mem_append.mp he with he | he
        · exact hc e he
        · exact answered_fixed f _ e he

lemma Run.follow {G : Graph N S A ε} {s₀ : S} (f : ∀ q, A q) (fuel : ℕ)
    {c : List (Exchange A) × Option N × S} (hrun : Run G s₀ c.1 c.2.1 c.2.2) :
    Run G s₀ (G.follow f fuel c).1 (G.follow f fuel c).2.1 (G.follow f fuel c).2.2 := by
  induction fuel generalizing c with
  | zero => exact hrun
  | succ fuel ih =>
    obtain ⟨h, n, s⟩ := c
    cases n with
    | none => exact hrun
    | some n =>
      unfold Graph.follow
      dsimp only
      split
      · exact hrun
      · rename_i v hv
        have hvisit := along_answered f (G.visit n s)
        rw [hv] at hvisit
        exact ih (hrun.completed hvisit)

/-- The history with a visit that is lost after all its answers. -/
def Graph.lose (G : Graph N S A ε) (f : ∀ q, A q) (c : List (Exchange A) × Option N × S) :
    List (Exchange A) × Option N × S :=
  match c.2.1 with
  | none => c
  | some n => (c.1 ++ (answered f (G.visit n c.2.2)).1, c.2)

lemma Run.lose {G : Graph N S A ε} {s₀ : S} (f : ∀ q, A q)
    {c : List (Exchange A) × Option N × S} (hrun : Run G s₀ c.1 c.2.1 c.2.2) :
    Run G s₀ (G.lose f c).1 (G.lose f c).2.1 (G.lose f c).2.2 := by
  obtain ⟨h, n, s⟩ := c
  cases n with
  | none => exact hrun
  | some n => exact hrun.lost (along_answered f (G.visit n s))

end IncidentGate.Lib.Checkpoint
