import IncidentGate.Lib.RowLockPart

/-!
What a program commits last, and what it then says.

A program that ends with a commit tells its caller what the commit did. That much is a matter of
the program alone: whatever it is answered, and whoever else is there, it ends as it says of the
writes it has just committed.
-/

namespace IncidentGate.Lib.RowLockEnds

open ScriptTree ScriptTree.Script RowLock RowLockTrace RowLockPart

variable {E : Engine} {ε ε' α β ι K : Type}

/-- Whatever a script is answered from the pending writes `W` on, it ends as `Q` says of what is
pending then and of the commit it ends with, if it does. A commit that it goes on from is as `M`
says. The commit just made is `c`. -/
def tells (M : List E.Write → Prop) : Prog E ε α →
    (Except ε α → List E.Write → Option (List E.Write) → Prop) →
    List E.Write → Option (List E.Write) → Prop
  | .ret a, Q, W, c => Q (.ok a) W c
  | .raise e, Q, W, c => Q (.error e) W c
  | .ask (.stmt q) k, Q, W, c => (∀ U ∈ c, M U) ∧
      (∀ s s' db r ws, E.exec q s db = (s', .ok (r, ws)) → tells M (k (.ok r)) Q (W ++ ws) none) ∧
      ∀ e, tells M (k (.error e)) Q W none
  | .ask .commit k, Q, W, c => (∀ U ∈ c, M U) ∧ tells M (k ()) Q [] (some W)
  | .ask .rollback k, Q, _, c => (∀ U ∈ c, M U) ∧ tells M (k ()) Q [] none
  | .ask (.input _) k, Q, W, c => (∀ U ∈ c, M U) ∧ ∀ a, tells M (k a) Q W none

section
variable {M : List E.Write → Prop} {W : List E.Write} {c : Option (List E.Write)}

lemma tells_mono {Q Q' : Except ε α → List E.Write → Option (List E.Write) → Prop}
    (hQ : ∀ r W c, Q r W c → Q' r W c) {p : Prog E ε α} (h : tells M p Q W c) :
    tells M p Q' W c := by
  induction p generalizing W c with
  | ret a => exact hQ _ _ _ h
  | raise e => exact hQ _ _ _ h
  | ask q k ih =>
    cases q with
    | stmt q =>
      exact ⟨h.1, fun s s' db r ws he => ih _ (h.2.1 s s' db r ws he), fun e => ih _ (h.2.2 e)⟩
    | commit => exact ⟨h.1, ih _ h.2⟩
    | rollback => exact ⟨h.1, ih _ h.2⟩
    | input i => exact ⟨h.1, fun a => ih _ (h.2 a)⟩

lemma tells_weaken {M' : List E.Write → Prop} (hM : ∀ U, M U → M' U)
    {Q : Except ε α → List E.Write → Option (List E.Write) → Prop} {p : Prog E ε α}
    (h : tells M p Q W c) : tells M' p Q W c := by
  induction p generalizing W c with
  | ret a => exact h
  | raise e => exact h
  | ask q k ih =>
    cases q with
    | stmt q =>
      exact ⟨fun U hU => hM U (h.1 U hU), fun s s' db r ws he => ih _ (h.2.1 s s' db r ws he),
        fun e => ih _ (h.2.2 e)⟩
    | commit => exact ⟨fun U hU => hM U (h.1 U hU), ih _ h.2⟩
    | rollback => exact ⟨fun U hU => hM U (h.1 U hU), ih _ h.2⟩
    | input i => exact ⟨fun U hU => hM U (h.1 U hU), fun a => ih _ (h.2 a)⟩

/-- What holds of every end of a script. -/
lemma tells_ends {P : Except ε α → Prop}
    {Q : Except ε α → List E.Write → Option (List E.Write) → Prop} {p : Prog E ε α}
    (hp : p.Ends P) (h : tells M p Q W c) : tells M p (fun r W c => P r ∧ Q r W c) W c := by
  induction p generalizing W c with
  | ret a => exact ⟨hp, h⟩
  | raise e => exact ⟨hp, h⟩
  | ask q k ih =>
    cases q with
    | stmt q =>
      exact ⟨h.1, fun s s' db r ws he => ih _ (hp _) (h.2.1 s s' db r ws he),
        fun e => ih _ (hp _) (h.2.2 e)⟩
    | commit => exact ⟨h.1, ih _ (hp _) h.2⟩
    | rollback => exact ⟨h.1, ih _ (hp _) h.2⟩
    | input i => exact ⟨h.1, fun a => ih _ (hp _) (h.2 a)⟩

/-- The rule for going on with the outcome of a script. -/
lemma tells_elim {Q : Except ε' β → List E.Write → Option (List E.Write) → Prop}
    {p : Prog E ε α} {f : Except ε α → Prog E ε' β}
    (h : tells M p (fun r W c => tells M (f r) Q W c) W c) : tells M (p.elim f) Q W c := by
  induction p generalizing W c with
  | ret a => exact h
  | raise e => exact h
  | ask q k ih =>
    cases q with
    | stmt q =>
      exact ⟨h.1, fun s s' db r ws he => ih _ (h.2.1 s s' db r ws he), fun e => ih _ (h.2.2 e)⟩
    | commit => exact ⟨h.1, ih _ h.2⟩
    | rollback => exact ⟨h.1, ih _ h.2⟩
    | input i => exact ⟨h.1, fun a => ih _ (h.2 a)⟩

lemma tells_within {S : Op E → Prop} {X : ε → Prop} {I : List E.Write → Prop}
    (hstmt : ∀ q, S (.stmt q) → ∀ s s' db r ws, E.exec q s db = (s', .ok (r, ws)) →
      ∀ W, I W → I (W ++ ws))
    (hempty : S .commit ∨ S .rollback → I []) (hcommit : S .commit → ∀ U, I U → M U)
    {p : Prog E ε α} (hp : p.Within S X) (hW : I W) (hc : ∀ U ∈ c, M U) :
    tells M p (fun r W' c' => (∀ e, r = .error e → X e) ∧ I W' ∧ ∀ U ∈ c', M U) W c := by
  induction p generalizing W c with
  | ret a => exact ⟨by simp, hW, hc⟩
  | raise e => exact ⟨fun e' he => by cases he; exact hp, hW, hc⟩
  | ask q k ih =>
    cases q with
    | stmt q =>
      exact ⟨hc, fun s s' db r ws he => ih _ (hp.2 _) (hstmt q hp.1 s s' db r ws he W hW) (by simp),
        fun e => ih _ (hp.2 _) hW (by simp)⟩
    | commit =>
      refine ⟨hc, ih _ (hp.2 _) (hempty (.inl hp.1)) fun U hU => ?_⟩
      obtain rfl : W = U := by simpa using hU
      exact hcommit hp.1 W hW
    | rollback => exact ⟨hc, ih _ (hp.2 _) (hempty (.inr hp.1)) (by simp)⟩
    | input i => exact ⟨hc, fun a => ih _ (hp.2 _) hW (by simp)⟩

end

/-! ### Runs -/

section
variable [DecidableEq ι] {prog : K → Prog E ε α} {σ₀ σ σ' : System E ι ε α}
  {names : ι → Option K} {ms : List (Move E ι K ε α)} {e : Event E ι}
  {T : K → Option (Except ε α) → List E.Write → Prop} {N : K → Except ε α → Prop}

/-- The end of a program: as `N` says if no commit was its last question, else as `T` says of that
commit. -/
def ended (T : K → Option (Except ε α) → List E.Write → Prop) (N : K → Except ε α → Prop) (k : K)
    (r : Except ε α) (_ : List E.Write) (c : Option (List E.Write)) : Prop :=
  c.elim (N k r) (T k (some r))

/-- The session has made the commit, and was answered so. -/
def Made (ms : List (Move E ι K ε α)) (i : ι) (k : K) (r : Except ε α) : Prop :=
  ∃ m ∈ ms, m.session = i ∧ m.name = k ∧ m.answer = some r

/-- Every commit so far is answered as its program tells, and so will be what each session still
commits. -/
structure Told (T : K → Option (Except ε α) → List E.Write → Prop) (N : K → Except ε α → Prop)
    (names : ι → Option K) (ms : List (Move E ι K ε α)) (σ : System E ι ε α) : Prop where
  moves : ∀ m ∈ ms, ∃ U, m.after = view m.before U ∧ T m.name m.answer U
  sessions : ∀ i s, σ.sess i = some s → ∃ k c, names i = some k ∧
    tells (T k none) s.prog (ended T N k) s.wrote c ∧
    ∀ r, s.prog = ofExcept r → c.isSome → Made ms i k r

omit [DecidableEq ι] in
lemma outcome_of_sess {i : ι} {r : Except ε α} {L : List E.Lock} {W : List E.Write}
    (h : σ.sess i = some ⟨ofExcept r, L, W⟩) : σ.outcome i = some r := by
  cases r <;> simp [System.outcome, h]

omit [DecidableEq ι] in
lemma told_commit {k : K} {p : Prog E ε α} {W U : List E.Write} {i : ι} {L : List E.Lock}
    (h : tells (T k none) p (ended T N k) W (some U)) (hs : σ.sess i = some ⟨p, L, W⟩) :
    T k (σ.outcome i) U := by
  cases p with
  | ret a =>
    rw [show σ.outcome i = some (.ok a) from outcome_of_sess hs]
    exact h
  | raise e =>
    rw [show σ.outcome i = some (.error e) from outcome_of_sess hs]
    exact h
  | ask q k' =>
    have hnone : σ.outcome i = none := by simp [System.outcome, hs]
    rw [hnone]
    cases q <;> exact h.1 U rfl

/-- One slot of the server changes, and `us` is what that commits. -/
lemma Told.replace (h : Told T N names ms σ) {us : List (Move E ι K ε α)} {i : ι}
    {o : Option (Session E ε α)} {names' : ι → Option K}
    (hsess : σ'.sess = Function.update σ.sess i o) (hnames : ∀ j, j ≠ i → names' j = names j)
    (hus : ∀ m ∈ us, ∃ U, m.after = view m.before U ∧ T m.name m.answer U)
    (hnew : ∀ s, o = some s → ∃ k c, names' i = some k ∧
      tells (T k none) s.prog (ended T N k) s.wrote c ∧
      ∀ r, s.prog = ofExcept r → c.isSome → Made (ms ++ us) i k r) :
    Told T N names' (ms ++ us) σ' := by
  refine ⟨fun m hm => (List.mem_append.mp hm).elim (h.moves m) (hus m), fun j t hj => ?_⟩
  rw [hsess] at hj
  by_cases hji : j = i
  · subst hji
    rw [Function.update_self] at hj
    exact hnew t hj
  · rw [Function.update_of_ne hji] at hj
    obtain ⟨k, c, hk, htells, hmade⟩ := h.sessions j t hj
    refine ⟨k, c, (hnames j hji).trans hk, htells, fun r hr hc => ?_⟩
    obtain ⟨m, hm, hmade⟩ := hmade r hr hc
    exact ⟨m, List.mem_append_left _ hm, hmade⟩

lemma Told.step (h : Told T N names ms σ) (hs : Step (fun _ => False) σ e σ') :
    Told T N names (ms ++ committed names σ σ' e) σ' := by
  -- a turn that is no commit leaves the session with none just made
  have hquiet : ∀ {i : ι} {k : K} {t : Session E ε α} {us : List (Move E ι K ε α)},
      us = [] → σ'.sess = Function.update σ.sess i (some t) → names i = some k →
      tells (T k none) t.prog (ended T N k) t.wrote none → Told T N names (ms ++ us) σ' := by
    rintro i k t us rfl hsess hk htells
    refine h.replace hsess (fun _ _ => rfl) (by simp) fun s hs => ?_
    obtain rfl := Option.some.inj hs
    exact ⟨k, none, hk, htells, by simp⟩
  cases hs with
  | start hi hp => exact hp.elim
  | @turn i s op db' seq' s' hi ht =>
    obtain ⟨k, c, hk, htells, -⟩ := h.sessions i s hi
    cases ht with
    | stmt hfree hexec => exact hquiet rfl rfl hk (htells.2.1 _ _ _ _ _ hexec)
    | refused hfree hexec => exact hquiet rfl rfl hk (htells.2.2 _)
    | @commit k' L W =>
      have hsess : (⟨view σ.db W, σ.seq, Function.update σ.sess i (some ⟨k' (), [], []⟩)⟩ :
          System E ι ε α).sess i = some ⟨k' (), [], []⟩ := Function.update_self ..
      have hcommitted : committed names σ ⟨view σ.db W, σ.seq,
          Function.update σ.sess i (some ⟨k' (), [], []⟩)⟩ (.turn i .commit) =
          [⟨i, k, σ.db, view σ.db W, System.outcome ⟨view σ.db W, σ.seq,
            Function.update σ.sess i (some ⟨k' (), [], []⟩)⟩ i⟩] := by
        simp [committed, hk]
      rw [hcommitted]
      refine h.replace rfl (fun _ _ => rfl) (fun m hm => ?_) fun s hs => ?_
      · obtain rfl := List.mem_singleton.mp hm
        exact ⟨W, rfl, told_commit htells.2 hsess⟩
      · obtain rfl := Option.some.inj hs
        refine ⟨k, some W, hk, htells.2, fun r hr _ => ?_⟩
        exact ⟨_, List.mem_append_right _ List.mem_cons_self, rfl, rfl,
          outcome_of_sess (hsess.trans (by rw [← hr]))⟩
    | rollback => exact hquiet rfl rfl hk htells.2
    | input a => exact hquiet rfl rfl hk (htells.2 a)
  | @fail i q k' L W hi =>
    obtain ⟨k, c, hk, htells, -⟩ := h.sessions i _ hi
    exact hquiet rfl rfl hk (htells.2.2 E.failure)
  | @drop i => exact h.replace rfl (fun _ _ => rfl) (by simp [committed]) (by simp)

/-- **Every commit of a run is answered as its program tells, and every end that a program gives
its commit as the reason of is the answer to one.** -/
theorem Course.told (hprog : ∀ k, tells (T k none) (prog k) (ended T N k) [] none)
    (hidle : ∀ i, σ₀.sess i = none) (h : Course prog σ₀ names ms σ) :
    (∀ m ∈ ms, ∃ U, m.after = view m.before U ∧ T m.name m.answer U) ∧
      ∀ i r, σ.outcome i = some r → ∃ k, names i = some k ∧ (N k r ∨ Made ms i k r) := by
  have htold : Told T N names ms σ := by
    induction h with
    | nil => exact ⟨by simp, fun i s hi => by simp [hidle i] at hi⟩
    | @start names ms σ i k h hi ih =>
      have hstart : Told T N (Function.update names i (some k)) (ms ++ [])
          { σ with sess := Function.update σ.sess i (some ⟨prog k, [], []⟩) } := by
        refine ih.replace rfl (fun j hji => Function.update_of_ne hji _ _) (by simp) fun s hs => ?_
        obtain rfl := Option.some.inj hs
        exact ⟨k, none, Function.update_self .., hprog k, by simp⟩
      rwa [List.append_nil] at hstart
    | step h hs ih => exact ih.step hs
  refine ⟨htold.moves, fun i r hr => ?_⟩
  obtain ⟨L, W, hs⟩ := sess_of_outcome hr
  obtain ⟨k, c, hk, htells, hmade⟩ := htold.sessions i _ hs
  refine ⟨k, hk, ?_⟩
  cases c with
  | none =>
    left
    cases r <;> exact htells
  | some U => exact .inr (hmade r rfl rfl)

end

end IncidentGate.Lib.RowLockEnds
