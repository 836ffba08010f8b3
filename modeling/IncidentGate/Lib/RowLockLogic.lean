import IncidentGate.Lib.RowLock

/-!
A logic for programs that run among other sessions.

Between two statements of a session the committed state may move by the rely; what the
session's own commit does is its guarantee. An invariant of the store that every program
keeps, assuming only that the rows it has locked stay as they are, holds in every state that
any number of sessions reach together.
-/

namespace IncidentGate.Lib.RowLockLogic

open ScriptTree RowLock

variable {E : Engine} {ε ε' α β ι : Type}

/-- What a program's outcome is asked to satisfy, with the locks and writes it ends with. -/
abbrev Post (E : Engine) (ε α : Type) :=
  Except ε α → List E.Lock → List E.Write → E.Db → Prop

section
variable (F : Prop) (C : List E.Lock → List E.Write → Prop)
  (R : List E.Lock → E.Db → E.Db → Prop) (G : E.Db → E.Db → Prop)

/-- Every run of the program among sessions that move by `R` commits within `G`, holds its
locks and writes within `C` after each statement that it makes, and ends in `Q`. The server
may give statements up only if `F`. -/
def wpWithin : Prog E ε α → Post E ε α → List E.Lock → List E.Write → E.Db → Prop
  | .ret a, Q, L, W, db => Q (.ok a) L W db
  | .raise e, Q, L, W, db => Q (.error e) L W db
  | .ask (.stmt q) k, Q, L, W, db => ∀ db', R L db db' →
      (∀ s s' r ws, E.exec q s (view db' W) = (s', .ok (r, ws)) →
        C (L ++ E.locks q (view db' W)) (W ++ ws) ∧
          wpWithin (k (.ok r)) Q (L ++ E.locks q (view db' W)) (W ++ ws) db') ∧
      (∀ s s' e, E.exec q s (view db' W) = (s', .error e) →
        wpWithin (k (.error e)) Q (L ++ E.locks q (view db' W)) W db') ∧
      (F → wpWithin (k (.error E.failure)) Q L W db')
  | .ask .commit k, Q, L, W, db => ∀ db', R L db db' →
      G db' (view db' W) ∧ wpWithin (k ()) Q [] [] (view db' W)
  | .ask .rollback k, Q, L, _, db => ∀ db', R L db db' → wpWithin (k ()) Q [] [] db'
  | .ask (.input _) k, Q, L, W, db => ∀ a, wpWithin (k a) Q L W db

/-- Every run of the program among sessions that move by `R` commits within `G` and ends in
`Q`, whatever it locks and writes. -/
abbrev wp : Prog E ε α → Post E ε α → List E.Lock → List E.Write → E.Db → Prop :=
  wpWithin F (fun _ _ => True) R G

variable {F C R G}

@[simp] lemma wp_ret {a : α} {Q : Post E ε α} {L W db} :
    wpWithin F C R G (.ret a) Q L W db ↔ Q (.ok a) L W db := Iff.rfl

@[simp] lemma wp_raise {e : ε} {Q : Post E ε α} {L W db} :
    wpWithin F C R G (.raise e) Q L W db ↔ Q (.error e) L W db := Iff.rfl

lemma wp_ofExcept {r : Except ε α} {Q : Post E ε α} {L W db} :
    wpWithin F C R G (Script.ofExcept r) Q L W db ↔ Q r L W db := by cases r <;> rfl

lemma wp_mono {Q Q' : Post E ε α} (hQ : ∀ r L W db, Q r L W db → Q' r L W db)
    {p : Prog E ε α} {L W db} (h : wpWithin F C R G p Q L W db) : wpWithin F C R G p Q' L W db := by
  induction p generalizing L W db with
  | ret a => exact hQ _ _ _ _ h
  | raise e => exact hQ _ _ _ _ h
  | ask q k ih =>
    cases q with
    | stmt q =>
      intro db' hR
      obtain ⟨hok, herr, hfail⟩ := h db' hR
      exact ⟨fun s s' r ws he => ⟨(hok s s' r ws he).1, ih _ (hok s s' r ws he).2⟩,
        fun s s' e he => ih _ (herr s s' e he), fun hF => ih _ (hfail hF)⟩
    | commit => exact fun db' hR => ⟨(h db' hR).1, ih _ (h db' hR).2⟩
    | rollback => exact fun db' hR => ih _ (h db' hR)
    | input i => exact fun a => ih _ (h a)

/-- The rule for one script after another. -/
lemma wp_elim {p : Prog E ε α} {f : Except ε α → Prog E ε' β} {Q : Post E ε' β} {L W db}
    (h : wpWithin F C R G p (fun r L W db => wpWithin F C R G (f r) Q L W db) L W db) :
    wpWithin F C R G (p.elim f) Q L W db := by
  induction p generalizing L W db with
  | ret a => exact h
  | raise e => exact h
  | ask q k ih =>
    cases q with
    | stmt q =>
      intro db' hR
      obtain ⟨hok, herr, hfail⟩ := h db' hR
      exact ⟨fun s s' r ws he => ⟨(hok s s' r ws he).1, ih _ (hok s s' r ws he).2⟩,
        fun s s' e he => ih _ (herr s s' e he), fun hF => ih _ (hfail hF)⟩
    | commit => exact fun db' hR => ⟨(h db' hR).1, ih _ (h db' hR).2⟩
    | rollback => exact fun db' hR => ih _ (h db' hR)
    | input i => exact fun a => ih _ (h a)

lemma wp_and {Q Q' : Post E ε α} {p : Prog E ε α} {L W db} (h : wpWithin F C R G p Q L W db)
    (h' : wpWithin F C R G p Q' L W db) :
    wpWithin F C R G p (fun r L W db => Q r L W db ∧ Q' r L W db) L W db := by
  induction p generalizing L W db with
  | ret a => exact ⟨h, h'⟩
  | raise e => exact ⟨h, h'⟩
  | ask q k ih =>
    cases q with
    | stmt q =>
      intro db' hR
      obtain ⟨hok, herr, hfail⟩ := h db' hR
      obtain ⟨hok', herr', hfail'⟩ := h' db' hR
      exact ⟨fun s s' r ws he =>
          ⟨(hok s s' r ws he).1, ih _ (hok s s' r ws he).2 (hok' s s' r ws he).2⟩,
        fun s s' e he => ih _ (herr s s' e he) (herr' s s' e he),
        fun hF => ih _ (hfail hF) (hfail' hF)⟩
    | commit => exact fun db' hR => ⟨(h db' hR).1, ih _ (h db' hR).2 (h' db' hR).2⟩
    | rollback => exact fun db' hR => ih _ (h db' hR) (h' db' hR)
    | input i => exact fun a => ih _ (h a) (h' a)

/-- Between two steps of a session the state may move by the rely. -/
lemma wp_rely (htrans : ∀ L a b c, R L a b → R L b c → R L a c) {Q : Post E ε α}
    (hQ : ∀ r L W db db', R L db db' → Q r L W db → Q r L W db')
    {p : Prog E ε α} {L W db db'} (hR : R L db db') (h : wpWithin F C R G p Q L W db) :
    wpWithin F C R G p Q L W db' := by
  induction p generalizing L W db with
  | ret a => exact hQ _ _ _ _ _ hR h
  | raise e => exact hQ _ _ _ _ _ hR h
  | ask q k ih =>
    cases q with
    | stmt q => exact fun db'' hR' => h db'' (htrans _ _ _ _ hR hR')
    | commit => exact fun db'' hR' => h db'' (htrans _ _ _ _ hR hR')
    | rollback => exact fun db'' hR' => h db'' (htrans _ _ _ _ hR hR')
    | input i => exact fun a => ih _ hR (h a)

/-- A post-condition on success, an exception being left to the rollback. -/
def Ok (P : α → List E.Lock → List E.Write → E.Db → Prop) : Post E ε α
  | .ok a => P a
  | .error _ => fun _ _ _ => True

@[simp] lemma ok_ok (P : α → List E.Lock → List E.Write → E.Db → Prop) (a : α) :
    (Ok P : Post E ε α) (.ok a) = P a := rfl

@[simp] lemma ok_error (P : α → List E.Lock → List E.Write → E.Db → Prop) (e : ε) (L W db) :
    (Ok P : Post E ε α) (.error e) L W db := trivial

lemma wp_ok_mono {P P' : α → List E.Lock → List E.Write → E.Db → Prop}
    (hP : ∀ a L W db, P a L W db → P' a L W db) {p : Prog E ε α} {L W db}
    (h : wpWithin F C R G p (Ok P) L W db) : wpWithin F C R G p (Ok P') L W db := by
  refine wp_mono (fun r L W db hr => ?_) h
  cases r with
  | ok a => exact hP a L W db hr
  | error e => trivial

lemma wp_bind {P : β → List E.Lock → List E.Write → E.Db → Prop} {p : Prog E ε α}
    {f : α → Prog E ε β} {L W db}
    (h : wpWithin F C R G p (Ok fun a L W db => wpWithin F C R G (f a) (Ok P) L W db) L W db) :
    wpWithin F C R G (p.bind f) (Ok P) L W db := by
  refine wp_elim (wp_mono (fun r L W db hr => ?_) h)
  cases r with
  | ok a => exact hr
  | error e => trivial

/-- A script that ends no transaction and whose statements write within `T` leaves the locks
and writes it found, with more of each. -/
lemma wpWithin_asks (htrans : ∀ L a b c, R L a b → R L b c → R L a c)
    (hmono : ∀ L L' a b, R (L ++ L') a b → R L a b) (hself : ∀ L L' a b, R L a b → R L' b b)
    {S : Op E → Prop} {X : ε → Prop} {T : E.Write → Prop} (hcommit : ¬ S .commit)
    (hrollback : ¬ S .rollback)
    (hS : ∀ q, S (.stmt q) → ∀ s db s' r ws, E.exec q s db = (s', .ok (r, ws)) → ∀ w ∈ ws, T w)
    (hC : ∀ L L' W ws, C L W → (∀ w ∈ ws, T w) → C (L ++ L') (W ++ ws))
    {p : Prog E ε α} (hp : p.Within S X) {Q : Post E ε α} {L W db} (hrefl : R L db db)
    (hLW : C L W)
    (hQ : ∀ r L' ws db', R L db db' → (∀ w ∈ ws, T w) → Q r (L ++ L') (W ++ ws) db') :
    wpWithin F C R G p Q L W db := by
  induction p generalizing L W db with
  | ret a => simpa using hQ (.ok a) [] [] db hrefl (by simp)
  | raise e => simpa using hQ (.error e) [] [] db hrefl (by simp)
  | ask q k ih =>
    cases q with
    | stmt q =>
      intro db' hR
      -- the rest of the script starts where this statement left the session
      have hstep : ∀ a L' ws, (∀ w ∈ ws, T w) → C (L ++ L') (W ++ ws) ∧
          wpWithin F C R G (k a) Q (L ++ L') (W ++ ws) db' := by
        intro a L' ws hws
        refine ⟨hC _ _ _ _ hLW hws, ih a (hp.2 a) (hself L _ db db' hR) (hC _ _ _ _ hLW hws)
          fun r L'' ws' db'' hR' hws' => ?_⟩
        rw [List.append_assoc, List.append_assoc]
        refine hQ r _ _ db'' (htrans _ _ _ _ hR (hmono _ _ _ _ hR')) fun w hw => ?_
        exact (List.mem_append.mp hw).elim (hws w) (hws' w)
      refine ⟨fun s s' r ws he => hstep _ _ _ (hS q hp.1 _ _ _ _ _ he), fun s s' e he => ?_,
        fun _ => ?_⟩
      · simpa using (hstep (.error e) (E.locks q (view db' W)) [] (by simp)).2
      · simpa using (hstep (.error E.failure) [] [] (by simp)).2
    | commit => exact absurd hp.1 hcommit
    | rollback => exact absurd hp.1 hrollback
    | input i => exact fun a => ih a (hp.2 a) hrefl hLW hQ

lemma wp_asks (htrans : ∀ L a b c, R L a b → R L b c → R L a c)
    (hmono : ∀ L L' a b, R (L ++ L') a b → R L a b) (hself : ∀ L L' a b, R L a b → R L' b b)
    {S : Op E → Prop} {X : ε → Prop} {T : E.Write → Prop} (hcommit : ¬ S .commit)
    (hrollback : ¬ S .rollback)
    (hS : ∀ q, S (.stmt q) → ∀ s db s' r ws, E.exec q s db = (s', .ok (r, ws)) → ∀ w ∈ ws, T w)
    {p : Prog E ε α} (hp : p.Within S X) {Q : Post E ε α} {L W db} (hrefl : R L db db)
    (hQ : ∀ r L' ws db', R L db db' → (∀ w ∈ ws, T w) → Q r (L ++ L') (W ++ ws) db') :
    wp F R G p Q L W db :=
  wpWithin_asks htrans hmono hself hcommit hrollback hS (fun _ _ _ _ _ _ => trivial) hp hrefl
    trivial hQ

/-- A turn of the session keeps what is known of the rest of its program. -/
lemma wp_turn {Q : Post E ε α} {free : E.Lock → Prop} {db s p op db' s' p'}
    (hR : R p.held db db) (h : wpWithin F C R G p.prog Q p.held p.wrote db)
    (ht : Turn free db s p op db' s' p') :
    wpWithin F C R G p'.prog Q p'.held p'.wrote db' ∧ (db' = db ∨ op = .commit ∧ G db db') := by
  cases ht with
  | stmt hfree hexec => exact ⟨((h db hR).1 _ _ _ _ hexec).2, .inl rfl⟩
  | refused hfree hexec => exact ⟨(h db hR).2.1 _ _ _ hexec, .inl rfl⟩
  | commit => exact ⟨(h db hR).2, .inr ⟨rfl, (h db hR).1⟩⟩
  | rollback => exact ⟨h db hR, .inl rfl⟩
  | input a => exact ⟨h a, .inl rfl⟩

lemma wp_solo (hR : ∀ L db, R L db db) {w : World E} (hF : ∀ n, w.fails n → F)
    {p : Prog E ε α} {Q : Post E ε α} {L} {σ : Solo E} (h : wpWithin F C R G p Q L σ.wrote σ.db) :
    ∃ L', Q (solo w p σ).1 L' (solo w p σ).2.wrote (solo w p σ).2.db := by
  induction p generalizing L σ with
  | ret a => exact ⟨L, h⟩
  | raise e => exact ⟨L, h⟩
  | ask q k ih =>
    cases q with
    | stmt q =>
      obtain ⟨hok, herr, hfail⟩ := h σ.db (hR L σ.db)
      simp only [solo]
      split
      · rename_i hn
        exact ih _ (hfail (hF _ hn))
      · split
        · rename_i he
          exact ih _ (hok _ _ _ _ he).2
        · rename_i he
          exact ih _ (herr _ _ _ he)
    | commit => exact ih _ (h σ.db (hR L σ.db)).2
    | rollback => exact ih _ (h σ.db (hR L σ.db))
    | input i => exact ih _ (h _)

end

/-! ### Invariants that no write breaks -/

section
variable {S : Op E → Prop} {X : ε → Prop} {T : E.Write → Prop} {I : E.Db → Prop}

lemma view_inv (hT : ∀ w db, T w → I db → I (E.apply db w)) {W : List E.Write}
    (hW : ∀ w ∈ W, T w) {db : E.Db} (h : I db) : I (view db W) := by
  induction W generalizing db with
  | nil => exact h
  | cons w W ih =>
    exact ih (fun v hv => hW v (List.mem_cons_of_mem _ hv))
      (hT w db (hW w (List.mem_cons_self ..)) h)

variable (hS : ∀ q, S (.stmt q) → ∀ s db, I db → ∀ s' r ws,
    E.exec q s db = (s', .ok (r, ws)) → ∀ w ∈ ws, T w)
  (hT : ∀ w db, T w → I db → I (E.apply db w))

include hS hT

/-- What a program alone commits keeps an invariant that each of its writes keeps. -/
lemma solo_inv (w : World E) {p : Prog E ε α} (hp : p.Within S X) {σ : Solo E} (hI : I σ.db)
    (hW : ∀ w ∈ σ.wrote, T w) :
    I (solo w p σ).2.db ∧ ∀ v ∈ (solo w p σ).2.wrote, T v := by
  induction p generalizing σ with
  | ret a => exact ⟨hI, hW⟩
  | raise e => exact ⟨hI, hW⟩
  | ask q k ih =>
    cases q with
    | stmt q =>
      simp only [solo]
      split
      · exact ih _ (hp.2 _) hI hW
      · split
        · rename_i s r ws he
          refine ih _ (hp.2 _) hI fun v hv => (List.mem_append.mp hv).elim (hW v) ?_
          exact hS q hp.1 _ _ (view_inv hT hW hI) _ _ _ he v
        · exact ih _ (hp.2 _) hI hW
    | commit => exact ih _ (hp.2 _) (view_inv hT hW hI) (by simp)
    | rollback => exact ih _ (hp.2 _) hI (by simp)
    | input i => exact ih _ (hp.2 _) hI hW

/-- An invariant that each write of every session keeps holds whatever the order of their
steps, without any lock. -/
theorem invariant_of_asks [DecidableEq ι] {progs : Prog E ε α → Prop}
    (hprogs : ∀ p, progs p → p.Asks S) {σ σ' : System E ι ε α} {tr : List (Event E ι)}
    (hI : I σ.db) (hidle : ∀ i, σ.sess i = none) (hr : Run progs σ tr σ') :
    I σ'.db ∧ ∀ i s, σ'.sess i = some s → s.prog.Asks S ∧ ∀ w ∈ s.wrote, T w := by
  induction hr with
  | nil => exact ⟨hI, fun i s hi => by simp [hidle i] at hi⟩
  | @snoc σ₁ _ _ _ _ hs ih =>
    obtain ⟨hI, hsess⟩ := ih
    -- one slot changes, to a session that is as the others are
    have hslot : ∀ {db : E.Db} {i : ι} {o : Option (Session E ε α)}, I db →
        (∀ s, o = some s → s.prog.Asks S ∧ ∀ w ∈ s.wrote, T w) → I db ∧
          ∀ j s, Function.update σ₁.sess i o j = some s → s.prog.Asks S ∧ ∀ w ∈ s.wrote, T w := by
      intro db i o hdb ho
      refine ⟨hdb, fun j s hj => ?_⟩
      by_cases hji : j = i
      · subst hji
        rw [Function.update_self] at hj
        exact ho s hj
      · rw [Function.update_of_ne hji] at hj
        exact hsess j s hj
    cases hs with
    | start hi hp => exact hslot hI fun s hs => by cases hs; exact ⟨hprogs _ hp, by simp⟩
    | turn hi ht =>
      obtain ⟨hp, hW⟩ := hsess _ _ hi
      cases ht with
      | stmt hfree he =>
        refine hslot hI fun s hs => ?_
        cases hs
        refine ⟨hp.2 _, fun v hv => (List.mem_append.mp hv).elim (hW v) ?_⟩
        exact hS _ hp.1 _ _ (view_inv hT hW hI) _ _ _ he v
      | refused hfree he => exact hslot hI fun s hs => by cases hs; exact ⟨hp.2 _, hW⟩
      | commit => exact hslot (view_inv hT hW hI) fun s hs => by cases hs; exact ⟨hp.2 _, by simp⟩
      | rollback => exact hslot hI fun s hs => by cases hs; exact ⟨hp.2 _, by simp⟩
      | input a => exact hslot hI fun s hs => by cases hs; exact ⟨hp.2 _, hW⟩
    | fail hi =>
      obtain ⟨hp, hW⟩ := hsess _ _ hi
      exact hslot hI fun s hs => by cases hs; exact ⟨hp.2 _, hW⟩
    | drop => exact hslot hI fun s hs => by cases hs

end

/-! ### Locks protect rows -/

/-- What a lock keeps as it is while it is held: every write is guarded by locks, and a write
not guarded by a lock leaves alone what that lock protects. -/
structure Protection (E : Engine) where
  Keep : E.Lock → E.Db → E.Db → Prop
  guards : E.Write → List E.Lock
  refl : ∀ l db, Keep l db db
  trans : ∀ {l a b c}, Keep l a b → Keep l b c → Keep l a c
  frame : ∀ {w l} db, l ∉ guards w → Keep l db (E.apply db w)

/-- Each statement takes the locks that guard its writes. -/
def Protection.Statementwise (P : Protection E) : Prop :=
  ∀ q s db s' r ws, E.exec q s db = (s', .ok (r, ws)) → ∀ w ∈ ws, ∀ l ∈ P.guards w, l ∈ E.locks q db

variable (P : Protection E)

lemma Protection.frame_view {l : E.Lock} (W : List E.Write) (db : E.Db)
    (h : ∀ w ∈ W, l ∉ P.guards w) : P.Keep l db (view db W) := by
  induction W generalizing db with
  | nil => exact P.refl l db
  | cons w W ih =>
    have hw : P.Keep l db (E.apply db w) := P.frame db (h w (List.mem_cons_self ..))
    exact P.trans hw (ih _ fun v hv => h v (List.mem_cons_of_mem _ hv))

/-- A session makes its writes under its locks. -/
def Protection.Covers (L : List E.Lock) (W : List E.Write) : Prop :=
  ∀ w ∈ W, ∀ l ∈ P.guards w, l ∈ L

lemma Protection.Covers.nil (L : List E.Lock) : P.Covers L [] := by simp [Protection.Covers]

variable {P} in
lemma Protection.Covers.append {L L' : List E.Lock} {W ws : List E.Write} (h : P.Covers L W)
    (hws : P.Covers (L ++ L') ws) : P.Covers (L ++ L') (W ++ ws) := fun w hw l hl =>
  (List.mem_append.mp hw).elim (fun hw => List.mem_append_left _ (h w hw l hl)) fun hw =>
    hws w hw l hl

/-- The rely of a session that holds `L`: the invariant holds and the locked rows stay. -/
def Locked (I : E.Db → Prop) (L : List E.Lock) (db db' : E.Db) : Prop :=
  I db' ∧ ∀ l ∈ L, P.Keep l db db'

lemma Locked.trans {I : E.Db → Prop} {L : List E.Lock} {a b c : E.Db}
    (h : Locked P I L a b) (h' : Locked P I L b c) : Locked P I L a c :=
  ⟨h'.1, fun l hl => P.trans (h.2 l hl) (h'.2 l hl)⟩

lemma Locked.refl {I : E.Db → Prop} {db : E.Db} (h : I db) (L : List E.Lock) :
    Locked P I L db db := ⟨h, fun l _ => P.refl l db⟩

lemma Locked.mono {I : E.Db → Prop} {L L' : List E.Lock} {a b : E.Db}
    (h : Locked P I (L ++ L') a b) : Locked P I L a b :=
  ⟨h.1, fun l hl => h.2 l (List.mem_append_left _ hl)⟩

/-- The rely of a session that no other session disturbs. -/
def Still (_ : List E.Lock) (db db' : E.Db) : Prop := db' = db

lemma solo_of_still {F : Prop} {G : E.Db → E.Db → Prop} {w : World E} (hF : ∀ n, w.fails n → F)
    {p : Prog E ε α} {Q : Post E ε α} {σ : Solo E} (hidle : σ.wrote = [])
    (h : wp F Still G p Q [] [] σ.db) :
    ∃ L, Q (solo w p σ).1 L (solo w p σ).2.wrote (solo w p σ).2.db := by
  rw [← hidle] at h
  exact wp_solo (R := Still) (fun _ _ => rfl) hF h

lemma wp_still {F : Prop} {G G' : E.Db → E.Db → Prop} {X : ε → Prop} {p : Prog E ε α}
    (hp : p.Within (· ≠ .commit) X) {Q : Post E ε α} {L : List E.Lock} {W : List E.Write}
    {db : E.Db} (h : wp F (Locked P (· = db)) G p Q L W db) :
    wp F Still G' p (fun r L W db' => db' = db ∧ (∀ e, r = .error e → X e) ∧ Q r L W db')
      L W db := by
  induction p generalizing L W with
  | ret a => exact ⟨rfl, fun e he => (nomatch he), h⟩
  | raise e => exact ⟨rfl, fun e' he => by cases he; exact hp, h⟩
  | ask q k ih =>
    cases q with
    | stmt q =>
      rintro db' rfl
      obtain ⟨hok, herr, hfail⟩ := h db' ⟨rfl, fun l _ => P.refl l db'⟩
      exact ⟨fun s s' r ws he => ⟨trivial, ih _ (hp.2 _) (hok s s' r ws he).2⟩,
        fun s s' e he => ih _ (hp.2 _) (herr s s' e he), fun hF => ih _ (hp.2 _) (hfail hF)⟩
    | commit => exact absurd rfl hp.1
    | rollback =>
      rintro db' rfl
      exact ih _ (hp.2 _) (h db' ⟨rfl, fun l _ => P.refl l db'⟩)
    | input i => exact fun a => ih _ (hp.2 _) (h a)

/-- A program keeps the invariant whatever other sessions do that keep it too, and ends with
nothing locked and nothing pending. -/
def Keeps (I : E.Db → Prop) (p : Prog E ε α) : Prop :=
  ∀ db, I db → wp True (Locked P I) (fun _ db' => I db') p
    (fun _ L W db => L = [] ∧ W = [] ∧ I db) [] [] db

namespace Keeps

variable {P} {I : E.Db → Prop}

lemma ret (a : α) : Keeps P I (.ret a : Prog E ε α) := fun _ h => ⟨rfl, rfl, h⟩

lemma raise (e : ε) : Keeps P I (.raise e : Prog E ε α) := fun _ h => ⟨rfl, rfl, h⟩

lemma input {i : E.Input} {k : E.Answer i → Prog E ε α} (hk : ∀ a, Keeps P I (k a)) :
    Keeps P I (.ask (.input i) k) := fun db h a => hk a db h

lemma elim {p : Prog E ε α} {f : Except ε α → Prog E ε' β} (hp : Keeps P I p)
    (hf : ∀ r, Keeps P I (f r)) : Keeps P I (p.elim f) := by
  intro db h
  refine wp_elim (wp_mono (fun r L W db' hr => ?_) (hp db h))
  obtain ⟨rfl, rfl, hI⟩ := hr
  exact hf r db' hI

lemma bind {p : Prog E ε α} {f : α → Prog E ε β} (hp : Keeps P I p)
    (hf : ∀ a, Keeps P I (f a)) : Keeps P I (p.bind f) :=
  hp.elim fun
    | .ok a => hf a
    | .error e => raise e

lemma handle {p : Prog E ε α} {h : ε → Prog E ε' α} (hp : Keeps P I p)
    (hh : ∀ e, Keeps P I (h e)) : Keeps P I (p.handle h) :=
  hp.elim fun
    | .ok a => ret a
    | .error e => hh e

end Keeps

/-! ### What every commit does -/

/-- The rely of a session that holds `L` among sessions whose commits move the state by `T`. -/
def Relied (I : E.Db → Prop) (T : E.Db → E.Db → Prop) (L : List E.Lock) (db db' : E.Db) : Prop :=
  Locked P I L db db' ∧ T db db'

/-- Among sessions that keep the invariant and move the state by `T`, a program does both,
makes its writes under its locks and ends as `Q` says. -/
def Meets (I : E.Db → Prop) (T : E.Db → E.Db → Prop) (Q : Except ε α → E.Db → Prop)
    (p : Prog E ε α) : Prop :=
  ∀ db, I db → wpWithin True P.Covers (Relied P I T) (fun db db' => I db' ∧ T db db') p
    (fun r _ _ db => Q r db) [] [] db

/-- A move of the state lasts, and what a session has ended with stays true. -/
structure Durable (I : E.Db → Prop) (T : E.Db → E.Db → Prop) (Q : Except ε α → E.Db → Prop) :
    Prop where
  refl : ∀ db, T db db
  trans : ∀ {a b c}, T a b → T b c → T a c
  ends : ∀ {r a b}, I b → T a b → Q r a → Q r b

section
variable {P} {I : E.Db → Prop} {T : E.Db → E.Db → Prop} {Q : Except ε α → E.Db → Prop}

lemma Relied.trans (hT : Durable I T Q) {L : List E.Lock} {a b c : E.Db}
    (h : Relied P I T L a b) (h' : Relied P I T L b c) : Relied P I T L a c :=
  ⟨h.1.trans P h'.1, hT.trans h.2 h'.2⟩

lemma Relied.refl (hT : Durable I T Q) {db : E.Db} (h : I db) (L : List E.Lock) :
    Relied P I T L db db := ⟨Locked.refl P h L, hT.refl db⟩

/-- Where each statement takes the locks of its writes, a program that keeps the invariant
meets it. -/
lemma Keeps.meets (hP : P.Statementwise) {p : Prog E ε α} (h : Keeps P I p) :
    Meets P I (fun _ _ => True) (fun _ _ => True) p := by
  intro db hI
  suffices hwp : ∀ {L W db}, wp True (Locked P I) (fun _ db' => I db') p
      (fun _ L W db => L = [] ∧ W = [] ∧ I db) L W db → P.Covers L W →
      wpWithin True (P.Covers) (Relied P I fun _ _ => True)
        (fun _ db' => I db' ∧ True) p (fun _ _ _ _ => True) L W db from
    hwp (h db hI) (Protection.Covers.nil _ [])
  clear h hI db
  induction p with
  | ret a => exact fun _ _ => trivial
  | raise e => exact fun _ _ => trivial
  | ask q k ih =>
    intro L W db h hW
    cases q with
    | stmt q =>
      intro db' hR
      obtain ⟨hok, herr, hfail⟩ := h db' hR.1
      refine ⟨fun s s' r ws he => ?_, fun s s' e he => ?_, fun hF => ih _ (hfail hF) hW⟩
      · have hcovers : P.Covers (L ++ E.locks q (view db' W)) (W ++ ws) :=
          hW.append fun w hw l hl => List.mem_append_right _ (hP _ _ _ _ _ _ he w hw l hl)
        exact ⟨hcovers, ih _ (hok s s' r ws he).2 hcovers⟩
      · exact ih _ (herr s s' e he) fun w hw l hl => List.mem_append_left _ (hW w hw l hl)
    | commit =>
      intro db' hR
      exact ⟨⟨(h db' hR.1).1, trivial⟩, ih _ (h db' hR.1).2 (Protection.Covers.nil _ [])⟩
    | rollback => exact fun db' hR => ih _ (h db' hR.1) (Protection.Covers.nil _ [])
    | input i => exact fun a => ih _ (h a) hW

end

variable [DecidableEq ι]

/-- What holds of every state of the server: the invariant, what each session may still do,
its writes under its locks, and no lock held twice. -/
structure Sound (I : E.Db → Prop) (T : E.Db → E.Db → Prop) (Q : Except ε α → E.Db → Prop)
    (σ : System E ι ε α) : Prop where
  inv : I σ.db
  safe : ∀ i s, σ.sess i = some s → wpWithin True P.Covers (Relied P I T)
    (fun db db' => I db' ∧ T db db') s.prog (fun r _ _ db => Q r db) s.held s.wrote σ.db
  covered : ∀ i s, σ.sess i = some s → P.Covers s.held s.wrote
  excl : ∀ i j s t, σ.sess i = some s → σ.sess j = some t → i ≠ j → ∀ l ∈ s.held, l ∉ t.held

namespace Sound

variable {P} {I : E.Db → Prop} {T : E.Db → E.Db → Prop} {Q : Except ε α → E.Db → Prop}
  {progs : Prog E ε α → Prop}

/-- What a turn leaves in the session's hands: locks it had or that were free, and writes
under locks it holds. -/
lemma turn_held {free : E.Lock → Prop} {db s op db' s'} {p p' : Session E ε α}
    {R : List E.Lock → E.Db → E.Db → Prop} {G : E.Db → E.Db → Prop} {Q : Post E ε α}
    (hR : R p.held db db) (h : wpWithin True P.Covers R G p.prog Q p.held p.wrote db)
    (hc : P.Covers p.held p.wrote) (ht : Turn free db s p op db' s' p') :
    (∀ l ∈ p'.held, l ∈ p.held ∨ free l) ∧ P.Covers p'.held p'.wrote ∧
      (db' = db ∨ db' = view db p.wrote) := by
  cases ht with
  | stmt hfree hexec =>
    refine ⟨fun l hl => ?_, ((h db hR).1 _ _ _ _ hexec).1, .inl rfl⟩
    rcases List.mem_append.mp hl with h | h
    · exact .inl h
    · exact .inr (hfree l h)
  | refused hfree hexec =>
    refine ⟨fun l hl => ?_, fun w hw l hl => List.mem_append_left _ (hc w hw l hl), .inl rfl⟩
    rcases List.mem_append.mp hl with h | h
    · exact .inl h
    · exact .inr (hfree l h)
  | commit => exact ⟨by simp, .nil P [], .inr rfl⟩
  | rollback => exact ⟨by simp, .nil P [], .inl rfl⟩
  | input a => exact ⟨fun l hl => .inl hl, hc, .inl rfl⟩

omit [DecidableEq ι] in
lemma rely_of_turn {σ : System E ι ε α} (h : Sound P I T Q σ) {i j : ι} (hij : i ≠ j)
    {s t : Session E ε α} (hi : σ.sess i = some s) (hj : σ.sess j = some t) {db' : E.Db}
    (hI : I db') (hmove : T σ.db db') (hdb : db' = σ.db ∨ db' = view σ.db s.wrote) :
    Relied P I T t.held σ.db db' := by
  refine ⟨⟨hI, fun l hl => ?_⟩, hmove⟩
  rcases hdb with rfl | rfl
  · exact P.refl l σ.db
  · refine P.frame_view s.wrote σ.db fun w hw hg => ?_
    exact h.excl j i t s hj hi (Ne.symm hij) l hl (h.covered i s hi w hw l hg)

/-- One slot of the server changes, and the state with it: nothing is lost if the others'
locked rows stay as they are and the new locks are nobody else's. -/
lemma replace (hT : Durable I T Q) {σ : System E ι ε α} (h : Sound P I T Q σ) {i : ι}
    {o : Option (Session E ε α)} {db' : E.Db} {seq' : E.Seq} (hI : I db')
    (hrely : ∀ j t, j ≠ i → σ.sess j = some t → Relied P I T t.held σ.db db')
    (hnew : ∀ s, o = some s →
      wpWithin True P.Covers (Relied P I T) (fun db db' => I db' ∧ T db db') s.prog
        (fun r _ _ db => Q r db) s.held s.wrote db' ∧
      P.Covers s.held s.wrote ∧
      ∀ j t, j ≠ i → σ.sess j = some t → ∀ l ∈ s.held, l ∉ t.held) :
    Sound P I T Q ⟨db', seq', Function.update σ.sess i o⟩ := by
  have hself : ∀ s, Function.update σ.sess i o i = some s → o = some s := by simp
  have hother : ∀ j t, j ≠ i → Function.update σ.sess i o j = some t → σ.sess j = some t := by
    intro j t hji hj
    rwa [Function.update_of_ne hji] at hj
  refine ⟨hI, fun j t hj => ?_, fun j t hj => ?_, fun j k t u hj hk hjk l hl hu => ?_⟩
  · -- each session's program holds on, the locks cover its writes, and no two share a lock
    by_cases hji : j = i
    · subst hji; exact (hnew t (hself t hj)).1
    · have hstays : ∀ (r : Except ε α) (L : List E.Lock) (_ : List E.Write) (db db' : E.Db),
          Relied P I T L db db' → Q r db → Q r db' :=
        fun _ _ _ _ _ hR => hT.ends hR.1.1 hR.2
      exact wp_rely (R := Relied P I T) (Q := fun r _ _ db => Q r db)
        (fun _ _ _ _ => Relied.trans hT) hstays (hrely j t hji (hother j t hji hj))
        (h.safe j t (hother j t hji hj))
  · by_cases hji : j = i
    · subst hji; exact (hnew t (hself t hj)).2.1
    · exact h.covered j t (hother j t hji hj)
  · by_cases hji : j = i
    · subst hji
      exact (hnew t (hself t hj)).2.2 k u (Ne.symm hjk) (hother k u (Ne.symm hjk) hk) l hl hu
    · by_cases hki : k = i
      · subst hki
        exact (hnew u (hself u hk)).2.2 j t hji (hother j t hji hj) l hu hl
      · exact h.excl j k t u (hother j t hji hj) (hother k u hki hk) hjk l hl hu

lemma step (hT : Durable I T Q) (hprogs : ∀ p, progs p → Meets P I T Q p)
    {σ σ' : System E ι ε α} {e : Event E ι} (h : Sound P I T Q σ) (hs : Step progs σ e σ') :
    Sound P I T Q σ' ∧ T σ.db σ'.db := by
  have hstay : ∀ t : Session E ε α, Relied P I T t.held σ.db σ.db := fun t =>
    .refl hT h.inv t.held
  cases hs with
  | @start i p hi hp =>
    refine ⟨h.replace hT h.inv (fun j t _ _ => hstay t) fun s hs => ?_, hT.refl σ.db⟩
    obtain rfl := Option.some.inj hs
    exact ⟨hprogs p hp σ.db h.inv, .nil P [], by simp⟩
  -- the one step that may commit; the others' locked rows stay as they are
  | @turn i s op db' seq' s' hi ht =>
    obtain ⟨hwp, hdb⟩ := wp_turn (hstay s) (h.safe i s hi) ht
    obtain ⟨hheld, hcov, hview⟩ := turn_held (P := P) (hstay s) (h.safe i s hi)
      (h.covered i s hi) ht
    have hmove : I db' ∧ T σ.db db' := by
      rcases hdb with rfl | ⟨-, hmove⟩
      · exact ⟨h.inv, hT.refl σ.db⟩
      · exact hmove
    refine ⟨h.replace hT hmove.1 (fun j t hji hj =>
      h.rely_of_turn (Ne.symm hji) hi hj hmove.1 hmove.2 hview) fun s hs => ?_, hmove.2⟩
    obtain rfl := Option.some.inj hs
    refine ⟨hwp, hcov, fun j t hji hj l hl hu => ?_⟩
    rcases hheld l hl with hl | hfree
    · exact h.excl i j _ t hi hj (Ne.symm hji) l hl hu
    · exact hfree j hji t hj hu
  -- a statement that is given up leaves the session its locks and writes
  | @fail i q k L W hi =>
    refine ⟨h.replace hT h.inv (fun j t _ _ => hstay t) fun s hs => ?_, hT.refl σ.db⟩
    obtain rfl := Option.some.inj hs
    have hcov := h.covered i _ hi
    have hexcl := fun j t hji hj => h.excl i j _ t hi hj (Ne.symm hji)
    exact ⟨(h.safe i _ hi σ.db (hstay _)).2.2 trivial, hcov, hexcl⟩
  | @drop i => exact ⟨h.replace hT h.inv (fun j t _ _ => hstay t) (by simp), hT.refl σ.db⟩

omit [DecidableEq ι] in
lemma of_idle {σ : System E ι ε α} (hI : I σ.db) (hidle : ∀ i, σ.sess i = none) :
    Sound P I T Q σ :=
  ⟨hI, fun i s hi => by simp [hidle i] at hi, fun i s hi => by simp [hidle i] at hi,
    fun i _ s _ hi => by simp [hidle i] at hi⟩

lemma run (hT : Durable I T Q) (hprogs : ∀ p, progs p → Meets P I T Q p)
    {σ σ' : System E ι ε α} {tr : List (Event E ι)} (h : Sound P I T Q σ)
    (hr : Run progs σ tr σ') : Sound P I T Q σ' ∧ T σ.db σ'.db := by
  induction hr with
  | nil => exact ⟨h, hT.refl _⟩
  | snoc _ hs ih =>
    obtain ⟨hsound, hmove⟩ := step hT hprogs ih.1 hs
    exact ⟨hsound, hT.trans ih.2 hmove⟩

end Sound

/-- **Soundness of the logic**: an invariant that every program keeps on its own holds in
every state that any number of sessions reach together, in any order of their steps. -/
theorem invariant_of_keeps {P : Protection E} {I : E.Db → Prop} {progs : Prog E ε α → Prop}
    (hP : P.Statementwise) (hprogs : ∀ p, progs p → Keeps P I p) {σ σ' : System E ι ε α}
    {tr : List (Event E ι)}
    (hI : I σ.db) (hidle : ∀ i, σ.sess i = none) (hr : Run progs σ tr σ') : I σ'.db :=
  (Sound.run (P := P) (T := fun _ _ => True) (Q := fun _ _ => True)
    ⟨fun _ => trivial, fun _ _ => trivial, fun _ _ _ => trivial⟩
    (fun p hp => (hprogs p hp).meets hP)
    (Sound.of_idle hI hidle) hr).1.inv

end IncidentGate.Lib.RowLockLogic
