import IncidentGate.Lib.RowLockTrace
import IncidentGate.Lib.RowLockAlone

/-!
A part of the store that one lock guards.

Whoever writes the part holds the lock, so a transaction that holds it sees the part move by its own
writes only. What a commit does to the part is then a matter of that transaction alone, and a run
is a chain of such commits.
-/

namespace IncidentGate.Lib.RowLockPart

open ScriptTree ScriptTree.Script RowLock RowLockLogic RowLockTrace RowLockAlone

variable {E : Engine} {ε ε' α β ι K Γ : Type}

/-- A part of the store, with the writes that reach it and what each does to it. -/
structure Part (E : Engine) (Γ : Type) where
  lock : E.Lock
  read : E.Db → Γ
  touches : E.Write → Bool
  change : Γ → E.Write → Γ
  read_apply : ∀ db w, read (E.apply db w) = change (read db) w
  change_of_not : ∀ γ w, touches w = false → change γ w = γ

namespace Part

variable (S : Part E Γ)

lemma read_view (W : List E.Write) (db : E.Db) :
    S.read (view db W) = W.foldl S.change (S.read db) := by
  induction W generalizing db with
  | nil => rfl
  | cons w W ih => rw [view_cons, ih, S.read_apply, List.foldl_cons]

lemma foldl_untouched {W : List E.Write} (h : ∀ w ∈ W, S.touches w = false) (γ : Γ) :
    W.foldl S.change γ = γ := by
  induction W with
  | nil => rfl
  | cons w W ih =>
    rw [List.foldl_cons, S.change_of_not γ w (h w List.mem_cons_self)]
    exact ih fun v hv => h v (List.mem_cons_of_mem _ hv)

/-- The locks of `P`, the one of the part guarding the part as well. -/
def protection (P : Protection E) : Protection E where
  Keep l a b := P.Keep l a b ∧ (l = S.lock → S.read b = S.read a)
  guards w := P.guards w ++ if S.touches w then [S.lock] else []
  refl l db := ⟨P.refl l db, fun _ => rfl⟩
  trans h h' := ⟨P.trans h.1 h'.1, fun hl => (h'.2 hl).trans (h.2 hl)⟩
  frame := by
    intro w l db hl
    rw [List.mem_append, not_or] at hl
    refine ⟨P.frame db hl.1, fun hlock => ?_⟩
    rw [S.read_apply]
    refine S.change_of_not _ w ?_
    by_contra htouches
    rw [Bool.not_eq_false] at htouches
    exact hl.2 (by simp [htouches, hlock])

variable {S} {P : Protection E}

lemma covers_append (hP : P.Statementwise) {L : List E.Lock} {W ws : List E.Write} {q : E.Stmt}
    {s s' : E.Seq} {db : E.Db} {r : E.Reply q} (he : E.exec q s db = (s', .ok (r, ws)))
    (hc : (S.protection P).Covers L W) (hlock : (∀ w ∈ ws, S.touches w = false) ∨ S.lock ∈ L) :
    (S.protection P).Covers (L ++ E.locks q db) (W ++ ws) := by
  refine hc.append fun w hw l hl => ?_
  rcases List.mem_append.mp hl with hl | hl
  · exact List.mem_append_right _ (hP _ _ _ _ _ _ he w hw l hl)
  · rcases hlock with hno | hlock
    · simp [hno w hw] at hl
    · split at hl
      · obtain rfl := List.mem_singleton.mp hl
        exact List.mem_append_left _ hlock
      · cases hl

end Part

/-! ### A script under the lock -/

section
variable (S : Part E Γ)

/-- Every run of a script under the lock, from the part as it sees it, returns as `Q` says of the
part it then sees; an exception is left to the rollback. -/
def held : Prog E ε α → (α → Γ → Prop) → Γ → Prop
  | .ret a, Q, γ => Q a γ
  | .raise _, _, _ => True
  | .ask (.stmt q) k, Q, γ =>
      (∀ s s' db r ws, S.read db = γ → E.exec q s db = (s', .ok (r, ws)) →
        held (k (.ok r)) Q (ws.foldl S.change γ)) ∧
      ∀ e, held (k (.error e)) Q γ
  | .ask .commit _, _, _ => False
  | .ask .rollback _, _, _ => False
  | .ask (.input _) k, Q, γ => ∀ a, held (k a) Q γ

/-- A question that leaves the part alone. -/
def Aside : Op E → Prop
  | .stmt q => ∀ s db s' r ws, E.exec q s db = (s', .ok (r, ws)) → ∀ w ∈ ws, S.touches w = false
  | _ => True

/-- A question inside a transaction that keeps an invariant of the part. -/
def Keeps (K : Γ → Prop) : Op E → Prop
  | .stmt q => ∀ s db s' r ws, E.exec q s db = (s', .ok (r, ws)) →
      ∀ w ∈ ws, ∀ γ, K γ → K (S.change γ w)
  | .commit => False
  | .rollback => False
  | .input _ => True

/-- A question inside a transaction that leaves the part alone. -/
def Idle (q : Op E) : Prop := Aside S q ∧ q ≠ .commit ∧ q ≠ .rollback

end

section
variable {S : Part E Γ} {P : Protection E} {I : E.Db → Prop} {G : E.Db → E.Db → Prop}
  {L : List E.Lock} {W : List E.Write} {db : E.Db}

lemma held_mono {Q Q' : α → Γ → Prop} (hQ : ∀ a γ, Q a γ → Q' a γ) {p : Prog E ε α} {γ : Γ}
    (h : held S p Q γ) : held S p Q' γ := by
  induction p generalizing γ with
  | ret a => exact hQ a γ h
  | raise e => trivial
  | ask q k ih =>
    cases q with
    | stmt q =>
      exact ⟨fun s s' db r ws hdb he => ih _ (h.1 s s' db r ws hdb he), fun e => ih _ (h.2 e)⟩
    | commit => exact h
    | rollback => exact h
    | input i => exact fun a => ih _ (h a)

/-- The rule for one script after another. -/
lemma held_bind {Q : β → Γ → Prop} {p : Prog E ε α} {f : α → Prog E ε β} {γ : Γ}
    (h : held S p (fun a γ => held S (f a) Q γ) γ) : held S (p.bind f) Q γ := by
  induction p generalizing γ with
  | ret a => exact h
  | raise e => trivial
  | ask q k ih =>
    cases q with
    | stmt q =>
      exact ⟨fun s s' db r ws hdb he => ih _ (h.1 s s' db r ws hdb he), fun e => ih _ (h.2 e)⟩
    | commit => exact h.elim
    | rollback => exact h.elim
    | input i => exact fun a => ih _ (h a)

lemma held_keeps {K : Γ → Prop} {p : Prog E ε α} {γ : Γ} (hp : p.Asks (Keeps S K)) (hγ : K γ) :
    held S p (fun _ => K) γ := by
  induction p generalizing γ with
  | ret a => exact hγ
  | raise e => trivial
  | ask q k ih =>
    cases q with
    | stmt q =>
      refine ⟨fun s s' db r ws _ he => ih _ (hp.2 _) ?_, fun e => ih _ (hp.2 _) hγ⟩
      have hws : ∀ (us : List E.Write) δ, (∀ w ∈ us, w ∈ ws) → K δ → K (us.foldl S.change δ) := by
        intro us
        induction us with
        | nil => exact fun _ _ hδ => hδ
        | cons w us ihs =>
          exact fun δ hmem hδ => ihs _ (fun v hv => hmem v (List.mem_cons_of_mem _ hv))
            (hp.1 s db s' r ws he w (hmem w List.mem_cons_self) δ hδ)
      exact hws ws γ (fun _ hw => hw) hγ
    | commit => exact hp.1.elim
    | rollback => exact hp.1.elim
    | input i => exact fun a => ih _ (hp.2 _) hγ

/-- What is proved of a script under the lock holds of a session that no other one disturbs. -/
lemma solo_held {w : World E} {Q : α → Γ → Prop} {p : Prog E ε α} {σ σ' : Solo E} {a : α}
    (h : held S p Q (S.read (sight σ))) (hs : solo w p σ = (.ok a, σ')) :
    Q a (S.read (sight σ')) := by
  induction p generalizing σ with
  | ret a =>
    obtain ⟨hr, rfl⟩ := Prod.mk.inj hs
    obtain rfl := Except.ok.inj hr
    exact h
  | raise e => cases hs
  | ask q k ih =>
    cases q with
    | stmt q =>
      simp only [solo] at hs
      split at hs
      · exact @ih _ ⟨σ.db, σ.seq, σ.tick + 1, σ.wrote⟩ (h.2 _) hs
      · split at hs
        · rename_i he
          refine ih _ ?_ hs
          rw [sight, view_append, S.read_view]
          exact h.1 _ _ _ _ _ rfl he
        · exact @ih _ ⟨σ.db, _, σ.tick + 1, σ.wrote⟩ (h.2 _) hs
    | commit => exact h.elim
    | rollback => exact h.elim
    | input i =>
      simp only [solo] at hs
      exact @ih _ ⟨σ.db, σ.seq, σ.tick + 1, σ.wrote⟩ (h _) hs

/-- What is proved of a script under the lock holds among other sessions. -/
lemma wp_held (hP : P.Statementwise) {Q : α → Γ → Prop} {p : Prog E ε α} (hlock : S.lock ∈ L)
    (hc : (S.protection P).Covers L W) (hI : I db) (h : held S p Q (S.read (view db W))) :
    wpWithin True (S.protection P).Covers (Relied (S.protection P) I fun _ _ => True) G p
      (Ok fun a L' W' db' => S.lock ∈ L' ∧ (S.protection P).Covers L' W' ∧ I db' ∧
        S.read db' = S.read db ∧ Q a (S.read (view db' W'))) L W db := by
  induction p generalizing L W db with
  | ret a => exact ⟨hlock, hc, hI, rfl, h⟩
  | raise e => trivial
  | ask q k ih =>
    cases q with
    | stmt q =>
      intro db' hR
      -- nobody else touches the part while its lock is held
      have hread : S.read db' = S.read db := (hR.1.2 S.lock hlock).2 rfl
      have hview : S.read (view db' W) = S.read (view db W) := by
        rw [S.read_view, S.read_view, hread]
      have hend : ∀ {a : α} {L' : List E.Lock} {W' : List E.Write} {db'' : E.Db},
          (S.lock ∈ L' ∧ (S.protection P).Covers L' W' ∧ I db'' ∧ S.read db'' = S.read db' ∧
            Q a (S.read (view db'' W'))) →
          (S.lock ∈ L' ∧ (S.protection P).Covers L' W' ∧ I db'' ∧ S.read db'' = S.read db ∧
            Q a (S.read (view db'' W'))) := by
        rintro a L' W' db'' ⟨hl, hcovers, hinv, hsame, hq⟩
        exact ⟨hl, hcovers, hinv, hsame.trans hread, hq⟩
      refine ⟨fun s s' r ws he => ⟨Part.covers_append hP he hc (.inr hlock), ?_⟩,
        fun s s' e he => ?_, fun _ => ?_⟩
      · refine wp_ok_mono (fun a L' W' db'' => hend) (ih _ (List.mem_append_left _ hlock)
          (Part.covers_append hP he hc (.inr hlock)) hR.1.1 ?_)
        rw [view_append, S.read_view ws, hview]
        exact h.1 s s' (view db' W) r ws hview he
      · exact wp_ok_mono (fun a L' W' db'' => hend) (ih _ (List.mem_append_left _ hlock)
          (fun w hw l hl => List.mem_append_left _ (hc w hw l hl)) hR.1.1 (hview ▸ h.2 e))
      · exact wp_ok_mono (fun a L' W' db'' => hend)
          (ih _ hlock hc hR.1.1 (hview ▸ h.2 E.failure))
    | commit => exact h.elim
    | rollback => exact h.elim
    | input i => exact fun a => ih _ hlock hc hI (h a)

lemma wp_idle (hP : P.Statementwise) {X : ε → Prop} {p : Prog E ε α} (hp : p.Within (Idle S) X)
    (hc : (S.protection P).Covers L W) (hW : ∀ w ∈ W, S.touches w = false) (hI : I db) :
    wpWithin True (S.protection P).Covers (Relied (S.protection P) I fun _ _ => True) G p
      (Ok fun _ L' W' db' => (S.protection P).Covers L' W' ∧ (∀ w ∈ W', S.touches w = false) ∧
        I db') L W db := by
  induction p generalizing L W db with
  | ret a => exact ⟨hc, hW, hI⟩
  | raise e => trivial
  | ask q k ih =>
    cases q with
    | stmt q =>
      intro db' hR
      refine ⟨fun s s' r ws he => ?_, fun s s' e he => ?_,
        fun _ => ih _ (hp.2 _) hc hW hR.1.1⟩
      · have hws := hp.1.1 s _ s' r ws he
        have hcovers := Part.covers_append hP he hc (.inl hws)
        refine ⟨hcovers, ih _ (hp.2 _) hcovers (fun w hw => ?_) hR.1.1⟩
        exact (List.mem_append.mp hw).elim (hW w) (hws w)
      · exact ih _ (hp.2 _) (fun w hw l hl => List.mem_append_left _ (hc w hw l hl)) hW hR.1.1
    | commit => exact absurd rfl hp.1.2.1
    | rollback => exact absurd rfl hp.1.2.2
    | input i => exact fun a => ih _ (hp.2 _) hc hW hI

end

/-! ### Programs -/

lemma wp_guarantee {F : Prop} {C : List E.Lock → List E.Write → Prop}
    {R : List E.Lock → E.Db → E.Db → Prop} {G G' : E.Db → E.Db → Prop} (hG : ∀ a b, G a b → G' a b)
    {p : Prog E ε α} {Q : Post E ε α} {L : List E.Lock} {W : List E.Write} {db : E.Db}
    (h : wpWithin F C R G p Q L W db) : wpWithin F C R G' p Q L W db := by
  induction p generalizing L W db with
  | ret a => exact h
  | raise e => exact h
  | ask q k ih =>
    cases q with
    | stmt q =>
      intro db' hR
      obtain ⟨hok, herr, hfail⟩ := h db' hR
      exact ⟨fun s s' r ws he => ⟨(hok s s' r ws he).1, ih _ (hok s s' r ws he).2⟩,
        fun s s' e he => ih _ (herr s s' e he), fun hF => ih _ (hfail hF)⟩
    | commit => exact fun db' hR => ⟨hG _ _ (h db' hR).1, ih _ (h db' hR).2⟩
    | rollback => exact fun db' hR => ih _ (h db' hR)
    | input i => exact fun a => ih _ (h a)

section
variable (S : Part E Γ) (P : Protection E) (I : E.Db → Prop) (G : E.Db → E.Db → Prop)

/-- Among sessions that keep the invariant, a program commits within `G` and makes its writes under
its locks. -/
def Obeys (p : Prog E ε α) : Prop :=
  ∀ db, I db → wpWithin True (S.protection P).Covers (Relied (S.protection P) I fun _ _ => True) G p
    (fun _ _ _ _ => True) [] [] db

/-- A program that obeys, and ends with nothing locked and nothing pending. -/
def Closes (p : Prog E ε α) : Prop :=
  ∀ db, I db → wpWithin True (S.protection P).Covers (Relied (S.protection P) I fun _ _ => True) G p
    (fun _ L W db => L = [] ∧ W = [] ∧ I db) [] [] db

end

section
variable {S : Part E Γ} {P : Protection E} {I : E.Db → Prop} {G : E.Db → E.Db → Prop}

lemma Closes.obeys {p : Prog E ε α} (h : Closes S P I G p) : Obeys S P I G p := fun db hI =>
  wp_mono (fun _ _ _ _ _ => trivial) (h db hI)

lemma Closes.ret (a : α) : Closes S P I G (.ret a : Prog E ε α) := fun _ h => ⟨rfl, rfl, h⟩

lemma Closes.raise (e : ε) : Closes S P I G (.raise e : Prog E ε α) := fun _ h => ⟨rfl, rfl, h⟩

lemma Closes.input {i : E.Input} {k : E.Answer i → Prog E ε α} (hk : ∀ a, Closes S P I G (k a)) :
    Closes S P I G (.ask (.input i) k) := fun db h a => hk a db h

lemma Closes.elim {p : Prog E ε α} {f : Except ε α → Prog E ε' β} (hp : Closes S P I G p)
    (hf : ∀ r, Closes S P I G (f r)) : Closes S P I G (p.elim f) := by
  intro db h
  refine wp_elim (wp_mono (fun r L W db' hr => ?_) (hp db h))
  obtain ⟨rfl, rfl, hI⟩ := hr
  exact hf r db' hI

lemma Closes.bind {p : Prog E ε α} {f : α → Prog E ε β} (hp : Closes S P I G p)
    (hf : ∀ a, Closes S P I G (f a)) : Closes S P I G (p.bind f) :=
  hp.elim fun
    | .ok a => hf a
    | .error e => raise e

lemma Closes.handle {p : Prog E ε α} {h : ε → Prog E ε' α} (hp : Closes S P I G p)
    (hh : ∀ e, Closes S P I G (h e)) : Closes S P I G (p.handle h) :=
  hp.elim fun
    | .ok a => ret a
    | .error e => hh e

/-- A program that leaves the part alone keeps what is said of the part, and moves nothing. -/
lemma obeys_aside (hP : P.Statementwise)
    (hkeep : ∀ a b, S.read b = S.read a → I a → I b ∧ G a b) {p : Prog E ε α}
    (hp : p.Asks (Aside S)) : Obeys S P I G p := by
  intro db hI
  -- no write of the program touches the part, whatever it has pending
  suffices hwp : ∀ {L W db}, (S.protection P).Covers L W → (∀ w ∈ W, S.touches w = false) → I db →
      wpWithin True (S.protection P).Covers (Relied (S.protection P) I fun _ _ => True) G p
        (fun _ _ _ _ => True) L W db from
    hwp (Protection.Covers.nil _ []) (by simp) hI
  clear hI db
  induction p with
  | ret a => exact fun _ _ _ => trivial
  | raise e => exact fun _ _ _ => trivial
  | ask q k ih =>
    intro L W db hc hW hI
    cases q with
    | stmt q =>
      intro db' hR
      refine ⟨fun s s' r ws he => ?_, fun s s' e he => ?_, fun _ => ih _ (hp.2 _) hc hW hR.1.1⟩
      · have hws := hp.1 s _ s' r ws he
        have hcovers := Part.covers_append hP he hc (.inl hws)
        refine ⟨hcovers, ih _ (hp.2 _) hcovers (fun w hw => ?_) hR.1.1⟩
        exact (List.mem_append.mp hw).elim (hW w) (hws w)
      · exact ih _ (hp.2 _) (fun w hw l hl => List.mem_append_left _ (hc w hw l hl)) hW hR.1.1
    | commit =>
      intro db' hR
      -- so its commits read as the state before them
      have hread : S.read (view db' W) = S.read db' := by
        rw [S.read_view, S.foldl_untouched hW]
      obtain ⟨hI', hG⟩ := hkeep db' (view db' W) hread hR.1.1
      exact ⟨hG, ih _ (hp.2 _) (Protection.Covers.nil _ []) (by simp) hI'⟩
    | rollback =>
      exact fun db' hR => ih _ (hp.2 _) (Protection.Covers.nil _ []) (by simp) hR.1.1
    | input i => exact fun a => ih _ (hp.2 _) hc hW hI

end

/-! ### Runs of named programs -/

/-- What one commit of a run did, with the session and the name of the program that made it. -/
structure Move (E : Engine) (ι K ε α : Type) where
  session : ι
  name : K
  before : E.Db
  after : E.Db
  /-- How the session has ended with it, if that was its last question. -/
  answer : Option (Except ε α)

section
variable [DecidableEq ι]

/-- The commit of a step, if it is one. -/
def committed (names : ι → Option K) (σ σ' : System E ι ε α) :
    Event E ι → List (Move E ι K ε α)
  | .turn i .commit => (names i).toList.map fun k => ⟨i, k, σ.db, σ'.db, σ'.outcome i⟩
  | _ => []

/-- A run of named programs, with their commits in order. -/
inductive Course (prog : K → Prog E ε α) (σ₀ : System E ι ε α) :
    (ι → Option K) → List (Move E ι K ε α) → System E ι ε α → Prop where
  | nil : Course prog σ₀ (fun _ => none) [] σ₀
  | start {names ms σ i} (k : K) (h : Course prog σ₀ names ms σ) (hi : σ.sess i = none) :
    Course prog σ₀ (Function.update names i (some k)) ms
      { σ with sess := Function.update σ.sess i (some ⟨prog k, [], []⟩) }
  | step {names ms σ e σ'} (h : Course prog σ₀ names ms σ) (hs : Step (fun _ => False) σ e σ') :
    Course prog σ₀ names (ms ++ committed names σ σ' e) σ'

/-- Each commit starts from the state that the one before it left. -/
inductive Linked : E.Db → List (Move E ι K ε α) → E.Db → Prop where
  | nil (db : E.Db) : Linked db [] db
  | snoc {a ms m} (h : Linked a ms m.before) : Linked a (ms ++ [m]) m.after

/-- What holds of every state of a run: the lock discipline, and what each session may still do by
the program it was started with. -/
structure Ready (S : Part E Γ) (P : Protection E) (I : E.Db → Prop) (G : K → E.Db → E.Db → Prop)
    (names : ι → Option K) (σ : System E ι ε α) : Prop where
  sound : Sound (S.protection P) I (fun _ _ => True) (fun _ _ => True) σ
  named : ∀ i s, σ.sess i = some s → ∃ k, names i = some k ∧
    wpWithin True (S.protection P).Covers (Relied (S.protection P) I fun _ _ => True) (G k) s.prog
      (fun _ _ _ _ => True) s.held s.wrote σ.db

variable {S : Part E Γ} {P : Protection E} {I : E.Db → Prop} {G : K → E.Db → E.Db → Prop}
  {prog : K → Prog E ε α} {σ₀ σ σ' : System E ι ε α} {names : ι → Option K}
  {ms : List (Move E ι K ε α)} {e : Event E ι}

lemma durable_trivial : Durable I (fun _ _ => True) (fun (_ : Except ε α) (_ : E.Db) => True) :=
  ⟨fun _ => trivial, fun _ _ => trivial, fun _ _ _ => trivial⟩

lemma Obeys.meets (hG : ∀ k a b, G k a b → I b) {k : K} {p : Prog E ε α}
    (h : Obeys S P I (G k) p) :
    Meets (S.protection P) I (fun _ _ => True) (fun _ _ => True) p := fun db hI =>
  wp_guarantee (fun a b hab => ⟨hG k a b hab, trivial⟩) (h db hI)

omit [DecidableEq ι] in
lemma Ready.other (h : Ready S P I G names σ) {j : ι} {t : Session E ε α} (hj : σ.sess j = some t)
    {db' : E.Db} (hrely : Relied (S.protection P) I (fun _ _ => True) t.held σ.db db') :
    ∃ k, names j = some k ∧ wpWithin True (S.protection P).Covers
      (Relied (S.protection P) I fun _ _ => True) (G k) t.prog (fun _ _ _ _ => True) t.held t.wrote
      db' := by
  obtain ⟨k, hk, hwp⟩ := h.named j t hj
  exact ⟨k, hk, wp_rely (R := Relied (S.protection P) I fun _ _ => True)
    (Q := fun _ _ _ _ => True)
    (fun _ _ _ _ => Relied.trans (durable_trivial (ε := ε) (α := α) (I := I)))
    (fun _ _ _ _ _ _ _ => trivial) hrely hwp⟩

lemma Ready.replace {names' : ι → Option K} (h : Ready S P I G names σ)
    (hsound : Sound (S.protection P) I (fun _ _ => True) (fun _ _ => True) σ') {i : ι}
    {o : Option (Session E ε α)} (hsess : σ'.sess = Function.update σ.sess i o)
    (hrely : ∀ j t, j ≠ i → σ.sess j = some t →
      Relied (S.protection P) I (fun _ _ => True) t.held σ.db σ'.db)
    (hnames : ∀ j, j ≠ i → names' j = names j)
    (hnew : ∀ s, o = some s → ∃ k, names' i = some k ∧ wpWithin True (S.protection P).Covers
      (Relied (S.protection P) I fun _ _ => True) (G k) s.prog (fun _ _ _ _ => True) s.held s.wrote
      σ'.db) : Ready S P I G names' σ' := by
  refine ⟨hsound, fun j t hj => ?_⟩
  rw [hsess] at hj
  by_cases hji : j = i
  · subst hji
    rw [Function.update_self] at hj
    exact hnew t hj
  · rw [Function.update_of_ne hji] at hj
    rw [hnames j hji]
    exact h.other hj (hrely j t hji hj)

/-- A step commits nothing and leaves the store as it was, or is one commit of a named program. -/
lemma Ready.step (h : Ready S P I G names σ) (hs : Step (fun _ => False) σ e σ') :
    Ready S P I G names σ' ∧ ((committed names σ σ' e = [] ∧ σ'.db = σ.db) ∨
      ∃ m, committed names σ σ' e = [m] ∧ m.before = σ.db ∧ m.after = σ'.db ∧
        G m.name m.before m.after) := by
  have hsound := (Sound.step (durable_trivial (I := I)) (fun _ hp => hp.elim) h.sound hs).1
  have hstay : ∀ t : Session E ε α, Relied (S.protection P) I (fun _ _ => True) t.held σ.db σ.db :=
    fun t => .refl (durable_trivial (ε := ε) (α := α)) h.sound.inv t.held
  cases hs with
  | start hi hp => exact hp.elim
  -- a turn of a named session: it moves on, and only its commit moves the state
  | @turn i s op db' seq' s' hi ht =>
    obtain ⟨k, hk, hwp⟩ := h.named i s hi
    obtain ⟨-, -, hview⟩ := Sound.turn_held (hstay s) (h.sound.safe i s hi)
      (h.sound.covered i s hi) ht
    refine ⟨h.replace hsound rfl (fun j t hji hj => ?_) (fun _ _ => rfl) fun t htt => ?_, ?_⟩
    · exact h.sound.rely_of_turn (Ne.symm hji) hi hj hsound.inv trivial hview
    · obtain rfl := Option.some.inj htt
      exact ⟨k, hk, (wp_turn (hstay s) hwp ht).1⟩
    · cases ht with
      | commit =>
        exact .inr ⟨⟨i, k, _, _, _⟩, by simp [committed, hk]; rfl, rfl, rfl,
          (hwp σ.db (hstay _)).1⟩
      | _ => exact .inl ⟨rfl, rfl⟩
  | @fail i q k L W hi =>
    refine ⟨h.replace hsound rfl (fun j t _ _ => hstay t) (fun _ _ => rfl) fun t htt => ?_,
      .inl ⟨rfl, rfl⟩⟩
    obtain rfl := Option.some.inj htt
    obtain ⟨k, hk, hwp⟩ := h.named i _ hi
    exact ⟨k, hk, (hwp σ.db (hstay _)).2.2 trivial⟩
  | @drop i =>
    exact ⟨h.replace hsound rfl (fun j t _ _ => hstay t) (fun _ _ => rfl) (by simp),
      .inl ⟨rfl, rfl⟩⟩

lemma Ready.start (hG : ∀ k a b, G k a b → I b) (h : Ready S P I G names σ) {i : ι} {k : K}
    (hprog : Obeys S P I (G k) (prog k)) (hi : σ.sess i = none) :
    Ready S P I G (Function.update names i (some k))
      { σ with sess := Function.update σ.sess i (some ⟨prog k, [], []⟩) } := by
  have hstay : ∀ t : Session E ε α, Relied (S.protection P) I (fun _ _ => True) t.held σ.db σ.db :=
    fun t => .refl (durable_trivial (ε := ε) (α := α)) h.sound.inv t.held
  have hstart : Step (· = prog k) σ (.start i) _ := .start hi rfl
  have hsound := (Sound.step (durable_trivial (I := I))
    (fun p hp => hp ▸ Obeys.meets hG hprog) h.sound hstart).1
  refine h.replace hsound rfl (fun j t _ _ => hstay t)
    (fun j hji => Function.update_of_ne hji _ _) fun s hs => ?_
  obtain rfl := Option.some.inj hs
  exact ⟨k, Function.update_self .., hprog σ.db h.sound.inv⟩

/-- **A run of programs that obey is a chain of their commits**: each starts where the one before it
left the store, and does what its program may do. -/
theorem Course.commits (hprog : ∀ k, Obeys S P I (G k) (prog k)) (hG : ∀ k a b, G k a b → I b)
    (hI : I σ₀.db) (hidle : ∀ i, σ₀.sess i = none) (h : Course prog σ₀ names ms σ) :
    Ready S P I G names σ ∧ Linked σ₀.db ms σ.db ∧ ∀ m ∈ ms, G m.name m.before m.after := by
  induction h with
  | nil =>
    exact ⟨⟨.of_idle hI hidle, fun i s hi => by simp [hidle i] at hi⟩, .nil _, by simp⟩
  | start k h hi ih => exact ⟨ih.1.start hG (hprog k) hi, ih.2⟩
  | step h hs ih =>
    obtain ⟨hready, hlinked, hmoves⟩ := ih
    obtain ⟨hready', ⟨hnone, hdb⟩ | ⟨m, hone, hbefore, hafter, hmove⟩⟩ := hready.step hs
    · rw [hnone, List.append_nil, hdb]
      exact ⟨hready', hlinked, hmoves⟩
    · rw [hone, ← hafter]
      refine ⟨hready', .snoc (hbefore ▸ hlinked), fun m' hm' => ?_⟩
      rcases List.mem_append.mp hm' with hm' | hm'
      · exact hmoves m' hm'
      · obtain rfl := List.mem_singleton.mp hm'
        exact hmove

lemma Course.run {tr : List (Event E ι)} (h : Course prog σ₀ names ms σ)
    (hr : Run (fun _ => False) σ tr σ') : ∃ ms', Course prog σ₀ names ms' σ' := by
  induction hr with
  | nil => exact ⟨ms, h⟩
  | snoc hr hs ih =>
    obtain ⟨ms', hcourse⟩ := ih
    exact ⟨_, hcourse.step hs⟩

/-- On an idle server a program can run to its end as it would alone, and leave. -/
lemma Course.alone {w : World E} (hw : w.Steady) (h : Course prog σ₀ names ms σ) (k : K) (i : ι)
    (hidle : ∀ j, σ.sess j = none) :
    ∃ ms' σ', Course prog σ₀ (Function.update names i (some k)) ms' σ' ∧
      σ'.db = (solo w (prog k) ⟨σ.db, σ.seq, 0, []⟩).2.db ∧
      σ'.seq = (solo w (prog k) ⟨σ.db, σ.seq, 0, []⟩).2.seq ∧ ∀ j, σ'.sess j = none := by
  have hothers : ∀ j, j ≠ i →
      (Function.update σ.sess i (some ⟨prog k, [], []⟩) : ι → Option (Session E ε α)) j = none :=
    fun j hj => (Function.update_of_ne hj _ _).trans (hidle j)
  obtain ⟨tr, σ', hr, honly, hdb, hseq, -⟩ := run_of_solo (fun _ => False) hw 0
    (σ := { σ with sess := Function.update σ.sess i (some ⟨prog k, [], []⟩) })
    (Function.update_self ..) fun j s hj hjs => absurd hjs (by simp [hothers j hj])
  obtain ⟨ms', hcourse⟩ := (h.start k (hidle i)).run hr
  refine ⟨_, _, hcourse.step (.drop (i := i)), hdb, hseq, fun j => ?_⟩
  by_cases hji : j = i
  · exact hji ▸ Function.update_self ..
  · refine (Function.update_of_ne hji _ _).trans ?_
    rw [sess_eq (fun e he => (honly e he).elim fun op h => ⟨i, op, h⟩) (fun op hop => ?_) hr]
    · exact hothers j hji
    · obtain ⟨op', hop'⟩ := honly _ hop
      exact hji (Event.turn.inj hop').1

end

/-! ### Numbers -/

/-- Rows of the part that are numbered by a counter. The counter is shared with everyone and no
rollback takes a number back. -/
structure Numbering (S : Part E Γ) where
  counter : E.Seq → ℕ
  number : E.Write → Option ℕ
  numbers : Γ → List ℕ
  touches : ∀ w, (number w).isSome → S.touches w = true
  change : ∀ γ w, (numbers (S.change γ w)).Sublist (numbers γ ++ (number w).toList)
  grows : ∀ q s db, counter s ≤ counter (E.exec q s db).1
  fresh : ∀ q s db s' r ws, E.exec q s db = (s', .ok (r, ws)) →
    (ws.filterMap number).Pairwise (· < ·) ∧
      ∀ n ∈ ws.filterMap number, counter s < n ∧ n ≤ counter s'

namespace Numbering

variable {S : Part E Γ} (N : Numbering S)

lemma numbers_foldl (W : List E.Write) (γ : Γ) :
    (N.numbers (W.foldl S.change γ)).Sublist (N.numbers γ ++ W.filterMap N.number) := by
  induction W generalizing γ with
  | nil => simp
  | cons w W ih =>
    rw [List.foldl_cons]
    have hstep := (ih _).trans ((N.change γ w).append_right (W.filterMap N.number))
    rw [List.append_assoc] at hstep
    rwa [show (w :: W).filterMap N.number = (N.number w).toList ++ W.filterMap N.number by
      cases hw : N.number w <;> simp [hw]]

/-- What is committed is numbered in order, and before what each session has yet to commit. -/
structure Ordered [DecidableEq ι] (σ : System E ι ε α) : Prop where
  committed : (N.numbers (S.read σ.db)).Pairwise (· < ·)
  bounded : ∀ n ∈ N.numbers (S.read σ.db), n ≤ N.counter σ.seq
  pending : ∀ i s, σ.sess i = some s → (s.wrote.filterMap N.number).Pairwise (· < ·) ∧
    ∀ n ∈ s.wrote.filterMap N.number, n ≤ N.counter σ.seq ∧
      ∀ m ∈ N.numbers (S.read σ.db), m < n

variable [DecidableEq ι] {P : Protection E} {I : E.Db → Prop} {σ σ' : System E ι ε α}
  {progs : Prog E ε α → Prop} {e : Event E ι}

lemma Ordered.replace (h : N.Ordered σ) {i : ι} {o : Option (Session E ε α)} {db' : E.Db}
    {seq' : E.Seq} (hgrows : N.counter σ.seq ≤ N.counter seq')
    (hcommitted : (N.numbers (S.read db')).Pairwise (· < ·))
    (hbounded : ∀ n ∈ N.numbers (S.read db'), n ≤ N.counter seq')
    (hothers : ∀ j t, j ≠ i → σ.sess j = some t → ∀ n ∈ t.wrote.filterMap N.number,
      ∀ m ∈ N.numbers (S.read db'), m < n)
    (hnew : ∀ s, o = some s → (s.wrote.filterMap N.number).Pairwise (· < ·) ∧
      ∀ n ∈ s.wrote.filterMap N.number, n ≤ N.counter seq' ∧
        ∀ m ∈ N.numbers (S.read db'), m < n) :
    N.Ordered ⟨db', seq', Function.update σ.sess i o⟩ := by
  refine ⟨hcommitted, hbounded, fun j t hj => ?_⟩
  dsimp only at hj
  by_cases hji : j = i
  · subst hji
    rw [Function.update_self] at hj
    exact hnew t hj
  · rw [Function.update_of_ne hji] at hj
    obtain ⟨hpairwise, hbound⟩ := h.pending j t hj
    exact ⟨hpairwise, fun n hn => ⟨Nat.le_trans (hbound n hn).1 hgrows, hothers j t hji hj n hn⟩⟩

omit [DecidableEq ι] in
/-- A session with a numbered row pending holds the lock, so no other session changes the part. -/
lemma untouched_of_pending {T : E.Db → E.Db → Prop} {Q : Except ε α → E.Db → Prop}
    (h : Sound (S.protection P) I T Q σ) {i j : ι} (hij : i ≠ j) {s t : Session E ε α}
    (hi : σ.sess i = some s) (hj : σ.sess j = some t) {n : ℕ}
    (hn : n ∈ t.wrote.filterMap N.number) : ∀ w ∈ s.wrote, S.touches w = false := by
  obtain ⟨v, hv, hnumber⟩ := List.mem_filterMap.mp hn
  have hguard : ∀ w, S.touches w = true → S.lock ∈ (S.protection P).guards w := by
    intro w hw
    simp [Part.protection, hw]
  have hheld : S.lock ∈ t.held :=
    h.covered j t hj v hv _ (hguard v (N.touches v (by simp [hnumber])))
  intro w hw
  by_contra htouches
  rw [Bool.not_eq_false] at htouches
  exact h.excl i j s t hi hj hij _ (h.covered i s hi w hw _ (hguard w htouches)) hheld

lemma Ordered.step {T : E.Db → E.Db → Prop} {Q : Except ε α → E.Db → Prop}
    (hsound : Sound (S.protection P) I T Q σ) (h : N.Ordered σ) (hs : Step progs σ e σ') :
    N.Ordered σ' := by
  have hothers : ∀ i j t, j ≠ i → σ.sess j = some t → ∀ n ∈ t.wrote.filterMap N.number,
      ∀ m ∈ N.numbers (S.read σ.db), m < n := fun _ j t _ hj n hn => ((h.pending j t hj).2 n hn).2
  have hstay : ∀ {i o}, (∀ s, o = some s → (s.wrote.filterMap N.number).Pairwise (· < ·) ∧
      ∀ n ∈ s.wrote.filterMap N.number, n ≤ N.counter σ.seq ∧
        ∀ m ∈ N.numbers (S.read σ.db), m < n) →
      N.Ordered ⟨σ.db, σ.seq, Function.update σ.sess i o⟩ := fun {i o} hnew =>
    h.replace N (Nat.le_refl _) h.committed h.bounded (hothers i) hnew
  cases hs with
  | start hi hp => exact hstay fun s hs => by cases hs; simp
  | @turn i s op db' seq' s' hi ht =>
    obtain ⟨hpairwise, hbound⟩ := h.pending i s hi
    cases ht with
    | @stmt q k L W s₁ r ws hfree hexec =>
      -- a statement numbers its rows above the counter, so above all that is there
      have hgrows : N.counter σ.seq ≤ N.counter seq' := by
        have := N.grows q σ.seq (view σ.db W)
        rwa [hexec] at this
      obtain ⟨hnew, hrange⟩ := N.fresh _ _ _ _ _ _ hexec
      refine h.replace N hgrows h.committed (fun n hn => Nat.le_trans (h.bounded n hn) hgrows)
        (hothers i) fun t ht => ?_
      cases ht
      rw [List.filterMap_append]
      refine ⟨List.pairwise_append.mpr ⟨hpairwise, hnew, fun a ha b hb =>
        Nat.lt_of_le_of_lt (hbound a ha).1 (hrange b hb).1⟩, fun n hn => ?_⟩
      rcases List.mem_append.mp hn with hn | hn
      · exact ⟨Nat.le_trans (hbound n hn).1 hgrows, (hbound n hn).2⟩
      · exact ⟨(hrange n hn).2, fun m hm => Nat.lt_of_le_of_lt (h.bounded m hm) (hrange n hn).1⟩
    | @refused q k L W s₁ e hfree hexec =>
      have hgrows : N.counter σ.seq ≤ N.counter seq' := by
        have := N.grows q σ.seq (view σ.db W)
        rwa [hexec] at this
      refine h.replace N hgrows h.committed (fun n hn => Nat.le_trans (h.bounded n hn) hgrows)
        (hothers i) fun t ht => ?_
      cases ht
      exact ⟨hpairwise, fun n hn => ⟨Nat.le_trans (hbound n hn).1 hgrows, (hbound n hn).2⟩⟩
    -- the pending rows were numbered after the committed ones
    | @commit k L W =>
      have hsub := N.numbers_foldl W (S.read σ.db)
      rw [← S.read_view] at hsub
      refine h.replace N (Nat.le_refl _) ?_ (fun n hn => ?_) (fun j t hji hj n hn m hm => ?_)
        fun t ht => by cases ht; simp
      · refine List.Pairwise.sublist hsub ?_
        exact List.pairwise_append.mpr ⟨h.committed, hpairwise, fun a ha b hb =>
          (hbound b hb).2 a ha⟩
      · exact (List.mem_append.mp (hsub.subset hn)).elim (h.bounded n) fun hn => (hbound n hn).1
      · -- another session with a row pending would hold the lock
        have huntouched := N.untouched_of_pending hsound (Ne.symm hji) hi hj hn
        rw [S.read_view, S.foldl_untouched huntouched] at hm
        exact hothers i j t hji hj n hn m hm
    | rollback => exact hstay fun t ht => by cases ht; simp
    | input a => exact hstay fun t ht => by cases ht; exact ⟨hpairwise, hbound⟩
  | @fail i q k L W hi =>
    have hpending := h.pending i _ hi
    exact hstay fun t ht => by cases ht; exact hpending
  | drop => exact hstay fun t ht => by cases ht

/-- **Rows that are numbered under the lock are numbered in the order of their commits.** -/
theorem Ordered.course {G : K → E.Db → E.Db → Prop} {prog : K → Prog E ε α}
    {σ₀ : System E ι ε α} {names : ι → Option K} {ms : List (Move E ι K ε α)}
    (hprog : ∀ k, Obeys S P I (G k) (prog k)) (hG : ∀ k a b, G k a b → I b)
    (hI : I σ₀.db) (hidle : ∀ i, σ₀.sess i = none)
    (hcommitted : (N.numbers (S.read σ₀.db)).Pairwise (· < ·))
    (hbounded : ∀ n ∈ N.numbers (S.read σ₀.db), n ≤ N.counter σ₀.seq)
    (h : Course prog σ₀ names ms σ) : N.Ordered σ := by
  induction h with
  | nil => exact ⟨hcommitted, hbounded, fun i s hi => by simp [hidle i] at hi⟩
  | start k h hi ih =>
    have hstart : Step (· = prog k) _ (.start _) _ := .start hi rfl
    exact ih.step N (h.commits hprog hG hI hidle).1.sound hstart
  | step h hs ih => exact ih.step N (h.commits hprog hG hI hidle).1.sound hs

end Numbering

end IncidentGate.Lib.RowLockPart
