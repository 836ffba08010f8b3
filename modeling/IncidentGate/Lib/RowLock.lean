import IncidentGate.Lib.ScriptTree
import Mathlib.Data.List.Basic

/-!
Transactions over a store with row locks, at the isolation level READ COMMITTED.

A statement reads the newest committed state under the transaction's own writes. It runs when
no other session holds a lock it needs, and the locks are kept until the transaction ends.
Writes reach the store at `commit` only. Counters are shared and never rolled back.
-/

namespace IncidentGate.Lib.RowLock

open ScriptTree

/-- What a server can do: its statements, the locks they take and the writes they make. -/
structure Engine where
  Db : Type
  Seq : Type
  Stmt : Type
  Reply : Stmt → Type
  Err : Type
  Lock : Type
  Write : Type
  Input : Type
  Answer : Input → Type
  apply : Db → Write → Db
  locks : Stmt → Db → List Lock
  exec : (q : Stmt) → Seq → Db → Seq × Except Err (Reply q × List Write)
  /-- The server gives a statement up: a deadlock, a timeout, a lost connection. -/
  failure : Err

variable (E : Engine)

/-- A question of a program: a statement, the end of its transaction, or an outside input. -/
inductive Op where
  | stmt (q : E.Stmt)
  | commit
  | rollback
  | input (i : E.Input)

variable {E} in
@[reducible] def Op.Ans : Op E → Type
  | .stmt q => Except E.Err (E.Reply q)
  | .commit => Unit
  | .rollback => Unit
  | .input i => E.Answer i

abbrev Prog (ε α : Type) := Script (Op E) Op.Ans ε α

variable {E} {ε ε' α β : Type}

/-- The committed state under a transaction's own writes. -/
def view (db : E.Db) (ws : List E.Write) : E.Db := ws.foldl E.apply db

@[simp] lemma view_nil (db : E.Db) : view db ([] : List E.Write) = db := rfl

@[simp] lemma view_cons (db : E.Db) (w : E.Write) (ws : List E.Write) :
    view db (w :: ws) = view (E.apply db w) ws := rfl

lemma view_append (db : E.Db) (us ws : List E.Write) :
    view db (us ++ ws) = view (view db us) ws := by
  simp [view, List.foldl_append]

/-! ### One session alone -/

/-- What a session meets at its n-th question: the answer of the outside world, or a server
that gives the statement up. -/
structure World (E : Engine) where
  answer : ℕ → (i : E.Input) → E.Answer i
  fails : ℕ → Bool

/-- No statement is given up. -/
def World.Steady (w : World E) : Prop := ∀ n, w.fails n = false

/-- A session that no other session disturbs. -/
structure Solo (E : Engine) where
  db : E.Db
  seq : E.Seq
  tick : ℕ := 0
  wrote : List E.Write := []

/-- The run of a program alone. -/
def solo (w : World E) : Prog E ε α → Solo E → Except ε α × Solo E
  | .ret a, σ => (.ok a, σ)
  | .raise e, σ => (.error e, σ)
  | .ask (.stmt q) k, σ =>
    if w.fails σ.tick then solo w (k (.error E.failure)) { σ with tick := σ.tick + 1 }
    else
      match E.exec q σ.seq (view σ.db σ.wrote) with
      | (s, .ok (r, ws)) =>
        solo w (k (.ok r)) { σ with seq := s, tick := σ.tick + 1, wrote := σ.wrote ++ ws }
      | (s, .error e) => solo w (k (.error e)) { σ with seq := s, tick := σ.tick + 1 }
  | .ask .commit k, σ => solo w (k ()) { σ with db := view σ.db σ.wrote, wrote := [] }
  | .ask .rollback k, σ => solo w (k ()) { σ with wrote := [] }
  | .ask (.input i) k, σ => solo w (k (w.answer σ.tick i)) { σ with tick := σ.tick + 1 }

section
variable (w : World E)

@[simp] lemma solo_ret (a : α) (σ : Solo E) :
    solo w (.ret a : Prog E ε α) σ = (.ok a, σ) := rfl

@[simp] lemma solo_raise (e : ε) (σ : Solo E) :
    solo w (.raise e : Prog E ε α) σ = (.error e, σ) := rfl

lemma solo_elim (p : Prog E ε α) (f : Except ε α → Prog E ε' β) (σ : Solo E) :
    solo w (p.elim f) σ = solo w (f (solo w p σ).1) (solo w p σ).2 := by
  induction p generalizing σ with
  | ret a => rfl
  | raise e => rfl
  | ask q k ih =>
    cases q with
    | stmt q =>
      simp only [Script.elim_ask, solo]
      split
      · exact ih _ _
      · split
        · exact ih _ _
        · exact ih _ _
    | commit => exact ih () _
    | rollback => exact ih () _
    | input i => exact ih _ _

end

/-! ### Many sessions -/

structure Session (E : Engine) (ε α : Type) where
  prog : Prog E ε α
  held : List E.Lock := []
  wrote : List E.Write := []

/-- One question of a session answered, the locks in `free` being nobody else's. -/
inductive Turn (free : E.Lock → Prop) :
    E.Db → E.Seq → Session E ε α → Op E → E.Db → E.Seq → Session E ε α → Prop where
  | stmt {db s q k L W s' r ws} (hfree : ∀ l ∈ E.locks q (view db W), free l)
      (hexec : E.exec q s (view db W) = (s', .ok (r, ws))) :
      Turn free db s ⟨.ask (.stmt q) k, L, W⟩ (.stmt q) db s'
        ⟨k (.ok r), L ++ E.locks q (view db W), W ++ ws⟩
  | refused {db s q k L W s' e} (hfree : ∀ l ∈ E.locks q (view db W), free l)
      (hexec : E.exec q s (view db W) = (s', .error e)) :
      Turn free db s ⟨.ask (.stmt q) k, L, W⟩ (.stmt q) db s'
        ⟨k (.error e), L ++ E.locks q (view db W), W⟩
  | commit {db s k L W} :
      Turn free db s ⟨.ask .commit k, L, W⟩ .commit (view db W) s ⟨k (), [], []⟩
  | rollback {db s k L W} :
      Turn free db s ⟨.ask .rollback k, L, W⟩ .rollback db s ⟨k (), [], []⟩
  | input {db s i k L W} (a : E.Answer i) :
      Turn free db s ⟨.ask (.input i) k, L, W⟩ (.input i) db s ⟨k a, L, W⟩

/-- The server: the committed state, the counters and what every session is doing. -/
structure System (E : Engine) (ι ε α : Type) where
  db : E.Db
  seq : E.Seq
  sess : ι → Option (Session E ε α)

variable {ι : Type} [DecidableEq ι]

/-- No session but `i` holds the lock. -/
def System.Free (σ : System E ι ε α) (i : ι) (l : E.Lock) : Prop :=
  ∀ j, j ≠ i → ∀ s, σ.sess j = some s → l ∉ s.held

/-- How a session has ended, if it has. -/
def System.outcome (σ : System E ι ε α) (i : ι) : Option (Except ε α) :=
  match σ.sess i with
  | some ⟨.ret a, _, _⟩ => some (.ok a)
  | some ⟨.raise e, _, _⟩ => some (.error e)
  | _ => none

inductive Event (E : Engine) (ι : Type) where
  | start (i : ι)
  | turn (i : ι) (op : Op E)
  | fail (i : ι)
  | drop (i : ι)

/-- One step of the server. A statement may be given up, and a session lost, at any moment. -/
inductive Step (progs : Prog E ε α → Prop) :
    System E ι ε α → Event E ι → System E ι ε α → Prop where
  | start {σ : System E ι ε α} {i p} (hi : σ.sess i = none) (hp : progs p) :
      Step progs σ (.start i) { σ with sess := Function.update σ.sess i (some ⟨p, [], []⟩) }
  | turn {σ : System E ι ε α} {i s op db' seq' s'} (hi : σ.sess i = some s)
      (h : Turn (σ.Free i) σ.db σ.seq s op db' seq' s') :
      Step progs σ (.turn i op) ⟨db', seq', Function.update σ.sess i (some s')⟩
  | fail {σ : System E ι ε α} {i q k L W} (hi : σ.sess i = some ⟨.ask (.stmt q) k, L, W⟩) :
      Step progs σ (.fail i)
        { σ with sess := Function.update σ.sess i (some ⟨k (.error E.failure), L, W⟩) }
  | drop {σ : System E ι ε α} {i} :
      Step progs σ (.drop i) { σ with sess := Function.update σ.sess i none }

inductive Run (progs : Prog E ε α → Prop) :
    System E ι ε α → List (Event E ι) → System E ι ε α → Prop where
  | nil (σ : System E ι ε α) : Run progs σ [] σ
  | snoc {σ σ' σ'' : System E ι ε α} {tr e} (h : Run progs σ tr σ') (hs : Step progs σ' e σ'') :
      Run progs σ (tr ++ [e]) σ''

end IncidentGate.Lib.RowLock
