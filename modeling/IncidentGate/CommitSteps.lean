import IncidentGate.Concurrent
import IncidentGate.T4Calls

/-!
A call of the kernel read backwards: what its end says of the steps it took.

A call alone performs its capability, repeats a row it finds under its key, or is refused. What
it performed is its mutation, run on what it saw, and the settlement after it.
-/

namespace IncidentGate.CommitSteps

open Lib.ScriptTree Lib.ScriptTree.Script Lib.RowLock Lib.RowLockLogic Lib.RowLockAlone
open Lib.JsonText Contracts Fixtures Tables Refusals Kernel Specs RowLocks Delivery
open Outcomes SingleUse Redelivery

variable {w : World lab} {σ σ' : Solo lab}

/-! ### Statements -/

lemma solo_execute_ok {q : Stmt} {r : Reply q} (h : solo w (execute q) σ = (.ok r, σ')) :
    ∃ c ws, exec q σ.seq (sight σ) = (c, .ok (r, ws)) ∧
      σ' = { σ with seq := c, tick := σ.tick + 1, wrote := σ.wrote ++ ws } := by
  simp only [execute, solo] at h
  split at h
  · cases h
  · split at h
    · rename_i c r' ws he
      obtain ⟨hr, hσ⟩ := Prod.mk.inj h
      obtain rfl := Except.ok.inj hr
      exact ⟨c, ws, he, hσ.symm⟩
    · cases h

lemma solo_execute_eq {q : Stmt} {c : Counters} {r : Reply q} {ws : List Write} (hw : w.Steady)
    (he : exec q σ.seq (sight σ) = (c, .ok (r, ws))) : solo w (execute q) σ =
      (.ok r, { σ with seq := c, tick := σ.tick + 1, wrote := σ.wrote ++ ws }) := by
  simp only [execute, solo]
  rw [if_neg (by simp [hw σ.tick])]
  split
  · rename_i c' r' ws' he'
    obtain ⟨rfl, h⟩ := Prod.mk.inj (he.symm.trans he')
    obtain ⟨rfl, rfl⟩ := Prod.mk.inj (Except.ok.inj h)
    rfl
  · rename_i he'
    cases (Prod.mk.inj (he.symm.trans he')).2

lemma sight_execute {c : Counters} {ws : List Write} {n : ℕ} :
    sight ({ σ with seq := c, tick := n, wrote := σ.wrote ++ ws } : Solo lab) =
      view (E := lab) (sight σ) ws := view_append _ _ _

/-- The session has gone on, and neither read nor written. -/
def Idled (σ σ' : Solo lab) : Prop := ∃ n, σ' = { σ with tick := n }

lemma Idled.refl (σ : Solo lab) : Idled σ σ := ⟨σ.tick, rfl⟩

lemma Idled.trans {σ₁ σ₂ σ₃ : Solo lab} (h : Idled σ₁ σ₂) (h' : Idled σ₂ σ₃) : Idled σ₁ σ₃ := by
  obtain ⟨n, rfl⟩ := h
  obtain ⟨m, rfl⟩ := h'
  exact ⟨m, rfl⟩

lemma Idled.sight (h : Idled σ σ') : sight σ' = sight σ := by
  obtain ⟨n, rfl⟩ := h
  rfl

lemma solo_read_ok {q : Stmt} {r : Reply q} {P : Db → Prop}
    (hq : ∀ c db c' ws, exec q c db = (c', .ok (r, ws)) → c' = c ∧ ws = [] ∧ P db)
    (h : solo w (execute q) σ = (.ok r, σ')) : P (sight σ) ∧ Idled σ σ' := by
  obtain ⟨c, ws, he, rfl⟩ := solo_execute_ok h
  obtain ⟨rfl, rfl, hP⟩ := hq _ _ _ _ he
  exact ⟨hP, σ.tick + 1, by rw [List.append_nil]⟩

lemma solo_clock_ok {now : Time} (h : solo w clock σ = (.ok now, σ')) : Idled σ σ' :=
  ⟨σ.tick + 1, (Prod.mk.inj h).2.symm⟩

lemma solo_counter {p : Call α} {n : ℕ} (h : n ≤ σ.seq.ledger) :
    n ≤ (solo w p σ).2.seq.ledger := by
  induction p generalizing σ with
  | ret a => exact h
  | raise e => exact h
  | ask q k ih =>
    cases q with
    | stmt q =>
      simp only [solo]
      split
      · exact ih _ h
      · split
        · rename_i he
          exact ih _ (h.trans (T4Calls.exec_ledger he).1)
        · rename_i he
          exact ih _ (h.trans (T4Calls.exec_error_ledger he))
    | commit => exact ih _ h
    | rollback => exact ih _ h
    | input i => exact ih _ h

/-! ### The steps of a first delivery -/

section
variable (spec : OperationSpec) (context : ToolCallContext) (action : CanonicalAction)
  (token : ApprovalToken) (key : UUID)

/-- What settling a mutation leaves, beside the approval and the timeline: the ledger row, and
the fixture counted up. -/
structure Settles (now : Time) (outcome : MutationOutcome spec.fixture) (τ : Solo lab)
    (ledger : LedgerFields) (db : Db) (c : Counters) : Prop where
  written : ledger = ledgerFields spec context action token key now outcome.result
  insertable : ledger.isInsertable = true
  fresh : ∀ x ∈ (sight τ).operation_ledger, x.hasKey spec.operation_scope key = false
  rows : db.operation_ledger = (sight τ).operation_ledger ++ [⟨ledger, τ.seq.ledger + 1⟩]
  counter : τ.seq.ledger + 1 ≤ c.ledger
  fixture : ∀ s, (sight τ).fixtures spec.fixture = some s → ∃ s',
    db.fixtures spec.fixture = some s' ∧
      s'.1 = if outcome.mutating then counted spec now outcome s.1 else s.1

/-- A first delivery: its fixture there and within the precondition, its mutation run on what
the session saw, and the outcome settled. -/
inductive Performed (db : Db) (c : Counters) (ledger : LedgerFields) (db' : Db) (c' : Counters) :
    Prop where
  | mk {w : World lab} {now : Time} {s : Stored spec.fixture}
    {outcome : MutationOutcome spec.fixture} {τ τ' : Solo lab} (hsight : sight τ = db)
    (hcounter : c.ledger ≤ τ.seq.ledger) (hfixture : db.fixtures spec.fixture = some s)
    (hpresent : spec.fixture_present s.1 = true) (hprecondition : spec.precondition s.1 = true)
    (hmutation : solo w (spec.mutation ⟨now, context, action, canonical_action_hash action, s.1⟩)
      τ = (.ok outcome, τ'))
    (hsettles : Settles spec context action token key now outcome τ' ledger db' c') :
    Performed db c ledger db' c'

/-- How a call ends, and what it leaves. -/
inductive Ended (response_loss : Bool) (σ : Solo lab) :
    Except Raised OperationLedgerResult → Solo lab → Prop where
  | performed {key ledger τ} (hkey : context.idempotency_key = some key)
    (hargs : spec.validate_arguments action = none) (hbound : bound spec context action = true)
    (hperformed : Performed spec context action token key σ.db σ.seq ledger τ.db τ.seq) :
    Ended response_loss σ (if response_loss then .error (.ResponseLost spec.response_loss_message)
      else .ok (resultOf spec context key ⟨ledger, 0⟩ .SUCCEEDED)) τ
  | replayed {key existing result τ} (hkey : context.idempotency_key = some key)
    (hbound : bound spec context action = true)
    (hfound : σ.db.findLedger spec.operation_scope key = some existing)
    (hsame :
      ledgerBound context (canonical_action_hash action) token existing.toLedgerFields = true)
    (hread : ledger_result existing.toLedgerFields .DUPLICATE spec.operation_scope = ret result)
    (hdb : τ.db = σ.db) : Ended response_loss σ (.ok result) τ
  | refused {e τ} (hdb : ∃ rows, τ.db = { σ.db with audit_timeline := rows }) :
    Ended response_loss σ (.error e) τ

end

section
variable {spec : OperationSpec} {context : ToolCallContext} {action : CanonicalAction}
  {token : ApprovalToken} {key : UUID} {now : Time}

lemma solo_validate_approval_ok {action_hash : ActionHash} {approval : Option ApprovalRow}
    (h : solo w (validate_approval context action_hash token approval now) σ = (.ok (), σ')) :
    σ' = σ := by
  simp only [validate_approval] at h
  split at h
  · cases h
  · exact (Prod.mk.inj h).2.symm

lemma solo_validate_evidence_ok {ids : List String}
    (h : solo w (validate_evidence context ids now) σ = (.ok (), σ')) : Idled σ σ' := by
  obtain ⟨matching, τ, hcount, h⟩ := solo_bind_ok h
  have hidled : Idled σ τ := by
    refine (solo_read_ok (P := fun _ => True) (fun c db c' ws he => ?_) hcount).2
    simp only [exec] at he
    split at he
    · obtain ⟨hc, he⟩ := Prod.mk.inj he
      exact ⟨hc.symm, (Prod.mk.inj (Except.ok.inj he)).2.symm, trivial⟩
    · cases (Prod.mk.inj he).2
  split at h
  · cases h
  · obtain rfl := (Prod.mk.inj h).2
    exact hidled

lemma solo_authorize_ok (h : solo w (authorize context action token) σ = (.ok now, σ')) :
    Idled σ σ' := by
  obtain ⟨approval, τ₁, happroval, h⟩ := solo_bind_ok h
  obtain ⟨now', τ₂, hclock, h⟩ := solo_bind_ok h
  obtain ⟨_, τ₃, hvalid, h⟩ := solo_bind_ok h
  obtain ⟨_, τ₄, hevidence, h⟩ := solo_bind_ok h
  obtain rfl := (Prod.mk.inj h).2
  have h₁ : Idled σ τ₁ := by
    refine (solo_read_ok (P := fun _ => True) (fun c db c' ws he => ?_) happroval).2
    obtain ⟨hc, he⟩ := Prod.mk.inj he
    exact ⟨hc.symm, (Prod.mk.inj (Except.ok.inj he)).2.symm, trivial⟩
  obtain rfl := solo_validate_approval_ok hvalid
  exact (h₁.trans (solo_clock_ok hclock)).trans (solo_validate_evidence_ok hevidence)

lemma solo_lock_fixture_ok {row : Row spec.fixture}
    (h : solo w (lock_fixture spec) σ = (.ok row, σ')) : Idled σ σ' ∧
      (∃ s, (sight σ).fixtures spec.fixture = some s ∧ s.1 = row) ∧
      spec.fixture_present row = true ∧ spec.precondition row = true := by
  obtain ⟨found, τ, hlock, h⟩ := solo_bind_ok h
  have hread : found = ((sight σ).fixtures spec.fixture).map (·.1) ∧ Idled σ τ := by
    refine solo_read_ok (P := fun db => found = (db.fixtures spec.fixture).map (·.1))
      (fun c db c' ws he => ?_) hlock
    obtain ⟨hc, he⟩ := Prod.mk.inj he
    obtain ⟨hfound, hws⟩ := Prod.mk.inj (Except.ok.inj he)
    exact ⟨hc.symm, hws.symm, hfound.symm⟩
  obtain ⟨hfound, hidled⟩ := hread
  cases found with
  | none => cases h
  | some s =>
    dsimp only at h
    split at h
    · cases h
    · rename_i hpresent
      split at h
      · cases h
      · rename_i hprecondition
        obtain ⟨hs, rfl⟩ := Prod.mk.inj h
        obtain rfl := Except.ok.inj hs
        obtain ⟨stored, hstored, hval⟩ := Option.map_eq_some_iff.mp hfound.symm
        exact ⟨hidled, ⟨stored, hstored, hval⟩, by simpa using hpresent,
          by simpa using hprecondition⟩

lemma solo_aside_ok {q : Stmt} {r : Reply q} {f : Fixture}
    (hq : ∀ c db c' ws, exec q c db = (c', .ok (r, ws)) →
      (view (E := lab) db ws).operation_ledger = db.operation_ledger ∧
        (view (E := lab) db ws).fixtures f = db.fixtures f)
    (h : solo w (execute q) σ = (.ok r, σ')) :
    (sight σ').operation_ledger = (sight σ).operation_ledger ∧
      (sight σ').fixtures f = (sight σ).fixtures f := by
  obtain ⟨c, ws, he, rfl⟩ := solo_execute_ok h
  rw [sight_execute]
  exact hq _ _ _ _ he

lemma solo_updateFixture_ok {f : Fixture} {set : Row f → Row f} {b : Bool}
    (h : solo w (execute (.updateFixture f set)) σ = (.ok b, σ')) :
    (sight σ').operation_ledger = (sight σ).operation_ledger ∧
      ∀ s, (sight σ).fixtures f = some s → ∃ s', (sight σ').fixtures f = some s' ∧
        s'.1 = set s.1 := by
  obtain ⟨c, ws, he, rfl⟩ := solo_execute_ok h
  rw [sight_execute]
  simp only [exec] at he
  split at he
  · rename_i hnone
    obtain ⟨-, rfl⟩ := exec_ok_inj he
    exact ⟨rfl, fun s hs => by simp [hs] at hnone⟩
  · rename_i old hold
    split at he
    · rename_i new hnew
      obtain ⟨-, rfl⟩ := exec_ok_inj he
      refine ⟨rfl, fun s hs => ⟨new, ?_, ?_⟩⟩
      · simp [view, apply, hold]
      · obtain rfl : old = s := Option.some.inj (hold.symm.trans hs)
        unfold updateRow at hnew
        split_ifs at hnew
        rw [← Except.ok.inj hnew]
    · simp at he

lemma solo_update_ok {f : Fixture} {set : Row f → Row f} {s : Stored f}
    (h : solo w (update f set) σ = (.ok (), σ')) (hs : (sight σ).fixtures f = some s) :
    ∃ s', (sight σ').fixtures f = some s' ∧ s'.1 = set s.1 := by
  obtain ⟨b, τ, hupdate, h⟩ := solo_bind_ok h
  obtain rfl := (Prod.mk.inj h).2
  exact (solo_updateFixture_ok hupdate).2 s hs

lemma solo_count_mutation_ok {outcome : MutationOutcome spec.fixture}
    (h : solo w (count_mutation spec now outcome) σ = (.ok (), σ')) :
    (sight σ').operation_ledger = (sight σ).operation_ledger ∧
      ∀ s, (sight σ).fixtures spec.fixture = some s → ∃ s',
        (sight σ').fixtures spec.fixture = some s' ∧
          s'.1 = if outcome.mutating then counted spec now outcome s.1 else s.1 := by
  unfold count_mutation at h
  split at h
  · rename_i hmutating
    obtain ⟨b, τ, hupdate, h⟩ := solo_bind_ok h
    obtain rfl := (Prod.mk.inj h).2
    obtain ⟨hledger, hfixture⟩ := solo_updateFixture_ok hupdate
    refine ⟨hledger, fun s hs => ?_⟩
    obtain ⟨s', hs', hval⟩ := hfixture s hs
    exact ⟨s', hs', by rw [hval, if_pos hmutating]⟩
  · rename_i hreading
    obtain rfl := (Prod.mk.inj h).2
    exact ⟨rfl, fun s hs => ⟨s, hs, by rw [if_neg hreading]⟩⟩

lemma solo_emit_transition_ok {result : Json} {f : Fixture}
    (h : solo w (emit_transition spec context now result) σ = (.ok (), σ')) :
    (sight σ').operation_ledger = (sight σ).operation_ledger ∧
      (sight σ').fixtures f = (sight σ).fixtures f := by
  unfold emit_transition at h
  split at h
  · obtain rfl := (Prod.mk.inj h).2
    exact ⟨rfl, rfl⟩
  · obtain ⟨id, τ, hid, h⟩ := solo_bind_ok h
    have hsight : sight τ = sight σ := by rw [← (Prod.mk.inj hid).2]; rfl
    rw [← hsight]
    refine solo_aside_ok (fun c db c' ws he => ?_) h
    simp only [exec] at he
    split_ifs at he
    · simp at he
    · simp at he
    · obtain ⟨-, rfl⟩ := exec_ok_inj he
      exact ⟨rfl, rfl⟩

lemma solo_settle_ok {outcome : MutationOutcome spec.fixture} {ledger : LedgerFields}
    (h : solo w (settle spec context action token key now outcome) σ = (.ok ledger, σ')) :
    Settles spec context action token key now outcome σ ledger (sight σ') σ'.seq := by
  obtain ⟨_, τ₁, hinsert, h⟩ := solo_bind_ok h
  obtain ⟨_, τ₂, hcount, h⟩ := solo_bind_ok h
  obtain ⟨_, τ₃, hemit, h⟩ := solo_bind_ok h
  obtain ⟨_, τ₄, hconsume, h⟩ := solo_bind_ok h
  obtain ⟨hledger, rfl⟩ := Prod.mk.inj h
  obtain rfl := Except.ok.inj hledger
  -- the row, then the count, the audit fact and the token, which leave the ledger
  obtain ⟨c, ws, he, hτ₁⟩ := solo_execute_ok hinsert
  obtain ⟨hfresh, -, hinsertable, hc, rfl⟩ := exec_insertLedger_ok he
  obtain ⟨hrows₂, hfixture₂⟩ := solo_count_mutation_ok hcount
  obtain ⟨hrows₃, hfixture₃⟩ := solo_emit_transition_ok (f := spec.fixture) hemit
  have hconsumed := solo_aside_ok (f := spec.fixture) (fun c db c' ws he => by
    simp only [exec] at he
    split_ifs at he <;> obtain ⟨-, rfl⟩ := exec_ok_inj he <;> exact ⟨rfl, rfl⟩) hconsume
  have hsight : sight τ₁ = apply (sight σ) (.insertLedger
      ⟨ledgerFields spec context action token key now outcome.result, σ.seq.ledger + 1⟩) := by
    rw [hτ₁, sight_execute]
    rfl
  refine ⟨rfl, hinsertable, hfresh, ?_, ?_, fun s hs => ?_⟩
  · rw [hconsumed.1, hrows₃, hrows₂, hsight]
    rfl
  · -- the counter stands after the row, and never goes back
    have hseq : τ₁.seq.ledger = σ.seq.ledger + 1 := by rw [hτ₁, hc]
    have hlast := solo_counter (w := w) (p := (execute (.consumeApproval token.token_id now)))
      (solo_counter (w := w) (p := emit_transition spec context now outcome.result)
        (solo_counter (w := w) (p := count_mutation spec now outcome) hseq.ge))
    rwa [hcount, hemit, hconsume] at hlast
  · obtain ⟨s', hs', hval⟩ := hfixture₂ s (by rw [hsight]; exact hs)
    exact ⟨s', by rw [hconsumed.2, hfixture₃, hs'], hval⟩

lemma solo_perform_ok {ledger : LedgerFields}
    (h : solo w (perform spec context action token key) σ = (.ok ledger, σ')) :
    Performed spec context action token key (sight σ) σ.seq ledger (sight σ') σ'.seq := by
  obtain ⟨now, τ₁, hauthorize, h₁⟩ := solo_bind_ok h
  obtain ⟨row, τ₂, hlock, h₂⟩ := solo_bind_ok h₁
  obtain ⟨outcome, τ₃, hmutation, h₃⟩ := solo_bind_ok h₂
  obtain ⟨hlocked, ⟨s, hs, rfl⟩, hpresent, hprecondition⟩ := solo_lock_fixture_ok hlock
  have hauthorized := solo_authorize_ok hauthorize
  rw [hauthorized.sight] at hs
  have hidled := hauthorized.trans hlocked
  have hcounter : σ.seq.ledger ≤ τ₂.seq.ledger := by
    obtain ⟨n, rfl⟩ := hidled
    exact le_rfl
  exact .mk hidled.sight hcounter hs hpresent hprecondition hmutation (solo_settle_ok h₃)

lemma solo_deliver_ok {d : OperationLedgerResult ⊕ LedgerFields}
    (h : solo w (deliver spec context action token key) σ = (.ok d, σ')) :
    (∃ existing result, d = .inl result ∧
      (sight σ).findLedger spec.operation_scope key = some existing ∧
      ledgerBound context (canonical_action_hash action) token existing.toLedgerFields = true ∧
      ledger_result existing.toLedgerFields .DUPLICATE spec.operation_scope = ret result ∧
      sight σ' = sight σ) ∨
    ∃ ledger, d = .inr ledger ∧
      Performed spec context action token key (sight σ) σ.seq ledger (sight σ') σ'.seq := by
  obtain ⟨found, τ, hselect, h⟩ := solo_bind_ok h
  have hread : found = (sight σ).findLedger spec.operation_scope key ∧ Idled σ τ := by
    refine solo_read_ok (P := fun db => found = db.findLedger spec.operation_scope key)
      (fun c db c' ws he => ?_) hselect
    obtain ⟨hc, he⟩ := Prod.mk.inj he
    obtain ⟨hfound, hws⟩ := Prod.mk.inj (Except.ok.inj he)
    exact ⟨hc.symm, hws.symm, hfound.symm⟩
  obtain ⟨hfound, hidled⟩ := hread
  cases found with
  -- no row under the key: the call is performed
  | none =>
    obtain ⟨ledger, τ', hperform, h⟩ := solo_bind_ok h
    obtain ⟨hd, rfl⟩ := Prod.mk.inj h
    obtain rfl := Except.ok.inj hd
    obtain ⟨n, rfl⟩ := hidled
    have hperformed := solo_perform_ok hperform
    exact .inr ⟨ledger, rfl, hperformed⟩
  -- a row under the key: the delivery only reads
  | some existing =>
    obtain ⟨result, τ', hreplay, h⟩ := solo_bind_ok h
    obtain ⟨hd, rfl⟩ := Prod.mk.inj h
    obtain rfl := Except.ok.inj hd
    obtain ⟨approval, τ₁, happroval, h⟩ := solo_bind_ok hreplay
    obtain ⟨_, τ₂, hvalid, h⟩ := solo_bind_ok h
    have happroval : Idled τ τ₁ := by
      refine (solo_read_ok (P := fun _ => True) (fun c db c' ws he => ?_) happroval).2
      obtain ⟨hc, he⟩ := Prod.mk.inj he
      exact ⟨hc.symm, (Prod.mk.inj (Except.ok.inj he)).2.symm, trivial⟩
    have hvalid : τ₂ = τ₁ ∧ ledgerBound context (canonical_action_hash action) token
        existing.toLedgerFields = true := by
      unfold validate_replay at hvalid
      split at hvalid
      · cases hvalid
      · rename_i hsame
        split at hvalid
        · cases hvalid
        · exact ⟨(Prod.mk.inj hvalid).2.symm, by simpa using hsame⟩
    have hsight : sight τ₂ = sight σ := by rw [hvalid.1, (hidled.trans happroval).sight]
    refine .inl ⟨existing, result, rfl, hfound.symm, hvalid.2, ?_⟩
    unfold ledger_result at h ⊢
    split at h
    · cases h
    · obtain ⟨hr, rfl⟩ := Prod.mk.inj h
      rw [Except.ok.inj hr]
      exact ⟨rfl, hsight⟩

/-! ### What was performed -/

lemma mutation_ledger {f : Fixture} {p : Call α} (hp : p.Within (Confined f) Raised.uncommitted) :
    (sight (solo w p σ).2).operation_ledger = (sight σ).operation_ledger := by
  refine solo_sight (w := w) (I := fun db => db.operation_ledger = (sight σ).operation_ledger)
    (fun q hq s V s' r ws hV he => ?_) (fun h => h) hp rfl
  rw [← hV]
  cases q with
  | updateFixture g set =>
    simp only [exec] at he
    split at he
    · obtain ⟨-, rfl⟩ := exec_ok_inj he; rfl
    · split at he
      · obtain ⟨-, rfl⟩ := exec_ok_inj he; rfl
      · simp at he
  | _ =>
    first
    | exact hq.elim
    | (simp only [exec] at he
       (try split_ifs at he) <;> first
        | (obtain ⟨-, rfl⟩ := exec_ok_inj he; rfl)
        | simp at he)

/-- A first delivery adds one row, under the next numbers and a key of its own. -/
lemma Performed.appended (hspec : spec ∈ registered_operation_specs) {ledger : LedgerFields}
    {db db' : Db} {c c' : Counters}
    (h : Performed spec context action token key db c ledger db' c') :
    (∃ now result, ledger = ledgerFields spec context action token key now result) ∧
      ledger.isInsertable = true ∧
      (∀ x ∈ db.operation_ledger, x.hasKey spec.operation_scope key = false) ∧
      ∃ n, db'.operation_ledger = db.operation_ledger ++ [⟨ledger, n⟩] ∧ c.ledger < n ∧
        n ≤ c'.ledger := by
  cases h with
  | @mk w now s outcome τ τ' hsight hcounter _ _ _ hmutation hsettles =>
    have hrows := mutation_ledger (w := w) (σ := τ) (registered_confined spec hspec
      ⟨now, context, action, canonical_action_hash action, s.1⟩)
    have hcount := solo_counter (w := w)
      (p := spec.mutation ⟨now, context, action, canonical_action_hash action, s.1⟩) hcounter
    rw [hmutation] at hrows hcount
    rw [hsight] at hrows
    have hfresh := hsettles.fresh
    have happended := hsettles.rows
    rw [hrows] at hfresh happended
    exact ⟨⟨now, outcome.result, hsettles.written⟩, hsettles.insertable, hfresh, _, happended,
      Nat.lt_succ_of_le hcount, hsettles.counter⟩

/-- What a mutation makes of its fixture, and of the outcome it reports. -/
def Leads (spec : OperationSpec)
    (Q : MutationOutcome spec.fixture → Row spec.fixture → Row spec.fixture → Prop) : Prop :=
  ∀ (w : World lab) (t : LockedTransaction spec.fixture) (τ τ' : Solo lab)
    (outcome : MutationOutcome spec.fixture) (s : Stored spec.fixture),
    (sight τ).fixtures spec.fixture = some s → solo w (spec.mutation t) τ = (.ok outcome, τ') →
    ∃ s', (sight τ').fixtures spec.fixture = some s' ∧ Q outcome s.1 s'.1

lemma Performed.fixture {Q : MutationOutcome spec.fixture → Row spec.fixture →
      Row spec.fixture → Prop} (hmutation : Leads spec Q) {ledger : LedgerFields} {db db' : Db}
    {c c' : Counters} (h : Performed spec context action token key db c ledger db' c') :
    ∃ now outcome s s', db.fixtures spec.fixture = some s ∧ spec.fixture_present s.1 = true ∧
      ledger.result = outcome.result ∧ db'.fixtures spec.fixture = some s' ∧
      ∃ r, Q outcome s.1 r ∧ s'.1 = if outcome.mutating then counted spec now outcome r else r := by
  cases h with
  | @mk w now s outcome τ τ' hsight _ hfixture hpresent _ hrun hsettles =>
    obtain ⟨s₁, hs₁, hQ⟩ := hmutation _ _ _ _ _ _ (by rw [hsight]; exact hfixture) hrun
    obtain ⟨s₂, hs₂, hval⟩ := hsettles.fixture s₁ hs₁
    exact ⟨now, outcome, s, s₂, hfixture, hpresent, by rw [hsettles.written]; rfl, hs₂, s₁.1, hQ,
      hval⟩

/-! ### A call -/

/-- A transaction alone: what its body leaves is committed, or nothing is. -/
lemma solo_transaction_eq {body : Call α} :
    solo w (transaction body) σ = match solo w body σ with
      | (.ok a, τ) => (.ok a, { τ with db := sight τ, wrote := [] })
      | (.error e, τ) => (.error e, { τ with wrote := [] }) := by
  unfold transaction
  rw [solo_elim]
  generalize solo w body σ = out
  obtain ⟨r, τ⟩ := out
  cases r <;> rfl

lemma solo_transaction_of {body : Call α} {a : α} {τ : Solo lab}
    (h : solo w body σ = (.ok a, τ)) :
    solo w (transaction body) σ = (.ok a, { τ with db := sight τ, wrote := [] }) := by
  rw [solo_transaction_eq, h]

lemma solo_transaction_ok {body : Call α} {a : α} (h : solo w (transaction body) σ = (.ok a, σ')) :
    ∃ τ, solo w body σ = (.ok a, τ) ∧ σ' = { τ with db := sight τ, wrote := [] } := by
  rw [solo_transaction_eq] at h
  generalize solo w body σ = out at h ⊢
  obtain ⟨r, τ⟩ := out
  cases r with
  | error e => cases h
  | ok r =>
    obtain ⟨hr, rfl⟩ := Prod.mk.inj h
    exact ⟨τ, by rw [Except.ok.inj hr], rfl⟩

lemma solo_recordRefusal_db (hidle : σ.wrote = []) {action_hash : ActionHash} {reason : String} :
    ∃ rows, (solo w (recordRefusal context action_hash reason) σ).2.db =
      { σ.db with audit_timeline := rows } := by
  obtain ⟨L, -, -, h⟩ := solo_of_still (w := w) (fun _ _ => trivial) hidle
    (@alone_recordRefusal context True (fun _ _ => True) σ.db action_hash reason fun _ _ => trivial)
  obtain ⟨-, hdb⟩ | ⟨-, row, -, hdb⟩ := h
  · exact ⟨σ.db.audit_timeline, hdb⟩
  · exact ⟨_, hdb⟩

/-- **The end of a call** says what it did. -/
theorem solo_commit_ended (hspec : spec ∈ registered_operation_specs) (hidle : σ.wrote = [])
    {response_loss : Bool} :
    Ended spec context action token response_loss σ
      (solo w (commit spec context action token response_loss) σ).1
      (solo w (commit spec context action token response_loss) σ).2 := by
  rcases Concurrent.commit_refused_or_bound spec context action with ⟨e, -, hcommit⟩ |
    ⟨key, hkey, hargs, hbound⟩
  · -- refused before it asks anything
    rw [hcommit]
    exact .refused ⟨σ.db.audit_timeline, rfl⟩
  have hdb : (solo w (deliver spec context action token key) σ).2.db = σ.db :=
    solo_uncommitted ((within_deliver hspec).mono DeliverOp.ne_commit fun _ h => h)
  have hdeliver := fun d τ => @solo_deliver_ok w σ τ spec context action token key d
  rw [commit_eq hkey hargs hbound, bind_eq_elim, solo_elim]
  unfold attempt refusal_recorded
  rw [handle_eq_elim, solo_elim, solo_transaction_eq]
  rw [sight_eq hidle] at hdeliver
  generalize solo w (deliver spec context action token key) σ = out at hdb hdeliver ⊢
  obtain ⟨r, τ⟩ := out
  cases r with
  | ok d =>
    obtain ⟨existing, result, rfl, hfound, hsame, hread, hsight⟩ | ⟨ledger, rfl, hperformed⟩ :=
      hdeliver d τ rfl
    · exact .replayed hkey hbound hfound hsame hread hsight
    · have hread : ledger_result ledger .SUCCEEDED spec.operation_scope = ret _ :=
        @ledger_result_of_written _ _ _ _ _ ⟨ledger, 0⟩ hkey (hperformed.appended hspec).1
          .SUCCEEDED
      have hend := @Ended.performed spec context action token response_loss σ key ledger
        { τ with db := sight τ, wrote := [] } hkey hargs hbound hperformed
      -- the answer is read off the row, or lost
      cases response_loss with
      | true => exact hend
      | false =>
        have hanswer : solo w (ledger_result ledger .SUCCEEDED spec.operation_scope)
            { τ with db := sight τ, wrote := [] } =
              (.ok _, { τ with db := sight τ, wrote := [] }) := congrArg (solo w · _) hread
        show Ended spec context action token false σ
          (solo w (ledger_result ledger .SUCCEEDED spec.operation_scope)
            { τ with db := sight τ, wrote := [] }).1
          (solo w (ledger_result ledger .SUCCEEDED spec.operation_scope)
            { τ with db := sight τ, wrote := [] }).2
        rw [hanswer]
        exact hend
  -- the body is rolled back; what its refusal may add is audit rows
  | error e =>
    have hsame : ∃ rows, τ.db = { σ.db with audit_timeline := rows } :=
      ⟨σ.db.audit_timeline, hdb⟩
    cases e with
    | ApprovalDenied d =>
      obtain ⟨message, reason, stage⟩ := d
      cases reason with
      | none => exact .refused hsame
      | some reason =>
        obtain ⟨rows, hrows⟩ := @solo_recordRefusal_db w { τ with wrote := [] } context rfl
          (canonical_action_hash action) reason
        simp only [bind_eq, bind_eq_elim, solo_elim]
        generalize solo w (recordRefusal context (canonical_action_hash action) reason)
          { τ with wrote := [] } = out at hrows ⊢
        obtain ⟨r, υ⟩ := out
        have hυ : ∃ rows, υ.db = { σ.db with audit_timeline := rows } :=
          ⟨rows, by rw [hrows, hdb]⟩
        cases r <;> exact .refused hυ
    | _ => exact .refused hsame

end

end IncidentGate.CommitSteps
