import IncidentGate.Outcomes
import IncidentGate.SingleUse

/-!
A call delivered again.

The ledger row of an executed call answers every later delivery of it, whatever the lab has
done since to its token, its evidence or its fixture: step 2 reads nothing else.
-/

namespace IncidentGate.Redelivery

open Lib.ScriptTree Lib.ScriptTree.Script Lib.RowLock Lib.RowLockLogic Lib.JsonText
open Contracts Fixtures Tables Refusals Kernel Specs Repository RowLocks Delivery Outcomes
open SingleUse

variable {spec : OperationSpec} {context : ToolCallContext} {action : CanonicalAction}
  {token : ApprovalToken} {key : UUID} {row : LedgerRow} {db : Db}

lemma commit_eq (hkey : context.idempotency_key = some key)
    (hargs : spec.validate_arguments action = none) (hbound : bound spec context action = true)
    (response_loss : Bool) :
    commit spec context action token response_loss =
      (attempt spec context action token key).bind (respond spec response_loss) := by
  simp [commit, hargs, hbound, hkey]

/-! ### The history in between -/

/-- What every later delivery reads. -/
def Readable (spec : OperationSpec) (context : ToolCallContext) (action : CanonicalAction)
    (token : ApprovalToken) (key : UUID) (row : LedgerRow) (db : Db) : Prop :=
  db.findLedger spec.operation_scope key = some row ∧ ∃ a,
    db.findApproval token.token_id = some a ∧
      Binds token (canonical_action_hash action) context.actor (some context.incident_id) a

/-- Nothing of the incident is deleted. -/
def limits (incident_id : String) : Limits where
  deleteLedger := (· ≠ incident_id)
  deleteApproval := (· ≠ incident_id)

/-- A question that deletes nothing of the incident. -/
def Spares (incident_id : String) : Op lab → Prop := (limits incident_id).Allows

lemma NeutralOp.spares {incident_id : String} (q : Op lab) (h : NeutralOp q) :
    Spares incident_id q := by
  cases q with
  | stmt q => cases q <;> trivial
  | _ => trivial

lemma Neutral.spares {incident_id : String} {p : Call α} (h : Neutral p) :
    p.Asks (Spares incident_id) := Within.asks NeutralOp.spares h

lemma DeliverOp.spares {incident_id : String} (q : Op lab) (h : DeliverOp spec q) :
    Spares incident_id q := by
  rcases h with h | ⟨r, rfl⟩ | ⟨t, now, rfl⟩
  · exact NeutralOp.spares q (h.neutral q)
  · trivial
  · trivial

lemma spares_execute {incident_id : String} {q : Stmt} (h : Spares incident_id (.stmt q)) :
    (execute q).Asks (Spares incident_id) := ⟨h, fun r => by cases r <;> trivial⟩

lemma spares_transaction {incident_id : String} {body : Call α}
    (h : body.Asks (Spares incident_id)) : (transaction body).Asks (Spares incident_id) :=
  h.elim fun r => by cases r <;> exact ⟨trivial, fun _ => trivial⟩

lemma spares_append_audit_event {incident_id i thread_id actor transition : String}
    {action_hash : Option ActionHash} {reason : Option String} {timestamp : Time}
    {attempt_id : Option UUID} :
    (append_audit_event i thread_id actor transition action_hash reason timestamp
      attempt_id).Asks (Spares incident_id) := by
  refine Asks.bind ?_ fun event => spares_transaction (spares_execute trivial)
  unfold AuditTimelineEvent.validate
  split <;> trivial

lemma spares_commit (hspec : spec ∈ registered_operation_specs) {incident_id : String}
    {response_loss : Bool} :
    (commit spec context action token response_loss).Asks (Spares incident_id) := by
  unfold commit
  split
  · -- refused before it asks
    trivial
  · split
    · trivial
    · split
      · trivial
      · refine Asks.bind (Asks.elim (spares_transaction
          ((within_deliver hspec).asks DeliverOp.spares)) fun r => ?_) fun d => ?_
        · -- the record of a refusal is one audit row
          cases r with
          | ok d => trivial
          | error e =>
            cases e with
            | ApprovalDenied d =>
              dsimp only
              split
              · trivial
              · refine Asks.bind ?_ fun _ => trivial
                exact Asks.bind (⟨trivial, fun _ => trivial⟩ : clock.Asks _)
                  fun now => spares_append_audit_event
            | _ => trivial
        · unfold respond ledger_result
          split
          · trivial
          · split
            · trivial
            · split <;> trivial

lemma spares_delete_incident {incident_id i : String} (hi : i ≠ incident_id) :
    (delete_incident i).Asks (Spares incident_id) := by
  have hexecute : ∀ {q}, Spares incident_id (.stmt q) → (execute q).Asks (Spares incident_id) :=
    spares_execute
  have heach : ∀ tokens, (delete_each_approval i tokens).Asks (Spares incident_id) := by
    intro tokens
    induction tokens with
    | nil => trivial
    | cons t tokens ih => exact (hexecute (by exact hi)).bind fun _ => ih.bind fun _ => trivial
  refine (hexecute (by trivial)).bind fun _ => (hexecute (by trivial)).bind fun _ =>
    (hexecute (by trivial)).bind fun _ => (hexecute (by trivial)).bind fun _ =>
    Asks.bind ?_ fun _ => Asks.bind ?_ fun _ => hexecute (by trivial)
  · exact (hexecute (by trivial)).bind fun keys => Asks.each fun k _ => hexecute (by exact hi)
  · exact (hexecute (by trivial)).bind fun tokens => (heach tokens).bind fun deleted =>
      Asks.each fun t _ => hexecute (by trivial)

lemma LabCall.spares {incident_id : String} {p : Call Unit} (h : LabCall (· ≠ incident_id) p) :
    p.Asks (Spares incident_id) := by
  have hexecute : ∀ {q}, Spares incident_id (.stmt q) → (execute q).Asks (Spares incident_id) :=
    spares_execute
  have hnow : ∀ i, (.ask (.input i) ret : Call (Answer i)).Asks (Spares incident_id) :=
    fun i => ⟨trivial, fun _ => trivial⟩
  have hinit : ∀ f, (initialize_if_absent f).Asks (Spares incident_id) := by
    intro f
    refine spares_transaction ((hnow _).bind fun now => (hexecute (by trivial)).bind fun _ => ?_)
    split
    · exact Asks.each fun r _ => (hnow _).bind fun now => hexecute (by trivial)
    · trivial
  cases h with
  | record_approval token i =>
    refine (spares_transaction (hexecute (by trivial))).elim fun r => ?_
    cases r with
    | ok u => trivial
    | error e => dsimp only; split <;> trivial
  | commit hspec context action token response_loss =>
    exact (spares_commit hspec).bind fun _ => trivial
  -- a reset deletes its own incident's rows, which are not these
  | reset hf =>
    refine Asks.bind (spares_transaction ((spares_delete_incident hf).bind fun _ => ?_))
      fun _ => hinit _
    dsimp only
    -- only T8 clears its incident before the fault
    split
    · exact (hexecute (by trivial)).bind fun _ => hexecute (by trivial)
    · exact hexecute (by trivial)
  | reset_incident hi => exact spares_transaction (spares_delete_incident hi)
  | @inject f hf =>
    have hrest : ∀ now, Asks (Spares incident_id) (do
        let updated ← execute (.updateFixture f (faulted now f))
        if (f = .scenario_target_state_D2 || f = .scenario_target_state_D3) && !updated then
          (raise .RuntimeError : Call Unit)
        each (injected_sources f) fun source => do
          let source_id ← uuid4
          execute (.insertSource ⟨source_id, incidentOf f, source.1, source.2, now⟩)) := by
      refine fun now => (hexecute (by trivial)).bind fun updated => ?_
      dsimp only
      split
      · trivial
      · exact Asks.each fun source _ => (hnow _).bind fun id => hexecute (by trivial)
    refine (hnow _).bind fun now => spares_transaction ?_
    dsimp only
    split
    · rename_i ht8
      exact (spares_delete_incident (hf ht8)).bind fun _ => hrest now
    · exact hrest now
  | initialize_if_absent f => exact hinit f
  | other h => exact spares_transaction (Neutral.spares h)

/-- A write that leaves the row and its approval in place. -/
def Leaves (incident_id : String) (spec : OperationSpec) (token : ApprovalToken) (key : UUID) :
    Write → Prop :=
  (limits incident_id).Leaves (fun s k => ¬ (s = spec.operation_scope ∧ k = key))
    (· ≠ token.token_id)

lemma readable_apply {incident_id : String} {w : Write} (hw : Leaves incident_id spec token key w)
    (h : Readable spec context action token key row db) :
    Readable spec context action token key row (apply db w) := by
  obtain ⟨hrow, a, ha, hbind⟩ := h
  have hledger : (apply db w).findLedger spec.operation_scope key = some row := by
    have hguard : Lock.ledgerRow spec.operation_scope key ∉ guards w := by
      cases w <;> simp_all [guards, Leaves, Limits.Leaves, eq_comm]
    rw [keep_ledgerRow db hguard (by simp [hrow]), hrow]
  refine ⟨hledger, ?_⟩
  cases w with
  | consumeApproval t now =>
    exact ⟨a.consume t now, by rw [findApproval_consume, ha]; rfl, binds_consume hbind⟩
  | insertApproval b =>
    exact ⟨a, (find?_append_of_isSome (Option.isSome_of_eq_some ha)).trans ha, hbind⟩
  | deleteApproval t =>
    have hguard : Lock.approvalRow token.token_id ∉ guards (.deleteApproval t) := by
      simpa [guards, eq_comm, Leaves, Limits.Leaves] using hw
    exact ⟨a, ((keep_approvalRow db hguard).1 (by simp [ha])).trans ha, hbind⟩
  | _ => exact ⟨a, ha, hbind⟩

/-- While the row and the approval are there, nothing that spares the incident deletes them. -/
lemma leaves_writes (hincident : row.incident_id = context.incident_id) {q : Stmt}
    (hq : Spares context.incident_id (.stmt q))
    (h : Readable spec context action token key row db) {c c' : Counters} {r : Reply q}
    {ws : List Write} (he : exec q c db = (c', .ok (r, ws))) :
    ∀ w ∈ ws, Leaves context.incident_id spec token key w := by
  obtain ⟨hrow, a, ha, hbind⟩ := h
  refine Limits.leaves_of_exec hq (fun s k r' hr' hne => ?_) (fun t a' ha' hne => ?_) he
  · rintro ⟨rfl, rfl⟩
    rw [hrow] at hr'
    obtain rfl := Option.some.inj hr'
    exact hne hincident
  · rintro rfl
    rw [ha] at ha'
    obtain rfl := Option.some.inj ha'
    exact hne (hbind.incident _ rfl)

/-- The row and its approval outlive any history that spares the incident. -/
lemma readable_run {ι : Type} [DecidableEq ι] {σ σ' : System lab ι Raised Unit}
    {tr : List (Event lab ι)} (hincident : row.incident_id = context.incident_id)
    (h : Readable spec context action token key row σ.db) (hidle : ∀ i, σ.sess i = none)
    (hr : Run (LabCall (· ≠ context.incident_id)) σ tr σ') :
    Readable spec context action token key row σ'.db :=
  (invariant_of_asks (S := Spares context.incident_id)
    (T := Leaves context.incident_id spec token key)
    (I := Readable spec context action token key row)
    (fun _ hq _ _ hdb _ _ _ he => leaves_writes hincident hq hdb he)
    (fun _ _ hw hdb => readable_apply hw hdb) (fun _ hp => LabCall.spares hp) h hidle hr).1

/-! ### The second delivery -/

/-- The context of a redelivery, which may carry another correlation id. -/
def recorrelated (context : ToolCallContext) (correlation_id : String)
    (h : isBoundedName correlation_id = true) : ToolCallContext :=
  { context with correlation_id := correlation_id, correlation_id_ok := h }

section
variable {correlation_id : String} (hcorr : isBoundedName correlation_id = true)
  (hwritten : ∃ now result,
    row.toLedgerFields = ledgerFields spec context action token key now result)

include hwritten

lemma validate_replay_of_written {a : ApprovalRow}
    (hbind : Binds token (canonical_action_hash action) context.actor
      (some context.incident_id) a) :
    validate_replay (recorrelated context correlation_id hcorr) (canonical_action_hash action)
      token row.toLedgerFields (some a) = ret () := by
  have hsame : ledgerBound (recorrelated context correlation_id hcorr)
      (canonical_action_hash action) token row.toLedgerFields = true := by
    obtain ⟨now, result, hfields⟩ := hwritten
    simp [ledgerBound, hfields, ledgerFields, recorrelated]
  have hcause : token_binding_cause (some a) token (canonical_action_hash action)
      (recorrelated context correlation_id hcorr).actor
      (some (recorrelated context correlation_id hcorr).incident_id) = none :=
    token_binding_cause_none_iff.mpr ⟨a, rfl, hbind⟩
  simp only [validate_replay, hsame, hcause, Bool.not_true, Bool.false_eq_true, if_false]

variable {G : Db → Db → Prop} (hkey : context.idempotency_key = some key)

include hkey

lemma alone_replay {L : List Lock} (h : Readable spec context action token key row db) :
    wp False Still G (replay spec (recorrelated context correlation_id hcorr) action token row)
      (fun r _ W db' => r = .ok (resultOf spec context key row .DUPLICATE) ∧ W = [] ∧ db' = db)
      L [] db := by
  obtain ⟨-, a, ha, hbind⟩ := h
  rintro db' rfl
  refine ⟨fun c c' approval ws he => ?_, fun c c' e he => by simp [exec] at he,
    fun hF => hF.elim⟩
  obtain ⟨rfl, rfl⟩ := exec_ok_inj he
  refine ⟨trivial, ?_⟩
  show wp False Still G ((validate_replay _ _ token row.toLedgerFields
    (db'.findApproval token.token_id)).bind fun _ => ledger_result _ _ _) _ _ _ _
  rw [ha, validate_replay_of_written hcorr hwritten hbind, bind_ret,
    ledger_result_of_written hkey hwritten]
  exact ⟨rfl, rfl, rfl⟩

/-- While the row and its approval are readable, a redelivery is answered from them, and
writes nothing. -/
lemma alone_redelivery (hargs : spec.validate_arguments action = none)
    (hbound : bound spec context action = true)
    (h : Readable spec context action token key row db) {response_loss : Bool} :
    wp False Still (fun a b => b = a)
      (commit spec (recorrelated context correlation_id hcorr) action token response_loss)
      (fun r L W db' => L = [] ∧ W = [] ∧
        r = .ok (resultOf spec context key row .DUPLICATE) ∧ db' = db) [] [] db := by
  have heq : commit spec (recorrelated context correlation_id hcorr) action token response_loss =
      (attempt spec (recorrelated context correlation_id hcorr) action token key).bind
        (respond spec response_loss) := commit_eq (by exact hkey) hargs (by exact hbound) _
  rw [heq]
  refine wp_elim (wp_elim (wp_transaction ?_))
  rintro db' rfl
  refine ⟨fun c c' existing ws he => ?_, fun c c' e he => by simp [exec] at he,
    fun hF => hF.elim⟩
  obtain ⟨rfl, rfl⟩ := exec_ok_inj he
  rw [show (view (E := lab) db' []).findLedger spec.operation_scope key = some row from h.1]
  refine ⟨trivial, ?_⟩
  show wp False Still _ ((replay spec (recorrelated context correlation_id hcorr) action token
    row).bind fun result => ret (Sum.inl result)) _ _ _ _
  refine wp_elim (wp_mono (fun r L W db'' hr => ?_) (alone_replay hcorr hwritten hkey h))
  obtain ⟨rfl, rfl, rfl⟩ := hr
  exact ⟨rfl, rfl, rfl, rfl, rfl⟩

end

/-- The call executed: it returned its result, or lost the response after it committed. -/
def executed : Except Raised OperationLedgerResult → Bool
  | .ok result => result.status = .SUCCEEDED
  | .error (.ResponseLost _) => true
  | .error _ => false

lemma not_executed_of_uncommitted {e : Raised} (h : e.uncommitted) :
    executed (.error e) = false := by
  cases e <;> first | rfl | exact h.elim

lemma not_executed_of_duplicate {result : OperationLedgerResult} (h : result.status = .DUPLICATE) :
    executed (.ok result) = false := by simp [executed, h]

section
variable {w : World lab} {σ : Solo lab} {response_loss : Bool}

lemma solo_commit_end (hspec : spec ∈ registered_operation_specs) (hidle : σ.wrote = []) :
    CommitEnd spec context action token response_loss σ.db
      (solo w (commit spec context action token response_loss) σ).1
      (solo w (commit spec context action token response_loss) σ).2.db :=
  (solo_of_still (fun _ _ => trivial) hidle
    (alone_commit hspec fun _ _ => trivial)).elim fun _ h => h.2.2

lemma solo_attempt_end (hspec : spec ∈ registered_operation_specs) (hidle : σ.wrote = []) :
    AttemptEnd spec context action token key σ.db
      (solo w (attempt spec context action token key) σ).1
      (solo w (attempt spec context action token key) σ).2.db :=
  (solo_of_still (fun _ _ => trivial) hidle
    (alone_attempt hspec fun _ _ => trivial)).elim fun _ h => h.2.2

lemma solo_respond (d : OperationLedgerResult ⊕ LedgerFields) (σ : Solo lab) :
    (solo w (respond spec response_loss d) σ).2 = σ := by
  unfold respond ledger_result
  split
  · rfl
  · split
    · rfl
    · split <;> rfl

lemma recorded_of_executed (hspec : spec ∈ registered_operation_specs) (hidle : σ.wrote = [])
    (h : executed (solo w (commit spec context action token response_loss) σ).1 = true) :
    ∃ key row, context.idempotency_key = some key ∧ spec.validate_arguments action = none ∧
      bound spec context action = true ∧
      Recorded spec context action token key row
        (solo w (commit spec context action token response_loss) σ).2.db ∧
      (solo w (commit spec context action token false) σ).1 =
        .ok (resultOf spec context key row .SUCCEEDED) := by
  -- only a call that was bound can have been executed
  obtain ⟨key, hkey, hargs, hbound⟩ : ∃ key, context.idempotency_key = some key ∧
      spec.validate_arguments action = none ∧ bound spec context action = true := by
    have hend : CommitEnd spec context action token response_loss σ.db
      (solo w (commit spec context action token response_loss) σ).1
      (solo w (commit spec context action token response_loss) σ).2.db :=
        solo_commit_end hspec hidle
    generalize (solo w (commit spec context action token response_loss) σ).1 = r at h hend
    generalize (solo w (commit spec context action token response_loss) σ).2.db = db' at hend
    -- of the ends of an attempt only a row of its own is an execution
    cases hend with
    | executed hkey hargs hbound _ _ _ => exact ⟨_, hkey, hargs, hbound⟩
    | lost hkey hargs hbound _ _ _ => exact ⟨_, hkey, hargs, hbound⟩
    | duplicate hdup => simp [not_executed_of_duplicate hdup] at h
    | refused he => simp [not_executed_of_uncommitted he] at h
    | recorded _ _ => cases h
  have hend : AttemptEnd spec context action token key σ.db
      (solo w (attempt spec context action token key) σ).1
      (solo w (attempt spec context action token key) σ).2.db := solo_attempt_end hspec hidle
  rw [commit_eq hkey hargs hbound, bind_eq_elim, solo_elim] at h
  refine ⟨key, ?_⟩
  simp only [commit_eq hkey hargs hbound, bind_eq_elim, solo_elim]
  generalize (solo w (attempt spec context action token key) σ).1 = d at h hend ⊢
  generalize (solo w (attempt spec context action token key) σ).2 = σ' at h hend ⊢
  generalize hdb : σ'.db = db at hend
  cases hend with
  | @executed ledger n _ hrow _ =>
    subst hdb
    refine ⟨⟨ledger, n⟩, hkey, hargs, hbound, ?_, ?_⟩
    · rwa [solo_respond]
    · have hread : ledger_result ledger .SUCCEEDED spec.operation_scope = ret _ :=
        ledger_result_of_written hkey hrow.written .SUCCEEDED
      simp [respond, hread]
  | @duplicate result hdup =>
    have hfalse : executed (.ok result) = true := h
    simp [not_executed_of_duplicate hdup] at hfalse
  | @refused e he =>
    have hfalse : executed (.error e) = true := h
    simp [not_executed_of_uncommitted he] at hfalse
  | recorded _ _ => cases h

/-- **Redelivery is idempotent**: after any history that spares the incident, an executed call
delivered again returns its first result as a duplicate, with the first correlation id, and
changes nothing. -/
theorem redelivery_idempotent {ι : Type} [DecidableEq ι] {τ : System lab ι Raised Unit}
    {tr : List (Event lab ι)} {correlation_id : String} {w' : World lab} {tick : ℕ}
    {response_loss' : Bool} (hspec : spec ∈ registered_operation_specs) (hidle : σ.wrote = [])
    (hexecuted : executed (solo w (commit spec context action token response_loss) σ).1 = true)
    (hhistory : Run (LabCall (· ≠ context.incident_id))
      ⟨(solo w (commit spec context action token response_loss) σ).2.db,
        (solo w (commit spec context action token response_loss) σ).2.seq, fun _ => none⟩ tr τ)
    (hcorr : isBoundedName correlation_id = true) (hsteady : w'.Steady) :
    ∃ first, first.status = .SUCCEEDED ∧
      (solo w (commit spec context action token false) σ).1 = .ok first ∧
      (solo w' (commit spec (recorrelated context correlation_id hcorr) action token
        response_loss') ⟨τ.db, τ.seq, tick, []⟩).1 = .ok { first with status := .DUPLICATE } ∧
      (solo w' (commit spec (recorrelated context correlation_id hcorr) action token
        response_loss') ⟨τ.db, τ.seq, tick, []⟩).2.db = τ.db := by
  obtain ⟨key, row, hkey, hargs, hbound, hrow, hfirst⟩ := recorded_of_executed hspec hidle hexecuted
  have hincident : row.incident_id = context.incident_id := by
    obtain ⟨now, result, hfields⟩ := hrow.written
    rw [hfields]
    rfl
  have hread := readable_run hincident ⟨hrow.found, hrow.approval⟩ (fun _ => rfl) hhistory
  obtain ⟨L, -, -, hr, hdb⟩ := solo_of_still (w := w') (σ := ⟨τ.db, τ.seq, tick, []⟩)
    (fun n hn => by simp [hsteady n] at hn) rfl
    (alone_redelivery hcorr hrow.written hkey hargs hbound hread)
  exact ⟨_, rfl, hfirst, hr, hdb⟩

end

/-! ### A migration delivered twice -/

/-- The lab once the migration has run. -/
def migrated : Solo lab := (solo noon migration ⟨migrationDb, {}, 0, []⟩).2

lemma migration_executed :
    executed (solo noon migration ⟨migrationDb, {}, 0, []⟩).1 = true := by decide +kernel

/-- The fault is injected again before the second delivery. -/
def faultedAgain : Solo lab :=
  (solo noon (inject .r01_fixture_state) ⟨migrated.db, migrated.seq, 0, []⟩).2

/-- Whether billing is broken by the migration. -/
def broken (db : Db) : Option Bool :=
  (db.fixtures .r01_fixture_state).map fun r => R01State.billing_plan_required r.1

lemma faulted_again : broken migrated.db = some false ∧ broken faultedAgain.db = some true := by
  decide +kernel

/-- The second delivery changes nothing of the lab that has failed once more. -/
theorem redelivery_idempotent_migration : ∃ first, first.status = .SUCCEEDED ∧
    (solo noon migration ⟨migrationDb, {}, 0, []⟩).1 = .ok first ∧
    ∃ tr τ, Run (LabCall (· ≠ "INC-R01"))
        (⟨migrated.db, migrated.seq, fun _ => none⟩ : System lab Unit Raised Unit) tr τ ∧
      broken migrated.db = some false ∧ broken τ.db = some true ∧
      (solo noon (commit R01 (recorrelated migrationContext "second" (by decide)) migrationAction
        migrationToken true) ⟨τ.db, τ.seq, 0, []⟩).1 = .ok { first with status := .DUPLICATE } ∧
      (solo noon (commit R01 (recorrelated migrationContext "second" (by decide)) migrationAction
        migrationToken true) ⟨τ.db, τ.seq, 0, []⟩).2.db = τ.db := by
  have hspec : R01 ∈ registered_operation_specs := by simp [registered_operation_specs]
  have hinject : LabCall (· ≠ "INC-R01") (inject .r01_fixture_state) :=
    .inject fun hf => by cases hf
  obtain ⟨tr, τ, hrun, hdb, -, -⟩ := run_call (i := ()) hinject
    (σ := ⟨migrated.db, migrated.seq, fun _ => none⟩) rfl fun j s hs => by cases hs
  obtain ⟨first, hstatus, hfirst, hsecond, hstill⟩ := redelivery_idempotent hspec rfl
    migration_executed hrun (by decide : isBoundedName "second" = true)
    (fun _ => rfl : noon.Steady)
  refine ⟨first, hstatus, hfirst, tr, τ, hrun, faulted_again.1, ?_, hsecond, hstill⟩
  rw [hdb]
  exact faulted_again.2

end IncidentGate.Redelivery
