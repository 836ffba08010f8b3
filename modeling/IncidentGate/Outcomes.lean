import IncidentGate.Delivery

/-!
What one call of the kernel, alone, leaves behind. It ends in one of five ways, and each says
what the tables hold afterwards.
-/

namespace IncidentGate.Outcomes

open Lib.ScriptTree Lib.ScriptTree.Script Lib.RowLock Lib.RowLockLogic Lib.JsonText
open Contracts Fixtures Tables Refusals Kernel Specs Repository RowLocks Delivery

/-- The rows of the timeline that record a refusal. -/
def refusals (db : Db) : List AuditRow :=
  db.audit_timeline.filter (·.event_type = EXECUTION_REFUSED)

/-- The write neither records a refusal nor takes one away. -/
def quiet : Write → Bool
  | .insertAudit a => a.event_type ≠ EXECUTION_REFUSED
  | .deleteAudits _ => false
  | _ => true

lemma refusals_apply {w : Write} (h : quiet w = true) (db : Db) :
    refusals (apply db w) = refusals db := by
  cases w with
  | insertAudit a =>
    have hne : a.event_type ≠ EXECUTION_REFUSED := by simpa [quiet] using h
    simp [refusals, apply, hne]
  | deleteAudits i => simp [quiet] at h
  | _ => rfl

section
variable (spec : OperationSpec) (context : ToolCallContext) (action : CanonicalAction)
  (token : ApprovalToken) (key : UUID)

/-- An executed call is on record: the ledger row of its key, written from its own fields,
and the approval it is bound to. -/
structure Recorded (row : LedgerRow) (db : Db) : Prop where
  found : db.findLedger spec.operation_scope key = some row
  written : ∃ now result,
    row.toLedgerFields = ledgerFields spec context action token key now result
  approval : ∃ a, db.findApproval token.token_id = some a ∧
    Binds token (canonical_action_hash action) context.actor (some context.incident_id) a

/-- The result a ledger row is read back as. -/
def resultOf (row : LedgerRow) (status : OperationStatus) : OperationLedgerResult where
  context := context
  idempotency_key := key
  action_hash := row.action_hash
  approval_token_id := row.approval_token_id
  one_time_use_id := row.one_time_use_id
  status := status
  operation_id := spec.operation_scope ++ ":" ++ uuidStr key
  committed_at := row.committed_at
  result := some row.result

/-- The ends of a delivery, with the state it leaves. -/
inductive AttemptEnd (db : Db) :
    Except Raised (OperationLedgerResult ⊕ LedgerFields) → Db → Prop where
  | duplicate {result} (h : result.status = .DUPLICATE) : AttemptEnd db (.ok (.inl result)) db
  | executed {ledger n db'} (hrow : Recorded spec context action token key ⟨ledger, n⟩ db')
    (hquiet : refusals db' = refusals db) : AttemptEnd db (.ok (.inr ledger)) db'
  | refused {e : Raised} (h : e.uncommitted) : AttemptEnd db (.error e) db
  | recorded {d : ApprovalDenied} {reason : String} {row : AuditRow}
    (hreason : d.reason = some reason) (hrow : row.event_type = EXECUTION_REFUSED) :
    AttemptEnd db (.error (.ApprovalDenied d))
      { db with audit_timeline := db.audit_timeline ++ [row] }

/-- The ends of a call, with the state it leaves. -/
inductive CommitEnd (response_loss : Bool) (db : Db) :
    Except Raised OperationLedgerResult → Db → Prop where
  /-- A redelivery, answered from the ledger. -/
  | duplicate {result} (h : result.status = .DUPLICATE) :
    CommitEnd response_loss db (.ok result) db
  /-- A first delivery. -/
  | executed {key row db'} (hkey : context.idempotency_key = some key)
    (hargs : spec.validate_arguments action = none) (hbound : bound spec context action = true)
    (hrow : Recorded spec context action token key row db')
    (hquiet : refusals db' = refusals db) (hloss : response_loss = false) :
    CommitEnd response_loss db (.ok (resultOf spec context key row .SUCCEEDED)) db'
  /-- A first delivery whose response is lost. -/
  | lost {key row db'} (hkey : context.idempotency_key = some key)
    (hargs : spec.validate_arguments action = none) (hbound : bound spec context action = true)
    (hrow : Recorded spec context action token key row db')
    (hquiet : refusals db' = refusals db) (hloss : response_loss = true) :
    CommitEnd response_loss db (.error (.ResponseLost spec.response_loss_message)) db'
  /-- A refusal or a failure that leaves nothing. -/
  | refused {e : Raised} (h : e.uncommitted) : CommitEnd response_loss db (.error e) db
  /-- A refusal with a reason, on record. -/
  | recorded {d : ApprovalDenied} {reason : String} {row : AuditRow}
    (hreason : d.reason = some reason) (hrow : row.event_type = EXECUTION_REFUSED) :
    CommitEnd response_loss db (.error (.ApprovalDenied d))
      { db with audit_timeline := db.audit_timeline ++ [row] }

end

section
variable {spec : OperationSpec} {context : ToolCallContext} {action : CanonicalAction}
  {token : ApprovalToken} {key : UUID} {F : Prop} {G : Db → Db → Prop} {L : List Lock}
  {W : List Write} {db : Db}

lemma ledger_result_of_written {row : LedgerRow} (hkey : context.idempotency_key = some key)
    (h : ∃ now result,
      row.toLedgerFields = ledgerFields spec context action token key now result)
    (status : OperationStatus) :
    ledger_result row.toLedgerFields status spec.operation_scope =
      ret (resultOf spec context key row status) := by
  obtain ⟨now, result, hrow⟩ := h
  have hvalid : ToolCallContext.validate row.incident_id row.thread_id row.correlation_id row.actor
      row.permission (some row.idempotency_key) = some context := by
    simp only [hrow, ledgerFields]
    rw [ToolCallContext.validate_self context _ context.correlation_id_ok, ← hkey]
  have hid : row.idempotency_key = key := by rw [hrow]; rfl
  unfold ledger_result
  rw [hvalid, hid]
  rfl

lemma binds_consume {h : ActionHash} {actor : String} {incident_id : Option String}
    {a : ApprovalRow} {t : UUID} {now : Time} (hbind : Binds token h actor incident_id a) :
    Binds token h actor incident_id (a.consume t now) := by
  unfold ApprovalRow.consume
  split
  · obtain ⟨h1, h2, h3, h4, h5, h6, h7, h8, h9, h10⟩ := hbind
    exact ⟨h1, h2, h3, h4, h5, h6, h7, h8, h9, h10⟩
  · exact hbind

lemma Settled.recorded {ledger : LedgerFields}
    (h : Settled spec context action token key ledger L W db) :
    ∃ n, Recorded spec context action token key ⟨ledger, n⟩ (view (E := lab) db W) := by
  obtain ⟨n, now, result, hledger, hU⟩ := h
  obtain ⟨⟨a, ha, hbind, -⟩, hfresh⟩ := hU.holds
  obtain ⟨happrovals, hrows⟩ := Prod.mk.inj (hU.core_view db)
  refine ⟨n, ?_, ⟨now, result, hledger⟩, a.consume token.token_id now, ?_, ?_⟩
  · have hnone : db.findLedger spec.operation_scope key = none :=
      List.find?_eq_none.mpr fun r hr => by simp [hfresh r hr]
    have hkey : (⟨ledger, n⟩ : LedgerRow).hasKey spec.operation_scope key = true :=
      hasKey_iff.mpr ⟨by rw [hledger]; rfl, by rw [hledger]; rfl⟩
    rw [Db.findLedger] at hnone
    rw [Db.findLedger, hrows]
    simp [view, apply, List.find?_append, hnone, hkey]
  · have hfind : (view (E := lab) db W).findApproval token.token_id =
        (apply db (.consumeApproval token.token_id now)).findApproval token.token_id := by
      rw [Db.findApproval, happrovals]
      rfl
    rw [hfind, findApproval_consume, ha]
    rfl
  · exact binds_consume hbind

lemma registered_transition : ∀ spec ∈ registered_operation_specs,
    spec.commit_transition ≠ some EXECUTION_REFUSED := by
  decide

lemma quiet_writes (hspec : spec ∈ registered_operation_specs) {q : Stmt}
    (hq : DeliverOp spec (.stmt q)) {c c' : Counters} {r : Reply q} {ws : List Write}
    (he : exec q c db = (c', .ok (r, ws))) : ∀ w ∈ ws, quiet w = true := by
  intro w hw
  have hwrites := exec_writes he w hw
  rcases hq with hq | ⟨row, hq⟩ | ⟨t, now, hq⟩
  · cases q with
    | insertAudit a =>
      have hne : a.event_type ≠ EXECUTION_REFUSED := by
        rintro heq
        exact registered_transition spec hspec (by rw [show _ = _ from hq, heq])
      obtain ⟨n, rfl⟩ := hwrites
      simpa [quiet] using hne
    | updateFixture f set =>
      obtain ⟨⟨r, rfl⟩, -⟩ := hwrites
      rfl
    | _ =>
      first
      | exact hq.elim
      | exact hwrites.elim
      | (obtain rfl := hwrites; rfl)
  · cases hq
    obtain ⟨n, rfl⟩ := hwrites
    rfl
  · cases hq
    obtain ⟨rfl, -⟩ := hwrites
    rfl

/-! ### A transaction alone -/

lemma wp_transaction {body : Call α} {Q : Post lab Raised α}
    (h : wp F Still G body (fun r _ W db' =>
      match r with
      | .ok a => G db' (view db' W) ∧ Q (.ok a) [] [] (view db' W)
      | .error e => Q (.error e) [] [] db') L W db) :
    wp F Still G (transaction body) Q L W db := by
  refine wp_elim (wp_mono (fun r L W db' hr => ?_) h)
  cases r with
  | ok a =>
    rintro _ rfl
    exact hr
  | error e =>
    rintro _ rfl
    exact hr

lemma alone_deliver (hspec : spec ∈ registered_operation_specs) :
    wp F Still G (deliver spec context action token key) (fun r L W db' => db' = db ∧
      (∀ e, r = .error e → e.uncommitted) ∧ (∀ w ∈ W, quiet w = true) ∧
      Ok (Outcome spec context action token key) r L W db') [] [] db := by
  have hquiet : wp F (Locked labLocks (· = db)) G (deliver spec context action token key)
      (fun _ _ W _ => ∀ w ∈ W, quiet w = true) [] [] db :=
    wp_asks (R := Locked labLocks (· = db)) (S := DeliverOp spec) (T := fun w => quiet w = true)
      (fun _ _ _ _ => Locked.trans labLocks) (fun _ _ _ _ => Locked.mono labLocks)
      (fun _ L' _ _ h => Locked.refl (I := (· = db)) labLocks h.1 L') (fun h => h.ne_commit _ rfl)
      (by rintro (h | ⟨r, h⟩ | ⟨t, now, h⟩) <;> cases h)
      (fun _ hq _ _ _ _ _ he => quiet_writes hspec hq he) (within_deliver hspec)
      (Locked.refl labLocks rfl []) fun _ _ _ _ _ h => h
  have hcommit : (deliver spec context action token key).Within (· ≠ .commit)
      Raised.uncommitted :=
    (within_deliver hspec).mono DeliverOp.ne_commit fun _ h => h
  exact wp_still labLocks hcommit (wp_and hquiet (wp_deliver hspec))

/-- The record of a refusal is one row or none, and never a lost response. -/
lemma alone_recordRefusal {action_hash : ActionHash} {reason : String}
    (hG : ∀ a b, G a b) :
    wp F Still G (recordRefusal context action_hash reason) (fun r L W db' => L = [] ∧ W = [] ∧
      ((∀ e, r = .error e → e.uncommitted) ∧ db' = db ∨ r = .ok () ∧ ∃ row : AuditRow,
        row.event_type = EXECUTION_REFUSED ∧
          db' = { db with audit_timeline := db.audit_timeline ++ [row] })) [] [] db := by
  intro now
  unfold append_audit_event AuditTimelineEvent.validate
  refine wp_elim ?_
  split
  · refine wp_transaction ?_
    rintro db' rfl
    refine ⟨fun c c' _ ws he => ⟨trivial, hG _ _, rfl, rfl, ?_⟩, fun c c' e he => ?_,
      fun _ => ?_⟩
    · simp only [exec] at he
      split_ifs at he
      · simp at he
      · obtain ⟨-, rfl⟩ := exec_ok_inj he
        exact .inl ⟨by simp, rfl⟩
      · obtain ⟨-, rfl⟩ := exec_ok_inj he
        exact .inr ⟨rfl, _, rfl, rfl⟩
    · exact ⟨rfl, rfl, .inl ⟨fun e' he' => by cases he'; trivial, rfl⟩⟩
    · exact ⟨rfl, rfl, .inl ⟨fun e' he' => by cases he'; trivial, rfl⟩⟩
  · exact ⟨rfl, rfl, .inl ⟨fun e' he' => by cases he'; trivial, rfl⟩⟩

lemma alone_attempt (hspec : spec ∈ registered_operation_specs) (hG : ∀ a b, G a b) :
    wp F Still G (attempt spec context action token key) (fun r L W db' =>
      L = [] ∧ W = [] ∧ AttemptEnd spec context action token key db r db') [] [] db := by
  refine wp_elim (wp_transaction (wp_mono (fun r L W db' hr => ?_) (alone_deliver hspec)))
  obtain ⟨rfl, hraised, hquiet, hr⟩ := hr
  cases r with
  -- the body raised: a denial with a reason is recorded, on a transaction of its own
  | error e =>
    have he := hraised e rfl
    cases e with
    | ApprovalDenied d =>
      dsimp only
      split
      · exact ⟨rfl, rfl, .refused he⟩
      · rename_i reason hreason
        refine wp_elim (wp_mono (fun r L W db'' hr => ?_) (alone_recordRefusal hG))
        obtain ⟨rfl, rfl, ⟨hun, rfl⟩ | ⟨rfl, row, hrow, rfl⟩⟩ := hr
        · cases r with
          | ok u => exact ⟨rfl, rfl, .refused he⟩
          | error e => exact ⟨rfl, rfl, .refused (hun e rfl)⟩
        · exact ⟨rfl, rfl, .recorded hreason hrow⟩
    | _ => exact ⟨rfl, rfl, .refused he⟩
  -- the body committed: a duplicate wrote nothing
  | ok d =>
    refine ⟨hG _ _, rfl, rfl, ?_⟩
    cases d with
    | inl result =>
      obtain ⟨hdup, rfl⟩ := hr
      exact .duplicate hdup
    | inr ledger =>
      obtain ⟨n, hrec⟩ := Settled.recorded hr
      refine .executed hrec ?_
      exact view_inv (E := lab) (I := fun d => refusals d = refusals db')
        (T := fun w => quiet w = true) (fun w d hw hd => (refusals_apply hw d).trans hd)
        hquiet rfl

lemma alone_commit (hspec : spec ∈ registered_operation_specs) {response_loss : Bool}
    (hG : ∀ a b, G a b) :
    wp F Still G (commit spec context action token response_loss) (fun r L W db' =>
      L = [] ∧ W = [] ∧ CommitEnd spec context action token response_loss db r db') [] [] db := by
  unfold commit
  split
  · -- three checks come before the first question
    exact ⟨rfl, rfl, .refused trivial⟩
  rename_i hargs
  split
  · exact ⟨rfl, rfl, .refused trivial⟩
  rename_i hbound
  rw [Bool.not_eq_true', Bool.not_eq_false] at hbound
  split
  · exact ⟨rfl, rfl, .refused trivial⟩
  rename_i key hkey
  refine wp_elim (wp_mono (fun r L W db' hr => ?_) (alone_attempt hspec hG))
  obtain ⟨rfl, rfl, hend⟩ := hr
  cases hend with
  | duplicate hdup => exact ⟨rfl, rfl, .duplicate hdup⟩
  | refused he => exact ⟨rfl, rfl, .refused he⟩
  | recorded hreason hrow => exact ⟨rfl, rfl, .recorded hreason hrow⟩
  | @executed ledger n _ hrec hquiet =>
    -- the response is the row read back, or lost
    have hread : ledger_result ledger .SUCCEEDED spec.operation_scope = ret _ :=
      ledger_result_of_written hkey hrec.written .SUCCEEDED
    cases response_loss with
    | true => exact ⟨rfl, rfl, .lost hkey hargs hbound hrec hquiet rfl⟩
    | false =>
      show wp F Still G (ledger_result ledger .SUCCEEDED spec.operation_scope) _ _ _ _
      rw [hread]
      exact ⟨rfl, rfl, .executed hkey hargs hbound hrec hquiet rfl⟩

end

end IncidentGate.Outcomes
