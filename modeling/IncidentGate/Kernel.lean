import IncidentGate.Refusals

/-!
The one transaction protocol every scenario mutation runs inside.

A capability is data: its bindings, its fixture, its refusals and its own change. The kernel
runs the eight steps around it.
-/

namespace IncidentGate.Kernel

open Lib.ScriptTree Lib.ScriptTree.Script Lib.RowLock Lib.JsonText
open Contracts Fixtures Tables Refusals

/-- Everything a scenario mutation is allowed to see: it holds no idempotency key, and the
clock's one reading as a value. -/
structure LockedTransaction (f : Fixture) where
  now : Time
  context : ToolCallContext
  action : CanonicalAction
  action_hash : ActionHash
  fixture : Row f

/-- What a mutation returns, and the whole of what it may decide. -/
structure MutationOutcome (f : Fixture) where
  result : Json
  mutating : Bool := true
  /-- The extra SET clauses of the mutation-counter update. -/
  fixture_touch : Row f → Row f := id

structure OperationSpec where
  scenario_id : String
  operation_scope : String
  incident_id : String
  tool_name : String
  required_permission : String
  validate_arguments : CanonicalAction → Option ApprovalDenied
  /-- The table that is locked, counted and touched. -/
  fixture : Fixture
  fixture_present : Row fixture → Bool
  precondition : Row fixture → Bool
  mutation : LockedTransaction fixture → Call (MutationOutcome fixture)
  commit_transition : Option String
  stamps_updated_at : Bool
  binding_message : String
  missing_key_message : Option String
  fixture_absent_message : String
  precondition_message : String
  response_loss_message : String
  binds_arguments : ActionArguments → Bool := fun _ => true

/-- Step 0, the identity binding. -/
def bound (spec : OperationSpec) (context : ToolCallContext) (action : CanonicalAction) : Bool :=
  context.incident_id = spec.incident_id && action.incident_id = spec.incident_id &&
    action.thread_id = context.thread_id && action.actor = context.actor &&
    action.permission = context.permission && action.tool_name = spec.tool_name &&
    context.permission = spec.required_permission &&
    action.permission = spec.required_permission && spec.binds_arguments action.arguments

def evidenceQuery (context : ToolCallContext) (evidence_ids : List String)
    (now : Time) : EvidenceQuery where
  evidence_ids := evidence_ids
  incident_id := context.incident_id
  thread_id := context.thread_id
  correlation_id := context.correlation_id
  actor := context.actor
  now := now

def validate_evidence (context : ToolCallContext) (evidence_ids : List String) (now : Time) :
    Call Unit := do
  let matching ← execute (.countEvidence (evidenceQuery context evidence_ids now))
  if matching ≠ evidence_ids.length then
    deny "action evidence is missing, out of scope, or stale" none none

/-- The envelope a ledger row is read back as. -/
def ledger_result (ledger : LedgerFields) (status : OperationStatus) (scope : String) :
    Call OperationLedgerResult :=
  match ToolCallContext.validate ledger.incident_id ledger.thread_id ledger.correlation_id
      ledger.actor ledger.permission (some ledger.idempotency_key) with
  | none => raise (.ValidationError "ToolCallContext")
  | some context => ret {
      context := context
      idempotency_key := ledger.idempotency_key
      action_hash := ledger.action_hash
      approval_token_id := ledger.approval_token_id
      one_time_use_id := ledger.one_time_use_id
      status := status
      operation_id := scope ++ ":" ++ uuidStr ledger.idempotency_key
      committed_at := ledger.committed_at
      result := some ledger.result }

section
variable (spec : OperationSpec) (context : ToolCallContext) (action : CanonicalAction)
  (token : ApprovalToken) (key : UUID)

/-- Step 2: a row under the key is a redelivery, or a divergence. -/
def replay (existing : LedgerRow) : Call OperationLedgerResult := do
  let approval ← execute (.selectApproval token.token_id)
  validate_replay context (canonical_action_hash action) token existing.toLedgerFields approval
  ledger_result existing.toLedgerFields .DUPLICATE spec.operation_scope

/-- Step 3: lock the approval, read the clock once, check the token and the evidence. -/
def authorize : Call Time := do
  let approval ← execute (.selectApproval token.token_id)
  let now ← clock
  validate_approval context (canonical_action_hash action) token approval now
  validate_evidence context action.evidence_ids now
  return now

/-- Step 4: lock the fixture and check the precondition again. -/
def lock_fixture : Call (Row spec.fixture) := do
  match ← execute (.lockFixture spec.fixture) with
  | none => deny spec.fixture_absent_message none (some .FIXTURE_ABSENT)
  | some fixture =>
    if !spec.fixture_present fixture then
      deny spec.fixture_absent_message none (some .FIXTURE_ABSENT)
    else if !spec.precondition fixture then
      deny spec.precondition_message none (some .PRECONDITION)
    else return fixture

/-- The row of step 6. -/
def ledgerFields (now : Time) (result : Json) : LedgerFields where
  operation_scope := spec.operation_scope
  idempotency_key := key
  action_hash := canonical_action_hash action
  approval_token_id := token.token_id
  one_time_use_id := token.one_time_use_id
  incident_id := context.incident_id
  thread_id := context.thread_id
  correlation_id := context.correlation_id
  actor := context.actor
  permission := context.permission
  approver := token.approver
  result := result
  arguments := some action.arguments.model_dump
  committed_at := now

/-- The mutation-counter update, with the touched fields and the clock stamp. -/
def counted (now : Time) (outcome : MutationOutcome spec.fixture) (row : Row spec.fixture) :
    Row spec.fixture :=
  let row := (table spec.fixture).count (outcome.fixture_touch row)
  if spec.stamps_updated_at then (table spec.fixture).stamp now row else row

def count_mutation (now : Time) (outcome : MutationOutcome spec.fixture) : Call Unit :=
  if outcome.mutating then do
    let _ ← execute (.updateFixture spec.fixture (counted spec now outcome))
    return ()
  else ret ()

def emit_transition (now : Time) (result : Json) : Call Unit :=
  match spec.commit_transition with
  | none => ret ()
  | some transition => do
    let audit_id ← uuid4
    execute (.insertAudit {
      audit_id := audit_id, incident_id := context.incident_id, event_type := transition,
      actor := context.actor, payload := result, created_at := now })

/-- Steps 6 and 7: the ledger row, the counter, the audit fact, the consumed token. -/
def settle (now : Time) (outcome : MutationOutcome spec.fixture) : Call LedgerFields := do
  let row := ledgerFields spec context action token key now outcome.result
  execute (.insertLedger row)
  count_mutation spec now outcome
  emit_transition spec context now outcome.result
  execute (.consumeApproval token.token_id now)
  return row

/-- Steps 3 to 7: a first delivery. -/
def perform : Call LedgerFields := do
  let now ← authorize context action token
  let fixture ← lock_fixture spec
  let outcome ← spec.mutation {
    now := now, context := context, action := action,
    action_hash := canonical_action_hash action, fixture := fixture }
  settle spec context action token key now outcome

/-- Steps 1 to 7: a duplicate's result, or the row of a first delivery. -/
def deliver : Call (OperationLedgerResult ⊕ LedgerFields) := do
  match ← execute (.selectLedger spec.operation_scope key) with
  | some existing => do
    let result ← replay spec context action token existing
    return .inl result
  | none => do
    let ledger ← perform spec context action token key
    return .inr ledger

/-- The delivery's own transaction, and the record of its refusal. -/
def attempt : Call (OperationLedgerResult ⊕ LedgerFields) :=
  refusal_recorded context (canonical_action_hash action)
    (transaction (deliver spec context action token key))

end

/-- Step 8: a duplicate's result, a first result, or its response lost. -/
def respond (spec : OperationSpec) (response_loss : Bool) :
    OperationLedgerResult ⊕ LedgerFields → Call OperationLedgerResult
  | .inl result => ret result
  | .inr ledger =>
    if response_loss then raise (.ResponseLost spec.response_loss_message)
    else ledger_result ledger .SUCCEEDED spec.operation_scope

/-- Commit one capability, or refuse before anything durable happens. -/
def commit (spec : OperationSpec) (context : ToolCallContext) (action : CanonicalAction)
    (token : ApprovalToken) (response_loss : Bool) : Call OperationLedgerResult :=
  match spec.validate_arguments action with
  | some e => raise (.ApprovalDenied e)
  | none =>
    if !bound spec context action then
      deny spec.binding_message none (some .IDENTITY_BINDING)
    else
      match context.idempotency_key with
      | none =>
        deny (spec.missing_key_message.getD spec.binding_message) none (some .IDENTITY_BINDING)
      | some key => do
        let delivered ← attempt spec context action token key
        respond spec response_loss delivered

end IncidentGate.Kernel
