import IncidentGate.Tables

/-!
What a call may raise, the transaction it runs in, the checks of an approval, and the durable
record of a refusal.
-/

namespace IncidentGate.Refusals

open Lib.ScriptTree Lib.ScriptTree.Script Lib.RowLock Lib.JsonText Contracts Tables

inductive RefusalStage where
  | ARGUMENTS
  | IDENTITY_BINDING
  | REPLAY_DIVERGENCE
  | AUTHORIZATION
  | EVIDENCE
  | FIXTURE_ABSENT
  | PRECONDITION
  deriving DecidableEq

structure ApprovalDenied where
  message : String
  reason : Option String := none
  stage : Option RefusalStage := none
  deriving DecidableEq

inductive Raised where
  | ApprovalDenied (e : ApprovalDenied)
  | ApprovalConflict (message : String)
  | ResponseLost (message : String)
  /-- A model's validation failed, named by the model. -/
  | ValidationError (model : String)
  | Database (e : DbError)
  | AttributeError
  | TypeError
  | ValueError (message : String)
  | RuntimeError
  deriving DecidableEq

/-- A call that raises this has committed nothing. -/
def Raised.uncommitted : Raised → Prop
  | .ResponseLost _ => False
  | _ => True

abbrev Call (α : Type) := Prog lab Raised α

def deny (message : String) (reason : Option String) (stage : Option RefusalStage) : Call α :=
  raise (.ApprovalDenied ⟨message, reason, stage⟩)

/-- `cursor.execute`, with the rows it fetches. -/
def execute (q : Stmt) : Call (Reply q) :=
  .ask (.stmt q) fun
    | .ok r => ret r
    | .error e => raise (.Database e)

def clock : Call Time := .ask (.input .clock) ret

def uuid4 : Call UUID := .ask (.input .uuid4) ret

/-- `with self._connect() as connection`: commit on return, roll back on an exception. -/
def transaction (body : Call α) : Call α :=
  body.elim fun
    | .ok a => .ask .commit fun _ => ret a
    | .error e => .ask .rollback fun _ => raise e

/-! ### The checks of an approval -/

def TOKEN_MISSING : String := "missing"
def TOKEN_ACTION_HASH_MISMATCH : String := "action_hash_mismatch"
def TOKEN_INCIDENT_MISMATCH : String := "incident_mismatch"
def TOKEN_ACTOR_MISMATCH : String := "actor_mismatch"
def TOKEN_APPROVER_MISMATCH : String := "approver_mismatch"
def TOKEN_ONE_TIME_USE_ID_MISMATCH : String := "one_time_use_id_mismatch"
def TOKEN_REQUESTED_AT_MISMATCH : String := "requested_at_mismatch"
def TOKEN_APPROVED_AT_MISMATCH : String := "approved_at_mismatch"
def TOKEN_EXPIRES_AT_MISMATCH : String := "expires_at_mismatch"
def TOKEN_CONSUMED : String := "consumed"
def TOKEN_EXPIRED : String := "expired"
def TOKEN_VALID : String := "valid"
def IDEMPOTENCY_KEY_REBOUND : String := "idempotency_key_rebound"
def EXECUTION_REFUSED : String := "execution_refused"

def approval_invalid (cause : String) : String := "approval_invalid:" ++ cause

/-- The first binding a presented token fails, if any. -/
def token_binding_cause (approval : Option ApprovalRow) (token : ApprovalToken)
    (action_hash : ActionHash) (actor : String) (incident_id : Option String) : Option String :=
  match approval with
  | none => some TOKEN_MISSING
  | some approval =>
    if incident_id.any (approval.incident_id ≠ ·) then some TOKEN_INCIDENT_MISMATCH
    else if approval.action_hash ≠ action_hash ∨ token.action_hash ≠ action_hash then
      some TOKEN_ACTION_HASH_MISMATCH
    else if approval.actor ≠ actor ∨ token.actor ≠ actor then some TOKEN_ACTOR_MISMATCH
    else if approval.approver ≠ token.approver then some TOKEN_APPROVER_MISMATCH
    else if approval.one_time_use_id ≠ token.one_time_use_id then
      some TOKEN_ONE_TIME_USE_ID_MISMATCH
    else if approval.requested_at ≠ token.requested_at then some TOKEN_REQUESTED_AT_MISMATCH
    else if approval.approved_at ≠ token.approved_at then some TOKEN_APPROVED_AT_MISMATCH
    else if approval.expires_at ≠ token.expires_at then some TOKEN_EXPIRES_AT_MISMATCH
    else none

/-- The binding causes, then the two causes of state. -/
def token_refusal_cause (approval : Option ApprovalRow) (token : ApprovalToken)
    (action_hash : ActionHash) (actor : String) (now : Time) (incident_id : Option String) :
    String :=
  match token_binding_cause approval token action_hash actor incident_id, approval with
  | some binding, _ => binding
  | none, none => TOKEN_VALID
  | none, some approval =>
    if approval.consumed_at.isSome then TOKEN_CONSUMED
    else if approval.expires_at ≤ now then TOKEN_EXPIRED
    else TOKEN_VALID

/-- Every durable binding between an approval row, a token and a call. -/
structure Binds (token : ApprovalToken) (action_hash : ActionHash) (actor : String)
    (incident_id : Option String) (a : ApprovalRow) : Prop where
  incident : ∀ i ∈ incident_id, a.incident_id = i
  row_hash : a.action_hash = action_hash
  token_hash : token.action_hash = action_hash
  row_actor : a.actor = actor
  token_actor : token.actor = actor
  approver : a.approver = token.approver
  one_time_use : a.one_time_use_id = token.one_time_use_id
  requested : a.requested_at = token.requested_at
  approved : a.approved_at = token.approved_at
  expires : a.expires_at = token.expires_at

section
variable {approval : Option ApprovalRow} {token : ApprovalToken} {h : ActionHash}
  {actor : String} {incident_id : Option String} {now : Time}

lemma token_binding_cause_none_iff :
    token_binding_cause approval token h actor incident_id = none ↔
      ∃ a, approval = some a ∧ Binds token h actor incident_id a := by
  cases approval with
  | none => simp [token_binding_cause]
  | some a =>
    have hi : incident_id.any (a.incident_id ≠ ·) = false ↔
        ∀ i ∈ incident_id, a.incident_id = i := by
      cases incident_id <;> simp
    simp only [token_binding_cause, Option.some.injEq, exists_eq_left']
    constructor
    · intro hb
      split_ifs at hb with h0
      rw [Bool.not_eq_true] at h0
      constructor
      · exact hi.mp h0
      all_goals simp_all
    · intro hb
      rw [if_neg (by rw [Bool.not_eq_true]; exact hi.mpr hb.incident)]
      simp [hb.row_hash, hb.token_hash, hb.row_actor, hb.token_actor, hb.approver,
        hb.one_time_use, hb.requested, hb.approved, hb.expires]

lemma token_binding_cause_ne_valid :
    token_binding_cause approval token h actor incident_id ≠ some TOKEN_VALID := by
  cases approval with
  | none => simp [token_binding_cause]; decide
  | some a =>
    simp only [token_binding_cause]
    split_ifs <;> simp <;> decide

lemma token_refusal_cause_valid_iff :
    token_refusal_cause approval token h actor now incident_id = TOKEN_VALID ↔
      ∃ a, approval = some a ∧ Binds token h actor incident_id a ∧ a.consumed_at = none ∧
        now < a.expires_at := by
  unfold token_refusal_cause
  cases hb : token_binding_cause approval token h actor incident_id with
  | some binding =>
    have hne : binding ≠ TOKEN_VALID := fun h' => token_binding_cause_ne_valid (h' ▸ hb)
    simp only [hne, false_iff]
    rintro ⟨a, ha, hbind, -⟩
    rw [token_binding_cause_none_iff.mpr ⟨a, ha, hbind⟩] at hb
    cases hb
  | none =>
    obtain ⟨a, rfl, hbind⟩ := token_binding_cause_none_iff.mp hb
    simp only [Option.some.injEq, exists_eq_left', hbind, true_and]
    cases hc : a.consumed_at with
    | some t => simp; decide
    | none =>
      have hne : TOKEN_EXPIRED ≠ TOKEN_VALID := by decide
      by_cases he : a.expires_at ≤ now
      · simp [he, hne]
      · simp [he, not_le.mp he]

end

def validate_approval (context : ToolCallContext) (action_hash : ActionHash)
    (token : ApprovalToken) (approval : Option ApprovalRow) (now : Time) : Call Unit :=
  let cause := token_refusal_cause approval token action_hash context.actor now
    (some context.incident_id)
  if cause ≠ TOKEN_VALID then
    deny "approval is missing, expired, consumed, or not bound to this action"
      (some (approval_invalid cause)) none
  else ret ()

/-- The eight bindings of a ledger row to the call that finds it. -/
def ledgerBound (context : ToolCallContext) (action_hash : ActionHash) (token : ApprovalToken)
    (ledger : LedgerFields) : Bool :=
  ledger.action_hash = action_hash && ledger.approval_token_id = token.token_id &&
    ledger.one_time_use_id = token.one_time_use_id && ledger.incident_id = context.incident_id &&
    ledger.thread_id = context.thread_id && ledger.actor = context.actor &&
    ledger.permission = context.permission && ledger.approver = token.approver

def validate_replay (context : ToolCallContext) (action_hash : ActionHash)
    (token : ApprovalToken) (ledger : LedgerFields) (approval : Option ApprovalRow) :
    Call Unit :=
  if !ledgerBound context action_hash token ledger then
    deny "idempotency key is bound to different operation semantics"
      (some IDEMPOTENCY_KEY_REBOUND) none
  else
    match token_binding_cause approval token action_hash context.actor
        (some context.incident_id) with
    | some binding =>
      deny "idempotency key is bound to different operation semantics"
        (some (approval_invalid binding)) none
    | none => ret ()

/-! ### The record of a refusal -/

/-- `AuditTimelineEvent`, with its bounds. -/
structure AuditTimelineEvent where
  incident_id : String
  thread_id : Option String
  actor : String
  transition : String
  action_hash : Option ActionHash
  reason : Option String
  timestamp : Time
  incident_id_ok : isBoundedName incident_id = true
  thread_id_ok : thread_id.all isBoundedName = true
  actor_ok : isBoundedName actor = true
  transition_ok : isBoundedName transition = true
  reason_ok : reason.all (·.length ≤ 1000) = true

def AuditTimelineEvent.validate (incident_id : String) (thread_id : Option String)
    (actor transition : String) (action_hash : Option ActionHash) (reason : Option String)
    (timestamp : Time) : Call AuditTimelineEvent :=
  if h : isBoundedName incident_id ∧ thread_id.all isBoundedName ∧ isBoundedName actor ∧
      isBoundedName transition ∧ reason.all (·.length ≤ 1000) then
    ret ⟨incident_id, thread_id, actor, transition, action_hash, reason, timestamp,
      h.1, h.2.1, h.2.2.1, h.2.2.2.1, h.2.2.2.2⟩
  else raise (.ValidationError "AuditTimelineEvent")

def jsonOf (s : Option String) : Json := s.elim .null .str

namespace AuditTimelineEvent

variable (event : AuditTimelineEvent) (attempt_id : Option UUID)

/-- The attempt is left out of the identity when there is none, not written as null. -/
def attemptField : List (String × Json) :=
  (attempt_id.map fun a => ("attempt_id", Json.str (uuidStr a))).toList

def payload : Json :=
  dict ([("thread_id", jsonOf event.thread_id), ("transition", .str event.transition),
    ("action_hash", jsonOf (event.action_hash.map (·.1))), ("reason", jsonOf event.reason)] ++
    attemptField attempt_id)

def identity : Json :=
  dict ([("incident_id", .str event.incident_id), ("thread_id", jsonOf event.thread_id),
    ("actor", .str event.actor), ("transition", .str event.transition),
    ("action_hash", jsonOf (event.action_hash.map (·.1))), ("reason", jsonOf event.reason)] ++
    attemptField attempt_id)

/-- The text that names the event, the same for a crash replay of one attempt. -/
def name : List Char := dumps (event.identity attempt_id)

def row : AuditFields where
  audit_id := uuid5 NAMESPACE_URL (event.name attempt_id)
  incident_id := event.incident_id
  event_type := event.transition
  actor := event.actor
  payload := event.payload attempt_id
  created_at := event.timestamp

end AuditTimelineEvent

def append_audit_event (incident_id thread_id actor transition : String)
    (action_hash : Option ActionHash) (reason : Option String) (timestamp : Time)
    (attempt_id : Option UUID) : Call Unit := do
  let event ← AuditTimelineEvent.validate incident_id (some thread_id) actor transition
    action_hash reason timestamp
  transaction (execute (.insertAuditIfAbsent (event.row attempt_id)))

/-- The append runs after the refused transaction has rolled back, in one of its own. -/
def recordRefusal (context : ToolCallContext) (action_hash : ActionHash) (reason : String) :
    Call Unit := do
  let now ← clock
  append_audit_event context.incident_id context.thread_id context.actor EXECUTION_REFUSED
    (some action_hash) (some reason) now context.idempotency_key

/-- A refusal without a reason says nothing about an approval and is not recorded. -/
def refusal_recorded (context : ToolCallContext) (action_hash : ActionHash) (body : Call α) :
    Call α :=
  body.handle fun
    | .ApprovalDenied e =>
      match e.reason with
      | none => raise (.ApprovalDenied e)
      | some reason => do
        recordRefusal context action_hash reason
        raise (.ApprovalDenied e)
    | e => raise e

end IncidentGate.Refusals
