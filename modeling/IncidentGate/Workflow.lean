import IncidentGate.EpisodeOrdering
import IncidentGate.Lib.Checkpoint
import IncidentGate.RecoveryVerifier
import IncidentGate.ShownFacts

/-!
The workflow of one incident: thirteen nodes from the ingest of a context to the verification of a
recovery, over dependencies that may answer anything or raise.

A node asks its dependencies and returns the state with its update. The validation of evidence, the
policy and the routing are the program's own; a gate that only observes decides nothing.
-/

namespace IncidentGate.Workflow

open Lib.ScriptTree Lib.Checkpoint Contracts Policy SabotageRows
open MonitorInputs (GateMode AuthorizationGate MonitorConsultation)
open MonitorCaller (MonitorResult MonitorThresholds MonitorAssessmentV2 MonitorOutcome)
open RecoveryVerifier (VerificationResult)
open ShownFacts (EvidenceValidator)
open Invocations (ModelInvocationRecord)

/-! ### Reasons -/

def THREAD_CONTEXT_MISMATCH : String := "thread_context_mismatch"
def INCIDENT_CONTEXT_MISMATCH : String := "incident_context_mismatch"
def CALLER_ACTOR_MISMATCH : String := "caller_actor_mismatch"
def MONITOR_BLOCK : String := "monitor_block"
def MONITOR_ACTION_HASH_MISMATCH : String := "monitor_action_hash_mismatch"
def MONITOR_ERROR : String := "monitor_error"
def HUMAN_REJECTED : String := "human_rejected"
def DEFER_REASON_REQUIRED : String := "defer_reason_required"
def APPROVAL_TOKEN_REQUIRED : String := "approval_token_required"
def RECOVERY_VERIFIED : String := "recovery_verified"
def RECOVERY_FAILED : String := "recovery_failed"
def TOKEN_APPROVER_MISMATCH : String := "approver_mismatch"
def AUDIT_REJECTED : String := "rejected"
def AUDIT_TOKEN_REQUIRED : String := "token_required"
def AUDIT_APPROVED : String := "approved"
def AUDIT_EXECUTED : String := "executed"
def AUDIT_PASSED : String := "passed"
def AUDIT_FAILED : String := "failed"

def approval_invalid (cause : String) : String := "approval_invalid:" ++ cause

def monitor_verdict : MonitorVerdict → String
  | .ALLOW => "monitor_verdict:allow"
  | .DEFER => "monitor_verdict:defer"
  | .BLOCK => "monitor_verdict:block"

def monitor_error (kind : String) : String :=
  "monitor_error:" ++ if EpisodeOrdering.monitorErrorKinds.any (·.value = kind) then kind
    else "unknown"

/-! ### Data -/

/-- The authenticated principal, with the role that the policy asks for. -/
structure Caller extends Contracts.Caller where
  role : Role

inductive Decision where
  | approve
  | reject
  deriving DecidableEq

structure HumanDecision where
  decision : Decision
  approver : String
  reason : Option String
  token : Option ApprovalToken
  approver_ok : isNonEmpty approver = true
  reason_ok : reason.all (·.length ≤ 1000) = true

/-- `str.isspace` of a character. -/
def isSpace (c : Char) : Bool :=
  let n := c.toNat
  (0x09 ≤ n && n ≤ 0x0d) || (0x1c ≤ n && n ≤ 0x20) || n = 0x85 || n = 0xa0 || n = 0x1680 ||
    (0x2000 ≤ n && n ≤ 0x200a) || n = 0x2028 || n = 0x2029 || n = 0x202f || n = 0x205f ||
    n = 0x3000

/-- `not (reason or "").strip()` -/
def blank (reason : Option String) : Bool := (reason.getD "").toList.all isSpace

structure ControlAuditEvent where
  transition : String
  incident_id : String
  thread_id : String
  action_hash : Option ActionHash
  reason : Option String
  «at» : Time

inductive IncidentState where
  | OPEN
  | INVESTIGATING
  | AWAITING_APPROVAL
  | DEFERRED
  | RESOLVED
  | BLOCKED
  deriving DecidableEq

/-- The report holds the incident in its final state. -/
structure IncidentReport where
  incident : IncidentIdentity
  diagnosis : String
  hypotheses : List Hypothesis
  evidence_ids : List String
  action_hash : Option ActionHash
  policy : Option PolicyOutcome
  monitor : Option MonitorResult
  verification : Option VerificationResult
  final_state : IncidentState

structure WorkflowResult where
  final_state : String
  reasons : List String
  action_hash : Option ActionHash
  evidence_ids : List String
  policy : Option PolicyOutcome
  monitor : Option MonitorResult
  operation : Option OperationLedgerResult
  verification : Option VerificationResult
  hypothesis : Option Hypothesis
  idempotency_key : Option UUID
  approval : Option HumanDecision
  report : Option IncidentReport
  reasons_ok : reasons ≠ []

/-- The channels of the graph; one that was never written is absent. -/
structure WorkflowState where
  incident : IncidentIdentity
  action : Option CanonicalAction
  context : ToolCallContext
  caller : Caller
  records : Option (List EvidenceRecord)
  evidence : Option EvidenceValidation
  hypothesis : Option Hypothesis
  policy : Option PolicyOutcome
  monitor : Option MonitorResult
  monitor_error : Option String
  monitor_input_hash : Option String
  monitor_invocation : Option ModelInvocationRecord
  idempotency_key : Option UUID
  human : Option HumanDecision
  operation : Option OperationLedgerResult
  verification : Option VerificationResult
  result : Option WorkflowResult

/-- The state a run is started on. -/
def fresh (incident : IncidentIdentity) (context : ToolCallContext) (caller : Caller) :
    WorkflowState :=
  ⟨incident, none, context, caller, none, none, none, none, none, none, none, none, none, none,
    none, none, none⟩

/-- What an authorizer is entitled to see of a proposed action. -/
structure AuthorizationRequest where
  action_hash : ActionHash
  incident_id : String
  thread_id : String
  actor : String
  monitor_verdict : Option MonitorVerdict
  requires_reason : Bool

/-! ### Safeguards -/

/-- No evidence or policy gate is disabled, and an approver is named exactly for the deterministic
control. -/
structure SafeguardConfiguration extends MonitorInputs.SafeguardConfiguration where
  evidence_gate_ok : evidence_gate ≠ .DISABLED
  policy_gate_ok : policy_gate ≠ .DISABLED
  control_approver_ok : authorization_gate = .DETERMINISTIC_CONTROL ∧
      control_approver.any (· ≠ "") = true ∨
    authorization_gate = .DURABLE_HUMAN ∧ control_approver = none

namespace SafeguardConfiguration

variable (s : SafeguardConfiguration)

def enforces_policy : Bool := s.policy_gate = .ENFORCE
def enforces_evidence : Bool := s.evidence_gate = .ENFORCE
def consults_monitor : Bool := s.monitor_gate ≠ .DISABLED
def enforces_monitor : Bool := s.monitor_gate = .ENFORCE

end SafeguardConfiguration

/-! ### Dependencies -/

/-- What a second-generation monitor assessed. -/
inductive MonitorAssessment where
  /-- An assessment that the node binds itself. -/
  | v2 (assessment : MonitorAssessmentV2)
  /-- One of a monitor that binds its own, with what its `bind_result` returns or raises. -/
  | own (bound : Except String MonitorResult)

/-- `bind_result` of the monitor, or `bind_assessment`. -/
def MonitorAssessment.bind_result (action : CanonicalAction) (thresholds : MonitorThresholds) :
    MonitorAssessment → Except String MonitorResult
  | v2 a => MonitorCaller.bind_result a.toScored a.evaluated_action_fingerprint action thresholds
  | own bound => bound

/-- The outcome of a consultation, and the observation of a monitor that exposes one. -/
structure Consulted where
  outcome : MonitorOutcome MonitorAssessment
  observation : Option (Option String × Option ModelInvocationRecord)

/-- Exactly one monitor: of the first generation, or of the second with its bundle. -/
inductive Monitor where
  | v1
  | v2 (thresholds : MonitorThresholds)

/-- The dependencies that decide by the program's own code, and the generator and the requester
that a run is configured with. -/
structure WorkflowDependencies (P R : Type) where
  proposer : P
  evidence_validator : EvidenceValidator
  regex : Regex
  policy : PolicyConfiguration
  monitor : Monitor
  safeguards : SafeguardConfiguration
  authorization : R

/-- What the nodes ask; the requester and the generator are asked by name, since an episode selects
them. -/
inductive Question (P R : Type) where
  | collect (incident : IncidentIdentity)
  | propose (proposer : P) (incident : IncidentIdentity) (caller : Caller)
      (context : ToolCallContext) (records : List EvidenceRecord)
  | validator_clock
  | assess (action : CanonicalAction) (digest : List (String × String × Time))
  | build_consultation (facts : MonitorConsultation)
  | assess_consultation (consultation : MonitorConsultation)
  | request (requester : R) (request : AuthorizationRequest)
  | validate_token (token : ApprovalToken) (action_hash : ActionHash) (actor : String)
      (now : Time)
  | execute (action : CanonicalAction) (context : ToolCallContext) (token : ApprovalToken)
      (action_hash : ActionHash) (idempotency_key : UUID)
  | verify (incident : IncidentIdentity) (operation : OperationLedgerResult)
  | emit (event : ControlAuditEvent)
  | clock

namespace Question

variable {P R : Type}

/-- What a dependency can answer; where it raises, the visit is lost. A proposal may be a
`ProposalError` by its reason, a consultation nothing where the factory raises a `TypeError` or a
`ValueError`, and a payload nothing where it does not validate. -/
@[reducible] def Answer : Question P R → Type
  | collect _ => List EvidenceRecord
  | propose .. => Except String (Hypothesis × CanonicalAction)
  | validator_clock => Time
  | assess .. => MonitorResult
  | build_consultation _ => Option MonitorConsultation
  | assess_consultation _ => Consulted
  | request .. => Option HumanDecision
  | validate_token .. => Bool × String
  | execute .. => OperationLedgerResult
  | verify .. => VerificationResult
  | emit _ => Unit
  | clock => Time

end Question

inductive Raised where
  | KeyError
  | ValueError (message : String)
  | TypeError (message : String)
  | AssertionError
  | ValidationError
  /-- `re.error`, of a policy's pattern. -/
  | PatternError

abbrev Work (P R α : Type) := Script (Question P R) Question.Answer Raised α

/-! ### Questions with the types of their answers -/

namespace Ask

variable {P R : Type}

abbrev collect (incident : IncidentIdentity) : Work P R (List EvidenceRecord) :=
  .ask (.collect incident) .ret

abbrev propose (proposer : P) (incident : IncidentIdentity) (caller : Caller)
    (context : ToolCallContext) (records : List EvidenceRecord) :
    Work P R (Except String (Hypothesis × CanonicalAction)) :=
  .ask (.propose proposer incident caller context records) .ret

abbrev validator_clock : Work P R Time := .ask .validator_clock .ret

abbrev assess (action : CanonicalAction) (digest : List (String × String × Time)) :
    Work P R MonitorResult := .ask (.assess action digest) .ret

abbrev build_consultation (facts : MonitorConsultation) : Work P R (Option MonitorConsultation) :=
  .ask (.build_consultation facts) .ret

abbrev assess_consultation (consultation : MonitorConsultation) : Work P R Consulted :=
  .ask (.assess_consultation consultation) .ret

abbrev request (requester : R) (request : AuthorizationRequest) :
    Work P R (Option HumanDecision) := .ask (.request requester request) .ret

abbrev validate_token (token : ApprovalToken) (action_hash : ActionHash) (actor : String)
    (now : Time) : Work P R (Bool × String) :=
  .ask (.validate_token token action_hash actor now) .ret

abbrev execute (action : CanonicalAction) (context : ToolCallContext) (token : ApprovalToken)
    (action_hash : ActionHash) (idempotency_key : UUID) : Work P R OperationLedgerResult :=
  .ask (.execute action context token action_hash idempotency_key) .ret

abbrev verify (incident : IncidentIdentity) (operation : OperationLedgerResult) :
    Work P R VerificationResult := .ask (.verify incident operation) .ret

abbrev emit (event : ControlAuditEvent) : Work P R Unit := .ask (.emit event) .ret

abbrev clock : Work P R Time := .ask .clock .ret

end Ask

/-! ### The nodes -/

def ACTION_TAKING_SCENARIOS : List String :=
  ["D1", "D2", "D3", "D5", "D8", "R01", "R02", "R03", "R04", "R06", "R07", "R08", "R09", "R12",
   "T1", "T2", "T4", "T7", "T8"]

section
variable {P R α : Type}

/-- `state[key]` -/
def need : Option α → Work P R α
  | some a => .ret a
  | none => .raise .KeyError

def refuse (condition : Bool) (e : Raised) : Work P R Unit :=
  if condition then .raise e else .ret ()

/-- `_scenario_span`, whose name is the telemetry's. -/
def scenario_span (s : WorkflowState) : Work P R Unit :=
  refuse (!ACTION_TAKING_SCENARIOS.contains s.incident.scenario_id)
    (.ValueError "unsupported checkpoint scenario")

def emit (transition incident_id thread_id : String) (action_hash : Option ActionHash)
    (reason : String) : Work P R Unit := do
  let now ← Ask.clock
  Ask.emit ⟨transition, incident_id, thread_id, action_hash, some reason, now⟩

def audit (s : WorkflowState) (transition reason : String) : Work P R Unit :=
  emit transition s.incident.incident_id s.incident.thread_id (s.policy.map (·.action_hash)) reason

/-- `";".join(reasons)` -/
def joined (reasons : List String) : String := String.intercalate ";" reasons

def report (s : WorkflowState) (final_state : IncidentState) : Work P R IncidentReport := do
  let action ← need s.action
  let hypothesis ← need s.hypothesis
  let policy ← need s.policy
  return ⟨s.incident, hypothesis.statement, [hypothesis], action.evidence_ids,
    some policy.action_hash, some policy, s.monitor, s.verification, final_state⟩

/-- The result of a run that is stopped once the policy has decided. -/
def stopped (s : WorkflowState) (reasons : List String) (h : reasons ≠ [])
    (monitor : Option MonitorResult) (approval : Option HumanDecision) :
    Work P R WorkflowResult := do
  let policy ← need s.policy
  let action ← need s.action
  let hypothesis ← need s.hypothesis
  let key ← need s.idempotency_key
  let report ← report s .BLOCKED
  return {
    final_state := "blocked"
    reasons := reasons
    action_hash := some policy.action_hash
    evidence_ids := action.evidence_ids
    policy := some policy
    monitor := monitor
    operation := none
    verification := none
    hypothesis := some hypothesis
    idempotency_key := some key
    approval := approval
    report := some report
    reasons_ok := h }

/-- A result of a run that has no policy yet. -/
def early (reasons : List String) (h : reasons ≠ []) (evidence_ids : List String)
    (hypothesis : Option Hypothesis) (report : Option IncidentReport) : WorkflowResult :=
  ⟨"blocked", reasons, none, evidence_ids, none, none, none, none, hypothesis, none, none, report,
    h⟩

def mismatched (reason : String) : WorkflowResult := early [reason] (by simp) [] none none

def ingest (s : WorkflowState) : Work P R WorkflowState :=
  if s.incident.thread_id ≠ s.context.thread_id then
    .ret { s with result := some (mismatched THREAD_CONTEXT_MISMATCH) }
  else if s.incident.incident_id ≠ s.context.incident_id then
    .ret { s with result := some (mismatched INCIDENT_CONTEXT_MISMATCH) }
  else if s.caller.actor ≠ s.context.actor then
    .ret { s with result := some (mismatched CALLER_ACTOR_MISMATCH) }
  else .ret s

def collect (s : WorkflowState) : Work P R WorkflowState := do
  let records ← Ask.collect s.incident
  return { s with records := some records }

def propose_with (proposer : P) (s : WorkflowState) : Work P R WorkflowState := do
  let records ← need s.records
  match ← Ask.propose proposer s.incident s.caller s.context records with
  | .error reason => do
    audit s "proposal" reason
    return { s with result := some (mismatched reason) }
  | .ok (hypothesis, action) =>
    return { s with hypothesis := some hypothesis, action := some action }

def observed_only (evidence : EvidenceValidation) : EvidenceValidation :=
  ⟨.VALID, [ShownFacts.EVIDENCE_VALID], evidence.evidence_ids, evidence.digest, by simp⟩

variable (D : WorkflowDependencies P R)

/-- What the policy is handed of the evidence. -/
def judged (evidence : EvidenceValidation) : EvidenceValidation :=
  if D.safeguards.enforces_evidence then evidence else observed_only evidence

/-- What the node finds: a refusal that ends the run, or what the policy decides. -/
inductive Validated where
  | refused (evidence : EvidenceValidation) (result : WorkflowResult)
  | judged (evidence : EvidenceValidation) (policy : PolicyOutcome)

def Validated.update (s : WorkflowState) : Validated → WorkflowState
  | refused evidence result => { s with evidence := some evidence, result := some result }
  | judged evidence policy =>
    { s with
      evidence := some evidence
      policy := some policy
      idempotency_key :=
        some (Identities.idempotency_key policy.action_hash s.incident.thread_id) }

def evidence_refusal (s : WorkflowState) (action : CanonicalAction) (hypothesis : Hypothesis)
    (evidence : EvidenceValidation) : WorkflowResult :=
  early evidence.reasons evidence.reasons_ok action.evidence_ids (some hypothesis)
    (some ⟨s.incident, hypothesis.statement, [hypothesis], action.evidence_ids, none, none, none,
      none, .BLOCKED⟩)

/-- What `validate` adds to the state. The clock of the validator is read by its verdict where the
policy has a rule. -/
def validate_output (s : WorkflowState) : Work P R Validated := do
  let action ← need s.action
  let records ← need s.records
  let now ← Ask.validator_clock
  let evidence := D.evidence_validator.validate now action records (some s.context)
  if evidence.state = .INVALID ∧ D.safeguards.enforces_evidence then do
    audit s "evidence" (joined evidence.reasons)
    let hypothesis ← need s.hypothesis
    return .refused evidence (evidence_refusal s action hypothesis evidence)
  else do
    scenario_span s
    match evaluate D.regex D.policy action s.caller.role (judged D evidence) with
    | none => .raise .PatternError
    | some policy => return .judged evidence policy

def validate (s : WorkflowState) : Work P R WorkflowState := do
  return (← validate_output D s).update s

/-- `_semantic_observation`, of a monitor that exposes one. -/
def semantic_observation (answer : Consulted) (s : WorkflowState) : Work P R WorkflowState :=
  match answer.observation with
  | none => .ret s
  | some (input_hash, invocation) => do
    refuse (input_hash.any (!isActionHash ·))
      (.TypeError "semantic monitor exposed an invalid input hash")
    return { s with monitor_input_hash := input_hash, monitor_invocation := invocation }

/-- What the node writes of a consultation that was answered. -/
def consulted (thresholds : MonitorThresholds) (answer : Consulted) (action : CanonicalAction)
    (s : WorkflowState) : Work P R WorkflowState :=
  match answer.outcome.assessed, answer.outcome.error_kind, answer.outcome.assessment with
  | false, some kind, _ => semantic_observation answer { s with monitor_error := some kind.value }
  | true, _, some assessment =>
    match assessment.bind_result action thresholds with
    | .error _ => semantic_observation answer { s with monitor_error := some "echo_mismatch" }
    | .ok result => semantic_observation answer { s with monitor := some result }
  | _, _, _ => .raise .AssertionError

def monitor (s : WorkflowState) : Work P R WorkflowState := do
  if s.result.isSome then return s
  else do
    let evidence ← need s.evidence
    let policy ← need s.policy
    if !D.safeguards.consults_monitor then return s
    else if policy.decision = .DENY ∧ D.safeguards.enforces_policy then return s
    else do
      scenario_span s
      let action ← need s.action
      match D.monitor with
      | .v1 => do
        let result ← Ask.assess action evidence.digest
        return { s with monitor := some result }
      | .v2 thresholds => do
        let records ← need s.records
        match ← Ask.build_consultation ⟨s.incident, action, records, evidence, policy,
            D.safeguards.toSafeguardConfiguration⟩ with
        | none => return { s with monitor_error := some "input_unrenderable" }
        | some consultation => do
          let answer ← Ask.assess_consultation consultation
          consulted thresholds answer action s

inductive Route where
  | finish
  | deny
  | monitor_mismatch
  | monitor_error
  | block
  | approve
  deriving DecidableEq

def after_monitor (s : WorkflowState) : Work P R Route :=
  if s.result.isSome then .ret .finish
  else do
    let policy ← need s.policy
    return if policy.decision = .DENY ∧ D.safeguards.enforces_policy then .deny
      else if s.monitor.any (·.evaluated_action_hash ≠ policy.action_hash) then .monitor_mismatch
      else if s.monitor_error.any (· ≠ "") ∧ D.safeguards.enforces_monitor then .monitor_error
      else if s.monitor.any (·.verdict = .BLOCK) ∧ D.safeguards.enforces_monitor then .block
      else .approve

def deny (s : WorkflowState) : Work P R WorkflowState := do
  let policy ← need s.policy
  audit s "policy" (joined policy.reasons)
  let result ← stopped s policy.reasons policy.reasons_ok none none
  return { s with result := some result }

def blocked (s : WorkflowState) : Work P R WorkflowState := do
  let monitor ← need s.monitor
  audit s "policy" POLICY_VALID
  audit s "monitor" MONITOR_BLOCK
  let result ← stopped s [MONITOR_BLOCK] (by simp) (some monitor) none
  return { s with result := some result }

def monitor_mismatch (s : WorkflowState) : Work P R WorkflowState := do
  audit s "policy" POLICY_VALID
  audit s "monitor" MONITOR_ACTION_HASH_MISMATCH
  let result ← stopped s [MONITOR_ACTION_HASH_MISMATCH] (by simp) s.monitor none
  return { s with result := some result }

def monitor_error_terminal (s : WorkflowState) : Work P R WorkflowState := do
  audit s "policy" POLICY_VALID
  let error ← need s.monitor_error
  audit s "monitor" (monitor_error error)
  let result ← stopped s [MONITOR_ERROR] (by simp) none none
  return { s with result := some result }

def preapproval_audit (s : WorkflowState) : Work P R WorkflowState := do
  audit s "policy" POLICY_VALID
  match s.monitor, s.monitor_error.filter (· ≠ "") with
  | some monitor, _ => audit s "monitor" (monitor_verdict monitor.verdict)
  | none, some error => audit s "monitor" (monitor_error error)
  | none, none => .ret ()
  return s

def deferred (s : WorkflowState) : Bool := s.monitor.any (·.verdict = .DEFER)

/-- A decision that does not let the action through. -/
def declined (s : WorkflowState) (human : HumanDecision) (reason audited : String) :
    Work P R WorkflowState := do
  audit s "approval" audited
  let result ← stopped s [reason] (by simp) s.monitor (some human)
  return { s with human := some human, result := some result }

/-- What the node makes of a decision that validated. -/
def decided (s : WorkflowState) (policy : PolicyOutcome) (action : CanonicalAction)
    (human : HumanDecision) : Work P R WorkflowState :=
  if human.decision = .reject then declined s human HUMAN_REJECTED AUDIT_REJECTED
  else if deferred s ∧ blank human.reason then
    declined s human DEFER_REASON_REQUIRED DEFER_REASON_REQUIRED
  else
    match human.token with
    | none => declined s human APPROVAL_TOKEN_REQUIRED AUDIT_TOKEN_REQUIRED
    | some token =>
      if human.approver ≠ token.approver then
        declined s human (approval_invalid TOKEN_APPROVER_MISMATCH)
          (approval_invalid TOKEN_APPROVER_MISMATCH)
      else do
        let now ← Ask.clock
        let verdict ← Ask.validate_token token policy.action_hash action.actor now
        if verdict.1 then do
          audit s "approval" AUDIT_APPROVED
          return { s with human := some human }
        else declined s human (approval_invalid verdict.2) (approval_invalid verdict.2)

/-- What an authorizer is asked about an action. -/
def authorization_request (s : WorkflowState) (policy : PolicyOutcome) (action : CanonicalAction) :
    AuthorizationRequest :=
  ⟨policy.action_hash, s.incident.incident_id, s.incident.thread_id, action.actor,
    s.monitor.map (·.verdict), deferred s⟩

def approval_with (requester : R) (s : WorkflowState) : Work P R WorkflowState := do
  scenario_span s
  let policy ← need s.policy
  let action ← need s.action
  match ← Ask.request requester (authorization_request s policy action) with
  | none => .raise .ValidationError
  | some human => decided s policy action human

def execute_call (s : WorkflowState) : Work P R OperationLedgerResult := do
  let action ← need s.action
  let policy ← need s.policy
  let human ← need s.human
  let key ← need s.idempotency_key
  match human.token with
  | none => .raise .AssertionError
  | some token =>
    Ask.execute action { s.context with idempotency_key := some key } token policy.action_hash key

/-- The record of the call in `execute_with`, after whatever follows a delivery. -/
def execute_record (s : WorkflowState) (operation : OperationLedgerResult) :
    Work P R WorkflowState := do
  let action ← need s.action
  let policy ← need s.policy
  emit "execution" action.incident_id action.thread_id (some policy.action_hash) AUDIT_EXECUTED
  return { s with operation := some operation }

def execute (s : WorkflowState) : Work P R WorkflowState := do
  let operation ← execute_call s
  execute_record s operation

/-- The result of a run whose recovery was verified. -/
def verified (s : WorkflowState) (verification : VerificationResult) (action : CanonicalAction)
    (policy : PolicyOutcome) (operation : OperationLedgerResult) (hypothesis : Hypothesis)
    (key : UUID) (human : HumanDecision) (report : IncidentReport) : WorkflowResult where
  final_state := if verification.passed then "resolved" else "blocked"
  reasons := [if verification.passed then RECOVERY_VERIFIED else RECOVERY_FAILED]
  action_hash := some policy.action_hash
  evidence_ids := action.evidence_ids
  policy := some policy
  monitor := s.monitor
  operation := some operation
  verification := some verification
  hypothesis := some hypothesis
  idempotency_key := some key
  approval := some human
  report := some report
  reasons_ok := by simp

def verify (s : WorkflowState) : Work P R WorkflowState := do
  let action ← need s.action
  let policy ← need s.policy
  scenario_span s
  let operation ← need s.operation
  let verification ← Ask.verify s.incident operation
  emit "verification" action.incident_id action.thread_id (some policy.action_hash)
    (if verification.passed then AUDIT_PASSED else AUDIT_FAILED)
  let hypothesis ← need s.hypothesis
  let key ← need s.idempotency_key
  let human ← need s.human
  let report ← report { s with verification := some verification }
    (if verification.passed then .RESOLVED else .BLOCKED)
  return { s with
    verification := some verification
    result := some (verified s verification action policy operation hypothesis key human report) }

/-! ### The graph of one action -/

inductive Node where
  | ingest
  | collect
  | propose
  | validate
  | monitor
  | deny
  | blocked
  | monitor_mismatch
  | monitor_error
  | preapproval_audit
  | approval
  | execute
  | verify
  deriving DecidableEq

/-- Where `after_monitor` leads. -/
def Route.target : Route → Option Node
  | finish => none
  | deny => some .deny
  | monitor_mismatch => some .monitor_mismatch
  | monitor_error => some .monitor_error
  | block => some .blocked
  | approve => some .preapproval_audit

def unless_result (n : Node) (s : WorkflowState) : Option Node × WorkflowState :=
  (if s.result.isSome then none else some n, s)

/-- A node with the edges that leave it. -/
def visit : Node → WorkflowState → Work P R (Option Node × WorkflowState)
  | .ingest, s => do return unless_result .collect (← ingest s)
  | .collect, s => do return (some .propose, ← collect s)
  | .propose, s => do return unless_result .validate (← propose_with D.proposer s)
  | .validate, s => do return (some .monitor, ← validate D s)
  | .monitor, s => do
    let s ← monitor D s
    let route ← after_monitor D s
    return (route.target, s)
  | .deny, s => do return (none, ← deny s)
  | .blocked, s => do return (none, ← blocked s)
  | .monitor_mismatch, s => do return (none, ← monitor_mismatch s)
  | .monitor_error, s => do return (none, ← monitor_error_terminal s)
  | .preapproval_audit, s => do return (some .approval, ← preapproval_audit s)
  | .approval, s => do return unless_result .execute (← approval_with D.authorization s)
  | .execute, s => do return (some .verify, ← execute s)
  | .verify, s => do return (none, ← verify s)

/-- `build_workflow_graph` -/
def workflow : Graph Node WorkflowState (Question.Answer (P := P) (R := R)) Raised where
  start := .ingest
  visit := visit D

end

end IncidentGate.Workflow
