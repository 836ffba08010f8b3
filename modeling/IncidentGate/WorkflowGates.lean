import IncidentGate.Workflow

/-!
What the gates of the workflow let through, in every run: however often a visit is lost and made
again, and whatever the dependencies answer.
-/

namespace IncidentGate.WorkflowGates

open Lib.ScriptTree Lib.Checkpoint Contracts Policy SabotageRows Workflow
open MonitorInputs (MonitorConsultation)
open MonitorCaller (MonitorResult)
open Invocations (ModelInvocationRecord)
open RecoveryVerifier (VerificationResult)

variable {P R : Type}

/-- What was asked and answered. -/
abbrev History (P R : Type) := List (Exchange (Question.Answer (P := P) (R := R)))

def Answered (h : History P R) (q : Question P R) (a : q.Answer) : Prop :=
  (⟨q, a⟩ : Exchange Question.Answer) ∈ h

lemma Answered.mono {h h' : History P R} {q : Question P R} {a : q.Answer} (hq : Answered h q a)
    (hsub : h ⊆ h') : Answered h' q a := hsub hq

/-! ### What the nodes ask and return -/

section
variable {α : Type} {K : Question P R → Prop} {h : History P R} {C : History P R → α → Prop}

@[simp] lemma ensures_need {o : Option α} :
    Ensures K C h (need (P := P) (R := R) o) ↔ ∀ a, o = some a → C h a := by
  cases o <;> simp [need]

@[simp] lemma ensures_refuse {condition : Bool} {e : Raised} {C : History P R → Unit → Prop} :
    Ensures K C h (refuse (P := P) (R := R) condition e) ↔ (condition = false → C h ()) := by
  cases condition <;> simp [refuse]

def audited (h : History P R) (event : ControlAuditEvent) : History P R :=
  h ++ [⟨.clock, event.at⟩, ⟨.emit event, ()⟩]

@[simp] lemma ensures_emit {transition incident_id thread_id reason : String}
    {action_hash : Option ActionHash} {C : History P R → Unit → Prop} :
    Ensures K C h (emit (P := P) (R := R) transition incident_id thread_id action_hash reason) ↔
      K .clock ∧ ∀ now,
        K (.emit ⟨transition, incident_id, thread_id, action_hash, some reason, now⟩) ∧
        C (audited h ⟨transition, incident_id, thread_id, action_hash, some reason, now⟩) () := by
  simp only [emit, Ask.clock, Ask.emit, Script.bind_eq, Script.bind_ask, Script.bind_ret,
    ensures_ask, ensures_ret, audited, List.append_assoc, List.cons_append, List.nil_append]
  exact and_congr_right' (forall_congr' fun now => and_congr_right' ⟨fun hC => hC (),
    fun hC _ => hC⟩)

def event (s : WorkflowState) (transition reason : String) (now : Time) : ControlAuditEvent :=
  ⟨transition, s.incident.incident_id, s.incident.thread_id, s.policy.map (·.action_hash),
    some reason, now⟩

@[simp] lemma ensures_audit {s : WorkflowState} {transition reason : String}
    {C : History P R → Unit → Prop} :
    Ensures K C h (audit (P := P) (R := R) s transition reason) ↔
      K .clock ∧ ∀ now, K (.emit (event s transition reason now)) ∧
        C (audited h (event s transition reason now)) () := ensures_emit

@[simp] lemma ensures_scenario_span {s : WorkflowState} {C : History P R → Unit → Prop} :
    Ensures K C h (scenario_span (P := P) (R := R) s) ↔
      (s.incident.scenario_id ∈ ACTION_TAKING_SCENARIOS → C h ()) := by
  simp [scenario_span]

end

lemma subset_audited (h : History P R) (e : ControlAuditEvent) : h ⊆ audited h e :=
  List.subset_append_left ..

/-! ### The graph of one action, under any key -/

/-- Who keys an attempt: the incident and the hash of its action say how. -/
abbrev Keying := IncidentIdentity → ActionHash → UUID

/-- The keys of the graph of one action. -/
def own_key : Keying := fun incident action_hash =>
  Identities.idempotency_key action_hash incident.thread_id

/-- The state with what `validate` found, the attempt keyed as `key` says. -/
def keyed (key : Keying) (s : WorkflowState) : Validated → WorkflowState
  | .refused evidence result => { s with evidence := some evidence, result := some result }
  | .judged evidence policy =>
    { s with
      evidence := some evidence
      policy := some policy
      idempotency_key := some (key s.incident policy.action_hash) }

variable (D : WorkflowDependencies P R) (key : Keying)

def visit_keyed : Node → WorkflowState → Work P R (Option Node × WorkflowState)
  | .validate, s => do return (some .monitor, keyed key s (← validate_output D s))
  | n, s => visit D n s

/-- The pipeline from a node on. -/
def one_action (start : Node) : Graph Node WorkflowState (Question.Answer (P := P) (R := R)) Raised
    where
  start := start
  visit := visit_keyed D key

lemma workflow_eq : workflow D = one_action D own_key .ingest := by
  have hvisit : visit D = visit_keyed D own_key := by
    funext n s
    cases n with
    | validate =>
      have hupdate : Validated.update s = keyed own_key s := by
        funext v
        cases v <;> rfl
      simp [visit, visit_keyed, validate, hupdate, bind_bind]
    | _ => rfl
  simp only [workflow, one_action, hvisit]

/-! ### What a run has established -/

/-- What a run is started with. -/
structure Root where
  incident : IncidentIdentity
  context : ToolCallContext
  caller : Workflow.Caller

def Root.state (r : Root) : WorkflowState := fresh r.incident r.context r.caller

/-- The context is one of the incident and of the caller. -/
structure Root.Bound (r : Root) : Prop where
  thread_id : r.incident.thread_id = r.context.thread_id
  incident_id : r.incident.incident_id = r.context.incident_id
  actor : r.caller.actor = r.context.actor

structure Proposal where
  records : List EvidenceRecord
  hypothesis : Hypothesis
  action : CanonicalAction

structure Judgement extends Proposal where
  validated_at : Time
  policy : PolicyOutcome

/-- What the monitor's node leaves. -/
structure Observation where
  monitor : Option MonitorResult
  monitor_error : Option String
  monitor_input_hash : Option String
  monitor_invocation : Option ModelInvocationRecord

structure Hearing extends Judgement where
  observation : Observation

structure Clearance extends Hearing where
  human : HumanDecision
  token : ApprovalToken
  decided_at : Time

variable (r : Root)

def Proposal.state (p : Proposal) : WorkflowState :=
  { r.state with
    records := some p.records, hypothesis := some p.hypothesis, action := some p.action }

section
variable (j : Judgement)

def Judgement.evidence : EvidenceValidation :=
  D.evidence_validator.validate j.validated_at j.action j.records (some r.context)

def Judgement.attempt : UUID := key r.incident j.policy.action_hash

def Judgement.state : WorkflowState :=
  { j.toProposal.state r with
    evidence := some (j.evidence D r)
    policy := some j.policy
    idempotency_key := some (j.attempt key r) }

/-- The policy stops the run. -/
def Judgement.Denied : Prop := j.policy.decision = .DENY ∧ D.safeguards.enforces_policy = true

/-- What the monitor is consulted on. -/
def Judgement.facts : MonitorConsultation :=
  ⟨r.incident, j.action, j.records, j.evidence D r, j.policy,
    D.safeguards.toSafeguardConfiguration⟩

end

def Hearing.state (e : Hearing) : WorkflowState :=
  { e.toJudgement.state D key r with
    monitor := e.observation.monitor
    monitor_error := e.observation.monitor_error
    monitor_input_hash := e.observation.monitor_input_hash
    monitor_invocation := e.observation.monitor_invocation }

def Clearance.state (c : Clearance) : WorkflowState :=
  { c.toHearing.state D key r with human := some c.human }

def Clearance.call (c : Clearance) : Question P R :=
  .execute c.action { r.context with idempotency_key := some (c.attempt key r) } c.token
    c.policy.action_hash (c.attempt key r)

variable (h : History P R)

structure Proposal.Made (p : Proposal) : Prop where
  collected : Answered h (.collect r.incident) p.records
  proposed : Answered h (.propose D.proposer r.incident r.caller r.context p.records)
    (.ok (p.hypothesis, p.action))

/-- The evidence and the policy let the action on, or only observe. -/
structure Judgement.Made (j : Judgement) : Prop where
  made : j.toProposal.Made D r h
  validated : Answered h .validator_clock j.validated_at
  evidence_gate : D.safeguards.enforces_evidence = true → (j.evidence D r).state = .VALID
  decided : evaluate D.regex D.policy j.action r.caller.role (judged D (j.evidence D r)) =
    some j.policy
  scenario : r.incident.scenario_id ∈ ACTION_TAKING_SCENARIOS

/-- What a consultation that was answered leaves: a verdict or a typed error, and what the monitor
exposes. -/
structure Leaves (thresholds : MonitorCaller.MonitorThresholds) (action : CanonicalAction)
    (answer : Consulted) (o : Observation) : Prop where
  verdict : (∃ a m, answer.outcome.assessment = some a ∧ a.bind_result action thresholds = .ok m ∧
      o.monitor = some m ∧ o.monitor_error = none) ∨
    (o.monitor = none ∧ ∃ kind : MonitorErrorKind, o.monitor_error = some kind.value)
  input_hash : o.monitor_input_hash = answer.observation.bind (·.1)
  invocation : o.monitor_invocation = answer.observation.bind (·.2)
  input_hash_ok : o.monitor_input_hash.all isActionHash = true

/-- How the monitor was heard on an action that the policy let on. -/
inductive Judgement.Heard (j : Judgement) : Observation → Prop
  | unconsulted (hquiet : D.safeguards.consults_monitor = false ∨ j.Denied D) :
      Heard j ⟨none, none, none, none⟩
  | v1 {m : MonitorResult} (hconsults : D.safeguards.consults_monitor = true ∧ ¬j.Denied D)
      (hmonitor : D.monitor = .v1)
      (hasked : Answered h (.assess j.action (j.evidence D r).digest) m) :
      Heard j ⟨some m, none, none, none⟩
  | unrenderable {thresholds : MonitorCaller.MonitorThresholds}
      (hconsults : D.safeguards.consults_monitor = true ∧ ¬j.Denied D)
      (hmonitor : D.monitor = .v2 thresholds)
      (hbuilt : Answered h (.build_consultation (j.facts D r)) none) :
      Heard j ⟨none, some MonitorErrorKind.INPUT_UNRENDERABLE.value, none, none⟩
  | v2 {thresholds : MonitorCaller.MonitorThresholds} {consultation : MonitorConsultation}
      {answer : Consulted} {o : Observation}
      (hconsults : D.safeguards.consults_monitor = true ∧ ¬j.Denied D)
      (hmonitor : D.monitor = .v2 thresholds)
      (hbuilt : Answered h (.build_consultation (j.facts D r)) (some consultation))
      (hasked : Answered h (.assess_consultation consultation) answer)
      (hleaves : Leaves thresholds j.action answer o) : Heard j o

structure Hearing.Made (e : Hearing) : Prop where
  made : e.toJudgement.Made D r h
  heard : e.toJudgement.Heard D r h e.observation

/-- No gate that enforces stops the action, and no monitor speaks of another. -/
structure Hearing.Clear (e : Hearing) : Prop where
  policy_gate : ¬e.Denied D
  action_hash : ∀ m ∈ e.observation.monitor, m.evaluated_action_hash = e.policy.action_hash
  monitor_error : D.safeguards.enforces_monitor = true → e.observation.monitor_error = none
  monitor_gate : D.safeguards.enforces_monitor = true →
    ∀ m ∈ e.observation.monitor, m.verdict ≠ .BLOCK

/-- What the audit holds of an action before an authorizer sees it. -/
structure Hearing.Audited (e : Hearing) : Prop where
  policy : ∃ now, Answered h
    (.emit (event (e.state D key r) "policy" POLICY_VALID now)) ()
  verdict : ∀ m ∈ e.observation.monitor, ∃ now, Answered h
    (.emit (event (e.state D key r) "monitor" (monitor_verdict m.verdict) now)) ()
  error : e.observation.monitor = none → ∀ kind ∈ e.observation.monitor_error, ∃ now, Answered h
    (.emit (event (e.state D key r) "monitor" (monitor_error kind) now)) ()

/-- The authorization of an action: asked of this action, decided for it by the approver that the
token names, and found valid for its hash and its actor. -/
structure Clearance.Granted (c : Clearance) : Prop where
  requested : Answered h (.request D.authorization
    (authorization_request (c.toHearing.state D key r) c.policy c.action)) (some c.human)
  approved : c.human.decision = .approve
  reason : (∃ m ∈ c.observation.monitor, m.verdict = .DEFER) → blank c.human.reason = false
  token : c.human.token = some c.token
  approver : c.human.approver = c.token.approver
  dated : Answered h .clock c.decided_at
  validated : ∃ reason, Answered h
    (.validate_token c.token c.policy.action_hash c.action.actor c.decided_at) (true, reason)
  audited : ∃ now, Answered h
    (.emit (event (c.toHearing.state D key r) "approval" AUDIT_APPROVED now)) ()

/-- An action that every gate let through. -/
structure Clearance.Made (c : Clearance) : Prop where
  made : c.toHearing.Made D r h
  clear : c.toHearing.Clear D
  audited : c.toHearing.Audited D key r h
  granted : c.Granted D key r h

/-! ### Where a run is -/

/-- The result of a run that is stopped once its monitor was heard. -/
def Hearing.stop (e : Hearing) (reasons : List String) (hreasons : reasons ≠ [])
    (monitor : Option MonitorResult) (approval : Option HumanDecision) : WorkflowResult where
  final_state := "blocked"
  reasons := reasons
  action_hash := some e.policy.action_hash
  evidence_ids := e.action.evidence_ids
  policy := some e.policy
  monitor := monitor
  operation := none
  verification := none
  hypothesis := some e.hypothesis
  idempotency_key := some (e.attempt key r)
  approval := approval
  report := some ⟨r.incident, e.hypothesis.statement, [e.hypothesis], e.action.evidence_ids,
    some e.policy.action_hash, some e.policy, e.observation.monitor, none, .BLOCKED⟩
  reasons_ok := hreasons

/-- The result of a run whose action was executed. -/
def Clearance.result (c : Clearance) (operation : OperationLedgerResult)
    (verification : VerificationResult) : WorkflowResult :=
  verified (c.state D key r) verification c.action c.policy operation c.hypothesis
    (c.attempt key r) c.human
    ⟨r.incident, c.hypothesis.statement, [c.hypothesis], c.action.evidence_ids,
      some c.policy.action_hash, some c.policy, c.observation.monitor, some verification,
      if verification.passed then .RESOLVED else .BLOCKED⟩

inductive Ended : WorkflowState → Prop
  | mismatched {reason : String} (hbound : ¬r.Bound) :
      Ended { r.state with result := some (mismatched reason) }
  | unproposed {records : List EvidenceRecord} {reason : String}
      (hcollected : Answered h (.collect r.incident) records)
      (hproposed : Answered h (.propose D.proposer r.incident r.caller r.context records)
        (.error reason)) :
      Ended { r.state with records := some records, result := some (Workflow.mismatched reason) }
  | unevidenced {p : Proposal} {evidence : EvidenceValidation} (hp : p.Made D r h)
      (hinvalid : evidence.state = .INVALID ∧ D.safeguards.enforces_evidence = true) :
      Ended { p.state r with
        evidence := some evidence
        result := some (evidence_refusal (p.state r) p.action p.hypothesis evidence) }
  | denied {e : Hearing} (he : e.Made D r h) (hdenied : e.Denied D) :
      Ended { e.state D key r with
        result := some (e.stop key r e.policy.reasons e.policy.reasons_ok none none) }
  | stopped {e : Hearing} {reason : String} {monitor : Option MonitorResult} (he : e.Made D r h)
      (hstopped : ¬e.Clear D) (hmonitor : monitor = e.observation.monitor) :
      Ended { e.state D key r with
        result := some (e.stop key r [reason] (by simp) monitor none) }
  | declined {e : Hearing} {reason : String} {human : HumanDecision} (he : e.Made D r h)
      (hclear : e.Clear D)
      (hasked : Answered h (.request D.authorization
        (authorization_request (e.state D key r) e.policy e.action)) (some human)) :
      Ended { e.state D key r with
        human := some human
        result := some (e.stop key r [reason] (by simp) e.observation.monitor (some human)) }
  | verified {c : Clearance} {operation : OperationLedgerResult}
      {verification : VerificationResult} (hc : c.Made D key r h)
      (hexecuted : Answered h (c.call key r) operation)
      (hverified : Answered h (.verify r.incident operation) verification) :
      Ended { c.state D key r with
        operation := some operation
        verification := some verification
        result := some (c.result D key r operation verification) }

/-- Where a run can be, and what it has established there. -/
inductive At : Option Node → WorkflowState → Prop
  | ingest : At (some .ingest) r.state
  | collect : At (some .collect) r.state
  | propose {records : List EvidenceRecord}
    (hcollected : Answered h (.collect r.incident) records) :
      At (some .propose) { r.state with records := some records }
  | validate {p : Proposal} (hp : p.Made D r h) : At (some .validate) (p.state r)
  | unevidenced {p : Proposal} {evidence : EvidenceValidation} (hp : p.Made D r h)
      (hinvalid : evidence.state = .INVALID ∧ D.safeguards.enforces_evidence = true) :
      At (some .monitor) { p.state r with
        evidence := some evidence
        result := some (evidence_refusal (p.state r) p.action p.hypothesis evidence) }
  | monitor {j : Judgement} (hj : j.Made D r h) : At (some .monitor) (j.state D key r)
  | deny {e : Hearing} (he : e.Made D r h) (hdenied : e.Denied D) :
      At (some .deny) (e.state D key r)
  | stopped {e : Hearing} {n : Node} (he : e.Made D r h) (hstopped : ¬e.Clear D)
      (hn : n = .blocked ∨ n = .monitor_mismatch ∨ n = .monitor_error) :
      At (some n) (e.state D key r)
  | preapproval_audit {e : Hearing} (he : e.Made D r h) (hclear : e.Clear D) :
      At (some .preapproval_audit) (e.state D key r)
  | approval {e : Hearing} (he : e.Made D r h) (hclear : e.Clear D)
      (haudited : e.Audited D key r h) : At (some .approval) (e.state D key r)
  | execute {c : Clearance} (hc : c.Made D key r h) : At (some .execute) (c.state D key r)
  | verify {c : Clearance} {operation : OperationLedgerResult} (hc : c.Made D key r h)
      (hexecuted : Answered h (c.call key r) operation) :
      At (some .verify) { c.state D key r with operation := some operation }
  | ended {s : WorkflowState} (hs : Ended D key r h s) : At none s

/-! ### What was established stays established -/

section
variable {D key r h} {h' : History P R}

lemma Proposal.Made.mono {p : Proposal} (hp : p.Made D r h) (hsub : h ⊆ h') : p.Made D r h' :=
  ⟨hp.collected.mono hsub, hp.proposed.mono hsub⟩

lemma Judgement.Made.mono {j : Judgement} (hj : j.Made D r h) (hsub : h ⊆ h') : j.Made D r h' :=
  ⟨hj.made.mono hsub, hj.validated.mono hsub, hj.evidence_gate, hj.decided, hj.scenario⟩

lemma Judgement.Heard.mono {j : Judgement} {o : Observation} (ho : j.Heard D r h o)
    (hsub : h ⊆ h') : j.Heard D r h' o := by
  cases ho with
  | unconsulted hquiet => exact .unconsulted hquiet
  | v1 hconsults hmonitor hasked => exact .v1 hconsults hmonitor (hasked.mono hsub)
  | unrenderable hconsults hmonitor hbuilt =>
    exact .unrenderable hconsults hmonitor (hbuilt.mono hsub)
  | v2 hconsults hmonitor hbuilt hasked hleaves =>
    exact .v2 hconsults hmonitor (hbuilt.mono hsub) (hasked.mono hsub) hleaves

lemma Hearing.Made.mono {e : Hearing} (he : e.Made D r h) (hsub : h ⊆ h') : e.Made D r h' :=
  ⟨he.made.mono hsub, he.heard.mono hsub⟩

lemma Hearing.Audited.mono {e : Hearing} (he : e.Audited D key r h) (hsub : h ⊆ h') :
    e.Audited D key r h' where
  policy := he.policy.imp fun _ hnow => hnow.mono hsub
  verdict m hm := (he.verdict m hm).imp fun _ hnow => hnow.mono hsub
  error hnone kind hkind := (he.error hnone kind hkind).imp fun _ hnow => hnow.mono hsub

lemma Clearance.Granted.mono {c : Clearance} (hc : c.Granted D key r h) (hsub : h ⊆ h') :
    c.Granted D key r h' :=
  ⟨hc.requested.mono hsub, hc.approved, hc.reason, hc.token, hc.approver, hc.dated.mono hsub,
    hc.validated.imp fun _ hvalid => hvalid.mono hsub,
    hc.audited.imp fun _ hnow => hnow.mono hsub⟩

lemma Clearance.Made.mono {c : Clearance} (hc : c.Made D key r h) (hsub : h ⊆ h') :
    c.Made D key r h' :=
  ⟨hc.made.mono hsub, hc.clear, hc.audited.mono hsub, hc.granted.mono hsub⟩

lemma Ended.mono {s : WorkflowState} (hs : Ended D key r h s) (hsub : h ⊆ h') :
    Ended D key r h' s := by
  cases hs with
  | mismatched hbound => exact .mismatched hbound
  | unproposed hcollected hproposed =>
    exact .unproposed (hcollected.mono hsub) (hproposed.mono hsub)
  | unevidenced hp hinvalid => exact .unevidenced (hp.mono hsub) hinvalid
  | denied he hdenied => exact .denied (he.mono hsub) hdenied
  | stopped he hstopped hmonitor => exact .stopped (he.mono hsub) hstopped hmonitor
  | declined he hclear hasked => exact .declined (he.mono hsub) hclear (hasked.mono hsub)
  | verified hc hexecuted hverified =>
    exact .verified (hc.mono hsub) (hexecuted.mono hsub) (hverified.mono hsub)

lemma At.mono {n : Option Node} {s : WorkflowState} (hs : At D key r h n s) (hsub : h ⊆ h') :
    At D key r h' n s := by
  cases hs with
  | ingest => exact .ingest
  | collect => exact .collect
  | propose hcollected => exact .propose (hcollected.mono hsub)
  | validate hp => exact .validate (hp.mono hsub)
  | unevidenced hp hinvalid => exact .unevidenced (hp.mono hsub) hinvalid
  | monitor hj => exact .monitor (hj.mono hsub)
  | deny he hdenied => exact .deny (he.mono hsub) hdenied
  | stopped he hstopped hn => exact .stopped (he.mono hsub) hstopped hn
  | preapproval_audit he hclear => exact .preapproval_audit (he.mono hsub) hclear
  | approval he hclear haudited => exact .approval (he.mono hsub) hclear (haudited.mono hsub)
  | execute hc => exact .execute (hc.mono hsub)
  | verify hc hexecuted => exact .verify (hc.mono hsub) (hexecuted.mono hsub)
  | ended hs => exact .ended (hs.mono hsub)

end

/-! ### One visit -/

/-- The question is a call of the executor. -/
def Executes : Question P R → Prop
  | .execute .. => True
  | _ => False

instance : DecidablePred (Executes (P := P) (R := R))
  | .execute .. => .isTrue trivial
  | .collect _ | .propose .. | .validator_clock | .assess .. | .build_consultation _
  | .assess_consultation _ | .request .. | .validate_token .. | .verify .. | .emit _ | .clock =>
    .isFalse not_false

/-- The call that the channels of a state make. -/
def call (s : WorkflowState) : Option (Question P R) := do
  let action ← s.action
  let policy ← s.policy
  let human ← s.human
  let key ← s.idempotency_key
  let token ← human.token
  return .execute action { s.context with idempotency_key := some key } token policy.action_hash key

/-- Only the executor's node calls the executor, and it makes the call of its state. -/
def Admits (n : Node) (s : WorkflowState) (q : Question P R) : Prop :=
  Executes q → n = .execute ∧ call s = some q

/-- Where the executor may have been called. -/
def Late (n : Option Node) (s : WorkflowState) : Prop :=
  n = some .execute ∨ n = some .verify ∨ n = none ∧ s.operation.isSome = true

/-- Whatever the executor was called with is the call of the state. -/
def OneCall (n : Option Node) (h : History P R) (s : WorkflowState) : Prop :=
  ∀ e ∈ h, Executes e.1 → Late n s ∧ call s = some e.1

/-- After the ingest the context is bound. -/
def Ingested (start : Node) (n : Option Node) : Prop :=
  start = .ingest → n = some .ingest ∨ n = none ∨ r.Bound

/-- What holds of a run from the ingest, or from the collection of an action's evidence. -/
structure Holds (start : Node) (n : Option Node) (h : History P R) (s : WorkflowState) : Prop where
  position : At D key r h n s
  one_call : OneCall n h s
  ingested : Ingested r start n

section
variable {D key r h}

lemma answered_last (q : Question P R) (a : q.Answer) : Answered (h ++ [⟨q, a⟩]) q a := by
  simp [Answered]

lemma subset_asked (q : Question P R) (a : q.Answer) : h ⊆ h ++ [⟨q, a⟩] :=
  List.subset_append_left ..

lemma visited_ingest : Ensures (Admits .ingest r.state) (fun h' v => At D key r h' v.1 v.2) h
    (visit_keyed D key .ingest r.state) := by
  have hbound : ∀ {reason : String}, ¬r.Bound →
      At D key r h (unless_result .collect
        { r.state with result := some (mismatched reason) }).1
        { r.state with result := some (mismatched reason) } := fun hbound =>
    .ended (.mismatched hbound)
  simp only [visit_keyed, visit, ingest, Script.bind_eq, Script.pure_eq, ensures_bind]
  split
  · rename_i hne
    exact hbound fun hb => hne hb.thread_id
  · split
    · rename_i hne
      exact hbound fun hb => hne hb.incident_id
    · split
      · rename_i hne
        exact hbound fun hb => hne hb.actor
      · exact .collect

lemma visited_collect : Ensures (Admits .collect r.state) (fun h' v => At D key r h' v.1 v.2) h
    (visit_keyed D key .collect r.state) := by
  simp only [visit_keyed, visit, collect, Ask.collect, Script.bind_eq, Script.pure_eq,
    Script.bind_ask, Script.bind_ret, ensures_ask, ensures_ret]
  exact ⟨False.elim, fun records => .propose (answered_last _ _)⟩

lemma visited_propose {records : List EvidenceRecord}
    (hcollected : Answered h (.collect r.incident) records) :
    Ensures (Admits .propose { r.state with records := some records })
      (fun h' v => At D key r h' v.1 v.2) h
      (visit_keyed D key .propose { r.state with records := some records }) := by
  simp only [visit_keyed, visit, propose_with, Ask.propose, Script.bind_eq, Script.pure_eq,
    ensures_bind, ensures_need, ensures_ask, Script.bind_ask, Script.bind_ret]
  rintro _ ⟨⟩
  refine ⟨False.elim, fun answer => ?_⟩
  rcases answer with reason | ⟨hypothesis, action⟩
  · simp only [ensures_bind, ensures_audit]
    refine ⟨False.elim, fun now => ⟨False.elim, ?_⟩⟩
    exact .ended (.unproposed ((hcollected.mono (subset_asked _ _)).mono (subset_audited _ _))
      ((answered_last _ _).mono (subset_audited _ _)))
  · exact .validate (p := ⟨records, hypothesis, action⟩)
      ⟨hcollected.mono (subset_asked _ _), answered_last _ _⟩

lemma visited_validate {p : Proposal} (hp : p.Made D r h) :
    Ensures (Admits .validate (p.state r)) (fun h' v => At D key r h' v.1 v.2) h
      (visit_keyed D key .validate (p.state r)) := by
  simp only [visit_keyed, validate_output, Ask.validator_clock, Script.bind_eq, Script.pure_eq,
    ensures_bind, ensures_need, ensures_ask, Script.bind_ask, Script.bind_ret]
  rintro _ ⟨⟩ _ ⟨⟩
  refine ⟨False.elim, fun now => ?_⟩
  split
  · rename_i hinvalid
    simp only [ensures_bind, ensures_audit, ensures_need, ensures_ret]
    refine ⟨False.elim, fun t => ⟨False.elim, ?_⟩⟩
    rintro _ ⟨⟩
    exact .unevidenced ((hp.mono (subset_asked _ _)).mono (subset_audited _ _)) hinvalid
  · rename_i hvalid
    simp only [ensures_bind, ensures_scenario_span]
    intro hscenario
    split
    · trivial
    · rename_i policy hdecided
      refine .monitor (j := ⟨p, now, policy⟩) ⟨hp.mono (subset_asked _ _), answered_last _ _, ?_,
        hdecided, hscenario⟩
      intro henforces
      rcases hstate : (Judgement.evidence D r ⟨p, now, policy⟩).state with _ | _
      · rfl
      · exact absurd ⟨hstate, henforces⟩ hvalid

lemma visited_unevidenced {p : Proposal} {evidence : EvidenceValidation} (hp : p.Made D r h)
    (hinvalid : evidence.state = .INVALID ∧ D.safeguards.enforces_evidence = true)
    {s : WorkflowState} (hs : s = { p.state r with
        evidence := some evidence
        result := some (evidence_refusal (p.state r) p.action p.hypothesis evidence) }) :
    Ensures (Admits .monitor s) (fun h' v => At D key r h' v.1 v.2) h
      (visit_keyed D key .monitor s) := by
  subst hs
  exact .ended (.unevidenced hp hinvalid)

/-- The channels that the monitor's node writes. -/
def Observation.write (o : Observation) (s : WorkflowState) : WorkflowState :=
  { s with
    monitor := o.monitor
    monitor_error := o.monitor_error
    monitor_input_hash := o.monitor_input_hash
    monitor_invocation := o.monitor_invocation }

lemma semantic_leaves {K : Question P R → Prop} {thresholds : MonitorCaller.MonitorThresholds}
    {action : CanonicalAction} {answer : Consulted} {s s' : WorkflowState}
    {m : Option MonitorResult} {e : Option String}
    (hs : s' = Observation.write ⟨m, e, none, none⟩ s)
    (hverdict : (∃ a b, answer.outcome.assessment = some a ∧
        a.bind_result action thresholds = .ok b ∧ m = some b ∧ e = none) ∨
      (m = none ∧ ∃ kind : MonitorErrorKind, e = some kind.value)) :
    Ensures K (fun h' s'' => h' = h ∧ ∃ o, Leaves thresholds action answer o ∧ s'' = o.write s) h
      (semantic_observation (P := P) (R := R) answer s') := by
  subst hs
  unfold semantic_observation
  split
  · rename_i hnone
    exact ⟨rfl, ⟨m, e, none, none⟩, ⟨hverdict, by rw [hnone]; rfl, by rw [hnone]; rfl, rfl⟩, rfl⟩
  · rename_i input_hash invocation hsome
    simp only [Script.bind_eq, ensures_bind, ensures_refuse]
    intro hvalid
    refine ⟨rfl, ⟨m, e, input_hash, invocation⟩, ⟨hverdict, by rw [hsome]; rfl, by rw [hsome]; rfl,
      ?_⟩, rfl⟩
    cases input_hash with
    | none => rfl
    | some hash => simpa using hvalid

lemma consulted_leaves {K : Question P R → Prop} {thresholds : MonitorCaller.MonitorThresholds}
    {action : CanonicalAction} {answer : Consulted} {s : WorkflowState}
    (hs : Observation.write ⟨none, none, none, none⟩ s = s) :
    Ensures K (fun h' s' => h' = h ∧ ∃ o, Leaves thresholds action answer o ∧ s' = o.write s) h
      (consulted (P := P) (R := R) thresholds answer action s) := by
  have hmonitor : s.monitor = none := by rw [← hs]; rfl
  have herror : s.monitor_error = none := by rw [← hs]; rfl
  have hhash : s.monitor_input_hash = none := by rw [← hs]; rfl
  have hinvocation : s.monitor_invocation = none := by rw [← hs]; rfl
  unfold consulted
  split
  · rename_i kind _ _
    refine semantic_leaves (m := none) (e := some kind.value) ?_ (.inr ⟨rfl, kind, rfl⟩)
    simp [Observation.write, hmonitor, hhash, hinvocation]
  · rename_i assessment _ hassessment
    split
    · refine semantic_leaves (m := none) (e := some MonitorErrorKind.ECHO_MISMATCH.value) ?_
        (.inr ⟨rfl, _, rfl⟩)
      simp [Observation.write, hmonitor, hhash, hinvocation, MonitorErrorKind.value]
    · rename_i result hbound
      refine semantic_leaves (m := some result) (e := none) ?_
        (.inl ⟨assessment, result, hassessment, hbound, rfl, rfl⟩)
      simp [Observation.write, herror, hhash, hinvocation]
  · trivial

lemma monitor_heard (j : Judgement) :
    Ensures (fun q => ¬Executes q) (fun h' s => ∃ o, h ⊆ h' ∧ j.Heard D r h' o ∧
      s = (Hearing.mk j o).state D key r) h (Workflow.monitor D (j.state D key r)) := by
  have hresult : (j.state D key r).result.isSome = false := rfl
  simp only [Workflow.monitor, hresult, Bool.false_eq_true, if_false, Script.bind_eq,
    Script.pure_eq, ensures_bind, ensures_need]
  rintro _ ⟨⟩ _ ⟨⟩
  split
  · -- no monitor is consulted
    rename_i hquiet
    exact ⟨_, List.Subset.refl h, .unconsulted (.inl (by simpa using hquiet)), rfl⟩
  · rename_i hconsults
    split
    · -- what the policy stops is not shown to one
      rename_i hdenied
      exact ⟨_, List.Subset.refl h, .unconsulted (.inr hdenied), rfl⟩
    · rename_i hpolicy
      have hheard : D.safeguards.consults_monitor = true ∧ ¬j.Denied D :=
        ⟨by simpa using hconsults, hpolicy⟩
      simp only [ensures_bind, ensures_scenario_span, ensures_need]
      rintro - _ ⟨⟩
      split
      · -- the first monitor is asked for its verdict
        rename_i hmonitor
        exact ⟨False.elim, fun m =>
          ⟨_, subset_asked _ _, .v1 hheard hmonitor (answered_last _ _), rfl⟩⟩
      · -- an advisory monitor is asked once its input is built
        rename_i thresholds hmonitor
        simp only [ensures_bind, ensures_need]
        rintro _ ⟨⟩
        refine ⟨False.elim, fun built => ?_⟩
        rcases built with _ | consultation
        · exact ⟨_, subset_asked _ _, .unrenderable hheard hmonitor (answered_last _ _), rfl⟩
        · refine ⟨False.elim, fun answer => ?_⟩
          refine (consulted_leaves rfl).mono (fun _ hq => hq) ?_
          rintro _ s ⟨rfl, o, hleaves, rfl⟩
          exact ⟨o, List.Subset.trans (subset_asked _ _) (subset_asked _ _), .v2 hheard hmonitor
            ((answered_last _ _).mono (subset_asked _ _)) (answered_last _ _) hleaves, rfl⟩

lemma answered_audited (e : ControlAuditEvent) : Answered (audited h e) (.emit e) () := by
  simp [Answered, audited]

lemma value_ne_empty (kind : MonitorErrorKind) : kind.value ≠ "" := by cases kind <;> decide

lemma Judgement.Heard.typed {j : Judgement} {o : Observation} (ho : j.Heard D r h o) :
    ∀ e ∈ o.monitor_error, ∃ kind : MonitorErrorKind, e = kind.value := by
  intro e he
  cases ho with
  | unconsulted => cases he
  | v1 => cases he
  | unrenderable => exact ⟨_, (Option.some.inj he).symm⟩
  | v2 _ _ _ _ hleaves =>
    rcases hleaves.verdict with ⟨_, _, _, _, _, hnone⟩ | ⟨-, kind, hkind⟩
    · cases he.symm.trans hnone
    · exact ⟨kind, Option.some.inj (he.symm.trans hkind)⟩

lemma Judgement.Heard.named {j : Judgement} {o : Observation} (ho : j.Heard D r h o) :
    ∀ e ∈ o.monitor_error, e ≠ "" := by
  intro e he
  obtain ⟨kind, rfl⟩ := ho.typed e he
  exact value_ne_empty kind

lemma Judgement.Heard.silent {j : Judgement} {o : Observation} (ho : j.Heard D r h o)
    {kind : String} (hkind : o.monitor_error = some kind) : o.monitor = none := by
  cases ho with
  | unconsulted => rfl
  | v1 => cases hkind
  | unrenderable => rfl
  | v2 _ _ _ _ hleaves =>
    rcases hleaves.verdict with ⟨_, _, _, _, _, hnone⟩ | ⟨hnone, -⟩
    · cases hkind.symm.trans hnone
    · exact hnone

lemma Judgement.Heard.unheard {j : Judgement} {o : Observation} (ho : j.Heard D r h o)
    (hdenied : j.Denied D) : o.monitor = none := by
  cases ho with
  | unconsulted => rfl
  | v1 hconsults => exact absurd hdenied hconsults.2
  | unrenderable => rfl
  | v2 hconsults => exact absurd hdenied hconsults.2

lemma admits_of_unexecuted {n : Node} {s : WorkflowState} {q : Question P R} (hq : ¬Executes q) :
    Admits n s q := fun hexecutes => absurd hexecutes hq

lemma visited_monitor {j : Judgement} (hj : j.Made D r h) :
    Ensures (Admits .monitor (j.state D key r)) (fun h' v => At D key r h' v.1 v.2) h
      (visit_keyed D key .monitor (j.state D key r)) := by
  simp only [visit_keyed, visit, Script.bind_eq, Script.pure_eq, ensures_bind]
  refine (monitor_heard j).mono (fun _ => admits_of_unexecuted) ?_
  rintro h' _ ⟨o, hsub, hheard, rfl⟩
  have he : (Hearing.mk j o).Made D r h' := ⟨hj.mono hsub, hheard⟩
  have hresult : (Hearing.state D key r ⟨j, o⟩).result.isSome = false := rfl
  simp only [after_monitor, hresult, Bool.false_eq_true, if_false, Script.bind_eq, Script.pure_eq,
    ensures_bind, ensures_need, ensures_ret]
  rintro _ ⟨⟩
  -- the edges after the monitor, in the order of `after_monitor`
  show At D key r h' (Route.target (if j.policy.decision = .DENY ∧
      D.safeguards.enforces_policy = true then .deny
    else if o.monitor.any (fun m => decide (m.evaluated_action_hash ≠ j.policy.action_hash)) = true
      then .monitor_mismatch
    else if o.monitor_error.any (fun e => decide (e ≠ "")) = true ∧
      D.safeguards.enforces_monitor = true then .monitor_error
    else if o.monitor.any (fun m => decide (m.verdict = .BLOCK)) = true ∧
      D.safeguards.enforces_monitor = true then .block else .approve)) _
  split
  · rename_i hdenied
    exact .deny he hdenied
  · rename_i hpolicy
    split
    · rename_i hmismatch
      obtain ⟨m, hm, hne⟩ := (Option.any_eq_true ..).mp hmismatch
      exact .stopped he (fun hclear => of_decide_eq_true hne (hclear.action_hash m hm))
        (.inr (.inl rfl))
    · rename_i hmatch
      split
      · rename_i herror
        obtain ⟨kind, hkind, -⟩ := (Option.any_eq_true ..).mp herror.1
        refine .stopped he (fun hclear => ?_) (.inr (.inr rfl))
        cases hkind.symm.trans (hclear.monitor_error herror.2)
      · rename_i herror
        split
        · rename_i hblock
          obtain ⟨m, hm, hverdict⟩ := (Option.any_eq_true ..).mp hblock.1
          exact .stopped he (fun hclear => hclear.monitor_gate hblock.2 m hm
            (of_decide_eq_true hverdict)) (.inl rfl)
        · rename_i hblock
          -- none of the edges that stop the run: nothing enforced stands in its way
          refine .preapproval_audit he ⟨hpolicy, fun m hm => ?_, fun henforces => ?_,
            fun henforces m hm hverdict => ?_⟩
          · by_contra hne
            exact hmatch ((Option.any_eq_true ..).mpr ⟨m, hm, decide_eq_true hne⟩)
          · by_contra hsome
            obtain ⟨e, he'⟩ := Option.ne_none_iff_exists'.mp hsome
            exact herror ⟨(Option.any_eq_true ..).mpr
              ⟨e, he', decide_eq_true (hheard.named e he')⟩, henforces⟩
          · exact hblock ⟨(Option.any_eq_true ..).mpr ⟨m, hm, decide_eq_true hverdict⟩, henforces⟩

/-! ### The terminals -/

lemma ensures_stopped {K : Question P R → Prop} {C : History P R → WorkflowResult → Prop}
    {e : Hearing} {reasons : List String} {hreasons : reasons ≠ []}
    {monitor : Option MonitorResult} {approval : Option HumanDecision} :
    Ensures K C h (Workflow.stopped (P := P) (R := R) (e.state D key r) reasons hreasons monitor
      approval) ↔ C h (e.stop key r reasons hreasons monitor approval) := by
  simp only [Workflow.stopped, report, Script.bind_eq, Script.pure_eq, ensures_bind, ensures_need,
    ensures_ret]
  exact ⟨fun hC => hC _ rfl _ rfl _ rfl _ rfl _ rfl _ rfl _ rfl, by
    rintro hC _ ⟨⟩ _ ⟨⟩ _ ⟨⟩ _ ⟨⟩ _ ⟨⟩ _ ⟨⟩ _ ⟨⟩
    exact hC⟩

lemma visited_deny {e : Hearing} (he : e.Made D r h) (hdenied : e.Denied D) :
    Ensures (Admits .deny (e.state D key r)) (fun h' v => At D key r h' v.1 v.2) h
      (visit_keyed D key .deny (e.state D key r)) := by
  simp only [visit_keyed, visit, deny, Script.bind_eq, Script.pure_eq, ensures_bind, ensures_need,
    ensures_audit]
  rintro _ ⟨⟩
  refine ⟨False.elim, fun now => ⟨False.elim, ensures_stopped.mpr ?_⟩⟩
  exact .ended (.denied (he.mono (subset_audited _ _)) hdenied)

lemma visited_stopped {e : Hearing} {n : Node} (he : e.Made D r h) (hstopped : ¬e.Clear D)
    (hn : n = .blocked ∨ n = .monitor_mismatch ∨ n = .monitor_error) :
    Ensures (Admits n (e.state D key r)) (fun h' v => At D key r h' v.1 v.2) h
      (visit_keyed D key n (e.state D key r)) := by
  have hmade : ∀ {e₁ e₂ : ControlAuditEvent}, e.Made D r (audited (audited h e₁) e₂) :=
    (he.mono (subset_audited _ _)).mono (subset_audited _ _)
  rcases hn with rfl | rfl | rfl
  · simp only [visit_keyed, visit, blocked, Script.bind_eq, Script.pure_eq, ensures_bind,
      ensures_need, ensures_audit]
    intro m hm
    exact ⟨False.elim, fun _ => ⟨False.elim, False.elim, fun _ => ⟨False.elim, ensures_stopped.mpr
      (.ended (.stopped hmade hstopped hm.symm))⟩⟩⟩
  · simp only [visit_keyed, visit, Workflow.monitor_mismatch, Script.bind_eq, Script.pure_eq,
      ensures_bind, ensures_audit]
    exact ⟨False.elim, fun _ => ⟨False.elim, False.elim, fun _ => ⟨False.elim, ensures_stopped.mpr
      (.ended (.stopped hmade hstopped rfl))⟩⟩⟩
  · simp only [visit_keyed, visit, monitor_error_terminal, Script.bind_eq, Script.pure_eq,
      ensures_bind, ensures_need, ensures_audit]
    exact ⟨False.elim, fun _ => ⟨False.elim, fun _ hkind => ⟨False.elim, fun _ => ⟨False.elim,
      ensures_stopped.mpr (.ended (.stopped hmade hstopped (he.heard.silent hkind).symm))⟩⟩⟩⟩

lemma visited_preapproval_audit {e : Hearing} (he : e.Made D r h) (hclear : e.Clear D) :
    Ensures (Admits .preapproval_audit (e.state D key r)) (fun h' v => At D key r h' v.1 v.2) h
      (visit_keyed D key .preapproval_audit (e.state D key r)) := by
  simp only [visit_keyed, visit, preapproval_audit, Script.bind_eq, Script.pure_eq, ensures_bind,
    ensures_audit]
  refine ⟨False.elim, fun now => ⟨False.elim, ?_⟩⟩
  have hpolicy : Answered (audited h (event (e.state D key r) "policy" POLICY_VALID now))
      (.emit (event (e.state D key r) "policy" POLICY_VALID now)) () := answered_audited _
  split
  · -- the monitor's word is put on record
    rename_i m _ hm
    simp only [ensures_bind, ensures_audit, ensures_ret]
    refine ⟨False.elim, fun t => ⟨False.elim, .approval ((he.mono (subset_audited _ _)).mono
      (subset_audited _ _)) hclear ⟨⟨now, hpolicy.mono (subset_audited _ _)⟩, ?_, ?_⟩⟩⟩
    · intro m' hm'
      obtain rfl := Option.some.inj (hm.symm.trans hm')
      exact ⟨t, answered_audited _⟩
    · intro hnone
      cases hm.symm.trans hnone
  · -- or its failure
    rename_i error hnone herror
    simp only [ensures_bind, ensures_audit, ensures_ret]
    refine ⟨False.elim, fun t => ⟨False.elim, .approval ((he.mono (subset_audited _ _)).mono
      (subset_audited _ _)) hclear ⟨⟨now, hpolicy.mono (subset_audited _ _)⟩, ?_, ?_⟩⟩⟩
    · intro m hm
      cases hm.symm.trans hnone
    · intro _ kind hkind
      obtain ⟨hkind', -⟩ := Option.filter_eq_some_iff.mp herror
      obtain rfl := Option.some.inj (hkind.symm.trans hkind')
      exact ⟨t, answered_audited _⟩
  · -- or neither, where there is none
    rename_i hnone herror
    refine .approval (he.mono (subset_audited _ _)) hclear ⟨⟨now, hpolicy⟩, ?_, ?_⟩
    · intro m hm
      cases hm.symm.trans hnone
    · intro _ kind hkind
      exact absurd (he.heard.named kind hkind)
        (by simpa using Option.filter_eq_none_iff.mp herror kind hkind)

lemma ensures_declined {e : Hearing} (he : e.Made D r h) (hclear : e.Clear D)
    {human : HumanDecision} (hasked : Answered h (.request D.authorization
      (authorization_request (e.state D key r) e.policy e.action)) (some human))
    (reason audit : String) :
    Ensures (Admits .approval (e.state D key r))
      (fun h' s => At D key r h' (unless_result .execute s).1 (unless_result .execute s).2) h
      (declined (e.state D key r) human reason audit) := by
  simp only [declined, Script.bind_eq, Script.pure_eq, ensures_bind, ensures_audit]
  refine ⟨False.elim, fun now => ⟨False.elim, ensures_stopped.mpr ?_⟩⟩
  exact .ended (.declined (he.mono (subset_audited _ _)) hclear (hasked.mono (subset_audited _ _)))

lemma visited_approval {e : Hearing} (he : e.Made D r h) (hclear : e.Clear D)
    (haudited : e.Audited D key r h) :
    Ensures (Admits .approval (e.state D key r)) (fun h' v => At D key r h' v.1 v.2) h
      (visit_keyed D key .approval (e.state D key r)) := by
  simp only [visit_keyed, visit, approval_with, Script.bind_eq, Script.pure_eq, ensures_bind,
    ensures_need, ensures_scenario_span]
  rintro - _ ⟨⟩ _ ⟨⟩
  refine ⟨False.elim, fun payload => ?_⟩
  rcases payload with _ | human
  · trivial
  · have he' := he.mono (subset_asked (.request D.authorization
      (authorization_request (e.state D key r) e.policy e.action)) (some human))
    have hasked := answered_last (h := h) (.request D.authorization
      (authorization_request (e.state D key r) e.policy e.action)) (some human)
    show Ensures _ _ _ (decided (e.state D key r) e.policy e.action human)
    -- an approval, a reason under DEFER, a token, its approver and its validation
    unfold decided
    split
    · exact ensures_declined he' hclear hasked _ _
    · rename_i happrove
      have hdecision : human.decision = .approve := by
        cases hd : human.decision with
        | approve => rfl
        | reject => exact absurd hd happrove
      split
      · exact ensures_declined he' hclear hasked _ _
      · rename_i hreason
        split
        · exact ensures_declined he' hclear hasked _ _
        · rename_i token htoken
          split
          · exact ensures_declined he' hclear hasked _ _
          · rename_i happrover
            simp only [Script.bind_eq, Script.pure_eq, ensures_bind]
            refine ⟨False.elim, fun now => ⟨False.elim, fun verdict => (ensures_ret _).mpr ?_⟩⟩
            split
            · rename_i hvalid
              simp only [ensures_bind, ensures_audit]
              refine ⟨False.elim, fun t => ⟨False.elim, ?_⟩⟩
              -- the token is valid: every answer is still on record
              have hsub : h ⊆ audited ((h ++ [⟨.request D.authorization (authorization_request
                  (e.state D key r) e.policy e.action), some human⟩]) ++ [⟨.clock, now⟩] ++
                  [⟨.validate_token token e.policy.action_hash e.action.actor now, verdict⟩])
                  (event (e.state D key r) "approval" AUDIT_APPROVED t) := by
                simp [audited]
              refine .execute (c := ⟨e, human, token, now⟩) ⟨he.mono hsub, hclear,
                haudited.mono hsub, ⟨?_, hdecision, ?_, htoken, not_not.mp happrover, ?_,
                  ⟨verdict.2, ?_⟩, ⟨t, answered_audited _⟩⟩⟩
              · exact ((hasked.mono (subset_asked _ _)).mono (subset_asked _ _)).mono
                  (subset_audited _ _)
              · rintro ⟨m, hm, hdefer⟩
                exact Bool.eq_false_iff.mpr fun hblank => hreason ⟨(Option.any_eq_true ..).mpr
                  ⟨m, hm, decide_eq_true hdefer⟩, hblank⟩
              · exact ((answered_last _ _).mono (subset_asked _ _)).mono (subset_audited _ _)
              · rw [← hvalid]
                exact (answered_last _ _).mono (subset_audited _ _)
            · exact ensures_declined ((he'.mono (subset_asked _ _)).mono (subset_asked _ _)) hclear
                ((hasked.mono (subset_asked _ _)).mono (subset_asked _ _)) _ _

lemma call_state {c : Clearance} (hc : c.Made D key r h) :
    call (c.state D key r) = some (c.call (P := P) (R := R) key r) := by
  simp only [call, Clearance.state, Hearing.state, Judgement.state, Proposal.state,
    hc.granted.token, Option.bind_eq_bind, Option.bind_some]
  rfl

lemma visited_execute {c : Clearance} (hc : c.Made D key r h) :
    Ensures (Admits .execute (c.state D key r)) (fun h' v => At D key r h' v.1 v.2) h
      (visit_keyed D key .execute (c.state D key r)) := by
  simp only [visit_keyed, visit, execute, execute_call, execute_record, Script.bind_eq,
    Script.pure_eq, ensures_bind, ensures_need]
  rintro _ ⟨⟩ _ ⟨⟩ _ ⟨⟩ _ ⟨⟩
  have htoken := hc.granted.token
  split
  · trivial
  · rename_i token htoken'
    obtain rfl := Option.some.inj (htoken.symm.trans htoken')
    refine ⟨fun _ => ⟨rfl, call_state hc⟩, fun operation => ?_⟩
    simp only [ensures_emit, ensures_ret]
    rintro _ ⟨⟩ _ ⟨⟩
    refine ⟨False.elim, fun now => ⟨False.elim, ?_⟩⟩
    exact .verify ((hc.mono (subset_asked _ _)).mono (subset_audited _ _))
      ((answered_last _ _).mono (subset_audited _ _))

lemma visited_verify {c : Clearance} {operation : OperationLedgerResult} (hc : c.Made D key r h)
    (hexecuted : Answered h (c.call key r) operation) {s : WorkflowState}
    (hs : s = { c.state D key r with operation := some operation }) :
    Ensures (Admits .verify s) (fun h' v => At D key r h' v.1 v.2) h
      (visit_keyed D key .verify s) := by
  subst hs
  simp only [visit_keyed, visit, verify, report, Script.bind_eq,
    Script.pure_eq, ensures_bind, ensures_need, ensures_scenario_span, ensures_emit]
  rintro _ ⟨⟩ _ ⟨⟩ - _ ⟨⟩
  refine ⟨False.elim, fun verification => ⟨False.elim, fun now => ⟨False.elim, ?_⟩⟩⟩
  rintro _ ⟨⟩ _ ⟨⟩ _ ⟨⟩ _ ⟨⟩ _ ⟨⟩ _ ⟨⟩
  exact .ended (.verified ((hc.mono (subset_asked _ _)).mono (subset_audited _ _))
    ((hexecuted.mono (subset_asked _ _)).mono (subset_audited _ _))
    ((answered_last _ _).mono (subset_audited _ _)))

lemma visited {n : Node} {s : WorkflowState} (hs : At D key r h (some n) s) :
    Ensures (Admits n s) (fun h' v => At D key r h' v.1 v.2) h (visit_keyed D key n s) := by
  cases hs with
  | ingest => exact visited_ingest
  | collect => exact visited_collect
  | propose hcollected => exact visited_propose hcollected
  | validate hp => exact visited_validate hp
  | unevidenced hp hinvalid => exact visited_unevidenced hp hinvalid rfl
  | monitor hj => exact visited_monitor hj
  | deny he hdenied => exact visited_deny he hdenied
  | stopped he hstopped hn => exact visited_stopped he hstopped hn
  | preapproval_audit he hclear => exact visited_preapproval_audit he hclear
  | approval he hclear haudited => exact visited_approval he hclear haudited
  | execute hc => exact visited_execute hc
  | verify hc hexecuted => exact visited_verify hc hexecuted rfl

/-! ### Whole runs -/

lemma late_visited {n : Node} {s : WorkflowState} (hn : Late (some n) s) :
    Ensures (fun _ => True) (fun _ v => Late v.1 v.2 ∧ call (P := P) (R := R) v.2 = call s) h
      (visit_keyed D key n s) := by
  rcases hn with hn | hn | ⟨hn, -⟩
  · obtain rfl := Option.some.inj hn
    simp only [visit_keyed, visit, execute, execute_record, Script.bind_eq, Script.pure_eq,
      ensures_bind, ensures_need, ensures_emit]
    refine (ensures_top _ _).mono (fun _ _ => trivial) fun _ _ _ => ?_
    exact fun _ _ _ _ => ⟨trivial, fun _ => ⟨trivial, .inr (.inl rfl), rfl⟩⟩
  · obtain rfl := Option.some.inj hn
    simp only [visit_keyed, visit, verify, Script.bind_eq, Script.pure_eq, ensures_bind,
      ensures_need, ensures_scenario_span, ensures_emit]
    intro _ _ _ _ _ operation hoperation
    refine ⟨trivial, fun _ => ⟨trivial, fun _ => ⟨trivial, fun _ _ _ _ _ _ => ?_⟩⟩⟩
    exact (ensures_top _ _).mono (fun _ _ => trivial) fun _ _ _ =>
      ⟨.inr (.inr ⟨rfl, by simp [hoperation]⟩), rfl⟩
  · cases hn

lemma ingest_bound : Ensures (fun _ => True) (fun _ v => v.1 = none ∨ r.Bound) h
    (visit_keyed D key .ingest r.state) := by
  simp only [visit_keyed, visit, ingest, Script.bind_eq, Script.pure_eq, ensures_bind]
  split
  · exact .inl rfl
  · split
    · exact .inl rfl
    · split
      · exact .inl rfl
      · rename_i hthread hincident hactor
        exact .inr ⟨not_not.mp hthread, not_not.mp hincident, not_not.mp hactor⟩

lemma holds_invariant {start : Node} (hstart : start = .ingest ∨ start = .collect) :
    Invariant (one_action D key start) r.state Admits (Holds D key r start) where
  start := by
    refine ⟨?_, by simp [OneCall], ?_⟩
    · rcases hstart with rfl | rfl
      · exact .ingest
      · exact .collect
    · rintro rfl
      exact .inl rfl
  kept hI hq a := by
    refine ⟨hI.position.mono (subset_asked _ _), fun e he hexecutes => ?_, hI.ingested⟩
    rcases List.mem_append.mp he with he | he
    · exact hI.one_call e he hexecutes
    · obtain rfl := List.mem_singleton.mp he
      obtain ⟨rfl, hcall⟩ := hq hexecutes
      exact ⟨.inl rfl, hcall⟩
  visited := by
    intro n h s hI
    -- the binding is known from the ingest on
    have hbound : Ensures (fun _ => True) (fun _ v => Ingested r start v.1) h
        (visit_keyed D key n s) := by
      by_cases hn : n = .ingest
      · subst hn
        obtain rfl : s = r.state := by
          cases hI.position with
          | ingest => rfl
          | stopped _ _ hn => simp at hn
        exact ingest_bound.mono (fun _ hq => hq) fun _ v hv _ => .inr hv
      · refine (ensures_top _ _).mono (fun _ hq => hq) fun _ v _ hingest => ?_
        rcases hI.ingested hingest with hn' | hn' | hbound
        · exact absurd (Option.some.inj hn') hn
        · cases hn'
        · exact .inr (.inr hbound)
    -- a call is made on the visit of the executor, or was made before it
    have hcalls : Ensures (Admits n s) (fun h' v => OneCall v.1 h' v.2) h
        (visit_keyed D key n s) := by
      by_cases hlate : Late (some n) s
      · refine ((visited hI.position).history.and (late_visited hlate)).mono (fun _ hq => hq.1) ?_
        rintro _ v ⟨⟨-, es, rfl, hes⟩, hv, hcall⟩ e he hexecutes
        rcases List.mem_append.mp he with he | he
        · exact ⟨hv, hcall.trans (hI.one_call e he hexecutes).2⟩
        · exact ⟨hv, hcall.trans (hes e he hexecutes).2⟩
      · refine (visited hI.position).history.mono (fun _ hq => hq) ?_
        rintro _ v ⟨-, es, rfl, hes⟩ e he hexecutes
        rcases List.mem_append.mp he with he | he
        · exact absurd (hI.one_call e he hexecutes).1 hlate
        · exact absurd (.inl (congrArg some (hes e he hexecutes).1)) hlate
    exact (((visited hI.position).and hcalls).and hbound).mono (fun _ hq => hq.1.1)
      fun _ v hv => ⟨hv.1.1, hv.1.2, hv.2⟩

end

/-! ### Dependencies that let a restart through -/

/-- Gates that all enforce. -/
def labDependencies : WorkflowDependencies Unit Unit where
  proposer := ()
  evidence_validator := ShownFacts.labValidator
  regex := fun pattern => some fun text => text = pattern
  policy := restartPolicy "api"
  monitor := .v1
  safeguards := {
    evidence_gate := .ENFORCE
    policy_gate := .ENFORCE
    monitor_gate := .ENFORCE
    authorization_gate := .DURABLE_HUMAN
    control_approver := none
    evidence_gate_ok := nofun
    policy_gate_ok := nofun
    control_approver_ok := .inr ⟨rfl, rfl⟩ }
  authorization := ()

def labRoot : Root where
  incident := Withheld.firstThread.incident
  context := ProposerPrompt.labContext "thread-1" Withheld.isBoundedName_thread
  caller := ⟨⟨"agent", isNonEmpty_agent⟩, .OPERATOR⟩

lemma lab_statement_ok : 1 ≤ "api is down".length ∧ "api is down".length ≤ 500 := by decide

lemma lab_confidence_ok : (0 : Rat) ≤ 1 ∧ (1 : Rat) ≤ 1 := by decide

lemma lab_evidence_cited : ["evidence-1"] ≠ [] := by simp

def labHypothesis : Hypothesis where
  hypothesis_id := "hypothesis-1"
  statement := "api is down"
  confidence := 1
  evidence_ids := ["evidence-1"]
  statement_ok := lab_statement_ok
  confidence_ok := lab_confidence_ok
  evidence_cited := lab_evidence_cited

/-- An approval of an action that the monitor deferred. -/
def labApproval : HumanDecision where
  decision := .approve
  approver := "operator"
  reason := some "api answers 503"
  token := some SingleUse.rollbackToken
  approver_ok := SingleUse.rollbackToken.approver_ok
  reason_ok := by decide

def labAnswers : ∀ q : Question Unit Unit, q.Answer
  | .collect _ => [ShownFacts.citedRecord]
  | .propose .. => .ok (labHypothesis, Withheld.firstThread.action)
  | .validator_clock => (130 : Int)
  | .assess action _ => ⟨.DEFER, 0, "", canonical_action_hash action⟩
  | .build_consultation facts => some facts
  | .assess_consultation _ => ⟨⟨false, none, some .TIMEOUT, by simp⟩, none⟩
  | .request .. => some labApproval
  | .validate_token .. => (true, "valid")
  | .execute _ context token action_hash key =>
    ⟨context, key, action_hash, token.token_id, token.one_time_use_id, .SUCCEEDED, "operation-1",
      (130 : Int), none⟩
  | .verify .. => ⟨"health", true, (130 : Int), ["evidence-1"], "", lab_evidence_cited⟩
  | .emit _ => ()
  | .clock => (130 : Int)

/-- The run to its executor's node. -/
def labApproved := (workflow labDependencies).follow labAnswers 7 ([], some .ingest, labRoot.state)

/-- The call of the executor is made, its visit is lost, and the run goes on to its end. -/
def labRun :=
  (workflow labDependencies).follow labAnswers 2 ((workflow labDependencies).lose labAnswers
    labApproved)

lemma lab_run : Run (workflow labDependencies) labRoot.state labRun.1 labRun.2.1 labRun.2.2 :=
  ((Run.start.follow labAnswers 7).lose labAnswers).follow labAnswers 2

/-! ### The workflow -/

section
variable {D} {r} {h} {n : Option Node} {s : WorkflowState}

lemma holds_of_run (hrun : Run (workflow D) r.state h n s) : Holds D own_key r .ingest n h s := by
  rw [workflow_eq] at hrun
  exact (holds_invariant (.inl rfl)).run hrun

/-- **No execution without every gate.** In every run, whatever was lost and made again and whatever
the dependencies answer: before the executor is called, the context was bound to the incident and to
the caller; the action was proposed on the records that were collected; its evidence was valid and
the policy did not deny it, unless that gate only observes; the monitor was heard on it, spoke of no
other action, and neither blocked it nor failed, unless that gate only observes; an authorizer
approved it, with a reason where the monitor deferred, by the approver that the token names, and the
token was valid for its hash and its actor; and the audit had all of it. The call is of that action,
under the key of its hash and its thread. -/
theorem execution_cleared (hrun : Run (workflow D) r.state h n s) {action : CanonicalAction}
    {context : ToolCallContext} {token : ApprovalToken} {action_hash : ActionHash}
    {idempotency_key : UUID} {operation : OperationLedgerResult} {h₁ h₂ : History P R}
    (hsplit : h = h₁ ++ ⟨.execute action context token action_hash idempotency_key, operation⟩ ::
      h₂) :
    r.Bound ∧ ∃ c : Clearance, c.Made D own_key r h₁ ∧
      .execute action context token action_hash idempotency_key = c.call (P := P) (R := R)
        own_key r := by
  rw [workflow_eq] at hrun
  obtain ⟨n', s', hI, hadmits⟩ := (holds_invariant (.inl rfl)).asked hrun hsplit
  obtain ⟨rfl, hcall⟩ := hadmits trivial
  refine ⟨(hI.ingested rfl).resolve_left (by simp) |>.resolve_left (by simp), ?_⟩
  cases hI.position with
  | stopped _ _ hn => simp at hn
  | @execute c hc => exact ⟨c, hc, Option.some.inj (hcall.symm.trans (call_state hc))⟩

lemma lab_executes : ∃ e ∈ labRun.1, Executes e.1 := by
  have hany : (labRun.1.any fun e => decide (Executes e.1)) = true := by decide +kernel
  obtain ⟨e, he, hexecutes⟩ := List.any_eq_true.mp hany
  exact ⟨e, he, of_decide_eq_true hexecutes⟩

/-- A restart that the monitor deferred and an authorizer approved with a reason. -/
theorem execution_cleared_restart : labRoot.Bound ∧
    ∃ (h₁ h₂ : History Unit Unit) (e : Exchange Question.Answer) (c : Clearance),
      labRun.1 = h₁ ++ e :: h₂ ∧ c.Made labDependencies own_key labRoot h₁ ∧
      e.1 = c.call own_key labRoot := by
  obtain ⟨e, he, hexecutes⟩ := lab_executes
  obtain ⟨h₁, h₂, hsplit⟩ := List.append_of_mem he
  obtain ⟨q, operation⟩ := e
  cases q with
  | execute =>
    obtain ⟨hbound, c, hc, hcall⟩ := execution_cleared lab_run hsplit
    exact ⟨hbound, h₁, h₂, _, c, hsplit, hc, hcall⟩
  | _ => cases hexecutes

/-- **One call a run.** However often a run is lost and made again, every call of its executor is
the same one: the same action, token and key. -/
theorem one_call (hrun : Run (workflow D) r.state h n s) :
    ∀ e ∈ h, ∀ e' ∈ h, Executes e.1 → Executes e'.1 → e.1 = e'.1 := by
  intro e he e' he' hexecutes hexecutes'
  have honce := (holds_of_run hrun).one_call
  exact Option.some.inj ((honce e he hexecutes).2.symm.trans (honce e' he' hexecutes').2)

/-- Two calls, of a visit that was lost and made again. -/
theorem one_call_lost : (labRun.1.filter fun e => decide (Executes e.1)).length = 2 ∧
    ∀ e ∈ labRun.1, ∀ e' ∈ labRun.1, Executes e.1 → Executes e'.1 → e.1 = e'.1 :=
  ⟨by decide +kernel, one_call lab_run⟩

end

/-- A report of the incident that says what the result says. -/
structure Reports (res : WorkflowResult) (report : IncidentReport) : Prop where
  incident : report.incident = r.incident
  diagnosis : ∀ hypothesis ∈ res.hypothesis, report.diagnosis = hypothesis.statement
  hypotheses : report.hypotheses = res.hypothesis.toList
  evidence_ids : report.evidence_ids = res.evidence_ids
  action_hash : report.action_hash = res.action_hash
  policy : report.policy = res.policy
  monitor : report.monitor = res.monitor
  verification : report.verification = res.verification
  final_state : report.final_state = .RESOLVED ↔ res.final_state = "resolved"

/-- A result that says what happened: it holds an operation exactly if the executor was called, one
that the executor answered to the call that the result names; it holds a verification only of that
operation, and is resolved exactly if that passed; the approval is one that an authorizer gave; and
the report agrees with it. -/
structure Honest (res : WorkflowResult) : Prop where
  executed : res.operation.isSome = true ↔ ∃ e ∈ h, Executes e.1
  operation : ∀ operation ∈ res.operation, ∃ action context token action_hash key,
    Answered h (.execute action context token action_hash key) operation ∧
      res.action_hash = some action_hash ∧ res.idempotency_key = some key
  verification : ∀ v ∈ res.verification, ∃ operation, res.operation = some operation ∧
    Answered h (.verify r.incident operation) v
  approval : ∀ human ∈ res.approval, ∃ request,
    Answered h (.request D.authorization request) (some human)
  resolved : res.final_state = "resolved" ↔ ∃ v ∈ res.verification, v.passed = true
  blocked : res.final_state = "resolved" ∨ res.final_state = "blocked"
  report : ∀ report ∈ res.report, Reports r res report

section
variable {D} {key : Keying} {r} {h} {s : WorkflowState}

/-- A result without an operation, of a run that called no executor. -/
lemma honest_of_unexecuted {res : WorkflowResult} (hquiet : ∀ e ∈ h, ¬Executes e.1)
    (hoperation : res.operation = none) (hverification : res.verification = none)
    (hblocked : res.final_state = "blocked")
    (happroval : ∀ human ∈ res.approval, ∃ request,
      Answered h (.request D.authorization request) (some human))
    (hreport : ∀ report ∈ res.report, Reports r res report) : Honest D r h res where
  executed := by
    rw [hoperation]
    exact ⟨nofun, fun ⟨e, he, hexecutes⟩ => absurd hexecutes (hquiet e he)⟩
  operation operation hsome := by
    rw [hoperation] at hsome
    cases hsome
  verification v hv := by
    rw [hverification] at hv
    cases hv
  approval := happroval
  resolved := by
    rw [hblocked, hverification]
    exact ⟨fun h => absurd h (by decide), fun ⟨_, hv, _⟩ => nomatch hv⟩
  blocked := .inr hblocked
  report := hreport

lemma reports_stop {e : Hearing} {reasons : List String} {hreasons : reasons ≠ []}
    {monitor : Option MonitorResult} {approval : Option HumanDecision}
    (hmonitor : monitor = e.observation.monitor) :
    ∀ report ∈ (e.stop key r reasons hreasons monitor approval).report,
      Reports r (e.stop key r reasons hreasons monitor approval) report := by
  rintro _ ⟨⟩
  refine ⟨rfl, ?_, rfl, rfl, rfl, rfl, hmonitor.symm, rfl, nofun, fun hresolved => ?_⟩
  · rintro _ ⟨⟩
    rfl
  · exact absurd (show "blocked" = "resolved" from hresolved) (by decide)

lemma honest_of_verified {c : Clearance} {operation : OperationLedgerResult}
    {verification : VerificationResult} (hc : c.Made D key r h)
    (hexecuted : Answered h (c.call key r) operation)
    (hverified : Answered h (.verify r.incident operation) verification) :
    Honest D r h (c.result D key r operation verification) where
  executed := iff_of_true rfl ⟨_, hexecuted, trivial⟩
  operation := by
    rintro _ ⟨⟩
    exact ⟨_, _, _, _, _, hexecuted, rfl, rfl⟩
  verification := by
    rintro _ ⟨⟩
    exact ⟨_, rfl, hverified⟩
  approval := by
    rintro _ ⟨⟩
    exact ⟨_, hc.granted.requested⟩
  resolved := by
    have hstate : (c.result D key r operation verification).final_state =
        if verification.passed then "resolved" else "blocked" := rfl
    rw [hstate]
    cases hpassed : verification.passed with
    | true => exact iff_of_true rfl ⟨_, rfl, hpassed⟩
    | false =>
      refine iff_of_false (by decide) ?_
      rintro ⟨_, ⟨⟩, htrue⟩
      cases hpassed.symm.trans htrue
  blocked := by
    have hstate : (c.result D key r operation verification).final_state =
        if verification.passed then "resolved" else "blocked" := rfl
    rw [hstate]
    cases verification.passed <;> simp
  report := by
    rintro _ ⟨⟩
    refine ⟨rfl, by rintro _ ⟨⟩; rfl, rfl, rfl, rfl, rfl, rfl, rfl, ?_⟩
    have hstate : (c.result D key r operation verification).final_state =
        if verification.passed then "resolved" else "blocked" := rfl
    rw [hstate]
    cases verification.passed <;> simp

lemma honest_of_holds {start : Node} (hholds : Holds D key r start none h s) :
    ∃ res, s.result = some res ∧ Honest D r h res := by
  obtain ⟨hposition, hcalls, -⟩ := hholds
  -- a result without an operation is of a run that called no executor
  have hquiet : s.operation = none → ∀ e ∈ h, ¬Executes e.1 := fun hnone e he hexecutes => by
    rcases (hcalls e he hexecutes).1 with hlate | hlate | ⟨-, hlate⟩
    · cases hlate
    · cases hlate
    · rw [hnone] at hlate
      cases hlate
  cases hposition with
  | ended hs =>
    cases hs with
    | mismatched =>
      refine ⟨_, rfl, honest_of_unexecuted (hquiet rfl) rfl rfl rfl ?_ ?_⟩ <;> rintro _ ⟨⟩
    | unproposed =>
      refine ⟨_, rfl, honest_of_unexecuted (hquiet rfl) rfl rfl rfl ?_ ?_⟩ <;> rintro _ ⟨⟩
    -- stopped by the evidence gate, before the policy and the monitor
    | unevidenced =>
      refine ⟨_, rfl, honest_of_unexecuted (hquiet rfl) rfl rfl rfl (by rintro _ ⟨⟩) ?_⟩
      rintro _ ⟨⟩
      refine ⟨rfl, ?_, rfl, rfl, rfl, rfl, rfl, rfl, nofun, fun hresolved => ?_⟩
      · rintro _ ⟨⟩
        rfl
      · exact absurd (show "blocked" = "resolved" from hresolved) (by decide)
    | denied he hdenied =>
      exact ⟨_, rfl, honest_of_unexecuted (hquiet rfl) rfl rfl rfl (by rintro _ ⟨⟩)
        (reports_stop (he.heard.unheard hdenied).symm)⟩
    | stopped he hstopped hmonitor =>
      exact ⟨_, rfl, honest_of_unexecuted (hquiet rfl) rfl rfl rfl (by rintro _ ⟨⟩)
        (reports_stop hmonitor)⟩
    | declined he hclear hasked =>
      refine ⟨_, rfl, honest_of_unexecuted (hquiet rfl) rfl rfl rfl ?_ (reports_stop rfl)⟩
      rintro _ ⟨⟩
      exact ⟨_, hasked⟩
    -- the one end with an operation
    | verified hc hexecuted hverified => exact ⟨_, rfl, honest_of_verified hc hexecuted hverified⟩

/-- **A run ends with an honest result.** -/
theorem result_honest (hrun : Run (workflow D) r.state h none s) :
    ∃ res, s.result = some res ∧ Honest D r h res := honest_of_holds (holds_of_run hrun)

theorem result_honest_restart :
    ∃ res, labRun.2.2.result = some res ∧ Honest labDependencies labRoot labRun.1 res := by
  have hend : labRun.2.1 = none := Option.isNone_iff_eq_none.mp (by decide +kernel)
  have hrun := lab_run
  rw [hend] at hrun
  exact result_honest hrun

end

end IncidentGate.WorkflowGates
