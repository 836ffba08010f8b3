import IncidentGate.Lib.Beside
import IncidentGate.Workflow

/-!
The graph of an episode: the nodes of the workflow in a loop, in which a strategy selects one action
after the other and a transcript records each of them.

The loop selects, numbers, records and clears. What an action passes through on the way is the
workflow's own, but for its key, which names the episode and the sequence of the attempt.
-/

namespace IncidentGate.EpisodeGraph

open Lib.TextPattern Lib.ScriptTree Lib.Checkpoint Lib.Beside Policy SabotageRows Workflow
open Contracts hiding Caller
open MonitorInputs (AuthorizationGate)
open EpisodeOrdering (EpisodeStepSnapshot EvaluationAuthorization Termination)
open Identities (isEpisodeId)

/-! ### Transcripts -/

/-- One observation of an episode: a start has no snapshot, and a terminal record a valid one. -/
structure EpisodeTranscriptEvent extends EpisodeOrdering.EpisodeTranscriptEvent where
  episode_id : String
  «at» : Time
  episode_id_ok : isEpisodeId episode_id = true
  action_id_ok : isEpisodeId action_id = true
  phase_ok : phase = .started ↔ step = none
  step_ok : ∀ s ∈ step, s.validate = .ok ()

/-- `is_ordered_single_thread_history`, from an event that may be open on. -/
def is_ordered_single_thread_history (thread_id episode_id : String) :
    Option EpisodeTranscriptEvent → ℕ → List EpisodeTranscriptEvent → Validator
  | _, _, [] => .ok ()
  | open_event, next_sequence, event :: events => do
    refuseIf (event.episode_id != episode_id) "transcript event belongs to another episode"
    refuseIf (event.sequence != next_sequence)
      "transcript sequences must be contiguous and monotonic"
    if event.phase = .started then do
      refuseIf open_event.isSome "a transcript cannot start two actions at once"
      is_ordered_single_thread_history thread_id episode_id (some event) next_sequence events
    else
      match open_event, event.step with
      | some started, some step => do
        refuseIf (started.sequence != event.sequence || started.leg ≠ event.leg ||
            started.action_id != event.action_id)
          "terminal event must close its matching started event"
        refuseIf (step.thread_id != thread_id)
          "snapshot thread does not match transcript business thread"
        is_ordered_single_thread_history thread_id episode_id none (next_sequence + 1) events
      | _, _ => .error "terminal event must close its matching started event"

/-- The append-only stream of events of an episode of one incident and thread. -/
structure EpisodeTranscript where
  incident_id : String
  thread_id : String
  episode_id : String
  events : List EpisodeTranscriptEvent
  incident_id_ok : isNonEmpty incident_id = true
  thread_id_ok : isNonEmpty thread_id = true
  episode_id_ok : isEpisodeId episode_id = true
  ordered : is_ordered_single_thread_history thread_id episode_id none 0 events = .ok ()

namespace EpisodeTranscript

variable (t : EpisodeTranscript)

/-- The transcript with one more event, where that validates. -/
def append (event : EpisodeTranscriptEvent) : Option EpisodeTranscript :=
  if h : is_ordered_single_thread_history t.thread_id t.episode_id none 0 (t.events ++ [event]) =
      .ok () then
    some { t with events := t.events ++ [event], ordered := h }
  else none

def terminals (leg : Leg) : List EpisodeTranscriptEvent :=
  t.events.filter fun event => event.phase = .terminal ∧ event.leg = leg

end EpisodeTranscript

/-! ### Authorization -/

/-- One explicit choice of an authorization, with the requester that its factory makes. -/
structure EpisodeAuthorizationChoice (R : Type) where
  selection_id : String
  requester : R
  request_path : AuthorizationGate
  selection_id_ok : isEpisodeId selection_id = true

/-- What is durable of the authorization of one attempt. -/
structure EpisodeAuthorizationSelection where
  leg : Leg
  leg_index : ℕ
  sequence : ℕ
  selection_id : String
  request_path : AuthorizationGate
  deriving DecidableEq

/-- Whether the requester is a `DurableHumanAuthorization` decides the path where no default is
given. -/
def fallback_path (durable_human : Bool) (default_request_path : Option AuthorizationGate) :
    AuthorizationGate :=
  default_request_path.getD (if durable_human then .DURABLE_HUMAN else .DETERMINISTIC_CONTROL)

/-- `resolve_episode_authorization`, of what the selector chose. -/
def resolve_episode_authorization {R : Type} (fallback : R) (durable_human : R → Bool)
    (choice : Option (EpisodeAuthorizationChoice R)) (leg : Leg) (leg_index sequence : ℕ)
    (default_request_path : Option AuthorizationGate) : EpisodeAuthorizationSelection × R :=
  match choice with
  | none =>
    (⟨leg, leg_index, sequence, "safeguard_default",
      fallback_path (durable_human fallback) default_request_path⟩, fallback)
  | some choice =>
    (⟨leg, leg_index, sequence, choice.selection_id, choice.request_path⟩, choice.requester)

/-! ### The state -/

structure EpisodeSafeguardIdentity where
  evidence_gate : MonitorInputs.GateMode
  policy_gate : MonitorInputs.GateMode
  monitor_gate : MonitorInputs.GateMode
  authorization_gate : AuthorizationGate
  control_approver : Option String
  control_approver_ok : EpisodeOrdering.isText 1 200 control_approver = true
  deriving DecidableEq

/-- `episode_safeguard_identity`, where it validates. -/
def episode_safeguard_identity (s : SafeguardConfiguration) : Option EpisodeSafeguardIdentity :=
  if h : EpisodeOrdering.isText 1 200 s.control_approver = true then
    some ⟨s.evidence_gate, s.policy_gate, s.monitor_gate, s.authorization_gate,
      s.control_approver, h⟩
  else none

structure EpisodeWorkflowState extends WorkflowState where
  episode_transcript : EpisodeTranscript
  episode_max_actions : ℕ
  episode_sequence : ℕ
  episode_termination : Option Termination
  episode_safeguards : EpisodeSafeguardIdentity
  episode_current_leg : Option Leg
  episode_current_action_id : Option String
  episode_authorization_selection : Option EpisodeAuthorizationSelection
  episode_authorization_reached : Bool
  episode_durable_request_started : Bool

/-! ### What the loop asks -/

/-- What a strategy is shown. -/
structure EpisodeStrategyObservation where
  transcript : EpisodeTranscript
  incident : IncidentIdentity
  caller : Caller
  context : ToolCallContext
  records : List EvidenceRecord

/-- A choice to make a fresh proposal. -/
structure EpisodeActionSelection (P : Type) where
  leg : Leg
  action_id : String
  proposer : P

/-- What the loop asks beside its nodes: the strategy, the selector of authorizations, the
requesters that the process holds, what follows a delivery, and the clock for its events. -/
inductive EpisodeQuestion (P R : Type) where
  | strategy (observation : EpisodeStrategyObservation)
  | select (leg : Leg) (leg_index : ℕ)
  | hold_requester (sequence : ℕ) (requester : R)
  | held_requester (sequence : ℕ)
  | post_delivery (leg : Leg) (leg_index : ℕ) (operation : OperationLedgerResult)
  | clock

/-- A process that was restarted holds nothing. -/
@[reducible] def EpisodeQuestion.Answer {P R : Type} : EpisodeQuestion P R → Type
  | strategy _ => Option (EpisodeActionSelection P)
  | select _ _ => Option (EpisodeAuthorizationChoice R)
  | hold_requester _ _ => Unit
  | held_requester _ => Option R
  | post_delivery .. => Unit
  | clock => Time

@[reducible] def Answer {P R : Type} : Question P R ⊕ EpisodeQuestion P R → Type :=
  Either Question.Answer EpisodeQuestion.Answer

abbrev EpisodeWork (P R α : Type) := Script (Question P R ⊕ EpisodeQuestion P R) Answer Raised α

section
variable {P R α : Type}

namespace Ask

abbrev strategy (observation : EpisodeStrategyObservation) :
    EpisodeWork P R (Option (EpisodeActionSelection P)) := .ask (.inr (.strategy observation)) .ret

abbrev select (leg : Leg) (leg_index : ℕ) :
    EpisodeWork P R (Option (EpisodeAuthorizationChoice R)) :=
  .ask (.inr (.select leg leg_index)) .ret

abbrev hold_requester (sequence : ℕ) (requester : R) : EpisodeWork P R Unit :=
  .ask (.inr (.hold_requester sequence requester)) .ret

abbrev held_requester (sequence : ℕ) : EpisodeWork P R (Option R) :=
  .ask (.inr (.held_requester sequence)) .ret

abbrev post_delivery (leg : Leg) (leg_index : ℕ) (operation : OperationLedgerResult) :
    EpisodeWork P R Unit := .ask (.inr (.post_delivery leg leg_index operation)) .ret

abbrev event_clock : EpisodeWork P R Time := .ask (.inr .clock) .ret

end Ask

def valid : Option α → EpisodeWork P R α
  | some a => .ret a
  | none => .raise .ValidationError

/-- A value of the state that the loop itself asks for. -/
def present (message : String) : Option α → EpisodeWork P R α
  | some a => .ret a
  | none => .raise (.ValueError message)

/-- The work of a node of the workflow. -/
abbrev node (p : Work P R α) : EpisodeWork P R α := beside p

/-! ### The nodes of the loop -/

variable (D : WorkflowDependencies P R) (durable_human : R → Bool)
  (expected : EpisodeSafeguardIdentity) (s : EpisodeWorkflowState)

def ensure_safeguards : EpisodeWork P R Unit :=
  node (refuse (s.episode_safeguards ≠ expected)
    (.ValueError "episode safeguards do not match the durable root configuration"))

def episode_leg_index (leg : Leg) : ℕ := (s.episode_transcript.terminals leg).length

def select_requester (leg : Leg) (leg_index sequence : ℕ) :
    EpisodeWork P R (EpisodeAuthorizationSelection × R) := do
  let choice ← Ask.select leg leg_index
  return resolve_episode_authorization D.authorization durable_human choice leg leg_index sequence
    (some D.safeguards.authorization_gate)

/-- The start of a selected action, where its identifier validates. -/
def started_event (t : EpisodeTranscript) (sequence : ℕ) (selection : EpisodeActionSelection P)
    (now : Time) : Option EpisodeTranscriptEvent :=
  if h : isEpisodeId selection.action_id = true then
    some {
      sequence := sequence
      leg := selection.leg
      action_id := selection.action_id
      phase := .started
      step := none
      episode_id := t.episode_id
      «at» := now
      episode_id_ok := t.episode_id_ok
      action_id_ok := h
      phase_ok := by simp
      step_ok := by simp }
  else none

/-- The state with the start of an action and what its proposal came to. -/
def proposed (w : WorkflowState) (t : EpisodeTranscript) (selection : EpisodeActionSelection P) :
    EpisodeWorkflowState :=
  { s with
    toWorkflowState := w
    episode_transcript := t
    episode_current_leg := some selection.leg
    episode_current_action_id := some selection.action_id }

/-- The authorization of an action that was proposed for this incident and thread. -/
def episode_authorize (selection : EpisodeActionSelection P) (action : CanonicalAction)
    (base : EpisodeWorkflowState) : EpisodeWork P R EpisodeWorkflowState := do
  node (refuse (action.thread_id ≠ s.episode_transcript.thread_id ||
      action.incident_id ≠ s.episode_transcript.incident_id)
    (.ValueError "episode proposer returned an action for another business incident"))
  let (fact, requester) ← select_requester D durable_human selection.leg
    (episode_leg_index s selection.leg) s.episode_sequence
  Ask.hold_requester s.episode_sequence requester
  return { base with episode_authorization_selection := some fact }

/-- What becomes of a selected action. -/
def episode_attempt (selection : EpisodeActionSelection P) :
    EpisodeWork P R EpisodeWorkflowState := do
  node (refuse (selection.action_id = "" || 120 < selection.action_id.length)
    (.ValueError "episode action_id must be a bounded identifier"))
  let now ← Ask.event_clock
  let started ← valid (started_event s.episode_transcript s.episode_sequence selection now)
  let durable_transcript ← valid (s.episode_transcript.append started)
  let w ← node (propose_with selection.proposer s.toWorkflowState)
  let base := proposed s w durable_transcript selection
  if w.result.isSome then return base
  else do
    let action ← node (need w.action)
    episode_authorize D durable_human s selection action base

/-- What the strategy selects, of a transcript and the records that were collected. -/
def episode_select : EpisodeWork P R (Option (EpisodeActionSelection P)) := do
  ensure_safeguards expected s
  let records ← present "episode collection did not produce evidence records" s.records
  Ask.strategy ⟨s.episode_transcript, s.incident, s.caller, s.context, records⟩

def episode_propose : EpisodeWork P R EpisodeWorkflowState := do
  match ← episode_select expected s with
  | none => return { s with episode_termination := some .strategy_complete }
  | some selection => episode_attempt D durable_human s selection

/-! ### The terminal record -/

def evaluation_authorization_label : AuthorizationGate → EvaluationAuthorization
  | .DETERMINISTIC_CONTROL => .automatic_evaluation_capability
  | .DURABLE_HUMAN => .deterministic_approver_simulation

/-- The snapshot of an attempt whose proposer emitted no action. -/
def not_produced (thread_id : String) (result : WorkflowResult) : EpisodeStepSnapshot where
  thread_id := thread_id
  proposal_produced := false
  tool_name := none
  arguments_digest := none
  evidence_ids := []
  policy_observed := false
  policy_enforced := false
  policy_consulted := false
  policy_decision := none
  policy_reasons := []
  observed_policy_decision := none
  observed_policy_reasons := []
  evidence_observed := false
  evidence_enforced := false
  evidence_state := none
  evidence_reasons := []
  monitor_reached := false
  monitor_consulted := false
  monitor_verdict := none
  monitor_error_kind := none
  monitor_invocation := none
  monitor_input_hash := none
  authorization_reached := false
  approval_requested := false
  authorization := none
  executed := false
  operation_id := none
  operation_status := none
  redelivered := false
  terminal_state := result.final_state
  refusal_causes := result.reasons

/-- The policy whose decision could have stopped the call. -/
def enforcing (result : WorkflowResult) : Option PolicyOutcome :=
  if D.safeguards.enforces_policy then result.policy else none

/-- The snapshot of an action. -/
def produced (result : WorkflowResult) (action : CanonicalAction) : EpisodeStepSnapshot where
  thread_id := action.thread_id
  proposal_produced := true
  tool_name := some action.tool_name
  arguments_digest := some (MonitorInputs.action_fingerprint action).1
  evidence_ids := result.evidence_ids
  policy_observed := result.policy.isSome
  policy_enforced := (enforcing D result).isSome
  policy_consulted := (enforcing D result).isSome
  policy_decision := (enforcing D result).map (·.decision)
  policy_reasons := ((enforcing D result).map (·.reasons)).getD []
  observed_policy_decision := result.policy.map (·.decision)
  observed_policy_reasons := (result.policy.map (·.reasons)).getD []
  evidence_observed := s.evidence.isSome
  evidence_enforced := D.safeguards.enforces_evidence && s.evidence.isSome
  evidence_state := s.evidence.map (·.state)
  evidence_reasons := (s.evidence.map (·.reasons)).getD []
  monitor_reached := result.policy.any fun policy =>
    D.safeguards.consults_monitor && !(policy.decision = .DENY && D.safeguards.enforces_policy)
  monitor_consulted := result.monitor.isSome || s.monitor_error.isSome
  monitor_verdict := result.monitor.map (·.verdict)
  monitor_error_kind := s.monitor_error
  monitor_invocation := s.monitor_invocation
  monitor_input_hash := s.monitor_input_hash
  authorization_reached := s.episode_authorization_reached
  approval_requested := s.episode_durable_request_started
  authorization := (result.approval.filter (·.decision = .approve)).map fun _ =>
    evaluation_authorization_label ((s.episode_authorization_selection.map (·.request_path)).getD
      D.safeguards.authorization_gate)
  executed := result.operation.isSome
  operation_id := result.operation.map (·.operation_id)
  operation_status := result.operation.map (·.status)
  redelivered := result.operation.any (·.status = .DUPLICATE)
  terminal_state := result.final_state
  refusal_causes := if result.final_state = "blocked" then result.reasons else []

def episode_snapshot (result : WorkflowResult) : EpisodeStepSnapshot :=
  match s.action with
  | none => not_produced s.episode_transcript.thread_id result
  | some action => produced D s result action

/-- The terminal record of a started action, where its snapshot validates. -/
def terminal_event (started : EpisodeTranscriptEvent) (now : Time) (step : EpisodeStepSnapshot) :
    Option EpisodeTranscriptEvent :=
  if h : step.validate = .ok () then
    some { started with
      phase := .terminal
      step := some step
      «at» := now
      phase_ok := by simp
      step_ok := by
        rintro _ ⟨⟩
        exact h }
  else none

/-- The state after a terminal record, before it is asked whether the episode ends. -/
def recorded (t : EpisodeTranscript) : EpisodeWorkflowState :=
  { s with episode_transcript := t, episode_sequence := s.episode_sequence + 1 }

/-- The record of the attempt in the transcript. -/
def episode_terminal : EpisodeWork P R EpisodeWorkflowState := do
  let started ← present "episode terminal record requires a durable started action"
    (s.episode_transcript.events.getLast?.filter (·.phase = .started))
  let now ← Ask.event_clock
  let result ← present "episode terminal record has no result" s.result
  let terminal ← valid (terminal_event started now (episode_snapshot D s result))
  let durable_transcript ← valid (s.episode_transcript.append terminal)
  return recorded s durable_transcript

/-- At the bound of its actions the strategy is asked once more. -/
def episode_end : EpisodeWork P R EpisodeWorkflowState := do
  if s.episode_max_actions ≤ s.episode_sequence then do
    let selection ← Ask.strategy ⟨s.episode_transcript, s.incident, s.caller, s.context,
      s.records.getD []⟩
    return { s with
      episode_termination :=
        some (if selection.isNone then .strategy_complete else .max_actions) }
  else return s

def episode_record : EpisodeWork P R EpisodeWorkflowState := do
  episode_end (← episode_terminal D s)

/-! ### The other nodes -/

/-- Only the incident, the caller, the context and the root of the episode stay. -/
def episode_clear : EpisodeWorkflowState :=
  { s with
    toWorkflowState := fresh s.incident s.context s.caller
    episode_current_leg := none
    episode_current_action_id := none
    episode_authorization_selection := none
    episode_authorization_reached := false
    episode_durable_request_started := false }

def episode_preselection_finish : EpisodeWorkflowState :=
  { s with episode_termination := some .strategy_complete }

def episode_approval_reach : EpisodeWork P R EpisodeWorkflowState := do
  ensure_safeguards expected s
  let selection ← present "episode authorization reach has no durable authorization selection"
    s.episode_authorization_selection
  return { s with
    episode_authorization_reached := true
    episode_durable_request_started := selection.request_path = .DURABLE_HUMAN }

/-- The requester that the process holds for the attempt, or the one that is resolved again. -/
def approval_requester (selection : EpisodeAuthorizationSelection) : EpisodeWork P R R := do
  match ← Ask.held_requester selection.sequence with
  | some requester => return requester
  | none => do
    let (candidate, requester) ← select_requester D durable_human selection.leg
      selection.leg_index selection.sequence
    node (refuse (candidate ≠ selection)
      (.ValueError "episode authorization selection does not match durable root"))
    Ask.hold_requester selection.sequence requester
    return requester

def episode_requester : EpisodeWork P R R := do
  ensure_safeguards expected s
  let selection ← present "episode approval has no durable authorization selection"
    s.episode_authorization_selection
  approval_requester D durable_human selection

def episode_approval : EpisodeWork P R EpisodeWorkflowState := do
  let requester ← episode_requester D durable_human expected s
  let w ← node (approval_with requester s.toWorkflowState)
  return { s with toWorkflowState := w }

def deliver (operation : OperationLedgerResult) : EpisodeWork P R Unit := do
  let leg ← present "episode execution has no selected leg" s.episode_current_leg
  if operation.status = .SUCCEEDED then
    Ask.post_delivery leg (episode_leg_index s leg) operation
  else return ()

def episode_execute : EpisodeWork P R EpisodeWorkflowState := do
  ensure_safeguards expected s
  let operation ← node (execute_call s.toWorkflowState)
  deliver s operation
  let w ← node (execute_record s.toWorkflowState operation)
  return { s with toWorkflowState := w }

/-! ### Shared nodes -/

def shared_node (p : WorkflowState → Work P R WorkflowState) :
    EpisodeWork P R EpisodeWorkflowState := do
  ensure_safeguards expected s
  let w ← node (p s.toWorkflowState)
  return { s with toWorkflowState := w }

def episode_key (action_hash : ActionHash) : UUID :=
  Identities.episode_idempotency_key action_hash s.episode_transcript.thread_id
    s.episode_transcript.episode_id s.episode_sequence

/-- `shared_node`, of the one node whose output is keyed again. -/
def shared_validate : EpisodeWork P R EpisodeWorkflowState := do
  ensure_safeguards expected s
  let output ← node (validate_output D s.toWorkflowState)
  let w := output.update s.toWorkflowState
  match output with
  | .refused .. => return { s with toWorkflowState := w }
  | .judged _ policy =>
    return { s with
      toWorkflowState := { w with idempotency_key := some (episode_key s policy.action_hash) } }

/-! ### The graph -/

/-- The nodes of the workflow, of which the loop has its own proposal, approval and execution, and
the nodes of the loop. -/
inductive EpisodeNode where
  | action (n : Node)
  | episode_approval_reach
  | episode_record
  | episode_clear
  | episode_preselection_finish
  | episode_finish
  deriving DecidableEq

/-- On to a node of the workflow, or to the terminal record at its end. -/
def onward : Option Node → EpisodeNode
  | some n => .action n
  | none => .episode_record

/-- A node with the edges that leave it. -/
def episode_visit :
    EpisodeNode → EpisodeWorkflowState → EpisodeWork P R (Option EpisodeNode × EpisodeWorkflowState)
  | .action .ingest, s => do
    let s ← shared_node expected s ingest
    return (some (if s.result.isSome then .episode_preselection_finish else .action .collect), s)
  | .action .collect, s => do return (some (.action .propose), ← shared_node expected s collect)
  | .action .propose, s => do
    let s ← episode_propose D durable_human expected s
    return (some (if s.episode_termination.isSome then .episode_finish
      else if s.result.isSome then .episode_record else .action .validate), s)
  | .action .validate, s => do return (some (.action .monitor), ← shared_validate D expected s)
  | .action .monitor, s => do
    let s ← shared_node expected s (monitor D)
    let route ← node (after_monitor D s.toWorkflowState)
    return (some (onward route.target), s)
  | .action .deny, s => do return (some .episode_record, ← shared_node expected s deny)
  | .action .blocked, s => do return (some .episode_record, ← shared_node expected s blocked)
  | .action .monitor_mismatch, s => do
    return (some .episode_record, ← shared_node expected s monitor_mismatch)
  | .action .monitor_error, s => do
    return (some .episode_record, ← shared_node expected s monitor_error_terminal)
  | .action .preapproval_audit, s => do
    return (some .episode_approval_reach, ← shared_node expected s preapproval_audit)
  | .episode_approval_reach, s => do
    return (some (.action .approval), ← episode_approval_reach expected s)
  | .action .approval, s => do
    let s ← episode_approval D durable_human expected s
    return (some (if s.result.isSome then .episode_record else .action .execute), s)
  | .action .execute, s => do return (some (.action .verify), ← episode_execute expected s)
  | .action .verify, s => do return (some .episode_record, ← shared_node expected s verify)
  | .episode_record, s => do
    let s ← episode_record D s
    return (some (if s.episode_termination.isSome then .episode_finish else .episode_clear), s)
  | .episode_clear, s => return (some (.action .collect), episode_clear s)
  | .episode_preselection_finish, s =>
    return (some .episode_finish, episode_preselection_finish s)
  | .episode_finish, s => return (none, s)

/-- The loop, bound to the identity of some safeguards. -/
def episode_workflow :
    Graph EpisodeNode EpisodeWorkflowState (Answer (P := P) (R := R)) Raised where
  start := .action .ingest
  visit := episode_visit D durable_human expected

/-- The loop is built bound to its own safeguards. -/
def build_episode_workflow_graph :
    Option (Graph EpisodeNode EpisodeWorkflowState (Answer (P := P) (R := R)) Raised) :=
  (episode_safeguard_identity D.safeguards).map
    (episode_workflow D durable_human)

end

/-! ### The runtime -/

inductive RuntimeRaised where
  | PermissionError (message : String)
  | ValueError (message : String)

/-- What `EpisodeRuntime.start_episode` starts the graph on. -/
def start_episode (expected : EpisodeSafeguardIdentity) (incident : IncidentIdentity)
    (operator : Caller) (context : ToolCallContext) (transcript : EpisodeTranscript)
    (max_actions : ℕ) : Except RuntimeRaised EpisodeWorkflowState :=
  if operator.role ≠ .OPERATOR then
    .error (.PermissionError "episode runtime start requires an authenticated operator")
  else if context.idempotency_key.isSome then
    .error (.ValueError "caller-chosen idempotency keys are not accepted")
  else if transcript.events ≠ [] then
    .error (.ValueError "new episode transcripts must be empty root history")
  else if transcript.incident_id ≠ incident.incident_id ||
      transcript.thread_id ≠ incident.thread_id then
    .error (.ValueError "episode transcript does not bind the root incident/thread")
  else if !(1 ≤ max_actions && max_actions ≤ 1000) then
    .error (.ValueError "episode max_actions must be between 1 and 1000")
  else
    .ok {
      toWorkflowState := fresh incident context operator
      episode_transcript := transcript
      episode_max_actions := max_actions
      episode_sequence := (transcript.events.filter (·.phase = .terminal)).length
      episode_termination := none
      episode_safeguards := expected
      episode_current_leg := none
      episode_current_action_id := none
      episode_authorization_selection := none
      episode_authorization_reached := false
      episode_durable_request_started := false }

/-- The requesters that `EpisodeRuntime.resume_episode` hands the graph, of what the selector
chooses for the durable selection. -/
def resume_episode {R : Type} (expected : EpisodeSafeguardIdentity) (fallback : R)
    (durable_human : R → Bool) (selector : Leg → ℕ → Option (EpisodeAuthorizationChoice R))
    (s : EpisodeWorkflowState) : Except RuntimeRaised (List (ℕ × R)) :=
  if s.episode_safeguards ≠ expected then
    .error (.ValueError "episode safeguards do not match the durable root configuration")
  else
    match s.episode_authorization_selection with
    | none => .ok []
    | some selection =>
      let resolved := resolve_episode_authorization fallback durable_human
        (selector selection.leg selection.leg_index) selection.leg selection.leg_index
        selection.sequence none
      if resolved.1 ≠ selection then
        .error (.ValueError "episode authorization selection does not match durable root")
      else .ok [(selection.sequence, resolved.2)]

end IncidentGate.EpisodeGraph
