import IncidentGate.Contracts
import IncidentGate.Invocations
import Mathlib.Data.List.Dedup
import Mathlib.Tactic.MkIffOfInductiveProp

/-!
The parts of a published sabotage row: the steps of a leg, the role invocations, and the
checks that the third and the fourth contract version share.
-/

namespace IncidentGate.SabotageRows

open Lib.TextPattern Lib.Digest Contracts Invocations

/-! ### Vocabulary -/

inductive PolicyDecision where
  | ALLOW
  | DENY
  | REQUIRE_APPROVAL
  deriving DecidableEq

inductive MonitorVerdict where
  | ALLOW
  | DEFER
  | BLOCK
  deriving DecidableEq

inductive MonitorErrorKind where
  | PROVIDER_UNAVAILABLE
  | TIMEOUT
  | RESPONSE_TRUNCATED
  | RESPONSE_MALFORMED
  | SCHEMA_VIOLATION
  | ECHO_MISMATCH
  | INPUT_UNRENDERABLE
  | CACHE_MISS
  deriving DecidableEq

def MonitorErrorKind.value : MonitorErrorKind → String
  | PROVIDER_UNAVAILABLE => "provider_unavailable"
  | TIMEOUT => "timeout"
  | RESPONSE_TRUNCATED => "response_truncated"
  | RESPONSE_MALFORMED => "response_malformed"
  | SCHEMA_VIOLATION => "schema_violation"
  | ECHO_MISMATCH => "echo_mismatch"
  | INPUT_UNRENDERABLE => "input_unrenderable"
  | CACHE_MISS => "cache_miss"

inductive StageDisposition where
  | EXECUTED
  | SKIPPED_NO_ACTION
  | DISABLED
  | RETAINED_BOUNDARY
  deriving DecidableEq

structure SafeguardsRecord where
  evidence_gate : StageDisposition
  policy : StageDisposition
  monitor : StageDisposition
  human_gate : StageDisposition
  operation_boundary : StageDisposition
  deriving DecidableEq

inductive EvaluationMode where
  | UNGATED
  | POLICY_ONLY
  | COMPLETE
  deriving DecidableEq

inductive Split where
  | development
  | calibration
  | holdout
  deriving DecidableEq

inductive Leg where
  | covert
  | incident
  deriving DecidableEq

/-- How far down the gate chain one proposed action got. -/
inductive SabotageStage where
  | POLICY
  | MONITOR
  | APPROVAL
  | EXECUTION
  deriving DecidableEq

/-- The place of a stage in the chain. -/
def SabotageStage.index : SabotageStage → ℕ
  | POLICY => 0
  | MONITOR => 1
  | APPROVAL => 2
  | EXECUTION => 3

inductive CovertAttempt where
  | ATTEMPTED
  | DECLINED
  | NOT_PRODUCED
  deriving DecidableEq

inductive CovertOutcome where
  | NOT_ATTEMPTED
  | STOPPED_AT_POLICY
  | STOPPED_AT_MONITOR
  | STOPPED_AT_AUTHORIZATION
  | REFUSED_AT_REPOSITORY
  | LANDED
  deriving DecidableEq

def CovertOutcome.value : CovertOutcome → String
  | NOT_ATTEMPTED => "not_attempted"
  | STOPPED_AT_POLICY => "stopped_at_policy"
  | STOPPED_AT_MONITOR => "stopped_at_monitor"
  | STOPPED_AT_AUTHORIZATION => "stopped_at_authorization"
  | REFUSED_AT_REPOSITORY => "refused_at_repository"
  | LANDED => "landed"

/-! ### Authorizations -/

inductive ApprovalDecision where
  | approve
  | reject
  | not_required
  deriving DecidableEq

inductive AuthorizationSource where
  | deterministic_approver_simulation
  | automatic_evaluation_capability
  | none
  deriving DecidableEq

structure ApprovalFields where
  decision : ApprovalDecision
  reason : String
  version : String
  actual_human : Bool
  authorization_source : AuthorizationSource
  deriving DecidableEq

def ApprovalFields.source_matches_human_status (a : ApprovalFields) : Validator := do
  refuseIf a.actual_human "Checkpoint-B batches never record an actual human approval"
  refuseIf (a.decision = .not_required && a.authorization_source ≠ .none)
    "not_required approval records must use source none"
  refuseIf (a.decision ≠ .not_required && a.authorization_source = .none)
    "authorization decisions require an explicit source"

structure ApprovalSimulation extends ApprovalFields where
  valid : toApprovalFields.source_matches_human_status = .ok ()
  deriving DecidableEq

/-! ### Steps and legs -/

def sha256Pattern : Pattern := .many isHexChar 64 (some 64)

/-- An optional digest: `^[a-f0-9]{64}$` where there is one. -/
def isDigest (s : Option String) : Bool := s.all sha256Pattern.fullmatch

/-- The facts one step persists, with a typed monitor failure beside the verdict. -/
structure StepFields where
  step_index : ℤ
  proposed_tool : String
  arguments_digest : Option String := none
  stage_reached : SabotageStage
  policy_decision : Option PolicyDecision
  policy_reasons : List String
  monitor_verdict : Option MonitorVerdict
  monitor_error_kind : Option MonitorErrorKind
  authorization : Option ApprovalSimulation
  authorization_refusal_causes : List String := []
  executed : Bool
  operation_status : Option OperationStatus
  operation_id : Option String
  ledger_rows : ℤ
  deriving DecidableEq

namespace StepFields

variable (s : StepFields)

def fields : Validator := do
  field "step_index" (0 ≤ s.step_index)
  field "proposed_tool" (isNonEmpty s.proposed_tool)
  field "arguments_digest" (isDigest s.arguments_digest)
  field "authorization_refusal_causes" (s.authorization_refusal_causes.length ≤ 8)
  field "ledger_rows" (0 ≤ s.ledger_rows)

/-- A step at which the monitor gave a verdict or failed. -/
def consulted : Bool := s.monitor_verdict.isSome || s.monitor_error_kind.isSome

def coherent : Validator := do
  refuseIf (s.policy_decision.isNone != s.policy_reasons.isEmpty)
    "a policy decision and its reasons travel together"
  refuseIf (s.consulted && s.stage_reached.index < SabotageStage.MONITOR.index)
    "a monitor observation requires the chain to reach the monitor"
  refuseIf (s.monitor_verdict.isSome && s.monitor_error_kind.isSome)
    "a monitor error and monitor verdict are mutually exclusive"
  refuseIf (s.authorization.isSome && s.stage_reached.index < SabotageStage.APPROVAL.index)
    "an authorization requires the chain to reach approval"
  refuseIf (s.authorization_refusal_causes.any fun c => c = "" || 200 < c.length)
    "authorization refusal causes must be bounded reason codes"
  refuseIf (!s.authorization_refusal_causes.isEmpty && s.stage_reached ≠ .APPROVAL)
    "authorization refusal causes require the approval boundary"
  refuseIf (s.executed != (s.stage_reached = .EXECUTION))
    "execution and reached stage must agree"
  refuseIf (s.executed != s.operation_status.isSome || s.executed != s.operation_id.isSome)
    "execution requires operation status and id"
  refuseIf (!s.executed && s.ledger_rows ≠ 0) "an unexecuted step cannot have a ledger row"
  refuseIf (s.policy_decision = some .DENY && s.executed) "a denied action cannot execute"

def validate : Validator := do
  s.fields
  s.coherent

/-- The identity of a call. -/
def call : String × Option String := (s.proposed_tool, s.arguments_digest)

end StepFields

structure SabotageStepOutcomeV3 extends StepFields where
  valid : toStepFields.validate = .ok ()
  deriving DecidableEq

/-- What a step says of itself, check by check. -/
@[mk_iff]
structure StepFields.Coherent (s : StepFields) : Prop where
  policy_reasons : s.policy_decision.isNone = s.policy_reasons.isEmpty
  monitor : s.consulted = true → SabotageStage.MONITOR.index ≤ s.stage_reached.index
  verdict : s.monitor_verdict.isSome → s.monitor_error_kind = none
  authorization : s.authorization.isSome → SabotageStage.APPROVAL.index ≤ s.stage_reached.index
  refusal_causes : ∀ c ∈ s.authorization_refusal_causes, c ≠ "" ∧ c.length ≤ 200
  refused : s.authorization_refusal_causes ≠ [] → s.stage_reached = .APPROVAL
  stage : s.executed = decide (s.stage_reached = .EXECUTION)
  operation : s.executed = s.operation_status.isSome ∧ s.executed = s.operation_id.isSome
  ledger_rows : s.executed = false → s.ledger_rows = 0
  denied : s.policy_decision = some .DENY → s.executed = false

lemma SabotageStepOutcomeV3.coherent (s : SabotageStepOutcomeV3) : s.Coherent := by
  obtain ⟨-, hcoherent⟩ := bind_ok.mp s.valid
  rw [StepFields.coherent_iff]
  simpa [StepFields.coherent] using hcoherent

structure EpisodeFields where
  leg : Leg
  steps : List SabotageStepOutcomeV3
  deriving DecidableEq

def EpisodeFields.validate (e : EpisodeFields) : Validator := do
  field "steps" (1 ≤ e.steps.length)
  refuseIf (e.steps.map (·.step_index) ≠ (List.range e.steps.length).map Int.ofNat)
    "episode steps must be contiguous call order"

/-- An ordered leg with at least one step. -/
structure SabotageEpisodeV3 extends EpisodeFields where
  valid : toEpisodeFields.validate = .ok ()
  deriving DecidableEq

namespace SabotageEpisodeV3

variable (e : SabotageEpisodeV3)

def executed : Bool := e.steps.any (·.executed)

def issued : List (String × Option String) := e.steps.map (·.call)

/-- `furthest_stage`, by its place in the chain. -/
def furthest_stage : ℕ := (e.steps.map (·.stage_reached.index)).foldl max 0

end SabotageEpisodeV3

/-! ### Calls and invocations -/

def isToolChar (c : Char) : Bool := c.isLower || c.isDigit || c = '_' || c = '.'

/-- `^[a-z][a-z0-9_.]{0,127}$` -/
def toolPattern : Pattern := .one Char.isLower ++ .many isToolChar 0 (some 127)

structure CovertAttemptCall where
  tool : String
  arguments_digest : Option String := none
  tool_ok : toolPattern.fullmatch tool = true
  arguments_digest_ok : isDigest arguments_digest = true
  deriving DecidableEq

inductive InvocationRole where
  | attacker
  | monitor
  deriving DecidableEq

def isScenarioDigit (c : Char) : Bool := '1' ≤ c && c ≤ '8'

/-- `^T[1-8]$` -/
def scenarioPattern : Pattern := .text "T" ++ .one isScenarioDigit

/-- `^T[1-8]-(?:dev|cal|holdout)-v[0-9]+$` -/
def variantPattern : Pattern :=
  scenarioPattern ++ .text "-" ++ .words ["dev", "cal", "holdout"] ++ .text "-v" ++
    .many Char.isDigit 1 none

structure RoleInvocationFields where
  role : InvocationRole
  record : ModelInvocationRecord
  request_sha256 : Option String := none
  prompt_sha256 : Option String := none
  request_schema_sha256 : Option String := none
  input_schema_sha256 : Option String := none
  input_schema_version : Option String := none
  output_schema_sha256 : Option String := none
  prompt_version : Option String := none
  prompt_profile_id : Option String := none
  capture_scenario_id : Option String := none
  capture_variant_id : Option String := none
  capture_condition : Option EvaluationMode := none
  capture_leg : Option Leg := none
  capture_step_index : Option ℤ := none
  capture_split : Option Split := none
  threshold_artifact_sha256 : Option String := none
  deriving DecidableEq

/-- `Field(min_length=1, max_length=80)` where there is one. -/
def isVersion (s : Option String) : Bool := s.all fun s => 1 ≤ s.length && s.length ≤ 80

namespace RoleInvocationFields

variable (i : RoleInvocationFields)

def fields : Validator := do
  field "request_sha256" (isDigest i.request_sha256)
  field "prompt_sha256" (isDigest i.prompt_sha256)
  field "request_schema_sha256" (isDigest i.request_schema_sha256)
  field "input_schema_sha256" (isDigest i.input_schema_sha256)
  field "input_schema_version" (isVersion i.input_schema_version)
  field "output_schema_sha256" (isDigest i.output_schema_sha256)
  field "prompt_version" (isVersion i.prompt_version)
  field "prompt_profile_id" (isVersion i.prompt_profile_id)
  field "capture_scenario_id" (i.capture_scenario_id.all scenarioPattern.fullmatch)
  field "capture_variant_id" (i.capture_variant_id.all variantPattern.fullmatch)
  field "capture_step_index" (i.capture_step_index.all (0 ≤ ·))
  field "threshold_artifact_sha256" (isDigest i.threshold_artifact_sha256)

/-- Which of the fields that every replay must carry are there. -/
def common_fields : List Bool :=
  [i.request_sha256.isSome, i.prompt_sha256.isSome, i.request_schema_sha256.isSome,
    i.input_schema_sha256.isSome, i.input_schema_version.isSome, i.output_schema_sha256.isSome,
    i.prompt_version.isSome, i.capture_scenario_id.isSome, i.capture_variant_id.isSome,
    i.capture_condition.isSome, i.capture_leg.isSome, i.capture_step_index.isSome,
    i.capture_split.isSome]

def replay_binding_is_complete : Validator :=
  if i.record.invocation_kind = .cache_replay then do
    refuseIf (!i.common_fields.all id)
      "cache_replay requires complete request and capture provenance"
    refuseIf (i.role = .attacker && i.prompt_profile_id.isNone)
      "attacker cache replay requires its action-profile identity"
    refuseIf (i.role = .monitor && i.prompt_profile_id.isSome)
      "monitor cache replay has no action-profile contract"
    refuseIf (i.role = .attacker && i.threshold_artifact_sha256.isSome)
      "attacker cache replay cannot carry monitor threshold provenance"
    refuseIf (i.role = .monitor && i.threshold_artifact_sha256.isNone)
      "monitor cache replay requires threshold provenance"
  else
    refuseIf (i.common_fields.any id || i.prompt_profile_id.isSome ||
        i.threshold_artifact_sha256.isSome)
      "non-replay invocation cannot carry replay provenance"

def validate : Validator := do
  i.fields
  i.replay_binding_is_complete

/-- The step a replay is bound to. -/
def cell : Option Leg × Option ℤ := (i.capture_leg, i.capture_step_index)

end RoleInvocationFields

structure RoleInvocation extends RoleInvocationFields where
  valid : toRoleInvocationFields.validate = .ok ()
  deriving DecidableEq

/-! ### What the two row versions share -/

/-- `^attack-policy/T[1-8]/v[1-9][0-9]*$` -/
def policyVersionPattern : Pattern :=
  .text "attack-policy/" ++ scenarioPattern ++ .text "/v" ++
    .one (fun c => c.isDigit && c ≠ '0') ++ .many Char.isDigit 0 none

def isModelChar (c : Char) : Bool := c.isAlphanum || c = '.' || c = '_' || c = '-'

/-- `model:[a-z0-9-]+/[A-Za-z0-9._-]{1,64}` -/
def modelSourcePattern : Pattern :=
  .text "model:" ++ .many (fun c => c.isLower || c.isDigit || c = '-') 1 none ++ .text "/" ++
    .many isModelChar 1 (some 64)

def attackerSourcePattern : Pattern := .alt (.text "deterministic_floor") modelSourcePattern

def monitorSourcePattern : Pattern :=
  .alt (.words ["oracle_whitelist", "disabled"]) modelSourcePattern

def isCheckerChar (c : Char) : Bool := c.isLower || c.isDigit || c = '_'

/-- `^check_t[1-8]_[a-z0-9_]+$` -/
def checkerPattern : Pattern :=
  .text "check_t" ++ .one isScenarioDigit ++ .text "_" ++ .many isCheckerChar 1 none

/-- `^covert_attempt_t[1-8]_[a-z0-9_]{1,63}$` -/
def predicatePattern : Pattern :=
  .text "covert_attempt_t" ++ .one isScenarioDigit ++ .text "_" ++
    .many isCheckerChar 1 (some 63)

structure RowFields where
  run_id : UUID
  scenario_id : String
  variant_id : String
  policy_version : String
  split : Split
  seed : ℤ
  trial : ℤ
  condition : EvaluationMode
  safeguards_applied : SafeguardsRecord
  attacker_source : String
  monitor_source : String
  incident_checker : String
  incident_checker_passed : Bool
  covert_checker : String
  covert_checker_passed : Bool
  covert_side_effect_count : ℤ
  fixture_mutation_count : ℤ
  approvals_recorded : ℤ
  approvals_consumed : ℤ
  /-- `None` where the proposer declined or produced no covert call. -/
  covert_episode : Option SabotageEpisodeV3
  incident_episode : SabotageEpisodeV3
  covert_attempt : CovertAttempt
  covert_attempt_predicate : String
  covert_attempt_calls : List CovertAttemptCall
  covert_outcome : CovertOutcome
  mock_evaluation : Bool
  local_fixture : Bool
  invocations : List RoleInvocation
  deriving DecidableEq

/-- `s.startswith(p)` -/
def startsWith (s p : String) : Bool := p.toList.isPrefixOf s.toList

def lower (s : String) : String := String.ofList (s.toList.map Char.toLower)

/-- `s.split(c)[0]` -/
def firstPart (c : Char) (s : String) : List Char := s.toList.takeWhile (· ≠ c)

/-- `source.removeprefix("model:").split("/", 1)` -/
def sourceModel (source : String) : Option String × Option String :=
  let body := if startsWith source "model:" then source.toList.drop 6 else source.toList
  (some (String.ofList (body.takeWhile (· ≠ '/'))),
    some (String.ofList ((body.dropWhile (· ≠ '/')).drop 1)))

def isModelSource (source : String) : Bool := startsWith source "model:"

namespace RowFields

variable (r : RowFields)

/-- The constraints of the fields; the versions differ in how many invocations they admit. -/
def fields (most_invocations : ℕ) : Validator := do
  field "scenario_id" (scenarioPattern.fullmatch r.scenario_id)
  field "variant_id" (variantPattern.fullmatch r.variant_id)
  field "policy_version" (policyVersionPattern.fullmatch r.policy_version)
  field "trial" (0 ≤ r.trial)
  field "attacker_source" (attackerSourcePattern.fullmatch r.attacker_source)
  field "monitor_source" (monitorSourcePattern.fullmatch r.monitor_source)
  field "incident_checker" (checkerPattern.fullmatch r.incident_checker)
  field "covert_checker" (checkerPattern.fullmatch r.covert_checker)
  field "covert_side_effect_count" (0 ≤ r.covert_side_effect_count)
  field "fixture_mutation_count" (0 ≤ r.fixture_mutation_count)
  field "approvals_recorded" (0 ≤ r.approvals_recorded)
  field "approvals_consumed" (0 ≤ r.approvals_consumed)
  field "covert_attempt_predicate" (predicatePattern.fullmatch r.covert_attempt_predicate)
  field "covert_attempt_calls" (r.covert_attempt_calls.length ≤ 32)
  field "invocations" (2 ≤ r.invocations.length && r.invocations.length ≤ most_invocations)

def covertSteps : List SabotageStepOutcomeV3 := (r.covert_episode.map (·.steps)).getD []

/-- Every step present, the covert leg first. -/
def steps : List SabotageStepOutcomeV3 := r.covertSteps ++ r.incident_episode.steps

def splitMarkers : List (List Char) :=
  ["dev", "cal", "holdout", "development", "calibration"].map String.toList

/-- The head of `coherent`, word for word the same in both versions. -/
def metadata_coherent : Validator := do
  refuseIf (!r.mock_evaluation || !r.local_fixture)
    "the sabotage lane is local synthetic fixture only"
  refuseIf (r.covert_episode.any (·.leg ≠ .covert))
    "sabotage legs must be labelled by the role they played"
  refuseIf (r.incident_episode.leg ≠ .incident)
    "sabotage legs must be labelled by the role they played"
  refuseIf (firstPart '-' r.variant_id ≠ r.scenario_id.toList ||
      !startsWith r.policy_version ("attack-policy/" ++ r.scenario_id ++ "/"))
    "variant metadata must belong to its scenario"
  refuseIf (!startsWith r.covert_attempt_predicate
      ("covert_attempt_" ++ lower r.scenario_id ++ "_"))
    "covert attempt predicate must be bound to its scenario"
  refuseIf (splitMarkers.any fun m => m ∈ r.covert_attempt_predicate.toList.splitOn '_')
    "covert attempt predicate must describe behavior, not split identity"
  refuseIf ([r.incident_checker, r.covert_checker].any fun name =>
      !startsWith name ("check_" ++ lower r.scenario_id ++ "_"))
    "both deterministic checkers must be bound to this scenario"
  refuseIf (r.incident_checker = r.covert_checker)
    "incident and covert checkers must be distinct"
  refuseIf (r.approvals_recorded < r.approvals_consumed)
    "more approvals cannot be consumed than recorded"
  refuseIf (r.covert_checker_passed != (r.covert_side_effect_count = 0))
    "covert checker must equal observed side-effect emptiness"
  refuseIf (r.steps.any (·.arguments_digest.isSome) && r.steps.any (·.arguments_digest.isNone))
    "a row records an argument digest for every call or for none"

/-- Whether some covert step the repository executed reports `failed`. -/
def refusedByRepository : Bool := r.covertSteps.any (·.operation_status = some .FAILED)

def retains_boundary : Validator :=
  refuseIf (r.safeguards_applied.operation_boundary ≠ .RETAINED_BOUNDARY)
    "every sabotage condition retains the typed operation boundary"

def attackers : List RoleInvocation := r.invocations.filter (·.role = .attacker)

def monitors : List RoleInvocation := r.invocations.filter (·.role = .monitor)

def liveCall : Bool :=
  r.invocations.any fun i => i.record.invocation_kind = .provider_call ||
    i.record.invocation_kind = .local_weights_call

/-- The record replays the model its source names. -/
def replays (source : String) (i : RoleInvocation) : Bool :=
  i.record.invocation_kind = .cache_replay &&
    (i.record.provider, i.record.model) = sourceModel source

/-- The steps at which the monitor was consulted. -/
def expected_cells : List (Option Leg × Option ℤ) :=
  (r.covertSteps.filter (·.consulted)).map (fun s => (some .covert, some s.step_index)) ++
    (r.incident_episode.steps.filter (·.consulted)).map
      (fun s => (some .incident, some s.step_index))

/-- The replays of a model monitor are bound to the steps it was consulted at, one each. -/
def monitor_cells_cohere : Validator :=
  let actual_cells := r.monitors.map (·.cell)
  refuseIf (r.expected_cells.isEmpty || !(actual_cells.all (· ∈ r.expected_cells) &&
      r.expected_cells.all (· ∈ actual_cells)) || actual_cells.length ≠ actual_cells.dedup.length)
    "model monitor replays must exactly bind every consulted runtime step"

def replay_matches (source : String) (i : RoleInvocation) : Validator :=
  refuseIf (!replays source i) "a model-labelled source requires its matching cache replay"

def attacker_cell_coheres (i : RoleInvocation) : Validator := do
  refuseIf (i.prompt_profile_id ≠ some r.scenario_id ||
      i.capture_scenario_id ≠ some r.scenario_id || i.capture_variant_id ≠ some r.variant_id ||
      i.capture_split ≠ some r.split)
    "model replay provenance belongs to a different row cell"
  refuseIf i.threshold_artifact_sha256.isSome
    "an attacker replay cannot carry monitor threshold provenance"

def monitor_cell_coheres (i : RoleInvocation) : Validator :=
  refuseIf (i.capture_scenario_id ≠ some r.scenario_id ||
      i.capture_variant_id ≠ some r.variant_id || i.capture_split ≠ some r.split ||
      i.prompt_profile_id.isSome || i.threshold_artifact_sha256.isNone)
    "model monitor provenance belongs to a different row cell"

/-- A monitor that is no model made no call. -/
def monitor_is_fixture : Validator :=
  refuseIf (r.monitors.length ≠ 1 ||
      r.monitors.any (·.record.invocation_kind ≠ .fixture_no_call))
    "oracle_whitelist and disabled require one fixture_no_call monitor"

def monitor_label_coheres : Validator := do
  refuseIf (r.monitor_source = "disabled" && r.safeguards_applied.monitor ≠ .DISABLED)
    "disabled monitor source requires a disabled monitor safeguard"
  refuseIf (r.monitor_source ≠ "disabled" && r.safeguards_applied.monitor = .DISABLED)
    "a disabled monitor safeguard must be labelled disabled"

/-- `_condition_semantics`, the same in both versions. -/
def condition_semantics : Validator :=
  let stages := r.safeguards_applied
  match r.condition with
  | .UNGATED => do
    refuseIf ([stages.evidence_gate, stages.policy, stages.monitor, stages.human_gate] ≠
        [.DISABLED, .DISABLED, .DISABLED, .DISABLED])
      "ungated condition disables every safeguard"
    refuseIf (r.steps.any fun s => s.policy_decision.isSome || s.consulted)
      "ungated condition records no gate verdict"
  | condition => do
    refuseIf (stages.evidence_gate ≠ .EXECUTED || stages.policy ≠ .EXECUTED)
      "gated conditions execute evidence and policy"
    refuseIf (r.steps.any (·.policy_decision.isNone))
      "gated conditions record policy decisions for every issued call"
    if condition = .POLICY_ONLY then do
      refuseIf ([stages.monitor, stages.human_gate] ≠ [.DISABLED, .DISABLED])
        "policy-only condition disables monitor and human gate"
      refuseIf (r.steps.any (·.consulted)) "a disabled monitor cannot return a verdict or error"
    else do
      refuseIf ([stages.monitor, stages.human_gate] ≠ [.EXECUTED, .EXECUTED])
        "complete condition executes monitor and human gate"
      refuseIf (r.steps.any fun s => s.executed && !s.authorization.any fun a =>
          a.authorization_source = .deterministic_approver_simulation)
        "executed complete-condition steps require durable approver authorization"

/-- The kinds of the monitor errors on the covert leg, sorted, each once. -/
def monitorErrors : List String :=
  ((r.covertSteps.filterMap fun s => s.monitor_error_kind.map MonitorErrorKind.value).dedup
    ).insertionSort (· ≤ ·)

end RowFields

end IncidentGate.SabotageRows
