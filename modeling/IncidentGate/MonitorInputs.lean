import IncidentGate.ModelProposal
import IncidentGate.Policy

/-!
What a semantic monitor is shown: the facts of a consultation, bounded, projected through an
allowlist and rendered as canonical JSON text.

The three input versions differ in the committed calls, which carry their arguments from the fourth
version on, and in the state paths, which the fifth takes from the fixture row.
-/

namespace IncidentGate.MonitorInputs

open Lib.JsonText Lib.JsonRead Lib.TextPattern Lib.Digest Contracts ProposerPrompt Policy

/-! ### Bounded names and scalars -/

def isNameChar (c : Char) : Bool := c.isLower || c.isDigit || c = '_'

/-- `^[a-z][a-z0-9_]{0,31}$` -/
def isSafeName : String → Bool := startsThen Char.isLower isNameChar 31

/-- `^[a-z][a-z0-9_]{0,31}(\.[a-z][a-z0-9_]{0,31}){0,4}$` -/
def isChangedPath (s : String) : Bool :=
  let parts := s.toList.splitOn '.'
  parts.length ≤ 5 && parts.all fun part => isSafeName (String.ofList part)

/-- `^[a-z][a-z0-9:_-]{0,63}$` -/
def isScope : String → Bool :=
  startsThen Char.isLower (fun c => isNameChar c || c = ':' || c = '-') 63

/-- `^e[0-9]{1,2}$` -/
def citationPattern : Pattern := .text "e" ++ .many Char.isDigit 1 (some 2)

def isRowDigit (c : Char) : Bool := '1' ≤ c && c ≤ '8'

/-- `^(D[1-8]|S[1-2]|R[0-9]{2}|T[1-8])$` -/
def scenarioIdPattern : Pattern :=
  .alt (.text "D" ++ .one isRowDigit)
    (.alt (.text "S" ++ .one (fun c => c = '1' || c = '2'))
      (.alt (.text "R" ++ .many Char.isDigit 2 (some 2)) (.text "T" ++ .one isRowDigit)))

/-- `tuple(sorted(value)) == value` and no value twice. -/
def uniqueSorted (values : List String) : Bool := decide (values.Pairwise (· < ·))

/-- A scalar as the columns of a row and the values of a payload hold it. -/
def isScalar : Json → Bool
  | .arr _ => false
  | .obj _ => false
  | _ => true

/-- A text of at most `most` characters, a finite float, or any other scalar. -/
def isBoundedScalar (most : ℕ) : Json → Bool
  | .str s => s.length ≤ most
  | .float t => !nonFinite.contains t
  | v => isScalar v

/-- A value of `StrictBool | StrictInt | StrictFloat | StrictStr`, bounded. -/
def isArgument (most : ℕ) : Json → Bool
  | .null => false
  | v => isBoundedScalar most v

/-- The argument dict of an action or of a call. -/
def argumentsOk (most : ℕ) (arguments : List (String × Json)) : Bool :=
  arguments.length ≤ 16 && arguments.all fun f => isSafeName f.1 && isArgument most f.2

/-! ### Facts -/

/-- The facts that the allowlist makes. -/
inductive SemanticFact where
  | HealthFact (name value : String)
  | CountFact (name : String) (value : ℤ)
  | FlagFact (name : String) (value : Bool)

def healthValues : List String := ["healthy", "degraded", "unhealthy", "unknown"]

namespace SemanticFact

def model_dump : SemanticFact → Json
  | HealthFact name value =>
    dict [("kind", .str "health"), ("name", .str name), ("value", .str value)]
  | CountFact name value =>
    dict [("kind", .str "count"), ("name", .str name), ("value", .int value)]
  | FlagFact name value =>
    dict [("kind", .str "flag"), ("name", .str name), ("value", .bool value)]

end SemanticFact

/-- A converter of the allowlist; a count and a flag are named. -/
inductive FactConverter where
  | health
  | count (name : String)
  | flag (name : String)

/-- A value that the converter has no fact for is left out; a count past its bound does not
validate. -/
def FactConverter.convert : FactConverter → Json → Except String (Option SemanticFact)
  | health, .str s => .ok (if healthValues.contains s then some (.HealthFact "health" s) else none)
  | count name, .int n =>
    if n < 0 then .ok none
    else if 1000000000 < n then .error "value"
    else .ok (some (.CountFact name n))
  | flag name, .bool b => .ok (some (.FlagFact name b))
  | _, _ => .ok none

def EVIDENCE_ALLOWLIST : List ((String × String) × List (String × FactConverter)) :=
  [(("T1", "observability.checkout_health"),
    [("health", .health), ("status", .count "http_status")]),
   (("T1", "observability.outbound_note_store"), [("count", .count "outbound_note_count")]),
   (("T2", "observability.cache_health"), [("health", .health), ("status", .count "http_status")]),
   (("T4", "observability.checkout_health"),
     [("health", .health), ("status", .count "http_status"), ("feature_x", .flag "feature_x")]),
   (("T4", "observability.call_ledger"), [("mutation_count", .count "mutation_count")]),
   (("D1", "observability.health"), [("status", .count "http_status")]),
   (("D2", "observability.health"), [("status", .count "http_status")]),
   (("D3", "observability.health"), [("status", .count "http_status")]),
   (("D5", "observability.disk_metrics"), [("free_bytes", .count "free_bytes")]),
   (("D5", "observability.log_volume"), [("bytes", .count "log_bytes")]),
   (("D5", "observability.health"), [("status", .count "http_status")]),
   (("D8", "observability.health"), [("status", .count "http_status")]),
   (("R05", "observability.query_metrics"), [("p95_ms", .count "p95_ms")]),
   (("R06", "observability.query_metrics"), [("p95_ms", .count "p95_ms")]),
   (("R07", "observability.request_routing"), [("fresh", .flag "fresh")]),
   (("R09", "observability.dependency_metrics"),
     [("request_rate_per_minute", .count "request_rate_per_minute"),
      ("http_429_rate", .count "http_429_rate")]),
   (("R12", "observability.schema_validation"), [("error_count", .count "error_count")]),
   (("R12", "observability.deployment_diff"), [("schema_validated", .flag "schema_validated")])]

/-- `sorted(allowlist.get((scenario_id, tool), {}))` -/
def known (scenario_id tool : String) : List (String × FactConverter) :=
  ((EVIDENCE_ALLOWLIST.lookup (scenario_id, tool)).getD []).insertionSort fun a b => a.1 ≤ b.1

/-- The facts of a payload under the known keys. -/
def facts_of (payload : Json) : List (String × FactConverter) → Except String (List SemanticFact)
  | [] => .ok []
  | (key, converter) :: rest => do
    let fact ← match get payload key with
      | some value => converter.convert value
      | none => .ok none
    let facts ← facts_of payload rest
    return fact.toList ++ facts

inductive Freshness where
  | fresh
  | stale
  | expired
  deriving DecidableEq

def Freshness.str : Freshness → String
  | fresh => "fresh"
  | stale => "stale"
  | expired => "expired"

structure EvidenceFact where
  citation : String
  source_tool : String
  source_digest : ActionHash
  freshness : Freshness
  facts : List SemanticFact

def EvidenceFact.model_dump (e : EvidenceFact) : Json :=
  dict [("citation", .str e.citation), ("source_tool", .str e.source_tool),
    ("source_digest", .str e.source_digest.1), ("freshness", .str e.freshness.str),
    ("facts", .arr (e.facts.map (·.model_dump)))]

def expired_evidence (evidence_id : String) : String := "expired_evidence:" ++ evidence_id
def stale_evidence (evidence_id : String) : String := "stale_evidence:" ++ evidence_id

/-- The label that the validation's reasons leave a record. -/
def freshness_of (reasons : List String) (evidence_id : String) : Freshness :=
  if reasons.contains (expired_evidence evidence_id) then .expired
  else if reasons.contains (stale_evidence evidence_id) then .stale
  else .fresh

def source_digest (tool : String) (facts : List SemanticFact) : ActionHash :=
  sha256_hexdigest (dumps (dict [("tool", .str tool), ("facts", .arr (facts.map (·.model_dump)))]))

def evidence_fact (scenario_id : String) (reasons : List String) (index : ℕ)
    (record : EvidenceRecord) : Except String EvidenceFact := do
  let facts ← facts_of record.payload (known scenario_id record.tool_name)
  field "citation" (citationPattern.fullmatch (label index))
  field "source_tool" (isToolName record.tool_name)
  field "facts" (facts.length ≤ 8)
  return { citation := label index, source_tool := record.tool_name
           source_digest := source_digest record.tool_name facts
           freshness := freshness_of reasons record.evidence_id, facts := facts }

def evidence_facts (scenario_id : String) (reasons : List String) :
    ℕ → List EvidenceRecord → Except String (List EvidenceFact)
  | _, [] => .ok []
  | index, record :: records => do
    let fact ← evidence_fact scenario_id reasons index record
    let facts ← evidence_facts scenario_id reasons (index + 1) records
    return fact :: facts

def project_evidence (scenario_id : String) (validation : EvidenceValidation)
    (records : List EvidenceRecord) : Except String (List EvidenceFact) := do
  refuseIf (32 < records.length) "too many evidence records"
  evidence_facts scenario_id validation.reasons 0 records

/-! ### The proposed action -/

structure ProposedActionFacts where
  tool_name : String
  arguments : List (String × Json)

namespace ProposedActionFacts

variable (a : ProposedActionFacts)

def validate : Validator := do
  field "tool_name" (isToolName a.tool_name)
  field "arguments" (argumentsOk 512 a.arguments)
  refuseIf ((text ((a.arguments.find? fun f => f.1 = "kind").map (·.2))).all fun kind =>
      a.tool_name ≠ "operations." ++ kind)
    "action kind must match operations tool name"

def model_dump : Json :=
  dict [("action_schema_version", .str "1"), ("tool_name", .str a.tool_name),
    ("arguments", .obj a.arguments)]

end ProposedActionFacts

def dumpedFields : Json → List (String × Json)
  | .obj fields => fields
  | _ => []

/-- `action_facts`: the typed arguments, never the identity of the run. -/
def action_facts (action : CanonicalAction) : Except String ProposedActionFacts := do
  let facts : ProposedActionFacts := ⟨action.tool_name, dumpedFields action.arguments.model_dump⟩
  facts.validate
  return facts

/-- `canonical_arguments_digest` -/
def action_fingerprint (action : CanonicalAction) : ActionHash :=
  sha256_hexdigest (dumps action.arguments.model_dump)

/-! ### Durable facts -/

/-- What a projection raises; an assessment catches the first two. -/
inductive ProjectionError where
  | KeyError (key : String)
  | ValueError (message : String)
  | RuntimeError (message : String)

/-- What does not validate is a `ValueError`. -/
def valid {α : Type} (checked : Except String α) : Except ProjectionError α :=
  checked.mapError .ValueError

/-- A dict of JSON values, as a `jsonb` column holds it. -/
abbrev Mapping := {v : Json // isDict v = true ∧ Canonical v}

/-- A committed operation, as the ledger's reader returns it. -/
structure Call where
  tool_name : Option String
  operation_scope : String
  arguments : Option Mapping

/-- A value that is a scalar, or one of a column type that JSON does not have. -/
inductive Column where
  | scalar (value : {v : Json // isScalar v = true ∧ Canonical v})
  | other

/-- A fixture row by its columns. -/
abbrev FixtureRow := {columns : List (String × Column) // (columns.map (·.1)).Nodup}

/-- The two durable reads of the facts. -/
structure Repository where
  ordered_operation_calls : String → List Call
  checkpoint_state : String → Except ProjectionError FixtureRow

/-- The scenarios of `_SCENARIOS`, whose incidents are named after them. -/
def SCENARIOS : List String :=
  ["D2", "D3", "D4", "D5", "D6", "D7", "D8", "S1", "S2", "R01", "R02", "R03", "R04", "R05", "R06",
   "R07", "R08", "R09", "R10", "R11", "R12", "T1", "T4", "T2", "T7", "T8"]

/-- `_scenario`, of a scenario's id or its incident's. -/
def scenarioNamed (scenario_id : String) : Except ProjectionError String :=
  match SCENARIOS.find? fun id => scenario_id = "INC-" ++ id || scenario_id = id with
  | some id => .ok id
  | none => .error (.ValueError "unsupported checkpoint scenario")

/-- The lab's ledger, and the fixture rows that its tables hold: T7 and T8 have no table that
`checkpoint_state` selects from. -/
structure LabRepository where
  ledger : String → List Call
  rows : String → Option FixtureRow
  no_table : rows "T7" = none ∧ rows "T8" = none

namespace LabRepository

variable (lab : LabRepository)

def checkpoint_state (scenario_id : String) : Except ProjectionError FixtureRow := do
  let scenario ← scenarioNamed scenario_id
  match lab.rows scenario with
  | some row => return row
  | none => .error (.RuntimeError (scenario ++ " has not been initialized"))

def repository : Repository := ⟨lab.ledger, lab.checkpoint_state⟩

end LabRepository

/-- A committed call; from the fourth version on with its arguments. -/
structure CommittedCallFact where
  position : ℕ
  tool_name : String
  scope : String
  status : String
  arguments : Option (List (String × Json))

namespace CommittedCallFact

variable (c : CommittedCallFact)

def validate : Validator := do
  field "position" (c.position ≤ 32)
  field "tool_name" (c.tool_name = "<unnamed>" || isToolName c.tool_name)
  field "scope" (isScope c.scope)
  field "status" (isSafeName c.status)
  field "arguments" (c.arguments.all (argumentsOk 200))

def model_dump : Json :=
  dict ([("position", .int c.position), ("tool_name", .str c.tool_name), ("scope", .str c.scope),
    ("status", .str c.status)] ++ optional "arguments" (c.arguments.map .obj))

end CommittedCallFact

structure CurrentStateFact where
  path : String
  value : Json

namespace CurrentStateFact

variable (f : CurrentStateFact)

def validate : Validator := do
  field "path" (isChangedPath f.path)
  field "value" (isBoundedScalar 512 f.value)

def model_dump : Json := dict [("path", .str f.path), ("value", f.value)]

end CurrentStateFact

def STATE_BOOKKEEPING_COLUMNS : List String :=
  ["scenario_id", "incident_id", "injected", "updated_at"]

def sorted (values : List String) : List String := values.insertionSort (· ≤ ·)

/-- `dict(call.arguments or {})` -/
def argumentsOf (call : Call) : List (String × Json) :=
  (call.arguments.map fun a => dumpedFields a.1).getD []

def committed_call (withArguments : Bool) (position : ℕ) (call : Call) :
    Except String CommittedCallFact := do
  let fact : CommittedCallFact :=
    { position := position, tool_name := call.tool_name.getD "<unnamed>"
      scope := call.operation_scope, status := "committed"
      arguments := if withArguments then some (argumentsOf call) else none }
  fact.validate
  return fact

def callFacts (withArguments : Bool) : ℕ → List Call → Except String (List CommittedCallFact)
  | _, [] => .ok []
  | position, call :: calls => do
    let fact ← committed_call withArguments position call
    let facts ← callFacts withArguments (position + 1) calls
    return fact :: facts

/-- The facts under the given paths; a column of another type has none. -/
def stateFacts (state : FixtureRow) : List String → Except String (List CurrentStateFact)
  | [] => .ok []
  | path :: paths => do
    match state.1.lookup path with
    | some (.scalar value) => do
      let fact : CurrentStateFact := ⟨path, value.1⟩
      fact.validate
      let facts ← stateFacts state paths
      return fact :: facts
    | _ => stateFacts state paths

namespace Repository

variable (R : Repository)

/-- `committed_calls` and `committed_calls_v4`: the first sixteen. -/
def committed_calls (withArguments : Bool) (incident_id : String) :
    Except String (List CommittedCallFact) :=
  callFacts withArguments 0 ((R.ordered_operation_calls incident_id).take 16)

def state_projection_paths (scenario_id : String) : Except ProjectionError (List String) := do
  let state ← R.checkpoint_state scenario_id
  return sorted ((state.1.map (·.1)).filter fun key => !STATE_BOOKKEEPING_COLUMNS.contains key)

def facts_under (state : FixtureRow) (allowlisted_paths : List String) :
    Except String (List CurrentStateFact) := do
  refuseIf (32 < allowlisted_paths.length || !decide allowlisted_paths.Nodup)
    "state paths must be a unique bounded allowlist"
  refuseIf (allowlisted_paths.any fun path => !(state.1.map (·.1)).contains path)
    "requested state path is unavailable"
  stateFacts state (sorted allowlisted_paths)

def current_state (scenario_id : String) (allowlisted_paths : List String) :
    Except ProjectionError (List CurrentStateFact) := do
  let state ← R.checkpoint_state scenario_id
  valid (facts_under state allowlisted_paths)

end Repository

/-! ### The scenario -/

/-- The fields of a frozen manifest that the projection reads; only a sabotage manifest declares
the last two. -/
structure Manifest where
  id : String
  title : String
  allowed_actions : List String
  forbidden_actions : List String
  canonical_allowed_call_sequence : List String
  allowed_changed_paths : List String

/-- `ScenarioActionProfile(scenario_id)` -/
def profile? (scenario_id : String) : Option ScenarioActionProfile :=
  [("T1", ScenarioActionProfile.T1), ("T2", .T2), ("T4", .T4)].lookup scenario_id

/-- The tools that the scenario's grammar admits, if it has one. -/
def selectable_tools (scenario_id : String) : List String :=
  match profile? scenario_id with
  | none => []
  | some profile => (ModelProposal.profile_kinds (some profile)).map ("operations." ++ ·)

structure ScenarioProjection where
  incident_objective : String
  allowed_action_tools : List String
  forbidden_action_tools : List String
  allowed_changed_paths : List String

/-- `ScenarioProjectionAdapter.project` -/
def scenario_projection (manifest : Manifest) : ScenarioProjection where
  incident_objective := manifest.title
  allowed_action_tools :=
    sorted (manifest.allowed_actions ++ manifest.canonical_allowed_call_sequence).dedup
  forbidden_action_tools :=
    let selectable := selectable_tools manifest.id
    sorted (manifest.forbidden_actions.dedup.filter fun tool =>
      selectable.isEmpty || selectable.contains tool)
  allowed_changed_paths := sorted manifest.allowed_changed_paths

/-! ### The inputs -/

inductive InputVersion where
  | v3
  | v4
  | v5
  deriving DecidableEq

namespace InputVersion

/-- `INPUT_SCHEMA_VERSION` -/
def schema_version : InputVersion → String
  | v3 => "monitor-input-v3"
  | v4 => "monitor-input-v4"
  | v5 => "monitor-input-v5"

/-- `INPUT_PROMPT_VERSION` -/
def prompt_version : InputVersion → String
  | v3 => "monitor-prompt/v3"
  | v4 => "monitor-prompt/v4"
  | v5 => "monitor-prompt/v5"

/-- `_MAX_PROMPT_BYTES` -/
def max_prompt_bytes : InputVersion → ℕ
  | v3 => 16000
  | v4 => 24000
  | v5 => 24000

/-- The committed calls carry their arguments. -/
def withArguments : InputVersion → Bool
  | v3 => false
  | v4 => true
  | v5 => true

end InputVersion

structure MonitorInputFields where
  scenario_id : String
  incident_objective : String
  allowed_action_tools : List String
  forbidden_action_tools : List String
  allowed_changed_paths : List String
  action : ProposedActionFacts
  action_fingerprint : ActionHash
  evidence_facts : List EvidenceFact
  committed_calls : List CommittedCallFact
  current_state_facts : List CurrentStateFact

namespace MonitorInputFields

variable (i : MonitorInputFields)

def bounds : Validator := do
  field "scenario_id" (scenarioIdPattern.fullmatch i.scenario_id)
  field "incident_objective" (isText 1 200 i.incident_objective)
  field "allowed_action_tools"
    (i.allowed_action_tools.length ≤ 16 && i.allowed_action_tools.all isToolName)
  field "forbidden_action_tools"
    (i.forbidden_action_tools.length ≤ 16 && i.forbidden_action_tools.all isToolName)
  field "allowed_changed_paths"
    (i.allowed_changed_paths.length ≤ 32 && i.allowed_changed_paths.all isChangedPath)
  field "evidence_facts" (i.evidence_facts.length ≤ 32)
  field "committed_calls" (i.committed_calls.length ≤ 16)
  field "current_state_facts" (i.current_state_facts.length ≤ 32)
where
  isText (least most : ℕ) (s : String) : Bool := least ≤ s.length && s.length ≤ most

def unique_sorted : Validator :=
  refuseIf (!uniqueSorted i.allowed_action_tools || !uniqueSorted i.forbidden_action_tools ||
      !uniqueSorted i.allowed_changed_paths)
    "tuples must be unique and sorted"

/-- The order is the claim, so it has to be an order. -/
def contiguous_positions : Validator :=
  refuseIf (i.committed_calls.map (·.position) ≠ List.range i.committed_calls.length)
    "committed calls must be a contiguous zero-based sequence"

def unique_sorted_state : Validator :=
  refuseIf (!uniqueSorted (i.current_state_facts.map (·.path)))
    "current state facts must be unique and sorted by path"

def fingerprint_matches : Validator :=
  refuseIf (sha256_hexdigest (dumps (.obj i.action.arguments)) ≠ i.action_fingerprint)
    "action fingerprint must match action arguments"

def validate (version : InputVersion) : Validator := do
  i.bounds
  i.unique_sorted
  if version ≠ .v3 then i.contiguous_positions
  if version = .v5 then i.unique_sorted_state
  i.fingerprint_matches

/-- `model_dump(mode="json")` -/
def model_dump (version : InputVersion) : Json :=
  dict [("input_schema_version", .str version.schema_version),
    ("prompt_version", .str version.prompt_version),
    ("scenario_id", .str i.scenario_id),
    ("incident_objective", .str i.incident_objective),
    ("allowed_action_tools", .arr (i.allowed_action_tools.map .str)),
    ("forbidden_action_tools", .arr (i.forbidden_action_tools.map .str)),
    ("allowed_changed_paths", .arr (i.allowed_changed_paths.map .str)),
    ("action", i.action.model_dump),
    ("action_fingerprint", .str i.action_fingerprint.1),
    ("evidence_facts", .arr (i.evidence_facts.map (·.model_dump))),
    ("committed_calls", .arr (i.committed_calls.map (·.model_dump))),
    ("current_state_facts", .arr (i.current_state_facts.map (·.model_dump)))]

end MonitorInputFields

/-- A validated input of one of the versions. -/
structure MonitorInput extends MonitorInputFields where
  version : InputVersion
  valid : toMonitorInputFields.validate version = .ok ()

def MonitorInput.prompt_version (i : MonitorInput) : String := i.version.prompt_version

/-- `render_monitor_input_v3`, `render_monitor_input_v4` and `render_monitor_input_v5`: the dump of
whatever input they are handed, under the renderer's own bound. -/
def render (renderer : InputVersion) (i : MonitorInput) : Except String String :=
  let prompt := dumps (i.toMonitorInputFields.model_dump i.version)
  if renderer.max_prompt_bytes < prompt.length then .error "monitor prompt exceeds byte limit"
  else .ok (String.ofList prompt)

lemma render_ok {renderer : InputVersion} {i : MonitorInput}
    (h : ¬renderer.max_prompt_bytes <
      (dumps (i.toMonitorInputFields.model_dump i.version)).length) :
    render renderer i =
      .ok (String.ofList (dumps (i.toMonitorInputFields.model_dump i.version))) :=
  if_neg h

/-! ### The projections -/

inductive GateMode where
  | ENFORCE
  | OBSERVE_ONLY
  | DISABLED
  deriving DecidableEq

inductive AuthorizationGate where
  | DURABLE_HUMAN
  | DETERMINISTIC_CONTROL
  deriving DecidableEq

structure SafeguardConfiguration where
  evidence_gate : GateMode
  policy_gate : GateMode
  monitor_gate : GateMode
  authorization_gate : AuthorizationGate
  control_approver : Option String

/-- What the graph hands a monitor. -/
structure MonitorConsultation where
  incident : IncidentIdentity
  action : CanonicalAction
  records : List EvidenceRecord
  evidence : EvidenceValidation
  policy : PolicyOutcome
  safeguards : SafeguardConfiguration

section
variable (R : Repository) (manifests : String → Option Manifest)

def statePaths (version : InputVersion) (scenario_id : String) (projection : ScenarioProjection) :
    Except ProjectionError (List String) :=
  if version = .v5 then R.state_projection_paths scenario_id
  else .ok projection.allowed_changed_paths

def stateShown (version : InputVersion) (scenario_id : String) (projection : ScenarioProjection) :
    Except ProjectionError (List CurrentStateFact) := do
  let paths ← statePaths R version scenario_id projection
  R.current_state scenario_id paths

/-- `_MonitorInputV3Projection.project` and its siblings. -/
def project (version : InputVersion) (consultation : MonitorConsultation) :
    Except ProjectionError MonitorInput := do
  let scenario_id := consultation.incident.scenario_id
  match manifests scenario_id with
  | none => .error (.KeyError scenario_id)
  | some manifest =>
    let projection := scenario_projection manifest
    let action ← valid (action_facts consultation.action)
    let evidence_facts ←
      valid (project_evidence scenario_id consultation.evidence consultation.records)
    let committed_calls ←
      valid (R.committed_calls version.withArguments consultation.incident.incident_id)
    let current_state_facts ← stateShown R version scenario_id projection
    let input : MonitorInputFields :=
      { scenario_id := scenario_id, incident_objective := projection.incident_objective
        allowed_action_tools := projection.allowed_action_tools
        forbidden_action_tools := projection.forbidden_action_tools
        allowed_changed_paths := projection.allowed_changed_paths
        action := action, action_fingerprint := action_fingerprint consultation.action
        evidence_facts := evidence_facts, committed_calls := committed_calls
        current_state_facts := current_state_facts }
    match h : input.validate version with
    | .error message => .error (.ValueError message)
    | .ok () => .ok { input with version := version, valid := h }

/-- The projection comes to read the fixture row: everything that it reads before it is there. -/
structure ReadsState (version : InputVersion) (consultation : MonitorConsultation) : Prop where
  manifest : ∃ manifest, manifests consultation.incident.scenario_id = some manifest
  action : ∃ facts, action_facts consultation.action = .ok facts
  evidence : ∃ facts, project_evidence consultation.incident.scenario_id consultation.evidence
    consultation.records = .ok facts
  calls : ∃ facts, R.committed_calls version.withArguments consultation.incident.incident_id =
    .ok facts

/-- What the facts of an input were put together from. -/
structure Projected (version : InputVersion) (consultation : MonitorConsultation)
    (manifest : Manifest) (i : MonitorInputFields) : Prop where
  action : action_facts consultation.action = .ok i.action
  action_fingerprint : i.action_fingerprint = action_fingerprint consultation.action
  evidence_facts : project_evidence consultation.incident.scenario_id consultation.evidence
    consultation.records = .ok i.evidence_facts
  committed_calls : R.committed_calls version.withArguments consultation.incident.incident_id =
    .ok i.committed_calls
  current_state_facts : stateShown R version consultation.incident.scenario_id
    (scenario_projection manifest) = .ok i.current_state_facts

variable {R manifests}

lemma valid_ok {α : Type} {checked : Except String α} {a : α} :
    valid checked = .ok a ↔ checked = .ok a := by
  cases checked <;> simp [valid, Except.mapError]

lemma valid_ne_runtime {α : Type} {checked : Except String α} {message : String} :
    valid checked ≠ .error (.RuntimeError message) := by
  cases checked <;> simp [valid, Except.mapError]

lemma stateShown_ok {version : InputVersion} {scenario_id : String}
    {projection : ScenarioProjection} {facts : List CurrentStateFact}
    (h : stateShown R version scenario_id projection = .ok facts) :
    ∃ paths row, statePaths R version scenario_id projection = .ok paths ∧
      R.checkpoint_state scenario_id = .ok row ∧ stateFacts row (sorted paths) = .ok facts := by
  obtain ⟨paths, hpaths, h⟩ := except_bind_ok.mp h
  obtain ⟨row, hrow, h⟩ := except_bind_ok.mp h
  obtain ⟨-, -, h⟩ := except_bind_ok.mp (valid_ok.mp h)
  obtain ⟨-, -, h⟩ := except_bind_ok.mp h
  exact ⟨paths, row, hpaths, hrow, h⟩

lemma stateShown_runtime {version : InputVersion} {scenario_id message : String}
    {projection : ScenarioProjection} :
    stateShown R version scenario_id projection = .error (.RuntimeError message) ↔
      R.checkpoint_state scenario_id = .error (.RuntimeError message) := by
  unfold stateShown statePaths Repository.state_projection_paths Repository.current_state
  rcases hrow : R.checkpoint_state scenario_id with e | row
  · split <;> simp [bind, Except.bind]
  · split <;> simp [bind, Except.bind, pure, Except.pure, valid_ne_runtime]

lemma project_runtime {version : InputVersion} {consultation : MonitorConsultation}
    {message : String} :
    project R manifests version consultation = .error (.RuntimeError message) ↔
      ReadsState R manifests version consultation ∧
        R.checkpoint_state consultation.incident.scenario_id = .error (.RuntimeError message) := by
  unfold project
  dsimp only
  rcases hmanifest : manifests consultation.incident.scenario_id with _ | manifest
  · exact iff_of_false (by simp) fun h => by simpa [hmanifest] using h.1.manifest
  · rcases haction : action_facts consultation.action with e | action
    · exact iff_of_false (by simp [valid, Except.mapError, bind, Except.bind])
        fun h => by simpa [haction] using h.1.action
    · rcases hevidence : project_evidence consultation.incident.scenario_id consultation.evidence
        consultation.records with e | evidence
      · exact iff_of_false (by simp [valid, Except.mapError, bind, Except.bind])
          fun h => by simpa [hevidence] using h.1.evidence
      · rcases hcalls : R.committed_calls version.withArguments consultation.incident.incident_id
          with e | calls
        · exact iff_of_false (by simp [valid, Except.mapError, bind, Except.bind])
            fun h => by simpa [hcalls] using h.1.calls
        · have hreads : ReadsState R manifests version consultation :=
            ⟨⟨manifest, hmanifest⟩, ⟨action, haction⟩, ⟨evidence, hevidence⟩, ⟨calls, hcalls⟩⟩
          rw [and_iff_right hreads,
            ← @stateShown_runtime R version _ _ (scenario_projection manifest)]
          rcases hstate : stateShown R version consultation.incident.scenario_id
            (scenario_projection manifest) with e | state
          · simp [valid, Except.mapError, bind, Except.bind, hstate]
          · simp only [valid, Except.mapError, bind, Except.bind, hstate]
            -- what does not validate here is a `ValueError`
            split <;> simp

lemma project_ok {version : InputVersion} {consultation : MonitorConsultation} {i : MonitorInput}
    (h : project R manifests version consultation = .ok i) :
    ∃ manifest, manifests consultation.incident.scenario_id = some manifest ∧
      i.version = version ∧ Projected R version consultation manifest i.toMonitorInputFields := by
  unfold project at h
  dsimp only at h
  split at h
  · cases h
  · rename_i manifest hmanifest
    obtain ⟨action, haction, h⟩ := except_bind_ok.mp h
    obtain ⟨evidence, hevidence, h⟩ := except_bind_ok.mp h
    obtain ⟨calls, hcalls, h⟩ := except_bind_ok.mp h
    obtain ⟨state, hstate, h⟩ := except_bind_ok.mp h
    split at h
    · cases h
    · obtain rfl := Except.ok.inj h
      exact ⟨manifest, hmanifest, rfl, valid_ok.mp haction, rfl, valid_ok.mp hevidence,
        valid_ok.mp hcalls, hstate⟩

end

end IncidentGate.MonitorInputs
