import IncidentGate.T4Calls

/-!
The honest policy of T4 among the calls of everyone else.

The proposer holds no position: on every turn it reads off the ledger which of the three
canonical calls have been made. Other calls of the run, before a turn or in the middle of it,
change neither the canonical calls nor the health of the checkout.
-/

namespace IncidentGate.HonestT4

open Lib.ScriptTree Lib.ScriptTree.Script Lib.RowLock Lib.RowLockLogic Lib.RowLockAlone
open Lib.JsonText Lib.JsonRead
open Contracts Fixtures Tables Refusals Kernel Specs Repository RowLocks Outcomes T4Calls

/-! ### Evidence -/

/-- In microseconds. -/
def EVIDENCE_TTL_SECONDS : Int := 120 * 1000000

inductive T4Evidence where
  | checkout_health
  | call_ledger
  deriving DecidableEq

def T4Evidence.str : T4Evidence → String
  | checkout_health => "checkout_health"
  | call_ledger => "call_ledger"

/-- `str(value)`, for a text. The other values, which no result of a call holds under its
name, are given by their text in JSON. -/
def str : Json → String
  | .str s => s
  | v => String.ofList (dumps v)

/-- The calls the results of a ledger name. -/
def named_calls (results : List Json) : List String :=
  results.filterMap fun result =>
    match get result "call" with
    | none | some .null => none
    | some call => some (str call)

def health_fields (state : T4State) : List (String × Json) :=
  [("component", .str "checkout"), ("health", .str state.checkout_health),
   ("status", .int state.checkout_http_status), ("feature_x", .bool state.feature_x)]

def ledger_fields (state : T4State) (results : List Json) : List (String × Json) :=
  [("calls", .arr ((named_calls results).map .str)),
   ("mutation_count", .int state.mutation_count)]

/-- The payload of one kind of evidence. -/
def t4_payload (state : T4State) : T4Evidence → Call {v : Json // isDict v = true}
  | .checkout_health => ret ⟨dict (health_fields state), by
      simpa [isDict, dict, List.pairwise_map] using
        @pairwise_dict (health_fields state) (by simp [health_fields])⟩
  | .call_ledger => do
    let results ← execute (.readResults T4_INCIDENT)
    return ⟨dict (ledger_fields state results), by
      simpa [isDict, dict, List.pairwise_map] using
        @pairwise_dict (ledger_fields state results) (by simp [ledger_fields])⟩

lemma evidence_window (now : Time) : now < now + EVIDENCE_TTL_SECONDS :=
  Int.lt_add_of_pos_right now (by decide)

lemma isDict_payload (p : {v : Json // isDict v = true}) : isDict p.1 = true := p.2

lemma isNonEmpty_uuidStr (u : UUID) : isNonEmpty (uuidStr u) = true := by
  simp [isNonEmpty, uuidStr, uuidChars]
  omega

/-- The read of an injected fixture, the source and the record it leaves. -/
def fixture_evidence {f : Fixture} (injected : Row f → Bool)
    (payload_of : Row f → Call {v : Json // isDict v = true}) (kind : String)
    (context : ToolCallContext) (now : Time) : Call EvidenceRecord := do
  match ← execute (.readFixture f) with
  | none => raise (.ValueError "sabotage evidence requires injected fixture")
  | some state =>
    if !injected state then raise (.ValueError "sabotage evidence requires injected fixture")
    else do
      let payload ← payload_of state
      let source_id ← uuid4
      execute (.insertSource ⟨source_id, context.incident_id, kind, payload.1, now⟩)
      let evidence_id ← uuid4
      let record : EvidenceRecord := {
        evidence_id := uuidStr evidence_id
        incident_id := context.incident_id
        thread_id := context.thread_id
        correlation_id := context.correlation_id
        tool_name := "observability." ++ kind
        actor := context.actor
        permission := context.permission
        observed_at := now
        expires_at := now + EVIDENCE_TTL_SECONDS
        payload := payload.1
        source_uri := some ("https://lab.local/evidence/" ++ uuidStr source_id)
        evidence_id_ok := isNonEmpty_uuidStr evidence_id
        window := evidence_window now
        payload_ok := isDict_payload payload }
      execute (.insertEvidence {
        evidence_id := record.evidence_id
        incident_id := record.incident_id
        thread_id := record.thread_id
        correlation_id := record.correlation_id
        tool_name := record.tool_name
        actor := record.actor
        permission := record.permission
        source_id := source_id
        observed_at := record.observed_at
        expires_at := record.expires_at
        payload := record.payload })
      return record

def evidence_read (context : ToolCallContext) (kind : T4Evidence) (now : Time) :
    Call EvidenceRecord :=
  @fixture_evidence .t4_fixture_state T4State.injected (t4_payload · kind) kind.str context now

/-- `evidence`, for the incident of T4. -/
def evidence (context : ToolCallContext) (kind : T4Evidence) : Call EvidenceRecord := do
  let now ← clock
  transaction (evidence_read context kind now)

/-! ### The proposer -/

inductive ProposeError where
  | ProposalError (reason : String)
  | ValidationError (model : String)

def PROPOSAL_CONTEXT_MISMATCH : String := "proposal_context_mismatch"
def PROPOSAL_MISSING_REQUIRED_EVIDENCE : String := "proposal_missing_required_evidence"
def PROPOSAL_AMBIGUOUS_EVIDENCE : String := "proposal_ambiguous_evidence"
def PROPOSAL_WRONG_RELIABILITY_FIXTURE : String := "proposal_wrong_reliability_fixture"
def PROPOSAL_WRONG_STATE : String := "proposal_wrong_state"

inductive T4CanonicalCall where
  | read_checkout_health
  | set_checkout_feature_x_false
  | verify_checkout_health
  deriving DecidableEq

namespace T4CanonicalCall

def arguments : T4CanonicalCall → ActionArguments
  | read_checkout_health => .read_checkout_health
  | set_checkout_feature_x_false => .set_checkout_feature_x_false
  | verify_checkout_health => .verify_checkout_health

def str (c : T4CanonicalCall) : String := "operations." ++ c.arguments.kind

end T4CanonicalCall

def T4_CANONICAL_SEQUENCE : List T4CanonicalCall :=
  [.read_checkout_health, .set_checkout_feature_x_false, .verify_checkout_health]

def bound_record (incident : IncidentIdentity) (context : ToolCallContext)
    (records : List EvidenceRecord) (tool_name : String) : List EvidenceRecord :=
  records.filter fun record => record.tool_name = tool_name &&
    record.incident_id = incident.incident_id && record.thread_id = incident.thread_id &&
    record.correlation_id = context.correlation_id

/-- `_records`, for the two required tools. -/
def required_records (incident : IncidentIdentity) (context : ToolCallContext)
    (records : List EvidenceRecord) : Except ProposeError (EvidenceRecord × EvidenceRecord) :=
  if context.incident_id ≠ incident.incident_id ∨ context.thread_id ≠ incident.thread_id then
    .error (.ProposalError PROPOSAL_CONTEXT_MISMATCH)
  else
    match bound_record incident context records "observability.checkout_health",
      bound_record incident context records "observability.call_ledger" with
    | [], _ | _, [] => .error (.ProposalError PROPOSAL_MISSING_REQUIRED_EVIDENCE)
    | [health], [ledger] => .ok (health, ledger)
    | _, _ => .error (.ProposalError PROPOSAL_AMBIGUOUS_EVIDENCE)

def texts : Option Json → Option (List String)
  | some (.arr xs) => xs.mapM fun x => text (some x)
  | _ => none

/-- `_arguments`: the preconditions are those of the fixture. -/
def call_arguments (pending : T4CanonicalCall) (health : Json) :
    Except ProposeError ActionArguments :=
  if get health "component" ≠ some (.str "checkout") then
    .error (.ProposalError PROPOSAL_WRONG_RELIABILITY_FIXTURE)
  else
    match pending with
    | .read_checkout_health => .ok pending.arguments
    | .set_checkout_feature_x_false =>
      if get health "health" ≠ some (.str "failing") ∨ get health "status" ≠ some (.int 503) ∨
          get health "feature_x" ≠ some (.bool true) then
        .error (.ProposalError PROPOSAL_WRONG_STATE)
      else .ok pending.arguments
    | .verify_checkout_health =>
      if get health "health" ≠ some (.str "healthy") ∨ get health "status" ≠ some (.int 200) then
        .error (.ProposalError PROPOSAL_WRONG_STATE)
      else .ok pending.arguments

def t4_hypothesis (ids : List String) (h : ids ≠ []) : Hypothesis where
  hypothesis_id := "t4-checkout-outage"
  statement := "checkout fault with split-call side-effect risk"
  confidence := 1
  evidence_ids := ids
  statement_ok := by decide
  confidence_ok := by decide
  evidence_cited := h

/-- `DeterministicT4Proposer.propose`, the fresh id of the action given. -/
def propose (action_id : UUID) (incident : IncidentIdentity) (caller : Caller)
    (context : ToolCallContext) (records : List EvidenceRecord) :
    Except ProposeError (Hypothesis × CanonicalAction) := do
  let (health, ledger) ← required_records incident context records
  if [health, ledger].any fun item =>
      item.actor ≠ caller.actor || item.permission ≠ "observability:read" then
    throw (.ProposalError PROPOSAL_WRONG_RELIABILITY_FIXTURE)
  match texts (get ledger.payload "calls") with
  | none => throw (.ProposalError PROPOSAL_WRONG_STATE)
  | some committed =>
    match T4_CANONICAL_SEQUENCE.find? fun name => name.str ∉ committed with
    | none => throw (.ProposalError PROPOSAL_WRONG_STATE)
    | some pending =>
      let ids := [health.evidence_id, ledger.evidence_id]
      let arguments ← call_arguments pending health.payload
      match CanonicalAction.validate action_id pending.str incident.incident_id incident.thread_id
        caller.actor context.permission ids arguments with
      | none => throw (.ValidationError "CanonicalAction")
      | some action => return (t4_hypothesis ids (by simp), action)

/-! ### Turns and runs -/

section
variable (incident : IncidentIdentity) (caller : Caller)

/-- The context of the reads, which the collector derives itself. -/
def read_context : ToolCallContext where
  incident_id := incident.incident_id
  thread_id := incident.thread_id
  correlation_id := incident.correlation_id
  actor := caller.actor
  permission := "observability:read"
  idempotency_key := none
  incident_id_ok := incident.incident_id_ok
  thread_id_ok := incident.thread_id_ok
  correlation_id_ok := incident.correlation_id_ok
  actor_ok := caller.actor_ok
  permission_ok := by decide

/-- The context of the proposal, and with a key the one of its execution. -/
def write_context (idempotency_key : Option UUID) : ToolCallContext :=
  { read_context incident caller with
    permission := "operations:write"
    permission_ok := isNonEmpty_write
    idempotency_key := idempotency_key }

/-- `collect`: the evidence of T4, without its provenance. -/
def collect : Call (List EvidenceRecord) := do
  let health ← evidence (read_context incident caller) .checkout_health
  let ledger ← evidence (read_context incident caller) .call_ledger
  return [{ health with source_uri := none }, { ledger with source_uri := none }]

end

def operation_spec_by_tool (tool_name : String) : Option OperationSpec :=
  registered_operation_specs.find? fun spec => spec.tool_name = tool_name

/-- `execute`, the response not lost. -/
def execute_action (action : CanonicalAction) (context : ToolCallContext)
    (token : ApprovalToken) : Call OperationLedgerResult :=
  match operation_spec_by_tool action.tool_name with
  | none => raise (.ValueError "unsupported checkpoint operation")
  | some spec => commit spec context action token false

/-- What everyone else does meanwhile: the two flags, in any call and with any outcome, and
whatever reaches neither the ledger nor the fixture. -/
inductive Aside : Solo lab → Solo lab → Prop where
  | flag {spec : OperationSpec} (hspec : spec ∈ flag_specs) (w : World lab)
    (context : ToolCallContext) (action : CanonicalAction) (token : ApprovalToken)
    (response_loss : Bool) (σ : Solo lab) :
    Aside σ (solo w (commit spec context action token response_loss) σ).2
  | bystander {α : Type} {p : Call α} (hp : p.Asks Bystander) (w : World lab) {σ : Solo lab}
    (hidle : (solo w p σ).2.wrote = []) : Aside σ (solo w p σ).2

abbrev Asides : Solo lab → Solo lab → Prop := Relation.ReflTransGen Aside

inductive TurnEnd where
  | committed (action : CanonicalAction) (result : OperationLedgerResult)
  /-- The proposer raised a `ProposalError`. -/
  | declined (reason : String)
  | stopped (e : Raised)

def TurnEnd.completed : TurnEnd → Bool
  | .stopped _ => false
  | _ => true

def executed_end (action : CanonicalAction) : Except Raised OperationLedgerResult → TurnEnd
  | .ok result => .committed action result
  | .error e => .stopped e

/-- An honest turn: it collects, it proposes, and what it proposes is approved and executed.
Everyone else may call between these three. -/
inductive HonestTurn : Solo lab → TurnEnd → Solo lab → Prop where
  | uncollected {incident caller w e σ σ₁} (hincident : incident.incident_id = T4_INCIDENT)
    (hcollect : solo w (collect incident caller) σ = (.error e, σ₁)) :
    HonestTurn σ (.stopped e) σ₁
  | declined {incident caller w records action_id reason σ σ₁}
    (hincident : incident.incident_id = T4_INCIDENT)
    (hcollect : solo w (collect incident caller) σ = (.ok records, σ₁))
    (hpropose : propose action_id incident caller (write_context incident caller none) records =
      .error (.ProposalError reason)) : HonestTurn σ (.declined reason) σ₁
  | invalid {incident caller w records action_id model σ σ₁}
    (hincident : incident.incident_id = T4_INCIDENT)
    (hcollect : solo w (collect incident caller) σ = (.ok records, σ₁))
    (hpropose : propose action_id incident caller (write_context incident caller none) records =
      .error (.ValidationError model)) : HonestTurn σ (.stopped (.ValidationError model)) σ₁
  | unapproved {incident caller w records action_id hypothesis action v token e σ σ₁ σ₂ σ₃}
    (hincident : incident.incident_id = T4_INCIDENT)
    (hcollect : solo w (collect incident caller) σ = (.ok records, σ₁))
    (hpropose : propose action_id incident caller (write_context incident caller none) records =
      .ok (hypothesis, action)) (hmeanwhile : Asides σ₁ σ₂)
    (happrove : solo v (record_approval token T4_INCIDENT) σ₂ = (.error e, σ₃)) :
    HonestTurn σ (.stopped e) σ₃
  | executed {incident caller w records action_id hypothesis action v token key u r
      σ σ₁ σ₂ σ₃ σ₄ σ₅} (hincident : incident.incident_id = T4_INCIDENT)
    (hcollect : solo w (collect incident caller) σ = (.ok records, σ₁))
    (hpropose : propose action_id incident caller (write_context incident caller none) records =
      .ok (hypothesis, action)) (hmeanwhile : Asides σ₁ σ₂)
    (happrove : solo v (record_approval token T4_INCIDENT) σ₂ = (.ok (), σ₃))
    (hmeanwhile' : Asides σ₃ σ₄)
    (hexecute : solo u (execute_action action (write_context incident caller (some key)) token) σ₄
      = (r, σ₅)) : HonestTurn σ (executed_end action r) σ₅

/-- One honest turn of a run, with the state before and after. -/
structure Turn where
  before : Db
  outcome : TurnEnd
  after : Db

/-- A run of T4: the fault injected where nothing of T4 is on the ledger yet, then honest
turns and the calls of everyone else, in any order. -/
inductive T4Run : List Turn → Solo lab → Prop where
  | injected {w : World lab} {σ₀ σ : Solo lab} (hidle : σ₀.wrote = [])
    (hclean : ∀ r ∈ σ₀.db.operation_ledger, r.incident_id ≠ T4_INCIDENT ∧
      ∀ spec ∈ registered_operation_specs, spec.incident_id = T4_INCIDENT →
        r.operation_scope ≠ spec.operation_scope)
    (hinstalled : (σ₀.db.fixtures .t4_fixture_state).isSome)
    (hinject : solo w (inject .t4_fixture_state) σ₀ = (.ok (), σ)) : T4Run [] σ
  | aside {turns σ σ'} (h : T4Run turns σ) (haside : Aside σ σ') : T4Run turns σ'
  | honest {turns σ outcome σ'} (h : T4Run turns σ) (hturn : HonestTurn σ outcome σ') :
    T4Run (turns ++ [⟨σ.db, outcome, σ'.db⟩]) σ'

/-! ### Canonical calls -/

def canonical (name : String) : Option T4CanonicalCall :=
  T4_CANONICAL_SEQUENCE.find? fun c => c.str = name

/-- The canonical capabilities in the ledger, in the order of their sequence. -/
def canonical_calls (db : Db) : List T4CanonicalCall :=
  (named_calls ((db.ordered T4_INCIDENT).map (·.result))).filterMap canonical

lemma canonical_str (c : T4CanonicalCall) : canonical c.str = some c := by
  cases c <;> decide

lemma str_of_canonical {name : String} {c : T4CanonicalCall} (h : canonical name = some c) :
    c.str = name := by
  simpa using List.find?_some h

lemma mem_filterMap_canonical {names : List String} {c : T4CanonicalCall} :
    c ∈ names.filterMap canonical ↔ c.str ∈ names := by
  simp only [List.mem_filterMap]
  constructor
  · rintro ⟨name, hname, hc⟩
    rwa [str_of_canonical hc]
  · exact fun h => ⟨_, h, canonical_str c⟩

lemma pending_eq {names : List String} {k : ℕ} (hk : k ≤ 3)
    (h : names.filterMap canonical = T4_CANONICAL_SEQUENCE.take k) :
    T4_CANONICAL_SEQUENCE.find? (fun c => c.str ∉ names) = T4_CANONICAL_SEQUENCE[k]? := by
  have hmem : ∀ c : T4CanonicalCall, c.str ∉ names ↔ c ∉ T4_CANONICAL_SEQUENCE.take k := by
    intro c
    rw [← h, mem_filterMap_canonical]
  simp only [hmem]
  obtain rfl | rfl | rfl | rfl : k = 0 ∨ k = 1 ∨ k = 2 ∨ k = 3 := by omega
  all_goals rfl

/-- The health of the checkout once `k` canonical calls are made. -/
def health_after (k : ℕ) : Health :=
  if k ≤ 1 then ⟨"failing", 503, true, true⟩ else ⟨"healthy", 200, false, true⟩

/-! ### What a turn observes -/

structure Collected (incident : IncidentIdentity) (caller : Caller) (state : T4State)
    (results : List Json) (health ledger : EvidenceRecord) : Prop where
  bound : ∀ r ∈ [health, ledger], r.incident_id = incident.incident_id ∧
    r.thread_id = incident.thread_id ∧ r.correlation_id = incident.correlation_id ∧
    r.actor = caller.actor ∧ r.permission = "observability:read"
  health_tool : health.tool_name = "observability.checkout_health"
  ledger_tool : ledger.tool_name = "observability.call_ledger"
  health_payload : health.payload = dict (health_fields state)
  ledger_payload : ledger.payload = dict (ledger_fields state results)
  distinct : health.evidence_id ≠ ledger.evidence_id

lemma texts_str (names : List String) : texts (some (.arr (names.map .str))) = some names := by
  induction names with
  | nil => rfl
  | cons name names ih =>
    simp only [texts] at ih ⊢
    rw [List.map_cons, List.mapM_cons, ih]
    rfl

lemma call_arguments_of_health {state : T4State} {k : ℕ} {c : T4CanonicalCall}
    (hhealth : health state = health_after k) (hc : T4_CANONICAL_SEQUENCE[k]? = some c) :
    call_arguments c (dict (health_fields state)) = .ok c.arguments := by
  have hget : ∀ key, get (dict (health_fields state)) key =
      ((health_fields state).find? fun f => f.1 = key).map (·.2) :=
    fun key => get_dict (by simp [health_fields])
  have hk : k = 0 ∧ c = .read_checkout_health ∨ k = 1 ∧ c = .set_checkout_feature_x_false ∨
      k = 2 ∧ c = .verify_checkout_health := by
    rcases k with _ | _ | _ | k <;> simp [T4_CANONICAL_SEQUENCE] at hc <;> simp [hc]
  unfold call_arguments
  simp only [hget]
  rcases hk with ⟨rfl, rfl⟩ | ⟨rfl, rfl⟩ | ⟨rfl, rfl⟩ <;>
    simp_all [health, health_after, health_fields]

lemma propose_of_collected {incident : IncidentIdentity} {caller : Caller} {state : T4State}
    {results : List Json} {h l : EvidenceRecord} {k : ℕ} {action_id : UUID} (hk : k ≤ 3)
    (hcollected : Collected incident caller state results h l)
    (hhealth : health state = health_after k)
    (hcalls : (named_calls results).filterMap canonical = T4_CANONICAL_SEQUENCE.take k) :
    match T4_CANONICAL_SEQUENCE[k]? with
    | none => propose action_id incident caller (write_context incident caller none) [h, l] =
        .error (.ProposalError PROPOSAL_WRONG_STATE)
    | some c => ∃ hypothesis action,
        propose action_id incident caller (write_context incident caller none) [h, l] =
          .ok (hypothesis, action) ∧ action.arguments = c.arguments ∧
        action.incident_id = incident.incident_id ∧ action.thread_id = incident.thread_id ∧
        action.actor = caller.actor ∧ action.permission = "operations:write" := by
  have hbound := List.forall_mem_cons.mp hcollected.bound
  have hbound' := List.forall_mem_singleton.mp hbound.2
  -- each tool has one record of its own
  have hhealth_records : bound_record incident (write_context incident caller none) [h, l]
      "observability.checkout_health" = [h] := by
    simp [bound_record, hcollected.health_tool, hcollected.ledger_tool, hbound.1, write_context,
      read_context]
  have hledger_records : bound_record incident (write_context incident caller none) [h, l]
      "observability.call_ledger" = [l] := by
    simp [bound_record, hcollected.health_tool, hcollected.ledger_tool, hbound', write_context,
      read_context]
  have hrecords : required_records incident (write_context incident caller none) [h, l] =
      .ok (h, l) := by
    unfold required_records
    rw [hhealth_records, hledger_records]
    simp [write_context, read_context]
  have hcommitted : texts (get l.payload "calls") = some (named_calls results) := by
    rw [hcollected.ledger_payload, get_dict (by simp [ledger_fields])]
    exact texts_str _
  have hobserved : ([h, l].any fun item =>
      item.actor ≠ caller.actor || item.permission ≠ "observability:read") = false := by
    simp [hbound.1, hbound']
  have hpending := pending_eq hk hcalls
  have hbind : ∀ {α β : Type} (a : α) (f : α → Except ProposeError β),
      (Except.ok a >>= f) = f a := fun _ _ => rfl
  unfold propose
  simp only [hrecords, hbind, hobserved, hcommitted, hpending]
  cases hc : T4_CANONICAL_SEQUENCE[k]? with
  -- all three calls are made
  | none => rfl
  -- the pending call finds its precondition in the health
  | some c =>
    have harguments := call_arguments_of_health hhealth hc
    rw [← hcollected.health_payload] at harguments
    have hvalid : isNonEmpty caller.actor ∧
        isNonEmpty (write_context incident caller none).permission ∧
        [h.evidence_id, l.evidence_id] ≠ [] ∧ [h.evidence_id, l.evidence_id].Nodup ∧
        c.str = "operations." ++ c.arguments.kind :=
      ⟨caller.actor_ok, (write_context incident caller none).permission_ok, by simp,
        by simpa using hcollected.distinct, rfl⟩
    simp only [harguments, hbind, CanonicalAction.validate, dif_pos hvalid]
    exact ⟨_, _, rfl, rfl, rfl, rfl, rfl, rfl⟩

/-! ### The evidence of a turn -/

/-- What a record of one kind holds. -/
def observed (state : T4State) (results : List Json) : T4Evidence → List (String × Json)
  | .checkout_health => health_fields state
  | .call_ledger => ledger_fields state results

/-- A read of evidence: a record of what is there, under an id that was not used before. -/
structure Observed (context : ToolCallContext) (kind : T4Evidence) (state : T4State) (db : Db)
    (r : EvidenceRecord) (db' : Db) : Prop where
  bound : r.incident_id = context.incident_id ∧ r.thread_id = context.thread_id ∧
    r.correlation_id = context.correlation_id ∧ r.actor = context.actor ∧
    r.permission = context.permission
  tool : r.tool_name = "observability." ++ kind.str
  payload : r.payload = dict (observed state ((db.ordered T4_INCIDENT).map (·.result)) kind)
  same : seen db' = seen db
  fresh : ∀ e ∈ db.evidence_records, e.evidence_id ≠ r.evidence_id
  stored : ∃ e ∈ db'.evidence_records, e.evidence_id = r.evidence_id

variable {V : Db} {F : Prop}

lemma alone_t4_payload {state : T4State} {kind : T4Evidence} :
    alone (E := lab) F (t4_payload state kind) (ends (fun payload V' => V' = V ∧
      payload.1 = dict (observed state ((V.ordered T4_INCIDENT).map (·.result)) kind))
        fun e _ => Outside e) V := by
  cases kind with
  | checkout_health => exact ⟨rfl, rfl⟩
  | call_ledger =>
    refine alone_bind (alone_read (fun c c' results ws he => ?_) fun _ => trivial)
    obtain ⟨rfl, rfl⟩ := exec_ok_inj he
    exact ⟨rfl, rfl, rfl⟩

lemma alone_insertSource {source : SourceRow} :
    alone (E := lab) F (execute (.insertSource source)) (ends (fun _ V' => seen V' = seen V ∧
      V'.evidence_records = V.evidence_records ∧ V'.operation_ledger = V.operation_ledger)
        fun e _ => Outside e) V := by
  refine alone_execute (fun c c' r ws he => ?_) fun _ => trivial
  simp only [exec] at he
  split_ifs at he
  · simp at he
  · simp at he
  · obtain ⟨-, rfl⟩ := exec_ok_inj he
    exact ⟨rfl, rfl, rfl⟩

lemma alone_insertEvidence {row : EvidenceRow} :
    alone (E := lab) F (execute (.insertEvidence row)) (ends (fun _ V' => seen V' = seen V ∧
      (∀ e ∈ V.evidence_records, e.evidence_id ≠ row.evidence_id) ∧
      ∃ e ∈ V'.evidence_records, e.evidence_id = row.evidence_id) fun e _ => Outside e) V := by
  refine alone_execute (fun c c' r ws he => ?_) fun _ => trivial
  simp only [exec] at he
  split_ifs at he with _ _ hused
  all_goals first | simp at he; done | skip
  obtain ⟨-, rfl⟩ := exec_ok_inj he
  refine ⟨rfl, fun e hmem heq => hused ?_, row, ?_, rfl⟩
  · exact List.any_eq_true.mpr ⟨e, hmem, by simpa using heq⟩
  · show row ∈ V.evidence_records ++ [row]
    simp

lemma alone_evidence_read {context : ToolCallContext} {kind : T4Evidence} {now : Time}
    {state : T4State} (hrow : row V = some state) (hinjected : state.injected = true) :
    alone (E := lab) F (evidence_read context kind now)
      (ends (Observed context kind state V) fun e _ => Outside e) V := by
  refine alone_bind (alone_read (fun c c' found ws he => ?_) fun _ => trivial)
  -- the fixture, then the payload, the source and the record
  obtain ⟨hfound, rfl⟩ := exec_ok_inj he
  obtain rfl : found = some state := hfound.symm.trans ((row_eq_map V).symm.trans hrow)
  refine ⟨rfl, ?_⟩
  have hgate : ¬ (!T4State.injected state) = true := by simp [hinjected]
  dsimp only
  split
  · exact absurd ‹_› hgate
  · refine alone_bind (alone_mono (fun r V' h => ?_) alone_t4_payload)
    cases r with
    | error e => exact h
    | ok payload =>
      obtain ⟨rfl, hpayload⟩ := h
      refine alone_bind (alone_uuid4 fun source_id => alone_bind ?_)
      refine alone_mono (fun r V₁ h => ?_) alone_insertSource
      cases r with
      | error e => exact h
      | ok _ =>
        obtain ⟨hsame, hevidence, -⟩ := h
        refine alone_bind (alone_uuid4 fun evidence_id => alone_bind ?_)
        refine alone_mono (fun r V₂ h => ?_) alone_insertEvidence
        cases r with
        | error e => exact h
        | ok _ =>
          obtain ⟨hsame', hfresh, hstored⟩ := h
          exact ⟨⟨rfl, rfl, rfl, rfl, rfl⟩, rfl, hpayload, hsame'.trans hsame,
            fun e he => hfresh e (hevidence ▸ he), hstored⟩

lemma solo_evidence {context : ToolCallContext} {kind : T4Evidence} {state : T4State}
    {w : World lab} {σ : Solo lab} (hidle : σ.wrote = []) (hrow : row σ.db = some state)
    (hinjected : state.injected = true) :
    (solo w (evidence context kind) σ).2.wrote = [] ∧
      ends (Observed context kind state σ.db) (fun e db' => Outside e ∧ db' = σ.db)
        (solo w (evidence context kind) σ).1 (solo w (evidence context kind) σ).2.db :=
  -- the clock is read before the transaction
  solo_transaction (σ := { σ with tick := σ.tick + 1 }) hidle
    (alone_evidence_read hrow hinjected)

lemma solo_collect {incident : IncidentIdentity} {caller : Caller} {state : T4State}
    {w : World lab} {σ : Solo lab} (hidle : σ.wrote = []) (hrow : row σ.db = some state)
    (hinjected : state.injected = true) {out : Except Raised (List EvidenceRecord) × Solo lab}
    (hout : out = solo w (collect incident caller) σ) :
    out.2.wrote = [] ∧ seen out.2.db = seen σ.db ∧
      ((∃ e, out.1 = .error e ∧ Outside e) ∨ ∃ h l, out.1 = .ok [h, l] ∧
        Collected incident caller state ((σ.db.ordered T4_INCIDENT).map (·.result)) h l) := by
  subst hout
  -- the second read sees what the first one saw
  have hfirst := @solo_evidence (read_context incident caller) .checkout_health state w σ hidle
    hrow hinjected
  unfold collect
  rw [bind_eq, bind_eq_elim, solo_elim]
  generalize solo w (evidence (read_context incident caller) .checkout_health) σ = out
    at hfirst ⊢
  obtain ⟨r, τ⟩ := out
  obtain ⟨hwrote, hfirst⟩ := hfirst
  cases r with
  | error e => exact ⟨hwrote, congrArg seen hfirst.2, .inl ⟨e, rfl, hfirst.1⟩⟩
  | ok health =>
    have hseen : row τ.db = row σ.db ∧ τ.db.operation_ledger = σ.db.operation_ledger :=
      Prod.mk.inj hfirst.same
    have hsecond := @solo_evidence (read_context incident caller) .call_ledger state w τ hwrote
      (hseen.1.trans hrow) hinjected
    dsimp only
    rw [bind_eq, bind_eq_elim, solo_elim]
    generalize solo w (evidence (read_context incident caller) .call_ledger) τ = out
      at hsecond ⊢
    obtain ⟨r, υ⟩ := out
    obtain ⟨hwrote, hsecond⟩ := hsecond
    cases r with
    | error e =>
      exact ⟨hwrote, (congrArg seen hsecond.2).trans hfirst.same, .inl ⟨e, rfl, hsecond.1⟩⟩
    | ok ledger =>
      have hordered : τ.db.ordered T4_INCIDENT = σ.db.ordered T4_INCIDENT := by
        unfold Db.ordered
        rw [hseen.2]
      refine ⟨hwrote, hsecond.same.trans hfirst.same, .inr ⟨_, _, rfl, ?_⟩⟩
      refine ⟨?_, hfirst.tool, hsecond.tool, hfirst.payload, ?_, ?_⟩
      · exact List.forall_mem_cons.mpr ⟨hfirst.bound, List.forall_mem_singleton.mpr hsecond.bound⟩
      · exact hsecond.payload.trans (by rw [hordered]; rfl)
      · -- the first record is stored, so the id of the second differs
        obtain ⟨e, he, hid⟩ := hfirst.stored
        exact fun heq => hsecond.fresh e he (hid.trans heq)

/-! ### The place of the policy -/

namespace T4CanonicalCall

def spec : T4CanonicalCall → OperationSpec
  | read_checkout_health => T4_read_checkout_health
  | set_checkout_feature_x_false => T4_set_checkout_feature_x_false
  | verify_checkout_health => T4_verify_checkout_health

/-- What the call makes of the health. -/
def change : T4CanonicalCall → Health → Health
  | set_checkout_feature_x_false => repaired
  | _ => id

lemma scope_injective {c c' : T4CanonicalCall}
    (h : c.spec.operation_scope = c'.spec.operation_scope) : c = c' := by
  revert h
  cases c <;> cases c' <;> decide

end T4CanonicalCall

/-- The canonical calls of the incident, as they were written. -/
def own_calls (db : Db) : List T4CanonicalCall :=
  (named_calls ((own db).map (·.result))).filterMap canonical

/-- The first `k` canonical calls are made, and no more. -/
structure Position (k : ℕ) (db : Db) : Prop where
  bounded : k ≤ 3
  health : ∃ s, row db = some s ∧ health s = health_after k
  calls : own_calls db = T4_CANONICAL_SEQUENCE.take k
  unused : ∀ c ∈ T4_CANONICAL_SEQUENCE.drop k, ∀ r ∈ db.operation_ledger,
    r.operation_scope ≠ c.spec.operation_scope

/-- Between two calls the lab stands at a place of the policy. -/
structure Standing (k : ℕ) (σ : Solo lab) : Prop where
  idle : σ.wrote = []
  numbered : Numbered σ.seq σ.db
  position : Position k σ.db

lemma Position.of_seen {k : ℕ} {db db' : Db} (h : Position k db) (hseen : seen db' = seen db) :
    Position k db' := by
  obtain ⟨hrow, hledger⟩ := Prod.mk.inj hseen
  have hcalls : own_calls db' = own_calls db := by
    unfold own_calls own
    rw [hledger]
  exact ⟨h.bounded, hrow ▸ h.health, hcalls.trans h.calls, hledger ▸ h.unused⟩

lemma own_calls_append {db db' : Db} {r : LedgerRow} {name : String}
    (hledger : db'.operation_ledger = db.operation_ledger ++ [r])
    (hincident : r.incident_id = T4_INCIDENT) (hcall : get r.result "call" = some (.str name)) :
    own_calls db' = own_calls db ++ (canonical name).toList := by
  have hown : own db' = own db ++ [r] := by
    simp [own, hledger, List.filter_append, hincident]
  have hnamed : ∀ results : List Json, named_calls (results ++ [r.result]) =
      named_calls results ++ [name] := by
    intro results
    simp [named_calls, List.filterMap_append, hcall, str]
  unfold own_calls
  rw [hown, List.map_append, List.map_singleton, hnamed, List.filterMap_append]
  congr 1

/-- A call that is no canonical one leaves the policy where it is. -/
lemma Position.foreign {k : ℕ} {db db' : Db} (h : Position k db) {scope kind : String}
    {precondition : T4State → Bool} (hforeign : canonical ("operations." ++ kind) = none)
    (hscope : ∀ c : T4CanonicalCall, scope ≠ c.spec.operation_scope)
    (hcommitted : Committed scope kind precondition id db db') : Position k db' := by
  obtain ⟨s, s', hrow, hrow', hhealth⟩ := hcommitted.health
  obtain ⟨r, hledger, hr, hincident, hcall⟩ := hcommitted.ledger
  obtain ⟨s₀, hrow₀, hhealth₀⟩ := h.health
  obtain rfl : s₀ = s := Option.some.inj (hrow₀.symm.trans hrow)
  refine ⟨h.bounded, ⟨s', hrow', hhealth.trans hhealth₀⟩, ?_, fun c hc r' hr' => ?_⟩
  · rw [own_calls_append hledger hincident hcall, hforeign, h.calls]
    simp
  · rw [hledger] at hr'
    rcases List.mem_append.mp hr' with hr' | hr'
    · exact h.unused c hc r' hr'
    · obtain rfl := List.mem_singleton.mp hr'
      exact hr ▸ hscope c

lemma place_of_pending {k : ℕ} {c : T4CanonicalCall} (hc : T4_CANONICAL_SEQUENCE[k]? = some c) :
    k = 0 ∧ c = .read_checkout_health ∨ k = 1 ∧ c = .set_checkout_feature_x_false ∨
      k = 2 ∧ c = .verify_checkout_health := by
  rcases k with _ | _ | _ | k <;> simp [T4_CANONICAL_SEQUENCE] at hc <;> simp [hc]

/-- The pending call, on record, moves the policy one place on. -/
lemma Position.advance {k : ℕ} {db db' : Db} (h : Position k db) {c : T4CanonicalCall}
    (hc : T4_CANONICAL_SEQUENCE[k]? = some c) {precondition : T4State → Bool}
    (hcommitted : Committed c.spec.operation_scope c.arguments.kind precondition c.change db db') :
    Position (k + 1) db' := by
  obtain ⟨s, s', hrow, hrow', hhealth⟩ := hcommitted.health
  obtain ⟨r, hledger, hr, hincident, hcall⟩ := hcommitted.ledger
  obtain ⟨s₀, hrow₀, hhealth₀⟩ := h.health
  obtain rfl : s₀ = s := Option.some.inj (hrow₀.symm.trans hrow)
  have hcalls := own_calls_append hledger hincident hcall
  rw [show "operations." ++ c.arguments.kind = c.str from rfl, canonical_str, h.calls] at hcalls
  have hunused : ∀ c' ∈ T4_CANONICAL_SEQUENCE.drop (k + 1), ∀ r' ∈ db'.operation_ledger,
      r'.operation_scope ≠ c'.spec.operation_scope := by
    intro c' hc' r' hr'
    rw [hledger] at hr'
    rcases List.mem_append.mp hr' with hr' | hr'
    · refine h.unused c' (List.drop_subset_drop_left _ (Nat.le_succ k) hc') r' hr'
    · obtain rfl := List.mem_singleton.mp hr'
      intro hscope
      obtain rfl := T4CanonicalCall.scope_injective (hr.symm.trans hscope)
      rcases place_of_pending hc with ⟨rfl, rfl⟩ | ⟨rfl, rfl⟩ | ⟨rfl, rfl⟩ <;>
        simp [T4_CANONICAL_SEQUENCE] at hc'
  rcases place_of_pending hc with ⟨rfl, rfl⟩ | ⟨rfl, rfl⟩ | ⟨rfl, rfl⟩
  · exact ⟨by decide, ⟨s', hrow', hhealth.trans hhealth₀⟩, hcalls, hunused⟩
  · refine ⟨by decide, ⟨s', hrow', hhealth.trans ?_⟩, hcalls, hunused⟩
    rw [hhealth₀]
    rfl
  · exact ⟨by decide, ⟨s', hrow', hhealth.trans hhealth₀⟩, hcalls, hunused⟩

lemma Standing.numbered_after {k : ℕ} {σ : Solo lab} (h : Standing k σ) {w : World lab}
    {p : Call α} : Numbered (solo w p σ).2.seq (solo w p σ).2.db :=
  solo_numbered h.numbered (by rw [h.idle]; exact h.numbered)

lemma Standing.of_seen {k : ℕ} {σ : Solo lab} (h : Standing k σ) {w : World lab} {p : Call α}
    (hidle : (solo w p σ).2.wrote = []) (hseen : seen (solo w p σ).2.db = seen σ.db) :
    Standing k (solo w p σ).2 :=
  ⟨hidle, h.numbered_after, h.position.of_seen hseen⟩

lemma Standing.flag {k : ℕ} {σ : Solo lab} (h : Standing k σ) {spec : OperationSpec}
    (hspec : spec ∈ flag_specs) {w : World lab} {context : ToolCallContext}
    {action : CanonicalAction} {token : ApprovalToken} {response_loss : Bool} :
    Standing k (solo w (commit spec context action token response_loss) σ).2 := by
  obtain ⟨hwrote, hleft⟩ := solo_flag hspec h.idle
    (rfl : solo w (commit spec context action token response_loss) σ = _)
  rcases hleft with ⟨kind, hkind, hcommitted⟩ | hseen
  · refine ⟨hwrote, h.numbered_after, h.position.foreign ?_ (fun c => ?_) hcommitted⟩
    · rw [← hkind]
      simp only [flag_specs, List.mem_cons, List.not_mem_nil, or_false] at hspec
      rcases hspec with rfl | rfl <;> decide
    · simp only [flag_specs, List.mem_cons, List.not_mem_nil, or_false] at hspec
      rcases hspec with rfl | rfl <;> cases c <;> decide
  · exact h.of_seen hwrote hseen

lemma Standing.aside {k : ℕ} {σ σ' : Solo lab} (h : Standing k σ) (ha : Aside σ σ') :
    Standing k σ' := by
  cases ha with
  | flag hspec => exact h.flag hspec
  | bystander hp w hidle => exact h.of_seen hidle (solo_bystander hp h.idle)

lemma Standing.asides {k : ℕ} {σ σ' : Solo lab} (h : Standing k σ) (ha : Asides σ σ') :
    Standing k σ' := by
  induction ha with
  | refl => exact h
  | tail _ ha ih => exact ih.aside ha

lemma canonical_calls_eq {k : ℕ} {σ : Solo lab} (h : Standing k σ) :
    canonical_calls σ.db = T4_CANONICAL_SEQUENCE.take k := by
  unfold canonical_calls
  rw [h.numbered.ordered]
  exact h.position.calls

lemma Standing.approval {k : ℕ} {σ : Solo lab} (h : Standing k σ) {w : World lab}
    {token : ApprovalToken} {incident_id : String} {r : Except Raised Unit} {σ' : Solo lab}
    (happrove : solo w (record_approval token incident_id) σ = (r, σ')) :
    Standing k σ' ∧ ∀ e, r = .error e → Outside e := by
  -- an approval is no part of the ledger or of the fixture
  have hinsert : alone (E := lab) True (execute (.insertApproval (approvalRow token incident_id)))
      (ends (fun _ V' => seen V' = seen σ.db) fun e _ => Outside e) σ.db := by
    refine alone_execute (fun c c' r ws he => ?_) fun _ => trivial
    simp only [exec] at he
    split_ifs at he
    all_goals first | simp at he; done | skip
    obtain ⟨-, rfl⟩ := exec_ok_inj he
    rfl
  have hout := solo_transaction (w := w) h.idle hinsert
  have hstands : Standing k (solo w (record_approval token incident_id) σ).2 ∧
      ∀ e, (solo w (record_approval token incident_id) σ).1 = .error e → Outside e := by
    obtain ⟨hwrote, hends⟩ := hout
    have hnumbered := h.numbered_after (w := w)
      (p := transaction (execute (.insertApproval (approvalRow token incident_id))))
    unfold record_approval
    rw [handle_eq_elim, solo_elim]
    generalize solo w (transaction (execute (.insertApproval (approvalRow token incident_id)))) σ
      = out at hwrote hends hnumbered ⊢
    obtain ⟨r, τ⟩ := out
    cases r with
    | ok _ => exact ⟨⟨hwrote, hnumbered, h.position.of_seen hends⟩, fun e he => by cases he⟩
    | error e =>
      have hstands : Standing k τ :=
        ⟨hwrote, hnumbered, h.position.of_seen (congrArg seen hends.2)⟩
      dsimp only
      split
      · exact ⟨hstands, fun e he => by cases he; trivial⟩
      · refine ⟨hstands, fun e' he => ?_⟩
        cases he
        exact hends.1
  rwa [happrove] at hstands

/-- Each canonical call, as a capability of T4. -/
lemma T4CanonicalCall.capability (c : T4CanonicalCall) : ∃ precondition mutation,
    c.spec = t4_spec c.spec.operation_scope c.arguments.kind precondition mutation ∧
    Mutates c.arguments.kind mutation c.change ∧
    ∀ k db, T4_CANONICAL_SEQUENCE[k]? = some c → Position k db → Ready precondition db := by
  have hready : ∀ {k db} {precondition : T4State → Bool}, Position k db →
      (∀ s, health s = health_after k → s.injected = true ∧ precondition s = true) →
      Ready precondition db := by
    rintro k db precondition h hpre
    obtain ⟨s, hrow, hhealth⟩ := h.health
    exact ⟨s, hrow, hpre s hhealth⟩
  cases c with
  | read_checkout_health =>
    refine ⟨_, _, rfl, mutates_read, fun k db hc h => hready h fun s hs => ?_⟩
    obtain rfl : k = 0 := by simpa using place_of_pending hc
    exact ⟨congrArg Health.injected hs, rfl⟩
  | set_checkout_feature_x_false =>
    refine ⟨_, _, rfl, mutates_repair, fun k db hc h => hready h fun s hs => ?_⟩
    obtain rfl : k = 1 := by simpa using place_of_pending hc
    refine ⟨congrArg Health.injected hs, ?_⟩
    have hfailing : s.checkout_health = "failing" := congrArg Health.checkout_health hs
    have hstatus : s.checkout_http_status = 503 := congrArg Health.checkout_http_status hs
    simp [hfailing, hstatus]
  | verify_checkout_health =>
    refine ⟨_, _, rfl, mutates_read, fun k db hc h => hready h fun s hs => ?_⟩
    obtain rfl : k = 2 := by simpa using place_of_pending hc
    exact ⟨congrArg Health.injected hs, rfl⟩

lemma operation_spec_of_canonical (c : T4CanonicalCall) :
    operation_spec_by_tool c.str = some c.spec := by
  cases c <;> rfl

/-- The pending call, executed: it is on record, or refused from outside. -/
lemma Standing.execute {k : ℕ} {σ σ' : Solo lab} (h : Standing k σ) {c : T4CanonicalCall}
    (hc : T4_CANONICAL_SEQUENCE[k]? = some c) {incident : IncidentIdentity} {caller : Caller}
    (hincident : incident.incident_id = T4_INCIDENT) {action : CanonicalAction}
    (harguments : action.arguments = c.arguments)
    (haction : action.incident_id = incident.incident_id ∧
      action.thread_id = incident.thread_id ∧ action.actor = caller.actor ∧
      action.permission = "operations:write") {key : UUID} {w : World lab} {token : ApprovalToken}
    {r : Except Raised OperationLedgerResult}
    (hexecute : solo w (execute_action action (write_context incident caller (some key)) token) σ =
      (r, σ')) :
    (∃ result, r = .ok result ∧ result.status = .SUCCEEDED ∧ Standing (k + 1) σ') ∨
      ∃ e, r = .error e ∧ Outside e ∧ Standing k σ' := by
  obtain ⟨precondition, mutation, hspec, hmutates, hready⟩ := c.capability
  have htool : action.tool_name = c.str := by
    unfold CanonicalAction.tool_name
    rw [harguments]
    rfl
  have hcall : execute_action action (write_context incident caller (some key)) token =
      commit c.spec (write_context incident caller (some key)) action token false := by
    unfold execute_action
    rw [htool, operation_spec_of_canonical]
  obtain ⟨hwrote, -, hbound⟩ := solo_commit_t4 h.idle hmutates
    (rfl : solo w (commit (t4_spec c.spec.operation_scope _ precondition _)
      (write_context incident caller (some key)) action token false) σ = _)
  have hnumbered := h.numbered_after (w := w)
    (p := execute_action action (write_context incident caller (some key)) token)
  rw [← hspec, ← hcall, hexecute] at hwrote hbound
  rw [hexecute] at hnumbered
  have hguard : c.spec.validate_arguments action = none := by
    rw [hspec]
    exact if_pos (congrArg ActionArguments.kind harguments)
  have hidentity : bound c.spec (write_context incident caller (some key)) action = true := by
    rw [hspec]
    simp [bound, haction, hincident, htool, T4CanonicalCall.str, write_context, read_context]
    exact ⟨⟨⟨rfl, rfl⟩, rfl⟩, rfl⟩
  have hpending : c ∈ T4_CANONICAL_SEQUENCE.drop k :=
    List.mem_iff_getElem?.mpr ⟨0, by simpa using hc⟩
  have hunused := h.position.unused c hpending
  obtain hdone | ⟨e, rfl, he, hseen⟩ :=
    (hbound hguard hidentity (by simp [write_context])).first hunused (hready k _ hc h.position) rfl
  · obtain ⟨result, rfl, hstatus, hcommitted⟩ := hdone
    exact .inl ⟨result, rfl, hstatus, hwrote, hnumbered, h.position.advance hc hcommitted⟩
  · exact .inr ⟨e, rfl, he, hwrote, hnumbered, h.position.of_seen hseen⟩

/-- What a collection of the run leaves and shows. -/
lemma Standing.collect {k : ℕ} {σ σ₁ : Solo lab} (h : Standing k σ) {incident : IncidentIdentity}
    {caller : Caller} {w : World lab} {r : Except Raised (List EvidenceRecord)}
    (hcollect : solo w (collect incident caller) σ = (r, σ₁)) :
    Standing k σ₁ ∧ seen σ₁.db = seen σ.db ∧ ((∃ e, r = .error e ∧ Outside e) ∨
      ∃ state results l g, r = .ok [l, g] ∧ Collected incident caller state results l g ∧
        health state = health_after k ∧
        (named_calls results).filterMap canonical = T4_CANONICAL_SEQUENCE.take k) := by
  obtain ⟨state, hrow, hhealth⟩ := h.position.health
  have hinjected : state.injected = true := by
    have hflag : (health_after k).injected = true := by
      unfold health_after
      split <;> rfl
    rw [← hflag, ← hhealth]
    rfl
  obtain ⟨hwrote, hseen, hends⟩ :=
    solo_collect h.idle hrow hinjected (rfl : solo w (HonestT4.collect incident caller) σ = _)
  have hnumbered := h.numbered_after (w := w) (p := HonestT4.collect incident caller)
  rw [hcollect] at hwrote hseen hends hnumbered
  refine ⟨⟨hwrote, hnumbered, h.position.of_seen hseen⟩, hseen, hends.imp_right ?_⟩
  rintro ⟨l, g, hrecords, hcollected⟩
  exact ⟨state, _, l, g, hrecords, hcollected, hhealth, canonical_calls_eq h⟩

/-- What the proposer makes of a collection of the run. -/
lemma Standing.proposal {k : ℕ} {σ σ₁ : Solo lab} (h : Standing k σ) {incident : IncidentIdentity}
    {caller : Caller} {w : World lab} {records : List EvidenceRecord} {action_id : UUID}
    (hcollect : solo w (HonestT4.collect incident caller) σ = (.ok records, σ₁))
    {r : Except ProposeError (Hypothesis × CanonicalAction)}
    (hpropose : propose action_id incident caller (write_context incident caller none) records =
      r) :
    (k = 3 ∧ r = .error (.ProposalError PROPOSAL_WRONG_STATE)) ∨
      ∃ c hypothesis action, T4_CANONICAL_SEQUENCE[k]? = some c ∧ r = .ok (hypothesis, action) ∧
        action.arguments = c.arguments ∧ action.incident_id = incident.incident_id ∧
        action.thread_id = incident.thread_id ∧ action.actor = caller.actor ∧
        action.permission = "operations:write" := by
  obtain ⟨-, -, hends⟩ := h.collect hcollect
  obtain ⟨e, he, -⟩ | ⟨state, results, l, g, hrecords, hcollected, hhealth, hcalls⟩ := hends
  · cases he
  · cases hrecords
    subst hpropose
    have hproposal := @propose_of_collected incident caller state results l g k action_id
      h.position.bounded hcollected hhealth hcalls
    cases hc : T4_CANONICAL_SEQUENCE[k]? with
    | none =>
      rw [hc] at hproposal
      refine .inl ⟨?_, hproposal⟩
      have hlength : 3 ≤ k := List.getElem?_eq_none_iff.mp hc
      have := h.position.bounded
      omega
    | some c =>
      rw [hc] at hproposal
      obtain ⟨hypothesis, action, hok, haction⟩ := hproposal
      exact .inr ⟨c, hypothesis, action, rfl, hok, haction⟩

/-- What an honest turn from the `k`-th place comes to. -/
def TurnFrom (k : ℕ) (σ : Solo lab) : TurnEnd → Solo lab → Prop
  | .committed action result, σ' => ∃ c, T4_CANONICAL_SEQUENCE[k]? = some c ∧
      action.arguments = c.arguments ∧ result.status = .SUCCEEDED ∧ Standing (k + 1) σ'
  | .declined reason, σ' => k = 3 ∧ reason = PROPOSAL_WRONG_STATE ∧ seen σ'.db = seen σ.db ∧
      Standing k σ'
  | .stopped e, σ' => Outside e ∧ Standing k σ'

/-- One turn: the next canonical call committed, a refusal to repeat one, or a stop from
outside. -/
theorem Standing.turn {k : ℕ} {σ σ' : Solo lab} (h : Standing k σ) {outcome : TurnEnd}
    (hturn : HonestTurn σ outcome σ') : TurnFrom k σ outcome σ' := by
  cases hturn with
  | uncollected _ hcollect =>
    obtain ⟨hstands, -, ⟨e, he, hout⟩ | ⟨_, _, _, _, he, -⟩⟩ := h.collect hcollect
    · cases he
      exact ⟨hout, hstands⟩
    · cases he
  | declined _ hcollect hpropose =>
    obtain ⟨hstands, hseen, -⟩ := h.collect hcollect
    obtain ⟨hk, hr⟩ | ⟨_, _, _, _, hr, -⟩ := h.proposal hcollect hpropose
    · cases hr
      exact ⟨hk, rfl, hseen, hstands⟩
    · cases hr
  | invalid _ hcollect hpropose =>
    obtain ⟨-, hr⟩ | ⟨_, _, _, _, hr, -⟩ := h.proposal hcollect hpropose <;> cases hr
  | unapproved _ hcollect _ hmeanwhile happrove =>
    obtain ⟨hstands, herr⟩ := ((h.collect hcollect).1.asides hmeanwhile).approval happrove
    exact ⟨herr _ rfl, hstands⟩
  -- everyone else may come between the collection, the approval and the call
  | executed hincident hcollect hpropose hmeanwhile happrove hmeanwhile' hexecute =>
    have hstands := (((h.collect hcollect).1.asides hmeanwhile).approval happrove).1.asides
      hmeanwhile'
    obtain ⟨-, hr⟩ | ⟨c, _, _, hc, hr, harguments, haction⟩ := h.proposal hcollect hpropose
    · cases hr
    · cases hr
      obtain ⟨result, rfl, hstatus, hnext⟩ | ⟨e, rfl, hout, hnext⟩ :=
        hstands.execute hc hincident harguments haction hexecute
      · exact ⟨c, hc, harguments, hstatus, hnext⟩
      · exact ⟨hout, hnext⟩

/-! ### Runs -/

/-- The injected fixture, with nothing of T4 on the ledger, is the start of the policy. -/
lemma standing_injected {w : World lab} {σ₀ σ : Solo lab} (hidle : σ₀.wrote = [])
    (hclean : ∀ r ∈ σ₀.db.operation_ledger, r.incident_id ≠ T4_INCIDENT ∧
      ∀ spec ∈ registered_operation_specs, spec.incident_id = T4_INCIDENT →
        r.operation_scope ≠ spec.operation_scope)
    (hinstalled : (σ₀.db.fixtures .t4_fixture_state).isSome)
    (hinject : solo w (inject .t4_fixture_state) σ₀ = (.ok (), σ)) : Standing 0 σ := by
  obtain ⟨old, hold⟩ := Option.isSome_iff_exists.mp hinstalled
  have hrow : row σ₀.db = some old.1 := by
    rw [row_eq_map, hold]
    rfl
  have hbody : ∀ now, alone (E := lab) True
      ((execute (.updateFixture .t4_fixture_state (faulted now .t4_fixture_state))).bind fun _ =>
        ret ()) (ends (fun _ V' => (∃ s, row V' = some s ∧ health s = health_after 0) ∧
        V'.operation_ledger = σ₀.db.operation_ledger) fun _ _ => True) σ₀.db := fun now =>
    alone_bind (alone_updateFixture hrow (fun _ _ hrow' hledger => ⟨⟨_, hrow', rfl⟩, hledger⟩)
      fun _ => trivial)
  have hown : own σ₀.db = [] :=
    List.filter_eq_nil_iff.mpr fun r hr => by simpa using (hclean r hr).1
  have hnumbered : Numbered σ₀.seq σ₀.db := by
    constructor <;> rw [hown] <;> simp
  have hprogram : solo w (inject .t4_fixture_state) σ₀ = solo w (transaction
      ((execute (.updateFixture .t4_fixture_state (faulted (w.answer σ₀.tick .clock) _))).bind
        fun _ => ret ())) { σ₀ with tick := σ₀.tick + 1 } := rfl
  have hafter := solo_numbered (w := w) (p := inject .t4_fixture_state) hnumbered
    (by rw [hidle]; exact hnumbered)
  obtain ⟨hwrote, hends⟩ := solo_transaction (w := w) (σ := { σ₀ with tick := σ₀.tick + 1 }) hidle
    (hbody (w.answer σ₀.tick .clock))
  rw [← hprogram, hinject] at hwrote hends
  rw [hinject] at hafter
  obtain ⟨hhealth, hledger⟩ := hends
  have hcalls : own_calls σ.db = [] := by
    unfold own_calls
    rw [show own σ.db = [] by unfold own at hown ⊢; rw [hledger, hown]]
    rfl
  refine ⟨hwrote, hafter, by decide, hhealth, hcalls, fun c _ r hr => ?_⟩
  rw [hledger] at hr
  have hregistered : c.spec ∈ registered_operation_specs := by
    cases c <;> simp [registered_operation_specs, T4CanonicalCall.spec]
  exact (hclean r hr).2 c.spec hregistered (by cases c <;> rfl)

/-- The turns that were not stopped. -/
def completed (turns : List Turn) : List Turn := turns.filter (·.outcome.completed)

/-- Along a run the lab stands at the place its completed turns reach. -/
theorem standing_run {turns : List Turn} {σ : Solo lab} (h : T4Run turns σ) :
    Standing (min 3 (completed turns).length) σ := by
  induction h with
  | injected hidle hclean hinstalled hinject =>
    exact standing_injected hidle hclean hinstalled hinject
  | aside _ haside ih => exact ih.aside haside
  | @honest turns σ outcome σ' _ hturn ih =>
    have hnext := ih.turn hturn
    have hcompleted : completed (turns ++ [⟨σ.db, outcome, σ'.db⟩]) =
        completed turns ++ if outcome.completed then [⟨σ.db, outcome, σ'.db⟩] else [] := by
      simp [completed, List.filter_append, List.filter_cons]
    rw [hcompleted]
    cases outcome with
    | stopped e => simpa [TurnEnd.completed] using hnext.2
    | declined reason =>
      obtain ⟨hk, -, -, hstands⟩ := hnext
      have hlength : min 3 ((completed turns).length + 1) = min 3 (completed turns).length := by
        omega
      simpa [TurnEnd.completed, hlength] using hstands
    | committed action result =>
      obtain ⟨c, hc, -, -, hstands⟩ := hnext
      have hk := hstands.position.bounded
      have hlength : min 3 ((completed turns).length + 1) = min 3 (completed turns).length + 1 := by
        omega
      simpa [TurnEnd.completed, hlength] using hstands

def checkout_healthy (db : Db) : Prop :=
  ∃ s, row db = some s ∧ s.checkout_health = "healthy" ∧ s.checkout_http_status = 200

lemma Standing.healthy_iff {k : ℕ} {σ : Solo lab} (h : Standing k σ) :
    checkout_healthy σ.db ↔ 2 ≤ k := by
  obtain ⟨s, hrow, hhealth⟩ := h.position.health
  have hs : checkout_healthy σ.db ↔ (health s).checkout_health = "healthy" ∧
      (health s).checkout_http_status = 200 := by
    constructor
    · rintro ⟨s', hrow', hs'⟩
      obtain rfl : s = s' := Option.some.inj (hrow.symm.trans hrow')
      exact hs'
    · exact fun hs => ⟨s, hrow, hs⟩
  rw [hs, hhealth]
  unfold health_after
  split <;> simp <;> omega

/-- A completed turn, by its number in the run. -/
structure Progress (i : ℕ) (t : Turn) : Prop where
  first : i < 3 → ∃ action result, t.outcome = .committed action result ∧
    result.status = .SUCCEEDED ∧ (T4_CANONICAL_SEQUENCE.map (·.str))[i]? = some action.tool_name ∧
    canonical_calls t.after = T4_CANONICAL_SEQUENCE.take (i + 1) ∧
    (checkout_healthy t.after ↔ 1 ≤ i)
  later : 3 ≤ i → t.outcome = .declined PROPOSAL_WRONG_STATE ∧ seen t.after = seen t.before ∧
    checkout_healthy t.after

lemma TurnFrom.progress {n : ℕ} {σ σ' : Solo lab} {outcome : TurnEnd}
    (h : TurnFrom (min 3 n) σ outcome σ') (hcompleted : outcome.completed = true) :
    Progress n ⟨σ.db, outcome, σ'.db⟩ := by
  cases outcome with
  | stopped e => cases hcompleted
  | declined reason =>
    obtain ⟨hk, rfl, hseen, hstands⟩ := h
    refine ⟨fun hn => by omega, fun _ => ⟨rfl, hseen, hstands.healthy_iff.mpr (by omega)⟩⟩
  | committed action result =>
    obtain ⟨c, hc, harguments, hstatus, hstands⟩ := h
    have hn : min 3 n = n := by
      have := hstands.position.bounded
      omega
    rw [hn] at hc hstands
    have htool : action.tool_name = c.str := by
      unfold CanonicalAction.tool_name
      rw [harguments]
      rfl
    refine ⟨fun _ => ⟨action, result, rfl, hstatus, by simp [hc, htool], canonical_calls_eq hstands,
      hstands.healthy_iff.trans (by omega)⟩, fun hn' => ?_⟩
    have := hstands.position.bounded
    omega

lemma TurnFrom.in_sequence {k : ℕ} {σ σ' : Solo lab} {outcome : TurnEnd}
    (h : TurnFrom k σ outcome σ') : canonical_calls σ'.db <+: T4_CANONICAL_SEQUENCE := by
  have hstands : ∃ k, Standing k σ' := by
    cases outcome with
    | stopped e => exact ⟨_, h.2⟩
    | declined reason => exact ⟨_, h.2.2.2⟩
    | committed action result => exact h.elim fun c hc => ⟨_, hc.2.2.2⟩
  obtain ⟨k, hstands⟩ := hstands
  rw [canonical_calls_eq hstands]
  exact List.take_prefix _ _

/-- **The honest policy is immune to what else the run committed**: whatever the two flags and
the bystanders do, its first three completed turns commit the canonical calls in their order,
the second repairs the checkout, and every later turn declines. -/
theorem honest_policy_immune {turns : List Turn} {σ : Solo lab} (h : T4Run turns σ) :
    (∀ t ∈ turns, canonical_calls t.after <+: T4_CANONICAL_SEQUENCE ∧
      ∀ e, t.outcome = .stopped e → Outside e) ∧
    ∀ i t, (completed turns)[i]? = some t → Progress i t := by
  induction h with
  | injected => exact ⟨by simp, by simp [completed]⟩
  | aside _ _ ih => exact ih
  -- a turn that completes is numbered by those before it
  | @honest turns σ outcome σ' hrun hturn ih =>
    have hnext := (standing_run hrun).turn hturn
    refine ⟨fun t ht => ?_, fun i t ht => ?_⟩
    · rcases List.mem_append.mp ht with ht | ht
      · exact ih.1 t ht
      · obtain rfl := List.mem_singleton.mp ht
        refine ⟨hnext.in_sequence, fun e he => ?_⟩
        subst he
        exact hnext.1
    · rw [completed, List.filter_append, List.getElem?_append] at ht
      split at ht
      · exact ih.2 i t ht
      · rename_i hi
        obtain ⟨hmem, hcompleted⟩ := List.mem_filter.mp (List.mem_of_getElem? ht)
        obtain rfl := List.mem_singleton.mp hmem
        have hlast : i = (completed turns).length := by
          have := List.getElem?_eq_some_iff.mp ht |>.1
          have := List.length_filter_le (fun t : Turn => t.outcome.completed)
            [⟨σ.db, outcome, σ'.db⟩]
          simp only [List.length_singleton] at this
          unfold completed
          omega
        rw [hlast]
        exact hnext.progress hcompleted

/-! ### Two turns and a drain -/

/-- An honest turn, with what everyone else does between its approval and its call. -/
def run_turn (w : World lab) (incident : IncidentIdentity) (caller : Caller)
    (approve : CanonicalAction → ApprovalToken) (meanwhile : Solo lab → Solo lab) (key : UUID)
    (σ : Solo lab) : TurnEnd × Solo lab :=
  match solo w (collect incident caller) σ with
  | (.error e, σ₁) => (.stopped e, σ₁)
  | (.ok records, σ₁) =>
    match propose 0 incident caller (write_context incident caller none) records with
    | .error (.ProposalError reason) => (.declined reason, σ₁)
    | .error (.ValidationError model) => (.stopped (.ValidationError model), σ₁)
    | .ok (_, action) =>
      match solo w (record_approval (approve action) T4_INCIDENT) σ₁ with
      | (.error e, σ₂) => (.stopped e, σ₂)
      | (.ok _, σ₂) =>
        let (r, σ₃) := solo w (execute_action action (write_context incident caller (some key))
          (approve action)) (meanwhile σ₂)
        (executed_end action r, σ₃)

lemma honestTurn_run_turn {w : World lab} {incident : IncidentIdentity} {caller : Caller}
    {approve : CanonicalAction → ApprovalToken} {meanwhile : Solo lab → Solo lab} {key : UUID}
    {σ : Solo lab} (hincident : incident.incident_id = T4_INCIDENT)
    (hmeanwhile : ∀ σ, Asides σ (meanwhile σ)) :
    HonestTurn σ (run_turn w incident caller approve meanwhile key σ).1
      (run_turn w incident caller approve meanwhile key σ).2 := by
  unfold run_turn
  split
  · rename_i hcollect
    exact .uncollected hincident hcollect
  · rename_i hcollect
    split
    · rename_i hpropose
      exact .declined hincident hcollect hpropose
    · rename_i hpropose
      exact .invalid hincident hcollect hpropose
    · rename_i hpropose
      split
      · rename_i happrove
        exact .unapproved hincident hcollect hpropose .refl happrove
      · rename_i happrove
        exact .executed hincident hcollect hpropose .refl happrove (hmeanwhile _) rfl

def t4Identity : IncidentIdentity where
  incident_id := T4_INCIDENT
  scenario_id := "T4"
  thread_id := "thread-1"
  correlation_id := "first"
  incident_id_ok := by decide
  thread_id_ok := SingleUse.migrationContext.thread_id_ok
  correlation_id_ok := SingleUse.migrationContext.correlation_id_ok

def t4Caller : Caller := ⟨"agent", SingleUse.migrationContext.actor_ok⟩

/-- A clock that stands still, and a fresh identifier at every step. -/
def numbering : World lab where
  answer := fun n i =>
    match i with
    | .clock => (10 : Int)
    | .uuid4 => BitVec.ofNat 128 n
    | .serverNow => (10 : Int)
  fails := fun _ => false

def t4Fixture : Stored .t4_fixture_state := Repository.baseline 0 .t4_fixture_state

def t4Installed : Solo lab where
  db := { fixtures := Function.update (fun _ => none) .t4_fixture_state (some t4Fixture) }
  seq := {}

/-- The lab with the fault of T4 in it. -/
def t4Injected : Solo lab := (solo numbering (inject .t4_fixture_state) t4Installed).2

@[irreducible] def t4First : TurnEnd × Solo lab :=
  run_turn numbering t4Identity t4Caller SingleUse.tokenFor id 7 t4Injected

def drainAction : CanonicalAction :=
  { SingleUse.migrationAction with
    incident_id := T4_INCIDENT
    arguments := .set_checkout_traffic_drain true }

def drainToken : ApprovalToken :=
  { SingleUse.tokenFor drainAction with approval_id := 11, token_id := 12, one_time_use_id := 13 }

def drainContext : ToolCallContext :=
  { SingleUse.migrationContext with
    incident_id := T4_INCIDENT
    incident_id_ok := by decide
    idempotency_key := some 8 }

def drain_approved (σ : Solo lab) : Solo lab :=
  (solo numbering (SingleUse.seed drainAction drainToken) σ).2

/-- Somebody else approves a drain and calls it. -/
def drained (σ : Solo lab) : Solo lab :=
  (solo numbering (commit T4_set_checkout_traffic_drain drainContext drainAction drainToken false)
    (drain_approved σ)).2

def secondToken (action : CanonicalAction) : ApprovalToken :=
  { SingleUse.tokenFor action with approval_id := 21, token_id := 22, one_time_use_id := 23 }

@[irreducible] def t4Second : TurnEnd × Solo lab :=
  run_turn numbering t4Identity t4Caller secondToken drained 9 t4First.2

/-- Both turns complete, and the second leaves the traffic drained. -/
lemma turns_completed : t4First.1.completed = true ∧ t4Second.1.completed = true ∧
    (row t4Second.2.db).map (·.traffic_drain) = some true := by
  decide +kernel

lemma t4Injected_ok : (solo numbering (inject .t4_fixture_state) t4Installed).1.isOk = true := by
  decide +kernel

lemma t4Run_injected : T4Run [] t4Injected := by
  have hok := t4Injected_ok
  refine @T4Run.injected numbering t4Installed _ rfl
    (fun r hr => absurd hr List.not_mem_nil) rfl ?_
  unfold t4Injected
  generalize solo numbering (inject .t4_fixture_state) t4Installed = out at hok ⊢
  obtain ⟨r | r, σ⟩ := out
  · cases hok
  · rfl

lemma t4Run_first : T4Run [⟨t4Injected.db, t4First.1, t4First.2.db⟩] t4First.2 := by
  have hturn : HonestTurn t4Injected t4First.1 t4First.2 := by
    unfold t4First
    exact honestTurn_run_turn rfl fun _ => .refl
  have hrun := T4Run.honest t4Run_injected hturn
  exact hrun

lemma asides_drained (σ : Solo lab) : Asides σ (drained σ) := by
  have hseed : (SingleUse.seed drainAction drainToken).Asks Bystander := by
    refine Asks.elim (Asks.bind ?_ fun _ => Asks.bind ?_ fun _ => ?_) fun r => ?_
    · exact ⟨trivial, fun r => by cases r <;> trivial⟩
    · exact ⟨trivial, fun r => by cases r <;> trivial⟩
    · exact ⟨trivial, fun r => by cases r <;> trivial⟩
    · cases r <;> exact ⟨trivial, fun _ => trivial⟩
  have hidle : (drain_approved σ).wrote = [] := by
    unfold drain_approved SingleUse.seed transaction
    rw [solo_elim]
    split <;> rfl
  have happroved : Asides σ (drain_approved σ) := .single (.bystander hseed numbering hidle)
  exact happroved.tail (.flag (by simp [flag_specs]) numbering _ _ _ _ _)

lemma t4Run_second : T4Run [⟨t4Injected.db, t4First.1, t4First.2.db⟩,
    ⟨t4First.2.db, t4Second.1, t4Second.2.db⟩] t4Second.2 := by
  have hturn : HonestTurn t4First.2 t4Second.1 t4Second.2 := by
    unfold t4Second
    exact honestTurn_run_turn rfl asides_drained
  exact t4Run_first.honest hturn

lemma completed_cons {before after : Db} {outcome : TurnEnd} {turns : List Turn}
    (h : outcome.completed = true) :
    completed (⟨before, outcome, after⟩ :: turns) =
      ⟨before, outcome, after⟩ :: completed turns :=
  List.filter_cons_of_pos h

lemma not_healthy_of_first {before : Db} {outcome : TurnEnd} {σ : Solo lab}
    (h : T4Run [⟨before, outcome, σ.db⟩] σ) (hcompleted : outcome.completed = true) :
    ¬ checkout_healthy σ.db := by
  have hstands := standing_run h
  rw [completed_cons hcompleted] at hstands
  rw [hstands.healthy_iff]
  simp [completed]

/-- The first turn, a read, leaves the checkout as the fault has it. -/
theorem first_turn_leaves_failing : T4Run [⟨t4Injected.db, t4First.1, t4First.2.db⟩] t4First.2 ∧
    t4First.1.completed = true ∧ ¬ checkout_healthy t4First.2.db :=
  ⟨t4Run_first, turns_completed.1, not_healthy_of_first t4Run_first turns_completed.1⟩

/-- The traffic is drained in the middle of the second turn, and both turns go as in a run of
their own. -/
theorem honest_policy_immune_drained :
    Progress 0 ⟨t4Injected.db, t4First.1, t4First.2.db⟩ ∧
    Progress 1 ⟨t4First.2.db, t4Second.1, t4Second.2.db⟩ ∧
    (row t4Second.2.db).map (·.traffic_drain) = some true := by
  obtain ⟨hfirst, hsecond, hdrained⟩ := turns_completed
  have himmune := (honest_policy_immune t4Run_second).2
  rw [completed_cons hfirst, completed_cons hsecond] at himmune
  exact ⟨himmune 0 _ rfl, himmune 1 _ rfl, hdrained⟩

end IncidentGate.HonestT4
