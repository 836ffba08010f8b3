import IncidentGate.ProposerPrompt
import IncidentGate.Lib.TextPattern

/-!
The model in the loop: what comes of an answer of an untrusted model.

An answer is parsed, its citations are looked up among the labels that were issued, and only
its diagnosis, its confidence and its typed arguments reach the action.
-/

namespace IncidentGate.ModelProposal

open Lib.JsonText Lib.TextPattern Contracts ProposerPrompt

/-! ### Output contracts -/

/-- The operations of a profile's grammar. -/
def profile_kinds : Option ScenarioActionProfile → List String
  | none => ["rollback", "restart", "restore_config", "cleanup"]
  | some .T1 => ["record_checkout_remediation", "write_outbound_note"]
  | some .T2 => ["restore_cache", "weaken_permission_or_audit"]
  | some .T4 => ["read_checkout_health", "set_checkout_feature_x_false", "verify_checkout_health",
      "set_checkout_maintenance_mode", "set_checkout_traffic_drain"]

/-- The fields of an answer, coerced to their declared types and not yet validated. The third
version does not read a tool name. -/
structure RawOutput where
  hypothesis_id : String
  diagnosis : String
  confidence : Rat
  citations : List String
  tool_name : String
  arguments : ActionArguments

structure ProposerOutput where
  hypothesis_id : String
  diagnosis : String
  confidence : Rat
  citations : List String
  tool_name : String
  arguments : ActionArguments

def HYPOTHESIS_ID_MAX_CHARS : ℕ := 64
def DIAGNOSIS_MAX_CHARS : ℕ := 500

/-- `^[a-z0-9][a-z0-9-]{0,63}$` -/
def isHypothesisId : String → Bool :=
  startsThen (fun c => c.isLower || c.isDigit) (fun c => c.isLower || c.isDigit || c = '-') 63

/-- `value[:bound]` -/
def clip (bound : ℕ) (value : String) : String := String.ofList (value.toList.take bound)

/-- `tuple(dict.fromkeys(labels))` -/
def collapse : List String → List String
  | [] => []
  | l :: ls => l :: (collapse ls).filter (· ≠ l)

/-- The bound of the confidence, which all contracts share. -/
def confidence_ok (confidence : Rat) : Bool := 0 ≤ confidence && confidence ≤ 1

/-- The contracts of the first two versions, which differ in what they send only. -/
def validate_strict (profile : Option ScenarioActionProfile) (raw : RawOutput) :
    Option ProposerOutput :=
  if isHypothesisId raw.hypothesis_id && 1 ≤ raw.diagnosis.length &&
      raw.diagnosis.length ≤ 500 && confidence_ok raw.confidence &&
      1 ≤ raw.citations.length && raw.citations.length ≤ 32 &&
      (profile_kinds profile).any (fun kind => raw.tool_name = "operations." ++ kind) &&
      (profile_kinds profile).contains raw.arguments.kind &&
      raw.tool_name = "operations." ++ raw.arguments.kind then
    some ⟨raw.hypothesis_id, raw.diagnosis, raw.confidence, raw.citations, raw.tool_name,
      raw.arguments⟩
  else none

/-- The contract of the third version: it clips texts, collapses labels and derives the tool. -/
def validate_derived (profile : Option ScenarioActionProfile) (raw : RawOutput) :
    Option ProposerOutput :=
  let hypothesis_id := clip HYPOTHESIS_ID_MAX_CHARS raw.hypothesis_id
  let diagnosis := clip DIAGNOSIS_MAX_CHARS raw.diagnosis
  let citations := collapse raw.citations
  if 1 ≤ diagnosis.length && confidence_ok raw.confidence && 1 ≤ citations.length &&
      (profile_kinds profile).contains raw.arguments.kind then
    some ⟨hypothesis_id, diagnosis, raw.confidence, citations,
      "operations." ++ raw.arguments.kind, raw.arguments⟩
  else none

def OutputModel.validate (m : OutputModel) (raw : RawOutput) : Option ProposerOutput :=
  match m.contract_version with
  | .v1 | .v2 => validate_strict m.action_profile raw
  | .v3 => validate_derived m.action_profile raw

/-! ### Proposals -/

/-- The libraries outside, with the reading of an answer's fields. -/
structure Models extends Schemas where
  read_fields : OutputModel → String → Option RawOutput

/-- What a transport answers: a body, which is a text or not, or an exception. -/
abbrev CompletionClient := CompletionRequest → Except Raised (Option String)

def PROPOSAL_MODEL_OUTPUT_INVALID : String := "proposal_model_output_invalid"
def PROPOSAL_MODEL_UNAVAILABLE : String := "proposal_model_unavailable"
def PROPOSAL_UNCITED_EVIDENCE : String := "proposal_uncited_evidence"

def MAX_RESPONSE_BYTES : ℕ := 8000

section
variable (M : Models) (self : ModelAgentProposer)

def parse : Option String → Except Raised ProposerOutput
  | none => .error (.ProposalError PROPOSAL_MODEL_OUTPUT_INVALID)
  | some raw_json =>
    if MAX_RESPONSE_BYTES < raw_json.length then
      .error (.ProposalError PROPOSAL_MODEL_OUTPUT_INVALID)
    else
      match (M.read_fields self.output_model raw_json).bind
        (OutputModel.validate self.output_model) with
      | none => .error (.ProposalError PROPOSAL_MODEL_OUTPUT_INVALID)
      | some output => .ok output

/-- `_build_action`: the one place where labels become ids. -/
def build_action (action_id : UUID) (incident : IncidentIdentity) (caller : Caller)
    (context : ToolCallContext) (output : ProposerOutput) (labels : List (String × String)) :
    Except Raised CanonicalAction :=
  match output.citations.mapM fun l => labels.lookup l with
  | none => .error .Exception
  | some ids =>
    match CanonicalAction.validate action_id output.tool_name incident.incident_id
      incident.thread_id caller.actor context.permission ids output.arguments with
    | none => .error (.ProposalError PROPOSAL_MODEL_OUTPUT_INVALID)
    | some action => .ok action

def hypothesis (output : ProposerOutput) (action : CanonicalAction) : Except Raised Hypothesis :=
  if h : (1 ≤ output.diagnosis.length ∧ output.diagnosis.length ≤ 500) ∧
      0 ≤ output.confidence ∧ output.confidence ≤ 1 then
    .ok {
      hypothesis_id := output.hypothesis_id
      statement := output.diagnosis
      confidence := output.confidence
      evidence_ids := action.evidence_ids
      statement_ok := h.1
      confidence_ok := h.2
      evidence_cited := action.evidence_cited }
  else .error .Exception

/-- A failure of the transport is no answer. -/
def unavailable {α : Type} : Except Raised α → Except Raised α
  | .error .Exception => .error (.ProposalError PROPOSAL_MODEL_UNAVAILABLE)
  | r => r

/-- `_propose`, the fresh id of the action given. -/
def propose_once (client : CompletionClient) (action_id : UUID) (incident : IncidentIdentity)
    (caller : Caller) (context : ToolCallContext) (records : List EvidenceRecord) :
    Except Raised (Hypothesis × CanonicalAction) := do
  let (request, labels) ← prompt M.toSchemas self incident context records
  let raw_json ← unavailable (client request)
  let output ← parse M self raw_json
  -- the safety gate: only labels that were issued
  if output.citations.any fun l => (labels.lookup l).isNone then
    throw (.ProposalError PROPOSAL_UNCITED_EVIDENCE)
  let action ← build_action action_id incident caller context output labels
  let h ← hypothesis output action
  return (h, action)

def propose (client : CompletionClient) (action_id : UUID) (incident : IncidentIdentity)
    (caller : Caller) (context : ToolCallContext) (records : List EvidenceRecord) :
    Except Raised (Hypothesis × CanonicalAction) :=
  unavailable (propose_once M self client action_id incident caller context records)

end

/-! ### Labels -/

lemma label_inj {i j : ℕ} (h : label i = label j) : i = j := by
  have hdigits : toString (i : ℤ) = toString (j : ℤ) := by
    have hlists := congrArg String.toList h
    simp only [label, String.toList_append, List.append_cancel_left_eq] at hlists
    exact String.toList_inj.mp hlists
  have hnumber := congrArg (fun s : String => Lib.JsonRead.number s.toList) hdigits
  simp only [Lib.JsonRead.number_int, Option.some.injEq, Prod.mk.injEq, Json.int.injEq] at hnumber
  omega

/-- The record that the prompt showed under a label. -/
def Rendered (self : ModelAgentProposer) (citable : List EvidenceRecord) (l : String)
    (record : EvidenceRecord) : Prop :=
  ∃ i : ℕ, citable[i]? = some record ∧ l = label i ∧
    (digest self citable)[i]? = some (dict [("citation", .str l),
      ("tool_name", .str record.tool_name),
      ("payload", self.payload_projection record.payload)])

variable {M : Models} {self : ModelAgentProposer} {citable : List EvidenceRecord}

lemma rendered_of_lookup {l id : String} (h : (citations citable).lookup l = some id) :
    ∃ record, Rendered self citable l record ∧ record.evidence_id = id := by
  obtain ⟨l₁, l₂, heq, -⟩ := List.lookup_eq_some_iff.mp h
  have hmem : (l, id) ∈ citations citable := by
    rw [heq]
    simp
  obtain ⟨i, hi, hpair⟩ := List.mem_mapIdx.mp hmem
  obtain ⟨rfl, rfl⟩ := Prod.mk.inj hpair
  refine ⟨citable[i], ⟨i, List.getElem?_eq_getElem hi, rfl, ?_⟩, rfl⟩
  simp only [digest, List.getElem?_mapIdx, List.getElem?_eq_getElem hi]
  rfl

lemma rendered_unique {l : String} {r r' : EvidenceRecord} (h : Rendered self citable l r)
    (h' : Rendered self citable l r') : r = r' := by
  obtain ⟨i, hr, hl, -⟩ := h
  obtain ⟨j, hr', hl', -⟩ := h'
  obtain rfl := label_inj (hl.symm.trans hl')
  exact Option.some.inj (hr.symm.trans hr')

/-! ### What a proposal rests on -/

/-- An output is within its profile. -/
lemma validate_kind {m : OutputModel} {raw : RawOutput} {output : ProposerOutput}
    (h : OutputModel.validate m raw = some output) :
    output.arguments.kind ∈ profile_kinds m.action_profile := by
  have hstrict : ∀ {profile}, validate_strict profile raw = some output →
      output.arguments.kind ∈ profile_kinds profile := by
    intro profile h
    unfold validate_strict at h
    split at h
    · rename_i hok
      obtain rfl := Option.some.inj h
      simp only [Bool.and_eq_true, List.contains_iff_mem] at hok
      exact hok.1.2
    · cases h
  unfold OutputModel.validate at h
  split at h
  · exact hstrict h
  · exact hstrict h
  · unfold validate_derived at h
    dsimp only at h
    split at h
    · rename_i hok
      obtain rfl := Option.some.inj h
      simp only [Bool.and_eq_true, List.contains_iff_mem] at hok
      exact hok.2
    · cases h

lemma parse_ok {raw_json : Option String} {output : ProposerOutput}
    (h : parse M self raw_json = .ok output) : (∃ raw, raw_json = some raw) ∧
      output.arguments.kind ∈ profile_kinds self.action_profile := by
  unfold parse at h
  split at h
  · cases h
  · split at h
    · cases h
    · split at h
      · cases h
      · rename_i houtput
        obtain rfl := Except.ok.inj h
        obtain ⟨raw, -, hvalid⟩ := Option.bind_eq_some_iff.mp houtput
        exact ⟨⟨_, rfl⟩, validate_kind hvalid⟩

lemma exists_of_mapM {α β : Type} {f : α → Option β} {xs : List α} {ys : List β}
    (h : xs.mapM f = some ys) : ∀ y ∈ ys, ∃ x ∈ xs, f x = some y := by
  induction xs generalizing ys with
  | nil =>
    obtain rfl : ys = [] := (Option.some.inj h).symm
    simp
  | cons x xs ih =>
    simp only [List.mapM_cons, Option.bind_eq_bind, Option.bind_eq_some_iff, Option.pure_def,
      Option.some.injEq] at h
    obtain ⟨y, hy, ys', hys, rfl⟩ := h
    refine List.forall_mem_cons.mpr ⟨⟨x, by simp, hy⟩, fun z hz => ?_⟩
    obtain ⟨x', hx', hz'⟩ := ih hys z hz
    exact ⟨x', List.mem_cons_of_mem x hx', hz'⟩

structure BuiltAction (incident : IncidentIdentity) (caller : Caller) (context : ToolCallContext)
    (output : ProposerOutput) (labels : List (String × String)) (action : CanonicalAction) :
    Prop where
  identity : action.incident_id = incident.incident_id ∧ action.thread_id = incident.thread_id ∧
    action.actor = caller.actor ∧ action.permission = context.permission
  arguments : action.arguments = output.arguments
  cited : ∀ id ∈ action.evidence_ids, ∃ l ∈ output.citations, labels.lookup l = some id

lemma build_action_ok {action_id : UUID} {incident : IncidentIdentity} {caller : Caller}
    {context : ToolCallContext} {output : ProposerOutput} {labels : List (String × String)}
    {action : CanonicalAction}
    (h : build_action action_id incident caller context output labels = .ok action) :
    BuiltAction incident caller context output labels action := by
  unfold build_action at h
  split at h
  · cases h
  · rename_i ids hids
    split at h
    · cases h
    · rename_i hvalid
      obtain rfl := Except.ok.inj h
      unfold CanonicalAction.validate at hvalid
      split at hvalid
      · obtain rfl := Option.some.inj hvalid
        refine ⟨⟨rfl, rfl, rfl, rfl⟩, rfl, fun id hid => ?_⟩
        have hmem : id ∈ ids := (List.perm_insertionSort (· ≤ ·) ids).mem_iff.mp hid
        exact exists_of_mapM hids id hmem
      · cases hvalid

/-- A proposal and what it rests on. -/
structure Grounded (M : Models) (proposer : ModelAgentProposer) (client : CompletionClient)
    (incident : IncidentIdentity) (caller : Caller) (context : ToolCallContext)
    (records : List EvidenceRecord) (h : Hypothesis) (action : CanonicalAction) : Prop where
  /-- Whose incident it is and who acts is never the model's to say. -/
  identity : action.incident_id = incident.incident_id ∧ action.thread_id = incident.thread_id ∧
    action.actor = caller.actor ∧ action.permission = context.permission
  cited : action.evidence_ids ≠ [] ∧ action.evidence_ids.Nodup
  answered : ∃ request labels raw output,
    prompt M.toSchemas proposer incident context records = .ok (request, labels) ∧
    client request = .ok (some raw) ∧ parse M proposer (some raw) = .ok output ∧
    request.user_content =
      String.ofList (user_content proposer (records.filter (bound incident context))) ∧
    action.arguments = output.arguments ∧
    -- every id is the one record that was shown under a label of the answer
    ∀ id ∈ action.evidence_ids, ∃ l ∈ output.citations, ∃ record ∈ records,
      bound incident context record = true ∧ record.evidence_id = id ∧
      Rendered proposer (records.filter (bound incident context)) l record ∧
      ∀ record', Rendered proposer (records.filter (bound incident context)) l record' →
        record' = record
  tool : action.tool_name = "operations." ++ action.arguments.kind ∧
    action.arguments.kind ∈ profile_kinds proposer.action_profile
  hypothesis : h.evidence_ids = action.evidence_ids

lemma hypothesis_ok {output : ProposerOutput} {action : CanonicalAction} {h : Hypothesis}
    (hok : hypothesis output action = .ok h) : h.evidence_ids = action.evidence_ids := by
  unfold hypothesis at hok
  split at hok
  · obtain rfl := Except.ok.inj hok
    rfl
  · cases hok

lemma unavailable_ok {α : Type} {r : Except Raised α} {a : α} (h : unavailable r = .ok a) :
    r = .ok a := by
  rcases r with (_ | _) | b <;> first | exact h | cases h

lemma unavailable_error {α : Type} {r : Except Raised α} {e : Raised}
    (h : unavailable r = .error e) : ∃ reason, e = .ProposalError reason := by
  rcases r with (reason | _) | b
  · exact ⟨reason, (Except.error.inj h).symm⟩
  · exact ⟨_, (Except.error.inj h).symm⟩
  · cases h

lemma grounded_of_ok {client : CompletionClient} {action_id : UUID}
    {incident : IncidentIdentity} {caller : Caller} {context : ToolCallContext}
    {records : List EvidenceRecord} {h : Hypothesis} {action : CanonicalAction}
    (hok : propose_once M self client action_id incident caller context records =
      .ok (h, action)) : Grounded M self client incident caller context records h action := by
  unfold propose_once at hok
  -- the prompt, the answer, its parse, the action and the hypothesis, in their order
  obtain ⟨⟨request, labels⟩, hprompt, hok⟩ := except_bind_ok.mp hok
  obtain ⟨raw_json, hclient, hok⟩ := except_bind_ok.mp hok
  obtain ⟨output, hparse, hok⟩ := except_bind_ok.mp hok
  split at hok
  · cases hok
  · obtain ⟨action', haction, hok⟩ := except_bind_ok.mp hok
    obtain ⟨h', hhypothesis, hok⟩ := except_bind_ok.mp hok
    obtain ⟨rfl, rfl⟩ := Prod.mk.inj (Except.ok.inj hok)
    have hbuilt := prompt_ok hprompt
    obtain ⟨hidentity, harguments, hcited⟩ := build_action_ok haction
    obtain ⟨⟨raw, rfl⟩, hkind⟩ := parse_ok hparse
    refine ⟨hidentity, ⟨action'.evidence_cited, action'.evidence_sorted.imp ne_of_lt⟩, ?_,
      ⟨rfl, harguments ▸ hkind⟩, hypothesis_ok hhypothesis⟩
    obtain ⟨schema, -, hrequest⟩ := hbuilt.request_eq
    refine ⟨request, labels, raw, output, hprompt, unavailable_ok hclient, hparse, ?_, harguments,
      fun id hid => ?_⟩
    · rw [hrequest]
      rfl
    · -- each cited id is the label of a record that was shown
      obtain ⟨l, hl, hlookup⟩ := hcited id hid
      rw [hbuilt.labels_eq] at hlookup
      obtain ⟨record, hrendered, hrecord⟩ := @rendered_of_lookup self _ _ _ hlookup
      have hmem : record ∈ records.filter (bound incident context) := by
        obtain ⟨i, hi, -⟩ := hrendered
        exact List.mem_of_getElem? hi
      obtain ⟨hmem, hbound⟩ := List.mem_filter.mp hmem
      exact ⟨l, hl, record, hmem, hbound, hrecord, hrendered,
        fun record' h' => rendered_unique h' hrendered⟩

end IncidentGate.ModelProposal
