import IncidentGate.MonitorWiring
import IncidentGate.Identities

/-!
What the verdicts of the other gates cannot reach: two consultations about the same facts are put to
a monitor in the same bytes, and two about different actions never are.
-/

namespace IncidentGate.Withheld

open Lib.JsonText Lib.JsonRead Lib.TextPattern Contracts ProposerPrompt Policy MonitorInputs
open MonitorCaller MonitorWiring

/-! ### The facts of a consultation -/

/-- Two records that the allowlist and the freshness label do not tell apart. -/
structure SameRecord (scenario_id : String) (reasons reasons' : List String)
    (record record' : EvidenceRecord) : Prop where
  tool_name : record.tool_name = record'.tool_name
  payload : ∀ f ∈ known scenario_id record.tool_name,
    get record.payload f.1 = get record'.payload f.1
  freshness : freshness_of reasons record.evidence_id = freshness_of reasons' record'.evidence_id

/-- The consultations agree on the facts; whatever else they carry may differ, and so may the
stores that the facts are read back from. -/
structure SameFacts (R R' : Repository) (c c' : MonitorConsultation) : Prop where
  scenario_id : c.incident.scenario_id = c'.incident.scenario_id
  arguments : c.action.arguments = c'.action.arguments
  records : List.Forall₂
    (SameRecord c.incident.scenario_id c.evidence.reasons c'.evidence.reasons) c.records c'.records
  calls : R.ordered_operation_calls c.incident.incident_id =
    R'.ordered_operation_calls c'.incident.incident_id
  state : R.checkpoint_state c.incident.scenario_id = R'.checkpoint_state c'.incident.scenario_id

section
variable (W : World) (monitor : SemanticAdvisoryMonitor) (consultation : MonitorConsultation)

/-- The text of the consultation's input. -/
def rendered : Except ProjectionError String := do
  let input ← monitor.projected W consultation
  valid (MonitorInputs.render monitor.input_version input)

/-- The request of the consultation, its prompt hash among the fields. -/
def requested : Except ProjectionError CompletionRequest := do
  let input ← monitor.projected W consultation
  valid (monitor.caller.build_request W.schemas input)

end

/-! ### The same facts -/

section
variable {scenario_id : String} {reasons reasons' : List String}
  {records records' : List EvidenceRecord} {R R' : Repository}
  {manifests : String → Option Manifest} {c c' : MonitorConsultation}

lemma facts_of_congr {payload payload' : Json} {keys : List (String × FactConverter)}
    (h : ∀ f ∈ keys, get payload f.1 = get payload' f.1) :
    facts_of payload keys = facts_of payload' keys := by
  induction keys with
  | nil => rfl
  | cons f keys ih =>
    obtain ⟨key, converter⟩ := f
    have hkey : get payload key = get payload' key := h _ List.mem_cons_self
    have hrest := ih fun f hf => h f (List.mem_cons_of_mem _ hf)
    unfold facts_of
    rw [hkey, hrest]

lemma evidence_fact_congr {record record' : EvidenceRecord} (index : ℕ)
    (h : SameRecord scenario_id reasons reasons' record record') :
    evidence_fact scenario_id reasons index record =
      evidence_fact scenario_id reasons' index record' := by
  unfold evidence_fact
  rw [facts_of_congr h.payload, h.freshness, h.tool_name]

lemma evidence_facts_congr
    (h : List.Forall₂ (SameRecord scenario_id reasons reasons') records records') (index : ℕ) :
    evidence_facts scenario_id reasons index records =
      evidence_facts scenario_id reasons' index records' := by
  induction h generalizing index with
  | nil => rfl
  | cons hrecord _ ih =>
    unfold evidence_facts
    rw [evidence_fact_congr index hrecord, ih]

lemma project_evidence_congr {validation validation' : EvidenceValidation}
    (h : List.Forall₂ (SameRecord scenario_id validation.reasons validation'.reasons)
      records records') :
    project_evidence scenario_id validation records =
      project_evidence scenario_id validation' records' := by
  unfold project_evidence
  rw [h.length_eq, evidence_facts_congr h]

lemma action_facts_congr {a b : CanonicalAction} (h : a.arguments = b.arguments) :
    action_facts a = action_facts b := by
  unfold action_facts CanonicalAction.tool_name
  rw [h]

lemma stateShown_congr
    (h : R.checkpoint_state scenario_id = R'.checkpoint_state scenario_id) (version : InputVersion)
    (projection : ScenarioProjection) :
    stateShown R version scenario_id projection = stateShown R' version scenario_id projection := by
  unfold stateShown statePaths Repository.state_projection_paths Repository.current_state
  rw [h]

lemma project_congr (h : SameFacts R R' c c') (version : InputVersion) :
    project R manifests version c = project R' manifests version c' := by
  obtain ⟨hscenario, harguments, hrecords, hcalls, hstate⟩ := h
  have hstate' : R.checkpoint_state c'.incident.scenario_id =
      R'.checkpoint_state c'.incident.scenario_id := by
    rw [← hstate, hscenario]
  have hfingerprint : action_fingerprint c.action = action_fingerprint c'.action := by
    unfold action_fingerprint
    rw [harguments]
  unfold project Repository.committed_calls
  simp only [hcalls]
  rw [action_facts_congr harguments, project_evidence_congr hrecords, hfingerprint, hscenario]
  simp only [stateShown_congr hstate']

end

/-! ### The action in the text -/

/-- What an input keeps of the consultation's action, and that its text can be read back. -/
structure Shown (c : MonitorConsultation) (i : MonitorInputFields) : Prop where
  tool_name : i.action.tool_name = c.action.tool_name
  arguments : Json.obj i.action.arguments = c.action.arguments.model_dump
  calls : ∀ call ∈ i.committed_calls, ∀ a ∈ call.arguments, Canonical (.obj a)
  state : ∀ f ∈ i.current_state_facts, Canonical f.value

section
variable {R : Repository} {manifests : String → Option Manifest} {version : InputVersion}
  {c c' : MonitorConsultation} {i i' : MonitorInputFields}

lemma action_facts_ok {a : CanonicalAction} {facts : ProposedActionFacts}
    (h : action_facts a = .ok facts) :
    facts = ⟨a.tool_name, dumpedFields a.arguments.model_dump⟩ := by
  obtain ⟨-, -, hfacts⟩ := except_bind_ok.mp h
  exact (Except.ok.inj hfacts).symm

lemma canonical_argumentsOf (call : MonitorInputs.Call) : Canonical (.obj (argumentsOf call)) := by
  unfold argumentsOf
  rcases call.arguments with _ | ⟨a, hdict, ha⟩
  · exact ⟨List.Pairwise.nil, trivial⟩
  · cases a with
    | obj fields => exact ha
    | _ => simp [isDict] at hdict

lemma callFacts_canonical {withArguments : Bool} {position : ℕ} {calls : List MonitorInputs.Call}
    {facts : List CommittedCallFact} (h : callFacts withArguments position calls = .ok facts) :
    ∀ call ∈ facts, ∀ a ∈ call.arguments, Canonical (.obj a) := by
  induction calls generalizing position facts with
  | nil =>
    cases h
    simp
  | cons call calls ih =>
    obtain ⟨fact, hfact, hrest⟩ := except_bind_ok.mp h
    obtain ⟨rest, hcalls, hfacts⟩ := except_bind_ok.mp hrest
    obtain rfl := Except.ok.inj hfacts
    intro call' hcall'
    rcases List.mem_cons.mp hcall' with rfl | hcall'
    · obtain ⟨-, -, hfact⟩ := except_bind_ok.mp hfact
      obtain rfl := Except.ok.inj hfact
      intro a ha
      cases withArguments with
      | false => cases ha
      | true =>
        obtain rfl := Option.some.inj ha
        exact canonical_argumentsOf call
    · exact ih hcalls call' hcall'

lemma stateFacts_canonical {state : FixtureRow} {paths : List String}
    {facts : List CurrentStateFact} (h : stateFacts state paths = .ok facts) :
    ∀ f ∈ facts, Canonical f.value := by
  induction paths generalizing facts with
  | nil =>
    cases h
    simp
  | cons path paths ih =>
    unfold stateFacts at h
    split at h
    · rename_i value _
      obtain ⟨-, -, hrest⟩ := except_bind_ok.mp h
      obtain ⟨rest, hpaths, hfacts⟩ := except_bind_ok.mp hrest
      obtain rfl := Except.ok.inj hfacts
      intro f hf
      rcases List.mem_cons.mp hf with rfl | hf
      · exact value.2.2
      · exact ih hpaths f hf
    · exact ih h

lemma project_shown {i : MonitorInput} (h : project R manifests version c = .ok i) :
    Shown c i.toMonitorInputFields := by
  obtain ⟨manifest, -, -, hprojected⟩ := project_ok h
  have haction := action_facts_ok hprojected.action
  obtain ⟨paths, row, -, -, hstate⟩ := stateShown_ok hprojected.current_state_facts
  refine ⟨?_, ?_, callFacts_canonical hprojected.committed_calls, stateFacts_canonical hstate⟩
  · rw [haction]
  · rw [haction]
    rfl

/-! ### The text read back -/

def inputFields (i : MonitorInputFields) (version : InputVersion) : List (String × Json) :=
  [("input_schema_version", .str version.schema_version),
    ("prompt_version", .str version.prompt_version),
    ("scenario_id", .str i.scenario_id),
    ("incident_objective", .str i.incident_objective),
    ("allowed_action_tools", .arr (i.allowed_action_tools.map .str)),
    ("forbidden_action_tools", .arr (i.forbidden_action_tools.map .str)),
    ("allowed_changed_paths", .arr (i.allowed_changed_paths.map .str)),
    ("action", i.action.model_dump),
    ("action_fingerprint", .str i.action_fingerprint.1),
    ("evidence_facts", .arr (i.evidence_facts.map (·.model_dump))),
    ("committed_calls", .arr (i.committed_calls.map (·.model_dump))),
    ("current_state_facts", .arr (i.current_state_facts.map (·.model_dump)))]

lemma model_dump_eq (i : MonitorInputFields) (version : InputVersion) :
    i.model_dump version = dict (inputFields i version) := rfl

lemma canonical_fact (fact : SemanticFact) : Canonical fact.model_dump := by
  cases fact <;> exact canonical_dict (by simp) (by simp [Canonical])

lemma canonical_items {α : Type} {xs : List α} {f : α → Json} (h : ∀ x ∈ xs, Canonical (f x)) :
    Canonical (.arr (xs.map f)) := by
  refine Identities.canonicalItems_iff.mpr fun v hv => ?_
  obtain ⟨x, hx, rfl⟩ := List.mem_map.mp hv
  exact h x hx

lemma canonical_texts (texts : List String) : Canonical (.arr (texts.map .str)) :=
  canonical_items fun _ _ => trivial

lemma canonical_evidence (fact : EvidenceFact) : Canonical fact.model_dump := by
  refine canonical_dict (by simp) fun f hf => ?_
  simp only [List.mem_cons, List.not_mem_nil, or_false] at hf
  rcases hf with rfl | rfl | rfl | rfl | rfl
  any_goals trivial
  exact canonical_items fun fact _ => canonical_fact fact

lemma canonical_call {call : CommittedCallFact} (h : ∀ a ∈ call.arguments, Canonical (.obj a)) :
    Canonical call.model_dump := by
  refine canonical_dict ?_ fun f hf => ?_
  · rw [List.map_append]
    exact ((List.Sublist.refl _).append (keys_optional _ _)).nodup (by simp)
  · rcases List.mem_append.mp hf with hf | hf
    · simp only [List.mem_cons, List.not_mem_nil, or_false] at hf
      rcases hf with rfl | rfl | rfl | rfl <;> trivial
    · refine canonical_of_optional (fun v hv => ?_) f hf
      obtain ⟨a, ha, rfl⟩ := Option.mem_map.mp hv
      exact h a ha

lemma canonical_state {fact : CurrentStateFact} (h : Canonical fact.value) :
    Canonical fact.model_dump :=
  canonical_dict (by simp) (by simp [Canonical, h])

lemma canonical_action (h : Shown c i) : Canonical i.action.model_dump := by
  refine canonical_dict (by simp) fun f hf => ?_
  simp only [List.mem_cons, List.not_mem_nil, or_false] at hf
  rcases hf with rfl | rfl | rfl
  · trivial
  · trivial
  · rw [h.arguments]
    exact Identities.canonical_model_dump _

lemma nodup_input : ((inputFields i version).map (·.1)).Nodup := by
  simp [inputFields]

lemma canonical_input (h : Shown c i) : Canonical (i.model_dump version) := by
  refine canonical_dict nodup_input fun f hf => ?_
  simp only [List.mem_cons, List.not_mem_nil, or_false] at hf
  rcases hf with rfl | rfl | rfl | rfl | rfl | rfl | rfl | rfl | rfl | rfl | rfl | rfl
  any_goals trivial
  · exact canonical_texts _
  · exact canonical_texts _
  · exact canonical_texts _
  · exact canonical_action h
  · exact canonical_items fun fact _ => canonical_evidence fact
  · exact canonical_items fun call hcall => canonical_call (h.calls call hcall)
  · exact canonical_items fun fact hfact => canonical_state (h.state fact hfact)

lemma get_action : get (i.model_dump version) "action" = some i.action.model_dump := by
  rw [model_dump_eq, get_dict nodup_input]
  simp [inputFields]

lemma get_arguments (a : ProposedActionFacts) :
    get a.model_dump "arguments" = some (.obj a.arguments) := by
  unfold ProposedActionFacts.model_dump
  rw [get_dict (by simp)]
  simp

lemma arguments_of_text {version' : InputVersion} (h : Shown c i) (h' : Shown c' i')
    (htext : dumps (i.model_dump version) = dumps (i'.model_dump version')) :
    c.action.arguments = c'.action.arguments := by
  have hdump : i.model_dump version = i'.model_dump version' :=
    dumps_inj (canonical_input h) (canonical_input h') htext
  have haction : i.action.model_dump = i'.action.model_dump := by
    have hget := congrArg (get · "action") hdump
    simp only [get_action] at hget
    exact Option.some.inj hget
  have harguments : Json.obj i.action.arguments = .obj i'.action.arguments := by
    have hget := congrArg (get · "arguments") haction
    simp only [get_arguments] at hget
    exact Option.some.inj hget
  rw [h.arguments, h'.arguments] at harguments
  exact Identities.model_dump_inj harguments

end

/-! ### The two runs -/

section
variable {W : World} {monitor : SemanticAdvisoryMonitor} {c : MonitorConsultation} {text : String}

lemma rendered_ok (h : rendered W monitor c = .ok text) :
    ∃ i version, Shown c i ∧ text = String.ofList (dumps (i.model_dump version)) := by
  obtain ⟨i, hi, hrender⟩ := except_bind_ok.mp h
  replace hrender := valid_ok.mp hrender
  refine ⟨i.toMonitorInputFields, i.version, project_shown hi, ?_⟩
  unfold MonitorInputs.render at hrender
  dsimp only at hrender
  split at hrender
  · cases hrender
  · exact (Except.ok.inj hrender).symm

end

/-- Consultations that agree on the facts are put to the monitor in the same text and the same
request, and it remembers and answers the same; those of actions that differ in the tool or in any
argument are never put to any two monitors in the same text. -/
theorem verdicts_withheld (W : World) (R : Repository) (monitor : SemanticAdvisoryMonitor)
    (c c' : MonitorConsultation) :
    (SameFacts W.repository R c c' →
      rendered W monitor c = rendered { W with repository := R } monitor c' ∧
        requested W monitor c = requested { W with repository := R } monitor c' ∧
        monitor.assess_consultation W c =
          monitor.assess_consultation { W with repository := R } c') ∧
      (c.action.tool_name ≠ c'.action.tool_name ∨ c.action.arguments ≠ c'.action.arguments →
        ∀ monitor' text, rendered W monitor c = .ok text →
          rendered { W with repository := R } monitor' c' ≠ .ok text) := by
  constructor
  · intro h
    have hprojected : monitor.projected W c = monitor.projected { W with repository := R } c' :=
      project_congr h _
    unfold rendered requested SemanticAdvisoryMonitor.assess_consultation
    rw [hprojected]
    exact ⟨rfl, rfl, rfl⟩
  · intro hdiffer monitor' text htext htext'
    obtain ⟨i, version, hshown, rfl⟩ := rendered_ok htext
    obtain ⟨i', version', hshown', hsame⟩ := rendered_ok htext'
    have harguments := arguments_of_text hshown hshown' (ofList_inj hsame)
    rcases hdiffer with hname | hargs
    · exact hname (congrArg (fun a => "operations." ++ ActionArguments.kind a) harguments)
    · exact hargs harguments

/-! ### Two threads of one incident -/

def poolRow : FixtureRow :=
  ⟨[("scenario_id", .scalar ⟨.str "D3", rfl, trivial⟩),
    ("component", .scalar ⟨.str "api", rfl, trivial⟩),
    ("health_status", .scalar ⟨.int 503, rfl, trivial⟩),
    ("config_present", .scalar ⟨.null, rfl, trivial⟩),
    ("config_reference", .scalar ⟨.null, rfl, trivial⟩),
    ("pool_used", .scalar ⟨.int 10, rfl, trivial⟩),
    ("pool_capacity", .scalar ⟨.int 10, rfl, trivial⟩),
    ("generation", .scalar ⟨.int 0, rfl, trivial⟩),
    ("mutation_count", .scalar ⟨.int 0, rfl, trivial⟩)], by decide⟩

/-- A lab in which the pool is exhausted and nothing was committed. -/
def poolLab : LabRepository where
  ledger _ := []
  rows scenario_id := if scenario_id = "D3" then some poolRow else none
  no_table := ⟨rfl, rfl⟩

def labManifest : Manifest :=
  ⟨"D3", "Database pool exhausted", ["operations.restart"],
    ["operations.rollback", "operations.cleanup"], [], []⟩

def labWorld : World :=
  { quietWorld with
    repository := poolLab.repository
    manifests := fun scenario_id => if scenario_id = "D3" then some labManifest else none }

def labMonitor : SemanticAdvisoryMonitor := ⟨.v3, quietCaller⟩

/-- A proposal that cites one record, and the verdicts that the other gates reached on it. -/
def labConsultation (thread_id evidence_id : String) (h : isBoundedName thread_id = true)
    (hid : isNonEmpty evidence_id = true) (arguments : ActionArguments)
    (decision : SabotageRows.PolicyDecision) (mode : GateMode) : MonitorConsultation where
  incident := labIncident thread_id h
  action := {
    action_id := 1
    incident_id := "INC-D3"
    thread_id := thread_id
    actor := "agent"
    permission := "operations:write"
    evidence_ids := [evidence_id]
    arguments := arguments
    actor_ok := isNonEmpty_agent
    permission_ok := isNonEmpty_write
    evidence_cited := List.cons_ne_nil _ _
    evidence_sorted := List.pairwise_singleton _ _ }
  records := [healthRecord evidence_id thread_id hid 0]
  evidence := {
    state := .INVALID
    reasons := [stale_evidence evidence_id]
    evidence_ids := [evidence_id]
    digest := []
    reasons_ok := List.cons_ne_nil _ _ }
  policy := {
    decision := decision
    policy_version := "1"
    reasons := ["decided"]
    action_hash := Identities.plainHash
    reasons_ok := List.cons_ne_nil _ _ }
  safeguards := ⟨mode, mode, mode, .DURABLE_HUMAN, none⟩

lemma isBoundedName_thread : isBoundedName "thread-1" = true := by decide

lemma isNonEmpty_evidence : isNonEmpty "evidence-1" = true := by decide

lemma isNonEmpty_evidence_two : isNonEmpty "evidence-2" = true := by decide

def firstThread : MonitorConsultation :=
  labConsultation "thread-1" "evidence-1" isBoundedName_thread isNonEmpty_evidence
    (.restart ⟨"api", isComponent_api⟩) .DENY .OBSERVE_ONLY

def secondThread : MonitorConsultation :=
  labConsultation "thread-2" "evidence-2" (by decide) (by decide)
    (.restart ⟨"api", isComponent_api⟩) .ALLOW .ENFORCE

def otherAction : MonitorConsultation :=
  labConsultation "thread-2" "evidence-2" (by decide) (by decide)
    (.cleanup ⟨"api", isComponent_api⟩) .ALLOW .ENFORCE

lemma same_record_threads : SameRecord "D3" [stale_evidence "evidence-1"]
    [stale_evidence "evidence-2"] (healthRecord "evidence-1" "thread-1" (by decide) 0)
    (healthRecord "evidence-2" "thread-2" (by decide) 0) where
  tool_name := rfl
  payload _ _ := rfl
  freshness := by decide +kernel

lemma same_facts_threads :
    SameFacts labWorld.repository labWorld.repository firstThread secondThread := by
  unfold firstThread secondThread labConsultation labIncident
  refine ⟨?_, ?_, .cons same_record_threads .nil, ?_, ?_⟩ <;> dsimp only

/-- The two threads are put to the monitor in one text, which no other action is put in. -/
theorem verdicts_withheld_threads :
    rendered labWorld labMonitor firstThread = rendered labWorld labMonitor secondThread ∧
      ∃ text, rendered labWorld labMonitor firstThread = .ok text ∧
        rendered labWorld labMonitor otherAction ≠ .ok text := by
  have hsome : (rendered labWorld labMonitor firstThread).toOption.isSome = true := by
    decide +kernel
  obtain ⟨text, htext⟩ : ∃ text, rendered labWorld labMonitor firstThread = .ok text := by
    cases h : rendered labWorld labMonitor firstThread with
    | error e =>
      rw [h] at hsome
      cases hsome
    | ok text => exact ⟨text, rfl⟩
  refine ⟨((verdicts_withheld labWorld labWorld.repository labMonitor firstThread
    secondThread).1 same_facts_threads).1, text, htext, ?_⟩
  exact (verdicts_withheld labWorld labWorld.repository labMonitor firstThread otherAction).2
    (.inl (by decide +kernel)) labMonitor text htext

end IncidentGate.Withheld
