import IncidentGate.Withheld

/-!
The facts as the stores hold them, and the facts as a monitor is shown them.

The freshness of a record is not kept: it is read back off the reasons that the evidence gate gave
for what the action cites.
-/

namespace IncidentGate.ShownFacts

open Lib.JsonText Lib.JsonRead Lib.TextPattern Contracts ProposerPrompt Policy MonitorInputs
open MonitorWiring Lib.Digest

/-! ### The evidence gate -/

def EVIDENCE_VALID : String := "evidence_valid"
def CITATIONS_REQUIRED : String := "citations_required"

def unknown_evidence (evidence_id : String) : String := "unknown_evidence:" ++ evidence_id
def cross_context_evidence (evidence_id : String) : String :=
  "cross_context_evidence:" ++ evidence_id
def correlation_context_mismatch (evidence_id : String) : String :=
  "correlation_context_mismatch:" ++ evidence_id
def unallowed_evidence_source (evidence_id : String) : String :=
  "unallowed_evidence_source:" ++ evidence_id
def embedded_instruction_data (evidence_id : String) : String :=
  "embedded_instruction_data:" ++ evidence_id

/-- `timedelta.total_seconds()` in the unit of a time. -/
def SECOND : Int := 1000000

structure EvidenceValidator where
  policy : PolicyConfiguration
  allowed_sources : List String
  /-- `re.search` of the instruction pattern. -/
  instruction : String → Bool

namespace EvidenceValidator

variable (V : EvidenceValidator)

mutual

def contains_embedded_instruction : Json → Bool
  | .obj fields => contains_in_fields fields
  | .arr items => contains_in_items items
  | .str s => V.instruction s
  | _ => false

def contains_in_items : List Json → Bool
  | [] => false
  | item :: items => contains_embedded_instruction item || contains_in_items items

def contains_in_fields : List (String × Json) → Bool
  | [] => false
  | (_, item) :: fields => contains_embedded_instruction item || contains_in_fields fields

end

/-- `{record.evidence_id: record for record in records}`: the last record under an id. -/
def by_id (records : List EvidenceRecord) (evidence_id : String) : Option EvidenceRecord :=
  (records.filter (·.evidence_id = evidence_id)).getLast?

variable (rule : ToolPolicyRule) (now : Time) (action : CanonicalAction)
  (records : List EvidenceRecord) (context : Option ToolCallContext)

def age_reasons (evidence_id : String) (record : EvidenceRecord) : List String :=
  if record.expires_at ≤ now then [expired_evidence evidence_id]
  else if rule.evidence.max_age_seconds * SECOND < now - record.observed_at then
    [stale_evidence evidence_id]
  else []

def record_reasons (evidence_id : String) (record : EvidenceRecord) : List String :=
  (if record.incident_id ≠ action.incident_id ∨ record.thread_id ≠ action.thread_id then
    [cross_context_evidence evidence_id] else []) ++
  (if context.any fun context => record.correlation_id ≠ context.correlation_id then
    [correlation_context_mismatch evidence_id] else []) ++
  age_reasons rule now evidence_id record ++
  (if V.allowed_sources.contains record.tool_name then []
    else [unallowed_evidence_source evidence_id]) ++
  (if V.contains_embedded_instruction record.payload then [embedded_instruction_data evidence_id]
    else [])

def citation_reasons (evidence_id : String) : List String :=
  match by_id records evidence_id with
  | none => [unknown_evidence evidence_id]
  | some record => V.record_reasons rule now action context evidence_id record

def reasons : List String :=
  action.evidence_ids.flatMap (V.citation_reasons rule now action records context) ++
    if rule.evidence.citation_required && action.evidence_ids.isEmpty then [CITATIONS_REQUIRED]
    else []

/-- `validate`, at the time of its clock. -/
def validate : EvidenceValidation :=
  match rule? V.policy action with
  | none => ⟨.INVALID, [UNKNOWN_TOOL], [], [], List.cons_ne_nil _ _⟩
  | some rule =>
    let digest := action.evidence_ids.filterMap fun evidence_id =>
      (by_id records evidence_id).map fun record =>
        (record.evidence_id, record.tool_name, record.observed_at)
    if h : V.reasons rule now action records context = [] then
      ⟨.VALID, [EVIDENCE_VALID], action.evidence_ids, digest, List.cons_ne_nil _ _⟩
    else ⟨.INVALID, V.reasons rule now action records context, action.evidence_ids, digest, h⟩

end EvidenceValidator

/-! ### Consultations -/

section
variable (V : EvidenceValidator) (now : Time)

/-- A consultation that the graph builds: the evidence is what the gate said of the action and its
records, an enforcing gate let it through, and so did an enforcing policy. -/
structure Consulted (context : Option ToolCallContext) (c : MonitorConsultation) : Prop where
  evidence : c.evidence = V.validate now c.action c.records context
  evidence_gate : c.safeguards.evidence_gate = .ENFORCE → c.evidence.state = .VALID
  policy_gate : c.safeguards.policy_gate = .ENFORCE → c.policy.decision ≠ .DENY
  monitor_gate : c.safeguards.monitor_gate ≠ .DISABLED

/-- The freshness that a rule gives a record; without a rule no record is too old. -/
def rule_freshness (rule : Option ToolPolicyRule) (record : EvidenceRecord) : Freshness :=
  if record.expires_at ≤ now then .expired
  else if rule.any fun rule =>
      rule.evidence.max_age_seconds * SECOND < now - record.observed_at then .stale
  else .fresh

/-- The gate judges a record if there is a rule and the action cites it; of the records under one id
it judges the last. -/
def Judged (c : MonitorConsultation) (record : EvidenceRecord) : Prop :=
  (rule? V.policy c.action).isSome ∧ record.evidence_id ∈ c.action.evidence_ids

/-- What is judged has the freshness of the record that is judged for it, and what is not judged is
fresh. -/
structure ToldApart (c : MonitorConsultation) (record : EvidenceRecord) : Prop where
  judged : Judged V c record → ∀ last,
    EvidenceValidator.by_id c.records record.evidence_id = some last →
      rule_freshness now (rule? V.policy c.action) last =
        rule_freshness now (rule? V.policy c.action) record
  unjudged : ¬Judged V c record → rule_freshness now (rule? V.policy c.action) record = .fresh

end

/-- The fact of a committed call at its position. -/
def ledger_fact (withArguments : Bool) (position : ℕ) (call : MonitorInputs.Call) :
    CommittedCallFact where
  position := position
  tool_name := call.tool_name.getD "<unnamed>"
  scope := call.operation_scope
  status := "committed"
  arguments := if withArguments then some (argumentsOf call) else none

/-- The fact is the row's value under the path. -/
def IsColumn (row : FixtureRow) (path : String) (fact : CurrentStateFact) : Prop :=
  fact.path = path ∧ ∃ value, row.1.lookup path = some (.scalar value) ∧ fact.value = value.1

section
variable (R : Repository) (manifest : Manifest) (version : InputVersion) (c : MonitorConsultation)

/-- The paths that the version projects, and the row that they are read from. -/
def Projects (paths : List String) (row : FixtureRow) : Prop :=
  statePaths R version c.incident.scenario_id (scenario_projection manifest) = .ok paths ∧
    R.checkpoint_state c.incident.scenario_id = .ok row

/-- The input carries the facts as they are: every committed call in its order, the freshness that
the rule gives each record, the value of the fixture row on every path that the version projects,
and the action's digest. -/
structure Carries (now : Time) (rule : Option ToolPolicyRule) (i : MonitorInputFields) : Prop where
  committed_calls : i.committed_calls =
    (R.ordered_operation_calls c.incident.incident_id).mapIdx (ledger_fact version.withArguments)
  freshness : i.evidence_facts.map (·.freshness) = c.records.map (rule_freshness now rule)
  current_state_facts : ∃ paths row, Projects R manifest version c paths row ∧
    List.Forall₂ (IsColumn row) (sorted paths) i.current_state_facts
  action_fingerprint : i.action_fingerprint =
    sha256_hexdigest (dumps c.action.arguments.model_dump)

/-- Every path that the version projects is a column with a JSON scalar. -/
def ScalarColumns : Prop :=
  ∀ paths row, Projects R manifest version c paths row →
    ∀ path ∈ paths, ∃ value, row.1.lookup path = some (.scalar value)

end

/-! ### The labels -/

/-- A reason that is no label of a freshness. -/
def Ageless (reason : String) : Prop :=
  ∀ id, reason ≠ expired_evidence id ∧ reason ≠ stale_evidence id

lemma family_ne {p q : String} (hp : 2 ≤ p.toList.length) (hq : 2 ≤ q.toList.length)
    (h : p.toList.take 2 ≠ q.toList.take 2) (a b : String) : p ++ a ≠ q ++ b := by
  intro he
  have htake := congrArg (fun s => s.toList.take 2) he
  simp only [String.toList_append] at htake
  rw [List.take_append_of_le_length hp, List.take_append_of_le_length hq] at htake
  exact h htake

lemma ageless_of_family {p : String} (hp : 2 ≤ p.toList.length)
    (h : p.toList.take 2 ≠ ['e', 'x'] ∧ p.toList.take 2 ≠ ['s', 't']) (a : String) :
    Ageless (p ++ a) := fun id =>
  ⟨family_ne hp (by decide) (by simpa using h.1) a id,
    family_ne hp (by decide) (by simpa using h.2) a id⟩

lemma append_right_inj {p a b : String} : p ++ a = p ++ b ↔ a = b := by
  constructor
  · intro h
    have hchars := congrArg String.toList h
    simp only [String.toList_append] at hchars
    exact String.toList_inj.mp (List.append_cancel_left hchars)
  · rintro rfl
    rfl

@[simp] lemma expired_inj {a b : String} : expired_evidence a = expired_evidence b ↔ a = b :=
  append_right_inj

@[simp] lemma stale_inj {a b : String} : stale_evidence a = stale_evidence b ↔ a = b :=
  append_right_inj

@[simp] lemma expired_ne_stale (a b : String) : expired_evidence a ≠ stale_evidence b :=
  family_ne (by decide) (by decide) (by decide) a b

@[simp] lemma stale_ne_expired (a b : String) : stale_evidence a ≠ expired_evidence b :=
  (expired_ne_stale b a).symm

/-- The reasons name exactly the freshness of an id. -/
structure Labels (reasons : List String) (id : String) (freshness : Freshness) : Prop where
  expired : expired_evidence id ∈ reasons ↔ freshness = .expired
  stale : stale_evidence id ∈ reasons ↔ freshness = .stale

section
variable {reasons others : List String} {id : String} {freshness : Freshness}

lemma Labels.freshness_of (h : Labels reasons id freshness) :
    freshness_of reasons id = freshness := by
  unfold MonitorInputs.freshness_of
  simp only [List.contains_iff_mem, h.expired, h.stale]
  cases freshness <;> simp

lemma labels_of_ageless (h : ∀ r ∈ reasons, Ageless r) : Labels reasons id .fresh :=
  ⟨iff_of_false (fun hmem => (h _ hmem id).1 rfl) (by simp),
    iff_of_false (fun hmem => (h _ hmem id).2 rfl) (by simp)⟩

lemma labels_one {reason : String} (h : Ageless reason) : Labels [reason] id .fresh :=
  labels_of_ageless fun r hr => by
    obtain rfl := List.mem_singleton.mp hr
    exact h

lemma Labels.after (h : Labels reasons id freshness) (hothers : Labels others id .fresh) :
    Labels (others ++ reasons) id freshness := by
  constructor
  · simp [h.expired, hothers.expired]
  · simp [h.stale, hothers.stale]

lemma Labels.before (h : Labels reasons id freshness) (hothers : Labels others id .fresh) :
    Labels (reasons ++ others) id freshness := by
  constructor
  · simp [h.expired, hothers.expired]
  · simp [h.stale, hothers.stale]

lemma Labels.again (h : Labels reasons id freshness) (hothers : Labels others id freshness) :
    Labels (others ++ reasons) id freshness := by
  constructor
  · simp [h.expired, hothers.expired]
  · simp [h.stale, hothers.stale]

end

section
variable {V : EvidenceValidator} {rule : ToolPolicyRule} {now : Time} {action : CanonicalAction}
  {records : List EvidenceRecord} {context : Option ToolCallContext} {id evidence_id : String}
  {record : EvidenceRecord}

lemma labels_age : Labels (EvidenceValidator.age_reasons rule now id record) id
    (rule_freshness now (some rule) record) := by
  unfold EvidenceValidator.age_reasons rule_freshness
  by_cases hexpired : record.expires_at ≤ now
  · constructor <;> simp [hexpired]
  · by_cases hstale : rule.evidence.max_age_seconds * SECOND < now - record.observed_at
    · constructor <;> simp [hexpired, hstale]
    · constructor <;> simp [hexpired, hstale]

lemma labels_other_age (hne : id ≠ evidence_id) :
    Labels (EvidenceValidator.age_reasons rule now evidence_id record) id .fresh := by
  unfold EvidenceValidator.age_reasons
  split
  · constructor <;> simp [hne]
  · split
    · constructor <;> simp [hne]
    · constructor <;> simp

lemma labels_family {p : Prop} [Decidable p] {family : String} (hlength : 2 ≤ family.toList.length)
    (h : family.toList.take 2 ≠ ['e', 'x'] ∧ family.toList.take 2 ≠ ['s', 't']) :
    Labels (if p then [family ++ evidence_id] else []) id .fresh := by
  split
  · exact labels_one (ageless_of_family hlength h evidence_id)
  · exact labels_of_ageless (by simp)

lemma labels_record {freshness : Freshness}
    (h : Labels (EvidenceValidator.age_reasons rule now evidence_id record) id freshness) :
    Labels (V.record_reasons rule now action context evidence_id record) id freshness := by
  have hcontext : Labels (if record.incident_id ≠ action.incident_id ∨
      record.thread_id ≠ action.thread_id then [cross_context_evidence evidence_id] else []) id
      .fresh := labels_family (by decide) (by decide)
  have hcorrelation : Labels (if context.any fun context =>
      record.correlation_id ≠ context.correlation_id then
        [correlation_context_mismatch evidence_id] else []) id .fresh :=
    labels_family (by decide) (by decide)
  have hsource : Labels (if V.allowed_sources.contains record.tool_name then [] else
      [unallowed_evidence_source evidence_id]) id .fresh := by
    rw [← ite_not]
    exact labels_family (by decide) (by decide)
  have hinstruction : Labels (if V.contains_embedded_instruction record.payload then
      [embedded_instruction_data evidence_id] else []) id .fresh :=
    labels_family (by decide) (by decide)
  exact ((h.after (hcorrelation.after hcontext)).before hsource).before hinstruction

/-- What a citation says of its own id, and of any other. -/
lemma labels_citation : Labels (V.citation_reasons rule now action records context id) id
    (((EvidenceValidator.by_id records id).map (rule_freshness now (some rule))).getD .fresh) := by
  unfold EvidenceValidator.citation_reasons
  cases EvidenceValidator.by_id records id with
  | none => exact labels_one (ageless_of_family (by decide) (by decide) id)
  | some record => exact labels_record labels_age

lemma labels_other_citation (hne : id ≠ evidence_id) :
    Labels (V.citation_reasons rule now action records context evidence_id) id .fresh := by
  unfold EvidenceValidator.citation_reasons
  cases EvidenceValidator.by_id records evidence_id with
  | none => exact labels_one (ageless_of_family (by decide) (by decide) evidence_id)
  | some record => exact labels_record (labels_other_age hne)

lemma labels_citations (cited : List String) :
    Labels (cited.flatMap (V.citation_reasons rule now action records context)) id
      (if id ∈ cited then
        ((EvidenceValidator.by_id records id).map (rule_freshness now (some rule))).getD .fresh
      else .fresh) := by
  induction cited with
  | nil => exact labels_of_ageless (by simp)
  | cons evidence_id cited ih =>
    rw [List.flatMap_cons]
    by_cases hid : id = evidence_id
    · subst hid
      rw [if_pos List.mem_cons_self]
      by_cases hmem : id ∈ cited
      · rw [if_pos hmem] at ih
        exact ih.again labels_citation
      · rw [if_neg hmem] at ih
        exact labels_citation.before ih
    · simp only [List.mem_cons, or_iff_right hid]
      exact ih.after (labels_other_citation hid)

lemma ageless_word {word : String} (hlength : 2 ≤ word.toList.length)
    (h : word.toList.take 2 ≠ ['e', 'x'] ∧ word.toList.take 2 ≠ ['s', 't']) : Ageless word := by
  simpa using ageless_of_family hlength h ""

lemma labels_reasons : Labels (V.reasons rule now action records context) id
    (if id ∈ action.evidence_ids then
      ((EvidenceValidator.by_id records id).map (rule_freshness now (some rule))).getD .fresh
    else .fresh) := by
  refine (labels_citations action.evidence_ids).before ?_
  split
  · exact labels_one (ageless_word (by decide) (by decide))
  · exact labels_of_ageless (by simp)

/-- The freshness that is read off the gate's reasons. -/
lemma freshness_of_validate : freshness_of (V.validate now action records context).reasons id =
    if (rule? V.policy action).isSome ∧ id ∈ action.evidence_ids then
      ((EvidenceValidator.by_id records id).map (rule_freshness now (rule? V.policy action))).getD
        .fresh
    else .fresh := by
  refine Labels.freshness_of ?_
  unfold EvidenceValidator.validate
  rcases hrule : rule? V.policy action with _ | rule
  · simp only [Option.isSome_none, Bool.false_eq_true, false_and, if_false]
    exact labels_one (ageless_word (by decide) (by decide))
  · simp only [Option.isSome_some, true_and]
    have hreasons : Labels (V.reasons rule now action records context) id _ := labels_reasons
    split
    · rename_i hnone
      -- no reason at all is no label, and neither is the word that stands for it
      rw [hnone] at hreasons
      have hword : Labels [EVIDENCE_VALID] id .fresh :=
        labels_one (ageless_word (by decide) (by decide))
      exact hreasons.after hword
    · exact hreasons

end

/-! ### The facts of an input -/

section
variable {scenario_id : String} {reasons : List String}

lemma callFacts_ok {withArguments : Bool} {calls : List MonitorInputs.Call} :
    ∀ {position : ℕ} {facts : List CommittedCallFact},
      callFacts withArguments position calls = .ok facts →
        facts = calls.mapIdx fun index => ledger_fact withArguments (position + index) := by
  induction calls with
  | nil =>
    intro position facts h
    exact (Except.ok.inj h).symm
  | cons call calls ih =>
    intro position facts h
    obtain ⟨fact, hfact, h⟩ := except_bind_ok.mp h
    obtain ⟨rest, hrest, h⟩ := except_bind_ok.mp h
    obtain ⟨-, -, hfact⟩ := except_bind_ok.mp hfact
    obtain rfl := Except.ok.inj hfact
    obtain rfl := Except.ok.inj h
    rw [ih hrest, List.mapIdx_cons]
    refine congrArg₂ List.cons rfl (congrArg (List.mapIdx · calls) ?_)
    funext index
    rw [Nat.add_right_comm, Nat.add_assoc]

lemma columns_iff {row : FixtureRow} {paths : List String} {facts : List CurrentStateFact}
    (h : stateFacts row paths = .ok facts) : List.Forall₂ (IsColumn row) paths facts ↔
      ∀ path ∈ paths, ∃ value, row.1.lookup path = some (.scalar value) := by
  induction paths generalizing facts with
  | nil =>
    obtain rfl := Except.ok.inj h
    simp
  | cons path paths ih =>
    unfold stateFacts at h
    split at h
    · rename_i value hvalue
      obtain ⟨-, -, h⟩ := except_bind_ok.mp h
      obtain ⟨rest, hrest, h⟩ := except_bind_ok.mp h
      obtain rfl := Except.ok.inj h
      have hfact : IsColumn row path ⟨path, value.1⟩ := ⟨rfl, value, hvalue, rfl⟩
      rw [List.forall₂_cons, and_iff_right hfact, ih hrest, List.forall_mem_cons,
        and_iff_right ⟨value, hvalue⟩]
    · rename_i hnone
      -- the path is passed over, and the facts that follow are another path's
      refine iff_of_false (fun hall => ?_) fun hall => ?_
      · cases hall with
        | cons hcolumn _ =>
          obtain ⟨-, value, hvalue, -⟩ := hcolumn
          exact hnone value hvalue
      · obtain ⟨value, hvalue⟩ := hall path List.mem_cons_self
        exact hnone value hvalue

lemma evidence_facts_ok {records : List EvidenceRecord} {index : ℕ} {facts : List EvidenceFact}
    (h : evidence_facts scenario_id reasons index records = .ok facts) :
    facts.map (·.freshness) = records.map fun record =>
      freshness_of reasons record.evidence_id := by
  induction records generalizing index facts with
  | nil =>
    obtain rfl := Except.ok.inj h
    rfl
  | cons record records ih =>
    obtain ⟨fact, hfact, h⟩ := except_bind_ok.mp h
    obtain ⟨rest, hrest, h⟩ := except_bind_ok.mp h
    obtain rfl := Except.ok.inj h
    obtain ⟨values, -, hfact⟩ := except_bind_ok.mp hfact
    obtain ⟨-, -, hfact⟩ := except_bind_ok.mp hfact
    obtain ⟨-, -, hfact⟩ := except_bind_ok.mp hfact
    obtain ⟨-, -, hfact⟩ := except_bind_ok.mp hfact
    obtain rfl := Except.ok.inj hfact
    rw [List.map_cons, List.map_cons, ih hrest]

end

/-! ### Shown as they are -/

section
variable {W : World} {monitor : SemanticAdvisoryMonitor} {V : EvidenceValidator} {now : Time}
  {context : Option ToolCallContext} {c : MonitorConsultation} {i : MonitorInput}

/-- The input that a consultation renders. -/
def Renders (W : World) (monitor : SemanticAdvisoryMonitor) (c : MonitorConsultation)
    (i : MonitorInput) : Prop :=
  monitor.projected W c = .ok i ∧ ∃ text, MonitorInputs.render monitor.input_version i = .ok text

/-- The label of a record is the freshness of the record that the gate judged for its id. -/
lemma label_eq_iff (hc : Consulted V now context c) {record : EvidenceRecord}
    (hmem : record ∈ c.records) :
    freshness_of c.evidence.reasons record.evidence_id =
        rule_freshness now (rule? V.policy c.action) record ↔ ToldApart V now c record := by
  rw [hc.evidence, freshness_of_validate]
  by_cases hjudged :
      (rule? V.policy c.action).isSome = true ∧ record.evidence_id ∈ c.action.evidence_ids
  · obtain ⟨last, hlast⟩ : ∃ last,
        EvidenceValidator.by_id c.records record.evidence_id = some last := by
      have hown : record ∈ c.records.filter (·.evidence_id = record.evidence_id) :=
        List.mem_filter.mpr ⟨hmem, by simp⟩
      exact ⟨_, List.getLast?_eq_some_getLast (List.ne_nil_of_mem hown)⟩
    rw [if_pos hjudged, hlast]
    constructor
    · intro hsame
      refine ⟨fun _ other hother => ?_, fun hno => absurd hjudged hno⟩
      obtain rfl := Option.some.inj (hlast.symm.trans hother)
      exact hsame
    · intro h
      exact h.judged hjudged last hlast
  · rw [if_neg hjudged]
    constructor
    · intro hfresh
      exact ⟨fun hyes => absurd hyes hjudged, fun _ => hfresh.symm⟩
    · intro h
      exact (h.unjudged hjudged).symm

/-- The freshness of what is shown is the rule's exactly if the records are told apart. -/
lemma freshness_iff (hc : Consulted V now context c) {manifest : Manifest}
    (hi : Projected W.repository monitor.input_version c manifest i.toMonitorInputFields) :
    i.evidence_facts.map (·.freshness) =
        c.records.map (rule_freshness now (rule? V.policy c.action)) ↔
      ∀ record ∈ c.records, ToldApart V now c record := by
  obtain ⟨-, -, hfacts⟩ := except_bind_ok.mp hi.evidence_facts
  rw [evidence_facts_ok hfacts, List.map_inj_left]
  exact forall₂_congr fun record hmem => label_eq_iff hc hmem

lemma committed_calls_iff {manifest : Manifest}
    (hi : Projected W.repository monitor.input_version c manifest i.toMonitorInputFields) :
    i.committed_calls = (W.repository.ordered_operation_calls c.incident.incident_id).mapIdx
        (ledger_fact monitor.input_version.withArguments) ↔
      (W.repository.ordered_operation_calls c.incident.incident_id).length ≤ 16 := by
  rw [callFacts_ok hi.committed_calls]
  simp only [Nat.zero_add]
  constructor
  · intro hsame
    have hlength := congrArg List.length hsame
    simp only [List.length_mapIdx, List.length_take] at hlength
    omega
  · intro hshort
    rw [List.take_of_length_le hshort]

lemma current_state_facts_iff {manifest : Manifest}
    (hi : Projected W.repository monitor.input_version c manifest i.toMonitorInputFields) :
    (∃ paths row, Projects W.repository manifest monitor.input_version c paths row ∧
        List.Forall₂ (IsColumn row) (sorted paths) i.current_state_facts) ↔
      ScalarColumns W.repository manifest monitor.input_version c := by
  obtain ⟨paths, row, hpaths, hrow, hfacts⟩ := stateShown_ok hi.current_state_facts
  have hsame : ∀ {paths' row'}, Projects W.repository manifest monitor.input_version c paths' row' →
      paths' = paths ∧ row' = row := fun h =>
    ⟨Except.ok.inj (h.1.symm.trans hpaths), Except.ok.inj (h.2.symm.trans hrow)⟩
  have hmem : ∀ path, path ∈ sorted paths ↔ path ∈ paths := fun path =>
    (List.perm_insertionSort _ paths).mem_iff
  have hcolumns := columns_iff hfacts
  simp only [hmem] at hcolumns
  constructor
  · rintro ⟨paths', row', hprojects, hall⟩ paths'' row'' hprojects'
    obtain ⟨rfl, rfl⟩ := hsame hprojects
    obtain ⟨rfl, rfl⟩ := hsame hprojects'
    exact hcolumns.mp hall
  · intro hscalar
    exact ⟨paths, row, ⟨hpaths, hrow⟩, hcolumns.mpr (hscalar paths row ⟨hpaths, hrow⟩)⟩

/-- A consultation whose input does not render is reported so exactly if the fixture row was read,
wherever the projection came to read it. -/
lemma unrenderable_iff (hnone : ¬∃ i, Renders W monitor c i) :
    (monitor.assess_consultation W c).outcome = .ok (.failed .INPUT_UNRENDERABLE) ↔
      ∀ message, monitor.projected W c ≠ .error (.RuntimeError message) := by
  unfold SemanticAdvisoryMonitor.assess_consultation MonitorCaller.assess_consultation
  rcases hprojected : monitor.projected W c with (_ | _ | message) | i
  · simp
  · simp
  · simp
  · rcases hrender : MonitorInputs.render monitor.input_version i with e | text
    · simp [hrender]
    · exact absurd ⟨i, hprojected, text, hrender⟩ hnone

end

/-- The monitor is shown the facts as they are, or nothing, exactly if the fixture row is read
wherever the projection comes to read it, and for an input that renders: the incident has sixteen
committed calls at most, its records are told apart, and every projected column is a scalar's. -/
theorem shown_as_they_are_iff (W : World) (monitor : SemanticAdvisoryMonitor)
    (V : EvidenceValidator) (now : Time) (context : Option ToolCallContext)
    (c : MonitorConsultation) (hc : Consulted V now context c) :
    (((¬∃ i, Renders W monitor c i) →
        (monitor.assess_consultation W c).outcome = .ok (.failed .INPUT_UNRENDERABLE)) ∧
      ∀ i, Renders W monitor c i → ∃ manifest, W.manifests c.incident.scenario_id = some manifest ∧
        Carries W.repository manifest monitor.input_version c now (rule? V.policy c.action)
          i.toMonitorInputFields) ↔
    (ReadsState W.repository W.manifests monitor.input_version c →
        ∀ message, W.repository.checkpoint_state c.incident.scenario_id ≠
          .error (.RuntimeError message)) ∧
      ((∃ i, Renders W monitor c i) →
        (W.repository.ordered_operation_calls c.incident.incident_id).length ≤ 16 ∧
        (∀ record ∈ c.records, ToldApart V now c record) ∧
        ∀ manifest, W.manifests c.incident.scenario_id = some manifest →
          ScalarColumns W.repository manifest monitor.input_version c) := by
  have hread : (ReadsState W.repository W.manifests monitor.input_version c →
      ∀ message, W.repository.checkpoint_state c.incident.scenario_id ≠
        .error (.RuntimeError message)) ↔
      ∀ message, monitor.projected W c ≠ .error (.RuntimeError message) := by
    simp only [SemanticAdvisoryMonitor.projected, ne_eq, project_runtime, not_and]
    exact ⟨fun h message hreads => h hreads message, fun h hreads message => h message hreads⟩
  rw [hread]
  -- a consultation renders one input at most, or the failure is reported
  by_cases hrenders : ∃ i, Renders W monitor c i
  · obtain ⟨i, hi⟩ := hrenders
    have honly : ∀ j, Renders W monitor c j → j = i := fun j hj =>
      Except.ok.inj (hj.1.symm.trans hi.1)
    obtain ⟨manifest, hmanifest, -, hprojected⟩ := project_ok hi.1
    have hmanifests : ∀ other, W.manifests c.incident.scenario_id = some other →
        other = manifest := fun other h => Option.some.inj (h.symm.trans hmanifest)
    constructor
    · rintro ⟨-, hcarries⟩
      obtain ⟨other, hother, hshown⟩ := hcarries i hi
      obtain rfl := hmanifests other hother
      refine ⟨by simp [hi.1], fun _ => ⟨(committed_calls_iff hprojected).mp hshown.committed_calls,
        (freshness_iff hc hprojected).mp hshown.freshness, fun other' hother' => ?_⟩⟩
      obtain rfl := hmanifests other' hother'
      exact (current_state_facts_iff hprojected).mp hshown.current_state_facts
    · rintro ⟨-, h⟩
      obtain ⟨hcalls, htold, hscalar⟩ := h ⟨i, hi⟩
      refine ⟨fun hnone => absurd ⟨i, hi⟩ hnone, fun j hj => ?_⟩
      obtain rfl := honly j hj
      exact ⟨manifest, hmanifest, (committed_calls_iff hprojected).mpr hcalls,
        (freshness_iff hc hprojected).mpr htold,
        (current_state_facts_iff hprojected).mpr (hscalar manifest hmanifest),
        hprojected.action_fingerprint⟩
  · rw [← unrenderable_iff hrenders]
    constructor
    · rintro ⟨hreported, -⟩
      exact ⟨hreported hrenders, fun h => absurd h hrenders⟩
    · rintro ⟨hreported, -⟩
      exact ⟨fun _ => hreported, fun i hi => absurd ⟨i, hi⟩ hrenders⟩

/-! ### An expired record beside the cited one -/

lemma renders_of_any (W : World) (monitor : SemanticAdvisoryMonitor) (c : MonitorConsultation)
    (shows : MonitorInput → Bool) (h : (monitor.projected W c).toOption.any (fun i =>
      shows i && (MonitorInputs.render monitor.input_version i).toOption.isSome) = true) :
    ∃ i, Renders W monitor c i ∧ shows i = true := by
  rcases hi : monitor.projected W c with e | i
  · rw [hi] at h
    cases h
  · rw [hi] at h
    obtain ⟨hshows, hrender⟩ := Bool.and_eq_true_iff.mp h
    rcases htext : MonitorInputs.render monitor.input_version i with e | text
    · rw [htext] at hrender
      cases hrender
    · exact ⟨i, ⟨hi, text, htext⟩, hshows⟩

def labValidator : EvidenceValidator :=
  ⟨restartPolicy "api", ["observability.health"], fun _ => false⟩

def citedRecord : EvidenceRecord :=
  healthRecord "evidence-1" "thread-1" Withheld.isNonEmpty_evidence 100

/-- It has expired at the time of the consultation. -/
def expiredRecord : EvidenceRecord :=
  healthRecord "evidence-2" "thread-1" Withheld.isNonEmpty_evidence_two 0

/-- A proposal that cites the first record, under gates that enforce. -/
def labConsultation (records : List EvidenceRecord) : MonitorConsultation where
  incident := Withheld.firstThread.incident
  action := Withheld.firstThread.action
  records := records
  evidence := labValidator.validate 130 Withheld.firstThread.action records none
  policy := Withheld.secondThread.policy
  safeguards := ⟨.ENFORCE, .ENFORCE, .ENFORCE, .DURABLE_HUMAN, none⟩

lemma lab_consulted {records : List EvidenceRecord}
    (h : (labValidator.validate 130 Withheld.firstThread.action records none).state = .VALID) :
    Consulted labValidator 130 none (labConsultation records) where
  evidence := rfl
  evidence_gate _ := h
  policy_gate _ := nofun
  monitor_gate := nofun

/-- A monitor of the fifth input, which is shown the fixture row. -/
def rowMonitor : SemanticAdvisoryMonitor :=
  ⟨.v5, ⟨"claude-haiku-4-5", .v5, MonitorCaller.haiku_known⟩⟩

lemma pool_columns : ScalarColumns Withheld.labWorld.repository Withheld.labManifest .v5
    (labConsultation [citedRecord]) := by
  rintro paths row ⟨hpaths, hrow⟩ path hmem
  obtain rfl := Except.ok.inj hrow
  obtain rfl : ["component", "config_present", "config_reference", "generation", "health_status",
      "mutation_count", "pool_capacity", "pool_used"] = paths :=
    (by decide +kernel : _ = sorted _).trans (Except.ok.inj hpaths)
  simp only [List.mem_cons, List.not_mem_nil, or_false] at hmem
  rcases hmem with rfl | rfl | rfl | rfl | rfl | rfl | rfl | rfl <;> exact ⟨_, rfl⟩

/-- The cited record and the row of the pool are shown as they are. -/
theorem shown_as_they_are_cited :
    ∃ i, Renders Withheld.labWorld rowMonitor (labConsultation [citedRecord]) i ∧
      i.current_state_facts.length = 8 ∧
      ∃ manifest, Withheld.labWorld.manifests "D3" = some manifest ∧
        Carries Withheld.labWorld.repository manifest .v5 (labConsultation [citedRecord]) 130
          (rule? labValidator.policy Withheld.firstThread.action) i.toMonitorInputFields := by
  obtain ⟨i, hrenders, hlength⟩ := renders_of_any Withheld.labWorld rowMonitor
    (labConsultation [citedRecord]) (fun i => i.current_state_facts.length = 8)
    (by decide +kernel)
  refine ⟨i, hrenders, of_decide_eq_true hlength,
    ((shown_as_they_are_iff Withheld.labWorld rowMonitor labValidator 130 none
      (labConsultation [citedRecord]) (lab_consulted (by decide +kernel))).mpr
      ⟨fun _ message h => ?_, fun _ => ⟨Nat.zero_le 16, fun record hmem => ?_,
        fun manifest hmanifest => ?_⟩⟩).2 i hrenders⟩
  · cases h
  · obtain rfl := List.mem_singleton.mp hmem
    refine ⟨fun _ last hlast => ?_, fun hno => absurd ?_ hno⟩
    · obtain rfl := Option.some.inj hlast
      rfl
    · exact ⟨by decide +kernel, by decide +kernel⟩
  · obtain rfl := Option.some.inj hmanifest
    exact pool_columns

/-- The expired record is shown as fresh. -/
theorem uncited_expired_shown_fresh :
    Consulted labValidator 130 none (labConsultation [citedRecord, expiredRecord]) ∧
      ∃ i, Renders Withheld.labWorld Withheld.labMonitor
          (labConsultation [citedRecord, expiredRecord]) i ∧
        ¬∃ manifest, Withheld.labWorld.manifests "D3" = some manifest ∧
          Carries Withheld.labWorld.repository manifest .v3
            (labConsultation [citedRecord, expiredRecord]) 130
            (rule? labValidator.policy Withheld.firstThread.action) i.toMonitorInputFields := by
  refine ⟨lab_consulted (by decide +kernel), ?_⟩
  obtain ⟨i, hrenders, hfresh⟩ := renders_of_any Withheld.labWorld Withheld.labMonitor
    (labConsultation [citedRecord, expiredRecord])
    (fun i => i.evidence_facts.map (·.freshness) = [.fresh, .fresh]) (by decide +kernel)
  refine ⟨i, hrenders, ?_⟩
  rintro ⟨manifest, -, hcarries⟩
  have hrule := hcarries.freshness
  rw [of_decide_eq_true hfresh] at hrule
  revert hrule
  decide +kernel

end IncidentGate.ShownFacts
