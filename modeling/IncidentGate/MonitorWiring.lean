import IncidentGate.MonitorCaller

/-!
The wiring of a semantic monitor: a configuration names the version of the projection, the caller
names the version it renders, and a threshold artifact is compared with the caller alone.
-/

namespace IncidentGate.MonitorWiring

open Lib.JsonText Lib.JsonRead Lib.TextPattern Contracts ProposerPrompt MonitorInputs MonitorCaller

/-! ### Configurations -/

def providerName : ModelProvider → String
  | .anthropic => "anthropic"
  | .openai => "openai"
  | .local_weights => "local"

/-- What a threshold artifact is bound to, and its thresholds. -/
structure ThresholdArtifact where
  provider : String
  model : String
  prompt_version : String
  input_schema_sha256 : ActionHash
  output_schema_sha256 : ActionHash
  thresholds : MonitorThresholds

section
variable (S : MonitorSchemas) (artifact : ThresholdArtifact) (caller : StructuredMonitorCallerV3)

/-- The identities in which the artifact does not describe the caller. -/
def mismatched : List String :=
  [("provider", decide (artifact.provider ≠ providerName caller.provider)),
    ("model", decide (artifact.model ≠ caller.model)),
    ("prompt_version", decide (artifact.prompt_version ≠ caller.prompt_version)),
    ("input_schema_sha256", decide (artifact.input_schema_sha256 ≠ caller.input_schema_sha256 S)),
    ("output_schema_sha256", decide (artifact.output_schema_sha256 ≠ S.output_v3))].filterMap
    fun stated => if stated.2 then some stated.1 else none

def require_artifact_describes_caller : Validator :=
  refuseIf (!(mismatched S artifact caller).isEmpty)
    ("semantic monitor threshold provenance does not match caller: " ++
      ", ".intercalate (mismatched S artifact caller))

end

/-- `SemanticMonitorConfigurationV3`, `SemanticMonitorConfigurationV4` and
`SemanticMonitorConfigurationV5`, by their version. -/
structure SemanticMonitorConfiguration where
  input_version : InputVersion
  caller : StructuredMonitorCallerV3
  artifact : ThresholdArtifact

/-- `SemanticAdvisoryMonitorV3`: the projection and the renderer of one version, and a caller. -/
structure SemanticAdvisoryMonitor where
  input_version : InputVersion
  caller : StructuredMonitorCallerV3

structure SemanticMonitorBundle where
  monitor : SemanticAdvisoryMonitor
  thresholds : MonitorThresholds

/-- `build` of each configuration -/
def SemanticMonitorConfiguration.build (S : MonitorSchemas)
    (configuration : SemanticMonitorConfiguration) : Except String SemanticMonitorBundle := do
  require_artifact_describes_caller S configuration.artifact configuration.caller
  return ⟨⟨configuration.input_version, configuration.caller⟩, configuration.artifact.thresholds⟩

/-! ### A consultation -/

/-- The outside of a consultation: the schemas, the decoders, the client and the durable reads. -/
structure World where
  schemas : MonitorSchemas
  decoders : Decoders
  client : Client
  repository : Repository
  manifests : String → Option Manifest

namespace SemanticAdvisoryMonitor

variable (W : World) (monitor : SemanticAdvisoryMonitor) (consultation : MonitorConsultation)

def projected : Except MonitorInputs.ProjectionError MonitorInput :=
  project W.repository W.manifests monitor.input_version consultation

def assess_consultation : Observed BoundMonitorAssessmentV3 :=
  MonitorCaller.assess_consultation (render monitor.input_version)
    (monitor.caller.assess W.schemas W.decoders W.client) (monitor.projected W consultation)

/-- The consultation sends `request` for `input_value`. -/
def Sends (input_value : MonitorInput) (request : CompletionRequest) : Prop :=
  monitor.projected W consultation = .ok input_value ∧
    (∃ text, render monitor.input_version input_value = .ok text) ∧
    (monitor.caller.assess W.schemas W.decoders W.client input_value).2.last_request = some request

end SemanticAdvisoryMonitor

/-- A value inside the text that a request is keyed by. -/
def keyField (request : CompletionRequest) (name : String) : Option Json := do
  get (← loads request.canonical_prompt.toList) name

/-! ### The key of a request -/

section
variable {S : MonitorSchemas} {caller : StructuredMonitorCallerV3} {input_value : MonitorInput}
  {user : String}

lemma nodup_key : ((caller.canonical_fields S input_value user).map (·.1)).Nodup := by
  have hsub : ((caller.canonical_fields S input_value user).map (·.1)).Sublist
      (["system", "user", "model", "max_tokens", "temperature", "thinking", "input_schema_sha256",
        "output_schema_sha256", "prompt_version", "output_contract"] ++ ["reasoning"] ++
        ["think"] ++ ["sampling"]) := by
    simp only [StructuredMonitorCallerV3.canonical_fields, List.map_append]
    exact (((List.Sublist.refl _).append (keys_optional _ _)).append (keys_optional _ _)).append
      (keys_optional _ _)
  exact hsub.nodup (by decide)

lemma canonical_sampling : ∀ v ∈ caller.sampling, Canonical v := by
  intro v hv
  unfold StructuredMonitorCallerV3.sampling at hv
  split at hv
  · obtain rfl := Option.some.inj hv
    refine canonical_dict (by decide) fun f hf => ?_
    simp only [List.mem_cons, List.not_mem_nil, or_false] at hf
    rcases hf with rfl | rfl
    · trivial
    · trivial
  · cases hv

lemma canonical_temperature : ∀ v ∈ caller.temperature, Canonical v := by
  intro v hv
  unfold StructuredMonitorCallerV3.temperature at hv
  split at hv
  · obtain rfl := Option.some.inj hv
    exact .inr (by decide +kernel)
  · cases hv

lemma canonical_key : Canonical (dict (caller.canonical_fields S input_value user)) := by
  obtain ⟨hthinking, hreasoning, hthink, -⟩ := canonical_directives caller.model
  refine canonical_dict nodup_key fun f hf => ?_
  simp only [StructuredMonitorCallerV3.canonical_fields, List.mem_append] at hf
  rcases hf with ((hf | hf) | hf) | hf
  · simp only [List.mem_cons, List.not_mem_nil, or_false] at hf
    rcases hf with rfl | rfl | rfl | rfl | rfl | rfl | rfl | rfl | rfl | rfl
    any_goals trivial
    · exact canonical_nullable canonical_temperature
    · exact canonical_nullable hthinking
  · exact canonical_of_optional hreasoning f hf
  · exact canonical_of_optional hthink f hf
  · exact canonical_of_optional canonical_sampling f hf

/-- A built request: the rendered text, and the key that names the caller's schema and the input's
prompt version. -/
structure Built (S : MonitorSchemas) (caller : StructuredMonitorCallerV3)
    (input_value : MonitorInput) (request : CompletionRequest) : Prop where
  user_content : render caller.input_contract input_value = .ok request.user_content
  input_schema_sha256 :
    keyField request "input_schema_sha256" = some (.str (caller.input_schema_sha256 S).1)
  prompt_version : keyField request "prompt_version" = some (.str input_value.prompt_version)
  system : request.system = SYSTEM_PROMPT

lemma keyField_eq {name : String} {v : Json}
    (h : (name, v) ∈ caller.canonical_fields S input_value user) :
    keyField (caller.completion_request S input_value user) name = some v := by
  have hloads : loads (caller.completion_request S input_value user).canonical_prompt.toList =
      some (dict (caller.canonical_fields S input_value user)) := by
    rw [StructuredMonitorCallerV3.completion_request, String.toList_ofList,
      loads_dumps canonical_key]
  have hget : get (dict (caller.canonical_fields S input_value user)) name = some v := by
    rw [get_dict nodup_key, find?_of_nodup nodup_key h]
    rfl
  simp [keyField, hloads, hget]

lemma build_request_ok {request : CompletionRequest}
    (h : caller.build_request S input_value = .ok request) :
    Built S caller input_value request := by
  unfold StructuredMonitorCallerV3.build_request at h
  rcases hrender : render caller.input_contract input_value with e | text
  · rw [hrender] at h
    cases h
  · rw [hrender] at h
    cases h
    refine ⟨hrender, keyField_eq ?_, keyField_eq ?_, rfl⟩
    · simp [StructuredMonitorCallerV3.canonical_fields]
    · simp [StructuredMonitorCallerV3.canonical_fields]

end

/-! ### One version -/

section
variable (W : World) (configuration : SemanticMonitorConfiguration)

/-- Everything that names a version in a consultation that is sent names `version`: the class of the
input, the renderer of the text, the key, the caller and the artifact; and the remembered hash is
that of the text. -/
structure Names (version : InputVersion) (consultation : MonitorConsultation)
    (monitor : SemanticAdvisoryMonitor) (input_value : MonitorInput) (request : CompletionRequest) :
    Prop where
  input : input_value.version = version
  renderer : render version input_value = .ok request.user_content
  key_schema : keyField request "input_schema_sha256" = some (.str (W.schemas.input version).1)
  key_prompt : keyField request "prompt_version" = some (.str version.prompt_version)
  caller_schema : monitor.caller.input_schema_version = version.schema_version
  caller_prompt : monitor.caller.prompt_version = version.prompt_version ++ ".output-v3"
  artifact_schema : configuration.artifact.input_schema_sha256 = W.schemas.input version
  artifact_prompt : configuration.artifact.prompt_version = version.prompt_version ++ ".output-v3"
  hash : (monitor.assess_consultation W consultation).last_input_hash =
    some (sha256_hexdigest request.user_content.toList)

/-- A build that succeeds names one version in everything it sends, and a caller of another version
is refused. -/
structure WiredAsOne : Prop where
  sends : ∀ bundle, configuration.build W.schemas = .ok bundle →
    ∀ consultation input_value request,
      bundle.monitor.Sends W consultation input_value request →
        ∃ version, Names W configuration version consultation bundle.monitor input_value request
  refuses : configuration.caller.input_contract ≠ configuration.input_version →
    ∀ bundle, configuration.build W.schemas ≠ .ok bundle

/-- The artifact describes the caller in its five identities. -/
structure Describes (S : MonitorSchemas) (artifact : ThresholdArtifact)
    (caller : StructuredMonitorCallerV3) : Prop where
  provider : artifact.provider = providerName caller.provider
  model : artifact.model = caller.model
  prompt_version : artifact.prompt_version = caller.prompt_version
  input_schema_sha256 : artifact.input_schema_sha256 = caller.input_schema_sha256 S
  output_schema_sha256 : artifact.output_schema_sha256 = S.output_v3

variable {W configuration}

lemma describes_iff {S : MonitorSchemas} {artifact : ThresholdArtifact}
    {caller : StructuredMonitorCallerV3} :
    require_artifact_describes_caller S artifact caller = .ok () ↔ Describes S artifact caller := by
  have hempty : (mismatched S artifact caller).isEmpty = true ↔ Describes S artifact caller := by
    rw [List.isEmpty_iff, mismatched, List.filterMap_eq_nil_iff]
    simp only [List.mem_cons, List.not_mem_nil, or_false, forall_eq_or_imp, forall_eq,
      ite_eq_right_iff, decide_eq_true_eq, reduceCtorEq, imp_false, not_not]
    constructor
    · rintro ⟨hp, hm, hv, hi, ho⟩
      exact ⟨hp, hm, hv, hi, ho⟩
    · rintro ⟨hp, hm, hv, hi, ho⟩
      exact ⟨hp, hm, hv, hi, ho⟩
  rw [require_artifact_describes_caller, refuseIf_ok, Bool.not_eq_false', hempty]

lemma build_ok_iff {bundle : SemanticMonitorBundle} :
    configuration.build W.schemas = .ok bundle ↔
      Describes W.schemas configuration.artifact configuration.caller ∧
        bundle = ⟨⟨configuration.input_version, configuration.caller⟩,
          configuration.artifact.thresholds⟩ := by
  rw [← describes_iff]
  unfold SemanticMonitorConfiguration.build
  rcases require_artifact_describes_caller W.schemas configuration.artifact configuration.caller
    with e | u
  · simp [bind, Except.bind]
  · simp [bind, Except.bind, pure, Except.pure, eq_comm]

lemma sent_request {monitor : SemanticAdvisoryMonitor} {consultation : MonitorConsultation}
    {input_value : MonitorInput} {request : CompletionRequest}
    (h : monitor.Sends W consultation input_value request) :
    monitor.caller.build_request W.schemas input_value = .ok request := by
  have hlast := h.2.2
  simp only [StructuredMonitorCallerV3.assess, assessWith] at hlast
  rcases hbuild : monitor.caller.build_request W.schemas input_value with e | built
  · simp [hbuild] at hlast
  · rw [hbuild] at hlast
    rcases hclient : W.client built with e | ⟨raw, invocation⟩
    · simp only [hclient] at hlast
      rw [Option.some.inj hlast]
    · simp only [hclient] at hlast
      rw [Option.some.inj hlast]

/-- A monitor whose caller renders the version of its projection names that version throughout. -/
lemma names_of_paired
    (hpaired : configuration.caller.input_contract = configuration.input_version)
    (hdescribes : Describes W.schemas configuration.artifact configuration.caller)
    {consultation : MonitorConsultation} {input_value : MonitorInput}
    {request : CompletionRequest}
    (h : (SemanticAdvisoryMonitor.mk configuration.input_version configuration.caller).Sends W
      consultation input_value request) :
    Names W configuration configuration.input_version consultation
      ⟨configuration.input_version, configuration.caller⟩ input_value request := by
  obtain ⟨-, -, hinput, -⟩ := project_ok h.1
  have hbuilt := build_request_ok (sent_request h)
  have hschema : configuration.caller.input_schema_sha256 W.schemas =
      W.schemas.input configuration.input_version := congrArg W.schemas.input hpaired
  have hprompt : configuration.caller.prompt_version =
      configuration.input_version.prompt_version ++ ".output-v3" := by
    rw [StructuredMonitorCallerV3.prompt_version, hpaired]
  have hrender : render configuration.input_version input_value = .ok request.user_content := by
    rw [← hpaired]
    exact hbuilt.user_content
  refine ⟨hinput, hrender, ?_, ?_, congrArg InputVersion.schema_version hpaired, hprompt, ?_, ?_,
    ?_⟩
  · rw [← hschema]
    exact hbuilt.input_schema_sha256
  · rw [hbuilt.prompt_version, MonitorInput.prompt_version, hinput]
  · rw [hdescribes.input_schema_sha256, hschema]
  · rw [hdescribes.prompt_version, hprompt]
  · simp only [SemanticAdvisoryMonitor.assess_consultation, MonitorCaller.assess_consultation, h.1,
      hrender]

/-- The wiring is one exactly if the caller renders the configuration's version, or the artifact
does not describe the caller. -/
theorem wired_as_one_iff (W : World) (configuration : SemanticMonitorConfiguration) :
    WiredAsOne W configuration ↔
      configuration.caller.input_contract = configuration.input_version ∨
        ¬Describes W.schemas configuration.artifact configuration.caller := by
  constructor
  · intro h
    by_contra hcrossed
    obtain ⟨hversion, hdescribes⟩ := not_or.mp hcrossed
    exact h.refuses hversion _ (build_ok_iff.mpr ⟨not_not.mp hdescribes, rfl⟩)
  · rintro (hpaired | hno)
    · refine ⟨fun bundle hbuild consultation input_value request hsends => ?_,
        fun hcrossed => absurd hpaired hcrossed⟩
      obtain ⟨hdescribes, rfl⟩ := build_ok_iff.mp hbuild
      exact ⟨configuration.input_version, names_of_paired hpaired hdescribes hsends⟩
    · refine ⟨fun bundle hbuild => ?_, fun _ bundle hbuild => ?_⟩
      · exact absurd (build_ok_iff.mp hbuild).1 hno
      · exact hno (build_ok_iff.mp hbuild).1

end

/-! ### A crossed pairing -/

/-- A caller of the third input contract, with the artifact that describes it. -/
def crossedConfiguration : SemanticMonitorConfiguration where
  input_version := .v4
  caller := quietCaller
  artifact := {
    provider := "anthropic"
    model := "claude-haiku-4-5"
    prompt_version := "monitor-prompt/v3.output-v3"
    input_schema_sha256 := Identities.plainHash
    output_schema_sha256 := Identities.plainHash
    thresholds := ⟨1, 1, [.forbidden], []⟩ }

def quietWorld : World where
  schemas := quietSchemas
  decoders := quietDecoders
  client := surrogateClient
  repository := ⟨fun _ => [], fun _ => .ok ⟨[], List.nodup_nil⟩⟩
  manifests _ := none

/-- The fourth configuration builds with a caller of the third contract. -/
theorem crossed_pairing_builds :
    crossedConfiguration.build quietWorld.schemas =
        .ok ⟨⟨.v4, quietCaller⟩, crossedConfiguration.artifact.thresholds⟩ ∧
      ¬WiredAsOne quietWorld crossedConfiguration := by
  have hdescribes : Describes quietWorld.schemas crossedConfiguration.artifact
      crossedConfiguration.caller := by
    refine ⟨?_, rfl, ?_, rfl, rfl⟩
    · decide +kernel
    · decide +kernel
  have hbuild := build_ok_iff.mpr ⟨hdescribes, rfl⟩
  refine ⟨hbuild, fun h => ?_⟩
  exact h.refuses (by decide) _ hbuild

end IncidentGate.MonitorWiring
