import IncidentGate.Contracts
import IncidentGate.SabotageRows
import IncidentGate.Lib.JsonRead

/-!
The provenance of a captured model response, its validation, and its JSON.

Timestamps and floats pass through pydantic on their way to JSON and back. What pydantic
makes of them is a parameter.
-/

namespace IncidentGate.Provenance

open Lib.Digest Lib.JsonText Lib.JsonRead Lib.TextPattern Contracts Invocations SabotageRows

def isScalar : Json → Bool
  | .obj _ | .arr _ => false
  | _ => true

@[simp] lemma isScalar_str (s : String) : isScalar (.str s) = true := rfl

@[simp] lemma isScalar_int (n : ℤ) : isScalar (.int n) = true := rfl

def isFlat : Json → Bool
  | .obj fields => fields.all fun f => isScalar f.2
  | v => isScalar v

/-- An object of scalars and of flat objects, as an entry is. -/
def isShallow : Json → Bool
  | .obj fields => fields.all fun f => isFlat f.2
  | _ => false

/-- The limits that `json` runs into: on the containers that are open at once, and on the digits
of an integer. What nests no deeper than an entry and prints is read back. -/
structure Interpreter where
  /-- `json.loads` raises `RecursionError`, or the `ValueError` of the digit limit. -/
  overruns : List Char → Bool
  /-- `json.dumps` raises no `ValueError` of the digit limit. -/
  prints : Json → Bool
  reads : ∀ v, isShallow v = true → prints v = true → overruns (dumps v) = false

/-- What pydantic makes of the values that JSON has no form for. -/
structure Pydantic (Moment : Type) extends Interpreter where
  isoformat : Moment → String
  aware : Moment → Bool
  datetime : Json → Option Moment
  strict_float : Json → Option PyFloat

def floatText : PyFloat → List Char
  | .finite r _ => r
  | .inf false => "Infinity".toList
  | .inf true => "-Infinity".toList
  | .nan => "NaN".toList

/-- An aware timestamp and a finite float read back from their JSON. -/
structure Pydantic.RoundTrips {Moment : Type} (P : Pydantic Moment) : Prop where
  datetime : ∀ t, P.aware t = true → P.datetime (.str (P.isoformat t)) = some t
  strict_float : ∀ x, x.isfinite = true → P.strict_float (.float (floatText x)) = some x

def readFloat : Json → Option PyFloat
  | .float t => if h : isFiniteRepr t = true then some (.finite t h) else none
  | _ => none

/-- Aware timestamps held by their text, and floats written as their `repr`. -/
def textual : Pydantic String where
  overruns _ := false
  prints _ := true
  reads _ _ _ := rfl
  isoformat t := t
  aware _ := true
  datetime v := text (some v)
  strict_float := readFloat

lemma textual_roundTrips : textual.RoundTrips where
  datetime t _ := by simp [textual, text]
  strict_float x hx := by
    obtain ⟨r, hr⟩ | negative | _ := x
    · exact dif_pos hr
    · cases hx
    · cases hx

/-! ### Enumerations -/

/-- The member of an enumeration that has a value. -/
def member {α : Type} (value : α → String) (members : List α) (s : String) : Option α :=
  members.find? fun a => value a = s

inductive Role where
  | proposer
  | monitor
  deriving DecidableEq

def Role.value : Role → String
  | proposer => "proposer"
  | monitor => "monitor"

def Role.members : List Role := [.proposer, .monitor]

inductive StopReason where
  | end_turn
  deriving DecidableEq

def StopReason.value : StopReason → String
  | end_turn => "end_turn"

def StopReason.members : List StopReason := [.end_turn]

inductive CaptureMode where
  | live_provider_call
  deriving DecidableEq

def CaptureMode.value : CaptureMode → String
  | live_provider_call => "live_provider_call"

def CaptureMode.members : List CaptureMode := [.live_provider_call]

inductive CostUnavailableReason where
  | model_not_priced_in_snapshot
  | local_weights_no_vendor_charge
  deriving DecidableEq

def CostUnavailableReason.value : CostUnavailableReason → String
  | model_not_priced_in_snapshot => "model_not_priced_in_snapshot"
  | local_weights_no_vendor_charge => "local_weights_no_vendor_charge"

def CostUnavailableReason.members : List CostUnavailableReason :=
  [.model_not_priced_in_snapshot, .local_weights_no_vendor_charge]

/-- The safeguard configuration that produced a capture. -/
inductive Condition where
  | mode (m : EvaluationMode)
  | evidence_enforce_policy_observe_monitor_enforce_durable_human
  deriving DecidableEq

def Condition.value : Condition → String
  | mode .UNGATED => "ungated_evaluation_only"
  | mode .POLICY_ONLY => "policy_only_evaluation_only"
  | mode .COMPLETE => "policy_monitor_human"
  | evidence_enforce_policy_observe_monitor_enforce_durable_human =>
    "evidence_enforce_policy_observe_monitor_enforce_durable_human"

def Condition.members : List Condition :=
  [.mode .UNGATED, .mode .POLICY_ONLY, .mode .COMPLETE,
    .evidence_enforce_policy_observe_monitor_enforce_durable_human]

def legValue : Leg → String
  | .covert => "covert"
  | .incident => "incident"

def legs : List Leg := [.covert, .incident]

def splitValue : Split → String
  | .development => "development"
  | .calibration => "calibration"
  | .holdout => "holdout"

def splits : List Split := [.development, .calibration, .holdout]

/-! ### Fields -/

structure ProvenanceFields (Moment : Type) where
  provider : String
  model : String
  role : Role
  prompt_sha256 : String
  request_schema_sha256 : String
  input_schema_version : String
  prompt_version : String
  scenario_projection_sha256 : Option String := none
  stop_reason : StopReason
  input_tokens : ℤ
  output_tokens : ℤ
  usage_source : String
  capture_mode : CaptureMode
  captured_at : Moment
  capture_command : String
  git_revision : String
  pricing_snapshot_id : Option String := none
  estimated_cost : Option PyFloat := none
  currency : Option String := none
  cost_unavailable_reason : Option CostUnavailableReason
  weights : Option String := none
  scenario_id : String
  variant_id : String
  condition : Condition
  leg : Leg
  step_index : ℤ
  split : Split
  request_envelope : Option String := none

def isLowerAlnum (c : Char) : Bool := c.isLower || c.isDigit

def isProviderChar (c : Char) : Bool := isLowerAlnum c || c = '_' || c = '-'

/-- `^[a-z0-9_-]+$` -/
def providerPattern : Pattern := .many isProviderChar 1 none

def isModelChar (c : Char) : Bool := c.isAlphanum || c = '.' || c = '_' || c = '-'

/-- `^[A-Za-z0-9][A-Za-z0-9._-]{0,127}$` -/
def modelPattern : Pattern := .one Char.isAlphanum ++ .many isModelChar 0 (some 127)

def isVersionChar (c : Char) : Bool :=
  isLowerAlnum c || c = '.' || c = '_' || c = '/' || c = '-'

/-- `^[a-z0-9][-a-z0-9._/]*$` -/
def versionPattern : Pattern := .one isLowerAlnum ++ .many isVersionChar 0 none

def isCommandChar (c : Char) : Bool := c.isAlphanum || "_./ :+=-".toList.contains c

/-- `^[A-Za-z0-9_./ :+=-]+$` -/
def commandPattern : Pattern := .many isCommandChar 1 none

def revisionPattern : Pattern := .many isHexChar 40 (some 40)

def isSnapshotChar (c : Char) : Bool := isLowerAlnum c || c = '.' || c = '_' || c = '-'

/-- `^[a-z0-9][a-z0-9._-]*$` -/
def snapshotPattern : Pattern := .one isLowerAlnum ++ .many isSnapshotChar 0 none

/-- `^[A-Z]{3}$` -/
def currencyPattern : Pattern := .many Char.isUpper 3 (some 3)

def isOneToEight (c : Char) : Bool := '1' ≤ c && c ≤ '8'

/-- `^(D[1-8]|S[1-2]|R[0-9]{2}|T[1-8])$` -/
def scenarioIdPattern : Pattern :=
  .alt (.text "D" ++ .one isOneToEight) (.alt (.text "S" ++ .words ["1", "2"])
    (.alt (.text "R" ++ .many Char.isDigit 2 (some 2)) (.text "T" ++ .one isOneToEight)))

/-- `^[A-Za-z0-9][A-Za-z0-9._-]*$` -/
def variantIdPattern : Pattern := .one Char.isAlphanum ++ .many isModelChar 0 none

/-- A text of bounded length that a pattern matches. -/
def matchesWithin (least most : ℕ) (p : Pattern) (s : String) : Bool :=
  least ≤ s.length && s.length ≤ most && p.fullmatch s

/-- A text that is a non-empty JSON object from non-empty strings to non-empty strings. -/
def envelope_is_a_flat_string_object (value : Option String) : Validator :=
  match value with
  | none => .ok ()
  | some value => match loads value.toList with
    | none => .error "not JSON"
    | some (.obj (f :: fs)) =>
      refuseIf ((f :: fs).any fun f => f.1 = "" || !given (text (some f.2)))
        "request envelope must map non-empty strings to non-empty strings"
    | some _ => .error "request envelope must be a non-empty JSON object"

variable {Moment : Type}

namespace ProvenanceFields

variable (p : ProvenanceFields Moment)

def fields : Validator := do
  field "provider" (matchesWithin 1 64 providerPattern p.provider)
  field "model" (matchesWithin 1 128 modelPattern p.model)
  field "prompt_sha256" (sha256Pattern.fullmatch p.prompt_sha256)
  field "request_schema_sha256" (sha256Pattern.fullmatch p.request_schema_sha256)
  field "input_schema_version" (matchesWithin 1 80 versionPattern p.input_schema_version)
  field "prompt_version" (matchesWithin 1 80 versionPattern p.prompt_version)
  field "scenario_projection_sha256" (p.scenario_projection_sha256.all sha256Pattern.fullmatch)
  field "input_tokens" (0 ≤ p.input_tokens)
  field "output_tokens" (0 ≤ p.output_tokens)
  field "usage_source" (matchesWithin 1 80 providerPattern p.usage_source)
  field "capture_command" (matchesWithin 1 200 commandPattern p.capture_command)
  field "git_revision" (revisionPattern.fullmatch p.git_revision)
  field "pricing_snapshot_id" (p.pricing_snapshot_id.all (matchesWithin 1 128 snapshotPattern))
  field "estimated_cost" (p.estimated_cost.all (·.nonneg))
  field "currency" (p.currency.all (matchesWithin 1 8 currencyPattern))
  field "weights" (p.weights.all fun s => 2 ≤ s.length && s.length ≤ 1200)
  field "scenario_id" (scenarioIdPattern.fullmatch p.scenario_id)
  field "variant_id" (matchesWithin 1 80 variantIdPattern p.variant_id)
  field "step_index" (0 ≤ p.step_index)
  field "request_envelope" (p.request_envelope.all fun s => 2 ≤ s.length && s.length ≤ 800)

def isLocal : Bool := p.cost_unavailable_reason = some .local_weights_no_vendor_charge

def cost_is_coherent : Validator := do
  refuseIf (p.estimated_cost.any fun cost => !cost.isfinite) "priced capture cost must be finite"
  refuseIf (p.isLocal && p.pricing_snapshot_id.isSome)
    "a local weights capture names no pricing snapshot"
  refuseIf (!p.isLocal && !given p.pricing_snapshot_id)
    "a provider capture must name the pricing snapshot it was priced at"
  refuseIf (p.estimated_cost.isNone && (p.currency.isSome || p.cost_unavailable_reason.isNone))
    "unpriced capture requires explicit unavailable-cost reason"
  refuseIf (p.estimated_cost.isSome && (p.cost_unavailable_reason.isSome || p.currency.isNone))
    "priced capture has invalid cost provenance"

def validate (P : Pydantic Moment) : Validator := do
  p.fields
  envelope_is_a_flat_string_object p.request_envelope
  envelope_is_a_flat_string_object p.weights
  refuseIf (!P.aware p.captured_at) "provider capture timestamp must be timezone-aware"
  p.cost_is_coherent

end ProvenanceFields

/-! ### JSON -/

def nullable {α : Type} (write : α → Json) (value : Option α) : Json := value.elim .null write

def ProvenanceFields.items (P : Pydantic Moment) (p : ProvenanceFields Moment) :
    List (String × Json) :=
  [("provider", .str p.provider),
    ("model", .str p.model),
    ("role", .str p.role.value),
    ("prompt_sha256", .str p.prompt_sha256),
    ("request_schema_sha256", .str p.request_schema_sha256),
    ("input_schema_version", .str p.input_schema_version),
    ("prompt_version", .str p.prompt_version),
    ("scenario_projection_sha256", nullable .str p.scenario_projection_sha256),
    ("stop_reason", .str p.stop_reason.value),
    ("input_tokens", .int p.input_tokens),
    ("output_tokens", .int p.output_tokens),
    ("usage_source", .str p.usage_source),
    ("capture_mode", .str p.capture_mode.value),
    ("captured_at", .str (P.isoformat p.captured_at)),
    ("capture_command", .str p.capture_command),
    ("git_revision", .str p.git_revision),
    ("pricing_snapshot_id", nullable .str p.pricing_snapshot_id),
    ("estimated_cost", nullable (fun cost => .float (floatText cost)) p.estimated_cost),
    ("currency", nullable .str p.currency),
    ("cost_unavailable_reason",
      nullable (fun reason => .str reason.value) p.cost_unavailable_reason),
    ("weights", nullable .str p.weights),
    ("scenario_id", .str p.scenario_id),
    ("variant_id", .str p.variant_id),
    ("condition", .str p.condition.value),
    ("leg", .str (legValue p.leg)),
    ("step_index", .int p.step_index),
    ("split", .str (splitValue p.split)),
    ("request_envelope", nullable .str p.request_envelope)]

/-- `model_dump(mode="json")` -/
def ProvenanceFields.json_value (P : Pydantic Moment) (p : ProvenanceFields Moment) : Json :=
  dict (p.items P)

def str (v : Json) : Option String := text (some v)

def strictInt : Json → Option ℤ
  | .int n => some n
  | _ => none

def literal {α : Type} (value : α → String) (members : List α) (v : Json) : Option α :=
  (str v).bind (member value members)

section

variable {α : Type} (raw : Json) (key : String) (read : Json → Option α)

/-- A field that must be there. -/
def required : Except String α :=
  match (get raw key).bind read with
  | some a => .ok a
  | none => .error key

def orNull : Except String (Option α) :=
  match get raw key with
  | some .null => .ok none
  | some v => match read v with
    | some a => .ok (some a)
    | none => .error key
  | none => .error key

/-- A field that may be null, and is when it is not there. -/
def optional : Except String (Option α) :=
  match get raw key with
  | none => .ok none
  | some _ => orNull raw key read

end

def provenanceKeys : List String :=
  ["provider", "model", "role", "prompt_sha256", "request_schema_sha256", "input_schema_version",
    "prompt_version", "scenario_projection_sha256", "stop_reason", "input_tokens",
    "output_tokens", "usage_source", "capture_mode", "captured_at", "capture_command",
    "git_revision", "pricing_snapshot_id", "estimated_cost", "currency",
    "cost_unavailable_reason", "weights", "scenario_id", "variant_id", "condition", "leg",
    "step_index", "split", "request_envelope"]

/-- The keys of an object, in their order. -/
def keys : Json → List String
  | .obj fields => fields.map (·.1)
  | _ => []

lemma keys_dict (fs : List (String × Json)) :
    keys (dict fs) = (fs.map (·.1)).insertionSort (· ≤ ·) :=
  List.map_insertionSort _ _ _ _ fun _ _ _ _ => Iff.rfl

def readFields (P : Pydantic Moment) (raw : Json) : Except String (ProvenanceFields Moment) := do
  if (keys raw).any (· ∉ provenanceKeys) then .error "Extra inputs are not permitted"
  return {
    provider := ← required raw "provider" str
    model := ← required raw "model" str
    role := ← required raw "role" (literal Role.value Role.members)
    prompt_sha256 := ← required raw "prompt_sha256" str
    request_schema_sha256 := ← required raw "request_schema_sha256" str
    input_schema_version := ← required raw "input_schema_version" str
    prompt_version := ← required raw "prompt_version" str
    scenario_projection_sha256 := ← optional raw "scenario_projection_sha256" str
    stop_reason := ← required raw "stop_reason" (literal StopReason.value StopReason.members)
    input_tokens := ← required raw "input_tokens" strictInt
    output_tokens := ← required raw "output_tokens" strictInt
    usage_source := ← required raw "usage_source" str
    capture_mode := ← required raw "capture_mode" (literal CaptureMode.value CaptureMode.members)
    captured_at := ← required raw "captured_at" P.datetime
    capture_command := ← required raw "capture_command" str
    git_revision := ← required raw "git_revision" str
    pricing_snapshot_id := ← optional raw "pricing_snapshot_id" str
    estimated_cost := ← optional raw "estimated_cost" P.strict_float
    currency := ← optional raw "currency" str
    cost_unavailable_reason := ← orNull raw "cost_unavailable_reason"
      (literal CostUnavailableReason.value CostUnavailableReason.members)
    weights := ← optional raw "weights" str
    scenario_id := ← required raw "scenario_id" str
    variant_id := ← required raw "variant_id" str
    condition := ← required raw "condition" (literal Condition.value Condition.members)
    leg := ← required raw "leg" (literal legValue legs)
    step_index := ← required raw "step_index" strictInt
    split := ← required raw "split" (literal splitValue splits)
    request_envelope := ← optional raw "request_envelope" str }

structure ProviderCaptureProvenance (P : Pydantic Moment) extends ProvenanceFields Moment where
  valid : toProvenanceFields.validate P = .ok ()

namespace ProviderCaptureProvenance

def model_validate (P : Pydantic Moment) (raw : Json) :
    Except String (ProviderCaptureProvenance P) := do
  let p ← readFields P raw
  match h : p.validate P with
  | .ok () => .ok ⟨p, h⟩
  | .error e => .error e

end ProviderCaptureProvenance

/-! ### The text of a finite float -/

lemma digits_of_isDigits {ds : List Char} (h : isDigits ds = true) : digits ds = (ds, []) := by
  simp only [isDigits, Bool.and_eq_true, List.all_eq_true] at h
  exact digits_of_all h.2

lemma ne_nil_of_isDigits {ds : List Char} (h : isDigits ds = true) : ds.isEmpty = false := by
  simp only [isDigits, Bool.and_eq_true, Bool.not_eq_true'] at h
  exact h.1

lemma exponent_of_isExponent {cs : List Char} (h : isExponent cs = true) :
    exponent cs = (cs, []) := by
  unfold isExponent at h
  split at h
  · rfl
  · rename_i s ds
    simp only [Bool.and_eq_true, Bool.or_eq_true, decide_eq_true_eq] at h
    obtain ⟨⟨hs, hds⟩, -⟩ := h
    rcases hs with rfl | rfl <;>
      simp [exponent, exponentSign, digits_of_isDigits hds, ne_nil_of_isDigits hds]
  · cases h

lemma whole_of_shape {cs : List Char}
    (h : cs.takeWhile Char.isDigit = ['0'] ∨ (cs.takeWhile Char.isDigit).head? ≠ some '0') :
    whole cs = digits cs := by
  rcases cs with _ | ⟨c, cs⟩
  · rfl
  by_cases hc : c = '0'
  · subst hc
    have hzero : Char.isDigit '0' = true := by decide
    have hrest : cs.takeWhile Char.isDigit = [] := by simpa [hzero] using h
    have hdrop : cs.dropWhile Char.isDigit = cs := by
      have happend := List.takeWhile_append_dropWhile (p := Char.isDigit) (l := cs)
      rwa [hrest, List.nil_append] at happend
    simp [whole, digits, hzero, hrest, hdrop]
  · simp [whole, hc]

lemma number_of_isFiniteRepr {cs : List Char} (h : isFiniteRepr cs = true) :
    number cs = some (.float cs, []) := by
  -- a sign, then the digits, the fraction and the exponent
  obtain ⟨s, u, hsign, hcs, hu⟩ : ∃ s u, sign cs = (s, u) ∧ cs = s ++ u ∧
      u = if cs.head? = some '-' then cs.drop 1 else cs := by
    rcases cs with _ | ⟨c, cs⟩
    · exact ⟨[], [], rfl, rfl, rfl⟩
    · by_cases hc : c = '-'
      · subst hc; exact ⟨['-'], cs, rfl, rfl, rfl⟩
      · exact ⟨[], c :: cs, by simp [sign, hc], rfl, by simp [hc]⟩
  simp only [isFiniteRepr, ← hu, Bool.and_eq_true, Bool.or_eq_true, decide_eq_true_eq] at h
  obtain ⟨hwhole, htail⟩ := h
  have hdigits : isDigits (u.takeWhile Char.isDigit) = true := by
    rcases hwhole with hzero | hw
    · rw [hzero]; decide
    · exact hw.1
  have hw : whole u = digits u := whole_of_shape (hwhole.imp_right (·.2))
  obtain ⟨f, e, hf, he, hfe, hne⟩ : ∃ f e,
      fraction (u.dropWhile Char.isDigit) = (f, e) ∧ exponent e = (e, []) ∧
        f ++ e = u.dropWhile Char.isDigit ∧ (f.isEmpty && e.isEmpty) = false := by
    split at htail
    · -- with a point, the exponent may be missing
      rename_i frac hu'
      simp only [Bool.and_eq_true] at htail
      rw [hu']
      refine ⟨'.' :: frac.takeWhile Char.isDigit, frac.dropWhile Char.isDigit, ?_,
        exponent_of_isExponent htail.2, ?_, rfl⟩
      · simp [fraction, digits, ne_nil_of_isDigits htail.1]
      · simp
    · cases htail
    · -- without one it may not
      rename_i hdot hnil
      refine ⟨[], u.dropWhile Char.isDigit, ?_, exponent_of_isExponent htail, rfl, ?_⟩
      · rcases hu' : u.dropWhile Char.isDigit with _ | ⟨c, v⟩
        · rfl
        · have hc : c ≠ '.' := fun hc => hdot v (by rw [hu', hc])
          simp [fraction, hc]
      · simpa using hnil
  have htext : s ++ u.takeWhile Char.isDigit ++ f ++ e = cs := by
    rw [List.append_assoc, hfe, List.append_assoc, List.takeWhile_append_dropWhile, ← hcs]
  simp only [number, hsign, hw, digits, hf, he, ne_nil_of_isDigits hdigits, hne, htext]
  rfl

/-! ### The round trip -/

section

variable {α : Type} {raw : Json} {key : String} {read : Json → Option α} {write : α → Json}

lemma required_eq {a : α} {v : Json} (hget : get raw key = some v) (hread : read v = some a) :
    required raw key read = .ok a := by
  simp [required, hget, hread]

lemma orNull_eq {a : Option α} (hget : get raw key = some (nullable write a))
    (hread : ∀ b, a = some b → write b ≠ .null ∧ read (write b) = some b) :
    orNull raw key read = .ok a := by
  cases a with
  | none => simp [orNull, hget, nullable]
  | some b =>
    obtain ⟨hne, hb⟩ := hread b rfl
    simp only [nullable, Option.elim] at hget
    simp only [orNull, hget]
    cases hw : write b <;> simp_all

lemma optional_eq {a : Option α} (hget : get raw key = some (nullable write a))
    (hread : ∀ b, a = some b → write b ≠ .null ∧ read (write b) = some b) :
    optional raw key read = .ok a := by
  simp only [optional, hget]
  exact orNull_eq hget hread

lemma literal_value {value : α → String} {members : List α} {a : α} (ha : a ∈ members)
    (hinj : (members.map value).Nodup) : literal value members (.str (value a)) = some a := by
  have hfind : members.find? (fun b => value b = value a) = some a := by
    rcases h : members.find? (fun b => value b = value a) with _ | b
    · simpa using List.find?_eq_none.mp h a ha
    · have hb : value b = value a := by simpa using List.find?_some h
      exact congrArg some (List.inj_on_of_nodup_map hinj (List.mem_of_find?_eq_some h) ha hb)
  exact hfind

end

lemma keys_items (P : Pydantic Moment) (p : ProvenanceFields Moment) :
    (p.items P).map (·.1) = provenanceKeys := rfl

lemma nodup_items (P : Pydantic Moment) (p : ProvenanceFields Moment) :
    ((p.items P).map (·.1)).Nodup := by
  rw [keys_items]
  decide

lemma ok_bind {β γ : Type} {x : Except String β} {f : β → Except String γ} {b : β}
    {r : Except String γ} (hx : x = .ok b) (hf : f b = r) : (x >>= f) = r := by
  subst hx
  exact hf

lemma condition_mem (c : Condition) : c ∈ Condition.members := by
  cases c with
  | mode m => cases m <;> decide
  | _ => decide

lemma readFields_json_value {P : Pydantic Moment} (hP : P.RoundTrips)
    (p : ProvenanceFields Moment) (haware : P.aware p.captured_at = true)
    (hfinite : ∀ cost, p.estimated_cost = some cost → cost.isfinite = true) :
    readFields P (p.json_value P) = .ok p := by
  have hitem : ∀ (n : ℕ) {key v}, (p.items P)[n]? = some (key, v) →
      get (p.json_value P) key = some v := by
    intro n key v hn
    rw [ProvenanceFields.json_value, get_dict (nodup_items P p),
      find?_of_nodup (f := (key, v)) (nodup_items P p) (List.mem_of_getElem? hn)]
    rfl
  have hkeys : (keys (p.json_value P)).any (· ∉ provenanceKeys) = false := by
    have hperm := (List.perm_insertionSort (fun f g => f.1 ≤ g.1) (p.items P)).map (·.1)
    rw [keys_items] at hperm
    simp only [List.any_eq_false, decide_eq_true_eq, not_not]
    exact fun key hkey => hperm.mem_iff.mp hkey
  have hstr : ∀ {a : Option String}, ∀ s, a = some s → Json.str s ≠ .null ∧ str (.str s) = some s :=
    fun s _ => ⟨(nomatch ·), rfl⟩
  have htime := hP.datetime p.captured_at haware
  have hcost : ∀ cost, p.estimated_cost = some cost → Json.float (floatText cost) ≠ .null ∧
      P.strict_float (.float (floatText cost)) = some cost :=
    fun cost h => ⟨(nomatch ·), hP.strict_float cost (hfinite cost h)⟩
  have hreason : ∀ reason, p.cost_unavailable_reason = some reason →
      Json.str reason.value ≠ .null ∧ literal CostUnavailableReason.value
        CostUnavailableReason.members (.str reason.value) = some reason :=
    fun reason _ => ⟨(nomatch ·), literal_value (by cases reason <;> decide) (by decide)⟩
  simp only [readFields, hkeys, Bool.false_eq_true, ↓reduceIte]
  refine ok_bind (required_eq (hitem 0 rfl) rfl) ?_
  refine ok_bind (required_eq (hitem 1 rfl) rfl) ?_
  refine ok_bind (required_eq (hitem 2 rfl)
    (literal_value (by cases p.role <;> decide) (by decide))) ?_
  refine ok_bind (required_eq (hitem 3 rfl) rfl) ?_
  refine ok_bind (required_eq (hitem 4 rfl) rfl) ?_
  refine ok_bind (required_eq (hitem 5 rfl) rfl) ?_
  refine ok_bind (required_eq (hitem 6 rfl) rfl) ?_
  refine ok_bind (optional_eq (hitem 7 rfl) hstr) ?_
  refine ok_bind (required_eq (hitem 8 rfl)
    (literal_value (by cases p.stop_reason; decide) (by decide))) ?_
  refine ok_bind (required_eq (hitem 9 rfl) rfl) ?_
  refine ok_bind (required_eq (hitem 10 rfl) rfl) ?_
  refine ok_bind (required_eq (hitem 11 rfl) rfl) ?_
  refine ok_bind (required_eq (hitem 12 rfl)
    (literal_value (by cases p.capture_mode; decide) (by decide))) ?_
  refine ok_bind (required_eq (hitem 13 rfl) htime) ?_
  refine ok_bind (required_eq (hitem 14 rfl) rfl) ?_
  refine ok_bind (required_eq (hitem 15 rfl) rfl) ?_
  refine ok_bind (optional_eq (hitem 16 rfl) hstr) ?_
  refine ok_bind (optional_eq (hitem 17 rfl) hcost) ?_
  refine ok_bind (optional_eq (hitem 18 rfl) hstr) ?_
  refine ok_bind (orNull_eq (hitem 19 rfl) hreason) ?_
  refine ok_bind (optional_eq (hitem 20 rfl) hstr) ?_
  refine ok_bind (required_eq (hitem 21 rfl) rfl) ?_
  refine ok_bind (required_eq (hitem 22 rfl) rfl) ?_
  refine ok_bind (required_eq (hitem 23 rfl)
    (literal_value (condition_mem p.condition) (by decide))) ?_
  refine ok_bind (required_eq (hitem 24 rfl)
    (literal_value (by cases p.leg <;> decide) (by decide))) ?_
  refine ok_bind (required_eq (hitem 25 rfl) rfl) ?_
  refine ok_bind (required_eq (hitem 26 rfl)
    (literal_value (by cases p.split <;> decide) (by decide))) ?_
  refine ok_bind (optional_eq (hitem 27 rfl) hstr) ?_
  rfl

namespace ProviderCaptureProvenance

variable {P : Pydantic Moment} (p : ProviderCaptureProvenance P)

lemma coherent : P.aware p.captured_at = true ∧ p.cost_is_coherent = .ok () := by
  have hv := p.valid
  simp only [ProvenanceFields.validate, bind_ok, refuseIf_ok, Bool.not_eq_false'] at hv
  exact hv.2.2.2

lemma finite_cost : ∀ cost, p.estimated_cost = some cost → cost.isfinite = true := by
  intro cost hcost
  have hc := p.coherent.2
  simp only [ProvenanceFields.cost_is_coherent, refuseIf_bind_ok, hcost] at hc
  simpa using hc.1

lemma pricing_snapshot : p.pricing_snapshot_id.isNone = p.isLocal := by
  have hc := p.coherent.2
  simp only [ProvenanceFields.cost_is_coherent, refuseIf_bind_ok] at hc
  obtain ⟨-, hlocal, hpriced, -⟩ := hc
  rcases h : p.pricing_snapshot_id with _ | s <;> simp_all [given]

/-- Provenance reads back from its JSON. -/
theorem model_validate_json_value (hP : P.RoundTrips) :
    model_validate P (p.json_value P) = .ok p := by
  have hread := readFields_json_value hP p.toProvenanceFields p.coherent.1 p.finite_cost
  refine ok_bind hread ?_
  split
  · rfl
  · rename_i e he
    rw [p.valid] at he
    cases he

lemma isFlat_json_value : isFlat (p.json_value P) = true := by
  have hstr : ∀ s : Option String, isScalar (nullable .str s) = true := fun s => by
    cases s <;> rfl
  have hcost :
      isScalar (nullable (fun cost => .float (floatText cost)) p.estimated_cost) = true := by
    cases p.estimated_cost <;> rfl
  have hreason : isScalar (nullable (fun reason => .str reason.value)
      p.cost_unavailable_reason) = true := by
    cases p.cost_unavailable_reason <;> rfl
  have hitems : ∀ f ∈ p.items P, isScalar f.2 = true := by
    simp [ProvenanceFields.items, hstr, hcost, hreason]
  exact List.all_eq_true.mpr fun f hf => hitems f ((List.mem_insertionSort _).mp hf)

lemma canonical_json_value : Canonical (p.json_value P) := by
  have hstr : ∀ s : Option String, Canonical (nullable .str s) := fun s => by
    cases s <;> trivial
  have hcost : Canonical (nullable (fun cost => .float (floatText cost)) p.estimated_cost) := by
    rcases h : p.estimated_cost with _ | ⟨r, hr⟩ | negative | _
    · trivial
    · exact .inr (number_of_isFiniteRepr hr)
    · cases negative <;> exact .inl (by decide)
    · exact .inl (by decide)
  have hreason : Canonical (nullable (fun reason => .str reason.value)
      p.cost_unavailable_reason) := by
    cases p.cost_unavailable_reason <;> trivial
  refine canonical_dict (nodup_items P _) ?_
  simp only [ProvenanceFields.items, List.forall_mem_cons, hstr, hcost, hreason, Canonical,
    true_and]
  exact fun _ hf => absurd hf (List.not_mem_nil)

end ProviderCaptureProvenance

end IncidentGate.Provenance
