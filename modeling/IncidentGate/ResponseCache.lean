import IncidentGate.Provenance
import IncidentGate.Lib.Interleaving

/-!
The replay cache for captured model responses: one write-once file for each model and prompt.

A file holds its text. A call's temporary file has a name of its own, and no file is ever
taken away but a temporary one by the call that made it.
-/

namespace IncidentGate.ResponseCache

open Lib.Digest Lib.JsonText Lib.JsonRead Lib.TextPattern Lib.ScriptTree Lib.Interleaving Contracts
  Invocations SabotageRows Provenance

inductive CaptureKind where
  | provider_call
  | synthetic
  | local_weights_call
  deriving DecidableEq

def CaptureKind.value : CaptureKind → String
  | provider_call => "provider_call"
  | synthetic => "synthetic"
  | local_weights_call => "local_weights_call"

/-- What a transport is asked, as far as the cache looks at it. -/
structure CompletionRequest where
  model : String
  schema : List (String × Json)
  canonical_prompt : String
  prompt_sha256 : String

structure CompletionResult where
  raw_json : String
  invocation : ModelInvocationRecord

variable {Moment : Type} {P : Pydantic Moment}

structure CachedCompletion (P : Pydantic Moment) where
  raw_json : String
  capture : CaptureKind
  provenance : Option (ProviderCaptureProvenance P) := none

inductive CacheError where
  | miss (model prompt_sha256 : String)
  /-- A `ValueError`, or what `json` raises past a limit. -/
  | value (message : String)
  | os

/-! ### Validation -/

/-- What `json` raises past a limit, which no clause of the cache catches. -/
def overrun : String := "a limit of the interpreter is exceeded"

def sha256_text (value : String) : String := (sha256_hexdigest value.toList).1

def schema_sha256 (schema : List (String × Json)) : String :=
  (sha256_hexdigest (dumps (dict schema))).1

lemma hexdigest_matches (text : List Char) :
    sha256Pattern.fullmatch (sha256_hexdigest text).1 = true := by
  have h := (sha256_hexdigest text).2
  simp only [isActionHash, Bool.and_eq_true, decide_eq_true_eq] at h
  have hmatch := Pattern.fullmatch_many h.2
  rwa [h.1] at hmatch

/-- The invocation kinds that record a real model producing a real body. -/
def isReal (kind : InvocationKind) : Bool :=
  kind = .provider_call || kind = .local_weights_call

def validate_invocation (p : ProviderCaptureProvenance P) (request : CompletionRequest)
    (invocation : ModelInvocationRecord) : Validator := do
  refuseIf ([p.provider, p.model, p.input_schema_version, p.prompt_version, p.capture_command,
      p.scenario_id, p.variant_id, p.condition.value, legValue p.leg, splitValue p.split].any
      fun item => item = "" || 200 < item.length)
    "provider capture provenance has empty or oversized text"
  refuseIf (!(["proposer", "monitor"].contains p.role.value) || p.stop_reason.value ≠ "end_turn")
    "provider capture provenance has invalid role or stop reason"
  refuseIf (p.capture_mode.value ≠ "live_provider_call" ||
      !revisionPattern.fullmatch p.git_revision)
    "provider capture provenance has invalid capture mode or revision"
  refuseIf (!sha256Pattern.fullmatch p.prompt_sha256 ||
      !sha256Pattern.fullmatch p.request_schema_sha256)
    "provider capture provenance has invalid hashes"
  refuseIf ((p.prompt_sha256, p.model) ≠ (request.prompt_sha256, request.model))
    "provider capture provenance does not match cache key"
  refuseIf (request.canonical_prompt = "" ||
      sha256_text request.canonical_prompt ≠ p.prompt_sha256)
    "provider capture canonical prompt disagrees with its hash"
  refuseIf request.schema.isEmpty "provider capture schema disagrees with its hash"
  refuseIf (!P.prints (dict request.schema)) overrun
  refuseIf (schema_sha256 request.schema ≠ p.request_schema_sha256)
    "provider capture schema disagrees with its hash"
  refuseIf (!isReal invocation.invocation_kind) "captures require a real model invocation"
  refuseIf (invocation.invocation_kind = .local_weights_call && !p.isLocal)
    "a local weights capture must record why no cost applies"
  refuseIf (invocation.invocation_kind = .local_weights_call && !given p.weights)
    "a local weights capture must record the weights that produced it"
  refuseIf (invocation.invocation_kind ≠ .local_weights_call && p.weights.isSome)
    "only a local weights capture may record a weights identity"
  refuseIf ((invocation.provider, invocation.model) ≠ (some p.provider, some p.model))
    "provider/model provenance disagrees with invocation"
  refuseIf ((invocation.input_tokens, invocation.output_tokens, invocation.pricing_snapshot,
      invocation.usage_source) ≠
      (some p.input_tokens, some p.output_tokens, p.pricing_snapshot_id, some p.usage_source))
    "provider capture usage/pricing disagrees with invocation"
  refuseIf (!sameCost invocation.cost p.estimated_cost || invocation.currency ≠ p.currency)
    "provider capture cost disagrees with invocation"

def validate_cache_key (p : ProviderCaptureProvenance P) (model prompt_sha256 : String) :
    Validator :=
  refuseIf ((p.model, p.prompt_sha256) ≠ (model, prompt_sha256))
    "provider capture provenance does not match cache key"

def size (text : List Char) : ℕ := (utf8 text).length

def isStructured : Json → Bool
  | .obj _ | .arr _ => true
  | _ => false

def validate_raw_json (P : Pydantic Moment) (raw_json : String) : Validator := do
  refuseIf (1000000 < size raw_json.toList) "raw_json exceeds cache size limit"
  refuseIf (P.overruns raw_json.toList) overrun
  match loads raw_json.toList with
  | none => .error "raw_json is not valid JSON"
  | some parsed => refuseIf (!isStructured parsed) "raw_json must be a structured JSON value"

/-- The checks on a cache key, which is the name of its file. -/
def checkPath (model prompt_sha256 : String) : Validator := do
  refuseIf (!modelPattern.fullmatch model) "unsafe model id for cache path"
  refuseIf (!sha256Pattern.fullmatch prompt_sha256)
    "prompt_sha256 must be a lowercase sha256 hex digest"

/-! ### Entries -/

structure StoreArguments (P : Pydantic Moment) where
  model : String
  prompt_sha256 : String
  raw_json : String
  capture : String
  provenance : Option (ProviderCaptureProvenance P) := none
  invocation : Option ModelInvocationRecord := none
  request : Option CompletionRequest := none

def entryItems (a : StoreArguments P) : List (String × Json) :=
  [("capture", .str a.capture), ("model", .str a.model),
    ("prompt_sha256", .str a.prompt_sha256), ("raw_json", .str a.raw_json)]

def payload (a : StoreArguments P) : Except String Json :=
  if a.capture = "synthetic" then do
    refuseIf (a.provenance.isSome || a.invocation.isSome || a.request.isSome)
      "synthetic cache entries cannot carry provider provenance"
    return dict (entryItems a)
  else if a.capture = "provider_call" || a.capture = "local_weights_call" then
    match a.provenance, a.invocation, a.request with
    | some provenance, some invocation, some request => do
      refuseIf ((request.model, request.prompt_sha256) ≠ (a.model, a.prompt_sha256))
        "provider cache request disagrees with cache key"
      refuseIf (invocation.invocation_kind.value ≠ a.capture)
        "cache entry capture kind disagrees with its invocation"
      validate_invocation provenance request invocation
      return dict (("provenance", provenance.json_value P) :: entryItems a)
    | _, _, _ => .error "provider cache entries require request, invocation and provenance"
  else .error "capture must be one of provider_call, local_weights_call, synthetic"

/-- The text that a store writes, once its arguments are accepted. -/
def encode (a : StoreArguments P) : Except String (List Char) := do
  checkPath a.model a.prompt_sha256
  validate_raw_json P a.raw_json
  let payload ← payload a
  refuseIf (!P.prints payload) overrun
  refuseIf (1100000 < size (dumps payload)) "cache entry exceeds size limit"
  return dumps payload

/-- The provenance of an entry that claims a real model. -/
def readProvenance (P : Pydantic Moment) (model prompt_sha256 : String) (capture : CaptureKind)
    (data : Json) : Except String (ProviderCaptureProvenance P) := do
  match get data "provenance" with
  | some (.obj fields) =>
    refuseIf (keys data ≠ ["capture", "model", "prompt_sha256", "provenance", "raw_json"])
      "provider cache entry lacks provenance"
    match ProviderCaptureProvenance.model_validate P (.obj fields) with
    | .error _ => .error "malformed provider cache provenance"
    | .ok provenance => match validate_cache_key provenance model prompt_sha256 with
      | .error _ => .error "malformed provider cache provenance"
      | .ok () =>
        refuseIf ((capture = .local_weights_call : Bool) ≠ provenance.isLocal)
          "cache entry capture kind disagrees with its cost provenance"
        return provenance
  | _ => .error "provider cache entry lacks provenance"

/-- The completion of an entry whose body and kind are read, the keys in their order. -/
def readCompletion (P : Pydantic Moment) (model prompt_sha256 raw_json : String) (data : Json) :
    CaptureKind → Except String (CachedCompletion P)
  | .synthetic => do
    refuseIf (keys data ≠ ["capture", "model", "prompt_sha256", "raw_json"])
      "synthetic cache entries must not carry provider provenance"
    return { raw_json := raw_json, capture := .synthetic }
  | capture => do
    let provenance ← readProvenance P model prompt_sha256 capture data
    return { raw_json := raw_json, capture := capture, provenance := some provenance }

def readEntry (P : Pydantic Moment) (model prompt_sha256 : String) (data : Json) :
    Except String (CachedCompletion P) := do
  match text (get data "raw_json") with
  | none => .error "corrupt cache entry"
  | some raw_json =>
    refuseIf (text (get data "model") ≠ some model ||
      text (get data "prompt_sha256") ≠ some prompt_sha256) "corrupt cache entry"
    validate_raw_json P raw_json
    match (text (get data "capture")).bind
        (member CaptureKind.value [.provider_call, .local_weights_call, .synthetic]) with
    | none => .error "cache entry does not record how it was captured"
    | some capture => readCompletion P model prompt_sha256 raw_json data capture

/-- The completion that an entry's text holds. -/
def decode (P : Pydantic Moment) (model prompt_sha256 : String) (encoded : List Char) :
    Except String (CachedCompletion P) := do
  refuseIf (1100000 < size encoded) "cache entry exceeds size limit"
  refuseIf (P.overruns encoded) overrun
  match loads encoded with
  | none => .error "malformed cache entry"
  | some (.obj fields) => readEntry P model prompt_sha256 (.obj fields)
  | some _ => .error "corrupt cache entry"

/-! ### Calls -/

abbrev Key := String × String

/-- The files, and what each call's record client has answered to it. -/
structure World where
  entries : Key → Option (List Char)
  temporaries : ℕ → Option (List Char)
  consulted : ℕ → List (Except String CompletionResult)

inductive Question where
  | is_file (path : Key)
  | read_bytes (path : Key)
  | mkstemp
  | write (text : List Char)
  | link (path : Key)
  | unlink
  | left
  | consult (request : CompletionRequest)

/-- A link answers whether there was no target, a record client with a result or an error. -/
@[reducible] def Answer : Question → Type
  | .is_file _ | .link _ | .left => Bool
  | .read_bytes _ => Option (List Char)
  | .mkstemp | .write _ | .unlink => Unit
  | .consult _ => Except String CompletionResult

open Function in
/-- What a question of a call does to the world. -/
def serve (i : ℕ) : (q : Question) → World → Answer q → World → Prop
  | .is_file path, w, a, w' => a = (w.entries path).isSome ∧ w' = w
  | .read_bytes path, w, a, w' => a = w.entries path ∧ w' = w
  | .mkstemp, w, _, w' =>
    w' = { w with temporaries := update w.temporaries i (some []) }
  | .write text, w, _, w' =>
    w' = { w with temporaries := update w.temporaries i (some text) }
  | .link path, w, a, w' => a = (w.entries path).isNone ∧ w' =
    if a = true then { w with entries := update w.entries path (w.temporaries i) }
    else w
  | .unlink, w, _, w' =>
    w' = { w with temporaries := update w.temporaries i none }
  | .left, w, a, w' => a = (w.temporaries i).isSome ∧ w' = w
  | .consult _, w, a, w' =>
    w' = { w with consulted := update w.consulted i (w.consulted i ++ [a]) }

abbrev CacheScript (α : Type) := Script Question Answer CacheError α

def ask (q : Question) : CacheScript (Answer q) := Script.query q

/-- A check of the arguments, before any file is touched. -/
def check {α : Type} (r : Except String α) : CacheScript α :=
  match r with
  | .ok a => .ret a
  | .error message => .raise (.value message)

def load (P : Pydantic Moment) (model prompt_sha256 : String) :
    CacheScript (CachedCompletion P) := do
  check (checkPath model prompt_sha256)
  let present ← ask (.is_file (model, prompt_sha256))
  if present then do
    match ← ask (.read_bytes (model, prompt_sha256)) with
    | none => .raise (.value "malformed cache entry")
    | some encoded => check (decode P model prompt_sha256 encoded)
  else .raise (.miss model prompt_sha256)

/-- What is found at the target of a link that failed. -/
def compareEntry (encoded : List Char) (found : Option (List Char)) : Except CacheError Unit :=
  match found with
  | none => .error .os
  | some found =>
    if found = encoded then .ok ()
    else .error (.value "refusing to overwrite a semantically different cache entry")

def linkEntry (path : Key) (encoded : List Char) : CacheScript (Except CacheError Unit) := do
  let linked ← ask (.link path)
  if linked then return .ok ()
  else do
    let found ← ask (.read_bytes path)
    return compareEntry encoded found

/-- The two `finally` clauses, and then the end that they interrupted. -/
def cleanUp (r : Except CacheError Unit) : CacheScript Unit := do
  ask .unlink
  let left ← ask .left
  if left then do
    ask .unlink
    .ofExcept r
  else .ofExcept r

def publish (path : Key) (encoded : List Char) : CacheScript Unit := do
  ask .mkstemp
  ask (.write encoded)
  let r ← linkEntry path encoded
  cleanUp r

def store (a : StoreArguments P) : CacheScript Unit := do
  let encoded ← check (encode a)
  publish (a.model, a.prompt_sha256) encoded

/-! ### The client -/

/-- The client builds the record of an invocation, which validates itself. -/
def invocationRecord (r : InvocationFields) : Except String ModelInvocationRecord :=
  match h : r.validate with
  | .ok () => .ok ⟨r, h⟩
  | .error message => .error message

structure ClientFields (P : Pydantic Moment) where
  /-- Whether there is a record client. -/
  record_client : Bool := false
  record_mode : Bool := false
  provenance_builder : Option (CompletionRequest → CompletionResult →
    Except String (ProviderCaptureProvenance P)) := none
  provider : Option String := none

structure CacheBackedCompletionClient (P : Pydantic Moment) extends ClientFields P where
  /-- Record mode requires a record client and a provenance builder. -/
  valid : record_mode = true → record_client = true ∧ provenance_builder.isSome = true

/-- The arguments that a client stores a result with. -/
def recordArguments (request : CompletionRequest) (result : CompletionResult)
    (provenance : ProviderCaptureProvenance P) : StoreArguments P where
  model := request.model
  prompt_sha256 := request.prompt_sha256
  raw_json := result.raw_json
  capture := if result.invocation.invocation_kind = .local_weights_call then "local_weights_call"
    else "provider_call"
  provenance := some provenance
  invocation := some result.invocation
  request := some request

def recordResult
    (build : CompletionRequest → CompletionResult → Except String (ProviderCaptureProvenance P))
    (request : CompletionRequest) (result : CompletionResult) : CacheScript CompletionResult :=
  if isReal result.invocation.invocation_kind then do
    let provenance ← check (build request result)
    store (recordArguments request result provenance)
    return result
  else .raise (.value "record mode refuses results that did not come from a model")

/-- What a client does when the cache has no entry. -/
def record (client : CacheBackedCompletionClient P) (request : CompletionRequest) :
    CacheScript CompletionResult :=
  match client.provenance_builder with
  | some build =>
    if client.record_mode && client.record_client then do
      let result ← (ask (.consult request)).bind check
      recordResult build request result
    else .raise (.miss request.model request.prompt_sha256)
  | none => .raise (.miss request.model request.prompt_sha256)

/-- What a client answers from an entry. -/
def replay (client : CacheBackedCompletionClient P) (request : CompletionRequest)
    (entry : CachedCompletion P) : Except String CompletionResult :=
  if entry.capture = .synthetic then do
    let invocation ← invocationRecord { invocation_kind := .fixture_no_call }
    return ⟨entry.raw_json, invocation⟩
  else match entry.provenance with
    | none => .error "entry.provenance is None"
    | some provenance => do
      refuseIf (client.provider.any (· ≠ provenance.provider))
        "cache replay provider disagrees with captured provenance"
      let invocation ← invocationRecord {
        invocation_kind := .cache_replay
        provider := some provenance.provider
        model := some request.model }
      return ⟨entry.raw_json, invocation⟩

def complete (client : CacheBackedCompletionClient P) (request : CompletionRequest) :
    CacheScript CompletionResult :=
  (load P request.model request.prompt_sha256).elim fun
    | .ok entry => check (replay client request entry)
    | .error (.miss _ _) => record client request
    | .error e => .raise e

/-! ### What a store accepts -/

/-- The completion has exactly the body, kind and provenance of the arguments. -/
def Given (a : StoreArguments P) (c : CachedCompletion P) : Prop :=
  c.raw_json = a.raw_json ∧ c.capture.value = a.capture ∧ c.provenance = a.provenance

lemma encode_ok {a : StoreArguments P} {encoded : List Char} (h : encode a = .ok encoded) :
    checkPath a.model a.prompt_sha256 = .ok () ∧ validate_raw_json P a.raw_json = .ok () ∧
      ∃ v, payload a = .ok v ∧ P.prints v = true ∧ encoded = dumps v ∧
        size encoded ≤ 1100000 := by
  obtain ⟨hpath, h⟩ := bind_ok.mp h
  obtain ⟨hraw, h⟩ := bind_ok.mp h
  obtain ⟨v, hv, h⟩ := except_bind_ok.mp h
  obtain ⟨hprints, h⟩ := bind_ok.mp h
  obtain ⟨hsize, hencoded⟩ := bind_ok.mp h
  obtain rfl : dumps v = encoded := by simpa [pure, Except.pure] using hencoded
  have hle : size (dumps v) ≤ 1100000 := by simpa using hsize
  exact ⟨hpath, hraw, v, hv, by simpa using hprints, rfl, hle⟩

lemma payload_ok {a : StoreArguments P} {v : Json} (h : payload a = .ok v) :
    (a.capture = CaptureKind.synthetic.value ∧ a.provenance = none ∧ v = dict (entryItems a)) ∨
    ∃ (kind : CaptureKind) (provenance : ProviderCaptureProvenance P)
      (invocation : ModelInvocationRecord) (request : CompletionRequest),
      kind ≠ .synthetic ∧ a.capture = kind.value ∧ a.provenance = some provenance ∧
      a.invocation = some invocation ∧ a.request = some request ∧
      invocation.invocation_kind.value = kind.value ∧
      (request.model, request.prompt_sha256) = (a.model, a.prompt_sha256) ∧
      validate_invocation provenance request invocation = .ok () ∧
      v = dict (("provenance", provenance.json_value P) :: entryItems a) := by
  unfold payload at h
  split at h
  · -- a synthetic body has neither provenance nor request
    rename_i hsynthetic
    simp only [bind_ok, refuseIf_ok, Bool.or_eq_false_iff, Option.isSome_eq_false_iff,
      Option.isNone_iff_eq_none] at h
    obtain ⟨⟨⟨hnone, -⟩, -⟩, hv⟩ := h
    refine .inl ⟨hsynthetic, hnone, ?_⟩
    simpa [pure, Except.pure, eq_comm] using hv
  split at h
  · -- a real one has all three, and they agree
    rename_i hreal
    obtain ⟨kind, hkind, hcapture⟩ : ∃ kind : CaptureKind, kind ≠ .synthetic ∧
        a.capture = kind.value := by
      rw [Bool.or_eq_true, decide_eq_true_eq, decide_eq_true_eq] at hreal
      rcases hreal with h | h
      · exact ⟨.provider_call, by decide, h⟩
      · exact ⟨.local_weights_call, by decide, h⟩
    split at h
    · rename_i provenance invocation request hp hi hr
      simp only [bind_ok, refuseIf_ok, decide_eq_false_iff_not, not_not] at h
      obtain ⟨hkey, hinvocation, hvalid, hv⟩ := h
      refine .inr ⟨kind, provenance, invocation, request, hkind, hcapture, hp, hi, hr,
        hinvocation.trans hcapture, hkey, hvalid, ?_⟩
      simpa [pure, Except.pure, eq_comm] using hv
    · cases h
  · cases h

lemma pricing_of_provider_call {r : ModelInvocationRecord}
    (h : r.invocation_kind = .provider_call) : r.pricing_snapshot.isNone = false := by
  have hvalid := r.valid
  simp only [InvocationFields.validate, bind_ok, InvocationFields.provider_metrics_are_complete, h,
    refuseIf_ok, Bool.or_eq_false_iff] at hvalid
  obtain ⟨-, ⟨-, hgiven⟩, -⟩ := hvalid
  rcases hs : r.pricing_snapshot with _ | s
  · simp [hs, given] at hgiven
  · rfl

lemma key_of_validate {p : ProviderCaptureProvenance P} {request : CompletionRequest}
    {invocation : ModelInvocationRecord} (h : validate_invocation p request invocation = .ok ()) :
    (request.model, request.prompt_sha256) = (p.model, p.prompt_sha256) := by
  simp only [validate_invocation, refuseIf_bind_ok, decide_eq_false_iff_not, not_not] at h
  obtain ⟨-, -, -, -, hkey, -⟩ := h
  obtain ⟨hprompt, hmodel⟩ := Prod.mk.inj hkey
  rw [hprompt, hmodel]

lemma isLocal_of_validate {p : ProviderCaptureProvenance P} {request : CompletionRequest}
    {invocation : ModelInvocationRecord} (h : validate_invocation p request invocation = .ok ()) :
    p.isLocal = (invocation.invocation_kind = .local_weights_call : Bool) := by
  simp only [validate_invocation, refuseIf_bind_ok, refuseIf_ok, decide_eq_false_iff_not, not_not,
    Prod.mk.injEq] at h
  obtain ⟨-, -, -, -, -, -, -, -, -, hreal, hreason, -, -, -, husage, -⟩ := h
  by_cases hlocal : invocation.invocation_kind = .local_weights_call
  · simpa [hlocal] using hreason
  · have hkind : invocation.invocation_kind = .provider_call := by
      simpa [isReal, hlocal] using hreal
    have hpricing := pricing_of_provider_call hkind
    rw [husage.2.2.1, p.pricing_snapshot] at hpricing
    simp [hpricing, hlocal]

lemma get_entry {a : StoreArguments P} {extra : List (String × Json)}
    (hextra : ∀ f ∈ extra, f.1 = "provenance")
    (hnodup : ((extra ++ entryItems a).map (·.1)).Nodup) :
    text (get (dict (extra ++ entryItems a)) "raw_json") = some a.raw_json ∧
      text (get (dict (extra ++ entryItems a)) "model") = some a.model ∧
      text (get (dict (extra ++ entryItems a)) "prompt_sha256") = some a.prompt_sha256 ∧
      text (get (dict (extra ++ entryItems a)) "capture") = some a.capture := by
  have hskip : ∀ key ≠ "provenance", extra.find? (fun f => f.1 = key) = none := fun key hkey =>
    List.find?_eq_none.mpr fun f hf => by simpa [hextra f hf] using hkey.symm
  refine ⟨?_, ?_, ?_, ?_⟩ <;>
    rw [get_dict hnodup, List.find?_append, hskip _ (by decide)] <;> rfl

lemma member_value (kind : CaptureKind) :
    member CaptureKind.value [.provider_call, .local_weights_call, .synthetic] kind.value =
      some kind := by
  cases kind <;> decide

lemma entryKeys_sorted : ["capture", "model", "prompt_sha256", "raw_json"].insertionSort (· ≤ ·) =
    ["capture", "model", "prompt_sha256", "raw_json"] := by decide

lemma providerKeys_sorted :
    ["provenance", "capture", "model", "prompt_sha256", "raw_json"].insertionSort (· ≤ ·) =
      ["capture", "model", "prompt_sha256", "provenance", "raw_json"] := by decide

/-- An entry that printed is read back. -/
lemma decode_dict {model prompt_sha256 : String} {fs : List (String × Json)}
    (hsize : size (dumps (dict fs)) ≤ 1100000) (hshallow : isShallow (dict fs) = true)
    (hprints : P.prints (dict fs) = true) (hcanonical : Canonical (dict fs)) :
    decode P model prompt_sha256 (dumps (dict fs)) =
      readEntry P model prompt_sha256 (dict fs) := by
  have hfits : refuseIf (1100000 < size (dumps (dict fs))) "cache entry exceeds size limit" =
      .ok () := by simpa using hsize
  have hwithin : refuseIf (P.overruns (dumps (dict fs))) overrun = .ok () := by
    rw [P.reads _ hshallow hprints]
    rfl
  rw [decode, hfits, hwithin, loads_dumps hcanonical]
  rfl

lemma isShallow_dict {fs : List (String × Json)} (h : ∀ f ∈ fs, isFlat f.2 = true) :
    isShallow (dict fs) = true :=
  List.all_eq_true.mpr fun f hf => h f ((List.mem_insertionSort _).mp hf)

lemma readEntry_eq {model prompt_sha256 raw_json : String} {data : Json} {kind : CaptureKind}
    (hr : text (get data "raw_json") = some raw_json)
    (hm : text (get data "model") = some model)
    (hs : text (get data "prompt_sha256") = some prompt_sha256)
    (hraw : validate_raw_json P raw_json = .ok ())
    (hc : text (get data "capture") = some kind.value) :
    readEntry P model prompt_sha256 data =
      readCompletion P model prompt_sha256 raw_json data kind := by
  have hkind := member_value kind
  simp only [readEntry, hr, hm, hs, hc, hraw, Option.bind_some, hkind, ne_eq, not_true_eq_false,
    decide_false, Bool.or_self]
  rfl

lemma readProvenance_eq (hP : P.RoundTrips) {p : ProviderCaptureProvenance P} {data : Json}
    {kind : CaptureKind} (hprovenance : get data "provenance" = some (p.json_value P))
    (hkeys : keys data = ["capture", "model", "prompt_sha256", "provenance", "raw_json"])
    (hlocal : (kind = .local_weights_call : Bool) = p.isLocal) :
    readProvenance P p.model p.prompt_sha256 kind data = .ok p := by
  have hobj : ∃ fields, p.json_value P = .obj fields := ⟨_, rfl⟩
  obtain ⟨fields, hfields⟩ := hobj
  have hread := p.model_validate_json_value hP
  rw [hfields] at hread hprovenance
  simp only [readProvenance, hprovenance, hkeys, hread, validate_cache_key, hlocal, ne_eq,
    not_true_eq_false, decide_false]
  rfl

/-- What a store accepts and writes, a load reads back as what the store was given. -/
theorem decode_encode (hP : P.RoundTrips) {a : StoreArguments P} {encoded : List Char}
    (h : encode a = .ok encoded) :
    ∃ c, decode P a.model a.prompt_sha256 encoded = .ok c ∧ Given a c := by
  obtain ⟨hpath, hraw, v, hv, hprints, rfl, hsize⟩ := encode_ok h
  have hscalars : ∀ f ∈ entryItems a, isFlat f.2 = true := by simp [entryItems, isFlat]
  rcases payload_ok hv with ⟨hcapture, hprovenance, rfl⟩ |
      ⟨kind, p, invocation, request, hkind, hcapture, hp, -, -, hinvocation, hkey, hvalid, rfl⟩
  · -- a synthetic entry has four fields
    have hnodup : ((entryItems a).map (·.1)).Nodup := by simp [entryItems]
    have hextra : ∀ f ∈ ([] : List (String × Json)), f.1 = "provenance" := by simp
    obtain ⟨hr, hm, hs, hc⟩ := get_entry hextra hnodup
    have hcanonical : Canonical (dict (entryItems a)) :=
      canonical_dict hnodup (by simp [entryItems, Canonical])
    have hkeys : keys (dict (entryItems a)) = ["capture", "model", "prompt_sha256", "raw_json"] :=
      (keys_dict _).trans entryKeys_sorted
    refine ⟨{ raw_json := a.raw_json, capture := .synthetic }, ?_, rfl, hcapture.symm,
      hprovenance.symm⟩
    rw [List.nil_append] at hr hm hs hc
    rw [hcapture] at hc
    have hentry := readEntry_eq hr hm hs hraw hc (P := P)
    rw [decode_dict hsize (isShallow_dict hscalars) hprints hcanonical, hentry]
    simp only [readCompletion, hkeys]
    rfl
  · -- a real one has its provenance as the fifth
    have hnodup : (([("provenance", p.json_value P)] ++ entryItems a).map (·.1)).Nodup := by
      simp [entryItems]
    obtain ⟨hr, hm, hs, hc⟩ := get_entry (by simp) hnodup
    rw [List.singleton_append] at hr hm hs hc hnodup
    have hcanonical := canonical_dict hnodup (by
      simp [entryItems, Canonical, p.canonical_json_value])
    have hshallow : isShallow (dict (("provenance", p.json_value P) :: entryItems a)) = true :=
      isShallow_dict (List.forall_mem_cons.mpr ⟨p.isFlat_json_value, hscalars⟩)
    have hkeys : keys (dict (("provenance", p.json_value P) :: entryItems a)) =
        ["capture", "model", "prompt_sha256", "provenance", "raw_json"] :=
      (keys_dict _).trans providerKeys_sorted
    have hprovenance : get (dict (("provenance", p.json_value P) :: entryItems a)) "provenance" =
        some (p.json_value P) := by
      rw [get_dict hnodup]
      rfl
    have hlocal : (kind = .local_weights_call : Bool) = p.isLocal := by
      rw [isLocal_of_validate hvalid]
      revert hinvocation
      cases kind <;> cases invocation.invocation_kind <;> decide
    refine ⟨{ raw_json := a.raw_json, capture := kind, provenance := some p }, ?_, rfl,
      hcapture.symm, hp.symm⟩
    rw [hcapture] at hc
    rw [decode_dict hsize hshallow hprints hcanonical, readEntry_eq hr hm hs hraw hc]
    have hread := readProvenance_eq hP hprovenance hkeys hlocal
    have hcache : (a.model, a.prompt_sha256) = (p.model, p.prompt_sha256) :=
      hkey.symm.trans (key_of_validate hvalid)
    obtain ⟨hmodel, hprompt⟩ := Prod.mk.inj hcache
    rw [hmodel, hprompt]
    cases kind with
    | synthetic => exact absurd rfl hkind
    | provider_call => exact ok_bind hread rfl
    | local_weights_call => exact ok_bind hread rfl

end IncidentGate.ResponseCache
