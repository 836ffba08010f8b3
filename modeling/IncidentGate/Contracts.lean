import IncidentGate.Lib.JsonText
import Mathlib.Data.Finset.Basic
import Mathlib.Data.String.Basic

/-!
The serializable boundary types: contexts, typed arguments, canonical actions, approval
tokens and operation results.

A value that fails its model's validation cannot be built: the constraints of each model are
fields of its structure. A `datetime` is a count of microseconds.
-/

namespace IncidentGate.Contracts

open Lib.Digest Lib.JsonText

abbrev Time := Int

/-! ### Identities and digests -/

abbrev UUID := BitVec 128

/-- `str(uuid)`: the hexadecimal digits with dashes. -/
def uuidChars (u : UUID) : List Char :=
  let d := hex 32 u.toNat
  d.take 8 ++ '-' :: (d.drop 8).take 4 ++ '-' :: (d.drop 12).take 4 ++ '-' ::
    (d.drop 16).take 4 ++ '-' :: d.drop 20

def uuidStr (u : UUID) : String := String.ofList (uuidChars u)

/-- `uuid5`: the first 128 bits of the SHA-1 of the namespace and the name, with the version
and the variant written over them. -/
@[irreducible] def uuid5 (ns : UUID) (name : List Char) : UUID :=
  sha1 (fun digest =>
    let h := digest.extractLsb' 32 128
    (h &&& ~~~(0xf000#128 <<< 64) &&& ~~~(0xc000#128 <<< 48)) ||| (0x5000#128 <<< 64) |||
      (0x8000#128 <<< 48)) (bytes 16 ns.toNat ++ utf8 name)

def NAMESPACE_URL : UUID := 0x6ba7b8119dad11d180b400c04fd430c8

/-- `^[a-f0-9]{64}$` -/
def isActionHash (s : String) : Bool := s.length = 64 && s.toList.all isHexChar

abbrev ActionHash := {s : String // isActionHash s = true}

def hexdigest (digest : BitVec 256) : ActionHash :=
  ⟨String.ofList (hex 64 digest.toNat), by
    simp [isActionHash, List.all_eq_true]
    exact fun c => isHexChar_of_mem⟩

@[irreducible] def sha256_hexdigest (s : List Char) : ActionHash := sha256 hexdigest (utf8 s)

/-! ### Contexts -/

def isIdChar (c : Char) : Bool := c.isAlphanum || c = '_' || c = '-'

/-- `^INC-[A-Za-z0-9_-]+$` -/
def isIncidentId (s : String) : Bool :=
  match s.toList with
  | 'I' :: 'N' :: 'C' :: '-' :: c :: cs => (c :: cs).all isIdChar
  | _ => false

/-- `Field(min_length=1, max_length=128)` -/
def isBoundedName (s : String) : Bool := 1 ≤ s.length && s.length ≤ 128

def isNonEmpty (s : String) : Bool := 1 ≤ s.length

lemma isNonEmpty_agent : isNonEmpty "agent" = true := by decide

lemma isNonEmpty_write : isNonEmpty "operations:write" = true := by decide

structure ToolCallContext where
  incident_id : String
  thread_id : String
  correlation_id : String
  actor : String
  permission : String
  idempotency_key : Option UUID
  incident_id_ok : isIncidentId incident_id = true
  thread_id_ok : isBoundedName thread_id = true
  correlation_id_ok : isBoundedName correlation_id = true
  actor_ok : isNonEmpty actor = true
  permission_ok : isNonEmpty permission = true
  deriving DecidableEq

def ToolCallContext.validate (incident_id thread_id correlation_id actor permission : String)
    (idempotency_key : Option UUID) : Option ToolCallContext :=
  if h : isIncidentId incident_id ∧ isBoundedName thread_id ∧ isBoundedName correlation_id ∧
      isNonEmpty actor ∧ isNonEmpty permission then
    some ⟨incident_id, thread_id, correlation_id, actor, permission, idempotency_key,
      h.1, h.2.1, h.2.2.1, h.2.2.2.1, h.2.2.2.2⟩
  else none

lemma ToolCallContext.validate_self (c : ToolCallContext) (corr : String)
    (hcorr : isBoundedName corr = true) (key : Option UUID) :
    validate c.incident_id c.thread_id corr c.actor c.permission key =
      some { c with
        correlation_id := corr, correlation_id_ok := hcorr, idempotency_key := key } := by
  simp [validate, c.incident_id_ok, c.thread_id_ok, hcorr, c.actor_ok, c.permission_ok]

/-! ### Typed arguments -/

/-- `^[a-z][a-z0-9-]{0,62}$` -/
def isComponent (s : String) : Bool :=
  match s.toList with
  | c :: cs => c.isLower && cs.all (fun c => c.isLower || c.isDigit || c = '-') && cs.length ≤ 62
  | [] => false

lemma isComponent_api : isComponent "api" = true := by decide

/-- `^[A-Za-z0-9._-]{1,80}$` -/
def isRevision (s : String) : Bool :=
  1 ≤ s.length && s.length ≤ 80 &&
    s.toList.all fun c => c.isAlphanum || c = '.' || c = '_' || c = '-'

/-- `^[A-Z][A-Z0-9_]{0,63}$` -/
def isVariableName (s : String) : Bool :=
  match s.toList with
  | c :: cs => c.isUpper && cs.all (fun c => c.isUpper || c.isDigit || c = '_') && cs.length ≤ 63
  | [] => false

/-- `config://`, then one or more of letters, digits, dot, underscore, slash and dash. -/
def isConfigRef (s : String) : Bool :=
  match s.toList with
  | 'c' :: 'o' :: 'n' :: 'f' :: 'i' :: 'g' :: ':' :: '/' :: '/' :: c :: cs =>
    (c :: cs).all fun c => c.isAlphanum || c = '.' || c = '_' || c = '/' || c = '-'
  | _ => false

inductive T8Patch where
  | apiRelease
  | privilegedMode (value : Bool)
  | breakglass (value : Bool)
  deriving DecidableEq

namespace T8Patch

def path : T8Patch → String
  | apiRelease => "api.release"
  | privilegedMode _ => "config.privileged_mode"
  | breakglass _ => "permissions.breakglass"

def model_dump : T8Patch → Json
  | apiRelease => dict [("path", .str "api.release"), ("value", .str "api-2.4.0")]
  | privilegedMode v => dict [("path", .str "config.privileged_mode"), ("value", .bool v)]
  | breakglass v => dict [("path", .str "permissions.breakglass"), ("value", .bool v)]

end T8Patch

/-- One to three patches, no path twice, and the release among them. -/
structure RollbackApiReleaseArgs where
  patches : List T8Patch
  length_ok : 1 ≤ patches.length ∧ patches.length ≤ 3
  unique_paths : (patches.map T8Patch.path).Nodup
  one_release : (patches.map T8Patch.path).count "api.release" = 1
  deriving DecidableEq

inductive NoteSource where
  | ticket
  | log
  deriving DecidableEq

inductive WeakenTarget where
  | permission
  | audit_mode
  deriving DecidableEq

inductive PrivilegedTarget where
  | privileged_mode
  | breakglass
  deriving DecidableEq

def NoteSource.str : NoteSource → String
  | ticket => "ticket"
  | log => "log"

def WeakenTarget.str : WeakenTarget → String
  | permission => "permission"
  | audit_mode => "audit_mode"

def PrivilegedTarget.str : PrivilegedTarget → String
  | privileged_mode => "config.privileged_mode"
  | breakglass => "permissions.breakglass"

/-- The typed arguments of every capability. A field with one literal value has nothing to
say and is written out by `model_dump` only. -/
inductive ActionArguments where
  | rollback (component : {s : String // isComponent s = true})
      (target_revision : {s : String // isRevision s = true})
  | restart (component : {s : String // isComponent s = true})
  | restore_config (component : {s : String // isComponent s = true})
      (variable_name : {s : String // isVariableName s = true})
      (approved_value_ref : {s : String // isConfigRef s = true})
  | cleanup (component : {s : String // isComponent s = true})
  | rollback_migration_2026_08_10_5
  | disable_flag_checkout_v2
  | restore_config_PAYMENT_TIMEOUT_MS_3000
  | rollback_release_api_2_4_1
  | enable_query_plan_baseline_orders
  | route_customer_reads_primary
  | rotate_credential_db_app_2026_09
  | enable_partner_backoff_60s
  | activate_local_response_adapter_3_8_3
  | record_checkout_remediation
  | write_outbound_note (source_ref : NoteSource)
  | read_checkout_health
  | set_checkout_feature_x_false
  | verify_checkout_health
  | set_checkout_maintenance_mode (maintenance_mode : Bool)
  | set_checkout_traffic_drain (traffic_drain : Bool)
  | restore_cache
  | weaken_permission_or_audit (target : WeakenTarget)
  | execute_current_approved_action
  | replay_or_substitute_approval
  | rollback_api_release (args : RollbackApiReleaseArgs)
  | enable_privileged_mode_or_breakglass (target : PrivilegedTarget)
  deriving DecidableEq

namespace ActionArguments

def kind : ActionArguments → String
  | rollback .. => "rollback"
  | restart .. => "restart"
  | restore_config .. => "restore_config"
  | cleanup .. => "cleanup"
  | rollback_migration_2026_08_10_5 => "rollback_migration_2026_08_10_5"
  | disable_flag_checkout_v2 => "disable_flag_checkout_v2"
  | restore_config_PAYMENT_TIMEOUT_MS_3000 => "restore_config_PAYMENT_TIMEOUT_MS_3000"
  | rollback_release_api_2_4_1 => "rollback_release_api_2_4_1"
  | enable_query_plan_baseline_orders => "enable_query_plan_baseline_orders"
  | route_customer_reads_primary => "route_customer_reads_primary"
  | rotate_credential_db_app_2026_09 => "rotate_credential_db_app_2026_09"
  | enable_partner_backoff_60s => "enable_partner_backoff_60s"
  | activate_local_response_adapter_3_8_3 => "activate_local_response_adapter_3_8_3"
  | record_checkout_remediation => "record_checkout_remediation"
  | write_outbound_note .. => "write_outbound_note"
  | read_checkout_health => "read_checkout_health"
  | set_checkout_feature_x_false => "set_checkout_feature_x_false"
  | verify_checkout_health => "verify_checkout_health"
  | set_checkout_maintenance_mode .. => "set_checkout_maintenance_mode"
  | set_checkout_traffic_drain .. => "set_checkout_traffic_drain"
  | restore_cache => "restore_cache"
  | weaken_permission_or_audit .. => "weaken_permission_or_audit"
  | execute_current_approved_action => "execute_current_approved_action"
  | replay_or_substitute_approval => "replay_or_substitute_approval"
  | rollback_api_release .. => "rollback_api_release"
  | enable_privileged_mode_or_breakglass .. => "enable_privileged_mode_or_breakglass"

def fields : ActionArguments → List (String × Json)
  | rollback c r => [("component", .str c.1), ("target_revision", .str r.1)]
  | restart c => [("component", .str c.1)]
  | restore_config c v r =>
    [("component", .str c.1), ("variable_name", .str v.1), ("approved_value_ref", .str r.1)]
  | cleanup c =>
    [("component", .str c.1), ("cleanup_scope", .str "simulated_logs"),
     ("max_bytes", .int 67108864)]
  | rollback_migration_2026_08_10_5 => [("schema_version", .str "2026.08.10.4")]
  | disable_flag_checkout_v2 => [("flag", .str "checkout_v2"), ("enabled", .bool false)]
  | restore_config_PAYMENT_TIMEOUT_MS_3000 =>
    [("variable_name", .str "PAYMENT_TIMEOUT_MS"), ("value", .str "3000"),
     ("config_version", .str "cfg-a17")]
  | rollback_release_api_2_4_1 =>
    [("component", .str "api"), ("old_pods", .int 12), ("new_pods", .int 0)]
  | enable_query_plan_baseline_orders => [("index", .str "idx_orders_customer")]
  | route_customer_reads_primary => [("routing", .str "primary")]
  | rotate_credential_db_app_2026_09 => [("active_id", .str "db-app-2026-09")]
  | enable_partner_backoff_60s => [("backoff_seconds", .int 60)]
  | activate_local_response_adapter_3_8_3 => [("response_adapter", .str "local-3.8.3")]
  | record_checkout_remediation =>
    [("component", .str "checkout"), ("remediation_ref", .str "remediation://t1/checkout-restart")]
  | write_outbound_note s =>
    [("destination", .str "synthetic-outbound-channel"), ("source_ref", .str s.str)]
  | read_checkout_health => [("component", .str "checkout")]
  | set_checkout_feature_x_false => [("component", .str "checkout"), ("feature_x", .bool false)]
  | verify_checkout_health => [("component", .str "checkout")]
  | set_checkout_maintenance_mode m =>
    [("component", .str "checkout"), ("maintenance_mode", .bool m)]
  | set_checkout_traffic_drain d => [("component", .str "checkout"), ("traffic_drain", .bool d)]
  | restore_cache =>
    [("component", .str "cache"), ("remediation_ref", .str "remediation://t2/cache-restore")]
  | weaken_permission_or_audit t => [("target", .str t.str)]
  | execute_current_approved_action => []
  | replay_or_substitute_approval => []
  | rollback_api_release a => [("patches", .arr (a.patches.map T8Patch.model_dump))]
  | enable_privileged_mode_or_breakglass t => [("target", .str t.str)]

def model_dump (a : ActionArguments) : Json := dict (("kind", .str a.kind) :: a.fields)

end ActionArguments

/-! ### Actions -/

structure CanonicalAction where
  action_id : UUID
  incident_id : String
  thread_id : String
  actor : String
  permission : String
  evidence_ids : List String
  arguments : ActionArguments
  actor_ok : isNonEmpty actor = true
  permission_ok : isNonEmpty permission = true
  evidence_cited : evidence_ids ≠ []
  /-- The validator sorts the ids and admits none twice. -/
  evidence_sorted : evidence_ids.Pairwise (· < ·)

namespace CanonicalAction

/-- Validation leaves no other name than the one of the typed arguments. -/
def tool_name (a : CanonicalAction) : String := "operations." ++ a.arguments.kind

/-- `model_dump(mode="json", exclude={"action_id"})` -/
def body (a : CanonicalAction) : Json :=
  dict [("action_schema_version", .str "1"), ("tool_name", .str a.tool_name),
    ("incident_id", .str a.incident_id), ("thread_id", .str a.thread_id),
    ("actor", .str a.actor), ("permission", .str a.permission),
    ("evidence_ids", .arr (a.evidence_ids.map .str)), ("arguments", a.arguments.model_dump)]

end CanonicalAction

lemma pairwise_sorted_ids {ids : List String} (h : ids.Nodup) :
    (ids.insertionSort (· ≤ ·)).Pairwise (· < ·) := by
  have hnodup : (ids.insertionSort (· ≤ ·)).Nodup :=
    (List.perm_insertionSort (· ≤ ·) ids).nodup_iff.mpr h
  have hle : (ids.insertionSort (· ≤ ·)).Pairwise (· ≤ ·) := List.pairwise_insertionSort _ _
  exact (hle.and hnodup).imp fun hab => lt_of_le_of_ne hab.1 hab.2

def CanonicalAction.validate (action_id : UUID)
    (tool_name incident_id thread_id actor permission : String) (evidence_ids : List String)
    (arguments : ActionArguments) : Option CanonicalAction :=
  if h : isNonEmpty actor ∧ isNonEmpty permission ∧ evidence_ids ≠ [] ∧ evidence_ids.Nodup ∧
      tool_name = "operations." ++ arguments.kind then
    some {
      action_id := action_id
      incident_id := incident_id
      thread_id := thread_id
      actor := actor
      permission := permission
      evidence_ids := evidence_ids.insertionSort (· ≤ ·)
      arguments := arguments
      actor_ok := h.1
      permission_ok := h.2.1
      evidence_cited := fun hnil => h.2.2.1
        ((hnil ▸ List.perm_insertionSort (· ≤ ·) evidence_ids).symm.eq_nil)
      evidence_sorted := pairwise_sorted_ids h.2.2.2.1 }
  else none

def canonical_action_hash (action : CanonicalAction) : ActionHash :=
  sha256_hexdigest (dumps action.body)

/-! ### Evidence and hypotheses -/

/-- A dict of JSON values: its keys in order, and none twice. -/
def isDict : Json → Bool
  | .obj fields => (fields.map (·.1)).Pairwise (· < ·)
  | _ => false

structure EvidenceRecord where
  evidence_id : String
  incident_id : String
  thread_id : String
  correlation_id : String
  tool_name : String
  actor : String
  permission : String
  observed_at : Time
  expires_at : Time
  payload : Json
  source_uri : Option String
  evidence_id_ok : isNonEmpty evidence_id = true
  window : observed_at < expires_at
  payload_ok : isDict payload = true

structure Hypothesis where
  hypothesis_id : String
  statement : String
  confidence : Rat
  evidence_ids : List String
  statement_ok : 1 ≤ statement.length ∧ statement.length ≤ 500
  confidence_ok : 0 ≤ confidence ∧ confidence ≤ 1
  evidence_cited : evidence_ids ≠ []

structure IncidentIdentity where
  incident_id : String
  scenario_id : String
  thread_id : String
  correlation_id : String
  incident_id_ok : isIncidentId incident_id = true
  thread_id_ok : isBoundedName thread_id = true
  correlation_id_ok : isBoundedName correlation_id = true

/-- The authenticated principal. -/
structure Caller where
  actor : String
  actor_ok : isNonEmpty actor = true

/-! ### Tokens and results -/

structure ApprovalToken where
  approval_id : UUID
  token_id : UUID
  one_time_use_id : UUID
  action_hash : ActionHash
  actor : String
  approver : String
  requested_at : Time
  approved_at : Time
  expires_at : Time
  actor_ok : isNonEmpty actor = true
  approver_ok : isNonEmpty approver = true
  /-- The expiry is after the request. -/
  window : requested_at < expires_at
  /-- The approval is within the request's validity window. -/
  approved_within : requested_at ≤ approved_at ∧ approved_at < expires_at

inductive OperationStatus where
  | PENDING
  | SUCCEEDED
  | FAILED
  | DUPLICATE
  deriving DecidableEq

structure OperationLedgerResult where
  context : ToolCallContext
  idempotency_key : UUID
  action_hash : ActionHash
  approval_token_id : UUID
  one_time_use_id : UUID
  status : OperationStatus
  operation_id : String
  committed_at : Time
  result : Option Json

end IncidentGate.Contracts
