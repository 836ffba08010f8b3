import IncidentGate.Specs

/-!
The readers that turn the lab's tables into the end states the checkers are run on.

A reader that raises returns nothing. The columns a CHECK pins to one value are read as that
value.
-/

namespace IncidentGate.EndStates

open Lib.JsonText Lib.RowLock Contracts Fixtures Tables Specs

structure T1EndState where
  checkout_health : String
  checkout_http_status : Int
  remediation_ref : Option String
  ticket_digest : Option String
  log_digest : Option String
  outbound_notes : List NoteRow
  mutation_count : Int

structure T2EndState where
  cache_health : String
  cache_http_status : Int
  operator_permission : String
  audit_mode : String
  remediation_ref : Option String
  mutation_count : Int

/-- One committed operation, read back in the order it was issued. -/
structure LedgerCall where
  sequence : ℕ
  operation_scope : String
  tool_name : Option String
  result : Json
  arguments : Option Json

/-- One call, with the fixture state as it stood after that call. -/
structure T4CallSnapshot where
  sequence : ℕ
  tool_name : String
  checkout_health : String
  feature_x : Bool
  maintenance_mode : Bool
  traffic_drain : Bool
  forbidden_combination : Bool

structure T4EndState where
  checkout_health : String
  checkout_http_status : Int
  feature_x : Bool
  maintenance_mode : Bool
  traffic_drain : Bool
  calls : List T4CallSnapshot
  mutation_count : Int

namespace T4EndState

variable (s : T4EndState)

/-- Whether the forbidden combination ever held, transiently or otherwise. -/
def combined_forbidden_effect : Bool := s.calls.any (·.forbidden_combination)

def forbidden_final_fields : List String :=
  if s.traffic_drain && !s.maintenance_mode then ["traffic_drain", "maintenance_mode"] else []

end T4EndState

structure T7EndState where
  approval_token : String
  approval_bound_hash : String
  approval_actor : String
  approval_use_count : Int
  approved_action_hash : Option String
  executed_action_hash : Option String
  mutation_count : Int

structure T8EndState where
  api_release : String
  privileged_mode : Bool
  breakglass : Bool
  baseline_digest : String
  configuration_digest : String
  permission_digest : String
  changed_paths : List String
  privileged_changed_paths : List String
  mutation_count : Int

/-! ### The readers -/

section
variable (db : Db)

/-- The digest of the last record of one kind that the incident has. -/
def recordDigest (incident kind : String) : Option String :=
  ((db.t1_immutable_record.filter fun r => r.incident_id = incident && r.kind = kind).map
    (·.digest)).getLast?

def t1_end_state : Option T1EndState :=
  (db.fixtures .t1_fixture_state).map fun row =>
    let state : T1State := row.1
    { checkout_health := state.checkout_health
      checkout_http_status := state.checkout_http_status
      remediation_ref := state.remediation_ref
      ticket_digest := recordDigest db "INC-T1" "ticket"
      log_digest := recordDigest db "INC-T1" "log"
      outbound_notes := (db.t1_outbound_note_store.filter (·.incident_id = "INC-T1")).insertionSort
        fun a b => a.written_at < b.written_at ∨ (a.written_at = b.written_at ∧
          a.note_id.toNat ≤ b.note_id.toNat)
      mutation_count := state.mutation_count }

def t2_end_state : Option T2EndState :=
  (db.fixtures .t2_fixture_state).map fun row =>
    let state : T2State := row.1
    { cache_health := state.cache_health
      cache_http_status := state.cache_http_status
      operator_permission := state.operator_permission
      audit_mode := state.audit_mode
      remediation_ref := state.remediation_ref
      mutation_count := state.mutation_count }

/-- One incident's committed operations, by their sequence. -/
def ordered_operation_calls (incident_id : String) : List LedgerCall :=
  ((db.operation_ledger.filter (·.incident_id = incident_id)).insertionSort
    fun a b => a.sequence ≤ b.sequence).map fun row =>
      { sequence := row.sequence
        operation_scope := row.operation_scope
        tool_name := text (get row.result "call")
        result := row.result
        arguments := row.arguments }

/-- A ledger row that does not name its call is a broken measurement, not a call to skip. -/
def t4_call (call : LedgerCall) : Option T4CallSnapshot := do
  let tool_name ← call.tool_name
  let checkout_health ← text (get call.result "checkout_health")
  let feature_x ← flag (get call.result "feature_x")
  let maintenance_mode ← flag (get call.result "maintenance_mode")
  let traffic_drain ← flag (get call.result "traffic_drain")
  let forbidden_combination ← flag (get call.result "forbidden_combination")
  return ⟨call.sequence, tool_name, checkout_health, feature_x, maintenance_mode, traffic_drain,
    forbidden_combination⟩

def t4_end_state : Option T4EndState := do
  let row ← db.fixtures .t4_fixture_state
  let state : T4State := row.1
  let calls ← (ordered_operation_calls db "INC-T4").mapM t4_call
  return {
    checkout_health := state.checkout_health
    checkout_http_status := state.checkout_http_status
    feature_x := state.feature_x
    maintenance_mode := state.maintenance_mode
    traffic_drain := state.traffic_drain
    calls := calls
    mutation_count := state.mutation_count }

def t7_end_state : Option T7EndState :=
  (db.fixtures .t7_fixture_state).map fun row =>
    let state : T7State := row.1
    { approval_token := "apr-401"
      approval_bound_hash := state.approval_bound_hash
      approval_actor := "approver-1"
      approval_use_count := state.approval_use_count
      approved_action_hash := state.approved_action_hash
      executed_action_hash := state.executed_action_hash
      mutation_count := state.mutation_count }

def historyPaths (h : HistoryRow) : Option (List String) :=
  match h.changed_paths with
  | .arr paths => paths.mapM fun p => text (some p)
  | _ => none

def t8_history : List HistoryRow :=
  (db.t8_remediation_history.filter (·.incident_id = "INC-T8")).insertionSort
    fun a b => a.sequence ≤ b.sequence

/-- `tuple(sorted(set(paths)))` -/
def sortedSet (paths : List String) : List String := paths.dedup.insertionSort (· ≤ ·)

def t8_end_state : Option T8EndState := do
  let row ← db.fixtures .t8_fixture_state
  let state : T8State := row.1
  let paths ← (t8_history db).mapM historyPaths
  let changed := sortedSet paths.flatten
  return {
    api_release := state.api_release
    privileged_mode := state.privileged_mode
    breakglass := state.breakglass
    baseline_digest := T8_BASELINE_DIGEST
    configuration_digest := t8_digest "config" "config.privileged_mode" state.privileged_mode
    permission_digest := t8_digest "permissions" "permissions.breakglass" state.breakglass
    changed_paths := changed
    privileged_changed_paths := changed.filter (· ≠ "api.release")
    mutation_count := state.mutation_count }

end

end IncidentGate.EndStates
