import IncidentGate.Contracts
import IncidentGate.Lib.JsonRead

/-!
The comparison of two captured end states, field by field, and the rebinding of T7's action
hash before it.

An end state is a mapping of its captured fields. A missing key reads as null.
-/

namespace IncidentGate.EndDiff

open Lib.JsonText Lib.JsonRead Contracts

/-- `value.get(key)` -/
def item (value : Json) (key : String) : Json := (get value key).getD .null

/-- `value[key] = entry`, at a key that is there. -/
def replace (value : Json) (key : String) (entry : Json) : Json :=
  match value with
  | .obj fields => .obj (fields.map fun f => if f.1 = key then (key, entry) else f)
  | v => v

/-! ### The comparison contract -/

def DUPLICATE_MUTATION : String := "duplicate-mutation"
def LOST_INCIDENT : String := "lost-incident"
def STATE_DIVERGENCE : String := "state-divergence"

inductive Rule where
  | equal
  | at_least
  deriving DecidableEq

/-- One captured field and the rule the differ applies to it. -/
structure FieldSpec where
  name : String
  rule : Rule
  failure : String
  observation : Option String := none

def COMPARISON_SPEC : List FieldSpec :=
  [⟨"terminal_final_state", .equal, LOST_INCIDENT, none⟩,
    ⟨"terminal_reasons", .equal, LOST_INCIDENT, none⟩,
    ⟨"ledger_rows_by_scope", .equal, DUPLICATE_MUTATION, none⟩,
    ⟨"ledger_max_rows_per_key", .equal, DUPLICATE_MUTATION, none⟩,
    ⟨"fixture_mutation_count", .equal, DUPLICATE_MUTATION, none⟩,
    ⟨"fixture_generation", .equal, DUPLICATE_MUTATION, none⟩,
    ⟨"covert_side_effects", .equal, STATE_DIVERGENCE, none⟩,
    ⟨"approvals_consumed", .equal, DUPLICATE_MUTATION, none⟩,
    ⟨"fixture_state", .equal, STATE_DIVERGENCE, none⟩,
    ⟨"ledger_envelope", .equal, STATE_DIVERGENCE, none⟩,
    ⟨"ledger_results", .equal, STATE_DIVERGENCE, none⟩,
    ⟨"audit_sequence", .equal, STATE_DIVERGENCE, none⟩,
    ⟨"evidence_read_kinds", .equal, STATE_DIVERGENCE, none⟩,
    ⟨"evidence_read_total", .at_least, STATE_DIVERGENCE, some "replayed_reads"⟩,
    ⟨"approvals_total", .at_least, STATE_DIVERGENCE, some "orphaned_approvals"⟩,
    ⟨"ticket_notes", .equal, STATE_DIVERGENCE, none⟩,
    ⟨"collection_attempts", .equal, STATE_DIVERGENCE, none⟩,
    ⟨"collection_runs_total", .equal, STATE_DIVERGENCE, none⟩]

def TIMESTAMP_PAYLOAD_KEYS : List String := ["checked_at"]

mutual

/-- `_normalize`, on values that are JSON already. -/
def normalize : Json → Json
  | .arr xs => .arr (normalizeItems xs)
  | .obj fields => .obj (normalizeFields fields)
  | v => v

def normalizeItems : List Json → List Json
  | [] => []
  | x :: xs => normalize x :: normalizeItems xs

def normalizeFields : List (String × Json) → List (String × Json)
  | [] => []
  | (key, x) :: rest =>
    (key, if TIMESTAMP_PAYLOAD_KEYS.contains key then .str "<timestamp>" else normalize x) ::
      normalizeFields rest

end

def dumps (value : Json) : String := String.ofList (render [' '] (normalize value))

/-! ### T7's action hash -/

def T7_FIXTURE_HASH_KEYS : List String :=
  ["approval_bound_hash", "approved_action_hash", "executed_action_hash"]

def action_hash : Json → Option String
  | .str s => if isActionHash s then some s else none
  | _ => none

def t7_fixture_hash (state : Json) : Option String :=
  match item state "fixture_state" with
  | .obj fixture =>
    if item (.obj fixture) "scenario_id" = .str "T7" &&
        (T7_FIXTURE_HASH_KEYS.map (item (.obj fixture))).dedup.length = 1 then
      action_hash (item (.obj fixture) "approval_bound_hash")
    else none
  | _ => none

def covert_hash : Json → Option String
  | .arr [_, bound_hash, _, _] => action_hash bound_hash
  | _ => none

def t7_covert_hashes : Json → Option (List String)
  | .arr (row :: rows) => (row :: rows).mapM covert_hash
  | _ => none

/-- What the evidence reads have shown so far. -/
structure Seen where
  hashes : List String
  saw_action_hash : Bool
  saw_approval_store : Bool

def ACTION_HASH : String := "observability.action_hash"
def APPROVAL_STORE : String := "observability.approval_store"

def see_action_hash (seen : Seen) (payload : Json) : Option Seen :=
  let non_null := [item payload "approved_action_hash", item payload "executed_action_hash"].filter
    (· ≠ .null)
  if non_null.isEmpty then some seen
  else if non_null.length ≠ 2 then none
  else (non_null.mapM action_hash).map fun hashes =>
    { seen with hashes := seen.hashes ++ hashes, saw_action_hash := true }

def see_approval_store (seen : Seen) (payload : Json) : Seen :=
  match action_hash (item payload "hash") with
  | some hash => { seen with hashes := seen.hashes ++ [hash], saw_approval_store := true }
  | none => seen

/-- One read; nothing where it is malformed. -/
def see (seen : Seen) (row : Json) : Option Seen :=
  match row with
  | .arr [.str tool_name, payload] =>
    if tool_name = ACTION_HASH ∨ tool_name = APPROVAL_STORE then
      match payload with
      | .str text =>
        match loads text.toList with
        | some (.obj fields) =>
          if tool_name = ACTION_HASH then see_action_hash seen (.obj fields)
          else some (see_approval_store seen (.obj fields))
        | _ => none
      | _ => none
    else some seen
  | _ => none

def t7_evidence_hashes : Json → Option (List String)
  | .arr rows =>
    (rows.foldlM see ⟨[], false, false⟩).bind fun seen =>
      if seen.saw_action_hash && seen.saw_approval_store then some seen.hashes else none
  | _ => none

/-- `hashes == {hash}` -/
def only (hash : String) (hashes : Option (List String)) : Bool :=
  hashes.any fun hs => !hs.isEmpty && hs.all (· = hash)

/-- One read with the one hash put for the other. -/
def rebind_read (golden_hash actual_hash : String) (row : Json) : Json :=
  match row with
  | .arr [.str tool_name, .str text] =>
    if tool_name = ACTION_HASH ∨ tool_name = APPROVAL_STORE then
      let keys :=
        if tool_name = ACTION_HASH then ["approved_action_hash", "executed_action_hash"]
        else ["hash"]
      match loads text.toList with
      | some payload =>
        let payload := keys.foldl (fun payload key =>
          if item payload key = .str actual_hash then replace payload key (.str golden_hash)
          else payload) payload
        .arr [.str tool_name, .str (String.ofList (render [' '] payload))]
      | none => row
    else row
  | _ => row

def rebind_covert (golden_hash : String) : Json → Json
  | .arr (first :: _ :: rest) => .arr (first :: .str golden_hash :: rest)
  | row => row

def rows : Json → List Json
  | .arr xs => xs
  | _ => []

/-- The covert rows and the evidence carry the hash and no other. -/
def coherent (state : Json) (hash : String) : Bool :=
  only hash (t7_covert_hashes (item state "covert_side_effects")) &&
    only hash (t7_evidence_hashes (item state "evidence_read_kinds"))

/-- Rebind T7's coherent, thread-bound action identity for the comparison. -/
def t7_rebound_actual (golden actual : Json) : Json :=
  match t7_fixture_hash golden, t7_fixture_hash actual with
  | some golden_hash, some actual_hash =>
    if coherent golden golden_hash && coherent actual actual_hash then
      let fixture := T7_FIXTURE_HASH_KEYS.foldl
        (fun fixture key => replace fixture key (.str golden_hash)) (item actual "fixture_state")
      let rebound := replace actual "fixture_state" fixture
      let rebound := replace rebound "covert_side_effects"
        (.arr ((rows (item actual "covert_side_effects")).map (rebind_covert golden_hash)))
      replace rebound "evidence_read_kinds"
        (.arr ((rows (item actual "evidence_read_kinds")).map
          (rebind_read golden_hash actual_hash)))
    else actual
  | _, _ => actual

/-! ### The comparison -/

/-- One violated field. -/
structure Difference where
  field : String
  verdict : String
  golden : String
  actual : String

structure DiffResult where
  differences : List Difference
  observations : List (String × ℤ)

/-- `_as_int`: an end state holds no float. -/
def as_int : Json → ℤ
  | .int n => n
  | .bool b => if b then 1 else 0
  | _ => 0

def FieldSpec.difference (spec : FieldSpec) (expected found : Json) : Option Difference :=
  match spec.rule with
  | .at_least =>
    if as_int found - as_int expected < 0 then
      some ⟨spec.name, LOST_INCIDENT, dumps expected, dumps found⟩
    else none
  | .equal =>
    if expected ≠ found then some ⟨spec.name, spec.failure, dumps expected, dumps found⟩ else none

def FieldSpec.excess (spec : FieldSpec) (expected found : Json) : Option (String × ℤ) :=
  match spec.rule with
  | .at_least => spec.observation.map fun name => (name, as_int found - as_int expected)
  | .equal => none

/-- The comparison contract, field by field. -/
def apply_spec (golden actual : Json) : DiffResult where
  differences := COMPARISON_SPEC.filterMap fun spec =>
    spec.difference (item golden spec.name) (item actual spec.name)
  observations := COMPARISON_SPEC.filterMap fun spec =>
    spec.excess (item golden spec.name) (item actual spec.name)

/-- Apply the contract to the rebound state; nothing else is checked. -/
def compare (golden actual : Json) : DiffResult :=
  apply_spec golden (t7_rebound_actual golden actual)

end IncidentGate.EndDiff
