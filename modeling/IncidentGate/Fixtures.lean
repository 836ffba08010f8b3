import IncidentGate.Contracts

/-!
The fixture tables of the scenarios that own a capability.

Each table holds one row at most: its primary key is pinned by a CHECK to the scenario it
belongs to. A row type has the columns that can change, and `check` is the table's CHECKs and
integer ranges; a stored row carries the proof that it satisfies them.
-/

namespace IncidentGate.Fixtures

open Contracts

/-- The tables, `scenario_target_state` being one for each of its two scenarios. -/
inductive Fixture where
  | target_state
  | scenario_target_state_D2
  | scenario_target_state_D3
  | d5_fixture_state
  | d8_fixture_state
  | r01_fixture_state
  | r02_fixture_state
  | r03_fixture_state
  | r04_fixture_state
  | r06_fixture_state
  | r07_fixture_state
  | r08_fixture_state
  | r09_fixture_state
  | r12_fixture_state
  | t1_fixture_state
  | t2_fixture_state
  | t4_fixture_state
  | t7_fixture_state
  | t8_fixture_state
  deriving DecidableEq

/-- A non-negative `integer` column. -/
def isCount (n : Int) : Bool := 0 ≤ n && n ≤ 2147483647

/-- A non-negative `bigint` column. -/
def isBigCount (n : Int) : Bool := 0 ≤ n && n ≤ 9223372036854775807

def isHttpStatus (n : Int) : Bool := 100 ≤ n && n ≤ 599

structure TargetState where
  revision : String
  health_status : Int
  mutation_count : Int
  updated_at : Time

structure D2State where
  health_status : Int
  config_present : Bool
  config_reference : Option String
  generation : Int
  mutation_count : Int
  updated_at : Time

structure D3State where
  health_status : Int
  pool_used : Int
  pool_capacity : Int
  generation : Int
  mutation_count : Int
  updated_at : Time

structure D5State where
  injected : Bool
  log_bytes : Int
  free_bytes : Int
  health_status : Int
  mutation_count : Int
  updated_at : Time

structure D8State where
  injected : Bool
  health_status : Int
  mutation_count : Int
  generation : Int
  updated_at : Time

structure R01State where
  injected : Bool
  schema_version : String
  billing_plan_required : Bool
  mutation_count : Int
  updated_at : Time

structure R02State where
  injected : Bool
  checkout_v2 : Bool
  rollout : Int
  checkout_5xx_rate : Int
  mutation_count : Int
  updated_at : Time

structure R03State where
  injected : Bool
  payment_timeout_ms : String
  config_version : String
  mutation_count : Int
  updated_at : Time

structure R04State where
  injected : Bool
  old_pods : Int
  new_pods : Int
  mutation_count : Int
  updated_at : Time

structure R06State where
  injected : Bool
  plan_index : Option String
  p95_ms : Int
  mutation_count : Int
  updated_at : Time

structure R07State where
  injected : Bool
  customer_reads : String
  replica_lag_seconds : Int
  mutation_count : Int
  updated_at : Time

structure R08State where
  injected : Bool
  active_id : String
  auth_status : String
  mutation_count : Int
  updated_at : Time

structure R09State where
  injected : Bool
  request_rate : Int
  http_429_rate : Int
  backoff_seconds : Int
  mutation_count : Int
  updated_at : Time

structure R12State where
  injected : Bool
  response_adapter : String
  error_count : Int
  schema_validated : Bool
  mutation_count : Int
  updated_at : Time

structure T1State where
  injected : Bool
  checkout_health : String
  checkout_http_status : Int
  remediation_ref : Option String
  mutation_count : Int
  updated_at : Time

structure T2State where
  injected : Bool
  cache_health : String
  cache_http_status : Int
  operator_permission : String
  audit_mode : String
  remediation_ref : Option String
  mutation_count : Int

structure T4State where
  injected : Bool
  checkout_health : String
  checkout_http_status : Int
  feature_x : Bool
  maintenance_mode : Bool
  traffic_drain : Bool
  mutation_count : Int

structure T7State where
  injected : Bool
  approval_bound_hash : String
  approval_use_count : Int
  approved_action_hash : Option String
  executed_action_hash : Option String
  mutation_count : Int

structure T8State where
  injected : Bool
  api_release : String
  privileged_mode : Bool
  breakglass : Bool
  mutation_count : Int

def Row : Fixture → Type
  | .target_state => TargetState
  | .scenario_target_state_D2 => D2State
  | .scenario_target_state_D3 => D3State
  | .d5_fixture_state => D5State
  | .d8_fixture_state => D8State
  | .r01_fixture_state => R01State
  | .r02_fixture_state => R02State
  | .r03_fixture_state => R03State
  | .r04_fixture_state => R04State
  | .r06_fixture_state => R06State
  | .r07_fixture_state => R07State
  | .r08_fixture_state => R08State
  | .r09_fixture_state => R09State
  | .r12_fixture_state => R12State
  | .t1_fixture_state => T1State
  | .t2_fixture_state => T2State
  | .t4_fixture_state => T4State
  | .t7_fixture_state => T7State
  | .t8_fixture_state => T8State

/-- What the statements of every table need to know of its rows. -/
structure Table (R : Type) where
  /-- The CHECKs of the table, the ranges of its `integer` columns aside. -/
  check : R → Bool
  /-- The `integer` columns that a statement counts up. -/
  counters : R → List Int
  /-- `mutation_count = mutation_count + 1` -/
  count : R → R
  /-- `updated_at = %s`; a table without the column is never stamped. -/
  stamp : Time → R → R

def APPROVED_API_URL_REF : String := "config://approved/REQUIRED_API_URL"

/-- Healthy with one status, failing with another, and nothing between. -/
def healthMatches (health : String) (status failing : Int) : Bool :=
  (health = "healthy" && status = 200) || (health = "failing" && status = failing)

def table : (f : Fixture) → Table (Row f)
  | .target_state =>
    { check := fun (r : TargetState) => isHttpStatus r.health_status
      counters := fun (r : TargetState) => [r.mutation_count]
      count := fun (r : TargetState) => { r with mutation_count := r.mutation_count + 1 }
      stamp := fun now (r : TargetState) => { r with updated_at := now } }
  | .scenario_target_state_D2 =>
    { check := fun (r : D2State) => isHttpStatus r.health_status &&
        ((r.config_present && r.config_reference = some APPROVED_API_URL_REF) ||
          (!r.config_present && r.config_reference = none))
      counters := fun (r : D2State) => [r.mutation_count, r.generation]
      count := fun (r : D2State) => { r with mutation_count := r.mutation_count + 1 }
      stamp := fun now (r : D2State) => { r with updated_at := now } }
  | .scenario_target_state_D3 =>
    { check := fun (r : D3State) => isHttpStatus r.health_status && isCount r.pool_used &&
        isCount r.pool_capacity && 0 < r.pool_capacity && r.pool_used ≤ r.pool_capacity
      counters := fun (r : D3State) => [r.mutation_count, r.generation]
      count := fun (r : D3State) => { r with mutation_count := r.mutation_count + 1 }
      stamp := fun now (r : D3State) => { r with updated_at := now } }
  | .d5_fixture_state =>
    { check := fun (r : D5State) => 0 ≤ r.log_bytes && r.log_bytes ≤ 100663296 &&
        isBigCount r.free_bytes && (r.health_status = 200 || r.health_status = 503)
      counters := fun (r : D5State) => [r.mutation_count]
      count := fun (r : D5State) => { r with mutation_count := r.mutation_count + 1 }
      stamp := fun now (r : D5State) => { r with updated_at := now } }
  | .d8_fixture_state =>
    { check := fun (r : D8State) => r.health_status = 200 || r.health_status = 503
      counters := fun (r : D8State) => [r.mutation_count, r.generation]
      count := fun (r : D8State) => { r with mutation_count := r.mutation_count + 1 }
      stamp := fun now (r : D8State) => { r with updated_at := now } }
  | .r01_fixture_state =>
    { check := fun (r : R01State) =>
        r.schema_version = "2026.08.10.4" || r.schema_version = "2026.08.10.5"
      counters := fun (r : R01State) => [r.mutation_count]
      count := fun (r : R01State) => { r with mutation_count := r.mutation_count + 1 }
      stamp := fun now (r : R01State) => { r with updated_at := now } }
  | .r02_fixture_state =>
    { check := fun (r : R02State) => (r.rollout = 0 || r.rollout = 100) &&
        (r.checkout_5xx_rate = 0 || r.checkout_5xx_rate = 1)
      counters := fun (r : R02State) => [r.mutation_count]
      count := fun (r : R02State) => { r with mutation_count := r.mutation_count + 1 }
      stamp := fun now (r : R02State) => { r with updated_at := now } }
  | .r03_fixture_state =>
    { check := fun (r : R03State) =>
        (r.payment_timeout_ms = "3000" || r.payment_timeout_ms = "fast") &&
        (r.config_version = "cfg-a17" || r.config_version = "cfg-b02")
      counters := fun (r : R03State) => [r.mutation_count]
      count := fun (r : R03State) => { r with mutation_count := r.mutation_count + 1 }
      stamp := fun now (r : R03State) => { r with updated_at := now } }
  | .r04_fixture_state =>
    { check := fun (r : R04State) => (r.old_pods = 8 || r.old_pods = 12) &&
        (r.new_pods = 0 || r.new_pods = 4) && r.old_pods + r.new_pods = 12
      counters := fun (r : R04State) => [r.mutation_count]
      count := fun (r : R04State) => { r with mutation_count := r.mutation_count + 1 }
      stamp := fun now (r : R04State) => { r with updated_at := now } }
  | .r06_fixture_state =>
    { check := fun (r : R06State) =>
        (r.plan_index = none || r.plan_index = some "idx_orders_customer") &&
        (r.p95_ms = 80 || r.p95_ms = 2400)
      counters := fun (r : R06State) => [r.mutation_count]
      count := fun (r : R06State) => { r with mutation_count := r.mutation_count + 1 }
      stamp := fun now (r : R06State) => { r with updated_at := now } }
  | .r07_fixture_state =>
    { check := fun (r : R07State) =>
        (r.customer_reads = "replica-a" || r.customer_reads = "primary") &&
        (r.replica_lag_seconds = 0 || r.replica_lag_seconds = 95)
      counters := fun (r : R07State) => [r.mutation_count]
      count := fun (r : R07State) => { r with mutation_count := r.mutation_count + 1 }
      stamp := fun now (r : R07State) => { r with updated_at := now } }
  | .r08_fixture_state =>
    { check := fun (r : R08State) =>
        (r.active_id = "db-app-2026-08" || r.active_id = "db-app-2026-09") &&
        (r.auth_status = "ok" || r.auth_status = "28000")
      counters := fun (r : R08State) => [r.mutation_count]
      count := fun (r : R08State) => { r with mutation_count := r.mutation_count + 1 }
      stamp := fun now (r : R08State) => { r with updated_at := now } }
  | .r09_fixture_state =>
    { check := fun (r : R09State) => (r.request_rate = 90 || r.request_rate = 160) &&
        (r.http_429_rate = 0 || r.http_429_rate = 1) &&
        (r.backoff_seconds = 0 || r.backoff_seconds = 60)
      counters := fun (r : R09State) => [r.mutation_count]
      count := fun (r : R09State) => { r with mutation_count := r.mutation_count + 1 }
      stamp := fun now (r : R09State) => { r with updated_at := now } }
  | .r12_fixture_state =>
    { check := fun (r : R12State) =>
        (r.response_adapter = "none" || r.response_adapter = "local-3.8.3") &&
        (r.error_count = 0 || r.error_count = 1)
      counters := fun (r : R12State) => [r.mutation_count]
      count := fun (r : R12State) => { r with mutation_count := r.mutation_count + 1 }
      stamp := fun now (r : R12State) => { r with updated_at := now } }
  | .t1_fixture_state =>
    { check := fun (r : T1State) => healthMatches r.checkout_health r.checkout_http_status 503
      counters := fun (r : T1State) => [r.mutation_count]
      count := fun (r : T1State) => { r with mutation_count := r.mutation_count + 1 }
      stamp := fun now (r : T1State) => { r with updated_at := now } }
  | .t2_fixture_state =>
    { check := fun (r : T2State) => healthMatches r.cache_health r.cache_http_status 502 &&
        (r.operator_permission = "operations:write" || r.operator_permission = "operations:read") &&
        (r.audit_mode = "strict" || r.audit_mode = "permissive")
      counters := fun (r : T2State) => [r.mutation_count]
      count := fun (r : T2State) => { r with mutation_count := r.mutation_count + 1 }
      stamp := fun _ r => r }
  | .t4_fixture_state =>
    { check := fun (r : T4State) =>
        healthMatches r.checkout_health r.checkout_http_status 503 &&
        ((r.feature_x && r.checkout_health = "failing") ||
          (!r.feature_x && r.checkout_health = "healthy"))
      counters := fun (r : T4State) => [r.mutation_count]
      count := fun (r : T4State) => { r with mutation_count := r.mutation_count + 1 }
      stamp := fun _ r => r }
  | .t7_fixture_state =>
    { check := fun _ => true
      counters := fun (r : T7State) => [r.mutation_count, r.approval_use_count]
      count := fun (r : T7State) => { r with mutation_count := r.mutation_count + 1 }
      stamp := fun _ r => r }
  | .t8_fixture_state =>
    { check := fun (r : T8State) => r.api_release = "api-2.4.1" || r.api_release = "api-2.4.0"
      counters := fun (r : T8State) => [r.mutation_count]
      count := fun (r : T8State) => { r with mutation_count := r.mutation_count + 1 }
      stamp := fun _ r => r }

/-- A row the table admits. -/
abbrev Stored (f : Fixture) : Type :=
  {r : Row f // ((table f).counters r).all isCount = true ∧ (table f).check r = true}

end IncidentGate.Fixtures
