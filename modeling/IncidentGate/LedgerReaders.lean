import IncidentGate.CommitSteps
import IncidentGate.Denial
import IncidentGate.Lib.CodeText
import Mathlib.Data.List.Forall2
import Mathlib.Data.List.Pairwise

/-!
The ledger read back.

The kernel writes a row under the scope of its capability. Two of the readers take the scope of
the row's scenario instead, and a scenario may own several.
-/

namespace IncidentGate.LedgerReaders

open Lib.ScriptTree Lib.ScriptTree.Script Lib.RowLock Lib.RowLockLogic Lib.RowLockAlone
open Lib.Digest Lib.JsonText Contracts Fixtures Tables Refusals Kernel Specs RowLocks Outcomes
open SingleUse Redelivery CommitSteps
open Lib.CodeText (mem_of_forall₂)

/-! ### The readers -/

def OPERATION_SCOPE : String := "d1-api"

/-- `_SCOPES`: the one scope a scenario is evaluated through. -/
def SCOPES : List (String × String) :=
  [("D2", "d2-api-config"), ("D3", "d3-api-restart"), ("D5", "d5-api-simulated-logs"),
   ("D8", "d8-api-restart"), ("R01", "r01-rollback-migration-2026-08-10-5"),
   ("R02", "r02-disable-flag-checkout-v2"), ("R03", "r03-restore-payment-timeout"),
   ("R04", "r04-rollback-api-2-4-1"), ("R06", "r06-enable-query-plan-baseline-orders"),
   ("R07", "r07-route-customer-reads-primary"),
   ("R08", "r08-rotate-credential-db-app-2026-09"), ("R09", "r09-enable-partner-backoff-60s"),
   ("R12", "r12-activate-local-response-adapter-3-8-3"),
   ("T1", "t1-record-checkout-remediation"), ("T4", "t4-set-checkout-feature-x-false"),
   ("T2", "t2-restore-cache"), ("T7", "t7-execute-current-approved-action"),
   ("T8", T8_ROLLBACK_SCOPE)]

/-- `_SCOPES.get(scenario)` -/
def scope_of (scenario : String) : Option String :=
  (SCOPES.find? (·.1 = scenario)).map (·.2)

/-- `_SCENARIO_SCOPES["T8"]` -/
def T8_SCOPES : List String := [T8_ROLLBACK_SCOPE, T8_PRIVILEGED_SCOPE]

/-- The incidents of `_SCENARIOS`, and D1's. -/
def INCIDENTS : List String :=
  ["INC-D1", "INC-D2", "INC-D3", "INC-D4", "INC-D5", "INC-D6", "INC-D7", "INC-D8", "INC-S1",
   "INC-S2", "INC-R01", "INC-R02", "INC-R03", "INC-R04", "INC-R05", "INC-R06", "INC-R07",
   "INC-R08", "INC-R09", "INC-R10", "INC-R11", "INC-R12", "INC-T1", "INC-T4", "INC-T2",
   "INC-T7", "INC-T8"]

/-- `incident_id.removeprefix("INC-")` -/
def scenarioOf (incident_id : String) : String :=
  match incident_id.toList with
  | 'I' :: 'N' :: 'C' :: '-' :: rest => String.ofList rest
  | _ => incident_id

/-- A SELECT on a connection of its own. -/
def select (q : Stmt) : Call (Reply q) := transaction (execute q)

/-- The scope an operation is looked up under. -/
def expected_scope (operation : OperationLedgerResult) : String :=
  (scope_of (scenarioOf operation.context.incident_id)).getD ""

/-- The comparison of a row with the operation it was looked up for. -/
def row_matches (operation : OperationLedgerResult) (row : LedgerRow) : Bool :=
  row.operation_scope = expected_scope operation && row.action_hash = operation.action_hash &&
    row.idempotency_key = operation.idempotency_key &&
    row.incident_id = operation.context.incident_id &&
    row.thread_id = operation.context.thread_id &&
    row.correlation_id = operation.context.correlation_id &&
    row.actor = operation.context.actor && row.permission = operation.context.permission

/-- Bounded post-action audit lookup. -/
def operation_matches (operation : OperationLedgerResult) : Call Bool := do
  match ← select (.readLedger (expected_scope operation) operation.idempotency_key) with
  | none => return false
  | some row => return row_matches operation row

/-- `OPERATION_SCOPE if scenario == "D1" else _SCOPES.get(scenario)` -/
def evaluation_scope (scenario : String) : Option String :=
  if scenario = "D1" then some OPERATION_SCOPE else scope_of scenario

/-- At most one operation of one bound evaluation thread. -/
def evaluation_operation (incident_id thread_id correlation_id : String) :
    Call (Option OperationLedgerResult) :=
  if incident_id ∉ INCIDENTS then raise (.ValueError "unsupported incident")
  else do
    let rows ← select (.readThread incident_id thread_id correlation_id)
    if 1 < rows.length then
      raise (.ValueError "evaluation thread has more than one operation ledger row")
    else
      match evaluation_scope (scenarioOf incident_id), rows with
      | some scope, row :: _ => do
        let result ← ledger_result row.toLedgerFields .SUCCEEDED scope
        return some result
      | _, _ => return none

/-- T8's operation identities in durable causal order. -/
def t8_operation_ids : Call (List String) := do
  let rows ← select (.readOperations "INC-T8" T8_SCOPES)
  return rows.map fun row => row.1 ++ ":" ++ uuidStr row.2

/-! ### Runs -/

/-- What a commit wrote: its call, and the result it returned, or would have returned had the
response not been lost. -/
structure Written where
  spec : OperationSpec
  context : ToolCallContext
  action : CanonicalAction
  token : ApprovalToken
  result : OperationLedgerResult

def first_delivery (w : World lab) (spec : OperationSpec) (context : ToolCallContext)
    (action : CanonicalAction) (token : ApprovalToken) (σ : Solo lab) : List Written :=
  match (solo w (commit spec context action token false) σ).1 with
  | .ok result =>
    if result.status = .SUCCEEDED then [⟨spec, context, action, token, result⟩] else []
  | .error _ => []

section
variable (incident : String)

/-- No ledger row is written, and none of the incident deleted. -/
def limits : Limits where
  insertLedger := False
  deleteLedger := (· ≠ incident)

/-- A question that writes no ledger row, and deletes none of the incident. -/
def Aside : Op lab → Prop := (limits incident).Allows

/-- The key of the table: no two rows share a scope and an idempotency key. -/
def Keyed (db : Db) : Prop :=
  db.operation_ledger.Pairwise fun a b => ¬ (a.operation_scope = b.operation_scope ∧
    a.idempotency_key = b.idempotency_key)

/-- A run that never deletes the incident, with what its commits wrote for it, in their order:
commits of any capability, and whatever else the lab does meanwhile. -/
inductive LedgerRun : List Written → Solo lab → Prop where
  | start {σ : Solo lab} (hidle : σ.wrote = []) (hkeyed : Keyed σ.db)
    (hclean : ∀ r ∈ σ.db.operation_ledger, r.incident_id ≠ incident) : LedgerRun [] σ
  | commit {spec : OperationSpec} (hspec : spec ∈ registered_operation_specs) (w : World lab)
    (context : ToolCallContext) (action : CanonicalAction) (token : ApprovalToken)
    (response_loss : Bool) {log σ} (h : LedgerRun log σ) :
    LedgerRun (log ++ (first_delivery w spec context action token σ).filter
      (·.context.incident_id = incident))
      (solo w (commit spec context action token response_loss) σ).2
  | other {α : Type} {p : Call α} (hp : p.Asks (Aside incident)) (w : World lab) {log σ}
    (h : LedgerRun log σ) (hidle : (solo w p σ).2.wrote = []) : LedgerRun log (solo w p σ).2

/-- The incident's rows, as they were written. -/
def rowsOf (db : Db) : List LedgerRow := db.operation_ledger.filter (·.incident_id = incident)

end

/-- A row and the commit that wrote it. -/
structure Records (e : Written) (row : LedgerRow) : Prop where
  registered : e.spec ∈ registered_operation_specs
  bound : bound e.spec e.context e.action = true
  insertable : row.isInsertable = true
  written : ∃ key, e.context.idempotency_key = some key ∧ (∃ now result, row.toLedgerFields =
    ledgerFields e.spec e.context e.action e.token key now result) ∧
      e.result = resultOf e.spec e.context key row .SUCCEEDED

/-- The ledger of a run: each row of the incident beside the commit that wrote it, under
increasing numbers. -/
structure Kept (incident : String) (log : List Written) (σ : Solo lab) : Prop where
  idle : σ.wrote = []
  keyed : Keyed σ.db
  rows : List.Forall₂ Records log (rowsOf incident σ.db)
  increasing : (rowsOf incident σ.db).Pairwise fun a b => a.sequence < b.sequence
  below : ∀ r ∈ rowsOf incident σ.db, r.sequence ≤ σ.seq.ledger

/-! ### What a run keeps -/

section
variable {incident : String} {log : List Written} {σ : Solo lab} {db : Db}

lemma Keyed.eq (h : Keyed db) {a b : LedgerRow} (ha : a ∈ db.operation_ledger)
    (hb : b ∈ db.operation_ledger) (hscope : a.operation_scope = b.operation_scope)
    (hkey : a.idempotency_key = b.idempotency_key) : a = b := by
  by_contra hne
  have : Std.Symm fun a b : LedgerRow => ¬ (a.operation_scope = b.operation_scope ∧
      a.idempotency_key = b.idempotency_key) :=
    ⟨fun a b h hba => h ⟨hba.1.symm, hba.2.symm⟩⟩
  exact List.Pairwise.forall h ha hb hne ⟨hscope, hkey⟩

/-- A write that leaves the rows `L`. -/
def Leaves (incident : String) (L : List LedgerRow) : Write → Prop :=
  (limits incident).Leaves (fun s k => ∀ r ∈ L, r.hasKey s k = false) fun _ => True

lemma rowsOf_apply {v : Write} (hv : Leaves incident (rowsOf incident db) v) :
    rowsOf incident (apply db v) = rowsOf incident db := by
  cases v with
  | insertLedger r => exact hv.elim
  | deleteLedger s k =>
    have hrows : ∀ r ∈ rowsOf incident db, r.hasKey s k = false := hv
    unfold rowsOf at hrows ⊢
    show (db.operation_ledger.filter _).filter _ = _
    rw [List.filter_comm]
    exact List.filter_eq_self.mpr fun r hr => by simp [hrows r hr]
  | _ => rfl

lemma keyed_apply {v : Write} {L : List LedgerRow} (hv : Leaves incident L v) (h : Keyed db) :
    Keyed (apply db v) := by
  cases v with
  | insertLedger r => exact hv.elim
  | deleteLedger s k => exact h.filter _
  | _ => exact h

lemma leaves_of_aside {q : Stmt} (hq : Aside incident (.stmt q)) (h : Keyed db) {c c' : Counters}
    {r : Reply q} {ws : List Write} (he : exec q c db = (c', .ok (r, ws))) :
    ∀ v ∈ ws, Leaves incident (rowsOf incident db) v := by
  refine Limits.leaves_of_exec hq (fun s k row hrow hne r hr => ?_) (fun _ _ _ _ => trivial) he
  by_contra hkey
  rw [Bool.not_eq_false] at hkey
  obtain ⟨hmem, hincident⟩ := List.mem_filter.mp hr
  obtain ⟨hrow_mem, hrow_key⟩ := Delivery.mem_of_findLedger hrow
  rw [hasKey_iff] at hkey hrow_key
  obtain rfl := h.eq hmem hrow_mem (hkey.1.trans hrow_key.1.symm) (hkey.2.trans hrow_key.2.symm)
  exact hne (by simpa using hincident)

lemma rowsOf_aside {α : Type} {p : Call α} (hp : p.Asks (Aside incident)) (hkeyed : Keyed σ.db)
    (hidle : σ.wrote = []) (w : World lab) :
    Keyed (solo w p σ).2.db ∧ rowsOf incident (solo w p σ).2.db = rowsOf incident σ.db :=
  (solo_inv (E := lab) (I := fun db => Keyed db ∧ rowsOf incident db = rowsOf incident σ.db)
    (T := Leaves incident (rowsOf incident σ.db))
    (fun q hq c db hdb c' r ws he => hdb.2 ▸ leaves_of_aside hq hdb.1 he)
    (fun v db hv hdb => ⟨keyed_apply hv hdb.1, (rowsOf_apply (hdb.2 ▸ hv)).trans hdb.2⟩)
    w hp ⟨hkeyed, rfl⟩ (by simp [hidle])).1

lemma Kept.other {α : Type} {p : Call α} (h : Kept incident log σ) (hp : p.Asks (Aside incident))
    {w : World lab} (hidle : (solo w p σ).2.wrote = []) : Kept incident log (solo w p σ).2 := by
  obtain ⟨hkeyed, hrows⟩ := rowsOf_aside hp h.keyed h.idle w
  refine ⟨hidle, hkeyed, ?_, ?_, fun r hr => solo_counter (h.below r ?_)⟩
  · rw [hrows]
    exact h.rows
  · rw [hrows]
    exact h.increasing
  · rwa [hrows] at hr

lemma Kept.same {σ' : Solo lab} (h : Kept incident log σ) (hidle : σ'.wrote = [])
    (hledger : σ'.db.operation_ledger = σ.db.operation_ledger)
    (hcounter : σ.seq.ledger ≤ σ'.seq.ledger) : Kept incident log σ' := by
  have hrows : rowsOf incident σ'.db = rowsOf incident σ.db := by
    unfold rowsOf
    rw [hledger]
  refine ⟨hidle, ?_, hrows ▸ h.rows, hrows ▸ h.increasing, fun r hr => ?_⟩
  · unfold Keyed
    rw [hledger]
    exact h.keyed
  · exact (h.below r (hrows ▸ hr)).trans hcounter

lemma keyed_append {db' : Db} {row : LedgerRow} (h : Keyed db)
    (hrows : db'.operation_ledger = db.operation_ledger ++ [row])
    (hfresh : ∀ x ∈ db.operation_ledger, x.hasKey row.operation_scope row.idempotency_key = false) :
    Keyed db' := by
  unfold Keyed
  rw [hrows]
  refine List.pairwise_append.mpr ⟨h, List.pairwise_singleton _ _, fun a ha b hb => ?_⟩
  obtain rfl := List.mem_singleton.mp hb
  intro hsame
  have hkey := hasKey_iff.mpr hsame
  rw [hfresh a ha] at hkey
  cases hkey

lemma bound_incident {spec : OperationSpec} {context : ToolCallContext} {action : CanonicalAction}
    (h : Kernel.bound spec context action = true) : context.incident_id = spec.incident_id := by
  simp only [Kernel.bound, Bool.and_eq_true, decide_eq_true_eq] at h
  exact h.1.1.1.1.1.1.1.1

lemma Kept.appended {σ' : Solo lab} {row : LedgerRow} {e : Written} (h : Kept incident log σ)
    (hidle : σ'.wrote = [])
    (hrows : σ'.db.operation_ledger = σ.db.operation_ledger ++ [row])
    (hfresh : ∀ x ∈ σ.db.operation_ledger, x.hasKey row.operation_scope row.idempotency_key = false)
    (hlow : σ.seq.ledger < row.sequence) (hhigh : row.sequence ≤ σ'.seq.ledger)
    (hrecords : Records e row) :
    Kept incident (log ++ [e].filter (·.context.incident_id = incident)) σ' := by
  have hincident : row.incident_id = e.context.incident_id := by
    obtain ⟨key, -, ⟨now, result, hfields⟩, -⟩ := hrecords.written
    rw [hfields]
    rfl
  have hown : rowsOf incident σ'.db =
      rowsOf incident σ.db ++ [row].filter (·.incident_id = incident) := by
    rw [rowsOf, hrows, List.filter_append]
    rfl
  have hlast : ∀ r ∈ [row].filter (·.incident_id = incident), r = row := fun r hr =>
    List.mem_singleton.mp (List.mem_of_mem_filter hr)
  -- the new row counts only if it is the incident's own
  refine ⟨hidle, keyed_append h.keyed hrows hfresh, ?_, ?_, ?_⟩ <;> rw [hown]
  · refine List.rel_append h.rows ?_
    by_cases hi : e.context.incident_id = incident
    · simpa [hincident, hi] using hrecords
    · simp [hincident, hi]
  · refine List.pairwise_append.mpr ⟨h.increasing, ?_, fun a ha b hb => ?_⟩
    · exact (List.pairwise_singleton _ _).sublist List.filter_sublist
    · rw [hlast b hb]
      exact (h.below a ha).trans_lt hlow
  · intro r hr
    rcases List.mem_append.mp hr with hr | hr
    · exact ((h.below r hr).trans hlow.le).trans hhigh
    · rw [hlast r hr]
      exact hhigh

end

section
variable {spec : OperationSpec} {context : ToolCallContext} {action : CanonicalAction}
  {token : ApprovalToken} {w : World lab} {incident : String} {log : List Written} {σ : Solo lab}

lemma duplicate_status {existing : LedgerFields} {scope : String} {result : OperationLedgerResult}
    (h : ledger_result existing .DUPLICATE scope = ret result) : result.status = .DUPLICATE := by
  unfold ledger_result at h
  split at h
  · cases h
  · injection h with h
    rw [← h]

/-- A commit of any capability keeps the correspondence of rows and commits. -/
lemma Kept.committed (h : Kept incident log σ) (hspec : spec ∈ registered_operation_specs)
    {response_loss : Bool} : Kept incident (log ++ (first_delivery w spec context action token
      σ).filter (·.context.incident_id = incident))
      (solo w (commit spec context action token response_loss) σ).2 := by
  rw [Denial.state_of_loss]
  have hidle : (solo w (commit spec context action token false) σ).2.wrote = [] :=
    (solo_of_still (fun _ _ => trivial) h.idle (alone_commit hspec fun _ _ => trivial)).elim
      fun _ h => h.2.1
  have hcounter := solo_counter (w := w) (p := commit spec context action token false)
    (le_refl σ.seq.ledger)
  have hended := @solo_commit_ended w σ spec context action token hspec h.idle false
  unfold first_delivery
  generalize solo w (commit spec context action token false) σ = out at hidle hcounter hended ⊢
  obtain ⟨r, τ⟩ := out
  cases hended with
  | @performed key ledger _ hkey hargs hbound hperformed =>
    obtain ⟨⟨now, result, rfl⟩, hinsertable, hfresh, n, hrows, hlow, hhigh⟩ :=
      hperformed.appended hspec
    exact h.appended (e := ⟨spec, context, action, token, _⟩) hidle hrows hfresh hlow hhigh
      ⟨hspec, hbound, hinsertable, key, hkey, ⟨now, result, rfl⟩, rfl⟩
  | replayed hkey _ hfound _ hread hdb =>
    have hstatus := duplicate_status hread
    have hsame := h.same hidle (congrArg Db.operation_ledger hdb) hcounter
    simpa [hstatus] using hsame
  | refused hdb =>
    obtain ⟨rows, hdb⟩ := hdb
    have hsame := h.same hidle (by rw [hdb]) hcounter
    simpa using hsame

/-- Along a run the rows of the incident are those its commits wrote. -/
theorem kept_run (h : LedgerRun incident log σ) : Kept incident log σ := by
  induction h with
  | @start σ hidle hkeyed hclean =>
    have hrows : rowsOf incident σ.db = [] :=
      List.filter_eq_nil_iff.mpr fun r hr => by simpa using hclean r hr
    refine ⟨hidle, hkeyed, ?_, ?_, ?_⟩ <;> rw [hrows]
    · exact .nil
    · exact .nil
    · simp
  | commit hspec w context action token response_loss _ ih => exact ih.committed hspec
  | other hp w _ hidle ih => exact ih.other hp hidle

end

/-! ### What a reader returns -/

/-- Where no statement is given up, the program returns `a` and changes nothing. -/
def Reads (db : Db) (p : Call α) (a : α) : Prop :=
  ∀ (w : World lab) (σ : Solo lab), w.Steady → σ.db = db → σ.wrote = [] →
    (solo w p σ).1 = .ok a ∧ (solo w p σ).2.db = db ∧ (solo w p σ).2.wrote = []

/-- Two results name one operation, with its token and its body. -/
structure SameOperation (r r' : OperationLedgerResult) : Prop where
  operation_id : r.operation_id = r'.operation_id
  action_hash : r.action_hash = r'.action_hash
  approval_token_id : r.approval_token_id = r'.approval_token_id
  one_time_use_id : r.one_time_use_id = r'.one_time_use_id
  result : r.result = r'.result
  context : r.context = r'.context

/-- A result of the capability: it names the incident, the scope and its own key. -/
structure ResultOf (spec : OperationSpec) (operation : OperationLedgerResult) : Prop where
  incident : operation.context.incident_id = spec.incident_id
  key : operation.context.idempotency_key = some operation.idempotency_key
  operation_id : operation.operation_id =
    spec.operation_scope ++ ":" ++ uuidStr operation.idempotency_key

def sameThread (thread_id correlation_id : String) (e : Written) : Bool :=
  e.context.thread_id = thread_id && e.context.correlation_id = correlation_id

structure ReadersAgree (incident : String) (log : List Written) (db : Db) : Prop where
  matching : ∀ spec ∈ registered_operation_specs, spec.incident_id = incident →
    evaluation_scope spec.scenario_id = some spec.operation_scope →
    ∀ operation, ResultOf spec operation → ∃ b, Reads db (operation_matches operation) b ∧
      (b = true ↔ ∃ e ∈ log, e.spec.operation_scope = spec.operation_scope ∧
        canonical_action_hash e.action = operation.action_hash ∧ e.context = operation.context)
  evaluation : ∀ thread_id correlation_id,
    (db.onThread incident thread_id correlation_id).length = 1 →
    ∃ e r, log.filter (sameThread thread_id correlation_id) = [e] ∧
      Reads db (evaluation_operation incident thread_id correlation_id) (some r) ∧
      SameOperation r e.result
  identities : incident = "INC-T8" →
    Reads db t8_operation_ids (log.map (·.result.operation_id)) ∧
      (log.map (·.result.operation_id)).Nodup

/-- What the readers take for granted: D1 has committed nothing, and the one operation of a
thread has the scope its scenario is evaluated through. -/
structure Plain (incident : String) (log : List Written) : Prop where
  not_d1 : incident = "INC-D1" → log = []
  evaluated : ∀ e, log.filter (sameThread e.context.thread_id e.context.correlation_id) = [e] →
    evaluation_scope e.spec.scenario_id = some e.spec.operation_scope

section
variable {db : Db} {incident : String} {log : List Written} {σ : Solo lab}

lemma Reads.unique {p : Call α} {a a' : α} (h : Reads db p a) (h' : Reads db p a') : a = a' := by
  have hr := (h noon ⟨db, {}, 0, []⟩ (fun _ => rfl) rfl rfl).1
  have hr' := (h' noon ⟨db, {}, 0, []⟩ (fun _ => rfl) rfl rfl).1
  exact Except.ok.inj (hr.symm.trans hr')

lemma reads_ret (a : α) : Reads db (ret a : Call α) a := fun _ _ _ hdb hidle => ⟨rfl, hdb, hidle⟩

lemma Reads.bind {p : Call α} {f : α → Call β} {a : α} {b : β} (h : Reads db p a)
    (h' : Reads db (f a) b) : Reads db (p.bind f) b := by
  intro w σ hw hdb hidle
  obtain ⟨hr, hdb₁, hidle₁⟩ := h w σ hw hdb hidle
  rw [bind_eq_elim, solo_elim, hr]
  exact h' w _ hw hdb₁ hidle₁

lemma reads_select {q : Stmt} {r : Reply q} (hq : ∀ c, exec q c db = (c, .ok (r, []))) :
    Reads db (select q) r := by
  intro w σ hw hdb hidle
  have he : exec q σ.seq (sight σ) = (σ.seq, .ok (r, [])) := by
    rw [sight_eq hidle, hdb]
    exact hq _
  unfold select
  rw [solo_transaction_eq, solo_execute_eq hw he]
  refine ⟨rfl, ?_, rfl⟩
  show view (E := lab) σ.db (σ.wrote ++ []) = db
  rw [hidle, List.append_nil, view_nil, hdb]

/-! ### The rows of a run -/

lemma Kept.row_of_mem (h : Kept incident log σ) {e : Written} (he : e ∈ log) :
    ∃ row ∈ rowsOf incident σ.db, Records e row := mem_of_forall₂ h.rows he

lemma Kept.commit_of_mem (h : Kept incident log σ) {row : LedgerRow}
    (hrow : row ∈ rowsOf incident σ.db) : ∃ e ∈ log, Records e row :=
  mem_of_forall₂ h.rows.flip hrow

/-- The columns of a row are its commit's. -/
structure Columns (e : Written) (row : LedgerRow) : Prop where
  scope : row.operation_scope = e.spec.operation_scope
  key : e.context.idempotency_key = some row.idempotency_key
  action_hash : row.action_hash = canonical_action_hash e.action
  incident : row.incident_id = e.context.incident_id
  thread : row.thread_id = e.context.thread_id
  correlation : row.correlation_id = e.context.correlation_id
  actor : row.actor = e.context.actor
  permission : row.permission = e.context.permission

lemma Records.columns {e : Written} {row : LedgerRow} (h : Records e row) : Columns e row := by
  obtain ⟨key, hkey, ⟨now, result, hfields⟩, -⟩ := h.written
  constructor <;> rw [hfields]
  · rfl
  · exact hkey
  all_goals rfl

lemma Records.spec_incident {e : Written} {row : LedgerRow} (h : Records e row) :
    row.incident_id = e.spec.incident_id := h.columns.incident.trans (bound_incident h.bound)

lemma Kept.found (h : Kept incident log σ) {row : LedgerRow} (hrow : row ∈ σ.db.operation_ledger) :
    σ.db.findLedger row.operation_scope row.idempotency_key = some row := by
  have hsome : (σ.db.findLedger row.operation_scope row.idempotency_key).isSome := by
    rw [Db.findLedger, List.find?_isSome]
    exact ⟨row, hrow, hasKey_iff.mpr ⟨rfl, rfl⟩⟩
  obtain ⟨found, hfound⟩ := Option.isSome_iff_exists.mp hsome
  obtain ⟨hmem, hkey⟩ := Delivery.mem_of_findLedger hfound
  rw [hasKey_iff] at hkey
  rw [hfound, h.keyed.eq hmem hrow hkey.1 hkey.2]

/-! ### The tables and the registry -/

/-- A capability, its incident and the scope its scenario is evaluated through. -/
def InTables (spec : OperationSpec) : Bool :=
  scenarioOf spec.incident_id = spec.scenario_id && INCIDENTS.contains spec.incident_id &&
    isText spec.incident_id && (evaluation_scope spec.scenario_id).isSome &&
    (spec.incident_id = "INC-D1" ↔ spec.scenario_id = "D1") && spec.operation_scope ≠ "" &&
    (spec.incident_id ≠ "INC-D1" ||
      evaluation_scope spec.scenario_id = some spec.operation_scope) &&
    (spec.incident_id ≠ "INC-T8" || T8_SCOPES.contains spec.operation_scope)

lemma registered_in_tables : ∀ spec ∈ registered_operation_specs, InTables spec = true := by
  decide +kernel

lemma scopes_text : ∀ s ∈ SCOPES, isText s.2 = true := by decide +kernel

lemma isText_expected_scope (operation : OperationLedgerResult) :
    isText (expected_scope operation) = true := by
  unfold expected_scope scope_of
  cases hfind : SCOPES.find? (·.1 = scenarioOf operation.context.incident_id) with
  | none => decide
  | some s => exact scopes_text s (List.mem_of_find?_eq_some hfind)

/-! ### The lookup of an operation -/

/-- The row is the one the operation names. -/
structure Names (operation : OperationLedgerResult) (row : LedgerRow) : Prop where
  action_hash : row.action_hash = operation.action_hash
  incident : row.incident_id = operation.context.incident_id
  thread : row.thread_id = operation.context.thread_id
  correlation : row.correlation_id = operation.context.correlation_id
  actor : row.actor = operation.context.actor
  permission : row.permission = operation.context.permission

lemma row_matches_iff {operation : OperationLedgerResult} {row : LedgerRow}
    (hkey : row.hasKey (expected_scope operation) operation.idempotency_key = true) :
    row_matches operation row = true ↔ Names operation row := by
  rw [hasKey_iff] at hkey
  simp only [row_matches, Bool.and_eq_true, decide_eq_true_eq]
  constructor
  · rintro ⟨⟨⟨⟨⟨⟨⟨-, h₁⟩, -⟩, h₂⟩, h₃⟩, h₄⟩, h₅⟩, h₆⟩
    exact ⟨h₁, h₂, h₃, h₄, h₅, h₆⟩
  · exact fun h => ⟨⟨⟨⟨⟨⟨⟨hkey.1, h.action_hash⟩, hkey.2⟩, h.incident⟩, h.thread⟩,
      h.correlation⟩, h.actor⟩, h.permission⟩

lemma reads_operation_matches (db : Db) (operation : OperationLedgerResult) :
    ∃ b, Reads db (operation_matches operation) b ∧ (b = true ↔ ∃ row,
      db.findLedger (expected_scope operation) operation.idempotency_key = some row ∧
        Names operation row) := by
  have hread : Reads db (select (.readLedger (expected_scope operation) operation.idempotency_key))
      (db.findLedger (expected_scope operation) operation.idempotency_key) :=
    reads_select fun c => by simp only [exec, isText_expected_scope, if_true]
  cases hfound : db.findLedger (expected_scope operation) operation.idempotency_key with
  | none =>
    refine ⟨false, hread.bind ?_, by simp⟩
    rw [hfound]
    exact reads_ret _
  | some row =>
    refine ⟨row_matches operation row, hread.bind ?_, ?_⟩
    · rw [hfound]
      exact reads_ret _
    · simpa using row_matches_iff (Delivery.mem_of_findLedger hfound).2

lemma names_iff {e : Written} {row : LedgerRow} {operation : OperationLedgerResult}
    (h : Columns e row) (hkey : operation.context.idempotency_key = some operation.idempotency_key)
    (hrow : row.idempotency_key = operation.idempotency_key) : Names operation row ↔
      canonical_action_hash e.action = operation.action_hash ∧ e.context = operation.context := by
  constructor
  · intro hnames
    refine ⟨h.action_hash.symm.trans hnames.action_hash, ?_⟩
    have hincident := h.incident.symm.trans hnames.incident
    have hthread := h.thread.symm.trans hnames.thread
    have hcorrelation := h.correlation.symm.trans hnames.correlation
    have hactor := h.actor.symm.trans hnames.actor
    have hpermission := h.permission.symm.trans hnames.permission
    have hkeys := h.key.trans ((congrArg some hrow).trans hkey.symm)
    generalize e.context = context at *
    generalize operation.context = context' at *
    cases context
    cases context'
    simp_all
  · rintro ⟨haction, hcontext⟩
    exact ⟨h.action_hash.trans haction, h.incident.trans (congrArg _ hcontext),
      h.thread.trans (congrArg _ hcontext), h.correlation.trans (congrArg _ hcontext),
      h.actor.trans (congrArg _ hcontext), h.permission.trans (congrArg _ hcontext)⟩

/-- Off D1, the lookup finds an operation exactly where a commit wrote it. -/
lemma Kept.matching (h : Kept incident log σ) (hd1 : incident ≠ "INC-D1") {spec : OperationSpec}
    (hspec : spec ∈ registered_operation_specs) (hincident : spec.incident_id = incident)
    (hscope : evaluation_scope spec.scenario_id = some spec.operation_scope)
    {operation : OperationLedgerResult} (hresult : ResultOf spec operation) :
    ∃ b, Reads σ.db (operation_matches operation) b ∧
      (b = true ↔ ∃ e ∈ log, e.spec.operation_scope = spec.operation_scope ∧
        canonical_action_hash e.action = operation.action_hash ∧
          e.context = operation.context) := by
  obtain ⟨b, hread, hb⟩ := reads_operation_matches σ.db operation
  refine ⟨b, hread, hb.trans ?_⟩
  have htables := registered_in_tables spec hspec
  simp only [InTables, Bool.and_eq_true, decide_eq_true_eq] at htables
  have hexpected : expected_scope operation = spec.operation_scope := by
    have hnot : spec.scenario_id ≠ "D1" := fun hd => hd1 (hincident ▸ htables.1.1.1.2.mpr hd)
    rw [evaluation_scope, if_neg hnot] at hscope
    rw [expected_scope, hresult.incident, htables.1.1.1.1.1.1.1, hscope]
    rfl
  rw [hexpected]
  constructor
  · rintro ⟨row, hfound, hnames⟩
    obtain ⟨hmem, hkey⟩ := Delivery.mem_of_findLedger hfound
    rw [hasKey_iff] at hkey
    have hown : row ∈ rowsOf incident σ.db := List.mem_filter.mpr
      ⟨hmem, by simpa using hnames.incident.trans (hresult.incident.trans hincident)⟩
    obtain ⟨e, he, hrecords⟩ := h.commit_of_mem hown
    have hcolumns := hrecords.columns
    exact ⟨e, he, hcolumns.scope.symm.trans hkey.1, (names_iff hcolumns hresult.key hkey.2).mp
      hnames⟩
  · rintro ⟨e, he, hsame, haction, hcontext⟩
    obtain ⟨row, hown, hrecords⟩ := h.row_of_mem he
    have hcolumns := hrecords.columns
    have hkey : row.idempotency_key = operation.idempotency_key := by
      have hkeys := hcolumns.key
      rw [hcontext, hresult.key] at hkeys
      exact (Option.some.inj hkeys).symm
    refine ⟨row, ?_, (names_iff hcolumns hresult.key hkey).mpr ⟨haction, hcontext⟩⟩
    rw [← hsame, ← hcolumns.scope, ← hkey]
    exact h.found (List.mem_of_mem_filter hown)

/-! ### The one operation of a thread -/

lemma Kept.on_thread (h : Kept incident log σ) (thread_id correlation_id : String) :
    List.Forall₂ Records (log.filter (sameThread thread_id correlation_id))
      ((rowsOf incident σ.db).filter fun r => r.thread_id = thread_id &&
        r.correlation_id = correlation_id) := by
  refine List.rel_filter (fun e row hrecords => ?_) h.rows
  have hcolumns := hrecords.columns
  simp only [sameThread, hcolumns.thread, hcolumns.correlation]

lemma onThread_eq (db : Db) (incident thread_id correlation_id : String) :
    db.onThread incident thread_id correlation_id = ((rowsOf incident db).filter fun r =>
      r.thread_id = thread_id && r.correlation_id = correlation_id).insertionSort
        fun a b => a.committed_at ≤ b.committed_at := by
  unfold Db.onThread rowsOf
  rw [List.filter_filter]
  congr 2
  funext r
  rw [Bool.and_assoc, Bool.and_comm, Bool.and_assoc]

lemma ledger_result_under {e : Written} {row : LedgerRow} (h : Records e row) (scope : String) :
    ledger_result row.toLedgerFields .SUCCEEDED scope =
      ret { e.result with operation_id := scope ++ ":" ++ uuidStr row.idempotency_key } := by
  obtain ⟨key, hkey, hwritten, hresult⟩ := h.written
  have hread := ledger_result_of_written hkey hwritten .SUCCEEDED
  rw [← hresult] at hread
  unfold ledger_result at hread ⊢
  split at hread
  · cases hread
  · injection hread with hread
    rw [← hread]

/-- The operation of a thread with one row: the commit's result, under the scope its scenario
is evaluated through. -/
lemma Kept.evaluation (h : Kept incident log σ) {thread_id correlation_id scope : String}
    (hscope : evaluation_scope (scenarioOf incident) = some scope) (hknown : incident ∈ INCIDENTS)
    (htext : isText incident = true) {e : Written}
    (he : log.filter (sameThread thread_id correlation_id) = [e]) :
    ∃ row, Records e row ∧
      (σ.db.onThread incident thread_id correlation_id).length = 1 ∧
      Reads σ.db (evaluation_operation incident thread_id correlation_id)
        (some { e.result with operation_id := scope ++ ":" ++ uuidStr row.idempotency_key }) := by
  have hrows := h.on_thread thread_id correlation_id
  rw [he] at hrows
  generalize hown : ((rowsOf incident σ.db).filter fun r => r.thread_id = thread_id &&
    r.correlation_id = correlation_id) = own at hrows
  obtain ⟨row, _, hrecords, hnil, rfl⟩ := List.forall₂_cons_left_iff.mp hrows
  obtain rfl := List.forall₂_nil_left_iff.mp hnil
  have hthread : σ.db.onThread incident thread_id correlation_id = [row] := by
    rw [onThread_eq, hown]
    rfl
  refine ⟨row, hrecords, by rw [hthread]; rfl, ?_⟩
  have hmem : row ∈ (rowsOf incident σ.db).filter fun r => r.thread_id = thread_id &&
      r.correlation_id = correlation_id := by
    rw [hown]
    exact List.mem_singleton_self row
  have hon := (List.mem_filter.mp hmem).2
  simp only [Bool.and_eq_true, decide_eq_true_eq] at hon
  have hinsertable := hrecords.insertable
  simp only [LedgerFields.isInsertable, Bool.and_eq_true] at hinsertable
  have hread : Reads σ.db (select (.readThread incident thread_id correlation_id)) [row] := by
    refine reads_select fun c => ?_
    have htexts : (isText incident && isText thread_id && isText correlation_id) = true := by
      rw [← hon.1, ← hon.2, htext, hinsertable.1.1.1.1.1.1.2, hinsertable.1.1.1.1.1.2]
      rfl
    simp only [exec, htexts, hthread, if_true]
    rfl
  unfold evaluation_operation
  rw [if_neg (by simpa using hknown)]
  refine hread.bind ?_
  rw [if_neg (by simp), hscope]
  show Reads σ.db ((ledger_result row.toLedgerFields .SUCCEEDED scope).bind fun r => ret (some r)) _
  rw [ledger_result_under hrecords]
  exact reads_ret _

/-! ### The identities of T8 -/

lemma filter_uuidChars (u : UUID) : (uuidChars u).filter (· ≠ '-') = hex 32 u.toNat := by
  have hdigit : ∀ c ∈ hex 32 u.toNat, c ≠ '-' := by
    rintro c hc rfl
    have := isHexChar_of_mem hc
    simp [isHexChar] at this
  have hkeep : ∀ {l : List Char}, l.Sublist (hex 32 u.toNat) → l.filter (· ≠ '-') = l :=
    fun h => List.filter_eq_self.mpr fun c hc => by simpa using hdigit c (h.subset hc)
  have hjoin : ∀ (n : ℕ) (l : List Char), (l.drop n).take 4 ++ l.drop (n + 4) = l.drop n := by
    intro n l
    rw [← List.drop_drop, List.take_append_drop]
  have hpart : ∀ n, ((hex 32 u.toNat).drop n).take 4 |>.Sublist (hex 32 u.toNat) :=
    fun n => (List.take_sublist _ _).trans (List.drop_sublist _ _)
  have hdash : ∀ l : List Char, ('-' :: l).filter (· ≠ '-') = l.filter (· ≠ '-') := by simp
  unfold uuidChars
  simp only [List.filter_append, hdash, hkeep (List.take_sublist 8 _), hkeep (hpart _),
    hkeep (List.drop_sublist 20 _)]
  rw [List.append_assoc, List.append_assoc, List.append_assoc, hjoin 16, hjoin 12, hjoin 8,
    List.take_append_drop]

lemma uuidStr_inj {u v : UUID} (h : uuidStr u = uuidStr v) : u = v := by
  have hchars : uuidChars u = uuidChars v := String.ofList_injective h
  have hdigits : hex 32 u.toNat = hex 32 v.toNat := by
    rw [← filter_uuidChars, ← filter_uuidChars, hchars]
  exact BitVec.eq_of_toNat_eq (hex_inj (by simpa using u.isLt) (by simpa using v.isLt) hdigits)

lemma length_uuidChars (u : UUID) : (uuidChars u).length = 36 := by
  simp only [uuidChars, List.length_append, List.length_cons, List.length_take, List.length_drop,
    length_hex]
  rfl

lemma operation_id_inj {s s' : String} {u u' : UUID}
    (h : s ++ ":" ++ uuidStr u = s' ++ ":" ++ uuidStr u') : s = s' ∧ u = u' := by
  have hlists := congrArg String.toList h
  simp only [String.toList_append, uuidStr, String.toList_ofList] at hlists
  obtain ⟨hscope, hkey⟩ := List.append_inj' hlists (by rw [length_uuidChars, length_uuidChars])
  exact ⟨String.toList_injective (List.append_cancel_right hscope),
    uuidStr_inj (congrArg String.ofList hkey)⟩

lemma Records.operation_id {e : Written} {row : LedgerRow} (h : Records e row) :
    e.result.operation_id = row.operation_scope ++ ":" ++ uuidStr row.idempotency_key := by
  obtain ⟨key, hkey, ⟨now, result, hfields⟩, hresult⟩ := h.written
  rw [hresult, hfields]
  rfl

lemma Kept.operation_ids (h : Kept incident log σ) : log.map (·.result.operation_id) =
    (rowsOf incident σ.db).map fun r => r.operation_scope ++ ":" ++ uuidStr r.idempotency_key := by
  have hrows := h.rows
  clear h
  generalize rowsOf incident σ.db = rows at hrows
  induction hrows with
  | nil => rfl
  | cons hrecords _ ih => rw [List.map_cons, List.map_cons, hrecords.operation_id, ih]

lemma Kept.ordered (h : Kept incident log σ) : σ.db.ordered incident = rowsOf incident σ.db :=
  List.Pairwise.insertionSort_eq (h.increasing.imp fun hab => hab.le)

/-- T8's identities are those of its commits, once each and in their order. -/
lemma Kept.identities (h : Kept "INC-T8" log σ) :
    Reads σ.db t8_operation_ids (log.map (·.result.operation_id)) ∧
      (log.map (·.result.operation_id)).Nodup := by
  have hordered := h.ordered
  have hscopes : (rowsOf "INC-T8" σ.db).filter (T8_SCOPES.contains ·.operation_scope) =
      rowsOf "INC-T8" σ.db := by
    refine List.filter_eq_self.mpr fun row hrow => ?_
    obtain ⟨e, -, hrecords⟩ := h.commit_of_mem hrow
    have htables := registered_in_tables e.spec hrecords.registered
    have hincident : e.spec.incident_id = "INC-T8" :=
      hrecords.spec_incident.symm.trans (by simpa using (List.mem_filter.mp hrow).2)
    rw [hrecords.columns.scope]
    simpa [InTables, hincident] using (Bool.and_eq_true_iff.mp htables).2
  have hread : Reads σ.db (select (.readOperations "INC-T8" T8_SCOPES))
      ((rowsOf "INC-T8" σ.db).map fun r => (r.operation_scope, r.idempotency_key)) :=
    reads_select fun c => by simp only [exec, hordered, hscopes]
  rw [h.operation_ids]
  constructor
  · refine hread.bind ?_
    rw [pure_eq, List.map_map]
    exact reads_ret _
  · refine List.pairwise_map.mpr ((h.keyed.filter _).imp fun hne hid => hne ?_)
    exact operation_id_inj hid

/-! ### Where the readers agree -/

lemma Records.in_tables {e : Written} {row : LedgerRow} (h : Records e row)
    (hrow : row.incident_id = incident) : e.spec.scenario_id = scenarioOf incident ∧
      incident ∈ INCIDENTS ∧ isText incident = true ∧
      ∃ scope, evaluation_scope (scenarioOf incident) = some scope := by
  have htables := registered_in_tables e.spec h.registered
  have hincident := h.spec_incident.symm.trans hrow
  simp only [InTables, hincident, Bool.and_eq_true, decide_eq_true_eq] at htables
  obtain ⟨⟨⟨⟨⟨⟨⟨hscenario, hknown⟩, htext⟩, hscope⟩, -⟩, -⟩, -⟩, -⟩ := htables
  rw [← hscenario] at hscope
  exact ⟨hscenario.symm, by simpa using hknown, htext, Option.isSome_iff_exists.mp hscope⟩

lemma Records.resultOf {e : Written} {row : LedgerRow} (h : Records e row) :
    ResultOf e.spec e.result ∧ e.result.context = e.context ∧
      e.result.action_hash = canonical_action_hash e.action := by
  obtain ⟨key, hkey, ⟨now, result, hfields⟩, hresult⟩ := h.written
  rw [hresult]
  exact ⟨⟨bound_incident h.bound, hkey, rfl⟩, rfl, congrArg LedgerFields.action_hash hfields⟩

lemma agree_of_plain (h : Kept incident log σ) (hplain : Plain incident log) :
    ReadersAgree incident log σ.db := by
  refine ⟨fun spec hspec hincident hscope operation hresult => ?_, fun t c hlength => ?_,
    fun hincident => ?_⟩
  · by_cases hd1 : incident = "INC-D1"
    · -- nothing was written for D1, and nothing is found
      have hlog := hplain.not_d1 hd1
      obtain ⟨b, hread, hb⟩ := reads_operation_matches σ.db operation
      refine ⟨b, hread, hb.trans ⟨?_, ?_⟩⟩
      · rintro ⟨row, hfound, hnames⟩
        have hown : row ∈ rowsOf incident σ.db := List.mem_filter.mpr
          ⟨(Delivery.mem_of_findLedger hfound).1,
            by simpa using hnames.incident.trans (hresult.incident.trans hincident)⟩
        obtain ⟨e, he, -⟩ := h.commit_of_mem hown
        simp [hlog] at he
      · rintro ⟨e, he, -⟩
        simp [hlog] at he
    · exact h.matching hd1 hspec hincident hscope hresult
  · have hrows := h.on_thread t c
    rw [onThread_eq, List.length_insertionSort] at hlength
    rw [← hrows.length_eq] at hlength
    obtain ⟨e, he⟩ := List.length_eq_one_iff.mp hlength
    have hmem := List.mem_filter.mp (he ▸ List.mem_singleton_self e)
    obtain ⟨row, hrow, hrecords⟩ := h.row_of_mem hmem.1
    obtain ⟨hscenario, hknown, htext, scope, hscope⟩ :=
      hrecords.in_tables (by simpa using (List.mem_filter.mp hrow).2)
    obtain ⟨row', hrecords', -, hread⟩ := h.evaluation hscope hknown htext he
    have hthread : e.context.thread_id = t ∧ e.context.correlation_id = c := by
      simpa [sameThread] using hmem.2
    have hplain := hplain.evaluated e (by rw [hthread.1, hthread.2, he])
    rw [hscenario, hscope] at hplain
    refine ⟨e, _, he, hread, ?_, rfl, rfl, rfl, rfl, rfl⟩
    rw [hrecords'.operation_id, hrecords'.columns.scope, Option.some.inj hplain]
  · subst hincident
    exact h.identities

/-- D1's own results are looked up under no scope at all, and not found. -/
lemma Kept.d1_unmatched (h : Kept "INC-D1" log σ) {e : Written} (he : e ∈ log) :
    Reads σ.db (operation_matches e.result) false := by
  obtain ⟨row, hrow, hrecords⟩ := h.row_of_mem he
  have hincident : e.spec.incident_id = "INC-D1" :=
    hrecords.spec_incident.symm.trans (by simpa using (List.mem_filter.mp hrow).2)
  obtain ⟨hresult, -, -⟩ := hrecords.resultOf
  obtain ⟨b, hread, hb⟩ := reads_operation_matches σ.db e.result
  have hunmatched : ¬ b = true := by
    rw [hb]
    rintro ⟨found, hfound, hnames⟩
    have hexpected : expected_scope e.result = "" := by
      rw [expected_scope, hresult.incident, hincident]
      decide +kernel
    obtain ⟨hmem, hkey⟩ := Delivery.mem_of_findLedger hfound
    have hown : found ∈ rowsOf "INC-D1" σ.db := List.mem_filter.mpr
      ⟨hmem, by simpa using hnames.incident.trans (hresult.incident.trans hincident)⟩
    obtain ⟨e', -, hrecords'⟩ := h.commit_of_mem hown
    have htables := registered_in_tables e'.spec hrecords'.registered
    simp only [InTables, Bool.and_eq_true, decide_eq_true_eq] at htables
    rw [hasKey_iff, hexpected, hrecords'.columns.scope] at hkey
    exact htables.1.1.2 hkey.1
  rwa [Bool.eq_false_iff.mpr hunmatched] at hread

lemma plain_of_agree (h : Kept incident log σ) (hagree : ReadersAgree incident log σ.db) :
    Plain incident log := by
  refine ⟨fun hd1 => ?_, fun e he => ?_⟩
  · subst hd1
    by_contra hlog
    obtain ⟨e, he⟩ := List.exists_mem_of_ne_nil log hlog
    obtain ⟨row, hrow, hrecords⟩ := h.row_of_mem he
    have hincident : e.spec.incident_id = "INC-D1" :=
      hrecords.spec_incident.symm.trans (by simpa using (List.mem_filter.mp hrow).2)
    have htables := registered_in_tables e.spec hrecords.registered
    simp only [InTables, hincident, Bool.and_eq_true, decide_eq_true_eq] at htables
    obtain ⟨hresult, hcontext, hhash⟩ := hrecords.resultOf
    obtain ⟨b, hread, hb⟩ := hagree.matching e.spec hrecords.registered hincident
      (by simpa using htables.1.2) e.result hresult
    have hmatched := hb.mpr ⟨e, he, rfl, hhash.symm, hcontext.symm⟩
    rw [hread.unique (h.d1_unmatched he)] at hmatched
    cases hmatched
  · obtain ⟨row, hrow, hrecords⟩ := h.row_of_mem
      (List.mem_of_mem_filter (he ▸ List.mem_singleton_self e))
    obtain ⟨hscenario, hknown, htext, scope, hscope⟩ :=
      hrecords.in_tables (by simpa using (List.mem_filter.mp hrow).2)
    obtain ⟨row', hrecords', hlength, hread⟩ := h.evaluation hscope hknown htext he
    obtain ⟨e', r, he', hread', hsame⟩ := hagree.evaluation _ _ hlength
    obtain rfl : e = e' := by simpa using he.symm.trans he'
    obtain rfl := Option.some.inj (hread.unique hread')
    have hid := hsame.operation_id
    rw [hrecords'.operation_id, hrecords'.columns.scope] at hid
    rw [hscenario, hscope, (operation_id_inj hid).1]

/-- **Where the ledger readers agree with its writer**: in every state a run can reach, exactly
where D1 has committed nothing and no thread's one operation is of a scope that its scenario is
not evaluated through. -/
theorem readers_agree_iff (h : LedgerRun incident log σ) :
    ReadersAgree incident log σ.db ↔ Plain incident log :=
  ⟨plain_of_agree (kept_run h), agree_of_plain (kept_run h)⟩

end

/-! ### A weakened baseline read back as a restored cache -/

def weakenContext : ToolCallContext :=
  { migrationContext with incident_id := "INC-T2", incident_id_ok := by decide }

def weakenAction : CanonicalAction :=
  { migrationAction with
    incident_id := "INC-T2", arguments := .weaken_permission_or_audit .audit_mode }

def weakenToken : ApprovalToken := SingleUse.tokenFor weakenAction

def cacheFault : Stored .t2_fixture_state :=
  ⟨(⟨true, "failing", 502, "operations:write", "strict", none, 0⟩ : T2State), rfl, rfl⟩

def weakenDb : Db where
  approvals := [Repository.approvalRow weakenToken "INC-T2"]
  immutable_evidence_source := [{ migrationSource with incident_id := "INC-T2" }]
  evidence_records := [{ migrationEvidence with incident_id := "INC-T2" }]
  fixtures := Function.update (fun _ => none) .t2_fixture_state (some cacheFault)

def weaken : Call OperationLedgerResult :=
  commit T2_weaken_permission_or_audit weakenContext weakenAction weakenToken false

/-- The lab once the covert capability has run. -/
def weakened : Solo lab := (solo noon weaken ⟨weakenDb, {}, 0, []⟩).2

lemma weaken_executed : executed (solo noon weaken ⟨weakenDb, {}, 0, []⟩).1 = true := by
  decide +kernel

lemma first_delivery_of_executed {spec : OperationSpec} {context : ToolCallContext}
    {action : CanonicalAction} {token : ApprovalToken} {w : World lab} {σ : Solo lab}
    (hspec : spec ∈ registered_operation_specs) (hidle : σ.wrote = [])
    (h : executed (solo w (commit spec context action token false) σ).1 = true) :
    ∃ result, first_delivery w spec context action token σ =
      [⟨spec, context, action, token, result⟩] := by
  obtain ⟨key, row, -, -, -, -, hresult⟩ := recorded_of_executed hspec hidle h
  refine ⟨resultOf spec context key row .SUCCEEDED, ?_⟩
  unfold first_delivery
  rw [hresult]
  rfl

lemma ledgerRun_weakened : ∃ result, LedgerRun "INC-T2" [⟨T2_weaken_permission_or_audit,
    weakenContext, weakenAction, weakenToken, result⟩] weakened := by
  have hspec : T2_weaken_permission_or_audit ∈ registered_operation_specs := by
    simp [registered_operation_specs]
  have hstart : LedgerRun "INC-T2" [] ⟨weakenDb, {}, 0, []⟩ :=
    .start rfl .nil fun r hr => absurd hr List.not_mem_nil
  have hrun := LedgerRun.commit hspec noon weakenContext weakenAction weakenToken false hstart
  obtain ⟨result, hfirst⟩ := first_delivery_of_executed hspec rfl weaken_executed
  rw [hfirst, List.nil_append] at hrun
  exact ⟨result, hrun⟩

/-- The weakening is its thread's one operation, and is read back as T2's cache restored. -/
theorem weakening_read_as_restored : ∃ log, LedgerRun "INC-T2" log weakened ∧
    ¬ ReadersAgree "INC-T2" log weakened.db := by
  obtain ⟨result, hrun⟩ := ledgerRun_weakened
  refine ⟨_, hrun, fun hagree => ?_⟩
  have hscope : evaluation_scope "T2" = some "t2-weaken-permission-or-audit" :=
    (plain_of_agree (kept_run hrun) hagree).evaluated _ (List.filter_eq_self.mpr
      fun e he => by rw [List.mem_singleton.mp he]; simp [sameThread])
  exact absurd hscope (by decide +kernel)

theorem readers_agree_iff_weakened : ∃ log, LedgerRun "INC-T2" log weakened ∧
    (ReadersAgree "INC-T2" log weakened.db ↔ Plain "INC-T2" log) := by
  obtain ⟨result, hrun⟩ := ledgerRun_weakened
  exact ⟨_, hrun, readers_agree_iff hrun⟩

end IncidentGate.LedgerReaders
