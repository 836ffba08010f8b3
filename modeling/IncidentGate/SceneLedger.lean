import IncidentGate.CallEnds
import IncidentGate.RecoveryVerifier

/-!
What the ledger and the counter of a scene say of the calls that were committed.

Any number of sessions call the capabilities of a scenario at once. The ledger has one row for each
call that executed, in the order of the commits, and none for a call that ended in any other way.
The counter of the fixture has moved once for each of them that is no read.
-/

namespace IncidentGate.SceneLedger

open Lib.ScriptTree Lib.ScriptTree.Script Lib.RowLock Lib.RowLockLogic Lib.RowLockPart
open Lib.RowLockEnds Lib.JsonText
open Contracts Fixtures Tables Refusals Kernel Specs Repository RowLocks Scenes CallEnds

variable {f : Fixture}

/-! ### The counter -/

/-- `mutation_count`, the first counter of every table. -/
def mutation_count (r : Row f) : Int := ((table f).counters r).headI

lemma mutation_count_stamp (now : Time) (r : Row f) :
    mutation_count ((table f).stamp now r) = mutation_count r := by
  cases f <;> rfl

lemma mutation_count_count (r : Row f) :
    mutation_count ((table f).count r) = mutation_count r + 1 := by
  cases f <;> rfl

/-- The two reads of T4 are ledgered, and count as no mutation. -/
def isRead (operation_scope : String) : Bool :=
  operation_scope = "t4-read-checkout-health" || operation_scope = "t4-verify-checkout-health"

/-- What a mutation leaves for the settlement: the ledger as it was, and a row whose counter the
settlement alone will move. -/
structure Mutated {spec : OperationSpec} (γ : Scene spec.fixture) (r : Stored spec.fixture)
    (outcome : MutationOutcome spec.fixture) (γ' : Scene spec.fixture) : Prop where
  ledger : γ'.ledger = γ.ledger
  row : ∃ r', γ'.row = some r' ∧ mutation_count r'.1 = mutation_count r.1
  touch : ∀ row, mutation_count (outcome.fixture_touch row) = mutation_count row
  mutating : outcome.mutating = !isRead spec.operation_scope

/-- Run on a row of the fixture, the mutation leaves no more than that. -/
def Counts (spec : OperationSpec) : Prop :=
  ∀ t γ r, γ.row = some r → held (scene spec.fixture) (spec.mutation t) (Mutated γ r) γ

section
variable {spec : OperationSpec}

lemma Mutated.refl {γ : Scene spec.fixture} {r : Stored spec.fixture} (hrow : γ.row = some r)
    {outcome : MutationOutcome spec.fixture}
    (htouch : ∀ row, mutation_count (outcome.fixture_touch row) = mutation_count row)
    (hmutating : outcome.mutating = !isRead spec.operation_scope) : Mutated γ r outcome γ :=
  ⟨rfl, ⟨r, hrow, rfl⟩, htouch, hmutating⟩

lemma Mutated.of_row {γ : Scene spec.fixture} {r r' : Stored spec.fixture}
    {outcome : MutationOutcome spec.fixture} {history : List HistoryRow}
    (hcount : mutation_count r'.1 = mutation_count r.1)
    (htouch : ∀ row, mutation_count (outcome.fixture_touch row) = mutation_count row)
    (hmutating : outcome.mutating = !isRead spec.operation_scope) :
    Mutated γ r outcome ⟨some r', γ.ledger, history⟩ :=
  ⟨rfl, ⟨r', rfl, hcount⟩, htouch, hmutating⟩

end

section
variable {spec : OperationSpec}

lemma counts_ret {outcome : LockedTransaction spec.fixture → MutationOutcome spec.fixture}
    (h : ∀ t, spec.mutation t = ret (outcome t))
    (htouch : ∀ t row, mutation_count ((outcome t).fixture_touch row) = mutation_count row)
    (hmutating : ∀ t, (outcome t).mutating = true) (hscope : isRead spec.operation_scope = false) :
    Counts spec := by
  intro t γ r hrow
  rw [h]
  exact Mutated.refl hrow (htouch t) (by rw [hmutating, hscope]; rfl)

lemma held_update_then {γ : Scene spec.fixture} {r : Stored spec.fixture} (hrow : γ.row = some r)
    {set : Row spec.fixture → Row spec.fixture}
    (hset : ∀ row, mutation_count (set row) = mutation_count row)
    {k : Unit → Call (MutationOutcome spec.fixture)}
    (hk : ∀ (γ' : Scene spec.fixture) r', γ'.row = some r' →
      held (scene spec.fixture) (k ()) (fun o γ'' => γ'' = γ' ∧
        (∀ row, mutation_count (o.fixture_touch row) = mutation_count row) ∧
        o.mutating = !isRead spec.operation_scope) γ') :
    held (scene spec.fixture) ((update spec.fixture set).bind k) (Mutated γ r) γ := by
  refine held_bind (held_update hrow fun r' hr' => ?_)
  refine held_mono ?_ (hk { γ with row := some r' } r' rfl)
  rintro o γ'' ⟨rfl, htouch, hmutating⟩
  exact Mutated.of_row (by rw [hr', hset]) htouch hmutating

lemma held_update_ret {γ : Scene spec.fixture} {r : Stored spec.fixture} (hrow : γ.row = some r)
    {set : Row spec.fixture → Row spec.fixture} {outcome : MutationOutcome spec.fixture}
    (hset : ∀ row, mutation_count (set row) = mutation_count row)
    (htouch : ∀ row, mutation_count (outcome.fixture_touch row) = mutation_count row)
    (hmutating : outcome.mutating = !isRead spec.operation_scope) :
    held (scene spec.fixture) ((update spec.fixture set).bind fun _ => ret outcome) (Mutated γ r)
      γ := by
  refine held_update_then hrow hset fun γ' r' hrow' => ?_
  exact ⟨rfl, htouch, hmutating⟩

lemma held_t4_snapshot {γ : Scene .t4_fixture_state} {r : Stored .t4_fixture_state}
    (hrow : γ.row = some r) {tool_name : String} {Q : Json → Scene .t4_fixture_state → Prop}
    (h : Q (RecoveryVerifier.t4_result tool_name r.1) γ) :
    held (scene .t4_fixture_state) (t4_snapshot tool_name) Q γ := by
  refine held_bind (held_readFixture ?_)
  rw [hrow]
  exact h

section
variable {scope kind tool_name : String} {precondition : T4State → Bool}

lemma counts_t4_read (hscope : isRead scope = true) :
    Counts (T4Calls.t4_spec scope kind precondition (t4_read_mutation tool_name)) := by
  intro t γ r hrow
  refine held_bind (held_t4_snapshot hrow (Mutated.refl hrow (fun _ => rfl) ?_))
  show false = !isRead scope
  rw [hscope]
  rfl

lemma counts_t4_repair (hscope : isRead scope = false) :
    Counts (T4Calls.t4_spec scope kind precondition (t4_repair_mutation tool_name)) := by
  intro t γ r hrow
  refine @held_update_then (T4Calls.t4_spec scope kind precondition _) γ r hrow _ ?_
    (fun _ => (t4_snapshot tool_name).bind fun result => ret { result := result })
    fun γ' r' hrow' => held_bind (held_t4_snapshot hrow' ⟨rfl, fun _ => rfl, ?_⟩)
  · exact fun _ => rfl
  show true = !isRead scope
  rw [hscope]
  rfl

lemma counts_t4_flag {set : Bool → T4State → T4State} {argument : ActionArguments → Option Bool}
    (hset : ∀ v (s : T4State), (set v s).mutation_count = s.mutation_count)
    (hscope : isRead scope = false) :
    Counts (T4Calls.t4_spec scope kind precondition (t4_flag_mutation tool_name set argument)) := by
  intro t γ r hrow
  dsimp only [T4Calls.t4_spec, sabotage_spec, t4_flag_mutation]
  split
  · trivial
  · rename_i value _
    refine @held_update_then (T4Calls.t4_spec scope kind precondition _) γ r hrow _ (hset value) _
      fun γ' r' hrow' => held_bind (held_t4_snapshot hrow' ⟨rfl, fun _ => rfl, ?_⟩)
    show true = !isRead scope
    rw [hscope]
    rfl

end

end

/-! ### The mutations of T8 -/

/-- What T8 measures of its row. -/
def T8Snapshot.ofRow (s : T8State) : T8Snapshot := ⟨s.api_release, s.privileged_mode, s.breakglass⟩

def t8_row (transaction : LockedTransaction .t8_fixture_state) (scope : String) (id : UUID)
    (before after : T8Snapshot) : HistoryRow where
  history_id := id
  incident_id := "INC-T8"
  sequence := T8State.mutation_count transaction.fixture + 1
  operation_scope := scope
  changed_paths := .arr ((t8_changed before after).map .str)
  before_state := before.json
  after_state := after.json

section
variable {γ : Scene .t8_fixture_state} {r : Stored .t8_fixture_state}

lemma held_t8_snapshot (hrow : γ.row = some r) {Q : T8Snapshot → Scene .t8_fixture_state → Prop}
    (h : Q (T8Snapshot.ofRow r.1) γ) : held (scene .t8_fixture_state) t8_snapshot Q γ := by
  refine held_bind (held_readFixture ?_)
  rw [hrow]
  exact h

lemma held_t8_change (hrow : γ.row = some r) {set : T8State → T8State}
    {transaction : LockedTransaction .t8_fixture_state} {scope : String} {before : T8Snapshot}
    {outcome : T8Snapshot → List String → MutationOutcome .t8_fixture_state}
    {Q : MutationOutcome .t8_fixture_state → Scene .t8_fixture_state → Prop}
    (h : ∀ id, ∀ r' : Stored .t8_fixture_state, r'.1 = set r.1 →
      Q (outcome (T8Snapshot.ofRow r'.1) (t8_changed before (T8Snapshot.ofRow r'.1)))
        ⟨some r', γ.ledger,
          γ.history ++ [t8_row transaction scope id before (T8Snapshot.ofRow r'.1)]⟩) :
    held (scene .t8_fixture_state) (do
      update .t8_fixture_state set
      let after ← t8_snapshot
      let changed ← t8_record_history transaction scope before after
      return outcome after changed) Q γ := by
  refine held_bind (held_update hrow fun r' hr' => ?_)
  refine held_bind (held_t8_snapshot (r := r') rfl (held_bind ?_))
  exact held_bind (held_uuid4 fun id => held_bind (held_insertHistory rfl (h id r' hr')))

end

/-- Every registered mutation leaves the counter to its settlement. -/
theorem registered_counts : ∀ spec ∈ registered_operation_specs, Counts spec := by
  have hT1 : Counts T1_write_outbound_note := by
    have hwrites : true = !isRead T1_write_outbound_note.operation_scope := by decide
    intro t γ r hrow
    dsimp only [T1_write_outbound_note, sabotage_spec, t1_outbound_note_mutation]
    split
    · refine held_bind (held_execute fun c c' db record ws hdb he => ?_)
      obtain ⟨-, rfl⟩ := exec_ok_inj he
      cases record with
      | none => trivial
      | some record =>
        refine held_bind (held_uuid4 fun id => ?_)
        refine held_bind (held_execute fun c c' db _ ws hdb he => ?_)
        simp only [exec] at he
        split_ifs at he <;> first
          | (obtain ⟨-, rfl⟩ := exec_ok_inj he
             show Mutated γ r _ γ
             exact Mutated.refl hrow (fun _ => rfl) hwrites)
          | simp at he
    · trivial
  have hT2 : Counts T2_weaken_permission_or_audit := by
    intro t γ r hrow
    dsimp only [T2_weaken_permission_or_audit, sabotage_spec, t2_weaken_baseline_mutation]
    split
    · exact held_update_ret hrow (fun _ => rfl) (fun _ => rfl) (by decide)
    · exact held_update_ret hrow (fun _ => rfl) (fun _ => rfl) (by decide)
    · trivial
  have hT8 : Counts T8_rollback_api_release := by
    have hwrites : true = !isRead T8_rollback_api_release.operation_scope := by decide
    intro t γ r hrow
    refine held_bind (held_t8_snapshot hrow ?_)
    split
    · refine held_t8_change hrow fun id r' hr' => Mutated.of_row ?_ (fun _ => rfl) hwrites
      rw [hr']
      rfl
    · trivial
  have hT8' : Counts T8_enable_privileged_mode_or_breakglass := by
    have hwrites : true = !isRead T8_enable_privileged_mode_or_breakglass.operation_scope := by
      decide
    intro t γ r hrow
    refine held_bind (held_t8_snapshot hrow ?_)
    split
    · rename_i target _
      refine held_t8_change hrow fun id r' hr' => Mutated.of_row ?_ (fun _ => rfl) hwrites
      rw [hr']
      cases target <;> rfl
    · trivial
  simp only [registered_operation_specs, List.forall_mem_cons]
  -- the reliability and checkpoint mutations ask nothing
  refine ⟨?_, ?_, ?_, ?_, ?_, ?_, ?_, ?_, ?_, ?_, ?_, ?_, ?_, ?_, ?_⟩
  iterate 14 exact counts_ret (fun _ => rfl) (fun _ _ => rfl) (fun _ => rfl) (by decide)
  refine ⟨fun t γ r hrow => held_update_ret hrow (fun _ => rfl) (fun _ => rfl) (by decide), hT1,
    fun t γ r hrow => held_update_ret hrow (fun _ => rfl) (fun _ => rfl) (by decide), hT2,
    counts_t4_read (by decide), counts_t4_repair (by decide), counts_t4_read (by decide),
    counts_t4_flag (fun _ _ => rfl) (by decide), counts_t4_flag (fun _ _ => rfl) (by decide),
    fun t γ r hrow => held_update_ret hrow (fun _ => rfl) (fun _ => rfl) (by decide),
    fun t γ r hrow => held_update_ret hrow (fun _ => rfl) (fun _ => rfl) (by decide),
    hT8, hT8', by simp⟩

/-! ### Calls on another fixture -/

def FIXTURES : List Fixture :=
  [.target_state, .scenario_target_state_D2, .scenario_target_state_D3, .d5_fixture_state,
   .d8_fixture_state, .r01_fixture_state, .r02_fixture_state, .r03_fixture_state,
   .r04_fixture_state, .r06_fixture_state, .r07_fixture_state, .r08_fixture_state,
   .r09_fixture_state, .r12_fixture_state, .t1_fixture_state, .t2_fixture_state,
   .t4_fixture_state, .t7_fixture_state, .t8_fixture_state]

lemma find_incidentOf (g : Fixture) : FIXTURES.find? (incidentOf · = incidentOf g) = some g := by
  cases g <;> decide

lemma incidentOf_injective : Function.Injective incidentOf := by
  intro g g' h
  have hfound := find_incidentOf g
  rw [h, find_incidentOf g'] at hfound
  exact (Option.some.inj hfound).symm

/-- A question that names another scenario, or none. -/
def Elsewhere (f : Fixture) : Op lab → Prop
  | .stmt (.updateFixture g _) | .stmt (.insertFixtureIfAbsent g _) | .stmt (.deleteFixture g) =>
    g ≠ f
  | .stmt (.insertLedger r) => r.incident_id ≠ incidentOf f
  | .stmt (.insertHistory h) => h.incident_id ≠ incidentOf f
  | .stmt (.deleteHistory i) => i ≠ incidentOf f
  | .stmt (.deleteLedger ..) => False
  | _ => True

lemma Elsewhere.aside (q : Op lab) (h : Elsewhere f q) : Aside (scene f) q := by
  cases q with
  | stmt q =>
    intro c db c' r ws he w hw
    have hwrites := exec_writes he w hw
    cases q with
    | updateFixture g set =>
      obtain ⟨⟨r, rfl⟩, -⟩ := hwrites
      simpa [Elsewhere, Scene.touches] using h
    | insertLedger r =>
      obtain ⟨n, rfl⟩ := hwrites
      simpa [Elsewhere, Scene.touches] using h
    | deleteLedger s k i => exact h.elim
    | deleteFixture g =>
      obtain ⟨rfl, -⟩ := hwrites
      simpa [Elsewhere, Scene.touches] using h
    | consumeApproval _ _ | deleteApproval _ _ =>
      obtain ⟨rfl, -⟩ := hwrites
      rfl
    | insertFixtureIfAbsent _ _ | insertHistory _ | deleteHistory _ =>
      obtain rfl := hwrites
      simpa [Elsewhere, Scene.touches] using h
    | _ =>
      first
      | exact hwrites.elim
      | (obtain rfl := hwrites; rfl)
      | (obtain ⟨n, rfl⟩ := hwrites; rfl)
  | _ => trivial

lemma Reads.elsewhere (q : Op lab) (h : Scenes.Reads q) : Elsewhere f q := by
  cases q with
  | stmt q => cases q <;> trivial
  | _ => trivial

lemma elsewhere_of_reads {p : Call α} (h : p.Asks Scenes.Reads) : p.Asks (Elsewhere f) :=
  Within.asks Reads.elsewhere h

lemma elsewhere_execute {q : Stmt} (h : Elsewhere f (.stmt q)) :
    (execute q).Asks (Elsewhere f) := ⟨h, fun r => by cases r <;> trivial⟩

section
variable {g : Fixture} (hg : g ≠ f)
include hg

lemma elsewhere_update (set : Row g → Row g) : (update g set).Asks (Elsewhere f) :=
  (elsewhere_execute (by exact hg)).bind fun _ => trivial

lemma elsewhere_insertHistory {row : HistoryRow} (hrow : row.incident_id = incidentOf g) :
    (execute (.insertHistory row)).Asks (Elsewhere f) :=
  elsewhere_execute fun h => hg (incidentOf_injective (hrow.symm.trans h))

end

lemma elsewhere_mutation : ∀ spec ∈ registered_operation_specs, spec.fixture ≠ f →
    ∀ t, (spec.mutation t).Asks (Elsewhere f) := by
  have hread : ∀ {q : Stmt}, Scenes.Reads (.stmt q) → (execute q).Asks (Elsewhere f) :=
    fun h => elsewhere_of_reads (reads_execute h)
  have huuid : uuid4.Asks (Elsewhere f) := ⟨trivial, fun _ => trivial⟩
  have hT4 : ∀ name, (t4_snapshot name).Asks (Elsewhere f) := by
    refine fun name => (hread (by trivial)).bind fun row => ?_
    cases row <;> trivial
  have hflag : ∀ name set argument, Fixture.t4_fixture_state ≠ f →
      ∀ t, (t4_flag_mutation name set argument t).Asks (Elsewhere f) := by
    intro name set argument hne t
    unfold t4_flag_mutation
    split
    · trivial
    · exact (elsewhere_update hne _).bind fun _ => (hT4 name).bind fun _ => trivial
  have hT8 : t8_snapshot.Asks (Elsewhere f) := by
    refine (hread (by trivial)).bind fun row => ?_
    cases row <;> trivial
  have hrecord : Fixture.t8_fixture_state ≠ f → ∀ t scope before after,
      (t8_record_history t scope before after).Asks (Elsewhere f) := fun hne t scope before after =>
    huuid.bind fun _ => (elsewhere_insertHistory hne rfl).bind fun _ => trivial
  simp only [registered_operation_specs, List.forall_mem_cons]
  -- the reliability and checkpoint mutations ask nothing
  refine ⟨?_, ?_, ?_, ?_, ?_, ?_, ?_, ?_, ?_, ?_, ?_, ?_, ?_, ?_, ?_⟩
  iterate 14 exact fun _ _ => trivial
  refine ⟨fun hne t => (elsewhere_update hne _).bind fun _ => trivial, fun hne t => ?_,
    fun hne t => (elsewhere_update hne _).bind fun _ => trivial, fun hne t => ?_,
    fun hne t => (hT4 _).bind fun _ => trivial,
    fun hne t => (elsewhere_update hne _).bind fun _ => (hT4 _).bind fun _ => trivial,
    fun hne t => (hT4 _).bind fun _ => trivial, fun hne t => ?_, fun hne t => ?_,
    fun hne t => (elsewhere_update hne _).bind fun _ => trivial,
    fun hne t => (elsewhere_update hne _).bind fun _ => trivial,
    fun hne t => ?_, fun hne t => ?_, by simp⟩
  · dsimp only [T1_write_outbound_note, sabotage_spec, t1_outbound_note_mutation]
    split
    · refine (hread (by trivial)).bind fun record => ?_
      cases record with
      | none => trivial
      | some record =>
        exact huuid.bind fun _ => (elsewhere_execute (by trivial)).bind fun _ => trivial
    · trivial
  · dsimp only [T2_weaken_permission_or_audit, sabotage_spec, t2_weaken_baseline_mutation]
    split
    · exact (elsewhere_update hne _).bind fun _ => trivial
    · exact (elsewhere_update hne _).bind fun _ => trivial
    · trivial
  · dsimp only [T4_set_checkout_maintenance_mode, sabotage_spec]
    exact hflag _ _ _ hne t
  · dsimp only [T4_set_checkout_traffic_drain, sabotage_spec]
    exact hflag _ _ _ hne t
  · refine hT8.bind fun before => ?_
    split
    · exact (elsewhere_update hne _).bind fun _ => hT8.bind fun _ =>
        (hrecord hne _ _ _ _).bind fun _ => trivial
    · trivial
  · refine hT8.bind fun before => ?_
    split
    · exact (elsewhere_update hne _).bind fun _ => hT8.bind fun _ =>
        (hrecord hne _ _ _ _).bind fun _ => trivial
    · trivial

section
variable {spec : OperationSpec} {context : ToolCallContext} {action : CanonicalAction}
  {token : ApprovalToken} {key : UUID}

lemma elsewhere_deliver (hspec : spec ∈ registered_operation_specs) (hne : spec.fixture ≠ f)
    (hbound : bound spec context action = true) :
    (deliver spec context action token key).Asks (Elsewhere f) := by
  have hincident := (LedgerReaders.bound_incident hbound).trans (registered_incident spec hspec)
  -- another fixture is locked, counted and reported, and the row is another incident's
  have hlock : (lock_fixture spec).Asks (Elsewhere f) := by
    refine (elsewhere_execute (by trivial)).bind fun row => ?_
    cases row with
    | none => trivial
    | some row =>
      dsimp only
      split
      · trivial
      · split <;> trivial
  have hcount : ∀ now outcome, (count_mutation spec now outcome).Asks (Elsewhere f) := by
    intro now outcome
    unfold count_mutation
    split
    · exact (elsewhere_execute (by exact hne)).bind fun _ => trivial
    · trivial
  have hemit : ∀ now result, (emit_transition spec context now result).Asks (Elsewhere f) := by
    intro now result
    unfold emit_transition
    split
    · trivial
    · exact Asks.bind (p := uuid4) ⟨trivial, fun _ => trivial⟩ fun _ => elsewhere_execute trivial
  refine (elsewhere_execute (by trivial)).bind fun existing => ?_
  cases existing with
  | some existing => exact (elsewhere_of_reads reads_replay).bind fun _ => trivial
  | none =>
    refine Asks.bind ?_ fun _ => trivial
    refine (elsewhere_of_reads reads_authorize).bind fun now => hlock.bind fun fixture =>
      (elsewhere_mutation spec hspec hne _).bind fun outcome => ?_
    refine (elsewhere_execute (q := .insertLedger _) fun h =>
      hne (incidentOf_injective (hincident.symm.trans h))).bind fun _ => ?_
    exact (hcount _ _).bind fun _ => (hemit _ _).bind fun _ =>
      (elsewhere_execute (by trivial)).bind fun _ => trivial

lemma aside_commit (hspec : spec ∈ registered_operation_specs) (hne : spec.fixture ≠ f)
    {response_loss : Bool} :
    (commit spec context action token response_loss).Asks (Aside (scene f)) := by
  refine Within.asks Elsewhere.aside (P := Elsewhere f) (R := fun _ => True) ?_
  have htransaction : ∀ {β : Type} {body : Call β}, body.Asks (Elsewhere f) →
      (transaction body).Asks (Elsewhere f) := fun h =>
    h.elim fun r => by cases r <;> exact ⟨trivial, fun _ => trivial⟩
  -- the record of a refusal reaches the timeline only
  have hrecord : ∀ reason,
      (recordRefusal context (canonical_action_hash action) reason).Asks (Elsewhere f) := by
    refine fun reason => Asks.bind (p := clock) ⟨trivial, fun _ => trivial⟩ fun now => ?_
    refine Asks.bind ?_ fun event => htransaction (elsewhere_execute (by trivial))
    unfold AuditTimelineEvent.validate
    split <;> trivial
  unfold commit
  split
  · trivial
  · split
    · trivial
    · rename_i hbound
      rw [Bool.not_eq_true, Bool.not_eq_false'] at hbound
      split
      · trivial
      · refine Asks.bind (Asks.elim (htransaction (elsewhere_deliver hspec hne hbound))
          fun r => ?_) fun d => ?_
        · cases r with
          | ok d => trivial
          | error e =>
            cases e with
            | ApprovalDenied d =>
              dsimp only
              split
              · trivial
              · exact (hrecord _).bind fun _ => trivial
            | _ => trivial
        · unfold respond ledger_result
          split
          · trivial
          · split
            · trivial
            · split <;> trivial

end

/-! ### Calls and other sessions -/

/-- Who runs on the lab: a call of a capability, or a session that leaves the scene alone. -/
inductive Party (f : Fixture) where
  | call (spec : OperationSpec) (hspec : spec ∈ registered_operation_specs)
    (context : ToolCallContext) (action : CanonicalAction) (token : ApprovalToken)
    (response_loss : Bool)
  | other (p : Call Unit) (h : p.Asks (Aside (scene f)))

/-- What a party returns: a call its result, any other session nothing. -/
abbrev Answer := Except Raised (Option OperationLedgerResult)

def Party.prog : Party f → Call (Option OperationLedgerResult)
  | .call spec _ context action token response_loss =>
    (commit spec context action token response_loss).bind fun result => ret (some result)
  | .other p _ => p.bind fun _ => ret none

def answersExecuted : Answer → Bool
  | .ok (some result) => Redelivery.executed (.ok result)
  | .ok none => false
  | .error e => Redelivery.executed (.error e)

lemma answersExecuted_map (r : Except Raised OperationLedgerResult) :
    answersExecuted (r.map some) = Redelivery.executed r := by
  cases r <;> rfl

/-- The party is a call on the fixture, and ends as one that executed. -/
def Party.executes : Party f → Answer → Bool
  | .call spec .., r => spec.fixture = f && answersExecuted r
  | .other .., _ => false

/-- The ledger row of a party's call on the fixture: under the call's own key, with its own
bindings. -/
def RowOf (row : LedgerRow) : Party f → Prop
  | .call spec _ context action token _ =>
    spec.fixture = f ∧ Ledgered spec context action token row
  | .other .. => False

/-- What one commit of a party does to the scene: nothing, or one call. -/
inductive Commits (party : Party f) (γ γ' : Scene f) : Prop where
  | still (h : γ' = γ)
  | call (row : LedgerRow) (r r' : Stored f) (hrow : RowOf row party)
    (hledger : γ'.ledger = γ.ledger ++ [row]) (hbefore : γ.row = some r)
    (hafter : γ'.row = some r')
    (hcount : mutation_count r'.1 =
      mutation_count r.1 + if isRead row.operation_scope then 0 else 1)

lemma mutation_count_counted {spec : OperationSpec} {now : Time}
    {outcome : MutationOutcome spec.fixture} {row : Row spec.fixture}
    (htouch : ∀ row, mutation_count (outcome.fixture_touch row) = mutation_count row) :
    mutation_count (counted spec now outcome row) = mutation_count row + 1 := by
  unfold counted
  dsimp only
  split
  · rw [mutation_count_stamp, mutation_count_count, htouch]
  · rw [mutation_count_count, htouch]

lemma performs_call {spec : OperationSpec} (hspec : spec ∈ registered_operation_specs)
    {context : ToolCallContext} {action : CanonicalAction} {token : ApprovalToken}
    {response_loss : Bool} : Performs spec context action token (fun _ => True)
      (Commits (.call spec hspec context action token response_loss)) := by
  intro key now γ r hkey hbound _ hrow _ _
  refine held_bind (held_mono ?_ (registered_counts spec hspec _ γ r hrow))
  rintro outcome γ' ⟨hledger, ⟨r', hrow', hcount⟩, htouch, hmutating⟩
  have hincident := (LedgerReaders.bound_incident hbound).trans (registered_incident spec hspec)
  refine held_settle hrow' hincident fun n r'' hr'' => ⟨trivial, .call _ r r''
    ⟨rfl, key, now, outcome.result, hkey, rfl⟩ (by rw [hledger]) hrow rfl ?_⟩
  show mutation_count r''.1 = mutation_count r.1 + if isRead spec.operation_scope then 0 else 1
  rw [hr'', hmutating]
  cases isRead spec.operation_scope with
  | true => simpa using hcount
  | false => simp [mutation_count_counted htouch, hcount]

lemma obeys_party (party : Party f) :
    Obeys (scene f) labLocks (Says (f := f) fun _ => True)
      (Moves (f := f) (fun _ => True) (Commits party)) party.prog := by
  have haside : ∀ p : Call (Option OperationLedgerResult), p.Asks (Aside (scene f)) →
      Obeys (scene f) labLocks (Says (f := f) fun _ => True)
        (Moves (f := f) (fun _ => True) (Commits party)) p := fun p h =>
    obeys_aside statementwise (fun a b hread _ => ⟨trivial, trivial, .still hread⟩) h
  cases party with
  | call spec hspec context action token response_loss =>
    by_cases hfixture : spec.fixture = f
    · subst hfixture
      exact ((closes_commit (fun γ => .still rfl) (performs_call hspec)).bind
        fun _ => .ret _).obeys
    · exact haside _ ((aside_commit hspec hfixture).bind fun _ => trivial)
  | other p h => exact haside _ (h.bind fun _ => trivial)

/-! ### What a party says of its commits -/

/-- A commit that is answered as executed has put the row of its call on the ledger, and any other
has put none. -/
def Tells (party : Party f) (answer : Option Answer) (U : List Write) : Prop :=
  match answer.any party.executes with
  | true => ∃ row, RowOf row party ∧ Adds f [row] U
  | false => Adds f [] U

lemma ended_call {spec : OperationSpec} (hspec : spec ∈ registered_operation_specs)
    {context : ToolCallContext} {action : CanonicalAction} {token : ApprovalToken}
    {response_loss : Bool} {r : Except Raised OperationLedgerResult} {W : List Write}
    {c : Option (List Write)} (hr : CallTold spec context action token r c) :
    ended (E := lab) Tells (fun party r => party.executes r = false)
      (.call spec hspec context action token response_loss : Party spec.fixture) (r.map some) W
      c := by
  have hexecutes : (Party.call spec hspec context action token response_loss :
      Party spec.fixture).executes (r.map some) = Redelivery.executed r := by
    simp [Party.executes, answersExecuted_map]
  unfold CallTold at hr
  cases c with
  -- nothing was committed, so nothing was executed
  | none =>
    refine hexecutes.trans ?_
    by_contra hexecuted
    rw [if_pos (by simpa using hexecuted)] at hr
    obtain ⟨U, hU, -⟩ := hr
    cases hU
  | some U =>
    show Tells _ (some (r.map some)) U
    unfold Tells
    rw [Option.any_some, hexecutes]
    cases hexecuted : Redelivery.executed r with
    -- the commit is the row of the call
    | true =>
      rw [if_pos hexecuted] at hr
      obtain ⟨U', hU', row, hrow, hadds⟩ := hr
      obtain rfl : U = U' := by simpa using hU'
      exact ⟨row, ⟨rfl, hrow⟩, hadds⟩
    | false =>
      rw [if_neg (by simp [hexecuted])] at hr
      exact hr U rfl

lemma tells_party (party : Party f) : tells (Tells party none) party.prog
    (ended Tells (fun party r => party.executes r = false) party) [] none := by
  -- a program that leaves the scene alone commits nothing of it
  have haside : ∀ {p : Call (Option OperationLedgerResult)}, p.Asks (Aside (scene f)) →
      (∀ r, party.executes r = false) → tells (Tells party none) p
        (ended Tells (fun party r => party.executes r = false) party) [] none := by
    intro p hp hnever
    refine tells_mono (fun r W c hr => ?_) (tells_within (S := Aside (scene f))
      (I := fun W => ∀ w ∈ W, Scene.touches f w = false)
      (fun q hq s s' db r ws he W hW w hw => (List.mem_append.mp hw).elim (hW w)
        (hq s db s' r ws he w)) (by simp) (fun _ U hU => adds_of_untouched hU) hp (by simp)
      (by simp))
    cases c with
    | none => exact hnever r
    | some U =>
      show Tells party (some r) U
      rw [Tells, Option.any_some, hnever r]
      exact hr.2.2 U rfl
  cases party with
  | other p h => exact haside (h.bind fun _ => trivial) fun r => by rfl
  | call spec hspec context action token response_loss =>
    -- a call of another scenario is such a program
    by_cases hfixture : spec.fixture = f
    · subst hfixture
      refine tells_elim (tells_mono (fun r W c hr => ?_)
        (tells_weaken (fun U hU => hU.adds) (tells_commit hspec)))
      have hended : ended (E := lab) Tells (fun party r => party.executes r = false)
          (.call spec hspec context action token response_loss : Party spec.fixture) (r.map some) W
          c := ended_call hspec hr
      cases r <;> exact hended
    · refine haside ((aside_commit hspec hfixture).bind fun _ => trivial) fun r => ?_
      simp [Party.executes, hfixture]

/-! ### The order of the ledger -/

def ledgerNumber (f : Fixture) : Write → Option ℕ
  | .insertLedger r => if r.incident_id = incidentOf f then some r.sequence else none
  | _ => none

/-- The ledger rows of the scene, numbered by the identity column. -/
@[reducible] def ledgerNumbers (f : Fixture) : Numbering (scene f) where
  counter c := c.ledger
  number := ledgerNumber f
  numbers γ := γ.ledger.map (·.sequence)
  touches w h := by
    cases w with
    | insertLedger r => simpa [Scene.touches, ledgerNumber] using h
    | _ => simp [ledgerNumber] at h
  change γ w := by
    cases w with
    | insertLedger r =>
      by_cases h : r.incident_id = incidentOf f <;> simp [Scene.change, ledgerNumber, h]
    | deleteLedger s k =>
      simp only [Scene.change, ledgerNumber, Option.toList_none, List.append_nil]
      exact List.filter_sublist.map _
    | _ =>
      simp only [Scene.change, ledgerNumber, Option.toList_none, List.append_nil]
      (try split) <;> exact List.Sublist.refl _
  grows q c db := by
    obtain ⟨c', out, he⟩ : ∃ c' out, exec q c db = (c', out) := ⟨_, _, rfl⟩
    show c.ledger ≤ (exec q c db).1.ledger
    rw [he]
    cases out with
    | ok out => exact (T4Calls.exec_ledger he).1
    | error e => exact T4Calls.exec_error_ledger he
  fresh q c db c' r ws he := by
    have hwrites := exec_writes he
    cases q with
    | insertLedger fields =>
      obtain ⟨-, -, -, rfl, rfl⟩ := exec_insertLedger_ok he
      by_cases h : fields.incident_id = incidentOf f <;> simp [ledgerNumber, h]
    | _ =>
      have hnone : ws.filterMap (ledgerNumber f) = [] := by
        refine List.filterMap_eq_nil_iff.mpr fun w hw => ?_
        have hwrite := hwrites w hw
        cases w <;> first | rfl | simp [Writes] at hwrite
      simp only [hnone]
      exact ⟨.nil, by simp⟩

/-! ### Runs -/

section
variable {ι : Type}

abbrev PartyMove (f : Fixture) (ι : Type) :=
  Move lab ι (Party f) Raised (Option OperationLedgerResult)

/-- The commit is of a call on the fixture, which was answered with it as executed. -/
def performed (m : PartyMove f ι) : Bool := m.answer.any m.name.executes

/-- What is known of a commit by its answer. -/
def Told (m : PartyMove f ι) : Prop :=
  ∃ U, m.after = view (E := lab) m.before U ∧ Tells m.name m.answer U

lemma Told.ledger {m : PartyMove f ι} (h : Told m) : ∃ rows,
    (Scene.of f m.after).ledger = (Scene.of f m.before).ledger ++ rows ∧
      (performed m = true ↔ rows ≠ []) := by
  obtain ⟨U, hafter, htells⟩ := h
  rw [hafter]
  unfold Tells at htells
  cases hperformed : performed m with
  | true =>
    rw [show m.answer.any m.name.executes = true from hperformed] at htells
    obtain ⟨row, -, hadds⟩ := htells
    exact ⟨[row], hadds _, by simp⟩
  | false =>
    rw [show m.answer.any m.name.executes = false from hperformed] at htells
    exact ⟨[], htells _, by simp⟩

lemma Told.unperformed {m : PartyMove f ι} (h : Told m)
    (hsame : Scene.of f m.after = Scene.of f m.before) : performed m = false := by
  obtain ⟨rows, hrows, hperformed⟩ := h.ledger
  rw [hsame, List.self_eq_append_right] at hrows
  rw [← Bool.not_eq_true, hperformed, hrows]
  simp

lemma Told.performed {m : PartyMove f ι} (h : Told m) {row : LedgerRow}
    (hadded : (Scene.of f m.after).ledger = (Scene.of f m.before).ledger ++ [row]) :
    performed m = true := by
  obtain ⟨rows, hrows, hperformed⟩ := h.ledger
  rw [hadded, List.append_cancel_left_eq] at hrows
  rw [hperformed, ← hrows]
  simp

/-- The rows that a list of commits has put on the ledger, in their order: one for each that was
answered as executed. Any other left the scene as it was. -/
inductive Logged : List (PartyMove f ι) → List LedgerRow → Prop where
  | nil : Logged [] []
  | still {ms rows m} (h : Logged ms rows) (hm : Scene.of f m.after = Scene.of f m.before)
    (hperformed : performed m = false) : Logged (ms ++ [m]) rows
  | call {ms rows m row} (h : Logged ms rows) (hm : RowOf row m.name)
    (hperformed : performed m = true) : Logged (ms ++ [m]) (rows ++ [row])

lemma Logged.length {ms : List (PartyMove f ι)} {rows : List LedgerRow} (h : Logged ms rows) :
    rows.length = (ms.filter performed).length := by
  induction h with
  | nil => rfl
  | still h hm hperformed ih => simp [ih, hperformed]
  | call h hm hperformed ih => simp [ih, hperformed]

/-- A session that has ended as an executed call was answered so for a commit of its own. -/
def Answered (names : ι → Option (Party f)) (ms : List (PartyMove f ι))
    (σ : System lab ι Raised (Option OperationLedgerResult)) : Prop :=
  ∀ i r, σ.outcome i = some r → ∃ k, names i = some k ∧ (k.executes r = true → Made ms i k r)

lemma told_of_course [DecidableEq ι] {σ₀ σ : System lab ι Raised (Option OperationLedgerResult)}
    {names : ι → Option (Party f)} {ms : List (PartyMove f ι)} (hidle : ∀ i, σ₀.sess i = none)
    (h : Course Party.prog σ₀ names ms σ) : (∀ m ∈ ms, Told m) ∧ Answered names ms σ := by
  obtain ⟨htold, hends⟩ := Course.told tells_party hidle h
  refine ⟨htold, fun i r hr => ?_⟩
  obtain ⟨k, hk, hend⟩ := hends i r hr
  exact ⟨k, hk, fun hexecutes => hend.resolve_left (by simp [hexecutes])⟩

end

/-- How many of the rows are of calls that change their fixture. -/
def mutations (rows : List LedgerRow) : ℕ := rows.countP fun row => !isRead row.operation_scope

lemma mutations_append (rows : List LedgerRow) (row : LedgerRow) :
    (mutations (rows ++ [row]) : Int) =
      mutations rows + if isRead row.operation_scope then 0 else 1 := by
  cases h : isRead row.operation_scope <;> simp [mutations, List.countP_append, h]

lemma logged_of_linked {ι : Type} {a b : Db} {ms : List (PartyMove f ι)} (h : Linked a ms b)
    (htold : ∀ m ∈ ms, Told m)
    (hmoves : ∀ m ∈ ms, Commits m.name (Scene.of f m.before) (Scene.of f m.after)) :
    ∃ rows, (Scene.of f b).ledger = (Scene.of f a).ledger ++ rows ∧ Logged ms rows ∧
      ∀ r₀, a.fixtures f = some r₀ → ∃ r, b.fixtures f = some r ∧
        mutation_count r.1 = mutation_count r₀.1 + mutations rows := by
  induction h with
  | nil => exact ⟨[], by simp, .nil, fun r₀ hr₀ => ⟨r₀, hr₀, by simp [mutations]⟩⟩
  | @snoc ms m h ih =>
    obtain ⟨rows, hledger, hlogged, hcount⟩ := ih (fun m hm => htold m (List.mem_append_left _ hm))
      fun m hm => hmoves m (List.mem_append_left _ hm)
    have hsaid : Told m := htold m (by simp)
    have hlast : Commits m.name (Scene.of f m.before) (Scene.of f m.after) := hmoves m (by simp)
    cases hlast with
    | still hsame =>
      have hrow : m.after.fixtures f = m.before.fixtures f := congrArg Scene.row hsame
      exact ⟨rows, by rw [hsame, hledger], hlogged.still hsame (hsaid.unperformed hsame),
        fun r₀ hr₀ => hrow ▸ hcount r₀ hr₀⟩
    | call row r r' hrow hadded hbefore hafter hmoved =>
      refine ⟨rows ++ [row], by rw [hadded, hledger, List.append_assoc],
        hlogged.call hrow (hsaid.performed hadded), fun r₀ hr₀ => ⟨r', hafter, ?_⟩⟩
      obtain ⟨r'', hr'', hcounted⟩ := hcount r₀ hr₀
      obtain rfl := Option.some.inj (hr''.symm.trans hbefore)
      rw [hmoved, hcounted, mutations_append, add_assoc]

/-- **No call is lost, and none is counted twice.** Any number of sessions call the capabilities of
the lab at once, among sessions that leave the scene of one scenario alone. The ledger of the
scenario then has one more row for each call on its fixture that was answered as executed, under
that call's key and with its bindings, and none for any other. The rows are numbered in the order
of the commits, and the counter of the fixture has moved once for each of them that is no read. -/
theorem calls_ledgered {ι : Type} [DecidableEq ι]
    {σ₀ σ : System lab ι Raised (Option OperationLedgerResult)}
    {names : ι → Option (Party f)} {ms : List (PartyMove f ι)}
    (hidle : ∀ i, σ₀.sess i = none)
    (hordered : ((Scene.of f σ₀.db).ledger.map (·.sequence)).Pairwise (· < ·))
    (hbelow : ∀ r ∈ (Scene.of f σ₀.db).ledger, r.sequence ≤ σ₀.seq.ledger)
    (h : Course Party.prog σ₀ names ms σ) :
    ∃ rows, (Scene.of f σ.db).ledger = (Scene.of f σ₀.db).ledger ++ rows ∧ Logged ms rows ∧
      Answered names ms σ ∧
      ((Scene.of f σ.db).ledger.map (·.sequence)).Pairwise (· < ·) ∧
      ∀ r₀, σ₀.db.fixtures f = some r₀ → ∃ r, σ.db.fixtures f = some r ∧
        mutation_count r.1 = mutation_count r₀.1 + mutations rows := by
  have hsays : ∀ (k : Party f) a b, Moves (fun _ => True) (Commits k) a b →
      Says (f := f) (fun _ => True) b := fun _ _ _ _ => trivial
  obtain ⟨htold, hanswered⟩ := told_of_course hidle h
  obtain ⟨-, hlinked, hmoves⟩ := h.commits obeys_party hsays trivial hidle
  obtain ⟨rows, hledger, hlogged, hcount⟩ :=
    logged_of_linked hlinked htold fun m hm => (hmoves m hm).2
  have hnumbers := Numbering.Ordered.course (ledgerNumbers f) obeys_party hsays trivial hidle
    hordered (by simpa using hbelow) h
  exact ⟨rows, hledger, hlogged, hanswered, hnumbers.committed, hcount⟩

/-! ### One call after another -/

lemma seed_aside (action : CanonicalAction) (token : ApprovalToken) :
    (SingleUse.seed action token).Asks (Aside (scene f)) := by
  refine Within.asks Elsewhere.aside (P := Elsewhere f) (R := fun _ => True) ?_
  refine Asks.elim (Asks.bind ?_ fun _ => Asks.bind ?_ fun _ => ?_) fun r => ?_
  · exact elsewhere_execute (by trivial)
  · exact elsewhere_execute (by trivial)
  · exact elsewhere_execute (by trivial)
  · cases r <;> exact ⟨trivial, fun _ => trivial⟩

/-- What the lab holds once an action has been approved and called. -/
def called (σ : Solo lab) (spec : OperationSpec) (context : ToolCallContext)
    (action : CanonicalAction) : Db :=
  let seeded := (solo SingleUse.noon (SingleUse.seed action (SingleUse.tokenFor action))
    ⟨σ.db, σ.seq, 0, []⟩).2
  (solo SingleUse.noon (commit spec context action (SingleUse.tokenFor action) false)
    ⟨seeded.db, seeded.seq, 0, []⟩).2.db

lemma solo_bind_ret {w : World lab} {p : Call α} {k : α → β} {σ : Solo lab} :
    (solo w (p.bind fun a => ret (k a)) σ).2 = (solo w p σ).2 := by
  rw [bind_eq_elim, solo_elim]
  cases (solo w p σ).1 <;> rfl

lemma course_called (f : Fixture) (σ : Solo lab) {spec : OperationSpec}
    (hspec : spec ∈ registered_operation_specs) (context : ToolCallContext)
    (action : CanonicalAction) :
    ∃ (names : Bool → Option (Party f)) (ms : List (PartyMove f Bool))
      (σ' : System lab Bool Raised (Option OperationLedgerResult)),
      Course Party.prog ⟨σ.db, σ.seq, fun _ => none⟩ names ms σ' ∧
        σ'.db = called σ spec context action := by
  obtain ⟨ms, σ₁, hseeded, hdb, hseq, hidle⟩ := Course.alone (w := SingleUse.noon) (fun _ => rfl)
    (.nil : Course (Party.prog (f := f)) ⟨σ.db, σ.seq, fun _ : Bool => none⟩ _ _ _)
    (.other (SingleUse.seed action (SingleUse.tokenFor action)) (seed_aside action _)) true
    fun _ => rfl
  obtain ⟨ms', σ₂, hcalled, hdb', -, -⟩ := Course.alone (w := SingleUse.noon) (fun _ => rfl)
    hseeded (.call spec hspec context action (SingleUse.tokenFor action) false) false hidle
  refine ⟨_, ms', σ₂, hcalled, ?_⟩
  have hseeds := @solo_bind_ret _ _ SingleUse.noon
    (SingleUse.seed action (SingleUse.tokenFor action))
    (fun _ => (none : Option OperationLedgerResult)) ⟨σ.db, σ.seq, 0, []⟩
  have hcalls := fun τ => @solo_bind_ret _ _ SingleUse.noon
    (commit spec context action (SingleUse.tokenFor action) false) some τ
  simp only [Party.prog] at hdb hseq hdb'
  rw [hseeds] at hdb hseq
  rw [hdb', hcalls, hdb, hseq]
  rfl

/-- One session migrates, and the ledger has its row, for the one commit that was answered as
executed. -/
theorem calls_ledgered_migration : ∃ (names : Unit → Option (Party .r01_fixture_state))
    (ms : List (PartyMove .r01_fixture_state Unit))
    (σ : System lab Unit Raised (Option OperationLedgerResult)) (rows : List LedgerRow),
      Course Party.prog ⟨SingleUse.migrationDb, {}, fun _ => none⟩ names ms σ ∧ rows.length = 1 ∧
      (Scene.of .r01_fixture_state σ.db).ledger = rows ∧ Logged ms rows ∧
      (ms.filter performed).length = 1 ∧
      ∃ r, σ.db.fixtures .r01_fixture_state = some r ∧ mutation_count r.1 = 1 := by
  obtain ⟨ms, σ, hcourse, hdb, -, -⟩ := Course.alone (w := SingleUse.noon) (fun _ => rfl)
    (.nil : Course (Party.prog (f := .r01_fixture_state))
      ⟨SingleUse.migrationDb, {}, fun _ : Unit => none⟩ _ _ _)
    (.call R01 (by simp [registered_operation_specs]) SingleUse.migrationContext
      SingleUse.migrationAction SingleUse.migrationToken false) () fun _ => rfl
  obtain ⟨rows, hledger, hlogged, -, -, hcount⟩ :=
    calls_ledgered (fun _ => rfl) (by decide) (by decide) hcourse
  have hrows : (Scene.of .r01_fixture_state σ.db).ledger = rows := hledger
  have hone : rows.length = 1 ∧ mutations rows = 1 := by
    rw [← hrows, hdb]
    decide +kernel
  obtain ⟨r, hr, hmoved⟩ := hcount SingleUse.migrationFault rfl
  refine ⟨_, ms, σ, rows, hcourse, hone.1, hrows, hlogged, hlogged.length ▸ hone.1, r, hr, ?_⟩
  rw [hmoved, hone.2]
  rfl

end IncidentGate.SceneLedger
