import IncidentGate.RowLocks
import IncidentGate.Lib.RowLockPart

/-!
The scene of a scenario: its fixture, with the ledger rows and the history of its incident.

A call of the kernel locks the fixture's row before it changes anything of the scene and holds it
to its commit, so a scene moves by one call at a time, whatever else the lab does.
-/

namespace IncidentGate.Scenes

open Lib.ScriptTree Lib.ScriptTree.Script Lib.RowLock Lib.RowLockLogic Lib.RowLockPart
open Contracts Fixtures Tables Refusals Kernel Specs Repository RowLocks

@[ext] structure Scene (f : Fixture) where
  row : Option (Stored f)
  ledger : List LedgerRow
  history : List HistoryRow

namespace Scene

variable {f : Fixture}

/-- What the tables hold of a scenario. -/
def of (f : Fixture) (db : Db) : Scene f where
  row := db.fixtures f
  ledger := db.operation_ledger.filter (·.incident_id = incidentOf f)
  history := db.t8_remediation_history.filter (·.incident_id = incidentOf f)

/-- The write reaches the scene, or may. -/
def touches (f : Fixture) : Write → Bool
  | .updateFixture g _ => g = f
  | .insertFixture g _ => g = f
  | .deleteFixture g => g = f
  | .insertLedger r => r.incident_id = incidentOf f
  | .deleteLedger .. => true
  | .insertHistory h => h.incident_id = incidentOf f
  | .deleteHistory i => i = incidentOf f
  | _ => false

def change (γ : Scene f) : Write → Scene f
  | .updateFixture g r => if h : g = f then { γ with row := γ.row.map fun _ => h ▸ r } else γ
  | .insertFixture g r => if h : g = f then { γ with row := some (γ.row.getD (h ▸ r)) } else γ
  | .deleteFixture g => if g = f then { γ with row := none } else γ
  | .insertLedger r =>
    if r.incident_id = incidentOf f then { γ with ledger := γ.ledger ++ [r] } else γ
  | .deleteLedger s k => { γ with ledger := γ.ledger.filter fun r => !r.hasKey s k }
  | .insertHistory h =>
    if h.incident_id = incidentOf f then { γ with history := γ.history ++ [h] } else γ
  | .deleteHistory i => if i = incidentOf f then { γ with history := [] } else γ
  | _ => γ

lemma of_apply (db : Db) (w : Write) : of f (apply db w) = change (of f db) w := by
  cases w with
  | updateFixture g r =>
    by_cases h : g = f
    · subst h
      simp [of, change, apply]
    · simp [of, change, apply, h, Ne.symm h]
  | insertFixture g r =>
    by_cases h : g = f
    · subst h
      simp [of, change, apply]
    · simp [of, change, apply, h, Ne.symm h]
  | deleteFixture g =>
    by_cases h : g = f
    · subst h
      simp [of, change, apply]
    · simp [of, change, apply, h, Ne.symm h]
  | insertLedger r =>
    by_cases h : r.incident_id = incidentOf f <;> simp [of, change, apply, h]
  | deleteLedger s k => simp [of, change, apply, List.filter_filter, Bool.and_comm]
  | insertHistory r =>
    by_cases h : r.incident_id = incidentOf f <;> simp [of, change, apply, h]
  | deleteHistory i =>
    by_cases h : i = incidentOf f
    · subst h
      simp [of, change, apply, List.filter_filter]
    · simp only [of, change, apply, h, if_false, Scene.mk.injEq, true_and]
      rw [List.filter_filter]
      refine List.filter_congr fun r _ => ?_
      by_cases hr : r.incident_id = incidentOf f <;> simp [hr, Ne.symm h]
  -- the other writes reach neither the fixture, the ledger nor the history
  | _ => rfl

lemma change_of_not (γ : Scene f) (w : Write) (h : touches f w = false) : change γ w = γ := by
  cases w <;> simp_all [touches, change]

end Scene

/-- The scene as a part of the tables that the lock of the fixture's row guards. -/
@[reducible] def scene (f : Fixture) : Part lab (Scene f) where
  lock := .fixtureRow f
  read := Scene.of f
  touches := Scene.touches f
  change := Scene.change
  read_apply := Scene.of_apply
  change_of_not := Scene.change_of_not

/-! ### The statements of a call, on the scene -/

section
variable {f : Fixture} {γ : Scene f}

lemma held_execute {q : Stmt} {Q : Reply q → Scene f → Prop}
    (h : ∀ c c' db r ws, Scene.of f db = γ → exec q c db = (c', .ok (r, ws)) →
      Q r (ws.foldl Scene.change γ)) : held (scene f) (execute q) Q γ :=
  ⟨fun c c' db r ws hdb he => h c c' db r ws hdb he, fun _ => trivial⟩

lemma held_readFixture {Q : Option (Row f) → Scene f → Prop} (h : Q (γ.row.map (·.1)) γ) :
    held (scene f) (execute (.readFixture f)) Q γ := by
  refine held_execute fun c c' db r ws hdb he => ?_
  obtain ⟨rfl, rfl⟩ := exec_ok_inj he
  rw [← hdb] at h ⊢
  exact h

lemma change_updateFixture (r r' : Stored f) (hrow : γ.row = some r) :
    γ.change (.updateFixture f r') = { γ with row := some r' } := by
  simp [Scene.change, hrow]

lemma held_updateFixture {r : Stored f} (hrow : γ.row = some r) {set : Row f → Row f}
    {Q : Bool → Scene f → Prop}
    (h : ∀ r' : Stored f, r'.1 = set r.1 → Q true { γ with row := some r' }) :
    held (scene f) (execute (.updateFixture f set)) Q γ := by
  refine held_execute fun c c' db b ws hdb he => ?_
  have hdbrow : db.fixtures f = some r := by rw [← hrow, ← hdb]; rfl
  simp only [exec, hdbrow] at he
  cases hset : updateRow f set r with
  | error e => simp [hset] at he
  | ok r' =>
    rw [hset] at he
    obtain ⟨rfl, rfl⟩ := exec_ok_inj he
    have hvalue : r'.1 = set r.1 := by
      unfold updateRow at hset
      split_ifs at hset
      cases hset
      rfl
    rw [List.foldl_cons, List.foldl_nil, change_updateFixture r r' hrow]
    exact h r' hvalue

lemma held_update {r : Stored f} (hrow : γ.row = some r) {set : Row f → Row f}
    {Q : Unit → Scene f → Prop}
    (h : ∀ r' : Stored f, r'.1 = set r.1 → Q () { γ with row := some r' }) :
    held (scene f) (update f set) Q γ :=
  held_bind (held_updateFixture hrow fun r' hr' => h r' hr')

lemma held_insertHistory {row : HistoryRow} (hincident : row.incident_id = incidentOf f)
    {Q : Unit → Scene f → Prop} (h : Q () { γ with history := γ.history ++ [row] }) :
    held (scene f) (execute (.insertHistory row)) Q γ := by
  refine held_execute fun c c' db r ws hdb he => ?_
  have hws : ws = [.insertHistory row] := by
    simp only [exec] at he
    split_ifs at he <;> first | exact (exec_ok_inj he).2.symm | simp at he
  subst hws
  simpa [Scene.change, hincident] using h

lemma held_uuid4 {Q : UUID → Scene f → Prop} (h : ∀ a, Q a γ) : held (scene f) uuid4 Q γ := h

/-- A question that writes nothing. -/
def Reads : Op lab → Prop
  | .stmt (.selectLedger ..) | .stmt (.selectApproval _) | .stmt (.countEvidence _)
  | .stmt (.readFixture _) | .stmt (.readRecord ..) | .input _ => True
  | _ => False

lemma Reads.idle (q : Op lab) (h : Reads q) : Idle (scene f) q := by
  cases q with
  | stmt q =>
    refine ⟨fun c db c' r ws he w hw => ?_, by simp, by simp⟩
    have hwrites := exec_writes he w hw
    cases q <;> first | exact hwrites.elim | exact h.elim
  | commit => exact h.elim
  | rollback => exact h.elim
  | input i => exact ⟨trivial, by simp, by simp⟩

lemma reads_execute {q : Stmt} (h : Reads (.stmt q)) : (execute q).Asks Reads :=
  ⟨h, fun r => by cases r <;> trivial⟩

lemma idle_of_reads {p : Call α} (h : p.Asks Reads) : p.Asks (Idle (scene f)) :=
  Within.mono Reads.idle (fun _ _ => trivial) h

end

section
variable {spec : OperationSpec} {context : ToolCallContext} {action : CanonicalAction}
  {token : ApprovalToken} {key : UUID}

lemma reads_ledger_result {ledger : LedgerFields} {status : OperationStatus} {scope : String} :
    (ledger_result ledger status scope).Asks Reads := by
  unfold ledger_result
  split <;> trivial

lemma reads_replay {existing : LedgerRow} :
    (replay spec context action token existing).Asks Reads := by
  refine (reads_execute (by trivial)).bind fun approval =>
    Within.bind ?_ fun _ => reads_ledger_result
  unfold validate_replay
  split
  · trivial
  · split <;> trivial

lemma reads_authorize : (authorize context action token).Asks Reads := by
  refine (reads_execute (by trivial)).bind fun approval => ?_
  refine Within.bind (p := clock) ⟨trivial, fun _ => trivial⟩ fun now => ?_
  refine Within.bind ?_ fun _ => Within.bind ?_ fun _ => trivial
  · simp only [validate_approval]
    split <;> trivial
  · refine (reads_execute (by trivial)).bind fun matching => ?_
    split <;> trivial

lemma held_rest {γ : Scene spec.fixture} {now : Time} {result : Lib.JsonText.Json}
    {ledger : LedgerFields} {Q : LedgerFields → Scene spec.fixture → Prop} (h : Q ledger γ) :
    held (scene spec.fixture) (do
      emit_transition spec context now result
      execute (.consumeApproval token.token_id now)
      return ledger) Q γ := by
  have hconsume : held (scene spec.fixture) (do
      execute (.consumeApproval token.token_id now)
      return ledger) Q γ := by
    refine held_bind (held_execute fun c c' db _ ws hdb he => ?_)
    simp only [exec] at he
    split_ifs at he <;> (obtain ⟨-, rfl⟩ := exec_ok_inj he; exact h)
  refine held_bind ?_
  unfold emit_transition
  split
  · exact hconsume
  · refine held_bind (held_uuid4 fun id => held_execute fun c c' db _ ws hdb he => ?_)
    simp only [exec] at he
    split_ifs at he <;> first
      | (obtain ⟨-, rfl⟩ := exec_ok_inj he; exact hconsume)
      | simp at he

lemma held_count {γ : Scene spec.fixture} {r : Stored spec.fixture} (hrow : γ.row = some r)
    {now : Time} {outcome : MutationOutcome spec.fixture} {Q : Unit → Scene spec.fixture → Prop}
    (h : ∀ r' : Stored spec.fixture,
      r'.1 = (if outcome.mutating then counted spec now outcome r.1 else r.1) →
      Q () { γ with row := some r' }) :
    held (scene spec.fixture) (count_mutation spec now outcome) Q γ := by
  unfold count_mutation
  split
  · rename_i hmutating
    refine held_bind (held_updateFixture hrow fun r' hr' => ?_)
    exact h r' (by rw [if_pos hmutating, hr'])
  · rename_i hmutating
    have hsame := h r (by rw [if_neg hmutating])
    rwa [← hrow] at hsame

/-- The ledger row of a call, and the counter of its fixture. -/
lemma held_settle {γ : Scene spec.fixture} {r : Stored spec.fixture} (hrow : γ.row = some r)
    (hincident : context.incident_id = incidentOf spec.fixture) {now : Time}
    {outcome : MutationOutcome spec.fixture} {Q : LedgerFields → Scene spec.fixture → Prop}
    (h : ∀ n, ∀ r' : Stored spec.fixture,
      r'.1 = (if outcome.mutating then counted spec now outcome r.1 else r.1) →
      Q (ledgerFields spec context action token key now outcome.result)
        ⟨some r', γ.ledger ++
          [⟨ledgerFields spec context action token key now outcome.result, n⟩], γ.history⟩) :
    held (scene spec.fixture) (settle spec context action token key now outcome) Q γ := by
  refine held_bind (held_execute fun c c' db _ ws hdb he => ?_)
  obtain ⟨-, -, -, -, rfl⟩ := exec_insertLedger_ok he
  have hledger : (ledgerFields spec context action token key now outcome.result).incident_id =
      incidentOf spec.fixture := hincident
  rw [List.foldl_cons, List.foldl_nil]
  simp only [Scene.change, hledger, if_true]
  refine held_bind (held_count (r := r) ?_ fun r' hr' => held_rest (h _ r' hr'))
  exact hrow

end

/-! ### A call of the kernel -/

section
variable {f : Fixture} (J : Scene f → Prop) (N : Scene f → Scene f → Prop)

/-- An invariant of the scene, as one of the tables. -/
def Says (db : Db) : Prop := J (Scene.of f db)

/-- What a commit may do: the scene keeps the invariant and moves by `N`. -/
def Moves (a b : Db) : Prop := J (Scene.of f b) ∧ N (Scene.of f a) (Scene.of f b)

/-- What a transaction is about to commit does nothing to the scene, or moves it under its lock. -/
def Settles (L : List Lock) (W : List Write) (db : Db) : Prop :=
  (∀ w ∈ W, Scene.touches f w = false) ∨
    (.fixtureRow f ∈ L ∧ Moves J N db (view (E := lab) db W))

variable {J N}

lemma read_view (W : List Write) (db : Db) :
    Scene.of f (view (E := lab) db W) = W.foldl Scene.change (Scene.of f db) :=
  (scene f).read_view W db

lemma closes_transaction (hrefl : ∀ γ, N γ γ) {body : Call α}
    (h : ∀ db, Says J db → wpWithin True ((scene f).protection labLocks).Covers
      (Relied ((scene f).protection labLocks) (Says J) fun _ _ => True) (Moves J N) body
      (Ok fun _ L W db => Settles J N L W db) [] [] db) :
    Closes (scene f) labLocks (Says J) (Moves J N) (transaction body) := by
  intro db hI
  refine wp_elim (wp_mono (fun r L W db' hr => ?_) (h db hI))
  cases r with
  | error e => exact fun db'' hR => ⟨rfl, rfl, hR.1.1⟩
  | ok a =>
    intro db'' hR
    have hmoves : Moves J N db'' (view (E := lab) db'' W) := by
      rcases hr with huntouched | ⟨hlock, hmoves⟩
      · have hsame : Scene.of f (view (E := lab) db'' W) = Scene.of f db'' :=
          (read_view W db'').trans ((scene f).foldl_untouched huntouched _)
        exact ⟨by rw [hsame]; exact hR.1.1, by rw [hsame]; exact hrefl _⟩
      · -- under the lock the scene is still the one the transaction has seen
        have hread : Scene.of f db'' = Scene.of f db' := (hR.1.2 _ hlock).2 rfl
        have hview : Scene.of f (view (E := lab) db'' W) = Scene.of f (view (E := lab) db' W) := by
          rw [read_view, read_view, hread]
        unfold Moves at hmoves ⊢
        rwa [hread, hview]
    exact ⟨hmoves, rfl, rfl, hmoves.1⟩

lemma closes_idle (hrefl : ∀ γ, N γ γ) {body : Call α} (h : body.Asks (Idle (scene f))) :
    Closes (scene f) labLocks (Says J) (Moves J N) (transaction body) := by
  refine closes_transaction hrefl fun db hI => ?_
  refine wp_ok_mono (fun _ L W db hW => ?_)
    (wp_idle statementwise h (Protection.Covers.nil _ []) (by simp) hI)
  exact .inl hW.2.1

lemma closes_refusal_recorded (hrefl : ∀ γ, N γ γ) {context : ToolCallContext}
    {action_hash : ActionHash} {body : Call α}
    (h : Closes (scene f) labLocks (Says J) (Moves J N) body) :
    Closes (scene f) labLocks (Says J) (Moves J N) (refusal_recorded context action_hash body) := by
  -- an audit row is no part of any scene
  have hinsert : ∀ row, (execute (.insertAuditIfAbsent row)).Asks (Idle (scene f)) := by
    refine fun row => ⟨⟨fun c db c' r ws he w hw => ?_, by simp, by simp⟩,
      fun r => by cases r <;> trivial⟩
    obtain ⟨n, rfl⟩ := exec_writes (q := .insertAuditIfAbsent row) he w hw
    rfl
  have hrecord : ∀ reason, Closes (scene f) labLocks (Says J) (Moves J N)
      (recordRefusal context action_hash reason) := by
    intro reason
    have happend : ∀ now, Closes (scene f) labLocks (Says J) (Moves J N)
        (append_audit_event context.incident_id context.thread_id context.actor EXECUTION_REFUSED
          (some action_hash) (some reason) now context.idempotency_key) := by
      intro now
      unfold append_audit_event
      refine Closes.bind ?_ fun event => closes_idle hrefl (hinsert _)
      unfold AuditTimelineEvent.validate
      split
      · exact .ret _
      · exact .raise _
    exact Closes.input happend
  refine h.handle fun e => ?_
  cases e with
  | ApprovalDenied denied =>
    cases hreason : denied.reason with
    | none =>
      simp only [hreason]
      exact .raise _
    | some reason =>
      simp only [hreason]
      exact (hrecord reason).bind fun _ => .raise _
  | _ => exact .raise _

end

section
variable {spec : OperationSpec} {context : ToolCallContext} {action : CanonicalAction}
  {token : ApprovalToken} {J : Scene spec.fixture → Prop}
  {N : Scene spec.fixture → Scene spec.fixture → Prop}

/-- What a call does to its scene once it holds the lock: the mutation on the row it has checked,
then the settlement. -/
def Performs (spec : OperationSpec) (context : ToolCallContext) (action : CanonicalAction)
    (token : ApprovalToken) (J : Scene spec.fixture → Prop)
    (N : Scene spec.fixture → Scene spec.fixture → Prop) : Prop :=
  ∀ key now γ, ∀ r : Stored spec.fixture, context.idempotency_key = some key →
    bound spec context action = true → J γ → γ.row = some r →
    spec.fixture_present r.1 = true → spec.precondition r.1 = true →
    held (scene spec.fixture) (do
      let outcome ← spec.mutation {
        now := now, context := context, action := action,
        action_hash := canonical_action_hash action, fixture := r.1 }
      settle spec context action token key now outcome) (fun _ γ' => J γ' ∧ N γ γ') γ

lemma wp_perform {key : UUID} (h : Performs spec context action token J N)
    (hkey : context.idempotency_key = some key) (hbound : bound spec context action = true)
    {L : List Lock} {W : List Write} {db : Db} (hI : Says J db)
    (hc : ((scene spec.fixture).protection labLocks).Covers L W)
    (hW : ∀ w ∈ W, Scene.touches spec.fixture w = false) :
    wpWithin True ((scene spec.fixture).protection labLocks).Covers
      (Relied ((scene spec.fixture).protection labLocks) (Says J) fun _ _ => True) (Moves J N)
      (perform spec context action token key) (Ok fun _ L W db => Settles J N L W db) L W db := by
  refine wp_bind (wp_ok_mono (fun now L W db hidle => ?_)
    (wp_idle statementwise (idle_of_reads reads_authorize) hc hW hI))
  obtain ⟨hc, hW, hI⟩ := hidle
  refine wp_bind (wp_bind fun db' hR => ⟨fun c c' fixture ws he => ?_, fun _ _ _ _ => trivial,
    fun _ => trivial⟩)
  -- the SELECT takes the lock of the fixture row, and what follows runs under it
  obtain ⟨rfl, rfl⟩ := exec_ok_inj he
  have hsame : Scene.of spec.fixture (view (E := lab) db' W) = Scene.of spec.fixture db' :=
    (read_view W db').trans ((scene spec.fixture).foldl_untouched hW _)
  refine ⟨Part.covers_append statementwise he hc (.inl (by simp)), ?_⟩
  cases hrow : (view (E := lab) db' W).fixtures spec.fixture with
  | none => exact trivial
  | some r =>
    rw [Option.map_some, wp_ret, ok_ok]
    dsimp only
    split
    · exact trivial
    · rename_i hpresent
      split
      · exact trivial
      · rename_i hprecondition
        rw [Bool.not_eq_true, Bool.not_eq_false'] at hpresent hprecondition
        have hlocks : locks (.lockFixture spec.fixture) (view (E := lab) db' W) =
            [.fixtureRow spec.fixture] := by simp [locks, hrow]
        have hview : Scene.of spec.fixture (view (E := lab) db' (W ++ [])) =
            Scene.of spec.fixture db' := by rw [List.append_nil, hsame]
        have hrun := h key now (Scene.of spec.fixture (view (E := lab) db' (W ++ []))) r hkey
          hbound (by rw [hview]; exact hR.1.1) (by rw [List.append_nil]; exact hrow) hpresent
          hprecondition
        rw [pure_eq, wp_ret, ok_ok]
        refine wp_ok_mono (fun _ L' W' db'' hheld => ?_)
          (wp_held statementwise ?_ ?_ hR.1.1 hrun)
        · obtain ⟨hlock, -, -, hread, hJ, hN⟩ := hheld
          refine .inr ⟨hlock, hJ, ?_⟩
          rw [hview] at hN
          rwa [show Scene.of spec.fixture db'' = Scene.of spec.fixture db' from hread]
        · simp [hlocks]
        · exact Part.covers_append statementwise he hc (.inl (by simp))

lemma closes_attempt {key : UUID} (hrefl : ∀ γ, N γ γ) (h : Performs spec context action token J N)
    (hkey : context.idempotency_key = some key) (hbound : bound spec context action = true) :
    Closes (scene spec.fixture) labLocks (Says J) (Moves J N)
      (attempt spec context action token key) := by
  refine closes_refusal_recorded hrefl (closes_transaction hrefl fun db hI => ?_)
  refine wp_bind (wp_ok_mono (fun existing L W db hidle => ?_)
    (wp_idle statementwise (idle_of_reads (reads_execute (by trivial)))
      (Protection.Covers.nil _ []) (by simp) hI))
  obtain ⟨hc, hW, hI⟩ := hidle
  cases existing with
  | some existing =>
    refine wp_bind (wp_ok_mono (fun _ L W db hidle => .inl hidle.2.1)
      (wp_idle statementwise (idle_of_reads reads_replay) hc hW hI))
  | none => exact wp_bind (wp_ok_mono (fun _ _ _ _ h => h) (wp_perform h hkey hbound hI hc hW))

/-- **A call keeps what its mutation and settlement keep of the scene**, whatever other sessions do
meanwhile. -/
theorem closes_commit (hrefl : ∀ γ, N γ γ) (h : Performs spec context action token J N)
    {response_loss : Bool} : Closes (scene spec.fixture) labLocks (Says J) (Moves J N)
      (commit spec context action token response_loss) := by
  unfold commit
  split
  · exact .raise _
  · split
    · exact .raise _
    · rename_i hbound
      rw [Bool.not_eq_true, Bool.not_eq_false'] at hbound
      split
      · exact .raise _
      · rename_i key hkey
        refine (closes_attempt hrefl h hkey hbound).bind fun delivered => ?_
        unfold respond
        split
        · exact .ret _
        · split
          · exact .raise _
          · unfold ledger_result
            split
            · exact .raise _
            · exact .ret _

end

end IncidentGate.Scenes
