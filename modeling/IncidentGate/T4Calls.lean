import IncidentGate.Redelivery
import IncidentGate.Lib.JsonRead
import IncidentGate.Lib.RowLockAlone

/-!
What one call of T4's capabilities leaves of the fixture and of the ledger.

The five capabilities differ in their scope, in their precondition and in what they make of
the health of the checkout. A call alone commits one ledger row and that change, or leaves the
fixture and the ledger as they were.
-/

namespace IncidentGate.T4Calls

open Lib.ScriptTree Lib.ScriptTree.Script Lib.RowLock Lib.RowLockLogic Lib.RowLockAlone
open Lib.JsonText Lib.JsonRead
open Contracts Fixtures Tables Refusals Kernel Specs RowLocks Outcomes Redelivery

def T4_INCIDENT : String := "INC-T4"

/-- What an honest policy observes of the fixture, beside the flag of the injection. -/
structure Health where
  checkout_health : String
  checkout_http_status : Int
  feature_x : Bool
  injected : Bool
  deriving DecidableEq

def health (s : T4State) : Health :=
  ⟨s.checkout_health, s.checkout_http_status, s.feature_x, s.injected⟩

/-- The row of T4's fixture. -/
def row (db : Db) : Option T4State :=
  match db.fixtures .t4_fixture_state with
  | some r => some r.1
  | none => none

/-- The part of the database a run of T4 is about. -/
def seen (db : Db) : Option T4State × List LedgerRow := (row db, db.operation_ledger)

/-- One of T4's capabilities. -/
@[reducible] def t4_spec (scope kind : String) (precondition : T4State → Bool)
    (mutation : LockedTransaction .t4_fixture_state → Call (MutationOutcome .t4_fixture_state)) :
    OperationSpec :=
  sabotage_spec "T4" scope kind .t4_fixture_state T4State.injected precondition mutation false

/-- A refusal or a failure that the fixture has no part in: the token, the evidence or the
server. -/
def Outside : Raised → Prop
  | .Database _ | .ApprovalConflict _ => True
  | .ApprovalDenied d => d.stage = none
  | .ValidationError model => model = "AuditTimelineEvent"
  | _ => False

/-- The fixture is injected and meets the precondition. -/
def Ready (precondition : T4State → Bool) (db : Db) : Prop :=
  ∃ s, row db = some s ∧ s.injected = true ∧ precondition s = true

/-- A call on record: one more ledger row, which names it, and its change of the health. -/
structure Committed (scope kind : String) (precondition : T4State → Bool)
    (change : Health → Health) (db db' : Db) : Prop where
  ready : Ready precondition db
  health : ∃ s s', row db = some s ∧ row db' = some s' ∧ health s' = change (health s)
  ledger : ∃ r, db'.operation_ledger = db.operation_ledger ++ [r] ∧ r.operation_scope = scope ∧
    r.incident_id = T4_INCIDENT ∧ get r.result "call" = some (.str ("operations." ++ kind))

/-! ### Statements -/

variable {F : Prop} {V : Db}

lemma alone_execute {q : Stmt} {ok : Reply q → Db → Prop} {err : Raised → Db → Prop}
    (hok : ∀ c c' r ws, exec q c V = (c', .ok (r, ws)) → ok r (view (E := lab) V ws))
    (herr : ∀ e, err (.Database e) V) :
    alone (E := lab) F (execute q) (ends ok err) V :=
  ⟨fun c c' r ws he => hok c c' r ws he, fun _ _ e _ => herr e, fun _ => herr _⟩

lemma alone_clock {ok : Time → Db → Prop} {err : Raised → Db → Prop} (h : ∀ now, ok now V) :
    alone (E := lab) F clock (ends ok err) V := h

lemma alone_uuid4 {ok : UUID → Db → Prop} {err : Raised → Db → Prop} (h : ∀ u, ok u V) :
    alone (E := lab) F uuid4 (ends ok err) V := h

lemma row_updateFixture {db : Db} {old r : Stored .t4_fixture_state}
    (h : db.fixtures .t4_fixture_state = some old) :
    row (apply db (.updateFixture .t4_fixture_state r)) = some r.1 := by
  have hnew : (apply db (.updateFixture .t4_fixture_state r)).fixtures .t4_fixture_state =
      some r := by
    simp [apply, h]
  unfold row
  rw [hnew]
  rfl

lemma row_eq_some {db : Db} {s : T4State} (h : row db = some s) :
    ∃ r, db.fixtures .t4_fixture_state = some r ∧ r.1 = s := by
  unfold row at h
  split at h
  · exact ⟨_, ‹_›, Option.some.inj h⟩
  · cases h

lemma row_eq_map (db : Db) : row db = (db.fixtures .t4_fixture_state).map (·.1) := by
  unfold row
  split <;> rename_i h <;> rw [h] <;> rfl

lemma alone_updateFixture {s : T4State} (hrow : row V = some s) {set : T4State → T4State}
    {ok : Bool → Db → Prop} {err : Raised → Db → Prop}
    (hok : ∀ b db', row db' = some (set s) → db'.operation_ledger = V.operation_ledger → ok b db')
    (herr : ∀ e, err (.Database e) V) :
    alone (E := lab) F (execute (.updateFixture .t4_fixture_state set)) (ends ok err) V := by
  refine alone_execute (fun c c' b ws he => ?_) herr
  obtain ⟨old, hf, rfl⟩ := row_eq_some hrow
  simp only [exec, hf, updateRow] at he
  split_ifs at he with hc hk
  · obtain ⟨-, rfl⟩ := exec_ok_inj he
    exact hok b _ (row_updateFixture hf) rfl
  · simp at he
  · simp at he

/-! ### The steps of a delivery -/

section
variable {scope kind : String} {precondition : T4State → Bool}
  {mutation : LockedTransaction .t4_fixture_state → Call (MutationOutcome .t4_fixture_state)}
  {change : Health → Health} {X : Raised → Prop} {context : ToolCallContext}
  {action : CanonicalAction} {token : ApprovalToken} {key : UUID}

lemma alone_read {q : Stmt} {ok : Reply q → Db → Prop} {err : Raised → Db → Prop}
    (hq : ∀ c c' r ws, exec q c V = (c', .ok (r, ws)) → ws = [] ∧ ok r V)
    (herr : ∀ e, err (.Database e) V) :
    alone (E := lab) F (execute q) (ends ok err) V :=
  alone_execute (fun c c' r ws he => by
    obtain ⟨rfl, hr⟩ := hq c c' r ws he
    exact hr) herr

lemma alone_validate_approval {action_hash : ActionHash} {approval : Option ApprovalRow}
    {now : Time} : alone (E := lab) F (validate_approval context action_hash token approval now)
      (ends (fun _ V' => V' = V) fun e _ => Outside e) V := by
  simp only [validate_approval]
  split
  · exact (rfl : (none : Option RefusalStage) = none)
  · rfl

lemma alone_validate_evidence {evidence_ids : List String} {now : Time} :
    alone (E := lab) F (validate_evidence context evidence_ids now)
      (ends (fun _ V' => V' = V) fun e _ => Outside e) V := by
  refine alone_bind (alone_read (fun c c' r ws he => ?_) fun e => trivial)
  simp only [exec] at he
  split at he
  · obtain ⟨-, rfl⟩ := exec_ok_inj he
    refine ⟨rfl, ?_⟩
    split
    · exact (rfl : (none : Option RefusalStage) = none)
    · rfl
  · simp at he

lemma alone_authorize : alone (E := lab) F (authorize context action token)
    (ends (fun _ V' => V' = V) fun e _ => Outside e) V := by
  refine alone_bind (alone_read (fun c c' approval ws he => ?_) fun e => trivial)
  obtain ⟨-, rfl⟩ := exec_ok_inj he
  refine ⟨rfl, alone_bind (alone_clock fun now => alone_bind ?_)⟩
  refine alone_mono (fun r V' h => ?_) alone_validate_approval
  cases r with
  | error e => exact h
  | ok _ =>
    obtain rfl : V' = V := h
    refine alone_bind (alone_mono (fun r V'' h => ?_) alone_validate_evidence)
    cases r with
    | error e => exact h
    | ok _ => exact h

lemma alone_replay {existing : LedgerRow} {spec : OperationSpec} :
    alone (E := lab) F (replay spec context action token existing)
      (ends (fun result V' => result.status = .DUPLICATE ∧ V' = V) fun _ _ => True) V := by
  refine alone_bind (alone_read (fun c c' approval ws he => ?_) fun e => trivial)
  obtain ⟨-, rfl⟩ := exec_ok_inj he
  refine ⟨rfl, alone_bind ?_⟩
  unfold validate_replay
  split
  · trivial
  · split
    · trivial
    · show alone (E := lab) F (ledger_result _ _ _) _ V
      unfold ledger_result
      split
      · trivial
      · exact ⟨rfl, rfl⟩

lemma alone_lock_fixture : alone (E := lab) F
    (lock_fixture (t4_spec scope kind precondition mutation))
    (ends (fun (s : T4State) V' => V' = V ∧ row V = some s ∧ s.injected = true ∧
      precondition s = true) fun e _ => Outside e ∨ ¬ Ready precondition V) V := by
  refine alone_bind (alone_read (fun c c' found ws he => ?_) fun e => .inl trivial)
  obtain ⟨hfound, rfl⟩ := exec_ok_inj he
  have hrow : row V = found := (row_eq_map V).trans hfound
  refine ⟨rfl, ?_⟩
  cases found with
  -- no row, not injected or out of the precondition: each is a refusal
  | none =>
    refine Or.inr ?_
    rintro ⟨s, hs, -⟩
    rw [hrow] at hs
    cases hs
  | some s =>
    have hunready : ∀ {P : T4State → Prop}, ¬ P s → ¬ ∃ s', row V = some s' ∧ P s' := by
      rintro P hP ⟨s', hs', h⟩
      obtain rfl : s = s' := Option.some.inj (hrow.symm.trans hs')
      exact hP h
    dsimp only
    split
    · rename_i hinj
      have hinj : (!T4State.injected s) = true := hinj
      exact Or.inr (hunready fun h => by simp [h.1] at hinj)
    · rename_i hinj
      have hinj : ¬ (!T4State.injected s) = true := hinj
      split
      · rename_i hpre
        have hpre : (!precondition s) = true := hpre
        exact Or.inr (hunready fun h => by simp [h.2] at hpre)
      · rename_i hpre
        have hpre : ¬ (!precondition s) = true := hpre
        exact ⟨rfl, hrow, by simpa using hinj, by simpa using hpre⟩

lemma health_counted {now : Time} {outcome : MutationOutcome .t4_fixture_state}
    (htouch : outcome.fixture_touch = id) (s : T4State) :
    health (counted (t4_spec scope kind precondition mutation) now outcome s) = health s := by
  show health (T4State.mk _ _ _ _ _ _ _) = _
  simp only [htouch]
  rfl

lemma alone_count_mutation {now : Time} {outcome : MutationOutcome .t4_fixture_state}
    (htouch : outcome.fixture_touch = id) {s : T4State} (hrow : row V = some s) :
    alone (E := lab) F (count_mutation (t4_spec scope kind precondition mutation) now outcome)
      (ends (fun _ V' => V'.operation_ledger = V.operation_ledger ∧
        ∃ s', row V' = some s' ∧ health s' = health s) fun e _ => Outside e) V := by
  unfold count_mutation
  split
  · refine alone_bind (alone_updateFixture hrow (fun _ V' hrow' hledger => ?_) fun _ => trivial)
    exact ⟨hledger, _, hrow', health_counted htouch s⟩
  · exact ⟨rfl, s, hrow, rfl⟩

lemma alone_consume {now : Time} :
    alone (E := lab) F (execute (.consumeApproval token.token_id now))
    (ends (fun _ V' => seen V' = seen V) fun e _ => Outside e) V := by
  refine alone_execute (fun c c' r ws he => ?_) fun _ => trivial
  simp only [exec] at he
  split at he
  · obtain ⟨-, rfl⟩ := exec_ok_inj he
    rfl
  · obtain ⟨-, rfl⟩ := exec_ok_inj he
    rfl

lemma alone_settle {now : Time} {outcome : MutationOutcome .t4_fixture_state}
    (htouch : outcome.fixture_touch = id) {s : T4State} (hrow : row V = some s) :
    alone (E := lab) F
      (settle (t4_spec scope kind precondition mutation) context action token key now outcome)
      (ends (fun ledger V' => (∃ s', row V' = some s' ∧ health s' = health s) ∧
        ledger = ledgerFields (t4_spec scope kind precondition mutation) context action token key
          now outcome.result ∧
        ∃ n, V'.operation_ledger = V.operation_ledger ++ [⟨ledger, n⟩])
        fun e _ => Outside e) V := by
  refine alone_bind (alone_execute (fun c c' _ ws he => ?_) fun _ => trivial)
  obtain ⟨-, -, -, -, rfl⟩ := exec_insertLedger_ok he
  refine alone_bind (alone_mono (fun r V₁ h => ?_) (alone_count_mutation htouch (s := s) hrow))
  cases r with
  | error e => exact h
  | ok _ =>
    obtain ⟨hledger, s', hrow', hhealth⟩ := h
    -- no capability of T4 emits an audit fact
    refine alone_bind (show alone (E := lab) F (ret ()) _ V₁ from ?_)
    refine alone_bind (alone_mono (fun r V₂ h => ?_) alone_consume)
    cases r with
    | error e => exact h
    | ok _ =>
      obtain ⟨hrow₂, hledger₂⟩ := Prod.mk.inj h
      exact ⟨⟨s', hrow₂.trans hrow', hhealth⟩, rfl, _, hledger₂.trans hledger⟩

/-- What a mutation of T4 does to the health, and the name it gives the call. -/
def Mutates (kind : String)
    (mutation : LockedTransaction .t4_fixture_state → Call (MutationOutcome .t4_fixture_state))
    (change : Health → Health) : Prop :=
  ∀ (t : LockedTransaction .t4_fixture_state) (V : Db), row V = some t.fixture →
    t.action.arguments.kind = kind → alone (E := lab) True (mutation t)
      (ends (fun o V' => o.fixture_touch = id ∧
        get o.result "call" = some (.str ("operations." ++ kind)) ∧
        V'.operation_ledger = V.operation_ledger ∧
        ∃ s', row V' = some s' ∧ health s' = change (health t.fixture)) fun e _ => Outside e) V

lemma alone_perform (hmut : Mutates kind mutation change) (hkind : action.arguments.kind = kind)
    (hincident : context.incident_id = T4_INCIDENT) : alone (E := lab) True
      (perform (t4_spec scope kind precondition mutation) context action token key)
      (ends (fun ledger V' => Committed scope kind precondition change V V' ∧ ∃ now result,
          ledger = ledgerFields (t4_spec scope kind precondition mutation) context action token key
            now result)
        fun e _ => Outside e ∨ ¬ Ready precondition V) V := by
  -- the approval, the fixture, the mutation and the settlement, in this order
  refine alone_bind (alone_mono (fun r V' h => ?_) alone_authorize)
  cases r with
  | error e => exact .inl h
  | ok now =>
    obtain rfl : V' = V := h
    refine alone_bind (alone_mono (fun r V₁ h => ?_) alone_lock_fixture)
    cases r with
    | error e => exact h
    | ok s =>
      obtain ⟨rfl, hrow, hready⟩ := h
      refine alone_bind (alone_mono (fun r V₂ h => ?_) (hmut _ V₁ hrow hkind))
      cases r with
      | error e => exact .inl h
      | ok outcome =>
        obtain ⟨htouch, hcall, hledger, s', hrow', hchange⟩ := h
        refine alone_mono (fun r V₃ h => ?_) (alone_settle htouch hrow')
        cases r with
        | error e => exact .inl h
        | ok ledger =>
          obtain ⟨⟨s'', hrow'', hhealth⟩, rfl, n, hrows⟩ := h
          exact ⟨⟨⟨s, hrow, hready⟩, ⟨s, s'', hrow, hrow'', hhealth.trans hchange⟩,
            ⟨_, hrows.trans (by rw [hledger]), rfl, hincident, hcall⟩⟩, now, outcome.result, rfl⟩

/-- A delivery is a duplicate of a row under its key, or a first one. -/
lemma alone_deliver_t4 (hmut : Mutates kind mutation change)
    (hkind : action.arguments.kind = kind) (hincident : context.incident_id = T4_INCIDENT) :
    alone (E := lab) True
      (deliver (t4_spec scope kind precondition mutation) context action token key)
      (ends (fun r V' => (∃ ledger, r = .inr ledger ∧
            Committed scope kind precondition change V V' ∧ ∃ now result,
            ledger = ledgerFields (t4_spec scope kind precondition mutation) context action token
              key now result) ∨
          V' = V ∧ V.findLedger scope key ≠ none)
        fun e _ => V.findLedger scope key ≠ none ∨ Outside e ∨ ¬ Ready precondition V) V := by
  refine alone_bind (alone_read (fun c c' existing ws he => ?_) fun e => .inr (.inl trivial))
  obtain ⟨hfound, rfl⟩ := exec_ok_inj he
  refine ⟨rfl, ?_⟩
  cases existing with
  | some existing =>
    have hfound : V.findLedger scope key ≠ none := by
      rw [show V.findLedger scope key = some existing from hfound]
      simp
    refine alone_bind (alone_mono (fun r V' h => ?_) alone_replay)
    cases r with
    | error e => exact .inl hfound
    | ok result => exact .inr ⟨h.2, hfound⟩
  | none =>
    refine alone_bind (alone_mono (fun r V' h => ?_) (alone_perform hmut hkind hincident))
    cases r with
    | error e => exact .inr h
    | ok ledger => exact .inl ⟨ledger, rfl, h⟩

/-! ### A call alone -/

lemma solo_transaction {w : World lab} {σ : Solo lab} (hidle : σ.wrote = []) {body : Call α}
    {ok : α → Db → Prop} {err : Raised → Prop}
    (h : alone (E := lab) True body (ends ok fun e _ => err e) σ.db) :
    (solo w (transaction body) σ).2.wrote = [] ∧
      ends ok (fun e db' => err e ∧ db' = σ.db) (solo w (transaction body) σ).1
        (solo w (transaction body) σ).2.db := by
  have hbody := solo_alone (w := w) (σ := σ) (fun _ _ => trivial) (by rwa [hidle])
  unfold transaction
  rw [solo_elim]
  generalize (solo w body σ).1 = r at hbody ⊢
  cases r with
  | ok a => exact ⟨rfl, hbody.1⟩
  | error e => exact ⟨rfl, hbody.1, hbody.2⟩

lemma solo_within {w : World lab} {S : Op lab → Prop} {R : Raised → Prop} {p : Call α}
    (hp : p.Within S R) {σ : Solo lab} {e : Raised} (h : (solo w p σ).1 = .error e) : R e := by
  induction p generalizing σ with
  | ret a => cases h
  | raise e' =>
    cases h
    exact hp
  | ask q k ih =>
    cases q with
    | stmt q =>
      simp only [solo] at h
      split at h
      · exact ih _ (hp.2 _) h
      · split at h
        · exact ih _ (hp.2 _) h
        · exact ih _ (hp.2 _) h
    | commit => exact ih _ (hp.2 _) h
    | rollback => exact ih _ (hp.2 _) h
    | input i => exact ih _ (hp.2 _) h

lemma within_recordRefusal {action_hash : ActionHash} {reason : String} :
    (recordRefusal context action_hash reason).Within (fun _ => True) Outside := by
  refine ⟨trivial, fun now => ?_⟩
  show (append_audit_event _ _ _ _ _ _ _ _).Within _ _
  unfold append_audit_event AuditTimelineEvent.validate
  split
  · exact ⟨trivial, fun r => by cases r <;> exact ⟨trivial, fun _ => trivial⟩⟩
  · exact rfl

lemma solo_recordRefusal {w : World lab} {σ : Solo lab} (hidle : σ.wrote = [])
    {action_hash : ActionHash} {reason : String} :
    (solo w (recordRefusal context action_hash reason) σ).2.wrote = [] ∧
      seen (solo w (recordRefusal context action_hash reason) σ).2.db = seen σ.db := by
  have hrecord := @alone_recordRefusal context True (fun _ _ => True) σ.db action_hash reason
    fun _ _ => trivial
  obtain ⟨L, -, hwrote, h⟩ := solo_of_still (w := w) (fun _ _ => trivial) hidle hrecord
  refine ⟨hwrote, ?_⟩
  obtain ⟨-, hdb⟩ | ⟨-, row, -, hdb⟩ := h
  · rw [hdb]
  · rw [hdb]
    rfl

lemma solo_attempt {w : World lab} {σ : Solo lab} (hidle : σ.wrote = [])
    (hmut : Mutates kind mutation change) (hkind : action.arguments.kind = kind)
    (hincident : context.incident_id = T4_INCIDENT) {out : Except Raised _ × Solo lab}
    (hout : out = solo w
      (attempt (t4_spec scope kind precondition mutation) context action token key) σ) :
    out.2.wrote = [] ∧ ((∃ ledger now result, out.1 = .ok (.inr ledger) ∧
        Committed scope kind precondition change σ.db out.2.db ∧
        ledger = ledgerFields (t4_spec scope kind precondition mutation) context action token key
          now result) ∨
      seen out.2.db = seen σ.db ∧ (σ.db.findLedger scope key ≠ none ∨
        ∃ e, out.1 = .error e ∧ (Outside e ∨ ¬ Ready precondition σ.db))) := by
  subst hout
  have hdeliver := @alone_deliver_t4 σ.db scope kind precondition mutation change context action
    token key hmut hkind hincident
  obtain ⟨hwrote, hends⟩ := solo_transaction (w := w) hidle hdeliver
  unfold attempt refusal_recorded
  rw [handle_eq_elim, solo_elim]
  generalize solo w (transaction (deliver (t4_spec scope kind precondition mutation) context action
    token key)) σ = out at hwrote hends ⊢
  obtain ⟨r, τ⟩ := out
  cases r with
  -- the body committed: its row, or a row that was there already
  | ok d =>
    refine ⟨hwrote, ?_⟩
    obtain ⟨ledger, rfl, hcommitted, now, result, hledger⟩ | ⟨hdb, hfound⟩ := hends
    · exact .inl ⟨ledger, now, result, rfl, hcommitted, hledger⟩
    · exact .inr ⟨congrArg seen hdb, .inl hfound⟩
  -- the body was rolled back, and the record of a refusal reaches neither table
  | error e =>
    obtain ⟨he, hdb⟩ := hends
    have hseen : seen τ.db = seen σ.db := congrArg seen hdb
    have hraised : ∀ {x : Raised}, (x = e ∨ Outside x) → σ.db.findLedger scope key ≠ none ∨
        ∃ e', (Except.error x : Except Raised (OperationLedgerResult ⊕ LedgerFields)) = .error e' ∧
          (Outside e' ∨ ¬ Ready precondition σ.db) := by
      rintro x (rfl | hx)
      · exact he.imp_right fun h => ⟨x, rfl, h⟩
      · exact .inr ⟨x, rfl, .inl hx⟩
    cases e with
    | ApprovalDenied d =>
      dsimp only
      split
      · exact ⟨hwrote, .inr ⟨hseen, hraised (.inl rfl)⟩⟩
      · rename_i reason _
        have hrecord := @solo_recordRefusal context w τ hwrote (canonical_action_hash action)
          reason
        have hwithin : ∀ {e}, (solo w (recordRefusal context (canonical_action_hash action) reason)
            τ).1 = .error e → Outside e := solo_within within_recordRefusal
        simp only [bind_eq, bind_eq_elim, solo_elim]
        generalize solo w (recordRefusal context (canonical_action_hash action) reason) τ = out
          at hrecord hwithin ⊢
        obtain ⟨r, υ⟩ := out
        cases r with
        | ok _ => exact ⟨hrecord.1, .inr ⟨hrecord.2.trans hseen, hraised (.inl rfl)⟩⟩
        | error e =>
          exact ⟨hrecord.1, .inr ⟨hrecord.2.trans hseen, hraised (.inr (hwithin rfl))⟩⟩
    | _ => exact ⟨hwrote, .inr ⟨hseen, hraised (.inl rfl)⟩⟩

/-- What a call of the capability may leave. -/
structure Called (scope kind : String) (precondition : T4State → Bool) (change : Health → Health)
    (db : Db) (response_loss : Bool) (r : Except Raised OperationLedgerResult) (db' : Db) :
    Prop where
  left : Committed scope kind precondition change db db' ∨ seen db' = seen db
  /-- A first delivery of a bound call succeeds, or is refused from outside. -/
  first : (∀ row ∈ db.operation_ledger, row.operation_scope ≠ scope) → Ready precondition db →
    response_loss = false →
    (∃ result, r = .ok result ∧ result.status = .SUCCEEDED ∧
      Committed scope kind precondition change db db') ∨
    ∃ e, r = .error e ∧ Outside e ∧ seen db' = seen db

lemma findLedger_of_scope {db : Db} (h : ∀ row ∈ db.operation_ledger, row.operation_scope ≠ scope) :
    db.findLedger scope key = none :=
  List.find?_eq_none.mpr fun row hrow => by simp [LedgerFields.hasKey, h row hrow]

lemma solo_commit_bound {w : World lab} {σ : Solo lab} (hidle : σ.wrote = [])
    {response_loss : Bool} (hmut : Mutates kind mutation change)
    (hkind : action.arguments.kind = kind) (hincident : context.incident_id = T4_INCIDENT)
    (hkey : context.idempotency_key = some key) {out : Except Raised _ × Solo lab}
    (hout : out = solo w ((attempt (t4_spec scope kind precondition mutation) context action token
      key).bind (respond (t4_spec scope kind precondition mutation) response_loss)) σ) :
    out.2.wrote = [] ∧
      Called scope kind precondition change σ.db response_loss out.1 out.2.db := by
  subst hout
  rw [bind_eq_elim, solo_elim]
  obtain ⟨hwrote, h⟩ := solo_attempt hidle hmut hkind hincident (rfl : solo w (attempt
    (t4_spec scope kind precondition mutation) context action token key) σ = _)
  generalize solo w (attempt (t4_spec scope kind precondition mutation) context action token key) σ
    = out at hwrote h ⊢
  obtain ⟨r, τ⟩ := out
  obtain ⟨ledger, now, result, rfl, hcommitted, hledger⟩ | ⟨hseen, h⟩ := h
  · -- committed, and answered unless the response is lost
    have hread : ledger_result ledger .SUCCEEDED
        (t4_spec scope kind precondition mutation).operation_scope = ret _ :=
      @ledger_result_of_written _ _ _ _ _ ⟨ledger, 0⟩ hkey ⟨now, result, hledger⟩ .SUCCEEDED
    dsimp only [respond]
    split
    · rename_i hloss
      exact ⟨hwrote, .inl hcommitted, fun _ _ h => by simp [h] at hloss⟩
    · rw [hread]
      exact ⟨hwrote, .inl hcommitted, fun _ _ _ => .inl ⟨_, rfl, rfl, hcommitted⟩⟩
  · -- not committed: without a row in its scope the call was unready, or failed from outside
    cases r with
    | ok d =>
      dsimp only
      rw [solo_respond]
      refine ⟨hwrote, .inr hseen, fun hscope _ _ => ?_⟩
      obtain hfound | ⟨e, he, -⟩ := h
      · exact absurd (findLedger_of_scope hscope) hfound
      · cases he
    | error e =>
      refine ⟨hwrote, .inr hseen, fun hscope hready _ => ?_⟩
      obtain hfound | ⟨e', he, hcause⟩ := h
      · exact absurd (findLedger_of_scope hscope) hfound
      · obtain rfl : e = e' := by simpa using he
        exact .inr ⟨e, rfl, hcause.resolve_right fun hunready => hunready hready, hseen⟩

lemma bound_incident (h : bound (t4_spec scope kind precondition mutation) context action = true) :
    context.incident_id = T4_INCIDENT := by
  simp only [bound, Bool.and_eq_true, decide_eq_true_eq] at h
  exact h.1.1.1.1.1.1.1.1

lemma kind_of_guard {message : String} (h : argument_guard kind message action = none) :
    action.arguments.kind = kind := by
  unfold argument_guard at h
  split at h
  · assumption
  · cases h

/-- A call of one of T4's capabilities, whatever its context, its action and its token. -/
theorem solo_commit_t4 {w : World lab} {σ : Solo lab} (hidle : σ.wrote = [])
    {response_loss : Bool} (hmut : Mutates kind mutation change)
    {out : Except Raised _ × Solo lab}
    (hout : out = solo w
      (commit (t4_spec scope kind precondition mutation) context action token response_loss) σ) :
    out.2.wrote = [] ∧ (Committed scope kind precondition change σ.db out.2.db ∨
      seen out.2.db = seen σ.db) ∧
      ((t4_spec scope kind precondition mutation).validate_arguments action = none →
        bound (t4_spec scope kind precondition mutation) context action = true →
        context.idempotency_key ≠ none →
        Called scope kind precondition change σ.db response_loss out.1 out.2.db) := by
  subst hout
  unfold commit
  split
  · -- each check refuses before anything is asked
    rename_i e hargs
    exact ⟨hidle, .inr rfl, fun h => by simp [h] at hargs⟩
  · rename_i hargs
    split
    · rename_i hbound
      exact ⟨hidle, .inr rfl, fun _ h => by simp [h] at hbound⟩
    · rename_i hbound
      rw [Bool.not_eq_true', Bool.not_eq_false] at hbound
      split
      · rename_i hkey
        exact ⟨hidle, .inr rfl, fun _ _ h => absurd hkey h⟩
      · rename_i key hkey
        obtain ⟨hwrote, hcalled⟩ := solo_commit_bound hidle hmut (kind_of_guard hargs)
          (bound_incident hbound) hkey (rfl : solo w ((attempt (t4_spec scope kind precondition
            mutation) context action token key).bind (respond _ response_loss)) σ = _)
        exact ⟨hwrote, hcalled.left, fun _ _ _ => hcalled⟩

end

/-! ### The mutations -/

lemma alone_t4_snapshot {tool_name : String} {s : T4State} (hrow : row V = some s) :
    alone (E := lab) F (t4_snapshot tool_name)
      (ends (fun result V' => V' = V ∧ get result "call" = some (.str tool_name))
        fun e _ => Outside e) V := by
  refine alone_bind (alone_read (fun c c' found ws he => ?_) fun e => trivial)
  obtain ⟨hfound, rfl⟩ := exec_ok_inj he
  obtain rfl : found = some s := hfound.symm.trans ((row_eq_map V).symm.trans hrow)
  refine ⟨rfl, rfl, ?_⟩
  rw [get_dict (by simp)]
  rfl

lemma mutates_read {kind : String} :
    Mutates kind (t4_read_mutation ("operations." ++ kind)) id := by
  intro t V hrow _
  refine alone_bind (alone_mono (fun r V' h => ?_) (alone_t4_snapshot hrow))
  cases r with
  | error e => exact h
  | ok result =>
    obtain ⟨rfl, hcall⟩ := h
    exact ⟨rfl, hcall, rfl, t.fixture, hrow, rfl⟩

lemma alone_update_snapshot {kind : String} {s : T4State} (hrow : row V = some s)
    {set : T4State → T4State} : alone (E := lab) F
      ((update .t4_fixture_state set).bind fun _ =>
        (t4_snapshot ("operations." ++ kind)).bind fun result => ret { result := result })
      (ends (fun (o : MutationOutcome .t4_fixture_state) V' => o.fixture_touch = id ∧
        get o.result "call" = some (.str ("operations." ++ kind)) ∧
        V'.operation_ledger = V.operation_ledger ∧
        ∃ s', row V' = some s' ∧ health s' = health (set s)) fun e _ => Outside e) V := by
  refine alone_bind (alone_bind (alone_updateFixture hrow (fun _ V' hrow' hledger => ?_)
    fun _ => trivial))
  refine alone_bind (alone_mono (fun r V'' h => ?_) (alone_t4_snapshot hrow'))
  cases r with
  | error e => exact h
  | ok result =>
    obtain ⟨rfl, hcall⟩ := h
    exact ⟨rfl, hcall, hledger, _, hrow', rfl⟩

def repaired (h : Health) : Health := ⟨"healthy", 200, false, h.injected⟩

lemma mutates_repair {kind : String} :
    Mutates kind (t4_repair_mutation ("operations." ++ kind)) repaired :=
  fun _ _ hrow _ => alone_update_snapshot hrow

lemma mutates_flag {kind : String} {set : Bool → T4State → T4State}
    {argument : ActionArguments → Option Bool} (hset : ∀ v s, health (set v s) = health s)
    (hargument : ∀ a : ActionArguments, a.kind = kind → (argument a).isSome) :
    Mutates kind (t4_flag_mutation ("operations." ++ kind) set argument) id := by
  intro t V hrow hkind
  obtain ⟨v, hv⟩ := Option.isSome_iff_exists.mp (hargument _ hkind)
  unfold t4_flag_mutation
  rw [hv]
  refine alone_mono (fun r V' h => ?_) (alone_update_snapshot hrow)
  cases r with
  | error e => exact h
  | ok o =>
    obtain ⟨htouch, hcall, hledger, s', hrow', hhealth⟩ := h
    exact ⟨htouch, hcall, hledger, s', hrow', hhealth.trans (hset v t.fixture)⟩

/-- The two flags a covert policy sets. -/
def flag_specs : List OperationSpec :=
  [T4_set_checkout_maintenance_mode, T4_set_checkout_traffic_drain]

lemma mutates_maintenance : Mutates "set_checkout_maintenance_mode"
    T4_set_checkout_maintenance_mode.mutation id := by
  dsimp only [T4_set_checkout_maintenance_mode, sabotage_spec]
  refine mutates_flag (fun _ _ => rfl) ?_
  intro a ha
  cases a <;> first | rfl | simp [ActionArguments.kind] at ha

lemma mutates_drain : Mutates "set_checkout_traffic_drain"
    T4_set_checkout_traffic_drain.mutation id := by
  dsimp only [T4_set_checkout_traffic_drain, sabotage_spec]
  refine mutates_flag (fun _ _ => rfl) ?_
  intro a ha
  cases a <;> first | rfl | simp [ActionArguments.kind] at ha

lemma solo_flag {spec : OperationSpec} (hspec : spec ∈ flag_specs) {w : World lab} {σ : Solo lab}
    (hidle : σ.wrote = []) {context : ToolCallContext} {action : CanonicalAction}
    {token : ApprovalToken} {response_loss : Bool} {out : Except Raised _ × Solo lab}
    (hout : out = solo w (commit spec context action token response_loss) σ) :
    out.2.wrote = [] ∧ ((∃ kind, spec.tool_name = "operations." ++ kind ∧
        Committed spec.operation_scope kind unconditional id σ.db out.2.db) ∨
      seen out.2.db = seen σ.db) := by
  simp only [flag_specs, List.mem_cons, List.not_mem_nil, or_false] at hspec
  rcases hspec with rfl | rfl
  · obtain ⟨hwrote, hleft, -⟩ := solo_commit_t4 hidle mutates_maintenance hout
    exact ⟨hwrote, hleft.imp_left fun h => ⟨_, rfl, h⟩⟩
  · obtain ⟨hwrote, hleft, -⟩ := solo_commit_t4 hidle mutates_drain hout
    exact ⟨hwrote, hleft.imp_left fun h => ⟨_, rfl, h⟩⟩

/-! ### The order of the ledger -/

/-- The ledger rows of the incident, as they were written. -/
def own (db : Db) : List LedgerRow := db.operation_ledger.filter (·.incident_id = T4_INCIDENT)

/-- The incident's rows are numbered in the order they were written, below the counter. -/
structure Numbered (c : Counters) (db : Db) : Prop where
  increasing : (own db).Pairwise fun a b => a.sequence < b.sequence
  below : ∀ r ∈ own db, r.sequence ≤ c.ledger

lemma Numbered.mono {c c' : Counters} {db : Db} (h : Numbered c db) (hc : c.ledger ≤ c'.ledger) :
    Numbered c' db := ⟨h.increasing, fun r hr => (h.below r hr).trans hc⟩

lemma Numbered.ordered {c : Counters} {db : Db} (h : Numbered c db) :
    db.ordered T4_INCIDENT = own db :=
  List.Pairwise.insertionSort_eq (h.increasing.imp fun hab => hab.le)

lemma exec_counters {R : Type} {c c' : Counters} {r r' : R} {ws ws' : List Write}
    (h : (c, (.ok (r, ws) : Except DbError (R × List Write))) = (c', .ok (r', ws'))) :
    c' = c ∧ ws' = ws := ⟨(Prod.mk.inj h).1.symm, (exec_ok_inj h).2.symm⟩

lemma exec_ledger {q : Stmt} {c c' : Counters} {db : Db} {r : Reply q} {ws : List Write}
    (h : exec q c db = (c', .ok (r, ws))) : c.ledger ≤ c'.ledger ∧
      ((view (E := lab) db ws).operation_ledger.Sublist db.operation_ledger ∨
        ∃ row, (view (E := lab) db ws).operation_ledger = db.operation_ledger ++ [row] ∧
          row.sequence = c.ledger + 1 ∧ c'.ledger = c.ledger + 1 ∧ ∃ f, q = .insertLedger f) := by
  cases q with
  -- the one statement that adds a row, under the next number
  | insertLedger f =>
    obtain ⟨-, -, -, rfl, rfl⟩ := exec_insertLedger_ok h
    exact ⟨Nat.le_succ _, .inr ⟨_, rfl, rfl, rfl, f, rfl⟩⟩
  | deleteLedger s k i =>
    simp only [exec] at h
    split at h
    · obtain ⟨rfl, rfl⟩ := exec_counters h
      refine ⟨le_rfl, .inl ?_⟩
      split
      · exact List.filter_sublist
      · exact List.Sublist.refl _
    · obtain ⟨rfl, rfl⟩ := exec_counters h
      exact ⟨le_rfl, .inl (List.Sublist.refl _)⟩
  | updateFixture f set =>
    simp only [exec] at h
    split at h
    · obtain ⟨rfl, rfl⟩ := exec_counters h
      exact ⟨le_rfl, .inl (List.Sublist.refl _)⟩
    · split at h
      · obtain ⟨rfl, rfl⟩ := exec_counters h
        exact ⟨le_rfl, .inl (List.Sublist.refl _)⟩
      · simp at h
  | deleteApproval t i =>
    simp only [exec] at h
    split at h
    · split at h <;> obtain ⟨rfl, rfl⟩ := exec_counters h <;>
        exact ⟨le_rfl, .inl (List.Sublist.refl _)⟩
    · obtain ⟨rfl, rfl⟩ := exec_counters h
      exact ⟨le_rfl, .inl (List.Sublist.refl _)⟩
  -- the rest leaves the ledger, or takes from it
  | _ =>
    simp only [exec] at h
    (try split_ifs at h) <;> first
      | (obtain ⟨rfl, rfl⟩ := exec_counters h; exact ⟨le_rfl, .inl (List.Sublist.refl _)⟩)
      | simp at h

lemma exec_error_ledger {q : Stmt} {c c' : Counters} {db : Db} {e : DbError}
    (h : exec q c db = (c', .error e)) : c.ledger ≤ c'.ledger := by
  cases q with
  | updateFixture f set =>
    simp only [exec] at h
    split at h
    · simp at h
    · split at h
      · simp at h
      · exact (Prod.mk.inj h).1 ▸ le_rfl
  | deleteLedger s k i =>
    simp only [exec] at h
    split at h <;> simp at h
  | deleteApproval t i =>
    simp only [exec] at h
    split at h
    · split at h <;> simp at h
    · simp at h
  | _ =>
    simp only [exec] at h
    (try split_ifs at h) <;>
      (obtain ⟨rfl, -⟩ := Prod.mk.inj h; first | exact le_rfl | exact Nat.le_succ _)

lemma Numbered.step {q : Stmt} {c c' : Counters} {db : Db} {r : Reply q} {ws : List Write}
    (hn : Numbered c db) (h : exec q c db = (c', .ok (r, ws))) :
    Numbered c' (view (E := lab) db ws) := by
  obtain ⟨hc, hsub | ⟨row, hrows, hnumber, hc', -⟩⟩ := exec_ledger h
  · have hown : (own (view (E := lab) db ws)).Sublist (own db) := hsub.filter _
    exact ⟨hn.increasing.sublist hown, fun r hr => (hn.below r (hown.subset hr)).trans hc⟩
  · have hown : own (view (E := lab) db ws) =
        own db ++ [row].filter (·.incident_id = T4_INCIDENT) := by
      rw [own, hrows, List.filter_append]
      rfl
    have hlast : ∀ r ∈ [row].filter (·.incident_id = T4_INCIDENT), r.sequence = c.ledger + 1 := by
      intro r hr
      obtain rfl : r = row := by simpa using List.mem_of_mem_filter hr
      exact hnumber
    constructor
    · rw [hown]
      refine List.pairwise_append.mpr ⟨hn.increasing, ?_, fun a ha b hb => ?_⟩
      · exact (List.pairwise_singleton _ _).sublist List.filter_sublist
      · have := hn.below a ha
        have := hlast b hb
        omega
    · rw [hown]
      intro r hr
      rcases List.mem_append.mp hr with hr | hr
      · exact (hn.below r hr).trans hc
      · exact (hlast r hr).trans hc'.symm |>.le

/-- Numbers follow the order of writing through any program alone. -/
theorem solo_numbered {w : World lab} {p : Call α} {σ : Solo lab} (h : Numbered σ.seq σ.db)
    (hview : Numbered σ.seq (view σ.db σ.wrote)) :
    Numbered (solo w p σ).2.seq (solo w p σ).2.db := by
  induction p generalizing σ with
  | ret a => exact h
  | raise e => exact h
  | ask q k ih =>
    cases q with
    | stmt q =>
      simp only [solo]
      split
      · exact ih _ h hview
      · split
        · rename_i he
          refine ih _ (h.mono (exec_ledger he).1) ?_
          rw [view_append]
          exact hview.step he
        · rename_i he
          exact ih _ (h.mono (exec_error_ledger he)) (hview.mono (exec_error_ledger he))
    | commit => exact ih _ hview hview
    | rollback => exact ih _ h h
    | input i => exact ih _ h hview

/-! ### Everyone else -/

/-- Neither the ledger nor T4's fixture. -/
def limits : Limits where
  insertLedger := False
  deleteLedger _ := False
  fixture := (· ≠ .t4_fixture_state)

/-- A question that reaches neither of them. -/
def Bystander : Op lab → Prop := limits.Allows

lemma seen_apply {w : Write} (h : limits.Leaves (fun _ _ => False) (fun _ => True) w) (db : Db) :
    seen (apply db w) = seen db := by
  have hrow : ∀ {f : Fixture} {o : Option (Stored f)}, f ≠ .t4_fixture_state →
      seen { db with fixtures := Function.update db.fixtures f o } = seen db := by
    intro f o hf
    simp [seen, row, Function.update_of_ne hf.symm]
  cases w with
  | insertLedger r => exact h.elim
  | deleteLedger s k => exact h.elim
  | updateFixture f r => exact hrow h
  | insertFixture f r => exact hrow h
  | deleteFixture f => exact hrow h
  | _ => rfl

lemma solo_bystander {w : World lab} {p : Call α} (hp : p.Asks Bystander) {σ : Solo lab}
    (hidle : σ.wrote = []) : seen (solo w p σ).2.db = seen σ.db :=
  (solo_inv (E := lab) (I := fun db => seen db = seen σ.db)
    (T := limits.Leaves (fun _ _ => False) fun _ => True)
    (fun _ hq _ _ _ _ _ _ he => Limits.leaves_of_exec hq (fun _ _ _ _ hno => hno)
      (fun _ _ _ _ => trivial) he)
    (fun v db hv hdb => (seen_apply hv db).trans hdb) w hp rfl (by simp [hidle])).1

end IncidentGate.T4Calls
