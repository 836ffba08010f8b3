import IncidentGate.LedgerReaders
import IncidentGate.Scenes
import IncidentGate.Lib.RowLockEnds

/-!
What a call says of its commit.

A call that commits a row ends right there, as executed: it returns its result, or loses the
response. One that ends in any other way has put no row on the ledger, whatever it has committed.
-/

namespace IncidentGate.CallEnds

open Lib.ScriptTree Lib.ScriptTree.Script Lib.RowLock Lib.RowLockEnds Lib.JsonText
open Contracts Fixtures Tables Refusals Kernel Specs Repository RowLocks Delivery Outcomes Scenes
open Redelivery (executed not_executed_of_uncommitted not_executed_of_duplicate)

variable {f : Fixture} {W : List Write} {c : Option (List Write)}

/-! ### Rows on the ledger -/

/-- The writes put these rows on the ledger of the scene, and take none off. -/
def Adds (f : Fixture) (rows : List LedgerRow) (W : List Write) : Prop :=
  ∀ db, (Scene.of f (view (E := lab) db W)).ledger = (Scene.of f db).ledger ++ rows

lemma adds_of_untouched (h : ∀ w ∈ W, Scene.touches f w = false) : Adds f [] W := by
  intro db
  have hsame : Scene.of f (view (E := lab) db W) = Scene.of f db :=
    (read_view W db).trans ((scene f).foldl_untouched h _)
  rw [hsame, List.append_nil]

lemma ledger_of_filter {us : List Write} (hW : W.filter (fun w => !neutral w) = us) (db : Db) :
    (Scene.of f (view (E := lab) db W)).ledger =
      (Scene.of f (view (E := lab) db us)).ledger := by
  have hcore := core_view_filter W db
  rw [hW] at hcore
  have hledger := (Prod.mk.inj hcore).2
  show List.filter _ _ = List.filter _ _
  rw [hledger]

/-- None of the writes counts. -/
def Quiet (W : List Write) : Prop := W.filter (fun w => !neutral w) = []

lemma Quiet.adds (h : Quiet W) : Adds f [] W := fun db => by
  rw [ledger_of_filter h, view_nil, List.append_nil]

/-- The writes that count are the row of a settlement, and what it consumed. -/
def Settlement (ledger : LedgerFields) (W : List Write) : Prop :=
  ∃ n us, W.filter (fun w => !neutral w) = .insertLedger ⟨ledger, n⟩ :: us ∧
    ∀ u ∈ us, ∃ t now, u = .consumeApproval t now

lemma Settlement.adds {ledger : LedgerFields} (h : Settlement ledger W)
    (hincident : ledger.incident_id = incidentOf f) : ∃ n, Adds f [⟨ledger, n⟩] W := by
  obtain ⟨n, us, hW, hus⟩ := h
  have hconsume : ∀ db : Db, (Scene.of f (view (E := lab) db us)).ledger =
      (Scene.of f db).ledger := by
    clear hW
    induction us with
    | nil => exact fun _ => rfl
    | cons u us ih =>
      obtain ⟨t, now, rfl⟩ := hus u List.mem_cons_self
      intro db
      rw [view_cons, ih fun v hv => hus v (List.mem_cons_of_mem _ hv)]
      rfl
  refine ⟨n, fun db => ?_⟩
  rw [ledger_of_filter hW, view_cons, hconsume]
  simp [Scene.of, apply, hincident]

lemma Settlement.append {ledger : LedgerFields} {ws : List Write} (h : Settlement ledger W)
    (hws : ∀ w ∈ ws, neutral w = true ∨ ∃ t now, w = .consumeApproval t now) :
    Settlement ledger (W ++ ws) := by
  obtain ⟨n, us, hW, hus⟩ := h
  refine ⟨n, us ++ ws.filter (fun w => !neutral w), by rw [List.filter_append, hW]; rfl, ?_⟩
  intro u hu
  rcases List.mem_append.mp hu with hu | hu
  · exact hus u hu
  · obtain ⟨hmem, hcounts⟩ := List.mem_filter.mp hu
    exact (hws u hmem).resolve_left (by simpa using hcounts)

/-! ### The steps of a delivery -/

section
variable {M : List Write → Prop} {I : List Write → Prop}

/-- A step ends as it may, goes on with `I` of what is pending, and has no commit behind it that `M`
does not hold of. -/
def Kept (M I : List Write → Prop) (r : Except Raised α) (W : List Write)
    (c : Option (List Write)) : Prop :=
  (∀ e, r = .error e → e.uncommitted) ∧ (r.isOk → I W) ∧ ∀ U ∈ c, M U

lemma tells_neutral (hI : ∀ W ws, (∀ w ∈ ws, neutral w = true) → I W → I (W ++ ws))
    {p : Call α} (hp : Neutral p) (hW : I W) (hc : ∀ U ∈ c, M U) :
    tells M p (Kept M I) W c :=
  tells_mono (fun _ _ _ hr => ⟨hr.1, fun _ => hr.2.1, hr.2.2⟩) (tells_within (S := NeutralOp)
    (fun _ hq _ _ _ _ ws he W hW => hI W ws (neutral_writes hq he) hW)
    (fun h => h.elim False.elim False.elim) False.elim hp hW hc)

lemma Quiet.keeps (W ws : List Write) (hws : ∀ w ∈ ws, neutral w = true) (h : Quiet W) :
    Quiet (W ++ ws) := by
  rw [Quiet, List.filter_append, filter_neutral hws, List.append_nil]
  exact h

lemma Settlement.keeps {ledger : LedgerFields} (W ws : List Write)
    (hws : ∀ w ∈ ws, neutral w = true) (h : Settlement ledger W) : Settlement ledger (W ++ ws) :=
  h.append fun w hw => .inl (hws w hw)

lemma tells_then {Q : Except Raised β → List Write → Option (List Write) → Prop} {p : Call α}
    {k : α → Call β} (hp : tells M p (Kept M I) W c)
    (hk : ∀ a W c, I W → (∀ U ∈ c, M U) → tells M (k a) Q W c)
    (herror : ∀ e W c, e.uncommitted → (∀ U ∈ c, M U) → Q (.error e) W c) :
    tells M (p.bind k) Q W c := by
  refine tells_elim (tells_mono (fun r W c hr => ?_) hp)
  obtain ⟨hraised, hW, hc⟩ := hr
  cases r with
  | ok a => exact hk a W c (hW rfl) hc
  | error e => exact herror e W c (hraised e rfl) hc

lemma tells_execute {q : Stmt}
    {Q : Except Raised (Reply q) → List Write → Option (List Write) → Prop}
    (hc : ∀ U ∈ c, M U)
    (hok : ∀ n n' db r ws, exec q n db = (n', .ok (r, ws)) → Q (.ok r) (W ++ ws) none)
    (herror : ∀ e, Q (.error (.Database e)) W none) : tells M (execute q) Q W c :=
  ⟨hc, fun n n' db r ws he => hok n n' db r ws he, fun e => herror e⟩

lemma tells_transaction {Q : Except Raised α → List Write → Option (List Write) → Prop}
    {body : Call α} (h : tells M body (fun r W c => (∀ U ∈ c, M U) ∧
      match r with
      | .ok a => Q (.ok a) [] (some W)
      | .error e => Q (.error e) [] none) W c) : tells M (transaction body) Q W c := by
  refine tells_elim (tells_mono (fun r W c hr => ?_) h)
  cases r with
  | ok a => exact hr
  | error e => exact hr

end

section
variable {spec : OperationSpec} {context : ToolCallContext} {action : CanonicalAction}
  {token : ApprovalToken} {key : UUID} {M : List Write → Prop}

/-- What a delivery has pending when it ends. -/
def Delivers (spec : OperationSpec) (context : ToolCallContext) (action : CanonicalAction)
    (token : ApprovalToken) (key : UUID) (M : List Write → Prop) :
    Except Raised (OperationLedgerResult ⊕ LedgerFields) → List Write → Option (List Write) → Prop
  | .ok (.inl result), W, c => (∀ U ∈ c, M U) ∧ result.status = .DUPLICATE ∧ Quiet W
  | .ok (.inr ledger), W, c => (∀ U ∈ c, M U) ∧ (∃ now result,
      ledger = ledgerFields spec context action token key now result) ∧ Settlement ledger W
  | .error e, _, c => (∀ U ∈ c, M U) ∧ e.uncommitted

lemma ends_replay {existing : LedgerRow} : (replay spec context action token existing).Ends
    fun r => ∀ result, r = .ok result → result.status = .DUPLICATE := by
  have hresult : (ledger_result existing.toLedgerFields .DUPLICATE spec.operation_scope).Ends
      fun r => ∀ result, r = .ok result → result.status = .DUPLICATE := by
    unfold ledger_result
    split
    · exact fun _ h => by cases h
    · exact fun _ h => by cases h; rfl
  have herror : ∀ {e : Raised}, (raise e : Call OperationLedgerResult).Ends
      fun r => ∀ result, r = .ok result → result.status = .DUPLICATE := fun _ h => by cases h
  refine (ends_true (execute (.selectApproval token.token_id))).elim fun r _ => ?_
  cases r with
  | error e => exact herror
  | ok approval =>
    refine (ends_true (validate_replay context (canonical_action_hash action) token
      existing.toLedgerFields approval)).elim fun r _ => ?_
    cases r with
    | error e => exact herror
    | ok _ => exact hresult

lemma tells_settle {now : Time} {outcome : MutationOutcome spec.fixture} {W : List Write}
    {c : Option (List Write)} (hW : Quiet W) (hc : ∀ U ∈ c, M U) :
    tells M (settle spec context action token key now outcome)
      (fun r => Delivers spec context action token key M (r.map .inr)) W c := by
  refine tells_then (I := Settlement (ledgerFields spec context action token key now
    outcome.result)) (tells_execute hc (fun n n' db _ ws he => ?_) fun e => ?_)
    (fun _ W c hW hc => ?_) fun e W c he hc => ⟨hc, he⟩
  · obtain ⟨-, -, -, -, rfl⟩ := exec_insertLedger_ok he
    refine ⟨by simp, fun _ => ⟨n.ledger + 1, [], ?_, by simp⟩, by simp⟩
    rw [List.filter_append, hW]
    rfl
  · exact ⟨fun e' he' => by cases he'; trivial, nofun, by simp⟩
  refine tells_then (tells_neutral Settlement.keeps steps_count_mutation.neutral hW hc)
    (fun _ W c hW hc => ?_) fun e W c he hc => ⟨hc, he⟩
  refine tells_then (tells_neutral Settlement.keeps steps_emit_transition.neutral hW hc)
    (fun _ W c hW hc => ?_) fun e W c he hc => ⟨hc, he⟩
  refine tells_elim (tells_execute hc (fun n n' db _ ws he => ?_) fun e => ⟨by simp, trivial⟩)
  refine ⟨by simp, ⟨now, outcome.result, rfl⟩, hW.append fun w hw => .inr ?_⟩
  exact ⟨_, _, (exec_writes he w hw).1⟩

lemma tells_perform (hspec : spec ∈ registered_operation_specs) {W : List Write}
    {c : Option (List Write)} (hW : Quiet W) (hc : ∀ U ∈ c, M U) :
    tells M (perform spec context action token key)
      (fun r => Delivers spec context action token key M (r.map .inr)) W c := by
  have hauthorize : Steps spec (authorize context action token) := steps_authorize
  refine tells_then (tells_neutral Quiet.keeps hauthorize.neutral hW hc)
    (fun now W c hW hc => ?_) fun e W c he hc => ⟨hc, he⟩
  refine tells_then (tells_neutral Quiet.keeps steps_lock_fixture.neutral hW hc)
    (fun fixture W c hW hc => ?_) fun e W c he hc => ⟨hc, he⟩
  refine tells_then (tells_neutral Quiet.keeps (steps_mutation hspec _).neutral hW hc)
    (fun outcome W c hW hc => ?_) fun e W c he hc => ⟨hc, he⟩
  exact tells_settle hW hc

lemma tells_deliver (hspec : spec ∈ registered_operation_specs) :
    tells M (deliver spec context action token key) (Delivers spec context action token key M) []
      none := by
  refine tells_then (tells_neutral Quiet.keeps (asks_execute rfl) (by rfl) (by simp))
    (fun existing W c hW hc => ?_) fun e W c he hc => ⟨hc, he⟩
  cases existing with
  | some existing =>
    refine tells_elim (tells_mono (fun r W c hr => ?_) (tells_ends ends_replay
      (tells_neutral Quiet.keeps steps_replay.neutral hW hc)))
    obtain ⟨hdup, hraised, hW, hc⟩ := hr
    cases r with
    | ok result => exact ⟨hc, hdup result rfl, hW rfl⟩
    | error e => exact ⟨hc, hraised e rfl⟩
  | none =>
    refine tells_elim (tells_mono (fun r W c hr => ?_) (tells_perform hspec hW hc))
    cases r with
    | ok ledger => exact hr
    | error e => exact hr

end

/-! ### The record of a refusal -/

/-- What the record of a refusal asks. -/
def RecordOp (q : Op lab) : Prop := NeutralOp q ∨ q = .commit ∨ q = .rollback

lemma within_recordRefusal {context : ToolCallContext} {action_hash : ActionHash}
    {reason : String} :
    (recordRefusal context action_hash reason).Within RecordOp Raised.uncommitted := by
  refine Within.bind (p := clock) ⟨.inl trivial, fun _ => trivial⟩ fun now =>
    Within.bind ?_ fun event => Within.elim ((asks_execute rfl).mono (fun _ h => .inl h)
      fun _ h => h) (fun _ => ⟨.inr (.inl rfl), fun _ => trivial⟩)
      fun e he => ⟨.inr (.inr rfl), fun _ => he⟩
  unfold AuditTimelineEvent.validate
  split <;> trivial

lemma tells_recordRefusal {context : ToolCallContext} {action_hash : ActionHash}
    {reason : String} :
    tells Quiet (recordRefusal context action_hash reason) (Kept Quiet Quiet) [] none := by
  have hwithin : tells Quiet (recordRefusal context action_hash reason)
      (fun r W c => (∀ e, r = .error e → e.uncommitted) ∧ Quiet W ∧ ∀ U ∈ c, Quiet U) [] none := by
    have hempty : Quiet [] := rfl
    refine tells_within (c := none) (fun q hq n n' db r ws he W hW => ?_) (fun _ => hempty)
      (fun _ _ h => h) within_recordRefusal hempty nofun
    rcases hq with hq | hq | hq
    · exact Quiet.keeps W ws (neutral_writes hq he) hW
    · cases hq
    · cases hq
  exact tells_mono (fun _ _ _ hr => ⟨hr.1, fun _ => hr.2.1, hr.2.2⟩) hwithin

/-! ### A call -/

section
variable (spec : OperationSpec) (context : ToolCallContext) (action : CanonicalAction)
  (token : ApprovalToken)

/-- The ledger row of a call: under the call's own key, with its own bindings. -/
def Ledgered (row : LedgerRow) : Prop :=
  ∃ key now result, context.idempotency_key = some key ∧
    row.toLedgerFields = ledgerFields spec context action token key now result

/-- A call that ends as executed does so with the commit of its row. Any other commit that it ends
with leaves the ledger as it was. -/
def CallTold (r : Except Raised OperationLedgerResult) (c : Option (List Write)) : Prop :=
  if executed r then ∃ U ∈ c, ∃ row, Ledgered spec context action token row ∧
    Adds spec.fixture [row] U
  else ∀ U ∈ c, Adds spec.fixture [] U

/-- What an attempt says of the commit it ends with. -/
def AttemptTold (key : UUID) : Except Raised (OperationLedgerResult ⊕ LedgerFields) →
    List Write → Option (List Write) → Prop
  | .ok (.inl result), _, c => result.status = .DUPLICATE ∧ ∀ U ∈ c, Quiet U
  | .ok (.inr ledger), _, c => (∃ now result,
      ledger = ledgerFields spec context action token key now result) ∧
      ∃ U ∈ c, Settlement ledger U
  | .error e, _, c => e.uncommitted ∧ ∀ U ∈ c, Quiet U

end

section
variable {spec : OperationSpec} {context : ToolCallContext} {action : CanonicalAction}
  {token : ApprovalToken} {key : UUID}

lemma told_unexecuted {r : Except Raised OperationLedgerResult} (hr : executed r = false)
    (hc : ∀ U ∈ c, Quiet U) : CallTold spec context action token r c := by
  rw [CallTold, hr]
  exact fun U hU => (hc U hU).adds

lemma tells_attempt (hspec : spec ∈ registered_operation_specs) :
    tells Quiet (attempt spec context action token key)
      (AttemptTold spec context action token key) [] none := by
  refine tells_elim (tells_transaction (tells_mono (fun r W c hr => ?_) (tells_deliver hspec)))
  cases r with
  | ok d =>
    cases d with
    | inl result => exact ⟨hr.1, hr.2.1, by simpa using hr.2.2⟩
    | inr ledger => exact ⟨hr.1, hr.2.1, W, rfl, hr.2.2⟩
  | error e =>
    obtain ⟨hc, he⟩ := hr
    refine ⟨hc, ?_⟩
    cases e with
    | ApprovalDenied d =>
      dsimp only
      split
      · exact ⟨he, by simp⟩
      · refine tells_elim (tells_mono (fun r W c hr => ?_) tells_recordRefusal)
        obtain ⟨hraised, -, hc⟩ := hr
        cases r with
        | ok _ => exact ⟨he, hc⟩
        | error e => exact ⟨hraised e rfl, hc⟩
    | _ => exact ⟨he, by simp⟩

lemma registered_incident : ∀ spec ∈ registered_operation_specs,
    spec.incident_id = incidentOf spec.fixture := by
  simp only [registered_operation_specs, List.forall_mem_cons]
  repeat' constructor
  simp

/-- **A call that says it executed has just committed its row**, and one that says anything else
has committed none. -/
theorem tells_commit (hspec : spec ∈ registered_operation_specs) {response_loss : Bool} :
    tells Quiet (commit spec context action token response_loss)
      (fun r _ c => CallTold spec context action token r c) [] none := by
  unfold commit
  split
  · -- no key, other arguments or another binding: refused before anything is asked
    exact told_unexecuted rfl (by simp)
  split
  · exact told_unexecuted rfl (by simp)
  rename_i hbound
  rw [Bool.not_eq_true', Bool.not_eq_false] at hbound
  split
  · exact told_unexecuted rfl (by simp)
  -- the attempt ends with a refusal, a duplicate or a row of its own
  rename_i key hkey
  refine tells_elim (tells_mono (fun r W c hr => ?_) (tells_attempt hspec))
  cases r with
  | error e => exact told_unexecuted (not_executed_of_uncommitted hr.1) hr.2
  | ok d =>
    cases d with
    | inl result => exact told_unexecuted (not_executed_of_duplicate hr.1) hr.2
    | inr ledger =>
      obtain ⟨⟨now, result, hledger⟩, U, hU, hsettled⟩ := hr
      have hincident : ledger.incident_id = incidentOf spec.fixture := by
        rw [hledger]
        exact (LedgerReaders.bound_incident hbound).trans (registered_incident spec hspec)
      obtain ⟨n, hadds⟩ := hsettled.adds hincident
      have htold : ∃ U ∈ c, ∃ row, Ledgered spec context action token row ∧
          Adds spec.fixture [row] U :=
        ⟨U, hU, ⟨ledger, n⟩, ⟨key, now, result, hkey, hledger⟩, hadds⟩
      -- the row is committed whether or not the response is lost
      cases response_loss with
      | true => exact htold
      | false =>
        have hread : ledger_result (LedgerRow.toLedgerFields ⟨ledger, n⟩) .SUCCEEDED
            spec.operation_scope = ret (resultOf spec context key ⟨ledger, n⟩ .SUCCEEDED) :=
          ledger_result_of_written hkey ⟨now, result, hledger⟩ _
        show tells Quiet (ledger_result ledger .SUCCEEDED spec.operation_scope) _ _ _
        rw [hread]
        exact htold

end

end IncidentGate.CallEnds
