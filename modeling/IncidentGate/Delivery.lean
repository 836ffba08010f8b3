import IncidentGate.RowLocks

/-!
What a delivery leaves to commit, whatever other sessions do meanwhile: a duplicate nothing, a
first delivery the row of its own call and the consumed token, under the locks of both.
-/

namespace IncidentGate.Delivery

open Lib.ScriptTree Lib.ScriptTree.Script Lib.RowLock Lib.RowLockLogic Lib.JsonText
open Contracts Fixtures Tables Refusals Kernel Specs Repository RowLocks

section
variable (spec : OperationSpec) (context : ToolCallContext) (action : CanonicalAction)
  (token : ApprovalToken) (key : UUID)

/-- The approval row of a call is there, bound to the call and not consumed. -/
def Authorized (db : Db) : Prop :=
  ∃ a, db.findApproval token.token_id = some a ∧
    Binds token (canonical_action_hash action) context.actor (some context.incident_id) a ∧
    a.consumed_at = none

/-- No ledger row has the key. -/
def Fresh (db : Db) : Prop :=
  ∀ r ∈ db.operation_ledger, r.hasKey spec.operation_scope key = false

def deliveryLocks : List Lock :=
  [.approvalRow token.token_id, .ledgerKey spec.operation_scope key]

/-- What a first delivery is about to commit. -/
def Settled (ledger : LedgerFields) (L : List Lock) (W : List Write) (db : Db) : Prop :=
  ∃ n now result, ledger = ledgerFields spec context action token key now result ∧
    Under (deliveryLocks spec token key)
      [.insertLedger ⟨ledger, n⟩, .consumeApproval token.token_id now]
      (fun db => Authorized context action token db ∧ Fresh spec key db) L W db

def Outcome : OperationLedgerResult ⊕ LedgerFields → List Lock → List Write → Db → Prop
  | .inl result => fun _ W _ => result.status = .DUPLICATE ∧ W = []
  | .inr ledger => Settled spec context action token key ledger

end

section
variable {spec : OperationSpec} {context : ToolCallContext} {action : CanonicalAction}
  {token : ApprovalToken} {key : UUID} {F : Prop} {I : Db → Prop} {G : Db → Db → Prop}
  {L : List Lock} {W : List Write} {db : Db}

lemma mem_of_findApproval {t : UUID} {a : ApprovalRow} (h : db.findApproval t = some a) :
    a ∈ db.approvals ∧ a.token_id = t :=
  ⟨List.mem_of_find?_eq_some h, by simpa using List.find?_some h⟩

lemma mem_of_findLedger {s : String} {k : UUID} {r : LedgerRow} (h : db.findLedger s k = some r) :
    r ∈ db.operation_ledger ∧ r.hasKey s k = true := by
  rw [Db.findLedger] at h
  exact ⟨List.mem_of_find?_eq_some h, by simpa using List.find?_some h⟩

lemma Authorized.keep {db' : Db} (h : Authorized context action token db)
    (hk : Keep (.approvalRow token.token_id) db db') : Authorized context action token db' := by
  obtain ⟨a, ha, hbind⟩ := h
  exact ⟨a, by rw [hk.1 (by simp [ha]), ha], hbind⟩

lemma Authorized.protected :
    Protects [.approvalRow token.token_id] (Authorized context action token) :=
  fun _ _ hk h => h.keep (hk _ (List.mem_singleton.mpr rfl))

lemma Settled.protected : Protects (deliveryLocks spec token key)
    (fun db => Authorized context action token db ∧ Fresh spec key db) := by
  refine fun db db' hk h => ⟨h.1.keep (hk _ (by simp [deliveryLocks])), fun r hr => ?_⟩
  have hkey : Keep (.ledgerKey spec.operation_scope key) db db' := hk _ (by simp [deliveryLocks])
  by_contra hne
  rw [Bool.not_eq_false] at hne
  exact absurd (h.2 r (hkey r hr hne)) (by simp [hne])

/-! ### The questions of the steps -/

/-- What a step asks beside the ledger row and the consumption: it reads, it writes the
fixture and the stores of the scenario, and its one audit row is the transition. -/
def StepOp (spec : OperationSpec) : Op lab → Prop
  | .stmt (.selectLedger ..) | .stmt (.selectApproval _) | .stmt (.countEvidence _)
  | .stmt (.lockFixture _) | .stmt (.readFixture _) | .stmt (.readRecord ..)
  | .stmt (.updateFixture ..) | .stmt (.insertNote _) | .stmt (.insertHistory _)
  | .input _ => True
  | .stmt (.insertAudit a) => spec.commit_transition = some a.event_type
  | _ => False

@[reducible] def Steps (spec : OperationSpec) (p : Call α) : Prop :=
  p.Within (StepOp spec) Raised.uncommitted

def DeliverOp (spec : OperationSpec) (q : Op lab) : Prop :=
  StepOp spec q ∨ (∃ r, q = .stmt (.insertLedger r)) ∨ ∃ t now, q = .stmt (.consumeApproval t now)

lemma StepOp.neutral (q : Op lab) (h : StepOp spec q) : NeutralOp q := by
  cases q with
  | stmt q => cases q <;> first | rfl | exact h.elim
  | commit => exact h
  | rollback => exact h
  | input i => trivial

lemma Steps.neutral {p : Call α} (h : Steps spec p) : Neutral p :=
  Within.mono StepOp.neutral (fun _ h => h) h

lemma Steps.deliver {p : Call α} (h : Steps spec p) :
    p.Within (DeliverOp spec) Raised.uncommitted :=
  Within.mono (fun _ h => .inl h) (fun _ h => h) h

lemma DeliverOp.ne_commit (q : Op lab) (h : DeliverOp spec q) : q ≠ .commit := by
  rintro rfl
  rcases h with h | ⟨r, h⟩ | ⟨t, now, h⟩
  · exact h
  · cases h
  · cases h

lemma stepOp_of_confined {f : Fixture} (q : Op lab) (h : Confined f q) : StepOp spec q := by
  cases q with
  | stmt q => cases q <;> trivial
  | commit => exact h
  | rollback => exact h
  | input i => trivial

lemma steps_execute {q : Stmt} (h : StepOp spec (.stmt q)) : Steps spec (execute q) :=
  ⟨h, fun r => by cases r <;> trivial⟩

lemma steps_input {i : Input} : Steps spec (.ask (.input i) ret : Call (Answer i)) :=
  ⟨trivial, fun _ => trivial⟩

lemma steps_validate_approval {action_hash : ActionHash} {approval : Option ApprovalRow}
    {now : Time} : Steps spec (validate_approval context action_hash token approval now) := by
  simp only [validate_approval]
  split <;> trivial

lemma steps_validate_evidence {evidence_ids : List String} {now : Time} :
    Steps spec (validate_evidence context evidence_ids now) := by
  refine (steps_execute (by trivial)).bind fun matching => ?_
  split <;> trivial

lemma steps_count_mutation {now : Time} {outcome : MutationOutcome spec.fixture} :
    Steps spec (count_mutation spec now outcome) := by
  unfold count_mutation
  split
  · exact (steps_execute (by trivial)).bind fun _ => trivial
  · trivial

lemma steps_emit_transition {now : Time} {result : Json} :
    Steps spec (emit_transition spec context now result) := by
  unfold emit_transition
  split
  · trivial
  · rename_i transition htransition
    exact steps_input.bind fun _ => steps_execute htransition

lemma steps_lock_fixture : Steps spec (lock_fixture spec) := by
  refine (steps_execute (by trivial)).bind fun row => ?_
  cases row with
  | none => trivial
  | some row =>
    dsimp only
    split
    · trivial
    · split <;> trivial

lemma steps_validate_replay {action_hash : ActionHash} {ledger : LedgerFields}
    {approval : Option ApprovalRow} :
    Steps spec (validate_replay context action_hash token ledger approval) := by
  unfold validate_replay
  split
  · trivial
  · split <;> trivial

lemma steps_ledger_result {ledger : LedgerFields} {status : OperationStatus} {scope : String} :
    Steps spec (ledger_result ledger status scope) := by
  unfold ledger_result
  split <;> trivial

lemma steps_replay {existing : LedgerRow} :
    Steps spec (replay spec context action token existing) :=
  (steps_execute (by trivial)).bind fun _ => steps_validate_replay.bind fun _ => steps_ledger_result

lemma steps_authorize : Steps spec (authorize context action token) :=
  (steps_execute (by trivial)).bind fun _ => steps_input.bind fun _ =>
    steps_validate_approval.bind fun _ => steps_validate_evidence.bind fun _ => trivial

lemma steps_mutation (hspec : spec ∈ registered_operation_specs)
    (t : LockedTransaction spec.fixture) : Steps spec (spec.mutation t) :=
  (registered_confined spec hspec t).mono stepOp_of_confined fun _ h => h

lemma within_deliver (hspec : spec ∈ registered_operation_specs) :
    (deliver spec context action token key).Within (DeliverOp spec) Raised.uncommitted := by
  have hinsert : ∀ r, (execute (.insertLedger r)).Within (DeliverOp spec) Raised.uncommitted :=
    fun r => ⟨.inr (.inl ⟨r, rfl⟩), fun r => by cases r <;> trivial⟩
  have hconsume : ∀ now, (execute (.consumeApproval token.token_id now)).Within (DeliverOp spec)
      Raised.uncommitted :=
    fun now => ⟨.inr (.inr ⟨_, now, rfl⟩), fun r => by cases r <;> trivial⟩
  refine (steps_execute (by trivial)).deliver.bind fun existing => ?_
  cases existing with
  | some existing => exact steps_replay.deliver.bind fun _ => trivial
  | none =>
    refine Within.bind ?_ fun _ => trivial
    refine steps_authorize.deliver.bind fun now => steps_lock_fixture.deliver.bind fun fixture =>
      (steps_mutation hspec _).deliver.bind fun outcome => ?_
    exact (hinsert _).bind fun _ => steps_count_mutation.deliver.bind fun _ =>
      steps_emit_transition.deliver.bind fun _ => (hconsume now).bind fun _ => trivial

/-! ### The steps -/

/-- Locking the approval and checking it leaves the call authorized under the lock. -/
lemma wp_authorize (spec : OperationSpec) (hW : W.filter (fun w => !neutral w) = [])
    {P : Time → List Lock → List Write → Db → Prop}
    (hP : ∀ now L W db, I db →
      Under [.approvalRow token.token_id] [] (Authorized context action token) L W db →
      P now L W db) :
    wp F (Locked labLocks I) G (authorize context action token) (Ok P) L W db := by
  refine wp_bind (wp_execute fun db' c c' approval ws hR he => ?_)
  refine wp_bind (wp_clock fun now => ?_)
  obtain ⟨rfl, rfl⟩ := exec_ok_inj he
  refine wp_bind ?_
  simp only [validate_approval]
  split
  · exact trivial
  · rename_i hv
    obtain ⟨a, ha, hbind, hc, -⟩ := token_refusal_cause_valid_iff.mp (not_not.mp hv)
    have hcore : core (view (E := lab) db' W) = core db' := by rw [core_view_filter, hW]; rfl
    have hfind : db'.findApproval token.token_id = some a := by
      rwa [Db.findApproval, (Prod.mk.inj hcore).1] at ha
    have hU : Under [.approvalRow token.token_id] [] (Authorized context action token)
        (L ++ locks (.selectApproval token.token_id) (view (E := lab) db' W)) (W ++ []) db' :=
      ⟨by simp [locks, ha], by simpa using hW, a, hfind, hbind, hc⟩
    have hevidence : Steps spec (validate_evidence context action.evidence_ids now) :=
      steps_validate_evidence
    exact wp_bind (hU.wp Authorized.protected hevidence.neutral hR.1
      fun _ L W db hI hU => hP now L W db hI hU)

lemma wp_settle {now : Time} {outcome : MutationOutcome spec.fixture}
    (hU : Under [.approvalRow token.token_id] [] (Authorized context action token) L W db) :
    wp F (Locked labLocks I) G (settle spec context action token key now outcome)
      (Ok (Settled spec context action token key)) L W db := by
  refine wp_bind (wp_execute fun db₁ c c' _ ws hR he => ?_)
  have hU₁ := hU.move Authorized.protected hR
  obtain ⟨hfresh, -, -, -, rfl⟩ := exec_insertLedger_ok he
  rw [(Prod.mk.inj (hU₁.core_view db₁)).2] at hfresh
  obtain ⟨ledger, hledger⟩ : ∃ ledger, ledger =
      ledgerFields spec context action token key now outcome.result := ⟨_, rfl⟩
  rw [← hledger]
  have hU₂ : Under (deliveryLocks spec token key) [.insertLedger ⟨ledger, c.ledger + 1⟩]
      (fun db => Authorized context action token db ∧ Fresh spec key db)
      (L ++ locks (.insertLedger ledger) (view (E := lab) db₁ W))
      (W ++ [.insertLedger ⟨ledger, c.ledger + 1⟩]) db₁ := by
    refine ⟨by simp [deliveryLocks, locks, hledger, ledgerFields], ?_, hU₁.holds, hfresh⟩
    rw [List.filter_append, hU₁.wrote]
    rfl
  refine wp_bind (hU₂.wp Settled.protected steps_count_mutation.neutral hR.1
    fun _ L₃ W₃ db₃ hI₃ hU₃ => ?_)
  refine wp_bind (hU₃.wp Settled.protected steps_emit_transition.neutral hI₃
    fun _ L₄ W₄ db₄ hI₄ hU₄ => ?_)
  refine wp_bind (wp_execute fun db₅ _ _ _ ws hR₅ he₅ => ?_)
  have hU₅ := hU₄.move Settled.protected hR₅
  -- the approval is still there to consume
  have hws : ws = [.consumeApproval token.token_id now] := by
    obtain ⟨a, ha, -⟩ := hU₅.holds.1
    have hfind : ((view (E := lab) db₅ W₄).findApproval token.token_id).isSome := by
      rw [Db.findApproval, (Prod.mk.inj (hU₅.core_view db₅)).1]
      exact Option.isSome_iff_exists.mpr ⟨a, ha⟩
    simp only [exec, hfind, if_true] at he₅
    exact (exec_ok_inj he₅).2.symm
  subst hws
  refine ⟨c.ledger + 1, now, outcome.result, hledger, ?_, ?_, hU₅.holds⟩
  · exact fun l hl => List.mem_append_left _ (hU₅.held l hl)
  · rw [List.filter_append, hU₅.wrote]
    rfl

lemma wp_perform (hspec : spec ∈ registered_operation_specs)
    (hW : W.filter (fun w => !neutral w) = []) :
    wp F (Locked labLocks I) G (perform spec context action token key)
      (Ok (Settled spec context action token key)) L W db := by
  refine wp_bind (wp_authorize spec hW fun now L W db hI hU => ?_)
  refine wp_bind (hU.wp Authorized.protected steps_lock_fixture.neutral hI
    fun fixture L W db hI hU => ?_)
  refine wp_bind (hU.wp Authorized.protected (steps_mutation hspec _).neutral hI
    fun outcome L W db hI hU => ?_)
  exact wp_settle hU

lemma wp_replay {existing : LedgerRow} :
    wp F (Locked labLocks I) G (replay spec context action token existing)
      (Ok fun result _ W' _ => result.status = .DUPLICATE ∧ W' = W) L W db := by
  refine wp_bind (wp_execute fun db' c c' approval ws hR he => ?_)
  obtain ⟨rfl, rfl⟩ := exec_ok_inj he
  have hresult : wp F (Locked labLocks I) G
      (ledger_result existing.toLedgerFields .DUPLICATE spec.operation_scope)
      (Ok fun result _ W' _ => result.status = .DUPLICATE ∧ W' = W)
      (L ++ locks (.selectApproval token.token_id) (view (E := lab) db' W)) (W ++ []) db' := by
    unfold ledger_result
    split
    · trivial
    · exact ⟨rfl, List.append_nil W⟩
  refine wp_bind ?_
  unfold validate_replay
  split
  · trivial
  · split
    · trivial
    · exact hresult

lemma wp_deliver (hspec : spec ∈ registered_operation_specs) :
    wp F (Locked labLocks I) G (deliver spec context action token key)
      (Ok (Outcome spec context action token key)) [] [] db := by
  refine wp_bind (wp_execute fun db₁ c c' existing ws hR he => ?_)
  obtain ⟨rfl, rfl⟩ := exec_ok_inj he
  cases Db.findLedger (view (E := lab) db₁ []) spec.operation_scope key with
  | some existing => exact wp_bind (wp_ok_mono (fun _ _ _ _ h => h) wp_replay)
  | none => exact wp_bind (wp_ok_mono (fun _ _ _ _ h => h) (wp_perform hspec rfl))

end

end IncidentGate.Delivery
