import IncidentGate.Redelivery
import IncidentGate.Lib.RowLockTrace

/-!
Two deliveries of one call at the same time.

Step 1 is meant to lock the idempotency identity, but a row that is not there cannot be
locked. The deliveries collapse when the second reads the ledger after the first commits, and
at no other time.
-/

namespace IncidentGate.Concurrent

open Lib.ScriptTree Lib.ScriptTree.Script Lib.RowLock Lib.RowLockLogic Lib.RowLockTrace
open Lib.JsonText Contracts Fixtures Tables Refusals Kernel Specs Repository RowLocks Delivery
open Outcomes SingleUse Redelivery

variable {spec : OperationSpec} {context : ToolCallContext} {action : CanonicalAction}
  {token : ApprovalToken} {key : UUID} {response_loss : Bool}

/-! ### One call -/

lemma finished_respond (d : OperationLedgerResult ⊕ LedgerFields) :
    (respond spec response_loss d).Finished := by
  unfold respond ledger_result
  split
  · trivial
  · split
    · trivial
    · split <;> trivial

lemma asksLast_transaction {body : Call α} (h : body.Asks (· ≠ .commit)) :
    (transaction body).AsksLast .commit :=
  AsksLast.elim_of_asks h fun r => by
    cases r with
    | ok a => exact fun _ => ⟨fun _ => trivial, trivial⟩
    | error e => exact fun _ => ⟨fun h => (nomatch h), trivial⟩

lemma asksLast_append_audit_event {incident_id thread_id actor transition : String}
    {action_hash : Option ActionHash} {reason : Option String} {timestamp : Time}
    {attempt_id : Option UUID} :
    (append_audit_event incident_id thread_id actor transition action_hash reason timestamp
      attempt_id).AsksLast .commit := by
  refine AsksLast.elim_of_asks ?_ fun r => ?_
  · unfold AuditTimelineEvent.validate
    split <;> trivial
  · cases r with
    | ok event =>
      refine asksLast_transaction ⟨fun h => ?_, fun r => ?_⟩
      · cases h
      · cases r <;> trivial
    | error e => trivial

lemma asksLast_recordRefusal {action_hash : ActionHash} {reason : String} :
    (recordRefusal context action_hash reason).AsksLast .commit :=
  fun _ => ⟨fun h => (nomatch h), asksLast_append_audit_event⟩

/-- A call asks nothing after it has committed. -/
lemma asksLast_commit (hspec : spec ∈ registered_operation_specs) :
    (commit spec context action token response_loss).AsksLast .commit := by
  unfold commit
  split
  · trivial
  · split
    · trivial
    · split
      · trivial
      · rename_i key _
        refine AsksLast.elim_of_finished ?_ fun r => by
          cases r with
          | ok d => exact finished_respond d
          | error e => trivial
        unfold attempt refusal_recorded transaction
        rw [handle_eq_elim, elim_elim]
        refine AsksLast.elim_of_asks ((within_deliver hspec).asks DeliverOp.ne_commit) fun r => ?_
        cases r with
        | ok d => exact fun _ => ⟨fun _ => trivial, trivial⟩
        | error e =>
          refine fun _ => ⟨fun h => (nomatch h), ?_⟩
          cases e with
          | ApprovalDenied d =>
            dsimp only [elim_raise]
            split
            · trivial
            · exact asksLast_recordRefusal.elim_of_finished fun r => by cases r <;> trivial
          | _ => trivial

/-- The call returned nothing that a ledger row answered. -/
def NotDuplicate (r : Except Raised OperationLedgerResult) : Prop :=
  ∀ result, r = .ok result → result.status ≠ .DUPLICATE

def FirstDelivery (r : Except Raised (OperationLedgerResult ⊕ LedgerFields)) : Prop :=
  ∀ result, r ≠ .ok (.inl result)

variable (token) in
lemma commit_asks (hkey : context.idempotency_key = some key)
    (hargs : spec.validate_arguments action = none) (hbound : bound spec context action = true)
    (response_loss : Bool) : ∃ k, commit spec context action token response_loss =
      .ask (.stmt (.selectLedger spec.operation_scope key)) k ∧
      (k (.ok none)).Ends NotDuplicate := by
  rw [commit_eq hkey hargs hbound]
  refine ⟨_, rfl, ?_⟩
  -- a first delivery ends in a row of its own or in an exception
  have hperform : ((perform spec context action token key).bind fun ledger =>
      (ret (.inr ledger) : Call (OperationLedgerResult ⊕ LedgerFields))).Ends FirstDelivery := by
    refine (ends_true _).elim fun r _ => ?_
    cases r with
    | ok ledger => exact fun result h => by cases h
    | error e => exact fun result h => by cases h
  refine Ends.elim (P := FirstDelivery) (Ends.elim (P := FirstDelivery)
    (Ends.elim (P := FirstDelivery) hperform fun r hr => ?_) fun r hr => ?_) fun r hr => ?_
  · cases r with
    | ok d => exact fun _ => hr
    | error e => exact fun _ => hr
  · cases r with
    | ok d => exact hr
    | error e =>
      cases e with
      | ApprovalDenied d =>
        dsimp only
        split
        · exact fun result h => by cases h
        · refine (ends_true _).elim fun r _ => ?_
          cases r <;> exact fun result h => by cases h
      | _ => exact fun result h => by cases h
  · cases r with
    | ok d =>
      cases d with
      | inl result => exact absurd rfl (hr result)
      | inr ledger =>
        show (if response_loss then raise (.ResponseLost spec.response_loss_message)
          else ledger_result ledger .SUCCEEDED spec.operation_scope).Ends NotDuplicate
        unfold ledger_result
        split
        · exact fun result h => by cases h
        · split
          · exact fun result h => by cases h
          · rintro result ⟨⟩
            simp
    | error e => exact fun result h => by cases h

/-! ### Two calls -/

/-- A call is refused before it asks anything, or it has its key, its arguments and its
binding. -/
lemma commit_refused_or_bound (spec : OperationSpec) (context : ToolCallContext)
    (action : CanonicalAction) :
    (∃ e : Raised, e.uncommitted ∧
      ∀ token response_loss, commit spec context action token response_loss = raise e) ∨
    ∃ key, context.idempotency_key = some key ∧ spec.validate_arguments action = none ∧
      bound spec context action = true := by
  unfold commit
  cases hargs : spec.validate_arguments action with
  | some d => exact .inl ⟨.ApprovalDenied d, trivial, fun _ _ => rfl⟩
  | none =>
    cases hbound : bound spec context action with
    | false => exact .inl ⟨_, by trivial, fun _ _ => rfl⟩
    | true =>
      cases hkey : context.idempotency_key with
      | none => exact .inl ⟨_, by trivial, fun _ _ => rfl⟩
      | some key => exact .inr ⟨key, rfl, rfl, rfl⟩

/-- The second delivery collapsed: it returned the committed row as a duplicate, and no
refusal was recorded. -/
def Collapsed (spec : OperationSpec) (context : ToolCallContext) (key : UUID) (db db' : Db)
    (r : Except Raised OperationLedgerResult) : Prop :=
  ∃ row, db'.findLedger spec.operation_scope key = some row ∧
    r = .ok (resultOf spec context key row .DUPLICATE) ∧ refusals db' = refusals db

/-- Session `i` commits before session `j` asks its first question, the ledger read of
step 1. -/
def CommitsFirst (i j : Bool) (tr : List (Event lab Bool)) : Prop :=
  ∃ before after, tr = before ++ after ∧ .turn i .commit ∈ before ∧ ∀ op, .turn j op ∉ before

section
variable {σ σ' : System lab Bool Raised OperationLedgerResult} {tr : List (Event lab Bool)}
  {loss : Bool → Bool} {i j : Bool} {r r' : Except Raised OperationLedgerResult}
  (hspec : spec ∈ registered_operation_specs)
  (hstart : ∀ b, σ.sess b = some ⟨commit spec context action token (loss b), [], []⟩)
  (hrun : Run (fun _ => False) σ tr σ') (hu : Undisturbed tr)

include hstart hrun hu

lemma bound_of_executed (hi : σ'.outcome i = some r) (hexec : executed r = true) :
    spec.validate_arguments action = none ∧ bound spec context action = true := by
  rcases commit_refused_or_bound spec context action with ⟨e, he, hcommit⟩ | ⟨key, -, h⟩
  · obtain ⟨L, W, hs'⟩ := sess_of_outcome hi
    have hs := hstart i
    rw [hcommit] at hs
    have hsame := sess_eq hu (no_turn_of_finished hu hs trivial hrun) hrun
    rw [hs, hs'] at hsame
    cases r with
    | ok result => cases hsame
    | error e' =>
      cases hsame
      simp [not_executed_of_uncommitted he] at hexec
  · exact h

include hspec

lemma collapsed_of_commitsFirst (hkey : context.idempotency_key = some key) (hij : i ≠ j)
    (hi : σ'.outcome i = some r) (hexec : executed r = true) (hj : σ'.outcome j = some r')
    (hfirst : CommitsFirst i j tr) : Collapsed spec context key σ.db σ'.db r' := by
  obtain ⟨hargs, hbound⟩ := bound_of_executed hstart hrun hu hi hexec
  obtain ⟨before, after, rfl, hcommit, hj_after⟩ := hfirst
  obtain ⟨σ₁, h₁, h₂⟩ := split hrun
  have hi_only : ∀ e ∈ before, ∃ op, e = Event.turn i op := by
    intro e he
    obtain ⟨k, op, rfl⟩ := hu.left e he
    obtain rfl | rfl : k = i ∨ k = j := by revert hij; cases k <;> cases i <;> cases j <;> simp
    · exact ⟨op, rfl⟩
    · exact absurd he (hj_after op)
  -- the first call has finished, and its row is in the ledger
  obtain ⟨s, hs, hfinished⟩ :=
    finished_of_commit hu.left (hstart i) (asksLast_commit hspec) hcommit h₁
  obtain ⟨s', hs', hwp⟩ := wp_run (F := True) hi_only (hstart i)
    (alone_commit hspec fun _ _ => trivial) h₁
  obtain rfl : s = s' := Option.some.inj (hs.symm.trans hs')
  obtain ⟨L, W, hr⟩ := sess_of_outcome hi
  rw [sess_eq hu.right (no_turn_of_finished hu.right hs hfinished h₂) h₂, hs] at hr
  obtain rfl := Option.some.inj hr
  have hend := (wp_ofExcept.mp hwp).2.2
  obtain ⟨row, hrow, hquiet⟩ : ∃ row, Recorded spec context action token key row σ₁.db ∧
      refusals σ₁.db = refusals σ.db := by
    generalize σ₁.db = db₁ at hend ⊢
    cases hend with
    | executed hkey' _ _ hrow hquiet _ =>
      obtain rfl := Option.some.inj (hkey.symm.trans hkey')
      exact ⟨_, hrow, hquiet⟩
    | lost hkey' _ _ hrow hquiet _ =>
      obtain rfl := Option.some.inj (hkey.symm.trans hkey')
      exact ⟨_, hrow, hquiet⟩
    | duplicate hdup => simp [not_executed_of_duplicate hdup] at hexec
    | refused he => simp [not_executed_of_uncommitted he] at hexec
    | recorded _ _ => cases hexec
  -- the second call runs alone from there
  have hj_only : ∀ e ∈ after, ∃ op, e = Event.turn j op := by
    intro e he
    obtain ⟨k, op, rfl⟩ := hu.right e he
    obtain rfl | rfl : k = i ∨ k = j := by revert hij; cases k <;> cases i <;> cases j <;> simp
    · exact absurd he (no_turn_of_finished hu.right hs hfinished h₂ op)
    · exact ⟨op, rfl⟩
  have hsj := (sess_eq hu.left hj_after h₁).trans (hstart j)
  obtain ⟨t, ht, hwpj⟩ := wp_run hj_only hsj (alone_redelivery
    context.correlation_id_ok hrow.written hkey hargs hbound
    (⟨hrow.found, hrow.approval⟩ : Readable spec context _ _ _ _ _)) h₂
  obtain ⟨L', W', hr'⟩ := sess_of_outcome hj
  obtain rfl := Option.some.inj (ht.symm.trans hr')
  obtain ⟨-, -, rfl, hdb⟩ := wp_ofExcept.mp hwpj
  rw [hdb]
  exact ⟨row, hrow.found, rfl, hquiet⟩

omit hspec in
lemma commitsFirst_of_collapsed (hkey : context.idempotency_key = some key)
    (hfresh : σ.db.findLedger spec.operation_scope key = none) (hij : i ≠ j)
    (hi : σ'.outcome i = some r) (hexec : executed r = true) (hj : σ'.outcome j = some r')
    (h : Collapsed spec context key σ.db σ'.db r') : CommitsFirst i j tr := by
  obtain ⟨hargs, hbound⟩ := bound_of_executed hstart hrun hu hi hexec
  obtain ⟨k, hasks, hends⟩ := commit_asks token hkey hargs hbound (loss j)
  have hsj := hstart j
  rw [hasks] at hsj
  obtain ⟨L, W, hr'⟩ := sess_of_outcome hj
  -- the second call has taken a turn
  obtain ⟨op, hop⟩ : ∃ op, Event.turn j op ∈ tr := by
    by_contra hnone
    have hsame := sess_eq hu (fun op hop => hnone ⟨op, hop⟩) hrun
    rw [hsj, hr'] at hsame
    cases r' <;> cases hsame
  obtain ⟨before, op, after, rfl, hbefore⟩ := first_turn hop
  by_contra hno
  obtain ⟨σ₁, h₁, h₂⟩ := split hrun
  have hdb : σ₁.db = σ.db := by
    refine db_eq hu.left (fun b hb => ?_) h₁
    obtain rfl | rfl : b = i ∨ b = j := by revert hij; cases b <;> cases i <;> cases j <;> simp
    · exact hno ⟨before, _, rfl, hb, hbefore⟩
    · exact hbefore _ hb
  have hu₂ := hu.right
  rw [← List.singleton_append] at h₂ hu₂
  obtain ⟨σ₂, hstep, h₃⟩ := split h₂
  -- its first turn reads the ledger, which has no row yet
  obtain ⟨t, ht, htk⟩ : ∃ t, σ₂.sess j = some t ∧ t.prog = k (.ok none) := by
    have hs₁ := (sess_eq hu.left hbefore h₁).trans hsj
    cases step_of_singleton hstep with
    | turn hs ht =>
      obtain rfl := Option.some.inj (hs₁.symm.trans hs)
      cases ht with
      | stmt _ he =>
        obtain ⟨rfl, -⟩ := exec_ok_inj he
        refine ⟨_, Function.update_self .., ?_⟩
        rw [show view (E := lab) σ₁.db [] = σ.db from hdb, hfresh]
      | refused _ he => simp [exec] at he
  obtain ⟨t', ht', hends'⟩ := prog_inv (fun _ _ h => h) hu₂.right ht (htk ▸ hends) h₃
  rw [hr'] at ht'
  obtain rfl := Option.some.inj ht'
  obtain ⟨row, -, rfl, -⟩ := h
  exact hends' _ rfl rfl

/-- Two deliveries of one call collapse exactly when the second reads the ledger after the
first has committed. -/
theorem collapsed_iff_commitsFirst (hkey : context.idempotency_key = some key)
    (hfresh : σ.db.findLedger spec.operation_scope key = none) (hij : i ≠ j)
    (hi : σ'.outcome i = some r) (hexec : executed r = true) (hj : σ'.outcome j = some r') :
    Collapsed spec context key σ.db σ'.db r' ↔ CommitsFirst i j tr :=
  ⟨commitsFirst_of_collapsed hstart hrun hu hkey hfresh hij hi hexec hj,
    collapsed_of_commitsFirst hspec hstart hrun hu hkey hij hi hexec hj⟩

end

/-! ### Two deliveries of the migration -/

/-- Two sessions about to deliver the same call. -/
def race : System lab Bool Raised OperationLedgerResult :=
  ⟨migrationDb, {}, fun _ => some ⟨migration, [], []⟩⟩

lemma second_denied :
    raised (solo noon (afterRead migration) ⟨migrated.db, migrated.seq, 0, []⟩).1 =
      some (.ApprovalDenied ⟨"approval is missing, expired, consumed, or not bound to this action",
        some (approval_invalid TOKEN_CONSUMED), none⟩) := by decide +kernel

/-- Of two sessions, one runs its call to the end alone and leaves no lock behind. -/
lemma run_first {σ : System lab Bool Raised OperationLedgerResult} {b c : Bool} (hbc : b ≠ c)
    (hb : σ.sess b = some ⟨migration, [], []⟩) {s : Session lab Raised OperationLedgerResult}
    (hc : σ.sess c = some s) (hheld : s.held = []) :
    ∃ tr σ', Run (fun _ => False) σ tr σ' ∧ (∀ e ∈ tr, ∃ op, e = Event.turn b op) ∧
      σ'.db = (solo noon migration ⟨σ.db, σ.seq, 0, []⟩).2.db ∧
      σ'.seq = (solo noon migration ⟨σ.db, σ.seq, 0, []⟩).2.seq ∧
      σ'.outcome b = some (solo noon migration ⟨σ.db, σ.seq, 0, []⟩).1 ∧ σ'.sess c = some s ∧
      ∀ t, σ'.sess b = some t → t.held = [] := by
  have hcover : ∀ d, d ≠ b → d = c := by revert hbc; cases b <;> cases c <;> simp
  have hspec : R01 ∈ registered_operation_specs := by simp [registered_operation_specs]
  obtain ⟨tr, σ', hr, honly, hdb, hseq, hout⟩ := run_of_solo (fun _ => False) (w := noon)
    (fun _ => rfl) 0 hb fun d t hd ht => by
      rw [hcover d hd, hc] at ht
      rw [← Option.some.inj ht, hheld]
  have hu : Undisturbed tr := fun e he => (honly e he).elim fun op h => ⟨b, op, h⟩
  refine ⟨tr, σ', hr, honly, hdb, hseq, hout, ?_, fun t ht => ?_⟩
  · rw [sess_eq hu (fun op hop => ?_) hr, hc]
    obtain ⟨op', h⟩ := honly _ hop
    exact hbc (Event.turn.inj h).1.symm
  · have hend : wp True Still (fun _ _ => True) migration (fun r L W db' => L = [] ∧ W = [] ∧
        CommitEnd R01 migrationContext migrationAction migrationToken false σ.db r db') [] []
        σ.db := alone_commit hspec fun _ _ => trivial
    obtain ⟨t', ht', hwp⟩ := wp_run (F := True) honly hb hend hr
    obtain ⟨L, W, hs⟩ := sess_of_outcome hout
    obtain rfl := Option.some.inj (ht.symm.trans hs)
    obtain rfl := Option.some.inj (ht'.symm.trans hs)
    exact (wp_ofExcept.mp hwp).1

/-- Where the first session commits before the second starts, they collapse. -/
theorem collapsed_of_migration_twice : ∃ tr σ' r', Run (fun _ => False) race tr σ' ∧
    CommitsFirst true false tr ∧ σ'.outcome false = some r' ∧
    Collapsed R01 migrationContext 7 race.db σ'.db r' := by
  have hspec : R01 ∈ registered_operation_specs := by simp [registered_operation_specs]
  obtain ⟨tr₁, σ₁, h₁, honly₁, hdb₁, hseq₁, hout₁, hsess₁, hheld₁⟩ :=
    run_first (σ := race) (b := true) (c := false) (s := ⟨migration, [], []⟩) (by simp) rfl rfl rfl
  obtain ⟨tr₂, σ₂, h₂, honly₂, -, -, hout₂⟩ := run_of_solo (fun _ => False) (w := noon)
    (fun _ => rfl) 0 hsess₁ fun b t hb ht => hheld₁ t (by simpa [hb] using ht)
  have hu₁ : Undisturbed tr₁ := fun e he => (honly₁ e he).elim fun op h => ⟨true, op, h⟩
  have hu₂ : Undisturbed tr₂ := fun e he => (honly₂ e he).elim fun op h => ⟨false, op, h⟩
  have hu : Undisturbed (tr₁ ++ tr₂) := fun e he =>
    (List.mem_append.mp he).elim (hu₁ e) (hu₂ e)
  have hkept : σ₂.outcome true = σ₁.outcome true := by
    unfold System.outcome
    rw [sess_eq hu₂ (fun op hop => ?_) h₂]
    obtain ⟨op', h⟩ := honly₂ _ hop
    cases h
  have hfirst : CommitsFirst true false (tr₁ ++ tr₂) := by
    refine ⟨tr₁, tr₂, rfl, ?_, fun op hop => ?_⟩
    · -- the state has changed, and only a commit changes it
      by_contra hnone
      have hsame := db_eq hu₁ (fun b hb => hnone (by
        obtain ⟨op, h⟩ := honly₁ _ hb
        cases h
        exact hb)) h₁
      obtain ⟨key, row, hkey, -, -, hrow, -⟩ := recorded_of_executed hspec rfl migration_executed
      have hfound := hrow.found
      rw [show (solo noon (commit R01 migrationContext migrationAction migrationToken false)
        ⟨migrationDb, {}, 0, []⟩).2.db = race.db from hdb₁.symm.trans hsame] at hfound
      cases hfound
    · obtain ⟨op', h⟩ := honly₁ _ hop
      cases h
  have hstart : ∀ b, race.sess b =
      some ⟨commit R01 migrationContext migrationAction migrationToken false, [], []⟩ :=
    fun _ => rfl
  exact ⟨_, σ₂, _, append h₁ h₂, hfirst, hout₂, (collapsed_iff_commitsFirst (σ := race)
    hspec hstart (append h₁ h₂) hu rfl rfl (by simp)
    (hkept.trans hout₁) migration_executed hout₂).mpr hfirst⟩

/-- The second session has read the ledger, found nothing and taken no lock. -/
def raced : System lab Bool Raised OperationLedgerResult :=
  ⟨migrationDb, {}, fun b => some ⟨if b then migration else afterRead migration, [], []⟩⟩

lemma run_raced : Run (fun _ => False) race
    [.turn false (.stmt (.selectLedger R01.operation_scope 7))] raced := by
  have hstep : Step (fun _ => False) race
      (.turn false (.stmt (.selectLedger R01.operation_scope 7)))
      ⟨migrationDb, {}, Function.update race.sess false (some ⟨afterRead migration, [], []⟩)⟩ :=
    .turn rfl (.stmt (fun l hl => (nomatch hl)) rfl)
  have hraced : raced =
      ⟨migrationDb, {}, Function.update race.sess false (some ⟨afterRead migration, [], []⟩)⟩ := by
    unfold raced
    congr 1
    funext b
    cases b <;> rfl
  rw [hraced]
  exact .snoc (.nil race) hstep

/-- Where both calls read the ledger before either commits, the second is refused as a
consumed token. -/
theorem collapsed_false_at_race : ∃ tr σ' r r', Run (fun _ => False) race tr σ' ∧
    Undisturbed tr ∧ σ'.outcome true = some r ∧ executed r = true ∧ σ'.outcome false = some r' ∧
    raised r' = some (.ApprovalDenied
      ⟨"approval is missing, expired, consumed, or not bound to this action",
        some (approval_invalid TOKEN_CONSUMED), none⟩) ∧
    ¬ Collapsed R01 migrationContext 7 race.db σ'.db r' := by
  obtain ⟨tr₁, σ₁, h₁, honly₁, hdb₁, hseq₁, hout₁, hsess₁, hheld₁⟩ :=
    run_first (σ := raced) (b := true) (c := false) (s := ⟨afterRead migration, [], []⟩)
      (by simp) rfl rfl rfl
  obtain ⟨tr₂, σ₂, h₂, honly₂, -, -, hout₂⟩ := run_of_solo (fun _ => False) (w := noon)
    (fun _ => rfl) 0 hsess₁ fun b t hb ht => hheld₁ t (by simpa [hb] using ht)
  have hu₂ : Undisturbed tr₂ := fun e he => (honly₂ e he).elim fun op h => ⟨false, op, h⟩
  -- the first session's result stands
  have hkept : σ₂.outcome true = σ₁.outcome true := by
    unfold System.outcome
    rw [sess_eq hu₂ (fun op hop => ?_) h₂]
    obtain ⟨op', h⟩ := honly₂ _ hop
    cases h
  have hdenied := second_denied
  rw [hdb₁, hseq₁] at hout₂
  refine ⟨_, σ₂, _, _, append run_raced (append h₁ h₂), ?_, hkept.trans hout₁, migration_executed,
    hout₂, hdenied, ?_⟩
  · intro e he
    rcases List.mem_append.mp he with he | he
    · exact ⟨false, _, List.mem_singleton.mp he⟩
    · rcases List.mem_append.mp he with he | he
      · exact (honly₁ e he).elim fun op h => ⟨true, op, h⟩
      · exact hu₂ e he
  · rintro ⟨row, -, hr, -⟩
    cases hdenied.symm.trans (congrArg raised hr)

end IncidentGate.Concurrent
