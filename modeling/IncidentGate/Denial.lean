import IncidentGate.Concurrent

/-!
What a refused call leaves behind.

A transaction that raises is rolled back, so a refusal leaves the tables as they were, with the
record of the refusal at most.
-/

namespace IncidentGate.Denial

open Lib.ScriptTree Lib.ScriptTree.Script Lib.RowLock Lib.RowLockLogic
open Lib.JsonText Contracts Fixtures Tables Refusals Kernel Specs Repository RowLocks Delivery
open Outcomes SingleUse Redelivery Concurrent

section
variable {spec : OperationSpec} {context : ToolCallContext} {action : CanonicalAction}
  {token : ApprovalToken} {w : World lab} {σ : Solo lab} {response_loss : Bool} {e : Raised}

/-! ### A call that raises -/

/-- Nothing has changed but for the record of the refusal `e`, which carries a reason. -/
def OnlyRecorded (e : Raised) (db db' : Db) : Prop :=
  db' = db ∨ ∃ d reason row, e = .ApprovalDenied d ∧ d.reason = some reason ∧
    row.event_type = EXECUTION_REFUSED ∧
    db' = { db with audit_timeline := db.audit_timeline ++ [row] }

/-- Losing the response changes what is returned and nothing else. -/
lemma state_of_loss :
    (solo w (commit spec context action token response_loss) σ).2 =
      (solo w (commit spec context action token false) σ).2 := by
  rcases commit_refused_or_bound spec context action with ⟨e, -, hcommit⟩ |
    ⟨key, hkey, hargs, hbound⟩
  · rw [hcommit, hcommit]
  · rw [commit_eq hkey hargs hbound, commit_eq hkey hargs hbound, bind_eq_elim, bind_eq_elim,
      solo_elim, solo_elim]
    rcases (solo w (attempt spec context action token key) σ).1 with e | d
    · rfl
    · exact (solo_respond d _).trans (solo_respond d _).symm

/-- A call that raises leaves the tables as they were, with the record of its refusal at most;
a call that loses its response leaves what it would have left had it returned. -/
theorem refusal_atomic (hspec : spec ∈ registered_operation_specs) (hidle : σ.wrote = [])
    (h : (solo w (commit spec context action token response_loss) σ).1 = .error e) :
    (e.uncommitted → OnlyRecorded e σ.db
      (solo w (commit spec context action token response_loss) σ).2.db) ∧
    (¬ e.uncommitted → (solo w (commit spec context action token response_loss) σ).2.db =
      (solo w (commit spec context action token false) σ).2.db) := by
  refine ⟨fun he => ?_, fun _ => congrArg Solo.db state_of_loss⟩
  have hend : CommitEnd spec context action token response_loss σ.db
      (solo w (commit spec context action token response_loss) σ).1
      (solo w (commit spec context action token response_loss) σ).2.db :=
    solo_commit_end hspec hidle
  rw [h] at hend
  generalize (solo w (commit spec context action token response_loss) σ).2.db = db' at hend ⊢
  cases hend with
  | lost _ _ _ _ _ _ => exact he.elim
  | refused _ => exact .inl rfl
  | recorded hreason hrow => exact .inr ⟨_, _, _, rfl, hreason, hrow, rfl⟩

end

/-! ### A forged token -/

/-- A token presented for another actor than the approved one. -/
def forgedToken : ApprovalToken := { migrationToken with actor := "someone", actor_ok := by decide }

def forged : Call OperationLedgerResult :=
  commit R01 migrationContext migrationAction forgedToken false

def mismatch : ApprovalDenied :=
  ⟨"approval is missing, expired, consumed, or not bound to this action",
    some (approval_invalid TOKEN_ACTOR_MISMATCH), none⟩

lemma forged_denied : raised (solo noon forged ⟨migrationDb, {}, 0, []⟩).1 =
    some (.ApprovalDenied mismatch) := by decide +kernel

theorem refusal_atomic_forged : OnlyRecorded (.ApprovalDenied mismatch) migrationDb
    (solo noon forged ⟨migrationDb, {}, 0, []⟩).2.db := by
  have h : (solo noon forged ⟨migrationDb, {}, 0, []⟩).1 = .error (.ApprovalDenied mismatch) := by
    have hdenied := forged_denied
    generalize (solo noon forged ⟨migrationDb, {}, 0, []⟩).1 = r at hdenied ⊢
    cases r with
    | ok result => cases hdenied
    | error e => rw [Option.some.inj hdenied]
  exact (refusal_atomic (by simp [registered_operation_specs]) rfl h).1 trivial

end IncidentGate.Denial
