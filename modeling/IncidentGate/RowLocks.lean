import IncidentGate.Repository
import IncidentGate.Lib.RowLockLogic

/-!
What the lab's row and index locks protect, and the rules of its statements and
transactions.
-/

namespace IncidentGate.RowLocks

open Lib.ScriptTree Lib.ScriptTree.Script Lib.RowLock Lib.RowLockLogic Lib.JsonText
open Contracts Fixtures Tables Refusals

/-- The locks a write is made under. -/
def guards : Write → List Lock
  | .insertLedger r =>
    [.ledgerKey r.operation_scope r.idempotency_key, .approvalRow r.approval_token_id]
  | .deleteLedger s k => [.ledgerRow s k, .ledgerKey s k]
  | .insertApproval a => [.approvalKey a.token_id]
  | .consumeApproval t _ => [.approvalRow t]
  | .deleteApproval t => [.approvalRow t, .approvalKey t]
  | .updateFixture f _ => [.fixtureRow f]
  | .insertFixture f _ => [.fixtureKey f]
  | .deleteFixture f => [.fixtureRow f, .fixtureKey f]
  | _ => []

/-- What stays between two states while a lock is held. A ledger row can only appear under
the lock of the approval it names: its foreign key takes it. -/
def Keep : Lock → Db → Db → Prop
  | .ledgerRow s k, db, db' =>
    (db.findLedger s k).isSome → db'.findLedger s k = db.findLedger s k
  | .ledgerKey s k, db, db' =>
    ∀ r ∈ db'.operation_ledger, r.hasKey s k → r ∈ db.operation_ledger
  | .approvalRow t, db, db' =>
    ((db.findApproval t).isSome → db'.findApproval t = db.findApproval t) ∧
      ∀ r ∈ db'.operation_ledger, r.approval_token_id = t → r ∈ db.operation_ledger
  | .approvalKey t, db, db' =>
    (∃ a ∈ db'.approvals, a.token_id = t) → ∃ a ∈ db.approvals, a.token_id = t
  | .fixtureRow f, db, db' => (db.fixtures f).isSome → db'.fixtures f = db.fixtures f
  | _, _, _ => True

lemma keep_refl (l : Lock) (db : Db) : Keep l db db := by
  cases l with
  | ledgerRow s k => exact fun _ => rfl
  | ledgerKey s k => exact fun r hr _ => hr
  | approvalRow t => exact ⟨fun _ => rfl, fun r hr _ => hr⟩
  | approvalKey t => exact id
  | fixtureRow f => exact fun _ => rfl
  | _ => trivial

lemma same_trans {a b c : Option α} (h : a.isSome → b = a) (h' : b.isSome → c = b) :
    a.isSome → c = a := by
  intro hs
  have hb := h hs
  rw [h' (by rw [hb]; exact hs), hb]

lemma keep_trans {l : Lock} {a b c : Db} (h : Keep l a b) (h' : Keep l b c) : Keep l a c := by
  cases l with
  | ledgerRow s k => exact same_trans h h'
  | ledgerKey s k => exact fun r hr hk => h r (h' r hr hk) hk
  | approvalRow t =>
    exact ⟨same_trans h.1 h'.1, fun r hr ht => h.2 r (h'.2 r hr ht) ht⟩
  | approvalKey t => exact fun hc => h (h' hc)
  | fixtureRow f => exact same_trans h h'
  | _ => trivial

@[simp] lemma hasKey_iff {r : LedgerFields} {s : String} {k : UUID} :
    r.hasKey s k = true ↔ r.operation_scope = s ∧ r.idempotency_key = k := by
  simp [LedgerFields.hasKey]

lemma consume_of_ne {t : UUID} {now : Time} {a : ApprovalRow} (h : a.token_id ≠ t) :
    a.consume t now = a := by simp [ApprovalRow.consume, h]

@[simp] lemma consume_token_id (t : UUID) (now : Time) (a : ApprovalRow) :
    (a.consume t now).token_id = a.token_id := by
  unfold ApprovalRow.consume
  split <;> rfl

lemma find?_append_of_isSome {l : List α} {r : α} {p : α → Bool}
    (h : (l.find? p).isSome) : (l ++ [r]).find? p = l.find? p := by
  obtain ⟨x, hx⟩ := Option.isSome_iff_exists.mp h
  rw [List.find?_append, hx, Option.some_or]

lemma keep_ledgerRow {s : String} {k : UUID} {w : Write} (db : Db)
    (h : Lock.ledgerRow s k ∉ guards w) : Keep (.ledgerRow s k) db (apply db w) := by
  cases w with
  | insertLedger r => exact find?_append_of_isSome
  | deleteLedger s' k' =>
    intro _
    have hne : ¬ (s = s' ∧ k = k') := by simpa [guards] using h
    simp only [Db.findLedger, apply, List.find?_filter]
    refine congrArg (List.find? · _) (funext fun r => ?_)
    cases hk : r.hasKey s k with
    | false => simp
    | true =>
      obtain ⟨rfl, rfl⟩ := hasKey_iff.mp hk
      have hother : r.hasKey s' k' = false := by rw [Bool.eq_false_iff, Ne, hasKey_iff]; exact hne
      simp [hother]
  | _ => exact keep_refl (.ledgerRow s k) db

lemma keep_ledgerKey {s : String} {k : UUID} {w : Write} (db : Db)
    (h : Lock.ledgerKey s k ∉ guards w) : Keep (.ledgerKey s k) db (apply db w) := by
  cases w with
  | insertLedger r' =>
    intro r hr hk
    obtain ⟨rfl, rfl⟩ := hasKey_iff.mp hk
    rcases List.mem_append.mp hr with hr | hr
    · exact hr
    · obtain rfl := List.mem_singleton.mp hr
      simp [guards] at h
  | deleteLedger s' k' => exact fun r hr _ => (List.mem_filter.mp hr).1
  | _ => exact keep_refl (.ledgerKey s k) db

lemma findApproval_consume (db : Db) (t t' : UUID) (now : Time) :
    (apply db (.consumeApproval t' now)).findApproval t =
      (db.findApproval t).map (.consume t' now) := by
  simp only [Db.findApproval, apply, List.find?_map, Function.comp_def, consume_token_id]

lemma keep_approvalRow {t : UUID} {w : Write} (db : Db) (h : Lock.approvalRow t ∉ guards w) :
    Keep (.approvalRow t) db (apply db w) := by
  cases w with
  | insertLedger r' =>
    refine ⟨fun _ => rfl, fun r hr ht => ?_⟩
    rcases List.mem_append.mp hr with hr | hr
    · exact hr
    · obtain rfl := List.mem_singleton.mp hr
      simp [guards, ht] at h
  | deleteLedger s k => exact ⟨fun _ => rfl, fun r hr _ => (List.mem_filter.mp hr).1⟩
  | insertApproval a' =>
    exact ⟨find?_append_of_isSome, fun r hr _ => hr⟩
  | consumeApproval t' now =>
    refine ⟨fun hs => ?_, fun r hr _ => hr⟩
    obtain ⟨a, ha⟩ := Option.isSome_iff_exists.mp hs
    have hat : a.token_id = t := by simpa using List.find?_some ha
    have hne : a.token_id ≠ t' := by rw [hat]; simpa [guards] using h
    rw [findApproval_consume, ha, Option.map_some, consume_of_ne hne]
  | deleteApproval t' =>
    refine ⟨fun _ => ?_, fun r hr _ => hr⟩
    have hne : t ≠ t' := by simpa [guards] using h
    simp only [Db.findApproval, apply, List.find?_filter]
    refine congrArg (List.find? · _) (funext fun a => ?_)
    by_cases hat : a.token_id = t <;> simp [hat, hne]
  | _ => exact keep_refl (.approvalRow t) db

lemma keep_approvalKey {t : UUID} {w : Write} (db : Db) (h : Lock.approvalKey t ∉ guards w) :
    Keep (.approvalKey t) db (apply db w) := by
  cases w with
  | insertApproval a' =>
    rintro ⟨a, ha, rfl⟩
    rcases List.mem_append.mp ha with ha | ha
    · exact ⟨a, ha, rfl⟩
    · obtain rfl := List.mem_singleton.mp ha
      simp [guards] at h
  | consumeApproval t' now =>
    rintro ⟨a, ha, rfl⟩
    obtain ⟨b, hb, rfl⟩ := List.mem_map.mp ha
    exact ⟨b, hb, by simp⟩
  | deleteApproval t' =>
    rintro ⟨a, ha, rfl⟩
    exact ⟨a, (List.mem_filter.mp ha).1, rfl⟩
  | _ => exact keep_refl (.approvalKey t) db

lemma keep_fixtureRow {f : Fixture} {w : Write} (db : Db) (h : Lock.fixtureRow f ∉ guards w) :
    Keep (.fixtureRow f) db (apply db w) := by
  cases w with
  | updateFixture g r =>
    have hne : f ≠ g := by simpa [guards] using h
    exact fun _ => Function.update_of_ne hne _ _
  | insertFixture g r =>
    intro hs
    by_cases hfg : f = g
    · subst hfg
      obtain ⟨r', hr'⟩ := Option.isSome_iff_exists.mp hs
      simp [apply, hr']
    · exact Function.update_of_ne hfg _ _
  | deleteFixture g =>
    have hne : f ≠ g := by simpa [guards] using h
    exact fun _ => Function.update_of_ne hne _ _
  | _ => exact keep_refl (.fixtureRow f) db

lemma keep_apply {w : Write} {l : Lock} (db : Db) (h : l ∉ guards w) :
    Keep l db (apply db w) := by
  cases l with
  | ledgerRow s k => exact keep_ledgerRow db h
  | ledgerKey s k => exact keep_ledgerKey db h
  | approvalRow t => exact keep_approvalRow db h
  | approvalKey t => exact keep_approvalKey db h
  | fixtureRow f => exact keep_fixtureRow db h
  | _ => trivial

lemma exec_ok_inj {R : Type} {c c' : Counters} {r r' : R} {ws ws' : List Write}
    (h : (c, (.ok (r, ws) : Except DbError (R × List Write))) = (c', .ok (r', ws'))) :
    r = r' ∧ ws = ws' := by
  simpa using (Prod.mk.inj h).2

/-- What a statement can write, and what it then found. -/
def Writes (db : Db) : Stmt → Write → Prop
  | .updateFixture f _, v => (∃ r, v = .updateFixture f r) ∧ (db.fixtures f).isSome
  | .insertFixtureIfAbsent f r, v => v = .insertFixture f r
  | .deleteFixture f, v => v = .deleteFixture f ∧ (db.fixtures f).isSome
  | .insertLedger r, v => ∃ n, v = .insertLedger ⟨r, n⟩
  | .deleteLedger s k i, v =>
    v = .deleteLedger s k ∧ ∃ r, db.findLedger s k = some r ∧ r.incident_id = i
  | .insertApproval a, v => v = .insertApproval a
  | .consumeApproval t now, v => v = .consumeApproval t now ∧ (db.findApproval t).isSome
  | .deleteApproval t i, v =>
    v = .deleteApproval t ∧ ∃ a, db.findApproval t = some a ∧ a.incident_id = i
  | .insertAudit a, v | .insertAuditIfAbsent a, v => ∃ n, v = .insertAudit ⟨a, n⟩
  | .insertSource s, v => v = .insertSource s
  | .insertEvidence e, v => v = .insertEvidence e
  | .insertRecordIfAbsent r, v => v = .insertRecord r
  | .insertNote n, v => v = .insertNote n
  | .insertHistory h, v => v = .insertHistory h
  | .deleteNotes i, v => v = .deleteNotes i
  | .deleteHistory i, v => v = .deleteHistory i
  | .deleteEvidence i, v => v = .deleteEvidence i
  | .deleteSources i, v => v = .deleteSources i
  | .deleteRecords i, v => v = .deleteRecords i
  | .deleteAudits i, v => v = .deleteAudits i
  | _, _ => False

lemma exec_writes {q : Stmt} {c c' : Counters} {db : Db} {r : Reply q} {ws : List Write}
    (h : exec q c db = (c', .ok (r, ws))) : ∀ v ∈ ws, Writes db q v := by
  cases q with
  | updateFixture f set =>
    simp only [exec] at h
    split at h
    · obtain ⟨-, rfl⟩ := exec_ok_inj h; simp
    · rename_i row hrow
      split at h
      · obtain ⟨-, rfl⟩ := exec_ok_inj h
        exact List.forall_mem_singleton.mpr ⟨⟨_, rfl⟩, by rw [hrow]; rfl⟩
      · simp at h
  | deleteLedger s k i =>
    simp only [exec] at h
    split at h
    · rename_i row hrow
      obtain ⟨-, rfl⟩ := exec_ok_inj h
      split_ifs with hi
      · exact List.forall_mem_singleton.mpr ⟨rfl, row, hrow, hi⟩
      · simp
    · obtain ⟨-, rfl⟩ := exec_ok_inj h; simp
  | deleteApproval t i =>
    simp only [exec] at h
    split at h
    · rename_i a ha
      split_ifs at h with hi
      · obtain ⟨-, rfl⟩ := exec_ok_inj h
        exact List.forall_mem_singleton.mpr ⟨rfl, a, ha, hi⟩
      · obtain ⟨-, rfl⟩ := exec_ok_inj h; simp
    · obtain ⟨-, rfl⟩ := exec_ok_inj h; simp
  -- the other statements write at most the row they name
  | _ =>
    simp only [exec] at h
    (try split_ifs at h) <;> first
      | (obtain ⟨-, rfl⟩ := exec_ok_inj h; simp_all [Writes])
      | simp at h

/-! ### Questions within limits -/

/-- What a program may do to the ledger, to the approvals and to the fixtures. What it does to the
other tables is free. -/
structure Limits where
  insertLedger : Prop := True
  /-- The incidents whose ledger rows it may delete. -/
  deleteLedger : String → Prop := fun _ => True
  deleteApproval : String → Prop := fun _ => True
  fixture : Fixture → Prop := fun _ => True

namespace Limits

variable (B : Limits)

def Allows : Op lab → Prop
  | .stmt (.insertLedger _) => B.insertLedger
  | .stmt (.deleteLedger _ _ i) => B.deleteLedger i
  | .stmt (.deleteApproval _ i) => B.deleteApproval i
  | .stmt (.updateFixture f _) | .stmt (.insertFixtureIfAbsent f _)
  | .stmt (.deleteFixture f) => B.fixture f
  | _ => True

/-- A write within the limits, of the keys and the tokens that may be deleted. -/
def Leaves (ledger : String → UUID → Prop) (approval : UUID → Prop) : Write → Prop
  | .insertLedger _ => B.insertLedger
  | .deleteLedger s k => ledger s k
  | .deleteApproval t => approval t
  | .updateFixture f _ | .insertFixture f _ | .deleteFixture f => B.fixture f
  | _ => True

variable {B}

/-- A statement within the limits makes such writes only, where the rows it may delete are under
those keys. -/
lemma leaves_of_exec {q : Stmt} (hq : B.Allows (.stmt q)) {db : Db} {ledger : String → UUID → Prop}
    {approval : UUID → Prop}
    (hledger : ∀ s k r, db.findLedger s k = some r → B.deleteLedger r.incident_id → ledger s k)
    (happroval : ∀ t a, db.findApproval t = some a → B.deleteApproval a.incident_id → approval t)
    {c c' : Counters} {r : Reply q} {ws : List Write} (h : exec q c db = (c', .ok (r, ws))) :
    ∀ w ∈ ws, B.Leaves ledger approval w := by
  intro w hw
  have hwrites := exec_writes h w hw
  cases q with
  | updateFixture f set =>
    obtain ⟨⟨r, rfl⟩, -⟩ := hwrites
    exact hq
  | deleteLedger s k i =>
    obtain ⟨rfl, row, hrow, rfl⟩ := hwrites
    exact hledger s k row hrow hq
  | deleteApproval t i =>
    obtain ⟨rfl, a, ha, rfl⟩ := hwrites
    exact happroval t a ha hq
  | _ =>
    first
    | exact hwrites.elim
    | (obtain rfl := hwrites; exact hq)
    | (obtain ⟨rfl, -⟩ := hwrites; exact hq)
    | (obtain ⟨n, rfl⟩ := hwrites; exact hq)

end Limits

lemma covered {q : Stmt} {c c' : Counters} {db : Db} {r : Reply q} {ws : List Write}
    (h : exec q c db = (c', .ok (r, ws))) : ∀ w ∈ ws, ∀ l ∈ guards w, l ∈ locks q db := by
  intro w hw
  have hwrites := exec_writes h w hw
  cases q with
  | updateFixture f set =>
    obtain ⟨⟨r, rfl⟩, hsome⟩ := hwrites
    simp [guards, locks, hsome]
  | deleteFixture f =>
    obtain ⟨rfl, hsome⟩ := hwrites
    simp [guards, locks, hsome]
  | consumeApproval t now =>
    obtain ⟨rfl, hsome⟩ := hwrites
    simp [guards, locks, hsome]
  | deleteLedger s k i =>
    obtain ⟨rfl, row, hrow, -⟩ := hwrites
    simp [guards, locks, hrow]
  | deleteApproval t i =>
    obtain ⟨rfl, a, ha, -⟩ := hwrites
    simp [guards, locks, ha]
  | _ =>
    first
    | exact hwrites.elim
    | (obtain rfl := hwrites; simp [guards, locks])
    | (obtain ⟨n, rfl⟩ := hwrites; simp [guards, locks])

lemma exec_insertLedger_ok {f : LedgerFields} {c c' : Counters} {db : Db} {r : Unit}
    {ws : List Write} (h : exec (.insertLedger f) c db = (c', .ok (r, ws))) :
    (∀ x ∈ db.operation_ledger, x.hasKey f.operation_scope f.idempotency_key = false) ∧
      (db.findApproval f.approval_token_id).isSome ∧ f.isInsertable = true ∧
      c' = { c with ledger := c.ledger + 1 } ∧ ws = [.insertLedger ⟨f, c.ledger + 1⟩] := by
  simp only [exec] at h
  split_ifs at h with hi hu hf
  · simp at h
  · simp at h
  · simp at h
  · obtain ⟨-, hws⟩ := exec_ok_inj h
    simp only [List.any_eq_true, Bool.or_eq_true, not_exists, not_and, not_or] at hu
    refine ⟨fun x hx => by rw [← Bool.not_eq_true]; exact (hu x hx).1, ?_, by simpa using hi,
      (Prod.mk.inj h).1.symm, hws.symm⟩
    rwa [Option.isNone_iff_eq_none, ← Ne, Option.ne_none_iff_isSome] at hf

@[reducible] def labLocks : Protection lab where
  Keep := Keep
  guards := guards
  refl := keep_refl
  trans := keep_trans
  frame := keep_apply

lemma statementwise : labLocks.Statementwise := fun _ _ _ _ _ _ => covered

/-! ### Statements and transactions -/

section
variable {F : Prop} {R : List Lock → Db → Db → Prop} {G : Db → Db → Prop} {L : List Lock}
  {W : List Write} {db : Db}

lemma wp_execute {q : Stmt} {P : Reply q → List Lock → List Write → Db → Prop}
    (h : ∀ db' c c' r ws, R L db db' → exec q c (view (E := lab) db' W) = (c', .ok (r, ws)) →
      P r (L ++ locks q (view (E := lab) db' W)) (W ++ ws) db') :
    wp (E := lab) F R G (execute q) (Ok P) L W db :=
  fun db' hR => ⟨fun c c' r ws he => ⟨trivial, h db' c c' r ws hR he⟩, fun _ _ _ _ => trivial,
    fun _ => trivial⟩

lemma wp_clock {P : Time → List Lock → List Write → Db → Prop} (h : ∀ now, P now L W db) :
    wp (E := lab) F R G clock (Ok P) L W db := h

end

variable {F : Prop} {I : Db → Prop} {G : Db → Db → Prop}

/-- A transaction keeps the invariant if its writes do, put on any state that its locks
allow at its end. -/
lemma keeps_transaction {body : Call α}
    (h : ∀ db, I db → wp True (Locked labLocks I) (fun _ db' => I db') body
      (Ok fun _ L W db => ∀ db', Locked labLocks I L db db' → I (view (E := lab) db' W)) [] [] db) :
    Keeps labLocks I (transaction body) := by
  intro db hI
  refine wp_elim (wp_mono (fun r L W db hr => ?_) (h db hI))
  cases r with
  | ok a => exact fun db' hR => ⟨hr db' hR, rfl, rfl, hr db' hR⟩
  | error e => exact fun db' hR => ⟨rfl, rfl, hR.1⟩

/-! ### Statements that leave approvals and ledger alone -/

/-- The two tables of an authorization. -/
def core (db : Db) : List ApprovalRow × List LedgerRow := (db.approvals, db.operation_ledger)

/-- The write reaches neither table. -/
def neutral : Write → Bool
  | .insertLedger _ | .deleteLedger .. | .insertApproval _ | .consumeApproval ..
  | .deleteApproval _ => false
  | _ => true

def neutralStmt : Stmt → Bool
  | .insertLedger _ | .deleteLedger .. | .insertApproval _ | .consumeApproval ..
  | .deleteApproval .. => false
  | _ => true

/-- A question inside a transaction that reaches neither table. -/
def NeutralOp : Op lab → Prop
  | .stmt q => neutralStmt q = true
  | .input _ => True
  | .commit => False
  | .rollback => False

/-- A script of such questions, which loses no response. -/
@[reducible] def Neutral (p : Call α) : Prop := p.Within NeutralOp Raised.uncommitted

lemma core_apply_neutral {w : Write} (h : neutral w = true) (db : Db) :
    core (apply db w) = core db := by
  cases w <;> first | rfl | simp [neutral] at h

lemma core_apply_congr (w : Write) {db db' : Db} (h : core db = core db') :
    core (apply db w) = core (apply db' w) := by
  obtain ⟨ha, hl⟩ := Prod.mk.inj h
  cases w <;> simp [core, apply, ha, hl]

lemma core_view_congr (W : List Write) {db db' : Db} (h : core db = core db') :
    core (view (E := lab) db W) = core (view (E := lab) db' W) := by
  induction W generalizing db db' with
  | nil => exact h
  | cons w W ih => exact ih (core_apply_congr w h)

lemma core_view_filter (W : List Write) (db : Db) :
    core (view (E := lab) db W) = core (view (E := lab) db (W.filter fun w => !neutral w)) := by
  induction W generalizing db with
  | nil => rfl
  | cons w W ih =>
    cases hw : neutral w with
    | true =>
      rw [List.filter_cons_of_neg (by simp [hw]), view_cons, ← ih db]
      exact core_view_congr W (core_apply_neutral hw db)
    | false => rw [List.filter_cons_of_pos (by simp [hw]), view_cons, view_cons, ih]

lemma neutral_writes {q : Stmt} (hq : neutralStmt q = true) {c c' : Counters} {db : Db}
    {r : Reply q} {ws : List Write} (h : exec q c db = (c', .ok (r, ws))) :
    ∀ w ∈ ws, neutral w = true := by
  intro w hw
  have hwrites := exec_writes h w hw
  cases q with
  | updateFixture f set =>
    obtain ⟨⟨r, rfl⟩, -⟩ := hwrites
    rfl
  | deleteFixture f =>
    obtain ⟨rfl, -⟩ := hwrites
    rfl
  | _ =>
    first
    | exact hwrites.elim
    | (simp [neutralStmt] at hq; done)
    | (obtain rfl := hwrites; rfl)
    | (obtain ⟨n, rfl⟩ := hwrites; rfl)

lemma filter_neutral {ws : List Write} (h : ∀ w ∈ ws, neutral w = true) :
    ws.filter (fun w => !neutral w) = [] :=
  List.filter_eq_nil_iff.mpr fun w hw => by simp [h w hw]

/-- A script of neutral questions leaves the locks and the writes that count as they were. -/
lemma wp_neutral {p : Call α} (hp : Neutral p) {Q : Post lab Raised α} {L : List Lock}
    {W : List Write} {db : Db} (hI : I db)
    (hQ : ∀ r L' ws db', Locked labLocks I L db db' → (∀ w ∈ ws, neutral w = true) →
      Q r (L ++ L') (W ++ ws) db') :
    wp F (Locked labLocks I) G p Q L W db :=
  wp_asks (R := Locked labLocks I) (S := NeutralOp) (fun _ _ _ _ => Locked.trans labLocks)
    (fun _ _ _ _ => Locked.mono labLocks) (fun _ L' _ _ h => Locked.refl labLocks h.1 L') id id
    (fun _ hq _ _ _ _ _ he => neutral_writes hq he) hp (Locked.refl labLocks hI L) hQ

lemma asks_execute {q : Stmt} (hq : neutralStmt q = true) : Neutral (execute q) :=
  ⟨hq, fun r => by cases r <;> trivial⟩

lemma asks_clock : Neutral clock := ⟨trivial, fun _ => trivial⟩

lemma asks_uuid4 : Neutral uuid4 := ⟨trivial, fun _ => trivial⟩

/-- What a session knows in the middle of a transaction: locks it holds, its writes that
count, and a fact that those locks protect. -/
structure Under (locks : List Lock) (writes : List Write) (A : Db → Prop) (L : List Lock)
    (W : List Write) (db : Db) : Prop where
  held : ∀ l ∈ locks, l ∈ L
  wrote : W.filter (fun w => !neutral w) = writes
  holds : A db

/-- The fact stays while the locks are held. -/
def Protects (locks : List Lock) (A : Db → Prop) : Prop :=
  ∀ db db', (∀ l ∈ locks, Keep l db db') → A db → A db'

namespace Under

variable {ls : List Lock} {es : List Write} {A : Db → Prop} {L : List Lock} {W : List Write}
  {db db' : Db}

lemma move (hA : Protects ls A) (h : Under ls es A L W db) (hR : Locked labLocks I L db db') :
    Under ls es A L W db' :=
  ⟨h.held, h.wrote, hA db db' (fun l hl => hR.2 l (h.held l hl)) h.holds⟩

lemma more (h : Under ls es A L W db) (L' : List Lock) {ws : List Write}
    (hws : ∀ w ∈ ws, neutral w = true) : Under ls es A (L ++ L') (W ++ ws) db :=
  ⟨fun l hl => List.mem_append_left _ (h.held l hl), by
    rw [List.filter_append, filter_neutral hws, List.append_nil, h.wrote], h.holds⟩

lemma core_view (h : Under ls es A L W db) (db' : Db) :
    core (view (E := lab) db' W) = core (view (E := lab) db' es) := by
  rw [core_view_filter, h.wrote]

lemma wp {p : Call α} (hA : Protects ls A) (hp : Neutral p) (hI : I db)
    (h : Under ls es A L W db) {P : α → List Lock → List Write → Db → Prop}
    (hP : ∀ a L W db, I db → Under ls es A L W db → P a L W db) :
    wp F (Locked labLocks I) G p (Ok P) L W db := by
  refine wp_neutral hp hI fun r L' ws db' hR hws => ?_
  cases r with
  | ok a => exact hP a _ _ _ hR.1 ((h.move hA hR).more L' hws)
  | error e => trivial

end Under

end IncidentGate.RowLocks
