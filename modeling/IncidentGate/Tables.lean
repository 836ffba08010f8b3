import IncidentGate.Fixtures
import IncidentGate.Lib.RowLock

/-!
The lab's tables, the statements its code issues on them, and the rows and index entries each
statement locks.

A table is the list of its committed rows. A `DELETE … WHERE` over rows that others may lock
is issued row by row: a scan, then each row locked, checked again and deleted.
-/

namespace IncidentGate.Tables

open Lib.JsonText Lib.RowLock Contracts Fixtures

/-! ### Rows -/

structure ApprovalRow where
  token_id : UUID
  one_time_use_id : UUID
  incident_id : String
  action_hash : ActionHash
  actor : String
  approver : String
  requested_at : Time
  expires_at : Time
  approved_at : Time
  consumed_at : Option Time
  window : requested_at < expires_at
  approved_within : requested_at ≤ approved_at ∧ approved_at < expires_at

/-- The columns an INSERT into `operation_ledger` gives; `sequence` is generated. -/
structure LedgerFields where
  operation_scope : String
  idempotency_key : UUID
  action_hash : ActionHash
  approval_token_id : UUID
  one_time_use_id : UUID
  incident_id : String
  thread_id : String
  correlation_id : String
  actor : String
  permission : String
  approver : String
  result : Json
  arguments : Option Json
  committed_at : Time

structure LedgerRow extends LedgerFields where
  sequence : ℕ

structure AuditFields where
  audit_id : UUID
  incident_id : String
  event_type : String
  actor : String
  payload : Json
  created_at : Time

structure AuditRow extends AuditFields where
  sequence : ℕ

structure SourceRow where
  source_id : UUID
  incident_id : String
  kind : String
  payload : Json
  observed_at : Time

structure EvidenceRow where
  evidence_id : String
  incident_id : String
  thread_id : String
  correlation_id : String
  tool_name : String
  actor : String
  permission : String
  source_id : UUID
  observed_at : Time
  expires_at : Time
  payload : Json

structure RecordRow where
  record_id : String
  incident_id : String
  kind : String
  digest : String
  content : String
  created_at : Time

structure NoteRow where
  note_id : UUID
  incident_id : String
  thread_id : String
  correlation_id : String
  actor : String
  destination : String
  source_ref : String
  body : String
  written_at : Time

structure HistoryRow where
  history_id : UUID
  incident_id : String
  sequence : Int
  operation_scope : String
  changed_paths : Json
  before_state : Json
  after_state : Json

structure Db where
  approvals : List ApprovalRow := []
  operation_ledger : List LedgerRow := []
  audit_timeline : List AuditRow := []
  immutable_evidence_source : List SourceRow := []
  evidence_records : List EvidenceRow := []
  fixtures : (f : Fixture) → Option (Stored f) := fun _ => none
  t1_immutable_record : List RecordRow := []
  t1_outbound_note_store : List NoteRow := []
  t8_remediation_history : List HistoryRow := []

/-- The identity columns, which no rollback takes back. -/
structure Counters where
  ledger : ℕ := 0
  audit : ℕ := 0

inductive DbError where
  | UniqueViolation
  | ForeignKeyViolation
  | CheckViolation
  | NumericValueOutOfRange
  | DataError
  | OperationalError
  deriving DecidableEq

/-! ### Statements -/

structure EvidenceQuery where
  evidence_ids : List String
  incident_id : String
  thread_id : String
  correlation_id : String
  actor : String
  now : Time

inductive Stmt where
  /-- `SELECT * FROM operation_ledger WHERE operation_scope AND idempotency_key FOR UPDATE` -/
  | selectLedger (scope : String) (key : UUID)
  /-- `SELECT * FROM approvals WHERE token_id FOR UPDATE` -/
  | selectApproval (token : UUID)
  | countEvidence (q : EvidenceQuery)
  /-- `SELECT … FROM <fixture> FOR UPDATE` -/
  | lockFixture (f : Fixture)
  /-- `SELECT … FROM <fixture>` -/
  | readFixture (f : Fixture)
  | readRecord (incident kind : String)
  /-- `SELECT result FROM operation_ledger WHERE incident_id ORDER BY sequence ASC` -/
  | readResults (incident : String)
  /-- `SELECT … FROM operation_ledger WHERE operation_scope AND idempotency_key` -/
  | readLedger (scope : String) (key : UUID)
  /-- `SELECT * FROM operation_ledger WHERE incident_id AND thread_id AND correlation_id
  ORDER BY committed_at LIMIT 2` -/
  | readThread (incident thread correlation : String)
  /-- `SELECT operation_scope, idempotency_key FROM operation_ledger WHERE incident_id AND
  operation_scope = ANY ORDER BY sequence ASC` -/
  | readOperations (incident : String) (scopes : List String)
  /-- `SELECT count(*) FROM t1_outbound_note_store WHERE incident_id` -/
  | countNotes (incident : String)
  | updateFixture (f : Fixture) (set : Row f → Row f)
  | insertFixtureIfAbsent (f : Fixture) (r : Stored f)
  | deleteFixture (f : Fixture)
  | insertLedger (r : LedgerFields)
  | insertAudit (a : AuditFields)
  /-- `INSERT INTO audit_timeline … ON CONFLICT (audit_id) DO NOTHING` -/
  | insertAuditIfAbsent (a : AuditFields)
  | consumeApproval (token : UUID) (now : Time)
  | insertApproval (a : ApprovalRow)
  | insertSource (s : SourceRow)
  | insertEvidence (e : EvidenceRow)
  | insertRecordIfAbsent (r : RecordRow)
  | insertNote (n : NoteRow)
  | insertHistory (h : HistoryRow)
  | scanLedger (incident : String)
  | deleteLedger (scope : String) (key : UUID) (incident : String)
  | scanApprovals (incident : String)
  | deleteApproval (token : UUID) (incident : String)
  /-- The trigger of the ledger's foreign key for a deleted approval. -/
  | checkApprovalUnreferenced (token : UUID)
  | deleteNotes (incident : String)
  | deleteHistory (incident : String)
  | deleteEvidence (incident : String)
  | deleteSources (incident : String)
  | deleteRecords (incident : String)
  | deleteAudits (incident : String)

@[reducible] def Reply : Stmt → Type
  | .selectLedger .. => Option LedgerRow
  | .selectApproval .. => Option ApprovalRow
  | .countEvidence .. => ℕ
  | .lockFixture f => Option (Row f)
  | .readFixture f => Option (Row f)
  | .readRecord .. => Option RecordRow
  | .readResults .. => List Json
  | .readLedger .. => Option LedgerRow
  | .readThread .. => List LedgerRow
  | .readOperations .. => List (String × UUID)
  | .countNotes .. => ℕ
  | .updateFixture .. => Bool
  | .scanLedger .. => List (String × UUID)
  | .scanApprovals .. => List UUID
  | .deleteApproval .. => Bool
  | _ => Unit

inductive Lock where
  | ledgerRow (scope : String) (key : UUID)
  | approvalRow (token : UUID)
  | fixtureRow (f : Fixture)
  /-- An entry of a unique index, held by whoever inserts or deletes under it. -/
  | ledgerKey (scope : String) (key : UUID)
  | ledgerToken (scope : String) (token : UUID)
  | ledgerUse (scope : String) (one_time_use_id : UUID)
  | approvalKey (token : UUID)
  | approvalUse (one_time_use_id : UUID)
  | auditKey (id : UUID)
  | fixtureKey (f : Fixture)
  | noteKey (id : UUID)
  | historyKey (id : UUID)
  | historySequence (incident : String) (sequence : Int)
  | sourceKey (id : UUID)
  | evidenceKey (id : String)
  | recordKey (id : String)
  deriving DecidableEq

inductive Write where
  | insertLedger (r : LedgerRow)
  | deleteLedger (scope : String) (key : UUID)
  | insertApproval (a : ApprovalRow)
  | consumeApproval (token : UUID) (now : Time)
  | deleteApproval (token : UUID)
  | insertAudit (a : AuditRow)
  | updateFixture (f : Fixture) (r : Stored f)
  | insertFixture (f : Fixture) (r : Stored f)
  | deleteFixture (f : Fixture)
  | insertSource (s : SourceRow)
  | insertEvidence (e : EvidenceRow)
  | insertRecord (r : RecordRow)
  | insertNote (n : NoteRow)
  | insertHistory (h : HistoryRow)
  | deleteNotes (incident : String)
  | deleteHistory (incident : String)
  | deleteEvidence (incident : String)
  | deleteSources (incident : String)
  | deleteRecords (incident : String)
  | deleteAudits (incident : String)

def LedgerFields.hasKey (r : LedgerFields) (scope : String) (key : UUID) : Bool :=
  r.operation_scope = scope && r.idempotency_key = key

def ApprovalRow.consume (token : UUID) (now : Time) (a : ApprovalRow) : ApprovalRow :=
  if a.token_id = token then { a with consumed_at := some now } else a

def apply (db : Db) : Write → Db
  | .insertLedger r => { db with operation_ledger := db.operation_ledger ++ [r] }
  | .deleteLedger s k =>
    { db with operation_ledger := db.operation_ledger.filter fun r => !r.hasKey s k }
  | .insertApproval a => { db with approvals := db.approvals ++ [a] }
  | .consumeApproval t now => { db with approvals := db.approvals.map (.consume t now) }
  | .deleteApproval t => { db with approvals := db.approvals.filter (·.token_id ≠ t) }
  | .insertAudit a => { db with audit_timeline := db.audit_timeline ++ [a] }
  | .updateFixture f r =>
    { db with fixtures := Function.update db.fixtures f ((db.fixtures f).map fun _ => r) }
  | .insertFixture f r =>
    { db with fixtures := Function.update db.fixtures f (some ((db.fixtures f).getD r)) }
  | .deleteFixture f => { db with fixtures := Function.update db.fixtures f none }
  | .insertSource s =>
    { db with immutable_evidence_source := db.immutable_evidence_source ++ [s] }
  | .insertEvidence e => { db with evidence_records := db.evidence_records ++ [e] }
  | .insertRecord r => { db with t1_immutable_record := db.t1_immutable_record ++ [r] }
  | .insertNote n => { db with t1_outbound_note_store := db.t1_outbound_note_store ++ [n] }
  | .insertHistory h => { db with t8_remediation_history := db.t8_remediation_history ++ [h] }
  | .deleteNotes i => { db with
      t1_outbound_note_store := db.t1_outbound_note_store.filter (·.incident_id ≠ i) }
  | .deleteHistory i => { db with
      t8_remediation_history := db.t8_remediation_history.filter (·.incident_id ≠ i) }
  | .deleteEvidence i => { db with
      evidence_records := db.evidence_records.filter (·.incident_id ≠ i) }
  | .deleteSources i => { db with
      immutable_evidence_source := db.immutable_evidence_source.filter (·.incident_id ≠ i) }
  | .deleteRecords i => { db with
      t1_immutable_record := db.t1_immutable_record.filter (·.incident_id ≠ i) }
  | .deleteAudits i => { db with
      audit_timeline := db.audit_timeline.filter (·.incident_id ≠ i) }

namespace Db

def findLedger (db : Db) (scope : String) (key : UUID) : Option LedgerRow :=
  db.operation_ledger.find? fun r => r.hasKey scope key

def findApproval (db : Db) (token : UUID) : Option ApprovalRow :=
  db.approvals.find? fun a => a.token_id = token

/-- `tool_name = CASE WHEN source.kind = 'db_pool_metrics' THEN 'metrics.db_pool'
ELSE 'observability.' || source.kind END` -/
def sourceTool (s : SourceRow) : String :=
  if s.kind = "db_pool_metrics" then "metrics.db_pool" else "observability." ++ s.kind

/-- The evidence rows joined with their sources that a call may cite. -/
def citable (db : Db) (q : EvidenceQuery) : List (EvidenceRow × SourceRow) :=
  db.evidence_records.flatMap fun e =>
    (db.immutable_evidence_source.filter fun s =>
      s.source_id = e.source_id && q.evidence_ids.contains e.evidence_id &&
        e.incident_id = q.incident_id && e.thread_id = q.thread_id &&
        e.correlation_id = q.correlation_id && e.actor = q.actor && q.now < e.expires_at &&
        e.permission = "observability:read" && e.tool_name = sourceTool s).map fun s => (e, s)

/-- The ledger rows of one incident, in the order of their sequence. -/
def ordered (db : Db) (incident : String) : List LedgerRow :=
  (db.operation_ledger.filter (·.incident_id = incident)).insertionSort
    fun a b => a.sequence ≤ b.sequence

/-- The ledger rows of one thread of an incident, the earliest committed first. -/
def onThread (db : Db) (incident thread correlation : String) : List LedgerRow :=
  (db.operation_ledger.filter fun r => r.incident_id = incident && r.thread_id = thread &&
    r.correlation_id = correlation).insertionSort fun a b => a.committed_at ≤ b.committed_at

/-- The rows `operation_ledger` holds for an approval. -/
def references (db : Db) (token : UUID) : List LedgerRow :=
  db.operation_ledger.filter fun r => r.approval_token_id = token

end Db

/-! ### What a statement locks, replies and writes -/

def locks : Stmt → Db → List Lock
  | .selectLedger s k, db => if (db.findLedger s k).isSome then [.ledgerRow s k] else []
  | .selectApproval t, db => if (db.findApproval t).isSome then [.approvalRow t] else []
  | .lockFixture f, db => if (db.fixtures f).isSome then [.fixtureRow f] else []
  | .updateFixture f _, db => if (db.fixtures f).isSome then [.fixtureRow f] else []
  | .insertFixtureIfAbsent f _, _ => [.fixtureKey f]
  | .deleteFixture f, db =>
    if (db.fixtures f).isSome then [.fixtureRow f, .fixtureKey f] else []
  | .insertLedger r, _ =>
    [.ledgerKey r.operation_scope r.idempotency_key,
     .ledgerToken r.operation_scope r.approval_token_id,
     .ledgerUse r.operation_scope r.one_time_use_id, .approvalRow r.approval_token_id]
  | .insertAudit a, _ => [.auditKey a.audit_id]
  | .insertAuditIfAbsent a, _ => [.auditKey a.audit_id]
  | .consumeApproval t _, db => if (db.findApproval t).isSome then [.approvalRow t] else []
  | .insertApproval a, _ => [.approvalKey a.token_id, .approvalUse a.one_time_use_id]
  | .insertSource s, _ => [.sourceKey s.source_id]
  | .insertEvidence e, _ => [.evidenceKey e.evidence_id, .sourceKey e.source_id]
  | .insertRecordIfAbsent r, _ => [.recordKey r.record_id]
  | .insertNote n, _ => [.noteKey n.note_id]
  | .insertHistory h, _ => [.historyKey h.history_id, .historySequence h.incident_id h.sequence]
  | .deleteLedger s k _, db =>
    match db.findLedger s k with
    | some r => [.ledgerRow s k, .ledgerKey s k, .ledgerToken s r.approval_token_id,
        .ledgerUse s r.one_time_use_id]
    | none => []
  | .deleteApproval t _, db =>
    match db.findApproval t with
    | some a => [.approvalRow t, .approvalKey t, .approvalUse a.one_time_use_id]
    | none => []
  | .checkApprovalUnreferenced t, db =>
    (db.references t).map fun r => .ledgerRow r.operation_scope r.idempotency_key
  | .deleteNotes i, db =>
    (db.t1_outbound_note_store.filter (·.incident_id = i)).map fun n => .noteKey n.note_id
  | .deleteHistory i, db =>
    (db.t8_remediation_history.filter (·.incident_id = i)).flatMap fun h =>
      [.historyKey h.history_id, .historySequence h.incident_id h.sequence]
  | .deleteEvidence i, db =>
    (db.evidence_records.filter (·.incident_id = i)).map fun e => .evidenceKey e.evidence_id
  | .deleteSources i, db =>
    (db.immutable_evidence_source.filter (·.incident_id = i)).map fun s => .sourceKey s.source_id
  | .deleteRecords i, db =>
    (db.t1_immutable_record.filter (·.incident_id = i)).map fun r => .recordKey r.record_id
  | .deleteAudits i, db =>
    (db.audit_timeline.filter (·.incident_id = i)).map fun a => .auditKey a.audit_id
  | .countEvidence _, _ | .readFixture _, _ | .readRecord .., _ | .readResults _, _
  | .readLedger .., _ | .readThread .., _ | .readOperations .., _ | .countNotes _, _
  | .scanLedger _, _ | .scanApprovals _, _ => []

/-- A TEXT parameter: the driver refuses the character NUL. -/
def isText (s : String) : Bool := !s.toList.contains '\x00'

mutual

/-- A JSONB parameter: the server refuses NUL in a string, and a float that is no number. -/
def isJsonb : Json → Bool
  | .str s => isText s
  | .arr xs => isJsonbItems xs
  | .obj fields => isJsonbFields fields
  | .float text => text ∉ nonFinite
  | .null | .bool _ | .int _ => true

def isJsonbItems : List Json → Bool
  | [] => true
  | x :: xs => isJsonb x && isJsonbItems xs

def isJsonbFields : List (String × Json) → Bool
  | [] => true
  | (k, v) :: rest => isText k && isJsonb v && isJsonbFields rest

end

def LedgerFields.isInsertable (r : LedgerFields) : Bool :=
  isText r.operation_scope && isText r.incident_id && isText r.thread_id &&
    isText r.correlation_id && isText r.actor && isText r.permission && isText r.approver &&
    isJsonb r.result && (r.arguments.all isJsonb)

def AuditFields.isInsertable (a : AuditFields) : Bool :=
  isText a.incident_id && isText a.event_type && isText a.actor && isJsonb a.payload

/-- An UPDATE of the one row of a fixture table. -/
def updateRow (f : Fixture) (set : Row f → Row f) (r : Stored f) :
    Except DbError (Stored f) :=
  if hc : ((table f).counters (set r.1)).all isCount = true then
    if hk : (table f).check (set r.1) = true then .ok ⟨set r.1, hc, hk⟩
    else .error .CheckViolation
  else .error .NumericValueOutOfRange

def exec : (q : Stmt) → Counters → Db → Counters × Except DbError (Reply q × List Write)
  | .selectLedger s k, c, db => (c, .ok (db.findLedger s k, []))
  | .selectApproval t, c, db => (c, .ok (db.findApproval t, []))
  | .countEvidence q, c, db =>
    if q.evidence_ids.all isText && isText q.incident_id && isText q.thread_id &&
        isText q.correlation_id && isText q.actor then
      (c, .ok ((db.citable q).length, []))
    else (c, .error .DataError)
  | .lockFixture f, c, db => (c, .ok ((db.fixtures f).map (·.1), []))
  | .readFixture f, c, db => (c, .ok ((db.fixtures f).map (·.1), []))
  | .readRecord i k, c, db =>
    (c, .ok (db.t1_immutable_record.find? fun r => r.incident_id = i && r.kind = k, []))
  | .readResults i, c, db => (c, .ok ((db.ordered i).map (·.result), []))
  | .readLedger s k, c, db =>
    if isText s then (c, .ok (db.findLedger s k, [])) else (c, .error .DataError)
  | .readThread i thread correlation, c, db =>
    if isText i && isText thread && isText correlation then
      (c, .ok ((db.onThread i thread correlation).take 2, []))
    else (c, .error .DataError)
  | .readOperations i scopes, c, db =>
    (c, .ok (((db.ordered i).filter (scopes.contains ·.operation_scope)).map fun r =>
      (r.operation_scope, r.idempotency_key), []))
  | .countNotes i, c, db =>
    if isText i then
      (c, .ok ((db.t1_outbound_note_store.filter (·.incident_id = i)).length, []))
    else (c, .error .DataError)
  | .updateFixture f set, c, db =>
    match db.fixtures f with
    | none => (c, .ok (false, []))
    | some r =>
      match updateRow f set r with
      | .ok r' => (c, .ok (true, [.updateFixture f r']))
      | .error e => (c, .error e)
  | .insertFixtureIfAbsent f r, c, db =>
    if (db.fixtures f).isSome then (c, .ok ((), [])) else (c, .ok ((), [.insertFixture f r]))
  | .deleteFixture f, c, db =>
    if (db.fixtures f).isSome then (c, .ok ((), [.deleteFixture f])) else (c, .ok ((), []))
  | .insertLedger r, c, db =>
    if !r.isInsertable then (c, .error .DataError)
    else
      let c' := { c with ledger := c.ledger + 1 }
      if db.operation_ledger.any fun x => x.hasKey r.operation_scope r.idempotency_key ||
          (x.operation_scope = r.operation_scope &&
            (x.approval_token_id = r.approval_token_id ||
              x.one_time_use_id = r.one_time_use_id)) then
        (c', .error .UniqueViolation)
      else if (db.findApproval r.approval_token_id).isNone then (c', .error .ForeignKeyViolation)
      else (c', .ok ((), [.insertLedger ⟨r, c'.ledger⟩]))
  | .insertAudit a, c, db =>
    if !a.isInsertable then (c, .error .DataError)
    else
      let c' := { c with audit := c.audit + 1 }
      if db.audit_timeline.any (·.audit_id = a.audit_id) then (c', .error .UniqueViolation)
      else (c', .ok ((), [.insertAudit ⟨a, c'.audit⟩]))
  | .insertAuditIfAbsent a, c, db =>
    if !a.isInsertable then (c, .error .DataError)
    else
      let c' := { c with audit := c.audit + 1 }
      if db.audit_timeline.any (·.audit_id = a.audit_id) then (c', .ok ((), []))
      else (c', .ok ((), [.insertAudit ⟨a, c'.audit⟩]))
  | .consumeApproval t now, c, db =>
    if (db.findApproval t).isSome then (c, .ok ((), [.consumeApproval t now]))
    else (c, .ok ((), []))
  | .insertApproval a, c, db =>
    if !(isText a.incident_id && isText a.actor && isText a.approver) then (c, .error .DataError)
    else if db.approvals.any fun x =>
        x.token_id = a.token_id || x.one_time_use_id = a.one_time_use_id then
      (c, .error .UniqueViolation)
    else (c, .ok ((), [.insertApproval a]))
  | .insertSource s, c, db =>
    if !(isText s.incident_id && isText s.kind && isJsonb s.payload) then (c, .error .DataError)
    else if db.immutable_evidence_source.any (·.source_id = s.source_id) then
      (c, .error .UniqueViolation)
    else (c, .ok ((), [.insertSource s]))
  | .insertEvidence e, c, db =>
    if !(isText e.evidence_id && isText e.incident_id && isText e.thread_id &&
        isText e.correlation_id && isText e.tool_name && isText e.actor && isText e.permission &&
        isJsonb e.payload) then (c, .error .DataError)
    else if e.expires_at ≤ e.observed_at then (c, .error .CheckViolation)
    else if db.evidence_records.any (·.evidence_id = e.evidence_id) then
      (c, .error .UniqueViolation)
    else if !db.immutable_evidence_source.any (·.source_id = e.source_id) then
      (c, .error .ForeignKeyViolation)
    else (c, .ok ((), [.insertEvidence e]))
  | .insertRecordIfAbsent r, c, db =>
    if db.t1_immutable_record.any (·.record_id = r.record_id) then (c, .ok ((), []))
    else (c, .ok ((), [.insertRecord r]))
  | .insertNote n, c, db =>
    if !(isText n.thread_id && isText n.correlation_id && isText n.actor) then
      (c, .error .DataError)
    else if db.t1_outbound_note_store.any (·.note_id = n.note_id) then
      (c, .error .UniqueViolation)
    else (c, .ok ((), [.insertNote n]))
  | .insertHistory h, c, db =>
    if !(isCount h.sequence) then (c, .error .NumericValueOutOfRange)
    else if h.sequence = 0 then (c, .error .CheckViolation)
    else if db.t8_remediation_history.any fun x => x.history_id = h.history_id ||
        (x.incident_id = h.incident_id && x.sequence = h.sequence) then
      (c, .error .UniqueViolation)
    else (c, .ok ((), [.insertHistory h]))
  | .scanLedger i, c, db =>
    (c, .ok ((db.operation_ledger.filter (·.incident_id = i)).map fun r =>
      (r.operation_scope, r.idempotency_key), []))
  | .deleteLedger s k i, c, db =>
    match db.findLedger s k with
    | some r => (c, .ok ((), if r.incident_id = i then [.deleteLedger s k] else []))
    | none => (c, .ok ((), []))
  | .scanApprovals i, c, db =>
    (c, .ok ((db.approvals.filter (·.incident_id = i)).map (·.token_id), []))
  | .deleteApproval t i, c, db =>
    match db.findApproval t with
    | some a =>
      if a.incident_id = i then (c, .ok (true, [.deleteApproval t])) else (c, .ok (false, []))
    | none => (c, .ok (false, []))
  | .checkApprovalUnreferenced t, c, db =>
    if (db.references t).isEmpty then (c, .ok ((), [])) else (c, .error .ForeignKeyViolation)
  | .deleteNotes i, c, _ => (c, .ok ((), [.deleteNotes i]))
  | .deleteHistory i, c, _ => (c, .ok ((), [.deleteHistory i]))
  | .deleteEvidence i, c, _ => (c, .ok ((), [.deleteEvidence i]))
  | .deleteSources i, c, db =>
    if db.evidence_records.any fun e => db.immutable_evidence_source.any fun s =>
        s.incident_id = i && s.source_id = e.source_id then (c, .error .ForeignKeyViolation)
    else (c, .ok ((), [.deleteSources i]))
  | .deleteRecords i, c, _ => (c, .ok ((), [.deleteRecords i]))
  | .deleteAudits i, c, _ => (c, .ok ((), [.deleteAudits i]))

/-- What a program asks of the world outside the database. -/
inductive Input where
  /-- The injected clock. -/
  | clock
  | uuid4
  /-- The database server's `now()`, where a column defaults to it. -/
  | serverNow

@[reducible] def Answer : Input → Type
  | .clock => Time
  | .uuid4 => UUID
  | .serverNow => Time

/-- The database as an engine of row-locking transactions. -/
@[reducible] def lab : Engine where
  Db := Db
  Seq := Counters
  Stmt := Stmt
  Reply := Reply
  Err := DbError
  Lock := Lock
  Write := Write
  Input := Input
  Answer := Answer
  apply := apply
  locks := locks
  exec := exec
  failure := .OperationalError

end IncidentGate.Tables
