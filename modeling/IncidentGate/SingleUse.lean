import IncidentGate.Delivery
import IncidentGate.Lib.RowLockTrace

/-!
An approval authorizes one operation.

The database keeps tokens unique in each operation scope only. Across scopes it is the order
of the locks that does it: the approval row is locked before it is checked and until it is
consumed, and no ledger row can appear under a locked approval.
-/

namespace IncidentGate.SingleUse

open Lib.ScriptTree Lib.ScriptTree.Script Lib.RowLock Lib.RowLockLogic Lib.RowLockTrace
open Lib.JsonText Contracts Fixtures Tables Refusals Kernel Specs Repository RowLocks Delivery

/-- The approval a ledger row was committed under. -/
structure Names (r : LedgerRow) (a : ApprovalRow) : Prop where
  token : a.token_id = r.approval_token_id
  consumed : a.consumed_at = some r.committed_at
  action_hash : a.action_hash = r.action_hash
  incident : a.incident_id = r.incident_id
  actor : a.actor = r.actor
  approver : a.approver = r.approver
  one_time_use : a.one_time_use_id = r.one_time_use_id

/-- The keys of the two tables hold, every ledger row names a consumed approval of its own,
and every consumed approval is named. -/
structure Accounted (db : Db) : Prop where
  one_row : (db.operation_ledger.map fun r => (r.operation_scope, r.idempotency_key)).Nodup
  one_approval : (db.approvals.map (·.token_id)).Nodup
  named : ∀ r ∈ db.operation_ledger, ∃ a ∈ db.approvals, Names r a
  one_token : (db.operation_ledger.map (·.approval_token_id)).Nodup
  consumed_named : ∀ a ∈ db.approvals, a.consumed_at.isSome →
    ∃ r ∈ db.operation_ledger, r.approval_token_id = a.token_id

namespace Accounted

lemma congr {db db' : Db} (hI : Accounted db') (h : core db = core db') : Accounted db := by
  obtain ⟨ha, hl⟩ := Prod.mk.inj h
  obtain ⟨h1, h2, h3, h4, h5⟩ := hI
  constructor <;> simpa only [ha, hl]

lemma approval_eq {db : Db} (h : Accounted db) {a b : ApprovalRow} (ha : a ∈ db.approvals)
    (hb : b ∈ db.approvals) (hab : a.token_id = b.token_id) : a = b :=
  List.inj_on_of_nodup_map h.one_approval ha hb hab

lemma row_eq {db : Db} (h : Accounted db) {r r' : LedgerRow} (hr : r ∈ db.operation_ledger)
    (hr' : r' ∈ db.operation_ledger) {s : String} {k : UUID} (hk : r.hasKey s k)
    (hk' : r'.hasKey s k) : r = r' := by
  refine List.inj_on_of_nodup_map h.one_row hr hr' ?_
  obtain ⟨rfl, rfl⟩ := hasKey_iff.mp hk
  obtain ⟨hs, hk⟩ := hasKey_iff.mp hk'
  rw [hs, hk]

end Accounted

/-! ### A delivery -/

section
variable {spec : OperationSpec} {context : ToolCallContext} {action : CanonicalAction}
  {token : ApprovalToken} {key : UUID}

lemma Accounted.unnamed {db : Db} (hI : Accounted db) (h : Authorized context action token db) :
    ∀ r ∈ db.operation_ledger, r.approval_token_id ≠ token.token_id := by
  intro r hr hrt
  obtain ⟨a, ha, -, hc⟩ := h
  obtain ⟨hmem, hat⟩ := mem_of_findApproval ha
  obtain ⟨b, hb, hn⟩ := hI.named r hr
  obtain rfl : a = b := hI.approval_eq hmem hb (by rw [hat, hn.token, hrt])
  rw [hn.consumed] at hc
  cases hc

lemma Accounted.spend {db : Db} (hI : Accounted db)
    (hA : Authorized context action token db) {now : Time} {result : Json} {row : LedgerRow}
    (hrow : row.toLedgerFields = ledgerFields spec context action token key now result)
    (hkey : Fresh spec key db) :
    Accounted { db with
      approvals := db.approvals.map (.consume token.token_id now)
      operation_ledger := db.operation_ledger ++ [row] } := by
  have hun := hI.unnamed hA
  obtain ⟨a, ha, hbind, -⟩ := hA
  obtain ⟨ha, hat⟩ := mem_of_findApproval ha
  have hother : ∀ b ∈ db.approvals, b.token_id ≠ token.token_id →
      b ∈ db.approvals.map (.consume token.token_id now) := fun b hb hne =>
    List.mem_map.mpr ⟨b, hb, consume_of_ne hne⟩
  constructor
  · -- the key of the new row is fresh
    simp only [List.map_append, List.nodup_append]
    refine ⟨hI.one_row, by simp, fun x hx y hy hxy => ?_⟩
    obtain ⟨r, hr, rfl⟩ := List.mem_map.mp hx
    obtain rfl : y = _ := by simpa using hy
    obtain ⟨hs, hk⟩ := Prod.mk.inj hxy
    have := hkey r hr
    rw [Bool.eq_false_iff] at this
    exact this (hasKey_iff.mpr ⟨by rw [hs, hrow]; rfl, by rw [hk, hrow]; rfl⟩)
  · have : (fun x : ApprovalRow => (x.consume token.token_id now).token_id) = (·.token_id) := by
      funext x; simp
    simpa [List.map_map, Function.comp_def, this] using hI.one_approval
  · -- the approval that is consumed is the one that the row names
    intro r hr
    rcases List.mem_append.mp hr with hr | hr
    · obtain ⟨b, hb, hn⟩ := hI.named r hr
      exact ⟨b, hother b hb (by rw [hn.token]; exact hun r hr), hn⟩
    · obtain rfl := List.mem_singleton.mp hr
      refine ⟨a.consume token.token_id now, List.mem_map.mpr ⟨a, ha, rfl⟩, ?_⟩
      constructor <;>
        simp [ApprovalRow.consume, hrow, ledgerFields, hat, hbind.row_hash, hbind.row_actor,
          hbind.incident _ rfl, hbind.approver, hbind.one_time_use]
  · -- no row named the token before
    simp only [List.map_append, List.nodup_append]
    refine ⟨hI.one_token, by simp, fun x hx y hy hxy => ?_⟩
    obtain ⟨r, hr, rfl⟩ := List.mem_map.mp hx
    obtain rfl : y = token.token_id := by simpa [hrow, ledgerFields] using hy
    exact hun r hr hxy
  · -- what is consumed now is named by the new row, and the rest as before
    intro c hc' hc
    obtain ⟨b, hb, rfl⟩ := List.mem_map.mp hc'
    by_cases hbt : b.token_id = token.token_id
    · refine ⟨_, List.mem_append_right _ (List.mem_singleton.mpr rfl), ?_⟩
      simp [hrow, ledgerFields, hbt]
    · rw [consume_of_ne hbt] at hc ⊢
      obtain ⟨r, hr, hrt⟩ := hI.consumed_named b hb hc
      exact ⟨r, List.mem_append_left _ hr, hrt⟩

/-- What a delivery commits keeps the account. -/
lemma Accounted.deliver {db : Db} (hI : Accounted db)
    {d : OperationLedgerResult ⊕ LedgerFields} {L : List Lock} {W : List Write} {db₀ : Db}
    (hd : Outcome spec context action token key d L W db₀)
    (hR : Locked labLocks Accounted L db₀ db) : Accounted (view (E := lab) db W) := by
  cases d with
  | inl result =>
    rw [hd.2]
    exact hI
  | inr ledger =>
    obtain ⟨n, now, result, hledger, hU⟩ := hd
    have hU' := hU.move Settled.protected hR
    have hrow : (⟨ledger, n⟩ : LedgerRow).toLedgerFields =
      ledgerFields spec context action token key now result := hledger
    refine (hI.spend hU'.holds.1 hrow hU'.holds.2).congr ?_
    rw [hU'.core_view db]
    rfl

end

/-! ### A reset -/

section
variable {inc : String} {K : List (String × UUID)} {T : List UUID}

/-- The deletions of a reset, ledger rows first. -/
def deletions (K : List (String × UUID)) (T : List UUID) : List Write :=
  K.map (fun k => .deleteLedger k.1 k.2) ++ T.map .deleteApproval

/-- The locks that keep what a reset knows of the rows it deletes. -/
def deletionLocks (K : List (String × UUID)) (T : List UUID) : List Lock :=
  K.map (fun k => .ledgerKey k.1 k.2) ++ T.map .approvalRow

def rowKey (r : LedgerRow) : String × UUID := (r.operation_scope, r.idempotency_key)

lemma core_deletions (K : List (String × UUID)) (T : List UUID) (db : Db) :
    core (view (E := lab) db (deletions K T)) =
      (db.approvals.filter (·.token_id ∉ T), db.operation_ledger.filter (rowKey · ∉ K)) := by
  induction K generalizing db with
  | nil =>
    induction T generalizing db with
    | nil => simp [deletions, core, view]
    | cons t T ih =>
      refine (ih (apply db (.deleteApproval t))).trans ?_
      simp [apply, List.filter_filter, Bool.and_comm]
  | cons k K ih =>
    refine (ih (apply db (.deleteLedger k.1 k.2))).trans (Prod.ext rfl ?_)
    simp only [apply, List.filter_filter]
    refine List.filter_congr fun r _ => ?_
    have hkey : r.hasKey k.1 k.2 = decide (rowKey r = k) := by
      rw [Bool.eq_iff_iff, hasKey_iff, decide_eq_true_iff, rowKey, Prod.ext_iff]
    simp [hkey, Bool.and_comm]

/-- Every ledger row deleted so far is the incident's. -/
def Owned (inc : String) (K : List (String × UUID)) (db : Db) : Prop :=
  ∀ r ∈ db.operation_ledger, rowKey r ∈ K → r.incident_id = inc

/-- The approval of a deleted ledger row is deleted or still to come. -/
def Covered (K : List (String × UUID)) (T rest : List UUID) (db : Db) : Prop :=
  ∀ r ∈ db.operation_ledger, rowKey r ∈ K → r.approval_token_id ∈ T ∨ r.approval_token_id ∈ rest

/-- Only deleted ledger rows name a deleted approval, but for those still to be checked. -/
def Checked (K : List (String × UUID)) (T rest : List UUID) (db : Db) : Prop :=
  ∀ t ∈ T, t ∈ rest ∨ ∀ r ∈ db.operation_ledger, r.approval_token_id = t → rowKey r ∈ K

lemma mem_of_keep {r : LedgerRow} {db db' : Db}
    (h : ∀ l ∈ deletionLocks K T, Keep l db db') (hr : r ∈ db'.operation_ledger)
    (hk : rowKey r ∈ K) : r ∈ db.operation_ledger := by
  have hkeep : Keep (.ledgerKey r.operation_scope r.idempotency_key) db db' :=
    h _ (List.mem_append_left _ (List.mem_map.mpr ⟨_, hk, rfl⟩))
  exact hkeep r hr (by simp)

lemma Owned.protected : Protects (deletionLocks K T) (Owned inc K) :=
  fun _ _ hk h r hr hrk => h r (mem_of_keep hk hr hrk) hrk

lemma Covered.protected {rest : List UUID} :
    Protects (deletionLocks K T) (fun db => Owned inc K db ∧ Covered K T rest db) :=
  fun _ _ hk h => ⟨Owned.protected _ _ hk h.1, fun r hr hrk => h.2 r (mem_of_keep hk hr hrk) hrk⟩

lemma Checked.protected {rest : List UUID} :
    Protects (deletionLocks K T) (fun db => Covered K T [] db ∧ Checked K T rest db) := by
  refine fun db db' hk h => ⟨fun r hr hrk => h.1 r (mem_of_keep hk hr hrk) hrk, fun t ht => ?_⟩
  refine (h.2 t ht).imp_right fun h r hr hrt => ?_
  have hkeep : Keep (.approvalRow t) db db' :=
    hk _ (List.mem_append_right _ (List.mem_map.mpr ⟨_, ht, rfl⟩))
  exact h r (hkeep.2 r hr hrt) hrt

lemma Accounted.delete {db : Db} (hI : Accounted db) (hcov : Covered K T [] db)
    (hchk : Checked K T [] db) : Accounted { db with
      approvals := db.approvals.filter (·.token_id ∉ T)
      operation_ledger := db.operation_ledger.filter (rowKey · ∉ K) } := by
  obtain ⟨h1, h2, h3, h4, h5⟩ := hI
  refine ⟨h1.sublist (List.filter_sublist.map _), h2.sublist (List.filter_sublist.map _),
    fun r hr => ?_, h4.sublist (List.filter_sublist.map _), fun a ha hc => ?_⟩
  · obtain ⟨hr, hrk⟩ := List.mem_filter.mp hr
    obtain ⟨a, ha, hn⟩ := h3 r hr
    refine ⟨a, List.mem_filter.mpr ⟨ha, decide_eq_true fun hat => ?_⟩, hn⟩
    rcases hchk _ hat with hnil | hrow
    · cases hnil
    · exact of_decide_eq_true hrk (hrow r hr hn.token.symm)
  · obtain ⟨ha, hat⟩ := List.mem_filter.mp ha
    obtain ⟨r, hr, hrt⟩ := h5 a ha hc
    refine ⟨r, List.mem_filter.mpr ⟨hr, decide_eq_true fun hrk => ?_⟩, hrt⟩
    rcases hcov r hr hrk with ht | hnil
    · exact of_decide_eq_true hat (hrt ▸ ht)
    · cases hnil

variable {L : List Lock} {W : List Write} {db : Db}
  {P : Unit → List Lock → List Write → Db → Prop}

lemma wp_delete_rows {keys : List (String × UUID)} (hI : Accounted db)
    (hU : Under (deletionLocks K []) (deletions K []) (Owned inc K) L W db)
    (hP : ∀ K L W db, Accounted db →
      Under (deletionLocks K []) (deletions K []) (Owned inc K) L W db → P () L W db) :
    wp True (Locked labLocks Accounted) (fun _ db' => Accounted db')
      (each keys fun k => execute (.deleteLedger k.1 k.2 inc)) (Ok P) L W db := by
  -- along the keys, `K` those already deleted
  induction keys generalizing K L W db with
  | nil => exact hP K L W db hI hU
  | cons k keys ih =>
    refine wp_bind (wp_execute fun db' c c' _ ws hR he => ?_)
    have hU' := hU.move Owned.protected hR
    simp only [exec] at he
    -- a row under the key is deleted where it is the incident's own
    split at he
    · rename_i row hrow
      obtain ⟨-, rfl⟩ := exec_ok_inj he
      split_ifs with hinc
      · refine ih (K := K ++ [k]) hR.1 ⟨?_, ?_, ?_⟩
        · intro l hl
          simp only [deletionLocks, List.map_append, List.map_nil, List.append_nil,
            List.mem_append] at hl
          rcases hl with hl | hl
          · exact List.mem_append_left _ (hU'.held l (by simpa [deletionLocks] using hl))
          · refine List.mem_append_right _ ?_
            simp only [locks, hrow]
            simp at hl
            simp [hl]
        · rw [List.filter_append, hU'.wrote]
          simp [deletions, neutral]
        · intro r hr hrk
          rcases List.mem_append.mp hrk with hrk | hrk
          · exact hU'.holds r hr hrk
          · obtain rfl := List.mem_singleton.mp hrk
            have hmem := List.mem_of_find?_eq_some hrow
            have hkey := List.find?_some hrow
            have hcore := (Prod.mk.inj (hU'.core_view db')).2
            rw [hcore, (Prod.mk.inj (core_deletions K [] db')).2] at hmem
            rw [hR.1.row_eq hr (List.mem_of_mem_filter hmem) (s := r.operation_scope)
              (k := r.idempotency_key) (by simp) hkey, hinc]
      · exact ih hR.1 (hU'.more _ (by simp))
    · obtain ⟨-, rfl⟩ := exec_ok_inj he
      exact ih hR.1 (hU'.more _ (by simp))

/-- In the account, the approval of a deleted row is still there to be deleted. -/
lemma findApproval_of_owned (hI : Accounted db) (hown : Owned inc K db) {r : LedgerRow}
    (hr : r ∈ db.operation_ledger) (hrk : rowKey r ∈ K) (ht : r.approval_token_id ∉ T)
    (hW : core (view (E := lab) db W) = core (view (E := lab) db (deletions K T))) :
    ∃ a, (view (E := lab) db W).findApproval r.approval_token_id = some a ∧
      a.incident_id = inc := by
  obtain ⟨a, ha, hn⟩ := hI.named r hr
  have hview : (view (E := lab) db W).approvals = db.approvals.filter (·.token_id ∉ T) := by
    rw [(Prod.mk.inj hW).1, (Prod.mk.inj (core_deletions K T db)).1]
  have hsome : ((view (E := lab) db W).findApproval r.approval_token_id).isSome := by
    rw [Db.findApproval, hview, List.find?_isSome]
    exact ⟨a, List.mem_filter.mpr ⟨ha, by simpa [hn.token] using ht⟩, by simp [hn.token]⟩
  obtain ⟨b, hb⟩ := Option.isSome_iff_exists.mp hsome
  obtain ⟨hmem, hbt⟩ := mem_of_findApproval hb
  rw [hview] at hmem
  obtain rfl : b = a :=
    hI.approval_eq (List.mem_of_mem_filter hmem) ha (hbt.trans hn.token.symm)
  exact ⟨b, hb, hn.incident.trans (hown r hr hrk)⟩

lemma wp_delete_each_approval {tokens : List UUID} (hI : Accounted db)
    (hU : Under (deletionLocks K T) (deletions K T)
      (fun db => Owned inc K db ∧ Covered K T tokens db) L W db)
    {P : List UUID → List Lock → List Write → Db → Prop}
    (hP : ∀ D L W db, Accounted db → Under (deletionLocks K (T ++ D)) (deletions K (T ++ D))
      (fun db => Owned inc K db ∧ Covered K (T ++ D) [] db) L W db → P D L W db) :
    wp True (Locked labLocks Accounted) (fun _ db' => Accounted db')
      (delete_each_approval inc tokens) (Ok P) L W db := by
  induction tokens generalizing T L W db P with
  | nil => exact hP [] L W db hI (by simpa using hU)
  | cons t tokens ih =>
    refine wp_bind (wp_execute fun db' c c' deleted ws hR he => ?_)
    have hU' := hU.move Covered.protected hR
    obtain ⟨hown, hcov⟩ := hU'.holds
    -- a token left in place names no deleted row
    have hkept : (∀ a, (view (E := lab) db' W).findApproval t = some a → a.incident_id ≠ inc) →
        Covered K T tokens db' := by
      intro hne r hr hrk
      by_contra hcon
      obtain ⟨hT, hrest⟩ := not_or.mp hcon
      obtain rfl : r.approval_token_id = t := by
        rcases hcov r hr hrk with h | h
        · exact absurd h hT
        · exact (List.mem_cons.mp h).resolve_right hrest
      obtain ⟨a, ha, hinc⟩ := findApproval_of_owned hR.1 hown hr hrk hT (hU'.core_view db')
      exact hne a ha hinc
    have hleft : deleted = false → ws = [] →
        (∀ a, (view (E := lab) db' W).findApproval t = some a → a.incident_id ≠ inc) →
        wp True (Locked labLocks Accounted) (fun _ db' => Accounted db')
          ((delete_each_approval inc tokens).bind fun others =>
            ret (if deleted then t :: others else others)) (Ok P)
          (L ++ locks (.deleteApproval t inc) (view (E := lab) db' W)) (W ++ ws) db' := by
      rintro rfl rfl hne
      refine wp_bind (ih hR.1 ⟨fun l hl => List.mem_append_left _ (hU'.held l hl),
        by simpa using hU'.wrote, hown, hkept hne⟩ fun D L W db hI hU => ?_)
      exact hP D L W db hI hU
    simp only [exec] at he
    split at he
    · rename_i a ha
      split_ifs at he with hinc
      · obtain ⟨rfl, rfl⟩ := exec_ok_inj he
        refine wp_bind (ih (T := T ++ [t]) hR.1 ⟨?_, ?_, hown, fun r hr hrk => ?_⟩
          fun D L W db hI hU => hP (t :: D) L W db hI (by simpa using hU))
        · intro l hl
          simp only [deletionLocks, List.map_append, ← List.append_assoc] at hl
          rcases List.mem_append.mp hl with hl | hl
          · exact List.mem_append_left _ (hU'.held l hl)
          · refine List.mem_append_right _ ?_
            simp only [List.map_cons, List.map_nil, List.mem_singleton] at hl
            simp [locks, ha, hl]
        · rw [List.filter_append, hU'.wrote]
          simp [deletions, neutral]
        · rcases hcov r hr hrk with h | h
          · exact .inl (List.mem_append_left _ h)
          · rcases List.mem_cons.mp h with h | h
            · exact .inl (List.mem_append_right _ (by simp [h]))
            · exact .inr h
      · obtain ⟨rfl, rfl⟩ := exec_ok_inj he
        refine hleft rfl rfl fun b hb => ?_
        rw [ha] at hb
        obtain rfl := Option.some.inj hb
        exact hinc
    · rename_i hnone
      obtain ⟨rfl, rfl⟩ := exec_ok_inj he
      exact hleft rfl rfl fun b hb => by simp [hnone] at hb

lemma wp_check_each {rest : List UUID} (hI : Accounted db)
    (hU : Under (deletionLocks K T) (deletions K T)
      (fun db => Covered K T [] db ∧ Checked K T rest db) L W db)
    (hP : ∀ L W db, Accounted db → Under (deletionLocks K T) (deletions K T)
      (fun db => Covered K T [] db ∧ Checked K T [] db) L W db → P () L W db) :
    wp True (Locked labLocks Accounted) (fun _ db' => Accounted db')
      (each rest fun token => execute (.checkApprovalUnreferenced token)) (Ok P) L W db := by
  induction rest generalizing L W db with
  | nil => exact hP L W db hI hU
  | cons t rest ih =>
    refine wp_bind (wp_execute fun db' c c' _ ws hR he => ?_)
    obtain ⟨hheld, hwrote, hcov, hchk⟩ := hU.move Checked.protected hR
    have hview : (view (E := lab) db' W).operation_ledger =
        db'.operation_ledger.filter (rowKey · ∉ K) := by
      rw [(Prod.mk.inj ((hU.move Checked.protected hR).core_view db')).2,
        (Prod.mk.inj (core_deletions K T db')).2]
    simp only [exec] at he
    split_ifs at he with hempty
    · obtain ⟨-, rfl⟩ := exec_ok_inj he
      refine ih hR.1 ⟨fun l hl => List.mem_append_left _ (hheld l hl), by simpa using hwrote,
        hcov, fun u hu => ?_⟩
      rcases hchk u hu with h | h
      · rcases List.mem_cons.mp h with rfl | h
        · -- no row but those deleted refers to the token
          refine .inr fun r hr hrt => ?_
          rw [List.isEmpty_iff, Db.references, hview, List.filter_eq_nil_iff] at hempty
          by_contra hrk
          exact hempty r (List.mem_filter.mpr ⟨hr, by simpa using hrk⟩) (by simpa using hrt)
        · exact .inl h
      · exact .inr h
    · simp at he

/-- A reset of an incident leaves an account, whatever others commit before it does. -/
lemma wp_delete_incident (hI : Accounted db) (hW : W.filter (fun w => !neutral w) = [])
    (hP : ∀ K T L W db, Accounted db → Under (deletionLocks K T) (deletions K T)
      (fun db => Covered K T [] db ∧ Checked K T [] db) L W db → P () L W db) :
    wp True (Locked labLocks Accounted) (fun _ db' => Accounted db') (delete_incident inc) (Ok P)
      L W db := by
  have hU : Under (deletionLocks [] []) (deletions [] []) (Owned inc []) L W db :=
    ⟨by simp [deletionLocks], by simpa [deletions] using hW, by simp [Owned]⟩
  refine wp_bind (hU.wp Owned.protected (asks_execute rfl) hI fun _ L W db hI hU => ?_)
  refine wp_bind (hU.wp Owned.protected (asks_execute rfl) hI fun _ L W db hI hU => ?_)
  refine wp_bind (hU.wp Owned.protected (asks_execute rfl) hI fun _ L W db hI hU => ?_)
  refine wp_bind (hU.wp Owned.protected (asks_execute rfl) hI fun _ L W db hI hU => ?_)
  refine wp_bind (wp_bind (hU.wp Owned.protected (asks_execute rfl) hI
    fun keys L W db hI hU => wp_delete_rows hI hU fun K L W db hI hU => ?_))
  refine wp_bind (wp_bind (wp_execute fun db' c c' tokens ws hR he => ?_))
  obtain ⟨rfl, rfl⟩ := exec_ok_inj he
  have hU' := hU.move Owned.protected hR
  have hcov : Covered K [] (((view (E := lab) db' W).approvals.filter
      (·.incident_id = inc)).map (·.token_id)) db' := fun r hr hrk => by
    obtain ⟨a, ha, hinc⟩ := findApproval_of_owned (T := []) hR.1 hU'.holds hr hrk (by simp)
      (hU'.core_view db')
    obtain ⟨hmem, hat⟩ := mem_of_findApproval ha
    exact .inr (List.mem_map.mpr ⟨a, List.mem_filter.mpr ⟨hmem, by simpa using hinc⟩, hat⟩)
  have hU₂ := hU'.more (locks (.scanApprovals inc) (view (E := lab) db' W))
    (List.forall_mem_nil _)
  refine wp_bind (wp_delete_each_approval hR.1 ⟨hU₂.held, hU₂.wrote, hU₂.holds, hcov⟩
    fun D L W db hI hU => wp_check_each hI
      ⟨hU.held, hU.wrote, hU.holds.2, fun t ht => .inl (by simpa using ht)⟩
      fun L W db hI hU => ?_)
  exact hU.wp Checked.protected (asks_execute rfl) hI fun _ L W db hI hU => hP K _ L W db hI hU

end

/-! ### Every program of the lab -/

lemma keeps_neutral {body : Call α} (h : Neutral body) :
    Keeps labLocks Accounted (transaction body) := by
  refine keeps_transaction fun db hI => wp_neutral h hI fun r L' ws db' _ hws => ?_
  cases r with
  | ok a =>
    refine fun db'' hR' => hR'.1.congr ?_
    rw [core_view_filter, List.nil_append, filter_neutral hws]
    rfl
  | error e => trivial

lemma keeps_append_audit_event {incident_id thread_id actor transition : String}
    {action_hash : Option ActionHash} {reason : Option String} {timestamp : Time}
    {attempt_id : Option UUID} :
    Keeps labLocks Accounted (append_audit_event incident_id thread_id actor transition
      action_hash reason timestamp attempt_id) := by
  have hvalid : Keeps labLocks Accounted (AuditTimelineEvent.validate incident_id
      (some thread_id) actor transition action_hash reason timestamp) := by
    unfold AuditTimelineEvent.validate
    split
    · exact .ret _
    · exact .raise _
  exact hvalid.bind fun event => keeps_neutral (asks_execute rfl)

lemma keeps_refusal_recorded {context : ToolCallContext} {action_hash : ActionHash}
    {body : Call α} (h : Keeps labLocks Accounted body) :
    Keeps labLocks Accounted (refusal_recorded context action_hash body) := by
  refine h.handle fun e => ?_
  cases e with
  | ApprovalDenied e =>
    dsimp only
    split
    · exact .raise _
    · exact (Keeps.input fun now => keeps_append_audit_event).bind fun _ => .raise _
  | _ => exact .raise _

lemma keeps_commit {spec : OperationSpec} (hspec : spec ∈ registered_operation_specs)
    {context : ToolCallContext} {action : CanonicalAction} {token : ApprovalToken}
    {response_loss : Bool} :
    Keeps labLocks Accounted (commit spec context action token response_loss) := by
  unfold commit
  split
  · exact .raise _
  · split
    · exact .raise _
    · split
      · exact .raise _
      · refine (keeps_refusal_recorded (keeps_transaction fun db hI => wp_ok_mono
          (fun d L W db hd db' hR => hR.1.deliver hd hR) (wp_deliver hspec))).bind
          fun delivered => ?_
        unfold respond ledger_result
        split
        · exact .ret _
        · split
          · exact .raise _
          · split
            · exact .raise _
            · exact .ret _

lemma keeps_record_approval {token : ApprovalToken} {incident_id : String} :
    Keeps labLocks Accounted (record_approval token incident_id) := by
  refine Keeps.handle (keeps_transaction fun db _ => wp_execute
    fun db₁ c c' _ ws hR he db' hR' => ?_) fun e => ?_
  · simp only [exec] at he
    split_ifs at he with htext huse
    · simp at he
    · simp at he
    obtain ⟨-, rfl⟩ := exec_ok_inj he
    -- the token's index entry is locked, so no approval of that token has appeared since
    have hnew : ∀ a ∈ db'.approvals, a.token_id ≠ token.token_id := by
      intro a ha hat
      have hkeep : Keep (.approvalKey token.token_id) db₁ db' :=
        hR'.2 (.approvalKey token.token_id) (by simp [locks, approvalRow])
      obtain ⟨b, hb, hbt⟩ := hkeep ⟨a, ha, hat⟩
      exact huse (List.any_eq_true.mpr ⟨b, hb, by simp [approvalRow, hbt]⟩)
    obtain ⟨h1, h2, h3, h4, h5⟩ := hR'.1
    refine ⟨h1, ?_, fun r hr => ?_, h4, fun a ha hc => ?_⟩
    · show ((db'.approvals ++ [approvalRow token incident_id]).map (·.token_id)).Nodup
      simp only [List.map_append, List.nodup_append]
      refine ⟨h2, by simp, fun x hx y hy hxy => ?_⟩
      obtain ⟨a, ha, rfl⟩ := List.mem_map.mp hx
      obtain rfl : y = token.token_id := by simpa [approvalRow] using hy
      exact hnew a ha hxy
    · obtain ⟨a, ha, hn⟩ := h3 r hr
      exact ⟨a, List.mem_append_left _ ha, hn⟩
    · rcases List.mem_append.mp ha with ha | ha
      · exact h5 a ha hc
      · obtain rfl := List.mem_singleton.mp ha
        simp [approvalRow] at hc
  · split
    · exact .raise _
    · exact .raise _

lemma keeps_delete_incident {incident_id : String} {rest : Unit → Call Unit}
    (h : ∀ u, Neutral (rest u)) :
    Keeps labLocks Accounted (transaction ((delete_incident incident_id).bind rest)) := by
  refine keeps_transaction fun db hI => wp_bind (wp_delete_incident hI rfl
    fun K T L W db hI hU => hU.wp Checked.protected (h ()) hI fun _ L W db _ hU db' hR => ?_)
  have hU' := hU.move Checked.protected hR
  refine (hR.1.delete hU'.holds.1 hU'.holds.2).congr ?_
  rw [hU'.core_view db', core_deletions]
  rfl

lemma keeps_initialize_if_absent {f : Fixture} :
    Keeps labLocks Accounted (initialize_if_absent f) := by
  have hnow : Neutral (.ask (.input .serverNow) ret : Call Time) :=
    ⟨trivial, fun _ => trivial⟩
  refine keeps_neutral (hnow.bind fun now => (asks_execute rfl).bind fun _ => ?_)
  split
  · exact Within.each fun r _ => asks_clock.bind fun now => asks_execute rfl
  · trivial

lemma keeps_reset {f : Fixture} : Keeps labLocks Accounted (reset f) := by
  refine Keeps.bind (keeps_delete_incident fun _ => ?_) fun _ => keeps_initialize_if_absent
  dsimp only
  split
  · exact (asks_execute rfl).bind fun _ => asks_execute rfl
  · exact asks_execute rfl

lemma keeps_inject {f : Fixture} : Keeps labLocks Accounted (inject f) := by
  have hrest : ∀ now, Neutral (do
      let updated ← execute (.updateFixture f (faulted now f))
      if (f = .scenario_target_state_D2 || f = .scenario_target_state_D3) && !updated then
        (raise .RuntimeError : Call Unit)
      each (injected_sources f) fun source => do
        let source_id ← uuid4
        execute (.insertSource ⟨source_id, incidentOf f, source.1, source.2, now⟩)) := by
    refine fun now => (asks_execute rfl).bind fun updated => ?_
    have hsources : Neutral (each (injected_sources f) fun source =>
        uuid4.bind fun source_id =>
        execute (.insertSource ⟨source_id, incidentOf f, source.1, source.2, now⟩)) :=
      Within.each fun source _ => asks_uuid4.bind fun id => asks_execute rfl
    dsimp only
    split
    · trivial
    · exact hsources
  refine Keeps.input fun now => ?_
  by_cases hf : f = .t8_fixture_state
  · simp only [hf, if_true]
    exact keeps_delete_incident fun _ => hf ▸ hrest now
  · simp only [hf, if_false]
    exact keeps_neutral (hrest now)

/-- What a session of the lab may run: the calls that touch approvals and the ledger, for any
arguments, and any other transaction, which touches neither. Only incidents in `resets` are
ever deleted. -/
inductive LabCall (resets : String → Prop) : Call Unit → Prop where
  | record_approval (token : ApprovalToken) (incident_id : String) :
    LabCall resets (record_approval token incident_id)
  | commit {spec : OperationSpec} (hspec : spec ∈ registered_operation_specs)
    (context : ToolCallContext) (action : CanonicalAction) (token : ApprovalToken)
    (response_loss : Bool) :
    LabCall resets ((commit spec context action token response_loss).bind fun _ => ret ())
  | reset {f : Fixture} (h : resets (incidentOf f)) : LabCall resets (reset f)
  | reset_incident {incident_id : String} (h : resets incident_id) :
    LabCall resets (reset_incident incident_id)
  | inject {f : Fixture} (h : f = .t8_fixture_state → resets (incidentOf f)) :
    LabCall resets (inject f)
  | initialize_if_absent (f : Fixture) : LabCall resets (initialize_if_absent f)
  | other {body : Call Unit} (h : Neutral body) : LabCall resets (transaction body)

lemma LabCall.keeps {resets : String → Prop} {p : Call Unit} (h : LabCall resets p) :
    Keeps labLocks Accounted p := by
  cases h with
  | record_approval token incident_id => exact keeps_record_approval
  | commit hspec context action token response_loss =>
    exact (keeps_commit hspec).bind fun _ => .ret _
  | reset _ => exact keeps_reset
  | @reset_incident incident_id _ =>
    have h : Keeps labLocks Accounted (transaction ((delete_incident incident_id).bind ret)) :=
      keeps_delete_incident fun _ => trivial
    simpa [Repository.reset_incident] using h
  | inject _ => exact keeps_inject
  | initialize_if_absent f => exact keeps_initialize_if_absent
  | other h => exact keeps_neutral h

/-- An approval authorizes one operation: in every state that any number of sessions reach,
in any order of their steps, the approvals and the ledger account for each other. -/
theorem single_use {ι : Type} [DecidableEq ι] {σ σ' : System lab ι Raised Unit}
    {tr : List (Event lab ι)} (happrovals : σ.db.approvals = [])
    (hledger : σ.db.operation_ledger = []) (hidle : ∀ i, σ.sess i = none)
    (h : Run (LabCall fun _ => True) σ tr σ') : Accounted σ'.db := by
  refine invariant_of_keeps statementwise (fun p hp => hp.keeps) ?_ hidle h
  constructor <;> simp [happrovals, hledger]

/-! ### A migration under one approval -/

def rollbackToken : ApprovalToken where
  approval_id := 1
  token_id := 2
  one_time_use_id := 3
  action_hash := sha256_hexdigest "deployment.rollback".toList
  actor := "agent"
  approver := "operator"
  requested_at := 0
  approved_at := 1
  expires_at := 900
  actor_ok := isNonEmpty_agent
  approver_ok := by decide
  window := by decide
  approved_within := by decide

/-- The approval that the token of `rollbackToken` stands for, of another action. -/
def tokenFor (action : CanonicalAction) : ApprovalToken :=
  { rollbackToken with action_hash := canonical_action_hash action }

def migrationContext : ToolCallContext where
  incident_id := "INC-R01"
  thread_id := "thread-1"
  correlation_id := "first"
  actor := "agent"
  permission := "operations:write"
  idempotency_key := some 7
  incident_id_ok := by decide
  thread_id_ok := by decide
  correlation_id_ok := by decide
  actor_ok := isNonEmpty_agent
  permission_ok := isNonEmpty_write

def migrationAction : CanonicalAction where
  action_id := 1
  incident_id := "INC-R01"
  thread_id := "thread-1"
  actor := "agent"
  permission := "operations:write"
  evidence_ids := ["evidence-1"]
  arguments := .rollback_migration_2026_08_10_5
  actor_ok := isNonEmpty_agent
  permission_ok := isNonEmpty_write
  evidence_cited := by simp
  evidence_sorted := by simp

def migrationToken : ApprovalToken := tokenFor migrationAction

def migrationSource : SourceRow := ⟨5, "INC-R01", "logs", .null, 0⟩

def migrationEvidence : EvidenceRow where
  evidence_id := "evidence-1"
  incident_id := "INC-R01"
  thread_id := "thread-1"
  correlation_id := "first"
  tool_name := "observability.logs"
  actor := "agent"
  permission := "observability:read"
  source_id := 5
  observed_at := 0
  expires_at := 300
  payload := .null

/-- The approval of an action under the token, and the evidence that the action cites. -/
def seed (action : CanonicalAction) (token : ApprovalToken) : Call Unit :=
  transaction do
    execute (.insertApproval (approvalRow token action.incident_id))
    execute (.insertSource { migrationSource with incident_id := action.incident_id })
    execute (.insertEvidence { migrationEvidence with incident_id := action.incident_id })

def migrationFault : Stored .r01_fixture_state :=
  ⟨(⟨true, "2026.08.10.5", true, 0, 0⟩ : R01State), rfl, rfl⟩

def migrationDb : Db where
  approvals := [approvalRow migrationToken "INC-R01"]
  immutable_evidence_source := [migrationSource]
  evidence_records := [migrationEvidence]
  fixtures := Function.update (fun _ => none) .r01_fixture_state (some migrationFault)

def noon : World lab where
  answer := fun _ i =>
    match i with
    | .clock => (10 : Int)
    | .uuid4 => (0 : UUID)
    | .serverNow => (10 : Int)
  fails := fun _ => false

def migration : Call OperationLedgerResult :=
  commit R01 migrationContext migrationAction migrationToken false

/-- What is left of a call whose ledger read has found nothing. -/
def afterRead : Call α → Call α
  | .ask (.stmt (.selectLedger _ _)) k => k (.ok none)
  | p => p

def raised : Except ε α → Option ε
  | .ok _ => none
  | .error e => some e

/-- The lab before anyone has approved the migration. -/
def unapprovedDb : Db := { migrationDb with approvals := [] }

/-- The migration under another key. -/
def migrationAgain : Call OperationLedgerResult :=
  commit R01 { migrationContext with idempotency_key := some 8 } migrationAction migrationToken
    false

/-- One call after another leaves the lab so. -/
def approvedLab : Solo lab :=
  (solo noon (record_approval migrationToken "INC-R01") ⟨unapprovedDb, {}, 0, []⟩).2

def migratedLab : Solo lab :=
  (solo noon (migration.bind fun _ => ret ()) ⟨approvedLab.db, approvedLab.seq, 0, []⟩).2

def refusedLab : Except Raised Unit × Solo lab :=
  solo noon (afterRead (migrationAgain.bind fun _ => ret ()))
    ⟨migratedLab.db, migratedLab.seq, 0, []⟩

lemma refused_lab : refusedLab.2.db.operation_ledger.length = 1 ∧
    raised refusedLab.1 =
      some (.ApprovalDenied ⟨"approval is missing, expired, consumed, or not bound to this action",
        some (approval_invalid TOKEN_CONSUMED), none⟩) := by decide +kernel

lemma run_call {ι : Type} [DecidableEq ι] {resets : String → Prop} {σ : System lab ι Raised Unit}
    {p : Call Unit} (hp : LabCall resets p) {i : ι} (hi : σ.sess i = none)
    (hfree : ∀ j s, σ.sess j = some s → s.held = []) :
    ∃ tr σ', Run (LabCall resets) σ tr σ' ∧
      σ'.db = (solo noon p ⟨σ.db, σ.seq, 0, []⟩).2.db ∧
      σ'.seq = (solo noon p ⟨σ.db, σ.seq, 0, []⟩).2.seq ∧ σ'.sess = σ.sess := by
  obtain ⟨tr, σ', hr, honly, hdb, hseq, -⟩ := run_of_solo (LabCall resets) (w := noon)
    (fun _ => rfl) 0 (σ := { σ with sess := Function.update σ.sess i (some ⟨p, [], []⟩) })
    (Function.update_self ..) fun j s hj hjs => hfree j s (by simpa [hj] using hjs)
  refine ⟨_, _, ((append ((Run.nil σ).snoc (.start hi hp)) hr).snoc (.drop (i := i))), hdb, hseq,
    ?_⟩
  funext j
  by_cases hji : j = i
  · rw [hji, hi]
    exact Function.update_self ..
  · refine (Function.update_of_ne hji _ _).trans ?_
    rw [sess_eq (fun e he => (honly e he).elim fun op h => ⟨i, op, h⟩) (fun op hop => ?_) hr]
    · exact Function.update_of_ne hji _ _
    · obtain ⟨op', hop'⟩ := honly _ hop
      exact hji (Event.turn.inj hop').1

lemma run_read : Run (LabCall fun _ => True)
    (⟨approvedLab.db, approvedLab.seq, fun _ => none⟩ : System lab Bool Raised Unit)
    ([.start false] ++ [.turn false (.stmt (.selectLedger R01.operation_scope 8))])
    ⟨approvedLab.db, approvedLab.seq, Function.update (fun _ => none) false
      (some ⟨afterRead (migrationAgain.bind fun _ => ret ()), [], []⟩)⟩ := by
  have hspec : R01 ∈ registered_operation_specs := by simp [registered_operation_specs]
  have hcall : LabCall (fun _ => True) (migrationAgain.bind fun _ => ret ()) := .commit hspec ..
  have hstart : Step (LabCall fun _ => True)
      (⟨approvedLab.db, approvedLab.seq, fun _ => none⟩ : System lab Bool Raised Unit)
      (.start false) ⟨approvedLab.db, approvedLab.seq, Function.update (fun _ => none) false
        (some ⟨migrationAgain.bind fun _ => ret (), [], []⟩)⟩ := .start rfl hcall
  have hread : Step (LabCall fun _ => True)
      (⟨approvedLab.db, approvedLab.seq, Function.update (fun _ => none) false
        (some ⟨migrationAgain.bind fun _ => ret (), [], []⟩)⟩ : System lab Bool Raised Unit)
      (.turn false (.stmt (.selectLedger R01.operation_scope 8)))
      ⟨approvedLab.db, approvedLab.seq, Function.update (Function.update (fun _ => none) false
        (some ⟨migrationAgain.bind fun _ => ret (), [], []⟩)) false
        (some ⟨afterRead (migrationAgain.bind fun _ => ret ()), [], []⟩)⟩ :=
    .turn (s := ⟨migrationAgain.bind fun _ => ret (), [], []⟩) rfl
      (.stmt (fun l hl => absurd hl List.not_mem_nil) rfl)
  rw [Function.update_idem] at hread
  exact ((Run.nil _).snoc hstart).snoc hread

/-- Two sessions race for one approval, under two keys. The second finds no ledger row before the
first commits, and is refused. -/
theorem single_use_of_race : ∃ tr σ, Run (LabCall fun _ => True)
      (⟨unapprovedDb, {}, fun _ => none⟩ : System lab Bool Raised Unit) tr σ ∧
    σ.db.operation_ledger.length = 1 ∧ (∃ r, σ.outcome false = some r ∧
      raised r = some (.ApprovalDenied
        ⟨"approval is missing, expired, consumed, or not bound to this action",
          some (approval_invalid TOKEN_CONSUMED), none⟩)) ∧
    Accounted σ.db := by
  have hspec : R01 ∈ registered_operation_specs := by simp [registered_operation_specs]
  obtain ⟨tr₁, ⟨db₁, seq₁, sess₁⟩, h₁, hdb₁, hseq₁, hsess₁⟩ := run_call (i := true)
    (σ := ⟨unapprovedDb, {}, fun _ => none⟩) (.record_approval migrationToken "INC-R01") rfl
    fun j s hs => by cases hs
  obtain rfl : db₁ = approvedLab.db := hdb₁
  obtain rfl : seq₁ = approvedLab.seq := hseq₁
  obtain rfl : sess₁ = fun _ => none := hsess₁
  have h₂ := append h₁ run_read
  -- the first session commits while the second waits
  obtain ⟨tr₃, ⟨db₃, seq₃, sess₃⟩, h₃, hdb₃, hseq₃, hsess₃⟩ := run_call (i := true)
    (LabCall.commit hspec migrationContext migrationAction migrationToken false)
    (σ := ⟨approvedLab.db, approvedLab.seq, Function.update (fun _ => none) false
      (some ⟨afterRead (migrationAgain.bind fun _ => ret ()), [], []⟩)⟩) rfl fun j s hs => by
        cases j
        · obtain rfl := Option.some.inj hs
          rfl
        · cases hs
  obtain rfl : db₃ = migratedLab.db := hdb₃
  obtain rfl : seq₃ = migratedLab.seq := hseq₃
  obtain ⟨tr₄, σ₄, h₄, -, hdb₄, -, hout₄⟩ := run_of_solo (LabCall fun _ => True) (w := noon)
    (fun _ => rfl) 0 (i := false) (σ := ⟨migratedLab.db, migratedLab.seq, sess₃⟩)
    (by rw [hsess₃]; rfl) fun j s hj hs => by
      rw [hsess₃] at hs
      simp [hj] at hs
  have hrun := append (append h₂ h₃) h₄
  refine ⟨_, σ₄, hrun, ?_, ⟨_, hout₄, refused_lab.2⟩, single_use rfl rfl (fun _ => rfl) hrun⟩
  rw [hdb₄]
  exact refused_lab.1

end IncidentGate.SingleUse
