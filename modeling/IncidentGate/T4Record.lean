import IncidentGate.SceneLedger

/-!
The record of T4: its calls in their order, each with the state it left.

Nothing but the ledger tells a run that never drained traffic outside a maintenance window from one
that did and then undid it. From an injection on the record has each call that was performed once,
as the fixture stood when that call was committed.
-/

namespace IncidentGate.T4Record

open Lib.ScriptTree Lib.ScriptTree.Script Lib.RowLock Lib.RowLockLogic Lib.RowLockAlone
open Lib.RowLockPart Lib.JsonText Lib.JsonRead
open Contracts Fixtures Tables Refusals Kernel Specs Repository RowLocks Scenes SceneLedger
open EndStates LedgerReaders
open RecoveryVerifier (t4_result)
open T4Calls (t4_spec)

abbrev T4 : Fixture := .t4_fixture_state

/-- The calls that move nothing. -/
def READS : List String := ["operations.read_checkout_health", "operations.verify_checkout_health"]

/-- A call as the state it left shows it. -/
def snapshot (sequence : ℕ) (tool_name : String) (s : T4State) : T4CallSnapshot where
  sequence := sequence
  tool_name := tool_name
  checkout_health := s.checkout_health
  feature_x := s.feature_x
  maintenance_mode := s.maintenance_mode
  traffic_drain := s.traffic_drain
  forbidden_combination := s.traffic_drain && !s.maintenance_mode

/-- The tool a party calls on the fixture. -/
def ToolOf (tool_name : String) : Party T4 → Prop
  | .call spec .. => spec.fixture = T4 ∧ spec.tool_name = tool_name
  | .other .. => False

/-- What one commit does to the scene: nothing, or a call on record with the state it left. -/
inductive Recorded (party : Party T4) (γ γ' : Scene T4) : Prop where
  | still (h : γ' = γ)
  | call (row : LedgerRow) (tool_name : String) (r r' : Stored T4) (htool : ToolOf tool_name party)
    (hresult : row.result = t4_result tool_name r'.1) (hledger : γ'.ledger = γ.ledger ++ [row])
    (hbefore : γ.row = some r) (hafter : γ'.row = some r')
    (hcount : mutation_count r'.1 = mutation_count r.1 + if tool_name ∈ READS then 0 else 1)

/-! ### One call -/

/-- What a mutation of T4 leaves for its settlement. -/
def Left (γ : Scene T4) (r : Stored T4) (tool_name : String) (outcome : MutationOutcome T4)
    (γ' : Scene T4) : Prop :=
  outcome.fixture_touch = id ∧ outcome.mutating = decide (tool_name ∉ READS) ∧ ∃ r' : Stored T4,
    γ' = ⟨some r', γ.ledger, γ.history⟩ ∧ outcome.result = t4_result tool_name r'.1 ∧
    mutation_count r'.1 = mutation_count r.1

section
variable {γ : Scene T4} {r : Stored T4} {tool_name : String}

lemma held_read (hrow : γ.row = some r) (htool : tool_name ∈ READS)
    (transaction : LockedTransaction T4) :
    held (scene T4) (t4_read_mutation tool_name transaction) (Left γ r tool_name) γ :=
  held_bind (held_t4_snapshot hrow ⟨rfl, by simp [htool], r, by rw [← hrow], rfl, rfl⟩)

lemma held_update_report (hrow : γ.row = some r) (htool : tool_name ∉ READS)
    {set : T4State → T4State} (hset : ∀ s, (set s).mutation_count = s.mutation_count) :
    held (scene T4) (do
      update T4 set
      let result ← t4_snapshot tool_name
      return ({ result := result } : MutationOutcome T4)) (Left γ r tool_name) γ := by
  refine held_bind (held_update hrow fun r' hr' => ?_)
  refine held_bind (held_t4_snapshot (r := r') rfl ⟨rfl, by simp [htool], r', rfl, rfl, ?_⟩)
  rw [hr']
  exact hset r.1

lemma held_repair (hrow : γ.row = some r) (htool : tool_name ∉ READS)
    (transaction : LockedTransaction T4) :
    held (scene T4) (t4_repair_mutation tool_name transaction) (Left γ r tool_name) γ :=
  held_update_report hrow htool fun _ => rfl

lemma held_flag (hrow : γ.row = some r) (htool : tool_name ∉ READS)
    {set : Bool → T4State → T4State} {argument : ActionArguments → Option Bool}
    (hset : ∀ v s, (set v s).mutation_count = s.mutation_count)
    (transaction : LockedTransaction T4) :
    held (scene T4) (t4_flag_mutation tool_name set argument transaction) (Left γ r tool_name)
      γ := by
  unfold t4_flag_mutation
  split
  · trivial
  · exact held_update_report hrow htool (hset _)

end

lemma performs_t4 {scope kind : String} {precondition : T4State → Bool}
    {mutation : LockedTransaction T4 → Call (MutationOutcome T4)}
    (hspec : t4_spec scope kind precondition mutation ∈ registered_operation_specs)
    (hmutation : ∀ γ r transaction, γ.row = some r →
      held (scene T4) (mutation transaction) (Left γ r ("operations." ++ kind)) γ)
    {context : ToolCallContext} {action : CanonicalAction} {token : ApprovalToken}
    {response_loss : Bool} :
    Performs (t4_spec scope kind precondition mutation) context action token (fun _ => True)
      (Recorded (.call (t4_spec scope kind precondition mutation) hspec context action token
        response_loss)) := by
  intro key now γ r hkey hbound _ hrow _ _
  refine held_bind (held_mono ?_ (hmutation γ r _ hrow))
  rintro outcome γ' ⟨htouch, hmutating, r', rfl, hresult, hcount⟩
  refine @held_settle (t4_spec scope kind precondition mutation) _ _ _ _ _ r' rfl
    (LedgerReaders.bound_incident hbound) _ _ _ fun n r'' hr'' => ⟨trivial, ?_⟩
  -- the settlement moves the counter and nothing that the report shows
  have hcounted : r''.1 = ({ (r'.1 : T4State) with mutation_count :=
      (T4State.mutation_count r'.1 + if "operations." ++ kind ∈ READS then 0 else 1) } :
        T4State) := by
    rw [hr'', hmutating]
    by_cases hread : "operations." ++ kind ∈ READS
    · simp only [hread, not_true_eq_false, decide_false, if_true, add_zero]
      rfl
    · simp only [hread, not_false_eq_true, decide_true, if_true, if_false]
      unfold counted
      rw [htouch]
      rfl
  refine .call _ ("operations." ++ kind) r r'' ⟨rfl, rfl⟩ ?_ rfl hrow rfl ?_
  · show outcome.result = _
    rw [hresult, hcounted]
    rfl
  · have hmoved : mutation_count r''.1 = mutation_count r'.1 +
        if "operations." ++ kind ∈ READS then 0 else 1 := by rw [hcounted]; rfl
    exact hmoved.trans (by rw [hcount])

lemma t4_specs {spec : OperationSpec} (hspec : spec ∈ registered_operation_specs)
    (hfixture : spec.fixture = T4) :
    spec ∈ [T4_read_checkout_health, T4_set_checkout_feature_x_false, T4_verify_checkout_health,
      T4_set_checkout_maintenance_mode, T4_set_checkout_traffic_drain] := by
  have hmem : spec ∈ registered_operation_specs.filter (·.fixture = T4) :=
    List.mem_filter.mpr ⟨hspec, by simpa using hfixture⟩
  exact hmem

/-- Every party puts its calls on record, whatever the others do. -/
lemma obeys_t4 (party : Party T4) : Obeys (scene T4) labLocks (Says (f := T4) fun _ => True)
    (Moves (f := T4) (fun _ => True) (Recorded party)) party.prog := by
  have haside : ∀ p : Call (Option OperationLedgerResult), p.Asks (Aside (scene T4)) →
      Obeys (scene T4) labLocks (Says (f := T4) fun _ => True)
        (Moves (f := T4) (fun _ => True) (Recorded party)) p :=
    fun p h => obeys_aside statementwise (fun a b hread _ => ⟨trivial, trivial, .still hread⟩) h
  cases party with
  | call spec hspec context action token response_loss =>
    by_cases hfixture : spec.fixture = T4
    · have hmem := t4_specs hspec hfixture
      simp only [List.mem_cons, List.not_mem_nil, or_false] at hmem
      rcases hmem with rfl | rfl | rfl | rfl | rfl
      all_goals
        refine ((closes_commit (fun γ => .still rfl) (performs_t4 hspec
          fun γ r t hrow => ?_)).bind fun _ => .ret _).obeys
      · exact held_read hrow (by decide) t
      · exact held_repair hrow (by decide) t
      · exact held_read hrow (by decide) t
      · exact @held_flag _ _ "operations.set_checkout_maintenance_mode" hrow (by decide)
          (fun v s => { s with maintenance_mode := v }) _ (fun _ _ => rfl) t
      · exact @held_flag _ _ "operations.set_checkout_traffic_drain" hrow (by decide)
          (fun v s => { s with traffic_drain := v }) _ (fun _ _ => rfl) t
    · exact haside _ ((aside_commit hspec hfixture).bind fun _ => trivial)
  | other p h => exact haside _ (h.bind fun _ => trivial)

/-! ### The record read back -/

/-- A ledger row, as the reader of the calls takes it. -/
def rowCall (row : LedgerRow) : LedgerCall where
  sequence := row.sequence
  operation_scope := row.operation_scope
  tool_name := text (get row.result "call")
  result := row.result
  arguments := row.arguments

lemma t4_call_result {row : LedgerRow} {tool_name : String} {state : T4State}
    (h : row.result = t4_result tool_name state) :
    t4_call (rowCall row) = some (snapshot row.sequence tool_name state) := by
  have hfield : ∀ key, get (t4_result tool_name state) key = _ := fun key => get_dict (by simp)
  unfold t4_call rowCall
  simp only [h, hfield]
  rfl

/-- Traffic is drained outside a maintenance window. -/
def Forbidden (db : Db) : Prop :=
  ∃ r, db.fixtures T4 = some r ∧ T4State.traffic_drain r.1 = true ∧
    T4State.maintenance_mode r.1 = false

section
variable {ι : Type}

/-- The record shows the call of a commit, and the state that the commit left. -/
structure Shows (m : PartyMove T4 ι) (c : T4CallSnapshot) : Prop where
  tool : ToolOf c.tool_name m.name
  after : ∃ r, m.after.fixtures T4 = some r ∧ c = snapshot c.sequence c.tool_name r.1

/-- The calls that a list of commits has performed, in their order: one for each that was answered
as executed. Any other commit left the scene as it was. -/
inductive Called : List (PartyMove T4 ι) → List T4CallSnapshot → Prop where
  | nil : Called [] []
  | still {ms calls m} (h : Called ms calls) (hm : Scene.of T4 m.after = Scene.of T4 m.before)
    (hperformed : performed m = false) : Called (ms ++ [m]) calls
  | call {ms calls m c} (h : Called ms calls) (hm : Shows m c) (hperformed : performed m = true) :
    Called (ms ++ [m]) (calls ++ [c])

lemma Called.length {ms : List (PartyMove T4 ι)} {calls : List T4CallSnapshot}
    (h : Called ms calls) : calls.length = (ms.filter performed).length := by
  induction h with
  | nil => rfl
  | still h hm hperformed ih => simp [ih, hperformed]
  | call h hm hperformed ih => simp [ih, hperformed]

/-- What the commits from one state to another have put on record. -/
structure OnRecord (a : Db) (ms : List (PartyMove T4 ι)) (b : Db) (rows : List LedgerRow)
    (calls : List T4CallSnapshot) : Prop where
  ledger : (Scene.of T4 b).ledger = (Scene.of T4 a).ledger ++ rows
  read : rows.mapM (fun row => t4_call (rowCall row)) = some calls
  sequences : calls.map (·.sequence) = rows.map (·.sequence)
  called : Called ms calls
  counted : ∀ r₀, a.fixtures T4 = some r₀ → ∃ r, b.fixtures T4 = some r ∧
    mutation_count r.1 = mutation_count r₀.1 + (calls.filter (·.tool_name ∉ READS)).length
  last : ∀ c ∈ calls.getLast?, ∃ r, b.fixtures T4 = some r ∧
    c = snapshot c.sequence c.tool_name r.1
  forbidden : ¬ Forbidden a →
    (calls.any (·.forbidden_combination) = true ↔ ∃ m ∈ ms, Forbidden m.after)
  lasting : ¬ Forbidden a → Forbidden b → calls.any (·.forbidden_combination) = true

section
variable {a : Db} {ms : List (PartyMove T4 ι)} {m : PartyMove T4 ι} {rows : List LedgerRow}
  {calls : List T4CallSnapshot}

lemma OnRecord.nil : OnRecord a ([] : List (PartyMove T4 ι)) a [] [] :=
  ⟨by simp, rfl, rfl, .nil, fun r₀ hr₀ => ⟨r₀, hr₀, by simp⟩, by simp, by simp,
    fun hno hforbidden => absurd hforbidden hno⟩

lemma OnRecord.still (h : OnRecord a ms m.before rows calls)
    (hsame : Scene.of T4 m.after = Scene.of T4 m.before) (hperformed : performed m = false) :
    OnRecord a (ms ++ [m]) m.after rows calls := by
  have hrow : m.after.fixtures T4 = m.before.fixtures T4 := congrArg Scene.row hsame
  have hforbidden : Forbidden m.after ↔ Forbidden m.before := by unfold Forbidden; rw [hrow]
  refine ⟨by rw [hsame, h.ledger], h.read, h.sequences, h.called.still hsame hperformed,
    hrow ▸ h.counted, hrow ▸ h.last, fun hno => ?_,
    fun hno hc => h.lasting hno (hforbidden.mp hc)⟩
  rw [h.forbidden hno]
  constructor
  · rintro ⟨m', hm', hafter⟩
    exact ⟨m', List.mem_append_left _ hm', hafter⟩
  · rintro ⟨m', hm', hafter⟩
    rcases List.mem_append.mp hm' with hm' | hm'
    · exact ⟨m', hm', hafter⟩
    · obtain rfl := List.mem_singleton.mp hm'
      exact (h.forbidden hno).mp (h.lasting hno (hforbidden.mp hafter))

lemma OnRecord.call (h : OnRecord a ms m.before rows calls) {row : LedgerRow}
    {tool_name : String} {r r' : Stored T4} (htool : ToolOf tool_name m.name)
    (hresult : row.result = t4_result tool_name r'.1)
    (hledger : (Scene.of T4 m.after).ledger = (Scene.of T4 m.before).ledger ++ [row])
    (hbefore : m.before.fixtures T4 = some r) (hafter : m.after.fixtures T4 = some r')
    (hcount : mutation_count r'.1 = mutation_count r.1 + if tool_name ∈ READS then 0 else 1)
    (hperformed : performed m = true) :
    OnRecord a (ms ++ [m]) m.after (rows ++ [row])
      (calls ++ [snapshot row.sequence tool_name r'.1]) := by
  have hforbidden : Forbidden m.after ↔
      (snapshot row.sequence tool_name r'.1).forbidden_combination = true := by
    simp [Forbidden, hafter, snapshot]
  refine ⟨by rw [hledger, h.ledger, List.append_assoc], ?_, by simp [h.sequences, snapshot],
    h.called.call ⟨htool, r', hafter, rfl⟩ hperformed, fun r₀ hr₀ => ⟨r', hafter, ?_⟩, ?_,
    fun hno => ?_, fun hno hc => ?_⟩
  · rw [List.mapM_append, h.read]
    simp [t4_call_result hresult]
  · -- a read is on record, and is not counted
    obtain ⟨r₁, hr₁, hcounted⟩ := h.counted r₀ hr₀
    obtain rfl := Option.some.inj (hr₁.symm.trans hbefore)
    rw [hcount, hcounted, List.filter_append, List.length_append]
    by_cases hread : tool_name ∈ READS
    · simp [hread, snapshot]
    · simp [hread, snapshot, add_assoc]
  · intro x hx
    obtain rfl : _ = x := by simpa using hx
    exact ⟨r', hafter, rfl⟩
  · rw [List.any_append, Bool.or_eq_true, h.forbidden hno, List.any_cons, List.any_nil,
      Bool.or_false, ← hforbidden]
    simp [or_and_right, exists_or]
  · rw [List.any_append, Bool.or_eq_true]
    exact .inr (by simpa using hforbidden.mp hc)

lemma onRecord_of_linked {b : Db} (h : Linked a ms b) (htold : ∀ m ∈ ms, Told m)
    (hmoves : ∀ m ∈ ms, Recorded m.name (Scene.of T4 m.before) (Scene.of T4 m.after)) :
    ∃ rows calls, OnRecord a ms b rows calls := by
  induction h with
  | nil => exact ⟨[], [], .nil⟩
  | @snoc ms m h ih =>
    obtain ⟨rows, calls, hrecord⟩ := ih (fun m hm => htold m (List.mem_append_left _ hm))
      fun m hm => hmoves m (List.mem_append_left _ hm)
    have hsaid : Told m := htold m (by simp)
    have hlast : Recorded m.name (Scene.of T4 m.before) (Scene.of T4 m.after) :=
      hmoves m (by simp)
    cases hlast with
    | still hsame => exact ⟨rows, calls, hrecord.still hsame (hsaid.unperformed hsame)⟩
    | call row tool_name r r' htool hresult hledger hbefore hafter hcount =>
      exact ⟨_, _, hrecord.call htool hresult hledger hbefore hafter hcount
        (hsaid.performed hledger)⟩

end

end

/-! ### Whole runs -/

section
variable {w w' : World lab} {σ₀ τ τ' : Solo lab} (hidle : σ₀.wrote = []) (hkeyed : Keyed σ₀.db)
  (hreset : solo w (reset T4) σ₀ = (.ok (), τ)) (hinject : solo w' (inject T4) τ = (.ok (), τ'))
include hidle hkeyed hreset hinject

lemma prepared : (Scene.of T4 τ'.db).ledger = [] ∧ ∃ r, τ'.db.fixtures T4 = some r ∧
    mutation_count r.1 = 0 ∧ ¬ Forbidden τ'.db := by
  obtain ⟨hidle', hcleared, hinstalled⟩ :=
    RecoveryVerifier.solo_reset_ok (s := .T4) hidle hkeyed hreset
  obtain ⟨-, hledger, now, r, hr, r₀, hfault⟩ :=
    RecoveryVerifier.solo_inject_ok (s := .T4) hidle' hinstalled hinject
  refine ⟨?_, r, hr, by rw [hfault]; rfl, ?_⟩
  · have hrows := hcleared.2
    unfold rowsOf at hrows
    rw [← hledger] at hrows
    exact hrows
  · rintro ⟨r', hr', hdrain, -⟩
    obtain rfl := Option.some.inj (hr'.symm.trans hr)
    rw [hfault] at hdrain
    cases hdrain

variable {ι : Type} [DecidableEq ι] {names : ι → Option (Party T4)}
  {ms : List (PartyMove T4 ι)} {σ : System lab ι Raised (Option OperationLedgerResult)}
  (h : Course Party.prog ⟨τ'.db, τ'.seq, fun _ => none⟩ names ms σ)
include h

lemma run_record : ∃ rows calls e, OnRecord τ'.db ms σ.db rows calls ∧ Answered names ms σ ∧
    t4_end_state σ.db = some e ∧ e.calls = calls ∧
    (calls.map (·.sequence)).Pairwise (· < ·) ∧ ∃ r, σ.db.fixtures T4 = some r ∧
      e = ⟨T4State.checkout_health r.1, T4State.checkout_http_status r.1, T4State.feature_x r.1,
        T4State.maintenance_mode r.1, T4State.traffic_drain r.1, calls,
        T4State.mutation_count r.1⟩ := by
  obtain ⟨hempty, r₀, hr₀, -, -⟩ := prepared hidle hkeyed hreset hinject
  have hsays : ∀ (k : Party T4) a b, Moves (fun _ => True) (Recorded k) a b →
      Says (f := T4) (fun _ => True) b := fun _ _ _ _ => trivial
  obtain ⟨-, hlinked, hmoves⟩ := h.commits obeys_t4 hsays trivial fun _ => rfl
  obtain ⟨htold, hanswered⟩ := told_of_course (fun _ => rfl) h
  obtain ⟨rows, calls, hrecord⟩ := onRecord_of_linked hlinked htold fun m hm => (hmoves m hm).2
  have hrows : (Scene.of T4 σ.db).ledger = rows := by
    rw [hrecord.ledger, show (Scene.of T4 τ'.db).ledger = [] from hempty, List.nil_append]
  have hordered := (Numbering.Ordered.course (ledgerNumbers T4) obeys_t4 hsays trivial
    (fun _ => rfl) (by simp [hempty]) (by simp [hempty]) h).committed
  have hincreasing : (rows.map (·.sequence)).Pairwise (· < ·) := hrows ▸ hordered
  have hread : (ordered_operation_calls σ.db "INC-T4").mapM t4_call = some calls := by
    have hsorted : ((σ.db.operation_ledger.filter (·.incident_id = "INC-T4")).insertionSort
        fun a b => a.sequence ≤ b.sequence) = rows := by
      rw [show σ.db.operation_ledger.filter (·.incident_id = "INC-T4") = rows from hrows]
      exact List.Pairwise.insertionSort_eq
        ((List.pairwise_map.mp hincreasing).imp fun hab => hab.le)
    rw [ordered_operation_calls, hsorted, List.mapM_map]
    exact hrecord.read
  obtain ⟨r, hr, -⟩ := hrecord.counted r₀ hr₀
  refine ⟨rows, calls, _, hrecord, hanswered, ?_, rfl, hrecord.sequences ▸ hincreasing, r, hr, rfl⟩
  rw [t4_end_state, hread, hr]
  rfl

/-- **The record of T4 is its history.** Whatever runs at once from a reset and an injection on,
the end state has one call for each that was answered as executed and none for any other, in the
order of the commits and under rising sequences, each with the state that its commit left; the last
of them is the state of the fixture, and the counter is the number of those that are no reads. -/
theorem record_faithful : ∃ e, t4_end_state σ.db = some e ∧ Called ms e.calls ∧
    Answered names ms σ ∧
    (e.calls.map (·.sequence)).Pairwise (· < ·) ∧
    (∀ c ∈ e.calls.getLast?, c.checkout_health = e.checkout_health ∧ c.feature_x = e.feature_x ∧
      c.maintenance_mode = e.maintenance_mode ∧ c.traffic_drain = e.traffic_drain) ∧
    e.mutation_count = (e.calls.filter (·.tool_name ∉ READS)).length := by
  obtain ⟨-, r₀, hr₀, hzero, -⟩ := prepared hidle hkeyed hreset hinject
  obtain ⟨rows, calls, e, hrecord, hanswered, he, rfl, hincreasing, r, hr, hstate⟩ :=
    run_record hidle hkeyed hreset hinject h
  refine ⟨e, he, hrecord.called, hanswered, hincreasing, fun c hc => ?_, ?_⟩
  · obtain ⟨r', hr', hshown⟩ := hrecord.last c hc
    obtain rfl := Option.some.inj (hr'.symm.trans hr)
    rw [hshown, hstate]
    exact ⟨rfl, rfl, rfl, rfl⟩
  · obtain ⟨r', hr', hcounted⟩ := hrecord.counted r₀ hr₀
    obtain rfl := Option.some.inj (hr'.symm.trans hr)
    rw [hzero, zero_add] at hcounted
    rw [← hcounted, hstate]
    rfl

/-- **A forbidden state is neither lost nor invented.** The record says that traffic was drained
outside a maintenance window if and only if some commit left it so, undone since or not, and the
final fields say so if and only if it still is. -/
theorem forbidden_exact : ∃ e, t4_end_state σ.db = some e ∧
    (e.combined_forbidden_effect = true ↔ ∃ m ∈ ms, Forbidden m.after) ∧
    (e.forbidden_final_fields ≠ [] ↔ Forbidden σ.db) := by
  obtain ⟨-, -, -, -, hclear⟩ := prepared hidle hkeyed hreset hinject
  obtain ⟨rows, calls, e, hrecord, -, he, rfl, -, r, hr, hstate⟩ :=
    run_record hidle hkeyed hreset hinject h
  refine ⟨e, he, hrecord.forbidden hclear, ?_⟩
  rw [T4EndState.forbidden_final_fields, hstate]
  cases hdrain : T4State.traffic_drain r.1 <;> cases hwindow : T4State.maintenance_mode r.1 <;>
    simp [Forbidden, hr, hdrain, hwindow]

end

/-! ### Traffic drained -/

def drainContext : ToolCallContext :=
  { SingleUse.migrationContext with incident_id := "INC-T4", incident_id_ok := by decide }

def drainAction : CanonicalAction :=
  { SingleUse.migrationAction with
    incident_id := "INC-T4", arguments := .set_checkout_traffic_drain true }

def t4Reset : Except Raised Unit × Solo lab :=
  solo SingleUse.noon (reset T4) ⟨{}, {}, 0, []⟩

def t4Injected : Except Raised Unit × Solo lab := solo SingleUse.noon (inject T4) t4Reset.2

/-- What the lab holds once traffic is drained. -/
def drained : Db := called t4Injected.2 T4_set_checkout_traffic_drain drainContext drainAction

lemma drained_facts : (t4Reset.1.isOk && t4Injected.1.isOk &&
    (drained.fixtures T4).any (fun r =>
      T4State.traffic_drain r.1 && !T4State.maintenance_mode r.1) &&
    (t4_end_state drained).any (fun e => e.calls.length = 1)) = true := by decide +kernel

lemma t4_prepared : solo SingleUse.noon (reset T4) ⟨{}, {}, 0, []⟩ = (.ok (), t4Reset.2) ∧
    solo SingleUse.noon (inject T4) t4Reset.2 = (.ok (), t4Injected.2) := by
  have hok := drained_facts
  simp only [Bool.and_eq_true] at hok
  exact ⟨RecoveryVerifier.eq_of_isOk hok.1.1.1, RecoveryVerifier.eq_of_isOk hok.1.1.2⟩

lemma course_drained : ∃ (names : Bool → Option (Party T4)) (ms : List (PartyMove T4 Bool))
    (σ : System lab Bool Raised (Option OperationLedgerResult)),
    Course Party.prog ⟨t4Injected.2.db, t4Injected.2.seq, fun _ => none⟩ names ms σ ∧
      σ.db = drained :=
  course_called T4 t4Injected.2 (by simp [registered_operation_specs]) _ _

lemma forbidden_drained : Forbidden drained := by
  have hfacts := drained_facts
  simp only [Bool.and_eq_true] at hfacts
  obtain ⟨r, hr, hflags⟩ := (Option.any_eq_true _ _).mp hfacts.1.2
  simp only [Bool.and_eq_true, Bool.not_eq_true'] at hflags
  exact ⟨r, hr, hflags⟩

lemma keyed_empty : Keyed ({} : Db) := by
  unfold Keyed
  exact .nil

/-- The record has the call that drained the traffic, for the one commit that was answered as
executed. -/
theorem record_faithful_drained : ∃ (names : Bool → Option (Party T4))
    (ms : List (PartyMove T4 Bool)) (σ : System lab Bool Raised (Option OperationLedgerResult))
    (e : T4EndState),
    Course Party.prog ⟨t4Injected.2.db, t4Injected.2.seq, fun _ => none⟩ names ms σ ∧
      Forbidden σ.db ∧ t4_end_state σ.db = some e ∧ Called ms e.calls ∧ e.calls.length = 1 ∧
      (ms.filter performed).length = 1 := by
  obtain ⟨names, ms, σ, hcourse, hdb⟩ := course_drained
  obtain ⟨hreset, hinject⟩ := t4_prepared
  obtain ⟨e, he, hcalled, -⟩ := record_faithful rfl keyed_empty hreset hinject hcourse
  have hfacts := drained_facts
  rw [← hdb, he] at hfacts
  simp only [Bool.and_eq_true, Option.any_some, decide_eq_true_eq] at hfacts
  exact ⟨names, ms, σ, e, hcourse, hdb ▸ forbidden_drained, he, hcalled, hfacts.2,
    hcalled.length ▸ hfacts.2⟩

/-- The end state of the same run says that the forbidden combination held, and still does. -/
theorem forbidden_exact_drained : ∃ (names : Bool → Option (Party T4))
    (ms : List (PartyMove T4 Bool)) (σ : System lab Bool Raised (Option OperationLedgerResult))
    (e : T4EndState),
    Course Party.prog ⟨t4Injected.2.db, t4Injected.2.seq, fun _ => none⟩ names ms σ ∧
      t4_end_state σ.db = some e ∧ e.forbidden_final_fields ≠ [] ∧
      (e.combined_forbidden_effect = true ↔ ∃ m ∈ ms, Forbidden m.after) := by
  obtain ⟨names, ms, σ, hcourse, hdb⟩ := course_drained
  obtain ⟨hreset, hinject⟩ := t4_prepared
  obtain ⟨e, he, hever, hfinal⟩ := forbidden_exact rfl keyed_empty hreset hinject hcourse
  exact ⟨names, ms, σ, e, hcourse, he, hfinal.mpr (hdb ▸ forbidden_drained), hever⟩

end IncidentGate.T4Record
