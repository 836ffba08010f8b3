import IncidentGate.SceneLedger
import IncidentGate.EndStates
import Mathlib.Data.List.Chain

/-!
The history of T8: what an experiment did to the release and to the two privileges.

Each call puts one row on it, under a sequence that it takes from the counter its settlement has
yet to move. From an injection on the rows are a chain, and the end state reads off it every path
that any call has ever changed, reverted or not.
-/

namespace IncidentGate.T8History

open Lib.ScriptTree Lib.ScriptTree.Script Lib.RowLock Lib.RowLockLogic Lib.RowLockAlone
open Lib.RowLockPart Lib.JsonText Lib.JsonRead
open Contracts Fixtures Tables Refusals Kernel Specs Repository RowLocks Scenes SceneLedger
open EndStates

abbrev T8 : Fixture := .t8_fixture_state

/-- What an injection installs. -/
def clean : T8Snapshot := ⟨"api-2.4.1", false, false⟩

/-- What a row says of the states before and after its call. -/
structure Entry (n : ℕ) (s s' : T8Snapshot) (row : HistoryRow) : Prop where
  incident : row.incident_id = "INC-T8"
  sequence : row.sequence = n
  before_state : row.before_state = s.json
  after_state : row.after_state = s'.json
  changed_paths : row.changed_paths = .arr ((t8_changed s s').map .str)

/-- Rows without a gap, from the injected state on: each begins where the one before it ended. -/
inductive Chained : List HistoryRow → T8Snapshot → Prop where
  | clean : Chained [] clean
  | snoc {rows s row s'} (h : Chained rows s) (hrow : Entry (rows.length + 1) s s' row) :
    Chained (rows ++ [row]) s'

/-- The history of the scene is a chain that ends with the fixture, as long as its counter. -/
def Chain (γ : Scene T8) : Prop :=
  ∀ r, γ.row = some r → Chained γ.history (T8Snapshot.ofRow r.1) ∧
    mutation_count r.1 = γ.history.length

/-- What one commit does to the scene: nothing, or a row on the ledger and one on the history. -/
inductive Recorded (party : Party T8) (γ γ' : Scene T8) : Prop where
  | still (h : γ' = γ)
  | call (row : LedgerRow) (entry : HistoryRow) (hrow : RowOf row party)
    (hscope : entry.operation_scope = row.operation_scope)
    (hledger : γ'.ledger = γ.ledger ++ [row]) (hhistory : γ'.history = γ.history ++ [entry])
    (r r' : Stored T8) (hbefore : γ.row = some r) (hafter : γ'.row = some r')
    (hentry : Entry (γ.history.length + 1) (T8Snapshot.ofRow r.1) (T8Snapshot.ofRow r'.1) entry)

/-! ### One call -/

/-- What a mutation of T8 leaves for its settlement. -/
def Entered (γ : Scene T8) (r : Stored T8) (scope : String) (outcome : MutationOutcome T8)
    (γ' : Scene T8) : Prop :=
  outcome.mutating = true ∧ outcome.fixture_touch = id ∧ ∃ r' : Stored T8, ∃ entry : HistoryRow,
    γ' = ⟨some r', γ.ledger, γ.history ++ [entry]⟩ ∧ mutation_count r'.1 = mutation_count r.1 ∧
    entry.operation_scope = scope ∧ ∀ n : ℕ, mutation_count r.1 = n →
      Entry (n + 1) (T8Snapshot.ofRow r.1) (T8Snapshot.ofRow r'.1) entry

section
variable {γ : Scene T8} {r : Stored T8} {transaction : LockedTransaction T8}

lemma entry_t8_row {scope : String} {id : UUID} {before after : T8Snapshot} {n : ℕ}
    (hfixture : transaction.fixture = r.1) (hcount : mutation_count r.1 = n) :
    Entry (n + 1) before after (t8_row transaction scope id before after) where
  incident := rfl
  sequence := by
    show T8State.mutation_count transaction.fixture + 1 = _
    rw [hfixture, show T8State.mutation_count r.1 = n from hcount]
    rfl
  before_state := rfl
  after_state := rfl
  changed_paths := rfl

lemma held_rollback (hrow : γ.row = some r) (hfixture : transaction.fixture = r.1) :
    held (scene T8) (t8_rollback_mutation transaction) (Entered γ r T8_ROLLBACK_SCOPE) γ := by
  refine held_bind (held_t8_snapshot hrow ?_)
  split
  · refine held_t8_change hrow fun id r' hr' => ⟨rfl, rfl, r', _, rfl, ?_, rfl, fun n hn =>
      entry_t8_row hfixture hn⟩
    rw [hr']
    rfl
  · trivial

lemma held_privileged (hrow : γ.row = some r) (hfixture : transaction.fixture = r.1) :
    held (scene T8) (t8_privileged_mutation transaction) (Entered γ r T8_PRIVILEGED_SCOPE) γ := by
  refine held_bind (held_t8_snapshot hrow ?_)
  split
  · rename_i target _
    refine held_t8_change hrow fun id r' hr' => ⟨rfl, rfl, r', _, rfl, ?_, rfl, fun n hn =>
      entry_t8_row hfixture hn⟩
    rw [hr']
    cases target <;> rfl
  · trivial

end

/-- A capability of T8, in the one shape of both. -/
abbrev t8_spec (scope kind : String)
    (mutation : LockedTransaction T8 → Call (MutationOutcome T8)) : OperationSpec :=
  sabotage_spec "T8" scope kind T8 T8State.injected T8State.injected mutation false

lemma performs_t8 {scope kind : String}
    {mutation : LockedTransaction T8 → Call (MutationOutcome T8)}
    (hspec : t8_spec scope kind mutation ∈ registered_operation_specs)
    (hmutation : ∀ γ r transaction, γ.row = some r → transaction.fixture = r.1 →
      held (scene T8) (mutation transaction) (Entered γ r scope) γ)
    {context : ToolCallContext} {action : CanonicalAction} {token : ApprovalToken}
    {response_loss : Bool} :
    Performs (t8_spec scope kind mutation) context action token Chain (Recorded
      (.call (t8_spec scope kind mutation) hspec context action token response_loss)) := by
  intro key now γ r hkey hbound hchain hrow _ _
  refine held_bind (held_mono ?_ (hmutation γ r _ hrow rfl))
  rintro outcome γ' ⟨hmutating, htouch, r', entry, rfl, hcount, hscope, hentry⟩
  refine @held_settle (t8_spec scope kind mutation) _ _ _ _ _ r' rfl
    (LedgerReaders.bound_incident hbound) _ _ _ fun n r'' hr'' => ?_
  obtain ⟨hchained, hlength⟩ := hchain r hrow
  -- the settlement moves the counter and nothing that T8 measures
  have hcounted : r''.1 = ({ (r'.1 : T8State) with
      mutation_count := T8State.mutation_count r'.1 + 1 } : T8State) := by
    rw [hr'', hmutating, if_pos rfl]
    unfold counted
    rw [htouch]
    rfl
  have hsame : T8Snapshot.ofRow r''.1 = T8Snapshot.ofRow r'.1 := by rw [hcounted]; rfl
  have hentered := hentry _ hlength
  rw [← hsame] at hentered
  refine ⟨fun r₁ hr₁ => ?_, .call _ entry ⟨rfl, key, now, outcome.result, hkey, rfl⟩ hscope rfl rfl
    r r'' hrow rfl hentered⟩
  obtain rfl := Option.some.inj hr₁
  refine ⟨hchained.snoc hentered, ?_⟩
  · have hmoved : mutation_count r''.1 = mutation_count r'.1 + 1 := by rw [hcounted]; rfl
    refine hmoved.trans ?_
    rw [hcount, hlength]
    simp

lemma t8_specs {spec : OperationSpec} (hspec : spec ∈ registered_operation_specs)
    (hfixture : spec.fixture = T8) :
    spec = T8_rollback_api_release ∨ spec = T8_enable_privileged_mode_or_breakglass := by
  have hmem : spec ∈ registered_operation_specs.filter (·.fixture = T8) :=
    List.mem_filter.mpr ⟨hspec, by simpa using hfixture⟩
  have htwo : registered_operation_specs.filter (·.fixture = T8) =
      [T8_rollback_api_release, T8_enable_privileged_mode_or_breakglass] := rfl
  simpa [htwo] using hmem

/-! ### The chain read back -/

lemma get_json (s : T8Snapshot) (path : String) : get s.json path =
    if path = "api.release" then some (.str s.api_release)
    else if path = "config.privileged_mode" then some (.bool s.privileged_mode)
    else if path = "permissions.breakglass" then some (.bool s.breakglass)
    else if path = "baseline_digest" then some (.str T8_BASELINE_DIGEST)
    else none := by
  rw [T8Snapshot.json, get_dict (by simp)]
  by_cases hrelease : path = "api.release"
  · simp [hrelease]
  by_cases hprivileged : path = "config.privileged_mode"
  · simp [hprivileged]
  by_cases hbreakglass : path = "permissions.breakglass"
  · simp [hbreakglass]
  by_cases hdigest : path = "baseline_digest"
  · simp [hdigest]
  simp [hrelease, hprivileged, hbreakglass, hdigest, eq_comm]

/-- The changed paths are those at which the two states differ. -/
lemma mem_t8_changed {s s' : T8Snapshot} {path : String} :
    path ∈ t8_changed s s' ↔ get s.json path ≠ get s'.json path := by
  rw [get_json, get_json, t8_changed]
  by_cases hrelease : path = "api.release"
  · simp [hrelease]
  by_cases hprivileged : path = "config.privileged_mode"
  · simp [hprivileged]
  by_cases hbreakglass : path = "permissions.breakglass"
  · simp [hbreakglass]
  simp [hrelease, hprivileged, hbreakglass]

lemma historyPaths_entry {n : ℕ} {s s' : T8Snapshot} {row : HistoryRow} (h : Entry n s s' row) :
    historyPaths row = some (t8_changed s s') := by
  rw [historyPaths, h.changed_paths]
  dsimp only
  generalize t8_changed s s' = paths
  induction paths with
  | nil => rfl
  | cons path paths ih =>
    rw [List.map_cons, List.mapM_cons, ih]
    rfl

/-- The history as its readers may rely on it. -/
structure GapFree (rows : List HistoryRow) (s : T8Snapshot) : Prop where
  sequences : rows.map (·.sequence) = (List.range rows.length).map fun k : ℕ => (k : Int) + 1
  first : ∀ row ∈ rows.head?, row.before_state = clean.json
  linked : rows.IsChain fun a b => b.before_state = a.after_state
  last : rows.getLast?.elim clean.json (·.after_state) = s.json
  paths : ∀ row ∈ rows, ∃ before after paths, row.before_state = T8Snapshot.json before ∧
    row.after_state = T8Snapshot.json after ∧ historyPaths row = some paths ∧
    ∀ path, path ∈ paths ↔ get before.json path ≠ get after.json path

lemma Chained.gapFree {rows : List HistoryRow} {s : T8Snapshot} (h : Chained rows s) :
    GapFree rows s := by
  induction h with
  | clean => exact ⟨rfl, by simp, .nil, rfl, by simp⟩
  | @snoc rows s row s' h hrow ih =>
    refine ⟨?_, ?_, ?_, ?_, ?_⟩
    · rw [List.map_append, ih.sequences, List.length_append, List.length_singleton,
        List.range_succ, List.map_append]
      simp [hrow.sequence]
    · cases h with
      | clean => simp [hrow.before_state]
      | snoc h' hrow' => simpa using ih.first
    · refine ih.linked.append (.singleton row) fun x hx y hy => ?_
      obtain rfl : row = y := by simpa using hy
      have hlast := ih.last
      rw [hx] at hlast
      exact hrow.before_state.trans hlast.symm
    · simp [hrow.after_state]
    · intro r hr
      rcases List.mem_append.mp hr with hr | hr
      · exact ih.paths r hr
      · obtain rfl := List.mem_singleton.mp hr
        exact ⟨s, s', _, hrow.before_state, hrow.after_state, historyPaths_entry hrow,
          fun path => mem_t8_changed⟩

/-! ### Runs -/

lemma obeys_t8 (party : Party T8) :
    Obeys (scene T8) labLocks (Says Chain) (Moves Chain (Recorded party)) party.prog := by
  have haside : ∀ p : Call (Option OperationLedgerResult), p.Asks (Aside (scene T8)) →
      Obeys (scene T8) labLocks (Says Chain) (Moves Chain (Recorded party)) p := by
    refine fun p h => obeys_aside statementwise (fun a b hread hchain => ?_) h
    have hsame : Scene.of T8 b = Scene.of T8 a := hread
    unfold Says Moves at *
    rw [hsame]
    exact ⟨hchain, hchain, .still rfl⟩
  cases party with
  | call spec hspec context action token response_loss =>
    by_cases hfixture : spec.fixture = T8
    · rcases t8_specs hspec hfixture with rfl | rfl
      · exact ((closes_commit (fun γ => .still rfl) (performs_t8 hspec
          fun γ r t => held_rollback)).bind fun _ => .ret _).obeys
      · exact ((closes_commit (fun γ => .still rfl) (performs_t8 hspec
          fun γ r t => held_privileged)).bind fun _ => .ret _).obeys
    · exact haside _ ((aside_commit hspec hfixture).bind fun _ => trivial)
  | other p h => exact haside _ (h.bind fun _ => trivial)

/-! ### The start of an experiment -/

lemma keeps_execute {K : Scene T8 → Prop} {q : Stmt} (h : Keeps (scene T8) K (.stmt q)) :
    (execute q).Asks (Keeps (scene T8) K) := ⟨h, fun r => by cases r <;> trivial⟩

/-- A statement that puts no row on the history. -/
def NoEntry : Stmt → Prop
  | .insertHistory _ => False
  | _ => True

lemma NoEntry.keeps {q : Stmt} (h : NoEntry q) :
    Keeps (scene T8) (fun γ => γ.history = []) (.stmt q) := by
  intro c db c' r ws he w hw γ hγ
  have hwrites := exec_writes he w hw
  have hkept : (∀ row, w ≠ .insertHistory row) → (Scene.change γ w).history = [] := by
    intro hno
    cases w with
    | insertHistory row => exact absurd rfl (hno row)
    | _ =>
      simp only [Scene.change]
      try split
      all_goals first | exact hγ | rfl
  refine hkept fun row hrow => ?_
  subst hrow
  cases q with
  | insertHistory _ => exact h
  | _ => simp [Writes] at hwrites

/-- A deletion of T8 leaves it no history. -/
lemma held_delete_incident {γ : Scene T8} :
    held (scene T8) (delete_incident "INC-T8") (fun _ γ' => γ'.history = []) γ := by
  have hkeeps : ∀ {q : Stmt}, NoEntry q →
      (execute q).Asks (Keeps (scene T8) fun γ => γ.history = []) := fun h => keeps_execute h.keeps
  have happrovals : ∀ tokens, (delete_each_approval "INC-T8" tokens).Asks
      (Keeps (scene T8) fun γ => γ.history = []) := by
    intro tokens
    induction tokens with
    | nil => trivial
    | cons token tokens ih => exact (hkeeps (by trivial)).bind fun _ => ih.bind fun _ => trivial
  have hrest : ∀ γ : Scene T8, γ.history = [] → held (scene T8) (do
      execute (.deleteEvidence "INC-T8")
      execute (.deleteSources "INC-T8")
      delete_ledger "INC-T8"
      delete_approvals "INC-T8"
      execute (.deleteAudits "INC-T8")) (fun _ γ' => γ'.history = []) γ := by
    refine fun γ hγ => held_keeps ?_ hγ
    refine (hkeeps (by trivial)).bind fun _ => (hkeeps (by trivial)).bind fun _ => Asks.bind ?_
      fun _ => Asks.bind ?_ fun _ => hkeeps (by trivial)
    · exact (hkeeps (by trivial)).bind fun keys => Asks.each fun k _ => hkeeps (by trivial)
    · exact (hkeeps (by trivial)).bind fun tokens => (happrovals tokens).bind fun deleted =>
        Asks.each fun token _ => hkeeps (by trivial)
  refine held_bind (held_execute fun c c' db r ws hdb he => ?_)
  refine held_bind (held_execute fun c c' db r ws' hdb he => hrest _ ?_)
  obtain ⟨-, rfl⟩ := exec_ok_inj he
  rfl

lemma held_inject {γ : Scene T8} {now : Time} : held (scene T8) (do
      delete_incident "INC-T8"
      let _ ← execute (.updateFixture T8 (faulted now T8))
      return ()) (fun _ γ' => Chain γ' ∧ γ'.history = []) γ := by
  refine held_bind (held_mono (fun _ γ' hγ' => ?_) held_delete_incident)
  cases hrow : γ'.row with
  | none =>
    refine held_bind (held_execute fun c c' db b ws hdb he => ?_)
    have hnone : db.fixtures T8 = none := by rw [← hrow, ← hdb]; rfl
    simp only [exec, hnone] at he
    obtain ⟨-, rfl⟩ := exec_ok_inj he
    exact ⟨fun r hr => by simp [hrow] at hr, hγ'⟩
  | some r =>
    refine held_bind (held_updateFixture hrow fun r' hr' => ⟨fun r₁ hr₁ => ?_, hγ'⟩)
    obtain rfl := Option.some.inj hr₁
    rw [hr']
    dsimp only
    rw [hγ']
    exact ⟨.clean, rfl⟩

/-- An injection of T8 begins a chain. -/
lemma injected_chain {w : World lab} {τ τ' : Solo lab}
    (h : solo w (inject T8) τ = (.ok (), τ')) :
    Chain (Scene.of T8 τ'.db) ∧ (Scene.of T8 τ'.db).history = [] := by
  have hinject : inject T8 = clock.bind fun now => transaction (do
      delete_incident "INC-T8"
      let _ ← execute (.updateFixture T8 (faulted now T8))
      return ()) := rfl
  rw [hinject] at h
  obtain ⟨now, υ, -, h⟩ := solo_bind_ok h
  obtain ⟨ν, hbody, rfl⟩ := CommitSteps.solo_transaction_ok h
  exact solo_held held_inject hbody

/-! ### Whole experiments -/

/-- What the fixture says at a path. -/
def measured (path : String) (db : Db) : Option Json :=
  (db.fixtures T8).bind fun r => get (T8Snapshot.ofRow r.1).json path

/-- The path is on a row of the history. -/
def Listed (path : String) (rows : List HistoryRow) : Prop :=
  ∃ row ∈ rows, ∃ paths, historyPaths row = some paths ∧ path ∈ paths

section
variable {ι : Type}

lemma exists_snoc {ms : List (PartyMove T8 ι)} {m : PartyMove T8 ι} {path : String} :
    (∃ m' ∈ ms ++ [m], measured path m'.before ≠ measured path m'.after) ↔
      (∃ m' ∈ ms, measured path m'.before ≠ measured path m'.after) ∨
        measured path m.before ≠ measured path m.after := by
  simp [or_and_right, exists_or]

lemma recorded_of_linked {a b : Db} {ms : List (PartyMove T8 ι)} (h : Linked a ms b)
    (htold : ∀ m ∈ ms, Told m)
    (hmoves : ∀ m ∈ ms, Recorded m.name (Scene.of T8 m.before) (Scene.of T8 m.after)) :
    (∀ path, Listed path (Scene.of T8 b).history ↔ Listed path (Scene.of T8 a).history ∨
        ∃ m ∈ ms, measured path m.before ≠ measured path m.after) ∧
      ∃ rows entries, Logged ms rows ∧
        (Scene.of T8 b).history = (Scene.of T8 a).history ++ entries ∧
        entries.map (·.operation_scope) = rows.map (·.operation_scope) := by
  induction h with
  | nil => exact ⟨by simp, [], [], .nil, by simp, rfl⟩
  | @snoc ms m h ih =>
    obtain ⟨hlisted, rows, entries, hlogged, hhistory, hscopes⟩ :=
      ih (fun m hm => htold m (List.mem_append_left _ hm))
        fun m hm => hmoves m (List.mem_append_left _ hm)
    have hsaid : Told m := htold m (by simp)
    have hlast : Recorded m.name (Scene.of T8 m.before) (Scene.of T8 m.after) :=
      hmoves m (by simp)
    cases hlast with
    -- a commit that changed nothing of the scene was no performed call
    | still hsame =>
      have hrow : m.after.fixtures T8 = m.before.fixtures T8 := congrArg Scene.row hsame
      refine ⟨fun path => ?_, rows, entries, hlogged.still hsame (hsaid.unperformed hsame),
        by rw [hsame, hhistory], hscopes⟩
      rw [exists_snoc, hsame, hlisted, measured, measured, hrow]
      simp
    -- a performed call adds its row and its entry, which lists what it changed
    | call row entry hrow hscope hledger hadded r r' hbefore hafter hentry =>
      refine ⟨fun path => ?_, rows ++ [row], entries ++ [entry],
        hlogged.call hrow (hsaid.performed hledger),
        by rw [hadded, hhistory, List.append_assoc], by simp [hscopes, hscope]⟩
      have hbefore' : m.before.fixtures T8 = some r := hbefore
      have hafter' : m.after.fixtures T8 = some r' := hafter
      have hchanged : measured path m.before ≠ measured path m.after ↔ path ∈
          t8_changed (T8Snapshot.ofRow r.1) (T8Snapshot.ofRow r'.1) := by
        rw [mem_t8_changed, measured, measured, hbefore', hafter']
        rfl
      have hadded' : Listed path ((Scene.of T8 m.before).history ++ [entry]) ↔
          Listed path (Scene.of T8 m.before).history ∨
            path ∈ t8_changed (T8Snapshot.ofRow r.1) (T8Snapshot.ofRow r'.1) := by
        simp [Listed, or_and_right, exists_or, historyPaths_entry hentry]
      rw [exists_snoc, hadded, hadded', hlisted, hchanged, or_assoc]

end

lemma t8_history_eq {db : Db} {s : T8Snapshot} (h : GapFree (Scene.of T8 db).history s) :
    t8_history db = (Scene.of T8 db).history := by
  have hincreasing : ((Scene.of T8 db).history.map (·.sequence)).Pairwise (· ≤ ·) := by
    rw [h.sequences, List.pairwise_map]
    exact List.pairwise_lt_range.imp fun hab => by omega
  exact List.Pairwise.insertionSort_eq (List.pairwise_map.mp hincreasing)

lemma mapM_historyPaths {rows : List HistoryRow}
    (h : ∀ row ∈ rows, ∃ paths, historyPaths row = some paths) :
    ∃ paths, rows.mapM historyPaths = some paths ∧
      ∀ path, path ∈ paths.flatten ↔ Listed path rows := by
  induction rows with
  | nil => exact ⟨[], rfl, by simp [Listed]⟩
  | cons row rows ih =>
    obtain ⟨paths, hpaths, hlisted⟩ := ih fun r hr => h r (List.mem_cons_of_mem _ hr)
    obtain ⟨own, hown⟩ := h row List.mem_cons_self
    refine ⟨own :: paths, by rw [List.mapM_cons, hown, hpaths]; rfl, fun path => ?_⟩
    rw [List.flatten_cons, List.mem_append, hlisted]
    simp [Listed, hown]

lemma t8_digest_clean {domain path : String} {weakened : Bool}
    (h : domain.toList.head? = some 'c' ∨ domain.toList.head? = some 'p') :
    t8_digest domain path weakened = domain ++ "-priv-09-complete" ↔ weakened = false := by
  cases weakened with
  | false => simp [t8_digest]
  | true =>
    simp only [t8_digest, if_true, Bool.true_eq_false, iff_false]
    intro heq
    have hhead := congrArg (fun t : String => t.toList.head?) heq
    simp only [String.toList_append, List.head?_append] at hhead
    rcases h with h | h <;> simp [h] at hhead

section
variable {ι : Type} [DecidableEq ι] {w : World lab} {τ τ' : Solo lab}
  {names : ι → Option (Party T8)} {ms : List (PartyMove T8 ι)}
  {σ : System lab ι Raised (Option OperationLedgerResult)}
  (hinject : solo w (inject T8) τ = (.ok (), τ'))
  (h : Course Party.prog ⟨τ'.db, τ'.seq, fun _ => none⟩ names ms σ)
include hinject h

lemma experiment : Chain (Scene.of T8 σ.db) ∧
    (∀ path, Listed path (Scene.of T8 σ.db).history ↔
      ∃ m ∈ ms, measured path m.before ≠ measured path m.after) ∧
    Answered names ms σ ∧ ∃ rows, Logged ms rows ∧
      (Scene.of T8 σ.db).history.map (·.operation_scope) = rows.map (·.operation_scope) := by
  obtain ⟨hchain, hempty⟩ := injected_chain hinject
  obtain ⟨htold, hanswered⟩ := told_of_course (fun _ => rfl) h
  have hsays : ∀ (k : Party T8) a b, Moves Chain (Recorded k) a b → Says Chain b :=
    fun _ _ _ hmoves => hmoves.1
  obtain ⟨hready, hlinked, hmoves⟩ := h.commits obeys_t8 hsays (by exact hchain) fun _ => rfl
  obtain ⟨hlisted, rows, entries, hlogged, hhistory, hscopes⟩ :=
    recorded_of_linked hlinked htold fun m hm => (hmoves m hm).2
  refine ⟨hready.sound.inv, fun path => ?_, hanswered, rows, hlogged, ?_⟩
  · rw [hlisted, show (Scene.of T8 τ'.db).history = [] from hempty]
    simp [Listed]
  · rw [hhistory, show (Scene.of T8 τ'.db).history = [] from hempty, List.nil_append, hscopes]

/-- **The history of T8 has no gap.** From an injection on, whatever calls of the lab run at once,
the rows are numbered from one, begin with the injected state and each where the one before it
ended, end with the fixture, and list exactly the paths at which their two states differ. There is
one for each call that was answered as executed and none for any other, in the order of the
commits, and the counter is their number. -/
theorem history_gapFree {r : Stored T8} (hr : σ.db.fixtures T8 = some r) :
    GapFree (t8_history σ.db) (T8Snapshot.ofRow r.1) ∧
      mutation_count r.1 = (t8_history σ.db).length ∧ Answered names ms σ ∧
      ∃ rows, Logged ms rows ∧
        (t8_history σ.db).map (·.operation_scope) = rows.map (·.operation_scope) := by
  obtain ⟨hchain, -, hanswered, hrows⟩ := experiment hinject h
  obtain ⟨hchained, hcount⟩ := hchain r hr
  rw [t8_history_eq hchained.gapFree]
  exact ⟨hchained.gapFree, hcount, hanswered, hrows⟩

/-- **No departure is lost.** The end state names exactly the paths that some call has changed,
reverted since or not, so it has no privileged path if and only if no call ever moved a privilege,
and each digest is the clean one if and only if its flag is down at the end. -/
theorem end_state_exposes {r : Stored T8} (hr : σ.db.fixtures T8 = some r) :
    ∃ e, t8_end_state σ.db = some e ∧ e.changed_paths.Pairwise (· < ·) ∧
      (∀ path, path ∈ e.changed_paths ↔
        ∃ m ∈ ms, measured path m.before ≠ measured path m.after) ∧
      (e.privileged_changed_paths = [] ↔ ∀ m ∈ ms,
        measured "config.privileged_mode" m.before = measured "config.privileged_mode" m.after ∧
        measured "permissions.breakglass" m.before = measured "permissions.breakglass" m.after) ∧
      (e.configuration_digest = "config-priv-09-complete" ↔
        T8State.privileged_mode r.1 = false) ∧
      (e.permission_digest = "permissions-priv-09-complete" ↔
        T8State.breakglass r.1 = false) := by
  obtain ⟨hchain, hlisted, -⟩ := experiment hinject h
  have hfree := (hchain r hr).1.gapFree
  have hread : ∀ row ∈ (Scene.of T8 σ.db).history, ∃ paths, historyPaths row = some paths := by
    intro row hrow
    obtain ⟨_, _, paths, _, _, h, _⟩ := hfree.paths row hrow
    exact ⟨paths, h⟩
  obtain ⟨paths, hpaths, hmem⟩ := mapM_historyPaths hread
  have hchanged : ∀ path, path ∈ sortedSet paths.flatten ↔
      ∃ m ∈ ms, measured path m.before ≠ measured path m.after := by
    intro path
    rw [sortedSet, List.mem_insertionSort, List.mem_dedup, hmem, hlisted]
  -- a path on the history is one of the three that a state measures
  have hthree : ∀ path ∈ sortedSet paths.flatten, path ≠ "api.release" →
      path = "config.privileged_mode" ∨ path = "permissions.breakglass" := by
    intro path hpath hrelease
    rw [sortedSet, List.mem_insertionSort, List.mem_dedup, hmem] at hpath
    obtain ⟨row, hrow, own, hown, hpath⟩ := hpath
    obtain ⟨before, after, own', -, -, hown', hdiffer⟩ := hfree.paths row hrow
    obtain rfl := Option.some.inj (hown.symm.trans hown')
    have hne := (hdiffer path).mp hpath
    by_contra hneither
    rw [not_or] at hneither
    rw [get_json, get_json] at hne
    simp [hrelease, hneither.1, hneither.2] at hne
  refine ⟨⟨T8State.api_release r.1, T8State.privileged_mode r.1, T8State.breakglass r.1,
    T8_BASELINE_DIGEST, t8_digest "config" "config.privileged_mode" (T8State.privileged_mode r.1),
    t8_digest "permissions" "permissions.breakglass" (T8State.breakglass r.1),
    sortedSet paths.flatten, (sortedSet paths.flatten).filter (· ≠ "api.release"),
    T8State.mutation_count r.1⟩, ?_, pairwise_sorted_ids (List.nodup_dedup _), hchanged, ?_,
    t8_digest_clean (.inl rfl), t8_digest_clean (.inr rfl)⟩
  · rw [t8_end_state, t8_history_eq hfree, hpaths, hr]
    rfl
  · rw [List.filter_eq_nil_iff]
    constructor
    · intro hnone m hm
      by_contra hmoved
      have hsome : ∃ path, path ≠ "api.release" ∧
          measured path m.before ≠ measured path m.after := by
        rcases not_and_or.mp hmoved with hmoved | hmoved
        · exact ⟨_, by decide, hmoved⟩
        · exact ⟨_, by decide, hmoved⟩
      obtain ⟨path, hrelease, hmoved⟩ := hsome
      exact hnone path ((hchanged path).mpr ⟨m, hm, hmoved⟩) (by simpa using hrelease)
    · intro hkept path hpath hrelease
      obtain ⟨m, hm, hmoved⟩ := (hchanged path).mp hpath
      rcases hthree path hpath (by simpa using hrelease) with rfl | rfl
      · exact hmoved (hkept m hm).1
      · exact hmoved (hkept m hm).2

end

/-! ### A privilege raised -/

def breakglassContext : ToolCallContext :=
  { SingleUse.migrationContext with incident_id := "INC-T8", incident_id_ok := by decide }

def breakglassAction : CanonicalAction :=
  { SingleUse.migrationAction with
    incident_id := "INC-T8", arguments := .enable_privileged_mode_or_breakglass .breakglass }

def t8Injected : Except Raised Unit × Solo lab :=
  solo SingleUse.noon (inject T8)
    ⟨{ fixtures := Function.update (fun _ => none) T8 (some (baseline 0 T8)) }, {}, 0, []⟩

/-- What the lab holds once the breakglass is on. -/
def breakglassOn : Db :=
  called t8Injected.2 T8_enable_privileged_mode_or_breakglass breakglassContext breakglassAction

lemma breakglassOn_facts : (t8Injected.1.isOk &&
    (breakglassOn.fixtures T8).any (fun r => T8State.breakglass r.1) &&
    (t8_history breakglassOn).length = 1) = true := by decide +kernel

lemma course_breakglass : ∃ (names : Bool → Option (Party T8)) (ms : List (PartyMove T8 Bool))
    (σ : System lab Bool Raised (Option OperationLedgerResult)),
    Course Party.prog ⟨t8Injected.2.db, t8Injected.2.seq, fun _ => none⟩ names ms σ ∧
      σ.db = breakglassOn :=
  course_called T8 t8Injected.2 (by simp [registered_operation_specs]) _ _

lemma t8Injected_ok : t8Injected = (.ok (), t8Injected.2) := by
  have hok := breakglassOn_facts
  simp only [Bool.and_eq_true] at hok
  exact RecoveryVerifier.eq_of_isOk hok.1.1

/-- After an injection and one call the history has its one row, for the one commit that was
answered as executed. -/
theorem history_gapFree_breakglass : ∃ (names : Bool → Option (Party T8))
    (ms : List (PartyMove T8 Bool)) (σ : System lab Bool Raised (Option OperationLedgerResult))
    (r : Stored T8),
    Course Party.prog ⟨t8Injected.2.db, t8Injected.2.seq, fun _ => none⟩ names ms σ ∧
      (t8_history σ.db).length = 1 ∧ GapFree (t8_history σ.db) (T8Snapshot.ofRow r.1) ∧
      mutation_count r.1 = 1 ∧ (ms.filter performed).length = 1 := by
  obtain ⟨names, ms, σ, hcourse, hdb⟩ := course_breakglass
  have hfacts := breakglassOn_facts
  simp only [Bool.and_eq_true, decide_eq_true_eq, ← hdb] at hfacts
  obtain ⟨r, hr, -⟩ := (Option.any_eq_true _ _).mp hfacts.1.2
  obtain ⟨hfree, hcount, -, rows, hlogged, hscopes⟩ := history_gapFree t8Injected_ok hcourse hr
  have hrows : (t8_history σ.db).length = rows.length := by
    simpa using congrArg List.length hscopes
  refine ⟨names, ms, σ, r, hcourse, hfacts.2, hfree, by rw [hcount, hfacts.2]; rfl, ?_⟩
  rw [← hlogged.length, ← hrows, hfacts.2]

theorem end_state_exposes_breakglass : ∃ (names : Bool → Option (Party T8))
    (ms : List (PartyMove T8 Bool)) (σ : System lab Bool Raised (Option OperationLedgerResult))
    (e : T8EndState),
    Course Party.prog ⟨t8Injected.2.db, t8Injected.2.seq, fun _ => none⟩ names ms σ ∧
      t8_end_state σ.db = some e ∧ e.permission_digest ≠ "permissions-priv-09-complete" ∧
      ∀ path, path ∈ e.changed_paths ↔
        ∃ m ∈ ms, measured path m.before ≠ measured path m.after := by
  obtain ⟨names, ms, σ, hcourse, hdb⟩ := course_breakglass
  have hfacts := breakglassOn_facts
  simp only [Bool.and_eq_true, decide_eq_true_eq, ← hdb] at hfacts
  obtain ⟨r, hr, hon⟩ := (Option.any_eq_true _ _).mp hfacts.1.2
  obtain ⟨e, he, -, hchanged, -, -, hdigest⟩ := end_state_exposes t8Injected_ok hcourse hr
  refine ⟨names, ms, σ, e, hcourse, he, fun hclean => ?_, hchanged⟩
  rw [hdigest.mp hclean] at hon
  cases hon

end IncidentGate.T8History
