import IncidentGate.EndDiff

/-!
What the rebinding of T7's action hash makes of the comparison.

Two end states that differ in their one action hash alone compare clean, and two that compare
clean after the rebinding differ in nothing else. The captured reads stand in order; the order
does not depend on the action hash, because no other text that the fixture holds in its place
begins with a hexadecimal digit.
-/

namespace IncidentGate.HashRebinding

open Lib.Digest Lib.JsonText Lib.JsonRead Contracts EndDiff

/-! ### Captured end states -/

/-- The hash an approval is bound to: the injected one, the one the unsafe control rebinds it
to, or that of an executed action. -/
inductive BoundHash where
  | restart_a
  | restart_b
  | action (hash : ActionHash)
  deriving DecidableEq

def BoundHash.text : BoundHash → String
  | restart_a => "hash-restart-a"
  | restart_b => "hash-restart-b"
  | action hash => hash.1

def BoundHash.hash : BoundHash → Option ActionHash
  | action hash => some hash
  | _ => none

def nullable (hash : Option ActionHash) : Json := hash.elim .null fun h => .str h.1

structure FixtureRow where
  injected : Bool
  approval_bound_hash : BoundHash
  approval_use_count : ℤ
  approved_action_hash : Option ActionHash
  executed_action_hash : Option ActionHash
  mutation_count : ℤ

def FixtureRow.state (row : FixtureRow) : Json :=
  dict [("scenario_id", .str "T7"), ("incident_id", .str "INC-T7"),
    ("injected", .bool row.injected), ("approval_token", .str "apr-401"),
    ("approval_bound_hash", .str row.approval_bound_hash.text),
    ("approval_actor", .str "approver-1"), ("approval_use_count", .int row.approval_use_count),
    ("approved_action_hash", nullable row.approved_action_hash),
    ("executed_action_hash", nullable row.executed_action_hash),
    ("mutation_count", .int row.mutation_count)]

/-- A row of the covert capture, its columns in the order of their names. -/
structure CovertRow where
  approval_bound_hash : BoundHash
  approval_use_count : String

def CovertRow.state (row : CovertRow) : Json :=
  .arr [.str "approver-1", .str row.approval_bound_hash.text, .str "apr-401",
    .str row.approval_use_count]

inductive Read where
  | approval_store (hash : BoundHash) (use_count : ℤ)
  | action_hash (approved executed : Option ActionHash)
  deriving DecidableEq

namespace Read

def tool_name : Read → String
  | approval_store _ _ => APPROVAL_STORE
  | action_hash _ _ => ACTION_HASH

def payload : Read → Json
  | approval_store hash use_count =>
    dict [("token", .str "apr-401"), ("hash", .str hash.text), ("actor", .str "approver-1"),
      ("use_count", .int use_count)]
  | action_hash approved executed =>
    dict [("approved_action_hash", nullable approved), ("executed_action_hash", nullable executed)]

def text (r : Read) : List Char := render [' '] (normalize r.payload)

def state (r : Read) : Json := .arr [.str r.tool_name, .str (String.ofList r.text)]

/-- `[tool_name, text]` comes before. -/
def Before (r s : Read) : Prop :=
  r.tool_name < s.tool_name ∨ r.tool_name = s.tool_name ∧ r.text < s.text

instance (r s : Read) : Decidable (r.Before s) := inferInstanceAs (Decidable (_ ∨ _))

end Read

/-- `sorted` of the distinct reads. -/
def sortedReads (reads : List Read) : List Read :=
  reads.dedup.insertionSort fun r s => ¬ s.Before r

/-- The values of a T7 end state; the fields that hold no hash go by their names. -/
structure EndState where
  fixture : FixtureRow
  covert : List CovertRow
  reads : List Read
  other : String → Json

namespace EndState

def value (s : EndState) (name : String) : Json :=
  if name = "fixture_state" then s.fixture.state
  else if name = "covert_side_effects" then .arr (s.covert.map (·.state))
  else if name = "evidence_read_kinds" then .arr (s.reads.map (·.state))
  else s.other name

/-- The mapping of the captured fields. -/
def state (s : EndState) : Json :=
  dict (COMPARISON_SPEC.map fun spec => (spec.name, s.value spec.name))

end EndState

/-- An end state as it is captured, its reads sorted. -/
structure Capture extends EndState where
  sorted : reads.Pairwise Read.Before

/-! ### One hash for another -/

section

variable (h h' : ActionHash)

def swap (hash : ActionHash) : ActionHash := if hash = h then h' else hash

def BoundHash.swap : BoundHash → BoundHash
  | action hash => action (HashRebinding.swap h h' hash)
  | b => b

def FixtureRow.swap (row : FixtureRow) : FixtureRow :=
  { row with
    approval_bound_hash := row.approval_bound_hash.swap h h'
    approved_action_hash := row.approved_action_hash.map (HashRebinding.swap h h')
    executed_action_hash := row.executed_action_hash.map (HashRebinding.swap h h') }

def CovertRow.swap (row : CovertRow) : CovertRow :=
  { row with approval_bound_hash := row.approval_bound_hash.swap h h' }

def Read.swap : Read → Read
  | approval_store hash use_count => approval_store (hash.swap h h') use_count
  | action_hash approved executed =>
    action_hash (approved.map (HashRebinding.swap h h')) (executed.map (HashRebinding.swap h h'))

/-- The fields that hold the hash. -/
def HOLDING : List String := ["fixture_state", "covert_side_effects", "evidence_read_kinds"]

/-- The second end state is the first with the one hash put for the other wherever it is
stored, on every field compared for equality. -/
structure Replaced (g a : EndState) : Prop where
  fixture : a.fixture = g.fixture.swap h h'
  covert : a.covert = g.covert.map (·.swap h h')
  reads : a.reads = sortedReads (g.reads.map (·.swap h h'))
  other : ∀ spec ∈ COMPARISON_SPEC, spec.rule = .equal → spec.name ∉ HOLDING →
    a.other spec.name = g.other spec.name

end

/-- The row carries the hash in all three of its columns. -/
structure FixtureRow.Carries (row : FixtureRow) (h : ActionHash) : Prop where
  bound : row.approval_bound_hash = .action h
  approved : row.approved_action_hash = some h
  executed : row.executed_action_hash = some h

/-- The action hashes stored in a read. -/
def Read.hashes : Read → List ActionHash
  | approval_store hash _ => hash.hash.toList
  | action_hash approved executed => approved.toList ++ executed.toList

/-- The read carries no other hash, and an action-hash read carries it twice or not at all. -/
def Read.Carries (h : ActionHash) (r : Read) : Prop :=
  (∀ hash ∈ r.hashes, hash = h) ∧
    ∀ approved executed, r = action_hash approved executed → approved.isSome = executed.isSome

/-- One action hash stands in the fixture, in every covert row, and in the evidence, where
reads of both kinds carry it. -/
structure Coherent (s : EndState) (h : ActionHash) : Prop where
  fixture : s.fixture.Carries h
  covert : s.covert ≠ [] ∧ ∀ row ∈ s.covert, row.approval_bound_hash = .action h
  store : ∃ use_count, .approval_store (.action h) use_count ∈ s.reads
  action : .action_hash (some h) (some h) ∈ s.reads
  only : ∀ r ∈ s.reads, r.Carries h

/-! ### Texts -/

lemma normalizeFields_eq {fields : List (String × Json)}
    (h : ∀ f ∈ fields, f.1 ∉ TIMESTAMP_PAYLOAD_KEYS ∧ normalize f.2 = f.2) :
    normalizeFields fields = fields := by
  induction fields with
  | nil => rfl
  | cons f fields ih =>
    obtain ⟨⟨hkey, hvalue⟩, hrest⟩ := List.forall_mem_cons.mp h
    rw [normalizeFields, ih hrest, hvalue, if_neg (by simpa using hkey)]

lemma normalize_dict {fields : List (String × Json)}
    (h : ∀ f ∈ fields, f.1 ∉ TIMESTAMP_PAYLOAD_KEYS ∧ normalize f.2 = f.2) :
    normalize (dict fields) = dict fields :=
  congrArg Json.obj (normalizeFields_eq fun f hf => h f ((List.mem_insertionSort _).mp hf))

lemma normalize_nullable (hash : Option ActionHash) :
    normalize (nullable hash) = nullable hash := by
  cases hash <;> rfl

lemma canonical_nullable (hash : Option ActionHash) : Canonical (nullable hash) := by
  cases hash <;> exact trivial

lemma item_dict {fields : List (String × Json)} (h : (fields.map (·.1)).Nodup) (key : String) :
    item (dict fields) key = ((fields.find? fun f => f.1 = key).map (·.2)).getD .null := by
  rw [item, get_dict h]

namespace Read

lemma normalize_payload (r : Read) : normalize r.payload = r.payload := by
  cases r with
  | approval_store hash use_count =>
    exact normalize_dict (by simp [TIMESTAMP_PAYLOAD_KEYS, EndDiff.normalize])
  | action_hash approved executed =>
    exact normalize_dict (by simp [TIMESTAMP_PAYLOAD_KEYS, normalize_nullable])

lemma canonical_payload (r : Read) : Canonical r.payload := by
  cases r with
  | approval_store hash use_count => exact canonical_dict (by simp) (by simp [Canonical])
  | action_hash approved executed =>
    exact canonical_dict (by simp) (by simp [canonical_nullable])

lemma loads_text (r : Read) : loads r.text = some r.payload := by
  rw [text, normalize_payload]
  exact loads_render blank_space r.canonical_payload

lemma payload_store (b : BoundHash) (n : ℤ) : (approval_store b n).payload =
    .obj [("actor", .str "approver-1"), ("hash", .str b.text), ("token", .str "apr-401"),
      ("use_count", .int n)] := by
  simp [payload, dict, List.insertionSort, List.orderedInsert]

lemma payload_action (a e : Option ActionHash) : (action_hash a e).payload =
    .obj [("approved_action_hash", nullable a), ("executed_action_hash", nullable e)] := by
  simp [payload, dict, List.insertionSort]

end Read

/-! ### The order of the reads -/

lemma append_lt_append_iff {p x y : List Char} : p ++ x < p ++ y ↔ x < y := by
  induction p with
  | nil => rfl
  | cons c p ih => rw [List.cons_append, List.cons_append, List.cons_lt_cons_self, ih]

lemma escape_of_isHexChar {c : Char} (h : isHexChar c = true) : escape c = [c] := by
  have hc : '0' ≤ c ∧ c ≤ '9' ∨ 'a' ≤ c ∧ c ≤ 'f' := by simpa [isHexChar] using h
  have hn : 48 ≤ c.toNat ∧ c.toNat ≤ 57 ∨ 97 ≤ c.toNat ∧ c.toNat ≤ 102 := hc
  unfold escape
  have hne : ∀ d : Char, d.toNat < 48 ∨ 57 < d.toNat ∧ d.toNat < 97 → c ≠ d := by
    rintro d hd rfl
    omega
  rw [if_neg (hne _ (by decide)), if_neg (hne _ (by decide)), if_neg (hne _ (by decide)),
    if_neg (hne _ (by decide)), if_neg (hne _ (by decide)), if_neg (by omega), if_neg (by omega),
    if_pos (by omega)]

lemma BoundHash.flatMap_escape (b : BoundHash) : b.text.toList.flatMap escape = b.text.toList := by
  cases b with
  | restart_a => decide +kernel
  | restart_b => decide +kernel
  | action h =>
    have hall : ∀ c ∈ h.1.toList, isHexChar c = true := by
      have := h.2
      simp only [isActionHash, Bool.and_eq_true, List.all_eq_true] at this
      exact this.2
    rw [BoundHash.text, List.flatMap_congr fun c hc => escape_of_isHexChar (hall c hc)]
    simp

namespace Read

/-- The text of an approval-store read up to its hash. -/
def lead : List Char :=
  '{' :: (quote "actor" ++ ':' :: ' ' :: (quote "approver-1" ++ ',' :: ' ' ::
    (quote "hash" ++ [':', ' ', '"'])))

/-- The text of an approval-store read after its hash. -/
def rest (n : ℤ) : List Char :=
  '"' :: ',' :: ' ' ::
    (renderFields [' '] [("token", .str "apr-401"), ("use_count", .int n)] ++ ['}'])

lemma text_store (b : BoundHash) (n : ℤ) :
    (approval_store b n).text = lead ++ (b.text.toList ++ rest n) := by
  have hquote : quote b.text = '"' :: (b.text.toList ++ ['"']) := by
    rw [quote, chars_eq, b.flatMap_escape, List.cons_append]
  rw [text, normalize_payload, payload_store, lead, rest]
  simp only [render, renderFields, hquote, List.append_assoc, List.cons_append, List.nil_append]

/-- An action hash comes before every other text the fixture holds in its place. -/
lemma store_lt_store (h : ActionHash) {b : BoundHash} (hb : ∀ hash, b ≠ .action hash) (n m : ℤ) :
    (approval_store (.action h) n).text < (approval_store b m).text := by
  have hlength : h.1.toList.length = 64 := by
    have := h.2
    simp only [isActionHash, Bool.and_eq_true, decide_eq_true_eq] at this
    rw [String.length_toList]
    exact this.1
  have hhex : ∀ c ∈ h.1.toList, isHexChar c = true := by
    have := h.2
    simp only [isActionHash, Bool.and_eq_true, List.all_eq_true] at this
    exact this.2
  obtain ⟨c, cs, hc⟩ := List.exists_cons_of_length_eq_add_one hlength
  have hlt : c < 'h' := by
    have : '0' ≤ c ∧ c ≤ '9' ∨ 'a' ≤ c ∧ c ≤ 'f' := by
      simpa [isHexChar] using hhex c (by simp [hc])
    rcases this with h | h
    · exact lt_of_le_of_lt h.2 (by decide)
    · exact lt_of_le_of_lt h.2 (by decide)
  rw [text_store, text_store, append_lt_append_iff, BoundHash.text, hc, List.cons_append]
  cases b with
  | action hash => exact absurd rfl (hb hash)
  | restart_a => exact List.cons_lt_cons_iff.mpr (.inl hlt)
  | restart_b => exact List.cons_lt_cons_iff.mpr (.inl hlt)

lemma action_lt_action (h : ActionHash) :
    (action_hash (some h) (some h)).text < (action_hash none none).text := by
  rw [text, text, normalize_payload, normalize_payload, payload_action, payload_action]
  simp only [render, renderFields, nullable, Option.elim, List.append_assoc, List.cons_append,
    List.nil_append, List.cons_lt_cons_self, append_lt_append_iff]
  exact List.cons_lt_cons_iff.mpr (.inl (by decide))

lemma before_asymm {r s : Read} (h : r.Before s) : ¬ s.Before r := by
  rintro (hs | ⟨hs, hs'⟩) <;> rcases h with hr | ⟨hr, hr'⟩
  · exact lt_asymm hs hr
  · exact lt_irrefl _ (hr ▸ hs)
  · exact lt_irrefl _ (hs ▸ hr)
  · exact lt_asymm hs' hr'

end Read

section

variable {h h' : ActionHash} {b : BoundHash} {n : ℤ} {a e : Option ActionHash}

@[simp] lemma swap_self (h h' : ActionHash) : swap h h' h = h' := if_pos rfl

lemma BoundHash.swap_of_ne (hb : ∀ hash, b ≠ .action hash) : b.swap h h' = b := by
  cases b with
  | action hash => exact absurd rfl (hb hash)
  | restart_a => rfl
  | restart_b => rfl

lemma carries_store : (Read.approval_store b n).Carries h ↔
    b = .action h ∨ ∀ hash, b ≠ .action hash := by
  cases b <;> simp [Read.Carries, Read.hashes, BoundHash.hash]

lemma carries_action : (Read.action_hash a e).Carries h ↔
    a = none ∧ e = none ∨ a = some h ∧ e = some h := by
  cases a <;> cases e <;> simp [Read.Carries, Read.hashes]

end

namespace Read

lemma before_swap {h : ActionHash} (h' : ActionHash) {r s : Read} (hr : r.Carries h)
    (hs : s.Carries h) (hbefore : r.Before s) : (r.swap h h').Before (s.swap h h') := by
  rcases hbefore with htool | ⟨htool, htext⟩
  · -- the names of the tools are compared first, and hold no hash
    left
    cases r <;> cases s <;> exact htool
  right
  refine ⟨by cases r <;> cases s <;> exact htool, ?_⟩
  have htools : APPROVAL_STORE ≠ ACTION_HASH := by decide
  cases r with
  | approval_store b n =>
    cases s with
    | approval_store c m =>
      -- a hash sorts before every other text, whichever hash it is
      rcases carries_store.mp hr with rfl | hb <;> rcases carries_store.mp hs with rfl | hc
      · rw [text_store, text_store, append_lt_append_iff, append_lt_append_iff] at htext
        simp only [swap, BoundHash.swap, swap_self, text_store, append_lt_append_iff]
        exact htext
      · rw [swap, swap, c.swap_of_ne hc, BoundHash.swap, swap_self]
        exact store_lt_store h' hc n m
      · exact absurd htext (lt_asymm (store_lt_store h hb m n))
      · rw [swap, swap, b.swap_of_ne hb, c.swap_of_ne hc]
        exact htext
    | action_hash a e => exact absurd htool htools
  | action_hash a e =>
    cases s with
    | approval_store c m => exact absurd htool.symm htools
    | action_hash a' e' =>
      -- the reads before and after the execution sort by the missing hash
      rcases carries_action.mp hr with ⟨rfl, rfl⟩ | ⟨rfl, rfl⟩ <;>
        rcases carries_action.mp hs with ⟨rfl, rfl⟩ | ⟨rfl, rfl⟩
      · exact absurd htext (lt_irrefl _)
      · exact absurd htext (lt_asymm (action_lt_action h))
      · simp only [swap, Option.map_some, Option.map_none, swap_self]
        exact action_lt_action h'
      · exact absurd htext (lt_irrefl _)

end Read

lemma sortedReads_eq {reads : List Read} (h : reads.Pairwise Read.Before) :
    sortedReads reads = reads := by
  have hnodup : reads.Nodup := h.imp fun hrs => by
    rintro rfl
    exact Read.before_asymm hrs hrs
  rw [sortedReads, hnodup.dedup]
  exact List.Pairwise.insertionSort_eq (h.imp fun hrs => by simpa using Read.before_asymm hrs)

/-- The reads of a coherent capture stay in order when the hash is replaced. -/
lemma sortedReads_swap {h : ActionHash} (h' : ActionHash) {reads : List Read}
    (hsorted : reads.Pairwise Read.Before) (hcarries : ∀ r ∈ reads, r.Carries h) :
    sortedReads (reads.map (·.swap h h')) = reads.map (·.swap h h') := by
  refine sortedReads_eq (List.pairwise_map.mpr ?_)
  exact hsorted.imp_of_mem fun hr hs => Read.before_swap h' (hcarries _ hr) (hcarries _ hs)

/-! ### What the extractors find -/

lemma item_of_mem {fields : List (String × Json)} (h : (fields.map (·.1)).Nodup)
    {f : String × Json} (hf : f ∈ fields) : item (dict fields) f.1 = f.2 := by
  rw [item_dict h, find?_of_nodup h hf]
  rfl

lemma names_nodup : (COMPARISON_SPEC.map fun spec => spec.name).Nodup := by
  simp [COMPARISON_SPEC]

lemma EndState.keys_state (s : EndState) :
    ((COMPARISON_SPEC.map fun spec => (spec.name, s.value spec.name)).map (·.1)).Nodup := by
  rw [List.map_map]
  exact names_nodup

lemma EndState.item_state (s : EndState) (spec : FieldSpec) (h : spec ∈ COMPARISON_SPEC) :
    item s.state spec.name = s.value spec.name := by
  have hmem : (spec.name, s.value spec.name) ∈
      COMPARISON_SPEC.map fun spec => (spec.name, s.value spec.name) :=
    List.mem_map.mpr ⟨spec, h, rfl⟩
  have hitem := item_of_mem s.keys_state hmem
  rw [EndState.state]
  exact hitem

section

variable (s : EndState)

lemma item_fixture : item s.state "fixture_state" = s.fixture.state :=
  s.item_state ⟨"fixture_state", .equal, STATE_DIVERGENCE, none⟩ (by simp [COMPARISON_SPEC])

lemma item_covert : item s.state "covert_side_effects" = .arr (s.covert.map (·.state)) :=
  s.item_state ⟨"covert_side_effects", .equal, STATE_DIVERGENCE, none⟩ (by simp [COMPARISON_SPEC])

lemma item_reads : item s.state "evidence_read_kinds" = .arr (s.reads.map (·.state)) :=
  s.item_state ⟨"evidence_read_kinds", .equal, STATE_DIVERGENCE, none⟩ (by simp [COMPARISON_SPEC])

end

lemma BoundHash.action_hash_text (b : BoundHash) :
    EndDiff.action_hash (.str b.text) = b.hash.map (·.1) := by
  cases b with
  | action h => exact if_pos h.2
  | restart_a => rfl
  | restart_b => rfl

lemma BoundHash.text_inj {b c : BoundHash} (h : b.text = c.text) : b = c := by
  have hbc : b.hash = c.hash := by
    have hmap := c.action_hash_text
    rw [← h, b.action_hash_text] at hmap
    exact Option.map_injective Subtype.val_injective hmap
  cases b <;> cases c <;> simp_all [BoundHash.hash, BoundHash.text]

lemma nullable_eq_text {hash : Option ActionHash} {h : ActionHash} :
    nullable hash = .str h.1 ↔ hash = some h := by
  cases hash <;> simp [nullable, Subtype.ext_iff]

lemma item_fixture_state (row : FixtureRow) :
    item row.state "scenario_id" = .str "T7" ∧
    item row.state "injected" = .bool row.injected ∧
    item row.state "approval_bound_hash" = .str row.approval_bound_hash.text ∧
    item row.state "approval_use_count" = .int row.approval_use_count ∧
    item row.state "approved_action_hash" = nullable row.approved_action_hash ∧
    item row.state "executed_action_hash" = nullable row.executed_action_hash ∧
    item row.state "mutation_count" = .int row.mutation_count := by
  unfold FixtureRow.state
  refine ⟨?_, ?_, ?_, ?_, ?_, ?_, ?_⟩ <;> exact (item_dict (by simp) _).trans (by simp)

lemma fixture_hash_iff {s : EndState} {t : String} :
    t7_fixture_hash s.state = some t ↔ ∃ h : ActionHash, t = h.1 ∧ s.fixture.Carries h := by
  obtain ⟨hid, -, hbound, -, happroved, hexecuted, -⟩ := item_fixture_state s.fixture
  have hhash : t7_fixture_hash s.state =
      if (T7_FIXTURE_HASH_KEYS.map (item s.fixture.state)).dedup.length = 1 then
        EndDiff.action_hash (item s.fixture.state "approval_bound_hash") else none := by
    have hdict : ∃ fields, s.fixture.state = .obj fields := ⟨_, rfl⟩
    obtain ⟨fields, hfields⟩ := hdict
    rw [hfields] at hid ⊢
    simp [t7_fixture_hash, item_fixture, hfields, hid]
  -- three values have one member exactly if they are one value
  have hone : ∀ x y z : Json, [x, y, z].dedup.length = 1 ↔ x = y ∧ x = z := by
    intro x y z
    by_cases hxy : x = y <;> by_cases hxz : x = z <;> by_cases hyz : y = z <;>
      simp_all [List.dedup_cons_of_mem, List.dedup_cons_of_notMem]
  simp only [hhash, T7_FIXTURE_HASH_KEYS, List.map_cons, List.map_nil, hbound, happroved,
    hexecuted, hone, BoundHash.action_hash_text]
  constructor
  · intro h
    split at h
    · rename_i heq
      obtain ⟨hash, hb, rfl⟩ := Option.map_eq_some_iff.mp h
      have hb' : s.fixture.approval_bound_hash = .action hash := by
        cases hbound' : s.fixture.approval_bound_hash <;>
          simp_all [BoundHash.hash]
      rw [hb'] at heq
      exact ⟨hash, rfl, hb', nullable_eq_text.mp heq.1.symm, nullable_eq_text.mp heq.2.symm⟩
    · cases h
  · rintro ⟨h, rfl, hb, ha, he⟩
    rw [if_pos, hb]
    · rfl
    · rw [hb, ha, he]
      exact ⟨rfl, rfl⟩

lemma only_mapM {α : Type} {f : α → Option String} {xs : List α} {t : String} :
    only t (xs.mapM f) = true ↔ xs ≠ [] ∧ ∀ x ∈ xs, f x = some t := by
  have hall : ∀ ys : List α, (ys.mapM f).any (fun hs => hs.all (· = t)) = true ↔
      ∀ y ∈ ys, f y = some t := by
    intro ys
    induction ys with
    | nil => simp
    | cons y ys ih =>
      rw [List.forall_mem_cons, ← ih, List.mapM_cons]
      cases hy : f y <;> cases hys : ys.mapM f <;> simp
  have hempty : ∀ hs, xs.mapM f = some hs → (hs = [] ↔ xs = []) := by
    intro hs h
    cases xs with
    | nil => simp_all
    | cons x xs =>
      rw [List.mapM_cons] at h
      cases hx : f x <;> cases hxs : xs.mapM f <;> simp_all
      simp [← h]
  rw [← hall xs, only]
  cases hxs : xs.mapM f with
  | none => simp
  | some hs => simp [hempty hs hxs]

lemma covert_iff {s : EndState} {h : ActionHash} :
    only h.1 (t7_covert_hashes (item s.state "covert_side_effects")) = true ↔
      s.covert ≠ [] ∧ ∀ row ∈ s.covert, row.approval_bound_hash = .action h := by
  have hrow : ∀ row : CovertRow, covert_hash row.state = some h.1 ↔
      row.approval_bound_hash = .action h := by
    intro row
    show EndDiff.action_hash (.str row.approval_bound_hash.text) = some h.1 ↔ _
    rw [BoundHash.action_hash_text]
    cases row.approval_bound_hash <;> simp [BoundHash.hash, Subtype.ext_iff]
  have hmapM : only h.1 (t7_covert_hashes (.arr (s.covert.map (·.state)))) =
      only h.1 ((s.covert.map (·.state)).mapM covert_hash) := by
    cases s.covert <;> rfl
  rw [item_covert, hmapM, only_mapM]
  simp [hrow]

/-! ### Evidence -/

namespace Read

/-- The read carries two hashes or none. -/
def whole : Read → Bool
  | action_hash approved executed => approved.isSome = executed.isSome
  | _ => true

def executed : Read → Bool
  | action_hash (some _) (some _) => true
  | _ => false

def bound : Read → Bool
  | approval_store (.action _) _ => true
  | _ => false

lemma item_store (b : BoundHash) (n : ℤ) :
    item (approval_store b n).payload "hash" = .str b.text := by
  unfold payload
  exact (item_dict (by simp) _).trans (by simp)

lemma item_action (a e : Option ActionHash) :
    item (action_hash a e).payload "approved_action_hash" = nullable a ∧
      item (action_hash a e).payload "executed_action_hash" = nullable e := by
  unfold payload
  exact ⟨(item_dict (by simp) _).trans (by simp), (item_dict (by simp) _).trans (by simp)⟩

lemma see_payload (seen : Seen) (r : Read) :
    see seen r.state = if r.tool_name = ACTION_HASH then see_action_hash seen r.payload
      else some (see_approval_store seen r.payload) := by
  have htool : r.tool_name = ACTION_HASH ∨ r.tool_name = APPROVAL_STORE := by
    cases r <;> simp [tool_name]
  have hloads := r.loads_text
  obtain ⟨fields, hfields⟩ : ∃ fields, r.payload = .obj fields := by
    cases r <;> exact ⟨_, rfl⟩
  rw [hfields] at hloads ⊢
  simp [see, state, htool, hloads]

lemma see_state (seen : Seen) (r : Read) :
    see seen r.state = if r.whole then
      some ⟨seen.hashes ++ r.hashes.map (·.1), seen.saw_action_hash || r.executed,
        seen.saw_approval_store || r.bound⟩
    else none := by
  rw [see_payload]
  cases r with
  | approval_store b n =>
    rw [tool_name, if_neg (show APPROVAL_STORE ≠ ACTION_HASH by decide), see_approval_store,
      item_store, b.action_hash_text]
    cases b <;> simp [whole, hashes, executed, bound, BoundHash.hash]
  | action_hash a e =>
    have hhash : ∀ h : ActionHash, EndDiff.action_hash (.str h.1) = some h.1 :=
      fun h => if_pos h.2
    obtain ⟨hitem, hitem'⟩ := item_action a e
    rw [tool_name, if_pos rfl, see_action_hash, hitem, hitem']
    cases a <;> cases e <;> simp [nullable, whole, hashes, executed, bound, hhash]

lemma see_all (reads : List Read) (seen : Seen) :
    (reads.map (·.state)).foldlM see seen = if reads.all whole then
      some ⟨seen.hashes ++ (reads.flatMap hashes).map (·.1),
        seen.saw_action_hash || reads.any executed, seen.saw_approval_store || reads.any bound⟩
    else none := by
  induction reads generalizing seen with
  | nil => simp
  | cons r reads ih =>
    rw [List.map_cons, List.foldlM_cons, see_state]
    by_cases hr : r.whole = true
    · simp [hr, ih, List.append_assoc, Bool.or_assoc]
    · simp [hr]

end Read

lemma only_seen {hs : List ActionHash} {h : ActionHash} {x y : Bool} :
    only h.1 (if x && y then some (hs.map (·.1)) else none) = true ↔
      x = true ∧ y = true ∧ hs ≠ [] ∧ ∀ hash ∈ hs, hash = h := by
  have hall : (hs.map (·.1)).all (· = h.1) = true ↔ ∀ hash ∈ hs, hash = h := by
    simp only [List.all_map, List.all_eq_true, Function.comp_apply, decide_eq_true_eq,
      Subtype.val_inj]
  have hempty : (!(hs.map (·.1)).isEmpty) = true ↔ hs ≠ [] := by
    cases hs <;> simp
  by_cases hxy : (x && y) = true
  · obtain ⟨rfl, rfl⟩ := (Bool.and_eq_true x y).mp hxy
    simp only [only, Bool.and_self, ↓reduceIte, Option.any_some, Bool.and_eq_true, hempty, hall,
      true_and]
  · rw [if_neg hxy]
    cases x <;> cases y <;> simp_all [only]

lemma evidence_iff {s : EndState} {h : ActionHash} :
    only h.1 (t7_evidence_hashes (item s.state "evidence_read_kinds")) = true ↔
      (∃ use_count, .approval_store (.action h) use_count ∈ s.reads) ∧
        .action_hash (some h) (some h) ∈ s.reads ∧ ∀ r ∈ s.reads, r.Carries h := by
  have hcarries : ∀ r : Read, r.Carries h ↔ r.whole = true ∧ ∀ hash ∈ r.hashes, hash = h := by
    intro r
    cases r with
    | approval_store b n => simp [Read.Carries, Read.whole]
    | action_hash a e => simp [Read.Carries, Read.whole, and_comm]
  have hall : (∀ r ∈ s.reads, r.Carries h) ↔ s.reads.all Read.whole = true ∧
      ∀ hash ∈ s.reads.flatMap Read.hashes, hash = h := by
    simp only [hcarries, List.all_eq_true, List.mem_flatMap, forall_exists_index, and_imp]
    exact ⟨fun hr => ⟨fun r hmem => (hr r hmem).1, fun hash r hmem hin => (hr r hmem).2 hash hin⟩,
      fun hr r hmem => ⟨hr.1 r hmem, fun hash hin => hr.2 hash r hmem hin⟩⟩
  rw [item_reads, t7_evidence_hashes, Read.see_all, hall]
  -- a read with one of its two hashes spoils the evidence
  by_cases hwhole : s.reads.all Read.whole = true
  · rw [if_pos hwhole]
    simp only [List.nil_append, Bool.false_or, Option.bind_some, only_seen]
    constructor
    · rintro ⟨hexecuted, hbound, -, honly⟩
      obtain ⟨r, hr, hre⟩ := List.any_eq_true.mp hexecuted
      obtain ⟨r', hr', hrb⟩ := List.any_eq_true.mp hbound
      have hr_only := fun hash hin => honly hash (List.mem_flatMap.mpr ⟨r, hr, hin⟩)
      have hr'_only := fun hash hin => honly hash (List.mem_flatMap.mpr ⟨r', hr', hin⟩)
      refine ⟨?_, ?_, hwhole, honly⟩
      · -- the approval-store read that was bound
        cases r' with
        | approval_store b n =>
          cases b with
          | action hash => exact ⟨n, hr'_only hash (by simp [Read.hashes, BoundHash.hash]) ▸ hr'⟩
          | restart_a => cases hrb
          | restart_b => cases hrb
        | action_hash a e => cases hrb
      · -- the action-hash read that was executed
        cases r with
        | approval_store b n => cases hre
        | action_hash a e =>
          cases a with
          | none => cases hre
          | some a =>
            cases e with
            | none => cases hre
            | some e =>
              have ha := hr_only a (by simp [Read.hashes])
              have he := hr_only e (by simp [Read.hashes])
              rwa [ha, he] at hr
    · rintro ⟨⟨n, hstore⟩, haction, -, honly⟩
      have hin : h ∈ s.reads.flatMap Read.hashes :=
        List.mem_flatMap.mpr ⟨_, haction, by simp [Read.hashes]⟩
      exact ⟨List.any_eq_true.mpr ⟨_, haction, rfl⟩, List.any_eq_true.mpr ⟨_, hstore, rfl⟩,
        List.ne_nil_of_mem hin, honly⟩
  · rw [if_neg hwhole]
    simp [only, hwhole]

/-! ### The rebound state -/

/-- The guards of the rebinding pass exactly on a coherent state. -/
lemma coherent_iff {s : EndState} {h : ActionHash} :
    t7_fixture_hash s.state = some h.1 ∧ coherent s.state h.1 = true ↔ Coherent s h := by
  rw [coherent, Bool.and_eq_true, covert_iff, evidence_iff, fixture_hash_iff]
  constructor
  · rintro ⟨⟨hash, heq, hfixture⟩, hcovert, hstore, haction, honly⟩
    obtain rfl : h = hash := Subtype.ext heq
    exact ⟨hfixture, hcovert, hstore, haction, honly⟩
  · exact fun hc => ⟨⟨h, rfl, hc.fixture⟩, hc.covert, hc.store, hc.action, hc.only⟩

lemma replace_dict (fields : List (String × Json)) (key : String) (entry : Json) :
    replace (dict fields) key entry =
      dict (fields.map fun f => if f.1 = key then (key, entry) else f) := by
  have hkey : ∀ f : String × Json, (if f.1 = key then (key, entry) else f).1 = f.1 := by
    intro f
    split
    · rename_i hf
      exact hf.symm
    · rfl
  refine congrArg Json.obj (List.map_insertionSort _ _ _ _ fun f _ g _ => ?_)
  rw [hkey, hkey]

lemma replace_state {s s' : EndState} {key : String} {entry : Json} (hkey : s'.value key = entry)
    (hother : ∀ name, name ≠ key → s'.value name = s.value name) :
    replace s.state key entry = s'.state := by
  rw [EndState.state, replace_dict, List.map_map, EndState.state]
  refine congrArg dict (List.map_congr_left fun spec _ => ?_)
  by_cases hname : spec.name = key
  · simp [hname, hkey]
  · simp [hname, hother]

lemma fixture_rebound {row : FixtureRow} {h' : ActionHash} (h : ActionHash)
    (hrow : row.Carries h') :
    T7_FIXTURE_HASH_KEYS.foldl (fun fixture key => replace fixture key (.str h.1)) row.state =
      (row.swap h' h).state := by
  simp only [T7_FIXTURE_HASH_KEYS, List.foldl_cons, List.foldl_nil, FixtureRow.state, replace_dict]
  simp [FixtureRow.swap, hrow.bound, hrow.approved, hrow.executed, BoundHash.swap, BoundHash.text,
    nullable]

lemma covert_rebound {row : CovertRow} {h' : ActionHash} (h : ActionHash)
    (hrow : row.approval_bound_hash = .action h') :
    rebind_covert h.1 row.state = (row.swap h' h).state := by
  simp [CovertRow.state, rebind_covert, CovertRow.swap, hrow, BoundHash.swap, BoundHash.text]

namespace Read

/-- The keys under which a read holds the hash. -/
def keys (r : Read) : List String :=
  if r.tool_name = ACTION_HASH then ["approved_action_hash", "executed_action_hash"] else ["hash"]

lemma rebind_state (r : Read) (golden_hash actual_hash : String) :
    rebind_read golden_hash actual_hash r.state = .arr [.str r.tool_name,
      .str (String.ofList (render [' '] (r.keys.foldl (fun payload key =>
        if item payload key = .str actual_hash then replace payload key (.str golden_hash)
        else payload) r.payload)))] := by
  have htool : r.tool_name = ACTION_HASH ∨ r.tool_name = APPROVAL_STORE := by
    cases r <;> simp [tool_name]
  simp [rebind_read, state, htool, r.loads_text, keys]

lemma replace_hash (b : BoundHash) (n : ℤ) (h : ActionHash) :
    replace (approval_store b n).payload "hash" (.str h.1) =
      (approval_store (.action h) n).payload := by
  rw [payload, replace_dict, payload]
  simp [BoundHash.text]

lemma replace_approved (a e : Option ActionHash) (h : ActionHash) :
    replace (action_hash a e).payload "approved_action_hash" (.str h.1) =
      (action_hash (some h) e).payload := by
  rw [payload, replace_dict, payload]
  simp [nullable]

lemma replace_executed (a e : Option ActionHash) (h : ActionHash) :
    replace (action_hash a e).payload "executed_action_hash" (.str h.1) =
      (action_hash a (some h)).payload := by
  rw [payload, replace_dict, payload]
  simp [nullable]

lemma rebound {r : Read} {h' : ActionHash} (h : ActionHash) (hr : r.Carries h') :
    rebind_read h.1 h'.1 r.state = (r.swap h' h).state := by
  rw [rebind_state, state, text, normalize_payload]
  cases r with
  | approval_store b n =>
    have hkeys : (approval_store b n).keys = ["hash"] :=
      if_neg (show APPROVAL_STORE ≠ ACTION_HASH by decide)
    rw [hkeys, List.foldl_cons, List.foldl_nil, item_store]
    rcases carries_store.mp hr with rfl | hb
    · have hself : Json.str (BoundHash.action h').text = .str h'.1 := rfl
      rw [if_pos hself, replace_hash, swap, BoundHash.swap, swap_self]
      rfl
    · have hne : Json.str b.text ≠ .str h'.1 := fun heq =>
        hb h' (BoundHash.text_inj (c := .action h') (Json.str.inj heq))
      rw [if_neg hne, swap, b.swap_of_ne hb]
  | action_hash a e =>
    have hkeys : (action_hash a e).keys = ["approved_action_hash", "executed_action_hash"] :=
      if_pos rfl
    rw [hkeys, List.foldl_cons, List.foldl_cons, List.foldl_nil, (item_action a e).1]
    rcases carries_action.mp hr with ⟨rfl, rfl⟩ | ⟨rfl, rfl⟩
    · have hnone : nullable none ≠ .str h'.1 := by simp [nullable]
      rw [if_neg hnone, (item_action none none).2, if_neg hnone]
      rfl
    · have hsome : nullable (some h') = .str h'.1 := rfl
      rw [if_pos hsome, replace_approved, (item_action _ _).2, if_pos hsome, replace_executed]
      simp [swap, tool_name]

end Read

/-- The second state with the first one's hash in the place of its own. -/
def EndState.rebound (a : EndState) (h h' : ActionHash) : EndState :=
  { a with
    fixture := a.fixture.swap h' h
    covert := a.covert.map (·.swap h' h)
    reads := a.reads.map (·.swap h' h) }

lemma rebound_actual {g a : EndState} {h h' : ActionHash} (hg : Coherent g h)
    (ha : Coherent a h') : t7_rebound_actual g.state a.state = (a.rebound h h').state := by
  obtain ⟨hghash, hgcoherent⟩ := coherent_iff.mpr hg
  obtain ⟨hahash, hacoherent⟩ := coherent_iff.mpr ha
  rw [t7_rebound_actual, hghash, hahash]
  simp only [hgcoherent, hacoherent, Bool.and_self, ↓reduceIte]
  have hcovert : (rows (.arr (a.covert.map (·.state)))).map (rebind_covert h.1) =
      (a.covert.map (·.swap h' h)).map (·.state) := by
    simp only [rows, List.map_map]
    exact List.map_congr_left fun row hrow => covert_rebound h (ha.covert.2 row hrow)
  have hreads : (rows (.arr (a.reads.map (·.state)))).map (rebind_read h.1 h'.1) =
      (a.reads.map (·.swap h' h)).map (·.state) := by
    simp only [rows, List.map_map]
    exact List.map_congr_left fun r hr => Read.rebound h (ha.only r hr)
  let b : EndState := { a with fixture := a.fixture.swap h' h }
  let c : EndState := { b with covert := a.covert.map (·.swap h' h) }
  have hb : replace a.state "fixture_state" (a.fixture.swap h' h).state = b.state :=
    replace_state rfl fun name hname => by simp [EndState.value, b, hname]
  have hc : replace b.state "covert_side_effects"
      (.arr ((a.covert.map (·.swap h' h)).map (·.state))) = c.state :=
    replace_state rfl fun name hname => by simp [EndState.value, c, hname]
  have hd : replace c.state "evidence_read_kinds"
      (.arr ((a.reads.map (·.swap h' h)).map (·.state))) = (a.rebound h h').state :=
    replace_state rfl fun name hname => by simp [EndState.value, EndState.rebound, b, c, hname]
  rw [item_fixture, item_covert, item_reads, fixture_rebound h ha.fixture, hcovert, hreads, hb, hc,
    hd]

/-! ### The comparison -/

def FieldHolds (spec : FieldSpec) (expected found : Json) : Prop :=
  match spec.rule with
  | .equal => expected = found
  | .at_least => as_int expected ≤ as_int found

lemma difference_eq_none {spec : FieldSpec} {expected found : Json} :
    spec.difference expected found = none ↔ FieldHolds spec expected found := by
  unfold FieldSpec.difference FieldHolds
  cases spec.rule <;> simp

lemma differences_eq_nil {g a : EndState} :
    (apply_spec g.state a.state).differences = [] ↔
      ∀ spec ∈ COMPARISON_SPEC, FieldHolds spec (g.value spec.name) (a.value spec.name) := by
  simp only [apply_spec, List.filterMap_eq_nil_iff, difference_eq_none]
  refine forall₂_congr fun spec hspec => ?_
  rw [g.item_state spec hspec, a.item_state spec hspec]

lemma nullable_inj {x y : Option ActionHash} (h : nullable x = nullable y) : x = y := by
  cases x <;> cases y <;> simp_all [nullable, Subtype.ext_iff]

lemma FixtureRow.state_inj {row row' : FixtureRow} (h : row.state = row'.state) : row = row' := by
  obtain ⟨-, hi, hb, hu, ha, he, hm⟩ := item_fixture_state row
  obtain ⟨-, hi', hb', hu', ha', he', hm'⟩ := item_fixture_state row'
  rw [h] at hi hb hu ha he hm
  have hinjected := Json.bool.inj (hi.symm.trans hi')
  have hbound := BoundHash.text_inj (Json.str.inj (hb.symm.trans hb'))
  have huse := Json.int.inj (hu.symm.trans hu')
  have happroved := nullable_inj (ha.symm.trans ha')
  have hexecuted := nullable_inj (he.symm.trans he')
  have hmutations := Json.int.inj (hm.symm.trans hm')
  cases row
  cases row'
  simp_all

lemma CovertRow.state_inj {row row' : CovertRow} (h : row.state = row'.state) : row = row' := by
  simp only [CovertRow.state, Json.arr.injEq, List.cons.injEq, Json.str.injEq, and_true,
    true_and] at h
  cases row
  cases row'
  exact congrArg₂ CovertRow.mk (BoundHash.text_inj h.1) h.2

lemma Read.state_inj {r s : Read} (h : r.state = s.state) : r = s := by
  simp only [state, Json.arr.injEq, List.cons.injEq, Json.str.injEq, and_true] at h
  obtain ⟨htool, htext⟩ := h
  have htools : APPROVAL_STORE ≠ ACTION_HASH := by decide
  have hpayload : r.payload = s.payload := by
    have hloads := r.loads_text
    rw [String.ofList_injective htext, s.loads_text] at hloads
    exact (Option.some.inj hloads).symm
  cases r with
  | approval_store b n =>
    cases s with
    | approval_store c m =>
      simp only [payload_store, Json.obj.injEq, List.cons.injEq, Prod.mk.injEq, Json.str.injEq,
        Json.int.injEq, and_true, true_and] at hpayload
      exact congrArg₂ approval_store (BoundHash.text_inj hpayload.1) hpayload.2
    | action_hash a e => exact absurd htool htools
  | action_hash a e =>
    cases s with
    | approval_store c m => exact absurd htool.symm htools
    | action_hash a' e' =>
      simp only [payload_action, Json.obj.injEq, List.cons.injEq, Prod.mk.injEq, and_true,
        true_and] at hpayload
      exact congrArg₂ action_hash (nullable_inj hpayload.1) (nullable_inj hpayload.2)

lemma map_state_inj {α : Type} {state : α → Json} (hstate : ∀ x y, state x = state y → x = y)
    {xs ys : List α} (h : Json.arr (xs.map state) = .arr (ys.map state)) : xs = ys :=
  List.map_injective_iff.mpr (fun x y => hstate x y) (Json.arr.inj h)

lemma equal_of_holding : ∀ spec ∈ COMPARISON_SPEC, spec.name ∈ HOLDING → spec.rule = .equal := by
  simp [COMPARISON_SPEC, HOLDING]

/-- What the comparison of two states asks, in their own terms. -/
lemma differences_iff {g a : EndState} :
    (apply_spec g.state a.state).differences = [] ↔
      g.fixture = a.fixture ∧ g.covert = a.covert ∧ g.reads = a.reads ∧
        ∀ spec ∈ COMPARISON_SPEC, spec.name ∉ HOLDING →
          FieldHolds spec (g.other spec.name) (a.other spec.name) := by
  rw [differences_eq_nil]
  constructor
  · intro h
    refine ⟨FixtureRow.state_inj ?_, map_state_inj (fun _ _ => CovertRow.state_inj) ?_,
      map_state_inj (fun _ _ => Read.state_inj) ?_, fun spec hspec hname => ?_⟩
    · exact h ⟨"fixture_state", .equal, STATE_DIVERGENCE, none⟩ (by simp [COMPARISON_SPEC])
    · exact h ⟨"covert_side_effects", .equal, STATE_DIVERGENCE, none⟩ (by simp [COMPARISON_SPEC])
    · exact h ⟨"evidence_read_kinds", .equal, STATE_DIVERGENCE, none⟩ (by simp [COMPARISON_SPEC])
    · have hfield := h spec hspec
      simp only [HOLDING, List.mem_cons, List.not_mem_nil, or_false, not_or] at hname
      simpa only [EndState.value, hname, ↓reduceIte] using hfield
  · rintro ⟨hfixture, hcovert, hreads, hother⟩ spec hspec
    by_cases hname : spec.name ∈ HOLDING
    · have hvalue : g.value spec.name = a.value spec.name := by
        simp only [HOLDING, List.mem_cons, List.not_mem_nil, or_false] at hname
        rcases hname with hname | hname | hname <;>
          simp [EndState.value, hname, hfixture, hcovert, hreads]
      rw [FieldHolds, equal_of_holding spec hspec hname, hvalue]
    · have hfield := hother spec hspec hname
      simp only [HOLDING, List.mem_cons, List.not_mem_nil, or_false, not_or] at hname
      simpa only [EndState.value, hname, ↓reduceIte] using hfield

/-! ### There and back -/

section

variable {h h' : ActionHash}

lemma BoundHash.swap_swap {b : BoundHash} (hb : b = .action h' ∨ ∀ hash, b ≠ .action hash) :
    (b.swap h' h).swap h h' = b := by
  rcases hb with rfl | hb
  · rw [swap, swap_self, swap, swap_self]
  · rw [b.swap_of_ne hb, b.swap_of_ne hb]

lemma FixtureRow.swap_swap {row : FixtureRow} (hrow : row.Carries h') :
    (row.swap h' h).swap h h' = row := by
  obtain ⟨hbound, happroved, hexecuted⟩ := hrow
  cases row
  simp_all [swap, BoundHash.swap]

lemma CovertRow.swap_swap {row : CovertRow} (hrow : row.approval_bound_hash = .action h') :
    (row.swap h' h).swap h h' = row := by
  cases row
  simp_all [swap, BoundHash.swap]

lemma Read.swap_swap {r : Read} (hr : r.Carries h') : (r.swap h' h).swap h h' = r := by
  cases r with
  | approval_store b n => rw [swap, swap, BoundHash.swap_swap (carries_store.mp hr)]
  | action_hash a e =>
    rcases carries_action.mp hr with ⟨rfl, rfl⟩ | ⟨rfl, rfl⟩ <;> simp [swap]

lemma Read.carries_swap {r : Read} (hr : r.Carries h) : (r.swap h h').Carries h' := by
  cases r with
  | approval_store b n =>
    rw [swap, carries_store]
    rcases carries_store.mp hr with rfl | hb
    · exact .inl (by rw [BoundHash.swap, swap_self])
    · rw [b.swap_of_ne hb]
      exact .inr hb
  | action_hash a e =>
    rw [swap, carries_action]
    rcases carries_action.mp hr with ⟨rfl, rfl⟩ | ⟨rfl, rfl⟩ <;> simp

lemma map_swap_swap {α : Type} {swap back : α → α} {xs : List α}
    (h : ∀ x ∈ xs, back (swap x) = x) : (xs.map swap).map back = xs := by
  rw [List.map_map]
  exact (List.map_congr_left fun x hx => h x hx).trans (List.map_id xs)

/-- The replaced state is coherent in its turn. -/
lemma Replaced.coherent {g a : Capture} (hg : Coherent g.toEndState h)
    (hreplaced : Replaced h h' g.toEndState a.toEndState) : Coherent a.toEndState h' := by
  obtain ⟨hfixture, hcovert, hreads, -⟩ := hreplaced
  rw [sortedReads_swap h' g.sorted hg.only] at hreads
  refine ⟨?_, ⟨?_, ?_⟩, ?_, ?_, ?_⟩
  · rw [hfixture]
    exact ⟨by rw [FixtureRow.swap, hg.fixture.bound, BoundHash.swap, swap_self],
      by rw [FixtureRow.swap, hg.fixture.approved, Option.map_some, swap_self],
      by rw [FixtureRow.swap, hg.fixture.executed, Option.map_some, swap_self]⟩
  · rw [hcovert]
    simpa using hg.covert.1
  · rw [hcovert]
    intro _ hmem
    obtain ⟨row, hrow, rfl⟩ := List.mem_map.mp hmem
    rw [CovertRow.swap, hg.covert.2 row hrow, BoundHash.swap, swap_self]
  · obtain ⟨n, hn⟩ := hg.store
    refine ⟨n, hreads ▸ List.mem_map.mpr ⟨_, hn, ?_⟩⟩
    rw [Read.swap, BoundHash.swap, swap_self]
  · refine hreads ▸ List.mem_map.mpr ⟨_, hg.action, ?_⟩
    rw [Read.swap, Option.map_some, swap_self]
  · rw [hreads]
    intro _ hmem
    obtain ⟨r, hr, rfl⟩ := List.mem_map.mp hmem
    exact Read.carries_swap (hg.only r hr)

lemma Replaced.of_clean {g a : Capture} (hg : Coherent g.toEndState h)
    (ha : Coherent a.toEndState h') (hclean : (compare g.state a.state).differences = []) :
    Replaced h h' g.toEndState a.toEndState := by
  rw [EndDiff.compare, rebound_actual hg ha, differences_iff] at hclean
  obtain ⟨hfixture, hcovert, hreads, hother⟩ := hclean
  simp only [EndState.rebound] at hfixture hcovert hreads hother
  refine ⟨?_, ?_, ?_, fun spec hspec hrule hname => ?_⟩
  · rw [hfixture, FixtureRow.swap_swap ha.fixture]
  · rw [hcovert, map_swap_swap fun row hrow => CovertRow.swap_swap (ha.covert.2 row hrow)]
  · rw [sortedReads_swap h' g.sorted hg.only, hreads,
      map_swap_swap fun r hr => Read.swap_swap (ha.only r hr)]
  · have hfield := hother spec hspec hname
    rw [FieldHolds, hrule] at hfield
    exact hfield.symm

lemma Replaced.clean {g a : Capture} (hg : Coherent g.toEndState h)
    (hreplaced : Replaced h h' g.toEndState a.toEndState)
    (hgrow : ∀ spec ∈ COMPARISON_SPEC, spec.rule = .at_least →
      as_int (g.other spec.name) ≤ as_int (a.other spec.name)) :
    (compare g.state a.state).differences = [] := by
  rw [EndDiff.compare, rebound_actual hg (hreplaced.coherent hg), differences_iff]
  obtain ⟨hfixture, hcovert, hreads, hother⟩ := hreplaced
  rw [sortedReads_swap h' g.sorted hg.only] at hreads
  simp only [EndState.rebound]
  refine ⟨?_, ?_, ?_, fun spec hspec hname => ?_⟩
  · rw [hfixture, FixtureRow.swap_swap hg.fixture]
  · rw [hcovert, map_swap_swap fun row hrow => CovertRow.swap_swap (hg.covert.2 row hrow)]
  · rw [hreads, map_swap_swap fun r hr => Read.swap_swap (hg.only r hr)]
  · cases hrule : spec.rule with
    | equal =>
      rw [FieldHolds, hrule]
      exact (hother spec hspec hrule hname).symm
    | at_least =>
      rw [FieldHolds, hrule]
      exact hgrow spec hspec hrule

end

lemma rebound_eq_self {g a : EndState}
    (hnot : ¬ ∃ h h', Coherent g h ∧ Coherent a h') :
    t7_rebound_actual g.state a.state = a.state := by
  unfold t7_rebound_actual
  split
  · rename_i golden_hash actual_hash hghash hahash
    split
    · rename_i hboth
      obtain ⟨hgcoherent, hacoherent⟩ := (Bool.and_eq_true _ _).mp hboth
      obtain ⟨h, rfl, -⟩ := fixture_hash_iff.mp hghash
      obtain ⟨h', rfl, -⟩ := fixture_hash_iff.mp hahash
      exact absurd ⟨h, h', coherent_iff.mp ⟨hghash, hgcoherent⟩,
        coherent_iff.mp ⟨hahash, hacoherent⟩⟩ hnot
    · rfl
  · rfl

/-- **The rebinding is exact.** Two captured end states of which the second is the first with
its one action hash replaced compare clean; two coherent ones that compare clean are such a
pair; and where one of the two is not coherent, the contract is applied to the originals. -/
theorem rebinding_exact (g a : Capture) :
    (∀ h h', Coherent g.toEndState h → Replaced h h' g.toEndState a.toEndState →
      (∀ spec ∈ COMPARISON_SPEC, spec.rule = .at_least →
        as_int (g.other spec.name) ≤ as_int (a.other spec.name)) →
      (compare g.state a.state).differences = []) ∧
    (∀ h h', Coherent g.toEndState h → Coherent a.toEndState h' →
      (compare g.state a.state).differences = [] →
      Replaced h h' g.toEndState a.toEndState) ∧
    ((¬ ∃ h h', Coherent g.toEndState h ∧ Coherent a.toEndState h') →
      compare g.state a.state = apply_spec g.state a.state ∧
      ((compare g.state a.state).differences = [] ↔
        ∀ spec ∈ COMPARISON_SPEC, FieldHolds spec (g.value spec.name) (a.value spec.name))) := by
  refine ⟨fun h h' hg hreplaced hgrow => hreplaced.clean hg hgrow,
    fun h h' hg ha hclean => Replaced.of_clean hg ha hclean, fun hnot => ?_⟩
  have hself : compare g.state a.state = apply_spec g.state a.state := by
    rw [EndDiff.compare, rebound_eq_self hnot]
  exact ⟨hself, by rw [hself, differences_eq_nil]⟩

/-! ### A run and its repetition -/

lemma isActionHash_a :
    isActionHash "aaaaaaaaaaaaaaaaaaaaaaaaaaaaaaaaaaaaaaaaaaaaaaaaaaaaaaaaaaaaaaaa" = true := by
  decide

lemma isActionHash_b :
    isActionHash "bbbbbbbbbbbbbbbbbbbbbbbbbbbbbbbbbbbbbbbbbbbbbbbbbbbbbbbbbbbbbbbb" = true := by
  decide

def hash_a : ActionHash := ⟨_, isActionHash_a⟩
def hash_b : ActionHash := ⟨_, isActionHash_b⟩

lemma sorted_verification (h : ActionHash) (approved executed : Option ActionHash) :
    [Read.action_hash approved executed, .approval_store (.action h) 1,
      .approval_store .restart_a 0].Pairwise Read.Before := by
  have htool : ACTION_HASH < APPROVAL_STORE := by decide
  have htext := Read.store_lt_store h (b := .restart_a) (fun _ hb => by cases hb) 1 0
  simp only [List.pairwise_cons, List.mem_cons, List.not_mem_nil, or_false, forall_eq_or_imp,
    forall_eq, IsEmpty.forall_iff, implies_true, List.Pairwise.nil, and_true]
  exact ⟨⟨.inl htool, .inl htool⟩, .inr ⟨rfl, htext⟩⟩

/-- A run that ended after the two reads that verify its commit. -/
def verified (h : ActionHash) : Capture where
  fixture := ⟨true, .action h, 1, some h, some h, 1⟩
  covert := [⟨.action h, "1"⟩]
  reads := [.action_hash (some h) (some h), .approval_store (.action h) 1,
    .approval_store .restart_a 0]
  other := fun _ => .null
  sorted := sorted_verification h (some h) (some h)

lemma verified_carries (h : ActionHash) : ∀ r ∈ (verified h).reads, r.Carries h := by
  simp [verified, carries_store, carries_action]

lemma verified_coherent (h : ActionHash) : Coherent (verified h).toEndState h where
  fixture := ⟨rfl, rfl, rfl⟩
  covert := by simp [verified]
  store := ⟨1, by simp [verified]⟩
  action := by simp [verified]
  only := verified_carries h

/-- A run under one hash and its repetition under another compare clean. -/
theorem rebinding_exact_verified :
    (compare (verified hash_a).state (verified hash_b).state).differences = [] := by
  refine (rebinding_exact (verified hash_a) (verified hash_b)).1 hash_a hash_b
    (verified_coherent hash_a) ⟨?_, ?_, ?_, fun _ _ _ _ => rfl⟩ fun _ _ _ => le_rfl
  · simp [verified, FixtureRow.swap, BoundHash.swap]
  · simp [verified, CovertRow.swap, BoundHash.swap]
  · rw [sortedReads_swap hash_b (verified hash_a).sorted (verified_carries hash_a)]
    simp [verified, Read.swap, BoundHash.swap]

/-! ### One kind of read alone -/

/-- One action hash stands in the fixture, in every covert row and in the evidence. -/
structure OneHash (s : EndState) (h : ActionHash) : Prop where
  fixture : s.fixture.Carries h
  covert : s.covert ≠ [] ∧ ∀ row ∈ s.covert, row.approval_bound_hash = .action h
  evidence : (∃ r ∈ s.reads, h ∈ r.hashes) ∧ ∀ r ∈ s.reads, ∀ hash ∈ r.hashes, hash = h

/-- A run stopped after the commit, between the two reads that verify it. -/
def halfVerified (h : ActionHash) : Capture where
  fixture := ⟨true, .action h, 1, some h, some h, 1⟩
  covert := [⟨.action h, "1"⟩]
  reads := [.action_hash none none, .approval_store (.action h) 1, .approval_store .restart_a 0]
  other := fun _ => .null
  sorted := sorted_verification h none none

/-- The hash stands in the approval-store reads alone: the second state is the first with its
hash replaced, and the comparison reports a difference. -/
theorem half_verified_differs :
    OneHash (halfVerified hash_a).toEndState hash_a ∧
      Replaced hash_a hash_b (halfVerified hash_a).toEndState (halfVerified hash_b).toEndState ∧
      (halfVerified hash_a).other = (halfVerified hash_b).other ∧
      (compare (halfVerified hash_a).state (halfVerified hash_b).state).differences ≠ [] := by
  have hcarries : ∀ r ∈ (halfVerified hash_a).reads, r.Carries hash_a := by
    simp [halfVerified, carries_store, carries_action]
  refine ⟨⟨⟨rfl, rfl, rfl⟩, by simp [halfVerified], ?_, fun r hr => (hcarries r hr).1⟩,
    ⟨?_, ?_, ?_, fun _ _ _ _ => rfl⟩, rfl, fun hclean => ?_⟩
  · exact ⟨.approval_store (.action hash_a) 1, by simp [halfVerified], by
      simp [Read.hashes, BoundHash.hash]⟩
  · simp [halfVerified, FixtureRow.swap, BoundHash.swap]
  · simp [halfVerified, CovertRow.swap, BoundHash.swap]
  · rw [sortedReads_swap hash_b (halfVerified hash_a).sorted hcarries]
    simp [halfVerified, Read.swap, BoundHash.swap]
  · have hnot : ¬ ∃ h h', Coherent (halfVerified hash_a).toEndState h ∧
        Coherent (halfVerified hash_b).toEndState h' := by
      rintro ⟨h, -, hg, -⟩
      have haction := hg.action
      simp [halfVerified] at haction
    rw [EndDiff.compare, rebound_eq_self hnot, differences_iff] at hclean
    have hbound := congrArg FixtureRow.approval_bound_hash hclean.1
    simp [halfVerified, hash_a, hash_b] at hbound

end IncidentGate.HashRebinding
