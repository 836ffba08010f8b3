import IncidentGate.Lib.CodeText
import IncidentGate.Contracts

/-!
The texts that identify an action and an attempt at it: what the action hash is taken over,
and the names the idempotency keys are derived from.

The text of an action is read back to its fields. The ids of an action are texts that are bound by
nothing, and one that holds a surrogate pair is written like the one that holds the point the pair
stands for. A name is read from its right end, since the thread stands unescaped at its left and may
hold any separator.
-/

namespace IncidentGate.Identities

open Lib.Digest Lib.JsonText Lib.JsonRead Lib.CodeText Contracts

lemma utf8_inj {s t : List Char} (h : utf8 s = utf8 t) : s = t := by
  have hbytes : (String.ofList s).toByteArray = (String.ofList t).toByteArray := by
    simp only [String.toByteArray_ofList]
    exact congrArg List.toByteArray h
  exact String.ofList_injective (String.toByteArray_inj.mp hbytes)

/-! ### Typed arguments -/

section
variable {a b : ActionArguments}

lemma nodup_fields (a : ActionArguments) :
    ((("kind", Json.str a.kind) :: a.fields).map (·.1)).Nodup := by
  cases a <;> simp [ActionArguments.fields]

lemma canonical_patch (p : T8Patch) : Canonical p.model_dump := by
  cases p <;> exact canonical_dict (by simp) (by simp [Canonical])

lemma canonicalItems_iff {xs : List Json} : CanonicalItems xs ↔ ∀ x ∈ xs, Canonical x := by
  induction xs with
  | nil => simp [CanonicalItems]
  | cons x xs ih => simp [CanonicalItems, ih]

lemma canonical_model_dump (a : ActionArguments) : Canonical a.model_dump := by
  refine canonical_dict (nodup_fields a) fun f hf => ?_
  rcases List.mem_cons.mp hf with rfl | hf
  · trivial
  · cases a
    case rollback_api_release args =>
      obtain rfl := List.mem_singleton.mp hf
      refine canonicalItems_iff.mpr fun x hx => ?_
      obtain ⟨p, -, rfl⟩ := List.mem_map.mp hx
      exact canonical_patch p
    case execute_current_approved_action | replay_or_substitute_approval => cases hf
    all_goals
      simp only [ActionArguments.fields, List.mem_cons, List.not_mem_nil, or_false] at hf
      rcases hf with rfl | rfl | rfl <;> trivial

lemma field_of_model_dump (h : a.model_dump = b.model_dump) (key : String) :
    ((("kind", Json.str a.kind) :: a.fields).find? fun f => f.1 = key).map (·.2) =
      ((("kind", Json.str b.kind) :: b.fields).find? fun f => f.1 = key).map (·.2) := by
  rw [← get_dict (nodup_fields a), ← get_dict (nodup_fields b)]
  exact congrArg (get · key) h

lemma kind_of_model_dump (h : a.model_dump = b.model_dump) : a.kind = b.kind := by
  simpa using field_of_model_dump h "kind"

lemma get_patch (p : T8Patch) : get p.model_dump "path" = some (.str p.path) ∧
    get p.model_dump "value" = some (match p with
      | .apiRelease => .str "api-2.4.0"
      | .privilegedMode v | .breakglass v => .bool v) := by
  cases p <;> constructor <;> (unfold T8Patch.model_dump; rw [get_dict (by simp)]; rfl)

lemma patch_dump_inj {p q : T8Patch} (h : p.model_dump = q.model_dump) : p = q := by
  have hpath : some (Json.str p.path) = some (.str q.path) := by
    rw [← (get_patch p).1, ← (get_patch q).1, h]
  have hvalue := (get_patch p).2.symm.trans ((congrArg (get · "value") h).trans (get_patch q).2)
  cases p <;> cases q <;> simp_all [T8Patch.path]

lemma patches_dump_inj {ps qs : List T8Patch}
    (h : ps.map T8Patch.model_dump = qs.map T8Patch.model_dump) : ps = qs :=
  List.map_injective_iff.mpr (fun _ _ => patch_dump_inj) h

lemma model_dump_inj (h : a.model_dump = b.model_dump) : a = b := by
  have hkind := kind_of_model_dump h
  have hfield := field_of_model_dump h
  cases a <;> cases b <;> first
    | rfl
    | (simp only [ActionArguments.kind, String.reduceEq] at hkind; done)
    | clear hkind
  -- the kinds with fields of their own, each read back by name
  case rollback =>
    have hcomponent := hfield "component"
    have hrevision := hfield "target_revision"
    simp_all [ActionArguments.fields, Subtype.ext_iff]
  case restart =>
    have hcomponent := hfield "component"
    simp_all [ActionArguments.fields, Subtype.ext_iff]
  case restore_config =>
    have hcomponent := hfield "component"
    have hvariable := hfield "variable_name"
    have hvalue := hfield "approved_value_ref"
    simp_all [ActionArguments.fields, Subtype.ext_iff]
  case cleanup =>
    have hcomponent := hfield "component"
    simp_all [ActionArguments.fields, Subtype.ext_iff]
  case write_outbound_note s t =>
    have hsource := hfield "source_ref"
    cases s <;> cases t <;> simp_all [ActionArguments.fields, NoteSource.str]
  case set_checkout_maintenance_mode =>
    have hmode := hfield "maintenance_mode"
    simp_all [ActionArguments.fields]
  case set_checkout_traffic_drain =>
    have hdrain := hfield "traffic_drain"
    simp_all [ActionArguments.fields]
  case weaken_permission_or_audit s t =>
    have htarget := hfield "target"
    cases s <;> cases t <;> simp_all [ActionArguments.fields, WeakenTarget.str]
  case rollback_api_release args args' =>
    have hpatches := hfield "patches"
    have hlist : args.patches = args'.patches :=
      patches_dump_inj (by simpa [ActionArguments.fields] using hpatches)
    cases args
    cases args'
    simp_all
  case enable_privileged_mode_or_breakglass s t =>
    have htarget := hfield "target"
    cases s <;> cases t <;> simp_all [ActionArguments.fields, PrivilegedTarget.str]

end

/-! ### Actions with any ids -/

/-- A `CanonicalAction` as validation leaves it: its ids are texts of any points. -/
structure TextAction where
  action_id : UUID
  incident_id : Text
  thread_id : Text
  actor : String
  permission : String
  evidence_ids : List Text
  arguments : ActionArguments
  actor_ok : isNonEmpty actor = true
  permission_ok : isNonEmpty permission = true
  evidence_cited : evidence_ids ≠ []
  evidence_sorted : evidence_ids.Pairwise (· < ·)

namespace TextAction

def tool_name (a : TextAction) : String := "operations." ++ a.arguments.kind

/-- `model_dump(mode="json", exclude={"action_id"})` -/
def body (a : TextAction) : List (String × Field) :=
  [("action_schema_version", .json (.str "1")), ("tool_name", .json (.str a.tool_name)),
    ("incident_id", .text a.incident_id), ("thread_id", .text a.thread_id),
    ("actor", .json (.str a.actor)), ("permission", .json (.str a.permission)),
    ("evidence_ids", .texts a.evidence_ids), ("arguments", .json a.arguments.model_dump)]

def canonical_action_hash (a : TextAction) : ActionHash := sha256_hexdigest (document a.body)

/-- The bytes the hash of an action is taken over. -/
def hashed (a : TextAction) : List UInt8 := utf8 (document a.body)

end TextAction

section
variable {a b : TextAction}

/-- The ids are texts of any points. -/
def bodyKind (key : String) : Kind :=
  if key = "incident_id" ∨ key = "thread_id" then .text
  else if key = "evidence_ids" then .texts else .json

lemma keyed_body (a : TextAction) : ∀ f ∈ a.body, Keyed bodyKind f := by
  rintro ⟨key, f⟩ hf
  simp only [TextAction.body, List.mem_cons, List.not_mem_nil, or_false, Prod.mk.injEq] at hf
  rcases hf with hf | hf | hf | hf | hf | hf | hf | hf
  all_goals obtain ⟨rfl, rfl⟩ := hf
  case inr.inr.inr.inr.inr.inr.inr => exact ⟨rfl, canonical_model_dump a.arguments⟩
  all_goals exact ⟨rfl, trivial⟩

/-- The fields of an action that are not its random identity. -/
structure SameSemantics (a b : TextAction) : Prop where
  incident_id : a.incident_id = b.incident_id
  thread_id : a.thread_id = b.thread_id
  actor : a.actor = b.actor
  permission : a.permission = b.permission
  evidence_ids : a.evidence_ids = b.evidence_ids
  arguments : a.arguments = b.arguments

lemma body_of_same (h : SameSemantics a b) : a.body = b.body := by
  obtain ⟨hincident, hthread, hactor, hpermission, hevidence, harguments⟩ := h
  unfold TextAction.body TextAction.tool_name
  rw [hincident, hthread, hactor, hpermission, hevidence, harguments]

/-- No surrogate pair stands in the ids. -/
structure TextAction.PairFree (a : TextAction) : Prop where
  incident_id : Unpaired a.incident_id
  thread_id : Unpaired a.thread_id
  evidence_ids : ∀ e ∈ a.evidence_ids, Unpaired e

lemma same_of_body (ha : a.PairFree) (hb : b.PairFree) (h : document a.body = document b.body) :
    SameSemantics a b := by
  have hread : ∀ {key : String} {f : Field}, (key, f) ∈ a.body →
      ∃ g, (key, g) ∈ b.body ∧ f.Same g := fun hf =>
    same_of_document (keyed_body a) (keyed_body b) h hf
  have hjson : ∀ {key : String} {v w : Json}, (key, .json v) ∈ a.body →
      (∀ g, (key, g) ∈ b.body → g = .json w) → v = w := by
    intro key v w hv hw
    obtain ⟨g, hg, hsame⟩ := hread hv
    rw [hw g hg] at hsame
    exact hsame
  have htext : ∀ {key : String} {s t : Text}, (key, .text s) ∈ a.body →
      (∀ g, (key, g) ∈ b.body → g = .text t) → Unpaired s → Unpaired t → s = t := by
    intro key s t hs ht hfree hfree'
    obtain ⟨g, hg, hsame⟩ := hread hs
    rw [ht g hg] at hsame
    exact textUnits_inj hfree hfree' hsame
  have hactor := @hjson "actor" (.str a.actor) (.str b.actor) (by simp [TextAction.body])
    (by simp [TextAction.body])
  have hpermission := @hjson "permission" (.str a.permission) (.str b.permission)
    (by simp [TextAction.body]) (by simp [TextAction.body])
  refine ⟨@htext "incident_id" _ _ (by simp [TextAction.body]) (by simp [TextAction.body])
      ha.incident_id hb.incident_id,
    @htext "thread_id" _ _ (by simp [TextAction.body]) (by simp [TextAction.body])
      ha.thread_id hb.thread_id,
    Json.str.inj hactor, Json.str.inj hpermission, ?_,
    model_dump_inj (@hjson "arguments" _ _ (by simp [TextAction.body])
      (by simp [TextAction.body]))⟩
  obtain ⟨g, hg, hsame⟩ := @hread "evidence_ids" (.texts a.evidence_ids)
    (by simp [TextAction.body])
  obtain rfl : g = .texts b.evidence_ids := by simpa [TextAction.body] using hg
  exact texts_inj ha.evidence_ids hb.evidence_ids hsame

/-- Actions whose ids hold no pair are hashed by the same bytes only if they are the same but for
their identity. -/
lemma hashed_eq_iff (ha : a.PairFree) (hb : b.PairFree) :
    a.hashed = b.hashed ↔ SameSemantics a b := by
  constructor
  · intro h
    exact same_of_body ha hb (utf8_inj h)
  · intro h
    unfold TextAction.hashed
    rw [body_of_same h]

end

/-- The action with its ids as texts of points. -/
def points (a : CanonicalAction) : TextAction where
  action_id := a.action_id
  incident_id := ofString a.incident_id
  thread_id := ofString a.thread_id
  actor := a.actor
  permission := a.permission
  evidence_ids := a.evidence_ids.map ofString
  arguments := a.arguments
  actor_ok := a.actor_ok
  permission_ok := a.permission_ok
  evidence_cited := by simpa using a.evidence_cited
  evidence_sorted := a.evidence_sorted.map ofString fun _ _ => ofString_lt

lemma canonical_action_hash_points (a : CanonicalAction) :
    (points a).canonical_action_hash = canonical_action_hash a := by
  have hquote : ∀ s : String, (Field.text (ofString s)).dumps = (Field.json (.str s)).dumps :=
    fun s => by simp only [Field.dumps, quoteText_ofString, dumps]
  have hbody : document (points a).body = dumps a.body := by
    unfold CanonicalAction.body
    rw [← document_json]
    refine document_congr ?_
    simp only [TextAction.body, points, List.map_cons, List.map_nil, hquote, texts_ofString]
    rfl
  exact congrArg sha256_hexdigest hbody

/-! ### What was proposed -/

/-- The fields an action is validated from. -/
structure Proposed where
  action_id : UUID
  tool_name : String
  incident_id : Text
  thread_id : Text
  actor : String
  permission : String
  evidence_ids : List Text
  arguments : ActionArguments

lemma pairwise_sorted_texts {ids : List Text} (h : ids.Nodup) :
    (ids.insertionSort (· ≤ ·)).Pairwise (· < ·) := by
  have hnodup : (ids.insertionSort (· ≤ ·)).Nodup :=
    (List.perm_insertionSort (· ≤ ·) ids).nodup_iff.mpr h
  have hle : (ids.insertionSort (· ≤ ·)).Pairwise (· ≤ ·) := List.pairwise_insertionSort _ _
  exact (hle.and hnodup).imp fun hab => lt_of_le_of_ne hab.1 hab.2

namespace Proposed

def validate (p : Proposed) : Option TextAction :=
  if h : isNonEmpty p.actor ∧ isNonEmpty p.permission ∧ p.evidence_ids ≠ [] ∧
      p.evidence_ids.Nodup ∧ p.tool_name = "operations." ++ p.arguments.kind then
    some {
      action_id := p.action_id
      incident_id := p.incident_id
      thread_id := p.thread_id
      actor := p.actor
      permission := p.permission
      evidence_ids := p.evidence_ids.insertionSort (· ≤ ·)
      arguments := p.arguments
      actor_ok := h.1
      permission_ok := h.2.1
      evidence_cited := fun hnil => h.2.2.1
        ((hnil ▸ List.perm_insertionSort (· ≤ ·) p.evidence_ids).symm.eq_nil)
      evidence_sorted := pairwise_sorted_texts h.2.2.2.1 }
  else none

/-- Everything but the action's random id and the order of its citations. -/
structure Agree (p q : Proposed) : Prop where
  tool_name : p.tool_name = q.tool_name
  incident_id : p.incident_id = q.incident_id
  thread_id : p.thread_id = q.thread_id
  actor : p.actor = q.actor
  permission : p.permission = q.permission
  evidence_ids : ∀ e, e ∈ p.evidence_ids ↔ e ∈ q.evidence_ids
  arguments : p.arguments = q.arguments

/-- What validation makes of the fields. -/
structure Validated (p : Proposed) (a : TextAction) : Prop where
  tool_name : p.tool_name = "operations." ++ p.arguments.kind
  distinct : p.evidence_ids.Nodup
  incident_id : a.incident_id = p.incident_id
  thread_id : a.thread_id = p.thread_id
  actor : a.actor = p.actor
  permission : a.permission = p.permission
  evidence_ids : a.evidence_ids = p.evidence_ids.insertionSort (· ≤ ·)
  arguments : a.arguments = p.arguments

variable {p q : Proposed} {a b : TextAction}

lemma validate_ok (h : p.validate = some a) : Validated p a := by
  unfold validate at h
  split at h
  · rename_i hfields
    obtain rfl := Option.some.inj h
    exact ⟨hfields.2.2.2.2, hfields.2.2.2.1, rfl, rfl, rfl, rfl, rfl, rfl⟩
  · cases h

lemma insertionSort_eq_iff {ids ids' : List Text} (h : ids.Nodup) (h' : ids'.Nodup) :
    ids.insertionSort (· ≤ ·) = ids'.insertionSort (· ≤ ·) ↔ ∀ e, e ∈ ids ↔ e ∈ ids' := by
  have hperm := List.perm_insertionSort (· ≤ ·) ids
  have hperm' := List.perm_insertionSort (· ≤ ·) ids'
  constructor
  · intro hsort e
    rw [← hperm.mem_iff, hsort, hperm'.mem_iff]
  · intro hmem
    have hids : ids.Perm ids' := (List.perm_ext_iff_of_nodup h h').mpr hmem
    exact List.Perm.eq_of_pairwise' (List.pairwise_insertionSort _ _)
      (List.pairwise_insertionSort _ _) (hperm.trans (hids.trans hperm'.symm))

lemma agree_iff (h : Validated p a) (h' : Validated q b) :
    SameSemantics a b ↔ Agree p q := by
  have hids := insertionSort_eq_iff h.distinct h'.distinct
  rw [← h.evidence_ids, ← h'.evidence_ids] at hids
  constructor
  · intro hsame
    have harguments : p.arguments = q.arguments := by
      rw [← h.arguments, ← h'.arguments, hsame.arguments]
    exact ⟨by rw [h.tool_name, h'.tool_name, harguments],
      by rw [← h.incident_id, ← h'.incident_id, hsame.incident_id],
      by rw [← h.thread_id, ← h'.thread_id, hsame.thread_id],
      by rw [← h.actor, ← h'.actor, hsame.actor],
      by rw [← h.permission, ← h'.permission, hsame.permission], hids.mp hsame.evidence_ids,
      harguments⟩
  · intro hagree
    exact ⟨by rw [h.incident_id, h'.incident_id, hagree.incident_id],
      by rw [h.thread_id, h'.thread_id, hagree.thread_id],
      by rw [h.actor, h'.actor, hagree.actor],
      by rw [h.permission, h'.permission, hagree.permission], hids.mpr hagree.evidence_ids,
      by rw [h.arguments, h'.arguments, hagree.arguments]⟩

/-- No surrogate pair stands in the ids. -/
structure PairFree (p : Proposed) : Prop where
  incident_id : Unpaired p.incident_id
  thread_id : Unpaired p.thread_id
  evidence_ids : ∀ e ∈ p.evidence_ids, Unpaired e

lemma pairFree_of_validated (h : Validated p a) (hp : p.PairFree) : a.PairFree where
  incident_id := h.incident_id ▸ hp.incident_id
  thread_id := h.thread_id ▸ hp.thread_id
  evidence_ids e he := by
    rw [h.evidence_ids, List.mem_insertionSort] at he
    exact hp.evidence_ids e he

end Proposed

/-- Two messages of one digest. -/
def Collide (s t : List Char) : Prop := s ≠ t ∧ sha256_hexdigest s = sha256_hexdigest t

/-- **The canonical encoding is an identity**: what two valid actions are hashed by is the same
where the actions agree in all but their own ids and the order of their citations, and where no id
holds a surrogate pair it is the same only there; and so are the hashes, unless the two texts
collide. -/
theorem canonical_encoding_identity {p q : Proposed} {a b : TextAction}
    (ha : p.validate = some a) (hb : q.validate = some b) :
    (p.Agree q → a.hashed = b.hashed ∧ a.canonical_action_hash = b.canonical_action_hash) ∧
      (p.PairFree → q.PairFree → (a.hashed = b.hashed ↔ p.Agree q) ∧
        (a.canonical_action_hash = b.canonical_action_hash →
          p.Agree q ∨ Collide (document a.body) (document b.body))) := by
  have hp := Proposed.validate_ok ha
  have hq := Proposed.validate_ok hb
  have hagree := Proposed.agree_iff hp hq
  refine ⟨fun h => ?_, fun hfree hfree' => ?_⟩
  · have hbody := body_of_same (hagree.mpr h)
    unfold TextAction.hashed TextAction.canonical_action_hash
    rw [hbody]
    exact ⟨rfl, rfl⟩
  · have hafree := Proposed.pairFree_of_validated hp hfree
    have hbfree := Proposed.pairFree_of_validated hq hfree'
    refine ⟨(hashed_eq_iff hafree hbfree).trans hagree, fun h => ?_⟩
    by_cases htext : document a.body = document b.body
    · exact .inl (hagree.mp (same_of_body hafree hbfree htext))
    · exact .inr ⟨htext, h⟩

/-- A restart of the API on a thread, that cites some records. -/
def restartProposed (action_id : UUID) (thread_id : Text) (evidence_ids : List Text) :
    Proposed where
  action_id := action_id
  tool_name := "operations.restart"
  incident_id := ofString "INC-D3"
  thread_id := thread_id
  actor := "agent"
  permission := "operations:write"
  evidence_ids := evidence_ids
  arguments := .restart ⟨"api", isComponent_api⟩

lemma restart_pairFree (action_id : UUID) (thread_id : String) (evidence_ids : List String) :
    (restartProposed action_id (ofString thread_id) (evidence_ids.map ofString)).PairFree where
  incident_id := unpaired_ofString "INC-D3"
  thread_id := unpaired_ofString thread_id
  evidence_ids e he := by
    obtain ⟨s, -, rfl⟩ := List.mem_map.mp he
    exact unpaired_ofString s

lemma restart_agree (i j : UUID) (thread_id : Text) {es fs : List Text}
    (h : ∀ e, e ∈ es ↔ e ∈ fs) :
    (restartProposed i thread_id es).Agree (restartProposed j thread_id fs) :=
  ⟨rfl, rfl, rfl, rfl, rfl, h, rfl⟩

/-- Two citations in either order, and another thread. -/
theorem canonical_encoding_identity_permuted :
    ∃ a b c, (restartProposed 1 (ofString "thread-1") (["e1", "e2"].map ofString)).validate =
        some a ∧
      (restartProposed 2 (ofString "thread-1") (["e2", "e1"].map ofString)).validate = some b ∧
      (restartProposed 3 (ofString "thread-2") (["e2", "e1"].map ofString)).validate = some c ∧
      a.hashed = b.hashed ∧ a.hashed ≠ c.hashed := by
  obtain ⟨a, ha⟩ := Option.isSome_iff_exists.mp (show (restartProposed 1 (ofString "thread-1")
    (["e1", "e2"].map ofString)).validate.isSome = true by decide +kernel)
  obtain ⟨b, hb⟩ := Option.isSome_iff_exists.mp (show (restartProposed 2 (ofString "thread-1")
    (["e2", "e1"].map ofString)).validate.isSome = true by decide +kernel)
  obtain ⟨c, hc⟩ := Option.isSome_iff_exists.mp (show (restartProposed 3 (ofString "thread-2")
    (["e2", "e1"].map ofString)).validate.isSome = true by decide +kernel)
  have hpermuted : (restartProposed 1 (ofString "thread-1") (["e1", "e2"].map ofString)).Agree
      (restartProposed 2 (ofString "thread-1") (["e2", "e1"].map ofString)) :=
    restart_agree _ _ _ fun e => by simp [or_comm]
  refine ⟨a, b, c, ha, hb, hc, ((canonical_encoding_identity ha hb).1 hpermuted).1, fun h => ?_⟩
  have hagree := ((canonical_encoding_identity ha hc).2 (restart_pairFree ..)
    (restart_pairFree ..)).1.mp h
  exact absurd hagree.thread_id (by decide)

/-- Two threads, called by one point and by the halves of its pair, are hashed alike. -/
theorem threads_hashed_alike :
    ∃ a b, (restartProposed 1 smiley [ofString "e1"]).validate = some a ∧
      (restartProposed 1 smileyHalves [ofString "e1"]).validate = some b ∧
      a.hashed = b.hashed ∧ a.canonical_action_hash = b.canonical_action_hash ∧
      ¬(restartProposed 1 smiley [ofString "e1"]).Agree
        (restartProposed 1 smileyHalves [ofString "e1"]) := by
  obtain ⟨a, ha⟩ := Option.isSome_iff_exists.mp (show (restartProposed 1 smiley
    [ofString "e1"]).validate.isSome = true by decide +kernel)
  obtain ⟨b, hb⟩ := Option.isSome_iff_exists.mp (show (restartProposed 1 smileyHalves
    [ofString "e1"]).validate.isSome = true by decide +kernel)
  have hdocument : document a.body = document b.body := by
    obtain ⟨-, -, hincident, hthread, hactor, hpermission, hevidence, harguments⟩ :=
      Proposed.validate_ok ha
    obtain ⟨-, -, hincident', hthread', hactor', hpermission', hevidence', harguments'⟩ :=
      Proposed.validate_ok hb
    have hquoted : quoteText smiley = quoteText smileyHalves := by
      simpa using quoteText_smiley []
    refine document_congr ?_
    unfold TextAction.body TextAction.tool_name
    rw [hincident, hthread, hactor, hpermission, hevidence, harguments, hincident', hthread',
      hactor', hpermission', hevidence', harguments']
    simp only [restartProposed, List.map_cons, List.map_nil, Field.dumps, hquoted]
  refine ⟨a, b, ha, hb, congrArg utf8 hdocument, congrArg sha256_hexdigest hdocument,
    fun hagree => ?_⟩
  exact absurd hagree.thread_id (by decide)

/-! ### Idempotency names -/

/-- `^[A-Za-z0-9_-]{1,120}$` -/
def isEpisodeId (s : String) : Bool :=
  1 ≤ s.length && s.length ≤ 120 && s.toList.all isIdChar

def IDEMPOTENCY_KEY_PREFIX : String := "triage-agent-lab:d1:"

section
variable (action_hash : ActionHash) (thread_id : String)

/-- The name an attempt of the legacy graph is keyed by. -/
def idempotency_name : List Char :=
  IDEMPOTENCY_KEY_PREFIX.toList ++ thread_id.toList ++ ":".toList ++ action_hash.1.toList

def idempotency_key : UUID := uuid5 NAMESPACE_URL (idempotency_name action_hash thread_id)

def episode_idempotency_name (episode_id : String) (sequence : ℕ) : List Char :=
  idempotency_name action_hash thread_id ++ ":episode:".toList ++ episode_id.toList ++
    ":sequence:".toList ++ (toString sequence).toList

def episode_idempotency_key (episode_id : String) (sequence : ℕ) : UUID :=
  uuid5 NAMESPACE_URL (episode_idempotency_name action_hash thread_id episode_id sequence)

end

lemma first_colon {s t u v : List Char} (hu : ':' ∉ u) (hv : ':' ∉ v)
    (h : u ++ ':' :: s = v ++ ':' :: t) : u = v ∧ s = t := by
  induction u generalizing v with
  | nil =>
    cases v with
    | nil => exact ⟨rfl, (List.cons.inj h).2⟩
    | cons c v => exact absurd (List.mem_cons.mpr (.inl (List.cons.inj h).1)) hv
  | cons c u ih =>
    cases v with
    | nil => exact absurd (List.mem_cons.mpr (.inl (List.cons.inj h).1.symm)) hu
    | cons d v =>
      obtain ⟨rfl, htail⟩ := List.cons.inj h
      obtain ⟨rfl, rfl⟩ := ih (fun hmem => hu (List.mem_cons_of_mem _ hmem))
        (fun hmem => hv (List.mem_cons_of_mem _ hmem)) htail
      exact ⟨rfl, rfl⟩

lemma last_colon {s t u v : List Char} (hu : ':' ∉ u) (hv : ':' ∉ v)
    (h : s ++ ':' :: u = t ++ ':' :: v) : s = t ∧ u = v := by
  have hrev : u.reverse ++ ':' :: s.reverse = v.reverse ++ ':' :: t.reverse := by
    simpa using congrArg List.reverse h
  obtain ⟨htail, hhead⟩ := first_colon (by simpa using hu) (by simpa using hv) hrev
  exact ⟨List.reverse_injective hhead, List.reverse_injective htail⟩

lemma colon_notMem_hash (h : ActionHash) : ':' ∉ h.1.toList := by
  intro hmem
  have hall := h.2
  simp only [isActionHash, Bool.and_eq_true, List.all_eq_true] at hall
  exact absurd (hall.2 _ hmem) (by decide)

lemma colon_notMem_episode {s : String} (h : isEpisodeId s = true) : ':' ∉ s.toList := by
  intro hmem
  simp only [isEpisodeId, Bool.and_eq_true, List.all_eq_true] at h
  exact absurd (h.2 _ hmem) (by decide)

lemma toString_eq (n : ℕ) : (toString n).toList = Nat.toDigits 10 n := Nat.toList_repr

lemma colon_notMem_sequence (n : ℕ) : ':' ∉ (toString n).toList := by
  intro hmem
  rw [toString_eq] at hmem
  exact absurd (Nat.isDigit_of_mem_toDigits (by decide) (by decide) hmem) (by decide)

lemma sequence_inj {m n : ℕ} (h : (toString m).toList = (toString n).toList) : m = n := by
  rw [toString_eq, toString_eq] at h
  rw [← Nat.ofDigitChars_ten_toDigits (n := m), h, Nat.ofDigitChars_ten_toDigits]

section
variable {hash hash' : ActionHash} {thread thread' episode episode' : String} {n n' : ℕ}

lemma idempotency_name_inj (h : idempotency_name hash thread = idempotency_name hash' thread') :
    thread = thread' ∧ hash = hash' := by
  have hcut : (IDEMPOTENCY_KEY_PREFIX.toList ++ thread.toList) ++ ':' :: hash.1.toList =
      (IDEMPOTENCY_KEY_PREFIX.toList ++ thread'.toList) ++ ':' :: hash'.1.toList := by
    simpa [idempotency_name] using h
  obtain ⟨hleft, hhash⟩ := last_colon (colon_notMem_hash hash) (colon_notMem_hash hash') hcut
  have hthread := List.append_cancel_left hleft
  exact ⟨String.toList_inj.mp hthread, Subtype.ext (String.toList_inj.mp hhash)⟩

lemma episode_idempotency_name_inj (he : isEpisodeId episode = true)
    (he' : isEpisodeId episode' = true)
    (h : episode_idempotency_name hash thread episode n =
      episode_idempotency_name hash' thread' episode' n') :
    thread = thread' ∧ hash = hash' ∧ episode = episode' ∧ n = n' := by
  have hcut : (idempotency_name hash thread ++ ":episode:".toList ++ episode.toList ++
      ":sequence".toList) ++ ':' :: (toString n).toList =
      (idempotency_name hash' thread' ++ ":episode:".toList ++ episode'.toList ++
      ":sequence".toList) ++ ':' :: (toString n').toList := by
    simpa [episode_idempotency_name] using h
  obtain ⟨hleft, hsequence⟩ := last_colon (colon_notMem_sequence n) (colon_notMem_sequence n') hcut
  have hcut' : (idempotency_name hash thread ++ ":episode".toList) ++ ':' :: episode.toList =
      (idempotency_name hash' thread' ++ ":episode".toList) ++ ':' :: episode'.toList := by
    simpa using List.append_cancel_right hleft
  obtain ⟨hlegacy, hepisode⟩ :=
    last_colon (colon_notMem_episode he) (colon_notMem_episode he') hcut'
  obtain ⟨hthread, hhash⟩ := idempotency_name_inj (List.append_cancel_right hlegacy)
  exact ⟨hthread, hhash, String.toList_inj.mp hepisode, sequence_inj hsequence⟩

/-- A sequence below the bound is shorter than a hash. -/
lemma idempotency_name_ne_episode (hn : n < 10 ^ 63) :
    idempotency_name hash thread ≠ episode_idempotency_name hash' thread' episode n := by
  intro h
  have hcut : (IDEMPOTENCY_KEY_PREFIX.toList ++ thread.toList) ++ ':' :: hash.1.toList =
      (idempotency_name hash' thread' ++ ":episode:".toList ++ episode.toList ++
      ":sequence".toList) ++ ':' :: (toString n).toList := by
    simpa [episode_idempotency_name, idempotency_name] using h
  have hdigits := (last_colon (colon_notMem_hash hash) (colon_notMem_sequence n) hcut).2
  have hlength : hash.1.toList.length = 64 := by
    have hall := hash.2
    simp only [isActionHash, Bool.and_eq_true, decide_eq_true_eq] at hall
    simpa [String.length_toList] using hall.1
  have hshort := (Nat.length_toDigits_le_iff (b := 10) (k := 63) (by decide) (by decide)).mpr hn
  rw [hdigits, toString_eq] at hlength
  omega

end

/-- Two names of one version 5 UUID. -/
def CollideName (s t : List Char) : Prop := s ≠ t ∧ uuid5 NAMESPACE_URL s = uuid5 NAMESPACE_URL t

lemma name_of_key {s t : List Char} (h : uuid5 NAMESPACE_URL s = uuid5 NAMESPACE_URL t) :
    s = t ∨ CollideName s t := by
  by_cases hst : s = t
  · exact .inl hst
  · exact .inr ⟨hst, h⟩

/-- An attempt at an action: of the legacy graph, or of an episode at one place in it. -/
inductive Attempt where
  | legacy (action_hash : ActionHash) (thread_id : String)
  | episode (action_hash : ActionHash) (thread_id episode_id : String) (sequence : ℕ)

namespace Attempt

def name : Attempt → List Char
  | legacy h t => idempotency_name h t
  | episode h t e n => episode_idempotency_name h t e n

def key : Attempt → UUID
  | legacy h t => idempotency_key h t
  | episode h t e n => episode_idempotency_key h t e n

def Admitted : Attempt → Prop
  | legacy _ t => isBoundedName t = true
  | episode _ t e n => isBoundedName t = true ∧ isEpisodeId e = true ∧ n < 10 ^ 63

lemma key_eq (a : Attempt) : a.key = uuid5 NAMESPACE_URL a.name := by cases a <;> rfl

lemma name_inj {a b : Attempt} (ha : a.Admitted) (hb : b.Admitted) (h : a.name = b.name) :
    a = b := by
  cases a with
  | legacy =>
    cases b with
    | legacy =>
      obtain ⟨rfl, rfl⟩ := idempotency_name_inj h
      rfl
    | episode => exact absurd h (idempotency_name_ne_episode hb.2.2)
  | episode =>
    cases b with
    | legacy => exact absurd h.symm (idempotency_name_ne_episode ha.2.2)
    | episode =>
      obtain ⟨rfl, rfl, rfl, rfl⟩ := episode_idempotency_name_inj ha.2.1 hb.2.1 h
      rfl

end Attempt

/-- **Idempotency names never collide**: one name is one attempt, whatever its thread is called,
and unless their two names collide, so is one key. -/
theorem idempotency_names_distinct {a b : Attempt} (ha : a.Admitted) (hb : b.Admitted) :
    (a.name = b.name ↔ a = b) ∧ (a.key = b.key → a = b ∨ CollideName a.name b.name) := by
  refine ⟨⟨Attempt.name_inj ha hb, fun h => by rw [h]⟩, fun h => ?_⟩
  rw [Attempt.key_eq, Attempt.key_eq] at h
  exact (name_of_key h).imp_left (Attempt.name_inj ha hb)

def plainHash : ActionHash := ⟨String.ofList (List.replicate 64 'a'), by decide +kernel⟩

/-- A thread that is called like the name of another attempt. -/
theorem idempotency_names_distinct_crossed :
    (Attempt.legacy plainHash "thread:episode:e:sequence").name ≠
      (Attempt.episode plainHash "thread" "e" 0).name := by
  intro h
  have heq := (@idempotency_names_distinct (.legacy plainHash "thread:episode:e:sequence")
    (.episode plainHash "thread" "e" 0) (show isBoundedName _ = true by decide +kernel)
    ⟨by decide +kernel, by decide +kernel, by decide⟩).1.mp h
  cases heq

end IncidentGate.Identities
