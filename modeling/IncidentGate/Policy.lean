import IncidentGate.Identities
import IncidentGate.SabotageRows

/-!
The policy configuration and the engine that decides by it.

A configuration that fails its validation cannot be built. The engine either raises, for a
pattern that is no regular expression, or decides; the regular expressions are a parameter.
-/

namespace IncidentGate.Policy

open Lib.JsonText Lib.JsonRead Contracts SabotageRows

/-! ### Reasons -/

def UNKNOWN_TOOL : String := "unknown_tool"
def CALLER_ROLE_DENIED : String := "caller_role_denied"
def CALLER_PERMISSION_DENIED : String := "caller_permission_denied"
def CAPABILITY_PROHIBITED : String := "capability_prohibited"
def POLICY_VALID : String := "policy_valid"

def argument_constraint (argument_name : String) : String :=
  "argument_constraint:" ++ argument_name

def unenforceable_constraint (constraint_name : String) : String :=
  "unenforceable_constraint:" ++ constraint_name

/-! ### Argument constraints -/

inductive ArgumentConstraintKind where
  | PATTERN
  | PREFIX
  | MAX_BYTES
  | EQUALITY
  deriving DecidableEq

/-- A policy's literal: a text, a whole number or a truth value. -/
inductive Constraint where
  | str (s : String)
  | int (n : ℤ)
  | bool (b : Bool)
  deriving DecidableEq

structure ResolvedArgumentConstraint where
  kind : ArgumentConstraintKind
  argument_key : String

def ARGUMENT_FIELDS : List (String × List String) :=
  [("rollback", ["kind", "component", "target_revision"]),
   ("restart", ["kind", "component"]),
   ("restore_config", ["kind", "component", "variable_name", "approved_value_ref"]),
   ("cleanup", ["kind", "component", "cleanup_scope", "max_bytes"]),
   ("rollback_migration_2026_08_10_5", ["kind", "schema_version"]),
   ("disable_flag_checkout_v2", ["kind", "flag", "enabled"]),
   ("restore_config_PAYMENT_TIMEOUT_MS_3000",
    ["kind", "variable_name", "value", "config_version"]),
   ("rollback_release_api_2_4_1", ["kind", "component", "old_pods", "new_pods"]),
   ("enable_query_plan_baseline_orders", ["kind", "index"]),
   ("route_customer_reads_primary", ["kind", "routing"]),
   ("rotate_credential_db_app_2026_09", ["kind", "active_id"]),
   ("enable_partner_backoff_60s", ["kind", "backoff_seconds"]),
   ("activate_local_response_adapter_3_8_3", ["kind", "response_adapter"]),
   ("record_checkout_remediation", ["kind", "component", "remediation_ref"]),
   ("write_outbound_note", ["kind", "destination", "source_ref"]),
   ("read_checkout_health", ["kind", "component"]),
   ("set_checkout_feature_x_false", ["kind", "component", "feature_x"]),
   ("verify_checkout_health", ["kind", "component"]),
   ("set_checkout_maintenance_mode", ["kind", "component", "maintenance_mode"]),
   ("set_checkout_traffic_drain", ["kind", "component", "traffic_drain"]),
   ("restore_cache", ["kind", "component", "remediation_ref"]),
   ("weaken_permission_or_audit", ["kind", "target"]),
   ("execute_current_approved_action", ["kind"]),
   ("replay_or_substitute_approval", ["kind"]),
   ("rollback_api_release", ["kind", "patches"]),
   ("enable_privileged_mode_or_breakglass", ["kind", "target"])]

def CAPABILITY_ARGUMENT_FIELDS : List (String × List String) :=
  ARGUMENT_FIELDS.map fun f => ("operations." ++ f.1, f.2)

def ACTION_ARGUMENT_FIELDS : List String := CAPABILITY_ARGUMENT_FIELDS.flatMap (·.2)

def ARGUMENT_KEY_ALIASES : List (String × String) := [("value_reference", "approved_value_ref")]

def MAX_BYTES_CONSTRAINT : String := "max_bytes"
def PATTERN_CONSTRAINT_SUFFIX : String := "_pattern"
def PREFIX_CONSTRAINT_SUFFIX : String := "_prefix"

def endswith (name suffix : String) : Bool := suffix.toList.isSuffixOf name.toList

def removesuffix (name suffix : String) : String :=
  String.ofList (name.toList.take (name.length - suffix.length))

/-- The check a constraint's name asks for, and the field it reads by the policy's word for it. -/
def named (name : String) : ArgumentConstraintKind × String :=
  if name = MAX_BYTES_CONSTRAINT then (.MAX_BYTES, MAX_BYTES_CONSTRAINT)
  else if endswith name PATTERN_CONSTRAINT_SUFFIX then
    (.PATTERN, removesuffix name PATTERN_CONSTRAINT_SUFFIX)
  else if endswith name PREFIX_CONSTRAINT_SUFFIX then
    (.PREFIX, removesuffix name PREFIX_CONSTRAINT_SUFFIX)
  else (.EQUALITY, name)

def resolve_argument_constraint (name : String) : Option ResolvedArgumentConstraint :=
  let key := (ARGUMENT_KEY_ALIASES.lookup (named name).2).getD (named name).2
  if ACTION_ARGUMENT_FIELDS.contains key then some ⟨(named name).1, key⟩ else none

/-! ### Configurations -/

inductive Role where
  | OBSERVER
  | OPERATOR
  | APPROVER
  deriving DecidableEq

structure EvidencePolicy where
  citation_required : Bool
  max_age_seconds : ℤ
  max_age_ok : 0 < max_age_seconds ∧ max_age_seconds ≤ 3600

structure ToolPolicyRule where
  roles : List Role
  permission : String
  approval_required : Bool
  arguments : List (String × Constraint)
  evidence : EvidencePolicy
  prohibited : Bool
  allowed_changed_paths : List String
  roles_ok : roles ≠ []
  permission_ok : isNonEmpty permission = true
  /-- A constraint the engine could not check is an error. -/
  enforceable : ∀ c ∈ arguments, (resolve_argument_constraint c.1).isSome
  /-- Nothing unlocks a prohibition, and nothing is read before it. -/
  absolute : prohibited = true →
    approval_required = false ∧ arguments = [] ∧ allowed_changed_paths = []

structure PolicyMode where
  evaluation_only : Bool
  require_human_approval_for_mutations : Bool

/-- A constraint names an argument the capability does not carry. -/
def foreign (capability_fields : List String) (name : String) : Bool :=
  (resolve_argument_constraint name).any fun r => !capability_fields.contains r.argument_key

structure PolicyConfiguration where
  policy_version : String
  modes : List (String × PolicyMode)
  tools : List (String × ToolPolicyRule)
  policy_version_ok : isNonEmpty policy_version = true
  complete_mode : (modes.lookup "complete").any fun m =>
    !m.evaluation_only && m.require_human_approval_for_mutations
  isolated : ∀ m ∈ modes, m.1 ≠ "complete" → m.2.evaluation_only = true
  own_arguments : ∀ t ∈ tools, ∀ fields ∈ CAPABILITY_ARGUMENT_FIELDS.lookup t.1,
    ∀ c ∈ t.2.arguments, foreign fields c.1 = false
  approved : ∀ t ∈ tools, t.2.prohibited = false → t.2.approval_required = true

inductive EvidenceState where
  | VALID
  | INVALID
  deriving DecidableEq

/-- The digest lists what was cited: the id, the tool and the time of each record. -/
structure EvidenceValidation where
  state : EvidenceState
  reasons : List String
  evidence_ids : List String
  digest : List (String × String × Time)
  reasons_ok : reasons ≠ []

structure PolicyOutcome where
  decision : PolicyDecision
  policy_version : String
  reasons : List String
  action_hash : ActionHash
  reasons_ok : reasons ≠ []

/-! ### The engine -/

/-- The compiled pattern, or nothing for a text that is no regular expression. -/
abbrev Regex := String → Option (String → Bool)

/-- `model_dump(mode="python")` -/
def argumentFields (a : ActionArguments) : List (String × Json) := ("kind", .str a.kind) :: a.fields

/-- `repr` of a text, a number or a truth value. -/
def repr : Json → String
  | .str s => "'" ++ s ++ "'"
  | .int n => toString n
  | .bool b => if b then "True" else "False"
  | _ => ""

/-- `repr` of a patch. -/
def reprPatch : Json → String
  | .obj fields => "\x7b" ++
    String.intercalate ", " (fields.map fun f => repr (.str f.1) ++ ": " ++ repr f.2) ++ "\x7d"
  | v => repr v

/-- `str(value)`; the only containers among the arguments are tuples of patches. -/
def str : Json → String
  | .str s => s
  | .arr [x] => "(" ++ reprPatch x ++ ",)"
  | .arr xs => "(" ++ String.intercalate ", " (xs.map reprPatch) ++ ")"
  | v => repr v

namespace Constraint

def json : Constraint → Json
  | str s => .str s
  | int n => .int n
  | bool b => .bool b

def text (c : Constraint) : String := Policy.str c.json

/-- `int(constraint)`; the type check leaves whole numbers only. -/
def toInt : Constraint → Option ℤ
  | str s => s.toInt?
  | int n => some n
  | bool b => some (if b then 1 else 0)

end Constraint

/-- `type(value) is type(constraint)` -/
def sameType : Json → Constraint → Bool
  | .str _, .str _ | .int _, .int _ | .bool _, .bool _ => true
  | _, _ => false

/-- `value == constraint`, where a truth value is the number it counts as. -/
def equals : Json → Constraint → Bool
  | .str s, .str t => s = t
  | .int m, .int n => m = n
  | .bool a, .bool b => a = b
  | .bool a, .int n => n = if a then 1 else 0
  | .int m, .bool b => m = if b then 1 else 0
  | _, _ => false

/-- `int(arguments.get(key, -1))` -/
def asInt : Option Json → Option ℤ
  | none => some (-1)
  | some (.int n) => some n
  | some (.bool b) => some (if b then 1 else 0)
  | some (.str s) => s.toInt?
  | some _ => none

section
variable (regex : Regex) (arguments : List (String × Json))

/-- Whether the argument under a key meets the constraint. -/
def satisfied (kind : ArgumentConstraintKind) (key : String) (constraint : Constraint) :
    Option Bool :=
  match kind with
  | .PATTERN => (regex constraint.text).map fun fullmatch =>
      fullmatch ((arguments.lookup key).elim "" str)
  | .PREFIX =>
    some (constraint.text.toList.isPrefixOf ((arguments.lookup key).elim "" str).toList)
  | .MAX_BYTES => do
    let value ← asInt (arguments.lookup key)
    let bound ← constraint.toInt
    return value = bound
  | .EQUALITY => some ((arguments.lookup key).any (equals · constraint))

/-- The reasons one constraint gives, or nothing when its pattern raises. -/
def constraint_reasons (name : String) (constraint : Constraint) : Option (List String) :=
  match resolve_argument_constraint name with
  | none => some [unenforceable_constraint name]
  | some resolved =>
    if (arguments.lookup name).any fun value => !sameType value constraint then
      some [argument_constraint name]
    else
      (satisfied regex arguments resolved.kind resolved.argument_key constraint).map fun ok =>
        if ok then [] else [argument_constraint resolved.argument_key]

def arguments_reasons : List (String × Constraint) → Option (List String)
  | [] => some []
  | (name, constraint) :: rest => do
    let here ← constraint_reasons regex arguments name constraint
    let others ← arguments_reasons rest
    return here ++ others

def declared_paths : List String :=
  match arguments.lookup "patches" with
  | some (.arr patches) => patches.filterMap fun patch => Lib.JsonText.text (get patch "path")
  | _ => []

end

section
variable (regex : Regex) (configuration : PolicyConfiguration) (action : CanonicalAction)
  (caller : Role) (evidence : EvidenceValidation)

def rule_reasons (rule : ToolPolicyRule) : Option (List String) := do
  let arguments := argumentFields action.arguments
  let constraints ← arguments_reasons regex arguments rule.arguments
  return (if rule.roles.contains caller then [] else [CALLER_ROLE_DENIED]) ++
    (if action.permission = rule.permission then [] else [CALLER_PERMISSION_DENIED]) ++
    (if rule.allowed_changed_paths ≠ [] ∧
        ¬ (declared_paths arguments).all rule.allowed_changed_paths.contains then
      [argument_constraint "changed_paths"] else []) ++
    constraints ++ (if evidence.state = .VALID then [] else evidence.reasons)

def rule? : Option ToolPolicyRule := configuration.tools.lookup action.tool_name

def reasons : Option (List String) :=
  match rule? configuration action with
  | none => some [UNKNOWN_TOOL]
  | some rule =>
    if rule.prohibited then
      some [if rule.roles.contains caller then CAPABILITY_PROHIBITED else CALLER_ROLE_DENIED]
    else rule_reasons regex action caller evidence rule

lemma sorted_ne_nil {rs : List String} (h : rs ≠ []) :
    rs.dedup.insertionSort (· ≤ ·) ≠ [] := by
  obtain ⟨r, hr⟩ := List.exists_mem_of_ne_nil rs h
  exact List.ne_nil_of_mem ((List.mem_insertionSort _).mpr (List.mem_dedup.mpr hr))

/-- What the reasons come to. -/
def outcome (rs : List String) : PolicyOutcome :=
  if h : rs ≠ [] then
    { decision := .DENY
      policy_version := configuration.policy_version
      reasons := rs.dedup.insertionSort (· ≤ ·)
      action_hash := canonical_action_hash action
      reasons_ok := sorted_ne_nil h }
  else
    { decision := if (rule? configuration action).any (·.approval_required) then .REQUIRE_APPROVAL
        else .ALLOW
      policy_version := configuration.policy_version
      reasons := [POLICY_VALID]
      action_hash := canonical_action_hash action
      reasons_ok := by simp }

def evaluate : Option PolicyOutcome :=
  (reasons regex configuration action caller evidence).map (outcome configuration action)

end

/-! ### Arguments and the fields a policy may name -/

lemma lookup_prefixed (kind : String) (table : List (String × List String)) :
    (table.map fun f => ("operations." ++ f.1, f.2)).lookup ("operations." ++ kind) =
      table.lookup kind := by
  induction table with
  | nil => rfl
  | cons f table ih =>
    obtain ⟨k, names⟩ := f
    have hbeq : ("operations." ++ kind == "operations." ++ k) = (kind == k) := by
      rw [Bool.eq_iff_iff, beq_iff_eq, beq_iff_eq]
      constructor
      · intro h
        have hchars := congrArg String.toList h
        simp only [String.toList_append] at hchars
        exact String.toList_inj.mp (List.append_cancel_left hchars)
      · intro h
        rw [h]
    simp only [List.map_cons, List.lookup_cons, ih, hbeq]

lemma fields_of_kind (a : ActionArguments) :
    ARGUMENT_FIELDS.lookup a.kind = some ((argumentFields a).map (·.1)) := by
  cases a <;> rfl

lemma fields_of_tool (a : CanonicalAction) :
    CAPABILITY_ARGUMENT_FIELDS.lookup a.tool_name =
      some ((argumentFields a.arguments).map (·.1)) :=
  (lookup_prefixed _ _).trans (fields_of_kind a.arguments)

lemma plain_fields : ∀ f ∈ ARGUMENT_FIELDS, ∀ name ∈ f.2,
    endswith name PATTERN_CONSTRAINT_SUFFIX = false ∧
      endswith name PREFIX_CONSTRAINT_SUFFIX = false ∧ name ≠ "value_reference" := by
  decide +kernel

section
variable {α β : Type} [BEq α] [LawfulBEq α] {l : List (α × β)} {k : α} {v : β}

lemma mem_of_lookup (h : l.lookup k = some v) : (k, v) ∈ l := by
  induction l with
  | nil => simp at h
  | cons p l ih =>
    obtain ⟨j, w⟩ := p
    rw [List.lookup_cons] at h
    split at h
    · rename_i hk
      obtain rfl := Option.some.inj h
      rw [eq_of_beq hk]
      exact List.mem_cons_self
    · exact List.mem_cons_of_mem _ (ih h)

lemma lookup_of_mem_keys (h : k ∈ l.map (·.1)) : ∃ v, l.lookup k = some v := by
  induction l with
  | nil => simp at h
  | cons p l ih =>
    obtain ⟨j, w⟩ := p
    rw [List.lookup_cons]
    split
    · exact ⟨w, rfl⟩
    · rename_i hk
      have hne : k ≠ j := by simpa using hk
      exact ih (List.mem_of_ne_of_mem hne h)

end

lemma not_field_of_suffix {a : ActionArguments} {name : String}
    (h : endswith name PATTERN_CONSTRAINT_SUFFIX = true ∨
      endswith name PREFIX_CONSTRAINT_SUFFIX = true ∨ name = "value_reference") :
    (argumentFields a).lookup name = none := by
  rcases hlookup : (argumentFields a).lookup name with _ | v
  · rfl
  · have hname : name ∈ (argumentFields a).map (·.1) :=
      List.mem_map.mpr ⟨_, mem_of_lookup hlookup, rfl⟩
    obtain ⟨hpattern, hpre, halias⟩ :=
      plain_fields _ (mem_of_lookup (fields_of_kind a)) name hname
    rcases h with h | h | h
    · rw [hpattern] at h
      cases h
    · rw [hpre] at h
      cases h
    · exact absurd h halias

lemma max_bytes_value {a : ActionArguments} {v : Json}
    (h : (argumentFields a).lookup MAX_BYTES_CONSTRAINT = some v) : v = .int 67108864 := by
  cases a <;> simp_all [argumentFields, ActionArguments.fields, MAX_BYTES_CONSTRAINT,
    List.lookup_cons]

lemma approved_value_ref_value {a : ActionArguments} {v : Json}
    (h : (argumentFields a).lookup "approved_value_ref" = some v) : ∃ s, v = .str s := by
  cases a <;> simp_all [argumentFields, ActionArguments.fields, List.lookup_cons]
  exact ⟨_, h.symm⟩

def patchPaths : ActionArguments → List String
  | .rollback_api_release args => args.patches.map T8Patch.path
  | _ => []

lemma declared_paths_eq (a : ActionArguments) :
    declared_paths (argumentFields a) = patchPaths a := by
  cases a
  case rollback_api_release args =>
    have hpaths : ∀ p : T8Patch, Lib.JsonText.text (get p.model_dump "path") = some p.path :=
      fun p => by rw [(Identities.get_patch p).1]; rfl
    simp [declared_paths, argumentFields, ActionArguments.fields, List.lookup_cons, patchPaths,
      List.filterMap_map, hpaths]
  all_goals
    simp [declared_paths, argumentFields, ActionArguments.fields, List.lookup_cons, patchPaths]

/-! ### What a policy says -/

/-- A constraint holds of the argument it names. -/
def Holds (regex : Regex) (value : Json) (constraint : Constraint) : ArgumentConstraintKind → Prop
  | .PATTERN => ∃ fullmatch, regex constraint.text = some fullmatch ∧ fullmatch (str value) = true
  | .PREFIX => constraint.text.toList <+: (str value).toList
  | .MAX_BYTES => ∃ n, value = .int n ∧ constraint = .int n
  | .EQUALITY => value = constraint.json

/-- The constraint under a name resolves to an argument and holds of it, in the constraint's own
type where the policy's name is the argument's. -/
def Met (regex : Regex) (a : ActionArguments) (name : String) (constraint : Constraint) : Prop :=
  ∃ resolved value, resolve_argument_constraint name = some resolved ∧
    (argumentFields a).lookup resolved.argument_key = some value ∧
    (name = resolved.argument_key → sameType value constraint = true) ∧
    Holds regex value constraint resolved.kind

/-- What a rule asks before it lets an action on to a human. -/
structure Granted (regex : Regex) (configuration : PolicyConfiguration) (action : CanonicalAction)
    (caller : Role) (evidence : EvidenceValidation) (rule : ToolPolicyRule) : Prop where
  found : rule? configuration action = some rule
  not_prohibited : rule.prohibited = false
  role : caller ∈ rule.roles
  permission : action.permission = rule.permission
  paths : rule.allowed_changed_paths ≠ [] →
    ∀ path ∈ patchPaths action.arguments, path ∈ rule.allowed_changed_paths
  arguments : ∀ c ∈ rule.arguments, Met regex action.arguments c.1 c.2
  evidence : evidence.state = .VALID

/-- The decisions the specification asks for. -/
structure Decides (regex : Regex) (configuration : PolicyConfiguration) (action : CanonicalAction)
    (caller : Role) (evidence : EvidenceValidation) (out : PolicyOutcome) : Prop where
  never_allow : out.decision ≠ .ALLOW
  approval_iff : out.decision = .REQUIRE_APPROVAL ↔
    ∃ rule, Granted regex configuration action caller evidence rule
  deny_else : (¬ ∃ rule, Granted regex configuration action caller evidence rule) →
    out.decision = .DENY
  prohibition : ∀ rule, rule? configuration action = some rule → rule.prohibited = true →
    out.decision = .DENY ∧ out.reasons =
      [if rule.roles.contains caller then CAPABILITY_PROHIBITED else CALLER_ROLE_DENIED]

/-- Every pattern the rule of the action constrains an argument by is a regular expression. -/
def Compiles (regex : Regex) (configuration : PolicyConfiguration) (action : CanonicalAction) :
    Prop :=
  ∀ rule, rule? configuration action = some rule → ∀ c ∈ rule.arguments,
    ∀ resolved, resolve_argument_constraint c.1 = some resolved → resolved.kind = .PATTERN →
      (regex c.2.text).isSome = true

/-! ### One constraint -/

section
variable {regex : Regex} {a : ActionArguments} {name : String} {constraint : Constraint}
  {resolved : ResolvedArgumentConstraint} {value : Json}

lemma resolved_cases (h : resolve_argument_constraint name = some resolved) :
    (resolved.kind = .PATTERN ∧ endswith name PATTERN_CONSTRAINT_SUFFIX = true) ∨
      (resolved.kind = .PREFIX ∧ endswith name PREFIX_CONSTRAINT_SUFFIX = true) ∨
      (resolved.kind = .MAX_BYTES ∧ name = MAX_BYTES_CONSTRAINT ∧
        resolved.argument_key = MAX_BYTES_CONSTRAINT) ∨
      (resolved.kind = .EQUALITY ∧ resolved.argument_key = name) ∨
      resolved.kind = .EQUALITY ∧ name = "value_reference" ∧
        resolved.argument_key = "approved_value_ref" := by
  unfold resolve_argument_constraint at h
  simp only [Option.ite_none_right_eq_some, Option.some.injEq] at h
  obtain ⟨-, rfl⟩ := h
  unfold named
  split_ifs with hmax hpattern hpre
  · exact .inr (.inr (.inl ⟨rfl, hmax, rfl⟩))
  · exact .inl ⟨rfl, hpattern⟩
  · exact .inr (.inl ⟨rfl, hpre⟩)
  · by_cases halias : name = "value_reference"
    · subst halias
      exact .inr (.inr (.inr (.inr ⟨rfl, rfl, rfl⟩)))
    · refine .inr (.inr (.inr (.inl ⟨rfl, ?_⟩)))
      have hbeq : (name == "value_reference") = false := by simpa using halias
      simp [ARGUMENT_KEY_ALIASES, List.lookup_cons, hbeq]

lemma equals_iff (h : sameType value constraint = true) :
    equals value constraint = true ↔ value = constraint.json := by
  cases value <;> cases constraint <;> simp_all [sameType, equals, Constraint.json]

lemma equals_str_iff {s : String} : equals (.str s) constraint = true ↔
    Json.str s = constraint.json := by
  cases constraint <;> simp [equals, Constraint.json]

lemma constraint_reasons_eq (h : resolve_argument_constraint name = some resolved) :
    constraint_reasons regex (argumentFields a) name constraint =
      if ((argumentFields a).lookup name).any fun value => !sameType value constraint then
        some [argument_constraint name]
      else (satisfied regex (argumentFields a) resolved.kind resolved.argument_key constraint).map
        fun ok => if ok then [] else [argument_constraint resolved.argument_key] := by
  unfold constraint_reasons
  rw [h]

lemma constraint_reasons_spec (h : resolve_argument_constraint name = some resolved)
    (hvalue : (argumentFields a).lookup resolved.argument_key = some value) :
    (constraint_reasons regex (argumentFields a) name constraint = none ↔
        resolved.kind = .PATTERN ∧ regex constraint.text = none) ∧
      (constraint_reasons regex (argumentFields a) name constraint = some [] ↔
        (name = resolved.argument_key → sameType value constraint = true) ∧
          Holds regex value constraint resolved.kind) := by
  rw [constraint_reasons_eq h]
  rcases resolved_cases h with ⟨hkind, hname⟩ | ⟨hkind, hname⟩ | ⟨hkind, hname, hkey⟩ |
    ⟨hkind, hkey⟩ | ⟨hkind, hname, hkey⟩
  · -- a pattern
    have hfield := not_field_of_suffix (a := a) (.inl hname)
    have hne : name ≠ resolved.argument_key := by
      rintro rfl
      rw [hfield] at hvalue
      cases hvalue
    rcases hregex : regex constraint.text with _ | fullmatch <;>
      simp [hfield, hkind, satisfied, hvalue, Holds, hregex, hne]
  · -- a prefix
    have hfield := not_field_of_suffix (a := a) (.inr (.inl hname))
    have hne : name ≠ resolved.argument_key := by
      rintro rfl
      rw [hfield] at hvalue
      cases hvalue
    simp [hfield, hkind, satisfied, hvalue, Holds, hne]
  · -- the bound on bytes, a number whatever the constraint
    rw [hkey] at hvalue ⊢
    obtain rfl := max_bytes_value hvalue
    subst hname
    cases constraint with
    | int n =>
      simp only [hkind, hvalue, satisfied, Holds, asInt, Constraint.toInt]
      simp [sameType, eq_comm]
    | str s => simp [hvalue, hkind, Holds, sameType]
    | bool b => simp [hvalue, hkind, Holds, sameType]
  · -- an argument under its own name
    rw [hkey] at hvalue ⊢
    by_cases htype : sameType value constraint = true
    · simp [hkind, hvalue, satisfied, Holds, htype, equals_iff htype]
    · simp [hkind, hvalue, htype]
  · -- the approved reference
    have hfield := not_field_of_suffix (a := a) (.inr (.inr hname))
    rw [hkey] at hvalue ⊢
    obtain ⟨s, rfl⟩ := approved_value_ref_value hvalue
    have hne : name ≠ "approved_value_ref" := by
      rw [hname]
      decide
    simp [hfield, hkind, satisfied, hvalue, Holds, hne, equals_str_iff]

end

/-! ### A rule and the configuration it stands in -/

section
variable {regex : Regex} {configuration : PolicyConfiguration} {action : CanonicalAction}
  {caller : Role} {evidence : EvidenceValidation} {rule : ToolPolicyRule}

/-- A constraint of the rule found for an action resolves to an argument the action has. -/
lemma resolves (h : rule? configuration action = some rule) {c : String × Constraint}
    (hc : c ∈ rule.arguments) : ∃ resolved value,
    resolve_argument_constraint c.1 = some resolved ∧
      (argumentFields action.arguments).lookup resolved.argument_key = some value := by
  obtain ⟨resolved, hresolved⟩ := Option.isSome_iff_exists.mp (rule.enforceable c hc)
  have hown := configuration.own_arguments _ (mem_of_lookup h) _
    (fields_of_tool action) c hc
  simp only [foreign, hresolved, Option.any_some, Bool.not_eq_false', List.contains_iff_mem]
    at hown
  obtain ⟨value, hvalue⟩ := lookup_of_mem_keys hown
  exact ⟨resolved, value, hresolved, hvalue⟩

lemma arguments_reasons_none {arguments : List (String × Json)} {cs : List (String × Constraint)} :
    arguments_reasons regex arguments cs = none ↔
      ∃ c ∈ cs, constraint_reasons regex arguments c.1 c.2 = none := by
  induction cs with
  | nil => simp [arguments_reasons]
  | cons c cs ih =>
    obtain ⟨name, constraint⟩ := c
    rcases hhere : constraint_reasons regex arguments name constraint with _ | here
    · simp [arguments_reasons, hhere]
    · rcases hrest : arguments_reasons regex arguments cs with _ | rest
      · simpa [arguments_reasons, hhere, hrest] using ih.mp hrest
      · have hno := mt ih.mpr (by simp [hrest])
        simpa [arguments_reasons, hhere, hrest] using hno

lemma arguments_reasons_nil {arguments : List (String × Json)} {cs : List (String × Constraint)}
    {rs : List String} (h : arguments_reasons regex arguments cs = some rs) :
    rs = [] ↔ ∀ c ∈ cs, constraint_reasons regex arguments c.1 c.2 = some [] := by
  induction cs generalizing rs with
  | nil => simp_all [arguments_reasons]
  | cons c cs ih =>
    obtain ⟨name, constraint⟩ := c
    simp only [arguments_reasons, Option.bind_eq_bind, Option.bind_eq_some_iff, Option.pure_def,
      Option.some.injEq] at h
    obtain ⟨here, hhere, rest, hrest, rfl⟩ := h
    simp [hhere, ih hrest]

/-- The constraints of the rule raise exactly when a pattern of it does not compile. -/
lemma arguments_reasons_none_iff (h : rule? configuration action = some rule) :
    arguments_reasons regex (argumentFields action.arguments) rule.arguments = none ↔
      ¬ Compiles regex configuration action := by
  rw [arguments_reasons_none]
  constructor
  · rintro ⟨c, hc, hnone⟩ hcompiles
    obtain ⟨resolved, value, hresolved, hvalue⟩ := resolves h hc
    obtain ⟨hkind, hregex⟩ := (constraint_reasons_spec hresolved hvalue).1.mp hnone
    have hsome := hcompiles rule h c hc resolved hresolved hkind
    rw [hregex] at hsome
    cases hsome
  · intro hnot
    unfold Compiles at hnot
    push Not at hnot
    obtain ⟨rule', hrule, c, hc, resolved, hresolved, hkind, hregex⟩ := hnot
    obtain rfl := Option.some.inj (h.symm.trans hrule)
    obtain ⟨resolved', value, hresolved', hvalue⟩ := resolves h hc
    obtain rfl := Option.some.inj (hresolved.symm.trans hresolved')
    exact ⟨c, hc, (constraint_reasons_spec hresolved hvalue).1.mpr
      ⟨hkind, by simpa using hregex⟩⟩

lemma constraint_met_iff (h : rule? configuration action = some rule) {c : String × Constraint}
    (hc : c ∈ rule.arguments) :
    constraint_reasons regex (argumentFields action.arguments) c.1 c.2 = some [] ↔
      Met regex action.arguments c.1 c.2 := by
  obtain ⟨resolved, value, hresolved, hvalue⟩ := resolves h hc
  rw [(constraint_reasons_spec hresolved hvalue).2]
  constructor
  · rintro ⟨htype, hholds⟩
    exact ⟨resolved, value, hresolved, hvalue, htype, hholds⟩
  · rintro ⟨resolved', value', hresolved', hvalue', htype, hholds⟩
    obtain rfl := Option.some.inj (hresolved.symm.trans hresolved')
    obtain rfl := Option.some.inj (hvalue.symm.trans hvalue')
    exact ⟨htype, hholds⟩

/-- A rule that is no prohibition gives no reason exactly when it grants. -/
lemma rule_reasons_nil (h : rule? configuration action = some rule)
    (hnot : rule.prohibited = false) {rs : List String}
    (hrs : rule_reasons regex action caller evidence rule = some rs) :
    rs = [] ↔ Granted regex configuration action caller evidence rule := by
  unfold rule_reasons at hrs
  simp only [Option.bind_eq_bind, Option.bind_eq_some_iff, Option.pure_def, Option.some.injEq]
    at hrs
  obtain ⟨constraints, hconstraints, rfl⟩ := hrs
  have hmet : constraints = [] ↔ ∀ c ∈ rule.arguments, Met regex action.arguments c.1 c.2 := by
    rw [arguments_reasons_nil hconstraints]
    exact forall₂_congr fun c hc => constraint_met_iff h hc
  have hevidence : (if evidence.state = .VALID then [] else evidence.reasons) = [] ↔
      evidence.state = .VALID := by
    simp [evidence.reasons_ok]
  have hpaths : (if rule.allowed_changed_paths ≠ [] ∧
      ¬ (declared_paths (argumentFields action.arguments)).all rule.allowed_changed_paths.contains
      then [argument_constraint "changed_paths"] else []) = [] ↔
      (rule.allowed_changed_paths ≠ [] →
        ∀ path ∈ patchPaths action.arguments, path ∈ rule.allowed_changed_paths) := by
    rw [declared_paths_eq]
    simp
  simp only [List.append_eq_nil_iff, hmet, hevidence, hpaths]
  constructor
  · rintro ⟨⟨⟨⟨hrole, hpermission⟩, hpaths⟩, harguments⟩, hvalid⟩
    exact ⟨h, hnot, by simpa using hrole, by simpa using hpermission, hpaths, harguments, hvalid⟩
  · rintro ⟨-, -, hrole, hpermission, hpaths, harguments, hvalid⟩
    exact ⟨⟨⟨⟨by simpa using hrole, by simpa using hpermission⟩, hpaths⟩, harguments⟩, hvalid⟩

lemma not_granted_of_prohibited (h : rule? configuration action = some rule)
    (hprohibited : rule.prohibited = true) :
    ¬ ∃ rule, Granted regex configuration action caller evidence rule := by
  rintro ⟨rule', hgranted⟩
  obtain rfl := Option.some.inj (h.symm.trans hgranted.found)
  rw [hgranted.not_prohibited] at hprohibited
  cases hprohibited

lemma outcome_deny {rs : List String} (h : rs ≠ []) :
    (outcome configuration action rs).decision = .DENY := by simp [outcome, h]

/-- The reasons of a decision are empty exactly when a rule grants. -/
lemma reasons_nil {rs : List String}
    (h : reasons regex configuration action caller evidence = some rs) :
    rs = [] ↔ ∃ rule, Granted regex configuration action caller evidence rule := by
  unfold reasons at h
  split at h
  · rename_i hnone
    obtain rfl := Option.some.inj h
    simp only [List.cons_ne_self, false_iff, not_exists]
    intro rule hgranted
    rw [hgranted.found] at hnone
    cases hnone
  · rename_i rule hrule
    split at h
    · rename_i hprohibited
      obtain rfl := Option.some.inj h
      exact iff_of_false (by simp) (not_granted_of_prohibited hrule hprohibited)
    · rename_i hnot
      have hfalse : rule.prohibited = false := by simpa using hnot
      rw [rule_reasons_nil hrule hfalse h]
      constructor
      · exact fun hgranted => ⟨rule, hgranted⟩
      · rintro ⟨rule', hgranted⟩
        obtain rfl := Option.some.inj (hrule.symm.trans hgranted.found)
        exact hgranted

lemma reasons_some_iff : (reasons regex configuration action caller evidence).isSome = true ↔
    Compiles regex configuration action := by
  unfold reasons
  split
  · rename_i hnone
    refine iff_of_true rfl fun rule hrule => ?_
    rw [hnone] at hrule
    cases hrule
  · rename_i rule hrule
    split
    · rename_i hprohibited
      refine iff_of_true rfl fun rule' hrule' c hc => ?_
      obtain rfl := Option.some.inj (hrule.symm.trans hrule')
      rw [(rule.absolute hprohibited).2.1] at hc
      cases hc
    · rw [← not_iff_not, ← arguments_reasons_none_iff hrule]
      rcases hreasons : arguments_reasons regex (argumentFields action.arguments) rule.arguments
        with _ | constraints <;> simp [rule_reasons, hreasons]

lemma decides_of_reasons {rs : List String}
    (h : reasons regex configuration action caller evidence = some rs) :
    Decides regex configuration action caller evidence (outcome configuration action rs) := by
  have hnil := reasons_nil h
  by_cases hrs : rs = []
  · obtain ⟨rule, hgranted⟩ := hnil.mp hrs
    have happroved : rule.approval_required = true :=
      configuration.approved _ (mem_of_lookup hgranted.found) hgranted.not_prohibited
    have hdecision : (outcome configuration action rs).decision = .REQUIRE_APPROVAL := by
      simp [outcome, hrs, hgranted.found, happroved]
    refine ⟨by simp [hdecision], by simpa [hdecision] using ⟨rule, hgranted⟩,
      fun hno => absurd ⟨rule, hgranted⟩ hno, fun rule' hrule' hprohibited => ?_⟩
    exact absurd ⟨rule, hgranted⟩ (not_granted_of_prohibited hrule' hprohibited)
  · have hdeny : (outcome configuration action rs).decision = .DENY := outcome_deny hrs
    refine ⟨by simp [hdeny], ?_, fun _ => hdeny, fun rule hrule hprohibited => ⟨hdeny, ?_⟩⟩
    · rw [hdeny]
      exact iff_of_false (by simp) (mt hnil.mpr hrs)
    · unfold reasons at h
      rw [hrule] at h
      simp only [hprohibited, if_true, Option.some.injEq] at h
      subst h
      simp [outcome]

end

/-- **The engine decides by its specification exactly when the patterns compile**: it never
allows, asks for approval exactly when the rule grants, denies everything else, and gives a
prohibition one reason; but a pattern that is no regular expression leaves no decision. -/
theorem evaluate_decides_iff (regex : Regex) (configuration : PolicyConfiguration)
    (action : CanonicalAction) (caller : Role) (evidence : EvidenceValidation) :
    (∃ out, evaluate regex configuration action caller evidence = some out ∧
        Decides regex configuration action caller evidence out) ↔
      Compiles regex configuration action := by
  rw [← @reasons_some_iff regex configuration action caller evidence]
  unfold evaluate
  constructor
  · rintro ⟨out, hout, -⟩
    obtain ⟨rs, hrs, -⟩ := Option.map_eq_some_iff.mp hout
    simp [hrs]
  · intro hsome
    obtain ⟨rs, hrs⟩ := Option.isSome_iff_exists.mp hsome
    exact ⟨outcome configuration action rs, by simp [hrs], decides_of_reasons hrs⟩

/-! ### A pattern that is no regular expression -/

lemma component_pattern_resolves :
    (resolve_argument_constraint "component_pattern").isSome = true := by decide +kernel

/-- A policy that lets operators restart a component whose name matches a pattern. -/
def restartRule (pattern : String) : ToolPolicyRule where
  roles := [.OPERATOR]
  permission := "operations:write"
  approval_required := true
  arguments := [("component_pattern", .str pattern)]
  evidence := ⟨true, 300, by decide⟩
  prohibited := false
  allowed_changed_paths := []
  roles_ok := by simp
  permission_ok := isNonEmpty_write
  enforceable := by
    simp only [List.mem_singleton, forall_eq]
    exact component_pattern_resolves
  absolute := by simp

def restartPolicy (pattern : String) : PolicyConfiguration where
  policy_version := "v1"
  modes := [("complete", ⟨false, true⟩)]
  tools := [("operations.restart", restartRule pattern)]
  policy_version_ok := by decide
  complete_mode := by decide
  isolated := by simp
  own_arguments := by
    simp only [List.mem_singleton, forall_eq, restartRule]
    decide +kernel
  approved := by simp [restartRule]

def restartAction : CanonicalAction where
  action_id := 1
  incident_id := "INC-D3"
  thread_id := "thread-1"
  actor := "agent"
  permission := "operations:write"
  evidence_ids := ["e1"]
  arguments := .restart ⟨"api", isComponent_api⟩
  actor_ok := isNonEmpty_agent
  permission_ok := isNonEmpty_write
  evidence_cited := by simp
  evidence_sorted := by simp

def validEvidence : EvidenceValidation := ⟨.VALID, ["evidence_valid"], ["e1"], [], by simp⟩

/-- An open bracket is no regular expression; every other text here matches itself. -/
def bracketRegex : Regex := fun pattern =>
  if pattern = "(" then none else some fun text => text = pattern

theorem open_pattern_undecided : ¬ ∃ out,
    evaluate bracketRegex (restartPolicy "(") restartAction .OPERATOR validEvidence = some out ∧
      Decides bracketRegex (restartPolicy "(") restartAction .OPERATOR validEvidence out := by
  rintro ⟨out, hout, -⟩
  have hnone : (evaluate bracketRegex (restartPolicy "(") restartAction .OPERATOR
      validEvidence).isNone = true := by decide +kernel
  rw [hout] at hnone
  cases hnone

end IncidentGate.Policy
