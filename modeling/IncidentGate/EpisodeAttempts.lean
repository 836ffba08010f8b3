import IncidentGate.EpisodeGraph
import IncidentGate.WorkflowGates

/-!
Each attempt of an episode is a run of the graph of one action, from nothing but the root of the
episode, under the proposer that the strategy selected and the requester that was resolved.
-/

namespace IncidentGate.EpisodeAttempts

open Lib.ScriptTree Lib.Checkpoint Lib.Beside Policy SabotageRows Workflow WorkflowGates
open EpisodeGraph
open Contracts hiding Caller

variable {P R : Type}

/-- What was asked and answered in an episode. -/
abbrev EpisodeHistory (P R : Type) := List (Exchange (EpisodeGraph.Answer (P := P) (R := R)))

/-! ### The graph of one attempt -/

section
variable (D : WorkflowDependencies P R)

def attempt_dependencies (proposer : P) (requester : R) : WorkflowDependencies P R :=
  { D with proposer := proposer, authorization := requester }

def attempt_key (t : EpisodeTranscript) (sequence : ℕ) : Keying := fun _ action_hash =>
  Identities.episode_idempotency_key action_hash t.thread_id t.episode_id sequence

def attempt_graph (t : EpisodeTranscript) (sequence : ℕ) (proposer : P) (requester : R) :
    Graph Node WorkflowState (Question.Answer (P := P) (R := R)) Raised :=
  one_action (attempt_dependencies D proposer requester) (attempt_key t sequence) .collect

end

/-- Where an attempt is in the graph of one action. -/
def stage : EpisodeNode → Option (Option Node)
  | .action .ingest => none
  | .action n => some (some n)
  | .episode_approval_reach => some (some .approval)
  | .episode_record => some none
  | _ => none

/-- What only the loop's own nodes change. -/
structure Kept (s s' : EpisodeWorkflowState) : Prop where
  transcript : s'.episode_transcript = s.episode_transcript
  sequence : s'.episode_sequence = s.episode_sequence
  termination : s'.episode_termination = s.episode_termination
  max_actions : s'.episode_max_actions = s.episode_max_actions

/-- A visit of the episode ends where one of the graph of one action does. -/
structure Follows (s : EpisodeWorkflowState) (v : Option EpisodeNode × EpisodeWorkflowState)
    (u : Option Node × WorkflowState) : Prop where
  node : ∃ m, v.1 = some m ∧ stage m = some u.1
  state : v.2.toWorkflowState = u.2
  kept : Kept s v.2
  selection : v.2.episode_authorization_selection = s.episode_authorization_selection

/-- The transcript goes on with the start of the selected action. -/
structure Opens (selection : EpisodeActionSelection P) (s s' : EpisodeWorkflowState) : Prop where
  started : ∃ now event, started_event s.episode_transcript s.episode_sequence selection now =
    some event ∧ s.episode_transcript.append event = some s'.episode_transcript
  sequence : s'.episode_sequence = s.episode_sequence
  termination : s'.episode_termination = s.episode_termination
  max_actions : s'.episode_max_actions = s.episode_max_actions

/-- The same of the visit that selects an action. -/
structure Selects (selection : EpisodeActionSelection P) (s : EpisodeWorkflowState)
    (v : Option EpisodeNode × EpisodeWorkflowState) (u : Option Node × WorkflowState) : Prop where
  node : ∃ m, v.1 = some m ∧ stage m = some u.1
  state : v.2.toWorkflowState = u.2
  opens : Opens selection s v.2

/-! ### Visits -/

section
variable {α β γ : Type} {D : WorkflowDependencies P R} {durable_human : R → Bool}
  {expected : EpisodeSafeguardIdentity} {s : EpisodeWorkflowState}

lemma own_refuse (condition : Bool) (e : Raised) :
    Own (node (P := P) (R := R) (refuse condition e)) := by
  cases condition
  · exact .ret trivial
  · exact .raise

lemma own_ensure_safeguards : Own (ensure_safeguards (P := P) (R := R) expected s) :=
  own_refuse _ _

lemma own_present (message : String) (o : Option α) :
    Own (present (P := P) (R := R) message o) := by
  cases o
  · exact .raise
  · exact .ret trivial

lemma mirrors_valid {o : Option γ} {f : γ → EpisodeWork P R α} {rel : α → β → Prop}
    {p : Work P R β} (hf : ∀ c, o = some c → Mirrors rel (f c) p) :
    Mirrors rel ((valid o).bind f) p := by
  cases o with
  | none => exact .raise
  | some c => exact hf c rfl

lemma own_need (o : Option α) : Own (node (P := P) (R := R) (need o)) := by
  cases o
  · exact .raise
  · exact .ret trivial

lemma own_ask (q : EpisodeQuestion P R) :
    Own (.ask (.inr q) .ret : EpisodeWork P R q.Answer) := .own fun _ => .ret trivial

lemma mirrors_shared {f : WorkflowState → Work P R WorkflowState} {rel : α → β → Prop}
    {k : EpisodeWorkflowState → EpisodeWork P R α} {k' : WorkflowState → Work P R β}
    (hk : ∀ w, Mirrors rel (k { s with toWorkflowState := w }) (k' w)) :
    Mirrors rel ((shared_node expected s f).bind k) ((f s.toWorkflowState).bind k') := by
  simp only [shared_node, Script.bind_eq, Script.pure_eq, bind_bind, Script.bind_ret]
  exact own_ensure_safeguards.bind fun _ => Mirrors.beside_bind hk

lemma follows_onward (s : EpisodeWorkflowState) (n : Option Node) (w : WorkflowState)
    (hn : n ≠ some .ingest) :
    Follows s (some (onward n), { s with toWorkflowState := w }) (n, w) := by
  refine ⟨⟨_, rfl, ?_⟩, rfl, ⟨rfl, rfl, rfl, rfl⟩, rfl⟩
  match n, hn with
  | none, _ => rfl
  | some n, hn => cases n <;> first | rfl | exact absurd rfl hn

lemma target_ne_ingest (route : Route) : route.target ≠ some .ingest := by
  cases route <;> nofun

lemma mirrors_validate (proposer : P) (requester : R) :
    Mirrors (Follows s) (episode_visit D durable_human expected (.action .validate) s)
      (visit_keyed (attempt_dependencies D proposer requester)
        (attempt_key s.episode_transcript s.episode_sequence) .validate s.toWorkflowState) := by
  simp only [episode_visit, shared_validate, visit_keyed, Script.bind_eq, Script.pure_eq, bind_bind]
  refine own_ensure_safeguards.bind fun _ => Mirrors.beside_bind fun output => ?_
  cases output with
  | refused evidence result => exact .ret (follows_onward s (some .monitor) _ (by simp))
  | judged evidence policy => exact .ret (follows_onward s (some .monitor) _ (by simp))

lemma mirrors_execute (proposer : P) (requester : R) :
    Mirrors (Follows s) (episode_visit D durable_human expected (.action .execute) s)
      (visit_keyed (attempt_dependencies D proposer requester)
        (attempt_key s.episode_transcript s.episode_sequence) .execute s.toWorkflowState) := by
  simp only [episode_visit, episode_execute, visit_keyed, visit, execute, Script.bind_eq,
    Script.pure_eq, bind_bind, Script.bind_ret]
  refine own_ensure_safeguards.bind fun _ => Mirrors.beside_bind fun operation => ?_
  have hdeliver : Own (deliver (P := P) (R := R) s operation) := by
    simp only [deliver, Script.bind_eq, Script.pure_eq]
    refine (own_present _ _).bind fun leg => ?_
    split
    · exact own_ask (.post_delivery leg _ operation)
    · exact .ret trivial
  refine hdeliver.bind fun _ => Mirrors.beside_bind fun w => ?_
  exact .ret (follows_onward s (some .verify) w (by simp))

/-- The nodes that the loop shares with the graph of one action. -/
lemma mirrors_action {n : Node} (hn : n ≠ .ingest ∧ n ≠ .propose ∧ n ≠ .approval) (proposer : P)
    (requester : R) :
    Mirrors (Follows s) (episode_visit D durable_human expected (.action n) s)
      (visit_keyed (attempt_dependencies D proposer requester)
        (attempt_key s.episode_transcript s.episode_sequence) n s.toWorkflowState) := by
  cases n with
  | ingest => exact absurd rfl hn.1
  | propose => exact absurd rfl hn.2.1
  | approval => exact absurd rfl hn.2.2
  | collect =>
    exact mirrors_shared fun w => .ret (follows_onward s (some .propose) w (by simp))
  | validate => exact mirrors_validate proposer requester
  | monitor =>
    refine mirrors_shared fun w => ?_
    exact Mirrors.beside_bind fun route =>
      .ret (follows_onward s route.target w (target_ne_ingest route))
  | deny => exact mirrors_shared fun w => .ret (follows_onward s none w (by simp))
  | blocked => exact mirrors_shared fun w => .ret (follows_onward s none w (by simp))
  | monitor_mismatch => exact mirrors_shared fun w => .ret (follows_onward s none w (by simp))
  | monitor_error => exact mirrors_shared fun w => .ret (follows_onward s none w (by simp))
  | preapproval_audit =>
    refine mirrors_shared fun w => .ret ?_
    exact ⟨⟨_, rfl, rfl⟩, rfl, ⟨rfl, rfl, rfl, rfl⟩, rfl⟩
  | execute => exact mirrors_execute proposer requester
  | verify => exact mirrors_shared fun w => .ret (follows_onward s none w (by simp))

lemma append_same {t t' : EpisodeTranscript} {event : EpisodeTranscriptEvent}
    (h : t.append event = some t') : t'.thread_id = t.thread_id ∧ t'.episode_id = t.episode_id ∧
      t'.incident_id = t.incident_id ∧ t'.events = t.events ++ [event] := by
  unfold EpisodeTranscript.append at h
  split at h
  · obtain rfl := Option.some.inj h
    exact ⟨rfl, rfl, rfl, rfl⟩
  · cases h

lemma mirrors_attempt (hs : s.episode_termination = none) (selection : EpisodeActionSelection P)
    (requester : R) :
    Mirrors (Selects selection s)
      ((episode_attempt D durable_human s selection).bind fun s' =>
        .ret (some (if s'.episode_termination.isSome then .episode_finish
          else if s'.result.isSome then .episode_record else .action .validate), s'))
      (visit_keyed (attempt_dependencies D selection.proposer requester)
        (attempt_key s.episode_transcript s.episode_sequence) .propose s.toWorkflowState) := by
  simp only [episode_attempt, visit_keyed, visit, Script.bind_eq, Script.pure_eq, bind_bind]
  refine (own_refuse _ _).bind fun _ => (own_ask .clock).bind fun now => ?_
  refine mirrors_valid fun event he => mirrors_valid fun t ht => Mirrors.beside_bind fun w => ?_
  by_cases hresult : w.result.isSome = true
  · simp only [hresult, ↓reduceIte, Script.bind_ret, proposed, hs, unless_result]
    exact .ret ⟨⟨_, rfl, rfl⟩, rfl, ⟨⟨now, event, he, ht⟩, rfl, hs.symm, rfl⟩⟩
  · simp only [hresult, Bool.false_eq_true, ↓reduceIte, bind_bind, episode_authorize,
      Script.bind_eq, Script.pure_eq, select_requester, Script.bind_ret]
    refine (own_need _).bind fun action => (own_refuse _ _).bind fun _ => ?_
    refine (own_ask (.select _ _)).bind fun choice => ?_
    refine (own_ask (.hold_requester _ _)).bind fun _ => ?_
    simp only [proposed, hs, hresult, unless_result, Bool.false_eq_true, ↓reduceIte]
    exact .ret ⟨⟨_, rfl, rfl⟩, rfl, ⟨⟨now, event, he, ht⟩, rfl, hs.symm, rfl⟩⟩

lemma mirrors_approval (requester : R) (proposer : P) :
    Mirrors (Follows s)
      ((node (approval_with requester s.toWorkflowState)).bind fun w =>
        .ret (some (if w.result.isSome then .episode_record else .action .execute),
          { s with toWorkflowState := w }))
      (visit_keyed (attempt_dependencies D proposer requester)
        (attempt_key s.episode_transcript s.episode_sequence) .approval s.toWorkflowState) := by
  refine Mirrors.beside_bind fun w => ?_
  by_cases hresult : w.result.isSome = true
  · simp only [hresult, ↓reduceIte, unless_result]
    exact .ret ⟨⟨_, rfl, rfl⟩, rfl, ⟨rfl, rfl, rfl, rfl⟩, rfl⟩
  · simp only [hresult, unless_result, Bool.false_eq_true, ↓reduceIte]
    exact .ret ⟨⟨_, rfl, rfl⟩, rfl, ⟨rfl, rfl, rfl, rfl⟩, rfl⟩

lemma own_select : Own (episode_select (P := P) (R := R) expected s) :=
  own_ensure_safeguards.bind fun _ => (own_present _ _).bind fun _ => own_ask (.strategy _)

lemma own_requester : Own (episode_requester D durable_human expected s) := by
  refine own_ensure_safeguards.bind fun _ => (own_present _ _).bind fun selection => ?_
  refine (own_ask (.held_requester _)).bind fun held => ?_
  cases held with
  | some requester => exact .ret trivial
  | none =>
    simp only [select_requester, Script.bind_eq, Script.pure_eq, bind_bind, Script.bind_ret]
    refine (own_ask (.select _ _)).bind fun choice => (own_refuse _ _).bind fun _ => ?_
    exact (own_ask (.hold_requester _ _)).bind fun _ => .ret trivial

end

/-! ### The edges of the graph -/

def edges : EpisodeNode → List EpisodeNode
  | .action .ingest => [.episode_preselection_finish, .action .collect]
  | .action .collect => [.action .propose]
  | .action .propose => [.episode_finish, .episode_record, .action .validate]
  | .action .validate => [.action .monitor]
  | .action .monitor => [.episode_record, .action .deny, .action .blocked,
      .action .monitor_mismatch, .action .monitor_error, .action .preapproval_audit]
  | .action .preapproval_audit => [.episode_approval_reach]
  | .episode_approval_reach => [.action .approval]
  | .action .approval => [.episode_record, .action .execute]
  | .action .execute => [.action .verify]
  | .action _ => [.episode_record]
  | .episode_record => [.episode_finish, .episode_clear]
  | .episode_clear => [.action .collect]
  | .episode_preselection_finish => [.episode_finish]
  | .episode_finish => []

section
variable {D : WorkflowDependencies P R} {durable_human : R → Bool}
  {expected : EpisodeSafeguardIdentity} {s s' : EpisodeWorkflowState} {m : EpisodeNode}
  {m' : Option EpisodeNode} {es : EpisodeHistory P R}

lemma edge_of_bind {p : EpisodeWork P R EpisodeWorkflowState}
    {e : EpisodeWorkflowState → EpisodeNode}
    (h : Along (p.bind fun s => .ret (some (e s), s)) es (.ret (m', s'))) :
    m' = some (e s') ∧ Along p es (.ret s') := by
  obtain ⟨es₁, es₂, s₁, rfl, hp, hret⟩ := along_bind_ret h
  obtain ⟨rfl, heq⟩ := along_ret hret
  obtain ⟨rfl, rfl⟩ := Prod.mk.inj heq
  exact ⟨rfl, by simpa using hp⟩

lemma onward_mem_edges (route : Route) : onward route.target ∈ edges (.action .monitor) := by
  cases route <;> decide

lemma visit_edge (h : Along (episode_visit D durable_human expected m s) es (.ret (m', s'))) :
    ∀ m'' ∈ m', m'' ∈ edges m := by
  rintro m'' ⟨⟩
  cases m with
  | action n =>
    cases n with
    | ingest =>
      obtain ⟨heq, -⟩ := edge_of_bind h
      obtain rfl := Option.some.inj heq
      split <;> decide
    | propose =>
      obtain ⟨heq, -⟩ := edge_of_bind h
      obtain rfl := Option.some.inj heq
      split
      · decide
      · split <;> decide
    | approval =>
      obtain ⟨heq, -⟩ := edge_of_bind h
      obtain rfl := Option.some.inj heq
      split <;> decide
    -- the route is one of the four that leave the monitor
    | monitor =>
      obtain ⟨es₁, es₂, s₁, rfl, -, hroute⟩ := along_bind_ret h
      obtain ⟨es₃, es₄, route, rfl, -, hret⟩ := along_bind_ret hroute
      obtain ⟨-, heq⟩ := along_ret hret
      obtain ⟨hm, -⟩ := Prod.mk.inj heq
      obtain rfl := Option.some.inj hm
      exact onward_mem_edges route
    -- the other shared nodes leave on one edge, or to the terminal record
    | _ =>
      obtain ⟨heq, -⟩ := edge_of_bind (e := fun _ => _) h
      obtain rfl := Option.some.inj heq
      decide
  | episode_approval_reach =>
    obtain ⟨heq, -⟩ := edge_of_bind (e := fun _ => _) h
    obtain rfl := Option.some.inj heq
    decide
  | episode_record =>
    obtain ⟨heq, -⟩ := edge_of_bind h
    obtain rfl := Option.some.inj heq
    split <;> decide
  | episode_clear =>
    obtain ⟨-, heq⟩ := along_ret h
    obtain ⟨hm, -⟩ := Prod.mk.inj heq
    obtain rfl := Option.some.inj hm
    decide
  | episode_preselection_finish =>
    obtain ⟨-, heq⟩ := along_ret h
    obtain ⟨hm, -⟩ := Prod.mk.inj heq
    obtain rfl := Option.some.inj hm
    decide
  | episode_finish =>
    obtain ⟨-, heq⟩ := along_ret h
    cases heq

end

/-! ### Who is asked for an approval -/

/-- The script returns only what `Q` holds of, whatever it is answered. -/
abbrev Yields {α : Type} (Q : EpisodeHistory P R → α → Prop) (h : EpisodeHistory P R)
    (p : EpisodeWork P R α) : Prop := Ensures (fun _ => True) Q h p

section
variable (D : WorkflowDependencies P R) (durable_human : R → Bool)

/-- The selection was resolved for the attempt, of what the selector chose. -/
structure Chosen (h : EpisodeHistory P R) (leg : Leg) (sequence : ℕ)
    (fact : EpisodeAuthorizationSelection) : Prop where
  leg : fact.leg = leg
  sequence : fact.sequence = sequence
  resolved : ∃ choice,
    (⟨.inr (.select fact.leg fact.leg_index), choice⟩ : Exchange EpisodeGraph.Answer) ∈ h ∧
    (resolve_episode_authorization D.authorization durable_human choice fact.leg fact.leg_index
      fact.sequence (some D.safeguards.authorization_gate)).1 = fact

/-- The requester of an approval: the one that the process holds for the attempt, or where it holds
none the one that is resolved again, to the selection that the attempt was authorized under. -/
inductive Requested (h : EpisodeHistory P R) (fact : EpisodeAuthorizationSelection)
    (requester : R) : Prop
  | held (hheld : (⟨.inr (.held_requester fact.sequence), some requester⟩ :
      Exchange EpisodeGraph.Answer) ∈ h)
  | resolved (choice : Option (EpisodeAuthorizationChoice R))
      (hnone : (⟨.inr (.held_requester fact.sequence), none⟩ : Exchange EpisodeGraph.Answer) ∈ h)
      (hchosen : (⟨.inr (.select fact.leg fact.leg_index), choice⟩ :
        Exchange EpisodeGraph.Answer) ∈ h)
      (hresolved : resolve_episode_authorization D.authorization durable_human choice fact.leg
        fact.leg_index fact.sequence (some D.safeguards.authorization_gate) = (fact, requester))

end

section
variable {α β : Type} {D : WorkflowDependencies P R} {durable_human : R → Bool}
  {expected : EpisodeSafeguardIdentity} {s : EpisodeWorkflowState}
  {h h' : EpisodeHistory P R} {fact : EpisodeAuthorizationSelection}

lemma Chosen.mono {leg : Leg} {sequence : ℕ} (hchosen : Chosen D durable_human h leg sequence fact)
    (hsub : h ⊆ h') : Chosen D durable_human h' leg sequence fact := by
  obtain ⟨hleg, hsequence, choice, hmem, hresolved⟩ := hchosen
  exact ⟨hleg, hsequence, choice, hsub hmem, hresolved⟩

lemma Requested.mono {requester : R} (hrequested : Requested D durable_human h fact requester)
    (hsub : h ⊆ h') : Requested D durable_human h' fact requester := by
  cases hrequested with
  | held hheld => exact .held (hsub hheld)
  | resolved choice hnone hchosen hresolved =>
    exact .resolved choice (hsub hnone) (hsub hchosen) hresolved

lemma yields_after {Q : EpisodeHistory P R → β → Prop} {p : EpisodeWork P R α}
    {f : α → EpisodeWork P R β} (hf : ∀ es a, Yields Q (h ++ es) (f a)) :
    Yields Q h (p.bind f) := by
  refine ensures_bind.mpr ((ensures_top h p).history.mono (fun _ hq => trivial) ?_)
  rintro _ a ⟨-, es, rfl, -⟩
  exact hf es a

lemma yields_refuse {Q : EpisodeHistory P R → β → Prop} {condition : Bool} {e : Raised}
    {f : Unit → EpisodeWork P R β} (hf : condition = false → Yields Q h (f ())) :
    Yields Q h ((node (refuse condition e)).bind f) := by
  cases condition
  · exact hf rfl
  · trivial

lemma yields_authorize {selection : EpisodeActionSelection P} {action : CanonicalAction}
    {base : EpisodeWorkflowState} :
    Yields (fun h s' => ∀ fact ∈ s'.episode_authorization_selection,
      Chosen D durable_human h selection.leg s.episode_sequence fact) h
      (episode_authorize D durable_human s selection action base) := by
  refine yields_after fun es _ => ?_
  refine ⟨trivial, fun choice => ⟨trivial, fun _ => ?_⟩⟩
  intro fact hfact
  obtain rfl := Option.some.inj hfact
  cases choice with
  | none => exact ⟨rfl, rfl, none, by simp, rfl⟩
  | some choice => exact ⟨rfl, rfl, some choice, by simp, rfl⟩

lemma yields_attempt (hunchosen : s.episode_authorization_selection = none)
    (selection : EpisodeActionSelection P) :
    Yields (fun h s' => ∀ fact ∈ s'.episode_authorization_selection,
      Chosen D durable_human h selection.leg s.episode_sequence fact) h
      (episode_attempt D durable_human s selection) := by
  refine yields_after fun _ _ => yields_after fun _ now => yields_after fun _ started => ?_
  refine yields_after fun _ transcript => yields_after fun _ w => ?_
  dsimp only
  split
  · intro fact hfact
    rw [show (proposed s w transcript selection).episode_authorization_selection = none from
      hunchosen] at hfact
    cases hfact
  · exact yields_after fun _ action => yields_authorize

lemma yields_requester :
    Yields (fun h requester => ∃ fact ∈ s.episode_authorization_selection,
      Requested D durable_human h fact requester) h
      (episode_requester D durable_human expected s) := by
  refine yields_after fun es _ => ?_
  cases hfact : s.episode_authorization_selection with
  | none => trivial
  | some fact =>
    refine ⟨trivial, fun held => ?_⟩
    cases held with
    | some requester => exact ⟨fact, rfl, .held (by simp)⟩
    | none =>
      refine ⟨trivial, fun choice => ?_⟩
      refine yields_refuse fun hsame => ⟨trivial, fun _ => ⟨fact, rfl, ?_⟩⟩
      simp only [decide_eq_false_iff_not, ne_eq, not_not] at hsame
      exact .resolved choice (by simp) (by simp) (Prod.ext hsame rfl)

end

/-! ### Where an episode is -/

/-- The nodes of an attempt before its requester answers. -/
def early : List EpisodeNode :=
  [.action .validate, .action .monitor, .action .deny, .action .blocked, .action .monitor_mismatch,
    .action .monitor_error, .action .preapproval_audit, .episode_approval_reach,
    .action .approval, .episode_record]

/-- The nodes of an attempt that was authorized, and its terminal record. -/
def late : List EpisodeNode := [.action .execute, .action .verify, .episode_record]

/-- The nodes of an attempt, of which a requester was asked or none was. -/
def ahead : Option R → List EpisodeNode
  | none => early
  | some _ => late

/-- The last event is the start of the selected action. -/
structure Open (selection : EpisodeActionSelection P) (s : EpisodeWorkflowState)
    (event : EpisodeTranscriptEvent) : Prop where
  last : s.episode_transcript.events.getLast? = some event
  sequence : event.sequence = s.episode_sequence
  leg : event.leg = selection.leg
  action_id : event.action_id = selection.action_id

/-- An attempt: who proposed and who authorized, the nodes that were visited and the answers that
they were given, and the state and the result that it was recorded with. -/
structure Attempt (P R : Type) where
  selection : EpisodeActionSelection P
  requester : R
  nodes : List Node
  answers : History P R
  final : EpisodeWorkflowState
  result : WorkflowResult

section
variable (D : WorkflowDependencies P R) (durable_human : R → Bool)
  (expected : EpisodeSafeguardIdentity) (r : Root) (t₀ : EpisodeTranscript)
  (s₀ : EpisodeWorkflowState) (h : EpisodeHistory P R)

/-- A terminal record is the snapshot of a run of the graph of one action, on answers that the
episode was given, from the root alone, by the proposer that the strategy selected and, where an
approval was asked for, by the requester that was resolved for the attempt. -/
structure Attempt.Recorded (a : Attempt P R) (event : EpisodeTranscriptEvent) : Prop where
  selected : ∃ observation,
    (⟨.inr (.strategy observation), some a.selection⟩ : Exchange EpisodeGraph.Answer) ∈ h
  authorized : .approval ∈ a.nodes → ∃ fact ∈ a.final.episode_authorization_selection,
    Chosen D durable_human h event.leg event.sequence fact ∧
      Requested D durable_human h fact a.requester
  answered : List.Sublist a.answers (lefts h)
  run : Direct (attempt_graph D t₀ event.sequence a.selection.proposer a.requester) (some .collect)
    r.state a.nodes a.answers none a.final.toWorkflowState
  result : a.final.result = some a.result
  leg : event.leg = a.selection.leg
  action_id : event.action_id = a.selection.action_id
  step : event.step = some (episode_snapshot D a.final a.result)

/-- The attempt began when the run came to the collection of its evidence, with nothing but the root
of the episode, and `h₁` are exchanges since. -/
def Since (h₁ : EpisodeHistory P R) (sequence : ℕ) : Prop :=
  ∃ h₀ since s₁, h = h₀ ++ since ∧ List.Sublist h₁ since ∧
    Run (episode_workflow D durable_human expected) s₀ h₀ (some (.action .collect)) s₁ ∧
    s₁.toWorkflowState = r.state ∧ s₁.episode_sequence = sequence

/-- Where a run of the episode can be. Of an attempt, `h₁` are the exchanges of the visits that were
completed since it began. -/
inductive Stands : Option EpisodeNode → EpisodeWorkflowState → Prop
  | ingest : Stands (some (.action .ingest)) s₀
  | unselected {n : Node} {s : EpisodeWorkflowState} {h₁ : EpisodeHistory P R}
      (hn : n = .collect ∨ n = .propose) (hbound : r.Bound) (hs : s.episode_termination = none)
      (hunchosen : s.episode_authorization_selection = none)
      (hsince : Since D durable_human expected r s₀ h h₁ s.episode_sequence)
      (hdirect : ∀ proposer requester, ∃ ns, .approval ∉ ns ∧
        Direct (attempt_graph D t₀ s.episode_sequence proposer requester) (some .collect) r.state
          ns (lefts h₁) (some n) s.toWorkflowState) : Stands (some (.action n)) s
  | attempting {m : EpisodeNode} {n : Option Node} {s : EpisodeWorkflowState}
      {selection : EpisodeActionSelection P} {h₁ : EpisodeHistory P R} {asked : Option R}
      (hm : m ∈ ahead asked) (hstage : stage m = some n) (hbound : r.Bound)
      (hs : s.episode_termination = none) (hopen : ∃ event, Open selection s event)
      (hselected : ∃ observation,
        (⟨.inr (.strategy observation), some selection⟩ : Exchange EpisodeGraph.Answer) ∈ h₁)
      (hchosen : ∀ fact ∈ s.episode_authorization_selection,
        Chosen D durable_human h₁ selection.leg s.episode_sequence fact)
      (hrequested : ∀ requester ∈ asked, ∃ fact ∈ s.episode_authorization_selection,
        Requested D durable_human h₁ fact requester)
      (hsince : Since D durable_human expected r s₀ h h₁ s.episode_sequence)
      (hdirect : ∀ requester, (∀ a ∈ asked, a = requester) → ∃ ns,
        (asked = none → .approval ∉ ns) ∧
        Direct (attempt_graph D t₀ s.episode_sequence selection.proposer requester)
          (some .collect) r.state ns (lefts h₁) n s.toWorkflowState) : Stands (some m) s
  | clear {s : EpisodeWorkflowState} (hbound : r.Bound) (hs : s.episode_termination = none)
      (hroot : fresh s.incident s.context s.caller = r.state) : Stands (some .episode_clear) s
  | ended {m : Option EpisodeNode} {s : EpisodeWorkflowState}
      (hm : m = some .episode_preselection_finish ∨ m = some .episode_finish ∨ m = none) :
      Stands m s

structure EpisodeHolds (m : Option EpisodeNode) (s : EpisodeWorkflowState) : Prop where
  thread_id : s.episode_transcript.thread_id = t₀.thread_id
  episode_id : s.episode_transcript.episode_id = t₀.episode_id
  recorded : ∀ event ∈ s.episode_transcript.events, event.phase = .terminal →
    ∃ a : Attempt P R, a.Recorded D durable_human r t₀ h event
  stands : Stands D durable_human expected r t₀ s₀ h m s

end

section
variable {D : WorkflowDependencies P R} {durable_human : R → Bool}
  {expected : EpisodeSafeguardIdentity} {r : Root} {t₀ : EpisodeTranscript}
  {s₀ s s' : EpisodeWorkflowState} {m : EpisodeNode} {m' : Option EpisodeNode}
  {h h₁ es : EpisodeHistory P R} {sequence : ℕ}

lemma Attempt.Recorded.append {a : Attempt P R} {event : EpisodeTranscriptEvent}
    (ha : a.Recorded D durable_human r t₀ h event) (es : EpisodeHistory P R) :
    a.Recorded D durable_human r t₀ (h ++ es) event := by
  obtain ⟨⟨observation, hselected⟩, hauthorized, hanswered, hrun, hresult, hleg, haction, hstep⟩ :=
    ha
  have hsub : h ⊆ h ++ es := List.subset_append_left h es
  refine ⟨⟨observation, hsub hselected⟩, fun hnode => ?_,
    hanswered.trans ((List.sublist_append_left h es).filterMap left?), hrun, hresult, hleg,
    haction, hstep⟩
  obtain ⟨fact, hfact, hchosen, hrequested⟩ := hauthorized hnode
  exact ⟨fact, hfact, hchosen.mono hsub, hrequested.mono hsub⟩

lemma Since.append (hsince : Since D durable_human expected r s₀ h h₁ sequence)
    (es : EpisodeHistory P R) :
    Since D durable_human expected r s₀ (h ++ es) (h₁ ++ es) sequence := by
  obtain ⟨h₀, since, s₁, rfl, hsub, hbegan⟩ := hsince
  exact ⟨h₀, since ++ es, s₁, List.append_assoc .., hsub.append (.refl es), hbegan⟩

lemma Since.lost (hsince : Since D durable_human expected r s₀ h h₁ sequence)
    (es : EpisodeHistory P R) : Since D durable_human expected r s₀ (h ++ es) h₁ sequence := by
  obtain ⟨h₀, since, s₁, rfl, hsub, hbegan⟩ := hsince
  exact ⟨h₀, since ++ es, s₁, List.append_assoc ..,
    hsub.trans (List.sublist_append_left since es), hbegan⟩

lemma Since.sublist (hsince : Since D durable_human expected r s₀ h h₁ sequence) :
    List.Sublist h₁ h := by
  obtain ⟨h₀, since, s₁, rfl, hsub, -⟩ := hsince
  exact hsub.trans (List.sublist_append_right h₀ since)

lemma attempt_key_eq {t : EpisodeTranscript} (hthread : t.thread_id = t₀.thread_id)
    (hepisode : t.episode_id = t₀.episode_id) (k : ℕ) : attempt_key t k = attempt_key t₀ k := by
  unfold attempt_key
  rw [hthread, hepisode]

lemma selected_early :
    ∀ m ∈ edges (.action .propose), m ≠ .episode_finish → m ∈ early := by decide

lemma edges_early : ∀ m ∈ early, m ≠ .episode_record → m ≠ .action .approval →
    ∀ m'' ∈ edges m, m'' ∈ early := by decide

lemma approval_late : ∀ m ∈ edges (.action .approval), m ∈ late := by decide

lemma edges_late : ∀ m ∈ late, m ≠ .episode_record → ∀ m'' ∈ edges m, m'' ∈ late := by decide

lemma along_shared {f : WorkflowState → Work P R WorkflowState}
    (hvisit : Along (shared_node expected s f) es (.ret s')) :
    ∃ w, s' = { s with toWorkflowState := w } ∧
      Along (f s.toWorkflowState) (lefts es) (.ret w) := by
  have hmirrors : Mirrors (fun s' w => s' = { s with toWorkflowState := w })
      ((shared_node expected s f).bind .ret) ((f s.toWorkflowState).bind .ret) :=
    mirrors_shared fun w => .ret rfl
  rw [Script.bind_ret_self, Script.bind_ret_self] at hmirrors
  exact hmirrors.returns hvisit

/-- A visit of a shared node is one of the graph of one action, whoever proposes and authorizes. -/
lemma shared_visit {n : Node} (hn : n ≠ .ingest ∧ n ≠ .propose ∧ n ≠ .approval)
    (hvisit : Along (episode_visit D durable_human expected (.action n) s) es (.ret (m', s'))) :
    ∃ m'' n', m' = some m'' ∧ m'' ∈ edges (.action n) ∧ stage m'' = some n' ∧ Kept s s' ∧
      s'.episode_authorization_selection = s.episode_authorization_selection ∧
      ∀ proposer requester, Along (visit_keyed (attempt_dependencies D proposer requester)
        (attempt_key s.episode_transcript s.episode_sequence) n s.toWorkflowState) (lefts es)
        (.ret (n', s'.toWorkflowState)) := by
  obtain ⟨⟨n', w⟩, ⟨⟨m'', rfl, hstage⟩, hstate, hkept, hselection⟩, -⟩ :=
    (mirrors_action hn D.proposer D.authorization).returns hvisit
  refine ⟨m'', n', rfl, visit_edge hvisit m'' rfl, hstage, hkept, hselection,
    fun proposer requester => ?_⟩
  obtain ⟨⟨n₁, w₁⟩, ⟨⟨m₁, hm₁, hstage₁⟩, hstate₁, -⟩, halong⟩ :=
    (mirrors_action hn proposer requester).returns hvisit
  obtain rfl := Option.some.inj hm₁
  obtain rfl := Option.some.inj (hstage.symm.trans hstage₁)
  rw [hstate₁]
  exact halong

lemma stands_ingest (hs₀ : s.toWorkflowState = r.state) (hnone : s.episode_termination = none)
    (hunchosen : s.episode_authorization_selection = none)
    (hrun : Run (episode_workflow D durable_human expected) s₀ (h ++ es) m' s')
    (hvisit : Along (episode_visit D durable_human expected (.action .ingest) s) es
      (.ret (m', s'))) :
    Stands D durable_human expected r t₀ s₀ (h ++ es) m' s' ∧ Kept s s' := by
  obtain ⟨rfl, hshared⟩ := edge_of_bind hvisit
  obtain ⟨w, rfl, hingest⟩ := along_shared hshared
  refine ⟨?_, ⟨rfl, rfl, rfl, rfl⟩⟩
  rw [hs₀] at hingest
  -- a context that is not the one of the incident ends the run before any selection
  have hunbound : ∀ {reason : String},
      w = { r.state with result := some (mismatched reason) } →
      Stands D durable_human expected r t₀ s₀ (h ++ es)
        (some (if w.result.isSome then .episode_preselection_finish else .action .collect))
        { s with toWorkflowState := w } := by
    rintro reason rfl
    exact .ended (.inl rfl)
  unfold ingest at hingest
  split at hingest
  · exact hunbound (along_ret hingest).2
  · split at hingest
    · exact hunbound (along_ret hingest).2
    · split at hingest
      · exact hunbound (along_ret hingest).2
      · -- it is bound, and the run goes on to collect
        rename_i hthread hincident hactor
        obtain ⟨-, rfl⟩ := along_ret hingest
        exact .unselected (.inl rfl) ⟨not_not.mp hthread, not_not.mp hincident, not_not.mp hactor⟩
          hnone hunchosen ⟨h ++ es, [], _, (List.append_nil _).symm, .slnil, hrun, rfl, rfl⟩
          fun proposer requester => ⟨[], List.not_mem_nil, .start⟩

lemma stands_collect
    (hholds : EpisodeHolds D durable_human expected r t₀ s₀ h (some (.action .collect)) s)
    (hvisit : Along (episode_visit D durable_human expected (.action .collect) s) es
      (.ret (m', s'))) :
    Stands D durable_human expected r t₀ s₀ (h ++ es) m' s' ∧ Kept s s' := by
  obtain ⟨m'', n', rfl, hedge, hstage, hkept, hselection, halong⟩ :=
    shared_visit (n := .collect) (by decide) hvisit
  obtain rfl := List.mem_singleton.mp hedge
  obtain rfl := Option.some.inj hstage
  refine ⟨?_, hkept⟩
  rw [attempt_key_eq hholds.thread_id hholds.episode_id] at halong
  cases hholds.stands with
  | unselected _ hbound hs hunchosen hsince hdirect =>
    refine .unselected (.inr rfl) hbound (hkept.termination.trans hs) (hselection.trans hunchosen)
      (hkept.sequence ▸ hsince.append es) fun proposer requester => ?_
    obtain ⟨ns, hnode, hdirect⟩ := hdirect proposer requester
    rw [hkept.sequence, lefts_append]
    exact ⟨_, by simpa using hnode, hdirect.completed (halong proposer requester)⟩
  | @attempting _ _ _ _ _ asked hm => cases asked <;> simp [ahead, late, early] at hm
  | ended hm => simp at hm

lemma chosen_attempt {selection : EpisodeActionSelection P}
    {e : EpisodeWorkflowState → Option EpisodeNode}
    (hunchosen : s.episode_authorization_selection = none)
    (hattempt : Along ((episode_attempt D durable_human s selection).bind fun s' =>
      .ret (e s', s')) es (.ret (m', s'))) :
    ∀ fact ∈ s'.episode_authorization_selection,
      Chosen D durable_human es selection.leg s.episode_sequence fact := by
  obtain ⟨es₁, es₂, s₁, rfl, hattempt, hret⟩ := along_bind_ret hattempt
  obtain ⟨rfl, heq⟩ := along_ret hret
  obtain ⟨-, rfl⟩ := Prod.mk.inj heq
  rw [List.append_nil]
  exact (yields_attempt (h := []) hunchosen selection).returns hattempt

lemma propose_visit (hs : s.episode_termination = none)
    (hvisit : Along (episode_visit D durable_human expected (.action .propose) s) es
      (.ret (m', s'))) :
    m' = some .episode_finish ∧ s' = { s with episode_termination := some .strategy_complete } ∨
      ∃ selection m'' n', (∃ observation, (⟨.inr (.strategy observation), some selection⟩ :
          Exchange EpisodeGraph.Answer) ∈ es) ∧ m' = some m'' ∧ m'' ∈ edges (.action .propose) ∧
        stage m'' = some n' ∧ Opens selection s s' ∧
        (s.episode_authorization_selection = none → ∀ fact ∈ s'.episode_authorization_selection,
          Chosen D durable_human es selection.leg s.episode_sequence fact) ∧
        ∀ requester, Along (visit_keyed (attempt_dependencies D selection.proposer requester)
          (attempt_key s.episode_transcript s.episode_sequence) .propose s.toWorkflowState)
          (lefts es) (.ret (n', s'.toWorkflowState)) := by
  have hedge := visit_edge hvisit
  simp only [episode_visit, episode_propose, Script.bind_eq, Script.pure_eq, bind_bind] at hvisit
  obtain ⟨es₁, es₂, answer, rfl, hselect, hrest⟩ := along_bind_ret hvisit
  have hown : lefts es₁ = [] := own_select.lefts hselect
  cases answer with
  -- nothing selected: the episode is complete
  | none =>
    obtain ⟨-, heq⟩ := along_ret hrest
    obtain ⟨rfl, rfl⟩ := Prod.mk.inj heq
    exact .inl ⟨rfl, rfl⟩
  -- the selection opens an attempt, and its proposal is the one of one action
  | some selection =>
    have hanswered : ∃ observation, (⟨.inr (.strategy observation), some selection⟩ :
        Exchange EpisodeGraph.Answer) ∈ es₁ := by
      simp only [episode_select, Script.bind_eq] at hselect
      obtain ⟨es₃, es₄, _, rfl, -, hselect⟩ := along_bind_ret hselect
      obtain ⟨es₅, es₆, records, rfl, -, hselect⟩ := along_bind_ret hselect
      cases hselect with
      | ask hret =>
        obtain ⟨rfl, rfl⟩ := along_ret hret
        exact ⟨_, List.mem_append_right _ (List.mem_append_right _ (List.mem_singleton_self _))⟩
    have hmirrors := fun requester =>
      (@mirrors_attempt P R D durable_human s hs selection requester).returns hrest
    obtain ⟨⟨n', w⟩, ⟨⟨m'', rfl, hstage⟩, hstate, hopens⟩, -⟩ := hmirrors D.authorization
    refine .inr ⟨selection, m'', n', ?_, rfl, hedge m'' rfl, hstage, hopens, fun hunchosen => ?_,
      fun requester => ?_⟩
    · obtain ⟨observation, hmem⟩ := hanswered
      exact ⟨observation, List.mem_append_left _ hmem⟩
    · -- the authorization is the one that is chosen here
      intro fact hfact
      exact (chosen_attempt hunchosen hrest fact hfact).mono (List.subset_append_right es₁ es₂)
    · -- whoever requests: a proposal asks no requester
      obtain ⟨⟨n₁, w₁⟩, ⟨⟨m₁, hm₁, hstage₁⟩, hstate₁, -⟩, halong⟩ := hmirrors requester
      obtain rfl := Option.some.inj hm₁
      obtain rfl := Option.some.inj (hstage.symm.trans hstage₁)
      rw [hstate₁, lefts_append, hown]
      exact halong

lemma open_of_opens {selection : EpisodeActionSelection P} (hopens : Opens selection s s') :
    ∃ event, Open selection s' event ∧ event.phase = .started ∧
      s'.episode_transcript.events = s.episode_transcript.events ++ [event] := by
  obtain ⟨⟨now, event, hevent, happend⟩, hsequence, -⟩ := hopens
  have hevents := (append_same happend).2.2.2
  unfold started_event at hevent
  split at hevent
  · obtain rfl := Option.some.inj hevent
    exact ⟨_, ⟨by simp [hevents], hsequence.symm, rfl, rfl⟩, rfl, hevents⟩
  · cases hevent

lemma holds_propose
    (hholds : EpisodeHolds D durable_human expected r t₀ s₀ h (some (.action .propose)) s)
    (hvisit : Along (episode_visit D durable_human expected (.action .propose) s) es
      (.ret (m', s'))) : EpisodeHolds D durable_human expected r t₀ s₀ (h ++ es) m' s' := by
  have hrecorded : ∀ event ∈ s.episode_transcript.events, event.phase = .terminal →
      ∃ a : Attempt P R, a.Recorded D durable_human r t₀ (h ++ es) event :=
    fun event hmem hterminal =>
      (hholds.recorded event hmem hterminal).imp fun _ ha => ha.append es
  obtain ⟨hthread, hepisode, -, hstands⟩ := hholds
  cases hstands with
  | @attempting _ _ _ _ _ asked hm => cases asked <;> simp [ahead, late, early] at hm
  | ended hm => simp at hm
  -- of the places of a run only this one has a proposal to come
  | unselected _ hbound hs hunchosen hsince hdirect =>
    rcases propose_visit hs hvisit with ⟨rfl, rfl⟩ |
      ⟨selection, m'', n', ⟨observation, hmem⟩, rfl, hedge, hstage, hopens, hchosen, halong⟩
    · exact ⟨hthread, hepisode, hrecorded, .ended (.inr (.inl rfl))⟩
    · obtain ⟨event, hopen, hphase, hevents⟩ := open_of_opens hopens
      obtain ⟨now, started, -, happend⟩ := hopens.started
      obtain ⟨hthread', hepisode', -⟩ := append_same happend
      refine ⟨hthread'.trans hthread, hepisode'.trans hepisode, ?_, ?_⟩
      · -- the new event is a start, so the records are those before
        rw [hevents]
        intro e he hterminal
        rcases List.mem_append.mp he with he | he
        · exact hrecorded e he hterminal
        · obtain rfl := List.mem_singleton.mp he
          cases hphase.symm.trans hterminal
      · -- an attempt is open now, and so far no requester was asked
        rw [attempt_key_eq hthread hepisode] at halong
        by_cases hfinish : m'' = .episode_finish
        · exact .ended (.inr (.inl (congrArg some hfinish)))
        have hahead : m'' ∈ ahead (none : Option R) := selected_early m'' hedge hfinish
        refine .attempting hahead hstage hbound (hopens.termination.trans hs) ⟨event, hopen⟩
          ⟨observation, List.mem_append_right _ hmem⟩ (fun fact hfact => ?_) (by simp)
          (hopens.sequence ▸ hsince.append es) fun requester _ => ?_
        · rw [hopens.sequence]
          exact (hchosen hunchosen fact hfact).mono (List.subset_append_right _ es)
        · obtain ⟨ns, hnode, hdirect⟩ := hdirect selection.proposer requester
          rw [hopens.sequence, lefts_append]
          exact ⟨_, fun _ => by simpa using hnode, hdirect.completed (halong requester)⟩

lemma EpisodeHolds.kept (hholds : EpisodeHolds D durable_human expected r t₀ s₀ h (some m) s)
    (hkept : s'.episode_transcript = s.episode_transcript)
    (hstands : Stands D durable_human expected r t₀ s₀ (h ++ es) m' s') :
    EpisodeHolds D durable_human expected r t₀ s₀ (h ++ es) m' s' where
  thread_id := by rw [hkept, hholds.thread_id]
  episode_id := by rw [hkept, hholds.episode_id]
  recorded event hmem hterminal := by
    rw [hkept] at hmem
    exact (hholds.recorded event hmem hterminal).imp fun _ ha => ha.append es
  stands := hstands

lemma EpisodeHolds.lost (hholds : EpisodeHolds D durable_human expected r t₀ s₀ h (some m) s)
    (es : EpisodeHistory P R) :
    EpisodeHolds D durable_human expected r t₀ s₀ (h ++ es) (some m) s := by
  refine hholds.kept rfl ?_
  cases hholds.stands with
  | ingest => exact .ingest
  | unselected hn hbound hs hunchosen hsince hdirect =>
    exact .unselected hn hbound hs hunchosen (hsince.lost es) hdirect
  | attempting hm hstage hbound hs hopen hselected hchosen hrequested hsince hdirect =>
    exact .attempting hm hstage hbound hs hopen hselected hchosen hrequested (hsince.lost es)
      hdirect
  | clear hbound hs hroot => exact .clear hbound hs hroot
  | ended hm => exact .ended hm

lemma Open.kept {selection : EpisodeActionSelection P} {event : EpisodeTranscriptEvent}
    (hopen : Open selection s event) (hkept : Kept s s') : Open selection s' event :=
  ⟨by rw [hkept.transcript, hopen.last], by rw [hkept.sequence, hopen.sequence], hopen.leg,
    hopen.action_id⟩

/-- A node that keeps what was selected and goes on in the attempt. -/
lemma stands_onward {n' : Option Node} {m'' : EpisodeNode}
    {selection : EpisodeActionSelection P} {asked : Option R} (hkept : Kept s s')
    (hselection : s'.episode_authorization_selection = s.episode_authorization_selection)
    (hm : m'' ∈ ahead asked) (hstage : stage m'' = some n') (hbound : r.Bound)
    (hs : s.episode_termination = none) (hopen : ∃ event, Open selection s event)
    (hselected : ∃ observation,
      (⟨.inr (.strategy observation), some selection⟩ : Exchange EpisodeGraph.Answer) ∈ h₁)
    (hchosen : ∀ fact ∈ s.episode_authorization_selection,
      Chosen D durable_human h₁ selection.leg s.episode_sequence fact)
    (hrequested : ∀ requester ∈ asked, ∃ fact ∈ s.episode_authorization_selection,
      Requested D durable_human (h₁ ++ es) fact requester)
    (hsince : Since D durable_human expected r s₀ h h₁ s.episode_sequence)
    (hdirect : ∀ requester, (∀ a ∈ asked, a = requester) → ∃ ns,
      (asked = none → .approval ∉ ns) ∧
      Direct (attempt_graph D t₀ s.episode_sequence selection.proposer requester)
        (some .collect) r.state ns (lefts (h₁ ++ es)) n' s'.toWorkflowState) :
    Stands D durable_human expected r t₀ s₀ (h ++ es) (some m'') s' := by
  obtain ⟨event, hopen⟩ := hopen
  obtain ⟨observation, hmem⟩ := hselected
  refine .attempting hm hstage hbound (hkept.termination.trans hs) ⟨event, hopen.kept hkept⟩
    ⟨observation, List.mem_append_left es hmem⟩ (fun fact hfact => ?_) ?_
    (hkept.sequence ▸ hsince.append es) (hkept.sequence ▸ hdirect)
  · rw [hselection] at hfact
    rw [hkept.sequence]
    exact (hchosen fact hfact).mono (List.subset_append_left h₁ es)
  · rw [hselection]
    exact hrequested

lemma requested_append {asked : Option R}
    (hrequested : ∀ requester ∈ asked, ∃ fact ∈ s.episode_authorization_selection,
      Requested D durable_human h₁ fact requester) (es : EpisodeHistory P R) :
    ∀ requester ∈ asked, ∃ fact ∈ s.episode_authorization_selection,
      Requested D durable_human (h₁ ++ es) fact requester := by
  intro requester hasked
  obtain ⟨fact, hfact, hrequested⟩ := hrequested requester hasked
  exact ⟨fact, hfact, hrequested.mono (List.subset_append_left h₁ es)⟩

lemma holds_shared {n : Node} (hn : n ≠ .ingest ∧ n ≠ .collect ∧ n ≠ .propose ∧ n ≠ .approval)
    (hholds : EpisodeHolds D durable_human expected r t₀ s₀ h (some (.action n)) s)
    (hvisit : Along (episode_visit D durable_human expected (.action n) s) es
      (.ret (m', s'))) : EpisodeHolds D durable_human expected r t₀ s₀ (h ++ es) m' s' := by
  obtain ⟨m'', n', rfl, hedge, hstage', hkept, hselection, halong⟩ :=
    shared_visit ⟨hn.1, hn.2.2⟩ hvisit
  refine hholds.kept hkept.transcript ?_
  rw [attempt_key_eq hholds.thread_id hholds.episode_id] at halong
  cases hholds.stands with
  | ingest => exact absurd rfl hn.1
  | unselected hn' =>
    rcases hn' with rfl | rfl
    · exact absurd rfl hn.2.1
    · exact absurd rfl hn.2.2.1
  | ended hm => simp at hm
  | @attempting _ _ _ _ h₁ asked hm hstage hbound hs hopen hselected hchosen hrequested hsince
      hdirect =>
    obtain rfl : some n = _ := by
      cases n <;> first | exact Option.some.inj hstage | exact absurd rfl hn.1
    refine stands_onward hkept hselection ?_ hstage' hbound hs hopen hselected hchosen
      (requested_append hrequested es) hsince fun requester hasked => ?_
    · cases asked with
      | none => exact edges_early _ hm nofun (fun heq => hn.2.2.2 (by injection heq)) m'' hedge
      | some requester => exact edges_late _ hm nofun m'' hedge
    · obtain ⟨ns, hnode, hdirect⟩ := hdirect requester hasked
      rw [lefts_append]
      refine ⟨_, fun hnone => ?_, hdirect.completed (halong _ requester)⟩
      simpa using ⟨hnode hnone, hn.2.2.2.symm⟩

lemma mirrors_reach : Mirrors (fun s' () => s'.toWorkflowState = s.toWorkflowState ∧ Kept s s' ∧
      s'.episode_authorization_selection = s.episode_authorization_selection)
    (episode_approval_reach (P := P) (R := R) expected s) (.ret ()) :=
  own_ensure_safeguards.bind fun _ => (own_present _ _).bind fun _ =>
    .ret ⟨rfl, ⟨rfl, rfl, rfl, rfl⟩, rfl⟩

lemma reach_visit (hvisit : Along (episode_visit D durable_human expected .episode_approval_reach s)
    es (.ret (m', s'))) : m' = some (.action .approval) ∧ lefts es = [] ∧
      s'.toWorkflowState = s.toWorkflowState ∧ Kept s s' ∧
      s'.episode_authorization_selection = s.episode_authorization_selection := by
  obtain ⟨rfl, hreach⟩ := edge_of_bind (e := fun _ => _) hvisit
  obtain ⟨_, hstate, hret⟩ := mirrors_reach.returns hreach
  exact ⟨rfl, (along_ret hret).1, hstate⟩

lemma approval_visit (hvisit : Along (episode_visit D durable_human expected (.action .approval) s)
    es (.ret (m', s'))) : ∃ requester m'' n', m' = some m'' ∧ m'' ∈ edges (.action .approval) ∧
      stage m'' = some n' ∧ Kept s s' ∧
      s'.episode_authorization_selection = s.episode_authorization_selection ∧
      (∃ fact ∈ s.episode_authorization_selection, Requested D durable_human es fact requester) ∧
      ∀ proposer, Along (visit_keyed (attempt_dependencies D proposer requester)
          (attempt_key s.episode_transcript s.episode_sequence) .approval s.toWorkflowState)
          (lefts es) (.ret (n', s'.toWorkflowState)) := by
  have hedge := visit_edge hvisit
  simp only [episode_visit, episode_approval, Script.bind_eq, Script.pure_eq, bind_bind,
    Script.bind_ret] at hvisit
  obtain ⟨es₁, es₂, requester, rfl, hrequester, hrest⟩ := along_bind_ret hvisit
  have hown : lefts es₁ = [] := own_requester.lefts hrequester
  have hmirrors := fun proposer => (mirrors_approval (D := D) requester proposer).returns hrest
  obtain ⟨⟨n', w⟩, ⟨⟨m'', rfl, hstage⟩, hstate, hkept, hselection⟩, -⟩ := hmirrors D.proposer
  refine ⟨requester, m'', n', rfl, hedge m'' rfl, hstage, hkept, hselection, ?_,
    fun proposer => ?_⟩
  · obtain ⟨fact, hfact, hrequested⟩ := (yields_requester (h := [])).returns hrequester
    exact ⟨fact, hfact, hrequested.mono (List.subset_append_left es₁ es₂)⟩
  obtain ⟨⟨n₁, w₁⟩, ⟨⟨m₁, hm₁, hstage₁⟩, hstate₁, -⟩, halong⟩ := hmirrors proposer
  obtain rfl := Option.some.inj hm₁
  obtain rfl := Option.some.inj (hstage.symm.trans hstage₁)
  rw [hstate₁, lefts_append, hown]
  exact halong

lemma holds_reach
    (hholds : EpisodeHolds D durable_human expected r t₀ s₀ h (some .episode_approval_reach) s)
    (hvisit : Along (episode_visit D durable_human expected .episode_approval_reach s) es
      (.ret (m', s'))) : EpisodeHolds D durable_human expected r t₀ s₀ (h ++ es) m' s' := by
  obtain ⟨rfl, hown, hstate, hkept, hselection⟩ := reach_visit hvisit
  refine hholds.kept hkept.transcript ?_
  cases hholds.stands with
  | ended hm => simp at hm
  | @attempting _ _ _ _ h₁ asked hm hstage hbound hs hopen hselected hchosen hrequested hsince
      hdirect =>
    refine stands_onward hkept hselection ?_ hstage hbound hs hopen hselected hchosen
      (requested_append hrequested es) hsince ?_
    · cases asked with
      | none => simp [ahead, early]
      | some requester => simp [ahead, late] at hm
    · rw [lefts_append, hown, List.append_nil, hstate]
      exact hdirect

lemma holds_approval
    (hholds : EpisodeHolds D durable_human expected r t₀ s₀ h (some (.action .approval)) s)
    (hvisit : Along (episode_visit D durable_human expected (.action .approval) s) es
      (.ret (m', s'))) : EpisodeHolds D durable_human expected r t₀ s₀ (h ++ es) m' s' := by
  obtain ⟨requester, m'', n', rfl, hedge, hstage', hkept, hselection, hrequested, halong⟩ :=
    approval_visit hvisit
  refine hholds.kept hkept.transcript ?_
  rw [attempt_key_eq hholds.thread_id hholds.episode_id] at halong
  cases hholds.stands with
  | unselected hn => simp at hn
  | ended hm => simp at hm
  | @attempting _ _ _ _ h₁ asked hm hstage hbound hs hopen hselected hchosen _ hsince hdirect =>
    obtain rfl := Option.some.inj hstage
    cases asked with
    | some _ => simp [ahead, late] at hm
    | none =>
      -- from here on the requester is the one that was asked
      have hahead : m'' ∈ ahead (some requester) := approval_late m'' hedge
      refine stands_onward hkept hselection hahead hstage' hbound hs hopen hselected hchosen ?_
        hsince ?_
      · rintro _ ⟨⟩
        obtain ⟨fact, hfact, hrequested⟩ := hrequested
        exact ⟨fact, hfact, hrequested.mono (List.subset_append_right h₁ es)⟩
      · intro requester' hasked
        obtain rfl := hasked requester rfl
        obtain ⟨ns, -, hdirect⟩ := hdirect requester (by simp)
        rw [lefts_append]
        exact ⟨_, nofun, hdirect.completed (halong _)⟩

structure Records (D : WorkflowDependencies P R) (s s' : EpisodeWorkflowState) : Prop where
  appended : ∃ started now result terminal,
    s.episode_transcript.events.getLast? = some started ∧ s.result = some result ∧
      terminal_event started now (episode_snapshot D s result) = some terminal ∧
      s.episode_transcript.append terminal = some s'.episode_transcript
  state : s'.toWorkflowState = s.toWorkflowState
  sequence : s'.episode_sequence = s.episode_sequence + 1
  max_actions : s'.episode_max_actions = s.episode_max_actions

/-- The episode goes on, or it ends at its bound. -/
inductive Ends (es : EpisodeHistory P R) (s : EpisodeWorkflowState) : EpisodeWorkflowState → Prop
  | onward (hlt : s.episode_sequence < s.episode_max_actions) : Ends es s s
  | bound {observation : EpisodeStrategyObservation}
      {selection : Option (EpisodeActionSelection P)}
      (hle : s.episode_max_actions ≤ s.episode_sequence)
      (htranscript : observation.transcript = s.episode_transcript)
      (hanswered : (⟨.inr (.strategy observation), selection⟩ :
        Exchange EpisodeGraph.Answer) ∈ es) :
      Ends es s { s with
        episode_termination :=
          some (if selection.isNone then .strategy_complete else .max_actions) }

lemma mirrors_present {α β γ : Type} {message : String} {o : Option γ} {f : γ → EpisodeWork P R α}
    {rel : α → β → Prop} {p : Work P R β} (hf : ∀ c, o = some c → Mirrors rel (f c) p) :
    Mirrors rel ((present message o).bind f) p := by
  cases o with
  | none => exact .raise
  | some c => exact hf c rfl

lemma end_visit (hend : Along (episode_end s) es (.ret s')) : Ends es s s' := by
  unfold episode_end at hend
  split at hend
  · rename_i hle
    cases hend with
    | ask hret =>
      obtain ⟨rfl, rfl⟩ := along_ret hret
      exact .bound hle rfl (List.mem_singleton_self _)
  · rename_i hlt
    obtain ⟨-, rfl⟩ := along_ret hend
    exact .onward (Nat.not_le.mp hlt)

lemma own_end : Own (episode_end (P := P) (R := R) s) := by
  unfold episode_end
  split
  · exact (own_ask (.strategy _)).bind fun selection => .ret trivial
  · exact .ret trivial

lemma mirrors_terminal : Mirrors (fun s' () => Records D s s' ∧
    s'.episode_termination = s.episode_termination)
    (episode_terminal (P := P) (R := R) D s) (.ret ()) := by
  refine mirrors_present fun started hstarted => ?_
  have hlast := (Option.filter_eq_some_iff.mp hstarted).1
  refine (own_ask .clock).bind fun now => mirrors_present fun result hresult => ?_
  refine mirrors_valid fun terminal hterminal => mirrors_valid fun t ht => .ret ?_
  exact ⟨⟨⟨started, now, result, terminal, hlast, hresult, hterminal, ht⟩, rfl, rfl, rfl⟩, rfl⟩

lemma own_record : Own (episode_record (P := P) (R := R) D s) :=
  Mirrors.bind (g := fun _ => .ret ()) mirrors_terminal fun _ _ _ => own_end

lemma record_visit (hvisit : Along (episode_visit D durable_human expected .episode_record s) es
    (.ret (m', s'))) :
    m' = some (if s'.episode_termination.isSome then .episode_finish else .episode_clear) ∧
      lefts es = [] ∧ ∃ s₁, Records D s s₁ ∧ s₁.episode_termination = s.episode_termination ∧
        Ends es s₁ s' := by
  obtain ⟨rfl, hrecord⟩ := edge_of_bind hvisit
  refine ⟨rfl, own_record.lefts hrecord, ?_⟩
  obtain ⟨es₁, es₂, s₁, rfl, hterminal, hend⟩ := along_bind_ret hrecord
  obtain ⟨_, ⟨hrecords, htermination⟩, -⟩ := mirrors_terminal.returns hterminal
  refine ⟨s₁, hrecords, htermination, ?_⟩
  cases end_visit hend with
  | onward hlt => exact .onward hlt
  | bound hle htranscript hanswered =>
    exact .bound hle htranscript (List.mem_append_right _ hanswered)

lemma terminal_fields {started terminal : EpisodeTranscriptEvent} {now : Time}
    {step : EpisodeOrdering.EpisodeStepSnapshot}
    (hterminal : terminal_event started now step = some terminal) :
    terminal.sequence = started.sequence ∧ terminal.leg = started.leg ∧
      terminal.action_id = started.action_id ∧ terminal.step = some step ∧
      terminal.phase = .terminal := by
  unfold terminal_event at hterminal
  split at hterminal
  · obtain rfl := Option.some.inj hterminal
    exact ⟨rfl, rfl, rfl, rfl, rfl⟩
  · cases hterminal

lemma at_rooted {D : WorkflowDependencies P R} {key : Keying} {h : History P R} {n : Option Node}
    {w : WorkflowState} (hw : At D key r h n w) :
    fresh w.incident w.context w.caller = r.state := by
  cases hw with
  | ended hs => cases hs <;> rfl
  | _ => rfl

lemma direct_holds {key : Keying} {proposer : P} {requester : R} {ns : List Node} {h : History P R}
    {n : Option Node} {w : WorkflowState}
    (hdirect : Direct (one_action (attempt_dependencies D proposer requester) key .collect)
      (some .collect) r.state ns h n w) :
    Holds (attempt_dependencies D proposer requester) key r .collect n h w :=
  (holds_invariant (.inr rfl)).run hdirect.run

lemma Ends.eq_of_none {s₁ : EpisodeWorkflowState} (hends : Ends es s₁ s')
    (hnone : s'.episode_termination = none) : s' = s₁ := by
  cases hends with
  | onward => rfl
  | bound => cases hnone

lemma Ends.transcript {s₁ : EpisodeWorkflowState} (hends : Ends es s₁ s') :
    s'.episode_transcript = s₁.episode_transcript := by
  cases hends <;> rfl

lemma holds_record
    (hholds : EpisodeHolds D durable_human expected r t₀ s₀ h (some .episode_record) s)
    (hvisit : Along (episode_visit D durable_human expected .episode_record s) es
      (.ret (m', s'))) : EpisodeHolds D durable_human expected r t₀ s₀ (h ++ es) m' s' := by
  obtain ⟨rfl, hown, s₁, ⟨⟨started, now, result, terminal, hlast, hresult, hterminal, happend⟩,
    hstate, -, -⟩, htermination, hends⟩ := record_visit hvisit
  obtain ⟨hthread, hepisode, -, hevents⟩ := append_same happend
  obtain ⟨hseq, hleg, haction, hstep, -⟩ := terminal_fields hterminal
  cases hholds.stands with
  | ended hm => simp at hm
  -- the open attempt is the one that is recorded
  | @attempting _ _ _ _ h₁ asked hm hstage hbound hs hopen hselected hchosen hrequested hsince
      hdirect =>
    obtain ⟨event, hopen⟩ := hopen
    obtain ⟨observation, hmem⟩ := hselected
    obtain rfl := Option.some.inj hstage
    obtain rfl := Option.some.inj (hlast.symm.trans hopen.last)
    have hsub : h₁ ⊆ h ++ es := (hsince.lost es).sublist.subset
    obtain ⟨ns, hnode, hdirect⟩ := hdirect (asked.getD D.authorization) fun a ha => by
      rw [Option.mem_def.mp ha, Option.getD_some]
    refine ⟨?_, ?_, ?_, ?_⟩
    · rw [hends.transcript, hthread, hholds.thread_id]
    · rw [hends.transcript, hepisode, hholds.episode_id]
    · rw [hends.transcript, hevents]
      intro e he hphase
      rcases List.mem_append.mp he with he | he
      · exact (hholds.recorded e he hphase).imp fun _ ha => ha.append es
      · obtain rfl := List.mem_singleton.mp he
        rw [← hopen.sequence, ← hseq] at hdirect
        refine ⟨⟨_, asked.getD D.authorization, ns, _, s, result⟩, ⟨observation, hsub hmem⟩,
          fun happroval => ?_, (hsince.lost es).sublist.filterMap left?, hdirect, hresult,
          hleg.trans hopen.leg, haction.trans hopen.action_id, hstep⟩
        -- an attempt of which nobody was asked has not come to its approval
        cases asked with
        | none => exact absurd happroval (hnode rfl)
        | some requester =>
          obtain ⟨fact, hfact, hrequested⟩ := hrequested requester rfl
          refine ⟨fact, hfact, ?_, hrequested.mono hsub⟩
          rw [hleg, hopen.leg, hseq, hopen.sequence]
          exact (hchosen fact hfact).mono hsub
    · -- at the bound of its actions the episode ends, and otherwise it is cleared
      split
      · exact .ended (.inr (.inl rfl))
      · rename_i hnone
        rw [Bool.not_eq_true, Option.isSome_eq_false_iff, Option.isNone_iff_eq_none] at hnone
        obtain rfl := hends.eq_of_none hnone
        refine .clear hbound hnone ?_
        rw [hstate]
        exact at_rooted (direct_holds hdirect).position

lemma holds_clear
    (hholds : EpisodeHolds D durable_human expected r t₀ s₀ h (some .episode_clear) s)
    (hrun : Run (episode_workflow D durable_human expected) s₀ (h ++ es)
      (some (.action .collect)) (episode_clear s)) :
    EpisodeHolds D durable_human expected r t₀ s₀ (h ++ es) (some (.action .collect))
      (episode_clear s) := by
  refine hholds.kept rfl ?_
  cases hholds.stands with
  | @attempting _ _ _ _ _ asked hm => cases asked <;> simp [ahead, late, early] at hm
  | ended hm => simp at hm
  | clear hbound hs hroot =>
    have hstate : (episode_clear s).toWorkflowState = r.state := hroot
    refine .unselected (.inl rfl) hbound hs rfl
      ⟨h ++ es, [], _, (List.append_nil _).symm, .slnil, hrun, hstate, rfl⟩
      fun proposer requester => ⟨[], List.not_mem_nil, ?_⟩
    rw [hstate]
    exact .start

lemma holds_visit (hs₀ : s₀.toWorkflowState = r.state) (hnone : s₀.episode_termination = none)
    (hunchosen : s₀.episode_authorization_selection = none)
    (hrun : Run (episode_workflow D durable_human expected) s₀ h (some m) s)
    (hholds : EpisodeHolds D durable_human expected r t₀ s₀ h (some m) s)
    (hvisit : Along (episode_visit D durable_human expected m s) es (.ret (m', s'))) :
    EpisodeHolds D durable_human expected r t₀ s₀ (h ++ es) m' s' := by
  have hend : m = .episode_preselection_finish ∨ m = .episode_finish →
      s'.episode_transcript = s.episode_transcript →
      EpisodeHolds D durable_human expected r t₀ s₀ (h ++ es) m' s' := fun hm ht => by
    refine hholds.kept ht (.ended ?_)
    cases m' with
    | none => exact .inr (.inr rfl)
    | some m' =>
      have hedge := visit_edge hvisit m' rfl
      rcases hm with rfl | rfl
      · exact .inr (.inl (congrArg some (List.mem_singleton.mp hedge)))
      · cases hedge
  cases m with
  -- the shared nodes, of which four are the loop's own
  | action n =>
    cases n with
    | ingest =>
      cases hholds.stands with
      | ingest =>
        obtain ⟨hstands, hkept⟩ :=
          stands_ingest hs₀ hnone hunchosen (hrun.completed hvisit) hvisit
        exact hholds.kept hkept.transcript hstands
      | unselected hn => simp at hn
      | @attempting _ _ _ _ _ asked hm => cases asked <;> simp [ahead, late, early] at hm
      | ended hm => simp at hm
    | collect =>
      obtain ⟨hstands, hkept⟩ := stands_collect hholds hvisit
      exact hholds.kept hkept.transcript hstands
    | propose => exact holds_propose hholds hvisit
    | approval => exact holds_approval hholds hvisit
    | _ => exact holds_shared (by decide) hholds hvisit
  | episode_approval_reach => exact holds_reach hholds hvisit
  | episode_record => exact holds_record hholds hvisit
  | episode_clear =>
    have hnext := hrun.completed hvisit
    obtain ⟨-, heq⟩ := along_ret hvisit
    obtain ⟨rfl, rfl⟩ := Prod.mk.inj heq
    exact holds_clear hholds hnext
  -- the two ends leave the transcript as it is
  | episode_preselection_finish =>
    obtain ⟨-, heq⟩ := along_ret hvisit
    obtain ⟨-, rfl⟩ := Prod.mk.inj heq
    exact hend (.inl rfl) rfl
  | episode_finish =>
    obtain ⟨-, heq⟩ := along_ret hvisit
    obtain ⟨-, rfl⟩ := Prod.mk.inj heq
    exact hend (.inr rfl) rfl

end

/-! ### Who calls the executor -/

section
variable {D : WorkflowDependencies P R} {durable_human : R → Bool}
  {expected : EpisodeSafeguardIdentity} {r : Root} {t₀ : EpisodeTranscript}
  {s₀ s : EpisodeWorkflowState} {m : EpisodeNode} {h es : EpisodeHistory P R}
  {p : EpisodeWork P R (Option EpisodeNode × EpisodeWorkflowState)} {q : Question P R}
  {a : q.Answer}

lemma mem_lefts (hmem : (⟨.inl q, a⟩ : Exchange EpisodeGraph.Answer) ∈ es) :
    (⟨q, a⟩ : Exchange Question.Answer) ∈ lefts es := List.mem_filterMap.mpr ⟨_, hmem, rfl⟩

lemma executes_of_mirrors {α : Type} {D : WorkflowDependencies P R} {key : Keying}
    {h : History P R} {n : Node} {w : WorkflowState} {rel : α → Option Node × WorkflowState → Prop}
    {p p' : EpisodeWork P R α} (hmirrors : Mirrors rel p (visit_keyed D key n w))
    (hposition : At D key r h (some n) w) (halong : Along p es p')
    (hmem : (⟨.inl q, a⟩ : Exchange EpisodeGraph.Answer) ∈ es) (hexecutes : Executes q) :
    n = .execute ∧ call w = some q := by
  obtain ⟨q', halong, -⟩ := hmirrors.along halong
  exact (visited hposition).asked halong _ (mem_lefts hmem) hexecutes

lemma executes_of_own {α : Type} {p p' : EpisodeWork P R α} (hown : Own p) (halong : Along p es p')
    (hmem : (⟨.inl q, a⟩ : Exchange EpisodeGraph.Answer) ∈ es) : False := by
  have hleft := mem_lefts hmem
  rw [hown.lefts halong] at hleft
  cases hleft

lemma executes_after {α β : Type} {c : EpisodeWork P R α} {f : α → EpisodeWork P R β}
    {p : EpisodeWork P R β} (hown : Own c) (halong : Along (c.bind f) es p)
    (hmem : (⟨.inl q, a⟩ : Exchange EpisodeGraph.Answer) ∈ es) :
    ∃ b es', Along (f b) es' p ∧ (⟨.inl q, a⟩ : Exchange EpisodeGraph.Answer) ∈ es' := by
  rcases along_bind halong with ⟨p₁, -, hc⟩ | ⟨es₁, es₂, b, rfl, hc, hf⟩
  · exact (executes_of_own hown hc hmem).elim
  · rcases List.mem_append.mp hmem with hmem | hmem
    · exact (executes_of_own hown hc hmem).elim
    · exact ⟨b, es₂, hf, hmem⟩

lemma own_of_state {β : Type} {rel : EpisodeWorkflowState → Unit → Prop}
    {c : EpisodeWork P R EpisodeWorkflowState} (hc : Mirrors rel c (.ret ()))
    (f : EpisodeWorkflowState → β) : Own (c.bind fun s => .ret (f s)) :=
  Mirrors.bind (g := fun _ => .ret ()) hc fun _ _ _ => .ret trivial

/-- A visit that mirrors a node of the graph of one action calls the executor only from there. -/
lemma executes_of_direct {α : Type} {proposer : P} {requester : R} {ns : List Node}
    {h₁ : History P R} {n : Node} {rel : α → Option Node × WorkflowState → Prop}
    {p p' : EpisodeWork P R α} (hkey : ∀ k, attempt_key s.episode_transcript k = attempt_key t₀ k)
    (hmirrors : Mirrors rel p (visit_keyed (attempt_dependencies D proposer requester)
      (attempt_key s.episode_transcript s.episode_sequence) n s.toWorkflowState))
    (hdirect : Direct (attempt_graph D t₀ s.episode_sequence proposer requester) (some .collect)
      r.state ns h₁ (some n) s.toWorkflowState)
    (halong : Along p es p') (hmem : (⟨.inl q, a⟩ : Exchange EpisodeGraph.Answer) ∈ es)
    (hexecutes : Executes q) : n = .execute ∧ call s.toWorkflowState = some q := by
  rw [hkey] at hmirrors
  exact executes_of_mirrors hmirrors (direct_holds hdirect).position halong hmem hexecutes

lemma not_executes_propose {h₁ : History P R}
    (hkey : ∀ k, attempt_key s.episode_transcript k = attempt_key t₀ k)
    (hs : s.episode_termination = none)
    (hdirect : ∀ proposer requester, ∃ ns, .approval ∉ ns ∧
      Direct (attempt_graph D t₀ s.episode_sequence proposer requester) (some .collect) r.state
        ns h₁ (some .propose) s.toWorkflowState)
    (halong : Along (episode_visit D durable_human expected (.action .propose) s) es p)
    (hmem : (⟨.inl q, a⟩ : Exchange EpisodeGraph.Answer) ∈ es) : ¬Executes q := by
  intro hexecutes
  simp only [episode_visit, episode_propose, Script.bind_eq, Script.pure_eq, bind_bind] at halong
  obtain ⟨answer, es', halong, hmem⟩ := executes_after own_select halong hmem
  cases answer with
  | none =>
    cases halong
    cases hmem
  | some selection =>
    obtain ⟨ns, -, hdirect⟩ := hdirect selection.proposer D.authorization
    exact absurd (executes_of_direct hkey (mirrors_attempt hs selection D.authorization) hdirect
      halong hmem hexecutes).1 nofun

/-- An approval asks for its requester first, and then mirrors. -/
lemma not_executes_approval {h₁ : History P R} {proposer : P}
    (hkey : ∀ k, attempt_key s.episode_transcript k = attempt_key t₀ k)
    (hdirect : ∀ requester, ∃ ns, Direct (attempt_graph D t₀ s.episode_sequence proposer requester)
      (some .collect) r.state ns h₁ (some .approval) s.toWorkflowState)
    (halong : Along (episode_visit D durable_human expected (.action .approval) s) es p)
    (hmem : (⟨.inl q, a⟩ : Exchange EpisodeGraph.Answer) ∈ es) : ¬Executes q := by
  intro hexecutes
  simp only [episode_visit, episode_approval, Script.bind_eq, Script.pure_eq, bind_bind,
    Script.bind_ret] at halong
  obtain ⟨requester, es', halong, hmem⟩ := executes_after own_requester halong hmem
  obtain ⟨ns, hdirect⟩ := hdirect requester
  exact absurd (executes_of_direct hkey (mirrors_approval requester proposer) hdirect halong hmem
    hexecutes).1 nofun

lemma executes_at (hs₀ : s₀.toWorkflowState = r.state)
    (hholds : EpisodeHolds D durable_human expected r t₀ s₀ h (some m) s)
    (halong : Along (episode_visit D durable_human expected m s) es p)
    (hmem : (⟨.inl q, a⟩ : Exchange EpisodeGraph.Answer) ∈ es) (hexecutes : Executes q) :
    m = .action .execute ∧ call s.toWorkflowState = some q := by
  have hkey := attempt_key_eq hholds.thread_id hholds.episode_id
  cases hholds.stands with
  -- before a selection the loop mirrors the first nodes, which call nothing
  | ingest =>
    have hmirrors : Mirrors (fun _ _ => True)
        (episode_visit D durable_human expected (.action .ingest) s₀)
        (visit_keyed D own_key .ingest s₀.toWorkflowState) := mirrors_shared fun w => .ret trivial
    rw [hs₀] at hmirrors
    exact absurd (executes_of_mirrors hmirrors (h := []) .ingest halong hmem hexecutes).1 nofun
  | @unselected n _ h₁ hn hbound hs _ _ hdirect =>
    rcases hn with rfl | rfl
    · obtain ⟨ns, -, hdirect⟩ := hdirect D.proposer D.authorization
      exact absurd (executes_of_direct hkey (mirrors_action (by decide) D.proposer D.authorization)
        hdirect halong hmem hexecutes).1 nofun
    · exact absurd hexecutes (not_executes_propose hkey hs hdirect halong hmem)
  -- in an attempt every shared node mirrors its own, and only the executor's calls
  | @attempting _ n _ selection h₁ asked hm hstage hbound hs _ _ _ _ _ hdirect =>
    have hshared : ∀ n', m = .action n' → n = some n' →
        n' ≠ .ingest ∧ n' ≠ .propose ∧ n' ≠ .approval →
        m = .action .execute ∧ call s.toWorkflowState = some q := by
      rintro n' rfl rfl hn'
      obtain ⟨ns, -, hdirect⟩ := hdirect (asked.getD D.authorization) fun a ha => by
        rw [Option.mem_def.mp ha, Option.getD_some]
      obtain ⟨rfl, hcall⟩ := executes_of_direct hkey
        (mirrors_action hn' selection.proposer (asked.getD D.authorization)) hdirect halong hmem
        hexecutes
      exact ⟨rfl, hcall⟩
    cases m with
    | action n' =>
      cases n' with
      | ingest => cases hstage
      | propose => cases asked <;> simp [ahead, late, early] at hm
      | approval =>
        obtain rfl : asked = none := by
          cases asked with
          | none => rfl
          | some _ => simp [ahead, late] at hm
        obtain rfl := Option.some.inj hstage
        have hrequested : ∀ requester, ∃ ns, Direct
            (attempt_graph D t₀ s.episode_sequence selection.proposer requester) (some .collect)
            r.state ns (lefts h₁) (some .approval) s.toWorkflowState := fun requester =>
          (hdirect requester (by simp)).imp fun _ => And.right
        exact absurd hexecutes (not_executes_approval hkey hrequested halong hmem)
      | _ => exact hshared _ rfl (Option.some.inj hstage).symm (by decide)
    | episode_approval_reach =>
      exact (executes_of_own (own_of_state mirrors_reach _) halong hmem).elim
    | episode_record => exact (executes_of_own (own_of_state own_record _) halong hmem).elim
    | _ => cases hstage
  -- the rest asks nothing of a dependency
  | clear =>
    cases halong
    cases hmem
  | ended hm =>
    rcases hm with hm | hm | hm
    · obtain rfl := Option.some.inj hm
      cases halong
      cases hmem
    · obtain rfl := Option.some.inj hm
      cases halong
      cases hmem
    · cases hm

end

/-! ### An episode of two restarts -/

def labIdentity : EpisodeSafeguardIdentity :=
  ⟨.ENFORCE, .ENFORCE, .ENFORCE, .DURABLE_HUMAN, none, rfl⟩

def labTranscript : EpisodeTranscript where
  incident_id := "INC-D3"
  thread_id := "thread-1"
  episode_id := "episode-1"
  events := []
  incident_id_ok := by decide
  thread_id_ok := by decide
  episode_id_ok := by decide
  ordered := rfl

def labEpisode : EpisodeWorkflowState where
  toWorkflowState := labRoot.state
  episode_transcript := labTranscript
  episode_max_actions := 2
  episode_sequence := 0
  episode_termination := none
  episode_safeguards := labIdentity
  episode_current_leg := none
  episode_current_action_id := none
  episode_authorization_selection := none
  episode_authorization_reached := false
  episode_durable_request_started := false

lemma lab_start : start_episode labIdentity labRoot.incident labRoot.caller labRoot.context
    labTranscript 2 = .ok labEpisode := rfl

/-- A strategy that always selects, and authorization by the default. -/
def labEpisodeAnswers : ∀ q : Question Unit Unit ⊕ EpisodeQuestion Unit Unit, EpisodeGraph.Answer q
  | .inl q => labAnswers q
  | .inr (.strategy _) => some ⟨.incident, "action-1", ()⟩
  | .inr (.select _ _) => none
  | .inr (.hold_requester _ _) => ()
  | .inr (.held_requester _) => none
  | .inr (.post_delivery _ _ _) => ()
  | .inr .clock => (130 : Int)

def labGraph : Graph EpisodeNode EpisodeWorkflowState (EpisodeGraph.Answer (P := Unit) (R := Unit))
    Raised := episode_workflow labDependencies (fun _ => true) labIdentity

example : build_episode_workflow_graph labDependencies (fun _ => true) = some labGraph := rfl

/-- At the first call of the executor. -/
def labFirst := labGraph.follow labEpisodeAnswers 8 ([], some (.action .ingest), labEpisode)

/-- At the second, of the next attempt: the visit of the first was lost and made again. -/
def labSecond :=
  labGraph.follow labEpisodeAnswers 11 (labGraph.lose labEpisodeAnswers labFirst)

/-- The visit of the second is lost too, and the episode goes on to its end. -/
def labEpisodeRun :=
  labGraph.follow labEpisodeAnswers 5 (labGraph.lose labEpisodeAnswers labSecond)

lemma lab_first_run : Run labGraph labEpisode labFirst.1 labFirst.2.1 labFirst.2.2 :=
  Run.start.follow labEpisodeAnswers 8

lemma lab_second_run : Run labGraph labEpisode labSecond.1 labSecond.2.1 labSecond.2.2 :=
  (lab_first_run.lose labEpisodeAnswers).follow labEpisodeAnswers 11

lemma lab_episode_run :
    Run labGraph labEpisode labEpisodeRun.1 labEpisodeRun.2.1 labEpisodeRun.2.2 :=
  (lab_second_run.lose labEpisodeAnswers).follow labEpisodeAnswers 5

/-! ### Whole runs -/

structure Started (expected : EpisodeSafeguardIdentity) (r : Root) (t₀ : EpisodeTranscript)
    (max_actions : ℕ) (s : EpisodeWorkflowState) : Prop where
  state : s.toWorkflowState = r.state
  transcript : s.episode_transcript = t₀
  events : t₀.events = []
  incident_id : t₀.incident_id = r.incident.incident_id
  thread_id : t₀.thread_id = r.incident.thread_id
  limit : s.episode_max_actions = max_actions
  bounds : 1 ≤ max_actions ∧ max_actions ≤ 1000
  sequence : s.episode_sequence = 0
  termination : s.episode_termination = none
  safeguards : s.episode_safeguards = expected
  selection : s.episode_authorization_selection = none

lemma started_of_start {expected : EpisodeSafeguardIdentity} {r : Root} {t₀ : EpisodeTranscript}
    {max_actions : ℕ} {s : EpisodeWorkflowState}
    (hstart : start_episode expected r.incident r.caller r.context t₀ max_actions = .ok s) :
    Started expected r t₀ max_actions s := by
  unfold start_episode at hstart
  split at hstart
  · cases hstart
  · split at hstart
    · cases hstart
    · split at hstart
      · cases hstart
      · split at hstart
        · cases hstart
        · split at hstart
          · cases hstart
          · rename_i hevents hbinds hbounds
            obtain rfl := Except.ok.inj hstart
            simp only [ne_eq, not_not] at hevents
            simp only [Bool.or_eq_true, decide_eq_true_eq, not_or, ne_eq, not_not] at hbinds
            simp only [Bool.not_eq_true', Bool.and_eq_false_iff, decide_eq_false_iff_not, not_or,
              not_not] at hbounds
            exact ⟨rfl, rfl, hevents, hbinds.1, hbinds.2, rfl, hbounds, by simp [hevents], rfl, rfl,
              rfl⟩

section
variable {D : WorkflowDependencies P R} {durable_human : R → Bool}
  {expected : EpisodeSafeguardIdentity} {r : Root} {t₀ : EpisodeTranscript} {max_actions : ℕ}
  {s₀ s : EpisodeWorkflowState} {m : Option EpisodeNode} {h : EpisodeHistory P R}

lemma run_holds (hs₀ : Started expected r t₀ max_actions s₀)
    (hrun : Run (episode_workflow D durable_human expected) s₀ h m s) :
    EpisodeHolds D durable_human expected r t₀ s₀ h m s := by
  induction hrun with
  | start =>
    refine ⟨by rw [hs₀.transcript], by rw [hs₀.transcript], ?_, .ingest⟩
    rw [hs₀.transcript, hs₀.events]
    exact fun event hmem => absurd hmem List.not_mem_nil
  | completed hrun hvisit ih =>
    exact holds_visit hs₀.state hs₀.termination hs₀.selection hrun ih hvisit
  | lost hrun hvisit ih => exact ih.lost _

end

end IncidentGate.EpisodeAttempts
