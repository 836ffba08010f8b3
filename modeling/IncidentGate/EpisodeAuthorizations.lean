import IncidentGate.EpisodeAttempts

/-!
What an episode can be resumed under, wherever its run was lost: the safeguards it is bound to, and
the choice that its selector made for the attempt under way.
-/

namespace IncidentGate.EpisodeAuthorizations

open Lib.ScriptTree Lib.Checkpoint SabotageRows Workflow WorkflowGates
open EpisodeGraph EpisodeAttempts
open Contracts hiding Caller
open MonitorInputs (AuthorizationGate)

variable {P R R' α β : Type}

/-! ### What a choice is called -/

/-- What is durable of a choice beside its attempt. -/
def named (choice : Option (EpisodeAuthorizationChoice R)) (default_path : AuthorizationGate) :
    String × AuthorizationGate :=
  match choice with
  | none => ("safeguard_default", default_path)
  | some choice => (choice.selection_id, choice.request_path)

lemma resolve_fst (fallback : R) (durable_human : R → Bool)
    (choice : Option (EpisodeAuthorizationChoice R)) (leg : Leg) (leg_index sequence : ℕ)
    (path : Option AuthorizationGate) :
    (resolve_episode_authorization fallback durable_human choice leg leg_index sequence path).1 =
      ⟨leg, leg_index, sequence, (named choice (fallback_path (durable_human fallback) path)).1,
        (named choice (fallback_path (durable_human fallback) path)).2⟩ := by
  cases choice <;> rfl

/-- One attempt is resolved twice to the same selection if both choices have the same name. -/
lemma resolve_eq_iff {fallback : R} {durable_human : R → Bool} {fallback' : R'}
    {durable_human' : R' → Bool} {choice : Option (EpisodeAuthorizationChoice R)}
    {choice' : Option (EpisodeAuthorizationChoice R')} {leg : Leg} {leg_index sequence : ℕ}
    {path path' : Option AuthorizationGate} :
    (resolve_episode_authorization fallback' durable_human' choice' leg leg_index sequence
      path').1 =
        (resolve_episode_authorization fallback durable_human choice leg leg_index sequence
          path).1 ↔
      named choice' (fallback_path (durable_human' fallback') path') =
        named choice (fallback_path (durable_human fallback) path) := by
  rw [resolve_fst, resolve_fst, Prod.ext_iff]
  simp

/-! ### The durable selection in a run -/

/-- The selector of authorizations answered as `selector` does. -/
def Selecting (selector : Leg → ℕ → Option (EpisodeAuthorizationChoice R))
    (h : EpisodeHistory P R) : Prop :=
  ∀ leg leg_index choice,
    (⟨.inr (.select leg leg_index), choice⟩ : Exchange EpisodeGraph.Answer) ∈ h →
      choice = selector leg leg_index

/-- The durable selection is what `selector` resolves to. -/
def Selected (D : WorkflowDependencies P R) (durable_human : R → Bool)
    (selector : Leg → ℕ → Option (EpisodeAuthorizationChoice R)) (s : EpisodeWorkflowState) :
    Prop :=
  ∀ selection ∈ s.episode_authorization_selection,
    selection = (resolve_episode_authorization D.authorization durable_human
      (selector selection.leg selection.leg_index) selection.leg selection.leg_index
      selection.sequence (some D.safeguards.authorization_gate)).1

/-- What a resumption reads of a state. -/
structure Steady (s s' : EpisodeWorkflowState) : Prop where
  safeguards : s'.episode_safeguards = s.episode_safeguards
  selection : s'.episode_authorization_selection = s.episode_authorization_selection

section
variable {D : WorkflowDependencies P R} {durable_human : R → Bool}
  {expected : EpisodeSafeguardIdentity} {s s₁ s' : EpisodeWorkflowState} {m : EpisodeNode}
  {h : EpisodeHistory P R} {selector : Leg → ℕ → Option (EpisodeAuthorizationChoice R)}

lemma Selecting.of_append {es : EpisodeHistory P R} (hselecting : Selecting selector (h ++ es)) :
    Selecting selector h := fun leg leg_index choice hmem =>
  hselecting leg leg_index choice (List.mem_append_left es hmem)

lemma Steady.selected (hsteady : Steady s s') (hselected : Selected D durable_human selector s) :
    Selected D durable_human selector s' := by
  unfold Selected
  rw [hsteady.selection]
  exact hselected

lemma steady_shared (f : WorkflowState → Work P R WorkflowState) :
    Yields (fun _ s' => Steady s s') h (shared_node expected s f) :=
  yields_after fun _ _ => yields_after fun _ _ => ⟨rfl, rfl⟩

lemma steady_validate : Yields (fun _ s' => Steady s s') h (shared_validate D expected s) := by
  refine yields_after fun _ _ => yields_after fun _ output => ?_
  cases output <;> exact ⟨rfl, rfl⟩

lemma steady_reach :
    Yields (fun _ s' => Steady s s') h (episode_approval_reach (P := P) (R := R) expected s) :=
  yields_after fun _ _ => yields_after fun _ _ => ⟨rfl, rfl⟩

lemma steady_approval :
    Yields (fun _ s' => Steady s s') h (episode_approval D durable_human expected s) :=
  yields_after fun _ _ => yields_after fun _ _ => ⟨rfl, rfl⟩

lemma steady_execute :
    Yields (fun _ s' => Steady s s') h (episode_execute (P := P) (R := R) expected s) :=
  yields_after fun _ _ => yields_after fun _ _ => yields_after fun _ _ =>
    yields_after fun _ _ => ⟨rfl, rfl⟩

lemma steady_end (hsteady : Steady s s₁) :
    Yields (fun _ s' => Steady s s') h (episode_end (P := P) (R := R) s₁) := by
  unfold episode_end
  split
  · exact yields_after fun _ _ => ⟨hsteady.safeguards, hsteady.selection⟩
  · exact hsteady

lemma steady_record : Yields (fun _ s' => Steady s s') h (episode_record D s) := by
  refine ensures_bind.mpr (Ensures.mono (P := fun _ s₁ => Steady s s₁) ?_ (fun _ hq => hq)
    fun _ _ hsteady => steady_end hsteady)
  exact yields_after fun _ _ => yields_after fun _ _ => yields_after fun _ _ =>
    yields_after fun _ _ => yields_after fun _ _ => ⟨rfl, rfl⟩

lemma steady_leave {c : EpisodeWork P R EpisodeWorkflowState}
    {e : EpisodeWorkflowState → Option EpisodeNode}
    (hc : Yields (fun _ s' => Steady s s') h c) :
    Yields (fun _ v => Steady s v.2) h (c.bind fun s' => .ret (e s', s')) := ensures_bind.mpr hc

lemma steady_visit (hm : m ≠ .action .propose ∧ m ≠ .episode_clear) :
    Yields (fun _ v => Steady s v.2) h (episode_visit D durable_human expected m s) := by
  cases m with
  | action n =>
    cases n with
    | propose => exact absurd rfl hm.1
    | validate => exact steady_leave steady_validate
    | monitor =>
      refine ensures_bind.mpr ((steady_shared (monitor D)).mono (fun _ hq => hq) ?_)
      exact fun _ _ hsteady => yields_after fun _ _ => hsteady
    | approval => exact steady_leave steady_approval
    | execute => exact steady_leave steady_execute
    | _ => exact steady_leave (steady_shared _)
  | episode_approval_reach => exact steady_leave steady_reach
  | episode_record => exact steady_leave steady_record
  | episode_clear => exact absurd rfl hm.2
  | episode_preselection_finish => exact ⟨rfl, rfl⟩
  | episode_finish => exact ⟨rfl, rfl⟩

/-- What a resumption relies on. -/
structure Resumable (D : WorkflowDependencies P R) (durable_human : R → Bool)
    (expected : EpisodeSafeguardIdentity)
    (selector : Leg → ℕ → Option (EpisodeAuthorizationChoice R)) (h : EpisodeHistory P R)
    (s : EpisodeWorkflowState) : Prop where
  safeguards : s.episode_safeguards = expected
  selected : Selecting selector h → Selected D durable_human selector s

lemma Resumable.append (hs : Resumable D durable_human expected selector h s)
    (es : EpisodeHistory P R) : Resumable D durable_human expected selector (h ++ es) s where
  safeguards := hs.safeguards
  selected hselecting := hs.selected hselecting.of_append

lemma Resumable.steady (hs : Resumable D durable_human expected selector h s)
    (hsteady : Steady s s') : Resumable D durable_human expected selector h s' where
  safeguards := hsteady.safeguards.trans hs.safeguards
  selected hselecting := hsteady.selected (hs.selected hselecting)

lemma resumable_after {Q : EpisodeHistory P R → β → Prop} {p : EpisodeWork P R α}
    {f : α → EpisodeWork P R β} (hs : Resumable D durable_human expected selector h s)
    (hf : ∀ h a, Resumable D durable_human expected selector h s → Yields Q h (f a)) :
    Yields Q h (p.bind f) := yields_after fun es a => hf _ a (hs.append es)

lemma resumable_authorize {selection : EpisodeActionSelection P} {action : CanonicalAction}
    {base : EpisodeWorkflowState} (hbase : base.episode_safeguards = expected) :
    Yields (Resumable D durable_human expected selector) h
      (episode_authorize D durable_human s selection action base) := by
  refine yields_after fun es _ => ?_
  refine ⟨trivial, fun choice => ⟨trivial, fun _ => ⟨hbase, fun hselecting => ?_⟩⟩⟩
  have hchoice := hselecting selection.leg (episode_leg_index s selection.leg) choice (by simp)
  intro fact hfact
  have hresolved : (resolve_episode_authorization D.authorization durable_human choice selection.leg
      (episode_leg_index s selection.leg) s.episode_sequence
      (some D.safeguards.authorization_gate)).1 = fact := Option.some.inj hfact
  rw [resolve_fst] at hresolved
  subst hresolved
  dsimp only
  rw [← hchoice, resolve_fst]

lemma resumable_attempt (hs : Resumable D durable_human expected selector h s)
    (selection : EpisodeActionSelection P) :
    Yields (Resumable D durable_human expected selector) h
      (episode_attempt D durable_human s selection) := by
  refine resumable_after hs fun _ _ hs => resumable_after hs fun _ now hs => ?_
  refine resumable_after hs fun _ started hs => resumable_after hs fun _ transcript hs => ?_
  refine resumable_after hs fun _ w hs => ?_
  dsimp only
  split
  · exact hs.steady ⟨rfl, rfl⟩
  · exact resumable_after hs fun _ action hs => resumable_authorize hs.safeguards

lemma resumable_propose (hs : Resumable D durable_human expected selector h s) :
    Yields (Resumable D durable_human expected selector) h
      (episode_propose D durable_human expected s) := by
  refine resumable_after hs fun _ answer hs => ?_
  cases answer with
  | none => exact hs.steady ⟨rfl, rfl⟩
  | some selection => exact resumable_attempt hs selection

lemma resumable_visit (hs : Resumable D durable_human expected selector h s) :
    Yields (fun h v => Resumable D durable_human expected selector h v.2) h
      (episode_visit D durable_human expected m s) := by
  by_cases hpropose : m = .action .propose
  · subst hpropose
    exact ensures_bind.mpr (resumable_propose hs)
  by_cases hclear : m = .episode_clear
  · subst hclear
    exact ⟨hs.safeguards, fun _ selection hselection => by cases hselection⟩
  refine (steady_visit ⟨hpropose, hclear⟩).history.mono (fun _ hq => hq) ?_
  rintro _ v ⟨hsteady, es, rfl, -⟩
  exact (hs.append es).steady hsteady

end

/-! ### Whole runs -/

section
variable {D : WorkflowDependencies P R} {durable_human : R → Bool}
  {expected expected' : EpisodeSafeguardIdentity} {r : Root} {t₀ : EpisodeTranscript}
  {max_actions : ℕ} {s₀ s : EpisodeWorkflowState} {m : Option EpisodeNode} {h : EpisodeHistory P R}
  {selector : Leg → ℕ → Option (EpisodeAuthorizationChoice R)}

lemma resumable_invariant
    (hstart : start_episode expected r.incident r.caller r.context t₀ max_actions = .ok s₀) :
    Invariant (episode_workflow D durable_human expected) s₀ (fun _ _ _ => True)
      fun _ h s => Resumable D durable_human expected selector h s where
  start := by
    refine ⟨(started_of_start hstart).safeguards, fun _ selection hselection => ?_⟩
    rw [(started_of_start hstart).selection] at hselection
    cases hselection
  kept hs _ _ := hs.append _
  visited hs := resumable_visit hs

lemma resume_iff {fallback : R'} {durable_human' : R' → Bool}
    {selector' : Leg → ℕ → Option (EpisodeAuthorizationChoice R')}
    (hsafeguards : s.episode_safeguards = expected)
    (hselected : Selected D durable_human selector s) :
    (∃ held, resume_episode expected' fallback durable_human' selector' s = .ok held) ↔
      expected = expected' ∧ ∀ selection ∈ s.episode_authorization_selection,
        named (selector' selection.leg selection.leg_index)
            (fallback_path (durable_human' fallback) none) =
          named (selector selection.leg selection.leg_index) D.safeguards.authorization_gate := by
  unfold resume_episode
  rw [hsafeguards]
  by_cases hexpected : expected = expected'
  · rw [if_neg (not_not.mpr hexpected)]
    simp only [hexpected, true_and]
    cases hselection : s.episode_authorization_selection with
    -- nothing was selected yet, so nothing is compared
    | none => simp
    | some selection =>
      -- what is durable is what the first process resolved
      have hresolved := hselected selection hselection
      have hiff : (resolve_episode_authorization fallback durable_human'
          (selector' selection.leg selection.leg_index) selection.leg selection.leg_index
          selection.sequence none).1 = selection ↔
          named (selector' selection.leg selection.leg_index)
              (fallback_path (durable_human' fallback) none) =
            named (selector selection.leg selection.leg_index) D.safeguards.authorization_gate :=
        ⟨fun h => resolve_eq_iff.mp (h.trans hresolved),
          fun h => (resolve_eq_iff.mpr h).trans hresolved.symm⟩
      simp only [Option.mem_def, Option.some.injEq, forall_eq', ← hiff]
      split_ifs with h
      · simp [h]
      · simpa using h
  · rw [if_pos hexpected]
    simp [hexpected]

/-- **What an episode resumes under.** Wherever a run of an episode is, whatever was lost and made
again: if its selector repeats its choices, then the process that resumes it is let on exactly if
it is bound to the same safeguards and its own selector names, for the attempt under way, the same
choice; where neither selector chooses, its fallback has to be of the kind that the safeguards
name. -/
theorem resume_exact
    (hstart : start_episode expected r.incident r.caller r.context t₀ max_actions = .ok s₀)
    (hrun : Run (episode_workflow D durable_human expected) s₀ h m s)
    (hselecting : Selecting selector h) (fallback : R') (durable_human' : R' → Bool)
    (selector' : Leg → ℕ → Option (EpisodeAuthorizationChoice R')) :
    (∃ held, resume_episode expected' fallback durable_human' selector' s = .ok held) ↔
      expected = expected' ∧ ∀ selection ∈ s.episode_authorization_selection,
        named (selector' selection.leg selection.leg_index)
            (fallback_path (durable_human' fallback) none) =
          named (selector selection.leg selection.leg_index) D.safeguards.authorization_gate := by
  have hs : Resumable D durable_human expected selector h s :=
    (resumable_invariant hstart).run hrun
  exact resume_iff hs.safeguards (hs.selected hselecting)

end

/-- A process whose fallback asks no human may not go on with an attempt that has to ask one. -/
theorem resume_exact_restart :
    (∃ held, resume_episode labIdentity () (fun _ => true) (fun _ _ => none) labFirst.2.2 =
      .ok held) ∧
    ¬ ∃ held, resume_episode labIdentity () (fun _ => false) (fun _ _ => none) labFirst.2.2 =
      .ok held := by
  have hselecting : Selecting (fun _ _ => none) labFirst.1 := by
    intro leg leg_index choice hmem
    exact Graph.follow_fixed (by simp) _ hmem
  have hexact (asks : Bool) : (∃ held, resume_episode labIdentity () (fun _ => asks)
      (fun _ _ => none) labFirst.2.2 = .ok held) ↔ _ :=
    resume_exact lab_start lab_first_run hselecting () (fun _ => asks) fun _ _ => none
  refine ⟨(hexact true).mpr ⟨rfl, fun _ _ => rfl⟩, fun hresumed => ?_⟩
  have hsome : labFirst.2.2.episode_authorization_selection.isSome = true := by
    decide +kernel
  obtain ⟨selection, hselection⟩ := Option.isSome_iff_exists.mp hsome
  exact absurd (((hexact false).mp hresumed).2 selection hselection) (by decide)

end IncidentGate.EpisodeAuthorizations
