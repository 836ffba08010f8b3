import IncidentGate.EpisodeTranscripts

/-!
The executor in an episode, in every run: what it is called with passed every gate of its own
attempt, and an attempt calls it with one thing only.
-/

namespace IncidentGate.EpisodeCalls

open Lib.ScriptTree Lib.Checkpoint Lib.Beside Policy SabotageRows Workflow WorkflowGates
open EpisodeGraph EpisodeAttempts EpisodeTranscripts
open Contracts hiding Caller

variable {P R : Type}

/-- The question is a call of the executor under the key of a sequence of the episode. -/
def Keyed (t₀ : EpisodeTranscript) (sequence : ℕ) : Question P R → Prop
  | .execute _ _ _ action_hash idempotency_key => idempotency_key =
      Identities.episode_idempotency_key action_hash t₀.thread_id t₀.episode_id sequence
  | _ => False

section
variable {D : WorkflowDependencies P R} {durable_human : R → Bool}
  {expected : EpisodeSafeguardIdentity} {r : Root} {t₀ : EpisodeTranscript} {max_actions : ℕ}
  {s₀ s s' : EpisodeWorkflowState} {m : EpisodeNode} {m' : Option EpisodeNode}
  {h es : EpisodeHistory P R}

lemma run_bounded (hs₀ : Started expected r t₀ max_actions s₀)
    (hrun : Run (episode_workflow D durable_human expected) s₀ h m' s) :
    ∃ h', List.Sublist h' h ∧ Bounded max_actions h' m' s := by
  obtain ⟨ms, h', hsub, hdirect⟩ := hrun.direct
  exact ⟨h', hsub, (keeps_bounded hs₀).direct hdirect⟩

lemma closed_of_run (hs₀ : Started expected r t₀ max_actions s₀)
    (hrun : Run (episode_workflow D durable_human expected) s₀ h m' s) :
    closed s.episode_transcript = s.episode_sequence := by
  obtain ⟨h', -, hbounded⟩ := run_bounded hs₀ hrun
  rw [← hbounded.sequence, standing_snd]
  rfl

end

section
variable (D : WorkflowDependencies P R) (durable_human : R → Bool)
  (expected : EpisodeSafeguardIdentity) (r : Root) (t₀ : EpisodeTranscript)
  (s₀ : EpisodeWorkflowState)

/-- An attempt passed every gate: the strategy selected its proposer, its requester was resolved for
it, and its clearance was made, all of it in exchanges since it began. -/
structure Passed (since : EpisodeHistory P R) (sequence : ℕ) (selection : EpisodeActionSelection P)
    (requester : R) (c : Clearance) : Prop where
  selected : ∃ observation, (⟨.inr (.strategy observation), some selection⟩ :
    Exchange EpisodeGraph.Answer) ∈ since
  requested : ∃ fact, Chosen D durable_human since selection.leg sequence fact ∧
    Requested D durable_human since fact requester
  made : ∃ answers, List.Sublist answers (lefts since) ∧
    Clearance.Made (attempt_dependencies D selection.proposer requester) (attempt_key t₀ sequence)
      r answers c

/-- The call is of an action that passed every gate, under the key of its attempt. -/
def Cleared (since : EpisodeHistory P R) (sequence : ℕ) (q : Question P R) : Prop :=
  ∃ selection requester c, Passed D durable_human r t₀ since sequence selection requester c ∧
    q = c.call (attempt_key t₀ sequence) r

/-- An attempt begins at the collection of its evidence, with nothing but the root of the episode,
under the number of the attempts that were closed by then. -/
def Begins (h₀ : EpisodeHistory P R) (sequence : ℕ) : Prop :=
  ∃ s, Run (episode_workflow D durable_human expected) s₀ h₀ (some (.action .collect)) s ∧
    s.toWorkflowState = r.state ∧ closed s.episode_transcript = sequence

/-- The run is on a visit of the executor's node, with so many attempts closed. -/
def Executing (h : EpisodeHistory P R) (sequence : ℕ) : Prop :=
  ∃ h' es s, h = h' ++ es ∧
    Run (episode_workflow D durable_human expected) s₀ h' (some (.action .execute)) s ∧
    closed s.episode_transcript = sequence

end

section
variable {D : WorkflowDependencies P R} {durable_human : R → Bool}
  {expected : EpisodeSafeguardIdentity} {r : Root} {t₀ : EpisodeTranscript} {max_actions : ℕ}
  {s₀ s s' : EpisodeWorkflowState} {m : EpisodeNode} {m' : Option EpisodeNode}
  {h es : EpisodeHistory P R}

lemma Cleared.mono {since since' : EpisodeHistory P R} {sequence : ℕ} {q : Question P R}
    (hcleared : Cleared D durable_human r t₀ since sequence q)
    (hsub : List.Sublist since since') : Cleared D durable_human r t₀ since' sequence q := by
  obtain ⟨selection, requester, c, hpassed, rfl⟩ := hcleared
  obtain ⟨observation, hmem⟩ := hpassed.selected
  obtain ⟨fact, hchosen, hrequested⟩ := hpassed.requested
  obtain ⟨answers, hanswers, hmade⟩ := hpassed.made
  exact ⟨selection, requester, c, ⟨⟨observation, hsub.subset hmem⟩,
    ⟨fact, hchosen.mono hsub.subset, hrequested.mono hsub.subset⟩,
    ⟨answers, hanswers.trans (hsub.filterMap left?), hmade⟩⟩, rfl⟩

lemma cleared_of_holds
    (hholds : EpisodeHolds D durable_human expected r t₀ s₀ h (some (.action .execute)) s) :
    r.Bound ∧ ∃ h₁ q, Since D durable_human expected r s₀ h h₁ s.episode_sequence ∧
      Cleared D durable_human r t₀ h₁ s.episode_sequence q ∧ call s.toWorkflowState = some q := by
  cases hholds.stands with
  | unselected hn => simp at hn
  | ended hm => simp at hm
  | @attempting _ n _ selection h₁ asked hm hstage hbound hs hopen hselected hchosen hrequested
      hsince hdirect =>
    cases asked with
    | none => simp [ahead, EpisodeAttempts.early] at hm
    | some requester =>
      obtain ⟨ns, -, hdirect⟩ := hdirect requester (by simp)
      obtain ⟨fact, hfact, hrequested⟩ := hrequested requester rfl
      obtain rfl := Option.some.inj hstage
      have hposition := (direct_holds hdirect).position
      generalize hw : s.toWorkflowState = w at hposition
      cases hposition with
      | stopped _ _ hn => simp at hn
      | @execute c hc =>
        exact ⟨hbound, h₁, _, hsince, ⟨selection, requester, c, ⟨hselected,
          ⟨fact, hchosen fact hfact, hrequested⟩, ⟨_, .refl _, hc⟩⟩, rfl⟩, call_state hc⟩

/-- **No execution of an episode without every gate of its own attempt.** In every run, before the
executor is called an action of the strategy's selection passed every gate of the graph of one
action, under the requester that was resolved for it, on answers that the episode was given since
that attempt began; the call is of that action, under the key of its own sequence, which is the
number of the attempts that were closed when it began and are closed at the call. -/
theorem episode_execution_cleared
    (hstart : start_episode expected r.incident r.caller r.context t₀ max_actions = .ok s₀)
    (hrun : Run (episode_workflow D durable_human expected) s₀ h m' s) {q : Question P R}
    {operation : q.Answer} (hexecutes : Executes q) {h₁ h₂ : EpisodeHistory P R}
    (hsplit : h = h₁ ++ ⟨.inl q, operation⟩ :: h₂) :
    r.Bound ∧ ∃ sequence < max_actions, Executing D durable_human expected s₀ h₁ sequence ∧
      ∃ h₀ since, h₁ = h₀ ++ since ∧ Begins D durable_human expected r s₀ h₀ sequence ∧
        Cleared D durable_human r t₀ since sequence q := by
  have hs₀ := started_of_start hstart
  obtain ⟨h', es, m, s', p, rfl, hbefore, halong⟩ := hrun.asked hsplit
  have hholds := run_holds hs₀ hbefore
  obtain ⟨h'', -, hbounded⟩ := run_bounded hs₀ hbefore
  obtain ⟨rfl, hcall⟩ := executes_at hs₀.state hholds halong (List.mem_append_right _
    (List.mem_singleton_self _)) hexecutes
  obtain ⟨hbound, h₁, q', ⟨h₀, since, s₁, rfl, hsub, hbegan, hroot, hsequence⟩, hcleared, hcall'⟩ :=
    cleared_of_holds hholds
  obtain rfl := Option.some.inj (hcall'.symm.trans hcall)
  refine ⟨hbound, s'.episode_sequence, (hbounded.running _ rfl nofun).2,
    ⟨_, es, s', rfl, hbefore, closed_of_run hs₀ hbefore⟩, h₀, since ++ es, List.append_assoc ..,
    ⟨s₁, hbegan, hroot, (closed_of_run hs₀ hbegan).trans hsequence⟩,
    hcleared.mono (hsub.trans (List.sublist_append_left since es))⟩

end

/-- The call of the second attempt. -/
theorem episode_execution_cleared_second : closed labSecond.2.2.episode_transcript = 1 ∧
    labRoot.Bound ∧ ∃ q : Question Unit Unit, ∃ sequence < 2,
      Executing labDependencies (fun _ => true) labIdentity labEpisode labSecond.1 sequence ∧
      ∃ h₀ since, labSecond.1 = h₀ ++ since ∧
        Begins labDependencies (fun _ => true) labIdentity labRoot labEpisode h₀ sequence ∧
        Cleared labDependencies (fun _ => true) labRoot labTranscript since sequence q := by
  have hfacts : (closed labSecond.2.2.episode_transcript = 1 ∧
      labSecond.2.1 = some (.action .execute)) ∧
      ((answered labEpisodeAnswers (labGraph.visit (.action .execute) labSecond.2.2)).1.head?.any
        fun e => e.1.elim (fun q => decide (Executes q)) fun _ => false) = true := by
    decide +kernel
  obtain ⟨⟨hclosed, hnode⟩, hcalls⟩ := hfacts
  have hrun : Run labGraph labEpisode labSecond.1 (some (.action .execute)) labSecond.2.2 :=
    hnode ▸ lab_second_run
  have halong := along_answered labEpisodeAnswers
    (labGraph.visit (.action .execute) labSecond.2.2)
  revert hcalls halong
  rcases (answered labEpisodeAnswers (labGraph.visit (.action .execute) labSecond.2.2)).1 with
    _ | ⟨⟨q | q, operation⟩, es⟩
  · intro hcalls
    cases hcalls
  · intro hcalls halong
    obtain ⟨hbound, sequence, hlt, hcall⟩ := episode_execution_cleared lab_start
      (hrun.lost halong) (of_decide_eq_true hcalls) rfl
    exact ⟨hclosed, hbound, q, sequence, hlt, hcall⟩
  · intro hcalls
    cases hcalls

/-! ### One call an attempt -/

section
variable {D : WorkflowDependencies P R} {durable_human : R → Bool}
  {expected : EpisodeSafeguardIdentity} {r : Root} {t₀ : EpisodeTranscript} {max_actions : ℕ}
  {s₀ s s' : EpisodeWorkflowState} {m : EpisodeNode} {m' : Option EpisodeNode}
  {h es : EpisodeHistory P R}

/-- The calls that a run has made, by the sequence of their attempt. -/
structure Calls (t₀ : EpisodeTranscript) (h : EpisodeHistory P R) (m : Option EpisodeNode)
    (s : EpisodeWorkflowState) (f : ℕ → Option (Question P R)) : Prop where
  made : ∀ q a, (⟨.inl q, a⟩ : Exchange EpisodeGraph.Answer) ∈ h → Executes q →
    ∃ k ≤ s.episode_sequence, f k = some q
  current : f s.episode_sequence = none ∨
    (∃ m' ∈ late, m = some m') ∧ f s.episode_sequence = call s.toWorkflowState
  later : ∀ k, s.episode_sequence < k → f k = none
  keyed : ∀ k q, f k = some q → Keyed t₀ k q

lemma Calls.asked {f : ℕ → Option (Question P R)} (hcalls : Calls t₀ h (some m) s f)
    (hes : ∀ q a, (⟨.inl q, a⟩ : Exchange EpisodeGraph.Answer) ∈ es → Executes q →
      m = .action .execute ∧ call s.toWorkflowState = some q)
    (hkeyed : m = .action .execute → ∀ q : Question P R, call s.toWorkflowState = some q →
      Keyed t₀ s.episode_sequence q) : ∃ f', Calls t₀ (h ++ es) (some m) s f' := by
  by_cases hm : m = .action .execute
  · -- the call of the state is the one of its sequence
    refine ⟨Function.update f s.episode_sequence (call s.toWorkflowState), ?_, ?_, ?_, ?_⟩
    · intro q a hmem hexecutes
      rcases List.mem_append.mp hmem with hmem | hmem
      · obtain ⟨k, hk, hf⟩ := hcalls.made q a hmem hexecutes
        refine ⟨k, hk, ?_⟩
        by_cases hseq : k = s.episode_sequence
        · subst hseq
          rcases hcalls.current with hnone | ⟨-, hcurrent⟩
          · rw [hnone] at hf
            cases hf
          · rw [Function.update_self, ← hcurrent, hf]
        · rw [Function.update_of_ne hseq, hf]
      · exact ⟨s.episode_sequence, le_rfl, by
          rw [Function.update_self]; exact (hes q a hmem hexecutes).2⟩
    · exact .inr ⟨⟨m, by rw [hm]; decide, rfl⟩, Function.update_self ..⟩
    · intro k hk
      rw [Function.update_of_ne (by omega)]
      exact hcalls.later k hk
    · intro k q hf
      by_cases hseq : k = s.episode_sequence
      · subst hseq
        rw [Function.update_self] at hf
        exact hkeyed hm q hf
      · rw [Function.update_of_ne hseq] at hf
        exact hcalls.keyed k q hf
  · refine ⟨f, ?_, hcalls.current, hcalls.later, hcalls.keyed⟩
    intro q a hmem hexecutes
    rcases List.mem_append.mp hmem with hmem | hmem
    · exact hcalls.made q a hmem hexecutes
    · exact absurd (hes q a hmem hexecutes).1 hm

lemma call_kept (hm : m ∈ late) (hrecord : m ≠ .episode_record)
    (hvisit : Along (episode_visit D durable_human expected m s) es (.ret (m', s'))) :
    (∃ m'' ∈ late, m' = some m'') ∧
      call (P := P) (R := R) s'.toWorkflowState = call s.toWorkflowState := by
  have hnode : ∃ n, m = .action n ∧ Late (some n) s.toWorkflowState ∧ n ≠ .ingest ∧
      n ≠ .propose ∧ n ≠ .approval := by
    simp only [late, List.mem_cons, List.not_mem_nil, or_false] at hm
    rcases hm with rfl | rfl | rfl
    · exact ⟨_, rfl, .inl rfl, by simp, by simp, by simp⟩
    · exact ⟨_, rfl, .inr (.inl rfl), by simp, by simp, by simp⟩
    · exact absurd rfl hrecord
  obtain ⟨n, rfl, hlate, hn⟩ := hnode
  obtain ⟨m'', n', rfl, hedge, -, -, -, halong⟩ := shared_visit hn hvisit
  refine ⟨⟨m'', edges_late _ hm hrecord m'' hedge, rfl⟩, ?_⟩
  exact ((late_visited hlate).returns (h := []) (halong D.proposer D.authorization)).2

lemma Calls.returned {f : ℕ → Option (Question P R)} {h' : EpisodeHistory P R}
    (hcalls : Calls t₀ h (some m) s f) (hbounded : Bounded max_actions h' (some m) s)
    (hvisit : Along (episode_visit D durable_human expected m s) es (.ret (m', s'))) :
    Calls t₀ h m' s' f := by
  rcases sequence_of_visit hbounded hvisit with ⟨hrecord, hseq⟩ | ⟨-, hseq⟩
  · refine ⟨?_, ?_, ?_, hcalls.keyed⟩
    · rw [hseq]
      exact hcalls.made
    · rw [hseq]
      rcases hcalls.current with hnone | ⟨⟨m₁, hlate, hm₁⟩, hcurrent⟩
      · exact .inl hnone
      · obtain rfl := Option.some.inj hm₁
        obtain ⟨hlate', hcall⟩ := call_kept (D := D) hlate hrecord hvisit
        exact .inr ⟨by simpa using hlate', hcurrent.trans hcall.symm⟩
    · rw [hseq]
      exact hcalls.later
  · refine ⟨?_, ?_, ?_, hcalls.keyed⟩
    · intro q a hmem hexecutes
      obtain ⟨k, hk, hf⟩ := hcalls.made q a hmem hexecutes
      exact ⟨k, by omega, hf⟩
    · exact .inl (hcalls.later _ (by omega))
    · exact fun k hk => hcalls.later k (by omega)

lemma keyed_of_holds
    (hholds : EpisodeHolds D durable_human expected r t₀ s₀ h (some (.action .execute)) s)
    {q : Question P R} (hcall : call s.toWorkflowState = some q) :
    Keyed t₀ s.episode_sequence q := by
  obtain ⟨-, h₁, q', -, hcleared, hcall'⟩ := cleared_of_holds hholds
  obtain rfl := Option.some.inj (hcall.symm.trans hcall')
  obtain ⟨-, -, c, -, rfl⟩ := hcleared
  rfl

lemma calls_of_run (hs₀ : Started expected r t₀ max_actions s₀)
    (hrun : Run (episode_workflow D durable_human expected) s₀ h m' s) :
    ∃ f, Calls t₀ h m' s f := by
  have hasked : ∀ {h es : EpisodeHistory P R} {m : EpisodeNode} {s : EpisodeWorkflowState}
      {p : EpisodeWork P R (Option EpisodeNode × EpisodeWorkflowState)},
      Run (episode_workflow D durable_human expected) s₀ h (some m) s →
      Along (episode_visit D durable_human expected m s) es p → (∃ f, Calls t₀ h (some m) s f) →
      ∃ f, Calls t₀ (h ++ es) (some m) s f := by
    rintro h es m s p hrun halong ⟨f, hcalls⟩
    have hholds := run_holds hs₀ hrun
    refine hcalls.asked (fun q a hmem hexecutes => ?_) ?_
    · exact executes_at hs₀.state hholds halong hmem hexecutes
    · rintro rfl q hcall
      exact keyed_of_holds hholds hcall
  induction hrun with
  | start =>
    refine ⟨fun _ => none, ?_, .inl rfl, fun _ _ => rfl, ?_⟩
    · rintro q a hmem
      cases hmem
    · rintro k q hf
      cases hf
  | completed hrun hvisit ih =>
    obtain ⟨f, hcalls⟩ := hasked hrun hvisit ih
    obtain ⟨h', -, hbounded⟩ := run_bounded hs₀ hrun
    exact ⟨f, hcalls.returned hbounded hvisit⟩
  | lost hrun hvisit ih => exact hasked hrun hvisit ih

/-- The executor was called so. -/
def Called (h : EpisodeHistory P R) (q : Question P R) : Prop :=
  Executes q ∧ ∃ a, (⟨.inl q, a⟩ : Exchange EpisodeGraph.Answer) ∈ h

/-- The key of a call is made of this name: the one of the episode and of a sequence in it. -/
def KeyName (t₀ : EpisodeTranscript) (n : List Char) : Question P R → Prop
  | .execute _ _ _ action_hash idempotency_key => ∃ sequence,
    n = Identities.episode_idempotency_name action_hash t₀.thread_id t₀.episode_id sequence ∧
      idempotency_key = Contracts.uuid5 Contracts.NAMESPACE_URL n
  | _ => False

/-- **One call an attempt.** In every run of an episode all calls of the executor are those of at
most as many attempts as the bound allows, one call each, however often it is made; and two calls
that differ are keyed by two names. -/
theorem episode_one_call
    (hstart : start_episode expected r.incident r.caller r.context t₀ max_actions = .ok s₀)
    (hrun : Run (episode_workflow D durable_human expected) s₀ h m' s) :
    (∃ calls : ℕ → Option (Question P R),
      (∀ q, Called h q → ∃ k < max_actions, calls k = some q) ∧
        ∀ k q, calls k = some q → Keyed t₀ k q) ∧
      ∀ q q', Called h q → Called h q' →
        q = q' ∨ ∃ n n', n ≠ n' ∧ KeyName t₀ n q ∧ KeyName t₀ n' q' := by
  have hs₀ := started_of_start hstart
  obtain ⟨f, hcalls⟩ := calls_of_run hs₀ hrun
  obtain ⟨h', -, hbounded⟩ := run_bounded hs₀ hrun
  have hmade : ∀ q, Called h q → ∃ k < max_actions, f k = some q := by
    rintro q ⟨hexecutes, a, hmem⟩
    obtain ⟨k, hk, hf⟩ := hcalls.made q a hmem hexecutes
    rcases Nat.lt_or_eq_of_le hk with hlt | rfl
    · exact ⟨k, hlt.trans_le hbounded.within, hf⟩
    · -- the open attempt calls only while the bound admits one more
      rcases hcalls.current with hnone | ⟨⟨m, hlate, rfl⟩, -⟩
      · rw [hnone] at hf
        cases hf
      · refine ⟨_, (hbounded.running m rfl ?_).2, hf⟩
        rintro rfl
        simp [late] at hlate
  refine ⟨⟨f, hmade, hcalls.keyed⟩, fun q q' hq hq' => ?_⟩
  obtain ⟨k, -, hf⟩ := hmade q hq
  obtain ⟨k', -, hf'⟩ := hmade q' hq'
  by_cases hk : k = k'
  · subst hk
    exact .inl (Option.some.inj (hf.symm.trans hf'))
  · -- two sequences are named apart, whatever the hashes
    have hkeyed := hcalls.keyed k q hf
    have hkeyed' := hcalls.keyed k' q' hf'
    cases q with
    | execute action context token action_hash key =>
      cases q' with
      | execute action' context' token' action_hash' key' =>
        refine .inr ⟨Identities.episode_idempotency_name action_hash t₀.thread_id t₀.episode_id k,
          Identities.episode_idempotency_name action_hash' t₀.thread_id t₀.episode_id k', ?_,
          ⟨k, rfl, hkeyed⟩, ⟨k', rfl, hkeyed'⟩⟩
        intro hname
        exact hk (Identities.episode_idempotency_name_inj t₀.episode_id_ok t₀.episode_id_ok
          hname).2.2.2
      | _ => cases hkeyed'
    | _ => cases hkeyed

end

/-- Two attempts and four calls: the visit of each was lost and made again. -/
theorem episode_one_call_lost :
    (labEpisodeRun.1.countP fun e => e.1.elim (fun q => decide (Executes q)) fun _ => false) = 4 ∧
      (∃ calls : ℕ → Option (Question Unit Unit),
        (∀ q, Called labEpisodeRun.1 q → ∃ k < 2, calls k = some q) ∧
          ∀ k q, calls k = some q → Keyed labTranscript k q) ∧
      ∀ q q', Called labEpisodeRun.1 q → Called labEpisodeRun.1 q' →
        q = q' ∨ ∃ n n', n ≠ n' ∧ KeyName labTranscript n q ∧ KeyName labTranscript n' q' :=
  ⟨by decide +kernel, episode_one_call lab_start lab_episode_run⟩

end IncidentGate.EpisodeCalls
