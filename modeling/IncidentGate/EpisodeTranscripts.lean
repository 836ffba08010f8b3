import IncidentGate.EpisodeAttempts

/-!
The transcript of an episode, in every run: started and terminal records in turn, numbered without
a gap, no more of them than the bound allows.
-/

namespace IncidentGate.EpisodeTranscripts

open Lib.TextPattern Lib.ScriptTree Lib.Checkpoint Lib.Beside
open Policy SabotageRows Workflow WorkflowGates
open EpisodeGraph EpisodeAttempts
open Contracts hiding Caller
open EpisodeOrdering (Phase Termination)

variable {P R : Type}

/-! ### The order of a history -/

/-- What one event leaves open, and the sequence that comes next. -/
def advance (o : Option EpisodeTranscriptEvent × ℕ) (event : EpisodeTranscriptEvent) :
    Option EpisodeTranscriptEvent × ℕ :=
  if event.phase = .started then (some event, o.2) else (none, o.2 + 1)

/-- Where a transcript stands: its open event, and its number of terminal records. -/
def standing (events : List EpisodeTranscriptEvent) : Option EpisodeTranscriptEvent × ℕ :=
  events.foldl advance (none, 0)

/-- The records of closed attempts. -/
def rounds (k : ℕ) : List (ℕ × Phase) :=
  (List.range k).flatMap fun i => [(i, .started), (i, .terminal)]

/-- What the order asks of one more event. -/
structure Fits (thread_id episode_id : String) (o : Option EpisodeTranscriptEvent × ℕ)
    (event : EpisodeTranscriptEvent) : Prop where
  episode_id : event.episode_id = episode_id
  sequence : event.sequence = o.2
  started : event.phase = .started → o.1 = none
  terminal : event.phase ≠ .started → ∃ started step, o.1 = some started ∧ event.step = some step ∧
    started.sequence = event.sequence ∧ started.leg = event.leg ∧
    started.action_id = event.action_id ∧ step.thread_id = thread_id

lemma ordered_cons {thread_id episode_id : String} {o : Option EpisodeTranscriptEvent} {n : ℕ}
    {event : EpisodeTranscriptEvent} {events : List EpisodeTranscriptEvent} :
    is_ordered_single_thread_history thread_id episode_id o n (event :: events) = .ok () ↔
      Fits thread_id episode_id (o, n) event ∧
        is_ordered_single_thread_history thread_id episode_id (advance (o, n) event).1
          (advance (o, n) event).2 events = .ok () := by
  conv_lhs => unfold is_ordered_single_thread_history
  simp only [refuseIf_bind_ok, bne_eq_false_iff_eq]
  by_cases hphase : event.phase = .started
  · -- a start is admitted where no event is open
    rw [if_pos hphase]
    simp only [refuseIf_bind_ok, advance, hphase, ↓reduceIte]
    constructor
    · rintro ⟨hepisode, hsequence, hnone, hrest⟩
      exact ⟨⟨hepisode, hsequence, fun _ => by simpa using hnone, fun hne => absurd hphase hne⟩,
        hrest⟩
    · rintro ⟨hfits, hrest⟩
      exact ⟨hfits.episode_id, hfits.sequence, by simpa using hfits.started hphase, hrest⟩
  · -- a terminal record closes the start of its own sequence, leg and action
    rw [if_neg hphase]
    simp only [advance, hphase, ↓reduceIte]
    constructor
    · rintro ⟨hepisode, hsequence, hrest⟩
      split at hrest
      · rename_i started step hstep
        simp only [refuseIf_bind_ok, Bool.or_eq_false_iff, bne_eq_false_iff_eq,
          decide_eq_false_iff_not, not_not] at hrest
        obtain ⟨⟨⟨hseq, hleg⟩, haction⟩, hthread, hrest⟩ := hrest
        exact ⟨⟨hepisode, hsequence, fun h => absurd h hphase,
          fun _ => ⟨started, step, rfl, hstep, hseq, hleg, haction, hthread⟩⟩, hrest⟩
      · cases hrest
    · rintro ⟨hfits, hrest⟩
      obtain ⟨started, step, hopen, hstep, hseq, hleg, haction, hthread⟩ := hfits.terminal hphase
      refine ⟨hfits.episode_id, hfits.sequence, ?_⟩
      dsimp only at hopen
      rw [hopen, hstep]
      simp only [refuseIf_bind_ok]
      simp [hseq, hleg, haction, hthread, hrest]

lemma ordered_append {thread_id episode_id : String} {o : Option EpisodeTranscriptEvent × ℕ}
    {es es' : List EpisodeTranscriptEvent} :
    is_ordered_single_thread_history thread_id episode_id o.1 o.2 (es ++ es') = .ok () ↔
      is_ordered_single_thread_history thread_id episode_id o.1 o.2 es = .ok () ∧
        is_ordered_single_thread_history thread_id episode_id (es.foldl advance o).1
          (es.foldl advance o).2 es' = .ok () := by
  induction es generalizing o with
  | nil => exact ⟨fun h => ⟨rfl, h⟩, And.right⟩
  | cons event es ih =>
    simp only [List.cons_append, List.foldl_cons, ordered_cons, and_assoc]
    exact and_congr_right' ih

lemma ordered_snoc {thread_id episode_id : String} {es : List EpisodeTranscriptEvent}
    {event : EpisodeTranscriptEvent} :
    is_ordered_single_thread_history thread_id episode_id none 0 (es ++ [event]) = .ok () ↔
      is_ordered_single_thread_history thread_id episode_id none 0 es = .ok () ∧
        Fits thread_id episode_id (standing es) event := by
  have happend := @ordered_append thread_id episode_id (none, 0) es [event]
  rw [ordered_cons] at happend
  exact happend.trans (and_congr_right' (and_iff_left rfl))

lemma standing_snoc (es : List EpisodeTranscriptEvent) (event : EpisodeTranscriptEvent) :
    standing (es ++ [event]) = advance (standing es) event := List.foldl_append

lemma shape_of_ordered {thread_id episode_id : String} (es : List EpisodeTranscriptEvent)
    (hes : is_ordered_single_thread_history thread_id episode_id none 0 es = .ok ()) :
    es.map (fun event => (event.sequence, event.phase)) = rounds (standing es).2 ++
      (standing es).1.toList.map fun _ => ((standing es).2, .started) := by
  induction es using List.reverseRecOn with
  | nil => rfl
  | append_singleton es event ih =>
    obtain ⟨hes, hfits⟩ := ordered_snoc.mp hes
    rw [List.map_append, ih hes, standing_snoc]
    rcases hphase : event.phase with _ | _
    · rw [hfits.started hphase]
      simp [advance, hphase, hfits.sequence]
    · obtain ⟨started, step, hopen, -⟩ := hfits.terminal (by rw [hphase]; nofun)
      rw [hopen]
      simp [advance, hphase, hfits.sequence, rounds, List.range_succ]

def closed (t : EpisodeTranscript) : ℕ := (t.events.filter (·.phase = .terminal)).length

lemma standing_snd (es : List EpisodeTranscriptEvent) :
    (standing es).2 = (es.filter (·.phase = .terminal)).length := by
  induction es using List.reverseRecOn with
  | nil => rfl
  | append_singleton es event ih =>
    rw [standing_snoc, List.filter_append, List.length_append, ← ih, advance]
    rcases hphase : event.phase with _ | _ <;> simp [hphase]

/-! ### Where an episode is -/

/-- The nodes of an attempt, from its selection to its terminal record. -/
def inside : Option EpisodeNode → Bool
  | none => false
  | some m => early.contains m || late.contains m

/-- The transcript and the bound of a run. -/
structure Bounded (max_actions : ℕ) (h : EpisodeHistory P R) (m : Option EpisodeNode)
    (s : EpisodeWorkflowState) : Prop where
  limit : s.episode_max_actions = max_actions
  sequence : (standing s.episode_transcript.events).2 = s.episode_sequence
  opened : (standing s.episode_transcript.events).1.isSome = inside m
  within : s.episode_sequence ≤ max_actions
  running : ∀ m' ∈ m, m' ≠ .episode_finish →
    s.episode_termination = none ∧ s.episode_sequence < max_actions
  ended : m = some .episode_finish ∨ m = none → s.episode_termination = some .strategy_complete ∨
    s.episode_termination = some .max_actions ∧ s.episode_sequence = max_actions ∧
      ∃ observation selection, (⟨.inr (.strategy observation), some selection⟩ :
        Exchange EpisodeGraph.Answer) ∈ h ∧ observation.transcript = s.episode_transcript

/-- The nodes that only pass the transcript on. -/
def passing (m : EpisodeNode) : Prop :=
  m ≠ .action .propose ∧ m ≠ .episode_record ∧ m ≠ .episode_preselection_finish ∧
    m ≠ .episode_finish

section
variable {D : WorkflowDependencies P R} {durable_human : R → Bool}
  {expected : EpisodeSafeguardIdentity} {s s' : EpisodeWorkflowState} {m : EpisodeNode}
  {m' : Option EpisodeNode} {h es : EpisodeHistory P R} {max_actions : ℕ}

lemma passing_edges (hm : passing m) :
    ∀ m' ∈ edges m, inside (some m') = inside (some m) ∧ m' ≠ .episode_finish := by
  obtain ⟨hpropose, hrecord, hpre, hfinish⟩ := hm
  cases m with
  | action n =>
    cases n with
    | propose => exact absurd rfl hpropose
    | _ => decide
  | episode_record => exact absurd rfl hrecord
  | episode_preselection_finish => exact absurd rfl hpre
  | episode_finish => exact absurd rfl hfinish
  | _ => decide

lemma passing_visit (hm : passing m)
    (hvisit : Along (episode_visit D durable_human expected m s) es (.ret (m', s'))) :
    (∃ m'', m' = some m'') ∧ Kept s s' := by
  cases m with
  | action n =>
    cases n with
    | propose => exact absurd rfl hm.1
    | ingest =>
      obtain ⟨rfl, hshared⟩ := edge_of_bind hvisit
      obtain ⟨w, rfl, -⟩ := along_shared hshared
      exact ⟨⟨_, rfl⟩, ⟨rfl, rfl, rfl, rfl⟩⟩
    | approval =>
      obtain ⟨-, m'', -, rfl, -, -, hkept, -⟩ := approval_visit hvisit
      exact ⟨⟨m'', rfl⟩, hkept⟩
    | _ =>
      obtain ⟨m'', -, rfl, -, -, hkept, -⟩ := shared_visit (by decide) hvisit
      exact ⟨⟨m'', rfl⟩, hkept⟩
  | episode_approval_reach =>
    obtain ⟨rfl, -, -, hkept, -⟩ := reach_visit hvisit
    exact ⟨⟨_, rfl⟩, hkept⟩
  | episode_clear =>
    obtain ⟨-, heq⟩ := along_ret hvisit
    obtain ⟨rfl, rfl⟩ := Prod.mk.inj heq
    exact ⟨⟨_, rfl⟩, ⟨rfl, rfl, rfl, rfl⟩⟩
  | episode_record => exact absurd rfl hm.2.1
  | episode_preselection_finish => exact absurd rfl hm.2.2.1
  | episode_finish => exact absurd rfl hm.2.2.2

lemma bounded_passing (hm : passing m) (hbounded : Bounded max_actions h (some m) s)
    (hvisit : Along (episode_visit D durable_human expected m s) es (.ret (m', s'))) :
    Bounded max_actions (h ++ es) m' s' := by
  obtain ⟨⟨m'', rfl⟩, hkept⟩ := passing_visit hm hvisit
  obtain ⟨hinside, hne⟩ := passing_edges hm m'' (visit_edge hvisit m'' rfl)
  have hrunning := hbounded.running m rfl hm.2.2.2
  exact {
    limit := by rw [hkept.max_actions, hbounded.limit]
    sequence := by rw [hkept.transcript, hkept.sequence, hbounded.sequence]
    opened := by rw [hkept.transcript, hbounded.opened, hinside]
    within := by rw [hkept.sequence]; exact hbounded.within
    running := fun _ _ _ => by rw [hkept.termination, hkept.sequence]; exact hrunning
    ended := by
      rintro (hend | hend)
      · exact absurd (Option.some.inj hend) hne
      · cases hend }

lemma bounded_propose (hbounded : Bounded max_actions h (some (.action .propose)) s)
    (hvisit : Along (episode_visit D durable_human expected (.action .propose) s) es
      (.ret (m', s'))) : Bounded max_actions (h ++ es) m' s' := by
  obtain ⟨hnone, hlt⟩ := hbounded.running _ rfl nofun
  rcases propose_visit hnone hvisit with ⟨rfl, rfl⟩ |
    ⟨selection, m'', n', -, rfl, hedge, hstage, hopens, -⟩
  · -- the strategy selected nothing
    exact {
      limit := hbounded.limit
      sequence := hbounded.sequence
      opened := hbounded.opened
      within := hbounded.within
      running := fun m' hm' hne => absurd (Option.some.inj hm').symm hne
      ended := fun _ => .inl rfl }
  · -- the transcript has one more open start
    obtain ⟨event, -, hphase, hevents⟩ := open_of_opens hopens
    have hne : m'' ≠ .episode_finish := by
      rintro rfl
      cases hstage
    have hinside : inside (some m'') = true := by
      have hearly := selected_early m'' hedge hne
      simp [inside, hearly]
    have hstanding : standing s'.episode_transcript.events = (some event, s.episode_sequence) := by
      rw [hevents, standing_snoc, advance, if_pos hphase, hbounded.sequence]
    exact {
      limit := by rw [hopens.max_actions, hbounded.limit]
      sequence := by rw [hstanding, hopens.sequence]
      opened := by rw [hstanding, hinside]; rfl
      within := by rw [hopens.sequence]; exact hbounded.within
      running := fun _ _ _ => by rw [hopens.termination, hopens.sequence]; exact ⟨hnone, hlt⟩
      ended := by
        rintro (hend | hend)
        · exact absurd (Option.some.inj hend) hne
        · cases hend }

lemma bounded_record (hbounded : Bounded max_actions h (some .episode_record) s)
    (hvisit : Along (episode_visit D durable_human expected .episode_record s) es
      (.ret (m', s'))) : Bounded max_actions (h ++ es) m' s' := by
  obtain ⟨hnone, hlt⟩ := hbounded.running _ rfl nofun
  obtain ⟨rfl, -, s₁, ⟨⟨started, now, result, terminal, -, -, hterminal, happend⟩, -, hsequence,
    hmax⟩, htermination, hends⟩ := record_visit hvisit
  have hphase := (terminal_fields hterminal).2.2.2.2
  have hevents := (append_same happend).2.2.2
  -- the terminal record closes the open start
  have hstanding : standing s₁.episode_transcript.events = (none, s₁.episode_sequence) := by
    rw [hevents, standing_snoc, advance, if_neg (by rw [hphase]; nofun), hbounded.sequence,
      hsequence]
  have hlimit : s₁.episode_max_actions = max_actions := hmax.trans hbounded.limit
  have hwithin : s₁.episode_sequence ≤ max_actions := by
    rw [hsequence]
    exact hlt
  rw [hnone] at htermination
  cases hends with
  | onward hlt' =>
    rw [hlimit] at hlt'
    rw [htermination]
    exact {
      limit := hlimit
      sequence := by rw [hstanding]
      opened := by rw [hstanding]; rfl
      within := hwithin
      running := fun _ _ _ => ⟨htermination, hlt'⟩
      ended := by
        rintro (hend | hend)
        · cases hend
        · cases hend }
  -- at the bound the strategy is shown the whole transcript once more
  | @bound observation selection hle htranscript hanswered =>
    rw [hlimit] at hle
    exact {
      limit := hlimit
      sequence := by rw [hstanding]
      opened := by rw [hstanding]; rfl
      within := hwithin
      running := fun m' hm' hne => absurd (Option.some.inj hm').symm hne
      ended := by
        intro _
        cases selection with
        | none => exact .inl rfl
        | some selection =>
          exact .inr ⟨rfl, le_antisymm hwithin hle, observation, selection,
            List.mem_append_right _ hanswered, htranscript⟩ }

lemma bounded_visit (hbounded : Bounded max_actions h (some m) s)
    (hvisit : Along (episode_visit D durable_human expected m s) es (.ret (m', s'))) :
    Bounded max_actions (h ++ es) m' s' := by
  -- most visits leave the transcript and the sequence alone
  by_cases hm : passing m
  · exact bounded_passing hm hbounded hvisit
  · cases m with
    | action n =>
      cases n with
      | propose => exact bounded_propose hbounded hvisit
      | _ => exact absurd (by simp [passing]) hm
    | episode_record => exact bounded_record hbounded hvisit
    | episode_preselection_finish =>
      obtain ⟨-, heq⟩ := along_ret hvisit
      obtain ⟨rfl, rfl⟩ := Prod.mk.inj heq
      exact {
        limit := hbounded.limit
        sequence := hbounded.sequence
        opened := hbounded.opened
        within := hbounded.within
        running := fun m' hm' hne => absurd (Option.some.inj hm').symm hne
        ended := fun _ => .inl rfl }
    | episode_finish =>
      obtain ⟨-, heq⟩ := along_ret hvisit
      obtain ⟨rfl, rfl⟩ := Prod.mk.inj heq
      exact {
        limit := hbounded.limit
        sequence := hbounded.sequence
        opened := hbounded.opened
        within := hbounded.within
        running := fun m' hm' => by cases hm'
        ended := fun _ =>
          (hbounded.ended (.inl rfl)).imp_right fun ⟨hmax, hseq, o, sel, hmem, ht⟩ =>
          ⟨hmax, hseq, o, sel, List.mem_append_left _ hmem, ht⟩ }
    | _ => exact absurd (by simp [passing]) hm

/-! ### The visits that are left -/

/-- The longest way from a node to the terminal record, and around to the next. -/
def height : EpisodeNode → ℕ
  | .action .ingest => 11
  | .episode_clear => 11
  | .action .collect => 10
  | .action .propose => 9
  | .action .validate => 8
  | .action .monitor => 7
  | .action .preapproval_audit => 6
  | .episode_approval_reach => 5
  | .action .approval => 4
  | .action .execute => 3
  | .action _ => 2
  | .episode_preselection_finish => 2
  | .episode_record => 1
  | .episode_finish => 1

/-- What is left of a run under the bound. -/
def rank (max_actions : ℕ) (m : Option EpisodeNode) (s : EpisodeWorkflowState) : ℕ :=
  11 * (max_actions - s.episode_sequence) + (m.map height).getD 0

lemma height_edges (hm : m ≠ .episode_record) : ∀ m' ∈ edges m, height m' < height m := by
  cases m with
  | action n => cases n <;> decide
  | episode_record => exact absurd rfl hm
  | _ => decide

/-- Only the terminal record moves the sequence on. -/
lemma sequence_of_visit (hbounded : Bounded max_actions h (some m) s)
    (hvisit : Along (episode_visit D durable_human expected m s) es (.ret (m', s'))) :
    m ≠ .episode_record ∧ s'.episode_sequence = s.episode_sequence ∨
      m = .episode_record ∧ s'.episode_sequence = s.episode_sequence + 1 := by
  by_cases hrecord : m = .episode_record
  · subst hrecord
    obtain ⟨-, -, s₁, ⟨-, -, hsequence, -⟩, -, hends⟩ := record_visit hvisit
    refine .inr ⟨rfl, ?_⟩
    cases hends <;> exact hsequence
  · refine .inl ⟨hrecord, ?_⟩
    by_cases hm : passing m
    · exact (passing_visit hm hvisit).2.sequence
    · cases m with
      | action n =>
        cases n with
        | propose =>
          obtain ⟨hnone, -⟩ := hbounded.running _ rfl nofun
          rcases propose_visit hnone hvisit with ⟨-, rfl⟩ | ⟨_, _, _, -, -, -, -, hopens, -⟩
          · rfl
          · exact hopens.sequence
        | _ => exact absurd (by simp [passing]) hm
      | episode_record => exact absurd rfl hrecord
      | episode_preselection_finish =>
        obtain ⟨-, heq⟩ := along_ret hvisit
        obtain ⟨-, rfl⟩ := Prod.mk.inj heq
        rfl
      | episode_finish =>
        obtain ⟨-, heq⟩ := along_ret hvisit
        obtain ⟨-, rfl⟩ := Prod.mk.inj heq
        rfl
      | _ => exact absurd (by simp [passing]) hm

lemma rank_edge (hm : m ≠ .episode_record) (hseq : s'.episode_sequence = s.episode_sequence)
    (hvisit : Along (episode_visit D durable_human expected m s) es (.ret (m', s')))
    (hpositive : 0 < height m) : rank max_actions m' s' < rank max_actions (some m) s := by
  unfold rank
  rw [hseq]
  cases m' with
  | none =>
    simp only [Option.map_none, Option.getD_none, Option.map_some, Option.getD_some]
    omega
  | some m' =>
    have hlower := height_edges hm m' (visit_edge hvisit m' rfl)
    simp only [Option.map_some, Option.getD_some]
    omega

lemma rank_lower (hbounded : Bounded max_actions h (some m) s)
    (hvisit : Along (episode_visit D durable_human expected m s) es (.ret (m', s'))) :
    rank max_actions m' s' < rank max_actions (some m) s := by
  have hpositive : 0 < height m := by
    cases m with
    | action n => cases n <;> decide
    | _ => decide
  rcases sequence_of_visit hbounded hvisit with ⟨hrecord, hseq⟩ | ⟨rfl, hseq⟩
  · exact rank_edge hrecord hseq hvisit hpositive
  · obtain ⟨-, hlt⟩ := hbounded.running _ rfl nofun
    obtain ⟨rfl, -⟩ := record_visit hvisit
    unfold rank
    rw [hseq]
    split <;> simp only [Option.map_some, Option.getD_some, height] <;> omega

end

/-! ### Whole runs -/

section
variable {D : WorkflowDependencies P R} {durable_human : R → Bool}
  {expected : EpisodeSafeguardIdentity} {r : Root} {t₀ : EpisodeTranscript} {max_actions : ℕ}
  {s₀ s : EpisodeWorkflowState} {m : Option EpisodeNode} {h : EpisodeHistory P R}

lemma keeps_bounded (hs₀ : Started expected r t₀ max_actions s₀) :
    Keeps (episode_workflow D durable_human expected) s₀ (Bounded max_actions) where
  start := by
    have hstanding : standing s₀.episode_transcript.events = (none, 0) := by
      rw [hs₀.transcript, hs₀.events]
      rfl
    exact {
      limit := hs₀.limit
      sequence := by rw [hstanding, hs₀.sequence]
      opened := by rw [hstanding]; rfl
      within := by rw [hs₀.sequence]; exact Nat.zero_le _
      running := fun _ _ _ => by rw [hs₀.sequence]; exact ⟨hs₀.termination, hs₀.bounds.1⟩
      ended := by
        rintro (hend | hend)
        · cases hend
        · cases hend }
  visited := bounded_visit

/-- The transcript of a run: closed attempts numbered from nothing on, and inside of an attempt its
start; as many of them as the bound allows; and at the end the reason why, which is the bound only
if that many attempts were recorded and the strategy, shown all of them, still selected an
action. -/
structure Transcribed (max_actions : ℕ) (h : EpisodeHistory P R) (m : Option EpisodeNode)
    (s : EpisodeWorkflowState) : Prop where
  shape : s.episode_transcript.events.map (fun event => (event.sequence, event.phase)) =
    rounds s.episode_sequence ++ if inside m then [(s.episode_sequence, .started)] else []
  within : s.episode_sequence ≤ max_actions
  attempted : inside m = true → s.episode_sequence < max_actions
  ended : m = some .episode_finish ∨ m = none → s.episode_termination = some .strategy_complete ∨
    s.episode_termination = some .max_actions ∧ s.episode_sequence = max_actions ∧
      ∃ observation selection, (⟨.inr (.strategy observation), some selection⟩ :
        Exchange EpisodeGraph.Answer) ∈ h ∧ observation.transcript = s.episode_transcript

lemma Bounded.transcribed {h' : EpisodeHistory P R} (hbounded : Bounded max_actions h' m s)
    (hsub : List.Sublist h' h) : Transcribed max_actions h m s where
  shape := by
    rw [shape_of_ordered _ s.episode_transcript.ordered, hbounded.sequence, ← hbounded.opened]
    cases (standing s.episode_transcript.events).1 <;> rfl
  within := hbounded.within
  attempted hinside := by
    cases m with
    | none => cases hinside
    | some m =>
      refine (hbounded.running m rfl ?_).2
      rintro rfl
      cases hinside
  ended hend := (hbounded.ended hend).imp_right fun ⟨hmax, hseq, o, selection, hmem, ht⟩ =>
    ⟨hmax, hseq, o, selection, hsub.subset hmem, ht⟩

/-- **Episodes are bounded.** In every run, whatever is lost and made again and whatever the
strategy and the dependencies answer, the transcript is well formed; and whatever nodes the run has
visited, no more than eleven visits an action, and eleven more, were completed. -/
theorem episode_bounded
    (hstart : start_episode expected r.incident r.caller r.context t₀ max_actions = .ok s₀)
    (hrun : Run (episode_workflow D durable_human expected) s₀ h m s) :
    Transcribed max_actions h m s ∧
      (∃ ns, Visited (episode_workflow D durable_human expected) s₀ ns h m s) ∧
      ∀ ns, Visited (episode_workflow D durable_human expected) s₀ ns h m s →
        ns.length ≤ 11 * max_actions + 11 := by
  have hs₀ := started_of_start hstart
  obtain ⟨ms, h', hsub, hdirect⟩ := hrun.direct
  refine ⟨((keeps_bounded hs₀).direct hdirect).transcribed hsub, hrun.visited,
    fun ns hvisited => ?_⟩
  obtain ⟨h', -, hdirect⟩ := hvisited.direct
  have hlength := (keeps_bounded hs₀).length_le (rank max_actions) rank_lower hdirect
  have hfirst : rank max_actions (some (.action .ingest)) s₀ = 11 * max_actions + 11 := by
    simp [rank, hs₀.sequence, height]
  exact le_trans (Nat.le_add_right _ _) (hlength.trans hfirst.le)

end

/-- Two actions, under a strategy that never stops, and two visits that were lost. -/
theorem episode_bounded_twice :
    labEpisodeRun.2.2.episode_termination = some .max_actions ∧
      Transcribed 2 labEpisodeRun.1 labEpisodeRun.2.1 labEpisodeRun.2.2 ∧
      (∃ ns, Visited labGraph labEpisode ns labEpisodeRun.1 labEpisodeRun.2.1
        labEpisodeRun.2.2) ∧
      ∀ ns, Visited labGraph labEpisode ns labEpisodeRun.1 labEpisodeRun.2.1
        labEpisodeRun.2.2 → ns.length ≤ 11 * 2 + 11 :=
  ⟨by decide +kernel, episode_bounded lab_start lab_episode_run⟩

end IncidentGate.EpisodeTranscripts
