import IncidentGate.WorkflowGates

/-!
The monitor as the workflow has it: what a call makes of a consultation, what the node writes of the
call, and that the run goes on from there to a result.
-/

namespace IncidentGate.MonitorBoundary

open Lib.ScriptTree Lib.Checkpoint Contracts SabotageRows Workflow WorkflowGates
open MonitorInputs (MonitorInput MonitorConsultation ProjectionError)
open MonitorCaller (Uncaught Observed MonitorOutcome MonitorThresholds MonitorSchemas Decoders
  Client Rendering StructuredMonitorCaller StructuredMonitorCallerV3 Bounded Readable Usable)
open MonitorWiring (World SemanticAdvisoryMonitor)

variable {P R : Type}

/-! ### The monitors -/

/-- A monitor of the second generation, as the node consults it. -/
abbrev Advisory := MonitorConsultation → Except Uncaught Consulted

/-- What a monitor that exposes its observation returns, its assessment wrapped for the node. -/
def exposed {A : Type} (wrap : A → MonitorAssessment) (observed : Observed A) :
    Except Uncaught Consulted :=
  observed.outcome.map fun outcome =>
    ⟨outcome.map wrap, some (observed.last_input_hash.map (·.1), observed.last_invocation)⟩

section
variable (S : MonitorSchemas) (C : Decoders) (client : Client) {I : Type} (render : Rendering I)
  (project : MonitorConsultation → Except ProjectionError I) (caller : StructuredMonitorCaller)

/-- `SemanticAdvisoryMonitor`, over any projection to its input. -/
def advisory : Advisory := fun consultation =>
  exposed .v2 (MonitorCaller.assess_consultation render.render
    (caller.assess S render C client) (project consultation))

end

/-- `SemanticAdvisoryMonitorV3`, which binds its assessment itself. -/
def advisoryV3 (W : World) (monitor : SemanticAdvisoryMonitor) (thresholds : MonitorThresholds) :
    Advisory := fun consultation =>
  exposed (fun a => .own (MonitorCaller.bind_result a.assessment a.evaluated_action_fingerprint
    consultation.action thresholds)) (monitor.assess_consultation W consultation)

/-! ### The node -/

section
variable (monitor : Advisory)

/-- A consultation raises where the monitor does. -/
def raises : Question P R → Prop
  | .assess_consultation consultation => ∃ e, monitor consultation = .error e
  | _ => False

/-- The factory is the runtime's, the monitor answers for itself, and a decision validates; every
other dependency may answer anything. -/
def answers : ∀ q : Question P R, q.Answer → Prop
  | .build_consultation facts, answer => answer = some facts
  | .assess_consultation consultation, answer => monitor consultation = .ok answer
  | .request .., answer => answer.isSome = true
  | _, _ => True

def environment : Environment (Question.Answer (P := P) (R := R)) :=
  ⟨raises monitor, answers monitor⟩

/-- One of a verdict bound to the action and an error, and never both. -/
def OneWritten (action : CanonicalAction) (s : WorkflowState) : Prop :=
  s.monitor.isSome = (!s.monitor_error.isSome) ∧
    ∀ m ∈ s.monitor, m.evaluated_action_hash = canonical_action_hash action

/-- From the node on the run ends with a result, whatever it is answered. -/
def Concludes (D : WorkflowDependencies P R) (visits : ℕ) (n : Option Node) (s : WorkflowState) :
    Prop :=
  (workflow D).Ends (environment monitor) (fun s => s.result.isSome = true) visits n s

/-- The node writes one of a bound verdict and an error, and the run goes on from it, whatever the
other dependencies answer, to a result. -/
structure NodeBounded (D : WorkflowDependencies P R) (r : Root) (j : Judgement) : Prop where
  writes : Completes (environment monitor) (fun v => OneWritten j.action v.2)
    (visit D .monitor (j.state D own_key r))
  ends : Concludes monitor D 5 (some .monitor) (j.state D own_key r)

end

/-- The consultation is projected or refused, and what an input that renders is answered with is a
body that the caller reads or rejects. -/
structure Answerable {I : Type} (project : MonitorConsultation → Except ProjectionError I)
    (render : I → Except String String) (readable : I → Prop) (consultation : MonitorConsultation) :
    Prop where
  projected : ∀ message, project consultation ≠ .error (.RuntimeError message)
  readable : ∀ i, project consultation = .ok i → (∃ text, render i = .ok text) → readable i

lemma exposed_iff {I A : Type} {wrap : A → MonitorAssessment} {render : I → Except String String}
    {assess : I → Except Uncaught (MonitorOutcome A) × MonitorCaller.CallerState}
    {project : MonitorConsultation → Except ProjectionError I} {readable : I → Prop}
    (hassess : ∀ i, (∃ outcome, (assess i).1 = .ok outcome) ↔ readable i)
    (consultation : MonitorConsultation) :
    (∃ answer, exposed wrap (MonitorCaller.assess_consultation render assess
        (project consultation)) = .ok answer) ↔
      Answerable project render readable consultation := by
  have hexposed : ∀ observed : Observed A, (∃ answer, exposed wrap observed = .ok answer) ↔
      ∃ outcome, observed.outcome = .ok outcome := by
    rintro ⟨outcome, input_hash, invocation⟩
    cases outcome <;> simp [exposed, Except.map]
  rw [hexposed]
  -- what cannot be projected or rendered is reported, unless the read itself raised
  rcases hproject : project consultation with (_ | _ | message) | i
  · exact iff_of_true ⟨_, rfl⟩ ⟨by simp [hproject], by simp [hproject]⟩
  · exact iff_of_true ⟨_, rfl⟩ ⟨by simp [hproject], by simp [hproject]⟩
  · refine iff_of_false (by simp [MonitorCaller.assess_consultation]) fun h => ?_
    exact h.projected message hproject
  · rcases hrender : render i with e | text
    · refine iff_of_true ⟨.failed .INPUT_UNRENDERABLE,
        by simp [MonitorCaller.assess_consultation, hrender]⟩ ⟨by simp [hproject], ?_⟩
      rintro _ hi ⟨text, htext⟩
      obtain rfl := Except.ok.inj (hproject.symm.trans hi)
      cases hrender.symm.trans htext
    · simp only [MonitorCaller.assess_consultation, hrender, hassess]
      refine ⟨fun h => ⟨by simp [hproject], ?_⟩, fun h => h.readable i hproject ⟨text, hrender⟩⟩
      rintro _ hi -
      obtain rfl := Except.ok.inj (hproject.symm.trans hi)
      exact h

/-! ### What the nodes complete -/

section
variable {monitor : Advisory} {α : Type}

@[simp] lemma completes_need {o : Option α} {C : α → Prop} :
    Completes (environment (P := P) (R := R) monitor) C (need o) ↔ ∃ a, o = some a ∧ C a := by
  cases o <;> simp [need]

@[simp] lemma completes_scenario_span {s : WorkflowState} {C : Unit → Prop} :
    Completes (environment (P := P) (R := R) monitor) C (scenario_span s) ↔
      s.incident.scenario_id ∈ ACTION_TAKING_SCENARIOS ∧ C () := by
  by_cases hs : s.incident.scenario_id ∈ ACTION_TAKING_SCENARIOS <;>
    simp [scenario_span, refuse, hs]

@[simp] lemma completes_emit {transition incident_id thread_id reason : String}
    {action_hash : Option ActionHash} {C : Unit → Prop} :
    Completes (environment (P := P) (R := R) monitor) C
      (emit transition incident_id thread_id action_hash reason) ↔ C () := by
  simp only [emit, Script.bind_eq, Ask.clock, Ask.emit, Script.bind_ask, Script.bind_ret,
    completes_ask, completes_ret, environment, raises, answers, not_false_eq_true, true_and,
    forall_const]
  exact ⟨fun h => h (0 : Int) (), fun h _ _ => h⟩

@[simp] lemma completes_audit {s : WorkflowState} {transition reason : String} {C : Unit → Prop} :
    Completes (environment (P := P) (R := R) monitor) C (audit s transition reason) ↔ C () :=
  completes_emit

end

/-! ### From the monitor to a result -/

section
variable {monitor : Advisory} {D : WorkflowDependencies P R} {r : Root} {e : Hearing} {visits : ℕ}

lemma concludes_some {n : Node} {s : WorkflowState} :
    Concludes monitor D (visits + 1) (some n) s ↔ Completes (environment monitor)
      (fun v => Concludes monitor D visits v.1 v.2) (visit D n s) := .rfl

lemma concludes_none {s : WorkflowState} (hs : s.result.isSome = true) :
    Concludes monitor D visits none s := Graph.ends_none.mpr hs

lemma completes_stopped {reasons : List String} {hreasons : reasons ≠ []}
    {m : Option MonitorCaller.MonitorResult} {approval : Option HumanDecision}
    {C : WorkflowResult → Prop} :
    Completes (environment (P := P) (R := R) monitor) C
      (stopped (e.state D own_key r) reasons hreasons m approval) ↔
        C (e.stop own_key r reasons hreasons m approval) := .rfl

lemma concludes_deny : Concludes monitor D (visits + 1) (some .deny) (e.state D own_key r) := by
  simp only [concludes_some, visit, deny, Script.bind_eq, Script.pure_eq, completes_bind,
    completes_need, completes_audit, completes_stopped, completes_ret]
  exact ⟨_, rfl, concludes_none rfl⟩

lemma concludes_monitor_mismatch :
    Concludes monitor D (visits + 1) (some .monitor_mismatch) (e.state D own_key r) := by
  simp only [concludes_some, visit, monitor_mismatch, Script.bind_eq, Script.pure_eq,
    completes_bind, completes_audit, completes_stopped, completes_ret]
  exact concludes_none rfl

lemma concludes_monitor_error (herror : e.observation.monitor_error.isSome = true) :
    Concludes monitor D (visits + 1) (some .monitor_error) (e.state D own_key r) := by
  obtain ⟨error, herror⟩ := Option.isSome_iff_exists.mp herror
  simp only [concludes_some, visit, monitor_error_terminal, Script.bind_eq, Script.pure_eq,
    completes_bind, completes_need, completes_audit, completes_stopped, completes_ret]
  exact ⟨error, herror, concludes_none rfl⟩

lemma concludes_blocked (hmonitor : e.observation.monitor.isSome = true) :
    Concludes monitor D (visits + 1) (some .blocked) (e.state D own_key r) := by
  obtain ⟨m, hm⟩ := Option.isSome_iff_exists.mp hmonitor
  simp only [concludes_some, visit, blocked, Script.bind_eq, Script.pure_eq, completes_bind,
    completes_need, completes_audit, completes_stopped, completes_ret]
  exact ⟨m, hm, concludes_none rfl⟩

/-- The state of an action that an authorizer approved. -/
def approved (D : WorkflowDependencies P R) (r : Root) (e : Hearing) (human : HumanDecision) :
    WorkflowState :=
  { e.state D own_key r with human := some human }

lemma concludes_verify (hscenario : r.incident.scenario_id ∈ ACTION_TAKING_SCENARIOS)
    (human : HumanDecision) (operation : OperationLedgerResult) :
    Concludes monitor D (visits + 1) (some .verify)
      { approved D r e human with operation := some operation } := by
  simp only [concludes_some, visit, verify, Script.bind_eq, Script.pure_eq, completes_bind,
    completes_need, completes_scenario_span]
  refine ⟨_, rfl, _, rfl, hscenario, _, rfl, not_false, fun verification _ => ?_⟩
  simp only [completes_ret, completes_emit]
  exact ⟨_, rfl, _, rfl, _, rfl, concludes_none rfl⟩

lemma concludes_execute (hscenario : r.incident.scenario_id ∈ ACTION_TAKING_SCENARIOS)
    {human : HumanDecision} (htoken : human.token.isSome = true) :
    Concludes monitor D (visits + 2) (some .execute) (approved D r e human) := by
  obtain ⟨token, htoken⟩ := Option.isSome_iff_exists.mp htoken
  simp only [concludes_some, visit, execute, execute_call, Script.bind_eq, Script.pure_eq,
    completes_bind, completes_need]
  refine ⟨_, rfl, _, rfl, human, rfl, _, rfl, ?_⟩
  rw [htoken]
  refine ⟨not_false, fun operation _ => ?_⟩
  simp only [execute_record, Script.bind_eq, Script.pure_eq, completes_ret, completes_bind,
    completes_need, completes_emit]
  exact ⟨_, rfl, _, rfl, concludes_verify hscenario human operation⟩

lemma concludes_declined {human : HumanDecision} {reason audited : String} :
    Completes (environment (P := P) (R := R) monitor)
      (fun s =>
        Concludes monitor D visits (unless_result .execute s).1 (unless_result .execute s).2)
      (declined (e.state D own_key r) human reason audited) := by
  simp only [declined, Script.bind_eq, Script.pure_eq, completes_bind, completes_audit,
    completes_stopped, completes_ret]
  exact concludes_none rfl

lemma concludes_approval (hscenario : r.incident.scenario_id ∈ ACTION_TAKING_SCENARIOS) :
    Concludes monitor D (visits + 3) (some .approval) (e.state D own_key r) := by
  simp only [concludes_some, visit, approval_with, Script.bind_eq, Script.pure_eq, completes_bind,
    completes_need, completes_scenario_span]
  refine ⟨hscenario, _, rfl, _, rfl, not_false, fun payload hpayload => ?_⟩
  obtain ⟨human, rfl⟩ := Option.isSome_iff_exists.mp hpayload
  show Completes _ _ (decided (e.state D own_key r) e.policy e.action human)
  unfold decided
  -- every way to decline ends the run, and what is left is an approval with its token
  split
  · exact concludes_declined
  · split
    · exact concludes_declined
    · split
      · exact concludes_declined
      · rename_i token htoken
        split
        · exact concludes_declined
        · refine ⟨not_false, fun now _ => ⟨not_false, fun verdict _ => ?_⟩⟩
          show Completes _ _ (ite _ _ _)
          split
          · simp only [Script.bind_eq, Script.pure_eq, completes_bind, completes_audit,
              completes_ret]
            exact concludes_execute hscenario (by simp [htoken])
          · exact concludes_declined

lemma concludes_preapproval_audit (hscenario : r.incident.scenario_id ∈ ACTION_TAKING_SCENARIOS) :
    Concludes monitor D (visits + 4) (some .preapproval_audit) (e.state D own_key r) := by
  simp only [concludes_some, visit, preapproval_audit, Script.bind_eq, Script.pure_eq,
    completes_bind, completes_audit]
  split
  · simp only [completes_bind, completes_audit, completes_ret]
    exact concludes_approval hscenario
  · simp only [completes_bind, completes_audit, completes_ret]
    exact concludes_approval hscenario
  · exact concludes_approval hscenario

/-- Whatever the monitor's node leaves, its route leads to a result. -/
lemma concludes_routed (hscenario : r.incident.scenario_id ∈ ACTION_TAKING_SCENARIOS) :
    Completes (environment monitor)
      (fun route => Concludes monitor D (visits + 4) (Route.target route) (e.state D own_key r))
      (after_monitor D (e.state D own_key r)) := by
  have hresult : (e.state D own_key r).result.isSome = false := rfl
  simp only [after_monitor, hresult, Bool.false_eq_true, if_false, Script.bind_eq, Script.pure_eq,
    completes_bind, completes_need, completes_ret]
  refine ⟨e.policy, rfl, ?_⟩
  split
  · exact concludes_deny
  · split
    · exact concludes_monitor_mismatch
    · split
      · rename_i herror
        obtain ⟨error, herror, -⟩ := (Option.any_eq_true ..).mp herror.1
        exact concludes_monitor_error (Option.isSome_of_mem herror)
      · split
        · rename_i hblock
          obtain ⟨m, hm, -⟩ := (Option.any_eq_true ..).mp hblock.1
          exact concludes_blocked (Option.isSome_of_mem hm)
        · exact concludes_preapproval_audit hscenario

end

/-! ### What the monitor's node writes -/

/-- What the node binds is of the action that it was asked about, and what it exposes is a hash. -/
structure Binds (monitor : Advisory) (thresholds : MonitorThresholds) : Prop where
  bound : ∀ {consultation answer}, monitor consultation = .ok answer →
    ∀ a ∈ answer.outcome.assessment, ∀ m, a.bind_result consultation.action thresholds = .ok m →
      m.evaluated_action_hash = canonical_action_hash consultation.action
  exposed : ∀ {consultation answer}, monitor consultation = .ok answer →
    ∀ o ∈ answer.observation, o.1.all isActionHash = true

lemma exposed_hash {A : Type} {wrap : A → MonitorAssessment} {observed : Observed A}
    {answer : Consulted} (h : exposed wrap observed = .ok answer) :
    ∀ o ∈ answer.observation, o.1.all isActionHash = true := by
  obtain ⟨outcome | outcome, input_hash, invocation⟩ := observed
  · cases h
  · obtain rfl := Except.ok.inj h
    rintro o ho
    obtain rfl := Option.some.inj ho
    cases input_hash with
    | none => rfl
    | some input_hash => simpa using input_hash.2

lemma exposed_assessment {A : Type} {wrap : A → MonitorAssessment} {observed : Observed A}
    {answer : Consulted} (h : exposed wrap observed = .ok answer) :
    ∀ a ∈ answer.outcome.assessment, ∃ b, a = wrap b := by
  obtain ⟨outcome | outcome, input_hash, invocation⟩ := observed
  · cases h
  · obtain rfl := Except.ok.inj h
    rintro a ha
    obtain ⟨b, -, rfl⟩ := Option.map_eq_some_iff.mp ha
    exact ⟨b, rfl⟩

section
variable {monitor : Advisory} {D : WorkflowDependencies P R} {r : Root} {j : Judgement}
  {thresholds : MonitorThresholds}

/-- The node completes exactly if its monitor answers and what the answer leaves is written. -/
lemma completes_monitor {C : WorkflowState → Prop}
    (hscenario : r.incident.scenario_id ∈ ACTION_TAKING_SCENARIOS)
    (hconsults : D.safeguards.consults_monitor = true) (hdenied : ¬j.Denied D)
    (hmonitor : D.monitor = .v2 thresholds) :
    Completes (environment monitor) C (Workflow.monitor D (j.state D own_key r)) ↔
      (∃ answer, monitor (j.facts D r) = .ok answer) ∧
        ∀ answer, monitor (j.facts D r) = .ok answer → Completes (environment (P := P) (R := R)
          monitor) C (consulted thresholds answer j.action (j.state D own_key r)) := by
  have hresult : (j.state D own_key r).result.isSome = false := rfl
  have hasked : (¬∃ e, monitor (j.facts D r) = .error e) ↔
      ∃ answer, monitor (j.facts D r) = .ok answer := by
    cases monitor (j.facts D r) <;> simp
  unfold Judgement.Denied at hdenied
  simp only [Workflow.monitor, hresult, Bool.false_eq_true, if_false, Script.bind_eq,
    Script.pure_eq, completes_bind, completes_need]
  constructor
  · rintro ⟨_, ⟨⟩, policy, hpolicy, h⟩
    obtain rfl : j.policy = policy := Option.some.inj hpolicy
    rw [hconsults, if_neg (by simp), if_neg hdenied] at h
    simp only [completes_bind, completes_scenario_span, completes_need, hmonitor] at h
    obtain ⟨-, _, ⟨⟩, _, ⟨⟩, -, hbuilt⟩ := h
    obtain ⟨hraises, hanswered⟩ := hbuilt (some (j.facts D r)) rfl
    exact ⟨hasked.mp hraises, hanswered⟩
  · rintro ⟨hreturns, hanswered⟩
    refine ⟨_, rfl, j.policy, rfl, ?_⟩
    rw [hconsults, if_neg (by simp), if_neg hdenied]
    simp only [completes_bind, completes_scenario_span, completes_need, hmonitor]
    refine ⟨hscenario, _, rfl, _, rfl, not_false, ?_⟩
    rintro _ rfl
    exact ⟨hasked.mpr hreturns, hanswered⟩

lemma completes_consulted {C : WorkflowState → Prop} {answer : Consulted}
    (hbinds : Binds monitor thresholds) (hanswer : monitor (j.facts D r) = .ok answer)
    (hC : ∀ o : Observation, OneWritten j.action ((Hearing.mk j o).state D own_key r) →
      C ((Hearing.mk j o).state D own_key r)) :
    Completes (environment (P := P) (R := R) monitor) C
      (consulted thresholds answer j.action (j.state D own_key r)) := by
  -- what the observation adds is written, since what the monitor exposes is a hash
  have hsemantic : ∀ m e, OneWritten j.action (Hearing.state D own_key r ⟨j, m, e, none, none⟩) →
      Completes (environment (P := P) (R := R) monitor) C
        (semantic_observation answer (Hearing.state D own_key r ⟨j, m, e, none, none⟩)) := by
    intro m e hone
    unfold semantic_observation
    split
    · exact hC ⟨m, e, none, none⟩ hone
    · rename_i input_hash invocation hsome
      have hhash : input_hash.any (fun value => !isActionHash value) = false := by
        have hall := hbinds.exposed hanswer _ hsome
        cases input_hash with
        | none => rfl
        | some value => simpa using hall
      simp only [hhash, refuse, Bool.false_eq_true, if_false, Script.bind_eq, completes_bind,
        completes_ret]
      exact hC ⟨m, e, input_hash, invocation⟩ hone
  have hunjudged : ∀ e,
      OneWritten j.action (Hearing.state D own_key r ⟨j, none, some e, none, none⟩) :=
    fun _ => ⟨rfl, fun m hm => absurd hm (Option.not_mem_none m)⟩
  unfold consulted
  split
  · rename_i kind _ _
    exact hsemantic none (some kind.value) (hunjudged _)
  · rename_i assessment _ hassessment
    split
    · exact hsemantic none (some "echo_mismatch") (hunjudged _)
    · rename_i result hresult
      refine hsemantic (some result) none ⟨rfl, fun m hm => ?_⟩
      obtain rfl := Option.some.inj hm
      exact hbinds.bound hanswer assessment hassessment _ hresult
  · rename_i hnofailure hnoassessment
    -- an outcome is assessed or failed
    obtain ⟨hassessed, hfailed⟩ := answer.outcome.payload_ok
    cases hcase : answer.outcome.assessed with
    | true =>
      obtain ⟨a, ha⟩ := Option.isSome_iff_exists.mp (hassessed.symm.trans hcase)
      exact absurd ha (hnoassessment a hcase)
    | false =>
      obtain ⟨kind, hkind⟩ := Option.isSome_iff_exists.mp
        (hfailed.symm.trans (by rw [hcase]; rfl))
      exact absurd hkind (hnofailure kind hcase)

/-- The node is bounded exactly if its monitor answers. -/
lemma node_iff (hbinds : Binds monitor thresholds)
    (hscenario : r.incident.scenario_id ∈ ACTION_TAKING_SCENARIOS)
    (hconsults : D.safeguards.consults_monitor = true) (hdenied : ¬j.Denied D)
    (hmonitor : D.monitor = .v2 thresholds) :
    NodeBounded monitor D r j ↔ ∃ answer, monitor (j.facts D r) = .ok answer := by
  have hvisit : ∀ C : Option Node × WorkflowState → Prop,
      Completes (environment monitor) C (visit D .monitor (j.state D own_key r)) ↔
        Completes (environment monitor) (fun s => Completes (environment monitor)
          (fun route => C (Route.target route, s)) (after_monitor D s))
          (Workflow.monitor D (j.state D own_key r)) := fun C => by
    simp only [visit, Script.bind_eq, Script.pure_eq, completes_bind, completes_ret]
  constructor
  · rintro ⟨hwrites, -⟩
    exact ((completes_monitor hscenario hconsults hdenied hmonitor).mp
      ((hvisit _).mp hwrites)).1
  · intro hreturns
    have hroute : ∀ {C : WorkflowState → Prop}, (∀ o : Observation,
        OneWritten j.action ((Hearing.mk j o).state D own_key r) →
          C ((Hearing.mk j o).state D own_key r)) →
        Completes (environment monitor) C (Workflow.monitor D (j.state D own_key r)) :=
      fun hC => (completes_monitor hscenario hconsults hdenied hmonitor).mpr
        ⟨hreturns, fun answer hanswer => completes_consulted hbinds hanswer hC⟩
    refine ⟨(hvisit _).mpr (hroute fun o hone => ?_), concludes_some.mpr ((hvisit _).mpr
      (hroute fun o _ => concludes_routed hscenario))⟩
    have hends : Completes (environment monitor)
        (fun route => Concludes monitor D (0 + 4) (Route.target route)
          ((Hearing.mk j o).state D own_key r))
        (after_monitor D ((Hearing.mk j o).state D own_key r)) := concludes_routed hscenario
    exact hends.mono fun _ _ => hone

end

/-! ### The monitors answer -/

section
variable (S : MonitorSchemas) (C : Decoders) (client : Client) {I : Type} (render : Rendering I)
  (project : MonitorConsultation → Except ProjectionError I) (caller : StructuredMonitorCaller)
  (thresholds : MonitorThresholds)

lemma advisory_binds : Binds (advisory S C client render project caller) thresholds where
  bound {consultation answer} hanswer a ha m hm := by
    obtain ⟨b, rfl⟩ := exposed_assessment hanswer a ha
    exact MonitorCaller.bind_result_ok hm
  exposed hanswer := exposed_hash hanswer

end

lemma advisoryV3_binds (W : World) (monitor : SemanticAdvisoryMonitor)
    (own thresholds : MonitorThresholds) : Binds (advisoryV3 W monitor own) thresholds where
  bound {consultation answer} hanswer a ha m hm := by
    obtain ⟨b, rfl⟩ := exposed_assessment hanswer a ha
    exact MonitorCaller.bind_result_ok hm
  exposed hanswer := exposed_hash hanswer

/-! ### The boundary -/

/-- A run has come to the monitor with an action that the monitor is consulted on. -/
structure Reached (D : WorkflowDependencies P R) (thresholds : MonitorThresholds) (r : Root)
    (h : History P R) (j : Judgement) : Prop where
  run : Run (workflow D) r.state h (some .monitor) (j.state D own_key r)
  monitor : D.monitor = .v2 thresholds
  consults : D.safeguards.consults_monitor = true
  undenied : ¬j.Denied D

lemma Reached.scenario {D : WorkflowDependencies P R} {thresholds : MonitorThresholds} {r : Root}
    {h : History P R} {j : Judgement} (hreached : Reached D thresholds r h j) :
    r.incident.scenario_id ∈ ACTION_TAKING_SCENARIOS := by
  have hposition := (holds_of_run hreached.run).position
  generalize hs : j.state D own_key r = s at hposition
  cases hposition with
  | unevidenced =>
    -- a refusal of the evidence left a result
    cases congrArg WorkflowState.result hs
  | monitor hj => exact hj.scenario
  | stopped _ _ hn => simp at hn

/-- The call of either caller is bounded, and so is the node that consults either monitor, exactly
if the projection reads the fixture's row and what the client returns for an input that renders is a
body that the caller reads or rejects. -/
theorem monitor_boundary_iff {I : Type} (W : World) (render : Rendering I)
    (project : MonitorConsultation → Except ProjectionError I) (caller : StructuredMonitorCaller)
    (monitor : SemanticAdvisoryMonitor) (own : MonitorThresholds) (D : WorkflowDependencies P R)
    (thresholds : MonitorThresholds) (r : Root) (h : History P R) (j : Judgement)
    (hreached : Reached D thresholds r h j) :
    (∀ shown, (∃ outcome, Bounded (·.evaluated_action_fingerprint)
        (caller.assess W.schemas render W.decoders W.client)
        (Usable W.decoders (caller.build_request W.schemas render) W.client
          (fun points => (W.decoders.validate_v2 points).isSome) shown)
        (render.action_fingerprint shown) shown outcome) ↔
      Readable W.decoders (caller.build_request W.schemas render) W.client shown) ∧
    (∀ shown, (∃ outcome, Bounded (·.evaluated_action_fingerprint)
        (monitor.caller.assess W.schemas W.decoders W.client)
        (Usable W.decoders (monitor.caller.build_request W.schemas) W.client
          (fun points => (W.decoders.validate_v3 points).isSome) shown)
        shown.action_fingerprint shown outcome) ↔
      Readable W.decoders (monitor.caller.build_request W.schemas) W.client shown) ∧
    (NodeBounded (advisory W.schemas W.decoders W.client render project caller) D r j ↔
      Answerable project render.render
        (Readable W.decoders (caller.build_request W.schemas render) W.client) (j.facts D r)) ∧
    (NodeBounded (advisoryV3 W monitor own) D r j ↔
      Answerable (monitor.projected W) (MonitorInputs.render monitor.input_version)
        (Readable W.decoders (monitor.caller.build_request W.schemas) W.client) (j.facts D r)) := by
  have hv2 := caller.returns_iff W.schemas W.decoders W.client render
  have hv3 := monitor.caller.returns_iff W.schemas W.decoders W.client
  have hnode : ∀ {A : Advisory}, Binds A thresholds →
      (NodeBounded A D r j ↔ ∃ answer, A (j.facts D r) = .ok answer) := fun hbinds =>
    node_iff hbinds hreached.scenario hreached.consults hreached.undenied hreached.monitor
  refine ⟨fun shown => ?_, fun shown => ?_, ?_, ?_⟩
  · rw [← hv2 shown]
    exact ⟨fun ⟨outcome, hbounded⟩ => ⟨outcome, hbounded.returns⟩,
      fun ⟨outcome, houtcome⟩ => ⟨outcome, StructuredMonitorCaller.bounded _ _ _ houtcome⟩⟩
  · rw [← hv3 shown]
    exact ⟨fun ⟨outcome, hbounded⟩ => ⟨outcome, hbounded.returns⟩,
      fun ⟨outcome, houtcome⟩ => ⟨outcome, StructuredMonitorCallerV3.bounded _ _ _ houtcome⟩⟩
  · exact (hnode (advisory_binds ..)).trans (exposed_iff hv2 (j.facts D r))
  · exact (hnode (advisoryV3_binds ..)).trans (exposed_iff hv3 (j.facts D r))

/-! ### A client that does not answer -/

def labThresholds : MonitorThresholds := ⟨1, 1, [], []⟩

/-- The gates that all enforce, with a monitor of the second generation. -/
def consultingDependencies : WorkflowDependencies Unit Unit :=
  { labDependencies with monitor := .v2 labThresholds }

/-- Every call of the client times out. -/
def silentWorld : World := { Withheld.labWorld with client := fun _ => .raises .TimeoutError }

def consultedRun := (workflow consultingDependencies).follow labAnswers 4
  ([], some .ingest, labRoot.state)

lemma consulted_reached :
    ∃ j, Reached consultingDependencies labThresholds labRoot consultedRun.1 j := by
  have hrun : Run (workflow consultingDependencies) labRoot.state consultedRun.1 consultedRun.2.1
      consultedRun.2.2 := Run.start.follow labAnswers 4
  have hnode : consultedRun.2.1 = some .monitor := by decide +kernel
  have hopen : consultedRun.2.2.result.isSome = false := by decide +kernel
  have hallowed : consultedRun.2.2.policy.any (fun policy => decide (policy.decision = .DENY)) =
      false := by decide +kernel
  rw [hnode] at hrun
  have hposition := (holds_of_run hrun).position
  generalize consultedRun.2.2 = s at *
  cases hposition with
  | unevidenced => cases hopen
  | @monitor j hj =>
    refine ⟨j, hrun, rfl, rfl, fun hdenied => ?_⟩
    simp [Judgement.state, hdenied.1] at hallowed
  | stopped _ _ hn => simp at hn

/-- The call of a client that times out is answered with its error, and the run goes on. -/
theorem monitor_boundary_timeout : ∃ j,
    Reached consultingDependencies labThresholds labRoot consultedRun.1 j ∧
      NodeBounded (advisoryV3 silentWorld Withheld.labMonitor labThresholds) consultingDependencies
        labRoot j := by
  obtain ⟨j, hreached⟩ := consulted_reached
  have hboundary := monitor_boundary_iff silentWorld
    ⟨MonitorInputs.render .v3, (·.prompt_version), (·.action_fingerprint)⟩
    (Withheld.labMonitor.projected silentWorld)
    ⟨"claude-haiku-4-5", by decide +kernel, by decide +kernel⟩ Withheld.labMonitor labThresholds
    consultingDependencies labThresholds labRoot consultedRun.1 j hreached
  refine ⟨j, hreached, hboundary.2.2.2.mpr ⟨fun message hprojected => ?_, fun shown _ _ => ?_⟩⟩
  · have hstate := (MonitorInputs.project_runtime.mp hprojected).2
    cases hstate
  · rintro request - points invocation ⟨⟩

end IncidentGate.MonitorBoundary
