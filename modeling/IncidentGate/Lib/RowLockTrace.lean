import IncidentGate.Lib.RowLockLogic
import Mathlib.Data.List.Induction

/-!
What the trace of a run says about its sessions.

A session moves at its own turns only and the state at commits only, so the parts of a trace
where one session is alone are governed by the logic of a session alone.
-/

namespace IncidentGate.Lib.RowLockTrace

open ScriptTree RowLock RowLockLogic

variable {E : Engine} {ε α ι : Type} [DecidableEq ι] {progs : Prog E ε α → Prop}
  {σ σ' : System E ι ε α} {tr tr₁ tr₂ : List (Event E ι)} {i j : ι}

/-- No session starts, is lost or has a statement given up. -/
def Undisturbed (tr : List (Event E ι)) : Prop := ∀ e ∈ tr, ∃ i op, e = .turn i op

omit [DecidableEq ι] in
lemma Undisturbed.left (h : Undisturbed (tr₁ ++ tr₂)) : Undisturbed tr₁ :=
  fun e he => h e (List.mem_append_left _ he)

omit [DecidableEq ι] in
lemma Undisturbed.right (h : Undisturbed (tr₁ ++ tr₂)) : Undisturbed tr₂ :=
  fun e he => h e (List.mem_append_right _ he)

omit [DecidableEq ι] in
lemma first_turn {op : Op E} (h : Event.turn j op ∈ tr) :
    ∃ before op after, tr = before ++ .turn j op :: after ∧ ∀ op, Event.turn j op ∉ before := by
  induction tr with
  | nil => cases h
  | cons e tr ih =>
    by_cases he : ∃ op, e = .turn j op
    · obtain ⟨op, rfl⟩ := he
      exact ⟨[], op, tr, rfl, fun op => by simp⟩
    · have hmem : Event.turn j op ∈ tr :=
        (List.mem_cons.mp h).resolve_left fun h => he ⟨op, h.symm⟩
      obtain ⟨before, op, after, rfl, hbefore⟩ := ih hmem
      refine ⟨e :: before, op, after, rfl, fun op hop => ?_⟩
      rcases List.mem_cons.mp hop with hop | hop
      · exact he ⟨op, hop.symm⟩
      · exact hbefore op hop

lemma split (h : Run progs σ (tr₁ ++ tr₂) σ') :
    ∃ σ₁, Run progs σ tr₁ σ₁ ∧ Run progs σ₁ tr₂ σ' := by
  induction tr₂ using List.reverseRecOn generalizing σ' with
  | nil => exact ⟨σ', by simpa using h, .nil σ'⟩
  | append_singleton tr₂ e ih =>
    rw [← List.append_assoc] at h
    generalize htr : tr₁ ++ tr₂ ++ [e] = tr at h
    cases h with
    | nil => simp at htr
    | snoc h hs =>
      obtain ⟨rfl, hcons⟩ := List.append_inj' htr rfl
      obtain rfl := List.singleton_injective hcons
      obtain ⟨σ₁, h₁, h₂⟩ := ih h
      exact ⟨σ₁, h₁, h₂.snoc hs⟩

lemma step_of_singleton {e : Event E ι} (h : Run progs σ [e] σ') : Step progs σ e σ' := by
  generalize htr : [e] = tr at h
  cases h with
  | nil => cases htr
  | @snoc σ₁ _ tr _ h hs =>
    obtain ⟨rfl, hcons⟩ := List.append_inj' (show [] ++ [e] = tr ++ [_] from htr) rfl
    obtain rfl := List.singleton_injective hcons
    generalize htr : ([] : List (Event E ι)) = tr at h
    cases h with
    | nil => exact hs
    | snoc _ _ => simp at htr

lemma append {σ₁ : System E ι ε α} (h₁ : Run progs σ tr₁ σ₁) (h₂ : Run progs σ₁ tr₂ σ') :
    Run progs σ (tr₁ ++ tr₂) σ' := by
  induction h₂ with
  | nil => simpa using h₁
  | snoc _ hs ih =>
    rw [← List.append_assoc]
    exact ih.snoc hs

omit [DecidableEq ι] in
/-- What a turn answers, and that only a commit moves the state. -/
lemma turn_cases {free : E.Lock → Prop} {db db' : E.Db} {seq seq' : E.Seq} {op : Op E}
    {s s' : Session E ε α} (h : Turn free db seq s op db' seq' s') :
    (∃ k a, s.prog = .ask op k ∧ s'.prog = k a) ∧ (op ≠ .commit → db' = db) := by
  cases h with
  | stmt _ _ => exact ⟨⟨_, _, rfl, rfl⟩, fun _ => rfl⟩
  | refused _ _ => exact ⟨⟨_, _, rfl, rfl⟩, fun _ => rfl⟩
  | commit => exact ⟨⟨_, _, rfl, rfl⟩, fun h => absurd rfl h⟩
  | rollback => exact ⟨⟨_, _, rfl, rfl⟩, fun _ => rfl⟩
  | input a => exact ⟨⟨_, _, rfl, rfl⟩, fun _ => rfl⟩

lemma sess_eq (hu : Undisturbed tr) (hj : ∀ op, Event.turn j op ∉ tr) (h : Run progs σ tr σ') :
    σ'.sess j = σ.sess j := by
  induction h with
  | nil => rfl
  | @snoc σ₁ _ tr e _ hs ih =>
    obtain ⟨i, op, rfl⟩ := hu e (by simp)
    have hji : j ≠ i := by
      rintro rfl
      exact hj op (by simp)
    cases hs with
    | turn hi ht =>
      rw [← ih hu.left fun op hop => hj op (List.mem_append_left _ hop)]
      exact Function.update_of_ne hji _ _

lemma db_eq (hu : Undisturbed tr) (hc : ∀ i, Event.turn i .commit ∉ tr)
    (h : Run progs σ tr σ') : σ'.db = σ.db := by
  induction h with
  | nil => rfl
  | @snoc σ₁ _ tr e _ hs ih =>
    obtain ⟨i, op, rfl⟩ := hu e (by simp)
    rw [← ih hu.left fun i hi => hc i (List.mem_append_left _ hi)]
    cases hs with
    | turn hi ht =>
      refine (turn_cases ht).2 ?_
      rintro rfl
      exact hc i (by simp)

lemma prog_inv {H : Prog E ε α → Prop} (hH : ∀ q k, H (.ask q k) → ∀ a, H (k a))
    {s : Session E ε α} (hu : Undisturbed tr) (hs : σ.sess i = some s) (hp : H s.prog)
    (h : Run progs σ tr σ') : ∃ s', σ'.sess i = some s' ∧ H s'.prog := by
  induction h with
  | nil => exact ⟨s, hs, hp⟩
  | @snoc σ₁ _ tr e _ hs ih =>
    obtain ⟨j, op, rfl⟩ := hu e (by simp)
    obtain ⟨s₁, hs₁, hp₁⟩ := ih hu.left
    cases hs with
    | @turn _ t _ _ _ t' hj ht =>
      by_cases hij : i = j
      · subst hij
        obtain rfl : t = s₁ := Option.some.inj (hj.symm.trans hs₁)
        obtain ⟨⟨k, a, hask, hnext⟩, -⟩ := turn_cases ht
        rw [hask] at hp₁
        exact ⟨t', Function.update_self .., hnext ▸ hH _ _ hp₁ a⟩
      · exact ⟨s₁, (Function.update_of_ne hij _ _).trans hs₁, hp₁⟩

/-- A session that has committed has finished, if a commit is the last thing it asks. -/
lemma finished_of_commit {s : Session E ε α} (hu : Undisturbed tr) (hs : σ.sess i = some s)
    (hp : s.prog.AsksLast .commit) (hc : Event.turn i .commit ∈ tr) (h : Run progs σ tr σ') :
    ∃ s', σ'.sess i = some s' ∧ s'.prog.Finished := by
  obtain ⟨tr₁, tr₂, rfl⟩ := List.append_of_mem hc
  obtain ⟨σ₁, h₁, h₂⟩ := split h
  have hu₂ := hu.right
  obtain ⟨s₁, hs₁, hp₁⟩ := prog_inv (fun _ _ h a => (h a).2) hu.left hs hp h₁
  rw [← List.singleton_append] at h₂ hu₂
  obtain ⟨σ₂, hstep, h₂⟩ := split h₂
  cases step_of_singleton hstep with
  | @turn _ t _ _ _ t' hi ht =>
    obtain rfl : t = s₁ := Option.some.inj (hi.symm.trans hs₁)
    obtain ⟨⟨k, a, hask, hnext⟩, -⟩ := turn_cases ht
    rw [hask] at hp₁
    have hfinished : t'.prog.Finished := by
      rw [hnext]
      exact (hp₁ a).1 rfl
    exact prog_inv (fun _ _ h => False.elim h) hu₂.right (Function.update_self ..) hfinished h₂

lemma wp_run {F : Prop} {G : E.Db → E.Db → Prop} {Q : Post E ε α} {s : Session E ε α}
    (honly : ∀ e ∈ tr, ∃ op, e = Event.turn i op) (hs : σ.sess i = some s)
    (hp : wp F Still G s.prog Q s.held s.wrote σ.db) (h : Run progs σ tr σ') :
    ∃ s', σ'.sess i = some s' ∧ wp F Still G s'.prog Q s'.held s'.wrote σ'.db := by
  induction h with
  | nil => exact ⟨s, hs, hp⟩
  | @snoc σ₁ _ tr e _ hs ih =>
    obtain ⟨op, rfl⟩ := honly e (by simp)
    obtain ⟨s₁, hs₁, hp₁⟩ := ih fun e he => honly e (List.mem_append_left _ he)
    cases hs with
    | @turn _ t _ _ _ t' hi ht =>
      obtain rfl : t = s₁ := Option.some.inj (hi.symm.trans hs₁)
      exact ⟨t', Function.update_self .., (wp_turn (R := Still) rfl hp₁ ht).1⟩

lemma no_turn_of_finished {s : Session E ε α} (hu : Undisturbed tr) (hs : σ.sess i = some s)
    (hp : s.prog.Finished) (h : Run progs σ tr σ') : ∀ op, Event.turn i op ∉ tr := by
  induction h with
  | nil => simp
  | @snoc σ₁ _ tr e hr hstep ih =>
    intro op hop
    rcases List.mem_append.mp hop with hop | hop
    · exact ih hu.left op hop
    · obtain rfl := List.mem_singleton.mp hop
      rw [← sess_eq hu.left (ih hu.left) hr] at hs
      cases hstep with
      | turn hi ht =>
        rw [hs] at hi
        obtain rfl := Option.some.inj hi
        obtain ⟨⟨k, a, hask, -⟩, -⟩ := turn_cases ht
        rw [hask] at hp
        exact hp

omit [DecidableEq ι] in
lemma sess_of_outcome {r : Except ε α} (h : σ.outcome i = some r) :
    ∃ L W, σ.sess i = some ⟨Script.ofExcept r, L, W⟩ := by
  unfold System.outcome at h
  split at h
  · rename_i a L W hs
    cases h
    exact ⟨L, W, hs⟩
  · rename_i e L W hs
    cases h
    exact ⟨L, W, hs⟩
  · cases h

variable (progs) in
/-- Where no other session holds a lock, a session can run to its end as it would alone. -/
lemma run_of_solo {w : World E} (hw : w.Steady) (tick : ℕ) {p : Prog E ε α} {L : List E.Lock}
    {W : List E.Write} (hs : σ.sess i = some ⟨p, L, W⟩)
    (hfree : ∀ j s, j ≠ i → σ.sess j = some s → s.held = []) :
    ∃ tr σ', Run progs σ tr σ' ∧ (∀ e ∈ tr, ∃ op, e = Event.turn i op) ∧
      σ'.db = (solo w p ⟨σ.db, σ.seq, tick, W⟩).2.db ∧
      σ'.seq = (solo w p ⟨σ.db, σ.seq, tick, W⟩).2.seq ∧
      σ'.outcome i = some (solo w p ⟨σ.db, σ.seq, tick, W⟩).1 := by
  induction p generalizing σ L W tick with
  | ret a => exact ⟨[], σ, .nil σ, by simp, rfl, rfl, by simp [System.outcome, hs, solo]⟩
  | raise e => exact ⟨[], σ, .nil σ, by simp, rfl, rfl, by simp [System.outcome, hs, solo]⟩
  | ask q k ih =>
    -- after one turn of the session the rest runs alone
    have hturn : ∀ (tick' : ℕ) {db seq L' W' a},
      Turn (σ.Free i) σ.db σ.seq ⟨.ask q k, L, W⟩ q db seq ⟨k a, L', W'⟩ →
      solo w (.ask q k) ⟨σ.db, σ.seq, tick, W⟩ = solo w (k a) ⟨db, seq, tick', W'⟩ →
      ∃ tr σ', Run progs σ tr σ' ∧
      (∀ e ∈ tr, ∃ op, e = Event.turn i op) ∧
      σ'.db = (solo w (.ask q k) ⟨σ.db, σ.seq, tick, W⟩).2.db ∧
      σ'.seq = (solo w (.ask q k) ⟨σ.db, σ.seq, tick, W⟩).2.seq ∧
      σ'.outcome i = some (solo w (.ask q k) ⟨σ.db, σ.seq, tick, W⟩).1 := by
      intro tick' db seq L' W' a ht heq
      have hstep : Step progs σ (.turn i q) ⟨db, seq, Function.update σ.sess i
        (some ⟨k a, L', W'⟩)⟩ := .turn hs ht
      obtain ⟨tr, σ', hr, honly, hdb, hseq, hout⟩ := @ih a
        ⟨db, seq, Function.update σ.sess i (some ⟨k a, L', W'⟩)⟩ tick' L' W'
        (Function.update_self ..) fun j s hj hjs =>
          hfree j s hj ((Function.update_of_ne hj _ _).symm.trans hjs)
      rw [heq]
      refine ⟨[.turn i q] ++ tr, σ', append (Run.snoc (.nil σ) hstep) hr, ?_, hdb, hseq, hout⟩
      intro e he
      rcases List.mem_append.mp he with he | he
      · exact ⟨q, List.mem_singleton.mp he⟩
      · exact honly e he
    have hlocks : ∀ l, σ.Free i l := fun l j hj s hjs => by simp [hfree j s hj hjs]
    cases q with
    | stmt q =>
      rcases he : E.exec q σ.seq (view σ.db W) with ⟨seq, e | ⟨r, ws⟩⟩
      · exact hturn (tick + 1) (.refused (fun l _ => hlocks l) he) (by simp [solo, hw tick, he])
      · exact hturn (tick + 1) (.stmt (fun l _ => hlocks l) he) (by simp [solo, hw tick, he])
    | commit => exact hturn tick .commit rfl
    | rollback => exact hturn tick .rollback rfl
    | input a => exact hturn (tick + 1) (.input (w.answer tick a)) rfl

end IncidentGate.Lib.RowLockTrace
