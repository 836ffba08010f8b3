import IncidentGate.WriteOnce

/-!
Clients that record into the cache and answer from it, among other users of the cache.

A recorded result is replayed under the name of the provider that was recorded, unless the
client is configured with another provider: then the replay is refused.
-/

namespace IncidentGate.CacheReplay

open Lib.JsonText Lib.JsonRead Lib.TextPattern Lib.ScriptTree Lib.Interleaving
open Invocations Provenance ResponseCache WriteOnce

variable {Moment : Type} {P : Pydantic Moment}

/-! ### Parties -/

inductive Party (P : Pydantic Moment) where
  | call (c : Call P)
  | complete (client : CacheBackedCompletionClient P) (request : CompletionRequest)

def Party.script : Party P → CacheScript (Result P)
  | .call c => c.script
  | .complete client request => (ResponseCache.complete client request).elim fun
    | .ok r => .ret (.completed r)
    | .error e => .raise e

def begin (parties : ℕ → Party P) (w : World) : CacheSystem P :=
  ⟨w, fun i => (parties i).script⟩

/-- The client may record the result, and stores it under the text. -/
def Records (client : CacheBackedCompletionClient P) (request : CompletionRequest)
    (result : CompletionResult) (text : List Char) : Prop :=
  ∃ build provenance, client.provenance_builder = some build ∧ client.record_mode = true ∧
    client.record_client = true ∧ isReal result.invocation.invocation_kind = true ∧
    build request result = .ok provenance ∧
    encode (recordArguments request result provenance) = .ok text

variable (parties : ℕ → Party P)

/-- A store links the text of its arguments, a client that of a result that it was answered. -/
def PartyOffers : Offer P := fun i heard path text rest =>
  (∃ a, parties i = .call (.store a) ∧ (a.model, a.prompt_sha256) = path ∧ encode a = .ok text ∧
    rest.Ends (· = .ok .stored)) ∨
  ∃ client request result, parties i = .complete client request ∧
    (request.model, request.prompt_sha256) = path ∧ .ok result ∈ heard ∧
    Records client request result text ∧ rest.Ends (· = .ok (.completed result))

/-- How a client answers from an entry's text. -/
def replayEnd (client : CacheBackedCompletionClient P) (request : CompletionRequest)
    (text : List Char) : Except CacheError (Result P) :=
  match loadEnd P request.model request.prompt_sha256 text with
  | .error e => .error e
  | .ok entry => match replay client request entry with
    | .ok r => .ok (.completed r)
    | .error message => .error (.value message)

/-- How a client may end that succeeds: it recorded what it was answered, or answered from the
entry. -/
def CompleteEnd (i : ℕ) (client : CacheBackedCompletionClient P) (request : CompletionRequest)
    (o : Except CacheError (Result P)) (w : World) : Prop :=
  ∀ r, o = .ok r → ∃ text, w.entries (request.model, request.prompt_sha256) = some text ∧
    ((∃ result, r = .completed result ∧ .ok result ∈ w.consulted i ∧
        Records client request result text) ∨
      o = replayEnd client request text)

def PartyEnd (i : ℕ) : Except CacheError (Result P) → World → Prop :=
  match parties i with
  | .call c => CallEnd i c
  | .complete client request => CompleteEnd i client request

lemma stable_partyEnd (i : ℕ) : Stable (terms (PartyOffers parties)) i (PartyEnd parties i) := by
  unfold PartyEnd
  split
  · exact stable_callEnd i _
  · intro o w w' hrely hend r hr
    obtain ⟨text, htext, ho⟩ := hend r hr
    rw [← hrely.2.2] at ho
    exact ⟨text, hrely.1 _ text htext, ho⟩

section

variable {offer : Offer P} {i : ℕ}
  {client : CacheBackedCompletionClient P} {request : CompletionRequest} {w : World}
  {Q : Except CacheError (Result P) → World → Prop}

/-- The end of a client's script, whatever it did before. -/
def finish : Except CacheError CompletionResult → CacheScript (Result P)
  | .ok r => .ret (.completed r)
  | .error e => .raise e

/-- What a client does with the outcome of its load. -/
def afterLoad (client : CacheBackedCompletionClient P) (request : CompletionRequest) :
    Except CacheError (CachedCompletion P) → CacheScript CompletionResult
  | .ok entry => check (replay client request entry)
  | .error (.miss _ _) => record client request
  | .error e => .raise e

lemma script_complete : (Party.complete client request).script =
    (load P request.model request.prompt_sha256).elim fun r =>
      (afterLoad client request r).elim finish := by
  simp only [Party.script, complete, Script.elim_elim]
  refine congrArg (Script.elim _) (funext fun r => ?_)
  rcases r with (_ | _ | _) | entry <;>
    exact congrArg (Script.elim _) (funext fun o => by cases o <;> rfl)

lemma afterLoad_loadEnd (text : List Char) :
    (afterLoad client request (loadEnd P request.model request.prompt_sha256 text)).elim finish =
      .ofExcept (replayEnd client request text) := by
  unfold replayEnd loadEnd
  rcases decode P request.model request.prompt_sha256 text with message | entry
  · rfl
  · simp only [afterLoad]
    rcases replay client request entry with message | r <;> rfl

lemma recordResult_eq
    {build : CompletionRequest → CompletionResult → Except String (ProviderCaptureProvenance P)}
    {result : CompletionResult} {provenance : ProviderCaptureProvenance P}
    (hreal : isReal result.invocation.invocation_kind = true)
    (hbuild : build request result = .ok provenance) :
    recordResult build request result =
      (store (recordArguments request result provenance)).bind fun _ => .ret result := by
  simp only [recordResult, hreal, ↓reduceIte, hbuild]
  rfl

lemma script_recordResult
    {build : CompletionRequest → CompletionResult → Except String (ProviderCaptureProvenance P)}
    {result : CompletionResult} {provenance : ProviderCaptureProvenance P} {encoded : List Char}
    (hreal : isReal result.invocation.invocation_kind = true)
    (hbuild : build request result = .ok provenance)
    (hencode : encode (recordArguments request result provenance) = .ok encoded) :
    (recordResult build request result).elim (finish (P := P)) =
      (publish (request.model, request.prompt_sha256) encoded).elim fun r =>
        finish (r.map fun _ => result) := by
  have hstore : store (recordArguments request result provenance) =
      publish (request.model, request.prompt_sha256) encoded := by
    simp only [store, hencode]
    rfl
  rw [recordResult_eq hreal hbuild, hstore, Script.bind_eq_elim, Script.elim_elim]
  exact congrArg (Script.elim _) (funext fun o => by cases o <;> rfl)

lemma sure_recordResult
    {build : CompletionRequest → CompletionResult → Except String (ProviderCaptureProvenance P)}
    {result : CompletionResult} (hbuild : client.provenance_builder = some build)
    (hmode : client.record_mode = true) (hclient : client.record_client = true)
    (hoffer : ∀ encoded rest, Records client request result encoded →
      rest.Ends (· = .ok (.completed result)) →
        offer i (w.consulted i) (request.model, request.prompt_sha256) encoded rest)
    (hok : ∀ w' encoded, w'.consulted i = w.consulted i → Records client request result encoded →
      w'.entries (request.model, request.prompt_sha256) = some encoded →
        Q (.ok (.completed result)) w')
    (herror : ∀ w' e, Q (.error e) w') :
    Sure serve (terms offer) i ((recordResult build request result).elim finish) Q w := by
  by_cases hreal : isReal result.invocation.invocation_kind = true
  · -- a real result: the builder, the encoding and the publication may each still raise
    rcases hprovenance : build request result with message | provenance
    · simp only [recordResult, hreal, ↓reduceIte, check, hprovenance]
      exact herror _ _
    rcases hencode : encode (recordArguments request result provenance) with message | encoded
    · rw [recordResult_eq hreal hprovenance]
      simp only [store, hencode]
      exact herror _ _
    have hrecords : Records client request result encoded :=
      ⟨build, provenance, hbuild, hmode, hclient, hreal, hprovenance, hencode⟩
    rw [script_recordResult hreal hprovenance hencode]
    refine sure_publish (hoffer encoded _ hrecords ?_) (fun w' hlater hentry _ => ?_)
      fun w' found _ _ _ _ => herror _ _
    · exact (ends_cleanUp (.ok ())).elim fun r hr => by subst hr; rfl
    · exact hok w' encoded hlater.2 hrecords hentry
  · -- a result of no call is refused
    simp only [recordResult, hreal]
    exact herror _ _

lemma sure_record
    (hoffer : ∀ heard result encoded rest, .ok result ∈ heard →
      Records client request result encoded → rest.Ends (· = .ok (.completed result)) →
        offer i heard (request.model, request.prompt_sha256) encoded rest)
    (hok : ∀ w' result encoded, .ok result ∈ w'.consulted i →
      Records client request result encoded →
      w'.entries (request.model, request.prompt_sha256) = some encoded →
        Q (.ok (.completed result)) w')
    (herror : ∀ w' e, Q (.error e) w') :
    Sure serve (terms offer) i ((record client request).elim finish) Q w := by
  unfold record
  split
  · rename_i build hbuild
    split
    · rename_i hmode
      rw [Bool.and_eq_true] at hmode
      rintro w₁ - answer _ rfl
      refine ⟨promise_of_entries rfl fun _ hj => ⟨rfl, Function.update_of_ne hj ..⟩, ?_⟩
      rcases answer with message | result
      · exact herror _ _
      · -- The answer is the last that this call heard, and publishing it adds none.
        have hheard : .ok result ∈
            Function.update w₁.consulted i (w₁.consulted i ++ [.ok result]) i := by
          simp
        exact sure_recordResult hbuild hmode.1 hmode.2
          (fun encoded rest => hoffer _ result encoded rest hheard)
          (fun w' encoded hsame => hok w' result encoded (hsame ▸ hheard)) herror
    · exact herror _ _
  · exact herror _ _

lemma sure_complete
    (hoffer : ∀ heard result encoded rest, .ok result ∈ heard →
      Records client request result encoded → rest.Ends (· = .ok (.completed result)) →
        offer i heard (request.model, request.prompt_sha256) encoded rest) (w : World) :
    Sure serve (terms offer) i (Party.complete client request).script
      (CompleteEnd i client request) w := by
  rw [script_complete]
  rcases hkey : checkPath request.model request.prompt_sha256 with message | ⟨⟩
  · simp only [load, hkey]
    intro r hr
    cases hr
  refine sure_load hkey (fun w' _ _ => ?_) fun w' text _ htext => ?_
  · refine sure_record hoffer (fun w' result encoded hheard hrecords hentry r hr => ?_)
      fun w' e r hr => ?_
    · exact ⟨encoded, hentry, .inl ⟨result, (Except.ok.inj hr).symm, hheard, hrecords⟩⟩
    · cases hr
  · rw [afterLoad_loadEnd]
    rcases hend : replayEnd client request text with e | r
    · intro r hr
      cases hr
    · exact fun _ _ => ⟨text, htext, .inr hend.symm⟩

lemma sure_complete_after (hkey : checkPath request.model request.prompt_sha256 = .ok ())
    {text : List Char} (hentry : w.entries (request.model, request.prompt_sha256) = some text) :
    Sure serve (terms offer) i (Party.complete client request).script
      (fun o w' => o = replayEnd client request text ∧ w'.consulted i = w.consulted i) w := by
  rw [script_complete]
  refine sure_load hkey (fun w' h hnone => ?_) fun w' found h hfound => ?_
  · rw [h.1 _ text hentry] at hnone
    cases hnone
  · obtain rfl : text = found := by
      rw [h.1 _ text hentry] at hfound
      exact Option.some.inj hfound
    rw [afterLoad_loadEnd]
    rcases hend : replayEnd client request text with e | r
    · exact ⟨rfl, h.2⟩
    · exact ⟨rfl, h.2⟩

end

/-! ### Runs -/

lemma allSure_begin (w : World) :
    AllSure serve (terms (PartyOffers parties)) (PartyEnd parties) (begin parties w) := by
  intro i
  simp only [PartyEnd, begin]
  rcases hi : parties i with (a | ⟨model, prompt_sha256⟩) | ⟨client, request⟩
  · exact sure_store fun encoded rest hencode hends => .inl ⟨a, hi, rfl, hencode, hends⟩
  · exact sure_loadCall model prompt_sha256 w
  · exact sure_complete (fun heard result encoded rest hheard hrecords hends =>
      .inr ⟨client, request, result, hi, rfl, hheard, hrecords, hends⟩) w

variable {parties} {w : World} {s s' : CacheSystem P} {i j : ℕ}
  {client : CacheBackedCompletionClient P} {request : CompletionRequest}

lemma allSure_of_run (hrun : Run serve (begin parties w) s) :
    AllSure serve (terms (PartyOffers parties)) (PartyEnd parties) s :=
  (allSure_begin parties w).run (stable_partyEnd parties) hrun

lemma completeEnd_of_run (hrun : Run serve (begin parties w) s)
    (hi : parties i = .complete client request) {o : Except CacheError (Result P)}
    (ho : outcome s i = some o) : CompleteEnd i client request o s.world := by
  have hend := (allSure_of_run hrun).outcome ho
  simpa [PartyEnd, hi] using hend

/-! ### Answers -/

lemma invocationRecord_ok {r : InvocationFields} {record : ModelInvocationRecord}
    (h : invocationRecord r = .ok record) : record.toInvocationFields = r := by
  unfold invocationRecord at h
  split at h
  · cases h
    rfl
  · cases h

lemma replay_ok {entry : CachedCompletion P} {r : CompletionResult}
    (h : replay client request entry = .ok r) :
    (entry.capture = .synthetic ∧
      r.invocation.toInvocationFields = { invocation_kind := .fixture_no_call }) ∨
    (entry.capture ≠ .synthetic ∧ r.invocation.invocation_kind = .cache_replay) := by
  unfold replay at h
  split at h
  · rename_i hsynthetic
    obtain ⟨record, hrecord, hr⟩ := except_bind_ok.mp h
    cases hr
    exact .inl ⟨hsynthetic, invocationRecord_ok hrecord⟩
  · rename_i hcapture
    split at h
    · cases h
    · obtain ⟨-, h⟩ := bind_ok.mp h
      obtain ⟨record, hrecord, hr⟩ := except_bind_ok.mp h
      cases hr
      exact .inr ⟨hcapture, by simp [invocationRecord_ok hrecord]⟩

/-- The answer is the recorded body under the recorded provider and model. -/
def Replays (recorded : CompletionResult) (o : Except CacheError (Result P)) : Prop :=
  ∃ r, o = .ok (.completed r) ∧ r.raw_json = recorded.raw_json ∧
    r.invocation.invocation_kind = .cache_replay ∧
    r.invocation.provider = recorded.invocation.provider ∧
    r.invocation.model = recorded.invocation.model

/-- The client is configured with no provider, or with the one that was recorded. -/
def Agrees (client : CacheBackedCompletionClient P) (recorded : CompletionResult) : Prop :=
  client.provider = none ∨ client.provider = recorded.invocation.provider

lemma invocationRecord_replay {provider model : String} (hp : provider ≠ "") (hm : model ≠ "") :
    ∃ record, invocationRecord {
      invocation_kind := .cache_replay
      provider := some provider
      model := some model } = .ok record := by
  unfold invocationRecord
  split
  · exact ⟨_, rfl⟩
  · rename_i message h
    simp [InvocationFields.validate, InvocationFields.fields, field, refuseIf,
      InvocationFields.provider_metrics_are_complete, given, hp, hm, bind, Except.bind] at h

lemma names_of_validate {p : ProviderCaptureProvenance P} {invocation : ModelInvocationRecord}
    (h : validate_invocation p request invocation = .ok ()) :
    p.provider ≠ "" ∧ p.model ≠ "" ∧ invocation.provider = some p.provider ∧
      invocation.model = some p.model := by
  simp only [validate_invocation, refuseIf_bind_ok, refuseIf_ok, decide_eq_false_iff_not, not_not,
    Prod.mk.injEq] at h
  obtain ⟨htext, -, -, -, -, -, -, -, -, -, -, -, -, hnames, -⟩ := h
  simp only [List.any_cons, Bool.or_eq_false_iff, decide_eq_false_iff_not] at htext
  exact ⟨htext.1.1, htext.2.1.1, hnames⟩

lemma validate_of_encode {recorded : CompletionResult} {p : ProviderCaptureProvenance P}
    {text : List Char} (h : encode (recordArguments request recorded p) = .ok text) :
    validate_invocation p request recorded.invocation = .ok () ∧ request.model = p.model := by
  obtain ⟨-, -, v, hv, -, -⟩ := encode_ok h
  rcases payload_ok hv with ⟨-, hnone, -⟩ | ⟨-, p', i', r', -, -, hp, hi, hr, -, -, hvalid, -⟩
  · cases hnone
  · cases hp
    cases hi
    cases hr
    exact ⟨hvalid, (Prod.mk.inj (key_of_validate hvalid)).1⟩

theorem replays_iff (hP : P.RoundTrips) {recorded : CompletionResult} {text : List Char}
    (h : Records client request recorded text) :
    Replays recorded (replayEnd client request text) ↔ Agrees client recorded := by
  obtain ⟨build, p, -, -, -, hreal, -, hencode⟩ := h
  obtain ⟨c, ⟨hraw, hcapture, hprovenance⟩, hend⟩ := loadEnd_of_encode hP hencode
  obtain ⟨hvalid, hmodel⟩ := validate_of_encode hencode
  obtain ⟨hpne, hmne, hprovider, hrecordedModel⟩ := names_of_validate hvalid
  -- a recording never stores a synthetic capture
  have hsynthetic : c.capture ≠ .synthetic := by
    intro hc
    rw [hc] at hcapture
    simp only [recordArguments] at hcapture
    split at hcapture <;> exact absurd hcapture (by decide)
  obtain ⟨record, hrecord⟩ := invocationRecord_replay hpne (hmodel ▸ hmne)
  have hreplay : replay client request c =
      if client.provider.any (· ≠ p.provider) then
        .error "cache replay provider disagrees with captured provenance"
      else .ok ⟨c.raw_json, record⟩ := by
    simp only [replay, hsynthetic, ↓reduceIte, hprovenance, recordArguments]
    by_cases hany : client.provider.any (· ≠ p.provider) = true
    · simp only [hany, ↓reduceIte]
      rfl
    · simp only [hany]
      exact ok_bind rfl (ok_bind hrecord rfl)
  have hanswer : replayEnd client request text =
      if client.provider.any (· ≠ p.provider) then
        .error (.value "cache replay provider disagrees with captured provenance")
      else .ok (.completed ⟨c.raw_json, record⟩) := by
    have hload : loadEnd P request.model request.prompt_sha256 text = .ok c := hend
    simp only [replayEnd, hload, hreplay]
    by_cases hany : client.provider.any (· ≠ p.provider) = true <;> simp only [hany] <;> rfl
  have hfields := invocationRecord_ok hrecord
  rw [hanswer, Agrees, hprovider]
  -- the provider of the client is checked only where it has one
  rcases hclient : client.provider with _ | name
  · simp only [Option.any_none, Bool.false_eq_true, ↓reduceIte, true_or, iff_true]
    exact ⟨_, rfl, hraw, by rw [hfields], by rw [hfields, hprovider],
      by rw [hfields, hrecordedModel, hmodel]⟩
  · by_cases hname : name = p.provider
    · subst hname
      simp only [Option.any_some, ne_eq, not_true_eq_false, decide_false, Bool.false_eq_true,
        ↓reduceIte, or_true, iff_true]
      exact ⟨_, rfl, hraw, by rw [hfields], by rw [hfields, hprovider],
        by rw [hfields, hrecordedModel, hmodel]⟩
    · simp [hname, Replays]

/-! ### Record, then replay -/

lemma replayEnd_ok {text : List Char} {r : CompletionResult}
    (h : replayEnd client request text = .ok (.completed r)) :
    ∃ entry, loadEnd P request.model request.prompt_sha256 text = .ok entry ∧
      replay client request entry = .ok r := by
  unfold replayEnd at h
  split at h
  · cases h
  · rename_i entry hentry
    split at h
    · rename_i r' hr
      cases h
      exact ⟨entry, hentry, hr⟩
    · cases h

lemma records_of_real (hrun : Run serve (begin parties w) s)
    (hi : parties i = .complete client request) {r : CompletionResult}
    (ho : outcome s i = some (.ok (.completed r)))
    (hreal : isReal r.invocation.invocation_kind = true) :
    ∃ text, s.world.entries (request.model, request.prompt_sha256) = some text ∧
      .ok r ∈ s.world.consulted i ∧ Records client request r text := by
  obtain ⟨text, htext, ⟨result, hr, hheard, hrecords⟩ | hreplay⟩ :=
    completeEnd_of_run hrun hi ho _ rfl
  · cases hr
    exact ⟨text, htext, hheard, hrecords⟩
  · obtain ⟨entry, -, hr⟩ := replayEnd_ok hreplay.symm
    rcases replay_ok hr with ⟨-, hfields⟩ | ⟨-, hkind⟩
    · rw [hfields] at hreal
      exact absurd hreal (by decide)
    · rw [hkind] at hreal
      exact absurd hreal (by decide)

lemma checkPath_of_records {r : CompletionResult} {text : List Char}
    (h : Records client request r text) :
    checkPath request.model request.prompt_sha256 = .ok () := by
  obtain ⟨build, p, -, -, -, -, -, hencode⟩ := h
  exact (encode_ok hencode).1

lemma complete_after (hrun : Run serve (begin parties w) s)
    (hkey : checkPath request.model request.prompt_sha256 = .ok ()) {text : List Char}
    (hentry : s.world.entries (request.model, request.prompt_sha256) = some text)
    (hj : parties j = .complete client request) (hbegun : s.script j = (parties j).script)
    (hrun' : Run serve s s') {o : Except CacheError (Result P)} (ho : outcome s' j = some o) :
    o = replayEnd client request text ∧ s'.world.consulted j = s.world.consulted j := by
  refine (allSure_of_run hrun).later (stable_partyEnd parties) (i := j)
    (R := fun o w' => o = replayEnd client request text ∧ w'.consulted j = s.world.consulted j)
    (fun o w w' hrely h => ⟨h.1, hrely.2.2.trans h.2⟩) ?_ hrun' ho
  rw [hbegun, hj]
  exact sure_complete_after hkey hentry

lemma run_complete (hkey : checkPath request.model request.prompt_sha256 = .ok ())
    {text : List Char}
    (hentry : s.world.entries (request.model, request.prompt_sha256) = some text)
    (hj : s.script j = (Party.complete client request).script) :
    ∃ s', Run serve s s' ∧ outcome s' j = some (replayEnd client request text) := by
  rw [script_complete] at hj
  refine ⟨_, run_load hj hkey hentry, ?_⟩
  simp only [outcome, Function.update_self, afterLoad_loadEnd]
  rcases replayEnd client request text <;> rfl

lemma synthetic_answer (hP : P.RoundTrips) (hrun : Run serve (begin parties w) s)
    {a : StoreArguments P} (hj : parties j = .call (.store a))
    (hkey : (a.model, a.prompt_sha256) = (request.model, request.prompt_sha256))
    (hsynthetic : a.capture = "synthetic") (hstored : outcome s j = some (.ok .stored))
    (hi : parties i = .complete client request) {r : CompletionResult}
    (ho : outcome s i = some (.ok (.completed r))) :
    r.invocation.toInvocationFields = { invocation_kind := .fixture_no_call } := by
  have hend : StoreEnd j a (.ok .stored) s.world := by
    simpa [PartyEnd, CallEnd, hj] using (allSure_of_run hrun).outcome hstored
  obtain ⟨text, hencode, hentry⟩ := encode_of_stored hend
  obtain ⟨c, ⟨hraw, hcapture, -⟩, hload⟩ := loadEnd_of_encode hP hencode
  obtain ⟨hmodel, hprompt⟩ := Prod.mk.inj hkey
  rw [hmodel, hprompt] at hentry hload
  have hc : c.capture = .synthetic := by
    rw [hsynthetic] at hcapture
    revert hcapture
    cases c.capture <;> decide
  -- the client recorded the entry that it found, or replayed it
  obtain ⟨found, hfound, ⟨result, hr, -, hrecords⟩ | hreplay⟩ :=
    completeEnd_of_run hrun hi ho _ rfl
  all_goals obtain rfl : text = found := Option.some.inj (hentry.symm.trans hfound)
  · -- an entry that a client recorded is a real one
    obtain ⟨build, p, -, -, -, -, -, hencode'⟩ := hrecords
    obtain ⟨c', ⟨-, hcapture', -⟩, hload'⟩ := loadEnd_of_encode hP hencode'
    obtain rfl : c = c' := Except.ok.inj (hload.symm.trans hload')
    rw [hc] at hcapture'
    simp only [recordArguments] at hcapture'
    split at hcapture' <;> exact absurd hcapture' (by decide)
  · -- the entry is replayed under its own label
    obtain ⟨entry, hentry', hr⟩ := replayEnd_ok hreplay.symm
    obtain rfl : c = entry := Except.ok.inj (hload.symm.trans hentry')
    rcases replay_ok hr with ⟨-, hfields⟩ | ⟨hne, -⟩
    · exact hfields
    · exact absurd hc hne

/-- What a client writes is a real result that it was answered, and then returns. -/
lemma written_is_real (hrun : Run serve (begin parties w) s)
    (hi : parties i = .complete client request) (hstep : Step serve i s s')
    (hchange : s'.world.entries ≠ s.world.entries) :
    ∃ result text, .ok result ∈ s.world.consulted i ∧ Records client request result text ∧
      s'.world.entries (request.model, request.prompt_sha256) = some text ∧
        (s'.script i).Ends (· = .ok (.completed result)) := by
  have hpromise := ((allSure_of_run hrun).step (stable_partyEnd parties) hstep).1
  obtain ⟨path, hpath⟩ := Function.ne_iff.mp hchange
  rcases hold : s.world.entries path with _ | found
  · rcases hnew : s'.world.entries path with _ | text
    · exact absurd (hnew.trans hold.symm) hpath
    · rcases hpromise.2.2 path text hold hnew with ⟨a, ha, -⟩ |
        ⟨client', request', result, hi', hkey, hheard, hrecords, hends⟩
      · rw [hi] at ha
        cases ha
      · rw [hi] at hi'
        cases hi'
        exact ⟨result, text, hheard, hrecords, hkey ▸ hnew, hends⟩
  · exact absurd ((hpromise.1 path found hold).trans hold.symm) hpath

lemma run_record {result : CompletionResult} {encoded : List Char}
    (hrecords : Records client request result encoded)
    (hi : s.script i = (Party.complete client request).script)
    (hnone : s.world.entries (request.model, request.prompt_sha256) = none) :
    ∃ s', Run serve s s' ∧ outcome s' i = some (.ok (.completed result)) ∧
      s'.world.entries (request.model, request.prompt_sha256) = some encoded ∧
        ∀ j ≠ i, s'.script j = s.script j := by
  have hkey := checkPath_of_records hrecords
  obtain ⟨build, p, hbuilder, hmode, hclient, hreal, hbuild, hencode⟩ := hrecords
  simp only [script_complete, load, hkey, check] at hi
  -- the record client is asked, and answers the result
  obtain ⟨next, hrecord, hnext⟩ : ∃ next : Except String CompletionResult → CacheScript (Result P),
      (record client request).elim finish = .ask (.consult request) next ∧
        next (.ok result) = (recordResult build request result).elim finish := by
    simp only [record, hbuilder, hmode, hclient, Bool.and_self, ↓reduceIte]
    exact ⟨_, rfl, rfl⟩
  -- from its answer on the client publishes alone
  obtain ⟨s', hrun', houtcome, hentry, hothers⟩ : ∃ s', Run serve ⟨{ s.world with
      consulted := Function.update s.world.consulted i (s.world.consulted i ++ [.ok result]) },
        Function.update s.script i ((recordResult build request result).elim finish)⟩ s' ∧
      outcome s' i = some (.ok (.completed result)) ∧
      s'.world.entries (request.model, request.prompt_sha256) = some encoded ∧
        ∀ j ≠ i, s'.script j = s.script j := by
    rw [script_recordResult hreal hbuild hencode]
    refine ⟨_, run_publish (Function.update_self ..) hnone, ?_, ?_, fun j hj => ?_⟩
    · simp [outcome, finish, Except.map]
    · simp
    · simp [Function.update_of_ne hj]
  refine ⟨s', ?_, houtcome, hentry, hothers⟩
  refine .ask (a := false) hi ⟨by simp [hnone], rfl⟩ ?_
  refine .ask (a := Except.ok result) ((Function.update_self ..).trans hrecord) rfl ?_
  simpa only [Function.update_idem, hnext] using hrun'

/-- In every run, a call that follows a recording on the same client ends, consults nobody, and
replays what was recorded exactly when the client's provider agrees. A synthetic body is
answered as no call of a model, and what a client writes is a real result of its record client,
under the provenance that its builder gave it. -/
theorem record_then_replay_iff (hP : P.RoundTrips) {parties : ℕ → Party P} {w : World}
    {s : CacheSystem P} (hrun : Run serve (begin parties w) s) :
    (∀ i j client request recorded, parties i = .complete client request →
      outcome s i = some (.ok (.completed recorded)) →
      isReal recorded.invocation.invocation_kind = true →
      parties j = .complete client request → s.script j = (parties j).script →
        .ok recorded ∈ s.world.consulted i ∧ (∃ s' o, Run serve s s' ∧ outcome s' j = some o) ∧
        ∀ s', Run serve s s' → ∀ o, outcome s' j = some o →
          s'.world.consulted j = s.world.consulted j ∧
            (Replays recorded o ↔ Agrees client recorded)) ∧
    (∀ i j client request a r, parties j = .call (.store a) →
      (a.model, a.prompt_sha256) = (request.model, request.prompt_sha256) →
      a.capture = "synthetic" → outcome s j = some (.ok .stored) →
      parties i = .complete client request → outcome s i = some (.ok (.completed r)) →
        r.invocation.invocation_kind = .fixture_no_call ∧ r.invocation.provider = none) ∧
    ∀ i client request s', parties i = .complete client request → Step serve i s s' →
      s'.world.entries ≠ s.world.entries →
        ∃ build result provenance encoded, .ok result ∈ s.world.consulted i ∧
          isReal result.invocation.invocation_kind = true ∧
          client.provenance_builder = some build ∧ build request result = .ok provenance ∧
          encode (recordArguments request result provenance) = .ok encoded ∧
          s'.world.entries (request.model, request.prompt_sha256) = some encoded := by
  refine ⟨?_, ?_, ?_⟩
  · -- a call after a recording
    intro i j client request recorded hi ho hreal hj hbegun
    obtain ⟨text, hentry, hheard, hrecords⟩ := records_of_real hrun hi ho hreal
    have hkey := checkPath_of_records hrecords
    refine ⟨hheard, ?_, fun s' hrun' o ho' => ?_⟩
    · obtain ⟨s', hrun', ho'⟩ := run_complete hkey hentry (hbegun.trans (by rw [hj]))
      exact ⟨s', _, hrun', ho'⟩
    · obtain ⟨rfl, hconsulted⟩ := complete_after hrun hkey hentry hj hbegun hrun' ho'
      exact ⟨hconsulted, replays_iff hP hrecords⟩
  · -- a body that a store stored as synthetic
    intro i j client request a r hj hkey hsynthetic hstored hi ho
    have hfields := synthetic_answer hP hrun hj hkey hsynthetic hstored hi ho
    exact ⟨by rw [hfields], by rw [hfields]⟩
  · -- what a step of a client writes
    intro i client request s' hi hstep hchange
    obtain ⟨result, encoded, hheard, hrecords, hentry, -⟩ := written_is_real hrun hi hstep hchange
    obtain ⟨build, provenance, hbuilder, -, -, hreal, hbuild, hencode⟩ := hrecords
    exact ⟨build, result, provenance, encoded, hheard, hreal, hbuilder, hbuild, hencode, hentry⟩

/-! ### A client configured with another provider -/

def sampleSchema : List (String × Json) := [("type", .str "object")]

def sampleRequest : CompletionRequest where
  model := "qwen3"
  schema := sampleSchema
  canonical_prompt := "prompt"
  prompt_sha256 := sha256_text "prompt"

def sampleInvocation : ModelInvocationRecord where
  provider := some "local"
  model := some "qwen3"
  invocation_kind := .local_weights_call
  usage_source := some "local_runtime"
  input_tokens := some 12
  output_tokens := some 3
  valid := by decide

def sampleFields : ProvenanceFields String where
  provider := "local"
  model := "qwen3"
  role := .proposer
  prompt_sha256 := sha256_text "prompt"
  request_schema_sha256 := schema_sha256 sampleSchema
  input_schema_version := "v1"
  prompt_version := "v1"
  stop_reason := .end_turn
  input_tokens := 12
  output_tokens := 3
  usage_source := "local_runtime"
  capture_mode := .live_provider_call
  captured_at := "2026-01-01T00:00:00Z"
  capture_command := "capture"
  git_revision := "0123456789012345678901234567890123456789"
  cost_unavailable_reason := some .local_weights_no_vendor_charge
  weights := some "\x7b\"file\":\"weights\"\x7d"
  scenario_id := "T1"
  variant_id := "T1-dev-v1"
  condition := .mode .COMPLETE
  leg := .covert
  step_index := 0
  split := .development

def sampleProvenance : ProviderCaptureProvenance textual :=
  ⟨sampleFields, by decide +kernel⟩

def sampleResult : CompletionResult := ⟨"[]", sampleInvocation⟩

/-- A recording client in front of a record client that names the provider `local`. -/
def sampleClient (provider : Option String) : CacheBackedCompletionClient textual where
  record_client := true
  record_mode := true
  provenance_builder := some fun _ _ => .ok sampleProvenance
  provider := provider
  valid _ := ⟨rfl, rfl⟩

def sampleParties (provider : Option String) : ℕ → Party textual :=
  fun _ => .complete (sampleClient provider) sampleRequest

lemma sample_records (provider : Option String) :
    ∃ encoded, Records (sampleClient provider) sampleRequest sampleResult encoded := by
  rcases h : encode (recordArguments sampleRequest sampleResult sampleProvenance) with
    message | encoded
  · have hok : (encode (recordArguments sampleRequest sampleResult sampleProvenance)).isOk =
        true := by decide +kernel
    rw [h] at hok
    cases hok
  · exact ⟨encoded, _, sampleProvenance, rfl, rfl, rfl, by decide, rfl, h⟩

/-- The recording succeeds, and the same client's next call of the same request is refused. -/
theorem replay_refused_for_other_provider : ∃ s s',
    Run serve (begin (sampleParties (some "anthropic")) emptyWorld) s ∧
      outcome s 0 = some (.ok (.completed sampleResult)) ∧
      s.script 1 = (sampleParties (some "anthropic") 1).script ∧ Run serve s s' ∧
      ∃ o, outcome s' 1 = some o ∧ ¬ Replays sampleResult o := by
  obtain ⟨encoded, hrecords⟩ := sample_records (some "anthropic")
  obtain ⟨s, hrun, hrecorded, hentry, hothers⟩ := run_record (i := 0)
    (s := begin (sampleParties (some "anthropic")) emptyWorld) hrecords rfl rfl
  have hbegun : s.script 1 = (sampleParties (some "anthropic") 1).script := hothers 1 (by decide)
  obtain ⟨s', hrun', ho⟩ := run_complete (j := 1) (checkPath_of_records hrecords) hentry hbegun
  refine ⟨s, s', hrun, hrecorded, hbegun, hrun', _, ho, ?_⟩
  rw [replays_iff textual_roundTrips hrecords]
  rintro (h | h) <;> exact absurd h (by decide)

/-- A client that is configured with no provider replays what it recorded. -/
theorem record_then_replay_unnamed : ∃ s s' o,
    Run serve (begin (sampleParties none) emptyWorld) s ∧
      outcome s 0 = some (.ok (.completed sampleResult)) ∧
      Run serve s s' ∧ outcome s' 1 = some o ∧ Replays sampleResult o := by
  obtain ⟨encoded, hrecords⟩ := sample_records none
  obtain ⟨s, hrun, hrecorded, -, hothers⟩ := run_record (i := 0)
    (s := begin (sampleParties none) emptyWorld) hrecords rfl rfl
  obtain ⟨-, ⟨s', o, hrun', ho⟩, hanswers⟩ := (record_then_replay_iff textual_roundTrips hrun).1 0 1
    (sampleClient none) sampleRequest sampleResult rfl hrecorded (by decide) rfl
    (hothers 1 (by decide))
  exact ⟨s, s', o, hrun, hrecorded, hrun', ho, (hanswers s' hrun' o ho).2.mpr (.inl rfl)⟩

end IncidentGate.CacheReplay
