import IncidentGate.CacheReplay

/-!
Captures that wait for their place: a live call is held until the episode tells where it stood,
and then every held call is stored.
-/

namespace IncidentGate.DeferredCapture

open Lib.ScriptTree Lib.Interleaving Invocations Provenance ResponseCache WriteOnce CacheReplay

variable {Moment : Type} {P : Pydantic Moment}

/-- A request with the text that the episode knows the consultation by. -/
structure MonitorRequest extends CompletionRequest where
  user_content : String

def MonitorRequest.key (request : MonitorRequest) : Key := (request.model, request.prompt_sha256)

abbrev Held := MonitorRequest × CompletionResult

inductive CaptureError where
  | refused (message : String)
  | provenance (message : String)
  | cache (e : CacheError)

/-- The leg and the step that the episode observed for a text. -/
abbrev Positions := String → Option (String × ℤ)

/-- The caller's builder. It reads a clock, and may answer each call of a write in its own way. -/
abbrev Builder (P : Pydantic Moment) :=
  ℕ → MonitorRequest → CompletionResult → String → ℤ → Except String (ProviderCaptureProvenance P)

abbrev CaptureScript (α : Type) := Script Question Answer CaptureError α

/-! ### The client -/

/-- The client, whose transport may answer each of its calls in its own way. -/
structure DeferredMonitorCaptureClient where
  provider : String
  transport : ℕ → CompletionRequest → Except String CompletionResult

def replayClient (P : Pydantic Moment) (provider : String) : CacheBackedCompletionClient P where
  provider := some provider
  valid h := by cases h

section
variable (client : DeferredMonitorCaptureClient) (P) (request : MonitorRequest)

/-- What a call returns, and what it adds to the held ones. -/
def completeScript : CacheScript (CompletionResult × List Held) :=
  (ResponseCache.complete (replayClient P client.provider) request.toCompletionRequest).elim fun
    | .ok result => .ret (result, [])
    | .error (.miss _ _) => do
      let result ← (ask (.consult request.toCompletionRequest)).bind check
      if isReal result.invocation.invocation_kind then return (result, [(request, result)])
      else .raise (.value "monitor capture refuses a result that did not come from a model")
    | .error e => .raise e

end

def unplaced : CaptureError :=
  .refused ("a monitor consultation was made that the episode does not account for; " ++
    "refusing to record a capture at a position nothing observed")

section
variable (positions : Positions) (build : Builder P)

/-- One held call, stored at its place. -/
def place (written : ℕ) (call : Held) : CaptureScript Unit :=
  match positions (sha256_text call.1.user_content) with
  | none => .raise unplaced
  | some (leg, step_index) => match build written call.1 call.2 leg step_index with
    | .error message => .raise (.provenance message)
    | .ok provenance =>
      (store (recordArguments call.1.toCompletionRequest call.2 provenance)).elim fun
        | .ok () => .ret ()
        | .error e => .raise (.cache e)

/-- The text that a held call is stored under. -/
def placedText (written : ℕ) (call : Held) : Except CaptureError (List Char) :=
  match positions (sha256_text call.1.user_content) with
  | none => .error unplaced
  | some (leg, step_index) => match build written call.1 call.2 leg step_index with
    | .error message => .error (.provenance message)
    | .ok provenance =>
      (encode (recordArguments call.1.toCompletionRequest call.2 provenance)).mapError
        fun message => .cache (.value message)

def writeFrom (written : ℕ) : List Held → CaptureScript ℕ
  | [] => .ret written
  | call :: calls => (place positions build written call).bind fun _ =>
    writeFrom (written + 1) calls

end

open Function in
/-- How the files and the transport answer the one user of the cache. -/
def answer (client : DeferredMonitorCaptureClient) : (q : Question) → World → Answer q × World
  | .is_file path, w => ((w.entries path).isSome, w)
  | .read_bytes path, w => (w.entries path, w)
  | .mkstemp, w => ((), { w with temporaries := update w.temporaries 0 (some []) })
  | .write text, w => ((), { w with temporaries := update w.temporaries 0 (some text) })
  | .link path, w => ((w.entries path).isNone,
    if (w.entries path).isNone then
      { w with entries := update w.entries path (w.temporaries 0) }
    else w)
  | .unlink, w => ((), { w with temporaries := update w.temporaries 0 none })
  | .left, w => ((w.temporaries 0).isSome, w)
  | .consult request, w =>
    let result := client.transport (w.consulted 0).length request
    (result, { w with consulted := update w.consulted 0 (w.consulted 0 ++ [result]) })

/-- The cache and the calls that the client holds. -/
structure State where
  world : World
  pending : List Held

namespace DeferredMonitorCaptureClient

variable (client : DeferredMonitorCaptureClient)

def complete (P : Pydantic Moment) (request : MonitorRequest) (s : State) :
    Except CacheError CompletionResult × State :=
  match alone (answer client) (completeScript P client request) s.world with
  | (.ok (result, held), w) => (.ok result, ⟨w, s.pending ++ held⟩)
  | (.error e, w) => (.error e, ⟨w, s.pending⟩)

def write (positions : Positions) (build : Builder P) (s : State) :
    Except CaptureError ℕ × State :=
  match alone (answer client) (writeFrom positions build 0 s.pending) s.world with
  | (.ok written, w) => (.ok written, ⟨w, []⟩)
  | (.error e, w) => (.error e, ⟨w, s.pending⟩)

end DeferredMonitorCaptureClient

/-! ### Events -/

inductive Event (P : Pydantic Moment) where
  | complete (request : MonitorRequest)
  | write (positions : Positions) (build : Builder P)

/-- A state, with the keys that were requested and the keys that the transport was called for
since the last write that succeeded. -/
structure Session where
  state : State
  requested : List Key
  asked : List Key

section
variable (client : DeferredMonitorCaptureClient)

def Session.step (s : Session) : Event P → Session
  | .complete request =>
    let next := (client.complete P request s.state).2
    { state := next
      requested := request.key :: s.requested
      asked := if (next.world.consulted 0).length = (s.state.world.consulted 0).length then s.asked
        else request.key :: s.asked }
  | .write positions build =>
    match client.write positions build s.state with
    | (.ok _, next) => ⟨next, [], []⟩
    | (.error _, next) => ⟨next, s.requested, s.asked⟩

def Session.run (s : Session) (events : List (Event P)) : Session := events.foldl (step client) s

@[simp] lemma Session.state_complete (s : Session) (request : MonitorRequest) :
    (s.step client (.complete request : Event P)).state =
      (client.complete P request s.state).2 := by
  unfold Session.step
  rfl

@[simp] lemma Session.requested_complete (s : Session) (request : MonitorRequest) :
    (s.step client (.complete request : Event P)).requested = request.key :: s.requested := rfl

/-- Nothing held, over any files. -/
def opened (w : World) : Session := ⟨⟨w, []⟩, [], []⟩

end

/-! ### One user of the files -/

section
variable {client : DeferredMonitorCaptureClient} {w : World} {positions : Positions}
  {build : Builder P}

lemma serve_answer (q : Question) (w : World) :
    serve 0 q w (answer client q w).1 (answer client q w).2 := by
  cases q with
  | is_file path => exact ⟨rfl, rfl⟩
  | read_bytes path => exact ⟨rfl, rfl⟩
  | link path => exact ⟨rfl, rfl⟩
  | left => exact ⟨rfl, rfl⟩
  | mkstemp => rfl
  | write text => rfl
  | unlink => rfl
  | consult request => rfl

/-- A call of the client is a run of the files' only user. -/
theorem run_complete (request : MonitorRequest)
    {s : System Question Answer CacheError (CompletionResult × List Held) World}
    (hs : s.script 0 = completeScript P client request) :
    Run serve s ⟨(alone (answer client) (completeScript P client request) s.world).2,
      Function.update s.script 0
        (.ofExcept (alone (answer client) (completeScript P client request) s.world).1)⟩ :=
  run_alone serve_answer hs

/-- How a load ends that finds the entries so. -/
def found (P : Pydantic Moment) (entries : Key → Option (List Char)) (path : Key) :
    Except CacheError (CachedCompletion P) :=
  match checkPath path.1 path.2 with
  | .error message => .error (.value message)
  | .ok () => match entries path with
    | none => .error (.miss path.1 path.2)
    | some text => loadEnd P path.1 path.2 text

lemma alone_load (path : Key) :
    alone (answer client) (load P path.1 path.2) w = (found P w.entries path, w) := by
  unfold load found
  rcases checkPath path.1 path.2 with message | ⟨⟩
  · rfl
  rcases hentry : w.entries path with _ | text
  · simp [check, ask, Script.query, alone, answer, hentry]
  · rcases hdecode : decode P path.1 path.2 text with message | entry <;>
      simp [check, ask, Script.query, alone, answer, hentry, loadEnd, hdecode]

def published (entries : Key → Option (List Char)) (path : Key) (encoded : List Char) :
    Except CacheError Unit × (Key → Option (List Char)) :=
  match entries path with
  | none => (.ok (), Function.update entries path (some encoded))
  | some text => (compareEntry encoded (some text), entries)

lemma alone_publish (path : Key) (encoded : List Char) :
    alone (answer client) (publish path encoded) w =
      ((published w.entries path encoded).1,
        { w with
          entries := (published w.entries path encoded).2
          temporaries := Function.update w.temporaries 0 none }) := by
  unfold publish published
  rcases hentry : w.entries path with _ | text <;>
    simp [ask, Script.query, alone, answer, hentry, linkEntry, cleanUp, alone_ofExcept]

variable (client w positions build) in
/-- A held call without a text leaves the entries as they are, and another publishes its text. -/
lemma alone_place (written : ℕ) (call : Held) :
    (∃ e, placedText positions build written call = .error e ∧
      alone (answer client) (place positions build written call) w = (.error e, w)) ∨
    ∃ text, placedText positions build written call = .ok text ∧
      alone (answer client) (place positions build written call) w =
        ((published w.entries call.1.key text).1.mapError .cache,
          { w with
            entries := (published w.entries call.1.key text).2
            temporaries := Function.update w.temporaries 0 none }) := by
  unfold place placedText
  rcases positions (sha256_text call.1.user_content) with _ | ⟨leg, step_index⟩
  · exact .inl ⟨unplaced, rfl, rfl⟩
  rcases hbuild : build written call.1 call.2 leg step_index with message | provenance
  · exact .inl ⟨.provenance message, by simp [hbuild], by simp [hbuild, alone]⟩
  rcases hencode : encode (recordArguments call.1.toCompletionRequest call.2 provenance) with
    message | text
  · refine .inl ⟨.cache (.value message), by simp [hbuild, hencode, Except.mapError], ?_⟩
    simp [hbuild, store, hencode, check, alone]
  · refine .inr ⟨text, by simp [hbuild, hencode, Except.mapError], ?_⟩
    have hkey : ((recordArguments call.1.toCompletionRequest call.2 provenance).model,
      (recordArguments call.1.toCompletionRequest call.2 provenance).prompt_sha256) =
        call.1.key := rfl
    simp only [hbuild, store, hencode, check, Script.bind_eq, Script.bind_ret, alone_elim, hkey,
      alone_publish]
    rcases (published w.entries call.1.key text).1 with e | ⟨⟩ <;> rfl

/-! ### The loop -/

lemma published_grows {entries : Key → Option (List Char)} {path path' : Key}
    {encoded text : List Char} (h : entries path = some text) :
    (published entries path' encoded).2 path = some text := by
  unfold published
  rcases hentry : entries path' with _ | text'
  · have hne : path ≠ path' := by
      rintro rfl
      rw [h] at hentry
      cases hentry
    simp only [Function.update_of_ne hne, h]
  · exact h

lemma place_grows {written : ℕ} {call : Held} {path : Key} {text : List Char}
    (h : w.entries path = some text) :
    (alone (answer client) (place positions build written call) w).2.entries path = some text := by
  rcases alone_place client w positions build written call with ⟨e, -, halone⟩ | ⟨_, -, halone⟩
  · rw [halone]
    exact h
  · rw [halone]
    exact published_grows h

variable (client) in
lemma place_fresh {written : ℕ} {call : Held} {text : List Char}
    (htext : placedText positions build written call = .ok text)
    (hfresh : w.entries call.1.key = none) :
    alone (answer client) (place positions build written call) w =
      (.ok (), { w with
        entries := Function.update w.entries call.1.key (some text)
        temporaries := Function.update w.temporaries 0 none }) := by
  rcases alone_place client w positions build written call with
    ⟨e, herror, -⟩ | ⟨text', htext', halone⟩
  · rw [htext] at herror
    cases herror
  · rw [htext] at htext'
    cases htext'
    rw [halone]
    simp only [published, hfresh]
    rfl

lemma text_of_place {written : ℕ} {call : Held}
    (h : (alone (answer client) (place positions build written call) w).1 = .ok ()) :
    ∃ text, placedText positions build written call = .ok text := by
  rcases alone_place client w positions build written call with ⟨e, -, halone⟩ | ⟨text, htext, -⟩
  · rw [halone] at h
    cases h
  · exact ⟨text, htext⟩

variable (client w positions build) in
lemma writeFrom_cons (written : ℕ) (call : Held) (calls : List Held) :
    (∃ e, (alone (answer client) (place positions build written call) w).1 = .error e ∧
      alone (answer client) (writeFrom positions build written (call :: calls)) w =
        (.error e, (alone (answer client) (place positions build written call) w).2)) ∨
    (alone (answer client) (place positions build written call) w).1 = .ok () ∧
      alone (answer client) (writeFrom positions build written (call :: calls)) w =
        alone (answer client) (writeFrom positions build (written + 1) calls)
          (alone (answer client) (place positions build written call) w).2 := by
  rw [writeFrom, Script.bind_eq_elim, alone_elim]
  rcases (alone (answer client) (place positions build written call) w).1 with e | ⟨⟩
  · exact .inl ⟨e, rfl, rfl⟩
  · exact .inr ⟨rfl, rfl⟩

lemma writeFrom_grows {calls : List Held} {written : ℕ} {path : Key} {text : List Char}
    (h : w.entries path = some text) :
    (alone (answer client) (writeFrom positions build written calls) w).2.entries path =
      some text := by
  induction calls generalizing written w with
  | nil => exact h
  | cons call calls ih =>
    rcases writeFrom_cons client w positions build written call calls with
      ⟨e, -, hcons⟩ | ⟨-, hcons⟩
    · rw [hcons]
      exact place_grows h
    · rw [hcons]
      exact ih (place_grows h)

lemma texts_of_writeFrom {calls : List Held} {written total : ℕ}
    (h : (alone (answer client) (writeFrom positions build written calls) w).1 = .ok total) :
    ∀ n call, calls[n]? = some call →
      ∃ text, placedText positions build (written + n) call = .ok text := by
  induction calls generalizing written w with
  | nil => simp
  | cons first calls ih =>
    rcases writeFrom_cons client w positions build written first calls with
      ⟨e, -, hcons⟩ | ⟨hplace, hcons⟩
    · rw [hcons] at h
      cases h
    · rw [hcons] at h
      intro n call hcall
      cases n with
      | zero =>
        obtain rfl : first = call := by simpa using hcall
        exact text_of_place hplace
      | succ n =>
        have htext := ih h n call (by simpa using hcall)
        rwa [Nat.add_assoc, Nat.add_comm 1 n] at htext

/-- The calls have keys of their own and no entries yet. -/
structure Fresh (entries : Key → Option (List Char)) (calls : List Held) : Prop where
  absent : ∀ call ∈ calls, entries call.1.key = none
  distinct : (calls.map fun call => call.1.key).Nodup

variable (client) in
lemma writeFrom_fresh {calls : List Held} {written : ℕ} (hfresh : Fresh w.entries calls)
    (htexts : ∀ n call, calls[n]? = some call →
      ∃ text, placedText positions build (written + n) call = .ok text) :
    (alone (answer client) (writeFrom positions build written calls) w).1 =
        .ok (written + calls.length) ∧
      ∀ n call, calls[n]? = some call →
        ∃ text, placedText positions build (written + n) call = .ok text ∧
          (alone (answer client) (writeFrom positions build written calls) w).2.entries
            call.1.key = some text := by
  induction calls generalizing written w with
  | nil => simp [writeFrom, alone]
  | cons first calls ih =>
    obtain ⟨text, htext⟩ := htexts 0 first rfl
    rw [Nat.add_zero] at htext
    have hplace := place_fresh client htext
      (hfresh.absent first (List.mem_cons_self ..))
    rcases writeFrom_cons client w positions build written first calls with
      ⟨e, herror, -⟩ | ⟨-, hcons⟩
    · rw [hplace] at herror
      cases herror
    rw [hcons, hplace]
    obtain ⟨hnotin, hdistinct⟩ := List.nodup_cons.mp hfresh.distinct
    -- the keys still to come stay without an entry, as they are other keys
    have hrest : Fresh (Function.update w.entries first.1.key (some text)) calls := by
      refine ⟨fun call hcall => ?_, hdistinct⟩
      have hne : call.1.key ≠ first.1.key := by
        intro heq
        exact hnotin (List.mem_map.mpr ⟨call, hcall, heq⟩)
      rw [Function.update_of_ne hne]
      exact hfresh.absent call (List.mem_cons_of_mem _ hcall)
    have hlater : ∀ n call, calls[n]? = some call →
        ∃ text, placedText positions build (written + 1 + n) call = .ok text := by
      intro n call hcall
      rw [Nat.add_assoc, Nat.add_comm 1 n]
      exact htexts (n + 1) call (by simpa using hcall)
    obtain ⟨htotal, hstored⟩ := ih
      (w := { w with
        entries := Function.update w.entries first.1.key (some text)
        temporaries := Function.update w.temporaries 0 none }) hrest hlater
    refine ⟨?_, fun n call hcall => ?_⟩
    · rw [htotal, List.length_cons]
      congr 1
      omega
    · cases n with
      -- the first entry survives what is published after it
      | zero =>
        obtain rfl : first = call := by simpa using hcall
        refine ⟨text, htext, writeFrom_grows ?_⟩
        simp
      | succ n =>
        have hlast := hstored n call (by simpa using hcall)
        rwa [Nat.add_assoc, Nat.add_comm 1 n] at hlast

variable (client w) in
lemma writeFrom_refused (calls : List Held) {written : ℕ} {first : Held}
    (hno : ¬∃ text, placedText positions build written first = .ok text) :
    ∃ e, (alone (answer client) (writeFrom positions build written (first :: calls)) w) =
      (.error e, w) := by
  rcases alone_place client w positions build written first with
    ⟨e, -, halone⟩ | ⟨text, htext, -⟩
  · rcases writeFrom_cons client w positions build written first calls with
      ⟨e', -, hcons⟩ | ⟨hplace, -⟩
    · exact ⟨e', by rw [hcons, halone]⟩
    · rw [halone] at hplace
      cases hplace
  · exact absurd ⟨text, htext⟩ hno

end

/-! ### Asking once, and writing all or nothing -/

section
variable (client : DeferredMonitorCaptureClient) (positions : Positions) (build : Builder P)
  (s : State)

/-- Every held call has a text at the places that are given. -/
def Placed : Prop :=
  ∀ n call, s.pending[n]? = some call → ∃ text, placedText positions build n call = .ok text

/-- A write stores every held call and holds none, or raises and leaves the entries and the held
calls as they were. -/
def AllOrNothing : Prop :=
  ((client.write positions build s).1 = .ok s.pending.length ∧
    (client.write positions build s).2.pending = [] ∧
    ∀ n call, s.pending[n]? = some call → ∃ text, placedText positions build n call = .ok text ∧
      (client.write positions build s).2.world.entries call.1.key = some text) ∨
  ((∃ e, (client.write positions build s).1 = .error e) ∧
    (client.write positions build s).2.pending = s.pending ∧
    (client.write positions build s).2.world.entries = s.world.entries)

/-- After a write that misses a place, one that has every place succeeds. -/
def Repeatable : Prop :=
  (client.write positions build s).1 = .error unplaced →
    ∀ (positions' : Positions) (build' : Builder P), Placed positions' build' s →
      (client.write positions' build' (client.write positions build s).2).1 =
        .ok s.pending.length

end

section
variable (client : DeferredMonitorCaptureClient) (w : World)

/-- What a run from an opened client owes at each of its steps. -/
structure DefersWell (events : List (Event P)) : Prop where
  once : ∀ before, before <+: events → ((opened w).run client before).asked.Nodup
  whole : ∀ before positions build, before ++ [.write positions build] <+: events →
    AllOrNothing client positions build ((opened w).run client before).state
  again : ∀ before positions build, before ++ [.write positions build] <+: events →
    Repeatable client positions build ((opened w).run client before).state

/-- What a step asks of its input: a prompt without an entry is not requested again before a write
has succeeded, and a write has a text for every held call or none for the first. -/
def Meets (s : Session) : Event P → Prop
  | .complete request => checkPath request.model request.prompt_sha256 = .ok () →
    s.state.world.entries request.key = none → request.key ∉ s.requested
  | .write positions build => Placed positions build s.state ∨
    ∀ call, s.state.pending[0]? = some call →
      ¬∃ text, placedText positions build 0 call = .ok text

end

/-! ### The invariant -/

/-- What holds while no prompt is asked for twice. -/
structure Invariant (s : Session) : Prop where
  fresh : Fresh s.state.world.entries s.state.pending
  held : ∀ call ∈ s.state.pending, call.1.key ∈ s.asked
  once : s.asked.Nodup
  asked : ∀ key ∈ s.asked, key ∈ s.requested
  requested : ∀ key ∈ s.requested, checkPath key.1 key.2 = .ok () →
    s.state.world.entries key = none → key ∈ s.asked

lemma Invariant.opened (w : World) : Invariant (opened w) where
  fresh := ⟨by simp [DeferredCapture.opened], by simp [DeferredCapture.opened]⟩
  held := by simp [DeferredCapture.opened]
  once := List.nodup_nil
  asked := by simp [DeferredCapture.opened]
  requested := by simp [DeferredCapture.opened]

section
variable {client : DeferredMonitorCaptureClient} {s : Session}

lemma found_cases (P : Pydantic Moment) (entries : Key → Option (List Char)) (path : Key) :
    (found P entries path = .error (.miss path.1 path.2) ∧ checkPath path.1 path.2 = .ok () ∧
      entries path = none) ∨
    ((∀ model prompt_sha256, found P entries path ≠ .error (.miss model prompt_sha256)) ∧
      (checkPath path.1 path.2 = .ok () → entries path ≠ none)) := by
  unfold found
  rcases checkPath path.1 path.2 with message | ⟨⟩
  · exact .inr ⟨by simp, by simp⟩
  rcases entries path with _ | text
  · exact .inl ⟨rfl, rfl, rfl⟩
  · refine .inr ⟨fun model prompt_sha256 => ?_, by simp⟩
    simp only [loadEnd]
    rcases decode P path.1 path.2 text with message | entry <;> simp

variable (client) in
lemma complete_found {request : MonitorRequest} {s : State}
    (h : ∀ model prompt_sha256, found P s.world.entries request.key ≠
      .error (.miss model prompt_sha256)) :
    (client.complete P request s).2 = s := by
  have hload : alone (answer client) (load P request.model request.prompt_sha256) s.world =
      (found P s.world.entries request.key, s.world) := alone_load request.key
  simp only [DeferredMonitorCaptureClient.complete, completeScript, ResponseCache.complete,
    Script.elim_elim, alone_elim, hload]
  rcases hfound : found P s.world.entries request.key with (⟨model, prompt⟩ | message | _) | entry
  · exact absurd hfound (h model prompt)
  · simp [alone]
  · simp [alone]
  · simp only
    rcases replay (replayClient P client.provider) request.toCompletionRequest entry with
      message | result <;> simp [check, alone]

/-- What is held of an answer of the transport. -/
def answered (request : MonitorRequest) : Except String CompletionResult → List Held
  | .ok result => if isReal result.invocation.invocation_kind then [(request, result)] else []
  | .error _ => []

lemma answered_cases (request : MonitorRequest) (r : Except String CompletionResult) :
    answered request r = [] ∨ ∃ result, answered request r = [(request, result)] := by
  rcases r with message | result
  · exact .inl rfl
  · by_cases hreal : isReal result.invocation.invocation_kind
    · exact .inr ⟨result, if_pos hreal⟩
    · exact .inl (if_neg hreal)

variable (client) in
lemma complete_missed {request : MonitorRequest} {s : State}
    (h : found P s.world.entries request.key = .error (.miss request.model request.prompt_sha256)) :
    (client.complete P request s).2.world.consulted 0 = s.world.consulted 0 ++
        [client.transport (s.world.consulted 0).length request.toCompletionRequest] ∧
      (client.complete P request s).2.world.entries = s.world.entries ∧
      (client.complete P request s).2.pending = s.pending ++ answered request
        (client.transport (s.world.consulted 0).length request.toCompletionRequest) := by
  have hload : alone (answer client) (load P request.model request.prompt_sha256) s.world =
      (found P s.world.entries request.key, s.world) := alone_load request.key
  simp only [DeferredMonitorCaptureClient.complete, completeScript, ResponseCache.complete,
    Script.elim_elim, alone_elim, hload, h, record, replayClient, Script.elim_raise]
  rcases htransport : client.transport (s.world.consulted 0).length
    request.toCompletionRequest with message | result
  · simp [ask, Script.query, check, alone, answer, htransport, answered]
  · by_cases hreal : isReal result.invocation.invocation_kind <;>
      simp [ask, Script.query, check, alone, answer, htransport, answered, hreal]

variable (client) in
/-- A call asks the transport exactly if its key is sound and has no entry, and never touches the
entries. -/
lemma complete_cases (P : Pydantic Moment) (request : MonitorRequest) (s : State) :
    ((client.complete P request s).2.world.consulted 0 = s.world.consulted 0 ∧
      (client.complete P request s).2.pending = s.pending ∧
      (client.complete P request s).2.world.entries = s.world.entries ∧
      (checkPath request.model request.prompt_sha256 = .ok () →
        s.world.entries request.key ≠ none)) ∨
    ((∃ answer, (client.complete P request s).2.world.consulted 0 =
        s.world.consulted 0 ++ [answer]) ∧
      ((client.complete P request s).2.pending = s.pending ∨
        ∃ result, (client.complete P request s).2.pending = s.pending ++ [(request, result)]) ∧
      (client.complete P request s).2.world.entries = s.world.entries ∧
      checkPath request.model request.prompt_sha256 = .ok () ∧
      s.world.entries request.key = none) := by
  rcases found_cases P s.world.entries request.key with ⟨hmiss, hpath, hnone⟩ | ⟨hfound, hentry⟩
  · obtain ⟨hconsulted, hentries, hpending⟩ := complete_missed client hmiss
    refine .inr ⟨⟨_, hconsulted⟩, ?_, hentries, hpath, hnone⟩
    rw [hpending]
    rcases answered_cases request
      (client.transport (s.world.consulted 0).length request.toCompletionRequest) with
      hnothing | ⟨result, hheld⟩
    · exact .inl (by rw [hnothing, List.append_nil])
    · exact .inr ⟨result, by rw [hheld]⟩
  · have hsame := complete_found client hfound
    exact .inl ⟨by rw [hsame], by rw [hsame], by rw [hsame], hentry⟩

section
variable {positions : Positions} {build : Builder P} {s : State}

lemma write_ok {total : ℕ}
    (h : (alone (answer client) (writeFrom positions build 0 s.pending) s.world).1 = .ok total) :
    client.write positions build s =
      (.ok total,
        ⟨(alone (answer client) (writeFrom positions build 0 s.pending) s.world).2, []⟩) := by
  unfold DeferredMonitorCaptureClient.write
  split
  · rename_i heq
    rw [heq] at h
    cases h
    rw [heq]
  · rename_i heq
    rw [heq] at h
    cases h

lemma write_error {e : CaptureError}
    (h : (alone (answer client) (writeFrom positions build 0 s.pending) s.world).1 = .error e) :
    client.write positions build s =
      (.error e, ⟨(alone (answer client) (writeFrom positions build 0 s.pending) s.world).2,
        s.pending⟩) := by
  unfold DeferredMonitorCaptureClient.write
  split
  · rename_i heq
    rw [heq] at h
    cases h
  · rename_i heq
    rw [heq] at h
    cases h
    rw [heq]

variable (client) in
lemma write_placed (hfresh : Fresh s.world.entries s.pending)
    (hplaced : Placed positions build s) :
    (client.write positions build s).1 = .ok s.pending.length ∧
      (client.write positions build s).2.pending = [] ∧
      ∀ n call, s.pending[n]? = some call → ∃ text, placedText positions build n call = .ok text ∧
        (client.write positions build s).2.world.entries call.1.key = some text := by
  have htexts : ∀ n call, s.pending[n]? = some call →
      ∃ text, placedText positions build (0 + n) call = .ok text := by
    intro n call hcall
    rw [Nat.zero_add]
    exact hplaced n call hcall
  obtain ⟨htotal, hstored⟩ := writeFrom_fresh client hfresh htexts
  rw [Nat.zero_add] at htotal
  rw [write_ok htotal]
  refine ⟨rfl, rfl, fun n call hcall => ?_⟩
  have hlast := hstored n call hcall
  rwa [Nat.zero_add] at hlast

variable (client) in
lemma write_refused {first : Held} (hfirst : s.pending[0]? = some first)
    (hno : ¬∃ text, placedText positions build 0 first = .ok text) :
    ∃ e, client.write positions build s = (.error e, s) := by
  obtain ⟨world, pending⟩ := s
  cases pending with
  | nil => cases hfirst
  | cons call calls =>
    obtain rfl : call = first := by simpa using hfirst
    obtain ⟨e, halone⟩ := writeFrom_refused client world calls hno
    refine ⟨e, ?_⟩
    rw [write_error (congrArg Prod.fst halone), halone]

variable (client) in
lemma allOrNothing_iff (hfresh : Fresh s.world.entries s.pending) :
    AllOrNothing client positions build s ↔ Placed positions build s ∨
      ∀ call, s.pending[0]? = some call →
        ¬∃ text, placedText positions build 0 call = .ok text := by
  constructor
  · intro h
    rcases hr : (alone (answer client) (writeFrom positions build 0 s.pending) s.world).1 with
      e | total
    · -- the loop stopped: had the first call a text, its entry would be there
      right
      intro first hfirst ⟨text, htext⟩
      rcases h with ⟨hok, -⟩ | ⟨-, -, hentries⟩
      · rw [write_error hr] at hok
        cases hok
      · have hmem : first ∈ s.pending := List.mem_of_getElem? hfirst
        have hnone := hfresh.absent first hmem
        have hsome : (client.write positions build s).2.world.entries first.1.key =
            some text := by
          rw [write_error hr]
          obtain ⟨world, pending⟩ := s
          cases pending with
          | nil => cases hfirst
          | cons call calls =>
            obtain rfl : call = first := by simpa using hfirst
            have hplace := place_fresh client htext hnone
            rcases writeFrom_cons client world positions build 0 call calls with
              ⟨e', herror, -⟩ | ⟨-, hcons⟩
            · rw [hplace] at herror
              cases herror
            · rw [hcons, hplace]
              exact writeFrom_grows (Function.update_self ..)
        rw [hentries, hnone] at hsome
        cases hsome
    · -- the loop went through, so every call had its text
      left
      intro n call hcall
      have htext := texts_of_writeFrom hr n call hcall
      rwa [Nat.zero_add] at htext
  · rintro (hplaced | hno)
    · exact .inl (write_placed client hfresh hplaced)
    · -- a write of nothing has every text
      rcases hfirst : s.pending[0]? with _ | first
      · have hempty : Placed positions build s := by
          intro n call hcall
          rw [List.getElem?_eq_none_iff, Nat.le_zero, List.length_eq_zero_iff] at hfirst
          rw [hfirst] at hcall
          cases hcall
        exact .inl (write_placed client hfresh hempty)
      · obtain ⟨e, hwrite⟩ := write_refused client hfirst (hno first hfirst)
        refine .inr ?_
        rw [hwrite]
        exact ⟨⟨e, rfl⟩, rfl, rfl⟩

lemma repeatable_of_allOrNothing (hfresh : Fresh s.world.entries s.pending)
    (h : AllOrNothing client positions build s) : Repeatable client positions build s := by
  intro hunplaced positions' build' hplaced
  rcases h with ⟨hok, -⟩ | ⟨-, hpending, hentries⟩
  · rw [hok] at hunplaced
    cases hunplaced
  · have hstill : Fresh (client.write positions build s).2.world.entries
        (client.write positions build s).2.pending := by
      rw [hpending, hentries]
      exact hfresh
    have hagain : Placed positions' build' (client.write positions build s).2 := by
      unfold Placed
      rw [hpending]
      exact hplaced
    have hwrite := (write_placed client hstill hagain).1
    rwa [hpending] at hwrite

end

/-! ### Runs -/

lemma Invariant.complete (hs : Invariant s) {request : MonitorRequest}
    (hmeets : Meets s (.complete request : Event P)) :
    Invariant (s.step client (.complete request : Event P)) := by
  rcases complete_cases client P request s.state with
    ⟨hconsulted, hpending, hentries, hentry⟩ |
      ⟨⟨answer, hconsulted⟩, hpending, hentries, hpath, hnone⟩
  · -- a hit, or an unsound key: the transport was not asked
    refine ⟨?_, ?_, ?_, ?_, ?_⟩
    all_goals simp only [Session.step, hconsulted, hpending, hentries, ↓reduceIte]
    · exact hs.fresh
    · exact hs.held
    · exact hs.once
    · exact fun key hkey => List.mem_cons_of_mem _ (hs.asked key hkey)
    · intro key hkey hsound hno
      rcases List.mem_cons.mp hkey with rfl | hold
      · exact absurd hno (hentry hsound)
      · exact hs.requested key hold hsound hno
  · -- a miss: the transport was asked, and the key is a new one
    have hnew : request.key ∉ s.asked := fun h => hmeets hpath hnone (hs.asked _ h)
    have hnothere : ∀ call ∈ s.state.pending, call.1.key ≠ request.key := by
      intro call hcall heq
      exact hnew (heq ▸ hs.held call hcall)
    have hasked : (s.step client (.complete request : Event P)).asked = request.key :: s.asked := by
      simp [Session.step, hconsulted]
    refine ⟨?_, ?_, ?_, ?_, ?_⟩
    · simp only [Session.step, hentries]
      -- what came from a model is held, under a key of its own
      rcases hpending with hsame | ⟨result, hheld⟩
      · rw [hsame]
        exact hs.fresh
      · rw [hheld]
        refine ⟨fun call hcall => ?_, ?_⟩
        · rcases List.mem_append.mp hcall with hold | hlast
          · exact hs.fresh.absent call hold
          · obtain rfl := List.mem_singleton.mp hlast
            exact hnone
        · rw [List.map_append, List.map_singleton, List.nodup_append]
          refine ⟨hs.fresh.distinct, List.nodup_singleton _, ?_⟩
          intro key hkey key' hkey' heq
          obtain ⟨call, hcall, rfl⟩ := List.mem_map.mp hkey
          exact hnothere call hcall (heq.trans (List.mem_singleton.mp hkey'))
    · rw [hasked]
      intro call hcall
      simp only [Session.step] at hcall
      rcases hpending with hsame | ⟨result, hheld⟩
      · rw [hsame] at hcall
        exact List.mem_cons_of_mem _ (hs.held call hcall)
      · rw [hheld] at hcall
        rcases List.mem_append.mp hcall with hold | hlast
        · exact List.mem_cons_of_mem _ (hs.held call hold)
        · obtain rfl := List.mem_singleton.mp hlast
          exact List.mem_cons_self ..
    · rw [hasked]
      exact List.nodup_cons.mpr ⟨hnew, hs.once⟩
    · rw [hasked]
      intro key hkey
      rcases List.mem_cons.mp hkey with rfl | hold
      · exact List.mem_cons_self ..
      · exact List.mem_cons_of_mem _ (hs.asked key hold)
    · rw [hasked]
      simp only [Session.step, hentries]
      intro key hkey hsound hno
      rcases List.mem_cons.mp hkey with rfl | hold
      · exact List.mem_cons_self ..
      · exact List.mem_cons_of_mem _ (hs.requested key hold hsound hno)

lemma nodup_complete_iff (hs : Invariant s) {request : MonitorRequest} :
    (s.step client (.complete request : Event P)).asked.Nodup ↔
      Meets s (.complete request : Event P) := by
  refine ⟨fun h hpath hnone hrequested => ?_, fun h => (hs.complete h).once⟩
  rcases complete_cases client P request s.state with
    ⟨-, -, -, hentry⟩ | ⟨⟨answer, hconsulted⟩, -, -, -, -⟩
  · exact hentry hpath hnone
  · have hasked : (s.step client (.complete request : Event P)).asked =
        request.key :: s.asked := by
      simp [Session.step, hconsulted]
    rw [hasked] at h
    exact (List.nodup_cons.mp h).1 (hs.requested _ hrequested hpath hnone)

/-- What a step owes. -/
def Owed (client : DeferredMonitorCaptureClient) (s : Session) (event : Event P) : Prop :=
  match event with
  | .complete request => (s.step client (.complete request : Event P)).asked.Nodup
  | .write positions build =>
    AllOrNothing client positions build s.state ∧ Repeatable client positions build s.state

lemma owed_iff (hs : Invariant s) (event : Event P) : Owed client s event ↔ Meets s event := by
  cases event with
  | complete request => exact nodup_complete_iff hs
  | write positions build =>
    rw [Meets, ← allOrNothing_iff client hs.fresh]
    exact ⟨fun h => h.1, fun h => ⟨h, repeatable_of_allOrNothing hs.fresh h⟩⟩

lemma Invariant.step (hs : Invariant s) {event : Event P} (hmeets : Meets s event) :
    Invariant (s.step client event) := by
  cases event with
  | complete request => exact hs.complete hmeets
  | write positions build =>
    rcases (allOrNothing_iff client hs.fresh).mpr hmeets with
      ⟨hok, hpending, -⟩ | ⟨⟨e, herror⟩, hpending, hentries⟩
    · -- everything was stored, and the client starts afresh
      rcases hwrite : client.write positions build s.state with ⟨r, next⟩
      rw [hwrite] at hok hpending
      obtain rfl : r = .ok s.state.pending.length := hok
      have hstep : s.step client (.write positions build) = ⟨next, [], []⟩ := by
        simp only [Session.step, hwrite]
      rw [hstep]
      refine ⟨⟨?_, ?_⟩, ?_, List.nodup_nil, ?_, ?_⟩
      all_goals simp_all
    · -- nothing was stored, and nothing is forgotten
      rcases hwrite : client.write positions build s.state with ⟨r, next⟩
      rw [hwrite] at herror hpending hentries
      obtain rfl : r = .error e := herror
      have hstep : s.step client (.write positions build) = ⟨next, s.requested, s.asked⟩ := by
        simp only [Session.step, hwrite]
      rw [hstep]
      refine ⟨?_, ?_, hs.once, hs.asked, ?_⟩
      · simp only at hpending hentries ⊢
        rw [hpending, hentries]
        exact hs.fresh
      · simp only at hpending ⊢
        rw [hpending]
        exact hs.held
      · simp only at hentries ⊢
        rw [hentries]
        exact hs.requested

lemma run_snoc (before : List (Event P)) (event : Event P) :
    s.run client (before ++ [event]) = (s.run client before).step client event := by
  simp [Session.run]

variable (client) in
lemma invariant_run (w : World) (events : List (Event P))
    (h : ∀ before event, before ++ [event] <+: events →
      Invariant ((opened w).run client before) →
        Meets ((opened w).run client before) event) :
    ∀ before, before <+: events → Invariant ((opened w).run client before) := by
  intro before
  induction before using List.reverseRecOn with
  | nil => exact fun _ => .opened w
  | append_singleton before event ih =>
    intro hprefix
    have hbefore := ih ((List.prefix_append before [event]).trans hprefix)
    rw [run_snoc]
    exact hbefore.step (h before event hprefix hbefore)

/-- A deferred capture asks once and writes all or nothing exactly if each of its steps meets the
condition. -/
theorem defers_well_iff (P : Pydantic Moment) (client : DeferredMonitorCaptureClient) (w : World)
    (events : List (Event P)) :
    DefersWell client w events ↔ ∀ before event, before ++ [event] <+: events →
      Meets ((opened w).run client before) event := by
  constructor
  · intro h
    have howed : ∀ before event, before ++ [event] <+: events →
        Owed client ((opened w).run client before) event := by
      intro before event hprefix
      cases event with
      | complete request =>
        have honce := h.once _ hprefix
        rwa [run_snoc] at honce
      | write positions build =>
        exact ⟨h.whole before positions build hprefix, h.again before positions build hprefix⟩
    -- the invariant carries the run as far as its steps owe what they are asked
    have hinvariant := invariant_run client w events
      fun before event hprefix hs => (owed_iff hs event).mp (howed before event hprefix)
    intro before event hprefix
    have hs := hinvariant before ((List.prefix_append before [event]).trans hprefix)
    exact (owed_iff hs event).mp (howed before event hprefix)
  · intro h
    have hinvariant := invariant_run client w events
      fun before event hprefix _ => h before event hprefix
    have howed : ∀ before positions build, before ++ [Event.write positions build] <+: events →
        Owed client ((opened w).run client before) (.write positions build) := by
      intro before positions build hprefix
      have hs := hinvariant before ((List.prefix_append before _).trans hprefix)
      exact (owed_iff hs _).mpr (h before _ hprefix)
    exact {
      once := fun before hprefix => (hinvariant before hprefix).once
      whole := fun before positions build hprefix => (howed before positions build hprefix).1
      again := fun before positions build hprefix => (howed before positions build hprefix).2 }

end

/-! ### Two runs that go wrong -/

/-- A client whose transport gives one answer. -/
def capturingClient : DeferredMonitorCaptureClient where
  provider := "local"
  transport _ _ := .ok sampleResult

def firstRequest : MonitorRequest := { sampleRequest with user_content := "first" }

def secondRequest : MonitorRequest where
  model := "qwen3-14b"
  schema := sampleSchema
  canonical_prompt := "second prompt"
  prompt_sha256 := sha256_text "second prompt"
  user_content := "second"

/-- The episode accounts for the first text only. -/
def firstOnly : Positions := fun text =>
  if text = sha256_text "first" then some ("incident", 0) else none

def sampleBuilder : Builder textual := fun _ _ _ _ _ => .ok sampleProvenance

def repeated : List (Event textual) := [.complete firstRequest, .complete firstRequest]

def halfPlaced : List (Event textual) :=
  [.complete firstRequest, .complete secondRequest, .write firstOnly sampleBuilder]

lemma meets_new {s : Session} {request : MonitorRequest} (h : request.key ∉ s.requested) :
    Meets s (.complete request : Event P) := fun _ _ => h

lemma sound_key {model : String} (text : String) (h : modelPattern.fullmatch model = true) :
    checkPath model (sha256_text text) = .ok () := by
  rw [checkPath, h, sha256_text, hexdigest_matches]
  rfl

lemma sound_first : checkPath firstRequest.model firstRequest.prompt_sha256 = .ok () :=
  sound_key "prompt" (by decide +kernel)

lemma sound_second : checkPath secondRequest.model secondRequest.prompt_sha256 = .ok () :=
  sound_key "second prompt" (by decide +kernel)

lemma pending_of_missed {s : Session} {request : MonitorRequest}
    (hpath : checkPath request.model request.prompt_sha256 = .ok ())
    (hnone : s.state.world.entries request.key = none) :
    (s.step capturingClient (.complete request : Event textual)).state.pending =
      s.state.pending ++ [(request, sampleResult)] := by
  rcases found_cases textual s.state.world.entries request.key with ⟨hmiss, -, -⟩ | ⟨-, hentry⟩
  · have hanswer : answered request (capturingClient.transport
        (s.state.world.consulted 0).length request.toCompletionRequest) =
          [(request, sampleResult)] := rfl
    rw [Session.state_complete, (complete_missed capturingClient hmiss).2.2, hanswer]
  · exact absurd hnone (hentry hpath)

lemma entries_complete {client : DeferredMonitorCaptureClient} {s : Session}
    (request : MonitorRequest) :
    (s.step client (.complete request : Event P)).state.world.entries = s.state.world.entries := by
  rw [Session.state_complete]
  rcases complete_cases client P request s.state with ⟨-, -, hentries, -⟩ | ⟨-, -, hentries, -, -⟩
  · exact hentries
  · exact hentries

lemma sample_text : ∃ text, placedText firstOnly sampleBuilder 0 (firstRequest, sampleResult) =
    .ok text := by
  obtain ⟨text, build, provenance, hbuild, -, -, -, hprovenance, hencode⟩ := sample_records none
  obtain rfl := Option.some.inj hbuild
  obtain rfl : sampleProvenance = provenance := Except.ok.inj hprovenance
  refine ⟨text, ?_⟩
  have hfirst : firstOnly (sha256_text firstRequest.user_content) = some ("incident", 0) :=
    if_pos rfl
  simp only [placedText, hfirst, sampleBuilder]
  rw [show firstRequest.toCompletionRequest = sampleRequest from rfl, hencode]
  rfl

lemma second_unplaced : placedText firstOnly sampleBuilder 1 (secondRequest, sampleResult) =
    .error unplaced := by
  have hother : sha256_text "second" ≠ sha256_text "first" := by
    intro heq
    have hfirst : (sha256_text "first").toList.head? = some 'a' := by decide +kernel
    have hsecond : (sha256_text "second").toList.head? = some '1' := by decide +kernel
    rw [heq, hfirst] at hsecond
    cases hsecond
  have hsecond : firstOnly (sha256_text secondRequest.user_content) = none := if_neg hother
  rw [placedText, hsecond]

/-- A prompt that is repeated before a write is asked for twice, and a write that misses a later
place has stored the calls before it. -/
theorem repeated_and_half_placed :
    ¬DefersWell capturingClient emptyWorld repeated ∧
      ¬DefersWell capturingClient emptyWorld halfPlaced := by
  have hmeets : Meets (opened emptyWorld) (.complete firstRequest : Event textual) :=
    meets_new List.not_mem_nil
  have hs : Invariant ((opened emptyWorld).step capturingClient
      (.complete firstRequest : Event textual)) := (Invariant.opened emptyWorld).step hmeets
  have hentries : ((opened emptyWorld).step capturingClient
      (.complete firstRequest : Event textual)).state.world.entries = emptyWorld.entries :=
    entries_complete firstRequest
  constructor
  · -- the second request of the prompt is a miss again
    intro h
    have honce : Meets ((opened emptyWorld).step capturingClient
        (.complete firstRequest : Event textual)) (.complete firstRequest : Event textual) :=
      (nodup_complete_iff hs).mp (h.once repeated (List.prefix_refl _))
    refine honce sound_first (by rw [hentries]; rfl) ?_
    rw [Session.requested_complete]
    exact List.mem_cons_self ..
  · -- the first call has a place and the second has none
    intro h
    have hnext : secondRequest.key ∉ [firstRequest.key] := by
      intro hmem
      exact absurd (congrArg Prod.fst (List.mem_singleton.mp hmem)) (by decide)
    have hmeets' : Meets ((opened emptyWorld).step capturingClient
        (.complete firstRequest : Event textual)) (.complete secondRequest : Event textual) :=
      meets_new hnext
    have hpending := pending_of_missed (s := opened emptyWorld) sound_first rfl
    have hpending' := pending_of_missed (s := (opened emptyWorld).step capturingClient
      (.complete firstRequest : Event textual)) sound_second (by rw [hentries]; rfl)
    rw [hpending] at hpending'
    have hwhole := h.whole [.complete firstRequest, .complete secondRequest] firstOnly
      sampleBuilder (List.prefix_refl _)
    rcases (allOrNothing_iff capturingClient (hs.step hmeets').fresh).mp hwhole with
      hplaced | hno
    · obtain ⟨text, htext⟩ := hplaced 1 (secondRequest, sampleResult) (by rw [hpending']; rfl)
      rw [second_unplaced] at htext
      cases htext
    · exact hno (firstRequest, sampleResult) (by rw [hpending']; rfl) sample_text

end IncidentGate.DeferredCapture
