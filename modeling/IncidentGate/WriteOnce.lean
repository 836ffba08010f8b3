import IncidentGate.ResponseCache

/-!
Stores and loads of any number of processes, interleaved in any way.

The link decides: the first store to link a key's file succeeds, and from then on every load
of the key answers with what that store was given.
-/

namespace IncidentGate.WriteOnce

open Lib.JsonText Lib.JsonRead Lib.TextPattern Lib.ScriptTree Lib.Interleaving
open Invocations Provenance ResponseCache

variable {Moment : Type} {P : Pydantic Moment}

/-! ### Terms -/

/-- What an operation of the cache or of a client returns. -/
inductive Result (P : Pydantic Moment) where
  | stored
  | loaded (c : CachedCompletion P)
  | completed (r : CompletionResult)

abbrev CacheSystem (P : Pydantic Moment) := System Question Answer CacheError (Result P) World

/-- What a call links for a key, after the answers it heard and with the rest of its script. -/
abbrev Offer (P : Pydantic Moment) :=
  ℕ → List (Except String CompletionResult) → Key → List Char → CacheScript (Result P) → Prop

/-- Entries stay as they are, and a call's temporary file and consultations are its own. -/
def terms (offer : Offer P) :
    Terms Question Answer CacheError (Result P) World where
  rely i w w' :=
    (∀ path text, w.entries path = some text → w'.entries path = some text) ∧
      w'.temporaries i = w.temporaries i ∧ w'.consulted i = w.consulted i
  promise i w w' rest :=
    (∀ path text, w.entries path = some text → w'.entries path = some text) ∧
      (∀ j ≠ i, w'.temporaries j = w.temporaries j ∧ w'.consulted j = w.consulted j) ∧
      ∀ path text, w.entries path = none → w'.entries path = some text →
        offer i (w.consulted i) path text rest
  refl _ _ := ⟨fun _ _ h => h, rfl, rfl⟩
  trans h h' := ⟨fun path text ht => h'.1 path text (h.1 path text ht),
    h'.2.1.trans h.2.1, h'.2.2.trans h.2.2⟩
  keeps h hj := ⟨h.1, h.2.1 _ hj⟩

variable {offer : Offer P} {i : ℕ}
  {w w' : World} {rest : CacheScript (Result P)}

lemma promise_of_entries (hentries : w'.entries = w.entries)
    (hothers : ∀ j ≠ i, w'.temporaries j = w.temporaries j ∧ w'.consulted j = w.consulted j) :
    (terms offer).promise i w w' rest := by
  refine ⟨fun path text h => by rwa [hentries], hothers, fun path text h h' => ?_⟩
  rw [hentries, h] at h'
  cases h'

lemma promise_refl : (terms offer).promise i w w rest :=
  promise_of_entries rfl fun _ _ => ⟨rfl, rfl⟩

lemma promise_temporary (t : Option (List Char)) :
    (terms offer).promise i w { w with temporaries := Function.update w.temporaries i t } rest :=
  promise_of_entries rfl fun _ hj => ⟨Function.update_of_ne hj .., rfl⟩

/-- What a call that consults nobody finds in a later world. -/
def Later (i : ℕ) (w w' : World) : Prop :=
  (∀ path text, w.entries path = some text → w'.entries path = some text) ∧
    w'.consulted i = w.consulted i

lemma Later.trans {w'' : World} (h : Later i w w') (h' : Later i w' w'') : Later i w w'' :=
  ⟨fun path text ht => h'.1 path text (h.1 path text ht), h'.2.trans h.2⟩

lemma later_of_rely (h : (terms offer).rely i w w') : Later i w w' := ⟨h.1, h.2.2⟩

/-! ### Operations -/

section

variable {path : Key} {encoded : List Char} {Q : Except CacheError (Result P) → World → Prop}

lemma ends_cleanUp (r : Except CacheError Unit) : (cleanUp r).Ends (· = r) := by
  rintro ⟨⟩ (_ | _)
  · cases r <;> rfl
  · rintro ⟨⟩
    cases r <;> rfl

lemma sure_cleanUp {r : Except CacheError Unit}
    {f : Except CacheError Unit → CacheScript (Result P)}
    (h : ∀ w', Later i w w' → w'.temporaries i = none → Sure serve (terms offer) i (f r) Q w') :
    Sure serve (terms offer) i ((cleanUp r).elim f) Q w := by
  rintro w₁ h₁ ⟨⟩ _ rfl
  refine ⟨promise_temporary none, ?_⟩
  rintro _ h₂ left w₂ ⟨hleft, rfl⟩
  have hnone : w₂.temporaries i = none := by simpa using h₂.2.1
  have hfalse : left = false := by simpa [hnone] using hleft
  subst hfalse
  refine ⟨promise_refl, ?_⟩
  have hlater : Later i w₁ w₂ := ⟨h₂.1, h₂.2.2⟩
  have hf := h w₂ ((later_of_rely h₁).trans hlater) hnone
  cases r <;> exact hf

lemma sure_publish {f : Except CacheError Unit → CacheScript (Result P)}
    (hoffer : offer i (w.consulted i) path encoded ((cleanUp (.ok ())).elim f))
    (hok : ∀ w', Later i w w' → w'.entries path = some encoded → w'.temporaries i = none →
      Sure serve (terms offer) i (f (.ok ())) Q w')
    (herror : ∀ w' found, Later i w w' → w'.entries path = some found → found ≠ encoded →
      w'.temporaries i = none → Sure serve (terms offer) i (f (.error (.value
        "refusing to overwrite a semantically different cache entry"))) Q w') :
    Sure serve (terms offer) i ((publish path encoded).elim f) Q w := by
  -- mkstemp, write
  rintro w₁ h₁ ⟨⟩ _ rfl
  refine ⟨promise_temporary (some []), ?_⟩
  rintro w₂ h₂ ⟨⟩ _ rfl
  refine ⟨promise_temporary (some encoded), ?_⟩
  -- link
  rintro w₃ h₃ linked _ ⟨hlinked, rfl⟩
  have htext : w₃.temporaries i = some encoded := by simpa using h₃.2.1
  have hwrite : Later i w₁ w₂ := ⟨h₂.1, h₂.2.2⟩
  have hlink : Later i w₂ w₃ := ⟨h₃.1, h₃.2.2⟩
  have hlater : Later i w w₃ := (later_of_rely h₁).trans (hwrite.trans hlink)
  rcases hentry : w₃.entries path with _ | found
  · have htrue : linked = true := by simpa [hentry] using hlinked
    subst htrue
    have hkept : ∀ path' text, w₃.entries path' = some text →
        Function.update w₃.entries path (w₃.temporaries i) path' = some text := by
      intro path' text htext'
      have hne : path' ≠ path := by
        rintro rfl
        rw [hentry] at htext'
        cases htext'
      rwa [Function.update_of_ne hne]
    refine ⟨⟨hkept, fun _ _ => ⟨rfl, rfl⟩, fun path' text hnone hsome => ?_⟩, ?_⟩
    · by_cases hpath : path' = path
      · subst hpath
        obtain rfl : encoded = text := by simpa [htext] using hsome
        rwa [hlater.2]
      · simp [Function.update_of_ne hpath, hnone] at hsome
    · have hlink : Later i w₃ { w₃ with
          entries := Function.update w₃.entries path (w₃.temporaries i) } := ⟨hkept, rfl⟩
      exact sure_cleanUp fun w' h hnone => hok w' (hlater.trans (hlink.trans h))
        (h.1 path encoded (by simp [htext])) hnone
  · have hfalse : linked = false := by simpa [hentry] using hlinked
    subst hfalse
    refine ⟨promise_refl, ?_⟩
    rintro _ h₄ found' w₄ ⟨hfound, rfl⟩
    have hsome : found' = some found := hfound.trans (h₄.1 path found hentry)
    subst hsome
    refine ⟨promise_refl, sure_cleanUp fun w' h hnone => ?_⟩
    have hstill : w'.entries path = some found := h.1 path found hfound.symm
    have hlast : Later i w w' := hlater.trans ((later_of_rely h₄).trans h)
    by_cases hsame : found = encoded
    · subst hsame
      simpa [compareEntry] using hok w' hlast hstill hnone
    · simpa [compareEntry, hsame] using herror w' found hlast hstill hsame hnone

variable {model prompt_sha256 : String}

/-- How a load ends that has read a text. -/
def loadEnd (P : Pydantic Moment) (model prompt_sha256 : String) (text : List Char) :
    Except CacheError (CachedCompletion P) :=
  match decode P model prompt_sha256 text with
  | .ok c => .ok c
  | .error message => .error (.value message)

/-- A load misses on the absence of an entry, and otherwise reads what is there. -/
lemma sure_load {f : Except CacheError (CachedCompletion P) → CacheScript (Result P)}
    (hkey : checkPath model prompt_sha256 = .ok ())
    (hmiss : ∀ w', Later i w w' → w'.entries (model, prompt_sha256) = none →
      Sure serve (terms offer) i (f (.error (.miss model prompt_sha256))) Q w')
    (hfound : ∀ w' text, Later i w w' → w'.entries (model, prompt_sha256) = some text →
      Sure serve (terms offer) i (f (loadEnd P model prompt_sha256 text)) Q w') :
    Sure serve (terms offer) i ((load P model prompt_sha256).elim f) Q w := by
  simp only [load, hkey, check]
  rintro _ h₁ present w₁ ⟨hpresent, rfl⟩
  refine ⟨promise_refl, ?_⟩
  rcases hentry : w₁.entries (model, prompt_sha256) with _ | text
  · have hfalse : present = false := by simpa [hentry] using hpresent
    subst hfalse
    exact hmiss w₁ (later_of_rely h₁) hentry
  · have htrue : present = true := by simpa [hentry] using hpresent
    subst htrue
    rintro _ h₂ found w₂ ⟨hfound', rfl⟩
    have hsome : found = some text := hfound'.trans (h₂.1 _ text hentry)
    subst hsome
    refine ⟨promise_refl, ?_⟩
    have hend := hfound w₂ text ((later_of_rely h₁).trans (later_of_rely h₂)) hfound'.symm
    unfold loadEnd at hend
    rcases hdecode : decode P model prompt_sha256 text with message | c <;>
      simpa [hdecode] using hend

end

/-! ### Stores and loads -/

inductive Call (P : Pydantic Moment) where
  | store (a : StoreArguments P)
  | load (model prompt_sha256 : String)

def Call.script : Call P → CacheScript (Result P)
  | .store a => (ResponseCache.store a).elim fun
    | .ok () => .ret .stored
    | .error e => .raise e
  | .load model prompt_sha256 => (ResponseCache.load P model prompt_sha256).elim fun
    | .ok c => .ret (.loaded c)
    | .error e => .raise e

/-- The calls before any of them has begun. -/
def start (calls : ℕ → Call P) (w : World) : CacheSystem P :=
  ⟨w, fun i => (calls i).script⟩

def refusal : CacheError :=
  .value "refusing to overwrite a semantically different cache entry"

/-- How a store may end: its arguments are refused, its text is the entry, or another is. -/
def StoreEnd (i : ℕ) (a : StoreArguments P) (o : Except CacheError (Result P)) (w : World) :
    Prop :=
  match encode a with
  | .error message => o = .error (.value message)
  | .ok encoded => w.temporaries i = none ∧
    ∃ found, w.entries (a.model, a.prompt_sha256) = some found ∧
      ((found = encoded ∧ o = .ok .stored) ∨ (found ≠ encoded ∧ o = .error refusal))

/-- How a load may end: it misses, or answers what the entry's text holds. -/
def LoadEnd (model prompt_sha256 : String) (o : Except CacheError (Result P)) (w : World) :
    Prop :=
  checkPath model prompt_sha256 = .ok () → o = .error (.miss model prompt_sha256) ∨
    ∃ text, w.entries (model, prompt_sha256) = some text ∧
      o = (loadEnd P model prompt_sha256 text).map .loaded

def CallEnd (i : ℕ) : Call P → Except CacheError (Result P) → World → Prop
  | .store a => StoreEnd i a
  | .load model prompt_sha256 => LoadEnd model prompt_sha256

lemma stable_callEnd (i : ℕ) (c : Call P) : Stable (terms offer) i (CallEnd i c) := by
  rintro o w w' ⟨h, htemporary, -⟩ hend
  cases c with
  | store a =>
    simp only [CallEnd, StoreEnd] at hend ⊢
    split at hend
    · exact hend
    · obtain ⟨hclean, found, hfound, ho⟩ := hend
      exact ⟨htemporary.trans hclean, found, h _ found hfound, ho⟩
  | load model prompt_sha256 =>
    intro hkey
    rcases hend hkey with ho | ⟨text, htext, ho⟩
    · exact .inl ho
    · exact .inr ⟨text, h _ text htext, ho⟩

lemma sure_store {a : StoreArguments P}
    (hoffer : ∀ encoded rest, encode a = .ok encoded → rest.Ends (· = .ok .stored) →
      offer i (w.consulted i) (a.model, a.prompt_sha256) encoded rest) :
    Sure serve (terms offer) i (Call.store a).script (StoreEnd i a) w := by
  simp only [Call.script, store]
  rcases hencode : encode a with message | encoded
  · exact (by simp [StoreEnd, hencode] : StoreEnd i a (.error (.value message)) w)
  · refine sure_publish (hoffer encoded _ hencode ?_) (fun d _ hentry hclean => ?_)
      fun d found _ hentry hne hclean => ?_
    · exact (ends_cleanUp (.ok ())).elim fun r hr => by subst hr; rfl
    · exact (by simp [StoreEnd, hencode, hentry, hclean] : StoreEnd i a (.ok .stored) d)
    · exact (by simp [StoreEnd, hencode, hentry, hne, hclean] : StoreEnd i a (.error refusal) d)

lemma sure_loadCall (model prompt_sha256 : String) (w : World) :
    Sure serve (terms offer) i (Call.load model prompt_sha256 : Call P).script
      (LoadEnd model prompt_sha256) w := by
  simp only [Call.script]
  rcases hkey : checkPath model prompt_sha256 with message | ⟨⟩
  · simp only [load, hkey, check]
    intro h
    rw [hkey] at h
    cases h
  · refine sure_load hkey (fun d _ _ _ => .inl rfl) fun d text _ htext => ?_
    rcases hend : loadEnd P model prompt_sha256 text with e | c
    · exact fun _ => .inr ⟨text, htext, by rw [hend]; rfl⟩
    · exact fun _ => .inr ⟨text, htext, by rw [hend]; rfl⟩

variable (calls : ℕ → Call P)

/-- A store of the calls links the text that its arguments encode to, and then succeeds. -/
def Offers : Offer P := fun i _ path text rest =>
  ∃ a, calls i = .store a ∧ (a.model, a.prompt_sha256) = path ∧ encode a = .ok text ∧
    rest.Ends (· = .ok .stored)

def End (i : ℕ) : Except CacheError (Result P) → World → Prop := CallEnd i (calls i)

lemma stable_end (i : ℕ) : Stable (terms (Offers calls)) i (End calls i) :=
  stable_callEnd i (calls i)

lemma allSure_start (w : World) :
    AllSure serve (terms (Offers calls)) (End calls) (start calls w) := by
  intro i
  simp only [End, start]
  rcases hi : calls i with a | ⟨model, prompt_sha256⟩
  · exact sure_store (fun encoded rest hencode hends => ⟨a, hi, rfl, hencode, hends⟩)
  · exact sure_loadCall model prompt_sha256 w

/-- Every new entry is that of a store that has linked it and can only succeed. -/
def Published (w : World) (s : CacheSystem P) : Prop :=
  ∀ path text, w.entries path = none → s.world.entries path = some text →
    ∃ j a, calls j = .store a ∧ (a.model, a.prompt_sha256) = path ∧ encode a = .ok text ∧
      (s.script j).Ends (· = .ok .stored)

variable {calls} {w : World} {s s' : CacheSystem P}

lemma allSure_of_run (hrun : Run serve (start calls w) s) :
    AllSure serve (terms (Offers calls)) (End calls) s :=
  (allSure_start calls w).run (stable_end calls) hrun

lemma published_step {i : ℕ} (hstep : Step serve i s s')
    (hpromise : (terms (Offers calls)).promise i s.world s'.world (s'.script i))
    (h : Published calls w s) : Published calls w s' := by
  intro path text hnew hentry
  rcases hold : s.world.entries path with _ | found
  · obtain ⟨a, hi, hpath, hencode, hends⟩ := hpromise.2.2 path text hold hentry
    exact ⟨i, a, hi, hpath, hencode, hends⟩
  · have hsame := hpromise.1 path found hold
    obtain rfl : found = text := by rw [hsame] at hentry; exact Option.some.inj hentry
    obtain ⟨j, a, hj, hpath, hencode, hends⟩ := h path found hnew hold
    exact ⟨j, a, hj, hpath, hencode, hstep.ends hends⟩

lemma published_of_run (hrun : Run serve (start calls w) s) : Published calls w s :=
  (allSure_start calls w).preserves (stable_end calls)
    (fun _ _ _ hstep hpromise h => published_step hstep hpromise h) hrun
    fun path text hnew hentry => by rw [start, hnew] at hentry; cases hentry

lemma entries_of_run (hrun : Run serve (start calls w) s) (hrun' : Run serve s s') {path : Key}
    {text : List Char} (h : s.world.entries path = some text) :
    s'.world.entries path = some text :=
  (allSure_of_run hrun).preserves (stable_end calls)
    (I := fun s => s.world.entries path = some text)
    (fun _ _ _ _ hpromise => hpromise.1 path text) hrun' h

lemma storeEnd_of_run (hrun : Run serve (start calls w) s) {i : ℕ} {a : StoreArguments P}
    (hi : calls i = .store a) {o : Except CacheError (Result P)} (ho : outcome s i = some o) :
    StoreEnd i a o s.world := by
  have hend := (allSure_of_run hrun).outcome ho
  simpa [End, CallEnd, hi] using hend

lemma loadEnd_of_run (hrun : Run serve (start calls w) s) {i : ℕ} {model prompt_sha256 : String}
    (hi : calls i = .load model prompt_sha256) {o : Except CacheError (Result P)}
    (ho : outcome s i = some o) : LoadEnd model prompt_sha256 o s.world := by
  have hend := (allSure_of_run hrun).outcome ho
  simpa [End, CallEnd, hi] using hend

/-- A load that begins after a key has its entry answers what the entry holds. -/
lemma load_after (hrun : Run serve (start calls w) s) {model prompt_sha256 : String}
    (hkey : checkPath model prompt_sha256 = .ok ()) {text : List Char}
    (hentry : s.world.entries (model, prompt_sha256) = some text) {i : ℕ}
    (hi : calls i = .load model prompt_sha256) (hbegun : s.script i = (calls i).script)
    (hrun' : Run serve s s') {o : Except CacheError (Result P)} (ho : outcome s' i = some o) :
    o = (loadEnd P model prompt_sha256 text).map .loaded := by
  refine (allSure_of_run hrun).later (stable_end calls) (i := i) (fun _ _ _ _ h => h) ?_ hrun' ho
    (R := fun o _ => o = (loadEnd P model prompt_sha256 text).map .loaded)
  rw [hbegun, hi]
  simp only [Call.script]
  refine sure_load hkey (fun d h hnone => ?_) fun d found h hfound => ?_
  · rw [h.1 _ text hentry] at hnone
    cases hnone
  · obtain rfl : text = found := by
      rw [h.1 _ text hentry] at hfound
      exact Option.some.inj hfound
    rcases hend : loadEnd P model prompt_sha256 text with e | c <;> rfl

lemma loadEnd_of_encode (hP : P.RoundTrips) {a : StoreArguments P} {text : List Char}
    (h : encode a = .ok text) :
    ∃ c, Given a c ∧ loadEnd P a.model a.prompt_sha256 text = .ok c := by
  obtain ⟨c, hc, hgiven⟩ := decode_encode hP h
  exact ⟨c, hgiven, by simp [loadEnd, hc]⟩

lemma encode_of_stored {i : ℕ} {a : StoreArguments P} (h : StoreEnd i a (.ok .stored) w) :
    ∃ text, encode a = .ok text ∧ w.entries (a.model, a.prompt_sha256) = some text := by
  unfold StoreEnd at h
  split at h
  · cases h
  · rename_i encoded hencode
    obtain ⟨-, found, hfound, ⟨rfl, -⟩ | ⟨-, h⟩⟩ := h
    · exact ⟨found, hencode, hfound⟩
    · cases h

/-- A step of a call that changes the entries is the link of a store that then succeeds. -/
lemma link_of_change (hrun : Run serve (start calls w) s) {i : ℕ} (hstep : Step serve i s s')
    (hchange : s'.world.entries ≠ s.world.entries) :
    (s'.script i).Ends (· = .ok .stored) := by
  have hpromise := ((allSure_of_run hrun).step (stable_end calls) hstep).1
  obtain ⟨path, hpath⟩ := Function.ne_iff.mp hchange
  rcases hold : s.world.entries path with _ | found
  · rcases hnew : s'.world.entries path with _ | text
    · exact absurd (hnew.trans hold.symm) hpath
    · obtain ⟨a, -, -, -, hends⟩ := hpromise.2.2 path text hold hnew
      exact hends
  · exact absurd ((hpromise.1 path found hold).trans hold.symm) hpath

lemma run_publish {i : ℕ} {path : Key} {encoded : List Char}
    {f : Except CacheError Unit → CacheScript (Result P)} {s : CacheSystem P}
    (hs : s.script i = (publish path encoded).elim f) (hnone : s.world.entries path = none) :
    Run serve s ⟨{ s.world with
        entries := Function.update s.world.entries path (some encoded)
        temporaries := Function.update s.world.temporaries i none },
      Function.update s.script i (f (.ok ()))⟩ := by
  refine .ask (a := ()) hs rfl ?_
  refine .ask (a := ()) (Function.update_self ..) rfl ?_
  refine .ask (a := true) (Function.update_self ..) ⟨by simp [hnone], rfl⟩ ?_
  refine .ask (a := ()) (Function.update_self ..) rfl ?_
  refine .ask (a := false) (Function.update_self ..) ⟨by simp, rfl⟩ ?_
  simp only [Function.update_self, Function.update_idem, ↓reduceIte]
  exact .refl

lemma run_load {i : ℕ} {model prompt_sha256 : String} {text : List Char}
    {f : Except CacheError (CachedCompletion P) → CacheScript (Result P)} {s : CacheSystem P}
    (hs : s.script i = (load P model prompt_sha256).elim f)
    (hkey : checkPath model prompt_sha256 = .ok ())
    (hentry : s.world.entries (model, prompt_sha256) = some text) :
    Run serve s ⟨s.world, Function.update s.script i (f (loadEnd P model prompt_sha256 text))⟩ := by
  simp only [load, hkey, check] at hs
  refine .ask (a := true) hs ⟨by simp [hentry], rfl⟩ ?_
  refine .ask (a := some text) (Function.update_self ..) ⟨hentry.symm, rfl⟩ ?_
  simp only [Function.update_idem, loadEnd]
  rcases hdecode : decode P model prompt_sha256 text with message | c <;>
    simp only [Script.elim_ret, hdecode] <;> exact .refl

/-- What a state reached by stores and loads owes to one key. -/
structure WrittenOnce (calls : ℕ → Call P) (model prompt_sha256 : String) (s : CacheSystem P) :
    Prop where
  /-- Until a store has linked the key's file, a load misses. -/
  miss : s.world.entries (model, prompt_sha256) = none →
    ∀ i, calls i = .load model prompt_sha256 → ∀ o, outcome s i = some o →
      o = .error (.miss model prompt_sha256)
  /-- The file is linked by a store of the key, which then succeeds. -/
  first : ∀ text, s.world.entries (model, prompt_sha256) = some text →
    ∃ j a, calls j = .store a ∧ (a.model, a.prompt_sha256) = (model, prompt_sha256) ∧
      encode a = .ok text ∧ ∀ s', Run serve s s' → ∀ o, outcome s' j = some o → o = .ok .stored
  /-- A load that begins after a store of the key has succeeded answers what it was given. -/
  hit : ∀ j a, calls j = .store a → (a.model, a.prompt_sha256) = (model, prompt_sha256) →
    outcome s j = some (.ok .stored) →
      ∀ i, calls i = .load model prompt_sha256 → s.script i = (calls i).script →
        ∀ s', Run serve s s' → ∀ o, outcome s' i = some o →
          ∃ c, Given a c ∧ o = .ok (.loaded c)
  /-- Every load misses or answers what the store of the entry was given. -/
  loads : ∀ i, calls i = .load model prompt_sha256 → ∀ o, outcome s i = some o →
    o = .error (.miss model prompt_sha256) ∨
      ∃ j a encoded c, calls j = .store a ∧ encode a = .ok encoded ∧
        s.world.entries (model, prompt_sha256) = some encoded ∧ Given a c ∧ o = .ok (.loaded c)
  /-- A store succeeds when its encoding is the entry's, is refused when it is not, and leaves
  no temporary file either way. -/
  refused : ∀ i a encoded, calls i = .store a →
    (a.model, a.prompt_sha256) = (model, prompt_sha256) → encode a = .ok encoded →
      ∀ o, outcome s i = some o → s.world.temporaries i = none ∧
        ∃ found, s.world.entries (model, prompt_sha256) = some found ∧
          o = if found = encoded then .ok .stored else .error refusal
  /-- The entry never changes. -/
  kept : ∀ encoded, s.world.entries (model, prompt_sha256) = some encoded →
    ∀ s', Run serve s s' → s'.world.entries (model, prompt_sha256) = some encoded
  /-- A call that changes any entry does not raise. -/
  silent : ∀ i s', Step serve i s s' → s'.world.entries ≠ s.world.entries →
    ∀ s'', Run serve s' s'' → ∀ o, outcome s'' i = some o → o = .ok .stored

/-- In every interleaving of stores and loads, the file of a new key is written once, and
whatever a store accepts a load accepts. -/
theorem cache_write_once (hP : P.RoundTrips) {calls : ℕ → Call P} {w : World}
    {model prompt_sha256 : String} (hkey : checkPath model prompt_sha256 = .ok ())
    (hnew : w.entries (model, prompt_sha256) = none) {s : CacheSystem P}
    (hrun : Run serve (start calls w) s) :
    WrittenOnce calls model prompt_sha256 s ∧
      ∀ (a : StoreArguments P) encoded, encode a = .ok encoded →
        ∃ c, decode P a.model a.prompt_sha256 encoded = .ok c ∧ Given a c := by
  refine ⟨⟨?_, ?_, ?_, ?_, ?_, fun encoded h s' hrun' => entries_of_run hrun hrun' h, ?_⟩,
    fun a encoded h => decode_encode hP h⟩
  · -- no entry: nobody has loaded one
    intro hnone i hi o ho
    rcases loadEnd_of_run hrun hi ho hkey with ho | ⟨text, htext, -⟩
    · exact ho
    · rw [hnone] at htext
      cases htext
  · -- an entry: some store has published it
    intro text htext
    obtain ⟨j, a, hj, hpath, hencode, hends⟩ := published_of_run hrun _ text hnew htext
    exact ⟨j, a, hj, hpath, hencode, fun s' hrun' o ho => outcome_of_ends (hrun'.ends hends) ho⟩
  · -- a load that begins after the store
    intro j a hj hpath hstored i hi hbegun s' hrun' o ho
    obtain ⟨text, hencode, hentry⟩ := encode_of_stored (storeEnd_of_run hrun hj hstored)
    obtain ⟨c, hgiven, hend⟩ := loadEnd_of_encode hP hencode
    obtain ⟨rfl, rfl⟩ := Prod.mk.inj hpath
    have ho' := load_after hrun hkey hentry hi hbegun hrun' ho
    rw [hend] at ho'
    exact ⟨c, hgiven, ho'⟩
  · -- a load at any time answers a store's entry, or misses
    intro i hi o ho
    rcases loadEnd_of_run hrun hi ho hkey with ho | ⟨text, htext, ho⟩
    · exact .inl ho
    · obtain ⟨j, a, hj, hpath, hencode, -⟩ := published_of_run hrun _ text hnew htext
      obtain ⟨c, hgiven, hend⟩ := loadEnd_of_encode hP hencode
      obtain ⟨rfl, rfl⟩ := Prod.mk.inj hpath
      rw [hend] at ho
      exact .inr ⟨j, a, text, c, hj, hencode, htext, hgiven, ho⟩
  · -- a second store finds its own text, or the other one
    intro i a encoded hi hpath hencode o ho
    have hend := storeEnd_of_run hrun hi ho
    rw [StoreEnd, hencode, hpath] at hend
    obtain ⟨hclean, found, hfound, ⟨hsame, ho⟩ | ⟨hne, ho⟩⟩ := hend
    · exact ⟨hclean, found, hfound, by rw [if_pos hsame, ho]⟩
    · exact ⟨hclean, found, hfound, by rw [if_neg hne, ho]⟩
  · intro i s' hstep hchange s'' hrun' o ho
    exact outcome_of_ends (hrun'.ends (link_of_change hrun hstep hchange)) ho

def emptyWorld : World := ⟨fun _ => none, fun _ => none, fun _ => []⟩

def samplePrompt : String := String.ofList (List.replicate 64 'a')

/-- A synthetic body for one key. -/
def sampleStore : StoreArguments textual where
  model := "model-1"
  prompt_sha256 := samplePrompt
  raw_json := "[]"
  capture := "synthetic"

def sampleCalls : ℕ → Call textual
  | 0 => .store sampleStore
  | _ => .load "model-1" samplePrompt

/-- The first store of a key succeeds, and the loads that follow answer what it was given. -/
theorem cache_write_once_synthetic :
    ∃ s, Run serve (start sampleCalls emptyWorld) s ∧ outcome s 0 = some (.ok .stored) ∧
      WrittenOnce sampleCalls "model-1" samplePrompt s := by
  obtain ⟨encoded, hencode⟩ : ∃ encoded, encode sampleStore = .ok encoded := by
    rcases h : encode sampleStore with message | encoded
    · have hok : (encode sampleStore).isOk = true := by decide +kernel
      rw [h] at hok
      cases hok
    · exact ⟨encoded, rfl⟩
  have hscript : (start sampleCalls emptyWorld).script 0 =
      (publish ("model-1", samplePrompt) encoded).elim fun
        | .ok () => .ret .stored
        | .error e => .raise e := by
    simp only [start, sampleCalls, Call.script, store, hencode]
    rfl
  have hrun := run_publish hscript rfl
  exact ⟨_, hrun, by simp [outcome],
    (cache_write_once textual_roundTrips (by decide +kernel) rfl hrun).1⟩

end IncidentGate.WriteOnce
