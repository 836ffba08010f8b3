import IncidentGate.Lib.JsonRead

/-!
Texts of code points, and the compact text of an object that holds some.

A text may hold half of a surrogate pair, which no character is. A point beyond the basic plane is
escaped as its pair, so a text that holds the two halves is escaped like one that holds the point;
texts that hold no pair are escaped apart.
-/

namespace IncidentGate.Lib.CodeText

open Digest JsonText JsonRead

/-- A code point of a text, which may be half of a surrogate pair. -/
abbrev CodePoint := Fin 0x110000

abbrev Text := List CodePoint

lemma toNat_lt_top (c : Char) : c.toNat < 0x110000 := by
  have hc := toNat_lt c
  omega

def point (c : Char) : CodePoint := ⟨c.toNat, toNat_lt_top c⟩

def ofString (s : String) : Text := s.toList.map point

instance : Coe String Text := ⟨ofString⟩

def isSurrogate (c : CodePoint) : Bool := 0xd800 ≤ c.val && c.val < 0xe000

/-- No high surrogate stands directly before a low one. -/
def Unpaired : Text → Prop
  | a :: b :: rest => ¬(isHigh a.val = true ∧ isLow b.val = true) ∧ Unpaired (b :: rest)
  | _ => True

instance decidableUnpaired : DecidablePred Unpaired
  | _ :: b :: rest => @instDecidableAnd _ _ inferInstance (decidableUnpaired (b :: rest))
  | [] | [_] => .isTrue trivial

/-! ### Literals -/

def escapePoint (c : CodePoint) : List Char :=
  if isSurrogate c then escapeUnit c.val else escape (Char.ofNat c.val)

def quoteText (t : Text) : List Char := '"' :: t.flatMap escapePoint ++ ['"']

def pointUnits (c : CodePoint) : List ℕ :=
  if c.val < 0x10000 then [c.val]
  else [0xd800 + (c.val - 0x10000) / 0x400, 0xdc00 + (c.val - 0x10000) % 0x400]

def textUnits (t : Text) : List ℕ := t.flatMap pointUnits

lemma toNat_ofNat {c : CodePoint} (hc : isSurrogate c = false) :
    (Char.ofNat c.val).toNat = c.val := by
  have hvalid : c.val.isValidChar := by
    simp only [isSurrogate, Bool.and_eq_false_iff, decide_eq_false_iff_not] at hc
    have htop := c.isLt
    unfold Nat.isValidChar
    omega
  unfold Char.ofNat
  rw [dif_pos hvalid]
  rfl

lemma isSurrogate_point (c : Char) : isSurrogate (point c) = false := by
  have hc := toNat_lt c
  have hval : (point c).val = c.toNat := rfl
  simp only [isSurrogate, hval, Bool.and_eq_false_iff, decide_eq_false_iff_not]
  omega

lemma quoteText_ofString (s : String) : quoteText (ofString s) = quote s := by
  have hpoint : ∀ c : Char, escapePoint (point c) = escape c := fun c => by
    rw [escapePoint, isSurrogate_point, if_neg (by simp)]
    exact congrArg escape (Char.ofNat_toNat c)
  simp [quoteText, quote, ofString, List.flatMap_map, hpoint]

lemma literal_escapePoint (c : CodePoint) (cs : List Char) :
    literal (escapePoint c ++ cs) = (literal cs).map fun p => (pointUnits c ++ p.1, p.2) := by
  unfold escapePoint
  split
  · rename_i hc
    have hlt : c.val < 0x10000 := by
      simp only [isSurrogate, Bool.and_eq_true, decide_eq_true_eq] at hc
      omega
    rw [literal_escapeUnit hlt, pointUnits, if_pos hlt]
    rfl
  · rename_i hc
    rw [literal_escape, units, toNat_ofNat (by simpa using hc), pointUnits]

lemma literal_quoteText (t : Text) (cs : List Char) :
    literal (t.flatMap escapePoint ++ '"' :: cs) = some (textUnits t, cs) := by
  induction t with
  | nil => rfl
  | cons c t ih =>
    rw [List.flatMap_cons, List.append_assoc, literal_escapePoint, ih]
    rfl

lemma quoteText_split {s t : Text} {cs ds : List Char}
    (h : quoteText s ++ cs = quoteText t ++ ds) : textUnits s = textUnits t ∧ cs = ds := by
  simp only [quoteText, List.cons_append, List.append_assoc, List.nil_append, List.cons.injEq,
    true_and] at h
  have hread := congrArg literal h
  rw [literal_quoteText, literal_quoteText] at hread
  simpa using hread

/-! ### Texts without a pair -/

/-- The points of some code units, pairs put together. -/
def joinUnits : List ℕ → List ℕ
  | hi :: lo :: ns =>
    if isHigh hi && isLow lo then
      (0x10000 + (hi - 0xd800) * 0x400 + (lo - 0xdc00)) :: joinUnits ns
    else hi :: joinUnits (lo :: ns)
  | ns => ns

lemma joinUnits_cons {n : ℕ} {ns : List ℕ} (h : ∀ m ∈ ns.head?, (isHigh n && isLow m) = false) :
    joinUnits (n :: ns) = n :: joinUnits ns := by
  cases ns with
  | nil => rfl
  | cons m ns => simp [joinUnits, h m rfl]

lemma isLow_head {c : CodePoint} {t : Text} :
    ∀ m ∈ (textUnits (c :: t)).head?, isLow m = isLow c.val := by
  have htop := c.isLt
  unfold textUnits pointUnits
  rw [List.flatMap_cons]
  split
  · simp
  · intro m hm
    obtain rfl : 0xd800 + (c.val - 0x10000) / 0x400 = m := by simpa using hm
    simp only [isLow, Bool.and_eq_decide]
    rw [decide_eq_decide]
    simp only [decide_eq_true_eq]
    omega

lemma joinUnits_textUnits {t : Text} (ht : Unpaired t) :
    joinUnits (textUnits t) = t.map (·.val) := by
  induction t with
  | nil => rfl
  | cons c t ih =>
    have hrest : Unpaired t := by
      cases t with
      | nil => trivial
      | cons d t => exact ht.2
    have htail := ih hrest
    unfold textUnits at htail ⊢
    rw [List.flatMap_cons, List.map_cons, ← htail]
    unfold pointUnits
    split
    · -- a point of the basic plane joins with what follows only if they are a pair
      rw [List.singleton_append]
      refine joinUnits_cons fun m hm => ?_
      cases t with
      | nil => cases hm
      | cons d t =>
        rw [isLow_head m hm]
        have hpair := ht.1
        rwa [← Bool.and_eq_true, Bool.not_eq_true] at hpair
    · rename_i hplane
      have htop := c.isLt
      have hhigh : isHigh (0xd800 + (c.val - 0x10000) / 0x400) = true := by simp [isHigh]; omega
      have hlow : isLow (0xdc00 + (c.val - 0x10000) % 0x400) = true := by simp [isLow]; omega
      have hsum : 0x10000 + (0xd800 + (c.val - 0x10000) / 0x400 - 0xd800) * 0x400 +
          (0xdc00 + (c.val - 0x10000) % 0x400 - 0xdc00) = c.val := by omega
      rw [List.cons_append, List.singleton_append, joinUnits, hhigh, hlow, hsum]
      rfl

/-- Texts without a pair have the same units only if they are one text. -/
lemma textUnits_inj {s t : Text} (hs : Unpaired s) (ht : Unpaired t)
    (h : textUnits s = textUnits t) : s = t := by
  have hjoined := congrArg joinUnits h
  rw [joinUnits_textUnits hs, joinUnits_textUnits ht] at hjoined
  exact Fin.val_injective.list_map hjoined

lemma texts_inj {ss ts : List Text} (hs : ∀ s ∈ ss, Unpaired s) (ht : ∀ t ∈ ts, Unpaired t)
    (h : List.Forall₂ (fun s t => textUnits s = textUnits t) ss ts) : ss = ts := by
  induction h with
  | nil => rfl
  | cons hunits _ ih =>
    rw [textUnits_inj (hs _ List.mem_cons_self) (ht _ List.mem_cons_self) hunits,
      ih (fun s hmem => hs s (List.mem_cons_of_mem _ hmem))
        fun t hmem => ht t (List.mem_cons_of_mem _ hmem)]

lemma unpaired_of_scalars {t : Text} (h : ∀ c ∈ t, isSurrogate c = false) : Unpaired t := by
  induction t with
  | nil => trivial
  | cons c t ih =>
    cases t with
    | nil => trivial
    | cons d t =>
      refine ⟨fun hpair => ?_, ih fun c hc => h c (List.mem_cons_of_mem _ hc)⟩
      have hc := h c List.mem_cons_self
      simp only [isSurrogate, isHigh, Bool.and_eq_true, Bool.and_eq_false_iff,
        decide_eq_true_eq, decide_eq_false_iff_not] at hc hpair
      omega

lemma unpaired_ofString (s : String) : Unpaired (ofString s) := by
  refine unpaired_of_scalars fun c hc => ?_
  obtain ⟨d, -, rfl⟩ := List.mem_map.mp hc
  exact isSurrogate_point d

lemma unpaired_append {s t : Text} (hs : Unpaired s) (ht : ∀ c ∈ t, isSurrogate c = false) :
    Unpaired (s ++ t) := by
  induction s with
  | nil => exact unpaired_of_scalars ht
  | cons c s ih =>
    cases s with
    | nil =>
      cases t with
      | nil => trivial
      | cons d t =>
        refine ⟨fun hpair => ?_, unpaired_of_scalars ht⟩
        have hd := ht d List.mem_cons_self
        simp only [isSurrogate, isLow, Bool.and_eq_true, Bool.and_eq_false_iff,
          decide_eq_true_eq, decide_eq_false_iff_not] at hd hpair
        omega
    | cons d s => exact ⟨hs.1, ih hs.2⟩

lemma ofString_inj {s t : String} (h : ofString s = ofString t) : s = t := by
  have hchars : s.toList = t.toList := by
    refine Function.Injective.list_map (fun c d hcd => ?_) h
    exact Char.toNat_inj.mp (show (point c).val = (point d).val by rw [hcd])
  exact String.toList_inj.mp hchars

lemma ofString_lt {s t : String} (h : s < t) : ofString s < ofString t := by
  refine List.map_lt (fun c d hcd => ?_) (String.lt_iff_toList_lt.mp h)
  exact hcd

/-- One point beyond the basic plane. -/
def smiley : Text := [⟨0x1f600, by decide⟩]

def smileyHalves : Text := [⟨0xd83d, by decide⟩, ⟨0xde00, by decide⟩]

lemma quoteText_smiley (t : Text) : quoteText (smiley ++ t) = quoteText (smileyHalves ++ t) := by
  have hpoints : smiley.flatMap escapePoint = smileyHalves.flatMap escapePoint := by decide
  simp only [quoteText, List.flatMap_append, hpoints]

/-! ### Lists of texts -/

def commas : List (List Char) → List Char
  | [] => []
  | [t] => t
  | t :: u :: rest => t ++ ',' :: commas (u :: rest)

section
variable {α : Type} {r : α → List Char} {P : α → Prop} {R : α → α → Prop}

/-- What is rendered is cut off the head of a text in one way, up to `R`. -/
def Splits (r : α → List Char) (P : α → Prop) (R : α → α → Prop) : Prop :=
  ∀ a b cs ds, P a → P b → Stops cs → Stops ds → r a ++ cs = r b ++ ds → R a b ∧ cs = ds

/-- What follows an item: the bracket, or a comma and the other items. -/
def after (r : α → List Char) (close : Char) (xs : List α) (cs : List Char) : List Char :=
  if xs = [] then close :: cs else ',' :: (commas (xs.map r) ++ close :: cs)

lemma commas_cons (x : α) (xs : List α) (close : Char) (cs : List Char) :
    commas ((x :: xs).map r) ++ close :: cs = r x ++ after r close xs cs := by
  cases xs with
  | nil => rfl
  | cons y ys => simp [commas, after]

lemma stops_after {close : Char} (hclose : close ∈ [']', '}']) (xs : List α) (cs : List Char) :
    Stops (after r close xs cs) := by
  unfold after
  split
  · exact stops_cons cs (List.mem_cons_of_mem _ hclose)
  · exact stops_cons _ (by decide)

/-- A list is cut off the head of a text in one way. -/
lemma commas_split (hr : Splits r P R) (hopen : ∀ a, ∃ cs, r a = '"' :: cs) {close : Char}
    (hclose : close ∈ [']', '}']) {xs ys : List α} {cs ds : List Char} (hxs : ∀ x ∈ xs, P x)
    (hys : ∀ y ∈ ys, P y)
    (h : commas (xs.map r) ++ close :: cs = commas (ys.map r) ++ close :: ds) :
    List.Forall₂ R xs ys ∧ cs = ds := by
  -- the bracket is neither the head of an item nor the comma between two
  have hquote : close ≠ '"' := by
    rintro rfl
    simp at hclose
  have hcomma : close ≠ ',' := by
    rintro rfl
    simp at hclose
  induction xs generalizing ys with
  | nil =>
    cases ys with
    | nil => exact ⟨.nil, (List.cons.inj h).2⟩
    | cons y ys =>
      obtain ⟨rest, hrest⟩ := hopen y
      rw [commas_cons, hrest] at h
      exact absurd (List.cons.inj h).1 hquote
  | cons x xs ih =>
    cases ys with
    | nil =>
      obtain ⟨rest, hrest⟩ := hopen x
      rw [commas_cons, hrest] at h
      exact absurd (List.cons.inj h).1.symm hquote
    | cons y ys =>
      rw [commas_cons, commas_cons] at h
      obtain ⟨hxy, hafter⟩ := hr x y _ _ (hxs x List.mem_cons_self) (hys y List.mem_cons_self)
        (stops_after hclose _ _) (stops_after hclose _ _) h
      unfold after at hafter
      split at hafter
      · rename_i hnil
        subst hnil
        split at hafter
        · rename_i hnil
          subst hnil
          exact ⟨.cons hxy .nil, (List.cons.inj hafter).2⟩
        · -- one list ends where the other has a comma
          exact absurd (List.cons.inj hafter).1 hcomma
      · split at hafter
        · exact absurd (List.cons.inj hafter).1.symm hcomma
        · obtain ⟨hall, hrest⟩ := ih (fun z hz => hxs z (List.mem_cons_of_mem _ hz))
            (fun z hz => hys z (List.mem_cons_of_mem _ hz)) (List.cons.inj hafter).2
          exact ⟨.cons hxy hall, hrest⟩

end

/-! ### Objects -/

/-- What a field of an object holds. -/
inductive Field where
  | json (v : Json)
  | text (t : Text)
  | texts (ts : List Text)

inductive Kind where
  | json
  | text
  | texts

namespace Field

def kind : Field → Kind
  | json _ => .json
  | text _ => .text
  | texts _ => .texts

def dumps : Field → List Char
  | json v => JsonText.dumps v
  | text t => quoteText t
  | texts ts => '[' :: (commas (ts.map quoteText) ++ [']'])

/-- A JSON value is one of a text that reads back. -/
def Sound : Field → Prop
  | json v => Canonical v
  | _ => True

/-- The fields hold the same value, texts by their units. -/
def Same : Field → Field → Prop
  | json v, json w => v = w
  | text s, text t => textUnits s = textUnits t
  | texts ss, texts ts => List.Forall₂ (fun s t => textUnits s = textUnits t) ss ts
  | _, _ => False

end Field

/-- A field of an object with its key. -/
def member (f : String × Field) : List Char := quote f.1 ++ ':' :: f.2.dumps

def sortedFields {α : Type} (fields : List (String × α)) : List (String × α) :=
  fields.insertionSort fun f g => f.1 ≤ g.1

/-- The text of an object, its fields in the order of their keys. -/
def document (fields : List (String × Field)) : List Char :=
  '{' :: (commas ((sortedFields fields).map member) ++ ['}'])

lemma sortedFields_map {α β : Type} (f : α → β) (fields : List (String × α)) :
    (sortedFields fields).map (fun g => (g.1, f g.2)) =
      sortedFields (fields.map fun g => (g.1, f g.2)) :=
  List.map_insertionSort _ _ _ _ fun _ _ _ _ => .rfl

/-- Only the texts of the fields count. -/
lemma document_congr {fs gs : List (String × Field)}
    (h : fs.map (fun f => (f.1, f.2.dumps)) = gs.map fun g => (g.1, g.2.dumps)) :
    document fs = document gs := by
  have hmember : ∀ fields : List (String × Field), (sortedFields fields).map member =
      (sortedFields (fields.map fun f => (f.1, f.2.dumps))).map fun f =>
        quote f.1 ++ ':' :: f.2 := fun fields => by
    rw [← sortedFields_map, List.map_map]
    rfl
  unfold document
  rw [hmember, hmember, h]

lemma dumpsFields_eq (fields : List (String × Json)) :
    dumpsFields fields = commas (fields.map fun f => quote f.1 ++ ':' :: JsonText.dumps f.2) := by
  induction fields with
  | nil => rfl
  | cons f fields ih =>
    cases fields with
    | nil => rfl
    | cons g fields =>
      rw [dumpsFields, ih]
      simp [commas]

lemma dumpsItems_eq (xs : List Json) : dumpsItems xs = commas (xs.map JsonText.dumps) := by
  induction xs with
  | nil => rfl
  | cons x xs ih =>
    cases xs with
    | nil => rfl
    | cons y xs =>
      rw [dumpsItems, ih]
      simp [commas]

lemma texts_ofString (ss : List String) :
    (Field.texts (ss.map ofString)).dumps = (Field.json (.arr (ss.map .str))).dumps := by
  have hquote : ∀ s : String, quoteText (ofString s) = JsonText.dumps (.str s) := fun s => by
    rw [quoteText_ofString, JsonText.dumps]
  simp only [Field.dumps, JsonText.dumps, dumpsItems_eq, List.map_map, Function.comp_def, hquote]
  rfl

lemma document_json (fields : List (String × Json)) :
    document (fields.map fun f => (f.1, .json f.2)) = JsonText.dumps (dict fields) := by
  have hsorted := sortedFields_map Field.json fields
  unfold document
  rw [← hsorted, List.map_map, dict, JsonText.dumps, dumpsFields_eq]
  rfl

lemma value_split {v w : Json} {cs ds : List Char} (hv : Canonical v) (hw : Canonical w)
    (hcs : Stops cs) (hds : Stops ds) (h : JsonText.dumps v ++ cs = JsonText.dumps w ++ ds) :
    v = w ∧ cs = ds := by
  have hread : ∀ {u : Json} {rest : List Char} (n : ℕ), Canonical u → Stops rest →
      (JsonText.dumps u).length ≤ n →
        value n (JsonText.dumps u ++ rest) = some (u, rest) := fun n hu hrest hn => by
    rw [← render_nil] at hn ⊢
    exact value_render blank_nil _ n _ hu hn hrest
  have hvalue := hread ((JsonText.dumps v).length + (JsonText.dumps w).length) hv hcs (by omega)
  rw [h, hread _ hw hds (by omega)] at hvalue
  obtain ⟨rfl, rfl⟩ := Prod.mk.inj (Option.some.inj hvalue)
  exact ⟨rfl, rfl⟩

lemma texts_split {ss ts : List Text} {cs ds : List Char}
    (h : (Field.texts ss).dumps ++ cs = (Field.texts ts).dumps ++ ds) :
    List.Forall₂ (fun s t => textUnits s = textUnits t) ss ts ∧ cs = ds := by
  simp only [Field.dumps, List.cons_append, List.append_assoc, List.nil_append, List.cons.injEq,
    true_and] at h
  exact commas_split (P := fun _ => True) (fun s t cs ds _ _ _ _ => quoteText_split)
    (fun t => ⟨_, rfl⟩) (by decide) (fun _ _ => trivial) (fun _ _ => trivial) h

lemma field_split {f g : Field} {cs ds : List Char} (hkind : f.kind = g.kind) (hf : f.Sound)
    (hg : g.Sound) (hcs : Stops cs) (hds : Stops ds) (h : f.dumps ++ cs = g.dumps ++ ds) :
    f.Same g ∧ cs = ds := by
  cases f with
  | json v =>
    cases g with
    | json w => exact value_split hf hg hcs hds h
    | _ => cases hkind
  | text s =>
    cases g with
    | text t => exact quoteText_split h
    | _ => cases hkind
  | texts ss =>
    cases g with
    | texts ts => exact texts_split h
    | _ => cases hkind

/-- The fields of an object, each of the kind that its key has. -/
structure Keyed (kind : String → Kind) (f : String × Field) : Prop where
  kind : f.2.kind = kind f.1
  sound : f.2.Sound

lemma member_split (kind : String → Kind) :
    Splits member (Keyed kind) fun f g => f.1 = g.1 ∧ f.2.Same g.2 := by
  rintro ⟨key, f⟩ ⟨key', g⟩ cs ds hf hg hcs hds h
  simp only [member, List.append_assoc, List.cons_append, ← quoteText_ofString] at h
  obtain ⟨hunits, hrest⟩ := quoteText_split h
  obtain rfl := ofString_inj (textUnits_inj (unpaired_ofString _) (unpaired_ofString _) hunits)
  obtain ⟨hsame, rfl⟩ := field_split (hf.kind.trans hg.kind.symm) hf.sound hg.sound hcs hds
    (List.cons.inj hrest).2
  exact ⟨⟨rfl, hsame⟩, rfl⟩

lemma mem_of_forall₂ {α β : Type} {R : α → β → Prop} {xs : List α} {ys : List β}
    (h : List.Forall₂ R xs ys) {x : α} (hx : x ∈ xs) : ∃ y ∈ ys, R x y := by
  induction h with
  | nil => cases hx
  | cons hxy _ ih =>
    rcases List.mem_cons.mp hx with rfl | hx
    · exact ⟨_, List.mem_cons_self, hxy⟩
    · obtain ⟨y, hy, hR⟩ := ih hx
      exact ⟨y, List.mem_cons_of_mem _ hy, hR⟩

/-- Objects of one text hold the same under each of their keys. -/
theorem same_of_document {kind : String → Kind} {fs gs : List (String × Field)}
    (hfs : ∀ f ∈ fs, Keyed kind f) (hgs : ∀ g ∈ gs, Keyed kind g) (h : document fs = document gs)
    {key : String} {f : Field} (hf : (key, f) ∈ fs) : ∃ g, (key, g) ∈ gs ∧ f.Same g := by
  have hmem : ∀ {fields : List (String × Field)} {m}, m ∈ sortedFields fields ↔ m ∈ fields :=
    List.mem_insertionSort _
  unfold document at h
  obtain ⟨hall, -⟩ := commas_split (member_split kind) (fun m => ⟨_, rfl⟩) (by decide)
    (fun m hm => hfs m (hmem.mp hm)) (fun m hm => hgs m (hmem.mp hm)) (List.cons.inj h).2
  obtain ⟨⟨key', g⟩, hg, rfl, hsame⟩ := mem_of_forall₂ hall (hmem.mpr hf)
  exact ⟨g, hmem.mp hg, hsame⟩

end IncidentGate.Lib.CodeText
