import IncidentGate.Lib.JsonText
import Mathlib.Data.List.TakeWhile
import Mathlib.Data.String.Basic

/-!
Reading JSON text, and the round trip through the compact text of a value.

A reader takes a value off the head of a text and leaves the rest. Of two fields with one
key the later counts. Half of a surrogate pair is no character here, and is read as the
replacement character.
-/

namespace IncidentGate.Lib.JsonRead

open Digest JsonText

abbrev Reader (α : Type) := List Char → Option (α × List Char)

def skip (cs : List Char) : List Char :=
  cs.dropWhile fun c => c = ' ' || c = '\t' || c = '\n' || c = '\r'

/-! ### Numbers -/

def sign : List Char → List Char × List Char
  | '-' :: cs => (['-'], cs)
  | cs => ([], cs)

def digits (cs : List Char) : List Char × List Char :=
  (cs.takeWhile Char.isDigit, cs.dropWhile Char.isDigit)

/-- The digits before the point: a zero stands alone. -/
def whole : List Char → List Char × List Char
  | '0' :: cs => (['0'], cs)
  | cs => digits cs

def fraction : List Char → List Char × List Char
  | '.' :: cs =>
    if (digits cs).1.isEmpty then ([], '.' :: cs) else ('.' :: (digits cs).1, (digits cs).2)
  | cs => ([], cs)

def exponentSign : List Char → List Char × List Char
  | '+' :: cs => (['+'], cs)
  | '-' :: cs => (['-'], cs)
  | cs => ([], cs)

def exponent : List Char → List Char × List Char
  | c :: cs =>
    let (s, ds) := exponentSign cs
    if (c = 'e' || c = 'E') && !(digits ds).1.isEmpty then (c :: s ++ (digits ds).1, (digits ds).2)
    else ([], c :: cs)
  | [] => ([], [])

/-- The value of an integer's sign and digits. -/
def integer (s ds : List Char) : ℤ :=
  if s.isEmpty then Nat.ofDigitChars 10 ds 0 else -Nat.ofDigitChars 10 ds 0

def number : Reader Json := fun cs =>
  let (s, cs) := sign cs
  let (ds, cs) := whole cs
  let (f, cs) := fraction cs
  let (e, cs) := exponent cs
  if ds.isEmpty then none
  else if f.isEmpty && e.isEmpty then some (.int (integer s ds), cs)
  else some (.float (s ++ ds ++ f ++ e), cs)

/-! ### Strings -/

def hexDigit (c : Char) : Option ℕ :=
  if c.isDigit then some (c.toNat - 48)
  else if 'a' ≤ c && c ≤ 'f' then some (c.toNat - 87)
  else if 'A' ≤ c && c ≤ 'F' then some (c.toNat - 55)
  else none

/-- The number of four hexadecimal digits. -/
def codeUnit (a b c d : Char) : Option ℕ := do
  let a ← hexDigit a
  let b ← hexDigit b
  let c ← hexDigit c
  let d ← hexDigit d
  some (4096 * a + 256 * b + 16 * c + d)

def shortEscape (c : Char) : Option ℕ :=
  if c = '"' || c = '\\' || c = '/' then some c.toNat
  else if c = 'b' then some 8
  else if c = 'f' then some 12
  else if c = 'n' then some 10
  else if c = 'r' then some 13
  else if c = 't' then some 9
  else none

/-- The characters of a literal after its opening quote, escaped surrogates apart. -/
def literal : Reader (List ℕ)
  | '"' :: cs => some ([], cs)
  | '\\' :: 'u' :: a :: b :: c :: d :: cs => do
    let n ← codeUnit a b c d
    let (ns, cs) ← literal cs
    some (n :: ns, cs)
  | '\\' :: c :: cs => do
    let n ← shortEscape c
    let (ns, cs) ← literal cs
    some (n :: ns, cs)
  | c :: cs => do
    let (ns, cs) ← if c = '\\' || c.toNat < 32 then none else literal cs
    some (c.toNat :: ns, cs)
  | [] => none

def isHigh (n : ℕ) : Bool := 0xd800 ≤ n && n < 0xdc00

def isLow (n : ℕ) : Bool := 0xdc00 ≤ n && n < 0xe000

def character (n : ℕ) : Char := if isHigh n || isLow n then '\ufffd' else Char.ofNat n

/-- The text of a literal, surrogate pairs put together. -/
def joinPairs : List ℕ → List Char
  | hi :: lo :: ns =>
    if isHigh hi && isLow lo then
      Char.ofNat (0x10000 + (hi - 0xd800) * 0x400 + (lo - 0xdc00)) :: joinPairs ns
    else character hi :: joinPairs (lo :: ns)
  | [n] => [character n]
  | [] => []

def string : Reader String := fun cs => do
  let (ns, cs) ← literal cs
  some (String.ofList (joinPairs ns), cs)

/-! ### Values -/

/-- What stands between brackets: one value at least, with commas between. -/
def items {α : Type} (p : Reader α) (close : Char) : ℕ → Reader (List α)
  | 0, _ => none
  | n + 1, cs => do
    let (x, cs) ← p cs
    match skip cs with
    | [] => none
    | c :: cs =>
      if c = close then some ([x], cs)
      else if c = ',' then do
        let (xs, cs) ← items p close n (skip cs)
        some (x :: xs, cs)
      else none

def member (p : Reader Json) : Reader (String × Json)
  | '"' :: cs => do
    let (key, cs) ← string cs
    match skip cs with
    | ':' :: cs => do
      let (x, cs) ← p (skip cs)
      some ((key, x), cs)
    | _ => none
  | _ => none

/-- Brackets around values, or around nothing. -/
def bracketed {α : Type} (p : Reader α) (close : Char) (n : ℕ) : Reader (List α) := fun cs =>
  match skip cs with
  | [] => none
  | c :: rest => if c = close then some ([], rest) else items p close n (c :: rest)

def lastFields : List (String × Json) → List (String × Json)
  | [] => []
  | f :: fs => if fs.any (·.1 = f.1) then lastFields fs else f :: lastFields fs

def constants : List (List Char × Json) :=
  [("null".toList, .null), ("true".toList, .bool true), ("false".toList, .bool false)] ++
    nonFinite.map fun text => (text, .float text)

def constant : Reader Json := fun cs =>
  constants.findSome? fun c => (cs.dropPrefix? c.1).map fun rest => (c.2, rest)

/-- One value, nested less than `n` deep. -/
def value : ℕ → Reader Json
  | 0, _ => none
  | _, [] => none
  | n + 1, c :: cs =>
    if c = '"' then (string cs).map fun p => (.str p.1, p.2)
    else if c = '[' then (bracketed (value n) ']' n cs).map fun p => (.arr p.1, p.2)
    else if c = '{' then
      (bracketed (member (value n)) '}' n cs).map fun p => (dict (lastFields p.1), p.2)
    else (constant (c :: cs)).orElse fun _ => number (c :: cs)

/-- The value of a whole text. -/
def loads (cs : List Char) : Option Json := do
  let (v, rest) ← value (cs.length + 1) (skip cs)
  if (skip rest).isEmpty then some v else none

/-! ### Reading back strings -/

lemma hexDigit_hexChar : ∀ k : Fin 16, hexDigit (hexChar k) = some k.val := by decide

lemma escapeUnit_eq {n : ℕ} (hn : n < 0x10000) : ∃ a b c d,
    escapeUnit n = ['\\', 'u', a, b, c, d] ∧ codeUnit a b c d = some n := by
  refine ⟨_, _, _, _, rfl, ?_⟩
  simp only [codeUnit, hexDigit_hexChar, Fin.ofNat, Option.bind_eq_bind, Option.bind_some]
  congr 1
  omega

lemma literal_escapeUnit {n : ℕ} (hn : n < 0x10000) (cs : List Char) :
    literal (escapeUnit n ++ cs) = (literal cs).map fun p => (n :: p.1, p.2) := by
  obtain ⟨a, b, c, d, h, hu⟩ := escapeUnit_eq hn
  rw [h]
  simp only [List.cons_append, List.nil_append, literal, hu]
  rcases literal cs with _ | p <;> rfl

/-- The code units that a character is escaped as. -/
def units (c : Char) : List ℕ :=
  if c.toNat < 0x10000 then [c.toNat]
  else [0xd800 + (c.toNat - 0x10000) / 0x400, 0xdc00 + (c.toNat - 0x10000) % 0x400]

lemma toNat_lt (c : Char) : c.toNat < 0xd800 ∨ 0xdfff < c.toNat ∧ c.toNat < 0x110000 := by
  rcases c.valid with h | h
  · exact .inl h
  · exact .inr h

lemma literal_plain {c : Char} (hq : c ≠ '"') (hb : c ≠ '\\') (hc : 32 ≤ c.toNat)
    (cs : List Char) :
    literal (c :: cs) = (literal cs).map fun p => (c.toNat :: p.1, p.2) := by
  rw [literal.eq_def]
  split
  · simp_all
  · simp_all
  · simp_all
  · rename_i h
    cases h
    rw [if_neg (by simp [hb]; omega)]
    rcases literal cs with _ | p <;> rfl
  · simp_all

lemma literal_short {c : Char} {n : ℕ} (hu : c ≠ 'u') (h : shortEscape c = some n)
    (cs : List Char) :
    literal ('\\' :: c :: cs) = (literal cs).map fun p => (n :: p.1, p.2) := by
  rw [literal.eq_def]
  split
  · simp_all
  · simp_all
  · rename_i he
    cases he
    rw [h]
    rcases literal cs with _ | p <;> rfl
  · rename_i hnot he
    cases he
    exact absurd rfl (hnot c cs rfl)
  · simp_all

lemma literal_escape (c : Char) (cs : List Char) :
    literal (escape c ++ cs) = (literal cs).map fun p => (units c ++ p.1, p.2) := by
  unfold escape
  split
  · subst c
    exact literal_short (by decide) rfl cs
  split
  · subst c
    exact literal_short (by decide) rfl cs
  split
  · subst c
    exact literal_short (by decide) rfl cs
  split
  · subst c
    exact literal_short (by decide) rfl cs
  split
  · subst c
    exact literal_short (by decide) rfl cs
  -- below the second plane a character is one unit
  have hplane : c.toNat < 0x10000 → units c = [c.toNat] := fun h => if_pos h
  split
  · rename_i h
    rw [hplane (by omega), h]
    exact literal_short (by decide) rfl cs
  split
  · rename_i h
    rw [hplane (by omega), h]
    exact literal_short (by decide) rfl cs
  split
  · rename_i hq hb _ _ _ _ _ h
    rw [hplane (by omega)]
    exact literal_plain hq hb h.1 cs
  split
  · rename_i h
    rw [hplane h]
    exact literal_escapeUnit h cs
  · rename_i h
    -- above it, a pair of escaped units
    have hc := toNat_lt c
    rw [List.append_assoc, literal_escapeUnit (by omega), literal_escapeUnit (by omega),
      units, if_neg h]
    rcases literal cs with _ | p <;> rfl

lemma literal_flatMap (s cs : List Char) :
    literal (s.flatMap escape ++ '"' :: cs) = some (s.flatMap units, cs) := by
  induction s with
  | nil => rfl
  | cons c s ih =>
    rw [List.flatMap_cons, List.append_assoc, literal_escape, ih]
    rfl

lemma character_toNat (c : Char) : character c.toNat = c := by
  have hc := toNat_lt c
  rw [character, if_neg (by simp [isHigh, isLow]; omega)]
  exact Char.ofNat_toNat c

lemma joinPairs_cons {n : ℕ} (hn : isHigh n = false) (ns : List ℕ) :
    joinPairs (n :: ns) = character n :: joinPairs ns := by
  cases ns with
  | nil => rfl
  | cons m ns => simp [joinPairs, hn]

lemma joinPairs_units (c : Char) (ns : List ℕ) :
    joinPairs (units c ++ ns) = c :: joinPairs ns := by
  have hc := toNat_lt c
  unfold units
  split
  · rw [List.singleton_append, joinPairs_cons (by simp [isHigh]; omega), character_toNat]
  · rename_i h
    have hhigh : isHigh (0xd800 + (c.toNat - 0x10000) / 0x400) = true := by
      simp [isHigh]; omega
    have hlow : isLow (0xdc00 + (c.toNat - 0x10000) % 0x400) = true := by
      simp [isLow]; omega
    have hsum : 0x10000 + (0xd800 + (c.toNat - 0x10000) / 0x400 - 0xd800) * 0x400 +
        (0xdc00 + (c.toNat - 0x10000) % 0x400 - 0xdc00) = c.toNat := by omega
    rw [List.cons_append, List.singleton_append, joinPairs, hhigh, hlow, hsum]
    simp only [Bool.and_self, ↓reduceIte, Char.ofNat_toNat]

lemma joinPairs_flatMap (s : List Char) : joinPairs (s.flatMap units) = s := by
  induction s with
  | nil => rfl
  | cons c s ih => rw [List.flatMap_cons, joinPairs_units, ih]

lemma string_quote (s : String) (cs : List Char) :
    string (s.toList.flatMap escape ++ '"' :: cs) = some (s, cs) := by
  simp [string, literal_flatMap, joinPairs_flatMap]

/-! ### Reading back numbers -/

/-- What can follow a value in compact text. -/
def Stops (cs : List Char) : Prop := ∀ c ∈ cs.head?, c ∈ [',', ']', '}']

lemma stops_nil : Stops [] := by simp [Stops]

lemma stops_cons {c : Char} (cs : List Char) (hc : c ∈ [',', ']', '}']) : Stops (c :: cs) := by
  simpa [Stops] using hc

lemma Stops.cases {cs : List Char} (hs : Stops cs) :
    cs = [] ∨ ∃ rest, cs = ',' :: rest ∨ cs = ']' :: rest ∨ cs = '}' :: rest := by
  rcases cs with _ | ⟨c, cs⟩
  · exact .inl rfl
  · have hc := hs c rfl
    simp only [List.mem_cons, List.not_mem_nil, or_false] at hc
    rcases hc with rfl | rfl | rfl <;> simp

/-- A stage of the number reader that looks no further than the number. -/
def Local (stage : List Char → List Char × List Char) : Prop :=
  ∀ t cs, Stops cs → stage (t ++ cs) = ((stage t).1, (stage t).2 ++ cs)

lemma local_digits : Local digits := by
  intro t cs hs
  induction t with
  | nil => rcases hs.cases with rfl | ⟨rest, rfl | rfl | rfl⟩ <;> simp +decide [digits]
  | cons c t ih =>
    simp only [digits, Prod.mk.injEq, List.cons_append] at ih ⊢
    by_cases hc : c.isDigit = true <;> simp [hc, ih]

lemma local_sign : Local sign := by
  intro t cs hs
  rcases t with _ | ⟨d, t⟩
  · rcases hs.cases with rfl | ⟨rest, rfl | rfl | rfl⟩ <;> rfl
  · by_cases hd : d = '-'
    · subst hd; rfl
    · simp [sign, hd]

lemma local_whole : Local whole := by
  intro t cs hs
  rcases t with _ | ⟨d, t⟩
  · rcases hs.cases with rfl | ⟨rest, rfl | rfl | rfl⟩ <;> rfl
  · by_cases hd : d = '0'
    · subst hd; rfl
    · have h := local_digits (d :: t) cs hs
      simpa [whole, hd] using h

lemma local_fraction : Local fraction := by
  intro t cs hs
  rcases t with _ | ⟨d, t⟩
  · rcases hs.cases with rfl | ⟨rest, rfl | rfl | rfl⟩ <;> rfl
  · by_cases hd : d = '.'
    · subst hd
      simp only [fraction, List.cons_append, local_digits t cs hs]
      split <;> rfl
    · simp [fraction, hd]

lemma local_exponentSign : Local exponentSign := by
  intro t cs hs
  rcases t with _ | ⟨d, t⟩
  · rcases hs.cases with rfl | ⟨rest, rfl | rfl | rfl⟩ <;> rfl
  · by_cases hp : d = '+'
    · subst hp; rfl
    · by_cases hm : d = '-'
      · subst hm; rfl
      · simp [exponentSign, hp, hm]

lemma local_exponent : Local exponent := by
  intro t cs hs
  rcases t with _ | ⟨d, t⟩
  · rcases hs.cases with rfl | ⟨rest, rfl | rfl | rfl⟩ <;> simp [exponent]
  · simp only [exponent, List.cons_append, local_exponentSign t cs hs, local_digits _ cs hs]
    split <;> rfl

lemma number_append {t cs : List Char} {v : Json} (hs : Stops cs)
    (h : number t = some (v, [])) : number (t ++ cs) = some (v, cs) := by
  simp only [number, local_sign t cs hs, local_whole _ cs hs, local_fraction _ cs hs,
    local_exponent _ cs hs] at h ⊢
  split at h
  · cases h
  rename_i hds
  rw [if_neg hds]
  split at h
  · rename_i hf
    rw [if_pos hf]
    simp only [Option.some.injEq, Prod.mk.injEq] at h ⊢
    exact ⟨h.1, by rw [h.2]; rfl⟩
  · rename_i hf
    rw [if_neg hf]
    simp only [Option.some.injEq, Prod.mk.injEq] at h ⊢
    exact ⟨h.1, by rw [h.2]; rfl⟩

lemma digits_of_all {ds : List Char} (h : ∀ c ∈ ds, c.isDigit = true) : digits ds = (ds, []) := by
  simp only [digits, Prod.mk.injEq]
  exact ⟨List.takeWhile_eq_self_iff.mpr h, List.dropWhile_eq_nil_iff.mpr h⟩

lemma digitChar_ne_zero : ∀ m < 10, 0 < m → [Nat.digitChar m].head? ≠ some '0' := by decide

lemma head?_toDigits {m : ℕ} (hm : 0 < m) : (Nat.toDigits 10 m).head? ≠ some '0' := by
  induction m using Nat.strongRecOn with
  | ind m ih =>
    rcases Nat.lt_or_ge m 10 with h | h
    · rw [Nat.toDigits_of_lt_base h]
      exact digitChar_ne_zero m h hm
    · rw [Nat.toDigits_of_base_le (by omega) h, List.head?_append_of_ne_nil _ Nat.toDigits_ne_nil]
      exact ih _ (by omega) (by omega)

lemma whole_toDigits (m : ℕ) : whole (Nat.toDigits 10 m) = (Nat.toDigits 10 m, []) := by
  rcases Nat.eq_zero_or_pos m with rfl | hm
  · rfl
  · have hhead := head?_toDigits hm
    have hall := digits_of_all fun c hc =>
      Nat.isDigit_of_mem_toDigits (b := 10) (n := m) (by omega) (by omega) hc
    rcases hds : Nat.toDigits 10 m with _ | ⟨c, ds⟩
    · rfl
    · rw [hds] at hhead hall
      have hc : c ≠ '0' := by simpa using hhead
      simpa [whole, hc] using hall

lemma sign_toDigits (m : ℕ) : sign (Nat.toDigits 10 m) = ([], Nat.toDigits 10 m) := by
  rcases hds : Nat.toDigits 10 m with _ | ⟨c, ds⟩
  · rfl
  · have hc : c.isDigit = true :=
      Nat.isDigit_of_mem_toDigits (b := 10) (n := m) (by omega) (by omega) (by simp [hds])
    have hne : c ≠ '-' := by rintro rfl; revert hc; decide
    simp [sign, hne]

lemma number_int (n : ℤ) : number (toString n).toList = some (.int n, []) := by
  rw [Int.toString_eq_repr, Int.repr_eq_if]
  split
  · rename_i hn
    rw [Nat.toList_repr]
    simp [number, sign_toDigits, whole_toDigits, fraction, exponent, Nat.toDigits_ne_nil, integer,
      Nat.ofDigitChars_ten_toDigits, hn]
  · rename_i hn
    have hneg : -max (-n) 0 = n := by omega
    rw [String.toList_append, Nat.toList_repr]
    simp [number, sign, whole_toDigits, fraction, exponent, Nat.toDigits_ne_nil, integer,
      Nat.ofDigitChars_ten_toDigits, hneg]

/-! ### Reading back values -/

mutual

/-- A value whose floats are texts of floats and whose keys stand in strict order. -/
def Canonical : Json → Prop
  | .float text => text ∈ nonFinite ∨ number text = some (.float text, [])
  | .arr xs => CanonicalItems xs
  | .obj fields => fields.Pairwise (fun f g => f.1 < g.1) ∧ CanonicalFields fields
  | .null | .bool _ | .int _ | .str _ => True

def CanonicalItems : List Json → Prop
  | [] => True
  | x :: xs => Canonical x ∧ CanonicalItems xs

def CanonicalFields : List (String × Json) → Prop
  | [] => True
  | (_, x) :: fs => Canonical x ∧ CanonicalFields fs

end

lemma lastFields_of_pairwise {fs : List (String × Json)}
    (h : fs.Pairwise fun f g => f.1 < g.1) : lastFields fs = fs := by
  induction fs with
  | nil => rfl
  | cons f fs ih =>
    obtain ⟨hf, hfs⟩ := List.pairwise_cons.mp h
    have hno : fs.any (·.1 = f.1) = false := by
      simp only [List.any_eq_false, decide_eq_true_eq]
      exact fun g hg => (ne_of_lt (hf g hg)).symm
    rw [lastFields, hno, ih hfs]
    rfl

lemma dict_of_pairwise {fs : List (String × Json)} (h : fs.Pairwise fun f g => f.1 < g.1) :
    dict fs = .obj fs := by
  exact congrArg Json.obj (List.Pairwise.insertionSort_eq (h.imp fun hfg => le_of_lt hfg))

lemma skip_cons {c : Char} (hc : (c = ' ' || c = '\t' || c = '\n' || c = '\r') = false)
    (cs : List Char) : skip (c :: cs) = c :: cs := by
  simp [skip, hc]

lemma head_of_number {t : List Char} {v : Json} (h : number t = some (v, [])) :
    ∃ c cs, c.isDigit = true ∧ (t = c :: cs ∨ t = '-' :: c :: cs) := by
  have hwhole : ∀ u, (whole u).1.isEmpty = false → ∃ c cs, c.isDigit = true ∧ u = c :: cs := by
    rintro (_ | ⟨c, cs⟩) hu
    · simp [whole, digits] at hu
    · refine ⟨c, cs, ?_, rfl⟩
      by_contra hd
      have hz : c ≠ '0' := by rintro rfl; exact hd rfl
      simp [whole, hz, digits, hd] at hu
  have hds : (whole (sign t).2).1.isEmpty = false := by
    by_contra hds
    simp only [Bool.not_eq_false] at hds
    simp [number, hds] at h
  obtain ⟨c, cs, hc, hcs⟩ := hwhole _ hds
  refine ⟨c, cs, hc, ?_⟩
  rcases t with _ | ⟨d, t⟩
  · simp [sign] at hcs
  by_cases hm : d = '-'
  · subst hm
    exact .inr (congrArg ('-' :: ·) hcs)
  · left
    simpa [sign, hm] using hcs

lemma constant_of_digit {c : Char} (hc : c.isDigit = true) (cs : List Char) :
    constant (c :: cs) = none ∧ constant ('-' :: c :: cs) = none := by
  have hne : c ∉ ['n', 't', 'f', 'N', 'I', '-'] := by
    intro hm
    simp only [List.mem_cons, List.not_mem_nil, or_false] at hm
    rcases hm with rfl | rfl | rfl | rfl | rfl | rfl <;> simp +decide at hc
  simp only [List.mem_cons, List.not_mem_nil, or_false, not_or] at hne
  obtain ⟨hn, ht, hf, hN, hI, hm⟩ := hne
  constructor
  · simp [constant, constants, nonFinite, List.dropPrefix?, hn, ht, hf, hN, hI, hm, Ne.symm]
  · simp [constant, constants, nonFinite, List.dropPrefix?, hI, Ne.symm]

lemma value_number {n : ℕ} {t cs : List Char} {v : Json} (h : number t = some (v, []))
    (hs : Stops cs) : value (n + 1) (t ++ cs) = some (v, cs) := by
  have hnumber := number_append hs h
  obtain ⟨c, rest, hc, ht⟩ := head_of_number h
  have hq : c ≠ '"' := by rintro rfl; simp +decide at hc
  have hb : c ≠ '[' := by rintro rfl; simp +decide at hc
  have ho : c ≠ '{' := by rintro rfl; simp +decide at hc
  rcases ht with rfl | rfl
  · rw [List.cons_append] at hnumber ⊢
    simp [value, hq, hb, ho, hnumber, (constant_of_digit hc _).1]
  · rw [List.cons_append, List.cons_append] at hnumber ⊢
    simp [value, hnumber, (constant_of_digit hc _).2]

lemma value_constant {n : ℕ} {text : List Char} {v : Json} (h : (text, v) ∈ constants)
    (cs : List Char) : value (n + 1) (text ++ cs) = some (v, cs) := by
  simp only [constants, nonFinite, List.map_cons, List.map_nil, List.cons_append, List.nil_append,
    List.mem_cons, Prod.mk.injEq, List.not_mem_nil, or_false] at h
  rcases h with ⟨rfl, rfl⟩ | ⟨rfl, rfl⟩ | ⟨rfl, rfl⟩ | ⟨rfl, rfl⟩ | ⟨rfl, rfl⟩ | ⟨rfl, rfl⟩ <;>
    simp [value, constant, constants, nonFinite, List.dropPrefix?]

/-- The characters that a value's compact text can begin with. -/
def Opens (c : Char) : Prop :=
  (c = ' ' || c = '\t' || c = '\n' || c = '\r') = false ∧ c ≠ ']' ∧ c ≠ '}'

instance (c : Char) : Decidable (Opens c) := inferInstanceAs (Decidable (_ ∧ _))

lemma opens_of_isDigit {c : Char} (hc : c.isDigit = true) : Opens c := by
  refine ⟨?_, ?_, ?_⟩
  · by_contra hno
    simp only [Bool.not_eq_false, Bool.or_eq_true, decide_eq_true_eq] at hno
    rcases hno with ((rfl | rfl) | rfl) | rfl <;> simp +decide at hc
  · rintro rfl; simp +decide at hc
  · rintro rfl; simp +decide at hc

lemma opens_of_number {t : List Char} {v : Json} (h : number t = some (v, [])) :
    ∃ c cs, t = c :: cs ∧ Opens c := by
  obtain ⟨c, cs, hc, rfl | rfl⟩ := head_of_number h
  · exact ⟨c, cs, rfl, opens_of_isDigit hc⟩
  · exact ⟨'-', c :: cs, rfl, by decide⟩

section

variable (gap : List Char)

lemma opens_render {v : Json} (h : Canonical v) : ∃ c cs, render gap v = c :: cs ∧ Opens c := by
  cases v with
  | null => exact ⟨_, _, rfl, by decide⟩
  | bool b => cases b <;> exact ⟨_, _, rfl, by decide⟩
  | int n => exact opens_of_number (number_int n)
  | float text =>
    rcases h with h | h
    · simp only [nonFinite, List.mem_cons, List.not_mem_nil, or_false] at h
      rcases h with rfl | rfl | rfl <;> exact ⟨_, _, rfl, by decide⟩
    · exact opens_of_number h
  | str s => exact ⟨_, _, rfl, by decide⟩
  | arr xs => exact ⟨_, _, rfl, by decide⟩
  | obj fs => exact ⟨_, _, rfl, by decide⟩

lemma skip_render {v : Json} (h : Canonical v) (cs : List Char) :
    skip (render gap v ++ cs) = render gap v ++ cs := by
  obtain ⟨c, rest, hd, hc⟩ := opens_render gap h
  rw [hd, List.cons_append, skip_cons hc.1]

def Blank (gap : List Char) : Prop := ∀ cs, skip (gap ++ cs) = skip cs

lemma blank_nil : Blank [] := fun _ => rfl

lemma blank_space : Blank [' '] := fun cs => by simp [skip]

end

section

variable {α : Type} {p : Reader α} {close : Char} {n : ℕ} {x : α} {xs : List α}
  {text rest gap cs : List Char}

lemma items_last (hclose : close ∈ [']', '}'])
    (hp : p (text ++ close :: cs) = some (x, close :: cs)) :
    items p close (n + 1) (text ++ close :: cs) = some ([x], cs) := by
  simp only [List.mem_cons, List.not_mem_nil, or_false] at hclose
  rcases hclose with rfl | rfl <;> simp [items, hp, skip]

lemma items_more (hclose : close ∈ [']', '}'])
    (hp : p (text ++ ',' :: (gap ++ rest)) = some (x, ',' :: (gap ++ rest)))
    (hskip : skip (gap ++ rest) = rest) (hrest : items p close n rest = some (xs, cs)) :
    items p close (n + 1) (text ++ ',' :: (gap ++ rest)) = some (x :: xs, cs) := by
  have hcomma : skip (',' :: (gap ++ rest)) = ',' :: (gap ++ rest) := skip_cons (by decide) _
  simp only [List.mem_cons, List.not_mem_nil, or_false] at hclose
  rcases hclose with rfl | rfl <;> simp [items, hp, hcomma, hskip, hrest]

lemma bracketed_items {c : Char} (hc : Opens c) (hclose : close ∈ [']', '}'])
    (h : items p close n (c :: text) = some (xs, cs)) :
    bracketed p close n (c :: text) = some (xs, cs) := by
  simp only [List.mem_cons, List.not_mem_nil, or_false] at hclose
  rcases hclose with rfl | rfl <;>
    simp only [bracketed, skip_cons hc.1, hc.2.1, hc.2.2, ↓reduceIte, h]

end

lemma value_arr {n : ℕ} {cs rest : List Char} {xs : List Json}
    (h : bracketed (value n) ']' n cs = some (xs, rest)) :
    value (n + 1) ('[' :: cs) = some (.arr xs, rest) := by
  simp [value, h]

lemma value_obj {n : ℕ} {cs rest : List Char} {fs : List (String × Json)}
    (h : bracketed (member (value n)) '}' n cs = some (fs, rest)) :
    value (n + 1) ('{' :: cs) = some (dict (lastFields fs), rest) := by
  simp [value, h]

section

variable (gap : List Char)

lemma member_render {gap : List Char} {p : Reader Json} (hgap : Blank gap) (key : String) {v : Json}
    {cs : List Char} (h : Canonical v) (hp : p (render gap v ++ cs) = some (v, cs)) :
    member p (quote key ++ ':' :: (gap ++ (render gap v ++ cs))) = some ((key, v), cs) := by
  have hcolon : skip (':' :: (gap ++ (render gap v ++ cs))) =
      ':' :: (gap ++ (render gap v ++ cs)) := skip_cons (by decide) _
  have hkey := string_quote key (':' :: (gap ++ (render gap v ++ cs)))
  have hvalue : skip (gap ++ (render gap v ++ cs)) = render gap v ++ cs := by
    rw [hgap, skip_render gap h]
  simp [quote, member, hkey, hcolon, hvalue, hp]

lemma length_render_pos {v : Json} (h : Canonical v) : 0 < (render gap v).length := by
  obtain ⟨c, cs, hd, -⟩ := opens_render gap h
  simp [hd]

lemma opens_renderItems {x : Json} {xs : List Json} (h : CanonicalItems (x :: xs)) :
    ∃ c cs, renderItems gap (x :: xs) = c :: cs ∧ Opens c := by
  obtain ⟨c, cs, hd, hc⟩ := opens_render gap h.1
  cases xs with
  | nil => exact ⟨c, cs, hd, hc⟩
  | cons y ys => exact ⟨c, _, by rw [renderItems, hd, List.cons_append], hc⟩

lemma opens_renderFields (key : String) (x : Json) (fs : List (String × Json)) :
    ∃ cs, renderFields gap ((key, x) :: fs) = '"' :: cs := by
  rcases fs with _ | ⟨f, fs⟩ <;> exact ⟨_, rfl⟩

variable {gap : List Char}

mutual

/-- The text of a value reads back as the value. -/
theorem value_render (hgap : Blank gap) : ∀ (v : Json) (n : ℕ) (cs : List Char), Canonical v →
    (render gap v).length ≤ n → Stops cs → value n (render gap v ++ cs) = some (v, cs)
  | v, 0, _, h, hn, _ => absurd (length_render_pos gap h) (by omega)
  | .null, _ + 1, cs, _, _, _ => value_constant (by simp [constants, render]) cs
  | .bool true, _ + 1, cs, _, _, _ => value_constant (by simp [constants, render]) cs
  | .bool false, _ + 1, cs, _, _, _ => value_constant (by simp [constants, render]) cs
  | .int m, _ + 1, _, _, _, hs => value_number (number_int m) hs
  | .float text, _ + 1, cs, h, _, hs => by
    rcases h with h | h
    · exact value_constant (List.mem_append_right _ (List.mem_map_of_mem h)) cs
    · exact value_number h hs
  | .str s, _ + 1, cs, _, _, _ => by simp [render, quote, value, string_quote]
  | .arr [], _ + 1, cs, _, _, _ => by simp [render, renderItems, value, bracketed, skip]
  | .arr (x :: xs), n + 1, cs, h, hn, _ => by
    simp only [render, List.length_cons, List.length_append, List.length_nil] at hn
    have hitems := items_render hgap (x :: xs) n n cs (by simp) h (by omega) (by omega)
    obtain ⟨c, rest, hd, hc⟩ := opens_renderItems gap h
    rw [hd, List.cons_append] at hitems
    simp only [render, hd, List.cons_append, List.append_assoc, List.nil_append]
    exact value_arr (bracketed_items hc (by decide) hitems)
  | .obj [], _ + 1, cs, _, _, _ => by
    simp [render, renderFields, value, bracketed, skip, lastFields, dict]
  | .obj ((key, x) :: fs), n + 1, cs, ⟨hkeys, h⟩, hn, _ => by
    simp only [render, List.length_cons, List.length_append, List.length_nil] at hn
    have hfields := fields_render hgap ((key, x) :: fs) n n cs (by simp) h (by omega) (by omega)
    obtain ⟨rest, hd⟩ := opens_renderFields gap key x fs
    rw [hd, List.cons_append] at hfields
    simp only [render, hd, List.cons_append, List.append_assoc, List.nil_append]
    rw [value_obj (bracketed_items (by decide) (by decide) hfields), lastFields_of_pairwise hkeys,
      dict_of_pairwise hkeys]

theorem items_render (hgap : Blank gap) : ∀ (xs : List Json) (n m : ℕ) (cs : List Char), xs ≠ [] →
    CanonicalItems xs → (renderItems gap xs).length ≤ n → (renderItems gap xs).length ≤ m →
    items (value n) ']' m (renderItems gap xs ++ ']' :: cs) = some (xs, cs)
  | [], _, _, _, hne, _, _, _ => absurd rfl hne
  | [x], n, m, cs, _, ⟨hx, _⟩, hn, hm => by
    have hpos := length_render_pos gap hx
    simp only [renderItems] at hn hm ⊢
    obtain ⟨m, rfl⟩ : ∃ k, m = k + 1 := ⟨m - 1, by omega⟩
    exact items_last (by decide) (value_render hgap x n _ hx hn (stops_cons _ (by decide)))
  | x :: y :: xs, n, m, cs, _, ⟨hx, h⟩, hn, hm => by
    simp only [renderItems, List.length_append, List.length_cons] at hn hm
    obtain ⟨m, rfl⟩ : ∃ k, m = k + 1 := ⟨m - 1, by omega⟩
    have hrest := items_render hgap (y :: xs) n m cs (by simp) h (by omega) (by omega)
    obtain ⟨c, rest, hd, hc⟩ := opens_renderItems gap h
    simp only [renderItems, List.append_assoc, List.cons_append]
    refine items_more (by decide)
      (value_render hgap x n _ hx (by omega) (stops_cons _ (by decide))) ?_ hrest
    rw [hgap, hd, List.cons_append, skip_cons hc.1]

theorem fields_render (hgap : Blank gap) : ∀ (fs : List (String × Json)) (n m : ℕ)
    (cs : List Char), fs ≠ [] → CanonicalFields fs → (renderFields gap fs).length ≤ n →
    (renderFields gap fs).length ≤ m →
    items (member (value n)) '}' m (renderFields gap fs ++ '}' :: cs) = some (fs, cs)
  | [], _, _, _, hne, _, _, _ => absurd rfl hne
  | [(key, x)], n, m, cs, _, ⟨hx, _⟩, hn, hm => by
    simp only [renderFields, List.length_append, List.length_cons] at hn hm
    obtain ⟨m, rfl⟩ : ∃ k, m = k + 1 := ⟨m - 1, by omega⟩
    have hfield := member_render hgap key hx
      (value_render hgap x n ('}' :: cs) hx (by omega) (stops_cons _ (by decide)))
    rw [← List.append_assoc, ← List.cons_append, ← List.append_assoc] at hfield
    exact items_last (by decide) hfield
  | (key, x) :: (key', y) :: fs, n, m, cs, _, ⟨hx, h⟩, hn, hm => by
    simp only [renderFields, List.length_append, List.length_cons] at hn hm
    obtain ⟨m, rfl⟩ : ∃ k, m = k + 1 := ⟨m - 1, by omega⟩
    have hrest := fields_render hgap ((key', y) :: fs) n m cs (by simp) h (by omega) (by omega)
    obtain ⟨rest, hd⟩ := opens_renderFields gap key' y fs
    have hfield := member_render hgap key hx
      (value_render hgap x n (',' :: (gap ++ (renderFields gap ((key', y) :: fs) ++ '}' :: cs))) hx
        (by omega) (stops_cons _ (by decide)))
    have hskip : skip (gap ++ (renderFields gap ((key', y) :: fs) ++ '}' :: cs)) =
        renderFields gap ((key', y) :: fs) ++ '}' :: cs := by
      rw [hgap, hd, List.cons_append, skip_cons (by decide)]
    rw [← List.append_assoc, ← List.cons_append, ← List.append_assoc] at hfield
    have hmore := items_more (by decide) hfield hskip hrest
    simpa only [renderFields, List.append_assoc, List.cons_append] using hmore

end

theorem loads_render (hgap : Blank gap) {v : Json} (h : Canonical v) :
    loads (render gap v) = some v := by
  have hskip := skip_render gap h []
  have hvalue := value_render hgap v ((render gap v).length + 1) [] h (by omega) stops_nil
  simp only [List.append_nil] at hskip hvalue
  rw [loads, hskip, hvalue]
  rfl

end

theorem loads_dumps {v : Json} (h : Canonical v) : loads (dumps v) = some v := by
  rw [← render_nil]
  exact loads_render blank_nil h

lemma dumps_inj {v w : Json} (hv : Canonical v) (hw : Canonical w) (h : dumps v = dumps w) :
    v = w := by
  have hvw := loads_dumps hv
  rw [h, loads_dumps hw] at hvw
  exact (Option.some.inj hvw).symm

/-! ### Objects -/

section

variable {fs gs : List (String × Json)} {key : String}

lemma pairwise_dict (h : (fs.map (·.1)).Nodup) :
    (fs.insertionSort fun f g => f.1 ≤ g.1).Pairwise fun f g => f.1 < g.1 := by
  have hperm := List.perm_insertionSort (fun f g : String × Json => f.1 ≤ g.1) fs
  have hne : ((fs.insertionSort fun f g => f.1 ≤ g.1).map (·.1)).Nodup :=
    (hperm.map _).nodup_iff.mpr h
  have hle : (fs.insertionSort fun f g => f.1 ≤ g.1).Pairwise fun f g => f.1 ≤ g.1 :=
    List.pairwise_insertionSort _ _
  exact hle.and (List.pairwise_map.mp hne) |>.imp fun hfg => lt_of_le_of_ne hfg.1 hfg.2

lemma canonicalFields_iff : CanonicalFields fs ↔ ∀ f ∈ fs, Canonical f.2 := by
  induction fs with
  | nil => simp [CanonicalFields]
  | cons f fs ih => simp [CanonicalFields, ih]

lemma canonical_dict (h : (fs.map (·.1)).Nodup) (hfs : ∀ f ∈ fs, Canonical f.2) :
    Canonical (dict fs) :=
  ⟨pairwise_dict h, canonicalFields_iff.mpr fun f hf => hfs f (List.mem_insertionSort _ |>.mp hf)⟩

lemma find?_of_nodup (h : (fs.map (·.1)).Nodup) {f : String × Json} (hf : f ∈ fs) :
    fs.find? (fun g => g.1 = f.1) = some f := by
  rcases hfind : fs.find? (fun g => g.1 = f.1) with _ | g
  · have hno := List.find?_eq_none.mp hfind f hf
    simp at hno
  · have hkey : g.1 = f.1 := by simpa using List.find?_some hfind
    rw [hfind]
    exact congrArg some (List.inj_on_of_nodup_map h (List.mem_of_find?_eq_some hfind) hf hkey)

lemma find?_of_perm (hperm : fs.Perm gs) (h : (fs.map (·.1)).Nodup) :
    fs.find? (fun g => g.1 = key) = gs.find? (fun g => g.1 = key) := by
  have hgs : (gs.map (·.1)).Nodup := (hperm.map _).nodup_iff.mp h
  rcases hfind : gs.find? (fun g => g.1 = key) with _ | g
  · rw [hfind]
    exact List.find?_eq_none.mpr fun f hf =>
      List.find?_eq_none.mp hfind f (hperm.mem_iff.mp hf)
  · have hkey : g.1 = key := by simpa using List.find?_some hfind
    subst hkey
    rw [hfind]
    exact find?_of_nodup h (hperm.mem_iff.mpr (List.mem_of_find?_eq_some hfind))

lemma get_dict (h : (fs.map (·.1)).Nodup) :
    get (dict fs) key = (fs.find? fun f => f.1 = key).map (·.2) := by
  have hperm := List.perm_insertionSort (fun f g : String × Json => f.1 ≤ g.1) fs
  exact congrArg (Option.map (·.2)) (find?_of_perm hperm.symm h).symm

end

end IncidentGate.Lib.JsonRead
