import Mathlib.Data.List.Basic

/-!
Patterns over text, and validators as lists of checks.

A pattern is matched by the list of what it can leave over; it matches a whole text when it
can leave nothing. A validator raises the message of the first check that fails.
-/

namespace IncidentGate.Lib.TextPattern

inductive Pattern where
  | text (s : String)
  /-- Characters of one class, at least `least` and at most `most` of them. -/
  | many (cls : Char → Bool) (least : ℕ) (most : Option ℕ)
  | seq (p q : Pattern)
  | alt (p q : Pattern)

instance : Append Pattern := ⟨.seq⟩

namespace Pattern

def one (cls : Char → Bool) : Pattern := many cls 1 (some 1)

def words : List String → Pattern
  | [] => .many (fun _ => false) 1 none
  | [s] => .text s
  | s :: t :: ss => .alt (.text s) (words (t :: ss))

def textRests : List Char → List Char → List (List Char)
  | [], cs => [cs]
  | _ :: _, [] => []
  | p :: ps, c :: cs => if p = c then textRests ps cs else []

def manyRests (cls : Char → Bool) : ℕ → Option ℕ → List Char → List (List Char)
  | 0, some 0, cs => [cs]
  | 0, _, [] => [[]]
  | 0, most, c :: cs =>
    (c :: cs) :: if cls c then manyRests cls 0 (most.map (· - 1)) cs else []
  | _ + 1, some 0, _ => []
  | _ + 1, _, [] => []
  | n + 1, most, c :: cs => if cls c then manyRests cls n (most.map (· - 1)) cs else []

/-- What the pattern can leave of a text. -/
def rests : Pattern → List Char → List (List Char)
  | text s, cs => textRests s.toList cs
  | many cls least most, cs => manyRests cls least most cs
  | seq p q, cs => (p.rests cs).flatMap q.rests
  | alt p q, cs => p.rests cs ++ q.rests cs

def fullmatch (p : Pattern) (s : String) : Bool := (p.rests s.toList).any (·.isEmpty)

lemma manyRests_of_all {cls : Char → Bool} {cs : List Char} (h : cs.all cls = true) :
    manyRests cls cs.length (some cs.length) cs = [[]] := by
  induction cs with
  | nil => rfl
  | cons c cs ih =>
    rw [List.all_cons, Bool.and_eq_true] at h
    simp [manyRests, h.1, ih h.2]

lemma fullmatch_many {cls : Char → Bool} {s : String} (h : s.toList.all cls = true) :
    (many cls s.length (some s.length)).fullmatch s = true := by
  simp [fullmatch, rests, ← String.length_toList, manyRests_of_all h]

end Pattern

/-! ### Validators -/

abbrev Validator := Except String Unit

/-- `if condition: raise ValueError(message)` -/
def refuseIf (condition : Bool) (message : String) : Validator :=
  if condition then .error message else .ok ()

/-- A constraint of one field, failing under the field's name. -/
def field (name : String) (ok : Bool) : Validator := refuseIf (!ok) name

@[simp] lemma refuseIf_bind_ok {condition : Bool} {message : String} {f : Unit → Validator} :
    (refuseIf condition message >>= f) = .ok () ↔ condition = false ∧ f () = .ok () := by
  cases condition <;> simp [refuseIf, bind, Except.bind]

@[simp] lemma refuseIf_ok {condition : Bool} {message : String} :
    refuseIf condition message = .ok () ↔ condition = false := by
  cases condition <;> simp [refuseIf]

lemma bind_ok {β : Type} {v : Validator} {f : Unit → Except String β} {b : β} :
    (v >>= f) = .ok b ↔ v = .ok () ∧ f () = .ok b := by
  rcases v with e | u <;> simp [bind, Except.bind]

lemma except_bind_ok {ε α β : Type} {x : Except ε α} {f : α → Except ε β} {b : β} :
    (x >>= f) = .ok b ↔ ∃ a, x = .ok a ∧ f a = .ok b := by
  rcases x with e | a <;> simp [bind, Except.bind]

end IncidentGate.Lib.TextPattern
