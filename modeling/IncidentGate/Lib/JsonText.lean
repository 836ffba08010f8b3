import IncidentGate.Lib.Digest
import Mathlib.Data.Int.Notation
import Mathlib.Data.List.Sort

/-!
JSON values and their compact text.

An object is held by its fields in the order of their keys, so two objects with the same
fields are the same value. A float is held by its text. The text of a value has no blanks and
only printable ASCII characters.
-/

namespace IncidentGate.Lib.JsonText

open Digest

inductive Json where
  | null
  | bool (b : Bool)
  | int (n : ℤ)
  | float (text : List Char)
  | str (s : String)
  | arr (xs : List Json)
  | obj (fields : List (String × Json))

/-- The object with the given fields, in whatever order they come. -/
def dict (fields : List (String × Json)) : Json :=
  .obj (fields.insertionSort fun a b => a.1 ≤ b.1)

/-! ### Reading fields -/

/-- `payload.get(key)` -/
def get : Json → String → Option Json
  | .obj fields, key => (fields.find? fun f => f.1 = key).map (·.2)
  | _, _ => none

def text : Option Json → Option String
  | some (.str s) => some s
  | _ => none

def flag : Option Json → Option Bool
  | some (.bool b) => some b
  | _ => none

/-! ### Text -/

/-- The texts of the floats that are no numbers. -/
def nonFinite : List (List Char) := ["NaN".toList, "Infinity".toList, "-Infinity".toList]

def escapeUnit (n : ℕ) : List Char := '\\' :: 'u' :: hex 4 n

/-- A character inside a string literal. -/
def escape (c : Char) : List Char :=
  if c = '"' then ['\\', '"']
  else if c = '\\' then ['\\', '\\']
  else if c = '\n' then ['\\', 'n']
  else if c = '\r' then ['\\', 'r']
  else if c = '\t' then ['\\', 't']
  else if c.toNat = 12 then ['\\', 'f']
  else if c.toNat = 8 then ['\\', 'b']
  else if 32 ≤ c.toNat ∧ c.toNat ≤ 126 then [c]
  else if c.toNat < 0x10000 then escapeUnit c.toNat
  else escapeUnit (0xd800 + (c.toNat - 0x10000) / 0x400) ++
    escapeUnit (0xdc00 + (c.toNat - 0x10000) % 0x400)

def charOfByte (b : UInt8) : Char := Char.ofNat b.toNat

/-- The characters of a text. Those of an ASCII text are read off its bytes, which takes an
evaluation a few steps each. -/
def chars (s : String) : List Char :=
  let bytes := s.toByteArray.data.toList
  if bytes.all fun b => b.toNat.ble 127 then bytes.map charOfByte else s.toList

lemma utf8EncodeChar_charOfByte {b : UInt8} (h : b.toNat ≤ 127) :
    String.utf8EncodeChar (charOfByte b) = [b] := by
  have hvalid : b.toNat.isValidChar := .inl (by omega)
  have hval : (charOfByte b).val.toNat = b.toNat := by
    unfold charOfByte Char.ofNat
    rw [dif_pos hvalid]
    rfl
  have hsize : (charOfByte b).utf8Size = 1 := by
    simp only [Char.utf8Size_eq_one_iff, UInt32.le_iff_toNat_le, hval]
    exact h
  have hbyte : (charOfByte b).val.toUInt8 = b :=
    UInt8.toNat_inj.mp (by simp only [UInt32.toNat_toUInt8, hval]; omega)
  rw [String.utf8EncodeChar_eq_singleton hsize, hbyte]

@[simp] lemma chars_eq (s : String) : chars s = s.toList := by
  unfold chars
  dsimp only
  split
  · -- an ASCII text is encoded by its own bytes
    rename_i hascii
    simp only [List.all_eq_true, Nat.ble_eq] at hascii
    have hbytes : s.toByteArray.data.toList.flatMap
        (fun b => String.utf8EncodeChar (charOfByte b)) = s.toByteArray.data.toList :=
      (List.flatMap_congr fun b hb => utf8EncodeChar_charOfByte (hascii b hb)).trans
        (List.flatMap_singleton' _)
    rw [← String.toList_ofList (l := s.toByteArray.data.toList.map charOfByte)]
    congr 1
    rw [← String.toByteArray_inj, String.toByteArray_ofList, List.utf8Encode, List.flatMap_map,
      hbytes]
    exact ByteArray.ext (by simp)
  · rfl

def quote (s : String) : List Char := '"' :: (chars s).flatMap escape ++ ['"']

mutual

def dumps : Json → List Char
  | .null => ['n', 'u', 'l', 'l']
  | .bool true => ['t', 'r', 'u', 'e']
  | .bool false => ['f', 'a', 'l', 's', 'e']
  | .int n => (toString n).toList
  | .float text => text
  | .str s => quote s
  | .arr xs => '[' :: dumpsItems xs ++ [']']
  | .obj fields => '{' :: dumpsFields fields ++ ['}']

def dumpsItems : List Json → List Char
  | [] => []
  | [x] => dumps x
  | x :: y :: rest => dumps x ++ ',' :: dumpsItems (y :: rest)

def dumpsFields : List (String × Json) → List Char
  | [] => []
  | [(k, v)] => quote k ++ ':' :: dumps v
  | (k, v) :: f :: rest => quote k ++ ':' :: dumps v ++ ',' :: dumpsFields (f :: rest)

end

mutual

/-- The text of a value with blanks after its commas and its colons. -/
def render (gap : List Char) : Json → List Char
  | .null => ['n', 'u', 'l', 'l']
  | .bool true => ['t', 'r', 'u', 'e']
  | .bool false => ['f', 'a', 'l', 's', 'e']
  | .int n => (toString n).toList
  | .float text => text
  | .str s => quote s
  | .arr xs => '[' :: renderItems gap xs ++ [']']
  | .obj fields => '{' :: renderFields gap fields ++ ['}']

def renderItems (gap : List Char) : List Json → List Char
  | [] => []
  | [x] => render gap x
  | x :: y :: rest => render gap x ++ ',' :: (gap ++ renderItems gap (y :: rest))

def renderFields (gap : List Char) : List (String × Json) → List Char
  | [] => []
  | [(k, v)] => quote k ++ ':' :: (gap ++ render gap v)
  | (k, v) :: f :: rest =>
    quote k ++ ':' :: (gap ++ (render gap v ++ ',' :: (gap ++ renderFields gap (f :: rest))))

end

mutual

lemma render_nil : ∀ v, render [] v = dumps v
  | .null | .bool true | .bool false | .int _ | .float _ | .str _ => rfl
  | .arr xs => by simp [render, dumps, renderItems_nil xs]
  | .obj fs => by simp [render, dumps, renderFields_nil fs]

lemma renderItems_nil : ∀ xs, renderItems [] xs = dumpsItems xs
  | [] => rfl
  | [x] => render_nil x
  | x :: y :: rest => by simp [renderItems, dumpsItems, render_nil x, renderItems_nil (y :: rest)]

lemma renderFields_nil : ∀ fs, renderFields [] fs = dumpsFields fs
  | [] => rfl
  | [(k, v)] => by simp [renderFields, dumpsFields, render_nil v]
  | (k, v) :: f :: rest => by
    simp [renderFields, dumpsFields, render_nil v, renderFields_nil (f :: rest)]

end

/-! ### Equality -/

mutual

def same : Json → Json → Bool
  | .null, .null => true
  | .bool a, .bool b => a = b
  | .int m, .int n => m = n
  | .float s, .float t => s = t
  | .str s, .str t => s = t
  | .arr xs, .arr ys => sameItems xs ys
  | .obj fs, .obj gs => sameFields fs gs
  | _, _ => false

def sameItems : List Json → List Json → Bool
  | [], [] => true
  | x :: xs, y :: ys => same x y && sameItems xs ys
  | _, _ => false

def sameFields : List (String × Json) → List (String × Json) → Bool
  | [], [] => true
  | (k, x) :: fs, (l, y) :: gs => k = l && same x y && sameFields fs gs
  | _, _ => false

end

mutual

lemma same_iff : ∀ v w, same v w = true ↔ v = w
  | .null, w | .bool _, w | .int _, w | .float _, w | .str _, w => by cases w <;> simp [same]
  | .arr xs, w => by cases w <;> simp [same, sameItems_iff xs]
  | .obj fs, w => by cases w <;> simp [same, sameFields_iff fs]

lemma sameItems_iff : ∀ xs ys, sameItems xs ys = true ↔ xs = ys
  | [], ys => by cases ys <;> simp [sameItems]
  | x :: xs, ys => by cases ys <;> simp [sameItems, same_iff x, sameItems_iff xs]

lemma sameFields_iff : ∀ fs gs, sameFields fs gs = true ↔ fs = gs
  | [], gs => by cases gs <;> simp [sameFields]
  | (k, x) :: fs, gs => by
    cases gs <;> simp [sameFields, same_iff x, sameFields_iff fs, Prod.ext_iff]

end

instance : DecidableEq Json := fun v w => decidable_of_iff _ (same_iff v w)

end IncidentGate.Lib.JsonText
