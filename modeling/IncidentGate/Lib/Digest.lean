import Mathlib.Tactic.Lemma
import Mathlib.Data.List.Basic
import Mathlib.Algebra.Ring.Nat
import Mathlib.Tactic.Common

/-!
SHA-1 and SHA-256, and the lower-case hexadecimal text of a bit vector.

Both digests pad a message to blocks of sixteen words and compress the blocks in turn. The
compression reads the message schedule off the words so far, of which the last comes first.
-/

namespace IncidentGate.Lib.Digest

/-- A word of 32 bits. -/
abbrev Word := ℕ

/-- The low 32 bits. -/
def wrap (n : ℕ) : Word := n % 0x100000000

/-- What is shifted out of a word is shifted in from its copy. -/
def rotateRight (x : Word) (n : ℕ) : Word := wrap ((x * 0x100000001) >>> n)

def rotateLeft (x : Word) (n : ℕ) : Word := rotateRight x (32 - n)

def complement (x : Word) : Word := 0xffffffff - x

/-- The number of which the words are the digits, most significant first. -/
def joinWords (ws : List Word) : ℕ := ws.foldl (fun n w => n * 0x100000000 + w) 0

def byteWord (a b c d : UInt8) : Word :=
  ((a.toNat * 256 + b.toNat) * 256 + c.toNat) * 256 + d.toNat

def words : List UInt8 → List Word
  | a :: b :: c :: d :: rest => byteWord a b c d :: words rest
  | _ => []

def utf8 (s : List Char) : List UInt8 := s.flatMap String.utf8EncodeChar

/-- The big-endian bytes of a number, `n` of them. -/
def bytes (n x : ℕ) : List UInt8 :=
  (List.range n).map fun i => UInt8.ofNat (x >>> (8 * (n - 1 - i)))

/-- A message, the bit `1`, zeros, and the message's length in bits. -/
def pad (m : List UInt8) : List UInt8 :=
  m ++ 0x80 :: List.replicate ((119 - m.length % 64) % 64) 0 ++ bytes 8 (8 * m.length)

def blocks (m : List UInt8) : List (List Word) := (words (pad m)).toChunks 16

/-- Sixteen words of schedule, then one more for each round. -/
def schedule (next : List Word → Word) (round : Word → α → Word → α) :
    List Word → List Word → α → α
  | [], _, st => st
  | k :: ks, ws, st => schedule next round ks (next ws :: ws) (round k st ws[15]!)

/-- Compress the blocks in turn, then finish. An evaluation does not come to the end before it
has all of the message. -/
def digest (compress : α → List Word → α) (finish : α → β) : List (List Word) → α → β
  | [], st => finish st
  | b :: bs, st => digest compress finish bs (compress st b)

/-! ### SHA-256 -/

structure State256 where
  a : Word
  b : Word
  c : Word
  d : Word
  e : Word
  f : Word
  g : Word
  h : Word

def init256 : State256 :=
  ⟨0x6a09e667, 0xbb67ae85, 0x3c6ef372, 0xa54ff53a, 0x510e527f, 0x9b05688c, 0x1f83d9ab,
    0x5be0cd19⟩

def keys256 : List Word :=
  [0x428a2f98, 0x71374491, 0xb5c0fbcf, 0xe9b5dba5, 0x3956c25b, 0x59f111f1, 0x923f82a4,
   0xab1c5ed5, 0xd807aa98, 0x12835b01, 0x243185be, 0x550c7dc3, 0x72be5d74, 0x80deb1fe,
   0x9bdc06a7, 0xc19bf174, 0xe49b69c1, 0xefbe4786, 0x0fc19dc6, 0x240ca1cc, 0x2de92c6f,
   0x4a7484aa, 0x5cb0a9dc, 0x76f988da, 0x983e5152, 0xa831c66d, 0xb00327c8, 0xbf597fc7,
   0xc6e00bf3, 0xd5a79147, 0x06ca6351, 0x14292967, 0x27b70a85, 0x2e1b2138, 0x4d2c6dfc,
   0x53380d13, 0x650a7354, 0x766a0abb, 0x81c2c92e, 0x92722c85, 0xa2bfe8a1, 0xa81a664b,
   0xc24b8b70, 0xc76c51a3, 0xd192e819, 0xd6990624, 0xf40e3585, 0x106aa070, 0x19a4c116,
   0x1e376c08, 0x2748774c, 0x34b0bcb5, 0x391c0cb3, 0x4ed8aa4a, 0x5b9cca4f, 0x682e6ff3,
   0x748f82ee, 0x78a5636f, 0x84c87814, 0x8cc70208, 0x90befffa, 0xa4506ceb, 0xbef9a3f7,
   0xc67178f2]

def next256 (ws : List Word) : Word :=
  let x := ws[14]!
  let y := ws[1]!
  wrap ((rotateRight y 17 ^^^ rotateRight y 19 ^^^ y >>> 10) + ws[6]! +
    (rotateRight x 7 ^^^ rotateRight x 18 ^^^ x >>> 3) + ws[15]!)

def round256 (k : Word) (s : State256) (w : Word) : State256 :=
  let t1 := s.h + (rotateRight s.e 6 ^^^ rotateRight s.e 11 ^^^ rotateRight s.e 25) +
    ((s.e &&& s.f) ^^^ (complement s.e &&& s.g)) + k + w
  let t2 := (rotateRight s.a 2 ^^^ rotateRight s.a 13 ^^^ rotateRight s.a 22) +
    ((s.a &&& s.b) ^^^ (s.a &&& s.c) ^^^ (s.b &&& s.c))
  ⟨wrap (t1 + t2), s.a, s.b, s.c, wrap (s.d + t1), s.e, s.f, s.g⟩

def compress256 (s : State256) (block : List Word) : State256 :=
  let t := schedule next256 round256 keys256 block.reverse s
  ⟨wrap (s.a + t.a), wrap (s.b + t.b), wrap (s.c + t.c), wrap (s.d + t.d), wrap (s.e + t.e),
    wrap (s.f + t.f), wrap (s.g + t.g), wrap (s.h + t.h)⟩

def State256.value (s : State256) : BitVec 256 :=
  BitVec.ofNat 256 (joinWords [s.a, s.b, s.c, s.d, s.e, s.f, s.g, s.h])

/-- What `finish` makes of the digest of a message. -/
def sha256 (finish : BitVec 256 → α) (m : List UInt8) : α :=
  digest compress256 (fun s => finish s.value) (blocks m) init256

example : sha256 id (utf8 ['a', 'b', 'c']) =
    0xba7816bf8f01cfea414140de5dae2223b00361a396177a9cb410ff61f20015ad := by
  decide +kernel

/-! ### SHA-1 -/

structure State1 where
  a : Word
  b : Word
  c : Word
  d : Word
  e : Word

def init1 : State1 := ⟨0x67452301, 0xefcdab89, 0x98badcfe, 0x10325476, 0xc3d2e1f0⟩

def keys1 : List Word :=
  List.replicate 20 0x5a827999 ++ List.replicate 20 0x6ed9eba1 ++
    List.replicate 20 0x8f1bbcdc ++ List.replicate 20 0xca62c1d6

def next1 (ws : List Word) : Word := rotateLeft (ws[2]! ^^^ ws[7]! ^^^ ws[13]! ^^^ ws[15]!) 1

def mix1 (k b c d : Word) : Word :=
  if k = 0x5a827999 then (b &&& c) ||| (complement b &&& d)
  else if k = 0x8f1bbcdc then (b &&& c) ||| (b &&& d) ||| (c &&& d)
  else b ^^^ c ^^^ d

def round1 (k : Word) (s : State1) (w : Word) : State1 :=
  ⟨wrap (rotateLeft s.a 5 + mix1 k s.b s.c s.d + s.e + k + w), s.a, rotateLeft s.b 30, s.c, s.d⟩

def compress1 (s : State1) (block : List Word) : State1 :=
  let t := schedule next1 round1 keys1 block.reverse s
  ⟨wrap (s.a + t.a), wrap (s.b + t.b), wrap (s.c + t.c), wrap (s.d + t.d), wrap (s.e + t.e)⟩

def State1.value (s : State1) : BitVec 160 :=
  BitVec.ofNat 160 (joinWords [s.a, s.b, s.c, s.d, s.e])

def sha1 (finish : BitVec 160 → α) (m : List UInt8) : α :=
  digest compress1 (fun s => finish s.value) (blocks m) init1

example : sha1 id (utf8 ['a', 'b', 'c']) = 0xa9993e364706816aba3e25717850c26c9cd0d89d := by
  decide +kernel

/-! ### Hexadecimal text -/

def hexChar (n : Fin 16) : Char :=
  "0123456789abcdef".toList.get n

/-- The nibbles of a number, most significant first, `n` of them. -/
def nibbles : ℕ → ℕ → List (Fin 16)
  | 0, _ => []
  | n + 1, x => nibbles n (x / 16) ++ [Fin.ofNat 16 x]

def hex (n : ℕ) (x : ℕ) : List Char := (nibbles n x).map hexChar

lemma hexChar_injective : Function.Injective hexChar := by
  unfold Function.Injective
  decide

@[simp] lemma length_nibbles (n x : ℕ) : (nibbles n x).length = n := by
  induction n generalizing x with
  | zero => rfl
  | succ n ih => simp [nibbles, ih]

@[simp] lemma length_hex (n x : ℕ) : (hex n x).length = n := by simp [hex]

lemma nibbles_inj {n x y : ℕ} (hx : x < 16 ^ n) (hy : y < 16 ^ n)
    (h : nibbles n x = nibbles n y) : x = y := by
  induction n generalizing x y with
  | zero => simp only [Nat.pow_zero, Nat.lt_one_iff] at hx hy; rw [hx, hy]
  | succ n ih =>
    obtain ⟨hhi, hlo⟩ := List.append_inj h (by simp)
    have hdiv : x / 16 = y / 16 :=
      ih (by rw [Nat.pow_succ] at hx; omega) (by rw [Nat.pow_succ] at hy; omega) hhi
    have hmod : x % 16 = y % 16 := by simpa [Fin.ext_iff] using hlo
    omega

lemma hex_inj {n x y : ℕ} (hx : x < 16 ^ n) (hy : y < 16 ^ n) (h : hex n x = hex n y) :
    x = y :=
  nibbles_inj hx hy (List.map_injective_iff.mpr hexChar_injective h)

/-- A character of lower-case hexadecimal text. -/
def isHexChar (c : Char) : Bool := ('0' ≤ c && c ≤ '9') || ('a' ≤ c && c ≤ 'f')

lemma isHexChar_hexChar : ∀ n, isHexChar (hexChar n) = true := by decide

lemma isHexChar_of_mem {n x : ℕ} {c : Char} (h : c ∈ hex n x) : isHexChar c = true := by
  obtain ⟨k, -, rfl⟩ := List.mem_map.mp h
  exact isHexChar_hexChar k

end IncidentGate.Lib.Digest
