import Phrasebook.Number

/-!
The runtime's hash of a value that can be a key, with its hash seed fixed at zero.

A hash is a signed 64-bit number, kept here as its 64 bits (`UInt64`); `-1` is never a hash
and becomes `-2`.

* A number hashes to its value modulo the prime `2 ^ 61 - 1`, the sign kept apart: a whole
  number `n` to `n mod P` with the sign of `n`, a double `sig · 2 ^ k` to
  `sig · 2 ^ (k mod 61) mod P`, since `2 ^ 61 = 1` modulo `P`. Equal numbers of any kind hash
  alike (`1`, `1.0` and true). The infinities hash to `±314159`.
* A text hashes by SipHash-1-3 under the zero key over the bytes it is stored in: one byte a
  point when every point is below 256, two little-endian bytes a point when every point is
  below 65536, else four. The empty text hashes to zero.
* Null and not-a-number hash by where they are stored, which no rule fixes; they are given
  fixed hashes here (`nullHash`, zero).

`hash_int_small`: a whole number below the modulus is its own hash.
-/

namespace Phrasebook.Hash

def modulus : Nat := Nat.pow 2 61 - 1

/-- The bits of a signed hash, with `-1` turned into `-2`. -/
def ofSigned (h : Int) : UInt64 :=
  let h := if h = -1 then -2 else h
  UInt64.ofInt h

def ofInt (n : Int) : UInt64 :=
  let h : Int := (n.natAbs % modulus : Nat)
  ofSigned (if n < 0 then -h else h)

/-- The hash of a double. -/
def ofBinary : Binary64 → UInt64
  | .zero _ => 0
  | .finite negative sig k =>
    let h : Int := (sig * Nat.pow 2 (k % 61).toNat % modulus : Nat)
    ofSigned (if negative then -h else h)
  | .infinite negative => ofSigned (if negative then -314159 else 314159)
  | .nan => 0

def rotl (x b : UInt64) : UInt64 := (x <<< b) ||| (x >>> (64 - b))

/-- The four words of SipHash. -/
structure Sip where
  v0 : UInt64
  v1 : UInt64
  v2 : UInt64
  v3 : UInt64

/-- One SipRound. -/
def Sip.round (s : Sip) : Sip :=
  let v0 := s.v0 + s.v1
  let v2 := s.v2 + s.v3
  let v1 := rotl s.v1 13 ^^^ v0
  let v3 := rotl s.v3 16 ^^^ v2
  let v0 := rotl v0 32
  let v2 := v2 + v1
  let v0 := v0 + v3
  let v1 := rotl v1 17 ^^^ v2
  let v3 := rotl v3 21 ^^^ v0
  let v2 := rotl v2 32
  ⟨v0, v1, v2, v3⟩

def Sip.absorb (s : Sip) (w : UInt64) : Sip :=
  let s := { s with v3 := s.v3 ^^^ w }.round
  { s with v0 := s.v0 ^^^ w }

def word (bs : List Nat) : UInt64 :=
  bs.foldr (fun b acc => (acc <<< 8) ||| UInt64.ofNat b) 0

/-- Takes in the whole words of a message, answering the bytes left over. -/
def absorbWords : Nat → Sip → List Nat → Sip × List Nat
  | 0, s, bs => (s, bs)
  | fuel + 1, s, bs =>
    if 8 ≤ bs.length then absorbWords fuel (s.absorb (word (bs.take 8))) (bs.drop 8)
    else (s, bs)

/-- SipHash-1-3 of some bytes under the zero key. -/
def sipHash13 (bs : List Nat) : UInt64 :=
  let s : Sip := ⟨0x736f6d6570736575, 0x646f72616e646f6d, 0x6c7967656e657261, 0x7465646279746573⟩
  let (s, rest) := absorbWords (bs.length / 8 + 1) s bs
  let last := (UInt64.ofNat bs.length <<< 56) ||| word rest
  let s := s.absorb last
  let s := { s with v2 := s.v2 ^^^ 0xff }.round.round.round
  s.v0 ^^^ s.v1 ^^^ s.v2 ^^^ s.v3

def littleEndian (width n : Nat) : List Nat :=
  (List.range width).map fun i => n / Nat.pow 256 i % 256

/-- The bytes a text is stored in: its points at the width of the widest. -/
def storedBytes (s : String) : List Nat :=
  let codes := (Text.points s).map Text.Point.code
  let top := codes.foldl max 0
  let width := if top < 256 then 1 else if top < 65536 then 2 else 4
  codes.flatMap (littleEndian width)

/-- The hash of a text. -/
def ofText (s : String) : UInt64 :=
  let bs := storedBytes s
  if bs.isEmpty then 0
  else
    let h := sipHash13 bs
    if h = UInt64.ofInt (-1) then UInt64.ofInt (-2) else h

def nullHash : UInt64 := 0x4f

end Hash

/-- The hash of a value that can be a key. -/
def Value.hash : Value → UInt64
  | .null => Hash.nullHash
  | .bool b => if b then 1 else 0
  | .int n => Hash.ofInt n
  | .real t =>
    match Binary64.ofText? t with
    | some b => Hash.ofBinary b
    | none => 0
  | .str s => Hash.ofText s
  | .list _ | .record _ => 0

theorem Hash.hash_int_small (n : Nat) (h : n < Hash.modulus) :
    Value.hash (.int n) = UInt64.ofInt n := by
  have hlt : ¬ ((n : Int) < 0) := by omega
  have hne : ¬ ((n : Int) = -1) := by omega
  simp [Value.hash, Hash.ofInt, Hash.ofSigned, Nat.mod_eq_of_lt h, hlt, hne]

end Phrasebook
