import Phrasebook.Value
import Phrasebook.Table
import Phrasebook.Text.Point

/-!
Reading JSON text into values.

The reader takes a JSON document (RFC 8259, plus the constants `NaN`, `Infinity` and
`-Infinity`) and gives a `Value`, or the first place where the text breaks the grammar with
what was expected there. A member name given twice keeps its first place and its last value.
Integers become `Value.int`, up to 4300 digits; numbers with a fraction or an exponent keep
their text. A `\u` escape of a surrogate joins with a following low surrogate escape; a
surrogate that stays alone is kept as a lone surrogate (see `Text.Point`). The text read is a
held text, and the characters of a string are taken as they stand, so a held pair stays whole.
Containers nest at most `maxNesting` deep when the reader is called from the top of the
interpreter's calls, and less deep the deeper its caller stands (`readWithin`).

Positions count points from zero. A fault is shown with its line and column, both from
one: `Expecting value: line 1 column 1 (char 0)`.
-/

namespace Phrasebook.Json

/-- Why a JSON text was refused: where it breaks the grammar and what was expected there; a
container nested deeper than allowed, named by its kind; or an integer of more digits than
allowed, with its count of digits. -/
inductive ReadError where
  | grammar (msg : String) (pos : Nat)
  | nesting (container : String)
  | longInteger (digits : Nat)
deriving Inhabited, BEq, Repr

/-- How deep containers may nest in a document read from the top: the interpreter allows 1000
calls in all, of which eleven are taken by the calls that lead to the reader. -/
def maxNesting : Nat := 989

def maxDigits : Nat := 4300

def isSpace (c : Char) : Bool := c = ' ' || c = '\t' || c = '\n' || c = '\r'

/-- The first position at or after `i` that is not blank. -/
def skipSpace (s : Array Char) (i : Nat) : Nat :=
  if h : i < s.size then
    if isSpace s[i] then skipSpace s (i + 1) else i
  else i
termination_by s.size - i

/-- The value of a hexadecimal digit. -/
def hexDigit? (c : Char) : Option Nat :=
  if '0' ≤ c && c ≤ '9' then some (c.toNat - '0'.toNat)
  else if 'a' ≤ c && c ≤ 'f' then some (c.toNat - 'a'.toNat + 10)
  else if 'A' ≤ c && c ≤ 'F' then some (c.toNat - 'A'.toNat + 10)
  else none

/-- The value of the four hexadecimal digits at `i`. -/
def hex4? (s : Array Char) (i : Nat) : Option Nat := do
  let a ← hexDigit? (← s[i]?)
  let b ← hexDigit? (← s[i + 1]?)
  let c ← hexDigit? (← s[i + 2]?)
  let d ← hexDigit? (← s[i + 3]?)
  return ((a * 16 + b) * 16 + c) * 16 + d

/-- The character a one-letter escape stands for. -/
def simpleEscape? : Char → Option Char
  | '"' => some '"'
  | '\\' => some '\\'
  | '/' => some '/'
  | 'b' => some (Char.ofNat 8)
  | 'f' => some (Char.ofNat 12)
  | 'n' => some '\n'
  | 'r' => some '\r'
  | 't' => some '\t'
  | _ => none

/-- Reads the rest of a string whose opening quote stands at `begin`, from `i` on, with the
points read so far in reverse. Gives the string and the position after its closing quote. -/
def readString (s : Array Char) (begin : Nat) (i : Nat) (acc : List Text.Point) :
    Except ReadError (String × Nat) :=
  if h : i < s.size then
    let c := s[i]
    if c = '"' then .ok (Text.ofPoints acc.reverse, i + 1)
    else if c = '\\' then
      if h1 : i + 1 < s.size then
        let e := s[i + 1]
        if e = 'u' then
          let next := i + 2
          if next + 4 ≥ s.size then .error (.grammar "Invalid \\uXXXX escape" (i + 1))
          else match hex4? s next with
            | none => .error (.grammar "Invalid \\uXXXX escape" (i + 1))
            | some u =>
              let after := next + 4
              if 0xD800 ≤ u && u ≤ 0xDBFF && after + 6 < s.size &&
                  s[after]? = some '\\' && s[after + 1]? = some 'u' then
                match hex4? s (after + 2) with
                | none => .error (.grammar "Invalid \\uXXXX escape" (after + 1))
                | some l =>
                  if 0xDC00 ≤ l && l ≤ 0xDFFF then
                    readString s begin (after + 6)
                      (.char (Char.ofNat (0x10000 + (u - 0xD800) * 0x400 + (l - 0xDC00))) :: acc)
                  else readString s begin after (Text.Point.ofCode u :: acc)
              else readString s begin after (Text.Point.ofCode u :: acc)
        else match simpleEscape? e with
          | some d => readString s begin (i + 2) (.char d :: acc)
          | none => .error (.grammar "Invalid \\escape" i)
      else .error (.grammar "Unterminated string starting at" begin)
    else if c.toNat ≤ 0x1F then .error (.grammar "Invalid control character at" i)
    else if c = Text.mark then
      match s[i + 1]? with
      | some d => readString s begin (i + 2) (Text.pairPoint d :: acc)
      | none => readString s begin (i + 1) (.char c :: acc)
    else readString s begin (i + 1) (.char c :: acc)
  else .error (.grammar "Unterminated string starting at" begin)
termination_by s.size - i

def digitAt (s : Array Char) (i : Nat) : Bool :=
  match s[i]? with
  | some c => '0' ≤ c && c ≤ '9'
  | none => false

/-- The first position at or after `i` that holds no digit. -/
def skipDigits (s : Array Char) (i : Nat) : Nat :=
  if i < s.size then
    if digitAt s i then skipDigits s (i + 1) else i
  else i
termination_by s.size - i

def slice (s : Array Char) (i j : Nat) : String :=
  String.ofList ((s.toList.drop i).take (j - i))

def intOf (t : String) : Int :=
  match t.toList with
  | '-' :: ds => -((String.ofList ds).toNat! : Int)
  | ds => ((String.ofList ds).toNat! : Int)

/-- Reads a number at `i`: an optional minus, an integer part without leading zeros, an
optional fraction of at least one digit, an optional exponent of at least one digit. -/
def readNumber (s : Array Char) (i : Nat) : Except ReadError (Value × Nat) :=
  let j := if s[i]? = some '-' then i + 1 else i
  match s[j]? with
  | some c =>
    if c = '0' || ('1' ≤ c && c ≤ '9') then
      let k := if c = '0' then j + 1 else skipDigits s (j + 1)
      let (k, frac) :=
        if s[k]? = some '.' && digitAt s (k + 1) then (skipDigits s (k + 2), true) else (k, false)
      let (k, expo) :=
        if s[k]? = some 'e' || s[k]? = some 'E' then
          let m := if s[k + 1]? = some '+' || s[k + 1]? = some '-' then k + 2 else k + 1
          let m' := skipDigits s m
          if m' > m then (m', true) else (k, false)
        else (k, false)
      if frac || expo then .ok (.real (slice s i k), k)
      else if k - j > maxDigits then .error (.longInteger (k - j))
      else .ok (.int (intOf (slice s i k)), k)
    else .error (.grammar "Expecting value" i)
  | none => .error (.grammar "Expecting value" i)

def wordAt (s : Array Char) (i : Nat) (w : String) : Bool :=
  (s.toList.drop i).take w.length == w.toList

mutual

/-- Reads one value at `i`, inside containers that may hold `room` more levels of nesting;
`fuel` bounds the steps. -/
def readValue : Nat → Nat → Array Char → Nat → Except ReadError (Value × Nat)
  | 0, _, _, i => .error (.grammar "Expecting value" i)
  | fuel + 1, room, s, i =>
    match s[i]? with
    | none => .error (.grammar "Expecting value" i)
    | some '"' => (readString s i (i + 1) []).map fun (t, j) => (.str t, j)
    | some '{' =>
      if room = 0 then .error (.nesting "object") else readObject fuel (room - 1) s (skipSpace s (i + 1))
    | some '[' =>
      if room = 0 then .error (.nesting "array") else readArray fuel (room - 1) s (skipSpace s (i + 1))
    | some c =>
      if c = 'n' && wordAt s i "null" then .ok (.null, i + 4)
      else if c = 't' && wordAt s i "true" then .ok (.bool true, i + 4)
      else if c = 'f' && wordAt s i "false" then .ok (.bool false, i + 5)
      else if c = 'N' && wordAt s i "NaN" then .ok (.real "NaN", i + 3)
      else if c = 'I' && wordAt s i "Infinity" then .ok (.real "Infinity", i + 8)
      else if c = '-' && wordAt s i "-Infinity" then .ok (.real "-Infinity", i + 9)
      else readNumber s i

/-- Reads the members of an object from `i`, just after its brace and blanks. -/
def readObject : Nat → Nat → Array Char → Nat → Except ReadError (Value × Nat)
  | 0, _, _, i => .error (.grammar "Expecting value" i)
  | fuel + 1, room, s, i =>
    if s[i]? = some '}' then .ok (.record [], i + 1)
    else readMembers fuel room s i []

/-- Reads members from `i` on, those read so far in `acc`. -/
def readMembers : Nat → Nat → Array Char → Nat → List (String × Value) →
    Except ReadError (Value × Nat)
  | 0, _, _, i, _ => .error (.grammar "Expecting value" i)
  | fuel + 1, room, s, i, acc =>
    if s[i]? ≠ some '"' then
      .error (.grammar "Expecting property name enclosed in double quotes" i)
    else match readString s i (i + 1) [] with
      | .error e => .error e
      | .ok (key, j) =>
        let j := skipSpace s j
        if s[j]? ≠ some ':' then .error (.grammar "Expecting ':' delimiter" j)
        else match readValue fuel room s (skipSpace s (j + 1)) with
          | .error e => .error e
          | .ok (v, k) =>
            let k := skipSpace s k
            let acc := Table.assign acc key v
            if s[k]? = some '}' then .ok (.record acc, k + 1)
            else if s[k]? ≠ some ',' then .error (.grammar "Expecting ',' delimiter" k)
            else readMembers fuel room s (skipSpace s (k + 1)) acc

/-- Reads the items of an array from `i`, just after its bracket and blanks. -/
def readArray : Nat → Nat → Array Char → Nat → Except ReadError (Value × Nat)
  | 0, _, _, i => .error (.grammar "Expecting value" i)
  | fuel + 1, room, s, i =>
    if s[i]? = some ']' then .ok (.list [], i + 1)
    else readItems fuel room s i []

/-- Reads items from `i` on, those read so far in reverse in `acc`. -/
def readItems : Nat → Nat → Array Char → Nat → List Value → Except ReadError (Value × Nat)
  | 0, _, _, i, _ => .error (.grammar "Expecting value" i)
  | fuel + 1, room, s, i, acc =>
    match readValue fuel room s i with
    | .error e => .error e
    | .ok (v, k) =>
      let k := skipSpace s k
      if s[k]? = some ']' then .ok (.list (v :: acc).reverse, k + 1)
      else if s[k]? ≠ some ',' then .error (.grammar "Expecting ',' delimiter" k)
      else readItems fuel room s (skipSpace s (k + 1)) (v :: acc)

end

/-- Reads a whole JSON document, in which containers may nest `room` deep. -/
def readWithin (room : Nat) (text : String) : Except ReadError Value :=
  let s := text.toList.toArray
  if s[0]? = some '\uFEFF' then .error (.grammar "Unexpected UTF-8 BOM (decode using utf-8-sig)" 0)
  else
    match readValue (3 * s.size + 3) room s (skipSpace s 0) with
    | .error e => .error e
    | .ok (v, j) =>
      let j := skipSpace s j
      if j ≠ s.size then .error (.grammar "Extra data" j) else .ok v

/-- Reads a whole JSON document from the top of the interpreter's calls. -/
def read (text : String) : Except ReadError Value := readWithin maxNesting text

/-- A refusal as text: a break of the grammar with its line and column,
`msg: line L column C (char P)`; a nesting too deep or an integer too long by what went over
the limit. -/
def ReadError.render (text : String) : ReadError → String
  | .grammar msg pos =>
    let before := Text.pointsOf (text.toList.take pos)
    let line := before.count (.char '\n') + 1
    let col := match (before.reverse.findIdx? (· = .char '\n')) with
      | some k => k + 1
      | none => before.length + 1
    msg ++ ": line " ++ toString line ++ " column " ++ toString col ++ " (char " ++
      toString before.length ++ ")"
  | .nesting c => "maximum recursion depth exceeded while decoding a JSON " ++ c ++
      " from a unicode string"
  | .longInteger n => "Exceeds the limit (" ++ toString maxDigits ++ " digits) for integer " ++
      "string conversion: value has " ++ toString n ++ " digits; use " ++
      "sys.set_int_max_str_digits() to increase the limit"

end Phrasebook.Json
