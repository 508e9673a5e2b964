import Phrasebook.Value
import Phrasebook.Text.Quoted

/-!
Writing values as JSON text.

Texts are written in double quotes with the quote, the backslash and the control characters
escaped (`\n`, `\r`, `\t`, `\b`, `\f`, else `\u00hh`), and every other point is written as it
is, a lone surrogate included: the JSON text is itself a text. Members keep their order.
`compact` writes a value on one line without blanks; `pretty n` puts each member on a line of
its own, indented by `n` spaces a level, with `: ` between a name and its value, and writes an
empty list or record as `[]` or `{}`. A member's name that is not a text is written as the
text of the value (`keyText`): a number as its digits, `true`, `false` or `null`. A real
number is written as the shortest text of its double (`Binary64`), or `Infinity`, `-Infinity`
or `NaN`.

A JSON text leaves the program as characters (`wire`): a lone surrogate, which can only stand
inside a string, is written there as its `\udXXX` escape.
-/

namespace Phrasebook.Json

/-- How one character is written inside a JSON string. -/
def escapeChar (c : Char) : List Char :=
  if c = '"' then ['\\', '"']
  else if c = '\\' then ['\\', '\\']
  else if c = '\n' then ['\\', 'n']
  else if c = '\r' then ['\\', 'r']
  else if c = '\t' then ['\\', 't']
  else if c.toNat = 8 then ['\\', 'b']
  else if c.toNat = 12 then ['\\', 'f']
  else if c.toNat < 0x20 then '\\' :: 'u' :: Text.hexDigits 4 c.toNat
  else [c]

/-- A real number as JSON text: the shortest text of its double, the infinities and
not-a-number by name. -/
def realText (t : String) : String :=
  match Binary64.ofText? t with
  | some (.infinite negative) => if negative then "-Infinity" else "Infinity"
  | some .nan => "NaN"
  | some b => b.shortText
  | none => t

/-- The name of a member given as a value: a text as it is, any other value as its JSON text. -/
def keyText : Value → String
  | .str s => s
  | .null => "null"
  | .bool b => if b then "true" else "false"
  | .int n => toString n
  | .real t => realText t
  | v => v.literal

/-- A JSON text as characters to leave the program: each lone surrogate as its escape. -/
def wire (s : String) : String :=
  String.ofList ((Text.points s).flatMap fun
    | .char c => [c]
    | .surrogate i => '\\' :: 'u' :: Text.hexDigits 4 (0xD800 + i.val))

/-- A text as a JSON string; only ASCII characters are escaped, so a held pair stays whole. -/
def string (s : String) : String :=
  String.ofList ('"' :: s.toList.flatMap escapeChar ++ ['"'])

mutual

/-- A value as JSON text on one line. -/
def compact : Value → String
  | .null => "null"
  | .bool b => if b then "true" else "false"
  | .int n => toString n
  | .real t => realText t
  | .str s => string s
  | .list items => "[" ++ ",".intercalate (compactList items) ++ "]"
  | .record fields => "\x7b" ++ ",".intercalate (compactFields fields) ++ "\x7d"

def compactList : List Value → List String
  | [] => []
  | v :: vs => compact v :: compactList vs

def compactFields : List (String × Value) → List String
  | [] => []
  | (k, v) :: fs => (string k ++ ":" ++ compact v) :: compactFields fs

end

mutual

/-- A value as indented JSON text, `level` levels deep, `n` spaces a level. -/
def pretty (n : Nat) (level : Nat) : Value → String
  | .list [] => "[]"
  | .record [] => "\x7b\x7d"
  | .list items =>
    let pad := "\n" ++ String.ofList (List.replicate (n * (level + 1)) ' ')
    "[" ++ pad ++ ("," ++ pad).intercalate (prettyList n (level + 1) items) ++ "\n" ++
      String.ofList (List.replicate (n * level) ' ') ++ "]"
  | .record fields =>
    let pad := "\n" ++ String.ofList (List.replicate (n * (level + 1)) ' ')
    "\x7b" ++ pad ++ ("," ++ pad).intercalate (prettyFields n (level + 1) fields) ++ "\n" ++
      String.ofList (List.replicate (n * level) ' ') ++ "\x7d"
  | v => compact v

def prettyList (n : Nat) (level : Nat) : List Value → List String
  | [] => []
  | v :: vs => pretty n level v :: prettyList n level vs

def prettyFields (n : Nat) (level : Nat) : List (String × Value) → List String
  | [] => []
  | (k, v) :: fs => (string k ++ ": " ++ pretty n level v) :: prettyFields n level fs

end

end Phrasebook.Json
