import Phrasebook.Text.Quoted
import Phrasebook.Binary64

/-!
Values: what a log field, the data of a fault or a settings document holds.

A value is null, a truth value, an integer, a real number (kept as the text it was read
from, and standing for the double nearest it), a text, a list or a record of named values in
order. Two ways of writing a value are
fixed here. Its *display* is how a log line shows a field: a text as it is, a truth value as
`True` or `False`, null as `None`, a real number as the shortest text of its double. Its *literal* is how a value is shown inside a list or a
record: a text quoted (`Text.quote`), everything else as its display. Lists are bracketed
and records braced, members separated by `, `, a record member written `key: value` with its
key quoted.

`display_str`: the display of a text is the text itself.
-/

namespace Phrasebook

/-- A dynamic value. -/
inductive Value where
  | null
  | bool (b : Bool)
  | int (n : Int)
  | real (text : String)
  | str (s : String)
  | list (items : List Value)
  | record (fields : List (String × Value))
deriving Inhabited, BEq, Repr

namespace Value

def boolText : Bool → String
  | true => "True"
  | false => "False"

/-- How a real number is shown: as the shortest text of its double, the infinities and
not-a-number as `inf`, `-inf` and `nan`. -/
def realText (t : String) : String :=
  match Binary64.ofText? t with
  | some b => b.shortText
  | none => t

mutual

/-- The literal of a value, as it stands inside a list or a record. -/
def literal : Value → String
  | .null => "None"
  | .bool b => boolText b
  | .int n => toString n
  | .real t => realText t
  | .str s => Text.quote s
  | .list items => "[" ++ ", ".intercalate (literalList items) ++ "]"
  | .record fields => "\x7b" ++ ", ".intercalate (literalFields fields) ++ "\x7d"

def literalList : List Value → List String
  | [] => []
  | v :: vs => literal v :: literalList vs

def literalFields : List (String × Value) → List String
  | [] => []
  | (k, v) :: fs => (Text.quote k ++ ": " ++ literal v) :: literalFields fs

end

/-- The display of a value, as a log line shows a field. -/
def display : Value → String
  | .str s => s
  | v => literal v

def ofOption : Option String → Value
  | some s => .str s
  | none => .null

def ofStrings (xs : List String) : Value := .list (xs.map .str)

def asString? : Value → Option String
  | .str s => some s
  | _ => none

/-- Whether a real number's text stands for a zero double. -/
def realIsZero (t : String) : Bool :=
  match Binary64.ofText? t with
  | some b => b.isZero
  | none => false

/-- Whether a value counts as true where a condition asks: null, false, zero, the empty text,
the empty list and the empty record do not. -/
def truthy : Value → Bool
  | .null => false
  | .bool b => b
  | .int n => n != 0
  | .real t => !realIsZero t
  | .str s => !s.isEmpty
  | .list xs => !xs.isEmpty
  | .record fs => !fs.isEmpty

/-- The name of a value's kind, as a fault about it names it. -/
def kindName : Value → String
  | .null => "NoneType"
  | .bool _ => "bool"
  | .int _ => "int"
  | .real _ => "float"
  | .str _ => "str"
  | .list _ => "list"
  | .record _ => "dict"

def isNull : Value → Bool
  | .null => true
  | _ => false

@[simp] theorem display_str (s : String) : display (.str s) = s := rfl

end Value

end Phrasebook
