import Phrasebook.Catalog.Source
import Phrasebook.Table

/-!
Catalogs: one locale's keys and texts, read from its source.

Reading a source takes its entries in line order and refuses a key that comes twice, even
with the same text, naming the line it was first defined on and the line it came again on.
A malformed line stops the reading first if it comes before the repeated key. A source
given as a value must be a text: any other value lacks the method the reading starts with.

`parse_error_of_entries`: a malformed source is refused with the fault of its first bad
line.
-/

namespace Phrasebook

/-- One locale's catalog: the locale it was read for (null when unknown; any value may be
given) and the keys with their texts. -/
structure Catalog where
  locale : Value
  table : Table String
deriving Inhabited, BEq, Repr

namespace Catalog

/-- Gathers entries into a table of lines and texts, or names the first repeated key. -/
def collect (locale : Value) :
    Table (Nat × String) → List Entry → Except Fault (Table (Nat × String))
  | t, [] => .ok t
  | t, e :: es =>
    match t.get? e.key with
    | some (first, _) =>
      .error (.duplicateKey (.str e.key) (.int first) (.int e.line) locale)
    | none => collect locale (t.set e.key (e.line, e.text)) es

/-- Reads a catalog from its source. -/
def parse (src : String) (locale : Value := .null) : Except Fault Catalog := do
  let es ← entries src locale
  let t ← collect locale Table.empty es
  return ⟨locale, t.mapValues (·.2)⟩

/-- The text of a source given as a value, which must be a text. -/
def sourceText (src : Value) : Except Fault String :=
  match src with
  | .str s => .ok s
  | v => .error (Fault.noAttribute v "startswith")

/-- Reads a catalog from a source given as a value. -/
def read (src locale : Value) : Except Fault Catalog := do
  parse (← sourceText src) locale

def entriesOf (src locale : Value) : Except Fault (List Entry) := do
  entries (← sourceText src) locale

def get? (c : Catalog) (k : String) : Option String := c.table.get? k

def size (c : Catalog) : Nat := c.table.size

def sortedKeys (c : Catalog) : List String := c.table.sortedKeys

def sortedEntries (c : Catalog) : List (String × String) :=
  c.table.entries.mergeSort fun a b => Text.precedes a.1 b.1

/-- How a catalog introduces itself: its locale as a literal (`None` for null) and its size. -/
def describe (c : Catalog) : String :=
  "Catalog(locale=" ++ c.locale.literal ++ ", entries=" ++ toString c.size ++ ")"

/-- How the store of a catalog introduces itself: by the locale the catalog was read for,
which may differ from the key it is found under. -/
def describeStore (c : Catalog) : String :=
  "CatalogStore(locale=" ++ c.locale.literal ++ ", entries=" ++ toString c.size ++ ")"

theorem parse_error_of_entries {src : String} {locale : Value} {f : Fault}
    (h : entries src locale = .error f) : parse src locale = .error f := by
  simp [parse, h, bind, Except.bind]

end Catalog

end Phrasebook
