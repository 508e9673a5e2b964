import Phrasebook.Text.Chars
import Phrasebook.Fault

/-!
Catalog sources: the line grammar of one locale's catalog text.

A source is cut into lines at line feeds, after one leading byte-order mark is dropped; one
carriage return at the end of a line is cut off as well. Lines count from one. A line whose
trimmed form is empty or starts with `#` is skipped. Every other line must hold `=`: it is
split at the first one and both sides are trimmed into a key and a text, either of which may
be empty. The first line without `=` stops the reading with a malformed-line fault that shows
the line as it stood. The locale a source is read for may be any value; the fault carries it.

Main statements: `entries_nil_of_skipped` (a source of skipped lines has no entries) and
`classify_of_split` (a line with `=` is split at its first one).
-/

namespace Phrasebook.Catalog

open Text

/-- One entry of a source: its line number, key and text. -/
structure Entry where
  line : Nat
  key : String
  text : String
deriving Inhabited, BEq, Repr

/-- What one line of a source is. -/
inductive Line where
  /-- A blank line or a comment. -/
  | skip
  /-- A key and its text. -/
  | entry (key text : String)
  /-- Neither. -/
  | malformed
deriving Inhabited, BEq, Repr

def bom : Char := '\uFEFF'

def dropBom : List Char → List Char
  | c :: cs => if c = bom then cs else c :: cs
  | [] => []

def cutReturn (cs : List Char) : List Char :=
  if cs.getLast? = some '\r' then cs.dropLast else cs

/-- The lines of a source, each without its line feed and final carriage return. -/
def lines (src : String) : List (List Char) :=
  ((dropBom src.toList).splitOn '\n').map cutReturn

/-- Splits a line at its first `=`: the part before and the part after, if there is one. -/
def splitFirst : List Char → Option (List Char × List Char)
  | [] => none
  | c :: cs =>
    if c = '=' then some ([], cs)
    else (splitFirst cs).map fun p => (c :: p.1, p.2)

/-- Whether a line is skipped: blank, or a comment once trimmed. -/
def skipped (raw : List Char) : Bool :=
  match trimList raw with
  | [] => true
  | c :: _ => c = '#'

/-- What a line is. -/
def classify (raw : List Char) : Line :=
  if skipped raw then .skip
  else match splitFirst raw with
    | some (k, t) => .entry (String.ofList (trimList k)) (String.ofList (trimList t))
    | none => .malformed

/-- The entries of numbered lines, or the fault of the first malformed one. -/
def entriesFrom (locale : Value) : Nat → List (List Char) → Except Fault (List Entry)
  | _, [] => .ok []
  | n, raw :: rest =>
    match classify raw with
    | .skip => entriesFrom locale (n + 1) rest
    | .entry k t => (entriesFrom locale (n + 1) rest).map (⟨n, k, t⟩ :: ·)
    | .malformed => .error (.malformedLine (.int n) (.str (String.ofList raw)) locale)

/-- The entries of a source in line order, repeated keys kept, or the fault of its first
malformed line. -/
def entries (src : String) (locale : Value := .null) : Except Fault (List Entry) :=
  entriesFrom locale 1 (lines src)

theorem classify_of_split {raw k t : List Char} (hs : skipped raw = false)
    (h : splitFirst raw = some (k, t)) :
    classify raw = .entry (String.ofList (trimList k)) (String.ofList (trimList t)) := by
  simp [classify, hs, h]

theorem entriesFrom_nil_of_skipped (locale : Value) :
    ∀ (n : Nat) (ls : List (List Char)), (∀ l ∈ ls, skipped l = true) →
      entriesFrom locale n ls = .ok []
  | _, [], _ => rfl
  | n, l :: ls, h => by
    have hl : classify l = .skip := by simp [classify, h l (List.mem_cons_self ..)]
    simp only [entriesFrom, hl]
    exact entriesFrom_nil_of_skipped locale (n + 1) ls fun x hx => h x (List.mem_cons_of_mem _ hx)

theorem entries_nil_of_skipped {src : String} (locale : Value)
    (h : ∀ l ∈ lines src, skipped l = true) : entries src locale = .ok [] :=
  entriesFrom_nil_of_skipped locale 1 _ h

end Phrasebook.Catalog
