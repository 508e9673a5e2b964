import Phrasebook.Log.Event
import Phrasebook.Number
import Phrasebook.Text.Case

/-!
Incidents: faults and misses worth counting, grouped by type.

An incident has a type, a message and a context of named values. The type is a fault's
category or a name of its own, and the message a text, but a caller may give any value for
either. Its log line is `[TYPE] message`, the type in capitals, then
` | Exception: Class: message` when a fault comes with it, then ` | Context: k=v | k=v` when
the context is not empty.

The tally keeps, per type in the order types first occur, the incidents recorded. Types are
matched as keys of a mapping (`Value.sameKey`), and a type keeps the value it first came
with. A history limit keeps a list short: when a list grows longer than the limit, only the
last `limit` incidents stay; a limit of zero keeps everything, and a negative limit `-n` drops
the first `n`. A limit given as a value must be a number to be compared with a length, and a
whole number (a truth value counts as one) to cut a list with: a real limit is refused only
once some list grows longer than it. The summary gives each type with its count and its
last incident, and the report lists each type with its count and the message of its last
incident.

`trim_le`: trimming by a positive limit leaves at most that many incidents.
`recordWithin_int`: recording under a whole limit given as a value always succeeds, as
`recordUnder`.
-/

namespace Phrasebook.Log

/-- One recorded incident. -/
structure Incident where
  message : Value
  context : List (String × Value)
deriving Inhabited, Repr

/-- The log line of an incident of a type, with the fault behind it if any. -/
def incidentLine (type : String) (message : Value) (exception : Option Fault)
    (context : List (String × Value)) : String :=
  let head := "[" ++ Text.upper type ++ "] " ++ message.display
  let head := match exception with
    | some f => head ++ " | Exception: " ++ f.className ++ ": " ++ f.message
    | none => head
  if context.isEmpty then head
  else head ++ " | Context: " ++ " | ".intercalate (context.map fun p => p.1 ++ "=" ++ p.2.display)

/-- Incidents by type, in the order the types first occurred. -/
structure Tally where
  byType : List (Value × List Incident) := []
deriving Inhabited, Repr

namespace Tally

def historyLimit : Int := 1000

/-- Shortens a list that is longer than the limit, as the limit says. -/
def trim {α : Type} (limit : Int) (xs : List α) : List α :=
  if limit < (xs.length : Int) then
    if 0 < limit then xs.drop (xs.length - limit.toNat) else xs.drop (-limit).toNat
  else xs

/-- Shortens a list by a limit given as a value. -/
def cut {α : Type} (limit : Value) (xs : List α) : Except Fault (List α) :=
  match limit.number? with
  | none => .error (Fault.uncomparable ">" (.int xs.length) limit)
  | some x =>
    if x.compareInt xs.length = some .lt then
      match limit with
      | .int n => .ok (trim n xs)
      | .bool b => .ok (trim (if b then 1 else 0) xs)
      | _ => .error (.system .type (some (.str
          "slice indices must be integers or None or have an __index__ method")))
    else .ok xs

def under (t : Tally) (type : Value) : List Incident :=
  ((t.byType.find? fun p => p.1.sameKey type).map (·.2)).getD []

/-- Sets the incidents under a type: in the place of the type if it is there, which keeps its
value, or as a new type at the end. -/
def put (type : Value) (is : List Incident) :
    List (Value × List Incident) → List (Value × List Incident)
  | [] => [(type, is)]
  | (k, js) :: rest => if k.sameKey type then (k, is) :: rest else (k, js) :: put type is rest

def recordUnder (limit : Int) (t : Tally) (type : Value) (i : Incident) : Tally :=
  { byType := put type (trim limit (t.under type ++ [i])) t.byType }

/-- Records an incident under a type named by a text, within the engine's limit. -/
def record (t : Tally) (type : String) (i : Incident) : Tally :=
  t.recordUnder historyLimit (.str type) i

/-- Records an incident under a type given as a value, within a limit given as a value. -/
def recordWithin (limit : Value) (t : Tally) (type : Value) (i : Incident) :
    Except Fault Tally := do
  if let some f := type.unhashable? then throw f
  let is ← cut limit (t.under type ++ [i])
  pure { byType := put type is t.byType }

def clear (_ : Tally) : Tally := {}

/-- The summary: each type with the number of its incidents and the last of them, if any. -/
def summary (t : Tally) : List (Value × Nat × Option Incident) :=
  t.byType.map fun p => (p.1, p.2.length, p.2.getLast?)

/-- The report: each type with its count and last message, or a note that there is none. -/
def report (t : Tally) : List Record :=
  if t.byType.isEmpty then [⟨.info, "No errors recorded in current session"⟩]
  else ⟨.warning, "🚨 ERROR SUMMARY REPORT"⟩ ::
    t.byType.flatMap fun p =>
      ⟨.warning, "  " ++ p.1.display ++ ": " ++ toString p.2.length ++ " total"⟩ ::
        (match p.2.getLast? with
          | some i => [⟨.warning, "    Last: " ++ i.message.display⟩]
          | none => [])

theorem trim_le {α : Type} {limit : Int} (h : 0 < limit) (xs : List α) :
    ((trim limit xs).length : Int) ≤ limit := by
  unfold trim
  split
  · rw [List.length_drop]
    omega
  · omega

theorem cut_int {α : Type} (n : Int) (xs : List α) : cut (.int n) xs = .ok (trim n xs) := by
  unfold cut
  simp only [Value.number?, Number.compareInt_whole]
  by_cases h : n < (xs.length : Int)
  · rw [Int.compare_eq_lt.mpr h]
    simp
  · have hc : compare n (xs.length : Int) ≠ .lt := fun hc => h (Int.compare_eq_lt.mp hc)
    simp only [Option.some.injEq, hc, if_false]
    unfold trim
    simp [h]

theorem recordWithin_int (n : Int) (t : Tally) (type : String) (i : Incident) :
    t.recordWithin (.int n) (.str type) i = .ok (t.recordUnder n (.str type) i) := by
  simp only [recordWithin, Value.unhashable?, cut_int]
  rfl

end Tally

end Phrasebook.Log
