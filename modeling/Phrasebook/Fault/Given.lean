import Phrasebook.Mapping
import Phrasebook.KeyTable

/-!
Faults built from values of any kind.

A caller may hand the library's faults values of any kind where texts are meant. Most faults
take them as they come and show their displays, but two go through them first, and fail
before they exist when a value does not fit.

A missing message joins the locales of its chain as texts. The chain is gone through (a list
by its items, a text by its characters, a record by its names), and the first item that is
not a text stops the join. A failed load gathers its locales into a set, sorts the set as it
lists them (`KeyTable`) and joins them: each must serve as a key, the sort must be able to
compare the pairs it asks about, and every locale must be a text to be joined. Locales that
are all texts always pass, whatever the set's order. The data a fault carries is built from a value as a mapping is,
unless the value counts as false.

`messageNotFoundOf_strs`: a chain of texts is taken as it stands.
`aggregateOf_strs`: failures named by texts make the failed load as it stands.
-/

namespace Phrasebook

namespace Fault

/-- The fault of joining an item that is not a text, at its place. -/
def joinFault (place : Nat) (v : Value) : Fault :=
  .system .type (some (.str ("sequence item " ++ toString place ++ ": expected str instance, " ++
    v.kindName ++ " found")))

/-- The fault of joining items as texts, from a place on: the first item that is not a text
names it. -/
def unjoinable (place : Nat) : List Value → Option Fault
  | [] => none
  | .str _ :: rest => unjoinable (place + 1) rest
  | v :: _ => some (joinFault place v)

/-- A missing message for a key, with its chain given as a value. -/
def messageNotFoundOf (key chain : Value) : Except Fault Fault := do
  let items ← Value.itemsOf chain
  match unjoinable 0 items with
  | some f => throw f
  | none => pure (.messageNotFound key (items.filterMap Value.asString?))

/-- A failed load from failures whose locales are given as values. -/
def aggregateOf (failures : List (Value × Fault)) : Except Fault Fault :=
  match (failures.filterMap fun p => p.1.unhashable?).head? with
  | some f => .error f
  | none =>
    let named := failures.map fun p => ((p.1.asString?).getD "", p.2)
    if failures.all fun p => p.1.asString?.isSome then .ok (.aggregate named)
    else
      match Sorting.sort Value.lessThan (KeyTable.ofList (failures.map (·.1))).keys with
      | .error f => .error f
      | .ok sorted =>
        match unjoinable 0 sorted with
        | some f => .error f
        | none => .ok (.aggregate named)

/-- The data a fault is given as a value: none when the value counts as false, else the
mapping built from it, each key shown as a text. -/
def dataOf (v : Value) : Except Fault (List (String × Value)) :=
  if v.truthy then do
    let ps ← Value.pairsOf v
    pure (ps.foldl (fun t p => Table.assign t p.1.display p.2) [])
  else .ok []

theorem unjoinable_strs (place : Nat) (ls : List String) :
    unjoinable place (ls.map Value.str) = none := by
  induction ls generalizing place with
  | nil => rfl
  | cons l ls ih => exact ih (place + 1)

theorem filterMap_asString_strs (ls : List String) :
    (ls.map Value.str).filterMap Value.asString? = ls := by
  induction ls with
  | nil => rfl
  | cons l ls ih => simp [Value.asString?, ih]

theorem messageNotFoundOf_strs (key : Value) (ls : List String) :
    messageNotFoundOf key (.list (ls.map Value.str)) = .ok (.messageNotFound key ls) := by
  unfold messageNotFoundOf Value.itemsOf
  simp only [bind, Except.bind, unjoinable_strs, filterMap_asString_strs, pure, Except.pure]

theorem aggregateOf_strs (fs : List (String × Fault)) :
    aggregateOf (fs.map fun p => (.str p.1, p.2)) = .ok (.aggregate fs) := by
  have hu : (fs.map fun p => ((Value.str p.1, p.2) : Value × Fault)).filterMap
      (fun p => p.1.unhashable?) = [] := by
    induction fs with
    | nil => rfl
    | cons p fs ih => simp [Value.unhashable?]
  have ha : ((fs.map fun p => ((Value.str p.1, p.2) : Value × Fault)).all
      fun p => p.1.asString?.isSome) = true := by
    simp [Value.asString?]
  have hm : (fs.map fun p => ((Value.str p.1, p.2) : Value × Fault)).map
      (fun p => ((p.1.asString?).getD "", p.2)) = fs := by
    rw [List.map_map]
    conv => rhs; rw [← List.map_id fs]
    apply List.map_congr_left
    intro p _
    rfl
  unfold aggregateOf
  rw [hu]
  simp only [List.head?_nil]
  rw [if_pos ha, hm]

end Fault

end Phrasebook
