import Phrasebook.Number
import Phrasebook.Sorting

/-!
Mappings keyed by values, built and searched as the runtime's dictionaries are.

A value can be gone through (`Value.itemsOf`): a list by its items, a text by its points
(each a text of one point), a record by its names; nothing else can. A mapping is built from
a value (`Value.pairsOf`) as `dict` builds one. A record gives its members; any other value
is gone through, and each item must go through to exactly two things, a key and its value,
where the key must be able to be a key (`Value.unhashable?`). The first item that breaks
this names its place in the fault. Keys are matched as `Value.sameKey` matches them; a key
given again keeps its first place and the key it first came with, and takes the last value.

A `Mapping α` holds values under such keys in arrival order. Looking a key up (`find?`) first
asks whether the value can be a key at all, so a list or a record fails, whether or not the
mapping is empty. The keys are sorted as the runtime sorts them, which fails when two keys
cannot be compared.

`pairsOf_record`: a record gives its members as they stand.
`find?_str`: a text is looked up as it stands.
`sortedKeys_strs`: keys that are all texts are sorted by their points.
-/

namespace Phrasebook

namespace Value

/-- The items a value yields when gone through. -/
def itemsOf (v : Value) : Except Fault (List Value) :=
  match v with
  | .list xs => .ok xs
  | .str s => .ok ((Text.points s).map fun p => .str (Text.ofPoints [p]))
  | .record fs => .ok (fs.map fun p => .str p.1)
  | _ => .error (.system .type (some (.str ("'" ++ v.kindName ++ "' object is not iterable"))))

/-- Sets the value of a key in a list of pairs: in the place of a key that matches, which
keeps that key, or as a new pair at the end. -/
def assignKey {α : Type} : List (Value × α) → Value → α → List (Value × α)
  | [], k, v => [(k, v)]
  | (k', v') :: ps, k, v => if k'.sameKey k then (k', v) :: ps else (k', v') :: assignKey ps k v

/-- The value under a key in a list of pairs: the first pair whose key matches. -/
def lookupKey {α : Type} : List (Value × α) → Value → Option α
  | [], _ => none
  | (k', v) :: ps, k => if k'.sameKey k then some v else lookupKey ps k

/-- The fault of an item of a mapping's source that is not a pair, at its place. -/
def pairLengthFault (place length : Nat) : Fault :=
  .system .value (some (.str ("dictionary update sequence element #" ++ toString place ++
    " has length " ++ toString length ++ "; 2 is required")))

/-- The key and value an item of a mapping's source gives, at its place. -/
def pairOfItem (place : Nat) (item : Value) : Except Fault (Value × Value) :=
  match item with
  | .list [k, v] => .ok (k, v)
  | .list xs => .error (pairLengthFault place xs.length)
  | .str s =>
    match Text.points s with
    | [a, b] => .ok (.str (Text.ofPoints [a]), .str (Text.ofPoints [b]))
    | ps => .error (pairLengthFault place ps.length)
  | .record [(a, _), (b, _)] => .ok (.str a, .str b)
  | .record fs => .error (pairLengthFault place fs.length)
  | _ => .error (.system .type (some (.str ("cannot convert dictionary update sequence element #" ++
      toString place ++ " to a sequence"))))

/-- Adds the pairs of the items of a mapping's source, from place `place` on. -/
def pairsFrom (place : Nat) (acc : List (Value × Value)) :
    List Value → Except Fault (List (Value × Value))
  | [] => .ok acc
  | item :: rest =>
    match pairOfItem place item with
    | .error f => .error f
    | .ok (k, v) =>
      match k.unhashable? with
      | some f => .error f
      | none => pairsFrom (place + 1) (assignKey acc k v) rest

/-- The pairs of the mapping built from a value, as `dict` builds it. -/
def pairsOf (v : Value) : Except Fault (List (Value × Value)) :=
  match v with
  | .record fs => .ok (fs.map fun p => (.str p.1, p.2))
  | _ =>
    match itemsOf v with
    | .error f => .error f
    | .ok items => pairsFrom 0 [] items

theorem pairsOf_record (fs : List (String × Value)) :
    pairsOf (.record fs) = .ok (fs.map fun p => (.str p.1, p.2)) := rfl

end Value

/-- Values under keys that are values, in arrival order. -/
structure Mapping (α : Type) where
  /-- The pairs, one per key, in arrival order. -/
  entries : List (Value × α) := []
deriving Inhabited, Repr

namespace Mapping

variable {α : Type}

/-- The value under a key, if any, once the key has been found able to be one. -/
def find? (m : Mapping α) (k : Value) : Except Fault (Option α) :=
  match k.unhashable? with
  | some f => .error f
  | none => .ok (Value.lookupKey m.entries k)

def get? (m : Mapping α) (k : Value) : Option α := Value.lookupKey m.entries k

def set (m : Mapping α) (k : Value) (v : α) : Mapping α := ⟨Value.assignKey m.entries k v⟩

def keys (m : Mapping α) : List Value := m.entries.map (·.1)

def values (m : Mapping α) : List α := m.entries.map (·.2)

def size (m : Mapping α) : Nat := m.entries.length

/-- The keys in the runtime's order, or the fault of two keys that cannot be compared. Two
texts always compare, by their points, and that order is total: keys that are all texts come
out as every stable sort orders them by points. Keys of other kinds need the runtime's own
order of comparisons (`Sorting.sort`), since it decides which failure is met first. -/
def sortedKeys (m : Mapping α) : Except Fault (List Value) :=
  match m.keys.mapM Value.asString? with
  | some ts => .ok ((ts.mergeSort Text.precedes).map .str)
  | none => Sorting.sort Value.lessThan m.keys

theorem find?_str (m : Mapping α) (s : String) :
    m.find? (.str s) = .ok (m.get? (.str s)) := rfl

theorem mapM_asString_strs (ts : List String) :
    (ts.map Value.str).mapM Value.asString? = some ts := by
  induction ts with
  | nil => rfl
  | cons t ts ih => simp [Value.asString?, ih]

theorem sortedKeys_strs {m : Mapping α} {ts : List String} (h : m.keys = ts.map .str) :
    m.sortedKeys = .ok ((ts.mergeSort Text.precedes).map .str) := by
  rw [sortedKeys, h, mapM_asString_strs]

end Mapping

end Phrasebook
