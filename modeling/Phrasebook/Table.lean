import Phrasebook.Text.Point

/-!
Tables: finite maps from text keys that remember the order in which keys arrived.

Setting a key that is present replaces its value where it stands; a new key goes last. So a
table built from a list of pairs keeps each key at its first place and holds its last value.

Main statements: `get?_set_self` and `get?_set_ne` say what `set` does to lookups, and
`keys_set_of_mem` that setting a present key leaves the key order alone.
-/

namespace Phrasebook

/-- A finite map from text keys, in arrival order. -/
structure Table (α : Type) where
  /-- The pairs, one per key, in arrival order. -/
  entries : List (String × α)
deriving Inhabited, BEq, Repr

namespace Table

variable {α β : Type}

def empty : Table α := ⟨[]⟩

/-- The value at a key in a list of pairs: the first pair with that key. -/
def lookup : List (String × α) → String → Option α
  | [], _ => none
  | (k', v) :: ps, k => if k' = k then some v else lookup ps k

/-- Sets the value at a key in a list of pairs: the first pair with that key is replaced
where it stands, and a missing key is added last. -/
def assign : List (String × α) → String → α → List (String × α)
  | [], k, v => [(k, v)]
  | (k', v') :: ps, k, v => if k' = k then (k, v) :: ps else (k', v') :: assign ps k v

def get? (t : Table α) (k : String) : Option α := lookup t.entries k

def contains (t : Table α) (k : String) : Bool := (t.get? k).isSome

def set (t : Table α) (k : String) (v : α) : Table α := ⟨assign t.entries k v⟩

def erase (t : Table α) (k : String) : Table α :=
  ⟨t.entries.filter fun p => !(p.1 == k)⟩

def ofList (ps : List (String × α)) : Table α :=
  ps.foldl (fun t p => t.set p.1 p.2) empty

def keys (t : Table α) : List String := t.entries.map (·.1)

def values (t : Table α) : List α := t.entries.map (·.2)

def size (t : Table α) : Nat := t.entries.length

def mapValues (f : α → β) (t : Table α) : Table β :=
  ⟨t.entries.map fun p => (p.1, f p.2)⟩

def sortedKeys (t : Table α) : List String :=
  t.keys.mergeSort Text.precedes

theorem lookup_assign_self (ps : List (String × α)) (k : String) (v : α) :
    lookup (assign ps k v) k = some v := by
  induction ps with
  | nil => simp [assign, lookup]
  | cons p ps ih =>
    obtain ⟨k', v'⟩ := p
    by_cases h : k' = k <;> simp [assign, lookup, h, ih]

theorem lookup_assign_ne (ps : List (String × α)) {k k' : String} (v : α) (hne : k' ≠ k) :
    lookup (assign ps k v) k' = lookup ps k' := by
  induction ps with
  | nil => simp [assign, lookup, Ne.symm hne]
  | cons p ps ih =>
    obtain ⟨j, w⟩ := p
    by_cases h : j = k
    · subst h; simp [assign, lookup, Ne.symm hne]
    · simp [assign, lookup, h, ih]

theorem assign_assign (ps : List (String × α)) (k : String) (v w : α) :
    assign (assign ps k v) k w = assign ps k w := by
  induction ps with
  | nil => simp [assign]
  | cons p ps ih =>
    obtain ⟨k', v'⟩ := p
    by_cases h : k' = k <;> simp [assign, h, ih]

theorem keys_assign_of_lookup (ps : List (String × α)) {k : String} (v : α)
    (h : (lookup ps k).isSome = true) : (assign ps k v).map (·.1) = ps.map (·.1) := by
  induction ps with
  | nil => simp [lookup] at h
  | cons p ps ih =>
    obtain ⟨j, w⟩ := p
    by_cases hj : j = k
    · subst hj; simp [assign]
    · simp only [lookup, hj, if_false] at h
      simp [assign, hj, ih h]

@[simp] theorem get?_set_self (t : Table α) (k : String) (v : α) : (t.set k v).get? k = some v :=
  lookup_assign_self t.entries k v

@[simp] theorem set_set (t : Table α) (k : String) (v w : α) : (t.set k v).set k w = t.set k w :=
  congrArg Table.mk (assign_assign t.entries k v w)

theorem get?_set_ne (t : Table α) {k k' : String} (v : α) (hne : k' ≠ k) :
    (t.set k v).get? k' = t.get? k' :=
  lookup_assign_ne t.entries v hne

theorem keys_set_of_mem (t : Table α) {k : String} (v : α) (h : t.contains k = true) :
    (t.set k v).keys = t.keys :=
  keys_assign_of_lookup t.entries v h

end Table

end Phrasebook
