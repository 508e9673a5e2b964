import Phrasebook.Hash

/-!
The runtime's set of values: an open-addressing hash table, and the order it lists its keys.

The table has a power-of-two number of slots, eight at first. A key with hash `h` is looked
for from slot `h mod size`: that slot and, when they fit before the end, the nine after it;
then the search jumps to `(5 · i + 1 + perturb) mod size`, where `perturb` starts as `h` and
loses five low bits before every jump. A key already present (same hash and same key) is
kept as it first came; a new key takes the first empty slot met. Once the slots in use reach
three fifths of the last slot's number, the table grows to the least power of two above four
times the keys, and the keys are placed again in slot order, each in the first empty slot of
its search.

A set lists its keys in slot order (`keys`), which is the order the runtime's sort starts
from when it sorts a set.
-/

namespace Phrasebook

/-- A set of values in the runtime's hash table: its slots, each empty or holding a key with
its hash. -/
structure KeyTable where
  slots : Array (Option (Value × UInt64)) := Array.replicate 8 none
  used : Nat := 0
deriving Inhabited

namespace KeyTable

def stretch (mask i : Nat) : List Nat :=
  if i + 9 ≤ mask then List.range' i 10 else [i]

/-- The first places of the stretches of a search, `n` of them, from place `i` with
`perturb` not yet shifted. -/
def jumps (mask : Nat) : Nat → Nat → Nat → List Nat
  | 0, _, _ => []
  | n + 1, i, perturb =>
    let perturb := perturb / 32
    i :: jumps mask n ((5 * i + 1 + perturb) % (mask + 1)) perturb

/-- Every slot a search for a key of hash `h` looks at, in order. Enough rounds are taken for
the jumps, once `perturb` is spent, to have passed every slot. -/
def probes (mask : Nat) (h : UInt64) : List Nat :=
  (jumps mask (mask + 16) (h.toNat % (mask + 1)) h.toNat).flatMap (stretch mask)

def emptySlot (slots : Array (Option (Value × UInt64))) (h : UInt64) : Option Nat :=
  (probes (slots.size - 1) h).find? fun i => (slots.getD i none).isNone

/-- Places a key in the first empty slot of its search, not looking for it first. -/
def placeClean (slots : Array (Option (Value × UInt64))) (k : Value) (h : UInt64) :
    Array (Option (Value × UInt64)) :=
  match emptySlot slots h with
  | some i => slots.setIfInBounds i (some (k, h))
  | none => slots

/-- The table grown to hold `minUsed` keys: the least power of two above it, from eight,
with the keys placed again in slot order. -/
def grow (t : KeyTable) (minUsed : Nat) : KeyTable :=
  let size := (List.range (minUsed + 1)).foldl (fun n _ => if n ≤ minUsed then 2 * n else n) 8
  let fresh : Array (Option (Value × UInt64)) := Array.replicate size none
  let slots := t.slots.foldl (fun acc e =>
    match e with
    | some (k, h) => placeClean acc k h
    | none => acc) fresh
  { slots, used := t.used }

/-- What the search for a key meets first: the slot of the key when present, or an empty
slot. -/
def meet (slots : Array (Option (Value × UInt64))) (k : Value) (h : UInt64) :
    Option (Nat × Bool) :=
  (probes (slots.size - 1) h).findSome? fun i =>
    match slots.getD i none with
    | none => some (i, false)
    | some (k', h') => if h' == h && k'.sameKey k then some (i, true) else none

/-- Adds a key, unless an equal one is present; grows the table when it is too full. -/
def insert (t : KeyTable) (k : Value) : KeyTable :=
  let h := k.hash
  match meet t.slots k h with
  | some (_, true) | none => t
  | some (i, false) =>
    let t := { slots := t.slots.setIfInBounds i (some (k, h)), used := t.used + 1 }
    if t.used * 5 < (t.slots.size - 1) * 3 then t
    else t.grow (if t.used > 50000 then t.used * 2 else t.used * 4)

def ofList (vs : List Value) : KeyTable := vs.foldl insert {}

def keys (t : KeyTable) : List Value := t.slots.toList.filterMap fun e => e.map (·.1)

end KeyTable

end Phrasebook
