import Phrasebook.Value
import Phrasebook.Fault

/-!
Numbers among values, and how they compare with whole numbers.

An integer is a number, a truth value counts as one or zero, and a real number stands for
the double nearest its text (`Binary64`), whose exact value is a decimal `m · 10 ^ e`, or for
one of the infinities, or for not a number. Comparisons are exact, also between a real and a
whole number: `1e23` is below `10 ^ 23`, as its double is. Not a number compares false with
everything.

A value that is no number cannot be compared; the fault says so with the kinds of both sides.

Values also serve as keys of a mapping. Two keys are the same when both are equal texts, both
null, or both numbers of equal value, so that `1`, `1.0` and true are one key. Not a number
equals nothing, yet it is the same key as not a number: every not-a-number that is read is
one and the same object, and a mapping finds a key by its object before it compares values.
A list or a record cannot be a key.

Values are ordered as the runtime's `<` orders them (`lessThan`): texts by their points,
numbers by their values, and any other pair cannot be compared.

`atLeast_int`: an integer is at least `n` exactly when it is as a whole number.
`sameKey_str`: two texts are the same key exactly when they are equal.
-/

namespace Phrasebook

/-- A number: an exact decimal `mantissa · 10 ^ exponent`, an infinity, or not a number. -/
inductive Number where
  | decimal (mantissa : Int) (exponent : Int)
  | infinite (negative : Bool)
  | nan
deriving Inhabited, BEq, Repr

namespace Number

/-- The exact value of a double. -/
def ofBinary : Binary64 → Number
  | .zero _ => .decimal 0 0
  | .finite negative sig k =>
    let (m, e) := Binary64.exactDecimal negative sig k
    .decimal m e
  | .infinite negative => .infinite negative
  | .nan => .nan

/-- The number a real number's text stands for: the exact value of the double nearest it. -/
def ofText? (t : String) : Option Number := (Binary64.ofText? t).map ofBinary

/-- How a number compares with a whole number; none for not a number. -/
def compareInt (x : Number) (n : Int) : Option Ordering :=
  match x with
  | .nan => none
  | .infinite neg => some (if neg then .lt else .gt)
  | .decimal m e =>
    if 0 ≤ e then some (compare (m * Int.pow 10 e.toNat) n)
    else some (compare m (n * Int.pow 10 (-e).toNat))

def equals (x : Number) (n : Int) : Bool := x.compareInt n = some .eq

def atLeast (x : Number) (n : Int) : Bool :=
  match x.compareInt n with
  | some .gt | some .eq => true
  | _ => false

def atMost (x : Number) (n : Int) : Bool :=
  match x.compareInt n with
  | some .lt | some .eq => true
  | _ => false

/-- Whether a number is less than another; not a number is less than nothing, and nothing is
less than it. -/
def lt : Number → Number → Bool
  | .decimal m e, .decimal m' e' =>
    let k := min e e'
    m * Int.pow 10 (e - k).toNat < m' * Int.pow 10 (e' - k).toNat
  | .decimal .., .infinite neg => !neg
  | .infinite neg, .decimal .. => neg
  | .infinite a, .infinite b => a && !b
  | _, _ => false

/-- Whether two numbers are equal; not a number equals nothing, itself included. -/
def same : Number → Number → Bool
  | .decimal m e, .decimal m' e' =>
    let k := min e e'
    m * Int.pow 10 (e - k).toNat == m' * Int.pow 10 (e' - k).toNat
  | .infinite a, .infinite b => a == b
  | _, _ => false

@[simp] theorem compareInt_whole (m n : Int) :
    (Number.decimal m 0).compareInt n = some (compare m n) := by
  have hp : Int.pow 10 0 = 1 := rfl
  simp only [compareInt, Int.le_refl, if_true, Int.toNat_zero, hp, Int.mul_one]

theorem atLeast_int (m n : Int) : (Number.decimal m 0).atLeast n = decide (n ≤ m) := by
  simp only [atLeast, compareInt_whole]
  by_cases h : n ≤ m
  · rcases Int.lt_or_eq_of_le h with h' | h'
    · rw [Int.compare_eq_gt.mpr h']
      simp [h]
    · subst h'
      rw [Int.compare_eq_eq.mpr rfl]
      simp
  · have h' : m < n := Int.lt_of_not_ge h
    rw [Int.compare_eq_lt.mpr h']
    simp [h]

theorem atMost_int (m n : Int) : (Number.decimal m 0).atMost n = decide (m ≤ n) := by
  simp only [atMost, compareInt_whole]
  rcases Int.lt_trichotomy m n with h | h | h
  · rw [Int.compare_eq_lt.mpr h]
    simp [Int.le_of_lt h]
  · subst h
    rw [Int.compare_eq_eq.mpr rfl]
    simp
  · rw [Int.compare_eq_gt.mpr h]
    simp [Int.not_le.mpr h]

theorem equals_int (m n : Int) : (Number.decimal m 0).equals n = decide (m = n) := by
  simp only [equals, compareInt_whole, Option.some.injEq]
  exact decide_eq_decide.mpr Int.compare_eq_eq

end Number

namespace Value

/-- The number a value stands for, if it is one. -/
def number? : Value → Option Number
  | .int n => some (.decimal n 0)
  | .bool b => some (.decimal (if b then 1 else 0) 0)
  | .real t => Number.ofText? t
  | _ => none

/-- Whether two values are the same key of a mapping. -/
def sameKey (a b : Value) : Bool :=
  match a, b with
  | .str s, .str t => s == t
  | .null, .null => true
  | _, _ =>
    match a.number?, b.number? with
    | some .nan, some .nan => true
    | some x, some y => x.same y
    | _, _ => false

theorem sameKey_str (s t : String) : sameKey (.str s) (.str t) = (s == t) := rfl

/-- Whether two values that can be keys are equal, as the runtime's `==` answers: as keys
match, except that not a number equals nothing. -/
def equals (a b : Value) : Bool :=
  match a.number?, b.number? with
  | some .nan, _ | _, some .nan => false
  | _, _ => sameKey a b

end Value

/-- The fault of comparing two values with an operator where one side is no number. -/
def Fault.uncomparable (op : String) (left right : Value) : Fault :=
  .system .type (some (.str ("'" ++ op ++ "' not supported between instances of '" ++
    left.kindName ++ "' and '" ++ right.kindName ++ "'")))

/-- Whether one value is less than another, as the runtime's `<` answers. -/
def Value.lessThan (a b : Value) : Except Fault Bool :=
  match a, b with
  | .str s, .str t => .ok (!Text.precedes t s)
  | _, _ =>
    match a.number?, b.number? with
    | some x, some y => .ok (x.lt y)
    | _, _ => .error (Fault.uncomparable "<" a b)

/-- The fault of using a value that cannot be a key as one: a list or a record. -/
def Value.unhashable? (v : Value) : Option Fault :=
  match v with
  | .list _ | .record _ =>
    some (.system .type (some (.str ("unhashable type: '" ++ v.kindName ++ "'"))))
  | _ => none

end Phrasebook
