/-!
Double-precision numbers, as far as reading a decimal and writing it back needs them.

A real number is written in decimal, but what is held is the nearest double: zero, a finite
`sig · 2 ^ exp` with `sig < 2 ^ 53` and `exp ≥ -1074`, or an infinity once the value passes
the largest double, each with its sign; or not a number. Reading (`ofDecimal`) rounds the
exact decimal to the nearest double, a tie to the even significand. The exact value of a
double is a decimal again (`exactDecimal`), since `2 ^ -k = 5 ^ k · 10 ^ -k`, so numbers
read this way compare exactly with one another and with whole numbers.

Writing (`shortText`) gives the shortest decimal that reads back as the same double, the
nearest to it of those when there are several. A decimal reads back as `sig · 2 ^ exp` when
it lies within half a gap of it, and the gap below is half as wide when `sig` is the
smallest full significand; a decimal right at the edge reads back as it only when `sig` is
even. The digits are laid out plainly when their point falls at most sixteen places after
the first digit and with fewer than four zeros before it (`0.0001`, `1e-05`,
`1000000000000000.0`, `1e+16`), and with an exponent of at least two digits otherwise. A
plain layout always shows a point and a digit after it.

`ofDecimal_zero`: a zero mantissa reads as a zero.
`exactDecimal_int`: a double with a whole exponent is a whole number.
-/

namespace Phrasebook

/-- A double: a zero, a finite nonzero `sig · 2 ^ exp`, an infinity, each with its sign, or
not a number. -/
inductive Binary64 where
  | zero (negative : Bool)
  | finite (negative : Bool) (sig : Nat) (exp : Int)
  | infinite (negative : Bool)
  | nan
deriving Inhabited, BEq, Repr

namespace Binary64

/-- The number of decimal digits of a whole number; one for zero. -/
def digitCount (n : Nat) : Nat :=
  if n < 10 then 1 else digitCount (n / 10) + 1
termination_by n
decreasing_by omega

/-- `p / q` rounded to the nearest whole number, a tie to the even one. -/
def roundDiv (p q : Nat) : Nat :=
  let d := p / q
  let r := p % q
  if 2 * r < q then d else if q < 2 * r then d + 1 else if d % 2 = 0 then d else d + 1

def binaryRatio (a : Nat) (s : Int) : Nat × Nat :=
  if 0 ≤ s then (a * Nat.pow 2 s.toNat, 1) else (a, Nat.pow 2 (-s).toNat)

/-- The exponent `l` with `2 ^ l ≤ p / q < 2 ^ (l + 1)`, for positive `p` and `q`: the
difference of their bit lengths, or one less. -/
def log2Ratio (p q : Nat) : Int :=
  let l : Int := (p.log2 : Int) - q.log2
  let (a, b) := if 0 ≤ l then (p, q * Nat.pow 2 l.toNat) else (p * Nat.pow 2 (-l).toNat, q)
  if b ≤ a then l else l - 1

/-- The nearest double to `p / q`, for positive `p` and `q`, with the given sign. The
exponent is chosen to leave 53 bits of significand, or the least exponent; a significand
that rounds up to `2 ^ 53` moves to the next exponent, and past the largest double lies
infinity. -/
def ofRatio (negative : Bool) (p q : Nat) : Binary64 :=
  let k := max (log2Ratio p q - 52) (-1074)
  let (a, b) := if 0 ≤ k then (p, q * Nat.pow 2 k.toNat) else (p * Nat.pow 2 (-k).toNat, q)
  let sig := roundDiv a b
  let (sig, k) := if sig = Nat.pow 2 53 then (Nat.pow 2 52, k + 1) else (sig, k)
  if sig = 0 then .zero negative
  else if 971 < k then .infinite negative
  else .finite negative sig k

/-- The exact value of the nearest double to `p / q`, for positive `q`, as a numerator and a
denominator; zero, and a value past the largest double, give zero. -/
def roundRatio (p : Int) (q : Nat) : Int × Nat :=
  match ofRatio (decide (p < 0)) p.natAbs q with
  | .finite negative s e =>
    let (a, b) := binaryRatio s e
    (if negative then -(a : Int) else a, b)
  | _ => (0, 1)

/-- The nearest double to `m · 10 ^ e`, with the given sign. A decimal of more than 400
places is past the largest double, and one of fewer than -400 below half the least. -/
def ofDecimal (negative : Bool) (m : Nat) (e : Int) : Binary64 :=
  if m = 0 then .zero negative
  else if 400 < (digitCount m : Int) + e then .infinite negative
  else if (digitCount m : Int) + e < -400 then .zero negative
  else if 0 ≤ e then ofRatio negative (m * Nat.pow 10 e.toNat) 1
  else ofRatio negative m (Nat.pow 10 (-e).toNat)

def digitsValue (ds : List Char) : Nat :=
  ds.foldl (fun n d => 10 * n + (d.toNat - '0'.toNat)) 0

/-- Reads an optionally signed run of digits. -/
def signedDigits? (cs : List Char) : Option Int :=
  let (neg, ds) := match cs with
    | '-' :: r => (true, r)
    | '+' :: r => (false, r)
    | _ => (false, cs)
  if ds.isEmpty || !ds.all Char.isDigit then none
  else
    let n : Int := digitsValue ds
    some (if neg then -n else n)

/-- Reads the text of a real number: digits with an optional point and exponent, or one of
`NaN`, `Infinity` and `-Infinity`. -/
def ofText? (t : String) : Option Binary64 :=
  if t = "NaN" then some .nan
  else if t = "Infinity" then some (.infinite false)
  else if t = "-Infinity" then some (.infinite true)
  else
    let cs := t.toList
    let (neg, cs) := match cs with
      | '-' :: r => (true, r)
      | _ => (false, cs)
    let sig := cs.takeWhile fun c => c != 'e' && c != 'E'
    let expo := (cs.dropWhile fun c => c != 'e' && c != 'E').drop 1
    let whole := sig.takeWhile (· != '.')
    let frac := (sig.dropWhile (· != '.')).drop 1
    let e := if expo.isEmpty then some 0 else signedDigits? expo
    match e with
    | none => none
    | some e =>
      if (whole ++ frac).isEmpty || !(whole ++ frac).all Char.isDigit then none
      else some (ofDecimal neg (digitsValue (whole ++ frac)) (e - frac.length))

/-- The exact value of a finite double as a decimal `mantissa · 10 ^ exponent`. -/
def exactDecimal (negative : Bool) (sig : Nat) (k : Int) : Int × Int :=
  let m : Nat := if 0 ≤ k then sig * Nat.pow 2 k.toNat else sig * Nat.pow 5 (-k).toNat
  (if negative then -(m : Int) else m, if 0 ≤ k then 0 else k)

def compareScaled (d : Nat) (s : Int) (a : Nat) (t : Int) : Ordering :=
  compare (d * Nat.pow 10 s.toNat * Nat.pow 2 (-t).toNat)
    (a * Nat.pow 2 t.toNat * Nat.pow 10 (-s).toNat)

/-- The exponent `E` with `10 ^ E ≤ sig · 2 ^ k < 10 ^ (E + 1)`, for a positive `sig`: the
difference of the digit counts of the value's numerator and denominator, or one less. -/
def decimalExponent (sig : Nat) (k : Int) : Int :=
  let (p, q) := binaryRatio sig k
  let l : Int := (digitCount p : Int) - digitCount q
  if compareScaled 1 l sig k = .gt then l - 1 else l

/-- Whether `d · 10 ^ s` reads back as `sig · 2 ^ k`: it lies within the half gaps around it,
on their edges only for an even `sig`. In units of `2 ^ (k - 2)` the value is `4 · sig`, and
the edges are two units away, or one below a smallest full significand. -/
def readsBack (sig : Nat) (k : Int) (d : Nat) (s : Int) : Bool :=
  let below := if sig = Nat.pow 2 52 && -1074 < k then 1 else 2
  let low := compareScaled d s (4 * sig - below) (k - 2)
  let high := compareScaled d s (4 * sig + 2) (k - 2)
  if sig % 2 = 0 then low != .lt && high != .gt else low == .gt && high == .lt

/-- The `n`-digit decimal nearest `sig · 2 ^ k` that reads back as it, if there is one, as
digits `D` and a scale `s` meaning `D · 10 ^ s`; the value's decimal exponent is `e`. Only
the two decimals around the value can be the one: the nearer, or the other when the nearer
does not read back; at equal distance the even one. -/
def nearestOfLength (sig : Nat) (k e : Int) (n : Nat) : Option (Nat × Int) :=
  let s := e + 1 - n
  let (p, q) := binaryRatio sig k
  let (num, den) := if 0 ≤ s then (p, q * Nat.pow 10 s.toNat) else (p * Nat.pow 10 (-s).toNat, q)
  let d := num / den
  let lowOk := readsBack sig k d s
  let highOk := readsBack sig k (d + 1) s
  let upper := match compareScaled (2 * d + 1) s sig (k + 1) with
    | .lt => true
    | .gt => false
    | .eq => d % 2 = 1
  if lowOk && highOk then some (if upper then d + 1 else d, s)
  else if lowOk then some (d, s)
  else if highOk then some (d + 1, s)
  else none

/-- The shortest decimal that reads back as `sig · 2 ^ k`, for a positive `sig`, as digits and
a scale. Seventeen digits always suffice. -/
def shortest (sig : Nat) (k : Int) : Nat × Int :=
  let e := decimalExponent sig k
  match (List.range 17).findSome? fun i => nearestOfLength sig k e (i + 1) with
  | some r => r
  | none =>
    let s := e - 16
    let (p, q) := binaryRatio sig k
    let (num, den) :=
      if 0 ≤ s then (p, q * Nat.pow 10 s.toNat) else (p * Nat.pow 10 (-s).toNat, q)
    (roundDiv num den, s)

/-- Digits and a scale without the digits' trailing zeros. -/
def trimZeros : Nat → Nat → Int → Nat × Int
  | 0, d, s => (d, s)
  | fuel + 1, d, s => if d ≠ 0 && d % 10 = 0 then trimZeros fuel (d / 10) (s + 1) else (d, s)

def zeros (n : Nat) : String := String.ofList (List.replicate n '0')

/-- The digits `ds` laid out with their point `point` places after the first digit. -/
def layout (ds : String) (point : Int) : String :=
  let n := ds.length
  if point ≤ -4 || 16 < point then
    let x := point - 1
    let mant := match ds.toList with
      | c :: rest@(_ :: _) => String.ofList (c :: '.' :: rest)
      | cs => String.ofList cs
    let xs := toString x.natAbs
    mant ++ "e" ++ (if x < 0 then "-" else "+") ++ (if xs.length < 2 then "0" ++ xs else xs)
  else if point ≤ 0 then "0." ++ zeros (-point).toNat ++ ds
  else if (n : Int) ≤ point then ds ++ zeros (point - n).toNat ++ ".0"
  else String.ofList (ds.toList.take point.toNat) ++ "." ++ String.ofList (ds.toList.drop point.toNat)

/-- The shortest text of a double that reads back as it. -/
def shortText : Binary64 → String
  | .zero negative => if negative then "-0.0" else "0.0"
  | .infinite negative => if negative then "-inf" else "inf"
  | .nan => "nan"
  | .finite negative sig k =>
    let (d, s) := shortest sig k
    let (d, s) := trimZeros (digitCount d) d s
    let ds := toString d
    (if negative then "-" else "") ++ layout ds (ds.length + s)

def isZero : Binary64 → Bool
  | .zero _ => true
  | _ => false

theorem ofDecimal_zero (negative : Bool) (e : Int) : ofDecimal negative 0 e = .zero negative := by
  simp [ofDecimal]

theorem exactDecimal_int (negative : Bool) (sig : Nat) (k : Nat) :
    exactDecimal negative sig k =
      (if negative then -((sig * Nat.pow 2 k : Nat) : Int) else ((sig * Nat.pow 2 k : Nat) : Int),
        0) := by
  simp [exactDecimal]

end Binary64

end Phrasebook
