/-!
Sorting by a comparison that may fail, comparing pairs in the order of the runtime's sort.

The runtime's list sort is stable and only ever asks whether one element is less than
another. A comparison may fail, as when a text meets a number; the sort then stops with that
failure, so the order in which pairs are compared decides which failure is met. When the
comparison is no order at all (not-a-number is less than nothing, and nothing is less than
it), the order of the comparisons also decides where each element ends up.

That order is the one of an adaptive merge sort (`timsort`), fixed here step by step:

* The list is cut into runs from the left. A run starts with two elements: when the second
  is less than the first, the run descends while each next element is less than the one
  before it, and is reversed; otherwise it ascends until an element is less than the one
  before it (`countRun`).
* A run shorter than `minRun` (the length itself below 64, else a number from 32 to 64) is
  extended by binary insertion (`binarySort`): each next element is compared with the middle
  of the sorted part, the search going left when the element is less and right otherwise,
  and the element is put after its equals.
* Each run gets a power, the depth at which the midpoints of it and the run before it part
  in the binary expansion of their places (`power`). Before a run is pushed, the runs below
  it of greater power are merged; at the end the runs left are merged from the top, the
  middle one with the shorter of its neighbours.
* Two neighbouring runs are merged after trimming what is already in place: the elements of
  the first run not greater than the head of the second, and the elements of the second run
  less than the last of the first (`gallopRight`, `gallopLeft`). The rest is merged from the
  front when the first run is the shorter (`mergeLo`), else from the back (`mergeHi`), one
  element at a time until one side wins `minGallop` times in a row; then by galloping
  searches, until both sides win fewer than seven times in a round. Leaving galloping costs a
  point of `minGallop`, and every round of it gains one back, never below one.

The sort is written for any comparison that answers in a monad (`timsort`); `sort` runs it
with a comparison that notes every pair it is asked about, and fails with the failure of the
first noted pair that fails.
-/

namespace Phrasebook.Sorting

/-- A run waiting on the stack: where it starts, its length, and its power. -/
structure Run where
  base : Nat
  len : Nat
  power : Nat := 0
deriving Inhabited, Repr

/-- How a merge stopped: still merging, done, or with one element of a side left over. -/
inductive Finish where
  | running
  | done
  | lastOfFirst
  | firstOfSecond
deriving Inhabited, BEq, Repr

def gallopStart : Nat := 7

/-- Halves `n` while it is 64 or more, `odd` remembering whether a half dropped a one. -/
def minRunFrom : Nat → Nat → Bool → Nat
  | 0, n, odd => n + (if odd then 1 else 0)
  | fuel + 1, n, odd =>
    if 64 ≤ n then minRunFrom fuel (n / 2) (odd || n % 2 == 1)
    else n + (if odd then 1 else 0)

/-- The least length of a run in a list of `n` elements: `n` itself below 64, else a length
from 32 to 64. -/
def minRun (n : Nat) : Nat := minRunFrom n n false

/-- The power of a run of `n2` elements pushed after a run of `n1` elements starting at `s1`,
in a list of `n`: the first bit at which the binary expansions of the two runs' midpoints,
as fractions of `n`, differ. -/
def power (s1 n1 n2 n : Nat) : Nat := Id.run do
  let mut a := 2 * s1 + n1
  let mut b := a + n1 + n2
  let mut result := 0
  for _ in [0 : 2 * n + 2] do
    result := result + 1
    if n ≤ a then
      a := a - n
      b := b - n
    else if n ≤ b then break
    a := 2 * a
    b := 2 * b
  return result

variable {α : Type} [Inhabited α]

def elem (a : Array α) (i : Nat) : α := a.getD i default

def writeAt (a : Array α) (start : Nat) (src : Array α) : Array α :=
  (List.range src.size).foldl (fun acc i => acc.setIfInBounds (start + i) (elem src i)) a

def reverseRange (a : Array α) (lo n : Nat) : Array α :=
  a.extract 0 lo ++ (a.extract lo (lo + n)).reverse ++ a.extract (lo + n) a.size

section Steps

variable {m : Type → Type} [Monad m] (lt : α → α → m Bool)

/-- The length of the run starting at `lo`, ending before `hi`, and whether it descends. -/
def countRun (a : Array α) (lo hi : Nat) : m (Nat × Bool) := do
  if hi ≤ lo + 1 then return (1, false)
  let down ← lt (elem a (lo + 1)) (elem a lo)
  let mut n := 2
  for k in [lo + 2 : hi] do
    let less ← lt (elem a k) (elem a (k - 1))
    if less == down then n := n + 1 else break
  return (n, down)

/-- Extends the sorted places `[lo, start)` to `[lo, hi)` by binary insertion. -/
def binarySort (a : Array α) (lo hi start : Nat) : m (Array α) := do
  let mut a := a
  for s in [(if start == lo then start + 1 else start) : hi] do
    let pivot := elem a s
    let mut l := lo
    let mut r := s
    for _ in [0 : s - lo + 1] do
      if l < r then
        let p := l + (r - l) / 2
        if ← lt pivot (elem a p) then r := p else l := p + 1
      else break
    a := a.extract 0 l ++ #[pivot] ++ a.extract l s ++ a.extract (s + 1) a.size
  return a

/-- Where `key` goes among the `n` sorted elements from place `base` on, before its equals:
the number of them less than it, found by galloping from the element at `hint`. -/
def gallopLeft (key : α) (a : Array α) (base n hint : Nat) : m Nat := do
  let get := fun (i : Int) => elem a (base + i.toNat)
  let mut lastofs : Int := 0
  let mut ofs : Int := 1
  if ← lt (get hint) key then
    let maxofs : Int := n - hint
    for _ in [0 : n + 1] do
      if ofs < maxofs then
        if ← lt (get (hint + ofs)) key then
          lastofs := ofs
          ofs := 2 * ofs + 1
        else break
      else break
    if ofs > maxofs then ofs := maxofs
    lastofs := lastofs + hint
    ofs := ofs + hint
  else
    let maxofs : Int := hint + 1
    for _ in [0 : n + 1] do
      if ofs < maxofs then
        if ← lt (get (hint - ofs)) key then break
        lastofs := ofs
        ofs := 2 * ofs + 1
      else break
    if ofs > maxofs then ofs := maxofs
    let k := lastofs
    lastofs := hint - ofs
    ofs := hint - k
  let mut lo := lastofs + 1
  let mut hi := ofs
  for _ in [0 : n + 1] do
    if lo < hi then
      let mid := lo + (hi - lo) / 2
      if ← lt (get mid) key then lo := mid + 1 else hi := mid
    else break
  return hi.toNat

/-- Where `key` goes among the `n` sorted elements from place `base` on, after its equals:
the number of them not greater than it, found by galloping from the element at `hint`. -/
def gallopRight (key : α) (a : Array α) (base n hint : Nat) : m Nat := do
  let get := fun (i : Int) => elem a (base + i.toNat)
  let mut lastofs : Int := 0
  let mut ofs : Int := 1
  if ← lt key (get hint) then
    let maxofs : Int := hint + 1
    for _ in [0 : n + 1] do
      if ofs < maxofs then
        if ← lt key (get (hint - ofs)) then
          lastofs := ofs
          ofs := 2 * ofs + 1
        else break
      else break
    if ofs > maxofs then ofs := maxofs
    let k := lastofs
    lastofs := hint - ofs
    ofs := hint - k
  else
    let maxofs : Int := n - hint
    for _ in [0 : n + 1] do
      if ofs < maxofs then
        if ← lt key (get (hint + ofs)) then break
        lastofs := ofs
        ofs := 2 * ofs + 1
      else break
    if ofs > maxofs then ofs := maxofs
    lastofs := lastofs + hint
    ofs := ofs + hint
  let mut lo := lastofs + 1
  let mut hi := ofs
  for _ in [0 : n + 1] do
    if lo < hi then
      let mid := lo + (hi - lo) / 2
      if ← lt key (get mid) then hi := mid else lo := mid + 1
    else break
  return hi.toNat

/-- Merges the `na` elements from `baseA` on with the `nb` elements that follow them from
`baseB` on, from the front, the first run being the shorter; answers the array and the new
`minGallop`. -/
def mergeLo (a : Array α) (baseA na baseB nb minGallop : Nat) : m (Array α × Nat) := do
  let tmp := a.extract baseA (baseA + na)
  let fuel := 2 * (na + nb) + 4
  let mut a := a
  let mut dest := baseA
  let mut ia := 0
  let mut ib := baseB
  let mut na := na
  let mut nb := nb
  let mut mg := minGallop
  a := a.setIfInBounds dest (elem a ib)
  dest := dest + 1
  ib := ib + 1
  nb := nb - 1
  let mut finish := if nb == 0 then Finish.done else if na == 1 then .lastOfFirst else .running
  let mut galloping := false
  let mut acount := 0
  let mut bcount := 0
  for _ in [0 : fuel] do
    if finish != .running then break
    if !galloping then
      if ← lt (elem a ib) (elem tmp ia) then
        a := a.setIfInBounds dest (elem a ib)
        dest := dest + 1
        ib := ib + 1
        bcount := bcount + 1
        acount := 0
        nb := nb - 1
        if nb == 0 then finish := .done
        else if mg ≤ bcount then
          galloping := true
          mg := mg + 1
      else
        a := a.setIfInBounds dest (elem tmp ia)
        dest := dest + 1
        ia := ia + 1
        acount := acount + 1
        bcount := 0
        na := na - 1
        if na == 1 then finish := .lastOfFirst
        else if mg ≤ acount then
          galloping := true
          mg := mg + 1
    else
      if 1 < mg then mg := mg - 1
      let k ← gallopRight lt (elem a ib) tmp ia na 0
      acount := k
      if 0 < k then
        a := writeAt a dest (tmp.extract ia (ia + k))
        dest := dest + k
        ia := ia + k
        na := na - k
        if na == 1 then
          finish := .lastOfFirst
          continue
        if na == 0 then
          finish := .done
          continue
      a := a.setIfInBounds dest (elem a ib)
      dest := dest + 1
      ib := ib + 1
      nb := nb - 1
      if nb == 0 then
        finish := .done
        continue
      let k ← gallopLeft lt (elem tmp ia) a ib nb 0
      bcount := k
      if 0 < k then
        a := writeAt a dest (a.extract ib (ib + k))
        dest := dest + k
        ib := ib + k
        nb := nb - k
        if nb == 0 then
          finish := .done
          continue
      a := a.setIfInBounds dest (elem tmp ia)
      dest := dest + 1
      ia := ia + 1
      na := na - 1
      if na == 1 then
        finish := .lastOfFirst
        continue
      if acount < gallopStart && bcount < gallopStart then
        mg := mg + 1
        galloping := false
        acount := 0
        bcount := 0
  if finish == .lastOfFirst then
    a := writeAt a dest (a.extract ib (ib + nb))
    a := a.setIfInBounds (dest + nb) (elem tmp ia)
  else if 0 < na then
    a := writeAt a dest (tmp.extract ia (ia + na))
  return (a, mg)

/-- Merges the `na` elements from `baseA` on with the `nb` elements that follow them from
`baseB` on, from the back, the second run being the shorter; answers the array and the new
`minGallop`. -/
def mergeHi (a : Array α) (baseA na baseB nb minGallop : Nat) : m (Array α × Nat) := do
  let tmp := a.extract baseB (baseB + nb)
  let fuel := 2 * (na + nb) + 4
  let mut a := a
  let mut dest : Int := baseB + nb - 1
  let mut ia : Int := baseA + na - 1
  let mut ib : Int := nb - 1
  let mut na := na
  let mut nb := nb
  let mut mg := minGallop
  a := a.setIfInBounds dest.toNat (elem a ia.toNat)
  dest := dest - 1
  ia := ia - 1
  na := na - 1
  let mut finish := if na == 0 then Finish.done else if nb == 1 then .firstOfSecond else .running
  let mut galloping := false
  let mut acount := 0
  let mut bcount := 0
  for _ in [0 : fuel] do
    if finish != .running then break
    if !galloping then
      if ← lt (elem tmp ib.toNat) (elem a ia.toNat) then
        a := a.setIfInBounds dest.toNat (elem a ia.toNat)
        dest := dest - 1
        ia := ia - 1
        acount := acount + 1
        bcount := 0
        na := na - 1
        if na == 0 then finish := .done
        else if mg ≤ acount then
          galloping := true
          mg := mg + 1
      else
        a := a.setIfInBounds dest.toNat (elem tmp ib.toNat)
        dest := dest - 1
        ib := ib - 1
        bcount := bcount + 1
        acount := 0
        nb := nb - 1
        if nb == 1 then finish := .firstOfSecond
        else if mg ≤ bcount then
          galloping := true
          mg := mg + 1
    else
      if 1 < mg then mg := mg - 1
      let k ← gallopRight lt (elem tmp ib.toNat) a baseA na (na - 1)
      let k := na - k
      acount := k
      if 0 < k then
        dest := dest - k
        ia := ia - k
        a := writeAt a (dest + 1).toNat (a.extract (ia + 1).toNat (ia + 1 + k).toNat)
        na := na - k
        if na == 0 then
          finish := .done
          continue
      a := a.setIfInBounds dest.toNat (elem tmp ib.toNat)
      dest := dest - 1
      ib := ib - 1
      nb := nb - 1
      if nb == 1 then
        finish := .firstOfSecond
        continue
      let k ← gallopLeft lt (elem a ia.toNat) tmp 0 nb (nb - 1)
      let k := nb - k
      bcount := k
      if 0 < k then
        dest := dest - k
        ib := ib - k
        a := writeAt a (dest + 1).toNat (tmp.extract (ib + 1).toNat (ib + 1 + k).toNat)
        nb := nb - k
        if nb == 1 then
          finish := .firstOfSecond
          continue
        if nb == 0 then
          finish := .done
          continue
      a := a.setIfInBounds dest.toNat (elem a ia.toNat)
      dest := dest - 1
      ia := ia - 1
      na := na - 1
      if na == 0 then
        finish := .done
        continue
      if acount < gallopStart && bcount < gallopStart then
        mg := mg + 1
        galloping := false
        acount := 0
        bcount := 0
  if finish == .firstOfSecond then
    a := writeAt a (dest + 1 - na).toNat (a.extract (ia + 1 - na).toNat (ia + 1).toNat)
    dest := dest - na
    a := a.setIfInBounds dest.toNat (elem tmp ib.toNat)
  else if 0 < nb then
    a := writeAt a (dest - (nb - 1)).toNat (tmp.extract 0 nb)
  return (a, mg)

/-- Merges the runs at places `i` and `i + 1` of the stack into one at place `i`. -/
def mergeAt (a : Array α) (runs : Array Run) (i minGallop : Nat) :
    m (Array α × Array Run × Nat) := do
  let first := runs.getD i default
  let second := runs.getD (i + 1) default
  let runs := runs.setIfInBounds i { first with len := first.len + second.len }
  let runs := if i + 3 == runs.size then runs.setIfInBounds (i + 1) (runs.getD (i + 2) default)
    else runs
  let runs := runs.pop
  let k ← gallopRight lt (elem a second.base) a first.base first.len 0
  let baseA := first.base + k
  let na := first.len - k
  if na == 0 then return (a, runs, minGallop)
  let nb ← gallopLeft lt (elem a (baseA + na - 1)) a second.base second.len (second.len - 1)
  if nb == 0 then return (a, runs, minGallop)
  let (a, mg) ← if na ≤ nb then mergeLo lt a baseA na second.base nb minGallop
    else mergeHi lt a baseA na second.base nb minGallop
  return (a, runs, mg)

/-- Before a run of `n2` elements is pushed, merges the runs on the stack whose power is
greater than the new boundary's, and gives the top run that power. -/
def foundRun (a : Array α) (runs : Array Run) (minGallop n2 total : Nat) :
    m (Array α × Array Run × Nat) := do
  if runs.size == 0 then return (a, runs, minGallop)
  let last := runs.getD (runs.size - 1) default
  let p := power last.base last.len n2 total
  let mut a := a
  let mut runs := runs
  let mut mg := minGallop
  for _ in [0 : runs.size] do
    if 1 < runs.size && p < (runs.getD (runs.size - 2) default).power then
      let r ← mergeAt lt a runs (runs.size - 2) mg
      a := r.1
      runs := r.2.1
      mg := r.2.2
    else break
  let top := runs.getD (runs.size - 1) default
  runs := runs.setIfInBounds (runs.size - 1) { top with power := p }
  return (a, runs, mg)

/-- Sorts an array stably, asking `lt` in the runtime's order. -/
def timsort (xs : Array α) : m (Array α) := do
  let n := xs.size
  if n < 2 then return xs
  let least := minRun n
  let mut a := xs
  let mut runs : Array Run := #[]
  let mut mg := gallopStart
  let mut lo := 0
  for _ in [0 : n] do
    if n ≤ lo then break
    let (r, down) ← countRun lt a lo n
    if down then a := reverseRange a lo r
    let mut len := r
    if r < least then
      let force := min (n - lo) least
      a ← binarySort lt a lo (lo + force) (lo + r)
      len := force
    let s ← foundRun lt a runs mg len n
    a := s.1
    runs := s.2.1
    mg := s.2.2
    runs := runs.push { base := lo, len }
    lo := lo + len
  for _ in [0 : runs.size] do
    if 1 < runs.size then
      let k := runs.size - 2
      let k := if 0 < k && (runs.getD (k - 1) default).len < (runs.getD (k + 1) default).len
        then k - 1 else k
      let r ← mergeAt lt a runs k mg
      a := r.1
      runs := r.2.1
      mg := r.2.2
    else break
  return a

end Steps

variable {ε : Type}

/-- A test that notes every pair it is asked about, latest first. -/
def noted (test : α → α → Bool) (x y : α) : StateM (List (α × α)) Bool := do
  modify ((x, y) :: ·)
  pure (test x y)

/-- The failure of the first pair whose comparison fails, if any. -/
def firstFailure (lt : α → α → Except ε Bool) : List (α × α) → Option ε
  | [] => none
  | (x, y) :: rest =>
    match lt x y with
    | .error e => some e
    | .ok _ => firstFailure lt rest

/-- Sorts a list stably by a comparison that may fail: the sort runs with each failing
comparison read as false, and fails with the first failure it met. -/
def sort (lt : α → α → Except ε Bool) (xs : List α) : Except ε (List α) :=
  let test := fun x y => match lt x y with
    | .ok b => b
    | .error _ => false
  let (ys, asked) := (timsort (noted test) xs.toArray).run []
  match firstFailure lt asked.reverse with
  | some e => .error e
  | none => .ok ys.toList

end Phrasebook.Sorting
