/-!
Texts as sequences of code points, lone surrogates included.

A text is a sequence of code points, and a point may be a lone surrogate: a code unit from
U+D800 to U+DFFF that is not half of a pair, as a JSON `\udXXX` escape can give. It is no
character, and a `String` cannot hold it, yet a text keeps it: it counts as one point, is no
letter and no blank, is shown escaped as `\udXXX`, and sorts between U+D7FF and U+E000.

So a text is held in a `String` with an escape. The character `mark` (U+10F7FF, for private
use) and the character after it stand for one point together: the mark itself when the
second is the mark again, and the surrogate `0xD800 + i` when the second is `pairBase + i`,
one of the last 2048 code points. Every other character stands for itself. `Point.chars`
writes a point and `pointsOf` reads held characters back; `pointsOf_chars` says the escape
loses nothing. Neither character of a pair is ASCII, so cutting a held text at ASCII
characters, trimming its blanks, joining held texts and comparing them for equality work on
the `String` as it stands. Whatever counts, orders, cuts at a place or shows the points of a
text goes through `points`.

When a text is written as the bytes of a path, a surrogate from U+DC80 to U+DCFF stands for
the byte of its low eight bits, and any other surrogate cannot be written: `unencodable`
finds the first run of surrogates holding one, and names the places from that one to the end
of the run.

`points_ofPoints`: reading a written text gives back its points.
`unencodable_chars`: a text without surrogates can always be written.
`precedes_total` and `precedes_trans`: code-point order is a total preorder, so sorting by
it gives a sorted list.
-/

namespace Phrasebook.Text

/-- A code point of a text: a character, or the lone surrogate `0xD800 + i`. -/
inductive Point where
  | char (c : Char)
  | surrogate (i : Fin 2048)
deriving DecidableEq, Repr, Inhabited

namespace Point

/-- The number of a point: the code point of a character, the unit of a surrogate. -/
def code : Point → Nat
  | .char c => c.toNat
  | .surrogate i => 0xD800 + i.val

/-- The point of a number: a lone surrogate from U+D800 to U+DFFF, else the character. -/
def ofCode (n : Nat) : Point :=
  if h : 0xD800 ≤ n ∧ n ≤ 0xDFFF then .surrogate ⟨n - 0xD800, by omega⟩
  else .char (Char.ofNat n)

end Point

def mark : Char := Char.ofNat 0x10F7FF

def pairBase : Nat := 0x10F800

def Point.chars : Point → List Char
  | .char c => if c = mark then [mark, mark] else [c]
  | .surrogate i => [mark, Char.ofNat (pairBase + i.val)]

theorem char_toNat_lt (c : Char) : c.toNat < 0x110000 := by
  have h := c.valid
  unfold UInt32.isValidChar Nat.isValidChar at h
  show c.val.toNat < 0x110000
  omega

theorem char_toNat_ofNat {n : Nat} (h : n.isValidChar) : (Char.ofNat n).toNat = n := by
  rw [Char.ofNat, dif_pos h]
  exact UInt32.toNat_ofNatLT

/-- The point the mark stands for with the character after it. -/
def pairPoint (d : Char) : Point :=
  if h : pairBase ≤ d.toNat then
    .surrogate ⟨d.toNat - pairBase, by have := char_toNat_lt d; unfold pairBase at h ⊢; omega⟩
  else .char mark

def pointsOf : List Char → List Point
  | [] => []
  | [c] => [.char c]
  | c :: d :: rest => if c = mark then pairPoint d :: pointsOf rest else .char c :: pointsOf (d :: rest)

/-- The points of a text. -/
def points (s : String) : List Point := pointsOf s.toList

/-- The text of some points. -/
def ofPoints (ps : List Point) : String := String.ofList (ps.flatMap Point.chars)

def ofChars (cs : List Char) : String := ofPoints (cs.map .char)

/-- The characters of a text for a stream that takes characters only: each lone surrogate
becomes the replacement character U+FFFD. -/
def toChars (s : String) : String :=
  String.ofList ((points s).map fun
    | .char c => c
    | .surrogate _ => '\uFFFD')

def length (s : String) : Nat := (points s).length

def endsWith (s t : String) : Bool :=
  let ps := points s
  let qs := points t
  qs.length ≤ ps.length && ps.drop (ps.length - qs.length) == qs

/-- Whether one list of places comes first, or the lists are equal. -/
def keysLe : List Nat → List Nat → Bool
  | [], _ => true
  | _ :: _, [] => false
  | a :: as, b :: bs => a < b || (a == b && keysLe as bs)

/-- Whether text `a` sorts before text `b`, or with it: by code points, one after the other. -/
def precedes (a b : String) : Bool :=
  keysLe ((points a).map Point.code) ((points b).map Point.code)

def standsForByte (u : Nat) : Bool := 0xDC80 ≤ u && u ≤ 0xDCFF

/-- Scans points from place `i`; `bad` holds the place and unit of the first surrogate of
the current run that stands for no byte, if any. Gives that place, the end of its run and the
unit. -/
def scanUnencodable (i : Nat) (bad : Option (Nat × Nat)) : List Point → Option (Nat × Nat × Nat)
  | [] => bad.map fun b => (b.1, i, b.2)
  | .char _ :: rest =>
    match bad with
    | some b => some (b.1, i, b.2)
    | none => scanUnencodable (i + 1) none rest
  | .surrogate j :: rest =>
    match bad with
    | some b => scanUnencodable (i + 1) (some b) rest
    | none =>
      let u := 0xD800 + j.val
      scanUnencodable (i + 1) (if standsForByte u then none else some (i, u)) rest

/-- Where a text cannot be written as the bytes of a path. -/
def unencodable (s : String) : Option (Nat × Nat × Nat) := scanUnencodable 0 none (points s)

theorem mark_toNat : mark.toNat = 0x10F7FF := char_toNat_ofNat (by decide)

theorem pairPoint_mark : pairPoint mark = .char mark := by
  have h : ¬ pairBase ≤ mark.toNat := by rw [mark_toNat]; decide
  simp only [pairPoint, dif_neg h]

theorem pairPoint_pair (i : Fin 2048) : pairPoint (Char.ofNat (pairBase + i.val)) = .surrogate i := by
  have hv : (pairBase + i.val).isValidChar := by
    have := i.isLt
    unfold Nat.isValidChar pairBase
    omega
  have hn := char_toNat_ofNat hv
  have h : pairBase ≤ pairBase + i.val := Nat.le_add_right _ _
  simp only [pairPoint, hn, dif_pos h, Nat.add_sub_cancel_left]

theorem pointsOf_chars (ps : List Point) : pointsOf (ps.flatMap Point.chars) = ps := by
  induction ps with
  | nil => rfl
  | cons p ps ih =>
    cases p with
    | char c =>
      by_cases hc : c = mark
      · subst hc
        simp only [List.flatMap_cons, Point.chars, if_true, List.cons_append, List.nil_append,
          pointsOf, pairPoint_mark, ih]
      · simp only [List.flatMap_cons, Point.chars, if_neg hc, List.cons_append, List.nil_append]
        cases h : ps.flatMap Point.chars with
        | nil =>
          rw [h] at ih
          rw [← ih]
          rfl
        | cons d rest =>
          rw [h] at ih
          simp only [pointsOf, if_neg hc, ih]
    | surrogate i =>
      simp only [List.flatMap_cons, Point.chars, List.cons_append, List.nil_append, pointsOf]
      simp only [pairPoint_pair, ih, if_true]

theorem points_ofPoints (ps : List Point) : points (ofPoints ps) = ps := by
  simp only [points, ofPoints, String.toList_ofList, pointsOf_chars]

theorem unencodable_chars (cs : List Char) : unencodable (ofChars cs) = none := by
  suffices ∀ i, scanUnencodable i none (cs.map Point.char) = none by
    simp only [unencodable, ofChars, points_ofPoints]
    exact this 0
  induction cs with
  | nil => intro i; rfl
  | cons c cs ih =>
    intro i
    exact ih (i + 1)

theorem keysLe_total : ∀ as bs : List Nat, (keysLe as bs || keysLe bs as) = true
  | [], _ => rfl
  | _ :: _, [] => rfl
  | a :: as, b :: bs => by
    rcases Nat.lt_trichotomy a b with h | rfl | h
    · simp [keysLe, h]
    · simpa [keysLe] using keysLe_total as bs
    · simp [keysLe, h]

theorem keysLe_trans : ∀ as bs cs : List Nat, keysLe as bs = true → keysLe bs cs = true →
    keysLe as cs = true
  | [], _, _, _, _ => rfl
  | _ :: _, [], _, h, _ => by cases h
  | _ :: _, _ :: _, [], _, h => by cases h
  | a :: as, b :: bs, c :: cs, h₁, h₂ => by
    simp only [keysLe, Bool.or_eq_true, decide_eq_true_eq, Bool.and_eq_true, beq_iff_eq] at h₁ h₂ ⊢
    rcases h₁ with h₁ | ⟨rfl, h₁⟩ <;> rcases h₂ with h₂ | ⟨rfl, h₂⟩
    · exact .inl (Nat.lt_trans h₁ h₂)
    · exact .inl h₁
    · exact .inl h₂
    · exact .inr ⟨rfl, keysLe_trans as bs cs h₁ h₂⟩

theorem precedes_total (a b : String) : (precedes a b || precedes b a) = true :=
  keysLe_total _ _

theorem precedes_trans {a b c : String} (h₁ : precedes a b = true) (h₂ : precedes b c = true) :
    precedes a c = true :=
  keysLe_trans _ _ _ h₁ h₂

end Phrasebook.Text
