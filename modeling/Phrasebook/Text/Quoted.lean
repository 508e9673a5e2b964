import Phrasebook.Text.Chars
import Phrasebook.Text.Point

/-!
Quoted text, as error messages and log lines show a key, a locale or a raw line.

A text is quoted with single quotes, or with double quotes when it holds a single quote and
no double quote. Inside, the backslash and the chosen quote are escaped with a backslash, tab,
line feed and carriage return are written `\t`, `\n`, `\r`, and every other character that
is not printable is written by its code point: `\xhh` below `0x100`, `\uhhhh` below
`0x10000`, `\Uhhhhhhhh` above, in lower-case hexadecimal. A lone surrogate is not printable
and is written by its unit, as `\udXXX`. Neither the mark of a held pair nor the second
character of one is printable, so a quoted text holds no pair: it is its characters as they
stand.

`quote_plain`: a text of visible ASCII letters and digits is only wrapped in quotes.
-/

namespace Phrasebook.Text

/-- The lower-case hexadecimal digits of `n`, padded with zeros to `width`. -/
def hexDigits (width n : Nat) : List Char :=
  let ds := Nat.toDigits 16 n
  List.replicate (width - ds.length) '0' ++ ds

def quoteMark (ps : List Point) : Char :=
  if ps.contains (.char '\'') && !ps.contains (.char '"') then '"' else '\''

/-- How one character is written inside a text quoted with `q`. -/
def escapeChar (q : Char) (c : Char) : List Char :=
  if c = q ∨ c = '\\' then ['\\', c]
  else if c = '\t' then ['\\', 't']
  else if c = '\n' then ['\\', 'n']
  else if c = '\r' then ['\\', 'r']
  else if printable c then [c]
  else if c.toNat < 0x100 then '\\' :: 'x' :: hexDigits 2 c.toNat
  else if c.toNat < 0x10000 then '\\' :: 'u' :: hexDigits 4 c.toNat
  else '\\' :: 'U' :: hexDigits 8 c.toNat

/-- How one point is written inside a text quoted with `q`. -/
def escapePoint (q : Char) : Point → List Char
  | .char c => escapeChar q c
  | .surrogate i => '\\' :: 'u' :: hexDigits 4 (0xD800 + i.val)

def quoteList (ps : List Point) : List Char :=
  let q := quoteMark ps
  q :: ps.flatMap (escapePoint q) ++ [q]

/-- The quoted form of a text. -/
def quote (s : String) : String :=
  String.ofList (quoteList (points s))

theorem escapeChar_alnum {q c : Char} (hq : c ≠ q) (h : c.isAlphanum = true) :
    escapeChar q c = [c] := by
  have hb : c ≠ '\\' := by rintro rfl; simp at h
  have ht : c ≠ '\t' := by rintro rfl; simp at h
  have hn : c ≠ '\n' := by rintro rfl; simp at h
  have hr : c ≠ '\r' := by rintro rfl; simp at h
  have hp : printable c = true := by
    simp only [Char.isAlphanum] at h
    delta Char.isAlpha Char.isUpper Char.isLower at h
    simp only [Char.isDigit, Bool.or_eq_true, Bool.and_eq_true, decide_eq_true_eq] at h
    apply printable_of_ascii
    · rcases h with (⟨h, _⟩ | ⟨h, _⟩) | ⟨h, _⟩ <;> exact Nat.le_trans (by decide) h
    · rcases h with (⟨_, h⟩ | ⟨_, h⟩) | ⟨_, h⟩ <;> exact Nat.lt_of_le_of_lt h (by decide)
  simp [escapeChar, hq, hb, ht, hn, hr, hp]

theorem flatMap_escapeChar_plain {cs : List Char} (h : ∀ c ∈ cs, escapeChar '\'' c = [c]) :
    (cs.map Point.char).flatMap (escapePoint '\'') = cs := by
  induction cs with
  | nil => rfl
  | cons c r ih =>
    rw [List.map_cons, List.flatMap_cons, escapePoint, h c (List.mem_cons_self ..),
      ih (fun x hx => h x (List.mem_cons_of_mem _ hx))]
    rfl

theorem quote_plain {cs : List Char} (h : ∀ c ∈ cs, c.isAlphanum = true) :
    quoteList (cs.map Point.char) = '\'' :: cs ++ ['\''] := by
  have hq : (cs.map Point.char).contains (.char '\'') = false := by
    rw [List.contains_eq_any_beq, List.any_eq_false]
    intro p hp hq
    obtain ⟨c, hc, rfl⟩ := List.mem_map.mp hp
    have := h c hc
    simp only [beq_iff_eq, Point.char.injEq] at hq
    subst hq
    simp at this
  have hm : quoteMark (cs.map Point.char) = '\'' := by unfold quoteMark; rw [hq]; rfl
  have hf : ∀ c ∈ cs, escapeChar '\'' c = [c] := fun c hc =>
    escapeChar_alnum (by rintro rfl; have := h _ hc; simp at this) (h c hc)
  simp only [quoteList, hm, flatMap_escapeChar_plain hf]

end Phrasebook.Text
