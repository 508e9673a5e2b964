import Phrasebook.Text.Quoted

/-!
Decoding UTF-8 bytes strictly, and reading text with universal line ends.

Decoding stops at the first sequence that is not UTF-8 (RFC 3629) and says where and why:
`invalid start byte` for a byte that cannot begin a character, `invalid continuation byte`
when a character is cut short by a byte that cannot continue it (the span covers the bytes that
could), and `unexpected end of data` when the bytes run out inside a character. Overlong forms,
surrogates and code points above `U+10FFFF` are refused at their second byte.

Text read from a file then has each `\r\n`, and each `\r` alone, turned into `\n`. The
characters decoded are held as a text (`ofChars`).

Encoding writes each point as the UTF-8 bytes of its number; a lone surrogate gets the three
bytes its unit would have, which no strict decoder takes back.

`decode_ascii`: bytes below `0x80` decode one to one.
-/

namespace Phrasebook.Text

/-- Where and why decoding stopped: the first and last byte positions of the offending
span, the byte there, and the reason. -/
structure DecodeError where
  start : Nat
  last : Nat
  byte : Nat
  reason : String
deriving Inhabited, BEq, Repr

/-- The message of a decoding failure. -/
def DecodeError.render (e : DecodeError) : String :=
  if e.start = e.last then
    "'utf-8' codec can't decode byte 0x" ++ String.ofList (hexDigits 2 e.byte) ++
      " in position " ++ toString e.start ++ ": " ++ e.reason
  else
    "'utf-8' codec can't decode bytes in position " ++ toString e.start ++ "-" ++
      toString e.last ++ ": " ++ e.reason

def isTail (b : Nat) : Bool := 0x80 ≤ b && b ≤ 0xBF

def secondOk3 (b c : Nat) : Bool :=
  isTail c && !(b = 0xE0 && c < 0xA0) && !(b = 0xED && c ≥ 0xA0)

def secondOk4 (b c : Nat) : Bool :=
  isTail c && !(b = 0xF0 && c < 0x90) && !(b = 0xF4 && c ≥ 0x90)

/-- Decodes the bytes `bs`, the first at position `pos`, with the characters so far reversed
in `acc`. -/
def decodeFrom (pos : Nat) (acc : List Char) : List Nat → Except DecodeError (List Char)
  | [] => .ok acc.reverse
  | b :: rest =>
    let bad (n : Nat) (why : String) : Except DecodeError (List Char) :=
      .error ⟨pos, pos + n - 1, b, why⟩
    let endAt : Except DecodeError (List Char) :=
      .error ⟨pos, pos + rest.length, b, "unexpected end of data"⟩
    if b < 0x80 then decodeFrom (pos + 1) (Char.ofNat b :: acc) rest
    else if b < 0xC2 then bad 1 "invalid start byte"
    else if b < 0xE0 then
      match rest with
      | [] => endAt
      | c :: rest' =>
        if isTail c then
          decodeFrom (pos + 2) (Char.ofNat ((b - 0xC0) * 64 + (c - 0x80)) :: acc) rest'
        else bad 1 "invalid continuation byte"
    else if b < 0xF0 then
      match rest with
      | [] => endAt
      | [c] => if secondOk3 b c then endAt else bad 1 "invalid continuation byte"
      | c :: d :: rest' =>
        if !secondOk3 b c then bad 1 "invalid continuation byte"
        else if !isTail d then bad 2 "invalid continuation byte"
        else decodeFrom (pos + 3)
          (Char.ofNat (((b - 0xE0) * 64 + (c - 0x80)) * 64 + (d - 0x80)) :: acc) rest'
    else if b < 0xF5 then
      match rest with
      | [] => endAt
      | [c] => if secondOk4 b c then endAt else bad 1 "invalid continuation byte"
      | [c, d] =>
        if !secondOk4 b c then bad 1 "invalid continuation byte"
        else if !isTail d then bad 2 "invalid continuation byte"
        else endAt
      | c :: d :: e :: rest' =>
        if !secondOk4 b c then bad 1 "invalid continuation byte"
        else if !isTail d then bad 2 "invalid continuation byte"
        else if !isTail e then bad 3 "invalid continuation byte"
        else decodeFrom (pos + 4)
          (Char.ofNat ((((b - 0xF0) * 64 + (c - 0x80)) * 64 + (d - 0x80)) * 64 + (e - 0x80))
            :: acc) rest'
    else bad 1 "invalid start byte"

/-- Decodes UTF-8 bytes. -/
def decode (bs : List Nat) : Except DecodeError String :=
  (decodeFrom 0 [] bs).map ofChars

/-- Turns each `\r\n`, and each `\r` alone, into `\n`. -/
def unifyLineEnds : List Char → List Char
  | [] => []
  | '\r' :: '\n' :: rest => '\n' :: unifyLineEnds rest
  | '\r' :: rest => '\n' :: unifyLineEnds rest
  | c :: rest => c :: unifyLineEnds rest

/-- Reads the text of a file's bytes: decoded, line ends unified. -/
def readText (bs : List Nat) : Except DecodeError String :=
  (decodeFrom 0 [] bs).map fun cs => ofChars (unifyLineEnds cs)

/-- The UTF-8 bytes of a number below `0x110000`. -/
def codeBytes (n : Nat) : List Nat :=
  if n < 0x80 then [n]
  else if n < 0x800 then [0xC0 + n / 0x40, 0x80 + n % 0x40]
  else if n < 0x10000 then [0xE0 + n / 0x1000, 0x80 + n / 0x40 % 0x40, 0x80 + n % 0x40]
  else [0xF0 + n / 0x40000, 0x80 + n / 0x1000 % 0x40, 0x80 + n / 0x40 % 0x40, 0x80 + n % 0x40]

/-- The UTF-8 bytes of a text. -/
def encode (s : String) : List Nat := (points s).flatMap fun p => codeBytes p.code

theorem decodeFrom_ascii (pos : Nat) (acc : List Char) :
    ∀ bs : List Nat, (∀ b ∈ bs, b < 0x80) →
      decodeFrom pos acc bs = .ok (acc.reverse ++ bs.map Char.ofNat)
  | [], _ => by simp [decodeFrom]
  | b :: rest, h => by
    have hb : b < 0x80 := h b (List.mem_cons_self ..)
    rw [decodeFrom.eq_def]
    simp only [if_pos hb]
    rw [decodeFrom_ascii (pos + 1) _ rest fun x hx => h x (List.mem_cons_of_mem _ hx)]
    simp

theorem decode_ascii {bs : List Nat} (h : ∀ b ∈ bs, b < 0x80) :
    decode bs = .ok (ofChars (bs.map Char.ofNat)) := by
  simp [decode, decodeFrom_ascii 0 [] bs h, Except.map]

end Phrasebook.Text
