/-!
File paths, as text: their parts, their written form, and joining.

A path is absolute when it starts with `/`. Its parts are the texts between slashes, empty
parts and `.` left out. Its *written form* is its root (`/`, or `//` for exactly two leading
slashes) followed by its parts joined by `/`, or `.` when there is nothing. Its *normal form*
also lets each `..` cancel the part before it, where there is one.
-/

namespace Phrasebook.Path

def split (p : String) : List String := (p.toList.splitOn '/').map String.ofList

/-- The parts of a path: the texts between slashes, without empty parts and `.`. -/
def parts (p : String) : List String :=
  (split p).filter fun x => !x.isEmpty && x != "."

/-- The root of a path: `//` for exactly two leading slashes, `/` for one or more than two,
and nothing for a relative path. -/
def root (p : String) : String :=
  if p.startsWith "//" && !p.startsWith "///" then "//"
  else if p.startsWith "/" then "/"
  else ""

/-- The written form of a path. -/
def written (p : String) : String :=
  let body := "/".intercalate (parts p)
  let s := root p ++ body
  if s.isEmpty then "." else s

def name (p : String) : String := (parts p).getLast?.getD ""

/-- Joins a path to a base: an absolute path stands alone. -/
def join (base p : String) : String :=
  if p.startsWith "/" then p
  else if base.isEmpty then p
  else if base.endsWith "/" then base ++ p
  else base ++ "/" ++ p

/-- Lets each `..` cancel the part before it, keeping leading `..` of a relative path. -/
def cancel (isAbs : Bool) : List String → List String → List String
  | acc, [] => acc.reverse
  | acc, ".." :: rest =>
    match acc with
    | ".." :: _ => cancel isAbs (".." :: acc) rest
    | _ :: acc' => cancel isAbs acc' rest
    | [] => if isAbs then cancel isAbs [] rest else cancel isAbs [".."] rest
  | acc, x :: rest => cancel isAbs (x :: acc) rest

/-- The normal form of a path. -/
def normal (p : String) : String :=
  let r := root p
  let body := "/".intercalate (cancel (!r.isEmpty) [] (parts p))
  let s := r ++ body
  if s.isEmpty then "." else s

/-- The directory part of a path: everything before its last slash, trailing slashes cut
unless it is all slashes. -/
def dirname (p : String) : String :=
  let cs := p.toList
  let head := (cs.reverse.dropWhile (· ≠ '/')).reverse
  if head.all (· = '/') then String.ofList head
  else String.ofList (head.reverse.dropWhile (· = '/')).reverse

end Phrasebook.Path
