import Phrasebook.Path
import Phrasebook.Table
import Phrasebook.Number
import Phrasebook.Text.Quoted
import Phrasebook.Text.Point

/-!
The disk: a scratch directory of files and folders, as the engine sees it.

The scratch directory lies at an absolute path of its own. Below it lie the files and
folders the engine is given; a file holds bytes, and both files and folders have a
modification time. Outside it only its ancestors are known, as folders.

A path is read as the system reads it: from the scratch directory unless absolute, part by
part, where every part but the last must name a folder, `.` stays and `..` goes to the
parent, and a trailing slash asks for a folder. A path that cannot be written as bytes
(`Text.unencodable`), or else holds the character NUL, is refused before any of this; to
resolve a path the system asks about each part in turn, so the first part refused is named.
A path of more than 4095 bytes is too long for the system, and so is each part of more than
255 that the walk looks up. A path object asking whether a path names a folder or a file
takes a path that lies nowhere, runs through a file or cannot be written for a plain no, and
raises any other failure (`ask`). The engine owns the scratch directory, so no access is
refused for want of permission, and a folder that is looked up can be listed.

Writing a file or making a folder makes the folders above it, and adding or removing an
entry touches the folder it lies in. Times are counted in nanoseconds; every change happens
at the disk's clock, which then moves on by a second. A time given in seconds as a value
(`nanosOf`) is rounded down to the nanosecond, its fraction scaled in double arithmetic as
the system's clock conversion does, and the system reports a time in seconds as a double
again (`seconds`).

A failed access names its cause as the system does: `[Errno 2] No such file or directory`,
`[Errno 20] Not a directory`, `[Errno 21] Is a directory` or `[Errno 36] File name too long`,
with the path quoted, or `embedded null byte`, or the places of the surrogates that cannot be
written.
-/

namespace Phrasebook

/-- A node of the disk. -/
inductive Node where
  | file (bytes : List Nat) (mtime : Int)
  | folder (mtime : Int)
deriving Inhabited, BEq, Repr

namespace Node

def isFolder : Node → Bool
  | .folder _ => true
  | .file .. => false

def isFile : Node → Bool
  | .file .. => true
  | .folder _ => false

end Node

/-- Why an access failed. -/
inductive Errno where
  | notFound
  | notFolder
  | isFolder
  /-- A part of the path, or the whole path, is longer than the system takes. -/
  | nameTooLong
  /-- The path holds the character NUL, which no path of the system can. -/
  | nullByte
  /-- The path holds a surrogate that stands for no byte: the places from the first such to
  the end of its run, and its unit. -/
  | unencodable (first stop unit : Nat)
deriving Inhabited, BEq, DecidableEq, Repr

namespace Errno

/-- The fault of a failed access to a path, as the system words it. -/
def fault (e : Errno) (path : String) : Fault :=
  match e with
  | .notFound => .system .fileNotFound
      (some (.str ("[Errno 2] No such file or directory: " ++ Text.quote path)))
  | .notFolder => .system .notADirectory
      (some (.str ("[Errno 20] Not a directory: " ++ Text.quote path)))
  | .isFolder => .system .isADirectory
      (some (.str ("[Errno 21] Is a directory: " ++ Text.quote path)))
  | .nameTooLong => .system .os
      (some (.str ("[Errno 36] File name too long: " ++ Text.quote path)))
  | .nullByte => .system .value (some (.str "embedded null byte"))
  | .unencodable first stop unit => .system .unicodeEncode (some (.str (
      if stop = first + 1 then
        "'utf-8' codec can't encode character '\\u" ++ String.ofList (Text.hexDigits 4 unit) ++
          "' in position " ++ toString first ++ ": surrogates not allowed"
      else
        "'utf-8' codec can't encode characters in position " ++ toString first ++ "-" ++
          toString (stop - 1) ++ ": surrogates not allowed")))

/-- Whether the system refused the path itself, before looking anything up. -/
def refused : Errno → Bool
  | .nullByte | .unencodable .. => true
  | _ => false

/-- Whether a path object, asking whether a path names a folder or a file, takes the failure
for a plain no: a path that lies nowhere, runs through a file, or cannot be written. -/
def meansNo : Errno → Bool
  | .notFound | .notFolder | .nullByte | .unencodable .. => true
  | .isFolder | .nameTooLong => false

end Errno

def Disk.second : Int := 1000000000

/-- The scratch directory: where it lies, and its nodes by their parts below it, joined by
`/`; the empty key is the scratch directory itself. -/
structure Disk where
  /-- The parts below the root of the scratch directory, from which relative paths are
  read. -/
  home : List String := ["tmp", "tmpq8z3k1w0"]
  nodes : Table Node := Table.empty
  /-- The time of the next change, in nanoseconds. -/
  clock : Int := 1700000000 * Disk.second
deriving Inhabited

namespace Disk

/-- The time of the folders the disk knows without being told: the scratch directory before
any change, and its ancestors. -/
def epoch : Int := 1700000000 * second

/-- A time in seconds given as a double `±sig · 2 ^ k`, in nanoseconds, as the system's
clock conversion computes it: the whole seconds exactly, and the fraction scaled to
nanoseconds in double arithmetic, that is rounded to the nearest double, then rounded down. -/
def nanosOfDouble (negative : Bool) (sig : Nat) (k : Int) : Int :=
  if 0 ≤ k then
    let n : Int := ((sig * Nat.pow 2 k.toNat * Nat.pow 10 9 : Nat) : Int)
    if negative then -n else n
  else
    let den := Nat.pow 2 (-k).toNat
    let whole := sig / den
    let (p, q) := match Binary64.ofRatio false (sig % den * Nat.pow 10 9) den with
      | .finite _ s e => Binary64.binaryRatio s e
      | _ => (0, 1)
    if negative then -((whole * Nat.pow 10 9 + (p + q - 1) / q : Nat) : Int)
    else ((whole * Nat.pow 10 9 + p / q : Nat) : Int)

/-- A time given in seconds as a value, in nanoseconds; only a number is a time, and neither
infinity nor not-a-number is one. A whole number is taken exactly, a real as its double. -/
def nanosOf (v : Value) : Option Int :=
  match v with
  | .int n => some (n * Int.pow 10 9)
  | .bool b => some (if b then Int.pow 10 9 else 0)
  | .real t =>
    match Binary64.ofText? t with
    | some (.zero _) => some 0
    | some (.finite negative sig k) => some (nanosOfDouble negative sig k)
    | _ => none
  | _ => none

/-- A time in nanoseconds as the system reports it in seconds: a double, given by its exact
value. The whole seconds, below the time, are added to the nanoseconds past them times the
double nearest `1e-9`, and both the product and the sum are rounded to the nearest double. -/
def seconds (t : Int) : Rat :=
  let (cp, cq) := Binary64.roundRatio 1 (Nat.pow 10 9)
  let (fp, fq) := Binary64.roundRatio (t % 1000000000 * cp) cq
  let (sp, sq) := Binary64.roundRatio (t / 1000000000 * fq + fp) fq
  mkRat sp sq

def homePath (d : Disk) : String := "/" ++ "/".intercalate d.home

def rootParts (d : Disk) (p : String) : List String :=
  if p.startsWith "/" then Path.parts p else d.home ++ Path.parts p

def writeParts (ps : List String) : String := "/" ++ "/".intercalate ps

/-- A path made absolute from the scratch directory, each `..` cancelling the part before
it, written with one root slash. Nothing on the disk is consulted. -/
def lexical (d : Disk) (p : String) : String :=
  writeParts (Path.cancel true [] (d.rootParts p))

def nameMax : Nat := 255

def pathMax : Nat := 4096

/-- The bytes a text takes written as a path: each point in UTF-8, and one for a surrogate,
which stands for a byte. -/
def pathBytes (s : String) : Nat :=
  (Text.points s).foldl (fun n p => n + match p with
    | .char c => c.utf8Size
    | .surrogate _ => 1) 0

/-- Whether a text takes more than `k` bytes written as a path. A text is held in at least as
many bytes as it is written in, so only one held in more is counted. -/
def longerThan (k : Nat) (s : String) : Bool :=
  decide (k < s.utf8ByteSize) && decide (k < pathBytes s)

/-- Whether the system takes a path for a look-up: no part of it is longer than a name, and
the whole is shorter than the limit. -/
def fits (p : String) : Bool :=
  (Path.split p).all (fun x => decide (pathBytes x ≤ nameMax)) && decide (pathBytes p < pathMax)

/-- Why the system refuses a path as it is written, if it does. -/
def refusal (p : String) : Option Errno :=
  match Text.unencodable p with
  | some (first, stop, unit) => some (.unencodable first stop unit)
  | none => if p.toList.contains (Char.ofNat 0) then some .nullByte else none

/-- The paths the system asks about, in order, while it resolves a path part by part: the
path so far with each part added that is neither `.` nor `..`, where `..` goes back a part. -/
def probes (p : String) : List String :=
  let isAbs := p.startsWith "/"
  let write (ps : List String) : String := (if isAbs then "/" else "") ++ "/".intercalate ps
  ((Path.split p).foldl (fun (acc : List String × List String) x =>
    if x.isEmpty || x == "." then acc
    else if x == ".." then
      match acc.1.getLast? with
      | some ".." | none => (if isAbs then acc.1 else acc.1 ++ [".."], acc.2)
      | some _ => (acc.1.dropLast, acc.2)
    else (acc.1 ++ [x], acc.2 ++ [write (acc.1 ++ [x])])) ([], [])).2

/-- A path as the system resolves it when no link is involved: as `lexical`, once no part of
it is refused. -/
def resolve (d : Disk) (p : String) : Except Errno String :=
  match (probes p).findSome? refusal with
  | some e => .error e
  | none => .ok (d.lexical p)

/-- The absolute form of a path: as `lexical`, except that a root of exactly two slashes is
kept. -/
def absolute (d : Disk) (p : String) : String :=
  if Path.root p = "//" then Path.normal p else d.lexical p

def keyOf (parts : List String) : String := "/".intercalate parts

/-- What lies at some parts below the scratch directory. -/
def nodeAt (d : Disk) (parts : List String) : Option Node :=
  match d.nodes.get? (keyOf parts) with
  | some n => some n
  | none => if parts.isEmpty then some (.folder epoch) else none

def nodeAbove (d : Disk) (ps : List String) : Option Node :=
  if d.home.isPrefixOf ps then d.nodeAt (ps.drop d.home.length)
  else if ps.isPrefixOf d.home then some (.folder epoch)
  else none

def folderAt (d : Disk) (ps : List String) : Bool :=
  match d.nodeAbove ps with
  | some (.folder _) => true
  | _ => false

/-- Walks the parts of a path from a folder, given by its parts below the root, to the parts
of what the path names; every part but the last must name a folder, and no part looked up
may be longer than a name. -/
def walk (d : Disk) (here : List String) : List String → Except Errno (List String)
  | [] => .ok here
  | "." :: rest => walk d here rest
  | ".." :: rest => walk d here.dropLast rest
  | [x] => if longerThan nameMax x then .error .nameTooLong else .ok (here ++ [x])
  | x :: rest =>
    if longerThan nameMax x then .error .nameTooLong else
    match d.nodeAbove (here ++ [x]) with
    | some (.folder _) => walk d (here ++ [x]) rest
    | some (.file ..) => .error .notFolder
    | none => .error .notFound

/-- The parts below the root of what a path names, which may not exist. -/
def locate (d : Disk) (p : String) : Except Errno (List String) :=
  if let some e := refusal p then .error e
  else if p.isEmpty then .error .notFound
  else if longerThan (pathMax - 1) p then .error .nameTooLong
  else
    let raw := (Path.split p).filter (!·.isEmpty)
    let raw := if p.endsWith "/" then raw ++ ["."] else raw
    walk d (if p.startsWith "/" then [] else d.home) raw

/-- What a path names. -/
def stat (d : Disk) (p : String) : Except Errno Node := do
  match d.nodeAbove (← d.locate p) with
  | some n => pure n
  | none => throw .notFound

/-- Whether a path names a folder. -/
def isFolder (d : Disk) (p : String) : Bool :=
  match d.stat p with
  | .ok (.folder _) => true
  | _ => false

/-- Whether a path names a file. -/
def isFile (d : Disk) (p : String) : Bool :=
  match d.stat p with
  | .ok (.file ..) => true
  | _ => false

/-- Asks whether a path names a node of a kind, as a path object asks: a failure it takes for
a plain no answers no, and any other failure is raised. -/
def ask (d : Disk) (kind : Node → Bool) (p : String) : Except Errno Bool :=
  match d.stat p with
  | .ok n => .ok (kind n)
  | .error e => if e.meansNo then .ok false else .error e

def readBytes (d : Disk) (p : String) : Except Errno (List Nat) := do
  match ← d.stat p with
  | .file bs _ => pure bs
  | .folder _ => throw .isFolder

/-- The modification time of what a path names. -/
def mtime (d : Disk) (p : String) : Except Errno Int := do
  match ← d.stat p with
  | .file _ t => pure t
  | .folder t => pure t

/-- The names in a folder, in code-point order. -/
def list (d : Disk) (p : String) : List String :=
  match d.locate p with
  | .ok ps =>
    if d.home.isPrefixOf ps then
      let below := ps.drop d.home.length
      let pre := if below.isEmpty then "" else keyOf below ++ "/"
      let names := d.nodes.keys.filterMap fun k =>
        if k.startsWith pre && k.length > pre.length then
          (Path.split (String.ofList (k.toList.drop pre.length))).head?
        else none
      names.eraseDups.mergeSort Text.precedes
    else if ps.isPrefixOf d.home then (d.home.drop ps.length).take 1
    else []
  | .error _ => []

def partsOf (name : String) : List String := Path.parts (Path.normal name)

def touch (d : Disk) (parts : List String) : Disk :=
  { d with nodes := d.nodes.set (keyOf parts) (.folder d.clock) }

/-- Makes the folders at the leading parts, from the top down: each new one at the clock's
time, touching the folder it lies in. -/
def makeFolders (d : Disk) (parts : List String) : Disk :=
  (List.range parts.length).foldl (fun (d : Disk) i =>
    let here := parts.take (i + 1)
    if (d.nodes.get? (keyOf here)).isSome then d
    else
      let d := d.touch here.dropLast
      { d with nodes := d.nodes.set (keyOf here) (.folder d.clock) }) d

/-- Writes a file, at the given time or at the clock's. -/
def write (d : Disk) (name : String) (bytes : List Nat) (mtime : Option Int) : Disk :=
  let parts := partsOf name
  if parts.isEmpty then d else
  let d := d.makeFolders parts.dropLast
  let d := if (d.nodes.get? (keyOf parts)).isSome then d else d.touch parts.dropLast
  { d with nodes := d.nodes.set (keyOf parts) (.file bytes (mtime.getD d.clock)),
           clock := d.clock + second }

def makeFolder (d : Disk) (name : String) : Disk :=
  let d := d.makeFolders (partsOf name)
  { d with clock := d.clock + second }

/-- Removes a file or folder, touching the folder it lay in. -/
def remove (d : Disk) (name : String) : Disk :=
  let parts := partsOf name
  let k := keyOf parts
  let d := { d with nodes := ⟨d.nodes.entries.filter fun p => p.1 != k && !p.1.startsWith (k ++ "/")⟩ }
  let d := d.touch parts.dropLast
  { d with clock := d.clock + second }

/-! ### What a look-up can fail with -/

theorem longerThan_eq_false {k : Nat} {s : String} (h : pathBytes s ≤ k) :
    longerThan k s = false := by
  simp [longerThan, Nat.not_lt.2 h]

theorem meansNo_of_refusal {p : String} {e : Errno} (h : refusal p = some e) :
    e.meansNo = true := by
  unfold refusal at h
  split at h
  · cases h
    rfl
  · split at h <;> cases h
    rfl

/-- A walk over parts none of which is longer than a name fails only with a plain no. -/
theorem walk_error_meansNo {d : Disk} {here ps : List String} {e : Errno}
    (hps : ∀ x ∈ ps, longerThan nameMax x = false) (h : d.walk here ps = .error e) :
    e.meansNo = true := by
  fun_induction walk d here ps with
  | case1 => cases h
  | case2 here rest ih | case3 here rest ih =>
    exact ih (fun x hx => hps x (List.mem_cons_of_mem _ hx)) h
  | case4 here x _ _ hlong | case6 here x rest _ _ _ hlong =>
    -- the part looked up is no longer than a name
    rw [hps x List.mem_cons_self] at hlong
    cases hlong
  | case5 => cases h
  | case7 here x rest _ _ _ _ _ _ ih => exact ih (fun y hy => hps y (List.mem_cons_of_mem _ hy)) h
  | case8 | case9 =>
    cases h
    rfl
theorem locate_error_meansNo {d : Disk} {p : String} {e : Errno}
    (hparts : ∀ x ∈ Path.split p, pathBytes x ≤ nameMax) (hp : pathBytes p < pathMax)
    (h : d.locate p = .error e) : e.meansNo = true := by
  unfold locate at h
  split at h
  · cases h
    exact meansNo_of_refusal ‹_›
  · have hlong : longerThan (pathMax - 1) p = false := longerThan_eq_false (Nat.le_pred_of_lt hp)
    by_cases hempty : p.isEmpty = true
    · simp only [hempty, if_true] at h
      cases h
      rfl
    · simp only [hempty, hlong, Bool.false_eq_true, if_false] at h
      refine walk_error_meansNo (fun x hx => ?_) h
      -- each part walked is a part of the path, or the `.` a trailing slash adds
      have hpart : x ∈ Path.split p ∨ x = "." := by
        split at hx
        · rcases List.mem_append.1 hx with hx | hx
          · exact Or.inl ((List.mem_filter.1 hx).1)
          · exact Or.inr (List.mem_singleton.1 hx)
        · exact Or.inl ((List.mem_filter.1 hx).1)
      rcases hpart with hx | rfl
      · exact longerThan_eq_false (hparts x hx)
      · decide

theorem stat_error_meansNo {d : Disk} {p : String} {e : Errno} (hfit : fits p = true)
    (h : d.stat p = .error e) : e.meansNo = true := by
  simp only [fits, Bool.and_eq_true, List.all_eq_true, decide_eq_true_eq] at hfit
  obtain ⟨hparts, hp⟩ := hfit
  unfold stat at h
  cases hl : d.locate p with
  | error e' =>
    rw [hl] at h
    cases h
    exact locate_error_meansNo hparts hp hl
  | ok ps =>
    simp only [hl, bind, Except.bind] at h
    split at h
    · cases h
    · cases h
      rfl

theorem ask_of_stat_ok {d : Disk} {kind : Node → Bool} {p : String} {n : Node}
    (h : d.stat p = .ok n) : d.ask kind p = .ok (kind n) := by
  simp [ask, h]

theorem ask_of_meansNo {d : Disk} {kind : Node → Bool} {p : String} {e : Errno}
    (h : d.stat p = .error e) (he : e.meansNo = true) : d.ask kind p = .ok false := by
  simp [ask, h, he]

theorem ask_of_raised {d : Disk} {kind : Node → Bool} {p : String} {e : Errno}
    (h : d.stat p = .error e) (he : e.meansNo = false) : d.ask kind p = .error e := by
  simp [ask, h, he]

theorem ask_isFolder {d : Disk} {p : String} (h : ∀ e, d.stat p = .error e → e.meansNo = true) :
    d.ask Node.isFolder p = .ok (d.isFolder p) := by
  cases hs : d.stat p with
  | ok n => cases n <;> simp [ask, isFolder, hs, Node.isFolder]
  | error e => simp [ask, isFolder, hs, h e hs]

theorem ask_isFile {d : Disk} {p : String} (h : ∀ e, d.stat p = .error e → e.meansNo = true) :
    d.ask Node.isFile p = .ok (d.isFile p) := by
  cases hs : d.stat p with
  | ok n => cases n <;> simp [ask, isFile, hs, Node.isFile]
  | error e => simp [ask, isFile, hs, h e hs]

theorem ask_isFolder_eq_false {d : Disk} {p : String} (h : d.ask Node.isFolder p = .ok false) :
    d.isFolder p = false ∧ ∀ e, d.stat p = .error e → e.meansNo = true := by
  cases hs : d.stat p with
  | ok n =>
    simp only [ask, hs, Except.ok.injEq] at h
    refine ⟨?_, fun e he => by cases he⟩
    cases n <;> simp_all [isFolder, Node.isFolder]
  | error e =>
    simp only [ask, hs] at h
    refine ⟨by simp [isFolder, hs], fun e' he' => ?_⟩
    cases he'
    by_cases hno : e.meansNo = true
    · exact hno
    · simp [hno] at h

end Disk

end Phrasebook
