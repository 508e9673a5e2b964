import Phrasebook.Disk
import Phrasebook.Text.Chars
import Phrasebook.Text.Utf8
import Phrasebook.Source.Remote
import Phrasebook.Settings

/-!
Gathering the source texts the settings name: catalog files in a folder, one per locale, and
downloads.

A file belongs to a locale when its name ends with the suffix and does not start with `.`: the
locale is the rest of the name, trimmed, and must not be blank. Discovery asks whether the
folder is one, and then whether each of its entries is a file, in code-point order of their
names; of two files of one locale, the later one is kept (at the earlier one's place). It asks
as a path object does, so a path too long for the system fails it with the system's fault
where a folder or a file that is not there is only passed over. A file is read as UTF-8 with
universal line ends.

Local files come from the catalog folder, in discovery order, except for locales that have a
remote source; remote sources follow, in the order the settings give them. Every file is read,
and each one read whole is announced, before any failure is reported; then the first failure in
that order is the one reported, so that no partial set of sources is ever given, and a file
that fails to read stops the gathering before any download. Likewise every download ends
before the first that failed, in the settings' order, is reported. Settings that yield no
source at all are refused.

The reads, and then the downloads, are awaited together, and a `Schedule` says how they take
turns. A read gives way while the system reads its file, and its text is announced when it is
taken up again (`takenUp`). A download gives way at each request and before each retry
(`Stage`); the schedule names the downloads in the order they take their steps, and those it
leaves unfinished then finish one after another. The network answers the requests for one URL
in the order they come, so downloads of one URL share its answers in the order of their
requests. The empty schedule takes every task up in turn.
-/

namespace Phrasebook.Source

/-! ### Local files -/

/-- The locale a file belongs to, by its name. -/
def localeOf (path suffix : String) : Option String :=
  let n := Path.name path
  if suffix.isEmpty || !Text.endsWith n suffix || n.startsWith "." then none
  else
    let ps := Text.points n
    let l := Text.trim (Text.ofPoints (ps.take (ps.length - Text.length suffix)))
    if l.isEmpty then none else some l

/-- The catalog files of a folder, by locale, each with its path. The folder, and then each of
its entries in order, is asked about as a path object asks: a folder that is not there is no
catalog directory, an entry that is not a file is passed over, and a failure the asking
raises is the system's. -/
def discover (d : Disk) (dir suffix : String) : Except Fault (Table String) := do
  let root := Path.written dir
  let child (n : String) : String := Path.written (Path.join root n)
  if !(← (d.ask Node.isFolder root).mapError (·.fault root)) then
    throw (.source .read ("Catalog directory not found: " ++ root) [("path", .str root)])
  let files ← (d.list root).filterM fun n =>
    (d.ask Node.isFile (child n)).mapError (·.fault (child n))
  pure (files.foldl (fun t n =>
    match localeOf (child n) suffix with
    | some l => t.set l (child n)
    | none => t) Table.empty)

def unreadable (path reason : String) : Fault :=
  .source .read ("Cannot read catalog file " ++ path ++ ": " ++ reason) [("path", .str path)]

/-- The text of a catalog file, read at the written form of its path. A path the system
refuses outright is not an unreadable file: that fault is the system's. -/
def readFile (d : Disk) (path : String) : Except Fault String :=
  let target := Path.written path
  match d.readBytes target with
  | .error e =>
    if e.refused then .error (e.fault target) else .error (unreadable path (e.fault target).message)
  | .ok bs =>
    match Text.readText bs with
    | .ok t => .ok t
    | .error e => .error (unreadable path e.render)

/-- The catalog files of the settings' folder, by locale; none when no folder is set. -/
def localFiles (d : Disk) (s : Settings) : Except Fault (Table String) :=
  match s.catalogDir with
  | some dir => discover d dir s.suffix
  | none => .ok Table.empty

/-! ### Tasks that take turns -/

/-- How the tasks awaited together take turns: the reads, by their place among the files, in
the order they are taken up again once their file is read; and the downloads, by their place
among the remote sources, in the order they take their steps. -/
structure Schedule where
  reads : List Nat := []
  downloads : List Nat := []

/-- The items in the order a schedule takes them up: those it names, each where it first names
it, then the others in their order. -/
def takenUp {α : Type} (order : List Nat) (xs : List α) : List α :=
  order.eraseDups.filterMap (xs[·]?) ++
    ((xs.zipIdx.filter fun p => !order.contains p.2).map Prod.fst)

/-- The link once the files `files` have been read with `read` and taken up in that order:
each file read whole is announced with its locale, its path and the length of its text. -/
def Link.noteReads (l : Link) (files : List (String × String))
    (read : String → Except Fault String) : Link :=
  { l with
    journal := files.foldl (fun j p =>
      match read p.2 with
      | .ok text => j.announce .debug ⟨"source", "read", none,
          [("locale", .str p.1), ("path", .str p.2), ("chars", .int (Text.length text))]⟩
      | .error _ => j) l.journal }

/-- A download under way: its locale, its URL and where it stands. -/
structure Download where
  locale : String
  url : String
  stage : Stage

/-- One step of the download at place `i`; one that has ended, or is not there, does nothing. -/
def stepAt (maxAttempts : Value) (xs : List Download) (i : Nat) : Net (List Download) :=
  match xs[i]? with
  | some x => do
    let s ← x.stage.step (.str x.url) (some x.locale) maxAttempts
    pure (xs.set i { x with stage := s })
  | none => pure xs

/-- Finishes the downloads one after another, keeping each outcome under its locale. -/
def finishAll (maxAttempts : Value) (xs : List Download) :
    Net (List (String × Except Fault String)) :=
  xs.mapM fun x => do
    let r ← x.stage.finish (.str x.url) (some x.locale) maxAttempts
    pure (x.locale, r)

/-- Downloads every remote source, keeping each outcome under its locale: the downloads take
their steps in the order the schedule names them, and those it leaves unfinished then finish
one after another. -/
def fetchAll (maxAttempts : Value) (sources : List (String × String)) (sched : List Nat) :
    Net (List (String × Except Fault String)) := do
  let xs ← sched.foldlM (stepAt maxAttempts) (sources.map fun p => ⟨p.1, p.2, .send 1⟩)
  finishAll maxAttempts xs

/-! ### Gathering -/

/-- The first failure of a list of outcomes, or all their values. -/
def collect : List (String × Except Fault String) → Except Fault (List (String × String))
  | [] => .ok []
  | (l, .ok t) :: rest => (collect rest).map ((l, t) :: ·)
  | (_, .error f) :: _ => .error f

def noSources (s : Settings) : Fault :=
  .source .read "No catalog sources found"
    [("catalog_dir", .ofOption s.catalogDir), ("suffix", .str s.suffix)]

/-- The source text of every locale the settings name, the reads and the downloads taking
turns as the schedule says. -/
def gather (d : Disk) (s : Settings) (maxAttempts : Value := .int 3) (sched : Schedule := {}) :
    Net (Table String) := do
  let found ← orFail (localFiles d s)
  let locals := found.entries.filter fun p => !s.remoteSources.contains p.1
  modify (·.noteReads (takenUp sched.reads locals) (readFile d))
  let texts ← orFail (collect (locals.map fun p => (p.1, readFile d p.2)))
  let remote ← fetchAll maxAttempts s.remoteSources.entries sched.downloads
  let remoteTexts ← orFail (collect remote)
  let all := texts ++ remoteTexts
  if all.isEmpty then throw (noSources s)
  pure ⟨all⟩

end Phrasebook.Source
