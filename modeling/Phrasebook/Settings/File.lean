import Phrasebook.Settings
import Phrasebook.Disk
import Phrasebook.Json.Reader
import Phrasebook.Text.Utf8

/-!
A settings file: a JSON object on the disk, read into settings and kept until the file
changes.

A load first looks the file up. A missing file is refused as not found; any other failure of
the look-up is the system's own. When the file has the time and size it had at the last good
load, the settings of that load are given again without reading. Otherwise the file is read
as strict UTF-8 with line ends unified and decoded as JSON; a folder, bytes that are not
UTF-8 and text that is not JSON make it unreadable, and a value that is not an object is
refused. Containers nested too deep exhaust the reader itself, and that fault escapes; how
deep they may nest depends on how deep the load is called (`loadWithin`). A catalog directory given as a text that is not blank is trimmed and resolved against
the folder of the settings file; one that holds NUL cannot be. Then the object is read as settings, and the issues of one
that breaks the rules are kept in the fault.

`load_cached`: a file whose stamp is the one last loaded gives the kept settings again.
-/

namespace Phrasebook

/-- What a file was when it was read: its modification time, in seconds as the system reports
it, and its size. -/
structure Stamp where
  mtime : Rat
  size : Nat
deriving Inhabited, BEq, DecidableEq, Repr

/-- A settings file and the settings of its last good load, with the file's stamp then. -/
structure SettingsFile where
  path : String
  kept : Option (Stamp × Settings) := none
deriving Inhabited

namespace SettingsFile

def fault (path message : String) : Fault :=
  .configuration message [("path", .str path)]

/-- The stamp of a node: files have one; a folder is never kept. -/
def stampOf : Node → Option Stamp
  | .file bytes mtime => some ⟨Disk.seconds mtime, bytes.length⟩
  | .folder _ => none

def unreadable (path reason : String) : Fault :=
  fault path ("Settings file unreadable: " ++ path ++ ": " ++ reason)

/-- The fault of a settings file whose object breaks the rules of settings: the path and the
issues as data. -/
def invalidSettings (path : String) (is : List Issue) : Fault :=
  .configuration ("Invalid settings in " ++ path ++ ": " ++ toString is.length ++ " error(s)")
    [("path", .str path), ("errors", .list (is.map Issue.toValue))]

/-- The bytes of a settings file: a file that is missing is not found, and one that cannot be
read, a folder, is unreadable. -/
def fileBytes (d : Disk) (path : String) : Except Fault (List Nat) :=
  match d.readBytes path with
  | .ok bs => .ok bs
  | .error .notFound => .error (fault path ("Settings file not found: " ++ path))
  | .error e => .error (unreadable path (e.fault path).message)

def fileText (path : String) (bytes : List Nat) : Except Fault String :=
  (Text.readText bytes).mapError fun e => unreadable path e.render

/-- The JSON object of a settings file's text, as its members; containers may nest `room`
deep, and deeper ones exhaust the reader itself. -/
def objectOf (room : Nat) (path text : String) : Except Fault (List (String × Value)) :=
  match Json.readWithin room text with
  | .ok (.record fs) => .ok fs
  | .ok _ => .error (fault path ("Settings file must contain a JSON object: " ++ path))
  | .error (.nesting c) =>
    .error (.system .recursion (some (.str ((Json.ReadError.nesting c).render text))))
  | .error e => .error (unreadable path (e.render text))

def readObject (room : Nat) (d : Disk) (path : String) : Except Fault (List (String × Value)) := do
  objectOf room path (← fileText path (← fileBytes d path))

def resolveDir (d : Disk) (path dir : String) : Except Errno String := do
  d.resolve (Path.join (Path.dirname (← d.resolve path)) dir)

/-- The members with a catalog directory that is a text, not blank, trimmed and resolved. -/
def withDir (d : Disk) (path : String) (fs : List (String × Value)) :
    Except Fault (List (String × Value)) :=
  match Table.lookup fs "catalog_dir" with
  | some (.str dir) =>
    let dir := Text.trim dir
    if dir.isEmpty then .ok fs
    else match resolveDir d path dir with
      | .ok r => .ok (Table.assign fs "catalog_dir" (.str r))
      | .error e => .error (e.fault dir)
  | _ => .ok fs

/-- Reads the settings of the file at `path` afresh, containers nesting at most `room` deep:
the object, its catalog directory resolved, read as settings. -/
def readSettings (room : Nat) (d : Disk) (path : String) : Except Fault Settings := do
  let fs ← withDir d path (← readObject room d path)
  match Settings.ofFields fs with
  | .ok s => pure s
  | .error is => throw (invalidSettings path is)

/-- What the path of a settings file names: a path where nothing lies is not found, and any
other failure of the look-up is the system's own. -/
def nodeOf (d : Disk) (path : String) : Except Fault Node :=
  match d.stat path with
  | .ok n => .ok n
  | .error .notFound => .error (fault path ("Settings file not found: " ++ path))
  | .error e => .error (e.fault path)

/-- The settings kept, when the node has the stamp kept with them. -/
def cachedFor (f : SettingsFile) (n : Node) : Option Settings :=
  match f.kept, stampOf n with
  | some (st, s), some st' => if st = st' then some s else none
  | _, _ => none

/-- Loads the settings: those kept when the file is unchanged, otherwise read afresh with
containers nesting at most `room` deep. Gives the settings, the file with what it keeps now,
and whether the kept settings were given. -/
def loadWithin (room : Nat) (d : Disk) (f : SettingsFile) :
    Except Fault (Settings × SettingsFile × Bool) := do
  let node ← nodeOf d f.path
  match f.cachedFor node with
  | some s => pure (s, f, true)
  | none =>
    let s ← readSettings room d f.path
    pure (s, { f with kept := (stampOf node).map fun st => (st, s) }, false)

/-- Loads the settings from the top of the interpreter's calls. -/
def load (d : Disk) (f : SettingsFile) : Except Fault (Settings × SettingsFile × Bool) :=
  loadWithin Json.maxNesting d f

theorem load_cached (d : Disk) (f : SettingsFile) {n : Node} {st : Stamp} {s : Settings}
    (hn : d.stat f.path = .ok n) (hk : f.kept = some (st, s)) (hs : stampOf n = some st) :
    f.load d = .ok (s, f, true) := by
  have hnode : nodeOf d f.path = .ok n := by simp only [nodeOf, hn]
  have hc : f.cachedFor n = some s := by simp only [cachedFor, hk, hs, if_true]
  simp only [load, loadWithin, hnode, hc, bind, Except.bind, pure, Except.pure]

end SettingsFile

end Phrasebook
