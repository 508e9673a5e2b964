import Phrasebook.Registry.Session
import Phrasebook.Source.Gather

/-!
Watching a catalog folder: file events reload the locale of the file that changed.

An event concerns a path, read from the scratch directory. Only a path that lies directly in
the watched folder and names a locale there is handled. A written file (modified, created, or
moved into place) is reloaded when its modification time, in seconds as the system reports it
(a double), is later than the last one handled for that path, none at first, so that a time of
zero or less is never handled. A reload reads
the file and hands its text to the registry; a file that cannot be read or parsed, or a
registry torn down, leaves the old catalog in service and is announced as rejected. A removed
file is only announced: its last catalog stays.

The watcher is started only on a folder that exists, and starting or stopping it twice is
the same as once. A watcher can also be started anew from an event loop of its own: the loop
announces its selector at debug level, and a new watcher of the same folder, not yet
running, is started in place of the old one, which is left as it was.

`onEvent_outside`: an event about a path outside the folder changes nothing.
-/

namespace Phrasebook

/-- A file event, as a folder watcher reports it. -/
inductive FileEvent where
  | modified (path : String)
  | created (path : String)
  | moved (src : String) (dest : Option String)
  | deleted (path : String)
deriving Inhabited, Repr

namespace FileEvent

/-- The path an event concerns: a move concerns where the file went, when that is given. -/
def target : FileEvent → String
  | .modified p | .created p | .deleted p => p
  | .moved src dest =>
    match dest with
    | some d => if d.isEmpty then src else d
    | none => src

end FileEvent

/-- A watcher of a catalog folder: the folder, the suffix of its catalog files, whether it
runs, and the last modification time handled for each path. -/
structure Watcher where
  folder : String
  suffix : String
  running : Bool := false
  handled : Table Rat := Table.empty
deriving Inhabited

namespace Watcher

def watching (d : Disk) (dir suffix : String) : Watcher :=
  { folder := d.absolute dir, suffix }

def localeIn (w : Watcher) (path : String) : Option String :=
  if Path.dirname path = w.folder then Source.localeOf path w.suffix else none

/-- The modification time of what a path names, in seconds as the system reports it. A missing
path has none; any other failure is the system's. -/
def modifiedAt (d : Disk) (path : String) : Except Fault (Option Rat) :=
  match d.mtime path with
  | .ok t => .ok (some (Disk.seconds t))
  | .error .notFound => .ok none
  | .error e => .error (e.fault path)

/-- The watcher after handling a path, when the path's time is later than the last one
handled for it. -/
def advance (w : Watcher) (d : Disk) (path : String) : Except Fault (Option Watcher) := do
  match ← modifiedAt d path with
  | none => pure none
  | some t =>
    if t ≤ (w.handled.get? path).getD 0 then pure none
    else pure (some { w with handled := w.handled.set path t })

/-- Reloads a locale from a file, both given as values. A file that cannot be read or parsed,
or a registry that refuses, keeps the old catalog and is announced as rejected; a failure of
the system itself is passed on, and a path that is no text is no path. -/
def reloadFrom (d : Disk) (r : Registry) (locale path : Value) : Act Registry := do
  say .info "watch" "reload_triggered" [("locale", locale), ("path", path)]
  let attempt : Act Registry := do
    let text ← match path with
      | .str p => orFail (Source.readFile d p)
      | v => throw (.system .type (some (.str
          ("expected str, bytes or os.PathLike object, not " ++ v.kindName))))
    let (_, r') ← r.reload locale (.str text)
    pure r'
  tryCatch attempt fun f => do
    if !f.isOwn then throw f
    say .error "watch" "reload_rejected" [("locale", locale), ("error", .str f.message)]
    pure r

/-- Handles an event that wrote the file of a locale: the watcher moves past the file's time,
when it is later, and the locale is reloaded from the file. -/
def handleWritten (w : Watcher) (d : Disk) (r : Registry) (l path : String) :
    Act (Watcher × Registry) := do
  match ← orFail (w.advance d path) with
  | none => pure (w, r)
  | some w' => pure (w', ← reloadFrom d r (.str l) (.str path))

/-- Handles a file event. -/
def onEvent (w : Watcher) (d : Disk) (r : Registry) (e : FileEvent) :
    Act (Watcher × Registry) := do
  let path := d.absolute e.target
  match w.localeIn path, e with
  | none, _ => pure (w, r)
  | some l, .deleted _ =>
    say .warning "watch" "file_removed" [("locale", .str l), ("path", .str path)]
    pure (w, r)
  | some l, _ => w.handleWritten d r l path

/-- Starts watching, when the folder exists. -/
def start (w : Watcher) (d : Disk) : Act Watcher := do
  if w.running then pure w
  else if !d.isFolder w.folder then
    say .warning "watch" "dir_missing" [("path", .str w.folder)]
    pure w
  else
    say .info "watch" "start" [("path", .str w.folder)]
    pure { w with running := true }

/-- Stops watching. -/
def stop (w : Watcher) : Act Watcher := do
  if w.running then
    say .info "watch" "stopped" []
    pure { w with running := false }
  else pure w

theorem onEvent_outside (w : Watcher) (d : Disk) (r : Registry) (e : FileEvent)
    (h : w.localeIn (d.absolute e.target) = none) :
    w.onEvent d r e = pure (w, r) := by
  unfold onEvent
  simp only [h]

end Watcher

/-- What a watched registry can be asked to do. -/
inductive WatchStep where
  | session (c : Registry.Command)
  | write (name : String) (bytes : List Nat) (mtime : Option Int)
  | remove (name : String)
  | event (e : FileEvent)
  | changed (locale path : Value)
  | start
  /-- Starts a new watcher of the same folder from an event loop of its own. -/
  | startAnew
  | stop
deriving Inhabited

/-- What a step of a watched registry answers. -/
inductive WatchReply where
  | session (r : Registry.Reply)
  | nothing
  /-- Whether the watcher runs. -/
  | status (running : Bool)

/-- A registry session beside the disk and a watcher of its catalog folder. -/
structure Watch where
  session : Registry.Session
  disk : Disk
  watcher : Watcher
deriving Inhabited

namespace Watch

/-- Runs one step. -/
def step (s : Watch) : WatchStep → Act (WatchReply × Watch)
  | .session c => do
    let (reply, session) ← s.session.step c
    pure (.session reply, { s with session })
  | .write name bytes mtime => pure (.nothing, { s with disk := s.disk.write name bytes mtime })
  | .remove name => pure (.nothing, { s with disk := s.disk.remove name })
  | .event e => do
    let (watcher, r) ← s.watcher.onEvent s.disk s.session.registry e
    pure (.nothing, { s with watcher, session := { s.session with registry := r } })
  | .changed l path => do
    let r ← Watcher.reloadFrom s.disk s.session.registry l path
    pure (.nothing, { s with session := { s.session with registry := r } })
  | .start => do
    let watcher ← s.watcher.start s.disk
    pure (.status watcher.running, { s with watcher })
  | .startAnew => do
    modify fun j => j.write ⟨.debug, "Using selector: EpollSelector"⟩
    let watcher ← { s.watcher with running := false }.start s.disk
    pure (.status watcher.running, { s with watcher })
  | .stop => do
    let watcher ← s.watcher.stop
    pure (.status watcher.running, { s with watcher })

end Watch

end Phrasebook
