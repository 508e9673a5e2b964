import Phrasebook.Registry.Basic

/-!
Registry sessions: a registry driven by a script of commands, with named snapshots.

Each command reads or changes the registry and gives a reply, or fails with a fault; a failed
command leaves the session as it was, though what it wrote to the journal stays. A snapshot
saved under a name can be looked up in later, whatever happened to the registry since; a
name is any value that can be a key, and a name never saved is a missing key.

A script of commands runs them one after another, as a caller who catches every fault does:
a command that fails leaves the session to the next one as it found it.

`step_closed_locales`: a closed registry refuses to list its locales.
-/

namespace Phrasebook.Registry

/-- What a session can be asked to do; locales, keys and names are given as values. -/
inductive Command where
  | lookup (locale key : Value)
  | lookupText (locale key : Value) (default : Option Value)
  | resolve (locale key : Value)
  | saveSnapshot (name : Value)
  | resolveSnapshot (name locale key : Value)
  | reload (locale source : Value)
  | coverage (reference : Value)
  | teardown
  | chainFor (locale : Value)
  | locales
  | catalog (locale : Value)
  | store (locale key : Value)
  | closed
  | fallback
  | errors
deriving Inhabited, Repr

/-- What a command answers. -/
inductive Reply where
  | resolution (r : Resolution)
  | text (v : Value)
  | snapshot (r : Registry)
  | reloaded (locale : Value) (c : Catalog)
  | coverage (report : List (Value × List String))
  | nothing
  | chain (locales : List Value)
  | locales (locales : List Value)
  | catalog (c : Catalog)
  /-- The store of a locale, when loaded, asked about a key that can be one. -/
  | store (locale key : Value) (c : Option Catalog)
  | flag (b : Bool)
  | fallback (fb : Fallback)
  | tally (t : Log.Tally)
deriving Inhabited

/-- A registry with its named snapshots. -/
structure Session where
  registry : Registry
  saved : Mapping Registry := {}
deriving Inhabited

/-- Runs one command. -/
def Session.step (s : Session) : Command → Act (Reply × Session)
  | .lookup l k => do return (.resolution (← s.registry.lookup l k), s)
  | .lookupText l k d => do return (.text (← s.registry.lookupText l k d), s)
  | .resolve l k => do
    let r ← s.registry.current
    return (.resolution (← orFail (r.resolve l k)), s)
  | .saveSnapshot name => do
    let r ← s.registry.current
    let _ ← orFail (s.saved.find? name)
    return (.snapshot r, { s with saved := s.saved.set name r })
  | .resolveSnapshot name l k => do
    match ← orFail (s.saved.find? name) with
    | some r => return (.resolution (← orFail (r.resolve l k)), s)
    | none => throw (.system .key (some name))
  | .reload l src => do
    let (c, r) ← s.registry.reload l src
    return (.reloaded l c, { s with registry := r })
  | .coverage ref => do return (.coverage (← s.registry.coverage ref), s)
  | .teardown => do return (.nothing, { s with registry := ← s.registry.teardown })
  | .chainFor l => do
    let r ← s.registry.current
    return (.chain (← orFail (r.chainFor l)), s)
  | .locales => do return (.locales (← s.registry.locales), s)
  | .catalog l => do return (.catalog (← s.registry.catalog l), s)
  | .store l k => do
    let r ← s.registry.current
    let c ← orFail (r.stores.find? l)
    if c.isSome then
      if let some f := k.unhashable? then throw f
    return (.store l k c, s)
  | .closed => pure (.flag s.registry.closed, s)
  | .fallback => do
    let r ← s.registry.current
    return (.fallback r.fallback, s)
  | .errors => do return (.tally (← get).tally, s)

/-- Runs one command as a caller who catches its fault: the session it leaves on success, and
the session as it was when it fails. -/
def Session.attempt (s : Session) (c : Command) :
    StateM Log.Journal (Except Fault Reply × Session) := fun j =>
    match (s.step c).run.run j with
    | (.ok (reply, s'), j') => ((.ok reply, s'), j')
    | (.error f, j') => ((.error f, s), j')

/-- Runs a script of commands in order, each attempted on the session the ones before it left,
with each command's reply or fault. -/
def Session.runScript (s : Session) : List Command →
    StateM Log.Journal (List (Except Fault Reply) × Session)
  | [] => pure ([], s)
  | c :: cs => do
    let (out, s') ← s.attempt c
    let (outs, s'') ← s'.runScript cs
    pure (out :: outs, s'')

theorem step_closed_locales (s : Session) (h : s.registry.closed = true) (j : Log.Journal) :
    ((s.step .locales).run j).1 = .error Registry.closedFault := by
  simp [Session.step, Registry.locales, Registry.current, h, ExceptT.run, bind, ExceptT.bind,
    ExceptT.mk, throw, throwThe, MonadExceptOf.throw, pure, ExceptT.pure]
  rfl

end Phrasebook.Registry
