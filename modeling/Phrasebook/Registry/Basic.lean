import Phrasebook.Catalog.Basic
import Phrasebook.Fallback
import Phrasebook.Fault.Given
import Phrasebook.Log.Journal
import Phrasebook.Effect

/-!
The registry: every loaded catalog, one per locale, with the fallback configuration, a version
and whether it has been torn down.

A registry value is also a snapshot: operations never change a value, they give a new one, so
a snapshot taken earlier stays valid after later reloads and after teardown.

A lookup walks the requested locale's chain (`Locale.chainOf` of the locale and its
effective fallbacks) and answers from the first locale whose catalog has the key; locales
without a catalog are passed over but stay in the chain a miss reports.

Locales and keys are given as values, as a caller may give any. The catalogs are kept under
their locales as a mapping keeps keys (`Mapping`); a locale or key that cannot be a key fails
where the mapping is first asked, a key that is no text is in no catalog, and a miss joins
the chain as texts (`Fault.messageNotFoundOf`). Reading a source that is no text fails
outright, and only a parse fault of a source counts as a failure to load.

Main statements: `resolve_ok_of_firstHit` and `resolve_error_of_firstHit` say that a lookup
answers with the first hit of the chain, or fails naming the whole chain.
-/

namespace Phrasebook

/-- The outcome of a successful lookup. -/
structure Resolution where
  key : Value
  text : String
  /-- The locale whose catalog gave the text. -/
  locale : Value
  /-- The locale asked for. -/
  requested : Value
deriving Inhabited, BEq, Repr

def Resolution.fallbackUsed (r : Resolution) : Bool := !r.locale.equals r.requested

/-- A registry state, which is also a snapshot of it. -/
structure Registry where
  stores : Mapping Catalog
  fallback : Fallback
  version : Nat := 0
  closed : Bool := false
deriving Inhabited, Repr

/-- Computations that write to the journal and may fail with a fault. -/
abbrev Act := ExceptT Fault (StateM Log.Journal)

def say (level : Log.Level) (domain action : String) (fields : List (String × Value)) : Act Unit :=
  modify fun j => j.announce level ⟨domain, action, none, fields⟩

namespace Registry

/-- The first locale of a chain whose catalog has the key, with the key's text. Only a
catalog that is asked finds out that a key cannot be one. -/
def firstHit (stores : Mapping Catalog) (key : Value) :
    List Value → Except Fault (Option (Value × String))
  | [] => .ok none
  | l :: ls =>
    match stores.get? l with
    | none => firstHit stores key ls
    | some c =>
      match key with
      | .str k =>
        match c.get? k with
        | some t => .ok (some (l, t))
        | none => firstHit stores key ls
      | _ =>
        match key.unhashable? with
        | some f => .error f
        | none => firstHit stores key ls

/-- The chain a lookup for a locale walks. -/
def chainFor (r : Registry) (locale : Value) : Except Fault (List Value) := do
  Locale.chainOf locale ((← r.fallback.fallbacksOf locale).map .str)

/-- Looks a key up through the chain of a locale, in this snapshot. -/
def resolve (r : Registry) (locale key : Value) : Except Fault Resolution := do
  let chain ← r.chainFor locale
  match ← firstHit r.stores key chain with
  | some (l, t) => pure ⟨key, t, l, locale⟩
  | none => throw (← Fault.messageNotFoundOf key (.list chain))

def closedFault : Fault := .closed "Catalog registry has been torn down" []

def current (r : Registry) : Act Registry :=
  if r.closed then throw closedFault else pure r

def parseFault (f : Fault) : Bool := f.category == "parse"

/-- Reads each source in order into its catalog or its parse fault; any other fault stops the
reading at once. -/
def readAll : List (Value × Value) → Except Fault (List (Value × Except Fault Catalog))
  | [] => .ok []
  | (l, src) :: rest =>
    match Catalog.read src l with
    | .ok c => (readAll rest).map ((l, .ok c) :: ·)
    | .error f =>
      if parseFault f then (readAll rest).map ((l, .error f) :: ·) else .error f

/-- Builds a registry from source texts, one per locale: every source must read, or the
build fails as a whole with every failure named, in source order. -/
def ofSources (sources : List (Value × Value)) (fb : Fallback) : Act Registry := do
  let read ← orFail (readAll sources)
  let failures := read.filterMap fun p => match p.2 with
    | .error f => some (p.1, f)
    | .ok _ => none
  if failures.isEmpty then
    let stores : Mapping Catalog := read.foldl (fun m p => match p.2 with
      | .ok c => m.set p.1 c
      | .error _ => m) {}
    say .info "registry" "init_ok" [("locale_count", .int stores.size),
      ("entry_count", .int ((stores.values.map Catalog.size).foldr Nat.add 0 : Nat))]
    pure ⟨stores, fb, 1, false⟩
  else
    let fault ← orFail (Fault.aggregateOf failures)
    let locales := match fault with
      | .aggregate fs => Fault.failedLocales fs
      | _ => []
    say .error "registry" "init_failed" [("failed", .int failures.length),
      ("locales", .str (", ".intercalate locales))]
    for p in failures do
      modify fun j => j.fault (.str "Catalog failed to load") p.2 [("locale", p.1)]
    throw fault

/-- Builds a registry from source texts named by text locales. -/
def ofTexts (sources : Table String) (fb : Fallback) : Act Registry :=
  ofSources (sources.entries.map fun p => (.str p.1, .str p.2)) fb

def locales (r : Registry) : Act (List Value) := do
  let r ← r.current
  orFail r.stores.sortedKeys

/-- The catalog of a locale. -/
def catalog (r : Registry) (locale : Value) : Act Catalog := do
  let r ← r.current
  match ← orFail (r.stores.find? locale) with
  | some c => pure c
  | none => throw (.unknownLocale locale)

/-- Reads the new source of a reload into its catalog; a source that does not parse is
announced and reported before the reload fails. -/
def parseReload (locale src : Value) : Act Catalog :=
  match Catalog.read src locale with
  | .error f => do
    if parseFault f then
      say .error "registry" "reload_failed" [("locale", locale), ("error", .str f.message)]
      modify fun j => j.fault (.str "Catalog reload rejected") f [("locale", locale)]
    throw f
  | .ok c => pure c

/-- The writer's step of a reload, made under the registry's lock: takes the snapshot the
reference holds now, refusing a closed one, and gives a new snapshot on it where the locale has
the catalog, one version on. -/
def publish (r : Registry) (locale : Value) (c : Catalog) : Act (Catalog × Registry) := do
  let r ← r.current
  let before ← orFail (r.stores.find? locale)
  let r' := { r with stores := r.stores.set locale c, version := r.version + 1 }
  say .info "registry" (if before.isSome then "reload_ok" else "locale_added")
    [("locale", locale), ("entry_count", .int c.size), ("version", .int r'.version)]
  pure (c, r')

/-- Replaces or adds one locale's catalog, read from a new source; the other locales keep
theirs. A source that does not parse leaves the registry as it was. The registry is checked
open before the source is read, and taken again when the catalog is published. -/
def reload (r : Registry) (locale src : Value) : Act (Catalog × Registry) := do
  let _ ← r.current
  let c ← parseReload locale src
  r.publish locale c

/-- Looks a key up for a locale; a fallback answer is announced at debug severity. -/
def lookup (r : Registry) (locale key : Value) : Act Resolution := do
  let r ← r.current
  let res ← orFail (r.resolve locale key)
  if res.fallbackUsed then
    say .debug "lookup" "fallback_used" [("locale", locale), ("key", key),
      ("resolved_locale", res.locale)]
  pure res

/-- The text of a key for a locale; a miss is announced, counted, and answered with the
default, which may be any value, or else the key itself. -/
def lookupText (r : Registry) (locale key : Value) (default : Option Value) : Act Value :=
  tryCatch ((Value.str ·.text) <$> r.lookup locale key) fun f =>
    match f with
    | .messageNotFound _ chain => do
      say .warning "lookup" "not_found" [("locale", locale), ("key", key),
        ("chain", .str (" -> ".intercalate chain))]
      modify fun j => j.incident "lookup" (.str ("Missing subtitle " ++ key.literal)) none
        [("locale", locale), ("chain", .str (",".intercalate chain))] .debug
      pure (default.getD key)
    | f => throw f

/-- The keys of a catalog that another lacks, in code-point order. -/
def missing (ref c : Catalog) : List String :=
  ref.sortedKeys.filter fun k => (c.get? k).isNone

/-- The keys of a reference catalog that the catalog of a locale lacks; a locale without a
catalog lacks none. -/
def gap (stores : Mapping Catalog) (ref : Catalog) (l : Value) : List String :=
  match stores.get? l with
  | some c => missing ref c
  | none => []

/-- The keys of the reference locale that each other locale lacks, locales in the runtime's
order; every gap is announced, and a report without gaps is announced as complete. -/
def coverage (r : Registry) (reference : Value) : Act (List (Value × List String)) := do
  let r ← r.current
  match ← orFail (r.stores.find? reference) with
  | none => throw (.unknownLocale reference)
  | some ref =>
    let locales ← orFail r.stores.sortedKeys
    let report := (locales.filter fun l => !l.equals reference).map fun l =>
      (l, gap r.stores ref l)
    for p in report do
      if !p.2.isEmpty then
        say .warning "coverage" "gap" [("locale", p.1), ("missing", .int p.2.length),
          ("reference", reference)]
    if report.all (·.2.isEmpty) then
      say .info "coverage" "complete" [("reference", reference),
        ("locale_count", .int report.length)]
    pure report

/-- Drops every catalog and closes the registry; a closed registry stays as it is. -/
def teardown (r : Registry) : Act Registry :=
  if r.closed then pure r
  else do
    say .info "registry" "teardown" [("locale_count", .int r.stores.size)]
    pure { r with stores := {}, version := r.version + 1, closed := true }

theorem resolve_ok_of_firstHit {r : Registry} {locale key l : Value} {t : String}
    {chain : List Value} (hc : r.chainFor locale = .ok chain)
    (h : firstHit r.stores key chain = .ok (some (l, t))) :
    r.resolve locale key = .ok ⟨key, t, l, locale⟩ := by
  simp [resolve, hc, h, bind, Except.bind, pure, Except.pure]

theorem resolve_error_of_firstHit {r : Registry} {locale key : Value} {chain : List Value}
    {f : Fault} (hc : r.chainFor locale = .ok chain) (h : firstHit r.stores key chain = .ok none)
    (hm : Fault.messageNotFoundOf key (.list chain) = .ok f) :
    r.resolve locale key = .error f := by
  simp [resolve, hc, h, hm, bind, Except.bind, throw, throwThe, MonadExceptOf.throw]

end Registry

end Phrasebook
