import Phrasebook.Value
import Phrasebook.Table

/-!
Faults: every cause for which an operation of the library can fail, and the failures of
the world around it that the library passes on or reports.

A fault has a message, a class name, a category (`Fault.category`, the first that applies
of parse, load, lookup, source, config, internal and unknown) and, for the library's own
faults, a record of data. The message of each fault is written in one place,
`Fault.message`.

Main statements: `category_eq_parse_iff` says which faults are parse faults, and
`message_aggregate` how the message of a failed load is put together.
-/

namespace Phrasebook

/-- What went wrong in a settings document: the rule's kind, where, and what it says. -/
structure Issue where
  kind : String
  loc : List String
  msg : String
deriving Inhabited, BEq, Repr

def Issue.toValue (i : Issue) : Value :=
  .record [("type", .str i.kind), ("loc", .ofStrings i.loc), ("msg", .str i.msg)]

/-- The three kinds of source fault: any source, a local file, a download. -/
inductive SourceKind where
  | any
  | read
  | fetch
deriving Inhabited, BEq, DecidableEq, Repr

/-- Failures of the HTTP transport: any client failure, a connection failure, a broken
payload, and a server that did not answer in time (which is also a timeout). -/
inductive TransportKind where
  | client
  | connection
  | payload
  | serverTimeout
deriving Inhabited, BEq, DecidableEq, Repr

/-- Failures of the system around the library. -/
inductive SystemKind where
  | exception
  | os
  | fileNotFound
  | timeout
  | value
  | key
  | runtime
  | lookup
  | type
  | notADirectory
  | isADirectory
  | recursion
  | attribute
  | unicodeEncode
deriving Inhabited, BEq, DecidableEq, Repr

/-- A fault. -/
inductive Fault where
  /-- A catalog line that is neither blank, a comment nor `key = text`: its number, its text,
  and the catalog's locale (null when unknown). -/
  | malformedLine (line content locale : Value)
  /-- A key defined on two lines of one catalog. -/
  | duplicateKey (key firstLine secondLine locale : Value)
  /-- Any other parse fault, with extra data laid over `line` and `locale`. -/
  | parse (message : String) (line locale : Value) (extra : List (String × Value))
  /-- Some catalogs failed to load: each locale with its fault, in source order. -/
  | aggregate (failures : List (String × Fault))
  /-- No catalog of the chain has the key. -/
  | messageNotFound (key : Value) (chain : List String)
  /-- The locale has no catalog. -/
  | unknownLocale (locale : Value)
  /-- The registry was used after teardown. -/
  | closed (message : String) (data : List (String × Value))
  /-- A fault of the library of no more particular kind. -/
  | general (message : String) (data : List (String × Value))
  /-- Obtaining a source text failed. -/
  | source (kind : SourceKind) (message : String) (data : List (String × Value))
  /-- The settings are missing or invalid. -/
  | configuration (message : String) (data : List (String × Value))
  /-- The HTTP transport failed, with the value it was raised with, if any. -/
  | transport (kind : TransportKind) (arg : Option Value)
  /-- The system failed, with the value it was raised with, if any. -/
  | system (kind : SystemKind) (arg : Option Value)
  /-- A settings document broke these rules. -/
  | invalid (issues : List Issue)
deriving Inhabited, Repr

/-- The class name of a system fault. -/
def SystemKind.name : SystemKind → String
  | .exception => "Exception"
  | .os => "OSError"
  | .fileNotFound => "FileNotFoundError"
  | .timeout => "TimeoutError"
  | .value => "ValueError"
  | .key => "KeyError"
  | .runtime => "RuntimeError"
  | .lookup => "LookupError"
  | .type => "TypeError"
  | .notADirectory => "NotADirectoryError"
  | .isADirectory => "IsADirectoryError"
  | .recursion => "RecursionError"
  | .attribute => "AttributeError"
  | .unicodeEncode => "UnicodeEncodeError"

/-- The class name of a transport fault. -/
def TransportKind.name : TransportKind → String
  | .client => "ClientError"
  | .connection => "ClientConnectionError"
  | .payload => "ClientPayloadError"
  | .serverTimeout => "ServerTimeoutError"

def SourceKind.name : SourceKind → String
  | .any => "SourceError"
  | .read => "SourceReadError"
  | .fetch => "SourceFetchError"

namespace Fault

/-- The fault of asking a value for an attribute its kind lacks. -/
def noAttribute (v : Value) (attr : String) : Fault :=
  .system .attribute (some (.str ("'" ++ v.kindName ++ "' object has no attribute '" ++ attr ++
    "'")))

/-- The class name of a fault. -/
def className : Fault → String
  | .malformedLine .. => "MalformedLineError"
  | .duplicateKey .. => "DuplicateKeyError"
  | .parse .. => "ParseError"
  | .aggregate .. => "AggregateLoadError"
  | .messageNotFound .. => "MessageNotFoundError"
  | .unknownLocale .. => "UnknownLocaleError"
  | .closed .. => "RegistryClosedError"
  | .general .. => "CatalogError"
  | .source k .. => k.name
  | .configuration .. => "ConfigurationError"
  | .transport k .. => k.name
  | .system k .. => k.name
  | .invalid .. => "ValidationError"

/-- The phrase naming the locale of a parse fault: empty without a locale that counts as
true. -/
def localePhrase (l : Value) : String :=
  if l.truthy then " in locale '" ++ l.display ++ "'" else ""

def failedLocales (failures : List (String × Fault)) : List String :=
  (failures.map (·.1)).eraseDups.mergeSort Text.precedes

/-- The message of a system fault: the value it was raised with as text, where a key failure
shows its key as a literal; empty when raised with none. -/
def systemMessage : SystemKind → Option Value → String
  | .key, some v => v.literal
  | _, some v => v.display
  | _, none => ""

mutual

/-- The message of a fault. -/
def message : Fault → String
  | .malformedLine n raw loc =>
    "Malformed catalog line " ++ n.display ++ localePhrase loc ++ ": " ++ raw.literal
  | .duplicateKey key a b loc =>
    "Duplicate key " ++ key.literal ++ localePhrase loc ++ ": first defined on line " ++
      a.display ++ ", again on line " ++ b.display
  | .parse m .. => m
  | .aggregate failures =>
    toString failures.length ++ " catalog(s) failed to load (" ++
      ", ".intercalate (failedLocales failures) ++ "): " ++
      "; ".intercalate (failureLines failures)
  | .messageNotFound key chain =>
    "Message " ++ key.literal ++ " not found in any of: " ++ " -> ".intercalate chain
  | .unknownLocale l => "Locale " ++ l.literal ++ " is not loaded"
  | .closed m _ => m
  | .general m _ => m
  | .source _ m _ => m
  | .configuration m _ => m
  | .transport _ m => (m.map Value.display).getD ""
  | .system k m => systemMessage k m
  | .invalid issues => toString issues.length ++ " validation error(s)"

def failureLines : List (String × Fault) → List String
  | [] => []
  | (l, f) :: rest => ("[" ++ l ++ "] " ++ message f) :: failureLines rest

end

theorem failureLines_eq_map (fs : List (String × Fault)) :
    failureLines fs = fs.map fun p => "[" ++ p.1 ++ "] " ++ p.2.message := by
  induction fs with
  | nil => simp [failureLines]
  | cons p rest ih => simp [failureLines, ih]

theorem message_aggregate (fs : List (String × Fault)) :
    (Fault.aggregate fs).message = toString fs.length ++ " catalog(s) failed to load (" ++
      ", ".intercalate (failedLocales fs) ++ "): " ++
      "; ".intercalate (fs.map fun p => "[" ++ p.1 ++ "] " ++ p.2.message) := by
  rw [← failureLines_eq_map]; rfl

@[simp] theorem message_source (k : SourceKind) (m : String) (d : List (String × Value)) :
    (Fault.source k m d).message = m := rfl

/-- Whether a fault is one of the library's own, rather than a failure of the world around
it or a broken settings document. -/
def isOwn : Fault → Bool
  | .transport .. | .system .. | .invalid .. => false
  | _ => true

/-- The data of a fault of the library; other faults have none. -/
def data : Fault → Option (List (String × Value))
  | .malformedLine n raw loc => some [("line", n), ("locale", loc), ("content", raw)]
  | .duplicateKey key a b loc => some [("line", b), ("locale", loc), ("key", key), ("first_line", a)]
  | .parse _ n loc extra =>
    some (extra.foldl (fun t p => Table.assign t p.1 p.2) [("line", n), ("locale", loc)])
  | .aggregate failures => some [("locales", .ofStrings (failedLocales failures))]
  | .messageNotFound key chain => some [("key", key), ("attempted_chain", .ofStrings chain)]
  | .unknownLocale l => some [("locale", l)]
  | .closed _ d | .general _ d | .source _ _ d | .configuration _ d => some d
  | .transport .. | .system .. | .invalid .. => none

/-- A fault as a record: its class and message, its data when it has some, and for a failed
load each locale's fault; a broken settings document lists its issues instead. -/
def toValue (f : Fault) : Value :=
  match f with
  | .invalid issues =>
    .record [("error", .str "ValidationError"), ("errors", .list (issues.map Issue.toValue))]
  | _ =>
    let dataPart := match f.data with
      | some d => [("data", .record d)]
      | none => []
    let failurePart := match f with
      | .aggregate failures =>
        [("errors", .list (failures.map fun p =>
          .record [("locale", .str p.1), ("error", .str p.2.className),
            ("message", .str p.2.message)]))]
      | _ => []
    .record ([("error", .str f.className), ("message", .str f.message)] ++ dataPart ++
      failurePart)

/-- The named facts a fault carries besides its message and data. -/
def facts : Fault → List (String × Value)
  | .malformedLine n raw loc => [("line", n), ("locale", loc), ("content", raw)]
  | .duplicateKey key a b loc =>
    [("line", b), ("locale", loc), ("key", key), ("first_line", a), ("second_line", b)]
  | .parse _ n loc _ => [("line", n), ("locale", loc)]
  | .aggregate failures => [("locales", .ofStrings (failedLocales failures))]
  | .messageNotFound key chain => [("key", key), ("attempted_chain", .ofStrings chain)]
  | .unknownLocale l => [("locale", l)]
  | _ => []

/-- Whether a fault is a timeout: a system timeout or a server that did not answer. -/
def isTimeout : Fault → Bool
  | .system .timeout _ | .transport .serverTimeout _ => true
  | _ => false

/-- Whether a fault is a failed lookup: a missing message, an unknown locale, or a system
lookup or key failure. -/
def isLookup : Fault → Bool
  | .messageNotFound .. | .unknownLocale .. | .system .lookup _ | .system .key _ => true
  | _ => false

/-- The category of a fault, under which incidents are counted. -/
def category : Fault → String
  | .malformedLine .. | .duplicateKey .. | .parse .. => "parse"
  | .aggregate .. => "load"
  | .messageNotFound .. | .unknownLocale .. => "lookup"
  | .source .. | .transport .. => "source"
  | .system .os _ | .system .fileNotFound _ | .system .timeout _ => "source"
  | .system .notADirectory _ | .system .isADirectory _ => "source"
  | .configuration .. => "config"
  | .closed .. | .general .. => "internal"
  | .system .. | .invalid .. => "unknown"

def IsParse : Fault → Prop
  | .malformedLine .. | .duplicateKey .. | .parse .. => True
  | _ => False

theorem category_eq_parse_iff (f : Fault) : f.category = "parse" ↔ f.IsParse := by
  cases f with
  | system k m => cases k <;> simp [category, IsParse]
  | _ => simp [category, IsParse]

end Fault

end Phrasebook
