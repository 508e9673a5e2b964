import Phrasebook.Proofs.TextLookup
import Phrasebook.Proofs.FallbackReading

/-!
Reports of faults: how a fault reported with a message is written and counted.

A fault belongs to classes: its own, and those above it, up to the root of all failures. Its
category is the first of parse, load, lookup, source, config and internal whose classes it
belongs to, and unknown when there is none (`category_eq_firstRule`). So a failed lookup that
is also one of the library's own faults counts as a lookup, and a download that timed out,
both a client failure and a system one, counts as a source fault.

The context of the report is the fault's data without null values, overlaid by the context
given: a key of both stays where the data has it and takes the given value, and the given
context's other keys follow, in their order (`keys_overlay`, `lookup_overlay`).

Main statement: `fault_reported_once`.
-/

namespace Phrasebook

/-! ### Categories, first match -/

/-- The classes of a failure of the system: its own and those above it, below the root of all
failures. -/
def SystemKind.classes : SystemKind → List String
  | .exception => []
  | .os => ["OSError"]
  | .fileNotFound => ["FileNotFoundError", "OSError"]
  | .timeout => ["TimeoutError", "OSError"]
  | .value => ["ValueError"]
  | .key => ["KeyError", "LookupError"]
  | .runtime => ["RuntimeError"]
  | .lookup => ["LookupError"]
  | .type => ["TypeError"]
  | .notADirectory => ["NotADirectoryError", "OSError"]
  | .isADirectory => ["IsADirectoryError", "OSError"]
  | .recursion => ["RecursionError", "RuntimeError"]
  | .attribute => ["AttributeError"]
  | .unicodeEncode => ["UnicodeEncodeError", "UnicodeError", "ValueError"]

/-- The classes of a failure of the HTTP transport. A server that does not answer in time is a
failed connection and a timeout at once. -/
def TransportKind.classes : TransportKind → List String
  | .client => ["ClientError"]
  | .connection => ["ClientConnectionError", "ClientError"]
  | .payload => ["ClientPayloadError", "ClientError"]
  | .serverTimeout => ["ServerTimeoutError", "ServerConnectionError", "ClientConnectionError",
      "ClientError", "TimeoutError", "OSError"]

namespace Fault

/-- The classes of a fault: its own and those above it. A missing message and an unknown
locale are failed lookups as well as faults of the library. -/
def classes : Fault → List String
  | .malformedLine .. => ["MalformedLineError", "ParseError", "CatalogError"]
  | .duplicateKey .. => ["DuplicateKeyError", "ParseError", "CatalogError"]
  | .parse .. => ["ParseError", "CatalogError"]
  | .aggregate .. => ["AggregateLoadError", "CatalogError"]
  | .messageNotFound .. => ["MessageNotFoundError", "CatalogError", "LookupError"]
  | .unknownLocale .. => ["UnknownLocaleError", "CatalogError", "LookupError"]
  | .closed .. => ["RegistryClosedError", "CatalogError"]
  | .general .. => ["CatalogError"]
  | .source .any .. => ["SourceError", "CatalogError"]
  | .source k .. => [k.name, "SourceError", "CatalogError"]
  | .configuration .. => ["ConfigurationError", "CatalogError"]
  | .transport k _ => k.classes
  | .system k _ => k.classes
  | .invalid _ => ["ValidationError", "ValueError"]

/-- The categories in the order they are tried, each with the classes that put a fault in it. -/
def categoryRules : List (String × List String) :=
  [("parse", ["ParseError"]), ("load", ["AggregateLoadError"]),
    ("lookup", ["MessageNotFoundError", "UnknownLocaleError"]),
    ("source", ["SourceError", "OSError", "ClientError"]), ("config", ["ConfigurationError"]),
    ("internal", ["CatalogError"])]

/-- The category of the first rule whose classes a fault belongs to, `unknown` when none. -/
def firstRule (f : Fault) : String :=
  ((categoryRules.find? fun r => r.2.any f.classes.contains).map Prod.fst).getD "unknown"

theorem category_eq_firstRule (f : Fault) : f.category = firstRule f := by
  cases f with
  | source k => cases k <;> rfl
  | transport k => cases k <;> rfl
  | system k => cases k <;> rfl
  | _ => rfl

end Fault

/-! ### The context of a report -/

namespace Table

variable {α : Type}

theorem lookup_overlay (base layer : List (String × α)) (k : String) :
    lookup (layer.foldl (fun acc p => assign acc p.1 p.2) base) k =
      (lookup layer.reverse k).or (lookup base k) := by
  induction layer using List.reverseRecOn with
  | nil => rfl
  | append_singleton layer p ih =>
    rw [List.foldl_append, List.foldl_cons, List.foldl_nil, List.reverse_append,
      List.reverse_singleton, List.singleton_append]
    by_cases hk : p.1 = k
    · subst hk
      simp [lookup_assign_self, lookup]
    · simp [lookup_assign_ne _ _ (Ne.symm hk), lookup, hk, ih]

theorem keys_overlay (base layer : List (String × α)) :
    (layer.foldl (fun acc p => assign acc p.1 p.2) base).map Prod.fst =
      base.map Prod.fst ++
        ((layer.map Prod.fst).eraseDups.filter fun k => k ∉ base.map Prod.fst) := by
  induction layer using List.reverseRecOn with
  | nil => simp
  | append_singleton layer p ih =>
    rw [List.foldl_append, List.foldl_cons, List.foldl_nil, keys_assign, ih, List.map_append,
      List.map_singleton, Locale.eraseDups_concat]
    -- a key the overlay gave before, or the base has, keeps its place; a new one goes last
    by_cases hlayer : p.1 ∈ layer.map Prod.fst
    · simp [hlayer]
    · by_cases hbase : p.1 ∈ base.map Prod.fst
      · simp [hlayer, hbase, List.filter_append]
      · simp [hlayer, hbase, List.filter_append]

end Table

namespace Log

/-- A fault reported with a message is written once and counted once. The record is written at
the severity given, whatever the logger's threshold, and reads `[CATEGORY] message: fault`,
then the fault's class and message, then, when the context is not empty, each of its keys
with the display of its value. The category is the first of parse, load, lookup, source,
config and internal whose classes the fault belongs to, else unknown. The incident, the
message and fault with the context, is appended last to its category's list, which keeps at
most the history limit; every other category is left alone. The context is the fault's data
without null values overlaid by the context given: the data's keys in their place, then the
given context's new keys in order, and at each key the value last given for it, else the
data's. -/
theorem fault_reported_once (j : Journal) (m : String) (f : Fault) (c : List (String × Value))
    (level : Level) :
    let data := (f.data.getD []).filter fun p => !p.2.isNull
    let ctx := Journal.faultContext f c
    let text := m ++ ": " ++ f.message
    let head := "[" ++ Text.upper f.firstRule ++ "] " ++ text ++ " | Exception: " ++ f.className ++
      ": " ++ f.message
    let j' := j.fault (.str m) f c level
    j'.records = j.records ++ [⟨level, if ctx = [] then head else head ++ " | Context: " ++
      " | ".intercalate (ctx.map fun p => p.1 ++ "=" ++ p.2.display)⟩] ∧
    j'.tally.under (.str f.firstRule) =
      Tally.trim Tally.historyLimit (j.tally.under (.str f.firstRule) ++ [⟨.str text, ctx⟩]) ∧
    (∀ other, other ≠ f.firstRule →
      j'.tally.under (.str other) = j.tally.under (.str other)) ∧
    ctx.map Prod.fst =
      data.map Prod.fst ++ ((c.map Prod.fst).eraseDups.filter fun k => k ∉ data.map Prod.fst) ∧
    ∀ k, Table.lookup ctx k = (Table.lookup c.reverse k).or (Table.lookup data k) := by
  intro data ctx text head j'
  have hcat := f.category_eq_firstRule
  refine ⟨?_, ?_, fun other hne => ?_, Table.keys_overlay data c,
    fun k => Table.lookup_overlay data c k⟩
  · -- the one record: the incident line of the fault's category
    show j.records ++ [⟨level, incidentLine f.category (.str text) (some f) ctx⟩] = _
    rw [hcat]
    cases hctx : ctx with
    | nil => rfl
    | cons p ps => rfl
  · rw [Journal.tally_fault, ← hcat, Tally.under_record_self]
    rfl
  · rw [← hcat] at hne
    show (j.fault (.str m) f c level).tally.under _ = _
    rw [Journal.tally_fault]
    exact Tally.under_record_ne _ (Ne.symm hne) _

/-- A repeated key reported as a failed catalog, as the engine's own test reports it, is a
parse fault, and the report counts nothing as a failed lookup. -/
theorem fault_reported_once_duplicate :
    let f := Fault.duplicateKey (.str "subtitle-owl") (.int 1) (.int 3) (.str "cs")
    f.firstRule = "parse" ∧ "lookup" ≠ f.firstRule ∧
      ((({} : Journal).fault (.str "Catalog failed") f [] .error).tally.under (.str "lookup")) =
        ({} : Journal).tally.under (.str "lookup") := by
  intro f
  have hparse : f.firstRule = "parse" := rfl
  have hne : "lookup" ≠ f.firstRule := by rw [hparse]; decide
  exact ⟨hparse, hne, (fault_reported_once {} "Catalog failed" f [] .error).2.2.1 "lookup" hne⟩

end Log

end Phrasebook
