import Phrasebook.Text.Chars
import Phrasebook.Mapping
import Phrasebook.Table
import Phrasebook.Fault

/-!
Locales, fallback chains, and the fallback configuration: where a lookup goes when the
requested locale lacks a key.

A locale tag is any text; as a setting it is trimmed and must not be blank. A lookup for a
locale walks a chain: the locale itself, then its fallbacks, each locale once, at its first
place. A locale given as a value is kept once as a mapping keeps a key (`Value.sameKey`), so it
must be able to be a key (`chainOf`); the fallbacks may then be any value that can be gone
through (`buildChain`).

A configuration has a default locale (`en` unless set; none disables it) and a chain of
fallbacks per locale. The effective fallbacks of a locale are its chain followed by the
default locale, each once, without the locale itself.

A configuration is read from a record, or from any value made a mapping first (`ofValue`). The
default locale must be a text that is not blank once trimmed. The chains must be a record;
each chain is a list of locales or one locale, trimmed, not blank, each kept once at its first
place. The chain members are checked before the locale that owns them, and the first broken
chain ends the reading of the chains. Two locales that are the same once trimmed keep the
later chain. Both members are checked, each refusal an issue at the member's place.

Main statement: `fallbacks_not_mem`: a locale is never among its own fallbacks.
-/

namespace Phrasebook.Locale

def chain (requested : String) (fallback : List String) : List String :=
  (requested :: fallback).eraseDups

/-- A locale tag read from a setting: a text, trimmed, not blank. The refusal says why. -/
def normalize : Value → Except String String
  | .str s =>
    let t := Text.trim s
    if t.isEmpty then .error "locale must not be empty" else .ok t
  | _ => .error "locale must be a string"

/-- The chain walked for a locale given as a value: the locale, then `fallback`, each once at
its first place, as keys of a mapping; every member must be able to be a key. -/
def chainOf (requested : Value) (fallback : List Value) : Except Fault (List Value) :=
  (requested :: fallback).foldlM (fun acc v =>
    match v.unhashable? with
    | some f => .error f
    | none => .ok (if acc.any (·.sameKey v) then acc else acc ++ [v])) []

/-- The chain of a locale and fallbacks both given as values; the fallbacks are gone through
first, and what cannot be gone through cannot be spread into the chain. -/
def buildChain (requested fallback : Value) : Except Fault (List Value) :=
  match fallback.itemsOf with
  | .ok items => chainOf requested items
  | .error _ => .error (.system .type (some (.str ("Value after * must be an iterable, not " ++
      fallback.kindName))))

end Phrasebook.Locale

namespace Phrasebook

/-- A fallback configuration. -/
structure Fallback where
  defaultLocale : Option String := some "en"
  chains : Table (List String) := Table.empty
deriving Inhabited, BEq, Repr

namespace Fallback

/-- The effective fallbacks of a locale: its chain, then the default locale, each once,
without the locale itself. -/
def fallbacks (fb : Fallback) (locale : String) : List String :=
  (((fb.chains.get? locale).getD [] ++ fb.defaultLocale.toList).eraseDups).filter (· != locale)

/-- The effective fallbacks of a locale given as a value. A locale must be able to be a key to
be looked up; a value that is no text has no chain of its own, and is never the default. -/
def fallbacksOf (fb : Fallback) (locale : Value) : Except Fault (List String) :=
  match locale.unhashable? with
  | some f => .error f
  | none =>
    match locale with
    | .str l => .ok (fb.fallbacks l)
    | _ => .ok fb.defaultLocale.toList

def valueIssue (loc : List String) (msg : String) : Issue :=
  ⟨"value_error", loc, "Value error, " ++ msg⟩

def readMembers (items : List Value) : Except String (List String) :=
  (items.mapM Locale.normalize).map List.eraseDups

/-- Reads the chains of a record member by member. -/
def readChains : Table (List String) → List (String × Value) → Except String (Table (List String))
  | t, [] => .ok t
  | t, (k, v) :: rest => do
    let items ← match v with
      | .str s => pure [Value.str s]
      | .list xs => pure xs
      | _ => throw ("fallback chain for " ++ Text.quote k ++ " must be a list")
    let members ← readMembers items
    let key ← Locale.normalize (.str k)
    readChains (t.set key members) rest

/-- The default locale of a record member: absent gives `en`, null gives none. -/
def readDefault (present : Bool) (v : Value) : Except String (Option String) :=
  if !present then .ok (some "en")
  else match v with
    | .null => .ok none
    | v => (Locale.normalize v).map some

/-- The chains of a record member: absent or null give none. -/
def readChainsOf : Value → Except String (Table (List String))
  | .null => .ok Table.empty
  | .record fs => readChains Table.empty fs
  | _ => .error "chains must be a mapping of locale -> list of locales"

/-- Reads a configuration from the members of a record; issues are placed under `place`. -/
def ofFields (place : List String) (fs : List (String × Value)) : Except (List Issue) Fallback :=
  let d := readDefault (Table.lookup fs "default_locale").isSome
    ((Table.lookup fs "default_locale").getD .null)
  let c := readChainsOf ((Table.lookup fs "chains").getD .null)
  match d, c with
  | .ok d, .ok c => .ok ⟨d, c⟩
  | d, c =>
    .error ((match d with
        | .error m => [valueIssue (place ++ ["default_locale"]) m]
        | .ok _ => []) ++
      (match c with
        | .error m => [valueIssue (place ++ ["chains"]) m]
        | .ok _ => []))

/-- The members of a mapping built from a value that are named by texts; a mapping's other
keys name no member of a configuration. -/
def namedFields (v : Value) : Except Fault (List (String × Value)) :=
  (Value.pairsOf v).map fun ps => ps.filterMap fun p =>
    match p.1 with
    | .str k => some (k, p.2)
    | _ => none

/-- Reads a configuration from any value: one that counts as false reads as an empty record,
any other is first made a mapping. A configuration that breaks the rules fails with its
issues. -/
def ofValue (v : Value) : Except Fault Fallback := do
  let fs ← if v.truthy then namedFields v else pure []
  match ofFields [] fs with
  | .ok fb => pure fb
  | .error is => throw (.invalid is)

/-- The configuration as a record: the default locale when set, and the chains. -/
def toValue (fb : Fallback) : Value :=
  .record ((match fb.defaultLocale with
      | some d => [("default_locale", .str d)]
      | none => []) ++
    [("chains", .record (fb.chains.entries.map fun p => (p.1, .ofStrings p.2)))])

/-- The configuration dumped as a record of all its fields: an unset default locale is null. -/
def dump (fb : Fallback) : Value :=
  .record [("default_locale", .ofOption fb.defaultLocale),
    ("chains", .record (fb.chains.entries.map fun p => (p.1, .ofStrings p.2)))]

theorem fallbacks_not_mem (fb : Fallback) (locale : String) : locale ∉ fb.fallbacks locale := by
  simp [fallbacks, List.mem_filter]

end Fallback

end Phrasebook
