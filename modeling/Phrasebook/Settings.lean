import Phrasebook.Fallback

/-!
Settings: where catalog sources come from and how they fall back.

Settings name a catalog directory, a file suffix (`.ftl` unless set), remote sources (a URL
per locale), a fallback configuration and a reference locale for coverage reports.

Settings are read from a record, member by member in that order, and every member's refusal
is reported. The directory is trimmed, and a blank one counts as none; a suffix must be a
text that is not blank, and gains a leading `.` when it lacks one; each remote source must be
a text starting `http://` or `https://`, its locale trimmed and not blank; the fallback must
be a record; the reference locale is null or a locale. Only when every member is sound is the
whole checked: settings need a directory or a remote source. Settings given as any other
value are read from the mapping made of it (`ofValue`).

Main statement: `effectiveReference_of_reference`: a reference locale that is set is the one
used.
-/

namespace Phrasebook

/-- Engine settings. -/
structure Settings where
  catalogDir : Option String := none
  suffix : String := ".ftl"
  remoteSources : Table String := Table.empty
  fallback : Fallback := {}
  referenceLocale : Option String := none
deriving Inhabited, BEq, Repr

namespace Settings

/-- The locale whose keys are the complete set for coverage: the reference locale, else the
default locale, else `en`. -/
def effectiveReference (s : Settings) : String :=
  match s.referenceLocale with
  | some r => r
  | none => s.fallback.defaultLocale.getD "en"

/-- The catalog directory of a member: a text trimmed, blank as none. -/
def readDir : Value → Except Issue (Option String)
  | .null => .ok none
  | .str d => let t := Text.trim d; .ok (if t.isEmpty then none else some t)
  | _ => .error ⟨"string_type", ["catalog_dir"], "Input should be a valid string"⟩

/-- The suffix of a member, with a leading dot. -/
def readSuffix (present : Bool) (v : Value) : Except Issue String :=
  if !present then .ok ".ftl"
  else match v with
    | .str s =>
      let t := Text.trim s
      if t.isEmpty then .error (Fallback.valueIssue ["suffix"] "suffix must be a non-empty string")
      else .ok (if t.startsWith "." then t else "." ++ t)
    | _ => .error (Fallback.valueIssue ["suffix"] "suffix must be a non-empty string")

def isWebUrl (url : String) : Bool := url.startsWith "http://" || url.startsWith "https://"

/-- Reads remote sources member by member. -/
def readRemote : Table String → List (String × Value) → Except String (Table String)
  | t, [] => .ok t
  | t, (k, v) :: rest =>
    match v with
    | .str url =>
      if isWebUrl url then do
        let key ← Locale.normalize (.str k)
        readRemote (t.set key url) rest
      else .error ("remote source for " ++ Text.quote k ++ " must be an http(s) URL")
    | _ => .error ("remote source for " ++ Text.quote k ++ " must be an http(s) URL")

/-- The remote sources of a member: null gives none. -/
def readRemoteOf : Value → Except Issue (Table String)
  | .null => .ok Table.empty
  | .record fs => (readRemote Table.empty fs).mapError (Fallback.valueIssue ["remote_sources"])
  | _ => .error (Fallback.valueIssue ["remote_sources"]
      "remote_sources must be a mapping of locale -> URL")

/-- The fallback configuration of a member. -/
def readFallback (present : Bool) (v : Value) : Except (List Issue) Fallback :=
  if !present then .ok {}
  else match v with
    | .record fs => Fallback.ofFields ["fallback"] fs
    | _ => .error [⟨"model_type", ["fallback"],
        "Input should be a valid dictionary or instance of FallbackConfig"⟩]

def readReference : Value → Except Issue (Option String)
  | .null => .ok none
  | v => ((Locale.normalize v).map some).mapError (Fallback.valueIssue ["reference_locale"])

/-- The issues of a reading step, none when it succeeded. -/
def issuesOf {α : Type} : Except (List Issue) α → List Issue
  | .error is => is
  | .ok _ => []

/-- Reads settings from the members of a record. -/
def ofFields (fs : List (String × Value)) : Except (List Issue) Settings :=
  let get (k : String) : Value := (Table.lookup fs k).getD .null
  let has (k : String) : Bool := (Table.lookup fs k).isSome
  let dir := (readDir (get "catalog_dir")).mapError List.singleton
  let suffix := (readSuffix (has "suffix") (get "suffix")).mapError List.singleton
  let remote := (readRemoteOf (get "remote_sources")).mapError List.singleton
  let fallback := readFallback (has "fallback") (get "fallback")
  let reference := (readReference (get "reference_locale")).mapError List.singleton
  match dir, suffix, remote, fallback, reference with
  | .ok d, .ok x, .ok r, .ok f, .ok l =>
    if d.isNone && r.size = 0 then
      .error [Fallback.valueIssue [] "settings need a catalog_dir or at least one remote source"]
    else .ok ⟨d, x, r, f, l⟩
  | _, _, _, _, _ =>
    .error (issuesOf dir ++ issuesOf suffix ++ issuesOf remote ++ issuesOf fallback ++
      issuesOf reference)

/-- Reads settings from any value, first made a mapping; settings that break the rules fail
with their issues. -/
def ofValue (v : Value) : Except Fault Settings := do
  match ofFields (← Fallback.namedFields v) with
  | .ok s => pure s
  | .error is => throw (.invalid is)

/-- The settings as a record, members that are unset left out. -/
def toValue (s : Settings) : Value :=
  .record ((match s.catalogDir with
      | some d => [("catalog_dir", .str d)]
      | none => []) ++
    [("suffix", .str s.suffix),
     ("remote_sources", .record (s.remoteSources.entries.map fun p => (p.1, .str p.2))),
     ("fallback", s.fallback.toValue)] ++
    (match s.referenceLocale with
      | some r => [("reference_locale", .str r)]
      | none => []))

theorem effectiveReference_of_reference (s : Settings) {r : String}
    (h : s.referenceLocale = some r) : s.effectiveReference = r := by
  simp [effectiveReference, h]

end Settings

end Phrasebook
