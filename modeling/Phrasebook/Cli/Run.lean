import Phrasebook.Cli.Parse
import Phrasebook.Settings.File
import Phrasebook.Source.Gather
import Phrasebook.Registry.Basic
import Phrasebook.Json.Writer

/-!
The catalog tool's command line: `check`, `coverage`, `lookup` and `watch`.

Settings come from `--catalog-dir` alone when no `--config` is given; otherwise from the
settings file that `--config`, the environment or the default name gives, with
`--catalog-dir` put in place of its directory unchecked. The catalogs are gathered and
loaded; a load that fails prints each failed locale with its fault and ends with status 1,
and any other fault of the tool ends with status 2 and prints nothing. Then:

* `check` prints the number of entries of each locale;
* `coverage` prints, against the reference locale (the one given, else the settings' own),
  the keys each other locale lacks, as text or as JSON, and ends with status 1 when any
  lacks a key;
* `lookup` prints the text of a key, and on its error stream the locale that served it when
  that was a fallback; a key found nowhere prints why and ends with status 1. A key slot
  left with no word holds an empty list, which fails as no key of a catalog can;
* `watch` needs a catalog directory, and otherwise serves until it is interrupted.

A fault that is not the tool's own (a settings document that breaks the rules, a failure of
the system) escapes the run. A registry once built is torn down at the end of the run, however
its task ends (`session`).
-/

namespace Phrasebook.Cli

def helpOpt : Opt :=
  { spellings := ["-h", "--help"], dest := "help", kind := .help,
    help := some "show this help message and exit" }

def plain (name : String) : Level :=
  { prog := "subtitle-catalog " ++ name, options := [helpOpt] }

/-- The tool's command-line grammar. -/
def grammar : Grammar :=
  let config : Opt :=
    { spellings := ["--config"], dest := "config", kind := .value,
      help := some "Settings file (default: $SUBTITLE_CATALOG_CONF)" }
  let dir : Opt :=
    { spellings := ["--catalog-dir"], dest := "catalog_dir", kind := .value,
      help := some "Catalog directory, overrides the settings file" }
  let reference : Opt :=
    { spellings := ["--reference"], dest := "reference", kind := .value,
      help := some "Reference locale (default from settings)" }
  let asJson : Opt :=
    { spellings := ["--json-output"], dest := "json_output", kind := .switch,
      help := some "Emit the report as JSON" }
  let top : Level :=
    { prog := "subtitle-catalog",
      description := some "Load, validate and query subtitle catalogs",
      options := [helpOpt, config, dir] }
  { top,
    commandDest := "command",
    commands := [
      ("check", some "Parse every catalog and report load errors", plain "check"),
      ("coverage", some "Report translation coverage gaps",
        { plain "coverage" with options := [helpOpt, reference, asJson] }),
      ("lookup", some "Resolve one key", { plain "lookup" with words := ["locale", "key"] }),
      ("watch", some "Serve catalogs and reload them on change", plain "watch")] }

/-- What the tool is asked to do. -/
inductive Task where
  | check
  | coverage (reference : Option String) (asJson : Bool)
  /-- Look a key up; the key slot may have kept no word, when it was given only `--`. -/
  | lookup (locale : String) (key : Option String)
  | watch
deriving Inhabited, Repr

/-- A command line as read: the settings file, the catalog directory, and the task. -/
structure Invocation where
  config : Option String
  catalogDir : Option String
  task : Task
deriving Inhabited, Repr

def given : Option String → Option String
  | some s => if s.isEmpty then none else some s
  | none => none

/-- The invocation of a command line's settings. -/
def Invocation.ofSettings (t : Table Setting) : Option Invocation := do
  let word (k : String) : Option String := (t.get? k).bind Setting.word?
  let task ← match word "command" with
    | some "check" => some Task.check
    | some "coverage" => some (Task.coverage (word "reference") (t.get? "json_output" == some .on))
    | some "lookup" => some (Task.lookup ((word "locale").getD "") (word "key"))
    | some "watch" => some Task.watch
    | _ => none
  pure { config := word "config", catalogDir := word "catalog_dir", task }

/-- How a run ends: its exit status and what it printed on each stream. -/
structure Outcome where
  exit : Nat
  stdout : String := ""
  stderr : String := ""
deriving Inhabited, BEq, Repr

def quietly {α : Type} (m : Act α) : Except Fault α := (m.run.run {}).1

def defaultConfig : String := "subtitle_catalog.json"

/-- How deep containers may nest in the settings file: the command line loads it eleven calls
deeper than a load from the top. -/
def settingsRoom : Nat := Json.maxNesting - 11

/-- The settings of an invocation: from `--catalog-dir` alone when no `--config` is given, read
as a settings document; otherwise from the settings file that `--config`, the environment or
the default name gives, with `--catalog-dir` put in place of its directory unchecked. -/
def resolveSettings (d : Disk) (envConfig : Option String) (inv : Invocation) :
    Except Fault Settings :=
  match given inv.catalogDir, given inv.config with
  | some dir, none => (Settings.ofFields [("catalog_dir", .str dir)]).mapError .invalid
  | dir, config =>
    let path := config.getD (envConfig.getD defaultConfig)
    (SettingsFile.loadWithin settingsRoom d { path }).map fun loaded =>
      match dir with
      | some c => { loaded.1 with catalogDir := some c }
      | none => loaded.1

/-- The catalog texts the settings name, by locale, gathered from the disk and the network. -/
def gathered (d : Disk) (s : Settings) : Except Fault (Table String) :=
  (((Source.gather d s).run).run {}).1

def buildRegistry (d : Disk) (s : Settings) : Except Fault Registry := do
  quietly (Registry.ofTexts (← gathered d s) s.fallback)

/-- What a run needs before its task: the settings, and the registry they load. -/
def setup (d : Disk) (envConfig : Option String) (inv : Invocation) :
    Except Fault (Settings × Registry) := do
  let s ← resolveSettings d envConfig inv
  let r ← buildRegistry d s
  pure (s, r)

/-- Each locale with its number of entries, a line each. -/
def checkReport (r : Registry) : Except Fault String := do
  let locales ← r.stores.sortedKeys
  pure (String.join (locales.map fun l =>
    l.display ++ ": " ++ toString ((r.stores.get? l).map Catalog.size |>.getD 0) ++ " entries\n"))

/-- A coverage report as text: a header, then each locale complete or with its missing keys. -/
def coverageText (reference : String) (report : List (Value × List String)) : String :=
  "Coverage against '" ++ reference ++ "'\n" ++
    String.ofList (List.replicate (Text.length reference + 19) '=') ++ "\n" ++
    String.join (report.map fun p =>
      if p.2.isEmpty then p.1.display ++ ": complete\n"
      else p.1.display ++ ": " ++ toString p.2.length ++ " missing\n" ++
        String.join (p.2.map fun k => "  - " ++ k ++ "\n"))

def coverageJson (reference : String) (report : List (Value × List String)) : String :=
  Json.pretty 2 0 (.record [("reference", .str reference),
    ("missing", .record (report.map fun p => (Json.keyText p.1, .ofStrings p.2)))]) ++ "\n"

/-- Carries out a task on a loaded registry: its outcome, or the fault it fails with. -/
def perform (s : Settings) (r : Registry) : Task → Except Fault Outcome
  | .check => (checkReport r).map fun text => { exit := 0, stdout := text }
  | .coverage reference asJson =>
    let ref := (given reference).getD s.effectiveReference
    (quietly (r.coverage (.str ref))).map fun report =>
      { exit := if report.any (!·.2.isEmpty) then 1 else 0,
        stdout := if asJson then coverageJson ref report else coverageText ref report }
  | .lookup locale key =>
    -- a key slot that kept no word holds an empty list
    match quietly (r.lookup (.str locale) ((key.map Value.str).getD (.list []))) with
    | .ok res =>
      let note := if res.fallbackUsed then "(resolved from '" ++ res.locale.display ++ "')\n"
        else ""
      .ok { exit := 0, stdout := res.text ++ "\n", stderr := note }
    | .error (.messageNotFound k chain) =>
      .ok { exit := 1, stderr := (Fault.messageNotFound k chain).message ++ "\n" }
    | .error f => .error f
  | .watch =>
    if s.catalogDir.isNone then .ok { exit := 2, stderr := "watch needs a catalog directory\n" }
    else .ok { exit := 0 }

def failureLines (failures : List (String × Fault)) : String :=
  String.join (failures.map fun p => "[" ++ p.1 ++ "] " ++ p.2.message ++ "\n")

/-- How a fault ends a run: one of the tool's own with status 2 and nothing printed, and any
other by escaping the run. -/
def endWith (f : Fault) : Except Fault Outcome :=
  if f.isOwn then .ok { exit := 2 } else .error f

/-- How a fault of the setup ends a run: a failed load prints each failed locale with its fault
and ends with status 1, and any other fault ends it as `endWith` says. -/
def endSetup : Fault → Except Fault Outcome
  | .aggregate failures => .ok { exit := 1, stderr := failureLines failures }
  | f => endWith f

/-- What a run leaves: how it ended, by an outcome or by a fault that escaped it, and the
registry it built, if it got that far, as the end of the run leaves it. -/
structure Session where
  result : Except Fault Outcome
  registry : Option Registry := none

/-- The run of an invocation: the setup, then the task on the registry. A registry once built is
torn down at the end of the run, however the task ends. -/
def sessionOf (d : Disk) (envConfig : Option String) (inv : Invocation) : Session :=
  match setup d envConfig inv with
  | .error f => { result := endSetup f }
  | .ok (s, r) =>
    { result := (perform s r inv.task).tryCatch endWith,
      registry := (quietly r.teardown).toOption }

/-- Runs a command line over a disk; `envConfig` is the settings file the environment names. -/
def session (d : Disk) (envConfig : Option String) (argv : List String) : Session :=
  match read grammar argv with
  | .error (.help which) => { result := .ok { exit := 0, stdout := helpPage grammar which } }
  | .error (.refuse which msg) =>
    { result := .ok { exit := 2, stderr := refusal grammar which msg } }
  | .ok vals =>
    match Invocation.ofSettings vals with
    | some inv => sessionOf d envConfig inv
    | none =>
      let missing := refusal grammar none "the following arguments are required: command"
      { result := .ok { exit := 2, stderr := missing } }

/-- How a run of a command line ends: its outcome, or the fault that escapes it. -/
def run (d : Disk) (envConfig : Option String) (argv : List String) : Except Fault Outcome :=
  (session d envConfig argv).result

end Phrasebook.Cli
