import Phrasebook.Text.Case
import Phrasebook.Table
import Phrasebook.Number

/-!
Log records, and events: what the engine announces, as one log line each.

A record has a severity and a line of text. A severity is a whole number; five of them have
names: debug (10), info (20), warning (30), error (40) and critical (50). Zero is "not set",
and any other number is named by itself, as `Level 35`. A logger passes a record when its
severity is at least the logger's threshold and above zero.

An event has a domain and an action (its name is both, joined by `_` and lower-cased), an
optional human text (any value, shown as its display), and named fields. Without a human
text, the text comes from the event's template, with each `{field}` replaced by the field's
display; a template that names a missing field is used as it stands. An event without a
template is described by its domain and action with `_` read as a space, and is marked
`derived=True`.

The field `locale`, when it is a text, labels the line: `[cs    ]`, padded to six characters
and cut at twelve; `[-     ]` otherwise. A short line is the label and the text, or the
event's name when the text counts as false (empty, zero). A detailed line starts with the
name in a column of 28 (a longer name is cut to 27 characters and `…`), then the label, the
text unless it counts as false, and the other fields in parentheses.

A caller may give the domain and the action as any values (`Event.ofValues`). With a human
text they only name the event, by their displays. Without one they look up a template, so
neither may be a list or a record, and with no template they are spelled out with `_` read as
a space, which only a text can be.

`conciseLine_human`: a short line with a human text is the label, a space and the text.
`ofValues_str`: an event named by texts is always made, as it stands.
-/

namespace Phrasebook.Log

/-! ### Severities and records -/

/-- The severity of a record. -/
structure Level where
  rank : Int
deriving Inhabited, BEq, DecidableEq, Repr

namespace Level

def debug : Level := ⟨10⟩

def info : Level := ⟨20⟩

def warning : Level := ⟨30⟩

def error : Level := ⟨40⟩

def critical : Level := ⟨50⟩

/-- The name of a severity. -/
def name (l : Level) : String :=
  if l.rank = 0 then "NOTSET"
  else if l.rank = 10 then "DEBUG"
  else if l.rank = 20 then "INFO"
  else if l.rank = 30 then "WARNING"
  else if l.rank = 40 then "ERROR"
  else if l.rank = 50 then "CRITICAL"
  else "Level " ++ toString l.rank

/-- The severity of a name. -/
def ofName? : String → Option Level
  | "DEBUG" => some .debug
  | "INFO" => some .info
  | "WARNING" => some .warning
  | "ERROR" => some .error
  | "CRITICAL" => some .critical
  | _ => none

def passes (t l : Level) : Bool := t.rank ≤ l.rank && 0 < l.rank

end Level

/-- A log record. -/
structure Record where
  level : Level
  message : String
deriving Inhabited, BEq, Repr

/-! ### Events -/

/-- The template of an event's human text, by domain and action. -/
def template? : String → String → Option String
  | "app", "start" => some "🚀 Subtitle catalog engine starting ({command})"
  | "app", "shutdown" => some "✅ Shutdown complete (exit code {exit_code})"
  | "coverage", "complete" => some "✅ All {locale_count} locale(s) cover every '{reference}' key"
  | "coverage", "gap" => some "📉 {missing} key(s) from '{reference}' missing"
  | "lookup", "fallback_used" => some "↪️ '{key}' served from '{resolved_locale}'"
  | "lookup", "not_found" => some "❓ No subtitle for '{key}' (tried {chain})"
  | "registry", "init_failed" => some "❌ {failed} catalog(s) failed to load: {locales}"
  | "registry", "init_ok" => some "📚 Loaded {locale_count} locale(s), {entry_count} entries"
  | "registry", "locale_added" => some "➕ Locale added with {entry_count} entries (v{version})"
  | "registry", "reload_failed" => some "❌ Reload rejected, previous catalog kept: {error}"
  | "registry", "reload_ok" => some "🔄 Reloaded {entry_count} entries (v{version})"
  | "registry", "teardown" => some "🧹 Registry torn down ({locale_count} locale(s) released)"
  | "source", "fetch" => some "🌐 Fetched {chars} chars from {url}"
  | "source", "fetch_failed" => some "❌ Catalog download failed from {url}: {error}"
  | "source", "fetch_retry" => some "🔁 Retrying {url} after attempt {attempt}: {error}"
  | "source", "read" => some "📄 Read {chars} chars from {path}"
  | "watch", "dir_missing" => some "⚠️ Catalog directory missing, not watching: {path}"
  | "watch", "file_removed" =>
    some "⚠️ Catalog file removed, keeping last loaded catalog: {path}"
  | "watch", "reload_rejected" => some "❌ Changed catalog rejected: {error}"
  | "watch", "reload_triggered" => some "👀 Catalog file changed: {path}"
  | "watch", "start" => some "👀 Watching catalogs in {path}"
  | "watch", "start_failed" => some "❌ Failed to start catalog watcher: {error}"
  | "watch", "stopped" => some "🛑 Catalog watcher stopped"
  | _, _ => none

mutual

/-- Fills the holes of a template: text is kept, and a name between braces is replaced by
its field's display. A missing field or an unclosed brace fails. -/
def fillChars (fields : List (String × Value)) : List Char → Option (List Char)
  | [] => some []
  | '{' :: rest => fillHole fields [] rest
  | c :: rest => (fillChars fields rest).map (c :: ·)

/-- Reads the name of a hole, its characters so far reversed in `name`, then goes on. -/
def fillHole (fields : List (String × Value)) (name : List Char) : List Char → Option (List Char)
  | [] => none
  | '}' :: rest =>
    match Table.lookup fields (String.ofList name.reverse) with
    | some v => (fillChars fields rest).map ((Value.display v).toList ++ ·)
    | none => none
  | c :: rest => fillHole fields (c :: name) rest

end

/-- A template filled from fields, or the template itself when a field is missing. -/
def fill (tpl : String) (fields : List (String × Value)) : String :=
  match fillChars fields tpl.toList with
  | some cs => String.ofList cs
  | none => tpl

/-- An event to announce: its domain and action, the human text given for it, if any, and its
fields. -/
structure Event where
  domain : String
  action : String
  human : Option Value := none
  fields : List (String × Value) := []
deriving Inhabited, Repr

namespace Event

def name (e : Event) : String := Text.lower (e.domain ++ "_" ++ e.action)

def spaced (s : String) : String := String.ofList (s.toList.map fun c => if c = '_' then ' ' else c)

/-- The human text of an event, and whether it was derived from the name alone. A human text
given as null counts as none. -/
def text (e : Event) : Value × Bool :=
  match e.human with
  | some .null | none =>
    match template? e.domain e.action with
    | some tpl => (.str (fill tpl e.fields), false)
    | none => (.str (spaced e.domain ++ ": " ++ spaced e.action), true)
  | some h => (h, false)

/-- The label of a line: the `locale` field when it is a text, padded to six characters and
cut at twelve; `-` otherwise. -/
def label (e : Event) : String :=
  let l := match Table.lookup e.fields "locale" with
    | some (.str l) => l
    | _ => "-"
  let ps := Text.points l
  "[" ++ Text.ofPoints ((ps ++ List.replicate (6 - ps.length) (Text.Point.char ' ')).take 12) ++ "]"

/-- The fields a detailed line lists: all but `locale`, and `derived=True` last for a derived
text unless a field of that name is given. -/
def context (e : Event) : List (String × Value) :=
  let fs := if e.text.2 && (Table.lookup e.fields "derived").isNone
    then e.fields ++ [("derived", .bool true)] else e.fields
  (Table.mk fs |>.erase "locale").entries

/-- The short line of an event: its label, then its text, or its name when the text counts as
false. -/
def conciseLine (e : Event) : String :=
  let t := e.text.1
  e.label ++ " " ++ (if t.truthy then t.display else e.name)

/-- The name in a column of 28: padded, or cut to 27 points and `…`. -/
def nameColumn (n : String) : String :=
  let ps := Text.points n
  if ps.length ≤ 28 then Text.ofPoints (ps ++ List.replicate (28 - ps.length) (Text.Point.char ' '))
  else Text.ofPoints (ps.take 27 ++ [Text.Point.char '…'])

/-- The detailed line of an event. -/
def detailedLine (e : Event) : String :=
  let t := e.text.1
  let base := nameColumn e.name ++ " " ++ e.label
  let base := if t.truthy then base ++ " " ++ t.display else base
  let ctx := e.context
  if ctx.isEmpty then base
  else base ++ " (" ++ ", ".intercalate (ctx.map fun p => p.1 ++ "=" ++ p.2.display) ++ ")"

def line (detailed : Bool) (e : Event) : String :=
  if detailed then e.detailedLine else e.conciseLine

def unspelled (v : Value) : Fault := Fault.noAttribute v "replace"

/-- The event for a domain and an action given as values. -/
def ofValues (domain action : Value) (human : Option Value) (fields : List (String × Value)) :
    Except Fault Event :=
  let given : Event := ⟨domain.display, action.display, human, fields⟩
  match human with
  | some .null | none =>
    match domain.unhashable?, action.unhashable? with
    | some f, _ => .error f
    | none, some f => .error f
    | none, none =>
      match domain, action with
      | .str _, .str _ => .ok given
      | .str _, a => .error (unspelled a)
      | d, _ => .error (unspelled d)
  | some _ => .ok given

theorem ofValues_str (d a : String) (human : Option Value) (fields : List (String × Value)) :
    ofValues (.str d) (.str a) human fields = .ok ⟨d, a, human, fields⟩ := by
  unfold ofValues
  split <;> rfl

theorem conciseLine_human (e : Event) {h : String} (hh : e.human = some (.str h)) (hne : h ≠ "") :
    e.conciseLine = e.label ++ " " ++ h := by
  simp [conciseLine, text, hh, hne, Value.truthy]

end Event

end Phrasebook.Log
