import Phrasebook.Log.Event
import Phrasebook.Log.Incident

/-!
The journal: the records written so far and the tally of incidents.

Events go through the engine's logger, which passes a record only at or above its threshold
and writes detailed lines when asked to. Incident lines are written at any severity, and every
incident is counted in the tally.

A fault reported with a message becomes an incident of the fault's category: its message is
`message: fault message`, and its context is the fault's data without null values, overlaid
in order by the context given. An incident whose type is given as a value needs a text for
it, since its line shows the type in capitals.

`tally_announce`: an event is never counted as an incident.
-/

namespace Phrasebook.Log

/-- The journal of a run. -/
structure Journal where
  threshold : Level := .info
  detailed : Bool := false
  records : List Record := []
  tally : Tally := {}
deriving Inhabited

namespace Journal

def write (j : Journal) (r : Record) : Journal := { j with records := j.records ++ [r] }

/-- Announces an event at a severity through the engine's logger. -/
def announce (j : Journal) (level : Level) (e : Event) : Journal :=
  if Level.passes j.threshold level then j.write ⟨level, e.line j.detailed⟩ else j

/-- Announces an event at a severity given as a value: a whole number, or a truth value read
as one or zero. Any other value is refused. -/
def announceAt (j : Journal) (level : Value) (e : Event) : Except Fault Journal :=
  match level with
  | .int n => .ok (j.announce ⟨n⟩ e)
  | .bool b => .ok (j.announce ⟨if b then 1 else 0⟩ e)
  | _ => .error (.system .type (some (.str "level must be an integer")))

def callFault (m : String) : Fault :=
  .system .type (some (.str ("CatalogLogger.log_event() " ++ m)))

/-- Announces an event as a call of the logger's event method does. The domain and the action
are given in place, the severity and the human text by name when they are given, and the
fields as further keywords. A keyword that is no text or names an argument given in place
fails the call, and so does a severity or a human text given both by name and as a keyword.
A severity, a human text or `exc_info` among the keywords is taken out of the fields; the
severity is the information level unless given. -/
def logEvent (j : Journal) (domain action : Value) (level human : Option Value)
    (keywords : List (Value × Value)) : Except Fault Journal :=
  let kw : List (String × Value) := keywords.filterMap fun p =>
    match p.1 with
    | .str k => some (k, p.2)
    | _ => none
  let inPlace := keywords.find? fun p =>
    match p.1 with
    | .str k => ["domain", "action", "self"].contains k
    | _ => true
  let twice := [("level", level), ("human", human)].find? fun p =>
    p.2.isSome && (Table.lookup kw p.1).isSome
  match inPlace, twice with
  | some (.str k, _), _ => .error (callFault ("got multiple values for argument '" ++ k ++ "'"))
  | some _, _ => .error (callFault "keywords must be strings")
  | none, some (k, _) =>
    .error (callFault ("got multiple values for keyword argument '" ++ k ++ "'"))
  | none, none =>
    let level := ((Table.lookup kw "level").or level).getD (.int Level.info.rank)
    let human := (Table.lookup kw "human").or human
    let fields := kw.filter fun p => !(["level", "human", "exc_info"].contains p.1)
    Event.ofValues domain action human fields >>= j.announceAt level

/-- Writes and counts an incident. -/
def incident (j : Journal) (type : String) (message : Value) (exception : Option Fault)
    (context : List (String × Value)) (level : Level := .error) : Journal :=
  let j := j.write ⟨level, incidentLine type message exception context⟩
  { j with tally := j.tally.record type ⟨message, context⟩ }

/-- Writes and counts an incident whose type is given as a value. Only a text can be put in
capitals, so any other type is refused before anything is written. -/
def structured (j : Journal) (type message : Value) (exception : Option Fault)
    (context : List (String × Value)) (level : Level := .error) : Except Fault Journal :=
  match type with
  | .str t => .ok (j.incident t message exception context level)
  | v => .error (Fault.noAttribute v "upper")

/-- The context of a fault's incident: its data without nulls, overlaid by `context`. -/
def faultContext (f : Fault) (context : List (String × Value)) : List (String × Value) :=
  context.foldl (fun acc p => Table.assign acc p.1 p.2)
    ((f.data.getD []).filter fun p => !p.2.isNull)

/-- Reports a fault as an incident of its category, the message given as any value. -/
def fault (j : Journal) (message : Value) (f : Fault) (context : List (String × Value) := [])
    (level : Level := .error) : Journal :=
  j.incident f.category (.str (message.display ++ ": " ++ f.message)) (some f)
    (faultContext f context) level

/-- Whether a setting of the debug switch asks for detailed lines: `true`, `1` or `yes`, in
any case. -/
def detailedFor (setting : String) : Bool :=
  let s := Text.lower setting
  s == "true" || s == "1" || s == "yes"

/-- Whether a record is kept by the console: records about `fsevents`, in any case, are
dropped. A record's message is the display of whatever value was logged. -/
def keeps (message : Value) : Bool :=
  !((Text.lower message.display).splitOn "fsevents").length > 1

@[simp] theorem tally_announce (j : Journal) (level : Level) (e : Event) :
    (j.announce level e).tally = j.tally := by
  unfold announce
  split <;> rfl

theorem tally_fault (j : Journal) (message : Value) (f : Fault) (context : List (String × Value))
    (level : Level) :
    (j.fault message f context level).tally = j.tally.record f.category
      ⟨.str (message.display ++ ": " ++ f.message), faultContext f context⟩ := rfl

end Journal

end Phrasebook.Log
