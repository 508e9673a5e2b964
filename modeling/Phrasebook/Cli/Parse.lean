import Phrasebook.Cli.Grammar
import Phrasebook.Table
import Phrasebook.Text.Chars

/-!
Reading a command line by a grammar.

Each level first sorts its words. A lone `--` ends the options: every word after it is
positional. A word is an option when it starts with `-` and is a spelling of one of the
level's options, or such a spelling followed by `=` and a value, or a beginning of exactly
one long spelling (a beginning of several is refused as ambiguous), or a short spelling with
its value attached. A word starting with `-` that names no option is still taken for one,
unless it is `-` alone, reads as a negative number, or holds a blank.

Then options and positional words are taken in turn. Positional slots take as many words as
they can match before the next option, the subcommand slot taking every word after it, which
its own level then reads. An option with a value takes the next word, which must be
positional; a switch takes none. Short switches may run together in one word (`-hh`), and a
letter there that names no option is refused. An option or a one-word slot drops the first
`--` of the words it takes, so that `--config=--` gives the option no word at all. Words that
no slot takes are kept aside, and a command line with words left aside is refused, as is one
that leaves a positional slot empty.
-/

namespace Phrasebook.Cli

/-- How a word of the command line reads at one level. -/
inductive Mark where
  /-- The `--` that ends the options. -/
  | dashes
  | word
  | option
deriving Inhabited, BEq, DecidableEq, Repr

/-- An option found in a word: the option, unless the level has none of that name; how it was
spelled; and the value attached to it in the word. -/
structure Hit where
  opt : Option Opt
  spelled : String
  attached : Option String := none
deriving Inhabited

/-- Why reading stopped: the help page of a level was asked for, or a level refused the
command line. A level is the top level (`none`) or a subcommand. -/
inductive Stop where
  | help (which : Option String)
  | refuse (which : Option String) (message : String)
deriving Inhabited, Repr

/-- What an option or positional slot was given. -/
inductive Setting where
  | words (ws : List String)
  | on
deriving Inhabited, BEq, Repr

/-- A positional slot: one word, or the subcommand with every word after it. -/
inductive Slot where
  | word (name : String)
  | command (name : String)
deriving Inhabited, BEq, Repr

def exact (level : Level) (s : String) : Option Opt :=
  level.options.find? fun o => o.spellings.contains s

def spellings (level : Level) : List (String × Opt) :=
  level.options.flatMap fun o => o.spellings.map fun s => (s, o)

def splitEq (s : String) : String × Option String :=
  match s.splitOn "=" with
  | [] | [_] => (s, none)
  | a :: rest => (a, some ("=".intercalate rest))

/-- Whether a text reads as a negative number: `-` then decimal digits, or digits with a
point and at least one digit after it, and at most a line end after that. -/
def negativeNumber (s : String) : Bool :=
  let cs := s.toList
  let cs := if cs.getLast? = some '\n' then cs.dropLast else cs
  match cs with
  | '-' :: rest =>
    let (whole, frac) := rest.span Text.isDecimal
    match frac with
    | [] => !whole.isEmpty
    | '.' :: ds => !ds.isEmpty && ds.all Text.isDecimal
    | _ => false
  | _ => false

/-- The options a word could abbreviate or carry a value for. -/
def candidates (level : Level) (s : String) : List Hit :=
  if s.startsWith "--" then
    let (pre, value) := splitEq s
    (spellings level).filterMap fun (sp, o) =>
      if sp.startsWith pre then some ⟨some o, sp, value⟩ else none
  else
    let short := String.ofList (s.toList.take 2)
    let rest := String.ofList (s.toList.drop 2)
    (spellings level).filterMap fun (sp, o) =>
      if sp = short then some ⟨some o, sp, some rest⟩
      else if sp.startsWith s then some ⟨some o, sp, none⟩
      else none

/-- Reads one word at a level: an option, or nothing when it is positional. -/
def readOption (level : Level) (which : Option String) (s : String) :
    Except Stop (Option Hit) :=
  if s.isEmpty || !s.startsWith "-" then .ok none
  else match exact level s with
  | some o => .ok (some ⟨some o, s, none⟩)
  | none =>
    if s.length = 1 then .ok none
    else
      let (pre, value) := splitEq s
      match value, exact level pre with
      | some v, some o => .ok (some ⟨some o, pre, some v⟩)
      | _, _ =>
        match candidates level s with
        | [h] => .ok (some h)
        | [] =>
          if negativeNumber s || s.contains ' ' then .ok none
          else .ok (some ⟨none, s, none⟩)
        | hs => .error (.refuse which ("ambiguous option: " ++ s ++ " could match " ++
            ", ".intercalate (hs.map (·.spelled))))

/-- Sorts the words of a command line at a level. -/
def classify (level : Level) (which : Option String) :
    List String → Except Stop (List (Mark × Option Hit))
  | [] => .ok []
  | "--" :: rest => .ok ((.dashes, none) :: rest.map fun _ => (.word, none))
  | s :: rest => do
    let h ← readOption level which s
    let r ← classify level which rest
    pure ((if h.isSome then .option else .word, h) :: r)

/-- How many words a one-word slot matches at the front of the marks. -/
def matchOne (ms : List Mark) : Option Nat :=
  let d := (ms.takeWhile (· == .dashes)).length
  match ms.drop d with
  | .word :: rest => some (d + 1 + (rest.takeWhile (· == .dashes)).length)
  | _ => none

/-- How many words the subcommand slot matches: all, when a positional word comes first. -/
def matchRest (ms : List Mark) : Option Nat :=
  let d := (ms.takeWhile (· == .dashes)).length
  match ms.drop d with
  | .word :: _ => some ms.length
  | _ => none

/-- How many words each of the slots matches in turn, if all of them match. -/
def matchSlots : List Slot → List Mark → Option (List Nat)
  | [], _ => some []
  | s :: rest, ms => do
    let n ← match s with
      | .word _ => matchOne ms
      | .command _ => matchRest ms
    let ns ← matchSlots rest (ms.drop n)
    pure (n :: ns)

def matchPartial (slots : List Slot) (ms : List Mark) : List Nat :=
  ((List.range slots.length).reverse.findSome? fun i => matchSlots (slots.take (i + 1)) ms).getD []

/-- The state of reading one level. -/
structure Reading where
  values : Table Setting := Table.empty
  slots : List Slot
  extras : List String := []
  /-- Words the subcommand's level left aside. -/
  later : List String := []

def dropDashes : List String → List String
  | [] => []
  | "--" :: rest => rest
  | w :: rest => w :: dropDashes rest

def slice (xs : List String) (i j : Nat) : List String := (xs.drop i).take (j - i)

section Reading

variable (level : Level) (which : Option String)
  (command : List String → Except Stop (String × Table Setting × List String))
  (args : List String) (marks : List Mark) (hits : List (Option Hit))

/-- Gives a positional slot its words. -/
def takeSlot (r : Reading) (slot : Slot) (ws : List String) : Except Stop Reading :=
  match slot with
  | .word name => .ok { r with values := r.values.set name (.words (dropDashes ws)) }
  | .command name => do
    let (chosen, vals, later) ← command ws
    let values := vals.entries.foldl (fun t p => t.set p.1 p.2) (r.values.set name (.words [chosen]))
    pure { r with values, later := r.later ++ later }

/-- Takes the positional slots that match from word `start`; gives where they stop. -/
def takePositionals (r : Reading) (start : Nat) : Except Stop (Reading × Nat) := do
  let counts := matchPartial r.slots (marks.drop start)
  let taken := r.slots.zip counts
  let r' := { r with slots := r.slots.drop counts.length }
  taken.foldlM (fun (acc : Reading × Nat) (p : Slot × Nat) => do
    let (r, i) := acc
    let r ← takeSlot command r p.1 (slice args i (i + p.2))
    pure (r, i + p.2)) (r', start)

def misuse (o : Opt) (message : String) : Stop :=
  .refuse which ("argument " ++ o.name ++ ": " ++ message)

/-- Applies what options were given, in order; the help option stops the reading. -/
def applyOptions (r : Reading) : List (Opt × List String) → Except Stop Reading
  | [] => .ok r
  | (o, ws) :: rest =>
    match o.kind with
    | .help => .error (.help which)
    | .switch => applyOptions { r with values := r.values.set o.dest .on } rest
    | .value => applyOptions { r with values := r.values.set o.dest (.words ws) } rest

/-- Reads short options run together in one word after a switch: each next letter must be a
short option, until one takes the rest as its value. Gives the options met with their words,
and the last option met when nothing was left for it. -/
def chain : Nat → Opt → String → String → List (Opt × List String) →
    Except Stop (List (Opt × List String) × Option Opt)
  | 0, _, _, _, acc => .ok (acc, none)
  | fuel + 1, o, spelled, x, acc =>
    if o.kind ≠ .value && !spelled.startsWith "--" && !x.isEmpty then
      let acc := acc ++ [(o, [])]
      let next := "-" ++ String.ofList (x.toList.take 1)
      match exact level next with
      | some o' =>
        let rest := String.ofList (x.toList.drop 1)
        if rest.isEmpty then .ok (acc, some o') else chain fuel o' next rest acc
      | none => .error (misuse which o ("ignored explicit argument " ++ Text.quote x))
    else if o.kind = .value then .ok (acc ++ [(o, dropDashes [x])], none)
    else .error (misuse which o ("ignored explicit argument " ++ Text.quote x))

/-- Takes an option at word `start` that has no value attached, after the options `pre`
met in the same word: an option with a value takes the next word, which must be positional;
any other takes none. -/
def takeBare (r : Reading) (start : Nat) (pre : List (Opt × List String)) (o : Opt) :
    Except Stop (Reading × Nat) :=
  match o.kind with
  | .value =>
    if marks[start + 1]? = some .word then do
      let r ← applyOptions which r (pre ++ [(o, dropDashes (slice args (start + 1) (start + 2)))])
      pure (r, start + 2)
    else .error (misuse which o "expected one argument")
  | _ => do
    let r ← applyOptions which r (pre ++ [(o, [])])
    pure (r, start + 1)

/-- Takes the option at word `start`; gives where its words stop. -/
def takeOption (r : Reading) (start : Nat) : Except Stop (Reading × Nat) := do
  let some (some h) := hits[start]? | pure (r, start + 1)
  match h.opt with
  | none => pure ({ r with extras := r.extras ++ [h.spelled] }, start + 1)
  | some o =>
    match h.attached with
    | some x =>
      match ← chain level which (x.length + 1) o h.spelled x [] with
      | (opts, none) =>
        let r ← applyOptions which r opts
        pure (r, start + 1)
      | (opts, some o') => takeBare which args marks r start opts o'
    | none => takeBare which args marks r start [] o

/-- Takes positional slots and options in turn until the last option is passed. -/
def alternate (optionAt : List Nat) : Nat → Reading → Nat → Except Stop (Reading × Nat)
  | 0, r, start => .ok (r, start)
  | fuel + 1, r, start =>
    match optionAt.filter (start ≤ ·) with
    | [] => .ok (r, start)
    | next :: _ => do
      let (r, reached) ← if start ≠ next then takePositionals command args marks r start
        else pure (r, start)
      if reached > start then alternate optionAt fuel r reached
      else
        let r := if start < next then { r with extras := r.extras ++ slice args start next }
          else r
        let (r, stop) ← takeOption level which args marks hits r next
        alternate optionAt fuel r stop

end Reading

/-- Reads the words of one level into its settings and the words it leaves aside: its own
first, then those its subcommand left. -/
def readLevel (level : Level) (which : Option String) (slots : List Slot)
    (command : List String → Except Stop (String × Table Setting × List String))
    (args : List String) : Except Stop (Table Setting × List String) := do
  let sorted ← classify level which args
  let marks := sorted.map (·.1)
  let hits := sorted.map (·.2)
  let optionAt := (List.range args.length).filter fun i => marks[i]? = some .option
  let (r, start) ← alternate level which command args marks hits optionAt (args.length + 1)
    { slots } 0
  let (r, stop) ← takePositionals command args marks r start
  let r := { r with extras := r.extras ++ args.drop stop }
  let missing := r.slots.map fun
    | .word n => n
    | .command n => n
  if !missing.isEmpty then
    throw (.refuse which ("the following arguments are required: " ++ ", ".intercalate missing))
  pure (r.values, r.extras ++ r.later)

/-- Reads a command line by a grammar into the settings of the top level and of the chosen
subcommand. -/
def read (g : Grammar) (args : List String) : Except Stop (Table Setting) := do
  let command (ws : List String) : Except Stop (String × Table Setting × List String) :=
    match ws with
    | [] => .error (.refuse none ("the following arguments are required: " ++ g.commandDest))
    | name :: rest =>
      match g.commands.find? (·.1 == name) with
      | some (_, _, level) => do
        let (vals, aside) ← readLevel level (some name) (level.words.map .word)
          (fun _ => .error (.refuse (some name) "unexpected subcommand")) rest
        pure (name, vals, aside)
      | none => .error (.refuse none ("argument " ++ g.commandDest ++ ": invalid choice: " ++
          Text.quote name ++ " (choose from " ++
          ", ".intercalate (g.commands.map fun c => Text.quote c.1) ++ ")"))
  let (vals, aside) ← readLevel g.top none [.command g.commandDest] command args
  if !aside.isEmpty then
    throw (.refuse none ("unrecognized arguments: " ++ " ".intercalate aside))
  pure vals

def Setting.word? : Setting → Option String
  | .words ws => ws.getLast?
  | .on => none

end Phrasebook.Cli
