import Phrasebook.Text.Quoted

/-!
Command-line grammars and how they are shown.

A grammar has a top level and a choice of subcommands. Each level has a program name, an
optional description, named options and positional words; at the top level the positional
slot is the subcommand, which takes every word after it. An option either shows the help
page, sets a switch, or takes one value.

A level is shown by a usage line and a help page, both laid out for a width of 78 columns.
The usage line is `usage: ` and the program name followed by each option in brackets, then
the positional words; when that does not fit, the options are filled after the name and the
positional words start a line of their own, both indented under the first option. The help
page holds the usage line, the description, and the sections `positional arguments:` and
`options:` (a section with no entries is left out), blank lines between; each entry shows how
it is written and its help, the help starting in one column for the whole page (at most 24),
or on the next line when the entry is too wide.
-/

namespace Phrasebook.Cli

/-- What an option does when it is given. -/
inductive OptKind where
  /-- Shows the help page and ends the run. -/
  | help
  /-- Sets a switch. -/
  | switch
  /-- Takes one word as its value. -/
  | value
deriving Inhabited, BEq, DecidableEq, Repr

/-- A named option: its spellings, where its value is kept, what it does, and its help. -/
structure Opt where
  spellings : List String
  dest : String
  kind : OptKind
  help : Option String := none
deriving Inhabited, Repr

/-- One level of a grammar. -/
structure Level where
  prog : String
  description : Option String := none
  options : List Opt
  /-- The positional words, each taking exactly one word of the command line. -/
  words : List String := []
deriving Inhabited, Repr

/-- A grammar: the top level, where the chosen subcommand is kept, and the subcommands with
their help. -/
structure Grammar where
  top : Level
  commandDest : String
  commands : List (String × Option String × Level)
deriving Inhabited, Repr

def width : Nat := 78

def helpColumn : Nat := 24

def spaces (n : Nat) : String := String.ofList (List.replicate n ' ')

def padRight (s : String) (n : Nat) : String := s ++ spaces (n - s.length)

namespace Opt

def metavar (o : Opt) : String := o.dest.toUpper

def name (o : Opt) : String := "/".intercalate o.spellings

/-- How an option is shown in the usage line. -/
def usagePart (o : Opt) : String :=
  let first := o.spellings.headD ""
  match o.kind with
  | .value => "[" ++ first ++ " " ++ o.metavar ++ "]"
  | _ => "[" ++ first ++ "]"

def invocation (o : Opt) : String :=
  match o.kind with
  | .value => ", ".intercalate (o.spellings.map fun s => s ++ " " ++ o.metavar)
  | _ => ", ".intercalate o.spellings

end Opt

def choices (g : Grammar) : String :=
  "\x7b" ++ ",".intercalate (g.commands.map (·.1)) ++ "\x7d"

/-- Fills parts into lines no wider than the width, each line after the first led by
`indent`; the first line is led by `indent` too unless a prefix of `lead` characters stands
before it. -/
def fillParts (indent : String) (lead : Option Nat) (parts : List String) : List String :=
  let start := match lead with
    | some n => n - 1
    | none => indent.length - 1
  let (lines, line, _) := parts.foldl (fun (acc : List String × List String × Nat) part =>
    let (lines, line, len) := acc
    if len + 1 + part.length > width && !line.isEmpty then
      (lines ++ [indent ++ " ".intercalate line], [part], indent.length + part.length)
    else (lines, line ++ [part], len + part.length + 1)) ([], [], start)
  let lines := if line.isEmpty then lines else lines ++ [indent ++ " ".intercalate line]
  match lead, lines with
  | some _, first :: rest => String.ofList (first.toList.drop indent.length) :: rest
  | _, ls => ls

/-- The usage line of a program with option parts and positional parts. -/
def usageLine (prog : String) (optParts posParts : List String) : String :=
  let lead := "usage: "
  let whole := " ".intercalate (prog :: optParts ++ posParts)
  if lead.length + whole.length ≤ width then lead ++ whole
  else
    let lines :=
      if 4 * (lead.length + prog.length) ≤ 3 * width then
        let indent := spaces (lead.length + prog.length + 1)
        if !optParts.isEmpty then
          fillParts indent (some lead.length) (prog :: optParts) ++ fillParts indent none posParts
        else if !posParts.isEmpty then fillParts indent (some lead.length) (prog :: posParts)
        else [prog]
      else
        let indent := spaces lead.length
        let all := fillParts indent none (optParts ++ posParts)
        let body := if all.length > 1 then
            fillParts indent none optParts ++ fillParts indent none posParts
          else all
        prog :: body
    lead ++ "\n".intercalate lines

def posParts (g : Grammar) (which : Option String) (level : Level) : List String :=
  match which with
  | none => level.words ++ (if g.commands.isEmpty then [] else [choices g, "..."])
  | some _ => level.words

/-- The level a subcommand name selects, or the top level. -/
def levelOf (g : Grammar) : Option String → Level
  | none => g.top
  | some name => match g.commands.find? (·.1 == name) with
    | some (_, _, l) => l
    | none => g.top

def usage (g : Grammar) (which : Option String) : String :=
  let level := levelOf g which
  usageLine level.prog (level.options.map Opt.usagePart) (posParts g which level)

/-- Breaks a text into lines of at most `n` characters at its blanks. -/
def wrap (n : Nat) (text : String) : List String :=
  let words := (text.splitOn " ").filter (!·.isEmpty)
  let (lines, line) := words.foldl (fun (acc : List String × String) w =>
    let (lines, line) := acc
    if line.isEmpty then (lines, w)
    else if line.length + 1 + w.length ≤ n then (lines, line ++ " " ++ w)
    else (lines ++ [line], w)) ([], "")
  if line.isEmpty then lines else lines ++ [line]

/-- One entry of a help section: how it is written, its help, and its indent. -/
structure Entry where
  invocation : String
  help : Option String
  indent : Nat := 2

/-- The lines of one help entry, with help starting at column `col`. -/
def Entry.render (col : Nat) (e : Entry) : String :=
  let room := col - e.indent - 2
  let helpWidth := max (width - col) 11
  match e.help with
  | none => spaces e.indent ++ e.invocation ++ "\n"
  | some h =>
    let lines := wrap helpWidth h
    let (head, first) :=
      if e.invocation.length ≤ room then (spaces e.indent ++ padRight e.invocation room ++ "  ", 0)
      else (spaces e.indent ++ e.invocation ++ "\n", col)
    match lines with
    | [] => head ++ "\n"
    | l :: rest => head ++ spaces first ++ l ++ "\n" ++
        String.join (rest.map fun r => spaces col ++ r ++ "\n")

/-- The entries of a level's two sections: positional words, then options. -/
def sections (g : Grammar) (which : Option String) : List Entry × List Entry :=
  let level := levelOf g which
  let words := level.words.map fun w => ({ invocation := w, help := none } : Entry)
  let commands : List Entry := match which with
    | none =>
      if g.commands.isEmpty then []
      else { invocation := choices g, help := none } ::
        g.commands.map fun c => { invocation := c.1, help := c.2.1, indent := 4 }
    | some _ => []
  let opts := level.options.map fun o => ({ invocation := o.invocation, help := o.help } : Entry)
  (words ++ commands, opts)

/-- The help page of a level. -/
def helpPage (g : Grammar) (which : Option String) : String :=
  let level := levelOf g which
  let (pos, opts) := sections g which
  let widest := (pos ++ opts).foldl (fun m e => max m (e.invocation.length + 2)) 0
  let col := min (widest + 2) helpColumn
  let part (title : String) (es : List Entry) : List String :=
    if es.isEmpty then [] else [title ++ ":\n" ++ String.join (es.map (Entry.render col))]
  let description := match level.description with
    | some d => ["\n".intercalate (wrap width d) ++ "\n"]
    | none => []
  let parts := [usage g which ++ "\n"] ++ description ++ part "positional arguments" pos ++
    part "options" opts
  "\n".intercalate parts

def refusal (g : Grammar) (which : Option String) (message : String) : String :=
  usage g which ++ "\n" ++ (levelOf g which).prog ++ ": error: " ++ message ++ "\n"

end Phrasebook.Cli
