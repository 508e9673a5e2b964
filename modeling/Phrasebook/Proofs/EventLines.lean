import Phrasebook.Log.Journal

/-!
The lines of announced events.

A template is text with holes: `{name}` stands for the field `name`. Read as pieces, runs of
text and holes with no brace inside either, filling a template is one pass over its pieces
(`fill_pieces`): every hole is replaced by the display of its field, and what a display holds,
braces included, is never read again; when some hole's field is missing, the template stands
as it is. Every template of the catalogue is made of such pieces (`template_pieces`).

So an event is written as the catalogue says (`announce_renders_catalogue`): once, at its
severity, when the logger passes that severity; named by its domain and action; labelled by its
`locale` field when that is a text; with the text given, else its template filled from its
fields, else its domain and action spelled out and marked as derived; and with every field but
`locale` in its context.
-/

namespace Phrasebook.Log

/-! ### Templates as pieces -/

/-- A piece of a template: a run of text, or a hole named by a field. -/
inductive Piece where
  | text (s : List Char)
  | hole (name : List Char)
deriving DecidableEq, Repr

namespace Piece

/-- How a piece is written in a template. -/
def written : Piece → List Char
  | .text s => s
  | .hole n => '{' :: n ++ ['}']

/-- A piece as a template holds it: no brace in a run of text or in the name of a hole. -/
def Plain : Piece → Prop
  | .text s => '{' ∉ s ∧ '}' ∉ s
  | .hole n => '{' ∉ n ∧ '}' ∉ n

instance (p : Piece) : Decidable p.Plain :=
  match p with
  | .text s => inferInstanceAs (Decidable ('{' ∉ s ∧ '}' ∉ s))
  | .hole n => inferInstanceAs (Decidable ('{' ∉ n ∧ '}' ∉ n))

/-- A piece filled from fields: a run of text as it stands, a hole as the display of its
field, and nothing for a hole whose field is missing. -/
def filled (fields : List (String × Value)) : Piece → Option (List Char)
  | .text s => some s
  | .hole n => (Table.lookup fields (String.ofList n)).map fun v => v.display.toList

end Piece

/-- A template written out from its pieces. -/
def writePieces (ps : List Piece) : String := String.ofList (ps.flatMap Piece.written)

/-- Reads a template into pieces: the text before the first opening brace, then, after each
opening brace, a hole up to the closing brace and the text after that. -/
def templatePieces (cs : List Char) : List Piece :=
  match cs.splitOn '{' with
  | [] => []
  | t :: rest => .text t :: rest.flatMap fun c =>
      [.hole (c.takeWhile (· != '}')), .text ((c.dropWhile (· != '}')).drop 1)]

/-! ### Filling is one pass -/

section Filling

variable (fields : List (String × Value))

theorem fillChars_text {s : List Char} (hs : '{' ∉ s) (rest : List Char) :
    fillChars fields (s ++ rest) = (fillChars fields rest).map (s ++ ·) := by
  induction s with
  | nil => simp
  | cons c s ih =>
    have hc : c ≠ '{' := fun h => hs (h ▸ List.mem_cons_self)
    rw [List.cons_append, fillChars, ih (fun h => hs (List.mem_cons_of_mem c h)), Option.map_map]
    · rfl
    · exact hc

theorem fillHole_name {n : List Char} (hn : '}' ∉ n) (acc rest : List Char) :
    fillHole fields acc (n ++ '}' :: rest) =
      (Table.lookup fields (String.ofList (acc.reverse ++ n))).bind fun v =>
        (fillChars fields rest).map (v.display.toList ++ ·) := by
  induction n generalizing acc with
  | nil =>
    rw [List.nil_append, fillHole, List.append_nil]
    cases Table.lookup fields (String.ofList acc.reverse) <;> rfl
  | cons c n ih =>
    have hc : c ≠ '}' := fun h => hn (h ▸ List.mem_cons_self)
    rw [List.cons_append, fillHole, ih (fun h => hn (List.mem_cons_of_mem c h))]
    · simp
    · exact hc

theorem fillChars_pieces : ∀ ps : List Piece, (∀ p ∈ ps, p.Plain) →
    fillChars fields (ps.flatMap Piece.written) =
      (ps.mapM (Piece.filled fields)).map List.flatten
  | [], _ => rfl
  | .text s :: ps, h => by
    have hs : '{' ∉ s := (h (.text s) List.mem_cons_self).1
    rw [List.flatMap_cons, Piece.written, fillChars_text fields hs,
      fillChars_pieces ps fun p hp => h p (List.mem_cons_of_mem _ hp), List.mapM_cons]
    simp only [Piece.filled]
    cases ps.mapM (Piece.filled fields) <;> rfl
  | .hole n :: ps, h => by
    have hn : '}' ∉ n := (h (.hole n) List.mem_cons_self).2
    simp only [List.flatMap_cons, Piece.written, List.cons_append, List.append_assoc,
      List.nil_append]
    rw [fillChars.eq_2, fillHole_name fields hn, List.reverse_nil, List.nil_append,
      fillChars_pieces ps fun p hp => h p (List.mem_cons_of_mem _ hp), List.mapM_cons]
    simp only [Piece.filled]
    cases Table.lookup fields (String.ofList n) <;> cases ps.mapM (Piece.filled fields) <;> rfl

theorem fill_pieces (ps : List Piece) (hps : ∀ p ∈ ps, p.Plain) :
    fill (writePieces ps) fields =
      (((ps.mapM (Piece.filled fields)).map fun parts => String.ofList parts.flatten).getD
        (writePieces ps)) := by
  unfold fill writePieces
  rw [String.toList_ofList, fillChars_pieces fields ps hps]
  cases ps.mapM (Piece.filled fields) <;> rfl

end Filling

/-- A field whose display is itself a hole is not filled again. -/
example : fill "{url} {key}" [("key", .str "x"), ("url", .str "{key}")] = "{key} x" := by
  decide

theorem template_pieces {d a tpl : String} (h : template? d a = some tpl) :
    (∀ p ∈ templatePieces tpl.toList, p.Plain) ∧
      (templatePieces tpl.toList).flatMap Piece.written = tpl.toList := by
  unfold template? at h
  split at h <;> (try cases h) <;> decide +kernel

/-! ### The line of an event -/

/-- The label an event's fields give: the `locale` field when it is a text, `-` otherwise. -/
def localeLabel (fields : List (String × Value)) : String :=
  ((Table.lookup fields "locale").bind Value.asString?).getD "-"

/-- The human text the catalogue gives an event that has none of its own, and whether it is
derived from the event's name alone: the event's template, filled in one pass from the fields
or standing as it is when a field is missing; with no template, the domain and the action
spelled out. -/
def catalogueText (d a : String) (fields : List (String × Value)) : String × Bool :=
  (template? d a).elim (Event.spaced d ++ ": " ++ Event.spaced a, true) fun tpl =>
    let ps := templatePieces tpl.toList
    (((ps.mapM (Piece.filled fields)).map fun parts => String.ofList parts.flatten).getD tpl,
      false)

namespace Event

theorem text_of_human (d a h : String) (fields : List (String × Value)) :
    (⟨d, a, some (.str h), fields⟩ : Event).text = (.str h, false) := rfl

theorem text_of_catalogue (d a : String) (fields : List (String × Value)) :
    (⟨d, a, none, fields⟩ : Event).text =
      (.str (catalogueText d a fields).1, (catalogueText d a fields).2) := by
  unfold text catalogueText
  dsimp only
  cases h : template? d a with
  | none => rfl
  | some tpl =>
    -- the template is the writing of its pieces, so filling it is filling them
    obtain ⟨hplain, hwritten⟩ := template_pieces h
    have hfill := fill_pieces fields _ hplain
    rw [writePieces, hwritten, String.ofList_toList] at hfill
    simp only [Option.elim, hfill]

theorem label_eq (e : Event) :
    e.label = "[" ++ Text.ofPoints ((Text.points (localeLabel e.fields) ++
      List.replicate (6 - (Text.points (localeLabel e.fields)).length)
        (Text.Point.char ' ')).take 12) ++ "]" := by
  unfold label localeLabel
  cases Table.lookup e.fields "locale" with
  | none => rfl
  | some v => cases v <;> rfl

theorem context_eq (e : Event) :
    e.context = (e.fields ++ if e.text.2 && (Table.lookup e.fields "derived").isNone
      then [("derived", Value.bool true)] else []).filter fun p => p.1 != "locale" := by
  unfold context
  split <;> simp [Table.erase, bne]

end Event

/-- An event is written as the catalogue says. It is written once, at its severity, when the
logger passes that severity, and not at all otherwise. It is named by its domain and action,
joined by `_` and lower-cased. It is labelled by its `locale` field when that is a text, and by
`-` otherwise, padded to six points and cut at twelve. Its text is the one given, else its
template filled from its fields in one pass, or the template as it stands when a field is
missing, else its domain and action spelled out, and only then is the text derived. Its
context is its fields with `derived=True` after them for a derived text, unless a field of that
name is given, and never the field `locale`. -/
theorem announce_renders_catalogue (j : Journal) (level : Level) (d a : String)
    (human : Option String) (fields : List (String × Value)) :
    let e : Event := ⟨d, a, human.map .str, fields⟩
    let text := human.elim (catalogueText d a fields) fun h => (h, false)
    let label := localeLabel fields
    (j.announce level e).records = j.records ++
        (if Level.passes j.threshold level then [⟨level, e.line j.detailed⟩] else []) ∧
      e.name = Text.lower (d ++ "_" ++ a) ∧
      e.label = "[" ++ Text.ofPoints ((Text.points label ++
        List.replicate (6 - (Text.points label).length) (Text.Point.char ' ')).take 12) ++ "]" ∧
      e.text = (.str text.1, text.2) ∧
      e.context = (fields ++ if text.2 && (Table.lookup fields "derived").isNone
        then [("derived", Value.bool true)] else []).filter fun p => p.1 != "locale" := by
  intro e text label
  have htext : e.text = (.str text.1, text.2) := by
    cases human with
    | none => exact Event.text_of_catalogue d a fields
    | some h => exact Event.text_of_human d a h fields
  refine ⟨?_, rfl, Event.label_eq e, htext, ?_⟩
  · unfold Journal.announce Journal.write
    split <;> simp
  · rw [Event.context_eq, htext]

end Phrasebook.Log
