import Phrasebook.Proofs.Reading

/-!
Rendering pairs as a catalog source, and reading them back.

A list of keys and texts is rendered one pair to a line, `key = text`, the lines joined by line
feeds. The reading gives back exactly the pairs when they are well formed: distinct keys, each
key and text already trimmed and on one line, no `=` in a key and no key that would start a
comment, and a first key that the byte-order mark the reading drops cannot eat
(`parse_render`). The rendering is made to survive the reading's boundaries: the blanks around
` = ` are trimmed away, a text may hold `=` since the line is split at its first one, an empty key
or text leaves the line ` = `, and a line ends in a character that is not blank, so the carriage
return the reading cuts off is never there. Conversely every pair of every catalog read from any
source is in that form (`entryForm_of_parse`). `parse_render_round_trip` states both.
-/

namespace Phrasebook.Text

theorem dropWhile_blank_eq_self {l : List Char} (h : ∀ c ∈ l.head?, isBlank c = false) :
    l.dropWhile isBlank = l := by
  cases l with
  | nil => rfl
  | cons c cs => exact List.dropWhile_cons_of_neg (by simp [h c rfl])

theorem trimList_eq_self {l : List Char} (hh : ∀ c ∈ l.head?, isBlank c = false)
    (hl : ∀ c ∈ l.getLast?, isBlank c = false) : trimList l = l := by
  unfold trimList
  rw [dropWhile_blank_eq_self hh, dropWhile_blank_eq_self (by simpa using hl), List.reverse_reverse]

theorem head?_trimList (l : List Char) : (trimList l).head? = (l.dropWhile isBlank).head? := by
  unfold trimList
  rw [List.head?_reverse]
  generalize hd : l.dropWhile isBlank = d
  cases d with
  | nil => rfl
  | cons c ds =>
    have hc : isBlank c = false := by
      have := List.head?_dropWhile_not isBlank l
      rw [hd] at this
      exact this
    rw [List.reverse_cons, List.dropWhile_append]
    split <;> simp [hc]

theorem head?_trimList_not_blank (l : List Char) :
    ∀ c ∈ (trimList l).head?, isBlank c = false := by
  intro c hc
  rw [head?_trimList] at hc
  have := List.head?_dropWhile_not isBlank l
  rw [Option.mem_def.1 hc] at this
  exact this

theorem getLast?_trimList_not_blank (l : List Char) :
    ∀ c ∈ (trimList l).getLast?, isBlank c = false := by
  intro c hc
  unfold trimList at hc
  rw [List.getLast?_reverse] at hc
  have := List.head?_dropWhile_not isBlank (l.dropWhile isBlank).reverse
  rw [Option.mem_def.1 hc] at this
  exact this

theorem trimList_trimList (l : List Char) : trimList (trimList l) = trimList l :=
  trimList_eq_self (head?_trimList_not_blank l) (getLast?_trimList_not_blank l)

theorem trimList_append_blanks {xs ys : List Char} (h : ∀ c ∈ ys, isBlank c = true) :
    trimList (xs ++ ys) = trimList xs := by
  unfold trimList
  rw [List.dropWhile_append]
  split
  next hxs =>
    rw [List.isEmpty_iff.1 hxs]
    have hys : ys.dropWhile isBlank = [] := by
      rw [← List.append_nil ys, List.dropWhile_append_of_pos h]
      rfl
    rw [hys]
  next =>
    have hr : ∀ c ∈ ys.reverse, isBlank c = true := by simpa using h
    rw [List.reverse_append, List.dropWhile_append_of_pos hr]

theorem trimList_blanks_append {xs ys : List Char} (h : ∀ c ∈ ys, isBlank c = true) :
    trimList (ys ++ xs) = trimList xs := by
  unfold trimList
  rw [List.dropWhile_append_of_pos h]

theorem mem_of_mem_trimList {c : Char} {l : List Char} (h : c ∈ trimList l) : c ∈ l := by
  unfold trimList at h
  rw [List.mem_reverse] at h
  have h₁ := (List.dropWhile_sublist isBlank).subset h
  rw [List.mem_reverse] at h₁
  exact (List.dropWhile_sublist isBlank).subset h₁

theorem trimList_toList {s : String} (h : trim s = s) : trimList s.toList = s.toList := by
  have := congrArg String.toList h
  rwa [trim, String.toList_ofList] at this

theorem trim_ofList_trimList (cs : List Char) :
    trim (String.ofList (trimList cs)) = String.ofList (trimList cs) := by
  rw [trim, String.toList_ofList, trimList_trimList]

theorem head?_not_blank {s : String} (h : trim s = s) :
    ∀ c ∈ s.toList.head?, isBlank c = false := by
  rw [← trimList_toList h]
  exact head?_trimList_not_blank _

theorem getLast?_not_blank {s : String} (h : trim s = s) :
    ∀ c ∈ s.toList.getLast?, isBlank c = false := by
  rw [← trimList_toList h]
  exact getLast?_trimList_not_blank _

theorem head?_dropWhile_append {a b : List Char} {c : Char}
    (h : (a.dropWhile isBlank).head? = some c) : ((a ++ b).dropWhile isBlank).head? = some c := by
  rw [List.dropWhile_append]
  split
  next he =>
    rw [List.isEmpty_iff.1 he] at h
    cases h
  next =>
    rw [List.head?_append, h]
    rfl

end Phrasebook.Text

namespace Phrasebook.Table

theorem mem_assign {α : Type} {ps : List (String × α)} {k : String} {v : α} {p : String × α}
    (h : p ∈ assign ps k v) : p ∈ ps ∨ p = (k, v) := by
  induction ps with
  | nil => exact Or.inr (List.mem_singleton.1 h)
  | cons q ps ih =>
    obtain ⟨k', v'⟩ := q
    simp only [assign] at h
    split at h
    · rcases List.mem_cons.1 h with rfl | h
      · exact Or.inr rfl
      · exact Or.inl (List.mem_cons_of_mem _ h)
    · rcases List.mem_cons.1 h with rfl | h
      · exact Or.inl List.mem_cons_self
      · rcases ih h with h | rfl
        · exact Or.inl (List.mem_cons_of_mem _ h)
        · exact Or.inr rfl

end Phrasebook.Table

namespace Phrasebook.Catalog

open Text

variable {locale : Value}

/-- A key and a text that the line `key = text` gives back as they are: both trimmed and on
one line, and a key with no `=` that does not start a comment. -/
def EntryForm (key text : String) : Prop :=
  trim key = key ∧ trim text = text ∧ '\n' ∉ key.toList ∧ '\n' ∉ text.toList ∧
    '=' ∉ key.toList ∧ key.toList.head? ≠ some '#'

/-- Pairs a source can hold one to a line: distinct keys, each pair in entry form, and a first
key that does not start with the byte-order mark the reading drops. -/
def WellFormed (ps : List (String × String)) : Prop :=
  (ps.map Prod.fst).Nodup ∧ (∀ p ∈ ps, EntryForm p.1 p.2) ∧
    ∀ p ∈ ps.head?, p.1.toList.head? ≠ some bom

/-- The line `key = text`. -/
def renderLine (p : String × String) : String := p.1 ++ " = " ++ p.2

/-- The source of pairs: their lines joined by line feeds. -/
def render (ps : List (String × String)) : String := "\n".intercalate (ps.map renderLine)

/-! ### Splitting at the first `=` -/

theorem splitFirst_eq_some {raw a b : List Char} (h : splitFirst raw = some (a, b)) :
    raw = a ++ '=' :: b ∧ '=' ∉ a := by
  induction raw generalizing a with
  | nil => cases h
  | cons c cs ih =>
    simp only [splitFirst] at h
    split at h
    next hc =>
      cases h
      exact ⟨by rw [hc]; rfl, List.not_mem_nil⟩
    next hc =>
      obtain ⟨⟨a', b'⟩, hs, he⟩ := Option.map_eq_some_iff.1 h
      cases he
      obtain ⟨hcs, ha'⟩ := ih hs
      refine ⟨by rw [hcs]; rfl, ?_⟩
      rw [List.mem_cons, not_or]
      exact ⟨Ne.symm hc, ha'⟩

theorem splitFirst_append {a b : List Char} (ha : '=' ∉ a) :
    splitFirst (a ++ '=' :: b) = some (a, b) := by
  induction a with
  | nil => simp [splitFirst]
  | cons c cs ih =>
    rw [List.mem_cons, not_or] at ha
    simp [splitFirst, Ne.symm ha.1, ih ha.2]

/-! ### Skipped lines -/

theorem skipped_eq_of_head? {raw : List Char} {c : Char}
    (h : (raw.dropWhile isBlank).head? = some c) : skipped raw = decide (c = '#') := by
  rw [← head?_trimList] at h
  unfold skipped
  cases ht : trimList raw with
  | nil =>
    rw [ht] at h
    cases h
  | cons c' cs =>
    rw [ht] at h
    cases h
    rfl

/-! ### One line -/

theorem toList_renderLine (p : String × String) :
    (renderLine p).toList = p.1.toList ++ ' ' :: '=' :: ' ' :: p.2.toList := by
  simp [renderLine]

/-- The line of a pair in entry form reads back as that pair. -/
theorem classify_renderLine {p : String × String} (h : EntryForm p.1 p.2) :
    classify (renderLine p).toList = .entry p.1 p.2 := by
  obtain ⟨hk, ht, -, -, heq, hhash⟩ := h
  have hsplit : splitFirst (renderLine p).toList =
      some (p.1.toList ++ [' '], ' ' :: p.2.toList) := by
    have hl : p.1.toList ++ ' ' :: '=' :: ' ' :: p.2.toList =
        (p.1.toList ++ [' ']) ++ '=' :: ' ' :: p.2.toList := by simp
    rw [toList_renderLine, hl]
    apply splitFirst_append
    simp [heq]
  have hsp : ∀ c ∈ [' '], isBlank c = true := by
    intro c hc
    rw [List.mem_singleton.1 hc]
    rfl
  have hkey : trimList (p.1.toList ++ [' ']) = p.1.toList := by
    rw [trimList_append_blanks hsp, trimList_toList hk]
  have htext : trimList (' ' :: p.2.toList) = p.2.toList := by
    rw [← List.singleton_append, trimList_blanks_append hsp, trimList_toList ht]
  -- the first character other than a blank is the key's first, or `=` for an empty key
  have hkept : skipped (renderLine p).toList = false := by
    rw [toList_renderLine]
    cases hc : p.1.toList with
    | nil =>
      rw [skipped_eq_of_head? (c := '=') rfl]
      rfl
    | cons c cs =>
      have hb : isBlank c = false := head?_not_blank hk c (by simp [hc])
      have hd :
          ((c :: cs ++ ' ' :: '=' :: ' ' :: p.2.toList).dropWhile isBlank).head? = some c := by
        rw [List.cons_append, List.dropWhile_cons_of_neg (by simp [hb])]
        rfl
      rw [skipped_eq_of_head? hd, decide_eq_false_iff_not]
      intro hc'
      rw [hc, hc'] at hhash
      exact hhash rfl
  rw [classify_of_split hkept hsplit, hkey, htext, String.ofList_toList, String.ofList_toList]

/-! ### The whole source -/

theorem toList_render (ps : List (String × String)) :
    (render ps).toList = ['\n'].intercalate (ps.map fun p => (renderLine p).toList) := by
  simp [render, Function.comp_def]

theorem dropBom_eq_self {l : List Char} (h : l.head? ≠ some bom) : dropBom l = l := by
  cases l with
  | nil => rfl
  | cons c cs =>
    have hc : c ≠ bom := fun hc => h (by rw [hc]; rfl)
    simp [dropBom, hc]

theorem cutReturn_eq_self {l : List Char} (h : l.getLast? ≠ some '\r') : cutReturn l = l := by
  rw [cutReturn, if_neg h]

theorem getLast?_renderLine {p : String × String} (ht : trim p.2 = p.2) :
    (renderLine p).toList.getLast? ≠ some '\r' := by
  rw [toList_renderLine]
  cases hl : p.2.toList.getLast? with
  | none =>
    rw [List.getLast?_eq_none_iff.1 hl]
    simp
  | some c =>
    have hb := getLast?_not_blank ht c hl
    have hc : c ≠ '\r' := by
      rintro rfl
      exact absurd hb (by decide)
    simp [List.getLast?_append, List.getLast?_cons, hl, hc]

/-- The lines of a non-empty well-formed list of pairs are the lines of its pairs. -/
theorem lines_render {ps : List (String × String)} (hw : WellFormed ps) (hne : ps ≠ []) :
    lines (render ps) = ps.map fun p => (renderLine p).toList := by
  obtain ⟨-, hform, hbom⟩ := hw
  have hsep : ∀ l ∈ ps.map (fun p => (renderLine p).toList), '\n' ∉ l := by
    intro l hl
    obtain ⟨p, hp, rfl⟩ := List.mem_map.1 hl
    obtain ⟨-, -, hk, ht, -, -⟩ := hform p hp
    simp [toList_renderLine, hk, ht]
  -- the source starts with the first key, or with the space before `=` when that key is empty
  have hfirst : (render ps).toList.head? ≠ some bom := by
    obtain ⟨p, rest, rfl⟩ := List.exists_cons_of_ne_nil hne
    have hp := hbom p rfl
    rw [toList_render, List.map_cons, toList_renderLine]
    cases hc : p.1.toList with
    | nil => simp [bom]
    | cons c cs =>
      rw [hc] at hp
      simpa using hp
  rw [lines, dropBom_eq_self hfirst, toList_render,
    List.splitOn_intercalate _ hsep (by simpa using hne), List.map_map]
  apply List.map_congr_left
  intro p hp
  exact cutReturn_eq_self (getLast?_renderLine (hform p hp).2.1)

variable (locale) in
theorem entriesFrom_renderLines (n : Nat) {ps : List (String × String)}
    (h : ∀ p ∈ ps, EntryForm p.1 p.2) :
    ∃ es, entriesFrom locale n (ps.map fun p => (renderLine p).toList) = .ok es ∧
      es.map (fun e => (e.key, e.text)) = ps := by
  induction ps generalizing n with
  | nil => exact ⟨[], rfl, rfl⟩
  | cons p ps ih =>
    obtain ⟨es, hes, hmap⟩ := ih (n + 1) fun q hq => h q (List.mem_cons_of_mem _ hq)
    refine ⟨⟨n, p.1, p.2⟩ :: es, ?_, ?_⟩
    · simp only [List.map_cons, entriesFrom, classify_renderLine (h p List.mem_cons_self), hes]
      rfl
    · rw [List.map_cons, hmap]

variable (locale) in
/-- A well-formed list of pairs, rendered one to a line, reads back as exactly those pairs. -/
theorem parse_render {ps : List (String × String)} (hw : WellFormed ps) :
    parse (render ps) locale = .ok ⟨locale, ⟨ps⟩⟩ := by
  by_cases hne : ps = []
  · -- the empty source is one blank line
    subst hne
    have hes : entries (render []) locale = .ok [] := by
      apply entries_nil_of_skipped
      have hl : lines (render []) = [[]] := by decide
      rw [hl]
      intro l hl'
      rw [List.mem_singleton.1 hl']
      rfl
    exact parse_of_entries hes List.nodup_nil
  · obtain ⟨es, hes, hmap⟩ := entriesFrom_renderLines locale 1 hw.2.1
    have hentries : entries (render ps) locale = .ok es := by
      rw [entries, lines_render hw hne]
      exact hes
    have hkeys : es.map Entry.key = ps.map Prod.fst := by
      rw [← hmap, List.map_map]
      rfl
    have hnd : (es.map Entry.key).Nodup := by
      rw [hkeys]
      exact hw.1
    rw [parse_of_entries hentries hnd, hmap]

/-! ### What a reading can give -/

theorem not_mem_of_mem_splitOn {a : Char} {xs l : List Char} (h : l ∈ xs.splitOn a) :
    a ∉ l := by
  induction xs generalizing l with
  | nil =>
    rw [List.splitOn_nil, List.mem_singleton] at h
    rw [h]
    exact List.not_mem_nil
  | cons x xs ih =>
    rw [List.splitOn_cons_eq_if_modifyHead] at h
    split at h
    · rcases List.mem_cons.1 h with rfl | h
      · exact List.not_mem_nil
      · exact ih h
    -- `x` is not the separator and joins the first piece of the rest
    next hx =>
      obtain ⟨l₀, ls, hsplit⟩ := List.exists_cons_of_ne_nil (List.splitOn_ne_nil a xs)
      rw [hsplit, List.modifyHead_cons] at h
      rcases List.mem_cons.1 h with rfl | h
      · rw [List.mem_cons, not_or]
        refine ⟨fun hax => hx (by rw [hax]; exact beq_self_eq_true x), ih ?_⟩
        rw [hsplit]
        exact List.mem_cons_self
      · apply ih
        rw [hsplit]
        exact List.mem_cons_of_mem _ h

theorem newline_not_mem_lines {src : String} {l : List Char} (h : l ∈ lines src) :
    '\n' ∉ l := by
  obtain ⟨piece, hpiece, rfl⟩ := List.mem_map.1 h
  have hsub : cutReturn piece ⊆ piece := by
    unfold cutReturn
    split
    · exact List.dropLast_subset _
    · exact List.Subset.refl _
  exact fun hn => not_mem_of_mem_splitOn hpiece (hsub hn)

/-- Every entry read from lines is the reading of one of them. -/
theorem mem_entriesFrom {n : Nat} {ls : List (List Char)} {es : List Entry}
    (h : entriesFrom locale n ls = .ok es) :
    ∀ e ∈ es, ∃ raw ∈ ls, classify raw = .entry e.key e.text := by
  induction ls generalizing n es with
  | nil =>
    cases h
    intro e he
    cases he
  | cons l ls ih =>
    intro e he
    cases hc : classify l with
    | skip =>
      rw [entriesFrom_skip hc] at h
      obtain ⟨raw, hraw, hcl⟩ := ih h e he
      exact ⟨raw, List.mem_cons_of_mem _ hraw, hcl⟩
    | entry k t =>
      obtain ⟨es', hrest, rfl⟩ := entriesFrom_entry_eq_ok hc h
      rcases List.mem_cons.1 he with rfl | he
      · exact ⟨l, List.mem_cons_self, hc⟩
      · obtain ⟨raw, hraw, hcl⟩ := ih hrest e he
        exact ⟨raw, List.mem_cons_of_mem _ hraw, hcl⟩
    | malformed => exact absurd h (entriesFrom_malformed_ne_ok hc)

theorem mem_collect {t t' : Table (Nat × String)} {es : List Entry}
    (h : collect locale t es = .ok t') :
    ∀ p ∈ t'.entries, p ∈ t.entries ∨ ∃ e ∈ es, p = (e.key, (e.line, e.text)) := by
  induction es generalizing t with
  | nil =>
    cases h
    exact fun p hp => Or.inl hp
  | cons e es ih =>
    simp only [collect] at h
    split at h
    · cases h
    · intro p hp
      rcases ih h p hp with hp | ⟨e', he', rfl⟩
      · rcases Table.mem_assign hp with hp | rfl
        · exact Or.inl hp
        · exact Or.inr ⟨e, List.mem_cons_self, rfl⟩
      · exact Or.inr ⟨e', List.mem_cons_of_mem _ he', rfl⟩

/-- A line on which no line feed stands reads, if at all, into a pair in entry form. -/
theorem entryForm_of_classify {raw : List Char} {k t : String} (hn : '\n' ∉ raw)
    (h : classify raw = .entry k t) : EntryForm k t := by
  unfold classify at h
  split at h
  · cases h
  next hs =>
    split at h
    next a b hsplit =>
      cases h
      obtain ⟨hraw, ha⟩ := splitFirst_eq_some hsplit
      refine ⟨trim_ofList_trimList a, trim_ofList_trimList b, ?_, ?_, ?_, ?_⟩
      · rw [String.toList_ofList]
        intro hm
        exact hn (hraw ▸ List.mem_append_left _ (mem_of_mem_trimList hm))
      · rw [String.toList_ofList]
        intro hm
        have hb : '\n' ∈ b := mem_of_mem_trimList hm
        exact hn (hraw ▸ List.mem_append_right _ (List.mem_cons_of_mem _ hb))
      · rw [String.toList_ofList]
        exact fun hm => ha (mem_of_mem_trimList hm)
      -- a key starting with `#` would make the whole line a comment
      · rw [String.toList_ofList, head?_trimList]
        intro hh
        have hd := head?_dropWhile_append (b := '=' :: b) hh
        rw [← hraw] at hd
        exact hs (by rw [skipped_eq_of_head? hd]; rfl)
    · cases h

/-- Every pair of a catalog read from any source is in entry form. -/
theorem entryForm_of_parse {src : String} {c : Catalog} (h : parse src locale = .ok c) :
    ∀ p ∈ c.table.entries, EntryForm p.1 p.2 := by
  rw [parse_eq] at h
  cases hes : entries src locale with
  | error f =>
    rw [hes] at h
    cases h
  | ok es =>
    rw [hes] at h
    simp only [Except.bind] at h
    cases hcol : collect locale Table.empty es with
    | error f =>
      rw [hcol] at h
      cases h
    | ok t =>
      rw [hcol] at h
      cases h
      intro p hp
      obtain ⟨q, hq, rfl⟩ := List.mem_map.1 hp
      rcases mem_collect hcol q hq with hq | ⟨e, he, rfl⟩
      · cases hq
      · obtain ⟨raw, hraw, hcl⟩ := mem_entriesFrom hes e he
        exact entryForm_of_classify (newline_not_mem_lines hraw) hcl

/-- Reading inverts rendering on well-formed pairs, and every pair a reading gives is in entry
form. -/
theorem parse_render_round_trip :
    (∀ ps, WellFormed ps → ∀ locale, parse (render ps) locale = .ok ⟨locale, ⟨ps⟩⟩) ∧
      ∀ src locale c, parse src locale = .ok c → ∀ p ∈ c.table.entries, EntryForm p.1 p.2 :=
  ⟨fun _ hw locale => parse_render locale hw, fun _ _ _ h => entryForm_of_parse h⟩

/-- Pairs with a `=` in a text, an empty key and text, a carriage return inside a text and a
later key that starts with the byte-order mark render and read back; and a source with a
comment, a doubled mark, a carriage return and a `=` in a text reads into pairs in entry form. -/
theorem parse_render_round_trip_cs :
    WellFormed [("a", "b = c"), ("", ""), ("\uFEFFk", "x\ry")] ∧
      parse (render [("a", "b = c"), ("", ""), ("\uFEFFk", "x\ry")]) (.str "cs") =
        .ok ⟨.str "cs", ⟨[("a", "b = c"), ("", ""), ("\uFEFFk", "x\ry")]⟩⟩ ∧
      parse "\uFEFF\uFEFFk = v\r\n# note\n x = y = z " (.str "cs") =
        .ok ⟨.str "cs", ⟨[("\uFEFFk", "v"), ("x", "y = z")]⟩⟩ ∧
      ∀ p ∈ [("\uFEFFk", "v"), ("x", "y = z")], EntryForm p.1 p.2 := by
  have hw : WellFormed [("a", "b = c"), ("", ""), ("\uFEFFk", "x\ry")] := by
    unfold WellFormed EntryForm
    decide
  have hp : parse "\uFEFF\uFEFFk = v\r\n# note\n x = y = z " (.str "cs") =
      .ok ⟨.str "cs", ⟨[("\uFEFFk", "v"), ("x", "y = z")]⟩⟩ := by
    rfl
  exact ⟨hw, parse_render_round_trip.1 _ hw _, hp, parse_render_round_trip.2 _ _ _ hp⟩

end Phrasebook.Catalog
