import Mathlib.Data.List.Induction
import Phrasebook.Catalog.Basic

/-!
Reading a catalog source, and where the reading stops.

The reading is done in two passes: every line is classified first, and the first line with
no `=` stops the reading at once (`entriesFrom_malformed`); only then are the entries gathered
into a table, where the first key defined a second time stops it (`collect_fresh` and
`lookup_entriesFrom` say what the table holds until then). A line offends when it is neither
blank nor a comment and has no `=`, or defines a key that a line before it defined.

The documentation promises that the first offending line stops the reading with its own
fault. That holds, except in one arrangement: when the first offending line repeats a key and
a later line has no `=`, the first pass reports the later line (`parse_of_malformed_mem`).
`fails_at_first_offence_iff` says that this is the only exception, and
`parse_repeat_before_malformed` shows it happens.
-/

namespace Phrasebook.Table

theorem assign_of_lookup_none {α : Type} {ps : List (String × α)} {k : String} (v : α)
    (h : lookup ps k = none) : assign ps k v = ps ++ [(k, v)] := by
  induction ps with
  | nil => rfl
  | cons p ps ih =>
    obtain ⟨k', v'⟩ := p
    by_cases hk : k' = k
    · simp [lookup, hk] at h
    · simp only [lookup, hk, if_false] at h
      simp [assign, hk, ih h]

end Phrasebook.Table

namespace Phrasebook.Catalog

/-- The key a line defines, if it is an entry. -/
def Line.key? : Line → Option String
  | .entry k _ => some k
  | _ => none

/-- The keys that lines define, in order, repeats kept. -/
def definedKeys (ls : List (List Char)) : List String := ls.filterMap fun l => (classify l).key?

variable {locale : Value}

theorem entriesFrom_append (n : Nat) (xs ys : List (List Char)) :
    entriesFrom locale n (xs ++ ys) =
      (entriesFrom locale n xs).bind fun a =>
        (entriesFrom locale (n + xs.length) ys).map (a ++ ·) := by
  induction xs generalizing n with
  | nil =>
    cases h : entriesFrom locale n ys <;> simp [Except.bind, Except.map, h, entriesFrom]
  | cons x xs ih =>
    have hn : n + 1 + xs.length = n + (xs.length + 1) := by omega
    simp only [List.cons_append, entriesFrom, List.length_cons]
    split
    · rw [ih (n + 1), hn]
    · rw [ih (n + 1), hn]
      cases entriesFrom locale (n + 1) xs <;> cases entriesFrom locale (n + (xs.length + 1)) ys <;>
        rfl
    · rfl

variable (locale) in
theorem entriesFrom_eq_ok (n : Nat) {ls : List (List Char)}
    (h : ∀ l ∈ ls, classify l ≠ .malformed) :
    ∃ es, entriesFrom locale n ls = .ok es ∧ es.map Entry.key = definedKeys ls := by
  induction ls generalizing n with
  | nil => exact ⟨[], rfl, rfl⟩
  | cons l ls ih =>
    obtain ⟨es, hes, hkeys⟩ := ih (n + 1) fun l' hl' => h l' (List.mem_cons_of_mem _ hl')
    have hl := h l List.mem_cons_self
    simp only [entriesFrom]
    cases hc : classify l with
    | skip =>
      refine ⟨es, hes, ?_⟩
      simp [definedKeys, hc, Line.key?] at hkeys ⊢
      exact hkeys
    | entry k t =>
      refine ⟨⟨n, k, t⟩ :: es, by simp [hes, Except.map], ?_⟩
      simp [definedKeys, hc, Line.key?] at hkeys ⊢
      exact hkeys
    | malformed => exact absurd hc hl

variable (locale) in
/-- Lines with a malformed one fail with a malformed-line fault. -/
theorem entriesFrom_eq_error (n : Nat) {ls : List (List Char)}
    (h : ∃ l ∈ ls, classify l = .malformed) :
    ∃ m raw, entriesFrom locale n ls = .error (.malformedLine m raw locale) := by
  induction ls generalizing n with
  | nil =>
    obtain ⟨l, hl, -⟩ := h
    cases hl
  | cons l ls ih =>
    simp only [entriesFrom]
    cases hc : classify l with
    | malformed => exact ⟨_, _, rfl⟩
    | skip | entry k t =>
      have h' : ∃ l ∈ ls, classify l = .malformed := by
        obtain ⟨l', hl', hm⟩ := h
        rcases List.mem_cons.1 hl' with rfl | hl'
        · rw [hc] at hm
          cases hm
        · exact ⟨l', hl', hm⟩
      obtain ⟨m, raw, he⟩ := ih (n + 1) h'
      exact ⟨m, raw, by simp [he, Except.map]⟩

theorem entriesFrom_malformed (n : Nat) {pre post : List (List Char)} {raw : List Char}
    (hpre : ∀ l ∈ pre, classify l ≠ .malformed) (hraw : classify raw = .malformed) :
    entriesFrom locale n (pre ++ raw :: post) =
      .error (.malformedLine (.int ↑(n + pre.length)) (.str (String.ofList raw)) locale) := by
  obtain ⟨es, hes, -⟩ := entriesFrom_eq_ok locale n hpre
  rw [entriesFrom_append, hes]
  simp [Except.bind, entriesFrom, hraw, Except.map]

theorem collect_append (t : Table (Nat × String)) (xs ys : List Entry) :
    collect locale t (xs ++ ys) = (collect locale t xs).bind fun t' => collect locale t' ys := by
  induction xs generalizing t with
  | nil => rfl
  | cons e es ih =>
    simp only [List.cons_append, collect]
    split
    · rfl
    · exact ih _

variable (locale) in
theorem collect_fresh (t : Table (Nat × String)) {es : List Entry}
    (hnd : (es.map Entry.key).Nodup) (hfresh : ∀ e ∈ es, t.get? e.key = none) :
    collect locale t es = .ok ⟨t.entries ++ es.map fun e => (e.key, (e.line, e.text))⟩ := by
  induction es generalizing t with
  | nil => simp [collect]
  | cons e es ih =>
    simp only [List.map_cons, List.nodup_cons, List.mem_map] at hnd
    have he := hfresh e List.mem_cons_self
    simp only [collect, he]
    rw [ih (t.set e.key (e.line, e.text)) hnd.2]
    · simp [Table.set, Table.assign_of_lookup_none _ he]
    · intro e' he'
      have hne : e'.key ≠ e.key := fun hk => hnd.1 ⟨e', he', hk⟩
      rw [Table.get?_set_ne _ _ hne]
      exact hfresh e' (List.mem_cons_of_mem _ he')

theorem entriesFrom_skip {n : Nat} {l : List Char} {ls : List (List Char)}
    (hc : classify l = .skip) : entriesFrom locale n (l :: ls) = entriesFrom locale (n + 1) ls := by
  simp only [entriesFrom, hc]

theorem entriesFrom_entry_eq_ok {n : Nat} {l : List Char} {ls : List (List Char)} {k t : String}
    {es : List Entry} (hc : classify l = .entry k t) (h : entriesFrom locale n (l :: ls) = .ok es) :
    ∃ es', entriesFrom locale (n + 1) ls = .ok es' ∧ es = ⟨n, k, t⟩ :: es' := by
  simp only [entriesFrom, hc] at h
  cases hrest : entriesFrom locale (n + 1) ls with
  | error f =>
    rw [hrest] at h
    cases h
  | ok es' =>
    rw [hrest] at h
    cases h
    exact ⟨es', rfl, rfl⟩

theorem entriesFrom_malformed_ne_ok {n : Nat} {l : List Char} {ls : List (List Char)}
    {es : List Entry} (hc : classify l = .malformed) :
    entriesFrom locale n (l :: ls) ≠ .ok es := by
  simp [entriesFrom, hc]

/-- The table of the entries of lines holds each defined key with the line it was first
defined on. -/
theorem lookup_entriesFrom {n : Nat} {pre : List (List Char)} {es : List Entry} {k : String}
    (h : entriesFrom locale n pre = .ok es) (hk : k ∈ definedKeys pre) :
    ∃ x, Table.lookup (es.map fun e => (e.key, (e.line, e.text))) k =
      some (n + pre.findIdx (fun l => (classify l).key? == some k), x) := by
  induction pre generalizing n es with
  | nil => cases hk
  | cons l pre ih =>
    cases hc : classify l with
    | skip =>
      rw [entriesFrom_skip hc] at h
      have hk' : k ∈ definedKeys pre := by simpa [definedKeys, hc, Line.key?] using hk
      obtain ⟨x, hx⟩ := ih h hk'
      refine ⟨x, ?_⟩
      rw [hx, List.findIdx_cons]
      simp [hc, Line.key?]
      omega
    | entry k' t' =>
      obtain ⟨es', hrest, rfl⟩ := entriesFrom_entry_eq_ok hc h
      -- the line defines the key itself, or the key is defined further on
      by_cases hkk : k' = k
      · subst hkk
        exact ⟨t', by simp [Table.lookup, List.findIdx_cons, hc, Line.key?]⟩
      · have hk' : k ∈ definedKeys pre := by
          simpa [definedKeys, hc, Line.key?, Ne.symm hkk] using hk
        obtain ⟨x, hx⟩ := ih hrest hk'
        refine ⟨x, ?_⟩
        have hb : (k' == k) = false := beq_false_of_ne hkk
        simp only [List.map_cons, Table.lookup, hkk, if_false, hx, List.findIdx_cons]
        simp [hc, Line.key?, hb]
        omega
    | malformed => exact absurd h (entriesFrom_malformed_ne_ok hc)

/-- Whether a line offends after the lines before it: it is neither blank nor a comment, and it
has no `=` or defines a key that a line before it defined. -/
def offends (before : List (List Char)) (raw : List Char) : Bool :=
  match classify raw with
  | .skip => false
  | .malformed => true
  | .entry k _ => decide (k ∈ definedKeys before)

/-- A line is the first to offend: it does, and no line before it does. -/
def FirstOffence (pre : List (List Char)) (raw : List Char) : Prop :=
  offends pre raw = true ∧ ∀ pre' raw' post', pre = pre' ++ raw' :: post' → offends pre' raw' = false

/-- The line, counting from one, on which lines first define a key. -/
def firstDefinition (ls : List (List Char)) (k : String) : Nat :=
  ls.findIdx (fun l => (classify l).key? == some k) + 1

/-- The fault of an offending line after the lines `pre`: a repeated key names the line it was
first defined on, and any other offending line is malformed. -/
def offenceFault (locale : Value) (pre : List (List Char)) (raw : List Char) : Fault :=
  match classify raw with
  | .entry k _ =>
    .duplicateKey (.str k) (.int (firstDefinition pre k)) (.int (pre.length + 1)) locale
  | _ => .malformedLine (.int (pre.length + 1)) (.str (String.ofList raw)) locale

/-- Reading a source stops at its first offending line, with that line's fault; a source
without one reads into the catalog of its entries. -/
def FailsAtFirstOffence (src : String) (locale : Value) : Prop :=
  ((∀ pre raw post, lines src = pre ++ raw :: post → offends pre raw = false) →
    ∃ es, entries src locale = .ok es ∧
      parse src locale = .ok ⟨locale, ⟨es.map fun e => (e.key, e.text)⟩⟩) ∧
  (∀ pre raw post, lines src = pre ++ raw :: post → FirstOffence pre raw →
    parse src locale = .error (offenceFault locale pre raw))

/-- The first offending line of a source repeats a key, and a later line has no `=`. -/
def RepeatBeforeMalformed (src : String) : Prop :=
  ∃ pre raw post, lines src = pre ++ raw :: post ∧ FirstOffence pre raw ∧
    classify raw ≠ .malformed ∧ ∃ l ∈ post, classify l = .malformed

theorem definedKeys_append (xs ys : List (List Char)) :
    definedKeys (xs ++ ys) = definedKeys xs ++ definedKeys ys := by
  simp [definedKeys]

/-- Lines none of which offends have no malformed line and define each key once. -/
theorem clean_of_no_offence {ls : List (List Char)}
    (h : ∀ pre raw post, ls = pre ++ raw :: post → offends pre raw = false) :
    (∀ l ∈ ls, classify l ≠ .malformed) ∧ (definedKeys ls).Nodup := by
  induction ls using List.reverseRecOn with
  | nil => exact ⟨by simp, List.nodup_nil⟩
  | append_singleton xs x ih =>
    obtain ⟨hm, hnd⟩ := ih fun pre raw post hxs => h pre raw (post ++ [x]) (by simp [hxs])
    have hx := h xs x [] rfl
    refine ⟨fun l hl => ?_, ?_⟩
    · rcases List.mem_append.1 hl with hl | hl
      · exact hm l hl
      · rw [List.mem_singleton.1 hl]
        intro hc
        simp [offends, hc] at hx
    · rw [definedKeys_append, List.nodup_append]
      refine ⟨hnd, ?_, ?_⟩
      · cases hc : classify x <;> simp [definedKeys, hc, Line.key?]
      · intro k hk k' hk' hkk
        subst hkk
        cases hc : classify x with
        | entry k'' t => 
          simp [definedKeys, hc, Line.key?] at hk'
          subst hk'
          simp [offends, hc, hk] at hx
        | skip | malformed => simp [definedKeys, hc, Line.key?] at hk'

theorem parse_eq (src : String) (locale : Value) :
    parse src locale = (entries src locale).bind fun es =>
      (collect locale Table.empty es).map fun t => ⟨locale, t.mapValues (·.2)⟩ := by
  simp only [parse, bind, Except.bind, pure, Except.pure]
  cases entries src locale with
  | error f => rfl
  | ok es => cases collect locale Table.empty es <;> rfl

theorem parse_of_entries {src : String} {es : List Entry} (hes : entries src locale = .ok es)
    (hnd : (es.map Entry.key).Nodup) :
    parse src locale = .ok ⟨locale, ⟨es.map fun e => (e.key, e.text)⟩⟩ := by
  rw [parse_eq, hes]
  simp only [Except.bind]
  rw [collect_fresh locale Table.empty hnd fun _ _ => rfl]
  simp [Except.map, Table.mapValues, Table.empty]

theorem parse_of_no_offence {src : String} {locale : Value}
    (h : ∀ pre raw post, lines src = pre ++ raw :: post → offends pre raw = false) :
    ∃ es, entries src locale = .ok es ∧
      parse src locale = .ok ⟨locale, ⟨es.map fun e => (e.key, e.text)⟩⟩ := by
  obtain ⟨hm, hnd⟩ := clean_of_no_offence h
  obtain ⟨es, hes, hkeys⟩ := entriesFrom_eq_ok locale 1 hm
  refine ⟨es, hes, parse_of_entries hes ?_⟩
  rw [hkeys]
  exact hnd

theorem parse_first_malformed {src : String} {locale : Value} {pre post : List (List Char)}
    {raw : List Char} (hl : lines src = pre ++ raw :: post) (hfirst : FirstOffence pre raw)
    (hraw : classify raw = .malformed) :
    parse src locale = .error (offenceFault locale pre raw) := by
  have hm := (clean_of_no_offence hfirst.2).1
  apply parse_error_of_entries
  rw [entries, hl, entriesFrom_malformed 1 hm hraw]
  simp [offenceFault, hraw, Nat.add_comm]

/-- A first offending line that repeats a key, with no line after it malformed, stops the
reading with the repeated key's fault. -/
theorem parse_first_repeat {src : String} {locale : Value} {pre post : List (List Char)}
    {raw : List Char} (hl : lines src = pre ++ raw :: post) (hfirst : FirstOffence pre raw)
    (hraw : classify raw ≠ .malformed) (hpost : ∀ l ∈ post, classify l ≠ .malformed) :
    parse src locale = .error (offenceFault locale pre raw) := by
  obtain ⟨hm, hnd⟩ := clean_of_no_offence hfirst.2
  have hoff := hfirst.1
  cases hc : classify raw with
  | skip => simp [offends, hc] at hoff
  | malformed => exact absurd hc hraw
  | entry k x =>
    have hk : k ∈ definedKeys pre := by simpa [offends, hc] using hoff
    obtain ⟨esPre, hpre, hkeys⟩ := entriesFrom_eq_ok locale 1 hm
    obtain ⟨esPost, hposte, -⟩ := entriesFrom_eq_ok locale (1 + pre.length + 1) hpost
    have hes : entries src locale =
        .ok (esPre ++ ⟨1 + pre.length, k, x⟩ :: esPost) := by
      rw [entries, hl, entriesFrom_append, hpre]
      simp [Except.bind, entriesFrom, hc, hposte, Except.map]
    have hnd' : (esPre.map Entry.key).Nodup := by
      rw [hkeys]
      exact hnd
    have hcol := collect_fresh locale Table.empty hnd' fun _ _ => rfl
    obtain ⟨y, hy⟩ := lookup_entriesFrom hpre hk
    rw [parse_eq, hes]
    simp only [Except.bind, collect_append, hcol]
    simp [collect, Table.get?, Table.empty, hy, Except.map, offenceFault, hc, firstDefinition]
    omega

theorem parse_of_malformed_mem {src : String} (locale : Value)
    (h : ∃ l ∈ lines src, classify l = .malformed) :
    ∃ m c, parse src locale = .error (.malformedLine m c locale) := by
  obtain ⟨m, c, he⟩ := entriesFrom_eq_error locale 1 h
  exact ⟨m, c, parse_error_of_entries he⟩

theorem fails_at_first_offence_iff (src : String) (locale : Value) :
    FailsAtFirstOffence src locale ↔ ¬ RepeatBeforeMalformed src := by
  constructor
  · rintro ⟨-, hclaim⟩ ⟨pre, raw, post, hl, hfirst, hraw, l, hl', hmal⟩
    obtain ⟨m, c, hm⟩ := parse_of_malformed_mem locale ⟨l, by rw [hl]; simp [hl'], hmal⟩
    have hc := hclaim pre raw post hl hfirst
    rw [hm] at hc
    cases hk : classify raw with
    | skip => simp [FirstOffence, offends, hk] at hfirst
    | malformed => exact hraw hk
    | entry k x =>
      simp only [offenceFault, hk] at hc
      cases hc
  · intro hnot
    refine ⟨parse_of_no_offence, fun pre raw post hl hfirst => ?_⟩
    by_cases hraw : classify raw = .malformed
    · exact parse_first_malformed hl hfirst hraw
    · refine parse_first_repeat hl hfirst hraw fun l hl' hm => hnot ?_
      exact ⟨pre, raw, post, hl, hfirst, hraw, l, hl', hm⟩

/-- The first offending line repeats `a`, and the line after it has no `=`: the documented
reading would stop at line 2 with the repeated key, but the reading reports line 3. -/
theorem parse_repeat_before_malformed :
    ¬ FailsAtFirstOffence "a = 1\na = 2\nbroken" (.str "cs") := by
  rintro ⟨-, hclaim⟩
  have hl : lines "a = 1\na = 2\nbroken" =
      ["a = 1".toList] ++ "a = 2".toList :: ["broken".toList] := by
    decide
  have hfirst : FirstOffence ["a = 1".toList] "a = 2".toList := by
    refine ⟨by decide, fun pre' raw' post' h => ?_⟩
    cases pre' with
    | nil =>
      cases h
      decide
    | cons p ps => simp at h
  have hp : parse "a = 1\na = 2\nbroken" (.str "cs") =
      .error (.malformedLine (.int 3) (.str "broken") (.str "cs")) := by
    rfl
  have hc := hclaim _ _ _ hl hfirst
  rw [hp] at hc
  have hk : classify "a = 2".toList = .entry "a" "2" := by rfl
  simp only [offenceFault, hk] at hc
  cases hc

end Phrasebook.Catalog
