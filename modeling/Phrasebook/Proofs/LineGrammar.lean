import Mathlib.Data.List.Basic
import Mathlib.Data.List.TakeWhile
import Phrasebook.Proofs.RoundTrip

/-!
The line grammar of a catalog source, stated on its own, and the reading that meets it.

A source is read line by line (`lines`): one leading byte-order mark dropped, cut at line feeds
only, one carriage return cut off the end of each piece. A line is significant when its
trimming is neither empty nor starts with `#` (`Significant`). The grammar gives one entry per
significant line, numbered from one in line order, whose key and text are the trimmings of the
parts before and after the line's first `=`, found by its place in the line
(`grammarEntries`); other lines give nothing. Trimming cuts blanks off both ends until a
character that is not blank stands at each (`IsTrimOf`).

`entries_follow_line_grammar`: the reading succeeds exactly when every significant line holds
`=`, and then gives the grammar's entries; otherwise it fails at the first significant line
without `=`, showing the line as it stands once its carriage return is cut.
-/

namespace Phrasebook.Text

/-- `r` is `cs` with its blanks cut off both ends: what is cut is blank, and `r` neither starts
nor ends with a blank. -/
def IsTrimOf (cs r : List Char) : Prop :=
  ∃ pre post, cs = pre ++ r ++ post ∧ (∀ c ∈ pre, isBlank c = true) ∧
    (∀ c ∈ post, isBlank c = true) ∧ (∀ c ∈ r.head?, isBlank c = false) ∧
    ∀ c ∈ r.getLast?, isBlank c = false

theorem trimList_isTrimOf (cs : List Char) : IsTrimOf cs (trimList cs) := by
  -- what the back trimming cuts, read back in order
  let back := ((cs.dropWhile isBlank).reverse.takeWhile isBlank).reverse
  have hd : cs.dropWhile isBlank = trimList cs ++ back := by
    conv_lhs => rw [← List.reverse_reverse (cs.dropWhile isBlank),
      ← List.takeWhile_append_dropWhile (p := isBlank) (l := (cs.dropWhile isBlank).reverse)]
    rw [List.reverse_append]
    rfl
  refine ⟨cs.takeWhile isBlank, back, ?_, fun c hc => List.mem_takeWhile_imp hc,
    fun c hc => List.mem_takeWhile_imp (List.mem_reverse.1 hc), head?_trimList_not_blank cs,
    getLast?_trimList_not_blank cs⟩
  rw [List.append_assoc, ← hd, List.takeWhile_append_dropWhile]

example : isBlank '\x1c' ∧ isBlank '\x85' ∧ isBlank '\u2028' ∧ isBlank '\u3000' ∧
    isBlank '\u200B' = false ∧ isBlank '\uFEFF' = false := by
  decide

end Phrasebook.Text

namespace Phrasebook.Catalog

open Text

/-- A line is significant: trimmed, it is not empty and does not start with `#`. -/
def Significant (raw : List Char) : Prop :=
  trimList raw ≠ [] ∧ (trimList raw).head? ≠ some '#'

instance : DecidablePred Significant := fun _ => inferInstanceAs (Decidable (_ ∧ _))

/-- The key of a line: the part before its first `=`, trimmed. -/
def keyPart (raw : List Char) : String :=
  String.ofList (trimList (raw.take (raw.idxOf '=')))

/-- The text of a line: the part after its first `=`, trimmed. -/
def textPart (raw : List Char) : String :=
  String.ofList (trimList (raw.drop (raw.idxOf '=' + 1)))

/-- The entry the grammar gives a line with its number: one for a significant line, none for
any other. -/
def grammarEntry (p : List Char × Nat) : Option Entry :=
  if Significant p.1 then some ⟨p.2, keyPart p.1, textPart p.1⟩ else none

/-- The entries the grammar gives lines numbered from `n` on, in line order. -/
def grammarEntries (ls : List (List Char)) (n : Nat := 1) : List Entry :=
  (ls.zipIdx n).filterMap grammarEntry

theorem skipped_eq_false_iff {raw : List Char} : skipped raw = false ↔ Significant raw := by
  unfold skipped Significant
  cases trimList raw with
  | nil => simp
  | cons c cs => simp

theorem splitFirst_of_mem {raw : List Char} (h : '=' ∈ raw) :
    splitFirst raw = some (raw.take (raw.idxOf '='), raw.drop (raw.idxOf '=' + 1)) := by
  induction raw with
  | nil => cases h
  | cons c cs ih =>
    by_cases hc : c = '='
    · subst hc
      simp [splitFirst]
    · have hcs : '=' ∈ cs := (List.mem_cons.1 h).resolve_left (Ne.symm hc)
      rw [splitFirst, if_neg hc, ih hcs, List.idxOf_cons_ne cs hc]
      rfl

theorem splitFirst_of_not_mem {raw : List Char} (h : '=' ∉ raw) : splitFirst raw = none := by
  induction raw with
  | nil => rfl
  | cons c cs ih =>
    rw [List.mem_cons, not_or] at h
    rw [splitFirst, if_neg (Ne.symm h.1), ih h.2]
    rfl

theorem classify_of_significant {raw : List Char} (hs : Significant raw) (he : '=' ∈ raw) :
    classify raw = .entry (keyPart raw) (textPart raw) :=
  classify_of_split (skipped_eq_false_iff.2 hs) (splitFirst_of_mem he)

theorem classify_of_not_significant {raw : List Char} (hs : ¬ Significant raw) :
    classify raw = .skip := by
  have h : skipped raw = true := by
    cases hk : skipped raw
    · exact absurd (skipped_eq_false_iff.1 hk) hs
    · rfl
  simp [classify, h]

theorem classify_eq_malformed_iff {raw : List Char} :
    classify raw = .malformed ↔ Significant raw ∧ '=' ∉ raw := by
  by_cases hs : Significant raw
  · by_cases he : '=' ∈ raw
    · simp [classify_of_significant hs he, he]
    · simp [classify, skipped_eq_false_iff.2 hs, splitFirst_of_not_mem he, hs, he]
  · simp [classify_of_not_significant hs, hs]

variable {locale : Value}

theorem entriesFrom_grammar (n : Nat) {ls : List (List Char)}
    (h : ∀ l ∈ ls, Significant l → '=' ∈ l) :
    entriesFrom locale n ls = .ok (grammarEntries ls n) := by
  induction ls generalizing n with
  | nil => rfl
  | cons l ls ih =>
    have hrest := ih (n + 1) fun l' hl' => h l' (List.mem_cons_of_mem _ hl')
    by_cases hs : Significant l
    · rw [entriesFrom, classify_of_significant hs (h l List.mem_cons_self hs)]
      simp [hrest, grammarEntries, grammarEntry, hs, Except.map]
    · rw [entriesFrom_skip (classify_of_not_significant hs), hrest]
      simp [grammarEntries, grammarEntry, hs]

theorem entries_follow_line_grammar (src : String) (locale : Value) :
    ((∃ es, entries src locale = .ok es) ↔ ∀ l ∈ lines src, Significant l → '=' ∈ l) ∧
    ((∀ l ∈ lines src, Significant l → '=' ∈ l) →
      entries src locale = .ok (grammarEntries (lines src))) ∧
    (∀ (pre : List (List Char)) raw post, lines src = pre ++ raw :: post →
      (∀ l ∈ pre, Significant l → '=' ∈ l) → Significant raw → '=' ∉ raw →
      entries src locale =
        .error (.malformedLine (.int ↑(pre.length + 1)) (.str (String.ofList raw)) locale)) ∧
    ∀ cs, IsTrimOf cs (trimList cs) := by
  refine ⟨⟨fun ⟨es, hes⟩ l hl hs => ?_, fun h => ⟨_, entriesFrom_grammar 1 h⟩⟩,
    entriesFrom_grammar 1, fun pre raw post hl hpre hs he => ?_, trimList_isTrimOf⟩
  · -- a significant line without `=` would make the reading fail
    by_contra he
    obtain ⟨m, c, herr⟩ :=
      entriesFrom_eq_error locale 1 ⟨l, hl, classify_eq_malformed_iff.2 ⟨hs, he⟩⟩
    rw [entries] at hes
    rw [hes] at herr
    cases herr
  · have hclean : ∀ l ∈ pre, classify l ≠ .malformed := fun l hl' hm =>
      (classify_eq_malformed_iff.1 hm).2 (hpre l hl' (classify_eq_malformed_iff.1 hm).1)
    rw [entries, hl, entriesFrom_malformed 1 hclean (classify_eq_malformed_iff.2 ⟨hs, he⟩),
      Nat.add_comm]

example : (grammarEntries (lines "\uFEFFa = 1\r\n# note\n\n b=\u200B ") ==
    [⟨1, "a", "1"⟩, ⟨4, "b", "\u200B"⟩]) = true := by
  decide +kernel

end Phrasebook.Catalog
