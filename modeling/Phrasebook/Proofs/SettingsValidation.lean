import Phrasebook.Proofs.SettingsRecord

/-!
Reading settings accepts exactly the records that keep the rules.

The rules of each member are stated here on their own, with nothing of how the reading walks
the record: the condition a member must meet (`Sound`), the issue it gives when it does not
(`dirFault`, `suffixFault`, `remoteFault`, `fallbackIssues`, `referenceFault`), and the value it
reads as (`dirOf`, `suffixOf`, `remoteOf`, `fallbackOf`, `referenceOf`). A directory may be
absent, null or any text; a suffix absent or a text that is not blank once trimmed; remote
sources absent, null, or a record whose every entry holds a text starting `http://` or
`https://` under a key that is not blank once trimmed, the URL checked first; a fallback
configuration absent or a record that a configuration accepts; a reference locale absent, null
or a text that is not blank once trimmed. A remote sources record is read up to its first
broken entry, which alone gives its issue.

Each member is read by its rule: its reading gives its value when it has no issue, and its issue
otherwise (`readDir_eq`, `readSuffix_eq` and the like). So the reading fails with one issue for
each member that breaks its rule, the members in the order they are read, and a fallback
configuration's own issues for its members (`ofFields_of_issue`); only when every member keeps
its rule is the whole checked, and settings that name neither a directory nor a remote source
fail with that one issue (`ofFields_of_sound`).

Main statement: `ofValue_accepts_valid`.
-/

namespace Phrasebook.Settings

open Fallback (IsTag tagFault valueIssue)

/-- The value of a member of a record: null when absent. -/
def member (fs : List (String × Value)) (k : String) : Value := (Table.lookup fs k).getD .null

/-! ### The rules, stated on their own -/

/-- Why a directory member cannot be read: it is neither null nor a text. -/
def dirFault : Value → Option Issue
  | .null | .str _ => none
  | _ => some ⟨"string_type", ["catalog_dir"], "Input should be a valid string"⟩

/-- The issue of a suffix that is no text, or is blank once trimmed. -/
def suffixIssue : Issue := valueIssue ["suffix"] "suffix must be a non-empty string"

/-- Why a suffix member cannot be read: it is given, and not a text that is not blank once
trimmed. -/
def suffixFault : Option Value → Option Issue
  | none => none
  | some v => (tagFault v).map fun _ => suffixIssue

/-- The refusal of a remote source whose URL is not one. -/
def urlRefusal (k : String) : String := "remote source for " ++ Text.quote k ++ " must be an http(s) URL"

/-- Why a remote source entry cannot be read: its value is no text starting `http://` or
`https://`, or else its key is no locale tag. -/
def remoteEntryFault (p : String × Value) : Option String :=
  match p.2 with
  | .str url => if isWebUrl url then tagFault (.str p.1) else some (urlRefusal p.1)
  | _ => some (urlRefusal p.1)

/-- Why a remote sources member cannot be read: it is no record, or the first of its entries
that cannot be. -/
def remoteFault : Value → Option Issue
  | .null => none
  | .record es => (es.findSome? remoteEntryFault).map (valueIssue ["remote_sources"])
  | _ => some (valueIssue ["remote_sources"] "remote_sources must be a mapping of locale -> URL")

/-- The issues of a fallback member: none when absent, a configuration's own issues under
`fallback` for a record, and otherwise that it is no record. -/
def fallbackIssues : Option Value → List Issue
  | none => []
  | some (.record gs) =>
    Fallback.issues ["fallback"] (Table.lookup gs "default_locale")
      ((Table.lookup gs "chains").getD .null)
  | some _ => [⟨"model_type", ["fallback"],
      "Input should be a valid dictionary or instance of FallbackConfig"⟩]

/-- Why a reference locale member cannot be read: it is neither null nor a locale tag. -/
def referenceFault : Value → Option Issue
  | .null => none
  | v => (tagFault v).map (valueIssue ["reference_locale"])

/-- The issues of a record's members, one for each member that breaks its rule and a fallback
configuration's own, in the order the members are read. -/
def memberIssues (fs : List (String × Value)) : List Issue :=
  (dirFault (member fs "catalog_dir")).toList ++ (suffixFault (Table.lookup fs "suffix")).toList ++
    (remoteFault (member fs "remote_sources")).toList ++
    fallbackIssues (Table.lookup fs "fallback") ++
    (referenceFault (member fs "reference_locale")).toList

/-- The issue of settings that name no source. -/
def sourceIssue : Issue :=
  valueIssue [] "settings need a catalog_dir or at least one remote source"

/-- The rules of each member of a settings record. -/
structure Sound (fs : List (String × Value)) : Prop where
  dir : member fs "catalog_dir" = .null ∨ ∃ s, member fs "catalog_dir" = .str s
  suffix : ∀ v, Table.lookup fs "suffix" = some v → IsTag v
  remote : member fs "remote_sources" = .null ∨ ∃ es, member fs "remote_sources" = .record es ∧
    ∀ p ∈ es, (∃ url, p.2 = .str url ∧ isWebUrl url = true) ∧ IsTag (.str p.1)
  fallback : ∀ v, Table.lookup fs "fallback" = some v →
    ∃ gs fb, v = .record gs ∧ Fallback.ofValue (.record gs) = .ok fb
  reference : member fs "reference_locale" = .null ∨ IsTag (member fs "reference_locale")

/-- Settings that name a source: a directory that is not blank once trimmed, or a remote
source. -/
def NamesSource (fs : List (String × Value)) : Prop :=
  (∃ s, member fs "catalog_dir" = .str s ∧ Text.trim s ≠ "") ∨
    ∃ es, member fs "remote_sources" = .record es ∧ es ≠ []

/-- The directory a member reads as: its text trimmed, none when that is blank. -/
def dirOf : Value → Option String
  | .str s => if Text.trim s = "" then none else some (Text.trim s)
  | _ => none

/-- A suffix with a leading dot, added when it lacks one. -/
def dotted (t : String) : String := if t.startsWith "." then t else "." ++ t

/-- The suffix a member reads as: `.ftl` when absent, else its text trimmed and dotted. -/
def suffixOf : Option Value → String
  | some (.str s) => dotted (Text.trim s)
  | _ => ".ftl"

/-- The remote sources a member reads as: each URL as it is, under its trimmed key. -/
def remoteOf : Value → Table String
  | .record es => Table.ofList (es.map fun p => (Text.trim p.1, (p.2.asString?).getD ""))
  | _ => Table.empty

/-- The fallback configuration a member reads as: the default when absent, else what the
configuration's rules read. -/
def fallbackOf : Option Value → Fallback
  | some (.record gs) => ⟨Fallback.defaultOf (Table.lookup gs "default_locale"),
      Fallback.chainsOf ((Table.lookup gs "chains").getD .null)⟩
  | _ => {}

/-- The reference locale a member reads as: its text trimmed, none when null. -/
def referenceOf : Value → Option String
  | .str s => some (Text.trim s)
  | _ => none

/-- The settings the rules read from a record. -/
def settingsOf (fs : List (String × Value)) : Settings :=
  ⟨dirOf (member fs "catalog_dir"), suffixOf (Table.lookup fs "suffix"),
    remoteOf (member fs "remote_sources"), fallbackOf (Table.lookup fs "fallback"),
    referenceOf (member fs "reference_locale")⟩

/-- What a reading gives: its value when there is no issue, and otherwise its issues. -/
def ofIssues {α : Type} (is : List Issue) (x : α) : Except (List Issue) α :=
  if is = [] then .ok x else .error is

theorem issuesOf_ofIssues {α : Type} (is : List Issue) (x : α) : issuesOf (ofIssues is x) = is := by
  unfold ofIssues
  split
  · next h => exact h.symm
  · rfl

theorem ofIssues_nil {α : Type} (x : α) : ofIssues [] x = .ok x := rfl

/-! ### Each member is read by its rule -/

theorem dirFault_eq_none_iff {v : Value} : dirFault v = none ↔ v = .null ∨ ∃ s, v = .str s := by
  cases v <;> simp [dirFault]

theorem readDir_eq (v : Value) :
    (readDir v).mapError List.singleton = ofIssues (dirFault v).toList (dirOf v) := by
  cases v with
  | str s =>
    by_cases hs : Text.trim s = ""
    · simp [readDir, dirFault, dirOf, ofIssues, Except.mapError, hs]
    · simp [readDir, dirFault, dirOf, ofIssues, Except.mapError, hs, String.isEmpty_iff]
  | _ => rfl

theorem suffixFault_eq_none_iff {o : Option Value} :
    suffixFault o = none ↔ ∀ v, o = some v → IsTag v := by
  rcases o with _ | v
  · simp [suffixFault]
  · simp [suffixFault, Fallback.tagFault_eq_none_iff]

theorem readSuffix_eq (o : Option Value) :
    (readSuffix o.isSome (o.getD .null)).mapError List.singleton =
      ofIssues (suffixFault o).toList (suffixOf o) := by
  rcases o with _ | v
  · rfl
  · cases v with
    | str s =>
      by_cases hs : (Text.trim s).isEmpty = true
      · simp [readSuffix, suffixFault, tagFault, ofIssues, Except.mapError, hs, suffixIssue,
          List.singleton]
      · simp [readSuffix, suffixFault, tagFault, ofIssues, Except.mapError, hs, suffixOf, dotted]
    | _ => rfl

theorem remoteEntryFault_eq_none_iff {p : String × Value} :
    remoteEntryFault p = none ↔ (∃ url, p.2 = .str url ∧ isWebUrl url = true) ∧ IsTag (.str p.1) := by
  obtain ⟨k, v⟩ := p
  cases v with
  | str url =>
    cases hu : isWebUrl url <;> simp [remoteEntryFault, hu, Fallback.tagFault_eq_none_iff]
  | _ => simp [remoteEntryFault]

theorem readRemote_cons_of_fault {t : Table String} {p : String × Value}
    {rest : List (String × Value)} {m : String} (h : remoteEntryFault p = some m) :
    readRemote t (p :: rest) = .error m := by
  obtain ⟨k, v⟩ := p
  cases v with
  | str url =>
    cases hu : isWebUrl url
    · simp only [remoteEntryFault, hu, Bool.false_eq_true, if_false, Option.some.injEq] at h
      subst h
      simp only [readRemote, hu, Bool.false_eq_true, if_false]
      rfl
    · simp only [remoteEntryFault, hu, if_true] at h
      simp only [readRemote, hu, if_true, Fallback.normalize_of_tagFault h]
      rfl
  | _ =>
    cases h
    rfl

theorem readRemote_cons_of_ok {t : Table String} {p : String × Value}
    {rest : List (String × Value)} (h : remoteEntryFault p = none) :
    readRemote t (p :: rest) = readRemote (t.set (Text.trim p.1) ((p.2.asString?).getD "")) rest := by
  obtain ⟨⟨url, hv, hu⟩, hk⟩ := remoteEntryFault_eq_none_iff.1 h
  obtain ⟨k, v⟩ := p
  dsimp only at hv hk ⊢
  subst hv
  simp only [readRemote, hu, if_true,
    Fallback.normalize_of_tag (Fallback.tagFault_eq_none_iff.2 hk), Fallback.tagOf_str]
  rfl

theorem readRemote_of_fault {m : String} : ∀ {es : List (String × Value)} (t : Table String),
    es.findSome? remoteEntryFault = some m → readRemote t es = .error m
  | [], _, h => by cases h
  | p :: rest, t, h => by
    cases hp : remoteEntryFault p with
    | some m' =>
      simp only [List.findSome?_cons, hp, Option.some.injEq] at h
      exact h ▸ readRemote_cons_of_fault hp
    | none =>
      simp only [List.findSome?_cons, hp] at h
      rw [readRemote_cons_of_ok hp, readRemote_of_fault _ h]

theorem readRemote_of_ok : ∀ {es : List (String × Value)} (t : Table String),
    es.findSome? remoteEntryFault = none →
      readRemote t es = .ok ((es.map fun p => (Text.trim p.1, (p.2.asString?).getD "")).foldl
        (fun t p => t.set p.1 p.2) t)
  | [], _, _ => rfl
  | p :: rest, t, h => by
    have hp : remoteEntryFault p = none := List.findSome?_eq_none_iff.1 h p List.mem_cons_self
    simp only [List.findSome?_cons, hp] at h
    rw [readRemote_cons_of_ok hp, readRemote_of_ok _ h]
    rfl

theorem remoteFault_eq_none_iff {v : Value} :
    remoteFault v = none ↔ v = .null ∨ ∃ es, v = .record es ∧
      ∀ p ∈ es, (∃ url, p.2 = .str url ∧ isWebUrl url = true) ∧ IsTag (.str p.1) := by
  cases v <;> simp [remoteFault, List.findSome?_eq_none_iff, remoteEntryFault_eq_none_iff]

theorem readRemoteOf_eq (v : Value) :
    (readRemoteOf v).mapError List.singleton = ofIssues (remoteFault v).toList (remoteOf v) := by
  cases v with
  | null => rfl
  | record es =>
    cases h : es.findSome? remoteEntryFault with
    | some m =>
      simp [readRemoteOf, remoteFault, h, readRemote_of_fault _ h, ofIssues, Except.mapError,
        List.singleton]
    | none =>
      simp only [readRemoteOf, remoteFault, h, readRemote_of_ok _ h, Option.map_none,
        Option.toList_none, ofIssues_nil, Except.mapError]
      rfl
  | _ => rfl

theorem fallbackIssues_eq_nil_iff {o : Option Value} :
    fallbackIssues o = [] ↔
      ∀ v, o = some v → ∃ gs fb, v = .record gs ∧ Fallback.ofValue (.record gs) = .ok fb := by
  rcases o with _ | v
  · simp [fallbackIssues]
  · cases v with
    | record gs =>
      -- a configuration is accepted exactly when neither of its members has a fault
      have hread : (∃ fb, Fallback.ofValue (.record gs) = .ok fb) ↔
          Fallback.defaultFault (Table.lookup gs "default_locale") = none ∧
            Fallback.chainsFault ((Table.lookup gs "chains").getD .null) = none := by
        rw [Fallback.ofValue_record, Fallback.rulesOf]
        split
        · next hr => exact ⟨fun _ => hr, fun _ => ⟨_, rfl⟩⟩
        · next hr =>
          refine ⟨?_, fun h => absurd h hr⟩
          rintro ⟨_, h⟩
          cases h
      simp only [fallbackIssues, Fallback.issues, List.append_eq_nil_iff, Option.toList_eq_nil_iff,
        Option.map_eq_none_iff, Option.some.injEq, Value.record.injEq, exists_and_left,
        exists_eq_left', forall_eq', ← hread]
    | _ => simp [fallbackIssues]

theorem readFallback_eq (o : Option Value) :
    readFallback o.isSome (o.getD .null) = ofIssues (fallbackIssues o) (fallbackOf o) := by
  rcases o with _ | v
  · rfl
  · cases v with
    | record gs =>
      simp only [readFallback, Option.isSome_some, Bool.not_true, Bool.false_eq_true, if_false,
        Option.getD_some, Fallback.ofFields_eq, Fallback.rulesOf, fallbackIssues, fallbackOf]
      split
      · next hr => simp [Fallback.issues, hr.1, hr.2, ofIssues]
      · next hr =>
        have hne : Fallback.issues ["fallback"] (Table.lookup gs "default_locale")
            ((Table.lookup gs "chains").getD .null) ≠ [] := by
          intro he
          simp only [Fallback.issues, List.append_eq_nil_iff, Option.toList_eq_nil_iff,
            Option.map_eq_none_iff] at he
          exact hr he
        simp [ofIssues, hne]
    | _ => rfl

theorem referenceFault_eq_none_iff {v : Value} : referenceFault v = none ↔ v = .null ∨ IsTag v := by
  cases v <;> simp [referenceFault, Fallback.tagFault_eq_none_iff, IsTag]

theorem readReference_eq (v : Value) :
    (readReference v).mapError List.singleton =
      ofIssues (referenceFault v).toList (referenceOf v) := by
  cases v with
  | null => rfl
  | str s =>
    cases h : tagFault (.str s) with
    | some m =>
      simp [readReference, referenceFault, h, Fallback.normalize_of_tagFault h, ofIssues,
        Except.mapError, Except.map, List.singleton]
    | none =>
      simp [readReference, referenceFault, h, Fallback.normalize_of_tag h, ofIssues,
        Except.mapError, Except.map, referenceOf]
  | _ => rfl

/-! ### The whole record -/

theorem ofIssues_eq_ok_iff {α : Type} {is : List Issue} {x y : α} :
    ofIssues is x = .ok y ↔ is = [] ∧ x = y := by
  unfold ofIssues
  split
  · next h => simp [h]
  · next h => simp [h]

theorem memberIssues_eq_nil_iff {fs : List (String × Value)} : memberIssues fs = [] ↔ Sound fs := by
  simp only [memberIssues, List.append_eq_nil_iff, Option.toList_eq_nil_iff, dirFault_eq_none_iff,
    suffixFault_eq_none_iff, remoteFault_eq_none_iff, fallbackIssues_eq_nil_iff,
    referenceFault_eq_none_iff]
  exact ⟨fun ⟨⟨⟨⟨hd, hx⟩, hr⟩, hf⟩, hl⟩ => ⟨hd, hx, hr, hf, hl⟩,
    fun h => ⟨⟨⟨⟨h.dir, h.suffix⟩, h.remote⟩, h.fallback⟩, h.reference⟩⟩

theorem ofFields_of_issue {fs : List (String × Value)} (h : memberIssues fs ≠ []) :
    ofFields fs = .error (memberIssues fs) := by
  unfold ofFields
  dsimp only
  rw [readDir_eq, readSuffix_eq, readRemoteOf_eq, readFallback_eq, readReference_eq]
  split
  · next hd hx hr hf hl =>
    -- every member was read, so none of them has an issue
    refine absurd ?_ h
    simp only [memberIssues, member, (ofIssues_eq_ok_iff.1 hd).1, (ofIssues_eq_ok_iff.1 hx).1,
      (ofIssues_eq_ok_iff.1 hr).1, (ofIssues_eq_ok_iff.1 hf).1, (ofIssues_eq_ok_iff.1 hl).1,
      List.append_nil]
  · simp only [issuesOf_ofIssues]
    rfl

theorem ofFields_of_sound {fs : List (String × Value)} (h : memberIssues fs = []) :
    ofFields fs =
      if (dirOf (member fs "catalog_dir")).isNone && (remoteOf (member fs "remote_sources")).size = 0
      then .error [sourceIssue] else .ok (settingsOf fs) := by
  simp only [memberIssues, member, List.append_eq_nil_iff] at h
  obtain ⟨⟨⟨⟨hd, hx⟩, hr⟩, hf⟩, hl⟩ := h
  unfold ofFields
  dsimp only
  rw [readDir_eq, readSuffix_eq, readRemoteOf_eq, readFallback_eq, readReference_eq, hd, hx, hr, hf,
    hl]
  rfl

theorem dirOf_isNone_iff {v : Value} : (dirOf v).isNone = true ↔ ¬ ∃ s, v = .str s ∧ Text.trim s ≠ "" := by
  cases v with
  | str s => by_cases hs : Text.trim s = "" <;> simp [dirOf, hs]
  | _ => simp [dirOf]

theorem remoteOf_size_iff {v : Value} :
    (remoteOf v).size = 0 ↔ ¬ ∃ es, v = .record es ∧ es ≠ [] := by
  cases v with
  | record es =>
    have hkeys := Table.keys_ofList (es.map fun p => (Text.trim p.1, (p.2.asString?).getD ""))
    have hsize : (remoteOf (.record es)).size = (remoteOf (.record es)).keys.length := by
      simp [Table.size, Table.keys]
    rw [hsize, remoteOf, hkeys, List.length_eq_zero_iff, List.eq_nil_iff_forall_not_mem]
    simp only [List.mem_eraseDups, List.map_map, List.mem_map, Value.record.injEq, exists_eq_left',
      ne_eq, List.eq_nil_iff_forall_not_mem, not_forall, not_not, not_exists]
    constructor
    · intro h p hp
      exact h (Text.trim p.1) p ⟨hp, rfl⟩
    · intro h k p hp
      exact h p hp.1
  | _ => simp [remoteOf, Table.size, Table.empty]

theorem unsourced_iff (fs : List (String × Value)) :
    ((dirOf (member fs "catalog_dir")).isNone &&
      decide ((remoteOf (member fs "remote_sources")).size = 0)) = true ↔ ¬ NamesSource fs := by
  simp only [Bool.and_eq_true, decide_eq_true_eq, dirOf_isNone_iff, remoteOf_size_iff, NamesSource,
    not_or]

theorem remoteOf_record (es : List (String × Value)) :
    (remoteOf (.record es)).keys = (es.map fun p => Text.trim p.1).eraseDups ∧
      ∀ pre k url post, es = pre ++ (k, .str url) :: post →
        (∀ q ∈ post, Text.trim q.1 ≠ Text.trim k) →
          (remoteOf (.record es)).get? (Text.trim k) = some url := by
  obtain ⟨hkeys, hget⟩ := Table.ofList_trimmed (fun v => (v.asString?).getD "") es
  exact ⟨hkeys, fun pre k url post hes hpost => hget pre (k, .str url) post hes hpost⟩

theorem ofValue_fallbackOf {gs : List (String × Value)} (h : fallbackIssues (some (.record gs)) = []) :
    Fallback.ofValue (.record gs) = .ok (fallbackOf (some (.record gs))) := by
  simp only [fallbackIssues, Fallback.issues, List.append_eq_nil_iff, Option.toList_eq_nil_iff,
    Option.map_eq_none_iff] at h
  rw [Fallback.ofValue_record, Fallback.rulesOf_of_sound h.1 h.2 rfl rfl]
  rfl

theorem ofValue_record_eq (fs : List (String × Value)) :
    Settings.ofValue (.record fs) = (ofFields fs).mapError .invalid :=
  ofValue_of_fields (Fallback.namedFields_record fs)

theorem ofValue_record_of_unsound {fs : List (String × Value)} (h : ¬ Sound fs) :
    Settings.ofValue (.record fs) = .error (.invalid (memberIssues fs)) := by
  rw [ofValue_record_eq, ofFields_of_issue (fun he => h (memberIssues_eq_nil_iff.1 he))]
  rfl

theorem ofValue_record_of_sourced {fs : List (String × Value)} (h : Sound fs)
    (hn : NamesSource fs) : Settings.ofValue (.record fs) = .ok (settingsOf fs) := by
  have hb := mt (unsourced_iff fs).1 (not_not.2 hn)
  rw [Bool.not_eq_true] at hb
  rw [ofValue_record_eq, ofFields_of_sound (memberIssues_eq_nil_iff.2 h)]
  simp only [hb, Bool.false_eq_true, ↓reduceIte]
  rfl

theorem ofValue_record_of_unsourced {fs : List (String × Value)} (h : Sound fs)
    (hn : ¬ NamesSource fs) : Settings.ofValue (.record fs) = .error (.invalid [sourceIssue]) := by
  rw [ofValue_record_eq, ofFields_of_sound (memberIssues_eq_nil_iff.2 h)]
  simp only [(unsourced_iff fs).2 hn, ↓reduceIte]
  rfl

/-- Reading settings from a record accepts exactly the records whose members keep their rules
and that name a source. It reads each member as its rule does: the directory trimmed and none
when blank; the suffix trimmed and dotted, `.ftl` when absent; the remote sources under their
trimmed keys, each key at its first place with the URL of its last entry as it is; the fallback
configuration as a configuration reads it; the reference locale trimmed. A record with a member
that breaks its rule fails with one issue for each such member, or a fallback configuration's
own issues for its members, in the order the members are read; a record whose members all keep
their rules but that names no source fails with that one issue. -/
theorem ofValue_accepts_valid (fs : List (String × Value)) :
    ((∃ S, Settings.ofValue (.record fs) = .ok S) ↔ Sound fs ∧ NamesSource fs) ∧
    (∀ S, Settings.ofValue (.record fs) = .ok S →
      S = settingsOf fs ∧
      (∀ es, member fs "remote_sources" = .record es →
        S.remoteSources.keys = (es.map fun p => Text.trim p.1).eraseDups ∧
        ∀ pre k url post, es = pre ++ (k, .str url) :: post →
          (∀ q ∈ post, Text.trim q.1 ≠ Text.trim k) →
            S.remoteSources.get? (Text.trim k) = some url) ∧
      (∀ gs, Table.lookup fs "fallback" = some (.record gs) →
        Fallback.ofValue (.record gs) = .ok S.fallback)) ∧
    (¬ Sound fs → Settings.ofValue (.record fs) = .error (.invalid (memberIssues fs))) ∧
    (Sound fs → ¬ NamesSource fs →
      Settings.ofValue (.record fs) = .error (.invalid [sourceIssue])) := by
  refine ⟨⟨fun ⟨S, h⟩ => ?_, fun ⟨hs, hn⟩ => ⟨_, ofValue_record_of_sourced hs hn⟩⟩,
    fun S h => ?_, ofValue_record_of_unsound, ofValue_record_of_unsourced⟩
  · -- a record that is read keeps every rule and names a source
    by_cases hs : Sound fs
    · by_cases hn : NamesSource fs
      · exact ⟨hs, hn⟩
      · rw [ofValue_record_of_unsourced hs hn] at h
        cases h
    · rw [ofValue_record_of_unsound hs] at h
      cases h
  · -- so what it reads is the settings of the rules
    have hs : Sound fs := by
      by_contra hs
      rw [ofValue_record_of_unsound hs] at h
      cases h
    have hn : NamesSource fs := by
      by_contra hn
      rw [ofValue_record_of_unsourced hs hn] at h
      cases h
    rw [ofValue_record_of_sourced hs hn] at h
    obtain rfl := (Except.ok.inj h).symm
    refine ⟨rfl, fun es hes => ?_, fun gs hgs => ?_⟩
    · have hr : (settingsOf fs).remoteSources = remoteOf (.record es) := by
        show remoteOf (member fs "remote_sources") = _
        rw [hes]
      rw [hr]
      exact remoteOf_record es
    · have hf := memberIssues_eq_nil_iff.2 hs
      simp only [memberIssues, List.append_eq_nil_iff] at hf
      rw [hgs] at hf
      show Fallback.ofValue _ = .ok (fallbackOf (Table.lookup fs "fallback"))
      rw [hgs]
      exact ofValue_fallbackOf hf.1.2

end Phrasebook.Settings
