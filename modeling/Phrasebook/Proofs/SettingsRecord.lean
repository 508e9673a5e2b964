import Phrasebook.Proofs.FallbackReading
import Phrasebook.Proofs.FileLoading

/-!
Settings written back as a record, and read again.

Reading settings leaves every member in a normal form (`Normal`): a directory trimmed and not
blank, a suffix trimmed and starting with `.`, remote sources under trimmed locales each once,
each with an HTTP or HTTPS URL, a normal fallback configuration, a trimmed reference locale,
and a directory or a remote source. Each member's reader gives back a normal member as it is
written (`readSuffix_str`, `readRemoteOf_written` and the like), so the record the settings
write reads back as the settings, with one exception. The record leaves out what is unset, in
the fallback configuration too, and a default locale left out reads as `en`: a default locale
set to none comes back as `en` (`ofValue_toValue_fills_default`). The effective reference
locale, which takes `en` when there is no default, is the same either way.
-/

namespace Phrasebook.Settings

open Fallback (Trimmed)

/-! ### Members in normal form -/

/-- Remote sources as reading leaves them: each locale trimmed, not blank and once, each URL an
HTTP or HTTPS one. -/
structure RemoteNormal (r : Table String) : Prop where
  keys_nodup : r.keys.Nodup
  key_trimmed : ∀ p ∈ r.entries, Trimmed p.1
  web : ∀ p ∈ r.entries, isWebUrl p.2 = true

/-- Settings as reading leaves them. -/
structure Normal (s : Settings) : Prop where
  dir_trimmed : ∀ d ∈ s.catalogDir, Trimmed d
  suffix_trimmed : Trimmed s.suffix
  suffix_dot : s.suffix.startsWith "." = true
  remote : RemoteNormal s.remoteSources
  fallback : s.fallback.Normal
  reference_trimmed : ∀ r ∈ s.referenceLocale, Trimmed r
  sourced : (s.catalogDir.isNone && decide (s.remoteSources.size = 0)) = false

theorem trimmed_of_normalize {v : Value} {t : String} (h : Locale.normalize v = .ok t) :
    Trimmed t := by
  cases hv : Fallback.tagFault v with
  | some m => rw [Fallback.normalize_of_tagFault hv] at h; cases h
  | none =>
    rw [Fallback.normalize_of_tag hv] at h
    cases h
    exact Fallback.trimmed_tagOf (Fallback.tagFault_eq_none_iff.1 hv)

theorem normalize_trimmed {x : String} (h : Trimmed x) : Locale.normalize (.str x) = .ok x := by
  rw [Fallback.normalize_of_tag (Fallback.tagFault_eq_none_iff.2 (Fallback.isTag_of_trimmed h)),
    Fallback.tagOf_str, h.1]

theorem isEmpty_of_trimmed {x : String} (h : Trimmed x) : x.isEmpty = false := by
  cases he : x.isEmpty
  · rfl
  · exact absurd (String.isEmpty_iff.1 he) h.2

/-! ### The directory -/

theorem readDir_trimmed {v : Value} {d : Option String} (h : readDir v = .ok d) :
    ∀ x ∈ d, Trimmed x := by
  intro x hx
  cases v with
  | null => cases h; cases hx
  | str s =>
    simp only [readDir] at h
    obtain rfl := Except.ok.inj h
    split at hx
    · cases hx
    · next hne =>
      cases hx
      exact ⟨Fallback.trim_trim s, fun he => hne (String.isEmpty_iff.2 he)⟩
  | _ => cases h

theorem readDir_ofOption {d : Option String} (h : ∀ x ∈ d, Trimmed x) :
    readDir (.ofOption d) = .ok d := by
  cases d with
  | none => rfl
  | some x =>
    have hx := h x rfl
    simp only [Value.ofOption, readDir, hx.1, isEmpty_of_trimmed hx, Bool.false_eq_true, if_false]

/-! ### The suffix -/

theorem toList_dot_append (t : String) : ("." ++ t).toList = '.' :: t.toList := by
  rw [String.toList_append]
  rfl

theorem startsWith_dot_append (t : String) : ("." ++ t).startsWith "." = true := by
  rw [String.startsWith_string_iff, toList_dot_append]
  exact ⟨t.toList, rfl⟩

theorem trimmed_dot_append {t : String} (h : Trimmed t) : Trimmed ("." ++ t) := by
  have hne : t.toList ≠ [] := fun hn => h.2 (String.toList_eq_nil_iff.1 hn)
  have hlast : ∀ c ∈ ('.' :: t.toList).getLast?, Text.isBlank c = false := by
    rw [List.getLast?_cons, List.getLast?_eq_some_getLast hne, Option.getD_some]
    intro c hc
    exact Text.getLast?_not_blank h.1 c (by rw [List.getLast?_eq_some_getLast hne]; exact hc)
  refine ⟨?_, fun he => ?_⟩
  · rw [Text.trim, toList_dot_append, Text.trimList_eq_self (fun c hc => by cases hc; decide) hlast,
      ← toList_dot_append, String.ofList_toList]
  · have := congrArg String.toList he
    rw [toList_dot_append] at this
    cases this

theorem trimmed_ftl : Trimmed ".ftl" := ⟨rfl, by decide⟩

theorem startsWith_ftl : ".ftl".startsWith "." = true :=
  String.startsWith_string_iff.2 ⟨"ftl".toList, rfl⟩

theorem readSuffix_normal {p : Bool} {v : Value} {x : String} (h : readSuffix p v = .ok x) :
    Trimmed x ∧ x.startsWith "." = true := by
  unfold readSuffix at h
  split at h
  · cases h
    exact ⟨trimmed_ftl, startsWith_ftl⟩
  · split at h
    · next s =>
      dsimp only at h
      split at h
      · cases h
      · next hne =>
        obtain rfl := Except.ok.inj h
        have ht : Trimmed (Text.trim s) :=
          ⟨Fallback.trim_trim s, fun he => hne (String.isEmpty_iff.2 he)⟩
        split
        · next hd => exact ⟨ht, hd⟩
        · exact ⟨trimmed_dot_append ht, startsWith_dot_append _⟩
    · cases h

theorem readSuffix_str {x : String} (h : Trimmed x) (hd : x.startsWith "." = true) :
    readSuffix true (.str x) = .ok x := by
  simp only [readSuffix, Bool.not_true, Bool.false_eq_true, if_false, h.1, isEmpty_of_trimmed h,
    hd, if_true]

/-! ### The remote sources -/

theorem RemoteNormal.empty : RemoteNormal Table.empty where
  keys_nodup := List.nodup_nil
  key_trimmed _ h := by cases h
  web _ h := by cases h

theorem RemoteNormal.set {t : Table String} {k u : String} (h : RemoteNormal t) (hk : Trimmed k)
    (hu : isWebUrl u = true) : RemoteNormal (t.set k u) where
  keys_nodup := Table.keys_set_nodup t k u h.keys_nodup
  key_trimmed p hp := by
    rcases Table.mem_assign hp with hp | rfl
    · exact h.key_trimmed p hp
    · exact hk
  web p hp := by
    rcases Table.mem_assign hp with hp | rfl
    · exact h.web p hp
    · exact hu

theorem readRemote_normal : ∀ {fs : List (String × Value)} {t r : Table String},
    RemoteNormal t → readRemote t fs = .ok r → RemoteNormal r
  | [], _, _, ht, h => by
    cases h
    exact ht
  | (k, v) :: rest, t, r, ht, h => by
    unfold readRemote at h
    split at h
    · next url =>
      split at h
      · next hu =>
        cases hn : Locale.normalize (.str k) with
        | error m => rw [hn] at h; cases h
        | ok key =>
          rw [hn] at h
          exact readRemote_normal (ht.set (trimmed_of_normalize hn) hu) h
      · cases h
    · cases h

theorem readRemote_written : ∀ (es : List (String × String)) (t : Table String),
    (∀ p ∈ es, Trimmed p.1 ∧ isWebUrl p.2 = true) →
      readRemote t (es.map fun p => (p.1, .str p.2)) =
        .ok (es.foldl (fun t p => t.set p.1 p.2) t)
  | [], _, _ => rfl
  | (k, u) :: rest, t, h => by
    have hk := h (k, u) List.mem_cons_self
    simp only [List.map_cons, readRemote, hk.2, if_true, normalize_trimmed hk.1]
    exact readRemote_written rest _ fun p hp => h p (List.mem_cons_of_mem _ hp)

theorem readRemoteOf_normal {v : Value} {r : Table String} (h : readRemoteOf v = .ok r) :
    RemoteNormal r := by
  cases v with
  | null =>
    cases h
    exact RemoteNormal.empty
  | record fs =>
    simp only [readRemoteOf] at h
    cases hr : readRemote Table.empty fs with
    | error m => rw [hr] at h; cases h
    | ok r' =>
      rw [hr] at h
      cases h
      exact readRemote_normal RemoteNormal.empty hr
  | _ => cases h

theorem readRemoteOf_written {r : Table String} (h : RemoteNormal r) :
    readRemoteOf (.record (r.entries.map fun p => (p.1, .str p.2))) = .ok r := by
  have hread := readRemote_written r.entries Table.empty fun p hp => ⟨h.key_trimmed p hp, h.web p hp⟩
  simp only [readRemoteOf, hread]
  show Except.ok (Table.ofList r.entries) = .ok r
  rw [Table.ofList_of_nodup h.keys_nodup]

/-! ### The fallback configuration and the reference locale -/

theorem normal_default_fallback : ({} : Fallback).Normal where
  default_trimmed x hx := by
    cases hx
    exact Fallback.trimmed_en
  keys_nodup := List.nodup_nil
  key_trimmed _ h := by cases h
  chain_nodup _ h := by cases h
  member_trimmed _ h := by cases h

theorem readFallback_normal {p : Bool} {v : Value} {fb : Fallback} (h : readFallback p v = .ok fb) :
    fb.Normal := by
  unfold readFallback at h
  split at h
  · cases h
    exact normal_default_fallback
  · split at h
    · next fs =>
      rw [Fallback.ofFields_eq, Fallback.rulesOf] at h
      split at h
      · next hr =>
        cases h
        exact Fallback.normal_of_rules hr.1 hr.2
      · cases h
    · cases h

theorem readFallback_toValue {fb : Fallback} (h : fb.Normal) :
    readFallback true fb.toValue =
      .ok { fb with defaultLocale := fb.defaultLocale.or (some "en") } := by
  have hcf := Fallback.chainsFault_written h
  have hco := Fallback.chainsOf_written h
  cases hd : fb.defaultLocale with
  | none =>
    simp only [readFallback, Bool.not_true, Bool.false_eq_true, if_false, Fallback.toValue, hd]
    rw [Fallback.ofFields_eq, Fallback.rulesOf_of_sound rfl hcf rfl rfl, hco]
    rfl
  | some x =>
    have hx := h.default_trimmed x hd
    simp only [readFallback, Bool.not_true, Bool.false_eq_true, if_false, Fallback.toValue, hd]
    rw [Fallback.ofFields_eq, Fallback.rulesOf_of_sound (Fallback.defaultFault_str hx) hcf rfl rfl,
      Fallback.defaultOf_str hx, hco]
    rfl

theorem readReference_trimmed {v : Value} {r : Option String} (h : readReference v = .ok r) :
    ∀ x ∈ r, Trimmed x := by
  intro x hx
  cases v with
  | null => cases h; cases hx
  | _ =>
    simp only [readReference] at h
    cases hn : Locale.normalize _ with
    | error m => rw [hn] at h; cases h
    | ok t =>
      rw [hn] at h
      cases h
      cases hx
      exact trimmed_of_normalize hn

theorem readReference_ofOption {r : Option String} (h : ∀ x ∈ r, Trimmed x) :
    readReference (.ofOption r) = .ok r := by
  cases r with
  | none => rfl
  | some x =>
    simp only [Value.ofOption, readReference, normalize_trimmed (h x rfl)]
    rfl

/-! ### The whole record -/

theorem mapError_eq_ok {ε ε' α : Type} {e : Except ε α} {f : ε → ε'} {a : α} :
    e.mapError f = .ok a ↔ e = .ok a := by
  cases e <;> simp [Except.mapError]

/-- Settings read from members hold each member as its reader reads it, and have a directory or
a remote source. -/
theorem ofFields_members {fs : List (String × Value)} {S : Settings} (h : ofFields fs = .ok S) :
    readDir ((Table.lookup fs "catalog_dir").getD .null) = .ok S.catalogDir ∧
    readSuffix (Table.lookup fs "suffix").isSome ((Table.lookup fs "suffix").getD .null) =
      .ok S.suffix ∧
    readRemoteOf ((Table.lookup fs "remote_sources").getD .null) = .ok S.remoteSources ∧
    readFallback (Table.lookup fs "fallback").isSome ((Table.lookup fs "fallback").getD .null) =
      .ok S.fallback ∧
    readReference ((Table.lookup fs "reference_locale").getD .null) = .ok S.referenceLocale ∧
    (S.catalogDir.isNone && decide (S.remoteSources.size = 0)) = false := by
  unfold ofFields at h
  dsimp only at h
  split at h
  · next d x r f l hd hx hr hf hl =>
    split at h
    · cases h
    · next hs =>
      cases h
      simp only [Bool.not_eq_true] at hs
      exact ⟨mapError_eq_ok.1 hd, mapError_eq_ok.1 hx, mapError_eq_ok.1 hr, hf,
        mapError_eq_ok.1 hl, hs⟩
  · cases h

theorem ofFields_of_members {fs : List (String × Value)} {d : Option String} {x : String}
    {r : Table String} {f : Fallback} {l : Option String}
    (hd : readDir ((Table.lookup fs "catalog_dir").getD .null) = .ok d)
    (hx : readSuffix (Table.lookup fs "suffix").isSome ((Table.lookup fs "suffix").getD .null) =
      .ok x)
    (hr : readRemoteOf ((Table.lookup fs "remote_sources").getD .null) = .ok r)
    (hf : readFallback (Table.lookup fs "fallback").isSome
      ((Table.lookup fs "fallback").getD .null) = .ok f)
    (hl : readReference ((Table.lookup fs "reference_locale").getD .null) = .ok l)
    (hs : (d.isNone && decide (r.size = 0)) = false) :
    ofFields fs = .ok ⟨d, x, r, f, l⟩ := by
  unfold ofFields
  simp only [hd, hx, hr, hf, hl, Except.mapError, hs, Bool.false_eq_true, if_false]

theorem ofValue_of_fields {v : Value} {fs : List (String × Value)}
    (h : Fallback.namedFields v = .ok fs) : Settings.ofValue v = (ofFields fs).mapError .invalid := by
  unfold Settings.ofValue
  rw [h]
  simp only [bind, Except.bind]
  cases ofFields fs <;> rfl

theorem ofFields_of_ofValue {v : Value} {S : Settings} (h : Settings.ofValue v = .ok S) :
    ∃ fs, ofFields fs = .ok S := by
  cases hn : Fallback.namedFields v with
  | error f =>
    unfold Settings.ofValue at h
    rw [hn] at h
    cases h
  | ok fs =>
    rw [ofValue_of_fields hn, mapError_eq_ok] at h
    exact ⟨fs, h⟩

theorem normal_of_ofFields {fs : List (String × Value)} {S : Settings} (h : ofFields fs = .ok S) :
    S.Normal := by
  obtain ⟨hd, hx, hr, hf, hl, hs⟩ := ofFields_members h
  exact ⟨readDir_trimmed hd, (readSuffix_normal hx).1, (readSuffix_normal hx).2,
    readRemoteOf_normal hr, readFallback_normal hf, readReference_trimmed hl, hs⟩

theorem toValue_members (S : Settings) : ∃ L, S.toValue = .record L ∧
    (Table.lookup L "catalog_dir").getD .null = .ofOption S.catalogDir ∧
    Table.lookup L "suffix" = some (.str S.suffix) ∧
    (Table.lookup L "remote_sources").getD .null =
      .record (S.remoteSources.entries.map fun p => (p.1, .str p.2)) ∧
    Table.lookup L "fallback" = some S.fallback.toValue ∧
    (Table.lookup L "reference_locale").getD .null = .ofOption S.referenceLocale := by
  obtain ⟨d, x, r, f, l⟩ := S
  refine ⟨_, rfl, ?_⟩
  cases d <;> cases l <;> exact ⟨rfl, rfl, rfl, rfl, rfl⟩

theorem ofValue_toValue {S : Settings} (h : S.Normal) :
    Settings.ofValue S.toValue = .ok { S with fallback := { S.fallback with
      defaultLocale := S.fallback.defaultLocale.or (some "en") } } := by
  obtain ⟨L, hL, h₁, h₂, h₃, h₄, h₅⟩ := toValue_members S
  have hfields : ofFields L = .ok { S with fallback := { S.fallback with
      defaultLocale := S.fallback.defaultLocale.or (some "en") } } := by
    refine ofFields_of_members ?_ ?_ ?_ ?_ ?_ h.sourced
    · rw [h₁]
      exact readDir_ofOption h.dir_trimmed
    · rw [h₂, Option.isSome_some, Option.getD_some]
      exact readSuffix_str h.suffix_trimmed h.suffix_dot
    · rw [h₃]
      exact readRemoteOf_written h.remote
    · rw [h₄, Option.isSome_some, Option.getD_some]
      exact readFallback_toValue h.fallback
    · rw [h₅]
      exact readReference_ofOption h.reference_trimmed
  rw [hL, ofValue_of_fields (Fallback.namedFields_record L), hfields]
  rfl

theorem effectiveReference_fill (S : Settings) :
    ({ S with fallback := { S.fallback with
      defaultLocale := S.fallback.defaultLocale.or (some "en") } } : Settings).effectiveReference =
      S.effectiveReference := by
  obtain ⟨d, x, r, ⟨dl, ch⟩, l⟩ := S
  cases l <;> cases dl <;> rfl

/-- Settings read from any value, written back as a record, read again as the same settings,
but for a default locale set to none: the record leaves it out, and it comes back as `en`. So
the settings come back unchanged exactly when a default locale is set, and the effective
reference locale comes back unchanged always. -/
theorem ofValue_toValue_fills_default (v : Value) {S : Settings}
    (h : Settings.ofValue v = .ok S) :
    Settings.ofValue S.toValue = .ok { S with fallback := { S.fallback with
        defaultLocale := S.fallback.defaultLocale.or (some "en") } } ∧
      (Settings.ofValue S.toValue = .ok S ↔ S.fallback.defaultLocale ≠ none) ∧
      ∀ S', Settings.ofValue S.toValue = .ok S' → S'.effectiveReference = S.effectiveReference := by
  obtain ⟨fs, hfs⟩ := ofFields_of_ofValue h
  have hback := ofValue_toValue (normal_of_ofFields hfs)
  refine ⟨hback, ?_, fun S' h' => ?_⟩
  · rw [hback]
    obtain ⟨d, x, r, ⟨dl, ch⟩, l⟩ := S
    cases dl with
    | none => simp
    | some y => simp
  · rw [hback] at h'
    cases h'
    exact effectiveReference_fill S

/-- Settings read from a record with a padded directory and a null default locale: written back
and read again, the default locale comes back as `en`. -/
theorem ofValue_toValue_fills_default_i18n :
    let S : Settings := { catalogDir := some "i18n", fallback := { defaultLocale := none } }
    Settings.ofValue (.record [("catalog_dir", .str " i18n "),
        ("fallback", .record [("default_locale", .null)])]) = .ok S ∧
    Settings.ofValue S.toValue = .ok { S with fallback := { S.fallback with
        defaultLocale := S.fallback.defaultLocale.or (some "en") } } ∧
      (Settings.ofValue S.toValue = .ok S ↔ S.fallback.defaultLocale ≠ none) ∧
      ∀ S', Settings.ofValue S.toValue = .ok S' → S'.effectiveReference = S.effectiveReference :=
  have h : Settings.ofValue (.record [("catalog_dir", .str " i18n "),
      ("fallback", .record [("default_locale", .null)])]) =
      .ok { catalogDir := some "i18n", fallback := { defaultLocale := none } } := by rfl
  ⟨h, ofValue_toValue_fills_default _ h⟩

/-- A default locale set to none does not survive the record: the record leaves it out, and the
settings read back have `en`. -/
theorem toValue_drops_null_default :
    Settings.ofValue (.record [("catalog_dir", .str "i18n"),
        ("fallback", .record [("default_locale", .null)])]) =
      .ok { catalogDir := some "i18n", fallback := { defaultLocale := none } } ∧
    Settings.ofValue ({ catalogDir := some "i18n", fallback := { defaultLocale := none } } :
        Settings).toValue = .ok { catalogDir := some "i18n" } ∧
    ({ catalogDir := some "i18n" } : Settings) ≠
      { catalogDir := some "i18n", fallback := { defaultLocale := none } } :=
  have h₀ : Settings.ofValue (.record [("catalog_dir", .str "i18n"),
      ("fallback", .record [("default_locale", .null)])]) =
      .ok { catalogDir := some "i18n", fallback := { defaultLocale := none } } := by rfl
  have hback := by
    obtain ⟨fs, hfs⟩ := ofFields_of_ofValue h₀
    exact ofValue_toValue (normal_of_ofFields hfs)
  ⟨h₀, hback, fun h => by cases h⟩

end Phrasebook.Settings
