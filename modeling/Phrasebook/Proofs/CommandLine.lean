import Phrasebook.Cli.Run
import Phrasebook.Proofs.SettingsCache
import Phrasebook.Proofs.Loading
import Phrasebook.Proofs.Coverage
import Phrasebook.Proofs.TextLookup

/-!
How a run of the command line ends, stage by stage.

A run reads its command line and then sets up: the settings (`resolveSettings`), the catalog
texts they name (`gathered`), and the registry loaded from them (`buildRegistry`). Then it
carries out its task on the registry (`perform`) and tears the registry down, however the task
ends. A fault ends the run where it arises: a failed load of the catalogs prints each failed
locale, in source order, and ends with status 1; any other fault of the tool's own ends it with
status 2; and a fault that is not the tool's own escapes (`endSetup`, `endWith`). So no fault
of the tool's own ever escapes a run. Once the registry is loaded, `check` ends with status 0,
`coverage` with status 1 exactly when some locale lacks a key of the reference, and with
status 2 when the reference is not loaded, and `lookup` of a key with status 1 exactly when no
locale of the chain has it.

Settings read from `--catalog-dir` alone are a settings document, and one whose directory is
blank names no source: it breaks the rules of settings, a fault that is not the tool's own, so
it escapes the run (`blank_dir_escapes`).

Main statement: `session_ends_by_stage`.
-/

namespace Phrasebook.Cli

open Registry (outcome loadFailures textIn)

/-! ### How faults end a run -/

theorem endWith_error {f g : Fault} (h : endWith f = .error g) : g = f ∧ f.isOwn = false := by
  unfold endWith at h
  cases hf : f.isOwn
  · rw [hf] at h
    cases h
    exact ⟨rfl, rfl⟩
  · rw [hf] at h
    cases h

theorem endSetup_error {f g : Fault} (h : endSetup f = .error g) : g = f ∧ f.isOwn = false := by
  cases f with
  | aggregate fs => cases h
  | _ => exact endWith_error h

theorem endSetup_of_not_aggregate {f : Fault} (h : ∀ fs, f ≠ .aggregate fs) :
    endSetup f = endWith f := by
  cases f with
  | aggregate fs => exact absurd rfl (h fs)
  | _ => rfl

theorem tryCatch_endWith_error {x : Except Fault Outcome} {g : Fault}
    (h : x.tryCatch endWith = .error g) : x = .error g ∧ g.isOwn = false := by
  cases x with
  | ok o => cases h
  | error f =>
    obtain ⟨rfl, hown⟩ := endWith_error h
    exact ⟨rfl, hown⟩

/-! ### The stages of a run -/

section Stages

variable {d : Disk} {envConfig : Option String} {inv : Invocation}

theorem session_of_invocation {argv : List String} {vals : Table Setting}
    (hr : read grammar argv = .ok vals) (hi : Invocation.ofSettings vals = some inv) :
    session d envConfig argv = sessionOf d envConfig inv := by
  simp only [session, hr, hi]

theorem sessionOf_of_setup_error {f : Fault} (h : setup d envConfig inv = .error f) :
    sessionOf d envConfig inv = { result := endSetup f } := by
  simp only [sessionOf, h]

theorem sessionOf_of_setup_ok {s : Settings} {r : Registry}
    (h : setup d envConfig inv = .ok (s, r)) :
    sessionOf d envConfig inv =
      { result := (perform s r inv.task).tryCatch endWith,
        registry := (quietly r.teardown).toOption } := by
  simp only [sessionOf, h]

theorem setup_of_settings_error {f : Fault} (h : resolveSettings d envConfig inv = .error f) :
    setup d envConfig inv = .error f := by
  simp only [setup, h, bind, Except.bind]

theorem setup_of_failures {s : Settings} {srcs : Table String}
    (hs : resolveSettings d envConfig inv = .ok s) (hg : gathered d s = .ok srcs)
    (hne : loadFailures srcs.entries ≠ []) :
    setup d envConfig inv = .error (.aggregate (loadFailures srcs.entries)) := by
  obtain ⟨j', hrun, -⟩ := Registry.ofTexts_run_error s.fallback {} hne
  have hq : quietly (Registry.ofTexts srcs s.fallback) =
      .error (.aggregate (loadFailures srcs.entries)) := by
    simp only [quietly, hrun]
  simp only [setup, buildRegistry, hs, hg, hq, bind, Except.bind]

theorem setup_ok {s : Settings} {r : Registry} (h : setup d envConfig inv = .ok (s, r)) :
    resolveSettings d envConfig inv = .ok s ∧ buildRegistry d s = .ok r := by
  unfold setup at h
  obtain ⟨s', hs, h⟩ := except_bind_eq_ok h
  obtain ⟨r', hr, h⟩ := except_bind_eq_ok h
  cases h
  exact ⟨hs, hr⟩

end Stages

/-! ### The registry a run loads -/

theorem mem_keys_assignKey {α : Type} {ps : List (Value × α)} {k k' : Value} {v : α}
    (h : k' ∈ (Value.assignKey ps k v).map Prod.fst) : k' ∈ ps.map Prod.fst ∨ k' = k := by
  induction ps with
  | nil =>
    simp only [Value.assignKey, List.map_cons, List.map_nil, List.mem_singleton] at h
    exact Or.inr h
  | cons p ps ih =>
    obtain ⟨k'', v''⟩ := p
    unfold Value.assignKey at h
    split at h
    · simp only [List.map_cons, List.mem_cons] at h ⊢
      exact Or.inl h
    · simp only [List.map_cons, List.mem_cons] at h ⊢
      rcases h with h | h
      · exact Or.inl (Or.inl h)
      · rcases ih h with h | h
        · exact Or.inl (Or.inr h)
        · exact Or.inr h

theorem keys_foldl_texts {α β : Type} (g : Mapping α → Value × β → Mapping α)
    (hg : ∀ m p, ∀ k ∈ (g m p).keys, k ∈ m.keys ∨ k = p.1) :
    ∀ (ps : List (Value × β)) (m : Mapping α), (∀ p ∈ ps, ∃ t, p.1 = .str t) →
      (∀ k ∈ m.keys, ∃ t, k = .str t) → ∀ k ∈ (ps.foldl g m).keys, ∃ t, k = .str t
  | [], _, _, hm => hm
  | p :: ps, m, hps, hm =>
    keys_foldl_texts g hg ps (g m p) (fun q hq => hps q (List.mem_cons_of_mem _ hq))
      fun k hk => (hg m p k hk).elim (hm k) fun he => he ▸ hps p List.mem_cons_self

theorem eq_map_str_of_texts : ∀ {ks : List Value}, (∀ k ∈ ks, ∃ t, k = .str t) →
    ∃ ts : List String, ks = ts.map .str
  | [], _ => ⟨[], rfl⟩
  | k :: ks, h => by
    obtain ⟨t, rfl⟩ := h k List.mem_cons_self
    obtain ⟨ts, hts⟩ := eq_map_str_of_texts fun k' hk' => h k' (List.mem_cons_of_mem _ hk')
    exact ⟨t :: ts, by rw [hts, List.map_cons]⟩

/-- A registry loaded from catalog texts is open, and its locales are texts. -/
theorem ofTexts_outcome_ok {sources : List (String × String)} {fb : Fallback} {j : Log.Journal}
    {r : Registry} (h : outcome (Registry.ofTexts ⟨sources⟩ fb) j = .ok r) :
    r.closed = false ∧ ∃ ts : List String, r.stores.keys = ts.map .str := by
  by_cases hok : loadFailures sources = []
  · unfold Registry.ofTexts Registry.ofSources outcome at h
    simp only [run_bind, run_orFail, Registry.readAll_texts] at h
    generalize hfs : List.filterMap _ (List.map _ sources) = fs at h
    have hfs' : fs = (loadFailures sources).map fun p => (.str p.1, p.2) := by
      rw [← hfs]
      exact Registry.failures_texts sources
    rw [hok] at hfs'
    subst hfs'
    simp only [List.map_nil, List.isEmpty_nil, if_true, run_bind, Registry.run_say] at h
    cases h
    refine ⟨rfl, eq_map_str_of_texts (keys_foldl_texts _ ?_ _ _ ?_ ?_)⟩
    · -- a catalog that read is set under its locale, and a failure sets nothing
      intro m p k hk
      rcases p with ⟨l, _ | c⟩
      · exact Or.inl hk
      · exact mem_keys_assignKey hk
    · intro p hp
      obtain ⟨q, -, rfl⟩ := List.mem_map.1 hp
      exact ⟨q.1, rfl⟩
    · intro k hk
      cases hk
  · obtain ⟨j', hrun, -⟩ := Registry.ofTexts_run_error fb j hok
    unfold outcome at h
    rw [hrun] at h
    cases h

theorem buildRegistry_ok {d : Disk} {s : Settings} {r : Registry}
    (h : buildRegistry d s = .ok r) :
    r.closed = false ∧ ∃ ts : List String, r.stores.keys = ts.map .str := by
  unfold buildRegistry at h
  obtain ⟨⟨sources⟩, -, h⟩ := except_bind_eq_ok h
  exact ofTexts_outcome_ok h

/-! ### The tasks -/

section Tasks

variable {s : Settings} {r : Registry}

theorem perform_check {ts : List String} (h : r.stores.keys = ts.map .str) :
    ∃ text, perform s r .check = .ok { exit := 0, stdout := text } := by
  rw [perform, checkReport, Mapping.sortedKeys_strs h]
  exact ⟨_, rfl⟩

theorem perform_coverage_unknown (hopen : r.closed = false) {reference : Option String}
    {asJson : Bool}
    (hnone : r.stores.get? (.str ((given reference).getD s.effectiveReference)) = none) :
    perform s r (.coverage reference asJson) =
      .error (.unknownLocale (.str ((given reference).getD s.effectiveReference))) := by
  have hc := Registry.run_coverage_unknown hopen hnone {}
  simp only [perform, quietly, hc]
  rfl

theorem perform_coverage_of_report {reference : Option String} (asJson : Bool)
    {report : List (Value × List String)}
    (h : quietly (r.coverage (.str ((given reference).getD s.effectiveReference))) = .ok report) :
    ∃ text, perform s r (.coverage reference asJson) =
      .ok { exit := if report.any (!·.2.isEmpty) then 1 else 0, stdout := text } := by
  simp only [perform, h]
  exact ⟨_, rfl⟩

/-- A lookup of a key given as a word in an open registry ends with status 0 when some locale of
the chain has the key, and with status 1 when none does. -/
theorem perform_lookup (hopen : r.closed = false) (locale key : String) :
    ∃ out, perform s r (.lookup locale (some key)) = .ok out ∧ out.exit ≤ 1 ∧
      (out.exit = 1 ↔ ∀ l ∈ r.effectiveChain locale, textIn r.stores key l = none) := by
  have hl : quietly (r.lookup (.str locale) (.str key)) = r.resolve (.str locale) (.str key) := by
    have h := Registry.lookup_outcome r (.str locale) (.str key) {}
    rw [hopen, if_neg Bool.false_ne_true] at h
    exact h
  have hres := Registry.resolve_str r locale key
  cases hf : (r.effectiveChain locale).findSome? fun l => (textIn r.stores key l).map (l, ·) with
  | none =>
    -- no locale of the chain has the key: the miss ends the run with status 1
    rw [hf] at hres
    have hm : ∀ l ∈ r.effectiveChain locale, textIn r.stores key l = none := by
      intro l hl'
      simpa using List.findSome?_eq_none_iff.1 hf l hl'
    simp only [perform, Option.map_some, Option.getD_some, hl, hres]
    exact ⟨_, rfl, Nat.le_refl 1, iff_of_true rfl hm⟩
  | some p =>
    obtain ⟨l, t⟩ := p
    rw [hf] at hres
    have hhit : ¬ ∀ l ∈ r.effectiveChain locale, textIn r.stores key l = none := by
      intro hm
      obtain ⟨l', hl', hsome⟩ := List.exists_of_findSome?_eq_some hf
      rw [hm l' hl'] at hsome
      cases hsome
    simp only [perform, Option.map_some, Option.getD_some, hl, hres]
    exact ⟨_, rfl, Nat.zero_le 1, iff_of_false Nat.zero_ne_one hhit⟩

end Tasks

theorem quietly_teardown {r : Registry} (hopen : r.closed = false) :
    quietly r.teardown = .ok { r with stores := {}, version := r.version + 1, closed := true } := by
  have ht : quietly r.teardown = _ := Registry.teardown_outcome r {}
  rw [ht, hopen]
  rfl

/-! ### Settings from the catalog directory alone -/

theorem sound_dir_alone (dir : String) : Settings.Sound [("catalog_dir", .str dir)] where
  dir := Or.inr ⟨dir, by simp [Settings.member, Table.lookup]⟩
  suffix := by simp [Table.lookup]
  remote := Or.inl (by simp [Settings.member, Table.lookup])
  fallback := by simp [Table.lookup]
  reference := Or.inl (by simp [Settings.member, Table.lookup])

theorem resolveSettings_of_blank_dir {d : Disk} {envConfig : Option String} {inv : Invocation}
    {dir : String} (hd : given inv.catalogDir = some dir) (hc : given inv.config = none)
    (hb : Text.trim dir = "") :
    resolveSettings d envConfig inv = .error (.invalid [Settings.sourceIssue]) := by
  have hnot : ¬ Settings.NamesSource [("catalog_dir", .str dir)] := by
    rintro (⟨t, ht, hne⟩ | ⟨es, hes, -⟩)
    · simp only [Settings.member, Table.lookup, if_true, Option.getD_some, Value.str.injEq] at ht
      exact hne (ht ▸ hb)
    · simp [Settings.member, Table.lookup] at hes
  simp only [resolveSettings, hd, hc]
  rw [← Settings.ofValue_record_eq]
  exact Settings.ofValue_record_of_unsourced (sound_dir_alone dir) hnot

/-! ### The main statement -/

theorem sessionOf_of_loaded {d : Disk} {envConfig : Option String} {inv : Invocation}
    {s : Settings} {r : Registry} (h : setup d envConfig inv = .ok (s, r)) :
    r.closed = false ∧ (∃ ts : List String, r.stores.keys = ts.map .str) ∧
      sessionOf d envConfig inv =
        { result := (perform s r inv.task).tryCatch endWith,
          registry := some { r with stores := {}, version := r.version + 1, closed := true } } := by
  obtain ⟨hopen, hkeys⟩ := buildRegistry_ok (setup_ok h).2
  refine ⟨hopen, hkeys, ?_⟩
  rw [sessionOf_of_setup_ok h, quietly_teardown hopen]
  rfl

/-- How a run of the command line `argv`, read as the invocation `inv`, ends, stage by stage. -/
structure EndsByStage (d : Disk) (envConfig : Option String) (argv : List String)
    (inv : Invocation) : Prop where
  /-- What escapes the run is never a fault of the tool's own. -/
  escaped : ∀ f, (session d envConfig argv).result = .error f → f.isOwn = false
  /-- A blank catalog directory given alone breaks the rules of settings, and that escapes. -/
  blankDir : ∀ dir, given inv.catalogDir = some dir → given inv.config = none →
    Text.trim dir = "" →
      (session d envConfig argv).result = .error (.invalid [Settings.sourceIssue])
  /-- A setup that fails otherwise than by a failed load builds no registry, and ends the run
  with status 2 when its fault is the tool's own. -/
  setupFault : ∀ f, setup d envConfig inv = .error f → (∀ fs, f ≠ .aggregate fs) →
    (session d envConfig argv).registry = none ∧
      (session d envConfig argv).result = if f.isOwn then .ok { exit := 2 } else .error f
  /-- Sources that do not all parse build no registry, and end the run with status 1 and a line
  for each failure, in source order. -/
  failedLoad : ∀ s srcs, resolveSettings d envConfig inv = .ok s → gathered d s = .ok srcs →
    loadFailures srcs.entries ≠ [] → (session d envConfig argv).registry = none ∧
      (session d envConfig argv).result =
        .ok { exit := 1, stderr := failureLines (loadFailures srcs.entries) }
  /-- A registry loaded is torn down at the end of the run. -/
  tornDown : ∀ s r, setup d envConfig inv = .ok (s, r) →
    (session d envConfig argv).registry =
      some { r with stores := {}, version := r.version + 1, closed := true }
  /-- `check` on a loaded registry ends with status 0. -/
  check : ∀ s r, setup d envConfig inv = .ok (s, r) → inv.task = .check →
    ∃ text, (session d envConfig argv).result = .ok { exit := 0, stdout := text }
  /-- `coverage` on a loaded registry ends with status 2 when the reference is not loaded, and
  otherwise with status 1 exactly when some locale lacks a key of the reference. -/
  coverage : ∀ s r reference asJson, setup d envConfig inv = .ok (s, r) →
    inv.task = .coverage reference asJson →
    let ref := (given reference).getD s.effectiveReference
    (r.stores.get? (.str ref) = none → (session d envConfig argv).result = .ok { exit := 2 }) ∧
      ∀ report, quietly (r.coverage (.str ref)) = .ok report → ∃ text,
        (session d envConfig argv).result =
          .ok { exit := if report.any (!·.2.isEmpty) then 1 else 0, stdout := text }
  /-- `lookup` of a key on a loaded registry ends with status 0 or 1, and with 1 exactly when no
  locale of the chain has the key. -/
  lookup : ∀ s r locale key, setup d envConfig inv = .ok (s, r) →
    inv.task = .lookup locale (some key) →
      ∃ out, (session d envConfig argv).result = .ok out ∧ out.exit ≤ 1 ∧
        (out.exit = 1 ↔ ∀ l ∈ r.effectiveChain locale, textIn r.stores key l = none)

/-- Every run of a command line that reads as an invocation ends stage by stage: a failed load
with status 1, any other fault of the tool's own with status 2, the tasks on a loaded registry
with their own status, a registry once loaded torn down; what escapes is never the tool's own,
and a blank catalog directory given alone escapes. -/
theorem session_ends_by_stage (d : Disk) (envConfig : Option String) (argv : List String)
    (vals : Table Setting) (inv : Invocation) (hr : read grammar argv = .ok vals)
    (hi : Invocation.ofSettings vals = some inv) : EndsByStage d envConfig argv inv := by
  have ho : session d envConfig argv = sessionOf d envConfig inv := session_of_invocation hr hi
  constructor
  case escaped =>
    -- what escapes is a fault of the setup or of the task that is not the tool's own
    intro f hf
    rw [ho] at hf
    cases hset : setup d envConfig inv with
    | error e =>
      rw [sessionOf_of_setup_error hset] at hf
      exact (endSetup_error hf).1 ▸ (endSetup_error hf).2
    | ok sr =>
      obtain ⟨s, r⟩ := sr
      rw [sessionOf_of_setup_ok hset] at hf
      exact (tryCatch_endWith_error hf).2
  case blankDir =>
    intro dir hd hc hb
    have hset : setup d envConfig inv = .error _ :=
      setup_of_settings_error (resolveSettings_of_blank_dir hd hc hb)
    rw [ho, sessionOf_of_setup_error hset]
    rfl
  case setupFault =>
    intro f hf hagg
    rw [ho, sessionOf_of_setup_error hf, endSetup_of_not_aggregate hagg]
    exact ⟨rfl, rfl⟩
  case failedLoad =>
    intro s srcs hs hg hne
    rw [ho, sessionOf_of_setup_error (setup_of_failures hs hg hne)]
    exact ⟨rfl, rfl⟩
  case tornDown =>
    intro s r hsr
    rw [ho, (sessionOf_of_loaded hsr).2.2]
  case check =>
    intro s r hsr ht
    obtain ⟨-, ⟨ts, hkeys⟩, hs⟩ := sessionOf_of_loaded hsr
    obtain ⟨text, hp⟩ := perform_check (s := s) hkeys
    rw [ho, hs, ht, hp]
    exact ⟨text, rfl⟩
  case coverage =>
    intro s r reference asJson hsr ht
    obtain ⟨hopen, -, hs⟩ := sessionOf_of_loaded hsr
    refine ⟨fun hnone => ?_, fun report hrep => ?_⟩
    · rw [ho, hs, ht, perform_coverage_unknown hopen hnone]
      rfl
    · obtain ⟨text, hp⟩ := perform_coverage_of_report asJson hrep
      rw [ho, hs, ht, hp]
      exact ⟨text, rfl⟩
  case lookup =>
    intro s r locale key hsr ht
    obtain ⟨hopen, -, hs⟩ := sessionOf_of_loaded hsr
    obtain ⟨out, hp, hle, hiff⟩ := perform_lookup (s := s) hopen locale key
    rw [ho, hs, ht, hp]
    exact ⟨out, rfl, hle, hiff⟩

/-- The command line `check` reads as an invocation, and its runs end stage by stage. -/
theorem check_ends_by_stage :
    ∃ vals inv, read grammar ["check"] = .ok vals ∧ Invocation.ofSettings vals = some inv ∧
      EndsByStage {} none ["check"] inv := by
  have h : ((read grammar ["check"]).toOption.bind Invocation.ofSettings).isSome = true := by
    decide +kernel
  cases hr : read grammar ["check"] with
  | error e =>
    rw [hr] at h
    cases h
  | ok vals =>
    rw [hr] at h
    cases hi : Invocation.ofSettings vals with
    | none =>
      simp only [Except.toOption, Option.bind_some, hi, Option.isSome_none] at h
      cases h
    | some inv =>
      exact ⟨vals, inv, rfl, hi, session_ends_by_stage {} none ["check"] vals inv hr hi⟩

/-- A blank catalog directory given alone: the settings document it makes names no source, and
the fault escapes the run. -/
theorem blank_dir_escapes :
    run {} none ["--catalog-dir", "  ", "check"] = .error (.invalid [Settings.sourceIssue]) := by
  have h : ((read grammar ["--catalog-dir", "  ", "check"]).toOption.bind Invocation.ofSettings).map
      (fun inv => (given inv.catalogDir, given inv.config)) = some (some "  ", none) := by
    decide +kernel
  have hb : Text.trim "  " = "" := by decide +kernel
  cases hr : read grammar ["--catalog-dir", "  ", "check"] with
  | error e =>
    rw [hr] at h
    cases h
  | ok vals =>
    rw [hr] at h
    cases hi : Invocation.ofSettings vals with
    | none =>
      simp only [Except.toOption, Option.bind_some, hi, Option.map_none] at h
      cases h
    | some inv =>
      simp only [Except.toOption, Option.bind_some, hi, Option.map_some, Option.some.injEq,
        Prod.mk.injEq] at h
      have hset : setup {} none inv = .error _ :=
        setup_of_settings_error (resolveSettings_of_blank_dir h.1 h.2 hb)
      rw [run, session_of_invocation hr hi, sessionOf_of_setup_error hset]
      rfl

end Phrasebook.Cli
