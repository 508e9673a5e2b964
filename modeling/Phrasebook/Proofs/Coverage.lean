import Phrasebook.Proofs.FileLoading

/-!
The coverage report of a registry: for a reference locale, every other loaded locale with the
keys of the reference that its catalog lacks.

A report is asked of an open registry whose locales are texts, as the registry's callers give
them. A reference that is not loaded is refused before anything is announced. Otherwise the
other locales come in code-point order (`sortedKeys_strs`), each with exactly the keys of the
reference that it lacks, in code-point order too (`mem_missing`, `missing_sorted`): keys only
the other locale has never show, and a locale that has every key shows none
(`missing_eq_nil_iff`). Each locale that lacks keys is announced as a warning with their
number, in the report's order (`run_forIn_say_when`), and a report without gaps is announced as
complete with the number of locales it covers (`coverageEvents`).

`coverage_exact_gaps` puts these together.
-/

namespace Phrasebook.Value

variable {α : Type}

theorem lookupKey_str_eq_none_iff {ps : List (Value × α)} {names : List String}
    (h : ps.map (·.1) = names.map .str) (s : String) :
    lookupKey ps (.str s) = none ↔ s ∉ names := by
  induction ps generalizing names with
  | nil =>
    cases names with
    | nil => simp [lookupKey]
    | cons n ns => cases h
  | cons p ps ih =>
    obtain ⟨k, v⟩ := p
    cases names with
    | nil => cases h
    | cons n ns =>
      simp only [List.map_cons, List.cons.injEq] at h
      obtain ⟨rfl, hrest⟩ := h
      by_cases hn : n = s
      · simp [lookupKey, sameKey_str, hn]
      · simp [lookupKey, sameKey_str, hn, ih hrest, Ne.symm hn]

theorem mem_values_of_lookupKey {ps : List (Value × α)} {k : Value} {v : α}
    (h : lookupKey ps k = some v) : v ∈ ps.map (·.2) := by
  induction ps with
  | nil => cases h
  | cons p ps ih =>
    obtain ⟨k', v'⟩ := p
    unfold lookupKey at h
    split at h
    · cases h
      exact List.mem_cons_self
    · exact List.mem_cons_of_mem _ (ih h)

end Phrasebook.Value

namespace Phrasebook.Registry

open Text

variable {α : Type}

theorem run_forIn_say_when (xs : List α) (c : α → Bool) (level : Log.Level)
    (domain action : String) (fields : α → List (String × Value)) (j : Log.Journal) :
    (forIn xs PUnit.unit (fun x _ =>
        if c x = true then do
          say level domain action (fields x)
          pure (ForInStep.yield PUnit.unit)
        else pure (ForInStep.yield PUnit.unit)) : Act PUnit).run.run j =
      (.ok PUnit.unit,
        (xs.filter c).foldl (fun j x => j.announce level ⟨domain, action, none, fields x⟩)
          j) :=
  run_forIn_modify_when xs c
    (fun (x : α) (j : Log.Journal) => j.announce level ⟨domain, action, none, fields x⟩) j

theorem mem_missing (ref c : Catalog) (k : String) :
    k ∈ missing ref c ↔ k ∈ ref.table.keys ∧ k ∉ c.table.keys := by
  simp only [missing, List.mem_filter, Catalog.sortedKeys, Table.sortedKeys,
    (List.mergeSort_perm _ _).mem_iff, Option.isNone_iff_eq_none, Catalog.get?, Table.get?,
    Table.lookup_eq_none_iff]
  rfl

theorem missing_eq_nil_iff (ref c : Catalog) :
    missing ref c = [] ↔ ∀ k ∈ ref.table.keys, k ∈ c.table.keys := by
  simp only [List.eq_nil_iff_forall_not_mem, mem_missing, not_and, not_not]

theorem missing_sorted (ref c : Catalog) (hnd : ref.table.keys.Nodup) :
    (missing ref c).Pairwise (fun a b => precedes a b = true) ∧ (missing ref c).Nodup := by
  unfold missing Catalog.sortedKeys Table.sortedKeys
  exact ⟨(@List.pairwise_mergeSort _ precedes (fun _ _ _ => precedes_trans) precedes_total
    _).filter _,
    ((List.mergeSort_perm _ _).nodup_iff.2 hnd).filter _⟩

/-- The events a coverage report announces: a warning for each locale that lacks keys, in the
report's order, with their number; then, when no locale lacks any, that every locale covers
the reference, with the number of locales. -/
def coverageEvents (reference : String) (report : List (String × List String)) :
    List (Log.Level × Log.Event) :=
  (report.filter fun p => !p.2.isEmpty).map (fun p => (.warning, ⟨"coverage", "gap", none,
      [("locale", .str p.1), ("missing", .int p.2.length), ("reference", .str reference)]⟩)) ++
    if report.all (·.2.isEmpty) then
      [(.info, ⟨"coverage", "complete", none,
        [("reference", .str reference), ("locale_count", .int report.length)]⟩)]
    else []

theorem attempt_coverage (s : Session) (reference : Value) (j : Log.Journal) :
    (s.attempt (.coverage reference)).run j =
      match (s.registry.coverage reference).run.run j with
      | (.ok report, j') => ((.ok (.coverage report), s), j')
      | (.error f, j') => ((.error f, s), j') := by
  rw [attempt_run]
  simp only [Session.step, run_bind]
  rcases (s.registry.coverage reference).run.run j with ⟨_ | report, j'⟩ <;> rfl

variable {r : Registry} {locales : List String}

theorem run_coverage_unknown (hopen : r.closed = false) {reference : String}
    (hnone : r.stores.get? (.str reference) = none) (j : Log.Journal) :
    (r.coverage (.str reference)).run.run j = (.error (.unknownLocale (.str reference)), j) := by
  unfold coverage
  simp only [run_bind, run_current, hopen, Bool.false_eq_true, if_false, run_orFail,
    Mapping.find?_str, hnone]
  rfl

/-- The report for a loaded reference: the other locales in code-point order, each with the
keys of the reference its catalog lacks, and the events announced for them. -/
theorem run_coverage_report (hopen : r.closed = false) (hlocs : r.stores.keys = locales.map .str)
    {reference : String} {ref : Catalog} (href : r.stores.get? (.str reference) = some ref)
    (j : Log.Journal) :
    let report := ((locales.mergeSort precedes).filter (· != reference)).map fun l =>
      (l, gap r.stores ref (.str l))
    (r.coverage (.str reference)).run.run j =
      (.ok (report.map fun p => (.str p.1, p.2)),
        (coverageEvents reference report).foldl (fun j e => j.announce e.1 e.2) j) := by
  intro report
  have hrep : ((((locales.mergeSort precedes).map Value.str).filter
      fun l => !l.equals (.str reference)).map fun l => (l, gap r.stores ref l)) =
      report.map fun p => (.str p.1, p.2) := by
    simp only [report, List.filter_map, List.map_map]
    rfl
  unfold coverage
  simp only [run_bind, run_current, hopen, Bool.false_eq_true, if_false, run_orFail,
    Mapping.find?_str, href, Mapping.sortedKeys_strs hlocs]
  rw [hrep, run_forIn_say_when]
  -- the gaps are announced in the report's order, then completeness when there is none
  have hall : ((report.map fun p => (Value.str p.1, p.2)).all fun x => x.2.isEmpty) =
      report.all (·.2.isEmpty) := by
    simp [List.all_map, Function.comp_def]
  have hgaps : ((report.map fun p => (Value.str p.1, p.2)).filter fun p => !p.2.isEmpty).foldl
      (fun j x => j.announce .warning ⟨"coverage", "gap", none,
        [("locale", x.1), ("missing", .int x.2.length), ("reference", .str reference)]⟩) j =
      ((report.filter fun p => !p.2.isEmpty).map fun p => ((.warning : Log.Level),
        (⟨"coverage", "gap", none, [("locale", .str p.1), ("missing", .int p.2.length),
          ("reference", .str reference)]⟩ : Log.Event))).foldl
        (fun j e => j.announce e.1 e.2) j := by
    rw [List.filter_map, List.foldl_map, List.foldl_map]
    rfl
  dsimp only
  rw [hall, hgaps, coverageEvents, List.foldl_append]
  by_cases hc : report.all (·.2.isEmpty) = true
  · simp only [hc, if_true, run_bind, run_say, List.length_map, List.foldl_cons, List.foldl_nil]
    rfl
  · simp only [hc, Bool.false_eq_true, if_false, List.foldl_nil]
    rfl

theorem gap_of_get? {stores : Mapping Catalog} {ref c : Catalog} {l : Value}
    (h : stores.get? l = some c) : gap stores ref l = missing ref c := by
  simp [gap, h]

theorem coverage_exact_gaps (r : Registry) (hopen : r.closed = false) {locales : List String}
    (hlocs : r.stores.keys = locales.map .str)
    (hkeys : ∀ c ∈ r.stores.values, c.table.keys.Nodup) (reference : String) (j : Log.Journal) :
    (reference ∉ locales →
      (r.coverage (.str reference)).run.run j = (.error (.unknownLocale (.str reference)), j)) ∧
    (reference ∈ locales → ∃ ref report, r.stores.get? (.str reference) = some ref ∧
      (r.coverage (.str reference)).run.run j =
        (.ok (report.map fun p => (.str p.1, p.2)),
          (coverageEvents reference report).foldl (fun j e => j.announce e.1 e.2) j) ∧
      (report.map Prod.fst).Perm (locales.filter (· != reference)) ∧
      (report.map Prod.fst).Pairwise (fun a b => precedes a b = true) ∧
      ∀ p ∈ report, ∃ c, r.stores.get? (.str p.1) = some c ∧
        (∀ k, k ∈ p.2 ↔ k ∈ ref.table.keys ∧ k ∉ c.table.keys) ∧
        (p.2 = [] ↔ ∀ k ∈ ref.table.keys, k ∈ c.table.keys) ∧
        p.2.Nodup ∧ p.2.Pairwise (fun a b => precedes a b = true)) ∧
    ∀ s : Session, s.registry = r →
      ((s.attempt (.coverage (.str reference))).run j).1.2 = s := by
  have hmem : ∀ l, r.stores.get? (.str l) = none ↔ l ∉ locales :=
    Value.lookupKey_str_eq_none_iff hlocs
  refine ⟨fun hnot => run_coverage_unknown hopen ((hmem reference).2 hnot) j, fun hin => ?_,
    fun s _ => ?_⟩
  · obtain ⟨ref, href⟩ := Option.ne_none_iff_exists'.1 fun h => (hmem reference).1 h hin
    -- the report's locales are the others, sorted; each carries the gap of its catalog
    let others := (locales.mergeSort precedes).filter (· != reference)
    have hfst : (others.map fun l => (l, gap r.stores ref (.str l))).map Prod.fst = others := by
      simp [List.map_map, Function.comp_def]
    refine ⟨ref, _, href, run_coverage_report hopen hlocs href j, ?_, ?_, ?_⟩
    · rw [hfst]
      exact (List.mergeSort_perm _ _).filter _
    · rw [hfst]
      exact (@List.pairwise_mergeSort _ precedes (fun _ _ _ => precedes_trans) precedes_total
        _).filter _
    · intro p hp
      obtain ⟨l, hl, rfl⟩ := List.mem_map.1 hp
      have hloc : l ∈ locales :=
        (List.mergeSort_perm _ _).mem_iff.1 (List.mem_filter.1 hl).1
      obtain ⟨c, hc⟩ := Option.ne_none_iff_exists'.1 fun h => (hmem l).1 h hloc
      have hnd := hkeys ref (Value.mem_values_of_lookupKey href)
      refine ⟨c, hc, ?_⟩
      rw [gap_of_get? hc]
      exact ⟨mem_missing ref c, missing_eq_nil_iff ref c, (missing_sorted ref c hnd).2,
        (missing_sorted ref c hnd).1⟩
  · rw [attempt_coverage]
    split <;> rfl

/-- Two locales where the second lacks one key of the first: the report for the first is
asked of a registry that meets every hypothesis. -/
theorem coverage_exact_gaps_en_cs :
    let r : Registry := ⟨⟨[(.str "en", ⟨.str "en", ⟨[("a", "A"), ("b", "B")]⟩⟩),
      (.str "cs", ⟨.str "cs", ⟨[("a", "A")]⟩⟩)]⟩, {}, 1, false⟩
    r.closed = false ∧ r.stores.keys = ["en", "cs"].map .str ∧
    (∀ c ∈ r.stores.values, c.table.keys.Nodup) ∧
    ("en" ∉ ["en", "cs"] →
      (r.coverage (.str "en")).run.run {} = (.error (.unknownLocale (.str "en")), {})) ∧
    ("en" ∈ ["en", "cs"] → ∃ ref report, r.stores.get? (.str "en") = some ref ∧
      (r.coverage (.str "en")).run.run {} =
        (.ok (report.map fun p => (.str p.1, p.2)),
          (coverageEvents "en" report).foldl (fun j e => j.announce e.1 e.2) {}) ∧
      (report.map Prod.fst).Perm (["en", "cs"].filter (· != "en")) ∧
      (report.map Prod.fst).Pairwise (fun a b => precedes a b = true) ∧
      ∀ p ∈ report, ∃ c, r.stores.get? (.str p.1) = some c ∧
        (∀ k, k ∈ p.2 ↔ k ∈ ref.table.keys ∧ k ∉ c.table.keys) ∧
        (p.2 = [] ↔ ∀ k ∈ ref.table.keys, k ∈ c.table.keys) ∧
        p.2.Nodup ∧ p.2.Pairwise (fun a b => precedes a b = true)) ∧
    ∀ s : Session, s.registry = r → ((s.attempt (.coverage (.str "en"))).run {}).1.2 = s :=
  ⟨rfl, rfl, by decide, coverage_exact_gaps _ rfl rfl (by decide) "en" {}⟩

end Phrasebook.Registry
