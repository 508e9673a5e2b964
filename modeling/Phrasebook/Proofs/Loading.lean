import Phrasebook.Proofs.Outcome
import Phrasebook.Proofs.Reading

/-!
Building a registry from source texts is all or nothing.

The sources are texts under distinct locales, as a mapping holds them. Each source is read for
its locale on its own, and only a parse fault can come of that (`parse_error_isParse`), so the
reading goes through every source whatever the others hold (`readAll_texts`). `loadFailures`
lists the locales whose source does not read, each with the fault its reading gives, in source
order.

When there is none, the build gives an open registry at version one with the configuration it
was given, holding each locale's catalog in source order, and it counts no incident. Otherwise
it fails as a whole with one aggregate fault over exactly those failures: the fault names
their locales sorted in code-point order, its message puts the failures' messages together,
and one parse incident is counted for each failure, in order.

`ofTexts_all_or_nothing` states all of it.
-/

namespace Phrasebook.Value

theorem assignKey_of_lookupKey_none {α : Type} {ps : List (Value × α)} {k : Value} (v : α)
    (h : lookupKey ps k = none) : assignKey ps k v = ps ++ [(k, v)] := by
  induction ps with
  | nil => rfl
  | cons p ps ih =>
    obtain ⟨k', v'⟩ := p
    by_cases hk : k'.sameKey k
    · simp [lookupKey, hk] at h
    · simp only [lookupKey, hk] at h
      simp [assignKey, hk, ih h]

theorem lookupKey_append_str {α : Type} (ps : List (Value × α)) {a b : String} (v : α)
    (hne : a ≠ b) : lookupKey (ps ++ [(.str a, v)]) (.str b) = lookupKey ps (.str b) := by
  induction ps with
  | nil => simp [lookupKey, sameKey_str, hne]
  | cons p ps ih =>
    obtain ⟨k', v'⟩ := p
    by_cases hk : k'.sameKey (.str b) <;> simp [lookupKey, hk, ih]

end Phrasebook.Value

namespace Phrasebook.Registry

/-- The sources that do not read, each locale with the fault its source gives when read for it,
in source order. -/
def loadFailures (sources : List (String × String)) : List (String × Fault) :=
  sources.filterMap fun p => match Catalog.parse p.2 (.str p.1) with
    | .error f => some (p.1, f)
    | .ok _ => none

/-- The incident counted for a source that failed to load. -/
def loadIncident (p : String × Fault) : Log.Incident :=
  ⟨.str ("Catalog failed to load: " ++ p.2.message),
    Log.Journal.faultContext p.2 [("locale", .str p.1)]⟩

/-! ## Reading every source -/

theorem entriesFrom_error_isParse {locale : Value} {n : Nat} {ls : List (List Char)} {f : Fault}
    (h : Catalog.entriesFrom locale n ls = .error f) : parseFault f = true := by
  induction ls generalizing n with
  | nil => cases h
  | cons l ls ih =>
    simp only [Catalog.entriesFrom] at h
    split at h
    · exact ih h
    · cases hrest : Catalog.entriesFrom locale (n + 1) ls with
      | error g =>
        rw [hrest] at h
        cases h
        exact ih hrest
      | ok es =>
        rw [hrest] at h
        cases h
    · cases h
      rfl

theorem collect_error_isParse {locale : Value} {t : Table (Nat × String)}
    {es : List Catalog.Entry} {f : Fault} (h : Catalog.collect locale t es = .error f) :
    parseFault f = true := by
  induction es generalizing t with
  | nil => cases h
  | cons e es ih =>
    simp only [Catalog.collect] at h
    split at h
    · cases h
      rfl
    · exact ih h

theorem parse_error_isParse {src : String} {locale : Value} {f : Fault}
    (h : Catalog.parse src locale = .error f) : parseFault f = true := by
  rw [Catalog.parse_eq] at h
  cases hes : Catalog.entries src locale with
  | error g =>
    rw [hes] at h
    cases h
    exact entriesFrom_error_isParse hes
  | ok es =>
    rw [hes] at h
    cases hc : Catalog.collect locale Table.empty es with
    | error g =>
      simp only [Except.bind, hc, Except.map] at h
      cases h
      exact collect_error_isParse hc
    | ok t => simp [Except.bind, hc, Except.map] at h

@[simp] theorem read_str (s : String) (locale : Value) :
    Catalog.read (.str s) locale = Catalog.parse s locale := rfl

theorem readAll_texts (sources : List (String × String)) :
    readAll (sources.map fun p => (.str p.1, .str p.2)) =
      .ok (sources.map fun p => (.str p.1, Catalog.parse p.2 (.str p.1))) := by
  induction sources with
  | nil => rfl
  | cons p sources ih =>
    simp only [List.map_cons, readAll, read_str]
    cases hp : Catalog.parse p.2 (.str p.1) with
    | ok c => simp [ih, Except.map]
    | error f => simp [parse_error_isParse hp, ih, Except.map]

theorem loadFailures_eq_nil {sources : List (String × String)} :
    loadFailures sources = [] ↔
      ∀ p ∈ sources, ∃ c, Catalog.parse p.2 (.str p.1) = .ok c := by
  induction sources with
  | nil => simp [loadFailures]
  | cons p sources ih =>
    cases hp : Catalog.parse p.2 (.str p.1) <;> simp_all [loadFailures]

theorem loadFailures_isParse {sources : List (String × String)} {p : String × Fault}
    (h : p ∈ loadFailures sources) : p.2.category = "parse" := by
  simp only [loadFailures, List.mem_filterMap] at h
  obtain ⟨q, -, hq⟩ := h
  cases hp : Catalog.parse q.2 (.str q.1) with
  | ok c => simp [hp] at hq
  | error f =>
    simp only [hp, Option.some.injEq] at hq
    subst hq
    simpa [parseFault] using parse_error_isParse hp

theorem loadFailures_sublist (sources : List (String × String)) :
    ((loadFailures sources).map Prod.fst).Sublist (sources.map Prod.fst) := by
  induction sources with
  | nil => exact List.Sublist.slnil
  | cons p sources ih =>
    cases hp : Catalog.parse p.2 (.str p.1) with
    | error f =>
      simp only [loadFailures, List.filterMap_cons, hp] at ih ⊢
      exact ih.cons_cons _
    | ok c =>
      simp only [loadFailures, List.filterMap_cons, hp] at ih ⊢
      exact ih.cons _

theorem failures_texts (sources : List (String × String)) :
    (sources.map fun p => ((.str p.1 : Value), Catalog.parse p.2 (.str p.1))).filterMap
        (fun p => match p.2 with
          | .error f => some (p.1, f)
          | .ok _ => none) =
      (loadFailures sources).map fun p => (.str p.1, p.2) := by
  induction sources with
  | nil => rfl
  | cons p sources ih =>
    cases hp : Catalog.parse p.2 (.str p.1) <;> simp_all [loadFailures]

/-! ## The registry built, or the failure -/

/-- Catalogs that all read, set one after another under distinct locales that a mapping does
not hold yet, come after its entries in source order. -/
theorem entries_build (sources : List (String × String)) (m : Mapping Catalog)
    (hd : (sources.map Prod.fst).Nodup)
    (hm : ∀ p ∈ sources, Value.lookupKey m.entries (.str p.1) = none)
    (hok : loadFailures sources = []) :
    ((sources.map fun p => ((.str p.1 : Value), Catalog.parse p.2 (.str p.1))).foldl
        (fun m p => match p.2 with
          | .ok c => m.set p.1 c
          | .error _ => m) m).entries.map (fun q => (q.1, Except.ok q.2)) =
      m.entries.map (fun q => (q.1, Except.ok q.2)) ++
        sources.map fun p => (.str p.1, Catalog.parse p.2 (.str p.1)) := by
  induction sources generalizing m with
  | nil => simp
  | cons p sources ih =>
    obtain ⟨c, hc⟩ := loadFailures_eq_nil.1 hok p List.mem_cons_self
    simp only [List.map_cons, List.nodup_cons, List.mem_map] at hd
    have hset : (m.set (.str p.1) c).entries = m.entries ++ [(.str p.1, c)] :=
      Value.assignKey_of_lookupKey_none c (hm p List.mem_cons_self)
    -- the locales after `p` differ from it, so setting `p` leaves them new
    have hm' : ∀ q ∈ sources,
        Value.lookupKey (m.set (.str p.1) c).entries (.str q.1) = none := by
      intro q hq
      have hne : p.1 ≠ q.1 := fun he => hd.1 ⟨q, hq, he.symm⟩
      rw [hset, Value.lookupKey_append_str _ _ hne]
      exact hm q (List.mem_cons_of_mem _ hq)
    have hok' : loadFailures sources = [] :=
      loadFailures_eq_nil.2 fun q hq => loadFailures_eq_nil.1 hok q (List.mem_cons_of_mem _ hq)
    simp only [List.map_cons, List.foldl_cons, hc]
    rw [ih (m.set (.str p.1) c) hd.2 hm' hok', hset]
    simp

theorem tally_failed (fs : List (String × Fault)) (j : Log.Journal)
    (hp : ∀ p ∈ fs, p.2.category = "parse") :
    ((fs.map fun p => ((.str p.1 : Value), p.2)).foldl
        (fun j p => j.fault (.str "Catalog failed to load") p.2 [("locale", p.1)]) j).tally =
      fs.foldl (fun t p => t.record "parse" (loadIncident p)) j.tally := by
  induction fs generalizing j with
  | nil => rfl
  | cons p fs ih =>
    simp only [List.map_cons, List.foldl_cons]
    rw [ih _ fun q hq => hp q (List.mem_cons_of_mem _ hq), Log.Journal.tally_fault,
      hp p List.mem_cons_self]
    rfl

-- In the two lemmas below the build's own `match`es stand in the goal; `generalize` names the
-- lists they compute, and `exact` sees through to the lemmas above, stated with their own.

/-- Sources that all read build an open registry at version one, holding their catalogs in
source order, and count no incident. -/
theorem ofTexts_run_ok {sources : List (String × String)} (hd : (sources.map Prod.fst).Nodup)
    (fb : Fallback) (j : Log.Journal) (hok : loadFailures sources = []) :
    ∃ stores : Mapping Catalog, ∃ j',
      (ofTexts ⟨sources⟩ fb).run.run j = (.ok ⟨stores, fb, 1, false⟩, j') ∧
      stores.entries.map (fun q => (q.1, Except.ok q.2)) =
        sources.map (fun p => (.str p.1, Catalog.parse p.2 (.str p.1))) ∧ j'.tally = j.tally := by
  unfold ofTexts ofSources
  simp only [run_bind, run_orFail, readAll_texts]
  generalize hfs : List.filterMap _ (List.map _ sources) = fs
  have hfs' : fs = (loadFailures sources).map fun p => (.str p.1, p.2) := by
    rw [← hfs]
    exact failures_texts sources
  rw [hok] at hfs'
  subst hfs'
  generalize hst : List.foldl _ ({} : Mapping Catalog) (List.map _ sources) = stores
  have hentries : stores.entries.map (fun q => (q.1, Except.ok q.2)) =
      sources.map (fun p => (.str p.1, Catalog.parse p.2 (.str p.1))) := by
    rw [← hst]
    exact (entries_build sources {} hd (fun _ _ => rfl) hok).trans (List.nil_append _)
  simp only [List.map_nil, List.isEmpty_nil, if_true, run_bind, run_say]
  exact ⟨stores, _, rfl, hentries, Log.Journal.tally_announce _ _ _⟩

theorem ofTexts_run_error {sources : List (String × String)} (fb : Fallback) (j : Log.Journal)
    (hne : loadFailures sources ≠ []) :
    ∃ j', (ofTexts ⟨sources⟩ fb).run.run j =
        (.error (.aggregate (loadFailures sources)), j') ∧
      j'.tally = (loadFailures sources).foldl (fun t p => t.record "parse" (loadIncident p))
        j.tally := by
  unfold ofTexts ofSources
  simp only [run_bind, run_orFail, readAll_texts]
  generalize hfs : List.filterMap _ (List.map _ sources) = fs
  have hfs' : fs = (loadFailures sources).map fun p => (.str p.1, p.2) := by
    rw [← hfs]
    exact failures_texts sources
  have hempty : fs.isEmpty = false := by simpa [hfs'] using hne
  subst hfs'
  simp only [hempty, Bool.false_eq_true, if_false, Fault.aggregateOf_strs, run_bind, run_orFail,
    run_say, run_forIn_modify]
  refine ⟨_, rfl, ?_⟩
  rw [tally_failed _ _ fun p hp => loadFailures_isParse hp, Log.Journal.tally_announce]

theorem eraseDups_of_nodup {l : List String} (h : l.Nodup) : l.eraseDups = l := by
  induction l with
  | nil => rfl
  | cons a l ih =>
    rw [List.nodup_cons] at h
    have hf : l.filter (fun b => !b == a) = l := by
      rw [List.filter_eq_self]
      intro b hb
      simpa using fun he : b = a => h.1 (he ▸ hb)
    rw [List.eraseDups_cons, hf, ih h.2]

theorem failedLocales_sorted {fs : List (String × Fault)} (hd : (fs.map Prod.fst).Nodup) :
    (Fault.failedLocales fs).Pairwise (fun a b => Text.precedes a b = true) ∧
      (Fault.failedLocales fs).Perm (fs.map Prod.fst) := by
  unfold Fault.failedLocales
  refine ⟨@List.pairwise_mergeSort _ Text.precedes (fun _ _ _ => Text.precedes_trans)
    Text.precedes_total _, ?_⟩
  exact (List.mergeSort_perm _ _).trans (List.Perm.of_eq (eraseDups_of_nodup hd))

theorem ofTexts_all_or_nothing {sources : List (String × String)}
    (hd : (sources.map Prod.fst).Nodup) (fb : Fallback) (j : Log.Journal) :
    ((∃ r, outcome (ofTexts ⟨sources⟩ fb) j = .ok r) ↔
        ∀ p ∈ sources, ∃ c, Catalog.parse p.2 (.str p.1) = .ok c) ∧
      (loadFailures sources = [] →
        ∃ r, outcome (ofTexts ⟨sources⟩ fb) j = .ok r ∧
          r.stores.entries.map (fun q => (q.1, Except.ok q.2)) =
            sources.map (fun p => (.str p.1, Catalog.parse p.2 (.str p.1))) ∧
          r.fallback = fb ∧ r.version = 1 ∧ r.closed = false ∧
          ((ofTexts ⟨sources⟩ fb).run.run j).2.tally = j.tally) ∧
      (loadFailures sources ≠ [] →
        outcome (ofTexts ⟨sources⟩ fb) j = .error (.aggregate (loadFailures sources)) ∧
        (Fault.aggregate (loadFailures sources)).data =
          some [("locales", .ofStrings (Fault.failedLocales (loadFailures sources)))] ∧
        (Fault.failedLocales (loadFailures sources)).Pairwise
          (fun a b => Text.precedes a b = true) ∧
        (Fault.failedLocales (loadFailures sources)).Perm ((loadFailures sources).map Prod.fst) ∧
        (Fault.aggregate (loadFailures sources)).message =
          toString (loadFailures sources).length ++ " catalog(s) failed to load (" ++
            ", ".intercalate (Fault.failedLocales (loadFailures sources)) ++ "): " ++
            "; ".intercalate ((loadFailures sources).map fun p => "[" ++ p.1 ++ "] " ++
              p.2.message) ∧
        ((ofTexts ⟨sources⟩ fb).run.run j).2.tally =
          (loadFailures sources).foldl (fun t p => t.record "parse" (loadIncident p)) j.tally) := by
  refine ⟨⟨?_, fun h => ?_⟩, fun hok => ?_, fun hne => ?_⟩
  · rintro ⟨r, hr⟩
    refine loadFailures_eq_nil.1 (Classical.byContradiction fun hne => ?_)
    obtain ⟨j', hrun, -⟩ := ofTexts_run_error fb j hne
    simp [outcome, hrun] at hr
  · obtain ⟨stores, j', hrun, -, -⟩ := ofTexts_run_ok hd fb j (loadFailures_eq_nil.2 h)
    exact ⟨⟨stores, fb, 1, false⟩, by simp [outcome, hrun]⟩
  · obtain ⟨stores, j', hrun, hentries, htally⟩ := ofTexts_run_ok hd fb j hok
    exact ⟨⟨stores, fb, 1, false⟩, by simp [outcome, hrun], hentries, rfl, rfl, rfl,
      by rw [hrun]; exact htally⟩
  · obtain ⟨j', hrun, htally⟩ := ofTexts_run_error fb j hne
    have hnd : ((loadFailures sources).map Prod.fst).Nodup :=
      (loadFailures_sublist sources).nodup hd
    obtain ⟨hsorted, hperm⟩ := failedLocales_sorted hnd
    exact ⟨by simp [outcome, hrun], rfl, hsorted, hperm, Fault.message_aggregate _,
      by rw [hrun]; exact htally⟩

theorem ofTexts_all_or_nothing_cs_de :
    ([("cs", "a = b"), ("de", "c")].map Prod.fst).Nodup ∧
    ((∃ r, outcome (ofTexts ⟨[("cs", "a = b"), ("de", "c")]⟩ {}) {} = .ok r) ↔
        ∀ p ∈ [("cs", "a = b"), ("de", "c")], ∃ c, Catalog.parse p.2 (.str p.1) = .ok c) ∧
      (loadFailures [("cs", "a = b"), ("de", "c")] = [] →
        ∃ r, outcome (ofTexts ⟨[("cs", "a = b"), ("de", "c")]⟩ {}) {} = .ok r ∧
          r.stores.entries.map (fun q => (q.1, Except.ok q.2)) =
            [("cs", "a = b"), ("de", "c")].map
              (fun p => (.str p.1, Catalog.parse p.2 (.str p.1))) ∧
          r.fallback = {} ∧ r.version = 1 ∧ r.closed = false ∧
          ((ofTexts ⟨[("cs", "a = b"), ("de", "c")]⟩ {}).run.run {}).2.tally =
            ({} : Log.Journal).tally) ∧
      (loadFailures [("cs", "a = b"), ("de", "c")] ≠ [] →
        outcome (ofTexts ⟨[("cs", "a = b"), ("de", "c")]⟩ {}) {} =
          .error (.aggregate (loadFailures [("cs", "a = b"), ("de", "c")])) ∧
        (Fault.aggregate (loadFailures [("cs", "a = b"), ("de", "c")])).data =
          some [("locales",
            .ofStrings (Fault.failedLocales (loadFailures [("cs", "a = b"), ("de", "c")])))] ∧
        (Fault.failedLocales (loadFailures [("cs", "a = b"), ("de", "c")])).Pairwise
          (fun a b => Text.precedes a b = true) ∧
        (Fault.failedLocales (loadFailures [("cs", "a = b"), ("de", "c")])).Perm
          ((loadFailures [("cs", "a = b"), ("de", "c")]).map Prod.fst) ∧
        (Fault.aggregate (loadFailures [("cs", "a = b"), ("de", "c")])).message =
          toString (loadFailures [("cs", "a = b"), ("de", "c")]).length ++
            " catalog(s) failed to load (" ++
            ", ".intercalate (Fault.failedLocales (loadFailures [("cs", "a = b"), ("de", "c")])) ++
            "): " ++
            "; ".intercalate ((loadFailures [("cs", "a = b"), ("de", "c")]).map fun p =>
              "[" ++ p.1 ++ "] " ++ p.2.message) ∧
        ((ofTexts ⟨[("cs", "a = b"), ("de", "c")]⟩ {}).run.run {}).2.tally =
          (loadFailures [("cs", "a = b"), ("de", "c")]).foldl
            (fun t p => t.record "parse" (loadIncident p)) ({} : Log.Journal).tally) :=
  ⟨by decide, ofTexts_all_or_nothing (by decide) {} {}⟩

end Phrasebook.Registry
