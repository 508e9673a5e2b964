import Phrasebook.Proofs.Lifecycle
import Phrasebook.Proofs.Loading
import Phrasebook.Proofs.Downloads
import Phrasebook.Watch

/-!
Catalogs loaded from files.

A catalog file is read as UTF-8 with universal line ends (`Text.readText`): each `\r\n`, and
each `\r` alone, ends a line as `\n` does. The catalog a registry holds for the locale of a file
is the parse of that text, whichever way the file is loaded: built together with the other
sources the settings name (`Source.gather`, then `Registry.ofTexts`), or reloaded when a watcher
sees the file change (`Watcher.reloadFrom`). When that parse fails, the build fails with the
parse's fault among the failures it names, and the reload leaves the registry as it was.

The parser on its own keeps a lone `\r` inside a line, so a file that holds one does not load
as its decoded text parses (`lone_return_ends_catalog_line`).

The build is followed through discovery, which finds one file per locale (`discover_nodup`),
gathering, which reads the files it found in their order and puts the downloads after them
(`gather_eq_ok`, `collect_mem`), and building, where the last source of a locale is the one
its catalog comes from (`get?_init_of_last`).

Main statement: `file_catalog_is_parse_of_read_text`.
-/

namespace Phrasebook.Table

variable {α : Type}

theorem lookup_eq_none_iff {ps : List (String × α)} {k : String} :
    lookup ps k = none ↔ k ∉ ps.map Prod.fst := by
  induction ps with
  | nil => simp [lookup]
  | cons p ps ih =>
    obtain ⟨k', v⟩ := p
    by_cases h : k' = k
    · simp [lookup, h]
    · simp [lookup, h, ih, Ne.symm h]

theorem mem_of_lookup {ps : List (String × α)} {k : String} {v : α}
    (h : lookup ps k = some v) : (k, v) ∈ ps := by
  induction ps with
  | nil => cases h
  | cons p ps ih =>
    obtain ⟨k', v'⟩ := p
    by_cases hk : k' = k
    · simp only [lookup, hk, if_true, Option.some.injEq] at h
      subst hk h
      exact List.mem_cons_self
    · simp only [lookup, hk, if_false] at h
      exact List.mem_cons_of_mem _ (ih h)

theorem keys_set_nodup (t : Table α) (k : String) (v : α) (h : t.keys.Nodup) :
    (t.set k v).keys.Nodup := by
  cases hk : lookup t.entries k with
  | some w => rwa [keys_set_of_mem t v (by simp [contains, get?, hk])]
  | none =>
    have hnot : k ∉ t.keys := lookup_eq_none_iff.1 hk
    simp only [keys, set, assign_of_lookup_none v hk, List.map_append, List.map_cons,
      List.map_nil]
    exact List.nodup_append.2 ⟨h, List.pairwise_singleton _ k,
      fun a ha b hb => by rw [List.mem_singleton.1 hb]; exact fun hab => hnot (hab ▸ ha)⟩

end Phrasebook.Table

namespace Phrasebook.Value

variable {α : Type}

theorem eq_of_sameKey_str {k : Value} {s : String} (h : k.sameKey (.str s) = true) :
    k = .str s := by
  cases k <;> simp_all [sameKey, number?]

theorem lookupKey_assignKey_str_self (ps : List (Value × α)) (k : String) (v : α) :
    lookupKey (assignKey ps (.str k) v) (.str k) = some v := by
  induction ps with
  | nil => simp [assignKey, lookupKey, sameKey_str]
  | cons p ps ih =>
    obtain ⟨k', v'⟩ := p
    by_cases hk : k'.sameKey (.str k) <;> simp [assignKey, lookupKey, hk, ih]

theorem lookupKey_assignKey_str_ne (ps : List (Value × α)) {k l : String} (v : α) (hne : k ≠ l) :
    lookupKey (assignKey ps (.str k) v) (.str l) = lookupKey ps (.str l) := by
  induction ps with
  | nil => simp [assignKey, lookupKey, sameKey_str, hne]
  | cons p ps ih =>
    obtain ⟨k', v'⟩ := p
    by_cases hk : k'.sameKey (.str k)
    · -- the key that is replaced is the text `k` itself, which is not `l`
      rw [eq_of_sameKey_str hk]
      simp [assignKey, lookupKey, sameKey_str, hne]
    · by_cases hl : k'.sameKey (.str l) <;> simp [assignKey, lookupKey, hk, hl, ih]

end Phrasebook.Value

namespace Phrasebook.Source

variable {σ α β : Type}

theorem readFile_decoded {d : Disk} {p : String} {bs : List Nat} {cs : List Char}
    (hbytes : d.readBytes (Path.written p) = .ok bs) (hdec : Text.decodeFrom 0 [] bs = .ok cs) :
    readFile d p = .ok (Text.ofChars (Text.unifyLineEnds cs)) := by
  unfold readFile
  dsimp only
  rw [hbytes]
  dsimp only
  rw [Text.readText, hdec]
  rfl

theorem foldl_keys_nodup {β : Type} (f : Table String → β → Table String)
    (hf : ∀ t b, t.keys.Nodup → (f t b).keys.Nodup) :
    ∀ (bs : List β) (t : Table String), t.keys.Nodup → (bs.foldl f t).keys.Nodup
  | [], _, ht => ht
  | b :: bs, t, ht => foldl_keys_nodup f hf bs (f t b) (hf t b ht)

theorem discover_nodup {d : Disk} {dir suffix : String} {found : Table String}
    (h : discover d dir suffix = .ok found) : found.keys.Nodup := by
  unfold discover at h
  obtain ⟨here, -, h⟩ := except_bind_eq_ok h
  split at h
  · cases h
  · obtain ⟨files, -, h⟩ := except_bind_eq_ok h
    rw [← Except.ok.inj h]
    -- every file of the folder either sets its locale's path or changes nothing
    refine foldl_keys_nodup _ (fun t n ht => ?_) _ _ List.nodup_nil
    split
    · exact Table.keys_set_nodup t _ _ ht
    · exact ht

theorem collect_keys : ∀ {xs : List (String × Except Fault String)} {ys : List (String × String)},
    collect xs = .ok ys → ys.map Prod.fst = xs.map Prod.fst
  | [], ys, h => by
    cases h
    rfl
  | (l, .ok t) :: rest, ys, h => by
    simp only [collect] at h
    cases hr : collect rest with
    | error f => simp [hr, Except.map] at h
    | ok ys' =>
      simp only [hr, Except.map, Except.ok.injEq] at h
      subst h
      simp [collect_keys hr]
  | (_, .error _) :: _, _, h => by cases h

/-- When every file reads, the gathered list holds the text of each file found, under its
locale, and no later entry has that locale. -/
theorem collect_mem {F : String → Except Fault String} :
    ∀ {ps ys : List (String × String)} {l p : String},
      collect (ps.map fun q => (q.1, F q.2)) = .ok ys → (ps.map Prod.fst).Nodup → (l, p) ∈ ps →
      ∃ pre t post, ys = pre ++ (l, t) :: post ∧ F p = .ok t ∧ l ∉ post.map Prod.fst
  | [], _, _, _, _, _, hm => by cases hm
  | (l', p') :: ps, ys, l, p, h, hd, hm => by
    simp only [List.map_cons] at h
    cases hF : F p' with
    | error f => simp [hF, collect] at h
    | ok t' =>
      simp only [hF, collect] at h
      cases hr : collect (ps.map fun q => (q.1, F q.2)) with
      | error f => simp [hr, Except.map] at h
      | ok ys' =>
        simp only [hr, Except.map, Except.ok.injEq] at h
        subst h
        rw [List.map_cons, List.nodup_cons] at hd
        rcases List.mem_cons.1 hm with he | hm
        · -- the file is the first one: no later file has its locale
          cases he
          have hkeys : ys'.map Prod.fst = ps.map Prod.fst := by
            simpa [Function.comp_def] using collect_keys hr
          exact ⟨[], t', ys', rfl, hF, hkeys ▸ hd.1⟩
        · obtain ⟨pre, t, post, rfl, hp, hpost⟩ := collect_mem hr hd.2 hm
          exact ⟨(l', t') :: pre, t, post, rfl, hp, hpost⟩

/-- What gathering gives, when it gives anything: the texts of the files found in the folder
for the locales without a remote source, in discovery order, read each as a file, followed
by one download for each remote source. -/
theorem gather_eq_ok {d : Disk} {s : Settings} {ma : Value} {x : Link} {dir : String}
    {all : Table String} (hdir : s.catalogDir = some dir)
    (h : ((gather d s ma).run.run x).1 = .ok all) :
    ∃ found texts remote, discover d dir s.suffix = .ok found ∧
      collect ((found.entries.filter fun p => !s.remoteSources.contains p.1).map
        fun p => (p.1, readFile d p.2)) = .ok texts ∧
      remote.map Prod.fst = s.remoteSources.keys ∧ all.entries = texts ++ remote := by
  unfold gather at h
  obtain ⟨found, x₁, hfound, h⟩ := run_bind_eq_ok h
  obtain ⟨_, x₂, -, h⟩ := run_bind_eq_ok h
  obtain ⟨texts, x₃, htexts, h⟩ := run_bind_eq_ok h
  obtain ⟨remote, x₄, hremote, h⟩ := run_bind_eq_ok h
  obtain ⟨remoteTexts, x₅, hrt, h⟩ := run_bind_eq_ok h
  rw [run_orFail] at hfound htexts hrt
  dsimp only at h
  split at h
  · obtain ⟨_, _, hthrow, -⟩ := run_bind_eq_ok h
    cases hthrow
  · cases h
    have hdisc : discover d dir s.suffix = .ok found := by
      rw [← (Prod.mk.inj hfound).1, localFiles, hdir]
    refine ⟨found, texts, remoteTexts, hdisc, (Prod.mk.inj htexts).1, ?_, rfl⟩
    obtain ⟨rs, _, hrs, hkeys⟩ := fetchAll_run ma s.remoteSources.entries [] x₃
    rw [hremote] at hrs
    cases hrs
    rw [collect_keys (congrArg Prod.fst hrt), hkeys]
    rfl

end Phrasebook.Source

namespace Phrasebook.Registry

/-- A registry built from sources holds for a locale the catalog of the last source of that
locale. -/
theorem get?_init_of_last {pre post : List (String × String)} {l t : String} {c : Catalog}
    (hc : Catalog.parse t (.str l) = .ok c) (hpost : l ∉ post.map Prod.fst) :
    (Abstract.init ((pre ++ (l, t) :: post).map fun p => (.str p.1, .str p.2))).cats.get?
      (.str l) = some c := by
  unfold Abstract.init
  simp only [List.map_append, List.map_cons, List.foldl_append, List.foldl_cons]
  generalize List.foldl _ ({} : Mapping Catalog) (List.map _ pre) = m
  simp only [read_str, hc]
  have hm : (m.set (.str l) c).get? (.str l) = some c :=
    Value.lookupKey_assignKey_str_self _ _ _
  generalize m.set (.str l) c = m' at hm ⊢
  induction post generalizing m' with
  | nil => exact hm
  | cons q post ih =>
    rw [List.map_cons, List.mem_cons, not_or] at hpost
    simp only [List.map_cons, List.foldl_cons]
    refine ih hpost.2 _ ?_
    -- a source of another locale leaves this one's catalog alone
    split
    · exact (Value.lookupKey_assignKey_str_ne _ _ (Ne.symm hpost.1)).trans hm
    · exact hm

theorem isOwn_of_parseFault {f : Fault} (h : parseFault f = true) : f.isOwn = true := by
  have hp : f.IsParse := (Fault.category_eq_parse_iff f).1 (by simpa [parseFault] using h)
  cases f <;> simp_all [Fault.IsParse, Fault.isOwn]

theorem ofTexts_get_of_last {pre post : List (String × String)} {l t : String} {fb : Fallback}
    {j : Log.Journal} {r : Registry} (h : outcome (ofTexts ⟨pre ++ (l, t) :: post⟩ fb) j = .ok r)
    (hpost : l ∉ post.map Prod.fst) :
    ∃ c, Catalog.parse t (.str l) = .ok c ∧ r.stores.get? (.str l) = some c := by
  -- a build that succeeds has read every source
  have hok : loadFailures (pre ++ (l, t) :: post) = [] := by
    by_contra hne
    obtain ⟨j', hrun, -⟩ := ofTexts_run_error fb j hne
    rw [outcome, hrun] at h
    cases h
  obtain ⟨c, hc⟩ := loadFailures_eq_nil.1 hok (l, t) (by simp)
  refine ⟨c, hc, ?_⟩
  have habs : abstract r = _ := (ofSources_abstract h).1
  rw [show r.stores = (abstract r).cats from rfl, habs]
  exact get?_init_of_last hc hpost

theorem ofTexts_fails_of_mem {sources : List (String × String)} {l t : String} {f : Fault}
    (hmem : (l, t) ∈ sources) (hf : Catalog.parse t (.str l) = .error f) (fb : Fallback)
    (j : Log.Journal) :
    ∃ fs, outcome (ofTexts ⟨sources⟩ fb) j = .error (.aggregate fs) ∧ (l, f) ∈ fs := by
  have hfail : (l, f) ∈ loadFailures sources :=
    List.mem_filterMap.2 ⟨(l, t), hmem, by simp [hf]⟩
  obtain ⟨j', hrun, -⟩ := ofTexts_run_error fb j (List.ne_nil_of_mem hfail)
  exact ⟨loadFailures sources, by rw [outcome, hrun], hfail⟩

end Phrasebook.Registry

namespace Phrasebook.Watcher

open Registry

/-- A reload from a file that reads, into a locale given as a text, sets the parse of the
file's text for that locale on an open registry; a text that does not parse, or a closed
registry, is rejected and leaves the registry as it was. -/
theorem reloadFrom_readable {d : Disk} {r : Registry} {l p t : String}
    (hread : Source.readFile d p = .ok t) (j : Log.Journal) :
    outcome (reloadFrom d r (.str l) (.str p)) j =
      .ok (if r.closed then r else match Catalog.parse t (.str l) with
        | .ok c => { r with stores := r.stores.set (.str l) c, version := r.version + 1 }
        | .error _ => r) := by
  unfold reloadFrom
  simp only [outcome, run_bind, run_say, run_tryCatch, hread, run_orFail]
  generalize j.announce _ _ = j₁
  have hout := reload_outcome r (.str l) (.str t) j₁
  rw [read_str] at hout
  by_cases hc : r.closed
  · have hrun : (r.reload (.str l) (.str t)).run.run j₁ = (.error closedFault, _) :=
      Prod.ext (by simpa [outcome, hc] using hout) rfl
    rw [hrun, if_pos hc]
    rfl
  · cases hp : Catalog.parse t (.str l) with
    | error f =>
      -- the parse fault is the library's own, so the watcher catches it
      have hown : f.isOwn = true := isOwn_of_parseFault (parse_error_isParse hp)
      have hrun : (r.reload (.str l) (.str t)).run.run j₁ = (.error f, _) :=
        Prod.ext (by simpa [outcome, hc, hp] using hout) rfl
      rw [hrun, if_neg hc]
      simp only [hown, Bool.not_true, Bool.false_eq_true, if_false]
      rfl
    | ok c =>
      have hrun : (r.reload (.str l) (.str t)).run.run j₁ =
          (.ok (c, { r with stores := r.stores.set (.str l) c, version := r.version + 1 }), _) :=
        Prod.ext (by simpa [outcome, hc, hp, Value.unhashable?] using hout) rfl
      rw [hrun, if_neg hc]
      rfl

end Phrasebook.Watcher

namespace Phrasebook.Registry

/-- A catalog loaded from a file is the parse of the file's text as it is read: the characters
its bytes decode to, with each `\r\n` and each lone `\r` made a line end. A file found in the
catalog folder for a locale that has no remote source is built into the registry so, and a
build that fails to parse it names its locale with that parse's fault. A reload of the file
sets that parse on an open registry, and a parse that fails leaves the registry as it was. -/
theorem file_catalog_is_parse_of_read_text {d : Disk} {p l : String} {bs : List Nat}
    {cs : List Char} (hbytes : d.readBytes (Path.written p) = .ok bs)
    (hdec : Text.decodeFrom 0 [] bs = .ok cs) :
    let t := Text.ofChars (Text.unifyLineEnds cs)
    Source.readFile d p = .ok t ∧
      (∀ (s : Settings) (dir : String) (found : Table String) (ma : Value) (x : Source.Link)
          (all : Table String),
        s.catalogDir = some dir → Source.discover d dir s.suffix = .ok found →
        found.get? l = some p → s.remoteSources.contains l = false →
        ((Source.gather d s ma).run.run x).1 = .ok all →
        (∀ fb j r, outcome (ofTexts all fb) j = .ok r →
            ∃ c, Catalog.parse t (.str l) = .ok c ∧ r.stores.get? (.str l) = some c) ∧
          (∀ f, Catalog.parse t (.str l) = .error f → ∀ fb j,
            ∃ fs, outcome (ofTexts all fb) j = .error (.aggregate fs) ∧ (l, f) ∈ fs)) ∧
      (∀ (r : Registry) (j : Log.Journal), outcome (Watcher.reloadFrom d r (.str l) (.str p)) j =
        .ok (if r.closed then r else match Catalog.parse t (.str l) with
          | .ok c => { r with stores := r.stores.set (.str l) c, version := r.version + 1 }
          | .error _ => r)) := by
  intro t
  have hread : Source.readFile d p = .ok t := Source.readFile_decoded hbytes hdec
  refine ⟨hread, ?_, fun r j => Watcher.reloadFrom_readable hread j⟩
  intro s dir found ma x all hdir hfound hp hremote hall
  obtain ⟨found', texts, remote, hfound', htexts, hkeys, hentries⟩ :=
    Source.gather_eq_ok hdir hall
  rw [hfound] at hfound'
  cases hfound'
  -- the file is read among the local files, as the last source of its locale there
  have hmem : (l, p) ∈ found.entries.filter fun q => !s.remoteSources.contains q.1 :=
    List.mem_filter.2 ⟨Table.mem_of_lookup hp, by simp [hremote]⟩
  have hnodup : ((found.entries.filter fun q => !s.remoteSources.contains q.1).map
      Prod.fst).Nodup :=
    (Source.discover_nodup hfound).sublist (List.filter_sublist.map _)
  obtain ⟨pre, t', post, rfl, ht', hpost⟩ := Source.collect_mem htexts hnodup hmem
  rw [hread] at ht'
  cases ht'
  -- and no download is for its locale
  have hnotRemote : l ∉ remote.map Prod.fst := by
    rw [hkeys]
    exact Table.lookup_eq_none_iff.1 (by simpa [Table.contains, Table.get?] using hremote)
  have hall' : all = ⟨pre ++ (l, t) :: (post ++ remote)⟩ := by
    cases all
    simp_all
  subst hall'
  exact ⟨fun fb j r h => ofTexts_get_of_last h (by simp [hpost, hnotRemote]),
    fun f hf fb j => ofTexts_fails_of_mem (by simp) hf fb j⟩

theorem file_catalog_is_parse_of_read_text_cs :
    (({} : Disk).write "i18n/cs.ftl" [97, 32, 61, 32, 49, 13, 98, 32, 61, 32, 50, 10]
        none).readBytes (Path.written "i18n/cs.ftl") =
      .ok [97, 32, 61, 32, 49, 13, 98, 32, 61, 32, 50, 10] ∧
    Text.decodeFrom 0 [] [97, 32, 61, 32, 49, 13, 98, 32, 61, 32, 50, 10] =
      .ok "a = 1\rb = 2\n".toList ∧
    let d := ({} : Disk).write "i18n/cs.ftl" [97, 32, 61, 32, 49, 13, 98, 32, 61, 32, 50, 10] none
    let t := Text.ofChars (Text.unifyLineEnds "a = 1\rb = 2\n".toList)
    Source.readFile d "i18n/cs.ftl" = .ok t ∧
      (∀ (s : Settings) (dir : String) (found : Table String) (ma : Value) (x : Source.Link)
          (all : Table String),
        s.catalogDir = some dir → Source.discover d dir s.suffix = .ok found →
        found.get? "cs" = some "i18n/cs.ftl" → s.remoteSources.contains "cs" = false →
        ((Source.gather d s ma).run.run x).1 = .ok all →
        (∀ fb j r, outcome (ofTexts all fb) j = .ok r →
            ∃ c, Catalog.parse t (.str "cs") = .ok c ∧ r.stores.get? (.str "cs") = some c) ∧
          (∀ f, Catalog.parse t (.str "cs") = .error f → ∀ fb j,
            ∃ fs, outcome (ofTexts all fb) j = .error (.aggregate fs) ∧ ("cs", f) ∈ fs)) ∧
      (∀ (r : Registry) (j : Log.Journal),
        outcome (Watcher.reloadFrom d r (.str "cs") (.str "i18n/cs.ftl")) j =
          .ok (if r.closed then r else match Catalog.parse t (.str "cs") with
            | .ok c => { r with stores := r.stores.set (.str "cs") c, version := r.version + 1 }
            | .error _ => r)) :=
  have hbytes : (({} : Disk).write "i18n/cs.ftl" [97, 32, 61, 32, 49, 13, 98, 32, 61, 32, 50, 10]
      none).readBytes (Path.written "i18n/cs.ftl") =
      .ok [97, 32, 61, 32, 49, 13, 98, 32, 61, 32, 50, 10] := by decide +kernel
  have hdec : Text.decodeFrom 0 [] [97, 32, 61, 32, 49, 13, 98, 32, 61, 32, 50, 10] =
      .ok "a = 1\rb = 2\n".toList := by rfl
  ⟨hbytes, hdec, file_catalog_is_parse_of_read_text (l := "cs") hbytes hdec⟩

/-- A lone carriage return ends a line of a catalog file, though the parser alone keeps it in
the line. The file `i18n/cs.ftl` below holds `a = 1`, a lone `\r`, then `b = 2`: its bytes
decode to a text whose parse has one entry, `a` with the text `1\rb = 2`, but gathering the
folder gives the text with the return made a line end, and the registry built from it holds two
entries for `cs`. -/
theorem lone_return_ends_catalog_line :
    Text.decodeFrom 0 [] [97, 32, 61, 32, 49, 13, 98, 32, 61, 32, 50, 10] =
      .ok "a = 1\rb = 2\n".toList ∧
    Catalog.parse "a = 1\rb = 2\n" (.str "cs") = .ok ⟨.str "cs", ⟨[("a", "1\rb = 2")]⟩⟩ ∧
    ((Source.gather (({} : Disk).write "i18n/cs.ftl"
        [97, 32, 61, 32, 49, 13, 98, 32, 61, 32, 50, 10] none)
        { catalogDir := some "i18n" }).run.run {}).1.toOption.map Table.entries =
      some [("cs", "a = 1\nb = 2\n")] ∧
    outcome (ofTexts ⟨[("cs", "a = 1\nb = 2\n")]⟩ {}) {} =
      .ok ⟨⟨[(.str "cs", ⟨.str "cs", ⟨[("a", "1"), ("b", "2")]⟩⟩)]⟩, {}, 1, false⟩ :=
  ⟨by rfl, by rfl, by decide +kernel, by rfl⟩

end Phrasebook.Registry
