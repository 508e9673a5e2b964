import Phrasebook.Proofs.FileLoading
import Phrasebook.Proofs.LocaleFiles

/-!
Gathering sources from files and downloads.

Settings name a catalog folder and remote sources. Gathering finds the folder's catalog files
(`localFiles`), keeps those of the locales that have no remote source, and reads every one of
them; then it downloads every remote source. Only when all of that succeeds does it give
sources: the files' texts in the order the files were found, then the downloads' texts in the
settings' order. A remote source thus takes the place of a file of its locale, and the other
locales keep theirs. Settings that yield no source at all are refused.

A failure is reported in a fixed order: a folder that cannot be found; then the first file, in
the order found, that cannot be read, and then nothing is downloaded; then the first download,
in the settings' order, that fails. Every download ends before that failure is reported, so
which download failed first in time plays no part, and when no two remote sources share a URL
the downloads give what they give made one after another (`Downloaded`), however they take
turns. The reads take turns too: whatever order they finish in, every file is taken up exactly
once (`takenUp_perm`), so each file read whole is announced once. A folder is not found when
the system answers that it is not there; a folder whose name is too long for the system is not
looked up at all, and the system's failure is reported (`gather_overlong_folder_raises`).

`collect_first_error` says which failure a list of outcomes reports, `gather_after_downloads` what
gathering gives once the files are read and the downloads made, and `gather_merges_sources`
states the whole.
-/

namespace Phrasebook.Source

/-- The downloads of `sources` made one after another from the link `l`: each is the download of
its URL for its locale, made from the link the one before it left. `rs` holds what each gave,
under its locale, and `l'` is the link the last one left. -/
inductive Downloaded (ma : Value) : List (String × String) → Link →
    List (String × Except Fault String) → Link → Prop
  | nil (l : Link) : Downloaded ma [] l [] l
  | cons {loc url : String} {rest : List (String × String)} {l l₁ l₂ : Link}
      {r : Except Fault String} {rs : List (String × Except Fault String)}
      (h : (fetch (.str url) (some loc) ma).run.run l = (r, l₁))
      (hrest : Downloaded ma rest l₁ rs l₂) :
      Downloaded ma ((loc, url) :: rest) l ((loc, r) :: rs) l₂

theorem Downloaded.keys {ma : Value} {xs : List (String × String)} {l l' : Link}
    {rs : List (String × Except Fault String)} (h : Downloaded ma xs l rs l') :
    rs.map Prod.fst = xs.map Prod.fst := by
  induction h with
  | nil => rfl
  | cons _ _ ih => simp [ih]

theorem fetch_of_resume {url : Value} {locale : Option String} {ma : Value} {l l' : Link}
    {r : Except Fault String} (h : (resume url locale ma 1).run.run l = (.ok r, l')) :
    (fetch url locale ma).run.run l = (r, l') := by
  unfold fetch
  rw [run_bind_of_ok h, run_orFail]

theorem fetchAll_in_turn (ma : Value) : ∀ (xs : List (String × String)) (l : Link),
    ∃ rs l', (fetchAll ma xs []).run.run l = (.ok rs, l') ∧ Downloaded ma xs l rs l'
  | [], l => ⟨[], l, rfl, .nil l⟩
  | (loc, url) :: rest, l => by
    obtain ⟨r, l₁, h₁⟩ := resume_run (.str url) (some loc) ma 1 l
    obtain ⟨rs, l₂, hrest, hd⟩ := fetchAll_in_turn ma rest l₁
    refine ⟨(loc, r) :: rs, l₂, ?_, .cons (fetch_of_resume h₁) hd⟩
    -- with no turns taken, downloading is finishing each download from its first attempt
    have hrest' : (finishAll ma (rest.map fun p => ⟨p.1, p.2, .send 1⟩)).run.run l₁ =
        (.ok rs, l₂) := hrest
    exact @finishAll_cons_run ma ⟨loc, url, .send 1⟩ _ l l₁ l₂ r rs h₁ hrest'

/-! ### Reads taken up in any order -/

/-- Whatever order a schedule names, every item is taken up, and exactly once. -/
theorem takenUp_perm {α : Type} (order : List Nat) (xs : List α) :
    (takenUp order xs).Perm xs := by
  -- the items the schedule names, each with its place
  let named := order.eraseDups.filterMap fun i => (xs[i]?).map (·, i)
  have hnamed : named.map Prod.fst = order.eraseDups.filterMap (xs[·]?) := by
    simp [named, List.map_filterMap, Option.map_map, Function.comp_def]
  have hnodup : named.Nodup := by
    refine (Locale.nodup_eraseDups order).filterMap fun i j p hi hj => ?_
    simp only [Option.mem_def, Option.map_eq_some_iff] at hi hj
    obtain ⟨a, -, rfl⟩ := hi
    obtain ⟨b, -, hb⟩ := hj
    exact (congrArg Prod.snd hb).symm
  have hzip : (xs.zipIdx.filter fun p => order.contains p.2).Nodup := by
    refine List.Nodup.filter _ (List.Nodup.of_map Prod.snd ?_)
    rw [List.zipIdx_map_snd]
    exact List.nodup_range' ..
  -- the named items with their places are those of the places the schedule names
  have hperm : named.Perm (xs.zipIdx.filter fun p => order.contains p.2) := by
    rw [List.perm_ext_iff_of_nodup hnodup hzip]
    rintro ⟨a, i⟩
    simp only [named, List.mem_filterMap, Option.map_eq_some_iff, List.mem_filter,
      List.mem_zipIdx_iff_getElem?, List.contains_iff_mem, List.mem_eraseDups, Prod.mk.injEq]
    constructor
    · rintro ⟨j, hj, b, hb, rfl, rfl⟩
      exact ⟨hb, hj⟩
    · rintro ⟨hb, hi⟩
      exact ⟨i, hi, a, hb, rfl, rfl⟩
  calc takenUp order xs
      = (named ++ xs.zipIdx.filter fun p => !order.contains p.2).map Prod.fst := by
        rw [List.map_append, hnamed]
        rfl
    List.Perm _ ((xs.zipIdx.filter (fun p => order.contains p.2) ++
          xs.zipIdx.filter fun p => !order.contains p.2).map Prod.fst) :=
        (hperm.append_right _).map _
    List.Perm _ (xs.zipIdx.map Prod.fst) := (List.filter_append_perm _ _).map _
    _ = xs := List.zipIdx_map_fst 0 xs

theorem collect_ok (ps : List (String × String)) :
    collect (ps.map fun p => (p.1, .ok p.2)) = .ok ps := by
  induction ps with
  | nil => rfl
  | cons p rest ih => simp [collect, ih, Except.map]

theorem collect_first_error {pre post : List (String × Except Fault String)} {loc : String}
    {f : Fault} (hpre : ∀ p ∈ pre, ∃ t, p.2 = .ok t) :
    collect (pre ++ (loc, .error f) :: post) = .error f := by
  induction pre with
  | nil => rfl
  | cons p pre ih =>
    obtain ⟨loc', r⟩ := p
    obtain ⟨t, ht⟩ := hpre _ List.mem_cons_self
    simp only at ht
    subst ht
    simp [collect, ih fun q hq => hpre q (List.mem_cons_of_mem _ hq), Except.map]

theorem collect_map_first_error {F : String → Except Fault String}
    {pre post : List (String × String)} {p : String × String} {f : Fault}
    (hpre : ∀ q ∈ pre, ∃ t, F q.2 = .ok t) (hp : F p.2 = .error f) :
    collect ((pre ++ p :: post).map fun q => (q.1, F q.2)) = .error f := by
  rw [List.map_append, List.map_cons, hp]
  refine collect_first_error fun q hq => ?_
  obtain ⟨r, hr, rfl⟩ := List.mem_map.1 hq
  dsimp only
  exact hpre r hr

theorem keys_of_read {F : String → Except Fault String} {files texts : List (String × String)}
    (h : files.map (fun p => (p.1, F p.2)) = texts.map fun p => (p.1, .ok p.2)) :
    texts.map Prod.fst = files.map Prod.fst := by
  have := congrArg (List.map Prod.fst) h
  simp only [List.map_map, Function.comp_def] at this
  exact this.symm

section Gathering

variable {d : Disk} {s : Settings} {ma : Value} {σ : Schedule} {l : Link}

theorem localFiles_missing {dir : String} (hdir : s.catalogDir = some dir)
    (hf : d.isFolder (Path.written dir) = false)
    (hno : ∀ e, d.stat (Path.written dir) = .error e → e.meansNo = true) :
    localFiles d s = .error (.source .read ("Catalog directory not found: " ++ Path.written dir)
      [("path", .str (Path.written dir))]) := by
  rw [localFiles, hdir]
  exact discover_eq_notFound_iff.2 ⟨hf, hno⟩

theorem localFiles_raised {dir : String} {e : Errno} (hdir : s.catalogDir = some dir)
    (hs : d.stat (Path.written dir) = .error e) (he : e.meansNo = false) :
    localFiles d s = .error (e.fault (Path.written dir)) := by
  rw [localFiles, hdir]
  exact discover_of_raised (Disk.ask_of_raised hs he)

theorem gather_of_localFiles_error {f : Fault} (h : localFiles d s = .error f) :
    (gather d s ma σ).run.run l = (.error f, l) := by
  have h₁ : (orFail (localFiles d s)).run.run l = (.error f, l) := by rw [run_orFail, h]
  unfold gather
  exact run_bind_of_error h₁

theorem gather_of_read_error {found : Table String} {f : Fault}
    (hfound : localFiles d s = .ok found)
    (hread : collect ((found.entries.filter fun p => !s.remoteSources.contains p.1).map
      fun p => (p.1, readFile d p.2)) = .error f) :
    (gather d s ma σ).run.run l = (.error f, l.noteReads
      (takenUp σ.reads (found.entries.filter fun p => !s.remoteSources.contains p.1))
      (readFile d)) := by
  have h₁ : (orFail (localFiles d s)).run.run l = (.ok found, l) := by rw [run_orFail, hfound]
  unfold gather
  rw [run_bind_of_ok h₁, run_bind_of_ok (run_modify _ _)]
  exact run_bind_of_error (by rw [run_orFail, hread])

/-- Once the files are read and the downloads made, gathering gives the downloads' texts after
the files' texts, or the failure the downloads report, and it refuses settings that yield no
source. -/
theorem gather_after_downloads {l' : Link} {found : Table String}
    {texts : List (String × String)} {rs : List (String × Except Fault String)}
    (hfound : localFiles d s = .ok found)
    (htexts : collect ((found.entries.filter fun p => !s.remoteSources.contains p.1).map
      fun p => (p.1, readFile d p.2)) = .ok texts)
    (hrs : (fetchAll ma s.remoteSources.entries σ.downloads).run.run (l.noteReads
      (takenUp σ.reads (found.entries.filter fun p => !s.remoteSources.contains p.1))
      (readFile d)) = (.ok rs, l')) :
    (gather d s ma σ).run.run l = (collect rs >>= fun remote =>
      if (texts ++ remote).isEmpty then .error (noSources s) else .ok ⟨texts ++ remote⟩, l') := by
  have h₁ : (orFail (localFiles d s)).run.run l = (.ok found, l) := by rw [run_orFail, hfound]
  unfold gather
  rw [run_bind_of_ok h₁, run_bind_of_ok (run_modify _ _),
    run_bind_of_ok (by rw [run_orFail, htexts]), run_bind_of_ok hrs]
  cases collect rs with
  | error f => exact run_bind_of_error (run_orFail _ _)
  | ok remote =>
    rw [run_bind_of_ok (run_orFail _ _)]
    change _ = ((if (texts ++ remote).isEmpty then .error (noSources s) else .ok ⟨texts ++ remote⟩ :
      Except Fault (Table String)), l')
    cases he : (texts ++ remote).isEmpty <;> simp only [he, if_true, Bool.false_eq_true, if_false]
    all_goals rfl

end Gathering

/-- Gathering, for every disk, settings, link and way the reads and downloads take turns. When
the files cannot be found gathering fails at once: a catalog folder that is set and not there,
where looking it up raises nothing, is a failure to read it, and a look-up that raises fails
with the system's fault. Otherwise the files found for the locales without a remote source are
read, and the first of them, in the order found, that cannot be read fails it before any
download, once the files read whole are announced. Otherwise every remote source is
downloaded, each giving its outcome under its locale, the same as made one after another when
no two share a URL; and the first download that failed, in the settings' order, fails it.
Otherwise it gives the files' texts and then the downloads' texts, under the found locales
without a remote source and then the remote locales, and fails only when there is none. -/
theorem gather_merges_sources (d : Disk) (s : Settings) (ma : Value) (σ : Schedule)
    (l : Link) :
    (∀ f, localFiles d s = .error f → (gather d s ma σ).run.run l = (.error f, l)) ∧
    (∀ dir, s.catalogDir = some dir →
      (d.isFolder (Path.written dir) = false →
        (∀ e, d.stat (Path.written dir) = .error e → e.meansNo = true) →
        localFiles d s = .error (.source .read ("Catalog directory not found: " ++
          Path.written dir) [("path", .str (Path.written dir))])) ∧
      ∀ e, d.stat (Path.written dir) = .error e → e.meansNo = false →
        localFiles d s = .error (e.fault (Path.written dir))) ∧
    ∀ found, localFiles d s = .ok found →
      let files := found.entries.filter fun p => !s.remoteSources.contains p.1
      let l₁ := l.noteReads (takenUp σ.reads files) (readFile d)
      (∀ pre p post f, files = pre ++ p :: post → (∀ q ∈ pre, ∃ t, readFile d q.2 = .ok t) →
        readFile d p.2 = .error f → (gather d s ma σ).run.run l = (.error f, l₁)) ∧
      ∀ texts, files.map (fun p => (p.1, readFile d p.2)) = texts.map (fun p => (p.1, .ok p.2)) →
        ∃ rs l', (fetchAll ma s.remoteSources.entries σ.downloads).run.run l₁ = (.ok rs, l') ∧
          rs.map Prod.fst = s.remoteSources.keys ∧
          ((s.remoteSources.entries.map Prod.snd).Nodup →
            ∃ l'', Downloaded ma s.remoteSources.entries l₁ rs l'') ∧
          (∀ pre loc post f, rs = pre ++ (loc, .error f) :: post →
            (∀ q ∈ pre, ∃ t, q.2 = .ok t) → (gather d s ma σ).run.run l = (.error f, l')) ∧
          ∀ remote, rs = remote.map (fun p => (p.1, .ok p.2)) →
            (texts ++ remote).map Prod.fst =
              found.keys.filter (fun k => !s.remoteSources.contains k) ++ s.remoteSources.keys ∧
            (texts ++ remote = [] → (gather d s ma σ).run.run l = (.error (noSources s), l')) ∧
            (texts ++ remote ≠ [] → (gather d s ma σ).run.run l = (.ok ⟨texts ++ remote⟩, l')) := by
  refine ⟨fun f h => gather_of_localFiles_error h,
    fun dir hdir => ⟨localFiles_missing hdir, fun e hs he => localFiles_raised hdir hs he⟩,
    fun found hfound => ?_⟩
  intro files l₁
  refine ⟨fun pre p post f hfiles hpre hp => gather_of_read_error hfound ?_,
    fun texts htexts => ?_⟩
  · show collect (files.map fun p => (p.1, readFile d p.2)) = .error f
    rw [hfiles]
    exact collect_map_first_error hpre hp
  have hread : collect (files.map fun p => (p.1, readFile d p.2)) = .ok texts := by
    rw [htexts, collect_ok]
  obtain ⟨rs, l', hrun, hkeys⟩ := fetchAll_run ma s.remoteSources.entries σ.downloads l₁
  have hg := @gather_after_downloads d s ma σ l l' found texts rs hfound hread hrun
  refine ⟨rs, l', hrun, hkeys, fun hnodup => ?_, fun pre loc post f hrs hpre => ?_,
    fun remote hrs => ?_⟩
  · -- with no URL shared, the turns the downloads take change no outcome
    obtain ⟨rs₀, l'', hrun₀, hd⟩ := fetchAll_in_turn ma s.remoteSources.entries l₁
    have hsame := (@fetchAll_any_schedule ma _ hnodup σ.downloads l₁).1
    rw [hrun, hrun₀] at hsame
    cases hsame
    exact ⟨l'', hd⟩
  · rw [hg, hrs, collect_first_error hpre]
    rfl
  have hlocal : texts.map Prod.fst = found.keys.filter fun k => !s.remoteSources.contains k := by
    rw [keys_of_read htexts, Table.keys, List.filter_map]
    rfl
  have hremote : remote.map Prod.fst = s.remoteSources.keys := by
    rw [hrs, List.map_map] at hkeys
    exact hkeys
  rw [hrs, collect_ok] at hg
  refine ⟨by rw [List.map_append, hlocal, hremote], fun he => ?_, fun he => ?_⟩
  · simp only [hg, bind, Except.bind, he, List.isEmpty_nil, if_true]
  · simp only [hg, bind, Except.bind, List.isEmpty_eq_false_iff.mpr he, Bool.false_eq_true,
      if_false]

/-- A catalog folder named by 256 letters has a name longer than the system takes: looking it
up raises, and gathering fails with the system's fault, not as a folder that is not there. -/
theorem gather_overlong_folder_raises :
    (gather {} { catalogDir := some (String.ofList (List.replicate 256 'a')) }).run.run {} =
      (.error (Errno.nameTooLong.fault (String.ofList (List.replicate 256 'a'))), {}) := by
  have hdir : Path.written (String.ofList (List.replicate 256 'a')) =
      String.ofList (List.replicate 256 'a') := by decide +kernel
  have hstat : ({} : Disk).stat (Path.written (String.ofList (List.replicate 256 'a'))) =
      .error .nameTooLong := by
    have hl : ({} : Disk).locate (Path.written (String.ofList (List.replicate 256 'a'))) =
        .error .nameTooLong := by
      rw [hdir]
      decide +kernel
    rw [Disk.stat, hl]
    rfl
  rw [gather_of_localFiles_error (localFiles_raised rfl hstat rfl), hdir]

end Phrasebook.Source
