import Phrasebook.Proofs.FallbackReading
import Phrasebook.Source.Gather
import Phrasebook.Effect

/-!
Catalog files and their locales.

A file name `<locale><suffix>` names its locale: the name less the suffix, trimmed, when the
name ends with the suffix, does not start with `.` and leaves a locale that is not blank
(`localeOf_eq_some_iff`); no name ever gives the empty locale. A locale written as a file name
in any folder is read back as it stands (`localeOf_catalog_name`), provided neither the locale
nor the suffix holds a slash: the name of a path is what follows its last slash, so a suffix
with a slash is never the end of a name (`slashed_suffix_names_no_locale`).

Discovery asks about the folder, and then about each of its entries in code-point order of
their names. A folder the system can look up fails it exactly when it is not one, as a read
fault naming it (`discover_eq_notFound_iff`); a look-up that raises fails it with the system's
fault, the folder's (`discover_of_raised`) or the first entry's (`discover_of_entry_raised`).
Otherwise each locale holds the last regular file of the folder that names it
(`discover_of_folder`, `get?_ofList_located`): the names are listed sorted, and a later file
of a locale overwrites an earlier one.

Main statement: `locale_files_round_trip`.
-/

namespace Phrasebook.Source

open Text

/-! ### The name of a path -/

theorem split_append_slash (d x : String) (hx : '/' ∉ x.toList) :
    Path.split (d ++ "/" ++ x) = Path.split d ++ [x] := by
  have hcs : (d ++ "/" ++ x).toList = d.toList ++ '/' :: x.toList := by simp
  rw [Path.split, hcs, List.splitOn_append_cons_self, List.splitOn_eq_singleton hx]
  simp [Path.split]

theorem name_append_slash (d x : String) (hx : '/' ∉ x.toList) (hne : x ≠ "")
    (hdot : x ≠ ".") : Path.name (d ++ "/" ++ x) = x := by
  simp [Path.name, Path.parts, split_append_slash d x hx, List.filter_append, hne, hdot]

/-! ### Texts made of points -/

theorem ofPoints_append (ls ss : List Point) :
    ofPoints ls ++ ofPoints ss = ofPoints (ls ++ ss) := by
  simp [ofPoints, List.flatMap_append, String.ofList_append]

theorem ofPoints_eq_empty_iff {ls : List Point} : ofPoints ls = "" ↔ ls = [] := by
  constructor
  · intro h
    have hp := congrArg points h
    rwa [points_ofPoints] at hp
  · rintro rfl
    rfl

theorem endsWith_ofPoints_append (ls ss : List Point) :
    endsWith (ofPoints (ls ++ ss)) (ofPoints ss) = true := by
  simp [endsWith, points_ofPoints]

theorem not_startsWith_dot_append {a b : String} (ha : a ≠ "") (h : ¬ a.startsWith ".") :
    ¬ (a ++ b).startsWith "." := by
  rw [String.startsWith_string_iff] at h ⊢
  obtain ⟨c, cs, hcs⟩ := List.exists_cons_of_ne_nil (String.toList_eq_nil_iff.not.2 ha)
  rw [String.toList_append, hcs, List.cons_append]
  rw [hcs] at h
  simpa [List.cons_prefix_cons] using h

/-! ### The locale of a file name -/

/-- Away from the empty suffix, a path names a locale exactly when its name ends with the
suffix, does not start with `.`, and the rest of the name, trimmed, is not empty: the locale
is that rest. -/
theorem localeOf_eq_some_iff {p s l : String} (hs : s ≠ "") :
    localeOf p s = some l ↔
      endsWith (Path.name p) s = true ∧ ¬ (Path.name p).startsWith "." ∧ l ≠ "" ∧
        l = trim (ofPoints ((points (Path.name p)).take
          ((points (Path.name p)).length - length s))) := by
  have hse : s.isEmpty = false := by simpa using hs
  unfold localeOf
  dsimp only
  rw [hse, Bool.false_or]
  generalize trim (ofPoints ((points (Path.name p)).take
    ((points (Path.name p)).length - length s))) = t
  split_ifs with hbad hblank
  · -- the name does not end with the suffix, or starts with `.`
    simp only [Bool.or_eq_true, Bool.not_eq_true'] at hbad
    simp only [false_iff]
    rintro ⟨hend, hdot, -⟩
    rcases hbad with hbad | hbad
    · rw [hend] at hbad
      cases hbad
    · exact hdot hbad
  · simp only [false_iff]
    rintro ⟨-, -, hl, rfl⟩
    exact hl (String.isEmpty_iff.1 hblank)
  · simp only [Bool.or_eq_true, Bool.not_eq_true', not_or, Bool.not_eq_false] at hbad
    simp only [Option.some.injEq, hbad.1, true_and]
    constructor
    · rintro rfl
      exact ⟨by simpa using hbad.2, fun h => hblank (String.isEmpty_iff.2 h), rfl⟩
    · rintro ⟨-, -, rfl⟩
      rfl

theorem localeOf_ne_empty (p s : String) : localeOf p s ≠ some "" := by
  intro h
  unfold localeOf at h
  dsimp only at h
  split_ifs at h with hbad hblank
  simp only [Option.some.injEq] at h
  exact hblank (String.isEmpty_iff.2 h)

/-- A locale written as a file name, in any folder, is read back: the locale is not empty,
trimmed and does not start with `.`, and neither it nor the suffix holds a slash. -/
theorem localeOf_catalog_name (d : String) {ls ss : List Point} (hs : ss ≠ [])
    (hss : '/' ∉ (ofPoints ss).toList) (hl : ls ≠ []) (htrim : trim (ofPoints ls) = ofPoints ls)
    (hls : '/' ∉ (ofPoints ls).toList) (hdot : ¬ (ofPoints ls).startsWith ".") :
    localeOf (d ++ "/" ++ ofPoints ls ++ ofPoints ss) (ofPoints ss) = some (ofPoints ls) := by
  have hne : ofPoints ls ≠ "" := fun h => hl (ofPoints_eq_empty_iff.1 h)
  have hname :
      Path.name (d ++ "/" ++ (ofPoints ls ++ ofPoints ss)) = ofPoints ls ++ ofPoints ss := by
    have hnodot : ¬ (ofPoints ls ++ ofPoints ss).startsWith "." :=
      not_startsWith_dot_append hne hdot
    refine name_append_slash d _ ?_ ?_ ?_
    · simp [hls, hss]
    · exact fun h => hne (String.append_eq_empty_iff.1 h).1
    · rintro h
      exact hnodot (h ▸ String.startsWith_string_iff.2 (List.prefix_refl _))
  rw [String.append_assoc, localeOf_eq_some_iff (fun h => hs (ofPoints_eq_empty_iff.1 h)), hname,
    ofPoints_append]
  refine ⟨endsWith_ofPoints_append ls ss, ?_, hne, ?_⟩
  · rw [← ofPoints_append]
    exact not_startsWith_dot_append hne hdot
  · simp [length, points_ofPoints, htrim]

/-! ### Discovery -/

/-- The paths of the entries of a folder, in the order of their names. -/
def entriesIn (d : Disk) (root : String) : List String :=
  (d.list root).map fun n => Path.written (Path.join root n)

/-- The regular files directly in a folder, as paths, in the order of their names. -/
def filesIn (d : Disk) (root : String) : List String := (entriesIn d root).filter d.isFile

theorem list_pairwise_precedes (d : Disk) (p : String) :
    (d.list p).Pairwise (fun a b => precedes a b = true) := by
  unfold Disk.list
  split
  · dsimp only
    split
    · exact @List.pairwise_mergeSort _ precedes (fun _ _ _ => precedes_trans) precedes_total _
    · split
      · -- an ancestor of the scratch directory lists the one folder below it on the way down
        cases d.home.drop _ with
        | nil => exact List.Pairwise.nil
        | cons x xs => exact List.pairwise_singleton _ x
      · exact List.Pairwise.nil
  · exact List.Pairwise.nil

theorem foldl_pick {β : Type} (g : Table String → β → Table String)
    (pick : β → Option (String × String))
    (hg : ∀ t b, g t b = (pick b).elim t fun q => t.set q.1 q.2) :
    ∀ (bs : List β) (t : Table String),
      bs.foldl g t = (bs.filterMap pick).foldl (fun t q => t.set q.1 q.2) t
  | [], _ => rfl
  | b :: bs, t => by
    rw [List.foldl_cons, hg, foldl_pick g pick hg bs]
    cases hb : pick b <;> simp [hb]

theorem get?_ofList_located (f : String → Option String) (xs : List String) (l : String) :
    (Table.ofList (xs.filterMap fun p => (f p).map (·, p))).get? l =
      (xs.filter (f · = some l)).getLast? := by
  induction xs using List.reverseRecOn with
  | nil => rfl
  | append_singleton xs x ih =>
    rw [List.filterMap_append, List.filter_append]
    cases hx : f x with
    | none => simp [hx, ih]
    | some l' =>
      simp only [hx, List.filterMap_cons, List.filterMap_nil, Option.map_some, Table.ofList_append]
      by_cases hl : l' = l
      · subst hl
        simp [hx]
      · rw [Table.get?_set_ne _ _ (Ne.symm hl), ih]
        simp [hx, hl]

theorem keys_ofList_located (f : String → Option String) (xs : List String) :
    (Table.ofList (xs.filterMap fun p => (f p).map (·, p))).keys = (xs.filterMap f).eraseDups := by
  rw [Table.keys_ofList, List.map_filterMap]
  congr 2
  funext p
  cases f p <;> rfl

theorem fault_ne_source (e : Errno) (p : String) (k : SourceKind) (m : String)
    (data : List (String × Value)) : e.fault p ≠ .source k m data := by
  cases e <;> simp [Errno.fault]

section Discovery

variable {d : Disk} {dir s : String}

theorem discover_of_raised {e : Errno} (h : d.ask Node.isFolder (Path.written dir) = .error e) :
    discover d dir s = .error (e.fault (Path.written dir)) := by
  unfold discover
  simp only [h, Except.mapError, bind, Except.bind]

theorem discover_of_not_folder (h : d.ask Node.isFolder (Path.written dir) = .ok false) :
    discover d dir s = .error (.source .read ("Catalog directory not found: " ++ Path.written dir)
      [("path", .str (Path.written dir))]) := by
  unfold discover
  simp only [h, Except.mapError, bind, Except.bind, Bool.not_false, if_true]
  rfl

theorem discover_of_folder (h : d.ask Node.isFolder (Path.written dir) = .ok true)
    (hentries :
      ∀ q ∈ entriesIn d (Path.written dir), ∀ e, d.stat q = .error e → e.meansNo = true) :
    discover d dir s = .ok (Table.ofList ((filesIn d (Path.written dir)).filterMap
      fun p => (localeOf p s).map (·, p))) := by
  have hfiles : (d.list (Path.written dir)).filterM (fun n =>
      (d.ask Node.isFile (Path.written (Path.join (Path.written dir) n))).mapError
        (·.fault (Path.written (Path.join (Path.written dir) n)))) =
      .ok ((d.list (Path.written dir)).filter
        fun n => d.isFile (Path.written (Path.join (Path.written dir) n))) := by
    refine filterM_eq_ok fun n hn => ?_
    rw [Disk.ask_isFile (hentries _ (List.mem_map_of_mem hn))]
    rfl
  unfold discover
  simp only [h, hfiles, bind, Except.bind]
  simp only [Except.mapError, Bool.not_true, Bool.false_eq_true, ↓reduceIte, pure, Except.pure]
  rw [foldl_pick _ (fun n => (localeOf (Path.written (Path.join (Path.written dir) n)) s).map
    (·, Path.written (Path.join (Path.written dir) n)))]
  · simp only [filesIn, entriesIn, Table.ofList, List.filter_map, List.filterMap_map,
      Function.comp_def]
  · -- a name sets its locale's path exactly when it names a locale
    intro t n
    split <;> simp_all

/-- Once the folder is found, discovery fails only with the failure of asking about one of
its entries. -/
theorem discover_error_of_folder {f : Fault}
    (h : d.ask Node.isFolder (Path.written dir) = .ok true) (hf : discover d dir s = .error f) :
    ∃ q ∈ entriesIn d (Path.written dir), ∃ e,
      d.ask Node.isFile q = .error e ∧ f = e.fault q := by
  unfold discover at hf
  simp only [h, Except.mapError, bind, Except.bind, Bool.not_true, Bool.false_eq_true,
    ↓reduceIte] at hf
  split at hf
  · cases hf
    obtain ⟨n, hn, hask⟩ := filterM_error_mem ‹_›
    refine ⟨_, List.mem_map_of_mem hn, ?_⟩
    cases he : d.ask Node.isFile (Path.written (Path.join (Path.written dir) n)) with
    | error e =>
      rw [he] at hask
      cases hask
      exact ⟨e, rfl, rfl⟩
    | ok b =>
      rw [he] at hask
      cases hask
  · cases hf

/-- Discovery fails with a read fault naming the folder exactly when the folder is not one and
looking it up raises nothing. -/
theorem discover_eq_notFound_iff :
    discover d dir s = .error (.source .read ("Catalog directory not found: " ++ Path.written dir)
      [("path", .str (Path.written dir))]) ↔
      d.isFolder (Path.written dir) = false ∧
        ∀ e, d.stat (Path.written dir) = .error e → e.meansNo = true := by
  constructor
  · intro hd
    cases ha : d.ask Node.isFolder (Path.written dir) with
    | error e =>
      rw [discover_of_raised ha] at hd
      exact absurd (Except.error.inj hd) (fault_ne_source _ _ _ _ _)
    | ok b =>
      cases b with
      | false => exact Disk.ask_isFolder_eq_false ha
      | true =>
        obtain ⟨q, -, e, -, hf⟩ := discover_error_of_folder ha hd
        exact absurd hf.symm (fault_ne_source _ _ _ _ _)
  · rintro ⟨hfolder, hno⟩
    rw [discover_of_not_folder]
    rw [Disk.ask_isFolder hno, hfolder]

/-- Asking about the entries in order, discovery fails with the first failure raised. -/
theorem discover_of_entry_raised {pre post : List String} {q : String} {e : Errno}
    (h : d.ask Node.isFolder (Path.written dir) = .ok true)
    (hentries : entriesIn d (Path.written dir) = pre ++ q :: post)
    (hpre : ∀ q' ∈ pre, ∀ e', d.stat q' = .error e' → e'.meansNo = true)
    (hq : d.stat q = .error e) (he : e.meansNo = false) :
    discover d dir s = .error (e.fault q) := by
  obtain ⟨npre, nrest, hl, rfl, hrest⟩ := List.map_eq_append_iff.1 hentries
  obtain ⟨n, npost, rfl, rfl, -⟩ := List.map_eq_cons_iff.1 hrest
  have hfiles : (d.list (Path.written dir)).filterM (fun n =>
      (d.ask Node.isFile (Path.written (Path.join (Path.written dir) n))).mapError
        (·.fault (Path.written (Path.join (Path.written dir) n)))) =
      .error (e.fault (Path.written (Path.join (Path.written dir) n))) := by
    rw [hl]
    refine filterM_eq_error (fun m hm => ?_) ?_
    · rw [Disk.ask_isFile (hpre _ (List.mem_map_of_mem hm))]
      exact ⟨_, rfl⟩
    · rw [Disk.ask_of_raised hq he]
      rfl
  unfold discover
  simp only [h, hfiles, bind, Except.bind]
  simp only [Except.mapError, Bool.not_true, Bool.false_eq_true, ↓reduceIte]

end Discovery

/-- Files and locales, both ways. Away from the empty suffix, a path names a locale exactly
when its name ends with the suffix, does not start with `.`, and the rest of the name, trimmed,
is not empty; no path names the empty locale. A locale that is not empty, trimmed, without a
slash and not starting with `.` is read back from its file name in any folder, for any suffix
that is not empty and has no slash. For a folder the system can look up, discovery fails as a
read fault naming the folder exactly when the folder is not one; when it is, and each of its
entries can be looked up, discovery maps each locale to the last file of the folder, in
code-point order of the names, that names it, and has no other locale. A folder whose look-up
raises fails discovery with the system's fault. -/
theorem locale_files_round_trip (p s d : String) (ls ss : List Point) (disk : Disk)
    (dir : String) :
    (s ≠ "" → ∀ l, localeOf p s = some l ↔
      endsWith (Path.name p) s = true ∧ ¬ (Path.name p).startsWith "." ∧ l ≠ "" ∧
        l = trim (ofPoints ((points (Path.name p)).take
          ((points (Path.name p)).length - length s)))) ∧
    localeOf p s ≠ some "" ∧
    (ss ≠ [] → '/' ∉ (ofPoints ss).toList → ls ≠ [] → trim (ofPoints ls) = ofPoints ls →
      '/' ∉ (ofPoints ls).toList → ¬ (ofPoints ls).startsWith "." →
      localeOf (d ++ "/" ++ ofPoints ls ++ ofPoints ss) (ofPoints ss) = some (ofPoints ls)) ∧
    (Disk.fits (Path.written dir) = true →
      (discover disk dir s = .error (.source .read ("Catalog directory not found: " ++
        Path.written dir) [("path", .str (Path.written dir))]) ↔
        disk.isFolder (Path.written dir) = false)) ∧
    (disk.isFolder (Path.written dir) = true →
      (∀ q ∈ entriesIn disk (Path.written dir), Disk.fits q = true) →
      ∃ t, discover disk dir s = .ok t ∧
        (∀ l, t.get? l =
          ((filesIn disk (Path.written dir)).filter (localeOf · s = some l)).getLast?) ∧
        t.keys = ((filesIn disk (Path.written dir)).filterMap (localeOf · s)).eraseDups) ∧
    (∀ e, disk.stat (Path.written dir) = .error e → e.meansNo = false →
      discover disk dir s = .error (e.fault (Path.written dir))) ∧
    (disk.list (Path.written dir)).Pairwise (fun a b => precedes a b = true) := by
  refine ⟨fun hs l => localeOf_eq_some_iff hs, localeOf_ne_empty p s,
    fun hs hss hl htrim hls hdot => localeOf_catalog_name d hs hss hl htrim hls hdot,
    fun hfit => ?_, fun hfolder hentries => ?_,
    fun e he hraised => discover_of_raised (Disk.ask_of_raised he hraised),
    list_pairwise_precedes disk _⟩
  · -- a folder within the limits is looked up without raising
    have hno : ∀ e, disk.stat (Path.written dir) = .error e → e.meansNo = true :=
      fun e he => Disk.stat_error_meansNo hfit he
    rw [discover_eq_notFound_iff]
    exact ⟨fun h => h.1, fun h => ⟨h, hno⟩⟩
  · have hask : disk.ask Node.isFolder (Path.written dir) = .ok true := by
      rw [Disk.ask_isFolder, hfolder]
      intro e he
      simp [Disk.isFolder, he] at hfolder
    refine ⟨_, discover_of_folder hask fun q hq e he =>
      Disk.stat_error_meansNo (hentries q hq) he, ?_, ?_⟩
    · -- each locale holds the last file naming it, and the locales are those the files name
      exact fun l => get?_ofList_located _ _ l
    · exact keys_ofList_located _ _

/-- `cs.ftl` in `i18n` is the file of locale `cs`; and in a folder holding both `cs.ftl` and
` cs.ftl`, discovery gives `cs` the last of its files that names it. -/
theorem locale_files_round_trip_cs :
    localeOf ("i18n" ++ "/" ++ "cs" ++ ".ftl") ".ftl" = some "cs" ∧
    let disk := (({} : Disk).write "i18n/ cs.ftl" [] none).write "i18n/cs.ftl" [] none
    ∃ t, discover disk "i18n" ".ftl" = .ok t ∧
      t.get? "cs" = ((filesIn disk "i18n").filter (localeOf · ".ftl" = some "cs")).getLast? := by
  have h := locale_files_round_trip "" ".ftl" "i18n" (['c', 's'].map .char)
    (['.', 'f', 't', 'l'].map .char)
    ((({} : Disk).write "i18n/ cs.ftl" [] none).write "i18n/cs.ftl" [] none) "i18n"
  have hcs : ofPoints (['c', 's'].map Point.char) = "cs" := by decide
  have hftl : ofPoints (['.', 'f', 't', 'l'].map Point.char) = ".ftl" := by decide
  have hdir : Path.written "i18n" = "i18n" := by decide +kernel
  -- the names are sorted by a recursion the kernel does not unfold, so the listing is computed
  -- up to the sort, and the two names are already in order
  have hlist : ((({} : Disk).write "i18n/ cs.ftl" [] none).write "i18n/cs.ftl" [] none).list
      "i18n" = [" cs.ftl", "cs.ftl"] := by
    unfold Disk.list
    rw [show ((({} : Disk).write "i18n/ cs.ftl" [] none).write "i18n/cs.ftl" [] none).locate
      "i18n" = .ok ["tmp", "tmpq8z3k1w0", "i18n"] by decide +kernel]
    dsimp only
    rw [if_pos (by decide +kernel),
      show (List.filterMap _ _ : List String).eraseDups = [" cs.ftl", "cs.ftl"] by decide +kernel]
    exact List.mergeSort_of_pairwise (by decide +kernel)
  refine ⟨?_, ?_⟩
  · have hcs_file := h.2.2.1 (by decide) (by decide) (by decide) (by decide +kernel) (by decide)
      (by decide +kernel)
    rwa [hcs, hftl] at hcs_file
  · obtain ⟨t, ht, hget, -⟩ := h.2.2.2.2.1 (by decide +kernel)
      (by rw [hdir, entriesIn, hlist]; decide +kernel)
    rw [hdir] at hget
    exact ⟨t, ht, hget "cs"⟩

/-- The name of a path is what follows its last slash, so a suffix that holds a slash names no
locale: `i18n/cs/x` is no file of locale `cs` for the suffix `/x`. -/
theorem slashed_suffix_names_no_locale :
    "/x" ≠ "" ∧ "cs" ≠ "" ∧ trim "cs" = "cs" ∧ '/' ∉ "cs".toList ∧ ¬ "cs".startsWith "." ∧
      localeOf ("i18n" ++ "/" ++ "cs" ++ "/x") "/x" = none :=
  ⟨by decide, by decide, by decide +kernel, by decide, by decide +kernel, by decide⟩

end Phrasebook.Source
