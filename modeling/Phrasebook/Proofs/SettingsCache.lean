import Phrasebook.Proofs.SettingsValidation
import Phrasebook.Settings.File

/-!
Loading a settings file again and again, while the disk changes between loads.

A settings file keeps the settings of its last good load with the file's stamp then: its
modification time and size. A load looks the path up; when the stamp is the one kept, the kept
settings are given again without reading. Otherwise the file is read afresh (`readSettings`):
its JSON object, with a catalog directory that is a text not blank resolved against the folder
of the file, read as settings. A load that fails leaves the file as it was, so what a file keeps
after any run of loads is the settings of the last good load with the stamp of the file it read
(`kept_loads`). `step` is one load, and `loads` a run of them, each on the disk as it is then.

A failed load is mostly the settings file's own fault (`IsFileFault`): a configuration fault
whose data is the path, with the issues when the object breaks the rules of settings. Three
failures of the system escape instead (`Escapes`): a path that cannot be looked up for another
reason than that nothing lies there (it goes through a file, or holds a character no path may
hold), JSON that nests deeper than the reader allows, and a catalog directory that cannot be
resolved. So a path through a file fails with the system's `NotADirectoryError`
(`load_through_file_escapes`).

Main statement: `loads_cache_coherent`.
-/

namespace Phrasebook

namespace SettingsFile

/-! ### Faults -/

/-- A fault of the settings file: a configuration fault whose data is the path, or the path and
the issues of an object that breaks the rules of settings. -/
def IsFileFault (path : String) (e : Fault) : Prop :=
  (∃ msg, e = fault path msg) ∨ ∃ is, e = invalidSettings path is

/-- Why a load of the settings file at `path` may let a fault of the system escape: the path
cannot be looked up for another reason than that nothing lies there, its JSON nests deeper than
`room`, or the catalog directory it names cannot be resolved. -/
def Escapes (room : Nat) (d : Disk) (path : String) : Prop :=
  (∃ e, d.stat path = .error e ∧ e ≠ .notFound) ∨
  (∃ bs t c, d.readBytes path = .ok bs ∧ Text.readText bs = .ok t ∧
    Json.readWithin room t = .error (.nesting c)) ∨
  (∃ fs dir e, readObject room d path = .ok fs ∧ Table.lookup fs "catalog_dir" = some (.str dir) ∧
    (Text.trim dir).isEmpty = false ∧ resolveDir d path (Text.trim dir) = .error e)

theorem IsFileFault.className {path : String} {e : Fault} (h : IsFileFault path e) :
    e.className = "ConfigurationError" := by
  obtain ⟨msg, rfl⟩ | ⟨is, rfl⟩ := h <;> rfl

theorem errno_not_fileFault (er : Errno) (path p : String) : ¬ IsFileFault path (er.fault p) := by
  intro h
  have hc := h.className
  cases er <;> simp [Errno.fault, Fault.className, SystemKind.name] at hc

theorem recursion_not_fileFault (path : String) (m : Option Value) :
    ¬ IsFileFault path (.system .recursion m) := by
  intro h
  have hc := h.className
  simp [Fault.className, SystemKind.name] at hc

/-! ### Reading the object -/


theorem fileBytes_error {d : Disk} {p : String} {e : Fault} (h : fileBytes d p = .error e) :
    ∃ msg, e = fault p msg := by
  unfold fileBytes at h
  cases hb : d.readBytes p with
  | ok bs => rw [hb] at h; cases h
  | error er =>
    rw [hb] at h
    cases er <;> (cases h; exact ⟨_, rfl⟩)

theorem readBytes_of_fileBytes {d : Disk} {p : String} {bs : List Nat} (h : fileBytes d p = .ok bs) :
    d.readBytes p = .ok bs := by
  unfold fileBytes at h
  cases hb : d.readBytes p with
  | ok bs' => rw [hb] at h; cases h; rfl
  | error er =>
    rw [hb] at h
    cases er <;> cases h

theorem fileText_error {p : String} {bs : List Nat} {e : Fault} (h : fileText p bs = .error e) :
    ∃ msg, e = fault p msg := by
  unfold fileText at h
  cases ht : Text.readText bs with
  | ok t => rw [ht] at h; cases h
  | error de => rw [ht] at h; cases h; exact ⟨_, rfl⟩

theorem fileText_eq_ok {p : String} {bs : List Nat} {t : String} :
    fileText p bs = .ok t ↔ Text.readText bs = .ok t := by
  unfold fileText
  cases Text.readText bs <;> simp [Except.mapError]

theorem objectOf_error {room : Nat} {p t : String} {e : Fault} (h : objectOf room p t = .error e) :
    (∃ msg, e = fault p msg) ∨
      ∃ c m, Json.readWithin room t = .error (.nesting c) ∧ e = .system .recursion m := by
  unfold objectOf at h
  cases hj : Json.readWithin room t with
  | ok v =>
    rw [hj] at h
    cases v <;> cases h <;> exact Or.inl ⟨_, rfl⟩
  | error je =>
    rw [hj] at h
    cases je with
    | nesting c => cases h; exact Or.inr ⟨c, _, rfl, rfl⟩
    | _ => cases h; exact Or.inl ⟨_, rfl⟩

theorem objectOf_of_nesting {room : Nat} {p t c : String}
    (h : Json.readWithin room t = .error (.nesting c)) :
    ∃ m, objectOf room p t = .error (.system .recursion m) := by
  unfold objectOf
  rw [h]
  exact ⟨_, rfl⟩

theorem readObject_eq_ok {room : Nat} {d : Disk} {p : String} {fs : List (String × Value)} :
    readObject room d p = .ok fs ↔
      ∃ bs t, d.readBytes p = .ok bs ∧ Text.readText bs = .ok t ∧ objectOf room p t = .ok fs := by
  constructor
  · intro h
    unfold readObject at h
    obtain ⟨bs, hb, h⟩ := except_bind_eq_ok h
    obtain ⟨t, ht, h⟩ := except_bind_eq_ok h
    exact ⟨bs, t, readBytes_of_fileBytes hb, fileText_eq_ok.1 ht, h⟩
  · rintro ⟨bs, t, hb, ht, ho⟩
    have hb' : fileBytes d p = .ok bs := by simp only [fileBytes, hb]
    simp only [readObject, hb', fileText_eq_ok.2 ht, ho, bind, Except.bind]

theorem readObject_error {room : Nat} {d : Disk} {p : String} {e : Fault}
    (h : readObject room d p = .error e) :
    IsFileFault p e ∨ ∃ bs t c m, d.readBytes p = .ok bs ∧ Text.readText bs = .ok t ∧
      Json.readWithin room t = .error (.nesting c) ∧ e = .system .recursion m := by
  unfold readObject at h
  rcases except_bind_eq_error h with hb | ⟨bs, hb, h⟩
  · exact Or.inl (Or.inl (fileBytes_error hb))
  rcases except_bind_eq_error h with ht | ⟨t, ht, h⟩
  · exact Or.inl (Or.inl (fileText_error ht))
  rcases objectOf_error h with he | ⟨c, m, hj, rfl⟩
  · exact Or.inl (Or.inl he)
  · exact Or.inr ⟨bs, t, c, m, readBytes_of_fileBytes hb, fileText_eq_ok.1 ht, hj, rfl⟩

theorem readObject_of_nesting {room : Nat} {d : Disk} {p t c : String} {bs : List Nat}
    (hb : d.readBytes p = .ok bs) (ht : Text.readText bs = .ok t)
    (hj : Json.readWithin room t = .error (.nesting c)) :
    ∃ m, readObject room d p = .error (.system .recursion m) := by
  obtain ⟨m, ho⟩ := objectOf_of_nesting (p := p) hj
  have hb' : fileBytes d p = .ok bs := by simp only [fileBytes, hb]
  exact ⟨m, by simp only [readObject, hb', fileText_eq_ok.2 ht, ho, bind, Except.bind]⟩

theorem stat_of_readBytes {d : Disk} {p : String} {bs : List Nat} (h : d.readBytes p = .ok bs) :
    ∃ t, d.stat p = .ok (.file bs t) := by
  unfold Disk.readBytes at h
  obtain ⟨n, hs, h⟩ := except_bind_eq_ok h
  cases n with
  | file bs' t => cases h; exact ⟨t, hs⟩
  | folder t => cases h

theorem stat_of_readObject {room : Nat} {d : Disk} {p : String} {fs : List (String × Value)}
    (h : readObject room d p = .ok fs) : ∃ bs t, d.stat p = .ok (.file bs t) := by
  obtain ⟨bs, _, hb, _⟩ := readObject_eq_ok.1 h
  exact ⟨bs, stat_of_readBytes hb⟩

/-! ### The catalog directory -/

theorem withDir_error {d : Disk} {p : String} {fs : List (String × Value)} {e : Fault}
    (h : withDir d p fs = .error e) :
    ∃ dir er, Table.lookup fs "catalog_dir" = some (.str dir) ∧ (Text.trim dir).isEmpty = false ∧
      resolveDir d p (Text.trim dir) = .error er ∧ e = er.fault (Text.trim dir) := by
  unfold withDir at h
  split at h
  · next dir hl =>
    dsimp only at h
    split at h
    · cases h
    · next hne =>
      split at h
      · cases h
      · next er hr =>
        cases h
        exact ⟨dir, er, hl, by simpa using hne, hr, rfl⟩
  · cases h

theorem withDir_of_unresolved {d : Disk} {p dir : String} {fs : List (String × Value)} {er : Errno}
    (hl : Table.lookup fs "catalog_dir" = some (.str dir)) (hb : (Text.trim dir).isEmpty = false)
    (hr : resolveDir d p (Text.trim dir) = .error er) :
    withDir d p fs = .error (er.fault (Text.trim dir)) := by
  simp only [withDir, hl, hb, hr, Bool.false_eq_true, if_false]

/-- The members `fs'` are `fs` with the catalog directory resolved against the folder of the file
at `path`: one given as a text that is not blank is replaced by what it resolves to, and
otherwise the members stay as they are. -/
def Resolved (d : Disk) (path : String) (fs fs' : List (String × Value)) : Prop :=
  (∃ dir r, Table.lookup fs "catalog_dir" = some (.str dir) ∧ (Text.trim dir).isEmpty = false ∧
      resolveDir d path (Text.trim dir) = .ok r ∧ fs' = Table.assign fs "catalog_dir" (.str r)) ∨
    ((∀ dir, Table.lookup fs "catalog_dir" = some (.str dir) → (Text.trim dir).isEmpty = true) ∧
      fs' = fs)

theorem withDir_ok {d : Disk} {p : String} {fs fs' : List (String × Value)}
    (h : withDir d p fs = .ok fs') : Resolved d p fs fs' := by
  unfold withDir at h
  split at h
  · next dir hl =>
    dsimp only at h
    split at h
    · next hb =>
      -- a blank directory leaves the members as they are
      cases h
      refine Or.inr ⟨fun dir' hl' => ?_, rfl⟩
      rw [hl, Option.some.injEq, Value.str.injEq] at hl'
      exact hl' ▸ hb
    · next hb =>
      split at h
      · next r hr =>
        cases h
        exact Or.inl ⟨dir, r, hl, by simpa using hb, hr, rfl⟩
      · cases h
  · next hl =>
    cases h
    exact Or.inr ⟨fun dir hl' => absurd hl' (hl dir), rfl⟩

/-! ### Reading the settings afresh -/

theorem readSettings_ok {room : Nat} {d : Disk} {p : String} {s : Settings}
    (h : readSettings room d p = .ok s) :
    ∃ fs fs', readObject room d p = .ok fs ∧ withDir d p fs = .ok fs' ∧ Settings.ofFields fs' = .ok s := by
  unfold readSettings at h
  obtain ⟨fs, ho, h⟩ := except_bind_eq_ok h
  obtain ⟨fs', hw, h⟩ := except_bind_eq_ok h
  refine ⟨fs, fs', ho, hw, ?_⟩
  cases hf : Settings.ofFields fs' with
  | ok s' => rw [hf] at h; cases h; rfl
  | error is => rw [hf] at h; cases h

theorem readSettings_error {room : Nat} {d : Disk} {p : String} {e : Fault}
    (h : readSettings room d p = .error e) :
    readObject room d p = .error e ∨
      (∃ fs, readObject room d p = .ok fs ∧ withDir d p fs = .error e) ∨
      ∃ fs fs' is, readObject room d p = .ok fs ∧ withDir d p fs = .ok fs' ∧
        Settings.ofFields fs' = .error is ∧ e = invalidSettings p is := by
  unfold readSettings at h
  rcases except_bind_eq_error h with ho | ⟨fs, ho, h⟩
  · exact Or.inl ho
  rcases except_bind_eq_error h with hw | ⟨fs', hw, h⟩
  · exact Or.inr (Or.inl ⟨fs, ho, hw⟩)
  -- the members resolved: the fault is the issues of the reading, if any
  cases hf : Settings.ofFields fs' with
  | ok s => rw [hf] at h; cases h
  | error is => rw [hf] at h; cases h; exact Or.inr (Or.inr ⟨fs, fs', is, ho, hw, hf, rfl⟩)

/-! ### What escapes -/

theorem escapes_of_stat {room : Nat} {d : Disk} {p : String} {er : Errno}
    (hs : d.stat p = .error er) (hne : er ≠ .notFound) : Escapes room d p :=
  Or.inl ⟨er, hs, hne⟩

theorem not_escapes_of_notFound {room : Nat} {d : Disk} {p : String}
    (hs : d.stat p = .error .notFound) : ¬ Escapes room d p := by
  rintro (⟨er, hs', hne⟩ | ⟨bs, _, _, hb, _⟩ | ⟨fs, _, _, ho, _⟩)
  · rw [hs] at hs'
    cases hs'
    exact hne rfl
  · obtain ⟨t, hs'⟩ := stat_of_readBytes hb
    rw [hs] at hs'
    cases hs'
  · obtain ⟨bs, t, hs'⟩ := stat_of_readObject ho
    rw [hs] at hs'
    cases hs'

theorem not_escapes_of_withDir {room : Nat} {d : Disk} {p : String} {fs fs' : List (String × Value)}
    (ho : readObject room d p = .ok fs) (hw : withDir d p fs = .ok fs') : ¬ Escapes room d p := by
  obtain ⟨bs, t, hs⟩ := stat_of_readObject ho
  rintro (⟨er, hs', -⟩ | ⟨bs', t', c, hb, ht, hj⟩ | ⟨fs'', dir, er, ho', hl, hb, hr⟩)
  · rw [hs] at hs'
    cases hs'
  · obtain ⟨m, ho'⟩ := readObject_of_nesting hb ht hj
    rw [ho] at ho'
    cases ho'
  · rw [ho] at ho'
    cases ho'
    rw [withDir_of_unresolved hl hb hr] at hw
    cases hw

theorem not_escapes_of_readObject {room : Nat} {d : Disk} {p : String} {n : Node} {e : Fault}
    (hs : d.stat p = .ok n) (ho : readObject room d p = .error e) (he : IsFileFault p e) :
    ¬ Escapes room d p := by
  rintro (⟨er, hs', -⟩ | ⟨bs, t, c, hb, ht, hj⟩ | ⟨fs, _, _, ho', _⟩)
  · rw [hs] at hs'
    cases hs'
  · obtain ⟨m, ho'⟩ := readObject_of_nesting hb ht hj
    rw [ho] at ho'
    cases ho'
    exact recursion_not_fileFault p m he
  · rw [ho] at ho'
    cases ho'

/-! ### One load -/

/-- The stamp of what a path names now, when it is a file. -/
def stampAt (d : Disk) (path : String) : Option Stamp := (d.stat path).toOption.bind stampOf

theorem stampAt_of_stat {d : Disk} {p : String} {n : Node} (h : d.stat p = .ok n) :
    stampAt d p = stampOf n := by
  simp only [stampAt, h, Except.toOption, Option.bind_some]

theorem stampAt_eq_some {d : Disk} {p : String} {st : Stamp} (h : stampAt d p = some st) :
    ∃ n, d.stat p = .ok n ∧ stampOf n = some st := by
  unfold stampAt at h
  cases hs : d.stat p with
  | error e => simp [hs, Except.toOption] at h
  | ok n => exact ⟨n, rfl, by simpa [hs, Except.toOption] using h⟩

theorem nodeOf_eq_ok {d : Disk} {p : String} {n : Node} : nodeOf d p = .ok n ↔ d.stat p = .ok n := by
  unfold nodeOf
  cases d.stat p with
  | ok n' => simp
  | error er => cases er <;> simp

theorem nodeOf_error {d : Disk} {p : String} {e : Fault} (h : nodeOf d p = .error e) :
    (d.stat p = .error .notFound ∧ e = fault p ("Settings file not found: " ++ p)) ∨
      ∃ er, d.stat p = .error er ∧ er ≠ .notFound ∧ e = er.fault p := by
  unfold nodeOf at h
  cases hs : d.stat p with
  | ok n => rw [hs] at h; cases h
  | error er =>
    rw [hs] at h
    cases er with
    | notFound => cases h; exact Or.inl ⟨rfl, rfl⟩
    | _ => cases h; exact Or.inr ⟨_, rfl, nofun, rfl⟩

theorem cachedFor_eq_some {f : SettingsFile} {n : Node} {s : Settings} :
    f.cachedFor n = some s ↔ ∃ st, f.kept = some (st, s) ∧ stampOf n = some st := by
  unfold cachedFor
  cases f.kept with
  | none => simp
  | some k =>
    obtain ⟨st, s'⟩ := k
    cases stampOf n with
    | none => simp
    | some st' =>
      by_cases h : st = st' <;> simp [h, eq_comm]

theorem loadWithin_of_nodeOf_error {room : Nat} {d : Disk} {f : SettingsFile} {e : Fault}
    (h : nodeOf d f.path = .error e) : loadWithin room d f = .error e := by
  simp only [loadWithin, h, bind, Except.bind]

theorem loadWithin_of_cached {room : Nat} {d : Disk} {f : SettingsFile} {n : Node} {s : Settings}
    (hn : nodeOf d f.path = .ok n) (hc : f.cachedFor n = some s) :
    loadWithin room d f = .ok (s, f, true) := by
  simp only [loadWithin, hn, hc, bind, Except.bind, pure, Except.pure]

theorem loadWithin_of_fresh {room : Nat} {d : Disk} {f : SettingsFile} {n : Node}
    (hn : nodeOf d f.path = .ok n) (hc : f.cachedFor n = none) :
    loadWithin room d f = (readSettings room d f.path).map fun s =>
      (s, { f with kept := (stampOf n).map fun st => (st, s) }, false) := by
  simp only [loadWithin, hn, hc, bind, Except.bind]
  cases readSettings room d f.path <;> rfl

theorem loadWithin_error {room : Nat} {d : Disk} {f : SettingsFile} {e : Fault}
    (h : loadWithin room d f = .error e) :
    nodeOf d f.path = .error e ∨
      ∃ n, nodeOf d f.path = .ok n ∧ f.cachedFor n = none ∧ readSettings room d f.path = .error e := by
  cases hn : nodeOf d f.path with
  | error e' => rw [loadWithin_of_nodeOf_error hn] at h; cases h; exact Or.inl rfl
  | ok n =>
    cases hc : f.cachedFor n with
    | some s => rw [loadWithin_of_cached hn hc] at h; cases h
    | none =>
      rw [loadWithin_of_fresh hn hc] at h
      cases hr : readSettings room d f.path with
      | ok s => rw [hr] at h; cases h
      | error e' => rw [hr] at h; cases h; exact Or.inr ⟨n, rfl, hc, rfl⟩

/-- A load that succeeds gives the kept settings, with the file as it was, or settings read
afresh, with the file keeping them and the stamp of the node read. -/
theorem loadWithin_ok {room : Nat} {d : Disk} {f f' : SettingsFile} {s : Settings} {c : Bool}
    (h : loadWithin room d f = .ok (s, f', c)) :
    ∃ n, d.stat f.path = .ok n ∧
      ((f.cachedFor n = some s ∧ f' = f ∧ c = true) ∨
        (f.cachedFor n = none ∧ readSettings room d f.path = .ok s ∧
          f' = { f with kept := (stampOf n).map fun st => (st, s) } ∧ c = false)) := by
  cases hn : nodeOf d f.path with
  | error e => rw [loadWithin_of_nodeOf_error hn] at h; cases h
  | ok n =>
    refine ⟨n, nodeOf_eq_ok.1 hn, ?_⟩
    cases hc : f.cachedFor n with
    | some s' =>
      rw [loadWithin_of_cached hn hc] at h
      cases h
      exact Or.inl ⟨rfl, rfl, rfl⟩
    | none =>
      rw [loadWithin_of_fresh hn hc] at h
      cases hr : readSettings room d f.path with
      | error e => rw [hr] at h; cases h
      | ok s' => rw [hr] at h; cases h; exact Or.inr ⟨rfl, rfl, rfl, rfl⟩

theorem loadWithin_error_iff {room : Nat} {d : Disk} {f : SettingsFile} {e : Fault}
    (h : loadWithin room d f = .error e) : IsFileFault f.path e ↔ ¬ Escapes room d f.path := by
  rcases loadWithin_error h with hn | ⟨n, hn, -, hr⟩
  · rcases nodeOf_error hn with ⟨hs, rfl⟩ | ⟨er, hs, hne, rfl⟩
    · exact iff_of_true (Or.inl ⟨_, rfl⟩) (not_escapes_of_notFound hs)
    · exact iff_of_false (errno_not_fileFault er _ _) (not_not.2 (escapes_of_stat hs hne))
  · have hs := nodeOf_eq_ok.1 hn
    rcases readSettings_error hr with ho | ⟨fs, ho, hw⟩ | ⟨fs, fs', is, ho, hw, -, rfl⟩
    · rcases readObject_error ho with he | ⟨bs, t, c, m, hb, ht, hj, rfl⟩
      · exact iff_of_true he (not_escapes_of_readObject hs ho he)
      · exact iff_of_false (recursion_not_fileFault _ m)
          (not_not.2 (Or.inr (Or.inl ⟨bs, t, c, hb, ht, hj⟩)))
    · obtain ⟨dir, er, hl, hb, hres, rfl⟩ := withDir_error hw
      exact iff_of_false (errno_not_fileFault er _ _)
        (not_not.2 (Or.inr (Or.inr ⟨fs, dir, er, ho, hl, hb, hres⟩)))
    · exact iff_of_true (Or.inr ⟨is, rfl⟩) (not_escapes_of_withDir ho hw)

theorem readSettings_of_invalid {room : Nat} {d : Disk} {p : String} {fs fs' : List (String × Value)}
    {is : List Issue} (ho : readObject room d p = .ok fs) (hw : withDir d p fs = .ok fs')
    (hf : Settings.ofFields fs' = .error is) :
    readSettings room d p = .error (invalidSettings p is) := by
  simp only [readSettings, ho, hw, hf, bind, Except.bind, throw, throwThe, MonadExceptOf.throw]

/-! ### Loads one after another -/

/-- One load on a disk: what it answers, the settings and whether they are the kept ones, and
the file after it. A load that fails leaves the file as it was. -/
def step (room : Nat) (f : SettingsFile) (d : Disk) :
    Except Fault (Settings × Bool) × SettingsFile :=
  match f.loadWithin room d with
  | .ok (s, f', c) => (.ok (s, c), f')
  | .error e => (.error e, f)

/-- The file after loads one after another, each on the disk as it is then. -/
def loads (room : Nat) (f : SettingsFile) (ds : List Disk) : SettingsFile :=
  ds.foldl (fun f d => (step room f d).2) f

/-- What each of loads one after another answered, with the disk it was made on. -/
def history (room : Nat) (f : SettingsFile) :
    List Disk → List (Disk × Except Fault (Settings × Bool))
  | [] => []
  | d :: ds => (d, (step room f d).1) :: history room (step room f d).2 ds

/-- What a file at `path` keeps after a load on a disk that answered `a`: settings read afresh,
with the stamp of the file they were read from, or else what it kept. -/
def keep (path : String) (kept : Option (Stamp × Settings)) (d : Disk) :
    Except Fault (Settings × Bool) → Option (Stamp × Settings)
  | .ok (s, false) => (stampAt d path).map fun st => (st, s)
  | _ => kept

theorem step_of_ok {room : Nat} {d : Disk} {f f' : SettingsFile} {s : Settings} {c : Bool}
    (h : loadWithin room d f = .ok (s, f', c)) : step room f d = (.ok (s, c), f') := by
  simp only [step, h]

theorem step_of_error {room : Nat} {d : Disk} {f : SettingsFile} {e : Fault}
    (h : loadWithin room d f = .error e) : step room f d = (.error e, f) := by
  simp only [step, h]

theorem step_file (room : Nat) (f : SettingsFile) (d : Disk) :
    (step room f d).2 = { f with kept := keep f.path f.kept d (step room f d).1 } := by
  cases hl : loadWithin room d f with
  | error e => rw [step_of_error hl]; rfl
  | ok r =>
    obtain ⟨s, f', c⟩ := r
    rw [step_of_ok hl]
    obtain ⟨n, hs, ⟨-, rfl, rfl⟩ | ⟨-, -, rfl, rfl⟩⟩ := loadWithin_ok hl
    · rfl
    · simp only [keep, stampAt_of_stat hs]

theorem path_step (room : Nat) (f : SettingsFile) (d : Disk) : (step room f d).2.path = f.path := by
  rw [step_file]

theorem kept_step (room : Nat) (f : SettingsFile) (d : Disk) :
    (step room f d).2.kept = keep f.path f.kept d (step room f d).1 := by
  rw [step_file]

/-- Over loads one after another a file keeps its path, and keeps the settings of the last load
that read it afresh, with the stamp then; until such a load, what it kept. -/
theorem kept_loads (room : Nat) (f : SettingsFile) (ds : List Disk) :
    (loads room f ds).path = f.path ∧
      (loads room f ds).kept = (history room f ds).foldl (fun k a => keep f.path k a.1 a.2) f.kept := by
  induction ds generalizing f with
  | nil => exact ⟨rfl, rfl⟩
  | cons d ds ih =>
    obtain ⟨hp, hk⟩ := ih (step room f d).2
    rw [path_step] at hp
    rw [path_step, kept_step] at hk
    exact ⟨hp, hk⟩

theorem step_error {room : Nat} {d : Disk} {f : SettingsFile} {e : Fault}
    (h : (step room f d).1 = .error e) : (step room f d).2 = f ∧ loadWithin room d f = .error e := by
  cases hl : loadWithin room d f with
  | error e' => rw [step_of_error hl] at h ⊢; cases h; exact ⟨rfl, rfl⟩
  | ok r => rw [step_of_ok hl] at h; cases h

theorem step_ok {room : Nat} {d : Disk} {f : SettingsFile} {s : Settings} {c : Bool}
    (h : (step room f d).1 = .ok (s, c)) : loadWithin room d f = .ok (s, (step room f d).2, c) := by
  cases hl : loadWithin room d f with
  | error e => rw [step_of_error hl] at h; cases h
  | ok r =>
    obtain ⟨s', f', c'⟩ := r
    rw [step_of_ok hl] at h ⊢
    cases h
    rfl

theorem step_of_escapes {room : Nat} {d : Disk} {f : SettingsFile} (h : Escapes room d f.path) :
    (∃ s, (step room f d).1 = .ok (s, true)) ∨
      ∃ e, (step room f d).1 = .error e ∧ ¬ IsFileFault f.path e := by
  cases hl : loadWithin room d f with
  | error e =>
    rw [step_of_error hl]
    exact Or.inr ⟨e, rfl, fun he => (loadWithin_error_iff hl).1 he h⟩
  | ok r =>
    obtain ⟨s, f', c⟩ := r
    rw [step_of_ok hl]
    obtain ⟨n, -, ⟨-, -, rfl⟩ | ⟨-, hr, -, -⟩⟩ := loadWithin_ok hl
    · exact Or.inl ⟨s, rfl⟩
    · obtain ⟨fs, fs', ho, hw, -⟩ := readSettings_ok hr
      exact absurd h (not_escapes_of_withDir ho hw)

/-- A load gives the kept settings exactly when the file is there with the stamp kept with
them. -/
theorem step_cached_iff {room : Nat} {d : Disk} {f : SettingsFile} {s : Settings} :
    (step room f d).1 = .ok (s, true) ↔ ∃ st, f.kept = some (st, s) ∧ stampAt d f.path = some st := by
  constructor
  · intro h
    obtain ⟨n, hs, ⟨hc, -, -⟩ | ⟨-, -, -, hc⟩⟩ := loadWithin_ok (step_ok h)
    · obtain ⟨st, hk, hst⟩ := cachedFor_eq_some.1 hc
      exact ⟨st, hk, (stampAt_of_stat hs).trans hst⟩
    · cases hc
  · rintro ⟨st, hk, hst⟩
    obtain ⟨n, hs, hn⟩ := stampAt_eq_some hst
    rw [step_of_ok (loadWithin_of_cached (nodeOf_eq_ok.2 hs) (cachedFor_eq_some.2 ⟨st, hk, hn⟩))]

/-- A load that reads the file afresh does so because the file's stamp is not the one kept,
reads the object with its catalog directory resolved as settings, and keeps them with the
stamp of the file. -/
theorem step_fresh {room : Nat} {d : Disk} {f : SettingsFile} {s : Settings}
    (h : (step room f d).1 = .ok (s, false)) :
    (∀ st s', f.kept = some (st, s') → stampAt d f.path ≠ some st) ∧
      (∃ fs fs', readObject room d f.path = .ok fs ∧ Resolved d f.path fs fs' ∧
        Settings.ofValue (.record fs') = .ok s) ∧
      ∃ st, stampAt d f.path = some st ∧ (step room f d).2.kept = some (st, s) := by
  obtain ⟨n, hs, ⟨-, -, hc⟩ | ⟨hc, hr, hafter, -⟩⟩ := loadWithin_ok (step_ok h)
  · cases hc
  obtain ⟨fs, fs', ho, hw, hf⟩ := readSettings_ok hr
  -- the file was read, so the node is a file, and its stamp is kept
  obtain ⟨bs, t, hfile⟩ := stat_of_readObject ho
  rw [hs] at hfile
  cases hfile
  refine ⟨fun st s' hk hst => ?_, ⟨fs, fs', ho, withDir_ok hw, ?_⟩, ⟨Disk.seconds t, bs.length⟩,
    ?_, ?_⟩
  · rw [stampAt_of_stat hs] at hst
    rw [cachedFor_eq_some.2 ⟨st, hk, hst⟩] at hc
    cases hc
  · rw [Settings.ofValue_record_eq, hf]
    rfl
  · rw [stampAt_of_stat hs]
    rfl
  · rw [hafter]
    rfl

theorem step_of_invalid {room : Nat} {d : Disk} {f : SettingsFile} {fs fs' : List (String × Value)}
    {is : List Issue} (ho : readObject room d f.path = .ok fs) (hw : withDir d f.path fs = .ok fs')
    (hf : Settings.ofValue (.record fs') = .error (.invalid is)) :
    (∃ s, (step room f d).1 = .ok (s, true)) ∨
      (step room f d).1 = .error (invalidSettings f.path is) := by
  have hf' : Settings.ofFields fs' = .error is := by
    rw [Settings.ofValue_record_eq] at hf
    cases hof : Settings.ofFields fs' with
    | ok s => rw [hof] at hf; cases hf
    | error is' => rw [hof] at hf; cases hf; rfl
  obtain ⟨bs, t, hs⟩ := stat_of_readObject ho
  cases hc : f.cachedFor (.file bs t) with
  | some s =>
    exact Or.inl ⟨s, by rw [step_of_ok (loadWithin_of_cached (nodeOf_eq_ok.2 hs) hc)]⟩
  | none =>
    have hl : loadWithin room d f = .error (invalidSettings f.path is) := by
      rw [loadWithin_of_fresh (nodeOf_eq_ok.2 hs) hc, readSettings_of_invalid ho hw hf']
      rfl
    exact Or.inr (by rw [step_of_error hl])

/-! ### The main statement -/

/-- Loads of a settings file one after another, while the disk changes between them, are
coherent with what the file keeps. After any loads `pre` from a file `f`, the file keeps the
settings of the last load that read it afresh, with the stamp of the file then. The next load,
on a disk `d`:
* when it fails, leaves the file as it was, and fails for a fault of the settings file itself
  exactly when nothing escapes;
* when something escapes, gives the kept settings or fails with a fault of the system;
* gives the kept settings exactly when the file is there with the stamp kept with them;
* otherwise reads the object afresh, its catalog directory resolved, as settings, and keeps them
  with the file's stamp, or fails with the issues of an object that breaks the rules. -/
theorem loads_cache_coherent (room : Nat) (f : SettingsFile) (pre : List Disk) (d : Disk) :
    let g := loads room f pre
    let a := (step room g d).1
    g.path = f.path ∧
    g.kept = (history room f pre).foldl (fun k a => keep f.path k a.1 a.2) f.kept ∧
    (∀ e, a = .error e → (step room g d).2 = g ∧ (IsFileFault f.path e ↔ ¬ Escapes room d f.path)) ∧
    (Escapes room d f.path →
      (∃ s, a = .ok (s, true)) ∨ ∃ e, a = .error e ∧ ¬ IsFileFault f.path e) ∧
    (∀ s, a = .ok (s, true) ↔ ∃ st, g.kept = some (st, s) ∧ stampAt d f.path = some st) ∧
    (∀ s, a = .ok (s, false) →
      (∀ st s', g.kept = some (st, s') → stampAt d f.path ≠ some st) ∧
      (∃ fs fs', readObject room d f.path = .ok fs ∧ Resolved d f.path fs fs' ∧
        Settings.ofValue (.record fs') = .ok s) ∧
      ∃ st, stampAt d f.path = some st ∧ (step room g d).2.kept = some (st, s)) ∧
    (∀ fs fs' is, readObject room d f.path = .ok fs → withDir d f.path fs = .ok fs' →
      Settings.ofValue (.record fs') = .error (.invalid is) →
      (∃ s, a = .ok (s, true)) ∨ a = .error (invalidSettings f.path is)) := by
  intro g a
  obtain ⟨hp, hk⟩ := kept_loads room f pre
  refine ⟨hp, hk, fun e he => ?_, fun h => ?_, fun s => ?_, fun s hs => ?_,
    fun fs fs' is ho hw hf => ?_⟩
  -- each part is a fact of one load, about the file the loads before left
  all_goals rw [← hp]
  · obtain ⟨hsame, hl⟩ := step_error he
    exact ⟨hsame, loadWithin_error_iff hl⟩
  · exact step_of_escapes (hp ▸ h)
  · exact step_cached_iff
  · exact step_fresh hs
  · rw [← hp] at ho hw
    exact step_of_invalid ho hw hf

/-- A settings file looked up through a file: the system's fault escapes the load. -/
theorem load_through_file_escapes :
    let d := ({} : Disk).write "settings.json"
      [123, 34, 99, 97, 116, 97, 108, 111, 103, 95, 100, 105, 114, 34, 58, 32, 34, 105, 49, 56,
        110, 34, 125] none
    let f : SettingsFile := { path := "settings.json/settings.json" }
    ∃ e, f.load d = .error e ∧ e.className = "NotADirectoryError" ∧
      Escapes Json.maxNesting d f.path := by
  intro d f
  have hrun : ((f.load d).map fun _ => ()).mapError Fault.className = .error "NotADirectoryError" := by
    decide +kernel
  cases hl : f.load d with
  | ok r => rw [hl] at hrun; cases hrun
  | error e =>
    rw [hl] at hrun
    have hc : e.className = "NotADirectoryError" := Except.error.inj hrun
    have hnot : ¬ IsFileFault f.path e := fun he => by
      rw [he.className] at hc
      exact absurd hc (by decide)
    exact ⟨e, rfl, hc, not_not.1 (mt (loadWithin_error_iff hl).2 hnot)⟩

end SettingsFile

end Phrasebook
