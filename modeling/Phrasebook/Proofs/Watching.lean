import Phrasebook.Proofs.FileLoading
import Mathlib.Algebra.Order.Ring.Rat

/-!
A watcher over a run of file events.

Each event is delivered with the disk as it is when the event happens, and the registry each
event leaves is the one the next is handled with (`runEvents`). What a run should do is said
without the watcher's table of handled times: an event asks for a reload (`ask`) when it
writes, and does not remove, a file that lies directly in the folder under a name that gives a
locale, that exists, and whose time is fresh for its path (`Fresh`): later than zero and than
every time accepted for that path before. The reloads a run asks for (`plan`) act on the
registry as the sequential model's reloads of the files' texts, and a file that does not read
changes nothing (`Request.apply`).

The watcher keeps only the last time it handled for each path, and zero for a path it never
handled. `Tracks` is the invariant that makes the two agree: a time is later than the one kept
exactly when it is fresh. `Tracks.accept` is its step. `onEvent_handled` says what handling one
event does against what the event asks for, and `runEvents_ends` follows the run by induction
on the events.

Main statement: `watcher_reloads_fresh_files`. A file whose time is zero or less is never
reloaded, not even on its first event (`zero_time_never_reloaded`).
-/

namespace Phrasebook.Watcher

open Registry

/-- Handles events one after another, each with the disk it was delivered with. -/
def runEvents : Watcher → Registry → List (Disk × FileEvent) → Act (Watcher × Registry)
  | w, r, [] => pure (w, r)
  | w, r, (d, e) :: rest => do
    let (w', r') ← w.onEvent d r e
    runEvents w' r' rest

/-- A time is fresh for a path when it is later than zero and than every time accepted for the
path before. -/
def Fresh (hist : List (String × Rat)) (p : String) (t : Rat) : Prop :=
  0 < t ∧ ∀ q ∈ hist, q.1 = p → q.2 < t

instance (hist : List (String × Rat)) (p : String) (t : Rat) : Decidable (Fresh hist p t) :=
  inferInstanceAs (Decidable (0 < t ∧ ∀ q ∈ hist, q.1 = p → q.2 < t))

/-- A reload asked for by an event: the disk the file is read from, the locale, the file's path
and its time. -/
structure Request where
  disk : Disk
  locale : String
  path : String
  time : Rat

/-- The time a reload accepts for its path. -/
def Request.stamp (q : Request) : String × Rat := (q.path, q.time)

/-- What a reload does in the registry's sequential model: the file's text, when it reads, is
reloaded for the locale; a file that does not read changes nothing. -/
def Request.apply (a : Abstract) (q : Request) : Abstract :=
  match Source.readFile q.disk q.path with
  | .ok text => a.step (.reload (.str q.locale) (.str text))
  | .error _ => a

theorem Request.apply_of_read {q : Request} {text : String} (a : Abstract)
    (h : Source.readFile q.disk q.path = .ok text) :
    q.apply a = a.step (.reload (.str q.locale) (.str text)) := by
  unfold Request.apply
  rw [h]

theorem Request.apply_of_unreadable {q : Request} {f : Fault} (a : Abstract)
    (h : Source.readFile q.disk q.path = .error f) : q.apply a = a := by
  unfold Request.apply
  rw [h]

/-- The reload asked for of a fresh file: one whatever the file reads to, unless the system
refuses to read it. -/
def readRequest (d : Disk) (l p : String) (t : Rat) : Except Fault (Option Request) :=
  match Source.readFile d p with
  | .error f => if f.isOwn then .ok (some ⟨d, l, p, t⟩) else .error f
  | .ok _ => .ok (some ⟨d, l, p, t⟩)

/-- The reload an event asks for, when the times in `hist` were accepted before it: one for a
file, written and not removed, that lies directly in the folder under a name that gives a
locale, that exists, and whose time is fresh. A time the system cannot tell is the system's
fault, and so is a file it refuses to read. -/
def ask (w : Watcher) (hist : List (String × Rat)) (d : Disk) (e : FileEvent) :
    Except Fault (Option Request) :=
  let p := d.absolute e.target
  match w.localeIn p, e with
  | none, _ => .ok none
  | some _, .deleted _ => .ok none
  | some l, _ =>
    match d.mtime p with
    | .error .notFound => .ok none
    | .error err => .error (err.fault p)
    | .ok t =>
      if Fresh hist p (Disk.seconds t) then readRequest d l p (Disk.seconds t) else .ok none

/-- The reloads a sequence of events asks for, in order, each accepting its time. -/
def plan (w : Watcher) : List (String × Rat) → List (Disk × FileEvent) →
    Except Fault (List Request)
  | _, [] => .ok []
  | hist, (d, e) :: rest => do
    match ← w.ask hist d e with
    | none => w.plan hist rest
    | some q => (q :: ·) <$> w.plan (hist ++ [q.stamp]) rest

theorem fresh_nil {p : String} {t : Rat} : Fresh [] p t ↔ 0 < t := by
  simp [Fresh]

theorem fresh_append_ne {hist : List (String × Rat)} {p p' : String} {t t' : Rat} (hne : p' ≠ p) :
    Fresh (hist ++ [(p, t)]) p' t' ↔ Fresh hist p' t' := by
  have hnew : ∀ q ∈ [(p, t)], q.1 = p' → q.2 < t' := by
    intro q hq hqp
    rw [List.mem_singleton.1 hq] at hqp
    exact absurd hqp.symm hne
  simp only [Fresh, List.forall_mem_append]
  exact ⟨fun h => ⟨h.1, h.2.1⟩, fun h => ⟨h.1, h.2, hnew⟩⟩

/-- The watcher's invariant: a time is later than the one it keeps for a path, zero when it
keeps none, exactly when the time is fresh for the path after the times `hist` were accepted. -/
def Tracks (w : Watcher) (hist : List (String × Rat)) : Prop :=
  ∀ p t, (w.handled.get? p).getD 0 < t ↔ Fresh hist p t

theorem tracks_watching (d : Disk) (dir suffix : String) : (watching d dir suffix).Tracks [] := by
  intro p t
  rw [fresh_nil]
  rfl

/-- Accepting a fresh time for a path keeps the invariant: the time kept for the path is now
that one, which is later than every time accepted before it. -/
theorem Tracks.accept {w : Watcher} {hist : List (String × Rat)} {p : String} {t : Rat}
    (hw : w.Tracks hist) (hf : Fresh hist p t) :
    ({ w with handled := w.handled.set p t } : Watcher).Tracks (hist ++ [(p, t)]) := by
  intro p' t'
  by_cases hp : p' = p
  · subst hp
    simp only [Table.get?_set_self, Option.getD_some]
    constructor
    · intro ht
      refine ⟨lt_trans hf.1 ht, fun q hq hqp => ?_⟩
      rcases List.mem_append.1 hq with hq | hq
      · exact lt_trans (hf.2 q hq hqp) ht
      · rw [List.mem_singleton.1 hq]
        exact ht
    · intro hf'
      exact hf'.2 (p', t) (by simp) rfl
  · rw [fresh_append_ne hp, ← hw p' t']
    simp only [Table.get?_set_ne _ _ hp]

theorem advance_eq (w : Watcher) (d : Disk) (p : String) :
    w.advance d p = match d.mtime p with
      | .error .notFound => .ok none
      | .error err => .error (err.fault p)
      | .ok t => .ok (if (w.handled.get? p).getD 0 < Disk.seconds t
          then some { w with handled := w.handled.set p (Disk.seconds t) } else none) := by
  unfold advance modifiedAt
  rcases d.mtime p with err | t
  · cases err <;> rfl
  · simp only [bind, Except.bind, pure, Except.pure]
    by_cases ht : (w.handled.get? p).getD 0 < Disk.seconds t
    · rw [if_neg (not_le.2 ht), if_pos ht]
    · rw [if_pos (not_lt.1 ht), if_neg ht]

theorem reloadFrom_unreadable {d : Disk} {r : Registry} {l p : String} {f : Fault}
    (hread : Source.readFile d p = .error f) (j : Log.Journal) :
    outcome (reloadFrom d r (.str l) (.str p)) j = if f.isOwn then .ok r else .error f := by
  unfold reloadFrom
  simp only [outcome, run_bind, run_say, run_tryCatch, hread, run_orFail]
  cases f.isOwn <;> rfl

theorem abstract_reloaded (r : Registry) (l t : String) :
    abstract (if r.closed then r else match Catalog.parse t (.str l) with
        | .ok c => { r with stores := r.stores.set (.str l) c, version := r.version + 1 }
        | .error _ => r) = (abstract r).step (.reload (.str l) (.str t)) := by
  by_cases hc : r.closed
  · simp [hc, Abstract.step, abstract]
    split <;> simp
  · cases hp : Catalog.parse t (.str l) <;> simp [hc, hp, Abstract.step, abstract, Value.unhashable?]

theorem onEvent_written {w : Watcher} {d : Disk} {r : Registry} {e : FileEvent} {l : String}
    (hl : w.localeIn (d.absolute e.target) = some l) (he : ∀ p, e ≠ .deleted p) :
    w.onEvent d r e = w.handleWritten d r l (d.absolute e.target) := by
  unfold onEvent
  cases e with
  | deleted p => exact absurd rfl (he p)
  | _ => simp only [hl]

theorem ask_outside {w : Watcher} {hist : List (String × Rat)} {d : Disk} {e : FileEvent}
    (hl : w.localeIn (d.absolute e.target) = none) : w.ask hist d e = .ok none := by
  unfold ask
  dsimp only
  rw [hl]

theorem ask_deleted (w : Watcher) (hist : List (String × Rat)) (d : Disk) (p : String) :
    w.ask hist d (.deleted p) = .ok none := by
  unfold ask
  dsimp only
  generalize w.localeIn _ = o
  cases o <;> rfl

theorem ask_written {w : Watcher} {hist : List (String × Rat)} {d : Disk} {e : FileEvent}
    {l : String} (hl : w.localeIn (d.absolute e.target) = some l) (he : ∀ p, e ≠ .deleted p) :
    w.ask hist d e = match d.mtime (d.absolute e.target) with
      | .error .notFound => .ok none
      | .error err => .error (err.fault (d.absolute e.target))
      | .ok t =>
        if Fresh hist (d.absolute e.target) (Disk.seconds t) then
          readRequest d l (d.absolute e.target) (Disk.seconds t)
        else .ok none := by
  unfold ask
  cases e with
  | deleted p => exact absurd rfl (he p)
  | _ => simp only [hl]

/-- How handling one event can end, against what the event asks for after the times `hist`
were accepted: with the fault the event meets, with nothing changed, or with the reload made by
a watcher of the same folder that has accepted the reload's time too. -/
inductive Handled (w : Watcher) (r : Registry) (hist : List (String × Rat)) :
    Except Fault (Option Request) → Except Fault (Watcher × Registry) → Prop
  | fail (f : Fault) : Handled w r hist (.error f) (.error f)
  | skip : Handled w r hist (.ok none) (.ok (w, r))
  | reload (q : Request) (w' : Watcher) (r' : Registry)
      (hw : w'.Tracks (hist ++ [q.stamp])) (hfolder : w'.folder = w.folder)
      (hsuffix : w'.suffix = w.suffix) (hr : abstract r' = q.apply (abstract r))
      (hfb : r'.fallback = r.fallback) :
      Handled w r hist (.ok (some q)) (.ok (w', r'))

/-- Handling a fresh file's event reloads the file, and ends as its reload asks. -/
theorem handled_fresh {w : Watcher} {hist : List (String × Rat)} {d : Disk} {r : Registry}
    {l p : String} {t : Rat} (hw : w.Tracks hist) (hf : Fresh hist p t) (j : Log.Journal) :
    Handled w r hist (readRequest d l p t)
      ((outcome (reloadFrom d r (.str l) (.str p)) j).map
        ({ w with handled := w.handled.set p t }, ·)) := by
  have hw' := hw.accept hf
  unfold readRequest
  cases hread : Source.readFile d p with
  | ok text =>
    rw [reloadFrom_readable (r := r) (l := l) hread j]
    refine .reload ⟨d, l, p, t⟩ _ _ hw' rfl rfl ?_ ?_
    · rw [Request.apply_of_read (q := ⟨d, l, p, t⟩) _ hread]
      exact abstract_reloaded r l text
    · -- a reload changes the catalogs and the version only
      split
      · rfl
      · split <;> rfl
  | error f =>
    rw [reloadFrom_unreadable (r := r) (l := l) hread j]
    by_cases hown : f.isOwn
    · simp only [hown, if_true]
      exact .reload ⟨d, l, p, t⟩ _ r hw' rfl rfl
        (Request.apply_of_unreadable (q := ⟨d, l, p, t⟩) _ hread).symm rfl
    · simp only [hown, Bool.false_eq_true, if_false]
      exact .fail f

/-- Handling an event ends as the event asks, for a watcher that tracks the times accepted. -/
theorem onEvent_handled {w : Watcher} {hist : List (String × Rat)} (hw : w.Tracks hist)
    (d : Disk) (r : Registry) (e : FileEvent) (j : Log.Journal) :
    Handled w r hist (w.ask hist d e) (outcome (w.onEvent d r e) j) := by
  cases hl : w.localeIn (d.absolute e.target) with
  | none =>
    rw [onEvent_outside w d r e hl, ask_outside hl]
    exact .skip
  | some l =>
    by_cases he : ∃ p, e = .deleted p
    · -- a removed file is only announced
      obtain ⟨p, rfl⟩ := he
      rw [ask_deleted]
      unfold onEvent
      dsimp only
      rw [hl]
      exact .skip
    · have he' : ∀ p, e ≠ .deleted p := fun p h => he ⟨p, h⟩
      rw [ask_written hl he', onEvent_written hl he']
      unfold handleWritten
      rw [outcome_orFail_bind, advance_eq]
      generalize d.absolute e.target = p
      rcases d.mtime p with err | t
      · cases err <;> first | exact .skip | exact .fail _
      · -- the time kept is passed exactly when the file's time is fresh
        by_cases hf : Fresh hist p (Disk.seconds t)
        · simp only [(hw p _).2 hf, hf, if_true, outcome_bind_pure]
          exact handled_fresh hw hf j
        · simp only [mt (hw p _).1 hf, hf, if_false]
          exact .skip

theorem ask_congr {w w' : Watcher} (hfolder : w.folder = w'.folder)
    (hsuffix : w.suffix = w'.suffix) (hist : List (String × Rat)) (d : Disk) (e : FileEvent) :
    w.ask hist d e = w'.ask hist d e := by
  unfold ask localeIn
  rw [hfolder, hsuffix]

theorem plan_cons (w : Watcher) (hist : List (String × Rat)) (d : Disk) (e : FileEvent)
    (rest : List (Disk × FileEvent)) :
    w.plan hist ((d, e) :: rest) = match w.ask hist d e with
      | .error f => .error f
      | .ok none => w.plan hist rest
      | .ok (some q) => (q :: ·) <$> w.plan (hist ++ [q.stamp]) rest := by
  rw [plan]
  rcases w.ask hist d e with f | _ | q <;> rfl

/-- How a run of events ends against the reloads its events ask for after the times `hist`:
with the fault of the system that stops them, or with a watcher that has accepted every
reload's time and a registry whose state is the sequential model's after the reloads. -/
inductive Ends (r : Registry) (hist : List (String × Rat)) :
    Except Fault (List Request) → Except Fault (Watcher × Registry) → Prop
  | fail (f : Fault) : Ends r hist (.error f) (.error f)
  | done (qs : List Request) (w' : Watcher) (r' : Registry)
      (hw : w'.Tracks (hist ++ qs.map Request.stamp))
      (hr : abstract r' = qs.foldl Request.apply (abstract r)) (hfb : r'.fallback = r.fallback) :
      Ends r hist (.ok qs) (.ok (w', r'))

theorem Ends.cons {r r' : Registry} {hist : List (String × Rat)} {q : Request}
    {plan : Except Fault (List Request)} {res : Except Fault (Watcher × Registry)}
    (h : Ends r' (hist ++ [q.stamp]) plan res) (hr : abstract r' = q.apply (abstract r))
    (hfb : r'.fallback = r.fallback) : Ends r hist ((q :: ·) <$> plan) res := by
  cases h with
  | fail f => exact .fail f
  | done qs w'' r'' hw hr' hfb' =>
    refine .done (q :: qs) w'' r'' ?_ ?_ (hfb'.trans hfb)
    · simpa using hw
    · rw [hr', hr, List.foldl_cons]

/-- A run of events ends as its events ask, for a watcher that tracks the times accepted. -/
theorem runEvents_ends (w₀ : Watcher) : ∀ (ds : List (Disk × FileEvent)) (w : Watcher)
    (hist : List (String × Rat)) (r : Registry) (j : Log.Journal),
    w.folder = w₀.folder → w.suffix = w₀.suffix → w.Tracks hist →
    Ends r hist (w₀.plan hist ds) (outcome (w.runEvents r ds) j)
  | [], w, hist, r, j, _, _, hw => .done [] w r (by simpa using hw) rfl rfl
  | (d, e) :: rest, w, hist, r, j, hfolder, hsuffix, hw => by
    have hstep := onEvent_handled hw d r e j
    rw [ask_congr hfolder hsuffix] at hstep
    rw [plan_cons]
    unfold runEvents outcome
    rw [run_bind]
    -- the run goes on from what handling the event gave
    rcases hrun : (w.onEvent d r e).run.run j with ⟨res, j'⟩
    have hres : outcome (w.onEvent d r e) j = res := by
      unfold outcome
      rw [hrun]
    rw [hres] at hstep
    generalize w₀.ask hist d e = a at hstep ⊢
    cases hstep with
    | fail f => exact .fail f
    | skip => exact runEvents_ends w₀ rest w hist r j' hfolder hsuffix hw
    | reload q w' r' hw' hfolder' hsuffix' hr hfb =>
      exact (runEvents_ends w₀ rest w' (hist ++ [q.stamp]) r' j' (hfolder'.trans hfolder)
        (hsuffix'.trans hsuffix) hw').cons hr hfb

/-- The faults an event meets are the system's, never the library's own. -/
theorem ask_error_not_own {w : Watcher} {hist : List (String × Rat)} {d : Disk} {e : FileEvent}
    {f : Fault} (h : w.ask hist d e = .error f) : f.isOwn = false := by
  by_cases he : ∃ p, e = .deleted p
  · obtain ⟨p, rfl⟩ := he
    rw [ask_deleted] at h
    cases h
  · cases hl : w.localeIn (d.absolute e.target) with
    | none =>
      rw [ask_outside hl] at h
      cases h
    | some l =>
      rw [ask_written hl (fun p h' => he ⟨p, h'⟩)] at h
      generalize d.absolute e.target = p at h
      cases hm : d.mtime p with
      | error err =>
        rw [hm] at h
        cases err <;> cases h <;> rfl
      | ok t =>
        rw [hm] at h
        dsimp only at h
        split at h
        · unfold readRequest at h
          cases hread : Source.readFile d p with
          | ok _ =>
            rw [hread] at h
            cases h
          | error f' =>
            -- only a fault that is not the library's own is passed on
            rw [hread] at h
            dsimp only at h
            by_cases hown : f'.isOwn
            · rw [if_pos hown] at h
              cases h
            · rw [if_neg hown] at h
              cases h
              simpa using hown
        · cases h

theorem plan_error_not_own (w : Watcher) (hist : List (String × Rat))
    (ds : List (Disk × FileEvent)) {f : Fault} (h : w.plan hist ds = .error f) :
    f.isOwn = false := by
  induction ds generalizing hist with
  | nil => cases h
  | cons de rest ih =>
    obtain ⟨d, e⟩ := de
    rw [plan_cons] at h
    generalize ha : w.ask hist d e = a at h
    rcases a with f' | _ | q
    · cases h
      exact ask_error_not_own ha
    · exact ih hist h
    · dsimp only at h
      cases hp : w.plan (hist ++ [q.stamp]) rest with
      | error f' =>
        rw [hp] at h
        cases h
        exact ih _ hp
      | ok qs =>
        rw [hp] at h
        cases h

/-- A watcher of a catalog folder reloads exactly the fresh catalog files. Over every sequence
of file events, each delivered with the disk as it is then, the run fails exactly where the
reloads its events ask for meet a fault of the system, with that fault, and never with a fault
of the library's own. Otherwise the watcher has accepted the time of every reload asked for,
and the registry is the sequential model's after those reloads: each file that reads is
reloaded for its locale, and one that does not read, does not parse, or meets a registry torn
down changes nothing. -/
theorem watcher_reloads_fresh_files (d₀ : Disk) (dir suffix : String) (r : Registry)
    (ds : List (Disk × FileEvent)) (j : Log.Journal) :
    let w := watching d₀ dir suffix
    Ends r [] (w.plan [] ds) (outcome (w.runEvents r ds) j) ∧
      ∀ f, outcome (w.runEvents r ds) j = .error f → f.isOwn = false := by
  intro w
  have hends := runEvents_ends w ds w [] r j rfl rfl (tracks_watching d₀ dir suffix)
  refine ⟨hends, fun f hf => ?_⟩
  rw [hf] at hends
  -- a run fails only where its plan does, with the plan's fault
  generalize hp : w.plan [] ds = plan at hends
  cases hends with
  | fail f => exact plan_error_not_own w [] ds hp

example :
    let d := ({} : Disk).write "i18n/cs.ftl" [97, 32, 61, 32, 50, 10] (some 1)
    let r : Registry := ⟨⟨[(.str "cs", ⟨.str "cs", ⟨[("a", "1")]⟩⟩)]⟩, {}, 1, false⟩
    ((outcome ((watching d "i18n" ".ftl").runEvents r
        [(d, .modified "i18n/cs.ftl"), (d, .created "i18n/cs.ftl")]) {}).toOption.map
      fun p => (p.1.handled.entries, p.2.version)) =
      some ([(d.absolute "i18n/cs.ftl", Disk.seconds 1)], 2) := by
  decide +kernel

/-- A file whose time is zero is never reloaded, though no time was accepted for its path
before. Below, the catalog file `cs.ftl` is written into the watched folder `i18n` at time zero,
over a registry that holds `a = 1` for `cs`. The file names the locale `cs` and exists, and a
reload of it would set `a = 2` at version two; but the watcher handles the event by changing
nothing, and keeps no time for the file. -/
theorem zero_time_never_reloaded :
    let d := ({} : Disk).write "i18n/cs.ftl" [97, 32, 61, 32, 50, 10] (some 0)
    let w := watching d "i18n" ".ftl"
    let r : Registry := ⟨⟨[(.str "cs", ⟨.str "cs", ⟨[("a", "1")]⟩⟩)]⟩, {}, 1, false⟩
    w.localeIn (d.absolute "i18n/cs.ftl") = some "cs" ∧
      d.mtime (d.absolute "i18n/cs.ftl") = .ok 0 ∧
      ((outcome (reloadFrom d r (.str "cs") (.str (d.absolute "i18n/cs.ftl"))) {}).toOption.map
        fun r => (r.version, r.stores.entries.map fun p => p.2.table.entries)) =
        some (2, [[("a", "2")]]) ∧
      ((outcome (w.onEvent d r (.modified "i18n/cs.ftl")) {}).toOption.map
        fun p => (p.1.handled.entries, p.2.version)) = some ([], 1) :=
  ⟨by decide +kernel, by decide +kernel, by decide +kernel, by decide +kernel⟩

end Phrasebook.Watcher
