import Phrasebook.Proofs.Outcome

/-!
The registry's lifecycle as a sequential state machine.

What the operations of a registry can change is its catalogs, its version and whether it is
closed: its `Abstract` state. A registry built from sources starts with each source's catalog
under its locale, at version one, open. A reload of an open registry whose new source reads,
under a locale that can be a key, sets that locale's catalog (`mem_step_reload`: every other
locale keeps its own) and counts one more version. The first teardown drops every catalog,
closes the registry and counts one more version. Every other command leaves the state as it
was, and so does every command that fails: a reload of a closed registry, a source that does
not read, a second teardown, and every read.

The work is in two places. A command other than a reload or a teardown can only answer with
the registry it was given (`step_keeps`), which is a fact about the shape of each command's
computation, never about what it computes. A reload and a teardown are settled by their
outcomes (`reload_outcome`, `teardown_outcome`). Together they give the step,
`attempt_abstract`, and induction over the script gives the run, `runScript_abstract`.

`script_refines_abstract`: after any script of commands, run on a registry that was built from
sources, the registry's state is what the abstract machine reaches from those sources.
-/

namespace Phrasebook.Registry

/-- What the operations of a registry can change: its catalogs, its version, and whether it is
closed. -/
structure Abstract where
  cats : Mapping Catalog
  version : Nat
  closed : Bool

/-- The abstract state of a registry. -/
def abstract (r : Registry) : Abstract := ⟨r.stores, r.version, r.closed⟩

namespace Abstract

/-- The state of a registry built from sources: each locale's catalog, read from its source
for that locale, set in source order; version one; open. -/
def init (sources : List (Value × Value)) : Abstract :=
  ⟨sources.foldl (fun m p => match Catalog.read p.2 p.1 with
    | .ok c => m.set p.1 c
    | .error _ => m) {}, 1, false⟩

/-- What one command does to the state, whatever it answers. -/
def step (a : Abstract) : Command → Abstract
  | .reload l src =>
    match Catalog.read src l, l.unhashable? with
    | .ok c, none => if a.closed then a else ⟨a.cats.set l c, a.version + 1, false⟩
    | _, _ => a
  | .teardown => if a.closed then a else ⟨{}, a.version + 1, true⟩
  | _ => a

theorem mem_assignKey {ps : List (Value × Catalog)} {k l : Value} {c c' : Catalog}
    (h : (k, c') ∈ ps) (hk : k.sameKey l = false) : (k, c') ∈ Value.assignKey ps l c := by
  induction ps with
  | nil => cases h
  | cons p ps ih =>
    obtain ⟨k'', c''⟩ := p
    unfold Value.assignKey
    rcases List.mem_cons.1 h with he | hm
    · cases he
      simp [hk]
    · split <;> simp [hm, ih hm]

theorem mem_step_reload {a : Abstract} {l src k : Value} {c : Catalog}
    (h : (k, c) ∈ a.cats.entries) (hk : k.sameKey l = false) :
    (k, c) ∈ (a.step (.reload l src)).cats.entries := by
  simp only [step]
  split
  · split
    · exact h
    · exact mem_assignKey h hk
  · exact h

end Abstract

/-- Every success of a command's computation leaves a session whose registry is `r`. -/
def Keeps (r : Registry) (m : Act (Reply × Session)) : Prop :=
  ∀ j reply s', outcome m j = .ok (reply, s') → s'.registry = r

namespace Keeps

variable {α : Type} {r : Registry}

theorem of_pure {reply : Reply} {s : Session} (h : s.registry = r) : Keeps r (pure (reply, s)) := by
  intro j reply' s' hs
  cases hs
  exact h

theorem of_throw (f : Fault) : Keeps r (throw f) := by
  intro j reply s' hs
  cases hs

theorem bind {m : Act α} {g : α → Act (Reply × Session)} (h : ∀ a, Keeps r (g a)) :
    Keeps r (m >>= g) := by
  intro j reply s' hs
  obtain ⟨a, j', -, hg⟩ := run_bind_eq_ok hs
  exact h a j' reply s' hg

end Keeps

/-- Every command but a reload and a teardown answers, when it succeeds, with the registry it
was given. -/
theorem step_keeps (s : Session) (c : Command) (hr : ∀ l src, c ≠ .reload l src)
    (ht : c ≠ .teardown) : Keeps s.registry (s.step c) := by
  cases c with
  | reload l src => exact absurd rfl (hr l src)
  | teardown => exact absurd rfl ht
  | lookup l k | lookupText l k d | coverage ref | locales | catalog l | errors | fallback =>
    exact Keeps.bind fun _ => Keeps.of_pure rfl
  | resolve l k | chainFor l | saveSnapshot name =>
    exact Keeps.bind fun _ => Keeps.bind fun _ => Keeps.of_pure rfl
  | resolveSnapshot name l k =>
    refine Keeps.bind fun x => ?_
    cases x with
    | some r => exact Keeps.bind fun _ => Keeps.of_pure rfl
    | none => exact Keeps.of_throw _
  | store l k =>
    refine Keeps.bind fun _ => Keeps.bind fun c => ?_
    dsimp only
    -- the check of the key is made only when the locale has a store
    split
    · split
      · exact Keeps.bind fun _ => Keeps.of_pure rfl
      · exact Keeps.of_pure rfl
    · exact Keeps.of_pure rfl
  | closed => exact Keeps.of_pure rfl

theorem attempt_run (s : Session) (c : Command) (j : Log.Journal) :
    (s.attempt c).run j = match (s.step c).run.run j with
      | (.ok (reply, s'), j') => ((.ok reply, s'), j')
      | (.error f, j') => ((.error f, s), j') := rfl

theorem attempt_of_ok {s s' : Session} {c : Command} {j : Log.Journal} {reply : Reply}
    (h : outcome (s.step c) j = .ok (reply, s')) : ((s.attempt c).run j).1.2 = s' := by
  unfold outcome at h
  rw [attempt_run]
  rcases hs : (s.step c).run.run j with ⟨_ | ⟨reply', s''⟩, j'⟩
  · rw [hs] at h
    cases h
  · rw [hs] at h
    cases h
    rfl

theorem attempt_of_error {s : Session} {c : Command} {j : Log.Journal} {f : Fault}
    (h : outcome (s.step c) j = .error f) : ((s.attempt c).run j).1.2 = s := by
  unfold outcome at h
  rw [attempt_run]
  rcases hs : (s.step c).run.run j with ⟨_ | ⟨reply', s''⟩, j'⟩
  · rfl
  · rw [hs] at h
    cases h

theorem attempt_registry_of_keeps {s : Session} {c : Command} {j : Log.Journal}
    (h : Keeps s.registry (s.step c)) : ((s.attempt c).run j).1.2.registry = s.registry := by
  rcases ho : outcome (s.step c) j with f | ⟨reply, s'⟩
  · rw [attempt_of_error ho]
  · rw [attempt_of_ok ho]
    exact h j reply s' ho

theorem step_reload_outcome (s : Session) (l src : Value) (j : Log.Journal) :
    outcome (s.step (.reload l src)) j = match outcome (s.registry.reload l src) j with
      | .ok (c, r) => .ok (.reloaded l c, { s with registry := r })
      | .error f => .error f := by
  simp only [Session.step, outcome, run_bind]
  rcases (s.registry.reload l src).run.run j with ⟨_ | ⟨c, r⟩, j'⟩ <;> rfl

theorem step_teardown_outcome (s : Session) (j : Log.Journal) :
    outcome (s.step .teardown) j = match outcome s.registry.teardown j with
      | .ok r => .ok (.nothing, { s with registry := r })
      | .error f => .error f := by
  simp only [Session.step, outcome, run_bind]
  rcases s.registry.teardown.run.run j with ⟨_ | r, j'⟩ <;> rfl

/-- One command, attempted on a session, moves its registry's state as the abstract machine
says, whether the command succeeds or fails, and keeps its fallback configuration. -/
theorem attempt_abstract (s : Session) (c : Command) (j : Log.Journal) :
    abstract ((s.attempt c).run j).1.2.registry = (abstract s.registry).step c ∧
      ((s.attempt c).run j).1.2.registry.fallback = s.registry.fallback := by
  cases c with
  | reload l src =>
    have h := step_reload_outcome s l src j
    rw [reload_outcome] at h
    by_cases hc : s.registry.closed
    · rw [attempt_of_error (f := closedFault) (by simpa [hc] using h)]
      cases hr : Catalog.read src l <;> cases hu : l.unhashable? <;>
        simp [Abstract.step, abstract, hc, hr, hu]
    · cases hr : Catalog.read src l with
      | error f =>
        rw [attempt_of_error (f := f) (by simpa [hc, hr] using h)]
        simp [Abstract.step, hr]
      | ok c =>
        cases hu : l.unhashable? with
        | some f =>
          rw [attempt_of_error (f := f) (by simpa [hc, hr, hu] using h)]
          simp [Abstract.step, hr, hu]
        | none =>
          rw [attempt_of_ok (by simpa [hc, hr, hu] using h)]
          simp [Abstract.step, abstract, hc, hr, hu]
  | teardown =>
    have h := step_teardown_outcome s j
    rw [teardown_outcome] at h
    rw [attempt_of_ok h]
    by_cases hc : s.registry.closed <;> simp [hc, Abstract.step, abstract]
  | _ =>
    rw [attempt_registry_of_keeps (step_keeps s _ (fun _ _ h => by cases h) (fun h => by cases h))]
    exact ⟨rfl, rfl⟩

theorem runScript_cons (s : Session) (c : Command) (cs : List Command) (j : Log.Journal) :
    ((s.runScript (c :: cs)).run j).1.2 =
      ((((s.attempt c).run j).1.2.runScript cs).run ((s.attempt c).run j).2).1.2 := rfl

/-- A script moves the registry's state as the abstract machine runs its commands in order. -/
theorem runScript_abstract (s : Session) (cs : List Command) (j : Log.Journal) :
    abstract ((s.runScript cs).run j).1.2.registry =
        cs.foldl Abstract.step (abstract s.registry) ∧
      ((s.runScript cs).run j).1.2.registry.fallback = s.registry.fallback := by
  induction cs generalizing s j with
  | nil => exact ⟨rfl, rfl⟩
  | cons c cs ih =>
    obtain ⟨ha, hf⟩ := attempt_abstract s c j
    obtain ⟨ha', hf'⟩ := ih ((s.attempt c).run j).1.2 ((s.attempt c).run j).2
    rw [runScript_cons, List.foldl_cons, ← ha, ← hf]
    exact ⟨ha', hf'⟩

theorem readAll_eq_ok {sources : List (Value × Value)}
    {read : List (Value × Except Fault Catalog)}
    (h : readAll sources = .ok read) : read = sources.map fun p => (p.1, Catalog.read p.2 p.1) := by
  induction sources generalizing read with
  | nil =>
    cases h
    rfl
  | cons p sources ih =>
    obtain ⟨l, src⟩ := p
    unfold readAll at h
    cases hrest : readAll sources with
    | error f =>
      cases hr : Catalog.read src l <;> simp [hr, hrest, Except.map] at h
      split at h <;> cases h
    | ok read' =>
      have hmap := ih hrest
      cases hr : Catalog.read src l with
      | ok c =>
        simp [hr, hrest, Except.map] at h
        simp [← h, hmap, hr]
      | error f =>
        simp [hr, hrest, Except.map] at h
        split at h
        · cases h
          simp [hmap, hr]
        · cases h

/-- A registry built from sources is in the initial abstract state of those sources, with the
fallback configuration it was given. -/
theorem ofSources_abstract {sources : List (Value × Value)} {fb : Fallback} {j : Log.Journal}
    {r : Registry} (h : outcome (ofSources sources fb) j = .ok r) :
    abstract r = Abstract.init sources ∧ r.fallback = fb := by
  unfold ofSources at h
  obtain ⟨read, j₁, hread, h⟩ := run_bind_eq_ok h
  rw [run_orFail] at hread
  have hmap := readAll_eq_ok (congrArg Prod.fst hread)
  dsimp only at h
  split at h
  · obtain ⟨_, j₂, -, h⟩ := run_bind_eq_ok h
    cases h
    refine ⟨?_, rfl⟩
    subst hmap
    -- the two folds differ only in how their matches were compiled, which `exact` sees through
    exact congrArg (fun m => Abstract.mk m 1 false) List.foldl_map
  · -- a build with failures names them all and then fails
    obtain ⟨fault, j₂, -, h⟩ := run_bind_eq_ok h
    obtain ⟨_, j₃, -, h⟩ := run_bind_eq_ok h
    obtain ⟨_, j₄, -, h⟩ := run_bind_eq_ok h
    cases h

theorem script_refines_abstract {sources : List (Value × Value)} {fb : Fallback}
    {j : Log.Journal} {r : Registry} (h : outcome (ofSources sources fb) j = .ok r)
    (saved : Mapping Registry) (cs : List Command) (j' : Log.Journal) :
    abstract (((Session.mk r saved).runScript cs).run j').1.2.registry =
        cs.foldl Abstract.step (Abstract.init sources) ∧
      (((Session.mk r saved).runScript cs).run j').1.2.registry.fallback = fb := by
  obtain ⟨ha, hf⟩ := ofSources_abstract h
  obtain ⟨ha', hf'⟩ := runScript_abstract ⟨r, saved⟩ cs j'
  rw [← ha, ← hf]
  exact ⟨ha', hf'⟩

theorem script_refines_abstract_cs :
    outcome (ofSources [(.str "cs", .str "a = b")] {}) {} =
        .ok ⟨⟨[(.str "cs", ⟨.str "cs", ⟨[("a", "b")]⟩⟩)]⟩, {}, 1, false⟩ ∧
      abstract (((Session.mk ⟨⟨[(.str "cs", ⟨.str "cs", ⟨[("a", "b")]⟩⟩)]⟩, {}, 1, false⟩ {}).runScript
          [.reload (.str "cs") (.str "a = c"), .lookup (.str "cs") (.str "a"), .teardown]).run
          {}).1.2.registry =
        [.reload (.str "cs") (.str "a = c"), .lookup (.str "cs") (.str "a"), .teardown].foldl
          Abstract.step (Abstract.init [(.str "cs", .str "a = b")]) ∧
      (((Session.mk ⟨⟨[(.str "cs", ⟨.str "cs", ⟨[("a", "b")]⟩⟩)]⟩, {}, 1, false⟩ {}).runScript
          [.reload (.str "cs") (.str "a = c"), .lookup (.str "cs") (.str "a"), .teardown]).run
          {}).1.2.registry.fallback = {} :=
  have h : outcome (ofSources [(.str "cs", .str "a = b")] {}) {} =
      .ok ⟨⟨[(.str "cs", ⟨.str "cs", ⟨[("a", "b")]⟩⟩)]⟩, {}, 1, false⟩ := by rfl
  ⟨h, script_refines_abstract h {} _ {}⟩

end Phrasebook.Registry
