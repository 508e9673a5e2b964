import Phrasebook.Registry.Session

/-!
Outcomes of the registry's operations.

An operation of the registry runs against the journal: it writes records and counts incidents
as it goes, and then gives a value or a fault. What it gives never depends on the journal it
started from; `outcome` keeps that part of a run, and each operation that can change a
registry gets one lemma here saying exactly what its outcome is, so that later proofs cite the
lemma and never unfold the operation.

`reload_outcome`, `teardown_outcome` and `lookup_outcome` are the operations' outcomes, and
`step_resolve_outcome` and `step_chainFor_outcome` those of the session commands that read
through a registry's snapshot.
-/

namespace Phrasebook.Registry

variable {α β : Type}

/-- What a computation gives, run from a journal, without the journal it leaves. -/
def outcome (m : Act α) (j : Log.Journal) : Except Fault α := (m.run.run j).1

@[simp] theorem outcome_pure (a : α) (j : Log.Journal) : outcome (pure a) j = .ok a := rfl

@[simp] theorem outcome_throw (f : Fault) (j : Log.Journal) :
    outcome (throw f : Act α) j = .error f := rfl

theorem outcome_orFail_bind (x : Except Fault α) (g : α → Act β) (j : Log.Journal) :
    outcome (orFail x >>= g) j = match x with
      | .ok a => outcome (g a) j
      | .error f => .error f := by
  cases x <;> rfl

theorem outcome_bind_pure (m : Act α) (f : α → β) (j : Log.Journal) :
    outcome (m >>= fun a => pure (f a)) j = (outcome m j).map f := by
  unfold outcome
  rw [run_bind]
  rcases m.run.run j with ⟨_ | a, j'⟩ <;> rfl

@[simp] theorem run_say (level : Log.Level) (domain action : String)
    (fields : List (String × Value)) (j : Log.Journal) :
    (say level domain action fields).run.run j =
      (.ok ⟨⟩, j.announce level ⟨domain, action, none, fields⟩) := rfl

theorem run_current (r : Registry) (j : Log.Journal) :
    r.current.run.run j = (if r.closed then .error closedFault else .ok r, j) := by
  unfold current
  split <;> rfl

@[simp] theorem outcome_current (r : Registry) (j : Log.Journal) :
    outcome r.current j = if r.closed then .error closedFault else .ok r := by
  simp [outcome, run_current]

theorem outcome_parseReload (l src : Value) (j : Log.Journal) :
    outcome (parseReload l src) j = Catalog.read src l := by
  unfold parseReload
  cases hr : Catalog.read src l with
  | error f =>
    dsimp only
    split <;> rfl
  | ok c => rfl

theorem publish_outcome (r : Registry) (l : Value) (c : Catalog) (j : Log.Journal) :
    outcome (r.publish l c) j =
      if r.closed then .error closedFault else
      match l.unhashable? with
      | some f => .error f
      | none => .ok (c, { r with stores := r.stores.set l c, version := r.version + 1 }) := by
  unfold publish
  by_cases hc : r.closed
  · simp only [hc, outcome, run_bind, run_current, if_true]
  · simp only [hc, outcome, run_bind, run_current, Bool.false_eq_true, if_false, run_orFail,
      Mapping.find?]
    cases l.unhashable? <;> rfl

/-- A reload of an open registry whose new source reads, under a locale that can be a key,
sets that locale's catalog and counts one more version; otherwise it fails. -/
theorem reload_outcome (r : Registry) (l src : Value) (j : Log.Journal) :
    outcome (r.reload l src) j =
      if r.closed then .error closedFault else
      match Catalog.read src l with
      | .error f => .error f
      | .ok c => match l.unhashable? with
        | some f => .error f
        | none => .ok (c, { r with stores := r.stores.set l c, version := r.version + 1 }) := by
  unfold reload
  by_cases hc : r.closed
  · simp only [hc, outcome, run_bind, run_current, if_true]
  · have hread := outcome_parseReload l src j
    unfold outcome at hread ⊢
    simp only [hc, run_bind, run_current, Bool.false_eq_true, if_false]
    -- the source is read before the snapshot is taken again, and publishing is settled by it
    rcases hp : (parseReload l src).run.run j with ⟨_ | c, j'⟩
    · rw [hp] at hread
      simp [← hread]
    · rw [hp] at hread
      simp only [← hread]
      exact (publish_outcome r l c j').trans (by simp [hc])

theorem teardown_outcome (r : Registry) (j : Log.Journal) :
    outcome r.teardown j =
      .ok (if r.closed then r
        else { r with stores := {}, version := r.version + 1, closed := true }) := by
  unfold teardown
  by_cases hc : r.closed
  · simp [hc]
  · simp [hc, say, outcome]
    rfl

theorem lookup_outcome (r : Registry) (l k : Value) (j : Log.Journal) :
    outcome (r.lookup l k) j = if r.closed then .error closedFault else r.resolve l k := by
  unfold lookup
  by_cases hc : r.closed
  · simp only [hc, outcome, run_bind, run_current, if_true]
  · simp only [hc, outcome, run_bind, run_current, Bool.false_eq_true, if_false, run_orFail]
    cases hres : r.resolve l k with
    | error f => rfl
    | ok res => by_cases hf : res.fallbackUsed <;> simp [hf, say] <;> rfl

theorem step_resolve_outcome (s : Session) (l k : Value) (j : Log.Journal) :
    outcome (s.step (.resolve l k)) j = if s.registry.closed then .error closedFault
      else (s.registry.resolve l k).map fun res => (.resolution res, s) := by
  simp only [Session.step, outcome, run_bind, run_current]
  by_cases hc : s.registry.closed
  · simp only [hc, if_true]
  · simp only [hc, Bool.false_eq_true, if_false, run_orFail]
    cases s.registry.resolve l k <;> rfl

theorem step_chainFor_outcome (s : Session) (l : Value) (j : Log.Journal) :
    outcome (s.step (.chainFor l)) j = if s.registry.closed then .error closedFault
      else (s.registry.chainFor l).map fun chain => (.chain chain, s) := by
  simp only [Session.step, outcome, run_bind, run_current]
  by_cases hc : s.registry.closed
  · simp only [hc, if_true]
  · simp only [hc, Bool.false_eq_true, if_false, run_orFail]
    cases s.registry.chainFor l <;> rfl

end Phrasebook.Registry
