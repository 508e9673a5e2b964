import Phrasebook.Proofs.Lifecycle
import Phrasebook.Registry.Concurrent

/-!
Linearizability of the shared registry.

Callers that share a registry see it as they would see a sequential one. The locked step of a
writer is the instant at which its call takes effect, and the taking of a snapshot the instant
at which a reader's does: after any interleaving of the steps of any number of callers,

* the reference holds what the sequential machine of `Abstract.step` reaches by the commands of
  the locked steps that took effect, in the order they took effect;
* those are the calls of the writers that succeeded, each once;
* every snapshot a reader took is what that machine had reached by the locked steps before it,
  and every reader that answered gave the answer of its command on that snapshot.

A reload publishes on the snapshot it takes under the lock, not on the one it checked before
reading its source, and the first point rests on that: a reload of another locale that took
effect in between is kept.

The invariant `Linearized` holds at the start (`linearized_start`) and after every step of every
caller (`Linearized.step`). A step is one of three kinds: a caller moving on without touching the
reference or the history (`Linearized.moveTo`), a reader taking its snapshot
(`Linearized.take`), and a locked step that takes effect (`Linearized.write`).
-/

namespace Phrasebook.Registry

/-- The registry the sequential machine reaches from `r₀` by a list of commands, with `r₀`'s
fallback configuration. -/
def replay (r₀ : Registry) (cmds : List Command) : Registry :=
  let a := cmds.foldl Abstract.step (abstract r₀)
  ⟨a.cats, r₀.fallback, a.version, a.closed⟩

/-- The command of a locked step, when the event is one. -/
def Event.command? : Event → Option Command
  | .read _ _ => none
  | .write _ cmd => some cmd

/-- The caller of a locked step, when the event is one. -/
def Event.writer? : Event → Option Nat
  | .read _ _ => none
  | .write i _ => some i

@[simp] theorem Event.command?_read (i : Nat) (snap : Registry) :
    (Event.read i snap).command? = none := rfl

@[simp] theorem Event.command?_write (i : Nat) (cmd : Command) :
    (Event.write i cmd).command? = some cmd := rfl

@[simp] theorem Event.writer?_read (i : Nat) (snap : Registry) :
    (Event.read i snap).writer? = none := rfl

@[simp] theorem Event.writer?_write (i : Nat) (cmd : Command) :
    (Event.write i cmd).writer? = some i := rfl

/-- The commands of the locked steps of a history, in the order they took effect. -/
def writes (h : List Event) : List Command := h.filterMap Event.command?

/-- The command a writer's locked step took effect with, once its call has succeeded. -/
def Caller.wrote : Caller → Option Command
  | ⟨.reload l src, .done (.ok _)⟩ => some (.reload l src)
  | ⟨.teardown, .done (.ok _)⟩ => some .teardown
  | _ => none

/-- What the local state of caller `i` says, against the history: a reload that has read its
source holds that source's catalog, and a reader holds, or has answered from, a snapshot it
took. -/
def Caller.Sound (h : List Event) (i : Nat) : Caller → Prop
  | ⟨.reload l src, .parsed c⟩ => Catalog.read src l = .ok c
  | ⟨.read _ _, .holding snap⟩ => .read i snap ∈ h
  | ⟨.read q _, .done res⟩ => ∃ snap j, .read i snap ∈ h ∧
      res = (outcome (Session.step ⟨snap, {}⟩ q) j).map Prod.fst
  | _ => True

/-- What holds of a shared registry after every run from `r₀`. -/
structure Linearized (r₀ : Registry) (s : Shared) : Prop where
  /-- The reference holds what the sequential machine reaches by the locked steps so far. -/
  ref_eq : s.ref = replay r₀ (writes s.history)
  /-- Each snapshot a reader took is what the machine had reached by the locked steps before. -/
  read_eq : ∀ n i snap, s.history[n]? = some (.read i snap) →
    snap = replay r₀ (writes (s.history.take n))
  /-- The locked steps of the history are those of the writers that succeeded. -/
  write_iff : ∀ i cmd, .write i cmd ∈ s.history ↔
    ∃ c, s.callers[i]? = some c ∧ c.wrote = some cmd
  /-- No caller has two locked steps in the history. -/
  writers_nodup : (s.history.filterMap Event.writer?).Nodup
  callers_sound : ∀ i (c : Caller), s.callers[i]? = some c → c.Sound s.history i

theorem replay_nil (r₀ : Registry) : replay r₀ [] = r₀ := rfl

theorem eq_replay_concat {r₀ r : Registry} {cmds : List Command} {cmd : Command}
    (ha : abstract r = (abstract (replay r₀ cmds)).step cmd) (hf : r.fallback = r₀.fallback) :
    r = replay r₀ (cmds ++ [cmd]) := by
  obtain ⟨stores, fb, version, closed⟩ := r
  have ha' : (⟨stores, version, closed⟩ : Abstract) =
      (cmds.foldl Abstract.step (abstract r₀)).step cmd := ha
  simp only [replay, List.foldl_append, List.foldl_cons, List.foldl_nil, ← ha']
  rw [← hf]

@[simp] theorem writes_read (h : List Event) (i : Nat) (snap : Registry) :
    writes (h ++ [.read i snap]) = writes h := by
  simp [writes]

@[simp] theorem writes_write (h : List Event) (i : Nat) (cmd : Command) :
    writes (h ++ [.write i cmd]) = writes h ++ [cmd] := by
  simp [writes]

theorem getElem?_append_event {h : List Event} {e x : Event} {n : Nat}
    (hx : (h ++ [e])[n]? = some x) :
    (h[n]? = some x ∧ (h ++ [e]).take n = h.take n) ∨ (x = e ∧ (h ++ [e]).take n = h) := by
  by_cases hn : n < h.length
  · rw [List.getElem?_append_left hn] at hx
    exact .inl ⟨hx, List.take_append_of_le_length (Nat.le_of_lt hn)⟩
  · rw [List.getElem?_append_right (Nat.le_of_not_lt hn)] at hx
    have hn' : n = h.length := by
      have := (List.getElem?_eq_some_iff.1 hx).1
      simp only [List.length_singleton] at this
      omega
    subst hn'
    simp only [Nat.sub_self, List.getElem?_cons_zero, Option.some.injEq] at hx
    exact .inr ⟨hx.symm, List.take_left' rfl⟩

theorem getElem?_set_caller {cs : List Caller} {i k : Nat} {c c' : Caller}
    (hi : cs[i]? = some c) : (cs.set i c')[k]? = if i = k then some c' else cs[k]? := by
  have hlt : i < cs.length := (List.getElem?_eq_some_iff.1 hi).1
  rw [List.getElem?_set]
  split <;> simp

namespace Caller

theorem Sound.mono {h h' : List Event} {i : Nat} {c : Caller} (hc : c.Sound h i) :
    c.Sound (h ++ h') i := by
  obtain ⟨call, stage⟩ := c
  cases stage with
  | parsed => exact hc
  | holding => exact List.mem_append_left _ hc
  | done res =>
    cases call with
    | read q hq =>
      obtain ⟨snap, j, hm, hr⟩ := hc
      exact ⟨snap, j, List.mem_append_left _ hm, hr⟩
    | reload | teardown => trivial
  | start => cases call <;> trivial
  | checked => trivial

end Caller

namespace Linearized

variable {r₀ : Registry} {s : Shared} {i : Nat} {c : Caller}

theorem callers_sound_set (hs : Linearized r₀ s) (hi : s.callers[i]? = some c) {c' : Caller}
    {h' : List Event} (hc' : c'.Sound (s.history ++ h') i) :
    ∀ k (c'' : Caller), (s.callers.set i c')[k]? = some c'' → c''.Sound (s.history ++ h') k := by
  intro k c'' hk
  rw [getElem?_set_caller hi] at hk
  split at hk
  · next hik =>
    cases hk
    exact hik ▸ hc'
  · exact (hs.callers_sound k c'' hk).mono

theorem not_mem_writers (hs : Linearized r₀ s) (hi : s.callers[i]? = some c)
    (hc : c.wrote = none) : i ∉ s.history.filterMap Event.writer? := by
  intro hm
  obtain ⟨e, he, hw⟩ := List.mem_filterMap.1 hm
  cases e with
  | read => cases hw
  | write k cmd =>
    cases hw
    obtain ⟨c', hc', hw'⟩ := (hs.write_iff _ cmd).1 he
    rw [hi, Option.some.injEq] at hc'
    subst hc'
    rw [hc] at hw'
    cases hw'

theorem moveTo (hs : Linearized r₀ s) (hi : s.callers[i]? = some c) (hc : c.wrote = none)
    {c' : Caller} (hc' : c'.wrote = none) (hsound : c'.Sound s.history i) (j : Log.Journal) :
    Linearized r₀ (s.moveTo i c' j) where
  ref_eq := hs.ref_eq
  read_eq := hs.read_eq
  write_iff := by
    intro k cmd
    simp only [Shared.moveTo, hs.write_iff, getElem?_set_caller hi]
    split
    · next hik =>
      subst hik
      simp [hi, hc, hc']
    · rfl
  writers_nodup := hs.writers_nodup
  callers_sound := by
    have hsound' : c'.Sound (s.history ++ []) i := by simpa using hsound
    simpa [Shared.moveTo] using hs.callers_sound_set hi hsound'

/-- A reader taking its snapshot keeps the invariant: what it takes is the reference, which is
what the machine has reached by every locked step so far. -/
theorem take (hs : Linearized r₀ s) {q : Command} {hq : q.readsOnly = true}
    (hi : s.callers[i]? = some ⟨.read q hq, .start⟩) :
    Linearized r₀ { s with callers := s.callers.set i ⟨.read q hq, .holding s.ref⟩,
                           history := s.history ++ [.read i s.ref] } where
  ref_eq := by simpa using hs.ref_eq
  read_eq := by
    intro n k snap hn
    rcases getElem?_append_event hn with ⟨hold, htake⟩ | ⟨hnew, htake⟩
    · rw [htake]
      exact hs.read_eq n k snap hold
    · cases hnew
      rw [htake]
      exact hs.ref_eq
  write_iff := by
    intro k cmd
    simp only [List.mem_append, List.mem_singleton, reduceCtorEq, or_false, hs.write_iff,
      getElem?_set_caller hi]
    split
    · next hik =>
      subst hik
      simp [hi, Caller.wrote]
    · rfl
  writers_nodup := by simpa [List.filterMap_cons] using hs.writers_nodup
  callers_sound := hs.callers_sound_set hi (List.mem_append_right _ (List.mem_singleton_self _))

/-- A locked step that takes effect with a command, moving the reference as the sequential
machine moves on that command, keeps the invariant. -/
theorem write (hs : Linearized r₀ s) (hi : s.callers[i]? = some c) (hc : c.wrote = none)
    {c' : Caller} {cmd : Command} (hc' : c'.wrote = some cmd)
    (hsound : c'.Sound (s.history ++ [.write i cmd]) i) {r : Registry}
    (ha : abstract r = (abstract s.ref).step cmd) (hf : r.fallback = s.ref.fallback)
    (j : Log.Journal) :
    Linearized r₀ { s.moveTo i c' j with ref := r, history := s.history ++ [.write i cmd] } where
  ref_eq := by
    rw [writes_write]
    rw [hs.ref_eq] at ha hf
    exact eq_replay_concat ha hf
  read_eq := by
    intro n k snap hn
    rcases getElem?_append_event hn with ⟨hold, htake⟩ | ⟨hnew, -⟩
    · rw [htake]
      exact hs.read_eq n k snap hold
    · cases hnew
  write_iff := by
    intro k cmd'
    simp only [Shared.moveTo, List.mem_append, List.mem_singleton, Event.write.injEq,
      hs.write_iff, getElem?_set_caller hi]
    split
    · next hik =>
      subst hik
      simp [hi, hc, hc', eq_comm]
    · next hik =>
      simp [Ne.symm hik]
  writers_nodup := by
    rw [List.filterMap_append, List.filterMap_cons, Event.writer?_write, List.filterMap_nil]
    refine List.nodup_append.2 ⟨hs.writers_nodup, List.pairwise_singleton _ i, ?_⟩
    rintro a ha b hb rfl
    exact hs.not_mem_writers hi hc (List.mem_singleton.1 hb ▸ ha)
  callers_sound := hs.callers_sound_set hi hsound

end Linearized

theorem publish_abstract {r r' : Registry} {l src : Value} {c c' : Catalog} {j : Log.Journal}
    (hread : Catalog.read src l = .ok c) (h : outcome (r.publish l c) j = .ok (c', r')) :
    c' = c ∧ abstract r' = (abstract r).step (.reload l src) ∧ r'.fallback = r.fallback := by
  rw [publish_outcome] at h
  by_cases hc : r.closed
  · simp [hc] at h
  · cases hu : l.unhashable? with
    | some f => simp [hc, hu] at h
    | none =>
      simp only [hc, hu, Bool.false_eq_true, if_false, Except.ok.injEq, Prod.mk.injEq] at h
      obtain ⟨rfl, rfl⟩ := h
      simp [Abstract.step, abstract, hread, hu, hc]

theorem teardown_abstract {r r' : Registry} {j : Log.Journal} (h : outcome r.teardown j = .ok r') :
    abstract r' = (abstract r).step .teardown ∧ r'.fallback = r.fallback := by
  rw [teardown_outcome] at h
  cases h
  by_cases hc : r.closed <;> simp [hc, Abstract.step, abstract]

namespace Linearized

variable {r₀ : Registry} {s : Shared} {i : Nat}

/-- Every step of a caller keeps the invariant. -/
theorem advance (hs : Linearized r₀ s) {call : Call} {stage : Stage call}
    (hi : s.callers[i]? = some ⟨call, stage⟩) : Linearized r₀ (s.advance i call stage) := by
  cases stage with
  | start =>
    cases call with
    | reload l src =>
      -- the open check only moves the caller on
      simp only [Shared.advance]
      split <;> apply hs.moveTo hi rfl <;> trivial
    | teardown =>
      simp only [Shared.advance]
      split
      · next r j h =>
        obtain ⟨ha, hf⟩ := teardown_abstract (congrArg Prod.fst h)
        refine hs.write hi rfl ?_ ?_ ha hf j <;> trivial
      · apply hs.moveTo hi rfl <;> trivial
    | read q hq => exact hs.take hi
  | @checked l src =>
    simp only [Shared.advance]
    split
    · next c j h =>
      have hread := outcome_parseReload l src s.journal
      rw [outcome, h] at hread
      apply hs.moveTo hi rfl rfl
      exact hread.symm
    · apply hs.moveTo hi rfl <;> trivial
  | parsed c =>
    simp only [Shared.advance]
    split
    · next c' r j h =>
      -- the catalog being published is the one the source reads into
      have hread : Catalog.read _ _ = .ok c := hs.callers_sound i _ hi
      obtain ⟨-, ha, hf⟩ := publish_abstract hread (congrArg Prod.fst h)
      refine hs.write hi rfl ?_ ?_ ha hf j <;> trivial
    · apply hs.moveTo hi rfl <;> trivial
  | holding snap =>
    simp only [Shared.advance]
    apply hs.moveTo hi rfl rfl
    exact ⟨snap, s.journal, hs.callers_sound i _ hi, rfl⟩
  | done res => cases call <;> exact hs

/-- Every step of the shared registry keeps the invariant. -/
theorem step (hs : Linearized r₀ s) (i : Nat) : Linearized r₀ (s.step i) := by
  unfold Shared.step
  split
  · next call stage hi => exact hs.advance hi
  · exact hs

/-- Every run keeps the invariant. -/
theorem run (hs : Linearized r₀ s) (sched : List Nat) : Linearized r₀ (s.run sched) := by
  induction sched generalizing s with
  | nil => exact hs
  | cons i sched ih => exact ih (hs.step i)

end Linearized

theorem linearized_start (r₀ : Registry) (j : Log.Journal) (calls : List Call) :
    Linearized r₀ (Shared.start r₀ j calls) where
  ref_eq := (replay_nil r₀).symm
  read_eq := by simp [Shared.start]
  write_iff := by
    intro i cmd
    simp only [Shared.start, List.not_mem_nil, false_iff, List.getElem?_map]
    rintro ⟨c, hc, hw⟩
    obtain ⟨call, -, rfl⟩ := Option.map_eq_some_iff.1 hc
    cases call <;> cases hw
  writers_nodup := List.nodup_nil
  callers_sound := by
    intro i c hc
    simp only [Shared.start, List.getElem?_map] at hc
    obtain ⟨call, -, rfl⟩ := Option.map_eq_some_iff.1 hc
    cases call <;> trivial

/-- Callers sharing a registry see it as a sequential registry: after any interleaving of the
steps of any callers, the reference holds what the sequential machine reaches by the commands of
the locked steps that took effect, in their order; those are the calls of the writers that
succeeded, each once; every snapshot a reader took is what the machine had reached by the
locked steps before it; and every reader that answered gave its command's answer on that
snapshot. -/
theorem shared_registry_linearizable (r₀ : Registry) (j : Log.Journal) (calls : List Call)
    (sched : List Nat) :
    let s := (Shared.start r₀ j calls).run sched
    s.ref = replay r₀ (writes s.history) ∧
      (∀ i cmd, .write i cmd ∈ s.history ↔ ∃ c, s.callers[i]? = some c ∧ c.wrote = some cmd) ∧
      (s.history.filterMap Event.writer?).Nodup ∧
      (∀ n i snap, s.history[n]? = some (.read i snap) →
        snap = replay r₀ (writes (s.history.take n))) ∧
      (∀ i q hq res, s.callers[i]? = some ⟨.read q hq, .done res⟩ →
        ∃ snap j', .read i snap ∈ s.history ∧
          res = (outcome (Session.step ⟨snap, {}⟩ q) j').map Prod.fst) := by
  intro s
  have hs : Linearized r₀ s := (linearized_start r₀ j calls).run sched
  exact ⟨hs.ref_eq, hs.write_iff, hs.writers_nodup, hs.read_eq,
    fun i q hq res hc => hs.callers_sound i _ hc⟩

/- Two reloads of different locales that both read their sources before either publishes: the
second publishes on the snapshot the first published, so both locales are kept. -/
example : (((Shared.start ⟨⟨[(.str "cs", ⟨.str "cs", ⟨[("a", "b")]⟩⟩)]⟩, {}, 1, false⟩ {}
    [.reload (.str "cs") (.str "a = c"), .reload (.str "de") (.str "a = d")]).run
    [0, 1, 0, 1, 0, 1]).ref.stores.keys = [.str "cs", .str "de"]) := by rfl

end Phrasebook.Registry
