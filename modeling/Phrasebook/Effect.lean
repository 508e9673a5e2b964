/-!
Computations that keep a state and may fail: `ExceptT ε (StateM σ)`.

The registry's operations, which write to the journal, and downloads, which also use the
network, are both such computations. Run from a state, one gives an outcome and the state it
leaves. A sequence goes on from the state its first part left and stops at the first failure,
keeping the state that failure left (`run_bind_of_ok`, `run_bind_of_error`, `run_bind_eq_ok`);
a recovery runs from the state the failure left (`run_tryCatch_of_error`). `orFail` hands on a
computed outcome and never touches the state.

A test made of each item of a list in turn, any of which may fail, stops at the first test that
fails (`filterM_eq_error`, `filterM_error_mem`), and keeps the items that pass when none fails
(`filterM_eq_ok`).
-/

namespace Phrasebook

variable {ε σ α β : Type}

/-- Fails with the fault of a failed computation, or gives its value. -/
def orFail : Except ε α → ExceptT ε (StateM σ) α
  | .ok a => pure a
  | .error e => throw e

/-! ### Sequences of plain outcomes -/

theorem except_bind_eq_ok {x : Except ε α} {g : α → Except ε β} {b : β}
    (h : x >>= g = .ok b) : ∃ a, x = .ok a ∧ g a = .ok b := by
  cases x with
  | error e => cases h
  | ok a => exact ⟨a, rfl, h⟩

theorem except_bind_eq_error {x : Except ε α} {g : α → Except ε β} {e : ε}
    (h : x >>= g = .error e) : x = .error e ∨ ∃ a, x = .ok a ∧ g a = .error e := by
  cases x with
  | error e' => cases h; exact Or.inl rfl
  | ok a => exact Or.inr ⟨a, rfl, h⟩

/-! ### Runs from a state -/

section Run

variable {m : ExceptT ε (StateM σ) α} {s s' : σ}

@[simp] theorem run_orFail (x : Except ε α) (s : σ) :
    (orFail x : ExceptT ε (StateM σ) α).run.run s = (x, s) := by
  cases x <;> rfl

@[simp] theorem run_get (s : σ) : (get : ExceptT ε (StateM σ) σ).run.run s = (.ok s, s) := rfl

@[simp] theorem run_modify (f : σ → σ) (s : σ) :
    (modify f : ExceptT ε (StateM σ) PUnit).run.run s = (.ok ⟨⟩, f s) := rfl

theorem run_map (f : α → β) (s : σ) :
    (f <$> m).run.run s = match m.run.run s with
      | (.ok a, s') => (.ok (f a), s')
      | (.error e, s') => (.error e, s') := by
  simp only [ExceptT.run_map, StateT.run_map]
  rcases m.run.run s with ⟨_ | a, s'⟩ <;> rfl

theorem run_bind (g : α → ExceptT ε (StateM σ) β) (s : σ) :
    (m >>= g).run.run s = match m.run.run s with
      | (.ok a, s') => (g a).run.run s'
      | (.error e, s') => (.error e, s') := by
  simp only [ExceptT.run_bind, StateT.run_bind]
  rcases m.run.run s with ⟨_ | _, s'⟩ <;> rfl

theorem run_bind_of_ok {g : α → ExceptT ε (StateM σ) β} {a : α}
    (h : m.run.run s = (.ok a, s')) : (m >>= g).run.run s = (g a).run.run s' := by
  rw [run_bind, h]

theorem run_bind_of_error {g : α → ExceptT ε (StateM σ) β} {e : ε}
    (h : m.run.run s = (.error e, s')) : (m >>= g).run.run s = (.error e, s') := by
  rw [run_bind, h]

theorem run_bind_eq_ok {g : α → ExceptT ε (StateM σ) β} {b : β}
    (h : ((m >>= g).run.run s).1 = .ok b) :
    ∃ a s', m.run.run s = (.ok a, s') ∧ ((g a).run.run s').1 = .ok b := by
  rw [run_bind] at h
  rcases hm : m.run.run s with ⟨_ | a, s'⟩
  · rw [hm] at h
    cases h
  · rw [hm] at h
    exact ⟨a, s', rfl, h⟩

theorem run_tryCatch (handler : ε → ExceptT ε (StateM σ) α) (s : σ) :
    (tryCatch m handler).run.run s = match m.run.run s with
      | (.ok a, s') => (.ok a, s')
      | (.error e, s') => (handler e).run.run s' := by
  rw [ExceptT.run_tryCatch, StateT.run_bind]
  rcases m.run.run s with ⟨_ | a, s'⟩ <;> rfl

theorem run_tryCatch_of_ok {handler : ε → ExceptT ε (StateM σ) α} {a : α}
    (h : m.run.run s = (.ok a, s')) : (tryCatch m handler).run.run s = (.ok a, s') := by
  rw [run_tryCatch, h]

theorem run_tryCatch_of_error {handler : ε → ExceptT ε (StateM σ) α} {e : ε}
    (h : m.run.run s = (.error e, s')) :
    (tryCatch m handler).run.run s = (handler e).run.run s' := by
  rw [run_tryCatch, h]

theorem run_tryCatch_keep {r : Except ε α} (h : m.run.run s = (r, s')) :
    (tryCatch (Except.ok <$> m) fun e => pure (.error e)).run.run s = (.ok r, s') := by
  have hmap : (Except.ok <$> m : ExceptT ε (StateM σ) (Except ε α)).run.run s =
      (r.map Except.ok, s') := by
    rw [run_map, h]
    cases r <;> rfl
  cases r with
  | ok a => exact run_tryCatch_of_ok hmap
  | error e => rw [run_tryCatch_of_error hmap]; rfl

theorem run_forIn_modify (xs : List α) (f : α → σ → σ) (s : σ) :
    (forIn xs PUnit.unit (fun x _ => do modify (f x); pure (ForInStep.yield PUnit.unit)) :
        ExceptT ε (StateM σ) PUnit).run.run s = (.ok PUnit.unit, xs.foldl (fun s x => f x s) s) := by
  induction xs generalizing s with
  | nil => rfl
  | cons x xs ih =>
    simp only [List.forIn_cons, run_bind]
    exact ih (f x s)

/-- A loop that changes the state for the items that pass a test changes it for those items, in
order, and never fails. -/
theorem run_forIn_modify_when (xs : List α) (c : α → Bool) (f : α → σ → σ) (s : σ) :
    (forIn xs PUnit.unit (fun x _ =>
        if c x = true then do
          modify (f x)
          pure (ForInStep.yield PUnit.unit)
        else pure (ForInStep.yield PUnit.unit)) : ExceptT ε (StateM σ) PUnit).run.run s =
      (.ok PUnit.unit, (xs.filter c).foldl (fun s x => f x s) s) := by
  induction xs generalizing s with
  | nil => rfl
  | cons x xs ih =>
    rw [List.forIn_cons]
    by_cases hc : c x = true
    · simp only [hc, if_true, run_bind, run_modify, List.filter_cons_of_pos hc, List.foldl_cons]
      exact ih _
    · simp only [hc, Bool.false_eq_true, if_false, run_bind, List.filter_cons_of_neg hc]
      exact ih s

end Run

/-! ### Tests of each item in turn -/

section Tests

variable {p : α → Except ε Bool}

theorem filterAuxM_eq_ok {q : α → Bool} :
    ∀ (xs acc : List α), (∀ x ∈ xs, p x = .ok (q x)) →
      List.filterAuxM p xs acc = .ok ((xs.filter q).reverse ++ acc)
  | [], acc, _ => rfl
  | x :: xs, acc, h => by
    have hx := h x List.mem_cons_self
    have ih := filterAuxM_eq_ok xs (cond (q x) (x :: acc) acc)
      fun y hy => h y (List.mem_cons_of_mem x hy)
    simp only [List.filterAuxM, hx, bind, Except.bind, ih]
    cases hq : q x <;> simp [hq]

theorem filterM_eq_ok {q : α → Bool} {xs : List α} (h : ∀ x ∈ xs, p x = .ok (q x)) :
    xs.filterM p = .ok (xs.filter q) := by
  simp only [List.filterM, filterAuxM_eq_ok xs [] h, bind, Except.bind, List.append_nil,
    List.reverse_reverse]
  rfl

theorem filterAuxM_eq_error {e : ε} :
    ∀ (pre : List α) (x : α) (post acc : List α), (∀ y ∈ pre, ∃ b, p y = .ok b) →
      p x = .error e → List.filterAuxM p (pre ++ x :: post) acc = .error e
  | [], x, post, acc, _, hx => by
    simp only [List.nil_append, List.filterAuxM, hx, bind, Except.bind]
  | y :: pre, x, post, acc, hpre, hx => by
    obtain ⟨b, hy⟩ := hpre y List.mem_cons_self
    simp only [List.cons_append, List.filterAuxM, hy, bind, Except.bind]
    exact filterAuxM_eq_error pre x post _ (fun z hz => hpre z (List.mem_cons_of_mem y hz)) hx

theorem filterM_eq_error {e : ε} {pre post : List α} {x : α}
    (hpre : ∀ y ∈ pre, ∃ b, p y = .ok b) (hx : p x = .error e) :
    (pre ++ x :: post).filterM p = .error e := by
  simp only [List.filterM, filterAuxM_eq_error pre x post [] hpre hx, bind, Except.bind]

theorem filterAuxM_error_mem {e : ε} :
    ∀ (xs acc : List α), List.filterAuxM p xs acc = .error e → ∃ x ∈ xs, p x = .error e
  | [], acc, h => by cases h
  | x :: xs, acc, h => by
    simp only [List.filterAuxM, bind, Except.bind] at h
    cases hx : p x with
    | error e' =>
      rw [hx] at h
      cases h
      exact ⟨x, List.mem_cons_self, hx⟩
    | ok b =>
      rw [hx] at h
      obtain ⟨y, hy, hpy⟩ := filterAuxM_error_mem xs _ h
      exact ⟨y, List.mem_cons_of_mem x hy, hpy⟩

theorem filterM_error_mem {e : ε} {xs : List α} (h : xs.filterM p = .error e) :
    ∃ x ∈ xs, p x = .error e := by
  simp only [List.filterM, bind, Except.bind] at h
  split at h
  · cases h
    exact filterAuxM_error_mem xs [] ‹_›
  · cases h

end Tests

end Phrasebook
