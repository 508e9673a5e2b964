import Phrasebook.Proofs.Outcome

/-!
Fallback resolution is the first hit over the effective chain.

For a locale and a key given as texts, the chain a lookup walks is the locale followed by its
effective fallbacks, each locale once at its first place (`chainFor_str`). The walk answers from
the first locale of the chain whose catalog is loaded and has the key, even when the key's text
there is empty, and a miss names the whole chain, the locales without a catalog included
(`resolve_str`). An answer is a fallback exactly when it comes from another locale than the one
asked for.

Looking a key up in an open registry, resolving through the registry, and resolving in its
snapshot all give that same answer.

`resolve_first_hit` puts these together.
-/

namespace Phrasebook.Locale

/-- Building a chain of texts keeps each locale once, at its first place: what is already in
the chain is skipped, and the rest is deduplicated. -/
theorem foldlM_chainOf_strs (acc xs : List String) :
    (xs.map Value.str).foldlM (fun acc v =>
      match v.unhashable? with
      | some f => .error f
      | none => .ok (if acc.any (·.sameKey v) then acc else acc ++ [v]))
      (acc.map Value.str) =
    (Except.ok ((acc ++ (xs.filter fun x => x ∉ acc).eraseDups).map Value.str) :
      Except Fault _) := by
  induction xs generalizing acc with
  | nil => simp [pure, Except.pure]
  | cons x xs ih =>
    have hany : ((acc.map Value.str).any fun a => a.sameKey (.str x)) = decide (x ∈ acc) := by
      rw [Bool.eq_iff_iff]
      simp [List.any_map, Function.comp_def, Value.sameKey_str]
    have hstep : (match (Value.str x).unhashable? with
        | some f => (Except.error f : Except Fault (List Value))
        | none => .ok (if (acc.map Value.str).any (·.sameKey (.str x)) then acc.map Value.str
            else acc.map Value.str ++ [Value.str x])) =
        .ok (if x ∈ acc then acc.map Value.str else (acc ++ [x]).map Value.str) := by
      rw [hany]
      by_cases hx : x ∈ acc <;> simp [hx, Value.unhashable?]
    rw [List.map_cons, List.foldlM_cons, hstep]
    by_cases hx : x ∈ acc
    · rw [if_pos hx]
      refine (ih acc).trans ?_
      simp [hx]
    · rw [if_neg hx]
      refine (ih (acc ++ [x])).trans ?_
      have hfilter :
          (x :: xs).filter (fun y => y ∉ acc) = x :: xs.filter (fun y => y ∉ acc) := by
        simp [hx]
      have hdup : (x :: xs.filter (fun y => y ∉ acc)).eraseDups =
          x :: (xs.filter (fun y => y ∉ acc ++ [x])).eraseDups := by
        rw [List.eraseDups_cons, List.filter_filter]
        congr 2
        apply List.filter_congr
        intro y _
        by_cases hy : y = x <;> simp [hy]
      rw [hfilter, hdup]
      simp

theorem chainOf_strs (requested : String) (fallback : List String) :
    chainOf (.str requested) (fallback.map .str) = .ok ((chain requested fallback).map .str) := by
  have h := foldlM_chainOf_strs [] (requested :: fallback)
  have hall : (requested :: fallback).filter (fun x => x ∉ ([] : List String)) =
      requested :: fallback := List.filter_eq_self.2 fun x _ => by simp
  rw [hall, List.nil_append] at h
  exact h

end Phrasebook.Locale

namespace Phrasebook.Registry

/-- The chain a lookup for a locale given as a text walks: the locale, then its effective
fallbacks, each locale once. -/
def effectiveChain (r : Registry) (locale : String) : List String :=
  Locale.chain locale (r.fallback.fallbacks locale)

/-- The text of a key in a locale's catalog, when the locale is loaded and its catalog has
the key. -/
def textIn (stores : Mapping Catalog) (key locale : String) : Option String :=
  (stores.get? (.str locale)).bind (·.get? key)

theorem chainFor_str (r : Registry) (locale : String) :
    r.chainFor (.str locale) = .ok ((r.effectiveChain locale).map .str) := by
  have hf : r.fallback.fallbacksOf (.str locale) = .ok (r.fallback.fallbacks locale) := rfl
  simp only [chainFor, hf, bind, Except.bind, Locale.chainOf_strs, effectiveChain]

/-- Walking a chain of texts for a key given as a text finds the first locale whose catalog has
the key. -/
theorem firstHit_strs (stores : Mapping Catalog) (key : String) (chain : List String) :
    firstHit stores (.str key) (chain.map .str) =
      .ok ((chain.findSome? fun l => (textIn stores key l).map (l, ·)).map
        fun p => (.str p.1, p.2)) := by
  induction chain with
  | nil => rfl
  | cons l ls ih =>
    rw [List.map_cons, firstHit, List.findSome?_cons]
    cases hs : stores.get? (.str l) with
    | none =>
      have hl : textIn stores key l = none := by simp [textIn, hs]
      rw [hl]
      exact ih
    | some c =>
      dsimp only
      cases ht : c.get? key with
      | none =>
        have hl : textIn stores key l = none := by simp [textIn, hs, ht]
        rw [hl]
        exact ih
      | some t =>
        have hl : textIn stores key l = some t := by simp [textIn, hs, ht]
        rw [hl]
        rfl

theorem resolve_str (r : Registry) (locale key : String) :
    r.resolve (.str locale) (.str key) =
      match (r.effectiveChain locale).findSome? fun l => (textIn r.stores key l).map (l, ·) with
      | some (l, t) => .ok ⟨.str key, t, .str l, .str locale⟩
      | none => .error (.messageNotFound (.str key) (r.effectiveChain locale)) := by
  have hc := chainFor_str r locale
  have hh := firstHit_strs r.stores key (r.effectiveChain locale)
  cases hf : (r.effectiveChain locale).findSome? fun l => (textIn r.stores key l).map (l, ·) with
  | some p =>
    obtain ⟨l, t⟩ := p
    rw [hf] at hh
    exact resolve_ok_of_firstHit hc hh
  | none =>
    rw [hf] at hh
    exact resolve_error_of_firstHit hc hh (Fault.messageNotFoundOf_strs _ _)

theorem fallbackUsed_str (key text l requested : String) :
    (⟨.str key, text, .str l, .str requested⟩ : Resolution).fallbackUsed = true ↔
      l ≠ requested := by
  simp [Resolution.fallbackUsed, Value.equals, Value.number?, Value.sameKey_str]

/-- A hit: the locale that answers and every locale before it in the chain. -/
theorem resolve_eq_ok_iff (r : Registry) (locale key : String) (res : Resolution) :
    r.resolve (.str locale) (.str key) = .ok res ↔
      ∃ pre l post t, r.effectiveChain locale = pre ++ l :: post ∧
        (∀ l' ∈ pre, textIn r.stores key l' = none) ∧ textIn r.stores key l = some t ∧
        res = ⟨.str key, t, .str l, .str locale⟩ := by
  rw [resolve_str]
  constructor
  · intro h
    split at h
    next l t hf =>
      obtain ⟨pre, l', post, hsplit, hl, hpre⟩ := List.findSome?_eq_some_iff.1 hf
      obtain ⟨t', ht, hl't⟩ := Option.map_eq_some_iff.1 hl
      cases hl't
      cases h
      refine ⟨pre, l, post, t, hsplit, fun l' hl' => ?_, ht, rfl⟩
      simpa using hpre l' hl'
    next => cases h
  · rintro ⟨pre, l, post, t, hsplit, hpre, hl, rfl⟩
    have hf : ((r.effectiveChain locale).findSome? fun l => (textIn r.stores key l).map (l, ·)) =
        some (l, t) := by
      refine List.findSome?_eq_some_iff.2 ⟨pre, l, post, hsplit, by simp [hl], fun l' hl' => ?_⟩
      simp [hpre l' hl']
    rw [hf]

theorem resolve_of_misses (r : Registry) (locale key : String)
    (h : ∀ l ∈ r.effectiveChain locale, textIn r.stores key l = none) :
    r.resolve (.str locale) (.str key) =
      .error (.messageNotFound (.str key) (r.effectiveChain locale)) := by
  have hf : ((r.effectiveChain locale).findSome? fun l => (textIn r.stores key l).map (l, ·)) =
      none := by
    rw [List.findSome?_eq_none_iff]
    intro l hl
    simp [h l hl]
  rw [resolve_str, hf]

theorem resolve_first_hit (r : Registry) (locale key : String) :
    r.chainFor (.str locale) = .ok ((r.effectiveChain locale).map .str) ∧
    (∀ res, r.resolve (.str locale) (.str key) = .ok res ↔
      ∃ pre l post t, r.effectiveChain locale = pre ++ l :: post ∧
        (∀ l' ∈ pre, textIn r.stores key l' = none) ∧ textIn r.stores key l = some t ∧
        res = ⟨.str key, t, .str l, .str locale⟩ ∧ (res.fallbackUsed = true ↔ l ≠ locale)) ∧
    ((∀ l ∈ r.effectiveChain locale, textIn r.stores key l = none) →
      r.resolve (.str locale) (.str key) =
        .error (.messageNotFound (.str key) (r.effectiveChain locale))) ∧
    (r.closed = false → ∀ (s : Session) (j : Log.Journal), s.registry = r →
      outcome r.current j = .ok r ∧
      outcome (r.lookup (.str locale) (.str key)) j = r.resolve (.str locale) (.str key) ∧
      outcome (s.step (.resolve (.str locale) (.str key))) j =
        (r.resolve (.str locale) (.str key)).map (fun res => (.resolution res, s)) ∧
      outcome (s.step (.chainFor (.str locale))) j =
        .ok (.chain ((r.effectiveChain locale).map .str), s)) := by
  refine ⟨chainFor_str r locale, fun res => ?_, resolve_of_misses r locale key, ?_⟩
  · rw [resolve_eq_ok_iff]
    constructor
    · rintro ⟨pre, l, post, t, hsplit, hpre, hl, rfl⟩
      exact ⟨pre, l, post, t, hsplit, hpre, hl, rfl, fallbackUsed_str key t l locale⟩
    · rintro ⟨pre, l, post, t, hsplit, hpre, hl, hres, -⟩
      exact ⟨pre, l, post, t, hsplit, hpre, hl, hres⟩
  · intro hc s j hs
    subst hs
    refine ⟨by simp [hc], by simp [lookup_outcome, hc], by simp [step_resolve_outcome, hc], ?_⟩
    simp [step_chainFor_outcome, hc, chainFor_str, Except.map]

end Phrasebook.Registry
