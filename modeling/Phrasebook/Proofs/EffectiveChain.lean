import Phrasebook.Proofs.FirstHit
import Phrasebook.Proofs.Loading

/-!
The effective fallback chain of a locale.

A lookup for a locale walks the locale and then its fallbacks (`Fallback.fallbacks`): the chain
configured for it and then the default locale, each kept once at its first place, the locale
itself left out. Two deduplications meet here, one in the fallbacks and one in the chain, and
they agree because keeping first places commutes with leaving a locale out
(`eraseDups_filter`): the chain is the locale, its configured chain and the default locale,
deduplicated at once (`chain_fallbacks`). A configuration as it is read never has an empty
default locale (`ofFields_default_ne_empty`), so the default counts wherever one is set.

`effective_chain_dedup` states the chain and what follows from it: it starts with the locale,
has each locale once, holds every configured fallback and the default, its tail is the
fallbacks, and the default goes last only when neither the locale nor its configured chain
holds it already; a registry reports this chain for the locale.
-/

namespace Phrasebook.Locale

theorem eraseDups_concat {α : Type} [BEq α] [LawfulBEq α] (xs : List α) (x : α) :
    (xs ++ [x]).eraseDups = if x ∈ xs then xs.eraseDups else xs.eraseDups ++ [x] := by
  rw [List.eraseDups_append]
  by_cases hx : x ∈ xs
  · simp [hx, List.removeAll]
  · simp [hx, List.removeAll, List.eraseDups_cons]

theorem nodup_eraseDups {α : Type} [BEq α] [LawfulBEq α] (xs : List α) : xs.eraseDups.Nodup := by
  induction xs using List.reverseRecOn with
  | nil => exact List.nodup_nil
  | append_singleton xs x ih =>
    rw [eraseDups_concat]
    split
    · exact ih
    · next hx =>
      refine List.nodup_append.2 ⟨ih, by simp, fun a ha b hb => ?_⟩
      rw [List.mem_singleton.1 hb]
      exact fun he => hx (List.mem_eraseDups.1 (he ▸ ha))

theorem eraseDups_filter (p : String → Bool) (xs : List String) :
    (xs.filter p).eraseDups = xs.eraseDups.filter p := by
  induction xs using List.reverseRecOn with
  | nil => rfl
  | append_singleton xs x ih =>
    rw [List.filter_append, eraseDups_concat]
    by_cases hp : p x
    · have hs : [x].filter p = [x] := by simp [hp]
      rw [hs, eraseDups_concat, ih]
      by_cases hx : x ∈ xs
      · have hx' : x ∈ xs.filter p := List.mem_filter.2 ⟨hx, hp⟩
        rw [if_pos hx', if_pos hx]
      · have hx' : x ∉ xs.filter p := fun h => hx (List.mem_filter.1 h).1
        rw [if_neg hx', if_neg hx, List.filter_append, hs]
    · have hs : [x].filter p = [] := by simp [hp]
      rw [hs, List.append_nil, ih]
      split <;> simp [hp]

theorem eraseDups_eraseDups (xs : List String) : xs.eraseDups.eraseDups = xs.eraseDups :=
  Registry.eraseDups_of_nodup (nodup_eraseDups xs)

theorem chain_eraseDups_filter (l : String) (xs : List String) :
    chain l (xs.eraseDups.filter (· != l)) = (l :: xs).eraseDups := by
  have hq : ((xs.eraseDups.filter (· != l)).filter fun b => !b == l) =
      (xs.filter fun b => !b == l).eraseDups := by
    rw [List.filter_filter, ← eraseDups_filter]
    congr 2
    funext b
    simp
  rw [chain, List.eraseDups_cons, List.eraseDups_cons, hq, eraseDups_eraseDups]

end Phrasebook.Locale

namespace Phrasebook.Fallback

theorem chain_fallbacks (fb : Fallback) (l : String) :
    Locale.chain l (fb.fallbacks l) =
      (l :: ((fb.chains.get? l).getD [] ++ fb.defaultLocale.toList)).eraseDups :=
  Locale.chain_eraseDups_filter l _

theorem chain_eq_cons_fallbacks (fb : Fallback) (l : String) :
    Locale.chain l (fb.fallbacks l) = l :: fb.fallbacks l := by
  have hnd : (fb.fallbacks l).Nodup := (Locale.nodup_eraseDups _).filter _
  have hfilter : (fb.fallbacks l).filter (fun b => !b == l) = fb.fallbacks l :=
    List.filter_eq_self.2 fun b hb => by
      simpa using fun he : b = l => fallbacks_not_mem fb l (he ▸ hb)
  rw [Locale.chain, List.eraseDups_cons, hfilter, Registry.eraseDups_of_nodup hnd]

theorem normalize_ne_empty {v : Value} {t : String} (h : Locale.normalize v = .ok t) :
    t ≠ "" := by
  unfold Locale.normalize at h
  split at h
  · dsimp only at h
    split at h
    · cases h
    · next hne =>
      cases h
      exact fun he => hne (String.isEmpty_iff.2 he)
  · cases h

theorem readDefault_ne_empty {present : Bool} {v : Value} {d : Option String}
    (h : readDefault present v = .ok d) : ∀ x ∈ d, x ≠ "" := by
  intro x hx
  unfold readDefault at h
  split at h
  · cases h
    cases hx
    decide
  · split at h
    · cases h
      cases hx
    · cases hn : Locale.normalize v with
      | error m =>
        rw [hn] at h
        cases h
      | ok t =>
        rw [hn] at h
        cases h
        cases hx
        exact normalize_ne_empty hn

theorem ofFields_default_ne_empty {place : List String} {fs : List (String × Value)}
    {fb : Fallback} (h : ofFields place fs = .ok fb) : ∀ d ∈ fb.defaultLocale, d ≠ "" := by
  unfold ofFields at h
  dsimp only at h
  split at h
  · next d c hd hc =>
    cases h
    exact readDefault_ne_empty hd
  · cases h

theorem effective_chain_dedup {place : List String} {fs : List (String × Value)} {fb : Fallback}
    (hfb : ofFields place fs = .ok fb) (l : String) :
    let configured := (fb.chains.get? l).getD []
    let chain := Locale.chain l (fb.fallbacks l)
    chain = (l :: (configured ++ (fb.defaultLocale.filter (· != "")).toList)).eraseDups ∧
      chain.head? = some l ∧ chain.Nodup ∧
      (∀ x, x ∈ configured ∨ x ∈ fb.defaultLocale → x ∈ chain) ∧
      fb.fallbacks l = chain.tail ∧
      (∀ d ∈ fb.defaultLocale, d ∈ l :: configured →
        chain = (l :: configured).eraseDups) ∧
      (∀ d ∈ fb.defaultLocale, d ∉ l :: configured →
        chain = (l :: configured).eraseDups ++ [d]) ∧
      ∀ (s : Registry.Session) (j : Log.Journal), s.registry.fallback = fb →
        s.registry.closed = false →
        Registry.outcome (s.step (.chainFor (.str l))) j = .ok (.chain (chain.map .str), s) := by
  intro configured chain
  -- the default as the chain's tail: set, and not empty since it was read
  have htail : (fb.defaultLocale.filter (· != "")).toList = fb.defaultLocale.toList := by
    cases hd : fb.defaultLocale with
    | none => rfl
    | some d =>
      have hne := ofFields_default_ne_empty hfb d (by simp [hd])
      simp [hne]
  have hchain : chain = (l :: (configured ++ fb.defaultLocale.toList)).eraseDups :=
    chain_fallbacks fb l
  have hcons : chain = l :: fb.fallbacks l := chain_eq_cons_fallbacks fb l
  -- with a default set, the chain is that of the configured chain with the default added
  have hadd : ∀ d ∈ fb.defaultLocale,
      chain = ((l :: configured) ++ [d]).eraseDups := by
    intro d hd
    rw [hchain, Option.mem_def.1 hd]
    rfl
  refine ⟨by rw [htail]; exact hchain, by rw [hcons]; rfl, Locale.nodup_eraseDups _,
    fun x hx => ?_, by rw [hcons]; rfl, fun d hd hin => ?_, fun d hd hout => ?_,
    fun s j hfb' hopen => ?_⟩
  · rw [hchain, List.mem_eraseDups, List.mem_cons, List.mem_append, Option.mem_toList]
    exact Or.inr hx
  · rw [hadd d hd, Locale.eraseDups_concat, if_pos hin]
  · rw [hadd d hd, Locale.eraseDups_concat, if_neg hout]
  · rw [Registry.step_chainFor_outcome, hopen, Registry.chainFor_str, Registry.effectiveChain,
      hfb']
    rfl

/-- A configured chain that repeats the locale and ends with the default: the default stays
where the chain has it. -/
theorem effective_chain_dedup_cs :
    ofFields [] [("default_locale", .str " en "),
        ("chains", .record [("cs", .list [.str "sk", .str " cs", .str "en", .str "sk"])])] =
      .ok ⟨some "en", ⟨[("cs", ["sk", "cs", "en"])]⟩⟩ ∧
    let fb : Fallback := ⟨some "en", ⟨[("cs", ["sk", "cs", "en"])]⟩⟩
    let configured := (fb.chains.get? "cs").getD []
    let chain := Locale.chain "cs" (fb.fallbacks "cs")
    chain = ("cs" :: (configured ++ (fb.defaultLocale.filter (· != "")).toList)).eraseDups ∧
      chain.head? = some "cs" ∧ chain.Nodup ∧
      (∀ x, x ∈ configured ∨ x ∈ fb.defaultLocale → x ∈ chain) ∧
      fb.fallbacks "cs" = chain.tail ∧
      (∀ d ∈ fb.defaultLocale, d ∈ "cs" :: configured →
        chain = ("cs" :: configured).eraseDups) ∧
      (∀ d ∈ fb.defaultLocale, d ∉ "cs" :: configured →
        chain = ("cs" :: configured).eraseDups ++ [d]) ∧
      ∀ (s : Registry.Session) (j : Log.Journal), s.registry.fallback = fb →
        s.registry.closed = false →
        Registry.outcome (s.step (.chainFor (.str "cs"))) j =
          .ok (.chain (chain.map .str), s) :=
  have h : ofFields [] [("default_locale", .str " en "),
      ("chains", .record [("cs", .list [.str "sk", .str " cs", .str "en", .str "sk"])])] =
      .ok ⟨some "en", ⟨[("cs", ["sk", "cs", "en"])]⟩⟩ := by rfl
  ⟨h, effective_chain_dedup h "cs"⟩

end Phrasebook.Fallback
