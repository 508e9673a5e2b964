import Phrasebook.Proofs.EffectiveChain
import Phrasebook.Proofs.RoundTrip

/-!
Reading a fallback configuration.

A configuration is read from a record with two members. The default locale may be absent, which
gives `en`, null, which gives none, or a locale tag: a text that is not blank once trimmed, kept
trimmed. The chains may be absent or null, which give none, or a record each of whose entries
holds a list of tags, or one tag standing for a list of one, under a key that is itself a tag. A
chain is read as its tags trimmed, each once at its first place, under its trimmed key; when two
keys trim alike the later chain is kept, at the first key's place (`Table.ofList`).

The rules are stated here on their own: the first fault of each member (`defaultFault`,
`chainsFault`) and the value it reads as (`defaultOf`, `chainsOf`), with nothing of how the
reading walks the record. `ofFields_eq` says the reading is exactly these rules. A record that
breaks them fails with one issue per broken member, the default locale's first; the chains'
issue is that of the first broken entry, and within an entry the value's shape is checked first,
then its members in order, and its key last.

What reading gives is `Normal`: every tag trimmed and not blank, the chains' keys and each
chain's members each once. The dump of a normal configuration reads back as itself
(`ofValue_dump`). `ofValue_reads_normalised` states the whole.
-/

namespace Phrasebook.Table

variable {α : Type}

theorem keys_assign (ps : List (String × α)) (k : String) (v : α) :
    (assign ps k v).map Prod.fst =
      if k ∈ ps.map Prod.fst then ps.map Prod.fst else ps.map Prod.fst ++ [k] := by
  induction ps with
  | nil => rfl
  | cons p ps ih =>
    obtain ⟨k', v'⟩ := p
    by_cases h : k' = k
    · simp [assign, h]
    · simp only [assign, h, if_false, List.map_cons, ih, List.mem_cons, Ne.symm h, false_or]
      split <;> rfl

theorem assign_of_not_mem {ps : List (String × α)} {k : String} (v : α)
    (h : k ∉ ps.map Prod.fst) : assign ps k v = ps ++ [(k, v)] := by
  induction ps with
  | nil => rfl
  | cons p ps ih =>
    obtain ⟨k', v'⟩ := p
    simp only [List.map_cons, List.mem_cons, not_or] at h
    simp [assign, Ne.symm h.1, ih h.2]

theorem ofList_append (ps : List (String × α)) (p : String × α) :
    ofList (ps ++ [p]) = (ofList ps).set p.1 p.2 := by
  rw [ofList, List.foldl_append]
  rfl

theorem keys_ofList (ps : List (String × α)) :
    (ofList ps).keys = (ps.map Prod.fst).eraseDups := by
  induction ps using List.reverseRecOn with
  | nil => rfl
  | append_singleton ps p ih =>
    have hmem : p.1 ∈ (ofList ps).keys ↔ p.1 ∈ ps.map Prod.fst := by rw [ih, List.mem_eraseDups]
    rw [ofList_append, List.map_append, List.map_singleton, Locale.eraseDups_concat, ← ih]
    show (assign (ofList ps).entries p.1 p.2).map Prod.fst = _
    rw [keys_assign]
    exact if_congr hmem rfl rfl

theorem ofList_of_nodup {ps : List (String × α)} (h : (ps.map Prod.fst).Nodup) :
    ofList ps = ⟨ps⟩ := by
  induction ps using List.reverseRecOn with
  | nil => rfl
  | append_singleton ps p ih =>
    rw [List.map_append, List.nodup_append] at h
    have hp : p.1 ∉ ps.map Prod.fst := fun hp => h.2.2 p.1 hp p.1 List.mem_cons_self rfl
    rw [ofList_append, ih h.1, set, assign_of_not_mem _ hp]

theorem get?_foldl_set_ne {k : String} : ∀ (ps : List (String × α)) (t : Table α),
    (∀ q ∈ ps, q.1 ≠ k) → (ps.foldl (fun t p => t.set p.1 p.2) t).get? k = t.get? k
  | [], _, _ => rfl
  | q :: ps, t, h => by
    rw [List.foldl_cons, get?_foldl_set_ne ps _ fun r hr => h r (List.mem_cons_of_mem _ hr),
      get?_set_ne _ _ (Ne.symm (h q List.mem_cons_self))]

theorem get?_ofList_of_last {pre post : List (String × α)} {k : String} {v : α}
    (h : ∀ q ∈ post, q.1 ≠ k) : (ofList (pre ++ (k, v) :: post)).get? k = some v := by
  rw [ofList, List.foldl_append, List.foldl_cons, get?_foldl_set_ne post _ h, get?_set_self]

theorem mem_ofList {ps : List (String × α)} {p : String × α} (h : p ∈ (ofList ps).entries) :
    p ∈ ps := by
  induction ps using List.reverseRecOn with
  | nil => cases h
  | append_singleton ps q ih =>
    rw [ofList_append] at h
    rcases mem_assign h with h | rfl
    · exact List.mem_append_left _ (ih h)
    · exact List.mem_append_right _ List.mem_cons_self

/-- A table of a record's members under their trimmed names lists each name once, at its first
place, and holds under it what the last member of that name gives. -/
theorem ofList_trimmed {β : Type} (g : Value → β) (es : List (String × Value)) :
    (ofList (es.map fun p => (Text.trim p.1, g p.2))).keys =
        (es.map fun p => Text.trim p.1).eraseDups ∧
      ∀ pre p post, es = pre ++ p :: post → (∀ q ∈ post, Text.trim q.1 ≠ Text.trim p.1) →
        (ofList (es.map fun p => (Text.trim p.1, g p.2))).get? (Text.trim p.1) = some (g p.2) := by
  refine ⟨by rw [keys_ofList, List.map_map]; rfl, fun pre p post hes hpost => ?_⟩
  subst hes
  rw [List.map_append, List.map_cons]
  refine get?_ofList_of_last fun q hq => ?_
  obtain ⟨r, hr, rfl⟩ := List.mem_map.1 hq
  exact hpost r hr

end Phrasebook.Table

namespace Phrasebook.Fallback

/-! ### The rules, stated on their own -/

/-- A locale tag as a setting takes one: a text that is not blank once trimmed. -/
def IsTag (v : Value) : Prop := ∃ s, v = .str s ∧ Text.trim s ≠ ""

/-- Why a value is no locale tag as a setting takes one, if it is not. -/
def tagFault : Value → Option String
  | .str s => if (Text.trim s).isEmpty then some "locale must not be empty" else none
  | _ => some "locale must be a string"

/-- The tag a value stands for: its text, trimmed. -/
def tagOf : Value → String
  | .str s => Text.trim s
  | _ => ""

@[simp] theorem tagOf_str (s : String) : tagOf (.str s) = Text.trim s := rfl

/-- The members a chain value lists; a text stands for a list of one. -/
def chainItems : Value → Option (List Value)
  | .str s => some [.str s]
  | .list xs => some xs
  | _ => none

/-- The chain a value reads as: its members' tags, each once at its first place. -/
def chainTags (v : Value) : List String := (((chainItems v).getD []).map tagOf).eraseDups

/-- Why a chain entry cannot be read: its value lists nothing, or the first of its members that
is no tag, or else its key is no tag. -/
def entryFault (p : String × Value) : Option String :=
  match chainItems p.2 with
  | none => some ("fallback chain for " ++ Text.quote p.1 ++ " must be a list")
  | some items => (items.findSome? tagFault).or (tagFault (.str p.1))

/-- Why the chains member cannot be read: it is no record, or the first entry that cannot be. -/
def chainsFault : Value → Option String
  | .null => none
  | .record cs => cs.findSome? entryFault
  | _ => some "chains must be a mapping of locale -> list of locales"

/-- The chains a member reads as: each entry's tags under its trimmed key. -/
def chainsOf : Value → Table (List String)
  | .record cs => Table.ofList (cs.map fun p => (Text.trim p.1, chainTags p.2))
  | _ => Table.empty

/-- Why the default locale member cannot be read; absent and null are read. -/
def defaultFault : Option Value → Option String
  | none | some .null => none
  | some v => tagFault v

/-- The default locale a member reads as: `en` when absent, none when null, else its tag. -/
def defaultOf : Option Value → Option String
  | none => some "en"
  | some .null => none
  | some v => some (tagOf v)

/-- The issues of a configuration's members, placed under `place`: the default locale's, then
the chains'. -/
def issues (place : List String) (d : Option Value) (c : Value) : List Issue :=
  ((defaultFault d).map (valueIssue (place ++ ["default_locale"]))).toList ++
    ((chainsFault c).map (valueIssue (place ++ ["chains"]))).toList

/-- What the rules read a record's members as: the configuration when no member breaks them,
and otherwise the members' issues. -/
def rulesOf (place : List String) (fs : List (String × Value)) : Except (List Issue) Fallback :=
  let d := Table.lookup fs "default_locale"
  let c := (Table.lookup fs "chains").getD .null
  if defaultFault d = none ∧ chainsFault c = none then .ok ⟨defaultOf d, chainsOf c⟩
  else .error (issues place d c)

theorem tagFault_eq_none_iff {v : Value} : tagFault v = none ↔ IsTag v := by
  cases v <;> simp [tagFault, IsTag, String.isEmpty_iff]

theorem entryFault_eq_none_iff {p : String × Value} :
    entryFault p = none ↔
      IsTag (.str p.1) ∧ ∃ items, chainItems p.2 = some items ∧ ∀ v ∈ items, IsTag v := by
  unfold entryFault
  cases chainItems p.2 with
  | none => simp
  | some items =>
    simp only [Option.or_eq_none_iff, List.findSome?_eq_none_iff, tagFault_eq_none_iff,
      Option.some.injEq, exists_eq_left']
    exact And.comm

theorem defaultFault_eq_none_iff {d : Option Value} :
    defaultFault d = none ↔ ∀ v, d = some v → v = .null ∨ IsTag v := by
  rcases d with _ | v
  · simp [defaultFault]
  · cases v <;> simp [defaultFault, tagFault_eq_none_iff]

theorem chainsFault_eq_none_iff {c : Value} :
    chainsFault c = none ↔ c = .null ∨ ∃ cs, c = .record cs ∧
      ∀ p ∈ cs, IsTag (.str p.1) ∧ ∃ items, chainItems p.2 = some items ∧ ∀ v ∈ items, IsTag v := by
  cases c <;> simp [chainsFault, List.findSome?_eq_none_iff, entryFault_eq_none_iff]

/-! ### The reading follows the rules -/

theorem normalize_of_tagFault {v : Value} {m : String} (h : tagFault v = some m) :
    Locale.normalize v = .error m := by
  cases v with
  | str s =>
    simp only [tagFault] at h
    split at h
    · next he =>
      cases h
      simp only [Locale.normalize, he, if_true]
    · cases h
  | _ =>
    cases h
    rfl

theorem normalize_of_tag {v : Value} (h : tagFault v = none) : Locale.normalize v = .ok (tagOf v) := by
  cases v with
  | str s =>
    simp only [tagFault] at h
    split at h
    · cases h
    · next he =>
      simp only [Bool.not_eq_true] at he
      simp only [Locale.normalize, he, Bool.false_eq_true, if_false, tagOf]
  | _ => cases h

theorem mapM_normalize_of_fault {m : String} : ∀ {items : List Value},
    items.findSome? tagFault = some m → items.mapM Locale.normalize = .error m
  | [], h => by cases h
  | v :: items, h => by
    rw [List.mapM_cons]
    cases hv : tagFault v with
    | some m' =>
      simp only [List.findSome?_cons, hv, Option.some.injEq] at h
      rw [normalize_of_tagFault hv, h]
      rfl
    | none =>
      simp only [List.findSome?_cons, hv] at h
      rw [normalize_of_tag hv, mapM_normalize_of_fault h]
      rfl

theorem mapM_normalize_of_tags : ∀ {items : List Value},
    items.findSome? tagFault = none → items.mapM Locale.normalize = .ok (items.map tagOf)
  | [], _ => rfl
  | v :: items, h => by
    have hv : tagFault v = none := List.findSome?_eq_none_iff.1 h v List.mem_cons_self
    simp only [List.findSome?_cons, hv] at h
    rw [List.mapM_cons, normalize_of_tag hv, mapM_normalize_of_tags h]
    rfl

theorem readChains_cons (t : Table (List String)) (k : String) (v : Value)
    (rest : List (String × Value)) :
    readChains t ((k, v) :: rest) =
      match chainItems v with
      | none => .error ("fallback chain for " ++ Text.quote k ++ " must be a list")
      | some items =>
        readMembers items >>= fun members =>
          Locale.normalize (.str k) >>= fun key => readChains (t.set key members) rest := by
  -- a text or a list reads its members; every other value is refused before any member
  cases v <;> simp only [readChains, pure_bind] <;> rfl

/-- A broken entry ends the reading of the chains with its fault. -/
theorem readChains_cons_of_fault {t : Table (List String)} {p : String × Value}
    {rest : List (String × Value)} {m : String} (h : entryFault p = some m) :
    readChains t (p :: rest) = .error m := by
  obtain ⟨k, v⟩ := p
  unfold entryFault at h
  rw [readChains_cons]
  cases hc : chainItems v with
  | none =>
    simp only [hc, Option.some.injEq] at h
    rw [h]
  | some items =>
    simp only [hc] at h
    cases hi : items.findSome? tagFault with
    | some m' =>
      simp only [hi, Option.some_or, Option.some.injEq] at h
      subst h
      simp only [readMembers, mapM_normalize_of_fault hi]
      rfl
    | none =>
      simp only [hi, Option.none_or] at h
      simp only [readMembers, mapM_normalize_of_tags hi, normalize_of_tagFault h]
      rfl

theorem readChains_cons_of_ok {t : Table (List String)} {p : String × Value}
    {rest : List (String × Value)} (h : entryFault p = none) :
    readChains t (p :: rest) = readChains (t.set (Text.trim p.1) (chainTags p.2)) rest := by
  obtain ⟨k, v⟩ := p
  obtain ⟨hk, items, hc, hitems⟩ := entryFault_eq_none_iff.1 h
  have hi : items.findSome? tagFault = none :=
    List.findSome?_eq_none_iff.2 fun x hx => tagFault_eq_none_iff.2 (hitems x hx)
  rw [readChains_cons, hc]
  simp only [readMembers, mapM_normalize_of_tags hi, normalize_of_tag (tagFault_eq_none_iff.2 hk)]
  simp only [chainTags, hc, Option.getD_some, tagOf]
  rfl

theorem readChains_of_fault {m : String} : ∀ {cs : List (String × Value)}
    (t : Table (List String)), cs.findSome? entryFault = some m → readChains t cs = .error m
  | [], _, h => by cases h
  | p :: rest, t, h => by
    cases hp : entryFault p with
    | some m' =>
      simp only [List.findSome?_cons, hp, Option.some.injEq] at h
      exact h ▸ readChains_cons_of_fault hp
    | none =>
      simp only [List.findSome?_cons, hp] at h
      rw [readChains_cons_of_ok hp, readChains_of_fault _ h]

theorem readChains_of_ok : ∀ {cs : List (String × Value)} (t : Table (List String)),
    cs.findSome? entryFault = none →
      readChains t cs = .ok ((cs.map fun p => (Text.trim p.1, chainTags p.2)).foldl
        (fun t p => t.set p.1 p.2) t)
  | [], _, _ => rfl
  | p :: rest, t, h => by
    have hp : entryFault p = none := List.findSome?_eq_none_iff.1 h p List.mem_cons_self
    simp only [List.findSome?_cons, hp] at h
    rw [readChains_cons_of_ok hp, readChains_of_ok _ h]
    rfl

theorem readChainsOf_of_fault {c : Value} {m : String} (h : chainsFault c = some m) :
    readChainsOf c = .error m := by
  cases c with
  | null => cases h
  | record cs => exact readChains_of_fault _ h
  | _ =>
    cases h
    rfl

theorem readChainsOf_of_ok {c : Value} (h : chainsFault c = none) :
    readChainsOf c = .ok (chainsOf c) := by
  cases c with
  | null => rfl
  | record cs => exact readChains_of_ok _ h
  | _ => cases h

theorem readDefault_of_fault {d : Option Value} {m : String} (h : defaultFault d = some m) :
    readDefault d.isSome (d.getD .null) = .error m := by
  rcases d with _ | v
  · cases h
  · cases v with
    | null => cases h
    | _ =>
      simp only [defaultFault] at h
      simp only [readDefault, Option.isSome_some, Bool.not_true, Option.getD_some]
      rw [normalize_of_tagFault h]
      rfl

theorem readDefault_of_ok {d : Option Value} (h : defaultFault d = none) :
    readDefault d.isSome (d.getD .null) = .ok (defaultOf d) := by
  rcases d with _ | v
  · rfl
  · cases v with
    | null => rfl
    | _ =>
      simp only [defaultFault] at h
      simp only [readDefault, Option.isSome_some, Bool.not_true, Option.getD_some]
      rw [normalize_of_tag h]
      rfl

theorem ofFields_eq (place : List String) (fs : List (String × Value)) :
    ofFields place fs = rulesOf place fs := by
  unfold ofFields rulesOf
  dsimp only
  generalize Table.lookup fs "default_locale" = d
  generalize (Table.lookup fs "chains").getD .null = c
  -- each member is read or fails on its own; the issues are those of the members that fail
  cases hd : defaultFault d with
  | none =>
    cases hc : chainsFault c with
    | none => simp [readDefault_of_ok hd, readChainsOf_of_ok hc]
    | some m => simp [readDefault_of_ok hd, readChainsOf_of_fault hc, issues, hd, hc]
  | some m =>
    cases hc : chainsFault c with
    | none => simp [readDefault_of_fault hd, readChainsOf_of_ok hc, issues, hd, hc]
    | some m' => simp [readDefault_of_fault hd, readChainsOf_of_fault hc, issues, hd, hc]

theorem namedFields_record (fs : List (String × Value)) : namedFields (.record fs) = .ok fs := by
  simp only [namedFields, Value.pairsOf_record, Except.map, List.filterMap_map, Function.comp_def,
    Prod.eta, List.filterMap_some]

theorem ofValue_record (fs : List (String × Value)) :
    ofValue (.record fs) = (rulesOf [] fs).mapError .invalid := by
  unfold ofValue
  -- an empty record counts as false and is read as no members, as its members are
  cases fs with
  | nil =>
    simp only [Value.truthy, List.isEmpty_nil, Bool.not_true, Bool.false_eq_true, if_false,
      pure, Except.pure, bind, Except.bind, ofFields_eq]
    cases rulesOf [] [] <;> rfl
  | cons p ps =>
    simp only [Value.truthy, List.isEmpty_cons, Bool.not_false, if_true, namedFields_record,
      bind, Except.bind, ofFields_eq]
    cases rulesOf [] (p :: ps) <;> rfl

/-! ### What reading gives, and reading it again -/

/-- A tag as reading leaves it: trimmed and not blank. -/
def Trimmed (x : String) : Prop := Text.trim x = x ∧ x ≠ ""

/-- A configuration as reading leaves it: every tag trimmed and not blank, and the chains' keys
and each chain's members each once. -/
structure Normal (fb : Fallback) : Prop where
  default_trimmed : ∀ d ∈ fb.defaultLocale, Trimmed d
  keys_nodup : fb.chains.keys.Nodup
  key_trimmed : ∀ p ∈ fb.chains.entries, Trimmed p.1
  chain_nodup : ∀ p ∈ fb.chains.entries, p.2.Nodup
  member_trimmed : ∀ p ∈ fb.chains.entries, ∀ x ∈ p.2, Trimmed x

theorem trim_trim (s : String) : Text.trim (Text.trim s) = Text.trim s :=
  Text.trim_ofList_trimList _

theorem trimmed_tagOf {v : Value} (h : IsTag v) : Trimmed (tagOf v) := by
  obtain ⟨s, rfl, hs⟩ := h
  rw [tagOf_str]
  exact ⟨trim_trim s, hs⟩

theorem isTag_of_trimmed {x : String} (h : Trimmed x) : IsTag (.str x) :=
  ⟨x, rfl, by rw [h.1]; exact h.2⟩

theorem chainTags_normal {v : Value} {items : List Value} (hc : chainItems v = some items)
    (hitems : ∀ x ∈ items, IsTag x) :
    (chainTags v).Nodup ∧ ∀ x ∈ chainTags v, Trimmed x := by
  refine ⟨Locale.nodup_eraseDups _, fun x hx => ?_⟩
  rw [chainTags, hc, Option.getD_some, List.mem_eraseDups, List.mem_map] at hx
  obtain ⟨y, hy, rfl⟩ := hx
  exact trimmed_tagOf (hitems y hy)

theorem trimmed_en : Trimmed "en" := ⟨rfl, by decide⟩

theorem defaultOf_trimmed {d : Option Value} (hd : defaultFault d = none) :
    ∀ x ∈ defaultOf d, Trimmed x := by
  intro x hx
  rcases d with _ | v
  · cases hx
    exact trimmed_en
  · rcases defaultFault_eq_none_iff.1 hd v rfl with rfl | ⟨s, rfl, hs⟩
    · cases hx
    · cases hx
      simpa only [tagOf_str] using trimmed_tagOf ⟨s, rfl, hs⟩

theorem chainsOf_normal {c : Value} (hc : chainsFault c = none) :
    ∀ p ∈ (chainsOf c).entries, Trimmed p.1 ∧ p.2.Nodup ∧ ∀ x ∈ p.2, Trimmed x := by
  intro p hp
  rcases chainsFault_eq_none_iff.1 hc with rfl | ⟨cs, rfl, hcs⟩
  · simp [chainsOf, Table.empty] at hp
  · rw [chainsOf] at hp
    obtain ⟨q, hq, rfl⟩ := List.mem_map.1 (Table.mem_ofList hp)
    obtain ⟨hk, items, hi, hitems⟩ := hcs q hq
    have hkey : Trimmed (Text.trim q.1) := by
      simpa only [tagOf_str] using trimmed_tagOf hk
    exact ⟨hkey, chainTags_normal hi hitems⟩

theorem chainsOf_record (cs : List (String × Value)) :
    (chainsOf (.record cs)).keys = (cs.map fun p => Text.trim p.1).eraseDups ∧
      ∀ pre p post, cs = pre ++ p :: post → (∀ q ∈ post, Text.trim q.1 ≠ Text.trim p.1) →
        (chainsOf (.record cs)).get? (Text.trim p.1) = some (chainTags p.2) :=
  Table.ofList_trimmed chainTags cs

theorem keys_chainsOf_nodup (c : Value) : (chainsOf c).keys.Nodup := by
  cases c with
  | record cs =>
    rw [chainsOf, Table.keys_ofList]
    exact Locale.nodup_eraseDups _
  | _ => exact List.nodup_nil

theorem normal_of_rules {d : Option Value} {c : Value} (hd : defaultFault d = none)
    (hc : chainsFault c = none) : Normal ⟨defaultOf d, chainsOf c⟩ where
  default_trimmed := defaultOf_trimmed hd
  keys_nodup := keys_chainsOf_nodup c
  key_trimmed p hp := (chainsOf_normal hc p hp).1
  chain_nodup p hp := (chainsOf_normal hc p hp).2.1
  member_trimmed p hp := (chainsOf_normal hc p hp).2.2

theorem chainTags_ofStrings {xs : List String} (hn : xs.Nodup) (ht : ∀ x ∈ xs, Trimmed x) :
    chainTags (.ofStrings xs) = xs := by
  have hmap : xs.map (fun x => tagOf (.str x)) = xs :=
    calc xs.map (fun x => tagOf (.str x)) = xs.map id :=
        List.map_congr_left fun x hx => by rw [tagOf_str, (ht x hx).1, id]
      _ = xs := List.map_id xs
  simp only [chainTags, Value.ofStrings, chainItems, Option.getD_some, List.map_map,
    Function.comp_def, hmap]
  exact Registry.eraseDups_of_nodup hn

theorem rulesOf_of_sound {place : List String} {fs : List (String × Value)} {d : Option Value}
    {c : Value} (hdf : defaultFault d = none) (hcf : chainsFault c = none)
    (hd : Table.lookup fs "default_locale" = d) (hc : (Table.lookup fs "chains").getD .null = c) :
    rulesOf place fs = .ok ⟨defaultOf d, chainsOf c⟩ := by
  unfold rulesOf
  rw [hd, hc, if_pos ⟨hdf, hcf⟩]

theorem defaultFault_str {x : String} (h : Trimmed x) : defaultFault (some (.str x)) = none := by
  simp only [defaultFault]
  exact tagFault_eq_none_iff.2 (isTag_of_trimmed h)

theorem defaultOf_str {x : String} (h : Trimmed x) : defaultOf (some (.str x)) = some x := by
  show some (tagOf (.str x)) = some x
  rw [tagOf_str, h.1]

theorem chainsFault_written {fb : Fallback} (h : fb.Normal) :
    chainsFault (.record (fb.chains.entries.map fun p => (p.1, Value.ofStrings p.2))) = none := by
  refine chainsFault_eq_none_iff.2 (Or.inr ⟨_, rfl, fun p hp => ?_⟩)
  obtain ⟨q, hq, rfl⟩ := List.mem_map.1 hp
  refine ⟨isTag_of_trimmed (h.key_trimmed q hq), _, rfl, fun v hv => ?_⟩
  obtain ⟨x, hx, rfl⟩ := List.mem_map.1 hv
  exact isTag_of_trimmed (h.member_trimmed q hq x hx)

theorem chainsOf_written {fb : Fallback} (h : fb.Normal) :
    chainsOf (.record (fb.chains.entries.map fun p => (p.1, Value.ofStrings p.2))) = fb.chains := by
  have hes : ((fb.chains.entries.map fun p => (p.1, Value.ofStrings p.2)).map
      fun p => (Text.trim p.1, chainTags p.2)) = fb.chains.entries :=
    calc _ = fb.chains.entries.map id := by
          rw [List.map_map]
          refine List.map_congr_left fun q hq => ?_
          simp only [Function.comp_apply, id, (h.key_trimmed q hq).1,
            chainTags_ofStrings (h.chain_nodup q hq) (h.member_trimmed q hq)]
      _ = fb.chains.entries := List.map_id _
  rw [chainsOf, hes, Table.ofList_of_nodup h.keys_nodup]

theorem ofValue_dump {fb : Fallback} (h : fb.Normal) : ofValue fb.dump = .ok fb := by
  have hdf : defaultFault (some (.ofOption fb.defaultLocale)) = none := by
    cases hx : fb.defaultLocale with
    | none => rfl
    | some x => exact defaultFault_str (h.default_trimmed x hx)
  have hdo : defaultOf (some (.ofOption fb.defaultLocale)) = fb.defaultLocale := by
    cases hx : fb.defaultLocale with
    | none => rfl
    | some x => exact defaultOf_str (h.default_trimmed x hx)
  rw [dump, ofValue_record, rulesOf_of_sound hdf (chainsFault_written h) rfl rfl, hdo,
    chainsOf_written h]
  rfl

/-- Reading a fallback configuration from a record, or from null, which reads as the empty
record. A record is read exactly when its default locale is absent, null or a tag, and its
chains are absent, null, or a record each of whose entries lists tags, or is one tag, under a
key that is a tag. What is read has the default locale `en` when absent, none when null, and
the trimmed tag otherwise; its chains hold each trimmed key once, at its first place, with the
trimmed tags of the key's last entry, each once; and its dump reads back as itself. A record
that is not read fails with the default locale's issue and then the chains' issue, which is
that of the first broken entry. -/
theorem ofValue_reads_normalised (fs : List (String × Value)) :
    let d := Table.lookup fs "default_locale"
    let c := (Table.lookup fs "chains").getD .null
    ofValue .null = ofValue (.record []) ∧
    ((∃ fb, ofValue (.record fs) = .ok fb) ↔
      (∀ v, d = some v → v = .null ∨ IsTag v) ∧
      (c = .null ∨ ∃ cs, c = .record cs ∧ ∀ p ∈ cs,
        IsTag (.str p.1) ∧ ∃ items, chainItems p.2 = some items ∧ ∀ v ∈ items, IsTag v)) ∧
    (∀ fb, ofValue (.record fs) = .ok fb →
      (d = none → fb.defaultLocale = some "en") ∧
      (d = some .null → fb.defaultLocale = none) ∧
      (∀ s, d = some (.str s) → fb.defaultLocale = some (Text.trim s)) ∧
      (c = .null → fb.chains = Table.empty) ∧
      (∀ cs, c = .record cs →
        fb.chains.keys = (cs.map fun p => Text.trim p.1).eraseDups ∧
        ∀ pre p post, cs = pre ++ p :: post → (∀ q ∈ post, Text.trim q.1 ≠ Text.trim p.1) →
          fb.chains.get? (Text.trim p.1) = some (chainTags p.2)) ∧
      ofValue fb.dump = .ok fb) ∧
    ∀ f, ofValue (.record fs) = .error f → f = .invalid (issues [] d c) := by
  intro d c
  have hrules : rulesOf [] fs = if defaultFault d = none ∧ chainsFault c = none then
      .ok ⟨defaultOf d, chainsOf c⟩ else .error (issues [] d c) := rfl
  have hread := ofValue_record fs
  rw [hrules] at hread
  -- the rules either let the record through or give its issues
  by_cases hr : defaultFault d = none ∧ chainsFault c = none
  · rw [if_pos hr] at hread
    refine ⟨rfl, ⟨fun _ => ⟨defaultFault_eq_none_iff.1 hr.1, chainsFault_eq_none_iff.1 hr.2⟩,
      fun _ => ⟨_, hread⟩⟩, fun fb hfb => ?_, fun f hf => ?_⟩
    · rw [hread] at hfb
      cases hfb
      refine ⟨fun hd => by rw [hd]; rfl, fun hd => by rw [hd]; rfl, fun s hs => by rw [hs]; rfl,
        fun hc => by rw [hc]; rfl, fun cs hcs => ?_, ofValue_dump (normal_of_rules hr.1 hr.2)⟩
      rw [hcs]
      exact chainsOf_record cs
    · rw [hread] at hf
      cases hf
  · rw [if_neg hr] at hread
    refine ⟨rfl, ⟨fun ⟨fb, hfb⟩ => ?_, fun ⟨ha, hb⟩ => ?_⟩, fun fb hfb => ?_, fun f hf => ?_⟩
    · rw [hread] at hfb
      cases hfb
    · exact absurd ⟨defaultFault_eq_none_iff.2 ha, chainsFault_eq_none_iff.2 hb⟩ hr
    · rw [hread] at hfb
      cases hfb
    · rw [hread] at hf
      cases hf
      rfl

/-- An entry whose key is blank and whose member is no text: the member is checked first. -/
example : ofValue (.record [("chains", .record [(" ", .list [.int 1])])]) =
    .error (.invalid [valueIssue ["chains"] "locale must be a string"]) := by rfl

end Phrasebook.Fallback
