import Phrasebook.Proofs.FileLoading
import Phrasebook.Proofs.FirstHit

/-!
Looking up a subtitle's text never lets a miss escape.

`Registry.lookupText` runs the registry's lookup and recovers from a miss: the miss is announced
as a warning, written at debug severity as an incident of `lookup` and counted under that type
in the tally, and answered with the default, or with the key itself when there is none. A hit is
answered with its text, an empty one too, and counts nothing. Any other fault passes through,
so a closed registry still refuses. `run_lookupText_of_ok`, `run_lookupText_of_miss` and
`run_lookupText_of_error` are the three ways a text lookup runs, after `run_lookup` says how the
lookup itself runs; together they give `lookupText_error_ne_miss`.

Counting an incident under a type appends it to that type's incidents, within the history
limit, and leaves every other type alone (`under_record_self`, `under_record_ne`).

`lookupText_answers_every_miss` puts these together for a locale and a key given as texts.
-/

namespace Phrasebook.Log.Tally

theorem put_eq_assignKey (type : Value) (is : List Incident) (ps : List (Value × List Incident)) :
    put type is ps = Value.assignKey ps type is := by
  induction ps with
  | nil => rfl
  | cons p ps ih =>
    obtain ⟨k, js⟩ := p
    simp only [put, Value.assignKey, ih]

theorem under_eq_lookupKey (t : Tally) (type : Value) :
    t.under type = (Value.lookupKey t.byType type).getD [] := by
  obtain ⟨ps⟩ := t
  unfold under
  congr 1
  induction ps with
  | nil => rfl
  | cons p ps ih =>
    obtain ⟨k, js⟩ := p
    by_cases hk : k.sameKey type <;> simp [Value.lookupKey, hk, ih]

theorem lookupKey_recordUnder_self (limit : Int) (t : Tally) (type : String) (i : Incident) :
    Value.lookupKey (t.recordUnder limit (.str type) i).byType (.str type) =
      some (trim limit (t.under (.str type) ++ [i])) := by
  simp only [recordUnder, put_eq_assignKey, Value.lookupKey_assignKey_str_self]

theorem lookupKey_recordUnder_ne (limit : Int) (t : Tally) {type other : String}
    (h : type ≠ other) (i : Incident) :
    Value.lookupKey (t.recordUnder limit (.str type) i).byType (.str other) =
      Value.lookupKey t.byType (.str other) := by
  simp only [recordUnder, put_eq_assignKey, Value.lookupKey_assignKey_str_ne _ _ h]

theorem under_record_self (t : Tally) (type : String) (i : Incident) :
    (t.record type i).under (.str type) = trim historyLimit (t.under (.str type) ++ [i]) := by
  rw [under_eq_lookupKey, record, lookupKey_recordUnder_self, Option.getD_some]

theorem under_record_ne (t : Tally) {type other : String} (h : type ≠ other) (i : Incident) :
    (t.record type i).under (.str other) = t.under (.str other) := by
  rw [under_eq_lookupKey, under_eq_lookupKey, record, lookupKey_recordUnder_ne _ _ h]

end Phrasebook.Log.Tally

namespace Phrasebook.Log

theorem Journal.records_announce (j : Journal) (level : Level) (e : Event) :
    (j.announce level e).records =
      j.records ++
        if Level.passes j.threshold level then [⟨level, e.line j.detailed⟩] else [] := by
  unfold Journal.announce
  split <;> simp [*, Journal.write]

theorem Journal.records_incident (j : Journal) (type : String) (message : Value)
    (exception : Option Fault) (context : List (String × Value)) (level : Level) :
    (j.incident type message exception context level).records =
      j.records ++ [⟨level, incidentLine type message exception context⟩] := rfl

theorem Journal.tally_incident (j : Journal) (type : String) (message : Value)
    (exception : Option Fault) (context : List (String × Value)) (level : Level) :
    (j.incident type message exception context level).tally =
      j.tally.record type ⟨message, context⟩ := rfl

theorem incidentLine_missing (k l c : String) :
    incidentLine "lookup" (.str ("Missing subtitle " ++ Text.quote k)) none
        [("locale", .str l), ("chain", .str c)] =
      "[LOOKUP] Missing subtitle " ++ Text.quote k ++ " | Context: locale=" ++ l ++
        " | chain=" ++ c := by
  have hu : Text.upper "lookup" = "LOOKUP" := by decide
  have hctx : (" | Context: locale=" : String) = " | Context: " ++ "locale=" := rfl
  have hchain : (" | chain=" : String) = " | " ++ "chain=" := rfl
  -- the line is assembled piece by piece: bring both sides to the same pieces
  simp [incidentLine, hu, ← String.append_assoc]
  rw [hctx, hchain]
  simp only [String.append_assoc]

end Phrasebook.Log

namespace Phrasebook.Registry

variable {α β : Type}

theorem run_eq_of_outcome {m : Act α} {j : Log.Journal} {x : Except Fault α}
    (h : outcome m j = x) : m.run.run j = (x, (m.run.run j).2) := by
  rw [← h]
  rfl

theorem run_lookup (r : Registry) (l k : Value) (j : Log.Journal) :
    (r.lookup l k).run.run j =
      if r.closed then (.error closedFault, j) else
      match r.resolve l k with
      | .error f => (.error f, j)
      | .ok res => (.ok res, if res.fallbackUsed then j.announce .debug
          ⟨"lookup", "fallback_used", none, [("locale", l), ("key", k),
            ("resolved_locale", res.locale)]⟩ else j) := by
  unfold lookup
  by_cases hc : r.closed
  · simp only [hc, run_bind, run_current, if_true]
  · simp only [hc, run_bind, run_current, Bool.false_eq_true, if_false, run_orFail]
    cases r.resolve l k with
    | error f => rfl
    | ok res => by_cases hf : res.fallbackUsed <;> simp [hf, say] <;> rfl

theorem run_lookup_of_error {r : Registry} {l k : Value} {j : Log.Journal} {f : Fault}
    (h : outcome (r.lookup l k) j = .error f) : (r.lookup l k).run.run j = (.error f, j) := by
  unfold outcome at h
  rw [run_lookup] at h ⊢
  by_cases hc : r.closed
  · simp only [hc, if_true] at h ⊢
    rw [h]
  · simp only [hc, Bool.false_eq_true, if_false] at h ⊢
    cases hres : r.resolve l k with
    | error f' =>
      rw [hres] at h
      dsimp only at h ⊢
      cases h
      rfl
    | ok res =>
      rw [hres] at h
      cases h

theorem tally_lookup (r : Registry) (l k : Value) (j : Log.Journal) :
    ((r.lookup l k).run.run j).2.tally = j.tally := by
  rw [run_lookup]
  split
  · rfl
  · split
    · rfl
    · dsimp only
      split <;> simp

theorem run_lookupText_of_ok {r : Registry} {l k : Value} {d : Option Value} {j j' : Log.Journal}
    {res : Resolution} (h : (r.lookup l k).run.run j = (.ok res, j')) :
    (r.lookupText l k d).run.run j = (.ok (.str res.text), j') := by
  rw [lookupText, run_tryCatch, run_map, h]

theorem run_lookupText_of_miss {r : Registry} {l k : Value} {d : Option Value}
    {j j' : Log.Journal} {key : Value} {chain : List String}
    (h : (r.lookup l k).run.run j = (.error (.messageNotFound key chain), j')) :
    (r.lookupText l k d).run.run j =
      (.ok (d.getD k), (j'.announce .warning ⟨"lookup", "not_found", none,
          [("locale", l), ("key", k), ("chain", .str (" -> ".intercalate chain))]⟩).incident
        "lookup" (.str ("Missing subtitle " ++ k.literal)) none
        [("locale", l), ("chain", .str (",".intercalate chain))] .debug) := by
  rw [lookupText, run_tryCatch, run_map, h]
  rfl

theorem run_lookupText_of_error {r : Registry} {l k : Value} {d : Option Value}
    {j j' : Log.Journal} {f : Fault} (h : (r.lookup l k).run.run j = (.error f, j'))
    (hf : ∀ key chain, f ≠ .messageNotFound key chain) :
    (r.lookupText l k d).run.run j = (.error f, j') := by
  rw [lookupText, run_tryCatch, run_map, h]
  dsimp only
  split
  · next key chain => exact absurd rfl (hf key chain)
  · rfl

theorem lookupText_error_ne_miss {r : Registry} {l k : Value} {d : Option Value}
    {j : Log.Journal} {f : Fault} (hf : ((r.lookupText l k d).run.run j).1 = .error f)
    (key : Value) (chain : List String) : f ≠ .messageNotFound key chain := by
  rintro rfl
  rcases hlk : (r.lookup l k).run.run j with ⟨_ | res, j'⟩
  · next f' =>
    -- the lookup's own fault is either a miss, which is answered, or passes through
    by_cases hm : ∃ key' chain', f' = .messageNotFound key' chain'
    · obtain ⟨key', chain', rfl⟩ := hm
      rw [run_lookupText_of_miss hlk] at hf
      cases hf
    · rw [run_lookupText_of_error hlk fun key' chain' he => hm ⟨key', chain', he⟩] at hf
      cases hf
      exact hm ⟨key, chain, rfl⟩
  · rw [run_lookupText_of_ok hlk] at hf
    cases hf

theorem lookup_hit_or_miss (r : Registry) (hopen : r.closed = false) (l k : String)
    (j : Log.Journal) :
    (∃ res, outcome (r.lookup (.str l) (.str k)) j = .ok res) ∨
      ∃ chain, outcome (r.lookup (.str l) (.str k)) j =
        .error (.messageNotFound (.str k) chain) := by
  rw [lookup_outcome, hopen, if_neg Bool.false_ne_true, resolve_str]
  split
  · exact .inl ⟨_, rfl⟩
  · exact .inr ⟨_, rfl⟩

theorem lookupText_answers_every_miss (r : Registry) (l k : String) (d : Option String)
    (j : Log.Journal) :
    let run := (r.lookupText (.str l) (.str k) (d.map .str)).run.run j
    (∀ f, run.1 = .error f → ∀ key chain, f ≠ .messageNotFound key chain) ∧
    (r.closed = true → run.1 = .error closedFault) ∧
    (r.closed = false → ∃ v, run.1 = .ok v) ∧
    (∀ res, outcome (r.lookup (.str l) (.str k)) j = .ok res →
      run.1 = .ok (.str res.text) ∧ run.2.tally = j.tally) ∧
    (∀ key chain, outcome (r.lookup (.str l) (.str k)) j = .error (.messageNotFound key chain) →
      let miss : Log.Incident := ⟨.str ("Missing subtitle " ++ Text.quote k),
        [("locale", .str l), ("chain", .str (",".intercalate chain))]⟩
      run.1 = .ok (.str (d.getD k)) ∧
      run.2.records = j.records ++
        (if Log.Level.passes j.threshold .warning then
          [⟨.warning, (⟨"lookup", "not_found", none, [("locale", .str l), ("key", .str k),
            ("chain", .str (" -> ".intercalate chain))]⟩ : Log.Event).line j.detailed⟩]
        else []) ++
        [⟨.debug, "[LOOKUP] Missing subtitle " ++ Text.quote k ++ " | Context: locale=" ++ l ++
          " | chain=" ++ ",".intercalate chain⟩] ∧
      run.2.tally = j.tally.record "lookup" miss ∧
      run.2.tally.under (.str "lookup") =
        Log.Tally.trim Log.Tally.historyLimit (j.tally.under (.str "lookup") ++ [miss]) ∧
      ∀ other, other ≠ "lookup" →
        run.2.tally.under (.str other) = j.tally.under (.str other)) ∧
    ∀ s : Session, s.registry = r →
      outcome (s.step (.lookupText (.str l) (.str k) (d.map .str))) j =
        run.1.map fun v => (.text v, s) := by
  dsimp only
  refine ⟨fun f hf key chain => ?_, fun hc => ?_, fun hopen => ?_, fun res hres => ?_,
    fun key chain hmiss => ?_, fun s hs => ?_⟩
  · exact lookupText_error_ne_miss hf key chain
  · have hlk : (r.lookup (.str l) (.str k)).run.run j = (.error closedFault, j) := by
      rw [run_lookup, if_pos hc]
    rw [run_lookupText_of_error hlk fun key chain h => by cases h]
  · rcases lookup_hit_or_miss r hopen l k j with ⟨res, hres⟩ | ⟨chain, hmiss⟩
    · exact ⟨_, by rw [run_lookupText_of_ok (run_eq_of_outcome hres)]⟩
    · exact ⟨_, by rw [run_lookupText_of_miss (run_lookup_of_error hmiss)]⟩
  · rw [run_lookupText_of_ok (run_eq_of_outcome hres)]
    exact ⟨rfl, tally_lookup r _ _ j⟩
  · rw [run_lookupText_of_miss (run_lookup_of_error hmiss)]
    have hd : (d.map Value.str).getD (.str k) = .str (d.getD k) := by cases d <;> rfl
    have hlit : (Value.str k).literal = Text.quote k := rfl
    have htally : ((j.announce .warning ⟨"lookup", "not_found", none, [("locale", .str l),
        ("key", .str k), ("chain", .str (" -> ".intercalate chain))]⟩).incident "lookup"
        (.str ("Missing subtitle " ++ Text.quote k)) none
        [("locale", .str l), ("chain", .str (",".intercalate chain))] .debug).tally =
        j.tally.record "lookup" ⟨.str ("Missing subtitle " ++ Text.quote k),
          [("locale", .str l), ("chain", .str (",".intercalate chain))]⟩ := by
      rw [Log.Journal.tally_incident, Log.Journal.tally_announce]
    refine ⟨by rw [hd], ?_, by rw [hlit, htally], ?_, fun other hother => ?_⟩
    · rw [hlit, Log.Journal.records_incident, Log.Journal.records_announce,
        Log.incidentLine_missing, List.append_assoc]
    · rw [hlit, htally, Log.Tally.under_record_self]
    · rw [hlit, htally, Log.Tally.under_record_ne _ (Ne.symm hother)]
  · subst hs
    exact outcome_bind_pure _ _ j

end Phrasebook.Registry
