import Phrasebook.Proofs.TextLookup

/-!
The history of a tally: what it keeps of each type.

A tally is driven by calls, each recording an incident under a type named by a text within a
whole limit, or clearing everything (`replay`). What the calls record under a type is every
incident given for it after the last clear, in order (`recorded`).

A record appends the incident to its type's list and then trims the list. A positive limit `h`
keeps the last `h` entries, and a list so trimmed stays so when one entry is added and the
list trimmed again (`trim_lastWithin`): this is the step, and `lookupKey_replay` carries it
over any run. So under a positive limit a type holds the last `min n h` of the `n` incidents
recorded for it, and the summary gives that many with the last of them. A limit of zero is no
bound at all: trimming by it keeps every entry, so under a limit of zero the lists grow
without end (`zero_limit_keeps_all`).

Main statement: `replay_keeps_recent`.
-/

namespace Phrasebook.Log.Tally

/-- A call made on a tally: an incident recorded under a type, or a clear. -/
inductive Call where
  | record (type : String) (i : Incident)
  | clear

/-- Makes one call, recording within a whole limit. -/
def Call.apply (limit : Int) (t : Tally) : Call → Tally
  | .record type i => t.recordUnder limit (.str type) i
  | .clear => t.clear

/-- Makes calls one after another. -/
def replay (limit : Int) (t : Tally) (cs : List Call) : Tally := cs.foldl (Call.apply limit) t

/-- What one call does to the incidents recorded under a type: a record of that type adds its
incident last, and a clear forgets them all. -/
def Call.note (type : String) (acc : List Incident) : Call → List Incident
  | .record ty i => if ty = type then acc ++ [i] else acc
  | .clear => []

/-- The incidents calls record under a type after the last clear, in order. -/
def recorded (type : String) (cs : List Call) : List Incident := cs.foldl (Call.note type) []

/-- The entries a limit leaves of a list: the last `limit` of them, and all of them under a
limit of zero. -/
def lastWithin {α : Type} (limit : Nat) (xs : List α) : List α :=
  if limit = 0 then xs else xs.drop (xs.length - limit)

@[simp] theorem lastWithin_nil {α : Type} (limit : Nat) : lastWithin limit ([] : List α) = [] := by
  simp [lastWithin]

theorem lastWithin_zero {α : Type} (xs : List α) : lastWithin 0 xs = xs := rfl

theorem lastWithin_pos {α : Type} {limit : Nat} (h : 0 < limit) (xs : List α) :
    lastWithin limit xs = xs.drop (xs.length - limit) := by
  simp [lastWithin, Nat.pos_iff_ne_zero.1 h]

theorem trim_zero {α : Type} (xs : List α) : trim 0 xs = xs := by
  unfold trim
  split <;> simp

theorem trim_lastWithin {α : Type} (limit : Nat) (xs : List α) (x : α) :
    trim limit (lastWithin limit xs ++ [x]) = lastWithin limit (xs ++ [x]) := by
  rcases Nat.eq_zero_or_pos limit with rfl | h
  · simp only [lastWithin_zero, Int.natCast_zero, trim_zero]
  rw [lastWithin_pos h, lastWithin_pos h]
  unfold trim
  simp only [List.length_append, List.length_drop, List.length_singleton]
  split
  · next hlong =>
    -- the list was full: one entry more is one too many, and the oldest goes
    rw [if_pos (by omega), List.drop_append_of_le_length (by simp; omega), List.drop_drop,
      List.drop_append_of_le_length (by omega)]
    congr 2
    omega
  · next hshort =>
    -- the list was not full: nothing was cut, and nothing is now
    have hk : xs.length - limit = 0 := by omega
    rw [hk, List.drop_zero, show xs.length + 1 - limit = 0 by omega, List.drop_zero]

theorem replay_append_single (limit : Int) (t : Tally) (cs : List Call) (c : Call) :
    replay limit t (cs ++ [c]) = c.apply limit (replay limit t cs) := by
  simp [replay, List.foldl_append]

theorem recorded_append_single (type : String) (cs : List Call) (c : Call) :
    recorded type (cs ++ [c]) = c.note type (recorded type cs) := by
  simp [recorded, List.foldl_append]

theorem lookupKey_replay (limit : Nat) (cs : List Call) (type : String) :
    Value.lookupKey (replay limit {} cs).byType (.str type) =
      if recorded type cs = [] then none else some (lastWithin limit (recorded type cs)) := by
  induction cs using List.reverseRecOn with
  | nil => rfl
  | append_singleton cs c ih =>
    have hunder : (replay limit {} cs).under (.str type) = lastWithin limit (recorded type cs) := by
      rw [under_eq_lookupKey, ih]
      split <;> simp_all
    rw [replay_append_single, recorded_append_single]
    cases c with
    | record ty i =>
      by_cases hty : ty = type
      · subst hty
        simp only [Call.apply, Call.note, if_true, lookupKey_recordUnder_self, hunder,
          trim_lastWithin, List.append_ne_nil_of_right_ne_nil _ (List.cons_ne_nil i []), if_false]
      · simp only [Call.apply, Call.note, hty, if_false, lookupKey_recordUnder_ne _ _ hty, ih]
    | clear => rfl

theorem under_replay (limit : Nat) (cs : List Call) (type : String) :
    (replay limit {} cs).under (.str type) = lastWithin limit (recorded type cs) := by
  rw [under_eq_lookupKey, lookupKey_replay]
  split <;> simp_all

theorem lookupKey_summary (t : Tally) (type : Value) :
    Value.lookupKey t.summary type =
      (Value.lookupKey t.byType type).map fun is => (is.length, is.getLast?) := by
  obtain ⟨ps⟩ := t
  induction ps with
  | nil => rfl
  | cons p ps ih =>
    by_cases hk : p.1.sameKey type <;> simp_all [summary, Value.lookupKey]

theorem length_lastWithin {α : Type} {limit : Nat} (h : 0 < limit) (xs : List α) :
    (lastWithin limit xs).length = min xs.length limit := by
  rw [lastWithin_pos h, List.length_drop]
  omega

/-- A tally driven by records and clears keeps, for each type, the last entries recorded for it
since the last clear, in order: under a positive limit `h` the last `min n h` of the `n`
recorded, and under a limit of zero all of them. The summary of a type recorded since the last
clear gives the number kept and the last one kept, and a type not recorded since is not in it.
A clear empties every type. -/
theorem replay_keeps_recent (limit : Nat) (cs : List Call) (type : String) :
    let kept := (replay limit {} cs).under (.str type)
    let rs := recorded type cs
    (0 < limit → kept = rs.drop (rs.length - limit) ∧ kept.length = min rs.length limit) ∧
    (limit = 0 → kept = rs) ∧
    Value.lookupKey (replay limit {} cs).summary (.str type) =
      (if rs = [] then none else some (kept.length, kept.getLast?)) ∧
    (replay limit {} (cs ++ [.clear])).byType = [] := by
  intro kept rs
  have hkept : kept = lastWithin limit rs := under_replay limit cs type
  refine ⟨fun h => ⟨?_, ?_⟩, fun h => ?_, ?_, ?_⟩
  · rw [hkept, lastWithin_pos h]
  · rw [hkept, length_lastWithin h]
  · rw [hkept, h, lastWithin_zero]
  · rw [lookupKey_summary, lookupKey_replay, hkept]
    split <;> rfl
  · rw [replay_append_single]
    rfl

/-- Under a limit of zero one incident recorded is kept and counted, where the last `min 1 0`
would be none. -/
theorem zero_limit_keeps_all :
    let cs := [Call.record "t" ⟨.str "gone", []⟩]
    (recorded "t" cs).length = 1 ∧
    ((replay 0 {} cs).under (.str "t")).length = 1 ∧
    Value.lookupKey (replay 0 {} cs).summary (.str "t") = some (1, some ⟨.str "gone", []⟩) := by
  intro cs
  have hunder := under_replay 0 cs "t"
  have hkey := lookupKey_replay 0 cs "t"
  rw [Int.natCast_zero, lastWithin_zero] at hunder hkey
  refine ⟨rfl, ?_, ?_⟩
  · rw [hunder]
    rfl
  · rw [lookupKey_summary, hkey]
    rfl

end Phrasebook.Log.Tally
