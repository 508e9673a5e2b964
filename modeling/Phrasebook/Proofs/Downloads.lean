import Phrasebook.Proofs.Retry
import Phrasebook.Source.Gather
import Mathlib.Data.List.Nodup

/-!
Downloads that take turns.

A download runs in pieces between its waits (`Stage.step`): it sends a request, or it takes up
an answer and then ends or pauses before its next attempt. Taking its next step and then
finishing it is finishing it (`Stage.finish_eq_step`), so a download taken up in pieces, with
other tasks run in between, ends as it would have ended run through.

Each piece touches the network at its own URL alone (`AtOnly`): it leaves the answers and the
request counts of every other URL as they were, and what it gives depends on the network only
through its URL. So when no two downloads ask the same URL, each one stays on track
(`OnTrack`) whichever download moves (`stepAt_onTrack`, `steps_onTrack`): finishing it gives
what it gives alone from the start. However the downloads take turns, they then give the
outcomes they give one after another, and leave the same answers and counts at every URL
(`fetchAll_any_schedule`). Only the order of the waits asked for and of the journal's lines
follows the turns.

Taking turns never fails, and keeps each download at its place (`fetchAll_run`).
-/

namespace Phrasebook.Source

section Stage

variable (url : Value) (locale : Option String) (limit : Value)

theorem settle_run (n : Nat) (r : Except Fault String) (l : Link) :
    ∃ x l', (settle url locale limit n r).run.run l = (.ok x, l') := by
  cases r with
  | ok t => exact ⟨_, _, rfl⟩
  | error f =>
    cases hg : giveUp? limit n f <;> simp only [settle, hg] <;> exact ⟨_, _, rfl⟩

theorem resume_run (n : Nat) (l : Link) :
    ∃ r l', (resume url locale limit n).run.run l = (.ok r, l') := by
  unfold resume
  rw [run_bind_of_ok (run_get l)]
  obtain ⟨r, l₁, h⟩ : ∃ r l₁, (attempts url locale limit
      ((((l.exchange.pending.get? url.display).getD []).length + 1)) n).run.run l = (r, l₁) :=
    ⟨_, _, rfl⟩
  rw [run_bind_of_ok (run_tryCatch_keep h)]
  exact ⟨r, _, rfl⟩

theorem Stage.step_run (s : Stage) (l : Link) :
    ∃ s' l', (s.step url locale limit).run.run l = (.ok s', l') := by
  cases s with
  | send n =>
    obtain ⟨r, l₁, h⟩ : ∃ r l₁, (attempt url).run.run l = (r, l₁) := ⟨_, _, rfl⟩
    unfold Stage.step
    rw [run_bind_of_ok (run_tryCatch_keep h)]
    exact ⟨_, _, rfl⟩
  | answered n r =>
    obtain ⟨x, l₁, h⟩ := settle_run url locale limit n r l
    unfold Stage.step
    rw [run_bind_of_ok h]
    cases x <;> exact ⟨_, _, rfl⟩
  | ended r => exact ⟨_, _, rfl⟩

theorem Stage.finish_run (s : Stage) (l : Link) :
    ∃ r l', (s.finish url locale limit).run.run l = (.ok r, l') := by
  cases s with
  | send n => exact resume_run url locale limit n l
  | answered n r =>
    obtain ⟨x, l₁, h⟩ := settle_run url locale limit n r l
    unfold Stage.finish
    rw [run_bind_of_ok h]
    cases x with
    | inl r => exact ⟨_, _, rfl⟩
    | inr m => exact resume_run url locale limit m l₁
  | ended r => exact ⟨_, _, rfl⟩

end Stage

/-- Where each download is: its locale and its URL. -/
def Download.key (x : Download) : String × String := (x.locale, x.url)

theorem Download.urls_of_keys {xs ys : List Download}
    (h : ys.map Download.key = xs.map Download.key) : ys.map Download.url = xs.map Download.url := by
  have := congrArg (List.map Prod.snd) h
  simpa [List.map_map, Function.comp_def, Download.key] using this

theorem Download.locales_of_keys {xs ys : List Download}
    (h : ys.map Download.key = xs.map Download.key) :
    ys.map Download.locale = xs.map Download.locale := by
  have := congrArg (List.map Prod.fst) h
  simpa [List.map_map, Function.comp_def, Download.key] using this

/-- A download moved on in place leaves what is read off it apart from its stage as it was. -/
theorem map_set_stage {β : Type} (f : Download → β) (hf : ∀ x s, f { x with stage := s } = f x)
    {xs : List Download} {i : Nat} {x : Download} (hx : xs[i]? = some x) (s : Stage) :
    (xs.set i { x with stage := s }).map f = xs.map f := by
  obtain ⟨hi, rfl⟩ := List.getElem?_eq_some_iff.1 hx
  have hi' : i < (xs.map f).length := by simpa using hi
  have hfx : f { xs[i] with stage := s } = (xs.map f)[i] := by rw [hf, List.getElem_map]
  rw [List.map_set, hfx, List.set_getElem_self]

section Turns

variable (ma : Value)

theorem stepAt_run (xs : List Download) (i : Nat) (l : Link) :
    ∃ ys l', (stepAt ma xs i).run.run l = (.ok ys, l') ∧ ys.map Download.key = xs.map Download.key := by
  unfold stepAt
  cases hx : xs[i]? with
  | none => exact ⟨xs, l, rfl, rfl⟩
  | some x =>
    obtain ⟨s, l₁, h⟩ := x.stage.step_run (.str x.url) (some x.locale) ma l
    exact ⟨_, _, run_bind_of_ok h, map_set_stage Download.key (fun _ _ => rfl) hx s⟩

theorem steps_run (sched : List Nat) :
    ∀ (xs : List Download) (l : Link), ∃ ys l', (sched.foldlM (stepAt ma) xs).run.run l =
      (.ok ys, l') ∧ ys.map Download.key = xs.map Download.key := by
  induction sched with
  | nil => exact fun xs l => ⟨xs, l, rfl, rfl⟩
  | cons i sched ih =>
    intro xs l
    obtain ⟨ys, l₁, h₁, hk₁⟩ := stepAt_run ma xs i l
    obtain ⟨zs, l₂, h₂, hk₂⟩ := ih ys l₁
    refine ⟨zs, l₂, ?_, hk₂.trans hk₁⟩
    rw [List.foldlM_cons, run_bind_of_ok h₁, h₂]

theorem finishAll_cons_run {x : Download} {xs : List Download} {l l₁ l₂ : Link}
    {r : Except Fault String} {rs : List (String × Except Fault String)}
    (h₁ : (x.stage.finish (.str x.url) (some x.locale) ma).run.run l = (.ok r, l₁))
    (h₂ : (finishAll ma xs).run.run l₁ = (.ok rs, l₂)) :
    (finishAll ma (x :: xs)).run.run l = (.ok ((x.locale, r) :: rs), l₂) := by
  have hx : ((do
      let r ← x.stage.finish (.str x.url) (some x.locale) ma
      pure (x.locale, r)) : Net (String × Except Fault String)).run.run l =
      (.ok (x.locale, r), l₁) := run_bind_of_ok h₁
  unfold finishAll at h₂ ⊢
  rw [List.mapM_cons, run_bind_of_ok hx, run_bind_of_ok h₂]
  rfl

theorem finishAll_run :
    ∀ (xs : List Download) (l : Link), ∃ rs l', (finishAll ma xs).run.run l = (.ok rs, l') ∧
      rs.map Prod.fst = xs.map Download.locale
  | [], l => ⟨[], l, rfl, rfl⟩
  | x :: xs, l => by
    obtain ⟨r, l₁, h₁⟩ := x.stage.finish_run (.str x.url) (some x.locale) ma l
    obtain ⟨rs, l₂, h₂, hk⟩ := finishAll_run xs l₁
    exact ⟨(x.locale, r) :: rs, l₂, finishAll_cons_run ma h₁ h₂, by simp [hk]⟩

theorem fetchAll_run (sources : List (String × String)) (sched : List Nat) (l : Link) :
    ∃ rs l', (fetchAll ma sources sched).run.run l = (.ok rs, l') ∧
      rs.map Prod.fst = sources.map Prod.fst := by
  obtain ⟨ys, l₁, h₁, hk⟩ := steps_run ma sched (sources.map fun p => ⟨p.1, p.2, .send 1⟩) l
  obtain ⟨rs, l₂, h₂, hr⟩ := finishAll_run ma ys l₁
  refine ⟨rs, l₂, ?_, ?_⟩
  · unfold fetchAll
    rw [run_bind_of_ok h₁, h₂]
  · rw [hr, Download.locales_of_keys hk]
    simp [Function.comp_def]

end Turns


/-! ### Computations that touch one URL -/

/-- What the network holds for one URL: the answers still to come and the requests counted. -/
def Link.at (l : Link) (u : String) : Option (List Outcome) × Option Nat :=
  (l.exchange.pending.get? u, l.exchange.requests.get? u)

/-- A computation on the network that touches the URL `u` alone: it leaves every other URL as
it was, and what it gives, and what it leaves at `u`, depend on the link only through `u`. -/
structure AtOnly {α : Type} (u : String) (m : Net α) : Prop where
  frame : ∀ l v, v ≠ u → (m.run.run l).2.at v = l.at v
  determined : ∀ l₁ l₂, l₁.at u = l₂.at u →
    (m.run.run l₁).1 = (m.run.run l₂).1 ∧ (m.run.run l₁).2.at u = (m.run.run l₂).2.at u

@[simp] theorem Link.pause_at (l : Link) (url : Value) (locale : Option String) (n : Nat)
    (f : Fault) (v : String) : (l.pause url locale n f).at v = l.at v := rfl

@[simp] theorem Link.conclude_at (l : Link) (url : Value) (locale : Option String)
    (r : Except Fault String) (v : String) : (l.conclude url locale r).at v = l.at v := by
  unfold Link.conclude
  split
  · rfl
  · split <;> rfl

namespace AtOnly

variable {α β : Type} {u : String}

theorem frame_run {m : Net α} (hm : AtOnly u m) {l l' : Link} {r : Except Fault α}
    (hr : m.run.run l = (r, l')) {v : String} (hv : v ≠ u) : l'.at v = l.at v := by
  have := hm.frame l v hv
  rwa [hr] at this

/-- Runs from links that agree at `u` give one outcome, and leave links that agree at `u`. -/
theorem run_agree {m : Net α} (hm : AtOnly u m) {l₁ l₂ : Link} (h : l₁.at u = l₂.at u) :
    ∃ r l₁' l₂', m.run.run l₁ = (r, l₁') ∧ m.run.run l₂ = (r, l₂') ∧ l₁'.at u = l₂'.at u := by
  obtain ⟨h₁, h₂⟩ := hm.determined l₁ l₂ h
  exact ⟨(m.run.run l₁).1, (m.run.run l₁).2, (m.run.run l₂).2, rfl, by rw [h₁]; rfl, h₂⟩

theorem pure (a : α) : AtOnly u (Pure.pure a : Net α) :=
  ⟨fun _ _ _ => rfl, fun _ _ h => ⟨rfl, h⟩⟩

theorem throw (f : Fault) : AtOnly u (MonadExcept.throw f : Net α) :=
  ⟨fun _ _ _ => rfl, fun _ _ h => ⟨rfl, h⟩⟩

theorem modify (f : Link → Link) (hf : ∀ l v, (f l).at v = l.at v) :
    AtOnly u (modify f : Net PUnit) :=
  ⟨fun l v _ => hf l v, fun l₁ l₂ h => ⟨rfl, show (f l₁).at u = (f l₂).at u by rw [hf, hf, h]⟩⟩

theorem bind {m : Net α} {g : α → Net β} (hm : AtOnly u m) (hg : ∀ a, AtOnly u (g a)) :
    AtOnly u (m >>= g) where
  frame l v hv := by
    rw [run_bind]
    rcases hr : m.run.run l with ⟨_ | a, l'⟩
    · exact hm.frame_run hr hv
    · exact ((hg a).frame l' v hv).trans (hm.frame_run hr hv)
  determined l₁ l₂ h := by
    obtain ⟨r, l₁', l₂', hr₁, hr₂, hat⟩ := hm.run_agree h
    rw [run_bind, run_bind, hr₁, hr₂]
    cases r with
    | error e => exact ⟨rfl, hat⟩
    | ok a => exact (hg a).determined l₁' l₂' hat

theorem tryCatch {m : Net α} {handler : Fault → Net α} (hm : AtOnly u m)
    (hh : ∀ f, AtOnly u (handler f)) : AtOnly u (MonadExcept.tryCatch m handler) where
  frame l v hv := by
    rw [run_tryCatch]
    rcases hr : m.run.run l with ⟨_ | a, l'⟩
    · exact ((hh _).frame l' v hv).trans (hm.frame_run hr hv)
    · exact hm.frame_run hr hv
  determined l₁ l₂ h := by
    obtain ⟨r, l₁', l₂', hr₁, hr₂, hat⟩ := hm.run_agree h
    rw [run_tryCatch, run_tryCatch, hr₁, hr₂]
    cases r with
    | error f => exact (hh f).determined l₁' l₂' hat
    | ok a => exact ⟨rfl, hat⟩

theorem map (f : α → β) {m : Net α} (hm : AtOnly u m) : AtOnly u (f <$> m) where
  frame l v hv := by
    rw [run_map]
    rcases hr : m.run.run l with ⟨_ | a, l'⟩ <;> exact hm.frame_run hr hv
  determined l₁ l₂ h := by
    obtain ⟨r, l₁', l₂', hr₁, hr₂, hat⟩ := hm.run_agree h
    rw [run_map, run_map, hr₁, hr₂]
    cases r <;> exact ⟨rfl, hat⟩

theorem get_bind {k : Link → Net α} (hk : ∀ l, AtOnly u (k l))
    (hdep : ∀ l₁ l₂, l₁.at u = l₂.at u → k l₁ = k l₂) : AtOnly u (get >>= k) where
  frame l v hv := by
    rw [run_bind_of_ok (run_get l)]
    exact (hk l).frame l v hv
  determined l₁ l₂ h := by
    rw [run_bind_of_ok (run_get l₁),
      run_bind_of_ok (run_get l₂), hdep l₁ l₂ h]
    exact (hk l₂).determined l₁ l₂ h

end AtOnly

theorem request_eq (u : String) (l : Link) :
    (request u).run.run l = (.ok ((l.exchange.pending.get? u).getD []).head?,
      { l with exchange := { l.exchange with
          requests := l.exchange.requests.set u ((l.exchange.requests.get? u).getD 0 + 1)
          pending := if (l.exchange.pending.get? u).isSome
            then l.exchange.pending.set u ((l.exchange.pending.get? u).getD []).tail
            else l.exchange.pending } }) := by
  unfold request
  rw [run_bind_of_ok (run_get l)]
  dsimp only
  cases (l.exchange.pending.get? u).getD [] <;> rfl

theorem request_atOnly (u : String) : AtOnly u (request u) where
  frame l v hv := by
    rw [request_eq]
    by_cases hs : (l.exchange.pending.get? u).isSome = true <;>
      simp [Link.at, hs, Table.get?_set_ne _ _ hv]
  determined l₁ l₂ h := by
    obtain ⟨hp, hr⟩ := Prod.mk.inj h
    rw [request_eq, request_eq]
    refine ⟨by rw [hp], ?_⟩
    by_cases hs : (l₂.exchange.pending.get? u).isSome = true <;>
      simp [Link.at, hp, hr, hs]

section Stage

variable (url : Value) (locale : Option String) (limit : Value)

theorem attempt_atOnly : AtOnly url.display (attempt url) := by
  unfold attempt
  refine (request_atOnly _).bind fun o => ?_
  cases o with
  | none => exact .throw _
  | some o =>
    dsimp only
    split
    · exact .pure _
    · exact .throw _

theorem attempts_atOnly : ∀ fuel n, AtOnly url.display (attempts url locale limit fuel n)
  | 0, _ => .throw _
  | fuel + 1, n => by
    unfold attempts
    refine (attempt_atOnly url).tryCatch fun f => ?_
    cases giveUp? limit n f with
    | some e => exact .throw _
    | none =>
      exact (AtOnly.modify (·.pause url locale n f) fun _ _ => rfl).bind fun _ =>
        attempts_atOnly fuel (n + 1)

theorem resume_atOnly (n : Nat) : AtOnly url.display (resume url locale limit n) := by
  unfold resume
  refine AtOnly.get_bind (fun l => ?_) fun l₁ l₂ h => ?_
  · exact ((attempts_atOnly url locale limit _ n).map _ |>.tryCatch fun _ => .pure _).bind
      fun r => (AtOnly.modify (·.conclude url locale r) fun _ _ => Link.conclude_at ..).bind
        fun _ => .pure r
  · -- the fuel is counted from the answers left for the URL
    rw [(Prod.mk.inj h).1]

theorem settle_atOnly (n : Nat) (r : Except Fault String) :
    AtOnly url.display (settle url locale limit n r) := by
  cases r with
  | ok t => exact (AtOnly.modify _ fun _ _ => Link.conclude_at ..).bind fun _ => .pure _
  | error f =>
    cases hg : giveUp? limit n f with
    | some e =>
      simp only [settle, hg]
      exact (AtOnly.modify _ fun _ _ => Link.conclude_at ..).bind fun _ => .pure _
    | none =>
      simp only [settle, hg]
      exact (AtOnly.modify _ fun _ _ => Link.pause_at ..).bind fun _ => .pure _

theorem Stage.step_atOnly (s : Stage) : AtOnly url.display (s.step url locale limit) := by
  cases s with
  | send n => exact (((attempt_atOnly url).map _).tryCatch fun _ => .pure _).bind fun _ => .pure _
  | answered n r =>
    refine (settle_atOnly url locale limit n r).bind fun x => ?_
    cases x <;> exact .pure _
  | ended r => exact .pure _

theorem Stage.finish_atOnly (s : Stage) : AtOnly url.display (s.finish url locale limit) := by
  cases s with
  | send n => exact resume_atOnly url locale limit n
  | answered n r =>
    refine (settle_atOnly url locale limit n r).bind fun x => ?_
    cases x with
    | inl r => exact .pure _
    | inr m => exact resume_atOnly url locale limit m
  | ended r => exact .pure _

end Stage

/-! ### Finishing is stepping on -/

section Stage

variable (url : Value) (locale : Option String) (limit : Value)

/-- An attempt takes the next answer for its URL, leaving the rest; with none left it fails as
unanswered. -/
theorem attempt_takes (l : Link) :
    ((((attempt url).run.run l).2.exchange.pending.get? url.display).getD []) =
      ((l.exchange.pending.get? url.display).getD []).tail ∧
    ((l.exchange.pending.get? url.display).getD [] = [] →
      ((attempt url).run.run l).1 = .error (unanswered url)) := by
  unfold attempt
  rw [run_bind_of_ok (request_eq url.display l)]
  constructor
  · -- the rest of the answers is kept whatever the answer gives
    have hrest : ((({ l with exchange := { l.exchange with
        requests := l.exchange.requests.set url.display
          ((l.exchange.requests.get? url.display).getD 0 + 1)
        pending := if (l.exchange.pending.get? url.display).isSome
          then l.exchange.pending.set url.display ((l.exchange.pending.get? url.display).getD []).tail
          else l.exchange.pending } } : Link).exchange.pending.get? url.display).getD []) =
        ((l.exchange.pending.get? url.display).getD []).tail := by
      cases hp : l.exchange.pending.get? url.display <;> simp [hp]
    cases ((l.exchange.pending.get? url.display).getD []).head? with
    | none => exact hrest
    | some o =>
      dsimp only
      split <;> exact hrest
  · intro hnil
    rw [hnil]
    rfl

theorem giveUp_unanswered (n : Nat) : giveUp? limit n (unanswered url) = some (unanswered url) :=
  rfl

/-- Finishing a download is taking its next step and finishing from there. -/
theorem Stage.finish_eq_step (s : Stage) (l : Link) :
    (s.finish url locale limit).run.run l =
      (s.step url locale limit >>= Stage.finish url locale limit).run.run l := by
  cases s with
  | ended r => rfl
  | answered n r =>
    obtain ⟨x, l₁, h⟩ := settle_run url locale limit n r l
    simp only [Stage.finish, Stage.step, run_bind, h]
    cases x <;> rfl
  | send n =>
    obtain ⟨ra, l₁, ha⟩ : ∃ ra l₁, (attempt url).run.run l = (ra, l₁) := ⟨_, _, rfl⟩
    obtain ⟨htail, hnone⟩ := attempt_takes url l
    rw [ha] at htail hnone
    dsimp only at htail hnone
    have hstep : (Stage.step url locale limit (.send n)).run.run l = (.ok (.answered n ra), l₁) := by
      unfold Stage.step
      rw [run_bind_of_ok (run_tryCatch_keep ha)]
      rfl
    rw [run_bind_of_ok hstep]
    change (resume url locale limit n).run.run l = _
    cases ra with
    | ok t =>
      rw [resume_of_loop (attempts_of_ok ha)]
      rfl
    | error f =>
      cases hg : giveUp? limit n f with
      | some e =>
        rw [resume_of_loop (attempts_of_giveUp ha hg)]
        simp only [Stage.finish, settle, hg]
        rfl
      | none =>
        -- the attempt took an answer, or it would have failed as unanswered and given up
        have hne : (l.exchange.pending.get? url.display).getD [] ≠ [] := by
          intro hnil
          cases hnone hnil
          rw [giveUp_unanswered] at hg
          cases hg
        obtain ⟨o, rest, hos⟩ := List.exists_cons_of_ne_nil hne
        obtain ⟨r, l', hrest⟩ : ∃ r l', (attempts url locale limit (rest.length + 1) (n + 1)).run.run
            (l₁.pause url locale n f) = (r, l') := ⟨_, _, rfl⟩
        have hloop : (attempts url locale limit
            (((l.exchange.pending.get? url.display).getD []).length + 1) n).run.run l = (r, l') := by
          rw [hos]
          exact (attempts_of_retry ha hg).trans hrest
        have hnext : (resume url locale limit (n + 1)).run.run (l₁.pause url locale n f) =
            (.ok r, l'.conclude url locale r) := by
          refine resume_of_loop ?_
          rw [show ((l₁.pause url locale n f).exchange.pending.get? url.display).getD [] = rest by
            rw [hos] at htail
            exact htail]
          exact hrest
        rw [resume_of_loop hloop]
        simp only [Stage.finish, settle, hg, run_bind, run_modify]
        exact hnext.symm

end Stage

/-! ### Taking turns changes no outcome -/

section Turns

variable (ma : Value) (l₀ : Link)

theorem Download.step_atOnly (x : Download) :
    AtOnly x.url (x.stage.step (.str x.url) (some x.locale) ma) := by
  have h := x.stage.step_atOnly (.str x.url) (some x.locale) ma
  rwa [Value.display_str] at h

theorem Download.finish_atOnly (x : Download) :
    AtOnly x.url (x.stage.finish (.str x.url) (some x.locale) ma) := by
  have h := x.stage.finish_atOnly (.str x.url) (some x.locale) ma
  rwa [Value.display_str] at h

/-- A download is on track on the link `l` when finishing it from where it stands gives what
finishing it from its start, alone on `l₀`, gives: the same outcome, and the same answers and
count left at its URL. -/
def OnTrack (x : Download) (l : Link) : Prop :=
  ((x.stage.finish (.str x.url) (some x.locale) ma).run.run l).1 =
      (((Stage.send 1).finish (.str x.url) (some x.locale) ma).run.run l₀).1 ∧
    ((x.stage.finish (.str x.url) (some x.locale) ma).run.run l).2.at x.url =
      (((Stage.send 1).finish (.str x.url) (some x.locale) ma).run.run l₀).2.at x.url

variable {ma l₀}

theorem OnTrack.of_at {x : Download} {l l' : Link} (h : OnTrack ma l₀ x l)
    (hat : l'.at x.url = l.at x.url) : OnTrack ma l₀ x l' := by
  obtain ⟨h₁, h₂⟩ := (x.finish_atOnly ma).determined l' l hat
  exact ⟨h₁.trans h.1, h₂.trans h.2⟩

theorem OnTrack.step {x : Download} {l l' : Link} {s : Stage}
    (hs : (x.stage.step (.str x.url) (some x.locale) ma).run.run l = (.ok s, l'))
    (h : OnTrack ma l₀ x l) : OnTrack ma l₀ { x with stage := s } l' := by
  have hfin := x.stage.finish_eq_step (.str x.url) (some x.locale) ma l
  rw [run_bind_of_ok hs] at hfin
  exact ⟨hfin ▸ h.1, hfin ▸ h.2⟩

/-- A step at any place keeps every download on track, when no two ask the same URL, and leaves
every URL no download asks as it was. -/
theorem stepAt_onTrack {xs ys : List Download} {i : Nat} {l l' : Link}
    (hnodup : (xs.map Download.url).Nodup) (hon : ∀ x ∈ xs, OnTrack ma l₀ x l)
    (h : (stepAt ma xs i).run.run l = (.ok ys, l')) :
    (∀ y ∈ ys, OnTrack ma l₀ y l') ∧ ∀ v ∉ xs.map Download.url, l'.at v = l.at v := by
  unfold stepAt at h
  cases hx : xs[i]? with
  | none =>
    rw [hx] at h
    cases h
    exact ⟨hon, fun _ _ => rfl⟩
  | some x =>
    rw [hx] at h
    obtain ⟨s, l₁, hs⟩ := x.stage.step_run (.str x.url) (some x.locale) ma l
    rw [run_bind_of_ok hs] at h
    cases h
    have hmem : x ∈ xs := List.mem_of_getElem? hx
    have hframe : ∀ v, v ≠ x.url → l'.at v = l.at v := fun v hv => (x.step_atOnly ma).frame_run hs hv
    refine ⟨fun y hy => ?_, fun v hv => hframe v fun h => hv (h ▸ List.mem_map_of_mem hmem)⟩
    -- the stepped download keeps its URL, so the URLs stay apart
    have hkeys : (xs.set i { x with stage := s }).map Download.url = xs.map Download.url :=
      map_set_stage Download.url (fun _ _ => rfl) hx s
    by_cases hyx : y.url = x.url
    · -- the download with the stepped one's URL is the stepped one
      have hstepped : { x with stage := s } ∈ xs.set i { x with stage := s } :=
        List.mem_set (List.getElem?_eq_some_iff.1 hx).1 _
      have hyeq : y = { x with stage := s } :=
        List.inj_on_of_nodup_map (hkeys ▸ hnodup) hy hstepped hyx
      subst hyeq
      exact (hon x hmem).step hs
    · rcases List.mem_or_eq_of_mem_set hy with hy | rfl
      · exact (hon y hy).of_at (hframe y.url hyx)
      · exact absurd rfl hyx

/-- A run of steps keeps every download on track, when no two ask the same URL, and leaves every
URL no download asks as it was. -/
theorem steps_onTrack (sched : List Nat) : ∀ {xs ys : List Download} {l l' : Link},
    (xs.map Download.url).Nodup → (∀ x ∈ xs, OnTrack ma l₀ x l) →
    (sched.foldlM (stepAt ma) xs).run.run l = (.ok ys, l') →
    (∀ y ∈ ys, OnTrack ma l₀ y l') ∧ ∀ v ∉ xs.map Download.url, l'.at v = l.at v := by
  induction sched with
  | nil =>
    intro xs ys l l' _ hon h
    cases h
    exact ⟨hon, fun _ _ => rfl⟩
  | cons i sched ih =>
    intro xs ys l l' hnodup hon h
    obtain ⟨ys₁, l₁, h₁, hk₁⟩ := stepAt_run ma xs i l
    rw [List.foldlM_cons, run_bind_of_ok h₁] at h
    obtain ⟨hon₁, hout₁⟩ := stepAt_onTrack hnodup hon h₁
    have hurls : ys₁.map Download.url = xs.map Download.url := Download.urls_of_keys hk₁
    obtain ⟨hon₂, hout₂⟩ := ih (hurls ▸ hnodup) hon₁ h
    exact ⟨hon₂, fun v hv => (hout₂ v (hurls ▸ hv)).trans (hout₁ v hv)⟩

/-- Downloads on track, asking distinct URLs, finish one after another with the same outcomes
from any link that holds the same at the other URLs, and leave the same at every URL. -/
theorem finishAll_agree : ∀ (xs₁ xs₂ : List Download) (l₁ l₂ : Link),
    xs₁.map Download.key = xs₂.map Download.key → (xs₁.map Download.url).Nodup →
    (∀ x ∈ xs₁, OnTrack ma l₀ x l₁) → (∀ x ∈ xs₂, OnTrack ma l₀ x l₂) →
    (∀ v ∉ xs₁.map Download.url, l₁.at v = l₂.at v) →
    ((finishAll ma xs₁).run.run l₁).1 = ((finishAll ma xs₂).run.run l₂).1 ∧
      ∀ v, ((finishAll ma xs₁).run.run l₁).2.at v = ((finishAll ma xs₂).run.run l₂).2.at v
  | [], [], l₁, l₂, _, _, _, _, hout => ⟨rfl, fun v => hout v List.not_mem_nil⟩
  | [], _ :: _, _, _, hk, _, _, _, _ => by cases hk
  | _ :: _, [], _, _, hk, _, _, _, _ => by cases hk
  | x₁ :: xs₁, x₂ :: xs₂, l₁, l₂, hk, hnodup, hon₁, hon₂, hout => by
    obtain ⟨hkey, hks⟩ := List.cons.inj hk
    obtain ⟨hloc, hurl⟩ := Prod.mk.inj hkey
    obtain ⟨hx₁, hnodup'⟩ := List.nodup_cons.1 hnodup
    -- the first downloads end alike: each gives what it gives alone from the start
    obtain ⟨r₁, l₁', h₁⟩ := x₁.stage.finish_run (.str x₁.url) (some x₁.locale) ma l₁
    obtain ⟨r₂, l₂', h₂⟩ := x₂.stage.finish_run (.str x₂.url) (some x₂.locale) ma l₂
    obtain ⟨ho₁, hv₁⟩ := hon₁ x₁ List.mem_cons_self
    obtain ⟨ho₂, hv₂⟩ := hon₂ x₂ List.mem_cons_self
    rw [h₁] at ho₁ hv₁
    rw [h₂] at ho₂ hv₂
    rw [← hloc, ← hurl] at ho₂ hv₂
    have hr : r₁ = r₂ := Except.ok.inj (ho₁.trans ho₂.symm)
    subst hr
    have hat : l₁'.at x₁.url = l₂'.at x₁.url := hv₁.trans hv₂.symm
    have hframe₁ : ∀ v, v ≠ x₁.url → l₁'.at v = l₁.at v := fun v hv =>
      (x₁.finish_atOnly ma).frame_run h₁ hv
    have hframe₂ : ∀ v, v ≠ x₁.url → l₂'.at v = l₂.at v := fun v hv =>
      (x₂.finish_atOnly ma).frame_run h₂ (hurl ▸ hv)
    have hurls : xs₂.map Download.url = xs₁.map Download.url := Download.urls_of_keys hks.symm
    -- the others stay on track: their URLs are not the first's
    have hne : ∀ y ∈ xs₁.map Download.url, y ≠ x₁.url := fun y hy h => hx₁ (h ▸ hy)
    have hrest := finishAll_agree xs₁ xs₂ l₁' l₂' hks hnodup'
      (fun y hy => (hon₁ y (List.mem_cons_of_mem _ hy)).of_at
        (hframe₁ _ (hne _ (List.mem_map_of_mem hy))))
      (fun y hy => (hon₂ y (List.mem_cons_of_mem _ hy)).of_at
        (hframe₂ _ (hne _ (hurls ▸ List.mem_map_of_mem hy))))
      (fun v hv => by
        by_cases hvx : v = x₁.url
        · exact hvx ▸ hat
        · rw [hframe₁ v hvx, hframe₂ v hvx]
          exact hout v (by simp [hvx, hv]))
    obtain ⟨rs₁, m₁, hm₁, -⟩ := finishAll_run ma xs₁ l₁'
    obtain ⟨rs₂, m₂, hm₂, -⟩ := finishAll_run ma xs₂ l₂'
    rw [hm₁, hm₂] at hrest
    have hrs : rs₁ = rs₂ := Except.ok.inj hrest.1
    subst hrs
    rw [finishAll_cons_run ma h₁ hm₁, finishAll_cons_run ma h₂ hm₂]
    exact ⟨by rw [show x₁.locale = x₂.locale from hloc], hrest.2⟩

/-- However the downloads take turns, as long as no two ask the same URL, they give the outcomes
they give when taken up one after another, and leave the network with the same answers and
request counts at every URL. -/
theorem fetchAll_any_schedule {sources : List (String × String)}
    (hnodup : (sources.map Prod.snd).Nodup) (sched : List Nat) (l : Link) :
    ((fetchAll ma sources sched).run.run l).1 = ((fetchAll ma sources []).run.run l).1 ∧
      ∀ u, ((fetchAll ma sources sched).run.run l).2.at u =
        ((fetchAll ma sources []).run.run l).2.at u := by
  let xs₀ : List Download := sources.map fun p => ⟨p.1, p.2, .send 1⟩
  have hurls : xs₀.map Download.url = sources.map Prod.snd := by simp [xs₀, Function.comp_def]
  have hstart : ∀ x ∈ xs₀, OnTrack ma l x l := by
    intro x hx
    obtain ⟨p, -, rfl⟩ := List.mem_map.1 hx
    exact ⟨rfl, rfl⟩
  obtain ⟨ys, l₁, h₁, hk⟩ := steps_run ma sched xs₀ l
  have hnodup₀ : (xs₀.map Download.url).Nodup := by rw [hurls]; exact hnodup
  obtain ⟨hon, hout⟩ := steps_onTrack sched hnodup₀ hstart h₁
  have hys : ys.map Download.url = xs₀.map Download.url := Download.urls_of_keys hk
  have hfetch : (fetchAll ma sources sched).run.run l = (finishAll ma ys).run.run l₁ := by
    unfold fetchAll
    rw [run_bind_of_ok h₁]
  have hfetch₀ : (fetchAll ma sources []).run.run l = (finishAll ma xs₀).run.run l := rfl
  rw [hfetch, hfetch₀]
  exact finishAll_agree ys xs₀ l₁ l hk (by rw [hys]; exact hnodup₀) hon hstart
    fun v hv => hout v (by rwa [hys] at hv)

end Turns

end Phrasebook.Source
