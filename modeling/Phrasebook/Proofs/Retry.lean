import Phrasebook.Source.Remote

/-!
Downloads retried on a schedule.

A download asks for the answers to its requests one at a time, and a retry rule judges each
answer (`Outcome.verdict`). A transport failure may pass, whether the request raises it or it
is met while the body is read, and so may a status of 429 or from 500 up; any other status from
400 up refuses the download, and so does a body that is not UTF-8; below 400 a body that reads
is the catalog text. A body is read only when its status is below 400, so the status is judged
first.

Under the limit `m` a download makes `attemptsMade m os` attempts on the answers `os`: up to
the first answer that may not pass, and never more than `max 1 m`. After each attempt but the
last it asks for the wait `backoff i` after attempt `i` and announces the retry; it ends with the
answer of its last attempt, and announces how it ended.

The loop is followed one attempt at a time. An attempt takes the next answer and counts the
request (`attempt_run`); an answer that settles the download ends the loop with it
(`attempts_settle`), and one that may pass, under the limit, pauses and goes on
(`attempts_retry`). `attempts_run` puts the steps together by induction on the answers, and
`fetch_follows_retry_schedule` states the download as a whole.
-/

namespace Phrasebook.Source

/-- How the retry rule of a download judges one answer. -/
inductive Verdict where
  /-- The download ends with this text. -/
  | success (body : String)
  /-- The download is refused for good. -/
  | rejecting
  /-- The failure may pass: the download may try again. -/
  | transient
deriving DecidableEq

/-- How the rule judges a status that is a whole number: 429 and from 500 up may pass, any other
from 400 up is refused, and below 400 the body decides. -/
def statusVerdict (s : Int) : Option Verdict :=
  if s = 429 ∨ 500 ≤ s then some .transient else if 400 ≤ s then some .rejecting else none

/-- How the rule judges an answer, when it judges it: a transport failure may pass, raised by the
request or met while reading the body; a response is judged by its status, and below 400 by its
body, a success when it is text and refused when it is not UTF-8. A status that is no whole
number, or a failure that is not the transport's, is outside the rule. -/
def Outcome.verdict : Outcome → Option Verdict
  | .raise f _ => if fromTransport f then some .transient else none
  | .respond (.int s) body => some ((statusVerdict s).getD (.success body))
  | .undecodable (.int s) => some ((statusVerdict s).getD .rejecting)
  | .interrupted (.int s) f _ =>
    if fromTransport f then some ((statusVerdict s).getD .transient) else none
  | _ => none

/-- Whether the rule lets another attempt follow an answer. -/
def Outcome.transient (o : Outcome) : Bool := decide (o.verdict = some .transient)

/-- How many attempts a download makes on the answers `os` under the limit `m`: up to the first
answer that may not pass, and no more than `max 1 m`. -/
def attemptsMade (m : Int) (os : List Outcome) : Nat :=
  min (os.findIdx (fun o => !o.transient) + 1) (max 1 m.toNat)

/-- The link once a request for `url` has been answered, `rest` the answers still to come: one
more request counted. -/
def Link.answered (l : Link) (url : String) (rest : List Outcome) : Link :=
  { l with
    exchange :=
      { l.exchange with
        requests := l.exchange.requests.set url ((l.exchange.requests.get? url).getD 0 + 1)
        pending := l.exchange.pending.set url rest } }

/-- The link once a download has made `k` attempts from attempt `n` on, on the answers `os` for
`url`, pausing after the failures `fs` in turn: `k` more requests counted, the first `k` answers
used, the wait after each attempt but the last asked for, and each retry announced. -/
def Link.retried (l : Link) (url : String) (locale : Option String) (n : Nat)
    (os : List Outcome) (k : Nat) (fs : List Fault) : Link where
  exchange :=
    { pending := l.exchange.pending.set url (os.drop k)
      requests := l.exchange.requests.set url ((l.exchange.requests.get? url).getD 0 + k)
      delays := l.exchange.delays ++ (List.range' n (k - 1)).map backoff }
  journal := (fs.zipIdx n).foldl
    (fun j p => j.announce .warning (retryEvent (.str url) locale p.2 p.1)) l.journal

theorem spent_int (m : Int) (n : Nat) : spent (.int m) n = .ok (decide (m ≤ n)) := by
  simp [spent, Value.number?, Number.atMost_int]

theorem giveUp_int (m : Int) (n : Nat) (f : Fault) :
    giveUp? (.int m) n f = if retryable f && !decide (m ≤ n) then none else some f := by
  unfold giveUp?
  rw [spent_int]
  cases retryable f <;> by_cases h : m ≤ n <;> simp [h]

theorem statusFault_int (url : Value) (s : Int) :
    (statusVerdict s = some .transient →
        ∃ msg d, statusFault url (.int s) = some (.source .fetch msg d)) ∧
      (statusVerdict s = some .rejecting →
        ∃ msg d, statusFault url (.int s) = some (.source .any msg d)) ∧
      (statusVerdict s = none → statusFault url (.int s) = none) := by
  simp only [statusVerdict, statusFault, Value.number?, Number.equals_int, Number.atLeast_int]
  by_cases ht : s = 429 ∨ 500 ≤ s
  · have hb : (decide (s = 429) || decide (500 ≤ s)) = true := by simpa using ht
    simp [ht, hb]
  · have hb : (decide (s = 429) || decide (500 ≤ s)) = false := by simpa using ht
    by_cases hr : 400 ≤ s <;> simp [ht, hb, hr]

/-- What an answer the rule judges gives the download: a success its text, a refusal a plain
source fault, and a failure that may pass a fetch fault. -/
def Verdict.Gives : Verdict → Except Fault String → Prop
  | .success b, r => r = .ok b
  | .rejecting, r => ∃ msg d, r = .error (.source .any msg d)
  | .transient, r => ∃ msg d, r = .error (.source .fetch msg d)

theorem statusVerdict_cases (s : Int) :
    statusVerdict s = some .transient ∨ statusVerdict s = some .rejecting ∨
      statusVerdict s = none := by
  unfold statusVerdict
  split
  · exact .inl rfl
  · split
    · exact .inr (.inl rfl)
    · exact .inr (.inr rfl)

theorem raisedFault_of_transport {f : Fault} (h : fromTransport f = true) (url : Value)
    (status : Option Value) : ∃ msg d, raisedFault url f status = .source .fetch msg d :=
  ⟨_, _, if_pos h⟩

theorem statusFault_gives {s : Int} {v : Verdict} (hs : statusVerdict s = some v) (url : Value) :
    ∃ f, statusFault url (.int s) = some f ∧ v.Gives (.error f) := by
  rcases statusVerdict_cases s with ht | ht | ht <;> rw [ht] at hs <;> cases hs
  · obtain ⟨msg, d, hf⟩ := (statusFault_int url s).1 ht
    exact ⟨_, hf, msg, d, rfl⟩
  · obtain ⟨msg, d, hf⟩ := (statusFault_int url s).2.1 ht
    exact ⟨_, hf, msg, d, rfl⟩

/-- An answer gives the download what the rule's verdict on it says. -/
theorem answer_gives {o : Outcome} {v : Verdict} (h : o.verdict = some v) (url : Value) :
    v.Gives (o.answer url) := by
  -- with a status the rule judges, the status's own fault decides, before any body is read
  match o, h with
  | .raise f st, h =>
    simp only [Outcome.verdict] at h
    split at h
    · next ht =>
      cases h
      obtain ⟨msg, d, hf⟩ := raisedFault_of_transport ht url st
      exact ⟨msg, d, by rw [Outcome.answer, hf]⟩
    · cases h
  | .respond (.int s) body, h =>
    simp only [Outcome.verdict, Option.some.injEq] at h
    subst h
    cases hs : statusVerdict s with
    | some v =>
      obtain ⟨f, hf, hg⟩ := statusFault_gives hs url
      rw [Option.getD_some, Outcome.answer, hf]
      exact hg
    | none => simp [Verdict.Gives, Outcome.answer, (statusFault_int url s).2.2 hs]
  | .undecodable (.int s), h =>
    simp only [Outcome.verdict, Option.some.injEq] at h
    subst h
    cases hs : statusVerdict s with
    | some v =>
      obtain ⟨f, hf, hg⟩ := statusFault_gives hs url
      rw [Option.getD_some, Outcome.answer, hf, Option.getD_some]
      exact hg
    | none => exact ⟨_, _, by rw [Outcome.answer, (statusFault_int url s).2.2 hs]; rfl⟩
  | .interrupted (.int s) f st, h =>
    simp only [Outcome.verdict] at h
    split at h
    · next ht =>
      simp only [Option.some.injEq] at h
      subst h
      cases hs : statusVerdict s with
      | some v =>
        obtain ⟨f', hf, hg⟩ := statusFault_gives hs url
        rw [Option.getD_some, Outcome.answer, hf, Option.getD_some]
        exact hg
      | none =>
        obtain ⟨msg, d, hf⟩ := raisedFault_of_transport ht url st
        exact ⟨msg, d, by rw [Outcome.answer, (statusFault_int url s).2.2 hs, Option.getD_none, hf]⟩
    · cases h

theorem retryable_of_gives {v : Verdict} {f : Fault} (h : v.Gives (.error f)) :
    retryable f = decide (v = .transient) := by
  cases v with
  | success b => cases h
  | rejecting =>
    obtain ⟨msg, d, h⟩ := h
    cases h
    rfl
  | transient =>
    obtain ⟨msg, d, h⟩ := h
    cases h
    rfl

theorem request_run {url : String} {l : Link} {o : Outcome} {rest : List Outcome}
    (h : l.exchange.pending.get? url = some (o :: rest)) :
    (request url).run.run l = (.ok (some o), l.answered url rest) := by
  unfold request
  rw [run_bind_of_ok (run_get l)]
  simp only [h, Option.getD_some, Option.isSome_some, if_true]
  rfl

theorem attempt_run {url : String} {l : Link} {o : Outcome} {rest : List Outcome}
    (h : l.exchange.pending.get? url = some (o :: rest)) :
    (attempt (.str url)).run.run l = (o.answer (.str url), l.answered url rest) := by
  unfold attempt
  rw [Value.display_str, run_bind_of_ok (request_run h)]
  dsimp only
  cases o.answer (.str url) <;> rfl

section Step

variable {url : Value} {locale : Option String} {limit : Value} {fuel n : Nat} {l l₁ : Link}

theorem attempts_of_ok {t : String} (h : (attempt url).run.run l = (.ok t, l₁)) :
    (attempts url locale limit (fuel + 1) n).run.run l = (.ok t, l₁) := by
  rw [attempts]
  exact run_tryCatch_of_ok h

theorem attempts_of_giveUp {f e : Fault} (h : (attempt url).run.run l = (.error f, l₁))
    (hg : giveUp? limit n f = some e) :
    (attempts url locale limit (fuel + 1) n).run.run l = (.error e, l₁) := by
  rw [attempts, run_tryCatch_of_error h]
  simp only [hg]
  rfl

theorem attempts_of_retry {f : Fault} (h : (attempt url).run.run l = (.error f, l₁))
    (hg : giveUp? limit n f = none) :
    (attempts url locale limit (fuel + 1) n).run.run l =
      (attempts url locale limit fuel (n + 1)).run.run (l₁.pause url locale n f) := by
  rw [attempts, run_tryCatch_of_error h]
  simp only [hg]
  rw [run_bind_of_ok (run_modify _ _)]

end Step

/-- An answer that may not pass, or one met at the limit, settles the download: the loop ends
with what the answer gives. -/
theorem attempts_settle {url : String} {locale : Option String} {m : Int} {n fuel : Nat}
    {l : Link} {o : Outcome} {rest : List Outcome} {v : Verdict}
    (hp : l.exchange.pending.get? url = some (o :: rest)) (hv : o.verdict = some v)
    (hs : v ≠ .transient ∨ m ≤ n) :
    (attempts (.str url) locale (.int m) (fuel + 1) n).run.run l =
      (o.answer (.str url), l.answered url rest) := by
  have hrun := attempt_run hp
  cases hr : o.answer (.str url) with
  | ok b =>
    rw [hr] at hrun
    exact attempts_of_ok hrun
  | error f =>
    rw [hr] at hrun
    have hret := retryable_of_gives (hr ▸ answer_gives hv (.str url))
    refine attempts_of_giveUp hrun ?_
    by_cases ht : v = .transient
    · -- a failure that may pass is passed on at the limit
      have hmn : m ≤ n := hs.resolve_left fun h => h ht
      simp [giveUp_int, hret, ht, hmn]
    · simp [giveUp_int, hret, ht]

theorem attempts_retry {url : String} {locale : Option String} {m : Int} {n fuel : Nat}
    {l : Link} {o : Outcome} {rest : List Outcome} {f : Fault}
    (hp : l.exchange.pending.get? url = some (o :: rest)) (hv : o.verdict = some .transient)
    (hf : o.answer (.str url) = .error f) (hn : ¬ m ≤ n) :
    (attempts (.str url) locale (.int m) (fuel + 1) n).run.run l =
      (attempts (.str url) locale (.int m) fuel (n + 1)).run.run
        ((l.answered url rest).pause (.str url) locale n f) := by
  have hrun := attempt_run hp
  rw [hf] at hrun
  have hret : retryable f = true :=
    (retryable_of_gives (hf ▸ answer_gives hv (.str url))).trans (by decide)
  exact attempts_of_retry hrun (by simp [giveUp_int, hret, hn])

theorem retried_one (l : Link) (url : String) (locale : Option String) (n : Nat) (o : Outcome)
    (rest : List Outcome) : l.retried url locale n (o :: rest) 1 [] = l.answered url rest := by
  simp [Link.retried, Link.answered]

theorem retried_pause (l : Link) (url : String) (locale : Option String) (n : Nat) (o : Outcome)
    (rest : List Outcome) (f : Fault) {k : Nat} (hk : 0 < k) (fs : List Fault) :
    ((l.answered url rest).pause (.str url) locale n f).retried url locale (n + 1) rest k fs =
      l.retried url locale n (o :: rest) (k + 1) (f :: fs) := by
  obtain ⟨j, rfl⟩ : ∃ j, k = j + 1 := ⟨k - 1, by omega⟩
  simp [Link.retried, Link.answered, Link.pause, List.range'_succ, List.zipIdx_cons,
    Nat.add_assoc, Nat.add_comm 1]

/-- The loop of attempts from attempt `n` on answers the rule judges. It makes `k` attempts: up
to the first answer that may not pass, and no more than the limit leaves. Every answer before the
last may pass and has the loop pause; the last is met at the limit when it may pass too; and the
loop ends with what the last answer gives. -/
theorem attempts_run (url : String) (locale : Option String) (m : Int) (os : List Outcome) :
    ∀ (n fuel k : Nat) (l : Link), (∀ o ∈ os, o.verdict.isSome) →
      l.exchange.pending.get? url = some os →
      k = min (os.findIdx (fun o => !o.transient) + 1) ((m - n).toNat + 1) →
      k ≤ os.length → k ≤ fuel →
      ∃ pre o post fs, os = pre ++ o :: post ∧ pre.length = k - 1 ∧
        (∀ p ∈ pre, p.verdict = some .transient) ∧
        pre.map (·.answer (.str url)) = fs.map .error ∧
        (o.verdict = some .transient → k = (m - n).toNat + 1) ∧
        (attempts (.str url) locale (.int m) fuel n).run.run l =
          (o.answer (.str url), l.retried url locale n os k fs) := by
  induction os with
  | nil =>
    intro n fuel k l _ _ hk hlen _
    simp only [List.length_nil] at hlen
    omega
  | cons o rest ih =>
    intro n fuel k l hos hp hk hlen hfuel
    obtain ⟨fuel, rfl⟩ : ∃ j, fuel = j + 1 := ⟨fuel - 1, by omega⟩
    obtain ⟨v, hv⟩ := Option.isSome_iff_exists.1 (hos o List.mem_cons_self)
    have hidx : (o :: rest).findIdx (fun o => !o.transient) =
        if v = .transient then rest.findIdx (fun o => !o.transient) + 1 else 0 := by
      by_cases ht : v = .transient <;> simp [List.findIdx_cons, Outcome.transient, hv, ht]
    by_cases hgo : v = .transient ∧ ¬ m ≤ n
    · -- the answer may pass below the limit: the loop pauses and goes on with the rest
      obtain ⟨rfl, hn⟩ := hgo
      obtain ⟨msg, d, hf⟩ := answer_gives hv (.str url)
      let l' := (l.answered url rest).pause (.str url) locale n (.source .fetch msg d)
      have hp' : l'.exchange.pending.get? url = some rest := Table.get?_set_self _ _ _
      rw [hidx, if_pos rfl] at hk
      have hk' : k - 1 = min (rest.findIdx (fun o => !o.transient) + 1)
          ((m - ((n + 1 : Nat) : Int)).toNat + 1) := by omega
      have hk2 : 2 ≤ k := by omega
      obtain ⟨pre, o', post, fs, rfl, hlen', hpre, hfs, hlast, hrun⟩ :=
        ih (n + 1) fuel (k - 1) l' (fun q hq => hos q (List.mem_cons_of_mem o hq)) hp' hk'
          (by simp at hlen; omega) (by omega)
      refine ⟨o :: pre, o', post, .source .fetch msg d :: fs, rfl, by simp; omega, ?_, ?_,
        fun h => by have := hlast h; omega, ?_⟩
      · intro q hq
        rcases List.mem_cons.1 hq with rfl | hq
        · exact hv
        · exact hpre q hq
      · simp [hf, hfs]
      · rw [attempts_retry hp hv hf hn, hrun]
        have hk1 : k = (k - 1) + 1 := by omega
        conv => rhs; rw [hk1]
        rw [retried_pause l url locale n o (pre ++ o' :: post) _ (by omega)]
    · -- the answer settles the download: it may not pass, or it is met at the limit
      have hsettle : v ≠ .transient ∨ m ≤ n := by
        by_cases ht : v = .transient
        · exact .inr (Classical.byContradiction fun hn => hgo ⟨ht, hn⟩)
        · exact .inl ht
      have hk1 : k = 1 := by
        rcases hsettle with ht | hmn
        · rw [hidx, if_neg ht] at hk
          omega
        · omega
      subst hk1
      refine ⟨[], o, rest, [], rfl, rfl, by simp, rfl, fun h => ?_, ?_⟩
      · rcases hsettle with ht | hmn
        · exact absurd (Option.some.inj (hv.symm.trans h)) ht
        · omega
      · rw [attempts_settle hp hv hsettle, retried_one]

theorem resume_of_loop {url : Value} {locale : Option String} {limit : Value} {l l' : Link}
    {n : Nat} {r : Except Fault String}
    (h : (attempts url locale limit
      (((l.exchange.pending.get? url.display).getD []).length + 1) n).run.run l = (r, l')) :
    (resume url locale limit n).run.run l = (.ok r, l'.conclude url locale r) := by
  unfold resume
  rw [run_bind_of_ok (run_get l)]
  -- the loop's failures are kept as its result, so the download goes on to announce them
  rw [run_bind_of_ok (run_tryCatch_keep h), run_bind_of_ok (run_modify _ _)]
  rfl

theorem resume_of_attempts {url : String} {locale : Option String} {limit : Value} {l l' : Link}
    {os : List Outcome} {n : Nat} {r : Except Fault String}
    (hp : l.exchange.pending.get? url = some os)
    (h : (attempts (.str url) locale limit (os.length + 1) n).run.run l = (r, l')) :
    (resume (.str url) locale limit n).run.run l = (.ok r, l'.conclude (.str url) locale r) :=
  resume_of_loop (by rw [Value.display_str, hp, Option.getD_some]; exact h)

theorem fetch_of_attempts {url : String} {locale : Option String} {limit : Value} {l l' : Link}
    {os : List Outcome} {r : Except Fault String} (hp : l.exchange.pending.get? url = some os)
    (h : (attempts (.str url) locale limit (os.length + 1) 1).run.run l = (r, l')) :
    (fetch (.str url) locale limit).run.run l = (r, l'.conclude (.str url) locale r) := by
  unfold fetch
  rw [run_bind_of_ok (resume_of_attempts hp h), run_orFail]

/-- A download with the limit `m`, on answers the rule judges, follows the retry schedule. Let `a`
be the number of attempts it makes (`attemptsMade`: up to the first answer that may not pass, and
no more than `max 1 m`), and let there be that many answers. The answers before the `a`-th all
may pass, and the `a`-th is met at the limit when it may pass too. The download sends exactly `a`
requests and leaves the answers after the `a`-th unused, asks for the waits `backoff 1`, ...,
`backoff (a - 1)` in that order, announces a retry with its number after each of the first
`a - 1` attempts (`Link.retried`), and ends with what the `a`-th answer gives, announced as it
ends (`Link.conclude`): the text of a success, a plain source fault for a refusal, and a fetch
fault for a failure that may pass. -/
theorem fetch_follows_retry_schedule (url : String) (locale : Option String) (m : Int)
    {os : List Outcome} {l : Link} (hos : ∀ o ∈ os, o.verdict.isSome)
    (hp : l.exchange.pending.get? url = some os) (ha : attemptsMade m os ≤ os.length) :
    let a := attemptsMade m os
    ∃ pre o post fs, os = pre ++ o :: post ∧ pre.length = a - 1 ∧
      (∀ p ∈ pre, p.verdict = some .transient) ∧
      pre.map (·.answer (.str url)) = fs.map .error ∧
      (o.verdict = some .transient → a = max 1 m.toNat) ∧
      (fetch (.str url) locale (.int m)).run.run l =
        (o.answer (.str url),
          (l.retried url locale 1 os a fs).conclude (.str url) locale (o.answer (.str url))) ∧
      (∀ b, o.verdict = some (.success b) → o.answer (.str url) = .ok b) ∧
      (o.verdict = some .rejecting →
        ∃ msg d, o.answer (.str url) = .error (.source .any msg d)) ∧
      (o.verdict = some .transient →
        ∃ msg d, o.answer (.str url) = .error (.source .fetch msg d)) := by
  intro a
  -- from attempt 1 the limit leaves `max 1 m` attempts
  have hk : a = min (os.findIdx (fun o => !o.transient) + 1)
      ((m - ((1 : Nat) : Int)).toNat + 1) := by
    simp only [a, attemptsMade]
    omega
  obtain ⟨pre, o, post, fs, hsplit, hlen, hpre, hfs, hlast, hrun⟩ :=
    attempts_run url locale m os 1 (os.length + 1) a l hos hp hk ha (by omega)
  refine ⟨pre, o, post, fs, hsplit, hlen, hpre, hfs, fun h => by rw [hlast h]; omega,
    fetch_of_attempts hp hrun, fun b h => answer_gives h _, fun h => answer_gives h _,
    fun h => answer_gives h _⟩

/-- Three answers under a limit of three: a server error and a broken connection are tried again,
after waits of one and two seconds, and the third answer is the text. -/
theorem fetch_follows_retry_schedule_cs :
    let os : List Outcome := [.respond (.int 503) "", .raise (.transport .connection none) none,
      .respond (.int 200) "a = 1"]
    let l : Link := { exchange := { pending := ⟨[("https://cdn.example/cs.ftl", os)]⟩ } }
    (∀ o ∈ os, o.verdict.isSome) ∧ l.exchange.pending.get? "https://cdn.example/cs.ftl" = some os ∧
      attemptsMade 3 os ≤ os.length ∧
      let a := attemptsMade 3 os
      ∃ pre o post fs, os = pre ++ o :: post ∧ pre.length = a - 1 ∧
        (∀ p ∈ pre, p.verdict = some .transient) ∧
        pre.map (·.answer (.str "https://cdn.example/cs.ftl")) = fs.map .error ∧
        (o.verdict = some .transient → a = max 1 (3 : Int).toNat) ∧
        (fetch (.str "https://cdn.example/cs.ftl") (some "cs") (.int 3)).run.run l =
          (o.answer (.str "https://cdn.example/cs.ftl"),
            (l.retried "https://cdn.example/cs.ftl" (some "cs") 1 os a fs).conclude
              (.str "https://cdn.example/cs.ftl") (some "cs")
              (o.answer (.str "https://cdn.example/cs.ftl"))) ∧
        (∀ b, o.verdict = some (.success b) → o.answer (.str "https://cdn.example/cs.ftl") = .ok b) ∧
        (o.verdict = some .rejecting →
          ∃ msg d, o.answer (.str "https://cdn.example/cs.ftl") = .error (.source .any msg d)) ∧
        (o.verdict = some .transient →
          ∃ msg d, o.answer (.str "https://cdn.example/cs.ftl") = .error (.source .fetch msg d)) := by
  intro os l
  have hos : ∀ o ∈ os, o.verdict.isSome := by decide
  have hp : l.exchange.pending.get? "https://cdn.example/cs.ftl" = some os := rfl
  have ha : attemptsMade 3 os ≤ os.length := by decide
  exact ⟨hos, hp, ha, fetch_follows_retry_schedule "https://cdn.example/cs.ftl" (some "cs") 3 hos hp ha⟩

end Phrasebook.Source
