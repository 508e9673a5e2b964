import Phrasebook.Registry.Session

/-!
The registry shared by callers that run at once.

All callers reach the registry through one shared reference to its current snapshot. A reader
takes the snapshot once and answers from it alone, without a lock. A reload takes three steps:
it checks the registry open, reads its new source on its own, and then, holding the registry's
lock, takes the snapshot again and publishes a new one on it with its catalog. A teardown is one
step under the lock. A run is any interleaving of the callers' steps, given as the sequence of
callers that move.

Each caller writes to the one journal. The announcement that ends a reload or a teardown is
made within its locked step here; only the registry, not the order of journal lines, is what
the interleaving is about.

The history is kept for reasoning and never read by a step: it records what the other callers
can see of a step, the snapshot a reader took and the command of each writer's locked step that
took effect.
-/

namespace Phrasebook.Registry

/-- Whether a command only reads the registry: every command but a reload and a teardown. -/
def Command.readsOnly : Command → Bool
  | .reload _ _ | .teardown => false
  | _ => true

/-- What a caller asks of the registry. -/
inductive Call where
  | reload (locale source : Value)
  | teardown
  /-- A command answered from one snapshot. -/
  | read (query : Command) (h : query.readsOnly = true)

/-- How far a caller has got with its call; each call has only the stages it goes through. -/
inductive Stage : Call → Type where
  | start {call : Call} : Stage call
  /-- A reload found the registry open. -/
  | checked {l src : Value} : Stage (.reload l src)
  /-- A reload read its new source into a catalog. -/
  | parsed {l src : Value} (c : Catalog) : Stage (.reload l src)
  /-- A reader took a snapshot. -/
  | holding {q : Command} {h : q.readsOnly = true} (snap : Registry) : Stage (.read q h)
  | done {call : Call} (result : Except Fault Reply) : Stage call

/-- One caller: its call and how far it has got. -/
structure Caller where
  call : Call
  stage : Stage call

/-- What one step shows the other callers. -/
inductive Event where
  /-- A reader took this snapshot. -/
  | read (caller : Nat) (snap : Registry)
  /-- A writer's locked step took effect with this command. -/
  | write (caller : Nat) (cmd : Command)

/-- The registry as its callers share it. -/
structure Shared where
  /-- The reference to the current snapshot. -/
  ref : Registry
  journal : Log.Journal
  callers : List Caller
  /-- What the callers have seen and written so far, oldest first. -/
  history : List Event

namespace Shared

def start (r : Registry) (j : Log.Journal) (calls : List Call) : Shared :=
  ⟨r, j, calls.map fun call => ⟨call, .start⟩, []⟩

def moveTo (s : Shared) (i : Nat) (c : Caller) (j : Log.Journal) : Shared :=
  { s with journal := j, callers := s.callers.set i c }

/-- The step of caller `i` at a stage of its call. -/
def advance (s : Shared) (i : Nat) : (call : Call) → Stage call → Shared
  | .reload l src, .start =>
    match s.ref.current.run.run s.journal with
    | (.ok _, j) => s.moveTo i ⟨.reload l src, .checked⟩ j
    | (.error f, j) => s.moveTo i ⟨.reload l src, .done (.error f)⟩ j
  | .reload l src, .checked =>
    match (parseReload l src).run.run s.journal with
    | (.ok c, j) => s.moveTo i ⟨.reload l src, .parsed c⟩ j
    | (.error f, j) => s.moveTo i ⟨.reload l src, .done (.error f)⟩ j
  | .reload l src, .parsed c =>
    match (s.ref.publish l c).run.run s.journal with
    | (.ok (c', r), j) =>
      { s.moveTo i ⟨.reload l src, .done (.ok (.reloaded l c'))⟩ j with
        ref := r, history := s.history ++ [.write i (.reload l src)] }
    | (.error f, j) => s.moveTo i ⟨.reload l src, .done (.error f)⟩ j
  | .teardown, .start =>
    match s.ref.teardown.run.run s.journal with
    | (.ok r, j) =>
      { s.moveTo i ⟨.teardown, .done (.ok .nothing)⟩ j with
        ref := r, history := s.history ++ [.write i .teardown] }
    | (.error f, j) => s.moveTo i ⟨.teardown, .done (.error f)⟩ j
  | .read q h, .start =>
    { s with callers := s.callers.set i ⟨.read q h, .holding s.ref⟩,
             history := s.history ++ [.read i s.ref] }
  | .read q h, .holding snap =>
    match (Session.step ⟨snap, {}⟩ q).run.run s.journal with
    | (res, j) => s.moveTo i ⟨.read q h, .done (res.map Prod.fst)⟩ j
  | _, .done _ => s

/-- One step of caller `i`; a caller that is done, or is not there, does nothing. -/
def step (s : Shared) (i : Nat) : Shared :=
  match s.callers[i]? with
  | some ⟨call, stage⟩ => s.advance i call stage
  | none => s

/-- Runs the callers' steps in the order the schedule names them. -/
def run (s : Shared) (sched : List Nat) : Shared := sched.foldl step s

end Shared

end Phrasebook.Registry
