/-
  Procedures: what a run does to the world, step by step.

  1. **State** — a procedure starts from a directory tree and leaves an `Outcome`: the tree
     afterwards, the events and the requests in order, and a value or a failure.
  2. **Failure keeps the effects** — a failed procedure has changed what it has changed; `bind` goes
     on after a success and stops at a failure, with everything so far kept.
  3. **Nothing else** — there is no clock and no randomness, so the same tree gives the same outcome.
-/
import BookDatasets.Files.Basic
import BookDatasets.Log
import BookDatasets.Web.Script

namespace BookDatasets

/-- What a procedure leaves behind. -/
structure Outcome (α : Type) where
  files : Files
  events : List Log.Event
  requests : List Web.Request
  result : Except Failure α

/-- The outcome with events and requests in front. -/
def Outcome.after {α : Type} (events : List Log.Event) (requests : List Web.Request)
    (o : Outcome α) : Outcome α :=
  { o with events := events ++ o.events, requests := requests ++ o.requests }

/-- A step that works on a directory tree and may fail. -/
def Procedure (α : Type) : Type := Files → Outcome α

namespace Procedure

variable {α β : Type}

/-- The outcome from a tree. -/
def run (p : Procedure α) (files : Files) : Outcome α := p files

/-- Does nothing and succeeds. -/
def done (value : α) : Procedure α := fun files => ⟨files, [], [], .ok value⟩

/-- Does nothing and fails. -/
def fail (failure : Failure) : Procedure α := fun files => ⟨files, [], [], .error failure⟩

/-- Goes on with the value of a first procedure. -/
def andThen (p : Procedure α) (next : α → Procedure β) : Procedure β := fun files =>
  match p files with
  | ⟨files, events, requests, .error failure⟩ => ⟨files, events, requests, .error failure⟩
  | ⟨files, events, requests, .ok value⟩ => (next value files).after events requests

instance : Monad Procedure where
  pure := done
  bind := andThen

/-- Reports an event. -/
def report (event : Log.Event) : Procedure Unit := fun files => ⟨files, [event], [], .ok ()⟩

/-- An operation on the tree.  If it is refused, the refusal is reported and becomes a failure. -/
def operate {ε : Type} (operation : Files → Files × Except ε α) (cause : ε → Cause)
    (complaint : ε → List Log.Event := fun _ => []) : Procedure α := fun files =>
  match operation files with
  | (files, .ok value) => ⟨files, [], [], .ok value⟩
  | (files, .error error) => ⟨files, complaint error, [], .error (.of (cause error))⟩

/-- A failure of the procedure happens in a context. -/
def within (context : Context) (p : Procedure α) : Procedure α := fun files =>
  match p files with
  | ⟨files, events, requests, .error failure⟩ =>
    ⟨files, events, requests, .error (failure.within context)⟩
  | outcome => outcome

/-- The result of a procedure as a value: nothing fails. -/
def attempt (p : Procedure α) : Procedure (Except Failure α) := fun files =>
  match p files with
  | ⟨files, events, requests, result⟩ => ⟨files, events, requests, .ok result⟩

end Procedure

end BookDatasets
