/-
  Downloads: a local copy, made once.

  1. **Placeholder** — the file is made, empty, before anything is asked of the server, and only if
     nothing stands at its path.  So an existing copy is never touched, and no request is sent for
     it.
  2. **Whole or not at all** — chunks are added to the placeholder as they arrive.  If there is no
     complete body of a successful answer, the file is removed again and the next download starts
     afresh.
  3. **A vanished placeholder** — when something else removes the file meanwhile, the octets go
     nowhere, but they are received and counted all the same.
-/
import BookDatasets.Files.Operations
import BookDatasets.Procedure

namespace BookDatasets

namespace Download

/-! ## Receiving a body -/

/-- Adds octets to the file at a place; without a file they go nowhere. -/
def addTo (place : Location) (octets : Bytes) (files : Files) : Files :=
  match files.content? place with
  | some content => files.put place (.file (.bytes (content.octets ++ octets)))
  | none => files

/-- Adds the chunks of a body to the file at a place. -/
def addAll (place : Location) (chunks : List Bytes) (files : Files) : Files :=
  chunks.foldl (fun files chunk => addTo place chunk files) files

/-- How many octets the chunks have. -/
def size (chunks : List Bytes) : Nat := chunks.flatten.length

/-- The tree after the file that disappears has disappeared. -/
def afterRemoval (removed : Option Text) (files : Files) : Files :=
  match removed with
  | none => files
  | some path => (files.unlink path).toOption.getD files

/-- Receives the body of a reply and says how many octets it has. -/
def receive (reply : Option Web.Reply) (url : Text) (place : Location) (files : Files) :
    Files × Except AcquireError Nat :=
  match reply with
  | none => (files, .error (.request url))
  | some reply =>
    if !Web.isSuccess reply.status then (files, .error (.status url reply.status))
    else
      (addAll place reply.chunks files,
        if reply.complete then .ok (size reply.chunks) else .error (.request url))

/-- Asks the server and receives what it sends. -/
def fetch (exchange : Web.Exchange) (url : Text) (place : Location) : Procedure Nat := fun files =>
  let (files, result) := receive exchange.reply url place (afterRemoval exchange.removes files)
  match result with
  | .ok size => ⟨files, [], exchange.requests, .ok size⟩
  | .error error => ⟨files, [], exchange.requests, .error (.of (.acquire error))⟩

/-! ## Events -/

/-- Says that there is a copy already. -/
def present (path : Text) : Log.Event :=
  Log.info .acquire ("Dataset already downloaded (delete ".toList ++ path
    ++ " if you want to redownload source data)".toList)

/-- Says that a download begins. -/
def begins (url : Text) : Log.Event := Log.info .acquire ("Downloading dataset from ".toList ++ url)

/-- Says how much was downloaded. -/
def saved (size : Nat) (path : Text) : Log.Event :=
  Log.info .acquire ("Saved ".toList ++ decimal size ++ " bytes to ".toList ++ path)

/-- Says that the placeholder of a failed download could not be removed. -/
def stuck (path : Text) (error : IoError) : Log.Event :=
  Log.warn .acquire ("Failed to remove incomplete download ".toList ++ path ++ ": ".toList
    ++ error.message)

/-! ## Downloading -/

/-- Removes the placeholder of a failed download. -/
def discard (path : Text) : Procedure Unit := fun files =>
  match files.unlink path with
  | .ok files => ⟨files, [], [], .ok ()⟩
  | .error error => ⟨files, [stuck path error], [], .ok ()⟩

/-- Downloads to a placeholder, which is discarded if that fails. -/
def fill (exchange : Web.Exchange) (url path : Text) (place : Location) : Procedure Bool := do
  Procedure.report (begins url)
  match ← (fetch exchange url place).attempt with
  | .ok size =>
    Procedure.report (saved size path)
    return true
  | .error failure =>
    discard path
    Procedure.fail failure

/-- Makes the placeholder and says where it stands; `none` if something stands at its path. -/
def placeholder (path : Text) (files : Files) : Files × Except IoError (Option Location) :=
  match files.createDirectories (Path.parent path) with
  | (files, .error error) => (files, .error error)
  | (files, .ok ()) =>
    match files.createNew path with
    | .ok (files, place) => (files, .ok (some place))
    | .error .fileExists => (files, .ok none)
    | .error error => (files, .error error)

/-- Downloads to a path unless something stands there already.  Says whether it downloaded. -/
def ifMissing (exchange : Web.Exchange) (url path : Text) : Procedure Bool := do
  match ← Procedure.operate (placeholder path) (fun e => .acquire (.io path e)) with
  | none =>
    Procedure.report (present path)
    return false
  | some place => fill exchange url path place

end Download

end BookDatasets
