/-
  A listing is downloaded at most once, and never in part.

  1. **One call** — the placeholder is made only where nothing stands, so a call goes one of three
     ways: something stands there (`ifMissing_of_stands`); the placeholder cannot be made; or it is
     made, and filled or removed.  A placeholder that is removed leaves the very tree that it was made
     in, however much of the body was in it (`fill_fails`).
  2. **The state between calls** — as long as calls fail nothing stands at the path in the tree WITH
     the directories above it, and making these a second time changes nothing.  This is the invariant
     that carries the induction over the calls: the next call finds what the one before it found.
  3. **After a success** — the copy stands, and from then on every call leaves the tree alone.
-/
import BookDatasets.Download
import BookDatasets.Files.Arrangement
import BookDatasets.Proofs.Files.Operations
import BookDatasets.Proofs.Procedure

namespace BookDatasets

namespace Download

/-! ## Calls -/

/-- A call, and what comes of asking the server: the requests that it sees, and its reply. -/
structure Call where
  url : Text
  requests : List Web.Request
  reply : Option Web.Reply

/-- What a call sees of the server. -/
def Call.exchange (call : Call) : Web.Exchange := ⟨call.requests, none, call.reply⟩

/-- When nothing is removed meanwhile, this is all that there is to see. -/
theorem exchange_of_quiet {exchange : Web.Exchange} (hquiet : exchange.removes = none) (url : Text) :
    (⟨url, exchange.requests, exchange.reply⟩ : Call).exchange = exchange := by
  rw [Call.exchange, ← hquiet]

/-- The server answers with success and sends a body to its end. -/
def Call.Delivers (call : Call) (body : Bytes) : Prop :=
  ∃ reply, call.reply = some reply ∧ Web.isSuccess reply.status = true ∧ reply.complete = true
    ∧ reply.chunks.flatten = body

/-- The outcomes of calls on one path, each from the tree that the call before it left. -/
def outcomes (path : Text) : List Call → Files → List (Outcome Bool)
  | [], _ => []
  | call :: calls, files =>
    let outcome := ifMissing call.exchange call.url path files
    outcome :: outcomes path calls outcome.files

/-- A call that leaves a tree as it was and asks for nothing.  It answers that there is a copy, unless
the path names a directory. -/
structure LeavesAlone (path : Text) (files : Files) (o : Outcome Bool) : Prop where
  files : o.files = files
  requests : o.requests = []
  result : o.result = if Path.asksForDirectory path
    then .error (.of (.acquire (.io path .isADirectory))) else .ok false

/-- Calls on a path from a tree where nothing stands there, and their outcomes: each call fails that
cannot make the file or gets no whole body, and nothing stands there after it; the first other call
downloads the body; every later call leaves the tree alone and answers that there is a copy. -/
inductive Once (path : Text) : Files → List Call → List (Outcome Bool) → Prop where
  | done {files : Files} : Once path files [] []
  | fails {files : Files} {call : Call} {calls : List Call} {o : Outcome Bool}
      {os : List (Outcome Bool)} {failure : Failure}
      (hcause : ¬ files.CanMake path ∨ ∀ body, ¬ call.Delivers body)
      (hresult : o.result = .error failure) (habsent : o.files.stands path = false)
      (hlater : Once path o.files calls os) : Once path files (call :: calls) (o :: os)
  | downloads {files : Files} {call : Call} {calls : List Call} {o : Outcome Bool}
      {os : List (Outcome Bool)} {body : Bytes}
      (hmake : files.CanMake path) (hbody : call.Delivers body)
      (hresult : o.result = .ok true) (hcopy : o.files.readAt path = .ok body)
      (hlater : ∀ later ∈ os, later.result = .ok false ∧ later.requests = []
        ∧ later.files = o.files) : Once path files (call :: calls) (o :: os)

section

variable {exchange : Web.Exchange} {url path : Text} {files other : Files} {place : Location}

/-! ## One call -/

section

variable (hparent : files.createDirectories (Path.parent path) = (other, .ok ()))

include hparent

theorem placeholder_of_made {made : Files} (hnew : other.createNew path = .ok (made, place)) :
    placeholder path files = (made, .ok (some place)) := by
  rw [placeholder, hparent]
  dsimp only
  rw [hnew]

theorem placeholder_of_exists (hnew : other.createNew path = .error .fileExists) :
    placeholder path files = (other, .ok none) := by
  rw [placeholder, hparent]
  dsimp only
  rw [hnew]

theorem placeholder_of_error {error : IoError} (hnew : other.createNew path = .error error)
    (hexists : error ≠ .fileExists) : placeholder path files = (other, .error error) := by
  rw [placeholder, hparent]
  dsimp only
  rw [hnew]
  cases error with
  | fileExists => exact absurd rfl hexists
  | _ => rfl

end

theorem ifMissing_of_error {error : IoError} (h : placeholder path files = (other, .error error)) :
    ifMissing exchange url path files = ⟨other, [], [], .error (.of (.acquire (.io path error)))⟩ :=
  Procedure.bind_error (Procedure.operate_error h _ _) _

theorem ifMissing_of_none (h : placeholder path files = (other, .ok none)) :
    ifMissing exchange url path files = ⟨other, [present path], [], .ok false⟩ :=
  Procedure.bind_ok (Procedure.operate_ok h _ _) _

theorem ifMissing_of_some (h : placeholder path files = (other, .ok (some place))) :
    ifMissing exchange url path files = fill exchange url path place other :=
  Procedure.bind_ok (Procedure.operate_ok h _ _) _

/-- **Where something stands**, once the directories above are made, nothing is asked for. -/
theorem ifMissing_of_stands (exchange : Web.Exchange) (url : Text)
    (h : (files.withParent path).stands path = true) :
    LeavesAlone path (files.withParent path) (ifMissing exchange url path files) := by
  have hparent := Files.createDirectories_of_withParent h
  have hnew := Files.createNew_of_stands h
  by_cases hasks : Path.asksForDirectory path = true
  · rw [if_pos hasks] at hnew
    rw [ifMissing_of_error (placeholder_of_error hparent hnew nofun)]
    exact ⟨rfl, rfl, (if_pos hasks).symm⟩
  · rw [if_neg hasks] at hnew
    rw [ifMissing_of_none (placeholder_of_exists hparent hnew)]
    exact ⟨rfl, rfl, (if_neg hasks).symm⟩

/-! ## Filling the placeholder -/

theorem addAll_put (hplace : place ≠ []) (files : Files) (octets : Bytes) (chunks : List Bytes) :
    addAll place chunks (files.put place (.file (.bytes octets)))
      = files.put place (.file (.bytes (octets ++ chunks.flatten))) := by
  induction chunks generalizing octets with
  | nil =>
    rw [List.flatten_nil, List.append_nil]
    rfl
  | cons chunk chunks ih =>
    have hadd : addTo place chunk (files.put place (.file (.bytes octets)))
        = files.put place (.file (.bytes (octets ++ chunk))) := by
      have hcontent : (files.put place (.file (.bytes octets))).content? place
          = some (.bytes octets) := by
        rw [Files.content?, Files.find?_put files hplace, if_pos rfl]
      rw [addTo, hcontent]
      exact Files.put_put files place _ _
    rw [addAll, List.foldl_cons, hadd, ← addAll, ih, List.flatten_cons, List.append_assoc]

end

section

variable {call : Call} {path name : Text} {files : Files} {place dir : Location} {body : Bytes}

/-- A body that is delivered is received as a whole. -/
theorem fetch_delivers (files : Files) (hplace : place ≠ []) (h : call.Delivers body) :
    ∃ size, fetch call.exchange call.url place (files.put place (.file (.bytes [])))
      = ⟨files.put place (.file (.bytes body)), [], call.requests, .ok size⟩ := by
  obtain ⟨reply, hreply, hsuccess, hcomplete, rfl⟩ := h
  refine ⟨size reply.chunks, ?_⟩
  rw [fetch, Call.exchange, afterRemoval, hreply, receive, hsuccess, hcomplete, addAll_put hplace]
  rfl

theorem Call.Delivers.unique {body' : Bytes} (h : call.Delivers body) (h' : call.Delivers body') :
    body = body' := by
  obtain ⟨reply, hreply, -, -, rfl⟩ := h
  obtain ⟨reply', hreply', -, -, rfl⟩ := h'
  cases hreply.symm.trans hreply'
  rfl

/-- Without one the reception fails, with some octets in the placeholder. -/
theorem fetch_fails (files : Files) (hplace : place ≠ []) (h : ∀ body, ¬ call.Delivers body) :
    ∃ octets failure, fetch call.exchange call.url place (files.put place (.file (.bytes [])))
      = ⟨files.put place (.file (.bytes octets)), [], call.requests, .error failure⟩ := by
  rw [fetch, Call.exchange, afterRemoval]
  dsimp only
  rcases hreply : call.reply with _ | reply
  · exact ⟨_, _, rfl⟩
  rw [receive]
  rcases hsuccess : Web.isSuccess reply.status
  · exact ⟨_, _, rfl⟩
  rcases hcomplete : reply.complete
  · rw [addAll_put hplace]
    exact ⟨_, _, rfl⟩
  · exact absurd ⟨reply, hreply, hsuccess, hcomplete, rfl⟩ (h reply.chunks.flatten)

/-- **A placeholder is filled** with a body that is delivered. -/
theorem fill_delivers (path : Text) (files : Files) (hplace : place ≠ []) (h : call.Delivers body) :
    (fill call.exchange call.url path place (files.put place (.file (.bytes [])))).result = .ok true
      ∧ (fill call.exchange call.url path place (files.put place (.file (.bytes [])))).files
        = files.put place (.file (.bytes body)) := by
  obtain ⟨size, hfetch⟩ := fetch_delivers files hplace h
  rw [fill, Procedure.report_bind, Procedure.attempt_bind hfetch]
  exact ⟨rfl, rfl⟩

/-- **A placeholder that is not filled** is removed, and nothing is left of it. -/
theorem fill_fails (hlocate : files.locate .entry path = .ok (.entry dir name false))
    (hfree : files.find? (name :: dir) = none) (h : ∀ body, ¬ call.Delivers body) :
    (∃ failure, (fill call.exchange call.url path (name :: dir)
        (files.put (name :: dir) (.file (.bytes [])))).result = .error failure)
      ∧ (fill call.exchange call.url path (name :: dir)
        (files.put (name :: dir) (.file (.bytes [])))).files = files := by
  obtain ⟨octets, failure, hfetch⟩ := fetch_fails files (List.cons_ne_nil name dir) h
  have hdiscard : discard path (files.put (name :: dir) (.file (.bytes octets)))
      = ⟨files, [], [], .ok ()⟩ := by
    rw [discard, Files.unlink_put hlocate hfree]
  rw [fill, Procedure.report_bind, Procedure.attempt_bind hfetch]
  dsimp only
  rw [Procedure.bind_ok hdiscard]
  exact ⟨⟨failure, rfl⟩, rfl⟩

/-! ## The state between calls -/

/-- **A call where nothing stands** either fails and leaves the tree with the directories above the
path, or makes the file there and fills it. -/
theorem ifMissing_of_absent (call : Call) (h : (files.withParent path).stands path = false) :
    ((¬ files.CanMake path ∨ ∀ body, ¬ call.Delivers body)
      ∧ (∃ failure, (ifMissing call.exchange call.url path files).result = .error failure)
      ∧ (ifMissing call.exchange call.url path files).files = files.withParent path)
    ∨ (files.CanMake path ∧ ∃ body, call.Delivers body
      ∧ (ifMissing call.exchange call.url path files).result = .ok true
      ∧ ∃ dir name, (files.withParent path).locate .entry path = .ok (.entry dir name false)
        ∧ (files.withParent path).find? (name :: dir) = none
        ∧ (ifMissing call.exchange call.url path files).files
          = (files.withParent path).put (name :: dir) (.file (.bytes body))) := by
  rcases Files.making_of_absent h with
    @⟨error, hparent, hcannot⟩ | ⟨hparent, hnew, hexists, hcannot⟩ |
    ⟨hparent, hlocate, hfree, hnew, hcan⟩
  · have hplaceholder : placeholder path files = (files.withParent path, .error error) := by
      rw [placeholder, hparent]
    rw [ifMissing_of_error hplaceholder]
    exact Or.inl ⟨Or.inl hcannot, ⟨_, rfl⟩, rfl⟩
  · rw [ifMissing_of_error (placeholder_of_error hparent hnew hexists)]
    exact Or.inl ⟨Or.inl hcannot, ⟨_, rfl⟩, rfl⟩
  · rw [ifMissing_of_some (placeholder_of_made hparent hnew)]
    by_cases hbody : ∃ body, call.Delivers body
    · obtain ⟨body, hbody⟩ := hbody
      obtain ⟨hresult, hfiles⟩ := fill_delivers path _ (List.cons_ne_nil _ _) hbody
      exact Or.inr ⟨hcan, body, hbody, hresult, _, _, hlocate, hfree, hfiles⟩
    · rw [not_exists] at hbody
      obtain ⟨hresult, hfiles⟩ := fill_fails hlocate hfree hbody
      exact Or.inl ⟨Or.inr hbody, hresult, hfiles⟩

/-! ## Calls one after the other -/

/-- **Where something stands** every call leaves the tree alone. -/
theorem outcomes_of_stands (calls : List Call) (h : (files.withParent path).stands path = true) :
    ∀ o ∈ outcomes path calls files, LeavesAlone path (files.withParent path) o := by
  induction calls generalizing files with
  | nil => exact fun _ ho => absurd ho List.not_mem_nil
  | cons call calls ih =>
    have hfirst := ifMissing_of_stands call.exchange call.url h
    intro o ho
    rw [outcomes] at ho
    rcases List.mem_cons.1 ho with rfl | ho
    · exact hfirst
    · rw [hfirst.files] at ho
      rw [← Files.withParent_again] at h ⊢
      exact ih h o ho

/-- **Where nothing stands** calls fail until one downloads. -/
theorem outcomes_of_absent (calls : List Call) (h : (files.withParent path).stands path = false) :
    Once path files calls (outcomes path calls files) := by
  induction calls generalizing files with
  | nil => exact .done
  | cons call calls ih =>
    rw [outcomes]
    rcases ifMissing_of_absent call h with ⟨hcause, ⟨failure, hresult⟩, hfiles⟩
      | ⟨hcan, body, hbody, hresult, dir, name, hlocate, hfree, hfiles⟩
    · have habsent : (ifMissing call.exchange call.url path files).files.stands path = false := by
        rw [hfiles]
        exact h
      refine .fails hcause hresult habsent (ih ?_)
      rw [hfiles, Files.withParent_again]
      exact h
    · have hstands := Files.stands_put hlocate hfree (.bytes body)
      have hasks := Files.locate_entry hlocate
      have hfind : ((files.withParent path).put (name :: dir) (.file (.bytes body))).find?
          (name :: dir) = some (.file (.bytes body)) := by
        rw [Files.find?_put _ (List.cons_ne_nil name dir), if_pos rfl]
      have hput := Files.locate_put_file hlocate hfree (.bytes body)
      refine .downloads hcan hbody hresult ?_ ?_
      · rw [hfiles]
        exact Files.readAt_of_openRead (Files.openRead_of_file hput hfind) hfind
      · rw [hfiles]
        intro later hlater
        have hparent := Files.withParent_of_stands hstands
        have halone := outcomes_of_stands calls (hparent.symm ▸ hstands) later hlater
        rw [hparent] at halone
        refine ⟨?_, halone.requests, halone.files⟩
        rw [halone.result, ← hasks]
        rfl

/-- **A listing is downloaded at most once and is never partial.**  If something stands at the path,
every call leaves the tree alone.  So it is when it stands there as soon as the directories above the
path are made, which the first call does.  Otherwise the calls fail, and leave nothing at the path,
until the file can be made and a whole body arrives; from then on the file holds this body. -/
theorem downloaded_at_most_once (files : Files) (path : Text) (calls : List Call) :
    (files.stands path = true → ∀ o ∈ outcomes path calls files, LeavesAlone path files o)
    ∧ (files.stands path = false → (files.withParent path).stands path = true →
      ∀ o ∈ outcomes path calls files, LeavesAlone path (files.withParent path) o)
    ∧ ((files.withParent path).stands path = false →
      Once path files calls (outcomes path calls files)) := by
  refine ⟨?_, fun _ => outcomes_of_stands calls, outcomes_of_absent calls⟩
  intro h
  have hparent := Files.withParent_of_stands h
  have halone := outcomes_of_stands calls (hparent.symm ▸ h)
  rw [hparent] at halone
  exact halone

end

/-! ## A shelf with a copy -/

/-- A copy of a listing, and an empty directory. -/
def shelf : Files :=
  ⟨[(["listing.csv".toList], .file (.bytes [0x61])), (["data".toList], .directory)]⟩

/-- Where the copy stands once there is a directory `cache`. -/
def roundabout : Text := "cache/../listing.csv".toList

/-- A server that delivers a listing in two chunks. -/
def delivery : Call :=
  ⟨"http://host/listing.csv".toList, [⟨"GET".toList, "/listing.csv".toList, []⟩],
    some ⟨200, [[0x62], [0x63, 0x0A]], true⟩⟩

/-- A body that breaks off. -/
def torn : Call := { delivery with reply := some ⟨200, [[0x62]], false⟩ }

/-- No connection. -/
def refusal : Call := { delivery with requests := [], reply := none }

theorem downloaded_at_most_once_to_shelf :
    (shelf.stands "listing.csv".toList = true
      ∧ ∀ o ∈ outcomes "listing.csv".toList [refusal, delivery] shelf,
        LeavesAlone "listing.csv".toList shelf o)
    ∧ (shelf.stands roundabout = false ∧ (shelf.withParent roundabout).stands roundabout = true
      ∧ ∀ o ∈ outcomes roundabout [delivery, torn] shelf,
        LeavesAlone roundabout (shelf.withParent roundabout) o)
    ∧ ((shelf.withParent "new/copy.csv".toList).stands "new/copy.csv".toList = false
      ∧ Once "new/copy.csv".toList shelf [refusal, torn, delivery, torn]
        (outcomes "new/copy.csv".toList [refusal, torn, delivery, torn] shelf)) := by
  have hcopy : shelf.stands "listing.csv".toList = true := by decide +kernel
  have hmissing : shelf.stands roundabout = false := by decide +kernel
  have hmade : (shelf.withParent roundabout).stands roundabout = true := by decide +kernel
  have hnew : (shelf.withParent "new/copy.csv".toList).stands "new/copy.csv".toList = false := by
    decide +kernel
  exact ⟨⟨hcopy, (downloaded_at_most_once shelf "listing.csv".toList [refusal, delivery]).1 hcopy⟩,
    ⟨hmissing, hmade,
      (downloaded_at_most_once shelf roundabout [delivery, torn]).2.1 hmissing hmade⟩,
    ⟨hnew, (downloaded_at_most_once shelf "new/copy.csv".toList
      [refusal, torn, delivery, torn]).2.2 hnew⟩⟩

/-- Where nothing stands before the directories above the path are made, a call may still neither fail
nor download; and where a directory stands, a call fails if a slash is behind its name. -/
theorem neither_fails_nor_downloads :
    shelf.stands roundabout = false
    ∧ (outcomes roundabout [delivery] shelf).map Outcome.result = [.ok false]
    ∧ ¬ Once roundabout shelf [delivery] (outcomes roundabout [delivery] shelf)
    ∧ shelf.stands "data/".toList = true
    ∧ (outcomes "data/".toList [delivery] shelf).map Outcome.result
      = [.error (.of (.acquire (.io "data/".toList .isADirectory)))] := by
  have hresult : (ifMissing delivery.exchange delivery.url roundabout shelf).result = .ok false := by
    decide +kernel
  refine ⟨by decide +kernel, by decide +kernel, ?_, by decide +kernel, by decide +kernel⟩
  intro honce
  rw [outcomes] at honce
  generalize ifMissing delivery.exchange delivery.url roundabout shelf = o at honce hresult
  cases honce with
  | fails _ hfailed => exact nomatch hfailed.symm.trans hresult
  | downloads _ _ hdownloaded => exact nomatch hdownloaded.symm.trans hresult

end Download

end BookDatasets
