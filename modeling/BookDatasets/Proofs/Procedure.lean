/-
  Procedures, one step at a time.

  1. **Outcomes** — a procedure is taken apart at its first step: after a success the rest goes on from
     the tree that the step left, with what it reported and asked for in front; after a failure the
     whole has failed, and with the same tree.
  2. **Ends** — where only the tree and the result count, `ends` leaves out what was reported and asked
     for, and the same steps are equations.  So a success can be taken apart into the successes of its
     steps (`ends_bind_eq_ok`), and put together again.
-/
import BookDatasets.Procedure

namespace BookDatasets

namespace Procedure

variable {α β ε : Type} {p : Procedure α} {files other : Files} {events : List Log.Event}
  {requests : List Web.Request} {value : α} {failure : Failure}

theorem bind_ok (h : p files = ⟨other, events, requests, .ok value⟩) (next : α → Procedure β) :
    (p >>= next) files = (next value other).after events requests := by
  show andThen p next files = _
  rw [andThen, h]

theorem bind_error (h : p files = ⟨other, events, requests, .error failure⟩)
    (next : α → Procedure β) : (p >>= next) files = ⟨other, events, requests, .error failure⟩ := by
  show andThen p next files = _
  rw [andThen, h]

theorem report_bind (event : Log.Event) (next : Unit → Procedure β) (files : Files) :
    (report event >>= next) files = (next () files).after [event] [] := rfl

/-- What an attempt comes to is a value for the rest, whether it is a success or not. -/
theorem attempt_bind {result : Except Failure α} (h : p files = ⟨other, events, requests, result⟩)
    (next : Except Failure α → Procedure β) :
    (p.attempt >>= next) files = (next result other).after events requests := by
  show andThen p.attempt next files = _
  rw [andThen, attempt, h]

theorem within_ok (h : p files = ⟨other, events, requests, .ok value⟩) (context : Context) :
    p.within context files = ⟨other, events, requests, .ok value⟩ := by
  rw [within, h]

theorem within_error (h : p files = ⟨other, events, requests, .error failure⟩) (context : Context) :
    p.within context files = ⟨other, events, requests, .error (failure.within context)⟩ := by
  rw [within, h]

section

variable {operation : Files → Files × Except ε α}

theorem operate_ok (h : operation files = (other, .ok value)) (cause : ε → Cause)
    (complaint : ε → List Log.Event) :
    operate operation cause complaint files = ⟨other, [], [], .ok value⟩ := by
  rw [operate, h]

theorem operate_error {error : ε} (h : operation files = (other, .error error))
    (cause : ε → Cause) (complaint : ε → List Log.Event) :
    operate operation cause complaint files
      = ⟨other, complaint error, [], .error (.of (cause error))⟩ := by
  rw [operate, h]

end

/-! ## Ends -/

/-- Where a procedure ends: the tree that it leaves, and its result. -/
def ends (p : Procedure α) (files : Files) : Files × Except Failure α :=
  ((p files).files, (p files).result)

theorem ends_of_result {result : Except Failure α} (h : (p files).result = result) :
    p.ends files = ((p files).files, result) :=
  Prod.ext rfl h

theorem ends_bind_ok (h : p.ends files = (other, .ok value)) (next : α → Procedure β) :
    (p >>= next).ends files = (next value).ends other := by
  rcases hp : p files with ⟨left, events, requests, result⟩
  rw [ends, hp] at h
  obtain ⟨rfl, rfl⟩ := Prod.mk.inj h
  rw [ends, bind_ok hp]
  rfl

theorem ends_bind_error (h : p.ends files = (other, .error failure)) (next : α → Procedure β) :
    (p >>= next).ends files = (other, .error failure) := by
  rcases hp : p files with ⟨left, events, requests, result⟩
  rw [ends, hp] at h
  obtain ⟨rfl, rfl⟩ := Prod.mk.inj h
  rw [ends, bind_error hp]

/-- **A success of two steps** is a success of each. -/
theorem ends_bind_eq_ok {next : α → Procedure β} {result : β} :
    (p >>= next).ends files = (other, .ok result)
      ↔ ∃ middle value, p.ends files = (middle, .ok value)
        ∧ (next value).ends middle = (other, .ok result) := by
  rcases hp : p.ends files with ⟨middle, failure | value⟩
  · rw [ends_bind_error hp]
    constructor
    · intro h
      exact nomatch (Prod.mk.inj h).2
    · rintro ⟨_, _, h, -⟩
      exact nomatch (Prod.mk.inj h).2
  · rw [ends_bind_ok hp]
    constructor
    · intro h
      exact ⟨middle, value, rfl, h⟩
    · rintro ⟨middle', value', h, hnext⟩
      obtain ⟨rfl, hvalue⟩ := Prod.mk.inj h
      obtain rfl := Except.ok.inj hvalue
      exact hnext

/-- **A failure of two steps** is a failure of one of them. -/
theorem ends_bind_eq_error {next : α → Procedure β} :
    (p >>= next).ends files = (other, .error failure)
      ↔ p.ends files = (other, .error failure)
        ∨ ∃ middle value, p.ends files = (middle, .ok value)
          ∧ (next value).ends middle = (other, .error failure) := by
  rcases hp : p.ends files with ⟨middle, first | value⟩
  · rw [ends_bind_error hp]
    constructor
    · intro h
      obtain ⟨rfl, hfailure⟩ := Prod.mk.inj h
      obtain rfl := Except.error.inj hfailure
      exact Or.inl rfl
    · rintro (h | ⟨_, _, h, -⟩)
      · obtain ⟨rfl, hfailure⟩ := Prod.mk.inj h
        obtain rfl := Except.error.inj hfailure
        rfl
      · exact nomatch (Prod.mk.inj h).2
  · rw [ends_bind_ok hp]
    constructor
    · intro h
      exact Or.inr ⟨middle, value, rfl, h⟩
    · rintro (h | ⟨middle', value', h, hnext⟩)
      · exact nomatch (Prod.mk.inj h).2
      · obtain ⟨rfl, hvalue⟩ := Prod.mk.inj h
        obtain rfl := Except.ok.inj hvalue
        exact hnext

theorem ends_within_ok (h : p.ends files = (other, .ok value)) (context : Context) :
    (p.within context).ends files = (other, .ok value) := by
  rcases hp : p files with ⟨left, events, requests, result⟩
  rw [ends, hp] at h
  obtain ⟨rfl, rfl⟩ := Prod.mk.inj h
  rw [ends, within_ok hp]

theorem ends_within_error (h : p.ends files = (other, .error failure)) (context : Context) :
    (p.within context).ends files = (other, .error (failure.within context)) := by
  rcases hp : p files with ⟨left, events, requests, result⟩
  rw [ends, hp] at h
  obtain ⟨rfl, rfl⟩ := Prod.mk.inj h
  rw [ends, within_error hp]

theorem ends_within_eq_ok {context : Context} :
    (p.within context).ends files = (other, .ok value) ↔ p.ends files = (other, .ok value) := by
  constructor
  · intro h
    rcases hp : p.ends files with ⟨middle, failure | value'⟩
    · rw [ends_within_error hp] at h
      exact nomatch (Prod.mk.inj h).2
    · rw [ends_within_ok hp] at h
      exact h
  · intro h
    exact ends_within_ok h context

/-- A context changes no tree. -/
theorem fst_ends_within (p : Procedure α) (context : Context) (files : Files) :
    ((p.within context).ends files).1 = (p.ends files).1 := by
  rcases hp : p.ends files with ⟨middle, failure | value⟩
  · rw [ends_within_error hp]
  · rw [ends_within_ok hp]

/-- What changes no tree leaves the tree of the step before it. -/
theorem fst_ends_bind {next : α → Procedure β}
    (h : ∀ value files, ((next value).ends files).1 = files) (p : Procedure α) (files : Files) :
    ((p >>= next).ends files).1 = (p.ends files).1 := by
  rcases hp : p.ends files with ⟨middle, failure | value⟩
  · rw [ends_bind_error hp]
  · rw [ends_bind_ok hp, h]

/-- A failure in a context says so. -/
theorem contexts_of_within {context : Context}
    (h : (p.within context).ends files = (other, .error failure)) :
    failure.contexts.head? = some context := by
  rcases hp : p.ends files with ⟨middle, first | value⟩
  · rw [ends_within_error hp] at h
    obtain rfl := Except.error.inj (Prod.mk.inj h).2
    rfl
  · rw [ends_within_ok hp] at h
    exact nomatch (Prod.mk.inj h).2

theorem ends_attempt {result : Except Failure α} (h : p.ends files = (other, result)) :
    p.attempt.ends files = (other, .ok result) := by
  obtain ⟨rfl, rfl⟩ := Prod.mk.inj h
  rfl

theorem ends_pure (value : α) (files : Files) :
    (pure value : Procedure α).ends files = (files, .ok value) := rfl

theorem ends_report (event : Log.Event) (files : Files) :
    (report event).ends files = (files, .ok ()) := rfl

theorem ends_operate_ok {operation : Files → Files × Except ε α}
    (h : operation files = (other, .ok value)) (cause : ε → Cause)
    (complaint : ε → List Log.Event) :
    (operate operation cause complaint).ends files = (other, .ok value) := by
  rw [ends, operate_ok h]

theorem ends_operate_error {operation : Files → Files × Except ε α} {error : ε}
    (h : operation files = (other, .error error)) (cause : ε → Cause)
    (complaint : ε → List Log.Event) :
    (operate operation cause complaint).ends files = (other, .error (.of (cause error))) := by
  rw [ends, operate_error h]

theorem ends_operate_eq_ok {operation : Files → Files × Except ε α} {cause : ε → Cause}
    {complaint : ε → List Log.Event} :
    (operate operation cause complaint).ends files = (other, .ok value)
      ↔ operation files = (other, .ok value) := by
  constructor
  · intro h
    rcases hoperation : operation files with ⟨left, error | value'⟩
    · rw [ends_operate_error hoperation] at h
      exact nomatch (Prod.mk.inj h).2
    · rw [ends_operate_ok hoperation] at h
      obtain ⟨rfl, hvalue⟩ := Prod.mk.inj h
      rw [Except.ok.inj hvalue]
  · intro h
    exact ends_operate_ok h cause complaint

/-! ## Events -/

/-- What the second of two steps reports is reported. -/
theorem mem_events_bind {event : Log.Event} (h : p.ends files = (other, .ok value))
    {next : α → Procedure β} (hmem : event ∈ (next value other).events) :
    event ∈ ((p >>= next) files).events := by
  rcases hp : p files with ⟨left, events, requests, result⟩
  rw [ends, hp] at h
  obtain ⟨rfl, rfl⟩ := Prod.mk.inj h
  rw [bind_ok hp]
  exact List.mem_append_right events hmem

/-- What is reported before a failure of the second of two steps is reported. -/
theorem mem_events_first {event : Log.Event} (next : α → Procedure β)
    (hmem : event ∈ (p files).events) : event ∈ ((p >>= next) files).events := by
  rcases hp : p files with ⟨left, events, requests, failure | value⟩
  · rw [bind_error hp]
    rw [hp] at hmem
    exact hmem
  · rw [bind_ok hp]
    rw [hp] at hmem
    exact List.mem_append_left _ hmem

end Procedure

end BookDatasets
