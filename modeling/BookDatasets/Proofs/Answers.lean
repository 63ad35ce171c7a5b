/-
  Lists of answers.

  A conversion takes its rows one by one, and each of them is a value or an error.  It goes on up to
  the FIRST error.  So two things are all that counts of such a list: the values `before` its first
  error, and the `outcome`, which is that error, or what was agreed on when there is none.
-/
import BookDatasets.Text.Basic

namespace BookDatasets

namespace Answers

variable {ε α β : Type}

/-- The values before the first error. -/
def before : List (Except ε α) → List α
  | [] => []
  | .error _ :: _ => []
  | .ok value :: answers => value :: before answers

/-- The first error, or `final` when there is none. -/
def outcome (final : β) : List (Except ε α) → Except ε β
  | [] => .ok final
  | .error e :: _ => .error e
  | .ok _ :: answers => outcome final answers

theorem before_map_ok (values : List α) :
    before (values.map (Except.ok : α → Except ε α)) = values := by
  induction values with
  | nil => rfl
  | cons value values ih => rw [List.map_cons, before, ih]

theorem outcome_map_ok (final : β) (values : List α) :
    outcome final (values.map (Except.ok : α → Except ε α)) = .ok final := by
  induction values with
  | nil => rfl
  | cons value values ih => rw [List.map_cons, outcome, ih]

/-- Values in front come before what follows. -/
theorem before_append (values : List α) (answers : List (Except ε α)) :
    before (values.map .ok ++ answers) = values ++ before answers := by
  induction values with
  | nil => rfl
  | cons value values ih =>
    rw [List.map_cons, List.cons_append, before, ih, List.cons_append]

/-- Values in front do not change the outcome. -/
theorem outcome_append (final : β) (values : List α) (answers : List (Except ε α)) :
    outcome final (values.map .ok ++ answers) = outcome final answers := by
  induction values with
  | nil => rfl
  | cons value values ih =>
    rw [List.map_cons, List.cons_append, outcome, ih]

/-- A list of answers is all values, or values with an error behind them. -/
theorem values_or_error (answers : List (Except ε α)) :
    (∃ values : List α, answers = values.map .ok)
      ∨ ∃ (values : List α) (e : ε) (later : List (Except ε α)),
        answers = values.map .ok ++ .error e :: later := by
  induction answers with
  | nil => exact Or.inl ⟨[], rfl⟩
  | cons answer answers ih =>
    cases answer with
    | error e => exact Or.inr ⟨[], e, answers, rfl⟩
    | ok value =>
      rcases ih with ⟨values, rfl⟩ | ⟨values, e, later, rfl⟩
      · exact Or.inl ⟨value :: values, rfl⟩
      · exact Or.inr ⟨value :: values, e, later, rfl⟩

/-- A list of answers that comes to a success is all values. -/
theorem outcome_eq_ok {final value : β} {answers : List (Except ε α)}
    (h : outcome final answers = .ok value) :
    value = final ∧ (before answers).length = answers.length := by
  rcases values_or_error answers with ⟨values, rfl⟩ | ⟨values, e, later, rfl⟩
  · rw [outcome_map_ok] at h
    rw [before_map_ok, List.length_map]
    exact ⟨(Except.ok.inj h).symm, rfl⟩
  · rw [outcome_append] at h
    cases h

/-- What stands before the first error stands in the list. -/
theorem mem_of_mem_before {answers : List (Except ε α)} {value : α} (h : value ∈ before answers) :
    Except.ok value ∈ answers := by
  induction answers with
  | nil => exact absurd h List.not_mem_nil
  | cons answer answers ih =>
    cases answer with
    | error e => exact absurd h List.not_mem_nil
    | ok first =>
      rw [before] at h
      rcases List.mem_cons.1 h with rfl | hrest
      · exact List.mem_cons_self
      · exact List.mem_cons_of_mem _ (ih hrest)

end Answers

end BookDatasets
