/-
  Texts cut at a character, and joined by it again.

  Cutting and joining undo each other in the library (`List.intercalate_splitOn`,
  `List.splitOn_intercalate`).  What is added here is LOCAL: what one part more does to a join, and
  what a text that does not hold the character does when it stands in front, to a cut and to a
  search for the character.
-/
import BookDatasets.Text.Basic
import Mathlib.Data.List.Basic
import Mathlib.Data.List.TakeWhile

namespace BookDatasets

namespace Text

variable {separator : Char}

/-! ## Joins -/

theorem joined_cons (first : Text) {parts : List Text} (h : parts ≠ []) :
    joined [separator] (first :: parts) = first ++ separator :: joined [separator] parts := by
  rw [joined, List.intercalate_cons_of_ne_nil h, List.append_assoc]
  rfl

theorem joined_singleton (part : Text) : joined [separator] [part] = part :=
  List.intercalate_singleton

theorem joined_append {front back : List Text} (hfront : front ≠ []) (hback : back ≠ []) :
    joined [separator] (front ++ back)
      = joined [separator] front ++ separator :: joined [separator] back := by
  induction front with
  | nil => exact absurd rfl hfront
  | cons first front ih =>
    by_cases hempty : front = []
    · subst hempty
      rw [List.singleton_append, joined_cons first hback, joined_singleton]
    · rw [List.cons_append, joined_cons first (List.append_ne_nil_of_left_ne_nil hempty _),
        ih hempty, joined_cons first hempty, List.append_assoc]
      rfl

/-! ## Cuts -/

/-- A text without the separator goes to the first part of what it stands in front of. -/
theorem splitOn_append_left {front : Text} (h : separator ∉ front) (back : Text) :
    (front ++ back).splitOn separator = (back.splitOn separator).modifyHead (front ++ ·) := by
  obtain ⟨part, parts, hparts⟩ := List.exists_cons_of_ne_nil (List.splitOn_ne_nil separator back)
  induction front with
  | nil =>
    rw [List.nil_append, hparts]
    rfl
  | cons c front ih =>
    obtain ⟨hc, hfront⟩ := not_or.1 (mt List.mem_cons.2 h)
    have hne : ¬ (c == separator) = true := by
      rw [beq_iff_eq]
      exact Ne.symm hc
    rw [List.cons_append, List.splitOn_cons_eq_if_modifyHead, if_neg hne, ih hfront, hparts]
    rfl

/-- No part of a cut text holds the separator. -/
theorem not_mem_of_mem_splitOn {text part : Text} (h : part ∈ text.splitOn separator) :
    separator ∉ part := by
  induction text generalizing part with
  | nil =>
    rw [List.splitOn_nil, List.mem_singleton] at h
    subst h
    exact List.not_mem_nil
  | cons c rest ih =>
    rw [List.splitOn_cons_eq_if_modifyHead] at h
    split_ifs at h with hc
    · rcases List.mem_cons.1 h with rfl | h
      · exact List.not_mem_nil
      · exact ih h
    · rcases hcut : rest.splitOn separator with _ | ⟨first, others⟩
      · exact absurd hcut (List.splitOn_ne_nil separator rest)
      · rw [hcut] at ih
        rw [hcut, List.modifyHead_cons] at h
        rcases List.mem_cons.1 h with rfl | h
        · rw [List.mem_cons, not_or]
          exact ⟨fun heq => hc (beq_iff_eq.2 heq.symm), ih List.mem_cons_self⟩
        · exact ih (List.mem_cons_of_mem first h)

/-- Dropping other characters than the separator may be done before or after a cut. -/
theorem splitOn_filter {p : Char → Bool} (h : p separator = true) (text : Text) :
    (text.filter p).splitOn separator = (text.splitOn separator).map (List.filter p) := by
  induction text with
  | nil => rfl
  | cons c text ih =>
    obtain ⟨part, parts, hparts⟩ := List.exists_cons_of_ne_nil (List.splitOn_ne_nil separator text)
    rw [List.splitOn_cons_eq_if_modifyHead]
    by_cases hc : c = separator
    · subst hc
      rw [List.filter_cons_of_pos h, List.splitOn_cons_eq_if_modifyHead, if_pos (beq_self_eq_true c),
        if_pos (beq_self_eq_true c), ih, List.map_cons, List.filter_nil]
    · have hne : ¬ (c == separator) = true := mt beq_iff_eq.1 hc
      rw [if_neg hne, hparts, List.modifyHead_cons, List.map_cons]
      rw [hparts, List.map_cons] at ih
      by_cases hkeep : p c = true
      · rw [List.filter_cons_of_pos hkeep, List.filter_cons_of_pos hkeep,
          List.splitOn_cons_eq_if_modifyHead, if_neg hne, ih, List.modifyHead_cons]
      · rw [List.filter_cons_of_neg hkeep, List.filter_cons_of_neg hkeep, ih]

/-! ## Searches -/

/-- The search for a character goes over a text that does not hold it. -/
theorem passes_of_not_mem {text : Text} (h : separator ∉ text) :
    ∀ c ∈ text, decide (c ≠ separator) = true := by
  intro c hc
  apply decide_eq_true
  rintro rfl
  exact h hc

theorem takeWhile_front {front : Text} (h : separator ∉ front) (back : Text) :
    (front ++ separator :: back).takeWhile (· ≠ separator) = front := by
  rw [List.takeWhile_append_of_pos (passes_of_not_mem h)]
  simp

theorem dropWhile_front {front : Text} (h : separator ∉ front) (back : Text) :
    (front ++ separator :: back).dropWhile (· ≠ separator) = separator :: back := by
  rw [List.dropWhile_append_of_pos (passes_of_not_mem h)]
  simp

end Text

end BookDatasets
