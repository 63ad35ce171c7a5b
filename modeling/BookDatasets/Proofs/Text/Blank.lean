/-
  Trimming and rewriting.

  A REWRITING gives each character a text of its own.  It may be done before or after trimming,
  with one outcome, as long as it does not move the border between what is blank and what is not:
  a blank becomes blanks or nothing, and what another character becomes neither begins nor ends
  with a blank.  The two ends are the same fact, read forwards and backwards.
-/
import BookDatasets.Text.Blank
import Mathlib.Data.List.Basic
import Mathlib.Data.List.DropRight

namespace BookDatasets

/-! ## What trimming takes -/

theorem trimEnd_eq (t : Text) : trimEnd t = (trimStart t.reverse).reverse := rfl

theorem trim_sublist (t : Text) : (trim t).Sublist t := by
  have hstart : (trimStart t).Sublist t := List.dropWhile_sublist _
  have hend : (trimStart (trimStart t).reverse).Sublist (trimStart t).reverse :=
    List.dropWhile_sublist _
  have hboth : (trim t).Sublist (trimStart t).reverse.reverse := hend.reverse
  rw [List.reverse_reverse] at hboth
  exact hboth.trans hstart

/-- A text that trimming does not shorten is not changed by it. -/
theorem trim_of_length_eq {t : Text} (h : (trim t).length = t.length) : trim t = t :=
  (trim_sublist t).eq_of_length h

/-- A trimmed text begins with no blank. -/
theorem trimStart_trim (t : Text) : trimStart (trim t) = trim t := by
  have hfront : trim t <+: trimStart t := by
    have hsuffix : (trimStart t).reverse.dropWhile isBlank <:+ (trimStart t).reverse :=
      List.dropWhile_suffix isBlank
    have hreverse := List.reverse_prefix.2 hsuffix
    rw [List.reverse_reverse] at hreverse
    exact hreverse
  rcases htrim : trim t with _ | ⟨c, rest⟩
  · rfl
  · obtain ⟨tail, htail⟩ := hfront
    rw [htrim, List.cons_append] at htail
    have hhead := List.head?_dropWhile_not isBlank t
    rw [show t.dropWhile isBlank = c :: (rest ++ tail) from htail.symm] at hhead
    have hplain : isBlank c = false := hhead
    exact List.dropWhile_cons_of_neg (by rw [hplain]; exact Bool.false_ne_true)

/-- Trimming again trims nothing. -/
theorem trim_trim (t : Text) : trim (trim t) = trim t := by
  have hend : ∀ s : Text, trimEnd (trimEnd s) = trimEnd s := by
    intro s
    rw [trimEnd, trimEnd, List.reverse_reverse, List.dropWhile_idempotent]
  calc trim (trim t)
      = trimEnd (trimStart (trim t)) := rfl
    _ = trimEnd (trim t) := by rw [trimStart_trim]
    _ = trim t := hend (trimStart t)

/-- A text is trimmed already when it neither begins nor ends with a blank. -/
theorem trim_eq_self_iff {t : Text} :
    trim t = t ↔ (∀ c ∈ t.head?, isBlank c = false) ∧ ∀ c ∈ t.getLast?, isBlank c = false := by
  have hstart : ∀ s : Text, trimStart s = s ↔ ∀ c ∈ s.head?, isBlank c = false := by
    intro s
    cases s with
    | nil => simp [trimStart]
    | cons c s => simp [trimStart, List.dropWhile_eq_self_iff]
  have hend : trimEnd t = t ↔ ∀ c ∈ t.getLast?, isBlank c = false := by
    rw [trimEnd_eq, List.reverse_eq_iff, hstart, List.head?_reverse]
  rw [← hstart, ← hend]
  constructor
  · intro htrim
    have hbegins : trimStart t = t := by
      rw [← htrim]
      exact trimStart_trim t
    refine ⟨hbegins, ?_⟩
    rw [trim, hbegins] at htrim
    exact htrim
  · rintro ⟨hbegins, hends⟩
    rw [trim, hbegins, hends]

/-- Trimming takes no character but blanks. -/
theorem mem_trim {t : Text} {c : Char} (h : isBlank c = false) : c ∈ trim t ↔ c ∈ t := by
  have hstart : ∀ s : Text, c ∈ trimStart s ↔ c ∈ s := by
    intro s
    have htaken : c ∉ s.takeWhile isBlank := by
      intro hmem
      have hblank := List.mem_takeWhile_imp hmem
      rw [h] at hblank
      exact Bool.false_ne_true hblank
    have hcut := List.takeWhile_append_dropWhile (p := isBlank) (l := s)
    rw [trimStart]
    nth_rewrite 2 [← hcut]
    rw [List.mem_append, or_iff_right htaken]
  rw [trim, trimEnd_eq, List.mem_reverse, hstart, List.mem_reverse, hstart]

/-- A blank in front is trimmed with those behind it. -/
theorem trim_cons_blank {c : Char} (h : isBlank c = true) (t : Text) : trim (c :: t) = trim t := by
  rw [trim, trimStart, List.dropWhile_cons_of_pos h]
  rfl

theorem trimEnd_concat_blank {c : Char} (h : isBlank c = true) (t : Text) :
    trimEnd (t ++ [c]) = trimEnd t := by
  rw [trimEnd, List.reverse_concat, List.dropWhile_cons_of_pos h]
  rfl

theorem trim_concat_blank {c : Char} (h : isBlank c = true) (t : Text) :
    trim (t ++ [c]) = trim t := by
  rw [trim, trimStart, List.dropWhile_append]
  split_ifs with hempty
  · -- The whole text is blank, and so it is with one blank more.
    rw [List.isEmpty_iff] at hempty
    rw [List.dropWhile_cons_of_pos h, trim, trimStart, hempty]
    rfl
  · exact trimEnd_concat_blank h _

/-! ## Rewriting -/

/-- A rewriting that respects blanks at the first character of what it writes. -/
theorem trimStart_flatMap {f : Char → Text} (hblank : ∀ c, isBlank c = true → (f c).all isBlank)
    (hfirst : ∀ c, isBlank c = false → ∃ d ∈ (f c).head?, isBlank d = false) (t : Text) :
    trimStart (t.flatMap f) = (trimStart t).flatMap f := by
  induction t with
  | nil => rfl
  | cons c t ih =>
    rw [List.flatMap_cons]
    cases hc : isBlank c with
    | true =>
      -- All that the blank becomes is dropped with it.
      have hall : ∀ d ∈ f c, isBlank d = true := List.all_eq_true.1 (hblank c hc)
      show ((f c ++ t.flatMap f).dropWhile isBlank) = ((c :: t).dropWhile isBlank).flatMap f
      rw [List.dropWhile_append_of_pos hall, List.dropWhile_cons_of_pos hc]
      exact ih
    | false =>
      -- Dropping stops at this character, and at the first one of what it becomes.
      obtain ⟨d, hd, hplain⟩ := hfirst c hc
      obtain ⟨rest, hrest⟩ := List.head?_eq_some_iff.1 hd
      have hkeep : ¬ isBlank d = true := by simp [hplain]
      have hstay : ¬ isBlank c = true := by simp [hc]
      show ((f c ++ t.flatMap f).dropWhile isBlank) = ((c :: t).dropWhile isBlank).flatMap f
      rw [List.dropWhile_cons_of_neg hstay, List.flatMap_cons, hrest, List.cons_append,
        List.dropWhile_cons_of_neg hkeep]

/-- **Trimming commutes with a rewriting that respects blanks.** -/
theorem trim_flatMap {f : Char → Text} (hblank : ∀ c, isBlank c = true → (f c).all isBlank)
    (hfirst : ∀ c, isBlank c = false → ∃ d ∈ (f c).head?, isBlank d = false)
    (hlast : ∀ c, isBlank c = false → ∃ d ∈ (f c).getLast?, isBlank d = false) (t : Text) :
    trim (t.flatMap f) = (trim t).flatMap f := by
  -- Read backwards, the rewriting respects blanks as well: its last characters come first.
  have hblank' : ∀ c, isBlank c = true → ((List.reverse ∘ f) c).all isBlank := by
    intro c hc
    rw [Function.comp_apply, List.all_reverse]
    exact hblank c hc
  have hfirst' : ∀ c, isBlank c = false →
      ∃ d ∈ ((List.reverse ∘ f) c).head?, isBlank d = false := by
    intro c hc
    rw [Function.comp_apply, List.head?_reverse]
    exact hlast c hc
  calc trim (t.flatMap f)
      = trimEnd ((trimStart t).flatMap f) := by rw [trim, trimStart_flatMap hblank hfirst]
    _ = (trimStart ((trimStart t).reverse.flatMap (List.reverse ∘ f))).reverse := by
        rw [trimEnd_eq, List.reverse_flatMap]
    _ = ((trimStart (trimStart t).reverse).flatMap (List.reverse ∘ f)).reverse := by
        rw [trimStart_flatMap hblank' hfirst']
    _ = (trim t).flatMap f := by
        rw [← List.reverse_reverse (trimStart (trimStart t).reverse), ← trimEnd_eq,
          ← List.reverse_flatMap, List.reverse_reverse]
        rfl

end BookDatasets
