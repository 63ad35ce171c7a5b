/-
  What may be added to a value without a trace.

  1. **The kernel of normalizing** — two values have one normalized form exactly when the same is
     left of them by stripping (`normalize_eq_iff`).  Escaping loses nothing of what it is given.
  2. **Padding** — a line feed anywhere, or a blank at an end, is stripped again
     (`Padded.strip_eq`).
-/
import BookDatasets.Proofs.Field

namespace BookDatasets

namespace Field

/-! ## The kernel of normalizing -/

/-- **Normalizing forgets what stripping takes, and nothing else.** -/
theorem normalize_eq_iff {a b : Text} : normalize a = normalize b ↔ strip a = strip b := by
  constructor
  · intro h
    rw [← unescape_normalize, ← unescape_normalize, h]
  · intro h
    rw [normalize_eq, normalize_eq, h]

/-! ## Padding -/

/-- A value and the same value with one character more: a line feed anywhere, or a blank at an
end. -/
inductive Padded : Text → Text → Prop where
  | feed (front back : Text) : Padded (front ++ back) (front ++ '\n' :: back)
  | front {c : Char} (h : isBlank c = true) (value : Text) : Padded value (c :: value)
  | back {c : Char} (h : isBlank c = true) (value : Text) : Padded value (value ++ [c])

theorem withoutFeeds_append (front back : Text) :
    withoutFeeds (front ++ back) = withoutFeeds front ++ withoutFeeds back :=
  List.filter_append front back

theorem withoutFeeds_cons_feed (value : Text) : withoutFeeds ('\n' :: value) = withoutFeeds value :=
  rfl

theorem withoutFeeds_cons {c : Char} (h : c ≠ '\n') (value : Text) :
    withoutFeeds (c :: value) = c :: withoutFeeds value :=
  List.filter_cons_of_pos (decide_eq_true h)

theorem strip_withoutFeeds (value : Text) : strip (withoutFeeds value) = strip value := by
  rw [strip, withoutFeeds, withoutFeeds, List.filter_filter]
  simp only [Bool.and_self]
  rfl

/-- **Padding leaves no trace**: it is stripped again. -/
theorem Padded.strip_eq {value longer : Text} (h : Padded value longer) :
    strip longer = strip value := by
  cases h with
  | feed front back =>
    rw [strip, withoutFeeds_append, withoutFeeds_cons_feed, ← withoutFeeds_append]
    rfl
  | @front c hblank =>
    by_cases hfeed : c = '\n'
    · subst hfeed
      rfl
    · rw [strip, withoutFeeds_cons hfeed, trim_cons_blank hblank]
      rfl
  | @back c hblank =>
    by_cases hfeed : c = '\n'
    · subst hfeed
      rw [strip, withoutFeeds_append, withoutFeeds_cons_feed, ← withoutFeeds_append,
        List.append_nil]
      rfl
    · have hkept : withoutFeeds (value ++ [c]) = withoutFeeds value ++ [c] := by
        rw [withoutFeeds_append, withoutFeeds_cons hfeed]
        rfl
      rw [strip, hkept, trim_concat_blank hblank]
      rfl

end Field

end BookDatasets
