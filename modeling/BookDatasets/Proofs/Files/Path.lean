/-
  Paths cut in two.

  1. **A cut** — a path has the segments of what stands before a slash, and then those of what stands
     behind it (`segments_append`).
  2. **The parent** — a parent that is not empty is cut off at a slash with at least one segment
     behind it (`parent_cut`).  What `Path.parent` leaves out besides, empty segments and dots at the
     end, stays with the part behind: so the path goes on where its parent leads.
  3. **An ending** — text behind a path that does not end in a slash belongs to its last segment
     (`segments_ending`).
-/
import BookDatasets.Files.Path
import BookDatasets.Proofs.Text.Joined
import Mathlib.Data.List.Basic
import Mathlib.Data.List.DropRight

namespace BookDatasets

namespace Path

variable {path name ending : Text}

/-! ## A cut -/

theorem segments_append (front back : Text) :
    segments (front ++ slash :: back) = segments front ++ segments back := by
  rw [segments, List.splitOn_append_cons_self, List.filter_append]
  rfl

theorem segments_of_not_mem (hname : slash ∉ name) (hne : name ≠ []) : segments name = [name] := by
  rw [segments, List.splitOn_eq_singleton hname, List.filter_cons_of_pos, List.filter_nil]
  rw [Bool.not_eq_true', List.isEmpty_eq_false_iff]
  exact hne

/-! ## The parent -/

theorem withoutIdleEnd_prefix (parts : List Text) : withoutIdleEnd parts <+: parts :=
  List.rdropWhile_prefix isIdle parts

/-- Without the idle end there is a part that counts at the end. -/
theorem withoutIdleEnd_eq {parts : List Text} (h : withoutIdleEnd parts ≠ []) :
    ∃ last, withoutIdleEnd parts = (withoutIdleEnd parts).dropLast ++ [last] ∧ last ≠ [] := by
  refine ⟨(withoutIdleEnd parts).getLast h, (List.dropLast_concat_getLast h).symm, ?_⟩
  intro hlast
  apply List.rdropWhile_last_not isIdle parts h
  show isIdle ((withoutIdleEnd parts).getLast h) = true
  rw [hlast]
  rfl

/-- **The parent** is what stands before a slash with a segment behind it, or the root for nothing. -/
theorem parent_cut (h : parent path ≠ []) :
    ∃ front back, path = front ++ slash :: back ∧ segments back ≠ []
      ∧ (parent path = front ∨ front = [] ∧ parent path = [slash]) := by
  rcases hcut : path.splitOn slash with _ | ⟨first, others⟩
  · exact absurd hcut (List.splitOn_ne_nil slash path)
  rw [parent, hcut] at h ⊢
  dsimp only at h ⊢
  by_cases hothers : withoutIdleEnd others = []
  · rw [hothers] at h
    exact absurd rfl h
  obtain ⟨last, hlast, hne⟩ := withoutIdleEnd_eq hothers
  obtain ⟨idle, hidle⟩ := withoutIdleEnd_prefix others
  obtain ⟨between, hbetween⟩ := withoutIdleEnd_prefix (withoutIdleEnd others).dropLast
  have hparts : others
      = withoutIdleEnd (withoutIdleEnd others).dropLast ++ (between ++ last :: idle) := by
    rw [← List.append_assoc, hbetween, ← List.singleton_append, ← List.append_assoc, ← hlast, hidle]
  have hpath : path = Text.joined [slash] (first :: withoutIdleEnd (withoutIdleEnd others).dropLast)
      ++ slash :: Text.joined [slash] (between ++ last :: idle) := by
    rw [← Text.joined_append (List.cons_ne_nil _ _) (by simp), List.cons_append, ← hparts, ← hcut]
    exact (List.intercalate_splitOn slash).symm
  have hback : (Text.joined [slash] (between ++ last :: idle)).splitOn slash
      = between ++ last :: idle := by
    apply List.splitOn_intercalate
    · intro part hpart
      have hmem : part ∈ path.splitOn slash := by
        rw [hcut, hparts]
        exact List.mem_cons_of_mem _ (List.mem_append_right _ hpart)
      exact Text.not_mem_of_mem_splitOn hmem
    · simp
  refine ⟨_, _, hpath, ?_, ?_⟩
  · apply List.ne_nil_of_mem (a := last)
    rw [segments, hback, List.mem_filter]
    refine ⟨List.mem_append_right _ List.mem_cons_self, ?_⟩
    rw [Bool.not_eq_true', List.isEmpty_eq_false_iff]
    exact hne
  · rcases hkept : (withoutIdleEnd others).dropLast with _ | ⟨second, kept⟩
    · dsimp only
      rw [if_neg hothers]
      have hfront : Text.joined [slash] (first :: withoutIdleEnd []) = first :=
        Text.joined_singleton first
      rw [hfront]
      split_ifs with hfirst
      · exact Or.inr ⟨List.isEmpty_iff.1 hfirst, rfl⟩
      · exact Or.inl rfl
    · exact Or.inl rfl

/-- A path goes on where its parent ends. -/
theorem segments_parent (h : parent path ≠ []) :
    ∃ rest, rest ≠ [] ∧ segments path = segments (parent path) ++ rest := by
  obtain ⟨front, back, hpath, hback, hparent⟩ := parent_cut h
  refine ⟨segments back, hback, ?_⟩
  rcases hparent with hparent | ⟨rfl, hparent⟩
  · rw [hparent, ← segments_append, ← hpath]
  · rw [hparent, hpath, segments_append]
    rfl

/-- A path begins with its parent. -/
theorem parent_prefix (path : Text) : parent path <+: path := by
  by_cases hparent : parent path = []
  · rw [hparent]
    exact List.nil_prefix
  obtain ⟨front, back, hpath, -, heq | ⟨rfl, heq⟩⟩ := parent_cut hparent
  · rw [heq, hpath]
    exact List.prefix_append _ _
  · rw [heq, hpath]
    exact ⟨back, rfl⟩

/-! ## Lengths -/

/-- What a path begins with is no longer. -/
theorem isTooLong_of_prefix {front : Text} (hfront : front <+: path) (h : isTooLong path = false) :
    isTooLong front = false := by
  obtain ⟨back, rfl⟩ := hfront
  have hsize : Utf8.size (front ++ back) = Utf8.size front + Utf8.size back := by
    rw [Utf8.size, Utf8.encode, List.flatMap_append, List.length_append]
    rfl
  rw [isTooLong, decide_eq_false_iff_not] at h ⊢
  omega

/-! ## An ending -/

/-- **An ending** belongs to the last segment. -/
theorem segments_ending (hpath : path ≠ []) (hslash : endsInSlash path = false) :
    ∃ front last, segments path = front ++ [last]
      ∧ ∀ ending, slash ∉ ending → segments (path ++ ending) = front ++ [last ++ ending] := by
  obtain ⟨parts, last, hcut⟩ : ∃ parts last, path.splitOn slash = parts ++ [last] :=
    ⟨_, _, (List.dropLast_concat_getLast (List.splitOn_ne_nil slash path)).symm⟩
  have hlast : slash ∉ last := by
    have hmem : last ∈ path.splitOn slash := by
      rw [hcut]
      exact List.mem_append_right _ (List.mem_singleton_self last)
    exact Text.not_mem_of_mem_splitOn hmem
  have hjoined : path = Text.joined [slash] (parts ++ [last]) := by
    rw [← hcut]
    exact (List.intercalate_splitOn slash).symm
  have hlong : ∀ ending, last ≠ [] → slash ∉ ending → segments (last ++ ending) = [last ++ ending] := by
    intro ending hne hending
    apply segments_of_not_mem
    · rw [List.mem_append, not_or]
      exact ⟨hlast, hending⟩
    · exact List.append_ne_nil_of_left_ne_nil hne ending
  by_cases hparts : parts = []
  · subst hparts
    have heq : path = last := by
      rw [hjoined]
      exact Text.joined_singleton last
    rw [heq] at hpath ⊢
    exact ⟨[], last, segments_of_not_mem hlast hpath, fun ending => hlong ending hpath⟩
  · have heq : path = Text.joined [slash] parts ++ slash :: last := by
      rw [hjoined, Text.joined_append hparts (List.cons_ne_nil _ _), Text.joined_singleton]
    have hne : last ≠ [] := by
      rintro rfl
      rw [heq, endsInSlash, List.getLast?_concat] at hslash
      exact absurd hslash (by decide)
    refine ⟨segments (Text.joined [slash] parts), last, ?_, ?_⟩
    · rw [heq, segments_append, segments_of_not_mem hlast hne]
    · intro ending hending
      rw [heq, List.append_assoc, List.cons_append, segments_append, hlong ending hne hending]

theorem endsInSlash_append (path : Text) (hne : ending ≠ []) (hending : slash ∉ ending) :
    endsInSlash (path ++ ending) = false := by
  rw [endsInSlash, List.getLast?_append_of_ne_nil _ hne, List.getLast?_eq_some_getLast hne]
  rw [beq_eq_false_iff_ne]
  intro heq
  apply hending
  rw [← Option.some.inj heq]
  exact List.getLast_mem hne

end Path

end BookDatasets
