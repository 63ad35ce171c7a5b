/-
  What is beside a file.

  1. **Places** — a place beside a file has the file's directory, and its name with an ending.  Files that
     are apart have nothing beside them in common (`not_mem_sidecars`).
  2. **Paths** — an ending behind the path of a file leads to the place beside it, or the name has become
     too long (`locate_ending_or`).  There is nothing else that it can come to, since the directory is
     the same.
-/
import BookDatasets.Files.Engine
import BookDatasets.Proofs.Files.Meeting

namespace BookDatasets

namespace Files

variable {files other : Files} {purpose : Purpose} {links left : Nat} {slash : Bool}
  {place goal there dir : Location} {front rest : List Text} {name path ending : Text}

/-! ## Places -/

theorem beside_ne_nil {ending : Text} (hplace : place ≠ []) : beside ending place ≠ [] := by
  cases place with
  | nil => exact absurd rfl hplace
  | cons name dir => exact List.cons_ne_nil _ _

theorem beside_ne {ending : Text} (hplace : place ≠ []) (hending : ending ≠ []) :
    beside ending place ≠ place := by
  cases place with
  | nil => exact absurd rfl hplace
  | cons name dir =>
    intro heq
    exact hending (List.append_right_eq_self.1 (List.head_eq_of_cons_eq heq))

theorem mem_sidecars_iff : there ∈ sidecars place ↔ there = beside logEnding place
    ∨ there = beside indexEnding place ∨ there = beside journalEnding place := by
  rw [sidecars, List.mem_cons, List.mem_cons, List.mem_singleton]

theorem mem_sidecars (h : there ∈ [beside logEnding place, beside journalEnding place]) :
    there ∈ sidecars place := by
  simp only [List.mem_cons, List.not_mem_nil, or_false] at h
  exact mem_sidecars_iff.2 (h.imp_right Or.inr)

/-- No database stands beside itself. -/
theorem ne_of_mem_sidecars (hplace : place ≠ []) (h : there ∈ sidecars place) : there ≠ place := by
  rcases mem_sidecars_iff.1 h with rfl | rfl | rfl
  · exact beside_ne hplace (by decide)
  · exact beside_ne hplace (by decide)
  · exact beside_ne hplace (by decide)

/-- The file at one place is not the file at the other, and neither is beside the other. -/
structure Apart (place there : Location) : Prop where
  ne : place ≠ there
  left : place ∉ sidecars there
  right : there ∉ sidecars place

instance (place there : Location) : Decidable (Apart place there) :=
  decidable_of_iff (place ≠ there ∧ place ∉ sidecars there ∧ there ∉ sidecars place)
    ⟨fun h => ⟨h.1, h.2.1, h.2.2⟩, fun h => ⟨h.ne, h.left, h.right⟩⟩

/-- What a name ends in says which ending it has. -/
theorem beside_inj {ending ending' : Text} (hplace : place ≠ []) (hgoal : goal ≠ [])
    (hlength : 3 ≤ ending.length) (hlength' : 3 ≤ ending'.length)
    (hends : ending.reverse.take 3 = ending'.reverse.take 3 → ending = ending')
    (h : beside ending place = beside ending' goal) : place = goal := by
  cases place with
  | nil => exact absurd rfl hplace
  | cons name dir =>
    cases goal with
    | nil => exact absurd rfl hgoal
    | cons name' dir' =>
      obtain ⟨hnames, rfl⟩ := List.cons.inj h
      have hlast := congrArg (fun text => text.reverse.take 3) hnames
      rw [List.reverse_append, List.reverse_append, List.take_append_of_le_length (by simpa),
        List.take_append_of_le_length (by simpa)] at hlast
      obtain rfl := hends hlast
      rw [List.append_cancel_right hnames]

/-- **Different files** have nothing beside them in common. -/
theorem not_mem_sidecars (hplace : place ≠ []) (hgoal : goal ≠ []) (hne : place ≠ goal)
    (h : there ∈ sidecars place) : there ∉ sidecars goal := by
  intro h'
  have hends : ∀ ending ∈ [logEnding, indexEnding, journalEnding],
      ∀ ending' ∈ [logEnding, indexEnding, journalEnding],
        3 ≤ ending.length ∧ (ending.reverse.take 3 = ending'.reverse.take 3 → ending = ending') := by
    decide
  obtain ⟨ending, hending, rfl⟩ := List.mem_map.1
    (show there ∈ [logEnding, indexEnding, journalEnding].map (beside · place) from h)
  obtain ⟨ending', hending', hsame⟩ := List.mem_map.1
    (show _ ∈ [logEnding, indexEnding, journalEnding].map (beside · goal) from h')
  obtain ⟨hlength, hsuffix⟩ := hends ending hending ending' hending'
  exact hne (beside_inj hplace hgoal hlength (hends ending' hending' ending hending).1 hsuffix
    hsame.symm)

/-! ## Paths -/

/-- Where segments lead, a walk gets there and goes on. -/
theorem Leads.walk_append (h : Leads files links place front goal left) (hrest : rest ≠ []) :
    walk files purpose links slash place (front ++ rest) = walk files purpose left slash goal rest := by
  have hmore : ∀ front : List Text, front ++ rest ≠ [] :=
    fun front => List.append_ne_nil_of_right_ne_nil front hrest
  induction h with
  | arrived => rfl
  | here _ ih => rw [List.cons_append, walk_here, ih]
  | above _ ih => rw [List.cons_append, walk_above, ih]
  | directory hname hfind _ ih => rw [List.cons_append, walk_directory hname (hmore _) hfind, ih]
  | link hname hfind _ ih =>
    rw [List.cons_append, walk_link hname (hmore _) hfind, ← List.append_assoc, ih]

/-- Neither a path nor a name in it is too long. -/
structure IsShort (path : Text) : Prop where
  whole : Path.isTooLong path = false
  names : ∀ name ∈ Path.segments path, Path.fits name = true

instance (path : Text) : Decidable (IsShort path) :=
  decidable_of_iff (Path.isTooLong path = false ∧ ∀ name ∈ Path.segments path, Path.fits name = true)
    ⟨fun h => ⟨h.1, h.2⟩, fun h => ⟨h.whole, h.names⟩⟩

section

variable (hlocate : files.locate .entry path = .ok (.entry dir name false))
  (hslash : Path.slash ∉ ending)

include hlocate hslash

theorem segments_of_locate :
    ∃ front left, Path.segments (path ++ ending) = front ++ [name ++ ending]
      ∧ Leads files maxLinks [] front dir left := by
  obtain ⟨hpath, hcomes⟩ := locate_eq_ok_iff.1 hlocate
  obtain ⟨-, hends⟩ := hcomes.isName
  obtain ⟨front, left, hsegments, -, hleads⟩ := leads_of_locate hlocate
  obtain ⟨front', last, hcut, hlong⟩ := Path.segments_ending hpath.ne_nil hends.symm
  obtain ⟨rfl, hlast⟩ := List.append_inj' (hsegments.symm.trans hcut) rfl
  obtain rfl : name = last := List.head_eq_of_cons_eq hlast
  exact ⟨front, left, hlong ending hslash, hleads⟩

variable (hlength : 2 < ending.length) (hnul : '\x00' ∉ ending)

include hlength hnul

/-- **An ending behind the path** of a file is behind its name, in the same directory, or makes it too
long. -/
theorem locate_ending_or :
    (Path.isTooLong (path ++ ending) = false ∧ Path.fits (name ++ ending) = true
      ∧ files.locate .entry (path ++ ending) = .ok (.entry dir (name ++ ending) false))
    ∨ ¬ (Path.isTooLong (path ++ ending) = false ∧ Path.fits (name ++ ending) = true)
      ∧ files.locate .entry (path ++ ending) = .error .nameTooLong := by
  obtain ⟨hpath, -⟩ := locate_eq_ok_iff.1 hlocate
  obtain ⟨front, left, hsegments, hleads⟩ := segments_of_locate hlocate hslash
  have hnodot : ∀ dot : Text, dot.length ≤ 2 → name ++ ending ≠ dot := by
    rintro _ hdot rfl
    rw [List.length_append] at hdot
    omega
  have hhere : name ++ ending ≠ Path.here := hnodot _ (by decide)
  have habove : name ++ ending ≠ Path.above := hnodot _ (by decide)
  have hfree : '\x00' ∉ path ++ ending := by
    rw [List.mem_append, not_or]
    exact ⟨hpath.nul, hnul⟩
  have hne : path ++ ending ≠ [] := List.append_ne_nil_of_left_ne_nil hpath.ne_nil ending
  rcases hwhole : Path.isTooLong (path ++ ending) with _ | _
  · by_cases hfits : Path.fits (name ++ ending) = true
    · refine Or.inl ⟨rfl, hfits, ?_⟩
      have hnil : ending ≠ [] := by
        rintro rfl
        exact absurd hlength (by decide)
      rw [← Path.endsInSlash_append path hnil hslash]
      exact locate_of_leads ⟨hfree, hne, hwhole⟩ hsegments ⟨hhere, habove, hfits⟩ hleads
    · refine Or.inr ⟨fun h => hfits h.2, ?_⟩
      rw [locate, if_neg hfree, if_neg hne, if_neg (by rw [hwhole]; exact Bool.false_ne_true), hsegments,
        hleads.walk_append (List.cons_ne_nil _ []), walk_long hhere habove hfits]
      exact if_neg fun h => absurd h.2.1 (by decide)
  · refine Or.inr ⟨fun h => Bool.false_ne_true h.1.symm, ?_⟩
    rw [locate, if_neg hfree, if_neg hne, if_pos hwhole]

theorem locate_ending (hshort : IsShort (path ++ ending)) :
    files.locate .entry (path ++ ending) = .ok (.entry dir (name ++ ending) false)
      ∧ Path.fits (name ++ ending) = true := by
  obtain ⟨front, -, hsegments, -⟩ := segments_of_locate hlocate hslash
  have hfits : Path.fits (name ++ ending) = true := by
    apply hshort.names
    rw [hsegments]
    exact List.mem_append_right front (List.mem_singleton_self _)
  rcases locate_ending_or hlocate hslash hlength hnul with ⟨-, -, hok⟩ | ⟨hlong, -⟩
  · exact ⟨hok, hfits⟩
  · exact absurd ⟨hshort.whole, hfits⟩ hlong

end

end Files

end BookDatasets
