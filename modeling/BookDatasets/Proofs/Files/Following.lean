/-
  Following a path in pieces.

  1. **Coming** — `Comes` is the walk as a relation: one constructor for each thing that a segment can
     be, in front of others and at the end.  `walk_eq_ok_iff` says that it is the walk; from there on
     an induction over a walk is an induction over its segments and links as they come.
  2. **Leading** — segments LEAD from a directory to a directory (`Leads`) when each of them is a dot
     segment, the name of a directory, or the name of a link whose target leads on.
  3. **Pieces** — a walk through `segments ++ rest` is a way that the segments lead, and a walk
     through the rest from there (`Comes.split`, `Leads.comes`).  The crux is the link: its target
     comes in front of the segments, so both are said of every beginning of the way.
  4. **Solid ground** — a way from the root meets only places with directories all the way up
     (`Grounded`), so `..` leads to a directory even in a tree with holes.
-/
import BookDatasets.Files.Operations
import Mathlib.Data.List.Basic

namespace BookDatasets

namespace Files

variable {files : Files} {purpose : Purpose} {links left : Nat} {slash : Bool}
  {place goal dir : Location} {segments rest : List Text} {segment target name : Text} {spot : Spot}

/-! ## One segment -/

/-- A segment that is a name, not a dot segment, and not too long for one. -/
structure IsName (segment : Text) : Prop where
  not_here : segment ≠ Path.here
  not_above : segment ≠ Path.above
  fits : Path.fits segment = true

/-- A name is looked up, not refused. -/
theorem IsName.not_long (h : IsName segment) : ¬ ¬ Path.fits segment = true := not_not.2 h.fits

theorem walk_congr {place' : Location} {segments' : List Text}
    (h : steps files place segments = steps files place' segments') :
    walk files purpose links slash place segments
      = walk files purpose links slash place' segments' := by
  unfold walk
  rw [h]

theorem walk_here :
    walk files purpose links slash place (Path.here :: rest)
      = walk files purpose links slash place rest := by
  apply walk_congr
  rw [steps, if_pos rfl]

theorem walk_above :
    walk files purpose links slash place (Path.above :: rest)
      = walk files purpose links slash place.tail rest := by
  apply walk_congr
  rw [steps, if_neg (by decide), if_pos rfl]

/-- In front of other segments a directory is entered. -/
theorem walk_directory (hname : IsName segment) (hrest : rest ≠ [])
    (hfind : files.find? (segment :: place) = some .directory) :
    walk files purpose links slash place (segment :: rest)
      = walk files purpose links slash (segment :: place) rest := by
  apply walk_congr
  rw [steps, if_neg hname.not_here, if_neg hname.not_above, if_neg hrest, if_neg hname.not_long, hfind]

/-- In front of other segments a link is followed. -/
theorem walk_link (hname : IsName segment) (hrest : rest ≠ [])
    (hfind : files.find? (segment :: place) = some (.link target)) :
    walk files purpose (links + 1) slash place (segment :: rest)
      = walk files purpose links slash (base place target) (Path.segments target ++ rest) := by
  have hsteps : steps files place (segment :: rest) = .link place target rest := by
    rw [steps, if_neg hname.not_here, if_neg hname.not_above, if_neg hrest, if_neg hname.not_long, hfind]
  rw [walk, hsteps]

/-- Nothing else is passed in front of other segments. -/
theorem passable_of_walk (hname : IsName segment) (hrest : rest ≠ [])
    (h : walk files purpose links slash place (segment :: rest) = .ok spot) :
    files.find? (segment :: place) = some .directory
      ∨ ∃ target fewer, files.find? (segment :: place) = some (.link target)
        ∧ links = fewer + 1 := by
  have hsteps := steps.eq_2 files place segment rest
  rw [if_neg hname.not_here, if_neg hname.not_above, if_neg hrest, if_neg hname.not_long] at hsteps
  rcases hfind : files.find? (segment :: place) with _ | content | _ | target
  · rw [walk, hsteps, hfind] at h
    cases h
  · rw [walk, hsteps, hfind] at h
    cases h
  · exact Or.inl rfl
  · cases links with
    | zero =>
      rw [walk, hsteps, hfind] at h
      cases h
    | succ fewer => exact Or.inr ⟨target, fewer, rfl, rfl⟩

/-- A segment that is too long is refused, wherever it stands. -/
theorem fits_of_walk (hhere : segment ≠ Path.here) (habove : segment ≠ Path.above)
    (h : walk files purpose links slash place (segment :: rest) = .ok spot) :
    Path.fits segment = true := by
  by_contra hlong
  have hsteps := steps.eq_2 files place segment rest
  rw [if_neg hhere, if_neg habove, if_pos hlong] at hsteps
  rw [walk, hsteps] at h
  by_cases hrest : rest = []
  · rw [if_pos hrest] at h
    dsimp only at h
    rw [if_pos hlong] at h
    split_ifs at h
  · rw [if_neg hrest] at h
    cases h

theorem steps_last (hname : IsName segment) :
    steps files place [segment] = .last place segment := by
  rw [steps, if_neg hname.not_here, if_neg hname.not_above, if_pos rfl]

/-- A last name is found as it is, unless it is a link that is to be followed. -/
theorem walk_last (hname : IsName segment) (hslash : ¬ (purpose = .writing ∧ slash = true))
    (hfind : purpose = .entry ∨ ∀ target, files.find? (segment :: place) ≠ some (.link target)) :
    walk files purpose links slash place [segment] = .ok (.entry place segment slash) := by
  rw [walk, steps_last hname]
  dsimp only
  rw [if_neg hslash, if_neg hname.not_long]
  rcases hnode : files.find? (segment :: place) with _ | content | _ | target
  · rfl
  · rfl
  · rfl
  · rcases hfind with hentry | hno
    · exact if_pos hentry
    · exact absurd hnode (hno target)

/-- A last link is followed by whoever does not ask for the entry itself. -/
theorem walk_last_link (hname : IsName segment) (hslash : ¬ (purpose = .writing ∧ slash = true))
    (hpurpose : purpose ≠ .entry) (hfind : files.find? (segment :: place) = some (.link target)) :
    walk files purpose (links + 1) slash place [segment]
      = walk files purpose links (slash || Path.endsInSlash target) (base place target)
          (Path.segments target) := by
  rw [walk, steps_last hname]
  dsimp only
  rw [if_neg hslash, if_neg hname.not_long, hfind]
  exact if_neg hpurpose

/-- Nothing else is done with a last name. -/
theorem last_of_walk (hname : IsName segment)
    (h : walk files purpose links slash place [segment] = .ok spot) :
    ¬ (purpose = .writing ∧ slash = true)
      ∧ ((purpose = .entry ∨ ∀ target, files.find? (segment :: place) ≠ some (.link target))
        ∨ purpose ≠ .entry ∧ ∃ target fewer,
          files.find? (segment :: place) = some (.link target) ∧ links = fewer + 1) := by
  have hsteps : steps files place [segment] = .last place segment := steps_last hname
  by_cases hslash : purpose = .writing ∧ slash = true
  · rw [walk, hsteps] at h
    dsimp only at h
    rw [if_pos hslash] at h
    cases h
  refine ⟨hslash, ?_⟩
  by_cases hpurpose : purpose = .entry
  · exact Or.inl (Or.inl hpurpose)
  by_cases hlink : ∃ target, files.find? (segment :: place) = some (.link target)
  · obtain ⟨target, hfind⟩ := hlink
    cases links with
    | zero =>
      rw [walk, hsteps] at h
      dsimp only at h
      rw [if_neg hslash, if_neg hname.not_long, hfind] at h
      dsimp only at h
      rw [if_neg hpurpose] at h
      cases h
    | succ fewer => exact Or.inr ⟨hpurpose, target, fewer, hfind, rfl⟩
  · exact Or.inl (Or.inr fun target hfind => hlink ⟨target, hfind⟩)

/-! ## Coming -/

/-- A walk from a directory comes to a spot. -/
inductive Comes (files : Files) (purpose : Purpose) :
    (links : Nat) → (slash : Bool) → Location → List Text → Spot → Prop where
  | arrived {links : Nat} {slash : Bool} {place : Location} :
      Comes files purpose links slash place [] (.directory place)
  | here {links : Nat} {slash : Bool} {place : Location} {rest : List Text} {spot : Spot}
      (h : Comes files purpose links slash place rest spot) :
      Comes files purpose links slash place (Path.here :: rest) spot
  | above {links : Nat} {slash : Bool} {place : Location} {rest : List Text} {spot : Spot}
      (h : Comes files purpose links slash place.tail rest spot) :
      Comes files purpose links slash place (Path.above :: rest) spot
  | directory {links : Nat} {slash : Bool} {place : Location} {segment : Text} {rest : List Text}
      {spot : Spot} (hname : IsName segment) (hrest : rest ≠ [])
      (hfind : files.find? (segment :: place) = some .directory)
      (h : Comes files purpose links slash (segment :: place) rest spot) :
      Comes files purpose links slash place (segment :: rest) spot
  | link {links : Nat} {slash : Bool} {place : Location} {segment target : Text}
      {rest : List Text} {spot : Spot} (hname : IsName segment) (hrest : rest ≠ [])
      (hfind : files.find? (segment :: place) = some (.link target))
      (h : Comes files purpose links slash (base place target) (Path.segments target ++ rest) spot) :
      Comes files purpose (links + 1) slash place (segment :: rest) spot
  | last {links : Nat} {slash : Bool} {place : Location} {segment : Text} (hname : IsName segment)
      (hslash : ¬ (purpose = .writing ∧ slash = true))
      (hfind : purpose = .entry ∨ ∀ target, files.find? (segment :: place) ≠ some (.link target)) :
      Comes files purpose links slash place [segment] (.entry place segment slash)
  | lastLink {links : Nat} {slash : Bool} {place : Location} {segment target : Text} {spot : Spot}
      (hname : IsName segment) (hslash : ¬ (purpose = .writing ∧ slash = true))
      (hpurpose : purpose ≠ .entry) (hfind : files.find? (segment :: place) = some (.link target))
      (h : Comes files purpose links (slash || Path.endsInSlash target) (base place target)
        (Path.segments target) spot) :
      Comes files purpose (links + 1) slash place [segment] spot

theorem Comes.walk (h : Comes files purpose links slash place segments spot) :
    walk files purpose links slash place segments = .ok spot := by
  induction h with
  | arrived => rw [Files.walk, steps]
  | here _ ih => rw [walk_here, ih]
  | above _ ih => rw [walk_above, ih]
  | directory hname hrest hfind _ ih => rw [walk_directory hname hrest hfind, ih]
  | link hname hrest hfind _ ih => rw [walk_link hname hrest hfind, ih]
  | last hname hslash hfind => exact walk_last hname hslash hfind
  | lastLink hname hslash hpurpose hfind _ ih =>
    rw [walk_last_link hname hslash hpurpose hfind, ih]

/-- **A walk** is the relation. -/
theorem walk_eq_ok_iff :
    walk files purpose links slash place segments = .ok spot
      ↔ Comes files purpose links slash place segments spot := by
  refine ⟨fun h => ?_, Comes.walk⟩
  -- On the number of links, because the target of one comes in front of the segments.
  induction links using Nat.strongRecOn generalizing slash place segments with
  | ind links ihlinks =>
    induction segments generalizing place with
    | nil =>
      rw [walk, steps] at h
      obtain rfl := Except.ok.inj h
      exact .arrived
    | cons segment rest ih =>
      by_cases hhere : segment = Path.here
      · subst hhere
        rw [walk_here] at h
        exact .here (ih h)
      by_cases habove : segment = Path.above
      · subst habove
        rw [walk_above] at h
        exact .above (ih h)
      have hname : IsName segment := ⟨hhere, habove, fits_of_walk hhere habove h⟩
      by_cases hrest : rest = []
      · subst hrest
        obtain ⟨hslash, hfind | ⟨hpurpose, target, fewer, hfind, rfl⟩⟩ := last_of_walk hname h
        · rw [walk_last hname hslash hfind] at h
          obtain rfl := Except.ok.inj h
          exact .last hname hslash hfind
        · rw [walk_last_link hname hslash hpurpose hfind] at h
          exact .lastLink hname hslash hpurpose hfind (ihlinks fewer (Nat.lt_succ_self fewer) h)
      · rcases passable_of_walk hname hrest h with hfind | ⟨target, fewer, hfind, rfl⟩
        · rw [walk_directory hname hrest hfind] at h
          exact .directory hname hrest hfind (ih h)
        · rw [walk_link hname hrest hfind] at h
          exact .link hname hrest hfind (ihlinks fewer (Nat.lt_succ_self fewer) h)

/-- A walk to an entry comes to a name, with the slash behind it that it began with. -/
theorem Comes.isName {slash' : Bool}
    (h : Comes files .entry links slash place segments (.entry dir name slash')) :
    IsName name ∧ slash' = slash := by
  generalize hspot : Spot.entry dir name slash' = spot at h
  induction h with
  | arrived => cases hspot
  | here _ ih => exact ih hspot
  | above _ ih => exact ih hspot
  | directory _ _ _ _ ih => exact ih hspot
  | link _ _ _ _ ih => exact ih hspot
  | last hname =>
    cases hspot
    exact ⟨hname, rfl⟩
  | lastLink _ _ hpurpose => exact absurd rfl hpurpose

/-! ## Leading -/

/-- The segments lead from a directory to a directory, with `links` links that may be followed and
`left` of them left at the end. -/
inductive Leads (files : Files) : Nat → Location → List Text → Location → Nat → Prop where
  | arrived {links : Nat} {place : Location} : Leads files links place [] place links
  | here {links left : Nat} {place goal : Location} {rest : List Text}
      (h : Leads files links place rest goal left) :
      Leads files links place (Path.here :: rest) goal left
  | above {links left : Nat} {place goal : Location} {rest : List Text}
      (h : Leads files links place.tail rest goal left) :
      Leads files links place (Path.above :: rest) goal left
  | directory {links left : Nat} {place goal : Location} {segment : Text} {rest : List Text}
      (hname : IsName segment) (hfind : files.find? (segment :: place) = some .directory)
      (h : Leads files links (segment :: place) rest goal left) :
      Leads files links place (segment :: rest) goal left
  | link {links left : Nat} {place goal : Location} {segment target : Text} {rest : List Text}
      (hname : IsName segment) (hfind : files.find? (segment :: place) = some (.link target))
      (h : Leads files links (base place target) (Path.segments target ++ rest) goal left) :
      Leads files (links + 1) place (segment :: rest) goal left

/-! ## Walks in pieces -/

/-- **A walk goes on** from where the segments lead. -/
theorem Leads.comes (h : Leads files links place segments goal left) (hrest : rest ≠ [])
    (hcomes : Comes files purpose left slash goal rest spot) :
    Comes files purpose links slash place (segments ++ rest) spot := by
  induction h with
  | arrived => exact hcomes
  | here _ ih => exact .here (ih hcomes)
  | above _ ih => exact .above (ih hcomes)
  | directory hname hfind _ ih =>
    exact .directory hname (List.append_ne_nil_of_right_ne_nil _ hrest) hfind (ih hcomes)
  | link hname hfind _ ih =>
    have htarget := ih hcomes
    rw [List.append_assoc] at htarget
    exact .link hname (List.append_ne_nil_of_right_ne_nil _ hrest) hfind htarget

/-- **A walk that goes on** was led by the segments. -/
theorem Comes.split (h : Comes files purpose links slash place (segments ++ rest) spot)
    (hrest : rest ≠ []) :
    ∃ goal left, Leads files links place segments goal left
      ∧ Comes files purpose left slash goal rest spot := by
  generalize hall : segments ++ rest = all at h
  induction h generalizing segments with
  | arrived => exact absurd (List.append_eq_nil_iff.1 hall).2 hrest
  | here h ih =>
    rcases segments with _ | ⟨first, segments⟩
    · obtain rfl : rest = _ := hall
      exact ⟨_, _, .arrived, .here h⟩
    · obtain ⟨rfl, htail⟩ := List.cons.inj hall
      obtain ⟨goal, left, hleads, hcomes⟩ := ih htail
      exact ⟨goal, left, .here hleads, hcomes⟩
  | above h ih =>
    rcases segments with _ | ⟨first, segments⟩
    · obtain rfl : rest = _ := hall
      exact ⟨_, _, .arrived, .above h⟩
    · obtain ⟨rfl, htail⟩ := List.cons.inj hall
      obtain ⟨goal, left, hleads, hcomes⟩ := ih htail
      exact ⟨goal, left, .above hleads, hcomes⟩
  | directory hname hmore hfind h ih =>
    rcases segments with _ | ⟨first, segments⟩
    · obtain rfl : rest = _ := hall
      exact ⟨_, _, .arrived, .directory hname hmore hfind h⟩
    · obtain ⟨rfl, htail⟩ := List.cons.inj hall
      obtain ⟨goal, left, hleads, hcomes⟩ := ih htail
      exact ⟨goal, left, .directory hname hfind hleads, hcomes⟩
  | @link _ _ _ _ target _ _ hname hmore hfind h ih =>
    rcases segments with _ | ⟨first, segments⟩
    · obtain rfl : rest = _ := hall
      exact ⟨_, _, .arrived, .link hname hmore hfind h⟩
    · obtain ⟨rfl, htail⟩ := List.cons.inj hall
      -- The target belongs to the segments in front.
      have hwhole : (Path.segments target ++ segments) ++ rest = _ :=
        (List.append_assoc _ _ _).trans (congrArg _ htail)
      obtain ⟨goal, left, hleads, hcomes⟩ := ih hwhole
      exact ⟨goal, left, .link hname hfind hleads, hcomes⟩
  | last hname hslash hfind =>
    rcases segments with _ | ⟨first, segments⟩
    · obtain rfl : rest = _ := hall
      exact ⟨_, _, .arrived, .last hname hslash hfind⟩
    · exact absurd (List.append_eq_nil_iff.1 (List.cons.inj hall).2).2 hrest
  | lastLink hname hslash hpurpose hfind h ih =>
    rcases segments with _ | ⟨first, segments⟩
    · obtain rfl : rest = _ := hall
      exact ⟨_, _, .arrived, .lastLink hname hslash hpurpose hfind h⟩
    · exact absurd (List.append_eq_nil_iff.1 (List.cons.inj hall).2).2 hrest

/-! ## Solid ground -/

/-- There are directories at a place and at all places above it. -/
def Grounded (files : Files) : Location → Prop
  | [] => True
  | name :: dir => files.find? (name :: dir) = some .directory ∧ Grounded files dir

theorem Grounded.find? (h : Grounded files place) : files.find? place = some .directory := by
  cases place with
  | nil => rfl
  | cons name dir => exact h.1

theorem Grounded.tail (h : Grounded files place) : Grounded files place.tail := by
  cases place with
  | nil => exact h
  | cons name dir => exact h.2

theorem Grounded.base (h : Grounded files place) (target : Text) :
    Grounded files (base place target) := by
  rw [Files.base]
  split_ifs
  · trivial
  · exact h

/-- A way from solid ground leads to solid ground. -/
theorem Leads.grounded (h : Leads files links place segments goal left)
    (hplace : Grounded files place) : Grounded files goal := by
  induction h with
  | arrived => exact hplace
  | here _ ih => exact ih hplace
  | above _ ih => exact ih hplace.tail
  | directory _ hfind _ ih => exact ih ⟨hfind, hplace⟩
  | link _ _ _ ih => exact ih (hplace.base _)

/-- **Whoever asks for what there is** comes to the directory that the segments lead to. -/
theorem Leads.comes_existing (h : Leads files links place segments goal left) (slash : Bool) :
    ∃ spot, Comes files .existing links slash place segments spot ∧ spot.place = goal := by
  induction h generalizing slash with
  | arrived => exact ⟨_, .arrived, rfl⟩
  | here _ ih =>
    obtain ⟨spot, hcomes, hspot⟩ := ih slash
    exact ⟨spot, .here hcomes, hspot⟩
  | above _ ih =>
    obtain ⟨spot, hcomes, hspot⟩ := ih slash
    exact ⟨spot, .above hcomes, hspot⟩
  | @directory _ _ place _ segment rest hname hfind h ih =>
    by_cases hrest : rest = []
    · subst hrest
      cases h
      have hnolink : ∀ target, files.find? (segment :: place) ≠ some (.link target) := by
        intro target
        rw [hfind]
        exact nofun
      exact ⟨_, .last hname (fun h => nomatch h.1) (Or.inr hnolink), rfl⟩
    · obtain ⟨spot, hcomes, hspot⟩ := ih slash
      exact ⟨spot, .directory hname hrest hfind hcomes, hspot⟩
  | @link _ _ place _ segment target rest hname hfind h ih =>
    by_cases hrest : rest = []
    · subst hrest
      rw [List.append_nil] at ih
      obtain ⟨spot, hcomes, hspot⟩ := ih (slash || Path.endsInSlash target)
      exact ⟨spot, .lastLink hname (fun h => nomatch h.1) (by decide) hfind hcomes, hspot⟩
    · obtain ⟨spot, hcomes, hspot⟩ := ih slash
      exact ⟨spot, .link hname hrest hfind hcomes, hspot⟩

/-- **Whoever asks for the entry itself** comes to a directory too, or to a name where something
stands. -/
theorem Leads.comes_entry (h : Leads files links place segments goal left)
    (hplace : Grounded files place) (slash : Bool) :
    ∃ spot, Comes files .entry links slash place segments spot
      ∧ (files.find? spot.place).isSome := by
  induction h with
  | arrived =>
    refine ⟨_, .arrived, ?_⟩
    rw [Spot.place, hplace.find?]
    rfl
  | here _ ih =>
    obtain ⟨spot, hcomes, hspot⟩ := ih hplace
    exact ⟨spot, .here hcomes, hspot⟩
  | above _ ih =>
    obtain ⟨spot, hcomes, hspot⟩ := ih hplace.tail
    exact ⟨spot, .above hcomes, hspot⟩
  | @directory _ _ place _ segment rest hname hfind h ih =>
    by_cases hrest : rest = []
    · subst hrest
      refine ⟨_, .last hname (fun h => nomatch h.1) (Or.inl rfl), ?_⟩
      rw [Spot.place, hfind]
      rfl
    · obtain ⟨spot, hcomes, hspot⟩ := ih ⟨hfind, hplace⟩
      exact ⟨spot, .directory hname hrest hfind hcomes, hspot⟩
  | @link _ _ place _ segment target rest hname hfind h ih =>
    by_cases hrest : rest = []
    · subst hrest
      refine ⟨_, .last hname (fun h => nomatch h.1) (Or.inl rfl), ?_⟩
      rw [Spot.place, hfind]
      rfl
    · obtain ⟨spot, hcomes, hspot⟩ := ih (hplace.base _)
      exact ⟨spot, .link hname hrest hfind hcomes, hspot⟩

end Files

end BookDatasets
