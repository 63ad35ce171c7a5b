/-
  What a path meets on its way.

  1. **Meeting** — `Sees` collects the places that a walk LOOKS AT: every name on the way, behind links
     too, whether anything stands there or not.  A path meets what its walk from the root sees.
  2. **Nothing else matters** — two trees that agree on what a path meets in one of them give it the
     same walk, refusals included (`walk_of_sees`).  So the file at a path is the same as before when
     nothing has changed that the path meets (`fileAt_of_meets`); what else has changed does not count.
-/
import BookDatasets.Proofs.Files.Operations

namespace BookDatasets

namespace Files

variable {files other : Files} {purpose : Purpose} {links : Nat} {slash : Bool}
  {place goal dir : Location} {segments rest : List Text} {segment target name path : Text}
  {spot : Spot}

/-! ## Meeting -/

/-- A walk that follows every link looks at a place. -/
inductive Sees (files : Files) : Nat → Location → List Text → Location → Prop where
  | here {links : Nat} {place there : Location} {rest : List Text}
      (h : Sees files links place rest there) : Sees files links place (Path.here :: rest) there
  | above {links : Nat} {place there : Location} {rest : List Text}
      (h : Sees files links place.tail rest there) :
      Sees files links place (Path.above :: rest) there
  | name {links : Nat} {place : Location} {segment : Text} {rest : List Text}
      (hname : IsName segment) : Sees files links place (segment :: rest) (segment :: place)
  | directory {links : Nat} {place there : Location} {segment : Text} {rest : List Text}
      (hname : IsName segment) (hfind : files.find? (segment :: place) = some .directory)
      (h : Sees files links (segment :: place) rest there) :
      Sees files links place (segment :: rest) there
  | link {links : Nat} {place there : Location} {segment target : Text} {rest : List Text}
      (hname : IsName segment) (hfind : files.find? (segment :: place) = some (.link target))
      (h : Sees files links (base place target) (Path.segments target ++ rest) there) :
      Sees files (links + 1) place (segment :: rest) there

/-- The path leads by a place, or to it. -/
def Meets (files : Files) (path : Text) (place : Location) : Prop :=
  Sees files maxLinks [] (Path.segments path) place

/-- A file is asked for by a name, and the walk has looked at it. -/
theorem Comes.sees (h : Comes files purpose links slash place segments (.entry dir name slash')) :
    Sees files links place segments (name :: dir) := by
  generalize hspot : Spot.entry dir name slash' = spot at h
  induction h with
  | arrived => cases hspot
  | here _ ih => exact .here (ih hspot)
  | above _ ih => exact .above (ih hspot)
  | directory hname _ hfind _ ih => exact .directory hname hfind (ih hspot)
  | link hname _ hfind _ ih => exact .link hname hfind (ih hspot)
  | last hname =>
    cases hspot
    exact .name hname
  | lastLink hname _ _ hfind _ ih =>
    refine .link hname hfind ?_
    rw [List.append_nil]
    exact ih hspot

/-- A name alone meets its own place, unless a link stands there. -/
theorem meets_name (hsegments : Path.segments path = [name]) (hname : IsName name)
    (hlink : ∀ target, files.find? [name] ≠ some (.link target)) (h : files.Meets path place) :
    place = [name] := by
  rw [Meets, hsegments] at h
  cases h with
  | here => exact absurd rfl hname.not_here
  | above => exact absurd rfl hname.not_above
  | name => rfl
  | directory _ _ h => cases h
  | link _ hfind => exact absurd hfind (hlink _)

/-- A directory without a name stands on solid ground. -/
theorem Comes.grounded (h : Comes files purpose links slash place segments (.directory goal))
    (hplace : Grounded files place) : Grounded files goal := by
  generalize hspot : Spot.directory goal = spot at h
  induction h with
  | arrived =>
    cases hspot
    exact hplace
  | here _ ih => exact ih hplace hspot
  | above _ ih => exact ih hplace.tail hspot
  | directory _ _ hfind _ ih => exact ih ⟨hfind, hplace⟩ hspot
  | link _ _ _ _ ih => exact ih (hplace.base _) hspot
  | last => cases hspot
  | lastLink _ _ _ _ _ ih => exact ih (hplace.base _) hspot

/-! ## Nothing else matters -/

theorem steps_name (hname : IsName segment) (hrest : rest ≠ []) :
    steps files place (segment :: rest)
      = match files.find? (segment :: place) with
        | none => .refused .notFound
        | some (.file _) => .refused .notADirectory
        | some .directory => steps files (segment :: place) rest
        | some (.link target) => .link place target rest := by
  rewrite [steps, if_neg hname.not_here, if_neg hname.not_above, if_neg hrest, if_neg hname.not_long]
  rcases files.find? (segment :: place) with _ | content | _ | target
  · rfl
  · rfl
  · rfl
  · rfl

theorem walk_last_eq (hname : IsName segment) :
    walk files purpose links slash place [segment]
      = if purpose = .writing ∧ slash then .error .isADirectory
        else
          match files.find? (segment :: place) with
          | some (.link target) =>
            if purpose = .entry then .ok (.entry place segment slash)
            else
              match links with
              | 0 => .error .tooManyLinks
              | links + 1 =>
                walk files purpose links (slash || Path.endsInSlash target) (base place target)
                  (Path.segments target)
          | _ => .ok (.entry place segment slash) := by
  rewrite [walk, steps_last hname]
  dsimp only
  rewrite [if_neg hname.not_long]
  rfl

/-- What is too long for a name is refused without a look at the tree. -/
theorem walk_long (hhere : segment ≠ Path.here) (habove : segment ≠ Path.above)
    (hlong : ¬ Path.fits segment = true) (files : Files) :
    walk files purpose links slash place (segment :: rest)
      = if rest = [] ∧ purpose = .writing ∧ slash = true then .error .isADirectory
        else .error .nameTooLong := by
  by_cases hrest : rest = []
  · subst hrest
    have hsteps : steps files place [segment] = .last place segment := by
      rw [steps, if_neg hhere, if_neg habove, if_pos rfl]
    rw [walk, hsteps]
    dsimp only
    rw [if_pos hlong]
    exact if_congr ⟨fun h => ⟨rfl, h⟩, And.right⟩ rfl rfl
  · have hsteps : steps files place (segment :: rest) = .refused .nameTooLong := by
      rw [steps, if_neg hhere, if_neg habove, if_neg hrest, if_pos hlong]
    rw [walk, hsteps, if_neg fun h => hrest h.1]

/-- **Trees that agree on what a walk sees** give the same walk. -/
theorem walk_of_sees
    (h : ∀ there, Sees files links place segments there → other.find? there = files.find? there) :
    walk other purpose links slash place segments
      = walk files purpose links slash place segments := by
  -- On the number of links, because the target of one comes in front of the segments.
  induction links using Nat.strongRecOn generalizing slash place segments with
  | ind links ihlinks =>
    induction segments generalizing place with
    | nil => rw [walk, walk, steps, steps]
    | cons segment rest ih =>
      by_cases hhere : segment = Path.here
      · subst hhere
        rw [walk_here, walk_here, ih fun there hsees => h there (.here hsees)]
      by_cases habove : segment = Path.above
      · subst habove
        rw [walk_above, walk_above, ih fun there hsees => h there (.above hsees)]
      by_cases hlong : ¬ Path.fits segment = true
      · rw [walk_long hhere habove hlong, walk_long hhere habove hlong]
      have hname : IsName segment := ⟨hhere, habove, not_not.1 hlong⟩
      have hsame : other.find? (segment :: place) = files.find? (segment :: place) :=
        h _ (.name hname)
      by_cases hrest : rest = []
      · subst hrest
        rw [walk_last_eq hname, walk_last_eq hname, hsame]
        rcases hfind : files.find? (segment :: place) with _ | content | _ | target
        · rfl
        · rfl
        · rfl
        · cases links with
          | zero => rfl
          | succ fewer =>
            dsimp only
            rw [ihlinks fewer (Nat.lt_succ_self fewer)]
            intro there hsees
            refine h there (.link hname hfind ?_)
            rw [List.append_nil]
            exact hsees
      · have hother : steps other place (segment :: rest) = _ := steps_name hname hrest
        have hfiles : steps files place (segment :: rest) = _ := steps_name hname hrest
        rcases hfind : files.find? (segment :: place) with _ | content | _ | target
        · rw [walk, walk, hother, hfiles, hsame, hfind]
        · rw [walk, walk, hother, hfiles, hsame, hfind]
        · rw [walk_directory hname hrest (hsame.trans hfind), walk_directory hname hrest hfind,
            ih fun there hsees => h there (.directory hname hfind hsees)]
        · cases links with
          | zero => rw [walk, walk, hother, hfiles, hsame, hfind]
          | succ fewer =>
            rw [walk_link hname hrest (hsame.trans hfind), walk_link hname hrest hfind,
              ihlinks fewer (Nat.lt_succ_self fewer)]
            exact fun there hsees => h there (.link hname hfind hsees)

/-- **Trees that agree on what a path meets** lead it to the same spot. -/
theorem locate_of_meets
    (h : ∀ place, files.Meets path place → other.find? place = files.find? place) :
    other.locate purpose path = files.locate purpose path := by
  rw [locate, locate, walk_of_sees h]

/-- The file that a path leads to, behind links. -/
def fileAt (files : Files) (path : Text) : Option Content :=
  match files.openRead path with
  | .error _ => none
  | .ok place => files.content? place

/-- **The file at a path is the same** when nothing has changed that the path meets. -/
theorem fileAt_of_meets
    (h : ∀ place, files.Meets path place → other.find? place = files.find? place) :
    other.fileAt path = files.fileAt path := by
  have hlocate : other.locate .existing path = files.locate .existing path := locate_of_meets h
  rw [fileAt, fileAt, openRead, openRead, hlocate]
  rcases hspot : files.locate .existing path with error | goal | ⟨dir, name, slash⟩
  · rfl
  · -- The place of a directory holds no file, in either tree.
    have hfiles := (locate_eq_ok_iff.1 hspot).2.grounded trivial
    have hother := (locate_eq_ok_iff.1 (hlocate.trans hspot)).2.grounded trivial
    show other.content? goal = files.content? goal
    rw [content?, content?, hfiles.find?, hother.find?]
  · have hsame : other.find? (name :: dir) = files.find? (name :: dir) :=
      h _ (locate_eq_ok_iff.1 hspot).2.sees
    have hcontent : other.content? (name :: dir) = files.content? (name :: dir) := by
      rw [content?, content?, hsame]
    dsimp only
    rw [hsame]
    rcases files.find? (name :: dir) with _ | content | _ | target
    · rfl
    · cases slash with
      | false => exact hcontent
      | true => rfl
    · exact hcontent
    · cases slash with
      | false => exact hcontent
      | true => rfl

/-! ## Paths to files -/

theorem openRead_of_node {node : Node} (hlocate : files.locate .existing path = .ok (.entry dir name slash))
    (hfind : files.find? (name :: dir) = some node) (hnode : node ≠ .directory) :
    files.openRead path = if slash then .error .notADirectory else .ok (name :: dir) := by
  rw [openRead, hlocate]
  dsimp only
  rw [hfind]
  cases node with
  | directory => exact absurd rfl hnode
  | _ => rfl

/-- **What is opened** is found, and something stands there; before a slash it is a directory. -/
theorem openRead_eq_ok_iff :
    files.openRead path = .ok place
      ↔ ∃ spot node, files.locate .existing path = .ok spot ∧ spot.place = place
        ∧ files.find? place = some node
        ∧ ∀ dir name, spot = .entry dir name true → node = .directory := by
  rcases hlocate : files.locate .existing path with error | goal | ⟨dir, name, slash⟩
  · rw [openRead, hlocate]
    constructor
    · rintro ⟨⟩
    · rintro ⟨spot, node, hspot, -⟩
      cases hspot
  · rw [openRead, hlocate]
    constructor
    · intro h
      obtain rfl := Except.ok.inj h
      have hgoal := ((locate_eq_ok_iff.1 hlocate).2.grounded trivial).find?
      exact ⟨_, _, rfl, rfl, hgoal, by rintro _ _ ⟨⟩⟩
    · rintro ⟨spot, node, hspot, rfl, -⟩
      obtain rfl := Except.ok.inj hspot
      rfl
  · rcases hfind : files.find? (name :: dir) with _ | node
    · rw [openRead, hlocate]
      dsimp only
      rw [hfind]
      constructor
      · rintro ⟨⟩
      · rintro ⟨spot, node, hspot, rfl, hnode, -⟩
        cases hspot
        cases hfind.symm.trans hnode
    by_cases hnode : node = .directory
    · subst hnode
      rw [openRead, hlocate]
      dsimp only
      rw [hfind]
      constructor
      · intro h
        obtain rfl := Except.ok.inj h
        exact ⟨_, _, rfl, rfl, hfind, fun _ _ _ => rfl⟩
      · rintro ⟨spot, node, hspot, rfl, -⟩
        cases hspot
        rfl
    · rw [openRead_of_node hlocate hfind hnode]
      constructor
      · intro h
        split_ifs at h with hslash
        obtain rfl := Except.ok.inj h
        refine ⟨_, _, rfl, rfl, hfind, ?_⟩
        rintro _ _ ⟨⟩
        exact absurd rfl hslash
      · rintro ⟨spot, node', hspot, rfl, hfind', hkind⟩
        cases hspot
        cases hfind.symm.trans hfind'
        rw [if_neg]
        · rfl
        · rintro rfl
          exact hnode (hkind _ _ rfl)

/-- Who reads a file has come to it under its name. -/
theorem locate_of_openRead {content : Content} (hopen : files.openRead path = .ok place)
    (hfind : files.find? place = some (.file content)) :
    ∃ dir name, place = name :: dir ∧ files.locate .existing path = .ok (.entry dir name false) := by
  obtain ⟨spot, node, hlocate, rfl, hnode, hslash⟩ := openRead_eq_ok_iff.1 hopen
  cases hnode.symm.trans hfind
  rcases spot with goal | ⟨dir, name, _ | _⟩
  · exact nomatch ((locate_eq_ok_iff.1 hlocate).2.grounded trivial).find?.symm.trans hfind
  · exact ⟨dir, name, rfl, hlocate⟩
  · exact nomatch hslash dir name rfl

/-- The directories and links that a path meets on its way to a file are all that it needs. -/
theorem Comes.keep {content : Content}
    (h : Comes files purpose links slash place segments spot)
    (hfind : other.find? spot.place = some (.file content))
    (hkeep : ∀ there node, Sees files links place segments there →
      (∀ content, node ≠ .file content) → files.find? there = some node →
      other.find? there = some node) :
    Comes other purpose links slash place segments spot := by
  induction h with
  | arrived => exact .arrived
  | here _ ih => exact .here (ih hfind fun there node hsees => hkeep there node (.here hsees))
  | above _ ih => exact .above (ih hfind fun there node hsees => hkeep there node (.above hsees))
  | directory hname hrest hdir _ ih =>
    refine .directory hname hrest (hkeep _ _ (.name hname) nofun hdir) (ih hfind ?_)
    exact fun there node hsees => hkeep there node (.directory hname hdir hsees)
  | link hname hrest hlink _ ih =>
    refine .link hname hrest (hkeep _ _ (.name hname) nofun hlink) (ih hfind ?_)
    exact fun there node hsees => hkeep there node (.link hname hlink hsees)
  | last hname hslash =>
    refine .last hname hslash (Or.inr fun target hlink => ?_)
    cases hfind.symm.trans hlink
  | lastLink hname hslash hpurpose hlink _ ih =>
    refine .lastLink hname hslash hpurpose (hkeep _ _ (.name hname) nofun hlink) (ih hfind ?_)
    intro there node hsees
    refine hkeep there node (.link hname hlink ?_)
    rw [List.append_nil]
    exact hsees

/-- **A path to a file** leads there still, when a file stays there and all directories and links stay
that it meets. -/
theorem openRead_of_kept {content : Content} (hopen : files.openRead path = .ok place)
    (hfind : files.find? place = some (.file content))
    (hstays : files.Meets path place → ∃ content', other.find? place = some (.file content'))
    (hkeep : ∀ there node, files.Meets path there → (∀ content, node ≠ .file content) →
      files.find? there = some node → other.find? there = some node) :
    other.openRead path = .ok place := by
  obtain ⟨dir, name, rfl, hlocate⟩ := locate_of_openRead hopen hfind
  obtain ⟨hpath, hcomes⟩ := locate_eq_ok_iff.1 hlocate
  obtain ⟨content', hfound⟩ := hstays hcomes.sees
  exact openRead_of_existing (locate_eq_ok_iff.2 ⟨hpath, hcomes.keep hfound hkeep⟩) hfound

end Files

end BookDatasets
