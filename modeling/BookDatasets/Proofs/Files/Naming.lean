/-
  What a path names before its directories are there.

  1. **Names** — the rules for a database's name follow links, and pass through directories that do not
     exist.  So they say of ANY path what it names, also when the directories above it are made later
     (`names_of_locate`): what is made on the way are directories, and no file gives way to one.
  2. **Steady** — from a tree to a later one directories and links stay, no link is new, and where there
     is a file there will be a file.  This is all that naming asks of the trees in between.
  3. **Files in the way** — only a file above a place keeps a path from naming it.  So where two trees
     let the path through, every tree lets it through whose files stand in one of them
     (`names_of_both`), and then all of them agree on what it names.
-/
import BookDatasets.Proofs.Files.Connection

namespace BookDatasets

namespace Files

variable {files other third : Files} {purpose : Purpose} {links : Nat} {slash slash' : Bool}
  {place goal dir : Location} {segments rest : List Text} {segment target name path : Text}

/-- Two paths do not name the same place. -/
def Differ (files : Files) (path path' : Text) : Prop :=
  ∀ place, files.names path = some place → files.names path' ≠ some place

instance (files : Files) (path path' : Text) : Decidable (files.Differ path path') :=
  decidable_of_iff (files.names path = none ∨ files.names path ≠ files.names path') <| by
    constructor
    · rintro (hnone | hdiffer) place hplace hplace'
      · exact nomatch hnone.symm.trans hplace
      · exact hdiffer (hplace.trans hplace'.symm)
    · intro hdiffer
      rcases hname : files.names path with _ | goal
      · exact Or.inl rfl
      · exact Or.inr fun hsame => hdiffer goal hname hsame.symm

/-- Directories and links stay, no link is new, and where a file is there will be a file. -/
structure Steady (files other : Files) : Prop where
  grows : Grows files other
  files : ∀ place content, files.find? place = some (.file content) →
    ∃ content', other.find? place = some (.file content')

theorem Steady.refl (files : Files) : Steady files files :=
  ⟨⟨fun _ _ _ h => h, fun _ _ h => h⟩, fun _ content h => ⟨content, h⟩⟩

theorem Steady.trans (h : Steady files other) (h' : Steady other third) : Steady files third := by
  refine ⟨h.grows.trans h'.grows, ?_⟩
  intro place content hfind
  obtain ⟨content', hfind'⟩ := h.files place content hfind
  exact h'.files place content' hfind'

theorem steady_of_extends (h : Extends files other) : Steady files other :=
  ⟨h.grows, fun _ content hfind => ⟨content, h.keeps _ _ hfind⟩⟩

/-- A file that is written stands where a file stood, or nothing. -/
theorem Steady.put (hfree : ∀ node, files.find? place = some node → ∃ content, node = .file content)
    (content : Content) : Steady files (files.put place (.file content)) := by
  refine ⟨Grows.put hfree nofun, fun there found hfind => ?_⟩
  have hplace : place ≠ [] := ne_nil_of_find? fun hdirectory =>
    nomatch (hfree _ hdirectory).choose_spec
  rw [find?_put files hplace]
  split_ifs with hthere
  · exact ⟨content, rfl⟩
  · exact ⟨found, hfind⟩

theorem Steady.put_free (hfree : files.find? place = none) (content : Content) :
    Steady files (files.put place (.file content)) := by
  refine Steady.put ?_ content
  rw [hfree]
  exact nofun

theorem steady_withParent (files : Files) (path : Text) : Steady files (files.withParent path) :=
  steady_of_extends (extends_of_createDirectories files (Path.parent path))

/-! ## One segment of a name -/

theorem looseWalk_nil : looseWalk files links place [] = some place := by
  rw [looseWalk, looseSteps]

theorem looseWalk_here :
    looseWalk files links place (Path.here :: rest) = looseWalk files links place rest := by
  apply looseWalk_congr
  rw [looseSteps, if_pos rfl]

theorem looseWalk_above :
    looseWalk files links place (Path.above :: rest) = looseWalk files links place.tail rest := by
  apply looseWalk_congr
  rw [looseSteps, if_neg (by decide), if_pos rfl]

/-- What is no link is entered. -/
theorem looseWalk_name (hname : IsName segment) (hfree : files.content? place = none)
    (hlink : ∀ target, files.find? (segment :: place) ≠ some (.link target)) :
    looseWalk files links place (segment :: rest)
      = looseWalk files links (segment :: place) rest := by
  apply looseWalk_congr
  rw [looseSteps_name hname hfree]
  rcases hfind : files.find? (segment :: place) with _ | content | _ | target
  · rfl
  · rfl
  · rfl
  · exact absurd hfind (hlink target)

theorem looseWalk_link (hname : IsName segment) (hfree : files.content? place = none)
    (hfind : files.find? (segment :: place) = some (.link target)) :
    looseWalk files (links + 1) place (segment :: rest)
      = looseWalk files links (base place target) (Path.segments target ++ rest) := by
  have hstep : looseSteps files place (segment :: rest) = _ := looseSteps_name hname hfree
  rw [hfind] at hstep
  rw [looseWalk, hstep]

theorem fits_of_looseWalk (hhere : segment ≠ Path.here) (habove : segment ≠ Path.above)
    (h : looseWalk files links place (segment :: rest) = some goal) : Path.fits segment = true := by
  by_contra hlong
  have hsteps := looseSteps.eq_2 files place segment rest
  rw [if_neg hhere, if_neg habove, if_pos hlong] at hsteps
  rw [looseWalk, hsteps] at h
  split_ifs at h

/-- A name is passed below nothing but a file, and a link takes one from the links that are left. -/
theorem passable_of_looseWalk (hname : IsName segment)
    (h : looseWalk files links place (segment :: rest) = some goal) :
    files.content? place = none
      ∧ ∀ target, files.find? (segment :: place) = some (.link target) → ∃ fewer, links = fewer + 1 := by
  have hsteps := looseSteps.eq_2 files place segment rest
  rw [if_neg hname.not_here, if_neg hname.not_above] at hsteps
  rcases hcontent : files.content? place with _ | content
  · refine ⟨rfl, fun target hfind => ?_⟩
    cases links with
    | zero =>
      have hstep : looseSteps files place (segment :: rest) = _ := looseSteps_name hname hcontent
      rw [hfind] at hstep
      rw [looseWalk, hstep] at h
      cases h
    | succ fewer => exact ⟨fewer, rfl⟩
  · rw [hcontent] at hsteps
    rw [looseWalk, hsteps] at h
    cases h

/-! ## Later trees -/

/-- Where there will be a directory there is no file. -/
theorem Steady.content? (h : Steady files other) (hplace : other.find? place = some .directory) :
    files.content? place = none := by
  rw [Files.content?]
  rcases hfind : files.find? place with _ | content | _ | target
  · rfl
  · obtain ⟨content', hfind'⟩ := h.files place content hfind
    cases hplace.symm.trans hfind'
  · rfl
  · rfl

/-- **What a walk comes to in a later tree** the path names before. -/
theorem Comes.names (h : Comes other purpose links slash place segments (.entry dir name slash'))
    (hsteady : Steady files other) (hplace : Grounded other place)
    (hlink : ∀ target, other.find? (name :: dir) ≠ some (.link target)) :
    looseWalk files links place segments = some (name :: dir) := by
  generalize hspot : Spot.entry dir name slash' = spot at h
  -- A link of the later tree is one of the earlier tree, and nothing else is.
  have hnolink : ∀ {there : Location}, (∀ target, other.find? there ≠ some (.link target)) →
      ∀ target, files.find? there ≠ some (.link target) := by
    intro there hother target hfind
    exact hother target (hsteady.grows.within _ _ nofun hfind)
  induction h with
  | arrived => cases hspot
  | here _ ih =>
    rw [looseWalk_here]
    exact ih hplace hspot
  | above _ ih =>
    rw [looseWalk_above]
    exact ih hplace.tail hspot
  | @directory _ _ place segment _ _ hname _ hfind _ ih =>
    have hdirectory : ∀ target, other.find? (segment :: place) ≠ some (.link target) := by
      intro target hother
      exact nomatch hfind.symm.trans hother
    rw [looseWalk_name hname (hsteady.content? hplace.find?) (hnolink hdirectory)]
    exact ih ⟨hfind, hplace⟩ hspot
  | link hname _ hfind _ ih =>
    rw [looseWalk_link hname (hsteady.content? hplace.find?) (hsteady.grows.links _ _ hfind)]
    exact ih (hplace.base _) hspot
  | last hname =>
    cases hspot
    rw [looseWalk_name hname (hsteady.content? hplace.find?) (hnolink hlink), looseWalk_nil]
  | lastLink hname _ _ hfind _ ih =>
    rw [looseWalk_link hname (hsteady.content? hplace.find?) (hsteady.grows.links _ _ hfind),
      List.append_nil]
    exact ih (hplace.base _) hspot

/-- **A path that is found in a later tree** names the same place before. -/
theorem names_of_locate (hsteady : Steady files other)
    (h : other.locate purpose path = .ok (.entry dir name slash))
    (hlink : ∀ target, other.find? (name :: dir) ≠ some (.link target)) :
    files.names path = some (name :: dir) :=
  (locate_eq_ok_iff.1 h).2.names hsteady trivial hlink

/-! ## Files in the way -/

/-- Two trees have the same links. -/
def SameLinks (files other : Files) : Prop :=
  ∀ place target, files.find? place = some (.link target) ↔ other.find? place = some (.link target)

theorem Grows.sameLinks (h : Grows files other) : SameLinks files other :=
  fun place target => ⟨h.within _ _ nofun, h.links place target⟩

theorem SameLinks.symm (h : SameLinks files other) : SameLinks other files :=
  fun place target => (h place target).symm

theorem looseWalk_of_both {first second : Location} (hfirst : SameLinks files third)
    (hsecond : SameLinks other third)
    (hfiles : ∀ place, (third.content? place).isSome →
      (files.content? place).isSome ∨ (other.content? place).isSome)
    (h : looseWalk files links place segments = some first)
    (h' : looseWalk other links place segments = some second) :
    looseWalk third links place segments = some second := by
  -- On the number of links, because the target of one comes in front of the segments.
  induction links using Nat.strongRecOn generalizing place segments with
  | ind links ihlinks =>
    induction segments generalizing place with
    | nil =>
      rw [looseWalk_nil] at h' ⊢
      exact h'
    | cons segment rest ih =>
      by_cases hhere : segment = Path.here
      · subst hhere
        rw [looseWalk_here] at h h' ⊢
        exact ih h h'
      by_cases habove : segment = Path.above
      · subst habove
        rw [looseWalk_above] at h h' ⊢
        exact ih h h'
      have hname : IsName segment := ⟨hhere, habove, fits_of_looseWalk hhere habove h⟩
      obtain ⟨hfree, hlinks⟩ := passable_of_looseWalk hname h
      obtain ⟨hfree', -⟩ := passable_of_looseWalk hname h'
      have hthird : third.content? place = none := by
        rw [← Option.not_isSome_iff_eq_none]
        intro hsome
        rcases hfiles place hsome with hfile | hfile
        · rw [hfree] at hfile
          cases hfile
        · rw [hfree'] at hfile
          cases hfile
      by_cases hlink : ∃ target, third.find? (segment :: place) = some (.link target)
      · obtain ⟨target, hfind⟩ := hlink
        obtain ⟨fewer, rfl⟩ := hlinks target ((hfirst _ _).2 hfind)
        rw [looseWalk_link hname hfree ((hfirst _ _).2 hfind)] at h
        rw [looseWalk_link hname hfree' ((hsecond _ _).2 hfind)] at h'
        rw [looseWalk_link hname hthird hfind]
        exact ihlinks fewer (Nat.lt_succ_self fewer) h h'
      · rw [not_exists] at hlink
        rw [looseWalk_name hname hfree fun target => mt (hfirst _ _).1 (hlink target)] at h
        rw [looseWalk_name hname hfree' fun target => mt (hsecond _ _).1 (hlink target)] at h'
        rw [looseWalk_name hname hthird hlink]
        exact ih h h'

/-- **Where two trees let a path through** every tree does whose files stand in one of them. -/
theorem names_of_both {first second : Location} (hfirst : SameLinks files third)
    (hsecond : SameLinks other third)
    (hfiles : ∀ place, (third.content? place).isSome →
      (files.content? place).isSome ∨ (other.content? place).isSome)
    (h : files.names path = some first) (h' : other.names path = some second) :
    third.names path = some second :=
  looseWalk_of_both hfirst hsecond hfiles h h'

/-- A tree with fewer files lets a path through. -/
theorem names_of_less (hlinks : SameLinks files other)
    (hfiles : ∀ place, (other.content? place).isSome → (files.content? place).isSome)
    (h : files.names path = some goal) : other.names path = some goal :=
  names_of_both hlinks hlinks (fun place hsome => Or.inl (hfiles place hsome)) h h

theorem content?_isSome_iff :
    (files.content? place).isSome ↔ ∃ content, files.find? place = some (.file content) := by
  rw [Files.content?]
  rcases files.find? place with _ | content | _ | target
  · simp
  · simp
  · simp
  · simp

/-- **New directories** make no difference to what a path names. -/
theorem Extends.names (h : Extends files other) (path : Text) :
    other.names path = files.names path := by
  have hlinks := h.grows.sameLinks
  have hkeeps : ∀ place, (files.content? place).isSome → (other.content? place).isSome := by
    intro place hsome
    obtain ⟨content, hfind⟩ := content?_isSome_iff.1 hsome
    exact content?_isSome_iff.2 ⟨content, h.keeps _ _ hfind⟩
  have hnew : ∀ place, (other.content? place).isSome → (files.content? place).isSome := by
    intro place hsome
    obtain ⟨content, hfind⟩ := content?_isSome_iff.1 hsome
    exact content?_isSome_iff.2 ⟨content, (h.new _ _ hfind).resolve_right nofun⟩
  rcases hfiles : files.names path with _ | goal
  · rcases hother : other.names path with _ | goal
    · rfl
    · exact nomatch hfiles.symm.trans (names_of_less hlinks.symm hkeeps hother)
  · exact names_of_less hlinks hnew hfiles

/-! ## Databases -/

/-- What a path names later it names before. -/
theorem Steady.names (h : Steady files other) (hname : other.names path = some goal) :
    files.names path = some goal := by
  refine names_of_less h.grows.sameLinks.symm (fun place hsome => ?_) hname
  obtain ⟨content, hfind⟩ := content?_isSome_iff.1 hsome
  exact content?_isSome_iff.2 (h.files place content hfind)

/-- So it is with the seats of databases. -/
theorem Steady.seat {engine : Engine} (h : Steady files other)
    (hseat : other.seat engine name = some goal) : files.seat engine name = some goal := by
  rw [Files.seat] at hseat ⊢
  rcases hresolve : engine.resolve name with error | _ | path
  · rw [hresolve] at hseat
    cases hseat
  · rw [hresolve] at hseat
    cases hseat
  · rw [hresolve] at hseat
    exact h.names hseat

/-- New directories make no difference to the seat of a name. -/
theorem Extends.seat (h : Extends files other) (engine : Engine) (name : Text) :
    other.seat engine name = files.seat engine name := by
  rw [Files.seat, Files.seat]
  rcases engine.resolve name with error | _ | path
  · rfl
  · rfl
  · exact h.names path

end Files

end BookDatasets
