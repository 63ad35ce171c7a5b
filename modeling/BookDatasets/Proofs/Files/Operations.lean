/-
  What operations on a path leave.

  1. **Standing** — `stands` says whether there is something at a path: the entry itself, a link as a
     link, and before a slash a directory.
  2. **Directories above** — whoever finds a path, or could, finds its parent: making the directories
     above it changes nothing then (`createDirectories_parent`).  So making them TWICE is making them
     once, even when it fails halfway (`createDirectories_again`).  The proof follows the recursion
     upwards; the crux is that a parent that cannot be made keeps the path from being found.
  3. **Files** — how a file comes to be made where nothing stands is said once (`Making`).  The new
     file stands there, and removing it gives the very tree that it was made in (`unlink_put`).
-/
import BookDatasets.Files.Arrangement
import BookDatasets.Proofs.Files.Change
import BookDatasets.Proofs.Files.Path

namespace BookDatasets

namespace Path

/-- Whether the last segment is a name. -/
def endInName (segments : List Text) : Bool :=
  segments.getLast?.any fun segment => segment != here && segment != above

/-- Whether a path ends in a name with a slash behind it: no file has such a path. -/
def asksForDirectory (path : Text) : Bool := endsInSlash path && endInName (segments path)

theorem endInName_append (front : List Text) {rest : List Text} (hrest : rest ≠ []) :
    endInName (front ++ rest) = endInName rest := by
  rw [endInName, List.getLast?_append_of_ne_nil front hrest, endInName]

theorem endInName_cons (segment : Text) {rest : List Text} (hrest : rest ≠ []) :
    endInName (segment :: rest) = endInName rest :=
  endInName_append [segment] hrest

theorem endInName_dot {dot : Text} (hdot : dot = here ∨ dot = above) (rest : List Text) :
    endInName (dot :: rest) = endInName rest := by
  by_cases hrest : rest = []
  · subst hrest
    rcases hdot with rfl | rfl
    · rfl
    · rfl
  · exact endInName_cons dot hrest

end Path

namespace Files

variable {files other third : Files} {purpose : Purpose} {links left : Nat} {slash : Bool}
  {place goal dir : Location} {segments : List Text} {name path : Text} {spot : Spot}
  {content : Content} {depth : Nat}

/-! ## Where a path leads -/

/-- Whether an entry is asked for by its name can be seen by the last segment. -/
theorem Comes.entry_or_directory (h : Comes files .entry links slash place segments spot) :
    (∃ dir name, spot = .entry dir name slash ∧ Path.endInName segments = true)
      ∨ ∃ goal, spot = .directory goal ∧ Path.endInName segments = false := by
  induction h with
  | arrived => exact Or.inr ⟨_, rfl, rfl⟩
  | here _ ih =>
    rw [Path.endInName_dot (Or.inl rfl)]
    exact ih
  | above _ ih =>
    rw [Path.endInName_dot (Or.inr rfl)]
    exact ih
  | directory _ hrest _ _ ih =>
    rw [Path.endInName_cons _ hrest]
    exact ih
  | link _ hrest _ _ ih =>
    rw [Path.endInName_append _ hrest] at ih
    rw [Path.endInName_cons _ hrest]
    exact ih
  | @last _ _ place segment hname _ _ =>
    refine Or.inl ⟨place, segment, rfl, ?_⟩
    rw [Path.endInName, List.getLast?_singleton, Option.any_some, Bool.and_eq_true, bne_iff_ne,
      bne_iff_ne]
    exact ⟨hname.not_here, hname.not_above⟩
  | lastLink _ _ hpurpose => exact absurd rfl hpurpose

theorem locate_entry (h : files.locate .entry path = .ok (.entry dir name slash)) :
    slash = Path.asksForDirectory path := by
  rcases (locate_eq_ok_iff.1 h).2.entry_or_directory with ⟨_, _, hspot, hname⟩ | ⟨_, hspot, _⟩
  · rw [Path.asksForDirectory, hname, Bool.and_true]
    cases hspot
    rfl
  · cases hspot

theorem locate_directory (h : files.locate .entry path = .ok (.directory goal)) :
    Path.asksForDirectory path = false := by
  rcases (locate_eq_ok_iff.1 h).2.entry_or_directory with ⟨_, _, hspot, _⟩ | ⟨_, _, hname⟩
  · cases hspot
  · rw [Path.asksForDirectory, hname, Bool.and_false]

/-- Whether something stands at a path. -/
def stands (files : Files) (path : Text) : Bool :=
  match files.locate .entry path with
  | .error _ => false
  | .ok (.directory _) => true
  | .ok (.entry dir name slash) =>
    if slash then files.isDirectory path else (files.find? (name :: dir)).isSome

/-- What is read at a path. -/
def readAt (files : Files) (path : Text) : Except IoError Bytes :=
  (files.openRead path).bind files.read

/-- Whether a new file can be made at a path, and the directories above it. -/
def CanMake (files : Files) (path : Text) : Prop :=
  (files.createDirectories (Path.parent path)).2 = .ok ()
    ∧ ∃ made, (files.withParent path).createNew path = .ok made

/-! ## Directories -/

theorem isDirectory_of_leads (hpath : IsPath path)
    (h : Leads files maxLinks [] (Path.segments path) goal left) : files.isDirectory path = true := by
  obtain ⟨spot, hcomes, rfl⟩ := h.comes_existing (Path.endsInSlash path)
  have hlocate : files.locate .existing path = .ok spot := locate_eq_ok_iff.2 ⟨hpath, hcomes⟩
  have hgoal : files.find? spot.place = some .directory := (h.grounded trivial).find?
  have hopen : files.openRead path = .ok spot.place := by
    rw [openRead, hlocate]
    cases spot with
    | directory place => rfl
    | entry dir name slash =>
      dsimp only
      rw [show files.find? (name :: dir) = some .directory from hgoal]
      rfl
  rw [isDirectory, hopen]
  exact beq_iff_eq.2 hgoal

theorem makeDirectory_of_leads (hpath : IsPath path)
    (h : Leads files maxLinks [] (Path.segments path) goal left) :
    files.makeDirectory path = .error .fileExists := by
  obtain ⟨spot, hcomes, hsome⟩ := h.comes_entry trivial (Path.endsInSlash path)
  rw [makeDirectory, locate_eq_ok_iff.2 ⟨hpath, hcomes⟩]
  cases spot with
  | directory place => rfl
  | entry dir name slash => exact if_pos hsome

theorem createDirectoriesWithin_succ (hnil : path ≠ []) :
    files.createDirectoriesWithin (depth + 1) path
      = match files.makeDirectory path with
        | .ok files => (files, .ok ())
        | .error .notFound =>
          match files.createDirectoriesWithin depth (Path.parent path) with
          | (files, .error error) => (files, .error error)
          | (files, .ok ()) => files.ensureDirectory path
        | .error error => (files, if files.isDirectory path then .ok () else .error error) :=
  if_neg hnil

/-- The directories above are looked at only when one of them is missing. -/
theorem createDirectoriesWithin_of_error {error : IoError} (hnil : path ≠ [])
    (hmake : files.makeDirectory path = .error error) (hfound : error ≠ .notFound) :
    files.createDirectoriesWithin (depth + 1) path
      = (files, if files.isDirectory path then .ok () else .error error) := by
  rw [createDirectoriesWithin_succ hnil, hmake]
  cases error with
  | notFound => exact absurd rfl hfound
  | _ => rfl

theorem IsPath.parent (h : IsPath path) (hparent : Path.parent path ≠ []) :
    IsPath (Path.parent path) :=
  ⟨fun hmem => h.nul ((Path.parent_prefix path).subset hmem), hparent,
    Path.isTooLong_of_prefix (Path.parent_prefix path) h.short⟩

/-- **Whoever finds a path** finds the directories above it. -/
theorem createDirectoriesWithin_parent (h : files.locate purpose path = .ok spot) (depth : Nat) :
    files.createDirectoriesWithin depth (Path.parent path) = (files, .ok ()) := by
  obtain ⟨hpath, hcomes⟩ := locate_eq_ok_iff.1 h
  cases depth with
  | zero => rfl
  | succ depth =>
    by_cases hparent : Path.parent path = []
    · rw [createDirectoriesWithin, if_pos hparent]
    obtain ⟨rest, hrest, hsegments⟩ := Path.segments_parent hparent
    rw [hsegments] at hcomes
    obtain ⟨goal, left, hleads, -⟩ := hcomes.split hrest
    have habove := hpath.parent hparent
    rw [createDirectoriesWithin_of_error hparent (makeDirectory_of_leads habove hleads)
      nofun, if_pos (isDirectory_of_leads habove hleads)]

theorem createDirectories_parent (h : files.locate purpose path = .ok spot) :
    files.createDirectories (Path.parent path) = (files, .ok ()) :=
  createDirectoriesWithin_parent h _

/-- A directory is made where nothing stood. -/
theorem makeDirectory_eq_ok (h : files.makeDirectory path = .ok other) :
    ∃ dir name slash, files.locate .entry path = .ok (.entry dir name slash)
      ∧ files.find? (name :: dir) = none ∧ other = files.put (name :: dir) .directory := by
  rw [makeDirectory] at h
  rcases hlocate : files.locate .entry path with error | goal | ⟨dir, name, slash⟩
  · rw [hlocate] at h
    cases h
  · rw [hlocate] at h
    cases h
  · rw [hlocate] at h
    dsimp only at h
    split_ifs at h with hsome
    refine ⟨dir, name, slash, rfl, ?_, (Except.ok.inj h).symm⟩
    rw [Option.isSome_iff_ne_none, not_not] at hsome
    exact hsome

/-- Once it is made it is there. -/
theorem isDirectory_of_makeDirectory (h : files.makeDirectory path = .ok other) :
    other.makeDirectory path = .error .fileExists ∧ other.isDirectory path = true := by
  obtain ⟨dir, name, slash, hlocate, hfree, rfl⟩ := makeDirectory_eq_ok h
  have hplace : name :: dir ≠ [] := List.cons_ne_nil name dir
  have hgrows : Grows files (files.put (name :: dir) .directory) := Grows.put_free hfree (by rintro _ ⟨⟩)
  have hfind : (files.put (name :: dir) .directory).find? (name :: dir) = some .directory := by
    rw [find?_put files hplace, if_pos rfl]
  have hentry := hgrows.locate hlocate
  have hexisting : (files.put (name :: dir) .directory).locate .existing path
      = .ok (.entry dir name slash) := by
    apply locate_existing hentry
    intro target
    rw [Spot.place, hfind]
    rintro ⟨⟩
  constructor
  · rw [makeDirectory, hentry]
    exact if_pos (by rw [hfind]; rfl)
  · rw [isDirectory, openRead, hexisting]
    dsimp only
    rw [hfind]
    exact beq_iff_eq.2 hfind

/-- A path to a directory is found. -/
theorem locate_of_isDirectory (h : files.isDirectory path = true) :
    ∃ spot, files.locate .existing path = .ok spot := by
  rcases hlocate : files.locate .existing path with error | spot
  · rw [isDirectory, openRead, hlocate] at h
    cases h
  · exact ⟨spot, rfl⟩

theorem createDirectoriesWithin_of_made (hnil : path ≠ []) (hmake : files.makeDirectory path = .ok other) :
    other.createDirectoriesWithin (depth + 1) path = (other, .ok ()) := by
  obtain ⟨hexists, hdirectory⟩ := isDirectory_of_makeDirectory hmake
  rw [createDirectoriesWithin_of_error hnil hexists nofun, if_pos hdirectory]

/-- A path whose parent cannot be made cannot be found, so its directory cannot be made. -/
theorem createDirectoriesWithin_lost {error : IoError} (hnil : path ≠ [])
    (hparent : files.createDirectoriesWithin depth (Path.parent path) = (files, .error error)) :
    ∃ error', files.createDirectoriesWithin (depth + 1) path = (files, .error error') := by
  have hlost : ∀ purpose spot, files.locate purpose path ≠ .ok spot := by
    intro purpose spot hlocate
    rw [createDirectoriesWithin_parent hlocate] at hparent
    exact nomatch (Prod.mk.inj hparent).2
  rcases hmake : files.makeDirectory path with error' | made
  · by_cases hfound : error' = .notFound
    · subst hfound
      refine ⟨error, ?_⟩
      rw [createDirectoriesWithin_succ hnil, hmake]
      dsimp only
      rw [hparent]
    · have hno : ¬ files.isDirectory path = true := by
        intro hdirectory
        obtain ⟨spot, hlocate⟩ := locate_of_isDirectory hdirectory
        exact hlost .existing spot hlocate
      refine ⟨error', ?_⟩
      rw [createDirectoriesWithin_of_error hnil hmake hfound, if_neg hno]
  · obtain ⟨dir, name, slash, hlocate, -, -⟩ := makeDirectory_eq_ok hmake
    exact absurd hlocate (hlost .entry _)

/-- Under a parent that is there a directory is made, or refused, once and for all. -/
theorem createDirectoriesWithin_ensured {result : Except IoError Unit} (hnil : path ≠ [])
    (hparent : files.createDirectoriesWithin depth (Path.parent path) = (files, .ok ()))
    (h : files.ensureDirectory path = (other, result)) :
    other.createDirectoriesWithin (depth + 1) path = (other, result) := by
  have hensure := h
  rw [ensureDirectory] at h
  rcases hmake : files.makeDirectory path with error | made
  · rw [hmake] at h
    obtain ⟨rfl, rfl⟩ := Prod.mk.inj h
    by_cases hfound : error = .notFound
    · subst hfound
      rw [createDirectoriesWithin_succ hnil, hmake]
      dsimp only
      rw [hparent]
      exact hensure
    · exact createDirectoriesWithin_of_error hnil hmake hfound
  · rw [hmake] at h
    obtain ⟨rfl, rfl⟩ := Prod.mk.inj h
    exact createDirectoriesWithin_of_made hnil hmake

/-- **Directories are made once**: the second time nothing changes, and it fails if it has failed. -/
theorem createDirectoriesWithin_again {result : Except IoError Unit}
    (h : files.createDirectoriesWithin depth path = (other, result)) :
    ∃ result', other.createDirectoriesWithin depth path = (other, result')
      ∧ (result' = .ok () ↔ result = .ok ()) := by
  induction depth generalizing path other result with
  | zero =>
    cases h
    exact ⟨.ok (), rfl, Iff.rfl⟩
  | succ depth ih =>
    by_cases hnil : path = []
    · subst hnil
      cases h
      exact ⟨.ok (), rfl, Iff.rfl⟩
    rcases hmake : files.makeDirectory path with error | made
    · by_cases hfound : error = .notFound
      · subst hfound
        rw [createDirectoriesWithin_succ hnil, hmake] at h
        dsimp only at h
        rcases hparent : files.createDirectoriesWithin depth (Path.parent path)
          with ⟨middle, error | ⟨⟨⟩⟩⟩
        · rw [hparent] at h
          obtain ⟨rfl, rfl⟩ := Prod.mk.inj h
          obtain ⟨result', hagain, hresult⟩ := ih hparent
          cases result' with
          | ok value => exact nomatch hresult.1 rfl
          | error error' =>
            obtain ⟨error'', hlost⟩ := createDirectoriesWithin_lost hnil hagain
            exact ⟨.error error'', hlost, Iff.intro nofun nofun⟩
        · rw [hparent] at h
          obtain ⟨result', hagain, hresult⟩ := ih hparent
          rw [hresult.2 rfl] at hagain
          exact ⟨result, createDirectoriesWithin_ensured hnil hagain h, Iff.rfl⟩
      · have hrefused : files.createDirectoriesWithin (depth + 1) path = _ :=
          createDirectoriesWithin_of_error hnil hmake hfound
        rw [hrefused] at h
        obtain ⟨rfl, rfl⟩ := Prod.mk.inj h
        exact ⟨_, hrefused, Iff.rfl⟩
    · rw [createDirectoriesWithin_succ hnil, hmake] at h
      obtain ⟨rfl, rfl⟩ := Prod.mk.inj h
      exact ⟨.ok (), createDirectoriesWithin_of_made hnil hmake, Iff.rfl⟩

theorem createDirectories_again {result : Except IoError Unit}
    (h : files.createDirectories path = (other, result)) :
    ∃ result', other.createDirectories path = (other, result')
      ∧ (result' = .ok () ↔ result = .ok ()) :=
  createDirectoriesWithin_again h

/-! ## With the directories above a path -/

/-- Where something stands the directories above it are there. -/
theorem createDirectories_of_stands (h : files.stands path = true) :
    files.createDirectories (Path.parent path) = (files, .ok ()) := by
  rw [stands] at h
  rcases hlocate : files.locate .entry path with error | spot
  · rw [hlocate] at h
    cases h
  · exact createDirectories_parent hlocate

theorem withParent_again (files : Files) (path : Text) :
    (files.withParent path).withParent path = files.withParent path := by
  rcases hparent : files.createDirectories (Path.parent path) with ⟨other, result⟩
  obtain ⟨result', hagain, -⟩ := createDirectories_again hparent
  rw [withParent, withParent, hparent, hagain]

/-- They can be made where something stands afterwards. -/
theorem createDirectories_of_withParent (h : (files.withParent path).stands path = true) :
    files.createDirectories (Path.parent path) = (files.withParent path, .ok ()) := by
  rcases hparent : files.createDirectories (Path.parent path) with ⟨other, result⟩
  have hother : files.withParent path = other := by rw [withParent, hparent]
  obtain ⟨result', hagain, hresult⟩ := createDirectories_again hparent
  rw [hother] at h ⊢
  rw [createDirectories_of_stands h] at hagain
  rw [hresult.1 (Prod.mk.inj hagain).2.symm]

/-- Making the directories above a path never takes away what stands there. -/
theorem withParent_of_stands (h : files.stands path = true) : files.withParent path = files := by
  rw [withParent, createDirectories_of_stands h]

/-! ## What making directories leaves as it was -/

/-- Directories may have come where nothing stood, and nothing else has changed. -/
structure Extends (files other : Files) : Prop where
  keeps : ∀ place node, files.find? place = some node → other.find? place = some node
  new : ∀ place node, other.find? place = some node →
    files.find? place = some node ∨ node = .directory

theorem Extends.refl (files : Files) : Extends files files :=
  ⟨fun _ _ h => h, fun _ _ h => Or.inl h⟩

theorem Extends.trans (h : Extends files other) (h' : Extends other third) :
    Extends files third := by
  constructor
  · intro place node hfind
    exact h'.keeps place node (h.keeps place node hfind)
  · intro place node hfind
    rcases h'.new place node hfind with hother | hnode
    · exact h.new place node hother
    · exact Or.inr hnode

theorem Extends.grows (h : Extends files other) : Grows files other := by
  constructor
  · intro place node _ hfind
    exact h.keeps place node hfind
  · intro place target hlink
    rcases h.new place _ hlink with hfind | hnode
    · exact hfind
    · cases hnode

theorem extends_of_makeDirectory (h : files.makeDirectory path = .ok other) :
    Extends files other := by
  obtain ⟨dir, name, slash, -, hfree, rfl⟩ := makeDirectory_eq_ok h
  have hplace : name :: dir ≠ [] := List.cons_ne_nil name dir
  constructor
  · intro there node hfind
    rw [find?_put files hplace, if_neg]
    · exact hfind
    · rintro rfl
      rw [hfree] at hfind
      cases hfind
  · intro there node hfind
    rw [find?_put files hplace] at hfind
    split_ifs at hfind
    · exact Or.inr (Option.some.inj hfind).symm
    · exact Or.inl hfind

theorem extends_of_ensureDirectory (files : Files) (path : Text) :
    Extends files (files.ensureDirectory path).1 := by
  rw [ensureDirectory]
  rcases hmake : files.makeDirectory path with error | made
  · exact .refl files
  · exact extends_of_makeDirectory hmake

/-- **Making directories** leaves everything else in place. -/
theorem extends_of_createDirectoriesWithin (files : Files) (depth : Nat) (path : Text) :
    Extends files (files.createDirectoriesWithin depth path).1 := by
  induction depth generalizing path with
  | zero => exact .refl files
  | succ depth ih =>
    by_cases hnil : path = []
    · rw [createDirectoriesWithin, if_pos hnil]
      exact .refl files
    rcases hmake : files.makeDirectory path with error | made
    · by_cases hfound : error = .notFound
      · subst hfound
        have hparent := ih (Path.parent path)
        rw [createDirectoriesWithin_succ hnil, hmake]
        dsimp only
        rcases hmiddle : files.createDirectoriesWithin depth (Path.parent path)
          with ⟨middle, error | ⟨⟨⟩⟩⟩ <;> rw [hmiddle] at hparent
        · exact hparent
        · exact hparent.trans (extends_of_ensureDirectory middle path)
      · rw [createDirectoriesWithin_of_error hnil hmake hfound]
        exact .refl files
    · rw [createDirectoriesWithin_succ hnil, hmake]
      exact extends_of_makeDirectory hmake

theorem extends_of_createDirectories (files : Files) (path : Text) :
    Extends files (files.createDirectories path).1 :=
  extends_of_createDirectoriesWithin files _ path

/-! ## Files -/

theorem steps_ne_fileExists (files : Files) (place : Location) (segments : List Text) :
    steps files place segments ≠ .refused .fileExists := by
  induction segments generalizing place with
  | nil => rintro ⟨⟩
  | cons segment rest ih =>
    rw [steps]
    split_ifs
    · exact ih place
    · exact ih place.tail
    · rintro ⟨⟩
    · rcases files.find? (segment :: place) with _ | content | _ | target
      · rintro ⟨⟩
      · rintro ⟨⟩
      · exact ih (segment :: place)
      · rintro ⟨⟩
    · rintro ⟨⟩

/-- No walk is refused because something exists. -/
theorem walk_ne_fileExists (files : Files) (purpose : Purpose) (links : Nat) (slash : Bool)
    (place : Location) (segments : List Text) :
    walk files purpose links slash place segments ≠ .error .fileExists := by
  induction links using Nat.strongRecOn generalizing slash place segments with
  | ind links ih =>
    rw [walk]
    rcases hstop : steps files place segments with goal | ⟨dir, name⟩ | ⟨dir, target, rest⟩ | error
    · rintro ⟨⟩
    · dsimp only
      by_cases hslash : purpose = .writing ∧ slash = true
      · rw [if_pos hslash]
        rintro ⟨⟩
      rw [if_neg hslash]
      by_cases hlong : ¬ Path.fits name = true
      · rw [if_pos hlong]
        rintro ⟨⟩
      rw [if_neg hlong]
      rcases files.find? (name :: dir) with _ | content | _ | target
      · rintro ⟨⟩
      · rintro ⟨⟩
      · rintro ⟨⟩
      · dsimp only
        by_cases hpurpose : purpose = .entry
        · rw [if_pos hpurpose]
          rintro ⟨⟩
        rw [if_neg hpurpose]
        cases links with
        | zero => rintro ⟨⟩
        | succ fewer => exact ih fewer (Nat.lt_succ_self fewer) _ _ _
    · cases links with
      | zero => rintro ⟨⟩
      | succ fewer => exact ih fewer (Nat.lt_succ_self fewer) _ _ _
    · intro heq
      apply steps_ne_fileExists files place segments
      rw [hstop, Except.error.inj heq]

theorem locate_ne_fileExists (files : Files) (purpose : Purpose) (path : Text) :
    files.locate purpose path ≠ .error .fileExists := by
  rw [locate]
  split_ifs
  · rintro ⟨⟩
  · rintro ⟨⟩
  · rintro ⟨⟩
  · exact walk_ne_fileExists files purpose _ _ _ _

/-- **A new file** is made where nothing stood, under a name with no slash behind it. -/
theorem createNew_eq_ok (h : files.createNew path = .ok (other, place)) :
    ∃ dir name, files.locate .entry path = .ok (.entry dir name false)
      ∧ place = name :: dir ∧ files.find? (name :: dir) = none
      ∧ other = files.put (name :: dir) (.file (.bytes [])) := by
  rw [createNew] at h
  rcases hlocate : files.locate .entry path with error | goal | ⟨dir, name, slash⟩
  · rw [hlocate] at h
    cases h
  · rw [hlocate] at h
    cases h
  · rw [hlocate] at h
    dsimp only at h
    split_ifs at h with hslash hsome
    obtain ⟨rfl, rfl⟩ := Prod.mk.inj (Except.ok.inj h)
    rw [Option.isSome_iff_ne_none, not_not] at hsome
    rw [Bool.not_eq_true] at hslash
    subst hslash
    exact ⟨dir, name, rfl, rfl, hsome, rfl⟩

theorem createNew_of_free (hlocate : files.locate .entry path = .ok (.entry dir name false))
    (hfree : files.find? (name :: dir) = none) :
    files.createNew path = .ok (files.put (name :: dir) (.file (.bytes [])), name :: dir) := by
  rw [createNew, hlocate]
  dsimp only
  rw [if_neg Bool.false_ne_true, hfree]
  rfl

/-- **What stands at a path** is not made again, and makes a slash behind its name a refusal. -/
theorem createNew_of_stands (h : files.stands path = true) :
    files.createNew path
      = .error (if Path.asksForDirectory path then .isADirectory else .fileExists) := by
  rw [stands] at h
  rw [createNew]
  rcases hlocate : files.locate .entry path with error | goal | ⟨dir, name, slash⟩
  · rw [hlocate] at h
    cases h
  · rw [locate_directory hlocate]
    rfl
  · rw [hlocate] at h
    dsimp only at h ⊢
    rw [← locate_entry hlocate]
    split_ifs at h ⊢
    · rfl
    · rfl

/-- Nothing but what stands at a path is said to exist. -/
theorem stands_of_createNew (h : files.createNew path = .error .fileExists) :
    files.stands path = true := by
  rw [createNew] at h
  rw [stands]
  rcases hlocate : files.locate .entry path with error | goal | ⟨dir, name, slash⟩
  · rw [hlocate] at h
    obtain rfl : error = .fileExists := Except.error.inj h
    exact absurd hlocate (locate_ne_fileExists files .entry path)
  · rfl
  · rw [hlocate] at h
    dsimp only at h ⊢
    split_ifs at h with hslash hsome
    · cases h
    · rw [if_neg hslash]
      exact hsome

/-- How a file is made at a path where nothing stands, the directories above it first. -/
inductive Making (files : Files) (path : Text) : Prop where
  | noParent {error : IoError}
      (hparent : files.createDirectories (Path.parent path)
        = (files.withParent path, .error error)) (hcannot : ¬ files.CanMake path)
  | refused {error : IoError}
      (hparent : files.createDirectories (Path.parent path) = (files.withParent path, .ok ()))
      (hnew : (files.withParent path).createNew path = .error error)
      (hexists : error ≠ .fileExists) (hcannot : ¬ files.CanMake path)
  | made {dir : Location} {name : Text}
      (hparent : files.createDirectories (Path.parent path) = (files.withParent path, .ok ()))
      (hlocate : (files.withParent path).locate .entry path = .ok (.entry dir name false))
      (hfree : (files.withParent path).find? (name :: dir) = none)
      (hnew : (files.withParent path).createNew path
        = .ok ((files.withParent path).put (name :: dir) (.file (.bytes [])), name :: dir))
      (hcan : files.CanMake path)

theorem making_of_absent (h : (files.withParent path).stands path = false) :
    Making files path := by
  have hmoved : (files.createDirectories (Path.parent path)).1 = files.withParent path := rfl
  rcases hparent : files.createDirectories (Path.parent path) with ⟨other, error | ⟨⟨⟩⟩⟩
  · rw [hparent] at hmoved
    subst hmoved
    refine .noParent hparent ?_
    rintro ⟨hok, -⟩
    rw [hparent] at hok
    cases hok
  rw [hparent] at hmoved
  subst hmoved
  rcases hnew : (files.withParent path).createNew path with error | ⟨made, place⟩
  · refine .refused hparent hnew ?_ ?_
    · rintro rfl
      rw [stands_of_createNew hnew] at h
      cases h
    · rintro ⟨-, made, hmade⟩
      rw [hnew] at hmade
      cases hmade
  · have hcan : files.CanMake path := by
      refine ⟨?_, (made, place), hnew⟩
      rw [hparent]
    obtain ⟨dir, name, hlocate, rfl, hfree, rfl⟩ := createNew_eq_ok hnew
    exact .made hparent hlocate hfree hnew hcan

theorem stands_iff_find? (hlocate : files.locate .entry path = .ok (.entry dir name false)) :
    files.stands path = true ↔ (files.find? (name :: dir)).isSome := by
  rw [stands, hlocate]
  rfl

theorem unlink_of_find? {node : Node}
    (hlocate : files.locate .entry path = .ok (.entry dir name false))
    (hfind : files.find? (name :: dir) = some node) (hnode : node ≠ .directory) :
    files.unlink path = .ok (files.drop (name :: dir)) := by
  rw [unlink, hlocate]
  dsimp only
  rw [hfind]
  cases node with
  | directory => exact absurd rfl hnode
  | _ => rfl

theorem unlink_of_none (hlocate : files.locate .entry path = .ok (.entry dir name false))
    (hfind : files.find? (name :: dir) = none) : files.unlink path = .error .notFound := by
  rw [unlink, hlocate]
  dsimp only
  rw [hfind]

/-! ## A file in its place -/

theorem find?_put_file (files : Files) (dir : Location) (name : Text) (content : Content) :
    (files.put (name :: dir) (.file content)).find? (name :: dir) = some (.file content) := by
  rw [find?_put files (List.cons_ne_nil name dir), if_pos rfl]

section

variable (hlocate : files.locate .entry path = .ok (.entry dir name false))
  (hfree : files.find? (name :: dir) = none) (content : Content)

include hlocate hfree

theorem locate_put_file :
    (files.put (name :: dir) (.file content)).locate .entry path = .ok (.entry dir name false) :=
  (Grows.put_free hfree fun _ heq => by cases heq).locate hlocate

/-- **Removing a new file** gives the tree back that it was made in. -/
theorem unlink_put : (files.put (name :: dir) (.file content)).unlink path = .ok files := by
  have hfind := find?_put_file files dir name content
  rw [unlink_of_find? (locate_put_file hlocate hfree content) hfind nofun, drop_put hfree]

theorem stands_put : (files.put (name :: dir) (.file content)).stands path = true := by
  rw [stands_iff_find? (locate_put_file hlocate hfree content), find?_put_file]
  rfl

end

theorem openRead_of_existing (hlocate : files.locate .existing path = .ok (.entry dir name false))
    (hfind : files.find? (name :: dir) = some (.file content)) :
    files.openRead path = .ok (name :: dir) := by
  rw [openRead, hlocate]
  dsimp only
  rw [hfind]
  rfl

theorem openRead_of_file (hlocate : files.locate .entry path = .ok (.entry dir name false))
    (hfind : files.find? (name :: dir) = some (.file content)) :
    files.openRead path = .ok (name :: dir) := by
  refine openRead_of_existing (locate_existing hlocate ?_) hfind
  intro target
  rw [Spot.place, hfind]
  rintro ⟨⟩

theorem read_of_file (hfind : files.find? place = some (.file content)) :
    files.read place = .ok content.octets := by
  rw [read, hfind]

theorem readAt_of_openRead (hopen : files.openRead path = .ok place)
    (hfind : files.find? place = some (.file content)) :
    files.readAt path = .ok content.octets := by
  rw [readAt, hopen]
  exact read_of_file hfind

/-! ## Files to write -/

/-- A walk for a file to write comes to a name with no slash behind it, and to no link. -/
theorem Comes.writing {slash' : Bool}
    (h : Comes files .writing links slash place segments (.entry dir name slash')) :
    slash' = false ∧ ∀ target, files.find? (name :: dir) ≠ some (.link target) := by
  generalize hspot : Spot.entry dir name slash' = spot at h
  induction h with
  | arrived => cases hspot
  | here _ ih => exact ih hspot
  | above _ ih => exact ih hspot
  | directory _ _ _ _ ih => exact ih hspot
  | link _ _ _ _ ih => exact ih hspot
  | last _ hslash hfind =>
    cases hspot
    constructor
    · exact Bool.eq_false_iff.2 fun htrue => hslash ⟨rfl, htrue⟩
    · rcases hfind with hentry | hnolink
      · cases hentry
      · exact hnolink
  | lastLink _ _ _ _ _ ih => exact ih hspot

/-- **A file that is made or emptied** takes the place of a file, or of nothing, and there it is read
afterwards. -/
theorem create_eq_ok (h : files.create path = .ok (other, place)) :
    ∃ dir name, place = name :: dir ∧ files.locate .existing path = .ok (.entry dir name false)
      ∧ (∀ node, files.find? (name :: dir) = some node → ∃ content, node = .file content)
      ∧ other = files.put (name :: dir) (.file (.bytes [])) := by
  rw [create] at h
  rcases hlocate : files.locate .writing path with error | goal | ⟨dir, name, slash⟩
  · rw [hlocate] at h
    cases h
  · rw [hlocate] at h
    cases h
  · rw [hlocate] at h
    dsimp only at h
    split_ifs at h with hdirectory
    obtain ⟨rfl, rfl⟩ := Prod.mk.inj (Except.ok.inj h)
    obtain ⟨rfl, hnolink⟩ := (locate_eq_ok_iff.1 hlocate).2.writing
    refine ⟨dir, name, rfl, locate_existing hlocate hnolink, ?_, rfl⟩
    intro node hnode
    cases node with
    | file content => exact ⟨content, rfl⟩
    | directory => exact absurd hnode hdirectory
    | link target => exact absurd hnode (hnolink target)

end Files

end BookDatasets
