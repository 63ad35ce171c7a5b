/-
  Two trees that differ in files alone.

  1. **Twins** — two trees are TWINS up to some places when everything else stands in both alike, and at
     these places there is nothing or a file, in either.  So the directories and the links are the same,
     and a path that is found in one of them is found in the other.
  2. **Refusals** — a path that is refused in one may be refused otherwise in the other: what is missing
     here is a file in the way there.  But no such path leads to a directory LATER, when a file stands
     in each of these places; and making directories fails unless it gets there.  So directories that
     can be made in one are made in the other, step by step (`createDirectories_twins`).
  3. **Databases** — a connection that avoids the places sees the same database in both, and what an
     engine does beside it, it does in both.
-/
import BookDatasets.Proofs.Files.Meeting
import BookDatasets.Proofs.Files.Tending

namespace BookDatasets

namespace Files

variable {files other later : Files} {purpose : Purpose} {links left depth : Nat}
  {slash slash' : Bool} {place goal there dir : Location} {segments : List Text} {name path : Text}
  {spot : Spot} {node : Node} {spots spots' : Location → Prop} {source : Connection}
  {engine : Engine}

/-! ## Twins -/

/-- Two trees differ at most in files, and only at some places. -/
def Twins (spots : Location → Prop) (files other : Files) : Prop :=
  ∀ place, other.find? place = files.find? place
    ∨ spots place ∧ files.IsBlank place ∧ other.IsBlank place

theorem Twins.symm (h : Twins spots files other) : Twins spots other files :=
  fun place => (h place).imp Eq.symm fun ⟨hspot, hfiles, hother⟩ => ⟨hspot, hother, hfiles⟩

theorem Twins.mono (h : Twins spots files other) (hspots : ∀ place, spots place → spots' place) :
    Twins spots' files other :=
  fun place => (h place).imp_right fun ⟨hspot, hblank⟩ => ⟨hspots place hspot, hblank⟩

theorem Twins.find? (h : Twins spots files other) (hspot : ¬ spots place) :
    other.find? place = files.find? place :=
  (h place).resolve_right fun hdiffers => hspot hdiffers.1

theorem Twins.grows (h : Twins spots files other) : Grows files other := by
  constructor
  · intro place node hnode hfind
    rcases h place with hsame | ⟨-, hblank, -⟩
    · exact hsame.trans hfind
    · obtain ⟨content, rfl⟩ := hblank node hfind
      exact absurd rfl (hnode content)
  · intro place target hfind
    rcases h place with hsame | ⟨-, -, hblank⟩
    · exact hsame.symm.trans hfind
    · exact absurd hfind (hblank.link target)

theorem Twins.blank (h : Twins spots files other) (hblank : files.IsBlank place) :
    other.IsBlank place := by
  rcases h place with hsame | ⟨-, -, hother⟩
  · rw [IsBlank, hsame]
    exact hblank
  · exact hother

theorem Twins.of_same (h : ∀ place, other.find? place = files.find? place) :
    Twins spots files other :=
  fun place => Or.inl (h place)

theorem Twins.trans (h : Twins spots files other) (h' : Twins spots other later) :
    Twins spots files later := by
  intro place
  rcases h place with hsame | ⟨hspot, hblank, hblank'⟩
  · rw [IsBlank, ← hsame]
    exact h' place
  · rcases h' place with hsame' | ⟨-, -, hlater⟩
    · refine Or.inr ⟨hspot, hblank, ?_⟩
      rw [IsBlank, hsame']
      exact hblank'
    · exact Or.inr ⟨hspot, hblank, hlater⟩

/-- A tree is a twin of itself with a file put in one of the places. -/
theorem Twins.put_one (h : Twins spots files other) (hspot : spots place)
    (hblank : files.IsBlank place) (hplace : place ≠ []) (content : Content) :
    Twins spots files (other.put place (.file content)) := by
  refine h.trans fun there => ?_
  rw [find?_put other hplace]
  split_ifs with hthere
  · subst hthere
    refine Or.inr ⟨hspot, h.blank hblank, ?_⟩
    intro node hfind
    rw [find?_put other hplace, if_pos rfl] at hfind
    exact ⟨content, (Option.some.inj hfind).symm⟩
  · exact Or.inl rfl

/-- What is put in both is the same in both. -/
theorem Twins.put (h : Twins spots files other) (hplace : place ≠ []) (node : Node) :
    Twins (fun there => spots there ∧ there ≠ place) (files.put place node)
      (other.put place node) := by
  intro there
  by_cases hthere : there = place
  · left
    rw [find?_put files hplace, find?_put other hplace, if_pos hthere, if_pos hthere]
  · have hfiles : (files.put place node).find? there = files.find? there := by
      rw [find?_put files hplace, if_neg hthere]
    have hother : (other.put place node).find? there = other.find? there := by
      rw [find?_put other hplace, if_neg hthere]
    refine (h there).imp ?_ ?_
    · intro hsame
      rw [hfiles, hother, hsame]
    · rintro ⟨hspot, hblank, hblank'⟩
      refine ⟨⟨hspot, hthere⟩, ?_, ?_⟩
      · rw [IsBlank, hfiles]
        exact hblank
      · rw [IsBlank, hother]
        exact hblank'

/-! ## Directories -/

/-- On the way to a directory nothing is seen but directories and links, also before they are made. -/
theorem Leads.passable (h : Leads later links place segments goal left) (hgrows : Grows files later)
    (hsees : Sees files links place segments there) : ¬ later.IsBlank there := by
  induction h with
  | arrived => cases hsees
  | here _ ih =>
    cases hsees with
    | here hsees => exact ih hsees
    | name hname => exact absurd rfl hname.1
    | directory hname => exact absurd rfl hname.1
    | link hname => exact absurd rfl hname.1
  | above _ ih =>
    cases hsees with
    | above hsees => exact ih hsees
    | name hname => exact absurd rfl hname.2
    | directory hname => exact absurd rfl hname.2
    | link hname => exact absurd rfl hname.2
  | directory hname hfind _ ih =>
    cases hsees with
    | here => exact absurd rfl hname.1
    | above => exact absurd rfl hname.2
    | name => exact fun hblank => hblank.directory hfind
    | directory _ _ hsees => exact ih hsees
    | link _ hlink => exact nomatch hfind.symm.trans (hgrows.within _ (.link _) nofun hlink)
  | link hname hfind _ ih =>
    cases hsees with
    | here => exact absurd rfl hname.1
    | above => exact absurd rfl hname.2
    | name => exact fun hblank => hblank.link _ hfind
    | directory _ hdirectory =>
      exact nomatch hfind.symm.trans (hgrows.within _ .directory nofun hdirectory)
    | link _ hlink hsees =>
      cases hfind.symm.trans (hgrows.within _ (.link _) nofun hlink)
      exact ih hsees

theorem leads_of_isDirectory (h : files.isDirectory path = true) :
    ∃ goal left, Leads files maxLinks [] (Path.segments path) goal left := by
  rw [isDirectory] at h
  rcases hopen : files.openRead path with error | place
  · rw [hopen] at h
    cases h
  · rw [hopen] at h
    obtain ⟨spot, -, hlocate, rfl, -⟩ := openRead_eq_ok_iff.1 hopen
    obtain ⟨left, hleads⟩ := (locate_eq_ok_iff.1 hlocate).2.leads (eq_of_beq h)
    exact ⟨spot.place, left, hleads⟩

/-- A path to a directory leads there in a tree that has grown. -/
theorem isDirectory_of_grows (hgrows : Grows files other) (h : files.isDirectory path = true) :
    other.isDirectory path = true := by
  obtain ⟨spot, hlocate⟩ := locate_of_isDirectory h
  obtain ⟨hpath, -⟩ := locate_eq_ok_iff.1 hlocate
  obtain ⟨goal, left, hleads⟩ := leads_of_isDirectory h
  exact isDirectory_of_leads hpath (hleads.within hgrows.within)

section

variable (hmeets : ∀ place, files.Meets path place → other.find? place = files.find? place)

include hmeets

theorem makeDirectory_error_of_meets {error : IoError} (h : files.makeDirectory path = .error error) :
    other.makeDirectory path = .error error := by
  have hlocate : other.locate .entry path = files.locate .entry path := locate_of_meets hmeets
  rw [makeDirectory] at h ⊢
  rw [hlocate]
  rcases hspot : files.locate .entry path with error' | goal | ⟨dir, name, slash⟩
  · rw [hspot] at h
    exact h
  · rw [hspot] at h
    exact h
  · rw [hspot] at h
    dsimp only at h ⊢
    have hsame := hmeets _ (locate_eq_ok_iff.1 hspot).2.sees
    split_ifs at h with hsome
    rw [if_pos (by rw [hsame]; exact hsome)]
    exact h

theorem makeDirectory_ok_of_meets (h : files.makeDirectory path = .ok later) :
    ∃ place, place ≠ [] ∧ later = files.put place .directory
      ∧ other.makeDirectory path = .ok (other.put place .directory) := by
  obtain ⟨dir, name, slash, hspot, hfree, rfl⟩ := makeDirectory_eq_ok h
  refine ⟨name :: dir, List.cons_ne_nil name dir, rfl, ?_⟩
  have hlocate : other.locate .entry path = files.locate .entry path := locate_of_meets hmeets
  have hsame := hmeets _ (locate_eq_ok_iff.1 hspot).2.sees
  rw [makeDirectory, hlocate, hspot]
  refine if_neg ?_
  rw [hsame, hfree]
  exact Bool.false_ne_true

end

theorem isDirectory_of_ensureDirectory (h : files.ensureDirectory path = (later, .ok ())) :
    later.isDirectory path = true := by
  rw [ensureDirectory] at h
  rcases hmake : files.makeDirectory path with error | made
  · rw [hmake] at h
    obtain ⟨rfl, hresult⟩ := Prod.mk.inj h
    by_contra hno
    rw [if_neg hno] at hresult
    cases hresult
  · rw [hmake] at h
    obtain ⟨rfl, -⟩ := Prod.mk.inj h
    exact (isDirectory_of_makeDirectory hmake).2

/-- Making a directory succeeds only if the directory is there afterwards. -/
theorem isDirectory_of_createDirectoriesWithin (hnil : path ≠ [])
    (h : files.createDirectoriesWithin (depth + 1) path = (later, .ok ())) :
    later.isDirectory path = true := by
  rcases hmake : files.makeDirectory path with error | made
  · by_cases hfound : error = .notFound
    · subst hfound
      rw [createDirectoriesWithin_succ hnil, hmake] at h
      dsimp only at h
      rcases hparent : files.createDirectoriesWithin depth (Path.parent path)
        with ⟨middle, error | ⟨⟨⟩⟩⟩
      · rw [hparent] at h
        exact nomatch (Prod.mk.inj h).2
      · rw [hparent] at h
        exact isDirectory_of_ensureDirectory h
    · rw [createDirectoriesWithin_of_error hnil hmake hfound] at h
      obtain ⟨rfl, hresult⟩ := Prod.mk.inj h
      by_contra hno
      rw [if_neg hno] at hresult
      cases hresult
  · rw [createDirectoriesWithin_succ hnil, hmake] at h
    obtain ⟨rfl, -⟩ := Prod.mk.inj h
    exact (isDirectory_of_makeDirectory hmake).2

/-- Twins agree on what a path meets that leads to a directory later. -/
theorem Twins.meets (h : Twins spots files other) (hgrows : Grows files later)
    (hblank : ∀ place, spots place → later.IsBlank place) (hdirectory : later.isDirectory path = true)
    (place : Location) (hmeets : files.Meets path place) : other.find? place = files.find? place := by
  obtain ⟨goal, left, hleads⟩ := leads_of_isDirectory hdirectory
  exact h.find? fun hspot => hleads.passable hgrows hmeets (hblank place hspot)

theorem ensureDirectory_twins (h : Twins spots files other)
    (hblank : ∀ place, spots place → later.IsBlank place)
    (hensure : files.ensureDirectory path = (later, .ok ())) :
    ∃ later', other.ensureDirectory path = (later', .ok ()) ∧ Twins spots later later' := by
  have hextends := extends_of_ensureDirectory files path
  rw [hensure] at hextends
  have hmeets := h.meets hextends.grows hblank (isDirectory_of_ensureDirectory hensure)
  rw [ensureDirectory] at hensure
  rcases hmake : files.makeDirectory path with error | made
  · rw [hmake] at hensure
    obtain ⟨rfl, hresult⟩ := Prod.mk.inj hensure
    have hdirectory : files.isDirectory path = true := by
      by_contra hno
      rw [if_neg hno] at hresult
      cases hresult
    refine ⟨other, ?_, h⟩
    rw [ensureDirectory, makeDirectory_error_of_meets hmeets hmake]
    dsimp only
    rw [if_pos (isDirectory_of_grows h.grows hdirectory)]
  · rw [hmake] at hensure
    obtain ⟨rfl, -⟩ := Prod.mk.inj hensure
    obtain ⟨place, hplace, rfl, hmake'⟩ := makeDirectory_ok_of_meets hmeets hmake
    refine ⟨other.put place .directory, ?_, (h.put hplace .directory).mono fun _ hspot => hspot.1⟩
    rw [ensureDirectory, hmake']

/-- **Directories that can be made in one tree** are made in the other. -/
theorem createDirectoriesWithin_twins (h : Twins spots files other)
    (hblank : ∀ place, spots place → later.IsBlank place)
    (hmade : files.createDirectoriesWithin depth path = (later, .ok ())) :
    ∃ later', other.createDirectoriesWithin depth path = (later', .ok ())
      ∧ Twins spots later later' := by
  induction depth generalizing path later with
  | zero =>
    obtain rfl : files = later := congrArg Prod.fst hmade
    exact ⟨other, rfl, h⟩
  | succ depth ih =>
    by_cases hnil : path = []
    · subst hnil
      obtain rfl : files = later := congrArg Prod.fst hmade
      exact ⟨other, rfl, h⟩
    have hextends := extends_of_createDirectoriesWithin files (depth + 1) path
    rw [hmade] at hextends
    have hmeets := h.meets hextends.grows hblank
      (isDirectory_of_createDirectoriesWithin hnil hmade)
    rcases hmake : files.makeDirectory path with error | made
    · have hmake' := makeDirectory_error_of_meets hmeets hmake
      by_cases hfound : error = .notFound
      · subst hfound
        rw [createDirectoriesWithin_succ hnil, hmake] at hmade
        rw [createDirectoriesWithin_succ hnil, hmake']
        dsimp only at hmade ⊢
        rcases hparent : files.createDirectoriesWithin depth (Path.parent path)
          with ⟨middle, error | ⟨⟨⟩⟩⟩
        · rw [hparent] at hmade
          exact nomatch (Prod.mk.inj hmade).2
        · rw [hparent] at hmade
          have hlast := extends_of_ensureDirectory middle path
          rw [show middle.ensureDirectory path = (later, .ok ()) from hmade] at hlast
          obtain ⟨middle', hparent', htwins⟩ :=
            ih (fun place hspot => (hblank place hspot).within hlast.grows.within) hparent
          rw [hparent']
          exact ensureDirectory_twins htwins hblank hmade
      · rw [createDirectoriesWithin_of_error hnil hmake hfound] at hmade
        obtain ⟨rfl, hresult⟩ := Prod.mk.inj hmade
        have hdirectory : files.isDirectory path = true := by
          by_contra hno
          rw [if_neg hno] at hresult
          cases hresult
        refine ⟨other, ?_, h⟩
        rw [createDirectoriesWithin_of_error hnil hmake' hfound,
          if_pos (isDirectory_of_grows h.grows hdirectory)]
    · rw [createDirectoriesWithin_succ hnil, hmake] at hmade
      obtain ⟨rfl, -⟩ := Prod.mk.inj hmade
      obtain ⟨place, hplace, rfl, hmake'⟩ := makeDirectory_ok_of_meets hmeets hmake
      refine ⟨other.put place .directory, ?_, (h.put hplace .directory).mono fun _ hspot => hspot.1⟩
      rw [createDirectoriesWithin_succ hnil, hmake']

theorem createDirectories_twins (h : Twins spots files other)
    (hblank : ∀ place, spots place → later.IsBlank place)
    (hmade : files.createDirectories path = (later, .ok ())) :
    ∃ later', other.createDirectories path = (later', .ok ()) ∧ Twins spots later later' :=
  createDirectoriesWithin_twins h hblank hmade

/-! ## Files to write -/

theorem Comes.to_writing (h : Comes files .existing links slash place segments (.entry dir name false)) :
    slash = false ∧ Comes files .writing links slash place segments (.entry dir name false) := by
  generalize hspot : Spot.entry dir name false = spot at h
  induction h with
  | arrived => cases hspot
  | here _ ih => exact ⟨(ih hspot).1, .here (ih hspot).2⟩
  | above _ ih => exact ⟨(ih hspot).1, .above (ih hspot).2⟩
  | directory hname hrest hfind _ ih =>
    exact ⟨(ih hspot).1, .directory hname hrest hfind (ih hspot).2⟩
  | link hname hrest hfind _ ih => exact ⟨(ih hspot).1, .link hname hrest hfind (ih hspot).2⟩
  | last hname _ hfind =>
    cases hspot
    exact ⟨rfl, .last hname (fun h => nomatch h.2) (Or.inr (hfind.resolve_left nofun))⟩
  | lastLink hname _ _ hfind _ ih =>
    obtain ⟨hslash, hcomes⟩ := ih hspot
    obtain ⟨rfl, -⟩ := Bool.or_eq_false_iff.1 hslash
    exact ⟨rfl, .lastLink hname (fun h => nomatch h.2) (by decide) hfind hcomes⟩

/-- **A file is made or emptied** in a blank place. -/
theorem create_of_blank (hlocate : files.locate .existing path = .ok (.entry dir name false))
    (hblank : files.IsBlank (name :: dir)) :
    files.create path = .ok (files.put (name :: dir) (.file (.bytes [])), name :: dir) := by
  obtain ⟨hpath, hcomes⟩ := locate_eq_ok_iff.1 hlocate
  rw [create, locate_eq_ok_iff.2 ⟨hpath, hcomes.to_writing.2⟩]
  exact if_neg hblank.directory

/-! ## Sources -/

/-- **A path to a source** leads there in both trees. -/
theorem Twins.openRead (h : Twins spots files other) (hopen : files.openRead path = .ok place)
    (hspot : ¬ spots place) : other.openRead path = .ok place := by
  obtain ⟨spot, node, hlocate, rfl, hnode, hslash⟩ := openRead_eq_ok_iff.1 hopen
  exact openRead_eq_ok_iff.2
    ⟨spot, node, h.grows.locate hlocate, rfl, (h.find? hspot).trans hnode, hslash⟩

/-- A name where nothing stands is free in both trees. -/
theorem Twins.free (h : Twins spots files other)
    (hspots : ∀ place, files.names path = some place → ¬ spots place)
    (hlocate : files.locate purpose path = .ok (.entry dir name slash))
    (hfree : files.find? (name :: dir) = none) : other.find? (name :: dir) = none := by
  have hname : files.names path = some (name :: dir) := by
    refine names_of_locate (.refl files) hlocate ?_
    rw [hfree]
    exact nofun
  exact (h.find? (hspots _ hname)).trans hfree

/-- **What stands** in one tree stands in the other. -/
theorem Twins.stands (h : Twins spots files other)
    (hspots : ∀ place, files.names path = some place → ¬ spots place)
    (hstands : files.stands path = true) : other.stands path = true := by
  rw [Files.stands] at hstands ⊢
  rcases hlocate : files.locate .entry path with error | goal | ⟨dir, name, slash⟩
  · rw [hlocate] at hstands
    cases hstands
  · rw [h.grows.locate hlocate]
  · rw [hlocate] at hstands
    rw [h.grows.locate hlocate]
    dsimp only at hstands ⊢
    cases slash with
    | true => exact isDirectory_of_grows h.grows hstands
    | false =>
      have hsome : (files.find? (name :: dir)).isSome = true := hstands
      rcases h (name :: dir) with hsame | ⟨hspot, hblank, -⟩
      · rw [hsame]
        exact hstands
      · -- A file stands there, so this is the place that the path names.
        have hname := names_of_locate (.refl files) hlocate hblank.link
        exact absurd hspot (hspots _ hname)

/-- What stands goes on standing in a tree that has grown, as long as a file does that the path names. -/
theorem stands_of_grows (hgrows : Grows files other)
    (hfile : ∀ place, files.names path = some place → (files.content? place).isSome →
      (other.content? place).isSome)
    (hstands : files.stands path = true) : other.stands path = true := by
  rw [Files.stands] at hstands ⊢
  rcases hlocate : files.locate .entry path with error | goal | ⟨dir, name, slash⟩
  · rw [hlocate] at hstands
    cases hstands
  · rw [hgrows.locate hlocate]
  · rw [hlocate] at hstands
    rw [hgrows.locate hlocate]
    dsimp only at hstands ⊢
    cases slash with
    | true => exact isDirectory_of_grows hgrows hstands
    | false =>
      obtain ⟨node, hfind⟩ := Option.isSome_iff_exists.1
        (show (files.find? (name :: dir)).isSome = true from hstands)
      refine Option.isSome_iff_exists.2 ?_
      cases node with
      | file content =>
        have hname := names_of_locate (.refl files) hlocate fun target hlink => by
          cases hfind.symm.trans hlink
        obtain ⟨content', hfind'⟩ := content?_isSome_iff.1
          (hfile _ hname (content?_isSome_iff.2 ⟨content, hfind⟩))
        exact ⟨_, hfind'⟩
      | directory => exact ⟨_, hgrows.within _ .directory (fun _ h => by cases h) hfind⟩
      | link target => exact ⟨_, hgrows.within _ (.link target) (fun _ h => by cases h) hfind⟩

/-- What stands goes on standing in a tree that is steady. -/
theorem Steady.stands (h : Steady files other) (hstands : files.stands path = true) :
    other.stands path = true := by
  refine stands_of_grows h.grows (fun place _ hsome => ?_) hstands
  obtain ⟨content, hfind⟩ := content?_isSome_iff.1 hsome
  exact content?_isSome_iff.2 (h.files place content hfind)

/-! ## Databases -/

theorem Twins.content? (h : Twins spots files other) (hspot : ¬ spots place) :
    other.content? place = files.content? place := by
  rw [Files.content?, Files.content?, h.find? hspot]

/-- **A name with the same seat** in both trees connects to the same database. -/
theorem Twins.connect (h : Twins spots files other) (hconnect : files.connect engine name = .ok source)
    (hseat : ∀ place, files.seat engine name = some place →
      other.seat engine name = some place ∧ ¬ spots place) :
    other.connect engine name = .ok source := by
  rcases connect_eq_ok_iff.1 hconnect with hdetached | ⟨place, hplace, hsome, rfl⟩
  · exact connect_eq_ok_iff.2 (Or.inl hdetached)
  · obtain ⟨hother, hspot⟩ := hseat place hplace
    rw [← h.content? hspot] at hsome
    exact connect_eq_ok_iff.2 (Or.inr ⟨place, hother, hsome, rfl⟩)

/-- The file of a connection is at none of the places, and neither is what is beside it. -/
def Avoids (spots : Location → Prop) (source : Connection) : Prop :=
  ∀ place, source = .stored place → ∀ there, there = place ∨ there ∈ sidecars place → ¬ spots there

theorem Twins.agree (h : Twins spots files other) (hsource : Avoids spots (.stored place)) :
    Agree files other place :=
  fun there hthere => h.find? (hsource place rfl there hthere)

section

variable {access : Access} {table : Text} {columns : List Text} (hlaws : engine.Lawful)
  (h : Twins spots files other) (hsource : Avoids spots source) (hsafe : IsSafe access files source)
  (hlinkless : IsLinkless files source)

include hlaws h hsource hsafe hlinkless

/-- **The database of a connection** is the same in both trees, and twins are left. -/
theorem Twins.database : (other.database engine access source).2 = (files.database engine access source).2
    ∧ Twins spots (files.database engine access source).1 (other.database engine access source).1 := by
  cases source with
  | detached db => exact ⟨rfl, h⟩
  | stored place =>
    have hagree := h.agree hsource
    obtain ⟨hresult, htended⟩ := hlaws.alike (hsafe place rfl) (hlinkless place rfl) hagree
    refine ⟨hresult, fun there => ?_⟩
    by_cases hthere : there ∈ sidecars place
    · exact Or.inl (htended there (Or.inr hthere))
    · have hfiles := (hlaws.leaves (hsafe place rfl)).others there hthere
      have hother := (hlaws.leaves ((hsafe place rfl).agree hagree)).others there hthere
      refine (h there).imp (fun hsame => ?_) fun ⟨hspot, hblank, hblank'⟩ => ⟨hspot, ?_, ?_⟩
      · exact hother.trans (hsame.trans hfiles.symm)
      · exact fun node hnode => hblank node (hfiles.symm.trans hnode)
      · exact fun node hnode => hblank' node (hother.symm.trans hnode)

/-- **A query** comes to the same in both trees, and twins are left. -/
theorem Twins.query :
    (other.query engine access source table columns).2
        = (files.query engine access source table columns).2
      ∧ Twins spots (files.query engine access source table columns).1
        (other.query engine access source table columns).1 := by
  obtain ⟨hresult, htwins⟩ := h.database hlaws hsource hsafe hlinkless
  rw [Files.query, Files.query]
  split_ifs
  · exact ⟨rfl, h⟩
  · rcases hfiles : files.database engine access source with ⟨tended, result⟩
    rcases hother : other.database engine access source with ⟨tended', result'⟩
    rw [hfiles, hother] at hresult htwins
    obtain rfl : result' = result := hresult
    rcases result' with error | db
    · exact ⟨rfl, htwins⟩
    · exact ⟨rfl, htwins⟩

end

end Files

end BookDatasets
