/-
  What a database engine leaves of the files around it.

  1. **Laws** — of an engine nothing is asked but `Engine.Lawful`: what it documents of the journal, the
     log and the index that it keeps beside a database.  They say nothing of a database whose journal
     or log has something in it and that may be changed: to undo or finish what is told there an engine
     may write to the database, and even remove files elsewhere (`Safe`).
  2. **What is left** — when a database is used files come, go and change beside it, and nowhere else
     (`Leaves`).  Where no link is beside it all ways through the tree stay (`Leaves.grows`).
  3. **Quiet places** — where neither journal nor log has anything in it, a database says what is in its
     file, and so it does the next time.
-/
import BookDatasets.Proofs.Files.Beside
import BookDatasets.Proofs.Files.Naming

namespace BookDatasets

namespace Files

variable {files other third : Files} {place there : Location} {access : Access}

/-! ## Beside a database -/

/-- A place beside the database of a path. -/
def IsBeside (files : Files) (path : Text) (there : Location) : Prop :=
  ∃ place ∈ files.names path, there ∈ sidecars place

instance (files : Files) (path : Text) (there : Location) : Decidable (files.IsBeside path there) :=
  inferInstanceAs (Decidable (∃ place ∈ files.names path, _))

/-- Neither journal nor log has anything in it, nor leads anywhere. -/
def AtRest (files : Files) (place : Location) : Prop :=
  ∀ there ∈ [beside logEnding place, beside journalEnding place], files.find? there = none
    ∨ files.find? there = some (.file (.bytes [])) ∨ files.find? there = some .directory

instance (files : Files) (place : Location) : Decidable (files.AtRest place) :=
  inferInstanceAs (Decidable (∀ there ∈ _, _))

/-- No link is beside a database. -/
def Linkless (files : Files) (place : Location) : Prop :=
  ∀ there ∈ sidecars place, ∀ target, files.find? there ≠ some (.link target)

instance (files : Files) (place : Location) : Decidable (files.Linkless place) :=
  decidable_of_iff (∀ there ∈ sidecars place, (files.find? there).all (fun node =>
      match node with
      | .link _ => false
      | _ => true) = true) <| by
    constructor
    · intro h there hthere target hlink
      have hall := h there hthere
      rw [hlink] at hall
      cases hall
    · intro h there hthere
      rcases hfind : files.find? there with _ | content | _ | target
      · rfl
      · rfl
      · rfl
      · exact absurd hfind (h there hthere target)

/-- Where nothing is told of a change, nothing is left to be undone or finished: because the database
cannot be changed, because journal and log have nothing in them, or because the database is empty. -/
def Safe (access : Access) (files : Files) (place : Location) : Prop :=
  access = .reading ∨ files.AtRest place ∨ files.content? place = some (.bytes [])

/-- Two trees agree on a database and on what is beside it. -/
def Agree (files other : Files) (place : Location) : Prop :=
  ∀ there, there = place ∨ there ∈ sidecars place → other.find? there = files.find? there

theorem Agree.linkless (h : Agree files other place) (hlinkless : files.Linkless place) :
    other.Linkless place := by
  intro there hthere target
  rw [h there (Or.inr hthere)]
  exact hlinkless there hthere target

theorem Agree.atRest (h : Agree files other place) (hrest : files.AtRest place) :
    other.AtRest place := by
  intro there hthere
  rw [h there (Or.inr (mem_sidecars hthere))]
  exact hrest there hthere

theorem Safe.agree (h : Safe access files place) (hagree : Agree files other place) :
    Safe access other place := by
  rcases h with hreading | hrest | hempty
  · exact Or.inl hreading
  · exact Or.inr (Or.inl (hagree.atRest hrest))
  · refine Or.inr (Or.inr ?_)
    rw [Files.content?, hagree place (Or.inl rfl)]
    exact hempty

/-! ## What is left -/

/-- Files have come, gone and changed at some places, and nowhere else. -/
structure Leaves (spots : Location → Prop) (files other : Files) : Prop where
  others : ∀ there, ¬ spots there → other.find? there = files.find? there
  within : Within other files
  directories : ∀ there, files.find? there = some .directory → other.find? there = some .directory

variable {spots spots' : Location → Prop}

theorem Leaves.refl (spots : Location → Prop) (files : Files) : Leaves spots files files :=
  ⟨fun _ _ => rfl, fun _ _ _ h => h, fun _ h => h⟩

theorem Leaves.trans (h : Leaves spots files other) (h' : Leaves spots other third) :
    Leaves spots files third :=
  ⟨fun there hspot => (h'.others there hspot).trans (h.others there hspot),
    h'.within.trans h.within, fun there hfind => h'.directories there (h.directories there hfind)⟩

theorem Leaves.mono (h : Leaves spots files other) (hspots : ∀ there, spots there → spots' there) :
    Leaves spots' files other :=
  ⟨fun there hspot => h.others there fun hthere => hspot (hspots there hthere), h.within,
    h.directories⟩

theorem Leaves.no_directory (h : Leaves spots files other)
    (hdirectory : files.find? there ≠ some .directory) : other.find? there ≠ some .directory :=
  fun hother => hdirectory (h.within there .directory (fun _ hfile => by cases hfile) hother)

/-- A file is dropped, or a link. -/
theorem leaves_drop (hspot : spots there) (hthere : there ≠ [])
    (hdirectory : files.find? there ≠ some .directory) : Leaves spots files (files.drop there) := by
  refine ⟨fun goal hgoal => ?_, within_of_drop files hthere, fun goal hgoal => ?_⟩
  · rw [find?_drop files hthere, if_neg]
    rintro rfl
    exact hgoal hspot
  · rw [find?_drop files hthere, if_neg]
    · exact hgoal
    · rintro rfl
      exact hdirectory hgoal

/-- A file is put, where no directory is. -/
theorem leaves_put (hspot : spots there) (hthere : there ≠ []) (content : Content)
    (hdirectory : files.find? there ≠ some .directory) :
    Leaves spots files (files.put there (.file content)) := by
  refine ⟨fun goal hgoal => ?_, within_of_put files hthere content, fun goal hgoal => ?_⟩
  · rw [find?_put files hthere, if_neg]
    rintro rfl
    exact hgoal hspot
  · rw [find?_put files hthere, if_neg]
    · exact hgoal
    · rintro rfl
      exact hdirectory hgoal

/-- **Where no link goes** all ways through the tree stay. -/
theorem Leaves.grows (h : Leaves spots files other)
    (hlinkless : ∀ there, spots there → ∀ target, files.find? there ≠ some (.link target)) :
    Grows files other := by
  constructor
  · intro there node hnode hfind
    by_cases hspot : spots there
    · cases node with
      | file content => exact absurd rfl (hnode content)
      | directory => exact h.directories there hfind
      | link target => exact absurd hfind (hlinkless there hspot target)
    · rw [h.others there hspot]
      exact hfind
  · intro there target hlink
    exact h.within there _ nofun hlink

/-- Where there was no file either, no file goes. -/
theorem Steady.leaves {start : Files} (hsteady : Steady start files) (h : Leaves spots files other)
    (hbare : ∀ there, spots there → start.find? there = none ∨ start.find? there = some .directory) :
    Steady start other := by
  have hlinkless : ∀ there, spots there → ∀ target, files.find? there ≠ some (.link target) := by
    intro there hspot target hlink
    have hfind := hsteady.grows.links _ _ hlink
    rcases hbare there hspot with hnone | hdirectory
    · cases hnone.symm.trans hfind
    · cases hdirectory.symm.trans hfind
  refine ⟨hsteady.grows.trans (h.grows hlinkless), fun there content hfind => ?_⟩
  obtain ⟨content', hfind'⟩ := hsteady.files there content hfind
  refine ⟨content', (h.others there fun hspot => ?_).trans hfind'⟩
  rcases hbare there hspot with hnone | hdirectory
  · cases hnone.symm.trans hfind
  · cases hdirectory.symm.trans hfind

/-! ## Without what is beside -/

/-- The tree without anything at some places. -/
def less (files : Files) (places : List Location) : Files :=
  ⟨files.nodes.filter fun entry => !places.contains entry.1⟩

theorem find?_less {places : List Location} (hthere : there ≠ []) :
    (files.less places).find? there = if there ∈ places then none else files.find? there := by
  have hlookup : ∀ nodes : List (Location × Node),
      (nodes.filter fun entry => !places.contains entry.1).lookup there
        = if there ∈ places then none else nodes.lookup there := by
    intro nodes
    induction nodes with
    | nil => simp
    | cons entry nodes ih =>
      obtain ⟨goal, node⟩ := entry
      by_cases hgoal : goal ∈ places
      · rw [List.filter_cons_of_neg (by simpa using hgoal), ih]
        split_ifs with hthere
        · rfl
        · have hne : (there == goal) = false := beq_eq_false_iff_ne.2 fun h => hthere (h ▸ hgoal)
          rw [List.lookup_cons, hne]
      · rw [List.filter_cons_of_pos (by simpa using hgoal), List.lookup_cons, List.lookup_cons, ih]
        split_ifs with hthere
        · have hne : (there == goal) = false := beq_eq_false_iff_ne.2 fun h => hgoal (h ▸ hthere)
          rw [hne]
        · rfl
  rw [find?, if_neg hthere, find?, if_neg hthere]
  exact hlookup files.nodes

/-- Where no link stands it makes no difference to what paths name that something does not. -/
theorem steady_less {places : List Location}
    (hlinkless : ∀ there ∈ places, ∀ target, files.find? there ≠ some (.link target)) :
    Steady (files.less places) files := by
  have hkeeps : ∀ there node, (files.less places).find? there = some node →
      files.find? there = some node := by
    intro there node hfind
    by_cases hroot : there = []
    · subst hroot
      exact hfind
    · rw [find?_less hroot] at hfind
      split_ifs at hfind
      exact hfind
  refine ⟨⟨fun there node _ => hkeeps there node, ?_⟩, fun there content hfind =>
    ⟨content, hkeeps there _ hfind⟩⟩
  intro there target hlink
  have hroot : there ≠ [] := ne_nil_of_find? (by rw [hlink]; exact nofun)
  rw [find?_less hroot, if_neg]
  · exact hlink
  · exact fun hthere => hlinkless there hthere target hlink

end Files

/-! ## Laws -/

open Files in
/-- What is asked of an engine. -/
structure Engine.Lawful (engine : Engine) : Prop where
  /-- Files come, go and change beside the database, and nothing else does. -/
  leaves : ∀ {access files place}, Safe access files place →
    Leaves (· ∈ sidecars place) files (engine.tend access files place).1
  /-- An empty file is a database that can be changed, if files can be made beside it. -/
  fresh : ∀ {files place}, files.content? place = some (.bytes []) →
    (∀ there ∈ sidecars place, there.head?.all Path.fits = true ∧ files.IsBlank there) →
    (engine.tend .changing files place).2 = .ok .empty
  /-- An empty file that can be changed is a database without tables, and at rest from then on. -/
  rested : ∀ {files place db}, files.content? place = some (.bytes []) → Linkless files place →
    (engine.tend .changing files place).2 = .ok db →
    db = .empty ∧ AtRest (engine.tend .changing files place).1 place
  /-- A database at rest is what its file holds. -/
  truthful : ∀ {access files place db}, AtRest files place →
    (engine.tend access files place).2 = .ok db →
    ∃ content, files.content? place = some content ∧ content.database = .ok db
  /-- A database at rest stays at rest. -/
  resting : ∀ {access files place}, AtRest files place → Linkless files place →
    AtRest (engine.tend access files place).1 place
  /-- A database at rest that was found can be found again. -/
  again : ∀ {files place db}, AtRest files place → Linkless files place →
    (engine.tend .querying files place).2 = .ok db →
    (engine.tend .querying (engine.tend .querying files place).1 place).2 = .ok db
  /-- Nothing else is looked at. -/
  alike : ∀ {access files other place}, Safe access files place → Linkless files place →
    Agree files other place →
    (engine.tend access other place).2 = (engine.tend access files place).2
      ∧ Agree (engine.tend access files place).1 (engine.tend access other place).1 place

namespace Files

variable {files other later : Files} {place there : Location} {access : Access} {engine : Engine}
  {source : Connection} {table : Text} {columns : List Text}

/-! ## Connections -/

/-- A place beside the database of a connection. -/
def IsBy (source : Connection) (there : Location) : Prop :=
  ∃ place, source = .stored place ∧ there ∈ sidecars place

/-- The use of a connection is safe. -/
def IsSafe (access : Access) (files : Files) (source : Connection) : Prop :=
  ∀ place, source = .stored place → Safe access files place

/-- No link is beside the database of a connection. -/
def IsLinkless (files : Files) (source : Connection) : Prop :=
  ∀ place, source = .stored place → Linkless files place

theorem IsLinkless.no_link (h : IsLinkless files source) :
    ∀ there, IsBy source there → ∀ target, files.find? there ≠ some (.link target) := by
  rintro there ⟨place, hsource, hthere⟩
  exact h place hsource there hthere

/-- **A database that is used** leaves all but what is beside it. -/
theorem leaves_database (hlaws : engine.Lawful) (hsafe : IsSafe access files source) :
    Leaves (IsBy source) files (files.database engine access source).1 := by
  cases source with
  | detached db => exact .refl _ files
  | stored place => exact (hlaws.leaves (hsafe place rfl)).mono fun there hthere => ⟨place, rfl, hthere⟩

/-- A query uses its database, or leaves everything as it is. -/
theorem query_eq (engine : Engine) (access : Access) (files : Files) (source : Connection)
    (table : Text) (columns : List Text) :
    (files.query engine access source table columns).1 = files
      ∨ (files.query engine access source table columns).1
        = (files.database engine access source).1 := by
  rw [query]
  split_ifs
  · exact Or.inl rfl
  · right
    rcases files.database engine access source with ⟨other, error | db⟩
    · rfl
    · rfl

/-- A query selects from the database that is found. -/
theorem query_of_database {db : Database} (htable : '\x00' ∉ table)
    (h : (files.database engine access source).2 = .ok db) :
    (files.query engine access source table columns).2 = db.select table columns := by
  rw [query, if_neg htable]
  rcases hdatabase : files.database engine access source with ⟨tended, error | found⟩
  · rw [hdatabase] at h
    cases h
  · rw [hdatabase] at h
    rw [Except.ok.inj h]

/-- Rows come from a database. -/
theorem database_of_query {rows : List Table.Fetched}
    (h : files.query engine access source table columns = (later, .ok rows)) :
    ∃ db, files.database engine access source = (later, .ok db)
      ∧ db.select table columns = .ok rows := by
  rw [query] at h
  split_ifs at h
  · cases (Prod.mk.inj h).2
  rcases hdatabase : files.database engine access source with ⟨tended, error | found⟩
  · rw [hdatabase] at h
    cases (Prod.mk.inj h).2
  · rw [hdatabase] at h
    obtain ⟨rfl, hrows⟩ := Prod.mk.inj h
    exact ⟨found, rfl, hrows⟩

/-- **A query** leaves all but what is beside its database. -/
theorem leaves_query (hlaws : engine.Lawful) (hsafe : IsSafe access files source) :
    Leaves (IsBy source) files (files.query engine access source table columns).1 := by
  rcases query_eq engine access files source table columns with hsame | hused
  · rw [hsame]
    exact .refl _ files
  · rw [hused]
    exact leaves_database hlaws hsafe

/-- What is no link stays none in a tree that has grown. -/
theorem Linkless.of_grows (h : files.Linkless place) (hgrows : Grows files other) :
    other.Linkless place :=
  fun there hthere target hlink => h there hthere target (hgrows.links there target hlink)

theorem Linkless.within (h : files.Linkless place) (hwithin : Within other files) :
    other.Linkless place :=
  fun there hthere target hlink => h there hthere target (hwithin there _ nofun hlink)

/-- **New directories** leave a database at rest. -/
theorem AtRest.extends (h : files.AtRest place) (hextends : Extends files other) :
    other.AtRest place := by
  intro there hthere
  rcases h there hthere with hnone | hempty | hdirectory
  · rcases hother : other.find? there with _ | node
    · exact Or.inl rfl
    · rcases hextends.new there node hother with hfind | rfl
      · cases hnone.symm.trans hfind
      · exact Or.inr (Or.inr rfl)
  · exact Or.inr (Or.inl (hextends.keeps _ _ hempty))
  · exact Or.inr (Or.inr (hextends.keeps _ _ hdirectory))

/-- A file that is written elsewhere leaves a database at rest, and so does an empty one. -/
theorem AtRest.put {content : Content} (h : files.AtRest place) (hthere : there ≠ [])
    (hother : there ∉ sidecars place ∨ content = .bytes []) :
    (files.put there (.file content)).AtRest place := by
  intro sidecar hsidecar
  rw [find?_put files hthere]
  split_ifs with hsame
  · rcases hother with hother | rfl
    · subst hsame
      exact absurd (mem_sidecars hsidecar) hother
    · exact Or.inr (Or.inl rfl)
  · exact h sidecar hsidecar

end Files

end BookDatasets
