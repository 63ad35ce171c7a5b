/-
  A database is opened, or made, or removed without a trace.

  1. **A clear path** — nothing stands at the path of a database, and beside it is a file if anything
     (`Clear`).  A database that is opened was there or is made (`Finds`, `Makes`): from a clear path
     it is made or refused (`openLocal_clear`), and a file that is there is found (`openLocal_found`).
  2. **Removal** — every step drops a file, so all ways stay: the path leads to the same place after each
     step, and the last one, which removes the database itself, still finds it.  This is the invariant
     of the induction over the endings (`removeBeside_ok`).
  3. **Restored** — after the removal of a new database the path is clear, its directories are there,
     and nothing else has changed but that files beside it are gone, and what is beside the dump
     (`removeDatabase_restored`).
-/
import BookDatasets.Conversion.Database
import BookDatasets.Proofs.Files.Tending
import BookDatasets.Proofs.Procedure

namespace BookDatasets

namespace Conversion

/-- Nothing stands at the path of a database, what is beside it is a file if anything, and no name there
is too long. -/
structure Clear (path : Text) (files : Files) : Prop where
  absent : files.stands path = false
  short : ∀ ending ∈ sidecarEndings, Files.IsShort (path ++ ending)
  blank : ∀ place ∈ files.names path, ∀ there ∈ Files.sidecars place, files.IsBlank there

instance (path : Text) (files : Files) : Decidable (Clear path files) :=
  decidable_of_iff (files.stands path = false
      ∧ (∀ ending ∈ sidecarEndings, Files.IsShort (path ++ ending))
      ∧ ∀ place ∈ files.names path, ∀ there ∈ Files.sidecars place, files.IsBlank there)
    ⟨fun h => ⟨h.1, h.2.1, h.2.2⟩, fun h => ⟨h.absent, h.short, h.blank⟩⟩

section

variable {path name : Text} {files later : Files} {dir : Location} {content : Content}
  {engine : Engine} {dump : Option Text} {source : Connection}

/-! ## Beside a database -/

section

variable {ending : Text} (hending : ending ∈ sidecarEndings)

include hending

theorem plain_sidecarEnding : Path.slash ∉ ending ∧ 2 < ending.length ∧ '\x00' ∉ ending := by
  have hplain : ∀ ending ∈ sidecarEndings,
      Path.slash ∉ ending ∧ 2 < ending.length ∧ '\x00' ∉ ending := by
    decide
  exact hplain ending hending

theorem locate_sidecar (hlocate : files.locate .entry path = .ok (.entry dir name false))
    (hshort : Files.IsShort (path ++ ending)) :
    files.locate .entry (path ++ ending) = .ok (.entry dir (name ++ ending) false) := by
  obtain ⟨hslash, hlength, hnul⟩ := plain_sidecarEnding hending
  exact (Files.locate_ending hlocate hslash hlength hnul hshort).1

theorem fits_sidecar (hlocate : files.locate .entry path = .ok (.entry dir name false))
    (hshort : Files.IsShort (path ++ ending)) : Path.fits (name ++ ending) = true := by
  obtain ⟨hslash, hlength, hnul⟩ := plain_sidecarEnding hending
  exact (Files.locate_ending hlocate hslash hlength hnul hshort).2

theorem locate_sidecar_or (hlocate : files.locate .entry path = .ok (.entry dir name false)) :
    files.locate .entry (path ++ ending) = .ok (.entry dir (name ++ ending) false)
      ∨ files.locate .entry (path ++ ending) = .error .nameTooLong := by
  obtain ⟨hslash, hlength, hnul⟩ := plain_sidecarEnding hending
  exact (Files.locate_ending_or hlocate hslash hlength hnul).imp (fun h => h.2.2) And.right

end

/-- The program knows the same places beside a database as the engine. -/
theorem mem_sidecars_iff {there : Location} : there ∈ Files.sidecars (name :: dir)
    ↔ ∃ ending ∈ sidecarEndings, (name ++ ending) :: dir = there :=
  List.mem_map (f := fun ending => (name ++ ending) :: dir) (l := sidecarEndings)

theorem append_ne_of_mem_sidecarEndings {ending : Text} (hending : ending ∈ sidecarEndings) :
    (name ++ ending) :: dir ≠ name :: dir := by
  intro heq
  have hnil : ending = [] := List.append_right_eq_self.1 (List.head_eq_of_cons_eq heq)
  subst hnil
  exact absurd hending (by decide)

/-! ## Removing -/

/-- The places of a database and of files beside it. -/
def placesOf (dir : Location) (name : Text) (endings : List Text) : List Location :=
  (name :: dir) :: endings.map fun ending => (name ++ ending) :: dir

/-- A step of a removal drops what stands beside the database, if anything does. -/
theorem removeBeside_step {ending : Text} {endings : List Text}
    (hlocate : files.locate .entry (path ++ ending) = .ok (.entry dir name false))
    (hdirectory : files.find? (name :: dir) ≠ some .directory) :
    removeBeside path (ending :: endings) files
      = removeBeside path endings (files.drop (name :: dir)) := by
  rw [removeBeside]
  rcases hnode : files.find? (name :: dir) with _ | node
  · rw [Files.unlink_of_none hlocate hnode, Files.drop_of_find? hnode]
  · have hkind : node ≠ .directory := by
      rintro rfl
      exact hdirectory hnode
    rw [Files.unlink_of_find? hlocate hnode hkind]

/-- **Each step of a removal** drops a file, and the database goes last. -/
theorem removeBeside_ok {endings : List Text}
    (hendings : ∀ ending ∈ endings, ending ∈ sidecarEndings ∧ Files.IsShort (path ++ ending))
    (hlocate : files.locate .entry path = .ok (.entry dir name false))
    (hfind : files.find? (name :: dir) = some (.file content))
    (hblank : ∀ ending ∈ endings, files.IsBlank ((name ++ ending) :: dir)) :
    ∃ other, removeBeside path endings files = (other, .ok ()) ∧ Files.Grows files other
      ∧ ∀ place, other.find? place
        = if place ∈ placesOf dir name endings then none else files.find? place := by
  induction endings generalizing files with
  | nil =>
    have hplace : name :: dir ≠ [] := List.cons_ne_nil name dir
    have hself : files.IsBlank (name :: dir) := Files.isBlank_iff.2 (Or.inr ⟨content, hfind⟩)
    refine ⟨files.drop (name :: dir), ?_, .drop hself hplace, ?_⟩
    · rw [removeBeside, Files.unlink_of_find? hlocate hfind (by rintro ⟨⟩)]
    · intro place
      rw [Files.find?_drop files hplace]
      exact if_congr List.mem_singleton.symm rfl rfl
  | cons ending endings ih =>
    obtain ⟨⟨hending, hshort⟩, hendings⟩ := List.forall_mem_cons.1 hendings
    obtain ⟨hself, hblank⟩ := List.forall_mem_cons.1 hblank
    have hplace : (name ++ ending) :: dir ≠ [] := List.cons_ne_nil _ dir
    have hgrows : Files.Grows files (files.drop ((name ++ ending) :: dir)) := .drop hself hplace
    have hfind' : (files.drop ((name ++ ending) :: dir)).find? (name :: dir)
        = some (.file content) := by
      rw [Files.find?_drop files hplace,
        if_neg (Ne.symm (append_ne_of_mem_sidecarEndings hending)), hfind]
    have hblank' : ∀ ending' ∈ endings,
        (files.drop ((name ++ ending) :: dir)).IsBlank ((name ++ ending') :: dir) :=
      fun ending' hending' =>
        (hblank ending' hending').within (Files.within_of_drop files hplace)
    obtain ⟨other, hremove, hgrows', hplaces⟩ :=
      ih hendings (hgrows.locate hlocate) hfind' hblank'
    refine ⟨other, ?_, hgrows.trans hgrows', ?_⟩
    · rw [removeBeside_step (locate_sidecar hending hlocate hshort) hself.directory]
      exact hremove
    · intro place
      rw [hplaces, Files.find?_drop files hplace, ← ite_or]
      apply if_congr _ rfl rfl
      simp only [placesOf, List.map_cons, List.mem_cons]
      tauto

/-! ## A new database -/

/-- A new file can be made at a path, and beside it is a file if anything. -/
structure Free (path : Text) (files : Files) (dir : Location) (name : Text) : Prop where
  locate : files.locate .entry path = .ok (.entry dir name false)
  free : files.find? (name :: dir) = none
  short : ∀ ending ∈ sidecarEndings, Files.IsShort (path ++ ending)
  blank : ∀ there ∈ Files.sidecars (name :: dir), files.IsBlank there

/-- A path names the place where nothing stands but might. -/
theorem names_of_free (hlocate : files.locate .entry path = .ok (.entry dir name false))
    (hfree : files.find? (name :: dir) = none) : files.names path = some (name :: dir) := by
  refine Files.names_of_locate (.refl files) hlocate fun target hlink => ?_
  cases hfree.symm.trans hlink

theorem Clear.isFree (h : Clear path files)
    (hlocate : files.locate .entry path = .ok (.entry dir name false))
    (hfree : files.find? (name :: dir) = none) : Free path files dir name :=
  ⟨hlocate, hfree, h.short, h.blank _ (names_of_free hlocate hfree)⟩

/-- A place beside the database that a name stands for, if a name is given. -/
def IsBesideNamed (engine : Engine) (name : Option Text) (files : Files) (there : Location) : Prop :=
  ∃ text ∈ name, ∃ place ∈ files.seat engine text, there ∈ Files.sidecars place

instance (engine : Engine) (name : Option Text) (files : Files) (there : Location) :
    Decidable (IsBesideNamed engine name files there) :=
  inferInstanceAs (Decidable (∃ text ∈ name, ∃ place ∈ files.seat engine text, _))

/-- Nothing has changed but that files beside the database of a path may be gone, and what is beside
the dump. -/
def KeepsOthers (engine : Engine) (path : Text) (dump : Option Text) (files other : Files) : Prop :=
  ∀ place, other.find? place = files.find? place
    ∨ (other.find? place = none ∧ files.IsBeside path place)
    ∨ IsBesideNamed engine dump files place

/-- How a tree is left when the database of a path is given up: the path is clear, the directories
above it are there, and the rest has been kept. -/
structure Restored (engine : Engine) (path : Text) (dump : Option Text) (files other : Files) :
    Prop where
  clear : Clear path other
  parents : other.withParent path = other
  others : KeepsOthers engine path dump files other

/-- The places where files may come and go while a new database is seeded: its own, those beside it, and
those beside the dump. -/
def IsAround (engine : Engine) (dump : Option Text) (files : Files) (own there : Location) : Prop :=
  there = own ∨ there ∈ Files.sidecars own ∨ IsBesideNamed engine dump files there

/-- **A removed database** leaves the tree as it was before the database was made. -/
theorem removeDatabase_restored (h : Free path files dir name)
    (hlinkless : ∀ there, IsBesideNamed engine dump files there →
      ∀ target, files.find? there ≠ some (.link target))
    (hleaves : Files.Leaves (IsAround engine dump files (name :: dir)) files later)
    (hfind : later.find? (name :: dir) = some (.file content)) :
    ∃ other, removeDatabase path later = (other, .ok ())
      ∧ Restored engine path dump files other := by
  have hgrows : Files.Grows files later := by
    apply hleaves.grows
    rintro there (rfl | hbeside | hdump) target hlink
    · cases h.free.symm.trans hlink
    · exact (h.blank there hbeside).link target hlink
    · exact hlinkless there hdump target hlink
  obtain ⟨other, hremove, hless, hplaces⟩ := removeBeside_ok
    (fun ending hending => ⟨hending, h.short ending hending⟩) (hgrows.locate h.locate) hfind
    (fun ending hending =>
      (h.blank _ (mem_sidecars_iff.2 ⟨ending, hending, rfl⟩)).within hleaves.within)
  rw [show removeBeside path sidecarEndings later = removeDatabase path later from rfl] at hremove
  have hmem : ∀ {place : Location}, place ∈ placesOf dir name sidecarEndings
      ↔ place = name :: dir ∨ place ∈ Files.sidecars (name :: dir) := List.mem_cons
  have hkept := (hgrows.trans hless).locate h.locate
  have hgone : other.find? (name :: dir) = none := by
    rw [hplaces, if_pos (hmem.2 (Or.inl rfl))]
  refine ⟨other, hremove, ⟨?_, h.short, ?_⟩, ?_, ?_⟩
  · rw [← Bool.not_eq_true, Files.stands_iff_find? hkept, hgone]
    exact Bool.false_ne_true
  · intro place hplace there hthere
    cases (names_of_free hkept hgone).symm.trans hplace
    apply Files.isBlank_of_none
    rw [hplaces, if_pos (hmem.2 (Or.inr hthere))]
  · rw [Files.withParent, Files.createDirectories_parent hkept]
  · intro place
    by_cases hown : place = name :: dir
    · subst hown
      exact Or.inl (hgone.trans h.free.symm)
    by_cases hbeside : place ∈ Files.sidecars (name :: dir)
    · refine Or.inr (Or.inl ⟨?_, name :: dir, names_of_free h.locate h.free, hbeside⟩)
      rw [hplaces, if_pos (hmem.2 (Or.inr hbeside))]
    by_cases hdump : IsBesideNamed engine dump files place
    · exact Or.inr (Or.inr hdump)
    · left
      rw [hplaces, if_neg (fun hplace => (hmem.1 hplace).elim hown hbeside)]
      exact hleaves.others place fun haround =>
        haround.elim hown fun hrest => hrest.elim hbeside hdump

/-! ## Opening -/

theorem connect_ok (h : files.connect engine name = .ok source) :
    (connect engine name).ends files = (files, .ok source) := by
  apply Procedure.ends_operate_ok
  rw [h]

theorem connect_error {error : SqlError} (h : files.connect engine name = .error error) :
    (connect engine name).ends files = (files, .error (.of (.database (.sql error)))) := by
  refine Procedure.ends_operate_error ?_ (fun error => .database (.sql error)) _
  rw [h]

theorem makeDatabaseFile_of_made {made : Files} {place : Location}
    (h : files.createNew path = .ok (made, place)) :
    (makeDatabaseFile path).ends files = (made, .ok true) := by
  rw [makeDatabaseFile, Procedure.ends_bind_ok (Procedure.ends_operate_ok (by rw [h]) _ _)]
  rfl

theorem makeDatabaseFile_of_exists (h : files.createNew path = .error .fileExists) :
    (makeDatabaseFile path).ends files = (files, .ok false) := by
  rw [makeDatabaseFile, Procedure.ends_bind_ok (Procedure.ends_operate_ok (by rw [h]) _ _)]
  rfl

theorem makeDatabaseFile_of_error {error : IoError} (h : files.createNew path = .error error)
    (hexists : error ≠ .fileExists) :
    (makeDatabaseFile path).ends files = (files, .error (.of (creationCause error))) := by
  apply Procedure.ends_bind_error
  apply Procedure.ends_operate_error
  rw [h]
  cases error with
  | fileExists => exact absurd rfl hexists
  | _ => rfl

/-- What a new database is connected to: its file, or nothing but memory. -/
def IsNew (source : Connection) (place : Location) : Prop :=
  source = .detached .empty ∨ source = .stored place

/-- The database of a path is there, once the directories above it are. -/
structure Finds (engine : Engine) (path : Text) (files : Files) (source : Connection) : Prop where
  stands : (files.withParent path).stands path = true
  plain : Path.asksForDirectory path = false
  connect : (files.withParent path).connect engine path = .ok source

/-- The database of a path can be made, under the directories above it. -/
structure Makes (engine : Engine) (path : Text) (files : Files) (dir : Location) (name : Text)
    (source : Connection) : Prop where
  parent : files.createDirectories (Path.parent path) = (files.withParent path, .ok ())
  locate : (files.withParent path).locate .entry path = .ok (.entry dir name false)
  free : (files.withParent path).find? (name :: dir) = none
  connect : ((files.withParent path).put (name :: dir) (.file (.bytes []))).connect engine path
    = .ok source

theorem Finds.ends (h : Finds engine path files source) :
    (openLocal engine path).ends files = (files.withParent path, .ok (source, false)) := by
  have hmade : (makeDatabaseParent path).ends files = (files.withParent path, .ok ()) :=
    Procedure.ends_operate_ok (Files.createDirectories_of_withParent h.stands) _ _
  have hnew := Files.createNew_of_stands h.stands
  rw [if_neg (Bool.not_eq_true _ ▸ h.plain)] at hnew
  rw [openLocal, Procedure.ends_bind_ok hmade,
    Procedure.ends_bind_ok (makeDatabaseFile_of_exists hnew),
    Procedure.ends_bind_ok (connect_ok h.connect)]
  rfl

theorem Makes.ends (h : Makes engine path files dir name source) :
    (openLocal engine path).ends files
      = ((files.withParent path).put (name :: dir) (.file (.bytes [])), .ok (source, true)) := by
  have hmade : (makeDatabaseParent path).ends files = (files.withParent path, .ok ()) :=
    Procedure.ends_operate_ok h.parent _ _
  have hnew := Files.createNew_of_free h.locate h.free
  rw [openLocal, Procedure.ends_bind_ok hmade,
    Procedure.ends_bind_ok (makeDatabaseFile_of_made hnew),
    Procedure.ends_bind_ok (connect_ok h.connect)]
  rfl

/-- A new database is in its file, or it lives in memory. -/
theorem Makes.isNew (h : Makes engine path files dir name source)
    (hliteral : Files.IsLiteral engine path) : IsNew source (name :: dir) := by
  cases source with
  | detached db =>
    rcases Files.connect_eq_ok_iff.1 h.connect with ⟨-, hsource⟩ | ⟨_, -, -, hsource⟩
    · exact Or.inl hsource
    · cases hsource
  | stored place =>
    have hlocate := Files.locate_put_file h.locate h.free (.bytes [])
    have hfind := Files.find?_put_file (files.withParent path) dir name (.bytes [])
    have hnames := Files.names_of_find? hlocate hfind
    cases hnames.symm.trans (Files.names_of_connect hliteral h.connect)
    exact Or.inr rfl

/-- **A file that is there** is opened as it is. -/
theorem openLocal_found (hlocate : files.locate .entry path = .ok (.entry dir name false))
    (hfind : files.find? (name :: dir) = some (.file content)) (hresolve : engine.resolve path = .ok (some path)) :
    (openLocal engine path).ends files = (files, .ok (.stored (name :: dir), false)) := by
  have hstands : files.stands path = true := by
    rw [Files.stands_iff_find? hlocate, hfind]
    rfl
  have hparent := Files.withParent_of_stands hstands
  have hfinds : Finds engine path files (.stored (name :: dir)) := by
    refine ⟨?_, (Files.locate_entry hlocate).symm, ?_⟩
    · rw [hparent]
      exact hstands
    · rw [hparent]
      exact Files.connect_eq_stored hlocate hfind hresolve
  rw [hfinds.ends, hparent]

/-- **From a clear path** the database is made, or nothing is but the directories above it. -/
theorem openLocal_clear (hclear : Clear path (files.withParent path))
    (hresolve : engine.resolve path = .ok (some path)) :
    (¬ files.CanMake path
      ∧ ∃ failure, (openLocal engine path).ends files = (files.withParent path, .error failure))
    ∨ ∃ made dir name, (files.createDirectories (Path.parent path)).2 = .ok ()
      ∧ (files.withParent path).createNew path = .ok (made, name :: dir)
      ∧ made = (files.withParent path).put (name :: dir) (.file (.bytes []))
      ∧ Free path (files.withParent path) dir name
      ∧ (openLocal engine path).ends files = (made, .ok (.stored (name :: dir), true)) := by
  rcases Files.making_of_absent hclear.absent with
    @⟨error, hparent, hcannot⟩ | ⟨hparent, hnew, hexists, hcannot⟩ |
    @⟨dir, name, hparent, hlocate, hfree, hnew, -⟩
  · refine Or.inl ⟨hcannot, .of (creationCause error), ?_⟩
    exact Procedure.ends_bind_error (Procedure.ends_operate_error hparent _ _) _
  · have hmade : (makeDatabaseParent path).ends files = (files.withParent path, .ok ()) :=
      Procedure.ends_operate_ok hparent _ _
    rw [openLocal, Procedure.ends_bind_ok hmade]
    exact Or.inl ⟨hcannot, _,
      Procedure.ends_bind_error (makeDatabaseFile_of_error hnew hexists) _⟩
  · have hmakes : Makes engine path files dir name (.stored (name :: dir)) :=
      ⟨hparent, hlocate, hfree, Files.connect_put hlocate hfree hresolve⟩
    exact Or.inr ⟨_, dir, name, congrArg Prod.snd hparent, hnew, rfl,
      hclear.isFree hlocate hfree, hmakes.ends⟩

end

end Conversion

end BookDatasets
