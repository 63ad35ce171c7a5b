/-
  What getting a source changes, whether it succeeds or not.

  1. **Removal, in any case** — a removal may stop halfway, and a link that it drops may even block the
     way to what is left.  But whatever it drops is the database or stands beside it: a way through a
     tree with less in it is a way through the whole tree, so it comes to the same place
     (`removeBeside_shrinks`).  And a removal that gets to its end has dropped them all
     (`removeBeside_drops`): its last step finds the database, so nothing was in the way before.
  2. **Opening** — a database that is opened was there, or is one new and empty file
     (`openLocal_cases`).
  3. **Seeding** — the book table is made in the new file first, then the dump is read.  All that
     changes is this file, and what is beside it and beside the dump (`leaves_seedFrom`).  If that
     fails, the file is dropped again with what stands beside it, or the run says that it is not
     (`seedIfNew_created`).
-/
import BookDatasets.Conversion.Library
import BookDatasets.Proofs.Conversion.Database

namespace BookDatasets

namespace Files

variable {files other : Files} {path : Text}

/-- What is removed is a file or a link, found under its name. -/
theorem unlink_eq_ok (h : files.unlink path = .ok other) :
    ∃ dir name slash, files.locate .entry path = .ok (.entry dir name slash)
      ∧ other = files.drop (name :: dir) := by
  rw [unlink] at h
  rcases hlocate : files.locate .entry path with error | goal | ⟨dir, name, slash⟩
  · rw [hlocate] at h
    cases h
  · rw [hlocate] at h
    cases h
  · rw [hlocate] at h
    dsimp only at h
    refine ⟨dir, name, slash, rfl, ?_⟩
    rcases hfind : files.find? (name :: dir) with _ | content | _ | target
    · rw [hfind] at h
      cases h
    · rw [hfind] at h
      dsimp only at h
      split_ifs at h
      exact (Except.ok.inj h).symm
    · rw [hfind] at h
      cases h
    · rw [hfind] at h
      dsimp only at h
      split_ifs at h
      exact (Except.ok.inj h).symm

/-- Where a name is found and nothing can be removed for want of it, nothing stands. -/
theorem find?_of_unlink {dir : Location} {name : Text} {slash : Bool}
    (hlocate : files.locate .entry path = .ok (.entry dir name slash))
    (h : files.unlink path = .error .notFound) : files.find? (name :: dir) = none := by
  rw [unlink, hlocate] at h
  dsimp only at h
  rcases hfind : files.find? (name :: dir) with _ | content | _ | target
  · rfl
  · rw [hfind] at h
    dsimp only at h
    split_ifs at h
    cases h
  · rw [hfind] at h
    cases h
  · rw [hfind] at h
    dsimp only at h
    split_ifs at h
    cases h

end Files

namespace Conversion

variable {path name : Text} {files whole other made later : Files} {dir own : Location}
  {config : LibraryConfig} {engine : Engine} {source target origin : Connection}
  {dump : Option Text}

/-! ## Removal, in any case -/

section

/-- In a tree with less in it the path leads nowhere, or where it leads in the whole tree. -/
theorem drop_of_unlink (hwhole : whole.locate .entry path = .ok (.entry dir name false))
    (hwithin : Files.Within files whole) (h : files.unlink path = .ok other) :
    other = files.drop (name :: dir) := by
  obtain ⟨dir', name', slash, hfound, rfl⟩ := Files.unlink_eq_ok h
  cases hwhole.symm.trans (hwithin.locate_entry hfound)
  rfl

theorem drop_of_sidecar {ending : Text} (hending : ending ∈ sidecarEndings)
    (hwhole : whole.locate .entry path = .ok (.entry dir name false))
    (hwithin : Files.Within files whole) (h : files.unlink (path ++ ending) = .ok other) :
    other = files.drop ((name ++ ending) :: dir) := by
  rcases locate_sidecar_or hending hwhole with hlocate | herror
  · exact drop_of_unlink hlocate hwithin h
  · obtain ⟨dir', name', slash, hfound, -⟩ := Files.unlink_eq_ok h
    cases herror.symm.trans (hwithin.locate_entry hfound)

/-- What cannot be removed because it is missing does not stand beside the database. -/
theorem find?_of_sidecar {ending : Text} (hending : ending ∈ sidecarEndings)
    (hlocate : files.locate .entry path = .ok (.entry dir name false))
    (h : files.unlink (path ++ ending) = .error .notFound) :
    files.find? ((name ++ ending) :: dir) = none := by
  rcases locate_sidecar_or hending hlocate with hfound | herror
  · exact Files.find?_of_unlink hfound h
  · rw [Files.unlink, herror] at h
    cases h

variable {endings : List Text} (hendings : ∀ ending ∈ endings, ending ∈ sidecarEndings)
  (hlocate : whole.locate .entry path = .ok (.entry dir name false))

include hlocate hendings

/-- **A removal drops nothing** but the database and what stands beside it, also if it fails. -/
theorem removeBeside_shrinks (hwithin : Files.Within files whole) (place : Location) :
    (removeBeside path endings files).1.find? place = files.find? place
      ∨ place ∈ placesOf dir name endings
        ∧ (removeBeside path endings files).1.find? place = none := by
  induction endings generalizing files with
  | nil =>
    rw [removeBeside]
    rcases hunlink : files.unlink path with error | made
    · exact Or.inl rfl
    · obtain rfl := drop_of_unlink hlocate hwithin hunlink
      dsimp only
      rw [Files.find?_drop files (List.cons_ne_nil name dir)]
      split_ifs with hplace
      · exact Or.inr ⟨List.mem_singleton.2 hplace, rfl⟩
      · exact Or.inl rfl
  | cons ending endings ih =>
    obtain ⟨hending, hendings⟩ := List.forall_mem_cons.1 hendings
    have hmore : ∀ there ∈ placesOf dir name endings,
        there ∈ placesOf dir name (ending :: endings) := by
      intro there hthere
      rcases List.mem_cons.1 hthere with rfl | hthere
      · exact List.mem_cons_self
      · exact List.mem_cons_of_mem _ (List.mem_cons_of_mem _ hthere)
    rw [removeBeside]
    rcases hunlink : files.unlink (path ++ ending) with error | made
    · by_cases hfound : error = .notFound
      · subst hfound
        exact (ih hendings hwithin).imp_right fun h => ⟨hmore place h.1, h.2⟩
      · left
        cases error with
        | notFound => exact absurd rfl hfound
        | _ => rfl
    · have hplace : (name ++ ending) :: dir ≠ [] := List.cons_ne_nil _ dir
      obtain rfl := drop_of_sidecar hending hlocate hwithin hunlink
      dsimp only
      rcases ih hendings ((Files.within_of_drop files hplace).trans hwithin) with hsame | hgone
      · rw [hsame, Files.find?_drop files hplace]
        split_ifs with hthere
        · subst hthere
          exact Or.inr ⟨List.mem_cons_of_mem _ List.mem_cons_self, rfl⟩
        · exact Or.inl rfl
      · exact Or.inr ⟨hmore place hgone.1, hgone.2⟩

/-- **A removal that gets to its end** has found the database all the way, and has dropped it and
whatever stood beside it. -/
theorem removeBeside_drops (hwithin : Files.Within files whole)
    (h : removeBeside path endings files = (other, .ok ())) :
    files.locate .entry path = .ok (.entry dir name false)
      ∧ ∀ place ∈ placesOf dir name endings, other.find? place = none := by
  induction endings generalizing files with
  | nil =>
    rw [removeBeside] at h
    rcases hunlink : files.unlink path with error | made
    · rw [hunlink] at h
      cases h
    · rw [hunlink] at h
      obtain rfl : made = other := (Prod.mk.inj h).1
      obtain ⟨dir', name', slash, hfound, rfl⟩ := Files.unlink_eq_ok hunlink
      cases hlocate.symm.trans (hwithin.locate_entry hfound)
      refine ⟨hfound, ?_⟩
      intro place hplace
      rw [Files.find?_drop files (List.cons_ne_nil name dir), if_pos (List.mem_singleton.1 hplace)]
  | cons ending endings ih =>
    obtain ⟨hending, hendings'⟩ := List.forall_mem_cons.1 hendings
    have hplace : (name ++ ending) :: dir ≠ [] := List.cons_ne_nil _ dir
    -- What is gone after the first step stays gone.
    have hlater : ∀ {left : Files}, removeBeside path endings left = (other, .ok ()) →
        Files.Within left whole → left.find? ((name ++ ending) :: dir) = none →
        (∀ place ∈ placesOf dir name endings, other.find? place = none) →
        ∀ place ∈ placesOf dir name (ending :: endings), other.find? place = none := by
      intro left hremove hleft hgone hplaces place hmem
      have hcases : place = (name ++ ending) :: dir ∨ place ∈ placesOf dir name endings := by
        simp only [placesOf, List.map_cons, List.mem_cons] at hmem ⊢
        tauto
      rcases hcases with rfl | hmem
      · rcases removeBeside_shrinks hendings' hlocate hleft ((name ++ ending) :: dir)
          with hsame | ⟨-, hnone⟩
        · rw [hremove] at hsame
          exact hsame.trans hgone
        · rw [hremove] at hnone
          exact hnone
      · exact hplaces place hmem
    rw [removeBeside] at h
    rcases hunlink : files.unlink (path ++ ending) with error | made
    · by_cases hfound : error = .notFound
      · subst hfound
        rw [hunlink] at h
        obtain ⟨hfiles, hplaces⟩ := ih hendings' hwithin h
        exact ⟨hfiles, hlater h hwithin (find?_of_sidecar hending hfiles hunlink) hplaces⟩
      · rw [hunlink] at h
        cases error with
        | notFound => exact absurd rfl hfound
        | _ => cases h
    · rw [hunlink] at h
      have hless := Files.within_of_drop files hplace
      obtain rfl := drop_of_sidecar hending hlocate hwithin hunlink
      obtain ⟨hfiles, hplaces⟩ := ih hendings' (hless.trans hwithin) h
      refine ⟨hless.locate_entry hfiles, hlater h (hless.trans hwithin) ?_ hplaces⟩
      rw [Files.find?_drop files hplace, if_pos rfl]

end

/-- Nothing has changed but that files beside the database of a path may be gone, and what is beside the
dump; and if the database could not be removed, it may be left with what is beside it. -/
def Cleared (engine : Engine) (path : Text) (dump : Option Text) (files other : Files)
    (stuck : Prop) : Prop :=
  ∀ place, other.find? place = files.find? place
    ∨ (files.IsBeside path place ∧ (other.find? place = none ∨ stuck))
    ∨ (stuck ∧ files.names path = some place)
    ∨ IsBesideNamed engine dump files place

theorem Cleared.imp {stuck stuck' : Prop} (h : Cleared engine path dump files other stuck)
    (himp : stuck → stuck') : Cleared engine path dump files other stuck' :=
  fun place => (h place).imp_right fun h => h.imp
    (fun ⟨hbeside, hgone⟩ => ⟨hbeside, hgone.imp_right himp⟩)
    fun h => h.imp_left fun ⟨hstuck, hown⟩ => ⟨himp hstuck, hown⟩

/-- **A new database that is removed**, or is to be removed. -/
theorem removeDatabase_cleared {result : Except IoError Unit}
    (hlocate : files.locate .entry path = .ok (.entry dir name false))
    (hfree : files.find? (name :: dir) = none)
    (hleaves : Files.Leaves (IsAround engine dump files (name :: dir)) files later)
    (h : removeDatabase path later = (other, result)) :
    Cleared engine path dump files other (∃ error, result = .error error) := by
  have hnames := names_of_free hlocate hfree
  have hremoved : result = .ok () → ∀ place ∈ placesOf dir name sidecarEndings,
      other.find? place = none := by
    rintro rfl
    exact (removeBeside_drops (fun _ hending => hending) hlocate hleaves.within h).2
  have hstuck : result ≠ .ok () → ∃ error, result = .error error := by
    intro hfailed
    rcases result with error | ⟨⟨⟩⟩
    · exact ⟨error, rfl⟩
    · exact absurd rfl hfailed
  intro place
  by_cases hown : place = name :: dir
  · subst hown
    by_cases hok : result = .ok ()
    · exact Or.inl ((hremoved hok _ List.mem_cons_self).trans hfree.symm)
    · exact Or.inr (Or.inr (Or.inl ⟨hstuck hok, hnames⟩))
  by_cases hbeside : place ∈ Files.sidecars (name :: dir)
  · refine Or.inr (Or.inl ⟨⟨_, hnames, hbeside⟩, ?_⟩)
    by_cases hok : result = .ok ()
    · exact Or.inl (hremoved hok _ (List.mem_cons_of_mem _ hbeside))
    · exact Or.inr (hstuck hok)
  by_cases hdump : IsBesideNamed engine dump files place
  · exact Or.inr (Or.inr (Or.inr hdump))
  left
  have hshrinks := removeBeside_shrinks (fun _ hending => hending) hlocate hleaves.within place
  rw [show removeBeside path sidecarEndings later = (other, result) from h] at hshrinks
  rcases hshrinks with hsame | ⟨hmem, -⟩
  · exact hsame.trans (hleaves.others place fun haround =>
      haround.elim hown fun hrest => hrest.elim hbeside hdump)
  · exact absurd hmem (List.not_mem_cons_of_ne_of_not_mem hown hbeside)

/-! ## Opening -/

/-- **A database is opened** that is there, or that is made; or it is not, and then at most the
directories above it are new, and its file. -/
theorem openLocal_cases (engine : Engine) (path : Text) (files : Files) :
    (∃ failure, (openLocal engine path).ends files = (files.withParent path, .error failure))
      ∨ (∃ source, Finds engine path files source)
      ∨ (∃ dir name source, Makes engine path files dir name source)
      ∨ ∃ dir name error failure, (files.withParent path).locate .entry path = .ok (.entry dir name false)
        ∧ (files.withParent path).find? (name :: dir) = none
        ∧ ((files.withParent path).put (name :: dir) (.file (.bytes []))).connect engine path
          = .error error
        ∧ (openLocal engine path).ends files
          = ((files.withParent path).put (name :: dir) (.file (.bytes [])), .error failure) := by
  rcases hstands : (files.withParent path).stands path with _ | _
  · rcases Files.making_of_absent hstands with
      @⟨error, hparent, -⟩ | ⟨hparent, hnew, hexists, -⟩ | @⟨dir, name, hparent, hlocate, hfree, hnew, -⟩
    · exact Or.inl ⟨_, Procedure.ends_bind_error (Procedure.ends_operate_error hparent _ _) _⟩
    · have hmade : (makeDatabaseParent path).ends files = (files.withParent path, .ok ()) :=
        Procedure.ends_operate_ok hparent _ _
      rw [openLocal, Procedure.ends_bind_ok hmade]
      exact Or.inl ⟨_, Procedure.ends_bind_error (makeDatabaseFile_of_error hnew hexists) _⟩
    · rcases hconnect : ((files.withParent path).put (name :: dir) (.file (.bytes []))).connect engine path
        with error | source
      · have hmade : (makeDatabaseParent path).ends files = (files.withParent path, .ok ()) :=
          Procedure.ends_operate_ok hparent _ _
        refine Or.inr (Or.inr (Or.inr ⟨dir, name, error, .of (.database (.sql error)), hlocate, hfree,
          hconnect, ?_⟩))
        rw [openLocal, Procedure.ends_bind_ok hmade,
          Procedure.ends_bind_ok (makeDatabaseFile_of_made hnew)]
        exact Procedure.ends_bind_error (connect_error hconnect) _
      · exact Or.inr (Or.inr (Or.inl ⟨dir, name, source, hparent, hlocate, hfree, hconnect⟩))
  · have hmade : (makeDatabaseParent path).ends files = (files.withParent path, .ok ()) :=
      Procedure.ends_operate_ok (Files.createDirectories_of_withParent hstands) _ _
    have hnew := Files.createNew_of_stands hstands
    rcases hasks : Path.asksForDirectory path with _ | _
    · rw [if_neg (Bool.not_eq_true _ ▸ hasks)] at hnew
      rcases hconnect : (files.withParent path).connect engine path with error | source
      · rw [openLocal, Procedure.ends_bind_ok hmade,
          Procedure.ends_bind_ok (makeDatabaseFile_of_exists hnew)]
        exact Or.inl ⟨_, Procedure.ends_bind_error (connect_error hconnect) _⟩
      · exact Or.inr (Or.inl ⟨source, hstands, hasks, hconnect⟩)
    · rw [if_pos hasks] at hnew
      rw [openLocal, Procedure.ends_bind_ok hmade]
      exact Or.inl ⟨_, Procedure.ends_bind_error (makeDatabaseFile_of_error hnew (by rintro ⟨⟩)) _⟩

/-! ## Copying -/

section

variable {made read : Files} {ready : Connection} {db : Database}
  {rows : Except SqlError (List Table.Fetched)} {batchSize count : Nat}

/-- **A book table that is made** is stored in its database. -/
theorem makeBooks_eq_ok_iff :
    makeBooks engine target files = (made, .ok (ready, db))
      ↔ ∃ tended found, files.database engine .changing target = (tended, .ok found)
        ∧ found.make Table.book = .ok db ∧ tended.store target db = (made, ready) := by
  rw [makeBooks]
  rcases files.database engine .changing target with ⟨tended, error | found⟩
  · constructor
    · intro h
      cases (Prod.mk.inj h).2
    · rintro ⟨_, _, h, -⟩
      cases (Prod.mk.inj h).2
  dsimp only
  rcases hmake : found.make Table.book with error | booked
  · constructor
    · intro h
      cases (Prod.mk.inj h).2
    · rintro ⟨_, _, ⟨⟩, h, -⟩
      cases hmake.symm.trans h
  · constructor
    · intro h
      obtain ⟨rfl, hready⟩ := Prod.mk.inj h
      cases hready
      exact ⟨tended, found, rfl, hmake, rfl⟩
    · rintro ⟨_, _, ⟨⟩, h, hstore⟩
      cases hmake.symm.trans h
      dsimp only
      rw [hstore]

/-- A database without a book table is not copied to. -/
theorem copyDump_refused {error : SqlError} (h : makeBooks engine target files = (made, .error error)) :
    (copyDump engine origin target batchSize).ends files
      = (made, .error (.of (.database (.sql error)))) := by
  rw [Procedure.ends, copyDump, h]

/-- The dump is read when there is a book table, and what comes of it is stored. -/
theorem copyDump_ready (h : makeBooks engine target files = (made, .ok (ready, db)))
    (hquery : made.query engine .reading origin Library.dumpName Library.dumpColumns = (read, rows)) :
    (copyDump engine origin target batchSize).ends files
      = ((read.store ready (Library.copyAll rows db batchSize).database).1,
        match (Library.copyAll rows db batchSize).result with
        | .ok count => .ok ((read.store ready (Library.copyAll rows db batchSize).database).2, count)
        | .error error => .error (.of (.database (.sql error)))) := by
  rw [Procedure.ends, copyDump, h]
  dsimp only
  rw [hquery]
  dsimp only
  rcases (Library.copyAll rows db batchSize).result with error | count
  · rfl
  · rfl

/-- **A copy that succeeds** has read the dump and stored what came of it. -/
theorem copyDump_eq_ok_iff :
    (copyDump engine origin target batchSize).ends files = (later, .ok (source, count))
      ↔ ∃ made ready db read rows, makeBooks engine target files = (made, .ok (ready, db))
        ∧ made.query engine .reading origin Library.dumpName Library.dumpColumns = (read, rows)
        ∧ (Library.copyAll rows db batchSize).result = .ok count
        ∧ read.store ready (Library.copyAll rows db batchSize).database = (later, source) := by
  rcases hready : makeBooks engine target files with ⟨made, error | ⟨ready, db⟩⟩
  · rw [copyDump_refused hready]
    constructor
    · intro h
      cases (Prod.mk.inj h).2
    · rintro ⟨_, _, _, _, _, h, -⟩
      cases (Prod.mk.inj h).2
  · rcases hquery : made.query engine .reading origin Library.dumpName Library.dumpColumns
      with ⟨read, rows⟩
    rw [copyDump_ready hready hquery]
    rcases hresult : (Library.copyAll rows db batchSize).result with error | copied
    · constructor
      · intro h
        cases (Prod.mk.inj h).2
      · rintro ⟨_, _, _, _, _, h, hquery', hcount, -⟩
        cases h
        cases hquery.symm.trans hquery'
        cases hresult.symm.trans hcount
    · constructor
      · intro h
        obtain ⟨hlater, hvalue⟩ := Prod.mk.inj h
        obtain ⟨hsource, rfl⟩ := Prod.mk.inj (Except.ok.inj hvalue)
        exact ⟨made, ready, db, read, rows, rfl, hquery, hresult, Prod.ext hlater hsource⟩
      · rintro ⟨_, _, _, _, _, h, hquery', hcount, hstore⟩
        cases h
        cases hquery.symm.trans hquery'
        cases hresult.symm.trans hcount
        rw [hstore]

end

/-! ## Successes -/

theorem connect_eq_ok_iff :
    (connect engine path).ends files = (later, .ok source) ↔ later = files ∧ files.connect engine path = .ok source := by
  rw [connect, Procedure.ends_operate_eq_ok]
  constructor
  · intro h
    exact ⟨(Prod.mk.inj h).1.symm, (Prod.mk.inj h).2⟩
  · rintro ⟨rfl, h⟩
    rw [h]

theorem seedFrom_eq_ok_iff {dump : Text} {batchSize : Nat} {value : Connection × Nat} :
    (seedFrom engine dump source batchSize).ends files = (later, .ok value)
      ↔ ∃ origin, files.connect engine dump = .ok origin
        ∧ (copyDump engine origin source batchSize).ends files = (later, .ok value) := by
  rw [seedFrom, Procedure.ends_bind_eq_ok]
  constructor
  · rintro ⟨middle, origin, hconnect, hcopy⟩
    obtain ⟨rfl, hconnect⟩ := connect_eq_ok_iff.1 (Procedure.ends_within_eq_ok.1 hconnect)
    exact ⟨origin, hconnect, Procedure.ends_within_eq_ok.1 hcopy⟩
  · rintro ⟨origin, hconnect, hcopy⟩
    exact ⟨files, origin, Procedure.ends_within_eq_ok.2 (connect_eq_ok_iff.2 ⟨rfl, hconnect⟩),
      Procedure.ends_within_eq_ok.2 hcopy⟩

theorem seedNew_eq_ok_iff {dump : Text} {batchSize : Nat} {value : Connection × Nat} :
    (seedNew engine path dump source batchSize).ends files = (later, .ok value)
      ↔ (seedFrom engine dump source batchSize).ends files = (later, .ok value) := by
  rw [seedNew, Procedure.ends_bind_ok (Procedure.ends_report _ files)]
  rcases hseed : (seedFrom engine dump source batchSize).ends files with ⟨middle, failure | seeded⟩
  · rw [Procedure.ends_bind_ok (Procedure.ends_attempt hseed)]
    constructor
    · intro h
      obtain ⟨_, _, -, hfail⟩ := Procedure.ends_bind_eq_ok.1 h
      cases (Prod.mk.inj hfail).2
    · intro h
      cases (Prod.mk.inj h).2
  · rw [Procedure.ends_bind_ok (Procedure.ends_attempt hseed)]
    exact Iff.rfl

/-- **A new database is seeded** by a copy of its dump. -/
theorem seedIfNew_eq_ok_iff {config : LibraryConfig} {seeded : Option Nat} :
    (seedIfNew engine config source true).ends files = (later, .ok (target, seeded))
      ↔ ∃ dump origin count, config.dump = some dump ∧ files.connect engine dump = .ok origin
        ∧ (copyDump engine origin source config.batchSize).ends files = (later, .ok (target, count))
        ∧ seeded = some count := by
  unfold seedIfNew
  rcases config.dump with _ | dump
  · constructor
    · intro h
      obtain ⟨_, _, -, hfail⟩ := Procedure.ends_bind_eq_ok.1 h
      exact nomatch (Prod.mk.inj hfail).2
    · rintro ⟨_, _, _, hdump, -⟩
      cases hdump
  · dsimp only
    rw [Procedure.ends_bind_eq_ok]
    constructor
    · rintro ⟨middle, ⟨target', count⟩, hseed, hvalue⟩
      rw [Procedure.ends_pure] at hvalue
      cases hvalue
      obtain ⟨origin, hconnect, hcopy⟩ := seedFrom_eq_ok_iff.1 (seedNew_eq_ok_iff.1 hseed)
      exact ⟨dump, origin, count, rfl, hconnect, hcopy, rfl⟩
    · rintro ⟨_, origin, count, ⟨⟩, hconnect, hcopy, rfl⟩
      exact ⟨later, (target, count),
        seedNew_eq_ok_iff.2 (seedFrom_eq_ok_iff.2 ⟨origin, hconnect, hcopy⟩), rfl⟩

/-! ## Seeding -/

theorem isSafe_reading (files : Files) (source : Connection) :
    Files.IsSafe .reading files source :=
  fun _ _ => Or.inl rfl

/-- Nothing is told of a change to a new database. -/
theorem IsNew.isSafe (h : IsNew target own) (hempty : files.content? own = some (.bytes [])) :
    Files.IsSafe .changing files target := by
  intro place htarget
  rcases h with rfl | rfl
  · cases htarget
  · cases htarget
    exact Or.inr (Or.inr hempty)

theorem IsNew.isBy {there : Location} (h : IsNew target own) (hby : Files.IsBy target there) :
    there ∈ Files.sidecars own := by
  obtain ⟨place, htarget, hthere⟩ := hby
  rcases h with rfl | rfl
  · cases htarget
  · cases htarget
    exact hthere

/-- A connection's database is in one place, if it is in a file. -/
def IsAt (source : Connection) (own : Location) : Prop := ∀ place, source = .stored place → place = own

theorem IsNew.isAt (h : IsNew target own) : IsAt target own := by
  intro place htarget
  rcases h with rfl | rfl
  · cases htarget
  · exact (Connection.stored.inj htarget).symm

theorem IsAt.store (h : IsAt target own) (db : Database) : IsAt (files.store target db).2 own := by
  cases target with
  | detached => exact nofun
  | stored place => exact h

/-- A place with an empty file is not the root, and no directory. -/
theorem place_of_empty (hempty : files.content? own = some (.bytes [])) :
    own ≠ [] ∧ files.find? own ≠ some .directory := by
  constructor
  · rintro rfl
    cases hempty
  · intro hdirectory
    rw [Files.content?, hdirectory] at hempty
    cases hempty

/-- The connection to a database goes with the database, whatever the tree. -/
theorem store_eq (files other : Files) (target : Connection) (db : Database) :
    other.store target db = ((other.store target db).1, (files.store target db).2) := by
  cases target <;> rfl

/-- The book table of a new database is where the new database was. -/
theorem IsNew.isAt_books {ready : Connection} {db : Database} (h : IsNew target own)
    (hmake : makeBooks engine target files = (made, .ok (ready, db))) : IsAt ready own := by
  obtain ⟨_, _, -, -, hstore⟩ := makeBooks_eq_ok_iff.1 hmake
  obtain ⟨rfl, rfl⟩ := Prod.mk.inj hstore
  exact h.isAt.store db

theorem IsAt.leaves_store (h : IsAt target own) (hown : own ≠ [])
    (hdirectory : files.find? own ≠ some .directory) (db : Database) :
    Files.Leaves (· = own) files (files.store target db).1 := by
  cases target with
  | detached => exact .refl _ files
  | stored place =>
    obtain rfl := h place rfl
    refine Files.leaves_put ?_ hown _ hdirectory
    rfl

/-- What is beside the database that a dump's name connects to is beside the dump. -/
theorem isBesideNamed_of_connect {text : Text} {there : Location} (hsteady : Files.Steady files made)
    (hconnect : made.connect engine text = .ok origin) (hby : Files.IsBy origin there) :
    IsBesideNamed engine (some text) files there := by
  obtain ⟨place, rfl, hthere⟩ := hby
  exact ⟨text, rfl, place, hsteady.seat (Files.seat_of_connect hconnect).1, hthere⟩

section

variable {ready : Connection} {db : Database} (hlaws : engine.Lawful)

include hlaws

/-- **The book table of a new database** is made in its file, and files come and go beside it. -/
theorem leaves_makeBooks (hnew : IsNew target own) (hempty : files.content? own = some (.bytes [])) :
    Files.Leaves (fun there => there = own ∨ there ∈ Files.sidecars own) files
      (makeBooks engine target files).1 := by
  obtain ⟨hown, hdirectory⟩ := place_of_empty hempty
  have htend : Files.Leaves (fun there => there = own ∨ there ∈ Files.sidecars own) files
      (files.database engine .changing target).1 :=
    (Files.leaves_database hlaws (hnew.isSafe hempty)).mono fun _ hby => Or.inr (hnew.isBy hby)
  rw [makeBooks]
  rcases hdatabase : files.database engine .changing target with ⟨tended, error | found⟩
  · rw [hdatabase] at htend
    exact htend
  rw [hdatabase] at htend
  dsimp only
  rcases found.make Table.book with error | db
  · exact htend
  · exact htend.trans ((hnew.isAt.leaves_store hown (htend.no_directory hdirectory) db).mono
      fun _ hthere => Or.inl hthere)

/-- The database with a new book table is at rest. -/
theorem makeBooks_rests (hnew : IsNew target own) (hempty : files.content? own = some (.bytes []))
    (hlinkless : files.Linkless own) (h : makeBooks engine target files = (made, .ok (ready, db))) :
    ∀ place, ready = .stored place → made.AtRest own := by
  obtain ⟨hown, -⟩ := place_of_empty hempty
  obtain ⟨tended, found, htend, -, hstore⟩ := makeBooks_eq_ok_iff.1 h
  obtain ⟨rfl, rfl⟩ := Prod.mk.inj hstore
  rcases hnew with rfl | rfl
  · exact nofun
  rintro _ ⟨⟩
  have hrest := (hlaws.rested hempty hlinkless (congrArg Prod.snd htend)).2
  rw [show (engine.tend .changing files own).1 = tended from congrArg Prod.fst htend] at hrest
  exact hrest.put hown (Or.inl fun hthere => Files.ne_of_mem_sidecars hown hthere rfl)

/-- **A copy into a new database** changes its file, and what is beside it and beside the dump. -/
theorem leaves_copyDump (hnew : IsNew target own) (hempty : files.content? own = some (.bytes []))
    (origin : Connection) (batchSize : Nat) :
    Files.Leaves (fun there => there = own ∨ there ∈ Files.sidecars own ∨ Files.IsBy origin there)
      files ((copyDump engine origin target batchSize).ends files).1 := by
  obtain ⟨hown, hdirectory⟩ := place_of_empty hempty
  have hfirst : Files.Leaves
      (fun there => there = own ∨ there ∈ Files.sidecars own ∨ Files.IsBy origin there) files
      (makeBooks engine target files).1 :=
    (leaves_makeBooks hlaws hnew hempty).mono fun _ hthere => hthere.imp_right Or.inl
  rcases hmake : makeBooks engine target files with ⟨made, error | ⟨ready, db⟩⟩
  · rw [copyDump_refused hmake]
    rw [hmake] at hfirst
    exact hfirst
  rw [hmake] at hfirst
  have hsecond : Files.Leaves (Files.IsBy origin) made
      (made.query engine .reading origin Library.dumpName Library.dumpColumns).1 :=
    Files.leaves_query hlaws (isSafe_reading made origin)
  rcases hquery : made.query engine .reading origin Library.dumpName Library.dumpColumns
    with ⟨read, rows⟩
  rw [hquery] at hsecond
  have hread := hfirst.trans (hsecond.mono fun _ hby => Or.inr (Or.inr hby))
  rw [copyDump_ready hmake hquery]
  exact hread.trans (((hnew.isAt_books hmake).leaves_store hown (hread.no_directory hdirectory) _).mono
    fun _ hthere => Or.inl hthere)

omit hlaws in
theorem leaves_made (engine : Engine) (dump : Option Text)
    (hfree : files.find? (name :: dir) = none) :
    Files.Leaves (IsAround engine dump files (name :: dir)) files
      (files.put (name :: dir) (.file (.bytes []))) := by
  refine Files.leaves_put (Or.inl rfl) (List.cons_ne_nil name dir) _ fun hdirectory => ?_
  cases hfree.symm.trans hdirectory

/-- **A new database that was copied into** is at rest. -/
theorem copyDump_rests {batchSize count : Nat} (hnew : IsNew target own)
    (hempty : files.content? own = some (.bytes [])) (hlinkless : files.Linkless own)
    (horigin : ∀ place, origin = .stored place → place ≠ [])
    (h : (copyDump engine origin target batchSize).ends files = (later, .ok (source, count))) :
    IsAt source own ∧ ∀ place, source = .stored place → later.AtRest own := by
  obtain ⟨hown, -⟩ := place_of_empty hempty
  obtain ⟨made, ready, db, read, rows, hmake, hquery, -, hstore⟩ := copyDump_eq_ok_iff.1 h
  have hat := hnew.isAt_books hmake
  obtain ⟨rfl, rfl⟩ := Prod.mk.inj hstore
  refine ⟨hat.store _, ?_⟩
  rcases ready with _ | ready
  · exact nofun
  rintro _ -
  obtain rfl := hat ready rfl
  have hrest := makeBooks_rests hlaws hnew hempty hlinkless hmake ready rfl
  have hleaves := leaves_makeBooks hlaws hnew hempty
  rw [hmake] at hleaves
  have hlinkless' : made.Linkless ready := hlinkless.within hleaves.within
  refine Files.AtRest.put ?_ hown (Or.inl fun hthere => Files.ne_of_mem_sidecars hown hthere rfl)
  -- The dump may be the new database itself.
  rcases Files.query_eq engine .reading made origin Library.dumpName Library.dumpColumns
    with hsame | hused
  · rw [hquery] at hsame
    rw [show read = made from hsame]
    exact hrest
  rw [hquery] at hused
  rw [show read = (made.database engine .reading origin).1 from hused]
  cases origin with
  | detached db => exact hrest
  | stored place =>
    by_cases hplace : place = ready
    · subst hplace
      exact hlaws.resting hrest hlinkless'
    · intro there hthere
      have hbeside := Files.not_mem_sidecars hown (horigin place rfl) (Ne.symm hplace)
        (Files.mem_sidecars hthere)
      rw [Files.database, (hlaws.leaves (Or.inl rfl)).others there hbeside]
      exact hrest there hthere

/-- **While a new database is seeded** its file changes, and what is beside it and beside the dump. -/
theorem leaves_seedFrom (hnew : IsNew target (name :: dir)) (hfree : files.find? (name :: dir) = none)
    (text : Text) (batchSize : Nat) :
    Files.Leaves (IsAround engine (some text) files (name :: dir)) files
      ((seedFrom engine text target batchSize).ends
        (files.put (name :: dir) (.file (.bytes [])))).1 := by
  have hmade := leaves_made engine (some text) hfree
  rcases hconnect : (files.put (name :: dir) (.file (.bytes []))).connect engine text
    with error | origin
  · rw [seedFrom, Procedure.ends_bind_error (Procedure.ends_within_error (connect_error hconnect) _)]
    exact hmade
  · rw [seedFrom, Procedure.ends_bind_ok (Procedure.ends_within_ok (connect_ok hconnect) _),
      Procedure.fst_ends_within]
    refine hmade.trans ((leaves_copyDump hlaws hnew ?_ origin batchSize).mono fun there hthere => ?_)
    · rw [Files.content?, Files.find?_put_file]
    · exact hthere.imp_right fun hrest => hrest.imp_right
        (isBesideNamed_of_connect (.put_free hfree _) hconnect)

end

/-- The run says that it could not remove the database that it made. -/
def IsStuck (path : Text) (events : List Log.Event) (failure : Failure) : Prop :=
  (∃ event ∈ events, event.level = .warn)
    ∨ failure.contexts.head? = some (.removingEmpty path)

/-- **A new database is seeded**, or it is removed again, or the run says that it is not. -/
theorem seedIfNew_created (hlaws : engine.Lawful)
    (hlocate : files.locate .entry config.database = .ok (.entry dir name false))
    (hfree : files.find? (name :: dir) = none) (hnew : IsNew target (name :: dir)) :
    (∃ last value, (seedIfNew engine config target true).ends
        (files.put (name :: dir) (.file (.bytes []))) = (last, .ok value)
      ∧ Files.Leaves (IsAround engine config.dump files (name :: dir)) files last)
    ∨ ∃ other failure, (seedIfNew engine config target true).ends
        (files.put (name :: dir) (.file (.bytes []))) = (other, .error failure)
      ∧ Cleared engine config.database config.dump files other (IsStuck config.database
        (seedIfNew engine config target true (files.put (name :: dir) (.file (.bytes [])))).events
        failure) := by
  unfold seedIfNew
  rcases config.dump with _ | dump
  · right
    dsimp only
    have hmade := leaves_made engine none hfree
    rcases hremove : removeDatabase config.database (files.put (name :: dir) (.file (.bytes [])))
      with ⟨other, error | ⟨⟨⟩⟩⟩
    · have hends : (abandon config.database).ends _ = _ := Procedure.ends_bind_error
        (Procedure.ends_within_error (Procedure.ends_operate_error hremove Cause.io _) _) _
      exact ⟨other, _, hends, (removeDatabase_cleared hlocate hfree hmade hremove).imp
        fun _ => Or.inr rfl⟩
    · have hends : (abandon config.database).ends _ = _ := Procedure.ends_bind_ok
        (Procedure.ends_within_ok (Procedure.ends_operate_ok hremove Cause.io _) _) _
      refine ⟨other, _, hends, (removeDatabase_cleared hlocate hfree hmade hremove).imp ?_⟩
      rintro ⟨error, ⟨⟩⟩
  · dsimp only
    have hleaves := leaves_seedFrom hlaws hnew hfree dump config.batchSize
    rcases hseed : (seedFrom engine dump target config.batchSize).ends
      (files.put (name :: dir) (.file (.bytes []))) with ⟨last, failure | value⟩
    · right
      rw [hseed] at hleaves
      have hattempt := Procedure.ends_attempt hseed
      rcases hremove : removeDatabase config.database last with ⟨other, result⟩
      have hdiscard : (discardDatabase config.database).ends last = (other, .ok ()) := by
        rw [Procedure.ends, discardDatabase, hremove]
        rcases result with error | ⟨⟨⟩⟩
        · rfl
        · rfl
      have hseedNew : (seedNew engine config.database dump target config.batchSize).ends
          (files.put (name :: dir) (.file (.bytes []))) = (other, .error failure) := by
        rw [seedNew, Procedure.ends_bind_ok (Procedure.ends_report _ _),
          Procedure.ends_bind_ok hattempt]
        exact Procedure.ends_bind_ok hdiscard _
      refine ⟨other, failure, Procedure.ends_bind_error hseedNew _,
        (removeDatabase_cleared hlocate hfree hleaves hremove).imp ?_⟩
      rintro ⟨error, rfl⟩
      -- The warning is reported while the database is discarded.
      obtain ⟨event, hevent, hlevel⟩ : ∃ event ∈ (discardDatabase config.database last).events,
          event.level = .warn := by
        rw [discardDatabase, hremove]
        exact ⟨_, List.mem_singleton_self _, rfl⟩
      refine Or.inl ⟨event, Procedure.mem_events_first _ ?_, hlevel⟩
      refine Procedure.mem_events_bind (Procedure.ends_report _ _) ?_
      exact Procedure.mem_events_bind hattempt (Procedure.mem_events_first _ hevent)
    · left
      rw [hseed] at hleaves
      have hseedNew : (seedNew engine config.database dump target config.batchSize).ends
          (files.put (name :: dir) (.file (.bytes []))) = (last, .ok value) := by
        rw [seedNew, Procedure.ends_bind_ok (Procedure.ends_report _ _),
          Procedure.ends_bind_ok (Procedure.ends_attempt hseed)]
        rfl
      exact ⟨last, _, Procedure.ends_bind_ok hseedNew _, hleaves⟩

end Conversion

end BookDatasets
