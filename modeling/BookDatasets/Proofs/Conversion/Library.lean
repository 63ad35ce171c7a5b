/-
  One run of a library conversion.

  1. **Writing** — when the database is open and seeded, a run only opens its output and writes to it.
     What is stored stays as it is, as long as the output is neither the database nor beside it, and a
     run that succeeds has written the lines of the stored rows (`writeOut_stored`).
  2. **At rest** — a database that is stored has nothing to be undone or finished, so every query finds in
     it what its file holds.  A query keeps it so, and so does an output that is elsewhere.
  3. **A stored database** is found, so a dump makes no difference to the run
     (`convertLibrary_stored`).
  4. **A clear path** — the run ends in the tree that it started from, up to directories above the
     path and files beside it and beside the dump, unless it can make the database and copy its dump as a
     whole; then the database is stored, whatever happens to the output afterwards
     (`convertLibrary_clear`).
-/
import BookDatasets.Proofs.Conversion.Output
import BookDatasets.Proofs.Conversion.Sourcing
import BookDatasets.Proofs.Library.Dataset
import BookDatasets.Proofs.Library.NewDatabase

namespace BookDatasets

/-- Whether two paths lead to one and the same. -/
def Files.sameFile (files : Files) (path path' : Text) : Bool :=
  match files.openRead path, files.openRead path' with
  | .ok place, .ok place' => place == place'
  | _, _ => false

namespace Conversion

/-! ## What a run comes to -/

/-- The dataset of rows. -/
def dataset (rows : List (List (Option Text))) : Bytes :=
  Bytes.ofLines (LabelRecord.lines (rows.map Library.labels))

/-- The dump of a name says the rows. -/
def DumpReads (engine : Engine) (files : Files) (dump : Text) (rows : List (List (Option Text))) :
    Prop :=
  ∃ source db, files.connect engine dump = .ok source
    ∧ (files.database engine .reading source).2 = .ok db
    ∧ db.Reads Library.dumpName Library.dumpColumns rows

/-- A run can make its database, and its dump says the rows then. -/
def Fills (engine : Engine) (config : LibraryConfig) (files : Files)
    (rows : List (List (Option Text))) : Prop :=
  (files.createDirectories (Path.parent config.database)).2 = .ok ()
    ∧ ∃ made place, (files.withParent config.database).createNew config.database
        = .ok (made, place)
      ∧ ∃ dump, config.dump = some dump ∧ DumpReads engine made dump rows

/-- A path leads neither to the database of another path nor to a file beside it. -/
def LeadsElsewhere (path output : Text) (files : Files) : Prop :=
  ∀ ending ∈ [] :: sidecarEndings, files.sameFile output (path ++ ending) = false

instance (path output : Text) (files : Files) : Decidable (LeadsElsewhere path output files) :=
  inferInstanceAs (Decidable (∀ ending ∈ [] :: sidecarEndings, _))

/-- A dump is not the database of a path, neither is beside the other, and no link is beside the dump. -/
def DumpElsewhere (engine : Engine) (path dump : Text) (files : Files) : Prop :=
  ∀ place ∈ files.seat engine dump, files.Linkless place
    ∧ ∀ own ∈ files.names path, Files.Apart own place

instance (engine : Engine) (path dump : Text) (files : Files) :
    Decidable (DumpElsewhere engine path dump files) :=
  inferInstanceAs (Decidable (∀ place ∈ files.seat engine dump, _))

section

variable {engine : Engine} {path name : Text} {files other made later : Files} {dir place : Location}
  {rows : List (List (Option Text))} {config : LibraryConfig}

/-! ## The stored database -/

/-- The place of a database's path, with nothing beside it to be undone or finished. -/
structure Seated (path : Text) (files : Files) (dir : Location) (name : Text) : Prop where
  locate : files.locate .entry path = .ok (.entry dir name false)
  short : ∀ ending ∈ sidecarEndings, Files.IsShort (path ++ ending)
  rest : files.AtRest (name :: dir)
  linkless : files.Linkless (name :: dir)

/-- A file at a path, with the rows of a dump in it. -/
structure Stored (path : Text) (rows : List (List (Option Text))) (files : Files) (dir : Location)
    (name : Text) : Prop extends Seated path files dir name where
  find : files.find? (name :: dir) = some (.file (.tables (Library.filled rows)))
  width : ∀ values ∈ rows, values.length = Table.bookColumns.length

theorem Stored.extends (h : Stored path rows files dir name)
    (hextends : Files.Extends files other) : Stored path rows other dir name :=
  ⟨⟨hextends.grows.locate h.locate, h.short, h.rest.extends hextends,
    h.linkless.of_grows hextends.grows⟩, hextends.keeps _ _ h.find, h.width⟩

/-- An output that is not beside the database leaves it at rest, and so does an empty one. -/
theorem Seated.written {output : Text} {octets : Bytes} (h : Seated path files dir name)
    (houtput : Output output files place)
    (hbeside : place ∉ Files.sidecars (name :: dir) ∨ octets = []) :
    Seated path (written files place octets) dir name := by
  have hgrows := houtput.grows octets
  refine ⟨hgrows.locate h.locate, h.short, ?_, h.linkless.of_grows hgrows⟩
  exact h.rest.put houtput.ne_nil (hbeside.imp_right fun hnil => by rw [hnil])

/-- **An output elsewhere** leaves the database as it is. -/
theorem Stored.written {output : Text} {octets : Bytes} (h : Stored path rows files dir name)
    (houtput : Output output files place) (hplace : name :: dir ≠ place)
    (hbeside : place ∉ Files.sidecars (name :: dir) ∨ octets = []) :
    Stored path rows (written files place octets) dir name := by
  refine ⟨h.toSeated.written houtput hbeside, ?_, h.width⟩
  rw [find?_written houtput.ne_nil, if_neg hplace, h.find]

/-- An output that leads elsewhere is put neither where the database is nor beside it. -/
theorem ne_of_leadsElsewhere {output : Text} {octets : Bytes}
    (hlocate : files.locate .entry path = .ok (.entry dir name false))
    (hshort : ∀ ending ∈ sidecarEndings, Files.IsShort (path ++ ending))
    (houtput : Output output files place)
    (hapart : LeadsElsewhere path output (written files place octets)) :
    name :: dir ≠ place ∧ place ∉ Files.sidecars (name :: dir) := by
  have hplaces : ∀ ending ∈ [] :: sidecarEndings,
      files.locate .entry (path ++ ending) = .ok (.entry dir (name ++ ending) false) →
      (name ++ ending) :: dir ≠ place := by
    rintro ending hending hfound rfl
    have hfind : (written files ((name ++ ending) :: dir) octets).find? ((name ++ ending) :: dir)
        = some (.file (.bytes octets)) := by
      rw [find?_written houtput.ne_nil, if_pos rfl]
    have hpath := Files.openRead_of_file ((houtput.grows octets).locate hfound) hfind
    have hsame := hapart ending hending
    rw [Files.sameFile, houtput.openRead octets, hpath] at hsame
    exact beq_eq_false_iff_ne.1 hsame rfl
  constructor
  · have hself := hplaces [] List.mem_cons_self
    rw [List.append_nil, List.append_nil] at hself
    exact hself hlocate
  · intro hbeside
    obtain ⟨ending, hending, rfl⟩ := mem_sidecars_iff.1 hbeside
    exact hplaces ending (List.mem_cons_of_mem _ hending)
      (locate_sidecar hending hlocate (hshort ending hending)) rfl

/-- What goes on elsewhere leaves the place as it is. -/
theorem Seated.leaves {spots : Location → Prop} (h : Seated path files dir name)
    (hleaves : Files.Leaves spots files other)
    (hspots : ∀ there, spots there → there ∉ Files.sidecars (name :: dir)
      ∧ ∀ target, files.find? there ≠ some (.link target)) :
    Seated path other dir name := by
  have hgrows := hleaves.grows fun there hthere => (hspots there hthere).2
  refine ⟨hgrows.locate h.locate, h.short, ?_, h.linkless.of_grows hgrows⟩
  intro there hthere
  rw [hleaves.others there fun hspot => (hspots there hspot).1 (Files.mem_sidecars hthere)]
  exact h.rest there hthere

/-- A file is put in the place. -/
theorem Seated.put (h : Seated path files dir name) (hblank : files.IsBlank (name :: dir))
    (content : Content) : Seated path (files.put (name :: dir) (.file content)) dir name := by
  have hown : name :: dir ≠ [] := List.cons_ne_nil name dir
  have hgrows : Files.Grows files (files.put (name :: dir) (.file content)) := .put hblank nofun
  refine ⟨hgrows.locate h.locate, h.short, ?_, h.linkless.of_grows hgrows⟩
  exact h.rest.put hown (Or.inl fun hthere => Files.ne_of_mem_sidecars hown hthere rfl)

/-! ## Writing the dataset -/

/-- What a run does when the database is open and seeded. -/
def writeOut (engine : Engine) (config : LibraryConfig) (source : Connection) (seeded : Option Nat) :
    Procedure LibraryReport := do
  Procedure.report (Log.info .library "Generating the dataset file from sqlite".toList)
  let output ← createOutput config.output
  let records ← (writeBooks engine source output config.interval).within .convertingBooks
  Procedure.report (generated .library records)
  return ⟨seeded, records, config.output⟩

section

variable (hlaws : engine.Lawful)

include hlaws

/-- A query leaves all but what is beside the database, and keeps this at rest. -/
theorem Seated.query (h : Seated path files dir name) (table : Text) (columns : List Text) :
    Files.Leaves (· ∈ Files.sidecars (name :: dir)) files
        (files.query engine .querying (.stored (name :: dir)) table columns).1
      ∧ Seated path (files.query engine .querying (.stored (name :: dir)) table columns).1 dir name := by
  have hleaves := hlaws.leaves (Or.inr (Or.inl h.rest) : Files.Safe .querying files (name :: dir))
  have hgrows := hleaves.grows h.linkless
  rcases Files.query_eq engine .querying files (.stored (name :: dir)) table columns with hsame | hused
  · rw [hsame]
    exact ⟨.refl _ files, h⟩
  · rw [hused]
    exact ⟨hleaves, hgrows.locate h.locate, h.short, hlaws.resting h.rest h.linkless,
      h.linkless.of_grows hgrows⟩

/-- **The rows of a stored database** are selected, or nothing of it is; and it stays stored. -/
theorem Stored.query (h : Stored path rows files dir name) :
    ((∃ error, (files.query engine .querying (.stored (name :: dir)) Table.bookName
        Table.bookColumns).2 = .error error)
      ∨ (files.query engine .querying (.stored (name :: dir)) Table.bookName Table.bookColumns).2
        = .ok (rows.map .ok))
    ∧ Stored path rows (files.query engine .querying (.stored (name :: dir)) Table.bookName
        Table.bookColumns).1 dir name := by
  obtain ⟨hleaves, hseated⟩ := h.toSeated.query hlaws Table.bookName Table.bookColumns
  have hstays := hleaves.others _ fun hthere =>
    Files.ne_of_mem_sidecars (List.cons_ne_nil name dir) hthere rfl
  refine ⟨?_, hseated, hstays.trans h.find, h.width⟩
  rw [Files.query, if_neg (by decide), Files.database]
  rcases htend : engine.tend .querying files (name :: dir) with ⟨tended, error | db⟩
  · exact Or.inl ⟨error, rfl⟩
  · obtain ⟨content, hcontent, hholds⟩ := hlaws.truthful h.rest (congrArg Prod.snd htend)
    rw [Files.content?, h.find] at hcontent
    cases hcontent
    obtain rfl := Except.ok.inj hholds
    exact Or.inr (Library.filled_select h.width)

omit hlaws in
/-- What a writing of books comes to. -/
theorem writeBooks_ends {source : Connection} {fetched : Except SqlError (List Table.Fetched)}
    (hquery : files.query engine .querying source Table.bookName Table.bookColumns = (later, fetched))
    (output : Location) (interval : Nat) :
    (writeBooks engine source output interval).ends files
      = (Conversion.written later output (Library.writeFrom fetched .unlimited interval).sink.taken,
        match (Library.writeFrom fetched .unlimited interval).result with
        | .ok count => .ok count
        | .error error => .error (.of (.convert error))) := by
  rw [Procedure.ends, writeBooks, hquery]
  dsimp only
  rcases (Library.writeFrom fetched .unlimited interval).result with error | count
  · rfl
  · rfl

/-- **The books of a stored database** are written as a whole, or it is a failure; and the database stays
as it is, when the output is elsewhere. -/
theorem writeBooks_stored {output : Text} {interval : Nat} {result : Except Failure Nat}
    (h : Stored path rows files dir name) (houtput : Output output files place)
    (hends : (writeBooks engine (.stored (name :: dir)) place interval).ends
      (Conversion.written files place []) = (other, result))
    (hapart : LeadsElsewhere path output other) :
    Stored path rows other dir name
      ∧ ∀ count, result = .ok count → count = rows.length
        ∧ other.readAt output = .ok (dataset rows) := by
  have hseated := h.toSeated.written houtput (Or.inr rfl : _ ∨ ([] : Bytes) = [])
  rcases hquery : (Conversion.written files place []).query engine .querying (.stored (name :: dir))
    Table.bookName Table.bookColumns with ⟨later, fetched⟩
  obtain ⟨hleaves, hlater⟩ := hseated.query hlaws Table.bookName Table.bookColumns
  rw [hquery] at hleaves hlater
  have hlateroutput : Output output later place := (houtput.stays []).leaves hleaves hseated.linkless
  rw [writeBooks_ends hquery] at hends
  obtain ⟨rfl, hresult⟩ := Prod.mk.inj hends
  obtain ⟨hne, hbeside⟩ := ne_of_leadsElsewhere hlater.locate h.short hlateroutput hapart
  obtain ⟨hfetched, hstored⟩ := (h.written houtput hne (Or.inr rfl : _ ∨ ([] : Bytes) = [])).query hlaws
  rw [hquery] at hfetched hstored
  refine ⟨hstored.written hlateroutput hne (Or.inl hbeside), ?_⟩
  rintro count rfl
  rcases hfetched with ⟨error, rfl⟩ | rfl
  · cases hresult
  · obtain ⟨hcount, htaken⟩ := Library.writeRows_unlimited interval rows
    rw [Library.writeFrom, hcount] at hresult
    refine ⟨(Except.ok.inj hresult).symm, ?_⟩
    rw [Library.writeFrom, htaken]
    exact hlateroutput.readAt _

/-- **Writing the dataset** leaves the database as it is, when the output is elsewhere; and if it succeeds
the dataset of the rows is in the output. -/
theorem writeOut_stored {seeded : Option Nat} {result : Except Failure LibraryReport}
    (h : Stored path rows files dir name)
    (hends : (writeOut engine config (.stored (name :: dir)) seeded).ends files = (other, result))
    (hapart : LeadsElsewhere path config.output other) :
    Stored path rows other dir name
      ∧ ∀ report, result = .ok report → report = ⟨seeded, rows.length, config.output⟩
        ∧ other.readAt config.output = .ok (dataset rows) := by
  rw [writeOut, Procedure.ends_bind_ok (Procedure.ends_report _ files)] at hends
  obtain ⟨middle, hextends, ⟨failure, hopen⟩ | ⟨place, houtput, hopen⟩⟩ :=
    createOutput_ends config.output files
  · rw [Procedure.ends_bind_error hopen] at hends
    obtain ⟨rfl, rfl⟩ := Prod.mk.inj hends
    exact ⟨h.extends hextends, nofun⟩
  rw [Procedure.ends_bind_ok hopen] at hends
  have hstored := h.extends hextends
  rcases hbooks : (writeBooks engine (.stored (name :: dir)) place config.interval).ends
    (Conversion.written middle place []) with ⟨last, failure | records⟩
  · rw [Procedure.ends_bind_error (Procedure.ends_within_error hbooks _)] at hends
    obtain ⟨rfl, rfl⟩ := Prod.mk.inj hends
    exact ⟨(writeBooks_stored hlaws hstored houtput hbooks hapart).1, nofun⟩
  · rw [Procedure.ends_bind_ok (Procedure.ends_within_ok hbooks _),
      Procedure.ends_bind_ok (Procedure.ends_report _ _)] at hends
    obtain ⟨rfl, rfl⟩ := Prod.mk.inj hends
    obtain ⟨hlast, hwritten⟩ := writeBooks_stored hlaws hstored houtput hbooks hapart
    refine ⟨hlast, ?_⟩
    intro report hreport
    obtain rfl := Except.ok.inj hreport
    obtain ⟨rfl, hread⟩ := hwritten records rfl
    exact ⟨rfl, hread⟩

/-! ## A run on a stored database -/

omit hlaws in
/-- What a run does when its database is open. -/
theorem convertLibrary_ends {target : Connection} {created : Bool}
    (hopen : (openLocal engine config.database).ends files = (made, .ok (target, created))) :
    (convertLibrary engine config).ends files
      = (seedIfNew engine config target created >>= fun seeded =>
          writeOut engine config seeded.1 seeded.2).ends made := by
  rw [convertLibrary, Procedure.ends_bind_ok (Procedure.ends_within_ok hopen _)]
  rfl

omit hlaws in
/-- A database that is found is not seeded. -/
theorem seedIfNew_found {source : Connection} :
    (seedIfNew engine config source false).ends files = (files, .ok (source, none)) := by
  unfold seedIfNew
  rcases config.dump with _ | dump
  · rfl
  · rfl

omit hlaws in
/-- **A dump makes no difference** to a run that finds the database. -/
theorem convertLibrary_stored (h : Stored config.database rows files dir name)
    (hresolve : engine.resolve config.database = .ok (some config.database)) :
    (convertLibrary engine config).ends files
      = (writeOut engine config (.stored (name :: dir)) none).ends files := by
  rw [convertLibrary_ends (openLocal_found h.locate h.find hresolve),
    Procedure.ends_bind_ok seedIfNew_found]

end

/-! ## A run on a clear path -/

theorem DumpElsewhere.extends {dump : Text} (h : DumpElsewhere engine path dump files)
    (hextends : Files.Extends files other) : DumpElsewhere engine path dump other := by
  intro place hplace
  rw [hextends.seat] at hplace
  obtain ⟨hlinkless, hapart⟩ := h place hplace
  rw [hextends.names]
  exact ⟨hlinkless.of_grows hextends.grows, hapart⟩

theorem DumpElsewhere.no_link {dump : Text} (h : DumpElsewhere engine path dump files) {there : Location}
    (hthere : IsBesideNamed engine (some dump) files there) (target : Text) :
    files.find? there ≠ some (.link target) := by
  obtain ⟨_, ⟨⟩, place, hplace, hbeside⟩ := hthere
  exact (h place hplace).1 there hbeside target

section

variable {dump : Text} {booked : Files} {source : Connection} (hlaws : engine.Lawful)
  (hfree : Free path files dir name) (hmade : made = files.put (name :: dir) (.file (.bytes [])))

include hfree hmade

theorem Free.blank_made : ∀ there ∈ Files.sidecars (name :: dir), made.IsBlank there := by
  intro there hthere
  rw [hmade]
  exact (hfree.blank there hthere).within (Files.within_of_put files (List.cons_ne_nil name dir) _)

/-- What a dump's name connects to is elsewhere. -/
theorem DumpElsewhere.connect (hdump : DumpElsewhere engine path dump files)
    (hconnect : made.connect engine dump = .ok (.stored place)) :
    Files.Apart (name :: dir) place ∧ made.Linkless place ∧ place ≠ [] := by
  obtain ⟨hseat, hcontent⟩ := Files.seat_of_connect hconnect
  have hsteady : Files.Steady files made := by
    rw [hmade]
    exact .put_free hfree.free _
  obtain ⟨hlinkless, hapart⟩ := hdump place (hsteady.seat hseat)
  refine ⟨hapart _ (names_of_free hfree.locate hfree.free), hlinkless.of_grows hsteady.grows, ?_⟩
  rintro rfl
  cases hcontent

include hlaws

/-- **A new database** gets its book table, and then nothing is left to be undone or finished. -/
theorem Free.exists_booked : ∃ booked,
    makeBooks engine (.stored (name :: dir)) made
        = (booked, .ok (.stored (name :: dir), Library.filled []))
      ∧ Files.Leaves (fun there => there = name :: dir ∨ there ∈ Files.sidecars (name :: dir)) made
        booked
      ∧ Seated path booked dir name := by
  have hnew : IsNew (.stored (name :: dir)) (name :: dir) := Or.inr rfl
  have hempty : made.content? (name :: dir) = some (.bytes []) := by
    rw [hmade, Files.content?, Files.find?_put_file]
  have hblank := hfree.blank_made hmade
  have hlinkless : made.Linkless (name :: dir) :=
    fun there hthere => (hblank there hthere).link
  have hready : (engine.tend .changing made (name :: dir)).2 = .ok .empty := by
    refine hlaws.fresh hempty fun there hthere => ⟨?_, hblank there hthere⟩
    obtain ⟨ending, hending, rfl⟩ := mem_sidecars_iff.1 hthere
    exact fits_sidecar hending hfree.locate (hfree.short ending hending)
  have htend : made.database engine .changing (.stored (name :: dir)) = (_, .ok .empty) :=
    Prod.ext rfl hready
  have hmake : makeBooks engine (.stored (name :: dir)) made = _ :=
    makeBooks_eq_ok_iff.2 ⟨_, .empty, htend, Library.make_empty, rfl⟩
  have hleaves := leaves_makeBooks hlaws hnew hempty
  have hrests := makeBooks_rests hlaws hnew hempty hlinkless hmake _ rfl
  rw [hmake] at hleaves
  have hgrows := hleaves.grows fun there hthere target hlink => by
    rcases hthere with rfl | hthere
    · rw [Files.content?, hlink] at hempty
      cases hempty
    · exact hlinkless there hthere target hlink
  have hlocate : made.locate .entry path = .ok (.entry dir name false) := by
    rw [hmade]
    exact Files.locate_put_file hfree.locate hfree.free _
  exact ⟨_, hmake, hleaves, hgrows.locate hlocate, hfree.short, hrests, hlinkless.of_grows hgrows⟩

omit hfree hmade in
/-- A dump elsewhere is not touched when the new database gets its table. -/
theorem database_elsewhere {own : Location} (hown : own ≠ [])
    (hleaves : Files.Leaves (fun there => there = own ∨ there ∈ Files.sidecars own) made booked)
    (happart : ∀ place, source = .stored place →
      Files.Apart own place ∧ made.Linkless place ∧ place ≠ []) :
    (booked.database engine .reading source).2 = (made.database engine .reading source).2 := by
  cases source with
  | detached db => rfl
  | stored place =>
    obtain ⟨hapart, hlinkless, hplace⟩ := happart place rfl
    refine (hlaws.alike (Or.inl rfl) hlinkless fun there hthere => hleaves.others there ?_).1
    rintro (rfl | hbeside)
    · rcases hthere with heq | hthere
      · exact hapart.ne heq
      · exact hapart.left hthere
    · rcases hthere with rfl | hthere
      · exact hapart.right hbeside
      · exact Files.not_mem_sidecars hplace hown (Ne.symm hapart.ne) hthere hbeside

/-- **A dump that is read** fills the database that was made for it. -/
theorem seedFrom_reads (hdump : DumpElsewhere engine path dump files)
    (hreads : DumpReads engine made dump rows) (batchSize : Nat) :
    ∃ stored, (seedFrom engine dump (.stored (name :: dir)) batchSize).ends made
        = (stored, .ok (.stored (name :: dir), rows.length))
      ∧ Stored path rows stored dir name := by
  have hown : name :: dir ≠ [] := List.cons_ne_nil name dir
  obtain ⟨source, db, hconnect, hdatabase, hreads⟩ := hreads
  have happart : ∀ place, source = .stored place →
      Files.Apart (name :: dir) place ∧ made.Linkless place ∧ place ≠ [] := by
    rintro place rfl
    exact hdump.connect hfree hmade hconnect
  obtain ⟨booked, hmake, hleaves, hseated⟩ := hfree.exists_booked hlaws hmade
  rw [← database_elsewhere hlaws hown hleaves happart] at hdatabase
  have hrows : (booked.query engine .reading source Library.dumpName Library.dumpColumns).2
      = db.select Library.dumpName Library.dumpColumns :=
    Files.query_of_database (by decide) hdatabase
  have hread : Files.Leaves (Files.IsBy source) booked
      (booked.query engine .reading source Library.dumpName Library.dumpColumns).1 :=
    Files.leaves_query hlaws (isSafe_reading booked source)
  rcases hquery : booked.query engine .reading source Library.dumpName Library.dumpColumns
    with ⟨read, fetched⟩
  rw [hquery] at hrows hread
  obtain rfl : fetched = _ := hrows
  obtain ⟨hfilled, hresult⟩ := Library.copyAll_reads batchSize hreads
  have hcopy : (copyDump engine source (.stored (name :: dir)) batchSize).ends made = _ :=
    copyDump_ready hmake hquery
  rw [hfilled, hresult] at hcopy
  refine ⟨_, (Procedure.ends_bind_ok (Procedure.ends_within_ok (connect_ok hconnect) _) _).trans
    (Procedure.ends_within_ok hcopy _), (hseated.leaves hread ?_).put ?_ _, ?_, ?_⟩
  · rintro there ⟨place, rfl, hthere⟩
    obtain ⟨hapart, hlinkless, hplace⟩ := happart place rfl
    exact ⟨Files.not_mem_sidecars hplace hown (Ne.symm hapart.ne) hthere, fun target hlink =>
      hlinkless there hthere target (hleaves.within there _ nofun hlink)⟩
  · refine Files.IsBlank.within ?_ (hread.within.trans hleaves.within)
    exact Files.isBlank_iff.2 (Or.inr ⟨.bytes [], by rw [hmade, Files.find?_put_file]⟩)
  · exact Files.find?_put_file read dir name _
  · obtain ⟨table, -, hrows⟩ := hreads
    intro values hvalues
    rw [hrows.length_row values hvalues, Library.length_dumpColumns]

/-- **A dump that is not read** fails to seed the new database, which still stands in its place. -/
theorem seedFrom_fails (hdump : DumpElsewhere engine path dump files)
    (hunread : ∀ rows, ¬ DumpReads engine made dump rows) (batchSize : Nat) :
    ∃ last content failure, (seedFrom engine dump (.stored (name :: dir)) batchSize).ends made
        = (last, .error failure) ∧ last.find? (name :: dir) = some (.file content) := by
  have hown : name :: dir ≠ [] := List.cons_ne_nil name dir
  rcases hconnect : made.connect engine dump with error | source
  · have hends : (seedFrom engine dump (.stored (name :: dir)) batchSize).ends made = _ :=
      Procedure.ends_bind_error (Procedure.ends_within_error (connect_error hconnect) _) _
    refine ⟨made, .bytes [], _, hends, ?_⟩
    rw [hmade, Files.find?_put_file]
  have happart : ∀ place, source = .stored place →
      Files.Apart (name :: dir) place ∧ made.Linkless place ∧ place ≠ [] := by
    rintro place rfl
    exact hdump.connect hfree hmade hconnect
  obtain ⟨booked, hmake, hleaves, -⟩ := hfree.exists_booked hlaws hmade
  rcases hquery : booked.query engine .reading source Library.dumpName Library.dumpColumns
    with ⟨read, fetched⟩
  have hbad : ∀ rows : List (List (Option Text)), fetched ≠ .ok (rows.map .ok) := by
    rintro rows rfl
    obtain ⟨db, hdatabase, hselect⟩ := Files.database_of_query hquery
    have hdatabase := congrArg Prod.snd hdatabase
    rw [database_elsewhere hlaws hown hleaves happart] at hdatabase
    exact hunread rows ⟨source, db, hconnect, hdatabase, Library.selectDump_eq_ok_iff.1 hselect⟩
  obtain ⟨error, hresult⟩ := Library.copyAll_fails fetched batchSize hbad
  have hcopy : (copyDump engine source (.stored (name :: dir)) batchSize).ends made = _ :=
    copyDump_ready hmake hquery
  rw [hresult] at hcopy
  exact ⟨_, _, _, (Procedure.ends_bind_ok (Procedure.ends_within_ok (connect_ok hconnect) _) _).trans
    (Procedure.ends_within_error hcopy _), Files.find?_put_file read dir name _⟩

/-- **A dump that is not read** leaves nothing of the database that was made for it. -/
theorem seedNew_fails (hdump : DumpElsewhere engine path dump files)
    (hunread : ∀ rows, ¬ DumpReads engine made dump rows) (batchSize : Nat) :
    ∃ other failure, (seedNew engine path dump (.stored (name :: dir)) batchSize).ends made
        = (other, .error failure)
      ∧ Restored engine path (some dump) files other := by
  obtain ⟨last, content, failure, hseed, hfind⟩ :=
    seedFrom_fails hlaws hfree hmade hdump hunread batchSize
  have hleaves := leaves_seedFrom hlaws (Or.inr rfl : IsNew (.stored (name :: dir)) (name :: dir))
    hfree.free dump batchSize
  rw [← hmade, hseed] at hleaves
  obtain ⟨other, hremove, hrestored⟩ :=
    removeDatabase_restored hfree (fun _ => hdump.no_link) hleaves hfind
  have hdiscard : (discardDatabase path).ends last = (other, .ok ()) := by
    rw [Procedure.ends, discardDatabase, hremove]
  refine ⟨other, failure, ?_, hrestored⟩
  rw [seedNew, Procedure.ends_bind_ok (Procedure.ends_report _ made),
    Procedure.ends_bind_ok (Procedure.ends_attempt hseed)]
  exact Procedure.ends_bind_ok hdiscard _

omit hlaws in
/-- Without a dump nothing is left of the database either. -/
theorem abandon_restored (engine : Engine) :
    ∃ other failure, (abandon path).ends made = (other, .error failure)
      ∧ Restored engine path none files other := by
  have hleaves := leaves_made engine none hfree.free
  have hfind := Files.find?_put_file files dir name (.bytes [])
  rw [← hmade] at hleaves hfind
  obtain ⟨other, hremove, hrestored⟩ := removeDatabase_restored hfree
    (fun _ ⟨_, hnone, _⟩ => nomatch hnone) hleaves hfind
  have hends : (abandon path).ends made = _ :=
    Procedure.ends_bind_ok (Procedure.ends_within_ok (Procedure.ends_operate_ok hremove _ _) _) _
  exact ⟨other, _, hends, hrestored⟩

end

variable (hlaws : engine.Lawful)

include hlaws

/-- **A new database** is filled by its dump, or nothing is left of it. -/
theorem seedIfNew_new (hfree : Free config.database files dir name)
    (hmade : made = files.put (name :: dir) (.file (.bytes [])))
    (hdump : ∀ dump, config.dump = some dump → DumpElsewhere engine config.database dump files) :
    ((∀ rows, ¬ ∃ dump, config.dump = some dump ∧ DumpReads engine made dump rows)
      ∧ ∃ other failure, (seedIfNew engine config (.stored (name :: dir)) true).ends made
          = (other, .error failure)
        ∧ Restored engine config.database config.dump files other)
    ∨ ∃ rows stored, (∃ dump, config.dump = some dump ∧ DumpReads engine made dump rows)
      ∧ Stored config.database rows stored dir name
      ∧ (seedIfNew engine config (.stored (name :: dir)) true).ends made
        = (stored, .ok (.stored (name :: dir), some rows.length)) := by
  unfold seedIfNew
  rcases hgiven : config.dump with _ | dump
  · exact Or.inl ⟨nofun, abandon_restored hfree hmade engine⟩
  have hdump' := hdump dump hgiven
  by_cases hreads : ∃ rows, DumpReads engine made dump rows
  · obtain ⟨rows, hreads⟩ := hreads
    obtain ⟨stored, hseed, hstored⟩ :=
      seedFrom_reads hlaws hfree hmade hdump' hreads config.batchSize
    have hseeded : (seedNew engine config.database dump (.stored (name :: dir))
        config.batchSize).ends made = _ :=
      (Procedure.ends_bind_ok (Procedure.ends_report _ made) _).trans
        (Procedure.ends_bind_ok (Procedure.ends_attempt hseed) _)
    exact Or.inr ⟨rows, stored, ⟨dump, rfl, hreads⟩, hstored, Procedure.ends_bind_ok hseeded _⟩
  · have hunread : ∀ rows, ¬ DumpReads engine made dump rows :=
      fun rows hrows => hreads ⟨rows, hrows⟩
    obtain ⟨other, failure, hfailed, hrestored⟩ :=
      seedNew_fails hlaws hfree hmade hdump' hunread config.batchSize
    refine Or.inl ⟨?_, other, failure, Procedure.ends_bind_error hfailed _, hrestored⟩
    rintro rows ⟨_, ⟨⟩, hrows⟩
    exact hunread rows hrows

/-- **A run on a clear path** fails and leaves it clear, unless it fills the database; then it goes on
with the stored rows. -/
theorem convertLibrary_clear
    (hclear : Clear config.database (files.withParent config.database))
    (hresolve : engine.resolve config.database = .ok (some config.database))
    (hdump : ∀ dump, config.dump = some dump → DumpElsewhere engine config.database dump files) :
    ((∀ rows, ¬ Fills engine config files rows) ∧ ∃ other failure,
      (convertLibrary engine config).ends files = (other, .error failure)
      ∧ Restored engine config.database config.dump (files.withParent config.database) other)
    ∨ ∃ rows stored dir name, Fills engine config files rows
      ∧ Stored config.database rows stored dir name
      ∧ (convertLibrary engine config).ends files
        = (writeOut engine config (.stored (name :: dir)) (some rows.length)).ends stored := by
  have hextends : Files.Extends files (files.withParent config.database) :=
    Files.extends_of_createDirectories files _
  rcases openLocal_clear hclear hresolve with
    ⟨hcannot, failure, hopen⟩ | ⟨made, dir, name, hparents, hnew, hmade, hfree, hopen⟩
  · have hends : (convertLibrary engine config).ends files = _ :=
      Procedure.ends_bind_error (Procedure.ends_within_error hopen _) _
    refine Or.inl ⟨?_, _, _, hends, hclear, Files.withParent_again files config.database,
      fun place => Or.inl rfl⟩
    rintro rows ⟨hparents, made, place, hmade, -⟩
    exact hcannot ⟨hparents, _, hmade⟩
  rw [convertLibrary_ends hopen]
  rcases seedIfNew_new hlaws hfree hmade (fun dump hgiven => (hdump dump hgiven).extends hextends) with
    ⟨hunread, other, failure, hseed, hrestored⟩ | ⟨rows, stored, hreads, hstored, hseed⟩
  · refine Or.inl ⟨?_, other, failure, Procedure.ends_bind_error hseed _, hrestored⟩
    -- There is only one tree with the new file, so no dump can be read in another one.
    rintro rows ⟨-, made', place, hnew', hreads⟩
    obtain ⟨rfl, -⟩ := Prod.mk.inj (Except.ok.inj (hnew.symm.trans hnew'))
    exact hunread rows hreads
  · exact Or.inr ⟨rows, stored, dir, name, ⟨hparents, made, _, hnew, hreads⟩, hstored,
      Procedure.ends_bind_ok hseed _⟩

end

end Conversion

end BookDatasets
