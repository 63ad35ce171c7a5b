/-
  What a run passes that succeeds.

  1. **Stations** — each conversion is taken apart once: into the step that gets its source, the steps
     that open its outputs, and the step that writes (`ListingRun`, `LibraryRun`, `FictionRun`).  A run
     succeeds if and only if it passes them all, so a run is known from its stations, and a run is built
     by giving them.
  2. **Steady** — on the way directories come, files come where nothing stood, and outputs are written
     where files stood.  So what a path names in the first tree is where it leads in all that follow
     (`Output.names`).
  3. **Beside databases** — files come and go there while a database is seeded, so names are told in the
     first tree without what stands beside its databases (`Orderly`, `Sourced.steady`).
-/
import BookDatasets.Proofs.Conversion.Twins

namespace BookDatasets

namespace Conversion

variable {path name url : Text} {files later middle made : Files} {place dir output : Location}
  {source target origin : Connection} {octets : Bytes} {sink : Sink} {engine : Engine}

/-! ## Names stay -/

theorem extends_of_made (h : files.createDirectories path = (made, .ok ())) :
    Files.Extends files made := by
  have hextends := Files.extends_of_createDirectories files path
  rw [h] at hextends
  exact hextends

theorem steady_of_made (h : files.createDirectories path = (made, .ok ())) :
    Files.Steady files made :=
  Files.steady_of_extends (extends_of_made h)

theorem Output.steady (h : Output path files place) (octets : Bytes) :
    Files.Steady files (written files place octets) :=
  Files.Steady.put h.free _

/-- **An output is where its path names it** from the beginning. -/
theorem Output.names (h : Output path made place) (hsteady : Files.Steady files made) :
    files.names path = some place := by
  obtain ⟨dir, name, rfl, hlocate⟩ := h.found
  exact Files.names_of_locate hsteady hlocate fun target => Files.IsBlank.link h.free target

/-- A file that is read is where its path names it from the beginning. -/
theorem names_of_openRead {content : Content} (hsteady : Files.Steady files later)
    (hopen : later.openRead path = .ok place) (hfind : later.find? place = some (.file content)) :
    files.names path = some place := by
  obtain ⟨dir, name, rfl, hlocate⟩ := Files.locate_of_openRead hopen hfind
  refine Files.names_of_locate hsteady hlocate fun target hlink => ?_
  exact nomatch hfind.symm.trans hlink

/-! ## Listings -/

/-- The stations of a listing conversion that succeeds: its listing is acquired and opened, its output is
opened, and the listing's dataset is written. -/
structure ListingRun (network : Web.Network) (config : ListingConfig) (files : Files)
    (report : ListingReport) (middle made : Files) (source output : Location) (octets : Bytes)
    (sink : Sink) : Prop where
  client : Web.mayCallItself config.userAgent = true
  acquired : Acquired (network config.url config.userAgent) config.url config.listing
    files middle report.downloaded
  opens : middle.openRead config.listing = .ok source
  parent : middle.createDirectories (Path.parent config.output) = (made, .ok ())
  puts : Output config.output made output
  reads : (written made output []).read source = .ok octets
  dataset : Listing.writeDataset octets .unlimited = (sink, .ok report.records)
  outputs : report.output = config.output

theorem Acquired.steady {exchange : Web.Exchange} {downloaded : Bool}
    (h : Acquired exchange url path files later downloaded) : Files.Steady files later := by
  have hparent := Files.steady_withParent files path
  cases h with
  | stands => exact hparent
  | downloads _ _ hfree _ => exact hparent.trans (Files.Steady.put_free hfree _)

/-- An acquired listing is there. -/
theorem Acquired.stands_plain {exchange : Web.Exchange} {downloaded : Bool}
    (h : Acquired exchange url path files later downloaded) :
    later.stands path = true ∧ Path.asksForDirectory path = false := by
  cases h with
  | stands hstands hplain => exact ⟨hstands, hplain⟩
  | downloads _ hlocate hfree _ =>
    exact ⟨Files.stands_put hlocate hfree _, (Files.locate_entry hlocate).symm⟩

section

variable {network : Web.Network} {config : ListingConfig} {report : ListingReport}
  {source : Location}

/-- The last step writes the dataset. -/
theorem ListingRun.writes
    (h : ListingRun network config files report middle made source output octets sink) :
    (writeListing source output).ends (written made output [])
      = (written made output sink.taken, .ok report.records) := by
  refine writeListing_eq_ok_iff.2 ⟨octets, sink, h.reads, h.dataset, ?_⟩
  rw [written_written]

theorem ListingRun.steady
    (h : ListingRun network config files report middle made source output octets sink) :
    Files.Steady files made :=
  h.acquired.steady.trans (steady_of_made h.parent)

theorem writeFound_eq_ok_iff {downloaded : Bool} :
    (writeFound config downloaded).ends files = (later, .ok report)
      ↔ ∃ source opened output records, files.openRead config.listing = .ok source
        ∧ (createOutput config.output).ends files = (opened, .ok output)
        ∧ (writeListing source output).ends opened = (later, .ok records)
        ∧ report = ⟨downloaded, records, config.output⟩ := by
  rw [writeFound, Procedure.ends_bind_ok (Procedure.ends_report _ files), Procedure.ends_bind_eq_ok]
  constructor
  · rintro ⟨middle, source, hopen, hafter⟩
    obtain ⟨rfl, hread⟩ := Prod.mk.inj
      (Procedure.ends_operate_eq_ok.1 (Procedure.ends_within_eq_ok.1 hopen))
    obtain ⟨opened, output, houtput, hopened⟩ := Procedure.ends_bind_eq_ok.1 hafter
    obtain ⟨last, records, hwrite, hlast⟩ := Procedure.ends_bind_eq_ok.1 hopened
    rw [Procedure.ends_bind_ok (Procedure.ends_report _ last), Procedure.ends_pure] at hlast
    cases hlast
    exact ⟨source, opened, output, records, hread, houtput, Procedure.ends_within_eq_ok.1 hwrite,
      rfl⟩
  · rintro ⟨source, opened, output, records, hread, houtput, hwrite, rfl⟩
    refine ⟨files, source, ?_, ?_⟩
    · refine Procedure.ends_within_eq_ok.2 (Procedure.ends_operate_eq_ok.2 ?_)
      rw [hread]
    · rw [Procedure.ends_bind_ok houtput,
        Procedure.ends_bind_ok (Procedure.ends_within_eq_ok.2 hwrite),
        Procedure.ends_bind_ok (Procedure.ends_report _ later), Procedure.ends_pure]

/-- **A listing conversion that succeeds** has passed all stations. -/
theorem convertListing_eq_ok_iff
    (hquiet : (network config.url config.userAgent).removes = none) :
    (convertListing network config).ends files = (later, .ok report)
      ↔ ∃ middle made source output octets sink,
        ListingRun network config files report middle made source output octets sink
          ∧ later = written made output sink.taken := by
  have hacquire : ∀ {middle : Files} {downloaded : Bool}, (Download.ifMissing
      (network config.url config.userAgent) config.url config.listing).ends files
        = (middle, .ok downloaded) ↔ Acquired (network config.url config.userAgent)
          config.url config.listing files middle downloaded :=
    ifMissing_eq_ok_iff hquiet
  constructor
  · intro h
    have hclient : Web.mayCallItself config.userAgent = true := by
      by_contra hclient
      rw [convertListing, if_neg hclient] at h
      cases (Prod.mk.inj h).2
    rw [convertListing, if_pos hclient] at h
    obtain ⟨middle, downloaded, hmissing, hfound⟩ := Procedure.ends_bind_eq_ok.1 h
    obtain ⟨source, opened, output, records, hread, hopen, hwrite, rfl⟩ :=
      writeFound_eq_ok_iff.1 hfound
    obtain ⟨made, hparent, houtput, rfl⟩ := createOutput_eq_ok hopen
    obtain ⟨octets, sink, hoctets, hdataset, rfl⟩ := writeListing_eq_ok_iff.1 hwrite
    exact ⟨middle, made, source, output, octets, sink, ⟨hclient,
      hacquire.1 (Procedure.ends_within_eq_ok.1 hmissing), hread, hparent, houtput, hoctets,
      hdataset, rfl⟩, written_written made output [] sink.taken⟩
  · rintro ⟨middle, made, source, output, octets, sink, h, rfl⟩
    rw [convertListing, if_pos h.client, Procedure.ends_bind_ok
      (Procedure.ends_within_eq_ok.2 (hacquire.2 h.acquired))]
    refine writeFound_eq_ok_iff.2 ⟨source, _, output, report.records, h.opens,
      createOutput_ok h.parent h.puts, h.writes, ?_⟩
    rw [← h.outputs]

end

/-! ## Books -/

/-- The places of the database and of the dump, as their names stand for them. -/
def seats (engine : Engine) (config : LibraryConfig) (files : Files) : List Location :=
  (files.names config.database).toList
    ++ config.dump.toList.flatMap fun dump => (files.seat engine dump).toList

/-- The tree without what stands beside the database and the dump. -/
def lone (engine : Engine) (config : LibraryConfig) (files : Files) : Files :=
  files.less ((seats engine config files).flatMap Files.sidecars)

/-- The database is tidy, and no link is beside the dump. -/
structure Orderly (engine : Engine) (config : LibraryConfig) (files : Files) : Prop where
  database : ∀ place ∈ files.names config.database, IsTidy files place
  dump : ∀ dump ∈ config.dump, ∀ place ∈ files.seat engine dump, files.Linkless place

instance (engine : Engine) (config : LibraryConfig) (files : Files) :
    Decidable (Orderly engine config files) :=
  decidable_of_iff ((∀ place ∈ files.names config.database, IsTidy files place)
      ∧ ∀ dump ∈ config.dump, ∀ place ∈ files.seat engine dump, files.Linkless place)
    ⟨fun h => ⟨h.1, h.2⟩, fun h => ⟨h.database, h.dump⟩⟩

/-- How the database of books is come by: it is found as it is, or it is made and a dump is copied into
it. -/
inductive Sourced (engine : Engine) (config : LibraryConfig) (files : Files) :
    Files → Connection → Option Nat → Prop where
  | found {source : Connection} (hfinds : Finds engine config.database files source) :
      Sourced engine config files (files.withParent config.database) source none
  | seeded {dir : Location} {name dump : Text} {target origin source : Connection} {later : Files}
      {count : Nat} (hmakes : Makes engine config.database files dir name target)
      (hdump : config.dump = some dump)
      (hconnect : ((files.withParent config.database).put (name :: dir) (.file (.bytes []))).connect
        engine dump = .ok origin)
      (hcopy : (copyDump engine origin target config.batchSize).ends
        ((files.withParent config.database).put (name :: dir) (.file (.bytes [])))
          = (later, .ok (source, count))) :
      Sourced engine config files later source (some count)

section

variable {config : LibraryConfig} {report : LibraryReport} {seeded : Option Nat} {db : Database}
  {read : Files}

theorem mem_seats_iff : place ∈ seats engine config files ↔ files.names config.database = some place
    ∨ ∃ dump ∈ config.dump, files.seat engine dump = some place := by
  simp [seats]

/-- **A database is opened, and seeded if it is new**, in one of these ways, or not at all. -/
theorem sourced_iff :
    (∃ target created made, (openLocal engine config.database).ends files
          = (made, .ok (target, created))
        ∧ (seedIfNew engine config target created).ends made = (middle, .ok (source, seeded)))
      ↔ Sourced engine config files middle source seeded := by
  constructor
  · rintro ⟨target, created, made, hopen, hseed⟩
    rcases openLocal_cases engine config.database files with ⟨failure, hfailed⟩ | ⟨found, hfinds⟩
      | ⟨dir, name, fresh, hmakes⟩ | ⟨dir, name, error, failure, -, -, -, hfailed⟩
    · cases hfailed.symm.trans hopen
    · cases hfinds.ends.symm.trans hopen
      cases seedIfNew_found.symm.trans hseed
      exact .found hfinds
    · cases hmakes.ends.symm.trans hopen
      obtain ⟨dump, origin, count, hdump, hconnect, hcopy, rfl⟩ := seedIfNew_eq_ok_iff.1 hseed
      exact .seeded hmakes hdump hconnect hcopy
    · cases hfailed.symm.trans hopen
  · intro h
    cases h with
    | found hfinds => exact ⟨_, _, _, hfinds.ends, seedIfNew_found⟩
    | seeded hmakes hdump hconnect hcopy =>
      exact ⟨_, _, _, hmakes.ends, seedIfNew_eq_ok_iff.2 ⟨_, _, _, hdump, hconnect, hcopy, rfl⟩⟩

section

variable (hlaws : engine.Lawful) (hliteral : Files.IsLiteral engine config.database)
  (horderly : Orderly engine config files)

include horderly

theorem Orderly.linkless (hplace : place ∈ seats engine config files) : files.Linkless place := by
  rcases mem_seats_iff.1 hplace with hnames | ⟨dump, hdump, hseat⟩
  · exact (horderly.database place hnames).1
  · exact horderly.dump dump hdump place hseat

/-- Only what is beside databases is missing in the lone tree. -/
theorem Orderly.steady : Files.Steady (lone engine config files) files := by
  apply Files.steady_less
  intro there hthere
  obtain ⟨place, hplace, hthere⟩ := List.mem_flatMap.1 hthere
  exact horderly.linkless hplace there hthere

/-- What a dump's name connects to is beside no link, when the new database has been made. -/
theorem Orderly.of_connect {dump : Text} (hmakes : Makes engine config.database files dir name target)
    (hdump : config.dump = some dump)
    (hconnect : ((files.withParent config.database).put (name :: dir) (.file (.bytes []))).connect
      engine dump = .ok (.stored place)) :
    place ∈ seats engine config files
      ∧ ((files.withParent config.database).put (name :: dir) (.file (.bytes []))).Linkless place := by
  have hsteady := (Files.steady_withParent files config.database).trans
    (.put_free hmakes.free (.bytes []))
  have hseat : place ∈ seats engine config files := mem_seats_iff.2
    (Or.inr ⟨dump, hdump, hsteady.seat (Files.seat_of_connect hconnect).1⟩)
  exact ⟨hseat, (horderly.linkless hseat).of_grows hsteady.grows⟩

include hlaws hliteral

/-- **While a dump is copied** into a new database files come and go in its place, beside it and beside
the dump, but no links. -/
theorem Makes.leaves {dump : Text} {count : Nat}
    (hmakes : Makes engine config.database files dir name target) (hdump : config.dump = some dump)
    (hconnect : ((files.withParent config.database).put (name :: dir) (.file (.bytes []))).connect
      engine dump = .ok origin)
    (hcopy : (copyDump engine origin target config.batchSize).ends
      ((files.withParent config.database).put (name :: dir) (.file (.bytes [])))
        = (later, .ok (source, count))) :
    let made := (files.withParent config.database).put (name :: dir) (.file (.bytes []))
    let spots := fun there => there = name :: dir ∨ there ∈ Files.sidecars (name :: dir)
      ∨ Files.IsBy origin there
    Files.Leaves spots made later ∧ Files.Grows made later := by
  intro made spots
  have hempty : made.content? (name :: dir) = some (.bytes []) := by
    rw [Files.content?, Files.find?_put_file]
  have hleaves := leaves_copyDump hlaws (hmakes.isNew hliteral) hempty origin config.batchSize
  rw [hcopy] at hleaves
  refine ⟨hleaves, hleaves.grows ?_⟩
  rintro there (rfl | hbeside | ⟨place, rfl, hthere⟩) target hlink
  · cases (Files.find?_put_file _ _ _ _).symm.trans hlink
  · exact (hmakes.names_linkless horderly.database).2 there hbeside target hlink
  · exact (horderly.of_connect hmakes hdump hconnect).2 there hthere target hlink

/-- **On the way to the database** nothing has gone but what is beside databases. -/
theorem Sourced.steady (h : Sourced engine config files middle source seeded) :
    Files.Steady (lone engine config files) middle := by
  have hparent := horderly.steady.trans (Files.steady_withParent files config.database)
  cases h with
  | found => exact hparent
  | @seeded dir name dump target origin _ _ _ hmakes hdump hconnect hcopy =>
    obtain ⟨hleaves, -⟩ := hmakes.leaves hlaws hliteral horderly hdump hconnect hcopy
    refine (hparent.trans (.put_free hmakes.free _)).leaves hleaves ?_
    have hbeside : ∀ own ∈ seats engine config files, ∀ there ∈ Files.sidecars own,
        (lone engine config files).find? there = none
          ∨ (lone engine config files).find? there = some .directory := by
      intro own hown there hthere
      by_cases hroot : there = []
      · subst hroot
        exact Or.inr rfl
      · left
        rw [lone, Files.find?_less hroot, if_pos (List.mem_flatMap.2 ⟨own, hown, hthere⟩)]
    rintro there (rfl | hthere | ⟨place, rfl, hthere⟩)
    · left
      rcases hfind : (lone engine config files).find? (name :: dir) with _ | node
      · rfl
      · have hextends := Files.extends_of_createDirectories files (Path.parent config.database)
        have hfiles := hfind
        rw [lone, Files.find?_less (List.cons_ne_nil name dir)] at hfiles
        split_ifs at hfiles
        cases hmakes.free.symm.trans (hextends.keeps _ _ hfiles)
    · exact hbeside _ (mem_seats_iff.2 (Or.inl (hmakes.names_linkless horderly.database).1)) there hthere
    · exact hbeside _ (horderly.of_connect hmakes hdump hconnect).1 there hthere

theorem Sourced.grows (h : Sourced engine config files middle source seeded) :
    Files.Grows files middle := by
  have hparent := (Files.steady_withParent files config.database).grows
  cases h with
  | found => exact hparent
  | seeded hmakes hdump hconnect hcopy =>
    exact (hparent.trans (Files.Steady.put_free hmakes.free (.bytes [])).grows).trans
      (hmakes.leaves hlaws hliteral horderly hdump hconnect hcopy).2

/-- **The database that a run has come by** is ready to be queried, in the place that its path names. -/
theorem Sourced.isReady (h : Sourced engine config files middle source seeded) :
    IsReady middle source
      ∧ ∀ place, source = .stored place → files.names config.database = some place := by
  cases h with
  | found hfinds => exact hfinds.isReady hliteral horderly.database
  | seeded hmakes hdump hconnect hcopy =>
    obtain ⟨hready, hown⟩ := hmakes.isReady hliteral horderly.database hlaws hconnect hcopy
    refine ⟨hready, ?_⟩
    rintro place hsource
    rw [hown place hsource]
    exact (hmakes.names_linkless horderly.database).1

/-- **A database in a file** is there when the run has come by it. -/
theorem Sourced.settled (h : Sourced engine config files middle source seeded)
    (hresolve : engine.resolve config.database = .ok (some config.database)) :
    (∃ place, source = .stored place ∧ files.names config.database = some place
        ∧ (middle.content? place).isSome)
      ∧ middle.stands config.database = true ∧ Path.asksForDirectory config.database = false := by
  have hnames := (h.isReady hlaws hliteral horderly).2
  cases h with
  | found hfinds =>
    refine ⟨?_, hfinds.stands, hfinds.plain⟩
    rcases Files.connect_eq_ok_iff.1 hfinds.connect with ⟨hmemory, -⟩ | ⟨place, -, hsome, rfl⟩
    · cases hmemory.symm.trans hresolve
    · exact ⟨place, rfl, hnames place rfl, hsome⟩
  | @seeded dir name _ target _ _ _ _ hmakes hdump hconnect hcopy =>
    obtain ⟨-, hgrows⟩ := hmakes.leaves hlaws hliteral horderly hdump hconnect hcopy
    cases hmakes.connect.symm.trans (Files.connect_put hmakes.locate hmakes.free hresolve)
    obtain ⟨_, _, _, _, _, hmake, -, -, hstore⟩ := copyDump_eq_ok_iff.1 hcopy
    obtain ⟨_, _, -, -, hbooked⟩ := makeBooks_eq_ok_iff.1 hmake
    obtain ⟨rfl, rfl⟩ := Prod.mk.inj hbooked
    obtain ⟨rfl, rfl⟩ := Prod.mk.inj hstore
    have hlocate := Files.locate_put_file hmakes.locate hmakes.free (.bytes [])
    refine ⟨⟨name :: dir, rfl, hnames _ rfl, ?_⟩, ?_, (Files.locate_entry hmakes.locate).symm⟩
    · rw [Files.content?, Files.find?_put_file]
      rfl
    · refine Files.stands_of_grows hgrows (fun place hname _ => ?_)
        (Files.stands_put hmakes.locate hmakes.free _)
      cases (Files.names_of_find? hlocate (Files.find?_put_file _ dir name _)).symm.trans hname
      rw [Files.content?, Files.find?_put_file]
      rfl

end

/-- The tree with the dataset of a database in its place. -/
def booksWritten (config : LibraryConfig) (db : Database) (output : Location) (files : Files) :
    Files :=
  written files output (Library.writeDataset db .unlimited config.interval).sink.taken

/-- The stations of a library conversion that succeeds: its database is opened and seeded, its output is
opened, and the database is queried and its dataset is written. -/
structure LibraryRun (engine : Engine) (config : LibraryConfig) (files : Files)
    (report : LibraryReport) (middle made read : Files) (source : Connection) (output : Location)
    (db : Database) : Prop where
  sourced : Sourced engine config files middle source report.seeded
  parent : middle.createDirectories (Path.parent config.output) = (made, .ok ())
  puts : Output config.output made output
  database : (written made output []).database engine .querying source = (read, .ok db)
  dataset : (Library.writeDataset db .unlimited config.interval).result = .ok report.records
  outputs : report.output = config.output

/-- The last step writes the dataset. -/
theorem LibraryRun.writes
    (h : LibraryRun engine config files report middle made read source output db) :
    (writeBooks engine source output config.interval).ends (written made output [])
      = (booksWritten config db output read, .ok report.records) :=
  writeBooks_eq_ok_iff.2 ⟨read, db, h.database, h.dataset, rfl⟩

section

variable (hlaws : engine.Lawful) (hliteral : Files.IsLiteral engine config.database)
  (horderly : Orderly engine config files)
  (h : LibraryRun engine config files report middle made read source output db)

include hlaws hliteral horderly h

theorem LibraryRun.steady : Files.Steady (lone engine config files) made :=
  (h.sourced.steady hlaws hliteral horderly).trans (steady_of_made h.parent)

/-- The database is ready when the output is open. -/
theorem LibraryRun.isReady : IsReady (written made output []) source :=
  (h.sourced.isReady hlaws hliteral horderly).1.output (extends_of_made h.parent) h.puts

/-- The output is where it was when the database has been queried. -/
theorem LibraryRun.stays : Output config.output read output := by
  have hready := h.isReady hlaws hliteral horderly
  have hleaves := Files.leaves_database hlaws hready.isSafe
  rw [h.database] at hleaves
  exact (h.puts.stays []).leaves hleaves hready.no_link

end

theorem writeOut_eq_ok_iff :
    (writeOut engine config source seeded).ends files = (later, .ok report)
      ↔ ∃ opened output records, (createOutput config.output).ends files = (opened, .ok output)
        ∧ (writeBooks engine source output config.interval).ends opened = (later, .ok records)
        ∧ report = ⟨seeded, records, config.output⟩ := by
  rw [writeOut, Procedure.ends_bind_ok (Procedure.ends_report _ files), Procedure.ends_bind_eq_ok]
  constructor
  · rintro ⟨opened, output, houtput, hopened⟩
    obtain ⟨last, records, hwrite, hlast⟩ := Procedure.ends_bind_eq_ok.1 hopened
    rw [Procedure.ends_bind_ok (Procedure.ends_report _ last), Procedure.ends_pure] at hlast
    cases hlast
    exact ⟨opened, output, records, houtput, Procedure.ends_within_eq_ok.1 hwrite, rfl⟩
  · rintro ⟨opened, output, records, houtput, hwrite, rfl⟩
    refine ⟨opened, output, houtput, ?_⟩
    rw [Procedure.ends_bind_ok (Procedure.ends_within_eq_ok.2 hwrite),
      Procedure.ends_bind_ok (Procedure.ends_report _ later), Procedure.ends_pure]

/-- **A library conversion that succeeds** has passed all stations. -/
theorem convertLibrary_eq_ok_iff :
    (convertLibrary engine config).ends files = (later, .ok report)
      ↔ ∃ middle made read source output db,
        LibraryRun engine config files report middle made read source output db
          ∧ later = booksWritten config db output read := by
  constructor
  · intro h
    have hbind := h
    rw [convertLibrary] at hbind
    obtain ⟨opened, ⟨target, created⟩, hopen, -⟩ := Procedure.ends_bind_eq_ok.1 hbind
    have hlocal := Procedure.ends_within_eq_ok.1 hopen
    rw [convertLibrary_ends hlocal] at h
    obtain ⟨middle, ⟨source, seeded⟩, hseed, hout⟩ := Procedure.ends_bind_eq_ok.1 h
    obtain ⟨last, output, records, houtput, hwrite, rfl⟩ := writeOut_eq_ok_iff.1 hout
    obtain ⟨made, hparent, hputs, rfl⟩ := createOutput_eq_ok houtput
    obtain ⟨read, db, hdatabase, hresult, rfl⟩ := writeBooks_eq_ok_iff.1 hwrite
    exact ⟨middle, made, read, source, output, db,
      ⟨sourced_iff.1 ⟨target, created, opened, hlocal, hseed⟩, hparent, hputs, hdatabase, hresult,
        rfl⟩, rfl⟩
  · rintro ⟨middle, made, read, source, output, db, h, rfl⟩
    obtain ⟨target, created, opened, hlocal, hseed⟩ := sourced_iff.2 h.sourced
    rw [convertLibrary_ends hlocal, Procedure.ends_bind_ok hseed]
    refine writeOut_eq_ok_iff.2 ⟨_, output, report.records, createOutput_ok h.parent h.puts,
      h.writes, ?_⟩
    rw [← h.outputs]

end

/-! ## Tables -/

/-- The stations of a fiction conversion that succeeds: its database is opened, both outputs are opened
one after the other, and the table is queried and its datasets are written. -/
structure FictionRun (engine : Engine) (config : FictionConfig) (files : Files)
    (report : FictionReport) (above below read : Files) (source : Connection)
    (json custom : Location) (db : Database) : Prop where
  connects : files.connect engine config.database = .ok source
  jsonParent : files.createDirectories (Path.parent config.jsonOutput) = (above, .ok ())
  jsonPuts : Output config.jsonOutput above json
  customParent : (written above json []).createDirectories (Path.parent config.customOutput)
    = (below, .ok ())
  customPuts : Output config.customOutput below custom
  apart : json ≠ custom
  database : (written below custom []).database engine .querying source = (read, .ok db)
  dataset : (Fiction.writeDatasets db config.table ⟨.unlimited, .unlimited⟩ config.interval).result
    = .ok report.counts
  outputs : report.jsonOutput = config.jsonOutput ∧ report.customOutput = config.customOutput

/-- The tree with a table's datasets in their places. -/
def tableWritten (config : FictionConfig) (db : Database) (json custom : Location)
    (files : Files) : Files :=
  let sinks := (Fiction.writeDatasets db config.table ⟨.unlimited, .unlimited⟩ config.interval).sinks
  written (written files json sinks.json.taken) custom sinks.custom.taken

section

variable {config : FictionConfig} {report : FictionReport} {above below read : Files}
  {json custom : Location} {db : Database}

theorem writeTable_eq_ok_iff :
    (writeTable engine config source).ends files = (later, .ok report)
      ↔ ∃ opened json last custom counts,
        (createOutput config.jsonOutput).ends files = (opened, .ok json)
        ∧ (createOutput config.customOutput).ends opened = (last, .ok custom)
        ∧ (writeFiction engine source config.table json custom config.interval).ends last
          = (later, .ok counts)
        ∧ report = ⟨counts, config.jsonOutput, config.customOutput⟩ := by
  rw [writeTable, Procedure.ends_bind_ok (Procedure.ends_report _ files), Procedure.ends_bind_eq_ok]
  constructor
  · rintro ⟨opened, json, hjson, hopened⟩
    obtain ⟨last, custom, hcustom, hlast⟩ := Procedure.ends_bind_eq_ok.1 hopened
    obtain ⟨final, counts, hwrite, hfinal⟩ := Procedure.ends_bind_eq_ok.1 hlast
    rw [Procedure.ends_bind_ok (Procedure.ends_report _ final), Procedure.ends_pure] at hfinal
    cases hfinal
    exact ⟨opened, json, last, custom, counts, hjson, hcustom,
      Procedure.ends_within_eq_ok.1 hwrite, rfl⟩
  · rintro ⟨opened, json, last, custom, counts, hjson, hcustom, hwrite, rfl⟩
    refine ⟨opened, json, hjson, ?_⟩
    rw [Procedure.ends_bind_ok hcustom,
      Procedure.ends_bind_ok (Procedure.ends_within_eq_ok.2 hwrite),
      Procedure.ends_bind_ok (Procedure.ends_report _ later), Procedure.ends_pure]

section

variable (h : FictionRun engine config files report above below read source json custom db)

include h

/-- The last step writes the datasets. -/
theorem FictionRun.writes :
    (writeFiction engine source config.table json custom config.interval).ends
      (written below custom []) = (tableWritten config db json custom read, .ok report.counts) :=
  (writeFiction_eq_ok_iff h.apart).2 ⟨read, db, h.database, h.dataset, rfl⟩

theorem FictionRun.steady : Files.Steady files above ∧ Files.Steady files below := by
  have habove := steady_of_made h.jsonParent
  exact ⟨habove, (habove.trans (h.jsonPuts.steady [])).trans (steady_of_made h.customParent)⟩

theorem FictionRun.ends :
    (convertFiction engine config).ends files = (tableWritten config db json custom read, .ok report) := by
  rw [convertFiction_ends h.connects]
  refine writeTable_eq_ok_iff.2 ⟨_, json, _, custom, report.counts,
    createOutput_ok h.jsonParent h.jsonPuts, createOutput_ok h.customParent h.customPuts,
    h.writes, ?_⟩
  rw [← h.outputs.1, ← h.outputs.2]

/-- Both outputs are where they were when the second one is open. -/
theorem FictionRun.opens : Output config.jsonOutput (written below custom []) json
    ∧ Output config.customOutput (written below custom []) custom := by
  have hjson := (h.jsonPuts.stays []).extends (hasOctets_written above h.jsonPuts.ne_nil [])
    (extends_of_made h.customParent)
  exact ⟨hjson.another h.customPuts [], h.customPuts.stays []⟩

variable (hlaws : engine.Lawful)
  (htidy : ∀ place ∈ files.seat engine config.database, IsTidy files place)

include htidy

/-- The database is ready when the outputs are open. -/
theorem FictionRun.isReady : IsReady (written below custom []) source :=
  ((isReady_of_connect htidy h.connects).output (extends_of_made h.jsonParent) h.jsonPuts).output
    (extends_of_made h.customParent) h.customPuts

include hlaws

/-- Both outputs are where they were when the table has been queried, whatever is written to them. -/
theorem FictionRun.stays : Output config.jsonOutput read json ∧ Output config.customOutput read custom := by
  have hready := h.isReady htidy
  have hleaves := Files.leaves_database hlaws hready.isSafe
  rw [h.database] at hleaves
  exact ⟨h.opens.1.leaves hleaves hready.no_link, h.opens.2.leaves hleaves hready.no_link⟩

end

/-- **A fiction conversion that succeeds** has passed all stations, where its outputs do not name one
file. -/
theorem convertFiction_eq_ok_iff
    (hnames : files.Differ config.jsonOutput config.customOutput) :
    (convertFiction engine config).ends files = (later, .ok report)
      ↔ ∃ above below read source json custom db,
        FictionRun engine config files report above below read source json custom db
          ∧ later = tableWritten config db json custom read := by
  constructor
  · intro h
    rcases hconnect : files.connect engine config.database with error | source
    · have hends : (convertFiction engine config).ends files = _ :=
        Procedure.ends_bind_error (Procedure.ends_within_error (connect_error hconnect) _) _
      cases hends.symm.trans h
    rw [convertFiction_ends hconnect] at h
    obtain ⟨opened, json, last, custom, counts, hjson, hcustom, hwrite, rfl⟩ :=
      writeTable_eq_ok_iff.1 h
    obtain ⟨above, hjsonParent, hjsonPuts, rfl⟩ := createOutput_eq_ok hjson
    obtain ⟨below, hcustomParent, hcustomPuts, rfl⟩ := createOutput_eq_ok hcustom
    have habove := steady_of_made hjsonParent
    have hbelow := (habove.trans (hjsonPuts.steady [])).trans (steady_of_made hcustomParent)
    have hapart : json ≠ custom := by
      rintro rfl
      exact hnames json (hjsonPuts.names habove) (hcustomPuts.names hbelow)
    obtain ⟨read, db, hdatabase, hresult, rfl⟩ := (writeFiction_eq_ok_iff hapart).1 hwrite
    exact ⟨above, below, read, source, json, custom, db, ⟨hconnect, hjsonParent, hjsonPuts,
      hcustomParent, hcustomPuts, hapart, hdatabase, hresult, rfl, rfl⟩, rfl⟩
  · rintro ⟨above, below, read, source, json, custom, db, h, rfl⟩
    exact h.ends

end

end Conversion

end BookDatasets
