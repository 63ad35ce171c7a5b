/-
  A dataset never depends on what was in its output before.

  1. **Two runs** — from trees that differ only at the outputs one run passes the stations of the other,
     one after the other (`ListingRun.twins` and its like).  Sources are elsewhere, so they are read
     alike; each output that is opened is the same in both from then on; and when the last one is open
     nothing differs any more.  A failure needs no argument: were the other run a success, so were this.
  2. **The dataset** — what stands in an output is what was written to an empty sink, for the source as it
     is found when the run has ended.
  3. **Once more** — a second run finds the source, opens the outputs in their places, and from there on
     it writes what it wrote (`ListingRun.again` and its like).  What is beside a database may change
     once more, and nothing else.
-/
import BookDatasets.Proofs.Conversion.Stations
import BookDatasets.Proofs.Files.Bundled

namespace BookDatasets

namespace Conversion

variable {path name : Text} {files other later middle made read : Files} {place there output : Location}
  {spots : Location → Prop} {sources : List Location} {outputs : List Text} {source : Connection}
  {octets : Bytes} {engine : Engine}

/-! ## Trees that differ at outputs -/

/-- The places that paths lead to. -/
def Targets (files : Files) (paths : List Text) (place : Location) : Prop :=
  ∃ path ∈ paths, ∃ spot, files.locate .existing path = .ok spot ∧ spot.place = place

/-- No output names the place of a source, or what another output names. -/
structure NamedApart (sources : List Location) (outputs : List Text) (files : Files) : Prop where
  sources : ∀ output ∈ outputs, ∀ place ∈ sources, files.names output ≠ some place
  outputs : outputs.Pairwise files.Differ

instance (sources : List Location) (outputs : List Text) (files : Files) :
    Decidable (NamedApart sources outputs files) :=
  decidable_of_iff ((∀ output ∈ outputs, ∀ place ∈ sources, files.names output ≠ some place)
    ∧ outputs.Pairwise files.Differ) ⟨fun h => ⟨h.1, h.2⟩, fun h => ⟨h.sources, h.outputs⟩⟩

theorem NamedApart.differ {first second : Text} (h : NamedApart sources [first, second] files) :
    files.Differ first second :=
  List.rel_of_pairwise_cons h.outputs List.mem_cons_self

/-- Places with all that is beside them. -/
def around (places : List Location) : List Location := places ++ places.flatMap Files.sidecars

theorem mem_around {places : List Location} (hplace : place ∈ places)
    (h : there = place ∨ there ∈ Files.sidecars place) : there ∈ around places := by
  rcases h with rfl | hthere
  · exact List.mem_append_left _ hplace
  · exact List.mem_append_right _ (List.mem_flatMap.2 ⟨place, hplace, hthere⟩)

/-- The output of a listing is elsewhere. -/
def ListingApart (config : ListingConfig) (files : Files) : Prop :=
  NamedApart (files.names config.listing).toList [config.output] files

instance (config : ListingConfig) (files : Files) : Decidable (ListingApart config files) :=
  inferInstanceAs (Decidable (NamedApart _ _ _))

/-- The output of books is neither where the database or the dump is, nor beside them, also if what is
there has gone. -/
structure BooksApart (engine : Engine) (config : LibraryConfig) (files : Files) : Prop
    extends Orderly engine config files where
  apart : NamedApart (around (seats engine config files)) [config.output] (lone engine config files)

instance (engine : Engine) (config : LibraryConfig) (files : Files) :
    Decidable (BooksApart engine config files) :=
  decidable_of_iff (Orderly engine config files
      ∧ NamedApart (around (seats engine config files)) [config.output] (lone engine config files))
    ⟨fun h => ⟨h.1, h.2⟩, fun h => ⟨h.toOrderly, h.apart⟩⟩

/-- The outputs of a table are neither where the database is, nor beside it, and the database is tidy. -/
structure TableApart (engine : Engine) (config : FictionConfig) (files : Files) : Prop where
  tidy : ∀ place ∈ files.seat engine config.database, IsTidy files place
  apart : NamedApart (around (files.seat engine config.database).toList)
    [config.jsonOutput, config.customOutput] files

instance (engine : Engine) (config : FictionConfig) (files : Files) :
    Decidable (TableApart engine config files) :=
  decidable_of_iff ((∀ place ∈ files.seat engine config.database, IsTidy files place)
      ∧ NamedApart (around (files.seat engine config.database).toList)
        [config.jsonOutput, config.customOutput] files)
    ⟨fun h => ⟨h.1, h.2⟩, fun h => ⟨h.tidy, h.apart⟩⟩

/-- Two trees that differ at most in what the outputs hold: there is nothing or a file, in either. -/
structure Counterparts (isApart : Files → Prop) (outputs : List Text) (files other : Files) :
    Prop where
  twins : Files.Twins (Targets files outputs) files other
  apart : isApart files
  apart' : isApart other

/-- The database and the dump are named alike in two trees. -/
structure SeatedAlike (engine : Engine) (config : LibraryConfig) (files other : Files) : Prop where
  database : files.names config.database = other.names config.database
  dump : ∀ dump ∈ config.dump, files.seat engine dump = other.seat engine dump

instance (engine : Engine) (config : LibraryConfig) (files other : Files) :
    Decidable (SeatedAlike engine config files other) :=
  decidable_of_iff (files.names config.database = other.names config.database
      ∧ ∀ dump ∈ config.dump, files.seat engine dump = other.seat engine dump)
    ⟨fun h => ⟨h.1, h.2⟩, fun h => ⟨h.database, h.dump⟩⟩

theorem SeatedAlike.symm {config : LibraryConfig} (h : SeatedAlike engine config files other) :
    SeatedAlike engine config other files :=
  ⟨h.database.symm, fun dump hdump => (h.dump dump hdump).symm⟩

/-- A file that is put where an output leads, and nothing stands, makes no other difference. -/
theorem counterparts_put {isApart : Files → Prop} {dir : Location} {slash : Bool} {content : Content}
    (hpath : path ∈ outputs) (hlocate : files.locate .existing path = .ok (.entry dir name slash))
    (hfree : files.find? (name :: dir) = none) (hapart : isApart files)
    (hapart' : isApart (files.put (name :: dir) (.file content))) :
    Counterparts isApart outputs files (files.put (name :: dir) (.file content)) := by
  have hself : Files.Twins (Targets files outputs) files files := .of_same fun _ => rfl
  exact ⟨hself.put_one ⟨path, hpath, _, hlocate, rfl⟩ (Files.isBlank_of_none hfree)
    (List.cons_ne_nil name dir) content, hapart, hapart'⟩

theorem Counterparts.symm {isApart : Files → Prop} (h : Counterparts isApart outputs files other) :
    Counterparts isApart outputs other files := by
  refine ⟨h.twins.symm.mono ?_, h.apart', h.apart⟩
  rintro place ⟨path, hpath, spot, hlocate, rfl⟩
  exact ⟨path, hpath, spot, h.twins.grows.locate hlocate, rfl⟩

/-- The places of a run's outputs, as its paths name them. -/
def Puts (files : Files) (outputs : List Text) (spots : Location → Prop) : Prop :=
  ∀ place, spots place → ∃ path ∈ outputs, files.names path = some place

/-- **A source is elsewhere.** -/
theorem NamedApart.avoids (h : NamedApart sources outputs files) (hputs : Puts files outputs spots) :
    ∀ place ∈ sources, ¬ spots place := by
  intro place hplace hspot
  obtain ⟨output, houtput, hname⟩ := hputs place hspot
  exact h.sources output houtput place hplace hname

/-- A path that leads to a place at the beginning has its output there. -/
theorem Output.eq_of_locate {spot : Files.Spot} (h : Output path made place)
    (hgrows : Files.Grows files made) (hlocate : files.locate .existing path = .ok spot) :
    spot.place = place := by
  obtain ⟨dir, name, rfl, hfound⟩ := h.found
  cases (hgrows.locate hlocate).symm.trans hfound
  rfl

/-- One output is where it is put. -/
theorem Output.puts_alone (h : Output path made place) (hsteady : Files.Steady files made) :
    Puts files [path] (· = place) := by
  rintro there rfl
  exact ⟨path, List.mem_cons_self, h.names hsteady⟩

/-- Trees that differ at one output differ at most where it is put. -/
theorem Output.twins_alone (h : Output path made place) (hgrows : Files.Grows files made)
    (htwins : Files.Twins (Targets files [path]) files other) :
    Files.Twins (· = place) files other := by
  refine htwins.mono ?_
  rintro there ⟨_, hpath, spot, hlocate, rfl⟩
  obtain rfl := List.mem_singleton.1 hpath
  exact h.eq_of_locate hgrows hlocate

/-- Whatever is written to an output, a tree is its own twin up to its place. -/
theorem Output.twins_written (h : Output path files place) (octets : Bytes) :
    Files.Twins (· = place) files (written files place octets) := by
  have hself : Files.Twins (· = place) files files := .of_same fun _ => rfl
  exact hself.put_one rfl h.free h.ne_nil _

/-! ## Two runs -/

/-- A run succeeds from both trees with the same report, or from neither; and it leaves the same tree. -/
def Alike {α : Type} (run : Procedure α) (files other : Files) : Prop :=
  ∀ report, ((run files).result = .ok report ↔ (run other).result = .ok report)
    ∧ ((run files).result = .ok report →
      ∀ place, (run other).files.find? place = (run files).files.find? place)

/-- Whatever a run comes to from one tree, it comes to the same from the other, if it succeeds. -/
def Follows {α : Type} (run : Procedure α) (files other : Files) : Prop :=
  ∀ later report, run.ends files = (later, .ok report) →
    ∃ later', run.ends other = (later', .ok report)
      ∧ ∀ place, later'.find? place = later.find? place

/-- **A run that succeeds from either tree** whenever it does from the other comes to the same. -/
theorem alike_of_follows {α : Type} {run : Procedure α} (h : Follows run files other)
    (h' : Follows run other files) : Alike run files other := by
  intro report
  refine ⟨⟨fun hresult => ?_, fun hresult => ?_⟩, fun hresult => ?_⟩
  · obtain ⟨later', hends, -⟩ := h _ report (Procedure.ends_of_result hresult)
    exact (Prod.mk.inj hends).2
  · obtain ⟨later', hends, -⟩ := h' _ report (Procedure.ends_of_result hresult)
    exact (Prod.mk.inj hends).2
  · obtain ⟨later', hends, hsame⟩ := h _ report (Procedure.ends_of_result hresult)
    obtain rfl := (Prod.mk.inj hends).1
    exact hsame

/-- A run succeeds, its outputs hold what they held, and nothing changes but at some places. -/
structure Repeats {α : Type} (run : Procedure α) (outputs : List Text) (spots : Location → Prop)
    (files : Files) (report : α) : Prop where
  result : (run files).result = .ok report
  outputs : ∀ path ∈ outputs, (run files).files.readAt path = files.readAt path
  others : ∀ place, ¬ spots place → (run files).files.find? place = files.find? place

theorem repeats_of_ends {α : Type} {run : Procedure α} {report : α}
    (h : run.ends files = (later, .ok report))
    (houtputs : ∀ path ∈ outputs, later.readAt path = files.readAt path)
    (hothers : ∀ place, ¬ spots place → later.find? place = files.find? place) :
    Repeats run outputs spots files report := by
  obtain ⟨rfl, hresult⟩ := Prod.mk.inj h
  exact ⟨hresult, houtputs, hothers⟩

/-! ## What stands in an output -/

/-- What is written to an output is read at its path, also behind what is written elsewhere. -/
theorem Output.readAt_of_grows {content : Content} (h : Output path made place)
    (hgrows : Files.Grows made later) (hfind : later.find? place = some (.file content)) :
    later.readAt path = .ok content.octets := by
  obtain ⟨dir, name, rfl, hlocate⟩ := h.found
  exact Files.readAt_of_openRead (Files.openRead_of_existing (hgrows.locate hlocate) hfind) hfind

/-! ## Listings -/

section

variable {network : Web.Network} {config : ListingConfig} {report : ListingReport}
  {source : Location} {sink : Sink}

/-- The output holds the dataset of the listing, and nothing else. -/
def HoldsListing (config : ListingConfig) (report : ListingReport) (files : Files) : Prop :=
  ∃ octets sink, files.readAt config.listing = .ok octets
    ∧ Listing.writeDataset octets .unlimited = (sink, .ok report.records)
    ∧ files.readAt config.output = .ok sink.taken

variable (h : ListingRun network config files report middle made source output octets sink)
  (hapart : ListingApart config files)

include h hapart

/-- The listing is elsewhere. -/
theorem ListingRun.avoids : Avoiding (· = output) config.listing files := by
  have havoids := NamedApart.avoids hapart (h.puts.puts_alone h.steady)
  exact fun place hname => havoids place (Option.mem_toList.2 hname)

/-- The listing is a file, and it is not where the output is put. -/
theorem ListingRun.finds_source :
    source ≠ output ∧ ∃ content, middle.find? source = some (.file content)
      ∧ content.octets = octets := by
  have hextends := extends_of_made h.parent
  obtain ⟨_, node, -, -, hnode, -⟩ := Files.openRead_eq_ok_iff.1 h.opens
  have hplaces : source ≠ output := by
    rintro rfl
    -- A file stands where the output is put, so the listing would be named there.
    obtain ⟨content, rfl⟩ := Files.IsBlank.of_grows h.puts.free hextends.grows node hnode
    exact h.avoids hapart source (names_of_openRead h.acquired.steady h.opens hnode) rfl
  have hread := h.reads
  rw [Files.read, find?_written h.puts.ne_nil, if_neg hplaces, hextends.keeps _ _ hnode] at hread
  refine ⟨hplaces, ?_⟩
  cases node with
  | file content => exact ⟨content, hnode, Except.ok.inj hread⟩
  | directory => cases hread
  | link target => cases hread

/-- **From trees that differ at the output** a listing conversion comes to the same. -/
theorem ListingRun.twins (hquiet : (network config.url config.userAgent).removes = none)
    (htwins : Files.Twins (Targets files [config.output]) files other) :
    ∃ later', (convertListing network config).ends other = (later', .ok report)
      ∧ ∀ place, later'.find? place = (written made output sink.taken).find? place := by
  have hgrows := (extends_of_made h.parent).grows
  obtain ⟨middle', hacquired, hmiddle⟩ := acquired_twins (h.puts.twins_alone h.steady.grows htwins)
    (h.avoids hapart) (by rintro _ rfl; exact Files.IsBlank.of_grows h.puts.free hgrows) h.acquired
  have hopens := hmiddle.openRead h.opens (h.finds_source hapart).1
  obtain ⟨opened, hcreate, hopened⟩ := createOutput_twins hmiddle
    (createOutput_ok h.parent h.puts) (by rintro _ rfl; exact h.puts.isBlank_written [])
  obtain ⟨later', hwrite, hlater⟩ := writeListing_twins hopened h.puts.ne_nil
    (fun hspot => hspot.2 hspot.1) h.writes
  obtain ⟨made', hparent, hputs, rfl⟩ := createOutput_eq_ok hcreate
  obtain ⟨octets', sink', hreads, hdataset, rfl⟩ := writeListing_eq_ok_iff.1 hwrite
  refine ⟨_, (convertListing_eq_ok_iff hquiet).2 ⟨middle', made', source, output, octets', sink',
    ⟨h.client, hacquired, hopens, hparent, hputs, hreads, hdataset, h.outputs⟩,
    written_written made' output [] sink'.taken⟩, fun place => ?_⟩
  exact hlater.find? fun hspot => hspot.2 hspot.1

/-- **The dataset of the listing** stands in the output, and the listing is where it was. -/
theorem ListingRun.holds : HoldsListing config report (written made output sink.taken) := by
  obtain ⟨hplaces, content, hfind, rfl⟩ := h.finds_source hapart
  have hextends := extends_of_made h.parent
  have hlater : (written made output sink.taken).find? source = some (.file content) := by
    rw [find?_written h.puts.ne_nil, if_neg hplaces, hextends.keeps _ _ hfind]
  obtain ⟨dir, name, rfl, hlocate⟩ := Files.locate_of_openRead h.opens hfind
  refine ⟨content.octets, sink, ?_, h.dataset, h.puts.readAt sink.taken⟩
  exact Files.readAt_of_openRead (Files.openRead_of_existing
    ((hextends.grows.trans (h.puts.grows sink.taken)).locate hlocate) hlater) hlater

/-- **A second run** finds the listing, and leaves everything as it was. -/
theorem ListingRun.again {network' : Web.Network} :
    ListingRun network' config (written made output sink.taken) { report with downloaded := false }
      (written made output sink.taken) (written made output sink.taken) source output octets sink := by
  obtain ⟨hplaces, content, hfind, -⟩ := h.finds_source hapart
  have hextends := extends_of_made h.parent
  have hsteady := (steady_of_made h.parent).trans (h.puts.steady sink.taken)
  obtain ⟨hstands, hplain⟩ := h.acquired.stands_plain
  have hstands' := hsteady.stands hstands
  have hputs := h.puts.stays sink.taken
  refine ⟨h.client, ?_, ?_, hputs.parent, hputs, ?_, h.dataset, h.outputs⟩
  · have hacquired := @Acquired.stands (network' config.url config.userAgent) config.url
      config.listing (written made output sink.taken)
    rw [Files.withParent_of_stands hstands'] at hacquired
    exact hacquired hstands' hplain
  · obtain ⟨dir, name, rfl, hlocate⟩ := Files.locate_of_openRead h.opens hfind
    have hlater : (written made output sink.taken).find? (name :: dir) = some (.file content) := by
      rw [find?_written h.puts.ne_nil, if_neg hplaces, hextends.keeps _ _ hfind]
    exact Files.openRead_of_existing (hsteady.grows.locate hlocate) hlater
  · rw [written_written]
    exact h.reads

omit h hapart

variable (hquiet : (network config.url config.userAgent).removes = none)

include hquiet

theorem convertListing_follows
    (hboth : Counterparts (ListingApart config) [config.output] files other) :
    Follows (convertListing network config) files other := by
  intro later report hends
  obtain ⟨_, _, _, _, _, _, h, rfl⟩ := (convertListing_eq_ok_iff hquiet).1 hends
  exact h.twins hboth.apart hquiet hboth.twins

theorem convertListing_holds (hapart : ListingApart config files)
    (hends : (convertListing network config).ends files = (later, .ok report)) :
    HoldsListing config report later
      ∧ Repeats (convertListing network config) [config.output] (fun _ => False) later
        { report with downloaded := false } := by
  obtain ⟨_, _, _, _, _, _, h, rfl⟩ := (convertListing_eq_ok_iff hquiet).1 hends
  have hagain := (convertListing_eq_ok_iff hquiet).2 ⟨_, _, _, _, _, _, h.again hapart, rfl⟩
  rw [written_written] at hagain
  exact ⟨h.holds hapart, repeats_of_ends hagain (fun _ _ => rfl) fun _ _ => rfl⟩

end

/-! ## Books -/

section

variable {config : LibraryConfig} {report : LibraryReport} {seeded : Option Nat} {db : Database}

/-- **A database that is come by in one tree** is come by in the other. -/
theorem Sourced.twins (hlaws : engine.Lawful) (hliteral : Files.IsLiteral engine config.database)
    (horderly : Orderly engine config files)
    (h : Sourced engine config files middle source seeded) (htwins : Files.Twins spots files other)
    (hblank : ∀ there, spots there → middle.IsBlank there)
    (halike : SeatedAlike engine config files other)
    (havoids : ∀ place ∈ seats engine config files, ∀ there,
      there = place ∨ there ∈ Files.sidecars place → ¬ spots there) :
    ∃ middle', Sourced engine config other middle' source seeded
      ∧ Files.Twins spots middle middle' := by
  have hdatabase : SamePath spots config.database files other := fun place hname =>
    ⟨halike.database.symm.trans hname, havoids place (mem_seats_iff.2 (Or.inl hname)) _ (Or.inl rfl)⟩
  cases h with
  | found hfinds =>
    obtain ⟨hfinds', htwins'⟩ := hfinds.twins hliteral htwins hblank hdatabase
    exact ⟨_, .found hfinds', htwins'⟩
  | @seeded dir name dump target origin _ _ _ hmakes hsome hconnect hcopy =>
    obtain ⟨-, hgrows⟩ := hmakes.leaves hlaws hliteral horderly hsome hconnect hcopy
    obtain ⟨hmakes', hparents⟩ := hmakes.twins hliteral htwins (fun there hspot =>
      (hblank there hspot).of_grows ((Files.Steady.put_free hmakes.free (.bytes [])).grows.trans hgrows))
      hdatabase.avoiding
    have hplace : name :: dir ≠ [] := List.cons_ne_nil name dir
    have hput := (hparents.put hplace (.file (.bytes []))).mono fun _ hspot => hspot.1
    have hother := Files.extends_of_createDirectories other (Path.parent config.database)
    have hdump : SameDatabase engine spots dump files other := fun place hseat =>
      ⟨(halike.dump dump hsome).symm.trans hseat,
        havoids place (mem_seats_iff.2 (Or.inr ⟨dump, hsome, hseat⟩)) _ (Or.inl rfl)⟩
    -- No file has come in either tree but the new database, which has come in both.
    have hsame := hdump.grown
      ((Files.steady_withParent files config.database).trans (Files.Steady.put_free hmakes.free _))
      (hother.grows.trans (Files.Steady.put_free hmakes'.free _).grows) hput ?_
    · obtain ⟨hnames, hlinkless⟩ := hmakes.names_linkless horderly.database
      have htarget : ∀ place, target = .stored place → place = name :: dir := by
        rintro place rfl
        rcases hmakes.isNew hliteral with hnew | hnew
        · cases hnew
        · cases hnew
          rfl
      have hempty : ((files.withParent config.database).put (name :: dir)
          (.file (.bytes []))).content? (name :: dir) = some (.bytes []) := by
        rw [Files.content?, Files.find?_put_file]
      obtain ⟨middle', hcopy', hmiddle⟩ := copyDump_twins hlaws hput (hmakes.isNew hliteral) hempty
        (fun place hplace => htarget place hplace ▸ havoids _ (mem_seats_iff.2 (Or.inl hnames)))
        (fun place hplace => havoids place (horderly.of_connect hmakes hsome (hplace ▸ hconnect)).1)
        (fun place hplace => htarget place hplace ▸ hlinkless)
        (fun place hplace => (horderly.of_connect hmakes hsome (hplace ▸ hconnect)).2) hcopy
      exact ⟨middle', .seeded hmakes' hsome (hput.connect hconnect hsame) hcopy', hmiddle⟩
    · intro place hcontent
      rw [Files.content?, Files.find?_put _ hplace] at hcontent
      split_ifs at hcontent with hthere
      · subst hthere
        exact Or.inr (Files.content?_isSome_iff.2 ⟨_, Files.find?_put_file _ _ _ _⟩)
      · exact Or.inl (content?_of_extends hother place hcontent)

/-- The output holds the dataset of the database that the run opened and seeded, and nothing else. -/
def HoldsBooks (engine : Engine) (config : LibraryConfig) (start : Files) (report : LibraryReport)
    (files : Files) : Prop :=
  ∃ target created made middle source db,
    (openLocal engine config.database).ends start = (made, .ok (target, created))
    ∧ (seedIfNew engine config target created).ends made = (middle, .ok (source, report.seeded))
    ∧ (engine.resolve config.database = .ok (some config.database) →
      ∃ place, source = .stored place ∧ start.names config.database = some place)
    ∧ (files.database engine .querying source).2 = .ok db
    ∧ (Library.writeDataset db .unlimited config.interval).result = .ok report.records
    ∧ files.readAt config.output
      = .ok (Library.writeDataset db .unlimited config.interval).sink.taken

section

variable (hlaws : engine.Lawful) (hliteral : Files.IsLiteral engine config.database)
  (hapart : BooksApart engine config files)
  (h : LibraryRun engine config files report middle made read source output db)

include hlaws hliteral hapart h

/-- The output is neither where the database or the dump is, nor beside them. -/
theorem LibraryRun.avoids_seats : ∀ place ∈ seats engine config files, ∀ there,
    there = place ∨ there ∈ Files.sidecars place → there ≠ output := by
  have havoids := hapart.apart.avoids (h.puts.puts_alone (h.steady hlaws hliteral hapart.toOrderly))
  exact fun place hplace there hthere => havoids there (mem_around hplace hthere)

theorem LibraryRun.avoids : Files.Avoids (· = output) source := fun place hsource =>
  h.avoids_seats hlaws hliteral hapart place (mem_seats_iff.2
    (Or.inl ((h.sourced.isReady hlaws hliteral hapart.toOrderly).2 place hsource)))

/-- **From trees that differ at the output** a library conversion comes to the same. -/
theorem LibraryRun.twins (htwins : Files.Twins (Targets files [config.output]) files other)
    (halike : SeatedAlike engine config files other) :
    ∃ later', (convertLibrary engine config).ends other = (later', .ok report)
      ∧ ∀ place, later'.find? place = (booksWritten config db output read).find? place := by
  have hgrows := (extends_of_made h.parent).grows
  have hstart := (h.sourced.grows hlaws hliteral hapart.toOrderly).trans hgrows
  obtain ⟨middle', hsourced, hmiddle⟩ := h.sourced.twins hlaws hliteral hapart.toOrderly
    (h.puts.twins_alone hstart htwins) (by rintro _ rfl; exact h.puts.free.of_grows hgrows) halike
    (h.avoids_seats hlaws hliteral hapart)
  obtain ⟨opened, hcreate, hopened⟩ := createOutput_twins hmiddle
    (createOutput_ok h.parent h.puts) (by rintro _ rfl; exact h.puts.isBlank_written [])
  obtain ⟨later', hwrite, hlater⟩ := writeBooks_twins hopened h.puts.ne_nil hlaws
    (h.isReady hlaws hliteral hapart.toOrderly) (fun _ _ _ _ hspot => hspot.2 hspot.1) h.writes
  obtain ⟨made', hparent, hputs, rfl⟩ := createOutput_eq_ok hcreate
  obtain ⟨read', db', hdatabase, hresult, rfl⟩ := writeBooks_eq_ok_iff.1 hwrite
  exact ⟨_, convertLibrary_eq_ok_iff.2 ⟨middle', made', read', source, output, db',
    ⟨hsourced, hparent, hputs, hdatabase, hresult, h.outputs⟩, rfl⟩,
    fun place => hlater.find? fun hspot => hspot.2 hspot.1⟩

/-- **The dataset of the database** stands in the output, and the database is what it was. -/
theorem LibraryRun.holds :
    HoldsBooks engine config files report (booksWritten config db output read) := by
  obtain ⟨target, created, opened, hopen, hseed⟩ := sourced_iff.2 h.sourced
  have hstays := h.stays hlaws hliteral hapart.toOrderly
  obtain ⟨-, last, hagain, -⟩ := database_again hlaws (h.isReady hlaws hliteral hapart.toOrderly)
    h.database (hstays.twins_written _) (h.avoids hlaws hliteral hapart)
  refine ⟨target, created, opened, middle, source, db, hopen, hseed, fun hresolve => ?_,
    congrArg Prod.snd hagain, h.dataset, hstays.readAt _⟩
  obtain ⟨⟨place, hsource, hname, -⟩, -⟩ :=
    h.sourced.settled hlaws hliteral hapart.toOrderly hresolve
  exact ⟨place, hsource, hname⟩

/-- The file of the database is there when the run has ended. -/
theorem LibraryRun.content (hsource : source = .stored place) :
    ((booksWritten config db output read).content? place).isSome := by
  subst hsource
  have hready := h.isReady hlaws hliteral hapart.toOrderly
  obtain ⟨content, hcontent, -⟩ :=
    hlaws.truthful (hready place rfl).2 (congrArg Prod.snd h.database)
  have hplace : place ≠ [] := by
    rintro rfl
    cases hcontent
  have hleaves := Files.leaves_database hlaws hready.isSafe
  rw [h.database] at hleaves
  have hown : ¬ Files.IsBy (.stored place) place := by
    rintro ⟨_, ⟨⟩, hthere⟩
    exact Files.ne_of_mem_sidecars hplace hthere rfl
  rw [booksWritten, Files.content?, find?_written h.puts.ne_nil,
    if_neg (h.avoids hlaws hliteral hapart place rfl place (Or.inl rfl)), hleaves.others place hown]
  exact Option.isSome_iff_exists.2 ⟨content, hcontent⟩

/-- **A second run** finds the database in its file, and the output where it was. -/
theorem LibraryRun.again (hresolve : engine.resolve config.database = .ok (some config.database))
    (halike : files.names config.database
      = (booksWritten config db output read).names config.database) :
    ∃ last, LibraryRun engine config (booksWritten config db output read)
        { report with seeded := none } (booksWritten config db output read)
        (booksWritten config db output read) last source output db
      ∧ Output config.output last output
      ∧ Files.Leaves (Files.IsBy source) (written read output []) last := by
  have hready := h.isReady hlaws hliteral hapart.toOrderly
  have hstays := h.stays hlaws hliteral hapart.toOrderly
  obtain ⟨hready', last, hagain, hleaves⟩ := database_again hlaws hready h.database
    (hstays.twins_written []) (h.avoids hlaws hliteral hapart)
  obtain ⟨⟨place, hsource, hname, -⟩, hstands, hplain⟩ :=
    h.sourced.settled hlaws hliteral hapart.toOrderly hresolve
  have hcontent := h.content hlaws hliteral hapart hsource
  have hread := Files.leaves_database hlaws hready.isSafe
  rw [h.database] at hread
  have hgrows : Files.Grows middle (booksWritten config db output read) :=
    (((extends_of_made h.parent).grows.trans (h.puts.grows [])).trans (hread.grows hready.no_link)).trans
      (hstays.grows _)
  have hstands' : (booksWritten config db output read).stands config.database = true := by
    refine Files.stands_of_grows hgrows (fun there hthere _ => ?_) hstands
    have hlone := (h.sourced.steady hlaws hliteral hapart.toOrderly).names hthere
    cases hlone.symm.trans (hapart.toOrderly.steady.names hname)
    exact hcontent
  have hputs := hstays.stays (Library.writeDataset db .unlimited config.interval).sink.taken
  have hparent := Files.withParent_of_stands hstands'
  refine ⟨last, ⟨?_, hputs.parent, hputs, ?_, h.dataset, h.outputs⟩,
    (hstays.stays []).leaves hleaves hready'.no_link, hleaves⟩
  · have hconnect : (booksWritten config db output read).connect engine config.database
        = .ok source := Files.connect_eq_ok_iff.2 (Or.inr ⟨place,
      (Files.seat_eq_names hresolve).trans (halike.symm.trans hname), hcontent, hsource⟩)
    have hfound := @Sourced.found engine config (booksWritten config db output read) source
      ⟨by rw [hparent]; exact hstands', hplain, by rw [hparent]; exact hconnect⟩
    rw [hparent] at hfound
    exact hfound
  · rw [booksWritten, written_written]
    exact hagain

end

section

variable (hlaws : engine.Lawful) (hliteral : Files.IsLiteral engine config.database)

include hlaws hliteral

theorem convertLibrary_follows
    (hboth : Counterparts (BooksApart engine config) [config.output] files other)
    (halike : SeatedAlike engine config files other) :
    Follows (convertLibrary engine config) files other := by
  intro later report hends
  obtain ⟨_, _, _, _, _, _, h, rfl⟩ := convertLibrary_eq_ok_iff.1 hends
  exact h.twins hlaws hliteral hboth.apart hboth.twins halike

theorem convertLibrary_holds (hapart : BooksApart engine config files)
    (hends : (convertLibrary engine config).ends files = (later, .ok report)) :
    HoldsBooks engine config files report later
      ∧ (engine.resolve config.database = .ok (some config.database) →
        files.names config.database = later.names config.database →
        Repeats (convertLibrary engine config) [config.output] (later.IsBeside config.database) later
          { report with seeded := none }) := by
  obtain ⟨_, _, read, source, output, db, h, rfl⟩ := convertLibrary_eq_ok_iff.1 hends
  refine ⟨h.holds hlaws hliteral hapart, fun hresolve halike => ?_⟩
  have hstays := h.stays hlaws hliteral hapart.toOrderly
  obtain ⟨last, hagain, houtput, hleaves⟩ := h.again hlaws hliteral hapart hresolve halike
  refine repeats_of_ends (convertLibrary_eq_ok_iff.2 ⟨_, _, _, _, _, _, hagain, rfl⟩) ?_ ?_
  · rintro path hpath
    obtain rfl := List.mem_singleton.1 hpath
    exact (houtput.readAt _).trans (hstays.readAt _).symm
  · intro place hbeside
    obtain ⟨⟨own, hsource, hname, -⟩, -⟩ :=
      h.sourced.settled hlaws hliteral hapart.toOrderly hresolve
    have hby : ¬ Files.IsBy source place := by
      rintro ⟨goal, hgoal, hthere⟩
      cases hgoal.symm.trans hsource
      exact hbeside ⟨own, halike.symm.trans hname, hthere⟩
    rw [booksWritten, booksWritten, find?_written h.puts.ne_nil, find?_written h.puts.ne_nil,
      hleaves.others place hby, find?_written h.puts.ne_nil]
    split_ifs
    · rfl
    · rfl

end

end

/-! ## Tables -/

section

variable {config : FictionConfig} {report : FictionReport} {above below : Files}
  {json custom : Location} {db : Database}

/-- The outputs hold the datasets of the table in the database that was opened, and nothing else. -/
def HoldsTable (engine : Engine) (config : FictionConfig) (start : Files) (report : FictionReport)
    (files : Files) : Prop :=
  ∃ source db, start.connect engine config.database = .ok source
    ∧ (files.database engine .querying source).2 = .ok db
    ∧ let writing := Fiction.writeDatasets db config.table ⟨.unlimited, .unlimited⟩ config.interval
      writing.result = .ok report.counts
        ∧ files.readAt config.jsonOutput = .ok writing.sinks.json.taken
        ∧ files.readAt config.customOutput = .ok writing.sinks.custom.taken

theorem find?_tableWritten (hjson : json ≠ []) (hcustom : custom ≠ []) (place : Location) :
    (tableWritten config db json custom files).find? place
      = let sinks :=
          (Fiction.writeDatasets db config.table ⟨.unlimited, .unlimited⟩ config.interval).sinks
        if place = custom then some (.file (.bytes sinks.custom.taken))
        else if place = json then some (.file (.bytes sinks.json.taken))
        else files.find? place := by
  rw [tableWritten, find?_written hcustom, find?_written hjson]

/-- The places of the two outputs. -/
def IsEither (json custom place : Location) : Prop := place = json ∨ place = custom

section

variable (hjson : Output config.jsonOutput files json) (hcustom : Output config.customOutput files custom)

include hjson hcustom

/-- Both outputs may be written again. -/
theorem twins_tableWritten :
    Files.Twins (IsEither json custom) files (tableWritten config db json custom files) := by
  have hself : Files.Twins (IsEither json custom) files files := .of_same fun _ => rfl
  exact (hself.put_one (Or.inl rfl) hjson.free hjson.ne_nil _).put_one (Or.inr rfl) hcustom.free
    hcustom.ne_nil _

/-- Both outputs hold what was written to them. -/
theorem readAt_tableWritten (hapart : json ≠ custom) :
    let sinks := (Fiction.writeDatasets db config.table ⟨.unlimited, .unlimited⟩ config.interval).sinks
    (tableWritten config db json custom files).readAt config.jsonOutput = .ok sinks.json.taken
      ∧ (tableWritten config db json custom files).readAt config.customOutput
        = .ok sinks.custom.taken := by
  have hgrows := (@twins_tableWritten _ _ _ _ db hjson hcustom).grows
  have hfind := @find?_tableWritten files config json custom db hjson.ne_nil hcustom.ne_nil
  have hfindJson := hfind json
  have hfindCustom := hfind custom
  dsimp only at hfindJson hfindCustom
  rw [if_neg hapart, if_pos rfl] at hfindJson
  rw [if_pos rfl] at hfindCustom
  exact ⟨hjson.readAt_of_grows hgrows hfindJson, hcustom.readAt_of_grows hgrows hfindCustom⟩

end

section

variable (hlaws : engine.Lawful) (hapart : TableApart engine config files)
  (h : FictionRun engine config files report above below read source json custom db)

include h

omit hapart in
theorem FictionRun.puts_outputs :
    Puts files [config.jsonOutput, config.customOutput] (IsEither json custom) := by
  rintro place (rfl | rfl)
  · exact ⟨config.jsonOutput, List.mem_cons_self, h.jsonPuts.names h.steady.1⟩
  · exact ⟨config.customOutput, List.mem_cons_of_mem _ List.mem_cons_self,
      h.customPuts.names h.steady.2⟩

/-- Trees that differ at the outputs differ at most where they are put. -/
theorem FictionRun.twins_outputs
    (htwins : Files.Twins (Targets files [config.jsonOutput, config.customOutput]) files other) :
    Files.Twins (IsEither json custom) files other := by
  refine htwins.mono ?_
  rintro place ⟨path, hpath, spot, hlocate, rfl⟩
  rcases List.mem_cons.1 hpath with rfl | hpath
  · exact Or.inl (h.jsonPuts.eq_of_locate h.steady.1.grows hlocate)
  · obtain rfl := List.mem_singleton.1 hpath
    exact Or.inr (h.customPuts.eq_of_locate h.steady.2.grows hlocate)

include hapart

/-- The outputs are neither where the database is, nor beside it. -/
theorem FictionRun.avoids_seat : ∀ place, files.seat engine config.database = some place → ∀ there,
    there = place ∨ there ∈ Files.sidecars place → ¬ IsEither json custom there := by
  have havoids := hapart.apart.avoids h.puts_outputs
  exact fun place hplace there hthere =>
    havoids there (mem_around (Option.mem_toList.2 hplace) hthere)

theorem FictionRun.avoids : Files.Avoids (IsEither json custom) source := by
  rintro place rfl
  exact h.avoids_seat hapart place (Files.seat_of_connect h.connects).1

include hlaws

/-- **From trees that differ at the outputs** a fiction conversion comes to the same. -/
theorem FictionRun.twins
    (htwins : Files.Twins (Targets files [config.jsonOutput, config.customOutput]) files other)
    (halike : files.seat engine config.database = other.seat engine config.database) :
    ∃ later', (convertFiction engine config).ends other = (later', .ok report)
      ∧ ∀ place, later'.find? place = (tableWritten config db json custom read).find? place := by
  have hspots := h.twins_outputs htwins
  have hconnect := hspots.connect h.connects fun place hseat =>
    ⟨halike.symm.trans hseat, h.avoids_seat hapart place hseat _ (Or.inl rfl)⟩
  obtain ⟨opened, hjson, hopened⟩ := createOutput_twins hspots
    (createOutput_ok h.jsonParent h.jsonPuts) (by
      rintro there (rfl | rfl)
      · exact h.jsonPuts.isBlank_written []
      · exact h.customPuts.free.of_grows (extends_of_made h.customParent).grows)
  obtain ⟨last, hcustom, hlast⟩ := createOutput_twins hopened
    (createOutput_ok h.customParent h.customPuts) (by
      rintro there ⟨rfl | rfl, -⟩
      · exact h.opens.1.free
      · exact h.opens.2.free)
  -- Both outputs are open, and the trees differ nowhere.
  have hnowhere : ∀ there, ¬ ((IsEither json custom there ∧ there ≠ json) ∧ there ≠ custom) :=
    fun there hspot => hspot.1.1.elim hspot.1.2 hspot.2
  obtain ⟨later', hwrite, hlater⟩ := writeFiction_twins hlast h.jsonPuts.ne_nil hlaws
    (h.isReady hapart.tidy) (fun _ _ there _ => hnowhere there) h.customPuts.ne_nil h.apart h.writes
  refine ⟨later', ?_, fun place => hlater.find? (hnowhere place)⟩
  rw [convertFiction_ends hconnect]
  refine writeTable_eq_ok_iff.2 ⟨_, json, _, custom, report.counts, hjson, hcustom, hwrite, ?_⟩
  rw [← h.outputs.1, ← h.outputs.2]

/-- **The datasets of the table** stand in the outputs, and the database is what it was. -/
theorem FictionRun.holds :
    HoldsTable engine config files report (tableWritten config db json custom read) := by
  obtain ⟨hjson, hcustom⟩ := h.stays hlaws hapart.tidy
  obtain ⟨-, last, hagain, -⟩ := database_again hlaws (h.isReady hapart.tidy) h.database
    (twins_tableWritten hjson hcustom) (h.avoids hapart)
  exact ⟨source, db, h.connects, congrArg Prod.snd hagain, h.dataset,
    readAt_tableWritten hjson hcustom h.apart⟩

/-- **A second run** opens both outputs in their places, and finds the database as it was. -/
theorem FictionRun.again {later : Files} (hlater : later = tableWritten config db json custom read)
    (halike : files.seat engine config.database = later.seat engine config.database) :
    ∃ last, FictionRun engine config later report later (written later json []) last source json
        custom db
      ∧ Output config.jsonOutput last json ∧ Output config.customOutput last custom
      ∧ Files.Leaves (Files.IsBy source) (written (written later json []) custom []) last := by
  obtain ⟨hjson, hcustom⟩ := h.stays hlaws hapart.tidy
  have hready := h.isReady hapart.tidy
  have hwritten : Files.Twins (IsEither json custom) read later := by
    rw [hlater]
    exact twins_tableWritten hjson hcustom
  have hjson' := hjson.of_grows hwritten.grows (hwritten.blank hjson.free)
  have hcustom' := hcustom.of_grows hwritten.grows (hwritten.blank hcustom.free)
  have hboth : Files.Twins (IsEither json custom) read (written (written later json []) custom []) :=
    (hwritten.put_one (Or.inl rfl) hjson.free hjson.ne_nil _).put_one (Or.inr rfl) hcustom.free
      hcustom.ne_nil _
  obtain ⟨hready', last, hagain, hleaves⟩ :=
    database_again hlaws hready h.database hboth (h.avoids hapart)
  have hopened := hcustom'.another hjson' []
  refine ⟨last, ⟨?_, hjson'.parent, hjson', hopened.parent, hopened, h.apart, hagain, h.dataset,
    h.outputs⟩, ((hjson'.stays []).another hopened []).leaves hleaves hready'.no_link,
    (hopened.stays []).leaves hleaves hready'.no_link, hleaves⟩
  rcases Files.connect_eq_ok_iff.1 h.connects with hdetached | ⟨place, hseat, -, hsource⟩
  · exact Files.connect_eq_ok_iff.2 (Or.inl hdetached)
  · subst hsource
    refine Files.connect_eq_ok_iff.2 (Or.inr ⟨place, halike.symm.trans hseat, ?_, rfl⟩)
    obtain ⟨content, hcontent, -⟩ :=
      hlaws.truthful (hready' place rfl).2 (congrArg Prod.snd hagain)
    have havoids := h.avoids_seat hapart place hseat place (Or.inl rfl)
    rw [Files.content?, find?_written hcustom.ne_nil, if_neg fun hsame => havoids (Or.inr hsame),
      find?_written hjson.ne_nil, if_neg fun hsame => havoids (Or.inl hsame)] at hcontent
    exact Option.isSome_iff_exists.2 ⟨content, hcontent⟩

end

section

variable (hlaws : engine.Lawful)

include hlaws

theorem convertFiction_follows
    (hboth : Counterparts (TableApart engine config) [config.jsonOutput, config.customOutput] files other)
    (halike : files.seat engine config.database = other.seat engine config.database) :
    Follows (convertFiction engine config) files other := by
  intro later report hends
  obtain ⟨_, _, _, _, _, _, _, h, rfl⟩ :=
    (convertFiction_eq_ok_iff hboth.apart.apart.differ).1 hends
  exact h.twins hlaws hboth.apart hboth.twins halike

theorem convertFiction_holds (hapart : TableApart engine config files)
    (hends : (convertFiction engine config).ends files = (later, .ok report)) :
    HoldsTable engine config files report later
      ∧ (files.seat engine config.database = later.seat engine config.database →
        Repeats (convertFiction engine config) [config.jsonOutput, config.customOutput]
          (IsBesideNamed engine (some config.database) later) later report) := by
  obtain ⟨_, _, read, source, json, custom, db, h, rfl⟩ :=
    (convertFiction_eq_ok_iff hapart.apart.differ).1 hends
  refine ⟨h.holds hlaws hapart, fun halike => ?_⟩
  obtain ⟨hjson, hcustom⟩ := h.stays hlaws hapart.tidy
  obtain ⟨last, hagain, hjson', hcustom', hleaves⟩ := h.again hlaws hapart rfl halike
  have hreads := @readAt_tableWritten _ _ _ _ db hjson hcustom h.apart
  have hreads' := @readAt_tableWritten _ _ _ _ db hjson' hcustom' h.apart
  refine repeats_of_ends hagain.ends ?_ ?_
  · intro path hpath
    rcases List.mem_cons.1 hpath with rfl | hpath
    · exact hreads'.1.trans hreads.1.symm
    · obtain rfl := List.mem_singleton.1 hpath
      exact hreads'.2.trans hreads.2.symm
  · intro place hbeside
    have hby : ¬ Files.IsBy source place := by
      rintro ⟨own, rfl, hthere⟩
      exact hbeside ⟨_, rfl, own, halike.symm.trans (Files.seat_of_connect h.connects).1, hthere⟩
    -- What is written again takes the places that it took before.
    rw [find?_tableWritten h.jsonPuts.ne_nil h.customPuts.ne_nil]
    dsimp only
    rw [hleaves.others place hby, find?_written h.customPuts.ne_nil, find?_written h.jsonPuts.ne_nil,
      find?_tableWritten h.jsonPuts.ne_nil h.customPuts.ne_nil]
    dsimp only
    split_ifs
    · rfl
    · rfl
    · rfl

end

end

/-! ## Leftovers -/

/-- **What was in an output before a run makes no difference.**  From two trees that differ at most in
what the outputs hold, a conversion succeeds with the same report or fails in both, and it leaves the same
tree; then the outputs hold what is written to an empty sink for the source that the run found, and a
second run changes nothing but what is beside its database. -/
theorem runs_forget_leftovers (hlaws : engine.Lawful) (files other : Files) :
    (∀ network config, (network config.url config.userAgent).removes = none →
      Counterparts (ListingApart config) [config.output] files other →
      Alike (convertListing network config) files other
        ∧ ∀ later report, (convertListing network config).ends files = (later, .ok report) →
          HoldsListing config report later
            ∧ Repeats (convertListing network config) [config.output] (fun _ => False) later
              { report with downloaded := false })
    ∧ (∀ config, Files.IsLiteral engine config.database →
      Counterparts (BooksApart engine config) [config.output] files other →
      SeatedAlike engine config files other →
      Alike (convertLibrary engine config) files other
        ∧ ∀ later report, (convertLibrary engine config).ends files = (later, .ok report) →
          HoldsBooks engine config files report later
            ∧ (engine.resolve config.database = .ok (some config.database) →
              files.names config.database = later.names config.database →
              Repeats (convertLibrary engine config) [config.output]
                (later.IsBeside config.database) later { report with seeded := none }))
    ∧ ∀ config,
      Counterparts (TableApart engine config) [config.jsonOutput, config.customOutput] files other →
      files.seat engine config.database = other.seat engine config.database →
      Alike (convertFiction engine config) files other
        ∧ ∀ later report, (convertFiction engine config).ends files = (later, .ok report) →
          HoldsTable engine config files report later
            ∧ (files.seat engine config.database = later.seat engine config.database →
              Repeats (convertFiction engine config) [config.jsonOutput, config.customOutput]
                (IsBesideNamed engine (some config.database) later) later report) := by
  refine ⟨?_, ?_, ?_⟩
  · intro network config hquiet hboth
    exact ⟨alike_of_follows (convertListing_follows hquiet hboth)
      (convertListing_follows hquiet hboth.symm), fun _ _ => convertListing_holds hquiet hboth.apart⟩
  · intro config hliteral hboth halike
    exact ⟨alike_of_follows (convertLibrary_follows hlaws hliteral hboth halike)
      (convertLibrary_follows hlaws hliteral hboth.symm halike.symm),
      fun _ _ => convertLibrary_holds hlaws hliteral hboth.apart⟩
  · intro config hboth halike
    exact ⟨alike_of_follows (convertFiction_follows hlaws hboth halike)
      (convertFiction_follows hlaws hboth.symm halike.symm),
      fun _ _ => convertFiction_holds hlaws hboth.apart⟩

/-! ## A shelf -/

/-- A table of one novel. -/
def novels : Table :=
  .plain "fiction".toList
    ["Author".toList, "Language".toList, "Year".toList, "Extension".toList, "Title".toList,
      "Publisher".toList, "Edition".toList]
    [[.text "Lem, S.".toList, .text "pl".toList, .integer 1959, .null, .text "Eden".toList]]

/-- A dump of one book. -/
def onlyEden : Table :=
  .plain Library.dumpName Library.dumpColumns
    [[.text "Lem".toList, .text "S".toList, .null, .text "pl".toList, .integer 1959, .null,
      .text "Eden".toList, .null, .null]]

/-- A listing, and a database with a table and a dump. -/
def shelf : Files :=
  ⟨[(["listing.csv".toList], .file (.bytes (Utf8.encode "1,2,3,Eden,Lem,5,SF\n".toList))),
    (["books.sqlite".toList], .file (.tables ⟨[novels, onlyEden], []⟩))]⟩

/-- What a run of long ago may have written. -/
def longAgo : Content := .bytes (Utf8.encode "a longer line of long ago\n".toList)

/-- The shelf with a file of another dataset where an output will be put. -/
def untidy : Files := shelf.put ["out.txt".toList] (.file longAgo)

/-- A conversion of the shelf's listing. -/
def ofListing : ListingConfig :=
  { listing := "listing.csv".toList, output := "out.txt".toList }

/-- A conversion that makes a database from the shelf's dump. -/
def ofDump : LibraryConfig :=
  { database := "new.sqlite".toList, dump := some "books.sqlite".toList, output := "out.txt".toList }

/-- A conversion of the shelf's table. -/
def ofNovels : FictionConfig :=
  { database := "books.sqlite".toList, jsonOutput := "out.txt".toList,
    customOutput := "custom.txt".toList }

theorem untidy_forgotten :
    ((convertListing Web.nowhere ofListing untidy).result = .ok ⟨false, 1, ofListing.output⟩
      ∧ (convertListing Web.nowhere ofListing untidy).files.find? ["out.txt".toList]
        = (convertListing Web.nowhere ofListing shelf).files.find? ["out.txt".toList])
    ∧ ((convertLibrary Engine.bundled ofDump untidy).result = .ok ⟨some 1, 1, ofDump.output⟩
      ∧ (convertLibrary Engine.bundled ofDump untidy).files.find? ["out.txt".toList]
        = (convertLibrary Engine.bundled ofDump shelf).files.find? ["out.txt".toList]
      ∧ Repeats (convertLibrary Engine.bundled ofDump) [ofDump.output]
        ((convertLibrary Engine.bundled ofDump shelf).files.IsBeside ofDump.database)
        (convertLibrary Engine.bundled ofDump shelf).files ⟨none, 1, ofDump.output⟩)
    ∧ (convertFiction Engine.bundled ofNovels untidy).result
        = .ok ⟨⟨1, 1⟩, ofNovels.jsonOutput, ofNovels.customOutput⟩
      ∧ (convertFiction Engine.bundled ofNovels untidy).files.find? ["out.txt".toList]
        = (convertFiction Engine.bundled ofNovels shelf).files.find? ["out.txt".toList] := by
  obtain ⟨hlisting, hlibrary, hfiction⟩ := runs_forget_leftovers Engine.bundled_lawful shelf untidy
  have hplace : shelf.locate .existing "out.txt".toList = .ok (.entry [] "out.txt".toList false) := by
    decide +kernel
  refine ⟨?_, ?_, ?_⟩
  · have hboth : Counterparts (ListingApart ofListing) [ofListing.output] shelf untidy :=
      counterparts_put List.mem_cons_self hplace (by decide +kernel) (by decide +kernel)
        (by decide +kernel)
    have halike := (hlisting Web.nowhere ofListing rfl hboth).1 ⟨false, 1, ofListing.output⟩
    have hfirst : (convertListing Web.nowhere ofListing shelf).result
        = .ok ⟨false, 1, ofListing.output⟩ := by
      decide +kernel
    exact ⟨halike.1.1 hfirst, halike.2 hfirst _⟩
  · have hboth : Counterparts (BooksApart Engine.bundled ofDump) [ofDump.output] shelf untidy :=
      counterparts_put List.mem_cons_self hplace (by decide +kernel) (by decide +kernel)
        (by decide +kernel)
    obtain ⟨halike, hholds⟩ :=
      hlibrary ofDump (by decide +kernel) hboth (by decide +kernel)
    have hfirst : (convertLibrary Engine.bundled ofDump shelf).result
        = .ok ⟨some 1, 1, ofDump.output⟩ := by
      decide +kernel
    have hthen := halike ⟨some 1, 1, ofDump.output⟩
    exact ⟨hthen.1.1 hfirst, hthen.2 hfirst _,
      (hholds _ _ (Procedure.ends_of_result hfirst)).2 (by decide +kernel) (by decide +kernel)⟩
  · have hboth : Counterparts (TableApart Engine.bundled ofNovels)
        [ofNovels.jsonOutput, ofNovels.customOutput] shelf untidy :=
      counterparts_put List.mem_cons_self hplace (by decide +kernel) (by decide +kernel)
        (by decide +kernel)
    have halike := (hfiction ofNovels hboth (by decide +kernel)).1
      ⟨⟨1, 1⟩, ofNovels.jsonOutput, ofNovels.customOutput⟩
    have hfirst : (convertFiction Engine.bundled ofNovels shelf).result
        = .ok ⟨⟨1, 1⟩, ofNovels.jsonOutput, ofNovels.customOutput⟩ := by
      decide +kernel
    exact ⟨halike.1.1 hfirst, halike.2 hfirst _⟩

/-- A conversion whose database is named through its output, which must be no file then. -/
def throughOutput : FictionConfig :=
  { database := "out/x/../../books.sqlite".toList, jsonOutput := "out".toList,
    customOutput := "custom.txt".toList }

/-- A conversion whose database may live in memory, so that nothing of it is left for a second run. -/
def inMemory (name : Text) : LibraryConfig :=
  { database := name, dump := some "books.sqlite".toList, output := "out.txt".toList }

/-- The shelf with a link to the output, beside the database to come or beside the dump. -/
def hinged : List Files :=
  [shelf.put ["new.sqlite-journal".toList] (.link "out.txt".toList),
    shelf.put ["books.sqlite-journal".toList] (.link "out.txt".toList)]

/-- A shelf with a link to a directory. -/
def linked : Files :=
  ⟨[(["d".toList], .directory), (["link".toList], .link "d".toList)]⟩

/-- A conversion whose output is above its listing, but for a link. -/
def throughLink : ListingConfig :=
  { url := "http://books/listing.csv".toList, listing := "d/out/listing.csv".toList,
    output := "link/out".toList }

/-- A network with a server, while somebody removes the link. -/
def unlinking : Web.Network :=
  Web.scripted "http://books".toList (some { removes := some "link".toList })

/-- A file in an output may keep a database from being found under its name; a database in memory,
whatever its name, is gone when its run is over; a link beside a new database or a dump makes a difference
only if it leads to something, such as the output; and a link that is removed meanwhile may lead an
output elsewhere. -/
theorem leftovers_may_matter :
    (Counterparts (TableApart Engine.bundled throughOutput)
        [throughOutput.jsonOutput, throughOutput.customOutput] shelf
        (shelf.put ["out".toList] (.file (.bytes [])))
      ∧ (convertFiction Engine.bundled throughOutput shelf).result.isOk = true
      ∧ (convertFiction Engine.bundled throughOutput
          (shelf.put ["out".toList] (.file (.bytes [])))).result.isOk = false)
    ∧ (∀ name ∈ [":memory:".toList, "file::memory:".toList],
      let run := convertLibrary Engine.bundled (inMemory name)
      BooksApart Engine.bundled (inMemory name) shelf
        ∧ (run shelf).result = .ok ⟨some 1, 1, "out.txt".toList⟩
        ∧ (run (run shelf).files).result.isOk = false
        ∧ (run (run shelf).files).files.readAt "out.txt".toList
          ≠ (run shelf).files.readAt "out.txt".toList)
    ∧ (∀ tree ∈ hinged,
      let other := tree.put ["out.txt".toList] (.file longAgo)
      Counterparts (NamedApart (around (seats Engine.bundled ofDump tree)) [ofDump.output])
          [ofDump.output] tree other
        ∧ (convertLibrary Engine.bundled ofDump tree).result.isOk
          ≠ (convertLibrary Engine.bundled ofDump other).result.isOk)
    ∧ Counterparts (ListingApart throughLink) [throughLink.output] linked
        (linked.put ["out".toList, "d".toList] (.file (.bytes [])))
      ∧ (convertListing unlinking throughLink linked).result.isOk = true
      ∧ (convertListing unlinking throughLink
          (linked.put ["out".toList, "d".toList] (.file (.bytes [])))).result.isOk = false := by
  refine ⟨⟨?_, by decide +kernel, by decide +kernel⟩, by decide +kernel,
    ?_, ?_, by decide +kernel, by decide +kernel⟩
  · have hplace : shelf.locate .existing throughOutput.jsonOutput
        = .ok (.entry [] "out".toList false) := by
      decide +kernel
    exact counterparts_put List.mem_cons_self hplace (by decide +kernel) (by decide +kernel)
      (by decide +kernel)
  · have hplaces : ∀ tree ∈ hinged, tree.locate .existing ofDump.output
        = .ok (.entry [] "out.txt".toList false) ∧ tree.find? ["out.txt".toList] = none := by
      decide +kernel
    have hdiffer : ∀ tree ∈ hinged, (convertLibrary Engine.bundled ofDump tree).result.isOk
        ≠ (convertLibrary Engine.bundled ofDump
          (tree.put ["out.txt".toList] (.file longAgo))).result.isOk := by
      decide +kernel
    have hapart : ∀ tree ∈ hinged,
        NamedApart (around (seats Engine.bundled ofDump tree)) [ofDump.output] tree
          ∧ NamedApart (around (seats Engine.bundled ofDump tree)) [ofDump.output]
            (tree.put ["out.txt".toList] (.file longAgo)) := by
      decide +kernel
    intro tree htree
    obtain ⟨hplace, hfree⟩ := hplaces tree htree
    exact ⟨counterparts_put List.mem_cons_self hplace hfree (hapart tree htree).1
      (hapart tree htree).2, hdiffer tree htree⟩
  · have hplace : linked.locate .existing throughLink.output
        = .ok (.entry ["d".toList] "out".toList false) := by
      decide +kernel
    exact counterparts_put List.mem_cons_self hplace (by decide +kernel) (by decide +kernel)
      (by decide +kernel)

end Conversion

end BookDatasets
