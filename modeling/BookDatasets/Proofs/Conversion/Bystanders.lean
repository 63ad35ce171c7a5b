/-
  A run changes no file but its outputs, and what is beside its databases.

  1. **Sparing** — a tree SPARES the files of another one when each of them stands there as it was, but
     for places that are taken.  Every path to a file goes on leading there, as long as nothing is lost
     that it meets (`Undisturbed.stillLeads`).
  2. **Taken by an output** — an output that is opened takes ONE place, and its path leads to this place
     from then on, whatever else is written (`Output.takes`).  So in the tree that a run leaves the
     outputs themselves tell which files they took, also when the run has failed.
  3. **Beside a database** — where nothing is left to be undone or finished (`IsTidy`), a query has files
     come and go beside its database only.  It comes after the outputs are opened, so no link may be
     there: an output could have been opened through it.
-/
import BookDatasets.Proofs.Conversion.Sourceless

namespace BookDatasets

namespace Conversion

variable {path : Text} {files other third : Files} {place : Location} {engine : Engine}
  {source : Connection} {taken lost spots : Location → Prop}

/-! ## Sparing -/

/-- Every file stands as it was, but at the places that are taken. -/
def Spares (files other : Files) (taken : Location → Prop) : Prop :=
  ∀ place content, files.find? place = some (.file content) →
    other.find? place = some (.file content) ∨ taken place

/-- Every path to a file leads to the same place still, if it meets none that is lost. -/
def StillLeads (files other : Files) (lost : Location → Prop) : Prop :=
  ∀ path place content, files.openRead path = .ok place →
    files.find? place = some (.file content) → (∀ there, files.Meets path there → ¬ lost there) →
    other.openRead path = .ok place

/-- Everything stands as it was, but in places that are lost, and files in places that are taken. -/
def Undisturbed (files other : Files) (taken lost : Location → Prop) : Prop :=
  ∀ place node, files.find? place = some node → other.find? place = some node ∨ lost place
    ∨ taken place ∧ ∃ content content', node = .file content
      ∧ other.find? place = some (.file content')

theorem Undisturbed.trans (h : Undisturbed files other taken lost)
    (h' : Undisturbed other third taken lost) : Undisturbed files third taken lost := by
  intro place node hfind
  rcases h place node hfind with hsame | hlost | ⟨htaken, content, content', rfl, hfile⟩
  · exact h' place node hsame
  · exact Or.inr (Or.inl hlost)
  · rcases h' place _ hfile with hsame | hlost | ⟨-, _, content'', -, hfile'⟩
    · exact Or.inr (Or.inr ⟨htaken, content, content', rfl, hsame⟩)
    · exact Or.inr (Or.inl hlost)
    · exact Or.inr (Or.inr ⟨htaken, content, content'', rfl, hfile'⟩)

theorem undisturbed_extends (h : Files.Extends files other) : Undisturbed files other taken lost :=
  fun place node hfind => Or.inl (h.keeps place node hfind)

theorem undisturbed_put (hfree : files.find? place = none) (content : Content) :
    Undisturbed files (files.put place (.file content)) taken lost := by
  intro there node hfind
  have hplace : place ≠ [] := Files.ne_nil_of_find? (by rw [hfree]; exact nofun)
  left
  rw [Files.find?_put files hplace, if_neg]
  · exact hfind
  · rintro rfl
    cases hfree.symm.trans hfind

theorem undisturbed_leaves (h : Files.Leaves spots files other)
    (hlost : ∀ there node, spots there → files.find? there = some node → lost there) :
    Undisturbed files other taken lost := by
  intro there node hfind
  by_cases hspot : spots there
  · exact Or.inr (Or.inl (hlost there node hspot hfind))
  · exact Or.inl ((h.others there hspot).trans hfind)

theorem Output.undisturbed (h : Output path files place) (octets : Bytes) (htaken : taken place) :
    Undisturbed files (written files place octets) taken lost := by
  intro there node hfind
  rw [find?_written h.ne_nil]
  split_ifs with hthere
  · subst hthere
    obtain ⟨content, rfl⟩ := h.free node hfind
    exact Or.inr (Or.inr ⟨htaken, content, _, rfl, rfl⟩)
  · exact Or.inl hfind

theorem Undisturbed.spares (h : Undisturbed files other taken lost) :
    Spares files other fun place => taken place ∨ lost place := by
  intro place content hfind
  rcases h place _ hfind with hsame | hlost | ⟨htaken, -⟩
  · exact Or.inl hsame
  · exact Or.inr (Or.inr hlost)
  · exact Or.inr (Or.inl htaken)

/-- **A path to a file** leads there still, if it meets nothing that is lost. -/
theorem Undisturbed.stillLeads (h : Undisturbed files other taken lost) :
    StillLeads files other lost := by
  intro path place content hopen hfind hlost
  refine Files.openRead_of_kept hopen hfind ?_ ?_
  · intro hmeets
    rcases h place _ hfind with hsame | hgone | ⟨-, _, content', -, hfile⟩
    · exact ⟨content, hsame⟩
    · exact absurd hgone (hlost place hmeets)
    · exact ⟨content', hfile⟩
  · intro there node hmeets hnode hfind
    rcases h there node hfind with hsame | hgone | ⟨-, content', _, rfl, -⟩
    · exact hsame
    · exact absurd hgone (hlost there hmeets)
    · exact absurd rfl (hnode content')

/-! ## Taken by an output -/

/-- A file stands at a place, and it was written. -/
def HasOctets (files : Files) (place : Location) : Prop :=
  ∃ octets, files.find? place = some (.file (.bytes octets))

theorem hasOctets_written (files : Files) (h : place ≠ []) (octets : Bytes) :
    HasOctets (written files place octets) place := by
  refine ⟨octets, ?_⟩
  rw [find?_written h, if_pos rfl]

theorem HasOctets.written {place' : Location} (h : HasOctets files place) (hplace : place' ≠ [])
    (octets : Bytes) : HasOctets (Conversion.written files place' octets) place := by
  by_cases hsame : place = place'
  · subst hsame
    exact hasOctets_written files hplace octets
  · obtain ⟨old, hfind⟩ := h
    refine ⟨old, ?_⟩
    rw [find?_written hplace, if_neg hsame, hfind]

theorem HasOctets.extends (h : HasOctets files place) (hextends : Files.Extends files other) :
    HasOctets other place := by
  obtain ⟨octets, hfind⟩ := h
  exact ⟨octets, hextends.keeps _ _ hfind⟩

/-- The path of an output leads to a place, and a file stands there that was written. -/
def Takes (files : Files) (path : Text) (place : Location) : Prop :=
  files.openRead path = .ok place ∧ HasOctets files place

/-- **The path of an output** leads to its place when a file stands there. -/
theorem Output.takes (h : Output path files place) (hoctets : HasOctets files place) :
    Takes files path place := by
  obtain ⟨dir, name, rfl, hlocate⟩ := h.found
  obtain ⟨octets, hfind⟩ := hoctets
  exact ⟨Files.openRead_of_existing hlocate hfind, octets, hfind⟩

/-- New directories leave an output one, when a file stands there. -/
theorem Output.extends (h : Output path files place) (hoctets : HasOctets files place)
    (hextends : Files.Extends files other) : Output path other place := by
  obtain ⟨octets, hfind⟩ := hoctets.extends hextends
  exact h.of_grows hextends.grows (Files.isBlank_iff.2 (Or.inr ⟨_, hfind⟩))

/-- **What follows an output** and writes to nothing else leaves everything undisturbed but the place that
the output takes, and the places where files come and go meanwhile. -/
theorem undisturbed_createOutput {α : Type} {next : Location → Procedure α}
    (hlinkless : ∀ there, spots there → ∀ target, files.find? there ≠ some (.link target))
    (hnext : ∀ tree, Files.Extends files tree → ∀ place, Output path tree place →
      ∃ later octets, Files.Leaves spots (written tree place []) later
        ∧ ((next place).ends (written tree place [])).1 = written later place octets)
    (hlost : ∀ there, spots there → lost there) :
    Undisturbed files ((createOutput path >>= next).ends files).1
      (Takes ((createOutput path >>= next).ends files).1 path) lost := by
  obtain ⟨other, hextends, ⟨failure, hopen⟩ | ⟨place, houtput, hopen⟩⟩ :=
    createOutput_ends path files
  · rw [Procedure.ends_bind_error hopen]
    exact undisturbed_extends hextends
  · rw [Procedure.ends_bind_ok hopen]
    obtain ⟨later, octets, hleaves, hends⟩ := hnext other hextends place houtput
    rw [hends]
    have hgrows := hextends.grows.trans (houtput.grows [])
    have hlater : Output path later place := (houtput.stays []).leaves hleaves
      fun there hthere target hlink => hlinkless there hthere target (hgrows.links _ _ hlink)
    have htakes := (hlater.stays octets).takes (hasOctets_written later houtput.ne_nil octets)
    exact (((undisturbed_extends hextends).trans (houtput.undisturbed [] htakes)).trans
      (undisturbed_leaves hleaves fun there _ hspot _ => hlost there hspot)).trans
      (hlater.undisturbed octets htakes)

/-! ## Listings -/

/-- **A listing is acquired** beside all files that are there. -/
theorem undisturbed_ifMissing {exchange : Web.Exchange} (hquiet : exchange.removes = none)
    (url path : Text) (files : Files) :
    Undisturbed files ((Download.ifMissing exchange url path).ends files).1 taken lost := by
  have hextends := Files.extends_of_createDirectories files (Path.parent path)
  have hcall := Download.exchange_of_quiet hquiet url
  rcases hstands : (files.withParent path).stands path with _ | _
  · rcases Download.ifMissing_of_absent ⟨url, exchange.requests, exchange.reply⟩ hstands with
      ⟨-, -, hsame⟩ | ⟨-, body, -, -, dir, name, -, hfree, hput⟩
    · rw [hcall] at hsame
      rw [Procedure.ends, hsame]
      exact undisturbed_extends hextends
    · rw [hcall] at hput
      rw [Procedure.ends, hput]
      exact (undisturbed_extends hextends).trans (undisturbed_put hfree _)
  · rw [Procedure.ends, (Download.ifMissing_of_stands exchange url hstands).files]
    exact undisturbed_extends hextends

theorem writeListing_written (source output : Location) (files : Files) :
    ∃ octets, ((writeListing source output).ends (written files output [])).1
      = written files output octets := by
  rcases hread : (written files output []).read source with error | octets
  · refine ⟨[], ?_⟩
    rw [writeListing, Procedure.ends_operate_error (by rw [hread])]
  · rcases hwrite : Listing.writeDataset octets .unlimited with ⟨sink, error | count⟩
    · refine ⟨sink.taken, ?_⟩
      rw [writeListing, Procedure.ends_operate_error (by rw [hread]; dsimp only; rw [hwrite])]
      exact written_written files output [] sink.taken
    · refine ⟨sink.taken, ?_⟩
      rw [writeListing, Procedure.ends_operate_ok (by rw [hread]; dsimp only; rw [hwrite])]
      exact written_written files output [] sink.taken

/-- What a run does when its listing is there. -/
def writeFound (config : ListingConfig) (downloaded : Bool) : Procedure ListingReport := do
  Procedure.report listingBegins
  let source ← openListing config.listing
  let output ← createOutput config.output
  let records ← (writeListing source output).within
    (.convertingListing config.listing)
  Procedure.report (generated .listing records)
  return ⟨downloaded, records, config.output⟩

theorem openListing_ends (path : Text) (files : Files) :
    (∃ failure, (openListing path).ends files = (files, .error failure))
      ∨ ∃ place, files.openRead path = .ok place
        ∧ (openListing path).ends files = (files, .ok place) := by
  rcases hopen : files.openRead path with error | place
  · left
    exact ⟨_, Procedure.ends_within_error (Procedure.ends_operate_error (by rw [hopen]) Cause.io _) _⟩
  · right
    exact ⟨place, rfl, Procedure.ends_within_ok (Procedure.ends_operate_ok (by rw [hopen]) _ _) _⟩

theorem undisturbed_writeFound (config : ListingConfig) (downloaded : Bool) (files : Files) :
    Undisturbed files ((writeFound config downloaded).ends files).1
      (Takes ((writeFound config downloaded).ends files).1 config.output) lost := by
  rw [writeFound, Procedure.ends_bind_ok (Procedure.ends_report _ files)]
  rcases openListing_ends config.listing files with ⟨failure, hopen⟩ | ⟨source, -, hopen⟩
  · rw [Procedure.ends_bind_error hopen]
    exact undisturbed_extends (.refl files)
  · rw [Procedure.ends_bind_ok hopen]
    refine undisturbed_createOutput (fun _ => False.elim) ?_ fun _ => False.elim
    intro tree _ output _
    obtain ⟨octets, hwritten⟩ := writeListing_written source output tree
    refine ⟨_, octets, .refl _ _, ?_⟩
    rw [Procedure.fst_ends_bind (fun _ _ => rfl), Procedure.fst_ends_within, hwritten, written_written]

/-- **A listing conversion** leaves all files undisturbed but its output. -/
theorem undisturbed_convertListing {network : Web.Network} {config : ListingConfig}
    (hquiet : (network config.url config.userAgent).removes = none) (files : Files) :
    Undisturbed files ((convertListing network config).ends files).1
      (Takes ((convertListing network config).ends files).1 config.output) lost := by
  by_cases hclient : Web.mayCallItself config.userAgent = true
  · rw [convertListing, if_pos hclient]
    have hmissing := fun taken => @undisturbed_ifMissing taken lost _
      hquiet config.url config.listing files
    rcases hacquire : (Download.ifMissing
        (network config.url config.userAgent) config.url config.listing).ends files
      with ⟨middle, failure | downloaded⟩
    · rw [Procedure.ends_bind_error (Procedure.ends_within_error hacquire _)]
      have hfirst := hmissing (Takes middle config.output)
      rw [hacquire] at hfirst
      exact hfirst
    · rw [Procedure.ends_bind_ok (Procedure.ends_within_ok hacquire _)]
      have hfirst := hmissing (Takes ((writeFound config downloaded).ends middle).1 config.output)
      rw [hacquire] at hfirst
      exact hfirst.trans (undisturbed_writeFound config downloaded middle)
  · rw [convertListing, if_neg hclient]
    exact undisturbed_extends (.refl files)

/-! ## Beside a database -/

/-- No link is beside a database, and if there is a file nothing is left to be undone or finished. -/
def IsTidy (files : Files) (place : Location) : Prop :=
  files.Linkless place ∧ ((files.content? place).isSome → files.AtRest place)

instance (files : Files) (place : Location) : Decidable (IsTidy files place) :=
  inferInstanceAs (Decidable (_ ∧ _))

/-- The database of a connection can be queried, and nothing else than what is beside it is touched. -/
def IsReady (files : Files) (source : Connection) : Prop :=
  ∀ place, source = .stored place → files.Linkless place ∧ files.AtRest place

theorem IsReady.isSafe (h : IsReady files source) : Files.IsSafe .querying files source :=
  fun place hsource => Or.inr (Or.inl (h place hsource).2)

theorem IsReady.isLinkless (h : IsReady files source) : Files.IsLinkless files source :=
  fun place hsource => (h place hsource).1

theorem IsReady.no_link (h : IsReady files source) :
    ∀ there, Files.IsBy source there → ∀ target, files.find? there ≠ some (.link target) :=
  h.isLinkless.no_link

/-- An output that is opened leaves the database ready, whatever it is. -/
theorem IsReady.output (h : IsReady files source) (hextends : Files.Extends files other)
    (houtput : Output path other place) : IsReady (written other place []) source := by
  intro own hsource
  obtain ⟨hlinkless, hrest⟩ := h own hsource
  exact ⟨hlinkless.of_grows (hextends.grows.trans (houtput.grows [])),
    (hrest.extends hextends).put houtput.ne_nil (Or.inr rfl)⟩

/-- What a name connects to is ready where its seat is tidy. -/
theorem isReady_of_connect {name : Text} (htidy : ∀ place ∈ files.seat engine name, IsTidy files place)
    (hconnect : files.connect engine name = .ok source) : IsReady files source := by
  rintro place rfl
  obtain ⟨hseat, hsome⟩ := Files.seat_of_connect hconnect
  obtain ⟨hlinkless, hrest⟩ := htidy place hseat
  exact ⟨hlinkless, hrest hsome⟩

/-! ## Books -/

/-- **The dataset is written** to the output, and files come and go beside the database. -/
theorem undisturbed_writeOut {config : LibraryConfig} {seeded : Option Nat} (hlaws : engine.Lawful)
    (hready : IsReady files source) (hlost : ∀ there, Files.IsBy source there → lost there) :
    Undisturbed files ((writeOut engine config source seeded).ends files).1
      (Takes ((writeOut engine config source seeded).ends files).1 config.output) lost := by
  rw [writeOut, Procedure.ends_bind_ok (Procedure.ends_report _ files)]
  refine undisturbed_createOutput hready.no_link ?_ hlost
  intro tree hextends output houtput
  have hleaves := @Files.leaves_query _ _ _ _ Table.bookName Table.bookColumns hlaws
    (hready.output hextends houtput).isSafe
  rcases hquery : (written tree output []).query engine .querying source Table.bookName
    Table.bookColumns with ⟨later, fetched⟩
  rw [hquery] at hleaves
  refine ⟨later, (Library.writeFrom fetched .unlimited config.interval).sink.taken, hleaves, ?_⟩
  rw [Procedure.fst_ends_bind (fun _ _ => rfl), Procedure.fst_ends_within, writeBooks_ends hquery]

section

variable {config : LibraryConfig} (hliteral : Files.IsLiteral engine config.database)
  (htidy : ∀ place ∈ files.names config.database, IsTidy files place)

include hliteral htidy

/-- **A database that is found** is ready to be queried, in the place that its path names. -/
theorem Finds.isReady (h : Finds engine config.database files source) :
    IsReady (files.withParent config.database) source
      ∧ ∀ place, source = .stored place → files.names config.database = some place := by
  have hextends : Files.Extends files (files.withParent config.database) :=
    Files.extends_of_createDirectories files _
  have hnames : ∀ place, source = .stored place → files.names config.database = some place := by
    rintro place rfl
    rw [← hextends.names]
    exact Files.names_of_connect hliteral h.connect
  refine ⟨?_, hnames⟩
  rintro place rfl
  obtain ⟨hlinkless, hrest⟩ := htidy place (hnames place rfl)
  obtain ⟨content, hfind⟩ := Files.content?_isSome_iff.1 (Files.seat_of_connect h.connect).2
  refine ⟨hlinkless.of_grows hextends.grows, (hrest ?_).extends hextends⟩
  exact Files.content?_isSome_iff.2 ⟨content, (hextends.new _ _ hfind).resolve_right nofun⟩

omit hliteral in
/-- The path of a new database names the place that is made for it, and no link is beside it. -/
theorem Makes.names_linkless {dir : Location} {name : Text}
    (h : Makes engine config.database files dir name source) :
    files.names config.database = some (name :: dir)
      ∧ ((files.withParent config.database).put (name :: dir) (.file (.bytes []))).Linkless
        (name :: dir) := by
  have hextends : Files.Extends files (files.withParent config.database) :=
    Files.extends_of_createDirectories files _
  have hnames : files.names config.database = some (name :: dir) :=
    (hextends.names _).symm.trans (names_of_free h.locate h.free)
  exact ⟨hnames, (htidy _ hnames).1.of_grows (hextends.grows.trans (.put_free h.free nofun))⟩

/-- **A database that was made and seeded** is ready to be queried, in the place that was made for it. -/
theorem Makes.isReady {dir : Location} {name : Text} {origin target : Connection} {last : Files}
    {dump : Text} {count : Nat} (hlaws : engine.Lawful)
    (h : Makes engine config.database files dir name source)
    (hconnect : ((files.withParent config.database).put (name :: dir) (.file (.bytes []))).connect
      engine dump = .ok origin)
    (hcopy : (copyDump engine origin source config.batchSize).ends
      ((files.withParent config.database).put (name :: dir) (.file (.bytes [])))
        = (last, .ok (target, count))) :
    IsReady last target ∧ ∀ place, target = .stored place → place = name :: dir := by
  have hempty : ((files.withParent config.database).put (name :: dir)
      (.file (.bytes []))).content? (name :: dir) = some (.bytes []) := by
    rw [Files.content?, Files.find?_put_file]
  obtain ⟨-, hlinkless⟩ := h.names_linkless htidy
  have hnew := h.isNew hliteral
  obtain ⟨hat, hrests⟩ := copyDump_rests hlaws hnew hempty hlinkless (by
    rintro place rfl rfl
    cases (Files.seat_of_connect hconnect).2) hcopy
  have hleaves := leaves_copyDump hlaws hnew hempty origin config.batchSize
  rw [hcopy] at hleaves
  refine ⟨?_, hat⟩
  intro place htarget
  obtain rfl := hat place htarget
  exact ⟨hlinkless.within hleaves.within, hrests _ htarget⟩

end

/-- **A library conversion** leaves everything undisturbed but its output, and what is beside its
databases. -/
theorem undisturbed_convertLibrary {config : LibraryConfig} (hlaws : engine.Lawful)
    (hliteral : Files.IsLiteral engine config.database)
    (htidy : ∀ place ∈ files.names config.database, IsTidy files place) :
    Undisturbed files ((convertLibrary engine config).ends files).1
      (Takes ((convertLibrary engine config).ends files).1 config.output)
      fun there => files.IsBeside config.database there
        ∨ IsBesideNamed engine config.dump files there := by
  have hextends : Files.Extends files (files.withParent config.database) :=
    Files.extends_of_createDirectories files _
  rcases openLocal_cases engine config.database files with ⟨failure, hopen⟩ | ⟨source, hfinds⟩
    | ⟨dir, name, source, hmakes⟩ | ⟨dir, name, error, failure, -, hfree, -, hopen⟩
  · have hends : (convertLibrary engine config).ends files = _ :=
      Procedure.ends_bind_error (Procedure.ends_within_error hopen _) _
    rw [hends]
    exact undisturbed_extends hextends
  · rw [convertLibrary_ends hfinds.ends, Procedure.ends_bind_ok seedIfNew_found]
    obtain ⟨hready, hnames⟩ := hfinds.isReady hliteral htidy
    refine (undisturbed_extends hextends).trans (undisturbed_writeOut hlaws hready ?_)
    rintro there ⟨place, hsource, hthere⟩
    exact Or.inl ⟨place, hnames place hsource, hthere⟩
  · have hlocate := hmakes.locate
    have hfree := hmakes.free
    obtain ⟨hnames, -⟩ := hmakes.names_linkless htidy
    have hdump : ∀ there, IsBesideNamed engine config.dump (files.withParent config.database) there →
        IsBesideNamed engine config.dump files there := by
      rintro there ⟨text, htext, place, hplace, hthere⟩
      rw [hextends.seat] at hplace
      exact ⟨text, htext, place, hplace, hthere⟩
    rcases seedIfNew_created hlaws hlocate hfree (hmakes.isNew hliteral) with
      ⟨last, ⟨target, seeded⟩, hseed, hleaves⟩ | ⟨other, failure, hseed, hcleared⟩
    · rw [convertLibrary_ends hmakes.ends, Procedure.ends_bind_ok hseed]
      obtain ⟨dump, origin, count, -, hconnect, hcopy, -⟩ := seedIfNew_eq_ok_iff.1 hseed
      obtain ⟨hready, hown⟩ := hmakes.isReady hliteral htidy hlaws hconnect hcopy
      refine ((undisturbed_extends hextends).trans (undisturbed_leaves hleaves ?_)).trans
        (undisturbed_writeOut hlaws hready ?_)
      · rintro there node (rfl | hbeside | hby) hfind
        · cases hfree.symm.trans hfind
        · exact Or.inl ⟨_, hnames, hbeside⟩
        · exact Or.inr (hdump there hby)
      · rintro there ⟨place, hsource, hthere⟩
        rw [hown place hsource] at hthere
        exact Or.inl ⟨_, hnames, hthere⟩
    · rw [convertLibrary_ends hmakes.ends, Procedure.ends_bind_error hseed]
      refine (undisturbed_extends hextends).trans fun there node hfind => ?_
      rcases hcleared there with hsame | ⟨hbeside, -⟩ | ⟨-, hown⟩ | hby
      · exact Or.inl (hsame.trans hfind)
      · obtain ⟨place, hplace, hthere⟩ := hbeside
        rw [hextends.names] at hplace
        exact Or.inr (Or.inl (Or.inl ⟨place, hplace, hthere⟩))
      · -- The database stands where nothing stood.
        cases (names_of_free hlocate hfree).symm.trans hown
        cases hfree.symm.trans hfind
      · exact Or.inr (Or.inl (Or.inr (hdump there hby)))
  · have hends : (convertLibrary engine config).ends files = _ :=
      Procedure.ends_bind_error (Procedure.ends_within_error hopen _) _
    rw [hends]
    exact (undisturbed_extends hextends).trans (undisturbed_put hfree _)

/-! ## Tables -/

/-- Octets are written to the one output and then to the other one, be it the same or not. -/
theorem writeFiction_written {later : Files} {table : Text} {json custom : Location} {interval : Nat}
    {fetched : Except SqlError (List Table.Fetched)}
    (hquery : files.query engine .querying source table Fiction.selection = (later, fetched)) :
    ∃ first second, ((writeFiction engine source table json custom interval).ends files).1
      = written (written later json first) custom second := by
  generalize hwriting : Fiction.writeFrom fetched ⟨.unlimited, .unlimited⟩ interval = writing
  by_cases hsame : json = custom
  · subst hsame
    refine ⟨[], shared fetched writing.result.isOk, ?_⟩
    rw [written_written, Procedure.ends, writeFiction, hquery]
    dsimp only
    rw [hwriting, if_pos rfl]
    split
    · rfl
    · rfl
  · refine ⟨writing.sinks.json.taken, writing.sinks.custom.taken, ?_⟩
    rw [Procedure.ends, writeFiction, hquery]
    dsimp only
    rw [hwriting, if_neg hsame]
    split
    · rfl
    · rfl

/-- What a fiction conversion does when its database is open. -/
def writeTable (engine : Engine) (config : FictionConfig) (source : Connection) :
    Procedure FictionReport := do
  Procedure.report (Log.info .fiction
    ("Generating the dataset files from table ".toList ++ config.table))
  let json ← createOutput config.jsonOutput
  let custom ← createOutput config.customOutput
  let counts ← (writeFiction engine source config.table json custom config.interval).within
    (.convertingTable config.table)
  Procedure.report (Log.info .fiction ("Finished::: Generated ".toList ++ decimal counts.records
    ++ " lines from ".toList ++ decimal counts.rows ++ " rows".toList))
  return ⟨counts, config.jsonOutput, config.customOutput⟩

theorem convertFiction_ends {config : FictionConfig}
    (hconnect : files.connect engine config.database = .ok source) :
    (convertFiction engine config).ends files = (writeTable engine config source).ends files :=
  Procedure.ends_bind_ok (Procedure.ends_within_ok (connect_ok hconnect) _) _

/-- The places of the two outputs of a table. -/
def TakesEither (config : FictionConfig) (files : Files) (place : Location) : Prop :=
  Takes files config.jsonOutput place ∨ Takes files config.customOutput place

/-- **A table** is written to its two outputs, and files come and go beside its database. -/
theorem undisturbed_writeTable {config : FictionConfig} (hlaws : engine.Lawful)
    (hready : IsReady files source) (hlost : ∀ there, Files.IsBy source there → lost there) :
    Undisturbed files ((writeTable engine config source).ends files).1
      (TakesEither config ((writeTable engine config source).ends files).1) lost := by
  rw [writeTable, Procedure.ends_bind_ok (Procedure.ends_report _ files)]
  obtain ⟨above, habove, ⟨failure, hopen⟩ | ⟨json, hjson, hopen⟩⟩ :=
    createOutput_ends config.jsonOutput files
  · rw [Procedure.ends_bind_error hopen]
    exact undisturbed_extends habove
  rw [Procedure.ends_bind_ok hopen]
  have hempty := hasOctets_written above hjson.ne_nil []
  obtain ⟨below, hbelow, ⟨failure, hopen⟩ | ⟨custom, hcustom, hopen⟩⟩ :=
    createOutput_ends config.customOutput (written above json [])
  · rw [Procedure.ends_bind_error hopen]
    have htakes := ((hjson.stays []).extends hempty hbelow).takes (hempty.extends hbelow)
    exact ((undisturbed_extends habove).trans (hjson.undisturbed [] (Or.inl htakes))).trans
      (undisturbed_extends hbelow)
  rw [Procedure.ends_bind_ok hopen, Procedure.fst_ends_bind (fun _ _ => rfl),
    Procedure.fst_ends_within]
  have hready' := (hready.output habove hjson).output hbelow hcustom
  have hleaves := @Files.leaves_query _ _ _ _ config.table Fiction.selection hlaws hready'.isSafe
  rcases hquery : (written below custom []).query engine .querying source config.table
    Fiction.selection with ⟨later, fetched⟩
  rw [hquery] at hleaves
  obtain ⟨first, second, hwritten⟩ := @writeFiction_written _ _ _ _ _ json custom config.interval _ hquery
  rw [hwritten]
  -- The two places may be one; each is an output all the way, and octets are there at the end.
  have hjsonBelow := (hjson.stays []).extends hempty hbelow
  have hjsonLater := (hjsonBelow.another hcustom []).leaves hleaves hready'.no_link
  have hcustomLater := (hcustom.stays []).leaves hleaves hready'.no_link
  have hcustomLast := hcustomLater.another hjsonLater first
  have hjsonTakes := ((hjsonLater.stays first).another hcustomLast second).takes
    ((hasOctets_written later hjson.ne_nil first).written hcustom.ne_nil second)
  have hcustomTakes := (hcustomLast.stays second).takes
    (hasOctets_written _ hcustom.ne_nil second)
  have hopened : Undisturbed files (written below custom [])
      (TakesEither config (written (written later json first) custom second)) lost :=
    (((undisturbed_extends habove).trans (hjson.undisturbed [] (Or.inl hjsonTakes))).trans
      (undisturbed_extends hbelow)).trans (hcustom.undisturbed [] (Or.inr hcustomTakes))
  exact ((hopened.trans (undisturbed_leaves hleaves fun there _ hby _ => hlost there hby)).trans
    (hjsonLater.undisturbed first (Or.inl hjsonTakes))).trans
    (hcustomLast.undisturbed second (Or.inr hcustomTakes))

/-- **A fiction conversion** leaves everything undisturbed but its outputs, and what is beside its
database. -/
theorem undisturbed_convertFiction {config : FictionConfig} (hlaws : engine.Lawful)
    (htidy : ∀ place ∈ files.seat engine config.database, IsTidy files place) :
    Undisturbed files ((convertFiction engine config).ends files).1
      (TakesEither config ((convertFiction engine config).ends files).1)
      (IsBesideNamed engine (some config.database) files) := by
  rcases hconnect : files.connect engine config.database with error | source
  · have hends : (convertFiction engine config).ends files = _ :=
      Procedure.ends_bind_error (Procedure.ends_within_error (connect_error hconnect) _) _
    rw [hends]
    exact undisturbed_extends (.refl files)
  · rw [convertFiction_ends hconnect]
    refine undisturbed_writeTable hlaws (isReady_of_connect htidy hconnect) ?_
    rintro there ⟨place, rfl, hthere⟩
    exact ⟨_, rfl, place, (Files.seat_of_connect hconnect).1, hthere⟩

/-! ## Bystanders -/

/-- **A run changes no file but its outputs**, and what is beside its databases, whether it succeeds or
not: after it every file stands as it was, but where the path of an output leads and beside the
databases, and every path to a file leads to this file still, unless it meets what is beside a
database. -/
theorem run_spares_bystanders (hlaws : engine.Lawful) (files : Files) :
    (∀ network config, (network config.url config.userAgent).removes = none →
      let other := (convertListing network config files).files
      Spares files other (Takes other config.output) ∧ StillLeads files other fun _ => False)
    ∧ (∀ config, Files.IsLiteral engine config.database →
      (∀ place ∈ files.names config.database, IsTidy files place) →
      let other := (convertLibrary engine config files).files
      let beside := fun place => files.IsBeside config.database place
        ∨ IsBesideNamed engine config.dump files place
      Spares files other (fun place => Takes other config.output place ∨ beside place)
        ∧ StillLeads files other beside)
    ∧ ∀ config, (∀ place ∈ files.seat engine config.database, IsTidy files place) →
      let other := (convertFiction engine config files).files
      let beside := IsBesideNamed engine (some config.database) files
      Spares files other (fun place => (Takes other config.jsonOutput place
          ∨ Takes other config.customOutput place) ∨ beside place)
        ∧ StillLeads files other beside := by
  refine ⟨?_, ?_, ?_⟩
  · intro network config hquiet
    have h := @undisturbed_convertListing (fun _ => False) network config hquiet files
    refine ⟨fun place content hfind => ?_, h.stillLeads⟩
    exact (h.spares place content hfind).imp_right fun htaken => htaken.resolve_right not_false
  · intro config hliteral htidy
    have h := undisturbed_convertLibrary hlaws hliteral htidy
    exact ⟨h.spares, h.stillLeads⟩
  · intro config htidy
    have h := undisturbed_convertFiction hlaws htidy
    exact ⟨h.spares, h.stillLeads⟩

/-- A stock with a listing, a table of books, and a dump that is torn. -/
def stock : Files :=
  ⟨[(["listing.csv".toList], .file (.bytes [0x61, 0x0A])),
    (["table.sqlite".toList], .file (.tables ⟨[.plain "fiction".toList Table.bookColumns []], []⟩)),
    (["b.sqlite-shm".toList], .file (.bytes [0x74, 0x6F, 0x72, 0x6E]))]⟩

/-- A conversion that reads the stock's listing. -/
def byListing : ListingConfig :=
  { listing := "listing.csv".toList, output := "out.txt".toList }

/-- A conversion that makes a database from the stock's table. -/
def byBooks : LibraryConfig :=
  { database := "new.sqlite".toList, dump := some "table.sqlite".toList, output := "out.txt".toList }

/-- A conversion that reads the stock's table. -/
def byTable : FictionConfig :=
  { database := "table.sqlite".toList, jsonOutput := "json.txt".toList,
    customOutput := "out.txt".toList }

theorem runs_spare_stock :
    (convertListing Web.nowhere byListing stock).files.find? ["listing.csv".toList]
        = stock.find? ["listing.csv".toList]
      ∧ (convertListing Web.nowhere byListing stock).files.openRead byListing.listing
        = .ok ["listing.csv".toList]
      ∧ (convertLibrary Engine.bundled byBooks stock).files.find? ["table.sqlite".toList]
        = stock.find? ["table.sqlite".toList]
      ∧ (convertLibrary Engine.bundled byBooks stock).files.openRead "table.sqlite".toList
        = .ok ["table.sqlite".toList]
      ∧ (convertFiction Engine.bundled byTable stock).files.find? ["table.sqlite".toList]
        = stock.find? ["table.sqlite".toList]
      ∧ (convertFiction Engine.bundled byTable stock).files.openRead byTable.database
        = .ok ["table.sqlite".toList] := by
  obtain ⟨hlisting, hlibrary, hfiction⟩ := run_spares_bystanders Engine.bundled_lawful stock
  have hbooks := hlibrary byBooks (by decide +kernel) (by decide +kernel)
  have htable := hfiction byTable (by decide +kernel)
  have hmeets : ∀ place, stock.Meets "table.sqlite".toList place →
      place = ["table.sqlite".toList] :=
    fun place => Files.meets_name rfl ⟨by decide, by decide, by decide +kernel⟩ (by rintro target ⟨⟩)
  have hlisted : stock.openRead byListing.listing = .ok ["listing.csv".toList] := by decide +kernel
  have hopened : stock.openRead "table.sqlite".toList = .ok ["table.sqlite".toList] := by
    decide +kernel
  have hnot_beside : ∀ place, place = ["table.sqlite".toList] →
      ¬ (stock.IsBeside byBooks.database place
          ∨ IsBesideNamed Engine.bundled byBooks.dump stock place)
        ∧ ¬ IsBesideNamed Engine.bundled (some byTable.database) stock place := by
    rintro place rfl
    decide +kernel
  refine ⟨?_, ?_, ?_, ?_, ?_, ?_⟩
  · refine ((hlisting Web.nowhere byListing rfl).1 _ _ rfl).resolve_right fun htakes => ?_
    exact absurd htakes.1 (by decide +kernel)
  · exact (hlisting Web.nowhere byListing rfl).2 _ _ _ hlisted rfl fun _ _ => not_false
  · refine (hbooks.1 _ _ rfl).resolve_right ?_
    rintro (htakes | hbeside)
    · exact absurd htakes.1 (by decide +kernel)
    · exact (hnot_beside _ rfl).1 hbeside
  · exact hbooks.2 _ _ _ hopened rfl fun there hthere => (hnot_beside there (hmeets there hthere)).1
  · refine (htable.1 _ _ rfl).resolve_right ?_
    rintro ((htakes | htakes) | hbeside)
    · exact absurd htakes.1 (by decide +kernel)
    · exact absurd htakes.1 (by decide +kernel)
    · exact (hnot_beside _ rfl).2 hbeside
  · exact htable.2 _ _ _ hopened rfl fun there hthere => (hnot_beside there (hmeets there hthere)).2

/-- A conversion whose output is its listing, by another name. -/
def selfListing : ListingConfig :=
  { listing := "listing.csv".toList, output := "./listing.csv".toList }

/-- A conversion whose output is the database that it reads. -/
def selfTable : FictionConfig :=
  { database := "table.sqlite".toList, jsonOutput := "table.sqlite".toList,
    customOutput := "out.txt".toList }

/-- A conversion whose output is its database, which is there. -/
def selfBooks : LibraryConfig :=
  { database := "table.sqlite".toList, output := "table.sqlite".toList }

/-- A conversion whose dump stands beside the database that it makes. -/
def besideDump : LibraryConfig :=
  { database := "b.sqlite".toList, dump := some "b.sqlite-shm".toList, output := "out.txt".toList }

/-- A conversion whose database is its dump, by another name. -/
def otherName : LibraryConfig :=
  { database := "file:table.sqlite".toList, dump := some "table.sqlite".toList,
    output := "out.txt".toList }

/-- A dump where a database that is there keeps its log. -/
def logged : Files := stock.put ["table.sqlite-wal".toList] (.file (.bytes [0x6C, 0x6F, 0x67]))

/-- A conversion of a database that is there, with a dump where it keeps its log. -/
def logDump : LibraryConfig :=
  { database := "table.sqlite".toList, dump := some "table.sqlite-wal".toList, output := "out.txt".toList }

/-- The stock with an empty database, and a link where this keeps its journal. -/
def bridged : Files :=
  (stock.put ["e.sqlite".toList] (.file (.bytes []))).put ["e.sqlite-journal".toList] (.link ".".toList)

/-- A conversion whose output leads to its dump, by way of the link beside its database. -/
def wayOut : LibraryConfig :=
  { database := "e.sqlite".toList, dump := some "table.sqlite".toList,
    output := "e.sqlite-journal/table.sqlite".toList }

/-- A source is emptied by an output that leads to it, and the run may even succeed; a dump that stands
beside a database is removed, be the database new or not; a dump is seeded itself when the name of the
database, as a URI, stands for it; and a dump is emptied by an output that leads to it no more, since the
link on its way stood beside the database. -/
theorem runs_lose_sources :
    ((convertListing Web.nowhere selfListing stock).result
        = .ok ⟨false, 0, selfListing.output⟩
      ∧ stock.fileAt selfListing.listing = some (.bytes [0x61, 0x0A])
      ∧ (convertListing Web.nowhere selfListing stock).files.fileAt selfListing.listing
        = some (.bytes []))
    ∧ (convertFiction Engine.bundled selfTable stock).files.fileAt selfTable.database
        ≠ stock.fileAt selfTable.database
    ∧ (convertLibrary Engine.bundled selfBooks stock).files.fileAt selfBooks.database
        ≠ stock.fileAt selfBooks.database
    ∧ (stock.fileAt "b.sqlite-shm".toList = some (.bytes [0x74, 0x6F, 0x72, 0x6E])
      ∧ (convertLibrary Engine.bundled besideDump stock).files.fileAt "b.sqlite-shm".toList = none)
    ∧ (logged.fileAt "table.sqlite-wal".toList = some (.bytes [0x6C, 0x6F, 0x67])
      ∧ (convertLibrary Engine.bundled logDump logged).files.fileAt "table.sqlite-wal".toList = none)
    ∧ (convertLibrary Engine.bundled otherName stock).files.fileAt "table.sqlite".toList
        ≠ stock.fileAt "table.sqlite".toList
    ∧ (convertLibrary Engine.bundled wayOut bridged).files.fileAt "table.sqlite".toList
        = some (.bytes [])
      ∧ (convertLibrary Engine.bundled wayOut bridged).files.fileAt wayOut.output = none := by
  refine ⟨⟨by decide +kernel, by decide +kernel, by decide +kernel⟩, by decide +kernel, by decide +kernel,
    ⟨by decide +kernel, by decide +kernel⟩, ⟨by decide +kernel, by decide +kernel⟩, by decide +kernel,
    by decide +kernel, by decide +kernel⟩

end Conversion

end BookDatasets
