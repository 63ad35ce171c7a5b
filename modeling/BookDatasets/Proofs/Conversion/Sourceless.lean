/-
  A run that gets no source leaves earlier datasets alone.

  1. **Where a run fails** — the outermost context of a failure tells its place.  Outputs are opened
     and written last, and every failure from then on is late (`Failure.isLate`).  So a failure that is
     not late came before any output was opened.
  2. **What is left** — up to there a run has made directories; a file that it has made is gone, or it
     says that it could not remove it (`IsStuck`).  Beside its database and beside the dump files may
     have come and gone, since both were in use.
  3. **Datasets** — what a path meets decides what it leads to.  An output that is known by a way through
     a directory that is yet to be made, or that stands beside a new database under another name, is the
     exception that the rule needs (`sourceless_run_spoils`).
-/
import BookDatasets.Conversion.Fiction
import BookDatasets.Conversion.Listing
import BookDatasets.Proofs.Conversion.Library
import BookDatasets.Proofs.Download
import BookDatasets.Proofs.Files.Bundled

namespace BookDatasets

/-! ## Where a run fails -/

/-- Whether the outputs are being opened or written. -/
def Context.isLate : Context → Bool
  | .makingDirectory _ | .makingOutput _ => true
  | .convertingListing _ | .convertingBooks | .convertingTable _ => true
  | _ => false

/-- Whether a run failed at its outputs. -/
def Failure.isLate (failure : Failure) : Bool := failure.contexts.head?.any Context.isLate

theorem Failure.isLate_eq {failure : Failure} {context : Context}
    (h : failure.contexts.head? = some context) : failure.isLate = context.isLate := by
  rw [isLate, h]
  rfl

namespace Conversion

variable {path name : Text} {files other : Files} {dir : Location} {failure : Failure}
  {engine : Engine}

theorem isLate_createOutput (h : (createOutput path).ends files = (other, .error failure)) :
    failure.isLate = true := by
  rcases Procedure.ends_bind_eq_error.1 h with hparent | ⟨middle, value, -, hfile⟩
  · exact Failure.isLate_eq (Procedure.contexts_of_within hparent)
  · exact Failure.isLate_eq (Procedure.contexts_of_within hfile)

/-- The client could not be made, or the listing could not be acquired. -/
def LacksListing (failure : Failure) : Prop :=
  failure.contexts.head? = some .makingClient ∨ failure.contexts.head? = some .acquiringListing

/-- The database could not be opened, or it was new and there was no dump, or it could not be seeded
from the dump. -/
def LacksBooks (config : LibraryConfig) (failure : Failure) : Prop :=
  failure.contexts.head? = some .openingLocal
    ∨ failure = .of (.other ("Database ".toList ++ config.database
      ++ " does not exist and no seed database was given".toList))
    ∨ failure.contexts.head? = some (.removingEmpty config.database)
    ∨ (∃ dump, config.dump = some dump ∧ failure.contexts.head? = some (.openingDump dump))
    ∨ failure.contexts.head? = some .seeding

/-- The database could not be opened. -/
def LacksTable (config : FictionConfig) (failure : Failure) : Prop :=
  failure.contexts.head? = some (.openingDatabase config.database)

theorem LacksListing.not_late (h : LacksListing failure) : failure.isLate = false := by
  rcases h with h | h
  · exact Failure.isLate_eq h
  · exact Failure.isLate_eq h

theorem LacksBooks.not_late {config : LibraryConfig} (h : LacksBooks config failure) :
    failure.isLate = false := by
  rcases h with h | rfl | h | ⟨dump, -, h⟩ | h
  · exact Failure.isLate_eq h
  · rfl
  · exact Failure.isLate_eq h
  · exact Failure.isLate_eq h
  · exact Failure.isLate_eq h

theorem LacksTable.not_late {config : FictionConfig} (h : LacksTable config failure) :
    failure.isLate = false := Failure.isLate_eq h

/-! ## Listings -/

/-- **A listing that is not acquired** leaves the directories above it, and nothing else. -/
theorem files_of_ifMissing {exchange : Web.Exchange} {url : Text} (hquiet : exchange.removes = none)
    (h : (Download.ifMissing exchange url path).ends files = (other, .error failure)) :
    other = files.withParent path := by
  obtain ⟨hfiles, hresult⟩ := Prod.mk.inj h
  have hcall := Download.exchange_of_quiet hquiet url
  rcases hstands : (files.withParent path).stands path with _ | _
  · rcases Download.ifMissing_of_absent ⟨url, exchange.requests, exchange.reply⟩ hstands with
      ⟨-, -, hsame⟩ | ⟨-, body, -, hok, -⟩
    · rw [hcall] at hsame
      exact hfiles.symm.trans hsame
    · rw [hcall] at hok
      exact nomatch hresult.symm.trans hok
  · exact hfiles.symm.trans (Download.ifMissing_of_stands exchange url hstands).files

/-- **A run without a listing** leaves the directories above it, or not even these. -/
theorem files_of_lacksListing {network : Web.Network} {config : ListingConfig}
    (hquiet : (network config.url config.userAgent).removes = none)
    (h : (convertListing network config).ends files = (other, .error failure))
    (hlacks : LacksListing failure) : other = files ∨ other = files.withParent config.listing := by
  have hearly := hlacks.not_late
  by_cases hclient : Web.mayCallItself config.userAgent = true
  · rw [convertListing, if_pos hclient] at h
    rcases Procedure.ends_bind_eq_error.1 h with hacquire | ⟨_, downloaded, -, h⟩
    · right
      rcases hmissing : (Download.ifMissing
          (network config.url config.userAgent) config.url config.listing).ends files
        with ⟨last, first | value⟩
      · rw [Procedure.ends_within_error hmissing] at hacquire
        obtain ⟨rfl, -⟩ := Prod.mk.inj hacquire
        exact files_of_ifMissing hquiet hmissing
      · rw [Procedure.ends_within_ok hmissing] at hacquire
        exact nomatch (Prod.mk.inj hacquire).2
    · -- Whatever fails from here on is late.
      exfalso
      rcases Procedure.ends_bind_eq_error.1 h with hreport | ⟨_, _, -, h⟩
      · exact nomatch (Prod.mk.inj hreport).2
      rcases Procedure.ends_bind_eq_error.1 h with hopen | ⟨_, source, -, h⟩
      · rw [LacksListing, Procedure.contexts_of_within hopen] at hlacks
        exact absurd hlacks (by simp)
      rcases Procedure.ends_bind_eq_error.1 h with houtput | ⟨_, output, -, h⟩
      · exact nomatch hearly.symm.trans (isLate_createOutput houtput)
      rcases Procedure.ends_bind_eq_error.1 h with hwrite | ⟨_, records, -, h⟩
      · exact nomatch hearly.symm.trans (Failure.isLate_eq (Procedure.contexts_of_within hwrite))
      · exact nomatch (Prod.mk.inj h).2
  · rw [convertListing, if_neg hclient] at h
    exact Or.inl (Prod.mk.inj h).1.symm

/-! ## Books -/

theorem isLate_writeOut {config : LibraryConfig} {source : Connection} {seeded : Option Nat}
    (h : (writeOut engine config source seeded).ends files = (other, .error failure)) :
    failure.isLate = true := by
  rcases Procedure.ends_bind_eq_error.1 h with hreport | ⟨_, _, -, h⟩
  · exact nomatch (Prod.mk.inj hreport).2
  rcases Procedure.ends_bind_eq_error.1 h with houtput | ⟨_, output, -, h⟩
  · exact isLate_createOutput houtput
  rcases Procedure.ends_bind_eq_error.1 h with hwrite | ⟨_, records, -, h⟩
  · exact Failure.isLate_eq (Procedure.contexts_of_within hwrite)
  · exact nomatch (Prod.mk.inj h).2

/-- A path that stands for itself, or for a database in memory, can be connected to when its file has been
made. -/
theorem connect_made
    (hopens : engine.resolve path = .ok none ∨ engine.resolve path = .ok (some path))
    (hlocate : files.locate .entry path = .ok (.entry dir name false))
    (hfree : files.find? (name :: dir) = none) :
    ∃ source, (files.put (name :: dir) (.file (.bytes []))).connect engine path = .ok source := by
  rcases hopens with hmemory | hresolve
  · exact ⟨_, Files.connect_eq_ok_iff.2 (Or.inl ⟨hmemory, rfl⟩)⟩
  · exact ⟨_, Files.connect_put hlocate hfree hresolve⟩

/-- **A run without books** leaves the directories above its database, and at most removes what stands
beside the database, and changes what is beside the dump; or the database is left, and the run says so. -/
theorem cleared_of_lacksBooks {config : LibraryConfig} (hlaws : engine.Lawful)
    (hopens : engine.resolve config.database = .ok none
      ∨ engine.resolve config.database = .ok (some config.database))
    (h : (convertLibrary engine config).ends files = (other, .error failure))
    (hlacks : LacksBooks config failure) :
    Cleared engine config.database config.dump (files.withParent config.database) other
      (IsStuck config.database (convertLibrary engine config files).events failure) := by
  have hearly := hlacks.not_late
  have hliteral : Files.IsLiteral engine config.database := by
    intro path hpath
    rcases hopens with hmemory | hresolve
    · cases hmemory.symm.trans hpath
    · cases hresolve.symm.trans hpath
      rfl
  rcases openLocal_cases engine config.database files with ⟨first, hopen⟩ | ⟨source, hfinds⟩
    | ⟨dir, name, source, hmakes⟩ | ⟨dir, name, error, first, hlocate, hfree, hconnect, -⟩
  · have hends : (convertLibrary engine config).ends files = _ :=
      Procedure.ends_bind_error (Procedure.ends_within_error hopen _) _
    obtain ⟨rfl, -⟩ := Prod.mk.inj (hends.symm.trans h)
    exact fun place => Or.inl rfl
  · rw [convertLibrary_ends hfinds.ends] at h
    rw [Procedure.ends_bind_ok seedIfNew_found] at h
    exact nomatch hearly.symm.trans (isLate_writeOut h)
  · have hevents : ∀ event ∈ (seedIfNew engine config source true ((files.withParent
        config.database).put (name :: dir) (.file (.bytes [])))).events,
        event ∈ (convertLibrary engine config files).events := by
      intro event hevent
      exact Procedure.mem_events_bind (Procedure.ends_within_ok hmakes.ends _)
        (Procedure.mem_events_first _ hevent)
    rw [convertLibrary_ends hmakes.ends] at h
    rcases seedIfNew_created hlaws hmakes.locate hmakes.free (hmakes.isNew hliteral) with
      ⟨_, value, hseed, -⟩ | ⟨last, first, hseed, hcleared⟩
    · rw [Procedure.ends_bind_ok hseed] at h
      exact nomatch hearly.symm.trans (isLate_writeOut h)
    · rw [Procedure.ends_bind_error hseed] at h
      obtain ⟨rfl, hfailure⟩ := Prod.mk.inj h
      obtain rfl := Except.error.inj hfailure
      exact hcleared.imp fun hstuck => hstuck.imp_left fun ⟨event, hevent, hlevel⟩ =>
        ⟨event, hevents event hevent, hlevel⟩
  · obtain ⟨source, hsource⟩ := connect_made hopens hlocate hfree
    cases hconnect.symm.trans hsource

/-! ## Tables -/

/-- **A run without a database** changes nothing. -/
theorem files_of_lacksTable {config : FictionConfig}
    (h : (convertFiction engine config).ends files = (other, .error failure))
    (hlacks : LacksTable config failure) : other = files := by
  have hearly := hlacks.not_late
  rcases Procedure.ends_bind_eq_error.1 h with hopen | ⟨_, source, -, h⟩
  · rcases hconnect : files.connect engine config.database with error | source
    · rw [Procedure.ends_within_error (connect_error hconnect)] at hopen
      exact (Prod.mk.inj hopen).1.symm
    · rw [Procedure.ends_within_ok (connect_ok hconnect)] at hopen
      exact nomatch (Prod.mk.inj hopen).2
  · -- Whatever fails from here on is late.
    exfalso
    rcases Procedure.ends_bind_eq_error.1 h with hreport | ⟨_, _, -, h⟩
    · exact nomatch (Prod.mk.inj hreport).2
    rcases Procedure.ends_bind_eq_error.1 h with hjson | ⟨_, json, -, h⟩
    · exact nomatch hearly.symm.trans (isLate_createOutput hjson)
    rcases Procedure.ends_bind_eq_error.1 h with hcustom | ⟨_, custom, -, h⟩
    · exact nomatch hearly.symm.trans (isLate_createOutput hcustom)
    rcases Procedure.ends_bind_eq_error.1 h with hwrite | ⟨_, counts, -, h⟩
    · exact nomatch hearly.symm.trans (Failure.isLate_eq (Procedure.contexts_of_within hwrite))
    · exact nomatch (Prod.mk.inj h).2

/-! ## Datasets -/

/-- **A run that gets no source leaves earlier datasets alone.**  A listing conversion makes at most the
directories above its listing; a library conversion makes at most the directories above its database,
removes at most what stands beside it, and has files come and go beside its dump; a fiction conversion
changes nothing.  So every path leads to the same file as before, or to none as before, if it meets
neither a directory that is made nor a place beside the databases. -/
theorem sourceless_run_keeps_datasets (hlaws : engine.Lawful) (files : Files) :
    (∀ network config failure, ((network config.url config.userAgent).removes = none) →
      (convertListing network config files).result = .error failure → LacksListing failure →
      let other := (convertListing network config files).files
      let made := files.withParent config.listing
      (other = files ∨ other = made) ∧ Files.Extends files made
        ∧ ∀ path, (∀ place, files.Meets path place → made.find? place = files.find? place) →
          other.fileAt path = files.fileAt path)
    ∧ (∀ config failure, (engine.resolve config.database = .ok none
        ∨ engine.resolve config.database = .ok (some config.database)) →
      (convertLibrary engine config files).result = .error failure → LacksBooks config failure →
      let other := (convertLibrary engine config files).files
      let made := files.withParent config.database
      let stuck := IsStuck config.database (convertLibrary engine config files).events failure
      Cleared engine config.database config.dump made other stuck ∧ Files.Extends files made
        ∧ ∀ path, (∀ place, files.Meets path place → made.find? place = files.find? place
            ∧ ¬ made.IsBeside config.database place ∧ ¬ IsBesideNamed engine config.dump made place
            ∧ ¬ (stuck ∧ made.names config.database = some place)) →
          other.fileAt path = files.fileAt path)
    ∧ ∀ config failure, (convertFiction engine config files).result = .error failure →
      LacksTable config failure → (convertFiction engine config files).files = files := by
  refine ⟨?_, ?_, ?_⟩
  · intro network config failure hquiet hresult hlacks
    have hfiles := files_of_lacksListing hquiet (Procedure.ends_of_result hresult) hlacks
    refine ⟨hfiles, Files.extends_of_createDirectories files _, ?_⟩
    intro path hmeets
    apply Files.fileAt_of_meets
    intro place hplace
    rcases hfiles with hsame | hmade
    · exact congrArg (fun other => other.find? place) hsame
    · exact (congrArg (fun other => other.find? place) hmade).trans (hmeets place hplace)
  · intro config failure hopens hresult hlacks
    have hcleared := cleared_of_lacksBooks hlaws hopens (Procedure.ends_of_result hresult) hlacks
    refine ⟨hcleared, Files.extends_of_createDirectories files _, ?_⟩
    intro path hmeets
    apply Files.fileAt_of_meets
    intro place hplace
    obtain ⟨hmade, hbeside, hdump, hown⟩ := hmeets place hplace
    rcases hcleared place with hsame | ⟨hby, -⟩ | hleft | hby
    · exact hsame.trans hmade
    · exact absurd hby hbeside
    · exact absurd hleft hown
    · exact absurd hby hdump
  · intro config failure hresult hlacks
    exact files_of_lacksTable (Procedure.ends_of_result hresult) hlacks

/-- A desk with an old dataset, another one that stands beside a database to come, an empty dump, and a
third dataset beside this. -/
def desk : Files :=
  ⟨[(["out.txt".toList], .file (.bytes [0x6F, 0x6C, 0x64])),
    (["b.sqlite-wal".toList], .file (.bytes [0x6F, 0x6C, 0x64])),
    (["dump".toList], .file (.bytes [])),
    (["dump-wal".toList], .file (.bytes [0x6F, 0x6C, 0x64]))]⟩

/-- A conversion of a database that is seeded from the desk's dump. -/
def ofEmptyDump (output : Text) : LibraryConfig :=
  { database := "b.sqlite".toList, dump := some "dump".toList, output := output }

theorem fails_in {α : Type} (result : Except Failure α) (context : Context)
    (h : (match result with
      | .error failure => failure.contexts.head? == some context
      | .ok _ => false) = true) :
    ∃ failure, result = .error failure ∧ failure.contexts.head? = some context := by
  rcases result with failure | value
  · exact ⟨failure, rfl, eq_of_beq h⟩
  · cases h

theorem sourceless_runs_keep_desk :
    (convertListing Web.nowhere { listing := "new/listing.csv".toList, output := "out.txt".toList }
        desk).files.fileAt "out.txt".toList = desk.fileAt "out.txt".toList
      ∧ (convertLibrary Engine.bundled (ofEmptyDump "out.txt".toList) desk).files.fileAt
        "out.txt".toList = desk.fileAt "out.txt".toList
      ∧ (convertFiction Engine.bundled { database := "b.sqlite".toList } desk).files = desk := by
  obtain ⟨hlisting, hlibrary, hfiction⟩ := sourceless_run_keeps_datasets Engine.bundled_lawful desk
  have hmeets : ∀ place, desk.Meets "out.txt".toList place → place = ["out.txt".toList] :=
    fun place => Files.meets_name rfl ⟨by decide, by decide, by decide⟩ (by rintro target ⟨⟩)
  refine ⟨?_, ?_, ?_⟩
  · obtain ⟨failure, hfailure, hlacks⟩ := fails_in (convertListing Web.nowhere
        { listing := "new/listing.csv".toList, output := "out.txt".toList } desk).result
      .acquiringListing (by decide +kernel)
    refine (hlisting Web.nowhere _ failure rfl hfailure (Or.inr hlacks)).2.2 _ ?_
    rintro place hplace
    obtain rfl := hmeets place hplace
    decide +kernel
  · obtain ⟨failure, hfailure, hlacks⟩ := fails_in
      (convertLibrary Engine.bundled (ofEmptyDump "out.txt".toList) desk).result .seeding
      (by decide +kernel)
    refine (hlibrary _ failure (Or.inr (by decide +kernel)) hfailure
      (Or.inr (Or.inr (Or.inr (Or.inr hlacks))))).2.2 _ ?_
    rintro place hplace
    obtain rfl := hmeets place hplace
    refine ⟨by decide +kernel, by decide +kernel, by decide +kernel, fun hown => ?_⟩
    exact absurd hown.2 (by decide +kernel)
  · obtain ⟨failure, hfailure, hlacks⟩ := fails_in
      (convertFiction Engine.bundled { database := "b.sqlite".toList } desk).result
      (.openingDatabase "b.sqlite".toList) (by decide +kernel)
    exact hfiction _ failure hfailure hlacks

/-- An output that is known by a way through a directory above the listing. -/
def detour : ListingConfig :=
  { listing := "new/listing.csv".toList, output := "new/../out.txt".toList }

/-- An output that stands beside the database, under another name. -/
def besides : LibraryConfig := { database := "b.sqlite".toList, output := "./b.sqlite-wal".toList }

/-- An output that is the database. -/
def itself : LibraryConfig := { database := "b.sqlite".toList, output := "b.sqlite".toList }

/-- A conversion of a listing that a server is asked for. -/
def asked : ListingConfig :=
  { url := "http://books/listing.csv".toList, listing := "listing.csv".toList,
    output := "out.txt".toList }

/-- A network with a server that has nothing, while somebody removes the old dataset. -/
def sweeper : Web.Network :=
  Web.scripted "http://books".toList (some { status := 404, removes := some "out.txt".toList })

/-- A directory where the database would keep the index of its log. -/
def blocked : Files := ⟨[(["b.sqlite-shm".toList], .directory)]⟩

/-- Without its listing a run makes a directory through which an output is found that was not; without
a dump a run removes an output that stands beside its database under another name, and, when it cannot
remove its new database, leaves this for an output; an output that stands beside an empty dump is removed
when this is read; and while a run waits for its server its output may be removed. -/
theorem sourceless_run_spoils :
    ((∃ failure, (convertListing Web.nowhere detour desk).result = .error failure
        ∧ LacksListing failure)
      ∧ desk.fileAt detour.output = none
      ∧ (convertListing Web.nowhere detour desk).files.fileAt detour.output
        = some (.bytes [0x6F, 0x6C, 0x64]))
    ∧ ((∃ failure, (convertLibrary Engine.bundled besides desk).result = .error failure
        ∧ LacksBooks besides failure)
      ∧ (∀ ending ∈ sidecarEndings, besides.output ≠ besides.database ++ ending)
      ∧ desk.fileAt besides.output = some (.bytes [0x6F, 0x6C, 0x64])
      ∧ (convertLibrary Engine.bundled besides desk).files.fileAt besides.output = none)
    ∧ ((∃ failure, (convertLibrary Engine.bundled itself blocked).result = .error failure
        ∧ LacksBooks itself failure)
      ∧ blocked.fileAt itself.output = none
      ∧ (convertLibrary Engine.bundled itself blocked).files.fileAt itself.output
        = some (.bytes []))
    ∧ ((∃ failure, (convertLibrary Engine.bundled (ofEmptyDump "dump-wal".toList) desk).result
          = .error failure
        ∧ LacksBooks (ofEmptyDump "dump-wal".toList) failure)
      ∧ desk.fileAt "dump-wal".toList = some (.bytes [0x6F, 0x6C, 0x64])
      ∧ (convertLibrary Engine.bundled (ofEmptyDump "dump-wal".toList) desk).files.fileAt
        "dump-wal".toList = none)
    ∧ (∃ failure, (convertListing sweeper asked desk).result = .error failure
        ∧ LacksListing failure)
      ∧ desk.fileAt asked.output = some (.bytes [0x6F, 0x6C, 0x64])
      ∧ (convertListing sweeper asked desk).files.fileAt asked.output = none := by
  refine ⟨⟨?_, by decide +kernel, by decide +kernel⟩,
    ⟨?_, by decide, by decide +kernel, by decide +kernel⟩, ⟨?_, by decide +kernel, by decide +kernel⟩,
    ⟨?_, by decide +kernel, by decide +kernel⟩, ?_, by decide +kernel, by decide +kernel⟩
  · obtain ⟨failure, hfailure, hlacks⟩ := fails_in (convertListing Web.nowhere detour desk).result
      .acquiringListing (by decide +kernel)
    exact ⟨failure, hfailure, Or.inr hlacks⟩
  · exact ⟨_, by decide +kernel, Or.inr (Or.inl rfl)⟩
  · obtain ⟨failure, hfailure, hlacks⟩ := fails_in
      (convertLibrary Engine.bundled itself blocked).result (.removingEmpty itself.database)
      (by decide +kernel)
    exact ⟨failure, hfailure, Or.inr (Or.inr (Or.inl hlacks))⟩
  · obtain ⟨failure, hfailure, hlacks⟩ := fails_in
      (convertLibrary Engine.bundled (ofEmptyDump "dump-wal".toList) desk).result .seeding
      (by decide +kernel)
    exact ⟨failure, hfailure, Or.inr (Or.inr (Or.inr (Or.inr hlacks)))⟩
  · obtain ⟨failure, hfailure, hlacks⟩ := fails_in (convertListing sweeper asked desk).result
      .acquiringListing (by decide +kernel)
    exact ⟨failure, hfailure, Or.inr hlacks⟩

end Conversion

end BookDatasets
