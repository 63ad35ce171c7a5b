/-
  No run leaves a database that is not seeded, or not as a whole.

  1. **Two states** — between runs the path of the database is CLEAR, or the database is STORED there
     with all rows of one dump.
  2. **Run after run** — the stored database stays (`runs_stored`), and so does the clear path, up to
     the run that fills the database.  The inductions are on the runs; the state of the tree is what
     each hands to the next.
  3. **What is asked for** — a path with `..` in it may seem clear before the directories above it are
     made, and not be so; a name may be too long for what is beside it to be removed; a link beside it
     may keep a database from being seeded; a name of a database in memory has a file that is never
     seeded; and an output may be the database by another name.
-/
import BookDatasets.Proofs.Conversion.Library
import BookDatasets.Proofs.Files.Bundled

namespace BookDatasets

namespace Conversion

/-! ## Runs -/

/-- The outcomes of runs, each from the tree that the run before it left. -/
def runs (engine : Engine) : List LibraryConfig → Files → List (Outcome LibraryReport)
  | [], _ => []
  | config :: configs, files =>
    let outcome := convertLibrary engine config files
    outcome :: runs engine configs outcome.files

/-- The database of a path has the rows in its book table, and nothing else. -/
def Holds (engine : Engine) (path : Text) (rows : List (List (Option Text))) (files : Files) : Prop :=
  ∃ place, files.connect engine path = .ok (.stored place)
    ∧ files.content? place = some (.tables (Library.filled rows))

/-- If a run succeeds, it reports what it seeded and as many records as there are rows, and their
dataset is in its output. -/
def Reports (rows : List (List (Option Text))) (seeded : Option Nat) (config : LibraryConfig)
    (o : Outcome LibraryReport) : Prop :=
  ∀ report, o.result = .ok report → report = ⟨seeded, rows.length, config.output⟩
    ∧ o.files.readAt config.output = .ok (dataset rows)

/-- A run does what it would do without a dump. -/
def Skips (engine : Engine) (config : LibraryConfig) (files : Files) (o : Outcome LibraryReport) :
    Prop :=
  o.files = (convertLibrary engine { config with dump := none } files).files
    ∧ o.result = (convertLibrary engine { config with dump := none } files).result

/-- Each run has its dump elsewhere, and its output leads elsewhere when it is over. -/
def Apart (engine : Engine) (path : Text) : List LibraryConfig → Files → Prop
  | [], _ => True
  | config :: configs, files =>
    (∀ dump ∈ config.dump, DumpElsewhere engine path dump files)
      ∧ LeadsElsewhere path config.output (convertLibrary engine config files).files
      ∧ Apart engine path configs (convertLibrary engine config files).files

instance decidableApart (engine : Engine) (path : Text) :
    (configs : List LibraryConfig) → (files : Files) → Decidable (Apart engine path configs files)
  | [], _ => isTrue trivial
  | config :: configs, files =>
    have := decidableApart engine path configs (convertLibrary engine config files).files
    inferInstanceAs (Decidable (_ ∧ _ ∧ _))

/-- Runs on a database that holds the rows, and their outcomes: none of them seeds it or changes it,
and each that succeeds writes the dataset of the rows. -/
inductive Settled (engine : Engine) (path : Text) (rows : List (List (Option Text))) :
    Files → List LibraryConfig → List (Outcome LibraryReport) → Prop where
  | done {files : Files} : Settled engine path rows files [] []
  | run {files : Files} {config : LibraryConfig} {configs : List LibraryConfig}
      {o : Outcome LibraryReport} {os : List (Outcome LibraryReport)}
      (hskips : Skips engine config files o) (hholds : Holds engine path rows o.files)
      (hreports : Reports rows none config o)
      (hlater : Settled engine path rows o.files configs os) :
      Settled engine path rows files (config :: configs) (o :: os)

/-- Runs on a path where nothing stands, and their outcomes: each run fails that cannot make the
database or cannot copy its dump as a whole, and nothing stands there after it; after the first other
run the database holds all rows of its dump, and the later runs leave it so. -/
inductive SeededOnce (engine : Engine) (path : Text) :
    Files → List LibraryConfig → List (Outcome LibraryReport) → Prop where
  | done {files : Files} : SeededOnce engine path files [] []
  | fails {files : Files} {config : LibraryConfig} {configs : List LibraryConfig}
      {o : Outcome LibraryReport} {os : List (Outcome LibraryReport)} {failure : Failure}
      (hcause : ∀ rows, ¬ Fills engine config files rows) (hresult : o.result = .error failure)
      (habsent : o.files.stands path = false)
      (hothers : KeepsOthers engine path config.dump (files.withParent path) o.files)
      (hlater : SeededOnce engine path o.files configs os) :
      SeededOnce engine path files (config :: configs) (o :: os)
  | seeds {files : Files} {config : LibraryConfig} {configs : List LibraryConfig}
      {o : Outcome LibraryReport} {os : List (Outcome LibraryReport)}
      {rows : List (List (Option Text))} (hfills : Fills engine config files rows)
      (hholds : Holds engine path rows o.files) (hreports : Reports rows (some rows.length) config o)
      (hlater : Settled engine path rows o.files configs os) :
      SeededOnce engine path files (config :: configs) (o :: os)

section

variable {engine : Engine} {path name : Text} {files : Files} {dir place : Location}
  {config : LibraryConfig} {configs : List LibraryConfig} {rows : List (List (Option Text))}

/-! ## Databases after runs -/

theorem Settled.holds {os : List (Outcome LibraryReport)}
    (h : Settled engine path rows files configs os) : ∀ o ∈ os, Holds engine path rows o.files := by
  induction h with
  | done => exact fun _ hmem => absurd hmem List.not_mem_nil
  | run _ hholds _ _ ih => exact List.forall_mem_cons.2 ⟨hholds, ih⟩

/-- **After every run** nothing stands at the path, or the database holds the rows of a dump. -/
theorem SeededOnce.absent_or_holds {os : List (Outcome LibraryReport)}
    (h : SeededOnce engine path files configs os) :
    ∀ o ∈ os, o.files.stands path = false ∨ ∃ rows, Holds engine path rows o.files := by
  induction h with
  | done => exact fun _ hmem => absurd hmem List.not_mem_nil
  | fails _ _ habsent _ _ ih => exact List.forall_mem_cons.2 ⟨Or.inl habsent, ih⟩
  | @seeds _ _ _ _ _ rows _ hholds _ hlater =>
    refine List.forall_mem_cons.2 ⟨Or.inr ⟨rows, hholds⟩, ?_⟩
    intro o hmem
    exact Or.inr ⟨rows, hlater.holds o hmem⟩

theorem not_holds_of_bytes {octets : Bytes}
    (hconnect : files.connect engine path = .ok (.stored place))
    (hbytes : files.content? place = some (.bytes octets)) : ¬ Holds engine path rows files := by
  rintro ⟨place', hconnect', htables⟩
  cases hconnect.symm.trans hconnect'
  cases hbytes.symm.trans htables

theorem not_seededOnce (hstands : (convertLibrary engine config files).files.stands path = true)
    (hunseeded : ∀ rows, ¬ Holds engine path rows (convertLibrary engine config files).files) :
    ¬ SeededOnce engine path files [config] (runs engine [config] files) := by
  intro honce
  rcases honce.absent_or_holds _ List.mem_cons_self with habsent | ⟨rows, hholds⟩
  · exact Bool.false_ne_true (habsent.symm.trans hstands)
  · exact hunseeded rows hholds

theorem not_seededOnce_of_fills (hfills : Fills engine config files rows)
    (hunseeded : ∀ rows, ¬ Holds engine path rows (convertLibrary engine config files).files) :
    ¬ SeededOnce engine path files [config] (runs engine [config] files) := by
  intro honce
  cases honce with
  | fails hcause => exact hcause rows hfills
  | seeds _ hholds => exact hunseeded _ hholds

theorem Stored.holds (h : Stored path rows files dir name)
    (hresolve : engine.resolve path = .ok (some path)) : Holds engine path rows files := by
  refine ⟨name :: dir, Files.connect_eq_stored h.locate h.find hresolve, ?_⟩
  rw [Files.content?, h.find]

/-! ## Run after run -/

/-- **Runs on a stored database** leave it stored: what the first of them keeps is what the next one
starts from. -/
theorem runs_stored (hlaws : engine.Lawful) (hresolve : engine.resolve path = .ok (some path))
    (hpath : ∀ config ∈ configs, config.database = path) (hapart : Apart engine path configs files)
    (h : Stored path rows files dir name) :
    Settled engine path rows files configs (runs engine configs files) := by
  induction configs generalizing files with
  | nil => exact .done
  | cons config configs ih =>
    obtain ⟨rfl, hpath⟩ := List.forall_mem_cons.1 hpath
    obtain ⟨-, houtput, hapart⟩ := hapart
    have hends := convertLibrary_stored h hresolve
    have hundumped : (convertLibrary engine { config with dump := none }).ends files
        = (writeOut engine config (.stored (name :: dir)) none).ends files :=
      convertLibrary_stored h hresolve
    have hskips : Skips engine config files (convertLibrary engine config files) :=
      Prod.mk.inj (hends.trans hundumped.symm)
    obtain ⟨hstored, hreports⟩ := writeOut_stored hlaws h hends.symm houtput
    exact .run hskips (hstored.holds hresolve) hreports (ih hpath hapart hstored)

/-- **Runs from a clear path** leave it clear up to the one that fills the database, and stored from
then on. -/
theorem seeded_once (hlaws : engine.Lawful) (hresolve : engine.resolve path = .ok (some path))
    (hpath : ∀ config ∈ configs, config.database = path) (hapart : Apart engine path configs files)
    (hclear : Clear path (files.withParent path)) :
    SeededOnce engine path files configs (runs engine configs files) := by
  induction configs generalizing files with
  | nil => exact .done
  | cons config configs ih =>
    obtain ⟨rfl, hlater⟩ := List.forall_mem_cons.1 hpath
    obtain ⟨hdump, houtput, hapart⟩ := hapart
    rcases convertLibrary_clear hlaws hclear hresolve hdump with
      ⟨hcause, other, failure, hends, hrestored⟩
      | ⟨rows, stored, dir, name, hfills, hstored, hends⟩
    · -- The tree that is left has the directories already, so it is clear as it is.
      obtain ⟨rfl, hresult⟩ := Prod.mk.inj hends
      refine .fails hcause hresult hrestored.clear.absent hrestored.others (ih hlater hapart ?_)
      rw [hrestored.parents]
      exact hrestored.clear
    · obtain ⟨hstored, hreports⟩ := writeOut_stored hlaws hstored hends.symm houtput
      exact .seeds hfills (hstored.holds hresolve) hreports
        (runs_stored hlaws hresolve hlater hapart hstored)

end

/-- A dump with one row. -/
def dumpOf (title : Table.Cell) : Database :=
  ⟨[.plain Library.dumpName Library.dumpColumns
    [[.text "Lem".toList, .null, .null, .null, .integer 1961, .null, title, .null, .null]]], []⟩

/-- A tree with a dump, another one with a title that is no text, and a directory. -/
def cellar : Files :=
  ⟨[(["dump.sqlite".toList], .file (.tables (dumpOf (.text "Solaris".toList)))),
    (["torn.sqlite".toList], .file (.tables (dumpOf (.blob [0xFF])))),
    (["data".toList], .directory)]⟩

/-- The database of the runs in the cellar, in a directory that is not there yet. -/
def newBook : Text := "new/book.sqlite".toList

/-- Runs without a dump, with one that is missing and one that is torn; one that cannot open its
output; and a last one. -/
def attempts : List LibraryConfig :=
  [{ database := newBook, output := "out.txt".toList },
    { database := newBook, dump := some "dump.db".toList, output := "out.txt".toList },
    { database := newBook, dump := some "torn.sqlite".toList, output := "out.txt".toList },
    { database := newBook, dump := some "dump.sqlite".toList, output := "data".toList },
    { database := newBook, dump := some "torn.sqlite".toList, output := "out.txt".toList }]

theorem seeded_once_in_cellar :
    Engine.bundled.resolve newBook = .ok (some newBook)
      ∧ Clear newBook (cellar.withParent newBook) ∧ Apart Engine.bundled newBook attempts cellar
      ∧ ((runs Engine.bundled attempts cellar).map fun o => o.files.stands newBook)
        = [false, false, false, true, true]
      ∧ SeededOnce Engine.bundled newBook cellar attempts (runs Engine.bundled attempts cellar) := by
  have hresolve : Engine.bundled.resolve newBook = .ok (some newBook) := by decide +kernel
  have hclear : Clear newBook (cellar.withParent newBook) := by decide +kernel
  have hapart : Apart Engine.bundled newBook attempts cellar := by decide +kernel
  exact ⟨hresolve, hclear, hapart, by decide +kernel,
    seeded_once Engine.bundled_lawful hresolve (by decide) hapart hclear⟩

/-- A path that makes a directory beside its own database. -/
def loop : Text := "b.sqlite-shm/../b.sqlite".toList

/-- A name that is too long with an ending. -/
def longName : Text := List.replicate 250 'b'

/-- A run without a dump. -/
def bare (path : Text) : LibraryConfig := { database := path, output := "out.txt".toList }

/-- A run with the dump of the cellar. -/
def dumped (path output : Text) : LibraryConfig :=
  { database := path, dump := some "dump.sqlite".toList, output := output }

/-- The name of a database in memory. -/
def memoryName : Text := Engine.Bundled.memoryName

/-- Paths and trees with a good dump that cannot be copied: no journal can be written, the new database
is the journal of the dump, or a link makes it so. -/
def jammed : List (Text × Files) :=
  [("b.sqlite".toList, cellar.put ["b.sqlite-journal".toList] (.link "gone".toList)),
    ("dump.sqlite-journal".toList, cellar),
    ("b.sqlite".toList, cellar.put ["dump.sqlite-journal".toList] (.link "b.sqlite".toList))]

theorem fills_dumped {name : Text} {files : Files}
    (hparents : (files.createDirectories (Path.parent name)).2 = .ok ())
    (hcreate : (files.withParent name).createNew name
      = .ok (files.put [name] (.file (.bytes [])), [name]))
    (hconnect : (files.put [name] (.file (.bytes []))).connect Engine.bundled "dump.sqlite".toList
      = .ok (.stored ["dump.sqlite".toList]))
    (hreads : ((files.put [name] (.file (.bytes []))).database Engine.bundled .reading
      (.stored ["dump.sqlite".toList])).2 = .ok (dumpOf (.text "Solaris".toList))) :
    ∃ rows, Fills Engine.bundled (dumped name "out.txt".toList) files rows := by
  refine ⟨[[some "Lem".toList, none, none, none, some "1961".toList, none, some "Solaris".toList, none,
    none]], hparents, _, _, hcreate, "dump.sqlite".toList, rfl, _, _, hconnect, hreads, ?_⟩
  exact Library.selectDump_eq_ok_iff.1 (by decide +kernel)

theorem fills_jammed : ∀ entry ∈ jammed,
    ∃ rows, Fills Engine.bundled (dumped entry.1 "out.txt".toList) entry.2 rows := by
  rintro entry (_ | ⟨_, _ | ⟨_, _ | ⟨_, ⟨⟩⟩⟩⟩)
  · exact fills_dumped (by decide +kernel) (by decide +kernel) (by decide +kernel) (by decide +kernel)
  · exact fills_dumped (by decide +kernel) (by decide +kernel) (by decide +kernel) (by decide +kernel)
  · exact fills_dumped (by decide +kernel) (by decide +kernel) (by decide +kernel) (by decide +kernel)

/-- A path may seem clear before the directories above it are made, and yet a run without a dump leaves
a database there that is not seeded, as it does where a name is too long for what is beside it to be
removed; a good dump may not be copied, because of a link beside the database or the dump, or because the
database stands beside the dump; the file of a database in memory is made, but not seeded; and the
database is lost to an output that is the same file by another name. -/
theorem unseeded_remains :
    (Clear loop .empty ∧ Apart Engine.bundled loop [bare loop] .empty
      ∧ ¬ SeededOnce Engine.bundled loop .empty [bare loop]
        (runs Engine.bundled [bare loop] .empty))
    ∧ ((∀ ending ∈ [] :: sidecarEndings, cellar.stands (longName ++ ending) = false)
      ∧ Apart Engine.bundled longName [bare longName] cellar
      ∧ ¬ SeededOnce Engine.bundled longName cellar [bare longName]
        (runs Engine.bundled [bare longName] cellar))
    ∧ (∀ entry ∈ jammed,
      (∀ ending ∈ [] :: sidecarEndings, entry.2.isDirectory (entry.1 ++ ending) = false
        ∧ "dump.sqlite".toList ≠ entry.1 ++ ending)
      ∧ LeadsElsewhere entry.1 "out.txt".toList entry.2
      ∧ ¬ SeededOnce Engine.bundled entry.1 entry.2 [dumped entry.1 "out.txt".toList]
        (runs Engine.bundled [dumped entry.1 "out.txt".toList] entry.2))
    ∧ (Clear memoryName (cellar.withParent memoryName)
      ∧ Apart Engine.bundled memoryName [dumped memoryName "out.txt".toList] cellar
      ∧ ¬ SeededOnce Engine.bundled memoryName cellar [dumped memoryName "out.txt".toList]
        (runs Engine.bundled [dumped memoryName "out.txt".toList] cellar))
    ∧ Clear "b.sqlite".toList (cellar.withParent "b.sqlite".toList)
      ∧ ¬ SeededOnce Engine.bundled "b.sqlite".toList cellar
        [dumped "b.sqlite".toList "./b.sqlite".toList]
        (runs Engine.bundled [dumped "b.sqlite".toList "./b.sqlite".toList] cellar) := by
  refine ⟨⟨by decide +kernel, by decide +kernel, ?_⟩, ⟨by decide +kernel, by decide +kernel, ?_⟩,
    ?_, ⟨by decide +kernel, by decide +kernel, ?_⟩, by decide +kernel, ?_⟩
  · -- The directory beside the database cannot be removed, so the database stays.
    have hconnect : (convertLibrary Engine.bundled (bare loop) .empty).files.connect Engine.bundled loop
        = .ok (.stored ["b.sqlite".toList]) := by decide +kernel
    have hempty : (convertLibrary Engine.bundled (bare loop) .empty).files.content?
        ["b.sqlite".toList] = some (.bytes []) := by decide +kernel
    exact not_seededOnce (by decide +kernel) fun rows => not_holds_of_bytes hconnect hempty
  · -- A name that is too long cannot be removed, whether it is there or not.
    have hconnect : (convertLibrary Engine.bundled (bare longName) cellar).files.connect Engine.bundled
        longName = .ok (.stored [longName]) := by decide +kernel
    have hempty : (convertLibrary Engine.bundled (bare longName) cellar).files.content? [longName]
        = some (.bytes []) := by decide +kernel
    exact not_seededOnce (by decide +kernel) fun rows => not_holds_of_bytes hconnect hempty
  · -- The dump is good, but it is not copied, and the database is gone.
    have hunseeded : ∀ entry ∈ jammed, (convertLibrary Engine.bundled
        (dumped entry.1 "out.txt".toList) entry.2).files.connect Engine.bundled entry.1
          = .error .cannotOpen := by decide +kernel
    have helsewhere : ∀ entry ∈ jammed, (∀ ending ∈ [] :: sidecarEndings,
        entry.2.isDirectory (entry.1 ++ ending) = false ∧ "dump.sqlite".toList ≠ entry.1 ++ ending)
        ∧ LeadsElsewhere entry.1 "out.txt".toList entry.2 := by decide +kernel
    intro entry hentry
    obtain ⟨rows, hrows⟩ := fills_jammed entry hentry
    refine ⟨(helsewhere entry hentry).1, (helsewhere entry hentry).2, ?_⟩
    refine not_seededOnce_of_fills hrows ?_
    rintro rows ⟨place, hstored, -⟩
    cases (hunseeded entry hentry).symm.trans hstored
  · -- What was seeded is not in the file.
    apply not_seededOnce (by decide +kernel)
    rintro rows ⟨place, hstored, -⟩
    have hdetached : (convertLibrary Engine.bundled (dumped memoryName "out.txt".toList)
        cellar).files.connect Engine.bundled memoryName = .ok (.detached .empty) := by decide +kernel
    cases hdetached.symm.trans hstored
  · -- The output is opened last, and empties the file.
    have hconnect : (convertLibrary Engine.bundled (dumped "b.sqlite".toList "./b.sqlite".toList)
        cellar).files.connect Engine.bundled "b.sqlite".toList
          = .ok (.stored ["b.sqlite".toList]) := by decide +kernel
    have hempty : (convertLibrary Engine.bundled (dumped "b.sqlite".toList "./b.sqlite".toList)
        cellar).files.content? ["b.sqlite".toList] = some (.bytes []) := by decide +kernel
    exact not_seededOnce (by decide +kernel) fun rows => not_holds_of_bytes hconnect hempty

end Conversion

end BookDatasets
