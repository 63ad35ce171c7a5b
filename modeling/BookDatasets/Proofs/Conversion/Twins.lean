/-
  A run from one of two twin trees is a run from the other.

  1. **One direction** — a step that succeeds in a tree succeeds in its twin, with the same value, and
     leaves twins; what is asked for is that a file will stand in each of the places where the trees may
     differ, and that sources are elsewhere.  The other direction is the same with the trees swapped, so
     nothing is said of failures.
  2. **Outputs** — opening an output makes its place the same in both trees (`createOutput_twins`).  When
     the last output is open nothing differs any more.
  3. **Sources** — a listing or a database that is there is found in both, and one that is made is made
     in both, because its place is none of those where the trees may differ.
  4. **Once more** — a database that was queried is queried again with the same result, as long as
     nothing has changed in it or beside it (`database_again`).
-/
import BookDatasets.Proofs.Conversion.Bystanders
import BookDatasets.Proofs.Files.Twins

namespace BookDatasets

namespace Conversion

variable {path name url : Text} {files other later made : Files} {place dir output : Location}
  {spots : Location → Prop} {source target origin : Connection} {engine : Engine}

/-! ## Outputs -/

/-- **An output is opened** where it can be put. -/
theorem createOutput_ok (hparent : files.createDirectories (Path.parent path) = (made, .ok ()))
    (h : Output path made place) :
    (createOutput path).ends files = (written made place [], .ok place) := by
  obtain ⟨dir, name, rfl, hlocate⟩ := h.found
  have hmade : (makeParent path).ends files = (made, .ok ()) :=
    Procedure.ends_within_ok (Procedure.ends_operate_ok hparent _ _) _
  rw [createOutput, Procedure.ends_bind_ok hmade]
  refine Procedure.ends_within_ok (Procedure.ends_operate_ok ?_ _ _) _
  rw [Files.create_of_blank hlocate h.free]
  rfl

theorem createOutput_eq_ok (h : (createOutput path).ends files = (later, .ok place)) :
    ∃ made, files.createDirectories (Path.parent path) = (made, .ok ()) ∧ Output path made place
      ∧ later = written made place [] := by
  obtain ⟨made, ⟨⟩, hparent, hfile⟩ := Procedure.ends_bind_eq_ok.1 h
  refine ⟨made, Procedure.ends_operate_eq_ok.1 (Procedure.ends_within_eq_ok.1 hparent), ?_⟩
  have hcreate := Procedure.ends_operate_eq_ok.1 (Procedure.ends_within_eq_ok.1 hfile)
  rcases hopen : made.create path with error | ⟨opened, goal⟩
  · rw [hopen] at hcreate
    exact nomatch (Prod.mk.inj hcreate).2
  · rw [hopen] at hcreate
    obtain ⟨rfl, hgoal⟩ := Prod.mk.inj hcreate
    obtain rfl := Except.ok.inj hgoal
    obtain ⟨dir, name, rfl, hlocate, hfree, rfl⟩ := Files.create_eq_ok hopen
    exact ⟨⟨⟨dir, name, rfl, hlocate⟩, hfree⟩, rfl⟩

/-- **An output that can be opened in one tree** is opened in the other, in the same place; and there
the trees do not differ any more. -/
theorem createOutput_twins (h : Files.Twins spots files other)
    (hopen : (createOutput path).ends files = (later, .ok place))
    (hblank : ∀ there, spots there → later.IsBlank there) :
    ∃ later', (createOutput path).ends other = (later', .ok place)
      ∧ Files.Twins (fun there => spots there ∧ there ≠ place) later later' := by
  obtain ⟨made, hparent, houtput, rfl⟩ := createOutput_eq_ok hopen
  have hblank' : ∀ there, spots there → made.IsBlank there :=
    fun there hspot => (hblank there hspot).of_grows (houtput.grows [])
  obtain ⟨made', hparent', htwins⟩ := Files.createDirectories_twins h hblank' hparent
  have houtput' := houtput.of_grows htwins.grows (htwins.blank houtput.free)
  exact ⟨_, createOutput_ok hparent' houtput', htwins.put houtput.ne_nil _⟩

/-! ## Listings -/

/-- How a listing is acquired: it is there, or it is downloaded as a whole. -/
inductive Acquired (exchange : Web.Exchange) (url path : Text) (files : Files) :
    Files → Bool → Prop where
  | stands (hstands : (files.withParent path).stands path = true)
      (hplain : Path.asksForDirectory path = false) :
      Acquired exchange url path files (files.withParent path) false
  | downloads {dir : Location} {name : Text} {body : Bytes}
      (hparent : files.createDirectories (Path.parent path) = (files.withParent path, .ok ()))
      (hlocate : (files.withParent path).locate .entry path = .ok (.entry dir name false))
      (hfree : (files.withParent path).find? (name :: dir) = none)
      (hbody : (⟨url, exchange.requests, exchange.reply⟩ : Download.Call).Delivers body) :
      Acquired exchange url path files
        ((files.withParent path).put (name :: dir) (.file (.bytes body))) true

/-- **A listing is acquired** in one of these ways, or not at all. -/
theorem ifMissing_eq_ok_iff {exchange : Web.Exchange} {downloaded : Bool}
    (hquiet : exchange.removes = none) :
    (Download.ifMissing exchange url path).ends files = (later, .ok downloaded)
      ↔ Acquired exchange url path files later downloaded := by
  have hcall := Download.exchange_of_quiet hquiet url
  constructor
  · intro h
    obtain ⟨hfiles, hresult⟩ := Prod.mk.inj h
    rcases hstands : (files.withParent path).stands path with _ | _
    · have hmissing := Download.ifMissing_of_absent ⟨url, exchange.requests, exchange.reply⟩ hstands
      rw [hcall] at hmissing
      rcases hmissing with ⟨-, ⟨failure, hfailed⟩, -⟩
        | ⟨hcan, body, hbody, hdone, dir, name, hlocate, hfree, hput⟩
      · exact nomatch hfailed.symm.trans hresult
      · cases hdone.symm.trans hresult
        cases hput.symm.trans hfiles
        exact .downloads (Prod.ext rfl hcan.1) hlocate hfree hbody
    · have halone := Download.ifMissing_of_stands exchange url hstands
      have hleft := halone.result.symm.trans hresult
      split_ifs at hleft with hasks
      cases hleft
      cases halone.files.symm.trans hfiles
      exact .stands hstands (Bool.not_eq_true _ ▸ hasks)
  · intro h
    cases h with
    | stands hstands hplain =>
      have halone := Download.ifMissing_of_stands exchange url hstands
      refine Prod.ext halone.files (halone.result.trans (if_neg ?_))
      rw [hplain]
      exact Bool.false_ne_true
    | @downloads dir name body hparent hlocate hfree hbody =>
      have habsent : (files.withParent path).stands path = false := by
        rw [← Bool.not_eq_true, Files.stands_iff_find? hlocate, hfree]
        exact Bool.false_ne_true
      have hcan : files.CanMake path :=
        ⟨congrArg Prod.snd hparent, _, Files.createNew_of_free hlocate hfree⟩
      have hmissing := Download.ifMissing_of_absent ⟨url, exchange.requests, exchange.reply⟩ habsent
      rw [hcall] at hmissing
      rcases hmissing with ⟨hcannot | hlost, -⟩
        | ⟨-, body', hbody', hdone, dir', name', hlocate', -, hput⟩
      · exact absurd hcan hcannot
      · exact absurd hbody (hlost body)
      · cases hbody.unique hbody'
        cases hlocate.symm.trans hlocate'
        exact Prod.ext hput hdone

/-- What a path names is no place where the trees may differ. -/
def Avoiding (spots : Location → Prop) (path : Text) (files : Files) : Prop :=
  ∀ place, files.names path = some place → ¬ spots place

theorem Avoiding.extends (h : Avoiding spots path files) (hextends : Files.Extends files other) :
    Avoiding spots path other := by
  intro place hname
  rw [hextends.names] at hname
  exact h place hname

/-- **A listing that is acquired in one tree** is acquired in the other. -/
theorem acquired_twins {exchange : Web.Exchange} {downloaded : Bool}
    (h : Files.Twins spots files other) (hspots : Avoiding spots path files)
    (hblank : ∀ there, spots there → later.IsBlank there)
    (hacquired : Acquired exchange url path files later downloaded) :
    ∃ later', Acquired exchange url path other later' downloaded
      ∧ Files.Twins spots later later' := by
  have hspots' := hspots.extends (Files.extends_of_createDirectories files (Path.parent path))
  cases hacquired with
  | stands hstands hplain =>
    obtain ⟨made, hparent, htwins⟩ := Files.createDirectories_twins h hblank
      (Files.createDirectories_of_withParent hstands)
    obtain rfl : other.withParent path = made := congrArg Prod.fst hparent
    exact ⟨_, .stands (htwins.stands hspots' hstands) hplain, htwins⟩
  | @downloads dir name body hparent hlocate hfree hbody =>
    have hgrows : Files.Grows (files.withParent path)
        ((files.withParent path).put (name :: dir) (.file (.bytes body))) :=
      Files.Grows.put_free hfree nofun
    obtain ⟨made, hparent', htwins⟩ := Files.createDirectories_twins h
      (fun there hspot => (hblank there hspot).of_grows hgrows) hparent
    obtain rfl : other.withParent path = made := congrArg Prod.fst hparent'
    exact ⟨_, .downloads hparent' (htwins.grows.locate hlocate) (htwins.free hspots' hlocate hfree)
      hbody, (htwins.put (List.cons_ne_nil name dir) _).mono fun _ hspot => hspot.1⟩

/-! ## Databases -/

/-- A path names the same place in both trees, and none where they may differ. -/
def SamePath (spots : Location → Prop) (path : Text) (files other : Files) : Prop :=
  ∀ place, files.names path = some place → other.names path = some place ∧ ¬ spots place

/-- The database of a name is the same file in both trees, or can be, and it is no place where they may
differ. -/
def SameDatabase (engine : Engine) (spots : Location → Prop) (name : Text) (files other : Files) :
    Prop :=
  ∀ place, files.seat engine name = some place →
    other.seat engine name = some place ∧ ¬ spots place

theorem SamePath.database (h : SamePath spots path files other)
    (hliteral : Files.IsLiteral engine path) : SameDatabase engine spots path files other := by
  intro place hseat
  rw [Files.seat] at hseat ⊢
  rcases hresolve : engine.resolve path with error | _ | path'
  · rw [hresolve] at hseat
    cases hseat
  · rw [hresolve] at hseat
    cases hseat
  · rw [hresolve] at hseat
    obtain rfl := hliteral path' hresolve
    exact h place hseat

section

variable {made' : Files} (hsteady : Files.Steady files made) (hgrows : Files.Grows other made')
  (htwins : Files.Twins spots made made')
  (hfiles : ∀ place, (made'.content? place).isSome →
    (other.content? place).isSome ∨ (made.content? place).isSome)

include hsteady hgrows htwins hfiles

/-- It is so still when directories have come, and a file in both. -/
theorem SamePath.grown (h : SamePath spots path files other) : SamePath spots path made made' := by
  intro place hname
  obtain ⟨hother, hspot⟩ := h place (hsteady.names hname)
  exact ⟨Files.names_of_both hgrows.sameLinks htwins.grows.sameLinks hfiles hother hname, hspot⟩

theorem SameDatabase.grown (h : SameDatabase engine spots name files other) :
    SameDatabase engine spots name made made' := by
  intro place hseat
  rcases hresolve : engine.resolve name with error | _ | path
  · rw [Files.seat, hresolve] at hseat
    cases hseat
  · rw [Files.seat, hresolve] at hseat
    cases hseat
  · have hpath : SamePath spots path files other := by
      intro goal hname
      rw [← Files.seat_eq_names hresolve] at hname ⊢
      exact h goal hname
    rw [Files.seat_eq_names hresolve] at hseat ⊢
    exact hpath.grown hsteady hgrows htwins hfiles place hseat

end

theorem SamePath.avoiding (h : SamePath spots path files other) : Avoiding spots path files :=
  fun place hname => (h place hname).2

theorem content?_of_extends (h : Files.Extends files made) :
    ∀ place, (made.content? place).isSome → (files.content? place).isSome := by
  intro place hsome
  obtain ⟨content, hfind⟩ := Files.content?_isSome_iff.1 hsome
  exact Files.content?_isSome_iff.2 ⟨content, (h.new _ _ hfind).resolve_right nofun⟩

/-- **A database that is found in one tree** is found in the other. -/
theorem Finds.twins (h : Finds engine path files source) (hliteral : Files.IsLiteral engine path)
    (htwins : Files.Twins spots files other)
    (hblank : ∀ there, spots there → (files.withParent path).IsBlank there)
    (hsame : SamePath spots path files other) :
    Finds engine path other source
      ∧ Files.Twins spots (files.withParent path) (other.withParent path) := by
  have hfiles := Files.extends_of_createDirectories files (Path.parent path)
  have hother := Files.extends_of_createDirectories other (Path.parent path)
  obtain ⟨made, hparent, htwins'⟩ := Files.createDirectories_twins htwins hblank
    (Files.createDirectories_of_withParent h.stands)
  obtain rfl : other.withParent path = made := congrArg Prod.fst hparent
  have hsame' : SamePath spots path (files.withParent path) (other.withParent path) :=
    hsame.grown (Files.steady_of_extends hfiles) hother.grows htwins'
      fun place hsome => Or.inl (content?_of_extends hother place hsome)
  exact ⟨⟨htwins'.stands hsame'.avoiding h.stands, h.plain,
    htwins'.connect h.connect (hsame'.database hliteral)⟩, htwins'⟩

/-- **A database that can be made in one tree** can be made in the other. -/
theorem Makes.twins (h : Makes engine path files dir name source)
    (hliteral : Files.IsLiteral engine path) (htwins : Files.Twins spots files other)
    (hblank : ∀ there, spots there → (files.withParent path).IsBlank there)
    (hspots : Avoiding spots path files) :
    Makes engine path other dir name source
      ∧ Files.Twins spots (files.withParent path) (other.withParent path) := by
  obtain ⟨made, hparent, htwins'⟩ := Files.createDirectories_twins htwins hblank h.parent
  obtain rfl : other.withParent path = made := congrArg Prod.fst hparent
  have hspots' := hspots.extends (Files.extends_of_createDirectories files (Path.parent path))
  have hlocate := htwins'.grows.locate h.locate
  have hfree := htwins'.free hspots' h.locate h.free
  refine ⟨⟨hparent, hlocate, hfree, ?_⟩, htwins'⟩
  rcases Files.connect_eq_ok_iff.1 h.connect with hdetached | ⟨place, hseat, -, -⟩
  · exact Files.connect_eq_ok_iff.2 (Or.inl hdetached)
  · have hresolve : engine.resolve path = .ok (some path) := by
      rw [Files.seat] at hseat
      rcases hname : engine.resolve path with error | _ | path'
      · rw [hname] at hseat
        cases hseat
      · rw [hname] at hseat
        cases hseat
      · rw [hliteral path' hname]
    rw [Files.connect_put hlocate hfree hresolve, ← Files.connect_put h.locate h.free hresolve]
    exact h.connect

/-! ## Seeding -/

/-- What is stored in both trees is the same in both. -/
theorem IsAt.twins_store {own : Location} (h : IsAt source own) (hown : own ≠ [])
    (htwins : Files.Twins spots files other) (db : Database) :
    Files.Twins spots (files.store source db).1 (other.store source db).1 := by
  cases source with
  | detached => exact htwins
  | stored place =>
    obtain rfl := h place rfl
    exact (htwins.put hown _).mono fun _ hspot => hspot.1

/-- **A book table that is made in one tree** is made in the other. -/
theorem makeBooks_twins {made : Files} {ready : Connection} {db : Database} (hlaws : engine.Lawful)
    (h : Files.Twins spots files other) (hnew : IsNew source (name :: dir))
    (hempty : files.content? (name :: dir) = some (.bytes [])) (hsource : Files.Avoids spots source)
    (hlinkless : Files.IsLinkless files source)
    (hmake : makeBooks engine source files = (made, .ok (ready, db))) :
    ∃ made', makeBooks engine source other = (made', .ok (ready, db))
      ∧ Files.Twins spots made made' := by
  obtain ⟨tended, found, htend, hbooked, hstore⟩ := makeBooks_eq_ok_iff.1 hmake
  obtain ⟨hfound, htended⟩ := h.database hlaws hsource (hnew.isSafe hempty) hlinkless
  rw [htend] at hfound htended
  have htend' : other.database engine .changing source
      = ((other.database engine .changing source).1, .ok found) := Prod.ext rfl hfound
  obtain ⟨rfl, rfl⟩ := Prod.mk.inj hstore
  exact ⟨_, makeBooks_eq_ok_iff.2 ⟨_, found, htend', hbooked, store_eq tended _ source db⟩,
    hnew.isAt.twins_store (List.cons_ne_nil name dir) htended db⟩

/-- **A dump that is copied in one tree** is copied in the other. -/
theorem copyDump_twins {batchSize count : Nat} (hlaws : engine.Lawful)
    (h : Files.Twins spots files other) (hnew : IsNew source (name :: dir))
    (hempty : files.content? (name :: dir) = some (.bytes [])) (hsource : Files.Avoids spots source)
    (horigin : Files.Avoids spots origin) (hlinkless : Files.IsLinkless files source)
    (hunlinked : Files.IsLinkless files origin)
    (hcopy : (copyDump engine origin source batchSize).ends files = (later, .ok (target, count))) :
    ∃ later', (copyDump engine origin source batchSize).ends other = (later', .ok (target, count))
      ∧ Files.Twins spots later later' := by
  obtain ⟨made, ready, db, read, rows, hmake, hquery, hresult, hstore⟩ := copyDump_eq_ok_iff.1 hcopy
  obtain ⟨made', hmake', hmade⟩ := makeBooks_twins hlaws h hnew hempty hsource hlinkless hmake
  have hleaves := leaves_makeBooks hlaws hnew hempty
  rw [hmake] at hleaves
  have hunlinked' : Files.IsLinkless made origin :=
    fun place hplace => (hunlinked place hplace).within hleaves.within
  obtain ⟨hrows, hread⟩ := @Files.Twins.query made _ spots origin engine .reading Library.dumpName
    Library.dumpColumns hlaws hmade horigin (isSafe_reading made origin) hunlinked'
  rw [hquery] at hrows hread
  have hquery' : made'.query engine .reading origin Library.dumpName Library.dumpColumns = (_, rows) :=
    Prod.ext rfl hrows
  have hat := hnew.isAt_books hmake
  obtain ⟨rfl, rfl⟩ := Prod.mk.inj hstore
  exact ⟨_, copyDump_eq_ok_iff.2 ⟨_, ready, db, _, rows, hmake', hquery', hresult, store_eq read _ ready _⟩,
    hat.twins_store (List.cons_ne_nil name dir) hread _⟩

/-! ## Writing -/

theorem writeListing_eq_ok_iff {source : Location} {records : Nat} :
    (writeListing source output).ends files = (later, .ok records)
      ↔ ∃ octets sink, files.read source = .ok octets
        ∧ Listing.writeDataset octets .unlimited = (sink, .ok records)
        ∧ later = written files output sink.taken := by
  rw [writeListing, Procedure.ends_operate_eq_ok]
  rcases files.read source with error | octets
  · constructor
    · intro h
      cases (Prod.mk.inj h).2
    · rintro ⟨_, _, hread, -⟩
      cases hread
  · dsimp only
    rcases hwrite : Listing.writeDataset octets .unlimited with ⟨sink, result⟩
    constructor
    · intro h
      obtain ⟨hlater, rfl⟩ := Prod.mk.inj h
      exact ⟨octets, sink, rfl, hwrite, hlater.symm⟩
    · rintro ⟨_, sink', ⟨⟩, hwrite', rfl⟩
      obtain ⟨rfl, rfl⟩ := Prod.mk.inj (hwrite.symm.trans hwrite')
      rfl

theorem writeBooks_eq_ok_iff {interval records : Nat} :
    (writeBooks engine source output interval).ends files = (later, .ok records)
      ↔ ∃ read db, files.database engine .querying source = (read, .ok db)
        ∧ (Library.writeDataset db .unlimited interval).result = .ok records
        ∧ later = written read output (Library.writeDataset db .unlimited interval).sink.taken := by
  rcases hdatabase : files.database engine .querying source with ⟨read, error | db⟩
  · have hquery : files.query engine .querying source Table.bookName Table.bookColumns
        = (read, .error error) := by
      rw [Files.query, if_neg (by decide), hdatabase]
    rw [writeBooks_ends hquery]
    constructor
    · intro h
      cases (Prod.mk.inj h).2
    · rintro ⟨_, _, hdb, -⟩
      cases (Prod.mk.inj hdb).2
  · have hquery : files.query engine .querying source Table.bookName Table.bookColumns
        = (read, db.select Table.bookName Table.bookColumns) := by
      rw [Files.query, if_neg (by decide), hdatabase]
    rw [writeBooks_ends hquery, ← Library.writeDataset]
    rcases hresult : (Library.writeDataset db .unlimited interval).result with error | count
    · constructor
      · intro h
        cases (Prod.mk.inj h).2
      · rintro ⟨_, _, hdb, hcount, -⟩
        cases hdb
        cases hresult.symm.trans hcount
    · constructor
      · intro h
        obtain ⟨hlater, hvalue⟩ := Prod.mk.inj h
        obtain rfl := Except.ok.inj hvalue
        exact ⟨read, db, rfl, hresult, hlater.symm⟩
      · rintro ⟨_, _, hdb, hcount, rfl⟩
        cases hdb
        cases hresult.symm.trans hcount
        rfl

/-- Only a table whose name is closed has datasets. -/
theorem closed_of_writeDatasets {db : Database} {table : Text} {interval : Nat}
    {counts : Fiction.Counts}
    (h : (Fiction.writeDatasets db table ⟨.unlimited, .unlimited⟩ interval).result = .ok counts) :
    '\x00' ∉ table := by
  intro hnul
  rw [Fiction.writeDatasets, Database.select, if_pos hnul] at h
  cases h

/-- What a writing of a table comes to. -/
theorem writeFiction_ends {read : Files} {table : Text} {json custom : Location} {interval : Nat}
    {fetched : Except SqlError (List Table.Fetched)} (hplaces : json ≠ custom)
    (hquery : files.query engine .querying source table Fiction.selection = (read, fetched)) :
    (writeFiction engine source table json custom interval).ends files
      = (written (written read json
            (Fiction.writeFrom fetched ⟨.unlimited, .unlimited⟩ interval).sinks.json.taken) custom
            (Fiction.writeFrom fetched ⟨.unlimited, .unlimited⟩ interval).sinks.custom.taken,
        match (Fiction.writeFrom fetched ⟨.unlimited, .unlimited⟩ interval).result with
        | .ok counts => .ok counts
        | .error error => .error (.of (.convert error))) := by
  rw [Procedure.ends, writeFiction, hquery]
  dsimp only
  rw [if_neg hplaces]
  rcases (Fiction.writeFrom fetched ⟨.unlimited, .unlimited⟩ interval).result with error | counts
  · rfl
  · rfl

theorem writeFiction_eq_ok_iff {table : Text} {json custom : Location} {interval : Nat}
    {counts : Fiction.Counts} (hplaces : json ≠ custom) :
    (writeFiction engine source table json custom interval).ends files = (later, .ok counts)
      ↔ ∃ read db, files.database engine .querying source = (read, .ok db)
        ∧ (Fiction.writeDatasets db table ⟨.unlimited, .unlimited⟩ interval).result = .ok counts
        ∧ later = written (written read json
            (Fiction.writeDatasets db table ⟨.unlimited, .unlimited⟩ interval).sinks.json.taken)
          custom
          (Fiction.writeDatasets db table ⟨.unlimited, .unlimited⟩ interval).sinks.custom.taken := by
  constructor
  · intro h
    rcases hquery : files.query engine .querying source table Fiction.selection
      with ⟨read, error | rows⟩
    · rw [writeFiction_ends hplaces hquery] at h
      cases (Prod.mk.inj h).2
    rw [writeFiction_ends hplaces hquery] at h
    obtain ⟨db, hdatabase, hselect⟩ := Files.database_of_query hquery
    rw [← hselect, ← Fiction.writeDatasets] at h
    obtain ⟨hlater, hvalue⟩ := Prod.mk.inj h
    rcases hresult : (Fiction.writeDatasets db table ⟨.unlimited, .unlimited⟩ interval).result
      with error | count
    · rw [hresult] at hvalue
      cases hvalue
    · rw [hresult] at hvalue
      obtain rfl := Except.ok.inj hvalue
      exact ⟨read, db, hdatabase, hresult, hlater.symm⟩
  · rintro ⟨read, db, hdatabase, hresult, rfl⟩
    have hquery : files.query engine .querying source table Fiction.selection
        = (read, db.select table Fiction.selection) := by
      rw [Files.query, if_neg (closed_of_writeDatasets hresult), hdatabase]
    rw [writeFiction_ends hplaces hquery, ← Fiction.writeDatasets, hresult]

section

variable (h : Files.Twins spots files other) (houtput : output ≠ [])

include h houtput

theorem writeListing_twins {source : Location} {records : Nat} (hsource : ¬ spots source)
    (hwrite : (writeListing source output).ends files = (later, .ok records)) :
    ∃ later', (writeListing source output).ends other = (later', .ok records)
      ∧ Files.Twins spots later later' := by
  obtain ⟨octets, sink, hread, hdataset, rfl⟩ := writeListing_eq_ok_iff.1 hwrite
  have hread' : other.read source = .ok octets := by
    rw [Files.read, h.find? hsource]
    exact hread
  exact ⟨_, writeListing_eq_ok_iff.2 ⟨octets, sink, hread', hdataset, rfl⟩,
    (h.put houtput _).mono fun _ hspot => hspot.1⟩

variable (hlaws : engine.Lawful) (hready : IsReady files source) (hsource : Files.Avoids spots source)

include hlaws hready hsource

theorem writeBooks_twins {interval records : Nat}
    (hwrite : (writeBooks engine source output interval).ends files = (later, .ok records)) :
    ∃ later', (writeBooks engine source output interval).ends other = (later', .ok records)
      ∧ Files.Twins spots later later' := by
  obtain ⟨read, db, hdatabase, hresult, rfl⟩ := writeBooks_eq_ok_iff.1 hwrite
  obtain ⟨hfound, hread⟩ := h.database hlaws hsource hready.isSafe hready.isLinkless
  rw [hdatabase] at hfound hread
  exact ⟨_, writeBooks_eq_ok_iff.2 ⟨_, db, Prod.ext rfl hfound, hresult, rfl⟩,
    (hread.put houtput _).mono fun _ hspot => hspot.1⟩

theorem writeFiction_twins {table : Text} {custom : Location} {interval : Nat}
    {counts : Fiction.Counts} (hcustom : custom ≠ []) (hplaces : output ≠ custom)
    (hwrite : (writeFiction engine source table output custom interval).ends files
      = (later, .ok counts)) :
    ∃ later', (writeFiction engine source table output custom interval).ends other
        = (later', .ok counts)
      ∧ Files.Twins spots later later' := by
  obtain ⟨read, db, hdatabase, hresult, rfl⟩ := (writeFiction_eq_ok_iff hplaces).1 hwrite
  obtain ⟨hfound, hread⟩ := h.database hlaws hsource hready.isSafe hready.isLinkless
  rw [hdatabase] at hfound hread
  exact ⟨_, (writeFiction_eq_ok_iff hplaces).2 ⟨_, db, Prod.ext rfl hfound, hresult, rfl⟩,
    ((hread.put houtput _).put hcustom _).mono fun _ hspot => hspot.1.1⟩

end

/-! ## Once more -/

section

variable {tended : Files} {db : Database} (hlaws : engine.Lawful) (hready : IsReady files source)
  (hdatabase : files.database engine .querying source = (tended, .ok db))

include hlaws hready hdatabase

/-- A database that was queried is ready to be queried again. -/
theorem IsReady.queried : IsReady tended source := by
  have hleaves := Files.leaves_database hlaws hready.isSafe
  rw [hdatabase] at hleaves
  rintro place rfl
  obtain ⟨hlinkless, hrest⟩ := hready place rfl
  have hresting : (engine.tend .querying files place).1.AtRest place := hlaws.resting hrest hlinkless
  rw [show engine.tend .querying files place = (tended, .ok db) from hdatabase] at hresting
  exact ⟨hlinkless.within hleaves.within, hresting⟩

/-- **A second query** comes to the same, as long as nothing else has changed in the database or beside
it. -/
theorem database_again (h : Files.Twins spots tended other) (hsource : Files.Avoids spots source) :
    IsReady other source ∧ ∃ last, other.database engine .querying source = (last, .ok db)
      ∧ Files.Leaves (Files.IsBy source) other last := by
  have hqueried := hready.queried hlaws hdatabase
  have hother : IsReady other source := by
    rintro place rfl
    obtain ⟨hlinkless, hrest⟩ := hqueried place rfl
    exact ⟨(h.agree hsource).linkless hlinkless, (h.agree hsource).atRest hrest⟩
  refine ⟨hother, _, Prod.ext rfl ?_, Files.leaves_database hlaws hother.isSafe⟩
  rw [(h.database hlaws hsource hqueried.isSafe hqueried.isLinkless).1]
  cases source with
  | detached found =>
    obtain ⟨rfl, hfound⟩ := Prod.mk.inj hdatabase
    exact hfound
  | stored place =>
    obtain ⟨hlinkless, hrest⟩ := hready place rfl
    have hagain := hlaws.again hrest hlinkless (congrArg Prod.snd hdatabase)
    rwa [show engine.tend .querying files place = (tended, .ok db) from hdatabase] at hagain

end

end Conversion

end BookDatasets
