/-
  Command lines mean the same in any order.

  1. **Lines** — a line is a subcommand between two groups of settings.  Before it stand the log
     flags that are set there, after it its own flags and the log flags that are set there; which of
     them are set, their order and how each is written are free.
  2. **Meanings** — what a line asks for is said without reading it: `Settles` compares a field with
     the settings of ONE flag, wherever they stand.  A field whose flag is set is what the value
     reads as, and a field whose flag is not set is as the configuration has it.
  3. **One meaning** (`Line.Means.unique`) — fields that the same settings settle are equal, so a
     line means one invocation only.
  4. **Order** (`Line.Means.of_reorders`) — a meaning asks which settings there are, and not where;
     so it stays the same when the settings of a group change their places and their spellings.
  5. **Reading** (`Line.read_words`, `Line.means_reading`) — the words of a line are read as its two
     groups, and what is read is what the line means.
-/
import BookDatasets.CommandLine.Invocation
import BookDatasets.Proofs.CommandLine.Settings
import Mathlib.Logic.Relator

namespace BookDatasets

namespace CommandLine

/-! ## Lines -/

/-- The word for a subcommand. -/
def Subcommand.word : Subcommand → Text
  | .csv => "csv".toList
  | .library => "library".toList
  | .fiction => "fiction".toList

/-- A command line with this subcommand.  Before it stand settings of the log flags, and after it
settings of its own flags and of the log flags. -/
structure Line (command : Subcommand) where
  before : Group (scopeFlags none)
  after : Group (scopeFlags (some command))

namespace Line

variable {command : Subcommand}

/-- The words of a line. -/
def words (line : Line command) : List Text :=
  line.before.words ++ [command.word] ++ line.after.words

/-- The same settings before the subcommand, and the same after it, in another order and other
spellings. -/
structure Reorders (other line : Line command) : Prop where
  before : other.before.pairs.Perm line.before.pairs
  after : other.after.pairs.Perm line.after.pairs

end Line

/-! ## Meanings -/

/-- A field is settled by the settings of a flag: it is what the value of the flag reads as, or it is
the standard where the flag is not set. -/
structure Settles {α : Type} (pairs : List (Flag × Text)) (flag : Flag) (Reads : Text → α → Prop)
    (standard field : α) : Prop where
  given : ∀ value, (flag, value) ∈ pairs → Reads value field
  absent : (∀ value, (flag, value) ∉ pairs) → field = standard

/-- What the flags of the listing conversion settle. -/
structure ListingMeans (pairs : List (Flag × Text)) (config : ListingConfig) : Prop where
  url : Settles pairs .url Eq (ListingConfig.url {}) config.url
  listing : Settles pairs .csvPath Eq (ListingConfig.listing {}) config.listing
  output : Settles pairs .output Eq (ListingConfig.output {}) config.output
  timeout : Settles pairs .timeoutSeconds Numeral (ListingConfig.timeout {}) config.timeout
  userAgent : Settles pairs .userAgent Eq (ListingConfig.userAgent {}) config.userAgent

/-- What the flags of the library conversion settle.  A batch of no rows becomes one of one row. -/
structure LibraryMeans (pairs : List (Flag × Text)) (config : LibraryConfig) : Prop where
  database : Settles pairs .dbPath Eq (LibraryConfig.database {}) config.database
  dump : Settles pairs .seedDb (fun value dump => dump = some value) (LibraryConfig.dump {})
    config.dump
  output : Settles pairs .output Eq (LibraryConfig.output {}) config.output
  batchSize : Settles pairs .batchSize (fun value size => ∃ n, Numeral value n ∧ size = max n 1)
    (LibraryConfig.batchSize {}) config.batchSize
  interval : config.interval = LibraryConfig.interval {}

/-- What the flags of the fiction conversion settle. -/
structure FictionMeans (pairs : List (Flag × Text)) (config : FictionConfig) : Prop where
  database : Settles pairs .dbPath Eq (FictionConfig.database {}) config.database
  table : Settles pairs .table Eq (FictionConfig.table {}) config.table
  jsonOutput : Settles pairs .jsonOutput Eq (FictionConfig.jsonOutput {}) config.jsonOutput
  customOutput : Settles pairs .customOutput Eq (FictionConfig.customOutput {}) config.customOutput
  interval : config.interval = FictionConfig.interval {}

/-- The job that the settings after a subcommand ask for. -/
inductive JobMeans (pairs : List (Flag × Text)) : Subcommand → Job → Prop where
  | csv {config : ListingConfig} (h : ListingMeans pairs config) : JobMeans pairs .csv (.csv config)
  | library {config : LibraryConfig} (h : LibraryMeans pairs config) :
    JobMeans pairs .library (.library config)
  | fiction {config : FictionConfig} (h : FictionMeans pairs config) :
    JobMeans pairs .fiction (.fiction config)

namespace Line

variable {command : Subcommand}

/-- A log field is settled by a flag that may be set on both sides of the subcommand: it is as the
setting after it says, else as the one before it says, else it is the standard.  The values are
names. -/
def SettlesLog {ν : Type} (line : Line command) (flag : Flag) (name : ν → Text)
    (standard field : ν) : Prop :=
  ∃ earlier, Settles line.before.pairs flag (fun value x => value = name x) standard earlier
    ∧ Settles line.after.pairs flag (fun value x => value = name x) earlier field

/-- The invocation that a line asks for. -/
structure Means (line : Line command) (inv : Invocation) : Prop where
  level : line.SettlesLog .logLevel levelName .info inv.level
  format : line.SettlesLog .logFormat formatName .plain inv.format
  job : JobMeans line.after.pairs command inv.job

end Line

/-! ## One meaning -/

/-- What is settled is settled once: two fields that the settings of a flag settle are equal. -/
theorem Settles.unique {α : Type} {pairs : List (Flag × Text)} {flag : Flag}
    {Reads : Text → α → Prop} {standard a b : α} (hreads : Relator.RightUnique Reads)
    (ha : Settles pairs flag Reads standard a) (hb : Settles pairs flag Reads standard b) :
    a = b := by
  by_cases hset : ∃ value, (flag, value) ∈ pairs
  · obtain ⟨value, hvalue⟩ := hset
    exact hreads (ha.given value hvalue) (hb.given value hvalue)
  · have habsent : ∀ value, (flag, value) ∉ pairs := not_exists.1 hset
    rw [ha.absent habsent, hb.absent habsent]

theorem rightUnique_eq : Relator.RightUnique (Eq : Text → Text → Prop) := by
  rintro value a b rfl rfl
  rfl

theorem rightUnique_numeral : Relator.RightUnique Numeral := by
  intro value a b ha hb
  rw [← ha.ofDigitChars, hb.ofDigitChars]

/-- Names that can be read are names of one thing only. -/
theorem rightUnique_name {ν : Type} {name : ν → Text} {read? : Text → Option ν}
    (hread : ∀ x, read? (name x) = some x) :
    Relator.RightUnique fun value x => value = name x := by
  rintro value a b rfl hb
  apply Option.some.inj
  rw [← hread a, hb, hread]

section

variable {pairs : List (Flag × Text)}

theorem ListingMeans.unique {a b : ListingConfig} (ha : ListingMeans pairs a)
    (hb : ListingMeans pairs b) : a = b := by
  have hurl := ha.url.unique rightUnique_eq hb.url
  have hlisting := ha.listing.unique rightUnique_eq hb.listing
  have houtput := ha.output.unique rightUnique_eq hb.output
  have htimeout := ha.timeout.unique rightUnique_numeral hb.timeout
  have huserAgent := ha.userAgent.unique rightUnique_eq hb.userAgent
  cases a
  cases b
  simp_all only

theorem LibraryMeans.unique {a b : LibraryConfig} (ha : LibraryMeans pairs a)
    (hb : LibraryMeans pairs b) : a = b := by
  have hdatabase := ha.database.unique rightUnique_eq hb.database
  have hdump : a.dump = b.dump := ha.dump.unique (fun _ _ _ ha hb => ha.trans hb.symm) hb.dump
  have houtput := ha.output.unique rightUnique_eq hb.output
  have hbatchSize : a.batchSize = b.batchSize := by
    refine ha.batchSize.unique ?_ hb.batchSize
    rintro value _ _ ⟨m, hm, rfl⟩ ⟨n, hn, rfl⟩
    rw [rightUnique_numeral hm hn]
  have hinterval := ha.interval.trans hb.interval.symm
  cases a
  cases b
  simp_all only

theorem FictionMeans.unique {a b : FictionConfig} (ha : FictionMeans pairs a)
    (hb : FictionMeans pairs b) : a = b := by
  have hdatabase := ha.database.unique rightUnique_eq hb.database
  have htable := ha.table.unique rightUnique_eq hb.table
  have hjson := ha.jsonOutput.unique rightUnique_eq hb.jsonOutput
  have hcustom := ha.customOutput.unique rightUnique_eq hb.customOutput
  have hinterval := ha.interval.trans hb.interval.symm
  cases a
  cases b
  simp_all only

theorem JobMeans.unique {command : Subcommand} {a b : Job} (ha : JobMeans pairs command a)
    (hb : JobMeans pairs command b) : a = b := by
  cases ha with
  | csv ha =>
    cases hb with
    | csv hb => rw [ha.unique hb]
  | library ha =>
    cases hb with
    | library hb => rw [ha.unique hb]
  | fiction ha =>
    cases hb with
    | fiction hb => rw [ha.unique hb]

end

namespace Line

variable {command : Subcommand} {line : Line command}

theorem SettlesLog.unique {ν : Type} {flag : Flag} {name : ν → Text} {read? : Text → Option ν}
    (hread : ∀ x, read? (name x) = some x) {standard a b : ν}
    (ha : line.SettlesLog flag name standard a) (hb : line.SettlesLog flag name standard b) :
    a = b := by
  obtain ⟨earlier, hbefore, hafter⟩ := ha
  obtain ⟨earlier', hbefore', hafter'⟩ := hb
  obtain rfl := hbefore.unique (rightUnique_name hread) hbefore'
  exact hafter.unique (rightUnique_name hread) hafter'

/-- **A line means one invocation only.** -/
theorem Means.unique {a b : Invocation} (ha : line.Means a) (hb : line.Means b) : a = b := by
  have hlevel := ha.level.unique level?_levelName hb.level
  have hformat := ha.format.unique format?_formatName hb.format
  have hjob := ha.job.unique hb.job
  cases a
  cases b
  simp_all only

end Line

/-! ## Another order -/

section

variable {pairs pairs' : List (Flag × Text)}

/-- The places of the settings do not matter. -/
theorem Settles.of_perm {α : Type} {flag : Flag} {Reads : Text → α → Prop} {standard field : α}
    (hperm : pairs.Perm pairs') (h : Settles pairs flag Reads standard field) :
    Settles pairs' flag Reads standard field where
  given value hvalue := h.given value (hperm.mem_iff.2 hvalue)
  absent habsent := h.absent fun value hvalue => habsent value (hperm.mem_iff.1 hvalue)

theorem JobMeans.of_perm (hperm : pairs.Perm pairs') {command : Subcommand} {job : Job}
    (h : JobMeans pairs command job) : JobMeans pairs' command job := by
  cases h with
  | csv h =>
    exact .csv ⟨h.url.of_perm hperm, h.listing.of_perm hperm, h.output.of_perm hperm,
      h.timeout.of_perm hperm, h.userAgent.of_perm hperm⟩
  | library h =>
    exact .library ⟨h.database.of_perm hperm, h.dump.of_perm hperm, h.output.of_perm hperm,
      h.batchSize.of_perm hperm, h.interval⟩
  | fiction h =>
    exact .fiction ⟨h.database.of_perm hperm, h.table.of_perm hperm, h.jsonOutput.of_perm hperm,
      h.customOutput.of_perm hperm, h.interval⟩

end

namespace Line

variable {command : Subcommand} {other line : Line command}

theorem SettlesLog.of_reorders (horder : other.Reorders line) {ν : Type} {flag : Flag}
    {name : ν → Text} {standard field : ν} (h : other.SettlesLog flag name standard field) :
    line.SettlesLog flag name standard field := by
  obtain ⟨earlier, hbefore, hafter⟩ := h
  exact ⟨earlier, hbefore.of_perm horder.before, hafter.of_perm horder.after⟩

/-- **A line means what it means in any other order.** -/
theorem Means.of_reorders (horder : other.Reorders line) {inv : Invocation}
    (h : other.Means inv) : line.Means inv :=
  ⟨h.level.of_reorders horder, h.format.of_reorders horder, h.job.of_perm horder.after⟩

end Line

/-! ## Reading a group -/

namespace Group

variable {flags : List Flag} (group : Group flags)

/-- A field that is read from the value of a flag, or from none, is settled by the group. -/
theorem settles {α : Type} {flag : Flag} {Reads : Text → α → Prop} {standard : α}
    (read : Option Text → α)
    (hgiven : ∀ value, flag.kind.Takes value → Reads value (read (some value)))
    (habsent : read none = standard) :
    Settles group.pairs flag Reads standard (read (group.given.value? flag)) where
  given value hvalue := by
    rw [group.value?_of_mem hvalue]
    exact hgiven value (group.takes_of_mem hvalue)
  absent hnone := by
    rw [group.value?_of_not_mem hnone]
    exact habsent

theorem settles_textOr (flag : Flag) (standard : Text) :
    Settles group.pairs flag Eq standard (group.given.textOr flag standard) :=
  group.settles (fun given => given.getD standard) (fun _ _ => rfl) rfl

theorem settles_countOr {flag : Flag} (hkind : flag.kind = .count) (standard : Nat) :
    Settles group.pairs flag Numeral standard (group.given.countOr flag standard) := by
  refine group.settles (fun given => (given.bind count?).getD standard) ?_ rfl
  intro value hvalue
  rw [hkind] at hvalue
  obtain ⟨n, hn, hnumeral⟩ := hvalue
  rw [Option.bind_some, hnumeral.count? hn]
  exact hnumeral

/-- A name is looked for in the group first, and then in what was read earlier. -/
theorem settles_name {ν : Type} {name : ν → Text} {read? : Text → Option ν}
    (hread : ∀ x, read? (name x) = some x) (flag : Flag)
    (htakes : ∀ value, flag.kind.Takes value → ∃ x, value = name x) (standard : ν)
    (earlier : Option Text) :
    Settles group.pairs flag (fun value x => value = name x) ((earlier.bind read?).getD standard)
      ((((group.given.value? flag).or earlier).bind read?).getD standard) := by
  refine group.settles (fun given => ((given.or earlier).bind read?).getD standard) ?_ rfl
  intro value hvalue
  obtain ⟨x, rfl⟩ := htakes value hvalue
  rw [Option.some_or, Option.bind_some, hread]
  rfl

/-- **The job that is read from a group** is the one that its settings ask for. -/
theorem jobMeans (command : Subcommand) :
    JobMeans group.pairs command (job group.given command) := by
  cases command with
  | csv =>
    exact .csv ⟨group.settles_textOr .url _, group.settles_textOr .csvPath _,
      group.settles_textOr .output _, group.settles_countOr rfl _,
      group.settles_textOr .userAgent _⟩
  | library =>
    have hdump : Settles group.pairs .seedDb (fun value dump => dump = some value)
        (LibraryConfig.dump {}) (group.given.value? .seedDb) :=
      group.settles id (fun _ _ => rfl) rfl
    have hcount : Settles group.pairs .batchSize Numeral (LibraryConfig.batchSize {})
        (group.given.countOr .batchSize (LibraryConfig.batchSize {})) :=
      group.settles_countOr rfl _
    -- The lower bound is put on what the flag gives; the standard is above it already.
    have hbatchSize : Settles group.pairs .batchSize
        (fun value size => ∃ n, Numeral value n ∧ size = max n 1) (LibraryConfig.batchSize {})
        (max (group.given.countOr .batchSize (LibraryConfig.batchSize {})) 1) := by
      constructor
      · intro value hvalue
        exact ⟨_, hcount.given value hvalue, rfl⟩
      · intro habsent
        rw [hcount.absent habsent]
        rfl
    exact .library ⟨group.settles_textOr .dbPath _, hdump, group.settles_textOr .output _,
      hbatchSize, rfl⟩
  | fiction =>
    exact .fiction ⟨group.settles_textOr .dbPath _, group.settles_textOr .table _,
      group.settles_textOr .jsonOutput _, group.settles_textOr .customOutput _, rfl⟩

end Group

/-! ## Reading a line -/

/-- The word for a subcommand stands for itself, unless a flag waits for its value. -/
theorem take_word {g : Given} (command : Subcommand) (h : g.waiting? = none) :
    take none g command.word = .standsAlone := by
  have hplain : Word.ofText command.word = .plain := by
    cases command <;> decide
  rw [take, hplain]
  dsimp only
  rw [h]

theorem subcommand?_word (command : Subcommand) : subcommand? command.word = some command := by
  cases command <;> decide

namespace Line

variable {command : Subcommand} (line : Line command)

/-- What is read from a line. -/
def reading : Reading := ⟨command, line.before.given, line.after.given⟩

/-- **The words of a line are read** as its two groups. -/
theorem read_words : read line.words = .ok line.reading := by
  obtain ⟨before, hbefore, hpoised⟩ := line.before.exists_passes
  obtain ⟨after, hafter, hsettled⟩ := line.after.exists_passes
  -- The settings behind the subcommand are read to the end first; only then those before it settle.
  have hscope : readScope command .nothing line.after.words = .ok line.after.given :=
    hafter.readScope.trans hsettled.settles
  have hsettle : before.settle = .ok line.before.given := hpoised.settles
  rw [read, words, List.append_assoc, hbefore.readFrom, List.singleton_append, readFrom.eq_def]
  dsimp only
  rw [take_word command hpoised.ready]
  dsimp only
  rw [subcommand?_word]
  dsimp only
  rw [hscope]
  dsimp only
  rw [hsettle]
  rfl

theorem parse_words : parse line.words = .ok line.reading.invocation := by
  rw [parse, read_words]
  rfl

/-- What is read for a log field is settled by both groups. -/
theorem settlesLog_reading {ν : Type} {name : ν → Text} {read? : Text → Option ν}
    (hread : ∀ x, read? (name x) = some x) (flag : Flag)
    (htakes : ∀ value, flag.kind.Takes value → ∃ x, value = name x) (standard : ν) :
    line.SettlesLog flag name standard (((line.reading.value? flag).bind read?).getD standard) := by
  have hbefore := line.before.settles_name hread flag htakes standard none
  rw [Option.or_none] at hbefore
  exact ⟨_, hbefore, line.after.settles_name hread flag htakes standard _⟩

/-- **What is read from a line is what it means.** -/
theorem means_reading : line.Means line.reading.invocation where
  level := line.settlesLog_reading level?_levelName .logLevel (fun _ h => h) .info
  format := line.settlesLog_reading format?_formatName .logFormat (fun _ h => h) .plain
  job := line.after.jobMeans command

end Line

/-- **Command lines mean the same in any order.**  Every line is read, the invocation read from it is
the one that it means, and any other order and spelling of its settings gives the same one. -/
theorem parse_in_any_order {command : Subcommand} (line : Line command) :
    (∃ inv, parse line.words = .ok inv)
    ∧ (∀ inv, parse line.words = .ok inv ↔ line.Means inv)
    ∧ ∀ other : Line command, other.Reorders line → parse other.words = parse line.words := by
  refine ⟨⟨_, line.parse_words⟩, ?_, ?_⟩
  · intro inv
    rw [line.parse_words, Except.ok.injEq]
    constructor
    · rintro rfl
      exact line.means_reading
    · intro hmeans
      exact line.means_reading.unique hmeans
  · intro other horder
    -- What the other line reads as is a meaning of this one too, and there is only one.
    have hmeans : line.Means other.reading.invocation := other.means_reading.of_reorders horder
    rw [other.parse_words, line.parse_words, line.means_reading.unique hmeans]

/-- A line whose values look like other words: a subcommand, a flag, an equals sign. -/
def tangled : Line .library where
  before :=
    { settings :=
        [⟨.logFormat, "json".toList, .joined, by decide, ⟨.json, rfl⟩, by decide⟩,
         ⟨.logLevel, "warn".toList, .apart, by decide, ⟨.warn, rfl⟩, by decide⟩]
      known := by decide
      once := by decide }
  after :=
    { settings :=
        [⟨.output, "--help".toList, .joined, by decide, trivial, by decide⟩,
         ⟨.dbPath, "library".toList, .apart, by decide, trivial, by decide⟩,
         ⟨.logLevel, "trace".toList, .apart, by decide, ⟨.trace, rfl⟩, by decide⟩,
         ⟨.batchSize, "000".toList, .apart, by decide, ⟨0, by decide, 2, rfl⟩, by decide⟩,
         ⟨.seedDb, "=output=x".toList, .joined, by decide, trivial, by decide⟩]
      known := by decide
      once := by decide }

/-- The same settings otherwise. -/
def untangled : Line .library where
  before :=
    { settings :=
        [⟨.logLevel, "warn".toList, .joined, by decide, ⟨.warn, rfl⟩, by decide⟩,
         ⟨.logFormat, "json".toList, .apart, by decide, ⟨.json, rfl⟩, by decide⟩]
      known := by decide
      once := by decide }
  after :=
    { settings :=
        [⟨.batchSize, "000".toList, .joined, by decide, ⟨0, by decide, 2, rfl⟩, by decide⟩,
         ⟨.seedDb, "=output=x".toList, .apart, by decide, trivial, by decide⟩,
         ⟨.output, "--help".toList, .joined, by decide, trivial, by decide⟩,
         ⟨.logLevel, "trace".toList, .joined, by decide, ⟨.trace, rfl⟩, by decide⟩,
         ⟨.dbPath, "library".toList, .joined, by decide, trivial, by decide⟩]
      known := by decide
      once := by decide }

theorem parse_tangled :
    tangled.words.map String.ofList
      = ["--log-format=json", "--log-level", "warn", "library", "--output=--help", "--db-path",
        "library", "--log-level", "trace", "--batch-size", "000", "--seed-db==output=x"]
    ∧ untangled.words.map String.ofList
      = ["--log-level=warn", "--log-format", "json", "library", "--batch-size=000", "--seed-db",
        "=output=x", "--output=--help", "--log-level=trace", "--db-path=library"]
    ∧ parse tangled.words
      = .ok
        { level := .trace
          format := .json
          job := .library
            { database := "library".toList
              dump := some "=output=x".toList
              output := "--help".toList
              batchSize := 1 } }
    ∧ untangled.Reorders tangled
    ∧ parse untangled.words = parse tangled.words := by
  have horder : untangled.Reorders tangled := ⟨by decide, by decide⟩
  obtain ⟨-, -, hother⟩ := parse_in_any_order tangled
  exact ⟨by decide, by decide, by decide, horder, hother untangled horder⟩

end CommandLine

end BookDatasets
