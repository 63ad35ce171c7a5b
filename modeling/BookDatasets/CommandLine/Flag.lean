/-
  Flags: the options of the command line, what they are called and which values they take.

  1. **Scopes** — a flag is known in some places only.  The two log flags are known everywhere,
     before the subcommand and after it; every other flag belongs to its subcommands.
  2. **Values** — each flag has a kind of value, and `ValueKind.check` says whether a word is one.
     A word that is none is refused in one of two ways: as a bad VALUE (a name outside the list, an
     empty path) or by VALIDATION (a number that is no number).
-/
import BookDatasets.Config
import BookDatasets.Log

namespace BookDatasets

namespace CommandLine

/-! ## Refusals -/

/-- Why a command line is not run.  Asking for help or for the version is one of the reasons. -/
inductive Refusal where
  | help
  | version
  /-- There are no arguments at all. -/
  | nothingGiven
  | missingSubcommand
  | unknownSubcommand
  | unknownArgument
  | invalidValue
  | invalidNumber
  | tooManyValues
  /-- A flag is given twice in one place. -/
  | repeated
  deriving DecidableEq, Repr

/-- The exit code of the program.  Help and version are no failures. -/
def Refusal.exitCode : Refusal → Nat
  | .help => 0
  | .version => 0
  | _ => 2

/-! ## Values -/

/-- The value of a digit, if the character is one. -/
def digit? (c : Char) : Option Nat :=
  if '0' ≤ c ∧ c ≤ '9' then some (c.toNat - '0'.toNat) else none

/-- The number that digits spell after a number already read. -/
def digitsAfter (value : Nat) : Text → Option Nat
  | [] => some value
  | c :: rest =>
    match digit? c with
    | none => none
    | some d => digitsAfter (10 * value + d) rest

/-- One or more digits, possibly after a plus sign, that spell a number below `2 ^ 64`. -/
def count? (word : Text) : Option Nat :=
  let digits := match word with
    | '+' :: rest => rest
    | _ => word
  if digits.isEmpty then none
  else
    match digitsAfter 0 digits with
    | some n => if n < Nat.pow 2 64 then some n else none
    | none => none

/-- The log level of a name. -/
def level? (word : Text) : Option Log.Level :=
  [("error".toList, Log.Level.error), ("warn".toList, .warn), ("info".toList, .info),
   ("debug".toList, .debug), ("trace".toList, .trace)].lookup word

/-- The log format of a name. -/
def format? (word : Text) : Option Log.Format :=
  [("plain".toList, Log.Format.plain), ("json".toList, .json)].lookup word

/-- What a flag takes. -/
inductive ValueKind where
  | level
  | format
  | path
  | count
  | text
  deriving DecidableEq, Repr

/-- Refuses a word that is no value of the kind. -/
def ValueKind.check (kind : ValueKind) (word : Text) : Except Refusal Unit :=
  match kind with
  | .level => if (level? word).isSome then .ok () else .error .invalidValue
  | .format => if (format? word).isSome then .ok () else .error .invalidValue
  | .path => if word.isEmpty then .error .invalidValue else .ok ()
  | .count => if (count? word).isSome then .ok () else .error .invalidNumber
  | .text => .ok ()

/-! ## Flags -/

/-- The flags of all scopes. -/
inductive Flag where
  | logLevel
  | logFormat
  | url
  | csvPath
  | output
  | timeoutSeconds
  | userAgent
  | dbPath
  | seedDb
  | batchSize
  | table
  | jsonOutput
  | customOutput
  deriving DecidableEq, Repr

/-- The flag's name, without the two dashes. -/
def Flag.name : Flag → Text
  | .logLevel => "log-level".toList
  | .logFormat => "log-format".toList
  | .url => "url".toList
  | .csvPath => "csv-path".toList
  | .output => "output".toList
  | .timeoutSeconds => "timeout-seconds".toList
  | .userAgent => "user-agent".toList
  | .dbPath => "db-path".toList
  | .seedDb => "seed-db".toList
  | .batchSize => "batch-size".toList
  | .table => "table".toList
  | .jsonOutput => "json-output".toList
  | .customOutput => "custom-output".toList

/-- What the flag takes. -/
def Flag.kind : Flag → ValueKind
  | .logLevel => .level
  | .logFormat => .format
  | .csvPath | .output | .dbPath | .seedDb | .jsonOutput | .customOutput => .path
  | .timeoutSeconds | .batchSize => .count
  | .url | .userAgent | .table => .text

/-! ## Subcommands -/

/-- The conversions that can be asked for. -/
inductive Subcommand where
  | csv
  | library
  | fiction
  deriving DecidableEq, Repr

/-- The subcommand of a word. -/
def subcommand? (word : Text) : Option Subcommand :=
  [("csv".toList, Subcommand.csv), ("library".toList, .library),
   ("fiction".toList, .fiction)].lookup word

/-- The flags that are known everywhere. -/
def logFlags : List Flag := [.logLevel, .logFormat]

/-- The flags that only this subcommand knows. -/
def Subcommand.flags : Subcommand → List Flag
  | .csv => [.url, .csvPath, .output, .timeoutSeconds, .userAgent]
  | .library => [.dbPath, .seedDb, .output, .batchSize]
  | .fiction => [.dbPath, .table, .jsonOutput, .customOutput]

/-- The flags known in a scope: before the subcommand, or after the given one. -/
def scopeFlags : Option Subcommand → List Flag
  | none => logFlags
  | some command => command.flags ++ logFlags

/-- The flag of a name in a scope. -/
def flag? (scope : Option Subcommand) (name : Text) : Option Flag :=
  (scopeFlags scope).find? fun flag => flag.name == name

end CommandLine

end BookDatasets
