/-
  What can go wrong, as causes.

  1. **Causes** — each thing that can fail has a type of its own, and one constructor per way to
     fail.  No text is built where a failure arises.
  2. **Links** — `links` gives the texts of a cause from the outermost to the innermost, because a
     failure is reported as a CHAIN: "what was tried: what failed: why".
  3. **Contexts** — what was being done is a `Context`, so that the place where a run failed can be
     told without reading its message.
  4. **Failures** — a `Failure` is a cause under contexts.  Its message is the chain with `": "`
     between two links.
-/
import BookDatasets.Text.Utf8
import BookDatasets.Web.Status

namespace BookDatasets

/-! ## Files -/

/-- Why an operation on files or on an output was refused. -/
inductive IoError where
  | notFound
  | fileExists
  | notADirectory
  | isADirectory
  | tooManyLinks
  | nameTooLong
  /-- The path holds the character U+0000. -/
  | nulInPath
  /-- The output takes no more octets. -/
  | outputFull
  | other (message : Text)
  deriving DecidableEq, Repr

/-- The refusal in words. -/
def IoError.message : IoError → Text
  | .notFound => "No such file or directory (os error 2)".toList
  | .fileExists => "File exists (os error 17)".toList
  | .notADirectory => "Not a directory (os error 20)".toList
  | .isADirectory => "Is a directory (os error 21)".toList
  | .tooManyLinks => "Too many levels of symbolic links (os error 40)".toList
  | .nameTooLong => "File name too long (os error 36)".toList
  | .nulInPath => "file name contained an unexpected NUL byte".toList
  | .outputFull => "failed to write whole buffer".toList
  | .other message => message

/-! ## Tables -/

/-- Why a statement on a database failed. -/
inductive SqlError where
  | noSuchTable (name : Text)
  | noSuchColumn (name : Text)
  /-- An insertion gave `supplied` values to a table with another number of columns. -/
  | valueCount (table : Text) (columns supplied : Nat)
  /-- An insertion gave a null to a column that takes none. -/
  | notNull (table column : Text)
  /-- An insertion gave a value that is there to a column that takes none twice. -/
  | notUnique (table column : Text)
  /-- The name of a table to be made is that of an index. -/
  | indexNamed (name : Text)
  | cannotOpen
  | notADatabase
  /-- A quoted name of the query does not end; `token` is what there is of it. -/
  | openQuote (token : Text)
  /-- The name of the database's file holds the character U+0000. -/
  | nulInName
  /-- Any other refusal, as the database reports it. -/
  | refused (code : Nat) (detail : Text)
  /-- A selected cell is no text; columns are counted from zero. -/
  | undecodable (column : Nat) (fault : Utf8.Fault)
  | rowNotFound
  | protocol (detail : Text)
  deriving DecidableEq, Repr

/-- A number and a text as the database itself reports them. -/
def SqlError.report (code : Nat) (detail : Text) : Text :=
  "(code: ".toList ++ decimal code ++ ") ".toList ++ detail

/-- The error and what the database reported. -/
def SqlError.reported (code : Nat) (detail : Text) : List Text :=
  ["error returned from database: ".toList ++ report code detail, report code detail]

/-- The links of the chain, outermost first. -/
def SqlError.links : SqlError → List Text
  | .noSuchTable name => reported 1 ("no such table: ".toList ++ name)
  | .noSuchColumn name => reported 1 ("no such column: ".toList ++ name)
  | .valueCount table columns supplied =>
    reported 1 ("table ".toList ++ table ++ " has ".toList ++ decimal columns
      ++ " columns but ".toList ++ decimal supplied ++ " values were supplied".toList)
  | .notNull table column =>
    reported 1299 ("NOT NULL constraint failed: ".toList ++ table ++ ['.'] ++ column)
  | .notUnique table column =>
    reported 2067 ("UNIQUE constraint failed: ".toList ++ table ++ ['.'] ++ column)
  | .indexNamed name => reported 1 ("there is already an index named ".toList ++ name)
  | .cannotOpen => reported 14 "unable to open database file".toList
  | .notADatabase => reported 26 "file is not a database".toList
  | .openQuote token => reported 1 ("unrecognized token: \"".toList ++ token ++ ['"'])
  | .refused code detail => reported code detail
  | .nulInName =>
    let detail := "filename passed to SQLite must not contain nul bytes".toList
    ["error communicating with database: ".toList ++ detail, detail]
  | .undecodable column fault =>
    ["error occurred while decoding column ".toList ++ decimal column ++ ": ".toList
      ++ fault.message, fault.message]
  | .rowNotFound =>
    ["no rows returned by a query that expected to return at least one row".toList]
  | .protocol detail => ["encountered unexpected or invalid data: ".toList ++ detail]

/-- A file beside the database could not be read or removed; the code says which. -/
def SqlError.disk (code : Nat) : SqlError := .refused code "disk I/O error".toList

/-- The error in one line, without what lies under it. -/
def SqlError.headline (e : SqlError) : Text := e.links.headD []

/-- Why a database could not be made, opened or used. -/
inductive DatabaseError where
  | fileCreation (detail : Text)
  | sql (error : SqlError)
  deriving DecidableEq, Repr

/-- The links of the chain, outermost first. -/
def DatabaseError.links : DatabaseError → List Text
  | .fileCreation detail => ["Database file creation error: ".toList ++ detail]
  | .sql error => "SQL error".toList :: error.links

/-! ## Conversions -/

/-- Why a source could not be turned into dataset lines. -/
inductive ConvertError where
  /-- The listing could not be read. -/
  | listing (error : IoError)
  /-- A row of the listing has too few fields. -/
  | shortRow (line found expected : Nat)
  /-- The text of a JSON line could not be written. -/
  | json (error : IoError)
  /-- Any other octet of a line could not be written. -/
  | io (error : IoError)
  /-- The rows could not be read. -/
  | database (error : DatabaseError)
  deriving DecidableEq, Repr

/-- The links of the chain, outermost first.  A database error stands for itself. -/
def ConvertError.links : ConvertError → List Text
  | .listing error => ["CSV parse error".toList, error.message]
  | .shortRow line found expected =>
    ["Row ".toList ++ decimal line ++ " has ".toList ++ decimal found
      ++ " fields, expected at least ".toList ++ decimal expected]
  | .json error => ["JSON serialization error".toList, error.message]
  | .io error => ["IO error".toList, error.message]
  | .database error => error.links

/-! ## Downloads -/

/-- Why the listing could not be acquired. -/
inductive AcquireError where
  /-- No complete answer came. -/
  | request (url : Text)
  /-- The answer was no success. -/
  | status (url : Text) (code : Nat)
  /-- The local copy could not be made. -/
  | io (path : Text) (error : IoError)
  deriving DecidableEq, Repr

/-- The links of the chain, outermost first.  What the connection said is not part of it. -/
def AcquireError.links : AcquireError → List Text
  | .request url => ["Request to ".toList ++ url ++ " failed".toList]
  | .status url code =>
    ["Download of ".toList ++ url ++ " failed with HTTP status ".toList ++ decimal code ++ [' ']
      ++ Web.reason code]
  | .io path error => ["Failed to write ".toList ++ path, error.message]

/-! ## Failures -/

/-- The innermost reason of a failed run. -/
inductive Cause where
  | convert (error : ConvertError)
  | database (error : DatabaseError)
  | acquire (error : AcquireError)
  /-- The HTTP client cannot be made from its settings. -/
  | httpClient
  | io (error : IoError)
  | other (message : Text)
  deriving DecidableEq, Repr

/-- The links of the chain, outermost first. -/
def Cause.links : Cause → List Text
  | .convert error => error.links
  | .database error => error.links
  | .acquire error => error.links
  | .httpClient => ["HTTP client initialization error".toList]
  | .io error => [error.message]
  | .other message => [message]

/-- What was being done when something failed. -/
inductive Context where
  | makingClient
  | acquiringListing
  | openingListing (path : Text)
  | convertingListing (path : Text)
  | makingDirectory (path : Text)
  | makingOutput (path : Text)
  | openingLocal
  /-- A new database was being removed, since there was no dump. -/
  | removingEmpty (path : Text)
  | openingDump (path : Text)
  | seeding
  | convertingBooks
  | openingDatabase (path : Text)
  | convertingTable (name : Text)
  /-- Anything else, in words. -/
  | said (text : Text)
  deriving DecidableEq, Repr

/-- The context in words. -/
def Context.text : Context → Text
  | .makingClient => "Failed to initialize HTTP client".toList
  | .acquiringListing => "Failed to acquire CSV listing".toList
  | .openingListing path => "Failed to open CSV listing: ".toList ++ path
  | .convertingListing path => "Failed to convert ".toList ++ path
  | .makingDirectory path => "Failed to create output directory: ".toList ++ path
  | .makingOutput path => "Failed to create output file: ".toList ++ path
  | .openingLocal => "Failed to open local database".toList
  | .removingEmpty path => "Failed to remove empty database ".toList ++ path
  | .openingDump path => "Failed to open seed database: ".toList ++ path
  | .seeding => "Failed to seed book table".toList
  | .convertingBooks => "Failed to convert book table".toList
  | .openingDatabase path => "Failed to open database: ".toList ++ path
  | .convertingTable name => "Failed to convert table ".toList ++ name
  | .said text => text

/-- A cause under contexts, the outermost context first. -/
structure Failure where
  contexts : List Context
  cause : Cause
  deriving DecidableEq, Repr

/-- A failure without a context. -/
def Failure.of (cause : Cause) : Failure := ⟨[], cause⟩

/-- Wraps a failure: the new context is the outermost. -/
def Failure.within (context : Context) (f : Failure) : Failure := ⟨context :: f.contexts, f.cause⟩

/-- All links of the chain, outermost first. -/
def Failure.links (f : Failure) : List Text := f.contexts.map Context.text ++ f.cause.links

/-- The chain in one line. -/
def Failure.message (f : Failure) : Text := Text.joined [':', ' '] f.links

/-- The outermost link alone. -/
def Failure.headline (f : Failure) : Text := f.links.headD []

end BookDatasets
