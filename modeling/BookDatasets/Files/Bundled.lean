/-
  The engine that the program is bundled with.

  1. **Names** — the empty name and `:memory:` name no file.  A name that begins with `file:` is a URI:
     its path is percent-encoded, and its parameters may ask for a database in memory.  Parameters that
     only tune how a file is opened are left out.
  2. **Weight** — of what stands beside a database only what has weight counts: a file that is not empty,
     a directory, and a link that leads to one of these.
  3. **Empty files** — beside an empty database there is nothing to finish: a log is removed, and a journal
     too, by whoever could change the database.
  4. **Other files** — a journal that does not begin with a zero tells of a change that has to be undone,
     which needs a connection that can change the database.  A log is read through an index, which is
     made for it; whoever can change the database moves the log into it.  Of what a journal or a log holds
     nothing is known here but that there is nothing to undo or to move.  Databases that are set to keep
     a log at all times are left out.
  5. **Changes** — what is written over is kept in a journal, which is gone when the change is made.
     Where a log is in use the change goes to the log instead.
-/
import BookDatasets.Files.Connection

namespace BookDatasets

namespace Engine

namespace Bundled

/-! ## Names -/

/-- What a URI begins with. -/
def scheme : Text := "file:".toList

/-- The name of a database that lives in memory. -/
def memoryName : Text := ":memory:".toList

/-- What follows the authority of a URI, which must be this computer. -/
def behindAuthority : Text → Except SqlError Text
  | '/' :: '/' :: rest =>
    let authority := rest.takeWhile (· ≠ '/')
    if authority = [] ∨ authority = "localhost".toList then .ok (rest.dropWhile (· ≠ '/'))
    else .error (.refused 1 ("invalid uri authority: ".toList ++ authority))
  | rest => .ok rest

/-- The value of a hexadecimal digit. -/
def hexadecimal? (c : Char) : Option Nat :=
  let n := c.toNat
  if 0x30 ≤ n ∧ n < 0x3A then some (n - 0x30)
  else if 0x41 ≤ n ∧ n < 0x47 then some (n - 0x37)
  else if 0x61 ≤ n ∧ n < 0x67 then some (n - 0x57)
  else none

/-- The octets of a part of a URI.  An encoded zero ends the part. -/
def decoded : Text → Bytes
  | '%' :: high :: low :: rest =>
    match hexadecimal? high, hexadecimal? low with
    | some high, some low =>
      if high * 16 + low = 0 then [] else UInt8.ofNat (high * 16 + low) :: decoded rest
    | _, _ => Utf8.encodeChar '%' ++ decoded (high :: low :: rest)
  | c :: rest => Utf8.encodeChar c ++ decoded rest
  | [] => []

example : decoded "a%20b".toList = Utf8.encode "a b".toList := by decide

/-- Whether the parameters of a URI ask for a database in memory. -/
def asksForMemory (parameters : Text) : Bool :=
  (parameters.splitOn '&').any fun parameter =>
    decoded (parameter.takeWhile (· ≠ '=')) == Utf8.encode "mode".toList
      && decoded ((parameter.dropWhile (· ≠ '=')).drop 1) == Utf8.encode "memory".toList

/-- The path that a plain name stands for. -/
def ofPath (path : Text) : Except SqlError (Option Text) :=
  if path = [] ∨ path = memoryName then .ok none
  else if 512 ≤ Utf8.size path then .error .cannotOpen
  else .ok (some path)

/-- The path that a URI stands for, its scheme left out. -/
def ofUri (uri : Text) : Except SqlError (Option Text) :=
  match behindAuthority uri with
  | .error error => .error error
  | .ok rest =>
    let rest := rest.takeWhile (· ≠ '#')
    if asksForMemory ((rest.dropWhile (· ≠ '?')).drop 1) then .ok none
    else
      match Utf8.decode (decoded (rest.takeWhile (· ≠ '?'))) with
      | .error _ => .error .cannotOpen
      | .ok path => ofPath path

/-- The path that a name stands for. -/
def resolve (name : Text) : Except SqlError (Option Text) :=
  if '\x00' ∈ name then .error .nulInName
  else if scheme.isPrefixOf name then ofUri (name.drop scheme.length)
  else ofPath name

/-! ## Weight -/

/-- Whether a node is a directory or a file with something in it. -/
def isHeavy : Option Node → Bool
  | some (.file content) => !content.octets.isEmpty
  | some .directory => true
  | _ => false

/-- Whether a link at a place leads to something. -/
def isHeavyLink (files : Files) (place : Location) : Bool :=
  match files.find? place with
  | some (.link target) =>
    match files.walk .existing Files.maxLinks (Path.endsInSlash target)
      (Files.base place.tail target) (Path.segments target) with
    | .ok spot => isHeavy (files.find? spot.place)
    | .error _ => false
  | _ => false

/-- Whether there is a file with something in it at a place. -/
def isHeavyFile (files : Files) (place : Location) : Bool :=
  match files.find? place with
  | some (.file content) => !content.octets.isEmpty
  | _ => false

/-- Whether a directory stands at a place. -/
def isBlocked (files : Files) (place : Location) : Bool := files.find? place == some .directory

/-- The tree without a file or a link of weight at a place. -/
def sweep (files : Files) (place : Location) : Files :=
  if isHeavyFile files place || isHeavyLink files place then files.drop place else files

/-- Whether a journal tells of a change that has to be undone. -/
def isHot (files : Files) (journal : Location) : Bool :=
  match files.find? journal with
  | some (.file content) => content.octets.head?.any (· != 0)
  | _ => isHeavyLink files journal

/-! ## Tending -/

/-- Whether a new journal can be written at a place. -/
def canWrite (files : Files) (journal : Location) : Bool :=
  match files.find? journal with
  | some (.file _) => true
  | some _ => false
  | none => journal.head?.all Path.fits

/-- Makes a change possible: its journal comes and goes. -/
def beginChange (files : Files) (journal : Location) (db : Database) :
    Files × Except SqlError Database :=
  if canWrite files journal then (files.drop journal, .ok db) else (files, .error .cannotOpen)

/-- Ends with a result, and makes a change possible if one is asked for. -/
def concluded (access : Access) (files : Files) (place : Location)
    (result : Except SqlError Database) : Files × Except SqlError Database :=
  match access, result with
  | .changing, .ok db => beginChange files (Files.beside Files.journalEnding place) db
  | _, result => (files, result)

/-- The tree without a journal beside an empty file, if that may be removed. -/
def sweepJournal (access : Access) (files : Files) (place : Location) : Files :=
  if access = .reading then files else sweep files (Files.beside Files.journalEnding place)

/-- Tends an empty file. -/
def tendEmpty (access : Access) (files : Files) (place : Location) :
    Files × Except SqlError Database :=
  let log := Files.beside Files.logEnding place
  let files := sweepJournal access files place
  if isBlocked files log then (files, .error (.disk 2570))
  else concluded access (sweep files log) place (.ok .empty)

/-- What an index holds is not known; this is how long it is. -/
def index : Content := .bytes (List.replicate 32768 0)

/-- Tends a log with something in it.  A change is written to it too, and needs no journal. -/
def tendFullLog (access : Access) (files : Files) (place : Location) (content : Content) :
    Files × Except SqlError Database :=
  let shared := Files.beside Files.indexEnding place
  match files.find? shared with
  | some .directory => (files, .error (.refused 15 "locking protocol".toList))
  | some (.link _) => (files, .error .cannotOpen)
  | _ =>
    if access = .reading then (files.put shared (.file index), content.database)
    else ((files.drop (Files.beside Files.logEnding place)).drop shared, content.database)

/-- Tends the log beside a file that is not empty. -/
def tendLog (access : Access) (files : Files) (place : Location) (content : Content) :
    Files × Except SqlError Database :=
  let log := Files.beside Files.logEnding place
  if isBlocked files log || isHeavyLink files log then (files, .error .cannotOpen)
  else if isHeavyFile files log then tendFullLog access files place content
  else concluded access files place content.database

/-- Tends a file that is not empty. -/
def tendFull (access : Access) (files : Files) (place : Location) (content : Content) :
    Files × Except SqlError Database :=
  let journal := Files.beside Files.journalEnding place
  if isBlocked files journal then (files, .error (.disk 266))
  else if !isHot files journal then tendLog access files place content
  else if access = .reading then
    (files, .error (.refused 776 "attempt to write a readonly database".toList))
  else if isHeavyLink files journal then (files, .error .cannotOpen)
  else tendLog access (files.drop journal) place content

/-- Tends the file at a place. -/
def tend (access : Access) (files : Files) (place : Location) :
    Files × Except SqlError Database :=
  match files.content? place with
  | none => (files, .error .cannotOpen)
  | some content =>
    if content.octets.length ≤ 1 then tendEmpty access files place
    else tendFull access files place content

end Bundled

/-- The engine that the program is bundled with. -/
def bundled : Engine := ⟨Bundled.resolve, Bundled.tend⟩

end Engine

end BookDatasets
