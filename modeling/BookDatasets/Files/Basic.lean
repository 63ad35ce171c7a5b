/-
  Files: a directory tree as a finite map.

  1. **Locations** — a location is the list of names from the outermost directory on, the INNERMOST
     name first.  So the directory of a location is its tail, and the empty list is the root, which
     is always a directory.
  2. **Nodes** — a file with its contents, a directory, or a symbolic link with the text of its
     target.  Links are followed by walking (`BookDatasets.Files.Walk`), never by a lookup.
  3. **Contents** — a file holds octets, or the tables of a database.
  4. **View** — `Files.find?` is the view to reason about; `find?_put` and `find?_drop` say what the
     two changes do to it.
-/
import BookDatasets.Table.Basic

namespace BookDatasets

/-- Names from the innermost to the outermost. -/
abbrev Location := List Text

/-! ## Contents -/

/-- What a file holds. -/
inductive Content where
  | bytes (octets : Bytes)
  | tables (database : Database)
  deriving DecidableEq, Repr

namespace Content

/-- The contents of a database's file.  A database without tables is an empty file. -/
def ofDatabase (db : Database) : Content := if db.tables = [] then .bytes [] else .tables db

/-- The database that a file holds.  Nothing, and a single octet, count as a database without
tables. -/
def database : Content → Except SqlError Database
  | .tables db => .ok db
  | .bytes octets => if octets.length ≤ 1 then .ok .empty else .error .notADatabase

/-- The beginning of every database file. -/
def databaseMark : Bytes :=
  [0x53, 0x51, 0x4C, 0x69, 0x74, 0x65, 0x20, 0x66, 0x6F, 0x72, 0x6D, 0x61, 0x74, 0x20, 0x33, 0x00]

/-- The octets that a file holds.  Of a database only the mark that it begins with is known. -/
def octets : Content → Bytes
  | .bytes octets => octets
  | .tables _ => databaseMark

end Content

/-! ## Nodes -/

/-- What stands at a location. -/
inductive Node where
  | file (content : Content)
  | directory
  | link (target : Text)
  deriving DecidableEq, Repr

/-- A directory tree. -/
structure Files where
  /-- The nodes below the root, one for each location. -/
  nodes : List (Location × Node)
  deriving DecidableEq, Repr

namespace Files

/-- The tree with the root alone. -/
def empty : Files := ⟨[]⟩

/-- What stands at a location. -/
def find? (files : Files) (place : Location) : Option Node :=
  if place = [] then some .directory else files.nodes.lookup place

/-- Puts a node at a location, in place of what stood there. -/
def put (files : Files) (place : Location) (node : Node) : Files :=
  ⟨(place, node) :: files.nodes.filter fun entry => entry.1 != place⟩

/-- Takes away what stands at a location. -/
def drop (files : Files) (place : Location) : Files :=
  ⟨files.nodes.filter fun entry => entry.1 != place⟩

/-- The contents of the file at a location. -/
def content? (files : Files) (place : Location) : Option Content :=
  match files.find? place with
  | some (.file content) => some content
  | _ => none

/-! ## The view -/

/-- Looking up what another key's removal leaves. -/
theorem lookup_filter_ne {place other : Location} (h : other ≠ place)
    (nodes : List (Location × Node)) :
    (nodes.filter fun entry => entry.1 != place).lookup other = nodes.lookup other := by
  induction nodes with
  | nil => rfl
  | cons entry rest ih =>
    obtain ⟨key, node⟩ := entry
    by_cases hk : key = place
    · subst hk
      have : (other == key) = false := by simpa using h
      simp [List.lookup_cons, this, ih]
    · by_cases ho : other = key
      · subst ho; simp [hk]
      · have : (other == key) = false := by simpa using ho
        simp [List.lookup_cons, hk, this, ih]

/-- Looking up a key that is removed. -/
theorem lookup_filter_self (place : Location) (nodes : List (Location × Node)) :
    (nodes.filter fun entry => entry.1 != place).lookup place = none := by
  induction nodes with
  | nil => rfl
  | cons entry rest ih =>
    obtain ⟨key, node⟩ := entry
    by_cases hk : key = place
    · subst hk; simp [ih]
    · have : (place == key) = false := by simpa using fun e : place = key => hk e.symm
      simp [List.lookup_cons, hk, this, ih]

/-- A put node stands at its location; every other location is as before. -/
theorem find?_put (files : Files) {place : Location} (hp : place ≠ []) (node : Node)
    (other : Location) :
    (files.put place node).find? other = if other = place then some node else files.find? other := by
  by_cases ho : other = []
  · subst ho; simp [find?, Ne.symm hp]
  · by_cases h : other = place
    · subst h; simp [find?, put, ho]
    · have hb : (other == place) = false := by simpa using h
      simp [find?, put, ho, h, List.lookup_cons, hb, lookup_filter_ne h]

/-- Nothing stands at a dropped location; every other location is as before. -/
theorem find?_drop (files : Files) {place : Location} (hp : place ≠ []) (other : Location) :
    (files.drop place).find? other = if other = place then none else files.find? other := by
  by_cases ho : other = []
  · subst ho; simp [find?, Ne.symm hp]
  · by_cases h : other = place
    · subst h; simp [find?, drop, ho, lookup_filter_self]
    · simp [find?, drop, ho, h, lookup_filter_ne h]

end Files

end BookDatasets
