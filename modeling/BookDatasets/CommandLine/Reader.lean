/-
  Reading a command line, word by word.

  1. **State** — `Given` holds the flags settled so far and a PENDING flag: one whose value has not
     come yet, or whose value has come and is not checked yet.  A pending flag is settled when the
     next known flag begins, or at the end of its scope.
  2. **Settling** — first a value must be there, then the flag must be new in its scope, then the
     value must be of the flag's kind.  So of several faults in one flag the first of these three
     is the one reported.
  3. **Words** — a word that begins with a dash is never a value, except the dash alone; what it
     names must be known at once, whatever is still pending.  Any other word is the value of a flag
     that waits for one, else it stands for itself: as the subcommand, or as one word too many.
  4. **Two scopes** — what stands after the subcommand is read to its end before the flags before
     it are settled.
-/
import BookDatasets.CommandLine.Flag

namespace BookDatasets

namespace CommandLine

/-! ## Words -/

/-- What a word is, by its dashes. -/
inductive Word where
  /-- Two dashes alone: no flags from here on. -/
  | escape
  /-- Two dashes and a name, and what follows an equals sign. -/
  | long (name : Text) (value : Option Text)
  /-- One dash and a letter; more letters are not looked at. -/
  | short (letter : Char)
  | plain
  deriving DecidableEq, Repr

/-- What stands after the first equals sign, if there is one. -/
def afterEquals (t : Text) : Option Text :=
  match t.dropWhile (· ≠ '=') with
  | [] => none
  | _ :: value => some value

/-- Reads the dashes of a word. -/
def Word.ofText : Text → Word
  | ['-', '-'] => .escape
  | '-' :: '-' :: rest => .long (rest.takeWhile (· ≠ '=')) (afterEquals rest)
  | '-' :: letter :: _ => .short letter
  | _ => .plain

/-! ## Flags of one scope -/

/-- The flags of one scope that have been read. -/
structure Given where
  /-- Each settled flag with its value, the latest first. -/
  settled : List (Flag × Text)
  /-- A flag not settled yet, with its value if that has come. -/
  pending : Option (Flag × Option Text)
  deriving DecidableEq, Repr

namespace Given

/-- Nothing read yet. -/
def nothing : Given := ⟨[], none⟩

/-- The value of a settled flag. -/
def value? (g : Given) (flag : Flag) : Option Text := g.settled.lookup flag

/-- Settles a flag with its value. -/
def give (g : Given) (flag : Flag) (value : Text) : Except Refusal Given :=
  if (g.value? flag).isSome then .error .repeated
  else
    match flag.kind.check value with
    | .error refusal => .error refusal
    | .ok () => .ok ⟨(flag, value) :: g.settled, none⟩

/-- Settles the pending flag, if there is one. -/
def settle (g : Given) : Except Refusal Given :=
  match g.pending with
  | none => .ok g
  | some (_, none) => .error .invalidValue
  | some (flag, some value) => give g flag value

/-- Begins a flag: what was pending is settled first.  A value behind an equals sign settles the
flag at once, else it is pending. -/
def begin (g : Given) (flag : Flag) (value : Option Text) : Except Refusal Given :=
  match g.settle with
  | .error refusal => .error refusal
  | .ok g =>
    match value with
    | some value => g.give flag value
    | none => .ok { g with pending := some (flag, none) }

/-- Settles what is pending and then gives way to a request. -/
def request (g : Given) (refusal : Refusal) : Refusal :=
  match g.settle with
  | .error earlier => earlier
  | .ok _ => refusal

/-- The flag that waits for its value. -/
def waiting? (g : Given) : Option Flag :=
  match g.pending with
  | some (flag, none) => some flag
  | _ => none

end Given

/-! ## One word -/

/-- What a word does to its scope. -/
inductive Effect where
  | goOn (g : Given)
  /-- The word stands for itself. -/
  | standsAlone
  /-- No flags from here on. -/
  | escape
  | refuse (refusal : Refusal)
  deriving DecidableEq, Repr

/-- Whether the version can be asked for: only before the subcommand. -/
def knowsVersion (scope : Option Subcommand) : Bool := scope.isNone

/-- The refusal that a name or letter without a value asks for. -/
def requested? (scope : Option Subcommand) (isHelp isVersion : Bool) : Option Refusal :=
  if isHelp then some .help
  else if isVersion && knowsVersion scope then some .version
  else none

/-- Takes one word in a scope. -/
def take (scope : Option Subcommand) (g : Given) (word : Text) : Effect :=
  match Word.ofText word with
  | .escape => .escape
  | .long name value =>
    match flag? scope name with
    | some flag =>
      match g.begin flag value with
      | .error refusal => .refuse refusal
      | .ok g => .goOn g
    | none =>
      match requested? scope (name == "help".toList) (name == "version".toList) with
      | none => .refuse .unknownArgument
      | some refusal => .refuse (if value.isSome then .tooManyValues else g.request refusal)
  | .short letter =>
    match requested? scope (letter == 'h') (letter == 'V') with
    | none => .refuse .unknownArgument
    | some refusal => .refuse (g.request refusal)
  | .plain =>
    match g.waiting? with
    | some flag => .goOn { g with pending := some (flag, some word) }
    | none => .standsAlone

/-! ## Scopes -/

/-- Reads what stands after the subcommand.  A word that stands alone is one too many. -/
def readScope (command : Subcommand) (g : Given) : List Text → Except Refusal Given
  | [] => g.settle
  | word :: words =>
    match take (some command) g word with
    | .goOn g => readScope command g words
    | .standsAlone => .error .unknownArgument
    | .escape => if words.isEmpty then g.settle else .error .unknownArgument
    | .refuse refusal => .error refusal

/-- The words of a request for help: at most one, a subcommand. -/
def readHelp : List Text → Refusal
  | [] => .help
  | [word] =>
    if (subcommand? word).isSome ∨ word = "help".toList then .help else .unknownSubcommand
  | _ :: _ :: _ => .unknownSubcommand

/-- What the whole command line gives. -/
structure Reading where
  command : Subcommand
  /-- The flags before the subcommand. -/
  before : Given
  /-- The flags after it. -/
  after : Given
  deriving DecidableEq, Repr

/-- The end of a command line without a subcommand. -/
def withoutSubcommand (g : Given) : Refusal :=
  match g.settle with
  | .error refusal => refusal
  | .ok g => if g.settled.isEmpty then .nothingGiven else .missingSubcommand

/-- Reads a command line from before its subcommand on. -/
def readFrom (g : Given) : List Text → Except Refusal Reading
  | [] => .error (withoutSubcommand g)
  | word :: words =>
    match take none g word with
    | .goOn g => readFrom g words
    | .refuse refusal => .error refusal
    | .escape =>
      match words with
      | [] => .error (withoutSubcommand g)
      | next :: _ =>
        .error (if (subcommand? next).isSome ∨ next = "help".toList then .unknownArgument
          else .unknownSubcommand)
    | .standsAlone =>
      match subcommand? word with
      | none => .error (if word = "help".toList then readHelp words else .unknownSubcommand)
      | some command =>
        match readScope command .nothing words with
        | .error refusal => .error refusal
        | .ok after =>
          match g.settle with
          | .error refusal => .error refusal
          | .ok before => .ok ⟨command, before, after⟩

/-- Reads a command line, the program's name not included. -/
def read (words : List Text) : Except Refusal Reading := readFrom .nothing words

end CommandLine

end BookDatasets
