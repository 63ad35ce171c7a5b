/-
  The tokens of a query text.

  The reader knows nothing of the queries of this library.  It takes any text, one character at a
  time, by the lexical rules of the query language; it is the OTHER side of what is said about a
  query's text.

  1. **Tokens** — words (names, keywords, numbers), quoted names and texts, and single signs.
     Blanks and comments stand between tokens and mean nothing.
  2. **Quotes** — a doubled quote stands for one, and the first quote that no other one follows ends
     the token.  So behind a quote the reader WAITS: the next character tells which of the two it
     was (`Pending.closing`).
  3. **Comments** — from two dashes to the end of the line, and from `/*` to `*/`.
  4. **Identifiers** — reading a quoted identifier leaves the reader waiting behind its last quote,
     with exactly the name in hand (`Reading.goOn_quoted`), whatever runs of quotes the name holds.
-/
import BookDatasets.Proofs.Table.Identifier

namespace BookDatasets

namespace Table

/-! ## Tokens -/

/-- A token of a query. -/
inductive Token where
  /-- A keyword, a bare name or a number. -/
  | word (spelling : Text)
  /-- A name or a text between two marks of a kind; doubled marks are already read. -/
  | quoted (mark : Char) (value : Text)
  | sign (c : Char)
  deriving DecidableEq, Repr

namespace Token

/-- Whether a character may stand between two tokens and means nothing. -/
def isGap (c : Char) : Bool := c == ' ' || c == '\t' || c == '\n' || c == '\x0C' || c == '\r'

/-- Whether a character belongs to a word: letters, digits and what is not ASCII. -/
def isWordChar (c : Char) : Bool := c.isAlphanum || c == '_' || c == '$' || 0x80 ≤ c.toNat

/-- Whether a character opens a quoted token, and closes it. -/
def isMark (c : Char) : Bool := c == '"' || c == '\'' || c == '`'

/-! ## The reader -/

/-- What is begun and not yet ended. -/
inductive Pending where
  | nothing
  | word (spelling : Text)
  | quoted (mark : Char) (value : Text)
  /-- Behind a mark: the end of the token, unless another mark follows. -/
  | closing (mark : Char) (value : Text)
  /-- Behind a dash: a sign, or half of what begins a comment. -/
  | dash
  | lineComment
  /-- Behind a slash: a sign, or half of what begins a comment. -/
  | slash
  | comment
  /-- Behind a star in a comment. -/
  | star
  deriving DecidableEq, Repr

/-- How far a text is read. -/
structure Reading where
  tokens : List Token
  pending : Pending
  deriving DecidableEq, Repr

/-- Begins a token, or a gap, when nothing is pending behind `tokens`. -/
def Reading.begin (tokens : List Token) (c : Char) : Reading :=
  if isGap c then ⟨tokens, .nothing⟩
  else if isWordChar c then ⟨tokens, .word [c]⟩
  else if isMark c then ⟨tokens, .quoted c []⟩
  else if c = '-' then ⟨tokens, .dash⟩
  else if c = '/' then ⟨tokens, .slash⟩
  else ⟨tokens ++ [.sign c], .nothing⟩

/-- Takes a character. -/
def Reading.take (r : Reading) (c : Char) : Reading :=
  match r.pending with
  | .nothing => .begin r.tokens c
  | .word spelling =>
    if isWordChar c then ⟨r.tokens, .word (spelling ++ [c])⟩
    else .begin (r.tokens ++ [.word spelling]) c
  | .quoted mark value =>
    if c = mark then ⟨r.tokens, .closing mark value⟩ else ⟨r.tokens, .quoted mark (value ++ [c])⟩
  | .closing mark value =>
    if c = mark then ⟨r.tokens, .quoted mark (value ++ [c])⟩
    else .begin (r.tokens ++ [.quoted mark value]) c
  | .dash => if c = '-' then ⟨r.tokens, .lineComment⟩ else .begin (r.tokens ++ [.sign '-']) c
  | .lineComment => if c = '\n' then ⟨r.tokens, .nothing⟩ else ⟨r.tokens, .lineComment⟩
  | .slash => if c = '*' then ⟨r.tokens, .comment⟩ else .begin (r.tokens ++ [.sign '/']) c
  | .comment => if c = '*' then ⟨r.tokens, .star⟩ else ⟨r.tokens, .comment⟩
  | .star =>
    if c = '/' then ⟨r.tokens, .nothing⟩
    else if c = '*' then ⟨r.tokens, .star⟩
    else ⟨r.tokens, .comment⟩

/-- The tokens at the end of a text, if no quoted token is open there. -/
def Reading.finish (r : Reading) : Option (List Token) :=
  match r.pending with
  | .word spelling => some (r.tokens ++ [.word spelling])
  | .quoted _ _ => none
  | .closing mark value => some (r.tokens ++ [.quoted mark value])
  | .dash => some (r.tokens ++ [.sign '-'])
  | .slash => some (r.tokens ++ [.sign '/'])
  | .nothing | .lineComment | .comment | .star => some r.tokens

/-- Reads a text on from where another one ended. -/
def Reading.goOn (r : Reading) (text : Text) : Reading := text.foldl Reading.take r

/-- The tokens of a text; none when a quoted token in it is never closed. -/
def read? (text : Text) : Option (List Token) := (Reading.goOn ⟨[], .nothing⟩ text).finish

example : read? "a-- \"\n\"b\"\"-- \"/*c*/;".toList
    = some [.word ['a'], .quoted '"' "b\"-- ".toList, .sign ';'] := by decide

/-! ## Identifiers -/

namespace Reading

theorem goOn_append (r : Reading) (front back : Text) :
    r.goOn (front ++ back) = (r.goOn front).goOn back :=
  List.foldl_append

/-- **Inside an identifier** the reader gathers the name, run of quotes by run of quotes. -/
theorem goOn_doubled (tokens : List Token) (value name : Text) :
    goOn ⟨tokens, .quoted '"' value⟩ (Identifier.doubled name)
      = ⟨tokens, .quoted '"' (value ++ name)⟩ := by
  induction name generalizing value with
  | nil =>
    rw [List.append_nil]
    rfl
  | cons c name ih =>
    have hfirst : goOn ⟨tokens, .quoted '"' value⟩ (if c = '"' then ['"', '"'] else [c])
        = ⟨tokens, .quoted '"' (value ++ [c])⟩ := by
      by_cases hc : c = '"'
      · -- The first quote seems to close the identifier, and the second one takes that back.
        subst hc
        rfl
      · rw [if_neg hc]
        exact if_neg hc
    rw [Identifier.doubled_cons, goOn_append, hfirst, ih, List.append_assoc]
    rfl

/-- Without its last quote an identifier is still open. -/
theorem goOn_opened (tokens : List Token) (name : Text) :
    goOn ⟨tokens, .nothing⟩ ('"' :: Identifier.doubled name) = ⟨tokens, .quoted '"' name⟩ :=
  goOn_doubled tokens [] name

/-- **A whole identifier** leaves the reader behind its last quote, with the name. -/
theorem goOn_quoted (tokens : List Token) (name : Text) :
    goOn ⟨tokens, .nothing⟩ (Identifier.quoted name) = ⟨tokens, .closing '"' name⟩ := by
  rw [Identifier.quoted, List.singleton_append, goOn_append, goOn_opened]
  rfl

end Reading

end Token

end Table

end BookDatasets
