/-
  Settings of flags, and how the words of many of them are read.

  1. **Settings** — a setting gives a flag one of the values that the flag takes.  It stands in one
     word, joined by an equals sign, or in two words; the second only when the value does not begin
     with a dash.  Nothing else is asked of a value: it may hold equals signs, and it may be the word
     for a subcommand or, behind an equals sign, for another flag.
  2. **One setting** (`Setting.passes`) — the reader is `Poised` when no flag waits for its value and
     what it has read can be settled.  The words of a setting leave it poised with one value more.
     In one word the value is settled at once, in two it stays pending until the next flag; poised is
     what both of them are.
  3. **Many settings** (`exists_passes`) — by induction, so are the words of any settings of known
     flags, in any order, as long as no flag comes twice.
  4. **Groups** — the settings of one place on the command line, before the subcommand or after it.
-/
import BookDatasets.CommandLine.Reader
import BookDatasets.Proofs.Text.Joined
import Mathlib.Data.List.Nodup

namespace BookDatasets

namespace CommandLine

/-! ## Values -/

/-- The word for a log level. -/
def levelName : Log.Level → Text
  | .error => "error".toList
  | .warn => "warn".toList
  | .info => "info".toList
  | .debug => "debug".toList
  | .trace => "trace".toList

/-- The word for a log format. -/
def formatName : Log.Format → Text
  | .plain => "plain".toList
  | .json => "json".toList

/-- A number in base ten, possibly behind zeros. -/
def Numeral (numeral : Text) (n : Nat) : Prop :=
  ∃ zeros, numeral = List.replicate zeros '0' ++ decimal n

/-- The values that a flag takes. -/
def ValueKind.Takes : ValueKind → Text → Prop
  | .level, value => ∃ level, value = levelName level
  | .format, value => ∃ format, value = formatName format
  | .count, value => ∃ n < Nat.pow 2 64, Numeral value n
  | .path, _ => True
  | .text, _ => True

theorem level?_levelName (level : Log.Level) : level? (levelName level) = some level := by
  cases level <;> decide

theorem format?_formatName (format : Log.Format) : format? (formatName format) = some format := by
  cases format <;> decide

theorem digit?_of_isDigit {c : Char} (h : c.isDigit = true) :
    digit? c = some (c.toNat - '0'.toNat) := by
  rw [Char.isDigit, Bool.and_eq_true, decide_eq_true_eq, decide_eq_true_eq] at h
  exact if_pos h

theorem digitsAfter_eq {digits : Text} (h : ∀ c ∈ digits, c.isDigit = true) (value : Nat) :
    digitsAfter value digits = some (Nat.ofDigitChars 10 digits value) := by
  induction digits generalizing value with
  | nil => rfl
  | cons c rest ih =>
    obtain ⟨hc, hrest⟩ := List.forall_mem_cons.1 h
    rw [digitsAfter, digit?_of_isDigit hc, Nat.ofDigitChars_cons]
    exact ih hrest _

namespace Numeral

variable {numeral : Text} {n : Nat}

theorem isDigit (h : Numeral numeral n) : ∀ c ∈ numeral, c.isDigit = true := by
  obtain ⟨zeros, rfl⟩ := h
  intro c hc
  rcases List.mem_append.1 hc with hc | hc
  · rw [List.eq_of_mem_replicate hc]
    rfl
  · exact Nat.isDigit_of_mem_toDigits (by omega) (by omega) hc

theorem ne_nil (h : Numeral numeral n) : numeral ≠ [] := by
  obtain ⟨zeros, rfl⟩ := h
  exact List.append_ne_nil_of_right_ne_nil _ Nat.toDigits_ne_nil

/-- A numeral has the value of its digits. -/
theorem ofDigitChars (h : Numeral numeral n) : Nat.ofDigitChars 10 numeral 0 = n := by
  obtain ⟨zeros, rfl⟩ := h
  induction zeros with
  | zero => exact Nat.ofDigitChars_ten_toDigits
  | succ zeros ih => exact ih

theorem count? (h : Numeral numeral n) (hn : n < Nat.pow 2 64) :
    CommandLine.count? numeral = some n := by
  -- A plus sign in front would be taken off; a numeral has none.
  have hsign : ∀ rest, numeral ≠ '+' :: rest := by
    rintro rest rfl
    exact absurd (h.isDigit '+' List.mem_cons_self) (by decide)
  have hempty : ¬ numeral.isEmpty = true := by
    rw [List.isEmpty_iff]
    exact h.ne_nil
  rw [CommandLine.count?, if_neg hempty, digitsAfter_eq h.isDigit, h.ofDigitChars]
  · exact if_pos hn
  · exact hsign

end Numeral

/-- **The values that a flag takes pass its check.** -/
theorem ValueKind.check_of_takes {kind : ValueKind} {value : Text} (hvalue : value ≠ [])
    (h : kind.Takes value) : kind.check value = .ok () := by
  cases kind with
  | level =>
    obtain ⟨level, rfl⟩ := h
    rw [check, level?_levelName]
    rfl
  | format =>
    obtain ⟨format, rfl⟩ := h
    rw [check, format?_formatName]
    rfl
  | path =>
    rw [check, if_neg (mt List.isEmpty_iff.1 hvalue)]
  | count =>
    obtain ⟨n, hn, hnumeral⟩ := h
    rw [check, hnumeral.count? hn]
    rfl
  | text => rfl

/-! ## Settings -/

/-- How a flag and its value are written: in one word, or in two. -/
inductive Spelling where
  | joined
  | apart
  deriving DecidableEq, Repr

/-- A flag with one of its values, written in one of two ways. -/
structure Setting where
  flag : Flag
  value : Text
  spelling : Spelling
  nonempty : value ≠ []
  takes : flag.kind.Takes value
  undashed : spelling = .apart → value.head? ≠ some '-'

namespace Setting

/-- The flag and its value, however they are written. -/
def pair (s : Setting) : Flag × Text := (s.flag, s.value)

/-- The words that a setting is written in. -/
def words (s : Setting) : List Text :=
  match s.spelling with
  | .joined => ["--".toList ++ s.flag.name ++ "=".toList ++ s.value]
  | .apart => ["--".toList ++ s.flag.name, s.value]

end Setting

/-! ## Words -/

theorem Flag.name_ne_nil (flag : Flag) : flag.name ≠ [] := by
  cases flag <;> decide

theorem Flag.equals_not_mem_name (flag : Flag) : '=' ∉ flag.name := by
  cases flag <;> decide

/-- **A known flag is found by its name.** -/
theorem flag?_name {scope : Option Subcommand} {flag : Flag} (h : flag ∈ scopeFlags scope) :
    flag? scope flag.name = some flag := by
  have hall : ∀ flag ∈ scopeFlags scope, flag? scope flag.name = some flag := by
    rcases scope with _ | command
    · decide
    · cases command <;> decide
  exact hall flag h

theorem Word.ofText_dashes {rest : Text} (h : rest ≠ []) :
    Word.ofText ("--".toList ++ rest) = .long (rest.takeWhile (· ≠ '=')) (afterEquals rest) := by
  cases rest with
  | nil => exact absurd rfl h
  | cons c rest => rfl

theorem Word.ofText_joined (flag : Flag) (value : Text) :
    Word.ofText ("--".toList ++ flag.name ++ "=".toList ++ value)
      = .long flag.name (some value) := by
  have hequals := flag.equals_not_mem_name
  have hrest : flag.name ++ '=' :: value ≠ [] :=
    List.append_ne_nil_of_left_ne_nil flag.name_ne_nil _
  rw [List.append_assoc, List.append_assoc]
  show Word.ofText ("--".toList ++ (flag.name ++ '=' :: value)) = _
  rw [ofText_dashes hrest, afterEquals, Text.takeWhile_front hequals, Text.dropWhile_front hequals]

theorem Word.ofText_apart (flag : Flag) :
    Word.ofText ("--".toList ++ flag.name) = .long flag.name none := by
  cases flag <;> decide

/-- A word that does not begin with a dash is plain, whatever it spells. -/
theorem Word.ofText_undashed {word : Text} (h : word.head? ≠ some '-') :
    Word.ofText word = .plain := by
  cases word with
  | nil => rfl
  | cons c rest =>
    have hc : c ≠ '-' := fun hc => h (congrArg some hc)
    rw [Word.ofText] <;> simp [hc]

/-! ## Words that are taken -/

/-- The words are taken in the scope one by one, and lead from one state of it to another. -/
inductive Passes (scope : Option Subcommand) : Given → List Text → Given → Prop where
  | nil (g : Given) : Passes scope g [] g
  | cons {g g' g'' : Given} {word : Text} {words : List Text} (first : take scope g word = .goOn g')
      (others : Passes scope g' words g'') : Passes scope g (word :: words) g''

namespace Passes

variable {scope : Option Subcommand} {g g' g'' : Given} {words more : List Text}

theorem append (h : Passes scope g words g') (h' : Passes scope g' more g'') :
    Passes scope g (words ++ more) g'' := by
  induction h with
  | nil g => exact h'
  | cons first _ ih => exact .cons first (ih h')

/-- Behind words that are taken, a subcommand's scope is read on. -/
theorem readScope {command : Subcommand} (h : Passes (some command) g words g') :
    CommandLine.readScope command g words = g'.settle := by
  induction h with
  | nil g => rfl
  | cons first _ ih =>
    rw [CommandLine.readScope, first]
    exact ih

/-- Behind words that are taken, the command line is read on. -/
theorem readFrom (h : Passes none g words g') (more : List Text) :
    CommandLine.readFrom g (words ++ more) = CommandLine.readFrom g' more := by
  induction h with
  | nil g => rfl
  | cons first _ ih =>
    rw [List.cons_append, CommandLine.readFrom.eq_def]
    dsimp only
    rw [first]
    exact ih

end Passes

/-! ## One setting -/

/-- No flag waits for its value, and what has been read settles to the given values, the latest
first. -/
structure Poised (g : Given) (pairs : List (Flag × Text)) : Prop where
  settles : g.settle = .ok ⟨pairs, none⟩
  ready : g.waiting? = none

theorem poised_settled (pairs : List (Flag × Text)) : Poised ⟨pairs, none⟩ pairs := ⟨rfl, rfl⟩

section

variable {scope : Option Subcommand} {g : Given} {pairs : List (Flag × Text)}

theorem Given.value?_eq_none {flag : Flag} {pending : Option (Flag × Option Text)}
    (h : flag ∉ pairs.map Prod.fst) : (⟨pairs, pending⟩ : Given).value? flag = none := by
  rw [Given.value?, List.lookup_eq_none_iff]
  intro p hp
  rw [bne_iff_ne]
  rintro rfl
  exact h (List.mem_map_of_mem hp)

/-- A flag that is new takes one of its values. -/
theorem Setting.give (s : Setting) (fresh : s.flag ∉ pairs.map Prod.fst)
    (pending : Option (Flag × Option Text)) :
    (⟨pairs, pending⟩ : Given).give s.flag s.value = .ok ⟨s.pair :: pairs, none⟩ := by
  rw [Given.give, Given.value?_eq_none fresh, ValueKind.check_of_takes s.nonempty s.takes]
  rfl

/-- **The words of a setting are taken**, and leave the reader poised with this setting more. -/
theorem Setting.passes (s : Setting) (known : s.flag ∈ scopeFlags scope)
    (fresh : s.flag ∉ pairs.map Prod.fst) (h : Poised g pairs) :
    ∃ g', Passes scope g s.words g' ∧ Poised g' (s.pair :: pairs) := by
  rcases hspelling : s.spelling
  · -- In one word: the value is settled with its flag.
    have htake : take scope g ("--".toList ++ s.flag.name ++ "=".toList ++ s.value)
        = .goOn ⟨s.pair :: pairs, none⟩ := by
      rw [take, Word.ofText_joined]
      dsimp only
      rw [flag?_name known]
      dsimp only
      rw [Given.begin, h.settles]
      dsimp only
      rw [s.give fresh]
    rw [words, hspelling]
    exact ⟨_, .cons htake (.nil _), poised_settled _⟩
  · -- In two words: the flag waits, and takes any word without a dash.
    have hflag : take scope g ("--".toList ++ s.flag.name)
        = .goOn ⟨pairs, some (s.flag, none)⟩ := by
      rw [take, Word.ofText_apart]
      dsimp only
      rw [flag?_name known]
      dsimp only
      rw [Given.begin, h.settles]
    have hvalue : take scope ⟨pairs, some (s.flag, none)⟩ s.value
        = .goOn ⟨pairs, some (s.flag, some s.value)⟩ := by
      rw [take, Word.ofText_undashed (s.undashed hspelling)]
      rfl
    rw [words, hspelling]
    exact ⟨_, .cons hflag (.cons hvalue (.nil _)), s.give fresh _, rfl⟩

/-! ## Many settings -/

/-- **The words of settings are taken**, whatever their order, when no flag comes twice. -/
theorem exists_passes {settings : List Setting} (known : ∀ s ∈ settings, s.flag ∈ scopeFlags scope)
    (once : (settings.map Setting.flag).Nodup)
    (fresh : ∀ s ∈ settings, s.flag ∉ pairs.map Prod.fst) (h : Poised g pairs) :
    ∃ g', Passes scope g (settings.flatMap Setting.words) g'
      ∧ Poised g' ((settings.map Setting.pair).reverse ++ pairs) := by
  induction settings generalizing g pairs with
  | nil => exact ⟨g, .nil g, h⟩
  | cons s settings ih =>
    obtain ⟨hs, hknown⟩ := List.forall_mem_cons.1 known
    obtain ⟨hnew, honce⟩ := List.nodup_cons.1 once
    obtain ⟨hfirst, hfresh⟩ := List.forall_mem_cons.1 fresh
    obtain ⟨g₁, hpasses, hpoised⟩ := s.passes hs hfirst h
    -- The flags to come are new behind this setting too: it is none of them.
    have hstill : ∀ t ∈ settings, t.flag ∉ (s.pair :: pairs).map Prod.fst := by
      intro t ht hmem
      rcases List.mem_cons.1 hmem with hsame | hearlier
      · have hagain : t.flag ∈ settings.map Setting.flag := List.mem_map_of_mem ht
        rw [hsame] at hagain
        exact hnew hagain
      · exact hfresh t ht hearlier
    obtain ⟨g₂, hothers, hlast⟩ := ih hknown honce hstill hpoised
    refine ⟨g₂, hpasses.append hothers, ?_⟩
    rw [List.map_cons, List.reverse_cons, List.append_assoc]
    exact hlast

end

/-! ## Groups -/

/-- The settings of one place: each of a flag known there, and no flag twice. -/
structure Group (flags : List Flag) where
  settings : List Setting
  known : ∀ s ∈ settings, s.flag ∈ flags
  once : (settings.map Setting.flag).Nodup

namespace Group

variable {flags : List Flag}

/-- The words of a group, in its order. -/
def words (group : Group flags) : List Text := group.settings.flatMap Setting.words

/-- The flags of a group with their values. -/
def pairs (group : Group flags) : List (Flag × Text) := group.settings.map Setting.pair

/-- What is read from a group. -/
def given (group : Group flags) : Given := ⟨group.pairs.reverse, none⟩

/-- **The words of a group are taken**, and settle to its values. -/
theorem exists_passes {scope : Option Subcommand} (group : Group (scopeFlags scope)) :
    ∃ g, Passes scope .nothing group.words g ∧ Poised g group.pairs.reverse := by
  have h := CommandLine.exists_passes group.known group.once
    (fun _ _ => List.not_mem_nil) (poised_settled [])
  rw [List.append_nil] at h
  exact h

/-- A flag that is set has its value. -/
theorem value?_of_mem (group : Group flags) {flag : Flag} {value : Text}
    (h : (flag, value) ∈ group.pairs) : group.given.value? flag = some value := by
  obtain ⟨front, back, hsplit⟩ := List.append_of_mem (List.mem_reverse.2 h)
  have honce : (group.pairs.reverse.map Prod.fst).Nodup := by
    rw [List.map_reverse, List.nodup_reverse, pairs, List.map_map]
    exact group.once
  rw [hsplit, List.map_append, List.map_cons] at honce
  rw [Given.value?, given, List.lookup_eq_some_iff]
  refine ⟨front, back, hsplit, ?_⟩
  intro p hp
  rw [bne_iff_ne]
  rintro rfl
  exact (List.nodup_append.1 honce).2.2 _ (List.mem_map_of_mem hp) _ List.mem_cons_self rfl

/-- A flag that is not set has none. -/
theorem value?_of_not_mem (group : Group flags) {flag : Flag}
    (h : ∀ value, (flag, value) ∉ group.pairs) : group.given.value? flag = none := by
  refine Given.value?_eq_none fun hmem => ?_
  obtain ⟨⟨flag', value⟩, hpair, rfl⟩ := List.mem_map.1 hmem
  exact h value (List.mem_reverse.1 hpair)

theorem takes_of_mem (group : Group flags) {flag : Flag} {value : Text}
    (h : (flag, value) ∈ group.pairs) : flag.kind.Takes value := by
  obtain ⟨s, -, hs⟩ := List.mem_map.1 h
  obtain ⟨rfl, rfl⟩ := Prod.mk.inj hs
  exact s.takes

end Group

end CommandLine

end BookDatasets
