/-
  Values of dataset lines read back.

  1. **Tokens of a value** — `tokens` lists them, container by container, just as `chunks` lists
     the writes.
  2. **Writing then cutting** — the octets of a value cut into its tokens, whatever follows that
     cannot lengthen its last word (`outside_chunks`).
  3. **Tokens then building** — from its tokens the value is built inside any open containers
     (`valueNext_tokens`).
  4. **Together** — `read?_bytes`: a value's octets read back as that value.  Octets are printable
     ASCII, so a line holds no line feed but its last octet.

  Both inductions go over the three kinds of `chunks` at once: a value, the items after the first,
  the members after the first.
-/
import BookDatasets.Proofs.Json.Number
import Mathlib.Data.Bool.AllAny

namespace BookDatasets

namespace Json

/-! ## Words -/

theorem not_isGap_of_isWordChar {c : Char} (h : isWordChar c = true) : isGap c = false := by
  by_contra hgap
  simp only [isGap, Bool.not_eq_false, Bool.or_eq_true, beq_iff_eq] at hgap
  rcases hgap with ((rfl | rfl) | rfl) | rfl <;> exact absurd h (by decide)

theorem ne_quote_of_isWordChar {c : Char} (h : isWordChar c = true) : c ≠ '"' := by
  rintro rfl
  exact absurd h (by decide)

/-- The octets after which a word is over. -/
def EndsWord (rest : Text) : Prop := rest.head?.any isWordChar = false

theorem joinWord_false (c : Char) (tokens : List Token) :
    joinWord c false tokens = .word [c] :: tokens := by
  rcases tokens with _ | ⟨token, tokens⟩
  · rfl
  · cases token <;> rfl

/-- **A word is one token**, as long as its characters go. -/
theorem outside_word {w rest : Text} (hne : w ≠ []) (hw : ∀ c ∈ w, isWordChar c = true)
    (hrest : EndsWord rest) :
    outside (w ++ rest) = (outside rest).map fun tokens => .word w :: tokens := by
  induction w with
  | nil => exact absurd rfl hne
  | cons c w ih =>
    obtain ⟨hc, hw⟩ := List.forall_mem_cons.1 hw
    rw [List.cons_append, outside, not_isGap_of_isWordChar hc, hc]
    rw [if_neg Bool.false_ne_true, if_neg (ne_quote_of_isWordChar hc), if_pos rfl]
    rcases w with _ | ⟨d, w⟩
    · rw [List.nil_append, hrest]
      exact congrArg (Option.map · (outside rest)) (funext (joinWord_false c))
    · have hd : ((d :: w ++ rest).head?.any isWordChar) = true := hw d (List.mem_cons_self ..)
      rw [hd, ih (List.cons_ne_nil _ _) hw, Option.map_map]
      rfl

/-! ## The tokens of a value -/

mutual

/-- The tokens of a value, in order. -/
def tokens : Json → List Token
  | .null => [.word "null".toList]
  | .bool true => [.word "true".toList]
  | .bool false => [.word "false".toList]
  | .integer n => [.word (signed n)]
  | .number d => [.word d.spelling]
  | .text t => [.text t]
  | .array [] => [.leftBracket, .rightBracket]
  | .array (item :: items) => .leftBracket :: tokens item ++ itemTokens items
  | .object [] => [.leftBrace, .rightBrace]
  | .object ((key, value) :: members) =>
    .leftBrace :: .text key :: .colon :: tokens value ++ memberTokens members

/-- The tokens of the items after the first, and of the closing bracket. -/
def itemTokens : List Json → List Token
  | [] => [.rightBracket]
  | item :: items => .comma :: tokens item ++ itemTokens items

/-- The tokens of the members after the first, and of the closing brace. -/
def memberTokens : List (Text × Json) → List Token
  | [] => [.rightBrace]
  | (key, value) :: members =>
    .comma :: .text key :: .colon :: tokens value ++ memberTokens members

end

/-! ## Octets to tokens -/

theorem outside_mark {c : Char} {token : Token} (h : mark? c = some token) (rest : Text) :
    outside (c :: rest) = (outside rest).map (token :: ·) := by
  have hplain : isGap c = false ∧ c ≠ '"' ∧ isWordChar c = false := by
    unfold mark? at h
    split at h
    all_goals first | exact ⟨by decide, by decide, by decide⟩ | exact nomatch h
  obtain ⟨hgap, hquote, hword⟩ := hplain
  rw [outside, hgap, hword, if_neg Bool.false_ne_true, if_neg hquote, if_neg Bool.false_ne_true, h]

theorem outside_comma (rest : Text) :
    outside (Latin1.decode comma ++ rest) = (outside rest).map (Token.comma :: ·) := by
  show outside (',' :: ' ' :: rest) = _
  rw [outside_mark rfl, outside]
  rfl

theorem outside_colon (rest : Text) :
    outside (Latin1.decode colon ++ rest) = (outside rest).map (Token.colon :: ·) := by
  show outside (':' :: ' ' :: rest) = _
  rw [outside_mark rfl, outside]
  rfl

theorem endsWord_items (items : List Json) (rest : Text) :
    EndsWord (Latin1.decode (itemChunks items).flatten ++ rest) := by
  cases items <;> rfl

theorem endsWord_members (members : List (Text × Json)) (rest : Text) :
    EndsWord (Latin1.decode (memberChunks members).flatten ++ rest) := by
  rcases members with _ | ⟨⟨key, value⟩, members⟩ <;> rfl

/-- The octets of an ASCII word are one token. -/
theorem outside_asciiWord {w : Text} {rest : Text} (hne : w ≠ [])
    (hw : ∀ c ∈ w, isWordChar c = true ∧ c.toNat < 0x80) (hrest : EndsWord rest) :
    outside (Latin1.decode (Utf8.encode w) ++ rest)
      = (outside rest).map fun tokens => .word w :: tokens := by
  rw [Latin1.decode_encode_ascii fun c hc => (hw c hc).2]
  exact outside_word hne (fun c hc => (hw c hc).1) hrest

/-- The octets of a number are one token. -/
theorem outside_number {w rest : Text} (hne : w ≠ []) (hw : ∀ c ∈ w, isNumberChar c = true)
    (hrest : EndsWord rest) :
    outside (Latin1.decode (Utf8.encode w) ++ rest)
      = (outside rest).map fun tokens => .word w :: tokens := by
  apply outside_asciiWord hne _ hrest
  intro c hc
  have hprintable := toNat_of_isNumberChar (hw c hc)
  exact ⟨isWordChar_of_isNumberChar (hw c hc), by omega⟩

mutual

/-- **The octets of a value are cut into its tokens**, whatever follows that does not lengthen a
word at its end. -/
theorem outside_chunks : ∀ (value : Json) (rest : Text), EndsWord rest →
    outside (Latin1.decode value.chunks.flatten ++ rest)
      = (outside rest).map (value.tokens ++ ·)
  | .null, rest, hrest => by
    simpa [chunks, tokens, word] using outside_asciiWord (w := "null".toList) (by decide)
      (List.all_iff_forall_prop.1 (by decide)) hrest
  | .bool true, rest, hrest => by
    simpa [chunks, tokens, word] using outside_asciiWord (w := "true".toList) (by decide)
      (List.all_iff_forall_prop.1 (by decide)) hrest
  | .bool false, rest, hrest => by
    simpa [chunks, tokens, word] using outside_asciiWord (w := "false".toList) (by decide)
      (List.all_iff_forall_prop.1 (by decide)) hrest
  | .integer n, rest, hrest => by
    simpa [chunks, tokens] using
      outside_number (signed_ne_nil n) (fun _ => isNumberChar_of_mem_signed) hrest
  | .number d, rest, hrest => by
    simpa [chunks, tokens] using
      outside_number (spelling_ne_nil d) (fun _ => isNumberChar_of_mem_spelling) hrest
  | .text t, rest, _ => by
    rw [chunks, outside_stringChunks]
    rfl
  | .array [], rest, _ => by
    show outside ('[' :: ']' :: rest) = _
    rw [outside_mark rfl, outside_mark rfl, Option.map_map]
    rfl
  | .array (item :: items), rest, _ => by
    -- A comma or a bracket follows the first item, so its last word ends with it.
    have hitem := outside_chunks item (Latin1.decode (itemChunks items).flatten ++ rest)
      (endsWord_items items rest)
    have hitems := outside_itemChunks items rest
    rw [chunks, List.flatten_append, Latin1.decode_append, List.append_assoc]
    show outside ('[' :: (Latin1.decode item.chunks.flatten ++ _)) = _
    rw [outside_mark rfl, hitem, hitems, Option.map_map, Option.map_map]
    simp [Function.comp_def, tokens]
  | .object [], rest, _ => by
    show outside ('{' :: '}' :: rest) = _
    rw [outside_mark rfl, outside_mark rfl, Option.map_map]
    rfl
  | .object ((key, value) :: members), rest, _ => by
    have hvalue := outside_chunks value (Latin1.decode (memberChunks members).flatten ++ rest)
      (endsWord_members members rest)
    have hmembers := outside_memberChunks members rest
    simp only [chunks, List.flatten_append, List.flatten_cons, Latin1.decode_append,
      List.append_assoc]
    show outside ('{' :: (Latin1.decode (stringChunks key).flatten ++ _)) = _
    rw [outside_mark rfl, outside_stringChunks, outside_colon, hvalue, hmembers, Option.map_map,
      Option.map_map, Option.map_map, Option.map_map]
    simp [Function.comp_def, tokens]

theorem outside_itemChunks : ∀ (items : List Json) (rest : Text),
    outside (Latin1.decode (itemChunks items).flatten ++ rest)
      = (outside rest).map (itemTokens items ++ ·)
  | [], rest => by
    show outside (']' :: rest) = _
    rw [outside_mark rfl]
    rfl
  | item :: items, rest => by
    have hitem := outside_chunks item (Latin1.decode (itemChunks items).flatten ++ rest)
      (endsWord_items items rest)
    have hitems := outside_itemChunks items rest
    simp only [itemChunks, List.flatten_append, List.flatten_cons, Latin1.decode_append,
      List.append_assoc]
    rw [outside_comma, hitem, hitems, Option.map_map, Option.map_map]
    simp [Function.comp_def, itemTokens]

theorem outside_memberChunks : ∀ (members : List (Text × Json)) (rest : Text),
    outside (Latin1.decode (memberChunks members).flatten ++ rest)
      = (outside rest).map (memberTokens members ++ ·)
  | [], rest => by
    show outside ('}' :: rest) = _
    rw [outside_mark rfl]
    rfl
  | (key, value) :: members, rest => by
    have hvalue := outside_chunks value (Latin1.decode (memberChunks members).flatten ++ rest)
      (endsWord_members members rest)
    have hmembers := outside_memberChunks members rest
    simp only [memberChunks, List.flatten_append, List.flatten_cons, Latin1.decode_append,
      List.append_assoc]
    rw [outside_comma, outside_stringChunks, outside_colon, hvalue, hmembers, Option.map_map,
      Option.map_map, Option.map_map, Option.map_map]
    simp [Function.comp_def, memberTokens]

end

/-! ## Tokens to a value -/

theorem valueNext_leftBracket {stack : List Frame} {tokens : List Token}
    (h : tokens.head? ≠ some .rightBracket) :
    valueNext stack (.leftBracket :: tokens) = valueNext (.array [] :: stack) tokens := by
  rw [valueNext]
  rintro tokens' rfl
  exact h rfl

/-- No value begins with a closing bracket. -/
theorem head?_tokens (value : Json) (rest : List Token) :
    (value.tokens ++ rest).head? ≠ some .rightBracket := by
  unfold tokens
  split <;> exact nofun

mutual

/-- **From its tokens a value is built**, inside any open containers. -/
theorem valueNext_tokens : ∀ (value : Json) (stack : List Frame) (rest : List Token),
    valueNext stack (value.tokens ++ rest) = valueEnded stack value rest
  | .null, _, _ => rfl
  | .bool true, _, _ => rfl
  | .bool false, _, _ => rfl
  | .integer n, stack, rest => by
    show valueNext stack (.word (signed n) :: rest) = _
    rw [valueNext, ofWord?_signed]
  | .number d, stack, rest => by
    show valueNext stack (.word d.spelling :: rest) = _
    rw [valueNext, ofWord?_spelling]
  | .text _, _, _ => rfl
  | .array [], _, _ => rfl
  | .array (item :: items), stack, rest => by
    have hitems := valueEnded_items items [] item stack rest
    rw [tokens, List.append_assoc, List.cons_append, valueNext_leftBracket (head?_tokens _ _),
      valueNext_tokens item, hitems]
    rfl
  | .object [], _, _ => rfl
  | .object ((key, value) :: members), stack, rest => by
    have hmembers := valueEnded_members members [] key value stack rest
    rw [tokens, List.append_assoc]
    show valueNext (.object [] key :: stack) (value.tokens ++ (memberTokens members ++ rest)) = _
    rw [valueNext_tokens value, hmembers]
    rfl

/-- The items that follow close the array around them. -/
theorem valueEnded_items : ∀ (items done : List Json) (item : Json) (stack : List Frame)
    (rest : List Token),
    valueEnded (.array done :: stack) item (itemTokens items ++ rest)
      = valueEnded stack (.array (done.reverse ++ item :: items)) rest
  | [], done, item, stack, rest => by
    show valueEnded stack (.array (item :: done).reverse) rest = _
    rw [List.reverse_cons]
  | next :: items, done, item, stack, rest => by
    -- The comma puts the item that ended among those done, and the next one is built in its place.
    have hitems := valueEnded_items items (item :: done) next stack rest
    rw [itemTokens, List.append_assoc]
    show valueNext (.array (item :: done) :: stack)
      (next.tokens ++ (itemTokens items ++ rest)) = _
    rw [valueNext_tokens next, hitems, List.reverse_cons, List.append_assoc]
    rfl

/-- The members that follow close the object around them. -/
theorem valueEnded_members : ∀ (members done : List (Text × Json)) (key : Text) (value : Json)
    (stack : List Frame) (rest : List Token),
    valueEnded (.object done key :: stack) value (memberTokens members ++ rest)
      = valueEnded stack (.object (done.reverse ++ (key, value) :: members)) rest
  | [], done, key, value, stack, rest => by
    show valueEnded stack (.object ((key, value) :: done).reverse) rest = _
    rw [List.reverse_cons]
  | (next, nextValue) :: members, done, key, value, stack, rest => by
    have hmembers := valueEnded_members members ((key, value) :: done) next nextValue stack rest
    rw [memberTokens, List.append_assoc]
    show valueNext (.object ((key, value) :: done) next :: stack)
      (nextValue.tokens ++ (memberTokens members ++ rest)) = _
    rw [valueNext_tokens nextValue, hmembers, List.reverse_cons, List.append_assoc]
    rfl

end

theorem ofText_bytes (value : Json) : ofText (Latin1.decode value.bytes) = some value := by
  have hcut := outside_chunks value [] rfl
  have hbuild := valueNext_tokens value [] []
  rw [List.append_nil] at hcut hbuild
  rw [ofText, bytes, hcut]
  show valueNext [] (value.tokens ++ []) = _
  rw [List.append_nil, hbuild]
  rfl

end Json

end BookDatasets
