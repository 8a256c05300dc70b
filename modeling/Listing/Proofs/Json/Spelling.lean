import Listing.Json.Token
import Listing.Proofs.Text

/-!
# `Listing/Proofs/Json/Spelling.lean` — what is written for tokens

The same tokens can be written in many ways: with blanks around each of them or without, and with
any character of a string escaped in one way or another. `Spells` is this layout, as a grammar. It
says what a text may look like, not how it is read.

Reading goes from the front of the text, and takes from it what belongs to the next token. So there
is a lemma for strings (`scanString_eq_some_iff`) and one for each direction for tokens
(`lexeme_of_scanToken?`, `scanToken?_of_lexeme`), each about a text of which only the front is
known. `tokens?_eq_some_iff` puts them together: reading accepts the texts that spell tokens, and
finds these.

Numbers and words go on as long as they can, so nothing that could belong to them may follow them
directly (`Token.EndsBefore`).
-/

set_option autoImplicit false

namespace Listing.Json

open Text

/-! ## Strings -/

/-- What is between the quotes, for the parts of a string. -/
inductive Inside : List StringPart → List Char → Prop where
  | nil : Inside [] []
  | plain {c : Char} {parts : List StringPart} {cs : List Char} (visible : ¬ c.toNat < 0x20)
      (noQuote : c ≠ '"') (noBackslash : c ≠ '\\') (rest : Inside parts cs) :
      Inside (.char c :: parts) (c :: cs)
  | escaped {c meant : Char} {parts : List StringPart} {cs : List Char}
      (means : escape? c = some meant) (rest : Inside parts cs) :
      Inside (.char meant :: parts) ('\\' :: c :: cs)
  | unit {a b c d : Char} {n : Nat} {parts : List StringPart} {cs : List Char}
      (means : ofHex? [a, b, c, d] = some n) (rest : Inside parts cs) :
      Inside (.unit n :: parts) ('\\' :: 'u' :: a :: b :: c :: d :: cs)

variable {parts : List StringPart} {cs rest : List Char}

theorem inside_of_scanString (scans : scanString cs = some (parts, rest)) :
    ∃ inside, cs = inside ++ '"' :: rest ∧ Inside parts inside := by
  fun_induction scanString cs generalizing parts rest with
  | case1 => cases scans
  | case2 cs =>
    cases scans
    exact ⟨[], rfl, .nil⟩
  | case3 a b c d cs n parts' rest' scanned means ih =>
    cases scans
    obtain ⟨inside, rfl, isInside⟩ := ih scanned
    exact ⟨_, rfl, .unit means isInside⟩
  | case4 => cases scans
  | case5 c cs notUnit meant parts' rest' scanned means ih =>
    cases scans
    obtain ⟨inside, rfl, isInside⟩ := ih scanned
    exact ⟨_, rfl, .escaped means isInside⟩
  | case6 => cases scans
  | case7 => cases scans
  | case8 c cs noQuote _ _ plain ih =>
    obtain ⟨⟨parts', rest'⟩, scanned, same⟩ := Option.map_eq_some_iff.mp scans
    cases same
    obtain ⟨inside, rfl, isInside⟩ := ih scanned
    rw [not_or] at plain
    exact ⟨_, rfl, .plain plain.1 noQuote plain.2 isInside⟩

theorem scanString_of_inside {inside : List Char} (isInside : Inside parts inside)
    (rest : List Char) : scanString (inside ++ '"' :: rest) = some (parts, rest) := by
  induction isInside with
  | nil => simp [scanString]
  | @plain c parts cs visible noQuote noBackslash _ ih =>
    rw [List.cons_append]
    simp [scanString, ih, visible, noBackslash]
  | escaped means _ ih =>
    unfold escape? at means
    split at means <;> cases means <;> simp [scanString, escape?, ih]
  | unit means _ ih => simp [scanString, means, ih]

/-- A string is read up to the first quote that is not escaped. -/
theorem scanString_eq_some_iff :
    scanString cs = some (parts, rest) ↔
      ∃ inside, cs = inside ++ '"' :: rest ∧ Inside parts inside := by
  refine ⟨inside_of_scanString, fun spelled => ?_⟩
  obtain ⟨inside, rfl, isInside⟩ := spelled
  exact scanString_of_inside isInside rest

/-! ## Tokens -/

/-- What is written for a token. -/
inductive Lexeme : Token → List Char → Prop where
  | openBracket : Lexeme .openBracket ['[']
  | closeBracket : Lexeme .closeBracket [']']
  | openBrace : Lexeme .openBrace ['\x7b']
  | closeBrace : Lexeme .closeBrace ['\x7d']
  | comma : Lexeme .comma [',']
  | colon : Lexeme .colon [':']
  | null : Lexeme .null "null".toList
  | true : Lexeme (.boolean true) "true".toList
  | false : Lexeme (.boolean false) "false".toList
  | number {literal : List Char} (isNumber : isNumber literal = true) :
      Lexeme (.number literal) literal
  | string {parts : List StringPart} {inside : List Char} (isInside : Inside parts inside) :
      Lexeme (.string ((assemble? parts).map String.ofList)) ('"' :: (inside ++ ['"']))

/-- Whether a token ends where another text begins, because its characters do not go on there. -/
def Token.EndsBefore (rest : List Char) : Token → Prop
  | .number _ => ∀ c ∈ rest.head?, isNumberChar c = false
  | .null | .boolean _ => ∀ c ∈ rest.head?, c.isAlpha = false
  | _ => True

/-- A text is made of the lexemes of tokens, with blanks between them and at its ends. -/
inductive Spells : List Token → List Char → Prop where
  | nil {blanks : List Char} (blank : ∀ c ∈ blanks, isSpace c = true) : Spells [] blanks
  | cons {token : Token} {tokens : List Token} {blanks lexeme rest : List Char}
      (blank : ∀ c ∈ blanks, isSpace c = true) (isLexeme : Lexeme token lexeme)
      (ends : token.EndsBefore rest) (others : Spells tokens rest) :
      Spells (token :: tokens) (blanks ++ (lexeme ++ rest))

/-! ## Numbers -/

theorem isNumberChar_of_isDigit {c : Char} (digit : c.isDigit = true) : isNumberChar c = true := by
  simp [isNumberChar, digit]

theorem isNumberChar_of_isDigits (digits : isDigits cs = true) :
    ∀ c ∈ cs, isNumberChar c = true := by
  simp only [isDigits, Bool.and_eq_true, List.all_eq_true] at digits
  exact fun c mem => isNumberChar_of_isDigit (digits.2 c mem)

theorem isNumberChar_of_splitSign (behind : ∀ c ∈ (Number.splitSign cs).2, isNumberChar c = true) :
    ∀ c ∈ cs, isNumberChar c = true := by
  unfold Number.splitSign at behind
  split at behind
  · exact List.forall_mem_cons.mpr ⟨rfl, behind⟩
  · exact List.forall_mem_cons.mpr ⟨rfl, behind⟩
  · exact behind

theorem isNumberChar_of_isExponent (exponent : isExponent cs = true) :
    ∀ c ∈ cs, isNumberChar c = true := by
  cases cs with
  | nil => simp
  | cons mark cs =>
    simp only [isExponent, Bool.and_eq_true, Bool.or_eq_true, decide_eq_true_eq] at exponent
    refine List.forall_mem_cons.mpr ⟨?_, ?_⟩
    · rcases exponent.1 with rfl | rfl <;> rfl
    · exact isNumberChar_of_splitSign (isNumberChar_of_isDigits exponent.2)

/-- A run of digits in front does not matter. -/
theorem isNumberChar_of_dropWhile
    (behind : ∀ c ∈ cs.dropWhile Char.isDigit, isNumberChar c = true) :
    ∀ c ∈ cs, isNumberChar c = true := by
  rw [← List.takeWhile_append_dropWhile (p := Char.isDigit) (l := cs)]
  refine List.forall_mem_append.mpr ⟨fun c mem => ?_, behind⟩
  exact isNumberChar_of_isDigit (List.mem_takeWhile_imp mem)

theorem isNumberChar_of_isFraction (fraction : isFraction cs = true) :
    ∀ c ∈ cs, isNumberChar c = true := by
  unfold isFraction at fraction
  split at fraction
  · rw [Bool.and_eq_true] at fraction
    refine List.forall_mem_cons.mpr ⟨rfl, ?_⟩
    exact isNumberChar_of_dropWhile (isNumberChar_of_isExponent fraction.2)
  · exact isNumberChar_of_isExponent fraction

theorem isNumberChar_of_isUnsigned (unsigned : isUnsigned cs = true) :
    ∀ c ∈ cs, isNumberChar c = true := by
  simp only [isUnsigned, Bool.and_eq_true] at unsigned
  exact isNumberChar_of_dropWhile (isNumberChar_of_isFraction unsigned.2)

/-- A number has only the characters by which it is recognised. -/
theorem isNumberChar_of_isNumber (number : isNumber cs = true) :
    ∀ c ∈ cs, isNumberChar c = true := by
  unfold isNumber at number
  split at number
  · exact List.forall_mem_cons.mpr ⟨rfl, isNumberChar_of_isUnsigned number⟩
  · exact isNumberChar_of_isUnsigned number

theorem ne_nil_of_isNumber (number : isNumber cs = true) : cs ≠ [] := by
  rintro rfl
  cases number

/-! ## One token -/

variable {token : Token} {c : Char}

theorem head?_dropWhile {p : Char → Bool} (cs : List Char) :
    ∀ c ∈ (cs.dropWhile p).head?, p c = false := by
  intro c first
  have stops := List.head?_dropWhile_not p cs
  rw [Option.mem_def.mp first] at stops
  simpa using stops

theorem lexeme_of_word? {letters : List Char} (word : word? letters = some token)
    (ends : ∀ c ∈ rest.head?, c.isAlpha = false) :
    Lexeme token letters ∧ token.EndsBefore rest := by
  unfold word? at word
  split at word
  · next letters =>
    cases word
    exact ⟨letters ▸ .null, ends⟩
  · split at word
    · next letters =>
      cases word
      exact ⟨letters ▸ .true, ends⟩
    · split at word
      · next letters =>
        cases word
        exact ⟨letters ▸ .false, ends⟩
      · cases word

theorem lexeme_of_punctuation? (punctuation : punctuation? c = some token) (rest : List Char) :
    Lexeme token [c] ∧ token.EndsBefore rest := by
  unfold punctuation? at punctuation
  split at punctuation <;> cases punctuation
  · exact ⟨.openBracket, trivial⟩
  · exact ⟨.closeBracket, trivial⟩
  · exact ⟨.openBrace, trivial⟩
  · exact ⟨.closeBrace, trivial⟩
  · exact ⟨.comma, trivial⟩
  · exact ⟨.colon, trivial⟩

theorem lexeme_of_scanToken? {rest : { rest : List Char // rest.length ≤ cs.length }}
    (scans : scanToken? c cs = some (token, rest)) :
    ∃ lexeme, c :: cs = lexeme ++ rest.val ∧ Lexeme token lexeme ∧ token.EndsBefore rest.val := by
  unfold scanToken? at scans
  split at scans
  · next found punctuation =>
    cases scans
    exact ⟨[c], rfl, lexeme_of_punctuation? punctuation cs⟩
  split at scans
  · next quote =>
    split at scans
    · next parts' rest' scanned =>
      cases scans
      obtain ⟨inside, rfl, isInside⟩ := scanString_eq_some_iff.mp scanned
      exact ⟨'"' :: (inside ++ ['"']), by simp [quote], .string isInside, trivial⟩
    · cases scans
  split at scans
  · simp only at scans
    split at scans
    · next number =>
      cases scans
      exact ⟨_, by simp, .number number, head?_dropWhile cs⟩
    · cases scans
  · obtain ⟨found, word, same⟩ := Option.map_eq_some_iff.mp scans
    cases same
    exact ⟨_, by simp, lexeme_of_word? word (head?_dropWhile cs)⟩

theorem scanToken?_of_word {letters : List Char} (word : word? (c :: letters) = some token)
    (noMark : punctuation? c = none) (noQuote : c ≠ '"') (noNumber : isNumberChar c = false)
    (alphabetic : ∀ c ∈ letters, c.isAlpha = true) (ends : ∀ c ∈ rest.head?, c.isAlpha = false) :
    ∃ short, scanToken? c (letters ++ rest) = some (token, ⟨rest, short⟩) := by
  obtain ⟨taken, dropped⟩ := takeWhile_append_of_stops alphabetic ends
  refine ⟨by simp, ?_⟩
  unfold scanToken?
  simp [noMark, noQuote, noNumber, taken, dropped, word]

theorem scanToken?_of_inside {inside : List Char} (isInside : Inside parts inside)
    (rest : List Char) :
    ∃ short, scanToken? '"' (inside ++ '"' :: rest) =
      some (.string ((assemble? parts).map String.ofList), ⟨rest, short⟩) := by
  have scanned := scanString_of_inside isInside rest
  refine ⟨Nat.le_of_lt (length_lt_of_scanString scanned), ?_⟩
  unfold scanToken?
  rw [show punctuation? '"' = none from rfl]
  simp only [↓reduceIte]
  split
  · next found =>
    rw [scanned] at found
    cases found
    rfl
  · next missing =>
    rw [scanned] at missing
    cases missing

theorem scanToken?_of_isNumber {literal : List Char} (number : isNumber (c :: literal) = true)
    (ends : ∀ c ∈ rest.head?, isNumberChar c = false) :
    ∃ short, scanToken? c (literal ++ rest) = some (.number (c :: literal), ⟨rest, short⟩) := by
  have chars := List.forall_mem_cons.mp (isNumberChar_of_isNumber number)
  obtain ⟨taken, dropped⟩ := takeWhile_append_of_stops chars.2 ends
  have noMark : punctuation? c = none := by
    unfold punctuation?
    split <;> first | rfl | cases chars.1
  have noQuote : c ≠ '"' := by
    intro quote
    cases quote ▸ chars.1
  refine ⟨by simp, ?_⟩
  unfold scanToken?
  simp [noMark, noQuote, chars.1, taken, dropped, number]

theorem scanToken?_of_lexeme {lexeme : List Char} (isLexeme : Lexeme token (c :: lexeme))
    (ends : token.EndsBefore rest) :
    ∃ short, scanToken? c (lexeme ++ rest) = some (token, ⟨rest, short⟩) := by
  cases isLexeme with
  | openBracket | closeBracket | openBrace | closeBrace | comma | colon =>
    exact ⟨Nat.le_refl _, rfl⟩
  | null | true | false =>
    exact scanToken?_of_word rfl rfl (by decide) rfl (List.all_eq_true.mp rfl) ends
  | number number => exact scanToken?_of_isNumber number ends
  | string isInside =>
    rw [List.append_assoc]
    exact scanToken?_of_inside isInside rest

theorem isSpace_of_lexeme {lexeme : List Char} (isLexeme : Lexeme token (c :: lexeme)) :
    isSpace c = false := by
  cases isLexeme with
  | number number =>
    have char := isNumberChar_of_isNumber number c List.mem_cons_self
    refine Bool.eq_false_iff.mpr fun space => ?_
    simp only [isSpace, Bool.or_eq_true, decide_eq_true_eq] at space
    obtain ((rfl | rfl) | rfl) | rfl := space <;> cases char
  | _ => rfl

theorem Lexeme.ne_nil {lexeme : List Char} (isLexeme : Lexeme token lexeme) : lexeme ≠ [] := by
  cases isLexeme with
  | number number => exact ne_nil_of_isNumber number
  | _ => simp

/-! ## All tokens -/

variable {tokens : List Token}

theorem tokens?_append_of_blank {blanks : List Char} (blank : ∀ c ∈ blanks, isSpace c = true)
    (cs : List Char) : tokens? (blanks ++ cs) = tokens? cs := by
  induction blanks with
  | nil => rfl
  | cons c blanks ih =>
    obtain ⟨first, others⟩ := List.forall_mem_cons.mp blank
    rw [List.cons_append, tokens?, if_pos first, ih others]

theorem tokens?_append_of_lexeme {lexeme : List Char} (isLexeme : Lexeme token lexeme)
    (ends : token.EndsBefore rest) :
    tokens? (lexeme ++ rest) = (tokens? rest).map (token :: ·) := by
  cases lexeme with
  | nil => exact absurd rfl isLexeme.ne_nil
  | cons c lexeme =>
    obtain ⟨short, scans⟩ := scanToken?_of_lexeme isLexeme ends
    rw [List.cons_append, tokens?, if_neg (by simp [isSpace_of_lexeme isLexeme]), scans]

theorem Spells.cons_blank (spelled : Spells tokens cs) (space : isSpace c = true) :
    Spells tokens (c :: cs) := by
  cases spelled with
  | nil blank => exact .nil (List.forall_mem_cons.mpr ⟨space, blank⟩)
  | cons blank isLexeme ends others =>
    exact .cons (List.forall_mem_cons.mpr ⟨space, blank⟩) isLexeme ends others

theorem spells_of_tokens? (reads : tokens? cs = some tokens) : Spells tokens cs := by
  fun_induction tokens? cs generalizing tokens with
  | case1 =>
    cases reads
    exact .nil (by simp)
  | case2 c cs space ih => exact (ih reads).cons_blank space
  | case3 => cases reads
  | case4 c cs _ token rest scans ih =>
    obtain ⟨others, found, rfl⟩ := Option.map_eq_some_iff.mp reads
    obtain ⟨lexeme, front, isLexeme, ends⟩ := lexeme_of_scanToken? scans
    rw [front]
    exact Spells.cons (List.forall_mem_nil _) isLexeme ends (ih found)

theorem tokens?_of_spells (spelled : Spells tokens cs) : tokens? cs = some tokens := by
  induction spelled with
  | @nil blanks blank => rw [← List.append_nil blanks, tokens?_append_of_blank blank, tokens?]
  | cons blank isLexeme ends _ ih =>
    rw [tokens?_append_of_blank blank, tokens?_append_of_lexeme isLexeme ends, ih, Option.map_some]

/-- **A text is read as tokens exactly if it spells them**, and as these. -/
theorem tokens?_eq_some_iff : tokens? cs = some tokens ↔ Spells tokens cs :=
  ⟨spells_of_tokens?, tokens?_of_spells⟩

end Listing.Json
