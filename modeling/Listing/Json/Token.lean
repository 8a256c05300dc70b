import Listing.Number.Digits

/-!
# `Listing/Json/Token.lean` — the words of a JSON text

A JSON text is cut into tokens before its structure is looked at: brackets, commas and colons,
literals, and the blanks between them, of which JSON knows four. The reading is strict. A byte
order mark is not skipped, a number has no leading zero, and a control character in a string must
be escaped.

The two long tokens are read in two steps. A number is all the characters that could belong to one,
which must then have the right form together; so `1-2` is a bad number and not two tokens. A string
is first a list of characters and UTF-16 code units, the latter from its `\u` escapes, and then the
units are put together.
-/

set_option autoImplicit false

namespace Listing.Json

/-- A word of a JSON text. -/
inductive Token where
  | openBracket
  | closeBracket
  | openBrace
  | closeBrace
  | comma
  | colon
  | null
  | boolean (truth : Bool)
  | number (literal : List Char)
  | string (text : Option String)

/-! ## Numbers -/

def isNumberChar (c : Char) : Bool :=
  c.isDigit || c = '-' || c = '+' || c = '.' || c = 'e' || c = 'E'

/-- One or more digits, and nothing else. -/
def isDigits (cs : List Char) : Bool :=
  !cs.isEmpty && cs.all Char.isDigit

def isExponent : List Char → Bool
  | [] => true
  | c :: cs => (c = 'e' || c = 'E') && isDigits (Number.splitSign cs).2

/-- What may follow the digits before the point. -/
def isFraction : List Char → Bool
  | '.' :: cs => isDigits (cs.takeWhile Char.isDigit) && isExponent (cs.dropWhile Char.isDigit)
  | cs => isExponent cs

/-- Whether a text without a sign is a number. A zero stands alone before the point. -/
def isUnsigned (cs : List Char) : Bool :=
  let whole := cs.takeWhile Char.isDigit
  isDigits whole && (whole = ['0'] || whole.head? ≠ some '0') &&
    isFraction (cs.dropWhile Char.isDigit)

def isNumber : List Char → Bool
  | '-' :: cs => isUnsigned cs
  | cs => isUnsigned cs

/-! ## Strings -/

/-- A part of a string: a character, or a UTF-16 code unit given by its number. -/
inductive StringPart where
  | char (c : Char)
  | unit (n : Nat)

def hexValue? (c : Char) : Option Nat :=
  if c.isDigit then some (c.toNat - '0'.toNat)
  else if 'a' ≤ c ∧ c ≤ 'f' then some (c.toNat - 'a'.toNat + 10)
  else if 'A' ≤ c ∧ c ≤ 'F' then some (c.toNat - 'A'.toNat + 10)
  else none

def ofHex? (cs : List Char) : Option Nat :=
  (cs.mapM hexValue?).map fun digits => digits.foldl (16 * · + ·) 0

/-- The character that a backslash and a letter stand for. -/
def escape? : Char → Option Char
  | '"' => some '"'
  | '\\' => some '\\'
  | '/' => some '/'
  | 'b' => some '\x08'
  | 'f' => some '\x0c'
  | 'n' => some '\n'
  | 'r' => some '\r'
  | 't' => some '\t'
  | _ => none

/-- Reads a string up to and with its closing quote; the opening one has been read. -/
def scanString : List Char → Option (List StringPart × List Char)
  | [] => none
  | '"' :: cs => some ([], cs)
  | '\\' :: 'u' :: a :: b :: c :: d :: cs =>
    match ofHex? [a, b, c, d], scanString cs with
    | some n, some (parts, rest) => some (.unit n :: parts, rest)
    | _, _ => none
  | '\\' :: c :: cs =>
    match escape? c, scanString cs with
    | some c, some (parts, rest) => some (.char c :: parts, rest)
    | _, _ => none
  | c :: cs =>
    if c.toNat < 0x20 ∨ c = '\\' then none
    else (scanString cs).map fun (parts, rest) => (.char c :: parts, rest)

theorem length_lt_of_scanString {cs rest : List Char} {parts : List StringPart}
    (h : scanString cs = some (parts, rest)) : rest.length < cs.length := by
  fun_induction scanString cs generalizing parts rest with
  | case1 => contradiction
  | case2 => simp_all
  | case3 a b c d cs n parts' rest' scanned _ ih =>
    have := ih scanned
    simp_all
    omega
  | case4 => contradiction
  | case5 c cs _ e parts' rest' scanned _ ih =>
    have := ih scanned
    simp_all
    omega
  | case6 => contradiction
  | case7 => contradiction
  | case8 c cs _ _ _ plain ih =>
    simp only [Option.map_eq_some_iff, Prod.exists, Prod.mk.injEq] at h
    obtain ⟨_, _, scanned, _, rfl⟩ := h
    exact Nat.lt_succ_of_lt (ih scanned)

def isHighSurrogate (n : Nat) : Bool :=
  0xD800 ≤ n && n < 0xDC00

def isLowSurrogate (n : Nat) : Bool :=
  0xDC00 ≤ n && n < 0xE000

/-- Puts the parts of a string together, if every half of a pair has its other half. -/
def assemble? : List StringPart → Option (List Char)
  | [] => some []
  | .char c :: parts => (assemble? parts).map (c :: ·)
  | .unit high :: .unit low :: parts =>
    if isHighSurrogate high && isLowSurrogate low then
      (assemble? parts).map
        (Char.ofNat (0x10000 + (high - 0xD800) * 0x400 + (low - 0xDC00)) :: ·)
    else if isHighSurrogate high || isLowSurrogate high then none
    else (assemble? (.unit low :: parts)).map (Char.ofNat high :: ·)
  | .unit n :: parts =>
    if isHighSurrogate n || isLowSurrogate n then none
    else (assemble? parts).map (Char.ofNat n :: ·)

/-! ## Tokens -/

/-- Whether a character is one of the blanks between tokens. -/
def isSpace (c : Char) : Bool :=
  c = ' ' || c = '\t' || c = '\n' || c = '\r'

def punctuation? : Char → Option Token
  | '[' => some .openBracket
  | ']' => some .closeBracket
  | '\x7b' => some .openBrace
  | '\x7d' => some .closeBrace
  | ',' => some .comma
  | ':' => some .colon
  | _ => none

def word? (letters : List Char) : Option Token :=
  if letters = "null".toList then some .null
  else if letters = "true".toList then some (.boolean true)
  else if letters = "false".toList then some (.boolean false)
  else none

/-- Reads the token that a text begins with, a blank first character aside. -/
def scanToken? (c : Char) (cs : List Char) :
    Option (Token × { rest : List Char // rest.length ≤ cs.length }) :=
  match punctuation? c with
  | some token => some (token, ⟨cs, Nat.le_refl _⟩)
  | none =>
    if c = '"' then
      match h : scanString cs with
      | some (parts, rest) =>
        some (.string ((assemble? parts).map String.ofList),
          ⟨rest, Nat.le_of_lt (length_lt_of_scanString h)⟩)
      | none => none
    else if isNumberChar c then
      let literal := c :: cs.takeWhile isNumberChar
      let rest := cs.dropWhile isNumberChar
      if isNumber literal then
        some (.number literal, ⟨rest, (List.dropWhile_sublist _).length_le⟩)
      else
        none
    else
      (word? (c :: cs.takeWhile Char.isAlpha)).map fun token =>
        (token, ⟨cs.dropWhile Char.isAlpha, (List.dropWhile_sublist _).length_le⟩)

def tokens? : List Char → Option (List Token)
  | [] => some []
  | c :: cs =>
    if isSpace c then tokens? cs
    else
      match scanToken? c cs with
      | none => none
      | some (token, rest) => (tokens? rest.val).map (token :: ·)
termination_by cs => cs.length
decreasing_by
  · simp
  · exact Nat.lt_succ_of_le rest.property

end Listing.Json
