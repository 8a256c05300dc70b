import Listing.Json
import Listing.Json.Token

/-!
# `Listing/Json/Reader.lean` — from tokens to a value

Values nest without limit, so the reader does not recurse into them. It goes through the tokens
once and keeps the containers that are still open on a stack of `Frame`s; a `State` says what the
next token may be. Each step looks at one token and either moves on or finds it out of place, and
a text is read when the last token has completed a value with no container left open.
-/

set_option autoImplicit false

namespace Listing.Json

/-- A container that is still open, and in which a value is being read. What it holds so far is
listed last first. -/
inductive Frame where
  | array (items : List Json)
  | object (members : List (Option String × Json)) (name : Option String)

/-- What may come next. -/
inductive State where
  /-- A value must begin. -/
  | value
  /-- An array has been opened. -/
  | firstItem
  /-- An object has been opened. -/
  | firstMember
  /-- The name of another member must come. -/
  | member (members : List (Option String × Json))
  /-- The colon after a name must come. -/
  | colon (members : List (Option String × Json)) (name : Option String)
  /-- A value is complete. -/
  | complete (json : Json)

/-- The value of a token that is one by itself. -/
def Token.scalar? : Token → Option Json
  | .null => some .null
  | .boolean truth => some (.boolean truth)
  | .number literal => some (.number literal)
  | .string text => some (.string text)
  | _ => none

def start? (frames : List Frame) : Token → Option (List Frame × State)
  | .openBracket => some (frames, .firstItem)
  | .openBrace => some (frames, .firstMember)
  | token => token.scalar?.map fun json => (frames, .complete json)

def step? : List Frame × State → Token → Option (List Frame × State)
  | (frames, .value), token => start? frames token
  | (frames, .firstItem), .closeBracket => some (frames, .complete (.array []))
  | (frames, .firstItem), token =>
    start? (.array [] :: frames) token
  | (frames, .firstMember), .closeBrace => some (frames, .complete (.object []))
  | (frames, .firstMember), .string name => some (frames, .colon [] name)
  | (frames, .member members), .string name => some (frames, .colon members name)
  | (frames, .colon members name), .colon => some (.object members name :: frames, .value)
  | (.array items :: frames, .complete json), .comma =>
    some (.array (json :: items) :: frames, .value)
  | (.array items :: frames, .complete json), .closeBracket =>
    some (frames, .complete (.array (json :: items).reverse))
  | (.object members name :: frames, .complete json), .comma =>
    some (frames, .member ((name, json) :: members))
  | (.object members name :: frames, .complete json), .closeBrace =>
    some (frames, .complete (.object ((name, json) :: members).reverse))
  | _, _ => none

/-- The value that a reading has come to, if it may end there. -/
def result? : List Frame × State → Option Json
  | ([], .complete json) => some json
  | _ => none

def read? (text : String) : Option Json := do
  let tokens ← tokens? text.toList
  result? (← tokens.foldlM step? ([], .value))

end Listing.Json
