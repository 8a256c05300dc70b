import Listing.Kind
import Listing.Operator

/-!
# `Listing/Fault.lean` — everything that can go wrong

One type for the faults of the whole library, each a *cause* with the data that its message needs.
The wording is apart from the causes, in the `message` functions at the end, so nothing decides by
looking into a text.

Two kinds of fault are not the fault of a request: unusable settings, and a settings file that
cannot be read. `Fault.isValidation` tells them from the rest.
-/

set_option autoImplicit false

namespace Listing

/-! ## Causes -/

/-- Why a text is not a condition. Offsets count the UTF-8 bytes of what was accepted before. -/
inductive ConditionCause where
  | blank
  | fieldMissing
  | markerMissing (offset : Nat)
  | fieldMalformed (field : String) (offset : Nat)
  | dotMissing (offset : Nat)
  | openingMissing (offset : Nat)
  | operatorMissing
  | operatorUnknown (word : String)
  | closingMissing (offset : Nat)
  deriving DecidableEq

/-- Why an operand is no value of a kind: it has the tag of another kind, or it is not written
like a value of this one. -/
inductive OperandCause where
  | foreignTag
  | notLiteral
  deriving DecidableEq

inductive SortCause where
  | blank
  | directionUnknown (direction text : String)
  | fieldMalformed (text : String)
  deriving DecidableEq

inductive WindowCause where
  | positionNegative (position : Int64)
  | sizeNotPositive (size : Int64)
  deriving DecidableEq

inductive SettingsCause where
  | notSettings
  | defaultZero
  | maximumBelowDefault (maximum default : UInt64)
  deriving DecidableEq

inductive FileCause where
  | notFound
  | isDirectory
  | notText
  deriving DecidableEq

inductive Fault where
  | badCondition (text : String) (cause : ConditionCause)
  | operandMissing (operator : Operator)
  | unsupported (operator : Operator) (kind : Kind)
  | badOperand (kind : Kind) (text : String) (cause : OperandCause)
  | unknownField (name : String)
  | badSortKey (cause : SortCause)
  | badWindow (cause : WindowCause)
  | badSettings (cause : SettingsCause)
  | badFile (cause : FileCause)
  deriving DecidableEq

/- Outcomes are compared, with each other and with a concrete one. -/
instance decidableEqExcept {ε α : Type} [DecidableEq ε] [DecidableEq α] :
    DecidableEq (Except ε α)
  | .error a, .error b => decidable_of_iff (a = b) (by rw [Except.error.injEq])
  | .ok a, .ok b => decidable_of_iff (a = b) (by rw [Except.ok.injEq])
  | .error _, .ok _ => isFalse nofun
  | .ok _, .error _ => isFalse nofun

/-- Whether the request is to blame, and not what the host has set up. -/
def Fault.isValidation : Fault → Bool
  | .badSettings _ | .badFile _ => false
  | _ => true

/-! ## Wording -/

/-- The marker that follows the field name of a condition. -/
def fieldMarker : String :=
  "()"

/-- What was found or missed in a text that is no condition. -/
def ConditionCause.message : ConditionCause → String
  | blank => "Empty predicate found"
  | fieldMissing => "Feature missing"
  | markerMissing offset => "Feature marker '" ++ fieldMarker ++ "' missing" ++ near offset
  | fieldMalformed field offset => "Malformed feature <" ++ field ++ ">" ++ near offset
  | dotMissing offset => "Expected '.' after feature" ++ near offset
  | openingMissing offset => "Missing '(' after operator" ++ near offset
  | operatorMissing => "Operator missing"
  | operatorUnknown word => "Invalid operator found: <" ++ word ++ ">"
  | closingMissing offset => "Missing closing ')'" ++ near offset
where
  /-- Where in the text it happened. -/
  near (offset : Nat) : String := " near byte " ++ toString offset

/-- What an operand must be instead. -/
def OperandCause.expected (kind : Kind) : OperandCause → String
  | foreignTag => "untagged or tagged " ++ kind.tag
  | notLiteral => match kind with
    | .string => "a text"
    | .date => "yyyyMMdd"
    | .boolean => "true or false"
    | .integer => "a base-10 integer"
    | .decimal => "a finite decimal number"

def SortCause.message : SortCause → String
  | blank => "empty sort clause"
  | directionUnknown direction text =>
    "unknown direction <" ++ direction ++ "> in <" ++ text ++ "> (expected asc or desc)"
  | fieldMalformed text => "malformed feature in <" ++ text ++ ">"

def WindowCause.message : WindowCause → String
  | positionNegative position => "position must not be negative, got " ++ toString position
  | sizeNotPositive size => "size must be positive, got " ++ toString size

def SettingsCause.message : SettingsCause → String
  | notSettings => "not a JSON text of the settings"
  | defaultZero => "defaultPageSize must be at least 1"
  | maximumBelowDefault maximum default =>
    "maxPageSize " ++ toString maximum ++ " is smaller than defaultPageSize " ++ toString default

def FileCause.message : FileCause → String
  | notFound => "no such file"
  | isDirectory => "is a directory"
  | notText => "not UTF-8 text"

/-- Where an operator has no meaning, the reason if there is more to say than that. -/
def unsupportedHint (operator : Operator) (kind : Kind) : String :=
  match operator, kind with
  | .containing, .date => ": substring matching on dates is undefined"
  | _, _ => ""

def Fault.message : Fault → String
  | badCondition text cause =>
    "invalid predicate found: <" ++ text ++ ">. " ++ cause.message ++
      ". Correct syntax is \x7bquantor\x7d\x7bfeature\x7d().\x7boperator\x7d(values)."
  | operandMissing operator => "operator " ++ operator.label ++ " requires at least one value"
  | unsupported operator kind =>
    "operator " ++ operator.label ++ " is not implemented for " ++ kind.name ++ " values" ++
      unsupportedHint operator kind
  | badOperand kind text cause =>
    "query contains incorrect " ++ kind.name ++ " value <" ++ text ++ ">; must be " ++
      cause.expected kind
  | unknownField name => "unknown feature: <" ++ name ++ ">"
  | badSortKey cause => "invalid sort predicate: " ++ cause.message
  | badWindow cause => "invalid page window: " ++ cause.message
  | badSettings cause => "invalid configuration: " ++ cause.message
  | badFile cause => "IO error: " ++ cause.message

end Listing
