import Listing.Json.Reader
import Listing.Operand

/-!
# `Listing/Settings.lean` — what a host decides

A host sets how large a page is when nobody says, how large it may be, how boolean operands are
read and from which number of records on filtering is split into tasks. Each setting has a
default, so settings may be given in part, or not at all.

Settings are read from a JSON text in two steps with different faults. First the *shape*: the text
must be an object of settings, or an array of them in the order of the fields here. Then the
*values*: a page of no elements, or a maximum below the default, is refused by `check`. Settings
made in another way are used as they are.
-/

set_option autoImplicit false

namespace Listing

/-- What a host decides. -/
structure Settings where
  /-- The size of a page for a request that names none. -/
  defaultPageSize : UInt64 := 25
  /-- The largest size of a page. -/
  maxPageSize : UInt64 := 500
  /-- How boolean operands are read. -/
  booleanReading : BooleanReading := .lenient
  /-- The number of records from which on filtering is split into tasks. -/
  parallelThreshold : UInt64 := 4096
  deriving DecidableEq

namespace Settings

/-- The settings of a host that decides nothing. -/
def default : Settings :=
  {}

/-- Refuses page sizes that cannot be used. -/
def check (settings : Settings) : Except Fault Unit :=
  if settings.defaultPageSize = 0 then .error (.badSettings .defaultZero)
  else if settings.maxPageSize < settings.defaultPageSize then
    .error (.badSettings (.maximumBelowDefault settings.maxPageSize settings.defaultPageSize))
  else .ok ()

/-! ## Reading -/

/-- The names of the settings in a text, in their order. -/
def names : List String :=
  ["defaultPageSize", "maxPageSize", "booleanParsing", "parallelThreshold"]

def readingOfJson? (json : Json) : Option BooleanReading :=
  json.alternative?.bind BooleanReading.ofName?

/-- The settings that a JSON value gives; what it does not give is as by default. -/
def ofJson? (json : Json) : Option Settings :=
  match json.slots? names with
  | some [defaultPageSize, maxPageSize, booleanReading, parallelThreshold] => do
    return {
      defaultPageSize := ← Json.fill? Json.uint64? default.defaultPageSize defaultPageSize
      maxPageSize := ← Json.fill? Json.uint64? default.maxPageSize maxPageSize
      booleanReading := ← Json.fill? readingOfJson? default.booleanReading booleanReading
      parallelThreshold := ← Json.fill? Json.uint64? default.parallelThreshold parallelThreshold
    }
  | _ => none

/-- Reads settings that can be used. -/
def read (text : String) : Except Fault Settings :=
  match (Json.read? text).bind ofJson? with
  | none => .error (.badSettings .notSettings)
  | some settings => do
    settings.check
    return settings

theorem check_of_read {text : String} {settings : Settings} (h : read text = .ok settings) :
    settings.check = .ok () := by
  unfold read at h
  split at h
  · contradiction
  · next found _ =>
    cases checked : found.check with
    | error fault => simp [checked, bind, Except.bind] at h
    | ok _ =>
      simp only [checked, bind, Except.bind, pure, Except.pure, Except.ok.injEq] at h
      rw [← h, checked]

/-! ## Files -/

/-- What is found in the place of a settings file. -/
inductive File where
  | nothing
  | directory
  | content (bytes : ByteArray)

/-- Reads settings that can be used from a file of UTF-8 text. -/
def ofFile : File → Except Fault Settings
  | .nothing => .error (.badFile .notFound)
  | .directory => .error (.badFile .isDirectory)
  | .content bytes =>
    match String.fromUTF8? bytes with
    | some text => read text
    | none => .error (.badFile .notText)

end Settings

end Listing
