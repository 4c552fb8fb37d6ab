import Termbase.Code.Json
import Termbase.Dictionary

/-! The JSON form of a dictionary: an object with a member for each identifier, sorted, whose values are
codes in hexadecimal. -/

namespace Termbase.Dictionary

open Json

def toJson (dictionary : Dictionary) : Text :=
  writeIndentedObject (dictionary.sorted.map fun entry => (entry.1, entry.2.toJson))

/-- Puts a pair into its place in a sorted list; a pair with the same key gives way. -/
def place (key : Text) (code : Code) : List (Text × Code) → List (Text × Code)
  | [] => [(key, code)]
  | entry :: rest =>
      if entry.1 = key then (key, code) :: rest
      else if Text.le key entry.1 then (key, code) :: entry :: rest
      else entry :: place key code rest

def readEntry : MemberReader (List (Text × Code)) := fun entries key tokens => do
  let (code, rest) ← readMember Code.read tokens
  return (place key code entries, rest)

/-- The members of an object, sorted; of two with one key the later one counts. -/
def readEntries : Reader (List (Text × Code))
  | .openBrace :: tokens => readObjectBody readEntry [] tokens
  | tokens => .error (faultOf tokens)

def insertValid (dictionary : Dictionary) : List (Text × Code) → Except CoderError Dictionary
  | [] => .ok dictionary
  | (key, code) :: rest =>
      match Iri.checkAbsolute key with
      | .error error => .error (.invalidIri error)
      | .ok _ => do (← dictionary.insert key code).insertValid rest

def ofJson (text : Text) : Except CoderError Dictionary :=
  match readText readEntries text with
  | .error error => .error (.json error)
  | .ok entries => empty.insertValid entries

end Termbase.Dictionary
