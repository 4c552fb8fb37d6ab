import Termbase.Ontology.Outline
import Termbase.Text.WordCase

/-! The names of the constants of a vocabulary's terms: the local name in capitals, marked for a deprecated
term and for a class that shares its name with a property, and numbered where names still clash. -/

namespace Termbase.TermModule

def baseName (entry : TermEntry) : Text :=
  (if entry.deprecation.isMarked then "DEPRECATED_".toList else []) ++ constantCase entry.localName

def propertyNames (entries : List TermEntry) : List Text :=
  (entries.filter (!·.isClass)).map baseName

def wantedName (entries : List TermEntry) (entry : TermEntry) : Text :=
  let base := baseName entry
  if entry.isClass && (propertyNames entries).contains base then base ++ "_CLASS".toList else base

def numbered (name : Text) (number : Nat) : Text := name ++ ['_', '_'] ++ Text.ofNat number

/-- The name with the least number from the given one on that is not taken; the count bounds the search. -/
def numberedFrom (taken : List Text) (name : Text) : (count number : Nat) → Text
  | 0, number => numbered name number
  | count + 1, number =>
      if taken.contains (numbered name number) then numberedFrom taken name count (number + 1)
      else numbered name number

def freeName (taken : List Text) (name : Text) : Text :=
  if taken.contains name then numberedFrom taken name taken.length 2 else name

def freeNames (taken : List Text) : List Text → List Text
  | [] => []
  | name :: rest => freeName taken name :: freeNames (freeName taken name :: taken) rest

def constantNames (entries : List TermEntry) : List Text :=
  freeNames [] (entries.map (wantedName entries))

end Termbase.TermModule
