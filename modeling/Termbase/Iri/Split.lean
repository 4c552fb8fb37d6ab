import Termbase.Text

/-! Where an identifier is cut into a namespace and a local name. -/

namespace Termbase

def splitAfterLast? (delimiter : Char) : Text → Option (Text × Text)
  | [] => none
  | c :: rest =>
      match splitAfterLast? delimiter rest with
      | some (before, after) => some (c :: before, after)
      | none => if c = delimiter then some ([c], rest) else none

/-- The cut is after the last number sign; without one, after the last slash; without that either, after
the last colon; and an identifier with none of them is a namespace as a whole. -/
def splitIri (iri : Text) : Text × Text :=
  match splitAfterLast? '#' iri with
  | some split => split
  | none =>
      match splitAfterLast? '/' iri with
      | some split => split
      | none => (splitAfterLast? ':' iri).getD (iri, [])

end Termbase
