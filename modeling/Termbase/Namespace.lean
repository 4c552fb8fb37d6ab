import Termbase.Iri.Syntax

/-! A namespace: the beginning that the identifiers of a vocabulary share, and its short label. -/

namespace Termbase

structure Namespace where
  label : Text
  iri : Iri
deriving DecidableEq, Repr

namespace Namespace

def make (label : Text) (iri : Text) : Except IriError Namespace := do
  Iri.checkReference iri
  return ⟨label, iri⟩

def base? (space : Namespace) : Option Text :=
  (Text.stripSuffix? ['#'] space.iri).orElse fun _ => Text.stripSuffix? ['/'] space.iri

def emptyLabelId : Text := "__NO_PREFIX_ID__".toList

def labelId (space : Namespace) : Text := if space.label.isEmpty then emptyLabelId else space.label

/-- What follows the namespace in an identifier; the namespace itself has no local name. -/
def localName? (space : Namespace) (iri : Iri) : Option Text :=
  (Text.stripPrefix? space.iri iri).filter (!·.isEmpty)

def contains (space : Namespace) (iri : Iri) : Bool := (space.localName? iri).isSome

def declaration (space : Namespace) : Text :=
  "@prefix ".toList ++ space.label ++ ": <".toList ++ space.iri ++ "> .".toList

end Namespace

end Termbase
