import Termbase.Namespace

/-! A vocabulary: a set of terms that share a namespace, in the order in which codes are given out. -/

namespace Termbase

structure NamedTerm where
  name : Text
  localName : Text
deriving DecidableEq, Repr

/-- The namespace itself may be a term; it is the first one then. -/
structure Vocabulary where
  title : Text
  namespaceIri : Iri
  label : Text
  listsNamespace : Bool
  named : List NamedTerm
deriving DecidableEq, Repr

namespace Vocabulary

def namedTerms (table : List (String × String)) : List NamedTerm :=
  table.map fun entry => ⟨entry.1.toList, entry.2.toList⟩

def iriOf (vocabulary : Vocabulary) (term : NamedTerm) : Iri :=
  vocabulary.namespaceIri ++ term.localName

def terms (vocabulary : Vocabulary) : List Iri :=
  (if vocabulary.listsNamespace then [vocabulary.namespaceIri] else []) ++
    vocabulary.named.map vocabulary.iriOf

def space (vocabulary : Vocabulary) : Namespace := ⟨vocabulary.label, vocabulary.namespaceIri⟩

def term? (vocabulary : Vocabulary) (localName : Text) : Option Iri :=
  vocabulary.terms.find? fun term =>
    Text.stripPrefix? vocabulary.namespaceIri term == some localName

def contains (vocabulary : Vocabulary) (iri : Iri) : Bool := vocabulary.terms.contains iri

/-- The constants by name: the namespace as text, the label, the namespace as a term, and all terms. -/
def constants (vocabulary : Vocabulary) : List (Text × Text) :=
  [("NS_BASE".toList, vocabulary.namespaceIri), ("NS_PREFERRED_PREFIX".toList, vocabulary.label)] ++
    (("NAMESPACE".toList, vocabulary.namespaceIri) ::
      vocabulary.named.map fun term => (term.name, vocabulary.iriOf term)).mergeSort
        fun left right => Text.le left.1 right.1

def constant? (vocabulary : Vocabulary) (name : Text) : Option Text :=
  (vocabulary.constants.find? fun entry => entry.1 == name).map (·.2)

end Vocabulary

end Termbase
