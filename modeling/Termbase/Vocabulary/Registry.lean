import Termbase.Vocabulary.DublinCore
import Termbase.Vocabulary.DublinCoreTerms
import Termbase.Vocabulary.Foaf
import Termbase.Vocabulary.Music
import Termbase.Vocabulary.Owl
import Termbase.Vocabulary.Rdf
import Termbase.Vocabulary.RdfSchema
import Termbase.Vocabulary.Skos
import Termbase.Vocabulary.XmlSchema

/-! The known vocabularies, in the order in which their terms are given codes, and look-ups among them. -/

namespace Termbase.Registry

def known : List Vocabulary :=
  [Vocabulary.rdf, Vocabulary.rdfSchema, Vocabulary.xmlSchema, Vocabulary.owl, Vocabulary.dublinCore,
    Vocabulary.dublinCoreTerms, Vocabulary.skos, Vocabulary.foaf, Vocabulary.music]

def byLabel? (label : Text) : Option Vocabulary := known.find? (·.label == label)

def byNamespace? (namespaceIri : Iri) : Option Vocabulary :=
  known.find? (·.namespaceIri == namespaceIri)

def allTerms : List Iri := known.flatMap (·.terms)

/-- Each term with its vocabulary; of two entries for one term the later one counts. -/
def index : List (Iri × Vocabulary) :=
  known.flatMap fun vocabulary => vocabulary.terms.map (·, vocabulary)

def indexed? (iri : Iri) : Option (Iri × Vocabulary) := index.reverse.find? (·.1 == iri)

def vocabularyOf? (iri : Iri) : Option Vocabulary := (indexed? iri).map (·.2)

def lookup? (iri : Iri) : Option Iri := (indexed? iri).map (·.1)

end Termbase.Registry
