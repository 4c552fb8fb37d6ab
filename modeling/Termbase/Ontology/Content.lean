import Termbase.Event
import Termbase.Ontology.Graph
import Termbase.Rdf.Document
import Termbase.Rdf.Term.Description

/-! What a document says: the graph of its triples, and the abbreviations at its end. -/

namespace Termbase.Ontology

open Rdf

structure Content where
  graph : Graph
  ending : Scope
deriving DecidableEq, Repr

namespace Content

def ofReading? (reading : Reading) : Option Content :=
  reading.ending.map fun ending => ⟨.ofStatements reading.statements, ending⟩

def read? (format : Format) (document : List UInt8) : Option Content :=
  ofReading? (format.read document)

/-- A statement whose object is a triple is passed over with a warning. -/
def eventOf? (statement : Statement) : Option Event :=
  match statement.triple.subject, statement.triple.object with
  | .iri _, .quoted subject predicate object =>
      some (.warning ("Triple objects are not supported -> ignored! " ++
        describeTriple subject predicate object))
  | _, _ => none

def events (reading : Reading) : List Event := reading.statements.filterMap eventOf?

end Content

end Termbase.Ontology
