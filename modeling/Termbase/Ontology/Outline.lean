import Termbase.Event
import Termbase.Ontology.Graph
import Termbase.Ontology.TermOrder
import Termbase.Text.Blank

/-! The outline of a vocabulary: what an ontology says of it and of each of its terms. Of several values for
one property the first in the source counts. -/

namespace Termbase

/-- The text and the date are empty where the ontology gives none. -/
structure Deprecation where
  isMarked : Bool
  since : Text
  advice : Text
deriving DecidableEq, Repr

def Deprecation.none : Deprecation := ⟨false, [], []⟩

structure TermEntry where
  localName : Text
  title : Option Text
  description : Option Text
  isClass : Bool
  deprecation : Deprecation
deriving DecidableEq, Repr

def TermEntry.documentation (entry : TermEntry) : Text :=
  match entry.description.or entry.title with
  | some text => Text.trim text
  | Option.none => "No description found for ".toList ++ entry.localName

structure Outline where
  title : Option Text
  description : Option Text
  label : Option Text
  namespaceIri : Option Iri
  entries : List TermEntry
deriving DecidableEq, Repr

inductive OutlineError
  | noOntology
  | notALiteral (subject predicate found : Text)
  | noSuchNode (index : Nat)
deriving DecidableEq, Repr

def OutlineError.message : OutlineError → String
  | .noOntology => "No owl:Ontology subject found!"
  | .notALiteral subject predicate found =>
      s!"Expected a literal as the object of {String.ofList subject} {String.ofList predicate}, " ++
        s!"got {String.ofList found}"
  | .noSuchNode index => s!"Graph node {index} does not exist"

namespace Ontology

def owlTerm (localName : String) : Iri := "http://www.w3.org/2002/07/owl#".toList ++ localName.toList

def rdfsTerm (localName : String) : Iri := "http://www.w3.org/2000/01/rdf-schema#".toList ++ localName.toList

def dctermsTerm (localName : String) : Iri := "http://purl.org/dc/terms/".toList ++ localName.toList

def vannTerm (localName : String) : Iri := "http://purl.org/vocab/vann/".toList ++ localName.toList

def titles : List Iri := [dctermsTerm "title", rdfsTerm "label"]

def descriptions : List Iri := [dctermsTerm "description", rdfsTerm "comment"]

def classTypes : List Iri := [owlTerm "Class", rdfsTerm "Class"]

def deprecatedTypes : List Iri := [owlTerm "DeprecatedClass", owlTerm "DeprecatedProperty"]

def ontologyType : Iri := owlTerm "Ontology"

def preferredLabel : Iri := vannTerm "preferredNamespacePrefix"

def preferredNamespace : Iri := vannTerm "preferredNamespaceUri"

def status : Iri := "http://www.w3.org/2003/06/sw-vocab-status/ns#term_status".toList

def deprecatedFlag : Iri := owlTerm "deprecated"

def deprecatedOn : Iri := "http://creativecommons.org/ns#deprecatedOn".toList

def supersededBy : Iri := "http://schema.org/supersededBy".toList

def ontologyLiterals : List Iri := [preferredLabel, preferredNamespace] ++ titles ++ descriptions

def termLiterals : List Iri := titles ++ descriptions ++ [status, deprecatedFlag, deprecatedOn]

namespace Graph

def literalText (graph : Graph) (subject : Nat) (predicate : Node) (object : Nat) :
    Except OutlineError Text :=
  match graph.nodes[object]? with
  | none => .error (.noSuchNode object)
  | some (.literal text) => .ok text
  | some (.named found) =>
      match graph.nodes[subject]? with
      | none => .error (.noSuchNode subject)
      | some node => .error (.notALiteral node.display predicate.display found.display)

/-- Refuses edges with one of the predicates that lead to no literal; of several the last one is reported. -/
def checkLiterals (graph : Graph) (index : Nat) (predicates : List Iri) : Except OutlineError Unit :=
  (graph.outgoing index).reverse.forM fun edge =>
    if predicates.contains edge.predicate.iri then
      (graph.literalText index (.named edge.predicate) edge.target).map fun _ => ()
    else .ok ()

def firstText? (graph : Graph) (index : Nat) (predicates : List Iri) : Option Text :=
  (graph.objects index predicates).findSome? Node.literal?

def hasWord (graph : Graph) (index : Nat) (predicate : Iri) (word : Text) : Bool :=
  (graph.objects index [predicate]).any fun object =>
    object.literal?.any (Text.equalIgnoringAsciiCase word)

def ontology? (graph : Graph) : Option Nat :=
  graph.subjects.find? fun index => graph.hasType index [ontologyType]

def deprecation (graph : Graph) (index : Nat) : Deprecation where
  isMarked := graph.hasType index deprecatedTypes ||
    graph.hasWord index status "deprecated".toList || graph.hasWord index deprecatedFlag "true".toList
  since := (graph.firstText? index [deprecatedOn]).getD []
  advice :=
    match (graph.objects index [supersededBy]).head? with
    | some object => "Use this instead: ".toList ++ object.display
    | none => []

/-- The local name of a term: what follows the namespace, or what follows the label if no namespace is
given. -/
def localName? (namespaceIri : Option Iri) : Node → Option Text
  | .literal _ => none
  | .named name =>
      match namespaceIri, name with
      | some start, _ => (Text.stripPrefix? start name.iri).filter (!·.isEmpty)
      | none, .labelled _ localName _ => some localName
      | none, _ => none

def entryOf (graph : Graph) (index : Nat) (localName : Text) : Except OutlineError TermEntry := do
  graph.checkLiterals index termLiterals
  return {
    localName
    title := graph.firstText? index titles
    description := graph.firstText? index descriptions
    isClass := graph.hasType index classTypes
    deprecation := graph.deprecation index }

def entryOrStranger (graph : Graph) (namespaceIri : Option Iri) (index : Nat) :
    Except OutlineError (Node ⊕ TermEntry) :=
  match graph.nodes[index]? with
  | none => .error (.noSuchNode index)
  | some node =>
      match localName? namespaceIri node with
      | none => .ok (.inl node)
      | some localName => (graph.entryOf index localName).map .inr

def entries (graph : Graph) (namespaceIri : Option Iri) : List Nat → Except OutlineError (List TermEntry)
  | [] => .ok []
  | index :: rest => do
      let found ← graph.entryOrStranger namespaceIri index
      let others ← graph.entries namespaceIri rest
      match found with
      | .inl _ => return others
      | .inr entry => return entry :: others

def candidates (graph : Graph) (ontology : Nat) : List Nat := graph.subjects.filter (· != ontology)

def outline (graph : Graph) (order : TermOrder) : Except OutlineError Outline :=
  match graph.ontology? with
  | none => .error .noOntology
  | some ontology => do
      graph.checkLiterals ontology ontologyLiterals
      let namespaceIri := graph.firstText? ontology [preferredNamespace]
      let entries ← graph.entries namespaceIri (graph.candidates ontology)
      return {
        title := graph.firstText? ontology titles
        description := graph.firstText? ontology descriptions
        label := graph.firstText? ontology [preferredLabel]
        namespaceIri
        entries := order.arrange (·.localName) entries }

/-- Subjects outside of the namespace are passed over with a warning, up to the first failure. -/
def strangerEvents (graph : Graph) (namespaceIri : Option Iri) : List Nat → List Event
  | [] => []
  | index :: rest =>
      match graph.entryOrStranger namespaceIri index with
      | .error _ => []
      | .ok (.inr _) => graph.strangerEvents namespaceIri rest
      | .ok (.inl node) =>
          .warning ("Ignoring subject outside of the vocabulary namespace: " ++
            String.ofList node.display) :: graph.strangerEvents namespaceIri rest

def outlineEvents (graph : Graph) : List Event :=
  match graph.ontology? with
  | none => []
  | some ontology =>
      match graph.checkLiterals ontology ontologyLiterals with
      | .error _ => []
      | .ok _ =>
          graph.strangerEvents (graph.firstText? ontology [preferredNamespace])
            (graph.candidates ontology)

end Graph

end Ontology

end Termbase
