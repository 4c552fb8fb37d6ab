import Termbase.Ontology.Node

/-! The graph of an ontology: its nodes in the order in which they are met, an edge for each triple, and the
nodes that are subjects. -/

namespace Termbase.Ontology

open Rdf

/-- Nodes are given by their place. -/
structure Edge where
  source : Nat
  predicate : Name
  target : Nat
deriving DecidableEq, Repr

structure Graph where
  nodes : List Node
  edges : List Edge
  subjects : List Nat
deriving DecidableEq, Repr

namespace Graph

def empty : Graph := ⟨[], [], []⟩

def place (graph : Graph) (node : Node) : Nat × Graph :=
  match graph.nodes.idxOf? node with
  | some index => (index, graph)
  | none => (graph.nodes.length, { graph with nodes := graph.nodes ++ [node] })

def addSubject (graph : Graph) (index : Nat) : Graph :=
  if graph.subjects.contains index then graph
  else { graph with subjects := graph.subjects ++ [index] }

def link (graph : Graph) (subject predicate : Name) (object : Node) : Graph :=
  let (source, graph) := graph.place (.named subject)
  let (target, graph) := graph.place object
  let graph := graph.addSubject source
  { graph with edges := graph.edges ++ [⟨source, predicate, target⟩] }

/-- Adds a statement about an identifier. One about another subject, or with an object that has no node, is
passed over. -/
def add (graph : Graph) (statement : Statement) : Graph :=
  match statement.triple.subject, Node.ofTerm? statement.scope statement.triple.object with
  | .iri subject, some object =>
      graph.link (.ofIri statement.scope subject) (.ofIri statement.scope statement.triple.predicate) object
  | _, _ => graph

def ofStatements (statements : List Statement) : Graph := statements.foldl add empty

def outgoing (graph : Graph) (index : Nat) : List Edge := graph.edges.filter (·.source == index)

def objects (graph : Graph) (index : Nat) (predicates : List Iri) : List Node :=
  (graph.outgoing index).filterMap fun edge =>
    if predicates.contains edge.predicate.iri then graph.nodes[edge.target]? else none

def hasType (graph : Graph) (index : Nat) (types : List Iri) : Bool :=
  (graph.objects index [rdfType]).any fun object => object.iri?.any types.contains

end Graph

end Termbase.Ontology
