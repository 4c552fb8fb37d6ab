import Termbase.Proofs.Ontology.Fault

/-! The graph of a document, read back: its edges give the triples again that were kept, in their order. -/

namespace Termbase.Ontology

open Rdf

def Node.value : Node → Value
  | .named name => .iri name.iri
  | .literal text => .literal text

/-- The triple that an edge stands for, with its names written out. -/
def Graph.expand? (graph : Graph) (edge : Edge) : Option PlainTriple :=
  match graph.nodes[edge.source]?, graph.nodes[edge.target]? with
  | some (.named subject), some object => some ⟨subject.iri, edge.predicate.iri, object.value⟩
  | _, _ => none

/-- Each node is held once and is an end of an edge, each triple has an edge of its own, and the subjects are
the nodes from which edges start, in the order in which they are met. -/
structure Graph.Records (graph : Graph) (triples : List PlainTriple) : Prop where
  distinct : graph.nodes.Nodup
  used : ∀ index < graph.nodes.length, ∃ edge ∈ graph.edges, edge.source = index ∨ edge.target = index
  edges : graph.edges.map graph.expand? = triples.map some
  sources : graph.subjects = (graph.edges.map (·.source)).eraseDups
  once : graph.subjects.Nodup
  named : ∀ index ∈ graph.subjects, ∃ name, graph.nodes[index]? = some (.named name)

def Fact.plain (fact : Fact) : PlainTriple := ⟨fact.subject.iri, fact.predicate.iri, fact.object.value⟩

theorem value_nodeOf (scope : Scope) (value : Value) : (nodeOf scope value).value = value := by
  cases value <;> simp [nodeOf, Node.value]

theorem plain_factIn (scope : Scope) (triple : PlainTriple) : (factIn scope triple).plain = triple := by
  simp [factIn, Fact.plain, value_nodeOf]

theorem map_plain_factsOf (reading : Reading) :
    (factsOf reading.statements).map Fact.plain = plainTriples reading := by
  rw [factsOf, plainTriples, List.map_filterMap]
  apply List.filterMap_congr
  intro statement _
  rw [factOf?_eq, Option.map_map]
  cases plain? statement.triple with
  | none => rfl
  | some triple => exact congrArg some (plain_factIn statement.scope triple)

section Record

variable {facts : List Fact} {fact : Fact}

theorem expand?_edgeOf (member : fact ∈ facts) :
    (record facts).expand? (edgeOf (nodesOf facts) fact) = some fact.plain := by
  have source : (nodesOf facts)[(nodesOf facts).idxOf (.named fact.subject)]? = some (.named fact.subject) :=
    List.getElem?_idxOf (mem_nodesOf.mpr ⟨fact, member, Or.inl rfl⟩)
  have target : (nodesOf facts)[(nodesOf facts).idxOf fact.object]? = some fact.object :=
    List.getElem?_idxOf (mem_nodesOf.mpr ⟨fact, member, Or.inr rfl⟩)
  simp only [Graph.expand?, record, edgeOf, source, target]
  rfl

theorem nodup_nodesOf (facts : List Fact) : (nodesOf facts).Nodup := nodup_eraseDups _

theorem idxOf_named_inj {left right : Name} (leftIn : left ∈ subjectsOf facts)
    (same : (nodesOf facts).idxOf (.named left) = (nodesOf facts).idxOf (.named right)) : left = right := by
  simpa using (List.idxOf_inj (subject_mem_nodesOf leftIn)).mp same

theorem subjects_record (facts : List Fact) :
    (record facts).subjects = ((record facts).edges.map (·.source)).eraseDups := by
  have sources : (record facts).edges.map (·.source) =
      (facts.map (·.subject)).map fun subject => (nodesOf facts).idxOf (.named subject) := by
    rw [record, List.map_map, List.map_map]
    rfl
  rw [sources, eraseDups_map_of_injOn]
  · rfl
  · intro left leftIn right _
    exact idxOf_named_inj (List.mem_eraseDups.mpr leftIn)

theorem exists_edge_of_lt {index : Nat} (bound : index < (nodesOf facts).length) :
    ∃ edge ∈ (record facts).edges, edge.source = index ∨ edge.target = index := by
  have place : (nodesOf facts).idxOf (nodesOf facts)[index] = index := (nodup_nodesOf facts).idxOf_getElem index bound
  obtain ⟨fact, member, isEnd⟩ := mem_nodesOf.mp (List.getElem_mem bound)
  refine ⟨edgeOf (nodesOf facts) fact, List.mem_map_of_mem member, ?_⟩
  rcases isEnd with isSubject | isObject
  · exact Or.inl (by rw [edgeOf, ← isSubject, place])
  · exact Or.inr (by rw [edgeOf, ← isObject, place])

theorem records_record (facts : List Fact) : (record facts).Records (facts.map Fact.plain) := by
  constructor
  · exact nodup_nodesOf facts
  · intro index bound
    exact exists_edge_of_lt bound
  · rw [record, List.map_map, List.map_map]
    exact List.map_congr_left fun fact member => expand?_edgeOf member
  · exact subjects_record facts
  · rw [subjects_record]
    exact nodup_eraseDups _
  · intro index member
    obtain ⟨subject, inside, rfl⟩ := List.mem_map.mp member
    exact ⟨subject, nodes_record inside⟩

theorem outline_record_ne_noSuchNode (facts : List Fact) (order : TermOrder) (index : Nat) :
    (record facts).outline order ≠ .error (.noSuchNode index) := by
  intro failed
  rcases Graph.outline_error_kind (Graph.placed_record facts) failed with ⟨_, kind⟩ | ⟨_, _, _, kind⟩
  · cases kind
  · cases kind

end Record

/-- Whatever a document says, and whatever it declares between its triples, its graph is a record of the triples
that are kept: names are undone by writing them out, and no place without a node is met, whichever way the
outline is made. -/
theorem graph_records_triples (statements : List Statement) (ending : Scope) :
    ∃ content, Content.ofReading? ⟨statements, some ending⟩ = some content ∧ content.ending = ending ∧
      content.graph.Records (plainTriples ⟨statements, some ending⟩) ∧
      (∀ scope iri, (Name.ofIri scope iri).iri = iri) ∧
      ∀ order index, content.graph.walk order ≠ .error (.noSuchNode index) ∧
        content.graph.outline order ≠ .error (.noSuchNode index) := by
  refine ⟨⟨.ofStatements statements, ending⟩, rfl, rfl, ?_, Name.iri_ofIri, ?_⟩
  · rw [← map_plain_factsOf]
    simp only [ofStatements_eq_record]
    exact records_record (factsOf statements)
  · intro order index
    simp only [ofStatements_eq_record]
    rw [Graph.walk_eq_outline (Graph.closed_record _)]
    exact ⟨outline_record_ne_noSuchNode _ order index, outline_record_ne_noSuchNode _ order index⟩

end Termbase.Ontology
