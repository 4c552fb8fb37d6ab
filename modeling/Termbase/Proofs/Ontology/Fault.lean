import Termbase.Proofs.Ontology.Outlined

/-! Why a graph has no outline: none of its subjects is an ontology, or an edge leads to a name although its
predicate asks for a literal. -/

namespace Termbase.Ontology

open Rdf

namespace Graph

structure Placed (graph : Graph) : Prop where
  closed : graph.Closed
  subjects : ∀ index ∈ graph.subjects, ∃ node, graph.nodes[index]? = some node

def Faulty (graph : Graph) (index : Nat) (predicates : List Iri) (error : OutlineError) : Prop :=
  ∃ edge ∈ graph.outgoing index, edge.predicate.iri ∈ predicates ∧ ∃ subject found,
    graph.nodes[index]? = some subject ∧ graph.nodes[edge.target]? = some (.named found) ∧
      error = .notALiteral subject.display edge.predicate.display found.display

section Errors

variable {graph : Graph} {namespaceIri : Option Iri} {error : OutlineError}

theorem faulty_of_checkLiterals {index : Nat} {node : Node} {predicates : List Iri} (closed : graph.Closed)
    (found : graph.nodes[index]? = some node) (failed : graph.checkLiterals index predicates = .error error) :
    graph.Faulty index predicates error := by
  obtain ⟨edge, member, failed⟩ := exists_of_forM_eq_error failed
  have outgoing : edge ∈ graph.outgoing index := List.mem_reverse.mp member
  obtain ⟨object, target⟩ := exists_target closed outgoing
  split at failed
  next about =>
    simp only [literalText, target, found] at failed
    cases object with
    | literal text => cases failed
    | named name =>
        cases failed
        exact ⟨edge, outgoing, by simpa using about, node, name, found, target, rfl⟩
  next => cases failed

theorem faulty_of_entryOrStranger {index : Nat} {node : Node} (closed : graph.Closed)
    (found : graph.nodes[index]? = some node)
    (failed : graph.entryOrStranger namespaceIri index = .error error) :
    (∃ entry, graph.entryAt? namespaceIri index = some entry) ∧ graph.Faulty index termLiterals error := by
  simp only [entryOrStranger, found] at failed
  cases named : localName? namespaceIri node with
  | none =>
      rw [named] at failed
      cases failed
  | some localName =>
      simp only [named, entryOf] at failed
      refine ⟨⟨describe (graph.objects index) localName, by simp [entryAt?, found, named]⟩, ?_⟩
      cases checked : graph.checkLiterals index termLiterals with
      | error reason =>
          rw [checked] at failed
          cases failed
          exact faulty_of_checkLiterals closed found checked
      | ok _ =>
          rw [checked] at failed
          cases failed

theorem faulty_of_entries {indices : List Nat} (closed : graph.Closed)
    (placed : ∀ index ∈ indices, ∃ node, graph.nodes[index]? = some node)
    (failed : graph.entries namespaceIri indices = .error error) :
    ∃ index ∈ indices, (∃ entry, graph.entryAt? namespaceIri index = some entry) ∧
      graph.Faulty index termLiterals error := by
  induction indices with
  | nil => cases failed
  | cons index rest ih =>
      rw [List.forall_mem_cons] at placed
      obtain ⟨node, found⟩ := placed.1
      rw [entries] at failed
      cases first : graph.entryOrStranger namespaceIri index with
      | error reason =>
          rw [first] at failed
          cases failed
          exact ⟨index, List.mem_cons_self, faulty_of_entryOrStranger closed found first⟩
      | ok outcome =>
          cases later : graph.entries namespaceIri rest with
          | error reason =>
              rw [first, later] at failed
              cases failed
              obtain ⟨other, member, faulty⟩ := ih placed.2 later
              exact ⟨other, List.mem_cons_of_mem index member, faulty⟩
          | ok entries =>
              rw [first, later] at failed
              cases outcome <;> cases failed

theorem outline_eq_error {order : TermOrder} (placed : graph.Placed)
    (failed : graph.outline order = .error error) :
    graph.ontology? = none ∧ error = .noOntology ∨
      ∃ ontology, graph.ontology? = some ontology ∧ (graph.Faulty ontology ontologyLiterals error ∨
        ∃ index ∈ graph.candidates ontology,
          (∃ entry, graph.entryAt? (graph.firstText? ontology [preferredNamespace]) index = some entry) ∧
            graph.Faulty index termLiterals error) := by
  unfold outline at failed
  cases chosen : graph.ontology? with
  | none =>
      rw [chosen] at failed
      cases failed
      exact Or.inl ⟨rfl, rfl⟩
  | some ontology =>
      simp only [chosen] at failed
      refine Or.inr ⟨ontology, rfl, ?_⟩
      obtain ⟨node, found⟩ := placed.subjects ontology (List.mem_of_find?_eq_some chosen)
      cases checked : graph.checkLiterals ontology ontologyLiterals with
      | error reason =>
          rw [checked] at failed
          cases failed
          exact Or.inl (faulty_of_checkLiterals placed.closed found checked)
      | ok _ =>
          rw [checked] at failed
          cases listed : graph.entries (graph.firstText? ontology [preferredNamespace])
              (graph.candidates ontology) with
          | error reason =>
              simp only [listed] at failed
              cases failed
              exact Or.inr (faulty_of_entries placed.closed
                (fun index member => placed.subjects index (List.mem_of_mem_filter member)) listed)
          | ok entries =>
              simp only [listed] at failed
              cases failed

theorem outline_error_kind {order : TermOrder} (placed : graph.Placed)
    (failed : graph.outline order = .error error) :
    graph.ontology? = none ∧ error = .noOntology ∨
      ∃ subject predicate found, error = .notALiteral subject predicate found := by
  have kind {index : Nat} {predicates : List Iri} (faulty : graph.Faulty index predicates error) :
      ∃ subject predicate found, error = .notALiteral subject predicate found := by
    obtain ⟨_, _, _, _, _, _, _, rfl⟩ := faulty
    exact ⟨_, _, _, rfl⟩
  rcases outline_eq_error placed failed with missing | ⟨_, _, faulty | ⟨_, _, _, faulty⟩⟩
  · exact Or.inl missing
  · exact Or.inr (kind faulty)
  · exact Or.inr (kind faulty)

theorem outline_eq_noOntology_iff {order : TermOrder} (placed : graph.Placed) :
    graph.outline order = .error .noOntology ↔ graph.ontology? = none := by
  constructor
  · intro failed
    rcases outline_error_kind placed failed with ⟨missing, _⟩ | ⟨_, _, _, other⟩
    · exact missing
    · cases other
  · intro missing
    rw [outline, missing]

end Errors

theorem placed_record (facts : List Fact) : (record facts).Placed := by
  refine ⟨closed_record facts, ?_⟩
  intro index member
  obtain ⟨subject, inside, rfl⟩ := List.mem_map.mp member
  exact ⟨.named subject, nodes_record inside⟩

end Graph

end Termbase.Ontology
