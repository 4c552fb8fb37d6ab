import Termbase.Proofs.Ontology.Record
import Termbase.Proofs.Search

/-! The order of the labels. Where no more than one label fits an identifier its name does not depend on that order,
and then neither does the graph. -/

namespace Termbase.Ontology

open Rdf

def identifier? : Rdf.Term → Option Iri
  | .iri iri => some iri
  | .blank _ | .literal _ _ | .quoted _ _ _ => none

def identifiers (triple : Triple) : List Iri :=
  [triple.subject, .iri triple.predicate, triple.object].filterMap identifier?

/-- No more than one label stands for what the identifier begins with. -/
def FitsOnce (scope : Scope) (iri : Iri) : Prop :=
  ∀ first ∈ scope.labels, ∀ second ∈ scope.labels, first.2 <+: iri → second.2 <+: iri → first = second

instance (scope : Scope) (iri : Iri) : Decidable (FitsOnce scope iri) :=
  inferInstanceAs (Decidable (∀ first ∈ scope.labels, ∀ second ∈ scope.labels, _))

def LabelledOnce (statement : Statement) : Prop :=
  ∀ iri ∈ identifiers statement.triple, FitsOnce statement.scope iri

instance (statement : Statement) : Decidable (LabelledOnce statement) :=
  inferInstanceAs (Decidable (∀ iri ∈ identifiers statement.triple, FitsOnce statement.scope iri))

section Naming

variable {order : LabelOrder} {scope : Scope} {iri : Iri} {statement : Statement} {reading : Reading}

theorem prefix_of_labelled? {declared : Text × Iri} (labelled : (Name.labelled? iri declared).isSome) :
    declared.2 <+: iri := by
  rw [Name.labelled?, Option.isSome_map] at labelled
  obtain ⟨localName, stripped⟩ := Option.isSome_iff_exists.mp labelled
  exact ⟨localName, (Text.stripPrefix?_eq_some_iff.mp stripped).symm⟩

theorem ofIri_arranged (once : FitsOnce scope iri) (order : LabelOrder) (number : Nat) :
    Name.ofIri (scope.arranged order number) iri = Name.ofIri scope iri := by
  have same : (order.arrange number scope.labels).findSome? (Name.labelled? iri) =
      scope.labels.findSome? (Name.labelled? iri) := by
    apply findSome?_perm_of_unique (order.perm number scope.labels)
    intro first firstMember second secondMember firstFits secondFits
    exact once first firstMember second secondMember (prefix_of_labelled? firstFits) (prefix_of_labelled? secondFits)
  simp only [Name.ofIri, Scope.arranged, same]

theorem factOf?_arranged (once : LabelledOnce statement) (order : LabelOrder) (number : Nat) :
    factOf? { statement with scope := statement.scope.arranged order number } = factOf? statement := by
  have named (iri : Iri) (member : iri ∈ identifiers statement.triple) := ofIri_arranged (once iri member) order number
  obtain ⟨⟨subject, predicate, object⟩, scope⟩ := statement
  cases subject with
  | iri subject =>
      have subjectNamed := named subject (by simp [identifiers, identifier?])
      have predicateNamed := named predicate (by simp [identifiers, identifier?])
      cases object with
      | iri object =>
          have objectNamed := named object (by simp [identifiers, identifier?])
          simp only [factOf?, Node.ofTerm?, subjectNamed, predicateNamed, objectNamed]
      | literal text kind => simp only [factOf?, Node.ofTerm?, subjectNamed, predicateNamed]
      | blank => rfl
      | quoted => rfl
  | _ => rfl

theorem graph_arranged (once : ∀ statement ∈ reading.statements, LabelledOnce statement) (order : LabelOrder) :
    Graph.ofStatements (reading.arranged order).statements = Graph.ofStatements reading.statements := by
  have same : factsOf (reading.arranged order).statements = factsOf reading.statements := by
    calc factsOf (reading.arranged order).statements
        = reading.statements.zipIdx.filterMap (fun met => factOf?
            { met.1 with scope := met.1.scope.arranged order met.2 }) := by
          rw [Reading.arranged, factsOf, List.mapIdx_eq_zipIdx_map, List.filterMap_map]
          rfl
      _ = reading.statements.zipIdx.filterMap (fun met => factOf? met.1) := by
          apply List.filterMap_congr
          intro met member
          exact factOf?_arranged (once met.1 (List.fst_mem_of_mem_zipIdx member)) order met.2
      _ = (reading.statements.zipIdx.map Prod.fst).filterMap factOf? := by
          rw [List.filterMap_map]
          rfl
      _ = factsOf reading.statements := by
          rw [List.zipIdx_map_fst, factsOf]
  rw [ofStatements_eq_record, ofStatements_eq_record, same]

end Naming

end Termbase.Ontology
