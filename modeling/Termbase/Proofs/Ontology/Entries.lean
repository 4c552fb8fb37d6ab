import Termbase.Ontology.Outline
import Termbase.Proofs.Ontology.Record
import Termbase.Proofs.Ontology.TermOrder
import Termbase.Proofs.Steps

/-! What an outline takes from the facts of a document: the ontology, and an entry for each other subject in
the namespace. -/

namespace Termbase.Ontology

open Rdf

def objectsNamed (facts : List Fact) (subject : Name) (predicates : List Iri) : List Node :=
  facts.filterMap fun fact =>
    if fact.subject == subject && predicates.contains fact.predicate.iri then some fact.object else none

def describe (objects : List Iri → List Node) (localName : Text) : TermEntry where
  localName
  title := (objects titles).findSome? Node.literal?
  description := (objects descriptions).findSome? Node.literal?
  isClass := (objects [rdfType]).any fun object => object.iri?.any classTypes.contains
  deprecation :=
    { isMarked :=
        ((objects [rdfType]).any fun object => object.iri?.any deprecatedTypes.contains) ||
          ((objects [status]).any fun object =>
            object.literal?.any (Text.equalIgnoringAsciiCase "deprecated".toList)) ||
          (objects [deprecatedFlag]).any fun object =>
            object.literal?.any (Text.equalIgnoringAsciiCase "true".toList)
      since := ((objects [deprecatedOn]).findSome? Node.literal?).getD []
      advice :=
        match (objects [supersededBy]).head? with
        | some object => "Use this instead: ".toList ++ object.display
        | none => [] }

section Graphs

variable {graph : Graph} {namespaceIri : Option Iri}

def Graph.entryAt? (graph : Graph) (namespaceIri : Option Iri) (index : Nat) : Option TermEntry :=
  graph.nodes[index]?.bind fun node =>
    (Graph.localName? namespaceIri node).map (describe (graph.objects index))

theorem entryOf_eq_ok {index : Nat} {localName : Text} {entry : TermEntry}
    (found : graph.entryOf index localName = .ok entry) :
    entry = describe (graph.objects index) localName := by
  simp only [Graph.entryOf, bind_eq_ok_iff] at found
  obtain ⟨_, _, made⟩ := found
  cases made
  rfl

theorem entries_eq_ok {indices : List Nat} {entries : List TermEntry}
    (found : graph.entries namespaceIri indices = .ok entries) :
    entries = indices.filterMap (graph.entryAt? namespaceIri) := by
  induction indices generalizing entries with
  | nil =>
      cases found
      rfl
  | cons index rest ih =>
      simp only [Graph.entries, bind_eq_ok_iff] at found
      obtain ⟨outcome, first, others, later, joined⟩ := found
      have tail := ih later
      unfold Graph.entryOrStranger at first
      cases node : graph.nodes[index]? with
      | none => simp [node] at first
      | some node' =>
          simp only [node] at first
          cases name : Graph.localName? namespaceIri node' with
          | none =>
              simp only [name] at first
              cases first
              cases joined
              simp [Graph.entryAt?, node, name, tail]
          | some localName =>
              simp only [name] at first
              cases made : graph.entryOf index localName with
              | error error => simp [made, Except.map] at first
              | ok entry =>
                  simp only [made, Except.map] at first
                  cases first
                  cases joined
                  simp [Graph.entryAt?, node, name, tail, entryOf_eq_ok made]

theorem entries_checked {indices : List Nat} {entries : List TermEntry} {index : Nat} {entry : TermEntry}
    (found : graph.entries namespaceIri indices = .ok entries) (member : index ∈ indices)
    (isTerm : graph.entryAt? namespaceIri index = some entry) :
    graph.checkLiterals index termLiterals = .ok () := by
  induction indices generalizing entries with
  | nil => cases member
  | cons first rest ih =>
      simp only [Graph.entries, bind_eq_ok_iff] at found
      obtain ⟨outcome, checked, others, later, _⟩ := found
      rcases List.mem_cons.mp member with rfl | inRest
      · simp only [Graph.entryAt?, Option.bind_eq_some_iff, Option.map_eq_some_iff] at isTerm
        obtain ⟨node, placed, localName, named, _⟩ := isTerm
        simp only [Graph.entryOrStranger, placed, named] at checked
        cases made : graph.entryOf index localName with
        | error => simp [made, Except.map] at checked
        | ok =>
            simp only [Graph.entryOf, bind_eq_ok_iff] at made
            obtain ⟨_, passed, _⟩ := made
            exact passed
      · exact ih later inRest

theorem outline_eq_ok_iff {order : TermOrder} {outline : Outline} :
    graph.outline order = .ok outline ↔ ∃ ontology entries, graph.ontology? = some ontology ∧
      graph.checkLiterals ontology ontologyLiterals = .ok () ∧
      graph.entries (graph.firstText? ontology [preferredNamespace]) (graph.candidates ontology) =
        .ok entries ∧
      outline = ⟨graph.firstText? ontology titles, graph.firstText? ontology descriptions,
        graph.firstText? ontology [preferredLabel], graph.firstText? ontology [preferredNamespace],
        order.arrange (·.localName) entries⟩ := by
  unfold Graph.outline
  cases found : graph.ontology? with
  | none => simp
  | some ontology =>
      simp only [bind_eq_ok_iff, Option.some.injEq]
      constructor
      · rintro ⟨_, checked, entries, made, result⟩
        cases result
        exact ⟨ontology, entries, rfl, checked, made, rfl⟩
      · rintro ⟨_, entries, rfl, checked, made, rfl⟩
        exact ⟨(), checked, entries, made, rfl⟩

theorem outline_name_of_source {outline : Outline} (outlined : graph.outline .source = .ok outline) :
    graph.outline .name =
      .ok { outline with entries := TermOrder.arrange .name (·.localName) outline.entries } := by
  obtain ⟨ontology, entries, found, checked, made, rfl⟩ := outline_eq_ok_iff.mp outlined
  exact outline_eq_ok_iff.mpr ⟨ontology, entries, found, checked, made, rfl⟩

theorem outline_eq_ok {order : TermOrder} {outline : Outline} (outlined : graph.outline order = .ok outline) :
    ∃ ontology, graph.ontology? = some ontology ∧
      outline.namespaceIri = graph.firstText? ontology [preferredNamespace] ∧
      outline.entries = order.arrange (·.localName)
        ((graph.candidates ontology).filterMap (graph.entryAt? outline.namespaceIri)) := by
  obtain ⟨ontology, entries, found, _, made, rfl⟩ := outline_eq_ok_iff.mp outlined
  refine ⟨ontology, found, rfl, ?_⟩
  rw [entries_eq_ok made]

theorem literal_of_checkLiterals {index : Nat} {predicates checked : List Iri} {object : Node}
    (passed : graph.checkLiterals index checked = .ok ()) (within : predicates ⊆ checked)
    (member : object ∈ graph.objects index predicates) : ∃ text, object = .literal text := by
  obtain ⟨edge, outgoing, reached⟩ := List.mem_filterMap.mp member
  rw [Graph.checkLiterals, forM_eq_ok_iff] at passed
  have edgePassed := passed edge (List.mem_reverse.mpr outgoing)
  split at reached
  next about =>
    have aboutChecked : checked.contains edge.predicate.iri = true := by
      simp only [List.contains_eq_mem, decide_eq_true_eq] at about ⊢
      exact within about
    simp only [aboutChecked, if_true, Graph.literalText, reached] at edgePassed
    cases object with
    | literal text => exact ⟨text, rfl⟩
    | named name =>
        dsimp only at edgePassed
        split at edgePassed <;> cases edgePassed
  next => cases reached

end Graphs

section Facts

variable {facts : List Fact} {subject : Name}

theorem nodes_record (member : subject ∈ subjectsOf facts) :
    (record facts).nodes[(nodesOf facts).idxOf (.named subject)]? = some (.named subject) :=
  List.getElem?_idxOf (subject_mem_nodesOf member)

theorem objects_record (facts : List Fact) (subject : Name) (predicates : List Iri) :
    (record facts).objects ((nodesOf facts).idxOf (.named subject)) predicates =
      objectsNamed facts subject predicates := by
  simp only [Graph.objects, Graph.outgoing, record, objectsNamed, List.filter_map, List.filterMap_map,
    List.filterMap_filter]
  apply List.filterMap_congr
  intro fact inside
  have subjectIn := mem_nodesOf.mpr ⟨fact, inside, Or.inl rfl⟩
  have objectIn := mem_nodesOf.mpr ⟨fact, inside, Or.inr rfl⟩
  have object : (nodesOf facts)[(nodesOf facts).idxOf fact.object]? = some fact.object :=
    List.getElem?_idxOf objectIn
  have source : (nodesOf facts).idxOf (.named fact.subject) = (nodesOf facts).idxOf (.named subject) ↔
      fact.subject = subject := by
    rw [List.idxOf_inj subjectIn]
    simp
  simp only [Function.comp_apply, edgeOf, beq_iff_eq, source, object]
  by_cases same : fact.subject = subject
  · simp [same]
  · simp [same]

theorem candidates_record (facts : List Fact) (subject : Name) :
    (record facts).candidates ((nodesOf facts).idxOf (.named subject)) =
      ((subjectsOf facts).filter (· != subject)).map fun other => (nodesOf facts).idxOf (.named other) := by
  simp only [Graph.candidates, record, List.filter_map]
  congr 1
  apply List.filter_congr
  intro other otherIn
  have place : (nodesOf facts).idxOf (.named other) = (nodesOf facts).idxOf (.named subject) ↔
      other = subject := by
    rw [List.idxOf_inj (subject_mem_nodesOf otherIn)]
    simp
  simp only [Function.comp_apply, bne, beq_eq_decide, place]

def entryNamed? (facts : List Fact) (namespaceIri : Option Iri) (subject : Name) : Option TermEntry :=
  (Graph.localName? namespaceIri (.named subject)).map (describe (objectsNamed facts subject))

theorem entryAt?_record (member : subject ∈ subjectsOf facts) (namespaceIri : Option Iri) :
    (record facts).entryAt? namespaceIri ((nodesOf facts).idxOf (.named subject)) =
      entryNamed? facts namespaceIri subject := by
  have objects : (record facts).objects ((nodesOf facts).idxOf (.named subject)) =
      objectsNamed facts subject :=
    funext fun predicates => objects_record facts subject predicates
  rw [Graph.entryAt?, nodes_record member, objects]
  rfl

theorem outline_record {order : TermOrder} {outline : Outline}
    (outlined : (record facts).outline order = .ok outline) :
    ∃ ontology ∈ subjectsOf facts,
      (record facts).ontology? = some ((nodesOf facts).idxOf (.named ontology)) ∧
      outline.entries = order.arrange (·.localName)
        (((subjectsOf facts).filter (· != ontology)).filterMap (entryNamed? facts outline.namespaceIri)) := by
  obtain ⟨place, found, _, entries⟩ := outline_eq_ok outlined
  obtain ⟨ontology, member, rfl⟩ := List.mem_map.mp (List.mem_of_find?_eq_some found)
  refine ⟨ontology, member, found, ?_⟩
  rw [entries, candidates_record, List.filterMap_map]
  congr 1
  apply List.filterMap_congr
  intro subject inside
  exact entryAt?_record (List.mem_of_mem_filter inside) outline.namespaceIri

end Facts

end Termbase.Ontology
