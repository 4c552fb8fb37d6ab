import Mathlib.Data.List.Pairwise
import Termbase.Proofs.Ontology.Entries
import Termbase.Proofs.Ontology.LabelOrder

/-! When the entries of an outline are the terms of its namespace. Subjects are told apart by their names, so
this depends on each identifier of the namespace going by one name throughout the document. -/

namespace Termbase

theorem nodup_filterMap_iff {α β : Type} {f : α → Option β} {items : List α} (unique : items.Nodup) :
    (items.filterMap f).Nodup ↔ ∀ first ∈ items, ∀ second ∈ items, ∀ value,
      f first = some value → f second = some value → first = second := by
  rw [List.Nodup, List.pairwise_filterMap]
  constructor
  · intro apart first firstIn second secondIn value firstEq secondEq
    have symmetric : Std.Symm fun first second =>
        ∀ left, f first = some left → ∀ right, f second = some right → left ≠ right :=
      ⟨fun _ _ distinct left leftEq right rightEq => (distinct right rightEq left leftEq).symm⟩
    by_contra different
    exact apart.forall firstIn secondIn different value firstEq value secondEq rfl
  · intro distinct
    apply unique.imp_of_mem
    intro first second firstIn secondIn different left leftEq right rightEq same
    subst same
    exact different (distinct first firstIn second secondIn left leftEq rightEq)

namespace Ontology

open Rdf

/-- The objects of the facts about an identifier, whatever its names. -/
def objectsOf (facts : List Fact) (iri : Iri) (predicates : List Iri) : List Node :=
  facts.filterMap fun fact =>
    if fact.subject.iri == iri && predicates.contains fact.predicate.iri then some fact.object else none

/-- The entries are the terms of the namespace: none occurs twice, none is the ontology, none is left out, and
each tells what all facts about it say. -/
structure Faithful (facts : List Fact) (start ontology : Iri) (entries : List TermEntry) : Prop where
  once : (entries.map (·.localName)).Nodup
  others : ∀ entry ∈ entries, start ++ entry.localName ≠ ontology
  complete : ∀ fact ∈ facts, ∀ localName ≠ [], fact.subject.iri = start ++ localName →
    fact.subject.iri ≠ ontology → localName ∈ entries.map (·.localName)
  reflected : ∀ entry ∈ entries,
    entry = describe (objectsOf facts (start ++ entry.localName)) entry.localName

def OneName (facts : List Fact) (start : Iri) : Prop :=
  ∀ first ∈ facts, ∀ second ∈ facts, ∀ localName ≠ [], first.subject.iri = start ++ localName →
    second.subject.iri = start ++ localName → first.subject = second.subject

theorem localName?_eq_some_iff {start : Iri} {subject : Name} {localName : Text} :
    Graph.localName? (some start) (.named subject) = some localName ↔
      subject.iri = start ++ localName ∧ localName ≠ [] := by
  simp [Graph.localName?, Option.filter_eq_some_iff, Text.stripPrefix?_eq_some_iff]

section Subjects

variable {facts : List Fact} {start : Iri} {subject ontology : Name} {entry : TermEntry}

theorem entryNamed?_eq_some_iff :
    entryNamed? facts (some start) subject = some entry ↔
      subject.iri = start ++ entry.localName ∧ entry.localName ≠ [] ∧
        entry = describe (objectsNamed facts subject) entry.localName := by
  simp only [entryNamed?, Option.map_eq_some_iff, localName?_eq_some_iff]
  constructor
  · rintro ⟨localName, ⟨same, proper⟩, rfl⟩
    exact ⟨same, proper, rfl⟩
  · rintro ⟨same, proper, described⟩
    exact ⟨entry.localName, ⟨same, proper⟩, described.symm⟩

theorem oneName_iff : OneName facts start ↔
    ∀ first ∈ subjectsOf facts, ∀ second ∈ subjectsOf facts, ∀ localName ≠ [],
      first.iri = start ++ localName → second.iri = start ++ localName → first = second := by
  simp only [OneName, mem_subjectsOf]
  constructor
  · rintro named _ ⟨first, firstIn, rfl⟩ _ ⟨second, secondIn, rfl⟩
    exact named first firstIn second secondIn
  · intro named first firstIn second secondIn
    exact named _ ⟨first, firstIn, rfl⟩ _ ⟨second, secondIn, rfl⟩

theorem objectsNamed_eq_objectsOf (named : OneName facts start) (member : subject ∈ subjectsOf facts)
    {localName : Text} (proper : localName ≠ []) (iri : subject.iri = start ++ localName) :
    objectsNamed facts subject = objectsOf facts (start ++ localName) := by
  funext predicates
  apply List.filterMap_congr
  intro fact inside
  have same : (fact.subject == subject) = (fact.subject.iri == start ++ localName) := by
    rw [Bool.eq_iff_iff, beq_iff_eq, beq_iff_eq]
    constructor
    · rintro rfl
      exact iri
    · intro spelled
      exact oneName_iff.mp named _ (mem_subjectsOf.mpr ⟨fact, inside, rfl⟩) _ member _ proper spelled iri
  simp only [same]

def Listed (facts : List Fact) (start : Iri) (ontology : Name) (entries : List TermEntry) : Prop :=
  entries.Perm (((subjectsOf facts).filter (· != ontology)).filterMap (entryNamed? facts (some start)))

variable {entries : List TermEntry}

theorem Listed.mem_iff (listed : Listed facts start ontology entries) :
    entry ∈ entries ↔ ∃ subject ∈ subjectsOf facts, subject ≠ ontology ∧
      entryNamed? facts (some start) subject = some entry := by
  rw [List.Perm.mem_iff listed]
  simp [and_assoc]

theorem Listed.mem_localNames_iff (listed : Listed facts start ontology entries) {localName : Text} :
    localName ∈ entries.map (·.localName) ↔ ∃ subject ∈ subjectsOf facts, subject ≠ ontology ∧
      subject.iri = start ++ localName ∧ localName ≠ [] := by
  simp only [List.mem_map, listed.mem_iff, entryNamed?_eq_some_iff]
  constructor
  · rintro ⟨entry, ⟨subject, member, other, iri, proper, _⟩, rfl⟩
    exact ⟨subject, member, other, iri, proper⟩
  · rintro ⟨subject, member, other, iri, proper⟩
    exact ⟨describe (objectsNamed facts subject) localName, ⟨subject, member, other, iri, proper, rfl⟩, rfl⟩

theorem Listed.nodup_localNames_iff (listed : Listed facts start ontology entries) :
    (entries.map (·.localName)).Nodup ↔
      ∀ first ∈ subjectsOf facts, first ≠ ontology → ∀ second ∈ subjectsOf facts, second ≠ ontology →
        ∀ localName ≠ [], first.iri = start ++ localName → second.iri = start ++ localName →
          first = second := by
  have unique : ((subjectsOf facts).filter (· != ontology)).Nodup := (nodup_eraseDups _).filter _
  have names : (((subjectsOf facts).filter (· != ontology)).filterMap
        (entryNamed? facts (some start))).map (·.localName) =
      ((subjectsOf facts).filter (· != ontology)).filterMap fun subject =>
        Graph.localName? (some start) (.named subject) := by
    rw [List.map_filterMap]
    apply List.filterMap_congr
    intro subject _
    simp [entryNamed?, describe, Function.comp_def]
  rw [(List.Perm.map _ listed).nodup_iff, names, nodup_filterMap_iff unique]
  simp only [List.mem_filter, bne_iff_ne, localName?_eq_some_iff]
  constructor
  · intro distinct first firstIn firstOther second secondIn secondOther localName proper firstIri secondIri
    exact distinct first ⟨firstIn, firstOther⟩ second ⟨secondIn, secondOther⟩ localName
      ⟨firstIri, proper⟩ ⟨secondIri, proper⟩
  · rintro named first ⟨firstIn, firstOther⟩ second ⟨secondIn, secondOther⟩ localName ⟨firstIri, proper⟩
      ⟨secondIri, _⟩
    exact named first firstIn firstOther second secondIn secondOther localName proper firstIri secondIri

theorem faithful_of_oneName (listed : Listed facts start ontology entries)
    (isSubject : ontology ∈ subjectsOf facts) (named : OneName facts start) :
    Faithful facts start ontology.iri entries := by
  have one := oneName_iff.mp named
  constructor
  · rw [listed.nodup_localNames_iff]
    intro first firstIn _ second secondIn _
    exact one first firstIn second secondIn
  · intro entry inside same
    obtain ⟨subject, member, other, found⟩ := listed.mem_iff.mp inside
    obtain ⟨iri, proper, _⟩ := entryNamed?_eq_some_iff.mp found
    exact other (one subject member ontology isSubject _ proper iri same.symm)
  · intro fact inside localName proper iri notOntology
    apply listed.mem_localNames_iff.mpr
    refine ⟨fact.subject, mem_subjectsOf.mpr ⟨fact, inside, rfl⟩, ?_, iri, proper⟩
    intro same
    exact notOntology (congrArg Name.iri same)
  · intro entry inside
    obtain ⟨subject, member, _, found⟩ := listed.mem_iff.mp inside
    obtain ⟨iri, proper, described⟩ := entryNamed?_eq_some_iff.mp found
    rwa [objectsNamed_eq_objectsOf named member proper iri] at described

/-- Two names of an identifier give two entries, or one that names the ontology. -/
theorem oneName_of_faithful (listed : Listed facts start ontology entries)
    (faithful : Faithful facts start ontology.iri entries) : OneName facts start := by
  have apart := listed.nodup_localNames_iff.mp faithful.once
  have notOntology {subject : Name} (member : subject ∈ subjectsOf facts) {localName : Text}
      (proper : localName ≠ []) (iri : subject.iri = start ++ localName)
      (same : ontology.iri = start ++ localName) : subject = ontology := by
    by_contra other
    obtain ⟨entry, inside, rfl⟩ :=
      List.mem_map.mp (listed.mem_localNames_iff.mpr ⟨subject, member, other, iri, proper⟩)
    exact faithful.others entry inside same.symm
  rw [oneName_iff]
  intro first firstIn second secondIn localName proper firstIri secondIri
  by_cases firstIs : first = ontology
  · subst firstIs
    exact (notOntology secondIn proper secondIri firstIri).symm
  · by_cases secondIs : second = ontology
    · subst secondIs
      exact notOntology firstIn proper firstIri secondIri
    · exact apart first firstIn firstIs second secondIn secondIs localName proper firstIri secondIri

end Subjects

def Graph.ontologyIri? (graph : Graph) : Option Iri :=
  graph.ontology?.bind fun index => graph.nodes[index]?.bind Node.iri?

/-- Whatever was read in whatever form, the entries are the terms of the namespace exactly if each of its
identifiers goes by one name. -/
theorem faithful_iff_oneName {reading : Reading} {content : Content} {order : TermOrder} {outline : Outline}
    {start : Iri} (read : Content.ofReading? reading = some content)
    (outlined : content.graph.outline order = .ok outline) (given : outline.namespaceIri = some start) :
    ∃ ontology, content.graph.ontologyIri? = some ontology ∧
      (Faithful (factsOf reading.statements) start ontology outline.entries ↔
        OneName (factsOf reading.statements) start) := by
  have graph : content.graph = record (factsOf reading.statements) := by
    obtain ⟨_, _, rfl⟩ := Option.map_eq_some_iff.mp read
    exact ofStatements_eq_record reading.statements
  rw [graph] at outlined ⊢
  obtain ⟨ontology, isSubject, found, entries⟩ := outline_record outlined
  have listed : Listed (factsOf reading.statements) start ontology outline.entries := by
    unfold Listed
    rw [entries, given]
    exact TermOrder.arrange_perm _ _ _
  refine ⟨ontology.iri, ?_, ?_⟩
  · simp [Graph.ontologyIri?, found, nodes_record isSubject, Node.iri?]
  · constructor
    · exact oneName_of_faithful listed
    · exact faithful_of_oneName listed isSubject

def twoPlaces (first second : Scope) : List Statement :=
  [⟨⟨.iri "u:n".toList, rdfType, .iri ontologyType⟩, first⟩,
    ⟨⟨.iri "u:n".toList, preferredNamespace, .literal "u:n#".toList .plain⟩, first⟩,
    ⟨⟨.iri "u:n#A".toList, rdfType, .iri (owlTerm "Class")⟩, first⟩,
    ⟨⟨.iri "u:n#A".toList, rdfsTerm "label", .literal ['A'] .plain⟩, second⟩]

def labelled : Scope := ⟨[(['n'], "u:n#".toList)], none⟩

theorem labelled_term_is_listed_once :
    ∃ outline ontology, (Graph.ofStatements (twoPlaces labelled labelled)).outline .name = .ok outline ∧
      outline.entries = [⟨['A'], some ['A'], none, true, .none⟩] ∧
      Faithful (factsOf (twoPlaces labelled labelled)) "u:n#".toList ontology outline.entries := by
  have outlined : (Graph.ofStatements (twoPlaces labelled labelled)).outline .name = .ok
      ⟨none, none, none, some "u:n#".toList, [⟨['A'], some ['A'], none, true, .none⟩]⟩ := by
    apply ok_of_toOption
    decide +kernel
  have same : ∀ first ∈ factsOf (twoPlaces labelled labelled),
      ∀ second ∈ factsOf (twoPlaces labelled labelled),
        first.subject.iri = second.subject.iri → first.subject = second.subject := by
    decide +kernel
  have read : Content.ofReading? ⟨twoPlaces labelled labelled, some labelled⟩ =
      some ⟨.ofStatements (twoPlaces labelled labelled), labelled⟩ := rfl
  obtain ⟨ontology, _, faithful⟩ := faithful_iff_oneName read outlined rfl
  refine ⟨_, ontology, outlined, rfl, faithful.mpr ?_⟩
  intro first firstIn second secondIn localName _ firstIri secondIri
  exact same first firstIn second secondIn (firstIri.trans secondIri.symm)

def Unambiguous (statement : Statement) : Prop :=
  ∀ iri ∈ identifiers statement.triple,
    ((statement.scope.labels.map (·.2) ++ statement.scope.base.toList).filter (·.isPrefixOf iri)).length ≤ 1

instance (statement : Statement) : Decidable (Unambiguous statement) :=
  inferInstanceAs (Decidable (∀ iri ∈ identifiers statement.triple, _))

def relabelled : Text :=
  "<u:n> a <http://www.w3.org/2002/07/owl#Ontology> ; ".toList ++
    "<http://purl.org/vocab/vann/preferredNamespaceUri> \"u:n#\" .\n".toList ++
    "<u:n#A> a <http://www.w3.org/2002/07/owl#Class> .\n@prefix n: <u:n#> .\n".toList ++
    "n:A <http://www.w3.org/2000/01/rdf-schema#label> \"A\" .\n".toList

theorem read_relabelled :
    Format.turtle.read (Utf8.encode relabelled) = ⟨twoPlaces .empty labelled, some labelled⟩ := by
  decide +kernel

theorem relabelled_term_is_listed_twice :
    ∃ content outline, Content.read? .turtle (Utf8.encode relabelled) = some content ∧
      (∀ statement ∈ (Format.turtle.read (Utf8.encode relabelled)).statements, Unambiguous statement) ∧
      content.graph.outline .source = .ok outline ∧ outline.namespaceIri = some "u:n#".toList ∧
      outline.entries = [⟨['A'], none, none, true, .none⟩, ⟨['A'], some ['A'], none, false, .none⟩] ∧
      ¬ (outline.entries.map (·.localName)).Nodup := by
  have outlined : (Graph.ofStatements (twoPlaces .empty labelled)).outline .source = .ok
      ⟨none, none, none, some "u:n#".toList,
        [⟨['A'], none, none, true, .none⟩, ⟨['A'], some ['A'], none, false, .none⟩]⟩ := by
    apply ok_of_toOption
    decide +kernel
  have unambiguous : ∀ statement ∈ twoPlaces .empty labelled, Unambiguous statement := by
    decide +kernel
  rw [Content.read?, read_relabelled]
  exact ⟨_, _, rfl, unambiguous, outlined, rfl, rfl, by decide⟩

end Ontology

end Termbase
