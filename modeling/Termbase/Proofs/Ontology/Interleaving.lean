import Termbase.Proofs.Ontology.Outlined
import Termbase.TermModule

/-! Documents that say the same of each subject, but bring their subjects in other places and mix them otherwise:
arranged by name, their outlines and their modules are the same. -/

namespace Termbase

section Interleaves

variable {α κ : Type} [DecidableEq κ] {key : α → κ} {first second : List α}

/-- The items of each key are the same in both, in the same order. -/
def Interleaves (key : α → κ) (first second : List α) : Prop :=
  ∀ value, (first.filter fun item => key item = value) = second.filter fun item => key item = value

namespace Interleaves

theorem mem_iff (interleaved : Interleaves key first second) {item : α} : item ∈ first ↔ item ∈ second := by
  have same : item ∈ (first.filter fun other => key other = key item) ↔
      item ∈ second.filter fun other => key other = key item := by rw [interleaved]
  simpa using same

theorem iff_occurring : Interleaves key first second ↔ ∀ item ∈ first ++ second,
    (first.filter fun other => key other = key item) = second.filter fun other => key other = key item := by
  constructor
  · exact fun interleaved item _ => interleaved (key item)
  · intro occurring value
    by_cases used : ∃ item ∈ first ++ second, key item = value
    · obtain ⟨item, member, rfl⟩ := used
      exact occurring item member
    · have nothing {items : List α} (within : items ⊆ first ++ second) :
          (items.filter fun item => key item = value) = [] := by
        rw [List.filter_eq_nil_iff]
        intro item member same
        exact used ⟨item, within member, of_decide_eq_true same⟩
      rw [nothing (List.subset_append_left _ _), nothing (List.subset_append_right _ _)]

instance [DecidableEq α] (key : α → κ) (first second : List α) : Decidable (Interleaves key first second) :=
  decidable_of_iff _ iff_occurring.symm

end Interleaves

end Interleaves

namespace Ontology

open Rdf

def triplesOf (reading : Reading) : List Triple := reading.statements.map (·.triple)

section Plain

variable {scope : Scope} {first second : List PlainTriple} {subject ontology start : Iri}

theorem filter_plain? (triples : List Triple) (subject : Iri) :
    ((triples.filterMap plain?).filter fun triple => triple.subject = subject) =
      (triples.filter fun triple => triple.subject = .iri subject).filterMap plain? := by
  rw [List.filter_filterMap, List.filterMap_filter]
  apply List.filterMap_congr
  intro triple _
  unfold plain?
  cases triple.subject with
  | iri other => cases triple.object <;> simp [Option.filter]
  | _ => simp

theorem interleaves_plainTriples {first second : Reading}
    (interleaved : Interleaves (·.subject) (triplesOf first) (triplesOf second)) :
    Interleaves (·.subject) (plainTriples first) (plainTriples second) := by
  have plain (reading : Reading) : plainTriples reading = (triplesOf reading).filterMap plain? := by
    rw [plainTriples, triplesOf, List.filterMap_map]
    rfl
  intro subject
  rw [plain, plain, filter_plain?, filter_plain?, interleaved (.iri subject)]

variable (interleaved : Interleaves (·.subject) first second)
include interleaved

theorem objectsIn_congr (subject : Iri) (predicates : List Iri) :
    objectsIn first subject predicates = objectsIn second subject predicates := by
  have about (triples : List PlainTriple) : objectsIn triples subject predicates =
      ((triples.filter fun triple => triple.subject = subject).filter fun triple =>
        triple.predicate ∈ predicates).map (·.object) := by
    simp [objectsIn, List.filter_filter, Bool.and_comm]
  rw [about, about, interleaved subject]

theorem onlyLiterals_congr {predicates : List Iri} :
    OnlyLiterals first subject predicates ↔ OnlyLiterals second subject predicates := by
  rw [OnlyLiterals, OnlyLiterals, objectsIn_congr interleaved]

theorem outlineOf_congr (ontology : Iri) (entries : List TermEntry) :
    outlineOf first ontology entries = outlineOf second ontology entries := by
  simp only [outlineOf, firstLiteral?, objectsIn_congr interleaved]

theorem subjectIris_perm : (subjectIris first).Perm (subjectIris second) := by
  rw [List.perm_ext_iff_of_nodup (nodup_subjectIris first) (nodup_subjectIris second)]
  intro subject
  simp [subjectIris, interleaved.mem_iff]

theorem termIris_perm (start ontology : Iri) :
    (termIris first start ontology).Perm (termIris second start ontology) :=
  (subjectIris_perm interleaved).filter _

theorem entryNamed?_congr (scope : Scope) (namespaceIri : Option Iri) (subject : Iri) :
    entryNamed? (first.map (factIn scope)) namespaceIri (.ofIri scope subject) =
      entryNamed? (second.map (factIn scope)) namespaceIri (.ofIri scope subject) := by
  have objects : objectsNamed (first.map (factIn scope)) (.ofIri scope subject) =
      objectsNamed (second.map (factIn scope)) (.ofIri scope subject) := by
    funext predicates
    rw [objectsNamed_eq, objectsNamed_eq, objectsIn_congr interleaved]
  rw [entryNamed?, entryNamed?, objects]

theorem listed_perm (scope : Scope) (start ontology : Iri) :
    (listed scope first start ontology).Perm (listed scope second start ontology) := by
  simp only [listed, entryNamed?_congr interleaved]
  exact ((subjectIris_perm interleaved).filter _).filterMap _

theorem isOntology_congr : IsOntology first subject ↔ IsOntology second subject := interleaved.mem_iff

theorem outline_graphOf_congr (only : ∀ subject, IsOntology first subject ↔ subject = ontology)
    (given : ⟨ontology, preferredNamespace, .literal start⟩ ∈ first) (outline : Outline) :
    (graphOf scope first).outline .name = .ok outline ↔ (graphOf scope second).outline .name = .ok outline := by
  have onlySecond (subject : Iri) : IsOntology second subject ↔ subject = ontology :=
    (isOntology_congr interleaved).symm.trans (only subject)
  obtain ⟨start, namespaceIri⟩ := exists_firstLiteral? given
  have namespaceSecond : firstLiteral? second ontology [preferredNamespace] = some start := by
    rwa [firstLiteral?, ← objectsIn_congr interleaved]
  have arranged : TermOrder.arrange .name (·.localName) (listed scope first start ontology) =
      TermOrder.arrange .name (·.localName) (listed scope second start ontology) :=
    TermOrder.arrange_eq_of_perm (nodup_localNames_listed _ _ _ _) (listed_perm interleaved scope start ontology)
  rw [outline_graphOf_iff (find?_isOntology only) namespaceIri,
    outline_graphOf_iff (find?_isOntology onlySecond) namespaceSecond, arranged, outlineOf_congr interleaved]
  simp only [onlyLiterals_congr interleaved, (termIris_perm interleaved start ontology).mem_iff]

end Plain

/-- The module made of a document, if its outline can be made and the module has a name and a namespace. -/
def moduleText? (content : Content) (order : TermOrder) (header : Option Text) (namespaceTerm : Bool) : Option Text :=
  (content.graph.outline order).toOption.bind fun outline =>
    (TermModule.render header namespaceTerm outline).toOption

/-- Both documents have an outline or neither, and it is the same one; so is the module, whatever its header. The
names of the terms stand in it one before the other. -/
theorem name_order_hides_interleaving {first second : Reading} {firstContent secondContent : Content} {scope : Scope}
    {ontology start : Iri} (firstRead : Content.ofReading? first = some firstContent)
    (secondRead : Content.ofReading? second = some secondContent) (firstSteady : Steady first scope)
    (secondSteady : Steady second scope)
    (interleaved : Interleaves (·.subject) (triplesOf first) (triplesOf second))
    (only : ∀ subject, IsOntology (plainTriples first) subject ↔ subject = ontology)
    (given : ⟨ontology, preferredNamespace, .literal start⟩ ∈ plainTriples first) :
    (∀ outline, firstContent.graph.outline .name = .ok outline ↔ secondContent.graph.outline .name = .ok outline) ∧
      (∀ header namespaceTerm,
        moduleText? firstContent .name header namespaceTerm = moduleText? secondContent .name header namespaceTerm) ∧
      (∀ outline, firstContent.graph.outline .name = .ok outline →
        (outline.entries.map (·.localName)).Pairwise TermOrder.NameBefore) ∧
      IsStrictTotalOrder Text TermOrder.NameBefore := by
  have firstGraph := graph_eq_graphOf firstRead firstSteady
  have secondGraph := graph_eq_graphOf secondRead secondSteady
  have same (outline : Outline) : firstContent.graph.outline .name = .ok outline ↔
      secondContent.graph.outline .name = .ok outline := by
    rw [firstGraph, secondGraph]
    exact outline_graphOf_congr (interleaves_plainTriples interleaved) only given outline
  refine ⟨same, ?_, ?_, inferInstance⟩
  · intro header namespaceTerm
    have outlines : (firstContent.graph.outline .name).toOption = (secondContent.graph.outline .name).toOption := by
      ext outline
      rw [toOption_eq_some_iff, toOption_eq_some_iff, same]
    rw [moduleText?, moduleText?, outlines]
  · intro outline outlined
    rw [firstGraph] at outlined
    exact pairwise_nameBefore_entries only given outlined

def termTriples (localName : Text) : List Triple :=
  [⟨.iri ("u:n#".toList ++ localName), rdfType, .iri (owlTerm "Class")⟩,
    ⟨.iri ("u:n#".toList ++ localName), rdfsTerm "label", .literal localName .plain⟩]

def classEntry (localName : Text) : TermEntry := ⟨localName, some localName, none, true, .none⟩

def namedTriples : List Triple :=
  [⟨.iri "u:n".toList, rdfType, .iri ontologyType⟩,
    ⟨.iri "u:n".toList, preferredLabel, .literal ['n'] .plain⟩,
    ⟨.iri "u:n".toList, preferredNamespace, .literal "u:n#".toList .plain⟩]

def subjectAfterSubject : List Triple :=
  namedTriples ++ termTriples ['b'] ++ termTriples ['B'] ++ termTriples ['a']

def subjectsMixed : List Triple :=
  (termTriples ['a']).take 1 ++ (termTriples ['B']).take 1 ++ namedTriples ++ (termTriples ['B']).drop 1 ++
    termTriples ['b'] ++ (termTriples ['a']).drop 1

def readingOf (triples : List Triple) : Reading := ⟨triples.map (⟨·, labelled⟩), some labelled⟩

theorem mixed_subjects_are_arranged :
    ∃ inOrder mixed outline, Content.ofReading? (readingOf subjectAfterSubject) = some inOrder ∧
      Content.ofReading? (readingOf subjectsMixed) = some mixed ∧ inOrder.graph ≠ mixed.graph ∧
      outline.entries.map (·.localName) = [['a'], ['B'], ['b']] ∧
      inOrder.graph.outline .name = .ok outline ∧ mixed.graph.outline .name = .ok outline ∧
      moduleText? inOrder .name none true = moduleText? mixed .name none true ∧
      (outline.entries.map (·.localName)).Pairwise TermOrder.NameBefore := by
  have steady (triples : List Triple) : Steady (readingOf triples) labelled := by
    intro statement member
    obtain ⟨triple, _, rfl⟩ := List.mem_map.mp member
    rfl
  have interleaved : Interleaves (·.subject) (triplesOf (readingOf subjectAfterSubject))
      (triplesOf (readingOf subjectsMixed)) := by
    decide +kernel
  have typed : ∀ triple ∈ plainTriples (readingOf subjectAfterSubject), triple.predicate = rdfType →
      triple.object = .iri ontologyType → triple.subject = "u:n".toList := by
    decide +kernel
  have isOntology : IsOntology (plainTriples (readingOf subjectAfterSubject)) "u:n".toList := by decide +kernel
  have only (subject : Iri) : IsOntology (plainTriples (readingOf subjectAfterSubject)) subject ↔
      subject = "u:n".toList := by
    constructor
    · exact fun ontology => typed _ ontology rfl rfl
    · rintro rfl
      exact isOntology
  have given : ⟨"u:n".toList, preferredNamespace, .literal "u:n#".toList⟩ ∈
      plainTriples (readingOf subjectAfterSubject) := by
    decide +kernel
  have sourceOrder : (Graph.ofStatements (readingOf subjectAfterSubject).statements).outline .source =
      .ok ⟨none, none, some ['n'], some "u:n#".toList, [classEntry ['b'], classEntry ['B'], classEntry ['a']]⟩ := by
    apply ok_of_toOption
    decide +kernel
  have arranged : TermOrder.arrange .name (·.localName) [classEntry ['b'], classEntry ['B'], classEntry ['a']] =
      [classEntry ['a'], classEntry ['B'], classEntry ['b']] :=
    TermOrder.arrange_eq_of_pairwise (by decide +kernel) (by decide)
  have outlined := outline_name_of_source sourceOrder
  rw [arranged] at outlined
  obtain ⟨same, text, ascending, _⟩ :=
    name_order_hides_interleaving rfl rfl (steady subjectAfterSubject) (steady subjectsMixed) interleaved only given
  exact ⟨_, _, _, rfl, rfl, by decide +kernel, rfl, outlined, (same _).mp outlined, text none true,
    ascending _ outlined⟩

end Ontology

end Termbase
