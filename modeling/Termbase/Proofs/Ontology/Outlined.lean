import Termbase.Proofs.Ontology.Extraction

/-! Which outline the triples have: it exists exactly if the literals asked for are literals, and is made of the
objects of each subject on its own. -/

namespace Termbase.Ontology

open Rdf

section Checked

variable {graph : Graph} {namespaceIri : Option Iri} {index : Nat}

theorem checkLiterals_eq_ok_iff (closed : graph.Closed) {checked : List Iri} :
    graph.checkLiterals index checked = .ok () ↔
      ∀ object ∈ graph.objects index checked, ∃ text, object = .literal text := by
  constructor
  · intro passed object
    exact literal_of_checkLiterals passed (List.Subset.refl checked)
  · intro literals
    rw [Graph.checkLiterals, forM_eq_ok_iff]
    intro edge member
    have outgoing : edge ∈ graph.outgoing index := List.mem_reverse.mp member
    obtain ⟨node, found⟩ := Graph.exists_target closed outgoing
    split
    next about =>
      obtain ⟨text, rfl⟩ := literals node (List.mem_filterMap.mpr ⟨edge, outgoing, by rw [if_pos about, found]⟩)
      simp only [Graph.literalText, found]
      rfl
    next => rfl

theorem entryOrStranger_of_checked {node : Node} (found : graph.nodes[index]? = some node)
    (checked : ∀ entry, graph.entryAt? namespaceIri index = some entry →
      graph.checkLiterals index termLiterals = .ok ()) :
    graph.entryOrStranger namespaceIri index =
      .ok (match graph.entryAt? namespaceIri index with
        | some entry => .inr entry
        | none => .inl node) := by
  simp only [Graph.entryAt?, found, Option.bind_some] at checked
  simp only [Graph.entryOrStranger, Graph.entryAt?, found, Option.bind_some]
  cases named : Graph.localName? namespaceIri node with
  | none => rfl
  | some localName =>
      rw [named] at checked
      simp only [Graph.entryOf, checked _ rfl]
      rfl

theorem entries_of_checked {indices : List Nat}
    (placed : ∀ index ∈ indices, ∃ node, graph.nodes[index]? = some node)
    (checked : ∀ index ∈ indices, ∀ entry, graph.entryAt? namespaceIri index = some entry →
      graph.checkLiterals index termLiterals = .ok ()) :
    graph.entries namespaceIri indices = .ok (indices.filterMap (graph.entryAt? namespaceIri)) := by
  induction indices with
  | nil => rfl
  | cons index rest ih =>
      rw [List.forall_mem_cons] at placed checked
      obtain ⟨node, found⟩ := placed.1
      rw [Graph.entries, entryOrStranger_of_checked found checked.1, ih placed.2 checked.2]
      cases entryEq : graph.entryAt? namespaceIri index with
      | none => simp [entryEq, bind, Except.bind, pure, Except.pure]
      | some entry => simp [entryEq, bind, Except.bind, pure, Except.pure]

end Checked

def Value.literal? : Value → Option Text
  | .iri _ => none
  | .literal text => some text

def OnlyLiterals (triples : List PlainTriple) (subject : Iri) (predicates : List Iri) : Prop :=
  ∀ value ∈ objectsIn triples subject predicates, ∃ text, value = .literal text

def firstLiteral? (triples : List PlainTriple) (subject : Iri) (predicates : List Iri) : Option Text :=
  (objectsIn triples subject predicates).findSome? Value.literal?

def outlineOf (triples : List PlainTriple) (ontology : Iri) (entries : List TermEntry) : Outline where
  title := firstLiteral? triples ontology titles
  description := firstLiteral? triples ontology descriptions
  label := firstLiteral? triples ontology [preferredLabel]
  namespaceIri := firstLiteral? triples ontology [preferredNamespace]
  entries

section Graphs

variable {scope : Scope} {triples : List PlainTriple} {start ontology : Iri}

theorem literal?_nodeOf (value : Value) : (nodeOf scope value).literal? = value.literal? := by
  cases value <;> rfl

theorem checkLiterals_graphOf {subject : Iri} {predicates : List Iri} :
    (graphOf scope triples).checkLiterals (placeOf scope triples subject) predicates = .ok () ↔
      OnlyLiterals triples subject predicates := by
  have closed : (graphOf scope triples).Closed := Graph.closed_record _
  rw [checkLiterals_eq_ok_iff closed, objects_graphOf, List.forall_mem_map]
  simp only [nodeOf_eq_literal_iff, OnlyLiterals]

theorem firstText?_graphOf (subject : Iri) (predicates : List Iri) :
    (graphOf scope triples).firstText? (placeOf scope triples subject) predicates =
      firstLiteral? triples subject predicates := by
  rw [Graph.firstText?, objects_graphOf, List.findSome?_map, firstLiteral?]
  congr 1
  funext value
  exact literal?_nodeOf value

theorem exists_entryNamed?_iff {facts : List Fact} {subject : Iri} :
    (∃ entry, entryNamed? facts (some start) (.ofIri scope subject) = some entry) ↔
      start <+: subject ∧ subject ≠ start := by
  rw [← Option.isSome_iff_exists, ← Option.isSome_map (f := (start ++ ·.localName)), entryNamed?_localName]
  split
  next inside => simpa using inside
  next outside => simpa using outside

theorem mem_termIris {subject : Iri} :
    subject ∈ termIris triples start ontology ↔
      subject ∈ subjectIris triples ∧ subject ≠ ontology ∧ start <+: subject ∧ subject ≠ start := by
  simp [termIris]

theorem entries_graphOf_iff {entries : List TermEntry} :
    (graphOf scope triples).entries (some start)
        ((graphOf scope triples).candidates (placeOf scope triples ontology)) = .ok entries ↔
      (∀ subject ∈ termIris triples start ontology, OnlyLiterals triples subject termLiterals) ∧
        entries = listed scope triples start ontology := by
  have candidate {subject : Iri} (member : subject ∈ subjectIris triples) (other : subject ≠ ontology) :
      placeOf scope triples subject ∈ (graphOf scope triples).candidates (placeOf scope triples ontology) := by
    rw [candidates_graphOf]
    exact List.mem_map_of_mem (List.mem_filter.mpr ⟨member, by simpa using other⟩)
  constructor
  · intro made
    refine ⟨?_, by rw [entries_eq_ok made, filterMap_candidates_graphOf]⟩
    intro subject term
    obtain ⟨member, other, inside⟩ := mem_termIris.mp term
    obtain ⟨entry, named⟩ := exists_entryNamed?_iff.mpr inside
    have entryAt : (graphOf scope triples).entryAt? (some start) (placeOf scope triples subject) = some entry :=
      (entryAt?_graphOf member (some start)).trans named
    exact checkLiterals_graphOf.mp (entries_checked made (candidate member other) entryAt)
  · rintro ⟨literals, rfl⟩
    rw [← filterMap_candidates_graphOf]
    apply entries_of_checked
    · intro index member
      rw [candidates_graphOf] at member
      obtain ⟨subject, inside, rfl⟩ := List.mem_map.mp member
      refine ⟨_, nodes_record ?_⟩
      rw [subjectsOf_eq]
      exact List.mem_map_of_mem (List.mem_of_mem_filter inside)
    · intro index member entry found
      rw [candidates_graphOf] at member
      obtain ⟨subject, inside, rfl⟩ := List.mem_map.mp member
      obtain ⟨isSubject, other⟩ := List.mem_filter.mp inside
      rw [entryAt?_graphOf isSubject] at found
      have term : subject ∈ termIris triples start ontology :=
        mem_termIris.mpr ⟨isSubject, by simpa using other, exists_entryNamed?_iff.mp ⟨entry, found⟩⟩
      exact checkLiterals_graphOf.mpr (literals subject term)

theorem outline_graphOf_iff {order : TermOrder} {outline : Outline}
    (first : (subjectIris triples).find? (IsOntology triples ·) = some ontology)
    (given : firstLiteral? triples ontology [preferredNamespace] = some start) :
    (graphOf scope triples).outline order = .ok outline ↔
      OnlyLiterals triples ontology ontologyLiterals ∧
        (∀ subject ∈ termIris triples start ontology, OnlyLiterals triples subject termLiterals) ∧
        outline = outlineOf triples ontology (order.arrange (·.localName) (listed scope triples start ontology)) := by
  have found : (graphOf scope triples).ontology? = some (placeOf scope triples ontology) := by
    rw [ontology?_graphOf, first]
    rfl
  rw [outline_eq_ok_iff]
  constructor
  · rintro ⟨place, entries, same, passed, made, rfl⟩
    rw [found] at same
    cases same
    simp only [firstText?_graphOf] at made ⊢
    rw [given] at made
    obtain ⟨literals, rfl⟩ := entries_graphOf_iff.mp made
    exact ⟨checkLiterals_graphOf.mp passed, literals, rfl⟩
  · rintro ⟨passed, literals, rfl⟩
    refine ⟨_, listed scope triples start ontology, found, checkLiterals_graphOf.mpr passed, ?_, ?_⟩
    · rw [firstText?_graphOf, given]
      exact entries_graphOf_iff.mpr ⟨literals, rfl⟩
    · simp only [firstText?_graphOf]
      rfl

theorem find?_isOntology (only : ∀ subject, IsOntology triples subject ↔ subject = ontology) :
    (subjectIris triples).find? (IsOntology triples ·) = some ontology := by
  have isSubject : ontology ∈ subjectIris triples := by
    rw [subjectIris, List.mem_eraseDups]
    exact List.mem_map_of_mem ((only ontology).mpr rfl)
  cases found : (subjectIris triples).find? (IsOntology triples ·) with
  | none =>
      have none := List.find?_eq_none.mp found ontology isSubject
      simp [only] at none
  | some subject =>
      have typed : IsOntology triples subject := by simpa using List.find?_some found
      rw [(only subject).mp typed]

theorem exists_firstLiteral? {subject predicate : Iri} {text : Text}
    (given : ⟨subject, predicate, .literal text⟩ ∈ triples) :
    ∃ first, firstLiteral? triples subject [predicate] = some first := by
  have value : Value.literal text ∈ objectsIn triples subject [predicate] :=
    mem_objectsIn.mpr ⟨_, given, rfl, List.mem_singleton_self _, rfl⟩
  rw [← Option.isSome_iff_exists, firstLiteral?, List.findSome?_isSome_iff]
  exact ⟨_, value, rfl⟩

theorem pairwise_nameBefore_entries {outline : Outline}
    (only : ∀ subject, IsOntology triples subject ↔ subject = ontology)
    (given : ⟨ontology, preferredNamespace, .literal start⟩ ∈ triples)
    (outlined : (graphOf scope triples).outline .name = .ok outline) :
    (outline.entries.map (·.localName)).Pairwise TermOrder.NameBefore := by
  obtain ⟨start, namespaceIri⟩ := exists_firstLiteral? given
  obtain ⟨_, _, rfl⟩ := (outline_graphOf_iff (find?_isOntology only) namespaceIri).mp outlined
  exact TermOrder.pairwise_nameBefore_arrange (nodup_localNames_listed _ _ _ _)

end Graphs

end Termbase.Ontology
