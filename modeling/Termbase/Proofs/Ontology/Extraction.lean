import Mathlib.Data.List.Nodup
import Termbase.Proofs.Ontology.Subjects
import Termbase.Proofs.Ontology.Walk
import Termbase.Proofs.Rdf.Lines

/-! What an outline says, told by the triples alone: the ontology and its values, the terms in the order in
which they first occur, and of each property the value given first. -/

namespace Termbase

namespace Ontology

open Rdf

inductive Value
  | iri (iri : Iri)
  | literal (text : Text)
deriving DecidableEq, Repr

/-- A triple about an identifier whose object is an identifier or a literal. -/
structure PlainTriple where
  subject : Iri
  predicate : Iri
  object : Value
deriving DecidableEq, Repr

def plain? (triple : Triple) : Option PlainTriple :=
  match triple.subject, triple.object with
  | .iri subject, .iri object => some ⟨subject, triple.predicate, .iri object⟩
  | .iri subject, .literal text _ => some ⟨subject, triple.predicate, .literal text⟩
  | _, _ => none

def plainTriples (reading : Reading) : List PlainTriple :=
  reading.statements.filterMap fun statement => plain? statement.triple

def subjectIris (triples : List PlainTriple) : List Iri := (triples.map (·.subject)).eraseDups

def firstObject? (triples : List PlainTriple) (subject : Iri) (predicates : List Iri) : Option Value :=
  (triples.find? fun triple => triple.subject = subject ∧ triple.predicate ∈ predicates).map (·.object)

def IsOntology (triples : List PlainTriple) (subject : Iri) : Prop :=
  ⟨subject, rdfType, .iri ontologyType⟩ ∈ triples

instance (triples : List PlainTriple) (subject : Iri) : Decidable (IsOntology triples subject) :=
  inferInstanceAs (Decidable (_ ∈ triples))

def PlainTriple.MakesClass (triple : PlainTriple) : Prop :=
  triple.predicate = rdfType ∧ ∃ type ∈ classTypes, triple.object = .iri type

def PlainTriple.Deprecates (triple : PlainTriple) : Prop :=
  (triple.predicate = rdfType ∧ ∃ type ∈ deprecatedTypes, triple.object = .iri type) ∨
    ∃ text, triple.object = .literal text ∧
      (triple.predicate = status ∧ Text.equalIgnoringAsciiCase "deprecated".toList text ∨
        triple.predicate = deprecatedFlag ∧ Text.equalIgnoringAsciiCase "true".toList text)

def nodeOf (scope : Scope) : Value → Node
  | .iri iri => .named (.ofIri scope iri)
  | .literal text => .literal text

structure Describes (triples : List PlainTriple) (scope : Scope) (subject : Iri) (entry : TermEntry) :
    Prop where
  title : firstObject? triples subject titles = entry.title.map .literal
  description : firstObject? triples subject descriptions = entry.description.map .literal
  since : (firstObject? triples subject [deprecatedOn]).getD (.literal []) =
    .literal entry.deprecation.since
  advice : entry.deprecation.advice =
    match firstObject? triples subject [supersededBy] with
    | some object => "Use this instead: ".toList ++ (nodeOf scope object).display
    | none => []
  isClass : entry.isClass = true ↔ ∃ triple ∈ triples, triple.subject = subject ∧ triple.MakesClass
  isMarked : entry.deprecation.isMarked = true ↔
    ∃ triple ∈ triples, triple.subject = subject ∧ triple.Deprecates

def termIris (triples : List PlainTriple) (start ontology : Iri) : List Iri :=
  (subjectIris triples).filter fun subject => subject ≠ ontology ∧ start <+: subject ∧ subject ≠ start

structure Extracted (triples : List PlainTriple) (scope : Scope) (order : TermOrder)
    (start ontology : Iri) (outline : Outline) : Prop where
  first : (subjectIris triples).find? (IsOntology triples ·) = some ontology
  label : firstObject? triples ontology [preferredLabel] = outline.label.map .literal
  namespaceIri : firstObject? triples ontology [preferredNamespace] = some (.literal start)
  title : firstObject? triples ontology titles = outline.title.map .literal
  description : firstObject? triples ontology descriptions = outline.description.map .literal
  terms : (outline.entries.map (start ++ ·.localName)).Perm (termIris triples start ontology)
  once : (outline.entries.map (·.localName)).Nodup
  sourceOrder : order = .source →
    outline.entries.map (start ++ ·.localName) = termIris triples start ontology
  described : ∀ entry ∈ outline.entries,
    entry.localName ≠ [] ∧ Describes triples scope (start ++ entry.localName) entry

/-- The abbreviations are the same at each statement. -/
def Steady (reading : Reading) (scope : Scope) : Prop :=
  ∀ statement ∈ reading.statements, statement.scope = scope

def factIn (scope : Scope) (triple : PlainTriple) : Fact :=
  ⟨.ofIri scope triple.subject, .ofIri scope triple.predicate, nodeOf scope triple.object⟩

theorem ofIri_injective (scope : Scope) : Function.Injective (Name.ofIri scope) :=
  Function.LeftInverse.injective (Name.iri_ofIri scope)

section Plain

variable {scope : Scope} {triples : List PlainTriple}

theorem factOf?_eq (statement : Statement) :
    factOf? statement = (plain? statement.triple).map (factIn statement.scope) := by
  unfold factOf? plain?
  cases statement.triple.subject with
  | iri subject => cases statement.triple.object <;> rfl
  | _ => rfl

theorem factsOf_eq {reading : Reading} (steady : Steady reading scope) :
    factsOf reading.statements = (plainTriples reading).map (factIn scope) := by
  rw [factsOf, plainTriples, List.map_filterMap]
  apply List.filterMap_congr
  intro statement inside
  rw [factOf?_eq, steady statement inside]

theorem subjectsOf_eq (scope : Scope) (triples : List PlainTriple) :
    subjectsOf (triples.map (factIn scope)) = (subjectIris triples).map (.ofIri scope) := by
  rw [subjectsOf, subjectIris, ← eraseDups_map_of_injOn fun _ _ _ _ same => ofIri_injective scope same,
    List.map_map, List.map_map]
  rfl

def objectsIn (triples : List PlainTriple) (subject : Iri) (predicates : List Iri) : List Value :=
  (triples.filter fun triple => triple.subject = subject ∧ triple.predicate ∈ predicates).map (·.object)

theorem firstObject?_eq_head? (subject : Iri) (predicates : List Iri) :
    firstObject? triples subject predicates = (objectsIn triples subject predicates).head? := by
  rw [firstObject?, objectsIn, List.head?_map, List.head?_filter]

theorem mem_objectsIn {subject : Iri} {predicates : List Iri} {object : Value} :
    object ∈ objectsIn triples subject predicates ↔ ∃ triple ∈ triples,
      triple.subject = subject ∧ triple.predicate ∈ predicates ∧ triple.object = object := by
  simp [objectsIn, and_assoc]

theorem objectsNamed_eq (scope : Scope) (triples : List PlainTriple) (subject : Iri)
    (predicates : List Iri) :
    objectsNamed (triples.map (factIn scope)) (.ofIri scope subject) predicates =
      (objectsIn triples subject predicates).map (nodeOf scope) := by
  rw [objectsNamed, objectsIn, List.filterMap_map, List.map_map, ← List.filterMap_eq_filter,
    List.map_filterMap]
  apply List.filterMap_congr
  intro triple _
  -- Under one scope, names tell apart the same identifiers.
  have same : Name.ofIri scope triple.subject = Name.ofIri scope subject ↔ triple.subject = subject :=
    (ofIri_injective scope).eq_iff
  simp [factIn, same, Option.guard]

theorem nodeOf_eq_literal_iff {value : Value} {text : Text} :
    nodeOf scope value = .literal text ↔ value = .literal text := by
  cases value <;> simp [nodeOf]

theorem head?_eq_findSome? {values : List Value}
    (literals : ∀ value ∈ values, ∃ text, value = .literal text) :
    values.head? = ((values.map (nodeOf scope)).findSome? Node.literal?).map .literal := by
  cases values with
  | nil => rfl
  | cons value values =>
      obtain ⟨text, rfl⟩ := literals value List.mem_cons_self
      rfl

theorem nodup_subjectIris (triples : List PlainTriple) : (subjectIris triples).Nodup := by
  apply List.Nodup.of_map (Name.ofIri .empty)
  rw [← subjectsOf_eq]
  exact nodup_eraseDups _

def graphOf (scope : Scope) (triples : List PlainTriple) : Graph := record (triples.map (factIn scope))

def placeOf (scope : Scope) (triples : List PlainTriple) (subject : Iri) : Nat :=
  (nodesOf (triples.map (factIn scope))).idxOf (.named (.ofIri scope subject))

theorem objects_graphOf (scope : Scope) (triples : List PlainTriple) (subject : Iri)
    (predicates : List Iri) :
    (graphOf scope triples).objects (placeOf scope triples subject) predicates =
      (objectsIn triples subject predicates).map (nodeOf scope) := by
  rw [graphOf, placeOf, objects_record, objectsNamed_eq]

theorem firstObject?_of_checkLiterals {subject : Iri} {predicates checked : List Iri}
    (passed : (graphOf scope triples).checkLiterals (placeOf scope triples subject) checked = .ok ())
    (within : predicates ⊆ checked) :
    firstObject? triples subject predicates =
      ((graphOf scope triples).firstText? (placeOf scope triples subject) predicates).map .literal := by
  rw [firstObject?_eq_head?, Graph.firstText?, objects_graphOf]
  apply head?_eq_findSome?
  intro value inside
  have reached : nodeOf scope value ∈
      (graphOf scope triples).objects (placeOf scope triples subject) predicates := by
    rw [objects_graphOf]
    exact List.mem_map_of_mem inside
  obtain ⟨text, literal⟩ := literal_of_checkLiterals passed within reached
  exact ⟨text, nodeOf_eq_literal_iff.mp literal⟩

theorem any_objects {subject predicate : Iri} {check : Node → Bool} :
    ((objectsIn triples subject [predicate]).map (nodeOf scope)).any check = true ↔
      ∃ triple ∈ triples, triple.subject = subject ∧ triple.predicate = predicate ∧
        check (nodeOf scope triple.object) = true := by
  simp [mem_objectsIn]
  grind

theorem iri?_nodeOf_any {value : Value} {types : List Iri} :
    (nodeOf scope value).iri?.any types.contains = true ↔ ∃ type ∈ types, value = .iri type := by
  cases value <;> simp [nodeOf, Node.iri?]

theorem literal?_nodeOf_any {value : Value} {check : Text → Bool} :
    (nodeOf scope value).literal?.any check = true ↔ ∃ text, value = .literal text ∧ check text = true := by
  cases value <;> simp [nodeOf, Node.literal?]

theorem describes_describe {subject : Iri} (localName : Text)
    (passed : (graphOf scope triples).checkLiterals (placeOf scope triples subject) termLiterals = .ok ()) :
    Describes triples scope subject
      (describe (objectsNamed (triples.map (factIn scope)) (.ofIri scope subject)) localName) := by
  have objects : objectsNamed (triples.map (factIn scope)) (.ofIri scope subject) =
      fun predicates => (objectsIn triples subject predicates).map (nodeOf scope) :=
    funext (objectsNamed_eq scope triples subject)
  have first {predicates : List Iri} (within : predicates ⊆ termLiterals) :
      firstObject? triples subject predicates = (((objectsIn triples subject predicates).map
        (nodeOf scope)).findSome? Node.literal?).map .literal := by
    rw [firstObject?_of_checkLiterals passed within, Graph.firstText?, objects_graphOf]
  have within : ∀ predicates ∈ [titles, descriptions, [deprecatedOn]], predicates ⊆ termLiterals := by
    decide +kernel
  rw [objects]
  constructor
  · exact first (within _ (by simp))
  · exact first (within _ (by simp))
  · rw [first (within _ (by simp))]
    exact Option.getD_map Value.literal [] _
  · rw [firstObject?_eq_head?]
    simp only [describe, List.head?_map]
    cases (objectsIn triples subject [supersededBy]).head? <;> rfl
  · simp only [describe, any_objects, iri?_nodeOf_any]
    rfl
  · simp only [describe, Bool.or_eq_true, any_objects, iri?_nodeOf_any, literal?_nodeOf_any,
      PlainTriple.Deprecates]
    grind

theorem hasType_graphOf (scope : Scope) (triples : List PlainTriple) (subject : Iri) :
    (graphOf scope triples).hasType (placeOf scope triples subject) [ontologyType] =
      decide (IsOntology triples subject) := by
  rw [Bool.eq_iff_iff, Graph.hasType, objects_graphOf, any_objects]
  rw [decide_eq_true_iff]
  constructor
  · rintro ⟨⟨_, _, _⟩, inside, rfl, rfl, isType⟩
    obtain ⟨type, known, rfl⟩ := iri?_nodeOf_any.mp isType
    rwa [List.mem_singleton.mp known] at inside
  · intro inside
    refine ⟨_, inside, rfl, rfl, iri?_nodeOf_any.mpr ⟨ontologyType, by simp, rfl⟩⟩

theorem ontology?_graphOf (scope : Scope) (triples : List PlainTriple) :
    (graphOf scope triples).ontology? =
      ((subjectIris triples).find? (IsOntology triples ·)).map (placeOf scope triples) := by
  have subjects : (graphOf scope triples).subjects = (subjectIris triples).map (placeOf scope triples) := by
    simp only [graphOf, record, subjectsOf_eq, List.map_map]
    rfl
  rw [Graph.ontology?, subjects, List.find?_map]
  congr 2
  funext subject
  exact hasType_graphOf scope triples subject

def listed (scope : Scope) (triples : List PlainTriple) (start ontology : Iri) : List TermEntry :=
  ((subjectIris triples).filter (· ≠ ontology)).filterMap fun subject =>
    entryNamed? (triples.map (factIn scope)) (some start) (.ofIri scope subject)

theorem entryAt?_graphOf {subject : Iri} (member : subject ∈ subjectIris triples)
    (namespaceIri : Option Iri) :
    (graphOf scope triples).entryAt? namespaceIri (placeOf scope triples subject) =
      entryNamed? (triples.map (factIn scope)) namespaceIri (.ofIri scope subject) := by
  apply entryAt?_record
  rw [subjectsOf_eq]
  exact List.mem_map_of_mem member

theorem candidates_graphOf (scope : Scope) (triples : List PlainTriple) (ontology : Iri) :
    (graphOf scope triples).candidates (placeOf scope triples ontology) =
      ((subjectIris triples).filter (· ≠ ontology)).map (placeOf scope triples) := by
  rw [graphOf, placeOf, candidates_record, subjectsOf_eq, List.filter_map, List.map_map]
  congr 1
  apply List.filter_congr
  intro subject _
  simp [bne, beq_eq_decide, (ofIri_injective scope).eq_iff]

theorem entryNamed?_localName (facts : List Fact) (scope : Scope) (start subject : Iri) :
    (entryNamed? facts (some start) (.ofIri scope subject)).map (start ++ ·.localName) =
      if start <+: subject ∧ subject ≠ start then some subject else none := by
  rw [entryNamed?, Option.map_map]
  split
  next inside =>
    obtain ⟨⟨localName, rfl⟩, proper⟩ := inside
    have named : Graph.localName? (some start) (.named (.ofIri scope (start ++ localName))) =
        some localName := by
      rw [localName?_eq_some_iff, Name.iri_ofIri]
      exact ⟨rfl, by rintro rfl; exact proper (List.append_nil start)⟩
    rw [named]
    rfl
  next outside =>
    rw [Option.map_eq_none_iff, Option.eq_none_iff_forall_ne_some]
    intro localName named
    rw [localName?_eq_some_iff, Name.iri_ofIri] at named
    obtain ⟨rfl, proper⟩ := named
    exact outside ⟨List.prefix_append _ _, by simpa using proper⟩

theorem localNames_listed (scope : Scope) (triples : List PlainTriple) (start ontology : Iri) :
    (listed scope triples start ontology).map (start ++ ·.localName) = termIris triples start ontology := by
  rw [listed, termIris, List.map_filterMap, List.filterMap_filter, ← List.filterMap_eq_filter]
  apply List.filterMap_congr
  intro subject _
  rw [entryNamed?_localName]
  by_cases same : subject = ontology
  · simp [same, Option.guard]
  · simp [same, Option.guard]

theorem nodup_localNames_listed (scope : Scope) (triples : List PlainTriple) (start ontology : Iri) :
    ((listed scope triples start ontology).map (·.localName)).Nodup := by
  have unique : (termIris triples start ontology).Nodup := (nodup_subjectIris triples).filter _
  apply List.Nodup.of_map (start ++ ·)
  rw [List.map_map]
  rwa [← localNames_listed scope] at unique

theorem filterMap_candidates_graphOf (scope : Scope) (triples : List PlainTriple) (start ontology : Iri) :
    ((graphOf scope triples).candidates (placeOf scope triples ontology)).filterMap
      ((graphOf scope triples).entryAt? (some start)) = listed scope triples start ontology := by
  rw [candidates_graphOf, List.filterMap_map, listed]
  apply List.filterMap_congr
  intro subject inside
  exact entryAt?_graphOf (List.mem_of_mem_filter inside) (some start)

theorem mem_listed {start ontology : Iri} {entry : TermEntry} :
    entry ∈ listed scope triples start ontology ↔ ∃ subject ∈ subjectIris triples, subject ≠ ontology ∧
      entryNamed? (triples.map (factIn scope)) (some start) (.ofIri scope subject) = some entry := by
  simp [listed, and_assoc]

theorem extracted_graphOf {order : TermOrder} {outline : Outline} {start : Iri}
    (outlined : (graphOf scope triples).outline order = .ok outline)
    (given : outline.namespaceIri = some start) :
    ∃ ontology, Extracted triples scope order start ontology outline := by
  obtain ⟨place, entries, found, passed, made, rfl⟩ := outline_eq_ok_iff.mp outlined
  rw [ontology?_graphOf, Option.map_eq_some_iff] at found
  obtain ⟨ontology, first, rfl⟩ := found
  have within : ∀ predicates ∈ [[preferredLabel], [preferredNamespace], titles, descriptions],
      predicates ⊆ ontologyLiterals := by
    decide +kernel
  have value {predicates : List Iri} (within : predicates ⊆ ontologyLiterals) :=
    firstObject?_of_checkLiterals passed within
  have start? : (graphOf scope triples).firstText? (placeOf scope triples ontology) [preferredNamespace] =
      some start := given
  rw [start?] at made
  have entriesEq : entries = listed scope triples start ontology := by
    rw [entries_eq_ok made, filterMap_candidates_graphOf]
  have arranged := TermOrder.arrange_perm order (·.localName) entries
  have terms : ((order.arrange (·.localName) entries).map (start ++ ·.localName)).Perm
      (termIris triples start ontology) := by
    rw [← localNames_listed scope, ← entriesEq]
    exact arranged.map _
  refine ⟨ontology, first, value (within _ (by simp)), ?_, value (within _ (by simp)),
    value (within _ (by simp)), terms, ?_, ?_, ?_⟩
  · rw [value (within _ (by simp)), start?]
    rfl
  · rw [(arranged.map _).nodup_iff, entriesEq]
    exact nodup_localNames_listed scope triples start ontology
  · rintro rfl
    rw [← localNames_listed scope, ← entriesEq]
    rfl
  · intro entry inside
    rw [arranged.mem_iff, entriesEq] at inside
    obtain ⟨subject, member, other, named⟩ := mem_listed.mp inside
    have entryAt := (entryAt?_graphOf member (some start)).trans named
    have candidate : placeOf scope triples subject ∈
        (graphOf scope triples).candidates (placeOf scope triples ontology) := by
      rw [candidates_graphOf]
      exact List.mem_map_of_mem (List.mem_filter.mpr ⟨member, by simpa using other⟩)
    obtain ⟨iri, proper, described⟩ := entryNamed?_eq_some_iff.mp named
    rw [Name.iri_ofIri] at iri
    refine ⟨proper, ?_⟩
    have describes := describes_describe entry.localName (entries_checked made candidate entryAt)
    rwa [← described, iri] at describes

theorem graph_eq_graphOf {reading : Reading} {content : Content} (read : Content.ofReading? reading = some content)
    (steady : Steady reading scope) : content.graph = graphOf scope (plainTriples reading) := by
  obtain ⟨_, _, rfl⟩ := Option.map_eq_some_iff.mp read
  rw [graphOf, ← factsOf_eq steady]
  exact ofStatements_eq_record reading.statements

end Plain

/-- The abbreviations of a document do not change, as in the two forms without declarations. -/
theorem outline_extracts_triples {reading : Reading} {content : Content} {scope : Scope} {order : TermOrder}
    {outline : Outline} {start : Iri} (read : Content.ofReading? reading = some content)
    (steady : Steady reading scope ∨ scope = .empty ∧
      ∃ document, reading = Format.nTriples.read document ∨ reading = Format.nQuads.read document)
    (outlined : content.graph.outline order = .ok outline) (given : outline.namespaceIri = some start) :
    content.graph.walk order = .ok outline ∧
      ∃ ontology, Extracted (plainTriples reading) scope order start ontology outline := by
  have steady : Steady reading scope := by
    rcases steady with steady | ⟨rfl, document, rfl | rfl⟩
    · exact steady
    · exact fun _ member => Lines.scope_of_read (Or.inl member)
    · exact fun _ member => Lines.scope_of_read (Or.inr member)
  rw [graph_eq_graphOf read steady] at outlined ⊢
  exact ⟨(Graph.walk_eq_outline (Graph.closed_record _) order).trans outlined,
    extracted_graphOf outlined given⟩

def conflicting : Text :=
  "<u:x> <http://www.w3.org/2000/01/rdf-schema#label> \"x\" .\n".toList ++
    "<u:n#A> <http://www.w3.org/2000/01/rdf-schema#label> \"a\" .\n".toList ++
    "<u:n> <http://www.w3.org/1999/02/22-rdf-syntax-ns#type> ".toList ++
    "<http://www.w3.org/2002/07/owl#Ontology> .\n".toList ++
    "<u:n> <http://purl.org/vocab/vann/preferredNamespaceUri> \"u:n#\" .\n".toList ++
    "<u:n> <http://purl.org/vocab/vann/preferredNamespaceUri> \"u:m#\" .\n".toList ++
    "<u:n#B> <http://schema.org/supersededBy> <u:n#A> .\n".toList ++
    "<u:n#A> <http://purl.org/dc/terms/title> \"b\" .\n".toList ++
    "<u:n#B> <http://schema.org/supersededBy> \"c\" .\n".toList

theorem first_values_are_extracted :
    ∃ content outline ontology,
      Content.ofReading? (Format.nTriples.read (Utf8.encode conflicting)) = some content ∧
      content.graph.outline .source = .ok outline ∧
      outline.entries = [⟨['A'], some ['a'], none, false, .none⟩,
        ⟨['B'], none, none, false, ⟨false, [], "Use this instead: u:n#A".toList⟩⟩] ∧
      Extracted (plainTriples (Format.nTriples.read (Utf8.encode conflicting))) .empty .source
        "u:n#".toList ontology outline := by
  have outlined : ((Content.ofReading? (Format.nTriples.read (Utf8.encode conflicting))).bind fun content =>
      (content.graph.outline .source).toOption) = some
        ⟨none, none, none, some "u:n#".toList, [⟨['A'], some ['a'], none, false, .none⟩,
          ⟨['B'], none, none, false, ⟨false, [], "Use this instead: u:n#A".toList⟩⟩]⟩ := by
    decide +kernel
  obtain ⟨content, read, outlined⟩ := Option.bind_eq_some_iff.mp outlined
  have outlined := ok_of_toOption outlined
  obtain ⟨_, ontology, extracted⟩ :=
    outline_extracts_triples read (Or.inr ⟨rfl, _, Or.inl rfl⟩) outlined rfl
  exact ⟨content, _, ontology, read, outlined, rfl, extracted⟩

end Ontology

end Termbase
