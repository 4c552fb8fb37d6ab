import Termbase.Proofs.Ontology.Expansion
import Termbase.Proofs.TermModule.Numbering

/-! What a module tells of deprecated terms. A date or a successor alone does not mark a term, so that these are
kept exactly for terms that are marked besides. -/

namespace Termbase

namespace TermModule

def termConstants (entries : List TermEntry) : List TermConstant :=
  (constantNames entries).zipWith constantOf entries

/-- The item that declares a constant, with the two last arguments for a deprecated one only. -/
def TermConstant.written (constant : TermConstant) : Text :=
  sourceLine [] ++ sourceLine [constant.item, "!(".toList] ++
    TermModule.arguments ([constant.name, constant.base, '"' :: constant.localName ++ ['"'],
      stringLiteral constant.documentation] ++
      constant.deprecation.toList.flatMap fun texts => [stringLiteral texts.1, stringLiteral texts.2]) ++
    sourceLine [");".toList]

section Constants

variable {entries : List TermEntry}

theorem termItem_eq_written (name : Text) (entry : TermEntry) :
    termItem name entry = (constantOf name entry).written := by
  cases marked : entry.deprecation.isMarked <;>
    simp [termItem, TermConstant.written, TermConstant.item, constantOf, deprecationArguments, sourceLine, marked]

theorem body_eq_written (label title : Text) (namespaceTerm : Bool) (entries : List TermEntry) :
    body label title namespaceTerm entries =
      (termConstants entries).flatMap (·.written) ++ listItem label title namespaceTerm (constantNames entries) := by
  have items : (constantNames entries).zipWith termItem entries =
      (termConstants entries).map TermConstant.written := by
    rw [termConstants, List.map_zipWith]
    congr 1
    funext name entry
    exact termItem_eq_written name entry
  rw [body, items, List.flatMap_def]

theorem mem_termConstants {constant : TermConstant} :
    constant ∈ termConstants entries ↔ ∃ (position : Nat) (name : Text) (entry : TermEntry),
      (constantNames entries)[position]? = some name ∧ entries[position]? = some entry ∧
        constantOf name entry = constant := by
  simp only [termConstants, List.mem_iff_getElem?, List.getElem?_zipWith_eq_some]

theorem exists_constant_of_mem {entry : TermEntry} (member : entry ∈ entries) :
    ∃ (position : Nat) (name : Text),
      (constantNames entries)[position]? = some name ∧ entries[position]? = some entry := by
  obtain ⟨position, bound, found⟩ := List.getElem_of_mem member
  have named : position < (constantNames entries).length := by rwa [length_constantNames]
  exact ⟨position, _, List.getElem?_eq_getElem named, by rw [List.getElem?_eq_getElem bound, found]⟩

theorem baseName_prefix_wantedName (entries : List TermEntry) (entry : TermEntry) :
    baseName entry <+: wantedName entries entry := by
  simp only [wantedName]
  split
  next => exact List.prefix_append _ _
  next => exact List.prefix_rfl

theorem baseName_prefix_constantName {position : Nat} {name : Text} {entry : TermEntry}
    (named : (constantNames entries)[position]? = some name) (listed : entries[position]? = some entry) :
    baseName entry <+: name := by
  rw [constantNames, getElem?_freeNames, List.getElem?_map, listed, Option.map_some, Option.map_some,
    Option.some.injEq] at named
  have wanted := baseName_prefix_wantedName entries entry
  subst named
  rcases freeName_eq _ (wantedName entries entry) with same | ⟨number, same⟩
  · rwa [same]
  · rw [same]
    exact wanted.trans ((List.prefix_append _ _).trans (List.prefix_append _ _))

theorem deprecated_prefix_baseName {entry : TermEntry} (marked : entry.deprecation.isMarked = true) :
    "DEPRECATED_".toList <+: baseName entry := by
  rw [baseName, if_pos marked]
  exact List.prefix_append _ _

end Constants

end TermModule

namespace Ontology

open Rdf TermModule

/-- A triple of one of the kinds that tell of a deprecation: a mark, a date, or a successor. -/
def PlainTriple.TellsDeprecation (triple : PlainTriple) : Prop :=
  triple.Deprecates ∨ triple.predicate = deprecatedOn ∨ triple.predicate = supersededBy

structure Tells (facts : List Fact) (iri : Iri) (since advice : Text) : Prop where
  date : ∀ object, (objectsOf facts iri [deprecatedOn]).head? = some object → object = .literal since
  successor : ∀ object, (objectsOf facts iri [supersededBy]).head? = some object →
    advice = "Use this instead: ".toList ++ object.display

/-- Some triple tells of the deprecation of the term with the local name; the ontology itself is none of its
terms. -/
def IsToldDeprecated (facts : List Fact) (start ontology localName : Text) : Prop :=
  localName ≠ [] ∧ start ++ localName ≠ ontology ∧
    ∃ fact ∈ facts, fact.subject.iri = start ++ localName ∧ fact.plain.TellsDeprecation

def KeepsDeprecations (facts : List Fact) (start ontology : Iri) (constants : List TermConstant) : Prop :=
  ∀ localName, IsToldDeprecated facts start ontology localName → ∃ constant ∈ constants,
    constant.localName = localName ∧ "DEPRECATED_".toList <+: constant.name ∧
      ∃ since advice, constant.deprecation = some (since, advice) ∧ Tells facts (start ++ localName) since advice

/-- Under one name of its own, a term is marked, and has its first date and its first successor. -/
def IsMarkedUnder (facts : List Fact) (subject : Name) : Prop :=
  (∃ fact ∈ facts, fact.subject = subject ∧ fact.plain.Deprecates) ∧
    Tells facts subject.iri (describe (objectsNamed facts subject) []).deprecation.since
      (describe (objectsNamed facts subject) []).deprecation.advice

section Facts

variable {facts : List Fact} {start : Iri} {subject ontology : Name} {localName : Text} {entries : List TermEntry}

theorem any_objectsNamed {predicate : Iri} {check : Node → Bool} :
    (objectsNamed facts subject [predicate]).any check = true ↔
      ∃ fact ∈ facts, fact.subject = subject ∧ fact.predicate.iri = predicate ∧ check fact.object = true := by
  simp only [objectsNamed, List.any_eq_true, List.mem_filterMap, Bool.and_eq_true, beq_iff_eq,
    List.contains_eq_mem, List.mem_singleton, decide_eq_true_eq, Option.ite_none_right_eq_some, Option.some.injEq]
  constructor
  · rintro ⟨object, ⟨fact, member, ⟨about, predicate⟩, rfl⟩, checked⟩
    exact ⟨fact, member, about, predicate, checked⟩
  · rintro ⟨fact, member, about, predicate, checked⟩
    exact ⟨fact.object, ⟨fact, member, ⟨about, predicate⟩, rfl⟩, checked⟩

theorem iri?_any_iff {node : Node} {types : List Iri} :
    node.iri?.any types.contains = true ↔ ∃ type ∈ types, node.value = .iri type := by
  cases node <;> simp [Node.iri?, Node.value]

theorem literal?_any_iff {node : Node} {check : Text → Bool} :
    node.literal?.any check = true ↔ ∃ text, node.value = .literal text ∧ check text = true := by
  cases node <;> simp [Node.literal?, Node.value]

theorem isMarked_describe (facts : List Fact) (subject : Name) (localName : Text) :
    (describe (objectsNamed facts subject) localName).deprecation.isMarked = true ↔
      ∃ fact ∈ facts, fact.subject = subject ∧ fact.plain.Deprecates := by
  simp only [describe, Bool.or_eq_true, any_objectsNamed, iri?_any_iff, literal?_any_iff, PlainTriple.Deprecates,
    Fact.plain]
  grind

theorem exists_deprecated_constant_iff {tells : Text → Text → Prop} :
    (∃ constant ∈ termConstants entries, constant.localName = localName ∧ "DEPRECATED_".toList <+: constant.name ∧
        ∃ since advice, constant.deprecation = some (since, advice) ∧ tells since advice) ↔
      ∃ entry ∈ entries, entry.localName = localName ∧ entry.deprecation.isMarked = true ∧
        tells entry.deprecation.since entry.deprecation.advice := by
  constructor
  · rintro ⟨constant, member, same, _, since, advice, deprecation, told⟩
    obtain ⟨position, name, entry, _, listed, rfl⟩ := mem_termConstants.mp member
    simp only [constantOf] at deprecation
    split at deprecation
    next marked =>
      cases deprecation
      exact ⟨entry, List.mem_of_getElem? listed, same, marked, told⟩
    next => cases deprecation
  · rintro ⟨entry, member, same, marked, told⟩
    obtain ⟨position, name, named, listed⟩ := exists_constant_of_mem member
    have capitals := (deprecated_prefix_baseName marked).trans (baseName_prefix_constantName named listed)
    exact ⟨constantOf name entry, mem_termConstants.mpr ⟨position, name, entry, named, listed, rfl⟩, same, capitals,
      _, _, if_pos marked, told⟩

theorem keepsDeprecations_iff (listed : Listed facts start ontology entries) :
    KeepsDeprecations facts start ontology.iri (termConstants entries) ↔
      ∀ localName, IsToldDeprecated facts start ontology.iri localName →
        ∃ subject ∈ subjectsOf facts, subject ≠ ontology ∧ subject.iri = start ++ localName ∧
          IsMarkedUnder facts subject := by
  unfold KeepsDeprecations
  refine forall₂_congr fun localName told => ?_
  rw [exists_deprecated_constant_iff]
  constructor
  · rintro ⟨entry, member, rfl, marked, tells⟩
    obtain ⟨subject, isSubject, other, found⟩ := listed.mem_iff.mp member
    obtain ⟨iri, _, described⟩ := entryNamed?_eq_some_iff.mp found
    have deprecation := congrArg TermEntry.deprecation described
    rw [deprecation, isMarked_describe] at marked
    rw [deprecation, ← iri] at tells
    exact ⟨subject, isSubject, other, iri, marked, tells⟩
  · rintro ⟨subject, isSubject, other, iri, marked, tells⟩
    refine ⟨describe (objectsNamed facts subject) localName, listed.mem_iff.mpr ⟨subject, isSubject, other, ?_⟩,
      rfl, (isMarked_describe facts subject localName).mpr marked, ?_⟩
    · exact entryNamed?_eq_some_iff.mpr ⟨iri, told.1, rfl⟩
    · rw [← iri]
      exact tells

theorem isMarkedUnder_iff (named : OneName facts start) (isSubject : subject ∈ subjectsOf facts)
    (proper : localName ≠ []) (iri : subject.iri = start ++ localName)
    (dates : ∀ object ∈ objectsNamed facts subject [deprecatedOn], ∃ text, object = .literal text) :
    IsMarkedUnder facts subject ↔ ∃ fact ∈ facts, fact.subject = subject ∧ fact.plain.Deprecates := by
  refine ⟨And.left, fun marked => ⟨marked, ?_, ?_⟩⟩
  · intro object first
    rw [iri, ← objectsNamed_eq_objectsOf named isSubject proper iri] at first
    obtain ⟨text, rfl⟩ := dates object (List.mem_of_mem_head? first)
    obtain ⟨later, objects⟩ := List.head?_eq_some_iff.mp first
    simp [describe, objects, List.findSome?_cons, Node.literal?]
  · intro object first
    rw [iri, ← objectsNamed_eq_objectsOf named isSubject proper iri] at first
    simp [describe, first]

theorem literal_of_outline {order : TermOrder} {outline : Outline} {predicates : List Iri} {object : Node}
    (outlined : (record facts).outline order = .ok outline) (given : outline.namespaceIri = some start)
    (chosen : (record facts).ontology? = some ((nodesOf facts).idxOf (.named ontology)))
    (isSubject : subject ∈ subjectsOf facts) (other : subject ≠ ontology) (proper : localName ≠ [])
    (iri : subject.iri = start ++ localName) (within : predicates ⊆ termLiterals)
    (member : object ∈ objectsNamed facts subject predicates) : ∃ text, object = .literal text := by
  obtain ⟨place, entries, same, _, made, rfl⟩ := outline_eq_ok_iff.mp outlined
  rw [chosen] at same
  cases same
  rw [show (record facts).firstText? _ _ = some start from given] at made
  have candidate : (nodesOf facts).idxOf (.named subject) ∈
      (record facts).candidates ((nodesOf facts).idxOf (.named ontology)) := by
    rw [candidates_record]
    exact List.mem_map_of_mem (List.mem_filter.mpr ⟨isSubject, by simpa using other⟩)
  have isTerm : (record facts).entryAt? (some start) ((nodesOf facts).idxOf (.named subject)) =
      some (describe (objectsNamed facts subject) localName) := by
    rw [entryAt?_record isSubject]
    exact entryNamed?_eq_some_iff.mpr ⟨iri, proper, rfl⟩
  rw [← objects_record] at member
  exact literal_of_checkLiterals (entries_checked made candidate isTerm) within member

end Facts

/-- Of a module that is made of a document. Whatever names its subjects have: each deprecation that the document
tells of is kept exactly if each such term is marked, dated and replaced under one of its names. Where the terms
have one name each, all are kept exactly if every term with a date or a successor is marked besides. -/
theorem deprecations_are_kept_iff {reading : Reading} {content : Content} {order : TermOrder} {outline : Outline}
    {header : Option Text} {namespaceTerm : Bool} {text : Text} (read : Content.ofReading? reading = some content)
    (outlined : content.graph.outline order = .ok outline)
    (rendered : render header namespaceTerm outline = .ok text) :
    ∃ label start before ontology, outline.label = some label ∧ outline.namespaceIri = some start ∧
      content.graph.ontology?.bind (content.graph.nodes[·]?) = some (.named ontology) ∧
      text = before ++ labelLine label ++ ((termConstants outline.entries).flatMap (·.written) ++
        listItem label (titleOf outline) namespaceTerm (constantNames outline.entries)) ∧
      (KeepsDeprecations (factsOf reading.statements) start ontology.iri (termConstants outline.entries) ↔
        ∀ localName, IsToldDeprecated (factsOf reading.statements) start ontology.iri localName →
          ∃ subject ∈ subjectsOf (factsOf reading.statements), subject ≠ ontology ∧
            subject.iri = start ++ localName ∧ IsMarkedUnder (factsOf reading.statements) subject) ∧
      (OneName (factsOf reading.statements) start →
        (KeepsDeprecations (factsOf reading.statements) start ontology.iri (termConstants outline.entries) ↔
          ∀ localName, IsToldDeprecated (factsOf reading.statements) start ontology.iri localName →
            ∃ triple ∈ plainTriples reading, triple.subject = start ++ localName ∧ triple.Deprecates)) := by
  have graph : content.graph = record (factsOf reading.statements) := by
    obtain ⟨_, _, rfl⟩ := Option.map_eq_some_iff.mp read
    exact ofStatements_eq_record reading.statements
  rw [graph] at outlined ⊢
  obtain ⟨label, start, labelled, given⟩ :
      ∃ label start, outline.label = some label ∧ outline.namespaceIri = some start := by
    unfold render at rendered
    split at rendered
    next => cases rendered
    next => cases rendered
    next label start labelled given => exact ⟨label, start, labelled, given⟩
  obtain ⟨before, shape⟩ := exists_render_eq labelled given header namespaceTerm
  rw [rendered, Except.ok.injEq, body_eq_written] at shape
  obtain ⟨ontology, isOntology, chosen, entries⟩ := outline_record outlined
  have listed : Listed (factsOf reading.statements) start ontology outline.entries := by
    unfold Listed
    rw [entries, given]
    exact TermOrder.arrange_perm _ _ _
  have general := keepsDeprecations_iff listed
  refine ⟨label, start, before, ontology, labelled, given, ?_, shape, general, ?_⟩
  · rw [chosen]
    exact nodes_record isOntology
  · intro named
    rw [general, ← map_plain_factsOf]
    refine forall₂_congr fun localName told => ?_
    have marked_iff {subject : Name} (isSubject : subject ∈ subjectsOf (factsOf reading.statements))
        (other : subject ≠ ontology) (iri : subject.iri = start ++ localName) :=
      isMarkedUnder_iff named isSubject told.1 iri fun _ =>
        literal_of_outline outlined given chosen isSubject other told.1 iri (by decide +kernel)
    constructor
    · rintro ⟨subject, isSubject, other, iri, marked⟩
      obtain ⟨fact, member, rfl, deprecates⟩ := (marked_iff isSubject other iri).mp marked
      exact ⟨fact.plain, List.mem_map_of_mem member, iri, deprecates⟩
    · rintro ⟨triple, inside, iri, deprecates⟩
      obtain ⟨fact, member, rfl⟩ := List.mem_map.mp inside
      have isSubject : fact.subject ∈ subjectsOf (factsOf reading.statements) :=
        mem_subjectsOf.mpr ⟨fact, member, rfl⟩
      have other : fact.subject ≠ ontology := by
        intro same
        exact told.2.1 (iri.symm.trans (congrArg Name.iri same))
      exact ⟨fact.subject, isSubject, other, iri,
        (marked_iff isSubject other iri).mpr ⟨fact, member, rfl, deprecates⟩⟩

def said (subject : String) (predicate : Iri) (object : Rdf.Term) : Statement :=
  ⟨⟨.iri subject.toList, predicate, object⟩, .empty⟩

def withdrawnTerm (marks : List Statement) : Reading :=
  ⟨[said "u:n" rdfType (.iri ontologyType), said "u:n" preferredNamespace (.literal "u:n#".toList .plain),
    said "u:n" preferredLabel (.literal ['n'] .plain), said "u:n#A" deprecatedOn (.literal "2020".toList .plain),
    said "u:n#A" supersededBy (.iri "u:n#B".toList)] ++ marks, some .empty⟩

def withdrawnOutline (marked : Bool) : Outline :=
  ⟨none, none, some ['n'], some "u:n#".toList,
    [⟨['A'], none, none, false, ⟨marked, "2020".toList, "Use this instead: u:n#B".toList⟩⟩]⟩

def withdrawnMark : Statement := said "u:n#A" status (.literal "Deprecated".toList .plain)

theorem marked_term_keeps_date :
    ∃ content, Content.ofReading? (withdrawnTerm [withdrawnMark]) = some content ∧
      content.graph.outline .name = .ok (withdrawnOutline true) ∧
      KeepsDeprecations (factsOf (withdrawnTerm [withdrawnMark]).statements) "u:n#".toList "u:n".toList
        (termConstants (withdrawnOutline true).entries) ∧
      (termConstants (withdrawnOutline true).entries).map (·.deprecation) =
        [some ("2020".toList, "Use this instead: u:n#B".toList)] := by
  have read : Content.ofReading? (withdrawnTerm [withdrawnMark]) =
      some ⟨.ofStatements (withdrawnTerm [withdrawnMark]).statements, .empty⟩ := rfl
  have outlined : (Graph.ofStatements (withdrawnTerm [withdrawnMark]).statements).outline .name =
      .ok (withdrawnOutline true) := by
    apply ok_of_toOption
    decide +kernel
  obtain ⟨text, rendered⟩ : ∃ text, render none false (withdrawnOutline true) = .ok text := ⟨_, rfl⟩
  obtain ⟨_, _, _, ontology, _, given, chosen, _, _, kept⟩ := deprecations_are_kept_iff read outlined rendered
  have isOntology : (Graph.ofStatements (withdrawnTerm [withdrawnMark]).statements).ontology?.bind
      ((Graph.ofStatements (withdrawnTerm [withdrawnMark]).statements).nodes[·]?) =
        some (.named (.full "u:n".toList)) := by
    decide +kernel
  cases isOntology.symm.trans chosen
  cases given
  refine ⟨_, read, outlined, (kept ?_).mpr ?_, by decide +kernel⟩
  · have same : ∀ first ∈ factsOf (withdrawnTerm [withdrawnMark]).statements,
        ∀ second ∈ factsOf (withdrawnTerm [withdrawnMark]).statements,
          first.subject.iri = second.subject.iri → first.subject = second.subject := by
      decide +kernel
    intro first firstIn second secondIn localName _ firstIri secondIri
    exact same first firstIn second secondIn (firstIri.trans secondIri.symm)
  · rintro localName ⟨_, other, fact, member, iri, _⟩
    have subjects : ∀ fact ∈ factsOf (withdrawnTerm [withdrawnMark]).statements,
        fact.subject.iri = "u:n".toList ∨ fact.subject.iri = "u:n#A".toList := by
      decide +kernel
    rcases subjects fact member with isOntology | isTerm
    · exact absurd (iri.symm.trans isOntology) other
    · refine ⟨⟨"u:n#A".toList, status, .literal "Deprecated".toList⟩, by decide +kernel, isTerm.symm.trans iri, ?_⟩
      exact Or.inr ⟨_, rfl, Or.inl ⟨rfl, by decide +kernel⟩⟩

def withdrawnText : Text :=
  "<u:n> a <http://www.w3.org/2002/07/owl#Ontology> ; ".toList ++
    "<http://purl.org/vocab/vann/preferredNamespaceUri> \"u:n#\" ; ".toList ++
    "<http://purl.org/vocab/vann/preferredNamespacePrefix> \"n\" .\n".toList ++
    "<u:n#A> <http://creativecommons.org/ns#deprecatedOn> \"2020\" ; ".toList ++
    "<http://schema.org/supersededBy> <u:n#B> .\n".toList

theorem date_alone_is_lost :
    ∃ content text, Content.read? .turtle (Utf8.encode withdrawnText) = some content ∧
      content.graph.outline .name = .ok (withdrawnOutline false) ∧
      IsToldDeprecated (factsOf (withdrawnTerm []).statements) "u:n#".toList "u:n".toList ['A'] ∧
      render none false (withdrawnOutline false) = .ok text ∧
      ¬ KeepsDeprecations (factsOf (withdrawnTerm []).statements) "u:n#".toList "u:n".toList
        (termConstants (withdrawnOutline false).entries) ∧
      ∀ part ∈ ["DEPRECATED".toList, "deprecated".toList, "2020".toList, "u:n#B".toList], ¬ part <:+: text := by
  have read : Format.turtle.read (Utf8.encode withdrawnText) = withdrawnTerm [] := by
    decide +kernel
  have outlined : (Graph.ofStatements (withdrawnTerm []).statements).outline .name =
      .ok (withdrawnOutline false) := by
    apply ok_of_toOption
    decide +kernel
  have told : IsToldDeprecated (factsOf (withdrawnTerm []).statements) "u:n#".toList "u:n".toList ['A'] := by
    refine ⟨by decide, by decide, ⟨.full "u:n#A".toList, .full deprecatedOn, .literal "2020".toList⟩, ?_, rfl,
      Or.inr (Or.inl rfl)⟩
    decide +kernel
  have unmarked : ∀ constant ∈ termConstants (withdrawnOutline false).entries, constant.deprecation = none := by
    decide +kernel
  rw [Content.read?, read]
  refine ⟨_, _, rfl, outlined, told, rfl, ?_, ?_⟩
  · intro kept
    obtain ⟨constant, member, _, _, _, _, deprecation, _⟩ := kept _ told
    rw [unmarked constant member] at deprecation
    cases deprecation
  · decide +kernel

end Ontology

end Termbase
