import Termbase.Proofs.Ontology.Fault

/-! Which documents have no outline, told by their triples: those without an ontology, and those that give an
identifier where the ontology or one of its terms needs a literal. -/

namespace Termbase.Ontology

open Rdf

/-- Whether a subject has a local name: it goes on behind the namespace, or, where none is given, it begins as a
label stands for. -/
def IsTerm (scope : Scope) (subject : Iri) : Option Iri → Prop
  | some start => start <+: subject ∧ subject ≠ start
  | none => ∃ declared ∈ scope.labels, declared.2 <+: subject

/-- A triple that gives an identifier where a literal is needed. Terms are told by the first literal that the
ontology gives for its namespace; should it give an identifier as well, that is a misfit already. -/
structure IsMisfit (triples : List PlainTriple) (scope : Scope) (ontology : Iri) (triple : PlainTriple) : Prop where
  member : triple ∈ triples
  identifier : ∃ iri, triple.object = .iri iri
  needed : triple.subject = ontology ∧ triple.predicate ∈ ontologyLiterals ∨
    triple.subject ≠ ontology ∧
      IsTerm scope triple.subject (firstLiteral? triples ontology [preferredNamespace]) ∧
      triple.predicate ∈ termLiterals

def report (scope : Scope) (triple : PlainTriple) : OutlineError :=
  .notALiteral (Name.ofIri scope triple.subject).display (Name.ofIri scope triple.predicate).display
    (nodeOf scope triple.object).display

/-- What types and marks an entry: its subject is another one than the ontology, and types are identifiers. -/
def TypedBy (triples : List PlainTriple) (scope : Scope) (namespaceIri : Option Iri) (ontology : Iri)
    (entry : TermEntry) : Prop :=
  ∃ subject ∈ subjectIris triples, subject ≠ ontology ∧
    Graph.localName? namespaceIri (.named (.ofIri scope subject)) = some entry.localName ∧
    (entry.isClass = true ↔ ∃ triple ∈ triples, triple.subject = subject ∧ triple.MakesClass) ∧
    (entry.deprecation.isMarked = true ↔ ∃ triple ∈ triples, triple.subject = subject ∧ triple.Deprecates)

theorem isPrefix_iff_stripPrefix? {start iri : Iri} :
    start <+: iri ↔ ∃ localName, Text.stripPrefix? start iri = some localName := by
  simp only [Text.stripPrefix?_eq_some_iff]
  constructor
  · rintro ⟨localName, rfl⟩
    exact ⟨localName, rfl⟩
  · rintro ⟨localName, rfl⟩
    exact List.prefix_append _ _

theorem exists_localName?_iff {scope : Scope} {subject : Iri} {namespaceIri : Option Iri} :
    (∃ localName, Graph.localName? namespaceIri (.named (.ofIri scope subject)) = some localName) ↔
      IsTerm scope subject namespaceIri := by
  cases namespaceIri with
  | some start =>
      simp only [localName?_eq_some_iff, Name.iri_ofIri, IsTerm]
      constructor
      · rintro ⟨localName, rfl, proper⟩
        exact ⟨List.prefix_append _ _, by simpa using proper⟩
      · rintro ⟨⟨localName, rfl⟩, proper⟩
        exact ⟨localName, rfl, by simpa using proper⟩
  | none =>
      simp only [IsTerm, Name.ofIri]
      cases labels : scope.labels.findSome? (Name.labelled? subject) with
      | some name =>
          obtain ⟨declared, member, found⟩ := List.exists_of_findSome?_eq_some labels
          obtain ⟨localName, stripped, rfl⟩ := Option.map_eq_some_iff.mp found
          constructor
          · intro _
            exact ⟨declared, member, isPrefix_iff_stripPrefix?.mpr ⟨localName, stripped⟩⟩
          · intro _
            exact ⟨localName, rfl⟩
      | none =>
          constructor
          · rintro ⟨localName, named⟩
            -- Without a label, the name is relative or full.
            cases base : scope.base.bind (Name.relative? subject) with
            | none =>
                rw [base] at named
                cases named
            | some name =>
                obtain ⟨_, _, found⟩ := Option.bind_eq_some_iff.mp base
                obtain ⟨_, _, rfl⟩ := Option.map_eq_some_iff.mp found
                rw [base] at named
                cases named
          · rintro ⟨declared, member, begins⟩
            obtain ⟨localName, stripped⟩ := isPrefix_iff_stripPrefix?.mp begins
            have unnamed := List.findSome?_eq_none_iff.mp labels declared member
            rw [Name.labelled?, stripped] at unnamed
            cases unnamed

section Plain

variable {scope : Scope} {triples : List PlainTriple} {namespaceIri : Option Iri} {ontology : Iri}
  {order : TermOrder}

theorem mem_subjectIris {triple : PlainTriple} (member : triple ∈ triples) :
    triple.subject ∈ subjectIris triples := by
  rw [subjectIris, List.mem_eraseDups]
  exact List.mem_map_of_mem member

theorem onlyLiterals_iff {subject : Iri} {predicates : List Iri} :
    OnlyLiterals triples subject predicates ↔ ∀ triple ∈ triples, triple.subject = subject →
      triple.predicate ∈ predicates → ¬ ∃ iri, triple.object = .iri iri := by
  have literal (value : Value) : (∃ text, value = .literal text) ↔ ¬ ∃ iri, value = .iri iri := by
    cases value <;> simp
  simp only [OnlyLiterals, mem_objectsIn, literal]
  constructor
  · intro only triple member about within
    exact only triple.object ⟨triple, member, about, within, rfl⟩
  · rintro only value ⟨triple, member, about, within, rfl⟩
    exact only triple member about within

theorem isTerm_iff_entryAt? {subject : Iri} (member : subject ∈ subjectIris triples) :
    (∃ entry, (graphOf scope triples).entryAt? namespaceIri (placeOf scope triples subject) = some entry) ↔
      IsTerm scope subject namespaceIri := by
  rw [entryAt?_graphOf member, ← exists_localName?_iff, ← Option.isSome_iff_exists, ← Option.isSome_iff_exists,
    entryNamed?, Option.isSome_map]

theorem mem_candidates_graphOf {index : Nat} :
    index ∈ (graphOf scope triples).candidates (placeOf scope triples ontology) ↔
      ∃ subject ∈ subjectIris triples, subject ≠ ontology ∧ placeOf scope triples subject = index := by
  rw [candidates_graphOf]
  simp [and_assoc]

theorem exists_node_graphOf {subject : Iri} (member : subject ∈ subjectIris triples) :
    ∃ node, (graphOf scope triples).nodes[placeOf scope triples subject]? = some node := by
  refine ⟨_, nodes_record ?_⟩
  rw [subjectsOf_eq]
  exact List.mem_map_of_mem member

theorem exists_entries_iff :
    (∃ entries, (graphOf scope triples).entries namespaceIri
        ((graphOf scope triples).candidates (placeOf scope triples ontology)) = .ok entries) ↔
      ∀ subject ∈ subjectIris triples, subject ≠ ontology → IsTerm scope subject namespaceIri →
        OnlyLiterals triples subject termLiterals := by
  constructor
  · rintro ⟨entries, made⟩ subject member other term
    obtain ⟨entry, found⟩ := (isTerm_iff_entryAt? member).mpr term
    exact checkLiterals_graphOf.mp
      (entries_checked made (mem_candidates_graphOf.mpr ⟨subject, member, other, rfl⟩) found)
  · intro literals
    refine ⟨_, entries_of_checked ?_ ?_⟩
    · intro index candidate
      obtain ⟨subject, member, _, rfl⟩ := mem_candidates_graphOf.mp candidate
      exact exists_node_graphOf member
    · intro index candidate entry found
      obtain ⟨subject, member, other, rfl⟩ := mem_candidates_graphOf.mp candidate
      exact checkLiterals_graphOf.mpr
        (literals subject member other ((isTerm_iff_entryAt? member).mp ⟨entry, found⟩))

theorem ontology?_graphOf_eq_none_iff :
    (graphOf scope triples).ontology? = none ↔ ∀ subject, ¬ IsOntology triples subject := by
  rw [ontology?_graphOf, Option.map_eq_none_iff, List.find?_eq_none]
  simp only [decide_eq_true_eq]
  constructor
  · intro missing subject isOntology
    exact missing subject (mem_subjectIris isOntology) isOntology
  · intro missing subject _
    exact missing subject

theorem report_of_faulty {subject : Iri} {predicates : List Iri} {error : OutlineError}
    (faulty : (graphOf scope triples).Faulty (placeOf scope triples subject) predicates error)
    (isSubject : subject ∈ subjectIris triples) :
    ∃ triple ∈ triples, triple.subject = subject ∧ triple.predicate ∈ predicates ∧
      (∃ iri, triple.object = .iri iri) ∧ error = report scope triple := by
  obtain ⟨edge, outgoing, about, node, found, placed, target, rfl⟩ := faulty
  obtain ⟨isEdge, leaves⟩ := List.mem_filter.mp outgoing
  obtain ⟨fact, isFact, rfl⟩ := List.mem_map.mp isEdge
  obtain ⟨triple, member, rfl⟩ := List.mem_map.mp isFact
  have isName : Name.ofIri scope subject ∈ subjectsOf (triples.map (factIn scope)) := by
    rw [subjectsOf_eq]
    exact List.mem_map_of_mem isSubject
  have fromSubject : Name.ofIri scope triple.subject = Name.ofIri scope subject := by
    have ends := mem_nodesOf.mpr ⟨_, isFact, Or.inl rfl⟩
    have same := (List.idxOf_inj ends).mp (of_decide_eq_true leaves)
    simpa [factIn] using same
  have object : nodeOf scope triple.object = .named found := by
    have reached : (nodesOf (triples.map (factIn scope)))[(nodesOf (triples.map (factIn scope))).idxOf
        (nodeOf scope triple.object)]? = some (nodeOf scope triple.object) :=
      List.getElem?_idxOf (mem_nodesOf.mpr ⟨_, isFact, Or.inr rfl⟩)
    exact Option.some.inj (reached.symm.trans target)
  have named : node = .named (.ofIri scope subject) :=
    Option.some.inj (placed.symm.trans (nodes_record isName))
  refine ⟨triple, member, ofIri_injective scope fromSubject, ?_, ?_, ?_⟩
  · simpa [edgeOf, factIn] using about
  · cases value : triple.object with
    | iri iri => exact ⟨iri, rfl⟩
    | literal text =>
        rw [value] at object
        cases object
  · rw [report, object, fromSubject, named]
    rfl

theorem misfit_of_error {error : OutlineError}
    (first : (subjectIris triples).find? (IsOntology triples ·) = some ontology)
    (failed : (graphOf scope triples).outline order = .error error) :
    ∃ triple, IsMisfit triples scope ontology triple ∧ error = report scope triple := by
  have isSubject : ontology ∈ subjectIris triples := List.mem_of_find?_eq_some first
  have chosen : (graphOf scope triples).ontology? = some (placeOf scope triples ontology) := by
    rw [ontology?_graphOf, first]
    rfl
  have placed : (graphOf scope triples).Placed := Graph.placed_record _
  rcases Graph.outline_eq_error placed failed with ⟨missing, _⟩ | ⟨place, same, faulty⟩
  · rw [chosen] at missing
    cases missing
  · rw [chosen] at same
    cases same
    rcases faulty with faulty | ⟨index, candidate, isTerm, faulty⟩
    · obtain ⟨triple, member, about, within, identifier, rfl⟩ := report_of_faulty faulty isSubject
      exact ⟨triple, ⟨member, identifier, Or.inl ⟨about, within⟩⟩, rfl⟩
    · obtain ⟨subject, inside, other, rfl⟩ := mem_candidates_graphOf.mp candidate
      obtain ⟨triple, member, rfl, within, identifier, rfl⟩ := report_of_faulty faulty inside
      have term := (isTerm_iff_entryAt? inside).mp isTerm
      rw [firstText?_graphOf] at term
      exact ⟨triple, ⟨member, identifier, Or.inr ⟨other, term, within⟩⟩, rfl⟩

theorem exists_outline_iff (first : (subjectIris triples).find? (IsOntology triples ·) = some ontology) :
    (∃ outline, (graphOf scope triples).outline order = .ok outline) ↔
      ∀ triple, ¬ IsMisfit triples scope ontology triple := by
  have chosen : (graphOf scope triples).ontology? = some (placeOf scope triples ontology) := by
    rw [ontology?_graphOf, first]
    rfl
  constructor
  · rintro ⟨outline, outlined⟩ triple misfit
    obtain ⟨place, entries, same, passed, made, rfl⟩ := outline_eq_ok_iff.mp outlined
    rw [chosen] at same
    cases same
    rw [firstText?_graphOf] at made
    rcases misfit.needed with ⟨about, within⟩ | ⟨other, term, within⟩
    · exact onlyLiterals_iff.mp (checkLiterals_graphOf.mp passed) triple misfit.member about within
        misfit.identifier
    · have literals := exists_entries_iff.mp ⟨entries, made⟩ _ (mem_subjectIris misfit.member) other term
      exact onlyLiterals_iff.mp literals triple misfit.member rfl within misfit.identifier
  · intro fitting
    have passed : OnlyLiterals triples ontology ontologyLiterals := by
      rw [onlyLiterals_iff]
      intro triple member about within identifier
      exact fitting triple ⟨member, identifier, Or.inl ⟨about, within⟩⟩
    have listed : ∃ entries, (graphOf scope triples).entries (firstLiteral? triples ontology [preferredNamespace])
        ((graphOf scope triples).candidates (placeOf scope triples ontology)) = .ok entries := by
      rw [exists_entries_iff]
      intro subject _ other term
      rw [onlyLiterals_iff]
      rintro triple member rfl within identifier
      exact fitting triple ⟨member, identifier, Or.inr ⟨other, term, within⟩⟩
    obtain ⟨entries, made⟩ := listed
    have namespaceIri : (graphOf scope triples).firstText? (placeOf scope triples ontology) [preferredNamespace] =
        firstLiteral? triples ontology [preferredNamespace] := firstText?_graphOf _ _
    rw [← namespaceIri] at made
    exact ⟨_, outline_eq_ok_iff.mpr
      ⟨_, entries, chosen, checkLiterals_graphOf.mpr passed, made, rfl⟩⟩

theorem typedBy_of_outline {outline : Outline}
    (first : (subjectIris triples).find? (IsOntology triples ·) = some ontology)
    (outlined : (graphOf scope triples).outline order = .ok outline) :
    ∀ entry ∈ outline.entries, TypedBy triples scope outline.namespaceIri ontology entry := by
  obtain ⟨place, entries, same, passed, made, rfl⟩ := outline_eq_ok_iff.mp outlined
  rw [ontology?_graphOf, first] at same
  cases same
  intro entry inside
  rw [(TermOrder.arrange_perm order _ entries).mem_iff, entries_eq_ok made, List.mem_filterMap] at inside
  obtain ⟨index, candidate, found⟩ := inside
  obtain ⟨subject, member, other, rfl⟩ := mem_candidates_graphOf.mp candidate
  have passed := entries_checked made candidate found
  rw [entryAt?_graphOf member] at found
  obtain ⟨localName, named, rfl⟩ := Option.map_eq_some_iff.mp found
  have describes := describes_describe localName passed
  exact ⟨subject, member, other, named, describes.isClass, describes.isMarked⟩

end Plain

/-- Under abbreviations that do not change, and in either order: no ontology is reported exactly if there is none.
With an ontology, a literal is asked for exactly if a triple is a misfit, the report names such a triple, and in
all other cases there is an outline, whose entries are typed by identifiers alone. -/
theorem outline_fails_exactly {reading : Reading} {content : Content} {scope : Scope}
    (read : Content.ofReading? reading = some content) (steady : Steady reading scope) (order : TermOrder) :
    content.graph.walk order = content.graph.outline order ∧
      (content.graph.outline order = .error .noOntology ↔ ∀ subject, ¬ IsOntology (plainTriples reading) subject) ∧
      ∀ ontology, (subjectIris (plainTriples reading)).find? (IsOntology (plainTriples reading) ·) = some ontology →
        ((∃ subject predicate found, content.graph.outline order = .error (.notALiteral subject predicate found)) ↔
          ∃ triple, IsMisfit (plainTriples reading) scope ontology triple) ∧
        (∀ error, content.graph.outline order = .error error →
          ∃ triple, IsMisfit (plainTriples reading) scope ontology triple ∧ error = report scope triple) ∧
        ((∃ outline, content.graph.outline order = .ok outline) ↔
          ∀ triple, ¬ IsMisfit (plainTriples reading) scope ontology triple) ∧
        ∀ outline, content.graph.outline order = .ok outline → ∀ entry ∈ outline.entries,
          TypedBy (plainTriples reading) scope outline.namespaceIri ontology entry := by
  rw [graph_eq_graphOf read steady]
  refine ⟨Graph.walk_eq_outline (Graph.closed_record _) order, ?_, ?_⟩
  · exact (Graph.outline_eq_noOntology_iff (Graph.placed_record _)).trans ontology?_graphOf_eq_none_iff
  · intro ontology first
    refine ⟨?_, fun error => misfit_of_error first, exists_outline_iff first, fun outline => typedBy_of_outline first⟩
    constructor
    · rintro ⟨subject, predicate, found, failed⟩
      obtain ⟨triple, misfit, _⟩ := misfit_of_error first failed
      exact ⟨triple, misfit⟩
    · rintro ⟨triple, misfit⟩
      cases outcome : (graphOf scope (plainTriples reading)).outline order with
      | ok outline => exact absurd misfit ((exists_outline_iff first).mp ⟨outline, outcome⟩ triple)
      | error error =>
          obtain ⟨other, _, rfl⟩ := misfit_of_error first outcome
          exact ⟨_, _, _, rfl⟩

/-- A stranger with an identifier for its label, and a term whose type is a literal and that has two dates. -/
def datedBy (date : Rdf.Term) : Reading :=
  ⟨[⟨⟨.iri "u:n".toList, rdfType, .iri ontologyType⟩, labelled⟩,
    ⟨⟨.iri "u:n".toList, preferredNamespace, .literal "u:n#".toList .plain⟩, labelled⟩,
    ⟨⟨.iri "u:x".toList, rdfsTerm "label", .iri "u:y".toList⟩, labelled⟩,
    ⟨⟨.iri "u:n#A".toList, rdfType, .literal (owlTerm "Class") .plain⟩, labelled⟩,
    ⟨⟨.iri "u:n#A".toList, deprecatedOn, .literal "2000".toList .plain⟩, labelled⟩,
    ⟨⟨.iri "u:n#A".toList, deprecatedOn, date⟩, labelled⟩], some labelled⟩

theorem overruled_date_is_a_misfit :
    ∃ literals identifier outline, Content.ofReading? (datedBy (.literal "2001".toList .plain)) = some literals ∧
      Content.ofReading? (datedBy (.iri "u:d".toList)) = some identifier ∧
      literals.graph.outline .source = .ok outline ∧
      outline.entries = [⟨['A'], none, none, false, ⟨false, "2000".toList, []⟩⟩] ∧
      (∀ triple, ¬ IsMisfit (plainTriples (datedBy (.literal "2001".toList .plain))) labelled "u:n".toList triple) ∧
      ∃ subject predicate found,
        identifier.graph.outline .source = .error (.notALiteral subject predicate found) := by
  have steady (date : Rdf.Term) : Steady (datedBy date) labelled := by
    simp [Steady, datedBy]
  have first : ∀ date ∈ [.literal "2001".toList .plain, .iri "u:d".toList],
      (subjectIris (plainTriples (datedBy date))).find? (IsOntology (plainTriples (datedBy date)) ·) =
        some "u:n".toList := by
    decide +kernel
  have outlined : (Graph.ofStatements (datedBy (.literal "2001".toList .plain)).statements).outline .source = .ok
      ⟨none, none, none, some "u:n#".toList, [⟨['A'], none, none, false, ⟨false, "2000".toList, []⟩⟩]⟩ := by
    apply ok_of_toOption
    decide +kernel
  have misfit : IsMisfit (plainTriples (datedBy (.iri "u:d".toList))) labelled "u:n".toList
      ⟨"u:n#A".toList, deprecatedOn, .iri "u:d".toList⟩ := by
    refine ⟨by decide +kernel, ⟨_, rfl⟩, Or.inr ⟨by decide, ?_, by decide +kernel⟩⟩
    have start : firstLiteral? (plainTriples (datedBy (.iri "u:d".toList))) "u:n".toList [preferredNamespace] =
        some "u:n#".toList := by
      decide +kernel
    rw [start]
    exact ⟨by decide, by decide⟩
  obtain ⟨_, _, fitting⟩ := outline_fails_exactly rfl (steady (.literal "2001".toList .plain)) .source
  obtain ⟨_, _, failing⟩ := outline_fails_exactly rfl (steady (.iri "u:d".toList)) .source
  have fits := (fitting _ (first _ (by simp))).2.2.1.mp ⟨_, outlined⟩
  have fails := (failing _ (first _ (by simp))).1.mpr ⟨_, misfit⟩
  exact ⟨_, _, _, rfl, rfl, outlined, rfl, fits, fails⟩

end Termbase.Ontology
