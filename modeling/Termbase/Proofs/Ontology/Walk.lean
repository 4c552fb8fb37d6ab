import Termbase.Proofs.Ontology.Entries

/-! An outline as a walk over the edges of the graph would make it: newest first, a value put in the place of
the one found before, and the first fault met ends the walk. Such a walk ends with the values that come first
in the source, and with the fault that comes last. -/

namespace Termbase.Ontology

open Rdf

/-- What a predicate is about, as far as an outline cares. -/
inductive Property
  | type
  | label
  | namespaceIri
  | title
  | description
  | status
  | flag
  | date
  | successor
deriving DecidableEq

namespace Property

def iris : Property → List Iri
  | .type => [rdfType]
  | .label => [preferredLabel]
  | .namespaceIri => [preferredNamespace]
  | .title => titles
  | .description => descriptions
  | .status => [Ontology.status]
  | .flag => [deprecatedFlag]
  | .date => [deprecatedOn]
  | .successor => [supersededBy]

def all : List Property :=
  [.type, .label, .namespaceIri, .title, .description, .status, .flag, .date, .successor]

def ofIri? (iri : Iri) : Option Property := all.find? fun property => property.iris.contains iri

theorem mem_all (property : Property) : property ∈ all := by cases property <;> decide

theorem iris_disjoint : ∀ left ∈ all, ∀ right ∈ all, ∀ iri ∈ left.iris, iri ∈ right.iris → left = right := by
  decide +kernel

theorem ofIri?_eq_some_iff {iri : Iri} {property : Property} :
    ofIri? iri = some property ↔ iri ∈ property.iris := by
  constructor
  · intro found
    simpa using List.find?_some found
  · intro inside
    cases found : ofIri? iri with
    | none =>
        have outside := List.find?_eq_none.mp found property property.mem_all
        simp [inside] at outside
    | some other =>
        have otherInside : iri ∈ other.iris := by simpa using List.find?_some found
        rw [iris_disjoint other other.mem_all property property.mem_all iri otherInside inside]

end Property

theorem mem_termLiterals {iri : Iri} : iri ∈ termLiterals ↔
    Property.ofIri? iri ∈ [some .title, some .description, some .status, some .flag, some .date] := by
  simp [termLiterals, Property.ofIri?_eq_some_iff, Property.iris, titles, descriptions, or_assoc]

theorem mem_ontologyLiterals {iri : Iri} : iri ∈ ontologyLiterals ↔
    Property.ofIri? iri ∈ [some .label, some .namespaceIri, some .title, some .description] := by
  simp [ontologyLiterals, Property.ofIri?_eq_some_iff, Property.iris, titles, descriptions, or_assoc]

def entryFrom (values : Property → List Node) (localName : Text) : TermEntry where
  localName
  title := (values .title).findSome? Node.literal?
  description := (values .description).findSome? Node.literal?
  isClass := (values .type).any fun object => object.iri?.any classTypes.contains
  deprecation :=
    { isMarked :=
        ((values .type).any fun object => object.iri?.any deprecatedTypes.contains) ||
          ((values .status).any fun object =>
            object.literal?.any (Text.equalIgnoringAsciiCase "deprecated".toList)) ||
          (values .flag).any fun object => object.literal?.any (Text.equalIgnoringAsciiCase "true".toList)
      since := ((values .date).findSome? Node.literal?).getD []
      advice :=
        match (values .successor).head? with
        | some object => "Use this instead: ".toList ++ object.display
        | none => [] }

def outlineFrom (values : Property → List Node) : Outline where
  title := (values .title).findSome? Node.literal?
  description := (values .description).findSome? Node.literal?
  label := (values .label).findSome? Node.literal?
  namespaceIri := (values .namespaceIri).findSome? Node.literal?
  entries := []

def marked (entry : TermEntry) (mark : Bool) : TermEntry :=
  { entry with deprecation := { entry.deprecation with isMarked := entry.deprecation.isMarked || mark } }

namespace Graph

def target (graph : Graph) (edge : Edge) : Except OutlineError Node :=
  match graph.nodes[edge.target]? with
  | none => .error (.noSuchNode edge.target)
  | some node => .ok node

def text (graph : Graph) (index : Nat) (edge : Edge) : Except OutlineError Text :=
  graph.literalText index (.named edge.predicate) edge.target

def noteTerm (graph : Graph) (index : Nat) (entry : TermEntry) (edge : Edge) :
    Except OutlineError TermEntry :=
  match Property.ofIri? edge.predicate.iri with
  | some .type => (graph.target edge).map fun object =>
      marked { entry with isClass := entry.isClass || object.iri?.any classTypes.contains }
        (object.iri?.any deprecatedTypes.contains)
  | some .title => (graph.text index edge).map fun text => { entry with title := some text }
  | some .description => (graph.text index edge).map fun text => { entry with description := some text }
  | some .status => (graph.text index edge).map fun text =>
      marked entry (Text.equalIgnoringAsciiCase "deprecated".toList text)
  | some .flag => (graph.text index edge).map fun text =>
      marked entry (Text.equalIgnoringAsciiCase "true".toList text)
  | some .date => (graph.text index edge).map fun text =>
      { entry with deprecation := { entry.deprecation with since := text } }
  | some .successor => (graph.target edge).map fun object =>
      { entry with deprecation :=
        { entry.deprecation with advice := "Use this instead: ".toList ++ object.display } }
  | some .label | some .namespaceIri | none => .ok entry

def noteOntology (graph : Graph) (index : Nat) (outline : Outline) (edge : Edge) :
    Except OutlineError Outline :=
  match Property.ofIri? edge.predicate.iri with
  | some .label => (graph.text index edge).map fun text => { outline with label := some text }
  | some .namespaceIri => (graph.text index edge).map fun text => { outline with namespaceIri := some text }
  | some .title => (graph.text index edge).map fun text => { outline with title := some text }
  | some .description => (graph.text index edge).map fun text => { outline with description := some text }
  | some .type | some .status | some .flag | some .date | some .successor | none => .ok outline

def walkTerm (graph : Graph) (index : Nat) (localName : Text) : Except OutlineError TermEntry :=
  (graph.outgoing index).reverse.foldlM (graph.noteTerm index) ⟨localName, none, none, false, .none⟩

def walkOntology (graph : Graph) (index : Nat) : Except OutlineError Outline :=
  (graph.outgoing index).reverse.foldlM (graph.noteOntology index) ⟨none, none, none, none, []⟩

def walkSubject (graph : Graph) (namespaceIri : Option Iri) (entries : List TermEntry) (index : Nat) :
    Except OutlineError (List TermEntry) :=
  match graph.nodes[index]? with
  | none => .error (.noSuchNode index)
  | some node =>
      match localName? namespaceIri node with
      | none => .ok entries
      | some localName => (graph.walkTerm index localName).map fun entry => entries ++ [entry]

def walk (graph : Graph) (order : TermOrder) : Except OutlineError Outline :=
  match graph.ontology? with
  | none => .error .noOntology
  | some ontology => do
      let outline ← graph.walkOntology ontology
      let entries ← (graph.candidates ontology).foldlM (graph.walkSubject outline.namespaceIri) []
      return { outline with entries := order.arrange (·.localName) entries }

def Closed (graph : Graph) : Prop := ∀ edge ∈ graph.edges, ∃ node, graph.nodes[edge.target]? = some node

def valuesAmong (graph : Graph) (edges : List Edge) (property : Property) : List Node :=
  edges.filterMap fun edge =>
    if property.iris.contains edge.predicate.iri then graph.nodes[edge.target]? else none

def checkEdge (graph : Graph) (index : Nat) (predicates : List Iri) (edge : Edge) :
    Except OutlineError Unit :=
  if predicates.contains edge.predicate.iri then (graph.text index edge).map fun _ => () else .ok ()

section Walk

variable {graph : Graph} {index : Nat} {edge : Edge} {node : Node} {property : Property}

theorem valuesAmong_cons_of_none (about : Property.ofIri? edge.predicate.iri = none) (edges : List Edge) :
    graph.valuesAmong (edge :: edges) = graph.valuesAmong edges := by
  funext property
  simp [valuesAmong, ← Property.ofIri?_eq_some_iff, about]

theorem valuesAmong_cons_of_some (about : Property.ofIri? edge.predicate.iri = some property)
    (found : graph.nodes[edge.target]? = some node) (edges : List Edge) :
    graph.valuesAmong (edge :: edges) =
      Function.update (graph.valuesAmong edges) property (node :: graph.valuesAmong edges property) := by
  funext other
  by_cases same : other = property
  · subst same
    simp [valuesAmong, ← Property.ofIri?_eq_some_iff, about, found]
  · rw [Function.update_of_ne same]
    simp [valuesAmong, ← Property.ofIri?_eq_some_iff, about, Ne.symm same]

theorem text_eq_ok (found : graph.nodes[edge.target]? = some node) {text : Text}
    (read : graph.text index edge = .ok text) : node = .literal text := by
  simp only [Graph.text, literalText, found] at read
  cases node with
  | literal => cases read; rfl
  | named =>
      dsimp only at read
      split at read <;> cases read

theorem target_eq_ok (found : graph.nodes[edge.target]? = some node) : graph.target edge = .ok node := by
  simp only [target, found]

theorem map_text {α : Type} (found : graph.nodes[edge.target]? = some node) {make : Text → α} {value : α}
    (same : ∀ text, node = .literal text → make text = value) :
    (graph.text index edge).map make = ((graph.text index edge).map fun _ => ()).map fun _ => value := by
  cases read : graph.text index edge with
  | error => rfl
  | ok text => exact congrArg Except.ok (same text (text_eq_ok found read))

theorem noteTerm_entryFrom (found : graph.nodes[edge.target]? = some node) (edges : List Edge)
    (localName : Text) :
    graph.noteTerm index (entryFrom (graph.valuesAmong edges) localName) edge =
      (graph.checkEdge index termLiterals edge).map fun _ =>
        entryFrom (graph.valuesAmong (edge :: edges)) localName := by
  cases about : Property.ofIri? edge.predicate.iri with
  | none =>
      rw [valuesAmong_cons_of_none about]
      simp [noteTerm, checkEdge, mem_termLiterals, about, Except.map]
  | some property =>
      rw [valuesAmong_cons_of_some about found]
      cases property with
      | type =>
          -- The walk joins the new mark at the end, the values have it at the front.
          simp [noteTerm, checkEdge, mem_termLiterals, about, Except.map, target_eq_ok found, marked,
            entryFrom]
          grind
      | label | namespaceIri =>
          simp [noteTerm, checkEdge, mem_termLiterals, about, Except.map, entryFrom]
      | successor =>
          simp [noteTerm, checkEdge, mem_termLiterals, about, Except.map, target_eq_ok found, entryFrom]
      | title | description | date =>
          simp only [noteTerm, checkEdge, mem_termLiterals, about, List.contains_eq_mem]
          apply map_text found
          rintro text rfl
          simp [entryFrom, List.findSome?_cons, Node.literal?]
      | status | flag =>
          simp only [noteTerm, checkEdge, mem_termLiterals, about, List.contains_eq_mem]
          apply map_text found
          rintro text rfl
          simp [entryFrom, Node.literal?, marked]
          grind

theorem noteOntology_outlineFrom (found : graph.nodes[edge.target]? = some node) (edges : List Edge) :
    graph.noteOntology index (outlineFrom (graph.valuesAmong edges)) edge =
      (graph.checkEdge index ontologyLiterals edge).map fun _ =>
        outlineFrom (graph.valuesAmong (edge :: edges)) := by
  cases about : Property.ofIri? edge.predicate.iri with
  | none =>
      rw [valuesAmong_cons_of_none about]
      simp [noteOntology, checkEdge, mem_ontologyLiterals, about, Except.map]
  | some property =>
      rw [valuesAmong_cons_of_some about found]
      cases property with
      | type | status | flag | date | successor =>
          simp [noteOntology, checkEdge, mem_ontologyLiterals, about, Except.map, outlineFrom]
      | label | namespaceIri | title | description =>
          simp only [noteOntology, checkEdge, mem_ontologyLiterals, about, List.contains_eq_mem]
          apply map_text found
          rintro text rfl
          simp [outlineFrom, List.findSome?_cons, Node.literal?]

theorem map_eq {α β : Type} (make : α → β) (outcome : Except OutlineError α) :
    outcome.map make = make <$> outcome := rfl

theorem foldlM_reverse {α : Type} (value : List Edge → α) {note : α → Edge → Except OutlineError α}
    {check : Edge → Except OutlineError Unit} {edges : List Edge}
    (step : ∀ edge ∈ edges, ∀ later,
      note (value later) edge = (check edge).map fun _ => value (edge :: later)) :
    edges.reverse.foldlM note (value []) = (edges.reverse.forM check).map fun _ => value edges := by
  -- Reversed, the first edge is the last one that the fold meets.
  induction edges with
  | nil => rfl
  | cons edge edges ih =>
      have older := ih fun other inside => step other (List.mem_cons_of_mem _ inside)
      have newest := step edge List.mem_cons_self edges
      rw [List.reverse_cons, List.foldlM_append, older]
      simp only [map_eq] at newest ⊢
      simp [newest]

section Closed

variable (closed : graph.Closed)
include closed

theorem exists_target (member : edge ∈ graph.outgoing index) :
    ∃ node, graph.nodes[edge.target]? = some node :=
  closed edge (List.mem_of_mem_filter member)

theorem walkTerm_eq (index : Nat) (localName : Text) :
    graph.walkTerm index localName = graph.entryOf index localName := by
  have walked : graph.walkTerm index localName =
      (graph.checkLiterals index termLiterals).map fun _ =>
        entryFrom (graph.valuesAmong (graph.outgoing index)) localName := by
    apply foldlM_reverse fun edges => entryFrom (graph.valuesAmong edges) localName
    intro edge member later
    obtain ⟨node, found⟩ := exists_target closed member
    exact noteTerm_entryFrom found later localName
  rw [walked, entryOf]
  cases graph.checkLiterals index termLiterals <;> rfl

theorem walkOntology_eq (index : Nat) :
    graph.walkOntology index = (graph.checkLiterals index ontologyLiterals).map fun _ =>
      outlineFrom (graph.valuesAmong (graph.outgoing index)) := by
  apply foldlM_reverse fun edges => outlineFrom (graph.valuesAmong edges)
  intro edge member later
  obtain ⟨node, found⟩ := exists_target closed member
  exact noteOntology_outlineFrom found later

theorem foldlM_walkSubject (namespaceIri : Option Iri) (listed : List TermEntry) (indices : List Nat) :
    indices.foldlM (graph.walkSubject namespaceIri) listed =
      (graph.entries namespaceIri indices).map (listed ++ ·) := by
  induction indices generalizing listed with
  | nil => simp [entries, Except.map, pure, Except.pure]
  | cons index rest ih =>
      rw [List.foldlM_cons, entries, walkSubject, entryOrStranger]
      cases graph.nodes[index]? with
      | none => rfl
      | some node =>
          dsimp only
          cases localName? namespaceIri node with
          | none =>
              change List.foldlM _ listed rest = _
              rw [ih]
              cases graph.entries namespaceIri rest <;> rfl
          | some localName =>
              simp only [walkTerm_eq closed]
              simp [map_eq, ih]

theorem walk_eq_outline (order : TermOrder) : graph.walk order = graph.outline order := by
  unfold walk outline
  cases graph.ontology? with
  | none => rfl
  | some ontology =>
      simp only [walkOntology_eq closed, foldlM_walkSubject closed, List.nil_append]
      cases graph.checkLiterals ontology ontologyLiterals with
      | error => rfl
      | ok =>
          simp [map_eq]
          rfl

end Closed

theorem closed_record (facts : List Fact) : (record facts).Closed := by
  intro edge member
  obtain ⟨fact, inside, rfl⟩ := List.mem_map.mp member
  exact ⟨fact.object, List.getElem?_idxOf (mem_nodesOf.mpr ⟨fact, inside, Or.inr rfl⟩)⟩

end Walk

end Graph

end Termbase.Ontology
