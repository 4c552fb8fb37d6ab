import Mathlib.Data.List.Basic
import Mathlib.Data.List.Induction
import Termbase.Ontology.Content

/-! The graph of a document as a function of the facts that it keeps: the nodes and the subjects stand in the
order of their first occurrence, and there is an edge for each fact. -/

namespace Termbase

section Enter

variable {α : Type} [DecidableEq α] {items : List α} {item other : α}

def enter (items : List α) (item : α) : List α := if item ∈ items then items else items ++ [item]

theorem mem_enter : other ∈ enter items item ↔ other ∈ items ∨ other = item := by
  unfold enter
  split
  next present =>
    constructor
    · exact Or.inl
    · rintro (inside | rfl)
      · exact inside
      · exact present
  next => simp

theorem eraseDups_concat (items : List α) (item : α) :
    (items ++ [item]).eraseDups = enter items.eraseDups item := by
  have single : [item].eraseDups = [item] := by simp [List.eraseDups_cons]
  rw [List.eraseDups_append, enter]
  by_cases present : item ∈ items
  · simp [List.removeAll, present]
  · simp [List.removeAll, present, single]

theorem nodup_enter (unique : items.Nodup) : (enter items item).Nodup := by
  unfold enter
  split
  next => exact unique
  next absent =>
    rw [List.nodup_append]
    refine ⟨unique, by simp, ?_⟩
    intro left leftIn right rightIn same
    have rightEq : right = item := by simpa using rightIn
    exact absent (by rwa [same, rightEq] at leftIn)

theorem nodup_eraseDups (items : List α) : items.eraseDups.Nodup := by
  induction items using List.reverseRecOn with
  | nil => exact List.nodup_nil
  | append_singleton items item ih =>
      rw [eraseDups_concat]
      exact nodup_enter ih

theorem idxOf_enter (present : other ∈ items) : (enter items item).idxOf other = items.idxOf other := by
  unfold enter
  split
  next => rfl
  next => rw [List.idxOf_append, if_pos present]

theorem map_enter {β : Type} [DecidableEq β] {f : α → β}
    (distinct : ∀ other ∈ items, f other = f item → other = item) :
    (enter items item).map f = enter (items.map f) (f item) := by
  unfold enter
  by_cases present : item ∈ items
  · rw [if_pos present, if_pos (List.mem_map_of_mem present)]
  · rw [if_neg present, if_neg, List.map_append, List.map_singleton]
    intro used
    obtain ⟨other, inside, same⟩ := List.mem_map.mp used
    exact present (distinct other inside same ▸ inside)

theorem idxOf_of_idxOf? {index : Nat} (found : items.idxOf? item = some index) :
    items.idxOf item = index := by
  rw [List.idxOf?, List.findIdx?_eq_some_iff_findIdx_eq] at found
  exact found.2

end Enter

theorem eraseDups_map_of_injOn {α β : Type} [BEq α] [LawfulBEq α] [BEq β] [LawfulBEq β] {f : α → β} {items : List α}
    (injective : ∀ left ∈ items, ∀ right ∈ items, f left = f right → left = right) :
    (items.map f).eraseDups = items.eraseDups.map f := by
  match items with
  | [] => rfl
  | item :: rest =>
      have same : rest.filter ((fun other => !(other == f item)) ∘ f) = rest.filter fun other => !(other == item) := by
        apply List.filter_congr
        intro other inside
        have iff : f other = f item ↔ other = item :=
          ⟨injective other (List.mem_cons_of_mem item inside) item List.mem_cons_self, congrArg f⟩
        rw [Function.comp_apply, Bool.eq_iff_iff]
        simp [iff]
      have inside {other : α} (kept : other ∈ rest.filter fun other => !(other == item)) : other ∈ item :: rest :=
        List.mem_cons_of_mem item (List.mem_of_mem_filter kept)
      rw [List.map_cons, List.eraseDups_cons, List.eraseDups_cons, List.map_cons, List.filter_map, same,
        eraseDups_map_of_injOn fun left leftIn right rightIn => injective left (inside leftIn) right (inside rightIn)]
termination_by items.length
decreasing_by exact Nat.lt_succ_of_le (List.length_filter_le _ _)

namespace Ontology

open Rdf

/-- A statement as the graph keeps it. -/
structure Fact where
  subject : Name
  predicate : Name
  object : Node
deriving DecidableEq, Repr

def factOf? (statement : Statement) : Option Fact :=
  match statement.triple.subject, Node.ofTerm? statement.scope statement.triple.object with
  | .iri subject, some object =>
      some ⟨.ofIri statement.scope subject, .ofIri statement.scope statement.triple.predicate, object⟩
  | _, _ => none

def factsOf (statements : List Statement) : List Fact := statements.filterMap factOf?

def nodesOf (facts : List Fact) : List Node :=
  (facts.flatMap fun fact => [.named fact.subject, fact.object]).eraseDups

def subjectsOf (facts : List Fact) : List Name := (facts.map (·.subject)).eraseDups

def edgeOf (nodes : List Node) (fact : Fact) : Edge :=
  ⟨nodes.idxOf (.named fact.subject), fact.predicate, nodes.idxOf fact.object⟩

def record (facts : List Fact) : Graph :=
  ⟨nodesOf facts, facts.map (edgeOf (nodesOf facts)),
    (subjectsOf facts).map fun subject => (nodesOf facts).idxOf (.named subject)⟩

section Step

variable {facts : List Fact} {fact : Fact}

theorem mem_nodesOf {node : Node} :
    node ∈ nodesOf facts ↔ ∃ fact ∈ facts, node = .named fact.subject ∨ node = fact.object := by
  simp [nodesOf]

theorem mem_subjectsOf {subject : Name} :
    subject ∈ subjectsOf facts ↔ ∃ fact ∈ facts, fact.subject = subject := by
  simp [subjectsOf]

theorem subject_mem_nodesOf {subject : Name} (member : subject ∈ subjectsOf facts) :
    .named subject ∈ nodesOf facts := by
  obtain ⟨fact, inside, rfl⟩ := mem_subjectsOf.mp member
  exact mem_nodesOf.mpr ⟨fact, inside, Or.inl rfl⟩

theorem nodesOf_concat (facts : List Fact) (fact : Fact) :
    nodesOf (facts ++ [fact]) = enter (enter (nodesOf facts) (.named fact.subject)) fact.object := by
  have split : (facts ++ [fact]).flatMap (fun fact => [Node.named fact.subject, fact.object]) =
      facts.flatMap (fun fact => [.named fact.subject, fact.object]) ++ [.named fact.subject] ++
        [fact.object] := by
    simp
  rw [nodesOf, split, eraseDups_concat, eraseDups_concat]
  rfl

theorem subjectsOf_concat (facts : List Fact) (fact : Fact) :
    subjectsOf (facts ++ [fact]) = enter (subjectsOf facts) fact.subject := by
  rw [subjectsOf, List.map_append, List.map_singleton, eraseDups_concat]
  rfl

theorem place_eq (graph : Graph) (node : Node) :
    graph.place node =
      ((enter graph.nodes node).idxOf node, { graph with nodes := enter graph.nodes node }) := by
  unfold Graph.place
  cases found : graph.nodes.idxOf? node with
  | some index =>
      have present : node ∈ graph.nodes := by
        rw [← List.isSome_idxOf?, found]
        rfl
      simp [enter, present, idxOf_of_idxOf? found]
  | none =>
      have absent : node ∉ graph.nodes := by
        rwa [List.idxOf?_eq_none_iff] at found
      simp [enter, absent, List.idxOf_append]

theorem addSubject_eq (graph : Graph) (index : Nat) :
    graph.addSubject index = { graph with subjects := enter graph.subjects index } := by
  unfold Graph.addSubject enter
  by_cases present : index ∈ graph.subjects
  · simp [present]
  · simp [present]

theorem idxOf_nodesOf_concat {node : Node} (present : node ∈ nodesOf facts) (fact : Fact) :
    (nodesOf (facts ++ [fact])).idxOf node = (nodesOf facts).idxOf node := by
  rw [nodesOf_concat, idxOf_enter (mem_enter.mpr (Or.inl present)), idxOf_enter present]

theorem edgeOf_nodesOf_concat {other : Fact} (member : other ∈ facts) (fact : Fact) :
    edgeOf (nodesOf (facts ++ [fact])) other = edgeOf (nodesOf facts) other := by
  have subjectIn := mem_nodesOf.mpr ⟨other, member, Or.inl rfl⟩
  have objectIn := mem_nodesOf.mpr ⟨other, member, Or.inr rfl⟩
  simp only [edgeOf, idxOf_nodesOf_concat subjectIn, idxOf_nodesOf_concat objectIn]

theorem link_record (facts : List Fact) (fact : Fact) :
    (record facts).link fact.subject fact.predicate fact.object = record (facts ++ [fact]) := by
  have nodes := nodesOf_concat facts fact
  have source : (enter (nodesOf facts) (.named fact.subject)).idxOf (.named fact.subject) =
      (nodesOf (facts ++ [fact])).idxOf (.named fact.subject) := by
    rw [nodes, idxOf_enter (mem_enter.mpr (Or.inr rfl))]
  have edges : (facts ++ [fact]).map (edgeOf (nodesOf (facts ++ [fact]))) =
      facts.map (edgeOf (nodesOf facts)) ++ [edgeOf (nodesOf (facts ++ [fact])) fact] := by
    rw [List.map_append, List.map_singleton]
    congr 1
    exact List.map_congr_left fun other member => edgeOf_nodesOf_concat member fact
  have subjects : (subjectsOf (facts ++ [fact])).map
        (fun subject => (nodesOf (facts ++ [fact])).idxOf (.named subject)) =
      enter ((subjectsOf facts).map fun subject => (nodesOf facts).idxOf (.named subject))
        ((nodesOf (facts ++ [fact])).idxOf (.named fact.subject)) := by
    rw [subjectsOf_concat, map_enter]
    · congr 1
      exact List.map_congr_left fun subject member =>
        idxOf_nodesOf_concat (subject_mem_nodesOf member) fact
    · intro subject member same
      have inside : Node.named subject ∈ nodesOf (facts ++ [fact]) := by
        rw [nodes]
        exact mem_enter.mpr (Or.inl (mem_enter.mpr (Or.inl (subject_mem_nodesOf member))))
      simpa using (List.idxOf_inj inside).mp same
  simp only [Graph.link, place_eq, addSubject_eq, record, source, ← nodes, edges, subjects]
  rfl

theorem factsOf_concat (statements : List Statement) (statement : Statement) :
    factsOf (statements ++ [statement]) = factsOf statements ++ (factOf? statement).toList := by
  rw [factsOf, List.filterMap_append]
  cases found : factOf? statement <;> simp [found, factsOf]

theorem add_eq (graph : Graph) (statement : Statement) :
    graph.add statement = ((factOf? statement).map fun fact =>
      graph.link fact.subject fact.predicate fact.object).getD graph := by
  unfold Graph.add factOf?
  cases statement.triple.subject with
  | iri subject => cases Node.ofTerm? statement.scope statement.triple.object <;> rfl
  | _ => rfl

theorem ofStatements_eq_record (statements : List Statement) :
    Graph.ofStatements statements = record (factsOf statements) := by
  induction statements using List.reverseRecOn with
  | nil => rfl
  | append_singleton statements statement ih =>
      rw [Graph.ofStatements] at ih ⊢
      rw [List.foldl_append, ih, List.foldl_cons, List.foldl_nil, add_eq, factsOf_concat]
      cases factOf? statement with
      | none => simp
      | some fact => exact link_record (factsOf statements) fact

end Step

end Ontology

end Termbase
