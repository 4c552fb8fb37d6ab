import Termbase.Rdf.Term

/-! The nodes of an ontology's graph: literals, reduced to their text, and identifiers under the name by
which they go where they are met. -/

namespace Termbase.Ontology

open Rdf

/-- A name consists of a declared label and what follows its namespace, or is relative to the base, or is the
whole identifier. -/
inductive Name
  | labelled (label localName start : Text)
  | relative (localName start : Text)
  | full (iri : Iri)
deriving DecidableEq, Repr

namespace Name

def iri : Name → Iri
  | .labelled _ localName start => start ++ localName
  | .relative localName start => start ++ localName
  | .full iri => iri

def display : Name → Text
  | .labelled label localName _ => label ++ ':' :: localName
  | .relative localName _ => '<' :: localName ++ ['>']
  | .full iri => iri

def labelled? (iri : Iri) (declared : Text × Iri) : Option Name :=
  (Text.stripPrefix? declared.2 iri).map fun localName => .labelled declared.1 localName declared.2

def relative? (iri base : Iri) : Option Name :=
  (Text.stripPrefix? base iri).map fun localName => .relative localName base

/-- The name of an identifier: labels are tried before the base. -/
def ofIri (scope : Scope) (iri : Iri) : Name :=
  ((scope.labels.findSome? (labelled? iri)).or (scope.base.bind (relative? iri))).getD (.full iri)

theorem iri_labelled? {iri : Iri} {declared : Text × Iri} {name : Name}
    (found : labelled? iri declared = some name) : name.iri = iri := by
  simp only [labelled?, Option.map_eq_some_iff, Text.stripPrefix?_eq_some_iff] at found
  obtain ⟨localName, rfl, rfl⟩ := found
  rfl

theorem iri_relative? {iri base : Iri} {name : Name} (found : relative? iri base = some name) :
    name.iri = iri := by
  simp only [relative?, Option.map_eq_some_iff, Text.stripPrefix?_eq_some_iff] at found
  obtain ⟨localName, rfl, rfl⟩ := found
  rfl

@[simp] theorem iri_ofIri (scope : Scope) (iri : Iri) : (ofIri scope iri).iri = iri := by
  unfold ofIri
  cases labels : scope.labels.findSome? (labelled? iri) with
  | some name =>
      obtain ⟨_, _, found⟩ := List.exists_of_findSome?_eq_some labels
      simpa using iri_labelled? found
  | none =>
      cases base : scope.base.bind (relative? iri) with
      | some name =>
          obtain ⟨_, _, found⟩ := Option.bind_eq_some_iff.mp base
          simpa using iri_relative? found
      | none => simp [Name.iri]

end Name

inductive Node
  | named (name : Name)
  | literal (text : Text)
deriving DecidableEq, Repr

namespace Node

def iri? : Node → Option Iri
  | .named name => some name.iri
  | .literal _ => none

def literal? : Node → Option Text
  | .named _ => none
  | .literal text => some text

def display : Node → Text
  | .named name => name.display
  | .literal text =>
      let quotes := List.replicate (if text.contains '\n' then 3 else 1) '"'
      quotes ++ text ++ quotes

def ofTerm? (scope : Scope) : Rdf.Term → Option Node
  | .iri iri => some (.named (.ofIri scope iri))
  | .literal text _ => some (.literal text)
  | .blank _ | .quoted _ _ _ => none

end Node

end Termbase.Ontology
