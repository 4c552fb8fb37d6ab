import Termbase.Iri.Syntax

/-! RDF terms and triples, and what a reader of a document knows when it meets a triple. -/

namespace Termbase.Rdf

inductive BlankLabel
  | named (label : Text)
  | fresh (number : Nat)
deriving DecidableEq, Repr

inductive LiteralKind
  | plain
  | tagged (language : Text)
  | typed (datatype : Iri)
deriving DecidableEq, Repr

inductive Term
  | iri (iri : Iri)
  | blank (label : BlankLabel)
  | literal (value : Text) (kind : LiteralKind)
  | quoted (subject : Term) (predicate : Iri) (object : Term)
deriving DecidableEq, Repr

structure Triple where
  subject : Term
  predicate : Iri
  object : Term
deriving DecidableEq, Repr

/-- The labels stand in the order of their declaration. Another reader may go through them in another order:
`LabelOrder`. -/
structure Scope where
  labels : List (Text × Iri)
  base : Option Iri
deriving DecidableEq, Repr

namespace Scope

def empty : Scope := ⟨[], none⟩

/-- Declares a label, in the place of an earlier declaration. -/
def declare (scope : Scope) (label : Text) (iri : Iri) : Scope :=
  if scope.labels.any (·.1 == label) then
    { scope with
      labels := scope.labels.map fun entry => if entry.1 == label then (label, iri) else entry }
  else { scope with labels := scope.labels ++ [(label, iri)] }

end Scope

structure Statement where
  triple : Triple
  scope : Scope
deriving DecidableEq, Repr

/-- What was read from a document: the statements met, and the abbreviations at its end unless the document
is malformed. -/
structure Reading where
  statements : List Statement
  ending : Option Scope
deriving DecidableEq, Repr

/-- In which order a reader goes through the labels that are declared when it has met a number of statements. It is any
order of them, and nothing in the document settles it. -/
structure LabelOrder where
  arrange : Nat → List (Text × Iri) → List (Text × Iri)
  perm : ∀ number labels, (arrange number labels).Perm labels

def LabelOrder.declared : LabelOrder := ⟨fun _ labels => labels, fun _ labels => .refl labels⟩

def Scope.arranged (scope : Scope) (order : LabelOrder) (number : Nat) : Scope :=
  { scope with labels := order.arrange number scope.labels }

def Reading.arranged (reading : Reading) (order : LabelOrder) : Reading where
  statements := reading.statements.mapIdx fun number statement =>
    { statement with scope := statement.scope.arranged order number }
  ending := reading.ending.map fun scope => scope.arranged order reading.statements.length

def rdfNamespace : Iri := "http://www.w3.org/1999/02/22-rdf-syntax-ns#".toList

def xsdNamespace : Iri := "http://www.w3.org/2001/XMLSchema#".toList

def rdfType : Iri := rdfNamespace ++ "type".toList

def rdfFirst : Iri := rdfNamespace ++ "first".toList

def rdfRest : Iri := rdfNamespace ++ "rest".toList

def rdfNil : Iri := rdfNamespace ++ "nil".toList

def kindOfDatatype (datatype : Iri) : LiteralKind :=
  if datatype = xsdNamespace ++ "string".toList then .plain else .typed datatype

end Termbase.Rdf
