import Termbase.Text

/-! The header octet of a stored value: two bits say what kind of value it is, five bits which coder wrote
it, and the highest bit is zero. -/

namespace Termbase

inductive ValueType
  | langString
  | iri
  | blankNode
  | literal
deriving DecidableEq, Repr

def ValueType.number : ValueType → Nat
  | .langString => 0
  | .iri => 1
  | .blankNode => 2
  | .literal => 3

def ValueType.name : ValueType → String
  | .langString => "LangString"
  | .iri => "Iri"
  | .blankNode => "BlankNode"
  | .literal => "Literal"

def ValueType.ofHeader (header : UInt8) : ValueType :=
  match header.toNat % 4 with
  | 0 => .langString
  | 1 => .iri
  | 2 => .blankNode
  | _ => .literal

/-- A coder's place among the coders of one kind of value. -/
structure CoderId where
  number : Nat
  bounded : number < 32
deriving DecidableEq, Repr

namespace CoderId

def highest : Nat := 31

def ofNat? (number : Nat) : Option CoderId :=
  if bounded : number < 32 then some ⟨number, bounded⟩ else none

def ofHeader (header : UInt8) : CoderId :=
  ⟨header.toNat / 4 % 32, Nat.mod_lt _ (by decide)⟩

def header (coder : CoderId) (type : ValueType) : UInt8 := UInt8.ofNat (coder.number * 4 + type.number)

def knownTerms : CoderId := ⟨0, by decide⟩

def fixedNamespaces : CoderId := ⟨1, by decide⟩

def wholeText : CoderId := ⟨2, by decide⟩

end CoderId

end Termbase
