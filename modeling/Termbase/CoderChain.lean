import Termbase.Coder

/-! A chain of coders. An identifier is written by the first coder that accepts it, and a code is read by
the coder that its header names. -/

namespace Termbase

/-- Each coder's number is its place. -/
structure CoderChain where
  coders : List Coder
  placed : ∀ position (inside : position < coders.length), (coders[position].id).number = position

namespace CoderChain

def misplaced? (position : Nat) : List Coder → Option (Nat × CoderId)
  | [] => none
  | coder :: rest =>
      if coder.id.number = position then misplaced? (position + 1) rest else some (position, coder.id)

theorem placed_of_misplaced?_eq_none {coders : List Coder} {start : Nat}
    (none : misplaced? start coders = none) (position : Nat) (inside : position < coders.length) :
    (coders[position].id).number = start + position := by
  induction coders generalizing start position with
  | nil => simp at inside
  | cons coder rest ih =>
      simp only [misplaced?] at none
      split at none
      next same =>
        cases position with
        | zero => simpa using same
        | succ position =>
            have := ih none position (by simpa using inside)
            simp only [List.getElem_cons_succ]
            omega
      next => cases none

def ofCoders (coders : List Coder) : Except CoderError CoderChain :=
  match found : misplaced? 0 coders with
  | some (position, reported) => .error (.misplacedCoder position reported)
  | none =>
      .ok ⟨coders, fun position inside => by
        have := placed_of_misplaced?_eq_none found position inside
        omega⟩

def encode (chain : CoderChain) (iri : Iri) : Except CoderError Code :=
  match chain.coders.findSome? (·.encode? iri) with
  | some code => .ok code
  | none => .error (.noCoder iri)

/-- Writes every identifier and keeps the gaps; the first failure is the answer. -/
def encodeAll (chain : CoderChain) : List (Option Iri) → Except CoderError (List (Option Code))
  | [] => .ok []
  | none :: rest => do return none :: (← chain.encodeAll rest)
  | some iri :: rest => do
      let code ← chain.encode iri
      return some code :: (← chain.encodeAll rest)

def decodeWith (validate : Iri → Except IriError Unit) (chain : CoderChain) (code : Code) :
    Except CoderError Iri :=
  if code.type ≠ .iri then .error (.notAnIri code.type)
  else match chain.coders[code.coder.number]? with
    | some coder => coder.decodeWith validate code
    | none => .error (.unknownCoder code.coder)

def decode (chain : CoderChain) (code : Code) : Except CoderError Iri :=
  chain.decodeWith Iri.checkAbsolute code

def description (chain : CoderChain) : String :=
  s!"IriCoderChain \x7b coders: {chain.coders.length} \x7d"

end CoderChain

end Termbase
