import Termbase.Iri.Reference
import Termbase.Rdf.Turtle.Token

/-! Reading tokens one after the other: what is left of them, the abbreviations in force, and the statements
met so far, which stay even if a later token is out of place. Here are the terms that all dialects share. -/

namespace Termbase.Rdf.Turtle

/-- The statements are kept with the latest first. -/
structure Progress where
  tokens : List Token
  scope : Scope
  met : List Statement
  blanks : Nat

abbrev Step := OptionT (StateM Progress)

namespace Step

def peek : Step (Option Token) := do return (← get).tokens.head?

def next : Step Token := do
  match (← get).tokens with
  | [] => failure
  | token :: rest =>
      modify fun progress => { progress with tokens := rest }
      return token

def skip : Step Unit := modify fun progress => { progress with tokens := progress.tokens.drop 1 }

def takes (mark : String) : Step Bool := do
  if (← peek) = some (.mark mark) then
    skip
    return true
  else return false

def expect (mark : String) : Step Unit := do
  if ← takes mark then return () else failure

def faces (marks : List String) : Step Bool := do
  match ← peek with
  | some (.mark mark) => return marks.contains mark
  | _ => return false

def meet (subject : Term) (predicate : Iri) (object : Term) : Step Unit :=
  modify fun progress =>
    { progress with met := ⟨⟨subject, predicate, object⟩, progress.scope⟩ :: progress.met }

def freshBlank : Step Term := do
  let number := (← get).blanks
  modify fun progress => { progress with blanks := number + 1 }
  return .blank (.fresh number)

def setScope (change : Scope → Scope) : Step Unit :=
  modify fun progress => { progress with scope := change progress.scope }

def resolve (reference : Text) : Step Iri := do
  match resolveIri? (← get).scope.base reference with
  | some iri => return iri
  | none => failure

def expand (label localName : Text) : Step Iri := do
  match (← get).scope.labels.lookup label with
  | some start => if Iri.isAbsolute (start ++ localName) then return start ++ localName else failure
  | none => failure

def iriOf : Token → Step Iri
  | .reference text => resolve text
  | .name label localName => expand label localName
  | _ => failure

def datatypeOfNumber : NumberKind → Iri
  | .integer => xsdNamespace ++ "integer".toList
  | .decimal => xsdNamespace ++ "decimal".toList
  | .double => xsdNamespace ++ "double".toList

def literalKind : Step LiteralKind := do
  match ← peek with
  | some (.tag language) =>
      skip
      return .tagged (language.map asciiLower)
  | some (.mark "^^") =>
      skip
      return kindOfDatatype (← iriOf (← next))
  | _ => return .plain

def booleans : List Text := ["true".toList, "false".toList]

def simpleTerm (token : Token) : Step Term := do
  match token with
  | .blank label => return .blank (.named label)
  | .string value => return .literal value (← literalKind)
  | .number kind text => return .literal text (.typed (datatypeOfNumber kind))
  | .word word =>
      if booleans.contains word then return .literal word (.typed (xsdNamespace ++ "boolean".toList))
      else failure
  | _ => return .iri (← iriOf token)

def nodeTerm (token : Token) : Step Term := do
  match token with
  | .blank label => return .blank (.named label)
  | _ => return .iri (← iriOf token)

def declareBase : Step Unit := do
  match ← next with
  | .reference text =>
      let iri ← resolve text
      setScope fun scope => { scope with base := some iri }
  | _ => failure

def declareLabel : Step Unit := do
  match ← next with
  | .name label [] =>
      match ← next with
      | .reference text =>
          let iri ← resolve text
          setScope (·.declare label iri)
      | _ => failure
  | _ => failure

def isKeyword (keyword : String) (word : Text) : Bool :=
  Text.equalIgnoringAsciiCase keyword.toList word

/-- A declaration, if the next token begins one: with an at sign it ends in a point, as a word it does
not. The outcome says whether there was one. -/
def takesDeclaration (ending : Step Unit) : Step Bool := do
  match ← peek with
  | some (.tag ['p', 'r', 'e', 'f', 'i', 'x']) =>
      skip
      declareLabel
      ending
      return true
  | some (.tag ['b', 'a', 's', 'e']) =>
      skip
      declareBase
      ending
      return true
  | some (.word word) =>
      if isKeyword "prefix" word then
        skip
        declareLabel
        return true
      else if isKeyword "base" word then
        skip
        declareBase
        return true
      else return false
  | _ => return false

def untilEnd (step : Step Unit) : Nat → Step Unit
  | 0 => return ()
  | count + 1 => do
      if (← get).tokens.isEmpty then return ()
      step
      untilEnd step count

/-- More than the nesting of grammar rules can be: between two tokens a few rules open. -/
def depth : Step Nat := do return 8 * (← get).tokens.length + 8

end Step

def readTokens (step : Step Unit) (tokens : List Token) : Reading :=
  match (Step.untilEnd step tokens.length).run.run ⟨tokens, .empty, [], 0⟩ with
  | (outcome, progress) => ⟨progress.met.reverse, outcome.map fun _ => progress.scope⟩

end Termbase.Rdf.Turtle
