import Termbase.Rdf.Turtle.Progress

/-! Turtle, and TriG, which adds graphs. Graph names are read and dropped. -/

namespace Termbase.Rdf.Turtle

open Step

def verb : Step Iri := do
  match ← next with
  | .word ['a'] => return rdfType
  | token => iriOf token

mutual

def quotedTriple : Nat → Step Term
  | 0 => failure
  | count + 1 => do
      let subject ← quotedSubject count
      let predicate ← verb
      let object ← quotedObject count
      expect ">>"
      return .quoted subject predicate object

def quotedSubject : Nat → Step Term
  | 0 => failure
  | count + 1 => do
      match ← next with
      | .mark "<<" => quotedTriple count
      | .mark "[" =>
          expect "]"
          freshBlank
      | token => nodeTerm token

def quotedObject : Nat → Step Term
  | 0 => failure
  | count + 1 => do
      match ← next with
      | .mark "<<" => quotedTriple count
      | .mark "[" =>
          expect "]"
          freshBlank
      | token => simpleTerm token

end

mutual

def propertyList : Nat → Term → Step Unit
  | 0, _ => failure
  | count + 1, subject => do
      let predicate ← verb
      objectList count subject predicate
      if ← takes ";" then moreProperties count subject

def moreProperties : Nat → Term → Step Unit
  | 0, _ => failure
  | count + 1, subject => do
      if ← takes ";" then moreProperties count subject
      else if ← faces [".", "]", "\x7d", "|\x7d"] then return ()
      else propertyList count subject

def objectList : Nat → Term → Iri → Step Unit
  | 0, _, _ => failure
  | count + 1, subject, predicate => do
      let value ← object count subject predicate
      if ← takes "\x7b|" then
        propertyList count (.quoted subject predicate value)
        expect "|\x7d"
      if ← takes "," then objectList count subject predicate

def object : Nat → Term → Iri → Step Term
  | 0, _, _ => failure
  | count + 1, subject, predicate => do
      match ← next with
      | .mark "<<" =>
          let value ← quotedTriple count
          meet subject predicate value
          return value
      | .mark "[" =>
          let node ← freshBlank
          unless ← takes "]" do
            propertyList count node
            expect "]"
          meet subject predicate node
          return node
      | .mark "(" =>
          if ← takes ")" then
            meet subject predicate (.iri rdfNil)
            return .iri rdfNil
          else
            let node ← freshBlank
            meet subject predicate node
            items count node
            return node
      | token =>
          let value ← simpleTerm token
          meet subject predicate value
          return value

def items : Nat → Term → Step Unit
  | 0, _ => failure
  | count + 1, node => do
      let _ ← object count node rdfFirst
      if ← takes ")" then meet node rdfRest (.iri rdfNil)
      else
        let following ← freshBlank
        meet node rdfRest following
        items count following

end

def subjectCollection (count : Nat) : Step Term := do
  if ← takes ")" then return .iri rdfNil
  let node ← freshBlank
  items count node
  return node

/-- The properties of a subject in brackets and after them, where none need follow before an end. -/
def bracketedProperties (count : Nat) : Step Unit := do
  let node ← freshBlank
  propertyList count node
  expect "]"
  unless ← faces [".", "\x7d"] do propertyList count node

def graphTriples (count : Nat) : Step Unit := do
  match ← next with
  | .mark "[" =>
      if ← takes "]" then propertyList count (← freshBlank) else bracketedProperties count
  | .mark "(" => propertyList count (← subjectCollection count)
  | .mark "<<" => propertyList count (← quotedTriple count)
  | token => propertyList count (← nodeTerm token)

def graphContent : Nat → Step Unit
  | 0 => failure
  | count + 1 => do
      if ← takes "\x7d" then return ()
      graphTriples count
      if ← takes "\x7d" then return ()
      expect "."
      graphContent count

def afterLabel (withGraphs : Bool) (count : Nat) (label : Term) : Step Unit := do
  if withGraphs then
    if ← takes "\x7b" then return ← graphContent count
  propertyList count label
  expect "."

def graphName : Step Unit := do
  match ← next with
  | .mark "[" => expect "]"
  | token =>
      let _ ← nodeTerm token
      return ()

def triplesOrGraph (withGraphs : Bool) (count : Nat) : Step Unit := do
  match ← next with
  | .mark "[" =>
      if ← takes "]" then afterLabel withGraphs count (← freshBlank)
      else
        bracketedProperties count
        expect "."
  | .mark "(" =>
      propertyList count (← subjectCollection count)
      expect "."
  | .mark "<<" =>
      propertyList count (← quotedTriple count)
      expect "."
  | token => afterLabel withGraphs count (← nodeTerm token)

def facesGraph : Step (Option Bool) := do
  match ← peek with
  | some (.word word) => return if isKeyword "graph" word then some true else none
  | some (.mark "\x7b") => return some false
  | _ => return none

def statement (withGraphs : Bool) : Step Unit := do
  if ← takesDeclaration (expect ".") then return ()
  let count ← depth
  match withGraphs, ← facesGraph with
  | true, some named =>
      skip
      if named then
        graphName
        expect "\x7b"
      graphContent count
  | _, _ => triplesOrGraph withGraphs count

def read (document : List UInt8) : Reading := readTokens (statement false) (tokens .free document)

def readWithGraphs (document : List UInt8) : Reading :=
  readTokens (statement true) (tokens .free document)

end Termbase.Rdf.Turtle
