import Termbase.Rdf.Turtle.Progress

/-! Notation3 as far as its statements are plain triples: any path, formula or literal may stand anywhere,
but a statement that is met has to have a node as its subject and an identifier as its predicate, and no
variables. -/

namespace Termbase.Rdf.Notation3

open Turtle Turtle.Step

/-- A term or a variable; a formula is a blank node. -/
inductive Item
  | term (term : Term)
  | variable
deriving DecidableEq, Repr

inductive Verb
  | forward (predicate : Item)
  | backward (predicate : Item)
deriving DecidableEq, Repr

def implies : Item := .term (.iri "http://www.w3.org/2000/10/swap/log#implies".toList)

def sameAs : Item := .term (.iri "http://www.w3.org/2002/07/owl#sameAs".toList)

def meetItems (subject predicate object : Item) : Step Unit := do
  match subject, predicate, object with
  | .term (.literal _ _), _, _ => failure
  | .term subject, .term (.iri predicate), .term object => meet subject predicate object
  | _, _, _ => failure

def Verb.meet (subject : Item) : Verb → Item → Step Unit
  | .forward predicate, object => meetItems subject predicate object
  | .backward predicate, object => meetItems object predicate subject

def endMarks : List String := [".", "]", "\x7d", ")"]

mutual

def triples : Nat → Step Unit
  | 0 => failure
  | count + 1 => do
      let subject ← path count
      unless ← faces endMarks do propertyList count subject

def propertyList : Nat → Item → Step Unit
  | 0, _ => failure
  | count + 1, subject => do
      let verb ← verb count
      objectList count subject verb
      if ← takes ";" then moreProperties count subject

def moreProperties : Nat → Item → Step Unit
  | 0, _ => failure
  | count + 1, subject => do
      if ← takes ";" then moreProperties count subject
      else if ← faces endMarks then return ()
      else propertyList count subject

def objectList : Nat → Item → Verb → Step Unit
  | 0, _, _ => failure
  | count + 1, subject, verb => do
      let object ← path count
      verb.meet subject object
      if ← takes "," then objectList count subject verb

def verb : Nat → Step Verb
  | 0 => failure
  | count + 1 => do
      match ← peek with
      | some (.word ['a']) =>
          skip
          return .forward (.term (.iri rdfType))
      | some (.word ['h', 'a', 's']) =>
          skip
          return .forward (← path count)
      | some (.word ['i', 's']) =>
          skip
          let predicate ← path count
          match ← next with
          | .word ['o', 'f'] => return .backward predicate
          | _ => failure
      | some (.mark "=") =>
          skip
          return .forward sameAs
      | some (.mark "=>") =>
          skip
          return .forward implies
      | some (.mark "<=") =>
          skip
          return .backward implies
      | some (.mark "<-") =>
          skip
          return .backward (← path count)
      | _ => return .forward (← path count)

def path : Nat → Step Item
  | 0 => failure
  | count + 1 => do pathFrom count (← item count)

/-- Follows predicates from an item, with an exclamation mark forwards and with a caret backwards. -/
def pathFrom : Nat → Item → Step Item
  | 0, _ => failure
  | count + 1, start => do
      if ← takes "!" then
        let predicate ← item count
        let following := Item.term (← freshBlank)
        meetItems start predicate following
        pathFrom count following
      else if ← takes "^" then
        let predicate ← item count
        let following := Item.term (← freshBlank)
        meetItems following predicate start
        pathFrom count following
      else return start

def item : Nat → Step Item
  | 0 => failure
  | count + 1 => do
      match ← next with
      | .variable => return .variable
      | .mark "[" => bracketed count
      | .mark "(" =>
          if ← takes ")" then return .term (.iri rdfNil)
          let node := Item.term (← freshBlank)
          members count node
          return node
      | .mark "\x7b" =>
          formula count
          return .term (← freshBlank)
      | token => return .term (← simpleTerm token)

def bracketed : Nat → Step Item
  | 0 => failure
  | count + 1 => do
      match ← peek with
      | some (.mark "]") =>
          skip
          return .term (← freshBlank)
      | some (.word ['i', 'd']) =>
          skip
          let node := Item.term (.iri (← iriOf (← next)))
          propertyList count node
          expect "]"
          return node
      | _ =>
          let node := Item.term (← freshBlank)
          propertyList count node
          expect "]"
          return node

def members : Nat → Item → Step Unit
  | 0, _ => failure
  | count + 1, node => do
      let value ← path count
      meetItems node (.term (.iri rdfFirst)) value
      if ← takes ")" then meetItems node (.term (.iri rdfRest)) (.term (.iri rdfNil))
      else
        let following := Item.term (← freshBlank)
        meetItems node (.term (.iri rdfRest)) following
        members count following

def formula : Nat → Step Unit
  | 0 => failure
  | count + 1 => do
      if ← takes "\x7d" then return ()
      match ← peek with
      | some (.word word) =>
          if isKeyword "prefix" word || isKeyword "base" word then
            let _ ← takesDeclaration (return ())
            formula count
          else
            triples count
            formulaEnd count
      | _ =>
          unless ← takesDeclaration (return ()) do triples count
          formulaEnd count

def formulaEnd : Nat → Step Unit
  | 0 => failure
  | count + 1 => do
      if ← takes "\x7d" then return ()
      expect "."
      formula count

end

def statement : Step Unit := do
  if ← takesDeclaration (expect ".") then return ()
  triples (← depth)
  expect "."

def read (document : List UInt8) : Reading := readTokens statement (tokens .formulas document)

end Termbase.Rdf.Notation3
