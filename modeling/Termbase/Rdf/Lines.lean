import Termbase.Rdf.Turtle.Progress

/-! N-Triples and N-Quads: one statement a line, all names written out. Graph names are read and dropped. -/

namespace Termbase.Rdf.Lines

open Turtle Turtle.Step

def iri : Step Iri := do
  match ← next with
  | .reference text => resolve text
  | _ => failure

def datatypeOrLanguage : Step LiteralKind := do
  match ← peek with
  | some (.tag language) =>
      skip
      return .tagged (language.map asciiLower)
  | some (.mark "^^") =>
      skip
      return kindOfDatatype (← iri)
  | _ => return .plain

mutual

def quotedTriple : Nat → Step Term
  | 0 => failure
  | count + 1 => do
      let subject ← subject count
      let predicate ← iri
      let object ← object count
      expect ">>"
      return .quoted subject predicate object

def subject : Nat → Step Term
  | 0 => failure
  | count + 1 => do
      match ← next with
      | .reference text => return .iri (← resolve text)
      | .blank label => return .blank (.named label)
      | .mark "<<" => quotedTriple count
      | _ => failure

def object : Nat → Step Term
  | 0 => failure
  | count + 1 => do
      match ← peek with
      | some (.string value) =>
          skip
          return .literal value (← datatypeOrLanguage)
      | _ => subject count

end

def takesGraphName : Step Bool := do
  match ← peek with
  | some (.reference text) =>
      skip
      let _ ← resolve text
      return true
  | some (.blank _) =>
      skip
      return true
  | _ => return false

def lineEnd : Step Unit := do
  match ← peek with
  | none => return ()
  | some .lineBreak => skip
  | some _ => failure

/-- A statement up to the end of its line, or an empty line. The point is what shows a statement without a
graph to be complete. -/
def line (withGraphs : Bool) : Step Unit := do
  if (← peek) = some .lineBreak then return ← skip
  let count ← depth
  let subject ← subject count
  let predicate ← iri
  let object ← object count
  let named ← if withGraphs then takesGraphName else pure false
  if named then
    meet subject predicate object
    expect "."
  else
    expect "."
    meet subject predicate object
  lineEnd

def read (document : List UInt8) : Reading := readTokens (line false) (tokens .lines document)

def readWithGraphs (document : List UInt8) : Reading := readTokens (line true) (tokens .lines document)

end Termbase.Rdf.Lines
