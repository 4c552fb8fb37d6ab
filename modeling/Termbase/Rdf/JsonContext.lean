import Termbase.Iri.Reference
import Termbase.Json.Value
import Termbase.Rdf.Term

/-! The context of a JSON-LD object: what its keys and values stand for. A context that lies elsewhere is
not fetched. -/

namespace Termbase.Rdf

open Json

inductive Coercion
  | none
  | reference
  | vocabulary
  | typed (datatype : Iri)
  | tagged (language : Option Text)
deriving DecidableEq, Repr

structure TermDefinition where
  iri : Option Iri
  coercion : Coercion
  isList : Bool
  isReverse : Bool
  startsNames : Bool
deriving DecidableEq, Repr

structure JsonContext where
  base : Option Iri
  vocabulary : Option Iri
  language : Option Text
  terms : List (Text × TermDefinition)
deriving DecidableEq, Repr

namespace JsonContext

def empty : JsonContext := ⟨none, none, none, []⟩

def keywords : List Text :=
  ["@base", "@container", "@context", "@direction", "@graph", "@id", "@import", "@included", "@index",
    "@json", "@language", "@list", "@nest", "@none", "@prefix", "@propagate", "@protected", "@reverse",
    "@set", "@type", "@value", "@version", "@vocab"].map String.toList

def isKeyword (text : Text) : Bool := keywords.contains text

def scope (context : JsonContext) : Scope where
  labels := context.terms.filterMap fun entry =>
    if entry.2.startsNames then entry.2.iri.map fun iri => (entry.1, iri) else none
  base := context.base

/-- A compact name before and after its colon, unless it reads as an identifier or a blank node. -/
def splitCompact? (text : Text) : Option (Text × Text) :=
  match text.dropWhile (· != ':') with
  | ':' :: rest =>
      let label := text.takeWhile (· != ':')
      if label = ['_'] ∨ ['/', '/'].isPrefixOf rest then none else some (label, rest)
  | _ => none

def expandCompact? (context : JsonContext) (text : Text) : Option Iri := do
  let (label, rest) ← splitCompact? text
  let definition ← context.terms.lookup label
  if definition.startsNames then return (← definition.iri) ++ rest else none

def expandName (context : JsonContext) (text : Text) : Option Text :=
  if isKeyword text then some text
  else match context.terms.lookup text with
    | some definition => definition.iri
    | none =>
        match context.expandCompact? text with
        | some iri => some iri
        | none =>
            if text.contains ':' then some text
            else some ((context.vocabulary.getD []) ++ text)

def expandReference (context : JsonContext) (text : Text) : Text :=
  match context.expandCompact? text with
  | some iri => iri
  | none =>
      if ['_', ':'].isPrefixOf text then text
      else (resolveIri? context.base text).getD text

def endsLikeStart (iri : Iri) : Bool :=
  iri.getLast?.any fun c => c == ':' || c == '/' || c == '?' || c == '#' || c == '[' || c == ']' || c == '@'

def definingText? : Value → Option Text
  | .string text => some text
  | value =>
      match (value.member? "@id".toList).or (value.member? "@reverse".toList) with
      | some (.string text) => some text
      | _ => none

/-- The identifier that a text stands for inside a context with the given definitions, which may use each
other; the count bounds how far. -/
def definedIri (context : JsonContext) (definitions : List (Text × Value)) : Nat → Text → Option Iri
  | 0, _ => none
  | count + 1, text =>
      let viaTerm (term : Text) : Option Iri := do
        let value ← definitions.lookup term
        definedIri context definitions count ((definingText? value).getD term)
      if isKeyword text then some text
      else match splitCompact? text with
        | some (label, rest) =>
            match viaTerm label with
            | some start => some (start ++ rest)
            | none => some ((context.expandCompact? text).getD text)
        | none =>
            if text.contains ':' then some text
            else (viaTerm text).or (context.expandName text)

def coercionOf (context : JsonContext) (definitions : List (Text × Value)) (value : Value) : Coercion :=
  match value.member? "@type".toList, value.member? "@language".toList with
  | some (.string type), _ =>
      if type = "@id".toList then .reference
      else if type = "@vocab".toList then .vocabulary
      else match context.definedIri definitions (definitions.length + 1) type with
        | some iri => .typed iri
        | none => .none
  | _, some (.string language) => .tagged (some (language.map asciiLower))
  | _, some .null => .tagged none
  | _, _ => .none

/-- Whether names may begin with a term: if it is defined by a text alone that ends like a beginning, or if
its definition says so. -/
def startsNames (value : Value) (iri : Option Iri) : Bool :=
  match value with
  | .string _ => iri.any endsLikeStart
  | value =>
      match value.member? "@prefix".toList with
      | some (.bool flag) => flag
      | _ => false

def isListContainer (value : Value) : Bool :=
  match value.member? "@container".toList with
  | some container =>
      container.items.any fun item =>
        match item with
        | .string text => text == "@list".toList
        | _ => false
  | none => false

def defineTerm (context : JsonContext) (definitions : List (Text × Value)) (term : Text)
    (value : Value) : Option TermDefinition :=
  let define (iri : Option Iri) : TermDefinition :=
    ⟨iri, context.coercionOf definitions value, isListContainer value,
      (value.member? "@reverse".toList).isSome, startsNames value iri⟩
  match value with
  | .null => some (define none)
  | .string _ | .object _ =>
      match value.member? "@id".toList with
      | some .null => some (define none)
      | _ =>
          let text := (definingText? value).getD term
          let own := if text = term then context.expandCompact? text |>.or
              (if text.contains ':' then some text else context.vocabulary.map (· ++ text))
            else context.definedIri definitions (definitions.length + 1) text
          own.map fun iri => define (some iri)
  | _ => none

def setTerm (context : JsonContext) (term : Text) (definition : TermDefinition) : JsonContext :=
  { context with terms := (context.terms.filter (·.1 != term)) ++ [(term, definition)] }

def readBase (context : JsonContext) : Option Value → Option JsonContext
  | none => some context
  | some .null => some { context with base := none }
  | some (.string text) => do return { context with base := some (← resolveIri? context.base text) }
  | some _ => none

def readVocabulary (context : JsonContext) : Option Value → Option JsonContext
  | none => some context
  | some .null => some { context with vocabulary := none }
  | some (.string text) => do return { context with vocabulary := ← context.expandName text }
  | some _ => none

def readLanguage (context : JsonContext) : Option Value → Option JsonContext
  | none => some context
  | some .null => some { context with language := none }
  | some (.string text) => some { context with language := some (text.map asciiLower) }
  | some _ => none

def readDefinitions (context : JsonContext) (members : List (Text × Value)) : Option JsonContext := do
  let context ← context.readBase (members.lookup "@base".toList)
  let context ← context.readVocabulary (members.lookup "@vocab".toList)
  let context ← context.readLanguage (members.lookup "@language".toList)
  let definitions := members.filter fun entry => !isKeyword entry.1
  definitions.foldlM (fun built entry => do
    return built.setTerm entry.1 (← built.defineTerm definitions entry.1 entry.2)) context

def extend (context : JsonContext) (value : Value) : Option JsonContext :=
  value.items.foldlM (fun context item =>
    match item with
    | .null => some empty
    | .object members => context.readDefinitions members
    | _ => none) context

end JsonContext

end Termbase.Rdf
