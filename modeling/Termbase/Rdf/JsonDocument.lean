import Termbase.Rdf.JsonContext
import Termbase.Text.Utf8

/-! RDF written in JSON: objects are nodes, and their members are properties. A node is linked to the node
around it before its own types and properties are met. What does not name anything is passed over. -/

namespace Termbase.Rdf.JsonDocument

open Json

structure Progress where
  met : List Statement
  blanks : Nat

abbrev Step := OptionT (StateM Progress)

def meet (context : JsonContext) (subject : Term) (predicate : Iri) (object : Term) : Step Unit :=
  modify fun progress =>
    { progress with met := ⟨⟨subject, predicate, object⟩, context.scope⟩ :: progress.met }

def freshBlank : Step Term := do
  let number := (← get).blanks
  modify fun progress => { progress with blanks := number + 1 }
  return .blank (.fresh number)

def nodeTerm? (text : Text) : Option Term :=
  match text with
  | '_' :: ':' :: label => some (.blank (.named label))
  | _ => if Iri.isAbsolute text then some (.iri text) else none

def xsdTerm (localName : String) : Iri := xsdNamespace ++ localName.toList

def shortest (numeral : Numeral) : Text × Int :=
  let digits := Text.ofNat numeral.significand
  let core := (digits.reverse.dropWhile (· == '0')).reverse
  (core, numeral.exponent + (digits.length - core.length))

/-- A number by its canonical text: an integer where it is one below ten to the power of 21, or else a digit,
a point, more digits, and an exponent. -/
def canonicalNumber (numeral : Numeral) : Text × Iri :=
  let (core, exponent) := shortest numeral
  match core with
  | [] => (['0'], xsdTerm "integer")
  | first :: rest =>
      if 0 ≤ exponent ∧ core.length + exponent ≤ 21 then
        (core ++ List.replicate exponent.toNat '0', xsdTerm "integer")
      else
        (first :: '.' :: (if rest.isEmpty then ['0'] else rest) ++
          'E' :: (toString (exponent + rest.length)).toList, xsdTerm "double")

def numberLiteral (text : Text) : Text × Iri :=
  let unsigned := (Text.stripPrefix? ['-'] text).getD text
  match numeral unsigned with
  | .ok (value, _) =>
      let (shown, datatype) := canonicalNumber value
      (if unsigned.length < text.length ∧ value.significand ≠ 0 then '-' :: shown else shown, datatype)
  | .error _ => (text, xsdTerm "integer")

def boolText (value : Bool) : Text := (if value then "true" else "false").toList

def plainLiteral? (kind : Option LiteralKind) : Value → Option Term
  | .string text => some (.literal text (kind.getD .plain))
  | .bool value => some (.literal (boolText value) (kind.getD (.typed (xsdTerm "boolean"))))
  | .number text =>
      let (shown, datatype) := numberLiteral text
      some (.literal shown (kind.getD (.typed datatype)))
  | _ => none

def languageKind : Option Text → LiteralKind
  | some language => .tagged language
  | none => .plain

def coerced (context : JsonContext) (coercion : Coercion) (value : Value) : Option Term :=
  match coercion, value with
  | .reference, .string text => nodeTerm? (context.expandReference text)
  | .vocabulary, .string text => (context.expandName text).bind nodeTerm?
  | .typed datatype, value => plainLiteral? (some (kindOfDatatype datatype)) value
  | .tagged language, .string text => some (.literal text (languageKind language))
  | _, .string text => some (.literal text (languageKind context.language))
  | _, value => plainLiteral? none value

def expandedMembers (context : JsonContext) (members : List (Text × Value)) :
    List (Text × Text × Value) :=
  members.filterMap fun entry => (context.expandName entry.1).map fun key => (key, entry.1, entry.2)

def lookupKey (key : String) (members : List (Text × Text × Value)) : Option Value :=
  (members.find? (·.1 == key.toList)).map (·.2.2)

def valueObject (context : JsonContext) (members : List (Text × Text × Value)) (value : Value) :
    Step (Option Term) := do
  let kind ← match lookupKey "@type" members, lookupKey "@language" members with
    | some (.string type), none =>
        match context.expandName type with
        | some iri => pure (some (kindOfDatatype iri))
        | none => failure
    | none, some (.string language) => pure (some (.tagged (language.map asciiLower)))
    | none, none => pure none
    | _, _ => failure
  match value with
  | .null => return none
  | .array _ | .object _ => failure
  | value => return plainLiteral? kind value

def nodeOf (context : JsonContext) (members : List (Text × Text × Value)) : Step (Option Term) := do
  match lookupKey "@id" members with
  | none => return some (← freshBlank)
  | some (.string text) => return nodeTerm? (context.expandReference text)
  | some _ => failure

def meetTypes (context : JsonContext) (node : Term) (members : List (Text × Text × Value)) : Step Unit := do
  match lookupKey "@type" members with
  | none => return ()
  | some value =>
      value.items.forM fun item => do
        match item with
        | .string text =>
            match (context.expandName text).bind nodeTerm? with
            | some type => meet context node rdfType type
            | none => return ()
        | _ => failure

structure Link where
  node : Term
  predicate : Iri
  isReverse : Bool

def Link.meet (link : Link) (context : JsonContext) (object : Term) : Step Unit :=
  match link.isReverse, object with
  | false, object => JsonDocument.meet context link.node link.predicate object
  | true, .literal _ _ => failure
  | true, object => JsonDocument.meet context object link.predicate link.node

mutual

/-- A value of a property, or at the outermost level, where plain values say nothing. -/
def readAny : Nat → JsonContext → Option Link → Coercion → Value → Step Unit
  | 0, _, _, _, _ => failure
  | count + 1, context, link, coercion, value => do
      match value with
      | .null => return ()
      | .array items => readAll count context link coercion items
      | .object members =>
          let context ← match members.lookup "@context".toList with
            | some inner => OptionT.mk (pure (context.extend inner))
            | none => pure context
          readObject count context link coercion (expandedMembers context members)
      | plain =>
          match link, coerced context coercion plain with
          | some link, some term => link.meet context term
          | _, _ => return ()

def readAll : Nat → JsonContext → Option Link → Coercion → List Value → Step Unit
  | 0, _, _, _, _ => failure
  | _, _, _, _, [] => return ()
  | count + 1, context, link, coercion, item :: rest => do
      readAny count context link coercion item
      readAll count context link coercion rest

def readObject :
    Nat → JsonContext → Option Link → Coercion → List (Text × Text × Value) → Step Unit
  | 0, _, _, _, _ => failure
  | count + 1, context, link, coercion, members => do
      match lookupKey "@value" members, lookupKey "@list" members, lookupKey "@set" members with
      | some value, _, _ =>
          match link, ← valueObject context members value with
          | some link, some term => link.meet context term
          | _, _ => return ()
      | none, some value, _ =>
          match link with
          | some link => readList count context link coercion value.items
          | none => return ()
      | none, none, some value => readAny count context link coercion value
      | none, none, none =>
          match ← nodeOf context members with
          | none => return ()
          | some node =>
              if let some link := link then link.meet context node
              meetTypes context node members
              readMembers count context node members

def readList : Nat → JsonContext → Link → Coercion → List Value → Step Unit
  | 0, _, _, _, _ => failure
  | _, context, link, _, [] => link.meet context (.iri rdfNil)
  | count + 1, context, link, coercion, item :: rest => do
      let cell ← freshBlank
      link.meet context cell
      readAny count context (some ⟨cell, rdfFirst, false⟩) coercion item
      readList count context ⟨cell, rdfRest, false⟩ coercion rest

def readMembers : Nat → JsonContext → Term → List (Text × Text × Value) → Step Unit
  | 0, _, _, _ => failure
  | _, _, _, [] => return ()
  | count + 1, context, node, (key, given, value) :: rest => do
      if key = "@graph".toList ∨ key = "@included".toList then
        readAny count context none .none value
      else if key = "@reverse".toList then
        match value with
        | .object members => readReverse count context node (expandedMembers context members)
        | _ => failure
      else if !JsonContext.isKeyword key && Iri.isAbsolute key then
        let definition := (context.terms.lookup given).getD ⟨none, .none, false, false, false⟩
        let link : Link := ⟨node, key, definition.isReverse⟩
        if definition.isList then readList count context link definition.coercion value.items
        else readAny count context (some link) definition.coercion value
      readMembers count context node rest

def readReverse : Nat → JsonContext → Term → List (Text × Text × Value) → Step Unit
  | 0, _, _, _ => failure
  | _, _, _, [] => return ()
  | count + 1, context, node, (key, _, value) :: rest => do
      if !JsonContext.isKeyword key && Iri.isAbsolute key then
        readAny count context (some ⟨node, key, true⟩) .reference value
      readReverse count context node rest

end

/-- The context around everything: the one of the outermost object, which ends with it. -/
def readValue (count : Nat) (value : Value) : Reading :=
  match ((readAny count .empty none .none value).run.run ⟨[], 0⟩ : Option Unit × Progress) with
  | (outcome, progress) => ⟨progress.met.reverse, outcome.map fun _ => .empty⟩

def read (document : List UInt8) : Reading :=
  match Utf8.decode document with
  | .error _ => ⟨[], none⟩
  | .ok text =>
      match Value.ofText text with
      | .error _ => ⟨[], none⟩
      | .ok value => readValue (8 * text.length + 8) value

end Termbase.Rdf.JsonDocument
