import Termbase.Rdf.Term
import Termbase.Text.Quoted

/-! The parts of a triple written out for a message, each under the name of its kind. -/

namespace Termbase.Rdf

def describeText (text : Text) : String := String.ofList (quotedText text)

def describeFields (name : String) (fields : List (String × String)) : String :=
  name ++ " \x7b " ++ String.intercalate ", " (fields.map fun field => field.1 ++ ": " ++ field.2) ++
    " \x7d"

def describeWrapped (name value : String) : String := name ++ "(" ++ value ++ ")"

def describeIri (iri : Iri) : String := describeFields "NamedNode" [("iri", describeText iri)]

def describeBlank : BlankLabel → String
  | .named label => describeWrapped "BlankNode" (describeWrapped "Named" (describeText label))
  | .fresh number => describeWrapped "BlankNode" (describeWrapped "Named" (toString number))

def describeLiteral (value : Text) : LiteralKind → String
  | .plain => describeWrapped "Literal" (describeWrapped "String" (describeText value))
  | .tagged language =>
      describeWrapped "Literal" (describeFields "LanguageTaggedString"
        [("value", describeText value), ("language", describeText language)])
  | .typed datatype =>
      describeWrapped "Literal" (describeFields "TypedLiteral"
        [("value", describeText value), ("datatype", describeIri datatype)])

def describeParts (subject : String) (predicate : Iri) (object : String) : String :=
  describeFields "Triple"
    [("subject", subject), ("predicate", describeIri predicate), ("object", object)]

def describeTerm : Term → String
  | .iri iri => describeWrapped "NamedNode" (describeIri iri)
  | .blank label => describeWrapped "BlankNode" (describeBlank label)
  | .literal value kind => describeWrapped "Literal" (describeLiteral value kind)
  | .quoted subject predicate object =>
      describeWrapped "Triple"
        (describeParts (describeTerm subject) predicate (describeTerm object))

def describeTriple (subject : Term) (predicate : Iri) (object : Term) : String :=
  describeParts (describeTerm subject) predicate (describeTerm object)

end Termbase.Rdf
