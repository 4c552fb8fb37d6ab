import Termbase.Json.Reader
import Termbase.Json.Writer
import Termbase.Namespace

/-! The JSON form of a namespace: an object with its label and its identifier. -/

namespace Termbase.Namespace

def labelKey : Text := "prefix".toList

def iriKey : Text := "iri".toList

def toJson (space : Namespace) : Text :=
  Json.writeObject [(labelKey, Json.writeString space.label), (iriKey, Json.writeString space.iri)]

open Json

def readIri : Reader Iri := fun tokens => do
  let (text, rest) ← readString tokens
  if (Iri.checkReference text).isOk then return (text, rest) else .error .mismatched

structure Fields where
  label : Option Text
  iri : Option Iri

def readField : MemberReader Fields := fun fields key tokens =>
  if key = labelKey then
    if fields.label.isSome then .error .mismatched
    else do
      let (label, rest) ← readMember readString tokens
      return ({ fields with label := some label }, rest)
  else if key = iriKey then
    if fields.iri.isSome then .error .mismatched
    else do
      let (iri, rest) ← readMember readIri tokens
      return ({ fields with iri := some iri }, rest)
  else passMember fields tokens

/-- The next item of an array that has to have one more; `first` says that it is the first. -/
def readPart (first : Bool) (read : Reader α) : Reader α
  | .closeBracket :: _ => .error .mismatched
  | tokens =>
      if first then read tokens
      else match tokens with
        | .comma :: rest => read rest
        | _ => .error (markFault tokens)

def expectArrayEnd : List Token → Except JsonError (List Token)
  | .closeBracket :: rest => .ok rest
  | tokens => .error (markFault tokens)

def read : Reader Namespace
  | .openBrace :: tokens => do
      let (fields, rest) ← readObjectBody readField ⟨none, none⟩ tokens
      match fields with
      | ⟨some label, some iri⟩ => return (⟨label, iri⟩, rest)
      | _ => .error .mismatched
  | .openBracket :: tokens => do
      let (label, rest) ← readPart true readString tokens
      let (iri, rest) ← readPart false readIri rest
      let rest ← expectArrayEnd rest
      return (⟨label, iri⟩, rest)
  | tokens => .error (faultOf tokens)

def ofJson (text : Text) : Except JsonError Namespace := readText read text

end Termbase.Namespace
