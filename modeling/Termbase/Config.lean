import Termbase.Namespace.Json

/-! The configuration of a chain of coders, and its JSON form. -/

namespace Termbase

/-- The place of a namespace is part of every code that uses it, so the list may only grow at its end. -/
structure Config where
  fixedNamespaces : List Namespace
  saveOnChanges : Bool
deriving DecidableEq, Repr

namespace Config

def default : Config := ⟨[], false⟩

def namespacesKey : Text := "fixed_namespaces".toList

def saveKey : Text := "save_on_changes".toList

def toJson (config : Config) : Text :=
  Json.writeObject
    [(namespacesKey, Json.writeArray (config.fixedNamespaces.map Namespace.toJson)),
      (saveKey, Json.writeBool config.saveOnChanges)]

open Json

/-- The members read so far; each may occur once, and a missing one has its default. -/
structure Fields where
  fixedNamespaces : Option (List Namespace)
  saveOnChanges : Option Bool

def Fields.toConfig (fields : Fields) : Config :=
  ⟨fields.fixedNamespaces.getD [], fields.saveOnChanges.getD false⟩

def readField : MemberReader Fields := fun fields key tokens =>
  if key = namespacesKey then
    if fields.fixedNamespaces.isSome then .error .mismatched
    else do
      let (namespaces, rest) ← readMember (readArray Namespace.read) tokens
      return ({ fields with fixedNamespaces := some namespaces }, rest)
  else if key = saveKey then
    if fields.saveOnChanges.isSome then .error .mismatched
    else do
      let (save, rest) ← readMember readBool tokens
      return ({ fields with saveOnChanges := some save }, rest)
  else passMember fields tokens

def readSecond (namespaces : List Namespace) : Reader Config
  | .closeBracket :: rest => .ok (⟨namespaces, false⟩, rest)
  | .comma :: tokens => do
      let (save, rest) ← readBool tokens
      let rest ← Namespace.expectArrayEnd rest
      return (⟨namespaces, save⟩, rest)
  | tokens => .error (markFault tokens)

/-- Reads an object, or an array of the namespaces and the flag, which may be shorter. -/
def read : Reader Config
  | .openBrace :: tokens => do
      let (fields, rest) ← readObjectBody readField ⟨none, none⟩ tokens
      return (fields.toConfig, rest)
  | .openBracket :: .closeBracket :: rest => .ok (default, rest)
  | .openBracket :: tokens => do
      let (namespaces, rest) ← readArray Namespace.read tokens
      readSecond namespaces rest
  | tokens => .error (faultOf tokens)

def ofJson (text : Text) : Except JsonError Config := readText read text

end Config

end Termbase
