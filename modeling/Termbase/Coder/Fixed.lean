import Termbase.CoderError
import Termbase.Iri.Split
import Termbase.Namespace

/-! The coder of configured namespaces. A code holds the place of a namespace in the list and the local
name, so the list may only grow at its end. -/

namespace Termbase

structure FixedCoder where
  id : CoderId
  namespaces : List Namespace
  bounded : namespaces.length ≤ 256

namespace FixedCoder

def make (id : CoderId) (namespaces : List Namespace) : Except CoderError FixedCoder :=
  if bounded : namespaces.length ≤ 256 then .ok ⟨id, namespaces, bounded⟩
  else .error (.tooManyNamespaces namespaces.length)

def index? (coder : FixedCoder) (iri : Iri) : Option Nat :=
  coder.namespaces.findIdx? (·.iri == iri)

def payload (index : Nat) (localName : Text) : List UInt8 :=
  UInt8.ofNat index :: Utf8.encode localName

def encode? (coder : FixedCoder) (iri : Iri) : Option Code :=
  match coder.index? (splitIri iri).1 with
  | some index => some (.make coder.id .iri (payload index (splitIri iri).2))
  | none => none

def readPayload (coder : FixedCoder) (code : Code) : Except CoderError Iri :=
  match code.payload with
  | [] => .error (.truncated code)
  | index :: localName =>
      match coder.namespaces[index.toNat]? with
      | none => .error (.unknownNamespace index.toNat)
      | some space =>
          match Utf8.decode localName with
          | .ok localName => .ok (space.iri ++ localName)
          | .error error => .error (.invalidUtf8 error)

end FixedCoder

end Termbase
