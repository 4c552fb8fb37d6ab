import Termbase.Coder.Fixed
import Termbase.Coder.Known

/-! The three kinds of coders under one interface. Each writes codes under its own number and reads only
codes that carry it. -/

namespace Termbase

/-- The last kind writes the whole identifier and accepts every one. -/
inductive Coder
  | known (coder : KnownCoder)
  | fixed (coder : FixedCoder)
  | wholeText (id : CoderId)

namespace Coder

def id : Coder → CoderId
  | .known coder => coder.id
  | .fixed coder => coder.id
  | .wholeText id => id

def encode? : Coder → Iri → Option Code
  | .known coder, iri => coder.encode? iri
  | .fixed coder, iri => coder.encode? iri
  | .wholeText id, iri => some (.make id .iri (Utf8.encode iri))

def checkOwner (coder : Coder) (code : Code) : Except CoderError Unit :=
  if code.type ≠ .iri then .error (.notAnIri code.type)
  else if code.coder ≠ coder.id then .error (.wrongCoder coder.id code)
  else .ok ()

def validated (validate : Iri → Except IriError Unit) (iri : Iri) : Except CoderError Iri :=
  match validate iri with
  | .ok _ => .ok iri
  | .error error => .error (.invalidIri error)

def readWholeText (code : Code) : Except CoderError Iri :=
  match Utf8.decode code.payload with
  | .ok iri => .ok iri
  | .error error => .error (.invalidUtf8 error)

/-- The identifier of a code, where `validate` says which identifiers a payload may spell. A dictionary's
identifiers are not validated. -/
def decodeWith (validate : Iri → Except IriError Unit) (coder : Coder) (code : Code) :
    Except CoderError Iri := do
  coder.checkOwner code
  match coder with
  | .known terms =>
      match terms.dictionary.iri? code with
      | some iri => .ok iri
      | none => .error (.unknownCode code)
  | .fixed spaces => do validated validate (← spaces.readPayload code)
  | .wholeText _ => do validated validate (← readWholeText code)

def decode (coder : Coder) (code : Code) : Except CoderError Iri :=
  coder.decodeWith Iri.checkAbsolute code

end Coder

end Termbase
