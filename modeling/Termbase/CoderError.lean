import Termbase.Code
import Termbase.FileTree
import Termbase.Iri.Syntax
import Termbase.Json.Token

/-! Why a code cannot be made, kept or read. -/

namespace Termbase

inductive CoderError
  | coderIdTooHigh (number : Nat)
  | emptyCode
  | truncated (code : Code)
  | notAnIri (type : ValueType)
  | unknownCoder (coder : CoderId)
  | misplacedCoder (position : Nat) (reported : CoderId)
  | wrongCoder (expected : CoderId) (code : Code)
  | unknownCode (code : Code)
  | dictionaryFull (capacity : Nat)
  | foreignEntry (iri : Iri) (code : Code) (coder : CoderId)
  | duplicateCode (code : Code) (existing iri : Iri)
  | unknownNamespace (index : Nat)
  | tooManyNamespaces (count : Nat)
  | noCoder (iri : Iri)
  | invalidUtf8 (error : Utf8Error)
  | invalidIri (error : IriError)
  | invalidHex (error : HexError)
  | file (error : FileError)
  | json (error : JsonError)
deriving DecidableEq, Repr

namespace CoderError

def showCode (code : Code) : String := String.ofList code.hex

def message : CoderError → String
  | .coderIdTooHigh number =>
      s!"Coder ID {number} is out of range; the highest supported one is {CoderId.highest}"
  | .emptyCode => "An encoded value requires at least the header byte"
  | .truncated code =>
      s!"The encoded value {showCode code} ends before its payload is complete"
  | .notAnIri type => s!"Expected an encoded IRI, got a value of type {type.name}"
  | .unknownCoder coder => s!"No coder is registered under ID {coder.number}"
  | .misplacedCoder position reported =>
      s!"The coder at position {position} reports ID {reported.number}"
  | .wrongCoder expected code =>
      s!"Coder {expected.number} was asked to decode {showCode code}, " ++
        s!"which belongs to coder {code.coder.number}"
  | .unknownCode code => s!"The value {showCode code} is not in the dictionary"
  | .dictionaryFull capacity => s!"The dictionary is full; it holds at most {capacity} entries"
  | .foreignEntry iri code coder =>
      s!"The dictionary entry <{String.ofList iri}> -> {showCode code} " ++
        s!"was not created by coder {coder.number}"
  | .duplicateCode code existing iri =>
      s!"The value {showCode code} is mapped to both <{String.ofList existing}> " ++
        s!"and <{String.ofList iri}>"
  | .unknownNamespace index => s!"Namespace index {index} is not configured"
  | .tooManyNamespaces count => s!"At most 256 fixed namespaces are supported, got {count}"
  | .noCoder iri => s!"No coder accepted <{String.ofList iri}>"
  | .invalidUtf8 error => s!"Encoded IRI is not valid UTF-8: {error.message}"
  | .invalidIri error => s!"Decoded an invalid IRI: {error.message}"
  | .invalidHex error => s!"Invalid hex representation of an encoded value: {error.message}"
  | .file error => error.message
  | .json _ => "The text is not the JSON that was expected"

end CoderError

def CoderId.make (number : Nat) : Except CoderError CoderId :=
  match CoderId.ofNat? number with
  | some coder => .ok coder
  | none => .error (.coderIdTooHigh number)

namespace Code

def ofOctets (octets : List UInt8) : Except CoderError Code :=
  match ofOctets? octets with
  | some code => .ok code
  | none => .error .emptyCode

def ofHex (text : Text) : Except CoderError Code :=
  match Hex.decode text with
  | .ok octets => ofOctets octets
  | .error error => .error (.invalidHex error)

end Code

end Termbase
