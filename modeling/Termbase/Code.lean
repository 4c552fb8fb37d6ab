import Termbase.Code.Header
import Termbase.Json.Writer
import Termbase.Text.Hex

/-! The stored form of a value: a header octet and a payload. -/

namespace Termbase

structure Code where
  header : UInt8
  payload : List UInt8
deriving DecidableEq, Repr

namespace Code

def make (coder : CoderId) (type : ValueType) (payload : List UInt8) : Code :=
  ⟨coder.header type, payload⟩

def octets (code : Code) : List UInt8 := code.header :: code.payload

def ofOctets? : List UInt8 → Option Code
  | [] => none
  | header :: payload => some ⟨header, payload⟩

def type (code : Code) : ValueType := .ofHeader code.header

def coder (code : Code) : CoderId := .ofHeader code.header

def hex (code : Code) : Text := Hex.encode code.octets

def description (code : Code) : Text := "EncodedValue(".toList ++ code.hex ++ [')']

def toJson (code : Code) : Text := Json.writeString code.hex

/-- Octet by octet, a beginning before what it begins. -/
def le (left right : Code) : Bool := decide (left.octets ≤ right.octets)

end Code

end Termbase
