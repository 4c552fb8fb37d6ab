import Termbase.Text.Quoted
import Termbase.Text.Utf8

/-! Octets written as pairs of hexadecimal digits. Writing uses small digits; reading takes both cases. -/

namespace Termbase

/-- A text is no hexadecimal form: it has an odd number of octets, or the octet at `offset`, shown as the
character of that number, is no digit. -/
inductive HexError
  | oddLength
  | notADigit (octet : UInt8) (offset : Nat)
deriving DecidableEq, Repr

namespace Hex

def encode (octets : List UInt8) : Text :=
  octets.flatMap fun octet => [hexDigitOf (octet.toNat / 16), hexDigitOf (octet.toNat % 16)]

def digit (octet : UInt8) (offset : Nat) : Except HexError Nat :=
  match hexDigit? (Char.ofNat octet.toNat) with
  | some value => .ok value
  | none => .error (.notADigit octet offset)

def decodePairs (offset : Nat) : List UInt8 → Except HexError (List UInt8)
  | high :: low :: rest => do
      let upper ← digit high offset
      let lower ← digit low (offset + 1)
      let octets ← decodePairs (offset + 2) rest
      return UInt8.ofNat (upper * 16 + lower) :: octets
  | _ => .ok []

/-- Reads pairs of digits; lengths and offsets count the octets of the text's UTF-8 form. -/
def decode (text : Text) : Except HexError (List UInt8) :=
  let octets := Utf8.encode text
  if octets.length % 2 = 1 then .error .oddLength else decodePairs 0 octets

end Hex

def HexError.message : HexError → String
  | .oddLength => "Odd number of digits"
  | .notADigit octet offset =>
      let shown := String.ofList (quotedChar (Char.ofNat octet.toNat))
      s!"Invalid character {shown} at position {offset}"

end Termbase
