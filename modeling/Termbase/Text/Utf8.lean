import Termbase.Text

/-! UTF-8: the octets of a text, and reading octets back with the place where they stop being UTF-8. -/

namespace Termbase

/-- A sequence of octets stops being UTF-8 at an offset: with `length` octets that nothing can complete,
or because the octets end inside a character. -/
inductive Utf8Error
  | invalid (length offset : Nat)
  | incomplete (offset : Nat)
deriving DecidableEq, Repr

def Utf8Error.message : Utf8Error → String
  | .invalid length offset => s!"invalid utf-8 sequence of {length} bytes from index {offset}"
  | .incomplete offset => s!"incomplete utf-8 byte sequence from index {offset}"

abbrev Units := List (Option Char)

namespace Utf8

def encodeChar (c : Char) : List UInt8 :=
  let value := c.toNat
  if value < 0x80 then [UInt8.ofNat value]
  else if value < 0x800 then [UInt8.ofNat (0xC0 + value / 64), UInt8.ofNat (0x80 + value % 64)]
  else if value < 0x10000 then
    [UInt8.ofNat (0xE0 + value / 4096), UInt8.ofNat (0x80 + value / 64 % 64),
      UInt8.ofNat (0x80 + value % 64)]
  else
    [UInt8.ofNat (0xF0 + value / 262144), UInt8.ofNat (0x80 + value / 4096 % 64),
      UInt8.ofNat (0x80 + value / 64 % 64), UInt8.ofNat (0x80 + value % 64)]

def encode (text : Text) : List UInt8 := text.flatMap encodeChar

/-- A character whose first octets have been read: how many are owed, the bounds of the next one, the
value so far, and how many octets have been read. -/
structure Pending where
  owed : Nat
  low : Nat
  high : Nat
  value : Nat
  taken : Nat
deriving DecidableEq, Repr

inductive Opening
  | whole (c : Char)
  | begun (pending : Pending)
  | refused

def opening (octet : UInt8) : Opening :=
  let value := octet.toNat
  if value < 0x80 then .whole (Char.ofNat value)
  else if value < 0xC2 then .refused
  else if value < 0xE0 then .begun ⟨1, 0x80, 0xBF, value - 0xC0, 1⟩
  else if value = 0xE0 then .begun ⟨2, 0xA0, 0xBF, 0, 1⟩
  else if value = 0xED then .begun ⟨2, 0x80, 0x9F, 0xD, 1⟩
  else if value < 0xF0 then .begun ⟨2, 0x80, 0xBF, value - 0xE0, 1⟩
  else if value = 0xF0 then .begun ⟨3, 0x90, 0xBF, 0, 1⟩
  else if value < 0xF4 then .begun ⟨3, 0x80, 0xBF, value - 0xF0, 1⟩
  else if value = 0xF4 then .begun ⟨3, 0x80, 0x8F, 4, 1⟩
  else .refused

/-- The next octet of a begun character: the character is whole, more is owed, or the octet is refused. -/
def Pending.continue (pending : Pending) (octet : UInt8) : Opening :=
  let value := octet.toNat
  if pending.low ≤ value ∧ value ≤ pending.high then
    let total := pending.value * 64 + value % 64
    if pending.owed ≤ 1 then .whole (Char.ofNat total)
    else .begun ⟨pending.owed - 1, 0x80, 0xBF, total, pending.taken + 1⟩
  else .refused

def decodeFrom (offset : Nat) : Option Pending → List UInt8 → Except Utf8Error Text
  | none, [] => .ok []
  | some pending, [] => .error (.incomplete (offset - pending.taken))
  | none, octet :: rest =>
      match opening octet with
      | .whole c => (decodeFrom (offset + 1) none rest).map (c :: ·)
      | .begun pending => decodeFrom (offset + 1) (some pending) rest
      | .refused => .error (.invalid 1 offset)
  | some pending, octet :: rest =>
      match pending.continue octet with
      | .whole c => (decodeFrom (offset + 1) none rest).map (c :: ·)
      | .begun pending => decodeFrom (offset + 1) (some pending) rest
      | .refused => .error (.invalid pending.taken (offset - pending.taken))

def decode (octets : List UInt8) : Except Utf8Error Text := decodeFrom 0 none octets

def unitsFrom : Option Pending → List UInt8 → Units
  | none, [] => []
  | some _, [] => [none]
  | none, octet :: rest =>
      match opening octet with
      | .whole c => some c :: unitsFrom none rest
      | .begun pending => unitsFrom (some pending) rest
      | .refused => none :: unitsFrom none rest
  | some pending, octet :: rest =>
      match pending.continue octet with
      | .whole c => some c :: unitsFrom none rest
      | .begun pending => unitsFrom (some pending) rest
      | .refused =>
          match opening octet with
          | .whole c => none :: some c :: unitsFrom none rest
          | .begun pending => none :: unitsFrom (some pending) rest
          | .refused => none :: none :: unitsFrom none rest

def units (octets : List UInt8) : Units := unitsFrom none octets

end Utf8

end Termbase
