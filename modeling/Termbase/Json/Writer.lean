import Termbase.Text

/-! Writing JSON: quoted strings, arrays and objects on one line, and objects with a member a line. -/

namespace Termbase.Json

def quotedChar (c : Char) : Text :=
  match c with
  | '"' => ['\\', '"']
  | '\\' => ['\\', '\\']
  | '\x08' => ['\\', 'b']
  | '\x0c' => ['\\', 'f']
  | '\n' => ['\\', 'n']
  | '\r' => ['\\', 'r']
  | '\t' => ['\\', 't']
  | _ =>
      if c < ' ' then
        ['\\', 'u', '0', '0', hexDigitOf (c.toNat / 16), hexDigitOf (c.toNat % 16)]
      else [c]

def writeString (text : Text) : Text := '"' :: text.flatMap quotedChar ++ ['"']

def writeBool (value : Bool) : Text := (if value then "true" else "false").toList

def writeArray (items : List Text) : Text := '[' :: Text.join [','] items ++ [']']

def writeMember (member : Text × Text) : Text := writeString member.1 ++ ':' :: member.2

def writeObject (members : List (Text × Text)) : Text :=
  '\x7b' :: Text.join [','] (members.map writeMember) ++ ['\x7d']

def writeIndentedMember (member : Text × Text) : Text :=
  "\n  ".toList ++ writeString member.1 ++ ": ".toList ++ member.2

/-- An object with each member on a line of its own, two blanks deep; without members, a pair of braces. -/
def writeIndentedObject (members : List (Text × Text)) : Text :=
  if members.isEmpty then ['\x7b', '\x7d']
  else '\x7b' :: Text.join [','] (members.map writeIndentedMember) ++ ['\n', '\x7d']

end Termbase.Json
