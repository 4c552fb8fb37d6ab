import Termbase.Text.CaseMap
import Termbase.Text.ClusterTable

/-! Text and characters between quotes, as messages show them: what has no shape of its own is escaped. -/

namespace Termbase

/-- Characters that are escaped by their number: controls, marks that join the character before, blanks
other than the space, and private ones. -/
def isShapeless (c : Char) : Bool :=
  let value := c.toNat
  inRanges ClusterTable.control value || inRanges ClusterTable.extend value ||
  value == 0xA0 || value == 0x1680 || (0x2000 ≤ value && value ≤ 0x200A) || value == 0x202F ||
  value == 0x205F || value == 0x3000 || (0xE000 ≤ value && value ≤ 0xF8FF) || 0xF0000 ≤ value

def shownChar (quote c : Char) : Text :=
  if c = quote ∨ c = '\\' then ['\\', c]
  else if c = '\x00' then ['\\', '0']
  else if c = '\t' then ['\\', 't']
  else if c = '\n' then ['\\', 'n']
  else if c = '\r' then ['\\', 'r']
  else if isShapeless c then ['\\', 'u', '\x7b'] ++ Nat.toDigits 16 c.toNat ++ ['\x7d']
  else [c]

def quotedText (text : Text) : Text := '"' :: text.flatMap (shownChar '"') ++ ['"']

def quotedChar (c : Char) : Text := '\'' :: shownChar '\'' c ++ ['\'']

end Termbase
