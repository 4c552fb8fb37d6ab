import Termbase.Text

/-! The Unicode property White_Space, and the removal of such characters from the ends of a text. -/

namespace Termbase

def isBlank (c : Char) : Bool :=
  ('\t' ≤ c && c ≤ '\r') || c == ' ' || c == '\x85' || c == '\u00a0' || c == '\u1680' ||
  ('\u2000' ≤ c && c ≤ '\u200a') || c == '\u2028' || c == '\u2029' || c == '\u202f' ||
  c == '\u205f' || c == '\u3000'

def Text.trimStart (text : Text) : Text := text.dropWhile isBlank

def Text.trimEnd (text : Text) : Text := (text.reverse.dropWhile isBlank).reverse

def Text.trim (text : Text) : Text := Text.trimEnd (Text.trimStart text)

end Termbase
