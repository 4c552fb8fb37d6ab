import Termbase.CoderError
import Termbase.Json.Reader

/-! The JSON form of a code: a string of hexadecimal digits. -/

namespace Termbase.Code

open Json

def read : Reader Code := fun tokens => do
  let (text, rest) ← readString tokens
  match Code.ofHex text with
  | .ok code => return (code, rest)
  | .error _ => .error .mismatched

def ofJson (text : Text) : Except JsonError Code := readText read text

end Termbase.Code
