import Termbase.Text

/-! String literals of the generated source: plain ones, and raw ones where the text has double quotes. -/

namespace Termbase.TermModule

def longestGuard : Text → Nat
  | [] => 0
  | c :: rest =>
      max (if c = '"' then (rest.takeWhile (· == '#')).length else 0) (longestGuard rest)

/-- One more than any number of signs that follows a quote inside the text. -/
def guardLength (text : Text) : Nat := longestGuard text + 1

def escapedBackslashes (text : Text) : Text :=
  text.flatMap fun c => if c = '\\' then ['\\', '\\'] else [c]

def stringLiteral (text : Text) : Text :=
  if text.contains '"' then
    let signs := List.replicate (guardLength text) '#'
    'r' :: signs ++ '"' :: text ++ '"' :: signs
  else '"' :: escapedBackslashes text ++ ['"']

end Termbase.TermModule
