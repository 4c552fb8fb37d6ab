import Termbase.Text

/-! References in XML text: characters by number, the five entities of XML itself, and entities that a
document defines. -/

namespace Termbase.Xml

abbrev Entities := List (Text × Text)

def ownEntities : Entities :=
  [("lt".toList, ['<']), ("gt".toList, ['>']), ("amp".toList, ['&']), ("apos".toList, ['\'']),
    ("quot".toList, ['"'])]

def digitsValue? (base : Nat) (digits : Text) : Option Nat :=
  if digits.isEmpty then none
  else digits.foldlM (fun value c => do
    let digit ← hexDigit? c
    if digit < base then some (value * base + digit) else none) 0

/-- The character of a number, which may be neither zero nor a surrogate. -/
def characterOf? (value : Nat) : Option Char :=
  if value ≠ 0 ∧ value.isValidChar then some (Char.ofNat value) else none

def referenced? (entities : Entities) : Text → Option Text
  | '#' :: 'x' :: digits => do return [← characterOf? (← digitsValue? 16 digits)]
  | '#' :: digits => do return [← characterOf? (← digitsValue? 10 digits)]
  | name => (ownEntities.lookup name).or (entities.lookup name)

def unescapeWithin (entities : Entities) : Nat → Text → Option Text
  | 0, _ => some []
  | _, [] => some []
  | count + 1, '&' :: rest =>
      match rest.dropWhile fun c => c != ';' && c != '&' with
      | ';' :: after => do
          let value ← referenced? entities (rest.takeWhile fun c => c != ';' && c != '&')
          return value ++ (← unescapeWithin entities count after)
      | _ => none
  | count + 1, c :: rest => do return c :: (← unescapeWithin entities count rest)

def unescape? (entities : Entities) (text : Text) : Option Text :=
  unescapeWithin entities (text.length + 1) text

def escapedChar (c : Char) : Text :=
  match c with
  | '<' => "&lt;".toList
  | '>' => "&gt;".toList
  | '&' => "&amp;".toList
  | '\'' => "&apos;".toList
  | '"' => "&quot;".toList
  | _ => [c]

def escape (text : Text) : Text := text.flatMap escapedChar

def isSpace (c : Char) : Bool := c == ' ' || c == '\t' || c == '\n' || c == '\r'

def skipSpaces (text : Text) : Text := text.dropWhile isSpace

def readDefinition (entities : Entities) (text : Text) : Option Entities := do
  let named := skipSpaces ((Text.stripPrefix? ['%'] (skipSpaces text)).getD (skipSpaces text))
  let name := named.takeWhile (!isSpace ·)
  let valued ← Text.stripPrefix? ['"'] (skipSpaces (← (named.dropWhile (!isSpace ·)).tail?))
  let value := valued.takeWhile (· != '"')
  let after ← (valued.dropWhile (· != '"')).tail?
  let _ ← Text.stripPrefix? ['>'] (skipSpaces after)
  return (name, ← unescape? entities value) :: entities

def afterBrackets : Text → List Text
  | [] => []
  | '<' :: rest => rest :: afterBrackets rest
  | _ :: rest => afterBrackets rest

/-- Adds the entities that a document type defines; of two definitions of a name the later one counts. -/
def readDefinitions (entities : Entities) (documentType : Text) : Option Entities :=
  (afterBrackets documentType).foldlM (fun entities text =>
    match Text.stripPrefix? "!ENTITY".toList text with
    | some definition => readDefinition entities (definition.takeWhile (· != '<'))
    | none => some entities) entities

end Termbase.Xml
