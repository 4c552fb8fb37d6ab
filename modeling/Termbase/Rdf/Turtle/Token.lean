import Termbase.Rdf.LanguageTag
import Termbase.Rdf.Term
import Termbase.Text.Utf8

/-! The tokens that Turtle and its relatives share. The text comes as characters with gaps for octets that
are no UTF-8; a gap is a fault except in a comment. -/

namespace Termbase.Rdf.Turtle

inductive Dialect
  | lines
  | free
  | formulas
deriving DecidableEq, Repr

inductive NumberKind
  | integer
  | decimal
  | double
deriving DecidableEq, Repr

inductive Token
  | reference (text : Text)
  | name (label localName : Text)
  | blank (label : Text)
  | variable
  | string (value : Text)
  | number (kind : NumberKind) (text : Text)
  | tag (text : Text)
  | mark (text : String)
  | word (text : Text)
  | lineBreak
  | broken
deriving DecidableEq, Repr

def isNameBase (c : Char) : Bool :=
  let value := c.toNat
  isAsciiLetter c ||
  (0xC0 ≤ value && value ≤ 0xD6) || (0xD8 ≤ value && value ≤ 0xF6) || (0xF8 ≤ value && value ≤ 0x2FF) ||
  (0x370 ≤ value && value ≤ 0x37D) || (0x37F ≤ value && value ≤ 0x1FFF) ||
  (0x200C ≤ value && value ≤ 0x200D) || (0x2070 ≤ value && value ≤ 0x218F) ||
  (0x2C00 ≤ value && value ≤ 0x2FEF) || (0x3001 ≤ value && value ≤ 0xD7FF) ||
  (0xF900 ≤ value && value ≤ 0xFDCF) || (0xFDF0 ≤ value && value ≤ 0xFFFD) ||
  (0x10000 ≤ value && value ≤ 0xEFFFF)

def isNameStart (c : Char) : Bool := isNameBase c || c == '_'

def isNameChar (c : Char) : Bool :=
  let value := c.toNat
  isNameStart c || c == '-' || isAsciiDigit c || value == 0xB7 ||
  (0x300 ≤ value && value ≤ 0x36F) || (0x203F ≤ value && value ≤ 0x2040)

def validChar? (value : Nat) : Option Char :=
  if value.isValidChar then some (Char.ofNat value) else none

def hexDigits : (count value : Nat) → Units → Option (Nat × Units)
  | 0, value, rest => some (value, rest)
  | count + 1, value, some c :: rest =>
      match hexDigit? c with
      | some digit => hexDigits count (value * 16 + digit) rest
      | none => none
  | _, _, _ => none

def escapedCodePoint (count : Nat) (text : Units) : Option (Char × Units) := do
  let (value, rest) ← hexDigits count 0 text
  return (← validChar? value, rest)

def escaped (withNames : Bool) : Units → Option (Char × Units)
  | some 'u' :: rest => escapedCodePoint 4 rest
  | some 'U' :: rest => escapedCodePoint 8 rest
  | some c :: rest =>
      if withNames then
        match c with
        | 't' => some ('\t', rest)
        | 'b' => some ('\x08', rest)
        | 'n' => some ('\n', rest)
        | 'r' => some ('\r', rest)
        | 'f' => some ('\x0c', rest)
        | '"' => some ('"', rest)
        | '\'' => some ('\'', rest)
        | '\\' => some ('\\', rest)
        | _ => none
      else none
  | _ => none

def referenceBody : Nat → Text → Units → Option (Text × Units)
  | 0, _, _ => none
  | count + 1, reversed, text =>
      match text with
      | some '>' :: rest => some (reversed.reverse, rest)
      | some '\\' :: rest => do
          let (c, rest) ← escaped false rest
          referenceBody count (c :: reversed) rest
      | some c :: rest => referenceBody count (c :: reversed) rest
      | _ => none

def stringBody (quote : Char) : Nat → Text → Units → Option (Text × Units)
  | 0, _, _ => none
  | count + 1, reversed, text =>
      match text with
      | some '\\' :: rest => do
          let (c, rest) ← escaped true rest
          stringBody quote count (c :: reversed) rest
      | some c :: rest =>
          if c = quote then some (reversed.reverse, rest)
          else if c = '\n' ∨ c = '\r' then none
          else stringBody quote count (c :: reversed) rest
      | _ => none

def longStringBody (quote : Char) : Nat → Text → Units → Option (Text × Units)
  | 0, _, _ => none
  | count + 1, reversed, text =>
      match text with
      | some '\\' :: rest => do
          let (c, rest) ← escaped true rest
          longStringBody quote count (c :: reversed) rest
      | some c :: rest =>
          if c = quote then
            match rest with
            | some second :: some third :: after =>
                if second = quote ∧ third = quote then some (reversed.reverse, after)
                else longStringBody quote count (c :: reversed) rest
            | _ => none
          else longStringBody quote count (c :: reversed) rest
      | _ => none

def startsWithTwo (quote : Char) : Units → Bool
  | some first :: some second :: _ => first == quote && second == quote
  | _ => false

def stringToken (long : Bool) (quote : Char) (rest : Units) : Token × Units :=
  let body :=
    if long && startsWithTwo quote rest then longStringBody quote rest.length [] (rest.drop 2)
    else stringBody quote rest.length [] rest
  match body with
  | some (value, after) => (.string value, after)
  | none => (.broken, [])

def isDigitUnit (unit : Option Char) : Bool := unit.any isAsciiDigit

def textOf (units : Units) : Text := units.filterMap id

def exponent (text : Units) : Option (Text × Units) :=
  let (sign, unsigned) : Text × Units := match text with
    | some '+' :: rest => (['+'], rest)
    | some '-' :: rest => (['-'], rest)
    | _ => ([], text)
  let digits := textOf (unsigned.takeWhile isDigitUnit)
  let rest := unsigned.dropWhile isDigitUnit
  if digits.isEmpty || rest.isEmpty then none else some (sign ++ digits, rest)

/-- A number after its sign; the text may not end with it, and a final point is not part of it. -/
def unsignedNumber (sign : Text) (text : Units) : Token × Units :=
  let whole := textOf (text.takeWhile isDigitUnit)
  let afterWhole := text.dropWhile isDigitUnit
  let (point, fraction, rest) : Text × Text × Units := match afterWhole with
    | some '.' :: more => (['.'], textOf (more.takeWhile isDigitUnit), more.dropWhile isDigitUnit)
    | _ => ([], [], afterWhole)
  match rest with
  | [] => (.broken, [])
  | c :: more =>
      if c = some 'e' ∨ c = some 'E' then
        match exponent more with
        | none => (.broken, [])
        | some (digits, after) =>
            if whole.isEmpty && fraction.isEmpty then (.broken, [])
            else (.number .double (sign ++ whole ++ point ++ fraction ++ textOf [c] ++ digits), after)
      else if !fraction.isEmpty then (.number .decimal (sign ++ whole ++ point ++ fraction), rest)
      else if whole.isEmpty then (.broken, [])
      else (.number .integer (sign ++ whole), afterWhole)

def numberToken (text : Units) : Token × Units :=
  match text with
  | some '+' :: rest => unsignedNumber ['+'] rest
  | some '-' :: rest => unsignedNumber ['-'] rest
  | _ => unsignedNumber [] text

def tagBody (text : Units) : Text × Units :=
  match text with
  | some '-' :: some c :: rest =>
      if isAsciiAlphanumeric c then
        let (more, after) := tagBody rest
        ('-' :: c :: more, after)
      else ([], text)
  | some c :: rest =>
      if isAsciiAlphanumeric c then
        let (more, after) := tagBody rest
        (c :: more, after)
      else ([], text)
  | _ => ([], text)

def tagToken (text : Units) : Token × Units :=
  match text with
  | some c :: _ =>
      if isAsciiLetter c then
        let (tag, rest) := tagBody text
        if !rest.isEmpty && LanguageTag.isValid tag then (.tag tag, rest) else (.broken, [])
      else (.broken, [])
  | _ => (.broken, [])

/-- The label of a blank node after its first character; a point counts only before a name character. -/
def blankBody : Units → Text × Units
  | some '.' :: some c :: rest =>
      if isNameChar c then
        let (more, after) := blankBody rest
        ('.' :: c :: more, after)
      else ([], some '.' :: some c :: rest)
  | some c :: rest =>
      if isNameChar c then
        let (more, after) := blankBody rest
        (c :: more, after)
      else ([], some c :: rest)
  | rest => ([], rest)

def blankToken (text : Units) : Token × Units :=
  match text with
  | some ':' :: some c :: rest =>
      if isNameStart c || isAsciiDigit c then
        let (more, after) := blankBody rest
        (.blank (c :: more), after)
      else (.broken, [])
  | _ => (.broken, [])

def isEscapable (c : Char) : Bool :=
  c == '_' || c == '~' || c == '.' || c == '-' || c == '!' || c == '$' || c == '&' || c == '\'' ||
  c == '(' || c == ')' || c == '*' || c == '+' || c == ',' || c == ';' || c == '=' || c == '/' ||
  c == '?' || c == '#' || c == '@' || c == '%'

def pointUnits (count : Nat) : Units := List.replicate count (some '.')

def points (count : Nat) : Text := List.replicate count '.'

/-- A local name: the characters read so far in reverse, then points that count only if the name goes on. -/
def localBody (reversed : Text) (pending : Nat) : Units → Option (Text × Units)
  | some '%' :: some high :: some low :: rest =>
      if isHexDigit high && isHexDigit low then
        localBody (low :: high :: '%' :: points pending ++ reversed) 0 rest
      else none
  | some '%' :: _ => none
  | some '\\' :: some c :: rest =>
      if isEscapable c then localBody (c :: points pending ++ reversed) 0 rest else none
  | some '\\' :: _ => none
  | some '.' :: rest =>
      if reversed.isEmpty then some ([], some '.' :: rest) else localBody reversed (pending + 1) rest
  | some c :: rest =>
      let admitted :=
        if reversed.isEmpty then isNameStart c || c == ':' || isAsciiDigit c
        else isNameChar c || c == ':'
      if admitted then localBody (c :: points pending ++ reversed) 0 rest
      else some (reversed.reverse, pointUnits pending ++ some c :: rest)
  | none :: _ => none
  | [] => some (reversed.reverse, pointUnits pending)

/-- A label up to its colon, with the local name behind it; or a word, which leaves its final points. -/
def nameBody (reversed : Text) : Units → Token × Units
  | some ':' :: rest =>
      if reversed.head? = some '.' then (.broken, [])
      else match localBody [] 0 rest with
        | some (localName, after) => (.name reversed.reverse localName, after)
        | none => (.broken, [])
  | some c :: rest =>
      if (if reversed.isEmpty then isNameBase c else isNameChar c || c == '.') then
        nameBody (c :: reversed) rest
      else wordToken reversed (some c :: rest)
  | none :: _ => (.broken, [])
  | [] => wordToken reversed []
where
  wordToken (reversed : Text) (rest : Units) : Token × Units :=
    let word := reversed.dropWhile (· == '.')
    if word.isEmpty then (.broken, [])
    else (.word word.reverse, pointUnits (reversed.length - word.length) ++ rest)

def referenceToken (text : Units) : Token × Units :=
  match referenceBody (text.length + 1) [] text with
  | some (reference, rest) => (.reference reference, rest)
  | none => (.broken, [])

def arrowToken (arrow : String) (text : Units) : Token × Units :=
  match referenceBody (text.length + 1) [] text with
  | some (reference, rest) =>
      if (Iri.checkReference reference).isOk then (.reference reference, rest)
      else (.mark arrow, text.drop 1)
  | none => (.mark arrow, text.drop 1)

/-- One of two marks, of which the longer has a second character; the text may not end with the shorter. -/
def longerMark (second : Char) (long short : String) (rest : Units) : Token × Units :=
  match rest with
  | [] => (.broken, [])
  | c :: after => if c = some second then (.mark long, after) else (.mark short, rest)

def variableToken (text : Units) : Token × Units :=
  match text with
  | some c :: rest =>
      if isNameStart c || isAsciiDigit c then
        (.variable, rest.dropWhile fun unit => unit.any isNameChar)
      else (.broken, [])
  | _ => (.broken, [])

def nextToken (dialect : Dialect) (c : Char) (rest : Units) : Token × Units :=
  match c with
  | '<' =>
      match rest with
      | some '<' :: after => (.mark "<<", after)
      | some '=' :: _ => if dialect = .formulas then arrowToken "<=" rest else referenceToken rest
      | some '-' :: _ => if dialect = .formulas then arrowToken "<-" rest else referenceToken rest
      | _ => referenceToken rest
  | '>' => longerMark '>' ">>" ">" rest
  | '_' => blankToken rest
  | '"' => stringToken (dialect != .lines) '"' rest
  | '\'' => if dialect = .lines then (.broken, []) else stringToken true '\'' rest
  | '@' => tagToken rest
  | '.' => if rest.head?.any isDigitUnit then numberToken (some '.' :: rest) else (.mark ".", rest)
  | '^' => longerMark '^' "^^" "^" rest
  | '(' => (.mark "(", rest)
  | ')' => (.mark ")", rest)
  | '[' => (.mark "[", rest)
  | ']' => (.mark "]", rest)
  | '\x7b' => longerMark '|' "\x7b|" "\x7b" rest
  | '\x7d' => (.mark "\x7d", rest)
  | ',' => (.mark ",", rest)
  | ';' => (.mark ";", rest)
  | '!' => (.mark "!", rest)
  | '|' => longerMark '\x7d' "|\x7d" "|" rest
  | '=' => longerMark '>' "=>" "=" rest
  | '+' | '-' => numberToken (some c :: rest)
  | '?' => variableToken rest
  | _ => if isAsciiDigit c then numberToken (some c :: rest) else nameBody [] (some c :: rest)

def isLineEnd (unit : Option Char) : Bool := unit == some '\n' || unit == some '\r'

def tokensWithin (dialect : Dialect) : Nat → Units → List Token
  | 0, _ => []
  | _, [] => []
  | _, none :: _ => [.broken]
  | count + 1, some c :: rest =>
      if c = ' ' ∨ c = '\t' then tokensWithin dialect count rest
      else if c = '\n' ∨ c = '\r' then
        if dialect = .lines then .lineBreak :: tokensWithin dialect count rest
        else tokensWithin dialect count rest
      else if c = '#' then tokensWithin dialect count (rest.dropWhile (!isLineEnd ·))
      else match nextToken dialect c rest with
        | (.broken, _) => [.broken]
        | (token, after) => token :: tokensWithin dialect count after

def tokens (dialect : Dialect) (document : List UInt8) : List Token :=
  let units := Utf8.units document
  tokensWithin dialect (units.length + 1) units

end Termbase.Rdf.Turtle
