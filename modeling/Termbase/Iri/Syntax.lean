import Termbase.Text

/-! The grammar of internationalized resource identifiers, read from left to right: the first character
that no rule admits is the error. A reference may lack a scheme; an absolute identifier may not. -/

namespace Termbase

abbrev Iri := Text

inductive IriError
  | noScheme
  | invalidCodePoint (c : Char)
  | invalidPercentEncoding (digits : Text)
  | invalidPortCharacter (c : Char)
  | invalidHostCharacter (c : Char)
  | invalidHostAddress
deriving DecidableEq, Repr

def IriError.message : IriError → String
  | .noScheme => "No scheme found in an absolute IRI"
  | .invalidCodePoint c => s!"Invalid IRI code point '{c}'"
  | .invalidPercentEncoding digits => s!"Invalid IRI percent encoding '%{String.ofList digits}'"
  | .invalidPortCharacter c => s!"Invalid character '{c}'"
  | .invalidHostCharacter c => s!"Invalid character '{c}' in host"
  | .invalidHostAddress => "Invalid host IP (invalid IPv6 address syntax)"

namespace Iri

def isSubDelimiter (c : Char) : Bool :=
  c == '!' || c == '$' || c == '&' || c == '\'' || c == '(' || c == ')' || c == '*' || c == '+' ||
  c == ',' || c == ';' || c == '='

def isPlain (c : Char) : Bool :=
  isAsciiAlphanumeric c || c == '-' || c == '.' || c == '_' || c == '~'

/-- Characters above ASCII that stand for themselves: no private ones, no noncharacters, and no tags. -/
def isUniversal (c : Char) : Bool :=
  let value := c.toNat
  (0xA0 ≤ value && value ≤ 0xD7FF) || (0xF900 ≤ value && value ≤ 0xFDCF) ||
  (0xFDF0 ≤ value && value ≤ 0xFFEF) ||
  (0x10000 ≤ value && value < 0xE0000 && value % 0x10000 ≤ 0xFFFD) ||
  (0xE1000 ≤ value && value ≤ 0xEFFFD)

def isPrivate (c : Char) : Bool :=
  let value := c.toNat
  (0xE000 ≤ value && value ≤ 0xF8FF) || (0xF0000 ≤ value && value ≤ 0xFFFFD) ||
  (0x100000 ≤ value && value ≤ 0x10FFFD)

def isUnreserved (c : Char) : Bool := isPlain c || isUniversal c

def isHostChar (c : Char) : Bool := isUnreserved c || isSubDelimiter c

def isUserChar (c : Char) : Bool := isHostChar c || c == ':'

def isFirstSegmentChar (c : Char) : Bool := isHostChar c || c == '@'

def isPathChar (c : Char) : Bool := isHostChar c || c == ':' || c == '@' || c == '/'

def isFragmentChar (c : Char) : Bool := isPathChar c || c == '?'

def isQueryChar (c : Char) : Bool := isFragmentChar c || isPrivate c

def scan (allowed stop : Char → Bool) : Text → Except IriError Text
  | [] => .ok []
  | '%' :: high :: low :: rest =>
      if isHexDigit high && isHexDigit low then scan allowed stop rest
      else .error (.invalidPercentEncoding [high, low])
  | '%' :: rest => .error (.invalidPercentEncoding rest)
  | c :: rest =>
      if stop c then .ok (c :: rest)
      else if allowed c then scan allowed stop rest
      else .error (.invalidCodePoint c)

def endsPath (c : Char) : Bool := c == '?' || c == '#'

def endsAuthority (c : Char) : Bool := c == '/' || endsPath c

def checkFragment (text : Text) : Except IriError Unit :=
  (scan isFragmentChar (fun _ => false) text).map fun _ => ()

def checkQuery (text : Text) : Except IriError Unit := do
  match ← scan isQueryChar (· == '#') text with
  | _ :: fragment => checkFragment fragment
  | [] => .ok ()

def checkPath (text : Text) : Except IriError Unit := do
  match ← scan isPathChar endsPath text with
  | '?' :: query => checkQuery query
  | _ :: fragment => checkFragment fragment
  | [] => .ok ()

def checkPort (text : Text) : Except IriError Unit :=
  match text.dropWhile isAsciiDigit with
  | [] => .ok ()
  | c :: rest => if endsAuthority c then checkPath (c :: rest) else .error (.invalidPortCharacter c)

def pieces (delimiter : Char) : Text → List Text
  | [] => [[]]
  | c :: rest =>
      if c = delimiter then [] :: pieces delimiter rest
      else match pieces delimiter rest with
        | [] => [[c]]
        | piece :: others => (c :: piece) :: others

def decimalValue (digits : Text) : Nat :=
  digits.foldl (fun value digit => value * 10 + (digit.toNat - 48)) 0

def isAddressByte (digits : Text) : Bool :=
  digits.all isAsciiDigit && 1 ≤ digits.length && digits.length ≤ 3 &&
  (digits.length == 1 || digits.head? != some '0') && decimalValue digits ≤ 255

def isIpv4 (address : Text) : Bool :=
  (pieces '.' address).length == 4 && (pieces '.' address).all isAddressByte

def isAddressGroup (digits : Text) : Bool :=
  digits.all isHexDigit && 1 ≤ digits.length && digits.length ≤ 4

/-- How many 16 bit groups the pieces of an address fill; the last may be an IPv4 address where
`embedded` allows it. -/
def groupCount (embedded : Bool) : List Text → Option Nat
  | [] => some 0
  | [last] =>
      if isAddressGroup last then some 1
      else if embedded && isIpv4 last then some 2
      else none
  | group :: rest =>
      if isAddressGroup group then (groupCount embedded rest).map (· + 1) else none

def partGroupCount (embedded : Bool) (part : Text) : Option Nat :=
  if part.isEmpty then some 0 else groupCount embedded (pieces ':' part)

def splitAtDoubleColon : Text → Option (Text × Text)
  | ':' :: ':' :: rest => some ([], rest)
  | c :: rest => (splitAtDoubleColon rest).map fun split => (c :: split.1, split.2)
  | [] => none

/-- Eight groups, or fewer with a double colon that stands for at least one group of zeros. -/
def isIpv6 (address : Text) : Bool :=
  match splitAtDoubleColon address with
  | none => groupCount true (pieces ':' address) == some 8
  | some (before, after) =>
      match partGroupCount false before, partGroupCount true after with
      | some left, some right => left + right ≤ 7
      | _, _ => false

def checkFutureAddress (text : Text) : Except IriError Unit :=
  let version := text.takeWhile isHexDigit
  match text.dropWhile isHexDigit with
  | [] => .error (.invalidHostCharacter ']')
  | c :: address =>
      if c ≠ '.' then .error (.invalidHostCharacter c)
      else if version.isEmpty then .error (.invalidHostCharacter (address.head?.getD ']'))
      else match address.find? (fun c => !(isPlain c || isSubDelimiter c || c == ':')) with
        | some wrong => .error (.invalidHostCharacter wrong)
        | none => if address.isEmpty then .error (.invalidHostCharacter ']') else .ok ()

def checkBracketedHost (text : Text) : Except IriError Unit := do
  let address := text.takeWhile (· != ']')
  match text.dropWhile (· != ']') with
  | [] => .error (.invalidHostCharacter '[')
  | _ :: rest =>
      match address with
      | 'v' :: future | 'V' :: future => checkFutureAddress future
      | _ => if isIpv6 address then .ok () else .error .invalidHostAddress
      match rest with
      | [] => .ok ()
      | ':' :: port => checkPort port
      | c :: after => if endsAuthority c then checkPath (c :: after) else .error (.invalidHostCharacter c)

def checkHost (text : Text) : Except IriError Unit :=
  match text with
  | '[' :: rest => checkBracketedHost rest
  | _ => do
      match ← scan isHostChar (fun c => c == ':' || endsAuthority c) text with
      | ':' :: port => checkPort port
      | rest => checkPath rest

/-- The user part ends at the first at sign; without one, the host begins where the authority does. -/
def checkAuthority (text : Text) : Except IriError Unit := do
  match ← scan isUserChar (fun c => c == '@' || c == '[' || endsAuthority c) text with
  | '@' :: host => checkHost host
  | _ => checkHost text

def isSchemeChar (c : Char) : Bool := isAsciiAlphanumeric c || c == '+' || c == '-' || c == '.'

def splitScheme? (text : Text) : Option (Text × Text) :=
  if text.head?.any isAsciiLetter then
    match text.dropWhile isSchemeChar with
    | ':' :: rest => some (text.takeWhile isSchemeChar, rest)
    | _ => none
  else none

def checkHierarchy (text : Text) : Except IriError Unit :=
  match text with
  | '/' :: '/' :: rest => checkAuthority rest
  | _ => checkPath text

/-- A reference without a scheme; no colon may stand in its first segment. -/
def checkRelative (text : Text) : Except IriError Unit :=
  match text with
  | '/' :: '/' :: rest => checkAuthority rest
  | _ => do checkPath (← scan isFirstSegmentChar endsAuthority text)

def checkReference (text : Text) : Except IriError Unit :=
  match text with
  | ':' :: _ => .error .noScheme
  | _ =>
      match splitScheme? text with
      | some (_, rest) => checkHierarchy rest
      | none => checkRelative text

def checkAbsolute (text : Text) : Except IriError Unit := do
  checkReference text
  if (splitScheme? text).isNone then .error .noScheme

def isAbsolute (text : Text) : Bool := (checkAbsolute text).isOk

end Iri

end Termbase
