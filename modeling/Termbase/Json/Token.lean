import Termbase.Text.Utf8

/-! JSON as a list of tokens. The list ends where the text does, or with a broken token, so that a reader
meets a fault of the text only when it gets there. -/

namespace Termbase

/-- Why a text is not the JSON that was asked for: it breaks the grammar, it holds another value than the
reader wants, or it ends early. -/
inductive JsonError
  | malformed
  | mismatched
  | truncated
deriving DecidableEq, Repr

namespace Json

/-- A string may be readable, or well formed but with half of a surrogate pair, or broken. A broken string
may fail in two ways: for a reader, and for one who only looks for its end. -/
inductive Token
  | openBrace | closeBrace | openBracket | closeBracket | comma | colon | null
  | bool (value : Bool)
  | number (text : Text) (representable : Bool)
  | string (content : Text)
  | unreadableString
  | brokenString (whenRead whenSkipped : JsonError)
  | broken (error : JsonError)
deriving DecidableEq, Repr

structure StringBody where
  content : Except JsonError Text
  rest : Except JsonError Text

def StringBody.fail (error : JsonError) : StringBody := ⟨.error error, .error error⟩

def StringBody.push (c : Char) (body : StringBody) : StringBody :=
  ⟨body.content.map (c :: ·), body.rest⟩

def StringBody.spoil (error : JsonError) (body : StringBody) : StringBody := ⟨.error error, body.rest⟩

def hexUnit? (first second third fourth : Char) : Option Nat := do
  let a ← hexDigit? first
  let b ← hexDigit? second
  let c ← hexDigit? third
  let d ← hexDigit? fourth
  return ((a * 16 + b) * 16 + c) * 16 + d

/-- The fault of an escape that lacks its four digits: the text ends, or it goes on otherwise. -/
def missingDigits (rest : Text) : JsonError :=
  if (Utf8.encode rest).length < 4 then .truncated else .malformed

def isHighSurrogate (unit : Nat) : Bool := 0xD800 ≤ unit && unit ≤ 0xDBFF

def isLowSurrogate (unit : Nat) : Bool := 0xDC00 ≤ unit && unit ≤ 0xDFFF

def loneSurrogate (rest : Text) : JsonError :=
  match rest with
  | [] => .truncated
  | ['\\'] => .truncated
  | '\\' :: 'u' :: _ :: _ :: _ :: _ :: _ => .malformed
  | '\\' :: 'u' :: digits => missingDigits digits
  | _ => .malformed

def escapedChar? (c : Char) : Option Char :=
  match c with
  | '"' => some '"'
  | '\\' => some '\\'
  | '/' => some '/'
  | 'b' => some '\x08'
  | 'f' => some '\x0c'
  | 'n' => some '\n'
  | 'r' => some '\r'
  | 't' => some '\t'
  | _ => none

def leadingLowSurrogate? (text : Text) : Option (Nat × Text) :=
  match text with
  | '\\' :: 'u' :: a :: b :: c :: d :: rest =>
      match hexUnit? a b c d with
      | some unit => if isLowSurrogate unit then some (unit, rest) else none
      | none => none
  | _ => none

theorem leadingLowSurrogate?_length {text rest : Text} {unit : Nat}
    (found : leadingLowSurrogate? text = some (unit, rest)) : rest.length < text.length := by
  unfold leadingLowSurrogate? at found
  split at found
  · split at found
    · split at found
      · simp only [Option.some.injEq, Prod.mk.injEq] at found
        obtain ⟨_, rfl⟩ := found
        simp only [List.length_cons]
        omega
      · cases found
    · cases found
  · cases found

def stringBody : Text → StringBody
  | [] => .fail .truncated
  | '"' :: rest => ⟨.ok [], .ok rest⟩
  | '\\' :: 'u' :: a :: b :: c :: d :: rest =>
      match hexUnit? a b c d with
      | none => .fail .malformed
      | some unit =>
          if isHighSurrogate unit then
            match found : leadingLowSurrogate? rest with
            | some (low, after) =>
                (stringBody after).push (Char.ofNat (0x10000 + (unit - 0xD800) * 1024 + (low - 0xDC00)))
            | none => (stringBody rest).spoil (loneSurrogate rest)
          else if isLowSurrogate unit then (stringBody rest).spoil .malformed
          else (stringBody rest).push (Char.ofNat unit)
  | '\\' :: 'u' :: rest => .fail (missingDigits rest)
  | ['\\'] => .fail .truncated
  | '\\' :: c :: rest =>
      match escapedChar? c with
      | some meant => (stringBody rest).push meant
      | none => .fail .malformed
  | c :: rest => if c < ' ' then .fail .malformed else (stringBody rest).push c
termination_by text => text.length
decreasing_by
  all_goals simp only [List.length_cons]
  any_goals omega
  have shorter := leadingLowSurrogate?_length found
  omega

def isSpace (c : Char) : Bool := c == ' ' || c == '\n' || c == '\t' || c == '\r'

def digits (text : Text) : Except JsonError (Text × Text) :=
  match text with
  | [] => .error .truncated
  | c :: _ =>
      if isAsciiDigit c then .ok (text.takeWhile isAsciiDigit, text.dropWhile isAsciiDigit)
      else .error .malformed

structure Numeral where
  significand : Nat
  exponent : Int

def valueOfDigits (digits : Text) : Nat :=
  digits.foldl (fun value digit => value * 10 + (digit.toNat - 48)) 0

/-- Whether the number is below the bound that rounds to infinity in double precision. -/
def Numeral.isRepresentable (numeral : Numeral) : Bool :=
  let bound := Nat.pow 2 1024 - Nat.pow 2 970
  if numeral.significand = 0 then true
  else if 0 ≤ numeral.exponent then
    numeral.exponent ≤ 400 && numeral.significand * Nat.pow 10 numeral.exponent.toNat < bound
  else if numeral.exponent < -100000 then true
  else numeral.significand < bound * Nat.pow 10 (-numeral.exponent).toNat

def fractionPart (text : Text) : Except JsonError (Text × Text) :=
  match text with
  | '.' :: rest => digits rest
  | _ => .ok ([], text)

def signedDigits (text : Text) : Except JsonError (Int × Text) :=
  match text with
  | '-' :: rest => (digits rest).map fun found => (-(valueOfDigits found.1 : Int), found.2)
  | '+' :: rest => (digits rest).map fun found => ((valueOfDigits found.1 : Int), found.2)
  | _ => (digits text).map fun found => ((valueOfDigits found.1 : Int), found.2)

def exponentPart (text : Text) : Except JsonError (Int × Text) :=
  match text with
  | 'e' :: rest | 'E' :: rest => signedDigits rest
  | _ => .ok (0, text)

def numeral (text : Text) : Except JsonError (Numeral × Text) := do
  let (whole, rest) ← digits text
  if whole.head? = some '0' ∧ whole.length ≠ 1 then .error .malformed
  let (fraction, rest) ← fractionPart rest
  let (exponent, rest) ← exponentPart rest
  return (⟨valueOfDigits (whole ++ fraction), exponent - fraction.length⟩, rest)

def afterWord : (word text : Text) → Except JsonError Text
  | [], text => .ok text
  | _ :: _, [] => .error .truncated
  | expected :: word, found :: text =>
      if expected = found then afterWord word text else .error .malformed

def nextToken (c : Char) (rest : Text) : Except Token (Token × Text) :=
  let word (token : Token) (ending : String) : Except Token (Token × Text) :=
    match afterWord ending.toList rest with
    | .ok after => .ok (token, after)
    | .error error => .error (.broken error)
  let number (sign text : Text) : Except Token (Token × Text) :=
    match numeral text with
    | .ok (value, after) =>
        .ok (.number (sign ++ text.take (text.length - after.length)) value.isRepresentable, after)
    | .error error => .error (.broken error)
  match c with
  | '\x7b' => .ok (.openBrace, rest)
  | '\x7d' => .ok (.closeBrace, rest)
  | '[' => .ok (.openBracket, rest)
  | ']' => .ok (.closeBracket, rest)
  | ',' => .ok (.comma, rest)
  | ':' => .ok (.colon, rest)
  | 'n' => word .null "ull"
  | 't' => word (.bool true) "rue"
  | 'f' => word (.bool false) "alse"
  | '-' => number ['-'] rest
  | '"' =>
      match (stringBody rest).rest, (stringBody rest).content with
      | .ok after, .ok content => .ok (.string content, after)
      | .ok after, .error _ => .ok (.unreadableString, after)
      | .error whenSkipped, .ok _ => .error (.brokenString whenSkipped whenSkipped)
      | .error whenSkipped, .error whenRead => .error (.brokenString whenRead whenSkipped)
  | _ => if isAsciiDigit c then number [] (c :: rest) else .error (.broken .malformed)

def tokensWithin : Nat → Text → List Token
  | 0, _ => []
  | _, [] => []
  | count + 1, c :: rest =>
      if isSpace c then tokensWithin count rest
      else match nextToken c rest with
        | .ok (token, after) => token :: tokensWithin count after
        | .error last => [last]

/-- The tokens of a text; each takes at least one character. -/
def tokens (text : Text) : List Token := tokensWithin text.length text

end Json

end Termbase
