import Termbase.Json.Token

/-! Reading values of known shapes from JSON tokens. A reader takes the tokens of its value and gives the
value and what is left; the first fault from left to right is the one reported. -/

namespace Termbase.Json

abbrev Reader (α : Type) := List Token → Except JsonError (α × List Token)

def faultOf : List Token → JsonError
  | [] => .truncated
  | .broken error :: _ => error
  | .brokenString whenRead _ :: _ => whenRead
  | .unreadableString :: _ => .malformed
  | .number _ false :: _ => .malformed
  | .closeBrace :: _ | .closeBracket :: _ | .comma :: _ | .colon :: _ => .malformed
  | _ => .mismatched

def markFault : List Token → JsonError
  | [] => .truncated
  | _ => .malformed

def readString : Reader Text
  | .string content :: rest => .ok (content, rest)
  | tokens => .error (faultOf tokens)

def readBool : Reader Bool
  | .bool value :: rest => .ok (value, rest)
  | tokens => .error (faultOf tokens)

def expectColon : List Token → Except JsonError (List Token)
  | .colon :: rest => .ok rest
  | tokens => .error (markFault tokens)

def readMember (read : Reader α) : Reader α := fun tokens => do read (← expectColon tokens)

def readItems (read : Reader α) : Nat → Reader (List α)
  | 0, tokens => .error (markFault tokens)
  | count + 1, tokens => do
      let (item, rest) ← read tokens
      match rest with
      | .comma :: more => do
          let (items, rest) ← readItems read count more
          return (item :: items, rest)
      | .closeBracket :: rest => .ok ([item], rest)
      | rest => .error (markFault rest)

def readArray (read : Reader α) : Reader (List α)
  | .openBracket :: .closeBracket :: rest => .ok ([], rest)
  | .openBracket :: rest => readItems read rest.length rest
  | tokens => .error (faultOf tokens)

/-- What a reader of an object does with a member: from the state and the key, the next state. -/
abbrev MemberReader (σ : Type) := σ → Text → Reader σ

def readMembers (read : MemberReader σ) : Nat → σ → Reader σ
  | 0, _, tokens => .error (markFault tokens)
  | count + 1, state, tokens =>
      match tokens with
      | .string key :: rest => do
          let (state, rest) ← read state key rest
          match rest with
          | .comma :: more => readMembers read count state more
          | .closeBrace :: rest => .ok (state, rest)
          | rest => .error (markFault rest)
      | .brokenString whenRead _ :: _ => .error whenRead
      | tokens => .error (markFault tokens)

def readObjectBody (read : MemberReader σ) (state : σ) : Reader σ
  | .closeBrace :: rest => .ok (state, rest)
  | tokens => readMembers read tokens.length state tokens

inductive Frame
  | array
  | object
deriving DecidableEq, Repr

/-- What may come next in a value that is passed over: a value, the first item of an array or its end, the
first key of an object or its end, a comma or an end, a key, or a colon. -/
inductive Awaiting
  | value | firstItem | firstKey | separator | key | colon
deriving DecidableEq, Repr

def afterValue (frames : List Frame) : Option (List Frame × Awaiting) :=
  if frames.isEmpty then none else some (frames, .separator)

def passToken (frames : List Frame) (awaiting : Awaiting) (token : Token) :
    Except JsonError (Option (List Frame × Awaiting)) :=
  match awaiting, token, frames with
  | .firstItem, .closeBracket, _ :: outer => .ok (afterValue outer)
  | .firstKey, .closeBrace, _ :: outer => .ok (afterValue outer)
  | .separator, .comma, .array :: _ => .ok (some (frames, .value))
  | .separator, .comma, .object :: _ => .ok (some (frames, .key))
  | .separator, .closeBracket, .array :: outer => .ok (afterValue outer)
  | .separator, .closeBrace, .object :: outer => .ok (afterValue outer)
  | .separator, _, _ => .error .malformed
  | .firstKey, .string _, _ | .key, .string _, _ => .ok (some (frames, .colon))
  | .firstKey, .unreadableString, _ | .key, .unreadableString, _ => .ok (some (frames, .colon))
  | .firstKey, .brokenString _ error, _ | .key, .brokenString _ error, _ => .error error
  | .firstKey, _, _ | .key, _, _ => .error .malformed
  | .colon, .colon, _ => .ok (some (frames, .value))
  | .colon, _, _ => .error .malformed
  | _, .openBracket, _ => .ok (some (.array :: frames, .firstItem))
  | _, .openBrace, _ => .ok (some (.object :: frames, .firstKey))
  | _, .null, _ | _, .bool _, _ | _, .number _ _, _ | _, .string _, _ | _, .unreadableString, _ =>
      .ok (afterValue frames)
  | _, .broken error, _ => .error error
  | _, .brokenString _ error, _ => .error error
  | _, _, _ => .error .malformed

def passFrom (frames : List Frame) (awaiting : Awaiting) : List Token → Except JsonError (List Token)
  | [] => .error .truncated
  | token :: rest => do
      match ← passToken frames awaiting token with
      | none => .ok rest
      | some (frames, awaiting) => passFrom frames awaiting rest

def passValue : List Token → Except JsonError (List Token) := passFrom [] .value

def passMember (state : σ) : Reader σ := fun tokens => do
  let rest ← passValue (← expectColon tokens)
  return (state, rest)

def readText (read : Reader α) (text : Text) : Except JsonError α := do
  let (value, rest) ← read (tokens text)
  if rest.isEmpty then return value else .error .malformed

end Termbase.Json
