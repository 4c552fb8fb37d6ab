import Termbase.Json.Reader

/-! JSON values of any shape, and reading them. The members of an object keep their order. -/

namespace Termbase.Json

/-- A number is kept as it is written. -/
inductive Value
  | null
  | bool (value : Bool)
  | number (text : Text)
  | string (text : Text)
  | array (items : List Value)
  | object (members : List (Text × Value))

mutual

def readValue : Nat → Reader Value
  | 0, tokens => .error (faultOf tokens)
  | count + 1, tokens =>
      match tokens with
      | .null :: rest => .ok (.null, rest)
      | .bool value :: rest => .ok (.bool value, rest)
      | .number text _ :: rest => .ok (.number text, rest)
      | .string text :: rest => .ok (.string text, rest)
      | .openBracket :: .closeBracket :: rest => .ok (.array [], rest)
      | .openBracket :: rest => do
          let (items, rest) ← readValues count rest
          return (.array items, rest)
      | .openBrace :: .closeBrace :: rest => .ok (.object [], rest)
      | .openBrace :: rest => do
          let (members, rest) ← readValueMembers count rest
          return (.object members, rest)
      | tokens => .error (faultOf tokens)

def readValues : Nat → Reader (List Value)
  | 0, tokens => .error (faultOf tokens)
  | count + 1, tokens => do
      let (value, rest) ← readValue count tokens
      match rest with
      | .comma :: more => do
          let (values, rest) ← readValues count more
          return (value :: values, rest)
      | .closeBracket :: rest => .ok ([value], rest)
      | rest => .error (markFault rest)

def readValueMembers : Nat → Reader (List (Text × Value))
  | 0, tokens => .error (faultOf tokens)
  | count + 1, tokens =>
      match tokens with
      | .string key :: rest => do
          let (value, rest) ← readMember (readValue count) rest
          match rest with
          | .comma :: more => do
              let (members, rest) ← readValueMembers count more
              return ((key, value) :: members, rest)
          | .closeBrace :: rest => .ok ([(key, value)], rest)
          | rest => .error (markFault rest)
      | tokens => .error (markFault tokens)

end

def Value.ofText (text : Text) : Except JsonError Value :=
  readText (fun tokens => readValue (tokens.length + 1) tokens) text

namespace Value

def member? (key : Text) : Value → Option Value
  | .object members => members.lookup key
  | _ => none

/-- The items of an array; any other value is an item of its own. -/
def items : Value → List Value
  | .array items => items
  | value => [value]

end Value

end Termbase.Json
