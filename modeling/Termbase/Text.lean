/-! Text as a list of characters, with the cuts and joins that the rest of the library needs. -/

namespace Termbase

/-- Text is a list of characters, so every function on it is a recursion on the list. -/
abbrev Text := List Char

instance : Coe String Text := ⟨String.toList⟩

def Text.stripPrefix? : (beginning text : Text) → Option Text
  | [], text => some text
  | _ :: _, [] => none
  | expected :: beginning, found :: text =>
      if expected = found then Text.stripPrefix? beginning text else none

theorem Text.stripPrefix?_eq_some_iff {beginning text rest : Text} :
    Text.stripPrefix? beginning text = some rest ↔ text = beginning ++ rest := by
  induction beginning generalizing text with
  | nil => simp [Text.stripPrefix?, eq_comm]
  | cons expected beginning ih =>
      cases text with
      | nil => simp [Text.stripPrefix?]
      | cons found text =>
          by_cases same : expected = found
          · simp [Text.stripPrefix?, same, ih]
          · simp [Text.stripPrefix?, same, Ne.symm same]

def Text.stripSuffix? (ending text : Text) : Option Text :=
  (Text.stripPrefix? ending.reverse text.reverse).map List.reverse

theorem Text.stripSuffix?_eq_some_iff {ending text rest : Text} :
    Text.stripSuffix? ending text = some rest ↔ text = rest ++ ending := by
  simp only [Text.stripSuffix?, Option.map_eq_some_iff, Text.stripPrefix?_eq_some_iff]
  constructor
  · rintro ⟨reversed, split, rfl⟩
    have := congrArg List.reverse split
    simpa using this
  · rintro rfl
    exact ⟨rest.reverse, by simp, by simp⟩

def Text.includes (part : Text) : Text → Bool
  | [] => part.isEmpty
  | head :: rest => part.isPrefixOf (head :: rest) || Text.includes part rest

/-- The complete lines of a text, without their line feeds, and what follows the last line feed. -/
def Text.splitAtLineFeeds : Text → List Text × Text
  | [] => ([], [])
  | head :: rest =>
      match Text.splitAtLineFeeds rest with
      | (lines, last) =>
          if head = '\n' then ([] :: lines, last)
          else match lines with
            | [] => ([], head :: last)
            | line :: lines => ((head :: line) :: lines, last)

def Text.dropCarriageReturn (line : Text) : Text :=
  (Text.stripSuffix? ['\r'] line).getD line

/-- The lines of a text. A line ends at a line feed, which a carriage return may precede; the text
after the last line feed is a line unless it is empty. -/
def Text.lines (text : Text) : List Text :=
  match Text.splitAtLineFeeds text with
  | (lines, last) => lines.map Text.dropCarriageReturn ++ (if last.isEmpty then [] else [last])

def Text.ofLines (lines : List Text) : Text := lines.flatMap (· ++ ['\n'])

def Text.join (separator : Text) : List Text → Text
  | [] => []
  | [part] => part
  | part :: next :: parts => part ++ separator ++ Text.join separator (next :: parts)

/-- The order of texts by their characters, a beginning before what it begins. -/
def Text.le : (left right : Text) → Bool
  | [], _ => true
  | _ :: _, [] => false
  | a :: left, b :: right => if a = b then Text.le left right else a.toNat < b.toNat

def asciiLower (c : Char) : Char :=
  if 'A' ≤ c ∧ c ≤ 'Z' then Char.ofNat (c.toNat + 32) else c

def asciiUpper (c : Char) : Char :=
  if 'a' ≤ c ∧ c ≤ 'z' then Char.ofNat (c.toNat - 32) else c

def Text.equalIgnoringAsciiCase (left right : Text) : Bool :=
  left.map asciiLower == right.map asciiLower

def isAsciiDigit (c : Char) : Bool := '0' ≤ c && c ≤ '9'

def isAsciiLetter (c : Char) : Bool := ('a' ≤ c && c ≤ 'z') || ('A' ≤ c && c ≤ 'Z')

def isAsciiAlphanumeric (c : Char) : Bool := isAsciiLetter c || isAsciiDigit c

def hexDigit? (c : Char) : Option Nat :=
  if '0' ≤ c ∧ c ≤ '9' then some (c.toNat - 48)
  else if 'a' ≤ c ∧ c ≤ 'f' then some (c.toNat - 87)
  else if 'A' ≤ c ∧ c ≤ 'F' then some (c.toNat - 55)
  else none

def isHexDigit (c : Char) : Bool := (hexDigit? c).isSome

def hexDigitOf (value : Nat) : Char :=
  if value < 10 then Char.ofNat (48 + value) else Char.ofNat (87 + value)

def Text.ofNat (value : Nat) : Text := Nat.toDigits 10 value

end Termbase
