import Termbase.Text
import Termbase.Text.CaseTable

/-! Full Unicode case mapping: a character may have several in its capital form, and a sigma that ends a
word has a small form of its own. -/

namespace Termbase

def inRanges (ranges : List (Nat × Nat)) (value : Nat) : Bool :=
  ranges.any fun range => range.1 ≤ value && value ≤ range.2

namespace CaseTable

def Run.maps (run : Run) (value : Nat) : Bool :=
  run.first ≤ value && value ≤ run.last && (value - run.first) % run.step == 0

def moved (runs : List Run) (c : Char) : Char :=
  match runs.find? (·.maps c.toNat) with
  | some run => Char.ofNat (c.toNat + run.distance).toNat
  | none => c

end CaseTable

open CaseTable

def upperChar (c : Char) : Text :=
  if c.toNat < 0x80 then [asciiUpper c]
  else match longCapitals.find? (·.1 == c.toNat) with
    | some entry => entry.2.map Char.ofNat
    | none => [moved capitals c]

def lowerChar (c : Char) : Text :=
  if c.toNat < 0x80 then [asciiLower c]
  else if c = '\u0130' then ['i', '\u0307']
  else [moved smalls c]

def isCased (c : Char) : Bool := if c.toNat < 0x80 then isAsciiLetter c else inRanges cased c.toNat

def isCaseIgnorable (c : Char) : Bool := inRanges caseIgnorable c.toNat

def leadsToCased (text : Text) : Bool :=
  match text.dropWhile isCaseIgnorable with
  | [] => false
  | c :: _ => isCased c

def lowerSigma (before after : Text) : Char :=
  if leadsToCased before && !leadsToCased after then 'ς' else 'σ'

def lowerAfter (before : Text) : Text → Text
  | [] => []
  | c :: rest =>
      (if c = 'Σ' then [lowerSigma before rest] else lowerChar c) ++ lowerAfter (c :: before) rest

def Text.upper (text : Text) : Text := text.flatMap upperChar

def Text.lower (text : Text) : Text := lowerAfter [] text

end Termbase
