import Termbase.Text
import Termbase.Text.CaseMap
import Termbase.Text.ClusterTable

/-! Extended grapheme clusters: the pieces of a text that a reader takes for one character. -/

namespace Termbase

/-- Three kinds of marks are told apart from the others: linkers, which join consonants, and the joiner and the
non-joiner. -/
inductive ClusterClass
  | carriageReturn | lineFeed | control | extend | linker | nonJoiner | joiner | regional | prepend | spacingMark
  | leadingJamo | vowelJamo | trailingJamo | openSyllable | closedSyllable | pictographic | consonant | other
deriving DecidableEq, Repr

def ClusterClass.isMark : ClusterClass → Bool
  | .extend | .linker | .nonJoiner => true
  | _ => false

open ClusterTable in
def clusterClass (c : Char) : ClusterClass :=
  let value := c.toNat
  if c = '\r' then .carriageReturn
  else if c = '\n' then .lineFeed
  else if 0x20 ≤ value ∧ value < 0x7F then .other
  else if value = 0x200C then .nonJoiner
  else if value = 0x200D then .joiner
  else if 0x1F1E6 ≤ value ∧ value ≤ 0x1F1FF then .regional
  else if 0xAC00 ≤ value ∧ value ≤ 0xD7A3 then
    (if (value - 0xAC00) % 28 = 0 then .openSyllable else .closedSyllable)
  else if (0x1100 ≤ value ∧ value ≤ 0x115F) ∨ (0xA960 ≤ value ∧ value ≤ 0xA97C) then .leadingJamo
  else if (0x1160 ≤ value ∧ value ≤ 0x11A7) ∨ (0xD7B0 ≤ value ∧ value ≤ 0xD7C6) then .vowelJamo
  else if (0x11A8 ≤ value ∧ value ≤ 0x11FF) ∨ (0xD7CB ≤ value ∧ value ≤ 0xD7FB) then .trailingJamo
  else if inRanges ClusterTable.control value then .control
  else if ClusterTable.linkers.contains value then .linker
  else if inRanges ClusterTable.extend value then .extend
  else if inRanges ClusterTable.prepend value then .prepend
  else if inRanges ClusterTable.spacingMark value then .spacingMark
  else if inRanges ClusterTable.pictographic value then .pictographic
  else if inRanges ClusterTable.consonant value then .consonant
  else .other

/-- Whether a cluster ends in a consonant with marks, and in the end whether a linker is among these. -/
inductive Conjunct
  | none | started | linked
deriving DecidableEq, Repr

def Conjunct.after (conjunct : Conjunct) (next : ClusterClass) : Conjunct :=
  match conjunct, next with
  | _, .consonant => .started
  | .none, _ => .none
  | _, .linker => .linked
  | _, .extend | _, .joiner => conjunct
  | _, _ => .none

/-- What of a cluster decides whether the next character belongs to it: the class of its last character,
whether it ends in an odd number of regional indicators, whether it ends in a pictograph with marks,
or in that and a joiner, and how far it has got with a conjunct. -/
structure ClusterEnd where
  last : ClusterClass
  oddRegionals : Bool
  markedPictograph : Bool
  joinedPictograph : Bool
  conjunct : Conjunct

def ClusterEnd.opened (first : ClusterClass) : ClusterEnd :=
  ⟨first, first == .regional, first == .pictographic, false, Conjunct.none.after first⟩

def ClusterEnd.extended (tail : ClusterEnd) (next : ClusterClass) : ClusterEnd :=
  { last := next
    oddRegionals := next == .regional && !tail.oddRegionals
    markedPictograph := next == .pictographic || (next.isMark && tail.markedPictograph)
    joinedPictograph := next == .joiner && tail.markedPictograph
    conjunct := tail.conjunct.after next }

def ClusterEnd.accepts (tail : ClusterEnd) (next : ClusterClass) : Bool :=
  match tail.last, next with
  | .carriageReturn, .lineFeed => true
  | .carriageReturn, _ | .lineFeed, _ | .control, _ => false
  | _, .carriageReturn | _, .lineFeed | _, .control => false
  | _, .extend | _, .linker | _, .nonJoiner | _, .joiner | _, .spacingMark => true
  | .prepend, _ => true
  | _, .consonant => tail.conjunct == .linked
  | .leadingJamo, .leadingJamo | .leadingJamo, .vowelJamo | .leadingJamo, .openSyllable
  | .leadingJamo, .closedSyllable => true
  | .openSyllable, .vowelJamo | .openSyllable, .trailingJamo | .vowelJamo, .vowelJamo
  | .vowelJamo, .trailingJamo => true
  | .closedSyllable, .trailingJamo | .trailingJamo, .trailingJamo => true
  | .regional, .regional => tail.oddRegionals
  | .joiner, .pictographic => tail.joinedPictograph
  | _, _ => false

def clustersAfter (current : Text) (tail : ClusterEnd) : Text → List Text
  | [] => [current.reverse]
  | c :: rest =>
      let next := clusterClass c
      if tail.accepts next then clustersAfter (c :: current) (tail.extended next) rest
      else current.reverse :: clustersAfter [c] (.opened next) rest

def clusters : Text → List Text
  | [] => []
  | c :: rest => clustersAfter [c] (.opened (clusterClass c)) rest

end Termbase
