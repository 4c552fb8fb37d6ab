import Termbase.Text.CaseMap

/-! The order of the terms of a vocabulary. Codes follow it, so it has to stay the same once they have been
given out. -/

namespace Termbase

inductive TermOrder
  | name
  | source
deriving DecidableEq, Repr

structure UnknownTermOrder where
  given : Text
deriving DecidableEq, Repr

def UnknownTermOrder.message (unknown : UnknownTermOrder) : String :=
  s!"Unknown term order '{String.ofList unknown.given}'; use one of: name, source"

namespace TermOrder

def id : TermOrder → String
  | .name => "name"
  | .source => "source"

def ofText (text : Text) : Except UnknownTermOrder TermOrder :=
  if text = "name".toList then .ok .name
  else if text = "source".toList then .ok .source
  else .error ⟨text⟩

/-- By small letters first, and where these agree by the characters themselves, so that capitals go first. -/
def nameLe (left right : Text) : Bool :=
  let leftKey := Text.lower left
  let rightKey := Text.lower right
  if leftKey = rightKey then Text.le left right else Text.le leftKey rightKey

def arrange (order : TermOrder) (name : α → Text) (items : List α) : List α :=
  match order with
  | .name => items.mergeSort fun left right => nameLe (name left) (name right)
  | .source => items

end TermOrder

end Termbase
