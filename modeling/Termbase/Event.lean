import Termbase.Text

/-! What the program reports while it works. -/

namespace Termbase

inductive Event
  | info (text : String)
  | warning (text : String)
deriving DecidableEq, Repr

def Event.render : Event → String
  | .info text => "INFO " ++ text
  | .warning text => "WARN " ++ text

end Termbase
