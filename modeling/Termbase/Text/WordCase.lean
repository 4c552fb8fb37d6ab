import Termbase.Text.Cluster

/-! Splitting an identifier into words and joining them in another case. Words are separated by spaces,
hyphens and underscores, which disappear, and by changes of case and between letters and digits. -/

namespace Termbase

namespace WordCase

def isUpper (cluster : Text) : Bool :=
  Text.upper cluster != Text.lower cluster && cluster == Text.upper cluster

def isLower (cluster : Text) : Bool :=
  Text.upper cluster != Text.lower cluster && cluster == Text.lower cluster

def isDigit (cluster : Text) : Bool := cluster.all isAsciiDigit

def isSeparator (cluster : Text) : Bool :=
  cluster == ['_'] || cluster == ['-'] || cluster == [' ']

/-- Whether a word ends between the first cluster and the ones after it. -/
def breaksAfter (first : Text) : List Text → Bool
  | [] => false
  | second :: rest =>
      (isLower first && isUpper second) ||
      (isUpper first && isUpper second && rest.head?.any isLower) ||
      ((isLower first || isUpper first) && isDigit second) ||
      (isDigit first && (isLower second || isUpper second))

def groups : List Text → List (List Text)
  | [] => [[]]
  | first :: rest =>
      if isSeparator first then [] :: groups rest
      else match groups rest with
        | [] => [[first]]
        | group :: others =>
            if breaksAfter first rest then [first] :: group :: others
            else (first :: group) :: others

def words (name : Text) : List Text :=
  ((groups (clusters name)).map List.flatten).filter (!·.isEmpty)

def capitalize (word : Text) : Text :=
  match clusters word with
  | [] => []
  | first :: rest => Text.upper first ++ Text.lower rest.flatten

end WordCase

def constantCase (name : Text) : Text :=
  Text.join ['_'] ((WordCase.words name).map Text.upper)

def pascalCase (name : Text) : Text :=
  (WordCase.words name).flatMap WordCase.capitalize

end Termbase
