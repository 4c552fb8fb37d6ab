import Termbase.Iri.Syntax

/-! Resolving a reference against a base: the parts of an identifier, dot segments, and recomposition. -/

namespace Termbase

structure IriParts where
  scheme : Option Text
  authority : Option Text
  path : Text
  query : Option Text
  fragment : Option Text
deriving DecidableEq, Repr

namespace IriParts

def cut (delimiter : Char) (text : Text) : Text × Option Text :=
  match text.dropWhile (· != delimiter) with
  | [] => (text, none)
  | _ :: rest => (text.takeWhile (· != delimiter), some rest)

def ofText (text : Text) : IriParts :=
  let (beforeFragment, fragment) := cut '#' text
  let (hierarchy, query) := cut '?' beforeFragment
  let (scheme, rest) := match Iri.splitScheme? hierarchy with
    | some (scheme, rest) => (some scheme, rest)
    | none => (none, hierarchy)
  match rest with
  | '/' :: '/' :: named =>
      ⟨scheme, some (named.takeWhile (· != '/')), named.dropWhile (· != '/'), query, fragment⟩
  | _ => ⟨scheme, none, rest, query, fragment⟩

def toText (parts : IriParts) : Text :=
  (match parts.scheme with | some scheme => scheme ++ [':'] | none => []) ++
  (match parts.authority with | some authority => '/' :: '/' :: authority | none => []) ++
  parts.path ++
  (match parts.query with | some query => '?' :: query | none => []) ++
  (match parts.fragment with | some fragment => '#' :: fragment | none => [])

def dropSegment (reversed : Text) : Text := (reversed.dropWhile (· != '/')).drop 1

/-- Moves a path segment by segment onto the reversed output; a single dot moves nothing, and two dots
take the last segment back. -/
def resolveDots (output : Text) : Text → Text
  | '.' :: '.' :: '/' :: rest => resolveDots output rest
  | '.' :: '/' :: rest => resolveDots output rest
  | '/' :: '.' :: '/' :: rest => resolveDots output ('/' :: rest)
  | ['/', '.'] => ('/' :: output).reverse
  | '/' :: '.' :: '.' :: '/' :: rest => resolveDots (dropSegment output) ('/' :: rest)
  | ['/', '.', '.'] => ('/' :: dropSegment output).reverse
  | ['.'] => output.reverse
  | ['.', '.'] => output.reverse
  | [] => output.reverse
  | c :: rest =>
      resolveDots ((rest.takeWhile (· != '/')).reverse ++ c :: output) (rest.dropWhile (· != '/'))
termination_by path => path.length
decreasing_by
  all_goals simp only [List.length_cons]
  any_goals omega
  exact Nat.lt_succ_of_le (List.dropWhile_suffix _).length_le

def mergePath (base : IriParts) (path : Text) : Text :=
  if base.authority.isSome && base.path.isEmpty then '/' :: path
  else (base.path.reverse.dropWhile (· != '/')).reverse ++ path

def resolve (base reference : IriParts) : IriParts :=
  if reference.scheme.isSome then { reference with path := resolveDots [] reference.path }
  else if reference.authority.isSome then
    { reference with scheme := base.scheme, path := resolveDots [] reference.path }
  else if reference.path.isEmpty then
    { base with query := reference.query.or base.query, fragment := reference.fragment }
  else
    { base with
      path := resolveDots [] (if reference.path.head? = some '/' then reference.path
        else mergePath base reference.path)
      query := reference.query
      fragment := reference.fragment }

/-- A path that begins with two slashes would read as an authority where there is none. -/
def isAmbiguous (parts : IriParts) : Bool :=
  parts.authority.isNone && ['/', '/'].isPrefixOf parts.path

end IriParts

def resolveIri? (base : Option Iri) (reference : Text) : Option Iri :=
  match base with
  | none => if Iri.isAbsolute reference then some reference else none
  | some base =>
      if (Iri.checkReference reference).isOk then
        let resolved := IriParts.resolve (.ofText base) (.ofText reference)
        if resolved.isAmbiguous then none else some resolved.toText
      else none

end Termbase
