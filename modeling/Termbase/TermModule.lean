import Termbase.TermModule.ConstantNames
import Termbase.TermModule.StringLiteral

/-! The source of a module with the terms of a vocabulary: a preamble, a constant for each term, and the list
of all of them. -/

namespace Termbase

inductive ModuleError
  | noLabel
  | noNamespace
deriving DecidableEq, Repr

def ModuleError.message : ModuleError → String
  | .noLabel => "The vocabulary property `preferred_namespace_prefix` is required"
  | .noNamespace => "The vocabulary property `prefix_namespace_uri` is required"

namespace TermModule

def sourceLine (parts : List Text) : Text := parts.flatten ++ ['\n']

def headerText : Option Text → Text
  | some header => Text.trimEnd header ++ ['\n', '\n']
  | none => []

def anyDeprecated (entries : List TermEntry) : Bool := entries.any (·.deprecation.isMarked)

def preamble (title label namespaceIri : Text) (deprecations : Bool) : Text :=
  sourceLine ["//! [".toList, title, " (".toList, label.map asciiUpper, ")](".toList] ++
  sourceLine ["//! ".toList, namespaceIri, ")".toList] ++
  sourceLine ["//! vocabulary.".toList] ++
  sourceLine [] ++
  sourceLine ["use crate::\x7bnamed_node, ".toList,
    (if deprecations then "named_node_deprecated, ".toList else []), "vocabulary\x7d;".toList] ++
  sourceLine []

def namespaceConstants (label namespaceIri : Text) : Text :=
  sourceLine ["pub const NS_BASE: &str = \"".toList, namespaceIri, "\";".toList] ++
  sourceLine ["pub const NS_PREFERRED_PREFIX: &str = \"".toList, label, "\";".toList]

/-- The arguments of an item, each on a line of its own and all but the last followed by a comma. -/
def arguments (values : List Text) : Text :=
  Text.join ",\n".toList (values.map ("    ".toList ++ ·)) ++ ['\n']

def deprecationArguments (deprecation : Deprecation) : List Text :=
  if deprecation.isMarked then
    [stringLiteral deprecation.since, stringLiteral deprecation.advice]
  else []

def termItem (name : Text) (entry : TermEntry) : Text :=
  sourceLine [] ++
  sourceLine [(if entry.deprecation.isMarked then "named_node_deprecated!(" else "named_node!(").toList] ++
  arguments ([name, "NS_BASE".toList, '"' :: entry.localName ++ ['"'],
    stringLiteral entry.documentation] ++ deprecationArguments entry.deprecation) ++
  sourceLine [");".toList]

def listedName (name : Text) : Text := sourceLine ["        ".toList, name, ",".toList]

def listItem (label title : Text) (namespaceTerm : Bool) (names : List Text) : Text :=
  sourceLine [] ++
  sourceLine ["vocabulary!(".toList] ++
  sourceLine ["    ".toList, pascalCase label, ",".toList] ++
  sourceLine ["    ".toList, stringLiteral title, ",".toList] ++
  (if namespaceTerm then sourceLine ["    namespace_term,".toList] else []) ++
  sourceLine ["    [".toList] ++
  names.flatMap listedName ++
  sourceLine ["    ]".toList] ++
  sourceLine [");".toList]

def body (label title : Text) (namespaceTerm : Bool) (entries : List TermEntry) : Text :=
  let names := constantNames entries
  (names.zipWith termItem entries).flatten ++ listItem label title namespaceTerm names

def titleOf (outline : Outline) : Text := outline.title.getD "NO_TITLE".toList

def render (header : Option Text) (namespaceTerm : Bool) (outline : Outline) :
    Except ModuleError Text :=
  match outline.label, outline.namespaceIri with
  | none, _ => .error .noLabel
  | some _, none => .error .noNamespace
  | some label, some namespaceIri =>
      .ok (headerText header ++
        preamble (titleOf outline) label namespaceIri (anyDeprecated outline.entries) ++
        namespaceConstants label namespaceIri ++
        body label (titleOf outline) namespaceTerm outline.entries)

end TermModule

end Termbase
