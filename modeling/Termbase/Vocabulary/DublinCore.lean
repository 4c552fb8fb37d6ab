import Termbase.Vocabulary

/-! The Dublin Core elements. -/

namespace Termbase.Vocabulary

def dublinCoreTable : List (String × String) := [
  ("CONTRIBUTOR", "contributor"), ("COVERAGE", "coverage"), ("CREATOR", "creator"),
  ("DATE", "date"), ("DESCRIPTION", "description"), ("FORMAT", "format"),
  ("IDENTIFIER", "identifier"), ("LANGUAGE", "language"), ("PUBLISHER", "publisher"),
  ("RELATION", "relation"), ("RIGHTS", "rights"), ("SOURCE", "source"), ("SUBJECT", "subject"),
  ("TITLE", "title"), ("TYPE", "type")]

def dublinCore : Vocabulary where
  title := "Dublin Core Metadata Element Set, Version 1.1".toList
  namespaceIri := "http://purl.org/dc/elements/1.1/".toList
  label := "dc".toList
  listsNamespace := false
  named := namedTerms dublinCoreTable

end Termbase.Vocabulary
