import Termbase.Vocabulary

/-! The vocabulary of RDF itself. -/

namespace Termbase.Vocabulary

def rdfTable : List (String × String) := [
  ("TYPE", "type"), ("PROPERTY", "Property"), ("XML_LITERAL", "XMLLiteral"),
  ("SUBJECT", "subject"), ("PREDICATE", "predicate"), ("OBJECT", "object"),
  ("STATEMENT", "Statement"), ("BAG", "Bag"), ("ALT", "Alt"), ("SEQ", "Seq"), ("VALUE", "value"),
  ("LI", "li"), ("LIST", "List"), ("FIRST", "first"), ("REST", "rest"), ("NIL", "nil"),
  ("LANG_STRING", "langString"), ("HTML", "HTML")]

def rdf : Vocabulary where
  title := "The RDF Concepts Vocabulary".toList
  namespaceIri := "http://www.w3.org/1999/02/22-rdf-syntax-ns#".toList
  label := "rdf".toList
  listsNamespace := false
  named := namedTerms rdfTable

end Termbase.Vocabulary
