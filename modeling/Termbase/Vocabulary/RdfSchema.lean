import Termbase.Vocabulary

/-! The vocabulary of RDF Schema. -/

namespace Termbase.Vocabulary

def rdfSchemaTable : List (String × String) := [
  ("RESOURCE", "Resource"), ("LITERAL", "Literal"), ("CLASS", "Class"),
  ("SUB_CLASS_OF", "subClassOf"), ("SUB_PROPERTY_OF", "subPropertyOf"), ("DOMAIN", "domain"),
  ("RANGE", "range"), ("COMMENT", "comment"), ("LABEL", "label"), ("DATATYPE", "Datatype"),
  ("CONTAINER", "Container"), ("MEMBER", "member"), ("IS_DEFINED_BY", "isDefinedBy"),
  ("SEE_ALSO", "seeAlso"), ("CONTAINER_MEMBERSHIP_PROPERTY", "ContainerMembershipProperty")]

def rdfSchema : Vocabulary where
  title := "The RDF Schema vocabulary".toList
  namespaceIri := "http://www.w3.org/2000/01/rdf-schema#".toList
  label := "rdfs".toList
  listsNamespace := false
  named := namedTerms rdfSchemaTable

end Termbase.Vocabulary
