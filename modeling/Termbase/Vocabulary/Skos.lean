import Termbase.Vocabulary

/-! The vocabulary of knowledge organization systems. -/

namespace Termbase.Vocabulary

def skosTable : List (String × String) := [
  ("ALT_LABEL", "altLabel"), ("BROADER", "broader"), ("BROADER_TRANSITIVE", "broaderTransitive"),
  ("BROAD_MATCH", "broadMatch"), ("CHANGE_NOTE", "changeNote"), ("CLOSE_MATCH", "closeMatch"),
  ("COLLECTION", "Collection"), ("CONCEPT", "Concept"), ("CONCEPT_SCHEME", "ConceptScheme"),
  ("DEFINITION", "definition"), ("EDITORIAL_NOTE", "editorialNote"),
  ("EXACT_MATCH", "exactMatch"), ("EXAMPLE", "example"), ("HAS_TOP_CONCEPT", "hasTopConcept"),
  ("HIDDEN_LABEL", "hiddenLabel"), ("HISTORY_NOTE", "historyNote"), ("IN_SCHEME", "inScheme"),
  ("MAPPING_RELATION", "mappingRelation"), ("MEMBER", "member"), ("MEMBER_LIST", "memberList"),
  ("NARROWER", "narrower"), ("NARROWER_TRANSITIVE", "narrowerTransitive"),
  ("NARROW_MATCH", "narrowMatch"), ("NOTATION", "notation"), ("NOTE", "note"),
  ("ORDERED_COLLECTION", "OrderedCollection"), ("PREF_LABEL", "prefLabel"),
  ("RELATED", "related"), ("RELATED_MATCH", "relatedMatch"), ("SCOPE_NOTE", "scopeNote"),
  ("SEMANTIC_RELATION", "semanticRelation"), ("TOP_CONCEPT_OF", "topConceptOf")]

def skos : Vocabulary where
  title := "SKOS Vocabulary".toList
  namespaceIri := "http://www.w3.org/2004/02/skos/core#".toList
  label := "skos".toList
  listsNamespace := false
  named := namedTerms skosTable

end Termbase.Vocabulary
