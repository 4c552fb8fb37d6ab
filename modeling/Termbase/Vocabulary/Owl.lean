import Termbase.Vocabulary

/-! The vocabulary of the Web Ontology Language. -/

namespace Termbase.Vocabulary

def owlTable : List (String × String) := [
  ("ALL_DIFFERENT", "AllDifferent"), ("ALL_DISJOINT_CLASSES", "AllDisjointClasses"),
  ("ALL_DISJOINT_PROPERTIES", "AllDisjointProperties"), ("ALL_VALUES_FROM", "allValuesFrom"),
  ("ANNOTATED_PROPERTY", "annotatedProperty"), ("ANNOTATED_SOURCE", "annotatedSource"),
  ("ANNOTATED_TARGET", "annotatedTarget"), ("ANNOTATION", "Annotation"),
  ("ANNOTATION_PROPERTY", "AnnotationProperty"), ("ASSERTION_PROPERTY", "assertionProperty"),
  ("ASYMMETRIC_PROPERTY", "AsymmetricProperty"), ("AXIOM", "Axiom"),
  ("BACKWARD_COMPATIBLE_WITH", "backwardCompatibleWith"),
  ("BOTTOM_DATA_PROPERTY", "bottomDataProperty"),
  ("BOTTOM_OBJECT_PROPERTY", "bottomObjectProperty"), ("CARDINALITY", "cardinality"),
  ("CLASS", "Class"), ("COMPLEMENT_OF", "complementOf"), ("DATA_RANGE", "DataRange"),
  ("DATATYPE_COMPLEMENT_OF", "datatypeComplementOf"), ("DATATYPE_PROPERTY", "DatatypeProperty"),
  ("DEPRECATED", "deprecated"), ("DEPRECATED_CLASS", "DeprecatedClass"),
  ("DEPRECATED_PROPERTY", "DeprecatedProperty"), ("DIFFERENT_FROM", "differentFrom"),
  ("DISJOINT_UNION_OF", "disjointUnionOf"), ("DISJOINT_WITH", "disjointWith"),
  ("DISTINCT_MEMBERS", "distinctMembers"), ("EQUIVALENT_CLASS", "equivalentClass"),
  ("EQUIVALENT_PROPERTY", "equivalentProperty"), ("FUNCTIONAL_PROPERTY", "FunctionalProperty"),
  ("HAS_KEY", "hasKey"), ("HAS_SELF", "hasSelf"), ("HAS_VALUE", "hasValue"),
  ("IMPORTS", "imports"), ("INCOMPATIBLE_WITH", "incompatibleWith"),
  ("INTERSECTION_OF", "intersectionOf"),
  ("INVERSE_FUNCTIONAL_PROPERTY", "InverseFunctionalProperty"), ("INVERSE_OF", "inverseOf"),
  ("IRREFLEXIVE_PROPERTY", "IrreflexiveProperty"), ("MAX_CARDINALITY", "maxCardinality"),
  ("MAX_QUALIFIED_CARDINALITY", "maxQualifiedCardinality"), ("MEMBERS", "members"),
  ("MIN_CARDINALITY", "minCardinality"), ("MIN_QUALIFIED_CARDINALITY", "minQualifiedCardinality"),
  ("NAMED_INDIVIDUAL", "NamedIndividual"),
  ("NEGATIVE_PROPERTY_ASSERTION", "NegativePropertyAssertion"), ("NOTHING", "Nothing"),
  ("OBJECT_PROPERTY", "ObjectProperty"), ("ON_CLASS", "onClass"),
  ("ON_DATA_RANGE", "onDataRange"), ("ON_DATATYPE", "onDatatype"), ("ONE_OF", "oneOf"),
  ("ON_PROPERTIES", "onProperties"), ("ON_PROPERTY", "onProperty"), ("ONTOLOGY", "Ontology"),
  ("ONTOLOGY_PROPERTY", "OntologyProperty"), ("PRIOR_VERSION", "priorVersion"),
  ("PROPERTY_CHAIN_AXIOM", "propertyChainAxiom"),
  ("PROPERTY_DISJOINT_WITH", "propertyDisjointWith"),
  ("QUALIFIED_CARDINALITY", "qualifiedCardinality"), ("REFLEXIVE_PROPERTY", "ReflexiveProperty"),
  ("RESTRICTION", "Restriction"), ("SAME_AS", "sameAs"), ("SOME_VALUES_FROM", "someValuesFrom"),
  ("SOURCE_INDIVIDUAL", "sourceIndividual"), ("SYMMETRIC_PROPERTY", "SymmetricProperty"),
  ("TARGET_INDIVIDUAL", "targetIndividual"), ("TARGET_VALUE", "targetValue"), ("THING", "Thing"),
  ("TOP_DATA_PROPERTY", "topDataProperty"), ("TOP_OBJECT_PROPERTY", "topObjectProperty"),
  ("TRANSITIVE_PROPERTY", "TransitiveProperty"), ("UNION_OF", "unionOf"),
  ("VERSION_INFO", "versionInfo"), ("VERSION_IRI", "versionIRI"),
  ("WITH_RESTRICTIONS", "withRestrictions")]

def owl : Vocabulary where
  title := "The OWL 2 Schema vocabulary".toList
  namespaceIri := "http://www.w3.org/2002/07/owl#".toList
  label := "owl".toList
  listsNamespace := false
  named := namedTerms owlTable

end Termbase.Vocabulary
