import Termbase.Vocabulary

/-! The Dublin Core terms. -/

namespace Termbase.Vocabulary

def dublinCoreTermsTable : List (String × String) := [
  ("ABSTRACT", "abstract"), ("ACCESS_RIGHTS", "accessRights"),
  ("ACCRUAL_METHOD", "accrualMethod"), ("ACCRUAL_PERIODICITY", "accrualPeriodicity"),
  ("ACCRUAL_POLICY", "accrualPolicy"), ("AGENT", "Agent"), ("AGENT_CLASS", "AgentClass"),
  ("ALTERNATIVE", "alternative"), ("AUDIENCE", "audience"), ("AVAILABLE", "available"),
  ("BIBLIOGRAPHIC_CITATION", "bibliographicCitation"),
  ("BIBLIOGRAPHIC_RESOURCE", "BibliographicResource"), ("BOX", "Box"),
  ("CONFORMS_TO", "conformsTo"), ("CONTRIBUTOR", "contributor"), ("COVERAGE", "coverage"),
  ("CREATED", "created"), ("CREATOR", "creator"), ("DATE", "date"),
  ("DATE_ACCEPTED", "dateAccepted"), ("DATE_COPYRIGHTED", "dateCopyrighted"),
  ("DATE_SUBMITTED", "dateSubmitted"), ("DCMI_TYPE", "DCMIType"), ("DDC", "DDC"),
  ("DESCRIPTION", "description"), ("EDUCATION_LEVEL", "educationLevel"), ("EXTENT", "extent"),
  ("FILE_FORMAT", "FileFormat"), ("FORMAT", "format"), ("FREQUENCY", "Frequency"),
  ("HAS_FORMAT", "hasFormat"), ("HAS_PART", "hasPart"), ("HAS_VERSION", "hasVersion"),
  ("IDENTIFIER", "identifier"), ("IMT", "IMT"), ("INSTRUCTIONAL_METHOD", "instructionalMethod"),
  ("IS_FORMAT_OF", "isFormatOf"), ("ISO_3166", "ISO3166"), ("ISO_639_2", "ISO639-2"),
  ("ISO_639_3", "ISO639-3"), ("IS_PART_OF", "isPartOf"), ("IS_REFERENCED_BY", "isReferencedBy"),
  ("IS_REPLACED_BY", "isReplacedBy"), ("IS_REQUIRED_BY", "isRequiredBy"), ("ISSUED", "issued"),
  ("IS_VERSION_OF", "isVersionOf"), ("JURISDICTION", "Jurisdiction"), ("LANGUAGE", "language"),
  ("LCC", "LCC"), ("LCSH", "LCSH"), ("LICENSE", "license"),
  ("LICENSE_DOCUMENT", "LicenseDocument"), ("LINGUISTIC_SYSTEM", "LinguisticSystem"),
  ("LOCATION", "Location"), ("LOCATION_PERIOD_OR_JURISDICTION", "LocationPeriodOrJurisdiction"),
  ("MEDIATOR", "mediator"), ("MEDIA_TYPE", "MediaType"),
  ("MEDIA_TYPE_OR_EXTENT", "MediaTypeOrExtent"), ("MEDIUM", "medium"), ("MESH", "MESH"),
  ("METHOD_OF_ACCRUAL", "MethodOfAccrual"), ("METHOD_OF_INSTRUCTION", "MethodOfInstruction"),
  ("MODIFIED", "modified"), ("NLM", "NLM"), ("PERIOD", "Period"),
  ("PERIOD_OF_TIME", "PeriodOfTime"), ("PHYSICAL_MEDIUM", "PhysicalMedium"),
  ("PHYSICAL_RESOURCE", "PhysicalResource"), ("POINT", "Point"), ("POLICY", "Policy"),
  ("PROVENANCE", "provenance"), ("PROVENANCE_STATEMENT", "ProvenanceStatement"),
  ("PUBLISHER", "publisher"), ("REFERENCES", "references"), ("RELATION", "relation"),
  ("REPLACES", "replaces"), ("REQUIRES", "requires"), ("RFC_1766", "RFC1766"),
  ("RFC_3066", "RFC3066"), ("RFC_4646", "RFC4646"), ("RFC_5646", "RFC5646"), ("RIGHTS", "rights"),
  ("RIGHTS_HOLDER", "rightsHolder"), ("RIGHTS_STATEMENT", "RightsStatement"),
  ("SIZE_OR_DURATION", "SizeOrDuration"), ("SOURCE", "source"), ("SPATIAL", "spatial"),
  ("STANDARD", "Standard"), ("SUBJECT", "subject"), ("TABLE_OF_CONTENTS", "tableOfContents"),
  ("TEMPORAL", "temporal"), ("TGN", "TGN"), ("TITLE", "title"), ("TYPE", "type"), ("UDC", "UDC"),
  ("URI", "URI"), ("VALID", "valid"), ("W_3_CDTF", "W3CDTF")]

def dublinCoreTerms : Vocabulary where
  title := "DCMI Metadata Terms".toList
  namespaceIri := "http://purl.org/dc/terms/".toList
  label := "dcterms".toList
  listsNamespace := false
  named := namedTerms dublinCoreTermsTable

end Termbase.Vocabulary
