import Termbase.Vocabulary

/-! The datatypes of XML Schema. -/

namespace Termbase.Vocabulary

def xmlSchemaTable : List (String × String) := [
  ("ANY_URI", "anyURI"), ("BASE_64_BINARY", "base64Binary"), ("BOOLEAN", "boolean"),
  ("BYTE", "byte"), ("DATE", "date"), ("DATE_TIME", "dateTime"),
  ("DATE_TIME_STAMP", "dateTimeStamp"), ("DAY_TIME_DURATION", "dayTimeDuration"),
  ("DECIMAL", "decimal"), ("DOUBLE", "double"), ("DURATION", "duration"),
  ("ENTITIES", "ENTITIES"), ("ENTITY", "ENTITY"), ("FLOAT", "float"), ("G_DAY", "gDay"),
  ("G_MONTH", "gMonth"), ("G_MONTH_DAY", "gMonthDay"), ("G_YEAR", "gYear"),
  ("G_YEAR_MONTH", "gYearMonth"), ("HEX_BINARY", "hexBinary"), ("ID", "ID"), ("IDREF", "IDREF"),
  ("IDREFS", "IDREFS"), ("INT", "int"), ("INTEGER", "integer"), ("LANGUAGE", "language"),
  ("LONG", "long"), ("NAME", "Name"), ("NC_NAME", "NCName"),
  ("NEGATIVE_INTEGER", "negativeInteger"), ("NMTOKEN", "NMTOKEN"), ("NMTOKENS", "NMTOKENS"),
  ("NON_NEGATIVE_INTEGER", "nonNegativeInteger"), ("NON_POSITIVE_INTEGER", "nonPositiveInteger"),
  ("NORMALIZED_STRING", "normalizedString"), ("NOTATION", "NOTATION"),
  ("POSITIVE_INTEGER", "positiveInteger"), ("Q_NAME", "QName"), ("SHORT", "short"),
  ("STRING", "string"), ("TIME", "time"), ("TOKEN", "token"), ("UNSIGNED_BYTE", "unsignedByte"),
  ("UNSIGNED_INT", "unsignedInt"), ("UNSIGNED_LONG", "unsignedLong"),
  ("UNSIGNED_SHORT", "unsignedShort"), ("YEAR_MONTH_DURATION", "yearMonthDuration")]

def xmlSchema : Vocabulary where
  title := "XML Schema Definition datatypes".toList
  namespaceIri := "http://www.w3.org/2001/XMLSchema#".toList
  label := "xsd".toList
  listsNamespace := false
  named := namedTerms xmlSchemaTable

end Termbase.Vocabulary
