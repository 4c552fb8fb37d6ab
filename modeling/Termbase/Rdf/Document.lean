import Termbase.FileTree.Path
import Termbase.Rdf.JsonDocument
import Termbase.Rdf.Lines
import Termbase.Rdf.Notation3
import Termbase.Rdf.Turtle
import Termbase.Rdf.XmlDocument

/-! The forms in which RDF is written, and reading a document in any of them. -/

namespace Termbase.Rdf

inductive Format
  | turtle
  | triG
  | nTriples
  | nQuads
  | n3
  | xml
  | jsonLd
deriving DecidableEq, Repr

namespace Format

def extensions : List (String × Format) :=
  [("json", .jsonLd), ("jsonld", .jsonLd), ("n3", .n3), ("nq", .nQuads), ("nt", .nTriples),
    ("rdf", .xml), ("trig", .triG), ("ttl", .turtle), ("txt", .nTriples), ("xml", .xml)]

def ofExtension? (extension : Text) : Option Format :=
  (extensions.find? fun entry => Text.equalIgnoringAsciiCase entry.1.toList extension).map (·.2)

/-- The form of a file by its extension; Turtle if that tells nothing. -/
def ofPath (path : Path) : Format := (path.extension?.bind ofExtension?).getD .turtle

def read : Format → List UInt8 → Reading
  | .turtle => Turtle.read
  | .triG => Turtle.readWithGraphs
  | .nTriples => Lines.read
  | .nQuads => Lines.readWithGraphs
  | .n3 => Notation3.read
  | .xml => XmlDocument.read
  | .jsonLd => JsonDocument.read

end Format

end Termbase.Rdf
