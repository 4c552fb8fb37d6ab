import Termbase.Iri.Reference
import Termbase.Rdf.LanguageTag
import Termbase.Rdf.Term
import Termbase.Rdf.Turtle.Token
import Termbase.Xml.Markup

/-! RDF written in XML: elements for nodes and for their properties take turns. The triples that a tag
completes are met in the reverse of the order in which they arise. -/

namespace Termbase.Rdf.XmlDocument

open Xml

def rdfTerm (localName : String) : Iri := rdfNamespace ++ localName.toList

/-- Names that are no elements for nodes or properties; a property may be a list item, though. -/
def reservedElements : List Iri :=
  ["about", "aboutEach", "aboutEachPrefix", "bagID", "datatype", "ID", "li", "nodeID", "parseType", "RDF",
    "resource"].map rdfTerm

def reservedAttributes : List Iri := ["aboutEach", "aboutEachPrefix", "li", "RDF", "resource"].map rdfTerm

structure Setting where
  base : Option Iri
  language : Option Text
deriving DecidableEq, Repr

def Setting.literal (setting : Setting) (value : Text) : Term :=
  .literal value (match setting.language with
    | some language => .tagged language
    | none => .plain)

structure Assertion where
  subject : Term
  predicate : Iri
  name : Option Iri
deriving DecidableEq, Repr

inductive Content
  | empty
  | node (term : Term)
  | text (text : Text)
deriving DecidableEq, Repr

/-- An open element. A property whose value is markup holds that markup, and so does each element inside. -/
inductive Frame
  | root
  | node (subject : Term) (items : Nat)
  | property (assertion : Assertion) (datatype : Option Iri) (content : Content)
  | collection (assertion : Assertion) (nodes : List Term)
  | written (assertion : Assertion) (text : Text)
  | inner (text : Text)
deriving DecidableEq, Repr

inductive ParseType
  | none
  | collection
  | literal
  | resource
deriving DecidableEq, Repr

abbrev Spaces := List (Text × Text)

/-- The declarations that no later one hides. -/
def visible : Spaces → Spaces
  | [] => []
  | entry :: rest =>
      if entry.2.isEmpty || rest.any (·.1 == entry.1) then visible rest else entry :: visible rest

structure Element where
  name : Text
  spaces : Spaces
  setting : Setting
  frame : Frame

structure Progress where
  elements : List Element
  entities : Entities
  names : List Iri
  blanks : Nat
  met : List Statement

namespace Progress

def start : Progress := ⟨[], [], [], 0, []⟩

def spaces (progress : Progress) : Spaces := (progress.elements.head?.map (·.spaces)).getD []

def setting (progress : Progress) : Setting := (progress.elements.head?.map (·.setting)).getD ⟨none, none⟩

def frame (progress : Progress) : Frame := (progress.elements.head?.map (·.frame)).getD .root

def setFrame (progress : Progress) (frame : Frame) : Progress :=
  match progress.elements with
  | [] => progress
  | element :: rest => { progress with elements := { element with frame } :: rest }

def scopeWith (progress : Progress) (spaces : Spaces) : Scope := ⟨visible spaces, progress.setting.base⟩

/-- Meets triples under the given namespaces, the last one first. -/
def meetAll (progress : Progress) (spaces : Spaces) (triples : List Triple) : Progress :=
  let scope := progress.scopeWith spaces
  { progress with met := triples.map (⟨·, scope⟩) ++ progress.met }

def freshBlank (progress : Progress) : Term × Progress :=
  (.blank (.fresh progress.blanks), { progress with blanks := progress.blanks + 1 })

def resolve (setting : Setting) (reference : Text) : Option Iri := resolveIri? setting.base reference

end Progress

def splitName (name : Text) : Option Text × Text :=
  match name.dropWhile (· != ':') with
  | [] => (none, name)
  | _ :: localName => (some (name.takeWhile (· != ':')), localName)

def expandWith (entities : Entities) (spaces : Spaces) (label localName : Text) : Option Iri := do
  let start ← (visible spaces).lookup label
  unescape? entities (start ++ localName)

def elementIri (entities : Entities) (spaces : Spaces) (name : Text) : Option Iri :=
  let (label, localName) := splitName name
  expandWith entities spaces (label.getD []) localName

def attributeIri (entities : Entities) (spaces : Spaces) (name : Text) : Option Iri :=
  match splitName name with
  | (some label, localName) => expandWith entities spaces label localName
  | (none, _) => none

def xmlSpace : Text := "http://www.w3.org/XML/1998/namespace".toList

def xmlnsSpace : Text := "http://www.w3.org/2000/xmlns/".toList

/-- Adds the namespaces that an attribute declares; the labels of XML itself stay as they are. -/
def declareSpace (spaces : Spaces) (given : Attribute) : Option Spaces :=
  match splitName given.name with
  | (none, name) => some (if name = "xmlns".toList then spaces ++ [([], given.value)] else spaces)
  | (some space, label) =>
      if space ≠ "xmlns".toList then some spaces
      else if label = "xml".toList then if given.value = xmlSpace then some spaces else none
      else if label = "xmlns".toList ∨ given.value = xmlSpace ∨ given.value = xmlnsSpace then none
      else some (spaces ++ [(label, given.value)])

def isPlainName : Text → Bool
  | [] => false
  | first :: rest => Turtle.isNameStart first && rest.all Turtle.isNameChar

structure Meanings where
  setting : Setting
  id : Option Text
  node : Option Text
  about : Option Text
  resource : Option Text
  datatype : Option Text
  type : Option Text
  parseType : ParseType
  properties : List (Iri × Text)

def plainName? (text : Text) : Option Text := if isPlainName text then some text else none

def parseTypeOf (value : Text) : ParseType :=
  if value = "Collection".toList then .collection
  else if value = "Resource".toList then .resource
  else .literal

def readXmlAttribute (entities : Entities) (meanings : Meanings) (given : Attribute) : Option Meanings :=
  if given.name = "xml:lang".toList then do
    let language := (← unescape? entities given.value).map asciiLower
    if LanguageTag.isValid language then
      return { meanings with setting := { meanings.setting with language := some language } }
    else none
  else if given.name = "xml:base".toList then do
    let base ← unescape? entities given.value
    if Iri.isAbsolute base then
      return { meanings with setting := { meanings.setting with base := some base } }
    else none
  else some meanings

def readAttributeMeaning (entities : Entities) (spaces : Spaces) (meanings : Meanings)
    (given : Attribute) : Option Meanings :=
  if (Text.stripPrefix? "xml".toList given.name).isSome then readXmlAttribute entities meanings given
  else do
    let iri ← attributeIri entities spaces given.name
    if iri = rdfTerm "parseType" then return { meanings with parseType := parseTypeOf given.value }
    let value ← unescape? entities given.value
    if iri = rdfTerm "ID" then return { meanings with id := some ('#' :: (← plainName? value)) }
    else if iri = rdfTerm "bagID" then do
      let _ ← plainName? value
      return meanings
    else if iri = rdfTerm "nodeID" then return { meanings with node := some (← plainName? value) }
    else if iri = rdfTerm "about" then return { meanings with about := some value }
    else if iri = rdfTerm "resource" then return { meanings with resource := some value }
    else if iri = rdfTerm "datatype" then return { meanings with datatype := some value }
    else if iri = rdfType then return { meanings with type := some value }
    else if reservedAttributes.contains iri || !Iri.isAbsolute iri then none
    else return { meanings with properties := meanings.properties ++ [(iri, value)] }

def readMeanings (entities : Entities) (spaces : Spaces) (setting : Setting)
    (given : List Attribute) : Option Meanings :=
  given.foldlM (readAttributeMeaning entities spaces)
    ⟨setting, none, none, none, none, none, none, .none, []⟩

structure Targets where
  id : Option Iri
  about : Option Iri
  resource : Option Iri
  datatype : Option Iri
  type : Option Iri

def resolveAny (setting : Setting) : Option Text → Option (Option Iri)
  | none => some none
  | some reference => (Progress.resolve setting reference).map some

def readTargets (meanings : Meanings) : Option Targets := do
  let resolve := resolveAny meanings.setting
  return ⟨← resolve meanings.id, ← resolve meanings.about, ← resolve meanings.resource,
    ← resolve meanings.datatype, ← resolve meanings.type⟩

def propertyTriples (meanings : Meanings) (subject : Term) : List Triple :=
  meanings.properties.map fun entry => ⟨subject, entry.1, meanings.setting.literal entry.2⟩

def typeTriples (targets : Targets) (subject : Term) : List Triple :=
  match targets.type with
  | some type => [⟨subject, rdfType, .iri type⟩]
  | none => []

def nodeSubject (progress : Progress) (meanings : Meanings) (targets : Targets) :
    Option (Term × Progress) :=
  match targets.id, meanings.node, targets.about with
  | some iri, none, none => some (.iri iri, progress)
  | none, some label, none => some (.blank (.named label), progress)
  | none, none, some iri => some (.iri iri, progress)
  | none, none, none => some progress.freshBlank
  | _, _, _ => none

def describe (assertion : Assertion) (object : Term) : List Triple :=
  match assertion.name with
  | some name =>
      [⟨.iri name, rdfType, .iri (rdfTerm "Statement")⟩,
        ⟨.iri name, rdfTerm "subject", assertion.subject⟩,
        ⟨.iri name, rdfTerm "predicate", .iri assertion.predicate⟩,
        ⟨.iri name, rdfTerm "object", object⟩]
  | none => []

/-- The triples that a finished statement stands for: its description, then the statement itself. -/
def asserted (assertion : Assertion) (object : Term) : List Triple :=
  describe assertion object ++ [⟨assertion.subject, assertion.predicate, object⟩]

structure Opened where
  progress : Progress
  frame : Frame
  triples : List Triple

def openNode (progress : Progress) (iri : Iri) (meanings : Meanings) (targets : Targets) :
    Option Opened := do
  if !Iri.isAbsolute iri then none
  let (subject, progress) ← nodeSubject progress meanings targets
  let kind : List Triple :=
    if iri = rdfTerm "Description" then [] else [⟨subject, rdfType, .iri iri⟩]
  return ⟨progress, .node subject 0,
    propertyTriples meanings subject ++ typeTriples targets subject ++ kind⟩

def attributeObject (progress : Progress) (meanings : Meanings) (targets : Targets) :
    Option (Option Term × Progress) :=
  match targets.resource, meanings.node with
  | some iri, none => some (some (.iri iri), progress)
  | none, some label => some (some (.blank (.named label)), progress)
  | some _, some _ => none
  | none, none =>
      if meanings.properties.isEmpty then some (none, progress)
      else
        let (node, progress) := progress.freshBlank
        some (some node, progress)

def openProperty (progress : Progress) (assertion : Assertion) (meanings : Meanings) (targets : Targets) :
    Option Opened :=
  match meanings.parseType with
  | .none => do
      let (object, progress) ← attributeObject progress meanings targets
      match object with
      | some node =>
          return ⟨progress, .property assertion targets.datatype (.node node),
            propertyTriples meanings node ++ typeTriples targets node⟩
      | none => return ⟨progress, .property assertion targets.datatype .empty, []⟩
  | .literal => some ⟨progress, .written assertion [], []⟩
  | .collection => some ⟨progress, .collection assertion [], []⟩
  | .resource =>
      let (node, progress) := progress.freshBlank
      some ⟨progress, .node node 0, asserted assertion node⟩

def propertyIri (progress : Progress) (subject : Term) (items : Nat) (iri : Iri) :
    Option (Iri × Progress) :=
  if iri = rdfTerm "li" then
    some (rdfNamespace ++ '_' :: Text.ofNat (items + 1), progress.setFrame (.node subject (items + 1)))
  else if reservedElements.contains iri || iri = rdfTerm "Description" || !Iri.isAbsolute iri then none
  else some (iri, progress)

def openFrame (progress : Progress) (iri : Iri) (meanings : Meanings) (targets : Targets) :
    Option Opened :=
  match progress.elements, progress.frame with
  | [], _ =>
      if iri = rdfTerm "RDF" then some ⟨progress, .root, []⟩
      else if reservedElements.contains iri then none
      else openNode progress iri meanings targets
  | _, .node subject items => do
      let (predicate, progress) ← propertyIri progress subject items iri
      openProperty progress ⟨subject, predicate, targets.id⟩ meanings targets
  | _, _ => if reservedElements.contains iri then none else openNode progress iri meanings targets

def noteId (progress : Progress) : Option Iri → Option Progress
  | none => some progress
  | some iri =>
      if progress.names.contains iri then none else some { progress with names := iri :: progress.names }

def writtenOpening (name : Text) (given : List Attribute) : Text :=
  '<' :: name ++
    given.flatMap (fun found => ' ' :: found.name ++ '=' :: '"' :: found.value ++ ['"']) ++ ['>']

def openInner (progress : Progress) (spaces : Spaces) (name : Text) (given : List Attribute) : Progress :=
  { progress with
    elements := ⟨name, spaces, progress.setting, .inner (writtenOpening name given)⟩ :: progress.elements }

def takeOpening (progress : Progress) (name : Text) (given : List Attribute) : Option Progress := do
  let spaces ← given.foldlM declareSpace progress.spaces
  match progress.frame with
  | .written _ _ | .inner _ => return openInner progress spaces name given
  | _ =>
      let iri ← elementIri progress.entities spaces name
      let meanings ← readMeanings progress.entities spaces progress.setting given
      let targets ← readTargets meanings
      let progress ← noteId progress targets.id
      let opened ← openFrame progress iri meanings targets
      let inside := { opened.progress with
        elements := ⟨name, spaces, meanings.setting, opened.frame⟩ :: opened.progress.elements }
      return inside.meetAll spaces opened.triples

def collectionTriples (progress : Progress) : List Term → Term × List Triple × Progress
  | [] => (.iri rdfNil, [], progress)
  | node :: rest =>
      let (following, triples, progress) := collectionTriples progress rest
      let (cell, progress) := progress.freshBlank
      (cell, triples ++ [⟨cell, rdfFirst, node⟩, ⟨cell, rdfRest, following⟩], progress)

def giveNode (progress : Progress) (node : Term) : Progress :=
  match progress.frame with
  | .property assertion datatype _ => progress.setFrame (.property assertion datatype (.node node))
  | .collection assertion nodes => progress.setFrame (.collection assertion (nodes ++ [node]))
  | _ => progress

def propertyObject (setting : Setting) (datatype : Option Iri) : Content → Term
  | .node term => term
  | content =>
      let value := match content with
        | .text text => text
        | _ => []
      match datatype with
      | some datatype => .literal value (kindOfDatatype datatype)
      | none => setting.literal value

def write (progress : Progress) (more : Text) : Progress :=
  match progress.frame with
  | .written assertion text => progress.setFrame (.written assertion (text ++ more))
  | .inner text => progress.setFrame (.inner (text ++ more))
  | _ => progress

def closeFrame (progress : Progress) (element : Element) : Option Progress :=
  match element.frame with
  | .root => some progress
  | .node subject _ => some (giveNode progress subject)
  | .property assertion datatype content =>
      some (progress.meetAll element.spaces
        (asserted assertion (propertyObject element.setting datatype content)))
  | .collection assertion nodes =>
      let (first, triples, progress) := collectionTriples progress nodes
      some (progress.meetAll element.spaces (triples ++ asserted assertion first))
  | .inner text => some (write progress (text ++ "</".toList ++ element.name ++ ['>']))
  | .written assertion text =>
      if text.isEmpty then none
      else some (progress.meetAll element.spaces
        (asserted assertion (.literal text (.typed (rdfTerm "XMLLiteral")))))

def takeClosing (progress : Progress) (name : Text) : Option Progress :=
  match progress.elements with
  | [] => none
  | element :: rest =>
      if element.name = name then closeFrame { progress with elements := rest } element else none

/-- Text counts in a property, where blanks alone are nothing, and is written where all is. -/
def takeText (progress : Progress) (isBlank : Bool) (text : Text) : Option Progress :=
  match progress.frame with
  | .property assertion datatype content =>
      some (progress.setFrame (.property assertion datatype (if isBlank then content else .text text)))
  | .written _ _ | .inner _ => some (write progress (escape text))
  | _ => if isBlank then some progress else none

def encodings : List Text :=
  ["unicode-1-1-utf-8".toList, "unicode11utf8".toList, "unicode20utf8".toList, "utf-8".toList,
    "utf8".toList, "x-unicode20utf8".toList]

def isReadable (given : List Attribute) : Bool :=
  match given.find? (·.name == "encoding".toList) with
  | some found => encodings.contains (found.value.map asciiLower)
  | none => true

def take (progress : Progress) : Markup → Option Progress
  | .opening name (some given) => takeOpening progress name given
  | .closing name => takeClosing progress name
  | .text content => do
      takeText progress (content.all isSpace) (← unescape? progress.entities content)
  | .verbatim content => takeText progress (content.all isSpace) content
  | .declaration (some given) => if isReadable given then some progress else none
  | .documentType content => do
      return { progress with entities := ← readDefinitions progress.entities content }
  | _ => none

def readFrom (progress : Progress) : List Markup → Reading
  | [] => ⟨progress.met.reverse, some (progress.scopeWith progress.spaces)⟩
  | piece :: rest =>
      match take progress piece with
      | some progress => readFrom progress rest
      | none => ⟨progress.met.reverse, none⟩

def read (document : List UInt8) : Reading := readFrom .start (markup document)

end Termbase.Rdf.XmlDocument
