import Termbase.Text.Utf8
import Termbase.Xml.Reference

/-! XML as a list of markup: tags, text and declarations. The list ends with a broken piece where the text
breaks off inside of a tag. References are not yet replaced. -/

namespace Termbase.Xml

structure Attribute where
  name : Text
  value : Text
deriving DecidableEq, Repr

/-- A tag's attributes are missing if they are malformed. -/
inductive Markup
  | opening (name : Text) (attributes : Option (List Attribute))
  | closing (name : Text)
  | text (content : Text)
  | verbatim (content : Text)
  | declaration (attributes : Option (List Attribute))
  | documentType (content : Text)
  | broken
deriving DecidableEq, Repr

def wholeText? (units : Units) : Option Text := units.mapM id

def beginsWith (beginning : Text) (units : Units) : Bool := (beginning.map some).isPrefixOf units

def cutAt? (mark : Text) : Units → Option (Units × Units)
  | [] => none
  | unit :: rest =>
      if beginsWith mark (unit :: rest) then some ([], (unit :: rest).drop mark.length)
      else (cutAt? mark rest).map fun cut => (unit :: cut.1, cut.2)

/-- What stands in a tag before its closing bracket, and after it; brackets in quotes do not count. -/
def cutTag? (quote : Option Char) : Units → Option (Units × Units)
  | [] => none
  | unit :: rest =>
      let inside (quote : Option Char) := (cutTag? quote rest).map fun cut => (unit :: cut.1, cut.2)
      match quote with
      | some mark => if unit = some mark then inside none else inside quote
      | none =>
          if unit = some '>' then some ([], rest)
          else if unit = some '"' ∨ unit = some '\'' then inside unit
          else inside none

/-- What stands before the bracket that closes a document type; brackets inside come in pairs. -/
def cutDocumentType? (depth : Nat) : Units → Option (Units × Units)
  | [] => none
  | unit :: rest =>
      let inside (depth : Nat) := (cutDocumentType? depth rest).map fun cut => (unit :: cut.1, cut.2)
      if unit = some '<' then inside (depth + 1)
      else if unit = some '>' then
        if depth = 0 then some ([], rest) else inside (depth - 1)
      else inside depth

def readAttribute (text : Text) : Option (Attribute × Text) := do
  let isKey (c : Char) := c != '=' && !isSpace c
  let name := text.takeWhile isKey
  let valued ← Text.stripPrefix? ['='] (skipSpaces (text.dropWhile isKey))
  match skipSpaces valued with
  | quote :: rest =>
      if name.isEmpty || (quote != '"' && quote != '\'') then none
      else
        let after ← (rest.dropWhile (· != quote)).tail?
        return (⟨name, rest.takeWhile (· != quote)⟩, after)
  | [] => none

/-- The attributes of a tag; no name may occur twice. The count bounds how many there are. -/
def readAttributes : Nat → List Attribute → Text → Option (List Attribute)
  | 0, _, _ => none
  | count + 1, before, text =>
      match skipSpaces text with
      | [] => some before
      | rest => do
          let (found, after) ← readAttribute rest
          if before.any (·.name == found.name) then none
          else readAttributes count (before ++ [found]) after

def attributesOf (text : Text) : Option (List Attribute) := readAttributes (text.length + 1) [] text

def openingOf (content : Text) : Markup :=
  .opening (content.takeWhile (!isSpace ·)) (attributesOf (content.dropWhile (!isSpace ·)))

def tagMarkup (content : Text) : List Markup :=
  match content with
  | '/' :: name => [.closing (name.reverse.dropWhile isSpace).reverse]
  | _ =>
      match Text.stripSuffix? ['/'] content with
      | some content => [openingOf content, .closing (content.takeWhile (!isSpace ·))]
      | none => [openingOf content]

def instructionMarkup (content : Text) : List Markup :=
  match Text.stripPrefix? "xml".toList content with
  | some [] => [.declaration (some [])]
  | some (c :: rest) => if isSpace c then [.declaration (attributesOf rest)] else []
  | none => []

def isDocumentType (units : Units) : Bool :=
  (units.take 7).all (·.isSome) &&
    Text.equalIgnoringAsciiCase "DOCTYPE".toList ((units.take 7).filterMap id)

def piecesOf (read : Text → List Markup) (units : Units) : List Markup :=
  match wholeText? units with
  | some text => read text
  | none => [.broken]

def readBracket (units : Units) : Option (List Markup × Units) :=
  if beginsWith "!--".toList units then
    (cutAt? "-->".toList (units.drop 3)).map fun cut => ([], cut.2)
  else if beginsWith "![CDATA[".toList units then
    (cutAt? "]]>".toList (units.drop 8)).map fun cut =>
      (piecesOf (fun text => [.verbatim text]) cut.1, cut.2)
  else if beginsWith ['!'] units && isDocumentType (units.drop 1) then
    (cutDocumentType? 0 (units.drop 8)).map fun cut =>
      (piecesOf (fun text => if (skipSpaces text).isEmpty then [.broken] else [.documentType text]) cut.1,
        cut.2)
  else if beginsWith ['!'] units then none
  else if beginsWith ['?'] units then
    (cutAt? "?>".toList (units.drop 1)).map fun cut => (piecesOf instructionMarkup cut.1, cut.2)
  else (cutTag? none units).map fun cut => (piecesOf tagMarkup cut.1, cut.2)

def markupWithin : Nat → Units → List Markup
  | 0, _ => [.broken]
  | _, [] => []
  | count + 1, some '<' :: rest =>
      match readBracket rest with
      | some (pieces, after) => pieces ++ markupWithin count after
      | none => [.broken]
  | count + 1, units =>
      piecesOf (fun text => [.text text]) (units.takeWhile (· != some '<')) ++
        markupWithin count (units.dropWhile (· != some '<'))

def markup (document : List UInt8) : List Markup :=
  let units := Utf8.units document
  let content := if units.head? = some (some '\ufeff') then units.drop 1 else units
  markupWithin (content.length + 1) content

end Termbase.Xml
