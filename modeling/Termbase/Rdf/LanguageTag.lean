import Termbase.Iri.Syntax

/-! Well-formed language tags: a language, then extended languages, a script, a region, variants,
extensions and a private part; or a private tag, or one of the old tags that follow no rule. -/

namespace Termbase.Rdf.LanguageTag

def irregular : List String :=
  ["art-lojban", "cel-gaulish", "en-GB-oed", "i-ami", "i-bnn", "i-default", "i-enochian", "i-hak",
    "i-klingon", "i-lux", "i-mingo", "i-navajo", "i-pwn", "i-tao", "i-tay", "i-tsu", "no-bok", "no-nyn",
    "sgn-BE-FR", "sgn-BE-NL", "sgn-CH-DE", "zh-guoyu", "zh-hakka", "zh-min", "zh-min-nan", "zh-xiang"]

/-- What has been read of a tag: the parts up to the language with its extensions counted, up to a place
where no extended language may follow, the script, the region; or an extension or private part, which may
still lack its first subtag. -/
inductive Stage
  | language (extensions : Nat)
  | noExtensions
  | script
  | region
  | extension (lacking : Bool)
  | privatePart (lacking : Bool)
deriving DecidableEq, Repr

def isLetters (subtag : Text) : Bool := subtag.all isAsciiLetter

def isAlphanumeric (subtag : Text) : Bool := subtag.all isAsciiAlphanumeric

def Stage.beforeScript : Stage → Bool
  | .language _ | .noExtensions => true
  | _ => false

def Stage.beforeRegion : Stage → Bool
  | .script => true
  | stage => stage.beforeScript

def Stage.beforeVariant : Stage → Bool
  | .region => true
  | stage => stage.beforeRegion

def isScript (subtag : Text) : Bool := subtag.length == 4 && isLetters subtag

def isRegion (subtag : Text) : Bool :=
  (subtag.length == 2 && isLetters subtag) || (subtag.length == 3 && subtag.all isAsciiDigit)

def isVariant (subtag : Text) : Bool :=
  isAlphanumeric subtag &&
    (5 ≤ subtag.length || (subtag.length == 4 && subtag.head?.any isAsciiDigit))

def Stage.next (stage : Stage) (subtag : Text) : Option Stage :=
  match stage with
  | .privatePart _ => if isAlphanumeric subtag then some (.privatePart false) else none
  | _ =>
      if subtag == ['x'] || subtag == ['X'] then
        if stage == .extension true then none else some (.privatePart true)
      else if subtag.length == 1 && isAlphanumeric subtag then
        if stage == .extension true then none else some (.extension true)
      else match stage with
        | .extension _ => if isAlphanumeric subtag then some (.extension false) else none
        | .language extensions =>
            if subtag.length == 3 && isLetters subtag then
              if extensions < 3 then some (.language (extensions + 1)) else none
            else if isScript subtag then some .script
            else if isRegion subtag || isVariant subtag then some .region
            else none
        | _ =>
            if stage.beforeScript && isScript subtag then some .script
            else if stage.beforeRegion && isRegion subtag then some .region
            else if stage.beforeVariant && isVariant subtag then some .region
            else none

def Stage.isComplete : Stage → Bool
  | .extension lacking | .privatePart lacking => !lacking
  | _ => true

def acceptsFrom (stage : Stage) : List Text → Bool
  | [] => stage.isComplete
  | subtag :: rest =>
      if subtag.isEmpty || 8 < subtag.length then false
      else match stage.next subtag with
        | some stage => acceptsFrom stage rest
        | none => false

def isRegular (tag : Text) : Bool :=
  match Iri.pieces '-' tag with
  | [] => false
  | language :: rest =>
      2 ≤ language.length && language.length ≤ 8 && isLetters language &&
        acceptsFrom (if language.length < 4 then .language 0 else .noExtensions) rest

def isPrivate (tag : Text) : Bool :=
  match tag with
  | 'x' :: '-' :: rest | 'X' :: '-' :: rest =>
      !rest.isEmpty && rest.all fun c => isAsciiAlphanumeric c || c == '-'
  | _ => false

def isValid (tag : Text) : Bool :=
  irregular.any (fun old => Text.equalIgnoringAsciiCase old.toList tag) || isPrivate tag || isRegular tag

end Termbase.Rdf.LanguageTag
