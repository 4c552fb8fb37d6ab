import Termbase.FileTree.WriteService
import Termbase.Text.Blank

/-! Declaring a generated module in the file that lists all of them, in the order of their names. -/

namespace Termbase.TermModule

def declarationStart : Text := "pub mod ".toList

def declarationOf (module : Text) : Text := declarationStart ++ module ++ [';']

def declared? (line : Text) : Option Text :=
  (Text.stripPrefix? declarationStart line).bind (Text.stripSuffix? [';'])

def isDeclared (module : Text) (lines : List Text) : Bool :=
  lines.any fun line => Text.trim line == declarationOf module

def declaresLater (module line : Text) : Bool := (declared? line).any fun other => decide (module < other)

def lastDeclarationEnd? (lines : List Text) : Option Nat :=
  (lines.reverse.findIdx? fun line => (declared? line).isSome).map (lines.length - ·)

/-- The place of a new declaration: before the first one of a later module, or else after the last one, or
else at the end. -/
def insertionPlace (module : Text) (lines : List Text) : Nat :=
  ((lines.findIdx? (declaresLater module)).or (lastDeclarationEnd? lines)).getD lines.length

def insertDeclaration (module : Text) (lines : List Text) : List Text :=
  let place := insertionPlace module lines
  lines.take place ++ declarationOf module :: lines.drop place

/-- The text with the module declared, unless it was declared before. -/
def declaredIn? (module content : Text) : Option Text :=
  let lines := Text.lines content
  if isDeclared module lines then none else some (Text.ofLines (insertDeclaration module lines))

def currentText (tree : FileTree) (path : Path) : Except FileError Text := do
  if ← tree.lookForFile path then tree.readText path else return []

def registerBy (service : FileTree.WriteService) (tree : FileTree) (path : Path) (module : Text) :
    Except FileError Bool × FileTree :=
  match currentText tree path with
  | .error error => (.error error, tree)
  | .ok content =>
      match declaredIn? module content with
      | none => (.ok false, tree)
      | some updated =>
          match tree.writeAtomicallyBy service path (Utf8.encode updated) with
          | (.ok _, written) => (.ok true, written)
          | (.error error, written) => (.error error, written)

def register (tree : FileTree) (path : Path) (module : Text) : Except FileError Bool × FileTree :=
  registerBy .smooth tree path module

end Termbase.TermModule
