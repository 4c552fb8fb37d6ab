import Termbase.Dictionary
import Termbase.Event
import Termbase.Vocabulary

/-! The coder of known terms. A term's code holds a counter that was given out once, in registration order,
and is kept in a dictionary from one start to the next. -/

namespace Termbase

structure KnownCoder where
  id : CoderId
  dictionary : Dictionary
  newlyRegistered : Nat

namespace KnownCoder

def capacity : Nat := 256 * 256 * 256 - 1

def counterOctets (counter : Nat) : List UInt8 :=
  [UInt8.ofNat (counter / 65536), UInt8.ofNat (counter / 256), UInt8.ofNat counter]

def codeOf (id : CoderId) (counter : Nat) : Code := .make id .iri (counterOctets counter)

def counter? (code : Code) : Option Nat :=
  match code.payload with
  | [high, middle, low] => some (high.toNat * 65536 + middle.toNat * 256 + low.toNat)
  | _ => none

def mayOwn (id : CoderId) (code : Code) : Bool :=
  (counter? code).isSome && code.header == id.header .iri

def foreign? (id : CoderId) (loaded : Dictionary) : Option (Iri × Code) :=
  loaded.entries.find? fun entry => !mayOwn id entry.2

def highestCounter (loaded : Dictionary) : Nat :=
  (loaded.entries.filterMap fun entry => counter? entry.2).foldl max 0

/-- Counting goes on after the highest counter, and after as many as there are entries. -/
def firstFree (loaded : Dictionary) : Nat := max (highestCounter loaded) loaded.size

/-- A dictionary in the making: the last counter given out, and how many terms are new. -/
structure Progress where
  dictionary : Dictionary
  counter : Nat
  added : Nat

def Progress.register (id : CoderId) (progress : Progress) (term : Iri) : Except CoderError Progress :=
  if progress.dictionary.contains term then .ok progress
  else if capacity ≤ progress.counter then .error (.dictionaryFull capacity)
  else do
    let dictionary ← progress.dictionary.insert term (codeOf id (progress.counter + 1))
    return ⟨dictionary, progress.counter + 1, progress.added + 1⟩

def Progress.registerAll (id : CoderId) (progress : Progress) : List Iri → Except CoderError Progress
  | [] => .ok progress
  | term :: rest => do (← progress.register id term).registerAll id rest

def start (id : CoderId) (loaded : Dictionary) (vocabularies : List Vocabulary) :
    Except CoderError KnownCoder :=
  match foreign? id loaded with
  | some (iri, code) => .error (.foreignEntry iri code id)
  | none => do
      let progress ← (Progress.mk loaded (firstFree loaded) 0).registerAll id
        (vocabularies.flatMap (·.terms))
      return ⟨id, progress.dictionary, progress.added⟩

def vocabularyEvents (id : CoderId) (verb : String) (progress : Progress) (count : Nat) :
    List Vocabulary → List Event
  | [] =>
      [.info s!"{verb}ed {count} vocabularies", .info s!"Dictionary size is {progress.dictionary.size}"]
  | vocabulary :: rest =>
      .info s!"{verb}ing [{String.ofList vocabulary.namespaceIri}] vocabulary..." ::
        match progress.registerAll id vocabulary.terms with
        | .ok progress => vocabularyEvents id verb progress count rest
        | .error _ => []

def startEvents (id : CoderId) (loaded : Dictionary) (vocabularies : List Vocabulary) : List Event :=
  if (foreign? id loaded).isSome then []
  else
    (if loaded.isEmpty then .info "Dictionary is empty"
      else .info s!"Dictionary isn't empty, found {loaded.size} entries") ::
    vocabularyEvents id (if loaded.isEmpty then "Register" else "Refresh")
      ⟨loaded, firstFree loaded, 0⟩ vocabularies.length vocabularies

def encode? (coder : KnownCoder) (iri : Iri) : Option Code := coder.dictionary.code? iri

end KnownCoder

end Termbase
