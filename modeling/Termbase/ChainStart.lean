import Termbase.CoderChain
import Termbase.Config
import Termbase.Store
import Termbase.Vocabulary.Registry

/-! Starting the standard chain on a store: known terms, then configured namespaces, then whole text. The
dictionary is saved before the namespaces are looked at. -/

namespace Termbase.ChainStart

structure Outcome where
  chain : Except CoderError CoderChain
  store : Store

def chainAround (config : Config) (known : KnownCoder) : Except CoderError CoderChain := do
  let fixed ← FixedCoder.make .fixedNamespaces config.fixedNamespaces
  CoderChain.ofCoders [.known known, .fixed fixed, .wholeText .wholeText]

def isSaveDue (config : Config) (known : KnownCoder) : Bool :=
  config.saveOnChanges && 0 < known.newlyRegistered

def runWith (service : FileTree.WriteService) (vocabularies : List Vocabulary) (config : Config)
    (store : Store) : Outcome :=
  match store.load with
  | .error error => ⟨.error error, store⟩
  | .ok loaded =>
      match KnownCoder.start .knownTerms loaded vocabularies with
      | .error error => ⟨.error error, store⟩
      | .ok known =>
          if isSaveDue config known then
            match store.saveBy service known.dictionary with
            | (.error error, store) => ⟨.error error, store⟩
            | (.ok _, store) => ⟨chainAround config known, store⟩
          else ⟨chainAround config known, store⟩

def run (config : Config) (store : Store) : Outcome := runWith .smooth Registry.known config store

def events (config : Config) (store : Store) : List Event :=
  match store.load with
  | .error _ => []
  | .ok loaded =>
      KnownCoder.startEvents .knownTerms loaded Registry.known ++
        match KnownCoder.start .knownTerms loaded Registry.known with
        | .error _ => []
        | .ok known =>
            if isSaveDue config known then
              [.info s!"Saving dictionary with {known.newlyRegistered} new entries"]
            else []

end Termbase.ChainStart
