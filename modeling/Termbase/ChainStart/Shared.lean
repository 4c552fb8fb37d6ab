import Termbase.ChainStart

/-! Starts that share one store. Each goes on by moves of its own, which may be interleaved with those of the
others in any order: it loads, it completes what it has loaded, and it saves if that is due. -/

namespace Termbase.ChainStart

/-- How far a start has come; a start that fails holds no dictionary any more. -/
inductive Phase
  | waiting
  | loaded (dictionary : Dictionary)
  | completed (known : KnownCoder)
  | ended (outcome : Except CoderError KnownCoder)

def Phase.held? : Phase → Option Dictionary
  | .waiting => none
  | .loaded dictionary => some dictionary
  | .completed known => some known.dictionary
  | .ended (.ok known) => some known.dictionary
  | .ended (.error _) => none

structure Starter where
  vocabularies : List Vocabulary
  config : Config
  service : FileTree.WriteService
  phase : Phase

/-- The next move of a start. No move accesses the store more than once. -/
def Starter.move (starter : Starter) (store : Store) : Phase × Store :=
  match starter.phase with
  | .waiting =>
      match store.load with
      | .error error => (.ended (.error error), store)
      | .ok loaded => (.loaded loaded, store)
  | .loaded dictionary =>
      match KnownCoder.start .knownTerms dictionary starter.vocabularies with
      | .error error => (.ended (.error error), store)
      | .ok known => (.completed known, store)
  | .completed known =>
      if isSaveDue starter.config known then
        match store.saveBy starter.service known.dictionary with
        | (.error error, store) => (.ended (.error error), store)
        | (.ok _, store) => (.ended (.ok known), store)
      else (.ended (.ok known), store)
  | .ended outcome => (.ended outcome, store)

structure Shared where
  store : Store
  starters : List Starter

namespace Shared

/-- The start at a place moves on; without one at that place nothing happens. -/
def move (shared : Shared) (place : Nat) : Shared :=
  match shared.starters[place]? with
  | none => shared
  | some starter =>
      let (phase, store) := starter.move shared.store
      ⟨store, shared.starters.set place { starter with phase := phase }⟩

/-- A schedule names the start that moves next, again and again. -/
def run (shared : Shared) (schedule : List Nat) : Shared := schedule.foldl move shared

/-- A dictionary that can be loaded from the store, or that a start has in its hands. -/
def Holds (shared : Shared) (dictionary : Dictionary) : Prop :=
  shared.store.load = .ok dictionary ∨
    ∃ starter ∈ shared.starters, starter.phase.held? = some dictionary

end Shared

end Termbase.ChainStart
