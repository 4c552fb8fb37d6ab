import Termbase.ChainStart
import Termbase.Proofs.Coder.RoundTrip

/-! What a start comes to: the conditions under which it gives a chain, the coders of that chain, and the
store that it leaves behind. -/

namespace Termbase

theorem CoderChain.coders_of_ofCoders {coders : List Coder} {chain : CoderChain}
    (made : CoderChain.ofCoders coders = .ok chain) : chain.coders = coders := by
  unfold ofCoders at made
  split at made
  next => cases made
  next => cases made; rfl

namespace ChainStart

theorem chainAround_eq_ok {config : Config} {known : KnownCoder} {chain : CoderChain}
    (made : chainAround config known = .ok chain) :
    ∃ fixed, FixedCoder.make .fixedNamespaces config.fixedNamespaces = .ok fixed ∧
      CoderChain.ofCoders [.known known, .fixed fixed, .wholeText .wholeText] = .ok chain := by
  unfold chainAround at made
  cases found : FixedCoder.make .fixedNamespaces config.fixedNamespaces with
  | error error => rw [found] at made; cases made
  | ok fixed => rw [found] at made; exact ⟨fixed, rfl, made⟩

theorem coders_of_chainAround {config : Config} {known : KnownCoder} {chain : CoderChain}
    (made : chainAround config known = .ok chain) :
    ∃ fixed, FixedCoder.make .fixedNamespaces config.fixedNamespaces = .ok fixed ∧
      chain.coders = [.known known, .fixed fixed, .wholeText .wholeText] := by
  obtain ⟨fixed, madeFixed, ofCoders⟩ := chainAround_eq_ok made
  exact ⟨fixed, madeFixed, CoderChain.coders_of_ofCoders ofCoders⟩

inductive Kept (service : FileTree.WriteService) (config : Config) (known : KnownCoder) (store : Store) : Store → Prop
  | saved {next : Store} : isSaveDue config known = true →
      store.saveBy service known.dictionary = (.ok (), next) → Kept service config known store next
  | untouched : isSaveDue config known = false → Kept service config known store store

theorem runWith_ok {service : FileTree.WriteService} {vocabularies : List Vocabulary} {config : Config}
    {store : Store} {chain : CoderChain} (ran : (runWith service vocabularies config store).chain = .ok chain) :
    ∃ loaded known, store.load = .ok loaded ∧
      KnownCoder.start .knownTerms loaded vocabularies = .ok known ∧
      chainAround config known = .ok chain ∧
      Kept service config known store (runWith service vocabularies config store).store := by
  unfold runWith at ran ⊢
  cases loadEq : store.load with
  | error error => simp [loadEq] at ran
  | ok loaded =>
      cases startEq : KnownCoder.start .knownTerms loaded vocabularies with
      | error error => simp [loadEq, startEq] at ran
      | ok known =>
          simp only [loadEq, startEq] at ran ⊢
          refine ⟨loaded, known, rfl, startEq, ?_⟩
          cases due : isSaveDue config known with
          | false =>
              simp only [due, Bool.false_eq_true, if_false] at ran ⊢
              exact ⟨ran, .untouched due⟩
          | true =>
              simp only [due, if_true] at ran ⊢
              rcases saveEq : store.saveBy service known.dictionary with ⟨_ | ⟨⟩, next⟩
              · simp [saveEq] at ran
              · simp only [saveEq] at ran ⊢
                exact ⟨ran, .saved due saveEq⟩

end ChainStart

end Termbase
