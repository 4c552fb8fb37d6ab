import Termbase.Proofs.CoderChain.RoundTrip
import Termbase.Proofs.Store

/-! Codes are stable over restarts. Every start on a store, saved or not, completes the dictionary that the
store holds to the same pairs, and namespaces that are appended leave the places of the others as they were. -/

namespace Termbase.ChainStart

variable {service : FileTree.WriteService} {vocabularies : List Vocabulary} {config : Config} {store next : Store}
  {chain : CoderChain} {completed : Dictionary} {namespaces : List Namespace}

/-- Successful starts on one store, one after the other, where each configuration appends namespaces to those
before it. -/
inductive History (vocabularies : List Vocabulary) : List Namespace → Store → List CoderChain → Prop
  | nil {namespaces : List Namespace} {store : Store} : History vocabularies namespaces store []
  | cons {namespaces : List Namespace} {service : FileTree.WriteService} {config : Config} {store next : Store}
      {chain : CoderChain} {later : List CoderChain} :
      namespaces <+: config.fixedNamespaces → runWith service vocabularies config store = ⟨.ok chain, next⟩ →
      History vocabularies config.fixedNamespaces next later →
      History vocabularies namespaces store (chain :: later)

def CompletedTo (vocabularies : List Vocabulary) (completed : Dictionary) (store : Store) : Prop :=
  ∀ loaded, store.load = .ok loaded →
    ∃ known, KnownCoder.start .knownTerms loaded vocabularies = .ok known ∧
      known.dictionary.Same completed

structure Stage (completed : Dictionary) (namespaces : List Namespace) (chain : CoderChain) : Prop where
  built : chain.Built
  coders : ∃ known fixed, chain.coders = [.known known, .fixed fixed, .wholeText .wholeText] ∧
    known.dictionary.Same completed ∧ fixed.id = .fixedNamespaces ∧ fixed.namespaces = namespaces

theorem completedTo_of_load {loaded : Dictionary} {known : KnownCoder} (read : store.load = .ok loaded)
    (started : KnownCoder.start .knownTerms loaded vocabularies = .ok known) :
    CompletedTo vocabularies known.dictionary store := by
  intro again readAgain
  rw [read] at readAgain
  cases readAgain
  exact ⟨known, started, Dictionary.Same.refl _⟩

theorem CompletedTo.runWith (holds : CompletedTo vocabularies completed store)
    (ran : runWith service vocabularies config store = ⟨.ok chain, next⟩) :
    CompletedTo vocabularies completed next ∧ Stage completed config.fixedNamespaces chain := by
  have chainEq : (ChainStart.runWith service vocabularies config store).chain = .ok chain := by rw [ran]
  obtain ⟨loaded, known, read, started, around, kept⟩ := runWith_ok chainEq
  rw [ran] at kept
  obtain ⟨known', started', same⟩ := holds loaded read
  rw [started] at started'
  cases started'
  constructor
  · cases kept with
    | untouched => exact holds
    | saved _ saved =>
        intro restored readBack
        have restoredSame := Store.load_of_saveBy saved readBack
        obtain ⟨idle, startedIdle, unchanged, _⟩ := KnownCoder.start_idle started restoredSame
        exact ⟨idle, startedIdle, by rw [unchanged]; exact restoredSame.trans same⟩
  · obtain ⟨fixed, made, ofCoders⟩ := chainAround_eq_ok around
    obtain ⟨fixedId, fixedNamespaces⟩ := FixedCoder.make_eq_ok_iff.mp made
    exact ⟨CoderChain.built_of_runWith chainEq,
      known, fixed, CoderChain.coders_of_ofCoders ofCoders, same, fixedId, fixedNamespaces⟩

theorem encode?_of_prefix {first last : FixedCoder} (sameId : first.id = last.id)
    (appended : first.namespaces <+: last.namespaces) {iri : Iri} {code : Code}
    (encoded : first.encode? iri = some code) : last.encode? iri = some code := by
  obtain ⟨index, found, rfl⟩ := FixedCoder.encode?_eq_some_iff.mp encoded
  rw [FixedCoder.encode?_eq_some_iff]
  exact ⟨index, appended.findIdx?_eq_some found, by rw [sameId]⟩

section Later

variable {earlierSpaces laterSpaces : List Namespace} {first last : CoderChain} {iri : Iri} {code : Code}

theorem Stage.rewritten (earlier : Stage completed earlierSpaces first)
    (later : Stage completed laterSpaces last) (appended : earlierSpaces <+: laterSpaces) {coder : Coder}
    (member : coder ∈ first.coders) (encoded : coder.encode? iri = some code) :
    ∃ other ∈ last.coders, other.encode? iri = some code := by
  obtain ⟨firstKnown, firstFixed, firstCoders, firstSame, firstId, firstSpaces⟩ := earlier.coders
  obtain ⟨lastKnown, lastFixed, lastCoders, lastSame, lastId, lastSpaces⟩ := later.coders
  rw [firstCoders] at member
  rw [lastCoders]
  simp only [List.mem_cons, List.not_mem_nil, or_false] at member
  rcases member with rfl | rfl | rfl
  · refine ⟨.known lastKnown, by simp, ?_⟩
    rw [← encoded]
    exact (lastSame.trans firstSame.symm).code? iri
  · refine ⟨.fixed lastFixed, by simp, ?_⟩
    exact encode?_of_prefix (by rw [firstId, lastId]) (by rw [firstSpaces, lastSpaces]; exact appended) encoded
  · exact ⟨.wholeText .wholeText, by simp, encoded⟩

theorem Stage.decode (earlier : Stage completed earlierSpaces first)
    (later : Stage completed laterSpaces last) (appended : earlierSpaces <+: laterSpaces)
    (valid : Iri.checkAbsolute iri = .ok ()) (written : first.encode iri = .ok code) :
    last.decode code = .ok iri := by
  obtain ⟨coder, accepted, encoded⟩ := CoderChain.encode_eq_ok_iff.mp written
  obtain ⟨other, member, same⟩ :=
    earlier.rewritten later appended (CoderChain.accepting?_mem accepted) encoded
  exact CoderChain.decodeWith_encode_listed later.built member same (Or.inr valid)

theorem Stage.encode (earlier : Stage completed earlierSpaces first)
    (later : Stage completed laterSpaces last) (appended : earlierSpaces <+: laterSpaces) {coder : Coder}
    (accepted : first.accepting? iri = some coder)
    (listed : coder.id = .knownTerms ∨ coder.id = .fixedNamespaces)
    (written : first.encode iri = .ok code) : last.encode iri = .ok code := by
  obtain ⟨firstKnown, firstFixed, firstCoders, firstSame, firstId, firstSpaces⟩ := earlier.coders
  obtain ⟨lastKnown, lastFixed, lastCoders, lastSame, lastId, lastSpaces⟩ := later.coders
  have terms : lastKnown.encode? iri = firstKnown.encode? iri :=
    (lastSame.trans firstSame.symm).code? iri
  simp only [CoderChain.accepting?, firstCoders, List.find?_cons, Coder.encode?] at accepted
  simp only [CoderChain.encode, firstCoders, List.findSome?_cons, Coder.encode?] at written
  simp only [CoderChain.encode, lastCoders, List.findSome?_cons, Coder.encode?, terms]
  cases known : firstKnown.encode? iri with
  | some found =>
      simp only [known] at written ⊢
      exact written
  | none =>
      cases fixed : firstFixed.encode? iri with
      | some found =>
          have again : lastFixed.encode? iri = some found :=
            encode?_of_prefix (by rw [firstId, lastId]) (by rw [firstSpaces, lastSpaces]; exact appended) fixed
          simp only [known, fixed, again] at written ⊢
          exact written
      | none =>
          simp only [known, fixed, Option.isSome_none, Option.isSome_some] at accepted
          cases accepted
          rcases listed with isKnown | isFixed
          · cases isKnown
          · cases isFixed

end Later

theorem History.settles {chains : List CoderChain} (history : History vocabularies namespaces store chains)
    (started : chains ≠ []) : ∃ completed, CompletedTo vocabularies completed store := by
  cases history with
  | nil => exact absurd rfl started
  | @cons _ service config _ _ _ _ _ ran _ =>
      have chainEq : (runWith service vocabularies config store).chain = .ok _ := congrArg Outcome.chain ran
      obtain ⟨loaded, known, read, startedKnown, _, _⟩ := runWith_ok chainEq
      exact ⟨known.dictionary, completedTo_of_load read startedKnown⟩

theorem History.stages {chains : List CoderChain} (history : History vocabularies namespaces store chains)
    (holds : CompletedTo vocabularies completed store) :
    (∀ chain ∈ chains, ∃ spaces, namespaces <+: spaces ∧ Stage completed spaces chain) ∧
      chains.Pairwise fun first last => ∃ earlierSpaces laterSpaces, earlierSpaces <+: laterSpaces ∧
        Stage completed earlierSpaces first ∧ Stage completed laterSpaces last := by
  induction history with
  | nil => exact ⟨by simp, List.Pairwise.nil⟩
  | @cons _ _ config _ _ _ _ appended ran _ ih =>
      obtain ⟨holdsNext, stage⟩ := holds.runWith ran
      obtain ⟨each, pairs⟩ := ih holdsNext
      constructor
      · rw [List.forall_mem_cons]
        refine ⟨⟨config.fixedNamespaces, appended, stage⟩, ?_⟩
        intro chain member
        obtain ⟨spaces, further, stageLater⟩ := each chain member
        exact ⟨spaces, appended.trans further, stageLater⟩
      · rw [List.pairwise_cons]
        refine ⟨?_, pairs⟩
        intro last member
        obtain ⟨spaces, further, stageLater⟩ := each last member
        exact ⟨config.fixedNamespaces, spaces, further, stage, stageLater⟩

/-- In a history of starts, every chain and all later ones read a code of a valid identifier as that
identifier, and what was not written as whole text gets the same code ever after. -/
theorem codes_survive_restarts (vocabularies : List Vocabulary) (store : Store) (chains : List CoderChain)
    (history : History vocabularies [] store chains) (earlier later : Nat) (order : earlier ≤ later)
    (first last : CoderChain) (atEarlier : chains[earlier]? = some first)
    (atLater : chains[later]? = some last) :
    (∀ iri code, Iri.checkAbsolute iri = .ok () → first.encode iri = .ok code →
      last.decode code = .ok iri) ∧
    (∀ iri code coder, first.accepting? iri = some coder →
      coder.id = .knownTerms ∨ coder.id = .fixedNamespaces → first.encode iri = .ok code →
      last.encode iri = .ok code) := by
  obtain ⟨completed, holds⟩ := history.settles (List.ne_nil_of_mem (List.mem_of_getElem? atEarlier))
  obtain ⟨each, pairs⟩ := history.stages holds
  obtain ⟨earlierSpaces, laterSpaces, appended, firstStage, lastStage⟩ :
      ∃ earlierSpaces laterSpaces, earlierSpaces <+: laterSpaces ∧
        Stage completed earlierSpaces first ∧ Stage completed laterSpaces last := by
    rcases Nat.lt_or_eq_of_le order with before | same
    · obtain ⟨inside, rfl⟩ := List.getElem?_eq_some_iff.mp atEarlier
      obtain ⟨insideLater, rfl⟩ := List.getElem?_eq_some_iff.mp atLater
      exact List.pairwise_iff_getElem.mp pairs earlier later inside insideLater before
    · subst same
      rw [atEarlier] at atLater
      cases atLater
      obtain ⟨spaces, _, stage⟩ := each first (List.mem_of_getElem? atEarlier)
      exact ⟨spaces, spaces, List.prefix_refl spaces, stage, stage⟩
  constructor
  · intro iri code valid written
    exact firstStage.decode lastStage appended valid written
  · intro iri code coder accepted listed written
    exact firstStage.encode lastStage appended accepted listed written

def oneTerm : List Vocabulary := [⟨[], [], [], false, [⟨[], ['u', ':', 'k']⟩]⟩]

theorem unsaved_start_is_repeated :
    ∃ first second, History oneTerm [] (.memory .empty 0) [first, second] ∧
      first.encode ['u', ':', 'k'] = .ok ⟨1, [0, 0, 1]⟩ ∧
      second.decode ⟨1, [0, 0, 1]⟩ = .ok ['u', ':', 'k'] ∧
      first.encode ['a', ':', 'b'] = .ok ⟨5, [0, 98]⟩ ∧
      second.encode ['a', ':', 'b'] = .ok ⟨5, [0, 98]⟩ := by
  obtain ⟨first, next, second, last, coder, ranFirst, ranSecond, term, other, accepted, owner⟩ :
      ∃ first next second last coder,
        runWith .smooth oneTerm ⟨[⟨[], ['a', ':']⟩], false⟩ (.memory .empty 0) = ⟨.ok first, next⟩ ∧
        runWith .smooth oneTerm ⟨[⟨[], ['a', ':']⟩, ⟨['x'], ['a', ':']⟩], true⟩ next = ⟨.ok second, last⟩ ∧
        first.encode ['u', ':', 'k'] = .ok ⟨1, [0, 0, 1]⟩ ∧
        first.encode ['a', ':', 'b'] = .ok ⟨5, [0, 98]⟩ ∧
        first.accepting? ['a', ':', 'b'] = some coder ∧ coder.id = .fixedNamespaces :=
    ⟨_, _, _, _, _, rfl, rfl, rfl, rfl, rfl, rfl⟩
  have appended : [⟨[], ['a', ':']⟩] <+: [⟨[], ['a', ':']⟩, Namespace.mk ['x'] ['a', ':']] := by decide
  have history : History oneTerm [] (.memory .empty 0) [first, second] :=
    .cons List.nil_prefix ranFirst (.cons appended ranSecond .nil)
  obtain ⟨reads, writes⟩ :=
    codes_survive_restarts oneTerm _ _ history 0 1 (by decide) first second rfl rfl
  have valid : Iri.checkAbsolute ['u', ':', 'k'] = .ok () := rfl
  exact ⟨first, second, history, term, reads _ _ valid term, other,
    writes _ _ coder accepted (Or.inr owner) other⟩

end Termbase.ChainStart
