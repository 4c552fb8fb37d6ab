import Termbase.Proofs.Coder.Namespaces
import Termbase.Proofs.CoderChain.RoundTrip

/-! Writing again what was read. Whichever code an identifier had, a started chain gives it the one code that it
prefers for it, reads that code as the same identifier, and leaves it as it is from then on. -/

namespace Termbase

section Readable

variable {validate : Iri → Except IriError Unit} {iri : Iri} {code : Code}

theorem Coder.valid_of_validated {spelled : Iri} (passed : validated validate spelled = .ok iri) :
    validate iri = .ok () := by
  obtain rfl := validated_eq_ok passed
  unfold validated at passed
  split at passed
  next valid => exact valid
  next => cases passed

theorem Coder.readable_of_decodeWith {coder : Coder} (decoded : coder.decodeWith validate code = .ok iri) :
    coder.Lists iri ∨ validate iri = .ok () := by
  obtain ⟨_, _, read⟩ := bind_eq_ok_iff.mp decoded
  cases coder with
  | known terms =>
      left
      dsimp only at read
      cases found : terms.dictionary.iri? code with
      | none => rw [found] at read; cases read
      | some known =>
          rw [found] at read
          cases read
          exact Dictionary.contains_iff_code?.mpr ⟨code, Dictionary.iri?_eq_some_iff_code?.mp found⟩
  | fixed spaces =>
      obtain ⟨_, _, passed⟩ := bind_eq_ok_iff.mp read
      exact Or.inr (valid_of_validated passed)
  | wholeText id =>
      obtain ⟨_, _, passed⟩ := bind_eq_ok_iff.mp read
      exact Or.inr (valid_of_validated passed)

end Readable

namespace CoderChain

def recodeWith (validate : Iri → Except IriError Unit) (chain : CoderChain) (code : Code) :
    Except CoderError Code := do
  chain.encode (← chain.decodeWith validate code)

/-- The code of an identifier in a started chain: the one in the dictionary, or else that of the first namespace
which ends where the identifier is cut, or else its whole text. -/
inductive Preferred (terms : Dictionary) (namespaces : List Namespace) (iri : Iri) : Code → Prop
  | known {code : Code} : terms.code? iri = some code → Preferred terms namespaces iri code
  | fixed {index : Nat} : terms.contains iri = false →
      FixedCoder.IsFirstPlace namespaces (splitIri iri).1 index →
      Preferred terms namespaces iri (.make .fixedNamespaces .iri (FixedCoder.payload index (splitIri iri).2))
  | wholeText : terms.contains iri = false → (splitIri iri).1 ∉ namespaces.map (·.iri) →
      Preferred terms namespaces iri (.make .wholeText .iri (Utf8.encode iri))

variable {chain : CoderChain} {validate : Iri → Except IriError Unit} {iri : Iri} {code : Code}

theorem exists_coder_of_decodeWith (decoded : chain.decodeWith validate code = .ok iri) :
    ∃ coder ∈ chain.coders, coder.decodeWith validate code = .ok iri := by
  unfold decodeWith at decoded
  split at decoded
  next => cases decoded
  next =>
    split at decoded
    next coder found => exact ⟨coder, List.mem_of_getElem? found, decoded⟩
    next => cases decoded

section Started

variable {known : KnownCoder} {fixed : FixedCoder}

theorem exists_preferred (coders : chain.coders = [.known known, .fixed fixed, .wholeText .wholeText])
    (fixedId : fixed.id = .fixedNamespaces) (iri : Iri) :
    ∃ code, chain.encode iri = .ok code ∧ Preferred known.dictionary fixed.namespaces iri code := by
  simp only [encode, coders, List.findSome?_cons, Coder.encode?, KnownCoder.encode?]
  cases term : known.dictionary.code? iri with
  | some code => exact ⟨code, rfl, .known term⟩
  | none =>
      have unknown : known.dictionary.contains iri = false := by
        rw [← Dictionary.isSome_code?, term]
        rfl
      simp only [FixedCoder.encode?]
      cases place : fixed.index? (splitIri iri).1 with
      | some index =>
          refine ⟨_, rfl, ?_⟩
          rw [fixedId]
          exact .fixed unknown (FixedCoder.index?_eq_some_iff_isFirstPlace.mp place)
      | none =>
          refine ⟨_, rfl, .wholeText unknown ?_⟩
          rw [← FixedCoder.exists_isFirstPlace_iff]
          rintro ⟨index, first⟩
          rw [FixedCoder.index?_eq_some_iff_isFirstPlace.mpr first] at place
          cases place

theorem known_or_valid_of_decodeWith
    (coders : chain.coders = [.known known, .fixed fixed, .wholeText .wholeText])
    (decoded : chain.decodeWith validate code = .ok iri) :
    known.dictionary.contains iri = true ∨ validate iri = .ok () := by
  obtain ⟨coder, member, read⟩ := exists_coder_of_decodeWith decoded
  rcases Coder.readable_of_decodeWith read with listed | valid
  · rw [coders] at member
    simp only [List.mem_cons, List.not_mem_nil, or_false] at member
    rcases member with rfl | rfl | rfl
    · exact Or.inl listed
    · cases listed
    · cases listed
  · exact Or.inr valid

theorem decodeWith_encode_of_decodeWith (built : chain.Built)
    (coders : chain.coders = [.known known, .fixed fixed, .wholeText .wholeText])
    (decoded : chain.decodeWith validate code = .ok iri) {canonical : Code}
    (written : chain.encode iri = .ok canonical) : chain.decodeWith validate canonical = .ok iri := by
  obtain ⟨coder, accepted, encoded⟩ := encode_eq_ok_iff.mp written
  refine decodeWith_encode_listed built (accepting?_mem accepted) encoded ?_
  rcases known_or_valid_of_decodeWith coders decoded with contained | valid
  · obtain ⟨term, found⟩ := Dictionary.contains_iff_code?.mp contained
    have first : chain.accepting? iri = some (.known known) := by
      simp [accepting?, coders, Coder.encode?, KnownCoder.encode?, found]
    rw [first] at accepted
    cases accepted
    exact Or.inl contained
  · exact Or.inr valid

end Started

theorem recodeWith_eq_ok_iff {canonical : Code} : chain.recodeWith validate code = .ok canonical ↔
    ∃ iri, chain.decodeWith validate code = .ok iri ∧ chain.encode iri = .ok canonical :=
  bind_eq_ok_iff

structure Recodes (validate : Iri → Except IriError Unit) (chain : CoderChain) (code : Code) (iri : Iri)
    (canonical : Code) : Prop where
  recoded : chain.recodeWith validate code = .ok canonical
  read : chain.decodeWith validate canonical = .ok iri
  settled : chain.recodeWith validate canonical = .ok canonical

theorem recode_all
    (each : ∀ code iri, chain.decodeWith validate code = .ok iri →
      ∃ canonical, chain.Recodes validate code iri canonical)
    {codes : List Code} {iris : List Iri} (read : codes.mapM (chain.decodeWith validate) = .ok iris) :
    ∃ canonicals, codes.mapM (chain.recodeWith validate) = .ok canonicals ∧
      canonicals.mapM (chain.decodeWith validate) = .ok iris ∧
      canonicals.mapM (chain.recodeWith validate) = .ok canonicals := by
  induction codes generalizing iris with
  | nil => exact ⟨[], rfl, read, rfl⟩
  | cons code codes ih =>
      obtain ⟨iri, rest, decoded, readRest, rfl⟩ := mapM_cons_eq_ok_iff.mp read
      obtain ⟨canonical, recodes⟩ := each code iri decoded
      obtain ⟨canonicals, recoded, readAgain, settled⟩ := ih readRest
      exact ⟨canonical :: canonicals, mapM_cons_eq_ok_iff.mpr ⟨_, _, recodes.recoded, recoded, rfl⟩,
        mapM_cons_eq_ok_iff.mpr ⟨_, _, recodes.read, readAgain, rfl⟩,
        mapM_cons_eq_ok_iff.mpr ⟨_, _, recodes.settled, settled, rfl⟩⟩

/-- Whatever code a started chain reads, the identifier has the code that the chain prefers, which is read as the
same identifier and does not change again. So a store that is read and written again code by code keeps all its
identifiers, and a second time changes nothing. What counts as valid is open. -/
theorem recoding_is_canonical {service : FileTree.WriteService} {vocabularies : List Vocabulary} {config : Config}
    {store : Store} {chain : CoderChain}
    (ran : (ChainStart.runWith service vocabularies config store).chain = .ok chain)
    (validate : Iri → Except IriError Unit) :
    ∃ loaded known, store.load = .ok loaded ∧ KnownCoder.start .knownTerms loaded vocabularies = .ok known ∧
      (∀ code iri, chain.decodeWith validate code = .ok iri → ∃ canonical, chain.encode iri = .ok canonical ∧
        Preferred known.dictionary config.fixedNamespaces iri canonical ∧
        chain.Recodes validate code iri canonical) ∧
      (∀ (codes : List Code) (iris : List Iri), codes.mapM (chain.decodeWith validate) = .ok iris →
        ∃ canonicals, codes.mapM (chain.recodeWith validate) = .ok canonicals ∧
          canonicals.mapM (chain.decodeWith validate) = .ok iris ∧
          canonicals.mapM (chain.recodeWith validate) = .ok canonicals) := by
  have built := built_of_runWith ran
  obtain ⟨loaded, known, read, started, around, _⟩ := ChainStart.runWith_ok ran
  obtain ⟨fixed, made, coders⟩ := ChainStart.coders_of_chainAround around
  obtain ⟨fixedId, fixedNamespaces⟩ := FixedCoder.make_eq_ok_iff.mp made
  have each (code : Code) (iri : Iri) (decoded : chain.decodeWith validate code = .ok iri) :
      ∃ canonical, chain.encode iri = .ok canonical ∧
        Preferred known.dictionary config.fixedNamespaces iri canonical ∧
        chain.Recodes validate code iri canonical := by
    obtain ⟨canonical, written, preferred⟩ := exists_preferred coders fixedId iri
    rw [fixedNamespaces] at preferred
    have readAgain := decodeWith_encode_of_decodeWith built coders decoded written
    exact ⟨canonical, written, preferred, recodeWith_eq_ok_iff.mpr ⟨iri, decoded, written⟩, readAgain,
      recodeWith_eq_ok_iff.mpr ⟨iri, readAgain, written⟩⟩
  refine ⟨loaded, known, read, started, each, ?_⟩
  intro codes iris readAll
  apply recode_all _ readAll
  intro code iri decoded
  obtain ⟨canonical, _, _, recodes⟩ := each code iri decoded
  exact ⟨canonical, recodes⟩

def strayTerm : Dictionary := ⟨[(['x'], ⟨1, [0, 0, 7]⟩)], by decide, by decide⟩

def strayVocabularies : List Vocabulary := [⟨[], [], [], false, [⟨[], ['u', ':', 'k']⟩]⟩]

def strayConfig : Config := ⟨[⟨[], ['u', ':']⟩, ⟨['x'], ['u', ':']⟩], false⟩

/-- The known term as whole text and with the highest bit, the second place of a namespace, a local name in which
the identifier is cut, and the identifier that is none. -/
def strayCodes : List Code := [⟨137, [117, 58, 107]⟩, ⟨5, [1, 97]⟩, ⟨5, [0, 97, 58, 98]⟩, ⟨1, [0, 0, 7]⟩]

theorem stray_codes_are_recoded :
    ∃ chain, (ChainStart.runWith .smooth strayVocabularies strayConfig (.memory strayTerm 0)).chain = .ok chain ∧
      strayCodes.mapM chain.decode =
        .ok [['u', ':', 'k'], ['u', ':', 'a'], ['u', ':', 'a', ':', 'b'], ['x']] ∧
      strayCodes.mapM (chain.recodeWith Iri.checkAbsolute) =
        .ok [⟨1, [0, 0, 8]⟩, ⟨5, [0, 97]⟩, ⟨9, [117, 58, 97, 58, 98]⟩, ⟨1, [0, 0, 7]⟩] ∧
      [⟨1, [0, 0, 8]⟩, ⟨5, [0, 97]⟩, ⟨9, [117, 58, 97, 58, 98]⟩, ⟨1, [0, 0, 7]⟩].mapM chain.decode =
        .ok [['u', ':', 'k'], ['u', ':', 'a'], ['u', ':', 'a', ':', 'b'], ['x']] := by
  obtain ⟨chain, ran, decoded, recoded⟩ :
      ∃ chain, (ChainStart.runWith .smooth strayVocabularies strayConfig (.memory strayTerm 0)).chain = .ok chain ∧
        strayCodes.mapM chain.decode =
          .ok [['u', ':', 'k'], ['u', ':', 'a'], ['u', ':', 'a', ':', 'b'], ['x']] ∧
        strayCodes.mapM (chain.recodeWith Iri.checkAbsolute) =
          .ok [⟨1, [0, 0, 8]⟩, ⟨5, [0, 97]⟩, ⟨9, [117, 58, 97, 58, 98]⟩, ⟨1, [0, 0, 7]⟩] :=
    ⟨_, rfl, ok_of_toOption (by decide +kernel), ok_of_toOption (by decide +kernel)⟩
  obtain ⟨_, _, _, _, _, all⟩ := recoding_is_canonical ran Iri.checkAbsolute
  obtain ⟨canonicals, again, read, _⟩ := all strayCodes _ decoded
  rw [recoded] at again
  cases again
  exact ⟨chain, ran, decoded, recoded, read⟩

end CoderChain

end Termbase
