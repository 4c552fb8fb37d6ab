import Termbase.Proofs.ChainStart.Outcome

/-! A chain reads back what it writes. The header leads a code to the coder that wrote it, whichever place
that coder has, so two identifiers never share a code. -/

namespace Termbase.CoderChain

def Built (chain : CoderChain) : Prop :=
  ∃ coders, (∀ coder ∈ coders, coder.Built) ∧ ofCoders coders = .ok chain

def accepting? (chain : CoderChain) (iri : Iri) : Option Coder :=
  chain.coders.find? fun coder => (coder.encode? iri).isSome

theorem Built.coder_built {chain : CoderChain} (built : chain.Built) {coder : Coder}
    (member : coder ∈ chain.coders) : coder.Built := by
  obtain ⟨coders, allBuilt, made⟩ := built
  rw [coders_of_ofCoders made] at member
  exact allBuilt coder member

theorem getElem?_number {chain : CoderChain} {coder : Coder} (member : coder ∈ chain.coders) :
    chain.coders[coder.id.number]? = some coder := by
  obtain ⟨position, inside, rfl⟩ := List.mem_iff_getElem.mp member
  rw [chain.placed position inside]
  exact List.getElem?_eq_getElem inside

theorem encode_eq_ok_iff {chain : CoderChain} {iri : Iri} {code : Code} :
    chain.encode iri = .ok code ↔
      ∃ coder, chain.accepting? iri = some coder ∧ coder.encode? iri = some code := by
  have found (coders : List Coder) : coders.findSome? (·.encode? iri) = some code ↔
      ∃ coder, coders.find? (fun coder => (coder.encode? iri).isSome) = some coder ∧
        coder.encode? iri = some code := by
    induction coders with
    | nil => simp
    | cons coder coders ih =>
        cases accepted : coder.encode? iri with
        | none => simp [accepted, ih]
        | some written => simp [accepted]
  unfold encode accepting?
  rw [← found]
  cases chain.coders.findSome? (·.encode? iri) <;> simp

theorem decodeWith_encode? {chain : CoderChain} (built : chain.Built)
    (validate : Iri → Except IriError Unit) {coder : Coder} (member : coder ∈ chain.coders) {iri : Iri}
    {code : Code} (encoded : coder.encode? iri = some code) :
    chain.decodeWith validate code = coder.decodeWith validate code := by
  obtain ⟨type, owner⟩ := Coder.owner_of_encode? (built.coder_built member) encoded
  have place : chain.coders[code.coder.number]? = some coder := by
    rw [owner]
    exact getElem?_number member
  simp [decodeWith, type, place]

theorem accepting?_mem {chain : CoderChain} {iri : Iri} {coder : Coder}
    (accepted : chain.accepting? iri = some coder) : coder ∈ chain.coders :=
  List.mem_of_find?_eq_some accepted

theorem decodeWith_encode_listed {chain : CoderChain} (built : chain.Built)
    {validate : Iri → Except IriError Unit} {coder : Coder} {iri : Iri} {code : Code}
    (member : coder ∈ chain.coders) (encoded : coder.encode? iri = some code)
    (readable : coder.Lists iri ∨ validate iri = .ok ()) : chain.decodeWith validate code = .ok iri := by
  have coderBuilt := built.coder_built member
  rw [decodeWith_encode? built validate member encoded]
  by_cases listed : coder.Lists iri
  · exact Coder.decodeWith_of_lists coderBuilt encoded listed
  · have valid := readable.resolve_left listed
    rw [Coder.decodeWith_of_not_lists coderBuilt encoded listed]
    simp [Coder.validated, valid]

theorem decodeWith_encode_invalid {chain : CoderChain} (built : chain.Built)
    {validate : Iri → Except IriError Unit} {coder : Coder} {iri : Iri} {code : Code}
    (member : coder ∈ chain.coders) (encoded : coder.encode? iri = some code)
    (unlisted : ¬ coder.Lists iri) {error : IriError} (invalid : validate iri = .error error) :
    chain.decodeWith validate code = .error (.invalidIri error) := by
  rw [decodeWith_encode? built validate member encoded,
    Coder.decodeWith_of_not_lists (built.coder_built member) encoded unlisted]
  simp [Coder.validated, invalid]

/-- If nothing were invalid, every code would be read back; so no two identifiers share one. -/
theorem encode_injective {chain : CoderChain} (built : chain.Built) {left right : Iri} {code : Code}
    (leftCode : chain.encode left = .ok code) (rightCode : chain.encode right = .ok code) :
    left = right := by
  have readBack {iri : Iri} (written : chain.encode iri = .ok code) :
      chain.decodeWith (fun _ => .ok ()) code = .ok iri := by
    obtain ⟨coder, accepted, encoded⟩ := encode_eq_ok_iff.mp written
    exact decodeWith_encode_listed built (accepting?_mem accepted) encoded (Or.inr rfl)
  have same : (Except.ok left : Except CoderError Iri) = .ok right := by
    rw [← readBack leftCode, readBack rightCode]
  exact Except.ok.inj same

theorem built_of_runWith {service : FileTree.WriteService} {vocabularies : List Vocabulary} {config : Config}
    {store : Store} {chain : CoderChain}
    (ran : (ChainStart.runWith service vocabularies config store).chain = .ok chain) : chain.Built := by
  obtain ⟨loaded, known, _, started, around, _⟩ := ChainStart.runWith_ok ran
  obtain ⟨fixed, made, ofCoders⟩ := ChainStart.chainAround_eq_ok around
  refine ⟨_, ?_, ofCoders⟩
  simp only [List.forall_mem_cons, List.not_mem_nil, false_implies, implies_true, and_true]
  exact ⟨.known started, .fixed made, .wholeText _⟩

/-- What a chain writes it reads as the same identifier, or refuses as invalid; and it writes different codes
for different identifiers. What counts as valid is open. -/
theorem decodeWith_encode_faithful (chain : CoderChain)
    (origin : chain.Built ∨ ∃ service vocabularies config store,
      (ChainStart.runWith service vocabularies config store).chain = .ok chain)
    (validate : Iri → Except IriError Unit) :
    (∀ iri code, chain.encode iri = .ok code →
      ∃ coder, chain.accepting? iri = some coder ∧
        (coder.Lists iri ∨ validate iri = .ok () → chain.decodeWith validate code = .ok iri) ∧
        (¬ coder.Lists iri → ∀ error, validate iri = .error error →
          chain.decodeWith validate code = .error (.invalidIri error))) ∧
    (∀ left right leftCode rightCode, left ≠ right → chain.encode left = .ok leftCode →
      chain.encode right = .ok rightCode → leftCode ≠ rightCode) := by
  have built : chain.Built := by
    rcases origin with built | ⟨service, vocabularies, config, store, ran⟩
    · exact built
    · exact built_of_runWith ran
  constructor
  · intro iri code written
    obtain ⟨coder, accepted, encoded⟩ := encode_eq_ok_iff.mp written
    have member := accepting?_mem accepted
    exact ⟨coder, accepted, decodeWith_encode_listed built member encoded,
      fun unlisted error invalid => decodeWith_encode_invalid built member encoded unlisted invalid⟩
  · intro left right leftCode rightCode different leftWritten rightWritten same
    subst same
    exact different (encode_injective built leftWritten rightWritten)

theorem repeated_namespace_round_trip :
    ∃ chain, ofCoders [.fixed ⟨⟨0, by decide⟩, [⟨[], ['a', ':']⟩, ⟨['x'], ['a', ':']⟩], by decide⟩,
        .wholeText ⟨1, by decide⟩] = .ok chain ∧
      chain.encode ['a', ':', 'b'] = .ok ⟨1, [0, 98]⟩ ∧
      chain.decodeWith (fun _ => .ok ()) ⟨1, [0, 98]⟩ = .ok ['a', ':', 'b'] ∧
      chain.encode ['b', ':'] = .ok ⟨5, [98, 58]⟩ ∧
      chain.decodeWith (fun _ => .error .noScheme) ⟨5, [98, 58]⟩ = .error (.invalidIri .noScheme) := by
  obtain ⟨chain, made, first, second⟩ :
      ∃ chain, ofCoders [.fixed ⟨⟨0, by decide⟩, [⟨[], ['a', ':']⟩, ⟨['x'], ['a', ':']⟩], by decide⟩,
          .wholeText ⟨1, by decide⟩] = .ok chain ∧
        chain.encode ['a', ':', 'b'] = .ok ⟨1, [0, 98]⟩ ∧
        chain.encode ['b', ':'] = .ok ⟨5, [98, 58]⟩ := ⟨_, rfl, rfl, rfl⟩
  have built : chain.Built := by
    refine ⟨_, ?_, made⟩
    simp only [List.forall_mem_cons, List.not_mem_nil, false_implies, implies_true, and_true]
    exact ⟨.fixed (FixedCoder.make_eq_ok_iff.mpr ⟨rfl, rfl⟩), .wholeText _⟩
  obtain ⟨_, _, readable, _⟩ :=
    (decodeWith_encode_faithful chain (Or.inl built) fun _ => .ok ()).1 _ _ first
  obtain ⟨coder, accepted, _, refused⟩ :=
    (decodeWith_encode_faithful chain (Or.inl built) fun _ => .error .noScheme).1 _ _ second
  have unlisted : ¬ coder.Lists ['b', ':'] := by
    have member := accepting?_mem accepted
    rw [coders_of_ofCoders made] at member
    simp only [List.mem_cons, List.not_mem_nil, or_false] at member
    rcases member with rfl | rfl <;> exact fun listed => listed
  exact ⟨chain, made, first, readable (Or.inr rfl), second, refused unlisted _ rfl⟩

end Termbase.CoderChain
