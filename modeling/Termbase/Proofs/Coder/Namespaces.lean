import Termbase.Proofs.Coder.Canonical

/-! Which identifiers a configured namespace catches: those that are cut right behind its text. A namespace whose
own text would be cut elsewhere, or which repeats one before it, catches none. -/

namespace Termbase.FixedCoder

structure IsFirstPlace (namespaces : List Namespace) (start : Iri) (index : Nat) : Prop where
  here : ∃ space, namespaces[index]? = some space ∧ space.iri = start
  first : ∀ earlier < index, ∀ other, namespaces[earlier]? = some other → other.iri ≠ start

section Places

variable {coder : FixedCoder} {iri start : Iri} {code : Code} {index : Nat}

theorem index?_eq_some_iff_isFirstPlace :
    coder.index? start = some index ↔ IsFirstPlace coder.namespaces start index := by
  rw [index?_eq_some_iff]
  constructor
  · rintro ⟨space, found, same, first⟩
    exact ⟨⟨space, found, same⟩, first⟩
  · rintro ⟨⟨space, found, same⟩, first⟩
    exact ⟨space, found, same, first⟩

theorem IsFirstPlace.lt (place : IsFirstPlace coder.namespaces start index) : index < 256 := by
  obtain ⟨⟨_, found, _⟩, _⟩ := place
  exact lt_of_getElem? found

theorem exists_isFirstPlace_iff :
    (∃ index, IsFirstPlace coder.namespaces start index) ↔ start ∈ coder.namespaces.map (·.iri) := by
  simp only [← index?_eq_some_iff_isFirstPlace, ← Option.isSome_iff_exists, index?, List.findIdx?_isSome,
    List.any_eq_true, beq_iff_eq, List.mem_map]

theorem encode?_eq_some_iff_isCut :
    coder.encode? iri = some code ↔ ∃ start localName index, start ++ localName = iri ∧
      IsCut start localName ∧ IsFirstPlace coder.namespaces start index ∧
      code = .make coder.id .iri (payload index localName) := by
  rw [encode?_eq_some_iff]
  simp only [index?_eq_some_iff_isFirstPlace]
  constructor
  · rintro ⟨index, place, rfl⟩
    obtain ⟨joined, cut⟩ := isCut_splitIri iri
    exact ⟨_, _, index, joined, cut, place, rfl⟩
  · rintro ⟨start, localName, index, rfl, cut, place, rfl⟩
    rw [cut.splitIri_eq]
    exact ⟨index, place, rfl⟩

theorem isSome_encode?_iff : (coder.encode? iri).isSome = true ↔ ∃ start localName,
    start ++ localName = iri ∧ IsCut start localName ∧ start ∈ coder.namespaces.map (·.iri) := by
  simp only [Option.isSome_iff_exists, encode?_eq_some_iff_isCut, ← exists_isFirstPlace_iff]
  constructor
  · rintro ⟨_, start, localName, index, joined, cut, place, _⟩
    exact ⟨start, localName, joined, cut, index, place⟩
  · rintro ⟨start, localName, joined, cut, index, place⟩
    exact ⟨_, start, localName, index, joined, cut, place, rfl⟩

def Produces (coder : FixedCoder) (index : Nat) : Prop :=
  ∃ iri code, coder.encode? iri = some code ∧ code.payload.head? = some (UInt8.ofNat index)

theorem produces_iff {space : Namespace} (found : coder.namespaces[index]? = some space) :
    coder.Produces index ↔
      IsFirstPlace coder.namespaces space.iri index ∧ splitIri space.iri = (space.iri, []) := by
  constructor
  · rintro ⟨iri, code, encoded, head⟩
    obtain ⟨start, localName, written, _, cut, place, rfl⟩ := encode?_eq_some_iff_isCut.mp encoded
    have same : written = index := by
      have octets := congrArg UInt8.toNat (Option.some.inj head)
      rwa [Utf8.toNat_ofNat place.lt, Utf8.toNat_ofNat (lt_of_getElem? found)] at octets
    subst same
    obtain ⟨other, atPlace, rfl⟩ := place.here
    rw [found] at atPlace
    cases atPlace
    exact ⟨place, splitIri_eq_iff.mpr ⟨List.append_nil _, cut.alone⟩⟩
  · rintro ⟨place, alone⟩
    have encoded : coder.encode? space.iri = some (.make coder.id .iri (payload index [])) :=
      encode?_eq_some_iff_isCut.mpr
        ⟨space.iri, [], index, List.append_nil _, (splitIri_eq_iff.mp alone).2, place, rfl⟩
    exact ⟨space.iri, _, encoded, rfl⟩

end Places

/-- An identifier is written exactly if what stands before its cut is the text of a namespace in the list; the
code has the first place of that text and the rest of the identifier. So the place of a namespace comes up
exactly if it is the first with its text and the text is cut at its own end; and then the local names that go
with it are those that leave the cut where it is. -/
theorem namespace_catches {id : CoderId} {namespaces : List Namespace} {coder : FixedCoder}
    (made : make id namespaces = .ok coder) :
    (∀ iri, (coder.encode? iri).isSome = true ↔ ∃ start localName, start ++ localName = iri ∧
      IsCut start localName ∧ ∃ space ∈ namespaces, space.iri = start) ∧
    (∀ iri code, coder.encode? iri = some code ↔ ∃ start localName index, start ++ localName = iri ∧
      IsCut start localName ∧ IsFirstPlace namespaces start index ∧ index < 256 ∧
      code = .make id .iri (UInt8.ofNat index :: Utf8.encode localName)) ∧
    (∀ index space, namespaces[index]? = some space →
      (coder.Produces index ↔ IsFirstPlace namespaces space.iri index ∧
        splitIri space.iri = (space.iri, []))) ∧
    (∀ space ∈ namespaces, splitIri space.iri = (space.iri, []) → ∀ localName,
      splitIri (space.iri ++ localName) = (space.iri, localName) ↔ FitsBehind space.iri localName) := by
  obtain ⟨rfl, rfl⟩ := make_eq_ok_iff.mp made
  refine ⟨?_, ?_, ?_, ?_⟩
  · intro iri
    rw [isSome_encode?_iff]
    simp only [List.mem_map]
  · intro iri code
    rw [encode?_eq_some_iff_isCut]
    constructor
    · rintro ⟨start, localName, index, joined, cut, place, rfl⟩
      exact ⟨start, localName, index, joined, cut, place, place.lt, rfl⟩
    · rintro ⟨start, localName, index, joined, cut, place, _, rfl⟩
      exact ⟨start, localName, index, joined, cut, place, rfl⟩
  · intro index space found
    exact produces_iff found
  · intro space _ alone localName
    exact splitIri_append_iff alone

def unevenNamespaces : List Namespace :=
  [⟨[], ['u', ':']⟩, ⟨['x'], ['u', ':']⟩, ⟨['y'], ['u', ':', '#', 'n']⟩]

theorem uneven_namespaces_catch :
    ∃ coder, make .fixedNamespaces unevenNamespaces = .ok coder ∧
      coder.encode? ['u', ':', 'ä'] = some ⟨5, [0, 195, 164]⟩ ∧
      coder.Produces 0 ∧ ¬ coder.Produces 1 ∧ ¬ coder.Produces 2 ∧
      splitIri ['u', ':', 'ä'] = (['u', ':'], ['ä']) ∧
      splitIri ['u', ':', 'a', ':', 'b'] ≠ (['u', ':'], ['a', ':', 'b']) := by
  obtain ⟨coder, made⟩ : ∃ coder, make .fixedNamespaces unevenNamespaces = .ok coder := ⟨_, rfl⟩
  obtain ⟨_, writes, produces, fits⟩ := namespace_catches made
  have first : IsFirstPlace unevenNamespaces ['u', ':'] 0 := ⟨⟨_, rfl, rfl⟩, nofun⟩
  have alone : splitIri ['u', ':'] = (['u', ':'], []) := by decide
  have fitting : FitsBehind ['u', ':'] ['ä'] := ⟨by decide, by decide, by decide, by decide⟩
  have split := (fits ⟨[], ['u', ':']⟩ (by decide) alone ['ä']).mpr fitting
  refine ⟨coder, made, ?_, ?_, ?_, ?_, split, ?_⟩
  · exact (writes _ _).mpr ⟨_, _, 0, rfl, (splitIri_eq_iff.mp split).2, first, by decide, rfl⟩
  · exact (produces 0 ⟨[], ['u', ':']⟩ rfl).mpr ⟨first, alone⟩
  · intro produced
    obtain ⟨again, _⟩ := (produces 1 ⟨['x'], ['u', ':']⟩ rfl).mp produced
    exact again.first 0 (by decide) _ rfl rfl
  · intro produced
    obtain ⟨_, whole⟩ := (produces 2 ⟨['y'], ['u', ':', '#', 'n']⟩ rfl).mp produced
    exact absurd whole (by decide)
  · intro cut
    have behind := (fits ⟨[], ['u', ':']⟩ (by decide) alone _).mp cut
    exact absurd (behind.colon (by decide)) (by decide)

end Termbase.FixedCoder
