import Termbase.Coder
import Termbase.Proofs.Coder.Growth
import Termbase.Proofs.Iri.Split
import Termbase.Proofs.Text.Utf8

/-! Each coder reads its own codes back, up to the validity of what a payload spells. -/

namespace Termbase

namespace FixedCoder

theorem make_eq_ok_iff {id : CoderId} {namespaces : List Namespace} {coder : FixedCoder} :
    make id namespaces = .ok coder ↔ coder.id = id ∧ coder.namespaces = namespaces := by
  obtain ⟨coderId, coderNamespaces, bounded⟩ := coder
  constructor
  · intro made
    unfold make at made
    split at made
    next => cases made; exact ⟨rfl, rfl⟩
    next => cases made
  · rintro ⟨rfl, rfl⟩
    simp [make, bounded]

theorem index?_eq_some {coder : FixedCoder} {iri : Iri} {index : Nat}
    (found : coder.index? iri = some index) :
    ∃ space, coder.namespaces[index]? = some space ∧ space.iri = iri := by
  obtain ⟨inside, same, _⟩ := List.findIdx?_eq_some_iff_getElem.mp found
  exact ⟨coder.namespaces[index], List.getElem?_eq_getElem inside, by simpa using same⟩

theorem index?_lt {coder : FixedCoder} {iri : Iri} {index : Nat}
    (found : coder.index? iri = some index) : index < 256 := by
  obtain ⟨inside, _⟩ := List.findIdx?_eq_some_iff_getElem.mp found
  exact Nat.lt_of_lt_of_le inside coder.bounded

theorem encode?_eq_some_iff {coder : FixedCoder} {iri : Iri} {code : Code} :
    coder.encode? iri = some code ↔ ∃ index, coder.index? (splitIri iri).1 = some index ∧
      code = .make coder.id .iri (payload index (splitIri iri).2) := by
  unfold encode?
  cases coder.index? (splitIri iri).1 with
  | none => simp
  | some index => simp [eq_comm]

theorem readPayload_encode? {coder : FixedCoder} {iri : Iri} {code : Code}
    (encoded : coder.encode? iri = some code) : coder.readPayload code = .ok iri := by
  obtain ⟨index, found, rfl⟩ := encode?_eq_some_iff.mp encoded
  obtain ⟨space, atIndex, spaceIri⟩ := index?_eq_some found
  have octet : (UInt8.ofNat index).toNat = index := UInt8.toNat_ofNat_of_lt (index?_lt found)
  simp only [readPayload, Code.payload_make, payload, octet, atIndex, Utf8.decode_encode, spaceIri,
    splitIri_append]

end FixedCoder

namespace Coder

/-- How a coder comes about: by a start on a loaded dictionary, from a list of namespaces, or without any
state. -/
inductive Built : Coder → Prop
  | known {id : CoderId} {loaded : Dictionary} {vocabularies : List Vocabulary} {coder : KnownCoder} :
      KnownCoder.start id loaded vocabularies = .ok coder → Built (.known coder)
  | fixed {id : CoderId} {namespaces : List Namespace} {coder : FixedCoder} :
      FixedCoder.make id namespaces = .ok coder → Built (.fixed coder)
  | wholeText (id : CoderId) : Built (.wholeText id)

def Lists : Coder → Iri → Prop
  | .known coder, iri => coder.dictionary.contains iri = true
  | .fixed _, _ => False
  | .wholeText _, _ => False

theorem owner_of_encode? {coder : Coder} (built : coder.Built) {iri : Iri} {code : Code}
    (encoded : coder.encode? iri = some code) : code.type = .iri ∧ code.coder = coder.id := by
  cases built with
  | known started =>
      obtain ⟨owned, _, grown⟩ := KnownCoder.start_eq_ok_iff.mp started
      have member := Dictionary.code?_eq_some_iff.mp encoded
      obtain ⟨counter, _, rfl⟩ :=
        KnownCoder.mayOwn_iff.mp ((KnownCoder.start_counted started).owned _ member)
      simp [KnownCoder.codeOf, Coder.id, grown.owner]
  | fixed =>
      obtain ⟨index, _, rfl⟩ := FixedCoder.encode?_eq_some_iff.mp encoded
      simp [Coder.id]
  | wholeText id =>
      cases encoded
      simp [Coder.id]

theorem checkOwner_eq_ok {coder : Coder} {code : Code} (type : code.type = .iri)
    (owner : code.coder = coder.id) : coder.checkOwner code = .ok () := by
  simp [checkOwner, type, owner]

variable {validate : Iri → Except IriError Unit} {coder : Coder} {iri : Iri} {code : Code}

theorem decodeWith_of_lists (built : coder.Built) (encoded : coder.encode? iri = some code)
    (listed : coder.Lists iri) : coder.decodeWith validate code = .ok iri := by
  obtain ⟨type, owner⟩ := owner_of_encode? built encoded
  cases coder with
  | known terms =>
      have known : terms.dictionary.iri? code = some iri :=
        Dictionary.iri?_eq_some_iff_code?.mpr encoded
      simp only [decodeWith, checkOwner_eq_ok type owner, known]
      rfl
  | fixed => cases listed
  | wholeText => cases listed

theorem decodeWith_of_not_lists (built : coder.Built) (encoded : coder.encode? iri = some code)
    (unlisted : ¬ coder.Lists iri) : coder.decodeWith validate code = validated validate iri := by
  obtain ⟨type, owner⟩ := owner_of_encode? built encoded
  cases coder with
  | known terms =>
      exact absurd (Dictionary.contains_iff_code?.mpr ⟨code, encoded⟩) unlisted
  | fixed spaces =>
      simp only [decodeWith, checkOwner_eq_ok type owner, FixedCoder.readPayload_encode? encoded]
      rfl
  | wholeText id =>
      cases encoded
      simp only [decodeWith, checkOwner_eq_ok type owner, readWholeText, Code.payload_make,
        Utf8.decode_encode]
      rfl

end Coder

end Termbase
