import Termbase.Proofs.Code.Header
import Termbase.Proofs.Coder.RoundTrip
import Termbase.Proofs.Steps

/-! Which codes a coder would write itself, among all that it reads. A code of a known term is always its own.
The other kinds look neither at the highest bit of a header nor at the place where an identifier is cut. -/

namespace Termbase

theorem ValueType.ofHeader_eq_iri_iff {header : UInt8} :
    ValueType.ofHeader header = .iri ↔ header.toNat % 4 = 1 := by
  have small : header.toNat % 4 < 4 := Nat.mod_lt _ (by decide)
  unfold ValueType.ofHeader
  generalize header.toNat % 4 = low at small ⊢
  match low, small with
  | 0, _ | 1, _ | 2, _ | 3, _ => simp

/-- Of the two headers with the same coder and kind of value, a coder writes the lower one. -/
theorem CoderId.eq_header_iff {coder : CoderId} {header : UInt8} (type : ValueType.ofHeader header = .iri)
    (owner : CoderId.ofHeader header = coder) : header = coder.header .iri ↔ header.toNat < 128 := by
  have low := ValueType.ofHeader_eq_iri_iff.mp type
  have high : header.toNat / 4 % 32 = coder.number := congrArg CoderId.number owner
  rw [← UInt8.toNat_inj, coder.toNat_header]
  have bound := header.toNat_lt
  simp only [ValueType.number]
  omega

theorem Code.eq_make_iff {coder : CoderId} {code : Code} {payload : List UInt8} (type : code.type = .iri)
    (owner : code.coder = coder) :
    code = .make coder .iri payload ↔ code.header.toNat < 128 ∧ code.payload = payload := by
  obtain ⟨header, octets⟩ := code
  rw [← CoderId.eq_header_iff type owner]
  simp [Code.make]

def Code.flipped (code : Code) : Code := ⟨code.header + 128, code.payload⟩

namespace Code

theorem toNat_flipped (code : Code) : code.flipped.header.toNat = (code.header.toNat + 128) % 256 := by
  simp [flipped, UInt8.toNat_add]

theorem flipped_ne (code : Code) : code.flipped ≠ code := by
  intro same
  have bound := code.header.toNat_lt
  have headers := congrArg (fun code : Code => code.header.toNat) same
  simp only [toNat_flipped] at headers
  omega

theorem type_flipped_eq_iri_iff {code : Code} : code.flipped.type = .iri ↔ code.type = .iri := by
  rw [type, type, ValueType.ofHeader_eq_iri_iff, ValueType.ofHeader_eq_iri_iff, toNat_flipped]
  omega

theorem coder_flipped (code : Code) : code.flipped.coder = code.coder := by
  have number : (code.header.toNat + 128) % 256 / 4 % 32 = code.header.toNat / 4 % 32 := by omega
  simp only [coder, CoderId.ofHeader, toNat_flipped, number]

end Code

namespace FixedCoder

/-- The namespace is the first in the list with its text, and the identifier is cut right after it. -/
def CutsAs (coder : FixedCoder) (code : Code) : Prop :=
  ∃ index space localName, code.payload = payload index localName ∧
    coder.namespaces[index]? = some space ∧
    (∀ earlier < index, ∀ other, coder.namespaces[earlier]? = some other → other.iri ≠ space.iri) ∧
    splitIri (space.iri ++ localName) = (space.iri, localName)

variable {coder : FixedCoder} {code : Code} {iri : Iri}

theorem index?_eq_some_iff {index : Nat} :
    coder.index? iri = some index ↔ ∃ space, coder.namespaces[index]? = some space ∧ space.iri = iri ∧
      ∀ earlier < index, ∀ other, coder.namespaces[earlier]? = some other → other.iri ≠ iri := by
  simp only [index?, List.findIdx?_eq_some_iff_getElem, beq_iff_eq]
  constructor
  · rintro ⟨inside, same, first⟩
    refine ⟨_, List.getElem?_eq_getElem inside, same, ?_⟩
    intro earlier before other found
    obtain ⟨_, rfl⟩ := List.getElem?_eq_some_iff.mp found
    exact first earlier before
  · rintro ⟨space, found, same, first⟩
    obtain ⟨inside, rfl⟩ := List.getElem?_eq_some_iff.mp found
    exact ⟨inside, same, fun earlier before =>
      first earlier before _ (List.getElem?_eq_getElem (Nat.lt_trans before inside))⟩

theorem lt_of_getElem? {index : Nat} {space : Namespace} (found : coder.namespaces[index]? = some space) :
    index < 256 := by
  obtain ⟨inside, _⟩ := List.getElem?_eq_some_iff.mp found
  exact Nat.lt_of_lt_of_le inside coder.bounded

theorem payload_inj {left right : Nat} {leftName rightName : Text} (leftBound : left < 256)
    (rightBound : right < 256) :
    payload left leftName = payload right rightName ↔ left = right ∧ leftName = rightName := by
  constructor
  · intro same
    obtain ⟨first, rest⟩ := List.cons.inj same
    have octets := congrArg UInt8.toNat first
    rw [Utf8.toNat_ofNat leftBound, Utf8.toNat_ofNat rightBound] at octets
    exact ⟨octets, Utf8.encode_injective rest⟩
  · rintro ⟨rfl, rfl⟩
    rfl

theorem readPayload_eq_ok_iff : coder.readPayload code = .ok iri ↔
    ∃ index space localName, code.payload = payload index localName ∧
      coder.namespaces[index]? = some space ∧ iri = space.iri ++ localName := by
  constructor
  · intro read
    unfold readPayload at read
    split at read
    next => cases read
    next index octets parts =>
      split at read
      next => cases read
      next space found =>
        cases decoded : Utf8.decode octets with
        | error error => rw [decoded] at read; cases read
        | ok localName =>
            rw [decoded] at read
            cases read
            refine ⟨index.toNat, space, localName, ?_, found, rfl⟩
            rw [parts, payload, UInt8.ofNat_toNat, Utf8.encode_of_decode decoded]
  · rintro ⟨index, space, localName, parts, found, rfl⟩
    have octet : (UInt8.ofNat index).toNat = index := Utf8.toNat_ofNat (lt_of_getElem? found)
    simp only [readPayload, parts, payload, octet, found, Utf8.decode_encode]

theorem encode?_eq_some_iff_cutsAs (type : code.type = .iri) (owner : code.coder = coder.id)
    (read : coder.readPayload code = .ok iri) :
    coder.encode? iri = some code ↔ code.header.toNat < 128 ∧ coder.CutsAs code := by
  obtain ⟨index, space, localName, parts, found, rfl⟩ := readPayload_eq_ok_iff.mp read
  have bound := lt_of_getElem? found
  simp only [encode?_eq_some_iff, Code.eq_make_iff type owner]
  constructor
  · rintro ⟨first, indexed, header, same⟩
    have indexBound := index?_lt indexed
    rw [parts, payload_inj bound indexBound] at same
    obtain ⟨rfl, rest⟩ := same
    have joined := splitIri_append (space.iri ++ localName)
    rw [← rest, List.append_cancel_right_eq] at joined
    obtain ⟨_, _, _, earliest⟩ := index?_eq_some_iff.mp indexed
    rw [joined] at earliest
    exact ⟨header, index, space, localName, parts, found, earliest, Prod.ext joined rest.symm⟩
  · rintro ⟨header, index', space', localName', parts', found', earliest, cut⟩
    rw [parts, payload_inj bound (lt_of_getElem? found')] at parts'
    obtain ⟨rfl, rfl⟩ := parts'
    rw [found] at found'
    cases found'
    refine ⟨index, index?_eq_some_iff.mpr ?_, header, ?_⟩
    · rw [cut]
      exact ⟨space, found, rfl, earliest⟩
    · rw [cut, parts]

end FixedCoder

namespace Coder

def Canonical : Coder → Code → Prop
  | .known _, _ => True
  | .fixed spaces, code => code.header.toNat < 128 ∧ spaces.CutsAs code
  | .wholeText _, code => code.header.toNat < 128

def IsKnown : Coder → Prop
  | .known _ => True
  | .fixed _ | .wholeText _ => False

section Decode

variable {validate : Iri → Except IriError Unit} {coder : Coder} {code : Code} {iri : Iri}

theorem checkOwner_eq_ok_iff : coder.checkOwner code = .ok () ↔ code.type = .iri ∧ code.coder = coder.id := by
  unfold checkOwner
  by_cases type : code.type = .iri
  · by_cases owner : code.coder = coder.id
    · simp [type, owner]
    · simp [type, owner]
  · simp [type]

theorem owner_of_decodeWith (decoded : coder.decodeWith validate code = .ok iri) :
    code.type = .iri ∧ code.coder = coder.id := by
  obtain ⟨_, checked, _⟩ := bind_eq_ok_iff.mp decoded
  exact checkOwner_eq_ok_iff.mp checked

theorem validated_eq_ok {valid : Iri} (passed : validated validate valid = .ok iri) : valid = iri := by
  unfold validated at passed
  split at passed
  next => exact Except.ok.inj passed
  next => cases passed

theorem encode?_eq_some_iff_canonical (decoded : coder.decodeWith validate code = .ok iri) :
    coder.encode? iri = some code ↔ coder.Canonical code := by
  obtain ⟨type, owner⟩ := owner_of_decodeWith decoded
  obtain ⟨_, _, read⟩ := bind_eq_ok_iff.mp decoded
  cases coder with
  | known terms =>
      simp only [Canonical, iff_true]
      dsimp only at read
      cases found : terms.dictionary.iri? code with
      | none => rw [found] at read; cases read
      | some known =>
          rw [found] at read
          cases read
          exact Dictionary.iri?_eq_some_iff_code?.mp found
  | fixed spaces =>
      obtain ⟨spelled, payload, passed⟩ := bind_eq_ok_iff.mp read
      obtain rfl := validated_eq_ok passed
      exact FixedCoder.encode?_eq_some_iff_cutsAs type owner payload
  | wholeText id =>
      obtain ⟨spelled, payload, passed⟩ := bind_eq_ok_iff.mp read
      obtain rfl := validated_eq_ok passed
      have octets : Utf8.encode spelled = code.payload := by
        unfold readWholeText at payload
        cases decodedText : Utf8.decode code.payload with
        | error error => rw [decodedText] at payload; cases payload
        | ok text =>
            rw [decodedText] at payload
            cases payload
            exact Utf8.encode_of_decode decodedText
      have made : code = .make id .iri code.payload ↔ code.header.toNat < 128 ∧ code.payload = code.payload :=
        Code.eq_make_iff type owner
      simp only [encode?, octets, Option.some.injEq, Canonical]
      rw [eq_comm, made]
      exact and_iff_left rfl

theorem decodeWith_flipped (unknown : ¬ coder.IsKnown) (decoded : coder.decodeWith validate code = .ok iri) :
    coder.decodeWith validate code.flipped = .ok iri := by
  obtain ⟨type, owner⟩ := owner_of_decodeWith decoded
  have checked : coder.checkOwner code.flipped = .ok () :=
    checkOwner_eq_ok_iff.mpr ⟨Code.type_flipped_eq_iri_iff.mpr type, code.coder_flipped.trans owner⟩
  obtain ⟨_, _, read⟩ := bind_eq_ok_iff.mp decoded
  refine bind_eq_ok_iff.mpr ⟨(), checked, ?_⟩
  cases coder with
  | known terms => exact absurd trivial unknown
  | fixed spaces =>
      obtain ⟨spelled, payload, passed⟩ := bind_eq_ok_iff.mp read
      have same : spaces.readPayload code.flipped = .ok spelled := by
        rw [FixedCoder.readPayload_eq_ok_iff] at payload ⊢
        exact payload
      exact bind_eq_ok_iff.mpr ⟨spelled, same, passed⟩
  | wholeText id => exact read

/-- A coder would write what it has read as the same code exactly if the code is canonical, so no two canonical
codes stand for one identifier. For a known term every code is; a code of another kind always has a twin that
is read alike. -/
theorem written_again_iff_canonical (validate : Iri → Except IriError Unit) (coder : Coder) (code : Code)
    (iri : Iri) (decoded : coder.decodeWith validate code = .ok iri) :
    (coder.encode? iri = some code ↔ coder.Canonical code) ∧
    (∀ other, coder.decodeWith validate other = .ok iri → coder.Canonical code → coder.Canonical other →
      other = code) ∧
    (coder.IsKnown → coder.encode? iri = some code) ∧
    (¬ coder.IsKnown → ∃ other ≠ code, coder.decodeWith validate other = .ok iri) := by
  refine ⟨encode?_eq_some_iff_canonical decoded, ?_, ?_, ?_⟩
  · intro other otherDecoded canonical otherCanonical
    have first := (encode?_eq_some_iff_canonical decoded).mpr canonical
    have second := (encode?_eq_some_iff_canonical otherDecoded).mpr otherCanonical
    exact Option.some.inj (second.symm.trans first)
  · intro known
    apply (encode?_eq_some_iff_canonical decoded).mpr
    cases coder with
    | known => trivial
    | fixed => cases known
    | wholeText => cases known
  · intro unknown
    exact ⟨code.flipped, code.flipped_ne, decodeWith_flipped unknown decoded⟩

theorem whole_text_written_again :
    (Coder.wholeText ⟨2, by decide⟩).decode ⟨9, [97, 58]⟩ = .ok ['a', ':'] ∧
      (Coder.wholeText ⟨2, by decide⟩).encode? ['a', ':'] = some ⟨9, [97, 58]⟩ := by
  have decoded : (Coder.wholeText ⟨2, by decide⟩).decode ⟨9, [97, 58]⟩ = .ok ['a', ':'] :=
    ok_of_toOption (by decide)
  have canonical : (Coder.wholeText ⟨2, by decide⟩).Canonical ⟨9, [97, 58]⟩ := by
    show (9 : UInt8).toNat < 128
    decide
  exact ⟨decoded, (written_again_iff_canonical _ _ _ _ decoded).1.mpr canonical⟩

def sameTwice : List Namespace := [⟨[], ['u', ':']⟩, ⟨['x'], ['u', ':']⟩]

theorem length_sameTwice : sameTwice.length ≤ 256 := by decide

def repeatedNamespace : Coder := .fixed ⟨.ofHeader 5, sameTwice, length_sameTwice⟩

/-- The highest bit of a header, the second place of a namespace, and a local name in which the identifier
would be cut: all three are read, and none is what the coder writes. -/
theorem strangers_are_read :
    ((Coder.wholeText ⟨2, by decide⟩).decode ⟨137, [97, 58]⟩ = .ok ['a', ':'] ∧
      (Coder.wholeText ⟨2, by decide⟩).encode? ['a', ':'] ≠ some ⟨137, [97, 58]⟩) ∧
    (repeatedNamespace.decode ⟨5, [1, 97]⟩ = .ok ['u', ':', 'a'] ∧
      repeatedNamespace.encode? ['u', ':', 'a'] = some ⟨5, [0, 97]⟩) ∧
    (repeatedNamespace.decode ⟨5, [0, 97, 58, 98]⟩ = .ok ['u', ':', 'a', ':', 'b'] ∧
      repeatedNamespace.encode? ['u', ':', 'a', ':', 'b'] = none) := by
  refine ⟨⟨ok_of_toOption ?_, ?_⟩, ⟨ok_of_toOption ?_, ?_⟩, ok_of_toOption ?_, ?_⟩ <;> decide

end Decode

end Coder

end Termbase
