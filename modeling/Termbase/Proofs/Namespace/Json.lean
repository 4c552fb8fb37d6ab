import Termbase.Namespace.Json
import Termbase.Proofs.Json.Compact
import Termbase.Proofs.Json.Invariants

/-! A namespace is read back from its JSON form, and only valid namespaces are read from any JSON. -/

namespace Termbase.Namespace

open Json

def IsValid (space : Namespace) : Prop := Iri.checkReference space.iri = .ok ()

theorem make_eq_ok_iff {label iri : Text} {space : Namespace} :
    make label iri = .ok space ↔ space = ⟨label, iri⟩ ∧ space.IsValid := by
  simp only [make, bind_eq_ok_iff, pure, Except.pure, Except.ok.injEq, IsValid]
  constructor
  · rintro ⟨_, checked, rfl⟩
    exact ⟨rfl, checked⟩
  · rintro ⟨rfl, checked⟩
    exact ⟨(), checked, rfl⟩

section Written

variable {space : Namespace}

def jsonTokens (space : Namespace) : List Token :=
  pairTokens labelKey [.string space.label] iriKey [.string space.iri]

theorem spells_toJson (space : Namespace) : Spells space.toJson space.jsonTokens :=
  Spells.pair labelKey iriKey (.string space.label) (.string space.iri)

theorem readIri_string {iri : Text} (checked : Iri.checkReference iri = .ok ()) (rest : List Token) :
    readIri (.string iri :: rest) = .ok (iri, rest) := by
  simp only [readIri, readString, checked, bind, Except.bind]
  rfl

theorem read_jsonTokens (valid : space.IsValid) (rest : List Token) :
    read (space.jsonTokens ++ rest) = .ok (space, rest) := by
  have takesLabel (more : List Token) :
      readField ⟨none, none⟩ labelKey (.colon :: [.string space.label] ++ more) =
        .ok (⟨some space.label, none⟩, more) := rfl
  have takesIri (more : List Token) :
      readField ⟨some space.label, none⟩ iriKey (.colon :: [.string space.iri] ++ more) =
        .ok (⟨some space.label, some space.iri⟩, more) := by
    have other : iriKey ≠ labelKey := by decide
    simp only [readField, other, if_false, if_true, readMember, List.cons_append, List.nil_append, expectColon,
      bind, Except.bind, readIri_string valid]
    rfl
  have body := readObjectBody_pair takesLabel takesIri rest
  simp only [jsonTokens, pairTokens, List.cons_append, List.append_assoc, List.nil_append, read, body, bind,
    Except.bind]
  rfl

end Written

section Invariants

theorem yields_readIri : Yields readIri fun iri => Iri.checkReference iri = .ok () := by
  intro tokens iri rest done
  obtain ⟨⟨text, behind⟩, _, checked⟩ := bind_eq_ok_iff.mp done
  dsimp only at checked
  split at checked
  next isOk =>
    cases checked
    cases outcome : Iri.checkReference iri with
    | ok => rfl
    | error => simp [outcome, Except.isOk, Except.toBool] at isOk
  next => cases checked

def HasValidIri (fields : Fields) : Prop := ∀ iri, fields.iri = some iri → Iri.checkReference iri = .ok ()

theorem keeps_readField : Keeps readField HasValidIri := by
  intro fields key valid tokens next rest done
  unfold readField at done
  split at done
  next =>
    split at done
    next => cases done
    next =>
      obtain ⟨⟨label, behind⟩, _, same⟩ := bind_eq_ok_iff.mp done
      cases same
      exact valid
  next =>
    split at done
    next =>
      split at done
      next => cases done
      next =>
        obtain ⟨⟨iri, _⟩, iriRead, same⟩ := bind_eq_ok_iff.mp done
        cases same
        rintro _ ⟨⟩
        exact yields_readIri.member _ _ _ iriRead
    next => exact yields_passMember HasValidIri valid _ next rest done

theorem yields_readPart {α : Type} {read : Reader α} {fits : α → Prop} (yields : Yields read fits)
    (first : Bool) : Yields (readPart first read) fits := by
  intro tokens value rest done
  unfold readPart at done
  split at done
  next => cases done
  next =>
    split at done
    next => exact yields _ value rest done
    next =>
      split at done
      next => exact yields _ value rest done
      next => cases done

theorem yields_read : Yields read IsValid := by
  intro tokens space rest done
  unfold read at done
  split at done
  next body =>
    obtain ⟨⟨fields, behind⟩, fieldsRead, complete⟩ := bind_eq_ok_iff.mp done
    have valid := keeps_readField.objectBody (fun _ absent => by cases absent) _ fields behind fieldsRead
    dsimp only at complete
    split at complete
    next label iri =>
      cases complete
      exact valid iri rfl
    next => cases complete
  next body =>
    obtain ⟨⟨label, behind⟩, _, onward⟩ := bind_eq_ok_iff.mp done
    obtain ⟨⟨iri, left⟩, iriRead, ended⟩ := bind_eq_ok_iff.mp onward
    obtain ⟨last, _, same⟩ := bind_eq_ok_iff.mp ended
    cases same
    exact yields_readPart yields_readIri false behind iri left iriRead
  next => cases done

end Invariants

end Termbase.Namespace
