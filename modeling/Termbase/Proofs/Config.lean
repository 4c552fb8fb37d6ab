import Termbase.Config
import Termbase.Proofs.Namespace.Json

/-! A configuration survives its JSON form: what is written is read back, with the namespaces in their places, and
nothing is read whose namespaces could not have been made. -/

namespace Termbase.Config

open Json

section Written

variable {config : Config}

def namespacesTokens (spaces : List Namespace) : List Token :=
  .openBracket :: (separated (spaces.map Namespace.jsonTokens) ++ [.closeBracket])

def jsonTokens (config : Config) : List Token :=
  pairTokens namespacesKey (namespacesTokens config.fixedNamespaces) saveKey [.bool config.saveOnChanges]

theorem spells_toJson (config : Config) : Spells config.toJson config.jsonTokens :=
  Spells.pair namespacesKey saveKey (.array Namespace.spells_toJson config.fixedNamespaces)
    (.bool config.saveOnChanges)

theorem readArray_namespacesTokens {spaces : List Namespace} (valid : ∀ space ∈ spaces, space.IsValid)
    (rest : List Token) :
    readArray Namespace.read (namespacesTokens spaces ++ rest) = .ok (spaces, rest) := by
  have begins : ∀ space ∈ spaces, ∃ token tail, space.jsonTokens = token :: tail ∧ token ≠ .closeBracket :=
    fun _ _ => ⟨_, _, rfl, nofun⟩
  have each : ∀ space ∈ spaces, ∀ rest, Namespace.read (space.jsonTokens ++ rest) = .ok (space, rest) :=
    fun space member => Namespace.read_jsonTokens (valid space member)
  have whole := readArray_separated spaces begins each rest
  simpa [namespacesTokens] using whole

theorem read_jsonTokens (valid : ∀ space ∈ config.fixedNamespaces, space.IsValid) (rest : List Token) :
    read (config.jsonTokens ++ rest) = .ok (config, rest) := by
  have takesNamespaces (more : List Token) :
      readField ⟨none, none⟩ namespacesKey (.colon :: namespacesTokens config.fixedNamespaces ++ more) =
        .ok (⟨some config.fixedNamespaces, none⟩, more) := by
    simp only [readField, if_true, readMember, List.cons_append, expectColon, bind, Except.bind,
      readArray_namespacesTokens valid]
    rfl
  have takesSave (more : List Token) :
      readField ⟨some config.fixedNamespaces, none⟩ saveKey (.colon :: [.bool config.saveOnChanges] ++ more) =
        .ok (⟨some config.fixedNamespaces, some config.saveOnChanges⟩, more) := by
    have other : saveKey ≠ namespacesKey := by decide
    simp only [readField, other, if_false, if_true]
    rfl
  have body := readObjectBody_pair takesNamespaces takesSave rest
  simp only [jsonTokens, pairTokens, List.cons_append, List.append_assoc, List.nil_append, read, body, bind,
    Except.bind]
  rfl

theorem ofJson_toJson (valid : ∀ space ∈ config.fixedNamespaces, space.IsValid) :
    ofJson config.toJson = .ok config := by
  apply readText_of_tokens
  rw [(spells_toJson config).tokens_eq, ← read_jsonTokens valid [], List.append_nil]

end Written

section Invariants

def HasValidNamespaces (fields : Fields) : Prop :=
  ∀ spaces, fields.fixedNamespaces = some spaces → ∀ space ∈ spaces, space.IsValid

theorem keeps_readField : Keeps readField HasValidNamespaces := by
  intro fields key valid tokens next rest done
  unfold readField at done
  split at done
  next =>
    split at done
    next => cases done
    next =>
      obtain ⟨⟨spaces, _⟩, spacesRead, same⟩ := bind_eq_ok_iff.mp done
      cases same
      rintro _ ⟨⟩
      exact Namespace.yields_read.array.member _ _ _ spacesRead
  next =>
    split at done
    next =>
      split at done
      next => cases done
      next =>
        obtain ⟨⟨save, _⟩, _, same⟩ := bind_eq_ok_iff.mp done
        cases same
        exact valid
    next => exact yields_passMember HasValidNamespaces valid _ next rest done

theorem namespaces_of_readSecond {spaces : List Namespace} {tokens rest : List Token} {config : Config}
    (done : readSecond spaces tokens = .ok (config, rest)) : config.fixedNamespaces = spaces := by
  unfold readSecond at done
  split at done
  next =>
    cases done
    rfl
  next =>
    obtain ⟨⟨save, _⟩, _, ended⟩ := bind_eq_ok_iff.mp done
    obtain ⟨last, _, same⟩ := bind_eq_ok_iff.mp ended
    cases same
    rfl
  next => cases done

theorem yields_read : Yields read fun config => ∀ space ∈ config.fixedNamespaces, space.IsValid := by
  intro tokens config rest done
  unfold read at done
  split at done
  next =>
    obtain ⟨⟨fields, _⟩, fieldsRead, same⟩ := bind_eq_ok_iff.mp done
    cases same
    have valid := keeps_readField.objectBody (fun _ absent => by cases absent) _ fields _ fieldsRead
    cases held : fields.fixedNamespaces with
    | none => simp [Fields.toConfig, held]
    | some spaces => simpa [Fields.toConfig, held] using valid spaces held
  next =>
    cases done
    exact fun _ member => absurd member List.not_mem_nil
  next =>
    obtain ⟨⟨spaces, behind⟩, spacesRead, onward⟩ := bind_eq_ok_iff.mp done
    rw [namespaces_of_readSecond onward]
    exact Namespace.yields_read.array _ spaces behind spacesRead
  next => cases done

end Invariants

/-- A configuration whose namespaces were made is read back from its JSON form as it was, each namespace in its place;
and whatever text is read as a configuration, its namespaces can be made. -/
theorem survives_json :
    (∀ config : Config, (∀ space ∈ config.fixedNamespaces, ∃ label iri, Namespace.make label iri = .ok space) →
      ofJson config.toJson = .ok config) ∧
    (∀ text config, ofJson text = .ok config →
      ∀ space ∈ config.fixedNamespaces, Namespace.make space.label space.iri = .ok space) := by
  constructor
  · intro config made
    apply ofJson_toJson
    intro space member
    obtain ⟨label, iri, done⟩ := made space member
    exact (Namespace.make_eq_ok_iff.mp done).2
  · intro text config done space member
    exact Namespace.make_eq_ok_iff.mpr ⟨rfl, yields_read.text done space member⟩

def oddConfig : Config :=
  ⟨[⟨['"', '\\', '\n', '\x01', '😀'], []⟩, ⟨[], ['a', '/', '#']⟩, ⟨[], ['a', '/', '#']⟩], true⟩

theorem odd_labels_survive : ofJson oddConfig.toJson = .ok oddConfig ∧
    ∀ space ∈ oddConfig.fixedNamespaces, Namespace.make space.label space.iri = .ok space := by
  have made : ∀ space ∈ oddConfig.fixedNamespaces, ∃ label iri, Namespace.make label iri = .ok space := by
    intro space member
    simp only [oddConfig, List.mem_cons, List.not_mem_nil, or_false, or_self] at member
    rcases member with rfl | rfl
    · exact ⟨_, [], rfl⟩
    · exact ⟨_, ['a', '/', '#'], rfl⟩
  have loaded := survives_json.1 oddConfig made
  exact ⟨loaded, survives_json.2 _ _ loaded⟩

end Termbase.Config
