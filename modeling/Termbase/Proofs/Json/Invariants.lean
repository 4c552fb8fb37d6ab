import Termbase.Json.Reader
import Termbase.Proofs.Steps

/-! What a reader can give at all: a property of all items is one of an array, and a property of the state that every
member keeps is one of the object. -/

namespace Termbase.Json

section Values

variable {α : Type} {read : Reader α} {fits : α → Prop}

/-- Whatever the tokens are, a value that is read fits. -/
def Yields (read : Reader α) (fits : α → Prop) : Prop :=
  ∀ tokens value rest, read tokens = .ok (value, rest) → fits value

theorem Yields.member (yields : Yields read fits) : Yields (readMember read) fits := by
  intro tokens value rest done
  obtain ⟨behind, _, done⟩ := bind_eq_ok_iff.mp done
  exact yields behind value rest done

theorem Yields.items (yields : Yields read fits) (count : Nat) :
    Yields (readItems read count) fun items => ∀ item ∈ items, fits item := by
  induction count with
  | zero =>
      intro tokens items rest done
      cases done
  | succ count ih =>
      intro tokens items rest done
      rw [readItems] at done
      obtain ⟨⟨first, behind⟩, firstRead, onward⟩ := bind_eq_ok_iff.mp done
      have firstFits := yields tokens first behind firstRead
      dsimp only at onward
      split at onward
      next more =>
        obtain ⟨⟨others, left⟩, othersRead, same⟩ := bind_eq_ok_iff.mp onward
        cases same
        exact List.forall_mem_cons.mpr ⟨firstFits, ih more others left othersRead⟩
      next =>
        cases onward
        exact List.forall_mem_singleton.mpr firstFits
      next => cases onward

theorem Yields.array (yields : Yields read fits) :
    Yields (readArray read) fun items => ∀ item ∈ items, fits item := by
  intro tokens items rest done
  unfold readArray at done
  split at done
  next =>
    cases done
    exact fun _ member => absurd member List.not_mem_nil
  next => exact yields.items _ _ items rest done
  next => cases done

theorem exists_of_readText {text : Text} {value : α} (done : readText read text = .ok value) :
    read (tokens text) = .ok (value, []) := by
  obtain ⟨⟨found, rest⟩, valueRead, ended⟩ := bind_eq_ok_iff.mp done
  dsimp only at ended
  split at ended
  next empty =>
    cases ended
    rw [valueRead, List.isEmpty_iff.mp empty]
  next => cases ended

theorem Yields.text (yields : Yields read fits) {text : Text} {value : α}
    (done : readText read text = .ok value) : fits value :=
  yields (tokens text) value [] (exists_of_readText done)

theorem readText_of_tokens {text : Text} {value : α} (done : read (tokens text) = .ok (value, [])) :
    readText read text = .ok value := by
  simp only [readText, done, bind, Except.bind]
  rfl

end Values

section Members

variable {σ : Type} {read : MemberReader σ} {holds : σ → Prop}

/-- No member takes the state out of the property. -/
def Keeps (read : MemberReader σ) (holds : σ → Prop) : Prop :=
  ∀ state key, holds state → Yields (read state key) holds

theorem Keeps.members (keeps : Keeps read holds) (count : Nat) {state : σ} (here : holds state) :
    Yields (readMembers read count state) holds := by
  induction count generalizing state with
  | zero =>
      intro tokens final rest done
      cases done
  | succ count ih =>
      intro tokens final rest done
      unfold readMembers at done
      split at done
      next key tail =>
        obtain ⟨⟨next, behind⟩, taken, onward⟩ := bind_eq_ok_iff.mp done
        have still := keeps state key here tail next behind taken
        dsimp only at onward
        split at onward
        next more => exact ih still more final rest onward
        next =>
          cases onward
          exact still
        next => cases onward
      next => cases done
      next => cases done

theorem Keeps.objectBody (keeps : Keeps read holds) {state : σ} (here : holds state) :
    Yields (readObjectBody read state) holds := by
  intro tokens final rest done
  unfold readObjectBody at done
  split at done
  next =>
    cases done
    exact here
  next => exact keeps.members _ here _ final rest done

theorem yields_passMember (holds : σ → Prop) {state : σ} (here : holds state) :
    Yields (passMember state) holds := by
  intro tokens final rest done
  obtain ⟨behind, _, passed⟩ := bind_eq_ok_iff.mp done
  obtain ⟨left, _, same⟩ := bind_eq_ok_iff.mp passed
  cases same
  exact here

end Members

end Termbase.Json
