import Termbase.ChainStart.Shared
import Termbase.Proofs.Coder.Nested
import Termbase.Proofs.Store

/-! Starts that share a store. Whatever the order of their moves, every dictionary that is ever held is the
initial one or what one of the starts makes of it, so that all of them are nested and no code has two
meanings. -/

namespace Termbase.ChainStart

open KnownCoder

section Alone

variable {shared : Shared} {place : Nat} {starter : Starter} {store : Store} {starters : List Starter}

theorem Shared.move_at (present : shared.starters[place]? = some starter) :
    shared.move place = ⟨(starter.move shared.store).2,
      shared.starters.set place { starter with phase := (starter.move shared.store).1 }⟩ := by
  simp only [move, present]

theorem Shared.move_set (inside : place < starters.length) (starter : Starter) (store : Store) :
    (Shared.mk store (starters.set place starter)).move place = ⟨(starter.move store).2,
      starters.set place { starter with phase := (starter.move store).1 }⟩ := by
  have present : (starters.set place starter)[place]? = some starter := by simp [inside]
  rw [move_at present, List.set_set]

/-- A start that moves without others in between comes to what it comes to alone. -/
theorem Shared.run_alone (present : shared.starters[place]? = some starter)
    (waiting : starter.phase = .waiting) :
    ∃ outcome,
      shared.run [place, place, place] =
        ⟨(runWith starter.service starter.vocabularies starter.config shared.store).store,
          shared.starters.set place { starter with phase := .ended outcome }⟩ ∧
      outcome.bind (chainAround starter.config) =
        (runWith starter.service starter.vocabularies starter.config shared.store).chain := by
  obtain ⟨inside, _⟩ := List.getElem?_eq_some_iff.mp present
  simp only [run, List.foldl_cons, List.foldl_nil, move_at present, move_set inside]
  cases read : shared.store.load with
  | error error =>
      refine ⟨.error error, ?_, ?_⟩
      · simp [Starter.move, waiting, read, runWith]
      · simp [runWith, read, Except.bind]
  | ok loaded =>
      cases started : KnownCoder.start .knownTerms loaded starter.vocabularies with
      | error error =>
          refine ⟨.error error, ?_, ?_⟩
          · simp [Starter.move, waiting, read, started, runWith]
          · simp [runWith, read, started, Except.bind]
      | ok known =>
          cases due : isSaveDue starter.config known with
          | false =>
              refine ⟨.ok known, ?_, ?_⟩
              · simp [Starter.move, waiting, read, started, due, runWith]
              · simp [runWith, read, started, due, Except.bind]
          | true =>
              rcases saved : shared.store.saveBy starter.service known.dictionary with ⟨error | ⟨⟩, next⟩
              · refine ⟨.error error, ?_, ?_⟩
                · simp [Starter.move, waiting, read, started, due, saved, runWith]
                · simp [runWith, read, started, due, saved, Except.bind]
              · refine ⟨.ok known, ?_, ?_⟩
                · simp [Starter.move, waiting, read, started, due, saved, runWith]
                · simp [runWith, read, started, due, saved, Except.bind]

end Alone

section Invariant

variable {service : FileTree.WriteService} {initial : Dictionary} {lists : List (List Vocabulary)}
variable {store next : Store} {shared : Shared}

def Familiar (initial : Dictionary) (lists : List (List Vocabulary)) (dictionary : Dictionary) : Prop :=
  dictionary.Same initial ∨ MadeFrom initial lists dictionary

/-- A start that is past its completion holds a dictionary that was made, and no longer the initial one. -/
def Phase.Sound (initial : Dictionary) (lists : List (List Vocabulary)) : Phase → Prop
  | .waiting => True
  | .loaded dictionary => Familiar initial lists dictionary
  | .completed known => MadeFrom initial lists known.dictionary
  | .ended outcome => ∀ known, outcome = .ok known → MadeFrom initial lists known.dictionary

def StoreSound (initial : Dictionary) (lists : List (List Vocabulary)) (store : Store) : Prop :=
  ∀ held, store.load = .ok held → Familiar initial lists held

theorem Phase.Sound.held {phase : Phase} (sound : phase.Sound initial lists) {dictionary : Dictionary}
    (held : phase.held? = some dictionary) : Familiar initial lists dictionary := by
  cases phase with
  | waiting => cases held
  | loaded loaded =>
      cases held
      exact sound
  | completed known =>
      cases held
      exact Or.inr sound
  | ended outcome =>
      cases outcome with
      | error error => cases held
      | ok known =>
          cases held
          exact Or.inr (sound known rfl)

theorem storeSound_of_saveBy {dictionary : Dictionary} (saved : store.saveBy service dictionary = (.ok (), next))
    (made : MadeFrom initial lists dictionary) : StoreSound initial lists next := by
  intro held read
  obtain ⟨vocabularies, listed, known, started, same⟩ := made
  exact Or.inr ⟨vocabularies, listed, known, started, (Store.load_of_saveBy saved read).trans same⟩

theorem Starter.move_sound {starter : Starter} (nested : Nested lists)
    (listed : starter.vocabularies ∈ lists) (sound : starter.phase.Sound initial lists)
    (stored : StoreSound initial lists store) :
    (starter.move store).1.Sound initial lists ∧ StoreSound initial lists (starter.move store).2 := by
  unfold move
  cases phase : starter.phase with
  | waiting =>
      cases read : store.load with
      | error error => exact ⟨by simp [Phase.Sound], stored⟩
      | ok loaded => exact ⟨stored loaded read, stored⟩
  | loaded dictionary =>
      rw [phase] at sound
      dsimp only
      cases started : KnownCoder.start .knownTerms dictionary starter.vocabularies with
      | error error => exact ⟨by simp [Phase.Sound], stored⟩
      | ok known => exact ⟨madeFrom_of_start nested listed sound started, stored⟩
  | completed known =>
      rw [phase] at sound
      have kept : (Phase.ended (.ok known)).Sound initial lists := by
        intro other same
        cases same
        exact sound
      dsimp only
      split
      next =>
        rcases saved : store.saveBy starter.service known.dictionary with ⟨_ | ⟨⟩, next⟩
        · rw [Store.eq_of_saveBy_error saved]
          exact ⟨by simp [Phase.Sound], stored⟩
        · exact ⟨kept, storeSound_of_saveBy saved sound⟩
      next => exact ⟨kept, stored⟩
  | ended outcome =>
      rw [phase] at sound
      exact ⟨sound, stored⟩

structure Sound (initial : Dictionary) (lists : List (List Vocabulary)) (shared : Shared) : Prop where
  stored : StoreSound initial lists shared.store
  starters : ∀ starter ∈ shared.starters,
    starter.vocabularies ∈ lists ∧ starter.phase.Sound initial lists

theorem Sound.holds (sound : Sound initial lists shared) {dictionary : Dictionary}
    (held : shared.Holds dictionary) : Familiar initial lists dictionary := by
  rcases held with stored | ⟨starter, member, inHand⟩
  · exact sound.stored dictionary stored
  · exact (sound.starters starter member).2.held inHand

theorem Sound.move (nested : Nested lists) (sound : Sound initial lists shared) (place : Nat) :
    Sound initial lists (shared.move place) := by
  cases present : shared.starters[place]? with
  | none =>
      have unmoved : shared.move place = shared := by simp only [Shared.move, present]
      rw [unmoved]
      exact sound
  | some starter =>
      obtain ⟨listed, phase⟩ := sound.starters starter (List.mem_of_getElem? present)
      obtain ⟨movedPhase, movedStore⟩ := Starter.move_sound nested listed phase sound.stored
      rw [Shared.move_at present]
      refine ⟨movedStore, ?_⟩
      intro other member
      rcases List.mem_or_eq_of_mem_set member with old | rfl
      · exact sound.starters other old
      · exact ⟨listed, movedPhase⟩

theorem Sound.run (nested : Nested lists) (sound : Sound initial lists shared) (schedule : List Nat) :
    Sound initial lists (shared.run schedule) := by
  induction schedule generalizing shared with
  | nil => exact sound
  | cons place schedule ih => exact ih (sound.move nested place)

/-- The store can be loaded, and will be after every save of identifiers that it accepts. -/
structure Readable (initial : Dictionary) (lists : List (List Vocabulary)) (store : Store) : Prop where
  loads : ∃ held, store.load = .ok held
  old : ∀ entry ∈ initial.entries, store.Accepts entry.1
  new : ∀ vocabularies ∈ lists, ∀ term ∈ vocabularies.flatMap (·.terms), store.Accepts term

theorem Readable.saveBy {dictionary : Dictionary} {outcome : Except CoderError Unit}
    (readable : Readable initial lists store) (made : MadeFrom initial lists dictionary)
    (saved : store.saveBy service dictionary = (outcome, next)) : Readable initial lists next := by
  cases outcome with
  | error error =>
      rw [Store.eq_of_saveBy_error saved]
      exact readable
  | ok =>
      obtain ⟨held, read, _⟩ := Store.exists_load_of_saveBy (made.forall_iris readable.old readable.new) saved
      refine ⟨⟨held, read⟩, ?_, ?_⟩
      · intro entry member
        exact Store.accepts_of_saveBy saved (readable.old entry member)
      · intro vocabularies listed term member
        exact Store.accepts_of_saveBy saved (readable.new vocabularies listed term member)

theorem Starter.move_readable {starter : Starter} (sound : starter.phase.Sound initial lists)
    (readable : Readable initial lists store) : Readable initial lists (starter.move store).2 := by
  unfold move
  cases phase : starter.phase with
  | waiting =>
      cases read : store.load with
      | error error => exact readable
      | ok loaded => exact readable
  | loaded dictionary =>
      dsimp only
      cases started : KnownCoder.start .knownTerms dictionary starter.vocabularies with
      | error error => exact readable
      | ok known => exact readable
  | completed known =>
      rw [phase] at sound
      dsimp only
      split
      next =>
        rcases saved : store.saveBy starter.service known.dictionary with ⟨_ | ⟨⟩, next⟩
        · exact readable.saveBy sound saved
        · exact readable.saveBy sound saved
      next => exact readable
  | ended outcome => exact readable

theorem Readable.run (nested : Nested lists) (sound : Sound initial lists shared)
    (readable : Readable initial lists shared.store) (schedule : List Nat) :
    Readable initial lists (shared.run schedule).store := by
  induction schedule generalizing shared with
  | nil => exact readable
  | cons place schedule ih =>
      apply ih (sound.move nested place)
      cases present : shared.starters[place]? with
      | none =>
          simp only [Shared.move, present]
          exact readable
      | some starter =>
          rw [Shared.move_at present]
          exact Starter.move_readable (sound.starters starter (List.mem_of_getElem? present)).2 readable

end Invariant

/-- Starts that share a store never give one code two meanings. Whatever two dictionaries are held in any two
states that the starts can reach, one is within the other, so both read and write alike. If all starts have
the same vocabularies, they all end with one dictionary, and the store holds that one or the initial one. The
store can always be loaded, if it accepts the terms. -/
theorem shared_starts_agree (store : Store) (initial : Dictionary) (starters : List Starter)
    (read : store.load = .ok initial) (waiting : ∀ starter ∈ starters, starter.phase = .waiting)
    (nested : Nested (starters.map (·.vocabularies))) :
    (∀ earlier later left right, ((Shared.mk store starters).run earlier).Holds left →
      ((Shared.mk store starters).run later).Holds right →
      (left.Within right ∨ right.Within left) ∧
      (∀ iri leftCode rightCode, left.code? iri = some leftCode → right.code? iri = some rightCode →
        leftCode = rightCode) ∧
      (∀ code leftIri rightIri, left.iri? code = some leftIri → right.iri? code = some rightIri →
        leftIri = rightIri)) ∧
    (∀ vocabularies, (∀ starter ∈ starters, starter.vocabularies = vocabularies) →
      ∃ final : Dictionary, ∀ schedule,
        (∀ starter ∈ ((Shared.mk store starters).run schedule).starters, ∀ known,
          starter.phase = .ended (.ok known) → known.dictionary.Same final) ∧
        (∀ held, ((Shared.mk store starters).run schedule).store.load = .ok held →
          held.Same initial ∨ held.Same final)) ∧
    ((∀ starter ∈ starters, ∀ term ∈ starter.vocabularies.flatMap (·.terms), store.Accepts term) →
      ∀ schedule, ∃ held, ((Shared.mk store starters).run schedule).store.load = .ok held) := by
  have sound : Sound initial (starters.map (·.vocabularies)) ⟨store, starters⟩ := by
    constructor
    · intro held readAgain
      rw [read] at readAgain
      cases readAgain
      exact Or.inl (Dictionary.Same.refl _)
    · intro starter member
      refine ⟨List.mem_map_of_mem member, ?_⟩
      rw [waiting starter member]
      trivial
  refine ⟨?_, ?_, ?_⟩
  · intro earlier later left right heldLeft heldRight
    have comparable := within_or_within nested ((sound.run nested earlier).holds heldLeft)
      ((sound.run nested later).holds heldRight)
    exact ⟨comparable, fun _ _ _ => Dictionary.Within.code_agrees comparable,
      fun _ _ _ => Dictionary.Within.iri_agrees comparable⟩
  · -- With equal lists only one dictionary can be made, whoever makes it and of whichever load.
    intro vocabularies equal
    have equalLists : ∀ others ∈ starters.map (·.vocabularies), others = vocabularies := by
      intro others listed
      obtain ⟨starter, member, rfl⟩ := List.mem_map.mp listed
      exact equal starter member
    obtain ⟨final, isFinal⟩ := MadeFrom.exists_same initial equalLists
    refine ⟨final, ?_⟩
    intro schedule
    have reached := sound.run nested schedule
    constructor
    · intro starter member known ended
      have phase := (reached.starters starter member).2
      rw [ended] at phase
      exact isFinal _ (phase known rfl)
    · intro held readHeld
      rcases reached.stored held readHeld with same | made
      · exact Or.inl same
      · exact Or.inr (isFinal _ made)
  · intro accepted schedule
    have readable : Readable initial (starters.map (·.vocabularies)) store := by
      refine ⟨⟨initial, read⟩, Store.accepts_of_load read, ?_⟩
      intro vocabularies listed term member
      obtain ⟨starter, starterMember, rfl⟩ := List.mem_map.mp listed
      exact accepted starter starterMember term member
    exact (Readable.run nested sound readable schedule).loads

def olderTerms : List Vocabulary := [⟨[], [], [], false, [⟨[], ['u', ':', 'k']⟩]⟩]

def newerTerms : List Vocabulary := olderTerms ++ [⟨[], [], [], false, [⟨[], ['u', ':', 'l']⟩]⟩]

def olderAndNewer : List Starter :=
  [⟨olderTerms, ⟨[], true⟩, .smooth, .waiting⟩, ⟨newerTerms, ⟨[], true⟩, .smooth, .waiting⟩]

/-- The older start saves what it made of a load from before the newer start's save. -/
theorem stale_save_keeps_codes :
    ∃ stored held code,
      ((Shared.mk (.memory .empty 0) olderAndNewer).run [0, 0, 1, 1, 1, 0]).store.load = .ok stored ∧
      ((Shared.mk (.memory .empty 0) olderAndNewer).run [0, 0, 1, 1, 1, 0]).Holds held ∧
      stored.size = 1 ∧ held.size = 2 ∧
      stored.code? ['u', ':', 'k'] = some code ∧ held.code? ['u', ':', 'k'] = some code := by
  have waiting : ∀ starter ∈ olderAndNewer, starter.phase = .waiting := by
    intro starter member
    simp only [olderAndNewer, List.mem_cons, List.not_mem_nil, or_false] at member
    rcases member with rfl | rfl
    · rfl
    · rfl
  have nested : Nested (olderAndNewer.map (·.vocabularies)) := by
    have older : olderTerms <+: newerTerms := List.prefix_append _ _
    intro first firstIn second secondIn
    simp only [olderAndNewer, List.map_cons, List.map_nil, List.mem_cons, List.not_mem_nil,
      or_false] at firstIn secondIn
    rcases firstIn with rfl | rfl
    · rcases secondIn with rfl | rfl
      · exact Or.inl (List.prefix_refl _)
      · exact Or.inl older
    · rcases secondIn with rfl | rfl
      · exact Or.inr older
      · exact Or.inl (List.prefix_refl _)
  obtain ⟨stored, held, storedCode, heldCode, read, inHand, one, two, foundStored, foundHeld⟩ :
      ∃ stored held storedCode heldCode,
        ((Shared.mk (.memory .empty 0) olderAndNewer).run [0, 0, 1, 1, 1, 0]).store.load = .ok stored ∧
        (((Shared.mk (.memory .empty 0) olderAndNewer).run [0, 0, 1, 1, 1, 0]).starters[1]?.bind
          (·.phase.held?)) = some held ∧
        stored.size = 1 ∧ held.size = 2 ∧
        stored.code? ['u', ':', 'k'] = some storedCode ∧ held.code? ['u', ':', 'k'] = some heldCode :=
    ⟨_, _, _, _, rfl, rfl, rfl, rfl, rfl, rfl⟩
  obtain ⟨starter, present, held?⟩ := Option.bind_eq_some_iff.mp inHand
  have holds : ((Shared.mk (.memory .empty 0) olderAndNewer).run [0, 0, 1, 1, 1, 0]).Holds held :=
    Or.inr ⟨starter, List.mem_of_getElem? present, held?⟩
  obtain ⟨_, sameCodes, _⟩ := (shared_starts_agree (.memory .empty 0) .empty olderAndNewer rfl waiting nested).1
    _ _ stored held (Or.inl read) holds
  rw [← sameCodes _ _ _ foundStored foundHeld] at foundHeld
  exact ⟨stored, held, storedCode, read, holds, one, two, foundStored, foundHeld⟩

end Termbase.ChainStart
