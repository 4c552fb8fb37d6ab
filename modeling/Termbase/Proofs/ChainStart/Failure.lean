import Termbase.Proofs.ChainStart.Outcome
import Termbase.Proofs.Coder.Nested
import Termbase.Proofs.Store

/-! Starts that fail. A start that fails leaves the store as it was, unless it fails at the namespaces and had
already saved the completed dictionary; either way a later start comes to the same codes. -/

namespace Termbase

theorem CoderChain.exists_ofCoders {coders : List Coder} (placed : misplaced? 0 coders = none) :
    ∃ chain, ofCoders coders = .ok chain ∧ chain.coders = coders := by
  unfold ofCoders
  split
  next found => rw [placed] at found; cases found
  next => exact ⟨_, rfl, rfl⟩

def Store.Holds (dictionary : Dictionary) : Store → Prop
  | memory held _ => held = dictionary
  | file tree path => tree.readFile path = .ok (Utf8.encode dictionary.toJson)

theorem Store.holds_of_saveBy {service : FileTree.WriteService} {store next : Store} {dictionary : Dictionary}
    (saved : store.saveBy service dictionary = (.ok (), next)) : next.Holds dictionary := by
  cases store with
  | memory former saves =>
      cases saved
      rfl
  | file tree path =>
      obtain ⟨_, place, writable, rfl⟩ := saveBy_file_eq_ok_iff.mp saved
      simp only [Holds, FileTree.readFile, FileTree.find_put_of_writable writable, bind, Except.bind]

theorem Store.error_of_saveBy {service : FileTree.WriteService} {store next : Store} {dictionary : Dictionary}
    {error : CoderError} (failed : store.saveBy service dictionary = (.error error, next)) :
    ∃ cause, error = .file cause := by
  cases store with
  | memory former saves => simp [saveBy] at failed
  | file tree path =>
      simp only [saveBy] at failed
      split at failed
      next => simp at failed
      next cause _ _ =>
        simp only [Prod.mk.injEq, Except.error.injEq] at failed
        exact ⟨cause, failed.1.symm⟩

namespace ChainStart

variable {service : FileTree.WriteService} {vocabularies : List Vocabulary} {config : Config} {store : Store}

theorem chainAround_crowded (crowded : 256 < config.fixedNamespaces.length) (known : KnownCoder) :
    chainAround config known = .error (.tooManyNamespaces config.fixedNamespaces.length) := by
  simp only [chainAround, FixedCoder.make, dif_neg (Nat.not_le.mpr crowded)]
  rfl

theorem exists_chainAround {known : KnownCoder} (bounded : config.fixedNamespaces.length ≤ 256)
    (owner : known.id = .knownTerms) :
    ∃ chain, chainAround config known = .ok chain ∧
      chain.coders = [.known known, .fixed ⟨.fixedNamespaces, config.fixedNamespaces, bounded⟩,
        .wholeText .wholeText] := by
  have placed : CoderChain.misplaced? 0 [.known known,
      .fixed ⟨.fixedNamespaces, config.fixedNamespaces, bounded⟩, .wholeText .wholeText] = none := by
    simp [CoderChain.misplaced?, Coder.id, owner, CoderId.knownTerms, CoderId.fixedNamespaces, CoderId.wholeText]
  obtain ⟨chain, made, coders⟩ := CoderChain.exists_ofCoders placed
  refine ⟨chain, ?_, coders⟩
  simp only [chainAround, FixedCoder.make, dif_pos bounded]
  exact made

def Completes (vocabularies : List Vocabulary) (store : Store) (known : KnownCoder) : Prop :=
  ∃ loaded, store.load = .ok loaded ∧ KnownCoder.start .knownTerms loaded vocabularies = .ok known

inductive Course (service : FileTree.WriteService) (vocabularies : List Vocabulary) (config : Config) (store : Store) :
    Outcome → Prop
  | refused {error : CoderError} : (∀ known, ¬ Completes vocabularies store known) →
      Course service vocabularies config store ⟨.error error, store⟩
  | unsaved {known : KnownCoder} {error : CoderError} : Completes vocabularies store known →
      isSaveDue config known = true → store.saveBy service known.dictionary = (.error error, store) →
      Course service vocabularies config store ⟨.error error, store⟩
  | crowded {known : KnownCoder} {next : Store} : Completes vocabularies store known →
      Kept service config known store next → 256 < config.fixedNamespaces.length →
      Course service vocabularies config store ⟨.error (.tooManyNamespaces config.fixedNamespaces.length), next⟩
  | started {known : KnownCoder} {next : Store} {chain : CoderChain} : Completes vocabularies store known →
      Kept service config known store next → config.fixedNamespaces.length ≤ 256 →
      chainAround config known = .ok chain → Course service vocabularies config store ⟨.ok chain, next⟩

theorem Completes.unique {known other : KnownCoder} (completes : Completes vocabularies store known)
    (again : Completes vocabularies store other) : known = other := by
  obtain ⟨loaded, read, started⟩ := completes
  obtain ⟨reloaded, readAgain, startedAgain⟩ := again
  rw [read] at readAgain
  cases readAgain
  rw [started] at startedAgain
  exact Except.ok.inj startedAgain

theorem course_runWith (service : FileTree.WriteService) (vocabularies : List Vocabulary) (config : Config)
    (store : Store) :
    Course service vocabularies config store (runWith service vocabularies config store) := by
  have around {next : Store} (known : KnownCoder) (completes : Completes vocabularies store known)
      (kept : Kept service config known store next) :
      Course service vocabularies config store ⟨chainAround config known, next⟩ := by
    by_cases bounded : config.fixedNamespaces.length ≤ 256
    · have ⟨loaded, _, started⟩ := completes
      obtain ⟨chain, made, _⟩ := exists_chainAround bounded (KnownCoder.start_grown started).owner
      rw [made]
      exact .started completes kept bounded made
    · rw [chainAround_crowded (Nat.not_le.mp bounded)]
      exact .crowded completes kept (Nat.not_le.mp bounded)
  unfold runWith
  cases read : store.load with
  | error error =>
      refine .refused ?_
      rintro known ⟨loaded, readAgain, _⟩
      rw [read] at readAgain
      cases readAgain
  | ok loaded =>
      dsimp only
      cases started : KnownCoder.start .knownTerms loaded vocabularies with
      | error error =>
          refine .refused ?_
          rintro known ⟨reloaded, readAgain, startedAgain⟩
          rw [read] at readAgain
          cases readAgain
          rw [started] at startedAgain
          cases startedAgain
      | ok known =>
          have completes : Completes vocabularies store known := ⟨loaded, read, started⟩
          dsimp only
          split
          next due =>
            rcases saved : store.saveBy service known.dictionary with ⟨error | ⟨⟩, next⟩
            · cases Store.eq_of_saveBy_error saved
              exact .unsaved completes due saved
            · exact around known completes (.saved due saved)
          next idle => exact around known completes (.untouched (Bool.eq_false_iff.mpr idle))

inductive FailedStarts (vocabularies : List Vocabulary) : Store → Store → Prop
  | none {store : Store} : FailedStarts vocabularies store store
  | more {service : FileTree.WriteService} {config : Config} {store next last : Store} {error : CoderError} :
      runWith service vocabularies config store = ⟨.error error, next⟩ → FailedStarts vocabularies next last →
      FailedStarts vocabularies store last

theorem isSaveDue_of_saved {known later : KnownCoder} {after : Store}
    (completes : Completes vocabularies store known) (saved : store.saveBy service known.dictionary = (.ok (), after))
    (again : Completes vocabularies after later) (config : Config) :
    isSaveDue config later = false ∧ later.dictionary.Same known.dictionary := by
  obtain ⟨_, _, started⟩ := completes
  obtain ⟨restored, read, startedAgain⟩ := again
  have same := Store.load_of_saveBy saved read
  obtain ⟨idle, startedIdle, unchanged, nothing⟩ := KnownCoder.start_idle started same
  rw [startedAgain] at startedIdle
  cases startedIdle
  exact ⟨by simp [isSaveDue, nothing], by rw [unchanged]; exact same⟩

/-- What failed starts leave behind: the store as it was, or the completed dictionary saved in it. -/
def LeftBy (vocabularies : List Vocabulary) (store after : Store) : Prop :=
  after = store ∨ ∃ known, Completes vocabularies store known ∧
    0 < known.newlyRegistered ∧ store.save known.dictionary = (.ok (), after)

theorem LeftBy.start {after : Store} (left : LeftBy vocabularies store after) (service : FileTree.WriteService)
    (config : Config) :
    LeftBy vocabularies store (runWith service vocabularies config after).store := by
  have course := course_runWith service vocabularies config after
  generalize runWith service vocabularies config after = outcome at course ⊢
  have kept {known : KnownCoder} {next : Store} (completes : Completes vocabularies after known)
      (kept : Kept service config known after next) : LeftBy vocabularies store next := by
    cases kept with
    | untouched => exact left
    | saved due saved =>
        rcases left with rfl | ⟨first, completesFirst, _, savedFirst⟩
        · simp only [isSaveDue, Bool.and_eq_true, decide_eq_true_eq] at due
          exact Or.inr ⟨known, completes, due.2, Store.save_of_saveBy saved⟩
        · have idle := (isSaveDue_of_saved completesFirst savedFirst completes config).1
          rw [idle] at due
          cases due
  cases course with
  | refused => exact left
  | unsaved => exact left
  | crowded completes keptStore => exact kept completes keptStore
  | started completes keptStore => exact kept completes keptStore

theorem FailedStarts.leftBy {first store after : Store} (failed : FailedStarts vocabularies store after)
    (left : LeftBy vocabularies first store) : LeftBy vocabularies first after := by
  induction failed with
  | none => exact left
  | @more service config _ _ _ _ ran _ ih =>
      apply ih
      have next := left.start service config
      rw [ran] at next
      exact next

theorem encode_congr {known other : KnownCoder} {chain twin : CoderChain}
    (made : chainAround config known = .ok chain) (madeTwin : chainAround config other = .ok twin)
    (same : known.dictionary.Same other.dictionary) (iri : Iri) : chain.encode iri = twin.encode iri := by
  obtain ⟨fixed, madeFixed, coders⟩ := coders_of_chainAround made
  obtain ⟨twinFixed, madeTwinFixed, twinCoders⟩ := coders_of_chainAround madeTwin
  rw [madeFixed] at madeTwinFixed
  cases madeTwinFixed
  simp only [CoderChain.encode, coders, twinCoders, List.findSome?_cons, Coder.encode?, KnownCoder.encode?,
    same.code?]

theorem exists_code_of_completes {known : KnownCoder} {chain : CoderChain} {term : Iri}
    (completes : Completes vocabularies store known) (made : chainAround config known = .ok chain)
    (listed : term ∈ vocabularies.flatMap (·.terms)) :
    ∃ code, known.dictionary.code? term = some code ∧ chain.encode term = .ok code := by
  obtain ⟨_, _, started⟩ := completes
  have contained : known.dictionary.contains term = true := by
    simp [KnownCoder.contains_of_start started, listed]
  obtain ⟨code, found⟩ := Dictionary.contains_iff_code?.mp contained
  obtain ⟨_, _, coders⟩ := coders_of_chainAround made
  refine ⟨code, found, ?_⟩
  simp only [CoderChain.encode, coders, List.findSome?_cons, Coder.encode?, KnownCoder.encode?, found]

theorem exists_load_of_completed {known : KnownCoder} {after : Store}
    (completes : Completes vocabularies store known) (saved : store.saveBy service known.dictionary = (.ok (), after))
    (accepted : ∀ term ∈ vocabularies.flatMap (·.terms), store.Accepts term) :
    ∃ held, after.load = .ok held ∧ held.Same known.dictionary := by
  obtain ⟨loaded, read, started⟩ := completes
  have made : KnownCoder.MadeFrom loaded [vocabularies] known.dictionary :=
    ⟨vocabularies, List.mem_singleton_self _, known, started, Dictionary.Same.refl _⟩
  apply Store.exists_load_of_saveBy _ saved
  apply made.forall_iris (Store.accepts_of_load read)
  intro others listed
  rw [List.mem_singleton.mp listed]
  exact accepted

theorem exists_chain_iff (service : FileTree.WriteService) (vocabularies : List Vocabulary) (config : Config)
    (store : Store) :
    (∃ chain, (runWith service vocabularies config store).chain = .ok chain) ↔
      ∃ known, Completes vocabularies store known ∧
        (isSaveDue config known = true → (store.saveBy service known.dictionary).1 = .ok ()) ∧
        config.fixedNamespaces.length ≤ 256 := by
  have course := course_runWith service vocabularies config store
  generalize runWith service vocabularies config store = outcome at course ⊢
  cases course with
  | refused never =>
      constructor
      · rintro ⟨chain, ⟨⟩⟩
      · rintro ⟨known, completes, _⟩
        exact absurd completes (never known)
  | unsaved completes due failed =>
      constructor
      · rintro ⟨chain, ⟨⟩⟩
      · rintro ⟨known, again, saved, _⟩
        cases completes.unique again
        rw [failed] at saved
        cases saved due
  | crowded _ _ crowded =>
      constructor
      · rintro ⟨chain, ⟨⟩⟩
      · rintro ⟨_, _, _, bounded⟩
        exact absurd bounded (Nat.not_le.mpr crowded)
  | @started known _ chain completes kept bounded _ =>
      refine ⟨fun _ => ⟨known, completes, ?_, bounded⟩, fun _ => ⟨chain, rfl⟩⟩
      intro due
      cases kept with
      | saved _ saved => rw [saved]
      | untouched idle =>
          rw [due] at idle
          cases idle

theorem store_of_completes {known : KnownCoder} (completes : Completes vocabularies store known)
    (config : Config) :
    (runWith service vocabularies config store).store =
      if isSaveDue config known then (store.saveBy service known.dictionary).2 else store := by
  obtain ⟨loaded, read, started⟩ := completes
  simp only [runWith, read, started]
  split
  next =>
    rcases store.saveBy service known.dictionary with ⟨_ | _, next⟩
    · rfl
    · rfl
  next => rfl

theorem failure_keeps_or_completes {error : CoderError} {after : Store}
    (ran : runWith service vocabularies config store = ⟨.error error, after⟩) :
    (after = store ∨ ∃ known, Completes vocabularies store known ∧ isSaveDue config known = true ∧
      error = .tooManyNamespaces config.fixedNamespaces.length) ∧
    ∀ known count, Completes vocabularies store known → isSaveDue config known = true →
      error = .tooManyNamespaces count → after.Holds known.dictionary ∧
        ((∀ term ∈ vocabularies.flatMap (·.terms), store.Accepts term) →
          ∃ held, after.load = .ok held ∧ held.Same known.dictionary) := by
  have course := course_runWith service vocabularies config store
  rw [ran] at course
  cases course with
  | refused never =>
      refine ⟨Or.inl rfl, ?_⟩
      intro known count completes
      exact absurd completes (never known)
  | unsaved completes due failed =>
      refine ⟨Or.inl rfl, ?_⟩
      rintro known count _ _ rfl
      obtain ⟨cause, sameError⟩ := Store.error_of_saveBy failed
      cases sameError
  | @crowded kept _ completes keptStore crowded =>
      cases keptStore with
      | untouched idle =>
          refine ⟨Or.inl rfl, ?_⟩
          intro known count again due
          cases completes.unique again
          rw [due] at idle
          cases idle
      | saved due saved =>
          refine ⟨Or.inr ⟨kept, completes, due, rfl⟩, ?_⟩
          intro known count again _ _
          cases completes.unique again
          exact ⟨Store.holds_of_saveBy saved, exists_load_of_completed completes saved⟩

theorem exists_twin {after : Store} {chain : CoderChain} (failed : FailedStarts vocabularies store after)
    (ran : (runWith service vocabularies config after).chain = .ok chain) :
    ∃ known twin, Completes vocabularies store known ∧
      (runWith .smooth vocabularies config store).chain = .ok twin ∧
      (∀ iri, chain.encode iri = twin.encode iri) ∧
      ∀ term ∈ vocabularies.flatMap (·.terms), ∃ code, known.dictionary.code? term = some code ∧
        chain.encode term = .ok code ∧ twin.encode term = .ok code := by
  obtain ⟨loaded, later, read, started, made, _⟩ := runWith_ok ran
  obtain ⟨_, completesLater, saves, bounded⟩ :=
    (exists_chain_iff service vocabularies config after).mp ⟨chain, ran⟩
  cases completesLater.unique ⟨loaded, read, started⟩
  obtain ⟨known, completes, same, saved⟩ : ∃ known, Completes vocabularies store known ∧
      later.dictionary.Same known.dictionary ∧
      (isSaveDue config known = true → (store.save known.dictionary).1 = .ok ()) := by
    rcases failed.leftBy (Or.inl rfl) with rfl | ⟨known, completes, _, saved⟩
    · refine ⟨later, completesLater, Dictionary.Same.refl _, fun due => ?_⟩
      rw [Store.save_of_saveBy (Prod.ext (saves due) rfl)]
    · exact ⟨known, completes, (isSaveDue_of_saved completes saved completesLater config).2, fun _ => by rw [saved]⟩
  obtain ⟨twin, ranTwin⟩ := (exists_chain_iff .smooth vocabularies config store).mpr ⟨known, completes, saved, bounded⟩
  obtain ⟨reloaded, other, readAgain, startedAgain, madeTwin, _⟩ := runWith_ok ranTwin
  cases completes.unique ⟨reloaded, readAgain, startedAgain⟩
  have alike := encode_congr made madeTwin same
  refine ⟨known, twin, completes, ranTwin, alike, ?_⟩
  intro term listed
  obtain ⟨code, found, written⟩ := exists_code_of_completes completes madeTwin listed
  exact ⟨code, found, (alike term).trans written, written⟩

/-- A start gives a chain exactly if the store can be loaded, the coder of known terms accepts what it holds,
a save that is due succeeds, and there are at most 256 namespaces. It saves at most once, and only if that is
due. A start that fails leaves the store as it was, unless it fails at the namespaces behind a save, which has
stored the completed dictionary as a whole. After any failed starts, a start that succeeds would have succeeded
on the first store as well, if a save had been served there, and it writes every identifier, and every known term,
with the same code. The system may serve the save of each start as it likes. -/
theorem failed_starts_are_harmless (service : FileTree.WriteService) (vocabularies : List Vocabulary) (store : Store) :
    (∀ config, (∃ chain, (runWith service vocabularies config store).chain = .ok chain) ↔
      ∃ known, Completes vocabularies store known ∧
        (isSaveDue config known = true → (store.saveBy service known.dictionary).1 = .ok ()) ∧
        config.fixedNamespaces.length ≤ 256) ∧
    (∀ config known, Completes vocabularies store known →
      (runWith service vocabularies config store).store =
        if isSaveDue config known then (store.saveBy service known.dictionary).2 else store) ∧
    (∀ config error after, runWith service vocabularies config store = ⟨.error error, after⟩ →
      (after = store ∨ ∃ known, Completes vocabularies store known ∧ isSaveDue config known = true ∧
        error = .tooManyNamespaces config.fixedNamespaces.length) ∧
      ∀ known count, Completes vocabularies store known → isSaveDue config known = true →
        error = .tooManyNamespaces count → after.Holds known.dictionary ∧
          ((∀ term ∈ vocabularies.flatMap (·.terms), store.Accepts term) →
            ∃ held, after.load = .ok held ∧ held.Same known.dictionary)) ∧
    (∀ after config chain, FailedStarts vocabularies store after →
      (runWith service vocabularies config after).chain = .ok chain →
      ∃ known twin, Completes vocabularies store known ∧
        (runWith .smooth vocabularies config store).chain = .ok twin ∧
        (∀ iri, chain.encode iri = twin.encode iri) ∧
        ∀ term ∈ vocabularies.flatMap (·.terms), ∃ code, known.dictionary.code? term = some code ∧
          chain.encode term = .ok code ∧ twin.encode term = .ok code) := by
  refine ⟨?_, ?_, ?_, ?_⟩
  · intro config
    exact exists_chain_iff service vocabularies config store
  · intro config known completes
    exact store_of_completes completes config
  · intro config error after ran
    exact failure_keeps_or_completes ran
  · intro after config chain failed started
    exact exists_twin failed started

def lateTerm : List Vocabulary := [⟨[], [], [], false, [⟨[], ['u', ':', 'k']⟩]⟩]

def crowdedConfig : Config := ⟨List.replicate 257 ⟨[], ['a', ':']⟩, true⟩

def emptyFile : FileTree := ⟨[], [([['d']], .file (Utf8.encode "\x7b\x7d".toList))]⟩

theorem crowded_start_keeps_codes :
    (∃ after known chain, runWith .smooth lateTerm crowdedConfig (.memory .empty 0) =
        ⟨.error (.tooManyNamespaces 257), after⟩ ∧
      after.Holds known ∧ known.code? ['u', ':', 'k'] = some ⟨1, [0, 0, 1]⟩ ∧
      (runWith .smooth lateTerm ⟨[], false⟩ after).chain = .ok chain ∧
      chain.encode ['u', ':', 'k'] = .ok ⟨1, [0, 0, 1]⟩) ∧
    runWith (.refusing .rename .busy) lateTerm ⟨[], true⟩ (.file emptyFile ['d']) =
      ⟨.error (.file .busy), .file emptyFile ['d']⟩ := by
  constructor
  · obtain ⟨known, chain, started, new, found, again⟩ : ∃ known chain,
        KnownCoder.start .knownTerms .empty lateTerm = .ok known ∧ 0 < known.newlyRegistered ∧
        known.dictionary.code? ['u', ':', 'k'] = some ⟨1, [0, 0, 1]⟩ ∧
        (runWith .smooth lateTerm ⟨[], false⟩ (.memory known.dictionary 1)).chain = .ok chain :=
      ⟨_, _, rfl, by decide, rfl, rfl⟩
    have completes : Completes lateTerm (.memory .empty 0) known := ⟨.empty, rfl, started⟩
    have count : crowdedConfig.fixedNamespaces.length = 257 := List.length_replicate
    have due : isSaveDue crowdedConfig known = true := by
      simp only [isSaveDue, crowdedConfig, Bool.true_and, decide_eq_true_eq]
      exact new
    have ran : runWith .smooth lateTerm crowdedConfig (.memory .empty 0) =
        ⟨.error (.tooManyNamespaces 257), .memory known.dictionary 1⟩ := by
      simp only [runWith, Store.load, started, due, if_true, Store.saveBy]
      rw [chainAround_crowded (by rw [count]; decide), count]
    obtain ⟨_, _, failure, sequence⟩ := failed_starts_are_harmless .smooth lateTerm (.memory .empty 0)
    have held := ((failure crowdedConfig _ _ ran).2 known 257 completes due rfl).1
    obtain ⟨other, twin, completesOther, _, _, sameCodes⟩ :=
      sequence _ ⟨[], false⟩ chain (.more ran .none) again
    cases completes.unique completesOther
    obtain ⟨code, foundCode, written, _⟩ := sameCodes ['u', ':', 'k'] (by decide)
    rw [found] at foundCode
    cases foundCode
    exact ⟨_, known.dictionary, chain, ran, held, found, again, written⟩
  · obtain ⟨after, refused⟩ : ∃ after, runWith (.refusing .rename .busy) lateTerm ⟨[], true⟩ (.file emptyFile ['d']) =
        ⟨.error (.file .busy), after⟩ := ⟨_, rfl⟩
    obtain ⟨_, _, failure, _⟩ :=
      failed_starts_are_harmless (.refusing .rename .busy) lateTerm (.file emptyFile ['d'])
    rcases (failure _ _ _ refused).1 with rfl | ⟨_, _, _, other⟩
    · exact refused
    · cases other

end ChainStart

end Termbase
