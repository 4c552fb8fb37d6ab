import Mathlib
import Termbase.Proofs.Dictionary

/-! A dictionary under any run of inserts. It is compared with two hash tables, one for each direction, which
an insert updates one after the other: they never drift apart, although nothing in their type says so. -/

namespace Termbase

deriving instance Hashable for Code

namespace Dictionary

section Insert

variable {dictionary extended : Dictionary} {iri : Iri} {code : Code}

theorem insert_of_free (free : dictionary.iri? code = none) :
    dictionary.insert iri code = .ok (dictionary.assign iri code free) := by
  unfold insert
  split
  next => rfl
  next existing found => rw [free] at found; cases found

theorem insert_of_taken {existing : Iri} (taken : dictionary.iri? code = some existing) :
    dictionary.insert iri code =
      if existing = iri then .ok dictionary else .error (.duplicateCode code existing iri) := by
  unfold insert
  split
  next found => rw [taken] at found; cases found
  next existing' found =>
    rw [taken] at found
    cases found
    rfl

theorem insert_eq_error_iff {error : CoderError} :
    dictionary.insert iri code = .error error ↔ ∃ existing ≠ iri,
      dictionary.iri? code = some existing ∧ error = .duplicateCode code existing iri := by
  cases found : dictionary.iri? code with
  | none => simp [insert_of_free found]
  | some existing =>
      by_cases same : existing = iri
      · simp [insert_of_taken found, same]
      · rw [insert_of_taken found, if_neg same]
        constructor
        · intro failed
          cases failed
          exact ⟨existing, same, rfl, rfl⟩
        · rintro ⟨_, _, found, rfl⟩
          cases found
          rfl

theorem code?_assign (free : dictionary.iri? code = none) (other : Iri) :
    (dictionary.assign iri code free).code? other =
      if other = iri then some code else dictionary.code? other := by
  have entries : (dictionary.assign iri code free).entries =
      dictionary.entries.filter (·.1 != iri) ++ [(iri, code)] := rfl
  ext wanted
  rw [code?_eq_some_iff, entries]
  by_cases same : other = iri
  · simp [same, eq_comm]
  · simp [same, code?_eq_some_iff]

theorem code?_of_insert (inserted : dictionary.insert iri code = .ok extended) (other : Iri) :
    extended.code? other = if other = iri then some code else dictionary.code? other := by
  cases found : dictionary.iri? code with
  | none =>
      rw [insert_of_free found] at inserted
      cases inserted
      exact code?_assign found other
  | some existing =>
      rw [insert_of_taken found] at inserted
      split at inserted
      next same =>
        cases inserted
        subst same
        split
        next here => rw [here, iri?_eq_some_iff_code?.mp found]
        next => rfl
      next => cases inserted

theorem iri?_of_insert (inserted : dictionary.insert iri code = .ok extended) (other : Code) :
    extended.iri? other =
      if other = code then some iri
      else if dictionary.code? iri = some other then none else dictionary.iri? other := by
  have codes := code?_of_insert inserted
  ext wanted
  rw [iri?_eq_some_iff_code?, codes]
  by_cases here : wanted = iri
  · subst here
    by_cases same : other = code
    · simp [same]
    · have unowned : dictionary.iri? other = some wanted → dictionary.code? wanted = some other :=
        iri?_eq_some_iff_code?.mp
      simp only [↓reduceIte, Option.some.injEq, same, Ne.symm same, false_iff]
      split
      next => simp
      next differs => exact fun owned => differs (unowned owned)
  · by_cases same : other = code
    · subst same
      have taken : dictionary.code? wanted = some other → False := by
        intro owned
        have existing := iri?_eq_some_iff_code?.mpr owned
        rw [insert_of_taken existing, if_neg here] at inserted
        cases inserted
      simp only [if_neg here, ↓reduceIte, Option.some.injEq, Ne.symm here, iff_false]
      exact taken
    · rw [if_neg here, if_neg same, ← iri?_eq_some_iff_code?]
      split
      next former =>
        have owner := iri?_eq_some_iff_code?.mpr former
        simp [owner, Ne.symm here]
      next => rfl

end Insert

/-- What can be asked of a dictionary, however it is kept. -/
structure View where
  code? : Iri → Option Code
  iri? : Code → Option Iri
  entries : List (Iri × Code)
  size : Nat
  isEmpty : Bool
  contains : Iri → Bool

namespace View

structure Same (left right : View) : Prop where
  code? : ∀ iri, left.code? iri = right.code? iri
  iri? : ∀ code, left.iri? code = right.iri? code
  entries : left.entries.Perm right.entries
  size : left.size = right.size
  isEmpty : left.isEmpty = right.isEmpty
  contains : ∀ iri, left.contains iri = right.contains iri

/-- All answers tell of the same pairs, in which no identifier and no code occurs twice. -/
structure Bijective (view : View) : Prop where
  inverse : ∀ iri code, view.code? iri = some code ↔ view.iri? code = some iri
  once : view.entries.Nodup
  listed : ∀ iri code, (iri, code) ∈ view.entries ↔ view.code? iri = some code
  counted : view.size = {pair : Iri × Code | view.code? pair.1 = some pair.2}.ncard
  empty : view.isEmpty = true ↔ ∀ iri, view.code? iri = none
  contained : ∀ iri, view.contains iri = true ↔ ∃ code, view.code? iri = some code

theorem Bijective.of_same {left right : View} (bijective : right.Bijective) (same : left.Same right) :
    left.Bijective := by
  constructor
  · intro iri code
    rw [same.code?, same.iri?, bijective.inverse]
  · exact same.entries.nodup_iff.mpr bijective.once
  · intro iri code
    rw [same.entries.mem_iff, same.code?, bijective.listed]
  · simp only [same.size, same.code?, bijective.counted]
  · simp only [same.isEmpty, same.code?, bijective.empty]
  · intro iri
    simp only [same.contains, same.code?, bijective.contained]

end View

def view (dictionary : Dictionary) : View where
  code? := dictionary.code?
  iri? := dictionary.iri?
  entries := dictionary.entries
  size := dictionary.size
  isEmpty := dictionary.isEmpty
  contains := dictionary.contains

theorem nodup_entries (dictionary : Dictionary) : dictionary.entries.Nodup :=
  List.Nodup.of_map _ dictionary.nodup_iris

theorem bijective_view (dictionary : Dictionary) : dictionary.view.Bijective := by
  constructor
  · intro iri code
    exact iri?_eq_some_iff_code?.symm
  · exact dictionary.nodup_entries
  · intro iri code
    exact code?_eq_some_iff.symm
  · have pairs : {pair : Iri × Code | dictionary.code? pair.1 = some pair.2} =
        (dictionary.entries.toFinset : Set (Iri × Code)) := by
      ext ⟨iri, code⟩
      simp [code?_eq_some_iff]
    simp only [view, pairs, Set.ncard_coe_finset, List.toFinset_card_of_nodup dictionary.nodup_entries, size]
  · simp only [view, isEmpty, List.isEmpty_iff]
    constructor
    · intro nothing iri
      simp [code?, nothing]
    · intro unknown
      rw [List.eq_nil_iff_forall_not_mem]
      rintro ⟨iri, code⟩ member
      have known := code?_eq_some_iff.mpr member
      rw [unknown iri] at known
      cases known
  · intro iri
    exact contains_iff_code?

/-- Two tables whose types say nothing of each other. -/
structure Tables where
  codes : Std.HashMap Iri Code
  iris : Std.HashMap Code Iri

namespace Tables

def empty : Tables := ⟨∅, ∅⟩

def view (tables : Tables) : View where
  code? iri := tables.codes[iri]?
  iri? code := tables.iris[code]?
  entries := tables.iris.toList.map Prod.swap
  size := tables.codes.size
  isEmpty := tables.codes.isEmpty
  contains iri := tables.codes.contains iri

def put (tables : Tables) (iri : Iri) (code : Code) : Tables where
  codes := tables.codes.insert iri code
  iris :=
    (match tables.codes[iri]? with
      | some former => tables.iris.erase former
      | none => tables.iris).insert code iri

def insert (tables : Tables) (iri : Iri) (code : Code) : Except CoderError Unit × Tables :=
  match tables.iris[code]? with
  | some existing =>
      if existing = iri then (.ok (), tables.put iri code)
      else (.error (.duplicateCode code existing iri), tables)
  | none => (.ok (), tables.put iri code)

structure Mirrors (tables : Tables) (dictionary : Dictionary) : Prop where
  codes : ∀ iri, tables.codes[iri]? = dictionary.code? iri
  iris : ∀ code, tables.iris[code]? = dictionary.iri? code

theorem mirrors_empty : empty.Mirrors Dictionary.empty := by
  constructor
  · intro iri
    simp [empty, code?, Dictionary.empty]
  · intro code
    simp [empty, iri?, Dictionary.empty]

theorem nodup_toList {α β : Type} [BEq α] [LawfulBEq α] [Hashable α] (table : Std.HashMap α β) :
    table.toList.Nodup := by
  refine Std.HashMap.distinct_keys_toList.imp ?_
  intro left right differ same
  simp [same] at differ

section Step

variable {tables : Tables} {dictionary : Dictionary} {iri : Iri} {code : Code}

theorem mirrors_put (mirrored : tables.Mirrors dictionary) {extended : Dictionary}
    (inserted : dictionary.insert iri code = .ok extended) : (tables.put iri code).Mirrors extended := by
  constructor
  · intro other
    rw [code?_of_insert inserted, put, Std.HashMap.getElem?_insert, mirrored.codes]
    by_cases same : other = iri
    · simp [same]
    · simp [same, Ne.symm same]
  · intro other
    rw [iri?_of_insert inserted, put, Std.HashMap.getElem?_insert, mirrored.codes]
    by_cases same : other = code
    · simp [same]
    · simp only [beq_iff_eq, Ne.symm same, ↓reduceIte, same]
      cases dictionary.code? iri with
      | none => simp [mirrored.iris]
      | some former =>
          simp only [Std.HashMap.getElem?_erase, mirrored.iris, Option.some.injEq, beq_iff_eq]

theorem insert_error {error : CoderError} (mirrored : tables.Mirrors dictionary)
    (failed : dictionary.insert iri code = .error error) :
    tables.insert iri code = (.error error, tables) := by
  obtain ⟨existing, differs, taken, rfl⟩ := insert_eq_error_iff.mp failed
  simp only [insert, mirrored.iris, taken, if_neg differs]

theorem insert_ok {extended : Dictionary} (mirrored : tables.Mirrors dictionary)
    (inserted : dictionary.insert iri code = .ok extended) :
    tables.insert iri code = (.ok (), tables.put iri code) := by
  cases found : dictionary.iri? code with
  | none => simp only [insert, mirrored.iris, found]
  | some existing =>
      rw [insert_of_taken found] at inserted
      split at inserted
      next same => simp only [insert, mirrored.iris, found, if_pos same]
      next => cases inserted

theorem same_view (mirrored : tables.Mirrors dictionary) : tables.view.Same dictionary.view := by
  have listed : tables.codes.toList.Perm dictionary.entries := by
    rw [List.perm_ext_iff_of_nodup (nodup_toList _) dictionary.nodup_entries]
    rintro ⟨iri, code⟩
    rw [← code?_eq_some_iff, ← mirrored.codes, Std.HashMap.mem_toList_iff_getElem?_eq_some]
  have swapped : (tables.iris.toList.map Prod.swap).Perm dictionary.entries := by
    rw [List.perm_ext_iff_of_nodup ((nodup_toList _).map Prod.swap_injective) dictionary.nodup_entries]
    rintro ⟨iri, code⟩
    rw [← iri?_eq_some_iff, ← mirrored.iris, ← Std.HashMap.mem_toList_iff_getElem?_eq_some]
    simp
  constructor
  · exact mirrored.codes
  · exact mirrored.iris
  · exact swapped
  · exact Std.HashMap.length_toList.symm.trans listed.length_eq
  · simp only [view, Dictionary.view, Dictionary.isEmpty, ← Std.HashMap.isEmpty_toList]
    rw [Bool.eq_iff_iff, List.isEmpty_iff, List.isEmpty_iff]
    exact ⟨fun nil => List.Perm.nil_eq (nil ▸ listed) |>.symm,
      fun nil => List.Perm.eq_nil (nil ▸ listed)⟩
  · intro iri
    simp only [view, Dictionary.view, Std.HashMap.contains_eq_isSome_getElem?, mirrored.codes, isSome_code?]

end Step

/-- The tables after a run of inserts; one that fails is passed over. -/
def after (inserts : List (Iri × Code)) : Tables :=
  inserts.foldl (fun tables pair => (tables.insert pair.1 pair.2).2) empty

theorem after_concat (inserts : List (Iri × Code)) (iri : Iri) (code : Code) :
    after (inserts ++ [(iri, code)]) = ((after inserts).insert iri code).2 := by
  simp [after]

end Tables

def after (inserts : List (Iri × Code)) : Dictionary :=
  inserts.foldl (fun dictionary pair => (dictionary.insert pair.1 pair.2).toOption.getD dictionary) empty

section Run

variable {inserts : List (Iri × Code)} {iri : Iri} {code : Code}

theorem after_concat_error {error : CoderError} (failed : (after inserts).insert iri code = .error error) :
    after (inserts ++ [(iri, code)]) = after inserts := by
  simp only [after, List.foldl_append, List.foldl_cons, List.foldl_nil] at failed ⊢
  rw [failed]
  rfl

theorem after_concat_ok {extended : Dictionary} (inserted : (after inserts).insert iri code = .ok extended) :
    after (inserts ++ [(iri, code)]) = extended := by
  simp only [after, List.foldl_append, List.foldl_cons, List.foldl_nil] at inserted ⊢
  rw [inserted]
  rfl

theorem mirrors_after (inserts : List (Iri × Code)) : (Tables.after inserts).Mirrors (after inserts) := by
  induction inserts using List.reverseRecOn with
  | nil => exact Tables.mirrors_empty
  | append_singleton inserts pair ih =>
      obtain ⟨iri, code⟩ := pair
      rw [Tables.after_concat]
      cases inserted : (after inserts).insert iri code with
      | error error =>
          rw [after_concat_error inserted, Tables.insert_error ih inserted]
          exact ih
      | ok extended =>
          rw [after_concat_ok inserted, Tables.insert_ok ih inserted]
          exact Tables.mirrors_put ih inserted

def Taken (dictionary : Dictionary) (iri : Iri) (code : Code) : Prop :=
  ∃ other ≠ iri, dictionary.iri? code = some other

theorem insert_fails_iff {dictionary : Dictionary} :
    (∃ error, dictionary.insert iri code = .error error) ↔ dictionary.Taken iri code := by
  simp only [insert_eq_error_iff, Taken]
  constructor
  · rintro ⟨_, existing, differs, taken, _⟩
    exact ⟨existing, differs, taken⟩
  · rintro ⟨existing, differs, taken⟩
    exact ⟨_, existing, differs, taken, rfl⟩

/-- What an insert that succeeds does: the identifier has the code, its former code is free for any other
identifier, and nothing else has changed. -/
structure Remapped (before after : Dictionary) (iri : Iri) (code : Code) : Prop where
  mapped : after.code? iri = some code
  others : ∀ other ≠ iri, after.code? other = before.code? other
  codes : ∀ other ≠ code,
    after.iri? other = if before.code? iri = some other then none else before.iri? other
  freed : ∀ former ≠ code, before.code? iri = some former → ∀ other,
    ∃ reused, after.insert other former = .ok reused ∧ reused.code? other = some former

theorem remapped_of_insert {dictionary extended : Dictionary}
    (inserted : dictionary.insert iri code = .ok extended) : dictionary.Remapped extended iri code := by
  have codes := code?_of_insert inserted
  have iris := iri?_of_insert inserted
  constructor
  · rw [codes, if_pos rfl]
  · intro other differs
    rw [codes, if_neg differs]
  · intro other differs
    rw [iris, if_neg differs]
  · intro former differs owned other
    have free : extended.iri? former = none := by
      rw [iris, if_neg differs, if_pos owned]
    refine ⟨extended.assign other former free, insert_of_free free, ?_⟩
    rw [code?_assign, if_pos rfl]

end Run

/-- After any run of inserts the dictionary is a bijection, and so are two tables that went through the same
run. A further insert fails exactly if its code belongs to another identifier, and then changes nothing; else
it maps the identifier to the code. -/
theorem bijective_after_inserts (inserts : List (Iri × Code)) :
    (after inserts).view.Bijective ∧ (Tables.after inserts).view.Bijective ∧
    (Tables.after inserts).view.Same (after inserts).view ∧
    ∀ iri code,
      ((Tables.after inserts).insert iri code).1 = ((after inserts).insert iri code).map (fun _ => ()) ∧
      ((∃ error, (after inserts).insert iri code = .error error) ↔ (after inserts).Taken iri code) ∧
      ((after inserts).Taken iri code → after (inserts ++ [(iri, code)]) = after inserts ∧
        Tables.after (inserts ++ [(iri, code)]) = Tables.after inserts) ∧
      (¬ (after inserts).Taken iri code →
        (after inserts).Remapped (after (inserts ++ [(iri, code)])) iri code) := by
  have mirrored := mirrors_after inserts
  have same := Tables.same_view mirrored
  have bijective := bijective_view (after inserts)
  refine ⟨bijective, bijective.of_same same, same, ?_⟩
  intro iri code
  refine ⟨?_, insert_fails_iff, ?_, ?_⟩
  · cases inserted : (after inserts).insert iri code with
    | error error => rw [Tables.insert_error mirrored inserted]; rfl
    | ok extended => rw [Tables.insert_ok mirrored inserted]; rfl
  · intro taken
    obtain ⟨error, failed⟩ := insert_fails_iff.mpr taken
    exact ⟨after_concat_error failed, by rw [Tables.after_concat, Tables.insert_error mirrored failed]⟩
  · intro untaken
    cases inserted : (after inserts).insert iri code with
    | error error => exact absurd (insert_fails_iff.mp ⟨error, inserted⟩) untaken
    | ok extended =>
        rw [after_concat_ok inserted]
        exact remapped_of_insert inserted

theorem freed_code_is_given_again :
    (after [(['a'], ⟨1, [1]⟩)]).code? ['a'] = some ⟨1, [1]⟩ ∧
      ∃ reused, (after [(['a'], ⟨1, [1]⟩), (['a'], ⟨1, [2]⟩)]).insert ['b'] ⟨1, [1]⟩ = .ok reused ∧
        reused.code? ['b'] = some ⟨1, [1]⟩ := by
  have owned : (after [(['a'], ⟨1, [1]⟩)]).code? ['a'] = some ⟨1, [1]⟩ := by decide
  have untaken : ¬ (after [(['a'], ⟨1, [1]⟩)]).Taken ['a'] ⟨1, [2]⟩ := by
    rintro ⟨other, _, taken⟩
    have unused : (after [(['a'], ⟨1, [1]⟩)]).iri? ⟨1, [2]⟩ = none := by decide
    rw [unused] at taken
    cases taken
  have remapped := ((bijective_after_inserts [(['a'], ⟨1, [1]⟩)]).2.2.2 ['a'] ⟨1, [2]⟩).2.2.2 untaken
  exact ⟨owned, remapped.freed ⟨1, [1]⟩ (by decide) owned ['b']⟩

end Dictionary

end Termbase
