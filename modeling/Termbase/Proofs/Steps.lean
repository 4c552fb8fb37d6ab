/-! Steps that may fail: a sequence succeeds exactly when each step does. -/

namespace Termbase

variable {ε α β : Type}

theorem bind_eq_ok_iff {first : Except ε α} {next : α → Except ε β} {result : β} :
    first >>= next = .ok result ↔ ∃ value, first = .ok value ∧ next value = .ok result := by
  cases first with
  | error error => simp [bind, Except.bind]
  | ok value => simp [bind, Except.bind]

theorem ok_of_toOption {outcome : Except ε α} {value : α} (found : outcome.toOption = some value) :
    outcome = .ok value := by
  cases outcome with
  | error => cases found
  | ok => simpa [Except.toOption] using found

theorem toOption_eq_some_iff {outcome : Except ε α} {value : α} :
    outcome.toOption = some value ↔ outcome = .ok value := by
  cases outcome with
  | error => simp [Except.toOption]
  | ok => simp [Except.toOption]

theorem forM_eq_ok_iff {step : α → Except ε Unit} {items : List α} :
    items.forM step = .ok () ↔ ∀ item ∈ items, step item = .ok () := by
  induction items with
  | nil => simp [List.forM, pure, Except.pure]
  | cons item items ih =>
      rw [List.forM, bind_eq_ok_iff, List.forall_mem_cons]
      constructor
      · rintro ⟨_, first, rest⟩
        exact ⟨first, ih.mp rest⟩
      · rintro ⟨first, rest⟩
        exact ⟨(), first, ih.mpr rest⟩

theorem exists_of_forM_eq_error {step : α → Except ε Unit} {items : List α} {error : ε}
    (failed : items.forM step = .error error) : ∃ item ∈ items, step item = .error error := by
  induction items with
  | nil => simp [List.forM, pure, Except.pure] at failed
  | cons item items ih =>
      rw [List.forM] at failed
      cases first : step item with
      | error reason =>
          rw [first] at failed
          cases failed
          exact ⟨item, List.mem_cons_self, first⟩
      | ok _ =>
          rw [first] at failed
          obtain ⟨other, member, found⟩ := ih failed
          exact ⟨other, List.mem_cons_of_mem item member, found⟩

theorem mapM_cons_eq_ok_iff {step : α → Except ε β} {item : α} {items : List α} {results : List β} :
    (item :: items).mapM step = .ok results ↔
      ∃ first rest, step item = .ok first ∧ items.mapM step = .ok rest ∧ first :: rest = results := by
  simp only [List.mapM_cons, bind_eq_ok_iff, pure, Except.pure, Except.ok.injEq]
  constructor
  · rintro ⟨first, done, rest, others, same⟩
    exact ⟨first, rest, done, others, same⟩
  · rintro ⟨first, rest, done, others, same⟩
    exact ⟨first, done, rest, others, same⟩

end Termbase
