import Mathlib.Data.List.Nodup

/-! Searches whose result does not depend on the order of the items, since only one of them fits. -/

namespace Termbase

theorem find?_eq_some_iff_of_unique {α : Type} {fits : α → Bool} {items : List α} {item : α}
    (unique : ∀ first ∈ items, ∀ second ∈ items, fits first = true → fits second = true → first = second) :
    items.find? fits = some item ↔ item ∈ items ∧ fits item = true := by
  constructor
  · intro found
    exact ⟨List.mem_of_find?_eq_some found, List.find?_some found⟩
  · rintro ⟨member, fit⟩
    obtain ⟨first, found⟩ := Option.isSome_iff_exists.mp (List.find?_isSome.mpr ⟨item, member, fit⟩)
    rw [found, unique first (List.mem_of_find?_eq_some found) item member (List.find?_some found) fit]

theorem find?_eq_some_iff_of_nodup {α β : Type} [BEq β] [LawfulBEq β] {key : α → β} {items : List α}
    (unique : (items.map key).Nodup) {wanted : β} {item : α} :
    items.find? (key · == wanted) = some item ↔ item ∈ items ∧ key item = wanted := by
  rw [find?_eq_some_iff_of_unique, beq_iff_eq]
  intro first firstMember second secondMember firstFits secondFits
  rw [beq_iff_eq] at firstFits secondFits
  exact List.inj_on_of_nodup_map unique firstMember secondMember (firstFits.trans secondFits.symm)

theorem findSome?_eq_some_iff_of_unique {α β : Type} {result? : α → Option β} {items : List α} {result : β}
    (unique : ∀ first ∈ items, ∀ second ∈ items, (result? first).isSome → (result? second).isSome → first = second) :
    items.findSome? result? = some result ↔ ∃ item ∈ items, result? item = some result := by
  constructor
  · intro found
    exact List.exists_of_findSome?_eq_some found
  · rintro ⟨item, member, fit⟩
    have some : (items.findSome? result?).isSome := List.findSome?_isSome_iff.mpr ⟨item, member, by rw [fit]; rfl⟩
    obtain ⟨other, found⟩ := Option.isSome_iff_exists.mp some
    obtain ⟨first, firstMember, firstFit⟩ := List.exists_of_findSome?_eq_some found
    have same := unique first firstMember item member (by rw [firstFit]; rfl) (by rw [fit]; rfl)
    rw [found, ← firstFit, same, fit]

theorem findSome?_perm_of_unique {α β : Type} {result? : α → Option β} {items others : List α}
    (perm : others.Perm items)
    (unique : ∀ first ∈ items, ∀ second ∈ items, (result? first).isSome → (result? second).isSome → first = second) :
    others.findSome? result? = items.findSome? result? := by
  apply Option.ext
  intro result
  rw [findSome?_eq_some_iff_of_unique unique, findSome?_eq_some_iff_of_unique]
  · simp only [perm.mem_iff]
  · intro first firstMember second secondMember
    exact unique first (perm.mem_iff.mp firstMember) second (perm.mem_iff.mp secondMember)

end Termbase
