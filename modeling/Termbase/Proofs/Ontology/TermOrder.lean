import Mathlib.Data.List.Nodup
import Mathlib.Order.RelClasses
import Termbase.Ontology.TermOrder
import Termbase.Proofs.Text.Order

/-! The order by name: no two names tie, so that items with names of their own have one arrangement, however they
came. -/

namespace Termbase.TermOrder

section Names

variable {left middle right : Text}

theorem nameLe_of_same_key (same : Text.lower left = Text.lower right) : nameLe left right = Text.le left right :=
  if_pos same

theorem nameLe_of_other_key (other : Text.lower left ≠ Text.lower right) :
    nameLe left right = Text.le (Text.lower left) (Text.lower right) :=
  if_neg other

theorem nameLe_total (left right : Text) : (nameLe left right || nameLe right left) = true := by
  by_cases same : Text.lower left = Text.lower right
  · rw [nameLe_of_same_key same, nameLe_of_same_key same.symm]
    exact Text.le_total left right
  · rw [nameLe_of_other_key same, nameLe_of_other_key (Ne.symm same)]
    exact Text.le_total _ _

theorem key_le_of_nameLe (first : nameLe left right = true) :
    Text.le (Text.lower left) (Text.lower right) = true := by
  by_cases same : Text.lower left = Text.lower right
  · rw [same]
    simpa using Text.le_total (Text.lower right) (Text.lower right)
  · rwa [nameLe_of_other_key same] at first

theorem nameLe_antisymm (forth : nameLe left right = true) (back : nameLe right left = true) : left = right := by
  have same : Text.lower left = Text.lower right :=
    Text.le_antisymm (key_le_of_nameLe forth) (key_le_of_nameLe back)
  rw [nameLe_of_same_key same] at forth
  rw [nameLe_of_same_key same.symm] at back
  exact Text.le_antisymm forth back

theorem nameLe_trans (first : nameLe left middle = true) (second : nameLe middle right = true) :
    nameLe left right = true := by
  have keys : Text.le (Text.lower left) (Text.lower right) = true :=
    Text.le_trans (key_le_of_nameLe first) (key_le_of_nameLe second)
  by_cases same : Text.lower left = Text.lower right
  · -- The key in the middle lies between two equal ones.
    have between : Text.lower left = Text.lower middle := by
      apply Text.le_antisymm (key_le_of_nameLe first)
      rw [same]
      exact key_le_of_nameLe second
    rw [nameLe_of_same_key between] at first
    rw [nameLe_of_same_key (between.symm.trans same)] at second
    rw [nameLe_of_same_key same]
    exact Text.le_trans first second
  · rwa [nameLe_of_other_key same]

def NameBefore (left right : Text) : Prop := nameLe left right = true ∧ nameLe right left = false

instance (left right : Text) : Decidable (NameBefore left right) :=
  inferInstanceAs (Decidable (_ ∧ _))

theorem nameBefore_iff : NameBefore left right ↔ nameLe left right = true ∧ left ≠ right := by
  constructor
  · rintro ⟨first, second⟩
    refine ⟨first, ?_⟩
    rintro rfl
    rw [first] at second
    cases second
  · rintro ⟨first, differ⟩
    refine ⟨first, ?_⟩
    rw [← Bool.not_eq_true]
    exact fun back => differ (nameLe_antisymm first back)

instance isStrictTotalOrder_nameBefore : IsStrictTotalOrder Text NameBefore where
  irrefl name before := (nameBefore_iff.mp before).2 rfl
  trans left middle right first second := by
    rw [nameBefore_iff] at *
    refine ⟨nameLe_trans first.1 second.1, ?_⟩
    rintro rfl
    exact first.2 (nameLe_antisymm first.1 second.1)
  trichotomous left right first second := by
    by_contra differ
    rw [nameBefore_iff] at first second
    rcases Bool.or_eq_true_iff.mp (nameLe_total left right) with forth | back
    · exact first ⟨forth, differ⟩
    · exact second ⟨back, Ne.symm differ⟩

end Names

section Arranged

variable {α : Type} {name : α → Text} {items others : List α}

theorem arrange_perm (order : TermOrder) (name : α → Text) (items : List α) :
    (order.arrange name items).Perm items := by
  cases order with
  | name => exact List.mergeSort_perm _ _
  | source => exact List.Perm.refl _

theorem pairwise_arrange (name : α → Text) (items : List α) :
    (arrange .name name items).Pairwise fun left right => nameLe (name left) (name right) = true := by
  apply List.pairwise_mergeSort
  · exact fun _ _ _ => nameLe_trans
  · exact fun _ _ => nameLe_total _ _

theorem pairwise_nameBefore_arrange (unique : (items.map name).Nodup) :
    ((arrange .name name items).map name).Pairwise NameBefore := by
  have apart : ((arrange .name name items).map name).Nodup := ((arrange_perm _ _ _).map name).nodup_iff.mpr unique
  have sorted : ((arrange .name name items).map name).Pairwise fun left right => nameLe left right = true :=
    List.pairwise_map.mpr (pairwise_arrange name items)
  exact (sorted.and apart).imp nameBefore_iff.mpr

theorem arrange_eq_of_pairwise (ascending : (others.map name).Pairwise NameBefore) (perm : items.Perm others) :
    arrange .name name items = others := by
  have apart : (others.map name).Nodup := ascending.imp fun before => (nameBefore_iff.mp before).2
  have sorted : others.Pairwise fun left right => nameLe (name left) (name right) = true :=
    List.pairwise_map.mp (ascending.imp fun before => before.1)
  have same : (arrange .name name items).Perm others := (arrange_perm _ _ _).trans perm
  apply same.eq_of_pairwise _ (pairwise_arrange name items) sorted
  intro left right leftIn rightIn forth back
  exact List.inj_on_of_nodup_map apart (same.mem_iff.mp leftIn) rightIn (nameLe_antisymm forth back)

theorem arrange_eq_of_perm (unique : (items.map name).Nodup) (perm : others.Perm items) :
    arrange .name name others = arrange .name name items :=
  arrange_eq_of_pairwise (pairwise_nameBefore_arrange unique) (perm.trans (arrange_perm _ _ _).symm)

end Arranged

end Termbase.TermOrder
