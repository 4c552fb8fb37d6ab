import Termbase.Coder.Known
import Termbase.Proofs.Code.Header
import Termbase.Proofs.Dictionary

/-! Counters and their codes. A coder's codes are those of the counters up to its capacity, and counting goes
on after everything that a dictionary holds. -/

namespace Termbase.KnownCoder

theorem counter?_codeOf (id : CoderId) {counter : Nat} (bounded : counter ≤ capacity) :
    counter? (codeOf id counter) = some counter := by
  have small : counter < 16777216 := Nat.lt_succ_of_le bounded
  have high : (UInt8.ofNat (counter / 65536)).toNat = counter / 65536 :=
    UInt8.toNat_ofNat_of_lt (by simp only [UInt8.size]; omega)
  simp only [counter?, codeOf, Code.payload_make, counterOctets, high, UInt8.toNat_ofNat', Nat.reducePow]
  congr 1
  omega

theorem counter?_bound {code : Code} {counter : Nat} (found : counter? code = some counter) :
    counter ≤ capacity := by
  simp only [counter?] at found
  split at found
  next high middle low _ =>
    have highBound := high.toNat_lt
    have middleBound := middle.toNat_lt
    have lowBound := low.toNat_lt
    simp only [Option.some.injEq] at found
    simp only [capacity]
    omega
  next => cases found

theorem mayOwn_iff {id : CoderId} {code : Code} :
    mayOwn id code = true ↔ ∃ counter ≤ capacity, code = codeOf id counter := by
  constructor
  · intro owned
    simp only [mayOwn, Bool.and_eq_true, Option.isSome_iff_exists, beq_iff_eq] at owned
    obtain ⟨⟨counter, found⟩, header⟩ := owned
    refine ⟨counter, counter?_bound found, ?_⟩
    simp only [counter?] at found
    split at found
    next high middle low payload =>
      simp only [Option.some.injEq] at found
      have highBound := high.toNat_lt
      have middleBound := middle.toNat_lt
      have lowBound := low.toNat_lt
      have highEq : UInt8.ofNat (counter / 65536) = high := by
        apply UInt8.toNat_inj.mp
        rw [UInt8.toNat_ofNat']
        omega
      have middleEq : UInt8.ofNat (counter / 256) = middle := by
        apply UInt8.toNat_inj.mp
        rw [UInt8.toNat_ofNat']
        omega
      have lowEq : UInt8.ofNat counter = low := by
        apply UInt8.toNat_inj.mp
        rw [UInt8.toNat_ofNat']
        omega
      simp only [codeOf, Code.make, counterOctets, highEq, middleEq, lowEq, ← header, ← payload]
    next => cases found
  · rintro ⟨counter, bounded, rfl⟩
    have header : (codeOf id counter).header = id.header .iri := rfl
    simp [mayOwn, counter?_codeOf id bounded, header]

def Owned (id : CoderId) (dictionary : Dictionary) : Prop :=
  ∀ entry ∈ dictionary.entries, mayOwn id entry.2 = true

theorem foreign?_eq_none_iff {id : CoderId} {dictionary : Dictionary} :
    foreign? id dictionary = none ↔ Owned id dictionary := by
  simp [foreign?, Owned]

theorem Owned.congr {id : CoderId} {left right : Dictionary} (same : left.Same right)
    (owned : Owned id left) : Owned id right := by
  intro entry member
  exact owned entry ((List.Perm.mem_iff same).mpr member)

theorem foldl_max_le_iff (values : List Nat) (first bound : Nat) :
    values.foldl max first ≤ bound ↔ first ≤ bound ∧ ∀ value ∈ values, value ≤ bound := by
  induction values generalizing first with
  | nil => simp
  | cons value values ih =>
      simp only [List.foldl_cons, ih, Nat.max_le, List.forall_mem_cons, and_assoc]

theorem firstFree_le_iff {dictionary : Dictionary} {bound : Nat} :
    firstFree dictionary ≤ bound ↔ dictionary.size ≤ bound ∧
      ∀ entry ∈ dictionary.entries, ∀ counter, counter? entry.2 = some counter → counter ≤ bound := by
  simp only [firstFree, highestCounter, Nat.max_le, foldl_max_le_iff, List.mem_filterMap]
  constructor
  · rintro ⟨⟨_, counters⟩, size⟩
    exact ⟨size, fun entry member counter found => counters counter ⟨entry, member, found⟩⟩
  · rintro ⟨size, counters⟩
    exact ⟨⟨Nat.zero_le _, fun counter ⟨entry, member, found⟩ => counters entry member counter found⟩, size⟩

theorem firstFree_congr {left right : Dictionary} (same : left.Same right) :
    firstFree left = firstFree right := by
  have bounds (bound : Nat) : firstFree left ≤ bound ↔ firstFree right ≤ bound := by
    rw [firstFree_le_iff, firstFree_le_iff, same.size]
    simp only [List.Perm.mem_iff same]
  exact Nat.le_antisymm ((bounds _).mpr (Nat.le_refl _)) ((bounds _).mp (Nat.le_refl _))

end Termbase.KnownCoder
