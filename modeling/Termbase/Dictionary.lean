import Termbase.CoderError

/-! A dictionary: pairs of an identifier and its code, in which no identifier and no code occurs twice. -/

namespace Termbase

structure Dictionary where
  entries : List (Iri × Code)
  nodup_iris : (entries.map (·.1)).Nodup
  nodup_codes : (entries.map (·.2)).Nodup

namespace Dictionary

def empty : Dictionary := ⟨[], List.nodup_nil, List.nodup_nil⟩

def size (dictionary : Dictionary) : Nat := dictionary.entries.length

def isEmpty (dictionary : Dictionary) : Bool := dictionary.entries.isEmpty

def code? (dictionary : Dictionary) (iri : Iri) : Option Code :=
  (dictionary.entries.find? (·.1 == iri)).map (·.2)

def contains (dictionary : Dictionary) (iri : Iri) : Bool :=
  dictionary.entries.any (·.1 == iri)

def iri? (dictionary : Dictionary) (code : Code) : Option Iri :=
  (dictionary.entries.find? (·.2 == code)).map (·.1)

theorem iri?_eq_none_iff {dictionary : Dictionary} {code : Code} :
    dictionary.iri? code = none ↔ ∀ entry ∈ dictionary.entries, entry.2 ≠ code := by
  simp [iri?]

/-- Gives an identifier a code that no identifier has. A former code of the identifier becomes free. -/
def assign (dictionary : Dictionary) (iri : Iri) (code : Code) (free : dictionary.iri? code = none) :
    Dictionary where
  entries := dictionary.entries.filter (·.1 != iri) ++ [(iri, code)]
  nodup_iris := by
    rw [List.map_append, List.nodup_append]
    refine ⟨dictionary.nodup_iris.sublist (List.filter_sublist.map _), by simp, ?_⟩
    intro left leftIn right rightIn
    obtain ⟨entry, entryIn, rfl⟩ := List.mem_map.mp leftIn
    have differs := (List.mem_filter.mp entryIn).2
    have same : right = iri := by simpa using rightIn
    rw [same]
    simpa using differs
  nodup_codes := by
    rw [List.map_append, List.nodup_append]
    refine ⟨dictionary.nodup_codes.sublist (List.filter_sublist.map _), by simp, ?_⟩
    intro left leftIn right rightIn
    obtain ⟨entry, entryIn, rfl⟩ := List.mem_map.mp leftIn
    have same : right = code := by simpa using rightIn
    rw [same]
    exact iri?_eq_none_iff.mp free entry (List.mem_filter.mp entryIn).1

/-- Adds or replaces the code of an identifier, unless another identifier has that code. -/
def insert (dictionary : Dictionary) (iri : Iri) (code : Code) : Except CoderError Dictionary :=
  match found : dictionary.iri? code with
  | none => .ok (dictionary.assign iri code found)
  | some existing =>
      if existing = iri then .ok dictionary else .error (.duplicateCode code existing iri)

def insertAll (dictionary : Dictionary) : List (Iri × Code) → Except CoderError Dictionary
  | [] => .ok dictionary
  | (iri, code) :: rest => do (← dictionary.insert iri code).insertAll rest

def sorted (dictionary : Dictionary) : List (Iri × Code) :=
  dictionary.entries.mergeSort fun left right => Text.le left.1 right.1

end Dictionary

end Termbase
