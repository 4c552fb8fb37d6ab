import Termbase.Text.WordCase

/-! Names of ASCII letters and digits in another case: their words lose nothing and are never empty, so that
the first letter of the name stays the first one. -/

namespace Termbase

section Alphanumeric

variable {c : Char} {text : Text}

theorem toNat_of_alphanumeric (alphanumeric : isAsciiAlphanumeric c = true) : c.toNat < 128 := by
  simp only [isAsciiAlphanumeric, isAsciiLetter, isAsciiDigit, Bool.or_eq_true, Bool.and_eq_true,
    decide_eq_true_eq, Char.le_def, UInt32.le_iff_toNat_le] at alphanumeric
  simp at alphanumeric
  omega

theorem ascii_induction {P : Char → Prop} (holds : ∀ value < 128, P (Char.ofNat value))
    (ascii : c.toNat < 128) : P c := by
  have held := holds c.toNat ascii
  rwa [Char.ofNat_toNat] at held

theorem alphanumeric_induction {P : Char → Prop}
    (holds : ∀ value < 128, isAsciiAlphanumeric (Char.ofNat value) = true → P (Char.ofNat value))
    (alphanumeric : isAsciiAlphanumeric c = true) : P c :=
  ascii_induction (P := fun c => isAsciiAlphanumeric c = true → P c) holds
    (toNat_of_alphanumeric alphanumeric) alphanumeric

theorem clusterClass_of_alphanumeric (alphanumeric : isAsciiAlphanumeric c = true) :
    clusterClass c = .other :=
  alphanumeric_induction (P := fun c => clusterClass c = .other) (by decide +kernel) alphanumeric

theorem asciiUpper_of_ascii (ascii : c.toNat < 128) :
    upperChar c = [asciiUpper c] ∧ (asciiUpper c).toNat < 128 ∧ isAsciiLetter (asciiUpper c) = isAsciiLetter c ∧
      isAsciiAlphanumeric (asciiUpper c) = isAsciiAlphanumeric c ∧ (asciiUpper c == '_') = (c == '_') :=
  ascii_induction (P := fun c => upperChar c = [asciiUpper c] ∧ (asciiUpper c).toNat < 128 ∧
    isAsciiLetter (asciiUpper c) = isAsciiLetter c ∧
    isAsciiAlphanumeric (asciiUpper c) = isAsciiAlphanumeric c ∧ (asciiUpper c == '_') = (c == '_'))
    (by decide +kernel) ascii

theorem asciiUpper_alphanumeric (alphanumeric : isAsciiAlphanumeric c = true) :
    upperChar c = [asciiUpper c] ∧ isAsciiAlphanumeric (asciiUpper c) = true ∧
      isAsciiLetter (asciiUpper c) = isAsciiLetter c := by
  obtain ⟨capital, _, letter, same, _⟩ := asciiUpper_of_ascii (toNat_of_alphanumeric alphanumeric)
  exact ⟨capital, same.trans alphanumeric, letter⟩

theorem asciiLower_alphanumeric (alphanumeric : isAsciiAlphanumeric c = true) :
    c ≠ 'Σ' ∧ lowerChar c = [asciiLower c] ∧ isAsciiAlphanumeric (asciiLower c) = true :=
  alphanumeric_induction
    (P := fun c => c ≠ 'Σ' ∧ lowerChar c = [asciiLower c] ∧ isAsciiAlphanumeric (asciiLower c) = true)
    (by decide +kernel) alphanumeric

theorem not_isSeparator (alphanumeric : isAsciiAlphanumeric c = true) : WordCase.isSeparator [c] = false :=
  alphanumeric_induction (P := fun c => WordCase.isSeparator [c] = false) (by decide +kernel) alphanumeric

theorem clustersAfter_of_alphanumeric (alphanumeric : ∀ c ∈ text, isAsciiAlphanumeric c = true)
    (current : Text) : clustersAfter current (.opened .other) text =
      current.reverse :: text.map ([·]) := by
  induction text generalizing current with
  | nil => rfl
  | cons c rest ih =>
      have apart : (ClusterEnd.opened .other).accepts .other = false := rfl
      rw [clustersAfter, clusterClass_of_alphanumeric (alphanumeric c List.mem_cons_self)]
      simp only [apart, Bool.false_eq_true, if_false]
      rw [ih fun other member => alphanumeric other (List.mem_cons_of_mem _ member)]
      rfl

theorem clusters_of_alphanumeric (alphanumeric : ∀ c ∈ text, isAsciiAlphanumeric c = true) :
    clusters text = text.map ([·]) := by
  cases text with
  | nil => rfl
  | cons c rest =>
      rw [clusters, clusterClass_of_alphanumeric (alphanumeric c List.mem_cons_self),
        clustersAfter_of_alphanumeric fun other member => alphanumeric other (List.mem_cons_of_mem _ member)]
      rfl

theorem lowerAfter_of_alphanumeric (alphanumeric : ∀ c ∈ text, isAsciiAlphanumeric c = true)
    (before : Text) : lowerAfter before text = text.map asciiLower := by
  induction text generalizing before with
  | nil => rfl
  | cons c rest ih =>
      obtain ⟨notSigma, small, _⟩ := asciiLower_alphanumeric (alphanumeric c List.mem_cons_self)
      rw [lowerAfter, ih fun other member => alphanumeric other (List.mem_cons_of_mem _ member),
        if_neg notSigma, small]
      rfl

end Alphanumeric

theorem flatten_clustersAfter (current : Text) (tail : ClusterEnd) (text : Text) :
    (clustersAfter current tail text).flatten = current.reverse ++ text := by
  induction text generalizing current tail with
  | nil => simp [clustersAfter]
  | cons c rest ih =>
      rw [clustersAfter]
      split <;> simp [ih]

theorem flatten_clusters (text : Text) : (clusters text).flatten = text := by
  cases text with
  | nil => rfl
  | cons c rest => simp [clusters, flatten_clustersAfter]

namespace WordCase

/-- What the words of a name are made of: all of it but the separators. -/
def kept (name : Text) : Text := ((clusters name).filter (!isSeparator ·)).flatten

theorem flatten_groups (items : List Text) : (groups items).flatten = items.filter (!isSeparator ·) := by
  induction items with
  | nil => rfl
  | cons first rest ih =>
      rw [groups]
      cases separates : isSeparator first with
      | true => simp [separates, ih]
      | false =>
          rw [if_neg Bool.false_ne_true, List.filter_cons_of_pos (by simp [separates]), ← ih]
          cases groups rest with
          | nil => rfl
          | cons group others =>
              dsimp only
              split <;> simp

theorem flatten_filter (words : List Text) : (words.filter (!·.isEmpty)).flatten = words.flatten := by
  induction words with
  | nil => rfl
  | cons word words ih => cases word <;> simp [ih]

theorem flatten_words (name : Text) : (words name).flatten = kept name := by
  rw [words, flatten_filter, ← List.flatten_flatten, flatten_groups, kept]

theorem ne_nil_of_mem_words {name word : Text} (member : word ∈ words name) : word ≠ [] := by
  rintro rfl
  simp [words] at member

theorem kept_of_alphanumeric {name : Text} (alphanumeric : ∀ c ∈ name, isAsciiAlphanumeric c = true) :
    kept name = name := by
  have joined : ∀ item ∈ clusters name, !isSeparator item := by
    rw [clusters_of_alphanumeric alphanumeric]
    intro item member
    obtain ⟨c, inside, rfl⟩ := List.mem_map.mp member
    rw [not_isSeparator (alphanumeric c inside)]
    rfl
  rw [kept, List.filter_eq_self.mpr joined, flatten_clusters]

theorem capitalize_cons {c : Char} {rest : Text} (first : isAsciiAlphanumeric c = true)
    (others : ∀ other ∈ rest, isAsciiAlphanumeric other = true) :
    capitalize (c :: rest) = asciiUpper c :: rest.map asciiLower := by
  have alphanumeric : ∀ other ∈ c :: rest, isAsciiAlphanumeric other = true := by
    simpa [first] using others
  have flat : (rest.map ([·])).flatten = rest := List.flatMap_singleton' rest
  rw [capitalize, clusters_of_alphanumeric alphanumeric, List.map_cons]
  simp only [flat, Text.upper, Text.lower, lowerAfter_of_alphanumeric others, List.flatMap_singleton,
    (asciiUpper_alphanumeric first).1]
  rfl

theorem capitalize_alphanumeric {word : Text} (alphanumeric : ∀ c ∈ word, isAsciiAlphanumeric c = true) :
    ∀ c ∈ capitalize word, isAsciiAlphanumeric c = true := by
  cases word with
  | nil => simp [capitalize, clusters]
  | cons c rest =>
      rw [List.forall_mem_cons] at alphanumeric
      rw [capitalize_cons alphanumeric.1 alphanumeric.2, List.forall_mem_cons, List.forall_mem_map]
      exact ⟨(asciiUpper_alphanumeric alphanumeric.1).2.1, fun other member =>
        (asciiLower_alphanumeric (alphanumeric.2 other member)).2.2⟩

end WordCase

open WordCase in
theorem pascalCase_alphanumeric {name : Text} (alphanumeric : ∀ c ∈ name, isAsciiAlphanumeric c = true)
    (letter : name.head?.any isAsciiLetter) :
    (pascalCase name).head?.any isAsciiLetter ∧ ∀ c ∈ pascalCase name, isAsciiAlphanumeric c = true := by
  have flat : (words name).flatten = name := by rw [flatten_words, kept_of_alphanumeric alphanumeric]
  have inName : ∀ word ∈ words name, ∀ c ∈ word, isAsciiAlphanumeric c = true := by
    intro word member c inside
    apply alphanumeric
    rw [← flat]
    exact List.mem_flatten.mpr ⟨word, member, inside⟩
  constructor
  · cases found : words name with
    | nil =>
        rw [found] at flat
        rw [← flat] at letter
        cases letter
    | cons word others =>
        have member : word ∈ words name := by simp [found]
        cases word with
        | nil => simp [words] at member
        | cons c rest =>
            have wordOk := inName _ member
            rw [List.forall_mem_cons] at wordOk
            rw [found] at flat
            rw [← flat] at letter
            rw [pascalCase, found, List.flatMap_cons, capitalize_cons wordOk.1 wordOk.2]
            simpa [(asciiUpper_alphanumeric wordOk.1).2.2] using letter
  · intro c inside
    obtain ⟨word, member, inWord⟩ := List.mem_flatMap.mp inside
    exact capitalize_alphanumeric (inName word member) c inWord

end Termbase
