import Termbase.Proofs.Text.WordCase

/-! Names in capitals, their words joined by underscores. Nothing but the separators of the name is lost, and
nothing but the underscores between its words is added. In a name of ASCII characters the words have no underscores
of their own, so that no two of them stand side by side. -/

namespace Termbase

section Capitals

theorem upperChar_ne_nil (c : Char) : upperChar c ≠ [] := by
  have long : ∀ entry ∈ CaseTable.longCapitals, entry.2 ≠ [] := by decide
  unfold upperChar
  split
  next => exact List.cons_ne_nil _ _
  next =>
    split
    next entry found => simpa using long entry (List.mem_of_find?_eq_some found)
    next => exact List.cons_ne_nil _ _

theorem upper_ne_nil {word : Text} (nonempty : word ≠ []) : Text.upper word ≠ [] := by
  obtain ⟨c, rest, rfl⟩ := List.exists_cons_of_ne_nil nonempty
  simp [Text.upper, upperChar_ne_nil]

theorem flatten_map_upper (words : List Text) : (words.map Text.upper).flatten = Text.upper words.flatten := by
  induction words with
  | nil => rfl
  | cons word words ih => rw [List.map_cons, List.flatten_cons, ih]; simp [Text.upper]

end Capitals

section Join

variable {words : List Text}

theorem join_cons_cons (c : Char) (word : Text) (words : List Text) :
    Text.join ['_'] ((c :: word) :: words) = c :: Text.join ['_'] (word :: words) := by
  cases words <;> rfl

theorem all_join {passes : Char → Bool} (underscore : passes '_' = true) (words : List Text) :
    (Text.join ['_'] words).all passes = words.flatten.all passes := by
  induction words with
  | nil => rfl
  | cons word words ih =>
      cases words with
      | nil => simp [Text.join]
      | cons next words => simp [Text.join, underscore, ih]

theorem join_eq_nil_iff {word : Text} (proper : ∀ other ∈ words, other ≠ []) :
    Text.join ['_'] (word :: words) = [] ↔ (word :: words).flatten = [] := by
  cases words with
  | nil => simp [Text.join]
  | cons next words =>
      have nonempty := proper next List.mem_cons_self
      simp [Text.join, nonempty]

theorem not_infix_of_not_mem {text : Text} (absent : '_' ∉ text) : ¬ ['_', '_'] <:+: text :=
  fun inside => absent (inside.subset List.mem_cons_self)

theorem infix_of_infix_append {word text : Text} (absent : '_' ∉ word) (inside : ['_', '_'] <:+: word ++ text) :
    ['_', '_'] <:+: text := by
  induction word with
  | nil => exact inside
  | cons c word ih =>
      rw [List.mem_cons, not_or] at absent
      rw [List.cons_append, List.infix_cons_iff, List.cons_prefix_cons] at inside
      rcases inside with ⟨same, _⟩ | later
      · exact absurd same absent.1
      · exact ih absent.2 later

theorem not_infix_join (proper : ∀ word ∈ words, word ≠ [] ∧ '_' ∉ word) :
    ¬ ['_', '_'] <:+: '_' :: Text.join ['_'] words := by
  induction words with
  | nil => exact fun inside => absurd inside.length_le (by decide)
  | cons word words ih =>
      rw [List.forall_mem_cons] at proper
      obtain ⟨⟨nonempty, absent⟩, proper⟩ := proper
      obtain ⟨c, rest, rfl⟩ := List.exists_cons_of_ne_nil nonempty
      have different : '_' ≠ c := fun same => absent (same ▸ List.mem_cons_self)
      rw [join_cons_cons, List.infix_cons_iff, List.cons_prefix_cons, List.cons_prefix_cons]
      rintro (⟨_, same, _⟩ | inside)
      · exact different same
      · cases words with
        | nil => exact not_infix_of_not_mem absent inside
        | cons next words =>
            rw [← join_cons_cons] at inside
            simp only [Text.join, List.append_assoc] at inside
            exact ih proper (infix_of_infix_append absent inside)

end Join

namespace WordCase

theorem constantCase_eq (name : Text) : ∃ capitals : List Text, constantCase name = Text.join ['_'] capitals ∧
    capitals.flatten = Text.upper (kept name) ∧ ∀ word ∈ capitals, word ≠ [] := by
  refine ⟨(words name).map Text.upper, rfl, ?_, ?_⟩
  · rw [flatten_map_upper, flatten_words]
  · intro word member
    obtain ⟨original, inside, rfl⟩ := List.mem_map.mp member
    exact upper_ne_nil (ne_nil_of_mem_words inside)

end WordCase

def IsAscii (text : Text) : Prop := ∀ c ∈ text, c.toNat < 128

instance (text : Text) : Decidable (IsAscii text) := List.decidableBAll _ text

def asciiClasses : List ClusterClass := [.carriageReturn, .lineFeed, .control, .other]

section Ascii

variable {c : Char} {text name : Text}

theorem clusterClass_of_ascii (ascii : c.toNat < 128) :
    clusterClass c ∈ asciiClasses ∧ (clusterClass c = .carriageReturn → c = '\r') ∧
      (clusterClass c = .lineFeed → c = '\n') :=
  ascii_induction
    (P := fun c => clusterClass c ∈ asciiClasses ∧ (clusterClass c = .carriageReturn → c = '\r') ∧
      (clusterClass c = .lineFeed → c = '\n')) (by decide +kernel) ascii

theorem underscore_not_mem_upperChar (ascii : c.toNat < 128) (different : c ≠ '_') : '_' ∉ upperChar c := by
  obtain ⟨capital, _, _, _, underscore⟩ := asciiUpper_of_ascii ascii
  rw [capital, List.mem_singleton]
  intro same
  rw [← same] at underscore
  exact different (beq_iff_eq.mp underscore.symm)

theorem upper_of_ascii (ascii : IsAscii text) : Text.upper text = text.map asciiUpper := by
  induction text with
  | nil => rfl
  | cons c rest ih =>
      obtain ⟨first, later⟩ := List.forall_mem_cons.mp ascii
      rw [Text.upper, List.flatMap_cons, (asciiUpper_of_ascii first).1, List.map_cons, ← ih later]
      rfl

theorem isAscii_upper (ascii : IsAscii text) : IsAscii (Text.upper text) := by
  rw [upper_of_ascii ascii, IsAscii, List.forall_mem_map]
  exact fun c member => (asciiUpper_of_ascii (ascii c member)).2.1

theorem accepts_asciiClasses {tail : ClusterEnd} {next : ClusterClass} (lastClass : tail.last ∈ asciiClasses)
    (nextClass : next ∈ asciiClasses) (accepted : tail.accepts next = true) :
    tail.last = .carriageReturn ∧ next = .lineFeed := by
  simp only [asciiClasses, List.mem_cons, List.not_mem_nil, or_false] at lastClass nextClass
  rcases lastClass with last | last | last | last <;> rcases nextClass with rfl | rfl | rfl | rfl <;>
    simp [ClusterEnd.accepts, last] at accepted ⊢

theorem accepts_of_ascii {last : Char} {tail : ClusterEnd} (atEnd : tail.last = clusterClass last)
    (lastAscii : last.toNat < 128) (ascii : c.toNat < 128) (accepted : tail.accepts (clusterClass c) = true) :
    last = '\r' ∧ c = '\n' := by
  obtain ⟨lastClass, isReturn, _⟩ := clusterClass_of_ascii lastAscii
  obtain ⟨nextClass, _, isLineFeed⟩ := clusterClass_of_ascii ascii
  rw [← atEnd] at lastClass isReturn
  obtain ⟨first, second⟩ := accepts_asciiClasses lastClass nextClass accepted
  exact ⟨isReturn first, isLineFeed second⟩

open WordCase

/-- The cluster is one character, or no character of it would separate words if it stood alone. -/
def IsSimple (cluster : Text) : Prop := (∃ c, cluster = [c]) ∨ ∀ c ∈ cluster, isSeparator [c] = false

theorem simple_clustersAfter {last : Char} {before : Text} {tail : ClusterEnd}
    (atEnd : tail.last = clusterClass last) (simple : IsSimple (last :: before).reverse)
    (lastAscii : last.toNat < 128) (ascii : IsAscii text) :
    ∀ cluster ∈ clustersAfter (last :: before) tail text, IsSimple cluster := by
  induction text generalizing last before tail with
  | nil => simpa [clustersAfter] using simple
  | cons c rest ih =>
      have firstAscii : c.toNat < 128 := ascii c List.mem_cons_self
      have restAscii : IsAscii rest := fun other member => ascii other (List.mem_cons_of_mem _ member)
      rw [clustersAfter]
      split
      next accepted =>
        obtain ⟨rfl, rfl⟩ := accepts_of_ascii atEnd lastAscii firstAscii accepted
        refine ih rfl (Or.inr ?_) firstAscii restAscii
        rw [List.reverse_cons, List.forall_mem_append]
        refine ⟨?_, List.forall_mem_singleton.mpr (by decide)⟩
        rcases simple with ⟨single, same⟩ | others
        · have alone : before = [] := by simpa using congrArg List.length same
          rw [alone]
          exact List.forall_mem_singleton.mpr (by decide)
        · exact others
      next =>
        rw [List.forall_mem_cons]
        exact ⟨simple, ih rfl (Or.inl ⟨c, rfl⟩) firstAscii restAscii⟩

theorem simple_clusters (ascii : IsAscii text) : ∀ cluster ∈ clusters text, IsSimple cluster := by
  cases text with
  | nil => simp [clusters]
  | cons c rest =>
      exact simple_clustersAfter rfl (Or.inl ⟨c, rfl⟩) (ascii c List.mem_cons_self)
        fun other member => ascii other (List.mem_cons_of_mem _ member)

theorem exists_of_isSeparator {cluster : Text} (separates : isSeparator cluster = true) :
    ∃ c, cluster = [c] := by
  simp only [isSeparator, Bool.or_eq_true, beq_iff_eq] at separates
  rcases separates with (rfl | rfl) | rfl
  · exact ⟨_, rfl⟩
  · exact ⟨_, rfl⟩
  · exact ⟨_, rfl⟩

theorem filter_of_simple {cluster : Text} (simple : IsSimple cluster) :
    cluster.filter (fun c => !isSeparator [c]) = if isSeparator cluster then [] else cluster := by
  cases separates : isSeparator cluster with
  | true =>
      obtain ⟨c, rfl⟩ := exists_of_isSeparator separates
      simp [separates]
  | false =>
      rw [if_neg Bool.false_ne_true, List.filter_eq_self]
      intro c member
      rcases simple with ⟨single, rfl⟩ | others
      · obtain rfl := List.mem_singleton.mp member
        simp [separates]
      · simp [others c member]

theorem flatten_filter_simple {items : List Text} (simple : ∀ item ∈ items, IsSimple item) :
    (items.filter (!isSeparator ·)).flatten = items.flatten.filter fun c => !isSeparator [c] := by
  induction items with
  | nil => rfl
  | cons item items ih =>
      rw [List.forall_mem_cons] at simple
      rw [List.flatten_cons, List.filter_append, filter_of_simple simple.1, ← ih simple.2]
      cases separates : isSeparator item with
      | true => simp [separates]
      | false => simp [separates]

theorem kept_of_ascii (ascii : IsAscii name) : kept name = name.filter fun c => !isSeparator [c] := by
  rw [kept, flatten_filter_simple (simple_clusters ascii), flatten_clusters]

theorem isAscii_kept (ascii : IsAscii name) : IsAscii (kept name) := by
  rw [kept_of_ascii ascii]
  exact fun c member => ascii c (List.mem_filter.mp member).1

theorem underscore_not_mem_upper_kept (ascii : IsAscii name) : '_' ∉ Text.upper (kept name) := by
  rw [kept_of_ascii ascii]
  intro member
  obtain ⟨c, inside, capital⟩ := List.mem_flatMap.mp member
  obtain ⟨inside, joined⟩ := List.mem_filter.mp inside
  refine underscore_not_mem_upperChar (ascii c inside) ?_ capital
  rintro rfl
  cases joined

theorem not_infix_constantCase (ascii : IsAscii name) : ¬ ['_', '_'] <:+: '_' :: constantCase name := by
  obtain ⟨capitals, joined, flat, proper⟩ := constantCase_eq name
  have absent := underscore_not_mem_upper_kept ascii
  rw [← flat] at absent
  rw [joined]
  apply not_infix_join
  intro word member
  exact ⟨proper word member, fun inside => absent (List.mem_flatten.mpr ⟨word, member, inside⟩)⟩

end Ascii

end Termbase
