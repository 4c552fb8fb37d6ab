import Termbase.Proofs.Iri.Split
import Termbase.Proofs.Text.ConstantCase
import Termbase.Proofs.TermModule.Names

/-! How the names of terms are told apart. Each term gets the name it wants or the least number that makes it new.
Where the local names are ASCII no term wants a name that looks numbered, so the terms that want one name are
numbered in turn. -/

namespace Termbase.TermModule

section Given

variable {taken other : List Text} {wanted name : Text}

/-- The wanted name if it is not taken, or else the wanted name with the least number from two on that is not
taken, which is at most one more than there are taken names. -/
inductive Given (taken : List Text) (wanted : Text) : Text → Prop
  | free : wanted ∉ taken → Given taken wanted wanted
  | counted {number : Nat} : wanted ∈ taken → 2 ≤ number → number ≤ taken.length + 1 →
      numbered wanted number ∉ taken →
      (∀ smaller, 2 ≤ smaller → smaller < number → numbered wanted smaller ∈ taken) →
      Given taken wanted (numbered wanted number)

theorem numbered_ne_self (name : Text) (number : Nat) : numbered name number ≠ name := by
  intro same
  have lengths := congrArg List.length same
  simp only [numbered, List.length_append, List.length_cons] at lengths
  omega

theorem number_le {step : Nat} (isTaken : wanted ∈ taken)
    (below : ∀ smaller < step, numbered wanted (2 + smaller) ∈ taken) : 2 + step ≤ taken.length + 1 := by
  have others : ∀ smaller < step, numbered wanted (2 + smaller) ∈ taken.erase wanted := by
    intro smaller bounded
    exact (List.mem_erase_of_ne (numbered_ne_self _ _)).mpr (below smaller bounded)
  have fewer := count_le_of_numbered_mem others
  have positive := List.length_pos_of_mem isTaken
  rw [List.length_erase_of_mem isTaken] at fewer
  omega

theorem given_freeName (taken : List Text) (wanted : Text) : Given taken wanted (freeName taken wanted) := by
  unfold freeName
  split
  next isTaken =>
    have isTaken := List.contains_iff_mem.mp isTaken
    obtain ⟨step, found, free, below⟩ := numberedFrom_least (exists_numbered_not_mem taken wanted 2)
    rw [found]
    refine .counted isTaken (Nat.le_add_right 2 step) (number_le isTaken below) free ?_
    intro smaller least bound
    obtain ⟨rest, rfl⟩ := Nat.exists_eq_add_of_le least
    exact below rest (Nat.lt_of_add_lt_add_left bound)
  next isFree => exact .free fun member => isFree (List.contains_iff_mem.mpr member)

theorem Given.perm (given : Given taken wanted name) (same : taken.Perm other) : Given other wanted name := by
  cases given with
  | free isFree => exact .free fun member => isFree (same.mem_iff.mpr member)
  | counted isTaken least bounded isFree below =>
      refine .counted (same.mem_iff.mp isTaken) least (by rwa [← same.length_eq])
        (fun member => isFree (same.mem_iff.mpr member)) ?_
      intro smaller lower upper
      exact same.mem_iff.mp (below smaller lower upper)

theorem getElem?_freeNames (taken names : List Text) (position : Nat) :
    (freeNames taken names)[position]? =
      names[position]?.map (freeName (((freeNames taken names).take position).reverse ++ taken)) := by
  induction names generalizing taken position with
  | nil => rfl
  | cons name names ih =>
      rw [freeNames]
      cases position with
      | zero => rfl
      | succ position =>
          rw [List.getElem?_cons_succ, List.getElem?_cons_succ, ih, List.take_succ_cons, List.reverse_cons,
            List.append_assoc]
          rfl

end Given

section Numbered

variable {entries : List TermEntry} {entry : TermEntry} {name base : Text}

theorem isDigit_of_mem_ofNat {number : Nat} {c : Char} (member : c ∈ Text.ofNat number) : c.isDigit = true :=
  Nat.isDigit_of_mem_toDigits (by decide) (by decide) member

theorem splitAfterLast?_numbered (name : Text) (number : Nat) :
    splitAfterLast? '_' (numbered name number) = some (name ++ ['_', '_'], Text.ofNat number) := by
  apply splitAfterLast?_append
  · rw [List.getLast?_append]
    rfl
  · intro member
    cases isDigit_of_mem_ofNat member

theorem numbered_inj {first second : Text} {number other : Nat}
    (same : numbered first number = numbered second other) : first = second ∧ number = other := by
  have split := splitAfterLast?_numbered first number
  rw [same, splitAfterLast?_numbered] at split
  obtain ⟨before, after⟩ := Prod.mk.inj (Option.some.inj split)
  exact ⟨(List.append_cancel_right before).symm, (ofNat_injective after).symm⟩

/-- The name looks like the numbered form of a name. -/
def IsNumbered (name : Text) : Prop := ∃ other number, name = numbered other number

theorem not_isNumbered_of_not_infix (absent : ¬ ['_', '_'] <:+: name) : ¬ IsNumbered name := by
  rintro ⟨other, number, rfl⟩
  exact absent ⟨other, Text.ofNat number, rfl⟩

/-- A number does not end in a letter. -/
theorem not_isNumbered_class (base : Text) : ¬ IsNumbered (base ++ "_CLASS".toList) := by
  rintro ⟨other, number, same⟩
  have split : splitAfterLast? '_' (base ++ ['_'] ++ "CLASS".toList) = some (base ++ ['_'], "CLASS".toList) :=
    splitAfterLast?_append List.getLast?_concat (by decide)
  rw [List.append_assoc] at split
  have rest := (splitAfterLast?_numbered other number).symm.trans (same ▸ split)
  obtain ⟨_, digits⟩ := Prod.mk.inj (Option.some.inj rest)
  have letter : 'C' ∈ Text.ofNat number := by
    rw [digits]
    exact List.mem_cons_self
  cases isDigit_of_mem_ofNat letter

theorem not_infix_baseName (ascii : IsAscii entry.localName) : ¬ ['_', '_'] <:+: baseName entry := by
  have apart := not_infix_constantCase ascii
  unfold baseName
  split
  next =>
    have absent : '_' ∉ "DEPRECATED".toList := by decide
    exact fun inside => apart (infix_of_infix_append absent inside)
  next => exact fun inside => apart (inside.trans (List.suffix_cons _ _).isInfix)

theorem not_isNumbered_wantedName (ascii : IsAscii entry.localName) : ¬ IsNumbered (wantedName entries entry) := by
  simp only [wantedName]
  split
  next => exact not_isNumbered_class _
  next => exact not_isNumbered_of_not_infix (not_infix_baseName ascii)

end Numbered

section Turns

variable {taken before names : List Text} {wanted : Text} {turn : Nat}

/-- What the terms that want one name get, the first of them with no turn taken before it. -/
def inTurn (wanted : Text) : (turn : Nat) → Text
  | 0 => wanted
  | turn + 1 => numbered wanted (turn + 2)

theorem inTurn_inj {first second : Text} {turn other : Nat} (plain : ¬ IsNumbered first)
    (otherPlain : ¬ IsNumbered second) (same : inTurn first turn = inTurn second other) :
    first = second ∧ turn = other := by
  cases turn with
  | zero =>
      cases other with
      | zero => exact ⟨same, rfl⟩
      | succ other => exact absurd ⟨_, _, same⟩ plain
  | succ turn =>
      cases other with
      | zero => exact absurd ⟨_, _, same.symm⟩ otherPlain
      | succ other =>
          obtain ⟨names, numbers⟩ := numbered_inj same
          exact ⟨names, Nat.succ.inj numbers⟩

def Held (taken before : List Text) : Prop :=
  ∀ name, name ∈ taken ↔ ∃ wanted turn, turn < before.count wanted ∧ name = inTurn wanted turn

theorem held_nil : Held [] [] := by
  intro name
  simp

theorem inTurn_mem_iff (held : Held taken before) (plain : ∀ name ∈ wanted :: before, ¬ IsNumbered name) :
    inTurn wanted turn ∈ taken ↔ turn < before.count wanted := by
  rw [List.forall_mem_cons] at plain
  rw [held]
  constructor
  · rintro ⟨other, otherTurn, earlier, same⟩
    have member := List.count_pos_iff.mp (Nat.zero_lt_of_lt earlier)
    obtain ⟨rfl, rfl⟩ := inTurn_inj plain.1 (plain.2 other member) same
    exact earlier
  · exact fun earlier => ⟨wanted, turn, earlier, rfl⟩

theorem freeName_eq_inTurn (held : Held taken before) (plain : ∀ name ∈ wanted :: before, ¬ IsNumbered name) :
    freeName taken wanted = inTurn wanted (before.count wanted) := by
  have mem_iff (turn : Nat) : inTurn wanted turn ∈ taken ↔ turn < before.count wanted := inTurn_mem_iff held plain
  have given := given_freeName taken wanted
  generalize freeName taken wanted = name at given ⊢
  cases given with
  | free isFree =>
      have none : ¬ 0 < before.count wanted := fun earlier => isFree ((mem_iff 0).mpr earlier)
      rw [Nat.eq_zero_of_not_pos none]
      rfl
  | @counted number isTaken least _ isFree below =>
      obtain ⟨turn, rfl⟩ := Nat.exists_eq_add_of_le' least
      have reached : ¬ turn + 1 < before.count wanted := fun earlier => isFree ((mem_iff (turn + 1)).mpr earlier)
      -- The number below, or the name itself where there is none, belongs to the turn before.
      have passed : turn < before.count wanted := by
        cases turn with
        | zero => exact (mem_iff 0).mp isTaken
        | succ turn => exact (mem_iff (turn + 1)).mp (below (turn + 2) (by omega) (by omega))
      rw [show before.count wanted = turn + 1 by omega]
      rfl

theorem held_cons (held : Held taken before) (wanted : Text) :
    Held (inTurn wanted (before.count wanted) :: taken) (wanted :: before) := by
  intro name
  rw [List.mem_cons, held]
  constructor
  · rintro (rfl | ⟨other, turn, earlier, rfl⟩)
    · exact ⟨wanted, _, by rw [List.count_cons_self]; exact Nat.lt_succ_self _, rfl⟩
    · exact ⟨other, turn, Nat.lt_of_lt_of_le earlier List.count_le_count_cons, rfl⟩
  · rintro ⟨other, turn, earlier, rfl⟩
    by_cases last : other = wanted ∧ turn = before.count wanted
    · obtain ⟨rfl, rfl⟩ := last
      exact Or.inl rfl
    · refine Or.inr ⟨other, turn, ?_, rfl⟩
      by_cases same : other = wanted
      · subst same
        rw [List.count_cons_self] at earlier
        exact Nat.lt_of_le_of_ne (Nat.le_of_lt_succ earlier) fun equal => last ⟨rfl, equal⟩
      · rwa [List.count_cons_of_ne (Ne.symm same)] at earlier

theorem freeNames_in_turn (held : Held taken before) (plainBefore : ∀ name ∈ before, ¬ IsNumbered name)
    (plain : ∀ name ∈ names, ¬ IsNumbered name) (position : Nat) : (freeNames taken names)[position]? =
      names[position]?.map fun wanted => inTurn wanted (before.count wanted + (names.take position).count wanted) := by
  induction names generalizing taken before position with
  | nil => rfl
  | cons name names ih =>
      rw [List.forall_mem_cons] at plain
      have plainHere : ∀ other ∈ name :: before, ¬ IsNumbered other :=
        List.forall_mem_cons.mpr ⟨plain.1, plainBefore⟩
      rw [freeNames, freeName_eq_inTurn held plainHere]
      cases position with
      | zero => rfl
      | succ position =>
          rw [List.getElem?_cons_succ, List.getElem?_cons_succ, ih (held_cons held name) plainHere plain.2 position]
          simp only [List.take_succ_cons, List.count_cons]
          congr! 3
          omega

end Turns

section Wanted

variable {entries : List TermEntry} {entry : TermEntry}

def SharesName (entries : List TermEntry) (entry : TermEntry) : Prop :=
  entry.isClass = true ∧ ∃ property ∈ entries, property.isClass = false ∧ baseName property = baseName entry

theorem sharesName_iff : SharesName entries entry ↔
    (entry.isClass && (propertyNames entries).contains (baseName entry)) = true := by
  rw [Bool.and_eq_true, List.contains_iff_mem, propertyNames, List.mem_map]
  refine and_congr_right fun _ => exists_congr fun property => ?_
  rw [List.mem_filter, Bool.not_eq_true', and_assoc]

theorem wantedName_of_sharesName (shares : SharesName entries entry) :
    wantedName entries entry = baseName entry ++ "_CLASS".toList :=
  if_pos (sharesName_iff.mp shares)

theorem wantedName_of_not_sharesName (alone : ¬ SharesName entries entry) :
    wantedName entries entry = baseName entry :=
  if_neg fun shares => alone (sharesName_iff.mpr shares)

end Wanted

section Constants

variable {entries : List TermEntry} {entry : TermEntry} {position : Nat}

theorem given_constantName (listed : entries[position]? = some entry) :
    ∃ name, (constantNames entries)[position]? = some name ∧
      Given ((constantNames entries).take position) (wantedName entries entry) name := by
  have found := getElem?_freeNames [] (entries.map (wantedName entries)) position
  rw [List.getElem?_map, listed, List.append_nil] at found
  exact ⟨_, found, (given_freeName _ _).perm (List.reverse_perm _)⟩

theorem constantName_in_turn (ascii : ∀ entry ∈ entries, IsAscii entry.localName) (position : Nat) :
    (constantNames entries)[position]? = entries[position]?.map fun entry => inTurn (wantedName entries entry)
      (((entries.take position).map (wantedName entries)).count (wantedName entries entry)) := by
  have plain : ∀ name ∈ entries.map (wantedName entries), ¬ IsNumbered name := by
    rw [List.forall_mem_map]
    exact fun entry member => not_isNumbered_wantedName (ascii entry member)
  rw [constantNames, freeNames_in_turn held_nil (List.forall_mem_nil _) plain, List.getElem?_map, Option.map_map]
  congr 1
  funext entry
  simp only [Function.comp_apply, List.count_nil, Nat.zero_add, List.map_take]

end Constants

/-- Every term gets one name, and no two the same one. A class that shares its name with a property wants another
one. A term gets what it wants if no earlier term has it, or else the least number that makes it new. If all local
names are ASCII, no term wants a name that looks numbered, and the terms that want one name get it in turn. -/
theorem constantNames_are_numbered (entries : List TermEntry) :
    (constantNames entries).length = entries.length ∧ (constantNames entries).Nodup ∧
      (∀ entry, (SharesName entries entry → wantedName entries entry = baseName entry ++ "_CLASS".toList) ∧
        (¬ SharesName entries entry → wantedName entries entry = baseName entry)) ∧
      (∀ (position : Nat) (entry : TermEntry), entries[position]? = some entry →
        ∃ name, (constantNames entries)[position]? = some name ∧
          Given ((constantNames entries).take position) (wantedName entries entry) name) ∧
      ((∀ entry ∈ entries, IsAscii entry.localName) →
        (∀ entry ∈ entries, ¬ IsNumbered (wantedName entries entry)) ∧
        ∀ position : Nat, (constantNames entries)[position]? = entries[position]?.map fun entry =>
          inTurn (wantedName entries entry)
            (((entries.take position).map (wantedName entries)).count (wantedName entries entry))) := by
  refine ⟨length_constantNames entries, (nodup_freeNames [] _).1, ?_, ?_, ?_⟩
  · exact fun entry => ⟨wantedName_of_sharesName, wantedName_of_not_sharesName⟩
  · exact fun position entry listed => given_constantName listed
  · intro ascii
    exact ⟨fun entry member => not_isNumbered_wantedName (ascii entry member), constantName_in_turn ascii⟩

def spelledTwice : List TermEntry :=
  [⟨"fooBar".toList, none, none, false, .none⟩, ⟨"FooBar".toList, none, none, true, .none⟩,
    ⟨"foo_bar".toList, none, none, false, .none⟩, ⟨"foo-bar".toList, none, none, true, .none⟩,
    ⟨"fooBar".toList, none, none, false, ⟨true, [], []⟩⟩]

theorem spellings_are_numbered :
    constantNames spelledTwice = ["FOO_BAR".toList, "FOO_BAR_CLASS".toList, "FOO_BAR__2".toList,
        "FOO_BAR_CLASS__2".toList, "DEPRECATED_FOO_BAR".toList] ∧
      (∀ entry ∈ spelledTwice, IsAscii entry.localName) ∧
      (∀ entry ∈ spelledTwice, ¬ IsNumbered (wantedName spelledTwice entry)) ∧
      Given ["FOO_BAR".toList, "FOO_BAR_CLASS".toList] "FOO_BAR".toList "FOO_BAR__2".toList := by
  have names : constantNames spelledTwice = ["FOO_BAR".toList, "FOO_BAR_CLASS".toList, "FOO_BAR__2".toList,
      "FOO_BAR_CLASS__2".toList, "DEPRECATED_FOO_BAR".toList] := by
    decide +kernel
  have ascii : ∀ entry ∈ spelledTwice, IsAscii entry.localName := by decide
  have wanted : wantedName spelledTwice ⟨"foo_bar".toList, none, none, false, .none⟩ = "FOO_BAR".toList := by
    decide +kernel
  obtain ⟨_, _, _, given, inTurns⟩ := constantNames_are_numbered spelledTwice
  obtain ⟨name, found, given⟩ := given 2 _ rfl
  rw [names] at found given
  rw [wanted] at given
  cases Option.some.inj found
  exact ⟨names, ascii, (inTurns ascii).1, given⟩

end Termbase.TermModule
