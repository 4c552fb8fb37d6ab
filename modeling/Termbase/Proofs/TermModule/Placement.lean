import Termbase.Proofs.TermModule.ModuleList

/-! Where the declaration of a module goes: right before the first one of a later module, or else right behind the
last one. All other lines stay as they are, names that ascend still do, and a second declaration changes nothing. -/

namespace Termbase.TermModule

def declaredModules (lines : List Text) : List Text := lines.filterMap declared?

def Ascending (names : List Text) : Prop := names.Pairwise fun first second => ¬ second < first

def StrictlyAscending (names : List Text) : Prop := names.Pairwise (· < ·)

/-- Lines, and the same lines with the declaration of a module at one place among them. -/
inductive Placed (module : Text) : List Text → List Text → Prop
  | before {earlier rest : List Text} {later : Text} : (∀ name ∈ declaredModules earlier, ¬ module < name) →
      module < later →
      Placed module (earlier ++ declarationOf later :: rest)
        (earlier ++ declarationOf module :: declarationOf later :: rest)
  | behind {earlier rest : List Text} {last : Text} : (∀ name ∈ declaredModules earlier, ¬ module < name) →
      ¬ module < last → declaredModules rest = [] →
      Placed module (earlier ++ declarationOf last :: rest)
        (earlier ++ declarationOf last :: declarationOf module :: rest)
  | atEnd {lines : List Text} : declaredModules lines = [] → Placed module lines (lines ++ [declarationOf module])

section Placement

variable {module line : Text} {lines placed : List Text}

theorem declared?_eq_some_iff : declared? line = some module ↔ line = declarationOf module := by
  constructor
  · intro found
    obtain ⟨rest, start, ending⟩ := Option.bind_eq_some_iff.mp found
    rw [Text.stripPrefix?_eq_some_iff] at start
    rw [Text.stripSuffix?_eq_some_iff] at ending
    rw [start, ending, declarationOf, List.append_assoc]
  · rintro rfl
    exact declared?_declarationOf module

theorem isDeclaration_iff : isDeclaration line = true ↔ ∃ name, line = declarationOf name := by
  simp only [isDeclaration, Option.isSome_iff_exists, declared?_eq_some_iff]

theorem declaresLater_iff :
    declaresLater module line = true ↔ ∃ later, line = declarationOf later ∧ module < later := by
  simp only [declaresLater, Option.any_eq_true, declared?_eq_some_iff, decide_eq_true_eq]

theorem mem_declaredModules : module ∈ declaredModules lines ↔ declarationOf module ∈ lines := by
  simp [declaredModules, declared?_eq_some_iff]

theorem declaredModules_eq_nil_iff : declaredModules lines = [] ↔ lines.any isDeclaration = false := by
  simp [declaredModules, List.any_eq_false, isDeclaration]

@[simp] theorem declaredModules_nil : declaredModules [] = [] := rfl

@[simp] theorem declaredModules_append (first second : List Text) :
    declaredModules (first ++ second) = declaredModules first ++ declaredModules second :=
  List.filterMap_append

@[simp] theorem declaredModules_declarationOf (module : Text) (rest : List Text) :
    declaredModules (declarationOf module :: rest) = module :: declaredModules rest :=
  List.filterMap_cons_some (declared?_declarationOf module)

theorem mem_declaredModules_cons {name : Text} (member : name ∈ declaredModules (line :: lines)) :
    line = declarationOf name ∨ name ∈ declaredModules lines := by
  rw [mem_declaredModules, List.mem_cons] at member
  exact member.imp Eq.symm mem_declaredModules.mpr

theorem Placed.cons (rest : Placed module lines placed) (notLater : declaresLater module line = false)
    (notLast : (isDeclaration line && !lines.any isDeclaration) = false) :
    Placed module (line :: lines) (line :: placed) := by
  have below {earlier : List Text} (others : ∀ name ∈ declaredModules earlier, ¬ module < name) :
      ∀ name ∈ declaredModules (line :: earlier), ¬ module < name := by
    intro name member
    rcases mem_declaredModules_cons member with rfl | inside
    · rw [declaresLater_declarationOf, decide_eq_false_iff_not] at notLater
      exact notLater
    · exact others name inside
  cases rest with
  | before others later => exact @Placed.before _ (line :: _) _ _ (below others) later
  | behind others last none => exact @Placed.behind _ (line :: _) _ _ (below others) last none
  | atEnd none =>
      rw [declaredModules_eq_nil_iff.mp none, Bool.not_false, Bool.and_true] at notLast
      refine @Placed.atEnd _ (line :: lines) ?_
      rw [declaredModules_eq_nil_iff, List.any_cons, notLast, declaredModules_eq_nil_iff.mp none, Bool.or_self]

theorem placed_insertDeclaration (module : Text) (lines : List Text) :
    Placed module lines (insertDeclaration module lines) := by
  induction lines with
  | nil => exact .atEnd rfl
  | cons line rest ih =>
      rw [insertDeclaration_cons]
      split
      next later =>
        obtain ⟨name, rfl, after⟩ := declaresLater_iff.mp later
        exact @Placed.before _ [] _ _ (by simp) after
      next notLater =>
        rw [Bool.not_eq_true] at notLater
        split
        next last =>
          rw [Bool.and_eq_true, Bool.not_eq_true'] at last
          obtain ⟨name, rfl⟩ := isDeclaration_iff.mp last.1
          rw [declaresLater_declarationOf, decide_eq_false_iff_not] at notLater
          exact @Placed.behind _ [] _ _ (by simp) notLater
            (declaredModules_eq_nil_iff.mpr last.2)
        next notLast => exact ih.cons notLater (by simpa using notLast)

theorem Placed.names (place : Placed module lines placed) : ∃ before after,
    declaredModules lines = before ++ after ∧ declaredModules placed = before ++ module :: after ∧
      (∀ name ∈ before, ¬ module < name) ∧ ∀ next ∈ after.head?, module < next := by
  cases place with
  | @before earlier rest later below above =>
      exact ⟨declaredModules earlier, later :: declaredModules rest, by simp, by simp, below, by simpa using above⟩
  | @behind earlier rest last below greatest none =>
      refine ⟨declaredModules earlier ++ [last], [], by simp [none], by simp [none], ?_, by simp⟩
      rw [List.forall_mem_append, List.forall_mem_singleton]
      exact ⟨below, greatest⟩
  | atEnd none => exact ⟨[], [], by simp [none], by simp [none], by simp, by simp⟩

theorem Placed.declaredModules_perm (place : Placed module lines placed) :
    (declaredModules placed).Perm (module :: declaredModules lines) := by
  obtain ⟨before, after, old, new, _, _⟩ := place.names
  rw [old, new]
  exact List.perm_middle

theorem Placed.pairwise {order : Text → Text → Prop} (place : Placed module lines placed)
    (transitive : ∀ first second third, order first second → order second third → order first third)
    (behind : ∀ name ∈ declaredModules lines, ¬ module < name → order name module)
    (ahead : ∀ name, module < name → order module name)
    (sorted : (declaredModules lines).Pairwise order) : (declaredModules placed).Pairwise order := by
  obtain ⟨before, after, old, new, below, above⟩ := place.names
  rw [old] at sorted behind
  rw [new]
  obtain ⟨first, second, across⟩ := List.pairwise_append.mp sorted
  have low (name) (member : name ∈ before) : order name module :=
    behind name (List.mem_append_left _ member) (below name member)
  have high : ∀ name ∈ after, order module name := by
    cases after with
    | nil => simp
    | cons next more =>
        have start := ahead next (above next rfl)
        rw [List.forall_mem_cons]
        exact ⟨start, fun name member => transitive _ _ _ start (List.rel_of_pairwise_cons second member)⟩
  rw [List.pairwise_append, List.pairwise_cons]
  refine ⟨first, ⟨high, second⟩, ?_⟩
  intro name member other also
  rcases List.mem_cons.mp also with rfl | inside
  · exact low name member
  · exact across name member other inside

theorem Placed.ascending (place : Placed module lines placed) (sorted : Ascending (declaredModules lines)) :
    Ascending (declaredModules placed) :=
  place.pairwise (fun _ _ _ => List.le_trans) (fun _ _ below => below) (fun _ => List.lt_asymm) sorted

theorem Placed.strictlyAscending (place : Placed module lines placed) (fresh : declarationOf module ∉ lines)
    (sorted : StrictlyAscending (declaredModules lines)) : StrictlyAscending (declaredModules placed) := by
  refine place.pairwise (fun _ _ _ => List.lt_trans) ?_ (fun _ above => above) sorted
  intro name member below
  have differs : name ≠ module := by
    rintro rfl
    exact fresh (mem_declaredModules.mp member)
  by_contra notBefore
  exact differs (List.le_antisymm below notBefore)

end Placement

section Registered

variable {tree changed : FileTree} {path : Path} {place : Location} {module line content : Text} {lines : List Text}
variable {service : FileTree.WriteService}

theorem isDeclared_iff : isDeclared module lines = true ↔ ∃ line ∈ lines, Text.trim line = declarationOf module := by
  simp [isDeclared]

/-- What is written for a text to which a declaration is added: each line of the text in its order and the
declaration at one place, with a line feed behind each of them. As far as the carriage returns of the text belong
to its line ends, these are the lines that are read again. -/
structure Extended (module content written : Text) : Prop where
  placed : ∃ lines, Placed module (Text.lines content) lines ∧ written = Text.ofLines lines
  read : Text.OnlyLineReturns content → Placed module (Text.lines content) (Text.lines written)
  ascending : Text.OnlyLineReturns content → Ascending (declaredModules (Text.lines content)) →
    Ascending (declaredModules (Text.lines written))
  strictlyAscending : Text.OnlyLineReturns content → StrictlyAscending (declaredModules (Text.lines content)) →
    StrictlyAscending (declaredModules (Text.lines written))
  listed : Text.OnlyLineReturns content →
    (declaredModules (Text.lines written)).Perm (module :: declaredModules (Text.lines content))

theorem extended_insertDeclaration (unbroken : '\n' ∉ module)
    (undeclared : isDeclared module (Text.lines content) = false) :
    Extended module content (Text.ofLines (insertDeclaration module (Text.lines content))) := by
  have place := placed_insertDeclaration module (Text.lines content)
  have back (returns : Text.OnlyLineReturns content) :
      Text.lines (Text.ofLines (insertDeclaration module (Text.lines content))) =
        insertDeclaration module (Text.lines content) := by
    apply Text.lines_ofLines
    intro line member
    rcases mem_insertDeclaration.mp member with rfl | old
    · exact isLine_declarationOf unbroken
    · exact Text.isLine_of_mem_lines returns line old
  have fresh : declarationOf module ∉ Text.lines content := by
    intro member
    rw [isDeclared_iff.mpr ⟨_, member, trim_declarationOf module⟩] at undeclared
    cases undeclared
  constructor
  · exact ⟨_, place, rfl⟩
  · intro returns
    rwa [back returns]
  · intro returns
    rw [back returns]
    exact place.ascending
  · intro returns
    rw [back returns]
    exact place.strictlyAscending fresh
  · intro returns
    rw [back returns]
    exact place.declaredModules_perm

theorem isDeclared_written (unbroken : '\n' ∉ module) (content : Text) :
    isDeclared module (Text.lines (Text.ofLines (insertDeclaration module (Text.lines content)))) = true := by
  have whole : ∀ line ∈ insertDeclaration module (Text.lines content), '\n' ∉ line := by
    intro line member
    rcases mem_insertDeclaration.mp member with rfl | old
    · exact (isLine_declarationOf unbroken).1
    · exact Text.unbroken_of_mem_lines old
  rw [isDeclared_iff, Text.lines_ofLines_of_unbroken whole]
  have kept := Text.dropCarriageReturn_of_isLine (isLine_declarationOf unbroken)
  exact ⟨declarationOf module, List.mem_map.mpr ⟨_, mem_insertDeclaration.mpr (Or.inl rfl), kept⟩,
    trim_declarationOf module⟩

theorem registerBy_of_declared (service : FileTree.WriteService) (read : currentText tree path = .ok content)
    (declared : isDeclared module (Text.lines content) = true) :
    registerBy service tree path module = (.ok false, tree) := by
  simp only [registerBy, read, declaredIn?_eq_none_iff.mpr declared]

def extendedText (module content : Text) : Text := Text.ofLines (insertDeclaration module (Text.lines content))

theorem declaredIn?_of_undeclared (undeclared : isDeclared module (Text.lines content) = false) :
    declaredIn? module content = some (extendedText module content) := by
  rw [declaredIn?_eq_some_iff, declare, undeclared]
  exact ⟨rfl, rfl⟩

theorem registerBy_of_writable (read : currentText tree path = .ok content)
    (undeclared : isDeclared module (Text.lines content) = false) (writable : tree.Writable path place)
    (served : service.Serves tree path (Utf8.encode (extendedText module content))) :
    registerBy service tree path module =
      (.ok true, tree.put place (.file (Utf8.encode (extendedText module content)))) := by
  simp only [registerBy, read, declaredIn?_of_undeclared undeclared, writable.writeAtomicallyBy served]

theorem registerBy_of_unable (read : currentText tree path = .ok content)
    (undeclared : isDeclared module (Text.lines content) = false)
    (unable : ∀ place, tree.Writable path place →
      ¬ service.Serves tree path (Utf8.encode (extendedText module content))) :
    ∃ error, registerBy service tree path module = (.error error, tree) := by
  cases written : tree.writeAtomicallyBy service path (Utf8.encode (extendedText module content)) with
  | mk outcome changed =>
      cases outcome with
      | error error =>
          obtain rfl := FileTree.eq_of_writeAtomicallyBy_error written
          exact ⟨error, by simp only [registerBy, read, declaredIn?_of_undeclared undeclared, written]⟩
      | ok =>
          obtain ⟨served, place, writable, _⟩ := FileTree.writeAtomicallyBy_eq_ok_iff.mp written
          exact absurd served (unable place writable)

theorem registerBy_again {added : Bool} (unbroken : '\n' ∉ module)
    (registered : registerBy service tree path module = (.ok added, changed)) (later : FileTree.WriteService) :
    registerBy later changed path module = (.ok false, changed) := by
  cases registered_of_registerBy registered with
  | known read declared => exact registerBy_of_declared later read declared
  | added read updated writable =>
      obtain ⟨undeclared, rfl⟩ := declaredIn?_eq_some_iff.mp updated
      rw [declare, undeclared, if_neg Bool.false_ne_true]
      exact registerBy_of_declared later (currentText_put writable _) (isDeclared_written unbroken _)

/-- How a call ends: with a failure that changes nothing, because the list cannot be read or, where a line has to be
added, not written or a step of the write is refused; or with the line found, however far it is indented; or with the
line added. -/
inductive RegisterOutcome (service : FileTree.WriteService) (tree : FileTree) (path : Path) (module : Text) :
    Except FileError Bool × FileTree → Prop
  | unreadable {error : FileError} : currentText tree path = .error error →
      RegisterOutcome service tree path module (.error error, tree)
  | known {content : Text} : currentText tree path = .ok content →
      (∃ line ∈ Text.lines content, Text.trim line = declarationOf module) →
      RegisterOutcome service tree path module (.ok false, tree)
  | refused {content : Text} {error : FileError} : currentText tree path = .ok content →
      (∀ line ∈ Text.lines content, Text.trim line ≠ declarationOf module) →
      (∀ place, tree.Writable path place →
        ¬ service.Serves tree path (Utf8.encode (extendedText module content))) →
      RegisterOutcome service tree path module (.error error, tree)
  | added {content written : Text} {place : Location} : currentText tree path = .ok content →
      (∀ line ∈ Text.lines content, Text.trim line ≠ declarationOf module) → tree.Writable path place →
      service.Serves tree path (Utf8.encode written) → Extended module content written →
      currentText (tree.put place (.file (Utf8.encode written))) path = .ok written →
      RegisterOutcome service tree path module (.ok true, tree.put place (.file (Utf8.encode written)))

theorem RegisterOutcome.eq_of_error {call : Except FileError Bool × FileTree} {error : FileError}
    (outcome : RegisterOutcome service tree path module call) (failed : call.1 = .error error) : call.2 = tree := by
  cases outcome with
  | unreadable => rfl
  | known => cases failed
  | refused => rfl
  | added => cases failed

theorem registerOutcome (service : FileTree.WriteService) (tree : FileTree) (path : Path) (unbroken : '\n' ∉ module) :
    RegisterOutcome service tree path module (registerBy service tree path module) := by
  cases read : currentText tree path with
  | error error =>
      have failed : registerBy service tree path module = (.error error, tree) := by simp only [registerBy, read]
      rw [failed]
      exact .unreadable read
  | ok content =>
      by_cases declared : isDeclared module (Text.lines content) = true
      · rw [registerBy_of_declared service read declared]
        exact .known read (isDeclared_iff.mp declared)
      · have absent : ∀ line ∈ Text.lines content, Text.trim line ≠ declarationOf module :=
          fun line member same => declared (isDeclared_iff.mpr ⟨line, member, same⟩)
        rw [Bool.not_eq_true] at declared
        by_cases able : ∃ place, tree.Writable path place ∧
            service.Serves tree path (Utf8.encode (extendedText module content))
        · obtain ⟨place, writable, served⟩ := able
          rw [registerBy_of_writable read declared writable served]
          exact .added read absent writable served (extended_insertDeclaration unbroken declared)
            (currentText_put writable _)
        · have unable : ∀ place, tree.Writable path place →
              ¬ service.Serves tree path (Utf8.encode (extendedText module content)) :=
            fun place writable served => able ⟨place, writable, served⟩
          obtain ⟨error, failed⟩ := registerBy_of_unable read declared unable
          rw [failed]
          exact .refused read absent unable

/-- A call adds the one line, where it belongs, or changes nothing; the next one for the same module finds the
line and changes nothing. -/
theorem register_adds_one_line (service : FileTree.WriteService) {tree : FileTree} {path : Path} {module : Text}
    (unbroken : '\n' ∉ module) :
    RegisterOutcome service tree path module (registerBy service tree path module) ∧
      ∀ added changed, registerBy service tree path module = (.ok added, changed) →
        ∀ later, registerBy later changed path module = (.ok false, changed) := by
  refine ⟨registerOutcome service tree path unbroken, ?_⟩
  intro added changed registered later
  exact registerBy_again unbroken registered later

end Registered

def scatteredText : Text := "pub mod a;\r\n\npub mod c;\n  pub mod e;\nmod x;".toList

def scatteredTree : FileTree := ⟨[], [(["lib.rs".toList], .file (Utf8.encode scatteredText))]⟩

theorem module_goes_before_later_one :
    (∃ changed, register scatteredTree "lib.rs".toList ['b'] = (.ok true, changed) ∧
      currentText changed "lib.rs".toList =
        .ok "pub mod a;\n\npub mod b;\npub mod c;\n  pub mod e;\nmod x;\n".toList ∧
      RegisterOutcome .smooth scatteredTree "lib.rs".toList ['b'] (.ok true, changed) ∧
      register changed "lib.rs".toList ['b'] = (.ok false, changed)) ∧
    registerBy (.refusing .flush .busy) scatteredTree "lib.rs".toList ['b'] = (.error .busy, scatteredTree) := by
  constructor
  · have registered : (register scatteredTree "lib.rs".toList ['b']).1 = .ok true := by decide +kernel
    have read : (currentText (register scatteredTree "lib.rs".toList ['b']).2 "lib.rs".toList).toOption =
        some "pub mod a;\n\npub mod b;\npub mod c;\n  pub mod e;\nmod x;\n".toList := by
      decide +kernel
    have outcome : register scatteredTree "lib.rs".toList ['b'] =
        (.ok true, (register scatteredTree "lib.rs".toList ['b']).2) := by
      rw [← registered]
    obtain ⟨ended, again⟩ := @register_adds_one_line .smooth scatteredTree "lib.rs".toList ['b'] (by decide)
    rw [show registerBy .smooth _ _ _ = _ from outcome] at ended
    exact ⟨_, outcome, ok_of_toOption read, ended, again true _ outcome .smooth⟩
  · have refused : (registerBy (.refusing .flush .busy) scatteredTree "lib.rs".toList ['b']).1 = .error .busy := by
      decide +kernel
    have ended :=
      (@register_adds_one_line (.refusing .flush .busy) scatteredTree "lib.rs".toList ['b'] (by decide)).1
    exact Prod.ext refused (ended.eq_of_error refused)

end Termbase.TermModule
