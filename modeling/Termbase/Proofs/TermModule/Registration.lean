import Mathlib.Data.List.Basic
import Termbase.Proofs.Text.Lines
import Termbase.TermModule.Registration

/-! The declaration of modules in the file that lists all of them. Declarations of several modules can be made
in any order, wherever the ones that are there already stand. -/

namespace Termbase.TermModule

section Declaration

variable {module other line : Text} {lines rest : List Text}

@[simp] theorem declared?_declarationOf (module : Text) : declared? (declarationOf module) = some module := by
  have start : Text.stripPrefix? declarationStart (declarationOf module) = some (module ++ [';']) :=
    Text.stripPrefix?_eq_some_iff.mpr (by simp [declarationOf])
  rw [declared?, start, Option.bind_some, Text.stripSuffix?_eq_some_iff]

theorem declarationOf_injective (same : declarationOf module = declarationOf other) : module = other := by
  have read := congrArg declared? same
  simpa using read

theorem trim_declarationOf (module : Text) : Text.trim (declarationOf module) = declarationOf module := by
  have start : Text.trimStart (declarationOf module) = declarationOf module := rfl
  have ending : (declarationOf module).reverse = ';' :: (declarationStart ++ module).reverse := by
    simp [declarationOf]
  have last : isBlank ';' = false := by decide
  rw [Text.trim, start, Text.trimEnd, ending, List.dropWhile_cons, last, if_neg Bool.false_ne_true, ← ending,
    List.reverse_reverse]

def isDeclaration (line : Text) : Bool := (declared? line).isSome

theorem isDeclaration_of_declaresLater (later : declaresLater module line = true) : isDeclaration line = true := by
  rw [declaresLater, Option.any_eq_true] at later
  obtain ⟨other, declared, _⟩ := later
  simp [isDeclaration, declared]

theorem declaresLater_declarationOf : declaresLater module (declarationOf other) = decide (module < other) := by
  simp [declaresLater]

theorem declaresLater_trans (before : module < other) (later : declaresLater other line = true) :
    declaresLater module line = true := by
  rw [declaresLater, Option.any_eq_true] at later ⊢
  obtain ⟨third, declared, after⟩ := later
  exact ⟨third, declared, by simpa using List.lt_trans before (by simpa using after)⟩

end Declaration

section Insertion

variable {module other line : Text} {lines rest : List Text}

theorem insertDeclaration_nil (module : Text) : insertDeclaration module [] = [declarationOf module] := rfl

theorem lastDeclarationEnd?_eq (lines : List Text) :
    lastDeclarationEnd? lines = (lines.reverse.findIdx? isDeclaration).map (lines.length - ·) := rfl

theorem lastDeclarationEnd?_cons (line : Text) (rest : List Text) :
    lastDeclarationEnd? (line :: rest) =
      if rest.any isDeclaration then (lastDeclarationEnd? rest).map (· + 1)
      else if isDeclaration line then some 1 else none := by
  rw [lastDeclarationEnd?_eq, lastDeclarationEnd?_eq, List.reverse_cons, List.findIdx?_append]
  cases place : rest.reverse.findIdx? isDeclaration with
  | some index =>
      obtain ⟨inside, declared, _⟩ := List.findIdx?_eq_some_iff_getElem.mp place
      have present : rest.any isDeclaration = true :=
        List.any_eq_true.mpr ⟨_, List.mem_reverse.mp (List.getElem_mem inside), declared⟩
      rw [List.length_reverse] at inside
      simp only [present, if_true, Option.some_or, Option.map_some, List.length_cons, Option.some.injEq]
      omega
  | none =>
      have absent : rest.any isDeclaration = false := by
        rw [List.any_eq_false]
        intro line member
        simpa using List.findIdx?_eq_none_iff.mp place line (List.mem_reverse.mpr member)
      cases declared : isDeclaration line with
      | true => simp [absent, declared]
      | false => simp [absent, declared]

theorem insertionPlace_cons (module line : Text) (rest : List Text) :
    insertionPlace module (line :: rest) =
      if declaresLater module line then 0
      else if isDeclaration line && !rest.any isDeclaration then 1
      else insertionPlace module rest + 1 := by
  rw [insertionPlace, insertionPlace, List.findIdx?_cons, lastDeclarationEnd?_cons]
  by_cases later : declaresLater module line = true
  · simp [later]
  · rw [if_neg later, if_neg later]
    cases present : rest.any isDeclaration with
    | true =>
        have ended : (lastDeclarationEnd? rest).isSome = true := by
          rw [lastDeclarationEnd?_eq, Option.isSome_map, List.findIdx?_isSome, List.any_reverse, present]
        obtain ⟨ending, found⟩ := Option.isSome_iff_exists.mp ended
        cases first : rest.findIdx? (declaresLater module) with
        | none => simp [found]
        | some index => simp
    | false =>
        have none_later : rest.findIdx? (declaresLater module) = none := by
          rw [List.findIdx?_eq_none_iff]
          intro line member
          rw [List.any_eq_false] at present
          cases later : declaresLater module line with
          | false => rfl
          | true => exact absurd (isDeclaration_of_declaresLater later) (present line member)
        have no_end : lastDeclarationEnd? rest = none := by
          rw [lastDeclarationEnd?_eq, Option.map_eq_none_iff, ← Option.isNone_iff_eq_none,
            ← Option.not_isSome, List.findIdx?_isSome, List.any_reverse, present]
          rfl
        cases declared : isDeclaration line with
        | true => simp [none_later]
        | false => simp [none_later, no_end]

theorem insertDeclaration_cons (module line : Text) (rest : List Text) :
    insertDeclaration module (line :: rest) =
      if declaresLater module line then declarationOf module :: line :: rest
      else if isDeclaration line && !rest.any isDeclaration then line :: declarationOf module :: rest
      else line :: insertDeclaration module rest := by
  simp only [insertDeclaration, insertionPlace_cons]
  split
  next => rfl
  next =>
    split
    next => rfl
    next => rfl

theorem any_insertDeclaration (module : Text) (lines : List Text) (holds : Text → Bool) :
    (insertDeclaration module lines).any holds = (holds (declarationOf module) || lines.any holds) := by
  simp only [insertDeclaration, List.any_append, List.any_cons]
  rw [← Bool.or_assoc, Bool.or_comm (List.any _ _) (holds _), Bool.or_assoc, ← List.any_append,
    List.take_append_drop]

theorem mem_insertDeclaration : line ∈ insertDeclaration module lines ↔ line = declarationOf module ∨ line ∈ lines := by
  have split : line ∈ lines ↔ line ∈ lines.take (insertionPlace module lines) ∨
      line ∈ lines.drop (insertionPlace module lines) := by
    rw [← List.mem_append, List.take_append_drop]
  rw [split, insertDeclaration, List.mem_append, List.mem_cons]
  exact or_left_comm

theorem insertDeclaration_comm_of_lt (before : module < other) (lines : List Text) :
    insertDeclaration other (insertDeclaration module lines) =
      insertDeclaration module (insertDeclaration other lines) := by
  have behind : (declaresLater other (declarationOf module)) = false := by
    rw [declaresLater_declarationOf, decide_eq_false_iff_not]
    exact List.lt_asymm before
  have ahead : (declaresLater module (declarationOf other)) = true := by
    rw [declaresLater_declarationOf, decide_eq_true before]
  have known (name : Text) : isDeclaration (declarationOf name) = true := by simp [isDeclaration]
  -- Along the recursion of the insertion: both are placed at this line, one of them is, or none.
  induction lines with
  | nil => simp [insertDeclaration_cons, behind, ahead, known, insertDeclaration_nil]
  | cons line rest ih =>
      by_cases laterModule : declaresLater module line = true
      · have declaration := isDeclaration_of_declaresLater laterModule
        by_cases laterOther : declaresLater other line = true
        · simp [insertDeclaration_cons, behind, ahead, laterModule, laterOther, declaration]
        · -- The module goes before this line, and the other one behind it.
          cases last : !rest.any isDeclaration with
          | true => simp [insertDeclaration_cons, behind, laterModule, laterOther, declaration, last]
          | false => simp [insertDeclaration_cons, behind, laterModule, laterOther, declaration, last]
      · have laterOther : ¬ declaresLater other line = true := fun later =>
          laterModule (declaresLater_trans before later)
        by_cases last : (isDeclaration line && !rest.any isDeclaration) = true
        · obtain ⟨declaration, final⟩ := Bool.and_eq_true_iff.mp last
          rw [Bool.not_eq_true'] at final
          simp [insertDeclaration_cons, behind, ahead, known, laterModule, laterOther, declaration, final]
        · have further (name : Text) :
              ¬ (isDeclaration line && !(insertDeclaration name rest).any isDeclaration) = true := by
            simp [any_insertDeclaration, known]
          rw [insertDeclaration_cons module, insertDeclaration_cons other line rest, if_neg laterModule,
            if_neg laterOther, if_neg last, if_neg last, insertDeclaration_cons, insertDeclaration_cons,
            if_neg laterOther, if_neg laterModule, if_neg (further module), if_neg (further other), ih]

theorem insertDeclaration_comm (differs : module ≠ other) (lines : List Text) :
    insertDeclaration other (insertDeclaration module lines) =
      insertDeclaration module (insertDeclaration other lines) := by
  by_cases before : module < other
  · exact insertDeclaration_comm_of_lt before lines
  · have after : other < module := by
      by_contra notAfter
      exact differs (List.le_antisymm (List.not_lt.mp notAfter) (List.not_lt.mp before))
    exact (insertDeclaration_comm_of_lt after lines).symm

end Insertion

section Declaring

variable {module other line : Text} {lines : List Text} {modules others : List Text}

def declare (lines : List Text) (module : Text) : List Text :=
  if isDeclared module lines then lines else insertDeclaration module lines

theorem isDeclared_insertDeclaration :
    isDeclared other (insertDeclaration module lines) = true ↔ other = module ∨ isDeclared other lines = true := by
  rw [isDeclared, any_insertDeclaration, trim_declarationOf, Bool.or_eq_true, beq_iff_eq]
  have same : declarationOf module = declarationOf other ↔ other = module :=
    ⟨fun equal => (declarationOf_injective equal).symm, fun equal => by rw [equal]⟩
  rw [same, isDeclared]

theorem isDeclared_declare :
    isDeclared other (declare lines module) = true ↔ other = module ∨ isDeclared other lines = true := by
  unfold declare
  split
  next declared =>
    constructor
    · exact Or.inr
    · rintro (rfl | before)
      · exact declared
      · exact before
  next => exact isDeclared_insertDeclaration

theorem declare_comm (lines : List Text) (module other : Text) :
    declare (declare lines module) other = declare (declare lines other) module := by
  by_cases same : module = other
  · rw [same]
  · have first : isDeclared other (declare lines module) = isDeclared other lines := by
      rw [Bool.eq_iff_iff, isDeclared_declare, or_iff_right (Ne.symm same)]
    have second : isDeclared module (declare lines other) = isDeclared module lines := by
      rw [Bool.eq_iff_iff, isDeclared_declare, or_iff_right same]
    rw [declare, first, declare.eq_1 (declare lines other), second]
    by_cases module_declared : isDeclared module lines = true
    · simp [declare, module_declared]
    · by_cases other_declared : isDeclared other lines = true
      · simp [declare, module_declared, other_declared]
      · simp [declare, module_declared, other_declared, insertDeclaration_comm same]

theorem foldl_declare_perm (perm : modules.Perm others) (lines : List Text) :
    modules.foldl declare lines = others.foldl declare lines :=
  perm.foldl_eq' (fun first _ second _ lines => declare_comm lines first second) lines

theorem isDeclared_foldl_declare :
    isDeclared module (modules.foldl declare lines) = true ↔ module ∈ modules ∨ isDeclared module lines = true := by
  induction modules generalizing lines with
  | nil => simp
  | cons first modules ih => rw [List.foldl_cons, ih, isDeclared_declare, List.mem_cons, or_left_comm, or_assoc]

theorem foldl_declare_of_declared (declared : ∀ module ∈ modules, isDeclared module lines = true) :
    modules.foldl declare lines = lines := by
  induction modules with
  | nil => rfl
  | cons first modules ih =>
      have known : declare lines first = lines := if_pos (declared first List.mem_cons_self)
      rw [List.foldl_cons, known]
      exact ih fun module member => declared module (List.mem_cons_of_mem _ member)

theorem forall_mem_foldl_declare {holds : Text → Prop} (old : ∀ line ∈ lines, holds line)
    (new : ∀ module ∈ modules, holds (declarationOf module)) : ∀ line ∈ modules.foldl declare lines, holds line := by
  induction modules generalizing lines with
  | nil => exact old
  | cons first modules ih =>
      refine ih ?_ fun module member => new module (List.mem_cons_of_mem _ member)
      unfold declare
      split
      next => exact old
      next =>
        intro line member
        rcases mem_insertDeclaration.mp member with rfl | before
        · exact new first List.mem_cons_self
        · exact old line before

/-- The text with all modules declared. A text that has them all is not touched, not even its line ends. -/
def listed (modules : List Text) (text : Text) : Text :=
  if modules.all (isDeclared · (Text.lines text)) then text
  else Text.ofLines (modules.foldl declare (Text.lines text))

theorem listed_perm (perm : modules.Perm others) (text : Text) : listed modules text = listed others text := by
  rw [listed, listed, foldl_declare_perm perm, perm.all_eq]

theorem isLine_declarationOf (unbroken : '\n' ∉ module) : Text.IsLine (declarationOf module) := by
  refine ⟨?_, by simp [declarationOf]⟩
  have start : '\n' ∉ declarationStart := by decide
  simp [declarationOf, start, unbroken]

theorem isLine_foldl_declare (proper : ∀ line ∈ lines, Text.IsLine line)
    (unbroken : ∀ module ∈ modules, '\n' ∉ module) : ∀ line ∈ modules.foldl declare lines, Text.IsLine line :=
  forall_mem_foldl_declare proper fun module member => isLine_declarationOf (unbroken module member)

theorem lines_listed {text : Text} (proper : ∀ line ∈ Text.lines text, Text.IsLine line)
    (unbroken : ∀ module ∈ modules, '\n' ∉ module) :
    Text.lines (listed modules text) = modules.foldl declare (Text.lines text) := by
  unfold listed
  split
  next declared =>
    rw [foldl_declare_of_declared]
    simpa using declared
  next => exact Text.lines_ofLines (isLine_foldl_declare proper unbroken)

theorem declaredIn?_eq_none_iff {text : Text} :
    declaredIn? module text = none ↔ isDeclared module (Text.lines text) = true := by
  unfold declaredIn?
  dsimp only
  split
  next declared => simp [declared]
  next undeclared => simp [undeclared]

theorem declaredIn?_eq_some_iff {text updated : Text} :
    declaredIn? module text = some updated ↔
      isDeclared module (Text.lines text) = false ∧ updated = Text.ofLines (declare (Text.lines text) module) := by
  unfold declaredIn?
  dsimp only
  split
  next declared => simp [declared]
  next undeclared => simp [undeclared, declare, eq_comm]

theorem listed_append {text : Text} (proper : ∀ line ∈ Text.lines text, Text.IsLine line)
    (unbroken : ∀ module ∈ modules, '\n' ∉ module) (module : Text) :
    (declaredIn? module (listed modules text)).getD (listed modules text) = listed (modules ++ [module]) text := by
  have lines := lines_listed proper unbroken
  have folded : (modules ++ [module]).foldl declare (Text.lines text) =
      declare (modules.foldl declare (Text.lines text)) module := by
    rw [List.foldl_append, List.foldl_cons, List.foldl_nil]
  cases found : declaredIn? module (listed modules text) with
  | none =>
      rw [declaredIn?_eq_none_iff, lines] at found
      rw [Option.getD_none, listed, listed, folded, declare, if_pos found, List.all_append]
      by_cases declared : modules.all (isDeclared · (Text.lines text)) = true
      · have also : isDeclared module (Text.lines text) = true := by
          rcases isDeclared_foldl_declare.mp found with member | before
          · exact List.all_eq_true.mp declared module member
          · exact before
        simp only [declared, also, List.all_cons, List.all_nil, Bool.and_self]
      · simp only [declared, Bool.false_and]
  | some updated =>
      obtain ⟨undeclared, rfl⟩ := declaredIn?_eq_some_iff.mp found
      rw [lines] at undeclared ⊢
      have before : ¬ isDeclared module (Text.lines text) = true := by
        intro declared
        rw [isDeclared_foldl_declare.mpr (Or.inr declared)] at undeclared
        cases undeclared
      rw [Option.getD_some, listed.eq_1 (modules ++ [module]), folded, List.all_append]
      simp [before]

end Declaring

end Termbase.TermModule
