import Termbase.Rdf.Lines

/-! Where all names are written out there are no declarations, so the abbreviations in force are the same at
each statement: none. -/

namespace Termbase.Rdf

namespace Turtle

structure Progress.Uniform (progress : Progress) (scope : Scope) : Prop where
  current : progress.scope = scope
  met : ∀ statement ∈ progress.met, statement.scope = scope

namespace Step

variable {α β : Type}

def Undeclaring (step : Step α) : Prop :=
  ∀ scope progress, progress.Uniform scope → (step.run.run progress).2.Uniform scope

theorem undeclaring_pure (value : α) : Undeclaring (pure value : Step α) := fun _ _ uniform => uniform

theorem undeclaring_failure : Undeclaring (failure : Step α) := fun _ _ uniform => uniform

theorem undeclaring_get : Undeclaring (get : Step Progress) := fun _ _ uniform => uniform

theorem undeclaring_modify {change : Progress → Progress}
    (keeps : ∀ scope progress, progress.Uniform scope → (change progress).Uniform scope) :
    Undeclaring (modify change : Step Unit) := keeps

theorem undeclaring_bind {step : Step α} {next : α → Step β} (first : Undeclaring step)
    (later : ∀ value, Undeclaring (next value)) : Undeclaring (step >>= next) := by
  intro scope progress uniform
  have between := first scope progress uniform
  rcases run : step.run.run progress with ⟨outcome, after⟩
  rw [run] at between
  cases outcome with
  | none =>
      have stops : (step >>= next).run.run progress = (none, after) := by
        simp only [OptionT.run_bind, Option.elimM, StateT.run_bind, run]
        rfl
      rwa [stops]
  | some value =>
      have goesOn : (step >>= next).run.run progress = (next value).run.run after := by
        simp only [OptionT.run_bind, Option.elimM, StateT.run_bind, run]
        rfl
      rw [goesOn]
      exact later value scope after between

theorem undeclaring_peek : Undeclaring peek := undeclaring_bind undeclaring_get fun _ => undeclaring_pure _

theorem undeclaring_skip : Undeclaring skip :=
  undeclaring_modify fun _ _ uniform => ⟨uniform.current, uniform.met⟩

theorem undeclaring_next : Undeclaring next := by
  apply undeclaring_bind undeclaring_get
  intro progress
  split
  next => exact undeclaring_failure
  next =>
    apply undeclaring_bind
    · exact undeclaring_modify fun _ _ uniform => ⟨uniform.current, uniform.met⟩
    · exact fun _ => undeclaring_pure _

theorem undeclaring_takes (mark : String) : Undeclaring (takes mark) := by
  apply undeclaring_bind undeclaring_peek
  intro token
  split
  next => exact undeclaring_bind undeclaring_skip fun _ => undeclaring_pure _
  next => exact undeclaring_pure _

theorem undeclaring_expect (mark : String) : Undeclaring (expect mark) := by
  apply undeclaring_bind (undeclaring_takes mark)
  intro taken
  split
  next => exact undeclaring_pure _
  next => exact undeclaring_failure

theorem undeclaring_resolve (reference : Text) : Undeclaring (resolve reference) := by
  apply undeclaring_bind undeclaring_get
  intro progress
  split
  next => exact undeclaring_pure _
  next => exact undeclaring_failure

theorem undeclaring_depth : Undeclaring depth :=
  undeclaring_bind undeclaring_get fun _ => undeclaring_pure _

theorem undeclaring_meet (subject : Term) (predicate : Iri) (object : Term) :
    Undeclaring (meet subject predicate object) := by
  apply undeclaring_modify
  intro scope progress uniform
  refine ⟨uniform.current, ?_⟩
  intro statement member
  rcases List.mem_cons.mp member with rfl | before
  · exact uniform.current
  · exact uniform.met statement before

theorem undeclaring_untilEnd {step : Step Unit} (keeps : Undeclaring step) (count : Nat) :
    Undeclaring (untilEnd step count) := by
  induction count with
  | zero => exact undeclaring_pure _
  | succ count ih =>
      apply undeclaring_bind undeclaring_get
      intro progress
      split
      next => exact undeclaring_pure _
      next => exact undeclaring_bind keeps fun _ => ih

end Step

theorem scope_of_readTokens {step : Step Unit} (keeps : Step.Undeclaring step) (tokens : List Token)
    {statement : Statement} (member : statement ∈ (readTokens step tokens).statements) :
    statement.scope = .empty := by
  have start : Progress.Uniform ⟨tokens, .empty, [], 0⟩ .empty := ⟨rfl, by simp⟩
  have whole := Step.undeclaring_untilEnd keeps tokens.length .empty _ start
  exact whole.met statement (List.mem_reverse.mp member)

end Turtle

namespace Lines

open Turtle Turtle.Step

theorem undeclaring_iri : Undeclaring iri := by
  apply undeclaring_bind undeclaring_next
  intro token
  split
  next => exact undeclaring_resolve _
  next => exact undeclaring_failure

theorem undeclaring_datatypeOrLanguage : Undeclaring datatypeOrLanguage := by
  apply undeclaring_bind undeclaring_peek
  intro token
  split
  next => exact undeclaring_bind undeclaring_skip fun _ => undeclaring_pure _
  next =>
    apply undeclaring_bind undeclaring_skip
    intro _
    exact undeclaring_bind undeclaring_iri fun _ => undeclaring_pure _
  next => exact undeclaring_pure _

theorem undeclaring_terms (count : Nat) :
    Undeclaring (quotedTriple count) ∧ Undeclaring (subject count) ∧ Undeclaring (object count) := by
  induction count with
  | zero =>
      rw [quotedTriple, subject, object]
      exact ⟨undeclaring_failure, undeclaring_failure, undeclaring_failure⟩
  | succ count ih =>
      obtain ⟨quoted, asSubject, asObject⟩ := ih
      refine ⟨?_, ?_, ?_⟩
      · rw [quotedTriple]
        apply undeclaring_bind asSubject
        intro _
        apply undeclaring_bind undeclaring_iri
        intro _
        apply undeclaring_bind asObject
        intro _
        exact undeclaring_bind (undeclaring_expect _) fun _ => undeclaring_pure _
      · rw [subject]
        apply undeclaring_bind undeclaring_next
        intro token
        split
        next => exact undeclaring_bind (undeclaring_resolve _) fun _ => undeclaring_pure _
        next => exact undeclaring_pure _
        next => exact quoted
        next => exact undeclaring_failure
      · rw [object]
        apply undeclaring_bind undeclaring_peek
        intro token
        split
        next =>
          apply undeclaring_bind undeclaring_skip
          intro _
          exact undeclaring_bind undeclaring_datatypeOrLanguage fun _ => undeclaring_pure _
        next => exact asSubject

theorem undeclaring_takesGraphName : Undeclaring takesGraphName := by
  apply undeclaring_bind undeclaring_peek
  intro token
  split
  next =>
    apply undeclaring_bind undeclaring_skip
    intro _
    exact undeclaring_bind (undeclaring_resolve _) fun _ => undeclaring_pure _
  next => exact undeclaring_bind undeclaring_skip fun _ => undeclaring_pure _
  next => exact undeclaring_pure _

theorem undeclaring_lineEnd : Undeclaring lineEnd := by
  apply undeclaring_bind undeclaring_peek
  intro token
  split
  next => exact undeclaring_pure _
  next => exact undeclaring_skip
  next => exact undeclaring_failure

theorem undeclaring_ending (subject : Term) (predicate : Iri) (object : Term) (named : Bool) :
    Undeclaring (if named then do
        meet subject predicate object
        expect "."
        lineEnd
      else do
        expect "."
        meet subject predicate object
        lineEnd) := by
  split
  next =>
    apply undeclaring_bind (undeclaring_meet _ _ _)
    intro _
    exact undeclaring_bind (undeclaring_expect _) fun _ => undeclaring_lineEnd
  next =>
    apply undeclaring_bind (undeclaring_expect _)
    intro _
    exact undeclaring_bind (undeclaring_meet _ _ _) fun _ => undeclaring_lineEnd

theorem undeclaring_line (withGraphs : Bool) : Undeclaring (line withGraphs) := by
  apply undeclaring_bind undeclaring_peek
  intro token
  split
  next => exact undeclaring_skip
  next =>
    apply undeclaring_bind undeclaring_depth
    intro count
    obtain ⟨_, asSubject, asObject⟩ := undeclaring_terms count
    apply undeclaring_bind asSubject
    intro _
    apply undeclaring_bind undeclaring_iri
    intro _
    apply undeclaring_bind asObject
    intro _
    dsimp only
    split
    next =>
      apply undeclaring_bind undeclaring_takesGraphName
      exact undeclaring_ending _ _ _
    next =>
      apply undeclaring_bind (undeclaring_pure false)
      exact undeclaring_ending _ _ _

theorem scope_of_read {document : List UInt8} {statement : Statement}
    (member : statement ∈ (read document).statements ∨ statement ∈ (readWithGraphs document).statements) :
    statement.scope = .empty := by
  rcases member with member | member
  · exact scope_of_readTokens (undeclaring_line false) _ member
  · exact scope_of_readTokens (undeclaring_line true) _ member

end Lines

end Termbase.Rdf
