import Termbase.Proofs.TermModule.Token
import Termbase.TermModule

/-! The items of a generated module, as its source is read: a constant for each term, and the list of all of
them at the end. -/

namespace Termbase.TermModule

structure TermConstant where
  name : Text
  base : Text
  localName : Text
  documentation : Text
  deprecation : Option (Text × Text)
deriving DecidableEq, Repr

structure Listing where
  label : Text
  title : Text
  namespaceTerm : Bool
  names : List Text
deriving DecidableEq, Repr

structure Declarations where
  terms : List TermConstant
  listing : Listing
deriving DecidableEq, Repr

section Reader

def readMark (c : Char) : List Token → Option (List Token)
  | .mark found :: rest => if found = c then some rest else none
  | _ => none

def readWord : List Token → Option (Text × List Token)
  | .word name :: rest => some (name, rest)
  | _ => none

def readString : List Token → Option (Text × List Token)
  | .string value :: rest => some (value, rest)
  | _ => none

def readEnding (tokens : List Token) : Option (List Token) := do
  let tokens ← readMark ')' tokens
  readMark ';' tokens

def readDeprecation (tokens : List Token) : Option ((Text × Text) × List Token) := do
  let tokens ← readMark ',' tokens
  let (since, tokens) ← readString tokens
  let tokens ← readMark ',' tokens
  let (advice, tokens) ← readString tokens
  return ((since, advice), tokens)

def readConstant (deprecated : Bool) (tokens : List Token) : Option (TermConstant × List Token) := do
  let (name, tokens) ← readWord tokens
  let tokens ← readMark ',' tokens
  let (base, tokens) ← readWord tokens
  let tokens ← readMark ',' tokens
  let (localName, tokens) ← readString tokens
  let tokens ← readMark ',' tokens
  let (documentation, tokens) ← readString tokens
  if deprecated then
    let (deprecation, tokens) ← readDeprecation tokens
    let tokens ← readEnding tokens
    return (⟨name, base, localName, documentation, some deprecation⟩, tokens)
  else
    let tokens ← readEnding tokens
    return (⟨name, base, localName, documentation, none⟩, tokens)

def readNames : List Token → Option (List Text × List Token)
  | .mark ']' :: rest => some ([], rest)
  | .word name :: .mark ']' :: rest => some ([name], rest)
  | .word name :: .mark ',' :: rest => (readNames rest).map fun read => (name :: read.1, read.2)
  | _ => none

def takesNamespaceTerm (tokens : List Token) : Bool × List Token :=
  match tokens with
  | .word word :: .mark ',' :: rest =>
      if word = "namespace_term".toList then (true, rest) else (false, tokens)
  | _ => (false, tokens)

def readListing (tokens : List Token) : Option (Listing × List Token) := do
  let (label, tokens) ← readWord tokens
  let tokens ← readMark ',' tokens
  let (title, tokens) ← readString tokens
  let tokens ← readMark ',' tokens
  let (namespaceTerm, tokens) := takesNamespaceTerm tokens
  let tokens ← readMark '[' tokens
  let (names, tokens) ← readNames tokens
  let tokens ← readEnding tokens
  return (⟨label, title, namespaceTerm, names⟩, tokens)

def readDeclarations : Nat → List Token → Option Declarations
  | 0, _ => none
  | count + 1, tokens => do
      let (item, tokens) ← readWord tokens
      let tokens ← readMark '!' tokens
      let tokens ← readMark '(' tokens
      if item = "vocabulary".toList then
        let (listing, tokens) ← readListing tokens
        if tokens.isEmpty then return ⟨[], listing⟩ else none
      else if item = "named_node".toList ∨ item = "named_node_deprecated".toList then
        let (constant, tokens) ← readConstant (item = "named_node_deprecated".toList) tokens
        let declarations ← readDeclarations count tokens
        return { declarations with terms := constant :: declarations.terms }
      else none

def Alphabet.declarations? (alphabet : Alphabet) (text : Text) : Option Declarations :=
  (alphabet.tokens? text).bind fun tokens => readDeclarations tokens.length tokens

end Reader

def opening (item : Text) : List Token := [.word item, .mark '!', .mark '(']

def TermConstant.item (constant : TermConstant) : Text :=
  if constant.deprecation.isSome then "named_node_deprecated".toList else "named_node".toList

def TermConstant.arguments (constant : TermConstant) : List Token :=
  [.word constant.name, .mark ',', .word constant.base, .mark ',', .string constant.localName, .mark ',',
    .string constant.documentation] ++
    (match constant.deprecation with
      | some (since, advice) => [.mark ',', .string since, .mark ',', .string advice]
      | none => []) ++ [.mark ')', .mark ';']

def TermConstant.tokens (constant : TermConstant) : List Token := opening constant.item ++ constant.arguments

def nameTokens (name : Text) : List Token := [.word name, .mark ',']

def Listing.arguments (listing : Listing) : List Token :=
  [.word listing.label, .mark ',', .string listing.title, .mark ','] ++
    (if listing.namespaceTerm then nameTokens "namespace_term".toList else []) ++
    .mark '[' :: listing.names.flatMap nameTokens ++ [.mark ']', .mark ')', .mark ';']

def Declarations.tokens (declarations : Declarations) : List Token :=
  declarations.terms.flatMap (·.tokens) ++ opening "vocabulary".toList ++ declarations.listing.arguments

@[simp] theorem readMark_cons (c : Char) (rest : List Token) : readMark c (.mark c :: rest) = some rest := by
  simp [readMark]

@[simp] theorem readWord_cons (name : Text) (rest : List Token) :
    readWord (.word name :: rest) = some (name, rest) := rfl

@[simp] theorem readString_cons (value : Text) (rest : List Token) :
    readString (.string value :: rest) = some (value, rest) := rfl

theorem readConstant_arguments (constant : TermConstant) (rest : List Token) :
    readConstant constant.deprecation.isSome (constant.arguments ++ rest) = some (constant, rest) := by
  obtain ⟨name, base, localName, documentation, deprecation⟩ := constant
  cases deprecation <;> rfl

theorem readNames_flatMap (names : List Text) (rest : List Token) :
    readNames (names.flatMap nameTokens ++ .mark ']' :: rest) = some (names, rest) := by
  induction names with
  | nil => rfl
  | cons name names ih =>
      change (readNames (names.flatMap nameTokens ++ .mark ']' :: rest)).map _ = _
      rw [ih]
      rfl

theorem readListing_arguments (listing : Listing) (rest : List Token) :
    readListing (listing.arguments ++ rest) = some (listing, rest) := by
  obtain ⟨label, title, namespaceTerm, names⟩ := listing
  have read := readNames_flatMap names (.mark ')' :: .mark ';' :: rest)
  have list : takesNamespaceTerm ((if namespaceTerm then nameTokens "namespace_term".toList else []) ++
      .mark '[' :: (names.flatMap nameTokens ++ .mark ']' :: .mark ')' :: .mark ';' :: rest)) =
      (namespaceTerm,
        .mark '[' :: (names.flatMap nameTokens ++ .mark ']' :: .mark ')' :: .mark ';' :: rest)) := by
    cases namespaceTerm <;> rfl
  simp only [Listing.arguments, readListing, readWord_cons, readMark_cons, readString_cons, readEnding,
    List.cons_append, List.append_assoc, List.nil_append, Option.bind_eq_bind, Option.bind_some, list, read]
  rfl

theorem readDeclarations_constant (constant : TermConstant) (count : Nat) (rest : List Token) :
    readDeclarations (count + 1) (constant.tokens ++ rest) =
      (readDeclarations count rest).map fun declarations =>
        { declarations with terms := constant :: declarations.terms } := by
  have read := readConstant_arguments constant rest
  have notListing : constant.item ≠ "vocabulary".toList := by
    unfold TermConstant.item
    split <;> decide
  have known : constant.item = "named_node".toList ∨ constant.item = "named_node_deprecated".toList := by
    unfold TermConstant.item
    split <;> simp
  have deprecated : decide (constant.item = "named_node_deprecated".toList) =
      constant.deprecation.isSome := by
    unfold TermConstant.item
    split <;> simp_all
  simp only [TermConstant.tokens, opening, readDeclarations, readWord_cons, readMark_cons, List.cons_append,
    List.nil_append, Option.bind_eq_bind, Option.bind_some, if_neg notListing, if_pos known, deprecated, read]
  cases readDeclarations count rest <;> rfl

theorem readDeclarations_listing {item : Text} (isListing : item = "vocabulary".toList)
    (listing : Listing) (count : Nat) :
    readDeclarations (count + 1) (opening item ++ listing.arguments) = some ⟨[], listing⟩ := by
  have read := readListing_arguments listing []
  rw [List.append_nil] at read
  simp only [opening, readDeclarations, readWord_cons, readMark_cons, List.cons_append, List.nil_append,
    Option.bind_eq_bind, Option.bind_some, if_pos isListing, read]
  rfl

theorem readDeclarations_tokens (declarations : Declarations) {count : Nat}
    (enough : declarations.terms.length < count) :
    readDeclarations count declarations.tokens = some declarations := by
  obtain ⟨terms, listing⟩ := declarations
  obtain ⟨count, rfl⟩ : ∃ left, count = left + 1 := ⟨count - 1, by omega⟩
  induction terms generalizing count with
  | nil => exact readDeclarations_listing rfl listing count
  | cons constant terms ih =>
      obtain ⟨count, rfl⟩ : ∃ left, count = left + 1 := ⟨count - 1, by simp at enough; omega⟩
      have later := ih count (by simpa using enough)
      have split : (Declarations.mk (constant :: terms) listing).tokens =
          constant.tokens ++ (Declarations.mk terms listing).tokens := by
        simp [Declarations.tokens]
      rw [split, readDeclarations_constant, later]
      rfl

theorem length_terms_lt (declarations : Declarations) :
    declarations.terms.length < declarations.tokens.length := by
  obtain ⟨terms, listing⟩ := declarations
  induction terms with
  | nil => simp [Declarations.tokens, opening]
  | cons constant terms ih =>
      simp [Declarations.tokens, TermConstant.tokens, opening] at ih ⊢
      omega

theorem declarations?_of_tokens? {alphabet : Alphabet} {text : Text} {found : Option Declarations}
    (tokens : alphabet.tokens? text = found.map (·.tokens)) : alphabet.declarations? text = found := by
  rw [Alphabet.declarations?, tokens]
  cases found with
  | none => rfl
  | some declarations => exact readDeclarations_tokens declarations (length_terms_lt declarations)

end Termbase.TermModule
