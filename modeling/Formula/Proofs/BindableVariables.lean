import Formula.Proofs.BindableNames
import Formula.Proofs.BindingOrder

/-!
# Every variable can be bound

A variable of a formula consists of letters and names no function, and all letters
are alphabetic.  So a binding accepts every variable, with any literal that has a
value and with blanks wherever they are trimmed: neither a name nor a literal has a
blank in it, and the equals sign is neither a blank nor a letter.

Once all variables of a formula are bound, none is undefined when it is evaluated.
-/

namespace Formula

/-! ## Trimming -/

namespace Text

/-- A text of blanks only. -/
def AllBlank (text : String) : Prop :=
  ∀ character ∈ text.toList, isBlank character = true

instance (text : String) : Decidable (AllBlank text) :=
  text.toList.decidableBAll fun character => isBlank character = true

theorem dropWhile_isBlank_eq_self {text : List Char}
    (noBlank : ∀ character ∈ text, isBlank character = false) :
    text.dropWhile isBlank = text := by
  cases text with
  | nil => rfl
  | cons first rest => simp [noBlank first]

/-- Trimming takes away the blanks around a text without blanks. -/
theorem trimBlanks_padded {front back : String} {text : List Char}
    (frontBlank : AllBlank front) (backBlank : AllBlank back)
    (noBlank : ∀ character ∈ text, isBlank character = false)
    (nonempty : text ≠ []) :
    trimBlanks (front.toList ++ text ++ back.toList) = text := by
  have frontTrimmed :
      (front.toList ++ text ++ back.toList).dropWhile isBlank =
        text ++ back.toList := by
    rw [List.append_assoc, List.dropWhile_append_of_pos frontBlank]
    obtain ⟨first, rest, rfl⟩ := List.exists_cons_of_ne_nil nonempty
    simp [noBlank first]
  have backReversed : ∀ character ∈ back.toList.reverse,
      isBlank character = true := by
    intro character member
    exact backBlank character (List.mem_reverse.mp member)
  have textReversed : ∀ character ∈ text.reverse,
      isBlank character = false := by
    intro character member
    exact noBlank character (List.mem_reverse.mp member)
  rw [trimBlanks, frontTrimmed, List.reverse_append,
    List.dropWhile_append_of_pos backReversed,
    dropWhile_isBlank_eq_self textReversed, List.reverse_reverse]

end Text

/-! ## Bindings of variables -/

section

/- The blanks around the two sides of a binding. -/
variable {front back : String} (frontBlank : Text.AllBlank front)
  (backBlank : Text.AllBlank back)
include frontBlank backBlank

theorem trimBlanks_name {name : String} (word : (Tree.var name).WellFormed) :
    Text.trimBlanks (front.toList ++ name.toList ++ back.toList) =
      name.toList := by
  obtain ⟨nonempty, letters, -⟩ := word
  apply Text.trimBlanks_padded frontBlank backBlank
  · intro character member
    exact Text.isBlank_eq_false_of_isLetter (letters character member)
  · simpa using nonempty

theorem trimBlanks_literal {literal : List Char} {value : Float}
    (read : Literal.value? literal = some value) :
    Text.trimBlanks (front.toList ++ literal ++ back.toList) = literal := by
  have accepted := Literal.accepting_of_value? read
  apply Text.trimBlanks_padded frontBlank backBlank
  · exact Literal.isBlank_eq_false_of_accepting accepted
  · intro empty
    rw [empty] at accepted
    contradiction

/-- The equals sign is neither a blank nor a letter. -/
theorem equals_notMem_name {name : String}
    (word : (Tree.var name).WellFormed) :
    '=' ∉ front.toList ++ name.toList ++ back.toList := by
  have noBlank : Text.isBlank '=' = false := by decide
  have noLetter : Text.isLetter '=' = false := by decide
  simp only [List.mem_append, not_or]
  refine ⟨⟨?_, ?_⟩, ?_⟩
  · intro inFront
    simp [frontBlank _ inFront] at noBlank
  · intro inName
    simp [word.2.1 _ inName] at noLetter
  · intro inBack
    simp [backBlank _ inBack] at noBlank

end

namespace CommandLine

theorem isBindable_of_wellFormed {name : String}
    (word : (Tree.var name).WellFormed) : isBindable name = true := by
  obtain ⟨nonempty, letters, -⟩ := word
  simp only [isBindable, Bool.and_eq_true, Bool.not_eq_true',
    List.isEmpty_eq_false_iff, List.all_eq_true]
  refine ⟨by simpa using nonempty, ?_⟩
  intro character member
  exact Text.isAlphabetic_of_isLetter (letters character member)

/-- A variable that is well formed is accepted in a binding, with blanks around
the name and around the literal. -/
theorem readBinding_of_wellFormed {name literal : String} {value : Float}
    (word : (Tree.var name).WellFormed)
    (read : Literal.value? literal.toList = some value)
    {first second third fourth : String} (firstBlank : Text.AllBlank first)
    (secondBlank : Text.AllBlank second) (thirdBlank : Text.AllBlank third)
    (fourthBlank : Text.AllBlank fourth) :
    readBinding
        (first ++ name ++ second ++ "=" ++ third ++ literal ++ fourth) =
      .ok (name, value) := by
  refine readBinding_eq_ok_iff.mpr
    ⟨first.toList ++ name.toList ++ second.toList,
      third.toList ++ literal.toList ++ fourth.toList, ?_,
      equals_notMem_name firstBlank secondBlank word, ?_,
      isBindable_of_wellFormed word, word.2.2, ?_⟩
  · simp
  · rw [trimBlanks_name firstBlank secondBlank word, String.ofList_toList]
  · rw [trimBlanks_literal thirdBlank fourthBlank read, read]

/-- All variables of a formula can be bound.  A binding of any of them to a literal
is accepted, with blanks around the name and around the literal, and gives the
variable the value of the literal.  With a binding for each variable the formula
fails at a division by zero only, so no variable is undefined. -/
theorem every_variable_bindable {source : String} {analysis : Analysis}
    (analyzed : analyze source = .ok analysis) :
    (∀ name ∈ analysis.variableNames, ∀ (literal : String) (value : Float),
      Literal.value? literal.toList = some value →
      ∀ first second third fourth : String,
        Text.AllBlank first → Text.AllBlank second → Text.AllBlank third →
        Text.AllBlank fourth →
        readBinding
            (first ++ name ++ second ++ "=" ++ third ++ literal ++ fourth) =
          .ok (name, value)) ∧
    (∀ options : Options,
      (∀ name ∈ analysis.variableNames,
        ∃ value, (name, value) ∈ options.bindings) →
      ∀ cause, options.report source = .error cause →
        cause = .evaluation .divisionByZero) := by
  refine ⟨?_, ?_⟩
  · intro name listed literal value read first second third fourth firstBlank
      secondBlank thirdBlank fourthBlank
    exact readBinding_of_wellFormed
      (wellFormed_of_mem_variableNames analyzed listed) read firstBlank
      secondBlank thirdBlank fourthBlank
  · intro options bound cause failed
    apply Options.eq_divisionByZero_of_valueFor? analyzed _ failed
    intro name listed
    obtain ⟨value, member⟩ := bound name listed
    simp [Options.valueFor?, isSome_lastValue? member]

/-- A binding of a variable outside the first letters, with four kinds of blanks,
and a formula that fails although both of its variables are bound. -/
theorem every_variable_bindable_of_padded :
    let tree : Tree := .binary .div (.var "ángulo") (.var "x")
    let analysis : Analysis :=
      ⟨[.word "ángulo" 0, .symbol (.operator .div) 7, .word "x" 9], tree,
        ["ángulo", "x"]⟩
    let literal : String := "-.5e1"
    let value : Float := Number.ofLiteral literal.toList
    let options : Options := { bindings := [("x", 0), ("ángulo", value)] }
    analyze "ángulo / x" = .ok analysis ∧
    Literal.value? literal.toList = some value ∧
    readBinding (" " ++ "ángulo" ++ "\t" ++ "=" ++ "\u00a0" ++ literal ++ "\n") =
      .ok ("ángulo", value) ∧
    options.report "ángulo / x" = .error (.evaluation .divisionByZero) ∧
    ∀ cause, options.report "ángulo / x" = .error cause →
      cause = .evaluation .divisionByZero := by
  intro tree analysis literal value options
  have analyzed : analyze "ángulo / x" = .ok analysis := by decide +kernel
  have read : Literal.value? literal.toList = some value := by decide +kernel
  obtain ⟨accepted, failing⟩ := every_variable_bindable analyzed
  have bound : ∀ name ∈ analysis.variableNames,
      ∃ given, (name, given) ∈ options.bindings := by
    intro name listed
    rcases List.mem_cons.mp listed with rfl | later
    · exact ⟨value, by simp [options]⟩
    · obtain rfl := List.mem_singleton.mp later
      exact ⟨0, by simp [options]⟩
  refine ⟨analyzed, read, ?_, by decide +kernel, failing options bound⟩
  exact accepted "ángulo" (by simp [analysis]) literal value read " " "\t"
    "\u00a0" "\n" (by decide) (by decide) (by decide) (by decide)

end CommandLine

end Formula
