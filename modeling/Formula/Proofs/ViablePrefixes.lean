import Formula.Proofs.ReaderSteps

/-!
# Beginnings of formulas

Some tokens are *viable* if more tokens behind them can make a formula.  The
reader takes tokens exactly as long as this is so:

* whatever it has taken, an operand and the parentheses that are still open
  complete the formula, since nothing that is pending restricts what follows;
* behind a token that it does not take it never goes on.

Hence a failure of the reader is of one of two kinds.  Either the tokens ended
too early, and some continuation repairs them, or the error points at the first
token that no continuation repairs.
-/

namespace Formula

open Reader

/-- The tokens are the beginning of a formula. -/
def Viable (tokens : List Token) : Prop :=
  ∃ more tree, Tree.ofTokens (tokens ++ more) = .ok tree

/-- `Describes cause token` means that the token is the one the error is about:
the lexeme, the category and the position, as far as the error has them, are
those of the token. -/
def GrammarError.Describes : GrammarError → Token → Prop
  | .unexpectedToken lexeme category position, token =>
      lexeme = token.lexeme ∧ category = token.category ∧
        position = token.position
  | .missing _ found, token => found = some (token.category, token.position)
  | .trailingTokens lexeme position, token =>
      lexeme = token.lexeme ∧ position = token.position
  | .incompleteExpression, _ => False

theorem GrammarError.Describes.isIncomplete_eq_false {cause : GrammarError}
    {token : Token} (describes : cause.Describes token) :
    cause.isIncomplete = false := by
  cases cause with
  | unexpectedToken lexeme category position => rfl
  | missing expected found =>
      obtain rfl : found = some (token.category, token.position) := describes
      rfl
  | trailingTokens lexeme position => rfl
  | incompleteExpression => exact False.elim describes

/-! ## Completing a formula -/

/-- Tokens that end the operand which is awaited or begun. -/
def Expecting.completion : Expecting → List Token
  | .operand => [.number "0" 0 0]
  | .opening _ =>
      [.symbol .leftParen 0, .number "0" 0 0, .symbol .rightParen 0]
  | .operator _ => []

namespace Reader

/-- Tokens that make a formula of what the reader has taken. -/
def completion (reader : Reader) : List Token :=
  reader.expecting.completion ++
    List.replicate reader.groups.length (.symbol .rightParen 0)

theorem exists_passes_operand (level : Level) (groups : List Group)
    (pending : List (Tree × Operator)) (expecting : Expecting) :
    ∃ left,
      Passes level ⟨groups, pending, expecting⟩ expecting.completion
        ⟨groups, pending, .operator left⟩ := by
  cases expecting with
  | operand =>
      exact ⟨_, .single (.number groups pending "0" 0 0)⟩
  | opening function =>
      have opens :=
        @Takes.call level groups pending (.symbol .leftParen 0) function rfl
      have argument :=
        @Takes.number level (⟨some function, pending⟩ :: groups) [] "0" 0 0
      have closes :=
        @Takes.close level ⟨some function, pending⟩ groups [] (.const 0)
          (.symbol .rightParen 0) rfl
      exact ⟨_, .step opens (.step argument (.single closes))⟩
  | operator left => exact ⟨left, .refl _⟩

/-- Behind an operand it is enough to close the open groups one by one. -/
theorem exists_passes_closing (level : Level) (groups : List Group)
    (pending : List (Tree × Operator)) (left : Tree) :
    ∃ remaining whole,
      Passes level ⟨groups, pending, .operator left⟩
        (List.replicate groups.length (.symbol .rightParen 0))
        ⟨[], remaining, .operator whole⟩ := by
  -- What was pending outside a group comes back when the group is closed.
  induction groups generalizing pending left with
  | nil => exact ⟨pending, left, .refl _⟩
  | cons group groups inductionHypothesis =>
      have closes :=
        @Takes.close level group groups pending left (.symbol .rightParen 0) rfl
      obtain ⟨remaining, whole, passes⟩ :=
        inductionHypothesis group.pending
          (group.close (Tree.complete pending left))
      exact ⟨remaining, whole, .step closes passes⟩

theorem exists_passes_completion (level : Level) (reader : Reader) :
    ∃ last tree,
      Passes level reader reader.completion last ∧
      last.conclude none = .ok tree := by
  obtain ⟨groups, pending, expecting⟩ := reader
  obtain ⟨left, operand⟩ :=
    exists_passes_operand level groups pending expecting
  obtain ⟨remaining, whole, closing⟩ :=
    exists_passes_closing level groups pending left
  exact ⟨_, Tree.complete remaining whole, operand.append closing, rfl⟩

/-! ## Where the reader stops -/

theorem Passes.viable {taken : List Token} {last : Reader}
    (passes : Passes .sum initial taken last) : Viable taken := by
  obtain ⟨final, tree, rest, concluded⟩ :=
    exists_passes_completion .sum last
  have whole : initial.run .sum (taken ++ last.completion) = (.ok tree, []) :=
    run_eq_ok_iff.mpr ⟨final, passes.append rest, concluded⟩
  exact ⟨last.completion, tree, Tree.ofTokens_eq_ok_iff_run.mpr whole⟩

theorem Passes.not_viable {taken : List Token} {last : Reader} {token : Token}
    (passes : Passes .sum initial taken last)
    (refused : last.advance? .sum token = none) :
    ¬ Viable (taken ++ [token]) := by
  rintro ⟨more, tree, accepted⟩
  rw [Tree.ofTokens_eq_ok_iff_run, List.append_assoc,
    passes.run_append] at accepted
  -- The refused token is among the tokens left, whatever stands behind it.
  have stopped : last.run .sum (token :: more) =
      (last.conclude (some token), token :: more) := by
    rw [run, refused]
  rw [List.singleton_append, stopped] at accepted
  have noneLeft := (Prod.mk.inj accepted).2
  contradiction

/-- An error at the end says that the tokens ended too early, and an error in
front of a token is about that token. -/
theorem describes_of_conclude {reader : Reader} {next : Option Token}
    {cause : GrammarError} (concluded : reader.conclude next = .error cause) :
    next.elim (cause.isIncomplete = true) cause.Describes := by
  obtain ⟨groups, pending, expecting⟩ := reader
  cases expecting with
  | operand =>
      cases next with
      | none =>
          obtain rfl := Except.error.inj concluded
          rfl
      | some token =>
          obtain rfl := Except.error.inj concluded
          exact ⟨rfl, rfl, rfl⟩
  | opening function =>
      obtain rfl := Except.error.inj concluded
      cases next <;> rfl
  | operator left =>
      cases groups with
      | nil => simp [conclude] at concluded
      | cons group groups =>
          obtain rfl := Except.error.inj concluded
          cases next <;> rfl

end Reader

/-- The two kinds of failures: tokens that ended too early, and a token at which
the reader stopped. -/
theorem ofTokens_error_cases {tokens : List Token} {cause : GrammarError}
    (failed : Tree.ofTokens tokens = .error cause) :
    (cause.isIncomplete = true ∧ Viable tokens) ∨
    ∃ taken token rest,
      tokens = taken ++ token :: rest ∧
      cause.Describes token ∧
      Viable taken ∧
      ¬ Viable (taken ++ [token]) := by
  obtain ⟨taken, rest, last, split, passes, stopped, answer⟩ :=
    exists_passes_run .sum initial tokens
  rw [Tree.ofTokens, Tree.readFront, answer] at failed
  cases rest with
  | nil =>
      rw [List.append_nil] at split
      subst split
      have concluded : last.conclude none = .error cause := by
        cases ending : last.conclude none with
        | error other => simpa [ending] using failed
        | ok tree => simp [ending] at failed
      exact .inl ⟨describes_of_conclude concluded, passes.viable⟩
  | cons token rest =>
      have refused : last.advance? .sum token = none :=
        stopped token (by simp)
      have describes : cause.Describes token := by
        cases ending : last.conclude (some token) with
        | error other =>
            obtain rfl : other = cause := by simpa [ending] using failed
            exact describes_of_conclude ending
        | ok tree =>
            obtain rfl : GrammarError.trailingTokens token.lexeme
                token.position = cause := by
              simpa [ending] using failed
            exact ⟨rfl, rfl⟩
      exact .inr ⟨taken, token, rest, split, describes, passes.viable,
        passes.not_viable refused⟩

/-! ## What errors mean -/

/-- An error that is not about the end points at the first token that cannot be
repaired: the tokens before it are the beginning of a formula, and with it they
are not. -/
theorem error_marks_first_hopeless_token {tokens : List Token}
    {cause : GrammarError}
    (failed : Tree.ofTokens tokens = .error cause)
    (definite : cause.isIncomplete = false) :
    ∃ (index : Nat) (within : index < tokens.length),
      cause.Describes tokens[index] ∧
      Viable (tokens.take index) ∧
      ¬ Viable (tokens.take (index + 1)) := by
  rcases ofTokens_error_cases failed with
    ⟨incomplete, -⟩ | ⟨taken, token, rest, rfl, describes, viable, hopeless⟩
  · rw [definite] at incomplete
    contradiction
  · refine ⟨taken.length, by simp, ?_, ?_, ?_⟩
    · simpa using describes
    · simpa using viable
    · rw [List.take_length_add_append]
      simpa using hopeless

/-- In the argument of a call, the second of two numbers side by side. -/
theorem error_marks_first_hopeless_token_in_call :
    let tokens : List Token :=
      [.word "x" 0, .symbol (.operator .mul) 1, .word "sin" 2,
        .symbol .leftParen 5, .number "3" 3 6, .number "4" 4 8,
        .symbol .rightParen 9]
    let cause : GrammarError := .missing .rightParen (some (.number, 8))
    Tree.ofTokens tokens = .error cause ∧
    cause.isIncomplete = false ∧
    ∃ (index : Nat) (within : index < tokens.length),
      cause.Describes tokens[index] ∧
      Viable (tokens.take index) ∧
      ¬ Viable (tokens.take (index + 1)) :=
  ⟨by rfl, by rfl, error_marks_first_hopeless_token (by rfl) (by rfl)⟩

/-- An error says that the tokens ended too early exactly if more tokens can
repair them. -/
theorem isIncomplete_iff_continuable {tokens : List Token}
    {cause : GrammarError}
    (failed : Tree.ofTokens tokens = .error cause) :
    cause.isIncomplete = true ↔
      ∃ more, more ≠ [] ∧
        ∃ tree, Tree.ofTokens (tokens ++ more) = .ok tree := by
  rcases ofTokens_error_cases failed with
    ⟨incomplete, more, tree, accepted⟩ |
      ⟨taken, token, rest, rfl, describes, -, hopeless⟩
  · refine ⟨fun _ => ⟨more, ?_, tree, accepted⟩, fun _ => incomplete⟩
    rintro rfl
    rw [List.append_nil, failed] at accepted
    contradiction
  · rw [describes.isIncomplete_eq_false]
    refine ⟨fun incomplete => by contradiction, ?_⟩
    rintro ⟨more, -, tree, accepted⟩
    refine absurd ⟨rest ++ more, tree, ?_⟩ hopeless
    simpa using accepted

/-- Tokens that end behind the name of a function in a group. -/
theorem isIncomplete_iff_continuable_behind_name :
    let tokens : List Token :=
      [.symbol .leftParen 0, .number "2" 2 1, .symbol (.operator .pow) 2,
        .word "cos" 3]
    let cause : GrammarError := .missing .leftParen none
    Tree.ofTokens tokens = .error cause ∧
    cause.isIncomplete = true ∧
    ∃ more, more ≠ [] ∧
      ∃ tree, Tree.ofTokens (tokens ++ more) = .ok tree :=
  ⟨by rfl, by rfl, (isIncomplete_iff_continuable (by rfl)).mp (by rfl)⟩

end Formula
