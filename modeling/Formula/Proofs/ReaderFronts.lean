import Formula.Proofs.ReaderGrammar
import Formula.Proofs.ViablePrefixes

/-!
# What a reader takes and what it leaves

The reader of a level takes tokens from the front of a list and leaves the rest.

* It has a tree exactly if the list begins with a phrase of the level and no operator
  of the level stands behind the phrase.  The phrase is what it takes, so that the
  tree does not hang on the tokens that are left.
* If it fails, the first token that is left is the one that the error is about, and
  none is left where the tokens ended too early.
-/

namespace Formula

open Reader

namespace Level

/-- The operators that a phrase of a level can hold outside parentheses. -/
def operators : Level → List Operator
  | .sum => [.add, .sub, .mul, .div, .pow]
  | .product => [.mul, .div, .pow]
  | .power => [.pow]

theorem mem_operators {level : Level} {operator : Operator} :
    operator ∈ level.operators ↔ level.admits operator = true := by
  cases level <;> cases operator <;> decide

/-- `EndsBefore level rest` means that a phrase of the level cannot be continued by
the first of the tokens. -/
def EndsBefore (level : Level) (rest : List Token) : Prop :=
  ∀ token ∈ rest.head?, ∀ operator ∈ level.operators,
    token.category ≠ .operator operator

end Level

namespace Reader

/-- Behind an operand and outside all groups, only the operators of the level are
taken. -/
theorem advance?_eq_none_iff {level : Level} {reader : Reader} {left : Tree}
    (closed : reader.groups = []) (behind : reader.expecting = .operator left)
    (token : Token) :
    reader.advance? level token = none ↔
      ∀ operator ∈ level.operators, token.category ≠ .operator operator := by
  cases met : token.category with
  | operator operation =>
      have refused : reader.advance? level token = none ↔
          operation ∉ level.operators := by
        simp [advance?, closed, behind, met, Level.mem_operators]
      rw [refused]
      constructor
      · intro outside operator member same
        obtain rfl := Category.operator.inj same
        exact outside member
      · intro different member
        exact different operation member rfl
  | rightParen => simp [advance?, closed, behind, met, leave?]
  | leftParen => simp [advance?, behind, met]
  | number => simp [advance?, behind, met]
  | identifier => simp [advance?, behind, met]
  | function named => simp [advance?, behind, met]

theorem run_of_refused {level : Level} {reader : Reader} {rest : List Token}
    (refused : ∀ token ∈ rest.head?, reader.advance? level token = none) :
    reader.run level rest = (reader.conclude rest.head?, rest) := by
  cases rest with
  | nil => rfl
  | cons token rest => rw [run, refused token rfl, List.head?_cons]

end Reader

/-! ## Success and failure -/

theorem readFront_eq_ok_iff {level : Level} {tokens rest : List Token}
    {tree : Tree} :
    Tree.readFront level tokens = (.ok tree, rest) ↔
      ∃ taken, tokens = taken ++ rest ∧
        Derives (Phrase.ofLevel level) taken tree ∧ level.EndsBefore rest := by
  constructor
  · intro answer
    obtain ⟨taken, left, last, split, passes, stopped, concluded⟩ :=
      exists_passes_run level initial tokens
    obtain ⟨accepted, rfl⟩ := Prod.mk.inj (answer.symm.trans concluded)
    obtain ⟨operand, closed, behind, completed⟩ :=
      conclude_eq_ok_iff.mp accepted.symm
    -- The last reader concludes the same tree when nothing follows.
    have alone : Tree.readFront level taken = (.ok tree, []) :=
      run_eq_ok_iff.mpr ⟨last, passes,
        conclude_eq_ok_iff.mpr ⟨operand, closed, behind, completed⟩⟩
    refine ⟨taken, split, readFront_eq_ok_iff_derives.mp alone, ?_⟩
    intro token first
    exact (advance?_eq_none_iff closed behind token).mp (stopped token first)
  · rintro ⟨taken, rfl, derivation, ends⟩
    obtain ⟨last, passes, concluded⟩ :=
      run_eq_ok_iff.mp (readFront_eq_ok_iff_derives.mpr derivation)
    obtain ⟨operand, closed, behind, completed⟩ :=
      conclude_eq_ok_iff.mp concluded
    have refused : ∀ token ∈ rest.head?, last.advance? level token = none := by
      intro token first
      exact (advance?_eq_none_iff closed behind token).mpr (ends token first)
    rw [Tree.readFront, passes.run_append, run_of_refused refused]
    rw [conclude_eq_ok_iff.mpr ⟨operand, closed, behind, completed⟩]

theorem exists_taken (level : Level) (tokens : List Token) :
    ∃ taken, tokens = taken ++ (Tree.readFront level tokens).2 := by
  obtain ⟨taken, rest, last, split, -, -, answer⟩ :=
    exists_passes_run level initial tokens
  rw [Tree.readFront, answer]
  exact ⟨taken, split⟩

theorem describes_of_readFront_eq_error {level : Level}
    {tokens rest : List Token} {cause : GrammarError}
    (failed : Tree.readFront level tokens = (.error cause, rest)) :
    rest.head?.elim (cause.isIncomplete = true) cause.Describes := by
  obtain ⟨taken, left, last, -, -, -, concluded⟩ :=
    exists_passes_run level initial tokens
  obtain ⟨ended, rfl⟩ := Prod.mk.inj (failed.symm.trans concluded)
  exact describes_of_conclude ended.symm

/-- A reader takes some tokens and leaves the others.  With a tree it has taken at
least one, it takes the same tokens to the same tree when nothing follows them, and
no operator of its level is next.  With an error nothing is left where the tokens
ended too early, and else the token that the error is about is next.  A phrase of
the level in front that cannot be continued is always taken. -/
theorem reader_takes_front (level : Level) (tokens : List Token) :
    ∃ taken rest result,
      tokens = taken ++ rest ∧
      Tree.readFront level tokens = (result, rest) ∧
      (∀ tree, result = .ok tree →
        taken ≠ [] ∧
        Tree.readFront level taken = (.ok tree, []) ∧
        level.EndsBefore rest) ∧
      (∀ cause, result = .error cause →
        (cause.isIncomplete = true → rest = []) ∧
        (cause.isIncomplete = false →
          ∃ token ∈ rest.head?, cause.Describes token)) ∧
      (∀ phrase after tree, tokens = phrase ++ after →
        Derives (Phrase.ofLevel level) phrase tree → level.EndsBefore after →
        taken = phrase ∧ result = .ok tree) := by
  obtain ⟨taken, split⟩ := exists_taken level tokens
  refine ⟨taken, (Tree.readFront level tokens).2,
    (Tree.readFront level tokens).1, split, rfl, ?_, ?_, ?_⟩
  · intro tree read
    obtain ⟨front, frontSplit, derivation, ends⟩ :=
      readFront_eq_ok_iff.mp (Prod.ext read rfl)
    obtain rfl := List.append_cancel_right (split.symm.trans frontSplit)
    have alone : Tree.readFront level taken = (.ok tree, []) :=
      readFront_eq_ok_iff_derives.mpr derivation
    have nonempty : taken ≠ [] := by
      rintro rfl
      exact nomatch alone
    exact ⟨nonempty, alone, ends⟩
  · intro cause failed
    have described := describes_of_readFront_eq_error (Prod.ext failed rfl)
    cases left : (Tree.readFront level tokens).2 with
    | nil =>
        have incomplete : cause.isIncomplete = true := by
          simpa [left] using described
        simp [incomplete]
    | cons token rest =>
        have describes : cause.Describes token := by
          simpa [left] using described
        simpa [describes.isIncomplete_eq_false] using describes
  · intro phrase after tree phraseSplit derivation ends
    have read : Tree.readFront level tokens = (.ok tree, after) :=
      readFront_eq_ok_iff.mpr ⟨phrase, phraseSplit, derivation, ends⟩
    rw [read] at split ⊢
    exact ⟨List.append_cancel_right (split.symm.trans phraseSplit), rfl⟩

/-- A product in front of a difference, and a group in which a number stands where
its end is expected. -/
theorem reader_takes_front_of_product :
    let product : List Token :=
      [.number "2" 2 0, .symbol (.operator .mul) 1, .symbol .leftParen 2,
        .word "x" 3, .symbol .rightParen 4]
    let difference : List Token :=
      product ++ [.symbol (.operator .sub) 5, .word "y" 6]
    let tree : Tree := .binary .mul (.const 2) (.var "x")
    let unclosed : List Token := [.symbol .leftParen 0, .word "x" 1]
    let rest : List Token := [.number "3" 3 3, .word "y" 4]
    let cause : GrammarError := .missing .rightParen (some (.number, 3))
    Tree.readFront .product difference =
      (.ok tree, [.symbol (.operator .sub) 5, .word "y" 6]) ∧
    product ≠ [] ∧
    Tree.readFront .product product = (.ok tree, []) ∧
    Level.product.EndsBefore [.symbol (.operator .sub) 5, .word "y" 6] ∧
    Tree.readFront .power (unclosed ++ rest) = (.error cause, rest) ∧
    ∃ token ∈ rest.head?, cause.Describes token := by
  intro product difference tree unclosed rest cause
  have read : Tree.readFront .product difference =
      (.ok tree, [.symbol (.operator .sub) 5, .word "y" 6]) := by
    rfl
  have failed : Tree.readFront .power (unclosed ++ rest) = (.error cause, rest) := by
    rfl
  obtain ⟨taken, left, result, split, answer, succeeding, -, -⟩ :=
    reader_takes_front .product difference
  obtain ⟨rfl, rfl⟩ := Prod.mk.inj (read.symm.trans answer)
  obtain rfl := List.append_cancel_right split
  obtain ⟨taken, left, result, -, answer, -, failing, -⟩ :=
    reader_takes_front .power (unclosed ++ rest)
  obtain ⟨rfl, rfl⟩ := Prod.mk.inj (failed.symm.trans answer)
  obtain ⟨nonempty, alone, ends⟩ := succeeding tree rfl
  exact ⟨read, nonempty, alone, ends, failed, (failing cause rfl).2 rfl⟩

end Formula
