import Formula.Proofs.FirstFailure
import Formula.Proofs.Lookups

/-!
# Tables that agree

The value of a tree hangs on the bindings of its variables alone, errors included.
A table that keeps the bindings of another one and has more of its own makes a
difference in one case only: where the smaller table leaves the evaluation at a
variable without a value.  A division by zero is met before the evaluation reaches
what the larger table could add.

Filling a table keeps its bindings.  So it changes no value and no division by
zero, and once all variables of a tree are filled none is undefined.
-/

namespace Formula

namespace Bindings

/-- Every name with a value in the smaller table has this value in the larger
one. -/
def Extends (larger smaller : Bindings) : Prop :=
  ∀ name value, smaller.get? name = some value →
    larger.get? name = some value

theorem extends_fillMissing (bindings : Bindings) (names : List String)
    (value : Float) : (bindings.fillMissing names value).Extends bindings := by
  intro name bound found
  rw [get?_fillMissing, found]
  rfl

end Bindings

namespace Tree

/-- More values for names change an evaluation only where it would have stopped at
a name without a value. -/
theorem evalWith_eq_or_undefined {smaller larger : String → Option Float}
    (kept : ∀ name value, smaller name = some value →
      larger name = some value) (tree : Tree) :
    tree.evalWith larger = tree.evalWith smaller ∨
      ∃ name, tree.evalWith smaller = .error (.undefinedVariable name) := by
  induction tree with
  | const value => exact .inl rfl
  | var name =>
      cases found : smaller name with
      | none =>
          right
          exact ⟨name, by rw [evalWith, valueOf, found]⟩
      | some value =>
          left
          rw [evalWith, evalWith, valueOf, valueOf, found, kept name value found]
  | binary operator left right leftHypothesis rightHypothesis =>
      rw [evalWith, evalWith]
      rcases leftHypothesis with leftSame | ⟨name, undefined⟩
      · rw [leftSame]
        cases left.evalWith smaller with
        | error cause => exact .inl rfl
        | ok leftValue =>
            rcases rightHypothesis with rightSame | ⟨name, undefined⟩
            · rw [rightSame]
              exact .inl rfl
            · rw [undefined]
              exact .inr ⟨name, rfl⟩
      · rw [undefined]
        exact .inr ⟨name, rfl⟩
  | call function argument inductionHypothesis =>
      rw [evalWith, evalWith]
      rcases inductionHypothesis with same | ⟨name, undefined⟩
      · rw [same]
        exact .inl rfl
      · rw [undefined]
        exact .inr ⟨name, rfl⟩

theorem eval_eq_of_extends {larger smaller : Bindings}
    (extended : larger.Extends smaller) {tree : Tree}
    (defined : ∀ name,
      tree.eval smaller ≠ .error (.undefinedVariable name)) :
    tree.eval larger = tree.eval smaller := by
  rcases evalWith_eq_or_undefined extended tree with same | ⟨name, undefined⟩
  · exact same
  · exact absurd undefined (defined name)

theorem eval_fillMissing_ne_undefined {tree : Tree} {names : List String}
    (listed : ∀ name ∈ tree.names, name ∈ names) (bindings : Bindings)
    (value : Float) (name : String) :
    tree.eval (bindings.fillMissing names value) ≠
      .error (.undefinedVariable name) := by
  intro failed
  have bound : ∀ other ∈ tree.names,
      ((bindings.fillMissing names value).get? other).isSome = true := by
    intro other occurs
    rw [Bindings.get?_fillMissing, if_pos (listed other occurs)]
    simp
  have divided := eq_divisionByZero_of_bound bound failed
  contradiction

end Tree

/-- Only the bindings of the variables count, and further bindings never change an
answer.  Tables that agree on the variables give the same value or the same error.
A table that extends another one gives the same answer unless the smaller table
leaves a variable undefined.  So filling a table keeps every value and every
division by zero, and filling it for all variables leaves none undefined. -/
theorem only_variables_count (tree : Tree) :
    (∀ first second : Bindings,
      (∀ name ∈ tree.variableNames, first.get? name = second.get? name) →
      tree.eval first = tree.eval second) ∧
    (∀ smaller larger : Bindings, larger.Extends smaller →
      (∀ name, tree.eval smaller ≠ .error (.undefinedVariable name)) →
      tree.eval larger = tree.eval smaller) ∧
    (∀ (bindings : Bindings) (names : List String) (value : Float),
      (∀ result, tree.eval bindings = .ok result →
        tree.eval (bindings.fillMissing names value) = .ok result) ∧
      (tree.eval bindings = .error .divisionByZero →
        tree.eval (bindings.fillMissing names value) =
          .error .divisionByZero)) ∧
    (∀ (bindings : Bindings) (value : Float) (name : String),
      tree.eval (bindings.fillMissing tree.variableNames value) ≠
        .error (.undefinedVariable name)) := by
  refine ⟨?_, ?_, ?_, ?_⟩
  · intro first second agree
    apply Tree.evalWith_congr
    intro name occurs
    exact agree name (Tree.mem_variableNames.mpr occurs)
  · intro smaller larger extended defined
    exact Tree.eval_eq_of_extends extended defined
  · intro bindings names value
    have extended := bindings.extends_fillMissing names value
    refine ⟨?_, ?_⟩
    · intro result evaluated
      rw [Tree.eval_eq_of_extends extended (by simp [evaluated]), evaluated]
    · intro divided
      rw [Tree.eval_eq_of_extends extended (by simp [divided]), divided]
  · intro bindings value
    apply Tree.eval_fillMissing_ne_undefined
    intro name occurs
    exact Tree.mem_variableNames.mpr occurs

/-- A quotient by zero with an unbound name behind it.  Another binding of a name
that does not occur and a value for the unbound name leave the error as it is, while
the name alone is undefined until it is filled. -/
theorem only_variables_count_behind_division :
    let tree : Tree :=
      .binary .add (.binary .div (.const 1) (.var "x")) (.var "y")
    let bindings : Bindings := Bindings.insert ∅ "x" 0
    tree.eval bindings = .error .divisionByZero ∧
    tree.eval (bindings.insert "z" 3) = tree.eval bindings ∧
    (bindings.insert "y" 2).Extends bindings ∧
    tree.eval (bindings.insert "y" 2) = tree.eval bindings ∧
    tree.eval (bindings.fillMissing ["y", "z"] 5) = .error .divisionByZero ∧
    (Tree.var "y").eval bindings = .error (.undefinedVariable "y") ∧
    ∀ name, (Tree.var "y").eval
        (bindings.fillMissing (Tree.var "y").variableNames 5) ≠
      .error (.undefinedVariable name) := by
  intro tree bindings
  have divided : tree.eval bindings = .error .divisionByZero := by rfl
  have extended : (bindings.insert "y" 2).Extends bindings := by
    intro name value found
    simp only [bindings, Bindings.get?_insert, Bindings.get?_empty] at found ⊢
    split at found
    next same => simp [← same, ← found]
    next => contradiction
  obtain ⟨agreeing, extending, filling, -⟩ := only_variables_count tree
  refine ⟨divided, ?_, extended, ?_, (filling _ _ _).2 divided, by rfl, ?_⟩
  · apply agreeing
    intro name listed
    have different : "z" ≠ name := by
      rintro rfl
      revert listed
      decide
    rw [Bindings.get?_insert, if_neg different]
  · exact extending _ _ extended (by simp [divided])
  · exact (only_variables_count (.var "y")).2.2.2 bindings 5

end Formula
