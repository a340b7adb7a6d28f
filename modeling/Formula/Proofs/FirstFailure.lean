import Formula.Evaluation
import Formula.Proofs.FirstOccurrences

/-!
# The first failure of an evaluation

Two kinds of nodes can fail on their own: a variable without a value, and a
division whose divisor is zero.  The nodes of a tree are listed in the order in
which they get their values, operands from left to right and a node behind its
operands.  An evaluation fails as the first node in this list does that fails, and
it succeeds if none of them does.

The variables of a tree stand in the list in the order of their first occurrences.
So an evaluation that fails at a variable names the first of the variables that has
no value.
-/

namespace Formula

/-- The error in the outcome of an evaluation. -/
def failure? : Except EvaluationError Float → Option EvaluationError
  | .ok _ => none
  | .error cause => some cause

theorem failure?_eq_none_iff {outcome : Except EvaluationError Float} :
    failure? outcome = none ↔ ∃ value, outcome = .ok value := by
  cases outcome <;> simp [failure?]

theorem failure?_eq_some_iff {outcome : Except EvaluationError Float}
    {cause : EvaluationError} :
    failure? outcome = some cause ↔ outcome = .error cause := by
  cases outcome <;> simp [failure?]

namespace Tree

/-! ## The nodes in the order of evaluation -/

/-- The nodes of a tree, each as the tree below it: operands from left to right,
and behind them the node that they belong to. -/
def nodes : Tree → List Tree
  | .const value => [.const value]
  | .var name => [.var name]
  | .binary operator left right =>
      left.nodes ++ right.nodes ++ [.binary operator left right]
  | .call function argument => argument.nodes ++ [.call function argument]

/-- The name of a variable. -/
def name? : Tree → Option String
  | .var name => some name
  | _ => none

theorem name?_eq_some_iff {tree : Tree} {name : String} :
    tree.name? = some name ↔ tree = .var name := by
  cases tree <;> simp [name?]

theorem names_eq_filterMap_nodes (tree : Tree) :
    tree.names = tree.nodes.filterMap name? := by
  induction tree with
  | const value => rfl
  | var name => rfl
  | binary operator left right leftHypothesis rightHypothesis =>
      simp [names, nodes, name?, leftHypothesis, rightHypothesis]
  | call function argument inductionHypothesis =>
      simp [names, nodes, name?, inductionHypothesis]

theorem var_mem_nodes_iff {tree : Tree} {name : String} :
    .var name ∈ tree.nodes ↔ name ∈ tree.names := by
  simp [names_eq_filterMap_nodes, name?_eq_some_iff]

/-! ## Nodes that fail -/

section

variable (lookup : String → Option Float)

/-- How a node fails although its operands have values. -/
def ownFailure? : Tree → Option EvaluationError
  | .var name =>
      match lookup name with
      | some _ => none
      | none => some (.undefinedVariable name)
  | .binary .div _ divisor =>
      match divisor.evalWith lookup with
      | .ok value => if value == 0 then some .divisionByZero else none
      | .error _ => none
  | _ => none

variable {lookup}

/-- A node that fails is a variable without a value or a division by zero. -/
theorem ownFailure?_eq_some_iff {node : Tree} {cause : EvaluationError} :
    node.ownFailure? lookup = some cause ↔
      (∃ name, node = .var name ∧ lookup name = none ∧
        cause = .undefinedVariable name) ∨
      (∃ dividend divisor value, node = .binary .div dividend divisor ∧
        divisor.evalWith lookup = .ok value ∧ (value == 0) = true ∧
        cause = .divisionByZero) := by
  cases node with
  | const value => simp [ownFailure?]
  | var name =>
      cases found : lookup name with
      | none =>
          simp [ownFailure?, found, @eq_comm _ (.undefinedVariable name) cause]
      | some value => simp [ownFailure?, found]
  | binary operator left right =>
      cases operator with
      | div =>
          cases evaluated : right.evalWith lookup with
          | error failure => simp [ownFailure?, evaluated]
          | ok value =>
              by_cases zero : (value == 0) = true
              · simp [ownFailure?, evaluated, zero,
                  @eq_comm _ .divisionByZero cause]
              · simp [ownFailure?, evaluated, zero]
      | add => simp [ownFailure?]
      | sub => simp [ownFailure?]
      | mul => simp [ownFailure?]
      | pow => simp [ownFailure?]
  | call function argument => simp [ownFailure?]

/-- An operation fails by itself exactly if it cannot be applied. -/
theorem ownFailure?_binary {left right : Tree} {rightValue : Float}
    (evaluated : right.evalWith lookup = .ok rightValue) (operator : Operator)
    (leftValue : Float) :
    ownFailure? lookup (.binary operator left right) =
      failure? (operator.apply leftValue rightValue) := by
  cases operator with
  | div =>
      simp only [ownFailure?, evaluated, Operator.apply]
      split
      · rfl
      · rfl
  | add => rfl
  | sub => rfl
  | mul => rfl
  | pow => rfl

/-- An evaluation fails as the first of the nodes that fail. -/
theorem failure?_evalWith (tree : Tree) :
    failure? (tree.evalWith lookup) =
      tree.nodes.findSome? (ownFailure? lookup) := by
  induction tree with
  | const value => rfl
  | var name =>
      simp only [evalWith, valueOf, nodes, List.findSome?_cons, ownFailure?]
      cases lookup name with
      | none => rfl
      | some value => rfl
  | binary operator left right leftHypothesis rightHypothesis =>
      rw [nodes, List.findSome?_append, List.findSome?_append,
        ← leftHypothesis, ← rightHypothesis, evalWith]
      -- The operation itself can fail only once both operands have values.
      cases left.evalWith lookup with
      | error cause => rfl
      | ok leftValue =>
          cases evaluated : right.evalWith lookup with
          | error cause => rfl
          | ok rightValue =>
              rw [List.findSome?_singleton,
                ownFailure?_binary evaluated operator leftValue]
              rfl
  | call function argument inductionHypothesis =>
      rw [nodes, List.findSome?_append, ← inductionHypothesis, evalWith]
      cases argument.evalWith lookup with
      | error cause => rfl
      | ok value => rfl

/-! ## What follows for evaluations -/

theorem evalWith_eq_error_iff {tree : Tree} {cause : EvaluationError} :
    tree.evalWith lookup = .error cause ↔
      tree.nodes.findSome? (ownFailure? lookup) = some cause := by
  rw [← failure?_evalWith, failure?_eq_some_iff]

/-- An evaluation fails at a division by zero or at a name without a value. -/
theorem error_cases_of_evalWith {tree : Tree} {cause : EvaluationError}
    (failed : tree.evalWith lookup = .error cause) :
    cause = .divisionByZero ∨
      ∃ name ∈ tree.names,
        lookup name = none ∧ cause = .undefinedVariable name := by
  obtain ⟨node, member, nodeFailed⟩ :=
    List.exists_of_findSome?_eq_some (evalWith_eq_error_iff.mp failed)
  rcases ownFailure?_eq_some_iff.mp nodeFailed with
    ⟨name, rfl, unbound, rfl⟩ | ⟨dividend, divisor, value, -, -, -, rfl⟩
  · exact .inr ⟨name, var_mem_nodes_iff.mp member, unbound, rfl⟩
  · exact .inl rfl

theorem eq_divisionByZero_of_bound {tree : Tree}
    (bound : ∀ name ∈ tree.names, (lookup name).isSome = true)
    {cause : EvaluationError} (failed : tree.evalWith lookup = .error cause) :
    cause = .divisionByZero := by
  rcases error_cases_of_evalWith failed with
    divided | ⟨name, occurs, unbound, -⟩
  · exact divided
  · have valued := bound name occurs
    rw [unbound] at valued
    contradiction

theorem exists_evalWith_eq_ok_iff {tree : Tree} :
    (∃ value, tree.evalWith lookup = .ok value) ↔
      (∀ name ∈ tree.names, (lookup name).isSome = true) ∧
      ∀ dividend divisor, .binary .div dividend divisor ∈ tree.nodes →
        ¬ ∃ value, divisor.evalWith lookup = .ok value ∧
          (value == 0) = true := by
  rw [← failure?_eq_none_iff, failure?_evalWith, List.findSome?_eq_none_iff]
  constructor
  · intro noFailure
    refine ⟨?_, ?_⟩
    · intro name occurs
      rw [Option.isSome_iff_ne_none]
      intro unbound
      have failed := ownFailure?_eq_some_iff.mpr
        (.inl ⟨name, rfl, unbound, rfl⟩)
      rw [noFailure _ (var_mem_nodes_iff.mpr occurs)] at failed
      contradiction
    · rintro dividend divisor member ⟨value, evaluated, zero⟩
      have failed := ownFailure?_eq_some_iff.mpr
        (.inr ⟨dividend, divisor, value, rfl, evaluated, zero, rfl⟩)
      rw [noFailure _ member] at failed
      contradiction
  · rintro ⟨bound, noZero⟩ node member
    rw [Option.eq_none_iff_forall_ne_some]
    intro cause failed
    rcases ownFailure?_eq_some_iff.mp failed with
      ⟨name, rfl, unbound, -⟩ | ⟨dividend, divisor, value, rfl, evaluated, zero, -⟩
    · have valued := bound name (var_mem_nodes_iff.mp member)
      rw [unbound] at valued
      contradiction
    · exact noZero dividend divisor member ⟨value, evaluated, zero⟩

/-- An evaluation that fails at a variable fails at the first name without a
value. -/
theorem find?_names_of_evalWith {tree : Tree} {name : String}
    (failed : tree.evalWith lookup = .error (.undefinedVariable name)) :
    tree.names.find? (fun other => (lookup other).isNone) = some name := by
  obtain ⟨before, node, after, split, nodeFailed, earlier⟩ :=
    List.findSome?_eq_some_iff.mp (evalWith_eq_error_iff.mp failed)
  obtain ⟨unbound, rfl⟩ : lookup name = none ∧ node = .var name := by
    simpa [and_comm, and_assoc] using ownFailure?_eq_some_iff.mp nodeFailed
  -- No name before the node is without a value, for it would have failed there.
  have boundBefore :
      (before.filterMap name?).find? (fun other => (lookup other).isNone) =
        none := by
    rw [List.find?_eq_none]
    intro other member
    obtain ⟨otherNode, inBefore, named⟩ := List.mem_filterMap.mp member
    rw [name?_eq_some_iff] at named
    subst named
    intro otherUnbound
    have otherFailed := ownFailure?_eq_some_iff.mpr
      (.inl ⟨other, rfl, by simpa using otherUnbound, rfl⟩)
    rw [earlier _ inBefore] at otherFailed
    contradiction
  rw [names_eq_filterMap_nodes, split, List.filterMap_append,
    List.find?_append, boundBefore]
  simp [name?, unbound]

end

end Tree

/-- An evaluation reports the earliest failure and nothing else.  It succeeds
exactly if all variables are bound and no divisor is zero.  Otherwise its error is
that of the first node that fails, operands before operations and from left to
right.  An undefined variable is the first of the variables that is not bound, and
every other error is a division by zero. -/
theorem evaluation_reports_first_failure (tree : Tree) (bindings : Bindings) :
    ((∃ value, tree.eval bindings = .ok value) ↔
      (∀ name ∈ tree.variableNames, bindings.contains name = true) ∧
      ∀ dividend divisor, .binary .div dividend divisor ∈ tree.nodes →
        ¬ ∃ value, divisor.eval bindings = .ok value ∧
          (value == 0) = true) ∧
    (∀ cause, tree.eval bindings = .error cause ↔
      tree.nodes.findSome? (Tree.ownFailure? bindings.get?) = some cause) ∧
    (∀ name, tree.eval bindings = .error (.undefinedVariable name) →
      tree.variableNames.find? (fun other => !bindings.contains other) =
        some name) ∧
    (∀ cause, tree.eval bindings = .error cause →
      cause = .divisionByZero ∨
      ∃ name ∈ tree.variableNames,
        bindings.contains name = false ∧ cause = .undefinedVariable name) := by
  simp only [Bindings.contains_eq_isSome_get?, Tree.mem_variableNames]
  refine ⟨Tree.exists_evalWith_eq_ok_iff, ?_, ?_, ?_⟩
  · intro cause
    exact Tree.evalWith_eq_error_iff
  · intro name failed
    rw [Tree.find?_variableNames]
    simpa using Tree.find?_names_of_evalWith failed
  · intro cause failed
    simpa using Tree.error_cases_of_evalWith failed

/-- A quotient by zero and a name that is not bound, in both orders: the operand on
the left decides. -/
theorem evaluation_reports_first_failure_of_two :
    let quotient : Tree := .binary .div (.const 1) (.var "x")
    let quotientFirst : Tree := .binary .mul quotient (.var "y")
    let nameFirst : Tree := .binary .mul (.var "y") quotient
    let bindings : Bindings := Bindings.insert ∅ "x" (-0)
    quotientFirst.eval bindings = .error .divisionByZero ∧
    quotientFirst.nodes.findSome? (Tree.ownFailure? bindings.get?) =
      some .divisionByZero ∧
    nameFirst.eval bindings = .error (.undefinedVariable "y") ∧
    nameFirst.nodes.findSome? (Tree.ownFailure? bindings.get?) =
      some (.undefinedVariable "y") ∧
    nameFirst.variableNames = ["y", "x"] ∧
    nameFirst.variableNames.find? (fun other => !bindings.contains other) =
      some "y" := by
  intro quotient quotientFirst nameFirst bindings
  have divided : quotientFirst.eval bindings = .error .divisionByZero := by
    rfl
  have unbound : nameFirst.eval bindings = .error (.undefinedVariable "y") := by
    rfl
  obtain ⟨-, quotientFailure, -, -⟩ :=
    evaluation_reports_first_failure quotientFirst bindings
  obtain ⟨-, nameFailure, firstUnbound, -⟩ :=
    evaluation_reports_first_failure nameFirst bindings
  exact ⟨divided, (quotientFailure _).mp divided, unbound,
    (nameFailure _).mp unbound, by rfl, firstUnbound "y" unbound⟩

end Formula
