import Formula.Reader
import Formula.Scan
import Std.Data.TreeMap

/-!
# From sources to values

A table of bindings gives values to names, at most one to each.  A tree is
evaluated under it from left to right, operands before their operation, and the
first failure ends the evaluation.  An analysis is all that is known of a source
before its variables have values.
-/

namespace Formula

/-! ## Bindings -/

/-- A table of values, sorted by name. -/
structure Bindings where
  values : Std.TreeMap String Float

namespace Bindings

def empty : Bindings :=
  ⟨∅⟩

instance : EmptyCollection Bindings :=
  ⟨empty⟩

def get? (bindings : Bindings) (name : String) : Option Float :=
  bindings.values[name]?

def contains (bindings : Bindings) (name : String) : Bool :=
  bindings.values.contains name

def size (bindings : Bindings) : Nat :=
  bindings.values.size

def isEmpty (bindings : Bindings) : Bool :=
  bindings.values.isEmpty

def toList (bindings : Bindings) : List (String × Float) :=
  bindings.values.toList

def insert (bindings : Bindings) (name : String) (value : Float) : Bindings :=
  ⟨bindings.values.insert name value⟩

/-- Give a name a value and return the one it had before. -/
def exchange (bindings : Bindings) (name : String) (value : Float) :
    Option Float × Bindings :=
  (bindings.get? name, bindings.insert name value)

def insertMany (bindings : Bindings) (pairs : List (String × Float)) :
    Bindings :=
  pairs.foldl (fun table pair => table.insert pair.1 pair.2) bindings

/-- The table with the given values; of two values for a name the later one
counts. -/
def ofList (pairs : List (String × Float)) : Bindings :=
  empty.insertMany pairs

/-- Give a value to those of the names that have none. -/
def fillMissing (bindings : Bindings) (names : List String) (value : Float) :
    Bindings :=
  ⟨names.foldl (fun table name => table.insertIfNew name value)
    bindings.values⟩

/-- Two tables are the same if they bind the same names to equal numbers. -/
instance : BEq Bindings :=
  ⟨fun left right => left.toList == right.toList⟩

@[simp]
theorem get?_empty (name : String) : (∅ : Bindings).get? name = none := by
  change (∅ : Std.TreeMap String Float)[name]? = none
  simp

theorem contains_eq_isSome_get? (bindings : Bindings) (name : String) :
    bindings.contains name = (bindings.get? name).isSome :=
  Std.TreeMap.contains_eq_isSome_getElem?

@[simp]
theorem get?_insert (bindings : Bindings) (name other : String)
    (value : Float) :
    (bindings.insert name value).get? other =
      if name = other then some value else bindings.get? other := by
  simp [get?, insert, Std.TreeMap.getElem?_insert]

@[simp]
theorem insertMany_nil (bindings : Bindings) :
    bindings.insertMany [] = bindings :=
  rfl

@[simp]
theorem insertMany_cons (bindings : Bindings) (pair : String × Float)
    (pairs : List (String × Float)) :
    bindings.insertMany (pair :: pairs) =
      (bindings.insert pair.1 pair.2).insertMany pairs :=
  rfl

/-- Filling gives a value to the listed names that had none, and changes no
other name. -/
theorem get?_fillMissing (bindings : Bindings) (names : List String)
    (value : Float) (name : String) :
    (bindings.fillMissing names value).get? name =
      (bindings.get? name).or (if name ∈ names then some value else none) := by
  induction names generalizing bindings with
  | nil => simp [fillMissing]
  | cons first rest inductionHypothesis =>
      have step :
          (bindings.fillMissing (first :: rest) value) =
            (Bindings.mk (bindings.values.insertIfNew first value)).fillMissing
              rest value :=
        rfl
      rw [step, inductionHypothesis]
      have filled :
          (Bindings.mk (bindings.values.insertIfNew first value)).get? name =
            (bindings.get? name).or
              (if first = name then some value else none) := by
        simp only [get?, Std.TreeMap.getElem?_insertIfNew,
          Std.LawfulEqCmp.compare_eq_iff_eq]
        by_cases same : first = name
        · subst same
          by_cases bound : first ∈ bindings.values
          · simp [bound]
          · simp [bound]
        · simp [same]
      rw [filled]
      by_cases same : first = name
      · subst same
        cases bindings.get? first <;> simp
      · have different : name ≠ first := fun equal => same equal.symm
        simp [same, different]

end Bindings

/-! ## Values of trees -/

/-- The value of an operation.  Only a division by zero, of either sign, has
none. -/
def Operator.apply : Operator → Float → Float → Except EvaluationError Float
  | .add, left, right => .ok (left + right)
  | .sub, left, right => .ok (left - right)
  | .mul, left, right => .ok (left * right)
  | .div, left, right =>
      if right == 0 then .error .divisionByZero else .ok (left / right)
  | .pow, left, right => .ok (left.pow right)

/-- The value of a variable under a way to look names up. -/
def valueOf (lookup : String → Option Float) (name : String) :
    Except EvaluationError Float :=
  match lookup name with
  | some value => .ok value
  | none => .error (.undefinedVariable name)

namespace Tree

def evalWith (lookup : String → Option Float) :
    Tree → Except EvaluationError Float
  | .const value => .ok value
  | .var name => valueOf lookup name
  | .binary operator left right => do
      let leftValue ← left.evalWith lookup
      let rightValue ← right.evalWith lookup
      operator.apply leftValue rightValue
  | .call function argument => do
      let value ← argument.evalWith lookup
      return function.apply value

def eval (tree : Tree) (bindings : Bindings) : Except EvaluationError Float :=
  tree.evalWith bindings.get?

end Tree

/-! ## Analyses of sources -/

/-- A source that is a formula: its tokens, the tree that they make, and the
variables in the order of their first occurrences. -/
structure Analysis where
  tokens : List Token
  tree : Tree
  variableNames : List String
  deriving DecidableEq, BEq

def analyze (source : String) : Except Error Analysis :=
  match scan source with
  | .error cause => .error (.scanning cause)
  | .ok tokens =>
      match Tree.ofTokens tokens with
      | .error cause => .error (.grammar cause)
      | .ok tree => .ok ⟨tokens, tree, tree.variableNames⟩

/-- A source has an analysis exactly if it has tokens and these make a tree. -/
theorem analyze_eq_ok_iff {source : String} {analysis : Analysis} :
    analyze source = .ok analysis ↔
      scan source = .ok analysis.tokens ∧
      Tree.ofTokens analysis.tokens = .ok analysis.tree ∧
      analysis.variableNames = analysis.tree.variableNames := by
  obtain ⟨tokens, tree, variableNames⟩ := analysis
  unfold analyze
  cases scan source with
  | error cause => simp
  | ok scanned =>
      cases read : Tree.ofTokens scanned with
      | error cause =>
          simp only [read]
          constructor
          · intro analyzed
            contradiction
          · rintro ⟨same, accepted, -⟩
            rw [← Except.ok.inj same, read] at accepted
            contradiction
      | ok found =>
          simp only [read, Except.ok.injEq, Analysis.mk.injEq]
          constructor
          · rintro ⟨rfl, rfl, rfl⟩
            exact ⟨rfl, read, rfl⟩
          · rintro ⟨rfl, accepted, rfl⟩
            obtain rfl := Except.ok.inj (read.symm.trans accepted)
            exact ⟨rfl, rfl, rfl⟩

theorem mem_variableNames_of_analyze {source : String} {analysis : Analysis}
    (analyzed : analyze source = .ok analysis) {name : String} :
    name ∈ analysis.variableNames ↔ name ∈ analysis.tree.names := by
  rw [(analyze_eq_ok_iff.mp analyzed).2.2, Tree.mem_variableNames]

def evaluate (source : String) (bindings : Bindings) : Except Error Float :=
  match analyze source with
  | .error cause => .error cause
  | .ok analysis => (analysis.tree.eval bindings).mapError .evaluation

end Formula
