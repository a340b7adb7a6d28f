import Formula.Evaluation

/-!
# Values by name

A list of names with values gives each name the value of its last pair, and this
is what a table that is made of the list has.  A tree is evaluated by looking up
the names that occur in it and nothing else.
-/

namespace Formula

/-! ## The last value of a name -/

/-- The value in the last of the pairs with the given name. -/
def lastValue? (pairs : List (String × Float)) (name : String) : Option Float :=
  (pairs.filter fun pair => pair.1 == name).getLast?.map (·.2)

theorem lastValue?_append (first second : List (String × Float))
    (name : String) :
    lastValue? (first ++ second) name =
      (lastValue? second name).or (lastValue? first name) := by
  rw [lastValue?, List.filter_append, List.getLast?_append, Option.map_or]
  rfl

theorem lastValue?_cons (pair : String × Float)
    (pairs : List (String × Float)) (name : String) :
    lastValue? (pair :: pairs) name =
      (lastValue? pairs name).or
        (if pair.1 = name then some pair.2 else none) := by
  have alone :
      lastValue? [pair] name =
        if pair.1 = name then some pair.2 else none := by
    by_cases same : pair.1 = name
    · simp [lastValue?, same]
    · simp [lastValue?, same]
  rw [← List.singleton_append, lastValue?_append, alone]

theorem isSome_lastValue? {pair : String × Float}
    {pairs : List (String × Float)} (member : pair ∈ pairs) :
    (lastValue? pairs pair.1).isSome = true := by
  have found : pair ∈ pairs.filter fun other => other.1 == pair.1 := by
    simpa using member
  rw [lastValue?, Option.isSome_map, List.getLast?_isSome]
  exact List.ne_nil_of_mem found

/-- A pair with a later one of the same name does not count. -/
theorem lastValue?_overridden {pair later : String × Float}
    {before after : List (String × Float)} (member : later ∈ after)
    (same : later.1 = pair.1) (name : String) :
    lastValue? (before ++ pair :: after) name =
      lastValue? (before ++ after) name := by
  rw [lastValue?_append, lastValue?_append, lastValue?_cons]
  by_cases named : pair.1 = name
  · have found : (lastValue? after name).isSome = true := by
      rw [← named, ← same]
      exact isSome_lastValue? member
    obtain ⟨value, last⟩ := Option.isSome_iff_exists.mp found
    simp [last]
  · simp [named]

/-- Pairs that are left out by their names do not count for the other names. -/
theorem lastValue?_filter {keep : String → Bool} {name : String}
    (kept : keep name = true) (pairs : List (String × Float)) :
    lastValue? (pairs.filter fun pair => keep pair.1) name =
      lastValue? pairs name := by
  have same :
      (fun pair : String × Float => pair.1 == name && keep pair.1) =
        fun pair => pair.1 == name := by
    funext pair
    by_cases named : pair.1 = name
    · simp [named, kept]
    · simp [named]
  rw [lastValue?, List.filter_filter, same]
  rfl

/-! ## Tables made of lists -/

namespace Bindings

theorem get?_insertMany (bindings : Bindings)
    (pairs : List (String × Float)) (name : String) :
    (bindings.insertMany pairs).get? name =
      (lastValue? pairs name).or (bindings.get? name) := by
  induction pairs generalizing bindings with
  | nil => rfl
  | cons pair pairs inductionHypothesis =>
      rw [insertMany_cons, inductionHypothesis, get?_insert, lastValue?_cons]
      by_cases named : pair.1 = name
      · cases lastValue? pairs name <;> simp [named]
      · simp [named]

theorem get?_ofList (pairs : List (String × Float)) (name : String) :
    (ofList pairs).get? name = lastValue? pairs name := by
  have unbound : empty.get? name = none := get?_empty name
  rw [ofList, get?_insertMany, unbound, Option.or_none]

end Bindings

/-! ## What an evaluation looks up -/

namespace Tree

theorem evalWith_congr {tree : Tree} {first second : String → Option Float}
    (agree : ∀ name ∈ tree.names, first name = second name) :
    tree.evalWith first = tree.evalWith second := by
  induction tree with
  | const value => rfl
  | var name =>
      have same : first name = second name := agree name (by simp [names])
      rw [evalWith, evalWith, valueOf, valueOf, same]
  | binary operator left right leftHypothesis rightHypothesis =>
      have leftAgree : ∀ name ∈ left.names, first name = second name :=
        fun name member => agree name (List.mem_append_left _ member)
      have rightAgree : ∀ name ∈ right.names, first name = second name :=
        fun name member => agree name (List.mem_append_right _ member)
      rw [evalWith, evalWith, leftHypothesis leftAgree,
        rightHypothesis rightAgree]
  | call function argument inductionHypothesis =>
      rw [evalWith, evalWith, inductionHypothesis agree]

end Tree

end Formula
