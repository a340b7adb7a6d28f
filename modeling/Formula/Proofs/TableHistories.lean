import Formula.Proofs.Lookups
import Mathlib.Data.Set.Card

/-!
# Histories of tables

A table comes about by updates: some start a table anew, the others change the one
there is.  For a single name an update is a list of *writes*.  A value that is
inserted replaces the one that is there, and a value that is filled in counts only
where there is none.

After any updates a name has the value that its writes give when they are replayed
from the last update on that started a table anew.  `get?_perform` says what one
update does to a name, and a history is followed by induction from there.  Two
tables with the same values are the same list of pairs, so that filling is compared
name by name.
-/

namespace Formula

namespace Bindings

/-- An operation that makes or changes a table. -/
inductive Update where
  | empty
  | insert (name : String) (value : Float)
  | insertMany (pairs : List (String × Float))
  | ofList (pairs : List (String × Float))
  | fillMissing (names : List String) (value : Float)

/-- The table after an update. -/
def perform (bindings : Bindings) : Update → Bindings
  | .empty => ∅
  | .insert name value => (bindings.exchange name value).2
  | .insertMany pairs => bindings.insertMany pairs
  | .ofList pairs => ofList pairs
  | .fillMissing names value => bindings.fillMissing names value

/-- The table after some updates, the first of which finds the empty table. -/
def after (updates : List Update) : Bindings :=
  updates.foldl perform ∅

/-! ## Replaying the updates for one name -/

/-- What an update does to the value of a name. -/
inductive Write where
  | replace (value : Float)
  | fill (value : Float)

/-- The value of a name after a write. -/
def Write.over : Option Float → Write → Option Float
  | _, .replace value => some value
  | none, .fill value => some value
  | some present, .fill _ => some present

namespace Update

/-- Whether an update forgets the table that it finds. -/
def startsAnew : Update → Bool
  | .empty | .ofList _ => true
  | .insert _ _ | .insertMany _ | .fillMissing _ _ => false

/-- The writes of an update to a name, in their order. -/
def writes (name : String) : Update → List Write
  | .empty => []
  | .insert bound value => if bound = name then [.replace value] else []
  | .insertMany pairs | .ofList pairs =>
      (pairs.filter fun pair => pair.1 = name).map fun pair => .replace pair.2
  | .fillMissing names value => if name ∈ names then [.fill value] else []

/-- The updates from the last one on that starts a table anew, or all of them where
none does. -/
def sinceStart : List Update → List Update
  | [] => []
  | update :: later =>
      if later.any startsAnew then sinceStart later else update :: later

theorem sinceStart_eq_self {updates : List Update}
    (kept : updates.any startsAnew = false) : sinceStart updates = updates := by
  cases updates with
  | nil => rfl
  | cons update later =>
      rw [List.any_cons, Bool.or_eq_false_iff] at kept
      rw [sinceStart, kept.2]
      rfl

end Update

/-- The value of a name by the writes to it since a table was last started. -/
def replay? (updates : List Update) (name : String) : Option Float :=
  ((Update.sinceStart updates).flatMap (Update.writes name)).foldl
    Write.over none

theorem foldl_over_pairs (pairs : List (String × Float)) (name : String)
    (present : Option Float) :
    ((pairs.filter fun pair => pair.1 = name).map
        fun pair => Write.replace pair.2).foldl Write.over present =
      (lastValue? pairs name).or present := by
  induction pairs generalizing present with
  | nil => rfl
  | cons pair pairs inductionHypothesis =>
      rw [lastValue?_cons]
      by_cases named : pair.1 = name
      · simp only [named, List.filter_cons, decide_true, if_true, List.map_cons,
          List.foldl_cons, Write.over]
        rw [inductionHypothesis]
        cases lastValue? pairs name <;> rfl
      · simp only [named, List.filter_cons, decide_false, Bool.false_eq_true,
          if_false, Option.or_none]
        exact inductionHypothesis present

theorem get?_perform (bindings : Bindings) (update : Update) (name : String) :
    (bindings.perform update).get? name =
      (update.writes name).foldl Write.over
        (if update.startsAnew then none else bindings.get? name) := by
  cases update with
  | empty => exact get?_empty name
  | insert bound value =>
      by_cases named : bound = name
      · simp [perform, exchange, Update.writes, named, Write.over]
      · simp [perform, exchange, Update.writes, Update.startsAnew, named]
  | insertMany pairs =>
      rw [Update.writes, foldl_over_pairs]
      exact get?_insertMany bindings pairs name
  | ofList pairs =>
      rw [Update.writes, foldl_over_pairs, Update.startsAnew, if_pos rfl,
        Option.or_none]
      exact get?_ofList pairs name
  | fillMissing names value =>
      rw [perform, get?_fillMissing, Update.writes, Update.startsAnew]
      by_cases listed : name ∈ names
      · cases bindings.get? name <;> simp [listed, Write.over]
      · simp [listed]

theorem get?_foldl_perform (bindings : Bindings) (updates : List Update)
    (name : String) :
    (updates.foldl perform bindings).get? name =
      ((Update.sinceStart updates).flatMap (Update.writes name)).foldl Write.over
        (if updates.any Update.startsAnew then none else bindings.get? name) := by
  -- The table in front is general: what it has counts until an update starts anew.
  induction updates generalizing bindings with
  | nil => rfl
  | cons update later inductionHypothesis =>
      rw [List.foldl_cons, inductionHypothesis, get?_perform, List.any_cons,
        Update.sinceStart]
      cases restarted : later.any Update.startsAnew with
      | true => simp
      | false =>
          rw [Update.sinceStart_eq_self restarted]
          simp

theorem get?_after (updates : List Update) (name : String) :
    (after updates).get? name = replay? updates name := by
  have unbound : (if updates.any Update.startsAnew then none
      else (∅ : Bindings).get? name) = none := by
    simp
  rw [after, get?_foldl_perform, unbound, replay?]

theorem after_concat (updates : List Update) (update : Update) :
    after (updates ++ [update]) = (after updates).perform update :=
  List.foldl_concat perform ∅ update updates

/-! ## Numbers of names -/

theorem encard_bound (bindings : Bindings) :
    {name | (bindings.get? name).isSome = true}.encard = bindings.size := by
  have listed : {name | (bindings.get? name).isSome = true} =
      (bindings.values.keys.toFinset : Set String) := by
    ext name
    simp [get?]
  -- A table lists no name twice, so the list of its names is as long as their set.
  rw [listed, Set.encard_coe_eq_coe_finsetCard,
    List.toFinset_card_of_nodup Std.TreeMap.nodup_keys, Std.TreeMap.length_keys]
  rfl

theorem isEmpty_iff_size_eq_zero (bindings : Bindings) :
    bindings.isEmpty = true ↔ bindings.size = 0 := by
  rw [isEmpty, size, Std.TreeMap.isEmpty_eq_size_eq_zero, beq_iff_eq]

/-! ## Filling -/

theorem toList_eq_of_get?_eq {first second : Bindings}
    (agree : ∀ name, first.get? name = second.get? name) :
    first.toList = second.toList :=
  Std.TreeMap.Equiv.toList_eq (.of_forall_constGet?_eq agree)

theorem toList_fillMissing_twice (bindings : Bindings) (names : List String)
    (value other : Float) :
    ((bindings.fillMissing names value).fillMissing names other).toList =
      (bindings.fillMissing names value).toList := by
  apply toList_eq_of_get?_eq
  intro name
  rw [get?_fillMissing, get?_fillMissing]
  by_cases listed : name ∈ names
  · cases bindings.get? name <;> simp [listed]
  · simp [listed]

theorem toList_fillMissing_congr (bindings : Bindings)
    {first second : List String}
    (same : ∀ name, name ∈ first ↔ name ∈ second) (value : Float) :
    (bindings.fillMissing first value).toList =
      (bindings.fillMissing second value).toList := by
  apply toList_eq_of_get?_eq
  intro name
  rw [get?_fillMissing, get?_fillMissing]
  simp only [same name]

/-! ## Tables as finite maps -/

/-- A table is the finite map that its history gives.  Each name has the value that
replaying the updates gives it, an insertion returns the value that the name had
until then, and the size is the number of names with a value.  Filling a second
time changes nothing, whatever the second value is, and only the set of the filled
names counts. -/
theorem table_follows_history (updates : List Update) :
    (∀ name,
      (after updates).get? name = replay? updates name ∧
      (after updates).contains name = ((after updates).get? name).isSome ∧
      ∀ value, (after updates).exchange name value =
        (replay? updates name, after (updates ++ [.insert name value]))) ∧
    {name | ((after updates).get? name).isSome = true}.encard =
      (after updates).size ∧
    ((after updates).isEmpty = true ↔ (after updates).size = 0) ∧
    (∀ (names : List String) (value other : Float),
      (((after updates).fillMissing names value).fillMissing names other).toList =
        ((after updates).fillMissing names value).toList) ∧
    (∀ (first second : List String) (value : Float),
      (∀ name, name ∈ first ↔ name ∈ second) →
      ((after updates).fillMissing first value).toList =
        ((after updates).fillMissing second value).toList) := by
  refine ⟨?_, encard_bound _, isEmpty_iff_size_eq_zero _, ?_, ?_⟩
  · intro name
    refine ⟨get?_after updates name, contains_eq_isSome_get? _ name, ?_⟩
    intro value
    rw [after_concat, perform, exchange, get?_after]
  · exact toList_fillMissing_twice (after updates)
  · intro first second value same
    exact toList_fillMissing_congr (after updates) same value

/-- A table that is started anew in between, with names that are repeated in every
kind of update. -/
theorem table_follows_history_behind_restart :
    let updates : List Update :=
      [.insert "u" 1, .fillMissing ["x"] 2,
        .ofList [("x", 3), ("y", 4), ("x", 5)], .fillMissing ["z", "x", "z"] 6,
        .insertMany [("y", 7), ("y", 8)]]
    (after updates).get? "u" = none ∧
    (after updates).get? "x" = some 5 ∧
    (after updates).get? "z" = some 6 ∧
    (after updates).exchange "y" 9 =
      (some 8, after (updates ++ [.insert "y" 9])) ∧
    {name | ((after updates).get? name).isSome = true}.encard = 3 ∧
    ((after updates).fillMissing ["v", "u", "v"] 0).toList =
      ((after updates).fillMissing ["u", "v"] 0).toList := by
  intro updates
  obtain ⟨values, counted, -, -, reordered⟩ := table_follows_history updates
  refine ⟨(values "u").1, (values "x").1, (values "z").1, (values "y").2.2 9,
    counted, ?_⟩
  apply reordered
  intro name
  simp only [List.mem_cons, List.not_mem_nil, or_false]
  tauto

end Bindings

end Formula
