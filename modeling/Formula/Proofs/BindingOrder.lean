import Formula.CommandLine.Report
import Formula.Proofs.FirstFailure
import Formula.Proofs.Lookups

/-!
# Which binding counts

The command line gives a name a value in at most two ways: by a binding, of which
there may be several for one name, and by the default.  The last binding counts,
and the default counts where there is none.

So the answer for a source hangs on the last bindings of its variables alone.
Bindings of other names, bindings that are overridden and the order of bindings
of different names make no difference.  With a default every variable has a value
and only a division can fail.
-/

namespace Formula.CommandLine.Options

/-- The value that the options give a name: that of the last binding for it, or
else the default. -/
def valueFor? (options : Options) (name : String) : Option Float :=
  (lastValue? options.bindings name).or options.default?

/-- The options with other bindings. -/
def rebind (options : Options) (pairs : List (String × Float)) : Options :=
  { options with bindings := pairs }

theorem get?_bindingsFor {name : String} {names : List String}
    (listed : name ∈ names) (options : Options) :
    (options.bindingsFor names).get? name = options.valueFor? name := by
  unfold bindingsFor valueFor?
  cases options.default? with
  | none => rw [Bindings.get?_ofList, Option.or_none]
  | some value =>
      rw [Bindings.get?_fillMissing, Bindings.get?_ofList, if_pos listed]

/-- All variables of a tree are listed, so none is left without the default. -/
theorem evaluate_eq_evalWith {source : String} {analysis : Analysis}
    (analyzed : analyze source = .ok analysis) (options : Options) :
    options.evaluate analysis =
      analysis.tree.evalWith options.valueFor? := by
  apply Tree.evalWith_congr
  intro name occurs
  exact get?_bindingsFor
    ((mem_variableNames_of_analyze analyzed).mpr occurs) options

theorem report_eq_of_analyze {source : String} {analysis : Analysis}
    (analyzed : analyze source = .ok analysis) (options : Options) :
    options.report source =
      if options.listVariables then
        .ok (options.listing analysis ++ analysis.variableNames)
      else
        ((analysis.tree.evalWith options.valueFor?).map fun result =>
          options.listing analysis ++ [options.resultText result]).mapError
            .evaluation := by
  simp only [report, analyzed, evaluate_eq_evalWith analyzed]
  split
  · rfl
  · cases analysis.tree.evalWith options.valueFor? with
    | error cause => rfl
    | ok result => rfl

/-- Only the last bindings of the variables count. -/
theorem report_rebind_eq {source : String} {analysis : Analysis}
    (analyzed : analyze source = .ok analysis) (options : Options)
    {first second : List (String × Float)}
    (sameLast : ∀ name ∈ analysis.variableNames,
      lastValue? first name = lastValue? second name) :
    (options.rebind first).report source =
      (options.rebind second).report source := by
  have sameValue :
      analysis.tree.evalWith (options.rebind first).valueFor? =
        analysis.tree.evalWith (options.rebind second).valueFor? := by
    apply Tree.evalWith_congr
    intro name occurs
    have listed : name ∈ analysis.variableNames :=
      (mem_variableNames_of_analyze analyzed).mpr occurs
    simp only [valueFor?, rebind, sameLast name listed]
  rw [report_eq_of_analyze analyzed, report_eq_of_analyze analyzed, sameValue]
  rfl

/-- Where all variables have values, the answer for a formula is an error only
where a division by zero is. -/
theorem eq_divisionByZero_of_valueFor? {source : String} {analysis : Analysis}
    (analyzed : analyze source = .ok analysis) {options : Options}
    (bound : ∀ name ∈ analysis.variableNames,
      (options.valueFor? name).isSome = true) {cause : Error}
    (failed : options.report source = .error cause) :
    cause = .evaluation .divisionByZero := by
  have boundNames : ∀ name ∈ analysis.tree.names,
      (options.valueFor? name).isSome = true :=
    fun name occurs =>
      bound name ((mem_variableNames_of_analyze analyzed).mpr occurs)
  rw [report_eq_of_analyze analyzed] at failed
  split at failed
  next => contradiction
  next =>
    cases answer : analysis.tree.evalWith options.valueFor? with
    | ok result =>
        rw [answer] at failed
        contradiction
    | error failure =>
        rw [answer] at failed
        obtain rfl := Except.error.inj failed
        rw [Tree.eq_divisionByZero_of_bound boundNames answer]

/-- A default is a value for every name. -/
theorem eq_divisionByZero_of_report {source : String} {analysis : Analysis}
    (analyzed : analyze source = .ok analysis) {options : Options}
    (defaulted : options.default?.isSome = true) {cause : Error}
    (failed : options.report source = .error cause) :
    cause = .evaluation .divisionByZero := by
  apply eq_divisionByZero_of_valueFor? analyzed _ failed
  intro name _
  simp [valueFor?, defaulted]

/-- A formula is evaluated with the last binding of each variable, or else the
default.  Hence the answer stays the same when bindings of other names come or
go, when a binding goes that a later one overrides, and when bindings are
reordered with those of each name kept in their order.  With a default only a
division by zero can fail. -/
theorem last_binding_counts {source : String} {analysis : Analysis}
    (analyzed : analyze source = .ok analysis) (options : Options) :
    (options.listVariables = false →
      options.evaluate analysis = analysis.tree.evalWith options.valueFor? ∧
      options.report source =
        ((analysis.tree.evalWith options.valueFor?).map fun result =>
          options.listing analysis ++ [options.resultText result]).mapError
            .evaluation) ∧
    (∀ first second : List (String × Float),
      (first.filter fun pair => pair.1 ∈ analysis.variableNames) =
        (second.filter fun pair => pair.1 ∈ analysis.variableNames) →
      (options.rebind first).report source =
        (options.rebind second).report source) ∧
    (∀ (before after : List (String × Float)) (pair : String × Float),
      (∃ later ∈ after, later.1 = pair.1) →
      (options.rebind (before ++ pair :: after)).report source =
        (options.rebind (before ++ after)).report source) ∧
    (∀ first second : List (String × Float),
      (∀ name, (first.filter fun pair => pair.1 == name) =
        second.filter fun pair => pair.1 == name) →
      (options.rebind first).report source =
        (options.rebind second).report source) ∧
    (options.default?.isSome = true → ∀ cause,
      options.report source = .error cause →
      cause = .evaluation .divisionByZero) := by
  refine ⟨?_, ?_, ?_, ?_, ?_⟩
  · intro evaluated
    refine ⟨evaluate_eq_evalWith analyzed options, ?_⟩
    rw [report_eq_of_analyze analyzed, evaluated]
    rfl
  · intro first second sameKept
    apply report_rebind_eq analyzed
    intro name listed
    have sameLast : ∀ pairs : List (String × Float),
        lastValue? (pairs.filter fun pair => pair.1 ∈ analysis.variableNames)
          name = lastValue? pairs name :=
      @lastValue?_filter (fun other => other ∈ analysis.variableNames) name
        (decide_eq_true listed)
    rw [← sameLast first, sameKept, sameLast second]
  · rintro before after pair ⟨later, member, same⟩
    apply report_rebind_eq analyzed
    intro name _
    exact lastValue?_overridden member same name
  · intro first second sameOrder
    apply report_rebind_eq analyzed
    intro name _
    rw [lastValue?, lastValue?, sameOrder name]
  · intro defaulted cause failed
    exact eq_divisionByZero_of_report analyzed defaulted failed

/-- A name with two bindings, a name that does not occur and a divisor that only
the default binds. -/
theorem last_binding_counts_of_repeated :
    let options : Options :=
      { bindings := [("x", 1), ("z", 5), ("x", 3)], default? := some 0 }
    let tree : Tree := .binary .div (.var "x") (.var "y")
    options.report "x/y" =
      ((tree.evalWith options.valueFor?).map fun result =>
        [options.resultText result]).mapError .evaluation ∧
    (options.rebind [("x", 1), ("x", 3)]).report "x/y" =
      options.report "x/y" ∧
    (options.rebind [("z", 5), ("x", 3)]).report "x/y" =
      options.report "x/y" ∧
    (options.rebind [("x", 1), ("x", 3), ("z", 5)]).report "x/y" =
      options.report "x/y" ∧
    options.report "x/y" = .error (.evaluation .divisionByZero) ∧
    ∀ cause, options.report "x/y" = .error cause →
      cause = .evaluation .divisionByZero := by
  intro options tree
  have analyzed :
      analyze "x/y" =
        .ok ⟨[.word "x" 0, .symbol (.operator .div) 1, .word "y" 2], tree,
          ["x", "y"]⟩ := by
    rfl
  obtain ⟨evaluated, otherNames, overridden, reordered, failing⟩ :=
    last_binding_counts analyzed options
  refine ⟨(evaluated rfl).2, ?_, ?_, ?_, by rfl, failing rfl⟩
  · exact otherNames _ options.bindings (by rfl)
  · exact (overridden [] [("z", 5), ("x", 3)] ("x", 1)
      ⟨("x", 3), by simp, rfl⟩).symm
  · apply reordered _ options.bindings
    intro name
    by_cases named : "x" = name
    · simp [options, ← named]
    · simp [options, named, List.filter_cons]

end Formula.CommandLine.Options
