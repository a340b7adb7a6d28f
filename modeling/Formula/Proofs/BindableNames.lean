import Formula.CommandLine.Options
import Formula.Proofs.Lookups
import Formula.Proofs.RoundTrip
import Formula.Proofs.ScanFaults

/-!
# Names that are bound and names that are used

A binding on the command line is accepted if the characters of its name are
alphabetic, while the words of a formula consist of letters.  The first class is
the larger one.  So a binding that is accepted is of use exactly if its name
consists of letters: such a name is a variable, and any other one is no token and
occurs in no formula, so that its binding is never looked up.
-/

namespace Formula

/-! ## Alphabetic characters that are no letters -/

namespace Text

theorem inRanges_of_isAlphabetic {character : Char}
    (alphabetic : isAlphabetic character = true)
    (noLetter : isLetter character = false) :
    inRanges character.toNat otherAlphabeticRanges = true := by
  rwa [isAlphabetic, noLetter, Bool.false_or] at alphabetic

theorem isBlank_eq_false_of_isAlphabetic {character : Char}
    (alphabetic : isAlphabetic character = true) :
    isBlank character = false := by
  by_cases letter : isLetter character = true
  · exact isBlank_eq_false_of_isLetter letter
  · have apart : ∀ left ∈ otherAlphabeticRanges, ∀ right ∈ blankRanges,
        left.2 < right.1 ∨ right.2 < left.1 := by
      decide +kernel
    have noLetter : isLetter character = false :=
      Bool.eq_false_iff.mpr letter
    exact inRanges_eq_false_of_apart apart
      (inRanges_of_isAlphabetic alphabetic noLetter)

theorem le_toNat_of_isAlphabetic {character : Char}
    (alphabetic : isAlphabetic character = true)
    (noLetter : isLetter character = false) : 0x345 ≤ character.toNat := by
  have bound : ∀ range ∈ otherAlphabeticRanges, 0x345 ≤ range.1 := by
    decide +kernel
  obtain ⟨range, member, low, -⟩ :=
    exists_range_of_inRanges (inRanges_of_isAlphabetic alphabetic noLetter)
  exact Nat.le_trans (bound range member) low

/-- An alphabetic character that is no letter belongs to no lexeme. -/
theorem unrecognized_of_isAlphabetic {character : Char}
    (alphabetic : isAlphabetic character = true)
    (noLetter : isLetter character = false) : Unrecognized character := by
  have high : 0x345 ≤ character.toNat :=
    le_toNat_of_isAlphabetic alphabetic noLetter
  have noNumeral : Lexeme.isNumeral character = false := by
    rw [Bool.eq_false_iff]
    intro numeral
    have bounds := Lexeme.toNat_bounds_of_isNumeral numeral
    omega
  have noSymbol : Symbol.ofChar? character = none := by
    cases found : Symbol.ofChar? character with
    | none => rfl
    | some shape =>
        have low := shape.toNat_char_lt
        rw [Symbol.char_of_ofChar? found] at low
        omega
  have nothing : Lexeme.first? false [character] = none :=
    Lexeme.first?_eq_none_iff.mpr ⟨noNumeral, noSymbol, noLetter⟩
  exact Lexeme.unrecognized_of_first?
    (isBlank_eq_false_of_isAlphabetic alphabetic) nothing

end Text

/-! ## Scanning names -/

/-- A name of letters is one token. -/
theorem scan_of_letters {name : String} (nonempty : name.toList ≠ [])
    (letters : ∀ character ∈ name.toList, Text.isLetter character = true) :
    scan name = .ok [.word name 0] := by
  have notBlank : ∀ character ∈ name.toList,
      Text.isBlank character = false :=
    fun character member =>
      Text.isBlank_eq_false_of_isLetter (letters character member)
  have fits : (Lexeme.word name.toList).Fits false [] :=
    ⟨nonempty, letters, by simp⟩
  have made : (Lexeme.word name.toList).token? 0 = some (.word name 0) := by
    simp [Lexeme.token?]
  exact scan_of_lexeme rfl notBlank fits made

/-- A name with an alphabetic character that is no letter is refused there. -/
theorem scan_of_noLetter {name : String} {letters rest : List Char}
    {character : Char}
    (alphabetic : ∀ other ∈ name.toList, Text.isAlphabetic other = true)
    (split : name.toList = letters ++ character :: rest)
    (allLetters : ∀ letter ∈ letters, Text.isLetter letter = true)
    (noLetter : Text.isLetter character = false) :
    scan name =
      .error (.unrecognizedCharacter character letters.length) := by
  have front : (cutOff name letters.length).toList = letters := by
    rw [toList_cutOff, split, List.take_left]
  obtain ⟨before, scanned⟩ :
      ∃ before, scan (cutOff name letters.length) = .ok before := by
    by_cases nonempty : letters = []
    · refine ⟨[], scan_eq_ok_iff.mpr ⟨[], ?_, rfl⟩⟩
      rw [front, nonempty]
      exact .done none 0
    · refine ⟨_, scan_of_letters ?_ ?_⟩
      · rwa [front]
      · rwa [front]
  have found : name.toList[letters.length]? = some character := by
    simp [split]
  exact scan_of_unrecognized scanned found
    (Text.unrecognized_of_isAlphabetic
      (alphabetic character (by simp [split])) noLetter)

/-! ## Names in formulas -/

/-- A name in a well-formed tree is a variable on its own. -/
theorem Tree.WellFormed.var_of_mem_names {tree : Tree} {name : String}
    (wellFormed : tree.WellFormed) (occurs : name ∈ tree.names) :
    (Tree.var name).WellFormed := by
  induction tree with
  | const value => simp [names] at occurs
  | var other =>
      obtain rfl : name = other := by simpa [names] using occurs
      exact wellFormed
  | binary operator left right leftHypothesis rightHypothesis =>
      rw [names, List.mem_append] at occurs
      rcases occurs with inLeft | inRight
      · exact leftHypothesis wellFormed.1 inLeft
      · exact rightHypothesis wellFormed.2 inRight
  | call function argument inductionHypothesis =>
      exact inductionHypothesis wellFormed occurs

theorem wellFormed_of_mem_variableNames {source : String}
    {analysis : Analysis} (analyzed : analyze source = .ok analysis)
    {name : String} (listed : name ∈ analysis.variableNames) :
    (Tree.var name).WellFormed := by
  have occurs : name ∈ analysis.tree.names :=
    (mem_variableNames_of_analyze analyzed).mp listed
  exact (wellFormed_of_analyze analyzed).var_of_mem_names occurs

theorem isLetter_of_mem_variableNames {source : String} {analysis : Analysis}
    (analyzed : analyze source = .ok analysis) {name : String}
    (listed : name ∈ analysis.variableNames) :
    ∀ character ∈ name.toList, Text.isLetter character = true :=
  (wellFormed_of_mem_variableNames analyzed listed).2.1

/-- A word that names no function is a formula, and its value is the one that it
is bound to. -/
theorem evaluate_of_scan {name : String}
    (scanned : scan name = .ok [.word name 0])
    (named : (Token.word name 0).category = .identifier) (value : Float) :
    evaluate name (Bindings.ofList [(name, value)]) = .ok value := by
  have derivation : Derives .expression [.word name 0] (.var name) :=
    (Derives.name named).loosen (Nat.zero_le _)
  have read : Tree.ofTokens [.word name 0] = .ok (.var name) :=
    ofTokens_eq_ok_iff_derives.mpr derivation
  have bound : (Bindings.ofList [(name, value)]).get? name = some value := by
    simp [Bindings.get?_ofList, lastValue?]
  simp [evaluate, analyze, scanned, read, Tree.eval, Tree.evalWith, valueOf,
    bound, Except.mapError]

/-! ## Reading a binding -/

namespace CommandLine

theorem readNumber_eq_ok_iff {text : String} {value : Float} :
    readNumber text = .ok value ↔
      Literal.value? (Text.trimBlanks text.toList) = some value := by
  unfold readNumber
  cases Literal.value? (Text.trimBlanks text.toList) with
  | none => simp
  | some other => simp

theorem bne_equals_of_notMem {before : List Char} (noEquals : '=' ∉ before) :
    ∀ character ∈ before, (character != '=') = true := by
  intro character member
  by_cases equals : character = '='
  · rw [equals] at member
    contradiction
  · simpa using equals

theorem readBinding_of_noEquals {text : String}
    (noEquals : '=' ∉ text.toList) :
    readBinding text = .error (.notABinding text) := by
  have nothingLeft : text.toList.dropWhile (· != '=') = [] :=
    List.dropWhile_eq_nil_iff.mpr (bne_equals_of_notMem noEquals)
  simp only [readBinding, nothingLeft]

/-- The first equals sign ends the name. -/
theorem readBinding_of_split {text : String} {before after : List Char}
    (split : text.toList = before ++ '=' :: after) (noEquals : '=' ∉ before) :
    readBinding text =
      let name := String.ofList (Text.trimBlanks before)
      if !isBindable name then
        .error (.notAName name)
      else if (Function.ofWord? name).isSome then
        .error (.functionName name)
      else
        (readNumber (String.ofList after)).map (name, ·) := by
  have others := bne_equals_of_notMem noEquals
  have front : text.toList.takeWhile (· != '=') = before := by
    rw [split, List.takeWhile_append_of_pos others]
    simp
  have back : text.toList.dropWhile (· != '=') = '=' :: after := by
    rw [split, List.dropWhile_append_of_pos others]
    simp
  simp only [readBinding, front, back]

theorem readBinding_eq_ok_iff {text name : String} {value : Float} :
    readBinding text = .ok (name, value) ↔
      ∃ before after,
        text.toList = before ++ '=' :: after ∧
        '=' ∉ before ∧
        name = String.ofList (Text.trimBlanks before) ∧
        isBindable name = true ∧
        Function.ofWord? name = none ∧
        Literal.value? (Text.trimBlanks after) = some value := by
  constructor
  · intro accepted
    by_cases equals : '=' ∈ text.toList
    · obtain ⟨before, after, split, noEquals⟩ :=
        List.eq_append_cons_of_mem equals
      refine ⟨before, after, split, noEquals, ?_⟩
      rw [readBinding_of_split split noEquals] at accepted
      dsimp only at accepted
      split_ifs at accepted with unbindable named
      cases number : readNumber (String.ofList after) with
      | error reason => simp [number, Except.map] at accepted
      | ok read =>
          simp only [number, Except.map, Except.ok.injEq,
            Prod.mk.injEq] at accepted
          obtain ⟨rfl, rfl⟩ := accepted
          have valued := readNumber_eq_ok_iff.mp number
          rw [String.toList_ofList] at valued
          exact ⟨rfl, by simpa using unbindable, by simpa using named, valued⟩
    · rw [readBinding_of_noEquals equals] at accepted
      contradiction
  · rintro ⟨before, after, split, noEquals, rfl, bindable, noFunction, read⟩
    have number : readNumber (String.ofList after) = .ok value := by
      rw [readNumber_eq_ok_iff, String.toList_ofList]
      exact read
    rw [readBinding_of_split split noEquals]
    simp [bindable, noFunction, number, Except.map]

/-! ## Accepted names -/

/-- A name that a formula can use: it is one token, a variable at the beginning,
and alone it is a formula with the value that it is bound to. -/
structure Usable (name : String) (value : Float) : Prop where
  scanned : scan name = .ok [.word name 0]
  category : (Token.word name 0).category = .identifier
  evaluated : evaluate name (Bindings.ofList [(name, value)]) = .ok value

theorem usable_of_letters {name : String} (value : Float)
    (nonempty : name.toList ≠ [])
    (letters : ∀ character ∈ name.toList, Text.isLetter character = true)
    (noFunction : Function.ofWord? name = none) : Usable name value := by
  have scanned : scan name = .ok [.word name 0] :=
    scan_of_letters nonempty letters
  have named : (Token.word name 0).category = .identifier := by
    rw [Token.category, noFunction]
  exact
    { scanned := scanned
      category := named
      evaluated := evaluate_of_scan scanned named value }

/-- An accepted binding is of use exactly if its name consists of letters.  A
name with another character is refused at the first such character, and no
formula has it as a variable. -/
theorem accepted_name_usable_iff {text name : String} {value : Float}
    (accepted : readBinding text = .ok (name, value)) :
    (Usable name value ↔
      ∀ character ∈ name.toList, Text.isLetter character = true) ∧
    ∀ (letters rest : List Char) (character : Char),
      name.toList = letters ++ character :: rest →
      (∀ letter ∈ letters, Text.isLetter letter = true) →
      Text.isLetter character = false →
      scan name =
        .error (.unrecognizedCharacter character letters.length) ∧
      ∀ (source : String) (analysis : Analysis),
        analyze source = .ok analysis → name ∉ analysis.variableNames := by
  obtain ⟨before, after, -, -, -, bindable, noFunction, -⟩ :=
    readBinding_eq_ok_iff.mp accepted
  obtain ⟨nonempty, alphabetic⟩ :
      name.toList ≠ [] ∧
        ∀ character ∈ name.toList, Text.isAlphabetic character = true := by
    simpa [isBindable] using bindable
  refine ⟨⟨?_, ?_⟩, ?_⟩
  · intro usable
    exact (wellFormed_of_scan usable.scanned (.word name 0) (by simp)).2
  · intro letters
    exact usable_of_letters value nonempty letters noFunction
  · intro letters rest character split allLetters noLetter
    refine ⟨scan_of_noLetter alphabetic split allLetters noLetter, ?_⟩
    intro source analysis analyzed listed
    have letter : Text.isLetter character = true :=
      isLetter_of_mem_variableNames analyzed listed character
        (by simp [split])
    rw [noLetter] at letter
    contradiction

/-- A name of letters with blanks around it, and one that a numeral ends. -/
theorem accepted_name_usable_iff_of_names :
    readBinding " ángulo = -2" =
      .ok ("ángulo", Number.ofLiteral ['-', '2']) ∧
    Usable "ángulo" (Number.ofLiteral ['-', '2']) ∧
    readBinding "xⅧ=1" = .ok ("xⅧ", Number.ofLiteral ['1']) ∧
    scan "xⅧ" = .error (.unrecognizedCharacter 'Ⅷ' 1) ∧
    ∀ (source : String) (analysis : Analysis),
      analyze source = .ok analysis → "xⅧ" ∉ analysis.variableNames := by
  have angle :
      readBinding " ángulo = -2" =
        .ok ("ángulo", Number.ofLiteral ['-', '2']) := by
    decide +kernel
  have numbered :
      readBinding "xⅧ=1" = .ok ("xⅧ", Number.ofLiteral ['1']) := by
    decide +kernel
  have letters : "ángulo".toList.all Text.isLetter = true := by decide +kernel
  have first : ['x'].all Text.isLetter = true := by decide
  have last : Text.isLetter 'Ⅷ' = false := by decide +kernel
  exact ⟨angle,
    (accepted_name_usable_iff angle).1.mpr (List.all_eq_true.mp letters),
    numbered,
    (accepted_name_usable_iff numbered).2 ['x'] [] 'Ⅷ' (by decide)
      (List.all_eq_true.mp first) last⟩

/-- Not every accepted name can be used: a Roman numeral sign is alphabetic and
begins no token. -/
theorem roman_numeral_accepted_not_usable :
    readBinding "Ⅷ=1" = .ok ("Ⅷ", Number.ofLiteral ['1']) ∧
    scan "Ⅷ" = .error (.unrecognizedCharacter 'Ⅷ' 0) ∧
    ¬ Usable "Ⅷ" (Number.ofLiteral ['1']) := by
  have scanned :
      scan "Ⅷ" = .error (.unrecognizedCharacter 'Ⅷ' 0) := by
    decide +kernel
  refine ⟨by decide +kernel, scanned, ?_⟩
  intro usable
  have found := usable.scanned
  simp [scanned] at found

end CommandLine

end Formula
