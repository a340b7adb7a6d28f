import Formula.Literal

/-!
# The language of numeric literals

A literal is an optional sign, a mantissa and an optional exponent.  The mantissa
has digits before or behind an optional point, and the exponent has a mark, an
optional sign and at least one digit.

The automaton accepts exactly these texts.  For each of its states this module
says which texts lead from there to acceptance; the states that read digits in a
loop are treated by induction on the text, and each of the others is left after
one character.
-/

namespace Formula.Literal

/-- A run of digits, possibly empty. -/
def IsDigits (text : List Char) : Prop :=
  ∀ character ∈ text, character.isDigit = true

/-- An optional sign. -/
def IsSign (text : List Char) : Prop :=
  text = [] ∨ text = ['+'] ∨ text = ['-']

/-- The mark of an exponent. -/
def IsMark (character : Char) : Prop :=
  character = 'e' ∨ character = 'E'

/-- An exponent with at least one digit. -/
def IsExponent (text : List Char) : Prop :=
  ∃ mark sign digits,
    text = mark :: (sign ++ digits) ∧
    IsMark mark ∧ IsSign sign ∧ IsDigits digits ∧ digits ≠ []

/-- Digits with at most one point among or around them. -/
def IsMantissa (text : List Char) : Prop :=
  (IsDigits text ∧ text ≠ []) ∨
    ∃ whole fraction,
      text = whole ++ '.' :: fraction ∧
      IsDigits whole ∧ IsDigits fraction ∧ (whole ≠ [] ∨ fraction ≠ [])

/-- A numeric literal. -/
def IsLiteral (text : List Char) : Prop :=
  ∃ sign mantissa exponent,
    text = sign ++ (mantissa ++ exponent) ∧
    IsSign sign ∧ IsMantissa mantissa ∧ (exponent = [] ∨ IsExponent exponent)

@[simp]
theorem isDigits_nil : IsDigits [] := by
  simp [IsDigits]

@[simp]
theorem isDigits_cons {character : Char} {text : List Char} :
    IsDigits (character :: text) ↔
      character.isDigit = true ∧ IsDigits text := by
  simp [IsDigits]

@[simp]
theorem isDigits_append {first second : List Char} :
    IsDigits (first ++ second) ↔ IsDigits first ∧ IsDigits second := by
  simp only [IsDigits, List.mem_append]
  constructor
  · intro all
    exact ⟨fun character member => all character (.inl member),
      fun character member => all character (.inr member)⟩
  · rintro ⟨firstDigits, secondDigits⟩ character (member | member)
    · exact firstDigits character member
    · exact secondDigits character member

/-! ## Kinds of characters -/

/-- What the kind of a character says about it. -/
inductive Belongs (character : Char) : CharClass → Prop
  | digit : character.isDigit = true → Belongs character .digit
  | point : character = '.' → Belongs character .point
  | sign : character = '+' ∨ character = '-' → Belongs character .sign
  | exponentMark : IsMark character → Belongs character .exponentMark
  | other : character.isDigit = false → Belongs character .other

theorem belongs_of (character : Char) :
    Belongs character (CharClass.of character) := by
  unfold CharClass.of
  split
  next digit => exact .digit digit
  next noDigit =>
    split
    next point => exact .point point
    next =>
      split
      next signed => exact .sign signed
      next =>
        split
        next marked => exact .exponentMark marked
        next => exact .other (by simpa using noDigit)

theorem of_digit {character : Char} (digit : character.isDigit = true) :
    CharClass.of character = .digit := by
  simp [CharClass.of, digit]

theorem of_mark {character : Char} (marked : IsMark character) :
    CharClass.of character = .exponentMark := by
  rcases marked with rfl | rfl <;> rfl

/-! ## Runs of the automaton -/

namespace State

@[simp]
theorem runFrom_nil (state : State) : state.runFrom [] = state :=
  rfl

@[simp]
theorem runFrom_cons (state : State) (character : Char) (text : List Char) :
    state.runFrom (character :: text) =
      (state.step (CharClass.of character)).runFrom text :=
  rfl

theorem runFrom_append (state : State) (first second : List Char) :
    state.runFrom (first ++ second) =
      (state.runFrom first).runFrom second :=
  List.foldl_append

@[simp]
theorem runFrom_rejected (text : List Char) :
    State.rejected.runFrom text = .rejected := by
  induction text with
  | nil => rfl
  | cons character text inductionHypothesis =>
      rw [runFrom_cons, step_rejected, inductionHypothesis]

theorem step_other (state : State) : state.step .other = .rejected := by
  cases state <;> rfl

/-- A state that digits do not leave is not left by a run of them. -/
theorem runFrom_digits {state : State} (stays : state.step .digit = state)
    {digits : List Char} (allDigits : IsDigits digits) :
    state.runFrom digits = state := by
  induction digits with
  | nil => rfl
  | cons digit digits inductionHypothesis =>
      obtain ⟨first, others⟩ := isDigits_cons.mp allDigits
      rw [runFrom_cons, of_digit first, stays]
      exact inductionHypothesis others

/-- The state after at least one digit, when the digits behind the first do not
change it. -/
theorem runFrom_digits_of_ne_nil {state after : State}
    (first : state.step .digit = after) (stays : after.step .digit = after)
    {digits : List Char} (allDigits : IsDigits digits)
    (nonempty : digits ≠ []) : state.runFrom digits = after := by
  cases digits with
  | nil => contradiction
  | cons digit digits =>
      obtain ⟨isDigit, others⟩ := isDigits_cons.mp allDigits
      rw [runFrom_cons, of_digit isDigit, first]
      exact runFrom_digits stays others

end State

/-! ## Every literal is accepted -/

/-- A state behind a whole mantissa. -/
def BehindMantissa (state : State) : Prop :=
  state = .whole ∨ state = .wholePoint ∨ state = .fraction

theorem behindMantissa_of_isMantissa {state : State} {mantissa : List Char}
    (before : state = .start ∨ state = .sign)
    (shape : IsMantissa mantissa) :
    BehindMantissa (state.runFrom mantissa) := by
  have toWhole : state.step .digit = .whole := by
    rcases before with rfl | rfl <;> rfl
  have toPoint : state.step .point = .leadingPoint := by
    rcases before with rfl | rfl <;> rfl
  rcases shape with ⟨digits, nonempty⟩ | ⟨whole, fraction, rfl, wholeDigits,
    fractionDigits, nonempty⟩
  · exact .inl (State.runFrom_digits_of_ne_nil toWhole rfl digits nonempty)
  · rw [State.runFrom_append]
    by_cases noWhole : whole = []
    · subst noWhole
      have someFraction : fraction ≠ [] := by simpa using nonempty
      have pointed : (state.runFrom []).runFrom ('.' :: fraction) =
          State.leadingPoint.runFrom fraction := by
        rw [State.runFrom_nil, State.runFrom_cons]
        exact congrArg (·.runFrom fraction) toPoint
      rw [pointed]
      exact .inr (.inr
        (State.runFrom_digits_of_ne_nil rfl rfl fractionDigits someFraction))
    · rw [State.runFrom_digits_of_ne_nil toWhole rfl wholeDigits noWhole,
        State.runFrom_cons]
      by_cases noFraction : fraction = []
      · subst noFraction
        exact .inr (.inl rfl)
      · exact .inr (.inr
          (State.runFrom_digits_of_ne_nil rfl rfl fractionDigits noFraction))

theorem runFrom_exponent {state : State} {exponent : List Char}
    (behind : BehindMantissa state) (shape : IsExponent exponent) :
    state.runFrom exponent = .exponentDigits := by
  obtain ⟨mark, sign, digits, rfl, marked, signed, allDigits, nonempty⟩ := shape
  have toMark : state.step .exponentMark = .exponentMark := by
    rcases behind with rfl | rfl | rfl <;> rfl
  rw [State.runFrom_cons, of_mark marked, toMark, State.runFrom_append]
  rcases signed with rfl | rfl | rfl <;>
    exact State.runFrom_digits_of_ne_nil rfl rfl allDigits nonempty

theorem accepting_of_isLiteral {text : List Char} (shape : IsLiteral text) :
    (run text).accepting = true := by
  obtain ⟨sign, mantissa, exponent, rfl, signed, mantissaShape, exponentShape⟩ :=
    shape
  have before : State.start.runFrom sign = .start ∨
      State.start.runFrom sign = .sign := by
    rcases signed with rfl | rfl | rfl
    · exact .inl rfl
    · exact .inr rfl
    · exact .inr rfl
  have behind := behindMantissa_of_isMantissa before mantissaShape
  rw [run, State.runFrom_append, State.runFrom_append]
  rcases exponentShape with rfl | exponentShape
  · rw [State.runFrom_nil]
    rcases behind with state | state | state <;> rw [state] <;> rfl
  · rw [runFrom_exponent behind exponentShape]
    rfl

/-! ## Every accepted text is a literal -/

/-- The first character of an accepted text leads to a state from which the
others are accepted. -/
theorem exists_kind_of_accepting {state : State} {character : Char}
    {text : List Char}
    (accepted : (state.runFrom (character :: text)).accepting = true) :
    ∃ kind, Belongs character kind ∧
      ((state.step kind).runFrom text).accepting = true :=
  ⟨CharClass.of character, belongs_of character, accepted⟩

theorem isDigits_of_accepting_exponentDigits {text : List Char}
    (accepted : (State.exponentDigits.runFrom text).accepting = true) :
    IsDigits text := by
  induction text with
  | nil => exact isDigits_nil
  | cons character text inductionHypothesis =>
      obtain ⟨kind, belongs, accepted⟩ := exists_kind_of_accepting accepted
      cases belongs with
      | digit isDigit =>
          exact isDigits_cons.mpr ⟨isDigit, inductionHypothesis accepted⟩
      | point => simp [State.step, State.accepting] at accepted
      | sign => simp [State.step, State.accepting] at accepted
      | exponentMark => simp [State.step, State.accepting] at accepted
      | other => simp [State.step, State.accepting] at accepted

theorem isDigits_of_accepting_exponentSign {text : List Char}
    (accepted : (State.exponentSign.runFrom text).accepting = true) :
    IsDigits text ∧ text ≠ [] := by
  cases text with
  | nil => contradiction
  | cons character text =>
      obtain ⟨kind, belongs, accepted⟩ := exists_kind_of_accepting accepted
      cases belongs with
      | digit isDigit =>
          have others := isDigits_of_accepting_exponentDigits accepted
          exact ⟨isDigits_cons.mpr ⟨isDigit, others⟩, by simp⟩
      | point => simp [State.step, State.accepting] at accepted
      | sign => simp [State.step, State.accepting] at accepted
      | exponentMark => simp [State.step, State.accepting] at accepted
      | other => simp [State.step, State.accepting] at accepted

theorem exists_sign_of_accepting_exponentMark {text : List Char}
    (accepted : (State.exponentMark.runFrom text).accepting = true) :
    ∃ sign digits, text = sign ++ digits ∧
      IsSign sign ∧ IsDigits digits ∧ digits ≠ [] := by
  cases text with
  | nil => contradiction
  | cons character text =>
      obtain ⟨kind, belongs, accepted⟩ := exists_kind_of_accepting accepted
      cases belongs with
      | digit isDigit =>
          have others := isDigits_of_accepting_exponentDigits accepted
          exact ⟨[], character :: text, rfl, .inl rfl,
            isDigits_cons.mpr ⟨isDigit, others⟩, by simp⟩
      | sign signed =>
          obtain ⟨digits, nonempty⟩ :=
            isDigits_of_accepting_exponentSign accepted
          refine ⟨[character], text, rfl, .inr ?_, digits, nonempty⟩
          simpa using signed
      | point => simp [State.step, State.accepting] at accepted
      | exponentMark => simp [State.step, State.accepting] at accepted
      | other => simp [State.step, State.accepting] at accepted

theorem isExponent_of_accepting {mark : Char} {text : List Char}
    (marked : IsMark mark)
    (accepted : (State.exponentMark.runFrom text).accepting = true) :
    IsExponent (mark :: text) := by
  obtain ⟨sign, digits, rfl, signed, allDigits, nonempty⟩ :=
    exists_sign_of_accepting_exponentMark accepted
  exact ⟨mark, sign, digits, rfl, marked, signed, allDigits, nonempty⟩

/-- Digits with an optional exponent behind them. -/
def IsFractionTail (text : List Char) : Prop :=
  ∃ digits exponent,
    text = digits ++ exponent ∧ IsDigits digits ∧
    (exponent = [] ∨ IsExponent exponent)

theorem IsFractionTail.cons {digit : Char} {text : List Char}
    (isDigit : digit.isDigit = true) (tail : IsFractionTail text) :
    IsFractionTail (digit :: text) := by
  obtain ⟨digits, exponent, rfl, allDigits, shape⟩ := tail
  exact ⟨digit :: digits, exponent, rfl,
    isDigits_cons.mpr ⟨isDigit, allDigits⟩, shape⟩

theorem isFractionTail_of_accepting_fraction {text : List Char}
    (accepted : (State.fraction.runFrom text).accepting = true) :
    IsFractionTail text := by
  induction text with
  | nil => exact ⟨[], [], rfl, isDigits_nil, .inl rfl⟩
  | cons character text inductionHypothesis =>
      obtain ⟨kind, belongs, accepted⟩ := exists_kind_of_accepting accepted
      cases belongs with
      | digit isDigit => exact (inductionHypothesis accepted).cons isDigit
      | exponentMark marked =>
          exact ⟨[], _, rfl, isDigits_nil,
            .inr (isExponent_of_accepting marked accepted)⟩
      | point => simp [State.step, State.accepting] at accepted
      | sign => simp [State.step, State.accepting] at accepted
      | other => simp [State.step, State.accepting] at accepted

theorem isFractionTail_of_accepting_wholePoint {text : List Char}
    (accepted : (State.wholePoint.runFrom text).accepting = true) :
    IsFractionTail text := by
  -- Behind the point the two states go on alike.
  cases text with
  | nil => exact ⟨[], [], rfl, isDigits_nil, .inl rfl⟩
  | cons character text =>
      apply isFractionTail_of_accepting_fraction
      have same : State.wholePoint.step (CharClass.of character) =
          State.fraction.step (CharClass.of character) := by
        cases CharClass.of character <;> rfl
      rw [State.runFrom_cons, ← same]
      exact accepted

/-- A mantissa whose first digits are already read, with an optional exponent
behind it. -/
def IsWholeTail (text : List Char) : Prop :=
  ∃ digits rest,
    text = digits ++ rest ∧ IsDigits digits ∧
    (rest = [] ∨ IsExponent rest ∨
      ∃ tail, rest = '.' :: tail ∧ IsFractionTail tail)

theorem isWholeTail_of_accepting_whole {text : List Char}
    (accepted : (State.whole.runFrom text).accepting = true) :
    IsWholeTail text := by
  induction text with
  | nil => exact ⟨[], [], rfl, isDigits_nil, .inl rfl⟩
  | cons character text inductionHypothesis =>
      obtain ⟨kind, belongs, accepted⟩ := exists_kind_of_accepting accepted
      cases belongs with
      | digit isDigit =>
          obtain ⟨digits, rest, rfl, allDigits, shape⟩ :=
            inductionHypothesis accepted
          exact ⟨character :: digits, rest, rfl,
            isDigits_cons.mpr ⟨isDigit, allDigits⟩, shape⟩
      | exponentMark marked =>
          exact ⟨[], _, rfl, isDigits_nil,
            .inr (.inl (isExponent_of_accepting marked accepted))⟩
      | point pointed =>
          subst pointed
          exact ⟨[], _, rfl, isDigits_nil, .inr (.inr
            ⟨text, rfl, isFractionTail_of_accepting_wholePoint accepted⟩)⟩
      | sign => simp [State.step, State.accepting] at accepted
      | other => simp [State.step, State.accepting] at accepted

/-- A mantissa with an optional exponent. -/
def IsUnsigned (text : List Char) : Prop :=
  ∃ mantissa exponent,
    text = mantissa ++ exponent ∧ IsMantissa mantissa ∧
    (exponent = [] ∨ IsExponent exponent)

theorem IsWholeTail.isUnsigned_cons {digit : Char} {text : List Char}
    (isDigit : digit.isDigit = true) (tail : IsWholeTail text) :
    IsUnsigned (digit :: text) := by
  obtain ⟨digits, rest, rfl, allDigits, shape⟩ := tail
  have wholeDigits : IsDigits (digit :: digits) :=
    isDigits_cons.mpr ⟨isDigit, allDigits⟩
  have wholeOnly : IsMantissa (digit :: digits) := .inl ⟨wholeDigits, by simp⟩
  rcases shape with rfl | exponent | ⟨_, rfl, fraction, exponent, rfl,
    fractionDigits, exponentShape⟩
  · exact ⟨digit :: digits, [], rfl, wholeOnly, .inl rfl⟩
  · exact ⟨digit :: digits, rest, rfl, wholeOnly, .inr exponent⟩
  · exact ⟨(digit :: digits) ++ '.' :: fraction, exponent, by simp,
      .inr ⟨digit :: digits, fraction, rfl, wholeDigits, fractionDigits,
        .inl (by simp)⟩,
      exponentShape⟩

theorem isUnsigned_of_accepting_leadingPoint {text : List Char}
    (accepted : (State.leadingPoint.runFrom text).accepting = true) :
    IsUnsigned ('.' :: text) := by
  cases text with
  | nil => contradiction
  | cons character text =>
      obtain ⟨kind, belongs, accepted⟩ := exists_kind_of_accepting accepted
      cases belongs with
      | digit isDigit =>
          obtain ⟨digits, exponent, rfl, allDigits, shape⟩ :=
            isFractionTail_of_accepting_fraction accepted
          exact ⟨'.' :: character :: digits, exponent, rfl,
            .inr ⟨[], character :: digits, rfl, isDigits_nil,
              isDigits_cons.mpr ⟨isDigit, allDigits⟩, .inr (by simp)⟩,
            shape⟩
      | point => simp [State.step, State.accepting] at accepted
      | sign => simp [State.step, State.accepting] at accepted
      | exponentMark => simp [State.step, State.accepting] at accepted
      | other => simp [State.step, State.accepting] at accepted

theorem isUnsigned_of_accepting_sign {text : List Char}
    (accepted : (State.sign.runFrom text).accepting = true) :
    IsUnsigned text := by
  cases text with
  | nil => contradiction
  | cons character text =>
      obtain ⟨kind, belongs, accepted⟩ := exists_kind_of_accepting accepted
      cases belongs with
      | digit isDigit =>
          exact (isWholeTail_of_accepting_whole accepted).isUnsigned_cons isDigit
      | point pointed =>
          subst pointed
          exact isUnsigned_of_accepting_leadingPoint accepted
      | sign => simp [State.step, State.accepting] at accepted
      | exponentMark => simp [State.step, State.accepting] at accepted
      | other => simp [State.step, State.accepting] at accepted

theorem isLiteral_of_accepting {text : List Char}
    (accepted : (run text).accepting = true) : IsLiteral text := by
  cases text with
  | nil => contradiction
  | cons character text =>
      by_cases signed : character = '+' ∨ character = '-'
      · have unsigned : IsUnsigned text := by
          apply isUnsigned_of_accepting_sign
          rcases signed with rfl | rfl <;> exact accepted
        obtain ⟨mantissa, exponent, rfl, shape, exponentShape⟩ := unsigned
        refine ⟨[character], mantissa, exponent, rfl, .inr ?_, shape,
          exponentShape⟩
        simpa using signed
      · -- Without a sign the first character leads where it leads behind one.
        have same : State.start.step (CharClass.of character) =
            State.sign.step (CharClass.of character) := by
          obtain ⟨kind, belongs, same⟩ :
              ∃ kind, Belongs character kind ∧
                CharClass.of character = kind :=
            ⟨_, belongs_of character, rfl⟩
          rw [same]
          cases belongs with
          | sign isSign => exact absurd isSign signed
          | digit => rfl
          | point => rfl
          | exponentMark => rfl
          | other => rfl
        have unsigned : IsUnsigned (character :: text) := by
          apply isUnsigned_of_accepting_sign
          rw [State.runFrom_cons, ← same]
          exact accepted
        obtain ⟨mantissa, exponent, split, shape, exponentShape⟩ := unsigned
        exact ⟨[], mantissa, exponent, split, .inl rfl, shape, exponentShape⟩

/-- The automaton accepts the literals and nothing else. -/
theorem accepting_run_iff {text : List Char} :
    (run text).accepting = true ↔ IsLiteral text :=
  ⟨isLiteral_of_accepting, accepting_of_isLiteral⟩

end Formula.Literal
