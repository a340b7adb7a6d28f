import Formula.Proofs.ScanSteps

/-!
# Where scanning fails

The scanner reports the first fault of a source, and it reports it exactly.

* What stands before the reported position is scanned without a fault, also when
  the source is cut off there.  A lexeme that fits before a text fits before any
  beginning of it, so that the lexemes before the fault do not change.
* The fault itself is a character that no lexeme contains, or a literal without
  a value, as long as its look allows.
* A character that no lexeme contains ends the lexeme before it.  So a source is
  refused at such a character if what stands before it is scanned.
-/

namespace Formula

/-! ## Characters of no lexeme -/

namespace Text

/-- A character that is not blank and belongs to no lexeme. -/
structure Unrecognized (character : Char) : Prop where
  notBlank : isBlank character = false
  noLetter : isLetter character = false
  noDigit : character.isDigit = false
  noPoint : character ≠ '.'
  noSymbol : character ∉ ['+', '-', '*', '/', '^', '(', ')']

end Text

theorem Symbol.ofChar?_eq_none_iff {character : Char} :
    ofChar? character = none ↔
      character ∉ ['+', '-', '*', '/', '^', '(', ')'] := by
  constructor
  · intro nothing member
    simp only [List.mem_cons, List.not_mem_nil, or_false] at member
    rcases member with rfl | rfl | rfl | rfl | rfl | rfl | rfl <;>
      exact absurd nothing (by decide)
  · intro outside
    cases found : ofChar? character with
    | none => rfl
    | some shape =>
        rw [← char_of_ofChar? found] at outside
        cases shape with
        | operator operation => cases operation <;> simp [char, Operator.symbol] at outside
        | leftParen => simp [char] at outside
        | rightParen => simp [char] at outside

namespace Lexeme

/-- No lexeme begins with a character that is no numeral, no symbol and no
letter. -/
theorem first?_eq_none_iff {afterOperand : Bool} {character : Char}
    {rest : List Char} :
    first? afterOperand (character :: rest) = none ↔
      isNumeral character = false ∧
      Symbol.ofChar? character = none ∧
      Text.isLetter character = false := by
  constructor
  · intro nothing
    simp only [first?] at nothing
    split at nothing
    next => contradiction
    next noNumeral =>
      split at nothing
      next => contradiction
      next =>
        split at nothing
        next => contradiction
        next noSymbol =>
          split at nothing
          next => contradiction
          next noLetter =>
            exact ⟨by simpa using noNumeral, noSymbol, by simpa using noLetter⟩
  · intro outside
    obtain ⟨noNumeral, noSymbol, noLetter⟩ := outside
    have noMinus : character ≠ '-' := by
      intro minus
      rw [minus] at noSymbol
      contradiction
    simp [first?, noNumeral, noMinus, noSymbol, noLetter]

theorem isNumeral_eq_false_of_unrecognized {character : Char}
    (unrecognized : Text.Unrecognized character) :
    isNumeral character = false := by
  simp [isNumeral, unrecognized.noDigit, unrecognized.noPoint]

theorem first?_eq_none_of_unrecognized {character : Char}
    (unrecognized : Text.Unrecognized character) (afterOperand : Bool)
    (rest : List Char) : first? afterOperand (character :: rest) = none :=
  first?_eq_none_iff.mpr
    ⟨isNumeral_eq_false_of_unrecognized unrecognized,
      Symbol.ofChar?_eq_none_iff.mpr unrecognized.noSymbol,
      unrecognized.noLetter⟩

theorem unrecognized_of_first? {afterOperand : Bool} {character : Char}
    {rest : List Char} (notBlank : Text.isBlank character = false)
    (nothing : first? afterOperand (character :: rest) = none) :
    Text.Unrecognized character := by
  obtain ⟨noNumeral, noSymbol, noLetter⟩ := first?_eq_none_iff.mp nothing
  obtain ⟨noDigit, noPoint⟩ :
      character.isDigit = false ∧ character ≠ '.' := by
    simpa [isNumeral] using noNumeral
  exact
    { notBlank := notBlank
      noLetter := noLetter
      noDigit := noDigit
      noPoint := noPoint
      noSymbol := Symbol.ofChar?_eq_none_iff.mp noSymbol }

theorem notMem_of_isOutline {character : Char}
    (unrecognized : Text.Unrecognized character) {text : List Char}
    (outline : IsOutline text) : character ∉ text := by
  obtain ⟨mantissa, exponent, rfl, -, numerals, shape⟩ := outline
  have noNumeral := isNumeral_eq_false_of_unrecognized unrecognized
  have notInMantissa : character ∉ mantissa := by
    intro member
    rw [numerals character member] at noNumeral
    contradiction
  rcases shape with rfl | ⟨mark, sign, digits, rfl, marked, signed, allDigits⟩
  · simpa using notInMantissa
  · have noMark : character ≠ mark := by
      intro same
      have letter := isLetter_of_exponentMark marked
      rw [← same, unrecognized.noLetter] at letter
      contradiction
    have notInSign : character ∉ sign := by
      have noSymbol := unrecognized.noSymbol
      rcases signed with rfl | rfl | rfl <;> simp_all
    have notInDigits : character ∉ digits := by
      intro member
      have digit := allDigits character member
      rw [unrecognized.noDigit] at digit
      contradiction
    simp [notInMantissa, noMark, notInSign, notInDigits]

theorem isPrefix_of_notMem {character : Char} {found front rest : List Char}
    (begins : found <+: front ++ character :: rest)
    (outside : character ∉ found) : found <+: front := by
  obtain ⟨behind, whole⟩ := begins
  rcases List.append_eq_append_iff.mp whole with
    ⟨more, rfl, -⟩ | ⟨more, rfl, later⟩
  · exact List.prefix_append found more
  · cases more with
    | nil => simp
    | cons first more =>
        obtain ⟨rfl, -⟩ := List.cons.inj later
        simp at outside

/-- A lexeme that fits before a text still fits when the text goes on with a
character that no lexeme contains. -/
theorem Fits.append_unrecognized {afterOperand : Bool} {front : List Char}
    {lexeme : Lexeme} (fits : lexeme.Fits afterOperand front)
    {character : Char} (unrecognized : Text.Unrecognized character)
    (rest : List Char) :
    lexeme.Fits afterOperand (front ++ character :: rest) := by
  cases lexeme with
  | literal text =>
      obtain ⟨sign, run, split, signed, -, outline, longest⟩ := fits
      refine ⟨sign, run, split, signed, List.prefix_append run _, outline, ?_⟩
      intro other begins otherOutline
      rw [← List.append_assoc] at begins
      have within := isPrefix_of_notMem begins
        (notMem_of_isOutline unrecognized otherOutline)
      exact longest other within otherOutline
  | word text =>
      obtain ⟨nonempty, letters, noLetter⟩ := fits
      refine ⟨nonempty, letters, ?_⟩
      cases front with
      | nil => simpa using unrecognized.noLetter
      | cons first front => simpa using noLetter
  | symbol shape =>
      intro minus starts
      cases front with
      | nil =>
          have noNumeral := isNumeral_eq_false_of_unrecognized unrecognized
          simp [startsLiteral, noNumeral] at starts
      | cons first front =>
          exact fits minus (by simpa [startsLiteral] using starts)

end Lexeme

/-! ## Faults of the visible text -/

namespace Stops

theorem position_relocate {afterOperand : Bool} {rank : Nat}
    {text : List Char} {cause : ScanError}
    (stops : Stops afterOperand rank text cause) (place : Nat → Nat) :
    (cause.relocate place).position = place rank := by
  cases stops <;> rfl

theorem ne_nil {afterOperand : Bool} {place : Nat} {text : List Char}
    {cause : ScanError} (stops : Stops afterOperand place text cause) :
    text ≠ [] := by
  intro ended
  subst ended
  have failed := scanFrom_of_stops stops
  simp [scanFrom] at failed

end Stops

/-- Behind tokens the scanner stops at a character that no lexeme contains. -/
theorem Scans.scanFrom_append_unrecognized {previous : Option Token}
    {place : Nat} {front : List Char} {tokens : List Token}
    (scans : Scans previous place front tokens) {character : Char}
    (unrecognized : Text.Unrecognized character) (rest : List Char) :
    scanFrom (endsOperand previous) 0 place (front ++ character :: rest) =
      .error (.unrecognizedCharacter character (place + front.length)) := by
  induction scans with
  | done previous place =>
      have nothing := Lexeme.first?_eq_none_of_unrecognized unrecognized
        (endsOperand previous) rest
      exact scanFrom_of_stops (.unrecognizedCharacter nothing)
  | @step previous place lexeme following token tokens fits made scans
      inductionHypothesis =>
      have later : scanFrom token.category.endsOperand 0
          (place + lexeme.text.length) (following ++ character :: rest) =
            .error (.unrecognizedCharacter character
              (place + lexeme.text.length + following.length)) :=
        inductionHypothesis
      rw [List.append_assoc,
        scanFrom_step (fits.append_unrecognized unrecognized rest) made, later,
        List.length_append, Nat.add_assoc]
      rfl

/-! ## Faults of a source -/

theorem Text.StandsAt.visible_eq {characters : List Char} {character : Char}
    {rank offset : Nat} (stands : StandsAt characters character rank offset)
    {front rest : List Char} (split : visible characters = front ++ rest)
    (length : front.length = rank) :
    visible (characters.take offset) = front ∧
      visible (characters.drop offset) = rest := by
  have parts :
      visible (characters.take offset) ++ visible (characters.drop offset) =
        front ++ rest := by
    rw [← visible_append, List.take_append_drop, split]
  exact List.append_inj parts (stands.ranked.trans length.symm)

/-- The source cut off before the character at an offset. -/
def cutOff (source : String) (offset : Nat) : String :=
  String.ofList (source.toList.take offset)

@[simp]
theorem toList_cutOff (source : String) (offset : Nat) :
    (cutOff source offset).toList = source.toList.take offset :=
  String.toList_ofList

/-- `Describes source before cause` means that the fault is one of the source,
behind the tokens before it: an unrecognized character that stands there, or the
literal that begins there, as long as its look allows, and has no value. -/
def ScanError.Describes (source : String) (before : List Token) :
    ScanError → Prop
  | .unrecognizedCharacter character position =>
      source.toList[position]? = some character ∧
      Text.Unrecognized character
  | .malformedNumber text position =>
      ∃ sign run following,
        text.toList = sign ++ run ∧
        source.toList[position]? = text.toList.head? ∧
        Text.visible (source.toList.drop position) =
          text.toList ++ following ∧
        (sign = [] ∨
          sign = ['-'] ∧ endsOperand before.getLast? = false) ∧
        Lexeme.IsLongestPrefix Lexeme.IsOutline run (run ++ following) ∧
        Literal.value? text.toList = none

theorem Stops.describes {source : String} {before : List Token} {rank : Nat}
    {rest : List Char} {cause : ScanError}
    (stops : Stops (endsOperand before.getLast?) rank rest cause)
    (stands : ∀ character ∈ rest.head?,
      Text.StandsAt source.toList character rank
        (Text.offsetOf source.toList rank))
    (behind : Text.visible
      (source.toList.drop (Text.offsetOf source.toList rank)) = rest) :
    (cause.relocate (Text.offsetOf source.toList)).Describes source before := by
  cases stops with
  | @unrecognizedCharacter character rest nothing =>
      have here := stands character (by simp)
      exact ⟨here.found, Lexeme.unrecognized_of_first? here.notBlank nothing⟩
  | @malformedNumber text following fits noValue =>
      have nonempty : text ≠ [] := List.ne_nil_of_length_pos
        (Lexeme.length_text_pos_of_first? (Lexeme.first?_literal fits))
      obtain ⟨character, others, rfl⟩ := List.exists_cons_of_ne_nil nonempty
      have here := stands character (by simp)
      obtain ⟨sign, run, split, signed, longest⟩ := fits
      refine ⟨sign, run, following, ?_, ?_, ?_, signed, longest, ?_⟩
      · rw [String.toList_ofList, split]
      · rw [String.toList_ofList, here.found]
        rfl
      · rw [String.toList_ofList, behind]
      · rwa [String.toList_ofList]

theorem exists_describes_of_scan {source : String} {cause : ScanError}
    (failed : scan source = .error cause) :
    ∃ before,
      scan (cutOff source cause.position) = .ok before ∧
      cause.Describes source before := by
  obtain ⟨front, rest, tokens, split, scans, outcome⟩ :=
    exists_scans none 0 (Text.visible source.toList)
  rw [Option.or_none, Nat.zero_add] at outcome
  rcases outcome with ended | ⟨ranked, stops, stopped⟩
  · -- Without a rest all of the text is scanned.
    rw [ended, List.append_nil] at split
    rw [← split] at scans
    rw [scan_eq_ok_iff.mpr ⟨tokens, scans, rfl⟩] at failed
    contradiction
  · have outside : endsOperand none = false := rfl
    rw [outside] at stopped
    rw [scan_eq_relocate, stopped] at failed
    obtain rfl := Except.error.inj failed
    have stands : ∀ character ∈ rest.head?,
        Text.StandsAt source.toList character front.length
          (Text.offsetOf source.toList front.length) := by
      intro character first
      apply Text.standsAt_offsetOf
      rw [split, List.getElem?_append_right le_rfl, Nat.sub_self,
        ← List.head?_eq_getElem?]
      exact first
    obtain ⟨character, others, rfl⟩ := List.exists_cons_of_ne_nil stops.ne_nil
    obtain ⟨before, behind⟩ :=
      (stands character (by simp)).visible_eq split rfl
    rw [stops.position_relocate]
    refine ⟨_, scan_eq_ok_iff.mpr ⟨tokens, ?_, rfl⟩, ?_⟩
    · rwa [toList_cutOff, before]
    · apply Stops.describes _ stands behind
      rwa [List.getLast?_map, endsOperand_map_relocate]

theorem scan_of_unrecognized {source : String} {position : Nat}
    {character : Char} {before : List Token}
    (scanned : scan (cutOff source position) = .ok before)
    (found : source.toList[position]? = some character)
    (unrecognized : Text.Unrecognized character) :
    scan source = .error (.unrecognizedCharacter character position) := by
  obtain ⟨tokens, scans, -⟩ := scan_eq_ok_iff.mp scanned
  rw [toList_cutOff] at scans
  have stands : Text.StandsAt source.toList character
      (Text.visible (source.toList.take position)).length position :=
    ⟨found, unrecognized.notBlank, rfl⟩
  have split : Text.visible source.toList =
      Text.visible (source.toList.take position) ++
        character :: Text.visible (source.toList.drop (position + 1)) := by
    obtain ⟨within, rfl⟩ := List.getElem?_eq_some_iff.mp found
    rw [← Text.visible_cons_of_visible unrecognized.notBlank,
      ← Text.visible_append, List.getElem_cons_drop, List.take_append_drop]
  have stopped := scans.scanFrom_append_unrecognized unrecognized
    (Text.visible (source.toList.drop (position + 1)))
  rw [← split, Nat.zero_add] at stopped
  have outside : endsOperand none = false := rfl
  rw [outside] at stopped
  rw [scan_eq_relocate, stopped]
  simp [ScanError.relocate, stands.offsetOf_eq]

/-- The scanner reports the first fault of a source: what stands before the
reported position is scanned when the source is cut off there, and the fault is
the one that the error describes.  A character that no lexeme contains is such a
fault wherever the source before it is scanned. -/
theorem scan_reports_first_fault (source : String) :
    (∀ cause : ScanError, scan source = .error cause →
      ∃ before,
        scan (cutOff source cause.position) = .ok before ∧
        cause.Describes source before) ∧
    ∀ (position : Nat) (character : Char) (before : List Token),
      scan (cutOff source position) = .ok before →
      source.toList[position]? = some character →
      Text.Unrecognized character →
      scan source = .error (.unrecognizedCharacter character position) := by
  constructor
  · intro cause failed
    exact exists_describes_of_scan failed
  · intro position character before scanned found unrecognized
    exact scan_of_unrecognized scanned found unrecognized

/-- A literal with a sign and two points behind a minus that subtracts, and a
character of no lexeme behind a minus that is no sign. -/
theorem scan_reports_first_fault_behind_minus :
    (scan "a - -1.2.e3 #" = .error (.malformedNumber "-1.2.e3" 4) ∧
      ∃ before,
        scan (cutOff "a - -1.2.e3 #" 4) = .ok before ∧
        (ScanError.malformedNumber "-1.2.e3" 4).Describes "a - -1.2.e3 #"
          before) ∧
    scan (cutOff "2 * - # 3" 6) =
      .ok [.number "2" (Number.ofLiteral ['2']) 0,
        .symbol (.operator .mul) 2, .symbol (.operator .sub) 4] ∧
    scan "2 * - # 3" = .error (.unrecognizedCharacter '#' 6) := by
  have malformed :
      scan "a - -1.2.e3 #" = .error (.malformedNumber "-1.2.e3" 4) := by
    decide +kernel
  have scanned :
      scan (cutOff "2 * - # 3" 6) =
        .ok [.number "2" (Number.ofLiteral ['2']) 0,
          .symbol (.operator .mul) 2, .symbol (.operator .sub) 4] := by
    decide +kernel
  have unrecognized : Text.Unrecognized '#' :=
    { notBlank := by decide
      noLetter := by decide
      noDigit := by decide
      noPoint := by decide
      noSymbol := by decide }
  exact ⟨⟨malformed, (scan_reports_first_fault _).1 _ malformed⟩, scanned,
    (scan_reports_first_fault _).2 6 '#' _ scanned (by decide) unrecognized⟩

end Formula
