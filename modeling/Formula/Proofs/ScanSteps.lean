import Formula.Proofs.LexemeChoice

/-!
# The steps of the scanner

`Scans` is the scanner as a relation: one step cuts off a lexeme that fits where
it stands and makes a token of it.  The scanner itself counts down the
characters of a lexeme it has already cut off, and goes from one offset among
the visible characters to the next; both are settled here once.
-/

namespace Formula

/-! ## Tokens and their lexemes -/

namespace Token

@[simp]
theorem lexeme_relocate (place : Nat → Nat) (token : Token) :
    (token.relocate place).lexeme = token.lexeme := by
  cases token <;> rfl

@[simp]
theorem category_relocate (place : Nat → Nat) (token : Token) :
    (token.relocate place).category = token.category := by
  cases token with
  | number text value position => rfl
  | word text position => rfl
  | symbol shape position => cases shape <;> rfl

@[simp]
theorem value?_relocate (place : Nat → Nat) (token : Token) :
    (token.relocate place).value? = token.value? := by
  cases token <;> rfl

@[simp]
theorem position_relocate (place : Nat → Nat) (token : Token) :
    (token.relocate place).position = place token.position := by
  cases token <;> rfl

theorem relocate_relocate (first second : Nat → Nat) (token : Token) :
    (token.relocate first).relocate second =
      token.relocate fun position => second (first position) := by
  cases token <;> rfl

theorem relocate_eq_self {place : Nat → Nat} {token : Token}
    (fixed : place token.position = token.position) :
    token.relocate place = token := by
  cases token with
  | number text value position => exact congrArg _ fixed
  | word text position => exact congrArg _ fixed
  | symbol shape position => exact congrArg _ fixed

end Token

/-- The characters of the lexemes of some tokens. -/
def spelled (tokens : List Token) : List Char :=
  tokens.flatMap fun token => token.lexeme.toList

@[simp]
theorem spelled_nil : spelled [] = [] :=
  rfl

@[simp]
theorem spelled_cons (token : Token) (tokens : List Token) :
    spelled (token :: tokens) = token.lexeme.toList ++ spelled tokens :=
  rfl

@[simp]
theorem spelled_append (first second : List Token) :
    spelled (first ++ second) = spelled first ++ spelled second :=
  List.flatMap_append

@[simp]
theorem spelled_map_relocate (place : Nat → Nat) (tokens : List Token) :
    spelled (tokens.map (Token.relocate place)) = spelled tokens := by
  simp [spelled, List.flatMap_map]

/-- Whether an operand ends with the token before, if there is one. -/
def endsOperand (previous : Option Token) : Bool :=
  previous.any fun token => token.category.endsOperand

theorem endsOperand_map_relocate (place : Nat → Nat)
    (previous : Option Token) :
    endsOperand (previous.map (Token.relocate place)) =
      endsOperand previous := by
  cases previous with
  | none => rfl
  | some token => simp [endsOperand]

/-- Behind some tokens the last of them is the previous one. -/
theorem getLast?_cons_or (token : Token) (tokens : List Token)
    (previous : Option Token) :
    (token :: tokens).getLast?.or previous =
      tokens.getLast?.or (some token) := by
  rw [List.getLast?_cons]
  cases tokens.getLast? <;> rfl

namespace Lexeme

theorem token?_spec {lexeme : Lexeme} {place : Nat} {token : Token}
    (made : lexeme.token? place = some token) :
    token.lexeme.toList = lexeme.text ∧ token.position = place := by
  cases lexeme with
  | literal text =>
      obtain ⟨value, -, rfl⟩ := Option.map_eq_some_iff.mp made
      exact ⟨String.toList_ofList, rfl⟩
  | word text =>
      obtain rfl := Option.some.inj made
      exact ⟨String.toList_ofList, rfl⟩
  | symbol shape =>
      obtain rfl := Option.some.inj made
      exact ⟨String.toList_singleton shape.char, rfl⟩

/-- A lexeme that makes a token makes the same one elsewhere. -/
theorem token?_relocate {lexeme : Lexeme} {place : Nat} {token : Token}
    (made : lexeme.token? place = some token) (elsewhere : Nat) :
    lexeme.token? elsewhere = some (token.relocate fun _ => elsewhere) := by
  cases lexeme with
  | literal text =>
      obtain ⟨value, read, rfl⟩ := Option.map_eq_some_iff.mp made
      simp [token?, read, Token.relocate]
  | word text =>
      obtain rfl := Option.some.inj made
      rfl
  | symbol shape =>
      obtain rfl := Option.some.inj made
      rfl

end Lexeme

/-! ## Steps -/

/-- `Scans previous place text tokens` means that the text, which begins at the
given place behind the given token, is cut into the tokens. -/
inductive Scans : Option Token → Nat → List Char → List Token → Prop
  | done (previous : Option Token) (place : Nat) : Scans previous place [] []
  | step {previous : Option Token} {place : Nat} {lexeme : Lexeme}
      {following : List Char} {token : Token} {tokens : List Token} :
      lexeme.Fits (endsOperand previous) following →
      lexeme.token? place = some token →
      Scans (some token) (place + lexeme.text.length) following tokens →
      Scans previous place (lexeme.text ++ following) (token :: tokens)

/-- The scanner cuts off a lexeme that fits and goes on behind it. -/
theorem scanFrom_step {afterOperand : Bool} {place : Nat} {lexeme : Lexeme}
    {following : List Char} {token : Token}
    (fits : lexeme.Fits afterOperand following)
    (made : lexeme.token? place = some token) :
    scanFrom afterOperand 0 place (lexeme.text ++ following) =
      (scanFrom token.category.endsOperand 0 (place + lexeme.text.length)
        following).map (token :: ·) := by
  have chosen := Lexeme.first?_eq_some_iff.mpr ⟨following, rfl, fits⟩
  have positive := Lexeme.length_text_pos_of_first? chosen
  cases characters : lexeme.text with
  | nil => simp [characters] at positive
  | cons character rest =>
      rw [characters] at chosen
      rw [List.cons_append] at chosen ⊢
      simp only [scanFrom, chosen, made]
      rw [scanFrom_taken _ (by simp [characters])]
      simp [characters, Nat.add_assoc, Nat.add_comm 1]

theorem scanFrom_of_scans {previous : Option Token} {place : Nat}
    {text : List Char} {tokens : List Token}
    (scans : Scans previous place text tokens) :
    scanFrom (endsOperand previous) 0 place text = .ok tokens := by
  induction scans with
  | done previous place => simp [scanFrom]
  | @step previous place lexeme following token tokens fits made scans
      inductionHypothesis =>
      rw [scanFrom_step fits made]
      have rest : scanFrom token.category.endsOperand 0
          (place + lexeme.text.length) following = .ok tokens :=
        inductionHypothesis
      rw [rest]
      rfl

/-- `Stops afterOperand place text cause` means that no token can be made of the
beginning of the text, and why. -/
inductive Stops (afterOperand : Bool) (place : Nat) :
    List Char → ScanError → Prop
  | unrecognizedCharacter {character : Char} {rest : List Char} :
      Lexeme.first? afterOperand (character :: rest) = none →
      Stops afterOperand place (character :: rest)
        (.unrecognizedCharacter character place)
  | malformedNumber {text following : List Char} :
      (Lexeme.literal text).Fits afterOperand following →
      Literal.value? text = none →
      Stops afterOperand place (text ++ following)
        (.malformedNumber (String.ofList text) place)

theorem scanFrom_of_stops {afterOperand : Bool} {place : Nat}
    {text : List Char} {cause : ScanError}
    (stops : Stops afterOperand place text cause) :
    scanFrom afterOperand 0 place text = .error cause := by
  cases stops with
  | unrecognizedCharacter nothing => simp [scanFrom, nothing]
  | @malformedNumber text following fits noValue =>
      have chosen : Lexeme.first? afterOperand (text ++ following) =
          some (.literal text) :=
        Lexeme.first?_eq_some_iff.mpr ⟨following, rfl, fits⟩
      have unmade : (Lexeme.literal text).token? place = none := by
        rw [Lexeme.token?, noValue, Option.map_none]
      cases whole : text ++ following with
      | nil => simp [whole, Lexeme.first?] at chosen
      | cons character rest =>
          rw [whole] at chosen
          simp [scanFrom, chosen, unmade, Lexeme.text]

/-- Where no token can be made, the scanner stops. -/
theorem stops_or_exists_token (afterOperand : Bool) (place : Nat)
    {text : List Char} (nonempty : text ≠ []) :
    (∃ cause, Stops afterOperand place text cause) ∨
      ∃ lexeme following token,
        text = Lexeme.text lexeme ++ following ∧
        lexeme.Fits afterOperand following ∧
        lexeme.token? place = some token := by
  cases chosen : Lexeme.first? afterOperand text with
  | none =>
      obtain ⟨character, rest, rfl⟩ := List.exists_cons_of_ne_nil nonempty
      exact .inl ⟨_, .unrecognizedCharacter chosen⟩
  | some lexeme =>
      obtain ⟨following, rfl, fits⟩ := Lexeme.first?_eq_some_iff.mp chosen
      cases made : lexeme.token? place with
      | some token => exact .inr ⟨lexeme, following, token, rfl, fits, made⟩
      | none =>
          cases lexeme with
          | literal text =>
              have noValue : Literal.value? text = none :=
                Option.map_eq_none_iff.mp made
              exact .inl ⟨_, .malformedNumber fits noValue⟩
          | word text => contradiction
          | symbol shape => contradiction

/-- The scanner cuts off tokens until the text ends or it stops. -/
theorem exists_scans (previous : Option Token) (place : Nat)
    (text : List Char) :
    ∃ front rest tokens,
      text = front ++ rest ∧
      Scans previous place front tokens ∧
      (rest = [] ∨
        ∃ cause,
          Stops (endsOperand (tokens.getLast?.or previous))
            (place + front.length) rest cause ∧
          scanFrom (endsOperand previous) 0 place text = .error cause) := by
  -- The text that is left behind a lexeme is shorter.
  induction bound : text.length using Nat.strongRecOn
    generalizing previous place text with
  | ind size inductionHypothesis =>
      by_cases ended : text = []
      · exact ⟨[], [], [], ended, .done previous place, .inl rfl⟩
      rcases stops_or_exists_token (endsOperand previous) place ended with
        ⟨cause, stops⟩ | ⟨lexeme, following, token, split, fits, made⟩
      · exact ⟨[], text, [], rfl, .done previous place,
          .inr ⟨cause, stops, scanFrom_of_stops stops⟩⟩
      · have positive := Lexeme.length_text_pos_of_first?
          (Lexeme.first?_eq_some_iff.mpr ⟨following, rfl, fits⟩)
        have shorter : following.length < size := by
          rw [← bound, split, List.length_append]
          omega
        obtain ⟨front, rest, tokens, rfl, scans, outcome⟩ :=
          inductionHypothesis _ shorter (some token)
            (place + lexeme.text.length) following rfl
        refine ⟨lexeme.text ++ front, rest, token :: tokens, ?_,
          .step fits.of_append made scans, ?_⟩
        · rw [split, List.append_assoc]
        · rcases outcome with ended | ⟨cause, stops, failed⟩
          · exact .inl ended
          · refine .inr ⟨cause, ?_, ?_⟩
            · rwa [getLast?_cons_or, List.length_append, ← Nat.add_assoc]
            · rw [split, scanFrom_step fits made]
              have later : scanFrom token.category.endsOperand 0
                  (place + lexeme.text.length) (front ++ rest) =
                    .error cause :=
                failed
              rw [later]
              rfl

theorem scans_of_scanFrom {previous : Option Token} {place : Nat}
    {text : List Char} {tokens : List Token}
    (scanned : scanFrom (endsOperand previous) 0 place text = .ok tokens) :
    Scans previous place text tokens := by
  obtain ⟨front, rest, found, rfl, scans, rfl | ⟨cause, -, failed⟩⟩ :=
    exists_scans previous place text
  · rw [List.append_nil] at scanned ⊢
    rw [scanFrom_of_scans scans] at scanned
    rwa [← Except.ok.inj scanned]
  · rw [failed] at scanned
    contradiction

/-- The steps of the relation are the steps of the scanner. -/
theorem scanFrom_eq_ok_iff {previous : Option Token} {place : Nat}
    {text : List Char} {tokens : List Token} :
    scanFrom (endsOperand previous) 0 place text = .ok tokens ↔
      Scans previous place text tokens :=
  ⟨scans_of_scanFrom, scanFrom_of_scans⟩

/-! ## Offsets of visible characters -/

namespace Text

/-- `StandsAt characters character rank offset` means that the character with
the given offset is the given one, is not blank and has as many characters
before it that are not blank as its rank says. -/
structure StandsAt (characters : List Char) (character : Char)
    (rank offset : Nat) : Prop where
  found : characters[offset]? = some character
  notBlank : isBlank character = false
  ranked :
    ((characters.take offset).filter fun other => !isBlank other).length = rank

@[simp]
theorem visible_append (first second : List Char) :
    visible (first ++ second) = visible first ++ visible second :=
  List.filter_append first second

theorem visible_cons_of_visible {character : Char}
    (notBlank : isBlank character = false) (characters : List Char) :
    visible (character :: characters) = character :: visible characters := by
  simp [visible, notBlank]

theorem visible_cons_of_blank {character : Char}
    (blank : isBlank character = true) (characters : List Char) :
    visible (character :: characters) = visible characters := by
  simp [visible, blank]

theorem visible_eq_self {characters : List Char}
    (notBlank : ∀ character ∈ characters, isBlank character = false) :
    visible characters = characters := by
  apply List.filter_eq_self.mpr
  intro character member
  simp [notBlank character member]

theorem visibleOffsets_cons (character : Char) (characters : List Char) :
    visibleOffsets (character :: characters) =
      (if isBlank character then [] else [0]) ++
        (visibleOffsets characters).map (· + 1) := by
  have shifted : (character :: characters).zipIdx =
      (character, 0) ::
        characters.zipIdx.map (Prod.map id (· + 1)) :=
    List.zipIdx_cons'
  unfold visibleOffsets
  rw [shifted]
  cases blank : isBlank character with
  | true => simp [blank, List.filter_map, Function.comp_def]
  | false => simp [blank, List.filter_map, Function.comp_def]

theorem standsAt_cons_zero {first character : Char} {characters : List Char}
    {rank : Nat} :
    StandsAt (first :: characters) character rank 0 ↔
      first = character ∧ isBlank first = false ∧ rank = 0 := by
  constructor
  · rintro ⟨found, notBlank, ranked⟩
    obtain rfl : first = character := by simpa using found
    exact ⟨rfl, notBlank, ranked.symm⟩
  · rintro ⟨rfl, notBlank, rfl⟩
    exact ⟨rfl, notBlank, rfl⟩

theorem standsAt_cons_succ {first character : Char} {characters : List Char}
    {rank offset : Nat} :
    StandsAt (first :: characters) character rank (offset + 1) ↔
      ∃ later, StandsAt characters character later offset ∧
        rank = if isBlank first then later else later + 1 := by
  constructor
  · rintro ⟨found, notBlank, ranked⟩
    refine ⟨_, ⟨by simpa using found, notBlank, rfl⟩, ?_⟩
    rw [← ranked, List.take_succ_cons]
    cases blank : isBlank first with
    | true => simp [blank]
    | false => simp [blank]
  · rintro ⟨later, ⟨found, notBlank, ranked⟩, rfl⟩
    refine ⟨by simpa using found, notBlank, ?_⟩
    rw [← ranked, List.take_succ_cons]
    cases blank : isBlank first with
    | true => simp [blank]
    | false => simp [blank]

/-- The offsets of the visible characters, by their ranks. -/
theorem visibleOffsets_getElem?_iff {characters : List Char}
    {rank offset : Nat} :
    (visibleOffsets characters)[rank]? = some offset ↔
      ∃ character, StandsAt characters character rank offset := by
  induction characters generalizing rank offset with
  | nil =>
      constructor
      · intro found
        simp [visibleOffsets] at found
      · rintro ⟨character, found, -, -⟩
        simp at found
  | cons first characters inductionHypothesis =>
      rw [visibleOffsets_cons]
      cases offset with
      | zero =>
          simp only [standsAt_cons_zero]
          cases blank : isBlank first with
          | true => simp
          | false => cases rank <;> simp
      | succ offset =>
          simp only [standsAt_cons_succ]
          cases blank : isBlank first with
          | true => simp [inductionHypothesis]
          | false => cases rank <;> simp [inductionHypothesis]

theorem length_visibleOffsets (characters : List Char) :
    (visibleOffsets characters).length = (visible characters).length := by
  induction characters with
  | nil => rfl
  | cons first characters inductionHypothesis =>
      rw [visibleOffsets_cons]
      cases blank : isBlank first with
      | true => simp [visible_cons_of_blank blank, inductionHypothesis]
      | false =>
          simp [visible_cons_of_visible blank, inductionHypothesis,
            Nat.add_comm]

/-- A character with a rank has that rank in the visible text. -/
theorem StandsAt.getElem?_visible {characters : List Char} {character : Char}
    {rank offset : Nat} (stands : StandsAt characters character rank offset) :
    (visible characters)[rank]? = some character := by
  obtain ⟨found, notBlank, ranked⟩ := stands
  obtain ⟨within, rfl⟩ := List.getElem?_eq_some_iff.mp found
  have length : (visible (characters.take offset)).length = rank := ranked
  have split : characters = characters.take offset ++
      characters[offset] :: characters.drop (offset + 1) := by
    simp
  have parts := congrArg visible split
  rw [visible_append, visible_cons_of_visible notBlank] at parts
  rw [parts, ← length]
  simp

/-- The offset of the visible character with a given rank; zero if there is no
such character. -/
def offsetOf (characters : List Char) (rank : Nat) : Nat :=
  (visibleOffsets characters).getD rank 0

/-- The rank that a visible character at an offset has. -/
def rankOf (characters : List Char) (offset : Nat) : Nat :=
  (visible (characters.take offset)).length

theorem standsAt_offsetOf {characters : List Char} {character : Char}
    {rank : Nat} (found : (visible characters)[rank]? = some character) :
    StandsAt characters character rank (offsetOf characters rank) := by
  have within : rank < (visibleOffsets characters).length := by
    rw [length_visibleOffsets]
    exact (List.getElem?_eq_some_iff.mp found).1
  have offset : (visibleOffsets characters)[rank]? =
      some (offsetOf characters rank) := by
    simp [offsetOf, within]
  obtain ⟨other, stands⟩ := visibleOffsets_getElem?_iff.mp offset
  have same := stands.getElem?_visible.symm.trans found
  obtain rfl := Option.some.inj same
  exact stands

theorem StandsAt.rankOf_eq {characters : List Char} {character : Char}
    {rank offset : Nat} (stands : StandsAt characters character rank offset) :
    rankOf characters offset = rank :=
  stands.ranked

theorem StandsAt.offsetOf_eq {characters : List Char} {character : Char}
    {rank offset : Nat} (stands : StandsAt characters character rank offset) :
    offsetOf characters rank = offset := by
  have found := visibleOffsets_getElem?_iff.mpr ⟨character, stands⟩
  simp [offsetOf, List.getD_eq_getElem?_getD, found]

/-- In a text without blanks the visible characters have their ranks as
offsets. -/
theorem offsetOf_eq_self {text : List Char}
    (notBlank : ∀ character ∈ text, isBlank character = false)
    {rank : Nat} (within : rank < text.length) :
    offsetOf text rank = rank := by
  have before : visible (text.take rank) = text.take rank :=
    visible_eq_self fun character member =>
      notBlank character (List.mem_of_mem_take member)
  have length : (visible (text.take rank)).length = rank := by
    rw [before, List.length_take]
    omega
  have stands : StandsAt text text[rank] rank rank :=
    { found := List.getElem?_eq_getElem within
      notBlank := notBlank _ (List.getElem_mem within)
      ranked := length }
  exact stands.offsetOf_eq

end Text

/-! ## Scanning a source -/

/-- A source is scanned as its visible text, and the places in that text become
offsets in the source. -/
theorem scan_eq_relocate (source : String) :
    scan source =
      match scanFrom false 0 0 (Text.visible source.toList) with
      | .ok tokens =>
          .ok (tokens.map (Token.relocate (Text.offsetOf source.toList)))
      | .error cause =>
          .error (cause.relocate (Text.offsetOf source.toList)) := by
  have offsets : Text.offsetOf source.toList =
      fun place =>
        (Text.visibleOffsets source.toList).toArray.getD place 0 := by
    funext place
    simp [Text.offsetOf]
  rw [offsets]
  rfl

/-- A source has the tokens of its visible text, moved to the offsets of their
first characters. -/
theorem scan_eq_ok_iff {source : String} {tokens : List Token} :
    scan source = .ok tokens ↔
      ∃ scanned, Scans none 0 (Text.visible source.toList) scanned ∧
        tokens =
          scanned.map (Token.relocate (Text.offsetOf source.toList)) := by
  have outside : endsOperand none = false := rfl
  rw [scan_eq_relocate]
  simp only [← scanFrom_eq_ok_iff, outside]
  cases scanFrom false 0 0 (Text.visible source.toList) with
  | error cause => simp
  | ok scanned => simp [eq_comm]

/-- A source that is one lexeme without blanks is scanned as one token. -/
theorem scan_of_lexeme {source : String} {lexeme : Lexeme} {token : Token}
    (text : lexeme.text = source.toList)
    (notBlank : ∀ character ∈ source.toList, Text.isBlank character = false)
    (fits : lexeme.Fits false []) (made : lexeme.token? 0 = some token) :
    scan source = .ok [token] := by
  have scans : Scans none 0 (lexeme.text ++ []) [token] :=
    .step fits made (.done _ _)
  have positive := Lexeme.length_text_pos_of_first?
    (Lexeme.first?_eq_some_iff.mpr ⟨[], rfl, fits⟩)
  rw [List.append_nil, text, ← Text.visible_eq_self notBlank] at scans
  rw [text] at positive
  have unmoved : Text.offsetOf source.toList token.position =
      token.position := by
    rw [(Lexeme.token?_spec made).2]
    exact Text.offsetOf_eq_self notBlank positive
  refine scan_eq_ok_iff.mpr ⟨[token], scans, ?_⟩
  rw [List.map_singleton, Token.relocate_eq_self unmoved]

end Formula
