import Formula.Proofs.ScanSteps

/-!
# Segmentations of a source

A segmentation is what the scanner is to find, said without the scanner: the
lexemes of the tokens are the visible text, each token has the offset of its
first character, and each fits between the token before it and the text behind
it.  A source has at most one segmentation, because at each point only one
lexeme fits, and the scanner finds it whenever there is one.
-/

namespace Formula

/-! ## Tokens in their context -/

/-- Each of the tokens has a property together with the tokens before it and the
tokens behind it. -/
def InContext (property : List Token → Token → List Token → Prop)
    (tokens : List Token) : Prop :=
  ∀ before token after,
    tokens = before ++ token :: after → property before token after

namespace InContext

theorem nil (property : List Token → Token → List Token → Prop) :
    InContext property [] := by
  intro before token after split
  simp at split

theorem cons_iff {property : List Token → Token → List Token → Prop}
    {token : Token} {tokens : List Token} :
    InContext property (token :: tokens) ↔
      property [] token tokens ∧
        InContext (fun before => property (token :: before)) tokens := by
  constructor
  · intro each
    refine ⟨each [] token tokens rfl, ?_⟩
    intro before other after split
    exact each (token :: before) other after (by simp [split])
  · rintro ⟨first, others⟩ before other after split
    cases before with
    | nil =>
        obtain ⟨rfl, rfl⟩ := List.cons.inj split
        exact first
    | cons head before =>
        obtain ⟨rfl, rest⟩ := List.cons.inj split
        exact others before other after rest

theorem map {property : List Token → Token → List Token → Prop}
    {move : Token → Token} {tokens : List Token}
    (each : InContext
      (fun before token after =>
        property (before.map move) (move token) (after.map move)) tokens) :
    InContext property (tokens.map move) := by
  intro before token after split
  obtain ⟨first, second, rfl, rfl, later⟩ := List.map_eq_append_iff.mp split
  obtain ⟨moved, last, rfl, rfl, rfl⟩ := List.map_eq_cons_iff.mp later
  exact each first moved last rfl

theorem of_mem {property : List Token → Token → List Token → Prop}
    {tokens : List Token} (each : InContext property tokens) {token : Token}
    (member : token ∈ tokens) :
    ∃ before after, property before token after := by
  obtain ⟨before, after, split⟩ := List.append_of_mem member
  exact ⟨before, after, each before token after split⟩

end InContext

/-- `Fits previous following token` means that the token may stand between the
token before it and the text behind it. -/
def Token.Fits (previous : Option Token) (following : List Char) :
    Token → Prop
  | .word text position =>
      text.toList ≠ [] ∧
      (∀ character ∈ text.toList, Text.isLetter character = true) ∧
      (∀ character ∈ following.head?, Text.isLetter character = false) ∧
      (Token.word text position).category =
        (Function.ofWord? text).elim .identifier .function
  | .number text value _ =>
      ∃ sign run,
        text.toList = sign ++ run ∧
        (sign = [] ∨ sign = ['-'] ∧ endsOperand previous = false) ∧
        Lexeme.IsLongestPrefix Lexeme.IsOutline run (run ++ following) ∧
        Literal.value? text.toList = some value
  | .symbol shape position =>
      ∃ character,
        (Token.symbol shape position).lexeme = String.singleton character ∧
        Symbol.ofChar? character = some shape ∧
        (character = '-' → Lexeme.startsLiteral following = true →
          endsOperand previous = true)

/-- The tokens are a segmentation of the source: their lexemes are its text
without the blanks, and each token has the offset of its first character and
fits where it stands. -/
structure Segments (source : String) (tokens : List Token) : Prop where
  covers :
    spelled tokens =
      source.toList.filter fun character => !Text.isBlank character
  placed :
    InContext
      (fun before token _ =>
        ∃ character ∈ token.lexeme.toList.head?,
          Text.StandsAt source.toList character (spelled before).length
            token.position)
      tokens
  fits :
    InContext
      (fun before token after =>
        token.Fits before.getLast? (spelled after))
      tokens

/-! ## Tokens that fit -/

/-- A token fits exactly if it is made of a lexeme that does. -/
theorem Token.fits_iff {previous : Option Token} {following : List Char}
    {token : Token} :
    token.Fits previous following ↔
      ∃ lexeme : Lexeme,
        lexeme.Fits (endsOperand previous) following ∧
        lexeme.token? token.position = some token := by
  constructor
  · intro fits
    cases token with
    | word text position =>
        obtain ⟨nonempty, letters, noLetter, -⟩ := fits
        refine ⟨.word text.toList, ⟨nonempty, letters, noLetter⟩, ?_⟩
        simp [Lexeme.token?, Token.position]
    | number text value position =>
        obtain ⟨sign, run, split, signed, longest, read⟩ := fits
        refine ⟨.literal text.toList, ⟨sign, run, split, signed, longest⟩, ?_⟩
        simp [Lexeme.token?, Token.position, read]
    | symbol shape position =>
        obtain ⟨character, -, spelled, separate⟩ := fits
        obtain rfl := Symbol.char_of_ofChar? spelled
        refine ⟨.symbol shape, ?_, rfl⟩
        rintro rfl starts
        exact separate rfl starts
  · rintro ⟨lexeme, fits, made⟩
    generalize token.position = place at made
    cases lexeme with
    | literal text =>
        obtain ⟨value, read, rfl⟩ := Option.map_eq_some_iff.mp made
        obtain ⟨sign, run, split, signed, longest⟩ := fits
        exact ⟨sign, run, by simpa using split, signed, longest,
          by simpa using read⟩
    | word text =>
        obtain rfl := Option.some.inj made
        obtain ⟨nonempty, letters, noLetter⟩ := fits
        refine ⟨by simpa using nonempty, by simpa using letters, noLetter, ?_⟩
        cases found : Function.ofWord? (String.ofList text) with
        | none => simp [Token.category, found]
        | some function => simp [Token.category, found]
    | symbol shape =>
        obtain rfl := Option.some.inj made
        refine ⟨shape.char, rfl, Symbol.ofChar?_char shape, ?_⟩
        intro minus starts
        exact fits ((Symbol.char_eq_minus_iff shape).mp minus) starts

theorem Token.fits_relocate {place : Nat → Nat} {previous : Option Token}
    {following : List Char} {token : Token}
    (fits : token.Fits previous following) :
    (token.relocate place).Fits (previous.map (Token.relocate place))
      following := by
  rw [Token.fits_iff] at fits ⊢
  obtain ⟨lexeme, lexemeFits, made⟩ := fits
  refine ⟨lexeme, by rwa [endsOperand_map_relocate], ?_⟩
  rw [Token.position_relocate]
  have moved := Lexeme.token?_relocate made (place token.position)
  rw [moved]
  cases token <;> rfl

theorem Token.Fits.lexeme_ne_nil {previous : Option Token}
    {following : List Char} {token : Token}
    (fits : token.Fits previous following) : token.lexeme.toList ≠ [] := by
  obtain ⟨lexeme, lexemeFits, made⟩ := Token.fits_iff.mp fits
  have chosen :=
    Lexeme.first?_eq_some_iff.mpr ⟨following, rfl, lexemeFits⟩
  have positive := Lexeme.length_text_pos_of_first? chosen
  rw [(Lexeme.token?_spec made).1]
  exact List.ne_nil_of_length_pos positive

/-! ## Steps and contexts -/

/-- The scanner's steps, with the text before each token kept in view. -/
theorem scans_iff_inContext {previous : Option Token} {place : Nat}
    {text : List Char} {tokens : List Token} :
    Scans previous place text tokens ↔
      spelled tokens = text ∧
      InContext
        (fun before token after =>
          token.position = place + (spelled before).length ∧
          token.Fits (before.getLast?.or previous) (spelled after))
        tokens := by
  induction tokens generalizing previous place text with
  | nil =>
      constructor
      · intro scans
        cases scans
        exact ⟨rfl, .nil _⟩
      · rintro ⟨rfl, -⟩
        exact .done previous place
  | cons token tokens inductionHypothesis =>
      -- Behind the first token it is the previous one, at a later place.
      have shifted :
          InContext
            (fun before other after =>
              other.position =
                place + (spelled (token :: before)).length ∧
              other.Fits ((token :: before).getLast?.or previous)
                (spelled after)) tokens ↔
          InContext
            (fun before other after =>
              other.position =
                place + token.lexeme.toList.length + (spelled before).length ∧
              other.Fits (before.getLast?.or (some token)) (spelled after))
            tokens := by
        simp only [getLast?_cons_or, spelled_cons, List.length_append,
          Nat.add_assoc]
      rw [InContext.cons_iff, shifted]
      constructor
      · intro scans
        cases scans with
        | @step _ _ lexeme following _ _ fits made scans =>
            obtain ⟨text, position⟩ := Lexeme.token?_spec made
            rw [← text] at scans ⊢
            obtain ⟨rfl, others⟩ := inductionHypothesis.mp scans
            refine ⟨rfl, ⟨by simpa using position, ?_⟩, others⟩
            exact Token.fits_iff.mpr ⟨lexeme, fits, by rwa [position]⟩
      · rintro ⟨rfl, ⟨position, fits⟩, others⟩
        obtain ⟨lexeme, lexemeFits, made⟩ := Token.fits_iff.mp fits
        have samePlace : token.position = place := by simpa using position
        rw [samePlace] at made
        have text := (Lexeme.token?_spec made).1
        have rest := inductionHypothesis.mpr ⟨rfl, others⟩
        rw [spelled_cons, text]
        rw [text] at rest
        exact .step lexemeFits made rest

/-! ## Scanning finds the segmentation -/

theorem segments_of_scans {source : String} {scanned : List Token}
    (scans : Scans none 0 (Text.visible source.toList) scanned) :
    Segments source
      (scanned.map (Token.relocate (Text.offsetOf source.toList))) := by
  obtain ⟨covers, each⟩ := scans_iff_inContext.mp scans
  refine ⟨(spelled_map_relocate _ _).trans covers, ?_, ?_⟩
  · apply InContext.map
    intro before token after split
    obtain ⟨position, fits⟩ := each before token after split
    obtain ⟨character, rest, first⟩ :=
      List.exists_cons_of_ne_nil fits.lexeme_ne_nil
    rw [Token.lexeme_relocate, Token.position_relocate, spelled_map_relocate,
      position, first, Nat.zero_add]
    refine ⟨character, rfl, Text.standsAt_offsetOf ?_⟩
    rw [← covers, split]
    simp [first]
  · apply InContext.map
    intro before token after split
    obtain ⟨-, fits⟩ := each before token after split
    rw [Option.or_none] at fits
    rw [spelled_map_relocate, List.getLast?_map]
    exact Token.fits_relocate fits

theorem Segments.scans {source : String} {tokens : List Token}
    (segments : Segments source tokens) :
    Scans none 0 (Text.visible source.toList)
      (tokens.map (Token.relocate (Text.rankOf source.toList))) := by
  apply scans_iff_inContext.mpr
  refine ⟨(spelled_map_relocate _ _).trans segments.covers, ?_⟩
  apply InContext.map
  intro before token after split
  have fits := segments.fits before token after split
  obtain ⟨character, -, stands⟩ := segments.placed before token after split
  rw [Token.position_relocate, spelled_map_relocate, spelled_map_relocate,
    Nat.zero_add, Option.or_none, List.getLast?_map]
  exact ⟨stands.rankOf_eq, Token.fits_relocate fits⟩

theorem Segments.map_relocate_relocate {source : String} {tokens : List Token}
    (segments : Segments source tokens) :
    (tokens.map (Token.relocate (Text.rankOf source.toList))).map
        (Token.relocate (Text.offsetOf source.toList)) = tokens := by
  have fixed : ∀ token ∈ tokens,
      ((Token.relocate (Text.offsetOf source.toList)) ∘
        (Token.relocate (Text.rankOf source.toList))) token = id token := by
    intro token member
    obtain ⟨before, -, character, -, stands⟩ := segments.placed.of_mem member
    rw [Function.comp_apply, Token.relocate_relocate]
    apply Token.relocate_eq_self
    rw [stands.rankOf_eq]
    exact stands.offsetOf_eq
  rw [List.map_map, List.map_congr_left fixed, List.map_id]

/-- The scanner cuts a source into the given tokens exactly if they are a
segmentation of it. -/
theorem scan_eq_ok_iff_segments (source : String) (tokens : List Token) :
    scan source = .ok tokens ↔ Segments source tokens := by
  rw [scan_eq_ok_iff]
  constructor
  · rintro ⟨scanned, scans, rfl⟩
    exact segments_of_scans scans
  · intro segments
    exact ⟨_, segments.scans, segments.map_relocate_relocate.symm⟩

end Formula
