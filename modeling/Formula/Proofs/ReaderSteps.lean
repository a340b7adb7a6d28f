import Formula.Reader

/-!
# The steps of the reader

`Reader.Takes` lists what the reader can do with one token, one constructor for
each kind of step, and `Reader.Passes` is a run of such steps.  A run of the
reader is a longest sequence of steps, and its answer is what the last reader
concludes in front of the token where it stopped.
-/

namespace Formula

namespace Token

theorem exists_number_of_category {token : Token}
    (numeric : token.category = .number) :
    ∃ text value position, token = .number text value position := by
  cases token with
  | number text value position => exact ⟨text, value, position, rfl⟩
  | word text position =>
      simp only [category] at numeric
      split at numeric <;> contradiction
  | symbol shape position =>
      cases shape with
      | operator operation => simp [category] at numeric
      | leftParen => simp [category] at numeric
      | rightParen => simp [category] at numeric

end Token

namespace Reader

/-- `Takes level reader token next` means that the reader takes the token and
becomes `next`. -/
inductive Takes (level : Level) : Reader → Token → Reader → Prop
  | number (groups : List Group) (pending : List (Tree × Operator))
      (text : String) (value : Float) (position : Nat) :
      Takes level ⟨groups, pending, .operand⟩ (.number text value position)
        ⟨groups, pending, .operator (.const value)⟩
  | name (groups : List Group) (pending : List (Tree × Operator))
      {token : Token} :
      token.category = .identifier →
      Takes level ⟨groups, pending, .operand⟩ token
        ⟨groups, pending, .operator (.var token.lexeme)⟩
  | function (groups : List Group) (pending : List (Tree × Operator))
      {token : Token} {function : Function} :
      token.category = .function function →
      Takes level ⟨groups, pending, .operand⟩ token
        ⟨groups, pending, .opening function⟩
  | group (groups : List Group) (pending : List (Tree × Operator))
      {token : Token} :
      token.category = .leftParen →
      Takes level ⟨groups, pending, .operand⟩ token
        ⟨⟨none, pending⟩ :: groups, [], .operand⟩
  | call (groups : List Group) (pending : List (Tree × Operator))
      {token : Token} (function : Function) :
      token.category = .leftParen →
      Takes level ⟨groups, pending, .opening function⟩ token
        ⟨⟨some function, pending⟩ :: groups, [], .operand⟩
  | operator (groups : List Group) (pending : List (Tree × Operator))
      (left : Tree) {token : Token} {operator : Operator} :
      token.category = .operator operator →
      (groups = [] → level.admits operator = true) →
      Takes level ⟨groups, pending, .operator left⟩ token
        ⟨groups,
          ((Tree.settle operator pending left).2, operator) ::
            (Tree.settle operator pending left).1,
          .operand⟩
  | close (group : Group) (groups : List Group)
      (pending : List (Tree × Operator)) (left : Tree) {token : Token} :
      token.category = .rightParen →
      Takes level ⟨group :: groups, pending, .operator left⟩ token
        ⟨groups, group.pending,
          .operator (group.close (Tree.complete pending left))⟩

theorem advance?_of_takes {level : Level} {reader next : Reader}
    {token : Token} (takes : Takes level reader token next) :
    reader.advance? level token = some next := by
  cases takes with
  | number groups pending text value position => rfl
  | name groups pending named => simp [advance?, named, supply]
  | function groups pending named => simp [advance?, named]
  | group groups pending opening => simp [advance?, opening, enter]
  | call groups pending function opening => simp [advance?, opening, enter]
  | operator groups pending left signed admitted =>
      cases groups with
      | nil => simp [advance?, signed, admitted rfl, defer]
      | cons group groups => simp [advance?, signed, defer]
  | close group groups pending left closing =>
      simp [advance?, closing, leave?]

theorem takes_of_advance? {level : Level} {reader next : Reader}
    {token : Token} (advanced : reader.advance? level token = some next) :
    Takes level reader token next := by
  obtain ⟨groups, pending, expecting⟩ := reader
  -- The cases are those of `advance?`: what the reader expects and what it gets.
  cases expecting with
  | operand =>
      cases met : token.category with
      | number =>
          obtain ⟨text, value, position, rfl⟩ :=
            Token.exists_number_of_category met
          obtain rfl := Option.some.inj advanced
          exact .number groups pending text value position
      | identifier =>
          simp only [advance?, met, Option.some.injEq] at advanced
          subst advanced
          exact .name groups pending met
      | function named =>
          simp only [advance?, met, Option.some.injEq] at advanced
          subst advanced
          exact .function groups pending met
      | leftParen =>
          simp only [advance?, met, Option.some.injEq] at advanced
          subst advanced
          exact .group groups pending met
      | operator operation => simp [advance?, met] at advanced
      | rightParen => simp [advance?, met] at advanced
  | opening function =>
      cases met : token.category with
      | leftParen =>
          simp only [advance?, met, Option.some.injEq] at advanced
          subst advanced
          exact .call groups pending function met
      | number => simp [advance?, met] at advanced
      | identifier => simp [advance?, met] at advanced
      | function named => simp [advance?, met] at advanced
      | operator operation => simp [advance?, met] at advanced
      | rightParen => simp [advance?, met] at advanced
  | operator left =>
      cases met : token.category with
      | operator operation =>
          simp only [advance?, met] at advanced
          split at advanced
          next => contradiction
          next admitted =>
            obtain rfl := Option.some.inj advanced
            apply Takes.operator groups pending left met
            intro outside
            simpa [outside] using admitted
      | rightParen =>
          cases groups with
          | nil => simp [advance?, met, leave?] at advanced
          | cons group groups =>
              simp only [advance?, met, leave?, Option.some.injEq] at advanced
              subst advanced
              exact .close group groups pending left met
      | number => simp [advance?, met] at advanced
      | identifier => simp [advance?, met] at advanced
      | function named => simp [advance?, met] at advanced
      | leftParen => simp [advance?, met] at advanced

/-- The steps of the relation are the steps of the reader. -/
theorem advance?_eq_some_iff {level : Level} {reader next : Reader}
    {token : Token} :
    reader.advance? level token = some next ↔
      Takes level reader token next :=
  ⟨takes_of_advance?, advance?_of_takes⟩

/-! ## Runs of steps -/

/-- `Passes level reader tokens last` means that the reader takes all the tokens
one after the other and becomes `last`. -/
inductive Passes (level : Level) : Reader → List Token → Reader → Prop
  | refl (reader : Reader) : Passes level reader [] reader
  | step {reader middle last : Reader} {token : Token} {rest : List Token} :
      Takes level reader token middle →
      Passes level middle rest last →
      Passes level reader (token :: rest) last

namespace Passes

theorem single {level : Level} {reader next : Reader} {token : Token}
    (takes : Takes level reader token next) :
    Passes level reader [token] next :=
  .step takes (.refl next)

theorem append {level : Level} {reader middle last : Reader}
    {before after : List Token}
    (first : Passes level reader before middle)
    (second : Passes level middle after last) :
    Passes level reader (before ++ after) last := by
  induction first with
  | refl reader => exact second
  | step takes passes inductionHypothesis =>
      exact .step takes (inductionHypothesis second)

theorem exists_middle {level : Level} {reader last : Reader}
    {before after : List Token}
    (passes : Passes level reader (before ++ after) last) :
    ∃ middle, Passes level reader before middle ∧
      Passes level middle after last := by
  induction before generalizing reader with
  | nil => exact ⟨reader, .refl reader, passes⟩
  | cons token before inductionHypothesis =>
      cases passes with
      | step takes passes =>
          obtain ⟨middle, first, second⟩ := inductionHypothesis passes
          exact ⟨middle, .step takes first, second⟩

/-- After the tokens it can take, the reader goes on with the others. -/
theorem run_append {level : Level} {reader last : Reader}
    {before : List Token} (passes : Passes level reader before last)
    (after : List Token) :
    reader.run level (before ++ after) = last.run level after := by
  induction passes with
  | refl reader => rfl
  | step takes passes inductionHypothesis =>
      rw [List.cons_append, run, advance?_of_takes takes]
      exact inductionHypothesis

end Passes

/-- The reader takes as many tokens as it can and then concludes. -/
theorem exists_passes_run (level : Level) (reader : Reader)
    (tokens : List Token) :
    ∃ taken rest last,
      tokens = taken ++ rest ∧
      Passes level reader taken last ∧
      (∀ token ∈ rest.head?, last.advance? level token = none) ∧
      reader.run level tokens = (last.conclude rest.head?, rest) := by
  induction tokens generalizing reader with
  | nil =>
      exact ⟨[], [], reader, rfl, .refl reader, by simp, rfl⟩
  | cons token rest inductionHypothesis =>
      cases advanced : reader.advance? level token with
      | none =>
          refine ⟨[], token :: rest, reader, rfl, .refl reader, ?_, ?_⟩
          · simpa using advanced
          · simp [run, advanced]
      | some next =>
          obtain ⟨taken, left, last, split, passes, stopped, answer⟩ :=
            inductionHypothesis next
          refine ⟨token :: taken, left, last, ?_, ?_, stopped, ?_⟩
          · rw [split, List.cons_append]
          · exact .step (takes_of_advance? advanced) passes
          · rw [run, advanced]
            exact answer

/-- The reader takes all of some tokens and has a tree exactly if its steps lead
to a reader that concludes that tree. -/
theorem run_eq_ok_iff {level : Level} {reader : Reader}
    {tokens : List Token} {tree : Tree} :
    reader.run level tokens = (.ok tree, []) ↔
      ∃ last, Passes level reader tokens last ∧
        last.conclude none = .ok tree := by
  constructor
  · intro answer
    obtain ⟨taken, rest, last, split, passes, -, concluded⟩ :=
      exists_passes_run level reader tokens
    rw [answer] at concluded
    obtain ⟨accepted, rfl⟩ := Prod.mk.inj concluded
    rw [List.append_nil] at split
    subst split
    exact ⟨last, passes, accepted.symm⟩
  · rintro ⟨last, passes, concluded⟩
    have answer := passes.run_append []
    rw [List.append_nil] at answer
    rw [answer, run, concluded]

/-- A reader has a tree at the end exactly if all its groups are closed and an
operand is read. -/
theorem conclude_eq_ok_iff {reader : Reader} {next : Option Token}
    {tree : Tree} :
    reader.conclude next = .ok tree ↔
      ∃ left, reader.groups = [] ∧ reader.expecting = .operator left ∧
        Tree.complete reader.pending left = tree := by
  obtain ⟨groups, pending, expecting⟩ := reader
  cases expecting with
  | operand => cases next <;> simp [conclude]
  | opening function => simp [conclude]
  | operator left => cases groups <;> simp [conclude]

end Reader

/-- A list of tokens has a tree exactly if the reader, taking all of them, has
that tree at the end. -/
theorem Tree.ofTokens_eq_ok_iff_run {tokens : List Token} {tree : Tree} :
    Tree.ofTokens tokens = .ok tree ↔
      Reader.initial.run .sum tokens = (.ok tree, []) := by
  rw [Tree.ofTokens, Tree.readFront]
  cases answer : Reader.initial.run .sum tokens with
  | mk result rest =>
      cases result with
      | error cause => simp
      | ok found => cases rest <;> simp

end Formula
