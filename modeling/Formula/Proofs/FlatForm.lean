import Formula.Proofs.UniqueReading
import Mathlib.Data.List.Chain
import Mathlib.Data.List.Infix
import Mathlib.Tactic.MkIffOfInductiveProp

/-!
# Formulas by a flat scan

Whether tokens are a formula can be told without a tree and without regard to
the levels of the operators.  It is enough to look at the first and the last
token, at each two neighbours, and to count parentheses.

What the reader expects is fixed by the kind of the token before, so that its
refusals are refusals of neighbours.  The only thing it knows beyond that is how
many groups are open, which is a count of parentheses.
-/

namespace Formula

open Reader

namespace Category

/-- Whether a token of this category can be the first one of an operand. -/
def startsOperand : Category → Bool
  | .number | .identifier | .function _ | .leftParen => true
  | _ => false

/-- Whether a token of this category can stand behind a whole operand. -/
def followsOperand : Category → Bool
  | .operator _ | .rightParen => true
  | _ => false

/-- Whether a token of one category can stand directly in front of a token of
another. -/
def mayPrecede : Category → Category → Bool
  | .operator _, next | .leftParen, next => next.startsOperand
  | .function _, next => next == .leftParen
  | .number, next | .identifier, next | .rightParen, next =>
      next.followsOperand

theorem startsOperand_iff {category : Category} :
    category.startsOperand = true ↔
      category = .number ∨ category = .identifier ∨
        (∃ named, category = .function named) ∨ category = .leftParen := by
  cases category <;> simp [startsOperand]

theorem followsOperand_iff {category : Category} :
    category.followsOperand = true ↔
      (∃ operation, category = .operator operation) ∨
        category = .rightParen := by
  cases category <;> simp [followsOperand]

end Category

/-- How many of the tokens are of a category. -/
def countOf (category : Category) (tokens : List Token) : Nat :=
  tokens.countP fun token => token.category == category

/-- The tokens pass the flat scan: they begin and end as an operand does,
neighbours fit together, and the parentheses match. -/
@[mk_iff]
structure FlatForm (tokens : List Token) : Prop where
  nonempty : tokens ≠ []
  starts : ∀ token ∈ tokens.head?, token.category.startsOperand = true
  ends : ∀ token ∈ tokens.getLast?, token.category.endsOperand = true
  joined :
    tokens.IsChain fun first second =>
      first.category.mayPrecede second.category = true
  -- In `x)+(y` all neighbours fit and the numbers agree, but not the order.
  nested : ∀ before ∈ tokens.inits,
    countOf .rightParen before ≤ countOf .leftParen before
  closed : countOf .leftParen tokens = countOf .rightParen tokens

instance (tokens : List Token) : Decidable (FlatForm tokens) :=
  decidable_of_iff _ (flatForm_iff tokens).symm

theorem countOf_nil (category : Category) : countOf category [] = 0 :=
  rfl

theorem countOf_cons (category : Category) (token : Token)
    (tokens : List Token) :
    countOf category (token :: tokens) =
      countOf category tokens +
        if token.category = category then 1 else 0 := by
  simp [countOf, List.countP_cons]

/-! ## One step -/

/-- Whether a token of a category may come next, leaving aside whether there is
a group to close. -/
def Expecting.admits : Expecting → Category → Bool
  | .operand, category => category.startsOperand
  | .opening _, category => category == .leftParen
  | .operator _, category => category.followsOperand

namespace Reader

/-- What the reader expects behind a token is what may stand behind it. -/
theorem Takes.admits_eq_mayPrecede {level : Level} {reader next : Reader}
    {token : Token} (takes : Takes level reader token next) :
    next.expecting.admits = token.category.mayPrecede := by
  cases takes with
  | number groups pending text value position => rfl
  | name groups pending named => rw [named]; rfl
  | function groups pending named => rw [named]; rfl
  | group groups pending opened => rw [opened]; rfl
  | call groups pending function opened => rw [opened]; rfl
  | operator groups pending left signed admitted => rw [signed]; rfl
  | close group groups pending left closed => rw [closed]; rfl

theorem Takes.admits {level : Level} {reader next : Reader} {token : Token}
    (takes : Takes level reader token next) :
    reader.expecting.admits token.category = true := by
  cases takes with
  | number groups pending text value position => rfl
  | name groups pending named => rw [named]; rfl
  | function groups pending named => rw [named]; rfl
  | group groups pending opened => rw [opened]; rfl
  | call groups pending function opened => rw [opened]; rfl
  | operator groups pending left signed admitted => rw [signed]; rfl
  | close group groups pending left closed => rw [closed]; rfl

/-- A parenthesis changes the number of open groups by one, and no other token
changes it. -/
theorem Takes.length_groups {level : Level} {reader next : Reader}
    {token : Token} (takes : Takes level reader token next) :
    next.groups.length + (if token.category = .rightParen then 1 else 0) =
      reader.groups.length + if token.category = .leftParen then 1 else 0 := by
  cases takes with
  | number groups pending text value position => rfl
  | name groups pending named => simp [named]
  | function groups pending named => simp [named]
  | group groups pending opened => simp [opened]
  | call groups pending function opened => simp [opened]
  | operator groups pending left signed admitted => simp [signed]
  | close group groups pending left closed => simp [closed]

/-- A token that may come next is taken, if it closes nothing or a group is
open. -/
theorem exists_takes {reader : Reader} {token : Token}
    (admitted : reader.expecting.admits token.category = true)
    (closable : token.category = .rightParen → reader.groups ≠ []) :
    ∃ next, Takes .sum reader token next := by
  obtain ⟨groups, pending, expecting⟩ := reader
  cases expecting with
  | operand =>
      rcases Category.startsOperand_iff.mp admitted with
        numeric | named | ⟨function, named⟩ | opened
      · obtain ⟨text, value, position, rfl⟩ :=
          Token.exists_number_of_category numeric
        exact ⟨_, .number groups pending text value position⟩
      · exact ⟨_, .name groups pending named⟩
      · exact ⟨_, .function groups pending named⟩
      · exact ⟨_, .group groups pending opened⟩
  | opening function =>
      have opened : token.category = .leftParen := by
        simpa [Expecting.admits] using admitted
      exact ⟨_, .call groups pending function opened⟩
  | operator left =>
      rcases Category.followsOperand_iff.mp admitted with
        ⟨operation, signed⟩ | closed
      · exact ⟨_, .operator groups pending left signed fun _ => rfl⟩
      · cases groups with
        | nil => exact absurd rfl (closable closed)
        | cons group groups =>
            exact ⟨_, .close group groups pending left closed⟩

/-! ## All steps -/

/-- The reader counts: the groups that are open at the end are those that were
open before and those that were opened, less those that were closed. -/
theorem Passes.length_groups {level : Level} {reader last : Reader}
    {tokens : List Token} (passes : Passes level reader tokens last) :
    last.groups.length + countOf .rightParen tokens =
      reader.groups.length + countOf .leftParen tokens := by
  induction passes with
  | refl reader => simp [countOf_nil]
  | step takes passes inductionHypothesis =>
      have first := takes.length_groups
      rw [countOf_cons, countOf_cons]
      omega

theorem Passes.countOf_leftParen {level : Level} {last : Reader}
    {tokens : List Token} (passes : Passes level initial tokens last) :
    countOf .leftParen tokens =
      last.groups.length + countOf .rightParen tokens := by
  have counted := passes.length_groups
  simpa [initial] using counted.symm

/-- The first token is one that the reader expects, and each other token is one
that may stand behind its neighbour. -/
theorem Passes.isChain {level : Level} {reader last : Reader}
    {tokens : List Token} (passes : Passes level reader tokens last) :
    (∀ token ∈ tokens.head?,
      reader.expecting.admits token.category = true) ∧
    tokens.IsChain fun first second =>
      first.category.mayPrecede second.category = true := by
  induction passes with
  | refl reader => simp
  | step takes passes inductionHypothesis =>
      obtain ⟨next, rest⟩ := inductionHypothesis
      rw [takes.admits_eq_mayPrecede] at next
      exact ⟨by simpa using takes.admits, List.isChain_cons.mpr ⟨next, rest⟩⟩

theorem Passes.behindOperand_eq {level : Level} {reader last : Reader}
    {tokens : List Token} {token : Token}
    (passes : Passes level reader tokens last)
    (final : token ∈ tokens.getLast?) :
    last.behindOperand = token.category.endsOperand := by
  obtain ⟨before, rfl⟩ := List.getLast?_eq_some_iff.mp final
  obtain ⟨middle, -, ending⟩ := passes.exists_middle
  cases ending with
  | step takes done =>
      cases done
      exact takes.behindOperand_eq

/-- Tokens that fit together are taken one after the other, as long as no more
groups are closed than are open. -/
theorem exists_passes {reader : Reader} {tokens : List Token}
    (starts : ∀ token ∈ tokens.head?,
      reader.expecting.admits token.category = true)
    (joined : tokens.IsChain fun first second =>
      first.category.mayPrecede second.category = true)
    (nested : ∀ before ∈ tokens.inits,
      countOf .rightParen before ≤
        reader.groups.length + countOf .leftParen before) :
    ∃ last, Passes .sum reader tokens last := by
  induction tokens generalizing reader with
  | nil => exact ⟨reader, .refl reader⟩
  | cons token tokens inductionHypothesis =>
      have admitted := starts token (by simp)
      have closable : token.category = .rightParen → reader.groups ≠ [] := by
        intro closed empty
        have counted := nested [token] (by simp)
        simp [countOf_cons, countOf_nil, closed, empty] at counted
      obtain ⟨next, takes⟩ := exists_takes admitted closable
      obtain ⟨follows, rest⟩ := List.isChain_cons.mp joined
      rw [← takes.admits_eq_mayPrecede] at follows
      have nestedBehind : ∀ before ∈ tokens.inits,
          countOf .rightParen before ≤
            next.groups.length + countOf .leftParen before := by
        intro before initialPart
        have counted := nested (token :: before) (by simpa using initialPart)
        have first := takes.length_groups
        rw [countOf_cons, countOf_cons] at counted
        omega
      obtain ⟨last, passes⟩ := inductionHypothesis follows rest nestedBehind
      exact ⟨last, .step takes passes⟩

theorem behindOperand_eq_true_iff {reader : Reader} :
    reader.behindOperand = true ↔ ∃ left, reader.expecting = .operator left := by
  obtain ⟨groups, pending, expecting⟩ := reader
  cases expecting <;> simp [behindOperand]

end Reader

/-! ## Acceptance -/

theorem exists_ofTokens_ok_iff_passes {tokens : List Token} :
    (∃ tree, Tree.ofTokens tokens = .ok tree) ↔
      ∃ last, Passes .sum initial tokens last ∧ last.groups = [] ∧
        last.behindOperand = true := by
  simp only [Tree.ofTokens_eq_ok_iff_run, run_eq_ok_iff, conclude_eq_ok_iff,
    behindOperand_eq_true_iff]
  constructor
  · rintro ⟨tree, last, passes, left, closed, behind, -⟩
    exact ⟨last, passes, closed, left, behind⟩
  · rintro ⟨last, passes, closed, left, behind⟩
    exact ⟨_, last, passes, left, closed, behind, rfl⟩

theorem Reader.Passes.flatForm {tokens : List Token} {last : Reader}
    (passes : Passes .sum initial tokens last) (allClosed : last.groups = [])
    (behind : last.behindOperand = true) : FlatForm tokens := by
  obtain ⟨starts, joined⟩ := passes.isChain
  have nonempty : tokens ≠ [] := by
    rintro rfl
    cases passes
    contradiction
  have ends : ∀ token ∈ tokens.getLast?,
      token.category.endsOperand = true := by
    intro token final
    rw [← passes.behindOperand_eq final, behind]
  -- An initial part is taken by itself, and what it leaves open is a number.
  have nested : ∀ before ∈ tokens.inits,
      countOf .rightParen before ≤ countOf .leftParen before := by
    intro before initialPart
    obtain ⟨after, rfl⟩ := (List.mem_inits before tokens).mp initialPart
    obtain ⟨middle, taken, -⟩ := passes.exists_middle
    have counted := taken.countOf_leftParen
    omega
  have closed : countOf .leftParen tokens = countOf .rightParen tokens := by
    have counted := passes.countOf_leftParen
    simpa [allClosed] using counted
  exact ⟨nonempty, starts, ends, joined, nested, closed⟩

theorem FlatForm.exists_passes {tokens : List Token}
    (flat : FlatForm tokens) :
    ∃ last, Passes .sum initial tokens last ∧ last.groups = [] ∧
      last.behindOperand = true := by
  have nested : ∀ before ∈ tokens.inits,
      countOf .rightParen before ≤
        initial.groups.length + countOf .leftParen before := by
    intro before initialPart
    simpa [initial] using flat.nested before initialPart
  obtain ⟨last, passes⟩ := Reader.exists_passes flat.starts flat.joined nested
  have allClosed : last.groups = [] := by
    have counted := passes.countOf_leftParen
    rw [flat.closed] at counted
    apply List.eq_nil_of_length_eq_zero
    omega
  have final : tokens.getLast flat.nonempty ∈ tokens.getLast? :=
    List.getLast?_eq_getLast_of_ne_nil flat.nonempty
  refine ⟨last, passes, allClosed, ?_⟩
  rw [passes.behindOperand_eq final]
  exact flat.ends _ final

/-- Tokens are a formula exactly if they pass the flat scan. -/
theorem accepted_iff_flatForm (tokens : List Token) :
    (∃ tree, Tree.ofTokens tokens = .ok tree) ↔ FlatForm tokens := by
  rw [exists_ofTokens_ok_iff_passes]
  constructor
  · rintro ⟨last, passes, allClosed, behind⟩
    exact passes.flatForm allClosed behind
  · intro flat
    exact flat.exists_passes

end Formula
