import Formula.Proofs.Grammar
import Formula.Proofs.ReaderSteps
import Mathlib.Data.Set.Subsingleton

/-!
# The reader and the grammar

The reader builds trees without looking at the grammar, and this module shows
that it finds exactly the trees of the grammar.

* Soundness: at every point of a run the tokens taken so far are accounted for.
  Inside one group they are the left operands and operators that are pending,
  and between two groups there is an opening parenthesis.  Each pending operator
  leaves a hole behind it, and the kind of phrase that fits the hole decides
  which operators may follow.
* Completeness: on the tokens of a phrase the reader ends behind an operand, and
  completing what became pending on the way gives the tree of the phrase.
-/

namespace Formula

open Reader

/-! ## What the taken tokens are -/

/-- `Awaits base hole pending tokens` means that the pending operations were read
from the tokens inside a phrase of the kind `base`, and that a phrase of the
kind `hole` is missing behind them. -/
inductive Awaits (base : Phrase) :
    Phrase → List (Tree × Operator) → List Token → Prop
  | start : Awaits base base [] []
  | push {hole : Phrase} {pending : List (Tree × Operator)}
      {before operand : List Token} {left : Tree} {operator : Operator}
      {sign : Token} :
      Awaits base hole pending before →
      hole.rank ≤ (Phrase.around operator).rank →
      Derives (Phrase.leftOf operator) operand left →
      sign.category = .operator operator →
      Awaits base (Phrase.rightOf operator) ((left, operator) :: pending)
        (before ++ (operand ++ [sign]))

/-- The tokens that open a group. -/
inductive Opens : Option Function → List Token → Prop
  | group {opening : Token} :
      opening.category = .leftParen →
      Opens none [opening]
  | call {function : Function} {name opening : Token} :
      name.category = .function function →
      opening.category = .leftParen →
      Opens (some function) [name, opening]

/-- `Encloses level groups base tokens` means that the groups were opened by the
tokens, and that a phrase of the kind `base` stands in the innermost one. -/
inductive Encloses (level : Level) :
    List Group → Phrase → List Token → Prop
  | outside : Encloses level [] (Phrase.ofLevel level) []
  | inside {groups : List Group} {base hole : Phrase} {group : Group}
      {outer before opening : List Token} :
      Encloses level groups base outer →
      Awaits base hole group.pending before →
      Opens group.function? opening →
      Encloses level (group :: groups) .expression
        (outer ++ (before ++ opening))

/-- What the tokens of an unfinished operand are. -/
inductive Begins : Expecting → List Token → Prop
  | operand : Begins .operand []
  | opening {function : Function} {name : Token} :
      name.category = .function function →
      Begins (.opening function) [name]
  | operator {left : Tree} {tokens : List Token} :
      Derives .primary tokens left →
      Begins (.operator left) tokens

/-- The tokens that a reader has taken, with a place for each of them. -/
def Accounts (level : Level) (reader : Reader) (taken : List Token) : Prop :=
  ∃ base hole outer before current,
    Encloses level reader.groups base outer ∧
    Awaits base hole reader.pending before ∧
    Begins reader.expecting current ∧
    taken = outer ++ (before ++ current)

/-! ## Pending operations -/

/-- Completing what is pending makes a whole phrase out of the operand that
fills the hole. -/
theorem Awaits.derives_complete {base hole : Phrase}
    {pending : List (Tree × Operator)} {before operand : List Token}
    {right : Tree} (awaits : Awaits base hole pending before)
    (fills : Derives hole operand right) :
    Derives base (before ++ operand) (Tree.complete pending right) := by
  induction awaits generalizing operand right with
  | start => exact fills
  | push awaits ranked leftDerivation signed inductionHypothesis =>
      rw [Tree.complete]
      have made := Derives.binary signed leftDerivation fills
      have whole := inductionHypothesis (made.loosen ranked)
      simpa [List.append_assoc] using whole

/-- Settling for the next operator leaves pending operations whose hole has
room for that operator, with its left operand behind them. -/
theorem Awaits.settle {base hole : Phrase} {pending : List (Tree × Operator)}
    {before operand : List Token} {right : Tree} {next : Operator}
    (awaits : Awaits base hole pending before)
    (admitted : base.rank ≤ (Phrase.around next).rank)
    (fills : Derives hole operand right)
    (leftDerivation : Derives (Phrase.leftOf next) operand right) :
    ∃ remaining kept current,
      Awaits base remaining (Tree.settle next pending right).1 kept ∧
      remaining.rank ≤ (Phrase.around next).rank ∧
      Derives (Phrase.leftOf next) current
        (Tree.settle next pending right).2 ∧
      before ++ operand = kept ++ current := by
  induction awaits generalizing operand right with
  | start => exact ⟨base, [], operand, .start, admitted, leftDerivation, rfl⟩
  | @push hole pending before outerOperand left operator sign awaits ranked
      outerDerivation signed inductionHypothesis =>
      rw [Tree.settle]
      split
      next completes =>
        -- The operation becomes the right operand of the one below it.
        have made := Derives.binary signed outerDerivation fills
        have atNext : Derives (Phrase.leftOf next)
            (outerOperand ++ sign :: operand)
            (.binary operator left right) :=
          made.loosen ((Phrase.completes_iff_rank_le next operator).mp completes)
        obtain ⟨remaining, kept, current, awaiting, room, found, same⟩ :=
          inductionHypothesis (made.loosen ranked) atNext
        refine ⟨remaining, kept, current, awaiting, room, found, ?_⟩
        rw [← same]
        simp
      next waits =>
        have room : (Phrase.rightOf operator).rank ≤
            (Phrase.around next).rank :=
          Phrase.rank_rightOf_le_of_not_completes (by simpa using waits)
        exact ⟨Phrase.rightOf operator, before ++ (outerOperand ++ [sign]),
          operand, .push awaits ranked outerDerivation signed, room,
          leftDerivation, rfl⟩

/-! ## Soundness -/

/-- Only operators that the level admits stand outside all groups, and every
operator may stand in a group. -/
theorem Encloses.rank_le {level : Level} {groups : List Group}
    {base : Phrase} {tokens : List Token} {operator : Operator}
    (encloses : Encloses level groups base tokens)
    (admitted : groups = [] → level.admits operator = true) :
    base.rank ≤ (Phrase.around operator).rank := by
  cases encloses with
  | outside => exact (Phrase.admits_iff_rank_le level operator).mp (admitted rfl)
  | inside outer awaits opens => exact Nat.zero_le _

/-- The tokens of a closed group are a primary. -/
theorem Opens.derives_close {group : Group} {opening inner : List Token}
    {closing : Token} {tree : Tree} (opens : Opens group.function? opening)
    (derivation : Derives .expression inner tree)
    (closed : closing.category = .rightParen) :
    Derives .primary (opening ++ (inner ++ [closing])) (group.close tree) := by
  obtain ⟨function?, pending⟩ := group
  cases opens with
  | group opened => exact .group opened derivation closed
  | call named opened => exact .call named opened derivation closed

/-- One step keeps the account of the taken tokens. -/
theorem Accounts.step {level : Level} {reader next : Reader}
    {taken : List Token} {token : Token}
    (accounts : Accounts level reader taken)
    (takes : Takes level reader token next) :
    Accounts level next (taken ++ [token]) := by
  obtain ⟨base, hole, outer, before, current, encloses, awaits, begins, rfl⟩ :=
    accounts
  cases takes with
  | number groups pending text value position =>
      cases begins
      exact ⟨base, hole, outer, before, _, encloses, awaits,
        .operator (.number text value position), by simp⟩
  | name groups pending named =>
      cases begins
      exact ⟨base, hole, outer, before, _, encloses, awaits,
        .operator (.name named), by simp⟩
  | function groups pending named =>
      cases begins
      exact ⟨base, hole, outer, before, _, encloses, awaits,
        .opening named, by simp⟩
  | group groups pending opened =>
      cases begins
      exact ⟨.expression, .expression, _, [], [],
        .inside encloses awaits (.group opened), .start, .operand, by simp⟩
  | call groups pending function opened =>
      cases begins with
      | opening named =>
          exact ⟨.expression, .expression, _, [], [],
            .inside encloses awaits (.call named opened), .start, .operand,
            by simp⟩
  | @operator groups pending left _ operator signed admitted =>
      cases begins with
      | operator derivation =>
          have fits := encloses.rank_le admitted
          obtain ⟨remaining, kept, operand, awaiting, room, found, same⟩ :=
            awaits.settle fits
              (derivation.loosen (Phrase.rank_le_rank_primary hole))
              (derivation.loosen (Phrase.rank_le_rank_primary _))
          refine ⟨base, _, outer, _, [], encloses,
            .push awaiting room found signed, .operand, ?_⟩
          rw [same]
          simp
  | close group groups pending left closed =>
      cases begins with
      | operator derivation =>
          cases encloses with
          | @inside _ outerBase outerHole _ outside waiting opening enclosing
              outerAwaits opens =>
              have inner := awaits.derives_complete
                (derivation.loosen (Phrase.rank_le_rank_primary hole))
              have primary := opens.derives_close inner closed
              exact ⟨outerBase, outerHole, outside, waiting, _, enclosing,
                outerAwaits, .operator primary, by simp⟩

/-- A run of steps keeps the account of the taken tokens. -/
theorem Accounts.passes {level : Level} {reader last : Reader}
    {taken tokens : List Token} (accounts : Accounts level reader taken)
    (passes : Passes level reader tokens last) :
    Accounts level last (taken ++ tokens) := by
  induction passes generalizing taken with
  | refl reader => simpa using accounts
  | step takes passes inductionHypothesis =>
      simpa using inductionHypothesis (accounts.step takes)

theorem accounts_initial (level : Level) : Accounts level initial [] :=
  ⟨_, _, [], [], [], .outside, .start, .operand, rfl⟩

/-- The tokens of a reader that has a tree are a phrase of its level with that
tree. -/
theorem Accounts.derives_of_conclude {level : Level} {reader : Reader}
    {taken : List Token} {next : Option Token} {tree : Tree}
    (accounts : Accounts level reader taken)
    (concluded : reader.conclude next = .ok tree) :
    Derives (Phrase.ofLevel level) taken tree := by
  obtain ⟨groups, pending, expecting⟩ := reader
  obtain ⟨left, rfl, rfl, rfl⟩ := conclude_eq_ok_iff.mp concluded
  obtain ⟨base, hole, outer, before, current, encloses, awaits, begins, rfl⟩ :=
    accounts
  cases encloses
  cases begins with
  | operator derivation =>
      exact awaits.derives_complete
        (derivation.loosen (Phrase.rank_le_rank_primary hole))

/-! ## Completeness -/

/-- Operations that stay pending while a phrase is read behind them: no operator
of the phrase completes them. -/
def Undisturbed (phrase : Phrase) (pending : List (Tree × Operator)) : Prop :=
  ∀ entry ∈ pending, ∀ next : Operator,
    phrase.rank ≤ (Phrase.around next).rank →
      next.completes entry.2 = false

/-- The operations that a phrase leaves pending are its own. -/
def LeftBy (phrase : Phrase) (pending : List (Tree × Operator)) : Prop :=
  ∀ entry ∈ pending, phrase.rank ≤ (Phrase.around entry.2).rank

theorem Undisturbed.tighten {looser tighter : Phrase}
    {pending : List (Tree × Operator)}
    (undisturbed : Undisturbed looser pending)
    (ranked : looser.rank ≤ tighter.rank) : Undisturbed tighter pending :=
  fun entry member next inside =>
    undisturbed entry member next (Nat.le_trans ranked inside)

theorem LeftBy.loosen {looser tighter : Phrase}
    {pending : List (Tree × Operator)} (leftBy : LeftBy tighter pending)
    (ranked : looser.rank ≤ tighter.rank) : LeftBy looser pending :=
  fun entry member => Nat.le_trans ranked (leftBy entry member)

/-- A pending operation stays pending while its right operand is read. -/
theorem Undisturbed.push {operator : Operator}
    {pending : List (Tree × Operator)}
    (undisturbed : Undisturbed (Phrase.around operator) pending)
    (left : Tree) :
    Undisturbed (Phrase.rightOf operator) ((left, operator) :: pending) := by
  intro entry member next inside
  rcases List.mem_cons.mp member with rfl | earlier
  · exact Phrase.not_completes_of_rank_rightOf_le inside
  · exact undisturbed.tighten (Phrase.rank_around_le_rightOf operator)
      entry earlier next inside

theorem complete_append (inner outer : List (Tree × Operator)) (right : Tree) :
    Tree.complete (inner ++ outer) right =
      Tree.complete outer (Tree.complete inner right) := by
  induction inner generalizing right with
  | nil => rfl
  | cons entry inner inductionHypothesis =>
      exact inductionHypothesis _

/-- Behind its left operand an operator completes all that the operand left
pending, and nothing else. -/
theorem settle_append {operator : Operator}
    {inner pending : List (Tree × Operator)}
    (leftBy : LeftBy (Phrase.leftOf operator) inner)
    (undisturbed : Undisturbed (Phrase.around operator) pending)
    (right : Tree) :
    Tree.settle operator (inner ++ pending) right =
      (pending, Tree.complete inner right) := by
  induction inner generalizing right with
  | nil =>
      cases pending with
      | nil => rfl
      | cons entry pending =>
          have waits := undisturbed entry (by simp) operator (Nat.le_refl _)
          simp [Tree.settle, Tree.complete, waits]
  | cons entry inner inductionHypothesis =>
      have completes : operator.completes entry.2 = true :=
        (Phrase.completes_iff_rank_le operator entry.2).mpr
          (leftBy entry (by simp))
      have later : LeftBy (Phrase.leftOf operator) inner :=
        fun other member => leftBy other (by simp [member])
      rw [List.cons_append, Tree.settle, if_pos completes,
        inductionHypothesis later]
      rfl

/-- What the reader does with the tokens of a phrase: it ends behind an operand,
and the operations that became pending complete to the tree of the phrase. -/
def Absorbs (phrase : Phrase) (tokens : List Token) (tree : Tree) : Prop :=
  ∀ (level : Level) (groups : List Group) (pending : List (Tree × Operator)),
    (groups = [] → (Phrase.ofLevel level).rank ≤ phrase.rank) →
    Undisturbed phrase pending →
    ∃ inner left,
      Passes level ⟨groups, pending, .operand⟩ tokens
        ⟨groups, inner ++ pending, .operator left⟩ ∧
      LeftBy phrase inner ∧
      Tree.complete inner left = tree

namespace Absorbs

theorem loosen {looser tighter : Phrase} {tokens : List Token} {tree : Tree}
    (ranked : looser.rank ≤ tighter.rank)
    (absorbs : Absorbs tighter tokens tree) :
    Absorbs looser tokens tree := by
  intro level groups pending outside undisturbed
  obtain ⟨inner, left, passes, leftBy, completed⟩ :=
    absorbs level groups pending
      (fun empty => Nat.le_trans (outside empty) ranked)
      (undisturbed.tighten ranked)
  exact ⟨inner, left, passes, leftBy.loosen ranked, completed⟩

/-- The rule for operators: the left operand, the operator, which completes what
the left operand left pending, and the right operand. -/
theorem binary {operator : Operator} {sign : Token}
    {before after : List Token} {left right : Tree}
    (signed : sign.category = .operator operator)
    (leftAbsorbs : Absorbs (Phrase.leftOf operator) before left)
    (rightAbsorbs : Absorbs (Phrase.rightOf operator) after right) :
    Absorbs (Phrase.around operator) (before ++ sign :: after)
      (.binary operator left right) := by
  intro level groups pending outside undisturbed
  have leftRank := Phrase.rank_around_le_leftOf operator
  have rightRank := Phrase.rank_around_le_rightOf operator
  obtain ⟨leftInner, leftOperand, leftPasses, leftBy, rfl⟩ :=
    leftAbsorbs level groups pending
      (fun empty => Nat.le_trans (outside empty) leftRank)
      (undisturbed.tighten leftRank)
  obtain ⟨rightInner, rightOperand, rightPasses, rightBy, rfl⟩ :=
    rightAbsorbs level groups
      ((Tree.complete leftInner leftOperand, operator) :: pending)
      (fun empty => Nat.le_trans (outside empty) rightRank)
      (undisturbed.push _)
  have admitted : groups = [] → level.admits operator = true :=
    fun empty => (Phrase.admits_iff_rank_le level operator).mpr (outside empty)
  have takes :=
    Takes.operator groups (leftInner ++ pending) leftOperand signed admitted
  rw [settle_append leftBy undisturbed] at takes
  refine ⟨rightInner ++ [(Tree.complete leftInner leftOperand, operator)],
    rightOperand, ?_, ?_, ?_⟩
  · rw [List.append_assoc]
    exact leftPasses.append (.step takes rightPasses)
  · intro entry member
    rcases List.mem_append.mp member with earlier | last
    · exact rightBy.loosen rightRank entry earlier
    · rw [List.mem_singleton.mp last]
  · rw [complete_append]
    rfl

/-- Inside parentheses nothing is pending at first, and the closing parenthesis
completes everything. -/
theorem enclosed {inner : List Token} {tree : Tree} {closing : Token}
    (absorbs : Absorbs .expression inner tree)
    (closed : closing.category = .rightParen)
    (level : Level) (group : Group) (groups : List Group) :
    Passes level ⟨group :: groups, [], .operand⟩ (inner ++ [closing])
      ⟨groups, group.pending, .operator (group.close tree)⟩ := by
  obtain ⟨remaining, left, passes, -, rfl⟩ :=
    absorbs level (group :: groups) [] (by simp) (by simp [Undisturbed])
  rw [List.append_nil] at passes
  exact passes.append (.single (.close group groups remaining left closed))

/-- A primary is read at once and leaves nothing pending. -/
theorem primary {tokens : List Token} {tree : Tree}
    (reads : ∀ (level : Level) (groups : List Group)
      (pending : List (Tree × Operator)),
      Passes level ⟨groups, pending, .operand⟩ tokens
        ⟨groups, pending, .operator tree⟩) :
    Absorbs .primary tokens tree := by
  intro level groups pending _ _
  exact ⟨[], tree, reads level groups pending, by simp [LeftBy], rfl⟩

end Absorbs

/-- The reader absorbs every phrase of the grammar. -/
theorem Derives.absorbs {phrase : Phrase} {tokens : List Token} {tree : Tree}
    (derivation : Derives phrase tokens tree) :
    Absorbs phrase tokens tree := by
  induction derivation using Derives.inductionOnRank with
  | binary signed _ _ leftAbsorbs rightAbsorbs =>
      exact Absorbs.binary signed leftAbsorbs rightAbsorbs
  | loosen ranked _ absorbs => exact absorbs.loosen ranked
  | call named opened _ closed absorbs =>
      apply Absorbs.primary
      intro level groups pending
      exact .step (.function groups pending named)
        (.step (.call groups pending _ opened)
          (absorbs.enclosed closed level ⟨some _, pending⟩ groups))
  | group opened _ closed absorbs =>
      apply Absorbs.primary
      intro level groups pending
      exact .step (.group groups pending opened)
        (absorbs.enclosed closed level ⟨none, pending⟩ groups)
  | number text value position =>
      apply Absorbs.primary
      intro level groups pending
      exact .single (.number groups pending text value position)
  | name named =>
      apply Absorbs.primary
      intro level groups pending
      exact .single (.name groups pending named)

/-! ## The two together -/

/-- The reader of a level takes all of some tokens and has a tree exactly if the
tokens are a phrase of the level with that tree. -/
theorem readFront_eq_ok_iff_derives {level : Level} {tokens : List Token}
    {tree : Tree} :
    Tree.readFront level tokens = (.ok tree, []) ↔
      Derives (Phrase.ofLevel level) tokens tree := by
  rw [Tree.readFront, run_eq_ok_iff]
  constructor
  · rintro ⟨last, passes, concluded⟩
    exact ((accounts_initial level).passes passes).derives_of_conclude concluded
  · intro derivation
    obtain ⟨inner, left, passes, -, completed⟩ :=
      derivation.absorbs level [] [] (fun _ => Nat.le_refl _)
        (by simp [Undisturbed])
    rw [List.append_nil] at passes
    exact ⟨_, passes, conclude_eq_ok_iff.mpr ⟨left, rfl, rfl, completed⟩⟩

theorem ofTokens_eq_ok_iff_derives {tokens : List Token} {tree : Tree} :
    Tree.ofTokens tokens = .ok tree ↔ Derives .expression tokens tree := by
  rw [Tree.ofTokens_eq_ok_iff_run]
  exact readFront_eq_ok_iff_derives

/-- The reader decides the grammar: it accepts the expressions of the grammar
and nothing else, it gives each of them the tree of its derivation, and no list
of tokens has two trees. -/
theorem reader_decides_grammar (tokens : List Token) :
    (∀ tree : Tree,
      Tree.ofTokens tokens = .ok tree ↔ Derives .expression tokens tree) ∧
    {tree : Tree | Derives .expression tokens tree}.Subsingleton := by
  refine ⟨fun tree => ofTokens_eq_ok_iff_derives, ?_⟩
  intro first firstDerivation second secondDerivation
  have firstRead := ofTokens_eq_ok_iff_derives.mpr firstDerivation
  have secondRead := ofTokens_eq_ok_iff_derives.mpr secondDerivation
  exact Except.ok.inj (firstRead.symm.trans secondRead)

end Formula
