import Formula.Proofs.LabelText
import Formula.Tree

/-!
# What a diagram shows

A diagram has one line for each node, the node before those below it.  In front
of the label stands one group of three characters for each node on the way from
the root, the root apart: a connector for the node itself and a rail or blanks
for a node above it.  Which of the two forms a group has says whether that node
has a later sibling.

The first line gives away what the root is.  The lines below it are those of its
operands, told apart by their first characters, and give back the lines of each
operand once the first group is taken off.  So a diagram belongs to one tree
only.
-/

namespace Formula

/-- The lines of a text. -/
def Text.lines (text : String) : List String :=
  (text.split '\n').toList.map String.Slice.copy

namespace Tree

/-! ## Nodes and their lines -/

/-- A node of a tree and the way to it.  For each node on the way from the root,
the root apart and the node itself last, `followed` says whether that node has a
later sibling. -/
structure Placed where
  followed : List Bool
  node : Tree

namespace Placed

/-- The same node seen from one step further up, where the way begins with an
operand that has a later sibling or has none. -/
def under (isFollowed : Bool) (placed : Placed) : Placed :=
  ⟨isFollowed :: placed.followed, placed.node⟩

/-- The group for the node itself. -/
def connector (isFollowed : Bool) : String :=
  if isFollowed then "├─ " else "└─ "

/-- The group for a node above. -/
def rail (isFollowed : Bool) : String :=
  if isFollowed then "│  " else "   "

/-- The groups in front of the label, one for each node on the way. -/
def groups (placed : Placed) : List String :=
  placed.followed.dropLast.map rail ++
    (placed.followed.getLast?.map connector).toList

/-- The line of a node: its groups and its label. -/
def line (placed : Placed) : String :=
  placed.groups.foldr (· ++ ·) placed.node.label

end Placed

/-- The nodes of a tree in the order of their lines: each node before those below
it, and these from left to right. -/
def placedNodes : Tree → List Placed
  | tree@(.const _) => [⟨[], tree⟩]
  | tree@(.var _) => [⟨[], tree⟩]
  | tree@(.binary _ left right) =>
      ⟨[], tree⟩ ::
        (left.placedNodes.map (Placed.under true) ++
          right.placedNodes.map (Placed.under false))
  | tree@(.call _ argument) =>
      ⟨[], tree⟩ :: argument.placedNodes.map (Placed.under false)

/-! ## The lines of a diagram -/

namespace Placed

/-- The first group of a line is the connector only for the node itself. -/
theorem line_under (isFollowed : Bool) (placed : Placed) :
    (placed.under isFollowed).line =
      (if placed.followed = [] then connector isFollowed else rail isFollowed) ++
        placed.line := by
  obtain ⟨followed, node⟩ := placed
  cases followed with
  | nil => simp [line, groups, under]
  | cons first others => simp [line, groups, under]

end Placed

theorem exists_placedNodes_eq (tree : Tree) :
    ∃ below,
      tree.placedNodes = ⟨[], tree⟩ :: below ∧
      ∀ placed ∈ below, placed.followed ≠ [] := by
  have deeper : ∀ (isFollowed : Bool) (nodes : List Placed),
      ∀ placed ∈ nodes.map (Placed.under isFollowed),
        placed.followed ≠ [] := by
    intro isFollowed nodes placed member
    obtain ⟨node, -, rfl⟩ := List.mem_map.mp member
    simp [Placed.under]
  cases tree with
  | const value => exact ⟨[], rfl, by simp⟩
  | var name => exact ⟨[], rfl, by simp⟩
  | binary operator left right =>
      refine ⟨_, rfl, ?_⟩
      intro placed member
      rcases List.mem_append.mp member with inLeft | inRight
      · exact deeper true left.placedNodes placed inLeft
      · exact deeper false right.placedNodes placed inRight
  | call function argument =>
      exact ⟨_, rfl, deeper false argument.placedNodes⟩

/-- Hanging the lines of an operand adds a group to each of them. -/
theorem hang_map_line (isFollowed : Bool) (tree : Tree) :
    hang (Placed.connector isFollowed) (Placed.rail isFollowed)
        (tree.placedNodes.map Placed.line) =
      (tree.placedNodes.map (Placed.under isFollowed)).map Placed.line := by
  obtain ⟨below, split, deeper⟩ := tree.exists_placedNodes_eq
  rw [split]
  simp only [List.map_cons, hang, List.map_map, Placed.line_under, if_pos]
  congr 1
  apply List.map_congr_left
  intro placed member
  simp [Placed.line_under, deeper placed member]

theorem diagramLines_eq (tree : Tree) :
    tree.diagramLines = tree.placedNodes.map Placed.line := by
  induction tree with
  | const value => rfl
  | var name => rfl
  | binary operator left right leftHypothesis rightHypothesis =>
      have middle : hangMiddle left.diagramLines =
          (left.placedNodes.map (Placed.under true)).map Placed.line := by
        rw [leftHypothesis]
        exact hang_map_line true left
      have last : hangLast right.diagramLines =
          (right.placedNodes.map (Placed.under false)).map Placed.line := by
        rw [rightHypothesis]
        exact hang_map_line false right
      rw [diagramLines, middle, last, ← List.map_append]
      rfl
  | call function argument inductionHypothesis =>
      have last : hangLast argument.diagramLines =
          (argument.placedNodes.map (Placed.under false)).map Placed.line := by
        rw [inductionHypothesis]
        exact hang_map_line false argument
      rw [diagramLines, last]
      rfl

/-! ## Splitting a diagram into its lines -/

theorem newline_notMem_label (tree : Tree)
    (nameLines : ∀ name ∈ tree.names, '\n' ∉ name.toList) :
    '\n' ∉ tree.label.toList := by
  cases tree with
  | const value => simp [label, Number.newline_notMem_labelText]
  | var name => simp [label, nameLines name (by simp [names])]
  | binary operator left right =>
      have symbolLine : '\n' ≠ operator.symbol := by
        cases operator <;> decide
      simp [label, symbolLine]
  | call function argument =>
      have functionLine : '\n' ∉ function.name.toList := by
        cases function <;> decide
      simp [label, functionLine]

theorem newline_notMem_hang {first others : String} {lines : List String}
    (firstLine : '\n' ∉ first.toList) (otherLines : '\n' ∉ others.toList)
    (each : ∀ line ∈ lines, '\n' ∉ line.toList) :
    ∀ line ∈ hang first others lines, '\n' ∉ line.toList := by
  intro line member
  cases lines with
  | nil => simp [hang] at member
  | cons head tail =>
      rcases List.mem_cons.mp member with rfl | inTail
      · simp [firstLine, each head (by simp)]
      · obtain ⟨other, otherMember, rfl⟩ := List.mem_map.mp inTail
        simp [otherLines, each other (by simp [otherMember])]

theorem newline_notMem_diagramLines {tree : Tree}
    (nameLines : ∀ name ∈ tree.names, '\n' ∉ name.toList) :
    ∀ line ∈ tree.diagramLines, '\n' ∉ line.toList := by
  induction tree with
  | const value =>
      intro line member
      rw [List.mem_singleton.mp member]
      exact newline_notMem_label _ nameLines
  | var name =>
      intro line member
      rw [List.mem_singleton.mp member]
      exact newline_notMem_label _ nameLines
  | binary operator left right leftHypothesis rightHypothesis =>
      have leftLines := leftHypothesis fun name member =>
        nameLines name (List.mem_append_left _ member)
      have rightLines := rightHypothesis fun name member =>
        nameLines name (List.mem_append_right _ member)
      intro line member
      rcases List.mem_cons.mp member with rfl | inOperands
      · exact newline_notMem_label _ nameLines
      · rcases List.mem_append.mp inOperands with inLeft | inRight
        · exact newline_notMem_hang (by decide) (by decide) leftLines line inLeft
        · exact newline_notMem_hang (by decide) (by decide) rightLines line inRight
  | call function argument inductionHypothesis =>
      intro line member
      rcases List.mem_cons.mp member with rfl | inArgument
      · exact newline_notMem_label _ nameLines
      · exact newline_notMem_hang (by decide) (by decide)
          (inductionHypothesis nameLines) line inArgument

theorem lines_diagram {tree : Tree}
    (nameLines : ∀ name ∈ tree.names, '\n' ∉ name.toList) :
    Text.lines tree.diagram = tree.placedNodes.map Placed.line := by
  have split := String.toList_split_intercalate
    (newline_notMem_diagramLines nameLines)
  obtain ⟨below, nodes, -⟩ := tree.exists_placedNodes_eq
  have nonempty : tree.diagramLines ≠ [] := by
    simp [diagramLines_eq, nodes]
  rw [if_neg nonempty] at split
  rw [← diagramLines_eq]
  exact split

/-! ## Reading a diagram -/

/-- The nodes of two trees have the same label when they are of one kind and
agree in what is theirs, whatever their operands are. -/
inductive Alike : Tree → Tree → Prop
  | const {first second : Float}
      (same : Number.labelText first = Number.labelText second) :
      Alike (.const first) (.const second)
  | var (name : String) : Alike (.var name) (.var name)
  | binary (operator : Operator) (left right otherLeft otherRight : Tree) :
      Alike (.binary operator left right) (.binary operator otherLeft otherRight)
  | call (function : Function) (argument otherArgument : Tree) :
      Alike (.call function argument) (.call function otherArgument)

theorem alike_of_label_eq {first second : Tree}
    (same : first.label = second.label) : Alike first second := by
  have texts := congrArg String.toList same
  cases first with
  | const value =>
      cases second with
      | const other =>
          refine .const (String.toList_injective ?_)
          simpa [label] using texts
      | _ => simp [label] at texts
  | var name =>
      cases second with
      | var other =>
          have names : name = other := by
            simpa [label, String.toList_inj] using texts
          rw [names]
          exact .var other
      | _ => simp [label] at texts
  | binary operator left right =>
      cases second with
      | binary other otherLeft otherRight =>
          have operators : operator = other := by
            cases operator <;> cases other <;> simp [label, Operator.symbol] at texts ⊢
          rw [operators]
          exact .binary other left right otherLeft otherRight
      | _ => simp [label] at texts
  | call function argument =>
      cases second with
      | call other otherArgument =>
          have functions : function = other := by
            cases function <;> cases other <;> simp [label, Function.name] at texts ⊢
          rw [functions]
          exact .call other argument otherArgument
      | _ => simp [label] at texts

theorem hang_injective (first others : String) :
    (hang first others).Injective := by
  have appendInjective (front text otherText : String)
      (same : front ++ text = front ++ otherText) : text = otherText := by
    simpa using same
  intro lines otherLines same
  cases lines with
  | nil =>
      cases otherLines with
      | nil => rfl
      | cons otherLine otherRest => simp [hang] at same
  | cons line rest =>
      cases otherLines with
      | nil => simp [hang] at same
      | cons otherLine otherRest =>
          obtain ⟨heads, tails⟩ := List.cons.inj same
          rw [appendInjective first line otherLine heads,
            (List.map_inj_right (appendInjective others)).mp tails]

/-- Whether a line stands under an operand that has another one behind it. -/
def isMiddle (line : String) : Bool :=
  line.toList.head? == some '├' || line.toList.head? == some '│'

theorem filter_isMiddle_hangMiddle (lines : List String) :
    (hangMiddle lines).filter isMiddle = hangMiddle lines := by
  cases lines with
  | nil => rfl
  | cons line rest => simp [hangMiddle, hang, isMiddle]

theorem filter_isMiddle_hangLast (lines : List String) :
    (hangLast lines).filter isMiddle = [] := by
  cases lines with
  | nil => rfl
  | cons line rest => simp [hangLast, hang, isMiddle]

/-- The lines of two operands can be told apart. -/
theorem hangMiddle_append_hangLast_inj {left right otherLeft otherRight : List String}
    (same : hangMiddle left ++ hangLast right =
      hangMiddle otherLeft ++ hangLast otherRight) :
    left = otherLeft ∧ right = otherRight := by
  have middles := congrArg (List.filter isMiddle) same
  simp only [List.filter_append, filter_isMiddle_hangMiddle,
    filter_isMiddle_hangLast, List.append_nil] at middles
  rw [middles] at same
  exact ⟨hang_injective _ _ middles, hang_injective _ _ (List.append_cancel_left same)⟩

/-- The constants in a tree from left to right. -/
def constants : Tree → List Float
  | .const value => [value]
  | .var _ => []
  | .binary _ left right => left.constants ++ right.constants
  | .call _ argument => argument.constants

theorem head?_diagramLines (tree : Tree) :
    tree.diagramLines.head? = some tree.label := by
  cases tree with
  | const value => rfl
  | var name => rfl
  | binary operator left right => rfl
  | call function argument => rfl

theorem alike_of_diagramLines_eq {first second : Tree}
    (same : first.diagramLines = second.diagramLines) : Alike first second := by
  apply alike_of_label_eq
  apply Option.some.inj
  rw [← head?_diagramLines, ← head?_diagramLines, same]

/-- Trees are the same when their diagrams are, line by line. -/
theorem eq_of_diagramLines_eq {first second : Tree}
    (numbers : ∀ value ∈ first.constants, value.isNaN = false)
    (otherNumbers : ∀ value ∈ second.constants, value.isNaN = false)
    (same : first.diagramLines = second.diagramLines) : first = second := by
  induction first generalizing second with
  | const value =>
      cases alike_of_diagramLines_eq same with
      | @const _ other labels =>
          rw [Number.eq_of_labelText_eq (numbers value (by simp [constants]))
            (otherNumbers other (by simp [constants])) labels]
  | var name =>
      cases alike_of_diagramLines_eq same with
      | var => rfl
  | binary operator left right leftHypothesis rightHypothesis =>
      cases alike_of_diagramLines_eq same with
      | binary _ _ _ otherLeft otherRight =>
          obtain ⟨leftLines, rightLines⟩ :=
            hangMiddle_append_hangLast_inj (List.cons.inj same).2
          simp only [constants, List.forall_mem_append] at numbers otherNumbers
          rw [leftHypothesis numbers.1 otherNumbers.1 leftLines,
            rightHypothesis numbers.2 otherNumbers.2 rightLines]
  | call function argument inductionHypothesis =>
      cases alike_of_diagramLines_eq same with
      | call _ _ otherArgument =>
          have argumentLines := hang_injective _ _ (List.cons.inj same).2
          simp only [constants] at numbers otherNumbers
          rw [inductionHypothesis numbers otherNumbers argumentLines]

/-! ## Diagrams are faithful -/

/-- A diagram shows the nodes of a tree, each on its line, and no two trees have
the same diagram, as long as no name spreads over several lines and every constant
is a number. -/
theorem diagram_faithful :
    (∀ tree : Tree,
      (∀ name ∈ tree.names, '\n' ∉ name.toList) →
        Text.lines tree.diagram = tree.placedNodes.map Placed.line) ∧
    ∀ first second : Tree,
      (∀ name ∈ first.names, '\n' ∉ name.toList) →
      (∀ name ∈ second.names, '\n' ∉ name.toList) →
      (∀ value ∈ first.constants, value.isNaN = false) →
      (∀ value ∈ second.constants, value.isNaN = false) →
      first.diagram = second.diagram → first = second := by
  refine ⟨fun tree nameLines => lines_diagram nameLines, ?_⟩
  intro first second nameLines otherNameLines numbers otherNumbers same
  apply eq_of_diagramLines_eq numbers otherNumbers
  rw [diagramLines_eq, diagramLines_eq, ← lines_diagram nameLines,
    ← lines_diagram otherNameLines, same]

/-- All four groups, and a half that is written in two ways. -/
theorem diagram_faithful_of_halves :
    ∃ tree other : Tree,
      tree = .binary .pow (.call .sin (.var "x"))
        (.call .cos (.const (Number.ofLiteral ".5".toList))) ∧
      other = .binary .pow (.call .sin (.var "x"))
        (.call .cos (.const (Number.ofLiteral "5e-1".toList))) ∧
      Text.lines tree.diagram =
        ["BinaryOp(^)",
          "├─ Call(sin)",
          "│  └─ VariableRef(x)",
          "└─ Call(cos)",
          "   └─ Constant(0.5)"] ∧
      tree.diagram = other.diagram ∧ tree = other := by
  obtain ⟨shows, determines⟩ := diagram_faithful
  refine ⟨_, _, rfl, rfl, ?_, ?_, ?_⟩
  · refine (shows _ ?_).trans (by decide +kernel)
    decide +kernel
  · decide +kernel
  · apply determines <;> decide +kernel

end Tree

end Formula
