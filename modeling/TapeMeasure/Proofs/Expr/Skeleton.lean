import TapeMeasure.Expr.Node
import TapeMeasure.Proofs.Token.Piece

/- The skeleton of a text, from its pieces: blanks leave no node, and every other piece leaves one
   in its place. -/
set_option autoImplicit false

namespace TapeMeasure.Piece

def IsBlanks : Piece → Prop
  | .blanks _ => True
  | _ => False

theorem blanks_form {piece : Piece} (blank : piece.IsBlanks) : ∃ run, piece = .blanks run := by
  cases piece with
  | blanks run => exact ⟨run, rfl⟩
  | _ => exact absurd blank id

def node (position : Nat) (piece : Piece) : Node := Node.ofToken (piece.token position)

def nodes (position : Nat) (pieces : List Piece) : List Node :=
  Node.ofTokens (tokens position pieces)

theorem literal_kind_value (read : Literal) : read.kind.isValue = true := by
  cases read with
  | feetOnly feet => rfl
  | inchesOnly part => cases part <;> rfl
  | fractionOnly fraction => rfl
  | feetInches feet gap part => cases part <;> rfl

theorem not_value_kind {kind other : Kind} (value : kind.isValue = true)
    (off : other.isValue = false) : kind ≠ other := by
  rintro rfl
  rw [value] at off
  exact absurd off (by decide)

theorem node_literal (position : Nat) (read : Literal) :
    node position (.literal read) = .literal ⟨read.kind, position, read.spelling⟩ read.worth := by
  have value := literal_kind_value read
  have notParen : read.kind ≠ .paren := not_value_kind value rfl
  simp [node, token, Token.literal, Node.ofToken, notParen, value]

theorem node_plus (position : Nat) : node position .plus = .other ⟨.plus, position, ['+']⟩ := by
  simp [node, token, Token.bare, Node.ofToken, Kind.isValue]

theorem node_minus (position : Nat) :
    node position .minus = .other ⟨.minus, position, ['-']⟩ := by
  simp [node, token, Token.bare, Node.ofToken, Kind.isValue]

theorem node_group (position : Nat) (inner : List Piece) :
    node position (.group inner) =
      .group ⟨.paren, position, '(' :: spell inner ++ [')']⟩ (nodes (position + 1) inner) := by
  simp [node, nodes, token, Token.group, Node.ofToken]

theorem token_kind {position : Nat} {piece : Piece} (solid : ¬ piece.IsBlanks) :
    (piece.token position).label.kind ≠ .whitespace := by
  cases piece with
  | literal read => exact not_value_kind (literal_kind_value read) rfl
  | blanks run => exact absurd trivial solid
  | plus => exact nofun
  | minus => exact nofun
  | group inner => simp [token, Token.group]

theorem nodes_blanks (position : Nat) (run : Text) (rest : List Piece) :
    nodes position (.blanks run :: rest) = nodes (position + run.length) rest := by
  simp [nodes, tokens, token, Token.bare, Node.ofTokens, spelling]

theorem nodes_solid {piece : Piece} (position : Nat) (rest : List Piece)
    (solid : ¬ piece.IsBlanks) :
    nodes position (piece :: rest) =
      node position piece :: nodes (position + piece.spelling.length) rest := by
  simp [nodes, node, tokens, Node.ofTokens, token_kind solid]

-- Only blanks stand behind the last node and in front of the first one.
theorem nodes_nil {separator : Separator} {position : Nat} {pieces : List Piece}
    (greedy : Greedy separator pieces) (none : nodes position pieces = []) :
    Text.AllBlank (spell pieces) := by
  induction pieces generalizing position with
  | nil => simp [spell, Text.AllBlank]
  | cons piece rest ih =>
      by_cases solid : piece.IsBlanks
      · obtain ⟨run, rfl⟩ := blanks_form solid
        obtain ⟨⟨-, blank⟩, -, others⟩ := greedy
        rw [nodes_blanks] at none
        intro c member
        cases List.mem_append.mp member with
        | inl inRun => exact blank c inRun
        | inr inRest => exact ih others none c inRest
      · rw [nodes_solid position rest solid] at none
        simp at none

-- The piece that leaves the first node of a level, behind a run of blanks, with what follows it.
structure Leads (separator : Separator) (position : Nat) (pieces : List Piece) (first : Node)
    (others : List Node) (run : Text) (piece : Piece) (rest : List Piece) : Prop where
  blank : Text.AllBlank run
  solid : ¬ piece.IsBlanks
  member : piece ∈ pieces
  spelled : spell pieces = run ++ (piece.spelling ++ spell rest)
  sound : piece.Sound separator
  greedy : Greedy separator rest
  within : ∀ other ∈ rest, other ∈ pieces
  shallow : max piece.depth (deepest rest) ≤ deepest pieces
  first_eq : first = node (position + run.length) piece
  others_eq : others = nodes (position + run.length + piece.spelling.length) rest

theorem nodes_cons {separator : Separator} {position : Nat} {pieces : List Piece} {first : Node}
    {others : List Node} (greedy : Greedy separator pieces)
    (some : nodes position pieces = first :: others) :
    ∃ run piece rest, Leads separator position pieces first others run piece rest := by
  induction pieces generalizing position with
  | nil => simp [nodes, tokens, Node.ofTokens] at some
  | cons piece rest ih =>
      obtain ⟨sound, -, greedyRest⟩ := greedy
      by_cases solid : piece.IsBlanks
      · obtain ⟨run, rfl⟩ := blanks_form solid
        rw [nodes_blanks] at some
        obtain ⟨more, lead, behind, leads⟩ := ih greedyRest some
        refine ⟨run ++ more, lead, behind, ?_⟩
        constructor
        case blank =>
          intro c member
          cases List.mem_append.mp member with
          | inl inRun => exact sound.2 c inRun
          | inr inMore => exact leads.blank c inMore
        case solid => exact leads.solid
        case member => exact List.mem_cons_of_mem _ leads.member
        case spelled => rw [spell, spelling, leads.spelled, List.append_assoc]
        case sound => exact leads.sound
        case greedy => exact leads.greedy
        case within => exact fun other inside => List.mem_cons_of_mem _ (leads.within other inside)
        case shallow => exact Nat.le_trans leads.shallow (Nat.le_max_right _ _)
        case first_eq => rw [leads.first_eq, List.length_append, Nat.add_assoc]
        case others_eq => simp only [leads.others_eq, List.length_append, Nat.add_assoc]
      · rw [nodes_solid position rest solid] at some
        obtain ⟨rfl, rfl⟩ := List.cons.inj some
        refine ⟨[], piece, rest, ?_⟩
        constructor
        case blank => simp [Text.AllBlank]
        case solid => exact solid
        case member => simp
        case spelled => rfl
        case sound => exact sound
        case greedy => exact greedyRest
        case within => exact fun other inside => List.mem_cons_of_mem _ inside
        case shallow => exact Nat.le_refl _
        case first_eq => rfl
        case others_eq => rfl

end TapeMeasure.Piece
