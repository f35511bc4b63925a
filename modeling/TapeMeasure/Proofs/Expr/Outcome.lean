import Mathlib.Data.List.Forall2
import TapeMeasure.Proofs.Expr.Grammar

/- What comes of an expression, without the wording of errors. Two nodes are alike if they have the
   same kind and the same comes of them as operands: then no level tells one from the other, and
   neither does any level around it. -/
set_option autoImplicit false

namespace TapeMeasure

-- By this a caller tells errors apart. A wrong number of nodes is part of it.
inductive ErrorClass where
  | parse
  | malformed
  | expectedOperator
  | operatorNotImplemented
  | unsupportedArity (count : Nat)
  | unknownNode
  | invalidLength
deriving DecidableEq, Repr

def EvalError.errorClass : EvalError → ErrorClass
  | .expectedOperator _ _ => .expectedOperator
  | .subtraction _ _ _ => .operatorNotImplemented
  | .malformed _ => .malformed
  | .unsupportedArity level => .unsupportedArity level.length
  | .unknownNode _ => .unknownNode
  | .length _ => .invalidLength

def ExprError.errorClass : ExprError → ErrorClass
  | .parse _ => .parse
  | .eval cause => cause.errorClass

def outcome (result : Except (Fault ExprError) Length) : Except (Fault ErrorClass) Length :=
  result.mapError (Fault.map ExprError.errorClass)

namespace Node

def outcome (result : Except (Fault EvalError) Length) : Except (Fault ErrorClass) Length :=
  result.mapError (Fault.map EvalError.errorClass)

def Alike (first second : Node) : Prop :=
  first.label.kind = second.label.kind ∧
    outcome (runOperand first).result = outcome (runOperand second).result

theorem outcome_ok {result : Except (Fault EvalError) Length} {value : Length}
    (same : outcome result = .ok value) : result = .ok value := by
  cases result with
  | ok found => exact congrArg Except.ok (Except.ok.inj same)
  | error fault => exact absurd same nofun

theorem outcome_bind {first second : Except (Fault EvalError) Length}
    {next other : Length → Except (Fault EvalError) Length}
    (same : outcome first = outcome second)
    (behind : ∀ value, outcome (next value) = outcome (other value)) :
    outcome (first.bind next) = outcome (second.bind other) := by
  cases first with
  | ok value =>
      rw [outcome_ok (show outcome second = .ok value from same.symm)]
      exact behind value
  | error fault =>
      cases second with
      | ok value => exact absurd same nofun
      | error other => exact same

theorem operate_outcome (lhs rhs : Length) {first second : Label}
    (same : first.kind = second.kind) :
    outcome (operate lhs first rhs) = outcome (operate lhs second rhs) := by
  rw [operate, operate, same]
  by_cases plus : second.kind = .plus
  · rw [if_pos plus, if_pos plus]
  · rw [if_neg plus, if_neg plus]
    cases lhs.render <;> cases rhs.render <;> rfl

theorem wrong_count_outcome {first second : List Node} (same : first.length = second.length)
    (notOne : first.length ≠ 1) (notThree : first.length ≠ 3) :
    outcome (runLevel first).result = outcome (runLevel second).result := by
  have counted (nodes : List Node) : (wrongCount (nodes.map label)).errorClass =
      if nodes.length = 2 ∨ nodes.length = 4 then .malformed
      else .unsupportedArity nodes.length := by
    rw [wrongCount, List.length_map]
    by_cases even : nodes.length = 2 ∨ nodes.length = 4
    · rw [if_pos even, if_pos even]
      rfl
    · rw [if_neg even, if_neg even, EvalError.errorClass, List.length_map]
  rw [wrong_count_result notOne notThree, wrong_count_result (by omega) (by omega)]
  have classes : (wrongCount (first.map label)).errorClass =
      (wrongCount (second.map label)).errorClass := by
    rw [counted, counted, same]
  exact congrArg (fun found => Except.error (Fault.error found)) classes

theorem triple_outcome {lhs operator rhs left sign right : Node} (first : Alike lhs left)
    (middle : Alike operator sign) (last : Alike rhs right) :
    outcome (runLevel [lhs, operator, rhs]).result =
      outcome (runLevel [left, sign, right]).result := by
  rw [triple_result, triple_result, middle.1]
  by_cases known : sign.label.kind.isOperator = true
  · rw [if_pos known, if_pos known]
    apply outcome_bind first.2
    intro lengthLeft
    apply outcome_bind last.2
    intro lengthRight
    exact operate_outcome lengthLeft lengthRight middle.1
  · rw [if_neg known, if_neg known]
    rfl

-- The number of nodes, the operator and the operands are all that a level looks at.
theorem alike_level {first second : List Node} (alike : List.Forall₂ Alike first second) :
    outcome (runLevel first).result = outcome (runLevel second).result := by
  have lengths := alike.length_eq
  by_cases one : first.length = 1
  · obtain ⟨node, rfl⟩ := List.length_eq_one_iff.mp one
    obtain ⟨other, rfl⟩ := List.length_eq_one_iff.mp lengths.symm
    exact (List.forall₂_cons.mp alike).1.2
  · by_cases three : first.length = 3
    · obtain ⟨lhs, operator, rhs, rfl⟩ := List.length_eq_three.mp three
      obtain ⟨left, sign, right, rfl⟩ := List.length_eq_three.mp lengths.symm
      obtain ⟨operands, others⟩ := List.forall₂_cons.mp alike
      obtain ⟨operators, rest⟩ := List.forall₂_cons.mp others
      exact triple_outcome operands operators (List.forall₂_cons.mp rest).1
    · exact wrong_count_outcome lengths one three

end Node

namespace Piece

-- The nodes of the pieces are alike, wherever these stand.
def Alike (first second : Piece) : Prop := ∀ i j, Node.Alike (node i first) (node j second)

def AlikeLevel (first second : List Piece) : Prop :=
  ∀ i j, List.Forall₂ Node.Alike (nodes i first) (nodes j second)

theorem alike_blanks {run : Text} {first second : List Piece} (others : AlikeLevel first second) :
    AlikeLevel (.blanks run :: first) second := by
  intro i j
  rw [nodes_blanks]
  exact others _ j

theorem alike_cons {first second : Piece} {front rest : List Piece} (solid : ¬ first.IsBlanks)
    (otherSolid : ¬ second.IsBlanks) (alike : first.Alike second)
    (others : AlikeLevel front rest) : AlikeLevel (first :: front) (second :: rest) := by
  intro i j
  rw [nodes_solid i front solid, nodes_solid j rest otherSolid]
  exact .cons (alike i j) (others _ _)

theorem alike_behind {piece : Piece} {front rest : List Piece} (self : piece.Alike piece)
    (others : AlikeLevel front rest) : AlikeLevel (piece :: front) (piece :: rest) := by
  by_cases solid : piece.IsBlanks
  · obtain ⟨run, rfl⟩ := blanks_form solid
    intro i j
    rw [nodes_blanks, nodes_blanks]
    exact others _ _
  · exact alike_cons solid solid self others

theorem alike_group {first second : List Piece} (inside : AlikeLevel first second) :
    (group first).Alike (group second) := by
  intro i j
  rw [node_group, node_group]
  exact ⟨rfl, Node.alike_level (inside (i + 1) (j + 1))⟩

theorem alike_literal {first second : Literal} (kind : first.kind = second.kind)
    (worth : first.worth = second.worth) : (literal first).Alike (literal second) := by
  intro i j
  rw [node_literal, node_literal, worth]
  exact ⟨kind, rfl⟩

mutual
theorem alike_self (piece : Piece) : piece.Alike piece := by
  cases piece with
  | literal read => exact alike_literal rfl rfl
  | blanks run =>
      intro i j
      exact ⟨rfl, rfl⟩
  | plus =>
      intro i j
      exact ⟨rfl, rfl⟩
  | minus =>
      intro i j
      exact ⟨rfl, rfl⟩
  | group inner => exact alike_group (alike_level_self inner)
theorem alike_level_self (pieces : List Piece) : AlikeLevel pieces pieces := by
  cases pieces with
  | nil => exact fun i j => .nil
  | cons piece rest => exact alike_behind (alike_self piece) (alike_level_self rest)
end

end Piece

theorem measure_pieces {separator : Separator} {pieces : List Piece}
    (greedy : Piece.Greedy separator pieces) (shallow : Piece.deepest pieces ≤ Nesting.maxDepth) :
    measure separator (Piece.spell pieces) =
      (Node.runLevel (Piece.nodes 0 pieces)).result.mapError (Fault.map .eval) := by
  have scanned : tokenize separator (Piece.spell pieces) = .ok (Piece.tokens 0 pieces) :=
    Piece.tokenize_iff.mpr ⟨pieces, greedy, shallow, rfl, rfl⟩
  rw [measure_scanned scanned]
  rfl

theorem outcome_of_node (result : Except (Fault EvalError) Length) :
    outcome (result.mapError (Fault.map .eval)) = Node.outcome result := by
  cases result with
  | ok value => rfl
  | error fault => cases fault <;> rfl

theorem level_value {separator : Separator} {pieces : List Piece} {length : Length}
    (greedy : Piece.Greedy separator pieces)
    (measured : measure separator (Piece.spell pieces) = .ok length) (position : Nat) :
    Node.outcome (Node.runLevel (Piece.nodes position pieces)).result = .ok length := by
  obtain ⟨tokens, values, scanned, -, -⟩ := measure_ok_sums measured
  obtain ⟨others, otherGreedy, otherShallow, same, -⟩ := Piece.tokenize_iff.mp scanned
  have bound := (Piece.greedy_excess otherGreedy).mpr otherShallow
  rw [same] at bound
  have result := congrArg outcome measured
  rw [measure_pieces greedy ((Piece.greedy_excess greedy).mp bound), outcome_of_node] at result
  rw [← Node.alike_level (Piece.alike_level_self pieces 0 position)]
  exact result

theorem outcome_pieces {separator : Separator} {first second : List Piece}
    (greedy : Piece.Greedy separator first) (shallow : Piece.deepest first ≤ Nesting.maxDepth)
    (otherGreedy : Piece.Greedy separator second)
    (otherShallow : Piece.deepest second ≤ Nesting.maxDepth)
    (alike : Piece.AlikeLevel first second) :
    outcome (measure separator (Piece.spell first)) =
      outcome (measure separator (Piece.spell second)) := by
  rw [measure_pieces greedy shallow, measure_pieces otherGreedy otherShallow, outcome_of_node,
    outcome_of_node]
  exact Node.alike_level (alike 0 0)

end TapeMeasure
