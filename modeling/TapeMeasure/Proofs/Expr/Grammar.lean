import TapeMeasure.Expr.Calculate
import TapeMeasure.Proofs.Expr.Failure
import TapeMeasure.Proofs.Expr.Skeleton
import TapeMeasure.Proofs.Token.Front

/- Expressions as a context-free language. A sum is one operand, or two around a plus, with blanks
   around operands and sign; an operand is a literal or a sum in brackets. A text has a value
   exactly if it is a sum with brackets at most 32 deep, and its total is the sum of the totals
   of the literals in it. -/
set_option autoImplicit false

namespace TapeMeasure

inductive Phrase where
  | operand
  | sum
deriving DecidableEq, Repr

-- The text is a phrase with brackets at most `depth` deep around these literals.
inductive Derives (separator : Separator) : Phrase → Nat → Text → List Literal → Prop where
  | literal (depth : Nat) {read : Literal} (valid : read.WellFormed separator)
      (valued : read.HasValue) : Derives separator .operand depth read.spelling [read]
  | group {depth : Nat} {text : Text} {found : List Literal}
      (inner : Derives separator .sum depth text found) :
      Derives separator .operand (depth + 1) ('(' :: text ++ [')']) found
  | single {depth : Nat} {before text behind : Text} {found : List Literal}
      (front : Text.AllBlank before) (only : Derives separator .operand depth text found)
      (back : Text.AllBlank behind) :
      Derives separator .sum depth (before ++ (text ++ behind)) found
  | plus {depth : Nat} {before first afterFirst beforeSecond second behind : Text}
      {left right : List Literal} (front : Text.AllBlank before)
      (lhs : Derives separator .operand depth first left) (gapLeft : Text.AllBlank afterFirst)
      (gapRight : Text.AllBlank beforeSecond)
      (rhs : Derives separator .operand depth second right) (back : Text.AllBlank behind) :
      Derives separator .sum depth
        (before ++ (first ++ (afterFirst ++ '+' :: (beforeSecond ++ (second ++ behind)))))
        (left ++ right)

namespace Piece

theorem member_induction {P : Piece → Prop} (literal : ∀ read, P (.literal read))
    (blanks : ∀ run, P (.blanks run)) (plus : P .plus) (minus : P .minus)
    (group : ∀ inner, (∀ piece ∈ inner, P piece) → P (.group inner)) (piece : Piece) :
    P piece := by
  cases piece with
  | literal read => exact literal read
  | blanks run => exact blanks run
  | plus => exact plus
  | minus => exact minus
  | group inner =>
      exact group inner fun piece member =>
        member_induction literal blanks plus minus group piece
termination_by sizeOf piece
decreasing_by
  have smaller := List.sizeOf_lt_of_mem member
  simp only [Piece.group.sizeOf_spec]
  omega

end Piece

namespace Node

theorem sums_cases {nodes : List Node} {values : List Length} (sums : Sums nodes values) :
    (∃ node, nodes = [node]) ∨
      ∃ lhs operator rhs left right, nodes = [lhs, operator, rhs] ∧ Sums [lhs] left ∧
        operator.label.kind = .plus ∧ Sums [rhs] right ∧ values = left ++ right := by
  cases sums with
  | literal label value => exact Or.inl ⟨_, rfl⟩
  | group label inner => exact Or.inl ⟨_, rfl⟩
  | plus first sign second => exact Or.inr ⟨_, _, _, _, _, rfl, first, sign, second, rfl⟩

end Node

namespace Piece

-- If the node of this piece is one operand of a sum, the piece is spelled as an operand.
def OperandDerives (separator : Separator) (piece : Piece) : Prop :=
  ∀ position depth values, piece.Sound separator → piece.depth ≤ depth →
    Node.Sums [node position piece] values →
      ∃ found, Derives separator .operand depth piece.spelling found ∧
        values = found.map Literal.worth

theorem plus_of_kind {position : Nat} {piece : Piece} (solid : ¬ piece.IsBlanks)
    (sign : (node position piece).label.kind = .plus) : piece = .plus := by
  cases piece with
  | literal read =>
      rw [node_literal] at sign
      exact absurd sign (not_value_kind (literal_kind_value read) rfl)
  | blanks run => exact absurd trivial solid
  | plus => rfl
  | minus =>
      rw [node_minus] at sign
      exact absurd sign nofun
  | group inner =>
      rw [node_group] at sign
      exact absurd sign nofun

theorem pieces_derive {separator : Separator} {position depth : Nat} {pieces : List Piece}
    {values : List Length} (greedy : Greedy separator pieces)
    (operands : ∀ piece ∈ pieces, OperandDerives separator piece)
    (shallow : deepest pieces ≤ depth) (sums : Node.Sums (nodes position pieces) values) :
    ∃ found, Derives separator .sum depth (spell pieces) found ∧
      values = found.map Literal.worth := by
  rcases Node.sums_cases sums with ⟨only, single⟩ | ⟨lhs, operator, rhs, left, right, three, parts⟩
  · rw [single] at sums
    obtain ⟨run, piece, rest, lead⟩ := nodes_cons greedy single
    have back := nodes_nil lead.greedy lead.others_eq.symm
    have bound := lead.shallow
    rw [lead.first_eq] at sums
    obtain ⟨found, operand, same⟩ := operands piece lead.member _ depth values lead.sound
      (by omega) sums
    rw [lead.spelled]
    exact ⟨found, .single lead.blank operand back, same⟩
  · obtain ⟨first, sign, second, rfl⟩ := parts
    obtain ⟨run, piece, rest, lead⟩ := nodes_cons greedy three
    obtain ⟨gapLeft, middle, afterSign, mid⟩ := nodes_cons lead.greedy lead.others_eq.symm
    obtain ⟨gapRight, last, tail, trail⟩ := nodes_cons mid.greedy mid.others_eq.symm
    have back := nodes_nil trail.greedy trail.others_eq.symm
    have boundFirst := lead.shallow
    have boundMiddle := mid.shallow
    have boundLast := trail.shallow
    rw [mid.first_eq] at sign
    obtain rfl := plus_of_kind mid.solid sign
    rw [lead.first_eq] at first
    rw [trail.first_eq] at second
    obtain ⟨leftFound, lhsDerived, rfl⟩ := operands piece lead.member _ depth left lead.sound
      (by omega) first
    have inside := lead.within last (mid.within last trail.member)
    obtain ⟨rightFound, rhsDerived, rfl⟩ := operands last inside _ depth right trail.sound
      (by omega) second
    simp only [lead.spelled, mid.spelled, trail.spelled, spelling, List.cons_append,
      List.nil_append]
    exact ⟨leftFound ++ rightFound,
      .plus lead.blank lhsDerived mid.blank trail.blank rhsDerived back, List.map_append.symm⟩

theorem operand_derives (separator : Separator) (piece : Piece) :
    OperandDerives separator piece := by
  induction piece using member_induction with
  | literal read =>
      intro position depth values sound shallow sums
      rw [node_literal] at sums
      cases sums with
      | literal => exact ⟨[read], .literal depth sound.1 sound.2, rfl⟩
  | blanks run =>
      intro position depth values sound shallow sums
      simp [node, token, Token.bare, Node.ofToken, Kind.isValue] at sums
      cases sums
  | plus =>
      intro position depth values sound shallow sums
      rw [node_plus] at sums
      cases sums
  | minus =>
      intro position depth values sound shallow sums
      rw [node_minus] at sums
      cases sums
  | group inner ih =>
      intro position depth values sound shallow sums
      rw [node_group] at sums
      cases sums with
      | group label inside =>
          cases depth with
          | zero => simp [Piece.depth] at shallow
          | succ below =>
              obtain ⟨found, derived, same⟩ := pieces_derive sound ih
                (Nat.le_of_succ_le_succ shallow) inside
              exact ⟨found, .group derived, same⟩

theorem nodes_of_blanks (position : Nat) (run : Text) (rest : List Piece) :
    nodes position (ofBlanks run ++ rest) = nodes (position + run.length) rest := by
  unfold ofBlanks
  split
  · rename_i empty
    rw [empty, List.nil_append]
    rfl
  · exact nodes_blanks position run rest

-- An operand as one piece, which blanks can stand in front of and whose node has the values of
-- the literals.
structure Operand (separator : Separator) (depth : Nat) (text : Text) (found : List Literal)
    (piece : Piece) : Prop where
  solid : ¬ piece.IsBlanks
  sound : piece.Sound separator
  spelled : piece.spelling = text
  shallow : piece.depth ≤ depth
  stops : ∀ rest, Text.Stops Text.isBlank (piece.spelling ++ rest)
  ends : ∀ gap rest, Text.AllBlank gap → Text.Stops Text.isBlank rest →
    Text.Stops Char.isDigit rest → piece.lexeme.EndsBefore separator (gap ++ rest)
  sums : ∀ position, Node.Sums [node position piece] (found.map Literal.worth)

-- A sum as the pieces of one level.
structure Level (separator : Separator) (depth : Nat) (text : Text) (found : List Literal)
    (pieces : List Piece) : Prop where
  greedy : Greedy separator pieces
  spelled : spell pieces = text
  shallow : deepest pieces ≤ depth
  sums : ∀ position, Node.Sums (nodes position pieces) (found.map Literal.worth)

def Realised (separator : Separator) (depth : Nat) (text : Text) (found : List Literal) :
    Phrase → Prop
  | .operand => ∃ piece, Operand separator depth text found piece
  | .sum => ∃ pieces, Level separator depth text found pieces

theorem literal_operand {separator : Separator} (depth : Nat) {read : Literal}
    (valid : read.WellFormed separator) (valued : read.HasValue) :
    Operand separator depth read.spelling [read] (.literal read) := by
  constructor
  case solid => exact id
  case sound => exact ⟨valid, valued⟩
  case spelled => rfl
  case shallow => exact Nat.zero_le depth
  case stops => exact Literal.spelling_stops valid
  case ends =>
    intro gap rest blank stop noDigit
    cases read with
    | feetOnly feet => exact Literal.read_inches_none blank stop (InchPart.read_none_of_stops noDigit)
    | inchesOnly part => trivial
    | fractionOnly fraction => trivial
    | feetInches feet gap part => trivial
  case sums =>
    intro position
    rw [node_literal]
    exact .literal _ _

theorem group_operand {separator : Separator} {depth : Nat} {text : Text} {found : List Literal}
    {inner : List Piece} (level : Level separator depth text found inner) :
    Operand separator (depth + 1) ('(' :: text ++ [')']) found (.group inner) := by
  constructor
  case solid => exact id
  case sound => exact level.greedy
  case spelled => rw [spelling, level.spelled]
  case shallow => exact Nat.succ_le_succ level.shallow
  case stops => exact fun rest => rfl
  case ends => exact fun gap rest blank stop noDigit => trivial
  case sums =>
    intro position
    rw [node_group]
    exact .group _ (level.sums (position + 1))

theorem operand_greedy {separator : Separator} {depth : Nat} {text gap : Text}
    {found : List Literal} {piece : Piece} {rest : List Piece}
    (operand : Operand separator depth text found piece) (blank : Text.AllBlank gap)
    (stop : Text.Stops Text.isBlank (spell rest)) (noDigit : Text.Stops Char.isDigit (spell rest))
    (greedy : Greedy separator rest) : Greedy separator (piece :: (ofBlanks gap ++ rest)) := by
  refine ⟨operand.sound, ?_, greedy_of_blanks blank stop greedy⟩
  rw [spell_of_blanks]
  exact operand.ends gap (spell rest) blank stop noDigit

theorem single_level {separator : Separator} {depth : Nat} {before text behind : Text}
    {found : List Literal} {piece : Piece} (front : Text.AllBlank before)
    (operand : Operand separator depth text found piece) (back : Text.AllBlank behind) :
    Level separator depth (before ++ (text ++ behind)) found
      (ofBlanks before ++ piece :: (ofBlanks behind ++ [])) := by
  constructor
  case greedy =>
    apply greedy_of_blanks front
    · rw [spell]
      exact operand.stops _
    · exact operand_greedy operand back trivial trivial trivial
  case spelled =>
    rw [spell_of_blanks, spell, spell_of_blanks, spell, operand.spelled, List.append_nil]
  case shallow =>
    have bound := operand.shallow
    rw [deepest_of_blanks, deepest, deepest_of_blanks, deepest]
    omega
  case sums =>
    intro position
    rw [nodes_of_blanks, nodes_solid _ _ operand.solid, nodes_of_blanks]
    exact operand.sums _

theorem plus_level {separator : Separator} {depth : Nat}
    {before first afterFirst beforeSecond second behind : Text} {left right : List Literal}
    {lhs rhs : Piece} (front : Text.AllBlank before)
    (operand : Operand separator depth first left lhs) (gapLeft : Text.AllBlank afterFirst)
    (gapRight : Text.AllBlank beforeSecond) (other : Operand separator depth second right rhs)
    (back : Text.AllBlank behind) :
    Level separator depth
      (before ++ (first ++ (afterFirst ++ '+' :: (beforeSecond ++ (second ++ behind)))))
      (left ++ right)
      (ofBlanks before ++ lhs :: (ofBlanks afterFirst ++ .plus ::
        (ofBlanks beforeSecond ++ rhs :: (ofBlanks behind ++ [])))) := by
  have second : Greedy separator (ofBlanks beforeSecond ++ rhs :: (ofBlanks behind ++ [])) := by
    apply greedy_of_blanks gapRight
    · rw [spell]
      exact other.stops _
    · exact operand_greedy other back trivial trivial trivial
  constructor
  case greedy =>
    apply greedy_of_blanks front
    · rw [spell]
      exact operand.stops _
    · exact operand_greedy operand gapLeft rfl rfl ⟨trivial, trivial, second⟩
  case spelled =>
    have alone : spell (ofBlanks behind ++ []) = behind := by
      rw [spell_of_blanks, spell, List.append_nil]
    rw [spell_of_blanks, spell, spell_of_blanks, spell, spell_of_blanks, spell, alone,
      operand.spelled, other.spelled]
    rfl
  case shallow =>
    have bound := operand.shallow
    have otherBound := other.shallow
    simp only [deepest_of_blanks, deepest, Piece.depth]
    omega
  case sums =>
    intro position
    rw [nodes_of_blanks, nodes_solid _ _ operand.solid, nodes_of_blanks, nodes_solid _ _ id,
      nodes_of_blanks, nodes_solid _ _ other.solid, nodes_of_blanks, List.map_append]
    apply Node.Sums.plus (operand.sums _) _ (other.sums _)
    rw [node_plus]
    rfl

theorem derives_realised {separator : Separator} {phrase : Phrase} {depth : Nat} {text : Text}
    {found : List Literal} (derived : Derives separator phrase depth text found) :
    Realised separator depth text found phrase := by
  induction derived with
  | literal depth valid valued => exact ⟨_, literal_operand depth valid valued⟩
  | group inner ih =>
      obtain ⟨pieces, level⟩ := ih
      exact ⟨.group pieces, group_operand level⟩
  | single front only back ih =>
      obtain ⟨piece, operand⟩ := ih
      exact ⟨_, single_level front operand back⟩
  | plus front lhs gapLeft gapRight rhs back left right =>
      obtain ⟨first, operand⟩ := left
      obtain ⟨second, other⟩ := right
      exact ⟨_, plus_level front operand gapLeft gapRight other back⟩

mutual
theorem sound_regular {separator : Separator} (piece : Piece) (sound : piece.Sound separator)
    (position : Nat) : (node position piece).Regular := by
  cases piece with
  | literal read =>
      rw [node_literal]
      exact read.worth_normal
  | blanks run => simp [node, token, Token.bare, Node.ofToken, Kind.isValue, Node.Regular]
  | plus =>
      rw [node_plus]
      trivial
  | minus =>
      rw [node_minus]
      trivial
  | group inner =>
      rw [node_group]
      exact greedy_regular inner sound (position + 1)
theorem greedy_regular {separator : Separator} (pieces : List Piece)
    (greedy : Greedy separator pieces) (position : Nat) :
    Node.RegularLevel (nodes position pieces) := by
  cases pieces with
  | nil => trivial
  | cons piece rest =>
      obtain ⟨sound, -, others⟩ := greedy
      by_cases solid : piece.IsBlanks
      · obtain ⟨run, rfl⟩ := blanks_form solid
        rw [nodes_blanks]
        exact greedy_regular rest others _
      · rw [nodes_solid position rest solid]
        exact ⟨sound_regular piece sound position, greedy_regular rest others _⟩
end

end Piece

theorem tokens_regular {separator : Separator} {text : Text} {tokens : List Token}
    (scanned : tokenize separator text = .ok tokens) :
    Node.RegularLevel (Node.ofTokens tokens) := by
  obtain ⟨pieces, greedy, -, -, rfl⟩ := Piece.tokenize_iff.mp scanned
  exact Piece.greedy_regular pieces greedy 0

theorem measure_scanned {separator : Separator} {text : Text} {tokens : List Token}
    (scanned : tokenize separator text = .ok tokens) :
    measure separator text = (evaluate tokens).mapError (Fault.map .eval) := by
  rw [measure, scanned]

theorem measure_of_sums {separator : Separator} {text : Text} {tokens : List Token}
    {values : List Length} (scanned : tokenize separator text = .ok tokens)
    (sums : Node.Sums (Node.ofTokens tokens) values) :
    measure separator text = .ok (Length.sum values) := by
  have result := Node.sums_result sums (tokens_regular scanned)
  rw [measure_scanned scanned, evaluate, Run.ofTokens, result]
  rfl

theorem measure_of_fails {separator : Separator} {text : Text} {tokens : List Token}
    {fault : Fault EvalError} (scanned : tokenize separator text = .ok tokens)
    (fails : Node.Fails (Node.ofTokens tokens) fault) :
    measure separator text = .error (fault.map .eval) := by
  have result := Node.fails_result fails (tokens_regular scanned)
  rw [measure_scanned scanned, evaluate, Run.ofTokens, result]
  rfl

theorem measure_ok_sums {separator : Separator} {text : Text} {length : Length}
    (measured : measure separator text = .ok length) :
    ∃ tokens values, tokenize separator text = .ok tokens ∧
      Node.Sums (Node.ofTokens tokens) values ∧ length = Length.sum values := by
  cases scanned : tokenize separator text with
  | error cause => simp [measure, scanned] at measured
  | ok tokens =>
      rcases Node.level_outcome _ (tokens_regular scanned) with ⟨values, sums⟩ | ⟨fault, fails⟩
      · rw [measure_of_sums scanned sums] at measured
        exact ⟨tokens, values, rfl, sums, (Except.ok.inj measured).symm⟩
      · rw [measure_of_fails scanned fails] at measured
        exact absurd measured nofun

theorem measure_normal {separator : Separator} {text : Text} {length : Length}
    (measured : measure separator text = .ok length) : length.Normal := by
  obtain ⟨tokens, values, scanned, sums, rfl⟩ := measure_ok_sums measured
  exact Length.sum_normal (Node.sums_normal sums (tokens_regular scanned))

theorem measure_error_fails {separator : Separator} {text : Text} {fault : Fault ExprError}
    (failed : measure separator text = .error fault) :
    (∃ cause, tokenize separator text = .error cause ∧ fault = .error (.parse cause)) ∨
      ∃ tokens inner, tokenize separator text = .ok tokens ∧
        Node.Fails (Node.ofTokens tokens) inner ∧ fault = inner.map .eval := by
  cases scanned : tokenize separator text with
  | error cause =>
      simp only [measure, scanned, Except.error.injEq] at failed
      exact Or.inl ⟨cause, rfl, failed.symm⟩
  | ok tokens =>
      rcases Node.level_outcome _ (tokens_regular scanned) with ⟨values, sums⟩ | ⟨inner, fails⟩
      · rw [measure_of_sums scanned sums] at failed
        exact absurd failed nofun
      · rw [measure_of_fails scanned fails] at failed
        exact Or.inr ⟨tokens, inner, rfl, fails, (Except.error.inj failed).symm⟩

theorem measure_iff_derives (separator : Separator) (text : Text) (length : Length) :
    measure separator text = .ok length ↔
      ∃ found, Derives separator .sum Nesting.maxDepth text found ∧
        length = Length.sum (found.map Literal.worth) := by
  constructor
  · intro measured
    obtain ⟨tokens, values, scanned, sums, rfl⟩ := measure_ok_sums measured
    obtain ⟨pieces, greedy, shallow, rfl, rfl⟩ := Piece.tokenize_iff.mp scanned
    obtain ⟨found, derived, rfl⟩ := Piece.pieces_derive greedy
      (fun piece member => Piece.operand_derives separator piece) shallow sums
    exact ⟨found, derived, rfl⟩
  · rintro ⟨found, derived, rfl⟩
    obtain ⟨pieces, level⟩ := Piece.derives_realised derived
    have scanned : tokenize separator text = .ok (Piece.tokens 0 pieces) :=
      Piece.tokenize_iff.mpr ⟨pieces, level.greedy, level.shallow, level.spelled, rfl⟩
    exact measure_of_sums scanned (level.sums 0)

theorem measure_single {separator : Separator} {read : Literal}
    (valid : read.WellFormed separator) (valued : read.HasValue) :
    measure separator read.spelling = .ok read.worth := by
  have operand : Derives separator .operand Nesting.maxDepth read.spelling [read] :=
    .literal _ valid valued
  have alone := Derives.single Text.empty_blank operand Text.empty_blank
  rw [List.nil_append, List.append_nil] at alone
  refine (measure_iff_derives separator read.spelling read.worth).mpr ⟨[read], alone, ?_⟩
  rw [List.map_singleton, Length.sum_single read.worth_normal]

theorem total_of_worth (found : List Literal) :
    (Length.sum (found.map Literal.worth)).totalSixteenths = ((found.map Literal.total).sum : Nat) := by
  rw [Length.sum_total]
  induction found with
  | nil => rfl
  | cons read rest ih =>
      simp only [List.map_cons, List.sum_cons, Literal.worth_total, Int.natCast_add, ih]

-- The normal length is unique, because a normal length is determined by its total.
theorem measure_eq_ok_iff_sum (separator : Separator) (text : Text) (length : Length) :
    measure separator text = .ok length ↔
      ∃ found, Derives separator .sum 32 text found ∧ length.Normal ∧
        length.totalSixteenths = ((found.map Literal.total).sum : Nat) := by
  rw [measure_iff_derives]
  apply exists_congr
  intro found
  apply and_congr_right
  intro derived
  have normal : (Length.sum (found.map Literal.worth)).Normal := by
    apply Length.sum_normal
    intro value member
    obtain ⟨read, -, rfl⟩ := List.mem_map.mp member
    exact read.worth_normal
  constructor
  · rintro rfl
    exact ⟨normal, total_of_worth found⟩
  · rintro ⟨lengthNormal, total⟩
    exact Length.normal_of_total _ _ lengthNormal normal (total.trans (total_of_worth found).symm)

end TapeMeasure
