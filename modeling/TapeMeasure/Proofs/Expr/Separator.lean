import TapeMeasure.Proofs.Expr.ReadBack
import TapeMeasure.Proofs.Token.Tight

/- Values under the two separators. Where blanks are required, the two literals that a tight one
   falls into make one node more, and a level with a node more has a wrong number of them: two or
   four nodes, or five if both operands fall apart. -/
set_option autoImplicit false

namespace TapeMeasure

-- The complaint about a level with one or two nodes more than it can have.
def EvalError.Crowded : EvalError → Prop
  | .malformed _ => True
  | .unsupportedArity level => level.length = 5
  | _ => False

namespace Node

theorem crowded_fails {nodes : List Node}
    (many : nodes.length = 2 ∨ nodes.length = 4 ∨ nodes.length = 5) :
    ∃ cause, cause.Crowded ∧ Fails nodes (.error cause) := by
  refine ⟨wrongCount (nodes.map label), ?_, .count (by omega) (by omega)⟩
  unfold wrongCount
  split
  · trivial
  · rename_i five
    rw [List.length_map] at five
    have count : nodes.length = 5 := by omega
    simp only [EvalError.Crowded, List.length_map, count]

end Node

namespace Piece

-- Taken apart, the level fails for one of these reasons if any literal in it is tight.
def Breaks (pieces : List Piece) : Prop :=
  TightLevel pieces → ∀ position, ∃ cause : EvalError, cause.Crowded ∧
    Node.Fails (nodes position (separateAll pieces)) (.error cause)

-- The nodes of an operand that is taken apart.
inductive Remains (piece : Piece) (values : List Length) : List Node → Prop where
  | whole {node : Node} (loose : ¬ piece.Tight) (sums : Node.Sums [node] values) :
      Remains piece values [node]
  | failing {node : Node} {cause : EvalError} (crowded : cause.Crowded)
      (fails : Node.Fails [node] (.error cause)) : Remains piece values [node]
  | apart (first second : Node) : Remains piece values [first, second]

theorem operand_remains {depth : Nat} {text : Text} {found : List Literal} {piece : Piece}
    (operand : Operand .optional depth text found piece)
    (inside : ∀ inner, piece = .group inner → Breaks inner) (position : Nat)
    (rest : List Piece) :
    ∃ front next, nodes position (piece.separate ++ rest) = front ++ nodes next rest ∧
      Remains piece (found.map Literal.worth) front := by
  by_cases tight : piece.Tight
  · cases piece with
    | literal read =>
        obtain ⟨feet, part, rfl⟩ := Literal.tight_form tight
        have feetNode := nodes_solid position (.literal (.inchesOnly part) :: rest)
          (show ¬ (Piece.literal (.feetOnly feet)).IsBlanks from id)
        rw [nodes_solid _ rest (show ¬ (Piece.literal (.inchesOnly part)).IsBlanks from id)]
          at feetNode
        exact ⟨[_, _], _, feetNode, .apart _ _⟩
    | group inner =>
        obtain ⟨cause, crowded, fails⟩ := inside inner rfl tight (position + 1)
        have groupNode := nodes_solid position rest
          (show ¬ (Piece.group (separateAll inner)).IsBlanks from id)
        refine ⟨[_], _, groupNode, .failing crowded ?_⟩
        rw [node_group]
        exact .group _ fails
    | blanks run => exact absurd tight id
    | plus => exact absurd tight id
    | minus => exact absurd tight id
  · have pieceNode := nodes_solid position rest operand.solid
    rw [separate_loose piece tight]
    exact ⟨[_], _, pieceNode, .whole tight (operand.sums position)⟩

theorem separate_of_blanks (run : Text) (rest : List Piece) :
    separateAll (ofBlanks run ++ rest) = ofBlanks run ++ separateAll rest := by
  unfold ofBlanks
  split <;> rfl

theorem tight_of_blanks (run : Text) (rest : List Piece) :
    TightLevel (ofBlanks run ++ rest) ↔ TightLevel rest := by
  unfold ofBlanks
  split
  · rfl
  · exact or_iff_right id

theorem single_breaks {depth : Nat} {before text behind : Text} {found : List Literal}
    {piece : Piece} (operand : Operand .optional depth text found piece)
    (inside : ∀ inner, piece = .group inner → Breaks inner) :
    Breaks (ofBlanks before ++ piece :: (ofBlanks behind ++ [])) := by
  intro tight position
  rw [tight_of_blanks, TightLevel, tight_of_blanks] at tight
  rw [separate_of_blanks, separateAll, separate_of_blanks, nodes_of_blanks]
  obtain ⟨front, next, level, remains⟩ := operand_remains operand inside
    (position + before.length) (ofBlanks behind ++ separateAll [])
  have ending : nodes next (ofBlanks behind ++ separateAll []) = [] := nodes_of_blanks next behind []
  rw [level, ending, List.append_nil]
  cases remains with
  | whole loose sums => exact absurd (tight.resolve_right id) loose
  | failing crowded fails => exact ⟨_, crowded, fails⟩
  | apart first second => exact Node.crowded_fails (Or.inl rfl)

theorem plus_breaks {depth : Nat}
    {before first afterFirst beforeSecond second behind : Text} {left right : List Literal}
    {lhs rhs : Piece} (operand : Operand .optional depth first left lhs)
    (insideLeft : ∀ inner, lhs = .group inner → Breaks inner)
    (other : Operand .optional depth second right rhs)
    (insideRight : ∀ inner, rhs = .group inner → Breaks inner) :
    Breaks (ofBlanks before ++ lhs :: (ofBlanks afterFirst ++ .plus ::
      (ofBlanks beforeSecond ++ rhs :: (ofBlanks behind ++ [])))) := by
  intro tight position
  simp only [tight_of_blanks, TightLevel, Tight, false_or, or_false] at tight
  simp only [separate_of_blanks, separateAll, separate, nodes_of_blanks, List.cons_append,
    List.nil_append]
  obtain ⟨front, next, level, remains⟩ := operand_remains operand insideLeft
    (position + before.length)
    (ofBlanks afterFirst ++ .plus :: (ofBlanks beforeSecond ++ (rhs.separate ++ ofBlanks behind)))
  rw [List.append_nil, level, nodes_of_blanks, nodes_solid _ _ id, nodes_of_blanks]
  obtain ⟨back, last, levelRight, remainsRight⟩ := operand_remains other insideRight
    (next + afterFirst.length + (spelling .plus).length + beforeSecond.length) (ofBlanks behind)
  have ending := nodes_of_blanks last behind []
  rw [List.append_nil] at ending
  rw [levelRight, ending, node_plus, show nodes (last + behind.length) [] = [] from rfl,
    List.append_nil]
  cases remains with
  | whole loose sums =>
      cases remainsRight with
      | whole looseRight sumsRight => exact absurd tight (not_or.mpr ⟨loose, looseRight⟩)
      | failing crowded fails => exact ⟨_, crowded, .right rfl sums fails⟩
      | apart third fourth => exact Node.crowded_fails (Or.inr (Or.inl rfl))
  | failing crowded fails =>
      cases remainsRight with
      | whole looseRight sumsRight => exact ⟨_, crowded, .left _ rfl fails⟩
      | failing => exact ⟨_, crowded, .left _ rfl fails⟩
      | apart third fourth => exact Node.crowded_fails (Or.inr (Or.inl rfl))
  | apart first second =>
      cases remainsRight with
      | whole looseRight sumsRight => exact Node.crowded_fails (Or.inr (Or.inl rfl))
      | failing => exact Node.crowded_fails (Or.inr (Or.inl rfl))
      | apart third fourth => exact Node.crowded_fails (Or.inr (Or.inr rfl))

-- The pieces of an operand or of a sum, and what becomes of them when they are taken apart.
def Apart (depth : Nat) (text : Text) (found : List Literal) : Phrase → Prop
  | .operand => ∃ piece, Operand .optional depth text found piece ∧
      ∀ inner, piece = .group inner → Breaks inner
  | .sum => ∃ pieces, Level .optional depth text found pieces ∧ Breaks pieces

theorem derives_apart {separator : Separator} {phrase : Phrase} {depth : Nat} {text : Text}
    {found : List Literal} (derived : Derives separator phrase depth text found)
    (optional : separator = .optional) : Apart depth text found phrase := by
  induction derived with
  | literal depth valid valued =>
      rw [optional] at valid
      exact ⟨_, literal_operand depth valid valued, nofun⟩
  | group inner ih =>
      obtain ⟨pieces, level, breaks⟩ := ih
      refine ⟨.group pieces, group_operand level, ?_⟩
      intro others same
      obtain rfl := Piece.group.inj same
      exact breaks
  | single front only back ih =>
      obtain ⟨piece, operand, inside⟩ := ih
      exact ⟨_, single_level front operand back, single_breaks operand inside⟩
  | plus front lhs gapLeft gapRight rhs back left right =>
      obtain ⟨first, operand, insideLeft⟩ := left
      obtain ⟨second, other, insideRight⟩ := right
      exact ⟨_, plus_level front operand gapLeft gapRight other back,
        plus_breaks operand insideLeft other insideRight⟩

end Piece

theorem tokenize_optional {text : Text} {tokens : List Token}
    (scanned : tokenize .required text = .ok tokens) :
    ∃ others, tokenize .optional text = .ok others := by
  obtain ⟨pieces, greedy, shallow, spelled, -⟩ := Piece.tokenize_iff.mp scanned
  obtain ⟨joined, greedyJoined, same, deep⟩ := Piece.rejoin pieces greedy
  rw [← deep] at shallow
  rw [← same] at spelled
  exact ⟨_, Piece.tokenize_iff.mpr ⟨joined, greedyJoined, shallow, spelled, rfl⟩⟩

theorem tokenize_required {text : Text} {tokens : List Token}
    (scanned : tokenize .optional text = .ok tokens) :
    ∃ others, tokenize .required text = .ok others := by
  obtain ⟨pieces, greedy, shallow, spelled, -⟩ := Piece.tokenize_iff.mp scanned
  exact ⟨_, Piece.tokenize_separate greedy shallow spelled⟩

theorem derives_optional {phrase : Phrase} {depth : Nat} {text : Text} {found : List Literal}
    (derived : Derives .required phrase depth text found) :
    Derives .optional phrase depth text found := by
  induction derived with
  | literal depth valid valued => exact .literal depth (Literal.optional_well_formed valid) valued
  | group inner ih => exact .group ih
  | single front only back ih => exact .single front ih back
  | plus front lhs gapLeft gapRight rhs back left right =>
      exact .plus front left gapLeft gapRight right back

theorem measure_optional {text : Text} {length : Length}
    (measured : measure .required text = .ok length) : measure .optional text = .ok length := by
  obtain ⟨found, derived, same⟩ := (measure_iff_derives .required text length).mp measured
  exact (measure_iff_derives .optional text length).mpr ⟨found, derives_optional derived, same⟩

theorem measure_tight {text : Text} {length : Length}
    (measured : measure .optional text = .ok length) :
    ∃ tokens, tokenize .optional text = .ok tokens ∧
      ((∃ token, Token.Occurs token tokens ∧ token.Tight) →
        ∃ cause, measure .required text = .error (.error (.eval cause)) ∧ cause.Crowded) ∧
      ((¬ ∃ token, Token.Occurs token tokens ∧ token.Tight) →
        measure .required text = .ok length) := by
  obtain ⟨found, derived, -⟩ := (measure_iff_derives .optional text length).mp measured
  obtain ⟨pieces, level, breaks⟩ := Piece.derives_apart derived rfl
  have scanned : tokenize .optional text = .ok (Piece.tokens 0 pieces) :=
    Piece.tokenize_iff.mpr ⟨pieces, level.greedy, level.shallow, level.spelled, rfl⟩
  have separated := Piece.tokenize_separate level.greedy level.shallow level.spelled
  refine ⟨Piece.tokens 0 pieces, scanned, ?_, ?_⟩
  · intro tight
    obtain ⟨cause, crowded, fails⟩ :=
      breaks ((Piece.tight_tokens pieces level.greedy 0).mp tight) 0
    exact ⟨cause, measure_of_fails separated fails, crowded⟩
  · intro loose
    rw [Piece.tight_tokens pieces level.greedy 0] at loose
    rw [Piece.separate_all_loose pieces loose] at separated
    rw [← measured]
    simp only [measure, separated, scanned]

theorem required_refines_optional (text : Text) :
    ((∃ tokens, tokenize .required text = .ok tokens) ↔
      ∃ tokens, tokenize .optional text = .ok tokens) ∧
    (∀ length, measure .required text = .ok length → measure .optional text = .ok length) ∧
    (∀ length, measure .optional text = .ok length →
      ∃ tokens, tokenize .optional text = .ok tokens ∧
        ((∃ fault, measure .required text = .error fault) ↔
          ∃ token, Token.Occurs token tokens ∧ token.Tight) ∧
        ∀ fault, measure .required text = .error fault →
          ∃ cause, fault = .error (.eval cause) ∧ cause.Crowded) := by
  refine ⟨⟨?_, ?_⟩, fun length => measure_optional, ?_⟩
  · exact fun ⟨tokens, scanned⟩ => tokenize_optional scanned
  · exact fun ⟨tokens, scanned⟩ => tokenize_required scanned
  · intro length measured
    obtain ⟨tokens, scanned, tight, loose⟩ := measure_tight measured
    refine ⟨tokens, scanned, ⟨?_, ?_⟩, ?_⟩
    · intro ⟨fault, failed⟩
      by_cases some : ∃ token, Token.Occurs token tokens ∧ token.Tight
      · exact some
      · rw [loose some] at failed
        exact absurd failed nofun
    · intro some
      obtain ⟨cause, failed, -⟩ := tight some
      exact ⟨_, failed⟩
    · intro fault failed
      by_cases some : ∃ token, Token.Occurs token tokens ∧ token.Tight
      · obtain ⟨cause, expected, crowded⟩ := tight some
        rw [expected] at failed
        exact ⟨cause, (Except.error.inj failed).symm, crowded⟩
      · rw [loose some] at failed
        exact absurd failed nofun

theorem separators_differ_on_a_foot_and_two :
    measure .required "1' 2\"".toList = .ok ⟨14, 0⟩ ∧
      measure .optional "1' 2\"".toList = .ok ⟨14, 0⟩ ∧
      measure .optional "1'2\"".toList = .ok ⟨14, 0⟩ ∧
      ∃ cause, measure .required "1'2\"".toList = .error (.error (.eval cause)) ∧
        cause.Crowded := by
  have one : Text.DigitGroup ['1'] := ⟨nofun, List.all_eq_true.mp rfl⟩
  have two : InchPart.WellFormed (.whole ['2']) := ⟨⟨nofun, List.all_eq_true.mp rfl⟩, nofun⟩
  have valued (gap : Text) : (Literal.feetInches ['1'] gap (.whole ['2'])).HasValue :=
    Literal.feet_inches_value.mpr ⟨⟨by decide, nofun⟩, ⟨by decide, nofun⟩⟩
  have noBlank : Text.AllBlank [] := nofun
  have spaced : measure .required "1' 2\"".toList = .ok ⟨14, 0⟩ := by
    have valid : (Literal.feetInches ['1'] [' '] (.whole ['2'])).WellFormed .required :=
      ⟨one, Text.space_blank, rfl, two⟩
    exact (measure_iff_derives _ _ _).mpr
      ⟨_, .single noBlank (.literal _ valid (valued _)) noBlank, by decide⟩
  have valid : (Literal.feetInches ['1'] [] (.whole ['2'])).WellFormed .optional :=
    ⟨one, noBlank, rfl, two⟩
  have tight : measure .optional "1'2\"".toList = .ok ⟨14, 0⟩ :=
    (measure_iff_derives _ _ _).mpr
      ⟨_, .single noBlank (.literal _ valid (valued _)) noBlank, by decide⟩
  obtain ⟨-, spacedAlso, -⟩ := required_refines_optional "1' 2\"".toList
  obtain ⟨-, -, apart⟩ := required_refines_optional "1'2\"".toList
  obtain ⟨tokens, scanned, ⟨-, fails⟩, crowded⟩ := apart ⟨14, 0⟩ tight
  have greedy : Piece.Greedy .optional [.literal (.feetInches ['1'] [] (.whole ['2']))] :=
    ⟨⟨valid, valued []⟩, trivial, trivial⟩
  have pieces : tokenize .optional "1'2\"".toList = .ok (Piece.tokens 0 _) :=
    Piece.tokenize_iff.mpr ⟨_, greedy, by decide, rfl, rfl⟩
  rw [scanned] at pieces
  obtain ⟨fault, failed⟩ := fails ⟨_, by
    rw [Except.ok.inj pieces]
    exact .here List.mem_cons_self, Or.inl rfl, ['1'], '2', ['"'], one, rfl, rfl⟩
  obtain ⟨cause, rfl, reason⟩ := crowded fault failed
  exact ⟨spaced, spacedAlso _ spaced, tight, cause, failed, reason⟩

end TapeMeasure
