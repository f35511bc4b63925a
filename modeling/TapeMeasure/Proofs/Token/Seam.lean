import TapeMeasure.Proofs.Token.Canonical

/- One text behind another. The tokens of both together are those of the first and, moved behind
   it, those of the second, exactly if the two rows side by side are tidy. Only blanks that meet at
   the seam, or feet and inches, can make them untidy. -/
set_option autoImplicit false

namespace TapeMeasure

namespace Token

-- Moves a token with all that is inside it.
mutual
def shift (offset : Int) : Token → Token
  | ⟨label, value, nodes⟩ =>
      ⟨{ label with position := label.position + offset }, value, shiftAll offset nodes⟩
def shiftAll (offset : Int) : List Token → List Token
  | [] => []
  | token :: rest => token.shift offset :: shiftAll offset rest
end

theorem shift_kinds (offset : Int) (row : List Token) :
    kinds (shiftAll offset row) = kinds row := by
  induction row with
  | nil => rfl
  | cons token rest ih =>
      have same : (token.shift offset).label.kind = token.label.kind := by
        cases token
        rw [shift]
      rw [kinds] at ih
      rw [shiftAll, kinds, List.map_cons, same, ih]
      rfl

theorem kinds_append (first second : List Token) :
    kinds (first ++ second) = kinds first ++ kinds second := List.map_append

end Token

namespace Piece

mutual
theorem token_shift (offset position : Nat) (piece : Piece) :
    piece.token (position + offset) = (piece.token position).shift offset := by
  cases piece with
  | group inner =>
      have inside := tokens_shift offset (position + 1) inner
      rw [Nat.add_right_comm] at inside
      rw [token, token, inside, Token.group, Token.group, Token.shift, Int.natCast_add]
  | _ => simp only [token, Token.literal, Token.bare, Token.shift, Token.shiftAll, Int.natCast_add]
theorem tokens_shift (offset position : Nat) (pieces : List Piece) :
    tokens (position + offset) pieces = Token.shiftAll offset (tokens position pieces) := by
  cases pieces with
  | nil => rfl
  | cons piece rest =>
      have behind := tokens_shift offset (position + piece.spelling.length) rest
      rw [Nat.add_right_comm] at behind
      rw [tokens, tokens, token_shift, behind, Token.shiftAll]
end

theorem tokens_append (position : Nat) (front rest : List Piece) :
    tokens position (front ++ rest) =
      tokens position front ++ tokens (position + (spell front).length) rest := by
  induction front generalizing position with
  | nil => rfl
  | cons piece tail ih =>
      rw [List.cons_append, tokens, ih, tokens, spell, List.length_append, ← Nat.add_assoc]
      rfl

theorem greedy_append {separator : Separator} {front rest : List Piece}
    (left : Greedy separator front) (right : Greedy separator rest)
    (tidy : Kind.Tidy separator (front.map kind ++ rest.map kind)) :
    Greedy separator (front ++ rest) := by
  obtain ⟨soundLeft, -⟩ := greedy_iff_tidy.mp left
  obtain ⟨soundRight, -⟩ := greedy_iff_tidy.mp right
  rw [← List.map_append] at tidy
  exact greedy_iff_tidy.mpr ⟨List.forall_mem_append.mpr ⟨soundLeft, soundRight⟩, tidy⟩

end Piece

section Seam

variable {separator : Separator} {first second : Text} {left right : List Token}

theorem tokenize_append_tidy (front : tokenize separator first = .ok left)
    (behind : tokenize separator second = .ok right) :
    tokenize separator (first ++ second) = .ok (left ++ Token.shiftAll first.length right) ↔
      Kind.Tidy separator (Token.kinds left ++ Token.kinds right) := by
  constructor
  · intro together
    obtain ⟨scanned, -⟩ := tokenize_scan.mp together
    have tidy := (Token.canonical_iff_scan.mpr scanned).tidy
    rw [Token.kinds_append, Token.shift_kinds] at tidy
    exact tidy
  · intro tidy
    obtain ⟨pieces, greedy, shallow, rfl, rfl⟩ := Piece.tokenize_iff.mp front
    obtain ⟨others, greedyOthers, shallowOthers, rfl, rfl⟩ := Piece.tokenize_iff.mp behind
    rw [Piece.kinds_tokens, Piece.kinds_tokens] at tidy
    have shallowBoth : Piece.deepest (pieces ++ others) ≤ Nesting.maxDepth := by
      rw [Piece.deepest_append]
      exact Nat.max_le.mpr ⟨shallow, shallowOthers⟩
    have moved := Piece.tokens_shift (Piece.spell pieces).length 0 others
    have joined : Piece.tokens 0 pieces ++
        Token.shiftAll (Piece.spell pieces).length (Piece.tokens 0 others) =
          Piece.tokens 0 (pieces ++ others) := by
      rw [Piece.tokens_append, moved]
    exact Piece.tokenize_iff.mpr ⟨pieces ++ others, Piece.greedy_append greedy greedyOthers tidy,
      shallowBoth, Piece.spell_append pieces others, joined⟩

theorem tokenize_append (front : tokenize separator first = .ok left)
    (behind : tokenize separator second = .ok right)
    (blanks : ¬ Kind.BlanksMeet (Token.kinds left) (Token.kinds right))
    (feet : ¬ Kind.FeetMeetInches (Token.kinds left) (Token.kinds right)) :
    tokenize separator (first ++ second) = .ok (left ++ Token.shiftAll first.length right) := by
  obtain ⟨scanned, -⟩ := tokenize_scan.mp front
  obtain ⟨others, -⟩ := tokenize_scan.mp behind
  have tidy := (Token.canonical_iff_scan.mpr scanned).tidy
  have tidyOthers := (Token.canonical_iff_scan.mpr others).tidy
  exact (tokenize_append_tidy front behind).mpr (Kind.tidy_append tidy tidyOthers blanks feet)

end Seam

theorem foot_and_negated_group_joined :
    tokenize .optional "1'".toList = .ok [⟨⟨.feet, 0, ['1', '\'']⟩, some ⟨12, 0⟩, []⟩] ∧
      tokenize .optional "-(2\")".toList =
        .ok [⟨⟨.minus, 0, ['-']⟩, none, []⟩,
          ⟨⟨.paren, 1, ['(', '2', '"', ')']⟩, none,
            [⟨⟨.inches, 2, ['2', '"']⟩, some ⟨2, 0⟩, []⟩]⟩] ∧
      ¬ Kind.BlanksMeet [.feet] [.minus, .paren] ∧ ¬ Kind.FeetMeetInches [.feet] [.minus, .paren] ∧
      tokenize .optional "1'-(2\")".toList =
        .ok [⟨⟨.feet, 0, ['1', '\'']⟩, some ⟨12, 0⟩, []⟩, ⟨⟨.minus, 2, ['-']⟩, none, []⟩,
          ⟨⟨.paren, 3, ['(', '2', '"', ')']⟩, none,
            [⟨⟨.inches, 4, ['2', '"']⟩, some ⟨2, 0⟩, []⟩]⟩] := by
  have two : InchPart.WellFormed (.whole ['2']) := ⟨by decide, nofun⟩
  have foot : Piece.Greedy .optional [.literal (.feetOnly ['1'])] :=
    ⟨⟨show Text.DigitGroup ['1'] by decide, by decide, nofun⟩, rfl, trivial⟩
  have group : Piece.Greedy .optional
      [.minus, .group [.literal (.inchesOnly (.whole ['2']))]] :=
    ⟨trivial, trivial, ⟨⟨two, by decide, nofun⟩, trivial, trivial⟩, trivial, trivial⟩
  have front : tokenize .optional "1'".toList = .ok (Piece.tokens 0 _) :=
    Piece.tokenize_iff.mpr ⟨_, foot, by decide, rfl, rfl⟩
  have behind : tokenize .optional "-(2\")".toList = .ok (Piece.tokens 0 _) :=
    Piece.tokenize_iff.mpr ⟨_, group, by decide, rfl, rfl⟩
  have blanks : ¬ Kind.BlanksMeet [.feet] [.minus, .paren] := fun meet => absurd meet.1 nofun
  have feet : ¬ Kind.FeetMeetInches [.feet] [.minus, .paren] := by
    rintro ⟨-, kind, inches, same⟩
    obtain rfl := Option.some.inj same
    exact inches.elim nofun nofun
  exact ⟨front, behind, blanks, feet, tokenize_append front behind blanks feet⟩

end TapeMeasure
