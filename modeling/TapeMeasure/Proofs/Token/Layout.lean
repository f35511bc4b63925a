import TapeMeasure.Proofs.Token.Piece

/- Where tokens stand. The tokens of a text spell it without a gap, on every level and each at the
   place that its position names, and the kind of a token settles what it holds. -/
set_option autoImplicit false

namespace TapeMeasure

namespace Token

-- The token is one of these, or one inside a group among them.
inductive Occurs (token : Token) : List Token → Prop where
  | here {tokens : List Token} (member : token ∈ tokens) : Occurs token tokens
  | inside {tokens : List Token} {group : Token} (member : group ∈ tokens)
      (inner : Occurs token group.nodes) : Occurs token tokens

theorem occurs_nil {token : Token} : ¬ Occurs token [] := by
  intro occurs
  cases occurs with
  | here member => exact absurd member nofun
  | inside member inner => exact absurd member nofun

theorem occurs_cons {token first : Token} {rest : List Token} :
    Occurs token (first :: rest) ↔
      (token = first ∨ Occurs token first.nodes) ∨ Occurs token rest := by
  constructor
  · intro occurs
    cases occurs with
    | here member =>
        cases List.mem_cons.mp member with
        | inl same => exact Or.inl (Or.inl same)
        | inr later => exact Or.inr (.here later)
    | inside member inner =>
        cases List.mem_cons.mp member with
        | inl same =>
            rw [same] at inner
            exact Or.inl (Or.inr inner)
        | inr later => exact Or.inr (.inside later inner)
  · intro occurs
    cases occurs with
    | inl front =>
        cases front with
        | inl same =>
            rw [same]
            exact .here List.mem_cons_self
        | inr inner => exact .inside List.mem_cons_self inner
    | inr later =>
        cases later with
        | here member => exact .here (List.mem_cons_of_mem _ member)
        | inside member inner => exact .inside (List.mem_cons_of_mem _ member) inner

def spell : List Token → Text
  | [] => []
  | token :: rest => token.label.text ++ spell rest

-- In a row that begins at `start`, every token stands behind the texts of those in front of it.
def Placed (start : Int) (row : List Token) : Prop :=
  ∀ front token behind, row = front ++ token :: behind →
    token.label.position = start + (spell front).length

-- What a token holds, by its kind.
def Formed (token : Token) : Prop :=
  match token.label.kind with
  | .plus => token.label.text = ['+'] ∧ token.value = none ∧ token.nodes = []
  | .minus => token.label.text = ['-'] ∧ token.value = none ∧ token.nodes = []
  | .whitespace => token.value = none ∧ token.nodes = []
  | .paren =>
      token.label.text = '(' :: spell token.nodes ++ [')'] ∧ token.value = none ∧
        Placed (token.label.position + 1) token.nodes
  | _ => (∃ value, token.value = some value ∧ value.Normal) ∧ token.nodes = []

end Token

namespace Text

-- The piece is what the text has at this position.
def HasAt (text : Text) (position : Int) (piece : Text) : Prop :=
  ∃ before behind, text = before ++ (piece ++ behind) ∧ position = before.length

theorem has_at_inside {text front piece behind : Text} {position : Int}
    (outer : HasAt text position (front ++ (piece ++ behind))) :
    HasAt text (position + front.length) piece := by
  obtain ⟨before, after, spelled, place⟩ := outer
  refine ⟨before ++ front, behind ++ after, ?_, ?_⟩
  · rw [spelled]
    simp only [List.append_assoc]
  · rw [place, List.length_append, Int.natCast_add]

end Text

namespace Piece

theorem token_text (position : Nat) (piece : Piece) :
    (piece.token position).label.text = piece.spelling := by
  cases piece with
  | group inner => rw [token, spelling, Token.group]
  | _ => rfl

theorem token_position (position : Nat) (piece : Piece) :
    (piece.token position).label.position = position := by
  cases piece with
  | group inner => rw [token, Token.group]
  | _ => rfl

theorem group_nodes (position : Nat) (inner : List Piece) :
    ((group inner).token position).nodes = tokens (position + 1) inner := by
  rw [token, Token.group]

theorem spell_tokens (position : Nat) (pieces : List Piece) :
    Token.spell (tokens position pieces) = spell pieces := by
  induction pieces generalizing position with
  | nil => rfl
  | cons piece rest ih => rw [tokens, Token.spell, spell, token_text, ih]

-- A token among the tokens of pieces is that of one piece, and stands where the pieces in front of
-- it end.
theorem tokens_split {position : Nat} {pieces : List Piece} {front behind : List Token}
    {found : Token} (same : tokens position pieces = front ++ found :: behind) :
    ∃ before piece after, pieces = before ++ piece :: after ∧ front = tokens position before ∧
      found = piece.token (position + (spell before).length) := by
  induction front generalizing position pieces with
  | nil =>
      cases pieces with
      | nil => exact absurd same nofun
      | cons piece rest => exact ⟨[], piece, rest, rfl, rfl, (List.cons.inj same).1.symm⟩
  | cons first others ih =>
      cases pieces with
      | nil => exact absurd same nofun
      | cons head rest =>
          obtain ⟨headToken, later⟩ := List.cons.inj same
          obtain ⟨before, piece, after, rfl, rfl, rfl⟩ := ih later
          refine ⟨head :: before, piece, after, rfl, ?_, ?_⟩
          · rw [tokens, headToken]
          · rw [spell, List.length_append, Nat.add_assoc]

theorem tokens_placed (position : Nat) (pieces : List Piece) :
    Token.Placed position (tokens position pieces) := by
  intro front found behind same
  obtain ⟨before, piece, after, -, rfl, rfl⟩ := tokens_split same
  rw [token_position, spell_tokens, Int.natCast_add]

theorem literal_formed (position : Nat) (read : Literal) :
    (Piece.literal read).token position |>.Formed := by
  have value : ∃ value, some read.worth = some value ∧ value.Normal :=
    ⟨read.worth, rfl, read.worth_normal⟩
  cases read with
  | feetOnly feet => exact ⟨value, rfl⟩
  | inchesOnly part => cases part <;> exact ⟨value, rfl⟩
  | fractionOnly fraction => exact ⟨value, rfl⟩
  | feetInches feet gap part => cases part <;> exact ⟨value, rfl⟩

theorem token_formed (position : Nat) (piece : Piece) : (piece.token position).Formed := by
  cases piece with
  | literal read => exact literal_formed position read
  | blanks run => exact ⟨rfl, rfl⟩
  | plus => exact ⟨rfl, rfl, rfl⟩
  | minus => exact ⟨rfl, rfl, rfl⟩
  | group inner =>
      rw [token]
      refine ⟨?_, rfl, tokens_placed (position + 1) inner⟩
      exact congrArg (fun inside => '(' :: inside ++ [')']) (spell_tokens (position + 1) inner).symm

-- The invariant of the way down: what the pieces of a level spell stands in the text where the
-- level begins.
theorem occurs_piece {separator : Separator} {text : Text} {found : Token} {row : List Token}
    (occurs : Token.Occurs found row) :
    ∀ (position : Nat) (pieces : List Piece), row = tokens position pieces →
      Greedy separator pieces → Text.HasAt text position (spell pieces) →
      ∃ (place : Nat) (piece : Piece), piece.Sound separator ∧ found = piece.token place ∧
        Text.HasAt text place piece.spelling := by
  induction occurs with
  | here member =>
      rintro position pieces rfl greedy within
      obtain ⟨front, behind, same⟩ := List.append_of_mem member
      obtain ⟨before, piece, after, rfl, -, rfl⟩ := tokens_split same
      obtain ⟨sound, -, -⟩ := greedy_behind greedy
      rw [spell_append, spell] at within
      exact ⟨_, piece, sound, rfl, Text.has_at_inside within⟩
  | inside member inner ih =>
      rintro position pieces rfl greedy within
      obtain ⟨front, behind, same⟩ := List.append_of_mem member
      obtain ⟨before, piece, after, rfl, -, rfl⟩ := tokens_split same
      obtain ⟨sound, -, -⟩ := greedy_behind greedy
      cases piece with
      | group inside =>
          have spelled : spell (before ++ group inside :: after) =
              (spell before ++ ['(']) ++ (spell inside ++ (')' :: spell after)) := by
            simp [spell_append, spell, spelling]
          rw [spelled] at within
          have deeper := Text.has_at_inside within
          rw [List.length_append, Int.natCast_add, ← Int.add_assoc] at deeper
          exact ih _ inside (group_nodes _ inside) sound deeper
      | _ => exact absurd inner Token.occurs_nil

theorem token_stands {separator : Separator} {text : Text} {found : Token} {row : List Token}
    (occurs : Token.Occurs found row) :
    ∀ (position : Nat) (pieces : List Piece), row = tokens position pieces →
      Greedy separator pieces → Text.HasAt text position (spell pieces) →
      found.label.text ≠ [] ∧ Text.HasAt text found.label.position found.label.text ∧
        found.Formed := by
  intro position pieces same greedy within
  obtain ⟨place, piece, sound, rfl, stands⟩ :=
    occurs_piece occurs position pieces same greedy within
  rw [token_text, token_position]
  refine ⟨?_, stands, token_formed place piece⟩
  obtain ⟨c, tail, spelled⟩ := sound_spelling sound
  rw [spelled]
  exact nofun

end Piece

theorem scanned_stands {separator : Separator} {text : Text} {tokens : List Token}
    (scanned : tokenize separator text = .ok tokens) {token : Token}
    (occurs : Token.Occurs token tokens) :
    token.label.text ≠ [] ∧ Text.HasAt text token.label.position token.label.text ∧
      token.Formed := by
  obtain ⟨pieces, greedy, -, rfl, rfl⟩ := Piece.tokenize_iff.mp scanned
  exact Piece.token_stands occurs 0 pieces rfl greedy ⟨[], [], by simp, rfl⟩

-- Only in a text of more than ten to the 4300 characters is there a place with too many digits.
theorem position_writable {separator : Separator} {text : Text} {tokens : List Token}
    (scanned : tokenize separator text = .ok tokens) {token : Token}
    (occurs : Token.Occurs token tokens)
    (short : text.length ≤ Nat.pow 10 Decimal.maxDigits) :
    Decimal.Writable token.label.position := by
  obtain ⟨notEmpty, ⟨before, behind, spelled, place⟩, -⟩ := scanned_stands scanned occurs
  have filled := List.length_pos_iff.mpr notEmpty
  have counted := congrArg List.length spelled
  rw [List.length_append, List.length_append] at counted
  rw [Decimal.writable_iff, place]
  omega

theorem tokenize_lossless {separator : Separator} {text : Text} {tokens : List Token}
    (scanned : tokenize separator text = .ok tokens) :
    Token.spell tokens = text ∧ Token.Placed 0 tokens ∧
      ∀ token, Token.Occurs token tokens →
        token.label.text ≠ [] ∧ Text.HasAt text token.label.position token.label.text ∧
          token.Formed := by
  have stands : ∀ token, Token.Occurs token tokens → _ :=
    fun token occurs => scanned_stands scanned occurs
  obtain ⟨pieces, -, -, rfl, rfl⟩ := Piece.tokenize_iff.mp scanned
  exact ⟨Piece.spell_tokens 0 pieces, Piece.tokens_placed 0 pieces, stands⟩

theorem foot_and_two_in_brackets_lossless :
    ∃ tokens, tokenize .required "(1'+2\")".toList = .ok tokens ∧
      Token.spell tokens = "(1'+2\")".toList ∧ Token.Placed 0 tokens ∧
      ∀ token, Token.Occurs token tokens →
        token.label.text ≠ [] ∧
          Text.HasAt "(1'+2\")".toList token.label.position token.label.text ∧ token.Formed := by
  have one : Text.DigitGroup ['1'] := by decide
  have two : InchPart.WellFormed (.whole ['2']) := ⟨by decide, nofun⟩
  have greedy : Piece.Greedy .required
      [.group [.literal (.feetOnly ['1']), .plus, .literal (.inchesOnly (.whole ['2']))]] :=
    ⟨⟨⟨one, by decide, nofun⟩, rfl, trivial, trivial, ⟨two, by decide, nofun⟩, trivial, trivial⟩,
      trivial, trivial⟩
  have scanned : tokenize .required "(1'+2\")".toList = .ok (Piece.tokens 0 _) :=
    Piece.tokenize_iff.mpr ⟨_, greedy, by decide, rfl, rfl⟩
  exact ⟨_, scanned, tokenize_lossless scanned⟩

end TapeMeasure
