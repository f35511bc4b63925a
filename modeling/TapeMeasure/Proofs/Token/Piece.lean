import TapeMeasure.Token.Scan
import TapeMeasure.Proofs.Token.Lexeme
import TapeMeasure.Proofs.Token.Worth

/- The pieces of a text, as a tree: a group holds the pieces between its brackets. A scan succeeds
   exactly if the text is spelled by pieces that are all as long as they can be and whose literals
   have values, and its tokens are then the tokens of these pieces. -/
set_option autoImplicit false

namespace TapeMeasure

inductive Piece where
  | literal (read : Literal)
  | blanks (run : Text)
  | plus
  | minus
  | group (inner : List Piece)

namespace Piece

mutual
def spelling : Piece → Text
  | .literal read => read.spelling
  | .blanks run => run
  | .plus => ['+']
  | .minus => ['-']
  | .group inner => '(' :: spell inner ++ [')']
def spell : List Piece → Text
  | [] => []
  | piece :: rest => piece.spelling ++ spell rest
end

def lexeme : Piece → Lexeme
  | .literal read => .literal read
  | .blanks run => .blanks run
  | .plus => .plus
  | .minus => .minus
  | .group inner => .group (spell inner)

mutual
def token (position : Nat) : Piece → Token
  | .literal read => .literal read.kind position read.spelling read.worth
  | .blanks run => .bare .whitespace position run
  | .plus => .bare .plus position ['+']
  | .minus => .bare .minus position ['-']
  | .group inner => .group position ('(' :: spell inner ++ [')']) (tokens (position + 1) inner)
def tokens (position : Nat) : List Piece → List Token
  | [] => []
  | piece :: rest => piece.token position :: tokens (position + piece.spelling.length) rest
end

-- Greedy pieces are the only pieces of their text: each ends where a cut from the front of what
-- is spelled from there on would end.
mutual
def Sound (separator : Separator) : Piece → Prop
  | .literal read => read.WellFormed separator ∧ read.HasValue
  | .blanks run => run ≠ [] ∧ Text.AllBlank run
  | .plus | .minus => True
  | .group inner => Greedy separator inner
def Greedy (separator : Separator) : List Piece → Prop
  | [] => True
  | piece :: rest =>
      piece.Sound separator ∧ piece.lexeme.EndsBefore separator (spell rest) ∧
        Greedy separator rest
end

-- How many groups stand inside one another.
mutual
def depth : Piece → Nat
  | .literal _ | .blanks _ | .plus | .minus => 0
  | .group inner => deepest inner + 1
def deepest : List Piece → Nat
  | [] => 0
  | piece :: rest => max piece.depth (deepest rest)
end

theorem lexeme_spelling (piece : Piece) : piece.lexeme.spelling = piece.spelling := by
  cases piece <;> simp [lexeme, Lexeme.spelling, spelling]

theorem spell_append (front rest : List Piece) : spell (front ++ rest) = spell front ++ spell rest := by
  induction front with
  | nil => simp [spell]
  | cons piece tail ih => simp [spell, ih]

theorem deepest_append (front rest : List Piece) :
    deepest (front ++ rest) = max (deepest front) (deepest rest) := by
  induction front with
  | nil => simp [deepest]
  | cons piece tail ih =>
      rw [List.cons_append, deepest, ih, deepest]
      omega

theorem greedy_behind {separator : Separator} {front rest : List Piece}
    (greedy : Greedy separator (front ++ rest)) : Greedy separator rest := by
  induction front with
  | nil => exact greedy
  | cons piece tail ih => exact ih greedy.2.2

section Bracketing

theorem digits_plain {digits : Text} (group : Text.DigitGroup digits) : Nesting.Plain digits := by
  intro c member
  have digit := group.2 c member
  constructor
  · rintro rfl
    exact absurd digit (by decide)
  · rintro rfl
    exact absurd digit (by decide)

theorem blanks_plain {run : Text} (blank : Text.AllBlank run) : Nesting.Plain run := by
  intro c member
  have isBlank := blank c member
  constructor
  · rintro rfl
    exact absurd isBlank (by decide)
  · rintro rfl
    exact absurd isBlank (by decide)

theorem fraction_plain {fraction : Fraction} (valid : fraction.WellFormed) :
    Nesting.Plain fraction.spelling := by
  rw [Fraction.spelling, List.append_assoc]
  apply Nesting.plain_append (digits_plain valid.1)
  apply Nesting.plain_cons (by decide)
  exact Nesting.plain_append (digits_plain valid.2) (Nesting.plain_mark (by decide))

theorem inch_part_plain {part : InchPart} (valid : part.WellFormed) :
    Nesting.Plain part.spelling := by
  cases part with
  | whole inches => exact Nesting.plain_append (digits_plain valid.1) (Nesting.plain_mark (by decide))
  | mixed inches fraction =>
      apply Nesting.plain_append (digits_plain valid.1)
      exact Nesting.plain_cons (by decide) (fraction_plain (valid.2 fraction rfl))

theorem literal_plain {separator : Separator} {read : Literal}
    (valid : read.WellFormed separator) : Nesting.Plain read.spelling := by
  cases read with
  | feetOnly feet => exact Nesting.plain_append (digits_plain valid) (Nesting.plain_mark (by decide))
  | inchesOnly part => exact inch_part_plain valid
  | fractionOnly fraction => exact fraction_plain valid
  | feetInches feet gap part =>
      obtain ⟨group, blank, -, inches⟩ := valid
      rw [Literal.spelling, List.append_assoc]
      apply Nesting.plain_append (digits_plain group)
      apply Nesting.plain_cons (by decide)
      exact Nesting.plain_append (blanks_plain blank) (inch_part_plain inches)

mutual
theorem sound_balanced {separator : Separator} (piece : Piece) (sound : piece.Sound separator) :
    Nesting.Balanced piece.spelling := by
  cases piece with
  | literal read => exact Nesting.balanced_plain (literal_plain sound.1)
  | blanks run => exact Nesting.balanced_plain (blanks_plain sound.2)
  | plus => rfl
  | minus => rfl
  | group inner => exact Nesting.balanced_group (greedy_balanced inner sound)
theorem greedy_balanced {separator : Separator} (pieces : List Piece)
    (greedy : Greedy separator pieces) : Nesting.Balanced (spell pieces) := by
  cases pieces with
  | nil => rfl
  | cons piece rest =>
      obtain ⟨sound, -, others⟩ := greedy
      exact Nesting.balanced_append (sound_balanced piece sound) (greedy_balanced rest others)
end

mutual
theorem sound_peak {separator : Separator} (piece : Piece) (sound : piece.Sound separator)
    (opened : Nat) (behind : Text) :
    Nesting.peak opened (piece.spelling ++ behind) =
      max (opened + piece.depth) (Nesting.peak opened behind) := by
  have reached := Nesting.depth_le_peak opened behind
  cases piece with
  | literal read =>
      rw [spelling, depth, Nesting.peak_plain opened behind (literal_plain sound.1)]
      omega
  | blanks run =>
      rw [spelling, depth, Nesting.peak_plain opened behind (blanks_plain sound.2)]
      omega
  | plus =>
      rw [spelling, depth, Nesting.peak_plain opened behind
        (Nesting.plain_mark (by decide))]
      omega
  | minus =>
      rw [spelling, depth, Nesting.peak_plain opened behind
        (Nesting.plain_mark (by decide))]
      omega
  | group inner =>
      have inside := greedy_peak inner sound (opened + 1) (')' :: behind)
      rw [Nesting.peak_close] at inside
      have spelled : (group inner).spelling ++ behind = '(' :: (spell inner ++ ')' :: behind) := by
        simp [spelling]
      rw [spelled, Nesting.peak_open, inside, depth]
      omega
theorem greedy_peak {separator : Separator} (pieces : List Piece)
    (greedy : Greedy separator pieces) (opened : Nat) (behind : Text) :
    Nesting.peak opened (spell pieces ++ behind) =
      max (opened + deepest pieces) (Nesting.peak opened behind) := by
  cases pieces with
  | nil =>
      have reached := Nesting.depth_le_peak opened behind
      simp only [spell, deepest, List.nil_append]
      omega
  | cons piece rest =>
      obtain ⟨sound, -, others⟩ := greedy
      rw [spell, deepest, List.append_assoc, sound_peak piece sound,
        greedy_peak rest others opened behind]
      omega
end

theorem greedy_excess {separator : Separator} {pieces : List Piece}
    (greedy : Greedy separator pieces) :
    Nesting.excess (spell pieces) = none ↔ deepest pieces ≤ Nesting.maxDepth := by
  have reached := greedy_peak pieces greedy 0 []
  rw [List.append_nil, Nesting.peak] at reached
  rw [Nesting.excess_none_iff, reached]
  omega

end Bracketing

theorem sound_lexeme {separator : Separator} {piece : Piece} (sound : piece.Sound separator) :
    piece.lexeme.WellFormed separator := by
  cases piece with
  | literal read => exact sound.1
  | blanks run => exact sound
  | plus => trivial
  | minus => trivial
  | group inner => exact greedy_balanced inner sound

theorem sound_spelling {separator : Separator} {piece : Piece} (sound : piece.Sound separator) :
    ∃ c tail, piece.spelling = c :: tail := by
  cases piece with
  | literal read =>
      obtain ⟨digit, tail, same, -⟩ := Literal.spelling_front sound.1
      exact ⟨digit, tail, same⟩
  | blanks run =>
      cases run with
      | nil => exact absurd rfl sound.1
      | cons c tail => exact ⟨c, tail, rfl⟩
  | plus => exact ⟨'+', [], rfl⟩
  | minus => exact ⟨'-', [], rfl⟩
  | group inner => exact ⟨'(', spell inner ++ [')'], rfl⟩

mutual
theorem sound_token {separator : Separator} (piece : Piece) (sound : piece.Sound separator)
    (position : Nat) :
    Token.ofLexeme separator position piece.lexeme = .ok (piece.token position) := by
  cases piece with
  | literal read =>
      have resolved : read.resolve = .ok read.worth := Literal.resolve_iff.mpr ⟨sound.2, rfl⟩
      simp only [lexeme, token, Token.ofLexeme, Token.ofLiteral, resolved]
  | blanks run => rfl
  | plus => rfl
  | minus => rfl
  | group inner =>
      simp only [lexeme, token, Token.ofLexeme, greedy_scan inner sound (position + 1)]
      rfl
theorem greedy_scan {separator : Separator} (pieces : List Piece)
    (greedy : Greedy separator pieces) (position : Nat) :
    Token.scan separator position (spell pieces) = .ok (tokens position pieces) := by
  cases pieces with
  | nil => exact Token.scan_nil separator position
  | cons piece rest =>
      obtain ⟨sound, ends, others⟩ := greedy
      obtain ⟨c, tail, same⟩ := sound_spelling sound
      have spelled : spell (piece :: rest) = c :: (tail ++ spell rest) := by
        rw [spell, same, List.cons_append]
      have front : c :: (tail ++ spell rest) = piece.lexeme.spelling ++ spell rest := by
        rw [lexeme_spelling, same, List.cons_append]
      have read := Lexeme.read_iff.mpr ⟨front, sound_lexeme sound, ends⟩
      rw [spelled, Token.scan_lexeme position read, sound_token piece sound position,
        lexeme_spelling]
      have behind := greedy_scan rest others (position + piece.spelling.length)
      simp only [bind, Except.bind, behind, pure, Except.pure, tokens]
end

-- What a scan makes of a text is what its pieces make.
def Cut (separator : Separator) (position : Nat) (cs : Text) (found : List Token) : Prop :=
  ∃ pieces, Greedy separator pieces ∧ spell pieces = cs ∧ found = tokens position pieces

theorem lexeme_piece {separator : Separator} {position : Nat} {lexeme : Lexeme} {made : Token}
    (valid : lexeme.WellFormed separator)
    (inside : ∀ inner nodes, lexeme = .group inner →
      Token.scan separator (position + 1) inner = .ok nodes →
        Cut separator (position + 1) inner nodes)
    (token : Token.ofLexeme separator position lexeme = .ok made) :
    ∃ piece : Piece, piece.Sound separator ∧ lexeme = piece.lexeme ∧ made = piece.token position := by
  cases lexeme with
  | literal read =>
      simp only [Token.ofLexeme, Token.ofLiteral] at token
      split at token
      · simp at token
      · rename_i value resolved
        obtain ⟨valued, rfl⟩ := Literal.resolve_iff.mp resolved
        exact ⟨.literal read, ⟨valid, valued⟩, rfl, (Except.ok.inj token).symm⟩
  | blanks run => exact ⟨.blanks run, valid, rfl, (Except.ok.inj token).symm⟩
  | plus => exact ⟨.plus, trivial, rfl, (Except.ok.inj token).symm⟩
  | minus => exact ⟨.minus, trivial, rfl, (Except.ok.inj token).symm⟩
  | group inner =>
      rw [Token.ofLexeme] at token
      cases scanned : Token.scan separator (position + 1) inner with
      | error cause =>
          rw [scanned] at token
          exact absurd token nofun
      | ok nodes =>
          rw [scanned] at token
          obtain ⟨pieces, greedy, rfl, rfl⟩ := inside inner nodes rfl scanned
          exact ⟨.group pieces, greedy, rfl, (Except.ok.inj token).symm⟩

-- The lexeme in front gives the first piece. What a group holds and what stands behind the lexeme
-- are shorter texts.
theorem scan_pieces {separator : Separator} : ∀ (position : Nat) (cs : Text) (found : List Token),
    Token.scan separator position cs = .ok found → Cut separator position cs found
  | position, [], found, scanned => by
      rw [Token.scan_nil] at scanned
      exact ⟨[], trivial, rfl, (Except.ok.inj scanned).symm⟩
  | position, c :: tail, found, scanned => by
      cases read : Lexeme.read separator c tail with
      | error cause =>
          rw [Token.scan_stuck position read] at scanned
          simp at scanned
      | ok cut =>
          obtain ⟨lexeme, after⟩ := cut
          obtain ⟨front, valid, ends⟩ := Lexeme.read_iff.mp read
          rw [Token.scan_lexeme position read] at scanned
          cases made : Token.ofLexeme separator position lexeme with
          | error cause => simp [made, bind, Except.bind] at scanned
          | ok token =>
              cases behind : Token.scan separator (position + lexeme.spelling.length) after with
              | error cause => simp [made, behind, bind, Except.bind] at scanned
              | ok others =>
                  simp only [made, behind, bind, Except.bind, pure, Except.pure,
                    Except.ok.injEq] at scanned
                  subst scanned
                  obtain ⟨rest, greedyRest, rfl, rfl⟩ := scan_pieces _ after others behind
                  obtain ⟨piece, sound, rfl, rfl⟩ := lexeme_piece valid
                    (fun inner nodes same inside => scan_pieces _ inner nodes inside) made
                  refine ⟨piece :: rest, ⟨sound, ends, greedyRest⟩, ?_, ?_⟩
                  · rw [front, spell, lexeme_spelling]
                  · rw [tokens, lexeme_spelling]
termination_by _ cs => cs.length
decreasing_by
  · exact Lexeme.read_shorter read
  · subst same
    exact Lexeme.read_group_shorter read

theorem tokenize_iff {separator : Separator} {text : Text} {found : List Token} :
    tokenize separator text = .ok found ↔
      ∃ pieces, Greedy separator pieces ∧ deepest pieces ≤ Nesting.maxDepth ∧
        spell pieces = text ∧ found = tokens 0 pieces := by
  constructor
  · intro scanned
    unfold tokenize at scanned
    split at scanned
    · simp at scanned
    · rename_i shallow
      obtain ⟨pieces, greedy, rfl, same⟩ := scan_pieces 0 text found scanned
      exact ⟨pieces, greedy, (greedy_excess greedy).mp shallow, rfl, same⟩
  · rintro ⟨pieces, greedy, shallow, rfl, rfl⟩
    rw [tokenize, (greedy_excess greedy).mpr shallow]
    exact greedy_scan pieces greedy 0

end Piece

end TapeMeasure
