import TapeMeasure.Proofs.Token.Layout
import TapeMeasure.Proofs.Token.Tidy

/- The one way to divide a text into tokens. There may be many trees of tokens whose rows spell a
   text without a gap, each token by the rule of its kind. Only one of them is tidy in every row,
   and that is the tree that a scan gives. -/
set_option autoImplicit false

namespace TapeMeasure

namespace Token

def kinds (row : List Token) : List Kind := row.map fun token => token.label.kind

-- The whole text of the token is read by the rule of its kind, and the token holds what comes of
-- that. The rule for a group is that the tokens inside stand without a gap between the brackets.
inductive Matches (separator : Separator) : Token → Prop where
  | literal (position : Int) {read : Literal} {value : Length} (valid : read.WellFormed separator)
      (resolved : read.resolve = .ok value) :
      Matches separator ⟨⟨read.kind, position, read.spelling⟩, some value, []⟩
  | blanks (position : Int) {run : Text} (some : run ≠ []) (blank : Text.AllBlank run) :
      Matches separator ⟨⟨.whitespace, position, run⟩, none, []⟩
  | plus (position : Int) : Matches separator ⟨⟨.plus, position, ['+']⟩, none, []⟩
  | minus (position : Int) : Matches separator ⟨⟨.minus, position, ['-']⟩, none, []⟩
  | group {position : Int} {nodes : List Token} (placed : Placed (position + 1) nodes) :
      Matches separator ⟨⟨.paren, position, '(' :: spell nodes ++ [')']⟩, none, nodes⟩

structure Fits (separator : Separator) (token : Token) : Prop where
  matched : token.Matches separator
  tidy : Kind.Tidy separator (kinds token.nodes)

structure Canonical (separator : Separator) (text : Text) (tokens : List Token) : Prop where
  spelled : spell tokens = text
  placed : Placed 0 tokens
  tidy : Kind.Tidy separator (kinds tokens)
  fits : ∀ token, Occurs token tokens → token.Fits separator

theorem placed_cons {start : Int} {first : Token} {rest : List Token}
    (placed : Placed start (first :: rest)) :
    first.label.position = start ∧ Placed (start + first.label.text.length) rest := by
  constructor
  · have place := placed [] first rest rfl
    simpa [spell] using place
  · rintro front token behind rfl
    have place := placed (first :: front) token behind rfl
    rw [place, spell, List.length_append, Int.natCast_add, Int.add_assoc]

end Token

namespace Piece

theorem kinds_tokens (position : Nat) (pieces : List Piece) :
    Token.kinds (tokens position pieces) = pieces.map kind := by
  induction pieces generalizing position with
  | nil => rfl
  | cons piece rest ih =>
      have first : (piece.token position).label.kind = piece.kind := by
        cases piece with
        | group inner => rw [token, Token.group, kind]
        | _ => rfl
      have others := ih (position + piece.spelling.length)
      rw [tokens, Token.kinds, List.map_cons, List.map_cons, first]
      exact congrArg (piece.kind :: ·) others

theorem sound_matches {separator : Separator} {piece : Piece} (sound : piece.Sound separator)
    (position : Nat) : (piece.token position).Matches separator := by
  cases piece with
  | literal read =>
      exact .literal _ sound.1 (Literal.resolve_iff.mpr ⟨sound.2, rfl⟩)
  | blanks run => exact .blanks _ sound.1 sound.2
  | plus => exact .plus _
  | minus => exact .minus _
  | group inner =>
      have placed := tokens_placed (position + 1) inner
      rw [token, Token.group, ← spell_tokens (position + 1) inner]
      exact .group placed

theorem sound_fits {separator : Separator} {piece : Piece} (sound : piece.Sound separator)
    (position : Nat) : (piece.token position).Fits separator := by
  refine ⟨sound_matches sound position, ?_⟩
  cases piece with
  | group inner =>
      rw [group_nodes, kinds_tokens]
      exact (greedy_iff_tidy.mp sound).2
  | _ => exact Kind.tidy_nil separator

theorem greedy_canonical {separator : Separator} {pieces : List Piece}
    (greedy : Greedy separator pieces) :
    Token.Canonical separator (spell pieces) (tokens 0 pieces) := by
  constructor
  case spelled => exact spell_tokens 0 pieces
  case placed => exact tokens_placed 0 pieces
  case tidy =>
    rw [kinds_tokens]
    exact (greedy_iff_tidy.mp greedy).2
  case fits =>
    intro found occurs
    have whole : Text.HasAt (spell pieces) (0 : Nat) (spell pieces) := ⟨[], [], by simp, rfl⟩
    obtain ⟨place, piece, sound, rfl, -⟩ := occurs_piece occurs 0 pieces rfl greedy whole
    exact sound_fits sound place

-- The pieces of a tree that fits are found row by row, and inside a group before the group itself.
mutual
theorem fits_piece {separator : Separator} (found : Token) (fits : found.Fits separator)
    (inside : ∀ other : Token, other.Occurs found.nodes → other.Fits separator)
    (position : Nat) (place : found.label.position = position) :
    ∃ piece : Piece, piece.Sound separator ∧ found = piece.token position := by
  cases fits.matched with
  | @literal start read value valid resolved =>
      obtain ⟨valued, rfl⟩ := Literal.resolve_iff.mp resolved
      obtain rfl : start = position := place
      exact ⟨.literal read, ⟨valid, valued⟩, rfl⟩
  | @blanks start run some blank =>
      obtain rfl : start = position := place
      exact ⟨.blanks run, ⟨some, blank⟩, rfl⟩
  | plus start =>
      obtain rfl : start = position := place
      exact ⟨.plus, trivial, rfl⟩
  | minus start =>
      obtain rfl : start = position := place
      exact ⟨.minus, trivial, rfl⟩
  | @group start nodes placed =>
      obtain rfl : start = position := place
      obtain ⟨inner, greedy, same⟩ := fits_row nodes inside fits.tidy (position + 1) placed
      refine ⟨.group inner, greedy, ?_⟩
      rw [token, Token.group, ← spell_tokens (position + 1) inner, ← same]
theorem fits_row {separator : Separator} (row : List Token)
    (fits : ∀ token : Token, token.Occurs row → token.Fits separator)
    (tidy : Kind.Tidy separator (Token.kinds row)) (position : Nat)
    (placed : Token.Placed position row) :
    ∃ pieces, Greedy separator pieces ∧ row = tokens position pieces := by
  cases row with
  | nil => exact ⟨[], trivial, rfl⟩
  | cons first rest =>
      have inside (other : Token) (occurs : other.Occurs first.nodes) : other.Fits separator :=
        fits other (.inside List.mem_cons_self occurs)
      have later (other : Token) (occurs : other.Occurs rest) : other.Fits separator :=
        fits other (Token.occurs_cons.mpr (Or.inr occurs))
      obtain ⟨place, behind⟩ := Token.placed_cons placed
      obtain ⟨piece, sound, rfl⟩ :=
        fits_piece first (fits first (.here List.mem_cons_self)) inside position place
      rw [token_text] at behind
      obtain ⟨others, greedy, rfl⟩ :=
        fits_row rest later (Kind.tidy_behind tidy) (position + piece.spelling.length) behind
      have row := kinds_tokens position (piece :: others)
      rw [tokens] at row
      rw [row] at tidy
      exact ⟨piece :: others, ⟨sound, tidy_ends greedy tidy, greedy⟩, rfl⟩
end

end Piece

namespace Token

theorem canonical_iff_scan {separator : Separator} {text : Text} {tokens : List Token} :
    Canonical separator text tokens ↔ scan separator 0 text = .ok tokens := by
  constructor
  · intro canonical
    obtain ⟨pieces, greedy, rfl⟩ :=
      Piece.fits_row tokens canonical.fits canonical.tidy 0 canonical.placed
    have spelled := canonical.spelled
    rw [Piece.spell_tokens] at spelled
    rw [← spelled]
    exact Piece.greedy_scan pieces greedy 0
  · intro scanned
    obtain ⟨pieces, greedy, rfl, rfl⟩ := Piece.scan_pieces 0 text tokens scanned
    exact Piece.greedy_canonical greedy

end Token

theorem tokenize_scan {separator : Separator} {text : Text} {tokens : List Token} :
    tokenize separator text = .ok tokens ↔
      Token.scan separator 0 text = .ok tokens ∧ Nesting.peak 0 text ≤ Nesting.maxDepth := by
  rw [tokenize, ← Nesting.excess_none_iff]
  cases Nesting.excess text with
  | none => exact ⟨fun scanned => ⟨scanned, rfl⟩, fun both => both.1⟩
  | some found =>
      constructor
      · intro scanned
        cases scanned
      · intro both
        cases both.2

-- The limit on open brackets is all that can keep the canonical tree from being returned.
theorem tokenize_iff_canonical (separator : Separator) (text : Text) :
    (∀ tokens, tokenize separator text = .ok tokens ↔
      Token.Canonical separator text tokens ∧ Nesting.peak 0 text ≤ Nesting.maxDepth) ∧
    ∀ tokens others, Token.Canonical separator text tokens →
      Token.Canonical separator text others → others = tokens := by
  constructor
  · intro tokens
    rw [Token.canonical_iff_scan]
    exact tokenize_scan
  · intro tokens others canonical another
    rw [Token.canonical_iff_scan] at canonical another
    exact Except.ok.inj (another.symm.trans canonical)

theorem foot_and_two_is_one_token :
    ∃ tokens, tokenize .optional "(1' 2\")".toList = .ok tokens ∧
      Token.Canonical .optional "(1' 2\")".toList tokens ∧
      ∀ others, Token.Canonical .optional "(1' 2\")".toList others → others = tokens := by
  have valid : Literal.WellFormed .optional (.feetInches ['1'] [' '] (.whole ['2'])) :=
    ⟨by decide, Text.space_blank, rfl, by decide, nofun⟩
  have greedy : Piece.Greedy .optional
      [.group [.literal (.feetInches ['1'] [' '] (.whole ['2']))]] :=
    ⟨⟨⟨valid, by decide, nofun⟩, trivial, trivial⟩, trivial, trivial⟩
  have scanned : tokenize .optional "(1' 2\")".toList = .ok (Piece.tokens 0 _) :=
    Piece.tokenize_iff.mpr ⟨_, greedy, by decide, rfl, rfl⟩
  obtain ⟨returned, only⟩ := tokenize_iff_canonical .optional "(1' 2\")".toList
  obtain ⟨canonical, -⟩ := (returned _).mp scanned
  exact ⟨_, scanned, canonical, fun others => only _ others canonical⟩

end TapeMeasure
