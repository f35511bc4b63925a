import TapeMeasure.Proofs.Token.Front

/- The two separators read the same texts. Where blanks are required, feet with inches directly
   behind them are two literals instead of one, and nothing else changes: the pieces of a text
   under one separator are those under the other with such literals taken apart. -/
set_option autoImplicit false

namespace TapeMeasure

namespace Literal

-- Feet and inches with nothing between them.
def Tight : Literal → Prop
  | .feetInches _ gap _ => gap = []
  | _ => False

def separate : Literal → List Literal
  | .feetInches feet [] part => [.feetOnly feet, .inchesOnly part]
  | read => [read]

theorem separate_loose {read : Literal} (loose : ¬ read.Tight) : read.separate = [read] := by
  cases read with
  | feetInches feet gap part =>
      cases gap with
      | nil => exact absurd rfl loose
      | cons c rest => rfl
  | _ => rfl

theorem tight_form {read : Literal} (tight : read.Tight) :
    ∃ feet part, read = .feetInches feet [] part := by
  cases read with
  | feetInches feet gap part =>
      obtain rfl : gap = [] := tight
      exact ⟨feet, part, rfl⟩
  | _ => exact absurd tight id

theorem required_well_formed {read : Literal} (valid : read.WellFormed .optional)
    (loose : ¬ read.Tight) : read.WellFormed .required := by
  cases read with
  | feetInches feet gap part =>
      obtain ⟨group, blank, -, inches⟩ := valid
      refine ⟨group, blank, ?_, inches⟩
      cases gap with
      | nil => exact absurd rfl loose
      | cons c rest => rfl
  | _ => exact valid

theorem optional_well_formed {read : Literal} (valid : read.WellFormed .required) :
    read.WellFormed .optional := by
  cases read with
  | feetInches feet gap part =>
      obtain ⟨group, blank, -, inches⟩ := valid
      exact ⟨group, blank, rfl, inches⟩
  | _ => exact valid

theorem read_inches_required {cs : Text} (absent : readInches .optional cs = none) :
    readInches .required cs = none := by
  cases found : readInches .required cs with
  | none => rfl
  | some cut =>
      obtain ⟨gap, part, rest⟩ := cut
      obtain ⟨spelled, blank, -, valid⟩ := read_inches_iff.mp found
      have also : readInches .optional cs = some (gap, part, rest) :=
        read_inches_iff.mpr ⟨spelled, blank, rfl, valid⟩
      rw [absent] at also
      exact absurd also nofun

theorem ends_before_required {read : Literal} {rest : Text}
    (ends : read.EndsBefore .optional rest) : read.EndsBefore .required rest := by
  cases read with
  | feetOnly feet => exact read_inches_required ends
  | _ => trivial

-- Inches that follow directly are not read together with the feet, if a blank is required.
theorem read_inches_tight {digit : Char} {rest : Text} (isDigit : digit.isDigit = true) :
    readInches .required (digit :: rest) = none := by
  have nothing : Text.takeBlanks (digit :: rest) = ([], digit :: rest) :=
    Text.take_blanks_iff.mpr ⟨rfl, nofun, Text.digit_not_blank digit isDigit⟩
  simp only [readInches, nothing]
  rfl

end Literal

namespace Piece

mutual
def separate : Piece → List Piece
  | .literal read => read.separate.map .literal
  | .blanks run => [.blanks run]
  | .plus => [.plus]
  | .minus => [.minus]
  | .group inner => [.group (separateAll inner)]
def separateAll : List Piece → List Piece
  | [] => []
  | piece :: rest => piece.separate ++ separateAll rest
end

-- Some literal is tight, at any depth.
mutual
def Tight : Piece → Prop
  | .literal read => read.Tight
  | .blanks _ | .plus | .minus => False
  | .group inner => TightLevel inner
def TightLevel : List Piece → Prop
  | [] => False
  | piece :: rest => piece.Tight ∨ TightLevel rest
end

mutual
theorem separate_loose (piece : Piece) (loose : ¬ piece.Tight) : piece.separate = [piece] := by
  cases piece with
  | literal read => rw [separate, Literal.separate_loose loose, List.map_singleton]
  | group inner => rw [separate, separate_all_loose inner loose]
  | _ => rfl
theorem separate_all_loose (pieces : List Piece) (loose : ¬ TightLevel pieces) :
    separateAll pieces = pieces := by
  cases pieces with
  | nil => rfl
  | cons piece rest =>
      have first : ¬ piece.Tight := fun tight => loose (Or.inl tight)
      have others : ¬ TightLevel rest := fun tight => loose (Or.inr tight)
      rw [separateAll, separate_loose piece first, separate_all_loose rest others]
      rfl
end

theorem separate_tight_literal (feet : Text) (part : InchPart) :
    (Piece.literal (.feetInches feet [] part)).separate =
      [.literal (.feetOnly feet), .literal (.inchesOnly part)] := rfl

mutual
theorem separate_spell (piece : Piece) : spell piece.separate = piece.spelling := by
  cases piece with
  | literal read =>
      by_cases tight : read.Tight
      · obtain ⟨feet, part, rfl⟩ := Literal.tight_form tight
        rw [separate_tight_literal]
        simp [spell, spelling, Literal.spelling]
      · rw [separate_loose (.literal read) tight, spell, spell, List.append_nil]
  | group inner => rw [separate, spell, spell, spelling, spelling, separate_all_spell inner,
      List.append_nil]
  | _ => simp [separate, spell]
theorem separate_all_spell (pieces : List Piece) : spell (separateAll pieces) = spell pieces := by
  cases pieces with
  | nil => rfl
  | cons piece rest =>
      rw [separateAll, spell_append, separate_spell piece, separate_all_spell rest, spell]
end

mutual
theorem separate_deepest (piece : Piece) : deepest piece.separate = piece.depth := by
  cases piece with
  | literal read =>
      by_cases tight : read.Tight
      · obtain ⟨feet, part, rfl⟩ := Literal.tight_form tight
        rfl
      · rw [separate_loose (.literal read) tight]
        rfl
  | group inner =>
      rw [separate, deepest, depth, separate_all_deepest inner, deepest, depth]
      omega
  | _ => rfl
theorem separate_all_deepest (pieces : List Piece) :
    deepest (separateAll pieces) = deepest pieces := by
  cases pieces with
  | nil => rfl
  | cons piece rest =>
      rw [separateAll, deepest_append, separate_deepest piece, separate_all_deepest rest, deepest]
end

mutual
theorem separate_greedy (piece : Piece) (sound : piece.Sound .optional) (rest : List Piece)
    (ends : piece.lexeme.EndsBefore .optional (spell rest)) (greedy : Greedy .required rest) :
    Greedy .required (piece.separate ++ rest) := by
  cases piece with
  | literal read =>
      obtain ⟨valid, valued⟩ := sound
      by_cases tight : read.Tight
      · obtain ⟨feet, part, rfl⟩ := Literal.tight_form tight
        obtain ⟨group, -, -, inches⟩ := valid
        obtain ⟨feetValued, inchesValued⟩ := Literal.feet_inches_value.mp valued
        obtain ⟨digit, tail, same, isDigit⟩ := InchPart.spelling_front inches
        have apart : Literal.readInches .required (spell (.literal (.inchesOnly part) :: rest)) =
            none := by
          rw [spell, spelling, Literal.spelling, same, List.cons_append]
          exact Literal.read_inches_tight isDigit
        exact ⟨⟨group, feetValued⟩, apart, ⟨inches, inchesValued⟩, trivial, greedy⟩
      · rw [separate_loose (.literal read) tight]
        exact ⟨⟨Literal.required_well_formed valid tight, valued⟩,
          Literal.ends_before_required ends, greedy⟩
  | blanks run => exact ⟨sound, ends, greedy⟩
  | plus => exact ⟨trivial, trivial, greedy⟩
  | minus => exact ⟨trivial, trivial, greedy⟩
  | group inner => exact ⟨separate_all_greedy inner sound, trivial, greedy⟩
theorem separate_all_greedy (pieces : List Piece) (greedy : Greedy .optional pieces) :
    Greedy .required (separateAll pieces) := by
  cases pieces with
  | nil => trivial
  | cons piece rest =>
      obtain ⟨sound, ends, others⟩ := greedy
      rw [← separate_all_spell rest] at ends
      exact separate_greedy piece sound _ ends (separate_all_greedy rest others)
end

theorem tokenize_separate {text : Text} {pieces : List Piece} (greedy : Greedy .optional pieces)
    (shallow : deepest pieces ≤ Nesting.maxDepth) (spelled : spell pieces = text) :
    tokenize .required text = .ok (tokens 0 (separateAll pieces)) := by
  refine tokenize_iff.mpr ⟨separateAll pieces, separate_all_greedy pieces greedy, ?_, ?_, rfl⟩
  · rw [separate_all_deepest]
    exact shallow
  · rw [separate_all_spell]
    exact spelled

-- What a blank would have had to separate: the next piece is the inches.
theorem inches_follow {pieces : List Piece} {gap behind : Text} {part : InchPart}
    (greedy : Greedy .required pieces)
    (found : Literal.readInches .optional (spell pieces) = some (gap, part, behind))
    (absent : Literal.readInches .required (spell pieces) = none) :
    gap = [] ∧ ∃ rest, pieces = .literal (.inchesOnly part) :: rest := by
  obtain ⟨spelled, blank, -, valid⟩ := Literal.read_inches_iff.mp found
  cases gap with
  | cons c run =>
      have also : Literal.readInches .required (spell pieces) = some (c :: run, part, behind) :=
        Literal.read_inches_iff.mpr ⟨spelled, blank, rfl, valid⟩
      rw [absent] at also
      exact absurd also nofun
  | nil =>
      rw [List.nil_append] at spelled
      obtain ⟨rest, same, -⟩ := front_inches greedy spelled valid
      exact ⟨rfl, rest, same⟩

-- The same text in pieces of the other separator.
def Rejoined (pieces : List Piece) : Prop :=
  ∃ joined, Greedy .optional joined ∧ spell joined = spell pieces ∧
    deepest joined = deepest pieces

theorem rejoined_cons (other : Piece) {piece : Piece} {rest : List Piece}
    (sound : other.Sound .optional) (same : other.spelling = piece.spelling)
    (deep : other.depth = piece.depth)
    (ends : other.lexeme.EndsBefore .optional (spell rest)) (others : Rejoined rest) :
    Rejoined (piece :: rest) := by
  obtain ⟨joined, greedy, spelled, deepRest⟩ := others
  refine ⟨other :: joined, ⟨sound, ?_, greedy⟩, ?_, ?_⟩
  · rw [spelled]
    exact ends
  · rw [spell, spell, same, spelled]
  · rw [deepest, deepest, deep, deepRest]

theorem rejoined_pair {feet : Text} {part : InchPart} {rest : List Piece}
    (first : (Piece.literal (.feetOnly feet)).Sound .required)
    (second : (Piece.literal (.inchesOnly part)).Sound .required) (others : Rejoined rest) :
    Rejoined (.literal (.feetOnly feet) :: .literal (.inchesOnly part) :: rest) := by
  obtain ⟨joined, greedy, spelled, deepRest⟩ := others
  have valued : (Literal.feetInches feet [] part).HasValue :=
    Literal.feet_inches_value.mpr ⟨first.2, second.2⟩
  refine ⟨.literal (.feetInches feet [] part) :: joined,
    ⟨⟨⟨first.1, nofun, rfl, second.1⟩, valued⟩, trivial, greedy⟩, ?_, ?_⟩
  · simp [spell, spelling, Literal.spelling, spelled]
  · simp [deepest, depth, deepRest]

theorem rejoin (pieces : List Piece) (greedy : Greedy .required pieces) : Rejoined pieces := by
  cases pieces with
  | nil => exact ⟨[], trivial, rfl, rfl⟩
  | cons piece rest =>
      obtain ⟨sound, ends, others⟩ := greedy
      cases piece with
      | blanks run => exact rejoined_cons (.blanks run) sound rfl rfl ends (rejoin rest others)
      | plus => exact rejoined_cons .plus trivial rfl rfl trivial (rejoin rest others)
      | minus => exact rejoined_cons .minus trivial rfl rfl trivial (rejoin rest others)
      | group inner =>
          obtain ⟨joined, inside, spelled, deep⟩ := rejoin inner sound
          have same : (Piece.group joined).spelling = (Piece.group inner).spelling := by
            rw [spelling, spelling, spelled]
          have level : (Piece.group joined).depth = (Piece.group inner).depth := by
            rw [depth, depth, deep]
          exact rejoined_cons (.group joined) inside same level trivial (rejoin rest others)
      | literal read =>
          have optional : (Piece.literal read).Sound .optional :=
            ⟨Literal.optional_well_formed sound.1, sound.2⟩
          cases read with
          | feetOnly feet =>
              cases found : Literal.readInches .optional (spell rest) with
              | none => exact rejoined_cons (.literal _) optional rfl rfl found (rejoin rest others)
              | some cut =>
                  obtain ⟨gap, part, behind⟩ := cut
                  obtain ⟨-, tail, same⟩ := inches_follow others found ends
                  cases rest with
                  | nil => exact absurd same nofun
                  | cons next after =>
                      obtain ⟨rfl, rfl⟩ := List.cons.inj same
                      exact rejoined_pair sound others.1 (rejoin after others.2.2)
          | inchesOnly part => exact rejoined_cons (.literal _) optional rfl rfl trivial (rejoin rest others)
          | fractionOnly fraction =>
              exact rejoined_cons (.literal _) optional rfl rfl trivial (rejoin rest others)
          | feetInches feet gap part =>
              exact rejoined_cons (.literal _) optional rfl rfl trivial (rejoin rest others)

end Piece

end TapeMeasure
